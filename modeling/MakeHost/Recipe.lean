import MakeHost.Host.Export
import MakeHost.Sample

/-!
# Functions given as data

A recipe says what an exported function does with its arguments: return one of them, fail, use
make, export another recipe, or combine recipes.
-/

namespace MakeHost

/-- What an exported function does. -/
inductive Recipe
  | join (sep : Text)
  | count
  | arg (i : Nat)
  | words
  | bytes
  | const (value : Value)
  | ownName
  /-- Shows the call context. -/
  | debug
  | fail (kind : Text) (message trace : Option Text)
  /-- Panics; `shown` says whether the payload is a text. -/
  | panic (message : Option Text) (shown : Bool)
  | parseInt
  | expand (text : Option Text)
  | evaluate (text : Option Text)
  | get (expanded : Bool)
  | set (flavor : Text)
  | append
  | undefine
  | originWord
  | flavorWord
  | defined
  | register (name : Text) (min max : Option Int) (signature : Option Signature)
      (policy : Policy) (inner : Recipe)
  | wrap (before after : Text) (inner : Recipe)
  | idle
  /-- Both in turn with the same arguments; the value is that of the second. -/
  | both (first second : Recipe)

namespace Recipe

instance : Inhabited Recipe := ⟨idle⟩

/-- Recipes in turn. -/
def sequence : List Recipe → Recipe
  | [] => idle
  | [r] => r
  | r :: rest => both r (sequence rest)

/-- What a recipe does when it is called by a name; `code` says what a recipe is exported as. -/
def body {κ μ : Type} (code : Recipe → κ) (r : Recipe) (name : Text) (args : Arguments) :
    Body κ μ Value :=
  let first := args.required 0
  let second := args.required 1
  match r with
  | join sep => return .text (Text.join sep args)
  | count => return .ofNat args.length
  | arg i => return .text (args.required i)
  | words => return .ofWords args
  | bytes => return .bytes first.utf8
  | const value => return value
  | ownName => return .text name
  | debug => return .text ("CallContext \x7b name: " ++ name.quoted ++ ", .. \x7d")
  | fail kind message trace => throw (.failure ⟨kind, message.getD first, trace⟩)
  | panic message shown => throw (.panic (if shown then some (message.getD first) else none))
  | parseInt => Sample.settled (.ofInt <$> Strings.wholeNumber first)
  | expand text => .text <$> Sample.attempt (Host.expand (text.getD first))
  | evaluate text => do
    Sample.attempt (Host.evaluate (text.getD first))
    return .none
  | get expanded => .text <$> Sample.attempt (Host.get first second expanded)
  | set word => do
    match Flavor.ofReport word with
    | .error e => throw (.failure (.ofHost e))
    | .ok flavor => Sample.attempt (Host.set first (.text second) flavor)
    return .none
  | append => do
    Sample.attempt (Host.append first (.text second))
    return .none
  | undefine => do
    Sample.attempt (Host.undefine first)
    return .none
  | originWord => (fun o => .text o.word) <$> Sample.attempt (Host.origin first)
  | flavorWord => (fun f => .text f.word) <$> Sample.attempt (Host.flavor first)
  | defined => .flag <$> Sample.attempt (Host.defined first)
  | register name min max signature policy inner => do
    match ← ExceptT.lift (Host.exportResolved name min max signature policy (code inner)).run with
    | .ok () => return .none
    | .error e => throw (.failure (.ofExport e))
  | wrap before after inner => do
    let value ← body code inner name args
    return .text (before ++ value.toText ++ after)
  | idle => return .none
  | both one two => do
    let _ ← body code one name args
    body code two name args

end Recipe

end MakeHost
