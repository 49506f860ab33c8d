import MakeHost.Host.Dispatch
import MakeHost.Library.Strings

/-!
# Sample functions

Small functions that show what an exported function can declare and return: owned and borrowed
parameters, optional and rest parameters, a call context, explicit bounds, verbatim arguments,
failures, and contracts that are refused.
-/

namespace MakeHost

/-- A sample function. -/
inductive Sample
  | greet | isEmpty | nothing | pick | pickOwned | countRest | ownedRest | rawText | wide
  | expandTwice | whoami | parseNum | checked
  | noArgs | zeroMin | negative | tooMany | inverted | badName
  | manual | add | mul
deriving DecidableEq

namespace Sample

/-- The samples that are exported one by one. -/
def listed : List Sample :=
  [greet, isEmpty, nothing, pick, pickOwned, countRest, ownedRest, rawText, wide,
    expandTwice, whoami, parseNum, checked, noArgs, zeroMin, negative, tooMany, inverted, badName]

/-- The samples that are exported together. -/
def package : List Sample := [add, mul]

/-- The contract of each sample. -/
def contract : Sample → Contract
  | greet => .plain "greet" [.required]
  | isEmpty => .plain "is-empty" [.required]
  | nothing => .plain "nothing" [.required]
  | pick => .plain "pick" [.required, .optional]
  | pickOwned => .plain "pick-owned" [.required, .optional]
  | countRest => .plain "count-rest" [.required, .rest]
  | ownedRest => .plain "owned-rest" [.rest]
  | rawText => ⟨"raw-text", [.required], none, none, .verbatim⟩
  | wide => ⟨"wide", [.required, .required, .required, .rest], some 1, some 0, .expand⟩
  | expandTwice => .plain "expand-twice" [.required]
  | whoami => .plain "whoami" [.required]
  | parseNum => .plain "parse-num" [.required]
  | checked => .plain "checked" [.required]
  | noArgs => .plain "no-args" []
  | zeroMin => ⟨"zero-min", [.optional], some 0, none, .expand⟩
  | negative => ⟨"negative", [.required], some (-1), none, .expand⟩
  | tooMany => ⟨"too-many", [.required], none, some 256, .expand⟩
  | inverted => ⟨"inverted", [.required, .required], none, some 1, .expand⟩
  | badName => .plain "bad name" [.required]
  | manual => .plain "manual" [.optional, .required, .keyword]
  | add => .plain "add" [.required, .required]
  | mul => .plain "pkg-mul" [.required, .required]

/-- The listed sample with a name. -/
def ofName? (name : Text) : Option Sample := (listed ++ [manual]).find? (·.contract.name == name)

/-- A result without requests. -/
def settled {κ μ : Type} (e : Except Failure Value) : Body κ μ Value :=
  ExceptT.mk (pure (e.mapError .failure))

/-- The result of an attempt, a host error as a failure. -/
def attempt {κ μ α : Type} (x : Host.Attempt κ μ α) : Body κ μ α :=
  ExceptT.mk do return (← x.run).mapError fun e => .failure (.ofHost e)

/-- Arithmetic on two arguments that are whole numbers of 64 bits, which wraps around. -/
def arithmetic (op : Int → Int → Int) (args : Arguments) : Except Failure Value := do
  let a ← (IntegerType.signed64.read (args.required 0)).mapError Failure.ofInteger
  let b ← (IntegerType.signed64.read (args.required 1)).mapError Failure.ofInteger
  return .ofInt (IntegerType.signed64.wrap (op a b))

/-- What a call of each sample does. -/
def body {κ μ : Type} (sample : Sample) (name : Text) (args : Arguments) : Body κ μ Value :=
  let first := args.required 0
  match sample with
  | greet => return .text ("hello " ++ first)
  | isEmpty => return .flag first.trim.isEmpty
  | nothing => return .none
  | pick => return .text (match args.optional 1 with
    | some b => first ++ "/" ++ b
    | none => first)
  | pickOwned => return match args.optional 1 with
    | some b => .text (b ++ ":" ++ first)
    | none => .none
  | countRest => return .text (first ++ ":" ++ Text.ofNat (args.rest 1).length)
  | ownedRest => return .ofWords (args.rest 0).reverse
  | rawText => return .text first
  | wide =>
    return .text ("<" ++ first ++ "><" ++ args.required 1 ++ "><" ++ args.required 2 ++ ">" ++
      Text.ofNat (args.rest 3).length)
  | expandTwice => .text <$> attempt (Host.expand first)
  | whoami => return .text name
  | parseNum => settled (.ofInt <$> Strings.wholeNumber first)
  | checked =>
    if first = "bad" then settled (.error (.value "bad input"))
    else return if first.isEmpty then .none else .text first.upper
  | manual => return .ofNat args.length
  | add => settled (arithmetic (· + ·) args)
  | mul => settled (arithmetic (· * ·) args)
  | noArgs | zeroMin | negative | tooMany | inverted | badName => return .none

end Sample

end MakeHost
