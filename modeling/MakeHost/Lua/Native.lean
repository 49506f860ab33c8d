import MakeHost.DefineBlock
import MakeHost.Host.Export
import MakeHost.Host.Facade
import MakeHost.Lua.Conversion

/-!
# Functions that programs call

`print`, and the members of the `make` module. They run code themselves, for the text of a value or
an entry of a table, so they are written against a `Runner`. Code that runs calls them in turn,
within one another as deep as the library allows (`Library.run`).
-/

namespace MakeHost.Lua

variable {σ α : Type}

/-- Runs code of an interpreter. -/
abbrev Runner (σ : Type) := Nat → Running σ → Script σ (List Value)

section Members

variable (lua : Library σ) (run : Runner σ) (i : Nat)

/-! ## Values of programs -/

/-- The value that code comes to. -/
def valueOf (code : Running σ) : Script σ Value := firstOf <$> run i code

/-- The value that code comes to, converted. -/
def convertedValue (convert : Value → Except Error α) (code : Running σ) : Script σ α := do
  liftM (convert (← valueOf run i code))

/-- The text that `tostring` gives a value. -/
def display (v : Value) : Script σ Text := do
  let globals := lua.globals (← ExceptT.lift outside) i
  let tostring ← convertedValue run i Value.toFunction (lua.get globals (.ofText "tostring"))
  let shown ← convertedValue run i Value.toBytes (lua.call tostring [v])
  return Utf8.decodeLossy shown

/-- The value that make gets for a value of the interpreter. What has no text has no value. -/
def toMakeValue : Value → Action Code (Memory σ) MakeHost.Value
  | .nil => return .none
  | .bool b => return .flag b
  | v => do
    match v.bytes? with
    | some s => return .bytes s
    | none => match ← (display lua run i v).run with
      | .ok s => return .text s
      | .error _ => return .none

/-- Prints a line. -/
def print (args : List Value) : Script σ (List Value) := do
  let texts ← args.mapM (display lua run i)
  ExceptT.lift (write i (Text.join "\t" texts ++ "\n"))
  return []

/-! ## Requests of the host -/

/-- A request of the host; an error of the host is one at run time. -/
def hosted (x : Host.Attempt Code (Memory σ) α) : Script σ α :=
  ExceptT.mk do return (← x.run).mapError fun e => .runtime e.message

/-- An export; a refused one is an error at run time. -/
def exporting (x : Host.Export Code (Memory σ) Unit) : Script σ Unit :=
  ExceptT.mk do return (← x.run).mapError fun e => .runtime e.message

/-- Fails when the host is gone. -/
def checkHost : Script σ Unit := do
  unless (← ExceptT.lift Action.remembered).hostAlive do
    raise "the make bridge has been shut down"

/-- The flavor that a program asks for; a word for none is one that cannot be set. -/
def flavorOf (word : Option Text) : Flavor :=
  match word with
  | none => .recursive
  | some word => match Flavor.ofReport word with
    | .ok flavor => flavor
    | .error _ => .undefined

/-! ## Exports -/

/-- A function that a program wants exported. -/
structure ExportRequest where
  name : Text
  function : Ref
  min : Option Int
  max : Option Int
  expanded : Bool
  signature : Signature

/-- An option of an export, if the table of options has it. -/
def exportOption (convert : Value → Except Error α) (options : Ref) (name : Text) :
    Script σ (Option α) :=
  convertedValue run i (optionally convert) (lua.get options (.ofText name))

/-- The bounds in a table of options, and whether arguments are expanded. -/
def exportOptions : Option Ref → Script σ (Option Int × Option Int × Bool)
  | none => return (none, none, true)
  | some options => do
    let min ← exportOption lua run i Value.toInteger options "min_args"
    let max ← exportOption lua run i Value.toInteger options "max_args"
    let expanded ← exportOption lua run i (fun v => .ok v.truthy) options "expand"
    return (min, max, expanded.getD true)

/-- The declared parameters of a function, which are required; further arguments may follow if the
function says so. -/
def signatureOf (f : Ref) : Script σ Signature := do
  let told ← convertedValue run i Value.toTable
    (lua.call (lua.inspect i) [.function f, .ofText "u"])
  let params ← convertedValue run i Value.toCount (lua.get told (.ofText "nparams"))
  let vararg ← convertedValue run i (fun v => .ok v.truthy) (lua.get told (.ofText "isvararg"))
  return List.replicate params .required ++ if vararg then [.rest] else []

/-- What a program asks for when it exports a function. -/
def exportRequest (args : List Value) : Script σ ExportRequest := do
  let name ← textArgument args 1
  let f ← functionArgument args 2
  let options ← optionalTable args 3
  checkHost
  let (min, max, expanded) ← exportOptions lua run i options
  return ⟨name, f, min, max, expanded, ← signatureOf lua run i f⟩

/-- Exports the function that a program wants exported. -/
def ExportRequest.submit (r : ExportRequest) : Script σ Unit :=
  exporting (Host.exportResolved r.name r.min r.max (some r.signature) (.ofExpand r.expanded)
    (.script r.function i))

/-! ## Calls of the host's functions -/

/-- Runs a function that a program calls. -/
def callNative (f : Native) (args : List Value) : Script σ (List Value) :=
  match f with
  | .print => print lua run i args
  | .eval => do
    let s ← textArgument args 1
    checkHost
    hosted (Host.evaluate s)
    return []
  | .expand => do
    let s ← textArgument args 1
    checkHost
    return [.str (← hosted (Host.expandBytes s))]
  | .exportFunction => do
    let request ← exportRequest lua run i args
    request.submit i
    return []
  | .escape => do return [.ofText (DefineBlock.guarded (← textArgument args 1))]
  | .escapeFully => do return [.ofText (DefineBlock.literal (← textArgument args 1))]
  | .varGet => do
    let name ← textArgument args 1
    let default ← optionalText args 2
    let expanded := optionalFlag args 3
    checkHost
    return [.ofText (← hosted (Host.get name (default.getD []) (expanded.getD true)))]
  | .varSet => do
    let name ← textArgument args 1
    let word ← optionalText args 3
    checkHost
    let value ← ExceptT.lift (toMakeValue lua run i (argument args 2))
    hosted (Host.set name value (flavorOf word))
    return []
  | .varAppend => do
    let name ← textArgument args 1
    checkHost
    let value ← ExceptT.lift (toMakeValue lua run i (argument args 2))
    hosted (Host.append name value)
    return []
  | .varUndefine => do
    let name ← textArgument args 1
    checkHost
    hosted (Host.undefine name)
    return []
  | .varOrigin => do
    let name ← textArgument args 1
    checkHost
    return [.ofText (← hosted (Host.origin name)).word]
  | .varFlavor => do
    let name ← textArgument args 1
    checkHost
    return [.ofText (← hosted (Host.flavor name)).word]
  | .varDefined => do
    let name ← textArgument args 1
    checkHost
    return [.bool (← hosted (Host.defined name))]
  | .varField => do
    let _ ← tableArgument args 1
    let name ← textArgument args 2
    let value ← convertedValue run i Value.toText (lua.call (lua.native i .varGet) [.ofText name])
    return [.ofText value]
  | .varAssign => do
    let _ ← tableArgument args 1
    let name ← textArgument args 2
    match argument args 3 with
    | .nil => discard (run i (lua.call (lua.native i .varUndefine) [.ofText name]))
    | v => discard (run i (lua.call (lua.native i .varSet) [.ofText name, v]))
    return []

end Members

/-! ## Code that runs -/

/-- Runs code of an interpreter; `native` answers the calls of the host's functions. -/
def Running.interpret (native : Native → List Value → Script σ (List Value)) :
    Running σ → Script σ (List Value)
  | .ended result => liftM result
  | .look next => do (next (← ExceptT.lift outside)).interpret native
  | .become s next => do
    ExceptT.lift (changeOutside fun _ => s)
    next.interpret native
  | .call f args next => ExceptT.mk do
    let result ← (native f args).run
    ((next result).interpret native).run

/-- Runs code in which functions of the host may be active within one another at most so deep. -/
def Library.runWithin (lua : Library σ) : Nat → Runner σ
  | 0 => fun _ code => code.interpret fun _ _ => throw lua.overflow
  | depth + 1 => fun i code => code.interpret (callNative lua (lua.runWithin depth) i)

/-- Runs code of an interpreter. -/
def Library.run (lua : Library σ) : Runner σ := lua.runWithin lua.nesting

end MakeHost.Lua
