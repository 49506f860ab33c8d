import MakeHost.DefineBlock
import MakeHost.Host.Action
import MakeHost.Make.Variable
import MakeHost.Value

/-!
# Requests of the host

Evaluation, expansion and the reading and writing of variables, as host code asks for them. A
request that cannot be made fails before make is asked for anything. Variables are reached
through make text alone, so the host sees what a makefile would see.
-/

namespace MakeHost.Host

variable {κ μ : Type}

/-- An action that a host error may end. -/
abbrev Attempt (κ μ : Type) := ExceptT HostError (Action κ μ)

/-- Where a text has its first NUL, if it has one. -/
def nulFault? (text : Text) : Option NulFault :=
  if text.contains '\x00' then some ⟨text.upToNul.byteLength⟩ else none

/-- Refuses a text with a NUL, which make would see the end of there. -/
def checkText (text : Text) : Attempt κ μ Unit :=
  match nulFault? text with
  | some fault => throw (.interiorNul fault)
  | none => pure ()

/-- Evaluates a text. -/
def evaluate (text : Text) : Attempt κ μ Unit := do
  checkText text
  ExceptT.lift (Action.evaluate text)

/-- Expands a text into bytes; without a buffer there are none. -/
def expandBytes (text : Text) : Attempt κ μ Bytes := do
  checkText text
  match ← ExceptT.lift (Action.expand text) with
  | none => return []
  | some buffer => do
    ExceptT.lift (Action.release buffer)
    return buffer.content

/-- Expands a text into text. -/
def expand (text : Text) : Attempt κ μ Text := do
  match Utf8.decode (← expandBytes text) with
  | .ok expansion => return expansion
  | .error fault => throw (.invalidUtf8 fault)

/-! ## Variables -/

/-- Refuses a name that would not stand for itself. -/
def checkName (name : Text) : Attempt κ μ Unit :=
  if isLegalVariableName name then pure () else throw (.illegalVariableName name)

/-- The origin of a variable. -/
def origin (name : Text) : Attempt κ μ Origin := do
  checkName name
  ExceptT.mk (pure (Origin.ofReport (← expand ("$(origin " ++ name ++ ")"))))

/-- The flavor of a variable. -/
def flavor (name : Text) : Attempt κ μ Flavor := do
  checkName name
  ExceptT.mk (pure (Flavor.ofReport (← expand ("$(flavor " ++ name ++ ")"))))

/-- Whether there is a variable of the name. -/
def defined (name : Text) : Attempt κ μ Bool := do
  return (← origin name) != .undefined

/-- Reads a variable, expanded or raw. The default is for a variable that is empty because it is
not there. -/
def get (name default : Text) (expanded : Bool) : Attempt κ μ Text := do
  checkName name
  let value ← expand (if expanded then "$(" ++ name ++ ")" else "$(value " ++ name ++ ")")
  if value.isEmpty && !default.isEmpty then
    return if ← defined name then value else default
  return value

/-- Assigns through a `define` block, whose text keeps its references. -/
def define (name operator : Text) (value : Value) : Attempt κ μ Unit :=
  evaluate ("define " ++ name ++ " " ++ operator ++ "\n" ++ DefineBlock.guarded value.toText ++
    "\nendef")

/-- Sets a variable with a flavor. -/
def set (name : Text) (value : Value) (flavor : Flavor) : Attempt κ μ Unit := do
  checkName name
  match flavor with
  | .recursive => define name "=" value
  | .simple => define name ":=" value
  | .undefined => throw .invalidFlavor

/-- Appends to a variable. -/
def append (name : Text) (value : Value) : Attempt κ μ Unit := do
  checkName name
  define name "+=" value

/-- Removes a variable. -/
def undefine (name : Text) : Attempt κ μ Unit := do
  checkName name
  evaluate ("undefine " ++ name)

end MakeHost.Host
