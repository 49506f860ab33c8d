import MakeHost.Host.Facade

/-!
# Answering calls

An exported function cannot raise an error in make. Every call therefore ends by writing the
error variable: it is removed after a success, and after a failure it holds the failure's text,
the call expands to nothing, the failure is shown on standard error when the traceback variable
expands to something, and make stops with it when the fatal-errors variable does.

A function may evaluate and expand text that calls further functions, to any depth.
-/

namespace MakeHost

/-- How the body of an exported function ends without a value. -/
inductive Raised
  | failure (f : Failure)
  /-- A panic, with its message if it has one. -/
  | panic (message : Option Text)

/-- The failure that a caller is told of. -/
def Raised.toFailure : Raised → Failure
  | failure f => f
  | panic message => .panicked message

/-- An action that a failure or a panic may end. -/
abbrev Body (κ μ : Type) := ExceptT Raised (Action κ μ)

/-- The names of the variables that calls read and write. -/
structure HostOptions where
  errorVariable : Text
  tracebackVariable : Text
  fatalErrorsVariable : Text

/-- The names in use where none are given. -/
def HostOptions.default : HostOptions :=
  ⟨".GNUMAKE_LAST_ERROR", ".GNUMAKE_PRINT_TRACEBACK", ".GNUMAKE_FATAL_ERRORS"⟩

/-- A host: its options, and what runs when a name is called with decoded arguments. -/
structure Host (κ μ : Type) where
  options : HostOptions
  body : κ → Text → Arguments → Body κ μ Value

namespace Host

variable {κ μ : Type}

/-- Removes the error variable. A name that make cannot be given is left alone. -/
def clearError (options : HostOptions) : Action κ μ Unit := do
  let _ ← (evaluate ("undefine " ++ options.errorVariable)).run

/-- Whether a variable expands to something. -/
def flagEnabled (variableName : Text) : Action κ μ Bool := do
  match ← (expandBytes ("$(" ++ variableName ++ ")")).run with
  | .ok value => return !value.isEmpty
  | .error _ => return false

/-- Shows a failure on standard error. -/
def showFailure (name : Text) (failure : Failure) : Action κ μ Unit := do
  Action.complain (name ++ ": " ++ failure.text)
  match failure.trace with
  | none => return
  | some trace => Action.complain trace.trimEnd

/-- The text that sets the error variable to a failure's text; NUL cannot travel in it. -/
def errorDefinition (options : HostOptions) (failure : Failure) : Text :=
  "define " ++ options.errorVariable ++ "\n" ++
    DefineBlock.literal (failure.text.filter (· ≠ '\x00')) ++ "\nendef"

/-- Stops make with the failure that was recorded if failures are to be fatal. -/
def raiseError (options : HostOptions) : Action κ μ Unit := do
  if ← flagEnabled options.fatalErrorsVariable then
    let _ ← (evaluate ("$(error $(" ++ options.errorVariable ++ "))")).run

/-- Stores a failure's text in the error variable, and stops make with it if it is to. -/
def storeError (options : HostOptions) (failure : Failure) : Action κ μ Unit := do
  match ← (evaluate (errorDefinition options failure)).run with
  | .error _ => return
  | .ok () => raiseError options

/-- Records a failed call. -/
def recordError (options : HostOptions) (name : Text) (failure : Failure) : Action κ μ Unit := do
  if ← flagEnabled options.tracebackVariable then showFailure name failure
  storeError options failure

/-- Decodes arguments from the left; the first that is no text fails the call. -/
def decodeArguments (args : List Bytes) : Except Failure Arguments :=
  args.mapM Value.decodeArgument

/-- Runs an exported function. -/
def invoke (host : Host κ μ) (f : Exported κ) (args : List Bytes) :
    Action κ μ (Except Raised Value) :=
  match decodeArguments args with
  | .error failure => return .error (.failure failure)
  | .ok args => (host.body f.code f.name.text args).run

/-- The exported function of a name that make hands over. -/
def lookup (name : Bytes) : Action κ μ (Option (Exported κ)) := do
  match Utf8.decode name with
  | .error _ => return none
  | .ok name => return (← Action.exports).get? name

/-- Hands a value to make. -/
def deliver (value : Value) : Action κ μ (Option Buffer) :=
  match value.encode? with
  | none => return none
  | some bytes => Action.allocate bytes

/-- How a call ends, before make is told of it. -/
inductive Outcome
  /-- No function is exported under the name. -/
  | unknown
  | value (v : Value)
  /-- The function of this name failed. -/
  | failed (name : Text) (failure : Failure)

/-- Runs the exported function that a call names, if there is one. -/
def outcome (host : Host κ μ) (name : Bytes) (args : List Bytes) : Action κ μ Outcome := do
  match ← lookup name with
  | none => return .unknown
  | some f => do
    match ← host.invoke f args with
    | .ok value => return .value value
    | .error raised => return .failed f.name.text raised.toFailure

/-- Tells make of an outcome: the buffer with the result, or none. -/
def settle (options : HostOptions) : Outcome → Action κ μ (Option Buffer)
  | .unknown => do
    clearError options
    return none
  | .value v => do
    let result ← deliver v
    clearError options
    return result
  | .failed name failure => do
    recordError options name failure
    return none

/-- Answers a call from make: the buffer with its result, or none. -/
def dispatch (host : Host κ μ) (name : Bytes) (args : List Bytes) :
    Action κ μ (Option Buffer) := do
  settle host.options (← host.outcome name args)

/-- Answers a call that make makes in its own text. -/
def respond (host : Host κ μ) (name : Text) (args : List Text) : Action κ μ (Option Buffer) :=
  host.dispatch name.utf8 (args.map Text.utf8)

end Host

end MakeHost
