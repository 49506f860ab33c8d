import MakeHost.Error
import MakeHost.Text.Search

/-!
# Errors of the interpreter

An error has a root and any number of layers around it: the traceback of a callback it passed
through, or the context in which it came up. A failure is told of the root's kind; the contexts
go in front of its message, and the trace is the innermost that there is.
-/

namespace MakeHost.Lua

/-- An error of the interpreter. -/
inductive Error
  | malformed (message : Text)
  | runtime (message : Text)
  | memory (message : Text)
  /-- A callback failed, and this was the stack. -/
  | callback (traceback : Text) (cause : Error)
  | within (context : Text) (cause : Error)
  | badArgument (callee : Option Text) (position : Nat) (name : Option Text) (cause : Error)
  /-- A value of one type could not be converted to another. -/
  | conversion (source target : Text) (message : Option Text)
  /-- Any other error, with what it reports. -/
  | other (report : Text)

namespace Error

instance : Inhabited Error := ⟨other []⟩

/-- The line that opens a traceback. -/
def tracebackHeading : Text := "stack traceback:"

/-- Splits a message before its first traceback. -/
def splitTraceback (message : Text) : Text × Option Text :=
  match Text.cutFirst? ("\n" ++ tracebackHeading) message with
  | some (front, rest) => (front, some (tracebackHeading ++ rest))
  | none => (message, none)

/-- The failure that make is told of. Errors without a kind of their own are `shown` in the
interpreter's wording. -/
def toFailure (shown : Error → Text) : Error → Failure
  | malformed message => .of "SyntaxError" message
  | runtime message =>
    let (message, trace) := splitTraceback message
    ⟨"RuntimeError", message, trace⟩
  | memory message => .of "MemoryError" message
  | callback traceback cause =>
    let failure := cause.toFailure shown
    { failure with trace := some (failure.trace.getD traceback) }
  | within context cause =>
    let failure := cause.toFailure shown
    { failure with message := context ++ ": " ++ failure.message }
  | e => .of "LuaError" (shown e)

end Error

/-- Why the interpreter could not be installed or driven. -/
inductive DriverError
  | interpreter (e : Error)
  /-- A script could not be read. -/
  | script (path message : Text)
  | host (e : HostError)
  | refused (e : ExportError)

namespace DriverError

variable (shown : Error → Text)

/-- The wording of a driver error. -/
def text : DriverError → Text
  | interpreter e => "lua error: " ++ shown e
  | script path message => "cannot read script " ++ path ++ ": " ++ message
  | host e => e.message
  | refused e => e.message

/-- The failure that make is told of. -/
def toFailure : DriverError → Failure
  | interpreter e => e.toFailure shown
  | script path message => .of "IOError" (path ++ ": " ++ message)
  | host e => .ofHost e
  | refused e => .ofExport e

end DriverError

end MakeHost.Lua
