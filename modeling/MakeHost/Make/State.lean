import MakeHost.Contract
import MakeHost.Make.Variable
import MakeHost.Table

/-!
# The state of make

Variables, the functions that were installed, the fatal error that stopped evaluation if there
is one, the lines printed by `info`, the number of calls handed out, and the buffers in use.
-/

namespace MakeHost.Make

/-- A function as make recorded it: `max = 0` means any number of arguments. -/
structure Function where
  min : Nat
  max : Nat
  policy : Policy
deriving DecidableEq

/-- The state of make. -/
structure State where
  bindings : Table Variable
  functions : Table Function
  fatal : Option Text
  /-- Printed lines, last one first. -/
  printed : List Text
  calls : Nat
  /-- The identities of the buffers in use. -/
  live : List Nat
  nextBuffer : Nat

namespace State

/-- Make at its start. -/
def fresh : State := ⟨.empty, .empty, none, [], 0, [], 0⟩

/-- Whether a fatal error has stopped evaluation. -/
def stopped (s : State) : Bool := s.fatal.isSome

/-- Stops with a message; the first message stays. -/
def fail (s : State) (message : Text) : State :=
  match s.fatal with
  | some _ => s
  | none => { s with fatal := some message }

/-- Sets a variable. -/
def setVariable (s : State) (name : Text) (v : Variable) : State :=
  { s with bindings := s.bindings.insert name v }

/-- Defines a recursive variable from outside, as the command line or the environment does. -/
def define (s : State) (name value : Text) (origin : Origin) : State :=
  s.setVariable name ⟨value, .recursive, origin⟩

/-- Removes a variable; one from the command line stays. -/
def undefine (s : State) (name : Text) : State :=
  match s.bindings.get? name with
  | none => s
  | some v =>
    if v.origin = .commandLine then s else { s with bindings := s.bindings.erase name }

/-- Installs a function. A name of more than 255 bytes and a maximum below the minimum are
fatal. -/
def install (s : State) (name : Text) (min max : Nat) (policy : Policy) : State :=
  if 255 < name.byteLength then s.fail "function name too long"
  else if max ≠ 0 ∧ max < min then s.fail "invalid maximum argument count"
  else { s with functions := s.functions.insert name ⟨min, max, policy⟩ }

/-- Takes a new buffer into use. -/
def allocate (s : State) : Nat × State :=
  (s.nextBuffer, { s with live := s.nextBuffer :: s.live, nextBuffer := s.nextBuffer + 1 })

/-- Frees a buffer; one that is not in use is fatal. -/
def release (s : State) (buffer : Nat) : State :=
  if s.live.contains buffer then { s with live := s.live.erase buffer }
  else s.fail "free of a buffer make did not allocate"

/-- Prints a line. -/
def print (s : State) (line : Text) : State := { s with printed := line :: s.printed }

/-- Counts a call handed out. -/
def countCall (s : State) : State := { s with calls := s.calls + 1 }

/-- The origin of a variable. -/
def originOf (s : State) (name : Text) : Origin :=
  ((s.bindings.get? name).map (·.origin)).getD .undefined

/-- The flavor of a variable. -/
def flavorOf (s : State) (name : Text) : Flavor :=
  ((s.bindings.get? name).map (·.flavor)).getD .undefined

/-- The raw value of a variable, empty when there is none. -/
def rawValue (s : State) (name : Text) : Text :=
  ((s.bindings.get? name).map (·.value)).getD []

end State

end MakeHost.Make
