import MakeHost.Host.Action
import MakeHost.Make.State

/-!
# Make and its host together

A `World` is the state of make with the state of the host beside it, and how the two are joined.
A `Run` is a computation on a world; it has no result when the nesting of evaluations exceeds
what it was given.
-/

namespace MakeHost

/-- How calls from make reach the host. -/
inductive Link
  /-- There is no host, or it is gone. -/
  | absent
  /-- Make hands calls to the host. -/
  | attached
  /-- The host is a loaded object: make hands it the calls of names that the object gave it. -/
  | object (known : List Text)

/-- The link once make has taken a name: a loaded object knows the names that it gave. -/
def Link.take (name : Text) : Link → Link
  | object known => object (name :: known)
  | link => link

/-- A call of the C interface that a loaded object made. -/
inductive InterfaceCall
  | addFunction (name : Text) (min max : Nat) (policy : Policy)
  | eval (text : Text)
  | expand (text : Text)

/-- Make, the host, and what they share. -/
structure World (κ μ : Type) where
  make : Make.State
  exports : Exports κ
  memory : μ
  /-- Lines on standard error, last one first. -/
  complaints : List Text
  link : Link
  /-- Whether the loaded object has finished its setup. -/
  ready : Bool
  /-- Calls of the C interface, last one first. -/
  interface : List InterfaceCall

namespace World

variable {κ μ : Type}

/-- A world in which nothing has happened yet. -/
def fresh (memory : μ) (link : Link) : World κ μ := ⟨.fresh, .empty, memory, [], link, false, []⟩

/-- Notes a call of the C interface if there is one. -/
def note (w : World κ μ) (call : InterfaceCall) : World κ μ :=
  match w.link with
  | .object _ => { w with interface := call :: w.interface }
  | _ => w

/-- Enters a function among the exported ones, in place of one of the same name, and make takes
the name. -/
def enter (w : World κ μ) (entry : Exported κ) : World κ μ :=
  let min := entry.arity.min
  let max := entry.arity.rawMax
  { w.note (.addFunction entry.name.text min max entry.policy) with
    exports := w.exports.insert entry.name.text entry
    make := w.make.install entry.name.text min max entry.policy
    link := w.link.take entry.name.text }

end World

/-- A computation on a world, without a result when nesting goes too deep. -/
abbrev Run (κ μ α : Type) := StateT (World κ μ) Option α

namespace Run

variable {κ μ : Type}

/-- Nesting goes too deep. -/
def exhausted {α : Type} : Run κ μ α := fun _ => none

/-- Reads the state of make. -/
def make : Run κ μ Make.State := do return (← get).make

/-- Changes the state of make. -/
def changeMake (f : Make.State → Make.State) : Run κ μ Unit :=
  modify fun w => { w with make := f w.make }

/-- Whether a fatal error has stopped evaluation. -/
def stopped : Run κ μ Bool := do return (← make).stopped

/-- Stops make with a message. -/
def fail (message : Text) : Run κ μ Unit := changeMake (·.fail message)

/-- Notes a call of the C interface if there is one. -/
def note (call : InterfaceCall) : Run κ μ Unit := modify (·.note call)

end Run

end MakeHost
