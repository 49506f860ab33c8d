import MakeHost.Host.Action

/-!
# A make that takes notes

An action runs here against a make that evaluates nothing: every request is written down, and
what make would expand is given beforehand, reply by reply. So the requests of an action can be
seen apart from what make does with them.
-/

namespace MakeHost

/-- A note of a request. -/
inductive Note
  | addFunction (name : Text) (min max : Nat) (policy : Policy)
  /-- So many bytes were asked for, the terminator included. -/
  | allocate (bytes : Nat)
  | release
  | evaluate (text : Text)
  | expand (text : Text)
deriving DecidableEq

/-- The notes so far, and what is left of the replies. -/
structure Transcript (κ μ : Type) where
  exports : Exports κ
  memory : μ
  /-- Notes, last one first. -/
  notes : List Note
  /-- Lines on standard error, last one first. -/
  complaints : List Text
  /-- What expansion will yield; an absent reply is no buffer. -/
  replies : List (Option Bytes)
  outOfMemory : Bool
  /-- How many buffers are in use. -/
  live : Nat
  nextBuffer : Nat

namespace Transcript

variable {κ μ : Type}

/-- Nothing has been noted yet. -/
def empty (memory : μ) : Transcript κ μ := ⟨.empty, memory, [], [], [], false, 0, 0⟩

/-- Writes a note. -/
def note (n : Note) : StateM (Transcript κ μ) Unit :=
  modify fun t => { t with notes := n :: t.notes }

/-- Takes a new buffer into use. -/
def newBuffer (content : Bytes) : StateM (Transcript κ μ) Buffer :=
  modifyGet fun t =>
    (⟨t.nextBuffer, content.upToNul⟩, { t with live := t.live + 1, nextBuffer := t.nextBuffer + 1 })

/-- The next reply, if there is one. -/
def nextReply : StateM (Transcript κ μ) (Option Bytes) :=
  modifyGet fun t => match t.replies with
    | [] => (none, t)
    | reply :: rest => (reply, { t with replies := rest })

/-- Notes and answers a request. -/
def answer : (r : Request κ μ) → StateM (Transcript κ μ) r.Answer
  | .evaluate text => note (.evaluate text)
  | .expand text => do
    note (.expand text)
    match ← nextReply with
    | none => return none
    | some content => some <$> newBuffer content
  | .allocate content => do
    note (.allocate (content.length + 1))
    if (← get).outOfMemory then return none
    some <$> newBuffer content
  | .release _ => do
    note .release
    modify fun t => { t with live := t.live - 1 }
  | .exports => do return (← get).exports
  | .enter entry => do
    modify fun t => { t with exports := t.exports.insert entry.name.text entry }
    note (.addFunction entry.name.text entry.arity.min entry.arity.rawMax entry.policy)
  | .remembered => do return (← get).memory
  | .remember memory => modify fun t => { t with memory := memory }
  | .complain line => modify fun t => { t with complaints := line :: t.complaints }

/-- Performs an action request by request. -/
def perform {α : Type} : Action κ μ α → StateM (Transcript κ μ) α
  | .done a => pure a
  | .ask r next => do
    let a ← answer r
    perform (next a)

/-- The transcript with replies of its own for what comes next, and no notes. -/
def prepare (t : Transcript κ μ) (replies : List (Option Bytes)) (outOfMemory : Bool) :
    Transcript κ μ :=
  { t with notes := [], complaints := [], replies := replies, outOfMemory := outOfMemory }

end Transcript

end MakeHost
