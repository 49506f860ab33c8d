import MakeHost.Arity
import MakeHost.Contract
import MakeHost.Name
import MakeHost.Table

/-!
# Actions

What the host and the functions it exports do is an `Action`: a finite tree of requests to make
and to the host's own state, each followed by what is done with the answer. An action says
nothing of how make works, so the same action runs against a make that evaluates text and
against one that only takes notes.

`κ` is the type of what an exported name stands for, `μ` the type of what exported functions keep
between calls.
-/

namespace MakeHost

/-- A buffer allocated by make, with the bytes before its terminator. -/
structure Buffer where
  id : Nat
  content : Bytes

/-- An exported function: its name and contract, and what it stands for. -/
structure Exported (κ : Type) where
  name : FunctionName
  code : κ
  arity : Arity
  policy : Policy

/-- The exported functions by name. -/
abbrev Exports (κ : Type) := Table (Exported κ)

/-- One request. -/
inductive Request (κ μ : Type) : Type
  /-- Make evaluates a text. -/
  | evaluate (text : Text)
  /-- Make expands a text into a buffer. -/
  | expand (text : Text)
  /-- Make allocates a buffer and fills it. -/
  | allocate (content : Bytes)
  /-- Make frees a buffer. -/
  | release (buffer : Buffer)
  /-- The host looks at its exported functions. -/
  | exports
  /-- The host enters a function, in place of one of the same name, and make takes the name. -/
  | enter (entry : Exported κ)
  /-- The exported functions' memory is read. -/
  | remembered
  /-- The exported functions' memory is written. -/
  | remember (memory : μ)
  /-- A line goes to standard error. -/
  | complain (line : Text)

/-- The type of the answer to a request. -/
def Request.Answer {κ μ : Type} : Request κ μ → Type
  | .expand _ | .allocate _ => Option Buffer
  | .exports => Exports κ
  | .remembered => μ
  | _ => Unit

/-- A finite tree of requests that ends in a result. -/
inductive Action (κ μ α : Type) : Type
  | done (a : α)
  | ask (r : Request κ μ) (next : r.Answer → Action κ μ α)

namespace Action

variable {κ μ α β : Type}

/-- One action after another. -/
def bind : Action κ μ α → (α → Action κ μ β) → Action κ μ β
  | done a, f => f a
  | ask r next, f => ask r fun answer => bind (next answer) f

instance : Monad (Action κ μ) where
  pure := done
  bind := bind

theorem bind_done (x : Action κ μ α) : bind x done = x := by
  induction x with
  | done a => rfl
  | ask r next ih => exact congrArg (ask r) (funext ih)

theorem bind_bind {γ : Type} (x : Action κ μ α) (f : α → Action κ μ β) (g : β → Action κ μ γ) :
    bind (bind x f) g = bind x fun a => bind (f a) g := by
  induction x with
  | done a => rfl
  | ask r next ih => exact congrArg (ask r) (funext ih)

instance : LawfulMonad (Action κ μ) :=
  LawfulMonad.mk' (Action κ μ) bind_done (fun _ _ => rfl) bind_bind

/-- Makes one request. -/
def request (r : Request κ μ) : Action κ μ r.Answer := ask r done

/-- Make evaluates a text. -/
def evaluate (text : Text) : Action κ μ Unit := request (.evaluate text)

/-- Make expands a text into a buffer. -/
def expand (text : Text) : Action κ μ (Option Buffer) := request (.expand text)

/-- Make allocates a buffer with this content. -/
def allocate (content : Bytes) : Action κ μ (Option Buffer) := request (.allocate content)

/-- Make frees a buffer. -/
def release (buffer : Buffer) : Action κ μ Unit := request (.release buffer)

/-- The exported functions. -/
def exports : Action κ μ (Exports κ) := request .exports

/-- Enters an exported function, whose name make takes. -/
def enter (entry : Exported κ) : Action κ μ Unit := request (.enter entry)

/-- What the exported functions keep. -/
def remembered : Action κ μ μ := request .remembered

/-- Changes what the exported functions keep. -/
def remember (memory : μ) : Action κ μ Unit := request (.remember memory)

/-- Writes a line to standard error. -/
def complain (line : Text) : Action κ μ Unit := request (.complain line)

end Action

end MakeHost
