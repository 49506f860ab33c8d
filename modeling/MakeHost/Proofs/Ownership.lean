import MakeHost.Proofs.Requests
import Mathlib.Algebra.Order.Group.Multiset

/-!
# Who frees a buffer

Whoever is handed a buffer frees it or hands it on. `Action.Owns` says of an action that it frees
nothing but what it holds, and what it holds at its end; an action is `Tidy` when it begins and ends
with nothing, as a function does that drops what it was handed. `Host.Asks.tidy`: everything that is
composed of what a host offers is tidy. `Host.dispatch_owns`: answering a call is tidy but for the
one buffer with the result.
-/

namespace MakeHost

variable {κ μ α β : Type}

/-- The identity of a buffer, if there is one. -/
def Buffer.ids (buffer : Option Buffer) : Multiset Nat := (buffer.map (·.id)).toList

/-- What a request frees. -/
def Request.freed : Request κ μ → Multiset Nat
  | .release buffer => {buffer.id}
  | .evaluate _ | .expand _ | .allocate _ | .exports | .enter _ | .remembered | .remember _
  | .complain _ => 0

/-- What the answer to a request hands over. -/
def Request.taken : (r : Request κ μ) → r.Answer → Multiset Nat
  | .expand _, buffer | .allocate _, buffer => Buffer.ids buffer
  | .evaluate _, _ | .release _, _ | .exports, _ | .enter _, _ | .remembered, _ | .remember _, _
  | .complain _, _ => 0

/-- The action holds buffers at first and frees none but those it holds. With its result it keeps
`kept`. Each request uses up what it frees and adds what its answer hands over to the rest. -/
inductive Action.Owns (kept : α → Multiset Nat) : Multiset Nat → Action κ μ α → Prop
  | done (a : α) : Owns kept (kept a) (.done a)
  | ask {r : Request κ μ} {next : r.Answer → Action κ μ α} {rest : Multiset Nat} :
      (∀ answer, Owns kept (r.taken answer + rest) (next answer)) →
      Owns kept (r.freed + rest) (.ask r next)

/-- The action begins and ends without buffers, and frees none but those that it was handed. -/
abbrev Action.Tidy (x : Action κ μ α) : Prop := x.Owns (fun _ => 0) 0

namespace Action

variable {kept : α → Multiset Nat} {kept' : β → Multiset Nat} {owned : Multiset Nat}
  {x : Action κ μ α} {f : α → Action κ μ β}

/-- A result keeps what it names, if that was held. -/
theorem Owns.pure (a : α) : (pure a : Action κ μ α).Owns kept (kept a) := .done a

/-- What is held beside is still held at the end. -/
theorem Owns.frame (hx : x.Owns kept owned) (beside : Multiset Nat) :
    x.Owns (fun a => kept a + beside) (owned + beside) := by
  induction hx with
  | done a => exact .done a
  | @ask r next rest _ ih =>
    rw [add_assoc]
    refine .ask fun answer => ?_
    rw [← add_assoc]
    exact ih answer

/-- The second action goes on with what the first one keeps. -/
theorem Owns.bind (hx : x.Owns kept owned) (hf : ∀ a, (f a).Owns kept' (kept a)) :
    (x >>= f).Owns kept' owned := by
  induction hx with
  | done a => exact hf a
  | ask _ ih => exact .ask ih

/-- A result frees nothing. -/
theorem Tidy.pure (a : α) : (Pure.pure a : Action κ μ α).Tidy := .done a

/-- Tidy actions one behind the other are tidy. -/
theorem Tidy.bind (hx : x.Tidy) (hf : ∀ a, (f a).Tidy) : (x >>= f).Tidy := Owns.bind hx hf

/-- A tidy action leaves alone what is held beside. -/
theorem Tidy.held (hx : x.Tidy) (owned : Multiset Nat) : x.Owns (fun _ => owned) owned := by
  simpa using Owns.frame hx owned

/-- A request that neither frees a buffer nor is answered by one. -/
theorem Tidy.request {r : Request κ μ} (hfreed : r.freed = 0) (htaken : ∀ a, r.taken a = 0) :
    (Action.request r).Tidy := by
  have hasked : (Action.request r).Owns (fun _ => 0) (r.freed + 0) :=
    .ask fun a => by rw [htaken]; exact .done a
  rwa [hfreed] at hasked

/-- A request that is answered by what it hands over. -/
theorem Owns.request {r : Request κ μ} (hfreed : r.freed = 0) :
    (Action.request r).Owns r.taken 0 := by
  have hasked : (Action.request r).Owns r.taken (r.freed + 0) :=
    .ask fun a => by rw [add_zero]; exact .done a
  rwa [hfreed] at hasked

/-- Freeing the one buffer that is held. -/
theorem Owns.release (buffer : Buffer) :
    (Action.release buffer : Action κ μ Unit).Owns (fun _ => 0) {buffer.id} := by
  have hasked : (Action.release buffer : Action κ μ Unit).Owns (fun _ => 0) ({buffer.id} + 0) :=
    Owns.ask (r := .release buffer) fun a => .done a
  rwa [add_zero] at hasked

end Action

namespace Host

/-! ## Requests of the host -/

/-- The buffer with an expansion is freed once its bytes are read. -/
theorem tidy_expandBytes (text : Text) : (expandBytes text : Attempt κ μ Bytes).run.Tidy := by
  unfold expandBytes checkText
  cases nulFault? text with
  | some fault => exact .pure _
  | none =>
    dsimp only
    rw [pure_bind, ExceptT.run_bind_lift]
    refine Action.Owns.bind (.request (r := .expand text) rfl) fun buffer => ?_
    cases buffer with
    | none => exact .pure _
    | some buffer =>
      dsimp only
      rw [ExceptT.run_bind_lift]
      exact Action.Owns.bind (.release buffer) fun _ => .pure _

/-- Evaluation hands nothing over. -/
theorem tidy_evaluate (text : Text) : (evaluate text : Attempt κ μ Unit).run.Tidy := by
  unfold evaluate checkText
  cases nulFault? text with
  | some fault => exact .pure _
  | none =>
    exact Action.Tidy.bind (x := Action.evaluate text) (.request rfl fun _ => rfl) fun _ => .pure _

/-- Actions that drop what they are handed are such a class. -/
theorem tidy_grants : Grants (fun _ => True) fun α (x : Action κ μ α) => x.Tidy where
  pure := .pure
  bind := .bind
  evaluate := tidy_evaluate
  expandBytes := tidy_expandBytes
  exports := .request rfl fun _ => rfl
  enter _ := .request rfl fun _ => rfl
  complain _ := .request rfl fun _ => rfl

/-- What is composed of what a host offers drops what it is handed. -/
theorem Asks.tidy {E : Exported κ → Prop} {x : Action κ μ α} (hx : Asks E x) : x.Tidy := by
  induction hx with
  | pure a => exact .pure a
  | bind _ _ ihx ihf => exact ihx.bind ihf
  | evaluate text => exact tidy_evaluate text
  | expandBytes text => exact tidy_expandBytes text
  | exports | enter | remembered | remember | complain => exact .request rfl fun _ => rfl

/-! ## Calls -/

/-- The functions of the host drop what they are handed, however they end. -/
def Tidy (host : Host κ μ) : Prop :=
  ∀ code name args, (host.body code name args).run.Tidy

/-- What handing a value over leaves to whoever asked for it. -/
theorem owns_deliver (value : Value) :
    (deliver value : Action κ μ (Option Buffer)).Owns Buffer.ids 0 := by
  unfold deliver
  cases value.encode? with
  | none => exact .pure none
  | some bytes => exact .request (r := .allocate bytes) rfl

section
variable {host : Host κ μ} (hhost : host.Tidy)
include hhost

/-- A call drops what it is handed on the way to its outcome. -/
theorem tidy_outcome (name : Bytes) (args : List Bytes) : (host.outcome name args).Tidy :=
  tidy_grants.outcome hhost name args

/-- **Answering a call leaves the one buffer with the result, if there is one.** It is held while
the error variable is removed. -/
theorem dispatch_owns (name : Bytes) (args : List Bytes) :
    (host.dispatch name args).Owns Buffer.ids 0 := by
  have hclear : (clearError host.options : Action κ μ Unit).Tidy := tidy_grants.clearError _
  refine Action.Owns.bind (tidy_outcome hhost name args) fun outcome => ?_
  cases outcome with
  | unknown => exact Action.Owns.bind hclear fun _ => .pure none
  | failed name failure =>
    have hrecord : (recordError host.options name failure : Action κ μ Unit).Tidy :=
      tidy_grants.recordError _ name failure
    exact Action.Owns.bind hrecord fun _ => .pure none
  | value v => exact (owns_deliver v).bind fun result =>
      (hclear.held _).bind fun _ => .pure result

/-- Reads the result of a call and frees its buffer. -/
def take : Option Buffer → Action κ μ (Option Bytes)
  | none => return none
  | some buffer => do
    Action.release buffer
    return some buffer.content

/-- A call whose result is read drops all it is handed. -/
theorem tidy_call (name : Bytes) (args : List Bytes) : (host.dispatch name args >>= take).Tidy := by
  refine (dispatch_owns hhost name args).bind fun buffer => ?_
  cases buffer with
  | none => exact .pure none
  | some buffer => exact (Action.Owns.release buffer).bind fun _ => .pure _

end

end Host

end MakeHost
