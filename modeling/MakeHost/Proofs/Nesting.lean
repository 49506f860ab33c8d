import MakeHost.Host.Level
import MakeHost.Proofs.Effects

/-!
# Calls, requests and nesting

The other half of what happens to a world: the host's actions, request by request, and the calls
through which make reaches them. `levelWithin_along` is the induction on the nesting: for a relation
that allows what make and the host do (`Serves`), and answers that go along whenever the levels they
may use do, make with some nesting goes along with make with at least as much. A `Task` is what is
done at the outermost level.
-/

namespace MakeHost

variable {κ μ α β : Type} {E : Exported κ → Prop}

/-! ## The exports of an action -/

/-- Every function that the action may export satisfies `E`, whatever the answers are. -/
inductive Action.Exports (E : Exported κ → Prop) : Action κ μ α → Prop
  | done (a : α) : Exports E (.done a)
  | ask {r : Request κ μ} {next : r.Answer → Action κ μ α} :
      (∀ entry, r = .enter entry → E entry) → (∀ answer, Exports E (next answer)) →
      Exports E (.ask r next)

namespace Action.Exports

/-- A result exports nothing. -/
theorem pure (a : α) : Exports E (pure a : Action κ μ α) := .done a

/-- A request that exports nothing. -/
theorem request {r : Request κ μ} (h : ∀ entry, r ≠ .enter entry) :
    Exports E (Action.request r) :=
  .ask (fun entry hr => absurd hr (h entry)) fun answer => .done answer

/-- Actions one behind the other export what each of them does. -/
theorem bind {x : Action κ μ α} {f : α → Action κ μ β} (hx : Exports E x)
    (hf : ∀ a, Exports E (f a)) : Exports E (x >>= f) := by
  induction hx with
  | done a => exact hf a
  | ask hr _ ih => exact .ask hr ih

/-- What an action exports satisfies every weaker predicate. -/
theorem mono {F : Exported κ → Prop} {x : Action κ μ α} (hEF : ∀ entry, E entry → F entry)
    (hx : Exports E x) : Exports F x := by
  induction hx with
  | done a => exact .done a
  | ask hr _ ih => exact .ask (fun entry h => hEF entry (hr entry h)) ih

/-- Nothing is asked of exports by the predicate that is always true. -/
theorem trivial (x : Action κ μ α) : Exports (fun _ => True) x := by
  induction x with
  | done a => exact .done a
  | ask r next ih => exact .ask (fun _ _ => True.intro) ih

end Action.Exports

namespace Make

variable {T : World κ μ → World κ μ → Prop} {l l' : Level κ μ} {w : World κ μ}

/-! ## Requests of the host -/

/-- A sequence of actions is performed one after the other. -/
theorem perform_bind (x : Action κ μ α) (f : α → Action κ μ β) :
    perform l (x >>= f) = perform l x >>= fun a => perform l (f a) := by
  induction x with
  | done a => rfl
  | ask r next ih =>
    show (handle l r >>= fun answer => perform l ((next answer).bind f)) = _
    rw [perform, bind_assoc]
    exact congrArg _ (funext ih)

/-- A new buffer holds its content up to the first NUL. -/
theorem allocate_apply (content : Bytes) :
    (allocate content : Run κ μ Buffer) w =
      some (⟨w.make.allocate.1, content.upToNul⟩, { w with make := w.make.allocate.2 }) := rfl

/-- A text is run unless make is stopped, and goes along where its evaluation does. -/
theorem Level.run_along (he : ∀ w text, Run.Along T w (l.evaluate text) (l'.evaluate text))
    (text : Text) :
    Run.Along T w (l.run text) (l'.run text) := by
  unfold Level.run
  refine .stopped_bind ?_
  split
  · exact .pure ()
  · exact he w text

/-- Answering a request, where `E` allows what it exports. -/
theorem handle_along (hT : Serves E T) (hl : l.Along T l') (r : Request κ μ)
    (hr : ∀ entry, r = .enter entry → E entry) :
    Run.Along T w (handle l r) (handle l' r) := by
  cases r with
  | evaluate text =>
    refine .bind hT.toSteps (.of_eq rfl (hT.note _)) fun _ w' _ => ?_
    exact Level.run_along hl.evaluate text
  | expand text =>
    refine .bind hT.toSteps (.of_eq rfl (hT.note _)) fun _ w' _ => ?_
    refine .bind hT.toSteps (hl.expand w' 0 text) fun expansion w'' _ => ?_
    exact .bind hT.toSteps (.of_eq (allocate_apply _) hT.allocate) fun b _ _ => .pure _
  | allocate content =>
    exact .bind hT.toSteps (.of_eq (allocate_apply _) hT.allocate) fun b _ _ => .pure _
  | release buffer => exact .of_eq rfl (hT.release buffer.id)
  | exports => exact .of_eq rfl id
  | enter entry => exact .of_eq rfl (hT.enter entry (hr entry rfl))
  | remembered => exact .of_eq rfl id
  | remember memory => exact .of_eq rfl (hT.remember memory)
  | complain line => exact .of_eq rfl (hT.complain line)

/-- Performing an action, where `E` allows what it exports. -/
theorem perform_along (hT : Serves E T) (hl : l.Along T l') {x : Action κ μ α}
    (hx : x.Exports E) : Run.Along T w (perform l x) (perform l' x) := by
  induction hx generalizing w with
  | done a => exact .pure a
  | ask hr _ ih => exact .bind hT.toSteps (handle_along hT hl _ hr) fun answer w' _ => ih answer

/-! ## Calls -/

/-- A call's result is read, and its buffer is freed. -/
theorem collect_along (hT : Serves E T) (buffer : Option Buffer) :
    Run.Along T w (collect buffer) (collect buffer) := by
  cases buffer with
  | none => exact .pure []
  | some buffer => exact .of_eq rfl (hT.release buffer.id)

/-- Handing out a call, which is counted before it is answered and its result collected. -/
theorem handOut_along_of (hT : Reads T) {respond respond' : Responder κ μ} {name : Text}
    {args : List Text} (hcount : T w w → T w { w with make := w.make.countCall })
    (hanswer : Run.Along T { w with make := w.make.countCall }
      (respond l name (args.map handedOver) >>= collect)
      (respond' l' name (args.map handedOver) >>= collect)) :
    Run.Along T w (handOut respond l name args) (handOut respond' l' name args) := by
  have happly := Run.changeMake_apply (w := w) State.countCall
  unfold handOut
  refine .get_bind ?_
  cases w.link with
  | absent => exact hT.failWith _ []
  | attached =>
    refine .bind_result hT.toSteps (.of_eq happly hcount) fun _ w' hw' _ => ?_
    cases happly.symm.trans hw'
    exact hanswer
  | object known =>
    refine .bind_result hT.toSteps (.of_eq happly hcount) fun _ w' hw' _ => ?_
    cases happly.symm.trans hw'
    refine .get_bind ?_
    split
    · exact hanswer
    · exact .pure []

/-- Handing out a call whose answers go along once it has been counted. -/
theorem handOut_along (hT : Serves E T) {respond respond' : Responder κ μ} {name : Text}
    {args : List Text}
    (hr : Run.Along T { w with make := w.make.countCall } (respond l name (args.map handedOver))
      (respond' l' name (args.map handedOver))) :
    Run.Along T w (handOut respond l name args) (handOut respond' l' name args) :=
  handOut_along_of hT.toReads hT.countCall
    (.bind hT.toSteps hr fun buffer _ _ => collect_along hT buffer)

/-! ## Nesting -/

/-- Expansion at any nesting allows what it does by itself and what its calls do. -/
theorem expandWithin_along (hT : Reads T) {respond : Responder κ μ} (hc : ∀ fuel w name args,
      Run.Along T w (handOut respond (levelWithin respond fuel) name args)
        (handOut respond (levelWithin respond fuel) name args)) (fuel : Nat) (w : World κ μ)
    (depth : Nat) (text : Text) : Run.Along T w (expandWithin respond fuel depth text)
      (expandWithin respond fuel depth text) := by
  induction fuel generalizing w depth text with
  | zero => exact .exhausted
  | succ fuel ih =>
    have hl : ∀ w depth text, Run.Along T w ((levelWithin respond fuel).expand depth text)
        ((levelWithin respond fuel).expand depth text) := ih
    exact expandText_along hT hl
      (fun w depth name f args _ => expandCall_along hT hl (hc fuel) depth name f args) depth text

/-- Answers go along whenever the levels that they may use do. -/
def Responder.Along (T : World κ μ → World κ μ → Prop) (respond respond' : Responder κ μ) : Prop :=
  ∀ ⦃l l' : Level κ μ⦄, l.Along T l' →
    ∀ w name args, Run.Along T w (respond l name args) (respond' l' name args)

/-- Expanding a call whose answers go along. -/
theorem expandCall_handedOut (hT : Serves E T) {respond respond' : Responder κ μ}
    (hr : respond.Along T respond') (hl : l.Along T l') (depth : Nat) (name : Text) (f : Function)
    (args : Option Text) : Run.Along T w (expandCall respond l depth name f args)
      (expandCall respond' l' depth name f args) :=
  expandCall_along hT.toReads hl.expand (fun _ name _ => handOut_along hT (hr hl _ name _)) depth
    name f args

/-- Make with some nesting goes along with make with at least as much, where the calls that are
handed out do. -/
theorem levelWithin_along_of (hT : Writes T) {respond respond' : Responder κ μ}
    (hc : ∀ ⦃l l' : Level κ μ⦄, l.Along T l' → ∀ w name args,
      Run.Along T w (handOut respond l name args) (handOut respond' l' name args))
    {m n : Nat} (hmn : m ≤ n) : (levelWithin respond m).Along T (levelWithin respond' n) := by
  induction m generalizing n with
  | zero => exact ⟨fun _ _ _ => .exhausted, fun _ _ => .exhausted⟩
  | succ m ih =>
    obtain ⟨n, rfl⟩ : ∃ k, n = k + 1 := ⟨n - 1, by omega⟩
    have hl := ih (Nat.le_of_succ_le_succ hmn)
    refine ⟨fun w depth text => ?_, fun w text => ?_⟩
    · exact expandText_along hT.toReads hl.expand (fun _ depth name f args _ =>
        expandCall_along hT.toReads hl.expand (hc hl) depth name f args) depth text
    · exact evaluateStatements_along hT hl.expand _

/-- Make with some nesting goes along with make with at least as much. -/
theorem levelWithin_along (hT : Serves E T) {respond respond' : Responder κ μ}
    (hr : respond.Along T respond') {m n : Nat} (hmn : m ≤ n) :
    (levelWithin respond m).Along T (levelWithin respond' n) :=
  levelWithin_along_of hT.toWrites (fun _ _ hl _ name _ => handOut_along hT (hr hl _ name _)) hmn

end Make

/-! ## Tasks -/

/-- What is asked of a session at the outermost level: make evaluates a text or expands one, or the
host acts. -/
inductive Task (κ μ : Type) : Type 1
  | run (text : Text)
  | expand (text : Text)
  | act {α : Type} (x : Action κ μ α)

/-- Does a task with make at this level. -/
def Task.perform (level : Make.Level κ μ) : Task κ μ → Run κ μ Unit
  | run text => level.run text
  | expand text => do let _ ← level.expand 0 text
  | act x => do let _ ← Make.perform level x

/-- A task at the outermost level goes along at any two levels that do. -/
theorem Task.perform_along {T : World κ μ → World κ μ → Prop} {l l' : Make.Level κ μ}
    {w : World κ μ} (hT : Make.Serves (fun _ => True) T) (hl : l.Along T l') (task : Task κ μ) :
    Run.Along T w (task.perform l) (task.perform l') := by
  cases task with
  | run text => exact Make.Level.run_along hl.evaluate text
  | expand text => exact .bind hT.toSteps (hl.expand w 0 text) fun _ _ _ => .pure ()
  | act x =>
    exact .bind hT.toSteps (Make.perform_along hT hl (.trivial x)) fun _ _ _ => .pure ()

end MakeHost
