import MakeHost.Host.Level
import MakeHost.Proofs.Nesting

/-!
# A log beside a run

Make never looks at what the exported functions remember, so a run is the same run when they
remember more (`Run.Reflects`). `Action.logged` keeps a log in their memory: each time something is
remembered, `hear` says what is added for the change. Its run is the run itself with a log beside it
(`Host.perform_logged`), at any nesting, so what a run does in between can be told from its log.
-/

namespace MakeHost

variable {κ μ ν ε α β : Type}

/-- The same world, with what is made of what is remembered. -/
def World.mapMemory (f : ν → μ) (w : World κ ν) : World κ μ :=
  ⟨w.make, w.exports, f w.memory, w.complaints, w.link, w.ready, w.interface⟩

/-- How calls reach the host does not depend on what is remembered. -/
theorem World.link_mapMemory (f : ν → μ) (w : World κ ν) : (w.mapMemory f).link = w.link := rfl

/-- A world with a log beside what is remembered. -/
def World.logging (w : World κ μ) (log : List ε) : World κ (μ × List ε) :=
  w.mapMemory fun m => (m, log)

/-- A function is entered in the same way whatever is remembered. -/
theorem World.enter_mapMemory (f : ν → μ) (w : World κ ν) (entry : Exported κ) :
    (w.mapMemory f).enter entry = (w.enter entry).mapMemory f := by
  obtain ⟨make, exports, memory, complaints, link, ready, interface⟩ := w
  cases link <;> rfl

/-! ## Computations that reflect one another -/

namespace Run

/-- `x` does what `y` does, where `f` says what becomes of the memory. -/
def Reflects (f : ν → μ) (x : Run κ μ α) (y : Run κ ν α) : Prop :=
  ∀ w, x (w.mapMemory f) = (y w).map fun (a, w') => (a, w'.mapMemory f)

namespace Reflects

variable {f : ν → μ}

/-- A result reflects itself. -/
theorem pure (a : α) : Reflects f (pure a : Run κ μ α) (pure a) := fun _ => rfl

/-- No result reflects no result. -/
theorem exhausted : Reflects f (exhausted : Run κ μ α) exhausted := fun _ => rfl

/-- The state of make is the same whatever is remembered. -/
theorem make : Reflects f (make : Run κ μ Make.State) make := fun _ => rfl

/-- Whether make is stopped does not depend on what is remembered. -/
theorem stopped : Reflects f (stopped : Run κ μ Bool) stopped := fun _ => rfl

/-- A change of make does not look at what is remembered. -/
theorem changeMake (g : Make.State → Make.State) :
    Reflects f (changeMake g : Run κ μ Unit) (changeMake g) := fun _ => rfl

/-- A fatal error does not look at what is remembered. -/
theorem fail (message : Text) : Reflects f (fail message : Run κ μ Unit) (fail message) :=
  fun _ => rfl

/-- A note does not look at what is remembered. -/
theorem note (call : InterfaceCall) : Reflects f (note call : Run κ μ Unit) (note call) := by
  rintro ⟨make, exports, memory, complaints, link, ready, interface⟩
  cases link <;> rfl

/-- Computations that reflect one another do so one behind the other. -/
theorem bind {x : Run κ μ α} {y : Run κ ν α} {g : α → Run κ μ β} {g' : α → Run κ ν β}
    (hxy : Reflects f x y) (hg : ∀ a, Reflects f (g a) (g' a)) :
    Reflects f (x >>= g) (y >>= g') := by
  intro w
  rw [bind_apply, bind_apply, hxy w]
  cases y w with
  | none => rfl
  | some r => exact hg r.1 r.2

/-- A computation may look at the world where what it does then reflects the other. -/
theorem get_bind {g : World κ μ → Run κ μ β} {g' : World κ ν → Run κ ν β}
    (hg : ∀ w, Reflects f (g (w.mapMemory f)) (g' w)) : Reflects f (get >>= g) (get >>= g') :=
  fun w => hg w w

/-- Computing with the members of a list reflects doing so with what each computation reflects. -/
theorem mapM {g : α → Run κ μ β} {g' : α → Run κ ν β} (hg : ∀ a, Reflects f (g a) (g' a))
    (as : List α) : Reflects f (as.mapM g) (as.mapM g') := by
  induction as with
  | nil => exact .pure []
  | cons a as ih =>
    rw [List.mapM_cons, List.mapM_cons]
    exact .bind (hg a) fun b => .bind ih fun bs => .pure (b :: bs)

end Reflects

end Run

namespace Make

variable {f : ν → μ} {l : Level κ μ} {l' : Level κ ν} {respond : Responder κ μ}
  {respond' : Responder κ ν} {depth : Nat}

/-! ## Expansion and evaluation -/

/-- Two levels of make that reflect one another. -/
structure Level.Reflects (f : ν → μ) (l : Level κ μ) (l' : Level κ ν) : Prop where
  expand : ∀ depth text, Run.Reflects f (l.expand depth text) (l'.expand depth text)
  evaluate : ∀ text, Run.Reflects f (l.evaluate text) (l'.evaluate text)

/-- No builtin looks at what is remembered. -/
theorem Builtin.apply_reflects (builtin : Builtin) (arg : Text) :
    Run.Reflects f (builtin.apply arg : Run κ μ Text) (builtin.apply arg) := by
  refine .bind .make fun state => ?_
  cases builtin with
  | value | origin | flavor => exact .pure _
  | error => exact .bind (.fail arg) fun _ => .pure []
  | info => exact .bind (.changeMake _) fun _ => .pure []

section
variable (hl : l.Reflects f l')
include hl

/-- A variable is expanded in the same way whatever is remembered. -/
theorem expandVariable_reflects (name : Text) :
    Run.Reflects f (expandVariable l depth name) (expandVariable l' depth name) := by
  refine .bind .make fun state => ?_
  cases state.bindings.get? name with
  | none => exact .pure []
  | some v =>
    dsimp only
    split
    · exact hl.expand (depth + 1) v.value
    · exact .pure v.value

/-- Arguments are passed in the same way. -/
theorem passed_reflects (policy : Policy) (args : List Text) :
    Run.Reflects f (passed l depth policy args) (passed l' depth policy args) := by
  cases policy with
  | expand => exact .mapM (hl.expand (depth + 1)) args
  | verbatim => exact .pure args

variable (hc : ∀ name args,
  Run.Reflects f (handOut respond l name args) (handOut respond' l' name args))
include hc

/-- A call is counted and passed on in the same way. -/
theorem expandCall_reflects (name : Text) (function : Function) (args : Option Text) :
    Run.Reflects f (expandCall respond l depth name function args)
      (expandCall respond' l' depth name function args) := by
  rw [expandCall_eq, expandCall_eq]
  split
  · exact .bind (.fail _) fun _ => .pure []
  · refine .bind (passed_reflects hl function.policy _) fun texts => ?_
    refine .bind .stopped fun stopped => ?_
    cases stopped with
    | true => exact .pure []
    | false => exact hc name texts

/-- A name comes to the same function or variable. -/
theorem expandNamed_reflects (inner : Text) :
    Run.Reflects f (expandNamed respond l depth inner) (expandNamed respond' l' depth inner) := by
  unfold expandNamed
  dsimp only
  refine .bind .make fun state => ?_
  cases state.functions.get? (headAndArguments inner).1 with
  | none => exact .bind (hl.expand (depth + 1) inner) fun name => expandVariable_reflects hl name
  | some function => exact expandCall_reflects hl hc _ function _

/-- A reference comes to the same builtin or name. -/
theorem expandReference_reflects (inner : Text) :
    Run.Reflects f (expandReference respond l depth inner)
      (expandReference respond' l' depth inner) := by
  unfold expandReference
  dsimp only
  split
  · exact .bind (hl.expand (depth + 1) _) fun arg => Builtin.apply_reflects _ arg
  · exact expandNamed_reflects hl hc inner

/-- A piece is expanded in the same way. -/
theorem expandPiece_reflects (piece : Piece) :
    Run.Reflects f (expandPiece respond l depth piece) (expandPiece respond' l' depth piece) := by
  cases piece with
  | plain c => exact .pure (some [c])
  | dangling => exact .pure (some [])
  | unterminated => exact .bind (.fail _) fun _ => .pure none
  | reference inner =>
    simp only [expandPiece, map_eq_pure_bind]
    exact .bind (expandReference_reflects hl hc inner) fun a => .pure (some a)
  | single c =>
    simp only [expandPiece, map_eq_pure_bind]
    exact .bind (expandVariable_reflects hl [c]) fun a => .pure (some a)

/-- The pieces of a text are expanded in the same way, up to where make is stopped. -/
theorem expandPieces_reflects (ps : List Piece) :
    Run.Reflects f (expandPieces respond l depth ps) (expandPieces respond' l' depth ps) := by
  induction ps with
  | nil => exact .pure (some [])
  | cons piece ps ih =>
    refine .bind .stopped fun stopped => ?_
    cases stopped with
    | true => exact .pure none
    | false =>
      refine .bind (expandPiece_reflects hl hc piece) fun front => ?_
      cases front with
      | none => exact .pure none
      | some front => exact .bind ih fun back => .pure _

/-- A text is expanded in the same way. -/
theorem expandText_reflects (text : Text) :
    Run.Reflects f (expandText respond l depth text) (expandText respond' l' depth text) := by
  unfold expandText
  split
  · exact .bind (.fail _) fun _ => .pure []
  · exact .bind (expandPieces_reflects hl hc _) fun expansion => .pure _

end

section
variable (hl : l.Reflects f l')
include hl

/-- What is assigned is the same. -/
theorem assigned_reflects (op : Assignment) (value : Text) (old : Option Variable) :
    Run.Reflects f (assigned l op value old) (assigned l' op value old) := by
  have hvalue : Run.Reflects f (do return some ⟨← l.expand 0 value, .simple, .file⟩ :
      Run κ μ (Option Variable)) (do return some ⟨← l'.expand 0 value, .simple, .file⟩) :=
    .bind (hl.expand 0 value) fun a => .pure _
  cases old with
  | none =>
    cases op with
    | simple => exact hvalue
    | recursive | append | conditional => exact .pure _
  | some old =>
    cases op with
    | simple => exact hvalue
    | recursive | conditional => exact .pure _
    | append =>
      unfold assigned
      dsimp only
      split
      · exact .bind (hl.expand 0 value) fun a => .pure _
      · exact .pure _

/-- An assignment writes the same variable. -/
theorem assign_reflects (name : Text) (op : Assignment) (value : Text) :
    Run.Reflects f (assign l name op value) (assign l' name op value) := by
  unfold assign
  split
  · exact .fail _
  · refine .bind .make fun state => ?_
    dsimp only
    split
    · exact .pure ()
    · refine .bind (assigned_reflects hl op value _) fun v => ?_
      cases v with
      | none => exact .pure ()
      | some v => exact .changeMake _

/-- A statement is evaluated in the same way. -/
theorem evaluateStatement_reflects (s : Statement) :
    Run.Reflects f (evaluateStatement l s) (evaluateStatement l' s) := by
  cases s with
  | assign name op value =>
    exact .bind (hl.expand 0 name) fun name => assign_reflects hl name.trim op value
  | undefine name => exact .bind (hl.expand 0 name) fun name => .changeMake _
  | bare line =>
    refine .bind (hl.expand 0 line) fun residue => ?_
    split
    · exact .pure ()
    · exact .fail _
  | unterminated => exact .fail _

/-- Statements are evaluated in the same way, up to where make is stopped. -/
theorem evaluateStatements_reflects (ss : List Statement) :
    Run.Reflects f (evaluateStatements l ss) (evaluateStatements l' ss) := by
  induction ss with
  | nil => exact .pure ()
  | cons s ss ih =>
    refine .bind .stopped fun stopped => ?_
    cases stopped with
    | true => exact .pure ()
    | false => exact .bind (evaluateStatement_reflects hl s) fun _ => ih

end

/-! ## Calls and nesting -/

/-- A call is handed out in the same way, if its answer is the same. -/
theorem handOut_reflects {name : Text} {args : List Text}
    (hr : Run.Reflects f (respond l name (args.map handedOver))
      (respond' l' name (args.map handedOver))) :
    Run.Reflects f (handOut respond l name args) (handOut respond' l' name args) := by
  have hcollect : ∀ buffer, Run.Reflects f (collect buffer : Run κ μ Text) (collect buffer) := by
    intro buffer
    cases buffer with
    | none => exact .pure []
    | some buffer => exact .bind (.changeMake _) fun _ => .pure _
  unfold handOut
  refine .get_bind fun w => ?_
  rw [World.link_mapMemory]
  cases w.link with
  | absent => exact .bind (.fail _) fun _ => .pure []
  | attached => exact .bind (.changeMake _) fun _ => .bind hr hcollect
  | object known =>
    refine .bind (.changeMake _) fun _ => .get_bind fun w' => ?_
    show Run.Reflects f (if known.contains name = true ∧ w'.ready = true then _ else _)
      (if known.contains name = true ∧ w'.ready = true then _ else _)
    split
    · exact .bind hr hcollect
    · exact .pure []

/-- Make at any nesting does not look at what is remembered, if its calls do not. -/
theorem levelWithin_reflects (hr : ∀ {l : Level κ μ} {l' : Level κ ν}, l.Reflects f l' →
      ∀ name args, Run.Reflects f (respond l name args) (respond' l' name args)) (fuel : Nat) :
    (levelWithin respond fuel).Reflects f (levelWithin respond' fuel) := by
  induction fuel with
  | zero => exact ⟨fun _ _ => .exhausted, fun _ => .exhausted⟩
  | succ fuel ih =>
    refine ⟨fun depth text => ?_, fun text => evaluateStatements_reflects ih _⟩
    exact expandText_reflects ih (fun name args => handOut_reflects (hr ih name _)) text

end Make

/-! ## Actions with a log -/

/-- The action with a log beside what is remembered: each time something is remembered, `hear` says
what is added to the log for the change. -/
def Action.logged (hear : μ → μ → List ε) : Action κ μ α → Action κ (μ × List ε) α
  | .done a => .done a
  | .ask (.evaluate text) next => .ask (.evaluate text) fun u => (next u).logged hear
  | .ask (.expand text) next => .ask (.expand text) fun buffer => (next buffer).logged hear
  | .ask (.allocate content) next =>
    .ask (.allocate content) fun buffer => (next buffer).logged hear
  | .ask (.release buffer) next => .ask (.release buffer) fun u => (next u).logged hear
  | .ask .exports next => .ask .exports fun exports => (next exports).logged hear
  | .ask (.enter entry) next => .ask (.enter entry) fun u => (next u).logged hear
  | .ask .remembered next => .ask .remembered fun m => (next m.1).logged hear
  | .ask (.remember memory) next => .ask .remembered fun old =>
      .ask (.remember (memory, old.2 ++ hear old.1 memory)) fun u => (next u).logged hear
  | .ask (.complain line) next => .ask (.complain line) fun u => (next u).logged hear

/-- Actions one behind the other are logged one behind the other. -/
theorem Action.logged_bind (hear : μ → μ → List ε) (x : Action κ μ α) (f : α → Action κ μ β) :
    (x >>= f).logged hear = x.logged hear >>= fun a => (f a).logged hear := by
  induction x with
  | done a => rfl
  | ask r next ih =>
    cases r with
    | remember memory => exact congrArg _ (funext fun old => congrArg _ (funext fun u => ih u))
    | remembered => exact congrArg _ (funext fun m : μ × List ε => ih m.1)
    | _ => exact congrArg _ (funext fun answer => ih answer)

namespace Host

variable (hear : μ → μ → List ε) (host : Host κ μ)

/-- Answers the calls that make hands out, with a log. -/
def loggedResponder : Make.Responder κ (μ × List ε) :=
  fun level name args => Make.perform level ((host.respond name args).logged hear)

/-- Make with the host behind it, with a log. -/
def loggedLevel (nesting : Nat) : Make.Level κ (μ × List ε) :=
  Make.levelWithin (host.loggedResponder hear) nesting

end Host

namespace Make

variable {hear : μ → μ → List ε} {f : ν → μ} {l : Level κ μ}

/-- A buffer is allocated in the same way whatever is remembered. -/
theorem allocate_reflects (content : Bytes) :
    Run.Reflects f (allocate content : Run κ μ Buffer) (allocate content) := fun _ => rfl

/-- A text is run in the same way. -/
theorem Level.run_reflects {l' : Level κ ν} (hl : l.Reflects f l') (text : Text) :
    Run.Reflects f (l.run text) (l'.run text) := by
  refine .bind .stopped fun stopped => ?_
  cases stopped with
  | true => exact .pure ()
  | false => exact hl.evaluate text

/-- Performing an action with a log is performing it. -/
theorem perform_reflects {l' : Level κ (μ × List ε)} (hl : l.Reflects Prod.fst l')
    (x : Action κ μ α) : Run.Reflects Prod.fst (perform l x) (perform l' (x.logged hear)) := by
  induction x with
  | done a => exact .pure a
  | ask r next ih =>
    cases r with
    | evaluate text =>
      exact .bind (.bind (.note _) fun _ => l.run_reflects hl text) ih
    | expand text =>
      refine .bind (.bind (.note _) fun _ => .bind (hl.expand 0 text) fun expansion => ?_) ih
      exact .bind (allocate_reflects _) fun buffer => .pure _
    | allocate content => exact .bind (.bind (allocate_reflects _) fun buffer => .pure _) ih
    | release buffer => exact fun w => ih () { w with make := w.make.release buffer.id }
    | exports => exact fun w => ih w.exports w
    | enter entry =>
      have henter : Run.Reflects Prod.fst (handle l (.enter entry)) (handle l' (.enter entry)) :=
        fun w => by rw [handle, handle, Run.modify_apply, World.enter_mapMemory]; rfl
      exact .bind henter ih
    | remembered => exact fun w => ih w.memory.1 w
    | remember memory =>
      exact fun w => ih () { w with memory := (memory, w.memory.2 ++ hear w.memory.1 memory) }
    | complain line => exact fun w => ih () { w with complaints := line :: w.complaints }

end Make

namespace Host

variable {hear : μ → μ → List ε} {host : Host κ μ}

/-- Make with a host behind it does what it does with a log. -/
theorem level_reflects (nesting : Nat) :
    (host.level nesting).Reflects Prod.fst (host.loggedLevel hear nesting) :=
  Make.levelWithin_reflects
    (fun hl name args => Make.perform_reflects hl (host.respond name args)) nesting

/-- **What the host does is what it does with a log**, at any nesting of calls. -/
theorem perform_logged {nesting : Nat} {x : Action κ μ α} {a : α} {w w' : World κ μ}
    (h : Make.perform (host.level nesting) x w = some (a, w')) (log : List ε) :
    ∃ log', Make.perform (host.loggedLevel hear nesting) (x.logged hear) (w.logging log) =
      some (a, w'.logging log') := by
  have hlevel : (host.level nesting).Reflects Prod.fst (host.loggedLevel hear nesting) :=
    level_reflects nesting
  have hreflects : Run.Reflects Prod.fst (Make.perform (host.level nesting) x)
      (Make.perform (host.loggedLevel hear nesting) (x.logged hear)) :=
    Make.perform_reflects hlevel x
  have hresult := hreflects (w.logging log)
  have hw : (w.logging log).mapMemory Prod.fst = w := rfl
  rw [hw, h] at hresult
  obtain ⟨⟨b, w₁⟩, hrun, heq⟩ := Option.map_eq_some_iff.1 hresult.symm
  cases heq
  exact ⟨w₁.memory.2, hrun⟩

end Host

end MakeHost
