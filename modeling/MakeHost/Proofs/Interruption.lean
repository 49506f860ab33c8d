import MakeHost.Proofs.Interchange
import MakeHost.Proofs.Reachable
import MakeHost.Proofs.VariableRequests

/-!
# What a fatal error stops

Make looks whether it was stopped before each statement, before each piece of a text, and once the
arguments of a call are passed. So nothing begins in a stopped make (`Task.frozen`), and no call is
handed out there. But an assignment, an `undefine` and an `info` do not look again once their own
texts are expanded, and take effect although an error in these texts has stopped make.

`watchWithin` is make with something that is looked at before each such effect. With `Watch.strict`
there is no result when an effect takes place in a stopped make, with `Watch.uninterrupted` none
when the expansion of the texts that an effect takes has stopped make; `Host.fatal_stops` says that
these are the same runs.
-/

namespace MakeHost

variable {κ μ α : Type} {w w' : World κ μ}

namespace Make

/-! ## Watching effects -/

/-- What is looked at before make prints a line, or sets or removes a variable. It is told whether
make was stopped before the texts that this takes were expanded. -/
abbrev Watch (κ μ : Type) := Bool → Run κ μ Unit

namespace Watch

/-- Nothing is looked at. -/
def idle : Watch κ μ := fun _ => pure ()

/-- No effect takes place in a stopped make. -/
def strict : Watch κ μ := fun _ => do if ← Run.stopped then Run.exhausted

/-- No effect takes place when the expansion of what it takes has stopped make. -/
def uninterrupted : Watch κ μ := fun before => do
  if (← Run.stopped) && !before then Run.exhausted

end Watch

/-- Whether a function of make prints its argument. -/
def Builtin.prints : Builtin → Bool
  | info => true
  | value | origin | flavor | error => false

/-- Whether there is a variable that can be removed. -/
def State.removes (s : State) (name : Text) : Bool :=
  (s.bindings.get? name).any (·.origin ≠ .commandLine)

section
variable (watch : Watch κ μ) (respond : Responder κ μ) (level : Level κ μ)

/-- Expands a reference in brackets. -/
def watchReference (depth : Nat) (inner : Text) : Run κ μ Text := do
  let (head, args) := headAndArguments inner
  match Builtin.ofName? head, args with
  | some builtin, some arg => do
    let before ← Run.stopped
    let arg ← level.expand (depth + 1) arg
    if builtin.prints then watch before
    builtin.apply arg
  | _, _ => expandNamed respond level depth inner

/-- Expands one piece; absent when the text is cut short there. -/
def watchPiece (depth : Nat) : Piece → Run κ μ (Option Text)
  | .reference inner => some <$> watchReference watch respond level depth inner
  | piece => expandPiece respond level depth piece

/-- Expands pieces from the left; absent when make is found to be stopped before one of them. -/
def watchPieces (depth : Nat) : List Piece → Run κ μ (Option Text)
  | [] => pure (some [])
  | piece :: rest => do
    if ← Run.stopped then return none
    match ← watchPiece watch respond level depth piece with
    | none => return none
    | some front => do
      let back ← watchPieces depth rest
      return back.map (front ++ ·)

/-- Expands a text; one that is cut short expands to nothing. -/
def watchText (depth : Nat) (text : Text) : Run κ μ Text := do
  if maxDepth < depth then
    Run.fail "recursive variable references itself (eventually)"
    return []
  return (← watchPieces watch respond level depth (pieces text)).getD []

/-- Assigns a variable; the command line's own are left alone. -/
def watchAssign (before : Bool) (name : Text) (op : Assignment) (value : Text) :
    Run κ μ Unit := do
  if name.isEmpty then Run.fail "empty variable name"
  else
    let old := (← Run.make).bindings.get? name
    if (old.map (·.origin)) = some .commandLine then return
    match ← assigned level op value old with
    | none => return
    | some v => do
      watch before
      Run.changeMake (·.setVariable name v)

/-- Evaluates one statement. -/
def watchStatement : Statement → Run κ μ Unit
  | .assign name op value => do
    let before ← Run.stopped
    let name ← level.expand 0 name
    watchAssign watch level before name.trim op value
  | .undefine name => do
    let before ← Run.stopped
    let name ← level.expand 0 name
    if (← Run.make).removes name.trim then watch before
    Run.changeMake (·.undefine name.trim)
  | .bare line => evaluateStatement level (.bare line)
  | .unterminated => evaluateStatement level .unterminated

/-- Evaluates statements until make is found to be stopped. -/
def watchStatements : List Statement → Run κ μ Unit
  | [] => pure ()
  | s :: rest => do
    if ← Run.stopped then return
    watchStatement watch level s
    watchStatements rest

end

mutual

/-- Expands a text within `fuel` steps of nesting. -/
def watchExpand (watch : Watch κ μ) (respond : Responder κ μ) : Nat → Nat → Text → Run κ μ Text
  | 0, _, _ => Run.exhausted
  | fuel + 1, depth, text =>
    watchText watch respond ⟨watchExpand watch respond fuel, watchEvaluate watch respond fuel⟩ depth
      text

/-- Evaluates a text within `fuel` steps of nesting. -/
def watchEvaluate (watch : Watch κ μ) (respond : Responder κ μ) : Nat → Text → Run κ μ Unit
  | 0, _ => Run.exhausted
  | fuel + 1, text =>
    watchStatements watch ⟨watchExpand watch respond fuel, watchEvaluate watch respond fuel⟩
      (statements text)

end

/-- Make with so many steps of nesting, whose effects are watched. -/
def watchWithin (watch : Watch κ μ) (respond : Responder κ μ) (fuel : Nat) : Level κ μ :=
  ⟨watchExpand watch respond fuel, watchEvaluate watch respond fuel⟩

/-- Answers in a running make only; elsewhere there is no result. -/
def Responder.whenRunning (respond : Responder κ μ) : Responder κ μ := fun level name args => do
  if ← Run.stopped then Run.exhausted else respond level name args

/-! ### Watching nothing -/

section
variable {respond : Responder κ μ} {level : Level κ μ}

/-- Looking whether make was stopped has no effect. -/
theorem stopped_bind_const (x : Run κ μ α) : (Run.stopped >>= fun _ => x) = x := rfl

/-- A watch that looks at nothing leaves references as they are. -/
theorem watchReference_idle (depth : Nat) (inner : Text) :
    watchReference .idle respond level depth inner = expandReference respond level depth inner := by
  unfold watchReference expandReference
  dsimp only
  cases Builtin.ofName? (headAndArguments inner).1 with
  | none => rfl
  | some builtin =>
    cases (headAndArguments inner).2 with
    | none => rfl
    | some arg => simp only [Watch.idle, stopped_bind_const, ite_self, pure_bind]

/-- A watch that looks at nothing leaves texts as they are. -/
theorem watchPieces_idle (depth : Nat) (ps : List Piece) :
    watchPieces .idle respond level depth ps = expandPieces respond level depth ps := by
  have hpiece : ∀ piece, watchPiece .idle respond level depth piece =
      expandPiece respond level depth piece := by
    intro piece
    cases piece with
    | reference inner => simp only [watchPiece, expandPiece, watchReference_idle]
    | plain | single | dangling | unterminated => rfl
  induction ps with
  | nil => rfl
  | cons piece ps ih =>
    simp only [watchPieces, hpiece, ih]
    rfl

/-- A watch that looks at nothing leaves evaluation as it is. -/
theorem watchStatements_idle (ss : List Statement) :
    watchStatements .idle level ss = evaluateStatements level ss := by
  have hstatement : ∀ s, watchStatement .idle level s = evaluateStatement level s := by
    intro s
    cases s with
    | assign name op value => rfl
    | undefine name =>
      simp only [watchStatement, evaluateStatement, Watch.idle, stopped_bind_const, ite_self,
        pure_bind]
      rfl
    | bare | unterminated => rfl
  induction ss with
  | nil => rfl
  | cons s ss ih => simp only [watchStatements, evaluateStatements, hstatement, ih]

/-- Make whose effects are not looked at is make. -/
theorem watchWithin_idle (fuel : Nat) :
    watchWithin .idle respond fuel = levelWithin respond fuel := by
  induction fuel with
  | zero => rfl
  | succ fuel ih =>
    obtain ⟨hexpand, hevaluate⟩ := Level.mk.inj ih
    simp only [watchWithin, levelWithin, Level.mk.injEq]
    refine ⟨funext fun depth => funext fun text => ?_, funext fun text => ?_⟩
    · simp only [watchExpand, expandWithin, watchText, expandText, watchPieces_idle, hexpand,
        hevaluate]
    · simp only [watchEvaluate, evaluateWithin, watchStatements_idle, hexpand, hevaluate]

end

/-! ### Two watches -/

section
variable {T : World κ μ → World κ μ → Prop} {watch watch' : Watch κ μ}
  {respond respond' : Responder κ μ} {l l' : Level κ μ} (hT : Writes T)
  (hwatch : ∀ w, Run.Along T w (watch false) (watch' false))
  (hl : ∀ w depth text, Run.Along T w (l.expand depth text) (l'.expand depth text))
include hT hwatch hl

section
variable (hc : ∀ w name args, w.make.stopped = false →
  Run.Along T w (handOut respond l name args) (handOut respond' l' name args))
include hc

/-- What a reference does is watched in a make that ran when it was begun. -/
theorem watchReference_along (hrunning : w.make.stopped = false) (depth : Nat) (inner : Text) :
    Run.Along T w (watchReference watch respond l depth inner)
      (watchReference watch' respond' l' depth inner) := by
  unfold watchReference
  dsimp only
  split
  · next builtin arg _ _ =>
    refine .stopped_bind ?_
    rw [hrunning]
    refine .bind hT.toSteps (hl w (depth + 1) arg) fun text w' _ => ?_
    cases builtin.prints with
    | false => exact Builtin.apply_along hT.toReads _ text
    | true =>
      exact .bind hT.toSteps (hwatch w') fun _ w'' _ => Builtin.apply_along hT.toReads _ text
  · refine expandNamed_along hT.toReads hl (fun w depth name f args _ => ?_) depth inner
    refine expandCall_along_of_running hT.toReads (R := Eq) ?_
      (List.forall₂_same.2 fun _ _ => rfl) (fun _ => rfl) fun texts w' _ _ => hc w' name texts
    rintro w a _ rfl
    exact hl w (depth + 1) a

/-- Pieces go along under two watches that do. -/
theorem watchPieces_along (depth : Nat) (ps : List Piece) :
    Run.Along T w (watchPieces watch respond l depth ps)
      (watchPieces watch' respond' l' depth ps) := by
  induction ps generalizing w with
  | nil => exact .pure (some [])
  | cons piece ps ih =>
    simp only [watchPieces]
    refine .stopped_bind ?_
    split
    · exact .pure none
    · next hrunning =>
      have hpiece : Run.Along T w (watchPiece watch respond l depth piece)
          (watchPiece watch' respond' l' depth piece) := by
        cases piece with
        | plain c => exact .pure (some [c])
        | dangling => exact .pure (some [])
        | unterminated => exact hT.failWith _ none
        | reference inner =>
          simp only [watchPiece, map_eq_pure_bind]
          exact .bind hT.toSteps (watchReference_along hT hwatch hl hc
            (Bool.eq_false_iff.2 hrunning) depth inner) fun a w' _ => .pure _
        | single c =>
          simp only [watchPiece, expandPiece, map_eq_pure_bind]
          exact .bind hT.toSteps (expandVariable_along hl depth [c]) fun a w' _ => .pure _
      refine .bind hT.toSteps hpiece fun front w' _ => ?_
      cases front with
      | none => exact .pure none
      | some front => exact .bind hT.toSteps ih fun back w'' _ => .pure _

/-- A text goes along where its pieces do. -/
theorem watchText_along (depth : Nat) (text : Text) :
    Run.Along T w (watchText watch respond l depth text)
      (watchText watch' respond' l' depth text) := by
  unfold watchText
  split
  · exact hT.failWith _ []
  · exact .bind hT.toSteps (watchPieces_along hT hwatch hl hc depth _) fun _ w' _ => .pure _

end

/-- An assignment goes along where the watches do before its effect. -/
theorem watchAssign_along (name : Text) (op : Assignment) (value : Text) :
    Run.Along T w (watchAssign watch l false name op value)
      (watchAssign watch' l' false name op value) := by
  unfold watchAssign
  split
  · exact .of_eq rfl (hT.fail _)
  · next hname =>
    refine .make_bind ?_
    dsimp only
    split
    · exact .pure ()
    · next horigin =>
      refine .bind_result hT.toSteps (assigned_along hT hl op value _) fun v w' hv hw' => ?_
      cases v with
      | none => exact .pure ()
      | some v =>
        have hne : name ≠ [] := by simpa using hname
        refine .bind hT.toSteps (hwatch w') fun _ w'' hw'' => .of_eq rfl fun _ => ?_
        exact hT.assign (hT.trans hw' hw'') hne horigin (follows_of_assigned hv)

/-- What a statement does is watched in a make that ran when it was begun. -/
theorem watchStatement_along (hrunning : w.make.stopped = false) (s : Statement) :
    Run.Along T w (watchStatement watch l s) (watchStatement watch' l' s) := by
  cases s with
  | assign name op value =>
    refine .stopped_bind ?_
    rw [hrunning]
    exact .bind hT.toSteps (hl w 0 name) fun name w' _ =>
      watchAssign_along hT hwatch hl name.trim op value
  | undefine name =>
    refine .stopped_bind ?_
    rw [hrunning]
    refine .bind hT.toSteps (hl w 0 name) fun name w' _ => .make_bind ?_
    split
    · exact .bind hT.toSteps (hwatch w') fun _ w'' _ => .of_eq rfl (hT.undefine name.trim)
    · exact .of_eq rfl (hT.undefine name.trim)
  | bare line => exact evaluateStatement_along hT hl (.bare line)
  | unterminated => exact evaluateStatement_along hT hl .unterminated

/-- Statements go along where each of them does. -/
theorem watchStatements_along (ss : List Statement) :
    Run.Along T w (watchStatements watch l ss) (watchStatements watch' l' ss) := by
  induction ss generalizing w with
  | nil => exact .pure ()
  | cons s ss ih =>
    simp only [watchStatements]
    refine .stopped_bind ?_
    split
    · exact .pure ()
    · next hrunning =>
      exact .bind hT.toSteps
        (watchStatement_along hT hwatch hl (Bool.eq_false_iff.2 hrunning) s) fun _ w' _ => ih

end

/-- Two watches go along when they do for what was begun in a running make, and answers when they do
there. -/
theorem watchWithin_along {T : World κ μ → World κ μ → Prop} {watch watch' : Watch κ μ}
    {respond respond' : Responder κ μ} (hT : Serves (fun _ => True) T)
    (hwatch : ∀ w, Run.Along T w (watch false) (watch' false))
    (hr : ∀ ⦃l l' : Level κ μ⦄, l.Along T l' → ∀ w name args, w.make.stopped = false →
      Run.Along T w (respond l name args) (respond' l' name args)) (fuel : Nat) :
    (watchWithin watch respond fuel).Along T (watchWithin watch' respond' fuel) := by
  induction fuel with
  | zero => exact ⟨fun _ _ _ => .exhausted, fun _ _ => .exhausted⟩
  | succ fuel ih =>
    refine ⟨fun w depth text => ?_, fun w text => ?_⟩
    · exact watchText_along hT.toWrites hwatch ih.expand
        (fun w name args hrunning => handOut_along hT (hr ih _ name _ hrunning)) depth text
    · exact watchStatements_along hT.toWrites hwatch ih.expand _

end Make

/-! ## In a stopped make -/

/-- Variables, printed lines, the number of calls and the message are as they were. -/
structure World.Frozen (w w' : World κ μ) : Prop where
  bindings : w'.make.bindings = w.make.bindings
  printed : w'.make.printed = w.make.printed
  calls : w'.make.calls = w.make.calls
  fatal : w'.make.fatal = w.make.fatal

namespace World.Frozen

/-- A world is frozen where nothing happens. -/
theorem refl (w : World κ μ) : Frozen w w := ⟨rfl, rfl, rfl, rfl⟩

/-- Taking note of a call of the C interface changes nothing else. -/
theorem note (w : World κ μ) (call : InterfaceCall) : Frozen w (w.note call) := by
  constructor <;> rw [make_note]

/-- What is frozen in two steps is frozen in both together. -/
theorem trans {w₁ w₂ w₃ : World κ μ} (h : Frozen w₁ w₂) (h' : Frozen w₂ w₃) : Frozen w₁ w₃ :=
  ⟨h'.bindings.trans h.bindings, h'.printed.trans h.printed, h'.calls.trans h.calls,
    h'.fatal.trans h.fatal⟩

/-- A frozen world stays stopped. -/
theorem stopped (h : Frozen w w') (hw : w.make.stopped = true) : w'.make.stopped = true := by
  rw [Make.State.stopped, h.fatal]
  exact hw

end World.Frozen

namespace Make

/-- The first message stays: make is stopped only once. -/
theorem State.fail_of_stopped {s : State} (hs : s.stopped = true) (message : Text) :
    s.fail message = s := by
  obtain ⟨first, hfirst⟩ := Option.isSome_iff_exists.1 hs
  rw [State.fail, hfirst]

/-- Freeing a buffer has no effect but on the buffers. -/
theorem release_frozen (hw : w.make.stopped = true) (buffer : Nat) :
    w.Frozen { w with make := w.make.release buffer } := by
  unfold State.release
  split
  · exact ⟨rfl, rfl, rfl, rfl⟩
  · rw [State.fail_of_stopped hw]
    exact .refl w

variable {respond : Responder κ μ} {fuel : Nat}

/-- Nothing is expanded in a stopped make. -/
theorem expand_of_stopped (hw : w.make.stopped = true) {depth : Nat} {text a : Text}
    (h : (levelWithin respond fuel).expand depth text w = some (a, w')) : w' = w := by
  cases fuel with
  | zero => cases h
  | succ fuel =>
    change expandText respond (levelWithin respond fuel) depth text w = some (a, w') at h
    unfold expandText at h
    split at h
    · cases h
      simp only [State.fail_of_stopped hw]
    · cases hps : pieces text with
      | nil =>
        rw [hps] at h
        cases h
        rfl
      | cons piece ps =>
        rw [hps, Run.bind_of_eq_some
          (expandPieces_of_stopped hw (List.cons_ne_nil piece ps))] at h
        cases h
        rfl

/-- Of what the host asks for, make does nothing once it is stopped. -/
theorem handle_frozen (hw : w.make.stopped = true) {r : Request κ μ} {answer : r.Answer}
    (h : handle (levelWithin respond fuel) r w = some (answer, w')) : w.Frozen w' := by
  cases r with
  | evaluate text =>
    have hnote := World.Frozen.note w (.eval text)
    rw [handle, Run.bind_of_eq_some (Run.note_apply _), run_of_stopped (hnote.stopped hw)] at h
    cases h
    exact hnote
  | expand text =>
    have hnote := World.Frozen.note w (.expand text)
    rw [handle, Run.bind_of_eq_some (Run.note_apply _)] at h
    obtain ⟨a, w₁, ha, hanswer⟩ := Run.bind_eq_some.1 h
    cases expand_of_stopped (hnote.stopped hw) ha
    cases hanswer
    exact hnote.trans ⟨rfl, rfl, rfl, rfl⟩
  | allocate content =>
    cases h
    exact ⟨rfl, rfl, rfl, rfl⟩
  | release buffer =>
    cases h
    exact release_frozen hw buffer.id
  | enter entry =>
    cases h
    constructor <;> simp only [World.make_enter]
  | exports | remembered | remember | complain =>
    cases h
    exact ⟨rfl, rfl, rfl, rfl⟩

/-- Whatever the host asks of a stopped make, the world stays frozen. -/
theorem perform_frozen {x : Action κ μ α} (hw : w.make.stopped = true) {a : α}
    (h : perform (levelWithin respond fuel) x w = some (a, w')) : w.Frozen w' := by
  induction x generalizing w with
  | done a =>
    cases h
    exact .refl _
  | ask r next ih =>
    obtain ⟨answer, w₁, hanswer, hrest⟩ := Run.bind_eq_some.1 h
    have hfrozen := handle_frozen hw hanswer
    exact hfrozen.trans (ih answer (hfrozen.stopped hw) hrest)

end Make

/-- Nothing begins in a stopped make. -/
theorem Task.frozen {task : Task κ μ} {respond : Make.Responder κ μ} {fuel : Nat}
    (hw : w.make.stopped = true)
    (h : task.perform (Make.levelWithin respond fuel) w = some ((), w')) :
    w.Frozen w' := by
  cases task with
  | run text =>
    rw [perform, Make.run_of_stopped hw] at h
    cases h
    exact .refl w
  | expand text =>
    obtain ⟨a, w₁, ha, hend⟩ := Run.bind_eq_some.1 h
    cases Make.expand_of_stopped hw ha
    cases hend
    exact .refl w
  | act x =>
    obtain ⟨a, w₁, ha, hend⟩ := Run.bind_eq_some.1 h
    cases hend
    exact Make.perform_frozen hw ha

/-! ## Effects in a stopped make -/

namespace Make

/-- Where make runs, looking whether it does changes nothing. -/
theorem whenRunning_apply {respond : Responder κ μ} {l : Level κ μ} {name : Text} {args : List Text}
    (hw : w.make.stopped = false) :
    respond.whenRunning l name args w = respond l name args w := by
  rw [Responder.whenRunning, Run.bind_of_eq_some Run.stopped_apply, hw]
  rfl

/-- The strict watch has a result in a make that runs. -/
theorem strict_apply (before : Bool) : (Watch.strict before : Run κ μ Unit) w =
    if w.make.stopped then none else some ((), w) := by
  rw [Watch.strict, Run.bind_of_eq_some Run.stopped_apply]
  split <;> rfl

/-- The other watch has a result unless make was stopped just before the effect. -/
theorem uninterrupted_apply (before : Bool) : (Watch.uninterrupted before : Run κ μ Unit) w =
    if w.make.stopped && !before then none else some ((), w) := by
  rw [Watch.uninterrupted, Run.bind_of_eq_some Run.stopped_apply]
  split <;> rfl

/-- Where the other watch has a result it is that of a watch that looks at nothing. -/
theorem uninterrupted_along_idle (w : World κ μ) : Run.Along (fun _ _ => True) w
    (Watch.uninterrupted false) (Watch.idle false) := by
  intro _ a w' h
  rw [uninterrupted_apply] at h
  split at h
  · cases h
  · exact ⟨h, True.intro⟩

/-- What was begun in a running make is interrupted exactly when it would take effect in a stopped
one. -/
theorem strict_eq_uninterrupted :
    (Watch.strict false : Run κ μ Unit) w = Watch.uninterrupted false w := by
  rw [strict_apply, uninterrupted_apply, Bool.not_false, Bool.and_true]

end Make

/-- **A fatal error stops everything but what it interrupts.** From a stopped make, a task leaves
variables, printed lines, calls and the message alone; whatever world it goes through, a message
that is there stays; and calls are handed out in a running make only. Lines are printed and
variables written in a running make only, if and only if there is none for which the expansion of
its own texts has stopped make. -/
theorem Host.fatal_stops (host : Host κ μ) {fuel : Nat} {task : Task κ μ}
    (h : task.perform (host.level fuel) w = some ((), w')) :
    (w.make.stopped = true → w.Frozen w') ∧
    (World.Evolves (fun _ => True) w w' ∧ ∀ w₁ message, World.Evolves (fun _ => True) w₁ w' →
      w₁.make.fatal = some message → w'.make.fatal = some message) ∧
    task.perform (Make.levelWithin host.responder.whenRunning fuel) w = some ((), w') ∧
    (task.perform (Make.watchWithin .strict host.responder.whenRunning fuel) w = some ((), w') ↔
      (task.perform (Make.watchWithin .uninterrupted host.responder fuel) w).isSome = true) := by
  have hanswers : ∀ ⦃l l' : Make.Level κ μ⦄, l.Along (fun _ _ => True) l' → ∀ w name args,
      Run.Along (fun _ _ => True) w (host.responder l name args) (host.responder l' name args) :=
    fun _ _ hl _ _ _ => Make.perform_along World.anything hl (.trivial _)
  have hsame : ∀ (w : World κ μ) (x : Run κ μ Unit), Run.Along (fun _ _ => True) w x x :=
    fun _ _ _ _ _ ha => ⟨ha, True.intro⟩
  have hasked := fun l l' hl w name args (hrunning : w.make.stopped = false) =>
    (@hanswers l l' hl w name args).congr rfl (Make.whenRunning_apply hrunning)
  have hunasked := fun l l' hl w name args (hrunning : w.make.stopped = false) =>
    (@hanswers l l' hl w name args).congr (Make.whenRunning_apply hrunning) rfl
  refine ⟨fun hw => Task.frozen hw h, ⟨?_, fun w₁ message hw₁ => hw₁.fatal⟩, ?_, ?_, ?_⟩
  · exact (task.perform_along (World.Evolves.serves _) (host.level_along (Nat.le_refl fuel))
      .refl h).2
  · have hl := Make.watchWithin_along World.anything (fun w => hsame w (Make.Watch.idle false))
      hasked fuel
    rw [Make.watchWithin_idle, Make.watchWithin_idle] at hl
    exact (task.perform_along World.anything hl True.intro h).1
  · intro hstrict
    have hl := Make.watchWithin_along World.anything
      (fun w => (hsame w _).congr rfl Make.strict_eq_uninterrupted.symm) hunasked fuel
    rw [(task.perform_along World.anything hl True.intro hstrict).1]
    rfl
  · intro hsome
    obtain ⟨⟨_, w₁⟩, huninterrupted⟩ := Option.isSome_iff_exists.1 hsome
    have hidle := Make.watchWithin_along World.anything Make.uninterrupted_along_idle
      (fun _ _ hl w name args _ => hanswers hl w name args) fuel
    rw [Make.watchWithin_idle] at hidle
    cases h.symm.trans (task.perform_along World.anything hidle True.intro huninterrupted).1
    have hl := Make.watchWithin_along World.anything
      (fun w => (hsame w _).congr Make.strict_eq_uninterrupted.symm rfl) hasked fuel
    exact (task.perform_along World.anything hl True.intro huninterrupted).1

/-- What can be seen of a fatal error and the variable `X`. -/
def World.seen (w : World κ μ) : Option Text × List Text × Option Text :=
  (w.make.fatal, w.make.printed, (w.make.bindings.get? "X").map (·.value))

/-- An error between two effects: the line before it is printed, the assignment after it is not
made, and none of them is interrupted. -/
theorem Host.fatal_stops_between : ∃ w',
    (Task.run "$(info a)\n$(error boom)\nX = 1").perform
      (Make.watchWithin .strict Host.quiet.responder.whenRunning 3) (.fresh () .attached) =
        some ((), w') ∧
    w'.seen = (some "boom".toList, ["a".toList], none) := by
  have hrun : ((Task.run "$(info a)\n$(error boom)\nX = 1").perform (Host.quiet.level 3)
      (.fresh () .attached)).map (·.2.seen) = some (some "boom".toList, ["a".toList], none) := by
    decide +kernel
  obtain ⟨⟨_, w'⟩, hrun, hseen⟩ := Option.map_eq_some_iff.1 hrun
  exact ⟨w', (Host.quiet.fatal_stops hrun).2.2.2.2 (by decide +kernel), hseen⟩

/-- A session with a variable. -/
def withVariable : World Unit Unit :=
  { World.fresh () .attached with make := Make.State.fresh.define "X" "1" .file }

/-- Effects in a stopped make. When the name has been expanded, make is stopped and there is no
variable, and it is set all the same. In the same way a variable is removed that is still there
then, and a line is printed that is not yet printed then. -/
theorem Host.fatal_interrupts :
    (((Host.quiet.level 2).expand 0 "X$(error boom)" (.fresh () .attached)).map (·.2.seen) =
        some (some "boom".toList, [], none) ∧
      ((Host.quiet.level 3).run "X$(error boom) = 1" (.fresh () .attached)).map (·.2.seen) =
        some (some "boom".toList, [], some "1".toList)) ∧
    (((Host.quiet.level 2).expand 0 "X$(error boom)" withVariable).map (·.2.seen) =
        some (some "boom".toList, [], some "1".toList) ∧
      ((Host.quiet.level 3).run "undefine X$(error boom)" withVariable).map (·.2.seen) =
        some (some "boom".toList, [], none)) ∧
    (((Host.quiet.level 2).expand 1 "a$(error boom)" (.fresh () .attached)).map (·.2.seen) =
        some (some "boom".toList, [], none) ∧
      ((Host.quiet.level 3).expand 0 "$(info a$(error boom))" (.fresh () .attached)).map
        (·.2.seen) = some (some "boom".toList, ["a".toList], none)) := by
  refine ⟨⟨?_, ?_⟩, ⟨?_, ?_⟩, ⟨?_, ?_⟩⟩ <;> decide +kernel

end MakeHost
