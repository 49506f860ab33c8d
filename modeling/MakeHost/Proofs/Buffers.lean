import MakeHost.Proofs.ArgumentCount
import MakeHost.Proofs.Ownership

/-!
# Buffers in use

The identity of a buffer is never given out twice, so a buffer that was allocated and is not in use
any more was freed, and it was freed once if no buffer is freed that is not in use. `World.Balanced`
says of a run that the buffers in use after it are those before it; `Make.performChecked` and
`Host.checkedLevel` are make and its host with no result where a buffer is to be freed that is not
in use. `World.Reachable.run_balanced`: with functions that drop what they are handed, runs of any
length are balanced, and the checks change nothing.
-/

namespace MakeHost

variable {κ μ α : Type} {w w' : World κ μ}

/-! ## Identities -/

/-- The buffers in use are different, and their identities have been given out. -/
structure Make.State.Numbered (s : Make.State) : Prop where
  nodup : s.live.Nodup
  below : ∀ id ∈ s.live, id < s.nextBuffer

namespace Make.State

variable {s s' : Make.State}

/-- Only the buffers in use and the next identity count. -/
theorem Numbered.of_eq (hs : s.Numbered) (hlive : s'.live = s.live)
    (hnext : s'.nextBuffer = s.nextBuffer) : s'.Numbered := by
  refine ⟨?_, ?_⟩
  · rw [hlive]
    exact hs.nodup
  · rw [hlive, hnext]
    exact hs.below

/-- A new buffer gets an identity that was never given out. -/
theorem Numbered.allocate (hs : s.Numbered) : s.allocate.2.Numbered where
  nodup := List.nodup_cons.2 ⟨fun h => Nat.lt_irrefl _ (hs.below _ h), hs.nodup⟩
  below id hid := by
    obtain rfl | hid := List.mem_cons.1 hid
    · exact Nat.lt_succ_self _
    · exact Nat.lt_succ_of_lt (hs.below id hid)

/-- A fatal error gives no buffer out. -/
@[simp] theorem nextBuffer_fail {message : Text} : (s.fail message).nextBuffer = s.nextBuffer := by
  unfold fail; split <;> rfl

/-- Undefining a variable gives no buffer out. -/
@[simp] theorem nextBuffer_undefine {name : Text} :
    (s.undefine name).nextBuffer = s.nextBuffer := by
  unfold undefine; split
  · rfl
  · split <;> rfl

/-- An identity is not given out again when its buffer is released. -/
@[simp] theorem nextBuffer_release {buffer : Nat} :
    (s.release buffer).nextBuffer = s.nextBuffer := by
  unfold release; split <;> simp

/-- A released buffer is not in use any more. -/
theorem live_release (buffer : Nat) : (s.release buffer).live = s.live.erase buffer := by
  unfold release
  split
  · rfl
  · next h => simp only [live_fail, List.erase_of_not_mem (by simpa using h)]

/-- The other buffers stay numbered when one is released. -/
theorem Numbered.release (hs : s.Numbered) (buffer : Nat) : (s.release buffer).Numbered where
  nodup := live_release buffer ▸ hs.nodup.erase buffer
  below id hid := by
    rw [live_release] at hid
    rw [nextBuffer_release]
    exact hs.below id (List.mem_of_mem_erase hid)

end Make.State

/-- A change keeps the buffers numbered. -/
theorem World.Change.numbered {E : Exported κ → Prop} (h : World.Change E w w')
    (hw : w.make.Numbered) : w'.make.Numbered := by
  cases h with
  | fail message => exact hw.of_eq (by simp) (by simp)
  | undefine name => exact hw.of_eq (by simp) (by simp)
  | note call => exact hw.of_eq (by simp) (by simp)
  | enter => exact hw.of_eq (by simp [World.make_enter]) (by simp [World.make_enter])
  | allocate => exact hw.allocate
  | release buffer => exact hw.release buffer
  | print | assign | countCall | remember | complain => exact hw.of_eq rfl rfl

/-- In every world that can be reached the buffers are numbered. -/
theorem World.Reachable.numbered (h : w.Reachable) : w.make.Numbered := by
  induction h with
  | fresh memory => exact ⟨List.nodup_nil, nofun⟩
  | change _ hchange ih => exact hchange.numbered ih
  | define value origin _ _ ih => exact ih.of_eq rfl rfl
  | resume _ ih => exact ih.of_eq rfl rfl

/-! ## Balanced runs -/

/-- The same buffers are in use in both worlds, and none that was allocated in between. -/
structure World.Balanced (w w' : World κ μ) : Prop where
  before : w.make.Numbered
  after : w'.make.Numbered
  live : w'.make.live.Perm w.make.live
  next : w.make.nextBuffer ≤ w'.make.nextBuffer

namespace World.Balanced

/-- A run in which nothing happens is balanced. -/
theorem refl (hw : w.make.Numbered) : Balanced w w := ⟨hw, hw, .refl _, Nat.le_refl _⟩

/-- Nothing happened to the buffers. -/
theorem of_eq (hw : Balanced w w) (hlive : w'.make.live = w.make.live)
    (hnext : w'.make.nextBuffer = w.make.nextBuffer) : Balanced w w' where
  before := hw.before
  after := hw.before.of_eq hlive hnext
  live := by rw [hlive]
  next := by rw [hnext]

/-- A buffer that was allocated in between is not in use any more. -/
theorem freed (h : Balanced w w') {id : Nat} (hid : w.make.nextBuffer ≤ id) :
    id ∉ w'.make.live := by
  intro hlive
  have hbelow := h.before.below id (h.live.mem_iff.1 hlive)
  omega

/-- Evaluation and expansion are balanced, as far as they act by themselves. -/
theorem writes : Make.Writes (Balanced : World κ μ → World κ μ → Prop) where
  right h := refl h.after
  trans h h' := ⟨h.before, h'.after, h'.live.trans h.live, h.next.trans h'.next⟩
  fail _ h := h.of_eq Make.State.live_fail Make.State.nextBuffer_fail
  print _ h := h.of_eq rfl rfl
  assign h _ _ _ := (refl h.after).of_eq rfl rfl
  undefine _ h := h.of_eq Make.State.live_undefine Make.State.nextBuffer_undefine

end World.Balanced

/-- In `w'`, which comes after `w`, exactly these buffers are in use. -/
structure World.Leaves (w : World κ μ) (ids : Multiset Nat) (w' : World κ μ) : Prop where
  numbered : w'.make.Numbered
  live : (w'.make.live : Multiset Nat) = ids
  next : w.make.nextBuffer ≤ w'.make.nextBuffer

namespace World.Leaves

variable {ids : Multiset Nat}

/-- A run starts out with the buffers it was given. -/
theorem start (hw : w.make.Numbered) (hlive : (w.make.live : Multiset Nat) = ids) :
    Leaves w ids w := ⟨hw, hlive, Nat.le_refl _⟩

/-- What is balanced leaves every buffer that was there. -/
theorem of_balanced (h : Balanced w w') (hlive : (w.make.live : Multiset Nat) = ids) :
    Leaves w ids w' := ⟨h.after, (Multiset.coe_eq_coe.2 h.live).trans hlive, h.next⟩

/-- A run that leaves exactly what was there is balanced. -/
theorem balanced (h : Leaves w w.make.live w') (hw : w.make.Numbered) : Balanced w w' :=
  ⟨hw, h.numbered, Multiset.coe_eq_coe.1 h.live, h.next⟩

/-- Nothing happens to the buffers from there on. -/
theorem of_eq {w'' : World κ μ} (h : Leaves w ids w') (hlive : w''.make.live = w'.make.live)
    (hnext : w''.make.nextBuffer = w'.make.nextBuffer) : Leaves w ids w'' where
  numbered := h.numbered.of_eq hlive hnext
  live := by rw [hlive, h.live]
  next := by rw [hnext]; exact h.next

/-- A new buffer is left beside the others. -/
theorem allocate (h : Leaves w ids w') :
    Leaves w ({w'.make.nextBuffer} + ids) { w' with make := w'.make.allocate.2 } where
  numbered := h.numbered.allocate
  live := by rw [← h.live]; rfl
  next := Nat.le_succ_of_le h.next

/-- A released buffer is not left any more. -/
theorem release {buffer : Nat} (h : Leaves w ({buffer} + ids) w') :
    Leaves w ids { w' with make := w'.make.release buffer } where
  numbered := h.numbered.release buffer
  live := by
    rw [Make.State.live_release, ← Multiset.coe_erase, h.live, Multiset.singleton_add,
      Multiset.erase_cons_head]
  next := by
    rw [Make.State.nextBuffer_release]
    exact h.next

end World.Leaves

/-! ## Checks -/

/-- Goes on while the buffers are in use; there is no result otherwise. -/
def Run.inUse (ids : Multiset Nat) : Run κ μ Unit :=
  fun w => if ids ≤ w.make.live then some ((), w) else none

namespace Make

/-- Performs an action; there is no result when a buffer is to be freed that is not in use. -/
def performChecked (level : Level κ μ) {α : Type} : Action κ μ α → Run κ μ α
  | .done a => pure a
  | .ask r next => do
    Run.inUse r.freed
    let answer ← handle level r
    performChecked level (next answer)

variable {l l' : Level κ μ} {kept : α → Multiset Nat} {owned beside : Multiset Nat}
  {x : Action κ μ α}

/-- A request takes what it frees out of use, and what its answer hands over into use. -/
theorem handle_leaves (hl : l.Along World.Balanced l') {r : Request κ μ} {rest : Multiset Nat}
    (hw : w.make.Numbered) (hlive : (w.make.live : Multiset Nat) = r.freed + rest)
    {answer : r.Answer} (h : handle l r w = some (answer, w')) :
    handle l' r w = some (answer, w') ∧ w.Leaves (r.taken answer + rest) w' := by
  have hstart := World.Leaves.start hw hlive
  cases r with
  | evaluate text =>
    have hnote : World.Balanced w (w.note (.eval text)) :=
      (World.Balanced.refl hw).of_eq (by simp) (by simp)
    obtain ⟨hrun, hstep⟩ := Level.run_along hl.evaluate text (.refl hnote.after) h
    exact ⟨hrun, .of_balanced (World.Balanced.writes.trans hnote hstep) hlive⟩
  | expand text =>
    have hnote : World.Balanced w (w.note (.expand text)) :=
      (World.Balanced.refl hw).of_eq (by simp) (by simp)
    rw [handle, Run.bind_of_eq_some (Run.note_apply _)] at h ⊢
    obtain ⟨a, w₁, ha, hanswer⟩ := Run.bind_eq_some.1 h
    obtain ⟨hexpand, hstep⟩ := hl.expand _ 0 text (.refl hnote.after) ha
    have hleaves := World.Leaves.of_balanced (World.Balanced.writes.trans hnote hstep) hlive
    cases hanswer
    rw [Request.freed, zero_add] at hleaves
    exact ⟨Run.bind_of_eq_some hexpand, hleaves.allocate⟩
  | allocate content =>
    cases h
    rw [Request.freed, zero_add] at hstart
    exact ⟨rfl, hstart.allocate⟩
  | release buffer =>
    cases h
    have htaken : w.Leaves (0 + rest) { w with make := w.make.release buffer.id } := by
      rw [zero_add]
      exact hstart.release
    exact ⟨rfl, htaken⟩
  | exports | remembered =>
    cases h
    exact ⟨rfl, hstart⟩
  | enter entry =>
    cases h
    exact ⟨rfl, hstart.of_eq (by simp [World.make_enter]) (by simp [World.make_enter])⟩
  | remember | complain =>
    cases h
    exact ⟨rfl, hstart.of_eq rfl rfl⟩

/-- **An action leaves the buffers that it keeps, and those beside**, and never frees a buffer that
is not in use. By induction on the action: each request takes its buffers from those that are owned.
-/
theorem perform_leaves (hl : l.Along World.Balanced l') (hx : x.Owns kept owned)
    (hw : w.make.Numbered) (hlive : (w.make.live : Multiset Nat) = owned + beside) {a : α}
    (h : perform l x w = some (a, w')) :
    performChecked l' x w = some (a, w') ∧ w.Leaves (kept a + beside) w' := by
  induction hx generalizing w with
  | done a =>
    cases h
    exact ⟨rfl, .start hw hlive⟩
  | @ask r next rest _ ih =>
    obtain ⟨answer, w₁, hanswer, hrest⟩ := Run.bind_eq_some.1 h
    rw [add_assoc] at hlive
    have huse : Run.inUse r.freed w = some ((), w) :=
      if_pos (hlive ▸ Multiset.le_add_right r.freed (rest + beside))
    obtain ⟨hhandle, hleaves⟩ := handle_leaves hl hw hlive hanswer
    rw [← add_assoc] at hleaves
    obtain ⟨hperform, hend⟩ := ih answer hleaves.numbered hleaves.live hrest
    refine ⟨?_, hend.numbered, hend.live, hleaves.next.trans hend.next⟩
    rw [performChecked, Run.bind_of_eq_some huse, Run.bind_of_eq_some hhandle]
    exact hperform

end Make

namespace Host

/-- Answers the calls that make hands out; there is no result when a buffer is to be freed that is
not in use, be it by the host or by make once it has read the answer. -/
def checkedResponder (host : Host κ μ) : Make.Responder κ μ := fun level name args => do
  let buffer ← Make.performChecked level (host.respond name args)
  Run.inUse (Buffer.ids buffer)
  return buffer

/-- Make with a host behind it, without a result where a buffer is to be freed that is not in use.
-/
def checkedLevel (host : Host κ μ) (nesting : Nat) : Make.Level κ μ :=
  Make.levelWithin host.checkedResponder nesting

variable {host : Host κ μ} {l l' : Make.Level κ μ}

/-- A call is balanced: the buffer with the answer is freed once make has read it. -/
theorem answer_balanced (hhost : host.Tidy) (hl : l.Along World.Balanced l') (name : Text)
    (args : List Text) :
    Run.Along World.Balanced w (host.responder l name args >>= Make.collect)
      (host.checkedResponder l' name args >>= Make.collect) := by
  intro hw text w' h
  obtain ⟨buffer, w₁, hanswer, hcollect⟩ := Run.bind_eq_some.1 h
  obtain ⟨hperform, hleaves⟩ := Make.perform_leaves hl
    (dispatch_owns hhost name.utf8 (args.map Text.utf8)) hw.before (zero_add _).symm hanswer
  have huse : Run.inUse (Buffer.ids buffer) w₁ = some ((), w₁) :=
    if_pos (hleaves.live ▸ Multiset.le_add_right _ _)
  have hresponse : host.checkedResponder l' name args w = some (buffer, w₁) := by
    rw [checkedResponder, respond, Run.bind_of_eq_some hperform, Run.bind_of_eq_some huse]
    rfl
  refine ⟨(Run.bind_of_eq_some hresponse).trans hcollect, ?_⟩
  cases buffer with
  | none =>
    cases hcollect
    rw [show Buffer.ids none = 0 from rfl, zero_add] at hleaves
    exact hleaves.balanced hw.before
  | some buffer =>
    cases hcollect
    exact hleaves.release.balanced hw.before

/-- Make with a host whose functions drop what they are handed is balanced, and the checks change
nothing. -/
theorem level_balanced (hhost : host.Tidy) (fuel : Nat) :
    (host.level fuel).Along World.Balanced (host.checkedLevel fuel) :=
  Make.levelWithin_along_of World.Balanced.writes
    (fun _ _ hl _ name _ => Make.handOut_along_of World.Balanced.writes.toReads
      (fun hw => hw.of_eq rfl rfl) (answer_balanced hhost hl name _)) (Nat.le_refl fuel)

end Host

/-! ## Runs -/

namespace Task

/-- Does a task with make at this level; there is no result when the host is to free a buffer that
is not in use. -/
def performChecked (level : Make.Level κ μ) : Task κ μ → Run κ μ Unit
  | run text => level.run text
  | expand text => do let _ ← level.expand 0 text
  | act x => do let _ ← Make.performChecked level x

/-- The task drops the buffers that it is handed. -/
def Tidy : Task κ μ → Prop
  | act x => x.Tidy
  | run _ | expand _ => True

variable {host : Host κ μ}

/-- Every task of a host that drops what it is handed is balanced, and passes the checks. -/
theorem perform_balanced (hhost : host.Tidy) {task : Task κ μ} (htask : task.Tidy) (fuel : Nat) :
    Run.Along World.Balanced w (task.perform (host.level fuel))
      (task.performChecked (host.checkedLevel fuel)) := by
  have hl := Host.level_balanced hhost fuel
  cases task with
  | run text => exact Make.Level.run_along hl.evaluate text
  | expand text =>
    exact .bind World.Balanced.writes.toSteps (hl.expand w 0 text) fun _ _ _ => .pure ()
  | act x =>
    refine .bind World.Balanced.writes.toSteps ?_ fun _ _ _ => .pure ()
    intro hw a w' ha
    obtain ⟨hchecked, hleaves⟩ := Make.perform_leaves hl htask hw.before (zero_add _).symm ha
    rw [zero_add] at hleaves
    exact ⟨hchecked, hleaves.balanced hw.before⟩

end Task

/-- **No buffer leaks, and none is freed twice.** Functions and tasks drop what they are handed, as
everything does that is composed of what a host offers and of calls whose result is taken. From
every world of a session, a run of any length leaves the buffers in use that were in use before it,
and none that was allocated on the way. And no buffer is freed on the way that is not in use, at any
depth: with the check the run is the same. -/
theorem World.Reachable.run_balanced {host : Host κ μ} (hhost : host.Tidy) (hw : w.Reachable)
    {tasks : List (Task κ μ)} (htasks : ∀ task ∈ tasks, task.Tidy) {fuel : Nat}
    (h : tasks.forM (·.perform (host.level fuel)) w = some ((), w')) :
    (∀ {α : Type} {x : Action κ μ α}, Host.Asks (fun _ => True) x → x.Tidy) ∧
    (∀ name args, (host.dispatch name args >>= Host.take).Tidy) ∧
    w'.make.live.Perm w.make.live ∧
    (∀ id, w.make.nextBuffer ≤ id → id < w'.make.nextBuffer → id ∉ w'.make.live) ∧
    tasks.forM (·.performChecked (host.checkedLevel fuel)) w = some ((), w') := by
  have hbalanced : Run.Along Balanced w (tasks.forM (·.perform (host.level fuel)))
      (tasks.forM (·.performChecked (host.checkedLevel fuel))) := by
    clear h hw
    induction tasks generalizing w with
    | nil => exact .pure ()
    | cons task tasks ih =>
      obtain ⟨htask, htasks⟩ := List.forall_mem_cons.1 htasks
      exact .bind Balanced.writes.toSteps (Task.perform_balanced hhost htask fuel)
        fun _ _ _ => ih htasks
  obtain ⟨hchecked, hbalanced⟩ := hbalanced (.refl hw.numbered) h
  exact ⟨Host.Asks.tidy, Host.tidy_call hhost, hbalanced.live, fun _ hid _ => hbalanced.freed hid,
    hchecked⟩

/-- Recipes drop what they are handed. -/
theorem Host.recipes_tidy : recipes.Tidy := fun code name args => (code.asks_body id name args).tidy

/-- The name of the function that expands its argument is legal. -/
theorem expanding_accepted : FunctionName.fault? "f" = none := rfl

/-- The name of the function that panics is legal. -/
theorem panicking_accepted : FunctionName.fault? "g" = none := rfl

/-- A session with a function `f` that expands its argument once more, and a function `g` that
panics. -/
def reexpanding : World Recipe Unit :=
  ((World.fresh () .attached).enter
    ⟨⟨"f", expanding_accepted⟩, .expand none, .one, .expand⟩).enter
      ⟨⟨"g", panicking_accepted⟩, .panic none true, .one, .expand⟩

/-- The world with both functions can be reached. -/
theorem reexpanding_reachable : reexpanding.Reachable :=
  .change (.change (.fresh ()) (.enter True.intro)) (.enter True.intro)

/-- A call within a call that make hands out, and one that is made from outside. -/
def reentries : List (Task Recipe Unit) :=
  [.expand "$(f $$(g x))",
    .act (Host.recipes.dispatch (Text.utf8 "f") [Text.utf8 "$(g x)"] >>= Host.take)]

/-- Eight buffers are allocated on the way, and none is left, though the inner call panics. -/
theorem World.Reachable.run_balanced_panicking : ∃ w',
    reentries.forM (·.perform (Host.recipes.level 4)) reexpanding = some ((), w') ∧
    w'.make.nextBuffer = 8 ∧ w'.make.live = [] := by
  have hrun : (reentries.forM (·.perform (Host.recipes.level 4)) reexpanding).map
      (·.2.make.nextBuffer) = some 8 := by
    decide +kernel
  obtain ⟨⟨_, w'⟩, hrun, hnext⟩ := Option.map_eq_some_iff.1 hrun
  have htidy : ∀ task ∈ reentries, task.Tidy := by
    intro task htask
    simp only [reentries, List.mem_cons, List.not_mem_nil, or_false] at htask
    obtain rfl | rfl := htask
    · exact True.intro
    · exact Host.tidy_call Host.recipes_tidy _ _
  obtain ⟨-, -, hlive, -⟩ :=
    reexpanding_reachable.run_balanced Host.recipes_tidy htidy hrun
  exact ⟨w', hrun, hnext, hlive.eq_nil⟩

end MakeHost
