import MakeHost.Proofs.Nesting
import MakeHost.Proofs.Table
import Mathlib.Logic.Relation

/-!
# How worlds change

`World.Change` lists the single changes that make and its host make to a world, and a world
`Evolves` by any number of them. An evolution allows everything that make and an action of the host
do (`World.Evolves.serves`), so a world in the middle of a run, at whatever nesting, is one too.
What one change leaves alone is said here once for all of them: the command line's variables
(`World.Change.get?_commandLine`), the functions but for those exported (`World.Change.functions`),
and that nothing is bound to the empty name (`World.Change.unbound`).
-/

namespace MakeHost

variable {κ μ : Type} {E : Exported κ → Prop} {w w' : World κ μ}

/-- A single change of a world. Exported functions satisfy `E`, and an assignment leaves the
command line's variables alone. -/
inductive World.Change (E : Exported κ → Prop) (w : World κ μ) : World κ μ → Prop
  | fail (message : Text) : Change E w { w with make := w.make.fail message }
  | print (line : Text) : Change E w { w with make := w.make.print line }
  | assign {name : Text} {v : Variable} : name ≠ [] →
      (w.make.bindings.get? name).map (·.origin) ≠ some .commandLine → v.origin = .file →
      Change E w { w with make := w.make.setVariable name v }
  | undefine (name : Text) : Change E w { w with make := w.make.undefine name }
  | countCall : Change E w { w with make := w.make.countCall }
  | allocate : Change E w { w with make := w.make.allocate.2 }
  | release (buffer : Nat) : Change E w { w with make := w.make.release buffer }
  | note (call : InterfaceCall) : Change E w (w.note call)
  | enter {entry : Exported κ} : E entry → Change E w (w.enter entry)
  | remember (memory : μ) : Change E w { w with memory := memory }
  | complain (line : Text) : Change E w { w with complaints := line :: w.complaints }

/-- Any number of changes. -/
abbrev World.Evolves (E : Exported κ → Prop) : World κ μ → World κ μ → Prop :=
  Relation.ReflTransGen (World.Change E)

namespace Make

/-! ## Reading a state after a change -/

variable {s : State} {name other message line : Text} {v : Variable} {buffer : Nat}

@[simp] theorem State.bindings_fail : (s.fail message).bindings = s.bindings := by
  unfold State.fail; split <;> rfl

@[simp] theorem State.functions_fail : (s.fail message).functions = s.functions := by
  unfold State.fail; split <;> rfl

@[simp] theorem State.calls_fail : (s.fail message).calls = s.calls := by
  unfold State.fail; split <;> rfl

@[simp] theorem State.live_fail : (s.fail message).live = s.live := by
  unfold State.fail; split <;> rfl

/-- A fatal error stops make. -/
@[simp] theorem State.stopped_fail : (s.fail message).stopped = true := by
  unfold State.fail State.stopped
  cases hfatal : s.fatal <;> simp [hfatal]

@[simp] theorem State.bindings_release : (s.release buffer).bindings = s.bindings := by
  unfold State.release; split <;> simp

@[simp] theorem State.functions_release : (s.release buffer).functions = s.functions := by
  unfold State.release; split <;> simp

@[simp] theorem State.calls_release : (s.release buffer).calls = s.calls := by
  unfold State.release; split <;> simp

@[simp] theorem State.functions_undefine : (s.undefine name).functions = s.functions := by
  unfold State.undefine; split
  · rfl
  · split <;> rfl

@[simp] theorem State.calls_undefine : (s.undefine name).calls = s.calls := by
  unfold State.undefine; split
  · rfl
  · split <;> rfl

@[simp] theorem State.live_undefine : (s.undefine name).live = s.live := by
  unfold State.undefine; split
  · rfl
  · split <;> rfl

/-- Whether make is stopped is left alone by undefining a variable. -/
@[simp] theorem State.stopped_undefine : (s.undefine name).stopped = s.stopped := by
  unfold State.undefine; split
  · rfl
  · split <;> rfl

/-- What `undefine` leaves of a variable: one of the command line stays. -/
theorem State.get?_undefine_self : (s.undefine name).bindings.get? name =
    (s.bindings.get? name).filter (·.origin = .commandLine) := by
  unfold State.undefine
  cases h : s.bindings.get? name with
  | none => simp [h]
  | some v => by_cases hv : v.origin = .commandLine <;> simp [hv, h, Option.filter]

/-- `undefine` leaves the other variables alone. -/
theorem State.get?_undefine_of_ne (h : other ≠ name) :
    (s.undefine name).bindings.get? other = s.bindings.get? other := by
  unfold State.undefine
  split
  · rfl
  · split
    · rfl
    · exact Table.get?_erase_of_ne h

end Make

/-! ## What one change leaves alone -/

namespace World

@[simp] theorem make_note (call : InterfaceCall) : (w.note call).make = w.make := by
  unfold note; split <;> rfl

@[simp] theorem link_note (call : InterfaceCall) : (w.note call).link = w.link := by
  unfold note; split <;> rfl

/-- Nothing is noted while no object is loaded. -/
theorem note_of_attached (h : w.link = .attached) (call : InterfaceCall) : w.note call = w := by
  unfold note; rw [h]

end World

@[simp] theorem Make.State.bindings_install {s : Make.State} {name : Text} {min max : Nat}
    {policy : Policy} : (s.install name min max policy).bindings = s.bindings := by
  unfold Make.State.install
  split
  · simp
  · split <;> simp

@[simp] theorem Make.State.calls_install {s : Make.State} {name : Text} {min max : Nat}
    {policy : Policy} : (s.install name min max policy).calls = s.calls := by
  unfold Make.State.install
  split
  · simp
  · split <;> simp

/-- What make records of an exported function. -/
def Exported.function (entry : Exported κ) : Make.Function :=
  ⟨entry.arity.min, entry.arity.rawMax, entry.policy⟩

/-- An exported function has a name and counts that make accepts, so make takes it. -/
theorem World.make_enter (entry : Exported κ) : (w.enter entry).make = { w.make with
    functions := w.make.functions.insert entry.name.text entry.function } := by
  have hlen : ¬ 255 < entry.name.text.byteLength := by
    have h := entry.name.accepted
    unfold FunctionName.fault? at h
    split at h
    · cases h
    · split at h
      · cases h
      · next hlong => exact hlong
  have hmax : ¬ (entry.arity.rawMax ≠ 0 ∧ entry.arity.rawMax < entry.arity.min) := by
    have := entry.arity.ordered
    omega
  simp only [World.enter, Make.State.install, if_neg hlen, if_neg hmax]
  rfl

/-- An export that is entered is make's function of its name. -/
theorem World.functions_enter (entry : Exported κ) : (w.enter entry).make.functions =
    w.make.functions.insert entry.name.text entry.function := by
  rw [World.make_enter]

namespace World.Change

/-- Changes make no variables of the command line and leave those there are alone. -/
theorem get?_commandLine (h : Change E w w') {name : Text} {v : Variable}
    (hv : v.origin = .commandLine) :
    w'.make.bindings.get? name = some v ↔ w.make.bindings.get? name = some v := by
  cases h with
  | @assign other u _ hold hu =>
    by_cases hn : name = other
    · subst hn
      simp only [Make.State.setVariable, Table.get?_insert_self, Option.some.injEq]
      constructor
      · rintro rfl
        exact absurd (hu.symm.trans hv) (by decide)
      · intro hw
        rw [hw] at hold
        exact absurd (congrArg some hv) hold
    · simp only [Make.State.setVariable, Table.get?_insert_of_ne hn]
  | undefine other =>
    by_cases hn : name = other
    · subst hn
      simp only [Make.State.get?_undefine_self, Option.filter_eq_some_iff, decide_eq_true_eq]
      exact ⟨fun h => h.1, fun h => ⟨h, hv⟩⟩
    · simp only [Make.State.get?_undefine_of_ne hn]
  | fail | print | countCall | allocate | release | note | remember | complain =>
    simp [Make.State.print, Make.State.countCall, Make.State.allocate]
  | enter => simp [World.enter]

/-- Functions come to be only as the host exports them. -/
theorem functions (h : Change E w w') : w'.make.functions = w.make.functions ∨
    ∃ entry, E entry ∧
      w'.make.functions = w.make.functions.insert entry.name.text entry.function := by
  cases h with
  | @enter entry hentry => exact .inr ⟨entry, hentry, functions_enter entry⟩
  | fail | undefine | release | note => exact .inl (by simp)
  | print | assign | countCall | allocate | remember | complain => exact .inl rfl

/-- Nothing comes to be bound to the empty name. -/
theorem unbound (h : Change E w w') (hw : w.make.bindings.get? [] = none) :
    w'.make.bindings.get? [] = none := by
  cases h with
  | assign hname _ _ => exact (Table.get?_insert_of_ne hname.symm).trans hw
  | undefine name =>
    by_cases hname : name = []
    · subst hname
      simp [Make.State.get?_undefine_self, hw]
    · simpa [Make.State.get?_undefine_of_ne (Ne.symm hname)] using hw
  | enter => simpa [World.enter] using hw
  | fail | release | note => simpa using hw
  | print | countCall | allocate | remember | complain => exact hw

/-- Calls are only counted up. -/
theorem calls_le (h : Change E w w') : w.make.calls ≤ w'.make.calls := by
  cases h <;>
    simp [Make.State.print, Make.State.setVariable, Make.State.countCall, Make.State.allocate,
      World.enter]

end World.Change

/-- Calls are counted, and no count goes down. -/
theorem World.Evolves.calls_le (h : Evolves E w w') : w.make.calls ≤ w'.make.calls := by
  induction h with
  | refl => exact Nat.le_refl _
  | tail _ hc ih => exact Nat.le_trans ih hc.calls_le

/-- A variable of the command line is one before and after any number of changes. -/
theorem World.Evolves.get?_commandLine (h : Evolves E w w') {name : Text} {v : Variable}
    (hv : v.origin = .commandLine) :
    w'.make.bindings.get? name = some v ↔ w.make.bindings.get? name = some v := by
  induction h with
  | refl => rfl
  | tail _ hc ih => exact (hc.get?_commandLine hv).trans ih

/-- No variable comes to be one of the command line. -/
theorem World.Evolves.origin_ne_commandLine (h : Evolves E w w') {name : Text}
    (hw : (w.make.bindings.get? name).map (·.origin) ≠ some .commandLine) :
    (w'.make.bindings.get? name).map (·.origin) ≠ some .commandLine := by
  intro hw'
  obtain ⟨v, hv, horigin⟩ := Option.map_eq_some_iff.1 hw'
  exact hw (Option.map_eq_some_iff.2 ⟨v, (h.get?_commandLine horigin).1 hv, horigin⟩)

/-! ## Everything is an evolution -/

/-- Nothing is asked of worlds, so everything that make and the host do is allowed. -/
theorem World.anything : Make.Serves (fun _ : Exported κ => True) fun _ _ : World κ μ => True where
  right _ := True.intro
  trans _ _ := True.intro
  fail _ _ := True.intro
  print _ _ := True.intro
  assign _ _ _ _ := True.intro
  undefine _ _ := True.intro
  note _ _ := True.intro
  countCall _ := True.intro
  allocate _ := True.intro
  release _ _ := True.intro
  enter _ _ _ := True.intro
  remember _ _ := True.intro
  complain _ _ := True.intro

/-- An evolution allows what make and the host do. -/
theorem World.Evolves.serves (E : Exported κ → Prop) :
    Make.Serves E (World.Evolves E : World κ μ → World κ μ → Prop) where
  right _ := .refl
  trans := .trans
  fail message _ := .single (.fail message)
  print line _ := .single (.print line)
  assign h hname horigin hv :=
    .single (.assign hname (h.origin_ne_commandLine horigin) hv.origin)
  undefine name _ := .single (.undefine name)
  note call _ := .single (.note call)
  countCall _ := .single .countCall
  allocate _ := .single .allocate
  release buffer _ := .single (.release buffer)
  enter _ hentry _ := .single (.enter hentry)
  remember memory _ := .single (.remember memory)
  complain line _ := .single (.complain line)

end MakeHost
