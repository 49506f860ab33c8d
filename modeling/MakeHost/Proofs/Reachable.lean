import MakeHost.Host.Level
import MakeHost.Proofs.Evolution
import MakeHost.Proofs.Literal

/-!
# The worlds of a session

`World.Reachable` are the worlds that a session with a host can be in, in the middle of a call as
well as between two steps: a fresh world after any number of single changes, with variables defined
from outside and fatal errors taken back in between. Whatever make and the host do in such a world
ends in one (`Host.perform_along`, `Host.expand_along`), and every call that is handed out on the
way is handed out in one (`World.Reachable.perform_onlyIn`). Make hands calls to the host there,
every variable and every function has a name, and functions have counts and names that the host
checked (`World.Reachable.sound`).
-/

namespace MakeHost

variable {κ μ : Type} {E : Exported κ → Prop} {w w' : World κ μ}

/-- A world that a session with a host can be in. -/
inductive World.Reachable : World κ μ → Prop
  | fresh (memory : μ) : Reachable (.fresh memory .attached)
  | change {w w' : World κ μ} : Reachable w → World.Change (fun _ => True) w w' → Reachable w'
  | define {w : World κ μ} {name : Text} (value : Text) (origin : Origin) : name ≠ [] →
      Reachable w → Reachable { w with make := w.make.define name value origin }
  | resume {w : World κ μ} :
      Reachable w → Reachable { w with make := { w.make with fatal := none } }

/-! ## What holds in them -/

/-- What the host relies on. -/
structure World.Sound (w : World κ μ) : Prop where
  attached : w.link = .attached
  named : w.make.bindings.get? [] = none
  checked : ∀ name f, w.make.functions.get? name = some f →
    FunctionName.fault? name = none ∧ 1 ≤ f.min

namespace World

/-- In a sound world nothing is bound to the empty name. -/
theorem Sound.noUnnamed (h : w.Sound) : w.NoUnnamed where
  unbound := h.named
  uninstalled := by
    cases hf : w.make.functions.get? [] with
    | none => rfl
    | some f => exact absurd (h.checked [] f hf).1 (by decide)

/-- Make hands calls to the host after a change if it did before. -/
theorem Change.attached (h : Change E w w') (hw : w.link = .attached) : w'.link = .attached := by
  cases h with
  | enter => simp [World.enter, Link.take, hw]
  | note => simpa using hw
  | fail | print | assign | undefine | countCall | allocate | release | remember | complain =>
    exact hw

/-- A single change keeps a world sound. -/
theorem Change.sound (h : Change E w w') (hw : w.Sound) : w'.Sound := by
  refine ⟨h.attached hw.attached, h.unbound hw.named, fun name f hf => ?_⟩
  obtain heq | ⟨entry, -, heq⟩ := h.functions
  · exact hw.checked name f (heq ▸ hf)
  · rw [heq] at hf
    by_cases hname : name = entry.name.text
    · subst hname
      rw [Table.get?_insert_self] at hf
      cases hf
      exact ⟨entry.name.accepted, entry.arity.one_le_min⟩
    · rw [Table.get?_insert_of_ne hname] at hf
      exact hw.checked name f hf

/-- Reachable worlds are sound. -/
theorem Reachable.sound (h : w.Reachable) : w.Sound := by
  induction h with
  | fresh memory => exact ⟨rfl, rfl, nofun⟩
  | change _ hchange ih => exact hchange.sound ih
  | define value origin hname _ ih =>
    exact ⟨ih.attached, (Table.get?_insert_of_ne hname.symm).trans ih.named, ih.checked⟩
  | resume _ ih => exact ⟨ih.attached, ih.named, ih.checked⟩

/-- Any number of changes leads to a reachable world again. -/
theorem Reachable.evolve (hw : w.Reachable) (h : Evolves (fun _ => True) w w') :
    w'.Reachable := by
  induction h with
  | refl => exact hw
  | tail _ hchange ih => exact .change ih hchange

/-- Evolving keeps a world sound. -/
theorem Evolves.sound (h : Evolves E w w') (hw : w.Sound) : w'.Sound := by
  induction h with
  | refl => exact hw
  | tail _ hchange ih => exact hchange.sound ih

/-- A stopped make stays stopped, with the message that it was stopped with. -/
theorem Change.fatal (h : Change E w w') {message : Text} (hw : w.make.fatal = some message) :
    w'.make.fatal = some message := by
  cases h with
  | fail => simp [Make.State.fail, hw]
  | release buffer =>
    dsimp only [Make.State.release]
    split
    · exact hw
    · simp [Make.State.fail, hw]
  | undefine name =>
    dsimp only [Make.State.undefine]
    split
    · exact hw
    · split <;> exact hw
  | enter entry =>
    simp only [World.enter, Make.State.install]
    split
    · simp [Make.State.fail, hw]
    · split
      · simp [Make.State.fail, hw]
      · exact hw
  | print | assign | countCall | allocate | remember | complain => exact hw
  | note => rw [make_note]; exact hw

/-- A message that make was stopped with stays. -/
theorem Evolves.fatal (h : Evolves E w w') {message : Text} (hw : w.make.fatal = some message) :
    w'.make.fatal = some message := by
  induction h with
  | refl => exact hw
  | tail _ hchange ih => exact hchange.fatal ih

/-- A make that goes on was never stopped on the way. -/
theorem Evolves.running (h : Evolves E w w') (hw' : w'.make.stopped = false) :
    w.make.stopped = false := by
  cases hfatal : w.make.fatal with
  | none => simp [Make.State.stopped, hfatal]
  | some message => simp [Make.State.stopped, h.fatal hfatal] at hw'

end World

/-! ## Runs -/

section
variable (host : Host κ μ) {fuel more : Nat}

/-- Whatever the host does is an evolution. -/
theorem Host.responder_along : host.responder.Along (World.Evolves fun _ => True) host.responder :=
  fun _ _ hl _ _ _ => Make.perform_along (World.Evolves.serves _) hl (.trivial _)

/-- Make with a host does with more nesting what it does with less, and evolves the world. -/
theorem Host.level_along (h : fuel ≤ more) :
    (host.level fuel).Along (World.Evolves fun _ => True) (host.level more) :=
  Make.levelWithin_along (World.Evolves.serves _) host.responder_along h

variable {host}

/-- Performing an action is an evolution, and more nesting keeps its result. -/
theorem Host.perform_along {α : Type} {x : Action κ μ α} {a : α} (h : fuel ≤ more)
    (hx : Make.perform (host.level fuel) x w = some (a, w')) :
    Make.perform (host.level more) x w = some (a, w') ∧ World.Evolves (fun _ => True) w w' :=
  Make.perform_along (World.Evolves.serves _) (host.level_along h) (.trivial x) .refl hx

/-- Expanding a text is an evolution, and more nesting keeps its result. -/
theorem Host.expand_along {depth : Nat} {text a : Text} (h : fuel ≤ more)
    (hx : (host.level fuel).expand depth text w = some (a, w')) :
    (host.level more).expand depth text w = some (a, w') ∧ World.Evolves (fun _ => True) w w' :=
  (host.level_along h).expand w depth text .refl hx

/-- Passing arguments is an evolution, and more nesting keeps them. -/
theorem Host.passed_along {depth : Nat} {policy : Policy} {args texts : List Text}
    (h : fuel ≤ more)
    (hx : Make.passed (host.level fuel) depth policy args w = some (texts, w')) :
    Make.passed (host.level more) depth policy args w = some (texts, w') ∧
      World.Evolves (fun _ => True) w w' :=
  Make.passed_along_same (World.Evolves.serves fun _ : Exported κ => True).toReads
    (fun w => (host.level_along h).expand w (depth + 1)) policy args .refl hx

end

/-! ## Calls on the way -/

open Classical in
/-- Answers only in worlds that satisfy `P`; elsewhere there is no result. -/
noncomputable def Make.Responder.onlyIn (P : World κ μ → Prop) (respond : Make.Responder κ μ) :
    Make.Responder κ μ :=
  fun l name args w => if P w then respond l name args w else none

/-- Steps between worlds that satisfy what the steps preserve. -/
theorem Make.Serves.restrict {T : World κ μ → World κ μ → Prop} (hT : Make.Serves E T)
    {P : World κ μ → Prop} (hP : ∀ {w w'}, T w w' → P w → P w') :
    Make.Serves E fun w w' => P w ∧ P w' ∧ T w w' where
  right h := ⟨h.2.1, h.2.1, hT.right h.2.2⟩
  trans h h' := ⟨h.1, h'.2.1, hT.trans h.2.2 h'.2.2⟩
  fail message h := ⟨h.1, hP (hT.fail message h.2.2) h.1, hT.fail message h.2.2⟩
  print line h := ⟨h.1, hP (hT.print line h.2.2) h.1, hT.print line h.2.2⟩
  assign h hname horigin hv :=
    have hstep := hT.assign h.2.2 hname horigin hv
    ⟨h.2.1, hP hstep h.2.1, hstep⟩
  undefine name h := ⟨h.1, hP (hT.undefine name h.2.2) h.1, hT.undefine name h.2.2⟩
  note call h := ⟨h.1, hP (hT.note call h.2.2) h.1, hT.note call h.2.2⟩
  countCall h := ⟨h.1, hP (hT.countCall h.2.2) h.1, hT.countCall h.2.2⟩
  allocate h := ⟨h.1, hP (hT.allocate h.2.2) h.1, hT.allocate h.2.2⟩
  release buffer h := ⟨h.1, hP (hT.release buffer h.2.2) h.1, hT.release buffer h.2.2⟩
  enter entry hentry h :=
    ⟨h.1, hP (hT.enter entry hentry h.2.2) h.1, hT.enter entry hentry h.2.2⟩
  remember memory h := ⟨h.1, hP (hT.remember memory h.2.2) h.1, hT.remember memory h.2.2⟩
  complain line h := ⟨h.1, hP (hT.complain line h.2.2) h.1, hT.complain line h.2.2⟩

/-- Evolutions between reachable worlds allow what make and the host do. -/
theorem World.Reachable.serves : Make.Serves (fun _ : Exported κ => True) fun w w' : World κ μ =>
    w.Reachable ∧ w'.Reachable ∧ World.Evolves (fun _ => True) w w' :=
  (World.Evolves.serves _).restrict fun hstep hw => hw.evolve hstep

section
variable {P : World κ μ → Prop} {T : World κ μ → World κ μ → Prop}
  {respond respond' : Make.Responder κ μ}

/-- In the worlds that steps are restricted to, answering only there is answering. -/
theorem Make.Responder.Along.onlyIn (hT : ∀ {w}, T w w → P w) (h : respond.Along T respond') :
    respond.Along T (respond'.onlyIn P) := by
  intro l l' hl w name args hw a w' ha
  have hanswer : respond'.onlyIn P l' name args w = respond' l' name args w := if_pos (hT hw)
  rw [hanswer]
  exact h hl w name args hw ha

end

/-- What the changes of a world preserve holds of every world in which a call is handed out while
the host acts, and at the end. -/
theorem Host.perform_onlyIn (host : Host κ μ) (fuel : Nat) {P : World κ μ → Prop}
    (hP : ∀ {w w'}, World.Evolves (fun _ => True) w w' → P w → P w') (hw : P w) {α : Type}
    {x : Action κ μ α} {a : α} (hx : Make.perform (host.level fuel) x w = some (a, w')) :
    Make.perform (Make.levelWithin (host.responder.onlyIn P) fuel) x w = some (a, w') ∧ P w' := by
  have hserves := (World.Evolves.serves fun _ : Exported κ => True).restrict hP
  have hhost : host.responder.Along (fun w w' => P w ∧ P w' ∧ World.Evolves (fun _ => True) w w')
      host.responder :=
    fun _ _ hl _ _ _ => Make.perform_along hserves hl (.trivial _)
  have hlevel := Make.levelWithin_along hserves (hhost.onlyIn fun hw => hw.1) (Nat.le_refl fuel)
  obtain ⟨hresult, hstep⟩ := Make.perform_along hserves hlevel (.trivial x) ⟨hw, hw, .refl⟩ hx
  exact ⟨hresult, hstep.2.1⟩

/-- **Every call that is handed out while the host acts in a reachable world is handed out in a
reachable world.** -/
theorem World.Reachable.perform_onlyIn (host : Host κ μ) (fuel : Nat) (hw : w.Reachable) {α : Type}
    {x : Action κ μ α} {a : α} (hx : Make.perform (host.level fuel) x w = some (a, w')) :
    Make.perform (Make.levelWithin (host.responder.onlyIn World.Reachable) fuel) x w =
      some (a, w') ∧ w'.Reachable :=
  host.perform_onlyIn fuel (fun hstep hw => hw.evolve hstep) hw hx

end MakeHost
