import MakeHost.Proofs.VariableRequests

/-!
# Removing a variable

The host removes a variable by a line that ends in its name, and at the end of a line make takes a
backslash for the sign that the line goes on. A legal name may end in one: then the variable of the
name without it is removed instead (`Host.perform_undefine`). So exactly the variable that the host
names is removed if and only if the name does not end in a backslash, or there is nothing to remove
under either name (`Host.undefine_removes_iff`).
-/

namespace MakeHost

variable {κ μ : Type}

namespace Make.State

variable {s s' : State} {name target : Text}

/-- There is nothing to remove under a name: no variable, or one of the command line. -/
def Fixed (s : State) (name : Text) : Prop :=
  ∀ v, s.bindings.get? name = some v → v.origin = .commandLine

/-- Of the variables of `s` exactly the one of the name is gone in `s'`, unless it is one of the
command line. -/
structure Removed (s s' : State) (name : Text) : Prop where
  gone : s'.bindings.get? name = (s.bindings.get? name).filter (·.origin = .commandLine)
  others : ∀ other, other ≠ name → s'.bindings.get? other = s.bindings.get? other

/-- There is nothing to remove under a name exactly if removing it would change nothing. -/
theorem fixed_iff : s.Fixed name ↔
    (s.bindings.get? name).filter (·.origin = .commandLine) = s.bindings.get? name := by
  unfold Fixed
  cases s.bindings.get? name with
  | none => simp
  | some v => simp [Option.filter]

/-- Removing a variable under another name is right only when both names have nothing to remove. -/
theorem removed_undefine_iff :
    s.Removed (s.undefine target) name ↔ target = name ∨ s.Fixed name ∧ s.Fixed target := by
  constructor
  · intro h
    by_cases heq : target = name
    · exact .inl heq
    · have hname := h.gone
      have htarget := h.others target heq
      rw [get?_undefine_of_ne (Ne.symm heq)] at hname
      rw [get?_undefine_self] at htarget
      exact .inr ⟨fixed_iff.2 hname.symm, fixed_iff.2 htarget⟩
  · rintro (rfl | ⟨hname, htarget⟩)
    · exact ⟨get?_undefine_self, fun other hother => get?_undefine_of_ne hother⟩
    · have hsame : ∀ other, (s.undefine target).bindings.get? other = s.bindings.get? other := by
        intro other
        by_cases hother : other = target
        · rw [hother, get?_undefine_self, fixed_iff.1 htarget]
        · exact get?_undefine_of_ne hother
      exact ⟨(hsame name).trans (fixed_iff.1 hname).symm, fun other _ => hsame other⟩

end Make.State

namespace Host

variable {host : Host κ μ} {w : World κ μ} {fuel : Nat} {name : Text}

/-- What the host asks for when it removes a variable: the one of the name, but for a backslash at
its end. -/
theorem perform_undefine (hname : isLegalVariableName name = true) (hclean : '\x00' ∉ name)
    (hrunning : w.make.stopped = false) :
    Make.perform (host.level (fuel + 2)) (undefine name).run w = some (.ok (),
      { w.note (.eval ("undefine " ++ name)) with
        make := w.make.undefine (Make.uncontinued name) }) := by
  have htext : '\x00' ∉ "undefine " ++ name := by simpa using hclean
  have hundefine : (undefine name : Attempt κ μ Unit) = evaluate ("undefine " ++ name) := by
    rw [undefine, checkName, if_pos hname, pure_bind]
  have hrun : (host.level (fuel + 2)).run ("undefine " ++ name)
      (w.note (.eval ("undefine " ++ name))) = some ((), { w.note (.eval ("undefine " ++ name)) with
        make := (w.note (.eval ("undefine " ++ name))).make.undefine (Make.uncontinued name) }) :=
    Make.run_undefine hname (by rwa [World.make_note])
  rw [hundefine, Make.perform_evaluate_note htext, Run.bind_of_eq_some hrun, World.make_note]
  rfl

/-- A name is handed to make as it is exactly if it does not end in a backslash. -/
theorem uncontinued_eq_iff (hname : name ≠ []) :
    Make.uncontinued name = name ↔ name.getLast? ≠ some '\\' := by
  constructor
  · intro h hlast
    obtain ⟨front, rfl⟩ := List.getLast?_eq_some_iff.1 hlast
    have hfront : front = front ++ ['\\'] := (Make.uncontinued_append front).symm.trans h
    simp at hfront
  · exact Make.uncontinued_of_getLast?

/-- **Exactly the variable that the host names is removed if and only if its name does not end in a
backslash**, or nothing is there to remove under the name with the backslash and without it.
Removing a variable always succeeds and never stops make. -/
theorem undefine_removes_iff (host : Host κ μ) (fuel : Nat) (w : World κ μ)
    (name : Text) (hname : isLegalVariableName name = true) (hclean : '\x00' ∉ name)
    (hrunning : w.make.stopped = false) :
    ∃ w', Make.perform (host.level (fuel + 2)) (undefine name).run w = some (.ok (), w') ∧
      w'.make = w.make.undefine (Make.uncontinued name) ∧ w'.make.stopped = false ∧
      (w.make.Removed w'.make name ↔ (name.getLast? = some '\\' →
        w.make.Fixed name ∧ w.make.Fixed (Make.uncontinued name))) := by
  refine ⟨_, perform_undefine hname hclean hrunning, rfl, ?_, ?_⟩
  · rw [Make.State.stopped_undefine, hrunning]
  · rw [Make.State.removed_undefine_iff, uncontinued_eq_iff (ne_nil_of_isLegal hname)]
    by_cases hlast : name.getLast? = some '\\' <;> simp [hlast]

/-- A make that runs, with a variable `foo` and one of the same name with a backslash behind it. -/
def withBackslash : World Unit Unit :=
  { World.fresh () .attached with
    make := (Make.State.fresh.define "foo" "1" .file).define "foo\\" "2" .file }

/-- A name without a backslash at its end. -/
theorem undefine_removes_iff_plain : ∃ w', Make.perform (quiet.level 2) (undefine "foo").run
    withBackslash = some (.ok (), w') ∧ withBackslash.make.Removed w'.make "foo" := by
  obtain ⟨w', hperform, -, -, hremoved⟩ :=
    undefine_removes_iff quiet 0 withBackslash "foo" (by decide) (by decide) rfl
  exact ⟨w', hperform, hremoved.2 fun hlast => absurd hlast (by decide)⟩

/-- A legal name with a backslash at its end: the variable of the name without it is gone, and the
one that was named is still there. -/
theorem undefine_removes_another : isLegalVariableName "foo\\" = true ∧ ∃ w',
    Make.perform (quiet.level 2) (undefine "foo\\").run withBackslash = some (.ok (), w') ∧
    withBackslash.make.bindings.get? "foo" = some ⟨"1", .recursive, .file⟩ ∧
    w'.make.bindings.get? "foo" = none ∧
    w'.make.bindings.get? "foo\\" = some ⟨"2", .recursive, .file⟩ ∧
    ¬ withBackslash.make.Removed w'.make "foo\\" := by
  refine ⟨by decide, _, perform_undefine (by decide) (by decide) rfl, by decide, by decide,
    by decide, fun h => ?_⟩
  have hgone := h.gone
  revert hgone
  decide

end Host

end MakeHost
