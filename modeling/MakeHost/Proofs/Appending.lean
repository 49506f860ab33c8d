import MakeHost.Proofs.ArgumentCount
import MakeHost.Proofs.FatalErrors

/-!
# Appending to a variable that its own addition writes

The addition to a simple variable is expanded, and a function that is called in it may write the
variable. Make reads the value before the expansion and puts the addition behind that one, so what
is written in between is kept if and only if it is the value that stood there before
(`Host.append_keeps_iff`). An expansion that hands out no call writes nothing.
-/

namespace MakeHost

variable {κ μ : Type} {old now : Variable} {a : Text}

namespace Make

/-- The same text behind two values gives the same variable only when they are the same value of the
same flavor. -/
theorem extended_inj :
    extended now a = extended old a ↔ now.value = old.value ∧ now.flavor = old.flavor := by
  constructor
  · intro h
    have hflavor : (extended now a).flavor = (extended old a).flavor := congrArg Variable.flavor h
    refine ⟨?_, hflavor⟩
    have hvalue : (extended now a).value = (extended old a).value := congrArg Variable.value h
    have hlonger : ∀ s : Text, a ≠ s ++ " " ++ a := by
      intro s hs
      have hlength := congrArg List.length hs
      simp at hlength
      omega
    unfold extended at hvalue
    cases hnow : now.value.isEmpty <;> cases hold : old.value.isEmpty <;>
      simp only [hnow, hold, if_true, if_false, Bool.false_eq_true] at hvalue
    · rw [List.append_assoc, List.append_assoc] at hvalue
      exact List.append_cancel_right hvalue
    · exact absurd hvalue.symm (hlonger _)
    · exact absurd hvalue (hlonger _)
    · rw [List.isEmpty_iff.1 hnow, List.isEmpty_iff.1 hold]
  · rintro ⟨hvalue, hflavor⟩
    unfold extended
    rw [hvalue, hflavor]

end Make

namespace Host

open Make (extended)

variable {w₀ w w₁ : World κ μ} {text target addition spelled : Text} {fuel : Nat}

/-- **Appending to a simple variable keeps what the addition's expansion writes to it if and only if
that is no other value.** The variable is left with the expansion behind the value that it had
before, whatever it was assigned meanwhile, and nothing else is changed once the addition is
expanded. Where the expansion hands out no call, the variable is the one from before. -/
theorem append_keeps_iff (host : Host κ μ) (hrunning : w₀.make.stopped = false)
    (htext : Make.statements text = [.assign target .append addition])
    (htarget : (host.level fuel).expand 0 target w₀ = some (spelled, w)) (hne : spelled.trim ≠ [])
    (hold : w.make.bindings.get? spelled.trim = some old) (hsimple : old.flavor = .simple)
    (horigin : old.origin ≠ .commandLine)
    (hexpand : (host.level fuel).expand 0 addition w = some (a, w₁))
    (hnow : w₁.make.bindings.get? spelled.trim = some now) (hstill : now.flavor = .simple) :
    (host.level (fuel + 1)).run text w₀ =
        some ((), { w₁ with make := w₁.make.setVariable spelled.trim (extended old a) }) ∧
      ((w₁.make.setVariable spelled.trim (extended old a)).bindings.get? spelled.trim =
        some (extended now a) ↔ now.value = old.value) ∧
      (w₁.make.calls = w.make.calls → now = old) := by
  refine ⟨?_, ?_, fun hcalls => ?_⟩
  · have hassign := Make.assign_append_some hne hold horigin
      ((congrFun (if_pos hsimple) w).trans hexpand)
    have hstatement : (host.level (fuel + 1)).run text w₀ =
        Make.evaluateStatement (host.level fuel) (.assign target .append addition) w₀ :=
      Make.run_statement htext hrunning
    exact hstatement.trans ((Run.bind_of_eq_some htarget).trans hassign)
  · show (w₁.make.bindings.insert spelled.trim (extended old a)).get? spelled.trim = _ ↔ _
    rw [Table.get?_insert_self, Option.some_inj, eq_comm, Make.extended_inj, hstill, hsimple]
    exact and_iff_left rfl
  · have hsame := (expand_quiet hexpand).bindings hcalls
    rw [hsame, hold] at hnow
    exact (Option.some_inj.1 hnow).symm

/-- A function that appends its second argument to the variable of its first one, and gives `c`. -/
def pushing : Exported Recipe :=
  ⟨⟨"push", rfl⟩, .both .append (.const (.text "c")), .two, .expand⟩

/-- A session with that function, and with a simple variable. -/
def withPushing : World Recipe Unit :=
  let w := (World.fresh () .attached).enter pushing
  { w with make := w.make.setVariable "S" ⟨"a", .simple, .file⟩ }

/-- The world is reached by a registration and an assignment. -/
theorem withPushing_reachable : withPushing.Reachable :=
  .change (.change (.fresh ()) (.enter trivial)) (.assign nofun nofun rfl)

/-- The addition writes another variable. -/
theorem append_keeps_other : ∃ w',
    (recipes.level 7).run "S += $(push T,b)" withPushing = some ((), w') ∧
    w'.make.bindings.get? "S" = some ⟨"a c", .simple, .file⟩ ∧
    w'.make.bindings.get? "T" = some ⟨"b", .recursive, .file⟩ := by
  have hrun : ((recipes.level 6).expand 0 "$(push T,b)" withPushing).map (fun result =>
      (result.1, result.2.make.bindings.get? "S", result.2.make.bindings.get? "T")) =
        some ("c".toList, some ⟨"a", .simple, .file⟩, some ⟨"b", .recursive, .file⟩) := by
    decide +kernel
  have htext : Make.statements "S += $(push T,b)" =
      [.assign "S" .append "$(push T,b)"] := by decide +kernel
  obtain ⟨⟨a, w₁⟩, hexpand, hresult⟩ := Option.map_eq_some_iff.1 hrun
  obtain ⟨rfl, hS, hT⟩ := by simpa only [Prod.mk.injEq] using hresult
  have htarget : (recipes.level 6).expand 0 "S" withPushing = some ("S".toList, withPushing) := rfl
  obtain ⟨hrun, hkept, -⟩ := append_keeps_iff recipes rfl htext htarget (by decide) rfl rfl
    (by decide) hexpand hS rfl
  exact ⟨_, hrun, hkept.2 rfl, (Table.get?_insert_of_ne (by decide)).trans hT⟩

/-- The addition writes the variable that it is appended to: `b` is lost. -/
theorem append_loses : withPushing.Reachable ∧
    (∃ w₁, (recipes.level 6).expand 0 "$(push S,b)" withPushing = some ("c".toList, w₁) ∧
      w₁.make.stopped = false ∧
      w₁.make.bindings.get? "S" = some ⟨"a b", .simple, .file⟩) ∧
    ∃ w', (recipes.level 7).run "S += $(push S,b)" withPushing = some ((), w') ∧
      w'.make.bindings.get? "S" = some ⟨"a c", .simple, .file⟩ := by
  have hexpand : ((recipes.level 6).expand 0 "$(push S,b)" withPushing).map (fun result =>
      (result.1, result.2.make.stopped, result.2.make.bindings.get? "S")) =
        some ("c".toList, false, some ⟨"a b", .simple, .file⟩) := by
    decide +kernel
  have hrun : ((recipes.level 7).run "S += $(push S,b)" withPushing).map
      (·.2.make.bindings.get? "S") = some (some ⟨"a c", .simple, .file⟩) := by
    decide +kernel
  obtain ⟨⟨a, w₁⟩, hexpand, hresult⟩ := Option.map_eq_some_iff.1 hexpand
  obtain ⟨rfl, hgoes, hS⟩ := by simpa only [Prod.mk.injEq] using hresult
  obtain ⟨⟨_, w'⟩, hrun, hstored⟩ := Option.map_eq_some_iff.1 hrun
  exact ⟨withPushing_reachable, ⟨w₁, hexpand, hgoes, hS⟩, w', hrun, hstored⟩

end Host

end MakeHost
