import MakeHost.Proofs.SharedNames
import MakeHost.Proofs.Termination

/-!
# Expansion where no function is installed

Where no function is installed no call is handed out, so nothing that expansion can meet runs code
or goes on for ever: variables that refer to each other are stopped by the greatest depth of
references. `World.OnlyRead` is what expansion then does to a world. `expandWithin_bare` says that
neither the host nor further nesting bears on the result, and `expand_reads` that there is one, for
every text.
-/

namespace MakeHost

variable {κ μ : Type} {w w₁ w₂ : World κ μ}

/-- No function is installed. -/
def World.Bare (w : World κ μ) : Prop := ∀ name, w.make.functions.get? name = none

/-- What reading may do to a world: lines are printed behind those that are there, and make is
stopped if it was not. Nothing else changes. -/
def World.OnlyRead (w w' : World κ μ) : Prop :=
  ∃ lines fatal, (∀ message, w.make.fatal = some message → fatal = some message) ∧
    w' = { w with make := { w.make with printed := lines ++ w.make.printed, fatal := fatal } }

namespace World.OnlyRead

/-- Nothing was read yet. -/
theorem refl (w : World κ μ) : OnlyRead w w := ⟨[], w.make.fatal, fun _ h => h, rfl⟩

/-- What is read in two steps is read in one. -/
theorem trans (h₁ : OnlyRead w w₁) (h₂ : OnlyRead w₁ w₂) : OnlyRead w w₂ := by
  obtain ⟨lines₁, fatal₁, hkeep₁, rfl⟩ := h₁
  obtain ⟨lines₂, fatal₂, hkeep₂, rfl⟩ := h₂
  refine ⟨lines₂ ++ lines₁, fatal₂, fun message h => hkeep₂ message (hkeep₁ message h), ?_⟩
  rw [List.append_assoc]

/-- A fatal error is recorded and nothing else. -/
theorem fail (w : World κ μ) (message : Text) :
    OnlyRead w { w with make := w.make.fail message } := by
  cases hfatal : w.make.fatal with
  | none =>
    refine ⟨[], some message, fun m hm => ?_, ?_⟩
    · rw [hfatal] at hm
      cases hm
    · rw [Make.State.fail, hfatal]
      rfl
  | some first =>
    rw [Make.State.fail, hfatal]
    exact .refl w

/-- A line is printed and nothing else. -/
theorem print (w : World κ μ) (line : Text) : OnlyRead w { w with make := w.make.print line } :=
  ⟨[line], w.make.fatal, fun _ h => h, rfl⟩

/-- No function is installed by reading. -/
theorem bare (h : OnlyRead w w₁) (hw : w.Bare) : w₁.Bare := by
  obtain ⟨lines, fatal, -, rfl⟩ := h
  exact hw

/-- Reading allows what expansion does by itself, in a world without functions. -/
theorem bare_reads :
    Make.Reads fun w w' : World κ μ => w.Bare ∧ World.OnlyRead w w' where
  right h := ⟨h.2.bare h.1, .refl _⟩
  trans h₁ h₂ := ⟨h₁.1, h₁.2.trans h₂.2⟩
  fail message h := ⟨h.1, .fail _ message⟩
  print line h := ⟨h.1, .print _ line⟩

end World.OnlyRead

namespace Make

/-- Where no function is installed, expansion does the same with more nesting and behind another
host. -/
theorem expandWithin_bare (respond respond' : Responder κ μ) {m n : Nat} (hmn : m ≤ n)
    (w : World κ μ) (depth : Nat) (text : Text) :
    Run.Along (fun w w' => w.Bare ∧ World.OnlyRead w w') w (expandWithin respond m depth text)
      (expandWithin respond' n depth text) := by
  induction m generalizing n w depth text with
  | zero => exact .exhausted
  | succ m ih =>
    obtain ⟨n, rfl⟩ : ∃ k, n = k + 1 := ⟨n - 1, by omega⟩
    have hl : ∀ w depth text, Run.Along (fun w w' => w.Bare ∧ World.OnlyRead w w') w
        ((levelWithin respond m).expand depth text) ((levelWithin respond' n).expand depth text) :=
      ih (Nat.le_of_succ_le_succ hmn)
    refine expandText_along World.OnlyRead.bare_reads hl (fun w depth name f args hf hw => ?_)
      depth text
    have hnone := hw.1 name
    rw [hf] at hnone
    cases hnone

/-- A host that answers nothing. -/
def silent : Responder κ μ := fun _ _ _ => pure none

/-- **Where no function is installed, expanding a text is a read that comes to an end.** For every
text, whatever its references nest in and the variables refer to, there is a result, the same within
any nesting from `ample` on and behind any host; lines may have been printed and make may have been
stopped, a message that was there stays, and nothing else of the world changes. In a stopped make
nothing changes at all. -/
theorem expand_reads (hbare : w.Bare) (text : Text) : ∃ expansion w',
    (∀ (respond : Responder κ μ) (fuel : Nat), ample ≤ fuel →
      (levelWithin respond fuel).expand 0 text w = some (expansion, w')) ∧
    w.OnlyRead w' ∧
    (w.make.stopped = true → expansion = [] ∧ w' = w) := by
  have hstart : w.Bare ∧ World.OnlyRead w w := ⟨hbare, .refl w⟩
  have hcovers : Covers ample 0 := covers_of_ample (Nat.le_succ ample)
  have hends : Run.Ends (fun w w' => w.Bare ∧ World.OnlyRead w w') w
      (expandWithin silent ample 0 text) := by
    refine expandWithin_ends (fun fuel w name f hf w' hw => ?_) World.OnlyRead.bare_reads hcovers
      w text
    have hnone := hw.1 name
    rw [hf] at hnone
    cases hnone
  obtain ⟨expansion, w', hresult, -, hreads⟩ := hends hstart
  refine ⟨expansion, w', fun respond fuel hfuel => ?_, hreads, fun hstopped => ?_⟩
  · exact (expandWithin_bare silent respond hfuel w 0 text hstart hresult).1
  · have hnothing : expandWithin silent ample 0 text w = some ([], w) :=
      expandWithin_of_stopped hstopped (Nat.zero_le maxDepth)
    cases hresult.symm.trans hnothing
    exact ⟨rfl, rfl⟩

/-- A stopped or running make with two variables that refer to each other. -/
def withCycle (fatal : Option Text) : World Unit Unit :=
  { World.fresh () .attached with make :=
      { (State.fresh.define "X" "a$(Y)" .file).define "Y" "$(X)" .file with fatal := fatal } }

/-- A reference into a cycle stops make, behind a line that was printed; in a stopped make nothing
happens. -/
theorem expand_reads_cycle :
    (∃ expansion w', (∀ (respond : Responder Unit Unit) (fuel : Nat), ample ≤ fuel →
        (levelWithin respond fuel).expand 0 "$(info b)$(X)" (withCycle none) =
          some (expansion, w')) ∧
      w'.make.printed = ["b".toList] ∧
      w'.make.fatal = some "recursive variable references itself (eventually)".toList) ∧
    ∀ (respond : Responder Unit Unit), (levelWithin respond ample).expand 0 "$(info b)$(X)"
      (withCycle (some "boom".toList)) = some ([], withCycle (some "boom".toList)) := by
  have hbare : ∀ fatal, (withCycle fatal).Bare := fun _ _ => rfl
  have hrun : ((levelWithin silent ample).expand 0 "$(info b)$(X)"
      (withCycle none)).map (fun r => (r.2.make.printed, r.2.make.fatal)) =
        some (["b".toList], some "recursive variable references itself (eventually)".toList) := by
    decide +kernel
  constructor
  · obtain ⟨expansion, w', hresult, -⟩ := expand_reads (hbare none) "$(info b)$(X)"
    rw [hresult _ ample (Nat.le_refl _)] at hrun
    obtain ⟨hprinted, hfatal⟩ := Prod.mk.inj (Option.some.inj hrun)
    exact ⟨expansion, w', hresult, hprinted, hfatal⟩
  · intro respond
    obtain ⟨expansion, w', hresult, -, hstopped⟩ :=
      expand_reads (hbare (some "boom".toList)) "$(info b)$(X)"
    obtain ⟨rfl, rfl⟩ := hstopped rfl
    exact hresult respond ample (Nat.le_refl _)

end Make

end MakeHost
