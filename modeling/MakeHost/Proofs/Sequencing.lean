import MakeHost.Proofs.CallSyntax
import MakeHost.Proofs.Cutting

/-!
# Texts one behind another

A text is read line by line, but a line may take the next one to itself, and a block may take any
number of them. Only these two carry over from one text to the next: where the first does not end in
a backslash its logical lines stay as they are (`Make.logicalLines_append`), and lines are read into
statements and a place where reading goes on, which is outside of blocks or in one
(`Make.exists_statementsFrom_append`). Statements are evaluated one after the other, and none in a
stopped make. So two texts that are evaluated as one do what they do when they are evaluated apart,
unless the first one ends with the error for a block that it leaves open (`Make.run_append`).
-/

namespace MakeHost

variable {κ μ : Type} {w : World κ μ}

/-- The last line of a text ends it. -/
theorem Text.suffix_of_getLast?_lines {s last : Text} (h : last ∈ s.lines.getLast?) :
    last <:+ s := by
  obtain ⟨before, hlines⟩ := List.getLast?_eq_some_iff.1 h
  rw [← Text.join_lines (s := s), hlines]
  by_cases hbefore : before = []
  · subst hbefore
    rw [List.nil_append, Text.join_singleton]
  · rw [Text.join_append hbefore (List.cons_ne_nil last []), Text.join_singleton]
    exact List.suffix_append _ last

namespace Make

variable {s t : Text} {l : Level κ μ} {ss : List Statement}

/-! ## Logical lines -/

/-- Lines behind one that does not go on are joined among themselves. A joined line ends as its
second part does, or in the space between the two. -/
theorem joinLines_append {line : Text} {ls : List Text}
    (h : ∀ last ∈ (line :: ls).getLast?, last.getLast? ≠ some '\\') (first : Text)
    (rest : List Text) :
    joinLines line (ls ++ first :: rest) = joinLines line ls ++ joinLines first rest := by
  induction ls generalizing line with
  | nil =>
    have hline := continued?_eq_none (h line rfl)
    rw [List.nil_append, joinLines, joinLines, hline]
    rfl
  | cons next ls ih =>
    have hbehind : ∀ last ∈ (next :: ls).getLast?, last.getLast? ≠ some '\\' := h
    rw [List.cons_append, joinLines, joinLines]
    cases continued? line with
    | none => exact congrArg (line :: ·) (ih hbehind)
    | some front =>
      refine ih fun last hlast => ?_
      cases ls with
      | nil =>
        obtain rfl : front.trimEnd ++ " " ++ next.trimStart = last := Option.some_inj.1 hlast
        intro hbackslash
        obtain ⟨blanks, hnext, -⟩ := Text.eq_append_trimStart next
        refine hbehind next rfl ?_
        rw [List.getLast?_append, Option.or_eq_some_iff] at hbackslash
        obtain hbackslash | ⟨-, hbackslash⟩ := hbackslash
        · rw [hnext, List.getLast?_append, hbackslash, Option.some_or]
        · rw [List.getLast?_append] at hbackslash
          cases hbackslash
      | cons second ls => exact hbehind last hlast

/-- **Logical lines end where a text does that does not end in a backslash.** -/
theorem logicalLines_append (h : s.getLast? ≠ some '\\') (t : Text) :
    logicalLines (s ++ '\n' :: t) = logicalLines s ++ logicalLines t := by
  have hlast : ∀ last ∈ s.lines.getLast?, last.getLast? ≠ some '\\' := by
    intro last hmem hbackslash
    obtain ⟨front, rfl⟩ := Text.suffix_of_getLast?_lines hmem
    exact h (by rw [List.getLast?_append, hbackslash, Option.some_or])
  obtain ⟨line, ls, hs⟩ := List.exists_cons_of_ne_nil (Text.lines_ne_nil (s := s))
  obtain ⟨first, rest, ht⟩ := List.exists_cons_of_ne_nil (Text.lines_ne_nil (s := t))
  unfold logicalLines
  rw [Text.lines_append_lineFeed, hs, ht]
  exact joinLines_append (hs ▸ hlast) first rest

/-! ## Statements -/

/-- Reading a line completes a statement or none, and goes on somewhere, whatever follows. -/
theorem exists_statementsFrom_cons (position : Position) (line : Text) : ∃ ss position',
    ∀ rest, statementsFrom position (line :: rest) = ss ++ statementsFrom position' rest := by
  cases position with
  | outside =>
    simp only [statementsFrom]
    cases lineKind line with
    | empty => exact ⟨[], .outside, fun _ => rfl⟩
    | opens header => exact ⟨[], .inside header 0 [], fun _ => rfl⟩
    | statement s => exact ⟨[s], .outside, fun _ => rfl⟩
  | inside header nested body =>
    simp only [statementsFrom]
    by_cases hendef : (directive? "endef" line.trim).isSome
    · simp only [if_pos hendef]
      cases nested with
      | zero => exact ⟨[blockStatement header body], .outside, fun _ => rfl⟩
      | succ nested => exact ⟨[], .inside header nested (line :: body), fun _ => rfl⟩
    · simp only [if_neg hendef]
      by_cases hdefine : (directive? "define" line.trim).isSome
      · simp only [if_pos hdefine]
        exact ⟨[], .inside header (nested + 1) (line :: body), fun _ => rfl⟩
      · simp only [if_neg hdefine]
        exact ⟨[], .inside header nested (line :: body), fun _ => rfl⟩

/-- Reading lines completes statements and goes on somewhere, whatever follows. -/
theorem exists_statementsFrom_append (position : Position) (ls : List Text) : ∃ ss position',
    ∀ rest, statementsFrom position (ls ++ rest) = ss ++ statementsFrom position' rest := by
  induction ls generalizing position with
  | nil => exact ⟨[], position, fun _ => rfl⟩
  | cons line ls ih =>
    obtain ⟨ss, next, hline⟩ := exists_statementsFrom_cons position line
    obtain ⟨more, position', hls⟩ := ih next
    refine ⟨ss ++ more, position', fun rest => ?_⟩
    rw [List.cons_append, hline, hls, List.append_assoc]

/-! ## Evaluation -/

/-- Nothing is evaluated in a stopped make. -/
theorem evaluateStatements_of_stopped (hstopped : w.make.stopped = true) (ss : List Statement) :
    evaluateStatements l ss w = some ((), w) := by
  cases ss with
  | nil => rfl
  | cons s ss =>
    rw [evaluateStatements, Run.bind_of_eq_some (Run.stopped_eq hstopped)]
    rfl

/-- Where make runs, a statement is evaluated before those behind it. -/
theorem evaluateStatements_of_running (hrunning : w.make.stopped = false) (s : Statement)
    (ss : List Statement) : evaluateStatements l (s :: ss) w =
      (evaluateStatement l s >>= fun _ => evaluateStatements l ss) w := by
  rw [evaluateStatements, Run.bind_of_eq_some (Run.stopped_eq hrunning)]
  rfl

/-- Statements are evaluated one list after the other. -/
theorem evaluateStatements_append (ss ts : List Statement) : evaluateStatements l (ss ++ ts) =
    evaluateStatements l ss >>= fun _ => evaluateStatements l ts := by
  funext w
  induction ss generalizing w with
  | nil => rfl
  | cons s ss ih =>
    cases hstopped : w.make.stopped with
    | true =>
      rw [Run.bind_of_eq_some (evaluateStatements_of_stopped hstopped _),
        evaluateStatements_of_stopped hstopped, evaluateStatements_of_stopped hstopped]
    | false =>
      rw [List.cons_append, evaluateStatements_of_running hstopped, Run.bind_apply,
        Run.bind_apply, evaluateStatements_of_running hstopped, Run.bind_apply, Option.bind_assoc]
      exact Option.bind_congr fun p _ => ih p.2

variable {respond : Responder κ μ} {fuel : Nat}

/-- Evaluating a text is evaluating its statements, in a stopped make too. -/
theorem run_eq_evaluateStatements (s : Text) : (levelWithin respond (fuel + 1)).run s =
    evaluateStatements (levelWithin respond fuel) (statements s) := by
  funext w
  cases hstopped : w.make.stopped with
  | true => rw [run_of_stopped hstopped, evaluateStatements_of_stopped hstopped]
  | false =>
    rw [Level.run, Run.bind_of_eq_some (Run.stopped_eq hstopped)]
    rfl

/-- The error for a block that a text leaves open. -/
def openBlock : Text := "missing 'endef', unterminated 'define'"

/-- Evaluated alone, in a make that runs, a text that leaves a block open ends with the error for
it. -/
def EndsInBlock (l : Level κ μ) (s : Text) (w : World κ μ) : Prop :=
  w.make.stopped = false ∧ .unterminated ∈ statements s ∧
    ∃ w', l.run s w = some ((), w') ∧ w'.make.fatal = some openBlock

/-- A text whose statements leave make running at the end of a block ends with the error for it. -/
theorem endsInBlock_of_running {w' : World κ μ} (hs : statements s = ss ++ [.unterminated])
    (hstart : w.make.stopped = false)
    (hss : evaluateStatements (levelWithin respond fuel) ss w = some ((), w'))
    (hrunning : w'.make.stopped = false) :
    EndsInBlock (levelWithin respond (fuel + 1)) s w := by
  refine ⟨hstart, ?_, { w' with make := w'.make.fail openBlock }, ?_, ?_⟩
  · rw [hs]
    exact List.mem_append_right ss List.mem_cons_self
  · rw [run_eq_evaluateStatements, hs, evaluateStatements_append, Run.bind_of_eq_some hss]
    exact evaluateStatements_of_running hrunning .unterminated []
  · rw [State.fail, fatal_of_running hrunning]

/-- **Evaluation composes.** In every world, a text that does not end in a backslash, and whose
evaluation does not end with the error for a block of its own, does the same with another text on
the lines behind it as when that one is evaluated after it: make, the exported functions and all
else are the same afterwards, whatever is called or stops make on the way. -/
theorem run_append (hend : s.getLast? ≠ some '\\')
    (hblock : ¬ EndsInBlock (levelWithin respond fuel) s w) (t : Text) :
    (levelWithin respond fuel).run (s ++ "\n" ++ t) w =
      ((levelWithin respond fuel).run s >>= fun _ => (levelWithin respond fuel).run t) w := by
  cases hstart : w.make.stopped with
  | true =>
    rw [Run.bind_of_eq_some (run_of_stopped hstart s), run_of_stopped hstart, run_of_stopped hstart]
  | false =>
    cases fuel with
    | zero =>
      have hnone : ∀ s, (levelWithin respond 0).run s w = none := fun s => by
        rw [Level.run, Run.bind_of_eq_some (Run.stopped_eq hstart)]
        rfl
      rw [hnone, Run.bind_apply, hnone]
      rfl
    | succ fuel =>
      obtain ⟨ss, position, hread⟩ := exists_statementsFrom_append .outside (logicalLines s)
      have hs : statements s = ss ++ statementsFrom position [] := by
        rw [← hread, List.append_nil, statements]
      have hst : statements (s ++ "\n" ++ t) = ss ++ statementsFrom position (logicalLines t) := by
        rw [← hread, ← logicalLines_append hend, statements, List.append_assoc]
        rfl
      rw [run_eq_evaluateStatements, run_eq_evaluateStatements, run_eq_evaluateStatements, hst, hs,
        evaluateStatements_append, evaluateStatements_append, bind_assoc, Run.bind_apply,
        Run.bind_apply]
      refine Option.bind_congr ?_
      rintro ⟨_, w'⟩ hss
      cases position with
      | outside => rfl
      | inside header nested body =>
        cases hstopped : w'.make.stopped with
        | true =>
          rw [Run.bind_of_eq_some (evaluateStatements_of_stopped hstopped _),
            evaluateStatements_of_stopped hstopped, evaluateStatements_of_stopped hstopped]
        | false => exact absurd (endsInBlock_of_running hs hstart hss hstopped) hblock

end Make

namespace Host

/-- A block whose text calls an exported function when it is expanded. -/
def callingText : Text := "define X\n$(pair a,b)\nendef\nY := $(X)"

/-- A text that is stopped before the block that it leaves open. -/
def stoppingText : Text := "Y = $(X)\n$(error boom)\ndefine X"

/-- A function is called once, and what it returned is there for the second text. A text that stops
make keeps the second one from being evaluated, also where that would end the block of the first. -/
theorem run_append_calling :
    callingText.getLast? ≠ some '\\' ∧
    ¬ Make.EndsInBlock (recipes.level 7) callingText withPairing ∧
    (recipes.level 7).run (callingText ++ "\n" ++ "Z := $(Y)") withPairing =
      ((recipes.level 7).run callingText >>= fun _ => (recipes.level 7).run "Z := $(Y)")
        withPairing ∧
    ((recipes.level 7).run (callingText ++ "\n" ++ "Z := $(Y)") withPairing).map (fun result =>
      (result.2.make.calls, result.2.make.bindings.get? "Z")) =
        some (1, some ⟨"a|b", .simple, .file⟩) ∧
    .unterminated ∈ Make.statements stoppingText ∧
    stoppingText.getLast? ≠ some '\\' ∧
    ¬ Make.EndsInBlock (recipes.level 3) stoppingText withPairing ∧
    (recipes.level 3).run (stoppingText ++ "\n" ++ "endef") withPairing =
      ((recipes.level 3).run stoppingText >>= fun _ => (recipes.level 3).run "endef")
        withPairing := by
  have hend : callingText.getLast? ≠ some '\\' := by decide
  have hblock : ¬ Make.EndsInBlock (recipes.level 7) callingText withPairing := by
    rintro ⟨-, hopen, -⟩
    revert hopen
    decide +kernel
  have hend' : stoppingText.getLast? ≠ some '\\' := by decide
  have hblock' : ¬ Make.EndsInBlock (recipes.level 3) stoppingText withPairing := by
    rintro ⟨-, -, w', hrun, hfatal⟩
    have hboom : ((recipes.level 3).run stoppingText withPairing).map (·.2.make.fatal) =
        some (some "boom".toList) := by decide +kernel
    rw [hrun, Option.map_some, hfatal] at hboom
    revert hboom
    decide
  refine ⟨hend, hblock, Make.run_append hend hblock "Z := $(Y)", ?_, ?_, hend', hblock',
    Make.run_append hend' hblock' "endef"⟩
  · decide +kernel
  · decide +kernel

end Host

end MakeHost
