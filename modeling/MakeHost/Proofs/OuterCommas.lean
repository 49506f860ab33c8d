import MakeHost.Proofs.CallSyntax
import MakeHost.Proofs.Cutting

/-!
# The commas between arguments

`Make.outerCommas` says where the commas outside of brackets stand in a text, whether its brackets
are nested or not: a closing bracket that closes nothing is passed over. Without a greatest count
these commas are the cuts between the arguments of a call (`Make.cuts_splitArgumentsFrom`); with
one, the arguments from the last that is allowed on are joined again
(`Make.splitArgumentsFrom_some`). `Make.splitArguments_exact` puts this together.
-/

namespace MakeHost

namespace Make

open DefineBlock.Splice (prepend prepend_nil_splitArgumentsFrom splitArgumentsFrom_cons)

variable {s : Text} {args : List Text} {brackets : Nat}

/-! ## Outer commas -/

/-- How many brackets are open behind a character, when so many are open before it. -/
def openBehind (brackets : Nat) (c : Char) : Nat :=
  if c = '(' ∨ c = '\x7b' then brackets + 1
  else if c = ')' ∨ c = '\x7d' then brackets - 1
  else brackets

/-- The positions of the commas outside of brackets in a text that stands behind so many open
brackets. -/
def outerCommas (brackets : Nat) (s : Text) : List Nat :=
  (List.range s.length).filter fun i =>
    s[i]? = some ',' ∧ (s.take i).foldl openBehind brackets = 0

/-- The first character is a comma outside of brackets or not, and the others stand behind it. -/
theorem outerCommas_cons (brackets : Nat) (c : Char) (s : Text) : outerCommas brackets (c :: s) =
    (if c = ',' ∧ brackets = 0 then [0] else []) ++
      (outerCommas (openBehind brackets c) s).map (· + 1) := by
  rw [outerCommas, List.length_cons, List.range_succ_eq_map, List.filter_cons, List.filter_map]
  have hfirst : ((c :: s)[0]? = some ',' ∧ ((c :: s).take 0).foldl openBehind brackets = 0) ↔
      c = ',' ∧ brackets = 0 := by simp
  simp only [hfirst, decide_eq_true_eq]
  have hbehind : (List.range s.length).filter ((fun i => decide ((c :: s)[i]? = some ',' ∧
      ((c :: s).take i).foldl openBehind brackets = 0)) ∘ Nat.succ) =
        outerCommas (openBehind brackets c) s :=
    List.filter_congr fun _ _ => decide_eq_decide.2 Iff.rfl
  rw [hbehind]
  split <;> rfl

/-! ## Cuts -/

/-- The positions of the commas that arguments are joined by. -/
def argumentCuts (args : List Text) : List Nat :=
  (List.range (args.length - 1)).map (Text.cutAt "," args)

/-- An empty argument in front moves every cut by its comma. -/
theorem argumentCuts_nil_cons (hne : args ≠ []) :
    argumentCuts ([] :: args) = 0 :: (argumentCuts args).map (· + 1) := by
  obtain ⟨arg, args, rfl⟩ := List.exists_cons_of_ne_nil hne
  have hrange : List.range (([] :: arg :: args : List Text).length - 1) =
      0 :: (List.range ((arg :: args).length - 1)).map Nat.succ := List.range_succ_eq_map
  rw [argumentCuts, hrange, List.map_cons, Text.cutAt_zero, argumentCuts, List.map_map,
    List.map_map]
  refine congrArg (0 :: ·) (List.map_congr_left fun i _ => ?_)
  exact (Text.cutAt_succ [] hne).trans (Nat.add_comm _ _)

/-- A character in front moves every cut by one place. -/
theorem argumentCuts_prepend (c : Char) (hne : args ≠ []) :
    argumentCuts (prepend [c] args) = (argumentCuts args).map (· + 1) := by
  obtain ⟨arg, args, rfl⟩ := List.exists_cons_of_ne_nil hne
  rw [argumentCuts, argumentCuts, List.map_map]
  refine List.map_congr_left fun i _ => ?_
  exact (Text.cutAt_extend [c] arg args).trans (Nat.add_comm _ _)

/-- A comma outside of brackets ends an argument while another cut may be made. -/
theorem splitArgumentsFrom_comma {cuts : Option Nat} (hcuts : cuts ≠ some 0) (s : Text) :
    splitArgumentsFrom 0 cuts (',' :: s) = [] :: splitArgumentsFrom 0 (cuts.map (· - 1)) s := by
  rw [splitArgumentsFrom_cons, if_pos ⟨rfl, rfl, hcuts⟩]

/-- What is no comma outside of brackets belongs to the first argument. -/
theorem splitArgumentsFrom_other {c : Char} (h : ¬ (c = ',' ∧ brackets = 0)) (cuts : Option Nat)
    (s : Text) : splitArgumentsFrom brackets cuts (c :: s) =
      prepend [c] (splitArgumentsFrom (openBehind brackets c) cuts s) := by
  rw [splitArgumentsFrom_cons, if_neg fun hcomma => h ⟨hcomma.1, hcomma.2.1⟩]
  rfl

/-- There is always an argument, if an empty one. -/
theorem splitArgumentsFrom_ne_nil (brackets : Nat) (cuts : Option Nat) (s : Text) :
    splitArgumentsFrom brackets cuts s ≠ [] := by
  rw [← prepend_nil_splitArgumentsFrom]
  cases splitArgumentsFrom brackets cuts s <;> simp [prepend]

/-- Without a limit every outer comma is a cut, and nothing else is. -/
theorem cuts_splitArgumentsFrom (brackets : Nat) (s : Text) :
    argumentCuts (splitArgumentsFrom brackets none s) = outerCommas brackets s := by
  induction s generalizing brackets with
  | nil => rfl
  | cons c s ih =>
    rw [outerCommas_cons]
    by_cases hcomma : c = ',' ∧ brackets = 0
    · rw [if_pos hcomma]
      obtain ⟨rfl, rfl⟩ := hcomma
      rw [splitArgumentsFrom_comma (Option.some_ne_none 0).symm,
        argumentCuts_nil_cons (splitArgumentsFrom_ne_nil _ _ _)]
      exact congrArg (0 :: ·.map (· + 1)) (ih 0)
    · rw [if_neg hcomma, splitArgumentsFrom_other hcomma,
        argumentCuts_prepend c (splitArgumentsFrom_ne_nil _ _ _)]
      exact congrArg (·.map (· + 1)) (ih _)

/-! ## Joining -/

/-- A text in front of the first argument stands in front of the joined ones. -/
theorem join_prepend (s : Text) (hne : args ≠ []) :
    Text.join "," (prepend s args) = s ++ Text.join "," args := by
  obtain ⟨arg, args, rfl⟩ := List.exists_cons_of_ne_nil hne
  exact Text.join_extend s arg args

/-- However many cuts are made, the arguments joined by commas are the text. -/
theorem join_splitArgumentsFrom (brackets : Nat) (cuts : Option Nat) (s : Text) :
    Text.join "," (splitArgumentsFrom brackets cuts s) = s := by
  induction s generalizing brackets cuts with
  | nil => rfl
  | cons c s ih =>
    rw [splitArgumentsFrom_cons]
    split
    · next hcomma =>
      rw [Text.join_of_ne_nil [] (splitArgumentsFrom_ne_nil _ _ _), ih, hcomma.1]
      rfl
    · rw [join_prepend [c] (splitArgumentsFrom_ne_nil _ _ _), ih]
      rfl

/-- With a greatest count of one everything is joined. -/
theorem joined_one (hne : args ≠ []) : joined 1 args = [Text.join "," args] := by
  unfold joined
  split
  · next hfew =>
    obtain ⟨arg, rfl⟩ := List.length_eq_one_iff.1
      (Nat.le_antisymm (hfew.resolve_left Nat.one_ne_zero) (List.length_pos_of_ne_nil hne))
    rw [Text.join_singleton]
  · rfl

/-- What stands before the first argument stands before the first one of those that are left. -/
theorem joined_prepend (s : Text) (max : Nat) (hne : args ≠ []) :
    joined (max + 1) (prepend s args) = prepend s (joined (max + 1) args) := by
  cases max with
  | zero =>
    have hprepend : prepend s args ≠ [] := by cases args <;> simp [prepend]
    rw [joined_one hne, joined_one hprepend, join_prepend s hne]
    rfl
  | succ max =>
    obtain ⟨arg, args, rfl⟩ := List.exists_cons_of_ne_nil hne
    rw [prepend, joined_cons, joined_cons, prepend]

/-- With a limit the arguments are those without one, joined from the last that is allowed on. -/
theorem splitArgumentsFrom_some (brackets cuts : Nat) (s : Text) :
    splitArgumentsFrom brackets (some cuts) s =
      joined (cuts + 1) (splitArgumentsFrom brackets none s) := by
  induction s generalizing brackets cuts with
  | nil => exact (if_pos (.inr (Nat.succ_le_succ (Nat.zero_le cuts)))).symm
  | cons c s ih =>
    cases cuts with
    | zero =>
      rw [splitArgumentsFrom_zero, joined_one (splitArgumentsFrom_ne_nil _ _ _),
        join_splitArgumentsFrom]
    | succ cuts =>
      by_cases hcomma : c = ',' ∧ brackets = 0
      · obtain ⟨rfl, rfl⟩ := hcomma
        rw [splitArgumentsFrom_comma (by simp),
          splitArgumentsFrom_comma (Option.some_ne_none 0).symm, joined_cons]
        exact congrArg ([] :: ·) (ih 0 cuts)
      · rw [splitArgumentsFrom_other hcomma, splitArgumentsFrom_other hcomma, ih,
          joined_prepend [c] _ (splitArgumentsFrom_ne_nil _ _ _)]

/-! ## Arguments -/

/-- A limit is one less than the greatest count. -/
theorem splitArguments_eq_joined (s : Text) (max : Nat) :
    splitArguments s max = joined max (splitArguments s 0) := by
  cases max with
  | zero => exact (if_pos (.inl rfl)).symm
  | succ max => exact splitArgumentsFrom_some 0 max s

/-- **Arguments are cut at the commas outside of brackets, and nothing is lost.** For every text,
whether its brackets are nested or not, and every greatest count, the arguments joined by commas are
the text again. There is at least one, and there are no more than the greatest count, where zero
stands for none. Without one the cuts are the commas outside of brackets, so there is one argument
more than there are such commas; with one, the arguments are those without it, of which the last
that is allowed and all behind it are joined by commas. -/
theorem splitArguments_exact (s : Text) (max : Nat) :
    Text.join "," (splitArguments s max) = s ∧
    1 ≤ (splitArguments s max).length ∧ (max = 0 ∨ (splitArguments s max).length ≤ max) ∧
    (splitArguments s 0).length = (outerCommas 0 s).length + 1 ∧
    argumentCuts (splitArguments s 0) = outerCommas 0 s ∧
    splitArguments s max = joined max (splitArguments s 0) := by
  have hne : ∀ max, splitArguments s max ≠ [] := fun max => splitArgumentsFrom_ne_nil 0 _ s
  have hcuts : argumentCuts (splitArguments s 0) = outerCommas 0 s := cuts_splitArgumentsFrom 0 s
  have hjoined := splitArguments_eq_joined s max
  have hpos := fun max => List.length_pos_of_ne_nil (hne max)
  refine ⟨join_splitArgumentsFrom 0 _ s, hpos max, ?_, ?_, hcuts, hjoined⟩
  · rw [hjoined, length_joined]
    split
    · next hmax => exact .inl hmax
    · exact .inr (Nat.min_le_right _ _)
  · have hone := hpos 0
    have hlength := congrArg List.length hcuts
    rw [argumentCuts, List.length_map, List.length_range] at hlength
    omega

/-- A closing bracket that closes nothing, a comma in brackets, and an empty argument at the end. -/
example : outerCommas 0 "a),(b,c\x7d,d," = [2, 8, 10] ∧
    splitArguments "a),(b,c\x7d,d," 0 = ["a)".toList, "(b,c\x7d", "d", ""] ∧
    splitArguments "a),(b,c\x7d,d," 2 = ["a)".toList, "(b,c\x7d,d,"] := by decide

end Make

end MakeHost
