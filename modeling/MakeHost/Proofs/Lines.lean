import MakeHost.Make.Statement
import Mathlib.Data.List.Basic
import Mathlib.Data.List.TakeWhile

/-!
# Lines and trimming

The lines of a text put together again are the text (`join_lines`), a line of a text stands there
between line feeds or the ends (`mem_lines`), and what trimming leaves of a text stands in it
between blanks (`eq_append_trim`). Lines without a backslash at the end are logical lines
(`Make.joinLines_of_forall`).
-/

namespace MakeHost

namespace Text

variable {s t line : Text} {c : Char}

/-- What follows a prefix. -/
theorem isPrefixOf?_eq_some {front rest : Text} :
    front.isPrefixOf? s = some rest ↔ s = front ++ rest := by
  induction front generalizing s with
  | nil => simp [List.isPrefixOf?]
  | cons a front ih =>
    cases s with
    | nil => simp [List.isPrefixOf?]
    | cons c s =>
      by_cases hc : a = c
      · simp [List.isPrefixOf?, hc, ih]
      · simp [List.isPrefixOf?, hc, Ne.symm hc]

/-! ## Lines -/

/-- A text has at least one line. -/
theorem lines_ne_nil : s.lines ≠ [] := by
  unfold lines
  cases s with
  | nil => simp [splitAround]
  | cons c s =>
    rw [splitAround]
    split
    · simp
    · split <;> simp

@[simp] theorem lines_nil : lines [] = [[]] := rfl

/-- A line feed begins a line. -/
theorem lines_lineFeed : lines ('\n' :: s) = [] :: s.lines := by
  simp [lines, splitAround]

/-- Another character belongs to the first line. -/
theorem lines_cons (h : c ≠ '\n') {first : Text} {rest : List Text}
    (hs : s.lines = first :: rest) : lines (c :: s) = (c :: first) :: rest := by
  unfold lines at hs ⊢
  rw [splitAround, if_neg h, hs]

/-- **Lines split at a line feed.** -/
theorem lines_append_lineFeed : lines (s ++ '\n' :: t) = s.lines ++ t.lines := by
  induction s with
  | nil => exact lines_lineFeed
  | cons c s ih =>
    by_cases hc : c = '\n'
    · subst hc
      rw [List.cons_append, lines_lineFeed, lines_lineFeed, ih]
      rfl
    · obtain ⟨first, rest, hs⟩ := List.exists_cons_of_ne_nil (lines_ne_nil (s := s))
      have hst : lines (s ++ '\n' :: t) = first :: (rest ++ t.lines) := by
        rw [ih, hs, List.cons_append]
      rw [List.cons_append, lines_cons hc hst, lines_cons hc hs, List.cons_append]

/-- A text without the separator is one piece. -/
theorem splitAround_of_notMem {sep : Char} (h : sep ∉ s) : splitAround sep s = [s] := by
  induction s with
  | nil => rfl
  | cons c s ih =>
    rw [List.mem_cons, not_or] at h
    rw [splitAround, if_neg (Ne.symm h.1), ih h.2]

/-- A text without line feeds is one line. -/
theorem lines_of_notMem (h : '\n' ∉ s) : s.lines = [s] := splitAround_of_notMem h

/-- Joining goes on behind a separator. -/
theorem join_cons_cons (sep first second : Text) (rest : List Text) :
    join sep (first :: second :: rest) = first ++ sep ++ join sep (second :: rest) :=
  List.intercalate_cons_cons

/-- Joining goes on behind a line feed. -/
theorem join_cons {first : Text} {rest : List Text} (h : rest ≠ []) :
    join "\n" (first :: rest) = first ++ '\n' :: join "\n" rest := by
  obtain ⟨second, rest, rfl⟩ := List.exists_cons_of_ne_nil h
  rw [join_cons_cons, List.append_assoc]
  rfl

/-- One piece is joined without a separator. -/
theorem join_singleton (sep : Text) : join sep [s] = s := by
  simp [join, List.intercalate]

/-- The lines of a text, joined, are the text. -/
theorem join_lines : join "\n" s.lines = s := by
  induction s with
  | nil => rfl
  | cons c s ih =>
    by_cases hc : c = '\n'
    · subst hc
      rw [lines_lineFeed, join_cons lines_ne_nil, ih]
      rfl
    · obtain ⟨first, rest, hs⟩ := List.exists_cons_of_ne_nil (lines_ne_nil (s := s))
      rw [lines_cons hc hs]
      rw [hs] at ih
      cases rest with
      | nil => simpa [join_singleton] using ih
      | cons second rest =>
        rw [join_cons (List.cons_ne_nil _ _)] at ih ⊢
        rw [List.cons_append, ih]

/-- In a joined list a line stands behind the beginning or a line feed, and before a line feed or
the end. -/
theorem join_of_mem {ls : List Text} (h : line ∈ ls) : ∃ front back,
    join "\n" ls = front ++ line ++ back ∧ (∀ c ∈ front.getLast?, c = '\n') ∧
      ∀ c ∈ back.head?, c = '\n' := by
  induction ls with
  | nil => cases h
  | cons first rest ih =>
    rcases List.mem_cons.1 h with rfl | h
    · cases rest with
      | nil => exact ⟨[], [], by simp [join_singleton], by simp, by simp⟩
      | cons second rest =>
        refine ⟨[], '\n' :: join "\n" (second :: rest), ?_, by simp, by simp⟩
        rw [join_cons (List.cons_ne_nil _ _), List.nil_append]
    · obtain ⟨front, back, hjoin, hfront, hback⟩ := ih h
      refine ⟨first ++ '\n' :: front, back, ?_, ?_, hback⟩
      · rw [join_cons (List.ne_nil_of_mem h), hjoin]
        simp
      · intro c hc
        cases hlast : front.getLast? with
        | none => simpa [List.getLast?_append, List.getLast?_cons, hlast, eq_comm] using hc
        | some b =>
          exact hfront c (by simpa [List.getLast?_append, List.getLast?_cons, hlast] using hc)

/-- A line stands in its text behind the beginning or a line feed, and before a line feed or the
end. -/
theorem mem_lines (h : line ∈ s.lines) : ∃ front back, s = front ++ line ++ back ∧
    (∀ c ∈ front.getLast?, c = '\n') ∧ ∀ c ∈ back.head?, c = '\n' := by
  have hjoin := join_of_mem h
  rwa [join_lines] at hjoin

/-! ## Trimming -/

/-- Blanks, and only they, are trimmed off in front. -/
theorem eq_append_trimStart (s : Text) :
    ∃ blanks, s = blanks ++ s.trimStart ∧ ∀ c ∈ blanks, isBlank c :=
  ⟨s.takeWhile isBlank, List.takeWhile_append_dropWhile.symm, fun _ => List.mem_takeWhile_imp⟩

/-- Blanks, and only they, are trimmed off at the end. -/
theorem eq_trimEnd_append (s : Text) :
    ∃ blanks, s = s.trimEnd ++ blanks ∧ ∀ c ∈ blanks, isBlank c := by
  obtain ⟨blanks, hs, hblanks⟩ := eq_append_trimStart s.reverse
  refine ⟨blanks.reverse, ?_, fun c hc => hblanks c (List.mem_reverse.1 hc)⟩
  rw [← List.reverse_inj, List.reverse_append, List.reverse_reverse, trimEnd, dropTailWhile,
    List.reverse_reverse]
  exact hs

/-- A text is what trimming leaves of it, between blanks. -/
theorem eq_append_trim (s : Text) : ∃ before after, s = before ++ s.trim ++ after ∧
    ∀ c ∈ before, isBlank c := by
  obtain ⟨before, hstart, hbefore⟩ := eq_append_trimStart s
  obtain ⟨after, hend, -⟩ := eq_trimEnd_append s.trimStart
  refine ⟨before, after, ?_, hbefore⟩
  rw [trim, List.append_assoc, ← hend]
  exact hstart

/-- Nothing is trimmed off in front of a character that is not blank. -/
theorem trimStart_of_head? (hc : s.head? = some c) (h : isBlank c = false) : s.trimStart = s := by
  cases s with
  | nil => rfl
  | cons a s =>
    obtain rfl := Option.some_inj.1 hc
    simp [trimStart, h]

/-- Nothing is trimmed off behind a character that is not blank. -/
theorem trimEnd_of_getLast? (hc : s.getLast? = some c) (h : isBlank c = false) : s.trimEnd = s := by
  have hstart := trimStart_of_head? (s := s.reverse) (by rwa [List.head?_reverse]) h
  rw [trimEnd, dropTailWhile]
  exact (congrArg _ hstart).trans s.reverse_reverse

/-- A text with no blank at either end stays as it is. -/
theorem trim_of_ends {d : Char} (hc : s.head? = some c) (hstart : isBlank c = false)
    (hd : s.getLast? = some d) (hend : isBlank d = false) : s.trim = s := by
  rw [trim, trimStart_of_head? hc hstart, trimEnd_of_getLast? hd hend]

/-- A text without blanks stays as it is. -/
theorem trim_of_forall (h : ∀ c ∈ s, isBlank c = false) : s.trim = s := by
  cases s with
  | nil => rfl
  | cons c s =>
    obtain ⟨last, hlast⟩ := Option.isSome_iff_exists.1 (by simp : (c :: s).getLast?.isSome)
    exact trim_of_ends rfl (h c List.mem_cons_self) hlast (h last (List.mem_of_getLast? hlast))

end Text

/-! ## Logical lines -/

namespace Make

/-- A line is continued only when it ends in a backslash. -/
theorem continued?_eq_none {line : Text} (h : line.getLast? ≠ some '\\') :
    continued? line = none := by
  rw [continued?, List.isSuffixOf?, Option.map_eq_none_iff]
  cases hline : List.isPrefixOf? ['\\'].reverse line.reverse with
  | none => rfl
  | some front =>
    have hreverse := Text.isPrefixOf?_eq_some.1 hline
    rw [← List.head?_reverse, hreverse] at h
    exact absurd rfl h

/-- What is left of the last line of a text: a backslash at its end only says that it goes on. -/
def uncontinued (line : Text) : Text := (continued? line).getD line

/-- A line without a backslash at its end is not continued. -/
theorem uncontinued_of_getLast? {line : Text} (h : line.getLast? ≠ some '\\') :
    uncontinued line = line := by
  rw [uncontinued, continued?_eq_none h]
  rfl

/-- The backslash of a continued line is left out. -/
theorem uncontinued_append (front : Text) : uncontinued (front ++ "\\") = front := by
  have hreverse : (front ++ "\\").reverse = ['\\'].reverse ++ front.reverse := by simp
  rw [uncontinued, continued?, List.isSuffixOf?, Text.isPrefixOf?_eq_some.2 hreverse]
  exact front.reverse_reverse

/-- A continued line has the characters it had, but for its backslash. -/
theorem mem_of_mem_uncontinued {line : Text} {c : Char} (hc : c ∈ uncontinued line) : c ∈ line := by
  obtain rfl | ⟨front, last, rfl⟩ := List.eq_nil_or_concat line
  · exact hc
  · rw [List.concat_eq_append] at hc ⊢
    by_cases hlast : last = '\\'
    · subst hlast
      exact List.mem_append_left _ (uncontinued_append front ▸ hc)
    · rwa [uncontinued_of_getLast? (by simpa using hlast)] at hc

/-- What stands in front is left of a line that ends in a text. -/
theorem uncontinued_append_of_ne_nil (front : Text) {line : Text} (h : line ≠ []) :
    uncontinued (front ++ line) = front ++ uncontinued line := by
  obtain ⟨before, last, rfl⟩ := (List.eq_nil_or_concat line).resolve_left h
  rw [List.concat_eq_append]
  by_cases hlast : last = '\\'
  · subst hlast
    rw [← List.append_assoc]
    exact (uncontinued_append _).trans (congrArg _ (uncontinued_append before).symm)
  · rw [uncontinued_of_getLast? (by simpa using hlast),
      uncontinued_of_getLast? (by simpa using hlast)]

/-- A text without line feeds is one logical line. -/
theorem logicalLines_of_notMem {s : Text} (h : '\n' ∉ s) : logicalLines s = [uncontinued s] := by
  rw [logicalLines, Text.lines_of_notMem h]
  rfl

/-- Lines that do not end in a backslash are logical lines. -/
theorem joinLines_of_forall {line : Text} {rest : List Text}
    (h : ∀ l ∈ line :: rest, l.getLast? ≠ some '\\') : joinLines line rest = line :: rest := by
  induction rest generalizing line with
  | nil => rw [joinLines, continued?_eq_none (h line List.mem_cons_self)]; rfl
  | cons next rest ih =>
    rw [joinLines, continued?_eq_none (h line List.mem_cons_self)]
    exact congrArg _ (ih fun l hl => h l (List.mem_cons_of_mem _ hl))

/-- The logical lines of a text none of whose lines ends in a backslash are its lines. -/
theorem logicalLines_of_forall {s : Text} (h : ∀ l ∈ s.lines, l.getLast? ≠ some '\\') :
    logicalLines s = s.lines := by
  unfold logicalLines
  obtain ⟨line, rest, hs⟩ := List.exists_cons_of_ne_nil (Text.lines_ne_nil (s := s))
  rw [hs] at h ⊢
  exact joinLines_of_forall h

end Make

end MakeHost
