import MakeHost.Library.Strings
import Mathlib.Data.List.Induction

/-!
# Tab stops

`Strings.expandTabs` counts a column while it writes. The column it counts is the one that the text
written so far ends at (`Strings.expandTabsFrom_append`), so a text goes on expanding behind a front
part as it would behind what is written for that part, and every tab becomes the spaces that are
missing to the next tab stop. `Strings.AlignsTabs` says this of a function on texts, character by
character; for a positive size there is only one such function (`Strings.alignsTabs_iff`).
-/

namespace MakeHost

namespace Text

/-- Whether a column count restarts behind a character. -/
def isLineBreak (c : Char) : Bool := c = '\n' || c = '\r'

/-- The column at which a text ends: the number of characters behind its last line break. -/
def column (s : Text) : Nat := (takeTailWhile (!isLineBreak ·) s).length

/-- An empty text ends in the first column. -/
@[simp] theorem column_nil : column [] = 0 := rfl

/-- A character goes one column further, and a line break back to the first one. -/
theorem column_concat (s : Text) (c : Char) :
    column (s ++ [c]) = if isLineBreak c then 0 else column s + 1 := by
  cases h : isLineBreak c <;> simp [column, takeTailWhile, h]

/-- Spaces go on by their number. -/
theorem column_append_spaces (s : Text) (k : Nat) :
    column (s ++ repeated k ' ') = column s + k := by
  have hspace : isLineBreak ' ' = false := by decide
  induction k with
  | zero => simp [repeated]
  | succ k ih =>
    have hlast : s ++ repeated (k + 1) ' ' = s ++ repeated k ' ' ++ [' '] := by
      simp [repeated, List.replicate_succ']
    rw [hlast, column_concat, ih, hspace]
    simp [Nat.add_assoc]

end Text

namespace Strings

open Text (column isLineBreak)

variable {n k : Nat} {s : Text} {size : Option Text} {expanded : Text → Text}

/-! ## One character -/

/-- The spaces from a column to the next tab stop. -/
def tabWidth (n column : Nat) : Nat := if n = 0 then 0 else n - column % n

/-- What stands in the expanded text for a character at a column. -/
def tabExpanded (n column : Nat) (c : Char) : Text :=
  if c = '\t' then Text.repeated (tabWidth n column) ' ' else [c]

/-- A tab is one space at least and one tab stop at most. -/
theorem tabWidth_bounds (hn : 0 < n) (column : Nat) :
    1 ≤ tabWidth n column ∧ tabWidth n column ≤ n := by
  have hmod := Nat.mod_lt column hn
  rw [tabWidth, if_neg (Nat.ne_of_gt hn)]
  omega

/-- The spaces lead to a tab stop. -/
theorem dvd_add_tabWidth (hn : 0 < n) (column : Nat) : n ∣ column + tabWidth n column := by
  have hmod := Nat.mod_lt column hn
  have hdiv := Nat.div_add_mod column n
  rw [tabWidth, if_neg (Nat.ne_of_gt hn)]
  exact ⟨column / n + 1, by rw [Nat.mul_add, Nat.mul_one]; omega⟩

/-- There is one tab stop among the next columns, as many as the tab size. Two tab stops are a
multiple of the tab size apart, and two among these columns less than that. -/
theorem eq_tabWidth {column : Nat} (hpos : 1 ≤ k) (hle : k ≤ n) (hdvd : n ∣ column + k) :
    k = tabWidth n column := by
  have hn : 0 < n := by omega
  obtain ⟨hpos', hle'⟩ := tabWidth_bounds hn column
  have hdvd' := dvd_add_tabWidth hn column
  rcases Nat.le_total k (tabWidth n column) with h | h
  · have hdiff := Nat.dvd_sub hdvd' hdvd
    have := Nat.eq_zero_of_dvd_of_lt hdiff (by omega)
    omega
  · have hdiff := Nat.dvd_sub hdvd hdvd'
    have := Nat.eq_zero_of_dvd_of_lt hdiff (by omega)
    omega

/-- The column behind what is written for a character is the one that expansion goes on with. -/
theorem expandTabsFrom_cons (n : Nat) (written : Text) (c : Char) (s : Text) :
    expandTabsFrom n (column written) (c :: s) = tabExpanded n (column written) c ++
      expandTabsFrom n (column (written ++ tabExpanded n (column written) c)) s := by
  by_cases hc : c = '\t'
  · subst hc
    rw [tabExpanded, if_pos rfl, Text.column_append_spaces, expandTabsFrom, tabWidth]
  · have hbreak : (c = '\n' ∨ c = '\r') ↔ isLineBreak c = true := by simp [isLineBreak]
    rw [tabExpanded, if_neg hc, Text.column_concat, expandTabsFrom]
    · simp only [hbreak, List.singleton_append]
    · simpa using hc

/-- **What is behind a front part expands at the column that the expanded front part ends at.** -/
theorem expandTabsFrom_append (n : Nat) (written front rest : Text) :
    expandTabsFrom n (column written) (front ++ rest) =
      expandTabsFrom n (column written) front ++
        expandTabsFrom n (column (written ++ expandTabsFrom n (column written) front)) rest := by
  induction front generalizing written with
  | nil => simp [expandTabsFrom]
  | cons c front ih =>
    rw [List.cons_append, expandTabsFrom_cons, ih, expandTabsFrom_cons n written c front]
    simp only [List.append_assoc]

/-- What is written for a character depends on the column that was reached. -/
theorem expandTabsFrom_concat (n : Nat) (s : Text) (c : Char) :
    expandTabsFrom n 0 (s ++ [c]) =
      expandTabsFrom n 0 s ++ tabExpanded n (column (expandTabsFrom n 0 s)) c := by
  have happend := expandTabsFrom_append n [] s [c]
  rw [Text.column_nil, List.nil_append, expandTabsFrom_cons] at happend
  simpa [expandTabsFrom] using happend

/-! ## Whole texts -/

/-- The function writes spaces for a tab, at least one and at most the tab size, up to a column that
is a multiple of it; every other character it writes as it stands, and all in their order. -/
structure AlignsTabs (n : Nat) (expanded : Text → Text) : Prop where
  nil : expanded [] = []
  concat : ∀ s c, c ≠ '\t' → expanded (s ++ [c]) = expanded s ++ [c]
  tab : ∀ s, ∃ k, 1 ≤ k ∧ k ≤ n ∧ expanded (s ++ ['\t']) = expanded s ++ Text.repeated k ' ' ∧
    n ∣ column (expanded (s ++ ['\t']))

/-- Expansion aligns tabs. -/
theorem alignsTabs_expandTabsFrom (hn : 0 < n) : AlignsTabs n (expandTabsFrom n 0) where
  nil := rfl
  concat s c hc := by rw [expandTabsFrom_concat, tabExpanded, if_neg hc]
  tab s := by
    obtain ⟨hpos, hle⟩ := tabWidth_bounds hn (column (expandTabsFrom n 0 s))
    have hwritten := expandTabsFrom_concat n s '\t'
    rw [tabExpanded, if_pos rfl] at hwritten
    refine ⟨_, hpos, hle, hwritten, ?_⟩
    rw [hwritten, Text.column_append_spaces]
    exact dvd_add_tabWidth hn _

/-- There is one way to align tabs. -/
theorem alignsTabs_iff (hn : 0 < n) : AlignsTabs n expanded ↔ expanded = expandTabsFrom n 0 := by
  refine ⟨fun h => funext fun s => ?_, fun h => h ▸ alignsTabs_expandTabsFrom hn⟩
  induction s using List.reverseRecOn with
  | nil => exact h.nil
  | append_singleton s c ih =>
    rw [expandTabsFrom_concat, ← ih, tabExpanded]
    split
    · next hc =>
      obtain ⟨k, hpos, hle, hwritten, hdvd⟩ := h.tab s
      rw [hwritten, Text.column_append_spaces] at hdvd
      rw [hc, hwritten, eq_tabWidth hpos hle hdvd]
    · next hc => exact h.concat s c hc

/-- A tab size of zero leaves nothing of a tab. -/
theorem expandTabsFrom_zero (s : Text) (column : Nat) :
    expandTabsFrom 0 column s = s.filter (· ≠ '\t') := by
  induction s generalizing column with
  | nil => rfl
  | cons c s ih =>
    by_cases hc : c = '\t'
    · subst hc
      simp [expandTabsFrom, Text.repeated, ih]
    · rw [expandTabsFrom, ih]
      · simp [hc]
      · simpa using hc

/-- No tab is left. -/
theorem tab_notMem_expandTabsFrom (n : Nat) (s : Text) : '\t' ∉ expandTabsFrom n 0 s := by
  induction s using List.reverseRecOn with
  | nil => simp [expandTabsFrom]
  | append_singleton s c ih =>
    rw [expandTabsFrom_concat, List.mem_append, not_or, tabExpanded]
    refine ⟨ih, ?_⟩
    split
    · simp [Text.repeated, List.mem_replicate]
    · next hc => simpa using Ne.symm hc

/-- A text without tabs stays as it is. -/
theorem expandTabsFrom_of_notMem (h : '\t' ∉ s) : expandTabsFrom n 0 s = s := by
  induction s using List.reverseRecOn with
  | nil => rfl
  | append_singleton s c ih =>
    rw [List.mem_append, not_or, List.mem_singleton] at h
    rw [expandTabsFrom_concat, ih h.1, tabExpanded, if_neg (Ne.symm h.2)]

/-- **Expanding keeps columns.** It succeeds on every text. With a tab size of zero or less it takes
the tabs out of the text and nothing else; with a positive one it is the one function that writes
for each tab the spaces, at least one and at most the tab size, that lead to the next column that is
a multiple of the tab size, and nothing else for any other character. No tab is left, so expanding
again changes nothing. -/
theorem expandTabs_aligns {number : Option Int}
    (hsize : optionalNumber size = .ok number) :
    let n := number.getD 8
    ∃ expanded : Text → Text, (∀ s, expandTabs s size = .ok (expanded s)) ∧
      (n ≤ 0 → ∀ s, expanded s = s.filter (· ≠ '\t')) ∧
      (0 < n → ∀ aligned, AlignsTabs n.toNat aligned ↔ aligned = expanded) ∧
      (∀ s, '\t' ∉ expanded s) ∧
      ∀ s, expandTabs (expanded s) size = .ok (expanded s) := by
  intro n
  have heq : ∀ s, expandTabs s size = .ok (expandTabsFrom n.toNat 0 s) := fun s => by
    rw [expandTabs, hsize]
    rfl
  refine ⟨expandTabsFrom n.toNat 0, heq, fun hn s => ?_, fun hn => ?_, ?_, fun s => ?_⟩
  · rw [Int.toNat_of_nonpos hn, expandTabsFrom_zero]
  · exact fun aligned => alignsTabs_iff (by omega)
  · exact tab_notMem_expandTabsFrom n.toNat
  · rw [heq, expandTabsFrom_of_notMem (tab_notMem_expandTabsFrom n.toNat s)]

/-- Tabs are aligned on both lines of a text. -/
theorem expandTabs_aligns_four : optionalNumber (some "4") = .ok (some 4) ∧
    ∃ expanded : Text → Text, AlignsTabs 4 expanded ∧
      expandTabs "a\tb\n\tc" (some "4") = .ok (expanded "a\tb\n\tc") ∧
      expandTabs "a\tb\n\tc" (some "4") = .ok "a   b\n    c" := by
  have hsize : optionalNumber (some "4") = .ok (some 4) := by decide
  obtain ⟨expanded, heq, -, haligns, -⟩ := expandTabs_aligns hsize
  exact ⟨hsize, expanded, (haligns (by decide) expanded).2 rfl, heq _, by decide⟩

end Strings

end MakeHost
