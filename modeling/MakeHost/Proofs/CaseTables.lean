import MakeHost.Text.Alphabetic
import MakeHost.Text.CaseMap
import Mathlib.Data.List.TakeWhile

/-!
# Case and letters

What the tables of case say of letters: a character with a case is a letter (`isLetter_of_isUpper`,
`isLetter_of_isLower`), and a character that is no letter is its own upper and lower form
(`upperChar_of_not_isLetter`, `lowerChar_of_not_isLetter`). The code points of a table are compared
with the letters in one pass over both (`allWithin`). The letters below 128 are the Latin ones
(`ascii_of_isLetter`).
-/

namespace MakeHost.Text

variable {c : Char} {code : Nat} {r : CodeRange} {codes : List Nat}
  {ranges table : List CodeRange}

/-! ## The code points of a table -/

/-- The code points of a progression. -/
def CodeRange.toList (r : CodeRange) : List Nat :=
  List.range' r.first ((r.last - r.first) / r.step + 1) r.step

/-- A code point of a range is in the list of its code points. -/
theorem CodeRange.mem_toList (h : r.contains code = true) : code ∈ r.toList := by
  simp only [CodeRange.contains, Bool.and_eq_true, decide_eq_true_eq, beq_iff_eq] at h
  obtain ⟨⟨hfirst, hlast⟩, hstep⟩ := h
  obtain ⟨i, hi⟩ := Nat.dvd_of_mod_eq_zero hstep
  refine List.mem_range'.2 ?_
  by_cases hzero : r.step = 0
  · rw [hzero, Nat.zero_mul] at hi
    exact ⟨0, Nat.succ_pos _, by omega⟩
  · have hle : r.step * i ≤ r.last - r.first := by omega
    refine ⟨i, Nat.lt_succ_of_le ?_, by omega⟩
    rwa [Nat.le_div_iff_mul_le (Nat.pos_of_ne_zero hzero), Nat.mul_comm]

/-- Whether every code point belongs to one of the progressions. Each progression takes the code
points off the front that belong to it, so both lists are given in increasing order. -/
def allWithin : List Nat → List CodeRange → Bool
  | codes, [] => codes.isEmpty
  | codes, r :: ranges => allWithin (codes.dropWhile r.contains) ranges

/-- Code points that one pass found within ranges lie in them. -/
theorem contains_of_allWithin (h : allWithin codes ranges = true) (hcode : code ∈ codes) :
    ∃ r ∈ ranges, r.contains code = true := by
  induction ranges generalizing codes with
  | nil =>
    obtain rfl := List.isEmpty_iff.1 h
    cases hcode
  | cons r ranges ih =>
    rw [← List.takeWhile_append_dropWhile (p := r.contains) (l := codes)] at hcode
    rcases List.mem_append.1 hcode with hfront | hrest
    · exact ⟨r, List.mem_cons_self, List.mem_takeWhile_imp hfront⟩
    · obtain ⟨big, hbig, hcontains⟩ := ih h hrest
      exact ⟨big, List.mem_cons_of_mem _ hbig, hcontains⟩

/-- Characters whose code points lie within the letters are letters. -/
theorem isLetter_of_allWithin (h : allWithin codes alphabeticRanges = true)
    (hc : c.toNat ∈ codes) : isLetter c = true :=
  List.any_eq_true.2 (contains_of_allWithin h hc)

/-- The letters below 128 are the Latin ones. -/
theorem ascii_of_isLetter (h : isLetter c = true) (hc : c.toNat < 128) :
    (65 ≤ c.toNat ∧ c.toNat ≤ 90) ∨ (97 ≤ c.toNat ∧ c.toNat ≤ 122) := by
  have htable : ∀ r ∈ alphabeticRanges, 128 ≤ r.first ∨
      (65 ≤ r.first ∧ r.last ≤ 90) ∨ (97 ≤ r.first ∧ r.last ≤ 122) := by
    decide +kernel
  obtain ⟨r, hr, hcode⟩ := List.any_eq_true.1 h
  simp only [CodeRange.contains, Bool.and_eq_true, decide_eq_true_eq] at hcode
  have := htable r hr
  omega

/-! ## Characters with a case -/

/-- A character that a table covers has its code point in the table's list. -/
theorem mem_toList_of_covers (h : covers table c = true) :
    c.toNat ∈ table.flatMap CodeRange.toList := by
  obtain ⟨r, hr, hc⟩ := List.any_eq_true.1 h
  exact List.mem_flatMap.2 ⟨r, hr, CodeRange.mem_toList hc⟩

/-- Uppercase characters are letters. -/
theorem isLetter_of_isUpper (h : isUpper c = true) : isLetter c = true := by
  have htable : allWithin (uppercaseRanges.flatMap CodeRange.toList) alphabeticRanges = true := by
    decide +kernel
  exact isLetter_of_allWithin htable (mem_toList_of_covers h)

/-- Lowercase characters are letters. -/
theorem isLetter_of_isLower (h : isLower c = true) : isLetter c = true := by
  have htable : allWithin (lowercaseRanges.flatMap CodeRange.toList) alphabeticRanges = true := by
    decide +kernel
  exact isLetter_of_allWithin htable (mem_toList_of_covers h)

/-! ## Forms of characters -/

/-- A character that no table maps is its own form. -/
theorem mapCase_of_not_isLetter {expansions : List (Nat × List Nat)} {runs : List CaseRun}
    (hexpansions : allWithin (expansions.map Prod.fst) alphabeticRanges = true)
    (hruns : allWithin (runs.flatMap fun run => run.codes.toList) alphabeticRanges = true)
    (hc : isLetter c = false) : mapCase expansions runs c = [c] := by
  have hnone : expansions.lookup c.toNat = none := by
    refine List.lookup_eq_none_iff.2 fun e he => bne_iff_ne.2 fun heq => ?_
    have hmem : c.toNat ∈ expansions.map Prod.fst := List.mem_map.2 ⟨e, he, heq.symm⟩
    have hletter := isLetter_of_allWithin hexpansions hmem
    exact Bool.noConfusion (hletter.symm.trans hc)
  have hunmapped : mapped? runs c.toNat = none := by
    refine Option.map_eq_none_iff.2 (List.find?_eq_none.2 fun run hrun hcode => ?_)
    have hmem : c.toNat ∈ runs.flatMap fun run => run.codes.toList :=
      List.mem_flatMap.2 ⟨run, hrun, CodeRange.mem_toList hcode⟩
    have hletter := isLetter_of_allWithin hruns hmem
    exact Bool.noConfusion (hletter.symm.trans hc)
  rw [mapCase, hnone, hunmapped]

/-- A character that is no letter has itself as its lower form. -/
theorem lowerChar_of_not_isLetter (h : isLetter c = false) : lowerChar c = [c] :=
  mapCase_of_not_isLetter (by decide +kernel) (by decide +kernel) h

/-- A character that is no letter has itself as its upper form. -/
theorem upperChar_of_not_isLetter (h : isLetter c = false) : upperChar c = [c] :=
  mapCase_of_not_isLetter (by decide +kernel) (by decide +kernel) h

end MakeHost.Text
