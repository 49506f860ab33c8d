import MakeHost.Proofs.Splitting
import MakeHost.Proofs.WholeNumbers
import Mathlib.Order.Bounds.Image

/-!
# Searching in windows

A window of a text is cut out of it before it is searched, and what is found there is found in the
text itself, as far behind the start of the window (`Strings.found_iff`). So a search returns the
least or the greatest position in the window at which a text stands, a count the greatest number of
places that it takes without overlaps (`Text.isGreatest_occurrences`), and no sum that is made on
the way leaves the numbers of 64 bits (`Strings.positionWithin_eq`).
-/

namespace MakeHost

namespace Text

variable {sub s : Text} {i n : Nat} {places : List Nat}

/-! ## Where a text stands -/

/-- One text stands in another at a position. -/
def StandsAt (sub s : Text) (i : Nat) : Prop :=
  ∃ front after, s = front ++ sub ++ after ∧ front.length = i

/-- A text stands in another where the rest begins with it. -/
theorem standsAt_iff : StandsAt sub s i ↔ i + sub.length ≤ s.length ∧ sub <+: s.drop i := by
  constructor
  · rintro ⟨front, after, rfl, rfl⟩
    rw [List.append_assoc, List.drop_left]
    refine ⟨?_, List.prefix_append _ _⟩
    simp only [List.length_append]
    omega
  · rintro ⟨hle, after, hafter⟩
    refine ⟨s.take i, after, ?_, List.length_take_of_le (by omega)⟩
    rw [List.append_assoc, hafter, List.take_append_drop]

/-- No text stands behind the end of another. -/
theorem le_length_of_standsAt (h : StandsAt sub s i) : i ≤ s.length :=
  (Nat.le_add_right _ _).trans (standsAt_iff.1 h).1

/-- It stands at the same place in the front part that reaches so far. -/
theorem standsAt_take (hn : n ≤ s.length) :
    StandsAt sub (s.take n) i ↔ i + sub.length ≤ n ∧ sub <+: s.drop i := by
  rw [standsAt_iff, List.length_take_of_le hn, List.drop_take, List.prefix_take_iff]
  exact ⟨fun ⟨hle, hstands, _⟩ => ⟨hle, hstands⟩, fun ⟨hle, hstands⟩ => ⟨hle, hstands, by omega⟩⟩

/-- What stands in the rest of a text stands as much further in the text. -/
theorem standsAt_drop (hn : n ≤ s.length) : StandsAt sub (s.drop n) i ↔ StandsAt sub s (n + i) := by
  rw [standsAt_iff, standsAt_iff, List.length_drop, List.drop_drop]
  exact and_congr_left' (by omega)

/-- The first cut is made at the least position. -/
theorem firstIndex?_eq_some (h : firstIndex? sub s = some i) :
    IsLeast {i | StandsAt sub s i} i := by
  obtain ⟨⟨front, after⟩, hcut, rfl⟩ := Option.map_eq_some_iff.1 h
  obtain ⟨hs, hleast⟩ := cutFirst?_eq_some_iff.1 hcut
  refine ⟨⟨front, after, hs, rfl⟩, ?_⟩
  rintro - ⟨before, behind, hbefore, rfl⟩
  exact hleast before behind hbefore

/-- A text that is no part of another stands nowhere in it. -/
theorem not_standsAt_of_not_infix (h : ¬ sub <:+: s) (i : Nat) : ¬ StandsAt sub s i :=
  fun ⟨front, after, hs, _⟩ => h ⟨front, after, hs.symm⟩

/-- Where a search from the left finds nothing the text stands nowhere. -/
theorem firstIndex?_eq_none (h : firstIndex? sub s = none) (i : Nat) : ¬ StandsAt sub s i :=
  not_standsAt_of_not_infix (cutFirst?_eq_none_iff.1 (Option.map_eq_none_iff.1 h)) i

/-- The last cut is made at the greatest position. -/
theorem lastIndex?_eq_some (h : lastIndex? sub s = some i) :
    IsGreatest {i | StandsAt sub s i} i := by
  obtain ⟨⟨front, after⟩, hcut, rfl⟩ := Option.map_eq_some_iff.1 h
  obtain ⟨hs, hgreatest⟩ := cutLast?_eq_some_iff.1 hcut
  refine ⟨⟨front, after, hs, rfl⟩, ?_⟩
  rintro - ⟨before, behind, hbefore, rfl⟩
  exact hgreatest before behind hbefore

/-- Where a search from the right finds nothing the text stands nowhere. -/
theorem lastIndex?_eq_none (h : lastIndex? sub s = none) (i : Nat) : ¬ StandsAt sub s i :=
  not_standsAt_of_not_infix (cutLast?_eq_none_iff.1 (Option.map_eq_none_iff.1 h)) i

/-- A beginning stands at the start. -/
theorem prefix_iff : sub <+: s ↔ StandsAt sub s 0 := by
  simp [standsAt_iff, and_iff_right_of_imp List.IsPrefix.length_le]

/-- An ending stands where the text ends with it. -/
theorem suffix_iff : sub <:+ s ↔ ∃ i, StandsAt sub s i ∧ i + sub.length = s.length := by
  constructor
  · rintro ⟨front, rfl⟩
    exact ⟨front.length, ⟨front, [], by simp, rfl⟩, by simp⟩
  · rintro ⟨i, ⟨front, after, rfl, rfl⟩, hlength⟩
    obtain rfl : after = [] := by simpa using hlength
    exact ⟨front, (List.append_nil _).symm⟩

/-! ## Places without overlaps -/

/-- Places from a position on, in their order, each behind the end of the one before. -/
structure Places (sub s : Text) (n : Nat) (places : List Nat) : Prop where
  stands : ∀ i ∈ places, n ≤ i ∧ StandsAt sub s i
  apart : places.Pairwise fun i j => i + sub.length ≤ j

/-- Cutting at the places leaves one piece more than there are places. -/
theorem Places.cuts (h : Places sub s n places) (hn : n ≤ s.length) :
    ∃ parts, Cuts sub (s.drop n) parts ∧ parts.length = places.length + 1 := by
  induction places generalizing n with
  | nil => exact ⟨[s.drop n], ⟨List.cons_ne_nil _ _, join_singleton sub⟩, rfl⟩
  | cons i places ih =>
    obtain ⟨hi, hstands⟩ := h.stands i List.mem_cons_self
    obtain ⟨hfirst, hrest⟩ := List.pairwise_cons.1 h.apart
    obtain ⟨front, after, rfl, rfl⟩ := hstands
    have hbehind : Places sub (front ++ sub ++ after) (front.length + sub.length) places :=
      ⟨fun j hj => ⟨hfirst j hj, (h.stands j (List.mem_cons_of_mem _ hj)).2⟩, hrest⟩
    obtain ⟨parts, hcuts, hlength⟩ := ih hbehind (by simp)
    rw [← List.length_append, List.drop_left] at hcuts
    refine ⟨front.drop n :: parts, ⟨List.cons_ne_nil _ _, ?_⟩, by simp [hlength]⟩
    rw [join_of_ne_nil _ hcuts.ne_nil, hcuts.join_eq, List.append_assoc, List.append_assoc,
      List.drop_append_of_le_length hi]

/-- The cuts are made at places. -/
theorem Cuts.exists_places {parts : List Text} (h : Cuts sub (s.drop n) parts) (hn : n ≤ s.length) :
    ∃ places, Places sub s n places ∧ places.length + 1 = parts.length := by
  induction parts generalizing n with
  | nil => exact absurd rfl h.ne_nil
  | cons p parts ih =>
    by_cases hparts : parts = []
    · exact ⟨[], ⟨by simp, .nil⟩, by simp [hparts]⟩
    · have hjoin := h.join_eq
      rw [join_of_ne_nil p hparts] at hjoin
      have hs : s = s.take n ++ p ++ sub ++ join sub parts := by
        rw [List.append_assoc, List.append_assoc, ← List.append_assoc p, hjoin,
          List.take_append_drop]
      have hfront : (s.take n ++ p).length = n + p.length := by
        rw [List.length_append, List.length_take_of_le hn]
      have hstands : StandsAt sub s (n + p.length) := ⟨_, _, hs, hfront⟩
      have hnext := (standsAt_iff.1 hstands).1
      have hdrop : s.drop (n + p.length + sub.length) = join sub parts := by
        conv_lhs => rw [hs]
        rw [← hfront, ← List.length_append, List.drop_left]
      obtain ⟨places, hplaces, hlength⟩ := ih ⟨hparts, hdrop.symm⟩ hnext
      refine ⟨(n + p.length) :: places, ⟨fun i hi => ?_, List.pairwise_cons.2
        ⟨fun i hi => (hplaces.stands i hi).1, hplaces.apart⟩⟩, by simp [hlength]⟩
      rcases List.mem_cons.1 hi with rfl | hi
      · exact ⟨Nat.le_add_right _ _, hstands⟩
      · obtain ⟨hle, hthere⟩ := hplaces.stands i hi
        exact ⟨by omega, hthere⟩

/-- **The occurrences counted are as many as there can be without overlaps.** -/
theorem isGreatest_occurrences (hsub : sub ≠ []) (hn : n ≤ s.length) :
    IsGreatest {k | ∃ places, Places sub s n places ∧ places.length = k}
      (occurrences sub (s.drop n)) := by
  have hmost := mostCuts_splitAll hsub (s.drop n)
  have hcount := occurrences_eq hsub (s.drop n)
  constructor
  · obtain ⟨places, hplaces, hlength⟩ := hmost.toCuts.exists_places hn
    exact ⟨places, hplaces, by omega⟩
  · rintro k ⟨places, hplaces, rfl⟩
    obtain ⟨parts, hcuts, hlength⟩ := hplaces.cuts hn
    have hle := hmost.most parts hcuts
    omega

end Text

namespace Strings

open Text (StandsAt Places)

variable {s sub : Text} {first last i : Nat} {a b : Option Int} {start stop : Option Text}

/-! ## What is found in a window -/

/-- `sub` stands in `s` at position `i`, all of it between two bounds. -/
structure Found (sub s : Text) (first last : Int) (i : Nat) : Prop where
  behind : first ≤ i
  before : i + sub.length ≤ last
  stands : sub <+: s.drop i

/-- A window is what lies between its bounds. -/
theorem between_eq (s : Text) (first last : Nat) :
    between s first last = (s.take last).drop first := by
  rw [between, List.drop_take]

/-- What is found in a window is what stands in the front part up to its end. -/
theorem found_iff_take (hlast : last ≤ s.length) :
    Found sub s first last i ↔ first ≤ i ∧ StandsAt sub (s.take last) i := by
  rw [Text.standsAt_take hlast]
  constructor
  · rintro ⟨hbehind, hbefore, hstands⟩
    exact ⟨by omega, by omega, hstands⟩
  · rintro ⟨hbehind, hbefore, hstands⟩
    exact ⟨by omega, by omega, hstands⟩

/-- **What stands in the window stands in the text, as far behind the start of the window.** -/
theorem found_iff (hle : first ≤ last) (hlast : last ≤ s.length) :
    Found sub s first last i ↔ ∃ j, StandsAt sub (between s first last) j ∧ first + j = i := by
  have hfirst : first ≤ (s.take last).length := by rwa [List.length_take_of_le hlast]
  rw [found_iff_take hlast, between_eq]
  constructor
  · rintro ⟨hbehind, hstands⟩
    exact ⟨i - first, (Text.standsAt_drop hfirst).2 (by rwa [Nat.add_sub_cancel' hbehind]),
      Nat.add_sub_cancel' hbehind⟩
  · rintro ⟨j, hstands, rfl⟩
    exact ⟨Nat.le_add_right _ _, (Text.standsAt_drop hfirst).1 hstands⟩

/-- Positions in a window at which `sub` stands, in their order, each behind the end of the one
before. -/
structure Spread (sub s : Text) (first last : Int) (places : List Nat) : Prop where
  found : ∀ i ∈ places, Found sub s first last i
  apart : places.Pairwise fun i j => i + sub.length ≤ j

/-- Places in a window are places in the text up to the window's end. -/
theorem spread_iff {places : List Nat} (hlast : last ≤ s.length) :
    Spread sub s first last places ↔ Places sub (s.take last) first places :=
  ⟨fun h => ⟨fun i hi => (found_iff_take hlast).1 (h.found i hi), h.apart⟩,
    fun h => ⟨fun i hi => (found_iff_take hlast).2 (h.stands i hi), h.apart⟩⟩

/-- A window is as long as its bounds are apart. -/
theorem length_between (hlast : last ≤ s.length) :
    (between s first last).length = last - first := by
  rw [between_eq, List.length_drop, List.length_take_of_le hlast]

/-! ## The bounds of a window -/

/-- Where a window starts: at the start of the text if no bound is given. -/
def windowStart (length : Nat) (start : Option Int) : Int := resolveBound length (start.getD 0)

/-- Where a window ends: at the end of the text if no bound is given, and never behind it. -/
def windowEnd (length : Nat) (stop : Option Int) : Int :=
  min (resolveBound length (stop.getD length)) length

/-- No bound lies before the text. -/
theorem resolveBound_nonneg (length : Nat) (bound : Int) : 0 ≤ resolveBound length bound := by
  rw [resolveBound]
  split
  · exact Int.le_max_right _ _
  · omega

/-- There is a window where it neither starts behind the end nor ends before its start. -/
theorem window_eq_some {length first last : Nat} (h : window length a b = some (first, last)) :
    windowStart length a = first ∧ windowEnd length b = last ∧ first ≤ last ∧ last ≤ length := by
  have hstart := resolveBound_nonneg length (a.getD 0)
  have hstop := resolveBound_nonneg length (b.getD length)
  simp only [window] at h
  rw [windowStart, windowEnd]
  split at h
  · cases h
  · cases h
    omega

/-- There is no window when its end lies before its start. -/
theorem window_eq_none {length : Nat} (h : window length a b = none) :
    windowEnd length b < windowStart length a := by
  simp only [window] at h
  rw [windowStart, windowEnd]
  split at h
  · omega
  · cases h

/-- Nothing is found where there is no window. -/
theorem not_found_of_lt {first last : Int} (h : last < first) (i : Nat) :
    ¬ Found sub s first last i :=
  fun ⟨hbehind, hbefore, _⟩ => by omega

/-! ## Searches -/

section Searches

variable (hstart : optionalNumber start = .ok a) (hstop : optionalNumber stop = .ok b)
include hstart hstop

/-- What is searched is the window with its start. -/
theorem sliced_eq (s : Text) : sliced s start stop =
    .ok ((window s.length a b).map fun (first, last) => (first, between s first last)) := by
  rw [sliced, hstart, hstop]
  rfl

/-- A search without a window fails. -/
theorem position_of_none {search : Text → Option Nat} (h : window s.length a b = none) :
    position search s start stop = .error (.value "substring not found") := by
  rw [position, sliced_eq hstart hstop, h]
  rfl

/-- A search finds in the text what it finds in the window, as far behind its start. -/
theorem position_of_some {search : Text → Option Nat} {first last : Nat}
    (h : window s.length a b = some (first, last)) : position search s start stop =
      ((search (between s first last)).map (first + ·)).elim
        (.error (.value "substring not found")) .ok := by
  rw [position, sliced_eq hstart hstop, h]
  simp only [bind, Except.bind, Option.map_some, Option.bind_some]
  cases search (between s first last) <;> rfl

/-- A search of the window gives the position that it picks, and a failure where there is none. -/
theorem position_cases (s sub : Text) (search : Text → Option Nat)
    {best : Set Nat → Nat → Prop}
    (hshift : ∀ n positions i, best positions i → best ((n + ·) '' positions) (n + i))
    (hsome : ∀ t i, search t = some i → best {i | StandsAt sub t i} i)
    (hnone : ∀ t, search t = none → ∀ i, ¬ StandsAt sub t i) :
    (∃ i, best {i | Found sub s (windowStart s.length a) (windowEnd s.length b) i} i ∧
        position search s start stop = .ok i) ∨
      (∀ i, ¬ Found sub s (windowStart s.length a) (windowEnd s.length b) i) ∧
        position search s start stop = .error (.value "substring not found") := by
  cases hwindow : window s.length a b with
  | none =>
    exact .inr ⟨not_found_of_lt (window_eq_none hwindow), position_of_none hstart hstop hwindow⟩
  | some bounds =>
    obtain ⟨first, last⟩ := bounds
    obtain ⟨hfirst, hlast, hle, hlength⟩ := window_eq_some hwindow
    have hfound : {i | Found sub s first last i} =
        (first + ·) '' {i | StandsAt sub (between s first last) i} :=
      Set.ext fun i => found_iff hle hlength
    rw [hfirst, hlast, position_of_some hstart hstop hwindow]
    cases hsearch : search (between s first last) with
    | none =>
      refine .inr ⟨fun i hi => ?_, rfl⟩
      obtain ⟨j, hj, -⟩ := (found_iff hle hlength).1 hi
      exact hnone _ hsearch j hj
    | some j => exact .inl ⟨first + j, hfound ▸ hshift _ _ _ (hsome _ _ hsearch), rfl⟩

/-! ## Counts -/

/-- A count is that of the occurrences in the window. -/
theorem count_eq (sub s : Text) : count s sub start stop = .ok ((window s.length a b).elim 0
    fun (first, last) => Text.occurrences sub (between s first last)) := by
  rw [count, sliced_eq hstart hstop]
  cases window s.length a b <;> rfl

/-- **A count of a text that is not empty is the greatest number of places without overlaps.** -/
theorem count_isGreatest (s : Text) (hsub : sub ≠ []) :
    ∃ k, count s sub start stop = .ok k ∧ IsGreatest {k | ∃ places, places.length = k ∧
      Spread sub s (windowStart s.length a) (windowEnd s.length b) places} k := by
  refine ⟨_, count_eq hstart hstop sub s, ?_⟩
  cases hwindow : window s.length a b with
  | none =>
    refine ⟨⟨[], rfl, by simp, .nil⟩, ?_⟩
    rintro k ⟨places, rfl, hspread⟩
    cases places with
    | nil => exact Nat.le_refl _
    | cons i places =>
      have hfound := hspread.found i List.mem_cons_self
      exact absurd hfound (not_found_of_lt (window_eq_none hwindow) i)
  | some bounds =>
    obtain ⟨first, last⟩ := bounds
    obtain ⟨hfirst, hlast, hle, hlength⟩ := window_eq_some hwindow
    have hgreatest := Text.isGreatest_occurrences hsub (s := s.take last) (n := first)
      (by rwa [List.length_take_of_le hlength])
    rw [hfirst, hlast]
    simpa only [Option.elim_some, between_eq, spread_iff hlength, and_comm] using hgreatest

/-- The empty text stands around every character of a window. -/
theorem count_empty (s : Text) : ∃ k, count s [] start stop = .ok k ∧
    (k : Int) = if windowEnd s.length b < windowStart s.length a then 0
      else windowEnd s.length b - windowStart s.length a + 1 := by
  refine ⟨_, count_eq hstart hstop [] s, ?_⟩
  cases hwindow : window s.length a b with
  | none => simp [window_eq_none hwindow]
  | some bounds =>
    obtain ⟨first, last⟩ := bounds
    obtain ⟨hfirst, hlast, hle, hlength⟩ := window_eq_some hwindow
    rw [hfirst, hlast, if_neg (by omega)]
    simp only [Option.elim_some, Text.occurrences, List.isEmpty_nil, if_true,
      length_between hlength]
    omega

/-! ## Both ends of a window -/

/-- What begins the window is found at its start. -/
theorem startsWith_iff (s front : Text) : ∃ found, startsWith s front start stop = .ok found ∧
    (found = true ↔ ∃ i, Found front s (windowStart s.length a) (windowEnd s.length b) i ∧
      (i : Int) = windowStart s.length a) := by
  have heq : startsWith s front start stop = .ok ((window s.length a b).any fun (first, last) =>
      front.isPrefixOf (between s first last)) := by
    rw [startsWith, sliced_eq hstart hstop]
    cases window s.length a b <;> rfl
  refine ⟨_, heq, ?_⟩
  cases hwindow : window s.length a b with
  | none => simp [not_found_of_lt (window_eq_none hwindow)]
  | some bounds =>
    obtain ⟨first, last⟩ := bounds
    obtain ⟨hfirst, hlast, hle, hlength⟩ := window_eq_some hwindow
    rw [hfirst, hlast]
    simp only [Option.any_some, List.isPrefixOf_iff_prefix, Text.prefix_iff, found_iff hle hlength]
    constructor
    · intro hstands
      exact ⟨first, ⟨0, hstands, rfl⟩, rfl⟩
    · rintro ⟨i, ⟨j, hstands, rfl⟩, hi⟩
      obtain rfl : j = 0 := by omega
      exact hstands

/-- What ends the window is found so far before its end. -/
theorem endsWith_iff (s back : Text) : ∃ found, endsWith s back start stop = .ok found ∧
    (found = true ↔ ∃ i, Found back s (windowStart s.length a) (windowEnd s.length b) i ∧
      (i + back.length : Int) = windowEnd s.length b) := by
  have heq : endsWith s back start stop = .ok ((window s.length a b).any fun (first, last) =>
      back.isSuffixOf (between s first last)) := by
    rw [endsWith, sliced_eq hstart hstop]
    cases window s.length a b <;> rfl
  refine ⟨_, heq, ?_⟩
  cases hwindow : window s.length a b with
  | none => simp [not_found_of_lt (window_eq_none hwindow)]
  | some bounds =>
    obtain ⟨first, last⟩ := bounds
    obtain ⟨hfirst, hlast, hle, hlength⟩ := window_eq_some hwindow
    rw [hfirst, hlast]
    simp only [Option.any_some, List.isSuffixOf_iff_suffix, Text.suffix_iff,
      length_between hlength, found_iff hle hlength]
    constructor
    · rintro ⟨j, hstands, hj⟩
      exact ⟨first + j, ⟨j, hstands, rfl⟩, by omega⟩
    · rintro ⟨i, ⟨j, hstands, rfl⟩, hi⟩
      exact ⟨j, hstands, by omega⟩

end Searches

/-! ## Sums within 64 bits -/

/-- The sum of two numbers of a type, absent where it is none of the type. -/
def sumWithin (type : IntegerType) (m n : Int) : Option Int :=
  if type.low ≤ m + n ∧ m + n ≤ type.high then some (m + n) else none

/-- A bound as a position, absent where a sum leaves the type. -/
def resolveBoundWithin (type : IntegerType) (length : Nat) (bound : Int) : Option Int :=
  if bound < 0 then (sumWithin type bound length).map (max · 0) else some bound

/-- The positions of a slice, absent where a sum leaves the type. -/
def windowWithin (type : IntegerType) (length : Nat) (start stop : Option Int) :
    Option (Option (Nat × Nat)) := do
  let first ← resolveBoundWithin type length (start.getD 0)
  let last := min (← resolveBoundWithin type length (stop.getD length)) length
  return if (length : Int) < first ∨ last < first then none else some (first.toNat, last.toNat)

/-- What a search of a window gives, absent where a sum leaves the type. -/
def positionWithin (type : IntegerType) (search : Text → Option Nat) (s : Text)
    (start stop : Option Int) : Option (Except Failure Nat) := do
  let part ← windowWithin type s.length start stop
  match part.bind fun (first, last) => (search (between s first last)).map fun i => (first, i) with
  | some (first, i) => return .ok (← sumWithin type first i).toNat
  | none => return .error (.value "substring not found")

/-- A sum that fits is made without an overflow. -/
theorem sumWithin_eq {type : IntegerType} {m n : Int} (h : type.Holds (m + n)) :
    sumWithin type m n = some (m + n) :=
  if_pos h

open IntegerType (signed64 Holds)

/-- A bound of 64 bits is resolved within 64 bits. -/
theorem resolveBoundWithin_eq {length : Nat} {bound : Int} (hlength : signed64.Holds length)
    (hbound : signed64.Holds bound) :
    resolveBoundWithin signed64 length bound = some (resolveBound length bound) := by
  rw [resolveBoundWithin, resolveBound]
  split
  · next hneg =>
    have hsum : signed64.Holds (bound + length) := by
      obtain ⟨-, hhigh⟩ := hlength
      obtain ⟨hlow, -⟩ := hbound
      exact ⟨by omega, by omega⟩
    rw [sumWithin_eq hsum]
    rfl
  · rfl

/-- The bounds of a window are worked out without an overflow. -/
theorem windowWithin_eq {length : Nat} (hlength : signed64.Holds length)
    (ha : ∀ n ∈ a, signed64.Holds n) (hb : ∀ n ∈ b, signed64.Holds n) :
    windowWithin signed64 length a b = some (window length a b) := by
  have hfirst : signed64.Holds (a.getD 0) := by
    cases a with
    | none => exact signed64_holds_zero
    | some n => exact ha n rfl
  have hlast : signed64.Holds (b.getD length) := by
    cases b with
    | none => exact hlength
    | some n => exact hb n rfl
  rw [windowWithin, resolveBoundWithin_eq hlength hfirst, resolveBoundWithin_eq hlength hlast]
  rfl

/-- A bound that was given is a number of 64 bits. -/
theorem holds_of_optionalNumber {arg : Option Text} (h : optionalNumber arg = .ok a) :
    ∀ n ∈ a, signed64.Holds n := by
  rw [optionalNumber] at h
  cases hgiven : given arg with
  | none =>
    rw [hgiven] at h
    cases h
    simp
  | some t =>
    rw [hgiven] at h
    cases hread : wholeNumber t with
    | error e =>
      simp only [hread] at h
      cases h
    | ok n =>
      simp only [hread] at h
      cases h
      intro m hm
      cases hm
      exact holds_of_wholeNumber hread

/-- The numbers that an argument can give are those of 64 bits, or none. -/
theorem exists_optionalNumber_iff :
    (∃ arg, optionalNumber arg = .ok a) ↔ ∀ n ∈ a, signed64.Holds n := by
  refine ⟨fun ⟨_, h⟩ => holds_of_optionalNumber h, fun ha => ?_⟩
  cases a with
  | none => exact ⟨none, rfl⟩
  | some n =>
    have hread := wholeNumber_ofInt (ha n rfl)
    exact ⟨some (Text.ofInt n), optionalNumber_of_wholeNumber hread⟩

/-- **No sum that a search makes leaves the numbers of 64 bits.** -/
theorem positionWithin_eq {search : Text → Option Nat} (hstart : optionalNumber start = .ok a)
    (hstop : optionalNumber stop = .ok b) (hlength : signed64.Holds s.length)
    (hsearch : ∀ t i, search t = some i → i ≤ t.length) :
    positionWithin signed64 search s a b = some (position search s start stop) := by
  have ha := holds_of_optionalNumber hstart
  have hb := holds_of_optionalNumber hstop
  rw [positionWithin, windowWithin_eq hlength ha hb]
  cases hwindow : window s.length a b with
  | none =>
    rw [position_of_none hstart hstop hwindow]
    rfl
  | some bounds =>
    obtain ⟨first, last⟩ := bounds
    obtain ⟨-, -, hle, hend⟩ := window_eq_some hwindow
    rw [position_of_some hstart hstop hwindow]
    cases hfound : search (between s first last) with
    | none =>
      simp only [Option.bind_eq_bind, Option.bind_some, hfound]
      rfl
    | some i =>
      have hi := hsearch _ _ hfound
      rw [length_between hend] at hi
      have hsum : signed64.Holds (first + i : Nat) := by
        have hlow : signed64.low ≤ 0 := signed64_holds_zero.1
        obtain ⟨-, hhigh⟩ := hlength
        exact ⟨by omega, by omega⟩
      simp only [Option.bind_eq_bind, Option.bind_some, hfound, Option.map_some]
      rw [sumWithin_eq hsum]
      rfl

/-- **Searches in a window count characters.** Every two bounds of 64 bits are given by some
arguments, an absent bound too, and whatever arguments give them, the first and the last position
returned are the least and the greatest one at which the text that is looked for stands, all of it
within the window; a search fails, with a `ValueError`, exactly where there is none. A count is the
greatest number of positions without overlaps, for the empty text one more than the window has
characters, and zero where the window ends before its start, which it does if it starts behind the
end of the text. The window begins or ends with what is found at its start or ends at its end. For a
text whose length is a number of 64 bits no sum made on the way leaves those numbers. -/
theorem searches_in_window (s sub : Text) (ha : ∀ n ∈ a, signed64.Holds n)
    (hb : ∀ n ∈ b, signed64.Holds n) :
    let first := windowStart s.length a
    let last := windowEnd s.length b
    let found := {i | Found sub s first last i}
    (∃ start stop, optionalNumber start = .ok a ∧ optionalNumber stop = .ok b) ∧
    ∀ start stop, optionalNumber start = .ok a → optionalNumber stop = .ok b →
      ((∃ i, IsLeast found i ∧ index s sub start stop = .ok i) ∨
        found = ∅ ∧ index s sub start stop = .error (.value "substring not found")) ∧
      ((∃ i, IsGreatest found i ∧ lastIndex s sub start stop = .ok i) ∨
        found = ∅ ∧ lastIndex s sub start stop = .error (.value "substring not found")) ∧
      (∃ k, count s sub start stop = .ok k ∧
        (sub ≠ [] →
          IsGreatest {k | ∃ places, places.length = k ∧ Spread sub s first last places} k) ∧
        (sub = [] → (k : Int) = if last < first then 0 else last - first + 1)) ∧
      (∃ begins, startsWith s sub start stop = .ok begins ∧
        (begins = true ↔ ∃ i, Found sub s first last i ∧ (i : Int) = first)) ∧
      (∃ ends, endsWith s sub start stop = .ok ends ∧
        (ends = true ↔ ∃ i, Found sub s first last i ∧ (i + sub.length : Int) = last)) ∧
      (signed64.Holds s.length →
        windowWithin signed64 s.length a b = some (window s.length a b) ∧
        positionWithin signed64 (Text.firstIndex? sub) s a b = some (index s sub start stop) ∧
        positionWithin signed64 (Text.lastIndex? sub) s a b =
          some (lastIndex s sub start stop)) := by
  intro first last found
  have hempty : (∀ i, ¬ Found sub s first last i) → found = ∅ := Set.eq_empty_of_forall_notMem
  obtain ⟨start, hstart⟩ := exists_optionalNumber_iff.2 ha
  obtain ⟨stop, hstop⟩ := exists_optionalNumber_iff.2 hb
  refine ⟨⟨start, stop, hstart, hstop⟩, fun start stop hstart hstop => ?_⟩
  refine ⟨?_, ?_, ?_, startsWith_iff hstart hstop s sub, endsWith_iff hstart hstop s sub,
    fun hlength => ⟨windowWithin_eq hlength ha hb, ?_, ?_⟩⟩
  · have hcases := position_cases hstart hstop s sub (Text.firstIndex? sub)
      (fun n _ _ => (StrictMono.map_isLeast (fun _ _ h => Nat.add_lt_add_left h n)).2)
      (fun _ _ => Text.firstIndex?_eq_some) (fun _ => Text.firstIndex?_eq_none)
    exact hcases.imp id (And.imp_left hempty)
  · have hcases := position_cases hstart hstop s sub (Text.lastIndex? sub)
      (fun n _ _ => (StrictMono.map_isGreatest (fun _ _ h => Nat.add_lt_add_left h n)).2)
      (fun _ _ => Text.lastIndex?_eq_some) (fun _ => Text.lastIndex?_eq_none)
    exact hcases.imp id (And.imp_left hempty)
  · by_cases hsub : sub = []
    · subst hsub
      obtain ⟨k, hk, hvalue⟩ := count_empty hstart hstop s
      exact ⟨k, hk, fun hne => absurd rfl hne, fun _ => hvalue⟩
    · obtain ⟨k, hk, hgreatest⟩ := count_isGreatest hstart hstop s hsub
      exact ⟨k, hk, fun _ => hgreatest, fun heq => absurd heq hsub⟩
  · exact positionWithin_eq hstart hstop hlength fun t i h =>
      Text.le_length_of_standsAt (Text.firstIndex?_eq_some h).1
  · exact positionWithin_eq hstart hstop hlength fun t i h =>
      Text.le_length_of_standsAt (Text.lastIndex?_eq_some h).1

/-- The last characters of a text are searched, with a character in front that has two bytes. -/
theorem searches_in_window_behind :
    (∀ n ∈ some (-3), signed64.Holds n) ∧ (∀ n ∈ (none : Option Int), signed64.Holds n) ∧
    ∃ i, IsLeast {i | Found "lo" "héllo héllo" 8 11 i} i ∧
      index "héllo héllo" "lo" (some "-3") none = .ok i := by
  have ha : ∀ n ∈ some (-3), signed64.Holds n := by simp [Holds, signed64]
  have hb : ∀ n ∈ (none : Option Int), signed64.Holds n := by simp
  have hindex : index "héllo héllo" "lo" (some "-3") none = .ok 9 := by decide
  obtain ⟨hfirst, -⟩ :=
    (searches_in_window "héllo héllo" "lo" ha hb).2 (some "-3") none (by decide) rfl
  refine ⟨ha, hb, ?_⟩
  rcases hfirst with hfound | ⟨-, hfails⟩
  · exact hfound
  · rw [hindex] at hfails
    cases hfails

end Strings

end MakeHost
