import MakeHost.Library.Strings
import MakeHost.Proofs.Cutting

/-!
# Splitting from the right with and without a limit

`Strings.splitLast` looks for the separator from the right when it has a limit and from the left
when it has none, so a limit that leaves room for every cut changes the result where occurrences
overlap. `Strings.splitLast_limited_iff` says when: if and only if there is more than one way to
make as many cuts. The result shows the pieces as words, with a space for every cut; they are known
from it unless the separator both begins and ends with a space (`Text.Cuts.eq_of_unwords_eq`).
-/

namespace MakeHost

namespace Text

variable {sep other s t : Text} {parts others : List Text}

/-! ## Pieces under two separators -/

/-- Joined pieces begin with the first one. -/
theorem prefix_join (sep p : Text) (parts : List Text) : p <+: join sep (p :: parts) := by
  by_cases hparts : parts = []
  · simp [hparts, join_singleton]
  · rw [join_of_ne_nil p hparts, List.append_assoc]
    exact List.prefix_append _ _

/-- Behind the first piece the separator begins. -/
theorem getElem?_join (hsep : sep ≠ []) (p : Text) (hparts : parts ≠ []) :
    (join sep (p :: parts))[p.length]? = sep.head? := by
  obtain ⟨c, sep, rfl⟩ := List.exists_cons_of_ne_nil hsep
  rw [join_of_ne_nil p hparts, List.append_assoc, List.getElem?_append_right (Nat.le_refl _)]
  simp

/-- The first piece ends where the two separators show different characters. -/
theorem Cuts.first_le {p q : Text} (hsep : sep ≠ []) (hother : other ≠ [])
    (hhead : sep.head? ≠ other.head?) (h : Cuts sep s (p :: parts)) (h' : Cuts sep s (q :: others))
    (ht : Cuts other t (p :: parts)) (ht' : Cuts other t (q :: others)) (hparts : parts ≠ []) :
    q.length ≤ p.length := by
  by_contra hlt
  have hin : p.length < q.length := Nat.lt_of_not_le hlt
  have hcut : s[p.length]? = sep.head? := h.join_eq ▸ getElem?_join hsep p hparts
  have hcut' : t[p.length]? = other.head? := ht.join_eq ▸ getElem?_join hother p hparts
  obtain ⟨behind, rfl⟩ : q <+: s := h'.join_eq ▸ prefix_join sep q others
  obtain ⟨behind', rfl⟩ : q <+: t := ht'.join_eq ▸ prefix_join other q others
  rw [List.getElem?_append_left hin] at hcut hcut'
  exact hhead (hcut.symm.trans hcut')

/-- Pieces are known from what they are joined to by two separators that begin differently. -/
theorem Cuts.eq_of_head?_ne (hsep : sep ≠ []) (hother : other ≠ [])
    (hhead : sep.head? ≠ other.head?) (h : Cuts sep s parts) (h' : Cuts sep s others)
    (ht : Cuts other t parts) (ht' : Cuts other t others) (hlength : parts.length = others.length) :
    parts = others := by
  induction parts generalizing s t others with
  | nil => exact absurd rfl h.ne_nil
  | cons p parts ih =>
    obtain ⟨q, others, rfl⟩ := List.exists_cons_of_ne_nil h'.ne_nil
    rw [List.length_cons, List.length_cons, Nat.add_right_cancel_iff] at hlength
    have hfirst : parts ≠ [] → p.length = q.length := fun hparts => by
      have hothers : others ≠ [] := by
        rw [← List.length_pos_iff, ← hlength]
        exact List.length_pos_of_ne_nil hparts
      exact Nat.le_antisymm (Cuts.first_le hsep hother hhead h' h ht' ht hothers)
        (Cuts.first_le hsep hother hhead h h' ht ht' hparts)
    obtain ⟨rfl, hbehind⟩ := h.cons_inj h' hlength hfirst
    obtain ⟨-, hbehind'⟩ := ht.cons_inj ht' hlength hfirst
    cases others with
    | nil => rw [List.length_eq_zero_iff.1 hlength]
    | cons q others =>
      have hparts : parts ≠ [] := by rintro rfl; cases hlength
      have hothers := List.cons_ne_nil q others
      rw [ih ⟨hparts, rfl⟩ ⟨hothers, hbehind.symm⟩ ⟨hparts, rfl⟩ ⟨hothers, hbehind'.symm⟩ hlength]

/-- Pieces are known from their words unless the separator both begins and ends with a space. -/
theorem Cuts.eq_of_unwords_eq (hsep : sep ≠ []) (hends : sep.head? ≠ ' ' ∨ sep.getLast? ≠ ' ')
    (h : Cuts sep s parts) (h' : Cuts sep s others) (hlength : parts.length = others.length)
    (hwords : unwords parts = unwords others) : parts = others := by
  have hspace : ([' '] : Text) ≠ [] := List.cons_ne_nil _ _
  have ht : Cuts [' '] (unwords others) parts := ⟨h.ne_nil, hwords⟩
  have ht' : Cuts [' '] (unwords others) others := ⟨h'.ne_nil, rfl⟩
  rcases hends with hfront | hback
  · exact h.eq_of_head?_ne hsep hspace hfront h' ht ht' hlength
  · have hreverse : sep.reverse ≠ [] := by simpa using hsep
    have hfront : sep.reverse.head? ≠ [' '].reverse.head? := by simpa using hback
    have hmirrored := h.mirrored.eq_of_head?_ne hreverse hspace hfront h'.mirrored ht.mirrored
      ht'.mirrored (by simpa using hlength)
    rw [← mirrored_mirrored parts, hmirrored, mirrored_mirrored]

end Text

namespace Strings

variable {s sep limit : Text} {n : Int}

/-! ## With and without a limit -/

/-- A separator that is not empty is given. -/
theorem given_of_ne_nil (h : s ≠ []) : given (some s) = some s := by
  simpa [given] using h

/-- A limit that is a number is not empty. -/
theorem ne_nil_of_wholeNumber (h : wholeNumber limit = .ok n) : limit ≠ [] := by
  rintro rfl
  cases h

/-- A limit that is a number is the number that is given. -/
theorem optionalNumber_of_wholeNumber (h : wholeNumber limit = .ok n) :
    optionalNumber (some limit) = .ok (some n) := by
  simp only [optionalNumber, given_of_ne_nil (ne_nil_of_wholeNumber h), h]
  rfl

/-- A negative limit is none. -/
theorem splitLimit_of_wholeNumber (h : wholeNumber limit = .ok n) :
    splitLimit (some limit) = .ok (if n < 0 then none else some n.toNat) := by
  rw [splitLimit, optionalNumber_of_wholeNumber h]
  rfl

/-- A split from the right with a limit cuts from the right, and without one from the left. -/
theorem splitLast_of_splitLimit {count : Option Text} {l : Option Nat} (s : Text)
    (hsep : sep ≠ []) (h : splitLimit count = .ok l) : splitLast s (some sep) count =
      .ok (Text.unwords (l.elim (Text.splitAll sep s) (Text.splitLastUpTo sep · s))) := by
  rw [splitLast, h]
  cases l <;> simp only [splitLastPieces, given_of_ne_nil hsep] <;> rfl

/-- Without a limit the separator is looked for from the left. -/
theorem splitLast_unlimited (s : Text) (hsep : sep ≠ []) :
    splitLast s (some sep) none = .ok (Text.unwords (Text.splitAll sep s)) := by
  have hnone : splitLimit none = .ok none := rfl
  exact splitLast_of_splitLimit s hsep hnone

/-- A negative number is no limit. -/
theorem splitLast_negative (s : Text) (hsep : sep ≠ []) (h : wholeNumber limit = .ok n)
    (hn : n < 0) : splitLast s (some sep) (some limit) = splitLast s (some sep) none := by
  have hnone := splitLimit_of_wholeNumber h
  rw [if_pos hn] at hnone
  rw [splitLast_of_splitLimit s hsep hnone, splitLast_unlimited s hsep]
  rfl

/-- With a limit the separator is looked for from the right. -/
theorem splitLast_limited (s : Text) (hsep : sep ≠ []) (h : wholeNumber limit = .ok n)
    (hn : 0 ≤ n) : splitLast s (some sep) (some limit) =
      .ok (Text.unwords (Text.splitLastUpTo sep n.toNat s)) := by
  have hsome := splitLimit_of_wholeNumber h
  rw [if_neg (Int.not_lt.2 hn)] at hsome
  exact splitLast_of_splitLimit s hsep hsome

/-- **A limit with room for every cut is no limit if and only if there is only one way to cut.** A
negative limit is none, and a limit that the number of occurrences does not exceed leaves the pieces
as they are without one exactly where there is one way to cut the text at as many occurrences as can
be, in particular where no two of them overlap. The same holds for the word list that is returned,
exactly so if the separator does not both begin and end with a space. -/
theorem splitLast_limited_iff (s : Text) (hsep : sep ≠ []) (hlimit : wholeNumber limit = .ok n) :
    let pieces := splitLastPieces s (some sep)
    let limited := splitLast s (some sep) (some limit)
    let unlimited := splitLast s (some sep) none
    unlimited = .ok (Text.unwords (Text.splitAll sep s)) ∧
      (n < 0 → limited = unlimited) ∧
      (Text.occurrences sep s ≤ n →
        (pieces (some n.toNat) = pieces none ↔ Text.CutOneWay sep s) ∧
        (Text.CutOneWay sep s → limited = unlimited) ∧
        (Text.Apart sep s → limited = unlimited) ∧
        (sep.head? ≠ ' ' ∨ sep.getLast? ≠ ' ' → limited = unlimited → Text.CutOneWay sep s)) := by
  intro pieces limited unlimited
  refine ⟨splitLast_unlimited s hsep, splitLast_negative s hsep hlimit, fun hcount => ?_⟩
  have hroom : Text.occurrences sep s ≤ n.toNat := by omega
  have hiff := Text.splitLastUpTo_eq_splitAll_iff hsep hroom
  have hlimited : limited = .ok (Text.unwords (Text.splitLastUpTo sep n.toNat s)) :=
    splitLast_limited s hsep hlimit (by omega)
  have hunlimited : unlimited = .ok (Text.unwords (Text.splitAll sep s)) :=
    splitLast_unlimited s hsep
  have hsame : Text.CutOneWay sep s → limited = unlimited := fun hone => by
    rw [hlimited, hunlimited, hiff.2 hone]
  refine ⟨?_, hsame, fun hapart => hsame hapart.cutOneWay, fun hends heq => ?_⟩
  · simp only [pieces, splitLastPieces, given_of_ne_nil hsep]
    exact hiff
  · rw [hlimited, hunlimited] at heq
    have hright := Text.mostCuts_splitLastUpTo hsep hroom
    have hleft := Text.mostCuts_splitAll hsep s
    exact hiff.1 (hright.toCuts.eq_of_unwords_eq hsep hends hleft.toCuts (hright.length_eq hleft)
      (Except.ok.inj heq))

/-- No two commas overlap, so a limit that leaves room for both cuts changes nothing. -/
theorem splitLast_limited_iff_comma : ([','] : Text) ≠ [] ∧ wholeNumber "2" = .ok 2 ∧
    splitLast "a,b,c" (some ",") (some "2") = splitLast "a,b,c" (some ",") none := by
  have hsep : ([','] : Text) ≠ [] := by decide
  have hlimit : wholeNumber "2" = .ok 2 := by decide
  have hcount : (Text.occurrences [','] "a,b,c" : Int) ≤ 2 := by decide
  have hapart := Text.apart_of_not_selfOverlapping (Text.not_selfOverlapping_singleton ',') "a,b,c"
  exact ⟨hsep, hlimit, ((splitLast_limited_iff "a,b,c" hsep hlimit).2.2 hcount).2.2.1 hapart⟩

/-- Where occurrences overlap, a limit decides which of them is cut at. -/
theorem splitLast_limited_ne : Text.occurrences "aa" "aaa" = 1 ∧
    splitLast "aaa" (some "aa") (some "1") = .ok "a " ∧
    splitLast "aaa" (some "aa") none = .ok " a" := by decide

end Strings

end MakeHost
