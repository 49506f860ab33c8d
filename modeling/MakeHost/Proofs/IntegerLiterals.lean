import MakeHost.Wrapper.Literal
import Mathlib.Data.Nat.Digits.Defs

/-!
# What whole numbers in code say

`Writes` says which number a literal is: a mark may tell its base, digits of the base follow, with
underscores anywhere between them, and a suffix ends it. `ofText_eq_int_iff` says that a literal is
read as a whole number exactly if it writes one, and as the number that it writes.
-/

namespace MakeHost.Wrapper.Literal

variable {base acc d n : Nat} {c : Char} {s row suffix : Text} {ds : List Nat} {found : Bool}

/-! ## Literals -/

/-- A character is the digit of a base with a value, written small or big. -/
def IsDigit (base : Nat) (c : Char) (d : Nat) : Prop :=
  d < base ∧ (c = d.digitChar ∨ c = d.digitChar.toUpper)

/-- A text writes digits of a base; underscores do not count. -/
inductive Digits (base : Nat) : Text → List Nat → Prop
  | nil : Digits base [] []
  | underscore {s : Text} {ds : List Nat} : Digits base s ds → Digits base ('_' :: s) ds
  | digit {c : Char} {d : Nat} {s : Text} {ds : List Nat} (hc : IsDigit base c d) :
      Digits base s ds → Digits base (c :: s) (d :: ds)

/-- A text can stand behind all digits of a literal: it does not begin with an underscore, nor with
a digit of the base or a decimal one, and behind decimal digits it neither is a fraction nor has an
exponent in front. -/
structure IsSuffix (base : Nat) (s : Text) : Prop where
  opens : ∀ c ∈ s.head?, c ≠ '_' ∧ ∀ d, ¬ IsDigit (max base 10) c d
  whole : base = 10 → s.head? ≠ some '.' ∧ isExponent s = false

/-- A text writes a number in a base, with one digit at least. -/
def WritesIn (base : Nat) (s : Text) (n : Nat) : Prop :=
  ∃ row suffix ds, s = row ++ suffix ∧ Digits base row ds ∧ ds ≠ [] ∧ IsSuffix base suffix ∧
    n = Nat.ofDigits base ds.reverse

/-- The marks of bases other than ten. -/
def marks : List (Text × Nat) := [("0x", 16), ("0o", 8), ("0b", 2)]

/-- A literal writes a whole number: in the base that its mark says, or in base ten. -/
inductive Writes : Text → Nat → Prop
  | marked {mark : Text} {base : Nat} {s : Text} {n : Nat} (hmark : (mark, base) ∈ marks) :
      WritesIn base s n → Writes (mark ++ s) n
  | decimal {s : Text} {n : Nat} (hdigit : ∃ c ∈ s.head?, c.isDigit = true)
      (hmarks : ∀ mark ∈ marks, ¬ mark.1 <+: s) : WritesIn 10 s n → Writes s n

/-! ## Digits -/

/-- Hexadecimal digits are ASCII. -/
theorem toNat_lt_of_isHexDigit (h : isHexDigit c = true) : c.toNat < 103 := by
  have hle : ∀ {a b : Char}, a ≤ b → a.toNat ≤ b.toNat := fun h => h
  simp only [isHexDigit, Bool.or_eq_true, Bool.and_eq_true, decide_eq_true_eq] at h
  rcases h with h | ⟨-, h⟩
  · simp only [Char.isDigit, Bool.and_eq_true, decide_eq_true_eq] at h
    exact Nat.lt_of_le_of_lt (hle h.2 : c.toNat ≤ '9'.toNat) (by decide)
  · unfold Char.toLower at h
    split at h
    · next hbig => exact Nat.lt_of_le_of_lt (hle hbig.2 : c.toNat ≤ 'Z'.toNat) (by decide)
    · exact Nat.lt_of_le_of_lt (hle h : c.toNat ≤ 'f'.toNat) (by decide)

/-- A hexadecimal digit is one of base 16. -/
theorem isDigit_of_isHexDigit (h : isHexDigit c = true) : IsDigit 16 c (hexDigit c) := by
  have hall : ∀ n < 103, isHexDigit (Char.ofNat n) = true → hexDigit (Char.ofNat n) < 16 ∧
      (Char.ofNat n = (hexDigit (Char.ofNat n)).digitChar ∨
        Char.ofNat n = (hexDigit (Char.ofNat n)).digitChar.toUpper) := by
    decide +kernel
  have hc := hall c.toNat (toNat_lt_of_isHexDigit h)
  rw [Char.ofNat_toNat] at hc
  exact hc h

/-- A digit of base 16 is a hexadecimal digit and no underscore, and a decimal one below ten. -/
theorem of_isDigit (h : IsDigit 16 c d) :
    isHexDigit c = true ∧ hexDigit c = d ∧ c ≠ '_' ∧ (c.isDigit = true ↔ d < 10) := by
  have hall : ∀ d < 16, ∀ c ∈ [d.digitChar, d.digitChar.toUpper],
      isHexDigit c = true ∧ hexDigit c = d ∧ c ≠ '_' ∧ (c.isDigit = true ↔ d < 10) := by
    decide
  refine hall d h.1 c ?_
  rcases h.2 with rfl | rfl <;> simp

/-- A digit is one of every larger base. -/
theorem IsDigit.mono {base' : Nat} (h : IsDigit base c d) (hle : base ≤ base') :
    IsDigit base' c d :=
  ⟨Nat.lt_of_lt_of_le h.1 hle, h.2⟩

/-- What is read as a digit is one of the base or a decimal one. -/
theorem isDigit_iff (hbase : base ≤ 10 ∨ base = 16) : IsDigit (max base 10) c d ↔
    (c.isDigit = true ∨ (10 < base ∧ isHexDigit c = true)) ∧ hexDigit c = d := by
  have hle : max base 10 ≤ 16 := by omega
  constructor
  · intro h
    obtain ⟨hhex, hvalue, -, hdecimal⟩ := of_isDigit (h.mono hle)
    refine ⟨?_, hvalue⟩
    rcases hbase with hbase | rfl
    · exact .inl (hdecimal.2 (by have := h.1; omega))
    · exact .inr ⟨by decide, hhex⟩
  · rintro ⟨hc, rfl⟩
    have hhex : isHexDigit c = true := by
      rcases hc with hc | hc
      · rw [isHexDigit, hc, Bool.true_or]
      · exact hc.2
    have h := isDigit_of_isHexDigit hhex
    refine ⟨?_, h.2⟩
    rcases hc with hc | hc
    · have := (of_isDigit h).2.2.2.1 hc
      omega
    · have := h.1
      omega

/-! ## Reading -/

/-- A digit behind others makes their number that many times larger, and adds itself. -/
theorem ofDigits_reverse_cons : Nat.ofDigits base ((d :: ds).reverse ++ [acc]) =
    Nat.ofDigits base (ds.reverse ++ [acc * base + d]) := by
  simp only [List.reverse_cons, Nat.ofDigits_append, Nat.ofDigits_singleton, List.length_append,
    List.length_singleton]
  ring

/-- Behind the digits reading stops. -/
theorem integerFrom_suffix (hbase : base ≤ 10 ∨ base = 16) (h : IsSuffix base suffix) :
    integerFrom base acc found suffix = if found then some acc else none := by
  cases suffix with
  | nil => rw [integerFrom]
  | cons c s =>
    obtain ⟨hc, hdigit⟩ := h.opens c rfl
    have hno : ¬ (c.isDigit = true ∨ (10 < base ∧ isHexDigit c = true)) := fun h =>
      hdigit _ ((isDigit_iff hbase).2 ⟨h, rfl⟩)
    have hwhole : ¬ (base = 10 ∧ (c = '.' ∨ isExponent (c :: s) = true)) := by
      rintro ⟨hten, rfl | hexponent⟩
      · exact (h.whole hten).1 rfl
      · rw [(h.whole hten).2] at hexponent
        cases hexponent
    rw [integerFrom, if_neg hc, if_neg hno, if_neg hwhole]

/-- Digits are read as what they write behind those read before. -/
theorem integerFrom_append (hbase : base ≤ 10 ∨ base = 16) (hrow : Digits base row ds)
    (hsuffix : IsSuffix base suffix) : integerFrom base acc found (row ++ suffix) =
      if found = true ∨ ds ≠ [] then some (Nat.ofDigits base (ds.reverse ++ [acc])) else none := by
  induction hrow generalizing acc found with
  | nil => simpa using integerFrom_suffix hbase hsuffix
  | underscore _ ih =>
    rw [List.cons_append, integerFrom, if_pos rfl, ih]
  | @digit c d s ds hc _ ih =>
    have hle : base ≤ 16 := by omega
    obtain ⟨hread, hvalue⟩ := (isDigit_iff hbase).1 (hc.mono (Nat.le_max_left base 10))
    have hplain := (of_isDigit (hc.mono hle)).2.2.1
    rw [List.cons_append, integerFrom, if_neg hplain, if_pos hread, if_pos (hvalue ▸ hc.1), hvalue,
      ih, if_pos (.inl rfl), if_pos (.inr (List.cons_ne_nil _ _)), ofDigits_reverse_cons]

/-- What is read is what digits write that a suffix is behind. -/
theorem exists_of_integerFrom (hbase : base ≤ 10 ∨ base = 16)
    (h : integerFrom base acc found s = some n) : ∃ row suffix ds, s = row ++ suffix ∧
      Digits base row ds ∧ IsSuffix base suffix := by
  induction s generalizing acc found with
  | nil => exact ⟨[], [], [], rfl, .nil, by simp, fun _ => ⟨by simp, rfl⟩⟩
  | cons c s ih =>
    rw [integerFrom] at h
    split at h
    · next hc =>
      obtain ⟨row, suffix, ds, rfl, hrow, hsuffix⟩ := ih h
      exact ⟨c :: row, suffix, ds, rfl, hc ▸ hrow.underscore, hsuffix⟩
    · next hc =>
      split at h
      · next hdigit =>
        split at h
        · next hlt =>
          have hvalue := (isDigit_iff hbase).2 ⟨hdigit, rfl⟩
          obtain ⟨row, suffix, ds, rfl, hrow, hsuffix⟩ := ih h
          exact ⟨c :: row, suffix, _ :: ds, rfl, hrow.digit ⟨hlt, hvalue.2⟩, hsuffix⟩
        · cases h
      · next hdigit =>
        split at h
        · cases h
        · next hwhole =>
          refine ⟨[], c :: s, [], rfl, .nil, ?_, ?_⟩
          · rintro _ ⟨⟩
            exact ⟨hc, fun d hd => hdigit ((isDigit_iff hbase).1 hd).1⟩
          · intro hten
            refine ⟨fun hpoint => hwhole ⟨hten, .inl (Option.some.inj hpoint)⟩, ?_⟩
            exact Bool.eq_false_iff.2 fun hexponent => hwhole ⟨hten, .inr hexponent⟩

/-- Digits are read as a number exactly if they write it in their base. -/
theorem integerFrom_eq_some_iff (hbase : base ≤ 10 ∨ base = 16) :
    integerFrom base 0 false s = some n ↔ WritesIn base s n := by
  have hvalue : ∀ ds : List Nat, Nat.ofDigits base (ds.reverse ++ [0]) =
      Nat.ofDigits base ds.reverse := by
    intro ds
    simp [Nat.ofDigits_append]
  constructor
  · intro h
    obtain ⟨row, suffix, ds, rfl, hrow, hsuffix⟩ := exists_of_integerFrom hbase h
    rw [integerFrom_append hbase hrow hsuffix] at h
    split at h
    · next hfound =>
      refine ⟨row, suffix, ds, rfl, hrow, hfound.resolve_left Bool.false_ne_true, hsuffix, ?_⟩
      rw [← hvalue]
      exact (Option.some.inj h).symm
    · cases h
  · rintro ⟨row, suffix, ds, rfl, hrow, hne, hsuffix, rfl⟩
    rw [integerFrom_append hbase hrow hsuffix, if_pos (.inr hne), hvalue]

/-- Behind a mark the digits of its base are read. -/
theorem integer?_marked {mark : Text} (hmark : (mark, base) ∈ marks) :
    integer? (mark ++ s) = integerFrom base 0 false s := by
  simp only [marks, List.mem_cons, Prod.mk.injEq, List.not_mem_nil, or_false] at hmark
  rcases hmark with ⟨rfl, rfl⟩ | ⟨rfl, rfl⟩ | ⟨rfl, rfl⟩ <;> rfl

/-- Without a mark decimal digits are read. -/
theorem integer?_decimal (hmarks : ∀ mark ∈ marks, ¬ mark.1 <+: s) :
    integer? s = integerFrom 10 0 false s := by
  have hno : ∀ {mark base}, (mark, base) ∈ marks → ∀ rest, s ≠ mark ++ rest :=
    fun hmem rest heq => hmarks _ hmem ⟨rest, heq.symm⟩
  unfold integer?
  split
  · next rest => exact absurd rfl (hno (.head _) rest)
  · next rest => exact absurd rfl (hno (.tail _ (.head _)) rest)
  · next rest => exact absurd rfl (hno (.tail _ (.tail _ (.head _))) rest)
  · rfl

/-- A literal is read as a whole number exactly if it writes that number. -/
theorem integer?_eq_some_iff :
    ((∃ c ∈ s.head?, c.isDigit = true) ∧ integer? s = some n) ↔ Writes s n := by
  have hbases : ∀ {mark base}, (mark, base) ∈ marks → base ≤ 10 ∨ base = 16 := by
    intro mark base hmem
    have hall : ∀ mark ∈ marks, mark.2 ≤ 10 ∨ mark.2 = 16 := by decide
    exact hall _ hmem
  have hdigits : ∀ mark ∈ marks, mark.1.head? = some '0' := by decide
  constructor
  · rintro ⟨hdigit, h⟩
    by_cases hmarked : ∃ mark ∈ marks, mark.1 <+: s
    · obtain ⟨⟨mark, base⟩, hmem, rest, rfl⟩ := hmarked
      rw [integer?_marked hmem, integerFrom_eq_some_iff (hbases hmem)] at h
      exact .marked hmem h
    · push Not at hmarked
      rw [integer?_decimal hmarked, integerFrom_eq_some_iff (.inl (Nat.le_refl _))] at h
      exact .decimal hdigit hmarked h
  · intro h
    cases h with
    | marked hmem h =>
      rw [integer?_marked hmem, integerFrom_eq_some_iff (hbases hmem)]
      refine ⟨⟨'0', ?_, rfl⟩, h⟩
      rw [List.head?_append, hdigits _ hmem]
      rfl
    | decimal hdigit hmarks h =>
      rw [integer?_decimal hmarks, integerFrom_eq_some_iff (.inl (Nat.le_refl _))]
      exact ⟨hdigit, h⟩

/-- **A literal is read as a whole number exactly if it writes one, and as that.** -/
theorem ofText_eq_int_iff {m : Int} : ofText s = .int m ↔ ∃ n : Nat, m = n ∧ Writes s n := by
  simp only [← integer?_eq_some_iff]
  constructor
  · intro h
    unfold ofText at h
    split at h
    · cases h
    · cases h
    · next c s _ _ =>
      split at h
      · next hdigit =>
        split at h
        · next n hn =>
          cases h
          exact ⟨n, rfl, ⟨c, rfl, hdigit⟩, hn⟩
        · cases h
      · cases h
    · cases h
  · rintro ⟨n, rfl, ⟨c, hc, hdigit⟩, hn⟩
    cases s with
    | nil => cases hc
    | cons c s =>
      cases hc
      unfold ofText
      split
      · next heq => cases heq; cases hdigit
      · next heq => cases heq; cases hdigit
      · next heq =>
        cases heq
        rw [if_pos hdigit, hn]
      · next heq => cases heq

example : ofText "0xFF_ffu32" = .int 65535 := by decide

/-- A literal writes one number at most. -/
theorem Writes.unique {m : Nat} (hn : Writes s n) (hm : Writes s m) : n = m := by
  have hint : Literal.int n = .int m :=
    (ofText_eq_int_iff.2 ⟨n, rfl, hn⟩).symm.trans (ofText_eq_int_iff.2 ⟨m, rfl, hm⟩)
  exact Int.ofNat.inj (Literal.int.inj hint)

end MakeHost.Wrapper.Literal
