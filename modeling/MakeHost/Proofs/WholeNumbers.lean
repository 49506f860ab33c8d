import MakeHost.Library.Strings
import MakeHost.Proofs.Lines

/-!
# Whole numbers in decimal

What is read as a number of a type lies within the type (`IntegerType.holds_of_read`), and the
decimal form of every number of the type reads back (`IntegerType.read_ofInt`). So the numbers that
an argument of the string library can give are those of 64 bits (`Strings.holds_of_wholeNumber`,
`Strings.wholeNumber_ofInt`).
-/

namespace MakeHost

namespace IntegerType

variable {type : IntegerType} {n acc : Int} {s : Text} {negative : Bool}

/-- Whether a number is one of the type. -/
def Holds (type : IntegerType) (n : Int) : Prop := type.low ≤ n ∧ n ≤ type.high

/-- Reading digits on does not leave the numbers of the type. -/
theorem holds_of_readDigits (hacc : type.Holds acc) (h : readDigits type negative acc s = .ok n) :
    type.Holds n := by
  induction s generalizing acc with
  | nil =>
    cases h
    exact hacc
  | cons c s ih =>
    rw [readDigits] at h
    cases hdigit : digit? c with
    | none =>
      rw [hdigit] at h
      cases h
    | some d =>
      rw [hdigit] at h
      dsimp only at h
      generalize (if negative then acc * 10 - d else acc * 10 + d) = next at h
      split at h
      · cases h
      · next hhigh =>
        split at h
        · cases h
        · next hlow => exact ih ⟨Int.not_lt.1 hlow, Int.not_lt.1 hhigh⟩ h

/-- What is read lies within the type. -/
theorem holds_of_read (hzero : type.Holds 0) (h : type.read s = .ok n) : type.Holds n := by
  have hsome : ∀ {negative t}, readSomeDigits type negative t = .ok n → type.Holds n := by
    intro negative t ht
    rw [readSomeDigits] at ht
    split at ht
    · cases ht
    · exact holds_of_readDigits hzero ht
  unfold read at h
  split at h
  · cases h
  · exact hsome h
  · split at h
    · exact hsome h
    · exact holds_of_readDigits hzero h

/-! ## Reading what is written -/

/-- A decimal digit is worth what its place behind `0` says. -/
theorem digit?_of_isDigit {c : Char} (h : c.isDigit) : digit? c = some (c.toNat - '0'.toNat) := by
  rw [digit?, if_pos h]

/-- A number grows by the digits behind it. -/
theorem le_ofDigitChars (s : Text) (start : Nat) : start ≤ Nat.ofDigitChars 10 s start := by
  induction s generalizing start with
  | nil => exact Nat.le_refl _
  | cons c s ih =>
    have hnext := ih (10 * start + (c.toNat - '0'.toNat))
    rw [Nat.ofDigitChars_cons]
    omega

/-- Digits are read as the number that they write. -/
theorem readDigits_eq {start : Nat} (hs : ∀ c ∈ s, c.isDigit) (hlow : type.low ≤ 0)
    (hhigh : (Nat.ofDigitChars 10 s start : Int) ≤ type.high) :
    readDigits type false start s = .ok (Nat.ofDigitChars 10 s start : Int) := by
  induction s generalizing start with
  | nil => rfl
  | cons c s ih =>
    have hnext := le_ofDigitChars s (10 * start + (c.toNat - '0'.toNat))
    have hcast : (start : Int) * 10 + (c.toNat - '0'.toNat : Nat) =
        (10 * start + (c.toNat - '0'.toNat) : Nat) := by omega
    rw [Nat.ofDigitChars_cons] at hhigh ⊢
    rw [readDigits, digit?_of_isDigit (hs c List.mem_cons_self)]
    dsimp only
    rw [if_neg Bool.false_ne_true, hcast, if_neg (by omega), if_neg (by omega)]
    exact ih (fun d hd => hs d (List.mem_cons_of_mem _ hd)) hhigh

/-- Digits behind a minus sign are read as the negative of the number that they write. -/
theorem readDigits_neg {start : Nat} (hs : ∀ c ∈ s, c.isDigit) (hhigh : 0 ≤ type.high)
    (hlow : type.low ≤ -(Nat.ofDigitChars 10 s start : Int)) :
    readDigits type true (-start) s = .ok (-(Nat.ofDigitChars 10 s start : Int)) := by
  induction s generalizing start with
  | nil => rfl
  | cons c s ih =>
    have hnext := le_ofDigitChars s (10 * start + (c.toNat - '0'.toNat))
    have hcast : -(start : Int) * 10 - (c.toNat - '0'.toNat : Nat) =
        -(10 * start + (c.toNat - '0'.toNat) : Nat) := by omega
    rw [Nat.ofDigitChars_cons] at hlow ⊢
    rw [readDigits, digit?_of_isDigit (hs c List.mem_cons_self)]
    dsimp only
    rw [if_pos rfl, hcast, if_neg (by omega), if_neg (by omega)]
    exact ih (fun d hd => hs d (List.mem_cons_of_mem _ hd)) hlow

/-- The decimal form of a number has digits alone. -/
theorem isDigit_of_mem_ofNat {k : Nat} {c : Char} (h : c ∈ Text.ofNat k) : c.isDigit :=
  Nat.isDigit_of_mem_toDigits (by decide) (by decide) h

/-- **The decimal form of a number of the type reads back.** -/
theorem read_ofInt (hzero : type.Holds 0) (hn : type.Holds n) :
    type.read (Text.ofInt n) = .ok n := by
  cases n with
  | ofNat k =>
    obtain ⟨c, s, hs⟩ := List.exists_cons_of_ne_nil (Nat.toDigits_ne_nil (n := k) (b := 10))
    have hdigit : c.isDigit := isDigit_of_mem_ofNat (k := k) (by rw [Text.ofNat, hs]; simp)
    have hplus : c ≠ '+' := by rintro rfl; exact absurd hdigit (by decide)
    have hminus : c ≠ '-' := by rintro rfl; exact absurd hdigit (by decide)
    have hvalue : Nat.ofDigitChars 10 (c :: s) 0 = k := by
      rw [← hs, Nat.ofDigitChars_ten_toDigits]
    have hread : readDigits type false 0 (c :: s) = .ok (Nat.ofDigitChars 10 (c :: s) 0 : Int) :=
      readDigits_eq (fun d hd => isDigit_of_mem_ofNat (k := k) (by rwa [Text.ofNat, hs])) hzero.1
        (by rw [hvalue]; exact hn.2)
    rw [hvalue] at hread
    rw [Text.ofInt, Text.ofNat, hs]
    unfold read
    split
    · next heq => cases heq
    · next heq => exact absurd (List.cons.inj heq).1 hplus
    · next heq =>
      obtain ⟨rfl, rfl⟩ := List.cons.inj heq
      rw [if_neg fun h => hminus h.1]
      exact hread
  | negSucc k =>
    have hvalue : Nat.ofDigitChars 10 (Text.ofNat (k + 1)) 0 = k + 1 :=
      Nat.ofDigitChars_ten_toDigits
    have hread : readDigits type true (-(0 : Nat)) (Text.ofNat (k + 1)) =
        .ok (-(Nat.ofDigitChars 10 (Text.ofNat (k + 1)) 0 : Int)) :=
      readDigits_neg (fun d => isDigit_of_mem_ofNat) hzero.2 (by rw [hvalue]; exact hn.1)
    rw [hvalue] at hread
    have hlow : type.low < 0 := Int.lt_of_le_of_lt hn.1 (Int.negSucc_lt_zero k)
    rw [Text.ofInt, read, if_pos ⟨rfl, hlow⟩, readSomeDigits, if_neg (by simp [Text.ofNat])]
    · exact hread
    · simp

end IntegerType

namespace Strings

open IntegerType

variable {n : Int} {arg : Text}

/-- Zero is a number of 64 bits. -/
theorem signed64_holds_zero : signed64.Holds 0 := by
  simp [Holds, signed64]

/-- A number that an argument gives fits 64 bits. -/
theorem holds_of_wholeNumber (h : wholeNumber arg = .ok n) : signed64.Holds n := by
  rw [wholeNumber] at h
  cases hread : signed64.read arg.trim with
  | error e =>
    rw [hread] at h
    cases h
  | ok m =>
    rw [hread] at h
    cases h
    exact holds_of_read signed64_holds_zero hread

/-- No digit is blank. -/
theorem isBlank_of_isDigit {c : Char} (h : c.isDigit) : Text.isBlank c = false := by
  have hrange : 48 ≤ c.toNat ∧ c.toNat ≤ 57 := by
    simpa [Char.isDigit, UInt32.le_iff_toNat_le] using h
  have hranges : ∀ r ∈ Text.blankRanges, r.last < 48 ∨ 57 < r.first := by decide
  refine Bool.eq_false_iff.2 fun hblank => ?_
  obtain ⟨r, hr, hcode⟩ := List.any_eq_true.1 hblank
  simp only [Text.CodeRange.contains, Bool.and_eq_true, decide_eq_true_eq] at hcode
  have := hranges r hr
  omega

/-- What stands in a decimal form is no blank. -/
theorem isBlank_of_mem_ofInt {c : Char} (h : c ∈ Text.ofInt n) : Text.isBlank c = false := by
  cases n with
  | ofNat k => exact isBlank_of_isDigit (isDigit_of_mem_ofNat h)
  | negSucc k =>
    rcases List.mem_cons.1 h with rfl | hc
    · decide
    · exact isBlank_of_isDigit (isDigit_of_mem_ofNat hc)

/-- **The decimal form of a number of 64 bits is an argument that gives it.** -/
theorem wholeNumber_ofInt (hn : signed64.Holds n) : wholeNumber (Text.ofInt n) = .ok n := by
  rw [wholeNumber, Text.trim_of_forall fun c hc => isBlank_of_mem_ofInt hc,
    read_ofInt signed64_holds_zero hn]
  rfl

end Strings

end MakeHost
