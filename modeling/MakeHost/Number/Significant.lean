import MakeHost.Number.Shortest

/-!
# A fixed number of significant digits

Numbers rounded to so many significant digits, with trailing zeros dropped, and written with an
exponent when it is below -4 or not below the number of digits.
-/

namespace MakeHost

/-- The `count` most significant digits of a positive ratio, rounded with ties to even, and the
decimal exponent of the first of them. -/
def Ratio.significant (r : Ratio) (count : Nat) : Nat × Int :=
  let e := r.decimalExponent
  let rounded := (r.overTen (e - count)).roundEven
  if rounded = Nat.pow 10 count then (Nat.pow 10 (count - 1), e) else (rounded, e - 1)

/-- An exponent with its sign and at least two digits. -/
def exponentText (e : Int) : Text :=
  let digits := Text.ofNat e.natAbs
  (if e < 0 then "e-" else "e+") ++ (if digits.length < 2 then '0' :: digits else digits)

/-- A positive ratio with at most `count` significant digits. -/
def Ratio.significantText (r : Ratio) (count : Nat) : Text :=
  let (digits, e) := r.significant count
  let short := Decimal.trimmed count ⟨digits, e - (count - 1)⟩
  if e < -4 ∨ (count : Int) ≤ e then
    match Text.ofNat short.digits with
    | [] => []
    | [d] => d :: exponentText e
    | d :: rest => d :: '.' :: rest ++ exponentText e
  else short.positional

/-- A number in the interpreter's own form: fourteen significant digits, and `.0` behind a text
that would read as a whole number. -/
def BinaryNumber.scriptText : BinaryNumber → Text
  | .nan negative => minusSign negative ++ "nan"
  | .infinite negative => minusSign negative ++ "inf"
  | .finite negative 0 _ _ => minusSign negative ++ "0.0"
  | .finite negative mantissa exponent _ =>
    let body := (Ratio.scaled mantissa 2 exponent).significantText 14
    minusSign negative ++ body ++ if body.all Char.isDigit then ".0" else ""

end MakeHost
