import MakeHost.Text.Basic

/-!
# Binary floating-point numbers

The interchange formats of 32 and 64 bits, taken apart into a sign, a whole number and a power
of two. A finite number's neighbours bound the interval of reals that round to it.
-/

namespace MakeHost

/-- An interchange format: the widths of its fraction and exponent fields. -/
structure BinaryFormat where
  fractionBits : Nat
  exponentBits : Nat

namespace BinaryFormat

/-- The format of 32 bits. -/
def single : BinaryFormat := ⟨23, 8⟩

/-- The format of 64 bits. -/
def double : BinaryFormat := ⟨52, 11⟩

/-- The exponent of the last place of the smallest numbers. -/
def leastExponent (f : BinaryFormat) : Int := 2 - Nat.pow 2 (f.exponentBits - 1) - f.fractionBits

end BinaryFormat

/-- A floating-point datum. A finite one is `mantissa * 2 ^ exponent` with a sign; `halfGapBelow`
says that its lower neighbour is half as far away as its upper one. -/
inductive BinaryNumber
  | finite (negative : Bool) (mantissa : Nat) (exponent : Int) (halfGapBelow : Bool)
  | infinite (negative : Bool)
  | nan (negative : Bool)
deriving DecidableEq

namespace BinaryNumber

/-- Takes the bits of a datum apart. -/
def ofBits (f : BinaryFormat) (bits : Nat) : BinaryNumber :=
  let one := Nat.pow 2 f.fractionBits
  let biases := Nat.pow 2 f.exponentBits
  let fraction := bits % one
  let biased := bits / one % biases
  let negative := bits / (one * biases) % 2 == 1
  if biased = biases - 1 then
    if fraction = 0 then .infinite negative else .nan negative
  else if biased = 0 then .finite negative fraction f.leastExponent false
  else .finite negative (one + fraction) (f.leastExponent + (biased - 1))
    (fraction == 0 && biased > 1)

end BinaryNumber

/-- A fraction of natural numbers, the second one not zero. -/
structure Ratio where
  num : Nat
  den : Nat

namespace Ratio

/-- `n` times a power of `base`. -/
def scaled (n base : Nat) : Int → Ratio
  | .ofNat e => ⟨n * Nat.pow base e, 1⟩
  | .negSucc e => ⟨n, Nat.pow base (e + 1)⟩

/-- The ratio divided by a power of ten. -/
def overTen (r : Ratio) : Int → Ratio
  | .ofNat e => ⟨r.num, r.den * Nat.pow 10 e⟩
  | .negSucc e => ⟨r.num * Nat.pow 10 (e + 1), r.den⟩

/-- The whole part. -/
def floor (r : Ratio) : Nat := r.num / r.den

/-- The nearest whole number, a tie going to the even one. -/
def roundEven (r : Ratio) : Nat :=
  let q := r.num / r.den
  let rest := 2 * (r.num % r.den)
  if rest < r.den then q else if r.den < rest then q + 1 else if q % 2 = 0 then q else q + 1

/-- Whether the first ratio is at most the second. -/
def le (r s : Ratio) : Bool := r.num * s.den ≤ s.num * r.den

/-- Whether the first ratio is less than the second. -/
def lt (r s : Ratio) : Bool := r.num * s.den < s.num * r.den

/-- The number of decimal places before the point, or minus the number of zeros behind it: the
`e` with `10 ^ (e - 1) ≤ r < 10 ^ e`, for ratios of at least `10 ^ (-400)`. -/
def decimalExponent (r : Ratio) : Int :=
  ((Nat.toDigits 10 (r.num * Nat.pow 10 400 / r.den)).length : Int) - 400

end Ratio

/-- A natural number times a power of ten. -/
structure Decimal where
  digits : Nat
  exponent : Int

namespace Decimal

/-- Drops trailing zeros of the digits, at most `fuel` of them. -/
def trimmed : Nat → Decimal → Decimal
  | 0, d => d
  | fuel + 1, d =>
    if d.digits ≠ 0 ∧ d.digits % 10 = 0 then trimmed fuel ⟨d.digits / 10, d.exponent + 1⟩ else d

/-- The digits written around a decimal point, without an exponent; a whole number has no point. -/
def positional (d : Decimal) : Text :=
  let digits := Text.ofNat d.digits
  match d.exponent with
  | .ofNat e => digits ++ Text.repeated e '0'
  | .negSucc e =>
    let places := e + 1
    if places < digits.length then
      digits.take (digits.length - places) ++ "." ++ digits.drop (digits.length - places)
    else "0." ++ Text.repeated (places - digits.length) '0' ++ digits

end Decimal

end MakeHost
