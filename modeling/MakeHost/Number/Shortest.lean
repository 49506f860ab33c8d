import MakeHost.Number.Binary

/-!
# The fewest digits that read back

A number is written with as few decimal digits as tell it from its neighbours, and among those
with the nearest. Candidates of `n` digits are the value's two neighbours on the grid of that
many digits; the first grid that has one inside the interval of reals that round to the number
wins.
-/

namespace MakeHost

/-- The reals that round to a number: between the middles to its neighbours. The middles
themselves belong to it when the mantissa is even. -/
structure RoundingInterval where
  value : Ratio
  low : Ratio
  high : Ratio
  closed : Bool

namespace RoundingInterval

/-- The interval of `mantissa * 2 ^ exponent`. -/
def around (mantissa : Nat) (exponent : Int) (halfGapBelow : Bool) : RoundingInterval where
  value := .scaled mantissa 2 exponent
  low := .scaled (4 * mantissa - if halfGapBelow then 1 else 2) 2 (exponent - 2)
  high := .scaled (4 * mantissa + 2) 2 (exponent - 2)
  closed := mantissa % 2 == 0

/-- Whether a real lies in the interval. -/
def contains (i : RoundingInterval) (r : Ratio) : Bool :=
  if i.closed then i.low.le r && r.le i.high else i.low.lt r && r.lt i.high

/-- The candidate on the grid of multiples of `10 ^ place`: the nearer of the value's two
neighbours that lie in the interval, the upper one on a tie. -/
def candidate? (i : RoundingInterval) (place : Int) : Option Decimal :=
  let below := (i.value.overTen place).floor
  let lower := i.contains (.scaled below 10 place)
  let upper := i.contains (.scaled (below + 1) 10 place)
  let half := (Ratio.mk (2 * below + 1) 2).le (i.value.overTen place)
  if upper && (half || !lower) then some ⟨below + 1, place⟩
  else if lower then some ⟨below, place⟩
  else none

/-- Tries `count` grids, each ten times finer than the one before. -/
def firstCandidate (i : RoundingInterval) : Nat → Int → Decimal
  | 0, place => ⟨i.value.floor, place⟩
  | count + 1, place =>
    match i.candidate? place with
    | some d => d.trimmed 20
    | none => firstCandidate i count (place - 1)

end RoundingInterval

/-- The shortest decimal that reads back as `mantissa * 2 ^ exponent`. -/
def shortestDecimal (mantissa : Nat) (exponent : Int) (halfGapBelow : Bool) : Decimal :=
  let interval := RoundingInterval.around mantissa exponent halfGapBelow
  interval.firstCandidate 20 (interval.value.decimalExponent - 1)

/-- The sign in front of a negative number. -/
def minusSign (negative : Bool) : Text := if negative then "-" else ""

/-- A number with its shortest digits, always positional: a whole number has no point, and the
sign of a zero shows. -/
def BinaryNumber.plainText : BinaryNumber → Text
  | .nan _ => "NaN"
  | .infinite negative => minusSign negative ++ "inf"
  | .finite negative 0 _ _ => minusSign negative ++ "0"
  | .finite negative mantissa exponent halfGapBelow =>
    minusSign negative ++ (shortestDecimal mantissa exponent halfGapBelow).positional

end MakeHost
