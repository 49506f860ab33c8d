import MakeHost.Text.Basic

/-!
# Sets of code points

A property of characters is held as a list of arithmetic progressions of code points, and a
simple case mapping as a list of progressions with the distance to the mapped code point.
-/

namespace MakeHost.Text

/-- The code points `first`, `first + step`, … up to `last`. -/
structure CodeRange where
  first : Nat
  last : Nat
  step : Nat

/-- Whether a code point belongs to the progression. -/
def CodeRange.contains (r : CodeRange) (code : Nat) : Bool :=
  r.first ≤ code && code ≤ r.last && (code - r.first) % r.step == 0

/-- Whether some progression of the list holds the character. -/
def covers (ranges : List CodeRange) (c : Char) : Bool :=
  ranges.any (·.contains c.toNat)

/-- A progression of code points that are all mapped by the same distance. -/
structure CaseRun where
  first : Nat
  last : Nat
  step : Nat
  offset : Int

/-- The code points of the run. -/
def CaseRun.codes (run : CaseRun) : CodeRange := ⟨run.first, run.last, run.step⟩

/-- The image of a code point under the first run that holds it. -/
def mapped? (runs : List CaseRun) (code : Nat) : Option Nat :=
  (runs.find? (·.codes.contains code)).map fun run => ((code : Int) + run.offset).toNat

end MakeHost.Text
