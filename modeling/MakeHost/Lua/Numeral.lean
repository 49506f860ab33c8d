import MakeHost.Number.Significant

/-!
# Numerals of the interpreter

A text that a number is expected of is read as one: blanks, a sign, decimal or hexadecimal
digits, a point and an exponent. A numeral without point and exponent that fits 64 bits is a whole
number; every other numeral is rounded to a floating-point number, which counts as whole by
dropping its fraction.
-/

namespace MakeHost.Lua

/-- Whether a character is blank to the interpreter. -/
def isSpace (c : Char) : Bool := c = ' ' || ('\t'.toNat ≤ c.toNat && c.toNat ≤ '\r'.toNat)

/-- The value of a digit in a base. -/
def digit? (base : Nat) (c : Char) : Option Nat :=
  let value :=
    if c.isDigit then c.toNat - '0'.toNat
    else if 'a' ≤ c ∧ c ≤ 'f' then c.toNat - 'a'.toNat + 10
    else if 'A' ≤ c ∧ c ≤ 'F' then c.toNat - 'A'.toNat + 10
    else base
  if value < base then some value else none

/-- Reads digits onto `acc`: the number, how many digits there were, and the rest. -/
def readDigits (base acc count : Nat) : Text → Nat × Nat × Text
  | [] => (acc, count, [])
  | c :: s =>
    match digit? base c with
    | some d => readDigits base (acc * base + d) (count + 1) s
    | none => (acc, count, c :: s)

/-- A sign in front of a numeral. -/
def readSign : Text → Bool × Text
  | '-' :: s => (true, s)
  | '+' :: s => (false, s)
  | s => (false, s)

/-- A numeral: a sign, a whole number scaled by a power, and whether it has neither point nor
exponent. -/
structure Numeral where
  negative : Bool
  magnitude : Ratio
  plain : Bool
  hexadecimal : Bool

/-- Reads an exponent behind its letter; a letter without digits is no exponent. -/
def readExponent (letter : Char) (s : Text) : Option (Int × Text) :=
  match s with
  | c :: s =>
    if c.toLower = letter then
      let (negative, s) := readSign s
      match readDigits 10 0 0 s with
      | (_, 0, _) => none
      | (e, _, s) => some (if negative then -(e : Int) else e, s)
    else none
  | [] => none

/-- The ratio of digits scaled by a power of the exponent's base; an exponent beyond all finite
numbers is cut short. -/
def scaledRatio (digits expBase : Nat) (exponent : Int) : Ratio :=
  if digits = 0 then ⟨0, 1⟩ else .scaled digits expBase (max (-20000) (min exponent 20000))

/-- Reads an unsigned numeral in a base; `perDigit` is what a place behind the point weighs in the
exponent. -/
def readMagnitude (base expBase : Nat) (perDigit : Int) (letter : Char) (s : Text) :
    Option (Ratio × Bool × Text) :=
  let (whole, n, s) := readDigits base 0 0 s
  let (digits, fraction, s, point) : Nat × Nat × Text × Bool := match s with
    | '.' :: s =>
      let (digits, k, s) := readDigits base whole 0 s
      (digits, k, s, true)
    | s => (whole, 0, s, false)
  if n + fraction = 0 then none
  else match readExponent letter s with
    | some (e, s) => some (scaledRatio digits expBase (e - perDigit * fraction), false, s)
    | none => some (scaledRatio digits expBase (-(perDigit * fraction)), !point, s)

/-- Reads a text that is a numeral, with blanks around it. -/
def readNumeral? (s : Text) : Option Numeral :=
  let (negative, s) := readSign (s.dropWhile isSpace)
  let (hexadecimal, body) := match s with
    | '0' :: x :: s => if x.toLower = 'x' then (true, readMagnitude 16 2 4 'p' s)
      else (false, readMagnitude 10 10 1 'e' ('0' :: x :: s))
    | s => (false, readMagnitude 10 10 1 'e' s)
  match body with
  | none => none
  | some (magnitude, plain, rest) =>
    if (rest.dropWhile isSpace).isEmpty then some ⟨negative, magnitude, plain, hexadecimal⟩
    else none

/-- The nearest ratio with 53 significant bits. -/
def Ratio.toDouble (r : Ratio) : Ratio :=
  if r.num = 0 then r
  else
    let guess := (Nat.log2 r.num : Int) - Nat.log2 r.den
    let exponent := if r.lt (.scaled 1 2 guess) then guess - 1 else guess
    let place := max (exponent - 52) (-1074)
    let unit := Ratio.scaled 1 2 place
    .scaled (Ratio.roundEven ⟨r.num * unit.den, r.den * unit.num⟩) 2 place

/-- The smallest and the greatest whole number. -/
def minInteger : Int := -9223372036854775808

@[inherit_doc minInteger]
def maxInteger : Int := 9223372036854775807

/-- A whole number when it is in range. -/
def inRange? (n : Int) : Option Int := if minInteger ≤ n ∧ n ≤ maxInteger then some n else none

/-- A number with a sign. -/
def signed (negative : Bool) (n : Nat) : Int := if negative then -(n : Int) else n

/-- The whole number that a numeral stands for, when it is in range. A hexadecimal one without
point wraps around. -/
def Numeral.toInteger? (x : Numeral) : Option Int :=
  let whole := signed x.negative x.magnitude.floor
  if x.plain ∧ x.hexadecimal then
    some ((whole - minInteger) % (maxInteger - minInteger + 1) + minInteger)
  else if x.plain ∧ (inRange? whole).isSome then some whole
  else inRange? (signed x.negative (Ratio.toDouble x.magnitude).floor)

/-- The whole number that a floating-point number stands for, when it is in range. -/
def truncate? : BinaryNumber → Option Int
  | .finite negative mantissa exponent _ =>
    inRange? (signed negative (Ratio.scaled mantissa 2 exponent).floor)
  | _ => none

end MakeHost.Lua
