import MakeHost.Text.Basic

/-!
# Reading whole numbers

A sign that the type admits, then decimal digits, read from the left. Reading stops at the first
digit that leaves the type's range, or at the first character that is no digit, whichever comes
first.
-/

namespace MakeHost

/-- A range of whole numbers. -/
structure IntegerType where
  low : Int
  high : Int

namespace IntegerType

/-- The signed numbers of 64 bits. -/
def signed64 : IntegerType := ⟨-9223372036854775808, 9223372036854775807⟩

/-- The unsigned numbers of 8 bits. -/
def unsigned8 : IntegerType := ⟨0, 255⟩

/-- Why a text is no number of a type. -/
inductive Fault
  | empty
  | invalidDigit
  | tooLarge
  | tooSmall
deriving DecidableEq

/-- The wording of a fault. -/
def Fault.message : Fault → Text
  | .empty => "cannot parse integer from empty string"
  | .invalidDigit => "invalid digit found in string"
  | .tooLarge => "number too large to fit in target type"
  | .tooSmall => "number too small to fit in target type"

/-- The value of a decimal digit. -/
def digit? (c : Char) : Option Nat := if c.isDigit then some (c.toNat - '0'.toNat) else none

/-- Continues the number `acc` with digits. -/
def readDigits (type : IntegerType) (negative : Bool) (acc : Int) : Text → Except Fault Int
  | [] => .ok acc
  | c :: s =>
    match digit? c with
    | none => .error .invalidDigit
    | some d =>
      let next := if negative then acc * 10 - d else acc * 10 + d
      if type.high < next then .error .tooLarge
      else if next < type.low then .error .tooSmall
      else readDigits type negative next s

/-- Digits, of which there must be one. -/
def readSomeDigits (type : IntegerType) (negative : Bool) (s : Text) : Except Fault Int :=
  if s.isEmpty then .error .invalidDigit else readDigits type negative 0 s

/-- Reads a whole number of the type. -/
def read (type : IntegerType) : Text → Except Fault Int
  | [] => .error .empty
  | '+' :: s => readSomeDigits type false s
  | c :: s =>
    if c = '-' ∧ type.low < 0 then readSomeDigits type true s
    else readDigits type false 0 (c :: s)

/-- Reduces a number into the range of the type, modulo the range's size. -/
def wrap (type : IntegerType) (n : Int) : Int :=
  type.low + (n - type.low) % (type.high - type.low + 1)

end IntegerType

end MakeHost
