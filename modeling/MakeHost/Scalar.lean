import MakeHost.Error

/-!
# Reading scalars

Texts that stand for a floating-point number, a truth value or a character, and what is wrong with
those that do not.
-/

namespace MakeHost.Scalar

/-- Why a text is no scalar of a kind. -/
inductive Fault
  | emptyFloat
  | invalidFloat
  | noFlag
  | emptyChar
  | manyChars
deriving DecidableEq

/-- The failure that stands for a fault. -/
def Fault.toFailure : Fault → Failure
  | .emptyFloat => .of "ParseFloatError" "cannot parse float from empty string"
  | .invalidFloat => .of "ParseFloatError" "invalid float literal"
  | .noFlag => .of "ParseBoolError" "provided string was not \x60true\x60 or \x60false\x60"
  | .emptyChar => .of "ParseCharError" "cannot parse char from empty string"
  | .manyChars => .of "ParseCharError" "too many characters in string"

/-- Drops a sign. -/
def dropSign : Text → Text
  | '+' :: s => s
  | '-' :: s => s
  | s => s

/-- Whether a text is an exponent, with its letter, or nothing. -/
def isExponent : Text → Bool
  | [] => true
  | c :: s =>
    let digits := dropSign s
    (c = 'e' || c = 'E') && !digits.isEmpty && digits.all Char.isDigit

/-- Whether a text is an unsigned decimal numeral: digits with a point among or around them, and
an exponent. -/
def isDecimal (s : Text) : Bool :=
  let whole := s.takeWhile Char.isDigit
  match s.dropWhile Char.isDigit with
  | '.' :: rest =>
    let fraction := rest.takeWhile Char.isDigit
    !(whole.isEmpty && fraction.isEmpty) && isExponent (rest.dropWhile Char.isDigit)
  | rest => !whole.isEmpty && isExponent rest

/-- Whether a text is a word for a number that has no digits. -/
def isNumberWord (s : Text) : Bool :=
  ["inf", "infinity", "nan"].any fun word => s.map Char.toLower = word.toList

/-- The fault of a text that is no floating-point number. -/
def floatFault? (s : Text) : Option Fault :=
  if s.isEmpty then some .emptyFloat
  else
    let magnitude := dropSign s
    if isDecimal magnitude || isNumberWord magnitude then none else some .invalidFloat

/-- Reads a truth value. -/
def readFlag (s : Text) : Except Fault Bool :=
  if s = "true".toList then .ok true
  else if s = "false".toList then .ok false
  else .error .noFlag

/-- Reads a character. -/
def readChar : Text → Except Fault Char
  | [] => .error .emptyChar
  | [c] => .ok c
  | _ => .error .manyChars

end MakeHost.Scalar
