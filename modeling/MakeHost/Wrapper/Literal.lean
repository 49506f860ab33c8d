import MakeHost.Text.Blank
import MakeHost.Wrapper.Token

/-!
# Values of literals

The values of the literals that options take: strings, whole numbers in any base, and truth
values.
-/

namespace MakeHost.Wrapper

/-- The value of a literal. -/
inductive Literal
  | str (s : Text)
  | int (n : Int)
  | flag (b : Bool)
  /-- A literal of a kind that no option takes. -/
  | other
deriving DecidableEq

namespace Literal

/-- The value of a hexadecimal digit. -/
def hexDigit (c : Char) : Nat :=
  if c.isDigit then c.toNat - '0'.toNat else c.toLower.toNat - 'a'.toNat + 10

/-- Whether a character is a hexadecimal digit. -/
def isHexDigit (c : Char) : Bool :=
  c.isDigit || ('a' ≤ c.toLower && c.toLower ≤ 'f')

/-- The number that hexadecimal digits stand for; underscores only separate. -/
def hexNumber (digits : Text) : Nat :=
  (digits.filter isHexDigit).foldl (fun n c => n * 16 + hexDigit c) 0

/-! ## Strings -/

/-- Where reading stands in a string: among its characters, behind a backslash at a line's end, or
in a code point, whose digits are reversed. -/
inductive StringPosition
  | plain
  | lineEnd
  | codePoint (digits : Text)

/-- The text of a string literal from behind its first quote. -/
def stringText : StringPosition → Text → Text
  | _, [] => []
  | .codePoint digits, c :: s =>
    if c = '\x7d' then Char.ofNat (hexNumber digits.reverse) :: stringText .plain s
    else stringText (.codePoint (c :: digits)) s
  | .lineEnd, c :: s =>
    if Text.isBlank c then stringText .lineEnd s else behind c s
  | .plain, c :: s => behind c s
where
  /-- The text of a string from a character on. -/
  behind (c : Char) (s : Text) : Text :=
    match c, s with
    | '"', _ => []
    | '\\', 'n' :: s => '\n' :: stringText .plain s
    | '\\', 'r' :: s => '\r' :: stringText .plain s
    | '\\', 't' :: s => '\t' :: stringText .plain s
    | '\\', '0' :: s => '\x00' :: stringText .plain s
    | '\\', 'x' :: a :: b :: s => Char.ofNat (hexNumber [a, b]) :: stringText .plain s
    | '\\', 'u' :: '\x7b' :: s => stringText (.codePoint []) s
    | '\\', '\n' :: s => stringText .lineEnd s
    | '\\', '\r' :: s => stringText .lineEnd s
    | '\\', c :: s => c :: stringText .plain s
    | '\r', '\n' :: s => '\n' :: stringText .plain s
    | c, s => c :: stringText .plain s

/-- The text of a raw string literal from behind its letter: between as many number signs, and
quotes. -/
def rawStringText (s : Text) : Text :=
  let signs := (s.takeWhile (· = '#')).length
  let body := (s.drop (signs + 1)).reverse
  ((body.dropWhile (· ≠ '"')).drop 1).reverse

/-! ## Whole numbers -/

/-- Whether what follows digits of base ten is an exponent: the letter, and a digit behind a sign
and underscores that there may be. -/
def isExponent : Text → Bool
  | e :: s =>
    (e = 'e' || e = 'E') && match s.dropWhile (· = '_') with
      | c :: _ => c.isDigit || c = '+' || c = '-'
      | [] => false
  | [] => false

/-- Reads digits of a base onto `acc`; a point or an exponent behind digits of base ten makes the
literal no whole number, and so does having no digit. -/
def integerFrom (base : Nat) (acc : Nat) (digits : Bool) : Text → Option Nat
  | [] => if digits then some acc else none
  | c :: s =>
    if c = '_' then integerFrom base acc digits s
    else if c.isDigit ∨ (10 < base ∧ isHexDigit c) then
      if hexDigit c < base then integerFrom base (acc * base + hexDigit c) true s else none
    else if base = 10 ∧ (c = '.' ∨ isExponent (c :: s)) then none
    else if digits then some acc
    else none

/-- The value of a whole number; a suffix does not count. -/
def integer? : Text → Option Nat
  | '0' :: 'x' :: s => integerFrom 16 0 false s
  | '0' :: 'o' :: s => integerFrom 8 0 false s
  | '0' :: 'b' :: s => integerFrom 2 0 false s
  | s => integerFrom 10 0 false s

/-- The value of a literal as it is written. -/
def ofText : Text → Literal
  | '"' :: s => .str (stringText .plain s)
  | 'r' :: s => .str (rawStringText s)
  | c :: s =>
    if c.isDigit then
      match integer? (c :: s) with
      | some n => .int n
      | none => .other
    else .other
  | [] => .other

end Literal

end MakeHost.Wrapper
