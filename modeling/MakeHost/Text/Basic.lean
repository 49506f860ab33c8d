/-!
# Text and bytes

Text is a list of characters and a byte string a list of bytes, so that every scanner of the
library is a recursion on its input. A string literal stands for the text of its characters.
-/

namespace MakeHost

/-- A finite sequence of characters. -/
abbrev Text := List Char

/-- A finite sequence of bytes. -/
abbrev Bytes := List UInt8

instance : Coe String Text := ⟨String.toList⟩

namespace Text

/-- What is said of the characters of a text is decided on these, not on all characters there are.
-/
instance (priority := 2000) decidableForallMem (s : Text) (p : Char → Prop) [DecidablePred p] :
    Decidable (∀ c ∈ s, p c) := List.decidableBAll p s

/-- The decimal digits of a natural number, without leading zeros. -/
def ofNat (n : Nat) : Text := Nat.toDigits 10 n

/-- A whole number in decimal, with a minus sign in front when it is negative. -/
def ofInt : Int → Text
  | .ofNat n => ofNat n
  | .negSucc n => '-' :: ofNat (n + 1)

/-- A natural number in lower-case hexadecimal, without leading zeros. -/
def hex (n : Nat) : Text := Nat.toDigits 16 n

/-- `n` copies of one character. -/
def repeated (n : Nat) (c : Char) : Text := List.replicate n c

/-- The pieces of a list of texts with `sep` between neighbours. -/
def join (sep : Text) (parts : List Text) : Text := sep.intercalate parts

/-- Words joined by single spaces, the form in which make holds a list. -/
def unwords (words : List Text) : Text := join [' '] words

/-- The pieces of a text between the occurrences of one character, at least one. -/
def splitAround (sep : Char) : Text → List Text
  | [] => [[]]
  | c :: s =>
    if c = sep then [] :: splitAround sep s
    else match splitAround sep s with
      | [] => [[c]]
      | piece :: pieces => (c :: piece) :: pieces

/-- The lines of a text: the pieces between its line feeds, at least one. -/
def lines (s : Text) : List Text := splitAround '\n' s

/-- Drops the longest tail whose characters all satisfy `p`. -/
def dropTailWhile (p : Char → Bool) (s : Text) : Text := (s.reverse.dropWhile p).reverse

/-- The order of two texts by their code points. -/
def before (s t : Text) : Bool := decide (s < t)

/-- The part of a text up to its first NUL, which is what a C string keeps of it. -/
def upToNul (s : Text) : Text := s.takeWhile (· != '\x00')

end Text

/-- The part of a byte string up to its first zero byte. -/
def Bytes.upToNul (s : Bytes) : Bytes := s.takeWhile (· != 0)

end MakeHost
