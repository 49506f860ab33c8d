import MakeHost.Text.CodeRange

/-!
# Blank characters

The characters with the Unicode property White_Space, and the functions that trim them off or
split text at them.
-/

namespace MakeHost.Text

/-- The code points with the property White_Space. -/
def blankRanges : List CodeRange := [
  ⟨0x9, 0xD, 1⟩, ⟨0x20, 0x20, 1⟩, ⟨0x85, 0x85, 1⟩, ⟨0xA0, 0xA0, 1⟩, ⟨0x1680, 0x1680, 1⟩,
  ⟨0x2000, 0x200A, 1⟩, ⟨0x2028, 0x2029, 1⟩, ⟨0x202F, 0x202F, 1⟩, ⟨0x205F, 0x205F, 1⟩,
  ⟨0x3000, 0x3000, 1⟩]


/-- Whether a character is white space. -/
def isBlank (c : Char) : Bool := covers blankRanges c

/-- Drops the blank characters in front. -/
def trimStart (s : Text) : Text := s.dropWhile isBlank

/-- Drops the blank characters at the end. -/
def trimEnd (s : Text) : Text := s.dropTailWhile isBlank

/-- Drops the blank characters at both ends. -/
def trim (s : Text) : Text := (trimStart s).trimEnd

/-- Splits off the word in front: `current` holds its characters so far, last one first. -/
def wordsFrom (current : Text) : Text → List Text
  | [] => if current.isEmpty then [] else [current.reverse]
  | c :: s =>
    if isBlank c then
      if current.isEmpty then wordsFrom [] s else current.reverse :: wordsFrom [] s
    else wordsFrom (c :: current) s

/-- The maximal runs of characters that are not blank. -/
def words (s : Text) : List Text := wordsFrom [] s

end MakeHost.Text
