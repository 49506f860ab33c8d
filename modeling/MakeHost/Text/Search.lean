import MakeHost.Text.Blank

/-!
# Searching and splitting

Occurrences of one text in another, and the pieces between them. A split takes the number of
cuts it may make and is a recursion on that number; a text has never more occurrences of a
separator than characters, so its length stands for "no limit".
-/

namespace MakeHost.Text

/-- The text before the first occurrence of `sep` and the text after it. -/
def cutFirst? (sep : Text) : Text → Option (Text × Text)
  | [] => if sep.isEmpty then some ([], []) else none
  | c :: s =>
    match sep.isPrefixOf? (c :: s) with
    | some after => some ([], after)
    | none => (cutFirst? sep s).map fun (front, after) => (c :: front, after)

/-- The text before the last occurrence of `sep` and the text after it. -/
def cutLast? (sep : Text) : Text → Option (Text × Text)
  | [] => if sep.isEmpty then some ([], []) else none
  | c :: s =>
    match cutLast? sep s with
    | some (front, after) => some (c :: front, after)
    | none => (sep.isPrefixOf? (c :: s)).map fun after => ([], after)

/-- The pieces of a text after at most `limit` cuts at `sep`, made from the left. -/
def splitUpTo (sep : Text) : Nat → Text → List Text
  | 0, s => [s]
  | limit + 1, s =>
    match cutFirst? sep s with
    | some (front, after) => front :: splitUpTo sep limit after
    | none => [s]

/-- The pieces of a text after at most `limit` cuts at `sep`, made from the right. -/
def splitLastUpTo (sep : Text) : Nat → Text → List Text
  | 0, s => [s]
  | limit + 1, s =>
    match cutLast? sep s with
    | some (front, after) => splitLastUpTo sep limit front ++ [after]
    | none => [s]

/-- The pieces of a text between the leftmost occurrences of `sep` that do not overlap. -/
def splitAll (sep s : Text) : List Text := splitUpTo sep s.length s

/-- How often `sub` occurs without overlaps; the empty text occurs around every character. -/
def occurrences (sub s : Text) : Nat :=
  if sub.isEmpty then s.length + 1 else (splitAll sub s).length - 1

/-- The least position at which `sub` occurs. -/
def firstIndex? (sub s : Text) : Option Nat := (cutFirst? sub s).map (·.1.length)

/-- The greatest position at which `sub` occurs. -/
def lastIndex? (sub s : Text) : Option Nat := (cutLast? sub s).map (·.1.length)

/-- The longest tail whose characters all satisfy `p`. -/
def takeTailWhile (p : Char → Bool) (s : Text) : Text := (s.reverse.takeWhile p).reverse

/-- Takes at most `limit` words off the front; what is left after them stays one piece. -/
def takeWords : Nat → Text → List Text
  | limit, s =>
    match trimStart s with
    | [] => []
    | c :: rest =>
      match limit with
      | 0 => [c :: rest]
      | limit + 1 =>
        (c :: rest).takeWhile (!isBlank ·) ::
          takeWords limit ((c :: rest).dropWhile (!isBlank ·))

/-- Takes at most `limit` words off the end; what is left before them stays one piece. -/
def takeLastWords : Nat → Text → List Text
  | limit, s =>
    match trimEnd s with
    | [] => []
    | c :: rest =>
      match limit with
      | 0 => [c :: rest]
      | limit + 1 =>
        takeLastWords limit (dropTailWhile (!isBlank ·) (c :: rest)) ++
          [takeTailWhile (!isBlank ·) (c :: rest)]

end MakeHost.Text
