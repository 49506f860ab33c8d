import MakeHost.Contract
import MakeHost.Text.Alphabetic
import MakeHost.Text.CaseMap
import MakeHost.Text.Search
import MakeHost.Value

/-!
# The string library

Functions on text for build scripts. Lengths and positions count characters. Make cannot leave
out an argument in the middle of a call, so an empty optional argument counts as not given. A
predicate is `1` or nothing, and a word list comes back joined by single spaces.
-/

namespace MakeHost.Strings

open Text (isBlank isLetter isNumeral isAlphanumeric isLower isUpper)

/-! ## Arguments -/

/-- An optional argument that is there and not empty. -/
def given (arg : Option Text) : Option Text := arg.filter (!·.isEmpty)

/-- Reads a whole number; blanks around it do not count. -/
def wholeNumber (arg : Text) : Except Failure Int :=
  (IntegerType.signed64.read arg.trim).mapError Failure.ofInteger

/-- Reads an optional whole number. -/
def optionalNumber (arg : Option Text) : Except Failure (Option Int) :=
  match given arg with
  | none => .ok none
  | some s => some <$> wholeNumber s

/-- The fill character of the padding functions, a space if none is given. -/
def fillCharacter (arg : Option Text) : Except Failure Char :=
  match given arg with
  | none => .ok ' '
  | some [c] => .ok c
  | some _ => .error (.of "TypeError" "The fill character must be exactly one character long")

/-! ## Windows -/

/-- A bound as a position: a negative one counts from the end, but not beyond the front. -/
def resolveBound (length : Nat) (bound : Int) : Int :=
  if bound < 0 then max (bound + length) 0 else bound

/-- The positions of a slice; absent when it starts behind the end or behind its own end. -/
def window (length : Nat) (start stop : Option Int) : Option (Nat × Nat) :=
  let first := resolveBound length (start.getD 0)
  let last := min (resolveBound length (stop.getD length)) length
  if (length : Int) < first ∨ last < first then none else some (first.toNat, last.toNat)

/-- The characters between two positions. -/
def between (s : Text) (first last : Nat) : Text := (s.drop first).take (last - first)

/-- The part of `s` in an optional window, and the position where it starts. -/
def sliced (s : Text) (start stop : Option Text) : Except Failure (Option (Nat × Text)) := do
  let start ← optionalNumber start
  let stop ← optionalNumber stop
  return (window s.length start stop).map fun (first, last) => (first, between s first last)

/-! ## Comparison and search -/

/-- How two texts compare by code points: `<`, `>` or `=`. -/
def compare (x y : Text) : Text :=
  if x = y then "=" else if Text.before x y then "<" else ">"

/-- How often `sub` occurs in a window without overlaps. -/
def count (s sub : Text) (start stop : Option Text) : Except Failure Nat := do
  let part ← sliced s start stop
  return part.elim 0 fun (_, slice) => Text.occurrences sub slice

/-- Whether a window begins with `front`. -/
def startsWith (s front : Text) (start stop : Option Text) : Except Failure Bool := do
  let part ← sliced s start stop
  return part.any fun (_, slice) => front.isPrefixOf slice

/-- Whether a window ends with `back`. -/
def endsWith (s back : Text) (start stop : Option Text) : Except Failure Bool := do
  let part ← sliced s start stop
  return part.any fun (_, slice) => back.isSuffixOf slice

/-- The position in `s` that `search` finds in a window; finding none is a failure. -/
def position (search : Text → Option Nat) (s : Text) (start stop : Option Text) :
    Except Failure Nat := do
  let part ← sliced s start stop
  match part.bind fun (first, slice) => (search slice).map (first + ·) with
  | some i => return i
  | none => throw (.value "substring not found")

/-- The position of the first `sub` in a window. -/
def index (s sub : Text) (start stop : Option Text) : Except Failure Nat :=
  position (Text.firstIndex? sub) s start stop

/-- The position of the last `sub` in a window. -/
def lastIndex (s sub : Text) (start stop : Option Text) : Except Failure Nat :=
  position (Text.lastIndex? sub) s start stop

/-! ## Predicates -/

/-- Whether a text has characters and all satisfy `p`. -/
def allChars (p : Char → Bool) (s : Text) : Bool := !s.isEmpty && s.all p

/-- Whether a text has lowercase but no uppercase characters. -/
def isLowerText (s : Text) : Bool := s.any isLower && !s.any isUpper

/-- Whether a text has uppercase but no lowercase characters. -/
def isUpperText (s : Text) : Bool := s.any isUpper && !s.any isLower

/-- Whether a text is a name: a letter or low line, then letters, numerals and low lines. -/
def isIdentifier : Text → Bool
  | [] => false
  | c :: s => (c = '_' || isLetter c) && s.all fun d => d = '_' || isAlphanumeric d

/-- Whether a text shows as one line: no controls, and no blanks but the space. -/
def isPrintable (s : Text) : Bool := s.all fun c => c = ' ' || !(Text.isControl c || isBlank c)

/-- Whether case changes as in a title from here on: uppercase only behind uncased characters
and lowercase only behind cased ones. `behindCased` tells of the character before, `seen` whether
a cased one came up. -/
def isTitleFrom (behindCased seen : Bool) : Text → Bool
  | [] => seen
  | c :: s =>
    if isUpper c then !behindCased && isTitleFrom true true s
    else if isLower c then behindCased && isTitleFrom true true s
    else isTitleFrom false seen s

/-- Whether a text is in title case, with a cased character in it. -/
def isTitle (s : Text) : Bool := isTitleFrom false false s

/-! ## Case -/

/-- The first character in uppercase, the rest in lowercase. -/
def capitalize : Text → Text
  | [] => []
  | c :: s => Text.upperChar c ++ Text.lower s

/-- A cased character in the other case. -/
def swapCaseChar (c : Char) : Text :=
  if isUpper c then Text.lowerChar c else if isLower c then Text.upperChar c else [c]

/-- A text with the case of every character swapped. -/
def swapCase (s : Text) : Text := s.flatMap swapCaseChar

/-- Title case from here on; `behindLetter` tells of the character before. -/
def titleFrom (behindLetter : Bool) : Text → Text
  | [] => []
  | c :: s =>
    (if behindLetter then Text.lowerChar c else Text.upperChar c) ++ titleFrom (isLetter c) s

/-- Every run of letters starts in uppercase and goes on in lowercase. -/
def title (s : Text) : Text := titleFrom false s

/-! ## Padding and blanks -/

/-- Pads a text to a width; `leftShare` is how much of the margin goes to the left. -/
def pad (s width : Text) (fill : Option Text) (leftShare : Nat → Nat) : Except Failure Text := do
  let width ← wholeNumber width
  let fill ← fillCharacter fill
  if width < s.length then return s
  let margin := (width - s.length).toNat
  let left := leftShare margin
  return Text.repeated left fill ++ s ++ Text.repeated (margin - left) fill

/-- Centers a text; an odd margin has its extra fill on the left only for odd widths. -/
def center (s width : Text) (fill : Option Text) : Except Failure Text := do
  let w ← wholeNumber width
  pad s width fill fun margin => margin / 2 + if w % 2 ≠ 0 ∧ margin % 2 = 1 then 1 else 0

/-- Puts the whole margin on the right. -/
def leftJustify (s width : Text) (fill : Option Text) : Except Failure Text :=
  pad s width fill fun _ => 0

/-- Puts the whole margin on the left. -/
def rightJustify (s width : Text) (fill : Option Text) : Except Failure Text :=
  pad s width fill fun margin => margin

/-- The characters that a strip function removes: those of `chars`, or blanks. -/
def strippable (chars : Option Text) (c : Char) : Bool :=
  match given chars with
  | some chars => chars.contains c
  | none => isBlank c

/-- Removes characters from the front. -/
def stripStart (s : Text) (chars : Option Text) : Text := s.dropWhile (strippable chars)

/-- Removes characters from the end. -/
def stripEnd (s : Text) (chars : Option Text) : Text := s.dropTailWhile (strippable chars)

/-- Replaces tabs from a column on. -/
def expandTabsFrom (size column : Nat) : Text → Text
  | [] => []
  | '\t' :: s =>
    let spaces := if size = 0 then 0 else size - column % size
    Text.repeated spaces ' ' ++ expandTabsFrom size (column + spaces) s
  | c :: s => c :: expandTabsFrom size (if c = '\n' ∨ c = '\r' then 0 else column + 1) s

/-- Replaces every tab by spaces up to the next multiple of the tab size, eight if none is given;
the column restarts behind a line break, and a size of zero or less removes tabs. -/
def expandTabs (s : Text) (size : Option Text) : Except Failure Text := do
  let size ← optionalNumber size
  return expandTabsFrom (size.getD 8).toNat 0 s

/-! ## Words -/

/-- Joins the words of a text. -/
def joinWords (sep words : Text) : Text := Text.join sep (Text.words words)

/-- The number of cuts that a split may make; a negative number sets no limit. -/
def splitLimit (limit : Option Text) : Except Failure (Option Nat) := do
  let n ← optionalNumber limit
  return n.bind fun n => if n < 0 then none else some n.toNat

/-- The pieces of a split from the left, at a separator or at blanks. -/
def splitPieces (s : Text) (sep : Option Text) (limit : Option Nat) : List Text :=
  match given sep with
  | some sep => Text.splitUpTo sep (limit.getD s.length) s
  | none => Text.takeWords (limit.getD s.length) s

/-- The pieces of a split from the right; without a limit a separator is looked for from the
left. -/
def splitLastPieces (s : Text) (sep : Option Text) (limit : Option Nat) : List Text :=
  match given sep, limit with
  | some sep, some n => Text.splitLastUpTo sep n s
  | some sep, none => Text.splitAll sep s
  | none, limit => Text.takeLastWords (limit.getD s.length) s

/-- Splits from the left and returns a word list. -/
def split (s : Text) (sep limit : Option Text) : Except Failure Text := do
  let limit ← splitLimit limit
  return Text.unwords (splitPieces s sep limit)

/-- Splits from the right and returns a word list. -/
def splitLast (s : Text) (sep limit : Option Text) : Except Failure Text := do
  let limit ← splitLimit limit
  return Text.unwords (splitLastPieces s sep limit)

/-- The partner of a character: that of its last occurrence in a list of pairs, else itself. -/
def partner (pairs : List (Char × Char)) (c : Char) : Char := (pairs.reverse.lookup c).getD c

/-- Replaces each character of `fromChars` by the one at the same position in `toChars`. -/
def replaceChars (s fromChars toChars : Text) : Text := s.map (partner (fromChars.zip toChars))

end MakeHost.Strings
