import MakeHost.Text.Blank

/-!
# Pieces of text under expansion

Expansion reads a text from the left as pieces: characters that stand for themselves, references
in brackets, references of one character, and what an incomplete reference leaves. Reading has no
effects.
-/

namespace MakeHost.Make

/-- One step of expanding a text. -/
inductive Piece
  | plain (c : Char)
  /-- A reference in brackets; only brackets of its own kind are matched inside. -/
  | reference (inner : Text)
  /-- A dollar sign before a character that opens no reference: a name of one character. -/
  | single (name : Char)
  /-- A dollar sign at the end of the text, which expands to nothing. -/
  | dangling
  /-- A reference that the text ends in. -/
  | unterminated
deriving DecidableEq

/-- Where reading stands: in plain text, behind a dollar sign, or in a reference with its
brackets, the number of open brackets inside it, and its text so far, reversed. -/
inductive Scan
  | plain
  | dollar
  | inside (opening closing : Char) (depth : Nat) (inner : Text)

/-- Reads the pieces of a text. -/
def piecesFrom : Scan → Text → List Piece
  | .plain, [] => []
  | .dollar, [] => [.dangling]
  | .inside .., [] => [.unterminated]
  | .plain, c :: s => if c = '$' then piecesFrom .dollar s else .plain c :: piecesFrom .plain s
  | .dollar, c :: s =>
    if c = '$' then .plain '$' :: piecesFrom .plain s
    else if c = '(' then piecesFrom (.inside '(' ')' 0 []) s
    else if c = '\x7b' then piecesFrom (.inside '\x7b' '\x7d' 0 []) s
    else .single c :: piecesFrom .plain s
  | .inside opening closing depth inner, c :: s =>
    if c = opening then piecesFrom (.inside opening closing (depth + 1) (c :: inner)) s
    else if c = closing then
      match depth with
      | 0 => .reference inner.reverse :: piecesFrom .plain s
      | depth + 1 => piecesFrom (.inside opening closing depth (c :: inner)) s
    else piecesFrom (.inside opening closing depth (c :: inner)) s

/-- The pieces of a text. -/
def pieces (s : Text) : List Piece := piecesFrom .plain s

/-- Whether a character separates a function's name from its arguments. -/
def isGap (c : Char) : Bool := c = ' ' || c = '\t'

/-- The head of a reference, and what follows the gap behind it if there is one. -/
def headAndArguments (inner : Text) : Text × Option Text :=
  match inner.dropWhile (!isGap ·) with
  | [] => (inner, none)
  | gap :: rest => (inner.takeWhile (!isGap ·), some ((gap :: rest).dropWhile isGap))

/-- Splits at commas outside brackets. `depth` counts open brackets, `cuts` how many cuts may
still be made if there is a limit. -/
def splitArgumentsFrom (depth : Nat) (cuts : Option Nat) : Text → List Text
  | [] => [[]]
  | c :: s =>
    if c = ',' ∧ depth = 0 ∧ cuts ≠ some 0 then
      [] :: splitArgumentsFrom 0 (cuts.map (· - 1)) s
    else
      let depth :=
        if c = '(' ∨ c = '\x7b' then depth + 1
        else if c = ')' ∨ c = '\x7d' then depth - 1
        else depth
      match splitArgumentsFrom depth cuts s with
      | [] => [[c]]
      | arg :: args => (c :: arg) :: args

/-- The arguments of a call. With a greatest count the last argument keeps further commas. -/
def splitArguments (s : Text) (max : Nat) : List Text :=
  splitArgumentsFrom 0 (if max = 0 then none else some (max - 1)) s

end MakeHost.Make
