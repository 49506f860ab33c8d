import MakeHost.Text.Blank
import MakeHost.Text.Identifier
import MakeHost.Wrapper.Token

/-!
# Reading code

A text is read into lexemes, and lexemes into token trees. Blanks and comments separate lexemes
and leave nothing behind; a comment that documents what follows it is an attribute.
-/

namespace MakeHost.Wrapper

/-- A piece of code: a bracket or a token that is no group. -/
inductive Lexeme
  | opens (d : Delimiter)
  | closes (d : Delimiter)
  | leaf (t : TokenTree)

/-! ## Blanks and comments -/

/-- Whether a character only separates. -/
def isSeparator (c : Char) : Bool := Text.isBlank c || c = '\u200e' || c = '\u200f'

/-- The inside of a block comment and what follows it; comments nest. -/
def blockComment (depth : Nat) : Text → Option (Text × Text)
  | '*' :: '/' :: s =>
    match depth with
    | 0 => some ([], s)
    | depth + 1 => (blockComment depth s).map fun (inner, rest) => ('*' :: '/' :: inner, rest)
  | '/' :: '*' :: s =>
    (blockComment (depth + 1) s).map fun (inner, rest) => ('/' :: '*' :: inner, rest)
  | c :: s => (blockComment depth s).map fun (inner, rest) => (c :: inner, rest)
  | [] => none

/-- The rest of a line, without the carriage return before its end, and what follows the line. -/
def lineComment (s : Text) : Text × Text :=
  let line := s.takeWhile (· ≠ '\n')
  (['\r'].isSuffixOf? line |>.getD line, s.dropWhile (· ≠ '\n'))

/-- A comment. -/
inductive Comment
  | plain
  /-- Documents what follows it or, if `inner`, what it stands in. -/
  | documents (inner : Bool) (content : Text)

/-- Reads a comment. -/
def comment? : Text → Option (Comment × Text)
  | '/' :: '/' :: '/' :: '/' :: s => some (.plain, (lineComment s).2)
  | '/' :: '/' :: '/' :: s => some (.documents false (lineComment s).1, (lineComment s).2)
  | '/' :: '/' :: '!' :: s => some (.documents true (lineComment s).1, (lineComment s).2)
  | '/' :: '/' :: s => some (.plain, (lineComment s).2)
  | '/' :: '*' :: s => do
    let (inner, rest) ← blockComment 0 s
    match inner with
    | [] | ['*'] => return (.plain, rest)
    | '*' :: '*' :: _ => return (.plain, rest)
    | '*' :: content => return (.documents false content, rest)
    | '!' :: content => return (.documents true content, rest)
    | _ => return (.plain, rest)
  | _ => none

/-- The attribute of a comment that documents. -/
def documentation (inner : Bool) (content : Text) : List Lexeme :=
  [.leaf (.punct '#' false)] ++ (if inner then [.leaf (.punct '!' false)] else []) ++
    [.opens .bracket, .leaf (.ident "doc"), .leaf (.punct '=' false),
      .leaf (.literal (stringLiteral content)), .closes .bracket]

/-! ## Literals -/

/-- Splits off the name characters at the front. -/
def nameCharacters (s : Text) : Text × Text :=
  (s.takeWhile Text.isIdentifierContinue, s.dropWhile Text.isIdentifierContinue)

/-- A literal with the suffix behind it. -/
def suffixed (front rest : Text) : Text × Text :=
  if rest.head?.any Text.isIdentifierStart then
    let (suffix, rest) := nameCharacters rest
    (front ++ suffix, rest)
  else (front, rest)

/-- Reads up to a closing quote; a backslash protects the character behind it. -/
def quotedBody (quote : Char) : Text → Option (Text × Text)
  | [] => none
  | ['\\'] => none
  | '\\' :: c :: s => (quotedBody quote s).map fun (body, rest) => ('\\' :: c :: body, rest)
  | c :: s =>
    if c = quote then some ([c], s)
    else (quotedBody quote s).map fun (body, rest) => (c :: body, rest)

/-- Reads up to a closing quote that so many number signs follow. -/
def rawBody (signs : Nat) (s : Text) : Option (Text × Text) :=
  let close := '"' :: List.replicate signs '#'
  match s with
  | [] => none
  | c :: rest =>
    match close.isPrefixOf? (c :: rest) with
    | some after => some (close, after)
    | none => (rawBody signs rest).map fun (body, after) => (c :: body, after)

/-- Reads a raw string behind its letters: number signs, and the string between quotes. -/
def rawString? (s : Text) : Option (Text × Text) :=
  let signs := s.takeWhile (· = '#')
  match s.dropWhile (· = '#') with
  | '"' :: body => do
    let (body, rest) ← rawBody signs.length body
    return (signs ++ '"' :: body, rest)
  | _ => none

/-- Reads a character between single quotes, behind the first. -/
def character? : Text → Option (Text × Text)
  | '\\' :: c :: s => do
    let (body, rest) ← quotedBody '\'' s
    return ('\\' :: c :: body, rest)
  | '\'' :: _ => none
  | c :: '\'' :: rest => some ([c, '\''], rest)
  | _ => none

/-- Whether a character stands in a row of digits. -/
def isDigitCharacter (c : Char) : Bool := c.isDigit || c = '_'

/-- Splits off a row of digits. -/
def digitRow (s : Text) : Text × Text :=
  (s.takeWhile isDigitCharacter, s.dropWhile isDigitCharacter)

/-- Reads an exponent that has a digit. -/
def exponent? (s : Text) : Option (Text × Text) :=
  match s with
  | e :: s =>
    if e = 'e' ∨ e = 'E' then
      let (sign, s) : Text × Text := match s with
        | '+' :: s => (['+'], s)
        | '-' :: s => (['-'], s)
        | s => ([], s)
      let (digits, rest) := digitRow s
      if digits.any Char.isDigit then some (e :: sign ++ digits, rest) else none
    else none
  | [] => none

/-- Reads a fraction: a point that neither a second one nor a name follows, and digits. -/
def fraction? : Text → Option (Text × Text)
  | '.' :: s =>
    if s.head?.any fun c => c = '.' ∨ Text.isIdentifierStart c then none
    else
      let (digits, rest) := digitRow s
      some ('.' :: digits, rest)
  | _ => none

/-- Reads a number that begins with a digit. -/
def numberLiteral (s : Text) : Text × Text :=
  match s with
  | '0' :: 'x' :: _ | '0' :: 'o' :: _ | '0' :: 'b' :: _ => nameCharacters s
  | s =>
    let (whole, rest) := digitRow s
    let (fraction, rest) := (fraction? rest).getD ([], rest)
    let (exponent, rest) := (exponent? rest).getD ([], rest)
    suffixed (whole ++ fraction ++ exponent) rest

/-- Reads a literal without its suffix. -/
def unsuffixed? : Text → Option (Text × Text)
  | '"' :: s => front "\"" (quotedBody '"' s)
  | 'b' :: '"' :: s => front "b\"" (quotedBody '"' s)
  | 'c' :: '"' :: s => front "c\"" (quotedBody '"' s)
  | 'b' :: '\'' :: s => front "b'" (character? s)
  | '\'' :: s => front "'" (character? s)
  | 'b' :: 'r' :: s => front "br" (rawString? s)
  | 'c' :: 'r' :: s => front "cr" (rawString? s)
  | 'r' :: s => front "r" (rawString? s)
  | _ => none
where
  /-- Puts back what was read before. -/
  front (start : String) (read : Option (Text × Text)) : Option (Text × Text) :=
    read.map fun (body, rest) => (start.toList ++ body, rest)

/-- Reads a literal. -/
def literal? (s : Text) : Option (Text × Text) :=
  if s.head?.any Char.isDigit then some (numberLiteral s)
  else (unsuffixed? s).map fun (body, rest) => suffixed body rest

/-! ## Names and punctuation -/

/-- The punctuation characters. -/
def punctuation : List Char := "~!@#$%^&*-=+|;:,<.>/?'".toList

/-- Whether a text begins with punctuation. -/
def startsPunctuation : Text → Bool
  | '/' :: '/' :: _ => false
  | '/' :: '*' :: _ => false
  | c :: _ => punctuation.contains c
  | [] => false

/-- The words that have no raw form. -/
def neverRaw : List Text := ["_", "crate", "self", "Self", "super"].map String.toList

/-- Reads a name; two characters in front make a word raw. -/
def name? : Text → Option (Text × Text)
  | 'r' :: '#' :: c :: s =>
    if Text.isIdentifierStart c then
      let (name, rest) := nameCharacters s
      if neverRaw.contains (c :: name) then none else some ('r' :: '#' :: c :: name, rest)
    else none
  | c :: s =>
    if Text.isIdentifierStart c then
      let (name, rest) := nameCharacters s
      some (c :: name, rest)
    else none
  | [] => none

/-- Whether the name at the front is not closed by a quote, so that a quote before it begins the
name of a lifetime. -/
def startsLifetime (s : Text) : Bool :=
  match name? s with
  | some (_, rest) => rest.head? ≠ some '\''
  | none => false

/-- Reads a punctuation character. -/
def punctuation? : Text → Option (TokenTree × Text)
  | '\'' :: s => if startsLifetime s then some (.punct '\'' true, s) else none
  | c :: s => if startsPunctuation (c :: s) then some (.punct c (startsPunctuation s), s) else none
  | [] => none

/-- Reads a bracket. -/
def bracket? (s : Text) : Option (Lexeme × Text) :=
  match s with
  | [] => none
  | c :: rest =>
    match Delimiter.all.find? (·.opening = c), Delimiter.all.find? (·.closing = c) with
    | some d, _ => some (.opens d, rest)
    | none, some d => some (.closes d, rest)
    | none, none => none

/-- Reads one token that is no comment. -/
def token? (s : Text) : Option (Lexeme × Text) :=
  match bracket? s with
  | some read => some read
  | none => match literal? s with
    | some (body, rest) => some (.leaf (.literal body), rest)
    | none => match punctuation? s with
      | some (t, rest) => some (.leaf t, rest)
      | none => (name? s).map fun (name, rest) => (.leaf (.ident name), rest)

/-- Reads lexemes, at most `limit` of them with the blanks and comments between them. -/
def lexemesWithin : Nat → Text → Option (List Lexeme)
  | _, [] => some []
  | 0, _ :: _ => none
  | limit + 1, c :: s =>
    if isSeparator c then lexemesWithin limit s
    else match comment? (c :: s) with
      | some (.plain, rest) => lexemesWithin limit rest
      | some (.documents inner content, rest) =>
        (lexemesWithin limit rest).map (documentation inner content ++ ·)
      | none => do
        let (lexeme, rest) ← token? (c :: s)
        return lexeme :: (← lexemesWithin limit rest)

/-- The lexemes of a text. Each takes a character at least. -/
def lexemes? (s : Text) : Option (List Lexeme) := lexemesWithin s.length s

/-! ## Trees -/

/-- Groups lexemes. `around` holds what is open: its brackets, and what stands before it, last one
first; `here` is what stands in the innermost group so far, last one first. -/
def grouped (around : List (Delimiter × List TokenTree)) (here : List TokenTree) :
    List Lexeme → Option (List TokenTree)
  | [] => if around.isEmpty then some here.reverse else none
  | .leaf t :: rest => grouped around (t :: here) rest
  | .opens d :: rest => grouped ((d, here) :: around) [] rest
  | .closes d :: rest =>
    match around with
    | [] => none
    | (e, before) :: around =>
      if d = e then grouped around (.group d here.reverse :: before) rest else none

/-- The token trees of a text; brackets must match. -/
def tokenTrees? (s : Text) : Option (List TokenTree) := (lexemes? s).bind (grouped [] [])

end MakeHost.Wrapper
