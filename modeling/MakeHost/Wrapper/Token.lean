import MakeHost.Text.Quoted

/-!
# Tokens

The Rust code that wrappers are generated from and the code that is generated are token trees:
names, punctuation, literals, and groups in brackets. Code is written down as the list of its
tokens' texts, in which the brackets of a group are tokens too.
-/

namespace MakeHost.Wrapper

/-- The brackets around a group. -/
inductive Delimiter
  | parenthesis
  | bracket
  | brace
deriving DecidableEq

namespace Delimiter

/-- The bracket in front of a group. -/
def opening : Delimiter → Char
  | parenthesis => '('
  | bracket => '['
  | brace => '\x7b'

/-- The bracket behind a group. -/
def closing : Delimiter → Char
  | parenthesis => ')'
  | bracket => ']'
  | brace => '\x7d'

/-- All brackets. -/
def all : List Delimiter := [parenthesis, bracket, brace]

end Delimiter

/-- A token, or a group of tokens in brackets. -/
inductive TokenTree
  | ident (name : Text)
  /-- A punctuation character; a joint one stands directly before another. -/
  | punct (c : Char) (joint : Bool)
  /-- A literal as it is written. -/
  | literal (s : Text)
  | group (d : Delimiter) (inner : List TokenTree)

instance : Inhabited TokenTree := ⟨.ident []⟩

/-- Code as the texts of its tokens. -/
abbrev Code := List Text

namespace TokenTree

mutual

/-- The texts of a token tree. -/
def texts : TokenTree → Code
  | ident name => [name]
  | punct c _ => [[c]]
  | literal s => [s]
  | group d inner => [d.opening] :: textsAll inner ++ [[d.closing]]

/-- The texts of token trees in a row. -/
def textsAll : List TokenTree → Code
  | [] => []
  | t :: rest => t.texts ++ textsAll rest

end

/-- Whether a tree is this name. -/
def isIdent (t : TokenTree) (name : String) : Bool :=
  match t with
  | ident s => s == name.toList
  | _ => false

/-- Whether a tree is this punctuation character. -/
def isPunct (t : TokenTree) (c : Char) : Bool :=
  match t with
  | punct d _ => d == c
  | _ => false

/-- Whether a tree is a group in these brackets. -/
def isGroup (t : TokenTree) (d : Delimiter) : Bool :=
  match t with
  | group e _ => e == d
  | _ => false

end TokenTree

/-- The string literal of a text. A NUL before a digit is written so that the digit does not run
into it. -/
def stringLiteral (s : Text) : Text := '"' :: body s ++ ['"']
where
  /-- What stands between the quotes. -/
  body : Text → Text
    | [] => []
    | '\'' :: s => '\'' :: body s
    | '\x00' :: s =>
      (if s.head?.any fun c => '0' ≤ c ∧ c ≤ '7' then "\\x00".toList else "\\0".toList) ++ body s
    | c :: s => Text.shownWithin '"' c ++ body s

/-- Code given as its tokens with single spaces between them. -/
def code (s : String) : Code := Text.splitAround ' ' s.toList

/-- Code as one line of text. -/
def Code.line (tokens : Code) : Text := Text.unwords tokens

end MakeHost.Wrapper
