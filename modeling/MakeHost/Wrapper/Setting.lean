import MakeHost.Wrapper.Error
import MakeHost.Wrapper.Lexeme
import MakeHost.Wrapper.Literal

/-!
# Options in attributes

An attribute's options are pairs `key = value` with commas between them. They are read from left to
right, and the last value of a key counts.
-/

namespace MakeHost.Wrapper

/-- The value of an option. -/
inductive Setting
  | literal (l : Literal)
  | negated (value : Setting)
  /-- A name on its own. -/
  | ident (name : Text)
  /-- Any other expression. -/
  | other

/-- A pair: its key, if that is a name on its own, and its value. -/
structure Pair where
  key : Option Text
  value : Setting

/-! ## Names -/

/-- The words that are no names. -/
def keywords : List Text :=
  ["_", "abstract", "as", "async", "await", "become", "box", "break", "const", "continue", "crate",
    "do", "dyn", "else", "enum", "extern", "false", "final", "fn", "for", "if", "impl", "in", "let",
    "loop", "macro", "match", "mod", "move", "mut", "override", "priv", "pub", "ref", "return",
    "Self", "self", "static", "struct", "super", "trait", "true", "try", "type", "typeof", "unsafe",
    "unsized", "use", "virtual", "where", "while", "yield"].map String.toList

/-- The keywords that a path may hold. -/
def pathKeywords : List Text := ["super", "self", "Self", "crate"].map String.toList

/-- Whether a name may stand in a path. -/
def isPathName (name : Text) : Bool := !keywords.contains name || pathKeywords.contains name

/-- Why a name is missing here. -/
def noNameError : List TokenTree → WrapperError
  | [] => .unfinished "identifier"
  | .ident name :: _ =>
    if keywords.contains name then .keywordName name else .expected "identifier"
  | _ => .expected "identifier"

/-- Whether tokens begin with two colons. -/
def startsColons : List TokenTree → Bool
  | .punct ':' true :: .punct ':' _ :: _ => true
  | _ => false

/-- Whether tokens begin with a name that may stand in a path. -/
def startsName : List TokenTree → Bool
  | .ident name :: _ => isPathName name
  | _ => false

/-- Reads the names of a path with colons between them; a name must follow colons. -/
def readNames : List TokenTree → Except WrapperError (List Text × List TokenTree)
  | .ident name :: .punct ':' true :: .punct ':' _ :: rest =>
    if startsName rest then do
      let (names, rest) ← readNames rest
      return (name :: names, rest)
    else .error (expectedAt "path segment after \x60::\x60" rest)
  | .ident name :: rest => .ok ([name], rest)
  | here => .error (noNameError here)

/-- Reads a path without leading colons. -/
def readPath (here : List TokenTree) : Except WrapperError (List Text × List TokenTree) :=
  if startsName here then readNames here else .error (noNameError here)

/-- Reads the key of a pair. -/
def readKey (here : List TokenTree) : Except WrapperError (Option Text × List TokenTree) :=
  match here with
  | .punct ':' true :: .punct ':' _ :: rest => do
    let (_, rest) ← readPath rest
    return (none, rest)
  | here => do
    let (names, rest) ← readPath here
    return (if let [name] := names then some name else none, rest)

/-! ## Values -/

/-- What follows up to the next comma. -/
def fromComma (here : List TokenTree) : List TokenTree := here.dropWhile (!·.isPunct ',')

/-- The punctuation that continues an expression. -/
def operators : List Char := ".?+-*/%^&|<>=!".toList

/-- A value that was read, unless the expression goes on behind it. -/
def whole (value : Setting) (here : List TokenTree) : Setting × List TokenTree :=
  match here with
  | .punct c _ :: _ => if operators.contains c then (.other, fromComma here) else (value, here)
  | .group .brace _ :: _ => (value, here)
  | .group _ _ :: _ => (.other, fromComma here)
  | .ident name :: _ => if name = "as".toList then (.other, fromComma here) else (value, here)
  | _ => (value, here)

/-- Reads an expression that begins with a name. -/
def readNamed (name : Text) (rest : List TokenTree) : Setting × List TokenTree :=
  if name = "true".toList then whole (.literal (.flag true)) rest
  else if name = "false".toList then whole (.literal (.flag false)) rest
  else if !isPathName name || startsColons rest then (.other, fromComma rest)
  else match rest with
    | .group .brace _ :: _ => (.other, fromComma rest)
    | rest => whole (.ident name) rest

/-- Reads an expression. -/
def readExpression : List TokenTree → Except WrapperError (Setting × List TokenTree)
  | .punct '-' _ :: rest => do
    let (value, rest) ← readExpression rest
    return (.negated value, rest)
  | .punct '!' _ :: rest => do
    let (_, rest) ← readExpression rest
    return (.other, rest)
  | .literal s :: rest => .ok (whole (.literal (.ofText s)) rest)
  | .ident name :: rest => .ok (readNamed name rest)
  | .group _ _ :: rest => .ok (whole .other rest)
  | .punct c j :: rest =>
    if ['&', '*', '|', '<', '.', ':', '#', '\''].contains c then
      .ok (.other, fromComma (.punct c j :: rest))
    else .error (.expected "an expression")
  | [] => .error (.unfinished "an expression")

/-- Reads a value. A sign directly before a number that ends the options belongs to the number. -/
def readValue (here : List TokenTree) : Except WrapperError (Setting × List TokenTree) :=
  match here with
  | [.punct '-' _, .literal s] =>
    match Literal.ofText s with
    | .int n => .ok (.literal (.int (-n)), [])
    | _ => readExpression here
  | .punct '#' _ :: .group .bracket _ :: _ =>
    .error .attributeInside
  | here => readExpression here

/-! ## Pairs -/

/-- Reads a pair. -/
def readPair (here : List TokenTree) : Except WrapperError (Pair × List TokenTree) := do
  let (key, rest) ← readKey here
  match rest with
  | .punct '=' _ :: rest => do
    let (value, rest) ← readValue rest
    return (⟨key, value⟩, rest)
  | _ => throw (.expected "\x60=\x60")

/-- Reads at most so many pairs; a comma may follow the last one. -/
def readPairs : Nat → List TokenTree → Except WrapperError (List Pair)
  | _, [] => .ok []
  | 0, _ => .ok []
  | limit + 1, here => do
    let (pair, rest) ← readPair here
    match rest with
    | [] => return [pair]
    | .punct ',' _ :: rest => return pair :: (← readPairs limit rest)
    | _ => throw (.expected "\x60,\x60")

/-- The pairs of an attribute. -/
def pairs (tokens : List TokenTree) : Except WrapperError (List Pair) :=
  readPairs tokens.length tokens

/-! ## What options say -/

namespace Setting

/-- The text of a string option. -/
def toText : Setting → Except WrapperError Text
  | literal (.str s) => .ok s
  | _ => .error .noString

/-- The value of a flag option. -/
def toFlag : Setting → Except WrapperError Bool
  | literal (.flag b) => .ok b
  | _ => .error .noFlag

/-- A whole number, which must fit 64 bits. -/
def fitting (n : Int) : Except WrapperError Int :=
  if IntegerType.signed64.high < n then .error (.integerRange .tooLarge)
  else if n < IntegerType.signed64.low then .error (.integerRange .tooSmall)
  else .ok n

/-- The value of an integer option. -/
def toInteger : Setting → Except WrapperError Int
  | literal (.int n) => fitting n
  | negated value => (- ·) <$> value.toInteger
  | _ => .error .noInteger

end Setting

/-- What an attribute says of a function. -/
structure FunctionOptions where
  name : Option Text
  expand : Option Bool
  minArgs : Option Int
  maxArgs : Option Int
deriving DecidableEq

namespace FunctionOptions

/-- Nothing is said. -/
def none : FunctionOptions := ⟨.none, .none, .none, .none⟩

/-- What is said when a pair is added. -/
def add (options : FunctionOptions) (pair : Pair) : Except WrapperError FunctionOptions := do
  let key := pair.key.getD []
  if key = "name".toList then return { options with name := some (← pair.value.toText) }
  else if key = "expand".toList then return { options with expand := some (← pair.value.toFlag) }
  else if key = "min_args".toList then
    return { options with minArgs := some (← pair.value.toInteger) }
  else if key = "max_args".toList then
    return { options with maxArgs := some (← pair.value.toInteger) }
  else throw .unknownOption

/-- The options of a function. -/
def ofTokens (tokens : List TokenTree) : Except WrapperError FunctionOptions := do
  (← pairs tokens).foldlM add none

/-- The options in a text. -/
def ofText (s : Text) : Except WrapperError FunctionOptions :=
  match tokenTrees? s with
  | some tokens => ofTokens tokens
  | .none => .error .unreadable

end FunctionOptions

/-- The last name given for the one key that is allowed. -/
def identOption (key : Text) (tokens : List TokenTree) : Except WrapperError (Option Text) := do
  (← pairs tokens).foldlM (fun _ pair => named pair) none
where
  /-- The name that a pair gives. -/
  named (pair : Pair) : Except WrapperError (Option Text) :=
    if pair.key ≠ some key then .error (.otherKey key)
    else match pair.value with
      | .ident name => .ok (some name)
      | _ => .error (.noIdent key)

/-- The last name given in a text. -/
def identOptionOfText (key s : Text) : Except WrapperError (Option Text) :=
  match tokenTrees? s with
  | some tokens => identOption key tokens
  | none => .error .unreadable

end MakeHost.Wrapper
