import MakeHost.Number.Integer
import MakeHost.Wrapper.Token

/-!
# Errors of generation

Why no wrapper is generated. The error stands in the place of the generated code and is raised when
that is compiled.
-/

namespace MakeHost.Wrapper

/-- Why no wrapper is generated. -/
inductive WrapperError
  /-- The text is no code. -/
  | unreadable
  /-- Something else was expected, here or where the code ends. -/
  | expected (what : Text)
  | unfinished (what : Text)
  | unexpectedToken
  | keywordName (word : Text)
  /-- A receiver that is not the first parameter; `second` if there was one before. -/
  | receiverBehind (second : Bool)
  | attributeInside
  | unknownOption
  | noString
  | noFlag
  | noInteger
  | integerRange (fault : IntegerType.Fault)
  | otherKey (key : Text)
  | noIdent (key : Text)
  | genericFunction
  | asyncFunction
  | receiver
  | pattern
  | fileModule
  | attributeForm
  /-- The name that a structure would get is none, where generation breaks off. -/
  | structName (name : Text)
deriving DecidableEq

/-- What an option says of itself when it is wrong. -/
def bracketed (s : Text) : Text := "[gnumake] " ++ s

/-- The wording of an error of generation. -/
def WrapperError.message : WrapperError → Text
  | unreadable => "cannot parse string into token stream"
  | expected what => "expected " ++ what
  | unfinished what => "unexpected end of input, expected " ++ what
  | unexpectedToken => "unexpected token"
  | keywordName word => "expected identifier, found keyword \x60" ++ word ++ "\x60"
  | receiverBehind second =>
    if second then "unexpected second method receiver" else "unexpected method receiver"
  | attributeInside => "unexpected attribute inside of attribute"
  | unknownOption =>
    bracketed "expected one of \x60name\x60, \x60expand\x60, \x60min_args\x60, \x60max_args\x60"
  | noString => bracketed "expected a string literal"
  | noFlag => bracketed "expected \x60true\x60 or \x60false\x60"
  | noInteger => bracketed "expected an integer literal"
  | integerRange fault => fault.message
  | otherKey key =>
    bracketed ("expected \x60" ++ key ++ " = identifier\x60, or no arguments")
  | noIdent key => bracketed (key ++ " must be an identifier")
  | genericFunction =>
    bracketed "generic parameters are not supported, elide lifetimes instead"
  | asyncFunction => bracketed "async functions cannot be exported"
  | receiver => bracketed "normal typed argument expected (name: type)"
  | pattern => bracketed "no pattern matching supported in make functions"
  | fileModule =>
    bracketed "make_package requires a module with inline content (not a file module)"
  | attributeForm => bracketed "invalid attribute syntax for \x60#[make_fn]\x60"
  | structName name =>
    if name.isEmpty then "Ident is not allowed to be empty; use Option<Ident>"
    else if name.all Char.isDigit then "Ident cannot be a number; use Literal instead"
    else name.quoted ++ " is not a valid Ident"

/-- What is expected, here or where the code ends. -/
def expectedAt (what : String) (here : List TokenTree) : WrapperError :=
  if here.isEmpty then .unfinished what else .expected what

/-- The code that stands in for generated code. -/
def WrapperError.code (e : WrapperError) : Code :=
  Wrapper.code ": : core : : compile_error ! \x7b" ++ [stringLiteral e.message, ['\x7d']]

/-- The code that generation returns: what is written, or the error in its place. Nothing is
returned where generation breaks off because a structure has no name. -/
def generated? {α : Type} (code : α → Code) : Except WrapperError α → Option Code
  | .ok a => some (code a)
  | .error (.structName _) => none
  | .error e => some e.code

end MakeHost.Wrapper
