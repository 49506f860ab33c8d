import MakeHost.Wrapper.Lexeme
import MakeHost.Wrapper.Setting

/-!
# Function and module items

The items that wrappers are generated from, as far as generation looks at them: a function's
attributes, visibility, name, parameters and result type, and a module's items. What stands inside a
body is kept as it is.
-/

namespace MakeHost.Wrapper

/-! ## How code is written -/

/-- How parts of code are written again once they were read. The syntax library that reads them
decides it: it may leave out tokens that say nothing, and put others in an order of its own. -/
structure Printer where
  /-- What stands between the brackets of an attribute. -/
  mark : List TokenTree → List TokenTree
  type : List TokenTree → List TokenTree
  item : List TokenTree → List TokenTree

namespace Printer

/-- Everything as it was read. -/
def asRead : Printer := ⟨id, id, id⟩

/-- The code of a type. -/
def typeCode (print : Printer) (type : List TokenTree) : Code :=
  TokenTree.textsAll (print.type type)

/-- The code of an item. -/
def itemCode (print : Printer) (item : List TokenTree) : Code :=
  TokenTree.textsAll (print.item item)

end Printer

/-! ## Attributes -/

/-- An attribute. -/
structure Attribute where
  /-- Whether it stands inside of what it says something of. -/
  inner : Bool
  content : List TokenTree

namespace Attribute

/-- The tokens of an attribute. -/
def tokens (a : Attribute) : List TokenTree :=
  [.punct '#' false] ++ (if a.inner then [.punct '!' false] else []) ++ [.group .bracket a.content]

/-- The tokens of an attribute as it is written again. -/
def written (print : Printer) (a : Attribute) : List TokenTree :=
  tokens { a with content := print.mark a.content }

/-- The tokens in the brackets of the attribute with this name, none when it has no brackets;
absent when the attribute is another one. -/
def arguments? (a : Attribute) (name : String) : Except WrapperError (Option (List TokenTree)) :=
  match a.content with
  | [t] => .ok (if t.isIdent name then some [] else none)
  | t :: .group _ inner :: _ => .ok (if t.isIdent name then some inner else none)
  | t :: .punct '=' _ :: _ => if t.isIdent name then .error .attributeForm else .ok none
  | _ => .ok none

end Attribute

/-- Splits off the attributes in front. -/
def outerAttributes : List TokenTree → List Attribute × List TokenTree
  | .punct '#' _ :: .group .bracket content :: rest =>
    let (attributes, rest) := outerAttributes rest
    (⟨false, content⟩ :: attributes, rest)
  | rest => ([], rest)

/-- Splits off the inner attributes in front of what a body holds. -/
def innerAttributes : List TokenTree → List Attribute × List TokenTree
  | .punct '#' _ :: .punct '!' _ :: .group .bracket content :: rest =>
    let (attributes, rest) := innerAttributes rest
    (⟨true, content⟩ :: attributes, rest)
  | rest => ([], rest)

/-- The arguments of the first attribute with this name. -/
def findArguments (attributes : List Attribute) (name : String) :
    Except WrapperError (Option (List TokenTree)) :=
  match attributes with
  | [] => .ok none
  | a :: rest => do
    match ← a.arguments? name with
    | some inner => return some inner
    | none => findArguments rest name

/-! ## Parts of items -/

/-- Whether the tokens in brackets behind `pub` say where an item can be seen. -/
def isRestriction : List TokenTree → Bool
  | [.ident name] => ["crate", "self", "super"].any fun word => name = word.toList
  | .ident ['i', 'n'] :: _ :: _ => true
  | _ => false

/-- Splits off the visibility. -/
def visibility : List TokenTree → List TokenTree × List TokenTree
  | .ident name :: rest =>
    if name ≠ "pub".toList then ([], .ident name :: rest)
    else match rest with
      | .group .parenthesis inner :: rest =>
        if isRestriction inner then ([.ident name, .group .parenthesis inner], rest)
        else ([.ident name], .group .parenthesis inner :: rest)
      | rest => ([.ident name], rest)
  | rest => ([], rest)

/-- Splits off a word if it is there. -/
def word? (word : String) : List TokenTree → Bool × List TokenTree
  | t :: rest => if t.isIdent word then (true, rest) else (false, t :: rest)
  | [] => (false, [])

/-- Splits off a foreign calling convention if it is there. -/
def convention (here : List TokenTree) : List TokenTree :=
  match word? "extern" here with
  | (true, .literal _ :: rest) => rest
  | (_, rest) => rest

/-- Splits tokens where angle brackets that are open at the front are closed. `arrow` says that the
token before is the front of an arrow. -/
def closeAngles (depth : Nat) (arrow : Bool) :
    List TokenTree → Option (List TokenTree × List TokenTree)
  | [] => none
  | t :: rest =>
    let next (depth : Nat) (arrow : Bool) := closeAngles depth arrow rest
    let keep (read : Option (List TokenTree × List TokenTree)) :=
      read.map fun (front, back) => (t :: front, back)
    match t with
    | .punct '<' _ => keep (next (depth + 1) false)
    | .punct '>' _ =>
      if arrow then keep (next depth false)
      else match depth with
        | 0 => some ([], rest)
        | depth + 1 => keep (next depth false)
    | .punct c joint => keep (next depth (joint && (c = '-' || c = '=')))
    | _ => keep (next depth false)

/-- Splits tokens at commas outside of angle brackets; a comma at the end separates nothing. -/
def splitCommas (depth : Nat) (arrow : Bool) : List TokenTree → List (List TokenTree)
  | [] => []
  | t :: rest =>
    let keep (pieces : List (List TokenTree)) := match pieces with
      | [] => [[t]]
      | piece :: pieces => (t :: piece) :: pieces
    match t with
    | .punct ',' _ =>
      if depth = 0 then [] :: splitCommas 0 false rest else keep (splitCommas depth false rest)
    | .punct '<' _ => keep (splitCommas (depth + 1) false rest)
    | .punct '>' _ => keep (splitCommas (if arrow then depth else depth - 1) false rest)
    | .punct c joint => keep (splitCommas depth (joint && (c = '-' || c = '=')) rest)
    | _ => keep (splitCommas depth false rest)

/-! ## Types -/

/-- A type that is a path: its last name, and the tokens in the angle brackets behind that. -/
structure PathType where
  last : Text
  arguments : Option (List TokenTree)

/-- Reads a path from behind its leading colons; at most so many names are read. -/
def pathTypeWithin : Nat → List TokenTree → Option PathType
  | limit + 1, .ident name :: rest =>
    if !isPathName name then none
    else
      let rest : List TokenTree := match rest with
        | .punct ':' true :: .punct ':' _ :: .punct '<' k :: rest => .punct '<' k :: rest
        | rest => rest
      let arguments : Option (Option (List TokenTree) × List TokenTree) := match rest with
        | .punct '<' _ :: rest => (closeAngles 0 false rest).map fun (a, rest) => (some a, rest)
        | .group .parenthesis _ :: .punct '-' _ :: .punct '>' _ :: _ => none
        | .group .parenthesis _ :: rest => some (none, rest)
        | rest => some (none, rest)
      match arguments with
      | none => none
      | some (arguments, []) => some ⟨name, arguments⟩
      | some (_, .punct ':' true :: .punct ':' _ :: rest) => pathTypeWithin limit rest
      | some _ => none
  | _, _ => none

/-- The path that a type is. -/
def pathType? (type : List TokenTree) : Option PathType :=
  match type with
  | .punct ':' true :: .punct ':' _ :: rest => pathTypeWithin type.length rest
  | .punct '<' _ :: rest =>
    match closeAngles 0 false rest with
    | some (_, .punct ':' true :: .punct ':' _ :: rest) => pathTypeWithin type.length rest
    | _ => none
  | rest => pathTypeWithin type.length rest

/-- Whether a generic argument is a type. -/
def isTypeArgument : List TokenTree → Bool
  | [] => false
  | .punct '\'' _ :: _ => false
  | .literal _ :: _ => false
  | .punct '-' _ :: _ => false
  | .group .brace _ :: _ => false
  | .ident name :: rest =>
    !(["true".toList, "false".toList].contains name) && match rest with
      | .punct '=' _ :: _ => false
      | .punct ':' joint :: _ => joint
      | _ => true
  | _ => true

/-- The type of success of a type `Result`. -/
def successType? (type : List TokenTree) : Option (List TokenTree) := do
  let path ← pathType? type
  if path.last ≠ "Result".toList then none
  else match splitCommas 0 false (← path.arguments) with
    | first :: _ => if isTypeArgument first then some first else none
    | [] => none

/-- Whether a type is a reference to the context of a call. -/
def isContextType (type : List TokenTree) : Bool :=
  match type with
  | .punct '&' _ :: rest =>
    let rest := match rest with
      | .punct '\'' _ :: .ident _ :: rest => rest
      | rest => rest
    match pathType? (word? "mut" rest).2 with
    | some path => path.last = "CallContext".toList
    | none => false
  | _ => false

/-! ## Parameters -/

/-- A parameter of a function. -/
inductive Parameter
  /-- The value that a method belongs to. -/
  | receiver
  | typed (name : Text) (type : List TokenTree)
  /-- A parameter whose pattern is no name. -/
  | pattern

/-- Whether tokens begin with three points. -/
def startsEllipsis : List TokenTree → Bool
  | .punct '.' true :: .punct '.' true :: .punct '.' _ :: _ => true
  | _ => false

/-- Whether tokens are a receiver: `self`, maybe changeable, maybe a reference, maybe with a
type. -/
def isReceiver (tokens : List TokenTree) : Bool :=
  let tokens := match tokens with
    | .punct '&' _ :: .punct '\'' _ :: .ident _ :: rest => rest
    | .punct '&' _ :: rest => rest
    | rest => rest
  match (word? "mut" tokens).2 with
  | [t] => t.isIdent "self"
  | t :: .punct ':' joint :: type => t.isIdent "self" && !joint && !startsEllipsis type
  | _ => false

/-- Splits a parameter at the colon between its pattern and its type. -/
def splitColon : List TokenTree → Option (List TokenTree × List TokenTree)
  | [] => none
  | .punct ':' true :: .punct ':' j :: rest =>
    (splitColon rest).map fun (pattern, type) =>
      (.punct ':' true :: .punct ':' j :: pattern, type)
  | .punct ':' _ :: rest => some ([], rest)
  | t :: rest => (splitColon rest).map fun (pattern, type) => (t :: pattern, type)

/-- The name that a pattern binds, if it is a name. -/
def boundName? (pattern : List TokenTree) : Option Text :=
  match (word? "mut" (word? "ref" pattern).2).2 with
  | [.ident name] => if keywords.contains name then none else some name
  | .ident name :: .punct '@' _ :: _ => if keywords.contains name then none else some name
  | _ => none

/-- Whether tokens begin with a name and an angle bracket, as a type does that has no pattern before
it. -/
def startsBareType : List TokenTree → Bool
  | .ident name :: .punct '<' _ :: _ => !keywords.contains name
  | _ => false

/-- What is read at the place of a parameter. -/
inductive ParameterPlace
  | parameter (p : Parameter)
  /-- Three points, maybe with a pattern: what foreign callers may pass beyond the parameters. -/
  | variadic

/-- Reads three points that tokens begin with. A comma may follow them, and nothing else. -/
def readEllipsis (tokens : List TokenTree) : Except WrapperError ParameterPlace :=
  match tokens.drop 3 with
  | [] => .ok .variadic
  | _ => .error (.expected "\x60,\x60")

/-- Reads what stands at the place of a parameter. -/
def readPlace (tokens : List TokenTree) : Except WrapperError ParameterPlace :=
  let (_, tokens) := outerAttributes tokens
  if startsEllipsis tokens then readEllipsis tokens
  else if isReceiver tokens then .ok (.parameter .receiver)
  else if startsBareType tokens then .ok (.parameter .pattern)
  else match splitColon tokens with
    | none => .error (.expected "\x60:\x60")
    | some (pattern, type) =>
      if startsEllipsis type then readEllipsis type
      else match boundName? pattern with
        | some name => .ok (.parameter (.typed name type))
        | none => .ok (.parameter .pattern)

/-- Reads parameters; a receiver must be the first. Nothing is read behind three points: with the
parameters stands whether something is left there. -/
def readParameters (first seen : Bool) :
    List (List TokenTree) → Except WrapperError (List Parameter × Bool)
  | [] => .ok ([], false)
  | tokens :: rest => do
    match ← readPlace tokens with
    | .variadic => return ([], !rest.isEmpty)
    | .parameter .receiver => do
      if !first then throw (.receiverBehind seen)
      let (parameters, left) ← readParameters false true rest
      return (.receiver :: parameters, left)
    | .parameter p => do
      let (parameters, left) ← readParameters false seen rest
      return (p :: parameters, left)

/-! ## Items -/

/-- A function. -/
structure FunctionItem where
  attributes : List Attribute
  visibility : List TokenTree
  isAsync : Bool
  name : Text
  generics : List TokenTree
  parameters : List Parameter
  /-- The type of the result, if one is written. -/
  result : Option (List TokenTree)
  /-- The whole item. -/
  tokens : List TokenTree

/-- Reads a name that is no keyword. -/
def readName : List TokenTree → Except WrapperError (Text × List TokenTree)
  | .ident name :: rest =>
    if keywords.contains name then .error (.keywordName name) else .ok (name, rest)
  | here => .error (expectedAt "identifier" here)

/-- Reads the tokens of generic parameters, none when there are no angle brackets. -/
def readGenerics (here : List TokenTree) :
    Except WrapperError (List TokenTree × List TokenTree) :=
  match here with
  | .punct '<' _ :: rest =>
    match closeAngles 0 false rest with
    | some read => .ok read
    | none => .error (.unfinished "\x60>\x60")
  | rest => .ok ([], rest)

/-- Splits off the type of a result: outside of angle brackets it ends at a `where` clause or at the
body. -/
def splitResult (depth : Nat) (arrow : Bool) : List TokenTree → List TokenTree × List TokenTree
  | [] => ([], [])
  | t :: rest =>
    if depth = 0 && (t.isIdent "where" || t.isGroup .brace || t.isPunct ';') then ([], t :: rest)
    else
      let (type, rest) := match t with
        | .punct '<' _ => splitResult (depth + 1) false rest
        | .punct '>' _ => splitResult (if arrow then depth else depth - 1) false rest
        | .punct c joint => splitResult depth (joint && (c = '-' || c = '=')) rest
        | _ => splitResult depth false rest
      (t :: type, rest)

/-- Reads the type of a result. -/
def readResult : List TokenTree → Option (List TokenTree) × List TokenTree
  | .punct '-' true :: .punct '>' _ :: rest =>
    let (type, rest) := splitResult 0 false rest
    (some type, rest)
  | rest => (none, rest)

/-- Drops a `where` clause. -/
def dropClause (here : List TokenTree) : List TokenTree :=
  match word? "where" here with
  | (true, rest) => (splitResult 0 false rest).2
  | (false, rest) => rest

/-- What stands before the parameters of a function. -/
structure FunctionHead where
  attributes : List Attribute
  visibility : List TokenTree
  isAsync : Bool
  /-- What follows the word `fn`. -/
  rest : List TokenTree

/-- Reads the attributes of an item; inner ones may not stand before it. -/
def readAttributes (tokens : List TokenTree) :
    Except WrapperError (List Attribute × List TokenTree) :=
  match outerAttributes tokens with
  | (_, .punct '#' _ :: here) => .error (expectedAt "square brackets" here)
  | read => .ok read

/-- Reads a function up to the word `fn`. -/
def functionHead (tokens : List TokenTree) : Except WrapperError FunctionHead := do
  let (attributes, rest) ← readAttributes tokens
  let (visible, rest) := visibility rest
  let (_, rest) := word? "const" rest
  let (isAsync, rest) := word? "async" rest
  let (_, rest) := word? "unsafe" rest
  let rest := convention rest
  match word? "fn" rest with
  | (true, rest) => return ⟨attributes, visible, isAsync, rest⟩
  | (false, here) => throw (expectedAt "\x60fn\x60" here)

/-- Reads a function. -/
def FunctionItem.ofTokens (tokens : List TokenTree) : Except WrapperError FunctionItem := do
  let head ← functionHead tokens
  let (name, rest) ← readName head.rest
  let (generics, rest) ← readGenerics rest
  match rest with
  | .group .parenthesis inner :: rest => do
    let (parameters, left) ← readParameters true false (splitCommas 0 false inner)
    let (result, rest) := readResult rest
    match dropClause rest with
    | [.group .brace body] => do
      if left then throw .unexpectedToken
      return ⟨head.attributes ++ (innerAttributes body).1, head.visibility, head.isAsync, name,
        generics, parameters, result, tokens⟩
    | .group .brace _ :: _ => throw .unexpectedToken
    | here => throw (expectedAt "curly braces" here)
  | here => throw (expectedAt "parentheses" here)

/-- The function in a text. -/
def FunctionItem.ofText (s : Text) : Except WrapperError FunctionItem :=
  match tokenTrees? s with
  | some tokens => ofTokens tokens
  | none => .error .unreadable

/-! ## Modules -/

/-- An item of a module: a function with its attributes and its name, or another item. -/
inductive Member
  | function (attributes : List Attribute) (name : Text)
  | other

/-- The words that begin an item which ends in a semicolon. -/
def endedBySemicolon (tokens : List TokenTree) : Bool :=
  match (visibility (outerAttributes tokens).2).2 with
  | .ident name :: rest =>
    if name = "const".toList then
      match rest with
      | .ident next :: _ =>
        !(["fn".toList, "async".toList, "unsafe".toList, "extern".toList].contains next)
      | _ => true
    else if name = "extern".toList then rest.head?.any (·.isIdent "crate")
    else ["use".toList, "static".toList, "type".toList].contains name
  | _ => false

/-- Splits off the tokens of one item: up to a semicolon, or up to a body in braces outside of
angle brackets. `arrow` says that the token before is the front of an arrow. -/
def splitItem (semicolon : Bool) (depth : Nat) (arrow : Bool) :
    List TokenTree → List TokenTree × List TokenTree
  | [] => ([], [])
  | t :: rest =>
    if t.isPunct ';' || (!semicolon && depth = 0 && t.isGroup .brace) then ([t], rest)
    else
      let (item, rest) := match t with
        | .punct '<' _ => splitItem semicolon (depth + 1) false rest
        | .punct '>' _ => splitItem semicolon (if arrow then depth else depth - 1) false rest
        | .punct c joint => splitItem semicolon depth (joint && (c = '-' || c = '=')) rest
        | _ => splitItem semicolon depth false rest
      (t :: item, rest)

/-- The items of a module, at most so many. -/
def itemsWithin : Nat → List TokenTree → List (List TokenTree)
  | _, [] => []
  | 0, _ => []
  | limit + 1, here =>
    let (item, rest) := splitItem (endedBySemicolon here) 0 false here
    item :: itemsWithin limit rest

/-- The items that a module holds, each with its tokens. -/
def itemsOf (content : List TokenTree) : List (List TokenTree) :=
  itemsWithin content.length content

/-- What an item of a module is. -/
def Member.ofTokens (tokens : List TokenTree) : Member :=
  match functionHead tokens, tokens.getLast? with
  | .ok head, some (.group .brace body) =>
    match readName head.rest with
    | .ok (name, _) => .function (head.attributes ++ (innerAttributes body).1) name
    | .error _ => .other
  | _, _ => .other

/-- What the items that a module holds are. -/
def membersOf (content : List TokenTree) : List Member := (itemsOf content).map Member.ofTokens

/-- A module: its items are absent when they stand in another file. -/
structure ModuleItem where
  attributes : List Attribute
  visibility : List TokenTree
  name : Text
  content : Option (List TokenTree)

/-- Reads the name of a module, which may be the keyword `try`. -/
def readModuleName : List TokenTree → Except WrapperError (Text × List TokenTree)
  | .ident name :: rest =>
    if name = "try".toList then .ok (name, rest) else readName (.ident name :: rest)
  | here => readName here

/-- Reads a module. -/
def ModuleItem.ofTokens (tokens : List TokenTree) : Except WrapperError ModuleItem := do
  let (outer, rest) ← readAttributes tokens
  let (visible, rest) := Wrapper.visibility rest
  let (_, rest) := word? "unsafe" rest
  match word? "mod" rest with
  | (false, here) => throw (expectedAt "\x60mod\x60" here)
  | (true, rest) => do
    let (name, rest) ← readModuleName rest
    match rest with
    | [.punct ';' _] => return ⟨outer, visible, name, none⟩
    | [.group .brace body] =>
      let (inner, content) := innerAttributes body
      return ⟨outer ++ inner, visible, name, some content⟩
    | .punct ';' _ :: _ | .group .brace _ :: _ => throw .unexpectedToken
    | here => throw (expectedAt "\x60;\x60 or curly braces" here)

/-- The module in a text. -/
def ModuleItem.ofText (s : Text) : Except WrapperError ModuleItem :=
  match tokenTrees? s with
  | some tokens => ofTokens tokens
  | none => .error .unreadable

end MakeHost.Wrapper
