import MakeHost.Wrapper.Item

/-!
# Wrappers of functions

A function that is marked for export stays as it is, and a structure of its own is written behind
it: calling that takes the arguments apart, calls the function and hands over its result, and asking
it tells the function's contract.
-/

namespace MakeHost.Wrapper

/-! ## The name of the structure -/

/-- Words with underscores between them as one word: underscores go, and the ASCII letters behind
them, and at the front, are capitals. `capital` says whether the next letter is one. -/
def pascalFrom (capital : Bool) : Text → Text
  | [] => []
  | c :: s =>
    if c = '_' then pascalFrom true s
    else (if capital then c.toUpper else c) :: pascalFrom false s

/-- The name in which each word has a capital. -/
def pascalCase (s : Text) : Text := pascalFrom true s

/-- Whether a text can be a name in code. -/
def isName : Text → Bool
  | [] => false
  | c :: s => Text.isIdentifierStart c && s.all Text.isIdentifierContinue

/-- The name of the structure that wraps a function. -/
def structName (function : Text) : Except WrapperError Text :=
  let name := pascalCase function
  if isName name then .ok name else .error (.structName name)

/-! ## Wrappers -/

/-- A wrapper that is to be written. -/
structure FunctionWrapper where
  /-- The function as it was read. -/
  item : List TokenTree
  visibility : List TokenTree
  function : Text
  struct : Text
  options : FunctionOptions
  /-- Whether the function takes the context of the call. -/
  context : Bool
  /-- The parameters that make passes: their names and types. -/
  parameters : List (Text × List TokenTree)
  /-- The type of the result, of success if the function can fail. -/
  result : List TokenTree
  fallible : Bool

namespace FunctionWrapper

/-- The parameters that make passes, and whether the context is the first. -/
def passed (first : Bool) :
    List Parameter → Except WrapperError (Bool × List (Text × List TokenTree))
  | [] => .ok (false, [])
  | .receiver :: _ => .error .receiver
  | .pattern :: _ => .error .pattern
  | .typed name type :: rest => do
    let (_, parameters) ← passed false rest
    if first && isContextType type then return (true, parameters)
    else return (false, (name, type) :: parameters)

/-- The type of the result of a function that writes none. -/
def unitType : List TokenTree := [.group .parenthesis []]

/-- The wrapper of a function. -/
def ofItem (item : FunctionItem) (options : FunctionOptions) :
    Except WrapperError FunctionWrapper := do
  if !item.generics.isEmpty then throw .genericFunction
  if item.isAsync then throw .asyncFunction
  let (context, parameters) ← passed true item.parameters
  let struct ← structName item.name
  let result := item.result.getD unitType
  let success := successType? result
  return ⟨item.tokens, item.visibility, item.name, struct, options, context, parameters,
    success.getD result, success.isSome⟩

/-- The name in make: the one given, else the function's own. -/
def makeName (w : FunctionWrapper) : Text := w.options.name.getD w.function

/-- The code of a count. -/
def countCode (n : Nat) : Code := [Text.ofNat n ++ "usize"]

/-- The code of a bound that may be given. -/
def boundCode : Option Int → Code
  | none => code ": : core : : option : : Option : : None"
  | some n =>
    code ": : core : : option : : Option : : Some (" ++ (if n < 0 then [['-']] else []) ++
      [Text.ofNat n.natAbs ++ "i64"] ++ [[')']]

/-- The text that documents the structure. -/
def documentation (w : FunctionWrapper) : Text :=
  "The make function \x60" ++ w.makeName ++ "\x60, exported from [\x60" ++ w.function ++ "\x60]."

/-- The code that takes the parameters out of the arguments; `i` is the next position. -/
def extractions (print : Printer) (i : Nat) : List (Text × List TokenTree) → Code
  | [] => []
  | (name, type) :: rest =>
    code "let" ++ [name] ++ code ":" ++ print.typeCode type ++
      code "= : : gnumake_core : : arity : : FromArg : : from_args ( __args ," ++ countCode i ++
      code ") ;" ++ extractions print (i + 1) rest

/-- Codes with commas between them. -/
def commaSeparated (codes : List Code) : Code := [[',']].intercalate codes

/-- The code that calls the function. -/
def callCode (w : FunctionWrapper) : Code :=
  let names := commaSeparated (w.parameters.map fun (name, _) => [name])
  [w.function] ++ code "(" ++ (if w.context then code "__ctx ," else []) ++ names ++ code ")"

/-- The code that takes the result of the call. -/
def resultCode (print : Printer) (w : FunctionWrapper) : Code :=
  code "let __ok_result :" ++ print.typeCode w.result ++ code "=" ++
    if w.fallible then
      code "match __call_result \x7b" ++
      code ": : core : : result : : Result : : Ok ( value ) = > value ," ++
      code ": : core : : result : : Result : : Err ( err ) = > \x7b return" ++
      code ": : core : : result : : Result : : Err (" ++
      code ": : core : : convert : : Into : : < : : gnumake_core : : error : : CallError > : : into" ++
      code "( err ) , ) ; \x7d \x7d ;"
    else code "__call_result ;"

/-- The code of the function that answers a call. -/
def answerCode (print : Printer) (w : FunctionWrapper) : Code :=
  code "# [ allow ( unused_variables ) ] fn call ( & self ," ++
  code "__ctx : & : : gnumake_core : : bridge : : CallContext < ' _ > ," ++
  code "__args : & [ : : std : : string : : String ] , ) - >" ++
  code ": : core : : result : : Result < : : gnumake_core : : codec : : MakeValue ," ++
  code ": : gnumake_core : : error : : CallError , > \x7b" ++
  extractions print 0 w.parameters ++
  code "let __call_result =" ++ w.callCode ++ code ";" ++ w.resultCode print ++
  code ": : core : : result : : Result : : Ok (" ++
  code ": : gnumake_core : : codec : : IntoMakeValue : : into_make_value ( __ok_result ) , ) \x7d"

/-- The code of the kind of a parameter with this type. -/
def kindCode (print : Printer) (type : List TokenTree) : Code :=
  code "<" ++ print.typeCode type ++ code "as : : gnumake_core : : arity : : FromArg < ' _ > > : : KIND"

/-- The code that tells the contract. -/
def contractCode (print : Printer) (w : FunctionWrapper) : Code :=
  code "fn name ( & self ) - > & ' static str \x7b" ++ [stringLiteral w.makeName] ++ code "\x7d" ++
  code "fn signature ( & self ) - > : : gnumake_core : : arity : : Signature \x7b" ++
  code "let __kinds : [ : : gnumake_core : : arity : : ParamKind ;" ++
  countCode w.parameters.length ++ code "] = [" ++
  commaSeparated (w.parameters.map fun (_, type) => kindCode print type) ++ code "] ;" ++
  code ": : gnumake_core : : arity : : Signature : : new ( __kinds ) \x7d" ++
  code "fn policy ( & self ) - > : : gnumake_core : : engine : : ExpandPolicy \x7b" ++
  code ": : gnumake_core : : engine : : ExpandPolicy : :" ++
  code (if w.options.expand.getD true then "ExpandArgs" else "VerbatimArgs") ++ code "\x7d" ++
  code "fn arity ( & self , ) - > : : core : : result : : Result <" ++
  code ": : gnumake_core : : arity : : Arity , : : gnumake_core : : error : : RegistrationError , >" ++
  code "\x7b : : gnumake_core : : arity : : resolve_arity (" ++ boundCode w.options.minArgs ++
  code "," ++ boundCode w.options.maxArgs ++
  code ", : : core : : option : : Option : : Some ( & self . signature ( ) ) ) \x7d"

/-- The generated code. -/
def code (print : Printer) (w : FunctionWrapper) : Code :=
  print.itemCode w.item ++
  Wrapper.code "# [ doc =" ++ [stringLiteral w.documentation] ++ Wrapper.code "]" ++
  Wrapper.code "# [ derive ( Debug , Clone , Copy , Default ) ]" ++
  TokenTree.textsAll w.visibility ++ Wrapper.code "struct" ++ [w.struct] ++ Wrapper.code ";" ++
  Wrapper.code "impl : : gnumake_core : : registry : : Callable for" ++ [w.struct] ++
  Wrapper.code "\x7b" ++ w.answerCode print ++ Wrapper.code "\x7d" ++
  Wrapper.code "impl : : gnumake_core : : registry : : MakeFunction for" ++ [w.struct] ++
  Wrapper.code "\x7b" ++ w.contractCode print ++ Wrapper.code "\x7d"

/-- The wrapper of the function in a text, with the options in another. The function is read before
its options. -/
def ofTexts (given item : Text) : Except WrapperError FunctionWrapper := do
  let item ← FunctionItem.ofText item
  let options ← FunctionOptions.ofText given
  ofItem item options

end FunctionWrapper

/-- The code that is generated for a function that is marked for export, if generation returns. -/
def functionCode? (print : Printer) (given item : Text) : Option Code :=
  generated? (FunctionWrapper.code print) (FunctionWrapper.ofTexts given item)

/-- The code in the place of a function that is marked for export. Where generation breaks off, the
compiler puts the error there. -/
def functionCode (print : Printer) (given item : Text) : Code :=
  match FunctionWrapper.ofTexts given item with
  | .ok w => w.code print
  | .error e => e.code

end MakeHost.Wrapper
