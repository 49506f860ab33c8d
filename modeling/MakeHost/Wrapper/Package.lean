import MakeHost.Wrapper.Function

/-!
# Packages

A module of functions that are marked for export gets two items more: a function that exports all of
them in order, and the list of their names in make.
-/

namespace MakeHost.Wrapper

/-- A module that is to be written with the items that make it a package. -/
structure Package where
  attributes : List Attribute
  visibility : List TokenTree
  name : Text
  /-- The items as they were read. -/
  content : List TokenTree
  /-- The name of the function that exports all functions. -/
  register : Text
  /-- The structure and the name in make of each function. -/
  functions : List (Text × Text)

namespace Package

/-- The structure and the name in make of a marked function. -/
def exported? : Member → Except WrapperError (Option (Text × Text))
  | .other => .ok none
  | .function attributes name => do
    match ← findArguments attributes "make_fn" with
    | none => return none
    | some arguments => do
      let options ← FunctionOptions.ofTokens arguments
      return some (← structName name, options.name.getD name)

/-- The marked functions among the items of a module. -/
def exports : List Member → Except WrapperError (List (Text × Text))
  | [] => .ok []
  | m :: rest => do
    match ← exported? m with
    | some f => return f :: (← exports rest)
    | none => exports rest

/-- The package of a module. The function that exports all functions needs a name that is no
keyword. -/
def ofItem (item : ModuleItem) (register : Text) : Except WrapperError Package :=
  match item.content with
  | none => .error .fileModule
  | some content => do
    let functions ← exports (membersOf content)
    if keywords.contains register then throw (.keywordName register)
    return ⟨item.attributes, item.visibility, item.name, content, register, functions⟩

/-- The code of the function that exports all functions. -/
def registerCode (p : Package) : Code :=
  code "# [ doc =" ++ ["r\" Export every function of this package.\"".toList] ++
  code "] pub fn" ++ [p.register] ++
  code "( bridge : & : : gnumake_core : : bridge : : Bridge , ) - >" ++
  code ": : core : : result : : Result < ( ) , : : gnumake_core : : error : : RegistrationError >" ++
  code "\x7b" ++
  (p.functions.flatMap fun (struct, _) => code "bridge . export (" ++ [struct] ++ code ") ? ;") ++
  code ": : core : : result : : Result : : Ok ( ( ) ) \x7d"

/-- The code of the list of names. -/
def namesCode (p : Package) : Code :=
  code "# [ doc =" ++ ["r\" Make names of the functions in this package.\"".toList] ++
  code "] pub const FUNCTION_NAMES : & [ & str ] = & [" ++
  FunctionWrapper.commaSeparated (p.functions.map fun (_, name) => [stringLiteral name]) ++
  code "] ;"

/-- The generated code. -/
def code (print : Printer) (p : Package) : Code :=
  TokenTree.textsAll (p.attributes.flatMap (Attribute.written print) ++ p.visibility) ++
  Wrapper.code "mod" ++ [p.name] ++ Wrapper.code "\x7b" ++
  (itemsOf p.content).flatMap print.itemCode ++
  p.registerCode ++ p.namesCode ++ Wrapper.code "\x7d"

/-- The package of the module in a text, with the options in another. The module is read before the
options, and the options are read before the module's functions. -/
def ofTexts (given item : Text) : Except WrapperError Package := do
  let item ← ModuleItem.ofText item
  let register ← identOptionOfText "register" given
  ofItem item (register.getD "register")

end Package

/-- The code that is generated for a module that is marked as a package, if generation returns. -/
def packageCode? (print : Printer) (given item : Text) : Option Code :=
  generated? (Package.code print) (Package.ofTexts given item)

/-- The code in the place of a module that is marked as a package. Where generation breaks off, the
compiler puts the error there. -/
def packageCode (print : Printer) (given item : Text) : Code :=
  match Package.ofTexts given item with
  | .ok p => p.code print
  | .error e => e.code

end MakeHost.Wrapper
