import MakeHost.Host.Dispatch
import MakeHost.Lua.Native

/-!
# Entry points

Make reaches an interpreter through four functions. `lua-eval` has the value of an expression;
`lua-exec`, `lua-file` and `lua-mod` run a text, a script and a module, and have what these print.
All but modules share one table of globals. A module is looked for before anything is collected and
before its arguments are lent, as programs may look for modules in ways of their own.
-/

namespace MakeHost.Lua

variable {σ α : Type} (lua : Library σ) (i : Nat)

/-- A use of the interpreter that fails with a driver's error. -/
abbrev Driven (σ : Type) := ExceptT DriverError (Action Code (Memory σ))

/-- What the interpreter does, as a use of it. -/
def driven (x : Script σ α) : Driven σ α :=
  ExceptT.mk do return (← x.run).mapError .interpreter

/-! ## Programs -/

/-- The chunk of a program that is given as an expression. -/
def evalChunk : Text := "=lua-eval"

/-- The chunk of a program that is given as statements. -/
def execChunk : Text := "=lua-exec"

/-- The chunk of a script. -/
def scriptChunk (path : Text) : Text := "@" ++ path

/-- The value of a program. -/
def evalText (source : Text) : Script σ MakeHost.Value := do
  let v ← valueOf lua.run i (lua.evaluate i evalChunk source.utf8 (lua.environment i))
  ExceptT.lift (toMakeValue lua lua.run i v)

/-- Runs a program as statements. -/
def execProgram (chunk : Text) (source : Bytes) : Script σ Unit :=
  discard (lua.run i (lua.execute i chunk source (lua.environment i)))

/-- What a program prints. -/
def execText (source : Text) : Script σ Text :=
  captured i (execProgram lua i execChunk source.utf8)

/-- What a script prints, run with arguments. -/
def runFile (path : Text) (args : List Text) : Driven σ Text := do
  match lua.fileContent (← ExceptT.lift outside) path with
  | .error fault => throw (.script path fault)
  | .ok source =>
    withArguments lua i (lua.environment i) path args
      (captured i (driven (execProgram lua i (scriptChunk path) source)))

/-! ## Modules -/

/-- A module that was found: the table of the search, the function that loads the module, and what
that is told beside the name. -/
structure FoundModule where
  package : Ref
  loader : Ref
  extra : Value

/-- The error for a module that is not found. -/
def moduleNotFound (name tried : Text) : Error :=
  .runtime ("module '" ++ name ++ "' not found:" ++ tried)

/-- Asks the searchers of a list for a module, from the one at `index` on and at most `limit` of
them: the function that loads the module, and what that is told. `tried` is what searchers said that
did not find it. -/
def askSearchers (searchers : Ref) (name : Text) (index : Nat) (tried : Text) :
    Nat → Script σ (Ref × Value)
  | 0 => throw (moduleNotFound name tried)
  | limit + 1 => do
    match lua.rawGet (← ExceptT.lift outside) searchers (.int index) with
    | .nil => throw (moduleNotFound name tried)
    | searcher => do
      let answer ← lua.run i (lua.call (← liftM searcher.toFunction) [.ofText name])
      match firstOf answer with
      | .function loader => return (loader, firstOf answer.tail)
      | .str message =>
        askSearchers searchers name (index + 1) (tried ++ Utf8.decodeLossy message) limit
      | _ => askSearchers searchers name (index + 1) tried limit

/-- The greatest index of a list: a whole number of 64 bits. -/
def maxIndex : Nat := 9223372036854775807

/-- Looks for a module. -/
def findModule (globals : Ref) (name : Text) : Script σ FoundModule := do
  let package ← convertedValue lua.run i Value.toTable (lua.get globals (.ofText "package"))
  let searchers ← convertedValue lua.run i Value.toTable (lua.get package (.ofText "searchers"))
  let (loader, extra) ← askSearchers lua i searchers name 1 [] maxIndex
  return ⟨package, loader, extra⟩

/-- Loads a module and notes what it came to, or true when it came to nothing and nothing was noted
before. -/
def FoundModule.load (m : FoundModule) (name : Text) : Script σ Unit := do
  let value ← valueOf lua.run i (lua.call m.loader [.ofText name, m.extra])
  let loaded ← convertedValue lua.run i Value.toTable (lua.get m.package (.ofText "loaded"))
  match value with
  | .nil =>
    match ← valueOf lua.run i (lua.get loaded (.ofText name)) with
    | .nil => discard (lua.run i (lua.set loaded (.ofText name) (.bool true)))
    | _ => return
  | value => discard (lua.run i (lua.set loaded (.ofText name) value))

/-- What a module prints, run with arguments. It is run whether or not it was loaded before. -/
def runModule (name : Text) (args : List Text) : Driven σ Text := do
  let globals := lua.globals (← ExceptT.lift outside) i
  let found ← driven (findModule lua i globals name)
  withArguments lua i globals name args (captured i (driven (found.load lua i name)))

/-! ## Calls from make -/

/-- The result of a use of the interpreter, its error as a failure. -/
def settled (x : Driven σ α) : Body Code (Memory σ) α :=
  ExceptT.mk do return (← x.run).mapError fun e => .failure (e.toFailure lua.shown)

/-- What a call of an entry point does. -/
def entryBody (e : EntryPoint) (args : Arguments) : Body Code (Memory σ) MakeHost.Value :=
  let first := args.required 0
  match e with
  | .eval => settled lua (driven (evalText lua i first))
  | .exec => .text <$> settled lua (driven (execText lua i first))
  | .file => .text <$> settled lua (runFile lua i first (args.rest 1))
  | .module => .text <$> settled lua (runModule lua i first (args.rest 1))

/-- What a call of a function of a program does. -/
def scriptBody (f : Ref) (args : Arguments) : Body Code (Memory σ) MakeHost.Value := do
  let v ← settled lua (driven (valueOf lua.run i (lua.call f (args.map Value.ofText))))
  ExceptT.lift (toMakeValue lua lua.run i v)

/-! ## Installing an interpreter -/

/-- What is put in front of a search path; an empty path adds nothing. -/
def pathAddition : Option Text → Text
  | none | some [] => []
  | some extra => extra ++ ";"

/-- Where an interpreter looks for modules first. -/
structure SearchOptions where
  path : Option Text
  cpath : Option Text

/-- Adds an interpreter and exports its entry points. -/
def install (options : SearchOptions) : Host.Export Code (Memory σ) Nat := do
  let number := (← ExceptT.lift Action.remembered).captures.length
  ExceptT.lift (changeMemory fun m => { m with
    captures := m.captures ++ [[]]
    outside := lua.create m.outside number (pathAddition options.path)
      (pathAddition options.cpath) })
  EntryPoint.all.forM fun e => Host.register e.name e.arity .expand (.entry e number)
  return number

/-- What is shown of an interpreter. -/
def shownInterpreter (m : Memory σ) (i : Nat) : Text :=
  "LuaRuntime \x7b capturing: " ++ Text.ofNat (capturesOf m i).length ++ ", .. \x7d"

end MakeHost.Lua

namespace MakeHost

variable {σ : Type}

/-- What runs when an exported name is called. -/
def Code.body (lua : Lua.Library σ) (code : Code) (name : Text) (args : Arguments) :
    Body Code (Memory σ) Value :=
  match code with
  | .library f => Sample.settled (f.call args)
  | .sample s => s.body name args
  | .recipe r => r.body .recipe name args
  | .entry e i => Lua.entryBody lua i e args
  | .script f i => Lua.scriptBody lua i f args

/-- The host whose functions are data. -/
def Code.host (lua : Lua.Library σ) (options : HostOptions) : Host Code (Memory σ) :=
  ⟨options, Code.body lua⟩

end MakeHost
