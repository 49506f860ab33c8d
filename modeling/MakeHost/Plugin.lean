import MakeHost.Lua.Entry
import MakeHost.Make.Machine

/-!
# The host as a loaded object

Make can load the host as an object that finds make's C interface in the running program. Setup
reads its settings from make, exports the string library and installs an interpreter; after that
the object is ready, stays so, and answers the calls that make hands to it.
-/

namespace MakeHost

/-- A function of make's C interface. -/
inductive InterfaceSymbol
  | addFunction
  | alloc
  | free
  | eval
  | expand
deriving DecidableEq

/-- The whole C interface. -/
def InterfaceSymbol.all : List InterfaceSymbol := [addFunction, alloc, free, eval, expand]

/-- The first function of the C interface that is not there. -/
def InterfaceSymbol.firstMissing? (present : List InterfaceSymbol) : Option InterfaceSymbol :=
  all.find? fun symbol => !present.contains symbol

/-- Why setup fails. -/
inductive SetupError
  | missing (symbol : InterfaceSymbol)
  | host (e : HostError)
  | refused (e : ExportError)

/-- What a build script asks of the loaded object. -/
structure PluginSettings where
  log : Option Text
  search : Lua.SearchOptions

namespace Plugin

variable {σ : Type}

/-- A text unless it is blank. -/
def nonBlank? (s : Text) : Option Text := if s.trim.isEmpty then none else some s

/-- The setting that a make variable holds. -/
def setting (variableName : Text) : Host.Attempt Code (Memory σ) (Option Text) :=
  nonBlank? <$> Host.get variableName [] true

/-- Reads the settings. The environment's word on logging goes before make's. -/
def settings (environmentLog : Option Text) : Host.Attempt Code (Memory σ) PluginSettings := do
  let log ← match environmentLog.bind nonBlank? with
    | some filter => pure (some filter)
    | none => setting "GNUMAKE_LOG"
  let path ← setting "LUA_PATH"
  let cpath ← setting "LUA_CPATH"
  return ⟨log, path, cpath⟩

/-- Exports everything through a host; the result is the number of the new interpreter. -/
def equip (lua : Lua.Library σ) (environmentLog : Option Text) :
    ExceptT SetupError (Action Code (Memory σ)) Nat := do
  let settings ← refuse .host (settings environmentLog)
  refuse .refused Code.exportLibrary
  refuse .refused (Lua.install lua settings.search)
where
  /-- Names the stage at which setup fails. -/
  refuse {ε α : Type} (why : ε → SetupError) (x : ExceptT ε (Action Code (Memory σ)) α) :
      ExceptT SetupError (Action Code (Memory σ)) α :=
    ExceptT.mk do return (← x.run).mapError why

variable (lua : Lua.Library σ) (level : Make.Level Code (Memory σ))

/-- Notes that the object is ready; false when it was before. -/
def install : Run Code (Memory σ) Bool :=
  modifyGet fun w => (!w.ready, { w with ready := true })

/-- Setup outside of the host: needs the whole C interface. -/
def attempt (present : List InterfaceSymbol) (environmentLog : Option Text) :
    Run Code (Memory σ) (Except SetupError Unit) := do
  match InterfaceSymbol.firstMissing? present with
  | some symbol => return .error (.missing symbol)
  | none => do
    match ← Make.perform level (equip lua environmentLog).run with
    | .error e => return .error e
    | .ok _ => do
      let _ ← install
      return .ok ()

/-- What make runs when it has loaded the object: whether the object is ready. -/
def setup (present : List InterfaceSymbol) (environmentLog : Option Text) :
    Run Code (Memory σ) Bool := do
  if (← get).ready then return true
  match ← attempt lua level present environmentLog with
  | .ok () => return true
  | .error _ => return false

/-- What make runs for every call of an exported name. Nothing happens before the object is
ready. -/
def trampoline (host : Host Code (Memory σ)) (name : Bytes) (args : List Bytes) :
    Run Code (Memory σ) (Option Buffer) := do
  if (← get).ready then Make.perform level (host.dispatch name args) else return none

end Plugin

end MakeHost
