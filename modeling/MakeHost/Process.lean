import MakeHost.Host.Level
import MakeHost.Plugin
import Mathlib.Logic.Function.Basic

/-!
# The installed plugin

A process holds at most one plugin, which the trampoline hands calls to: the one that setup builds
over the make that loaded the object, or one that was built over a host made by hand. Each host has
a make of its own. A plugin that comes second is dropped.
-/

namespace MakeHost

/-- Who owns a plugin: setup, or one of the hosts that were made by hand. -/
inductive Owner
  | loaded
  | other (number : Nat)
deriving DecidableEq

/-- The hosts with their makes, and the plugin that calls are handed to. -/
structure Process (σ : Type) where
  worlds : Owner → World Code (Memory σ)
  options : Owner → HostOptions
  installed : Option Owner

namespace Process

/-- A step of a process, without a result when nesting goes too deep. -/
abbrev Step (σ α : Type) := StateT (Process σ) Option α

variable {σ : Type} (lua : Lua.Library σ)

/-- The host of an owner. -/
def host (p : Process σ) (owner : Owner) : Host Code (Memory σ) := Code.host lua (p.options owner)

/-- An owner's make at the outermost level. -/
def level (p : Process σ) (owner : Owner) (nesting : Nat) : Make.Level Code (Memory σ) :=
  (p.host lua owner).level nesting

/-- A process in which a world is another one. -/
def withWorld (p : Process σ) (owner : Owner) (w : World Code (Memory σ)) : Process σ :=
  { p with worlds := Function.update p.worlds owner w }

/-- Runs a computation on an owner's world. -/
def on {α : Type} (owner : Owner) (x : Run Code (Memory σ) α) : Step σ α := fun p =>
  (x (p.worlds owner)).map fun (a, w) => (a, p.withWorld owner w)

/-- From now on calls are handed to the plugin of this owner. -/
def keep (owner : Owner) : Step σ Unit := modify fun p => { p with installed := some owner }

/-- Installs the plugin of a host made by hand; false when there is a plugin already. -/
def install (number : Nat) : Step σ Bool := do
  if (← get).installed.isSome then return false
  let first ← on (.other number) Plugin.install
  keep (.other number)
  return first

variable (nesting : Nat)

/-- What make runs when it has loaded the object: whether there is a plugin. -/
def setup (present : List InterfaceSymbol) (environmentLog : Option Text) : Step σ Bool := do
  let p ← get
  if p.installed.isSome then return true
  let done ← on .loaded (Plugin.setup lua (p.level lua .loaded nesting) present environmentLog)
  if done then keep .loaded
  return done

/-- What make runs for every call of an exported name. -/
def trampoline (name : Bytes) (args : List Bytes) : Step σ (Option Buffer) := do
  let p ← get
  match p.installed with
  | none => return none
  | some owner =>
    on owner (Plugin.trampoline (p.level lua owner nesting) (p.host lua owner) name args)

/-- What happens in a process, as seen from outside of it. -/
inductive Call
  | setup (present : List InterfaceSymbol) (environmentLog : Option Text)
  | install (number : Nat)
  | trampoline (name : Bytes) (args : List Bytes)
  /-- The make that loaded the object evaluates a text. -/
  | run (text : Text)
  /-- A host made by hand builds a plugin: it reads its settings and exports everything. -/
  | build (number : Nat) (environmentLog : Option Text)
  /-- The make of a host made by hand evaluates a text. -/
  | runOther (number : Nat) (text : Text)

/-- What is seen of it. -/
inductive Answer
  | flag (b : Bool)
  | buffer (b : Option Buffer)
  | nothing

/-- Makes a call. -/
def perform : Call → Step σ Answer
  | .setup present environmentLog => .flag <$> setup lua nesting present environmentLog
  | .install number => .flag <$> install number
  | .trampoline name args => .buffer <$> trampoline lua nesting name args
  | .run text => do
    on .loaded (((← get).level lua .loaded nesting).run text)
    return .nothing
  | .build number environmentLog => do
    let level := (← get).level lua (.other number) nesting
    match ← on (.other number) (Make.perform level (Plugin.equip lua environmentLog).run) with
    | .ok _ => return .flag true
    | .error _ => return .flag false
  | .runOther number text => do
    on (.other number) (((← get).level lua (.other number) nesting).run text)
    return .nothing

end Process

end MakeHost
