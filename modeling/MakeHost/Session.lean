import MakeHost.Host.Level
import MakeHost.Host.Shown
import MakeHost.Plugin

/-!
# Sessions

A session is a running make with what a user holds of the host beside it: the host itself, unless
it was let go, and an interpreter. Steps of a session have no result when evaluation nests deeper
than any that ends.
-/

namespace MakeHost

/-- A running make and what a user holds. -/
structure Session (σ : Type) where
  lua : Lua.Library σ
  world : World Code (Memory σ)
  options : HostOptions
  /-- Whether the user holds the host. -/
  hosted : Bool
  /-- The interpreter that the user holds. -/
  interpreter : Option Nat
  environmentLog : Option Text
  /-- The functions of make's C interface that are there. -/
  symbols : List InterfaceSymbol

namespace Session

/-- A step of a session. -/
abbrev Step (σ α : Type) := StateT (Session σ) Option α

variable {σ : Type}

/-- A session in which nothing has happened yet. -/
def fresh (lua : Lua.Library σ) (outside : σ) (options : HostOptions) (link : Link)
    (hosted : Bool) : Session σ :=
  ⟨lua, .fresh (.empty outside) link, options, hosted, none, none, []⟩

/-- Evaluations nest at most so deep. -/
def maxNesting : Nat := 100000

/-- The host of a session. -/
def host (s : Session σ) : Host Code (Memory σ) := Code.host s.lua s.options

/-- Make at the outermost level. -/
def level (s : Session σ) : Make.Level Code (Memory σ) := s.host.level maxNesting

/-- Runs a computation at the outermost level. -/
def run {α : Type} (x : Make.Level Code (Memory σ) → Run Code (Memory σ) α) : Step σ α := do
  let s ← get
  let (a, world) ← liftM (x s.level s.world)
  set { s with world := world }
  return a

/-- Performs an action of the host. -/
def perform {α : Type} (action : Action Code (Memory σ) α) : Step σ α :=
  run fun level => Make.perform level action

/-- Changes what the exported functions keep. -/
def changeMemory (f : Memory σ → Memory σ) : Step σ Unit :=
  run fun _ => modify fun w => { w with memory := f w.memory }

/-- Evaluates a text. -/
def evaluate (text : Text) : Step σ Unit := run (·.run text)

/-- Expands a text. -/
def expand (text : Text) : Step σ Text := run (·.expand 0 text)

/-- Make as it stands. -/
def make : Step σ Make.State := do return (← get).world.make

/-- Defines a variable from outside. -/
def define (name value : Text) (origin : Origin) : Step σ Unit :=
  run fun _ => Run.changeMake (·.define name value origin)

/-- Forgets the fatal error, so that evaluation can go on. -/
def takeFatal : Step σ (Option Text) := do
  let fatal := (← make).fatal
  run fun _ => Run.changeMake fun m => { m with fatal := none }
  return fatal

/-- Make takes a name for a function, whoever asks. -/
def installName (name : Bytes) (min max : Nat) (policy : Policy) : Step σ Unit :=
  run fun _ => Run.changeMake (·.install (Utf8.decodeLossy name) min max policy)

/-- Frees a buffer. -/
def release (buffer : Buffer) : Step σ Unit := run fun _ => Run.changeMake (·.release buffer.id)

/-- Allocates a buffer. -/
def allocate (content : Bytes) : Step σ Buffer := run fun _ => Make.allocate content

/-- Make has no host from now on. -/
def detach : Step σ Unit := modify fun s => { s with world := { s.world with link := .absent } }

/-- Lets the host go if there is one to let go. It is gone then, unless it was loaded as an object
too. -/
def letGo : Step σ Unit := do
  let s ← get
  set { s with hosted := false }
  if s.hosted && !s.world.ready then
    detach
    changeMemory fun m => { m with hostAlive := false }

/-- Loads the host that the user holds as an object; false when there is one already. -/
def load : Step σ (Except SetupError (Bool × Nat)) := do
  let s ← get
  match ← perform (Plugin.equip s.lua s.environmentLog).run with
  | .error e => return .error e
  | .ok number => do
    let first ← run fun _ => Plugin.install
    return .ok (first, number)

/-- Runs the setup of the loaded object. -/
def setup : Step σ Bool := do
  let s ← get
  run fun level => Plugin.setup s.lua level s.symbols s.environmentLog

/-- Calls an exported name as make does; the buffer with the result is freed. -/
def trampoline (name : Bytes) (args : List Bytes) : Step σ (Option Bytes) := do
  let host := (← get).host
  match ← run fun level => Plugin.trampoline level host name args with
  | none => return none
  | some buffer => do
    release buffer
    return some buffer.content

/-- What is shown of an interpreter. -/
def shownInterpreter (number : Nat) : Step σ Text := do
  return Lua.shownInterpreter (← get).world.memory number

/-- What a step left for the user: the lines of `info`, standard output, lines on standard error,
and calls of the C interface. -/
structure Traces where
  info : List Text
  output : Text
  complaints : List Text
  interface : List InterfaceCall

/-- Takes what the last step left. -/
def takeTraces : Step σ Traces :=
  modifyGet fun s =>
    (⟨s.world.make.printed.reverse, s.world.memory.output, s.world.complaints.reverse,
        s.world.interface.reverse⟩,
      { s with world := { s.world with
          make := { s.world.make with printed := [] }
          memory := { s.world.memory with output := [] }
          complaints := []
          interface := [] } })

end Session

end MakeHost
