import MakeHost.Library.StringFunction
import MakeHost.Lua.Value
import MakeHost.Recipe

/-!
# What exported names stand for

Every exported function is a piece of data: a function of the string library, a sample, a recipe,
an entry point of an interpreter, or a function of one of its programs.
-/

namespace MakeHost

/-- A make function that an interpreter is reached through. -/
inductive EntryPoint
  | eval
  | exec
  | file
  | module
deriving DecidableEq

namespace EntryPoint

/-- All entry points, in the order in which they are exported. -/
def all : List EntryPoint := [eval, exec, file, module]

/-- The name of an entry point. -/
def name : EntryPoint → Text
  | eval => "lua-eval"
  | exec => "lua-exec"
  | file => "lua-file"
  | module => "lua-mod"

/-- The argument counts of an entry point: a script and a module may have arguments of their
own. -/
def arity : EntryPoint → Arity
  | eval | exec => .one
  | file | module => .some

end EntryPoint

/-- What an exported name stands for. Interpreters are known by their number. -/
inductive Code
  | library (f : StringFunction)
  | sample (s : Sample)
  | recipe (r : Recipe)
  | entry (e : EntryPoint) (interpreter : Nat)
  | script (f : Lua.Ref) (interpreter : Nat)

namespace Code

variable {μ : Type}

/-- Exports the string library. -/
def exportLibrary : Host.Export Code μ Unit :=
  Host.exportAll (StringFunction.all.map fun f => (f.contract, library f))

/-- Exports a sample. -/
def exportSample (s : Sample) : Host.Export Code μ Unit := Host.exportContract s.contract (sample s)

/-- Exports the samples that go together. -/
def exportPackage : Host.Export Code μ Unit :=
  Host.exportAll (Sample.package.map fun s => (s.contract, sample s))

end Code

/-- What exported functions keep between calls. -/
structure Memory (σ : Type) where
  /-- Whether the host is still there for programs that ask for it. -/
  hostAlive : Bool
  /-- The texts of the open captures of each interpreter, innermost first. -/
  captures : List (List Text)
  /-- What was printed to standard output. -/
  output : Text
  /-- What is outside of the host. -/
  outside : σ

/-- Nothing has been kept yet. -/
def Memory.empty {σ : Type} (outside : σ) : Memory σ := ⟨true, [], [], outside⟩

end MakeHost
