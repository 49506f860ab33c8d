import MakeHost.Error

/-!
# Make variables

A variable has a value, a flavor that says when the value is expanded, and an origin. Flavors
and origins have one word each, by which make reports them.
-/

namespace MakeHost

/-- When a variable's value is expanded. -/
inductive Flavor
  /-- On every reference. -/
  | recursive
  /-- Once, when it is assigned. -/
  | simple
  /-- There is no variable. -/
  | undefined
deriving DecidableEq

namespace Flavor

/-- The word for a flavor. -/
def word : Flavor → Text
  | recursive => "recursive"
  | simple => "simple"
  | undefined => "undefined"

/-- The flavor that a word stands for. -/
def ofWord? (w : Text) : Option Flavor := [recursive, simple, undefined].find? (·.word == w)

/-- Reads a flavor that make reported. -/
def ofReport (w : Text) : Except HostError Flavor :=
  match ofWord? w with
  | some flavor => .ok flavor
  | none => .error (.unexpectedFlavor w)

end Flavor

/-- Where a variable's value came from. -/
inductive Origin
  | undefined
  | default
  | environment
  | environmentOverride
  | file
  | commandLine
  | override
  | automatic
deriving DecidableEq

namespace Origin

/-- The word for an origin. -/
def word : Origin → Text
  | undefined => "undefined"
  | default => "default"
  | environment => "environment"
  | environmentOverride => "environment override"
  | file => "file"
  | commandLine => "command line"
  | override => "override"
  | automatic => "automatic"

/-- All origins. -/
def all : List Origin :=
  [undefined, default, environment, environmentOverride, file, commandLine, override, automatic]

/-- The origin that a word stands for. -/
def ofWord? (w : Text) : Option Origin := all.find? (·.word == w)

/-- Reads an origin that make reported. -/
def ofReport (w : Text) : Except HostError Origin :=
  match ofWord? w with
  | some origin => .ok origin
  | none => .error (.unexpectedOrigin w)

end Origin

/-- A variable of make. -/
structure Variable where
  value : Text
  flavor : Flavor
  origin : Origin
deriving DecidableEq

end MakeHost
