import MakeHost.Error

/-!
# Argument counts

Make holds a least and a greatest number of arguments for every exported function, each of at
most 255, where a greatest number of zero stands for "any". An `Arity` is such a pair that make
accepts. It is given outright or read off a signature; `Arity.resolve` combines the two.
-/

namespace MakeHost

/-- The kind of a declared parameter. -/
inductive ParameterKind
  /-- Must be passed. -/
  | required
  /-- May be left out. -/
  | optional
  /-- Takes all arguments that are left. -/
  | rest
  /-- Cannot be passed by position, so it never counts. -/
  | keyword
deriving DecidableEq

/-- The declared parameters of a function, in order. -/
abbrev Signature := List ParameterKind

/-- Argument counts read off a signature. `max` is absent when any number of arguments fits. -/
structure InferredArity where
  min : Nat
  max : Option Nat
deriving DecidableEq

/-- Counts required and positional parameters up to the first rest parameter, which lifts the
upper bound. -/
def Signature.inferred : Signature → InferredArity
  | [] => ⟨0, some 0⟩
  | .required :: s =>
    let tail := Signature.inferred s
    ⟨tail.min + 1, tail.max.map (· + 1)⟩
  | .optional :: s =>
    let tail := Signature.inferred s
    ⟨tail.min, tail.max.map (· + 1)⟩
  | .rest :: _ => ⟨0, none⟩
  | .keyword :: s => Signature.inferred s

/-- A range of argument counts that make accepts; `rawMax = 0` means that there is no maximum. -/
structure Arity where
  min : Nat
  rawMax : Nat
  one_le_min : 1 ≤ min
  min_le : min ≤ 255
  rawMax_le : rawMax ≤ 255
  ordered : rawMax = 0 ∨ min ≤ rawMax
deriving DecidableEq

namespace Arity

/-- Checks bounds that are given outright. -/
def ofBounds (min max : Int) : Except ExportError Arity :=
  if _ : min < 0 ∨ max < 0 then .error (.negativeArgs min max)
  else if _ : 255 < min ∨ 255 < max then .error (.tooManyArgs min max)
  else if _ : max ≠ 0 ∧ max < min then .error (.maxLessThanMin min max)
  else if _ : min = 0 then .error .minArgsZero
  else .ok ⟨min.toNat, max.toNat, by omega, by omega, by omega, by omega⟩

/-- The range of one count only. -/
def exactly (count : Nat) : Except ExportError Arity := ofBounds count count

/-- The range from a count upwards. -/
def atLeast (count : Nat) : Except ExportError Arity := ofBounds count 0

/-- The range of exactly one argument. -/
def one : Arity := ⟨1, 1, by decide, by decide, by decide, by decide⟩

/-- The range of one argument or more. -/
def some : Arity := ⟨1, 0, by decide, by decide, by decide, by decide⟩

/-- The greatest count, if there is one. -/
def max? (a : Arity) : Option Nat := if a.rawMax = 0 then none else .some a.rawMax

/-- Whether a count lies in the range. -/
def accepts (a : Arity) (count : Nat) : Bool :=
  a.min ≤ count && (a.rawMax == 0 || count ≤ a.rawMax)

/-- The range of an export: bounds that are given win, a missing maximum is the number of
positional parameters, a missing minimum the number of required ones but at least one. -/
def resolve (min max : Option Int) (signature : Option Signature) : Except ExportError Arity :=
  match min, max, signature with
  | .some min, .some max, _ => ofBounds min max
  | _, _, none => .error .unknownSignature
  | min, max, .some signature =>
    let inferred := signature.inferred
    let least := min.getD (Nat.max inferred.min 1)
    match max, inferred.max with
    | .some max, _ => ofBounds least max
    | none, .some 0 => .error .noParameters
    | none, .some count => ofBounds least count
    | none, none => ofBounds least 0

end Arity

end MakeHost
