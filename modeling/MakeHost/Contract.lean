import MakeHost.Arity

/-!
# Contracts of exported functions

What a function says of itself when it is exported: its name in make, its declared parameters,
bounds that override what they imply, and whether make expands its arguments.
-/

namespace MakeHost

/-- What make does with the arguments of an exported function. -/
inductive Policy
  /-- Expands them before the call. -/
  | expand
  /-- Passes them as they stand. -/
  | verbatim
deriving DecidableEq

namespace Policy

/-- The policy for an answer to "shall make expand?". -/
def ofExpand (expand : Bool) : Policy := if expand then .expand else .verbatim

/-- The flag that make takes for the policy. -/
def flags : Policy → Nat
  | expand => 0
  | verbatim => 1

end Policy

/-- What a function says of itself. -/
structure Contract where
  name : Text
  signature : Signature
  min : Option Int
  max : Option Int
  policy : Policy

namespace Contract

/-- A contract that leaves the counts to the signature and the arguments to make. -/
def plain (name : Text) (signature : Signature) : Contract :=
  ⟨name, signature, none, none, .expand⟩

/-- The argument counts of a contract. -/
def arity (c : Contract) : Except ExportError Arity := Arity.resolve c.min c.max (some c.signature)

end Contract

/-- The decoded arguments of a call. -/
abbrev Arguments := List Text

namespace Arguments

/-- A required argument; the empty text when the call is too short. -/
def required (args : Arguments) (i : Nat) : Text := (args[i]?).getD []

/-- An optional argument. -/
def optional (args : Arguments) (i : Nat) : Option Text := args[i]?

/-- All arguments from a position on. -/
def rest (args : Arguments) (i : Nat) : List Text := args.drop i

end Arguments

end MakeHost
