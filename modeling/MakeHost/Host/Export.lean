import MakeHost.Host.Action

/-!
# Exporting functions

A function is exported under a name that make accepts: it is entered among the host's exported
functions, in place of one of the same name, and make takes the name. A refused export does
neither.
-/

namespace MakeHost.Host

variable {κ μ : Type}

/-- An action that an export error may end. -/
abbrev Export (κ μ : Type) := ExceptT ExportError (Action κ μ)

/-- Exports a function. -/
def register (name : Text) (arity : Arity) (policy : Policy) (code : κ) : Export κ μ Unit := do
  let name ← liftExcept (FunctionName.ofText name)
  ExceptT.lift (Action.enter ⟨name, code, arity, policy⟩)
where
  /-- A check without requests. -/
  liftExcept {α : Type} (e : Except ExportError α) : Export κ μ α := ExceptT.mk (pure e)

/-- Exports a function whose counts are resolved first. -/
def exportResolved (name : Text) (min max : Option Int) (signature : Option Signature)
    (policy : Policy) (code : κ) : Export κ μ Unit := do
  let arity ← ExceptT.mk (pure (Arity.resolve min max signature))
  register name arity policy code

/-- Exports a function with its own contract. -/
def exportContract (contract : Contract) (code : κ) : Export κ μ Unit :=
  exportResolved contract.name contract.min contract.max (some contract.signature)
    contract.policy code

/-- Exports functions in order, up to the first that is refused. -/
def exportAll (functions : List (Contract × κ)) : Export κ μ Unit :=
  functions.forM fun (contract, code) => exportContract contract code

/-- The names of the exported functions, in order. -/
def functionNames : Action κ μ (List Text) := do return (← Action.exports).names

/-- Whether a name is exported. -/
def isExported (name : Text) : Action κ μ Bool := do return (← Action.exports).contains name

end MakeHost.Host
