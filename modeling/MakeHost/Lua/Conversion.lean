import MakeHost.Lua.Numeral
import MakeHost.Lua.State

/-!
# Conversion of values

Programs hand over values; functions of the host ask for texts, flags, whole numbers, tables and
functions. A missing argument is nil. A value that does not fit is an error, which names the
argument's position if the value is one.
-/

namespace MakeHost.Lua

variable {σ : Type}

/-- An argument by its position, counted from 1. -/
def argument (args : List Value) (position : Nat) : Value := args.getD (position - 1) .nil

/-- Names the position of an argument in an error. -/
def atArgument {α : Type} (position : Nat) (e : Except Error α) : Except Error α :=
  e.mapError (.badArgument none position none)

/-- The text of a string or a number; a string must be UTF-8. -/
def Value.toText (v : Value) : Except Error Text :=
  match v with
  | .str s => (Utf8.decode s).mapError fun fault =>
    .conversion "string" "String" (some fault.message)
  | v => match v.numberText? with
    | some s => .ok s
    | none => .error (.conversion v.typeName "String" (some "expected string or number"))

/-- The bytes of a string or a number. -/
def Value.toBytes (v : Value) : Except Error Bytes :=
  match v.bytes? with
  | some s => .ok s
  | none => .error (.conversion v.typeName "string" (some "expected string or number"))

/-- A function. -/
def Value.toFunction : Value → Except Error Ref
  | .function f => .ok f
  | v => .error (.conversion v.typeName "function" none)

/-- A table. -/
def Value.toTable : Value → Except Error Ref
  | .table t => .ok t
  | v => .error (.conversion v.typeName "table" none)

/-- An optional value: nil is none. -/
def optionally {α : Type} (convert : Value → Except Error α) : Value → Except Error (Option α)
  | .nil => .ok none
  | v => some <$> convert v

/-- The whole number of 64 bits that a value stands for. -/
def Value.toInteger (v : Value) : Except Error Int :=
  let inRange : Option Int → Except Error Int
    | some n => .ok n
    | none => .error (.conversion v.typeName "i64" (some "out of range"))
  let unfit : Except Error Int :=
    .error (.conversion v.typeName "i64" (some "expected number or string coercible to number"))
  match v with
  | .int n => .ok n
  | .float bits => inRange (truncate? (.ofBits .double bits))
  | .str s => match readNumeral? (Utf8.decodeLossy s) with
    | some x => inRange x.toInteger?
    | none => unfit
  | _ => unfit

/-- A count: a whole number that is not negative. -/
def Value.toCount (v : Value) : Except Error Nat := do
  match ← v.toInteger with
  | .ofNat n => return n
  | _ => throw (.conversion v.typeName "usize" (some "out of range"))

/-- An argument that is converted. -/
def convertedArgument {α : Type} (convert : Value → Except Error α) (args : List Value)
    (position : Nat) : Script σ α :=
  liftM (atArgument position (convert (argument args position)))

/-- A text argument. -/
def textArgument : List Value → Nat → Script σ Text := convertedArgument Value.toText

/-- A text argument that may be nil. -/
def optionalText : List Value → Nat → Script σ (Option Text) :=
  convertedArgument (optionally Value.toText)

/-- A flag argument: nil is none, else what counts as true is true. -/
def optionalFlag (args : List Value) (position : Nat) : Option Bool :=
  match argument args position with
  | .nil => none
  | v => some v.truthy

/-- A function argument. -/
def functionArgument : List Value → Nat → Script σ Ref := convertedArgument Value.toFunction

/-- A table argument. -/
def tableArgument : List Value → Nat → Script σ Ref := convertedArgument Value.toTable

/-- A table argument that may be nil. -/
def optionalTable : List Value → Nat → Script σ (Option Ref) :=
  convertedArgument (optionally Value.toTable)

end MakeHost.Lua
