import MakeHost.Lua.Error
import MakeHost.Number.Significant
import MakeHost.Text.Utf8

/-!
# Values of the interpreter

A value as the interpreter hands it over. Nothing of a table, a function or another object is seen
but which one it is; numbers and strings are plain data.
-/

namespace MakeHost.Lua

/-- The name of a table, a function or another object of an interpreter. -/
abbrev Ref := Nat

/-- A value. -/
inductive Value
  | nil
  | bool (b : Bool)
  | int (n : Int)
  | float (bits : Nat)
  | str (s : Bytes)
  | table (t : Ref)
  | function (f : Ref)
  /-- Any other object: a coroutine or user data. -/
  | object (type : Text) (o : Ref)
deriving DecidableEq

namespace Value

instance : Inhabited Value := ⟨nil⟩

/-- The string of a text. -/
def ofText (s : Text) : Value := str (Text.utf8 s)

/-- The name of a value's type in conversion errors. -/
def typeName : Value → Text
  | nil => "nil"
  | bool _ => "boolean"
  | int _ => "integer"
  | float _ => "number"
  | str _ => "string"
  | table _ => "table"
  | function _ => "function"
  | object type _ => type

/-- Whether a value counts as true. -/
def truthy : Value → Bool
  | nil | bool false => false
  | _ => true

/-- The text of a number. -/
def numberText? : Value → Option Text
  | int n => some (Text.ofInt n)
  | float bits => some (BinaryNumber.ofBits .double bits).scriptText
  | _ => none

/-- The bytes of a string or number. -/
def bytes? : Value → Option Bytes
  | str s => some s
  | v => v.numberText?.map Text.utf8

end Value

/-- The first of several values; nil if there is none. -/
def firstOf (values : List Value) : Value := values.headD .nil

/-- A function of the host that programs call: `print`, and the members of the `make` module. -/
inductive Native
  | print
  | eval | expand | exportFunction | escape | escapeFully
  | varGet | varSet | varAppend | varUndefine | varOrigin | varFlavor | varDefined
  /-- Reads a make variable as a field of the table of make variables. -/
  | varField
  /-- Writes a make variable as a field of that table. -/
  | varAssign
deriving DecidableEq

end MakeHost.Lua
