import MakeHost.Error
import MakeHost.Text.Blank

/-!
# Names

A function name is one that make accepts for an exported function, and a legal variable name one
that stands for itself in a `define` line and in a reference.
-/

namespace MakeHost

namespace FunctionName

/-- The greatest number of bytes in a function name. -/
def maxBytes : Nat := 255

/-- Whether a character may stand in a function name. -/
def isNameChar (c : Char) : Bool :=
  !Text.isControl c && !Text.isBlank c && !(['$', '(', ')', '\x7b', '\x7d', ','].contains c)

/-- Checks a name: the first fault of emptiness, length and characters, in this order. -/
def fault? (name : Text) : Option ExportError :=
  if name.isEmpty then some .emptyName
  else if maxBytes < name.byteLength then some (.nameTooLong name.byteLength)
  else (name.find? (!isNameChar ·)).map (.illegalNameChar name)

end FunctionName

/-- A name that make accepts for an exported function. -/
structure FunctionName where
  text : Text
  accepted : FunctionName.fault? text = none
deriving DecidableEq

/-- Checks a function name. -/
def FunctionName.ofText (name : Text) : Except ExportError FunctionName :=
  match h : FunctionName.fault? name with
  | some fault => .error fault
  | none => .ok ⟨name, h⟩

/-- The bytes of a function name as a C string, with its terminator. -/
def FunctionName.terminated (name : FunctionName) : Bytes := name.text.utf8 ++ [0]

/-- Whether a character would end or split a variable name. -/
def isNameBreaker (c : Char) : Bool :=
  Text.isBlank c || [':', '#', '=', '$', '(', ')'].contains c

/-- Whether a name stands for itself in a `define` line and in a reference. -/
def isLegalVariableName (name : Text) : Bool := !name.isEmpty && !name.any isNameBreaker

end MakeHost
