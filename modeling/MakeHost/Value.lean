import MakeHost.Error
import MakeHost.Number.Shortest

/-!
# Values

Make has only strings. A `Value` is the result of an exported function before it is handed over:
text and bytes stand for themselves, true is `1`, and false and "no value" expand to nothing.
-/

namespace MakeHost

/-- The result of an exported function. -/
inductive Value
  | none
  | flag (b : Bool)
  | bytes (b : Bytes)
  | text (s : Text)
deriving DecidableEq

namespace Value

instance : Inhabited Value := ⟨none⟩

/-- A whole number, in decimal. -/
def ofInt (n : Int) : Value := text (Text.ofInt n)

/-- A count, in decimal. -/
def ofNat (n : Nat) : Value := text (Text.ofNat n)

/-- A floating-point number, with its shortest digits. -/
def ofBinary (x : BinaryNumber) : Value := text x.plainText

/-- A list of words, joined by single spaces. -/
def ofWords (words : List Text) : Value := text (Text.unwords words)

/-- The bytes handed to make; absent for "no value". -/
def encode? : Value → Option Bytes
  | flag true => some (Text.utf8 "1")
  | flag false | none => Option.none
  | bytes b => some b
  | text s => some s.utf8

/-- The text that a value contributes to an assignment. -/
def toText : Value → Text
  | flag true => "1"
  | flag false | none => ""
  | bytes b => Utf8.decodeLossy b
  | text s => s

/-- Decodes an argument received from make. -/
def decodeArgument (raw : Bytes) : Except Failure Text :=
  (Utf8.decode raw).mapError Failure.ofUtf8

end Value

end MakeHost
