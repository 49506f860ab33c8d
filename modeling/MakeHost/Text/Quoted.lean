import MakeHost.Text.Printable
import MakeHost.Text.Utf8

/-!
# Quoted text

The form in which text is shown in a message: between quotes, with the quote, the backslash and
the common controls escaped by a backslash and all else that has no visible form of its own
written by its code point.
-/

namespace MakeHost

namespace Text

/-- A character by its code point in hexadecimal. -/
def codePoint (c : Char) : Text := "\\u\x7b" ++ hex c.toNat ++ "\x7d"

/-- A character as it stands between two `quote` characters. -/
def shownWithin (quote c : Char) : Text :=
  if c = quote ∨ c = '\\' then ['\\', c]
  else match c with
    | '\n' => "\\n"
    | '\r' => "\\r"
    | '\t' => "\\t"
    | '\x00' => "\\0"
    | _ => if isPrintable c then [c] else codePoint c

/-- A text in double quotes. -/
def quoted (s : Text) : Text := '"' :: s.flatMap (shownWithin '"') ++ "\""

/-- A character in single quotes. -/
def quotedChar (c : Char) : Text := '\'' :: shownWithin '\'' c ++ "'"

/-- A byte by two hexadecimal digits. -/
def hexByte (b : UInt8) : Text :=
  [Nat.digitChar (b.toNat / 16), Nat.digitChar (b.toNat % 16)]

/-- A byte as it is shown where it is no character: visible ASCII as itself, else by its value. -/
def shownByte (b : UInt8) : Text :=
  let c := Char.ofNat b.toNat
  if c = '"' ∨ c = '\'' ∨ c = '\\' then ['\\', c]
  else match c with
    | '\n' => "\\n"
    | '\r' => "\\r"
    | '\t' => "\\t"
    | _ => if 0x20 ≤ b.toNat ∧ b.toNat < 0x7F then [c] else "\\x" ++ hexByte b

end Text

namespace Utf8

/-- How many bytes a reading took. -/
def Reading.width : Reading → Nat
  | .char c => c.utf8Size
  | .malformed n => n
  | .unfinished n => n

/-- Shows readings, each with the bytes it took from the front of `bytes`. -/
def shownReadings (bytes : Bytes) : List Reading → Text
  | [] => []
  | r :: rest =>
    let here := bytes.take r.width
    (match r with
      | .char c =>
        if c.toNat < 0x80 then here.flatMap Text.shownByte else Text.shownWithin '"' c
      | .malformed _ | .unfinished _ => here.flatMap Text.shownByte)
      ++ shownReadings (bytes.drop r.width) rest

end Utf8

/-- A byte string in double quotes: its characters shown as themselves where they are visible,
every other byte by its value. -/
def Bytes.quoted (bytes : Bytes) : Text :=
  '"' :: Utf8.shownReadings bytes (Utf8.read bytes) ++ "\""

/-- A byte string in lower-case hexadecimal. -/
def Bytes.hex (bytes : Bytes) : Text := bytes.flatMap Text.hexByte

end MakeHost
