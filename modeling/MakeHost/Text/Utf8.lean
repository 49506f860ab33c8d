import MakeHost.Text.Basic

/-!
# UTF-8

Reading is a machine over bytes. Its output is a list of readings: characters, and the maximal
runs of bytes that begin a sequence and cannot be completed. Strict decoding reports the first
such run; lossy decoding puts a replacement character in the place of each.
-/

namespace MakeHost

/-- The UTF-8 form of a text. -/
def Text.utf8 (s : Text) : Bytes := s.flatMap String.utf8EncodeChar

/-- The number of bytes of the UTF-8 form. -/
def Text.byteLength (s : Text) : Nat := s.utf8.length

namespace Utf8

/-- One step of reading bytes. -/
inductive Reading
  | char (c : Char)
  /-- So many bytes begin a sequence that the byte after them does not continue. -/
  | malformed (width : Nat)
  /-- So many bytes begin a sequence that the input ends in. -/
  | unfinished (width : Nat)
deriving DecidableEq

/-- A sequence under way: its payload bits, the bytes read, the bytes still wanted, and the
range in which the next byte must lie. -/
structure Pending where
  bits : Nat
  width : Nat
  wanted : Nat
  low : Nat
  high : Nat

/-- What a byte at the front of a sequence leads to. -/
inductive Lead
  | char (c : Char)
  | opens (p : Pending)
  | stray

/-- Classifies a first byte; the ranges exclude overlong forms, surrogates and code points
above the last one. -/
def lead (b : UInt8) : Lead :=
  let n := b.toNat
  if n < 0x80 then .char (Char.ofNat n)
  else if n < 0xC2 then .stray
  else if n < 0xE0 then .opens ⟨n - 0xC0, 1, 1, 0x80, 0xBF⟩
  else if n < 0xF0 then
    .opens ⟨n - 0xE0, 1, 2, if n = 0xE0 then 0xA0 else 0x80, if n = 0xED then 0x9F else 0xBF⟩
  else if n < 0xF5 then
    .opens ⟨n - 0xF0, 1, 3, if n = 0xF0 then 0x90 else 0x80, if n = 0xF4 then 0x8F else 0xBF⟩
  else .stray

/-- Whether a byte continues the sequence. -/
def Pending.admits (p : Pending) (b : UInt8) : Bool := p.low ≤ b.toNat && b.toNat ≤ p.high

/-- The sequence with one more byte. -/
def Pending.push (p : Pending) (b : UInt8) : Pending :=
  ⟨p.bits * 64 + (b.toNat - 0x80), p.width + 1, p.wanted - 1, 0x80, 0xBF⟩

/-- What the first byte of a sequence yields at once, and the sequence under way behind it. -/
def Lead.start : Lead → List Reading × Option Pending
  | char c => ([.char c], none)
  | opens p => ([], some p)
  | stray => ([.malformed 1], none)

/-- What a byte yields behind a sequence under way, and the sequence under way behind it. A byte
that does not continue the sequence begins the next one. -/
def Pending.next (p : Pending) (b : UInt8) : List Reading × Option Pending :=
  if p.admits b then
    let q := p.push b
    if q.wanted = 0 then ([.char (Char.ofNat q.bits)], none) else ([], some q)
  else
    let (readings, pending) := (lead b).start
    (.malformed p.width :: readings, pending)

/-- Reads bytes, the first of which may continue a sequence under way. -/
def readFrom : Option Pending → Bytes → List Reading
  | none, [] => []
  | some p, [] => [.unfinished p.width]
  | pending, b :: rest =>
    let (readings, pending) := match pending with
      | none => (lead b).start
      | some p => p.next b
    readings ++ readFrom pending rest

/-- The readings of a byte string. -/
def read (bytes : Bytes) : List Reading := readFrom none bytes

/-- Why a byte string is not UTF-8: where the first bad run starts and how long it is, or that
the input ends inside a sequence. -/
structure Fault where
  start : Nat
  width : Option Nat
deriving DecidableEq

/-- The wording of a fault. -/
def Fault.message (fault : Fault) : Text :=
  match fault.width with
  | some n => "invalid utf-8 sequence of " ++ Text.ofNat n ++ " bytes from index "
      ++ Text.ofNat fault.start
  | none => "incomplete utf-8 byte sequence from index " ++ Text.ofNat fault.start

/-- Collects characters up to the first fault; `start` counts the bytes before the readings. -/
def collect (start : Nat) : List Reading → Except Fault Text
  | [] => .ok []
  | .char c :: rest => (c :: ·) <$> collect (start + c.utf8Size) rest
  | .malformed n :: _ => .error ⟨start, some n⟩
  | .unfinished _ :: _ => .error ⟨start, none⟩

/-- Strict decoding. -/
def decode (bytes : Bytes) : Except Fault Text := collect 0 (read bytes)

/-- The character shown for a reading: U+FFFD in the place of a bad run. -/
def Reading.shown : Reading → Char
  | .char c => c
  | .malformed _ => '\ufffd'
  | .unfinished _ => '\ufffd'

/-- Lossy decoding. -/
def decodeLossy (bytes : Bytes) : Text := (read bytes).map Reading.shown

end Utf8

end MakeHost
