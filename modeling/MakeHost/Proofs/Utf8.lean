import MakeHost.Text.Utf8
import Mathlib

/-!
# Reading UTF-8 back

The bytes of a text are read as its characters (`Utf8.read_utf8`), so both ways of decoding give
the text back (`Utf8.decode_utf8`, `Utf8.decodeLossy_utf8`). A text without NULs has no zero byte,
so a C string keeps all of it (`Text.upToNul_utf8`).
-/

namespace MakeHost

variable {v k : Nat} {c : Char} {rest : Bytes}

namespace Utf8

/-- A byte holds every number below 256. -/
theorem toNat_ofNat_of_lt (n : Nat) (h : n < 256) : (UInt8.ofNat n).toNat = n := by
  rw [UInt8.toNat_ofNat', Nat.mod_eq_of_lt h]

/-! ## Sequences under way -/

/-- The last `k` bytes of the sequence for a code point, each with six of its bits. -/
def tailBytes : Nat → Nat → Bytes
  | 0, _ => []
  | k + 1, v => UInt8.ofNat (v / 64 ^ k % 64 + 0x80) :: tailBytes k v

/-- A code point before its last `k` groups of six bits, and the next group. -/
theorem bits_succ (v k : Nat) : v / 64 ^ (k + 1) * 64 + v / 64 ^ k % 64 = v / 64 ^ k := by
  rw [Nat.pow_succ, ← Nat.div_div_eq_div_mul]
  exact Nat.div_add_mod' _ _

section
variable {b : UInt8} {bits six width low high : Nat} (hb : b.toNat = six + 0x80)
  (hlow : low ≤ six + 0x80) (hhigh : six + 0x80 ≤ high)
include hb hlow hhigh

/-- A byte that a sequence admits adds its six bits. -/
theorem next_of_admits : (⟨bits, width, k, low, high⟩ : Pending).next b =
    if k - 1 = 0 then ([.char (Char.ofNat (bits * 64 + six))], none)
    else ([], some ⟨bits * 64 + six, width + 1, k - 1, 0x80, 0xBF⟩) := by
  have hadmits : (⟨bits, width, k, low, high⟩ : Pending).admits b = true := by
    rw [Pending.admits, hb]
    simp [hlow, hhigh]
  have hpush : (⟨bits, width, k, low, high⟩ : Pending).push b =
      ⟨bits * 64 + (b.toNat - 0x80), width + 1, k - 1, 0x80, 0xBF⟩ := rfl
  rw [Pending.next, if_pos hadmits, hpush, hb, Nat.add_sub_cancel]

/-- The last byte that a sequence wants completes the character. -/
theorem readFrom_last : readFrom (some ⟨bits, width, 1, low, high⟩) (b :: rest) =
    .char (Char.ofNat (bits * 64 + six)) :: readFrom none rest := by
  rw [readFrom, next_of_admits hb hlow hhigh]
  rfl

/-- After another byte that a sequence wants one less is wanted. -/
theorem readFrom_more : readFrom (some ⟨bits, width, k + 2, low, high⟩) (b :: rest) =
    readFrom (some ⟨bits * 64 + six, width + 1, k + 1, 0x80, 0xBF⟩) rest := by
  rw [readFrom, next_of_admits hb hlow hhigh]
  rfl

end

/-- A sequence under way is completed by the bytes that it wants. -/
theorem readFrom_tailBytes {width low high : Nat} (hlow : low ≤ v / 64 ^ k % 64 + 0x80)
    (hhigh : v / 64 ^ k % 64 + 0x80 ≤ high) :
    readFrom (some ⟨v / 64 ^ (k + 1), width, k + 1, low, high⟩) (tailBytes (k + 1) v ++ rest) =
      .char (Char.ofNat v) :: readFrom none rest := by
  have hbyte : ∀ k, (UInt8.ofNat (v / 64 ^ k % 64 + 0x80)).toNat = v / 64 ^ k % 64 + 0x80 :=
    fun k => toNat_ofNat_of_lt _ (by omega)
  induction k generalizing width low high with
  | zero =>
    rw [tailBytes, List.cons_append, readFrom_last (hbyte 0) hlow hhigh, bits_succ, Nat.pow_zero,
      Nat.div_one]
    rfl
  | succ k ih =>
    rw [tailBytes, List.cons_append, readFrom_more (hbyte (k + 1)) hlow hhigh, bits_succ]
    exact ih (by omega) (by omega)

/-! ## Characters -/

section
variable {b : UInt8} {n : Nat}

/-- The first byte of two, with the five bits in front. -/
theorem lead_two (hb : b.toNat = n + 0xC0) (hlow : 2 ≤ n) (hhigh : n < 32) :
    lead b = .opens ⟨n, 1, 1, 0x80, 0xBF⟩ := by
  rw [lead, hb, if_neg (by omega), if_neg (by omega), if_pos (by omega), Nat.add_sub_cancel]

/-- The first byte of three, with the four bits in front. -/
theorem lead_three (hb : b.toNat = n + 0xE0) (hn : n < 16) : lead b = .opens ⟨n, 1, 2,
    if n + 0xE0 = 0xE0 then 0xA0 else 0x80, if n + 0xE0 = 0xED then 0x9F else 0xBF⟩ := by
  rw [lead, hb, if_neg (by omega), if_neg (by omega), if_neg (by omega), if_pos (by omega),
    Nat.add_sub_cancel]

/-- The first byte of four, with the three bits in front. -/
theorem lead_four (hb : b.toNat = n + 0xF0) (hn : n < 5) : lead b = .opens ⟨n, 1, 3,
    if n + 0xF0 = 0xF0 then 0x90 else 0x80, if n + 0xF0 = 0xF4 then 0x8F else 0xBF⟩ := by
  rw [lead, hb, if_neg (by omega), if_neg (by omega), if_neg (by omega), if_neg (by omega),
    if_pos (by omega), Nat.add_sub_cancel]

end

/-- A first byte that opens a sequence, with the bytes that the sequence wants, is a character. -/
theorem readFrom_opens {b : UInt8} {n low high : Nat} {tail : Bytes}
    (hb : lead b = .opens ⟨n, 1, k + 1, low, high⟩) (hn : n = v / 64 ^ (k + 1))
    (htail : tail = tailBytes (k + 1) v)
    (hlow : low ≤ v / 64 ^ k % 64 + 0x80) (hhigh : v / 64 ^ k % 64 + 0x80 ≤ high) :
    readFrom none (b :: (tail ++ rest)) = .char (Char.ofNat v) :: readFrom none rest := by
  rw [readFrom, hb, hn, htail]
  exact readFrom_tailBytes hlow hhigh

/-- The bytes of a character are read as the character, whatever follows. -/
theorem readFrom_utf8EncodeChar (c : Char) (rest : Bytes) :
    readFrom none (String.utf8EncodeChar c ++ rest) = .char c :: readFrom none rest := by
  have hvalid : c.val.toNat < 0xD800 ∨ 0xDFFF < c.val.toNat ∧ c.val.toNat < 0x110000 := c.valid
  have hchar : Char.ofNat c.val.toNat = c := Char.ofNat_toNat c
  rw [String.utf8EncodeChar.eq_def]
  generalize c.val.toNat = v at hvalid hchar ⊢
  dsimp only
  rw [← hchar]
  by_cases h1 : v ≤ 0x7F
  · have hbyte := toNat_ofNat_of_lt v (by omega)
    rw [if_pos h1, List.singleton_append, readFrom, lead, hbyte, if_pos (by omega)]
    rfl
  rw [if_neg h1]
  by_cases h2 : v ≤ 0x7FF
  · have hbits : v / 64 % 32 = v / 64 := by omega
    have hbyte := toNat_ofNat_of_lt (v / 64 + 192) (by omega)
    rw [if_pos h2, hbits]
    exact readFrom_opens (k := 0) (lead_two hbyte (by omega) (by omega)) (by simp)
      (by simp [tailBytes]) (by omega) (by omega)
  rw [if_neg h2]
  by_cases h3 : v ≤ 0xFFFF
  · have hbits : v / 4096 % 16 = v / 4096 := by omega
    have hbyte := toNat_ofNat_of_lt (v / 4096 + 224) (by omega)
    rw [if_pos h3, hbits]
    exact readFrom_opens (k := 1) (lead_three hbyte (by omega)) (by simp)
      (by simp [tailBytes]) (by split <;> omega) (by split <;> omega)
  · have hbits : v / 262144 % 8 = v / 262144 := by omega
    have hbyte := toNat_ofNat_of_lt (v / 262144 + 240) (by omega)
    rw [if_neg h3, hbits]
    exact readFrom_opens (k := 2) (lead_four hbyte (by omega)) (by simp)
      (by simp [tailBytes]) (by split <;> omega) (by split <;> omega)

/-! ## Texts -/

/-- The bytes of a text are read as its characters. -/
theorem read_utf8 (s : Text) : read s.utf8 = s.map Reading.char := by
  induction s with
  | nil => rfl
  | cons c s ih =>
    have hcons : Text.utf8 (c :: s) = String.utf8EncodeChar c ++ Text.utf8 s := rfl
    rw [read, hcons, readFrom_utf8EncodeChar]
    exact congrArg _ ih

/-- Characters are collected as they stand. -/
theorem collect_chars (start : Nat) (s : Text) : collect start (s.map Reading.char) = .ok s := by
  induction s generalizing start with
  | nil => rfl
  | cons c s ih =>
    rw [List.map_cons, collect, ih]
    rfl

/-- **Decoding gives a text back.** -/
theorem decode_utf8 (s : Text) : decode s.utf8 = .ok s := by
  rw [decode, read_utf8, collect_chars]

/-- Lossy decoding loses nothing of a text. -/
theorem decodeLossy_utf8 (s : Text) : decodeLossy s.utf8 = s := by
  rw [decodeLossy, read_utf8, List.map_map]
  exact List.map_id s

end Utf8

namespace Text

/-- No byte of a character but NUL is zero. -/
theorem ne_zero_of_mem_utf8EncodeChar (hc : c ≠ '\x00') {b : UInt8}
    (hb : b ∈ String.utf8EncodeChar c) : b ≠ 0 := by
  have hv : c.val.toNat ≠ 0 := fun h => hc (Char.ext (UInt32.toNat_inj.1 h))
  have hne : ∀ {n : Nat}, 0 < n → n < 256 → UInt8.ofNat n ≠ 0 := by
    intro n hpos hlt h
    have hn := Utf8.toNat_ofNat_of_lt n hlt
    rw [h] at hn
    exact hpos.ne hn
  rw [String.utf8EncodeChar.eq_def] at hb
  dsimp only at hb
  split at hb
  · obtain rfl := List.mem_singleton.1 hb
    exact hne (by omega) (by omega)
  · split at hb
    · simp only [List.mem_cons, List.not_mem_nil, or_false] at hb
      rcases hb with rfl | rfl <;> exact hne (by omega) (by omega)
    · split at hb
      · simp only [List.mem_cons, List.not_mem_nil, or_false] at hb
        rcases hb with rfl | rfl | rfl <;> exact hne (by omega) (by omega)
      · simp only [List.mem_cons, List.not_mem_nil, or_false] at hb
        rcases hb with rfl | rfl | rfl | rfl <;> exact hne (by omega) (by omega)

/-- A C string keeps a text without NULs. -/
theorem upToNul_utf8 {s : Text} (h : '\x00' ∉ s) : s.utf8.upToNul = s.utf8 := by
  rw [Bytes.upToNul, List.takeWhile_eq_self_iff]
  intro b hb
  obtain ⟨c, hc, hb⟩ := List.mem_flatMap.1 hb
  have hne : c ≠ '\x00' := fun heq => h (heq ▸ hc)
  simpa using ne_zero_of_mem_utf8EncodeChar hne hb

end Text

end MakeHost
