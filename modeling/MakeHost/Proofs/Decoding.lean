import MakeHost.Proofs.Utf8

/-!
# What is read as text

Every reading was read from bytes of its own, and a character from its UTF-8 form
(`Utf8.covers_read`): a sequence under way holds the first bytes of the form of each character that
can complete it (`Utf8.Pending.Begun`). So decoding succeeds on the UTF-8 forms of texts and on
nothing else (`Utf8.decode_eq_ok_iff`), and lossy decoding makes a NUL of a zero byte alone
(`Utf8.zero_mem_of_nul_mem`).
-/

namespace MakeHost.Utf8

variable {b : UInt8} {v k : Nat} {front bytes : Bytes} {p : Pending} {readings : List Reading}
  {s : Text}

/-! ## Sequences under way -/

/-- A byte is given by its value. -/
theorem ofNat_toNat (b : UInt8) {n : Nat} (h : b.toNat = n) : UInt8.ofNat n = b := by
  rw [← h, UInt8.ofNat_toNat]

/-- The bytes read so far begin the UTF-8 form of every character whose code point has the payload
bits in front and goes on within the range of the next byte. -/
structure Pending.Begun (p : Pending) (front : Bytes) : Prop where
  width : front.length = p.width
  wanted : 0 < p.wanted
  low : 0x80 ≤ p.low
  high : p.high ≤ 0xBF
  form : ∀ v, v / 64 ^ p.wanted = p.bits → p.low ≤ v / 64 ^ (p.wanted - 1) % 64 + 0x80 →
    v / 64 ^ (p.wanted - 1) % 64 + 0x80 ≤ p.high →
    String.utf8EncodeChar (Char.ofNat v) = front ++ tailBytes p.wanted v

/-- The UTF-8 form of a code point, by its length. -/
theorem utf8EncodeChar_ofNat (hv : v.isValidChar) : String.utf8EncodeChar (Char.ofNat v) =
    if v ≤ 0x7F then [UInt8.ofNat v]
    else if v ≤ 0x7FF then UInt8.ofNat (v / 64 % 32 + 0xC0) :: tailBytes 1 v
    else if v ≤ 0xFFFF then UInt8.ofNat (v / 4096 % 16 + 0xE0) :: tailBytes 2 v
    else UInt8.ofNat (v / 262144 % 8 + 0xF0) :: tailBytes 3 v := by
  have hval : (Char.ofNat v).val.toNat = v := (Char.toNat_ofNat v).trans (if_pos hv)
  rw [String.utf8EncodeChar.eq_def, hval]
  simp [tailBytes]

/-- The first byte of two. -/
theorem begun_two (hlow : 0xC2 ≤ b.toNat) (hhigh : b.toNat < 0xE0) :
    (⟨b.toNat - 0xC0, 1, 1, 0x80, 0xBF⟩ : Pending).Begun [b] := by
  refine ⟨rfl, Nat.one_pos, Nat.le_refl _, Nat.le_refl _, fun v hbits _ _ => ?_⟩
  dsimp only at hbits
  rw [utf8EncodeChar_ofNat (.inl (by omega)), if_neg (by omega), if_pos (by omega),
    ofNat_toNat b (by omega)]
  rfl

/-- The first byte of three; the range of the next one excludes overlong forms and surrogates. -/
theorem begun_three (hlow : 0xE0 ≤ b.toNat) (hhigh : b.toNat < 0xF0) :
    (⟨b.toNat - 0xE0, 1, 2, if b.toNat = 0xE0 then 0xA0 else 0x80,
      if b.toNat = 0xED then 0x9F else 0xBF⟩ : Pending).Begun [b] := by
  refine ⟨rfl, Nat.two_pos, by dsimp only; split <;> omega, by dsimp only; split <;> omega,
    fun v hbits hfrom hto => ?_⟩
  dsimp only at hbits hfrom hto
  have hvalid : v.isValidChar := by
    rw [Nat.isValidChar]
    split at hto <;> omega
  have hlong : ¬ v ≤ 0x7FF := by split at hfrom <;> omega
  rw [utf8EncodeChar_ofNat hvalid, if_neg (by omega), if_neg hlong, if_pos (by omega),
    ofNat_toNat b (by omega)]
  rfl

/-- The first byte of four; the range of the next one excludes overlong forms and what is above the
last code point. -/
theorem begun_four (hlow : 0xF0 ≤ b.toNat) (hhigh : b.toNat < 0xF5) :
    (⟨b.toNat - 0xF0, 1, 3, if b.toNat = 0xF0 then 0x90 else 0x80,
      if b.toNat = 0xF4 then 0x8F else 0xBF⟩ : Pending).Begun [b] := by
  refine ⟨rfl, Nat.succ_pos 2, by dsimp only; split <;> omega, by dsimp only; split <;> omega,
    fun v hbits hfrom hto => ?_⟩
  dsimp only at hbits hfrom hto
  have hlong : ¬ v ≤ 0xFFFF := by split at hfrom <;> omega
  have hvalid : v.isValidChar := by
    rw [Nat.isValidChar]
    split at hto <;> omega
  rw [utf8EncodeChar_ofNat hvalid, if_neg (by omega), if_neg (by omega), if_neg hlong,
    ofNat_toNat b (by omega)]
  rfl

/-- A first byte begins the form of every character that its sequence can become. -/
theorem begun_of_lead (h : lead b = .opens p) : p.Begun [b] := by
  unfold lead at h
  dsimp only at h
  split at h; · cases h
  split at h; · cases h
  split at h; · exact Lead.opens.inj h ▸ begun_two (by omega) (by omega)
  split at h; · exact Lead.opens.inj h ▸ begun_three (by omega) (by omega)
  split at h; · exact Lead.opens.inj h ▸ begun_four (by omega) (by omega)
  cases h

/-- A byte that stands for itself. -/
theorem form_of_lead {c : Char} (h : lead b = .char c) : String.utf8EncodeChar c = [b] := by
  unfold lead at h
  dsimp only at h
  split at h
  · obtain rfl := Lead.char.inj h
    rw [utf8EncodeChar_ofNat (.inl (by omega)), if_pos (by omega), ofNat_toNat b rfl]
  · grind

/-- The form that a byte goes on with has the byte's six bits next. -/
theorem Pending.Begun.form_push (h : p.Begun front) (hb : p.admits b = true)
    (hv : v / 64 ^ (p.wanted - 1) = p.bits * 64 + (b.toNat - 0x80)) :
    String.utf8EncodeChar (Char.ofNat v) = front ++ b :: tailBytes (p.wanted - 1) v := by
  have hlow := h.low
  have hhigh := h.high
  have hform := h.form v
  obtain ⟨k, hk⟩ := Nat.exists_eq_succ_of_ne_zero h.wanted.ne'
  rw [Pending.admits, Bool.and_eq_true, decide_eq_true_eq, decide_eq_true_eq] at hb
  have hbits := bits_succ v k
  rw [hk, Nat.succ_eq_add_one, Nat.add_sub_cancel] at hv hform ⊢
  have hsix : v / 64 ^ k % 64 = b.toNat - 0x80 := by omega
  rw [hform (by omega) (by omega) (by omega), tailBytes, hsix, ofNat_toNat b (by omega)]

/-- A byte that a sequence admits and that completes it gives the character of the bytes. -/
theorem Pending.Begun.completed (h : p.Begun front) (hb : p.admits b = true)
    (hdone : (p.push b).wanted = 0) :
    String.utf8EncodeChar (Char.ofNat (p.push b).bits) = front ++ [b] := by
  have hwanted : p.wanted - 1 = 0 := hdone
  have hbits : (p.push b).bits / 64 ^ (p.wanted - 1) = p.bits * 64 + (b.toNat - 0x80) := by
    rw [hwanted, Nat.pow_zero, Nat.div_one]
    rfl
  have hform := h.form_push hb hbits
  rwa [hwanted] at hform

/-- A byte that a sequence admits and that does not complete it belongs to the sequence. -/
theorem Pending.Begun.push (h : p.Begun front) (hb : p.admits b = true)
    (hmore : (p.push b).wanted ≠ 0) : (p.push b).Begun (front ++ [b]) where
  width := by
    rw [List.length_append, h.width]
    rfl
  wanted := Nat.pos_of_ne_zero hmore
  low := Nat.le_refl _
  high := Nat.le_refl _
  form v hbits _ _ := by
    rw [h.form_push hb hbits, List.append_assoc]
    rfl

/-! ## Readings -/

/-- The readings were read from these bytes, each from some of its own. -/
inductive Covers : List Reading → Bytes → Prop
  | nil : Covers [] []
  | char (c : Char) {readings : List Reading} {bytes : Bytes} : Covers readings bytes →
      Covers (.char c :: readings) (String.utf8EncodeChar c ++ bytes)
  | malformed (run : Bytes) {readings : List Reading} {bytes : Bytes} : Covers readings bytes →
      Covers (.malformed run.length :: readings) (run ++ bytes)
  | unfinished (run : Bytes) : Covers [.unfinished run.length] run

/-- Reading covers the bytes, and the first bytes of a sequence under way with them. -/
theorem covers_readFrom (bytes : Bytes) : Covers (readFrom none bytes) bytes ∧
    ∀ p front, Pending.Begun p front → Covers (readFrom (some p) bytes) (front ++ bytes) := by
  induction bytes with
  | nil =>
    refine ⟨.nil, fun p front h => ?_⟩
    rw [readFrom, ← h.width, List.append_nil]
    exact .unfinished front
  | cons b bytes ih =>
    obtain ⟨ih, ihPending⟩ := ih
    have hstart : Covers ((lead b).start.1 ++ readFrom (lead b).start.2 bytes) (b :: bytes) := by
      cases hlead : lead b with
      | char c =>
        have hchar := Covers.char c ih
        rwa [form_of_lead hlead] at hchar
      | opens p => exact ihPending p [b] (begun_of_lead hlead)
      | stray => exact .malformed [b] ih
    refine ⟨hstart, fun p front h => ?_⟩
    rw [readFrom]
    dsimp only [Pending.next]
    split
    · next hadmits =>
      rw [List.append_cons]
      split
      · next hdone =>
        have hchar := Covers.char (Char.ofNat (p.push b).bits) ih
        rwa [h.completed hadmits hdone] at hchar
      · next hmore => exact ihPending _ _ (h.push hadmits hmore)
    · rw [← h.width]
      exact .malformed front hstart

/-- Readings cover the bytes that they were read from. -/
theorem covers_read (bytes : Bytes) : Covers (read bytes) bytes := (covers_readFrom bytes).1

/-! ## Decoding -/

/-- Characters alone cover their UTF-8 form. -/
theorem Covers.eq_utf8 (h : Covers (s.map Reading.char) bytes) : bytes = s.utf8 := by
  induction s generalizing bytes with
  | nil => cases h; rfl
  | cons c s ih =>
    cases h with
    | char _ hrest =>
      rw [ih hrest]
      rfl

/-- What is collected without a fault is all that was read. -/
theorem eq_of_collect {start : Nat} (h : collect start readings = .ok s) :
    readings = s.map Reading.char := by
  induction readings generalizing start s with
  | nil => cases h; rfl
  | cons reading readings ih =>
    cases reading with
    | malformed | unfinished => cases h
    | char c =>
      rw [collect] at h
      cases hrest : collect (start + c.utf8Size) readings with
      | error fault =>
        rw [hrest] at h
        cases h
      | ok rest =>
        rw [hrest] at h
        cases h
        rw [ih hrest]
        rfl

/-- **Decoding succeeds on the UTF-8 form of a text, and gives the text.** -/
theorem decode_eq_ok_iff : decode bytes = .ok s ↔ bytes = s.utf8 := by
  constructor
  · intro h
    have hcovers := covers_read bytes
    rw [eq_of_collect h] at hcovers
    exact hcovers.eq_utf8
  · rintro rfl
    exact decode_utf8 s

/-- A byte string is valid UTF-8 if it is the UTF-8 form of a text. -/
theorem isValidUTF8_iff : bytes.toByteArray.IsValidUTF8 ↔ ∃ s : Text, bytes = s.utf8 := by
  constructor
  · rintro ⟨s, hs⟩
    have hdata := congrArg (fun array => array.data.toList) hs
    simp only [List.utf8Encode, List.data_toByteArray] at hdata
    exact ⟨s, hdata⟩
  · rintro ⟨s, rfl⟩
    exact ⟨s, rfl⟩

/-- Decoding fails exactly on byte strings that are not valid UTF-8. -/
theorem decode_error_iff : (∃ fault, decode bytes = .error fault) ↔
    ¬ bytes.toByteArray.IsValidUTF8 := by
  rw [isValidUTF8_iff]
  cases hdecode : decode bytes with
  | ok s =>
    have hs := decode_eq_ok_iff.1 hdecode
    simp [hs]
  | error fault =>
    refine ⟨fun _ ⟨s, hs⟩ => ?_, fun _ => ⟨fault, rfl⟩⟩
    rw [decode_eq_ok_iff.2 hs] at hdecode
    cases hdecode

/-- Lossy decoding makes a NUL of a zero byte alone. -/
theorem zero_mem_of_nul_mem (h : '\x00' ∈ decodeLossy bytes) : 0 ∈ bytes := by
  have hcovers := covers_read bytes
  rw [decodeLossy] at h
  generalize read bytes = readings at h hcovers
  induction hcovers with
  | nil => cases h
  | char c _ ih =>
    obtain hc | hrest := List.mem_cons.1 h
    · rw [List.mem_append]
      exact .inl (by cases hc; decide)
    · exact List.mem_append_right _ (ih hrest)
  | malformed run _ ih =>
    obtain hc | hrest := List.mem_cons.1 h
    · cases hc
    · exact List.mem_append_right _ (ih hrest)
  | unfinished run =>
    obtain hc := List.mem_singleton.1 h
    cases hc

end MakeHost.Utf8
