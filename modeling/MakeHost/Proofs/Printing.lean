import MakeHost.Lua.State

/-!
# What is printed, and where

A program prints to the innermost capture of its interpreter, or to standard output when there is
none (`sinkOf`). `Printed lines m m'` says that the captures and the standard output of `m'` are
those of `m` with the lines that were printed there, and with nothing else; captures that were
opened in between are closed again. `linesBetween` tells from two memories what was printed in the
one step between them.
-/

namespace MakeHost.Lua

variable {σ : Type} {m m' m₁ m₂ : Memory σ} {i j : Nat}

/-! ## Sinks and lines -/

/-- Where a line goes. -/
inductive Sink
  | output
  /-- A capture, by how many of its interpreter's captures were open with it. -/
  | capture (interpreter depth : Nat)
deriving DecidableEq

/-- A line that was printed. -/
structure Line where
  sink : Sink
  text : Text

/-- What the lines printed to a sink say. -/
def said (lines : List Line) (sink : Sink) : Text :=
  (lines.filter (·.sink = sink)).flatMap (·.text)

@[simp] theorem said_nil (sink : Sink) : said [] sink = [] := rfl

/-- What two rows of lines say to a sink is said one behind the other. -/
theorem said_append (lines more : List Line) (sink : Sink) :
    said (lines ++ more) sink = said lines sink ++ said more sink := by
  simp [said]

/-- Lines that went elsewhere say nothing to a sink. -/
theorem said_eq_nil {lines : List Line} {sink : Sink} (h : ∀ line ∈ lines, line.sink ≠ sink) :
    said lines sink = [] := by
  have hnone : lines.filter (·.sink = sink) = [] := by simpa [List.filter_eq_nil_iff] using h
  rw [said, hnone]
  rfl

@[simp] theorem said_self (line : Line) : said [line] line.sink = line.text := by simp [said]

/-- Where an interpreter prints: to its innermost capture, or to standard output. -/
def sinkOf (m : Memory σ) (i : Nat) : Sink :=
  match capturesOf m i with
  | [] => .output
  | _ :: rest => .capture i (rest.length + 1)

/-- Captures with the lines printed to the innermost one. -/
def withLines (lines : List Line) (i : Nat) : List Text → List Text
  | [] => []
  | top :: rest => (top ++ said lines (.capture i (rest.length + 1))) :: rest

/-- Lines open and close no capture. -/
@[simp] theorem length_withLines (lines : List Line) (captures : List Text) :
    (withLines lines i captures).length = captures.length := by
  cases captures <;> rfl

@[simp] theorem withLines_nil (captures : List Text) : withLines [] i captures = captures := by
  cases captures with
  | nil => rfl
  | cons top rest => simp [withLines]

/-- Lines are added one row behind the other. -/
theorem withLines_append (lines more : List Line) (captures : List Text) :
    withLines (lines ++ more) i captures = withLines more i (withLines lines i captures) := by
  cases captures with
  | nil => rfl
  | cons top rest => simp [withLines, said_append]

/-- Lines that were printed elsewhere. -/
theorem withLines_eq_self {lines : List Line} {captures : List Text}
    (h : ∀ line ∈ lines, line.sink ≠ .capture i captures.length) :
    withLines lines i captures = captures := by
  cases captures with
  | nil => rfl
  | cons top rest =>
    have hnone : said lines (.capture i (rest.length + 1)) = [] := said_eq_nil h
    rw [withLines, hnone, List.append_nil]

/-! ## Changed captures -/

/-- The memory with the captures of an interpreter changed. -/
def changed (i : Nat) (f : List Text → List Text) (m : Memory σ) : Memory σ :=
  { m with captures := m.captures.modify i f }

/-- An interpreter that is not there has no captures. -/
theorem capturesOf_of_le (h : m.captures.length ≤ i) : capturesOf m i = [] := by
  simp [capturesOf, h]

/-- An interpreter with captures is there. -/
theorem lt_of_capturesOf_ne_nil (h : capturesOf m i ≠ []) : i < m.captures.length :=
  Nat.lt_of_not_le fun hle => h (capturesOf_of_le hle)

/-- The captures of an interpreter that is there change as they are told to. -/
theorem capturesOf_changed_self {f : List Text → List Text} (hi : i < m.captures.length) :
    capturesOf (changed i f m) i = f (capturesOf m i) := by
  simp [capturesOf, changed, hi]

/-- The captures of the other interpreters stay. -/
theorem capturesOf_changed_of_ne {f : List Text → List Text} (h : j ≠ i) :
    capturesOf (changed i f m) j = capturesOf m j := by
  simp [capturesOf, changed, Ne.symm h]

/-- Nothing changes for an interpreter that is not there. -/
theorem changed_of_le {f : List Text → List Text} (h : m.captures.length ≤ i) :
    changed i f m = m := by
  rw [changed, List.modify_eq_self h]

@[simp] theorem length_changed {f : List Text → List Text} :
    (changed i f m).captures.length = m.captures.length := List.length_modify ..

/-! ## Writing -/

/-- What is written where a capture is open changes that capture. -/
theorem written_of_cons {top : Text} {rest : List Text} (h : capturesOf m i = top :: rest)
    (s : Text) : written m i s = changed i (fun _ => (top ++ s) :: rest) m := by
  rw [written, h, changed, List.modify_eq_set]

/-! ## Memories with lines in between -/

/-- The captures and the output of `m'` are those of `m` with the lines that were printed there. No
line went to a capture further out than the innermost one, or to an interpreter that is missing. -/
structure Printed (lines : List Line) (m m' : Memory σ) : Prop where
  output : m'.output = m.output ++ said lines .output
  count : m'.captures.length = m.captures.length
  captures : ∀ i, capturesOf m' i = withLines lines i (capturesOf m i)
  inside : ∀ line ∈ lines, ∀ i depth, line.sink = .capture i depth →
    i < m.captures.length ∧ (capturesOf m i).length ≤ depth

/-- Where captures and output are the same nothing was printed. -/
theorem Printed.nil (houtput : m'.output = m.output)
    (hcount : m'.captures.length = m.captures.length)
    (hcaptures : ∀ i, capturesOf m' i = capturesOf m i) : Printed [] m m' where
  output := by simp [houtput]
  count := hcount
  captures i := by simp [hcaptures i]
  inside := nofun

/-- Nothing is printed where nothing happens. -/
theorem Printed.refl (m : Memory σ) : Printed [] m m := .nil rfl rfl fun _ => rfl

/-- What is printed in two steps is printed in both together. -/
theorem Printed.append {lines more : List Line} (h : Printed lines m m₁) (h' : Printed more m₁ m₂) :
    Printed (lines ++ more) m m₂ where
  output := by rw [h'.output, h.output, said_append, List.append_assoc]
  count := h'.count.trans h.count
  captures i := by rw [h'.captures, h.captures, withLines_append]
  inside line hline i depth hsink := by
    obtain hline | hline := List.mem_append.1 hline
    · exact h.inside line hline i depth hsink
    · have hinside := h'.inside line hline i depth hsink
      rwa [h.count, h.captures, length_withLines] at hinside

/-- A change of what is outside of the host prints nothing. -/
theorem Printed.outside (m : Memory σ) (outside : σ) :
    Printed [] m { m with outside := outside } := .nil rfl rfl fun _ => rfl

/-- What is written goes to the sink of its interpreter and nowhere else. -/
theorem Printed.written (m : Memory σ) (i : Nat) (s : Text) :
    Printed [⟨sinkOf m i, s⟩] m (written m i s) := by
  cases h : capturesOf m i with
  | nil =>
    have hsink : sinkOf m i = .output := by rw [sinkOf, h]
    have hwritten : Lua.written m i s = { m with output := m.output ++ s } := by
      rw [Lua.written, h]
    rw [hsink, hwritten]
    exact ⟨by simp [said], rfl, fun j => (withLines_eq_self (by simp)).symm, by simp⟩
  | cons top rest =>
    have hsink : sinkOf m i = .capture i (rest.length + 1) := by rw [sinkOf, h]
    have hi : i < m.captures.length := lt_of_capturesOf_ne_nil (by simp [h])
    rw [hsink, written_of_cons h]
    refine ⟨by simp [said, Lua.changed], length_changed, fun j => ?_, ?_⟩
    · by_cases hj : j = i
      · subst hj
        rw [capturesOf_changed_self hi, h]
        simp [withLines, said]
      · rw [capturesOf_changed_of_ne hj]
        exact (withLines_eq_self (by simp [Ne.symm hj])).symm
    · intro line hline j depth hplace
      obtain rfl := List.mem_singleton.1 hline
      cases hplace
      simp [h, hi]

/-- Where no capture is open a line goes to standard output, and nothing else changes. -/
theorem written_of_nil {line : Text} (h : capturesOf m i = []) :
    sinkOf m i = .output ∧ written m i line = { m with output := m.output ++ line } := by
  rw [sinkOf, written, h]
  exact ⟨rfl, rfl⟩

/-- Where a capture is open a line goes to the innermost one, and not to standard output. -/
theorem written_to_capture {top line : Text} {rest : List Text} (h : capturesOf m i = top :: rest) :
    sinkOf m i = .capture i (rest.length + 1) ∧ (written m i line).output = m.output ∧
      capturesOf (written m i line) i = (top ++ line) :: rest := by
  have hsink : sinkOf m i = .capture i (rest.length + 1) := by rw [sinkOf, h]
  have hwritten := Printed.written m i line
  rw [hsink] at hwritten
  refine ⟨hsink, ?_, ?_⟩
  · rw [hwritten.output, said_eq_nil (by simp), List.append_nil]
  · rw [hwritten.captures, h, withLines, said_self ⟨.capture i (rest.length + 1), line⟩]

/-- Writing an empty text prints nothing. -/
theorem Printed.written_nil (m : Memory σ) (i : Nat) : Printed [] m (Lua.written m i []) := by
  have hwritten := Printed.written m i []
  have hsaid : ∀ sink, said [⟨sinkOf m i, []⟩] sink = [] := by
    intro sink
    simp [said]
  refine .nil ?_ hwritten.count fun j => ?_
  · rw [hwritten.output, hsaid, List.append_nil]
  · rw [hwritten.captures]
    cases capturesOf m j with
    | nil => rfl
    | cons top rest => rw [withLines, hsaid, List.append_nil]

/-! ## Telling what was printed -/

open Classical in
/-- What was printed in the one step from `m` to `m'`: the step is that an interpreter prints a
text, or nothing was printed. -/
noncomputable def linesBetween (m m' : Memory σ) : List Line :=
  if h : ∃ i s, s ≠ [] ∧ m' = written m i s then [⟨sinkOf m h.choose, h.choose_spec.choose⟩] else []

/-- Where an interpreter prints, two accounts of what was printed agree. -/
theorem Printed.said_eq {lines more : List Line} (h : Printed lines m m') (h' : Printed more m m')
    (i : Nat) : said lines (sinkOf m i) = said more (sinkOf m i) := by
  unfold sinkOf
  cases hcaptures : capturesOf m i with
  | nil => exact List.append_cancel_left (h.output.symm.trans h'.output)
  | cons top rest =>
    have hsame := (h.captures i).symm.trans (h'.captures i)
    rw [hcaptures] at hsame
    simpa [withLines] using hsame

/-- A memory that is written to tells what was written. -/
theorem linesBetween_written {s : Text} (hs : s ≠ []) :
    linesBetween m (written m i s) = [⟨sinkOf m i, s⟩] := by
  have hexists : ∃ j t, t ≠ [] ∧ written m i s = written m j t := ⟨i, s, hs, rfl⟩
  rw [linesBetween, dif_pos hexists]
  obtain ⟨ht, heq⟩ := hexists.choose_spec.choose_spec
  generalize hexists.choose_spec.choose = t at ht heq ⊢
  generalize hexists.choose = j at heq ⊢
  have hsaid := (Printed.written m i s).said_eq (heq ▸ Printed.written m j t) i
  rw [said_self ⟨sinkOf m i, s⟩] at hsaid
  by_cases hsink : sinkOf m j = sinkOf m i
  · rw [← hsink, said_self ⟨sinkOf m j, t⟩] at hsaid
    have hst : s = t := hsaid
    rw [hsink, hst]
  · rw [said_eq_nil (by simpa using hsink)] at hsaid
    exact absurd hsaid hs

/-- Where nothing was printed nothing is told. -/
theorem linesBetween_eq_nil (h : ∀ i s, s ≠ [] → m' ≠ written m i s) : linesBetween m m' = [] :=
  dif_neg fun ⟨i, s, hs, heq⟩ => h i s hs heq

/-- Where nothing was printed no line is told. -/
theorem Printed.linesBetween_eq_nil (h : Printed [] m m') : linesBetween m m' = [] := by
  refine Lua.linesBetween_eq_nil fun i s hs heq => hs ?_
  subst heq
  exact (said_self ⟨sinkOf m i, s⟩).symm.trans ((Printed.written m i s).said_eq h i)

/-- Nothing is told when captures were opened or closed. -/
theorem linesBetween_of_length_ne (h : (capturesOf m' i).length ≠ (capturesOf m i).length) :
    linesBetween m m' = [] := by
  refine linesBetween_eq_nil fun j s _ heq => h ?_
  rw [heq, (Printed.written m j s).captures i, length_withLines]

end MakeHost.Lua
