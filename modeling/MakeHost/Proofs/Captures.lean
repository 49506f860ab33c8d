import MakeHost.Proofs.Logged
import MakeHost.Proofs.Printing
import MakeHost.Proofs.Scripts

/-!
# Captures

Programs, make and the functions that make calls may nest in any way, whatever the interpreter does
in between: what is printed in a run is logged line by line (`Prints`), and a capture collects the
lines that were printed while it was the innermost one of its interpreter, and is closed however its
body ends (`Collects`).
-/

namespace MakeHost.Lua

variable {σ α β ε : Type} {i : Nat}

/-- A world with a log of what is printed. -/
abbrev Logged (σ : Type) := World Code (Memory σ × List Line)

variable {w w' w₁ w₂ : Logged σ}

/-! ## Steps that print -/

/-- The log has grown by the lines that were printed. -/
def Prints (w w' : Logged σ) : Prop :=
  ∃ lines, w'.memory.2 = w.memory.2 ++ lines ∧ Printed lines w.memory.1 w'.memory.1

/-- Where the memory stays nothing is printed. -/
theorem Prints.of_memory (h : w'.memory = w.memory) : Prints w w' :=
  ⟨[], by rw [h, List.append_nil], h ▸ .refl _⟩

/-- What is printed adds up. -/
theorem Prints.trans (h : Prints w w₁) (h' : Prints w₁ w₂) : Prints w w₂ := by
  obtain ⟨lines, hlog, hprinted⟩ := h
  obtain ⟨more, hlog', hprinted'⟩ := h'
  exact ⟨lines ++ more, by rw [hlog', hlog, List.append_assoc], hprinted.append hprinted'⟩

/-- Make itself prints nothing. -/
theorem Prints.writes : Make.Writes (Prints : Logged σ → Logged σ → Prop) where
  right _ := .of_memory rfl
  trans := .trans
  fail _ _ := .of_memory rfl
  print _ _ := .of_memory rfl
  assign _ _ _ _ := .of_memory rfl
  undefine _ _ := .of_memory rfl

/-- The world once what is remembered was changed. -/
noncomputable def remembering (g : Memory σ → Memory σ) (w : Logged σ) : Logged σ :=
  { w with memory := (g w.memory.1, w.memory.2 ++ linesBetween w.memory.1 (g w.memory.1)) }

/-- A change of the memory prints what is logged for it. -/
theorem Prints.remembering {g : Memory σ → Memory σ} {lines : List Line}
    (h : Printed lines w.memory.1 (g w.memory.1))
    (hlines : linesBetween w.memory.1 (g w.memory.1) = lines) : Prints w (remembering g w) :=
  ⟨lines, congrArg _ hlines, h⟩

/-- A change of the memory, performed with the log. -/
theorem perform_changeMemory (l : Make.Level Code (Memory σ × List Line))
    (g : Memory σ → Memory σ) :
    Make.perform l ((changeMemory g).logged linesBetween) w = some ((), remembering g w) := rfl

/-- What is outside of the host, read with the log. -/
theorem perform_outside (l : Make.Level Code (Memory σ × List Line)) (w : Logged σ) :
    Make.perform l ((outside : Action Code (Memory σ) σ).logged linesBetween) w =
      some (w.memory.1.outside, w) := rfl

/-! ## Actions that print -/

/-- What the action does goes along at two levels of make that do, and prints what is logged. -/
def Heard (α : Type) (x : Action Code (Memory σ) α) : Prop :=
  ∀ ⦃l l' : Make.Level Code (Memory σ × List Line)⦄, l.Along Prints l' → ∀ w,
    Run.Along Prints w (Make.perform l (x.logged linesBetween))
      (Make.perform l' (x.logged linesBetween))

/-- One action that prints after another. -/
theorem Heard.bind {x : Action Code (Memory σ) α} {f : α → Action Code (Memory σ) β}
    (hx : Heard α x) (hf : ∀ a, Heard β (f a)) : Heard β (x >>= f) := by
  intro l l' hl w
  rw [Action.logged_bind, Make.perform_bind, Make.perform_bind]
  exact .bind Prints.writes.toSteps (hx hl w) fun a w' _ => hf a hl w'

/-- A request prints nothing unless something is remembered. -/
theorem Heard.request {r : Request Code (Memory σ)} (hr : ∀ m, r ≠ .remember m) :
    Heard _ (Action.request r) := by
  intro l l' hl w
  have hT : Run.Steps (Prints : Logged σ → Logged σ → Prop) := Prints.writes.toSteps
  have hmemory : ∀ (w : Logged σ) call, (w.note call).memory = w.memory := by
    intro w call
    unfold World.note
    split <;> rfl
  have hnote : ∀ call, Run.Along Prints w (Run.note call) (Run.note call) :=
    fun call => .of_eq rfl fun _ => .of_memory (hmemory w call)
  have hallocate : ∀ (w : Logged σ) content, Run.Along Prints w
      (do return some (← Make.allocate content)) (do return some (← Make.allocate content)) :=
    fun w content => .of_eq rfl fun _ => .of_memory rfl
  cases r with
  | evaluate text =>
    refine .bind hT (.bind hT (hnote _) fun _ w' _ => ?_) fun _ _ _ => .pure _
    exact Make.Level.run_along hl.evaluate text
  | expand text =>
    refine .bind hT (.bind hT (hnote _) fun _ w' _ => ?_) fun _ _ _ => .pure _
    exact .bind hT (hl.expand w' 0 text) fun expansion w'' _ => hallocate w'' _
  | enter entry => exact .of_eq rfl fun _ => .of_memory (hmemory w _)
  | remember m => exact absurd rfl (hr m)
  | _ => exact .of_eq rfl fun _ => .of_memory rfl

/-- A change of what is remembered prints what is logged for it. -/
theorem Heard.changeMemory {g : Memory σ → Memory σ}
    (hg : ∀ m, Printed (linesBetween m (g m)) m (g m)) : Heard _ (changeMemory g) := by
  intro l l' hl w
  rw [Run.Along, perform_changeMemory, perform_changeMemory]
  intro _ a w' h
  cases h
  exact ⟨rfl, .remembering (hg w.memory.1) rfl⟩

/-- A change of what is outside of the host prints nothing. -/
theorem Heard.changeOutside (f : σ → σ) : Heard _ (changeOutside f) := by
  refine .changeMemory fun m => ?_
  rw [(Printed.outside m (f m.outside)).linesBetween_eq_nil]
  exact .outside m _

/-- Writing prints one line, or nothing if the text is empty. -/
theorem Heard.write (i : Nat) (s : Text) : Heard _ (write i s : Action Code (Memory σ) Unit) := by
  refine .changeMemory fun m => ?_
  by_cases hs : s = []
  · rw [hs, (Printed.written_nil m i).linesBetween_eq_nil]
    exact .written_nil m i
  · rw [linesBetween_written hs]
    exact .written m i s

/-! ## A capture -/

/-- Opening a capture. -/
def opened (i : Nat) : Memory σ → Memory σ := changed i ([] :: ·)

/-- Closing the innermost capture. -/
def closed (i : Nat) : Memory σ → Memory σ := changed i List.tail

/-- What an interpreter has collected in its innermost capture, less the line feeds at its end. -/
def collected (m : Memory σ) (i : Nat) : Text :=
  ((capturesOf m i).headD []).dropTailWhile (· = '\n')

/-- A capture is opened, its body runs, what it has collected is read, and it is closed. -/
theorem perform_captured (l : Make.Level Code (Memory σ × List Line))
    (body : ExceptT ε (Action Code (Memory σ)) Unit) :
    Make.perform l ((captured i body).run.logged linesBetween) w =
      (Make.perform l (body.run.logged linesBetween) (remembering (opened i) w)).map fun (r, w₂) =>
        (r.map fun _ => collected w₂.memory.1 i, remembering (closed i) w₂) := by
  have hopen : Make.perform l ((changeCaptures i ([] :: ·)).logged linesBetween) w =
      some ((), remembering (opened i) w) := perform_changeMemory l (opened i)
  unfold captured
  rw [ExceptT.run_mk, Action.logged_bind, Make.perform_bind, Run.bind_of_eq_some hopen,
    Action.logged_bind, Make.perform_bind, Run.bind_apply]
  cases Make.perform l (body.run.logged linesBetween) (remembering (opened i) w) with
  | none => rfl
  | some result => rfl

/-- An interpreter has one capture more once one was opened. -/
theorem capturesOf_opened {m : Memory σ} (hi : i < m.captures.length) :
    capturesOf (opened i m) i = [] :: capturesOf m i := capturesOf_changed_self hi

/-- An interpreter has one capture less once one was closed. -/
theorem capturesOf_closed {m : Memory σ} (hi : i < m.captures.length) :
    capturesOf (closed i m) i = (capturesOf m i).tail := capturesOf_changed_self hi

/-- Opening a capture prints nothing. -/
theorem linesBetween_opened (m : Memory σ) : linesBetween m (opened i m) = [] := by
  obtain hlt | hle := Nat.lt_or_ge i m.captures.length
  · refine linesBetween_of_length_ne (i := i) ?_
    rw [capturesOf_opened hlt]
    exact Nat.succ_ne_self _
  · rw [opened, changed_of_le hle]
    exact (Printed.refl m).linesBetween_eq_nil

/-- Closing a capture prints nothing. -/
theorem linesBetween_closed (m : Memory σ) : linesBetween m (closed i m) = [] := by
  obtain hlt | hle := Nat.lt_or_ge i m.captures.length
  · cases h : capturesOf m i with
    | nil =>
      have hprinted : Printed [] m (closed i m) := by
        refine .nil rfl length_changed fun j => ?_
        by_cases hj : j = i
        · rw [hj, capturesOf_closed hlt, h]
          rfl
        · exact capturesOf_changed_of_ne hj
      exact hprinted.linesBetween_eq_nil
    | cons top rest =>
      refine linesBetween_of_length_ne (i := i) ?_
      rw [capturesOf_closed hlt, h]
      exact (Nat.succ_ne_self _).symm
  · rw [closed, changed_of_le hle]
    exact (Printed.refl m).linesBetween_eq_nil

/-- What a body prints in a capture of its own. The lines of the capture are closed with it. -/
theorem Printed.captured {m m₂ : Memory σ} {lines : List Line} (hi : i < m.captures.length)
    (h : Printed lines (opened i m) m₂) : Printed lines m (closed i m₂) ∧
      (∀ line ∈ lines, ∀ depth, line.sink = .capture i depth → (capturesOf m i).length < depth) ∧
      collected m₂ i = (said lines (.capture i ((capturesOf m i).length + 1))).dropTailWhile
        (· = '\n') := by
  have hself : capturesOf (opened i m) i = [] :: capturesOf m i := capturesOf_opened hi
  have hother : ∀ j, j ≠ i → capturesOf (opened i m) j = capturesOf m j :=
    fun j hj => capturesOf_changed_of_ne hj
  have hcaptures : capturesOf m₂ i =
      said lines (.capture i ((capturesOf m i).length + 1)) :: capturesOf m i := by
    rw [h.captures, hself]
    rfl
  have hdeep : ∀ line ∈ lines, ∀ depth, line.sink = .capture i depth →
      (capturesOf m i).length < depth := by
    intro line hline depth hsink
    have hinside := (h.inside line hline i depth hsink).2
    rwa [hself] at hinside
  have hi₂ : i < m₂.captures.length := by
    rw [h.count, opened, length_changed]
    exact hi
  refine ⟨⟨h.output, ?_, fun j => ?_, fun line hline j depth hsink => ?_⟩, hdeep, ?_⟩
  · rw [closed, length_changed, h.count, opened, length_changed]
  · by_cases hj : j = i
    · subst hj
      have hclosed : capturesOf (closed j m₂) j = capturesOf m j := by
        rw [capturesOf_closed hi₂, hcaptures]
        rfl
      rw [hclosed]
      refine (withLines_eq_self fun line hline hsink => ?_).symm
      exact Nat.lt_irrefl _ (hdeep line hline _ hsink)
    · rw [closed, capturesOf_changed_of_ne hj, h.captures, hother j hj]
  · obtain ⟨hpresent, hinside⟩ := h.inside line hline j depth hsink
    rw [opened, length_changed] at hpresent
    refine ⟨hpresent, ?_⟩
    by_cases hj : j = i
    · subst hj
      exact Nat.le_of_lt (hdeep line hline depth hsink)
    · rwa [hother j hj] at hinside
  · rw [collected, hcaptures]
    rfl

/-- The log has grown by the lines that were printed. None of them went to the captures that `i` had
open before; a result is what was printed to the next one. -/
def Collects (i : Nat) (result : Option Text) (w w' : Logged σ) : Prop :=
  ∃ lines, w'.memory.2 = w.memory.2 ++ lines ∧ Printed lines w.memory.1 w'.memory.1 ∧
    (∀ line ∈ lines, ∀ depth, line.sink = .capture i depth →
      (capturesOf w.memory.1 i).length < depth) ∧
    ∀ text, result = some text → text =
      (said lines (.capture i ((capturesOf w.memory.1 i).length + 1))).dropTailWhile (· = '\n')

/-- What is collected is printed. -/
theorem Collects.prints {result : Option Text} (h : Collects i result w w') : Prints w w' := by
  obtain ⟨lines, hlog, hprinted, -, -⟩ := h
  exact ⟨lines, hlog, hprinted⟩

/-- An error before anything was printed. -/
theorem Collects.refl (i : Nat) (w : Logged σ) : Collects i none w w :=
  ⟨[], (List.append_nil _).symm, .refl _, nofun, nofun⟩

/-- A capture around what prints. An interpreter that is not there has no captures, before, after
and in between. -/
theorem Prints.captured (h : Prints (Lua.remembering (opened i) w) w₂) :
    Collects i (some (collected w₂.memory.1 i)) w (Lua.remembering (closed i) w₂) := by
  obtain ⟨lines, hlog, hprinted⟩ := h
  have hlog' : (Lua.remembering (closed i) w₂).memory.2 = w.memory.2 ++ lines := by
    simp only [Lua.remembering, linesBetween_opened, linesBetween_closed, List.append_nil] at hlog ⊢
    exact hlog
  obtain hi | hle := Nat.lt_or_ge i w.memory.1.captures.length
  · obtain ⟨hprinted, hdeep, htext⟩ := Printed.captured hi hprinted
    exact ⟨lines, hlog', hprinted, hdeep, fun text h => by cases h; exact htext⟩
  · have hopened : opened i w.memory.1 = w.memory.1 := changed_of_le hle
    have hprinted' : Printed lines w.memory.1 w₂.memory.1 := hopened ▸ hprinted
    have hclosed : closed i w₂.memory.1 = w₂.memory.1 := changed_of_le (hprinted'.count ▸ hle)
    have hnone : ∀ line ∈ lines, ∀ depth, line.sink ≠ .capture i depth := by
      intro line hline depth hsink
      exact Nat.not_lt.2 hle (hprinted'.inside line hline i depth hsink).1
    refine ⟨lines, hlog', ?_, fun line hline depth hsink => absurd hsink (hnone line hline depth),
      fun text h => ?_⟩
    · show Printed lines w.memory.1 (closed i w₂.memory.1)
      rwa [hclosed]
    · cases h
      rw [collected, hprinted'.captures, capturesOf_of_le hle,
        said_eq_nil fun line hline => hnone line hline _]
      rfl

/-- A capture is opened and closed around its body, which prints what is logged. -/
theorem captured_along {body : ExceptT ε (Action Code (Memory σ)) Unit} (hbody : Heard _ body.run)
    {l l' : Make.Level Code (Memory σ × List Line)} (hl : l.Along Prints l') {r : Except ε Text}
    (h : Make.perform l ((captured i body).run.logged linesBetween) w = some (r, w')) :
    Make.perform l' ((captured i body).run.logged linesBetween) w = some (r, w') ∧
      Collects i r.toOption w w' := by
  rw [perform_captured] at h ⊢
  obtain ⟨⟨result, w₂⟩, hrun, heq⟩ := Option.map_eq_some_iff.1 h
  obtain ⟨hrun', hprints⟩ := hbody hl _ (.of_memory rfl) hrun
  cases heq
  rw [hrun']
  refine ⟨rfl, ?_⟩
  have hcollects := hprints.captured
  cases result with
  | ok _ => exact hcollects
  | error _ =>
    obtain ⟨lines, hlog, hprinted, hdeep, -⟩ := hcollects
    exact ⟨lines, hlog, hprinted, hdeep, nofun⟩

/-! ## Everything prints what is logged -/

/-- A capture prints what its body does. -/
theorem Heard.captured {body : ExceptT ε (Action Code (Memory σ)) Unit} (hbody : Heard _ body.run) :
    Heard _ (captured i body).run := by
  intro l l' hl w _ r w' h
  obtain ⟨hrun, hcollects⟩ := captured_along hbody hl h
  exact ⟨hrun, hcollects.prints⟩

/-- Everything that programs are composed of prints what is logged. -/
theorem heard_grants : Grants fun α (x : Action Code (Memory σ) α) => Heard α x where
  pure a _ _ _ _ := .pure a
  bind := .bind
  evaluate text := by
    unfold Host.evaluate Host.checkText
    cases Host.nulFault? text with
    | some fault => exact fun _ _ _ _ => .pure _
    | none => exact .bind (x := Action.evaluate text) (.request nofun) fun _ _ _ _ _ => .pure _
  expandBytes text := by
    unfold Host.expandBytes Host.checkText
    cases Host.nulFault? text with
    | some fault => exact fun _ _ _ _ => .pure _
    | none =>
      dsimp only
      rw [pure_bind, ExceptT.run_bind_lift]
      refine .bind (.request nofun) fun buffer => ?_
      cases buffer with
      | none => exact fun _ _ _ _ => .pure _
      | some buffer =>
        dsimp only
        rw [ExceptT.run_bind_lift]
        exact .bind (.request nofun) fun _ _ _ _ _ => .pure _
  exports := .request nofun
  enter _ := .request nofun
  complain _ := .request nofun
  remembered := .request nofun
  changeOutside := .changeOutside
  write := .write
  captured _ _ := .captured

/-- The host's answer to a call prints what is logged. -/
theorem heard_respond (lua : Library σ) (options : HostOptions) (name : Text) (args : List Text) :
    Heard _ ((Code.host lua options).respond name args) :=
  heard_grants.dispatch (fun code name args => heard_grants.body code name args)
    (fun _ => .request nofun) _ _

/-- Make with programs behind it prints what is logged, at any nesting. -/
theorem loggedLevel_along (lua : Library σ) (options : HostOptions) (nesting : Nat) :
    ((Code.host lua options).loggedLevel linesBetween nesting).Along Prints
      ((Code.host lua options).loggedLevel linesBetween nesting) := by
  refine Make.levelWithin_along_of Prints.writes ?_ (Nat.le_refl nesting)
  intro l l' hl w name args
  refine Make.handOut_along_of Prints.writes.toReads (fun _ => .of_memory rfl) ?_
  refine .bind Prints.writes.toSteps (heard_respond lua options name _ hl _) fun buffer w' _ => ?_
  cases buffer with
  | none => exact .pure []
  | some buffer => exact .of_eq rfl fun _ => .of_memory rfl

end MakeHost.Lua
