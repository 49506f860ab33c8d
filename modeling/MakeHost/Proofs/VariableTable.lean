import MakeHost.Proofs.Reachable
import MakeHost.Proofs.VariableRequests

/-!
# The variables of a session

A session does one task after the other; in between, variables may be defined from outside and a
fatal error taken back. `World.Driven` are the worlds between these steps. Every variable there has
a name, a flavor and an origin (`Make.State.Proper`), and a step leaves the variables of the command
line as they are, in the middle of it as well as at its end. Names are computed and a value may be
expanded between the look at the old variable and the write, so both are carried through the nesting
of make as one relation (`World.Kept`).
-/

namespace MakeHost

variable {κ μ : Type} {w w' : World κ μ}

/-- Every variable has a name, a flavor and an origin. -/
structure Make.State.Proper (s : Make.State) : Prop where
  named : s.bindings.get? [] = none
  described : ∀ name v, s.bindings.get? name = some v →
    v.flavor ≠ .undefined ∧ v.origin ≠ .undefined

namespace Make.State.Proper

variable {s s' : Make.State} {name : Text} {v : Variable}

/-- A state with the same variables is proper too. -/
theorem of_bindings (hs : s.Proper) (h : s'.bindings = s.bindings) : s'.Proper := by
  refine ⟨?_, ?_⟩
  · rw [h]
    exact hs.named
  · rw [h]
    exact hs.described

/-- Setting a variable with a name, a flavor and an origin leaves all of them proper. -/
theorem setVariable (hs : s.Proper) (hname : name ≠ []) (hflavor : v.flavor ≠ .undefined)
    (horigin : v.origin ≠ .undefined) : (s.setVariable name v).Proper where
  named := (Table.get?_insert_of_ne hname.symm).trans hs.named
  described other u hu := by
    by_cases hother : other = name
    · rw [hother] at hu
      cases Table.get?_insert_self.symm.trans hu
      exact ⟨hflavor, horigin⟩
    · exact hs.described other u ((Table.get?_insert_of_ne hother).symm.trans hu)

/-- Removing a variable leaves the others proper. -/
theorem undefine (hs : s.Proper) (name : Text) : (s.undefine name).Proper := by
  unfold Make.State.undefine
  split
  · exact hs
  · split
    · exact hs
    · refine ⟨?_, fun other u hu => ?_⟩
      · by_cases hname : [] = name
        · exact hname ▸ Table.get?_erase_self
        · exact (Table.get?_erase_of_ne hname).trans hs.named
      · by_cases hother : other = name
        · rw [hother] at hu
          cases Table.get?_erase_self.symm.trans hu
        · exact hs.described other u ((Table.get?_erase_of_ne hother).symm.trans hu)

/-- A variable is there exactly when it has an origin, and exactly when it has a flavor. -/
theorem contains_iff (hs : s.Proper) (name : Text) :
    (s.bindings.contains name = true ↔ s.originOf name ≠ .undefined) ∧
      (s.bindings.contains name = true ↔ s.flavorOf name ≠ .undefined) := by
  rw [Table.contains, Make.State.originOf, Make.State.flavorOf]
  cases hv : s.bindings.get? name with
  | none => simp
  | some v =>
    obtain ⟨hflavor, horigin⟩ := hs.described name v hv
    simp [hflavor, horigin]

end Make.State.Proper

namespace Host

variable {name : Text} (host : Host κ μ) (hname : isLegalVariableName name = true)
  (hrunning : w.make.stopped = false) (more : Nat)
include hname hrunning

/-- Make reports the origin of a variable. -/
theorem expand_origin : (host.level (more + 2)).expand 0 ("$(origin " ++ name ++ ")") w =
    some ((w.make.originOf name).word, w) := by
  have hdepth : 0 < Make.maxDepth := by decide
  have hcall : Make.expandWithin host.responder (more + 2) 0
      ("$(" ++ "origin" ++ " " ++ name ++ ")")
      w = Make.Builtin.origin.apply name w :=
    Make.expandWithin_call hname (by decide) rfl hrunning hdepth
  exact hcall.trans (Make.Builtin.apply_origin hname)

/-- Make reports the flavor of a variable. -/
theorem expand_flavor : (host.level (more + 2)).expand 0 ("$(flavor " ++ name ++ ")") w =
    some ((w.make.flavorOf name).word, w) := by
  have hdepth : 0 < Make.maxDepth := by decide
  have hcall : Make.expandWithin host.responder (more + 2) 0
      ("$(" ++ "flavor" ++ " " ++ name ++ ")")
      w = Make.Builtin.flavor.apply name w :=
    Make.expandWithin_call hname (by decide) rfl hrunning hdepth
  exact hcall.trans (Make.Builtin.apply_flavor hname)

end Host

/-! ## Through the nesting -/

/-- Both worlds have proper variables, and one comes from the other by changes that leave the
command line's variables alone. -/
structure World.Kept (w w' : World κ μ) : Prop where
  before : w.make.Proper
  after : w'.make.Proper
  evolves : World.Evolves (fun _ => True) w w'

namespace World

/-- Nothing changes in one world. -/
theorem Kept.refl (hw : w.make.Proper) : Kept w w := ⟨hw, hw, .refl⟩

/-- A change that leaves the variables alone. -/
theorem Kept.of_bindings (hw : Kept w w) (h : Change (fun _ => True) w w')
    (hbindings : w'.make.bindings = w.make.bindings) : Kept w w' :=
  ⟨hw.after, hw.after.of_bindings hbindings, .single h⟩

/-- What make and the host do keeps the variables proper. A variable takes its flavor from the one
that stood there before its value was expanded, and that one had a flavor. -/
theorem Kept.serves : Make.Serves (fun _ : Exported κ => True) (Kept : World κ μ → World κ μ → Prop)
    where
  right h := ⟨h.after, h.after, .refl⟩
  trans h h' := ⟨h.before, h'.after, h.evolves.trans h'.evolves⟩
  fail message h := h.of_bindings (.fail message) Make.State.bindings_fail
  print line h := h.of_bindings (.print line) rfl
  assign {w₀ w name v} h hname horigin hv := by
    have hflavor : v.flavor ≠ .undefined := by
      intro hv'
      obtain ⟨old, hold, hundefined⟩ := Option.map_eq_some_iff.1 (hv.flavor hv')
      exact (h.before.described name old hold).1 hundefined
    have horigin' : v.origin ≠ .undefined := by
      rw [hv.origin]
      decide
    have hchange : Change (fun _ => True) w { w with make := w.make.setVariable name v } :=
      .assign hname (h.evolves.origin_ne_commandLine horigin) hv.origin
    exact ⟨h.after, h.after.setVariable hname hflavor horigin', .single hchange⟩
  undefine name h := ⟨h.after, h.after.undefine name, .single (.undefine name)⟩
  note call h := h.of_bindings (.note call) (by rw [make_note])
  countCall h := h.of_bindings .countCall rfl
  allocate h := h.of_bindings .allocate rfl
  release buffer h := h.of_bindings (.release buffer) Make.State.bindings_release
  enter entry _ h := h.of_bindings (.enter True.intro) (by rw [make_enter])
  remember memory h := h.of_bindings (.remember memory) rfl
  complain line h := h.of_bindings (.complain line) rfl

/-! ## Steps -/

/-- A step of a session whose calls are answered by `respond`: a task is done. -/
def Step (respond : Make.Responder κ μ) (w w' : World κ μ) : Prop :=
  ∃ (fuel : Nat) (task : Task κ μ), task.perform (Make.levelWithin respond fuel) w = some ((), w')

/-- A relation that allows what make and the host do allows every step, and the same step is taken
when the calls are answered by someone who goes along with the host. -/
theorem Step.along {T : World κ μ → World κ μ → Prop} {respond respond' : Make.Responder κ μ}
    (hT : Make.Serves (fun _ => True) T) (hr : respond.Along T respond') (hw : T w w)
    (h : Step respond w w') : Step respond' w w' ∧ T w w' := by
  obtain ⟨fuel, task, h⟩ := h
  have hlevel := Make.levelWithin_along hT hr (Nat.le_refl fuel)
  obtain ⟨hperform, hstep⟩ := task.perform_along hT hlevel hw h
  exact ⟨⟨fuel, task, hperform⟩, hstep⟩

/-- A world that a session with the host is in between two steps. Variables that are defined from
outside have a name and an origin. -/
inductive Driven (host : Host κ μ) : World κ μ → Prop
  | fresh (memory : μ) : Driven host (.fresh memory .attached)
  | step {w w' : World κ μ} : Driven host w → Step host.responder w w' → Driven host w'
  | define {w : World κ μ} {name : Text} {origin : Origin} (value : Text) : name ≠ [] →
      origin ≠ .undefined → Driven host w →
      Driven host { w with make := w.make.define name value origin }
  | resume {w : World κ μ} :
      Driven host w → Driven host { w with make := { w.make with fatal := none } }

variable {host : Host κ μ}

/-- A step keeps what belongs to the command line, and every variable proper. -/
theorem Step.kept (hw : w.make.Proper) (h : Step host.responder w w') : Kept w w' := by
  have hhost : host.responder.Along Kept host.responder :=
    fun _ _ hl _ _ _ => Make.perform_along Kept.serves hl (.trivial _)
  exact (h.along Kept.serves hhost (.refl hw)).2

/-- Between two steps every variable has a name, a flavor and an origin. -/
theorem Driven.proper (h : w.Driven host) : w.make.Proper := by
  induction h with
  | fresh memory => exact ⟨rfl, nofun⟩
  | step _ hstep ih => exact (hstep.kept ih).after
  | define value hname horigin _ ih => exact ih.setVariable hname nofun horigin
  | resume _ ih => exact ih.of_bindings rfl

/-- The variables are proper, and the command line's are those of `w`. -/
structure Holds (w w' : World κ μ) : Prop where
  proper : w'.make.Proper
  commandLine : ∀ name v, v.origin = .commandLine →
    (w'.make.bindings.get? name = some v ↔ w.make.bindings.get? name = some v)

/-- What was kept is proper, with the command line's variables as they were. -/
theorem Kept.holds (h : Kept w w') : Holds w w' :=
  ⟨h.after, fun _ _ hv => h.evolves.get?_commandLine hv⟩

/-- What make and the host do after a world. -/
theorem Kept.serves_from (w₀ : World κ μ) : Make.Serves (fun _ : Exported κ => True)
    fun w w' => Kept w₀ w ∧ Kept w₀ w' ∧ Kept w w' :=
  Kept.serves.restrict fun hstep hw => ⟨hw.before, hstep.after, hw.evolves.trans hstep.evolves⟩

/-- **Every variable of a session has a name, a flavor and an origin, and the command line's are
left alone.** Between two steps a variable is there exactly when make reports an origin for it, and
exactly when make reports a flavor. A step leaves the command line's variables as they are, adds
none to them and keeps all others proper; this holds at its end and wherever it hands out a call. -/
theorem Driven.variables_hold (hw : w.Driven host) :
    w.make.Proper ∧
    (∀ name : Text, isLegalVariableName name = true → w.make.stopped = false → ∀ more,
      ∃ origin flavor : Text,
        (host.level (more + 2)).expand 0 ("$(origin " ++ name ++ ")") w = some (origin, w) ∧
        (host.level (more + 2)).expand 0 ("$(flavor " ++ name ++ ")") w = some (flavor, w) ∧
        (w.make.bindings.contains name = true ↔ origin ≠ "undefined".toList) ∧
        (w.make.bindings.contains name = true ↔ flavor ≠ "undefined".toList)) ∧
    ∀ w', Step host.responder w w' →
      Holds w w' ∧ Step (host.responder.onlyIn (Holds w)) w w' := by
  have hproper := hw.proper
  refine ⟨hproper, fun name hname hrunning more => ?_, fun w' hstep => ?_⟩
  · obtain ⟨horigin, hflavor⟩ := hproper.contains_iff name
    refine ⟨_, _, host.expand_origin hname hrunning more, host.expand_flavor hname hrunning more,
      horigin.trans ?_, hflavor.trans ?_⟩
    · cases w.make.originOf name <;> decide
    · cases w.make.flavorOf name <;> decide
  · have hserves := Kept.serves_from w
    have hhost : host.responder.Along (fun w₁ w₂ => Kept w w₁ ∧ Kept w w₂ ∧ Kept w₁ w₂)
        host.responder := fun _ _ hl _ _ _ => Make.perform_along hserves hl (.trivial _)
    obtain ⟨hrestricted, hkept⟩ := hstep.along hserves
      (hhost.onlyIn fun hw₁ => hw₁.1.holds) ⟨.refl hproper, .refl hproper, .refl hproper⟩
    exact ⟨hkept.2.1.holds, hrestricted⟩

/-- A session that begins with a variable on the command line. -/
def withCommandLine : World Unit Unit :=
  { World.fresh () .attached with make := Make.State.fresh.define "CC" "clang" .commandLine }

/-- A session can begin like that. -/
theorem withCommandLine_driven : withCommandLine.Driven Host.quiet := by
  have hname : "CC".toList ≠ [] := by decide
  have horigin : Origin.commandLine ≠ .undefined := by decide
  exact .define "clang" hname horigin (.fresh ())

/-- Make text that assigns the variable in three ways, and removes it, has no effect on it. -/
theorem Driven.variables_hold_commandLine : ∃ w',
    (Host.quiet.level 3).run "CC = gcc\nCC += -O2\nundefine CC\nX$(CC) := 1" withCommandLine =
      some ((), w') ∧
    w'.make.bindings.get? "CC" = some ⟨"clang", .recursive, .commandLine⟩ ∧
    w'.make.bindings.get? "Xclang" = some ⟨"1", .simple, .file⟩ ∧
    ∃ origin : Text, (Host.quiet.level 2).expand 0 "$(origin CC)" withCommandLine =
      some (origin, withCommandLine) ∧ origin ≠ "undefined".toList := by
  have hrun : ((Host.quiet.level 3).run "CC = gcc\nCC += -O2\nundefine CC\nX$(CC) := 1"
      withCommandLine).map (·.2.make.bindings.get? "Xclang") =
        some (some ⟨"1", .simple, .file⟩) := by
    decide +kernel
  obtain ⟨⟨_, w'⟩, hrun, hassigned⟩ := Option.map_eq_some_iff.1 hrun
  obtain ⟨-, hreports, hsteps⟩ := withCommandLine_driven.variables_hold
  obtain ⟨origin, _, horigin, -, hthere, -⟩ := hreports "CC" (by decide) (by decide) 0
  have hkept := (hsteps w' ⟨3, .run _, hrun⟩).1.commandLine "CC"
    ⟨"clang", .recursive, .commandLine⟩ rfl
  exact ⟨w', hrun, hkept.2 (by decide), hassigned, origin, horigin, hthere.1 (by decide)⟩

end World

end MakeHost
