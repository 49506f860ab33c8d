import MakeHost.Proofs.ErrorVariable

/-!
# Failures that stop make

When a failure has been stored, reading the fatal-errors flag decides whether make stops with it.
Reading the flag is expanding make text, and a call in that text ends like every other call: by
writing the error variable. The failure is reported all the same whenever reading the flag hands out
no call and no function has the error variable's name; where the calls that are handed out succeed,
it is only then.
-/

namespace MakeHost

variable {κ μ : Type} {w w' : World κ μ}

/-! ## Without calls nothing changes -/

/-- Calls may have been handed out in between; if none was, variables and functions are as they
were. -/
structure World.Quiet (w w' : World κ μ) : Prop where
  calls : w.make.calls ≤ w'.make.calls
  bindings : w'.make.calls = w.make.calls → w'.make.bindings = w.make.bindings
  functions : w'.make.calls = w.make.calls → w'.make.functions = w.make.functions

/-- What two quiet runs leave alone both together do. -/
theorem World.Quiet.trans {w₁ w₂ w₃ : World κ μ} (h : Quiet w₁ w₂) (h' : Quiet w₂ w₃) :
    Quiet w₁ w₃ := by
  have hcalls := h.calls
  have hcalls' := h'.calls
  refine ⟨Nat.le_trans hcalls hcalls', fun heq => ?_, fun heq => ?_⟩
  · exact (h'.bindings (by omega)).trans (h.bindings (by omega))
  · exact (h'.functions (by omega)).trans (h.functions (by omega))

/-- A change of something else. -/
theorem World.Quiet.of_eq (hcalls : w'.make.calls = w.make.calls)
    (hbindings : w'.make.bindings = w.make.bindings)
    (hfunctions : w'.make.functions = w.make.functions) : Quiet w w' :=
  ⟨hcalls.ge, fun _ => hbindings, fun _ => hfunctions⟩

/-- Expansion by itself is quiet. -/
theorem World.Quiet.reads : Make.Reads (World.Quiet : World κ μ → World κ μ → Prop) where
  right _ := .of_eq rfl rfl rfl
  trans := .trans
  fail _ _ := .of_eq Make.State.calls_fail Make.State.bindings_fail Make.State.functions_fail
  print _ _ := .of_eq rfl rfl rfl

namespace Make

variable {l : Level κ μ} {respond : Responder κ μ} {name a : Text} {args : List Text}

/-- A call that is handed out is counted; without a host make stops. -/
theorem handOut_cases (hr : ∀ w args, Run.Along (World.Evolves fun _ => True) w
      (respond l name args) (respond l name args))
    (h : handOut respond l name args w = some (a, w')) :
    (∃ message, w' = { w with make := w.make.fail message }) ∨
      w.make.calls < w'.make.calls := by
  have hserves := World.Evolves.serves (μ := μ) fun _ : Exported κ => True
  have hanswer : ∀ {w₁ : World κ μ} {b : Text} {w₂ : World κ μ},
      (respond l name (args.map handedOver) >>= collect) w₁ = some (b, w₂) →
      w₁.make.calls ≤ w₂.make.calls := fun hrun =>
    (Run.Along.bind hserves.toSteps (hr _ _)
      (fun buffer _ _ => collect_along hserves buffer) .refl hrun).2.calls_le
  have hcount := Run.changeMake_apply (w := w) State.countCall
  rw [handOut, Run.bind_of_eq_some (Run.get_apply (w := w))] at h
  cases hlink : w.link with
  | absent =>
    rw [hlink] at h
    cases h
    exact .inl ⟨"no host for function '" ++ name ++ "'", by rw [← hlink]⟩
  | attached =>
    rw [hlink] at h
    dsimp only at h
    rw [Run.bind_of_eq_some hcount] at h
    exact .inr (hanswer h)
  | object known =>
    rw [hlink] at h
    dsimp only at h
    rw [Run.bind_of_eq_some hcount, Run.bind_of_eq_some Run.get_apply] at h
    split at h
    · exact .inr (hanswer h)
    · cases h
      exact .inr (Nat.lt_succ_self _)

end Make

variable {host : Host κ μ} {options : HostOptions} {failure : Failure} {fuel depth : Nat}
  {name text a : Text}

namespace Host

/-- Expansion with a host behind make is quiet. -/
theorem expand_quiet (h : (host.level fuel).expand depth text w = some (a, w')) :
    World.Quiet w w' := by
  refine (Make.expandWithin_along World.Quiet.reads ?_ fuel w depth text (.of_eq rfl rfl rfl) h).2
  intro fuel w name args _ a w' h
  refine ⟨h, ?_⟩
  have hr : ∀ w args, Run.Along (World.Evolves fun _ => True) w
      (host.responder (host.level fuel) name args) (host.responder (host.level fuel) name args) :=
    fun w args => host.responder_along (host.level_along (Nat.le_refl fuel)) w name args
  obtain ⟨message, rfl⟩ | hlt := Make.handOut_cases hr h
  · exact World.Quiet.reads.fail message (.of_eq rfl rfl rfl)
  · exact ⟨hlt.le, fun heq => absurd heq hlt.ne', fun heq => absurd heq hlt.ne'⟩

/-- A flag whose name holds a NUL is not set. -/
theorem perform_flagEnabled_nul {l : Make.Level κ μ} (hname : '\x00' ∈ name) :
    Make.perform l (flagEnabled name) w = some (false, w) := by
  obtain ⟨fault, hfault⟩ : ∃ fault, nulFault? ("$(" ++ name ++ ")") = some fault := by
    rw [nulFault?, if_pos (by simpa using hname)]
    exact ⟨_, rfl⟩
  have hbytes : (expandBytes ("$(" ++ name ++ ")") : Attempt κ μ Bytes).run =
      pure (.error (.interiorNul fault)) := by
    rw [expandBytes, checkText, hfault]
    rfl
  rw [flagEnabled, hbytes]
  rfl

/-- Reading a flag is quiet. -/
theorem flagEnabled_quiet (hw : w.link = .attached) {b : Bool}
    (h : Make.perform (host.level fuel) (flagEnabled name) w = some (b, w')) :
    World.Quiet w w' := by
  by_cases hname : '\x00' ∈ name
  · rw [perform_flagEnabled_nul hname] at h
    cases h
    exact .of_eq rfl rfl rfl
  · rw [Make.perform_flagEnabled hname hw] at h
    obtain ⟨a, w₀, hexpand, hresult⟩ := Run.bind_eq_some.1 h
    cases hresult
    exact (expand_quiet hexpand).trans (.of_eq rfl rfl rfl)

end Host

/-! ## Calls that succeed -/

namespace Host

/-- Answers as the host does, without a result where a call fails. -/
def strictResponder (host : Host κ μ) : Make.Responder κ μ := fun l name args => do
  match ← Make.perform l (host.outcome name.utf8 (args.map Text.utf8)) with
  | .failed .. => Run.exhausted
  | outcome => Make.perform l (settle host.options outcome)

/-- Make with a host behind it, without a result where a call fails. -/
def strictLevel (host : Host κ μ) (nesting : Nat) : Make.Level κ μ :=
  Make.levelWithin host.strictResponder nesting

/-- Where no call fails, the host answers as always. -/
theorem strictResponder_along :
    host.strictResponder.Along (World.Evolves fun _ => True) host.responder := by
  intro l l' hl w name args
  have hserves := World.Evolves.serves (μ := μ) fun _ : Exported κ => True
  rw [responder, respond, dispatch, Make.perform_bind]
  refine .bind hserves.toSteps (Make.perform_along hserves hl (.trivial _)) fun outcome w' _ => ?_
  cases outcome with
  | failed => exact .exhausted
  | unknown | value => exact Make.perform_along hserves hl (.trivial _)

/-- Where no call fails, make does what it always does. -/
theorem strictLevel_along (fuel : Nat) :
    (host.strictLevel fuel).Along (World.Evolves fun _ => True) (host.level fuel) :=
  Make.levelWithin_along (World.Evolves.serves _) strictResponder_along (Nat.le_refl fuel)

end Host

/-- The host can write the variable. -/
structure World.Writable (name : Text) (w : World κ μ) : Prop where
  sound : w.Sound
  origin : (w.make.bindings.get? name).map (·.origin) ≠ some .commandLine

/-- A variable that can be written can be written after any number of changes. -/
theorem World.Writable.evolve (hw : w.Writable name) (h : World.Evolves (fun _ => True) w w') :
    w'.Writable name :=
  ⟨h.sound hw.sound, h.origin_ne_commandLine hw.origin⟩

/-- Unless make was stopped in between, the variable is gone or no call was handed out and the
variables are as they were. -/
structure World.Cleared (name : Text) (w w' : World κ μ) : Prop where
  before : w.Writable name
  after : w'.Writable name
  stopped : w.make.stopped = true → w'.make.stopped = true
  cleared : w'.make.stopped = false → w'.make.bindings.get? name = none ∨
    w'.make.calls = w.make.calls ∧ w'.make.bindings = w.make.bindings

/-- Expansion by itself clears nothing. -/
theorem World.Cleared.reads (name : Text) :
    Make.Reads (World.Cleared name : World κ μ → World κ μ → Prop) where
  right h := ⟨h.after, h.after, id, fun _ => .inr ⟨rfl, rfl⟩⟩
  trans := by
    intro w₁ w₂ w₃ h h'
    refine ⟨h.before, h'.after, fun hs => h'.stopped (h.stopped hs), fun hrunning => ?_⟩
    have hrunning₂ : w₂.make.stopped = false := by
      cases hs : w₂.make.stopped with
      | false => rfl
      | true => rw [h'.stopped hs] at hrunning; cases hrunning
    obtain hnone | ⟨hcalls', hbindings'⟩ := h'.cleared hrunning
    · exact .inl hnone
    · obtain hnone | ⟨hcalls, hbindings⟩ := h.cleared hrunning₂
      · exact .inl (hbindings' ▸ hnone)
      · exact .inr ⟨hcalls'.trans hcalls, hbindings'.trans hbindings⟩
  fail message h := by
    refine ⟨h.after, h.after.evolve (.single (.fail message)), fun _ => ?_, fun hrunning => ?_⟩
    · exact Make.State.stopped_fail
    · exact absurd (Make.State.stopped_fail.symm.trans hrunning) (by decide)
  print line h :=
    ⟨h.after, h.after.evolve (.single (.print line)), id, fun _ => .inr ⟨rfl, rfl⟩⟩

namespace Host

section
variable (hname : IsUsable host.options.errorVariable)
include hname

/-- A call that does not fail clears the error variable. -/
theorem handOut_cleared {args : List Text} (hw : w.Writable host.options.errorVariable)
    (h : Make.handOut host.strictResponder (host.strictLevel fuel) name args w = some (a, w')) :
    World.Cleared host.options.errorVariable w w' := by
  have hserves := World.Evolves.serves (μ := μ) fun _ : Exported κ => True
  have hevolves : World.Evolves (fun _ => True) w w' :=
    (Make.handOut_along hserves (strictResponder_along (strictLevel_along fuel) _ name _) .refl h).2
  refine ⟨hw, hw.evolve hevolves, fun hs => ?_, fun hrunning => .inl ?_⟩
  · obtain ⟨message, hmessage⟩ := Option.isSome_iff_exists.1 hs
    exact Option.isSome_iff_exists.2 ⟨message, hevolves.fatal hmessage⟩
  have hcount := Run.changeMake_apply (w := w) Make.State.countCall
  rw [Make.handOut, Run.bind_of_eq_some (Run.get_apply (w := w)), hw.sound.attached] at h
  dsimp only at h
  rw [Run.bind_of_eq_some hcount] at h
  obtain ⟨buffer, w₂, hanswer, hcollect⟩ := Run.bind_eq_some.1 h
  obtain ⟨outcome, w₁, houtcome, hsettle⟩ := Run.bind_eq_some.1 hanswer
  have hstrict : (host.strictLevel fuel).Along (World.Evolves fun _ => True) (host.level fuel) :=
    strictLevel_along fuel
  have hw₁ : w₁.Writable host.options.errorVariable :=
    (hw.evolve (.single .countCall)).evolve
      (Make.perform_along hserves hstrict (.trivial _) .refl houtcome).2
  have hrunning₂ := (Make.collect_along hserves buffer .refl hcollect).2.running hrunning
  have hnone : w₂.make.bindings.get? host.options.errorVariable = none := by
    cases outcome with
    | failed => cases hsettle
    | unknown | value =>
      have hsettled := (Make.perform_along hserves hstrict (.trivial _) .refl hsettle).1
      exact (settle_success_get? hname hw₁.sound hw₁.origin rfl hsettled hrunning₂).1
  cases buffer with
  | none =>
    cases hcollect
    exact hnone
  | some buffer =>
    cases hcollect
    simpa using hnone

/-- Where calls do not fail, expansion clears the error variable or hands out no call. -/
theorem strict_expand_cleared (hw : w.Writable host.options.errorVariable)
    (h : (host.strictLevel fuel).expand depth text w = some (a, w')) :
    World.Cleared host.options.errorVariable w w' := by
  have hrefl : World.Cleared host.options.errorVariable w w :=
    ⟨hw, hw, id, fun _ => .inr ⟨rfl, rfl⟩⟩
  refine (Make.expandWithin_along (World.Cleared.reads _) ?_ fuel w depth text hrefl h).2
  exact fun fuel w name args hw a w' h => ⟨h, handOut_cleared hname hw.before h⟩

/-- Where calls do not fail, reading a flag clears the error variable or hands out no call. -/
theorem strict_flagEnabled_cleared (hw : w.Writable host.options.errorVariable) {b : Bool}
    (h : Make.perform (host.strictLevel fuel) (flagEnabled name) w = some (b, w')) :
    World.Cleared host.options.errorVariable w w' := by
  by_cases hnul : '\x00' ∈ name
  · rw [perform_flagEnabled_nul hnul] at h
    cases h
    exact ⟨hw, hw, id, fun _ => .inr ⟨rfl, rfl⟩⟩
  · rw [Make.perform_flagEnabled hnul hw.sound.attached] at h
    obtain ⟨a, w₀, hexpand, hresult⟩ := Run.bind_eq_some.1 h
    cases hresult
    have hcleared := strict_expand_cleared hname hw hexpand
    obtain ⟨hsound, horigin⟩ := hcleared.after
    exact ⟨hw, ⟨⟨hsound.attached, hsound.named, hsound.checked⟩, horigin⟩, hcleared.stopped,
      hcleared.cleared⟩

end

end Host

/-! ## Stopping make with the failure -/

namespace Make

variable {respond : Responder κ μ}

/-- A text without an equals sign is no assignment. -/
theorem findAssignment_of_notMem {before : Text} {brackets : Nat} (h : '=' ∉ text) :
    findAssignment brackets before text = none := by
  induction text generalizing before brackets with
  | nil => rfl
  | cons c text ih =>
    rw [List.mem_cons, not_or] at h
    have hne : ¬ (c = '=' ∧ brackets = 0) := fun hc => h.1 hc.1.symm
    rw [findAssignment, ih h.2, ih h.2, ih h.2, if_neg hne]
    split
    · rfl
    · split
      · rfl
      · split <;> rfl

section
variable (hname : isLegalVariableName name = true)
include hname

/-- A line that is only expanded makes make stop with what the variable expands to. -/
theorem statements_error :
    statements ("$(error $(" ++ name ++ "))") = [.bare ("$(error $(" ++ name ++ "))")] := by
  generalize hline : ("$(error $(" ++ name ++ "))" : Text) = line
  have hnotMem : ∀ {c : Char}, c ∉ "$(error $(".toList → c ∉ "))".toList → c ∉ name → c ∉ line := by
    intro c hfront hback hc
    rw [← hline]
    simp only [List.mem_append, not_or]
    exact ⟨⟨hfront, hc⟩, hback⟩
  have hheader : IsHeader line := by
    refine ⟨⟨'$', by rw [← hline]; rfl, by decide⟩, ⟨')', ?_, by decide, by decide⟩, ?_⟩
    · rw [← hline, List.getLast?_append]
      rfl
    · exact hnotMem (by decide) (by decide) fun hc =>
        absurd (isBlank_of_isLegal hname hc) (by decide)
  have hassignment : assignment? line = none :=
    findAssignment_of_notMem (hnotMem (by decide) (by decide) fun hc =>
      ne_of_isLegal hname hc (by decide) rfl)
  have hdirective : ∀ word, word = "define".toList ∨ word = "undefine".toList →
      directive? word line = none := by
    rintro word hword
    refine directive?_eq_none ?_
    rintro ⟨rest, hrest⟩
    rw [← hline] at hrest
    rcases hword with rfl | rfl <;> cases hrest
  have hkind : lineKind line = .statement (.bare line) := by
    have hplain : ¬ (line.isEmpty ∨ line.head? = some '#') := by
      rw [← hline]
      rintro (hempty | hcomment)
      · cases hempty
      · cases hcomment
    rw [lineKind, hheader.trim_eq, hdirective _ (.inl rfl), hdirective _ (.inr rfl), hassignment]
    exact if_neg hplain
  have hlogical : logicalLines line = [line] := logicalLines_header hheader (List.not_mem_nil)
  rw [statements, hlogical, statementsFrom, hkind]
  rfl

/-- The text that stops make with a failure is one reference to `error`. -/
theorem pieces_error : pieces ("$(error $(" ++ name ++ "))") =
    [.reference ("error $(" ++ name ++ ")")] := by
  have hopen : pieces ("$(error $(" ++ name ++ "))") =
      piecesFrom (.inside '(' ')' 1 ("error $(" : Text).reverse) (name ++ "))") := by
    rw [List.append_assoc]
    rfl
  have hclose : ∀ inner, piecesFrom (.inside '(' ')' 1 inner) "))" =
      [.reference (')' :: inner).reverse] := fun _ => rfl
  rw [hopen, piecesFrom_inside_name hname, hclose]
  simp

/-- That line stops make with what the reference to the variable expands to. -/
theorem run_error {w₁ : World κ μ} (hstopped : w.make.stopped = false)
    (h : expandWithin respond fuel 1 ("$(" ++ name ++ ")") w = some (a, w₁)) :
    (levelWithin respond (fuel + 2)).run ("$(error $(" ++ name ++ "))") w =
      some ((), { w₁ with make := w₁.make.fail a }) := by
  have hhead : headAndArguments ("error $(" ++ name ++ ")") =
      ("error".toList, some ("$(" ++ name ++ ")")) := rfl
  have hline : (levelWithin respond (fuel + 1)).expand 0 ("$(error $(" ++ name ++ "))") w =
      some ([], { w₁ with make := w₁.make.fail a }) := by
    show expandText respond (levelWithin respond fuel) 0 _ w = _
    rw [expandText_reference (pieces_error hname) hstopped (Nat.zero_le _), expandReference, hhead]
    exact Run.bind_of_eq_some h
  rw [run_statement (statements_error hname) hstopped, evaluateStatement,
    Run.bind_of_eq_some hline]
  rfl

end

end Make

namespace Host

/-- Reading the fatal-errors flag decides whether make stops, and with what. -/
theorem raiseError_cases (hname : IsUsable options.errorVariable) (hw : w.Sound)
    (h : Make.perform (host.level fuel) (raiseError options) w = some ((), w')) :
    ∃ enabled w₁, Make.perform (host.level fuel) (flagEnabled options.fatalErrorsVariable) w =
        some (enabled, w₁) ∧
      (enabled = false → w' = w₁) ∧
      (enabled = true → w₁.make.stopped = false → ∀ {more a w₂},
        (host.level more).expand 1 ("$(" ++ options.errorVariable ++ ")") w₁ = some (a, w₂) →
        w' = { w₂ with make := w₂.make.fail a }) := by
  rw [raiseError, Make.perform_bind] at h
  obtain ⟨enabled, w₁, hflag, hrest⟩ := Run.bind_eq_some.1 h
  refine ⟨enabled, w₁, hflag, ?_, ?_⟩
  · rintro rfl
    cases hrest
    rfl
  · rintro rfl hrunning more a w₂ hread
    have hattached := ((perform_along (Nat.le_refl _) hflag).2.sound hw).attached
    have htext : '\x00' ∉ "$(error $(" ++ options.errorVariable ++ "))" := by
      simpa using hname.clean
    obtain ⟨hread, -⟩ := expand_along (Nat.le_add_left more fuel) hread
    obtain ⟨hrest, -⟩ := perform_along (Nat.le_add_right fuel (more + 2)) hrest
    have hrun : (host.level (fuel + (more + 2))).run
        ("$(error $(" ++ options.errorVariable ++ "))") w₁ =
        some ((), { w₂ with make := w₂.make.fail a }) :=
      Make.run_error hname.legal hrunning hread
    rw [if_pos rfl, Make.perform_bind, Run.bind_apply,
      Make.perform_evaluate_run htext hattached, Run.bind_of_eq_some hrun] at hrest
    cases hrest
    rfl

/-! ## When a failure is reported -/

/-- A failure is reported: with the fatal-errors flag set, make is stopped with its description;
otherwise make runs on, and the error variable is there and is read as the description. -/
def Reported (host : Host κ μ) (failure : Failure) (enabled : Bool) (w : World κ μ) : Prop :=
  if enabled then w.make.fatal = some (description failure)
  else w.make.stopped = false ∧ w.make.bindings.contains host.options.errorVariable = true ∧
    ∀ more, (host.level (more + 3)).expand 0 ("$(" ++ host.options.errorVariable ++ ")") w =
      some (description failure, w)

/-- There is a colon in every description, behind the kind. -/
theorem mem_description (failure : Failure) : ':' ∈ description failure := by
  rw [description, List.mem_filter]
  exact ⟨by simp [Failure.text], by decide⟩

/-- The message about a call without arguments is no failure's description. -/
theorem noArguments_ne_description (hname : IsUsable name) (failure : Failure) :
    Make.noArguments name ≠ description failure := by
  have hcolon : ':' ∉ name := fun hc => ne_of_isLegal hname.legal hc (by decide) rfl
  have hmessage : ':' ∉ Make.noArguments name := by
    unfold Make.noArguments
    simp only [List.mem_append, not_or]
    exact ⟨⟨⟨⟨by decide, by decide⟩, by decide⟩, hcolon⟩, by decide⟩
  intro heq
  exact hmessage (heq ▸ mem_description failure)

/-- What make is stopped with when it runs. -/
theorem fatal_fail {s : Make.State} (hrunning : s.stopped = false) (message : Text) :
    (s.fail message).fatal = some message := by
  rw [Make.State.fail, Make.fatal_of_running hrunning]

section
variable (hname : IsUsable host.options.errorVariable) (hw : w.Sound)
  (hrunning : w.make.stopped = false) {enabled : Bool} (hkeep : enabled = false → w' = w)
  (hraise : enabled = true → w.make.stopped = false → ∀ {more a w₂},
    (host.level more).expand 1 ("$(" ++ host.options.errorVariable ++ ")") w = some (a, w₂) →
    w' = { w₂ with make := w₂.make.fail a })
include hname hw hrunning hkeep hraise

/-- A failure is reported when its description is stored still and no function has the error
variable's name. -/
theorem reported_of_slot
    (hslot : w.make.bindings.get? host.options.errorVariable = some (slot failure))
    (hfunction : w.make.functions.get? host.options.errorVariable = none) :
    Reported host failure enabled w' := by
  have hread : ∀ {depth more}, depth + 1 < Make.maxDepth →
      (host.level (more + 3)).expand depth ("$(" ++ host.options.errorVariable ++ ")") w =
        some (description failure, w) := fun hdepth =>
    Make.expandWithin_literal hname.legal hw.noUnnamed hrunning hfunction hslot rfl
      (DefineBlock.literal_spec (description failure)) hdepth
  cases enabled with
  | false =>
    obtain rfl := hkeep rfl
    refine ⟨hrunning, ?_, fun more => hread (by decide)⟩
    rw [Table.contains, hslot]
    rfl
  | true =>
    have hdescription : (host.level 3).expand 1 ("$(" ++ host.options.errorVariable ++ ")") w =
        some (description failure, w) := hread (by decide)
    obtain rfl := hraise rfl hrunning hdescription
    exact fatal_fail hrunning _

/-- A failure is not reported when the error variable is gone or a function has its name. In a call
the message of the call stays, whatever make is told to stop with afterwards. -/
theorem not_reported
    (h : w.make.bindings.get? host.options.errorVariable = none ∨
      w.make.functions.get? host.options.errorVariable ≠ none) :
    ¬ Reported host failure enabled w' := by
  have hempty : ([] : Text) ≠ description failure := fun heq =>
    absurd (heq ▸ mem_description failure) List.not_mem_nil
  have hdepth : ∀ {depth}, depth ≤ 1 → depth + 1 < Make.maxDepth := fun h =>
    Nat.lt_of_le_of_lt (Nat.succ_le_succ h) (by decide)
  intro hreported
  cases hfunction : w.make.functions.get? host.options.errorVariable with
  | none =>
    have hvariable : w.make.bindings.get? host.options.errorVariable = none :=
      h.resolve_right fun hne => hne hfunction
    cases enabled with
    | false =>
      obtain rfl := hkeep rfl
      have hcontains := hreported.2.1
      rw [Table.contains, hvariable] at hcontains
      cases hcontains
    | true =>
      have hread : (host.level 3).expand 1 ("$(" ++ host.options.errorVariable ++ ")") w =
          some ([], w) :=
        Make.expandWithin_reference_undefined hname.legal hrunning hvariable hfunction
          (Nat.lt_of_succ_lt (hdepth (Nat.le_refl 1)))
      obtain rfl := hraise rfl hrunning hread
      exact hempty (Option.some_inj.1 ((fatal_fail hrunning []).symm.trans hreported))
  | some f =>
    have hread : ∀ {depth}, depth ≤ 1 → (host.level 3).expand depth
        ("$(" ++ host.options.errorVariable ++ ")") w = some ([], { w with
          make := w.make.fail (Make.noArguments host.options.errorVariable) }) := fun h =>
      Make.expandWithin_reference_function hname.legal hrunning hfunction
        (hw.checked _ f hfunction).2 (Nat.le_of_lt (Nat.lt_of_succ_lt (hdepth h)))
    cases enabled with
    | false =>
      obtain rfl := hkeep rfl
      have hboth := (hread (Nat.zero_le 1)).symm.trans (hreported.2.2 0)
      exact hempty (congrArg Prod.fst (Option.some_inj.1 hboth))
    | true =>
      obtain rfl := hraise rfl hrunning (hread (Nat.le_refl 1))
      have hfatal := fatal_fail hrunning (Make.noArguments host.options.errorVariable)
      have hstays : ((w.make.fail (Make.noArguments host.options.errorVariable)).fail []).fatal =
          some (Make.noArguments host.options.errorVariable) := by
        rw [Make.State.fail, hfatal]
        exact hfatal
      exact noArguments_ne_description hname failure
        (Option.some_inj.1 (hstays.symm.trans hreported))

end

/-- **When a failure that was recorded is reported.** In a reachable world whose error variable is
none of the command line's, and when neither flag stops make as it is read: the failure is reported
if reading the fatal-errors flag hands out no call and no function has the error variable's name.
If the calls that are handed out then do not fail, it is reported only if there are none and no
function has that name. -/
theorem recordError_reported_iff (host : Host κ μ) (hname : IsUsable host.options.errorVariable)
    (hw : w.Reachable)
    (horigin : (w.make.bindings.get? host.options.errorVariable).map (·.origin) ≠
      some .commandLine)
    (h : Make.perform (host.level fuel) (recordError host.options name failure) w =
      some ((), w')) :
    ∃ traced w₁, Make.perform (host.level fuel) (flagEnabled host.options.tracebackVariable) w =
        some (traced, w₁) ∧
      (w₁.make.stopped = false → ∃ lines enabled w₂,
        Make.perform (host.level fuel) (flagEnabled host.options.fatalErrorsVariable)
          (recorded host.options failure lines w₁) = some (enabled, w₂) ∧
        (w₂.make.stopped = false →
          (w₂.make.calls = w₁.make.calls →
            w₂.make.functions.get? host.options.errorVariable = none →
            Reported host failure enabled w') ∧
          (Make.perform (host.strictLevel fuel) (flagEnabled host.options.fatalErrorsVariable)
              (recorded host.options failure lines w₁) = some (enabled, w₂) →
            (Reported host failure enabled w' ↔ w₂.make.calls = w₁.make.calls ∧
              w₂.make.functions.get? host.options.errorVariable = none)))) := by
  obtain ⟨traced, w₁, htraced, hevolves, -, hraises⟩ :=
    recordError_cases hname hw.sound horigin h
  refine ⟨traced, w₁, htraced, fun hrunning₁ => ?_⟩
  obtain ⟨lines, hraise⟩ := hraises hrunning₁
  have hrecorded : (recorded host.options failure lines w₁).Sound :=
    recorded_sound hname (hevolves.sound hw.sound) lines
  obtain ⟨enabled, w₂, henabled, hkeep, hstop⟩ := raiseError_cases hname hrecorded hraise
  refine ⟨lines, enabled, w₂, henabled, fun hrunning₂ => ?_⟩
  have hw₂ := (perform_along (Nat.le_refl _) henabled).2.sound hrecorded
  have hquiet := flagEnabled_quiet hrecorded.attached henabled
  have hreported : w₂.make.calls = w₁.make.calls →
      w₂.make.functions.get? host.options.errorVariable = none →
      Reported host failure enabled w' := by
    intro hcalls hfunction
    refine reported_of_slot hname hw₂ hrunning₂ hkeep hstop ?_ hfunction
    rw [hquiet.bindings hcalls]
    exact Table.get?_insert_self
  refine ⟨hreported, fun hstrict => ⟨fun h => ?_, fun h => hreported h.1 h.2⟩⟩
  have hwritable : (recorded host.options failure lines w₁).Writable
      host.options.errorVariable := by
    refine ⟨hrecorded, ?_⟩
    rw [show (recorded host.options failure lines w₁).make.bindings.get?
      host.options.errorVariable = some (slot failure) from Table.get?_insert_self]
    nofun
  have hcleared := strict_flagEnabled_cleared hname hwritable hstrict
  have hslot : w₂.make.bindings.get? host.options.errorVariable ≠ none := fun hnone =>
    not_reported hname hw₂ hrunning₂ hkeep hstop (.inl hnone) h
  have hfunction : w₂.make.functions.get? host.options.errorVariable = none := by
    by_contra hsome
    exact not_reported hname hw₂ hrunning₂ hkeep hstop (.inr hsome) h
  exact ⟨((hcleared.cleared hrunning₂).resolve_left hslot).1, hfunction⟩

/-- A host with functions that succeed and functions that fail. -/
def succeedOrFail : Host Bool Unit :=
  ⟨.default, fun succeeds _ _ =>
    if succeeds then pure (.text "1") else throw (.failure (.of "KeyError" "oops"))⟩

/-- A world with a function that succeeds, and with this text in the fatal-errors variable. -/
def withFatalErrors (text : Text) : World Bool Unit :=
  let w := (World.fresh () .attached).enter ⟨⟨"ok", by decide⟩, true, .one, .expand⟩
  { w with make := w.make.setVariable ".GNUMAKE_FATAL_ERRORS" ⟨text, .recursive, .file⟩ }

/-- The world with a value for the flag can be reached. -/
theorem withFatalErrors_reachable (text : Text) : (withFatalErrors text).Reachable :=
  .change (.change (.fresh ()) (.enter trivial)) (.assign nofun nofun rfl)

/-- With a plain flag make is stopped with the failure. -/
theorem recordError_reported_iff_plain : ∃ w', Make.perform (succeedOrFail.level 8)
      (recordError .default "fail" (.of "KeyError" "oops")) (withFatalErrors "1") =
        some ((), w') ∧ w'.make.fatal = some "KeyError: oops".toList := by
  have hdone : (Make.perform (succeedOrFail.level 8) (recordError .default "fail"
      (.of "KeyError" "oops")) (withFatalErrors "1")).isSome = true := by decide +kernel
  obtain ⟨⟨_, w'⟩, h⟩ := Option.isSome_iff_exists.1 hdone
  obtain ⟨traced, w₁, htraced, hcases⟩ := recordError_reported_iff succeedOrFail
    isUsable_errorVariable (withFatalErrors_reachable "1") nofun h
  have hflag : Make.perform (succeedOrFail.level 8) (flagEnabled ".GNUMAKE_PRINT_TRACEBACK")
      (withFatalErrors "1") = some (false, Make.skipBuffer (withFatalErrors "1")) := rfl
  cases hflag.symm.trans htraced
  obtain ⟨lines, enabled, w₂, henabled, hrest⟩ := hcases rfl
  have hflag₂ : Make.perform (succeedOrFail.level 8) (flagEnabled ".GNUMAKE_FATAL_ERRORS")
      (recorded .default (.of "KeyError" "oops") lines (Make.skipBuffer (withFatalErrors "1"))) =
        some (true, Make.skipBuffer (recorded .default (.of "KeyError" "oops") lines
          (Make.skipBuffer (withFatalErrors "1")))) := rfl
  cases hflag₂.symm.trans henabled
  exact ⟨w', h, (hrest rfl).1 rfl rfl⟩

/-- With a flag that calls a function, make is not stopped with the failure, although reading the
flags stops nothing: the call, which succeeds, has removed the error variable. -/
theorem recordError_not_reported_call :
    (withFatalErrors "$(ok x)").Reachable ∧
    Make.perform (succeedOrFail.level 8) (flagEnabled ".GNUMAKE_PRINT_TRACEBACK")
      (withFatalErrors "$(ok x)") = some (false, Make.skipBuffer (withFatalErrors "$(ok x)")) ∧
    (∃ w₂, Make.perform (succeedOrFail.level 8) (flagEnabled ".GNUMAKE_FATAL_ERRORS")
        (recorded .default (.of "KeyError" "oops") []
          (Make.skipBuffer (withFatalErrors "$(ok x)"))) =
          some (true, w₂) ∧ w₂.make.stopped = false) ∧
    ∃ w', Make.perform (succeedOrFail.level 8)
        (recordError .default "fail" (.of "KeyError" "oops")) (withFatalErrors "$(ok x)") =
          some ((), w') ∧ w'.make.fatal ≠ some "KeyError: oops".toList := by
  refine ⟨withFatalErrors_reachable _, rfl, ?_, ?_⟩
  · have hflag : (Make.perform (succeedOrFail.level 8) (flagEnabled ".GNUMAKE_FATAL_ERRORS")
        (recorded .default (.of "KeyError" "oops") [] (Make.skipBuffer
          (withFatalErrors "$(ok x)")))).map (fun r => (r.1, r.2.make.stopped)) =
        some (true, false) := by decide +kernel
    obtain ⟨⟨b, w₂⟩, hrun, hresult⟩ := Option.map_eq_some_iff.1 hflag
    obtain ⟨rfl, hrunning⟩ := Prod.mk.inj hresult
    exact ⟨w₂, hrun, hrunning⟩
  · have hfatal : (Make.perform (succeedOrFail.level 8) (recordError .default "fail"
        (.of "KeyError" "oops")) (withFatalErrors "$(ok x)")).map (·.2.make.fatal) =
        some (some []) := by decide +kernel
    obtain ⟨⟨_, w'⟩, hrun, hresult⟩ := Option.map_eq_some_iff.1 hfatal
    refine ⟨w', hrun, ?_⟩
    rw [hresult]
    nofun

end Host

end MakeHost
