import MakeHost.Proofs.Facade
import MakeHost.Proofs.Reachable

/-!
# The error variable

A call ends by writing the error variable, and `Host.settle` is all of that: the variable is removed
after a success (`Host.perform_clearError`), and after a failure the two flags are read, one before
and one after the failure's text is stored (`Host.recordError_cases`). With both flags undefined
every call leaves the variable as it says, whatever happened while it ran.
-/

namespace MakeHost

variable {κ μ : Type}

namespace Host

/-- A variable name that directives and references can be made of. -/
structure IsUsable (name : Text) : Prop where
  legal : isLegalVariableName name = true
  last : name.getLast? ≠ some '\\'
  clean : '\x00' ∉ name

/-- What a failure says, as far as make can hold it. -/
def description (failure : Failure) : Text := failure.text.filter (· ≠ '\x00')

/-- The error variable after a failure. -/
def slot (failure : Failure) : Variable :=
  ⟨DefineBlock.literal (description failure), .recursive, .file⟩

variable {host : Host κ μ} {options : HostOptions} {failure : Failure} {fuel : Nat}
  {w w' : World κ μ} {name : Text}

section
variable (hname : IsUsable options.errorVariable) (hw : w.Sound)
  (hrunning : w.make.stopped = false)
include hname hw hrunning

/-- Removing the error variable removes it and does nothing else. -/
theorem perform_clearError : Make.perform (host.level (fuel + 3)) (clearError options) w =
    some ((), { w with make := w.make.undefine options.errorVariable }) := by
  have hrun : (host.level (fuel + 3)).run ("undefine " ++ options.errorVariable) w =
      some ((), { w with make := w.make.undefine options.errorVariable }) := by
    have hundefine : (host.level (fuel + 3)).run ("undefine " ++ options.errorVariable) w =
        some ((), { w with
          make := w.make.undefine (Make.uncontinued options.errorVariable) }) :=
      Make.run_undefine hname.legal hrunning
    rwa [Make.uncontinued_of_getLast? hname.last] at hundefine
  have htext : '\x00' ∉ "undefine " ++ options.errorVariable := by simpa using hname.clean
  rw [clearError, Make.perform_bind, Run.bind_apply,
    Make.perform_evaluate_run htext hw.attached, Run.bind_of_eq_some hrun]
  rfl

/-- Storing a failure's text defines the error variable and does nothing else. -/
theorem perform_errorDefinition
    (horigin : (w.make.bindings.get? options.errorVariable).map (·.origin) ≠ some .commandLine) :
    Make.perform (host.level (fuel + 3)) (evaluate (errorDefinition options failure)).run w =
      some (.ok (), { w with
        make := w.make.setVariable options.errorVariable (slot failure) }) := by
  have hbroken := DefineBlock.literal_spec (description failure)
  have hrun : (host.level (fuel + 3)).run (errorDefinition options failure) w =
      some ((), { w with make := w.make.setVariable options.errorVariable (slot failure) }) :=
    Make.run_define hname.legal hname.last hrunning horigin hbroken
  have htext : '\x00' ∉ errorDefinition options failure := by
    have hliteral := hbroken.notMem (by simp [description])
    have htext : errorDefinition options failure = "define " ++ options.errorVariable ++ "\n" ++
        DefineBlock.literal (description failure) ++ "\nendef" := rfl
    rw [htext]
    generalize DefineBlock.literal (description failure) = body at hliteral
    simpa using ⟨hname.clean, hliteral⟩
  rw [Make.perform_evaluate_run htext hw.attached, Run.bind_of_eq_some hrun]
  rfl

end

/-! ## Flags -/

/-- Reading a flag without a variable yields that it is not set, or stops make because a function
has its name. -/
theorem flag_of_undefined (hname : IsUsable name) (hw : w.Sound)
    (hvariable : w.make.bindings.get? name = none) {b : Bool}
    (hflag : Make.perform (host.level fuel) (flagEnabled name) w = some (b, w'))
    (hrunning : w'.make.stopped = false) : b = false ∧ w' = Make.skipBuffer w := by
  obtain ⟨hflag, hevolves⟩ := perform_along (Nat.le_add_right fuel 3) hflag
  have hw_running := hevolves.running hrunning
  rw [Make.perform_flagEnabled hname.clean hw.attached] at hflag
  obtain ⟨a, w₀, hexpand, hresult⟩ := Run.bind_eq_some.1 hflag
  cases hfunction : w.make.functions.get? name with
  | none =>
    have hdepth : 0 < Make.maxDepth := by decide
    have hreference : (host.level (fuel + 3)).expand 0 ("$(" ++ name ++ ")") w = some ([], w) :=
      Make.expandWithin_reference_undefined hname.legal hw_running hvariable hfunction hdepth
    cases hreference.symm.trans hexpand
    cases hresult
    exact ⟨rfl, rfl⟩
  | some f =>
    have hreference : (host.level (fuel + 3)).expand 0 ("$(" ++ name ++ ")") w =
        some ([], { w with make := w.make.fail (Make.noArguments name) }) :=
      Make.expandWithin_reference_function hname.legal hw_running hfunction
        (hw.checked name f hfunction).2 (Nat.zero_le _)
    cases hreference.symm.trans hexpand
    cases hresult
    have hstopped : (w.make.fail (Make.noArguments name)).stopped = false := hrunning
    rw [Make.State.stopped_fail] at hstopped
    cases hstopped

/-! ## Failures -/

/-- The lines that a failure leaves on standard error. -/
def shown (name : Text) (failure : Failure) : List Text :=
  (failure.trace.map Text.trimEnd).toList ++ [name ++ ": " ++ failure.text]

/-- Showing a failure writes its lines. -/
theorem perform_showFailure {l : Make.Level κ μ} :
    Make.perform l (showFailure name failure) w =
      some ((), { w with complaints := shown name failure ++ w.complaints }) := by
  rw [showFailure, shown]
  cases failure.trace <;> rfl

/-- A world after a failure was recorded, with the lines that were shown. -/
def recorded (options : HostOptions) (failure : Failure) (lines : List Text) (w : World κ μ) :
    World κ μ :=
  { w with
    make := w.make.setVariable options.errorVariable (slot failure)
    complaints := lines ++ w.complaints }

/-- Storing a failure's text where make runs has one result only. -/
theorem errorDefinition_of_some (hname : IsUsable options.errorVariable) (hw : w.Sound)
    (hrunning : w.make.stopped = false)
    (horigin : (w.make.bindings.get? options.errorVariable).map (·.origin) ≠ some .commandLine)
    {result : Except HostError Unit}
    (h : Make.perform (host.level fuel) (evaluate (errorDefinition options failure)).run w =
      some (result, w')) : result = .ok () ∧ w' = recorded options failure [] w := by
  obtain ⟨h, -⟩ := perform_along (Nat.le_add_right fuel 3) h
  cases (perform_errorDefinition hname hw hrunning horigin).symm.trans h
  exact ⟨rfl, rfl⟩

/-- Where make runs, a failure's text is stored, and the fatal-errors flag is read there. -/
theorem storeError_cases (hname : IsUsable options.errorVariable) (hw : w.Sound)
    (hrunning : w.make.stopped = false)
    (horigin : (w.make.bindings.get? options.errorVariable).map (·.origin) ≠ some .commandLine)
    (lines : List Text)
    (h : Make.perform (host.level fuel) (storeError options failure)
      { w with complaints := lines ++ w.complaints } = some ((), w')) :
    Make.perform (host.level fuel) (raiseError options) (recorded options failure lines w) =
      some ((), w') := by
  rw [storeError, Make.perform_bind] at h
  obtain ⟨result, w₁, hdefine, hraise⟩ := Run.bind_eq_some.1 h
  have hsound : World.Sound { w with complaints := lines ++ w.complaints } :=
    ⟨hw.attached, hw.named, hw.checked⟩
  obtain ⟨rfl, rfl⟩ := errorDefinition_of_some hname hsound hrunning horigin hdefine
  exact hraise

/-- Recording a failure is reading the traceback flag, storing the failure's text, and reading the
other flag where the text is stored. -/
theorem recordError_cases (hname : IsUsable options.errorVariable) (hw : w.Sound)
    (horigin : (w.make.bindings.get? options.errorVariable).map (·.origin) ≠ some .commandLine)
    (h : Make.perform (host.level fuel) (recordError options name failure) w = some ((), w')) :
    ∃ traced w₁, Make.perform (host.level fuel) (flagEnabled options.tracebackVariable) w =
        some (traced, w₁) ∧
      World.Evolves (fun _ => True) w w₁ ∧ World.Evolves (fun _ => True) w₁ w' ∧
      (w₁.make.stopped = false → ∃ lines, Make.perform (host.level fuel) (raiseError options)
        (recorded options failure lines w₁) = some ((), w')) := by
  rw [recordError, Make.perform_bind] at h
  obtain ⟨traced, w₁, hflag, hrest⟩ := Run.bind_eq_some.1 h
  have hevolves := (perform_along (Nat.le_refl _) hflag).2
  refine ⟨traced, w₁, hflag, hevolves, (perform_along (Nat.le_refl _) hrest).2, ?_⟩
  intro hrunning
  have horigin₁ := hevolves.origin_ne_commandLine horigin
  have hsound := hevolves.sound hw
  cases traced with
  | false =>
    rw [if_neg (by decide)] at hrest
    exact ⟨[], storeError_cases hname hsound hrunning horigin₁ [] hrest⟩
  | true =>
    rw [if_pos rfl, Make.perform_bind, Run.bind_of_eq_some perform_showFailure] at hrest
    exact ⟨_, storeError_cases hname hsound hrunning horigin₁ (shown name failure) hrest⟩

/-- A failure that is recorded leaves a sound world. -/
theorem recorded_sound (hname : IsUsable options.errorVariable) (hw : w.Sound)
    (lines : List Text) : (recorded options failure lines w).Sound :=
  ⟨hw.attached, (Table.get?_insert_of_ne (ne_nil_of_isLegal hname.legal).symm).trans hw.named,
    hw.checked⟩

/-! ## Settling a call -/

/-- Handing a value over takes at most a buffer. -/
theorem perform_deliver {l : Make.Level κ μ} {v : Value} {buffer : Option Buffer}
    (h : Make.perform l (deliver v) w = some (buffer, w')) :
    w' = w ∨ w' = { w with make := w.make.allocate.2 } := by
  rw [deliver] at h
  cases hbytes : v.encode? with
  | none =>
    rw [hbytes] at h
    cases h
    exact .inl rfl
  | some bytes =>
    rw [hbytes] at h
    cases h
    exact .inr rfl

/-- What the error variable is to say after an outcome. -/
def Outcome.slot? : Outcome → Option Variable
  | unknown | value _ => none
  | failed _ failure => some (slot failure)

section
variable (hname : IsUsable options.errorVariable) (hw : w.Sound)
  (horigin : (w.make.bindings.get? options.errorVariable).map (·.origin) ≠ some .commandLine)
include hname hw horigin

/-- After the error variable was removed it is not there. -/
theorem clearError_get? (h : Make.perform (host.level fuel) (clearError options) w = some ((), w'))
    (hrunning : w'.make.stopped = false) :
    w'.make.bindings.get? options.errorVariable = none ∧ w'.make.functions = w.make.functions := by
  obtain ⟨h, hevolves⟩ := perform_along (Nat.le_add_right fuel 3) h
  cases (perform_clearError hname hw (hevolves.running hrunning)).symm.trans h
  refine ⟨?_, Make.State.functions_undefine⟩
  rw [Make.State.get?_undefine_self, Option.filter_eq_none_iff]
  intro v hv hcommandLine
  rw [hv] at horigin
  exact horigin (congrArg some (of_decide_eq_true hcommandLine))

/-- After a failure was recorded, with both flags undefined, the error variable says it. -/
theorem recordError_get? (htraceback : IsUsable options.tracebackVariable)
    (hfatal : IsUsable options.fatalErrorsVariable)
    (hne : options.fatalErrorsVariable ≠ options.errorVariable)
    (htraced : w.make.bindings.get? options.tracebackVariable = none)
    (henabled : w.make.bindings.get? options.fatalErrorsVariable = none)
    (h : Make.perform (host.level fuel) (recordError options name failure) w = some ((), w'))
    (hrunning : w'.make.stopped = false) :
    w'.make.bindings.get? options.errorVariable = some (slot failure) ∧
      w'.make.functions = w.make.functions := by
  obtain ⟨traced, w₁, hflag, -, hevolves, hraises⟩ := recordError_cases hname hw horigin h
  have hrunning₁ := hevolves.running hrunning
  obtain ⟨rfl, rfl⟩ := flag_of_undefined htraceback hw htraced hflag hrunning₁
  obtain ⟨lines, hraise⟩ := hraises hrunning₁
  rw [raiseError, Make.perform_bind] at hraise
  obtain ⟨enabled, w₂, hflag₂, hrest₂⟩ := Run.bind_eq_some.1 hraise
  have hrunning₂ := (perform_along (Nat.le_refl _) hrest₂).2.running hrunning
  have hundefined : (recorded options failure lines (Make.skipBuffer w)).make.bindings.get?
      options.fatalErrorsVariable = none := (Table.get?_insert_of_ne hne).trans henabled
  have hskip : (Make.skipBuffer w).Sound := ⟨hw.attached, hw.named, hw.checked⟩
  obtain ⟨rfl, rfl⟩ :=
    flag_of_undefined hfatal (recorded_sound hname hskip lines) hundefined hflag₂ hrunning₂
  cases hrest₂
  exact ⟨Table.get?_insert_self, rfl⟩

/-- After a call that did not fail the error variable is not there. -/
theorem settle_success_get? {outcome : Outcome} {buffer : Option Buffer}
    (houtcome : outcome.slot? = none)
    (h : Make.perform (host.level fuel) (settle options outcome) w = some (buffer, w'))
    (hrunning : w'.make.stopped = false) :
    w'.make.bindings.get? options.errorVariable = none ∧ w'.make.functions = w.make.functions := by
  cases outcome with
  | unknown =>
    rw [settle, Make.perform_bind] at h
    obtain ⟨_, w₁, hclear, hrest⟩ := Run.bind_eq_some.1 h
    cases hrest
    exact clearError_get? hname hw horigin hclear hrunning
  | value v =>
    rw [settle, Make.perform_bind] at h
    obtain ⟨_, w₁, hdeliver, hrest⟩ := Run.bind_eq_some.1 h
    rw [Make.perform_bind] at hrest
    obtain ⟨_, w₂, hclear, hrest⟩ := Run.bind_eq_some.1 hrest
    cases hrest
    obtain rfl | rfl := perform_deliver hdeliver
    · exact clearError_get? hname hw horigin hclear hrunning
    · exact clearError_get? (w := { w with make := w.make.allocate.2 }) hname
        ⟨hw.attached, hw.named, hw.checked⟩ horigin hclear hrunning
  | failed => cases houtcome

/-- **Settling a call leaves the error variable as the call's outcome says**, when both flags are
undefined and make is not stopped. -/
theorem settle_get? (htraceback : IsUsable options.tracebackVariable)
    (hfatal : IsUsable options.fatalErrorsVariable)
    (hne : options.fatalErrorsVariable ≠ options.errorVariable)
    (htraced : w.make.bindings.get? options.tracebackVariable = none)
    (henabled : w.make.bindings.get? options.fatalErrorsVariable = none)
    {outcome : Outcome} {buffer : Option Buffer}
    (h : Make.perform (host.level fuel) (settle options outcome) w = some (buffer, w'))
    (hrunning : w'.make.stopped = false) :
    w'.make.bindings.get? options.errorVariable = outcome.slot? ∧
      w'.make.functions = w.make.functions := by
  cases outcome with
  | unknown | value => exact settle_success_get? hname hw horigin rfl h hrunning
  | failed name failure =>
    rw [settle, Make.perform_bind] at h
    obtain ⟨_, w₁, hrecord, hrest⟩ := Run.bind_eq_some.1 h
    cases hrest
    exact recordError_get? hname hw horigin htraceback hfatal hne htraced henabled hrecord hrunning

end

/-! ## The default names -/

/-- The default name of the error variable can be used. -/
theorem isUsable_errorVariable : IsUsable HostOptions.default.errorVariable :=
  ⟨by decide, by decide, by decide⟩

/-- The default name of the first flag can be used. -/
theorem isUsable_tracebackVariable : IsUsable HostOptions.default.tracebackVariable :=
  ⟨by decide, by decide, by decide⟩

/-- The default name of the second flag can be used. -/
theorem isUsable_fatalErrorsVariable : IsUsable HostOptions.default.fatalErrorsVariable :=
  ⟨by decide, by decide, by decide⟩

/-- **The error variable is about the last call.** Whenever a call that a host with the default
options answers in a reachable world leaves make running, the error variable is gone if the call
succeeded or named no function. Otherwise it is there, and reading it yields the kind and the
message of this very call's failure. Both flags are to be undefined when the function has run, the
error variable none of the command line's, and its name not a function's. -/
theorem dispatch_error_variable (host : Host κ μ) (hoptions : host.options = .default)
    (hw : w.Reachable) {function : Bytes} {args : List Bytes} {buffer : Option Buffer}
    (h : Make.perform (host.level fuel) (host.dispatch function args) w = some (buffer, w'))
    (hrunning : w'.make.stopped = false) :
    ∃ outcome w₁, Make.perform (host.level fuel) (host.outcome function args) w =
        some (outcome, w₁) ∧
      Make.perform (host.level fuel) (settle .default outcome) w₁ = some (buffer, w') ∧
      (w₁.make.bindings.get? ".GNUMAKE_PRINT_TRACEBACK" = none →
        w₁.make.bindings.get? ".GNUMAKE_FATAL_ERRORS" = none →
        (w₁.make.bindings.get? ".GNUMAKE_LAST_ERROR").map (·.origin) ≠ some .commandLine →
        w₁.make.functions.get? ".GNUMAKE_LAST_ERROR" = none →
        match outcome with
        | .unknown | .value _ => w'.make.bindings.get? ".GNUMAKE_LAST_ERROR" = none
        | .failed _ failure =>
          w'.make.bindings.contains ".GNUMAKE_LAST_ERROR" = true ∧
          ∀ more, (host.level (more + 3)).expand 0 "$(.GNUMAKE_LAST_ERROR)" w' =
            some ((failure.kind ++ ": " ++ failure.message).filter (· ≠ '\x00'), w')) := by
  rw [dispatch, Make.perform_bind, hoptions] at h
  obtain ⟨outcome, w₁, houtcome, hsettle⟩ := Run.bind_eq_some.1 h
  refine ⟨outcome, w₁, houtcome, hsettle, fun htraced henabled horigin hfunction => ?_⟩
  have hw₁ := (hw.evolve (perform_along (Nat.le_refl _) houtcome).2).sound
  obtain ⟨hslot, hfunctions⟩ := settle_get? isUsable_errorVariable hw₁ horigin
    isUsable_tracebackVariable isUsable_fatalErrorsVariable (by decide) htraced henabled hsettle
    hrunning
  cases outcome with
  | unknown | value v => exact hslot
  | failed name failure =>
    have hw' := (perform_along (Nat.le_refl _) hsettle).2.sound hw₁
    refine ⟨by rw [Table.contains]; exact congrArg Option.isSome hslot, fun more => ?_⟩
    have hdepth : 0 + 1 < Make.maxDepth := by decide
    exact Make.expandWithin_literal isUsable_errorVariable.legal hw'.noUnnamed hrunning
      (hfunctions ▸ hfunction) hslot rfl (DefineBlock.literal_spec (description failure)) hdepth

/-- A host whose functions all fail, with a message that make could take for its own text. -/
def failing : Host Unit Unit :=
  ⟨.default, fun _ _ _ => throw (.failure (.of "KeyError" "$(x)\nendef\\"))⟩

/-- A world with one function. -/
def withFunction : World Unit Unit :=
  (World.fresh () .attached).enter ⟨⟨"f", by decide⟩, (), .one, .expand⟩

/-- The world is reached by registering the function. -/
theorem withFunction_reachable : withFunction.Reachable := .change (.fresh ()) (.enter trivial)

/-- A failed call of `f`, and what is read back of it. -/
theorem dispatch_error_variable_failing : ∃ result,
    Make.perform (failing.level 3) (failing.dispatch (Text.utf8 "f") [[]]) withFunction =
      some result ∧
    (failing.level 3).expand 0 "$(.GNUMAKE_LAST_ERROR)" result.2 =
      some ("KeyError: $(x)\nendef\\".toList, result.2) := by
  have hdone : (Make.perform (failing.level 3) (failing.dispatch (Text.utf8 "f") [[]])
      withFunction).map (·.2.make.stopped) = some false := by decide +kernel
  have hfailed : Make.perform (failing.level 3) (failing.outcome (Text.utf8 "f") [[]])
      withFunction = some (.failed "f" (.of "KeyError" "$(x)\nendef\\"), withFunction) := rfl
  obtain ⟨result, hresult, hrunning⟩ := Option.map_eq_some_iff.1 hdone
  obtain ⟨outcome, w₁, houtcome, -, hslot⟩ :=
    dispatch_error_variable failing rfl withFunction_reachable hresult hrunning
  cases hfailed.symm.trans houtcome
  obtain ⟨-, hreads⟩ := hslot (by decide) (by decide) (by decide) (by decide)
  exact ⟨result, hresult, hreads 0⟩

end Host

end MakeHost
