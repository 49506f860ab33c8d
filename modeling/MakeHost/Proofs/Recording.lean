import MakeHost.Proofs.ArgumentCount
import MakeHost.Proofs.ErrorVariable
import MakeHost.Proofs.Termination

/-!
# Failures recorded within one another

Recording a failure reads two flags, which may hand out calls, which may fail and be recorded in
turn. The depth of references starts anew with each of them, so make does not bound how deep they
nest. `Host.recordWithin` records failures at most so deep within one another, and does something
else beyond. For functions that do not have make read a text (`Host.Secluded`) nothing but this
nesting keeps a call from coming to an end: `Host.dispatch_ends_iff` says that a call has the
results that it has with failures recorded at finite depth, and that cutting them off at any depth
leaves one. `Host.dispatch_never_ends` is a call where they do not end.
-/

namespace MakeHost

variable {κ μ α β : Type} {w : World κ μ}

/-! ## Actions without texts -/

/-- The action never has make evaluate or expand a text. -/
inductive Action.Secluded : Action κ μ α → Prop
  | done (a : α) : Secluded (.done a)
  | ask {r : Request κ μ} {next : r.Answer → Action κ μ α} :
      (∀ text, r ≠ .evaluate text ∧ r ≠ .expand text) → (∀ answer, Secluded (next answer)) →
      Secluded (.ask r next)

namespace Action.Secluded

/-- A request that make reads no text for. -/
theorem request {r : Request κ μ} (h : ∀ text, r ≠ .evaluate text ∧ r ≠ .expand text) :
    Secluded (Action.request r) := .ask h fun answer => .done answer

/-- Actions one behind the other are secluded if each of them is. -/
theorem bind {x : Action κ μ α} {f : α → Action κ μ β} (hx : Secluded x)
    (hf : ∀ a, Secluded (f a)) : Secluded (x >>= f) := by
  induction hx with
  | done a => exact hf a
  | ask hr _ ih => exact .ask hr ih

end Action.Secluded

namespace Make

/-- What an action without texts does is the same with all levels of make. -/
theorem perform_of_secluded {x : Action κ μ α} (hx : x.Secluded) (l l' : Level κ μ) :
    perform l x = perform l' x := by
  induction hx with
  | done a => rfl
  | @ask r next hr _ ih =>
    have hhandle : handle l r = handle l' r := by
      cases r with
      | evaluate text => exact absurd rfl (hr text).1
      | expand text => exact absurd rfl (hr text).2
      | _ => rfl
    simp only [perform, hhandle, ih]

/-- An action without texts comes to an end. -/
theorem perform_ends_of_secluded {x : Action κ μ α} (hx : x.Secluded) (l : Level κ μ) :
    Run.Ends (fun _ _ => True) w (perform l x) := by
  have hidle : Level.Ends (fun _ _ : World κ μ => True)
      ⟨fun _ _ => pure [], fun _ => pure ()⟩ := ⟨fun _ _ => .pure [], fun _ _ => .pure ()⟩
  rw [perform_of_secluded hx l ⟨fun _ _ => pure [], fun _ => pure ()⟩]
  exact perform_ends World.anything hidle (.trivial x)

/-- Make with one amount of nesting goes along with make with so much more, where calls do. -/
theorem levelWithin_along_offset {T : World κ μ → World κ μ → Prop} (hT : Writes T)
    {respond respond' : Responder κ μ} (more : Nat) {fuel : Nat}
    (hc : ∀ k < fuel, ∀ w name args,
      Run.Along T w (handOut respond (levelWithin respond k) name args)
      (handOut respond' (levelWithin respond' (more + k)) name args)) :
    (levelWithin respond fuel).Along T (levelWithin respond' (more + fuel)) := by
  induction fuel with
  | zero => exact ⟨fun _ _ _ => .exhausted, fun _ _ => .exhausted⟩
  | succ fuel ih =>
    have hl := ih fun k hk => hc k (Nat.lt_succ_of_lt hk)
    have hhand := hc fuel (Nat.lt_succ_self fuel)
    refine ⟨fun w depth text => ?_, fun w text => ?_⟩
    · exact expandText_along hT.toReads hl.expand (fun _ depth name f args _ =>
        expandCall_along hT.toReads hl.expand hhand depth name f args) depth text
    · exact evaluateStatements_along hT hl.expand _

/-- Make as far as what hands out no call needs it. -/
def secluded : Level κ μ := levelWithin (fun _ _ _ => Run.exhausted) 2

end Make

namespace Host

variable {host : Host κ μ} {options : HostOptions}

/-- The functions of the host do not have make read a text. -/
def Secluded (host : Host κ μ) : Prop :=
  ∀ code name args, (host.body code name args).run.Secluded

/-! ## Recording at most so deep -/

section
variable (host)

/-- Tells make of an outcome as `settle` does, with `record` for the recording of a failure. The
rest takes place where make hands out no call. -/
def settleRecording (record : Text → Failure → Run κ μ Unit) : Outcome → Run κ μ (Option Buffer)
  | .failed name failure => do
    record name failure
    return none
  | outcome => Make.perform Make.secluded (settle host.options outcome)

/-- Answers a call as `dispatch` does, with `record` for the recording of a failure. -/
def answerRecording (record : Text → Failure → Run κ μ Unit) (function : Bytes)
    (args : List Bytes) : Run κ μ (Option Buffer) := do
  host.settleRecording record (← Make.perform Make.secluded (host.outcome function args))

/-- Answers the calls that make hands out, with `record` for the recording of a failure. -/
def responderRecording (record : Text → Failure → Run κ μ Unit) : Make.Responder κ μ :=
  fun _ name args => host.answerRecording record name.utf8 (args.map Text.utf8)

/-- Records failures at most so deep within one another; beyond that `beyond` happens. -/
def recordWithin (beyond : Run κ μ Unit) : Nat → Text → Failure → Run κ μ Unit
  | 0, _, _ => beyond
  | n + 1, name, failure =>
    Make.perform (Make.levelWithin (host.responderRecording (recordWithin beyond n)) Make.ample)
      (recordError host.options name failure)

end

/-! ## What takes place without calls -/

/-- A call of a secluded host is secluded up to its outcome. -/
theorem Secluded.outcome (h : host.Secluded) (function : Bytes) (args : List Bytes) :
    (host.outcome function args).Secluded := by
  have hlookup : (lookup function : Action κ μ (Option (Exported κ))).Secluded := by
    unfold lookup
    cases Utf8.decode function with
    | error e => exact .done _
    | ok name => exact .ask (fun _ => ⟨nofun, nofun⟩) fun _ => .done _
  refine hlookup.bind fun f => ?_
  cases f with
  | none => exact .done _
  | some f =>
    refine .bind ?_ fun result => ?_
    · unfold invoke
      cases decodeArguments args with
      | error e => exact .done _
      | ok args => exact h _ _ _
    · cases result <;> exact .done _

/-- Handing a value over is secluded. -/
theorem secluded_deliver (v : Value) : (deliver v : Action κ μ (Option Buffer)).Secluded := by
  unfold deliver
  cases v.encode? with
  | none => exact .done _
  | some bytes => exact .request fun _ => ⟨nofun, nofun⟩

/-- The world once the error variable was removed. -/
def cleared (options : HostOptions) (w : World κ μ) : World κ μ :=
  if '\x00' ∈ options.errorVariable then w
  else
    let noted := w.note (.eval ("undefine " ++ options.errorVariable))
    if noted.make.stopped then noted
    else { noted with make := noted.make.undefine (Make.uncontinued options.errorVariable) }

/-- The world alone says what removing the error variable does. -/
theorem perform_clearError_eq (hname : isLegalVariableName options.errorVariable = true)
    (respond : Make.Responder κ μ) (fuel : Nat) :
    Make.perform (Make.levelWithin respond (fuel + 2)) (clearError options) w =
      some ((), cleared options w) := by
  rw [clearError, Make.perform_bind, cleared]
  split
  · next hnul =>
    have hmem : '\x00' ∈ "undefine " ++ options.errorVariable := by simpa using hnul
    rw [evaluate, checkText, nulFault?, if_pos (by simpa using hmem)]
    rfl
  · next hclean =>
    have htext : '\x00' ∉ "undefine " ++ options.errorVariable := by simpa using hclean
    rw [Run.bind_apply, Make.perform_evaluate_note htext]
    dsimp only
    split
    · next hstopped => rw [Run.bind_of_eq_some (Make.run_of_stopped hstopped _)]; rfl
    · next hrunning =>
      rw [Run.bind_of_eq_some (Make.run_undefine hname (Bool.eq_false_iff.2 hrunning))]
      rfl

/-- Telling make of a call that did not fail is the same with all levels of make. -/
theorem perform_settle_eq (hname : isLegalVariableName options.errorVariable = true)
    {outcome : Outcome} (houtcome : outcome.slot? = none) (respond respond' : Make.Responder κ μ)
    (fuel more : Nat) :
    Make.perform (Make.levelWithin respond (fuel + 2)) (settle options outcome) =
      Make.perform (Make.levelWithin respond' (more + 2)) (settle options outcome) := by
  have hclear : Make.perform (Make.levelWithin respond (fuel + 2)) (clearError options) =
      Make.perform (Make.levelWithin respond' (more + 2)) (clearError options) := by
    funext w
    rw [perform_clearError_eq hname, perform_clearError_eq hname]
  have hdone : ∀ l (b : Option Buffer), Make.perform l (pure b : Action κ μ (Option Buffer)) =
      pure b := fun _ _ => rfl
  cases outcome with
  | unknown => rw [settle, Make.perform_bind, Make.perform_bind, hclear, hdone, hdone]
  | value v =>
    have hdeliver := Make.perform_of_secluded (secluded_deliver (κ := κ) (μ := μ) v)
      (Make.levelWithin respond (fuel + 2)) (Make.levelWithin respond' (more + 2))
    rw [settle, Make.perform_bind, Make.perform_bind, hdeliver]
    refine congrArg _ (funext fun b => ?_)
    rw [Make.perform_bind, Make.perform_bind, hclear, hdone, hdone]
  | failed => cases houtcome

/-! ## Cutting off -/

/-- Answering a call comes to an end where recording its failure does. -/
theorem answerRecording_ends (hhost : host.Secluded)
    (hname : isLegalVariableName host.options.errorVariable = true)
    {record : Text → Failure → Run κ μ Unit}
    (hrecord : ∀ w name failure, Run.Ends (fun _ _ => True) w (record name failure))
    (function : Bytes) (args : List Bytes) :
    Run.Ends (fun _ _ => True) w (host.answerRecording record function args) := by
  have hT := (World.anything (κ := κ) (μ := μ)).toSteps
  have hclear : ∀ w, Run.Ends (fun _ _ => True) w
      (Make.perform Make.secluded (clearError host.options) : Run κ μ Unit) :=
    fun w => .of_eq (perform_clearError_eq hname _ 0) id
  refine .bind hT (Make.perform_ends_of_secluded (hhost.outcome function args) _) ?_
  intro outcome w' _
  cases outcome with
  | unknown =>
    rw [settleRecording, settle, Make.perform_bind]
    · exact .bind hT (hclear w') fun _ _ _ => .pure none
    · intro name failure hfailed
      cases hfailed
  | value v =>
    rw [settleRecording, settle, Make.perform_bind]
    · refine .bind hT (Make.perform_ends_of_secluded (secluded_deliver v) _) fun b w'' _ => ?_
      rw [Make.perform_bind]
      exact .bind hT (hclear w'') fun _ _ _ => .pure b
    · intro name failure hfailed
      cases hfailed
  | failed name failure => exact .bind hT (hrecord w' name failure) fun _ _ _ => .pure none

/-- Failures that are recorded at most so deep come to an end. -/
theorem recordWithin_ends (hhost : host.Secluded)
    (hname : isLegalVariableName host.options.errorVariable = true) (n : Nat) (w : World κ μ)
    (name : Text) (failure : Failure) :
    Run.Ends (fun _ _ => True) w (host.recordWithin (pure ()) n name failure) := by
  induction n generalizing w name failure with
  | zero => exact .pure ()
  | succ n ih =>
    have hanswer : ∀ (l : Make.Level κ μ) w name args, Run.Ends (fun _ _ => True) w
        (host.responderRecording (host.recordWithin (pure ()) n) l name args) :=
      fun _ w name args => answerRecording_ends hhost hname ih _ _
    refine Make.perform_ends World.anything (Make.levelWithin_ends ?_ World.anything.toWrites
      (Nat.le_refl _)) (.trivial _)
    intro fuel w name f _ w' _ args
    exact Make.handOut_ends World.anything fun w'' _ => hanswer _ w'' name _

/-! ## Any nesting -/

/-- With more nesting the host answers what it answers with less. -/
theorem responder_anything (host : Host κ μ) :
    host.responder.Along (fun _ _ => True) host.responder :=
  fun _ _ hl _ _ _ => Make.perform_along World.anything hl (.trivial _)

section
variable (hname : isLegalVariableName host.options.errorVariable = true) {fuel : Nat}
  {record : Text → Failure → Run κ μ Unit}
include hname

/-- What make is told at some nesting it is told where failures are recorded as they are there. -/
theorem settle_along_recording (hrecord : ∀ w name failure, Run.Along (fun _ _ => True) w
      (Make.perform (host.level fuel) (recordError host.options name failure))
      (record name failure)) (outcome : Outcome) :
    Run.Along (fun _ _ => True) w (Make.perform (host.level fuel) (settle host.options outcome))
      (host.settleRecording record outcome) := by
  have hmore : (host.level fuel).Along (fun _ _ => True) (host.level (fuel + 2)) :=
    Make.levelWithin_along World.anything host.responder_anything (Nat.le_add_right fuel 2)
  cases outcome with
  | unknown | value =>
    refine .congr rfl ?_ (Make.perform_along World.anything hmore (.trivial _))
    exact congrFun (perform_settle_eq hname rfl _ _ 0 fuel) w
  | failed name failure =>
    rw [settle, Make.perform_bind]
    exact .bind World.anything.toSteps (hrecord w name failure) fun _ _ _ => .pure none

/-- The other way round this needs enough nesting to remove the error variable. -/
theorem settleRecording_along (hrecord : ∀ w name failure, Run.Along (fun _ _ => True) w
      (record name failure)
      (Make.perform (host.level (fuel + 2)) (recordError host.options name failure)))
    (outcome : Outcome) :
    Run.Along (fun _ _ => True) w (host.settleRecording record outcome)
      (Make.perform (host.level (fuel + 2)) (settle host.options outcome)) := by
  cases outcome with
  | unknown | value =>
    intro _ b w' h
    refine ⟨?_, True.intro⟩
    exact (congrFun (perform_settle_eq hname rfl _ _ fuel 0) w).trans h
  | failed name failure =>
    rw [settle, Make.perform_bind]
    exact .bind World.anything.toSteps (hrecord w name failure) fun _ _ _ => .pure none

variable (hhost : host.Secluded)
include hhost

/-- A call that is answered at some nesting is answered with failures recorded so deep within one
another. Calls at this nesting are answered one step further in, where one recording less may begin.
-/
theorem dispatch_along_recordWithin {n : Nat} (hn : fuel < n) (function : Bytes)
    (args : List Bytes) :
    Run.Along (fun _ _ => True) w (Make.perform (host.level fuel) (host.dispatch function args))
      (host.answerRecording (host.recordWithin Run.exhausted n) function args) := by
  induction fuel using Nat.strong_induction_on generalizing w n function args with
  | _ fuel ih =>
    obtain ⟨n, rfl⟩ : ∃ k, n = k + 1 := ⟨n - 1, by omega⟩
    let respond := host.responderRecording (host.recordWithin Run.exhausted n)
    have hlevel : (host.level fuel).Along (fun _ _ => True)
        (Make.levelWithin respond (Make.ample + fuel)) := by
      refine Make.levelWithin_along_offset World.anything.toWrites Make.ample ?_
      intro k hk w name args
      exact Make.handOut_along World.anything (ih k hk (by omega) _ _)
    have hstable : ∀ l l', respond l = respond l' := fun _ _ => rfl
    obtain ⟨hexpand, hevaluate⟩ :=
      Make.levelWithin_stable hstable (Nat.le_add_right Make.ample fuel)
    rw [dispatch, Make.perform_bind,
      Make.perform_of_secluded (hhost.outcome function args) _ Make.secluded]
    refine .bind World.anything.toSteps (fun _ _ _ h => ⟨h, True.intro⟩) fun outcome w' _ => ?_
    refine settle_along_recording hname (fun w name failure => ?_) outcome
    refine .congr rfl ?_ (Make.perform_along World.anything hlevel (.trivial _))
    rw [recordWithin, Make.perform_congr hexpand hevaluate]

/-- Where recording goes along with recording at some nesting, so do whole answers. -/
theorem answerRecording_along (hrecord : ∀ w name failure, Run.Along (fun _ _ => True) w
      (record name failure)
      (Make.perform (host.level (fuel + 2)) (recordError host.options name failure)))
    (function : Bytes) (args : List Bytes) :
    Run.Along (fun _ _ => True) w (host.answerRecording record function args)
      (Make.perform (host.level (fuel + 2)) (host.dispatch function args)) := by
  rw [dispatch, Make.perform_bind,
    Make.perform_of_secluded (hhost.outcome function args) _ Make.secluded]
  refine .bind World.anything.toSteps (fun _ _ _ h => ⟨h, True.intro⟩) fun outcome w' _ => ?_
  exact settleRecording_along hname hrecord outcome

/-- Failures recorded so deep within one another are recorded at so much nesting. -/
theorem recordWithin_along_recordError {n : Nat} (hfuel : n * Make.ample ≤ fuel) (w : World κ μ)
    (name : Text) (failure : Failure) : Run.Along (fun _ _ => True) w
      (host.recordWithin Run.exhausted n name failure)
      (Make.perform (host.level (fuel + 2)) (recordError host.options name failure)) := by
  induction n generalizing w fuel name failure with
  | zero => exact .exhausted
  | succ n ih =>
    obtain ⟨fuel, rfl⟩ : ∃ k, fuel = k + Make.ample := ⟨fuel - Make.ample, by
      rw [Nat.succ_mul] at hfuel
      omega⟩
    have hlevel : (Make.levelWithin (host.responderRecording (host.recordWithin Run.exhausted n))
        Make.ample).Along (fun _ _ => True) (host.level (fuel + 2 + Make.ample)) := by
      refine Make.levelWithin_along_offset World.anything.toWrites (fuel + 2) ?_
      intro k hk w name args
      have hless : n * Make.ample ≤ fuel + k := by
        rw [Nat.succ_mul] at hfuel
        omega
      have hrecord := ih hless
      have hanswer := answerRecording_along hname hhost hrecord (w := { w with
        make := w.make.countCall }) name.utf8 ((args.map Make.handedOver).map Text.utf8)
      rw [Nat.add_right_comm] at hanswer
      exact Make.handOut_along World.anything hanswer
    rw [Nat.add_right_comm] at hlevel
    exact Make.perform_along World.anything hlevel (.trivial _)

end

/-- **Nothing but failures recorded within one another keeps a call from coming to an end.** For a
host whose functions do not have make read a text, in every world: the results of a call are those
that it has with failures recorded at some finite depth within one another, which so many steps of
nesting for each are enough for, and where failures beyond a depth are not recorded there is a
result. So a call without end goes through every depth. -/
theorem dispatch_ends_iff (host : Host κ μ) (hhost : host.Secluded)
    (hname : isLegalVariableName host.options.errorVariable = true) (w : World κ μ)
    (function : Bytes) (args : List Bytes) :
    (∀ result, (∃ nesting,
        Make.perform (host.level nesting) (host.dispatch function args) w = some result) ↔
      ∃ n, host.answerRecording (host.recordWithin Run.exhausted n) function args w =
        some result) ∧
    (∀ n result, host.answerRecording (host.recordWithin Run.exhausted n) function args w =
        some result → ∀ nesting, n * Make.ample + 2 ≤ nesting →
      Make.perform (host.level nesting) (host.dispatch function args) w = some result) ∧
    ∀ n, ∃ result,
      host.answerRecording (host.recordWithin (pure ()) n) function args w = some result := by
  have hback : ∀ n result,
      host.answerRecording (host.recordWithin Run.exhausted n) function args w =
      some result → ∀ nesting, n * Make.ample + 2 ≤ nesting →
      Make.perform (host.level nesting) (host.dispatch function args) w = some result := by
    intro n result h nesting hnesting
    obtain ⟨fuel, rfl⟩ : ∃ k, nesting = k + 2 := ⟨nesting - 2, by omega⟩
    have hfuel : n * Make.ample ≤ fuel := by omega
    have hrecord := recordWithin_along_recordError hname hhost hfuel
    exact (answerRecording_along hname hhost hrecord function args True.intro h).1
  refine ⟨fun result => ⟨?_, ?_⟩, hback, fun n => ?_⟩
  · rintro ⟨nesting, h⟩
    exact ⟨nesting + 1, (dispatch_along_recordWithin hname hhost (Nat.lt_succ_self nesting)
      function args True.intro h).1⟩
  · rintro ⟨n, h⟩
    exact ⟨n * Make.ample + 2, hback n result h _ (Nat.le_refl _)⟩
  · obtain ⟨buffer, w', h, -⟩ := answerRecording_ends hhost hname (recordWithin_ends hhost hname n)
      function args True.intro
    exact ⟨(buffer, w'), h⟩

/-- A call of `f` that fails is recorded, and nothing else happens: both flags are undefined. -/
theorem dispatch_ends_iff_failing : ∃ result, ∀ nesting, 1 * Make.ample + 2 ≤ nesting →
    Make.perform (failing.level nesting) (failing.dispatch (Text.utf8 "f") [[]]) withFunction =
      some result := by
  have hsecluded : failing.Secluded := fun _ _ _ => .done _
  have hends : (failing.answerRecording (failing.recordWithin Run.exhausted 1) (Text.utf8 "f") [[]]
      withFunction).isSome = true := by decide +kernel
  obtain ⟨result, hresult⟩ := Option.isSome_iff_exists.1 hends
  obtain ⟨-, hnesting, -⟩ :=
    dispatch_ends_iff failing hsecluded (by decide) withFunction (Text.utf8 "f") [[]]
  exact ⟨result, hnesting 1 result hresult⟩

/-! ## A call without end -/

/-- A world whose traceback variable calls `f`. -/
structure Calling (w : World Unit Unit) : Prop where
  attached : w.link = .attached
  running : w.make.stopped = false
  exported : w.exports.get? "f" = some ⟨⟨"f", by decide⟩, (), .one, .expand⟩
  installed : w.make.functions.get? "f" = some ⟨1, 1, .expand⟩
  uninstalled : w.make.functions.get? ".GNUMAKE_PRINT_TRACEBACK" = none
  bound : w.make.bindings.get? ".GNUMAKE_PRINT_TRACEBACK" = some ⟨"$(f x)", .recursive, .file⟩

/-- A call of `f` has no result where answering it has none. -/
theorem Calling.handOut {w : World Unit Unit} (hw : Calling w)
    {respond : Make.Responder Unit Unit} {l : Make.Level Unit Unit} {args : List Text}
    (hnone : ∀ args w', Calling w' → respond l "f" args w' = none) :
    Make.handOut respond l "f" args w = none := by
  have hcounted : Calling { w with make := w.make.countCall } :=
    ⟨hw.attached, hw.running, hw.exported, hw.installed, hw.uninstalled, hw.bound⟩
  rw [Make.handOut, Run.bind_of_eq_some Run.get_apply, hw.attached]
  dsimp only
  rw [Run.bind_of_eq_some (Run.changeMake_apply _), Run.bind_apply, hnone _ _ hcounted]
  rfl

/-- Reading the traceback variable hands out a call of `f`. -/
theorem Calling.flagEnabled {w : World Unit Unit} (hw : Calling w)
    {respond : Make.Responder Unit Unit} (fuel : Nat)
    (hnone : ∀ l args w', Calling w' → respond l "f" args w' = none) :
    Make.perform (Make.levelWithin respond (fuel + 4))
      (Host.flagEnabled ".GNUMAKE_PRINT_TRACEBACK") w = none := by
  have hname : IsUsable ".GNUMAKE_PRINT_TRACEBACK" := isUsable_tracebackVariable
  have hself : Make.expandWithin respond (fuel + 2) 2 "x" w = some ("x".toList, w) :=
    Make.expandWithin_of_notMem (by decide) hw.running (by decide)
  have hargument : (Make.levelWithin respond (fuel + 2)).expand (1 + 1) "x" w =
      some ("x".toList, w) := hself
  have hcall : Make.expandWithin respond (fuel + 3) 1 "$(f x)" w = none := by
    have hreference : Make.pieces "$(f x)" = [.reference "f x"] := rfl
    have hhead : Make.headAndArguments "f x" = ("f".toList, some "x".toList) := rfl
    have hbuiltin : Make.Builtin.ofName? "f" = none := rfl
    have hsplit : Make.splitCall ⟨1, 1, .expand⟩ (some "x") = ["x".toList] := rfl
    show Make.expandText respond (Make.levelWithin respond (fuel + 2)) 1 "$(f x)" w = none
    rw [Make.expandText_call hreference hhead (.inr hbuiltin) hw.installed hw.running (by decide)]
    have hpassed : Make.passed (Make.levelWithin respond (fuel + 2)) 1 .expand ["x".toList] w =
        some (["x".toList], w) := by
      rw [Make.passed, List.mapM_cons, Run.bind_of_eq_some hargument]
      rfl
    rw [Make.expandCall_eq, hsplit, if_neg (by decide), Run.bind_of_eq_some hpassed,
      Run.bind_of_eq_some (Run.stopped_eq hw.running)]
    exact hw.handOut (hnone _)
  rw [Make.perform_flagEnabled hname.clean hw.attached, Run.bind_apply]
  show (Make.expandWithin respond (fuel + 4) 0 ("$(" ++ ".GNUMAKE_PRINT_TRACEBACK" ++ ")") w).bind
    _ = none
  rw [Make.expandWithin_reference hname.legal hw.running hw.uninstalled (by decide),
    Make.expandVariable_recursive hw.bound rfl]
  exact congrArg (Option.bind · _) hcall

/-- Failures are recorded at no finite depth where the traceback variable calls `f`. -/
theorem recordWithin_of_calling (n : Nat) {w : World Unit Unit} (hw : Calling w) (name : Text)
    (failure : Failure) : failing.recordWithin Run.exhausted n name failure w = none := by
  induction n generalizing w name failure with
  | zero => rfl
  | succ n ih =>
    rw [recordWithin, recordError, Make.perform_bind, Run.bind_apply]
    have hnone : ∀ (l : Make.Level Unit Unit) args w', Calling w' →
        failing.responderRecording (failing.recordWithin Run.exhausted n) l "f" args w' = none := by
      intro l args w' hw'
      have houtcome : Make.perform Make.secluded (failing.outcome (Text.utf8 "f")
          (args.map Text.utf8)) w' = some (.failed "f" (.of "KeyError" "$(x)\nendef\\"), w') := by
        rw [perform_outcome, hw'.exported]
        rfl
      show failing.answerRecording _ (Text.utf8 "f") _ w' = none
      rw [answerRecording, Run.bind_of_eq_some houtcome, settleRecording, Run.bind_apply, ih hw']
      rfl
    exact congrArg (Option.bind · _) (hw.flagEnabled 199 hnone)

/-- A world with one function, whose traceback variable calls it. -/
def callingItself : World Unit Unit :=
  { withFunction with
    make := withFunction.make.setVariable ".GNUMAKE_PRINT_TRACEBACK" ⟨"$(f x)", .recursive, .file⟩ }

/-- **A call without end.** The function `f` fails and has make read no text. Where the traceback
variable calls `f`, recording its failure reads that variable, whose call fails and is recorded in
turn: the call has a result at no nesting. -/
theorem dispatch_never_ends : failing.Secluded ∧ callingItself.Reachable ∧ ∀ nesting,
    Make.perform (failing.level nesting) (failing.dispatch (Text.utf8 "f") [Text.utf8 "x"])
      callingItself = none := by
  have hsecluded : failing.Secluded := fun _ _ _ => .done _
  have hreachable : callingItself.Reachable :=
    .change withFunction_reachable (.assign nofun nofun rfl)
  have hcalling : Calling callingItself := ⟨rfl, rfl, rfl, rfl, rfl, rfl⟩
  have hfailed : Make.perform Make.secluded (failing.outcome (Text.utf8 "f") [Text.utf8 "x"])
      callingItself = some (.failed "f" (.of "KeyError" "$(x)\nendef\\"), callingItself) := rfl
  refine ⟨hsecluded, hreachable, fun nesting => ?_⟩
  have hnone : failing.answerRecording (failing.recordWithin Run.exhausted (nesting + 1))
      (Text.utf8 "f") [Text.utf8 "x"] callingItself = none := by
    rw [answerRecording, Run.bind_of_eq_some hfailed, settleRecording, Run.bind_apply,
      recordWithin_of_calling _ hcalling]
    rfl
  rw [Option.eq_none_iff_forall_ne_some]
  intro result hresult
  have halong := dispatch_along_recordWithin isUsable_errorVariable.legal hsecluded
    (Nat.lt_succ_self nesting) (Text.utf8 "f") [Text.utf8 "x"] True.intro hresult
  cases hnone.symm.trans halong.1

end Host

end MakeHost
