import MakeHost.Proofs.FatalErrors
import MakeHost.Proofs.Interchange
import MakeHost.Proofs.VariableRequests

/-!
# Names that variables and functions share

A name in brackets is a call when a function is installed under it and stands for a variable
otherwise. The host reads a variable through such a reference, so what is stored is read back if and
only if no function has the name (`Host.get_variable_iff`): the function would be called without
arguments. A call has an effect that reading has not, since make stops or the call is counted
(`Host.stopped_or_counted`), and a function that takes an argument at least stops make.
-/

namespace MakeHost

variable {κ μ : Type} {w w' : World κ μ} {fuel depth : Nat} {name default text a : Text}

namespace Make

/-- A text expands to nothing in a stopped make. -/
theorem expandWithin_of_stopped {respond : Responder κ μ} (hw : w.make.stopped = true)
    (hdepth : depth ≤ maxDepth) : expandWithin respond (fuel + 1) depth text w = some ([], w) := by
  show expandText respond (levelWithin respond fuel) depth text w = _
  rw [expandText, if_neg (Nat.not_lt.2 hdepth)]
  cases hpieces : pieces text with
  | nil => rfl
  | cons piece rest =>
    rw [Run.bind_of_eq_some (expandPieces_of_stopped hw (List.cons_ne_nil piece rest))]
    rfl

/-- Noting a call and skipping a buffer moves the next identity and nothing else of make. -/
theorem make_skipBuffer_note (w : World κ μ) (call : InterfaceCall) :
    (skipBuffer (w.note call)).make = { w.make with nextBuffer := w.make.nextBuffer + 1 } := by
  rw [skipBuffer, World.make_note]

/-- A defined variable is one that is there. -/
theorem State.exists_of_originOf {s : State} (h : s.originOf name ≠ .undefined) :
    ∃ v, s.bindings.get? name = some v ∧ s.rawValue name = v.value := by
  cases hv : s.bindings.get? name with
  | none => exact absurd (by rw [originOf, hv]; rfl) h
  | some v => exact ⟨v, rfl, by rw [rawValue, hv]; rfl⟩

/-- The reference to a variable whose value has no dollar sign expands to that value. -/
theorem expandWithin_reference_plain {respond : Responder κ μ} {v : Variable}
    (hname : isLegalVariableName name = true) (hrunning : w.make.stopped = false)
    (hfunction : w.make.functions.get? name = none) (hv : w.make.bindings.get? name = some v)
    (hdollar : '$' ∉ v.value) (hdepth : depth < maxDepth) :
    expandWithin respond (fuel + 2) depth ("$(" ++ name ++ ")") w = some (v.value, w) := by
  rw [expandWithin_reference hname hrunning hfunction hdepth]
  by_cases hflavor : v.flavor = .recursive
  · rw [expandVariable_recursive hv hflavor]
    exact expandWithin_of_notMem hdollar hrunning hdepth
  · rw [expandVariable, Run.bind_of_eq_some (Run.make_apply (w := w)), hv]
    dsimp only
    rw [if_neg hflavor]
    rfl

end Make

namespace Host

variable {host : Host κ μ} {f : Make.Function} {args : Option Text}

/-! ## Calls -/

/-- A call that make expands stops make or is counted. -/
theorem stopped_or_counted
    (h : Make.expandCall host.responder (host.level fuel) depth name f args w = some (a, w')) :
    w'.make.stopped = true ∨ w.make.calls < w'.make.calls := by
  obtain ⟨-, hresult⟩ | ⟨-, texts, w₁, hpassed, hrest⟩ := Make.expandCall_eq_some_iff.1 h
  · cases hresult
    exact .inl Make.State.stopped_fail
  have hcalls : w.make.calls ≤ w₁.make.calls :=
    (passed_along (Nat.le_refl fuel) hpassed).2.calls_le
  obtain ⟨hstopped, hresult⟩ | ⟨-, hhanded⟩ := hrest
  · cases hresult
    exact .inl hstopped
  obtain ⟨message, rfl⟩ | hlt := Make.handOut_cases
    (fun w args => host.responder_along (host.level_along (Nat.le_refl fuel)) w name args) hhanded
  · exact .inl Make.State.stopped_fail
  · exact .inr (Nat.lt_of_le_of_lt hcalls hlt)

section
variable (hname : isLegalVariableName name = true)
include hname

/-- Where a function has the name, the reference to the name is a call. -/
theorem stopped_or_counted_reference (hrunning : w.make.stopped = false)
    (hfunction : w.make.functions.get? name = some f)
    (h : (host.level fuel).expand 0 ("$(" ++ name ++ ")") w = some (a, w')) :
    w'.make.stopped = true ∨ w.make.calls < w'.make.calls := by
  cases fuel with
  | zero => cases h
  | succ fuel =>
    have hcall : Make.expandText host.responder (host.level fuel) 0 ("$(" ++ name ++ ")") w =
        Make.expandCall host.responder (host.level fuel) 0 name f none w :=
      Make.expandText_call (Make.pieces_reference hname) (Make.headAndArguments_of_isLegal hname)
        (.inl rfl) hfunction hrunning (Nat.zero_le _)
    exact stopped_or_counted (hcall.symm.trans h)

/-! ## Reading -/

variable (hclean : '\x00' ∉ name)
include hclean

/-- Without a default make is asked for nothing but the reference. -/
theorem exists_expand_of_get {l : Make.Level κ μ} {answer : Except HostError Text}
    (h : Make.perform l (get name [] true).run w = some (answer, w')) :
    ∃ a w₁, l.expand 0 ("$(" ++ name ++ ")") (w.note (.expand ("$(" ++ name ++ ")"))) =
      some (a, w₁) ∧ w' = Make.skipBuffer w₁ := by
  rw [get, checkName, if_pos hname, pure_bind, if_pos rfl, expand, bind_assoc, ExceptT.run_bind,
    Make.perform_bind] at h
  obtain ⟨bytes, w₁, hbytes, hrest⟩ := Run.bind_eq_some.1 h
  rw [Make.perform_expandBytes_note (Make.notMem_reference hclean)] at hbytes
  obtain ⟨a, w₂, hexpand, hresult⟩ := Run.bind_eq_some.1 hbytes
  cases hresult
  refine ⟨a, w₂, hexpand, ?_⟩
  dsimp only at hrest
  cases hdecode : Utf8.decode a.utf8.upToNul with
  | error fault =>
    rw [hdecode] at hrest
    cases hrest
    rfl
  | ok value =>
    rw [hdecode] at hrest
    simp only [pure_bind, List.isEmpty_nil, Bool.not_true, Bool.and_false] at hrest
    cases hrest
    rfl

/-- What make says of a variable once it is stopped is no origin. -/
theorem perform_defined_of_stopped (host : Host κ μ) (fuel : Nat) (hw : w.make.stopped = true) :
    Make.perform (host.level (fuel + 1)) (defined name).run w = some (.error (.unexpectedOrigin []),
      Make.skipBuffer (w.note (.expand ("$(origin " ++ name ++ ")")))) := by
  have htext : '\x00' ∉ "$(origin " ++ name ++ ")" := by simpa using hclean
  have hexpand : (host.level (fuel + 1)).expand 0 ("$(origin " ++ name ++ ")")
      (w.note (.expand ("$(origin " ++ name ++ ")"))) =
        some ([], w.note (.expand ("$(origin " ++ name ++ ")"))) :=
    Make.expandWithin_of_stopped (by rwa [World.make_note]) (Nat.zero_le _)
  have hread := Make.perform_expand_text htext List.not_mem_nil hexpand
  rw [defined, origin, checkName, if_pos hname, pure_bind, ExceptT.run_bind, ExceptT.run_bind,
    Make.perform_bind, Make.perform_bind, bind_assoc]
  exact Run.bind_of_eq_some hread

variable (hrunning : w.make.stopped = false)
include hrunning

/-- A variable is read whose name is no function's and whose value has no dollar sign. An empty
value is not replaced by the default, since the variable has an origin. -/
theorem perform_get_plain (hdefined : w.make.originOf name ≠ .undefined)
    (hdollar : '$' ∉ w.make.rawValue name) (hvalue : '\x00' ∉ w.make.rawValue name)
    (hfunction : w.make.functions.get? name = none) (default : Text) :
    ∃ w', Make.perform (host.level (fuel + 2)) (get name default true).run w =
        some (.ok (w.make.rawValue name), w') ∧
      w'.make.calls = w.make.calls ∧ w'.make.stopped = false := by
  obtain ⟨v, hv, hraw⟩ := Make.State.exists_of_originOf hdefined
  have hread : Make.perform (host.level (fuel + 2)) (expand ("$(" ++ name ++ ")")).run w =
      some (.ok (w.make.rawValue name),
        Make.skipBuffer (w.note (.expand ("$(" ++ name ++ ")")))) := by
    refine Make.perform_expand_text (Make.notMem_reference hclean) hvalue ?_
    rw [hraw] at hdollar ⊢
    have hmake := World.make_note (w := w) (.expand ("$(" ++ name ++ ")"))
    exact Make.expandWithin_reference_plain hname (hmake ▸ hrunning) (hmake ▸ hfunction)
      (hmake ▸ hv) hdollar (Nat.zero_lt_succ _)
  have hmake := Make.make_skipBuffer_note w (.expand ("$(" ++ name ++ ")"))
  have hgoes : (Make.skipBuffer (w.note (.expand ("$(" ++ name ++ ")")))).make.stopped = false := by
    rw [hmake]
    exact hrunning
  rw [perform_get_of_read true hname hread]
  split
  · have hask := perform_defined_note hname hclean hgoes host fuel
    have hthere : ((Make.skipBuffer (w.note (.expand ("$(" ++ name ++ ")")))).make.originOf name !=
        .undefined) = true := by
      rw [hmake]
      exact bne_iff_ne.2 hdefined
    rw [hthere] at hask
    refine ⟨_, Run.bind_of_eq_some hask, ?_, ?_⟩
    · rw [Make.make_skipBuffer_note, hmake]
    · rw [Make.make_skipBuffer_note]
      exact hgoes
  · exact ⟨_, rfl, by rw [hmake], hgoes⟩

/-- A function that takes an argument at least is called without one when its name is read. -/
theorem perform_get_function (host : Host κ μ) (fuel : Nat)
    (hfunction : w.make.functions.get? name = some f) (hmin : 1 ≤ f.min) (default : Text) :
    ∃ w', Make.perform (host.level (fuel + 2)) (get name default true).run w =
        some (if default.isEmpty then .ok [] else .error (.unexpectedOrigin []), w') ∧
      w'.make.calls = w.make.calls ∧ w'.make.fatal = some (Make.noArguments name) := by
  generalize hnoted : w.note (.expand ("$(" ++ name ++ ")")) = w₁
  have hmake : w₁.make = w.make := by rw [← hnoted, World.make_note]
  have hexpand : (host.level (fuel + 2)).expand 0 ("$(" ++ name ++ ")") w₁ =
      some ([], { w₁ with make := w₁.make.fail (Make.noArguments name) }) :=
    Make.expandWithin_reference_function hname (hmake ▸ hrunning) (hmake ▸ hfunction) hmin
      (Nat.zero_le _)
  have hread := Make.perform_expand_text (Make.notMem_reference hclean) List.not_mem_nil
    ((congrArg _ hnoted).trans hexpand)
  generalize hfailed : Make.skipBuffer
    { w₁ with make := w₁.make.fail (Make.noArguments name) } = w₂ at hread
  have hcalls : w₂.make.calls = w.make.calls := by
    rw [← hfailed, ← hmake]
    exact Make.State.calls_fail
  have hfatal : w₂.make.fatal = some (Make.noArguments name) := by
    rw [← hfailed]
    exact fatal_fail (hmake ▸ hrunning) _
  rw [perform_get_of_read true hname hread]
  cases hdefault : default.isEmpty with
  | true => exact ⟨_, rfl, hcalls, hfatal⟩
  | false =>
    have hstopped : w₂.make.stopped = true := by
      rw [Make.State.stopped, hfatal]
      rfl
    have hask := perform_defined_of_stopped hname hclean host (fuel + 1) hstopped
    refine ⟨_, Run.bind_of_eq_some hask, ?_, ?_⟩
    · rw [Make.make_skipBuffer_note]
      exact hcalls
    · rw [Make.make_skipBuffer_note]
      exact hfatal

end

/-- **What a variable holds is read back if and only if no function has its name.** With a value
that has no dollar sign, reading it gives the value whatever the default is, hands out no call and
does not stop make if make has no function of that name. If it has one, reading the variable calls
the function; one that takes an argument at least, as every exported one does, stops make, and what
is read is nothing, or, with a default, an error. -/
theorem get_variable_iff (host : Host κ μ) (fuel : Nat) (hname : isLegalVariableName name = true)
    (hclean : '\x00' ∉ name) (hrunning : w.make.stopped = false)
    (hdefined : w.make.originOf name ≠ .undefined) (hdollar : '$' ∉ w.make.rawValue name)
    (hvalue : '\x00' ∉ w.make.rawValue name) :
    ((∀ default, ∃ w', Make.perform (host.level (fuel + 2)) (get name default true).run w =
        some (.ok (w.make.rawValue name), w') ∧
      w'.make.calls = w.make.calls ∧ w'.make.stopped = false) ↔
        w.make.functions.get? name = none) ∧
    ∀ f ∈ w.make.functions.get? name, 1 ≤ f.min → ∀ default, ∃ w',
      Make.perform (host.level (fuel + 2)) (get name default true).run w =
        some (if default.isEmpty then .ok [] else .error (.unexpectedOrigin []), w') ∧
      w'.make.calls = w.make.calls ∧ w'.make.fatal = some (Make.noArguments name) := by
  refine ⟨⟨fun h => ?_, ?_⟩, fun f hf hmin =>
    perform_get_function hname hclean hrunning host fuel hf hmin⟩
  · cases hf : w.make.functions.get? name with
    | none => rfl
    | some f =>
      obtain ⟨w', hread, hcalls, hgoes⟩ := h []
      obtain ⟨a, w₁, hexpand, rfl⟩ := exists_expand_of_get hname hclean hread
      have hmake := World.make_note (w := w) (.expand ("$(" ++ name ++ ")"))
      have heffect := stopped_or_counted_reference hname (hmake ▸ hrunning) (hmake ▸ hf) hexpand
      rw [hmake] at heffect
      obtain hstopped | hlt := heffect
      · exact absurd (hstopped.symm.trans hgoes) (by decide)
      · exact absurd hcalls (Nat.ne_of_gt hlt)
  · exact perform_get_plain hname hclean hrunning hdefined hdollar hvalue

/-- A world with the function `f` and a variable. -/
def withVariableBeside (name : Text) : World Unit Unit :=
  { withFunction with make := withFunction.make.setVariable name ⟨"v", .recursive, .file⟩ }

/-- The world with the variable and the function can be reached. -/
theorem withVariableBeside_reachable (hne : name ≠ []) : (withVariableBeside name).Reachable :=
  .change withFunction_reachable (.assign hne nofun rfl)

/-- A variable beside a function of another name. -/
theorem get_variable_beside : ∃ w',
    Make.perform (quiet.level 2) (get "x" "d" true).run (withVariableBeside "x") =
      some (.ok "v".toList, w') ∧ w'.make.calls = 0 ∧ w'.make.stopped = false := by
  have hname : isLegalVariableName "x" = true := by decide
  obtain ⟨hread, -⟩ := get_variable_iff (w := withVariableBeside "x") quiet 0 hname (by decide) rfl
    (by decide) (by decide) (by decide)
  exact hread.2 rfl "d"

/-- A variable of a function's name is there and cannot be read: make stops. -/
theorem get_variable_of_function :
    (withVariableBeside "f").Reachable ∧ (withVariableBeside "f").make.stopped = false ∧
    isLegalVariableName "f" = true ∧ (withVariableBeside "f").make.originOf "f" = .file ∧
    (withVariableBeside "f").make.rawValue "f" = "v".toList ∧
    ∃ w', Make.perform (quiet.level 2) (get "f" "d" true).run (withVariableBeside "f") =
        some (.error (.unexpectedOrigin []), w') ∧
      w'.make.fatal = some "insufficient number of arguments (0) to function 'f'".toList := by
  have hname : isLegalVariableName "f" = true := by decide
  obtain ⟨w', hread, -, hfatal⟩ := perform_get_function (w := withVariableBeside "f") hname
    (by decide) rfl quiet 0 rfl (Nat.le_refl 1) "d"
  exact ⟨withVariableBeside_reachable nofun, rfl, hname, by decide, by decide, w', hread, hfatal⟩

end Host

end MakeHost
