import MakeHost.Proofs.ErrorVariable
import MakeHost.Proofs.Registry

/-!
# What make gets of a result

The value of an exported function is encoded as bytes, and make reads a buffer up to its first zero
byte. `Host.perform_settle_value` is what becomes of a value once its function has returned: there
is a buffer if and only if there are bytes, make reads them up to the first zero byte, and the call
counts as a success whatever was cut off. So a value arrives in full exactly when its bytes hold no
zero (`Value.Whole`).
-/

namespace MakeHost

variable {κ μ : Type}

/-- Bytes are read in full when none of them is zero. -/
theorem Bytes.upToNul_eq_self_iff {s : Bytes} : s.upToNul = s ↔ 0 ∉ s := by
  rw [upToNul, List.takeWhile_eq_self_iff]
  constructor
  · intro h hzero
    exact absurd (h 0 hzero) (by decide)
  · intro h b hb
    have hne : b ≠ 0 := fun hzero => h (hzero ▸ hb)
    simpa using hne

/-- No byte of the value's encoding ends a buffer early. -/
def Value.Whole (v : Value) : Prop := ∀ bytes ∈ v.encode?, 0 ∉ bytes

/-- A value arrives in full if and only if make reads all of its bytes. -/
theorem Value.whole_iff {v : Value} : v.Whole ↔ v.encode?.map Bytes.upToNul = v.encode? := by
  rw [Whole]
  cases v.encode? with
  | none => simp
  | some bytes => simp [Bytes.upToNul_eq_self_iff]

namespace Host

variable {host : Host κ μ} {options : HostOptions} {fuel : Nat} {w w' : World κ μ} {name : Text}

/-! ## Handing a value over -/

/-- What handing a value over comes to: no buffer, or a new one with what make reads of it. -/
def delivered (v : Value) (w : World κ μ) : Option Buffer × World κ μ :=
  match v.encode? with
  | none => (none, w)
  | some bytes =>
    (some ⟨w.make.nextBuffer, bytes.upToNul⟩, { w with make := w.make.allocate.2 })

/-- Handing a value over comes to `delivered`, whatever the level. -/
theorem perform_deliver_eq (l : Make.Level κ μ) (v : Value) :
    Make.perform l (deliver v) w = some ((delivered v w).1, (delivered v w).2) := by
  rw [deliver, delivered]
  cases v.encode? <;> rfl

/-- There is a buffer if and only if there are bytes, and it holds them up to the first zero. -/
theorem content_delivered (v : Value) (w : World κ μ) :
    (delivered v w).1.map (·.content) = v.encode?.map Bytes.upToNul := by
  rw [delivered]
  cases v.encode? <;> rfl

/-- The buffer is in use. -/
theorem live_delivered {v : Value} {buffer : Buffer} (h : buffer ∈ (delivered v w).1) :
    buffer.id ∈ (delivered v w).2.make.live := by
  rw [delivered] at h ⊢
  cases hbytes : v.encode? with
  | none =>
    rw [hbytes] at h
    cases h
  | some bytes =>
    rw [hbytes] at h
    cases h
    exact .head _

/-- Handing a value over concerns the buffers alone. -/
theorem delivered_frame (v : Value) (w : World κ μ) :
    (delivered v w).2.make.bindings = w.make.bindings ∧
      (delivered v w).2.make.stopped = w.make.stopped ∧
      (w.Sound → (delivered v w).2.Sound) := by
  rw [delivered]
  cases v.encode? with
  | none => exact ⟨rfl, rfl, id⟩
  | some bytes => exact ⟨rfl, rfl, fun hw => ⟨hw.attached, hw.named, hw.checked⟩⟩

/-! ## A call that returned a value -/

/-- Once make was stopped the error variable is left as it is. -/
theorem perform_clearError_of_stopped {l : Make.Level κ μ} (hclean : '\x00' ∉ options.errorVariable)
    (hw : w.link = .attached) (hstopped : w.make.stopped = true) :
    Make.perform l (clearError options) w = some ((), w) := by
  have htext : '\x00' ∉ "undefine " ++ options.errorVariable := by simpa using hclean
  rw [clearError, Make.perform_bind, Run.bind_apply, Make.perform_evaluate_run htext hw,
    Run.bind_of_eq_some (Make.run_of_stopped hstopped _)]
  rfl

/-- After a value was handed over, the error variable is removed as far as make lets it. -/
theorem perform_settle_value (host : Host κ μ) (fuel : Nat)
    (hname : IsUsable options.errorVariable) (hw : w.Sound) (v : Value) :
    ∃ w', Make.perform (host.level (fuel + 3)) (settle options (.value v)) w =
        some ((delivered v w).1, w') ∧
      w'.make.live = (delivered v w).2.make.live ∧
      w'.make.bindings.get? options.errorVariable = if w.make.stopped
        then w.make.bindings.get? options.errorVariable
        else (w.make.bindings.get? options.errorVariable).filter (·.origin = .commandLine) := by
  obtain ⟨hbindings, hstopped, hsound⟩ := delivered_frame v w
  have hdelivered := hsound hw
  rw [settle, Make.perform_bind, Run.bind_of_eq_some (perform_deliver_eq _ v), Make.perform_bind]
  cases hrunning : w.make.stopped with
  | true =>
    rw [Run.bind_of_eq_some (perform_clearError_of_stopped hname.clean hdelivered.attached
      (hstopped.trans hrunning))]
    exact ⟨_, rfl, rfl, by rw [hbindings]; rfl⟩
  | false =>
    rw [Run.bind_of_eq_some (perform_clearError hname hdelivered (hstopped.trans hrunning))]
    refine ⟨_, rfl, ?_, ?_⟩
    · exact Make.State.live_undefine
    · rw [Make.State.get?_undefine_self, hbindings]
      rfl

/-- Removing the error variable does not change what was handed over. -/
theorem answer_of_settle {l : Make.Level κ μ} {v : Value} {answer : Option Buffer}
    (h : Make.perform l (settle options (.value v)) w = some (answer, w')) :
    answer = (delivered v w).1 := by
  rw [settle, Make.perform_bind, Run.bind_of_eq_some (perform_deliver_eq l v),
    Make.perform_bind] at h
  obtain ⟨_, w₁, -, hanswer⟩ := Run.bind_eq_some.1 h
  cases hanswer
  rfl

/-- The host runs the function that is exported under the name with the decoded arguments, and tells
make of its value. -/
theorem perform_dispatch_value {l : Make.Level κ μ} {entry : Exported κ} {args : List Bytes}
    {texts : Arguments} {v : Value} (hentry : w.exports.get? name = some entry)
    (hargs : decodeArguments args = .ok texts)
    (hbody : Make.perform l (host.body entry.code entry.name.text texts).run w =
      some (.ok v, w')) :
    Make.perform l (host.dispatch name.utf8 args) w =
      Make.perform l (settle host.options (.value v)) w' := by
  have houtcome : Make.perform l (host.outcome name.utf8 args) w = some (.value v, w') := by
    rw [outcome, Make.perform_bind, Run.bind_of_eq_some (perform_lookup l name), hentry]
    dsimp only
    rw [invoke, hargs, Make.perform_bind, Run.bind_of_eq_some hbody]
    rfl
  rw [dispatch, Make.perform_bind, Run.bind_of_eq_some houtcome]

/-- **A value arrives up to its first zero byte, and the call counts as a success all the same.**
Whenever a function that is exported has returned a value, every result of the call is a buffer if
and only if the value has bytes, and make reads these bytes from it up to the first zero: all of
them exactly when none is zero. With a usable name for the error variable there is such a result,
and no variable says afterwards that the call failed unless it cannot be removed. So the value
arrives in full or the failure is recorded exactly when no byte of the value is zero. -/
theorem dispatch_delivers_iff (host : Host κ μ) (hw : w.Reachable) {entry : Exported κ}
    (hentry : w.exports.get? name = some entry) {args : List Bytes} {texts : Arguments}
    (hargs : decodeArguments args = .ok texts) {v : Value}
    (hbody : Make.perform (host.level fuel) (host.body entry.code entry.name.text texts).run w =
      some (.ok v, w')) :
    (∀ more answer w₁,
      Make.perform (host.level more) (host.dispatch name.utf8 args) w = some (answer, w₁) →
        (answer.isSome ↔ v.encode?.isSome) ∧
        answer.map (·.content) = v.encode?.map Bytes.upToNul ∧
        (answer.map (·.content) = v.encode? ↔ v.Whole)) ∧
    (IsUsable host.options.errorVariable → ∃ answer w₁,
      Make.perform (host.level (fuel + 3)) (host.dispatch name.utf8 args) w = some (answer, w₁) ∧
        (∀ buffer ∈ answer, buffer.id ∈ w₁.make.live) ∧
        (w'.make.stopped = false →
          (w'.make.bindings.get? host.options.errorVariable).map (·.origin) ≠ some .commandLine →
          w₁.make.bindings.get? host.options.errorVariable = none ∧
          (answer.map (·.content) = v.encode? ∨
            w₁.make.bindings.contains host.options.errorVariable = true ↔ v.Whole))) := by
  have hcontent := content_delivered v w'
  have hwhole : (delivered v w').1.map (·.content) = v.encode? ↔ v.Whole := by
    rw [hcontent, Value.whole_iff]
  refine ⟨fun more answer w₁ hanswer => ?_, fun hname => ?_⟩
  · obtain ⟨hbody, -⟩ := perform_along (Nat.le_max_left fuel more) hbody
    obtain ⟨hanswer, -⟩ := perform_along (Nat.le_max_right fuel more) hanswer
    rw [perform_dispatch_value hentry hargs hbody] at hanswer
    obtain rfl := answer_of_settle hanswer
    refine ⟨?_, hcontent, hwhole⟩
    rw [← Option.isSome_map (f := Buffer.content), hcontent, Option.isSome_map]
  · obtain ⟨hbody, hevolves⟩ := perform_along (Nat.le_add_right fuel 3) hbody
    obtain ⟨w₁, hsettle, hlive, hget⟩ :=
      perform_settle_value host fuel hname (hw.evolve hevolves).sound v
    refine ⟨(delivered v w').1, w₁, (perform_dispatch_value hentry hargs hbody).trans hsettle,
      fun b hb => ?_, fun hrunning horigin => ?_⟩
    · rw [hlive]
      exact live_delivered hb
    · have hnone : w₁.make.bindings.get? host.options.errorVariable = none := by
        rw [hget, hrunning, if_neg (by decide), Option.filter_eq_none_iff]
        intro u hu hcommandLine
        rw [hu] at horigin
        exact horigin (congrArg some (of_decide_eq_true hcommandLine))
      refine ⟨hnone, ?_⟩
      rw [Table.contains, hnone, hwhole]
      simp

/-- A host whose functions return one value. -/
def answering (v : Value) : Host Unit Unit := ⟨.default, fun _ _ _ => pure v⟩

/-- A text of two bytes arrives. -/
theorem dispatch_delivers_iff_text : ∃ buffer w',
    Make.perform ((answering (.text "é")).level 3)
      ((answering (.text "é")).dispatch (Text.utf8 "f") [[]]) withFunction =
        some (some buffer, w') ∧
    buffer.content = [0xC3, 0xA9] := by
  have hentry : withFunction.exports.get? "f" = some ⟨⟨"f", by decide⟩, (), .one, .expand⟩ := rfl
  have hargs : decodeArguments [[]] = .ok [[]] := rfl
  have hbody : Make.perform ((answering (.text "é")).level 0)
      ((answering (.text "é")).body () "f" [[]]).run withFunction =
        some (.ok (.text "é"), withFunction) := rfl
  obtain ⟨hreads, hresult⟩ := dispatch_delivers_iff (answering (.text "é")) withFunction_reachable
    hentry hargs hbody
  obtain ⟨answer, w', hresult, -⟩ := hresult isUsable_errorVariable
  obtain ⟨buffer, rfl, hbuffer⟩ := Option.map_eq_some_iff.1 (hreads _ _ _ hresult).2.1
  exact ⟨buffer, w', hresult, hbuffer⟩

/-- A session with one function in which a call has failed. -/
def withFailure : World Unit Unit :=
  recorded .default (.of "KeyError" "k") [] withFunction

/-- Three bytes, the second one zero: make reads the first one alone, and the call counts as a
success, which removes what was recorded of the failure before it. -/
theorem dispatch_cuts_off : ∃ buffer w',
    (answering (.bytes [0x61, 0, 0x62])).body () "f" [] = pure (.bytes [0x61, 0, 0x62]) ∧
    Make.perform ((answering (.bytes [0x61, 0, 0x62])).level 3)
      ((answering (.bytes [0x61, 0, 0x62])).dispatch (Text.utf8 "f") [[]]) withFailure =
        some (some buffer, w') ∧
    buffer.content = [0x61] ∧
    withFailure.make.bindings.contains ".GNUMAKE_LAST_ERROR" = true ∧
    w'.make.stopped = false ∧ w'.make.bindings.contains ".GNUMAKE_LAST_ERROR" = false := by
  have hrun : (Make.perform ((answering (.bytes [0x61, 0, 0x62])).level 3)
      ((answering (.bytes [0x61, 0, 0x62])).dispatch (Text.utf8 "f") [[]]) withFailure).map
        (fun result => (result.1.map (·.content), result.2.make.stopped,
          result.2.make.bindings.contains ".GNUMAKE_LAST_ERROR")) =
      some (some [0x61], false, false) := by
    decide +kernel
  obtain ⟨⟨answer, w'⟩, hrun, hresult⟩ := Option.map_eq_some_iff.1 hrun
  obtain ⟨hcontent, hrest⟩ := Prod.mk.inj hresult
  obtain ⟨hstopped, hgone⟩ := Prod.mk.inj hrest
  obtain ⟨buffer, rfl, hbuffer⟩ := Option.map_eq_some_iff.1 hcontent
  exact ⟨buffer, w', rfl, hrun, hbuffer, by decide +kernel, hstopped, hgone⟩

end Host

end MakeHost
