import MakeHost.Proofs.CallSyntax
import MakeHost.Proofs.Decoding
import MakeHost.Proofs.Delivery
import MakeHost.Proofs.VariableStore

/-!
# Values that are returned and values that are assigned

A value becomes make text in two ways. A function that returns it hands its bytes over in a buffer,
which make reads up to the first zero and decodes; assigning it decodes it first, breaks the text up
and has make expand what is left. `Host.returned_as_assigned` is that both come to the value's text
where no byte is zero and nothing in the text is a reference.
-/

namespace MakeHost

open DefineBlock

variable {κ μ : Type}

namespace Value

variable {v : Value}

/-- The text of a value is what lossy decoding makes of its bytes. -/
theorem toText_eq (v : Value) : v.toText = (v.encode?.map Utf8.decodeLossy).getD [] := by
  cases v with
  | none => rfl
  | flag b => cases b <;> rfl
  | bytes bytes => rfl
  | text s => exact (Utf8.decodeLossy_utf8 s).symm

/-- A value without zero bytes has a text without NULs. -/
theorem Whole.nul_notMem (h : v.Whole) : '\x00' ∉ v.toText := by
  rw [toText_eq]
  rw [Whole] at h
  cases hbytes : v.encode? with
  | none => exact List.not_mem_nil
  | some bytes => exact fun hnul => h bytes hbytes (Utf8.zero_mem_of_nul_mem hnul)

/-- An argument is not decoded if and only if it is not valid UTF-8. -/
theorem decodeArgument_error_iff {bytes : Bytes} :
    (∃ failure, decodeArgument bytes = .error failure) ↔ ¬ bytes.toByteArray.IsValidUTF8 := by
  rw [← Utf8.decode_error_iff, decodeArgument]
  cases Utf8.decode bytes <;> simp [Except.mapError]

/-- The bytes of a text are decoded to the text, as much of them as a C string holds. -/
theorem decodeArgument_encode {t : Text} (ht : '\x00' ∉ t) {bytes : Bytes}
    (hbytes : bytes ∈ (text t).encode?) : decodeArgument bytes.upToNul = .ok t := by
  cases hbytes
  rw [Text.upToNul_utf8 ht, decodeArgument, Utf8.decode_utf8]
  rfl

end Value

/-- One argument is passed as it is by a function that takes one. -/
theorem Make.joined_singleton (a : Arity) (arg : Text) :
    Make.joined a.rawMax [arg] = [arg] := by
  have hordered := a.ordered
  have hpos := a.one_le_min
  rw [Make.joined, if_pos]
  rw [List.length_singleton]
  omega

namespace Host

variable {host : Host κ μ} {fuel : Nat} {w w' : World κ μ} {entry : Exported κ} {arg name : Text}
  {v : Value}

/-! ## Returning -/

/-- Make reads the text of a value from what was handed over of it. -/
theorem collect_delivered (hwhole : v.Whole) (w w' : World κ μ) :
    ∃ w₁, Make.collect (delivered v w).1 w' = some (v.toText, w₁) := by
  have hcontent := content_delivered v w
  rw [Value.whole_iff.1 hwhole] at hcontent
  rw [Value.toText_eq, ← hcontent]
  cases (delivered v w).1 with
  | none => exact ⟨w', rfl⟩
  | some buffer => exact ⟨_, rfl⟩

/-- A function that returns a value has it handed over. -/
theorem perform_running_value {l : Make.Level κ μ} {args : List Text}
    (hbody : Make.perform l (host.body entry.code entry.name.text args).run w =
      some (.ok v, w')) :
    Make.perform l (host.running entry args >>= settle host.options) w =
      Make.perform l (settle host.options (.value v)) w' := by
  rw [running, bind_assoc, Make.perform_bind, Run.bind_of_eq_some hbody]
  rfl

/-- A call expands to the text of the value that the function returns, whatever else the function
does. -/
theorem expand_returned (hoptions : IsUsable host.options.errorVariable) (hw : w.Reachable)
    (hrunning : w.make.stopped = false) (hentry : w.exports.get? entry.name.text = some entry)
    (hbuiltin : Make.Builtin.ofName? entry.name.text = none) (hone : entry.arity.accepts 1 = true)
    (harg : Make.IsArgument arg) (hgap : ∀ c ∈ arg.head?, Make.isGap c = false)
    (hbody : Make.perform (host.level fuel) (host.body entry.code entry.name.text [arg]).run
      { w with make := w.make.countCall } = some (.ok v, w')) (hwhole : v.Whole) :
    ∃ w₁, (host.level (fuel + 4)).expand 0 ("$(" ++ entry.name.text ++ " " ++ arg ++ ")") w =
      some (v.toText, w₁) := by
  obtain ⟨hanswers, -⟩ := hw.answers hentry
  have hargs : ∀ a ∈ [arg], Make.IsArgument a := List.forall_mem_singleton.2 harg
  have hfew : ¬ [arg].length < entry.function.min := Nat.not_lt.2 (Arity.accepts_iff.1 hone).1
  have hdepth : 0 < Make.maxDepth := by decide
  have hcall : (host.level (fuel + 4)).expand 0
      (Make.callText '(' ')' entry.name.text [arg]) w =
        Make.handOut host.responder (host.level (fuel + 3)) entry.name.text [arg] w := by
    show Make.expandWithin host.responder (fuel + 2 + 2) 0 _ w = _
    rw [Make.expandWithin_callText (.inl ⟨rfl, rfl⟩) hargs nofun (by simpa using hgap) hbuiltin
      hanswers.installed entry.arity.ordered hrunning hdepth, if_neg hfew]
    exact congrArg (Make.handOut _ _ _ · w) (Make.joined_singleton entry.arity arg)
  have htext : "$(" ++ entry.name.text ++ " " ++ arg ++ ")" =
      Make.callText '(' ')' entry.name.text [arg] := by
    simp [Make.callText, Text.join_singleton]
  have hcounted : ({ w with make := w.make.countCall } : World κ μ).Reachable :=
    .change hw .countCall
  obtain ⟨hbody, hevolves⟩ := perform_along (Nat.le_add_right fuel 3) hbody
  obtain ⟨w₁, hsettle, -⟩ :=
    perform_settle_value host fuel hoptions (hcounted.evolve hevolves).sound v
  obtain ⟨w₂, hcollect⟩ := collect_delivered hwhole w' w₁
  refine ⟨w₂, ?_⟩
  rw [htext, hcall, Make.handOut_attached hanswers.attached (by simpa using harg.clean),
    Run.bind_of_eq_some (Run.changeMake_apply (w := w) _)]
  refine (Run.bind_of_eq_some ?_).trans hcollect
  rw [responder_of_exported (w := { w with make := w.make.countCall }) _ hanswers.exported,
    perform_running_value hbody, hsettle]

/-! ## Assigning -/

/-- A simple variable gets the text of the value. -/
theorem perform_set_value (hw : w.Reachable) (hrunning : w.make.stopped = false)
    (hwhole : v.Whole) (hdollar : '$' ∉ v.toText) (hlegal : isLegalVariableName name = true)
    (hclean : '\x00' ∉ name)
    (horigin : (w.make.bindings.get? name).map (·.origin) ≠ some .commandLine) :
    ∃ w₁, Make.perform (host.level (fuel + 3)) (set name v .simple).run w = some (.ok (), w₁) ∧
      w₁.make.rawValue name = v.toText := by
  have hdepth : 0 < Make.maxDepth := by decide
  have hexpand : (host.level (fuel + 2)).expand 0 (guarded v.toText) w = some (v.toText, w) :=
    Make.expandWithin_guarded hdollar hw.sound.noUnnamed hrunning hdepth
  refine ⟨{ w with make := w.make.setVariable name ⟨v.toText, .simple, .file⟩ }, ?_, ?_⟩
  · rw [perform_set_simple hlegal hclean hw.sound.attached hrunning hwhole.nul_notMem horigin,
      Run.bind_of_eq_some hexpand]
  · rw [Make.State.rawValue, Make.State.setVariable, Table.get?_insert_self]
    rfl

/-! ## Both ways -/

/-- **Returning a value and assigning it agree.** For every value whose bytes hold no zero and whose
text holds no dollar sign: the text of the value is what lossy decoding makes of its bytes, a call
of an exported function that returns it expands to this text, whatever the function does besides,
and a simple variable that it is assigned to has this text. In the other direction, the bytes of a
text without NULs are decoded to the text, and bytes are not decoded exactly if they are not valid
UTF-8. -/
theorem returned_as_assigned (hoptions : IsUsable host.options.errorVariable) (hw : w.Reachable)
    (hrunning : w.make.stopped = false) (hentry : w.exports.get? entry.name.text = some entry)
    (hbuiltin : Make.Builtin.ofName? entry.name.text = none) (hone : entry.arity.accepts 1 = true)
    (harg : Make.IsArgument arg) (hgap : ∀ c ∈ arg.head?, Make.isGap c = false)
    (hbody : Make.perform (host.level fuel) (host.body entry.code entry.name.text [arg]).run
      { w with make := w.make.countCall } = some (.ok v, w'))
    (hwhole : v.Whole) (hdollar : '$' ∉ v.toText) (hlegal : isLegalVariableName name = true)
    (hclean : '\x00' ∉ name)
    (horigin : (w.make.bindings.get? name).map (·.origin) ≠ some .commandLine) :
    v.toText = (v.encode?.map Utf8.decodeLossy).getD [] ∧
    (∃ w₁, (host.level (fuel + 4)).expand 0 ("$(" ++ entry.name.text ++ " " ++ arg ++ ")") w =
      some (v.toText, w₁)) ∧
    (∃ w₁, Make.perform (host.level (fuel + 3)) (set name v .simple).run w = some (.ok (), w₁) ∧
      w₁.make.rawValue name = v.toText) ∧
    (∀ t : Text, '\x00' ∉ t → ∀ bytes ∈ (Value.text t).encode?,
      Value.decodeArgument bytes.upToNul = .ok t) ∧
    ∀ bytes : Bytes, (∃ failure, Value.decodeArgument bytes = .error failure) ↔
      ¬ bytes.toByteArray.IsValidUTF8 :=
  ⟨v.toText_eq,
    expand_returned hoptions hw hrunning hentry hbuiltin hone harg hgap hbody hwhole,
    perform_set_value hw hrunning hwhole hdollar hlegal hclean horigin,
    fun _ ht _ hbytes => Value.decodeArgument_encode ht hbytes,
    fun _ => Value.decodeArgument_error_iff⟩

/-- Bytes that are no text, returned and assigned. -/
theorem returned_as_assigned_malformed :
    (∃ w₁, ((answering (.bytes [0xFF, 0x61])).level 4).expand 0 "$(f x)" withFunction =
      some ("\ufffda".toList, w₁)) ∧
    ∃ w₁, Make.perform ((answering (.bytes [0xFF, 0x61])).level 3)
      (set "X" (.bytes [0xFF, 0x61]) .simple).run withFunction = some (.ok (), w₁) ∧
      w₁.make.rawValue "X" = "\ufffda".toList := by
  let f : Exported Unit := ⟨⟨"f", by decide⟩, (), .one, .expand⟩
  have hentry : withFunction.exports.get? f.name.text = some f := rfl
  have hbuiltin : Make.Builtin.ofName? f.name.text = none := rfl
  have hone : f.arity.accepts 1 = true := rfl
  have harg : Make.IsArgument "x" :=
    ⟨by decide, by decide, .plain (by decide) (by decide) (.nil _)⟩
  have hgap : ∀ c ∈ "x".toList.head?, Make.isGap c = false := by
    rintro _ ⟨⟩
    rfl
  have hbody : Make.perform ((answering (.bytes [0xFF, 0x61])).level 0)
      ((answering (.bytes [0xFF, 0x61])).body f.code f.name.text ["x"]).run
        { withFunction with make := withFunction.make.countCall } =
      some (.ok (.bytes [0xFF, 0x61]),
        { withFunction with make := withFunction.make.countCall }) := rfl
  have hwhole : (Value.bytes [0xFF, 0x61]).Whole := by
    rintro _ ⟨⟩
    decide
  have hlegal : isLegalVariableName "X" = true := by decide
  obtain ⟨-, hreturned, hassigned, -⟩ := returned_as_assigned isUsable_errorVariable
    withFunction_reachable rfl hentry hbuiltin hone harg hgap hbody hwhole (by decide) hlegal
    (by decide) nofun
  exact ⟨hreturned, hassigned⟩

end Host

end MakeHost
