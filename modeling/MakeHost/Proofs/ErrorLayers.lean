import MakeHost.Lua.Error
import MakeHost.Proofs.Cutting

/-!
# Layers around an error

An error of the interpreter is a root in layers (`Lua.Error.exists_wrapped`): each is the traceback
of a callback or a context. `Lua.Error.Says` tells what a root says of itself. Layers leave the kind
alone, contexts go in front of the message from the outermost to the innermost, and the innermost
traceback is the trace unless the root has one of its own (`Lua.Error.toFailure_wrapped`).
-/

namespace MakeHost.Lua

/-- What an error has around it: the stack of a callback that it passed through, or a context. -/
inductive Layer
  | callback (traceback : Text)
  | context (text : Text)

namespace Layer

/-- An error with a layer around it. -/
def around : Layer → Error → Error
  | callback traceback, e => .callback traceback e
  | context text, e => .within text e

/-- The traceback that a layer adds. -/
def traceback? : Layer → Option Text
  | callback traceback => some traceback
  | context _ => none

/-- The context that a layer adds. -/
def context? : Layer → Option Text
  | callback _ => none
  | context text => some text

/-- The contexts of layers as they stand in a message, each with a colon behind it. -/
def prefixOf (layers : List Layer) : Text :=
  (layers.filterMap context?).flatMap (· ++ ": ")

/-- The traceback of the innermost callback. -/
def innermost? (layers : List Layer) : Option Text := (layers.filterMap traceback?).getLast?

/-- The innermost traceback is the one of the layers within, if they have one. -/
theorem innermost?_callback (traceback : Text) (layers : List Layer) :
    innermost? (callback traceback :: layers) = some ((innermost? layers).getD traceback) := by
  simp [innermost?, traceback?, List.getLast?_cons]

/-- A context has no traceback. -/
@[simp] theorem innermost?_context (text : Text) (layers : List Layer) :
    innermost? (context text :: layers) = innermost? layers := rfl

/-- A traceback puts nothing in front of the message. -/
@[simp] theorem prefixOf_callback (traceback : Text) (layers : List Layer) :
    prefixOf (callback traceback :: layers) = prefixOf layers := rfl

/-- A context stands in front of the contexts within it. -/
@[simp] theorem prefixOf_context (text : Text) (layers : List Layer) :
    prefixOf (context text :: layers) = text ++ ": " ++ prefixOf layers := rfl

end Layer

namespace Error

variable {shown : Error → Text} {root : Error} {told : Failure}

/-- An error with layers around it, the outermost one first. -/
def wrapped (layers : List Layer) (root : Error) : Error := layers.foldr Layer.around root

/-- Whether an error is none of those with a kind of their own and has no layer around it. -/
def IsOther : Error → Prop
  | malformed _ | runtime _ | memory _ | callback _ _ | within _ _ => False
  | badArgument _ _ _ _ | conversion _ _ _ | other _ => True

/-- What begins the traceback in a message. -/
def tracebackMark : Text := "\nstack traceback:"

/-- What an error without layers says of itself. The message of a runtime error ends before its
first traceback, which is its trace; an error without a kind of its own is `shown` in the
interpreter's wording. -/
inductive Says (shown : Error → Text) : Error → Failure → Prop
  | malformed (message : Text) : Says shown (malformed message) ⟨"SyntaxError", message, none⟩
  | untraced {message : Text} (hnone : ¬ tracebackMark <:+: message) :
    Says shown (runtime message) ⟨"RuntimeError", message, none⟩
  | traced {message front trace : Text} (hmessage : message = front ++ '\n' :: trace)
      (htrace : tracebackMark <+: '\n' :: trace)
      (hfirst : ∀ before behind, message = before ++ tracebackMark ++ behind →
        front.length ≤ before.length) :
    Says shown (runtime message) ⟨"RuntimeError", front, some trace⟩
  | memory (message : Text) : Says shown (memory message) ⟨"MemoryError", message, none⟩
  | other {e : Error} (hother : e.IsOther) : Says shown e ⟨"LuaError", shown e, none⟩

/-! ## Roots -/

/-- A traceback is marked by its heading on a line of its own. -/
theorem tracebackMark_eq : tracebackMark = '\n' :: tracebackHeading := rfl

/-- A runtime error says what splitting off its traceback gives. -/
theorem says_runtime_iff (shown : Error → Text) (message : Text) :
    Says shown (runtime message) told ↔
      told = ⟨"RuntimeError", (splitTraceback message).1, (splitTraceback message).2⟩ := by
  have hmark : ("\n" ++ tracebackHeading : Text) = tracebackMark := rfl
  unfold splitTraceback
  rw [hmark]
  cases hcut : Text.cutFirst? tracebackMark message with
  | none =>
    constructor
    · intro h
      cases h with
      | untraced => rfl
      | traced hmessage htrace =>
        obtain ⟨rest, hrest⟩ := htrace
        rw [← hrest, ← List.append_assoc] at hmessage
        exact absurd ⟨_, _, hmessage.symm⟩ (Text.cutFirst?_eq_none_iff.1 hcut)
      | other hother => exact hother.elim
    · rintro rfl
      exact .untraced (Text.cutFirst?_eq_none_iff.1 hcut)
  | some cut =>
    obtain ⟨front, rest⟩ := cut
    obtain ⟨hsplit, hleast⟩ := Text.eq_of_cutFirst? hcut
    constructor
    · intro h
      cases h with
      | untraced hnone => exact absurd ⟨front, rest, hsplit.symm⟩ hnone
      | @traced _ front' trace hmessage htrace hfirst =>
        obtain ⟨rest', hrest'⟩ := htrace
        rw [← hrest', ← List.append_assoc] at hmessage
        have hcut' := Text.cutFirst?_eq_some_iff.2 ⟨hmessage, hfirst⟩
        obtain ⟨rfl, rfl⟩ : front = front' ∧ rest = rest' := by simpa [hcut] using hcut'
        have htrace : tracebackHeading ++ rest = trace := (List.cons.inj hrest').2
        rw [← htrace]
      | other hother => exact hother.elim
    · rintro rfl
      refine .traced ?_ ⟨rest, rfl⟩ hleast
      rw [hsplit, tracebackMark_eq, List.append_assoc]
      rfl

/-- An error without layers says one thing: the failure that it becomes. -/
theorem Says.toFailure_eq (h : Says shown root told) : root.toFailure shown = told := by
  cases h with
  | malformed message => rfl
  | memory message => rfl
  | untraced hnone => exact ((says_runtime_iff shown _).1 (.untraced hnone)).symm
  | traced hmessage htrace hfirst =>
    exact ((says_runtime_iff shown _).1 (.traced hmessage htrace hfirst)).symm
  | other hother =>
    cases root with
    | malformed | runtime | memory | callback | within => exact hother.elim
    | badArgument | conversion | other => rfl

/-! ## Layers -/

/-- Every error is one that says something of itself, with layers around it. -/
theorem exists_wrapped (shown : Error → Text) (e : Error) :
    ∃ layers root told, wrapped layers root = e ∧ Says shown root told := by
  induction e with
  | malformed message => exact ⟨[], _, _, rfl, .malformed message⟩
  | runtime message => exact ⟨[], _, _, rfl, (says_runtime_iff shown message).2 rfl⟩
  | memory message => exact ⟨[], _, _, rfl, .memory message⟩
  | callback traceback cause ih =>
    obtain ⟨layers, root, told, hcause, hroot⟩ := ih
    exact ⟨.callback traceback :: layers, root, told, congrArg (callback traceback) hcause, hroot⟩
  | within text cause ih =>
    obtain ⟨layers, root, told, hcause, hroot⟩ := ih
    exact ⟨.context text :: layers, root, told, congrArg (within text) hcause, hroot⟩
  | badArgument | conversion | other =>
    exact ⟨[], _, _, rfl, .other trivial⟩

/-- A callback's traceback is the trace where there is none yet. -/
theorem toFailure_callback (traceback : Text) (cause : Error) :
    (callback traceback cause).toFailure shown = { cause.toFailure shown with
      trace := some ((cause.toFailure shown).trace.getD traceback) } := rfl

/-- A context goes in front of the message. -/
theorem toFailure_within (context : Text) (cause : Error) :
    (within context cause).toFailure shown = { cause.toFailure shown with
      message := context ++ ": " ++ (cause.toFailure shown).message } := rfl

/-- **An error in layers is told of as its root is, with the contexts in front of the message and
the innermost traceback as the trace.** Every error is a root in layers. Whatever the layers and
their order, the failure has the root's kind; its message is the contexts from the outermost to the
innermost, each with a colon behind it, and then the root's message; its trace is the root's own if
there is one, else the traceback of the innermost callback, else none. What the interpreter words
itself is taken as it is. -/
theorem toFailure_wrapped (shown : Error → Text) :
    (∀ e : Error, ∃ layers root told, wrapped layers root = e ∧ Says shown root told) ∧
      ∀ (layers : List Layer) (root : Error) (told : Failure), Says shown root told →
        (wrapped layers root).toFailure shown = {
          kind := told.kind
          message := Layer.prefixOf layers ++ told.message
          trace := told.trace.or (Layer.innermost? layers) } := by
  refine ⟨exists_wrapped shown, fun layers root told hroot => ?_⟩
  induction layers with
  | nil =>
    rw [wrapped, List.foldr_nil, hroot.toFailure_eq]
    simp [Layer.prefixOf, Layer.innermost?]
  | cons layer layers ih =>
    have hcons : wrapped (layer :: layers) root = layer.around (wrapped layers root) := rfl
    rw [hcons]
    cases layer with
    | callback traceback =>
      rw [Layer.around, toFailure_callback, ih, Layer.innermost?_callback, Layer.prefixOf_callback]
      cases told.trace <;> rfl
    | context text =>
      rw [Layer.around, toFailure_within, ih, Layer.innermost?_context, Layer.prefixOf_context]
      simp

/-- A wording of errors that have what they report for it. -/
def reported : Error → Text
  | other report => report
  | _ => "error"

/-- A runtime error without a traceback in it, in two callbacks with contexts between them, and an
error without a kind of its own in a callback. -/
theorem toFailure_wrapped_nested :
    Says reported (runtime "bad name") ⟨"RuntimeError", "bad name", none⟩ ∧
    (wrapped [.context "f", .callback "outer", .context "g", .callback "inner"]
      (runtime "bad name")).toFailure reported =
        ⟨"RuntimeError", "f: g: bad name", some "inner"⟩ ∧
    (wrapped [.callback "outer"] (other "out of Lua stack")).toFailure reported =
      ⟨"LuaError", "out of Lua stack", some "outer"⟩ := by
  have hroot : Says reported (runtime "bad name") ⟨"RuntimeError", "bad name", none⟩ :=
    (says_runtime_iff reported "bad name").2 (by decide)
  have hother : Says reported (other "out of Lua stack") ⟨"LuaError", "out of Lua stack", none⟩ :=
    .other trivial
  refine ⟨hroot, ?_, ?_⟩
  · rw [(toFailure_wrapped reported).2 _ _ _ hroot]
    decide
  · rw [(toFailure_wrapped reported).2 _ _ _ hother]
    decide

end Error

end MakeHost.Lua
