import MakeHost.Proofs.Facade
import MakeHost.Proofs.Block

/-!
# Requests that fail before make is asked

A request of the host is checked before it is made: its name, the flavor that a variable is to have,
and the text that make would read. `Host.FacadeCall` lists the requests. One that a check refuses is
an action that asks for nothing, so it leaves the world as it is; one that passes the checks fails,
if at all, with what make reports (`Host.FacadeCall.attempt_blames_make`).
`Host.FacadeCall.local_error_iff` says which check refuses what.
-/

namespace MakeHost

variable {κ μ α β : Type} {name text : Text}

/-! ## What a block keeps of a text -/

/-- Breaking a text up removes nothing from it. -/
theorem DefineBlock.Broken.sublist {double : Bool} {s t : Text}
    (h : DefineBlock.Broken double s t) : s.Sublist t := by
  induction h with
  | nil | last => decide
  | define _ ih | endef _ ih | join _ ih => exact List.Sublist.append (by decide) ih
  | dollar _ ih =>
    have hdollar : ['$'].Sublist (if double then "$$" else "$").toList := by
      cases double <;> decide
    exact hdollar.append ih
  | plain _ _ _ _ _ ih => exact ih.cons_cons _

/-- A broken-up text holds a NUL where the text does. -/
theorem DefineBlock.nul_mem_guarded (s : Text) :
    '\x00' ∈ DefineBlock.guarded s ↔ '\x00' ∈ s := by
  refine ⟨fun h => ?_, fun h => (DefineBlock.guarded_spec s).sublist.mem h⟩
  by_contra hs
  exact (DefineBlock.guarded_spec s).notMem hs h

/-- The errors that the host finds by itself. -/
def HostError.IsLocal : HostError → Prop
  | illegalVariableName _ | invalidFlavor | interiorNul _ => True
  | _ => False

namespace Host

/-! ## Refusals -/

/-- Nothing happens behind an error. -/
theorem throw_bind (e : HostError) (f : α → Attempt κ μ β) :
    (throw e : Attempt κ μ α) >>= f = throw e := rfl

/-- An error is the result of asking for nothing. -/
theorem run_throw (e : HostError) : (throw e : Attempt κ μ α).run = pure (.error e) := rfl

/-- A legal name passes its check. -/
theorem checkName_of_legal (h : isLegalVariableName name = true) :
    (checkName name : Attempt κ μ Unit) = pure () := by
  rw [checkName, if_pos h]

/-- A name that is not legal is refused with itself in the error. -/
theorem checkName_of_illegal (h : isLegalVariableName name = false) :
    (checkName name : Attempt κ μ Unit) = throw (.illegalVariableName name) := by
  rw [checkName, if_neg (by simp [h])]

/-- A text with a NUL is refused with the place of the first one. -/
theorem checkText_of_mem (h : '\x00' ∈ text) : (checkText text : Attempt κ μ Unit) =
    throw (.interiorNul ⟨text.upToNul.byteLength⟩) := by
  rw [checkText, nulFault?, if_pos (by simpa using h)]

/-- A text with a NUL is not evaluated. -/
theorem evaluate_of_mem (h : '\x00' ∈ text) : (evaluate text : Attempt κ μ Unit) =
    throw (.interiorNul ⟨text.upToNul.byteLength⟩) := by
  rw [evaluate, checkText_of_mem h, throw_bind]

/-- A text with a NUL is not expanded. -/
theorem expandBytes_of_mem (h : '\x00' ∈ text) : (expandBytes text : Attempt κ μ Bytes) =
    throw (.interiorNul ⟨text.upToNul.byteLength⟩) := by
  rw [expandBytes, checkText_of_mem h, throw_bind]

/-- A text with a NUL is not expanded to text either. -/
theorem expand_of_mem (h : '\x00' ∈ text) : (expand text : Attempt κ μ Text) =
    throw (.interiorNul ⟨text.upToNul.byteLength⟩) := by
  rw [expand, expandBytes_of_mem h, throw_bind]

/-- The origin of a variable is not asked for with a NUL in its name. -/
theorem origin_of_mem (hname : isLegalVariableName name = true) (h : '\x00' ∈ name) :
    ∃ fault, (origin name : Attempt κ μ Origin) = throw (.interiorNul fault) := by
  rw [origin, checkName_of_legal hname, pure_bind, expand_of_mem (by simp [h]), throw_bind]
  exact ⟨_, rfl⟩

/-- A block is refused for a NUL in the name or in the value. -/
theorem define_of_mem (op : Text) {value : Value} (htext : text ∈ [name, value.toText])
    (h : '\x00' ∈ text) :
    ∃ fault, (define name op value : Attempt κ μ Unit) = throw (.interiorNul fault) := by
  refine ⟨_, evaluate_of_mem ?_⟩
  rcases List.mem_pair.1 htext with rfl | rfl
  · simp [h]
  · simp [(DefineBlock.nul_mem_guarded _).2 h]

/-! ## Errors that make is to blame for -/

/-- Whatever make does, the attempt does not end in an error that the host finds by itself. -/
def BlamesMake (attempt : Attempt κ μ α) : Prop :=
  ∀ (l : Make.Level κ μ) w e w', Make.perform l attempt.run w = some (.error e, w') → ¬ e.IsLocal

/-- A result blames no one. -/
theorem blamesMake_pure (a : α) : BlamesMake (pure a : Attempt κ μ α) := by
  intro l w e w' h
  cases h

/-- An error that no check gives is make's. -/
theorem blamesMake_throw {e : HostError} (he : ¬ e.IsLocal) :
    BlamesMake (throw e : Attempt κ μ α) := by
  intro l w e w' h
  cases h
  exact he

/-- One request after another blames make alone where each of them does. -/
theorem BlamesMake.bind {attempt : Attempt κ μ α} {f : α → Attempt κ μ β}
    (h : BlamesMake attempt) (hf : ∀ a, BlamesMake (f a)) : BlamesMake (attempt >>= f) := by
  intro l w e w' hrun
  rw [ExceptT.run_bind, Make.perform_bind] at hrun
  obtain ⟨result, w₁, hfirst, hrest⟩ := Run.bind_eq_some.1 hrun
  cases result with
  | error e₁ =>
    cases hrest
    exact h l w e w' hfirst
  | ok a => exact hf a l w₁ e w' hrest

/-- An action that has no error blames no one. -/
theorem blamesMake_lift (action : Action κ μ α) :
    BlamesMake (ExceptT.lift action : Attempt κ μ α) := by
  intro l w e w' hrun
  rw [ExceptT.run_lift, map_eq_pure_bind, Make.perform_bind] at hrun
  obtain ⟨a, w₁, -, hrest⟩ := Run.bind_eq_some.1 hrun
  cases hrest

/-- A word of make that cannot be read is not an error that the host finds by itself. -/
theorem blamesMake_read {read : Text → Except HostError α}
    (hread : ∀ report e, read report = .error e → ¬ e.IsLocal) (report : Text) :
    BlamesMake (ExceptT.mk (pure (read report)) : Attempt κ μ α) := by
  intro l w e w' hrun
  obtain ⟨herror, -⟩ := Prod.mk.inj (Option.some.inj hrun)
  exact hread report e herror

section
variable (htext : '\x00' ∉ text)
include htext

/-- Evaluation of a text without NUL fails by make alone. -/
theorem blamesMake_evaluate : BlamesMake (evaluate text : Attempt κ μ Unit) := by
  rw [evaluate, checkText_of_notMem htext, pure_bind]
  exact blamesMake_lift _

/-- Expansion to bytes does not fail but for make. -/
theorem blamesMake_expandBytes : BlamesMake (expandBytes text : Attempt κ μ Bytes) := by
  rw [expandBytes, checkText_of_notMem htext, pure_bind]
  refine (blamesMake_lift _).bind fun buffer => ?_
  cases buffer with
  | none => exact blamesMake_pure _
  | some buffer => exact (blamesMake_lift _).bind fun _ => blamesMake_pure _

/-- Expansion to text fails where the bytes that make gives are no text. -/
theorem blamesMake_expand : BlamesMake (expand text : Attempt κ μ Text) := by
  refine (blamesMake_expandBytes htext).bind fun bytes => ?_
  cases Utf8.decode bytes with
  | ok expansion => exact blamesMake_pure _
  | error fault => exact blamesMake_throw id

end

section
variable (hname : isLegalVariableName name = true) (hclean : '\x00' ∉ name)
include hname hclean

/-- Asking for an origin fails where the answer of make names none. -/
theorem blamesMake_origin : BlamesMake (origin name : Attempt κ μ Origin) := by
  rw [origin, checkName_of_legal hname, pure_bind]
  refine (blamesMake_expand (by simpa using hclean)).bind (blamesMake_read fun report e h => ?_)
  rw [Origin.ofReport] at h
  split at h <;> cases h
  exact id

/-- Asking for a flavor fails where the answer of make names none. -/
theorem blamesMake_flavor : BlamesMake (flavor name : Attempt κ μ Flavor) := by
  rw [flavor, checkName_of_legal hname, pure_bind]
  refine (blamesMake_expand (by simpa using hclean)).bind (blamesMake_read fun report e h => ?_)
  rw [Flavor.ofReport] at h
  split at h <;> cases h
  exact id

/-- Asking whether a variable is defined fails where asking for its origin does. -/
theorem blamesMake_defined : BlamesMake (defined name : Attempt κ μ Bool) :=
  (blamesMake_origin hname hclean).bind fun _ => blamesMake_pure _

/-- A value is asked for by an expansion, and maybe an origin. -/
theorem blamesMake_get (default : Text) (expanded : Bool) :
    BlamesMake (get name default expanded : Attempt κ μ Text) := by
  rw [get, checkName_of_legal hname, pure_bind]
  refine (blamesMake_expand (by split <;> simpa using hclean)).bind fun value => ?_
  split
  · exact (blamesMake_defined hname hclean).bind fun _ => blamesMake_pure _
  · exact blamesMake_pure _

omit hname in
/-- A definition is text that make evaluates. -/
theorem blamesMake_define {op : Text} {value : Value} (hop : '\x00' ∉ op)
    (hvalue : '\x00' ∉ value.toText) :
    BlamesMake (define name op value : Attempt κ μ Unit) := by
  have hguarded : '\x00' ∉ DefineBlock.guarded value.toText := by
    rwa [DefineBlock.nul_mem_guarded]
  exact blamesMake_evaluate (by simpa using ⟨hclean, hop, hguarded⟩)

end

/-! ## Requests -/

/-- A request that host code can make, by the type of what it is told. -/
inductive FacadeCall : Type → Type
  | evaluate (text : Text) : FacadeCall Unit
  | expand (text : Text) : FacadeCall Text
  | expandBytes (text : Text) : FacadeCall Bytes
  | get (name default : Text) (expanded : Bool) : FacadeCall Text
  | set (name : Text) (value : Value) (wanted : Flavor) : FacadeCall Unit
  | append (name : Text) (value : Value) : FacadeCall Unit
  | undefine (name : Text) : FacadeCall Unit
  | origin (name : Text) : FacadeCall Origin
  | flavor (name : Text) : FacadeCall Flavor
  | defined (name : Text) : FacadeCall Bool

namespace FacadeCall

/-- What the host does for a request. -/
def attempt : FacadeCall α → Attempt κ μ α
  | evaluate text => Host.evaluate text
  | expand text => Host.expand text
  | expandBytes text => Host.expandBytes text
  | get name default expanded => Host.get name default expanded
  | set name value wanted => Host.set name value wanted
  | append name value => Host.append name value
  | undefine name => Host.undefine name
  | origin name => Host.origin name
  | flavor name => Host.flavor name
  | defined name => Host.defined name

/-- The variable that a request is about. -/
def name? : FacadeCall α → Option Text
  | evaluate _ | expand _ | expandBytes _ => none
  | get name _ _ | set name _ _ | append name _ | undefine name | origin name | flavor name
  | defined name => some name

/-- The flavor that a variable is to have. -/
def flavor? : FacadeCall α → Option Flavor
  | set _ _ wanted => some wanted
  | _ => none

/-- What make is to read of a request. -/
def texts : FacadeCall α → List Text
  | evaluate text | expand text | expandBytes text => [text]
  | set name value _ | append name value => [name, value.toText]
  | get name _ _ | undefine name | origin name | flavor name | defined name => [name]

/-- The request is about a name that would not stand for itself. -/
def Misnamed (call : FacadeCall α) : Prop := ∃ name ∈ call.name?, isLegalVariableName name = false

/-- A variable is to have no flavor. -/
def Flavorless (call : FacadeCall α) : Prop := call.flavor? = some .undefined

/-- Make would see the end of something before its end. -/
def HoldsNul (call : FacadeCall α) : Prop := ∃ text ∈ call.texts, '\x00' ∈ text

variable {call : FacadeCall α}

/-- A request without a misnamed variable has legal names. -/
theorem isLegal_of_not_misnamed (h : ¬ call.Misnamed) (hcall : name ∈ call.name?) :
    isLegalVariableName name = true := by
  rw [← Bool.not_eq_false]
  exact fun hname => h ⟨name, hcall, hname⟩

/-- The name is looked at first. -/
theorem attempt_of_misnamed (hcall : name ∈ call.name?) (hname : isLegalVariableName name = false) :
    (call.attempt : Attempt κ μ α) = throw (.illegalVariableName name) := by
  have hcheck : (checkName name : Attempt κ μ Unit) = throw (.illegalVariableName name) :=
    checkName_of_illegal hname
  have horigin : (Host.origin name : Attempt κ μ Origin) = throw (.illegalVariableName name) := by
    rw [Host.origin, hcheck, throw_bind]
  cases call <;> cases hcall <;> rw [attempt]
  case get => rw [Host.get, hcheck, throw_bind]
  case set value wanted => cases wanted <;> rw [Host.set, hcheck, throw_bind]
  case append => rw [Host.append, hcheck, throw_bind]
  case undefine => rw [Host.undefine, hcheck, throw_bind]
  case origin => exact horigin
  case flavor => rw [Host.flavor, hcheck, throw_bind]
  case defined => rw [Host.defined, horigin, throw_bind]

/-- The flavor is looked at next. -/
theorem attempt_of_flavorless (hname : ¬ call.Misnamed) (hflavor : call.Flavorless) :
    (call.attempt : Attempt κ μ α) = throw .invalidFlavor := by
  cases call <;> cases hflavor
  case set =>
    rw [attempt, Host.set, checkName_of_legal (isLegal_of_not_misnamed hname rfl), pure_bind]

/-- Then the text that make would read is. -/
theorem attempt_of_holdsNul (hname : ¬ call.Misnamed) (hflavor : ¬ call.Flavorless)
    (hnul : call.HoldsNul) :
    ∃ fault, (call.attempt : Attempt κ μ α) = throw (.interiorNul fault) := by
  have hcheck : ∀ name ∈ call.name?, (checkName name : Attempt κ μ Unit) = pure () :=
    fun name hcall => checkName_of_legal (isLegal_of_not_misnamed hname hcall)
  obtain ⟨text, htext, hnul⟩ := hnul
  cases call <;> rw [attempt]
  case evaluate => exact ⟨_, evaluate_of_mem (List.mem_singleton.1 htext ▸ hnul)⟩
  case expand => exact ⟨_, expand_of_mem (List.mem_singleton.1 htext ▸ hnul)⟩
  case expandBytes => exact ⟨_, expandBytes_of_mem (List.mem_singleton.1 htext ▸ hnul)⟩
  case get =>
    obtain rfl := List.mem_singleton.1 htext
    rw [Host.get, hcheck text rfl, pure_bind, expand_of_mem (by split <;> simp [hnul]), throw_bind]
    exact ⟨_, rfl⟩
  case set name value wanted =>
    cases wanted
    case undefined => exact absurd rfl hflavor
    all_goals
      rw [Host.set, hcheck name rfl, pure_bind]
      exact define_of_mem _ htext hnul
  case append name value =>
    rw [Host.append, hcheck name rfl, pure_bind]
    exact define_of_mem _ htext hnul
  case undefine =>
    obtain rfl := List.mem_singleton.1 htext
    rw [Host.undefine, hcheck text rfl, pure_bind]
    exact ⟨_, evaluate_of_mem (by simp [hnul])⟩
  case origin =>
    obtain rfl := List.mem_singleton.1 htext
    exact origin_of_mem (isLegal_of_not_misnamed hname rfl) hnul
  case flavor =>
    obtain rfl := List.mem_singleton.1 htext
    rw [Host.flavor, hcheck text rfl, pure_bind, expand_of_mem (by simp [hnul]), throw_bind]
    exact ⟨_, rfl⟩
  case defined =>
    obtain rfl := List.mem_singleton.1 htext
    obtain ⟨fault, horigin⟩ := origin_of_mem (κ := κ) (μ := μ)
      (isLegal_of_not_misnamed hname rfl) hnul
    rw [Host.defined, horigin, throw_bind]
    exact ⟨_, rfl⟩

/-- A request that passes the checks fails, if at all, with what make reports. -/
theorem attempt_blames_make (hname : ¬ call.Misnamed) (hflavor : ¬ call.Flavorless)
    (hnul : ¬ call.HoldsNul) : BlamesMake (call.attempt : Attempt κ μ α) := by
  have hlegal : ∀ name ∈ call.name?, isLegalVariableName name = true :=
    fun name hcall => isLegal_of_not_misnamed hname hcall
  have hclean : ∀ text ∈ call.texts, '\x00' ∉ text := fun text htext h => hnul ⟨text, htext, h⟩
  cases call <;> rw [attempt]
  case evaluate => exact blamesMake_evaluate (hclean _ (.head _))
  case expand => exact blamesMake_expand (hclean _ (.head _))
  case expandBytes => exact blamesMake_expandBytes (hclean _ (.head _))
  case get => exact blamesMake_get (hlegal _ rfl) (hclean _ (.head _)) _ _
  case set name value wanted =>
    have hvalue := hclean value.toText (.tail _ (.head _))
    have hdefine : ∀ op, '\x00' ∉ op → BlamesMake (define name op value : Attempt κ μ Unit) :=
      fun op hop => blamesMake_define (hclean name (.head _)) hop hvalue
    cases wanted
    case undefined => exact absurd rfl hflavor
    all_goals
      rw [Host.set, checkName_of_legal (hlegal name rfl), pure_bind]
      exact hdefine _ (by decide)
  case append name value =>
    rw [Host.append, checkName_of_legal (hlegal name rfl), pure_bind]
    exact blamesMake_define (hclean name (.head _)) (by decide) (hclean _ (.tail _ (.head _)))
  case undefine name =>
    rw [Host.undefine, checkName_of_legal (hlegal name rfl), pure_bind]
    exact blamesMake_evaluate (by simpa using hclean name (.head _))
  case origin => exact blamesMake_origin (hlegal _ rfl) (hclean _ (.head _))
  case flavor => exact blamesMake_flavor (hlegal _ rfl) (hclean _ (.head _))
  case defined => exact blamesMake_defined (hlegal _ rfl) (hclean _ (.head _))

/-! ## Which check refuses what -/

/-- A request is refused by the first check that finds something, or by none. -/
theorem attempt_cases (call : FacadeCall α) :
    (∃ name ∈ call.name?, isLegalVariableName name = false ∧
      (call.attempt : Attempt κ μ α) = throw (.illegalVariableName name)) ∨
    (¬ call.Misnamed ∧ call.Flavorless ∧
      (call.attempt : Attempt κ μ α) = throw .invalidFlavor) ∨
    (¬ call.Misnamed ∧ ¬ call.Flavorless ∧ call.HoldsNul ∧
      ∃ fault, (call.attempt : Attempt κ μ α) = throw (.interiorNul fault)) ∨
    (¬ call.Misnamed ∧ ¬ call.Flavorless ∧ ¬ call.HoldsNul ∧
      BlamesMake (call.attempt : Attempt κ μ α)) := by
  by_cases hname : call.Misnamed
  · obtain ⟨name, hcall, hillegal⟩ := hname
    exact .inl ⟨name, hcall, hillegal, attempt_of_misnamed hcall hillegal⟩
  by_cases hflavor : call.Flavorless
  · exact .inr (.inl ⟨hname, hflavor, attempt_of_flavorless hname hflavor⟩)
  by_cases hnul : call.HoldsNul
  · exact .inr (.inr (.inl ⟨hname, hflavor, hnul, attempt_of_holdsNul hname hflavor hnul⟩))
  · exact .inr (.inr (.inr ⟨hname, hflavor, hnul, attempt_blames_make hname hflavor hnul⟩))

/-- What a check refuses is not asked for. -/
theorem attempt_refused (h : call.Misnamed ∨ call.Flavorless ∨ call.HoldsNul) :
    ∃ e : HostError, e.IsLocal ∧ (call.attempt : Attempt κ μ α) = throw e := by
  rcases call.attempt_cases (κ := κ) (μ := μ) with ⟨name, -, -, hthrow⟩ | ⟨-, -, hthrow⟩ |
    ⟨-, -, -, fault, hthrow⟩ | ⟨hname, hflavor, hnul, -⟩
  · exact ⟨.illegalVariableName name, trivial, hthrow⟩
  · exact ⟨.invalidFlavor, trivial, hthrow⟩
  · exact ⟨.interiorNul fault, trivial, hthrow⟩
  · exact absurd h (by simp [hname, hflavor, hnul])

/-- What is refused leaves the world as it is. -/
theorem perform_throw (l : Make.Level κ μ) (w : World κ μ) (e : HostError) :
    Make.perform l (throw e : Attempt κ μ α).run w = some (.error e, w) := rfl

/-- The errors that the host finds by itself say what is wrong with the request. -/
theorem error_iff {l : Make.Level κ μ} {w w' : World κ μ} {result : Except HostError α}
    (hrun : Make.perform l call.attempt.run w = some (result, w')) :
    (∀ name, result = .error (.illegalVariableName name) ↔
      name ∈ call.name? ∧ isLegalVariableName name = false) ∧
    (result = .error .invalidFlavor ↔ ¬ call.Misnamed ∧ call.Flavorless) ∧
    ((∃ fault, result = .error (.interiorNul fault)) ↔
      ¬ call.Misnamed ∧ ¬ call.Flavorless ∧ call.HoldsNul) := by
  have hlegal : ¬ call.Misnamed → ∀ name, call.name? = some name →
      isLegalVariableName name = true := fun hname _ hcall => isLegal_of_not_misnamed hname hcall
  rcases call.attempt_cases (κ := κ) (μ := μ) with ⟨name, hcall, hillegal, hthrow⟩ |
    ⟨hname, hflavor, hthrow⟩ | ⟨hname, hflavor, hnul, fault, hthrow⟩ | ⟨hname, hflavor, hnul, hmake⟩
  · have hname : call.Misnamed := ⟨name, hcall, hillegal⟩
    rw [hthrow, perform_throw] at hrun
    cases hrun
    refine ⟨fun name' => ⟨?_, fun h => ?_⟩, by simp [hname], by simp [hname]⟩
    · rintro ⟨⟩
      exact ⟨hcall, hillegal⟩
    · rw [Option.mem_unique hcall h.1]
  · rw [hthrow, perform_throw] at hrun
    cases hrun
    simpa [hname, hflavor] using hlegal hname
  · rw [hthrow, perform_throw] at hrun
    cases hrun
    simpa [hname, hflavor, hnul] using hlegal hname
  · have hreport : ∀ e : HostError, e.IsLocal → result ≠ .error e := fun e he h =>
      hmake l w e w' (h ▸ hrun) he
    refine ⟨fun name => ?_, ?_, ?_⟩
    · simpa [hreport (.illegalVariableName name) trivial] using hlegal hname name
    · simp [hreport .invalidFlavor trivial, hflavor]
    · simp [fun fault => hreport (.interiorNul fault) trivial, hnul]

/-- **Requests fail locally for what is wrong with them, before make is asked for anything.** For
every request, whatever make and the host's functions do: it fails with an illegal name, an invalid
flavor or an interior NUL if and only if its name is not legal, else the flavor to be set is
undefined, else the name, the text or the converted value holds a NUL; and then it asks for nothing
at all, so the world that it was made in is the world that it leaves. -/
theorem local_error_iff (call : FacadeCall α) (l : Make.Level κ μ) (w : World κ μ) :
    (∀ result w', Make.perform l call.attempt.run w = some (result, w') →
      (∀ name, result = .error (.illegalVariableName name) ↔
        name ∈ call.name? ∧ isLegalVariableName name = false) ∧
      (result = .error .invalidFlavor ↔ ¬ call.Misnamed ∧ call.Flavorless) ∧
      ((∃ fault, result = .error (.interiorNul fault)) ↔
        ¬ call.Misnamed ∧ ¬ call.Flavorless ∧ call.HoldsNul)) ∧
    (call.Misnamed ∨ call.Flavorless ∨ call.HoldsNul → ∃ e : HostError, e.IsLocal ∧
      (call.attempt : Attempt κ μ α).run = pure (.error e) ∧
      Make.perform l call.attempt.run w = some (.error e, w)) := by
  refine ⟨fun result w' hrun => error_iff hrun, fun h => ?_⟩
  obtain ⟨e, he, hthrow⟩ := call.attempt_refused (κ := κ) (μ := μ) h
  exact ⟨e, he, by rw [hthrow, run_throw], by rw [hthrow, perform_throw]⟩

end FacadeCall

end Host

end MakeHost
