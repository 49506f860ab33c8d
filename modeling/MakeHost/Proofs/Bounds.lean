import MakeHost.Proofs.ArgumentCount

/-!
# The counts of an export

Bounds that are given for an export win over those that its signature implies. The bounds in force
are `Arity.leastOf` and `Arity.greatestOf`: a function can have them if they are `Arity.Valid`, and
otherwise the first fault that they have is reported (`Arity.fault?`). `Arity.resolve_decides` says
of every export whether it is refused, why, and which counts it accepts.
-/

namespace MakeHost

namespace Signature

/-! ## What a signature implies -/

/-- The parameters before the first rest parameter. -/
def beforeRest (s : Signature) : List ParameterKind := s.takeWhile (· ≠ .rest)

/-- How many of them can be passed by position. -/
def positional (s : Signature) : Nat := s.beforeRest.countP fun p => p = .required ∨ p = .optional

/-- How many of them must be passed. -/
def required (s : Signature) : Nat := s.beforeRest.count .required

variable (s : Signature)

/-- The least count that is read off is the number of required parameters before a rest. -/
theorem min_inferred : s.inferred.min = s.required := by
  induction s with
  | nil => rfl
  | cons p s ih =>
    cases p with
    | required | optional | keyword => simpa [inferred, required, beforeRest] using ih
    | rest => rfl

/-- The greatest count that is read off is the number of positional parameters, unless there is a
rest. -/
theorem max_inferred : s.inferred.max = if .rest ∈ s then none else some s.positional := by
  induction s with
  | nil => rfl
  | cons p s ih =>
    cases p with
    | required | optional | keyword =>
      rw [inferred, ih]
      by_cases hrest : .rest ∈ s <;> simp [hrest, positional, beforeRest]
    | rest => simp [inferred]

end Signature

namespace Arity

variable {lo hi : Int} {a : Arity} {e : ExportError}

/-! ## Bounds -/

/-- Bounds that a function can have; a greatest count of zero stands for none. -/
def Valid (min max : Int) : Prop :=
  (1 ≤ min ∧ min ≤ 255) ∧ (0 ≤ max ∧ max ≤ 255) ∧ (max = 0 ∨ min ≤ max)

/-- What can be wrong with bounds, in the order in which it is looked for. -/
def faults (min max : Int) : List (Bool × ExportError) :=
  [(min < 0 ∨ max < 0, .negativeArgs min max),
    (255 < min ∨ 255 < max, .tooManyArgs min max),
    (max ≠ 0 ∧ max < min, .maxLessThanMin min max),
    (min = 0, .minArgsZero)]

/-- The first fault that bounds have. -/
def fault? (min max : Int) : Option ExportError := ((faults min max).find? (·.1)).map (·.2)

/-- Bounds without a fault are valid. -/
theorem fault?_eq_none_iff : fault? lo hi = none ↔ Valid lo hi := by
  simp [fault?, faults, Valid]
  omega

/-- Bounds with a fault are refused for the first one. -/
theorem ofBounds_eq_error_iff : ofBounds lo hi = .error e ↔ fault? lo hi = .some e := by
  unfold ofBounds fault? faults
  by_cases hnegative : lo < 0 ∨ hi < 0
  · simp [hnegative]
  by_cases hmany : 255 < lo ∨ 255 < hi
  · simp [hnegative, hmany]
  by_cases hless : hi ≠ 0 ∧ hi < lo
  · simp [hnegative, hmany, hless]
  rw [dif_neg hnegative, dif_neg hmany, dif_neg hless]
  simp only [List.find?_cons, hnegative, hmany, hless, decide_false]
  by_cases hzero : lo = 0 <;> simp [hzero]

/-- The range of valid bounds holds just these. -/
theorem ofBounds_eq_ok_iff :
    ofBounds lo hi = .ok a ↔ (a.min : Int) = lo ∧ (a.rawMax : Int) = hi := by
  constructor
  · intro h
    unfold ofBounds at h
    split at h
    · cases h
    split at h
    · cases h
    split at h
    · cases h
    split at h
    · cases h
    cases h
    dsimp only
    omega
  · rintro ⟨rfl, rfl⟩
    obtain ⟨min, rawMax, _, _, _, _⟩ := a
    unfold ofBounds
    dsimp only
    rw [dif_neg (by omega), dif_neg (by omega), dif_neg (by omega), dif_neg (by omega)]
    rfl

/-- There is a range for just the valid bounds. -/
theorem exists_ofBounds_iff : (∃ a, ofBounds lo hi = .ok a) ↔ Valid lo hi := by
  rw [← fault?_eq_none_iff]
  cases hresult : ofBounds lo hi with
  | ok a =>
    have hfault : fault? lo hi = none := by
      rw [Option.eq_none_iff_forall_ne_some]
      intro e he
      rw [ofBounds_eq_error_iff.2 he] at hresult
      cases hresult
    simp [hfault]
  | error e => simp [ofBounds_eq_error_iff.1 hresult]

/-! ## Exports -/

variable {min max : Option Int} {s : Signature}

/-- The least count in force: the one that is given, or the number of required parameters but at
least one. -/
def leastOf (min : Option Int) (s : Signature) : Int := min.getD (Max.max 1 s.required : Nat)

/-- The greatest count in force: the one that is given, or none with a rest parameter, or the number
of positional parameters. -/
def greatestOf (max : Option Int) (s : Signature) : Int :=
  max.getD (if .rest ∈ s then 0 else s.positional)

/-- The greatest count is missing and nothing can be passed by position. -/
def Parameterless (max : Option Int) (s : Signature) : Prop :=
  max = none ∧ .rest ∉ s ∧ s.positional = 0

/-- A bound is missing and there is no signature to read it off. -/
def Unknown (min max : Option Int) (signature : Option Signature) : Prop :=
  (min = none ∨ max = none) ∧ signature = none

section
variable {signature : Option Signature}

/-- A signature that is not known is the first thing an export is refused for. -/
theorem resolve_of_unknown (h : Unknown min max signature) :
    resolve min max signature = .error .unknownSignature := by
  obtain ⟨rfl | rfl, rfl⟩ := h
  · rfl
  · cases min <;> rfl

variable (hknown : ¬ Unknown min max signature)
include hknown

/-- A known signature without a parameter is refused next. -/
theorem resolve_of_parameterless (h : Parameterless max (signature.getD [])) :
    resolve min max signature = .error .noParameters := by
  obtain ⟨rfl, hrest, hpositional⟩ := h
  cases signature with
  | none => exact absurd ⟨.inr rfl, rfl⟩ hknown
  | some s =>
    have hmax : s.inferred.max = .some 0 :=
      s.max_inferred.trans ((if_neg hrest).trans (congrArg Option.some hpositional))
    cases min <;> simp only [resolve, hmax]

/-- The bounds in force decide, unless nothing can be passed by position. -/
theorem resolve_of_known (h : ¬ Parameterless max (signature.getD [])) :
    resolve min max signature =
      ofBounds (leastOf min (signature.getD [])) (greatestOf max (signature.getD [])) := by
  cases signature with
  | none =>
    cases min with
    | none => exact absurd ⟨.inl rfl, rfl⟩ hknown
    | some min =>
      cases max with
      | none => exact absurd ⟨.inr rfl, rfl⟩ hknown
      | some max => rfl
  | some s =>
    have hleast : min.getD (Nat.max s.inferred.min 1 : Nat) = leastOf min s := by
      rw [leastOf, s.min_inferred]
      exact congrArg (fun n : Nat => min.getD n) (Nat.max_comm s.required 1)
    rw [Option.getD_some] at h ⊢
    cases max with
    | some max => cases min <;> simp only [resolve, hleast] <;> rfl
    | none =>
      have hmax := s.max_inferred
      by_cases hrest : .rest ∈ s
      · rw [if_pos hrest] at hmax
        have hgreatest : greatestOf none s = 0 := if_pos hrest
        cases min <;> simp only [resolve, hmax, hleast, hgreatest]
      · rw [if_neg hrest] at hmax
        have hgreatest : greatestOf none s = s.positional := if_neg hrest
        obtain ⟨count, hcount⟩ : ∃ count, s.positional = count + 1 :=
          Nat.exists_eq_succ_of_ne_zero fun hzero => h ⟨rfl, hrest, hzero⟩
        rw [hcount] at hmax hgreatest
        cases min <;> simp only [resolve, hmax, hleast, hgreatest]

end

/-- **An export is decided by the rules for its counts.** A bound that is missing is read off the
signature: without one the export is refused, and so it is without a greatest count where nothing
can be passed by position. Otherwise there is a range if and only if the bounds in force are valid,
and the first fault that they have is reported if they are not. The range holds these bounds, and
accepts just the counts between them. -/
theorem resolve_decides (min max : Option Int) (signature : Option Signature) :
    let s := signature.getD []
    let lo := leastOf min s
    let hi := greatestOf max s
    (∀ e, resolve min max signature = .error e ↔
      Unknown min max signature ∧ e = .unknownSignature ∨
      ¬ Unknown min max signature ∧ Parameterless max s ∧ e = .noParameters ∨
      ¬ Unknown min max signature ∧ ¬ Parameterless max s ∧ fault? lo hi = .some e) ∧
    ((∃ a, resolve min max signature = .ok a) ↔
      ¬ Unknown min max signature ∧ ¬ Parameterless max s ∧ Valid lo hi) ∧
    ∀ a, resolve min max signature = .ok a → (a.min : Int) = lo ∧ (a.rawMax : Int) = hi ∧
      ∀ count : Nat, a.accepts count = true ↔ lo ≤ count ∧ (hi = 0 ∨ count ≤ hi) := by
  intro s lo hi
  by_cases hunknown : Unknown min max signature
  · rw [resolve_of_unknown hunknown]
    simp [hunknown, eq_comm (a := ExportError.unknownSignature)]
  by_cases hparameterless : Parameterless max s
  · rw [resolve_of_parameterless hunknown hparameterless]
    simp [hunknown, hparameterless, eq_comm (a := ExportError.noParameters)]
  have hresolve : resolve min max signature = ofBounds lo hi :=
    resolve_of_known hunknown hparameterless
  rw [hresolve]
  refine ⟨fun e => ?_, ?_, fun a ha => ?_⟩
  · simp [hunknown, hparameterless, ofBounds_eq_error_iff]
  · simp [hunknown, hparameterless, exists_ofBounds_iff]
  · obtain ⟨hmin, hmax⟩ := ofBounds_eq_ok_iff.1 ha
    refine ⟨hmin, hmax, fun count => ?_⟩
    rw [accepts_iff]
    omega

end Arity

end MakeHost
