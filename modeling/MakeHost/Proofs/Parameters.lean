import MakeHost.Proofs.Bounds
import MakeHost.Wrapper.Function

/-!
# Required parameters

The bounds that are read off a signature count its required parameters, but a parameter takes the
argument in its own position. A call that the bounds let through has an argument in the first
positions, as many as the least count says, and need not have more (`Arity.forall_accepts_iff`).
Hence such a call supplies every required parameter if and only if no other parameter stands before
one that is required (`Signature.required_supplied_iff`).
-/

namespace MakeHost

variable {s : Signature} {a : Arity} {i : Nat}

/-! ## Positions that are always filled -/

/-- Every count in the range goes beyond a position exactly if the least one does. -/
theorem Arity.forall_accepts_iff :
    (∀ args : Arguments, a.accepts args.length = true → i < args.length) ↔ i < a.min := by
  constructor
  · intro h
    have hleast : a.accepts (List.replicate a.min ([] : Text)).length = true := by
      rw [List.length_replicate]
      exact accepts_iff.2 ⟨Nat.le_refl _, a.ordered⟩
    simpa using h _ hleast
  · intro hi args hargs
    exact Nat.lt_of_lt_of_le hi (accepts_iff.1 hargs).1

/-- The least count that is read off a signature. -/
theorem Arity.min_of_resolve (h : resolve none none (.some s) = .ok a) :
    a.min = Nat.max s.inferred.min 1 := by
  have hknown : ¬ Unknown none none (.some s) := nofun
  by_cases hparameterless : Parameterless none s
  · rw [resolve_of_parameterless hknown hparameterless] at h
    cases h
  · rw [resolve_of_known hknown hparameterless] at h
    rw [s.min_inferred]
    exact (Int.ofNat_inj.1 (ofBounds_eq_ok_iff.1 h).1).trans (Nat.max_comm 1 s.required)

/-- What a required parameter takes is the argument in its position if there is one. -/
theorem Arguments.getElem?_eq_required_iff {args : Arguments} :
    args[i]? = some (args.required i) ↔ i < args.length := by
  rw [required, List.getElem?_eq_some_iff]
  constructor
  · rintro ⟨hi, -⟩
    exact hi
  · intro hi
    exact ⟨hi, by simp [hi]⟩

namespace Signature

/-! ## Counting required parameters -/

/-- Behind a parameter that is not required, none is. -/
def RequiredFirst (s : Signature) : Prop := s.Pairwise fun p q => q = .required → p = .required

instance (s : Signature) : Decidable s.RequiredFirst :=
  inferInstanceAs (Decidable (s.Pairwise fun p q => q = .required → p = .required))

/-- Where the required parameters come first, each of them has been counted with those before. -/
theorem RequiredFirst.lt_min (h : s.RequiredFirst) (hi : s[i]? = some .required) :
    i < s.inferred.min := by
  induction s generalizing i with
  | nil => cases hi
  | cons p s ih =>
    obtain ⟨hfirst, hrest⟩ := List.pairwise_cons.1 h
    cases i with
    | zero =>
      obtain rfl : p = .required := Option.some_inj.1 hi
      exact Nat.succ_pos _
    | succ i =>
      obtain rfl : p = .required := hfirst .required (List.mem_of_getElem? hi) rfl
      exact Nat.succ_lt_succ (ih hrest hi)

/-- Without a required parameter no argument is needed. -/
theorem min_inferred_eq_zero (h : .required ∉ s) : s.inferred.min = 0 := by
  induction s with
  | nil => rfl
  | cons p s ih =>
    rw [List.mem_cons, not_or] at h
    cases p with
    | required => exact absurd rfl h.1
    | optional | keyword => exact ih h.2
    | rest => rfl

/-- All but one of the required parameters that are counted stand before the last one. -/
theorem exists_min_le (h : .required ∈ s) :
    ∃ i, s[i]? = some .required ∧ s.inferred.min ≤ i + 1 := by
  induction s with
  | nil => cases h
  | cons p s ih =>
    by_cases hs : .required ∈ s
    · obtain ⟨i, hi, hmin⟩ := ih hs
      refine ⟨i + 1, hi, ?_⟩
      cases p with
      | required => exact Nat.succ_le_succ hmin
      | optional | keyword => exact Nat.le_succ_of_le hmin
      | rest => exact Nat.zero_le _
    · obtain rfl : .required = p := (List.mem_cons.1 h).resolve_right hs
      exact ⟨0, rfl, Nat.le_of_eq (congrArg (· + 1) (min_inferred_eq_zero hs))⟩

/-- A required parameter behind another one stands where the least count does not reach. -/
theorem exists_not_counted (h : ¬ s.RequiredFirst) :
    ∃ i, s[i]? = some .required ∧ Nat.max s.inferred.min 1 ≤ i := by
  induction s with
  | nil => exact absurd List.Pairwise.nil h
  | cons p s ih =>
    by_cases hp : p = .required
    · subst hp
      have hs : ¬ RequiredFirst s := fun hs => h (List.pairwise_cons.2 ⟨fun _ _ _ => rfl, hs⟩)
      obtain ⟨i, hi, hle⟩ := ih hs
      have hmin : (inferred s).min + 1 ≤ i + 1 :=
        Nat.succ_le_succ (Nat.le_trans (Nat.le_max_left _ _) hle)
      exact ⟨i + 1, hi, Nat.max_le.2 ⟨hmin, Nat.succ_pos i⟩⟩
    · have hs : .required ∈ s := by
        by_contra hs
        refine h (List.pairwise_cons.2 ⟨fun q hq hrequired => absurd (hrequired ▸ hq) hs, ?_⟩)
        exact List.pairwise_of_forall_mem_list fun q _ r hr hrequired =>
          absurd (hrequired ▸ hr) hs
      obtain ⟨i, hi, hmin⟩ := exists_min_le hs
      refine ⟨i + 1, hi, Nat.max_le.2 ⟨?_, Nat.succ_pos i⟩⟩
      cases p with
      | required => exact absurd rfl hp
      | optional | keyword => exact hmin
      | rest => exact Nat.zero_le _

/-! ## Calls -/

/-- Every required parameter takes the argument in its position; none is left with the empty
text. -/
def SuppliedBy (s : Signature) (args : Arguments) : Prop :=
  ∀ i, s[i]? = some .required → args[i]? = some (args.required i)

/-- **With bounds that are read off a signature, every call that is let through supplies every
required parameter if and only if the required parameters come first.** An optional parameter before
a required one is counted for the greatest number of arguments and not for the least, and behind a
rest parameter none is counted. -/
theorem required_supplied_iff (h : Arity.resolve none none (some s) = .ok a) :
    (∀ args : Arguments, a.accepts args.length = true → s.SuppliedBy args) ↔ s.RequiredFirst := by
  have hmin := Arity.min_of_resolve h
  constructor
  · intro hsupplied
    by_contra hfirst
    obtain ⟨i, hi, hle⟩ := exists_not_counted hfirst
    have hlt : i < a.min := Arity.forall_accepts_iff.1 fun args hargs =>
      Arguments.getElem?_eq_required_iff.1 (hsupplied args hargs i hi)
    omega
  · intro hfirst args hargs i hi
    have hlt : i < a.min := by
      rw [hmin]
      exact Nat.lt_of_lt_of_le (hfirst.lt_min hi) (Nat.le_max_left _ _)
    exact Arguments.getElem?_eq_required_iff.2 (Arity.forall_accepts_iff.2 hlt args hargs)

/-- Two required parameters before an optional one and a rest. -/
theorem required_supplied_first : ∃ a,
    Arity.resolve none none (some [.required, .required, .optional, .rest]) = .ok a ∧
    ∀ args : Arguments, a.accepts args.length = true →
      SuppliedBy [.required, .required, .optional, .rest] args :=
  ⟨⟨2, 0, by decide, by decide, by decide, by decide⟩, rfl,
    (required_supplied_iff rfl).2 (by decide)⟩

/-- A required parameter behind an optional one, and one behind a rest: one argument is let through
and the required parameter is left with the empty text. A function may declare its parameters so. -/
theorem required_not_supplied :
    (∃ a, Arity.resolve none none (some [.optional, .required]) = .ok a ∧
      a.accepts ["x".toList].length = true ∧ ¬ SuppliedBy [.optional, .required] ["x"] ∧
      Arguments.required ["x"] 1 = []) ∧
    (∃ a, Arity.resolve none none (some [.rest, .required]) = .ok a ∧
      a.accepts ["x".toList].length = true ∧ ¬ SuppliedBy [.rest, .required] ["x"]) ∧
    ((Wrapper.FunctionWrapper.ofTexts "" "fn f(a: Option<String>, b: String) {}").toOption.map
      fun w => (w.parameters.map (·.1), w.options.minArgs, w.options.maxArgs)) =
        some (["a".toList, "b".toList], none, none) := by
  have hmissing : ∀ p, ¬ SuppliedBy [p, .required] ["x"] := fun p h => nomatch h 1 rfl
  refine ⟨⟨⟨1, 2, by decide, by decide, by decide, by decide⟩, rfl, rfl, hmissing _, rfl⟩,
    ⟨⟨1, 0, by decide, by decide, by decide, by decide⟩, rfl, rfl, hmissing _⟩, ?_⟩
  decide +kernel

end Signature

end MakeHost
