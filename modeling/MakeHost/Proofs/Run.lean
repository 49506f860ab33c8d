import MakeHost.Make.World

/-!
# Computations on worlds

How the parts of a `Run` act on one world, and `Run.Along`, the judgement that the induction over
make's nesting is made of: from a world, one computation does what another does wherever it has a
result, and what it does is a step of a relation on worlds. With one computation on both sides it
says what a run may change; with two levels of nesting it says too that more nesting keeps every
result.
-/

namespace MakeHost.Run

variable {κ μ α β : Type} {w : World κ μ}

/-! ## Results at one world -/

/-- A result leaves the world alone. -/
@[simp] theorem pure_apply (a : α) : (pure a : Run κ μ α) w = some (a, w) := rfl

/-- The world is read as it is. -/
@[simp] theorem get_apply : (get : Run κ μ (World κ μ)) w = some (w, w) := rfl

@[simp] theorem modify_apply (f : World κ μ → World κ μ) :
    (modify f : Run κ μ PUnit) w = some ((), f w) := rfl

/-- Make's state is that of the world. -/
@[simp] theorem make_apply : (make : Run κ μ Make.State) w = some (w.make, w) := rfl

/-- Whether make is stopped is read off the world. -/
@[simp] theorem stopped_apply : (stopped : Run κ μ Bool) w = some (w.make.stopped, w) := rfl

/-- Looking whether make was stopped. -/
theorem stopped_eq {b : Bool} (h : w.make.stopped = b) :
    (stopped : Run κ μ Bool) w = some (b, w) := by
  rw [stopped_apply, h]

@[simp] theorem changeMake_apply (f : Make.State → Make.State) :
    (changeMake f : Run κ μ Unit) w = some ((), { w with make := f w.make }) := rfl

@[simp] theorem fail_apply (message : Text) :
    (fail message : Run κ μ Unit) w = some ((), { w with make := w.make.fail message }) := rfl

@[simp] theorem note_apply (call : InterfaceCall) :
    (note call : Run κ μ Unit) w = some ((), w.note call) := rfl

/-- A computation goes on from the world and the result of the one in front. -/
theorem bind_apply (x : Run κ μ α) (f : α → Run κ μ β) :
    (x >>= f) w = (x w).bind fun p => f p.1 p.2 := rfl

/-- Where the first part has a result, a sequence goes on from it. -/
theorem bind_of_eq_some {x : Run κ μ α} {f : α → Run κ μ β} {a : α} {w' : World κ μ}
    (h : x w = some (a, w')) : (x >>= f) w = f a w' := by
  rw [bind_apply, h]; rfl

/-- A sequence has a result when its first part has one and the rest has one from there. -/
theorem bind_eq_some {x : Run κ μ α} {f : α → Run κ μ β} {r : β × World κ μ} :
    (x >>= f) w = some r ↔ ∃ a w', x w = some (a, w') ∧ f a w' = some r := by
  simp [bind_apply, Option.bind_eq_some_iff]

/-- Computing with the members of a list gives one result for each. -/
theorem length_of_mapM {f : α → Run κ μ β} {as : List α} {bs : List β} {w' : World κ μ}
    (h : as.mapM f w = some (bs, w')) : bs.length = as.length := by
  induction as generalizing w bs with
  | nil =>
    cases h
    rfl
  | cons a as ih =>
    rw [List.mapM_cons] at h
    obtain ⟨b, w₁, -, hrest⟩ := bind_eq_some.1 h
    obtain ⟨bs, w₂, hbs, hresult⟩ := bind_eq_some.1 hrest
    cases hresult
    simp [ih hbs]

/-! ## Two computations along a relation -/

/-- Steps between worlds that can be put together. A world is one that `T` speaks of when `T` holds
of it and itself, which it does wherever a step ends. -/
structure Steps (T : World κ μ → World κ μ → Prop) : Prop where
  right : ∀ {w w'}, T w w' → T w' w'
  trans : ∀ {w₁ w₂ w₃}, T w₁ w₂ → T w₂ w₃ → T w₁ w₃

/-- From `w`, if `T` speaks of it, `y` does what `x` does wherever `x` has a result, and that is a
step of `T`. -/
def Along (T : World κ μ → World κ μ → Prop) (w : World κ μ) (x y : Run κ μ α) : Prop :=
  T w w → ∀ ⦃a w'⦄, x w = some (a, w') → y w = some (a, w') ∧ T w w'

namespace Along

variable {T : World κ μ → World κ μ → Prop}

/-- A computation without a result goes along with everything. -/
theorem exhausted {y : Run κ μ α} : Along T w Run.exhausted y := fun _ _ _ h => nomatch h

/-- A result without an effect. -/
theorem pure (a : α) : Along T w (pure a) (pure a) := by
  rintro hw b w' hb
  cases hb
  exact ⟨rfl, hw⟩

/-- A computation whose result at `w` is known. -/
theorem of_eq {x : Run κ μ α} {a : α} {w' : World κ μ} (h : x w = some (a, w'))
    (hT : T w w → T w w') : Along T w x x := by
  intro hw b w'' hb
  cases h.symm.trans hb
  exact ⟨h, hT hw⟩

/-- Computations that agree at `w` with others that go along. -/
theorem congr {x x' y y' : Run κ μ α} (hx : x w = x' w) (hy : y w = y' w) (h : Along T w x' y') :
    Along T w x y := by
  intro hw a w' ha
  rw [hx] at ha
  rw [hy]
  exact h hw ha

/-- Sequences whose rest may use the first part's result. -/
theorem bind_result {x y : Run κ μ α} {f g : α → Run κ μ β} (hT : Steps T)
    (hxy : Along T w x y)
    (hfg : ∀ a w', x w = some (a, w') → T w w' → Along T w' (f a) (g a)) :
    Along T w (x >>= f) (y >>= g) := by
  intro hw b w'' hb
  obtain ⟨a, w', ha, hb⟩ := bind_eq_some.1 hb
  obtain ⟨hy, hstep⟩ := hxy hw ha
  obtain ⟨hg, hstep'⟩ := hfg a w' ha hstep (hT.right hstep) hb
  exact ⟨(bind_of_eq_some hy).trans hg, hT.trans hstep hstep'⟩

/-- Sequences go along when their parts do; the rest may use that the first part was a step. -/
theorem bind {x y : Run κ μ α} {f g : α → Run κ μ β} (hT : Steps T) (hxy : Along T w x y)
    (hfg : ∀ a w', T w w' → Along T w' (f a) (g a)) : Along T w (x >>= f) (y >>= g) :=
  bind_result hT hxy fun a w' _ => hfg a w'

/-- A computation that first reads the world goes on with the world it is in. -/
theorem get_bind {f g : World κ μ → Run κ μ β} (h : Along T w (f w) (g w)) :
    Along T w (get >>= f) (get >>= g) := congr rfl rfl h

/-- A computation that first reads make's state goes on with the state it is in. -/
theorem make_bind {f g : Make.State → Run κ μ β} (h : Along T w (f w.make) (g w.make)) :
    Along T w (make >>= f) (make >>= g) := congr rfl rfl h

/-- A computation that first looks whether make was stopped goes on with what it sees. -/
theorem stopped_bind {f g : Bool → Run κ μ β}
    (h : Along T w (f w.make.stopped) (g w.make.stopped)) :
    Along T w (stopped >>= f) (stopped >>= g) := congr rfl rfl h

end Along

end MakeHost.Run
