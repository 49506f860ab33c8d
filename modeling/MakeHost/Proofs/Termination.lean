import MakeHost.Proofs.Nesting

/-!
# Where make comes to an end

References nest at most `maxDepth` deep, so nothing but a call that is handed out can keep make from
coming to an end: where the calls do, expansion and evaluation do within `ample` steps of nesting
(`levelWithin_ends`), and so does all that a host asks for (`perform_ends`). A text is expanded in
the levels that its depth leaves, so that more nesting than covers them makes no difference where
calls do not use it (`levelWithin_stable`).
-/

namespace MakeHost

variable {κ μ α β : Type} {E : Exported κ → Prop} {T : World κ μ → World κ μ → Prop}
  {w : World κ μ}

namespace Run

/-- From `w`, if `T` speaks of it, `x` has a result, and that is a step of `T`. -/
def Ends (T : World κ μ → World κ μ → Prop) (w : World κ μ) (x : Run κ μ α) : Prop :=
  T w w → ∃ a w', x w = some (a, w') ∧ T w w'

namespace Ends

/-- A computation that only has a result ends. -/
theorem pure (a : α) : Ends T w (pure a) := fun hw => ⟨a, w, rfl, hw⟩

/-- A computation whose result at `w` is known. -/
theorem of_eq {x : Run κ μ α} {a : α} {w' : World κ μ} (h : x w = some (a, w'))
    (hT : T w w → T w w') : Ends T w x := fun hw => ⟨a, w', h, hT hw⟩

/-- A computation that agrees at `w` with one that ends. -/
theorem congr {x y : Run κ μ α} (h : x w = y w) (hy : Ends T w y) : Ends T w x := by
  intro hw
  rw [h]
  exact hy hw

/-- Sequences whose rest may use the first part's result. -/
theorem bind_result {x : Run κ μ α} {f : α → Run κ μ β} (hT : Steps T) (hx : Ends T w x)
    (hf : ∀ a w', x w = some (a, w') → T w w' → Ends T w' (f a)) : Ends T w (x >>= f) := by
  intro hw
  obtain ⟨a, w', ha, hstep⟩ := hx hw
  obtain ⟨b, w'', hb, hstep'⟩ := hf a w' ha hstep (hT.right hstep)
  exact ⟨b, w'', (bind_of_eq_some ha).trans hb, hT.trans hstep hstep'⟩

/-- Sequences end when their parts do. -/
theorem bind {x : Run κ μ α} {f : α → Run κ μ β} (hT : Steps T) (hx : Ends T w x)
    (hf : ∀ a w', T w w' → Ends T w' (f a)) : Ends T w (x >>= f) :=
  bind_result hT hx fun a w' _ => hf a w'

/-- Computing with the members of a list one after the other. -/
theorem mapM (hT : Steps T) {f : α → Run κ μ β} (hf : ∀ w a, Ends T w (f a)) (as : List α) :
    Ends T w (as.mapM f) := by
  induction as generalizing w with
  | nil => exact .pure []
  | cons a as ih =>
    rw [List.mapM_cons]
    refine .bind hT (hf w a) fun b w' _ => ?_
    exact .bind hT ih fun bs w'' _ => .pure (b :: bs)

end Ends

end Run

namespace Make

variable {respond respond' : Responder κ μ} {l l' : Level κ μ} {depth : Nat}

/-! ## Expansion ends where its calls do -/

section
variable (hT : Reads T)
include hT

/-- A fatal error ends in its result. -/
theorem Reads.failWith_ends (message : Text) (a : α) :
    Run.Ends T w (do Run.fail message; return a) := .of_eq rfl (hT.fail message)

/-- A builtin ends. -/
theorem Builtin.apply_ends (builtin : Builtin) (arg : Text) : Run.Ends T w (builtin.apply arg) := by
  cases builtin with
  | value | origin | flavor => exact .of_eq rfl id
  | error => exact .of_eq rfl (hT.fail arg)
  | info => exact .of_eq rfl (hT.print arg)

variable (hl : ∀ w text, Run.Ends T w (l.expand (depth + 1) text))
include hl

omit hT in
/-- A variable ends where the text that it holds does. -/
theorem expandVariable_ends (name : Text) : Run.Ends T w (expandVariable l depth name) := by
  unfold expandVariable
  refine .congr (Run.bind_of_eq_some Run.make_apply) ?_
  cases w.make.bindings.get? name with
  | none => exact .pure []
  | some v =>
    dsimp only
    split
    · exact hl w v.value
    · exact .pure v.value

/-- The arguments of a call end where their expansions do. -/
theorem passed_ends (policy : Policy) (args : List Text) :
    Run.Ends T w (passed l depth policy args) := by
  cases policy with
  | expand => exact .mapM hT.toSteps hl args
  | verbatim => exact .pure args

/-- Expanding a call ends when handing it out does, at any time after. -/
theorem expandCall_ends {name : Text}
    (hc : ∀ w', T w w' → ∀ args, Run.Ends T w' (handOut respond l name args)) (f : Function)
    (args : Option Text) : Run.Ends T w (expandCall respond l depth name f args) := by
  rw [expandCall_eq]
  split
  · exact hT.failWith_ends _ []
  · refine .bind hT.toSteps (passed_ends hT hl f.policy _) fun texts w' hw' => ?_
    refine .congr (Run.bind_of_eq_some Run.stopped_apply) ?_
    split
    · exact .pure []
    · exact hc w' hw' texts

variable (hc : ∀ w name f, w.make.functions.get? name = some f →
  ∀ w', T w w' → ∀ args, Run.Ends T w' (handOut respond l name args))
include hc

/-- A name ends as a variable, or as a call that does. -/
theorem expandNamed_ends (inner : Text) : Run.Ends T w (expandNamed respond l depth inner) := by
  unfold expandNamed
  dsimp only
  refine .congr (Run.bind_of_eq_some Run.make_apply) ?_
  cases hf : w.make.functions.get? (headAndArguments inner).1 with
  | none =>
    refine .bind hT.toSteps (hl w inner) fun name w' _ => ?_
    exact expandVariable_ends hl name
  | some f => exact expandCall_ends hT hl (hc w _ f hf) f _

/-- A reference ends as a builtin or as a name. -/
theorem expandReference_ends (inner : Text) :
    Run.Ends T w (expandReference respond l depth inner) := by
  unfold expandReference
  dsimp only
  split
  · exact .bind hT.toSteps (hl w _) fun arg w' _ => Builtin.apply_ends hT _ arg
  · exact expandNamed_ends hT hl hc inner

/-- A piece ends where its reference does. -/
theorem expandPiece_ends (piece : Piece) : Run.Ends T w (expandPiece respond l depth piece) := by
  cases piece with
  | plain c => exact .pure (some [c])
  | dangling => exact .pure (some [])
  | unterminated => exact hT.failWith_ends _ none
  | reference inner =>
    simp only [expandPiece, map_eq_pure_bind]
    exact .bind hT.toSteps (expandReference_ends hT hl hc inner) fun a w' _ => .pure _
  | single c =>
    simp only [expandPiece, map_eq_pure_bind]
    exact .bind hT.toSteps (expandVariable_ends hl [c]) fun a w' _ => .pure _

/-- Pieces end one behind the other. -/
theorem expandPieces_ends (ps : List Piece) : Run.Ends T w (expandPieces respond l depth ps) := by
  induction ps generalizing w with
  | nil => exact .pure (some [])
  | cons piece ps ih =>
    simp only [expandPieces]
    refine .congr (Run.bind_of_eq_some Run.stopped_apply) ?_
    split
    · exact .pure none
    · refine .bind hT.toSteps (expandPiece_ends hT hl hc piece) fun front w' _ => ?_
      cases front with
      | none => exact .pure none
      | some front => exact .bind hT.toSteps ih fun back w'' _ => .pure _

omit hl in
/-- What lies deeper is not asked for beyond the greatest depth. -/
theorem expandText_ends (hl : depth ≤ maxDepth → ∀ w text, Run.Ends T w (l.expand (depth + 1) text))
    (text : Text) : Run.Ends T w (expandText respond l depth text) := by
  unfold expandText
  split
  · exact hT.failWith_ends _ []
  · next hdepth =>
    have hl' := hl (Nat.le_of_not_lt hdepth)
    exact .bind hT.toSteps (expandPieces_ends hT hl' hc _) fun _ w' _ => .pure _

end

/-! ## Evaluation ends where expansion does -/

section
variable (hT : Writes T) (hl : ∀ w text, Run.Ends T w (l.expand 0 text))
include hT hl

/-- The value of an assignment ends where its expansion does. -/
theorem assigned_ends (op : Assignment) (value : Text) (old : Option Variable) :
    Run.Ends T w (assigned l op value old) := by
  cases old with
  | none =>
    cases op with
    | simple => exact .bind hT.toSteps (hl w value) fun a w' _ => .pure _
    | recursive | append | conditional => exact .pure _
  | some old =>
    cases op with
    | simple => exact .bind hT.toSteps (hl w value) fun a w' _ => .pure _
    | recursive | conditional => exact .pure _
    | append =>
      simp only [assigned]
      split
      · exact .bind hT.toSteps (hl w value) fun a w' _ => .pure _
      · exact .pure _

/-- An assignment ends where its name and its value do. -/
theorem assign_ends (name : Text) (op : Assignment) (value : Text) :
    Run.Ends T w (assign l name op value) := by
  unfold assign
  split
  · exact .of_eq rfl (hT.fail _)
  · next hname =>
    refine .congr (Run.bind_of_eq_some Run.make_apply) ?_
    split
    · exact .pure ()
    · next horigin =>
      refine .bind_result hT.toSteps (assigned_ends hT hl op value _) fun v w' hv hw' => ?_
      cases v with
      | none => exact .pure ()
      | some v =>
        have hne : name ≠ [] := by simpa using hname
        exact .of_eq rfl fun _ => hT.assign hw' hne horigin (follows_of_assigned hv)

/-- A statement ends where its texts do. -/
theorem evaluateStatement_ends (s : Statement) : Run.Ends T w (evaluateStatement l s) := by
  cases s with
  | assign name op value =>
    exact .bind hT.toSteps (hl w name) fun name w' _ => assign_ends hT hl name.trim op value
  | undefine name =>
    exact .bind hT.toSteps (hl w name) fun name w' _ => .of_eq rfl (hT.undefine name.trim)
  | bare line =>
    refine .bind hT.toSteps (hl w line) fun residue w' _ => ?_
    split
    · exact .pure ()
    · exact .of_eq rfl (hT.fail _)
  | unterminated => exact .of_eq rfl (hT.fail _)

/-- Statements end one behind the other. -/
theorem evaluateStatements_ends (ss : List Statement) :
    Run.Ends T w (evaluateStatements l ss) := by
  induction ss generalizing w with
  | nil => exact .pure ()
  | cons s ss ih =>
    simp only [evaluateStatements]
    refine .congr (Run.bind_of_eq_some Run.stopped_apply) ?_
    split
    · exact .pure ()
    · exact .bind hT.toSteps (evaluateStatement_ends hT hl s) fun _ w' _ => ih

end

/-! ## Nesting -/

/-- So much nesting covers every depth of references, and the texts of an evaluation. -/
def ample : Nat := maxDepth + 3

/-- Within so much nesting a text at this depth is expanded as deep as make allows. -/
def Covers (fuel depth : Nat) : Prop := 0 < fuel ∧ maxDepth + 2 ≤ fuel + depth

/-- Nesting that covers a depth covers the next one with one step less. -/
theorem Covers.next {fuel : Nat} (h : Covers (fuel + 1) depth) (hdepth : depth ≤ maxDepth) :
    Covers fuel (depth + 1) := by
  obtain ⟨-, h⟩ := h
  constructor <;> omega

/-- Ample nesting covers the outermost depth. -/
theorem covers_of_ample {fuel : Nat} (h : ample ≤ fuel + 1) : Covers fuel 0 := by
  rw [ample] at h
  constructor <;> omega

/-- Make at a level comes to an end at the outermost depth of references. -/
structure Level.Ends (T : World κ μ → World κ μ → Prop) (l : Level κ μ) : Prop where
  expand : ∀ w text, Run.Ends T w (l.expand 0 text)
  evaluate : ∀ w text, Run.Ends T w (l.evaluate text)

section
variable (hc : ∀ fuel w name f, w.make.functions.get? name = some f →
  ∀ w', T w w' → ∀ args, Run.Ends T w' (handOut respond (levelWithin respond fuel) name args))
include hc

/-- Expansion comes to an end where the calls that it hands out do. -/
theorem expandWithin_ends (hT : Reads T) {fuel : Nat} (h : Covers fuel depth) (w : World κ μ)
    (text : Text) : Run.Ends T w (expandWithin respond fuel depth text) := by
  induction fuel generalizing depth w text with
  | zero => exact absurd h.1 (Nat.lt_irrefl 0)
  | succ fuel ih =>
    have hl : depth ≤ maxDepth → ∀ w text,
        Run.Ends T w ((levelWithin respond fuel).expand (depth + 1) text) :=
      fun hdepth => ih (h.next hdepth)
    exact expandText_ends hT (hc fuel) hl text

/-- Make comes to an end where the calls that it hands out do. -/
theorem levelWithin_ends (hT : Writes T) {fuel : Nat} (h : ample ≤ fuel) :
    (levelWithin respond fuel).Ends T := by
  obtain ⟨fuel, rfl⟩ : ∃ k, fuel = k + 1 := ⟨fuel - 1, by rw [ample] at h; omega⟩
  have hcovers : Covers (fuel + 1) 0 := covers_of_ample (by omega)
  refine ⟨fun w text => expandWithin_ends hc hT.toReads hcovers w text, fun w text => ?_⟩
  have hl : ∀ w text, Run.Ends T w ((levelWithin respond fuel).expand 0 text) :=
    expandWithin_ends hc hT.toReads (covers_of_ample h)
  exact evaluateStatements_ends hT hl _

end

/-! ## What the host asks for -/

section
variable (hT : Serves E T) (hl : l.Ends T)
include hT hl

omit hT in
/-- A text is run to its end where its statements end. -/
theorem Level.run_ends (text : Text) : Run.Ends T w (l.run text) := by
  unfold Level.run
  refine .congr (Run.bind_of_eq_some Run.stopped_apply) ?_
  split
  · exact .pure ()
  · exact hl.evaluate w text

/-- Answering a request, where `E` allows what it exports. -/
theorem handle_ends (r : Request κ μ) (hr : ∀ entry, r = .enter entry → E entry) :
    Run.Ends T w (handle l r) := by
  cases r with
  | evaluate text =>
    exact .bind hT.toSteps (.of_eq rfl (hT.note _)) fun _ w' _ => Level.run_ends hl text
  | expand text =>
    refine .bind hT.toSteps (.of_eq rfl (hT.note _)) fun _ w' _ => ?_
    refine .bind hT.toSteps (hl.expand w' text) fun expansion w'' _ => ?_
    exact .bind hT.toSteps (.of_eq (allocate_apply _) hT.allocate) fun b _ _ => .pure _
  | allocate content =>
    exact .bind hT.toSteps (.of_eq (allocate_apply _) hT.allocate) fun b _ _ => .pure _
  | release buffer => exact .of_eq rfl (hT.release buffer.id)
  | exports => exact .of_eq rfl id
  | enter entry => exact .of_eq rfl (hT.enter entry (hr entry rfl))
  | remembered => exact .of_eq rfl id
  | remember memory => exact .of_eq rfl (hT.remember memory)
  | complain line => exact .of_eq rfl (hT.complain line)

/-- Performing an action, where `E` allows what it exports. -/
theorem perform_ends {x : Action κ μ α} (hx : x.Exports E) : Run.Ends T w (perform l x) := by
  induction hx generalizing w with
  | done a => exact .pure a
  | ask hr _ ih => exact .bind hT.toSteps (handle_ends hT hl _ hr) fun answer w' _ => ih answer

omit hl in
/-- A call that is handed out comes to an end when its answer does. -/
theorem handOut_ends {name : Text} {args : List Text}
    (hanswer : ∀ w', T w w' → Run.Ends T w' (respond l name (args.map handedOver))) :
    Run.Ends T w (handOut respond l name args) := by
  have hcollect : ∀ w', T w w' →
      Run.Ends T w' (respond l name (args.map handedOver) >>= collect) := by
    intro w' hw'
    refine .bind hT.toSteps (hanswer w' hw') fun buffer w'' _ => ?_
    cases buffer with
    | none => exact .pure []
    | some buffer => exact .of_eq rfl (hT.release buffer.id)
  unfold handOut
  refine .congr (Run.bind_of_eq_some Run.get_apply) ?_
  cases w.link with
  | absent => exact hT.failWith_ends _ []
  | attached =>
    exact .bind hT.toSteps (.of_eq (Run.changeMake_apply _) hT.countCall) fun _ w' => hcollect w'
  | object known =>
    refine .bind hT.toSteps (.of_eq (Run.changeMake_apply _) hT.countCall) fun _ w' hw' => ?_
    refine .congr (Run.bind_of_eq_some Run.get_apply) ?_
    split
    · exact hcollect w' hw'
    · exact .pure []

end

/-! ## More nesting than is needed -/

section
variable (hl : l.expand (depth + 1) = l'.expand (depth + 1))
include hl

/-- A variable uses no more than the next depth. -/
theorem expandVariable_congr (name : Text) :
    expandVariable l depth name = expandVariable l' depth name := by
  simp only [expandVariable, hl]

variable (hc : ∀ name args, handOut respond l name args = handOut respond' l' name args)
include hc

/-- A reference uses no more than the next depth and the calls. -/
theorem expandReference_congr (inner : Text) :
    expandReference respond l depth inner = expandReference respond' l' depth inner := by
  simp only [expandReference, expandNamed, expandCall_eq, passed, expandVariable_congr hl, hl, hc]

/-- A piece uses no more than the next depth and the calls. -/
theorem expandPiece_congr (piece : Piece) :
    expandPiece respond l depth piece = expandPiece respond' l' depth piece := by
  cases piece <;> simp only [expandPiece, expandReference_congr hl hc, expandVariable_congr hl]

/-- Pieces use no more than the next depth and the calls. -/
theorem expandPieces_congr (ps : List Piece) :
    expandPieces respond l depth ps = expandPieces respond' l' depth ps := by
  induction ps with
  | nil => rfl
  | cons piece ps ih => simp only [expandPieces, expandPiece_congr hl hc, ih]

end

/-- Expansion depends on what lies one step deeper, and on the calls that it hands out. -/
theorem expandText_congr (hl : depth ≤ maxDepth → l.expand (depth + 1) = l'.expand (depth + 1))
    (hc : ∀ name args, handOut respond l name args = handOut respond' l' name args) :
    expandText respond l depth = expandText respond' l' depth := by
  funext text
  unfold expandText
  split
  · rfl
  · next hdepth => rw [expandPieces_congr (hl (Nat.le_of_not_lt hdepth)) hc]

/-- Evaluation depends on the expansion of the texts in it. -/
theorem evaluateStatements_congr (hl : l.expand 0 = l'.expand 0) (ss : List Statement) :
    evaluateStatements l ss = evaluateStatements l' ss := by
  have hassigned : assigned l = assigned l' := by
    funext op value old
    rcases old with _ | old <;> cases op <;> simp only [assigned, hl]
  have hstatement : evaluateStatement l = evaluateStatement l' := by
    funext s
    cases s <;> simp only [evaluateStatement, assign, hassigned, hl]
  induction ss with
  | nil => rfl
  | cons s ss ih => simp only [evaluateStatements, hstatement, ih]

section
variable (hr : ∀ l l', respond l = respond l')
include hr

/-- Two amounts of nesting that cover a depth do the same there, if calls do not use them. -/
theorem expandWithin_stable {fuel more : Nat} (hfuel : Covers fuel depth)
    (hmore : Covers more depth) :
    expandWithin respond fuel depth = expandWithin respond more depth := by
  induction fuel generalizing more depth with
  | zero => exact absurd hfuel.1 (Nat.lt_irrefl 0)
  | succ fuel ih =>
    obtain ⟨more, rfl⟩ : ∃ k, more = k + 1 := ⟨more - 1, by have := hmore.1; omega⟩
    refine expandText_congr (fun hdepth => ih (hfuel.next hdepth) (hmore.next hdepth)) ?_
    intro name args
    unfold handOut
    rw [hr]

/-- Ample nesting is as good as any more, if calls do not use it. -/
theorem levelWithin_stable {fuel : Nat} (h : ample ≤ fuel) :
    (levelWithin respond fuel).expand 0 = (levelWithin respond ample).expand 0 ∧
      (levelWithin respond fuel).evaluate = (levelWithin respond ample).evaluate := by
  obtain ⟨fuel, rfl⟩ : ∃ k, fuel = k + 1 := ⟨fuel - 1, by rw [ample] at h; omega⟩
  have hample : Covers (maxDepth + 2) 0 := covers_of_ample (Nat.le_refl _)
  refine ⟨expandWithin_stable hr (covers_of_ample (by omega)) (covers_of_ample (by omega)), ?_⟩
  funext text
  exact evaluateStatements_congr (expandWithin_stable hr (covers_of_ample h) hample) _

end

/-- An action sees of make what it is to expand and to evaluate. -/
theorem perform_congr (hexpand : l.expand 0 = l'.expand 0) (hevaluate : l.evaluate = l'.evaluate)
    (x : Action κ μ α) : perform l x = perform l' x := by
  have hrun : l.run = l'.run := by
    funext text
    simp only [Level.run, hevaluate]
  have hhandle : ∀ r, handle l r = handle l' r := by
    intro r
    cases r with
    | evaluate text =>
      show (Run.note _ >>= fun _ => l.run text) = Run.note _ >>= fun _ => l'.run text
      rw [hrun]
    | expand text =>
      show (Run.note _ >>= fun _ => l.expand 0 text >>= _) =
        Run.note _ >>= fun _ => l'.expand 0 text >>= _
      rw [hexpand]
    | _ => rfl
  induction x with
  | done a => rfl
  | ask r next ih => simp only [perform, hhandle, ih]

end Make

end MakeHost
