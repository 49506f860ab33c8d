import MakeHost.Proofs.Literal
import MakeHost.Proofs.Nesting

/-!
# Texts that may stand for each other

`Make.Interchange` is what a relation between texts has to say of how they are read for related
texts to expand alike: their pieces are the same but for references that come to the same
(`Make.Twin`) and for empty references (`Make.Alike`), at every depth that references may have. What
a reference comes to depends on the functions that are there, so a predicate says which ones may be.
`Make.expandWithin_interchange` is the induction on the nesting, for both directions of a relation
at once: the expansion of one text is the expansion of the other within one more step.
-/

namespace MakeHost

variable {κ μ : Type}

/-- Every function that make has satisfies the predicate. -/
def World.Offers (F : Text → Policy → Prop) (w : World κ μ) : Prop :=
  ∀ name f, w.make.functions.get? name = some f → F name f.policy

namespace Make

/-! ## Reading -/

/-- Pieces that are the same but for related references, and for empty references that stand before
another piece or behind a character at the end. -/
inductive Alike (Q : Text → Text → Prop) : List Piece → List Piece → Prop
  | nil : Alike Q [] []
  | same (p : Piece) {ps qs : List Piece} : Alike Q ps qs → Alike Q (p :: ps) (p :: qs)
  | reference {u v : Text} {ps qs : List Piece} :
      Q u v → Alike Q ps qs → Alike Q (.reference u :: ps) (.reference v :: qs)
  | hollowLeft {ps qs : List Piece} : ps ≠ [] → Alike Q ps qs → Alike Q (.reference [] :: ps) qs
  | hollowRight {ps qs : List Piece} : qs ≠ [] → Alike Q ps qs → Alike Q ps (.reference [] :: qs)
  | closeLeft (c : Char) : Alike Q [.plain c, .reference []] [.plain c]
  | closeRight (c : Char) : Alike Q [.plain c] [.plain c, .reference []]

variable {F : Text → Policy → Prop} {Q Q' : Text → Text → Prop} {ps qs : List Piece}
  {inner u v : Text}

/-- Pieces are alike from both sides. -/
theorem Alike.symm (h : Alike Q ps qs) : Alike (fun u v => Q v u) qs ps := by
  induction h with
  | nil => exact .nil
  | same p _ ih => exact .same p ih
  | reference huv _ ih => exact .reference huv ih
  | hollowLeft hne _ ih => exact .hollowRight hne ih
  | hollowRight hne _ ih => exact .hollowLeft hne ih
  | closeLeft c => exact .closeRight c
  | closeRight c => exact .closeLeft c

/-- What relates the references of two texts may use that they are references of the first. -/
theorem Alike.imp (h : Alike Q ps qs) (hQ : ∀ u v, .reference u ∈ ps → Q u v → Q' u v) :
    Alike Q' ps qs := by
  induction h with
  | nil => exact .nil
  | same p _ ih => exact .same p (ih fun u v hu => hQ u v (.tail _ hu))
  | reference huv _ ih =>
    exact .reference (hQ _ _ (.head _) huv) (ih fun u v hu => hQ u v (.tail _ hu))
  | hollowLeft hne _ ih => exact .hollowLeft hne (ih fun u v hu => hQ u v (.tail _ hu))
  | hollowRight hne _ ih => exact .hollowRight hne (ih hQ)
  | closeLeft c => exact .closeLeft c
  | closeRight c => exact .closeRight c

/-- A reference that is a call of one of make's own functions. -/
def IsBuiltinCall (inner : Text) : Prop :=
  (Builtin.ofName? (headAndArguments inner).1).isSome ∧ (headAndArguments inner).2.isSome

/-- The arguments of a reference as a function with this greatest count gets them. -/
def argumentsOf (inner : Text) (max : Nat) : List Text :=
  ((headAndArguments inner).2.map (splitArguments · max)).getD []

/-- Two references that come to the same when related texts expand alike and every function
satisfies `F`. -/
inductive Twin (F : Text → Policy → Prop) (R : Text → Text → Prop) (u v : Text) : Prop
  /-- Calls of the same function of make's own. -/
  | builtin {head arg arg' : Text} {builtin : Builtin} : Builtin.ofName? head = some builtin →
      headAndArguments u = (head, some arg) → headAndArguments v = (head, some arg') →
      R arg arg' → Twin F R u v
  /-- A variable, or a call of the same function, which gets the same arguments unless it has them
  expanded. -/
  | named : ¬ IsBuiltinCall u → ¬ IsBuiltinCall v → R u v →
      (headAndArguments u).1 = (headAndArguments v).1 →
      (∀ max, List.Forall₂ R (argumentsOf u max) (argumentsOf v max)) →
      (F (headAndArguments u).1 .verbatim → (headAndArguments u).2 = (headAndArguments v).2) →
      Twin F R u v
  /-- A variable, since neither head is a function's name. -/
  | variable : ¬ IsBuiltinCall u → ¬ IsBuiltinCall v → R u v →
      (∀ policy, ¬ F (headAndArguments u).1 policy) →
      (∀ policy, ¬ F (headAndArguments v).1 policy) → Twin F R u v

/-- References come to the same from both sides. -/
theorem Twin.symm {R : Text → Text → Prop} (hR : ∀ {s t}, R s t → R t s) (h : Twin F R u v) :
    Twin F R v u := by
  cases h with
  | builtin hbuiltin hu hv harg => exact .builtin hbuiltin hv hu (hR harg)
  | named hu hv huv hhead hargs hverbatim =>
    refine .named hv hu (hR huv) hhead.symm (fun max => ?_) fun hF => ?_
    · exact ((hargs max).imp fun _ _ => hR).flip
    · exact (hverbatim (hhead ▸ hF)).symm
  | «variable» hu hv huv hnone hnone' => exact .variable hv hu (hR huv) hnone' hnone

/-- The texts that the relation puts together at each depth are read alike: their references come to
the same further in, and where references nest as deep as they may the texts are one. -/
structure Interchange (F : Text → Policy → Prop) (R : Nat → Text → Text → Prop) : Prop where
  read : ∀ {depth s t}, depth < maxDepth → R depth s t →
    Alike (Twin F (R (depth + 1))) (pieces s) (pieces t)
  deepest : ∀ {s t}, R maxDepth s t → s = t

/-! ## Expanding -/

section
variable {respond respond' : Responder κ μ} {l l' : Level κ μ} {depth : Nat} {w : World κ μ}

/-- A builtin is applied to its expanded argument. -/
theorem expandReference_builtin {head arg : Text} {builtin : Builtin}
    (hbuiltin : Builtin.ofName? head = some builtin)
    (hinner : headAndArguments inner = (head, some arg)) :
    expandReference respond l depth inner =
      l.expand (depth + 1) arg >>= fun arg => builtin.apply arg := by
  rw [expandReference, hinner]
  dsimp only
  rw [hbuiltin]

/-- Everything but a call of a builtin is expanded by its name. -/
theorem expandReference_named (h : ¬ IsBuiltinCall inner) :
    expandReference respond l depth inner = expandNamed respond l depth inner := by
  rw [expandReference]
  dsimp only
  split
  · next hbuiltin hargs => exact absurd ⟨by rw [hbuiltin]; rfl, by rw [hargs]; rfl⟩ h
  · rfl

/-- Where make was stopped, pieces are cut short. -/
theorem expandPieces_of_stopped (hstopped : w.make.stopped = true) (hne : ps ≠ []) :
    expandPieces respond l depth ps w = some (none, w) := by
  obtain ⟨p, ps, rfl⟩ := List.exists_cons_of_ne_nil hne
  have hrun := Run.stopped_eq hstopped
  rw [expandPieces, Run.bind_of_eq_some hrun]
  rfl

/-- Where make runs, pieces are expanded from the left. -/
theorem expandPieces_of_running (hstopped : w.make.stopped = false) (p : Piece) :
    expandPieces respond l depth (p :: ps) w = (expandPiece respond l depth p >>= fun front =>
      match front with
      | none => pure none
      | some front => Option.map (front ++ ·) <$> expandPieces respond l depth ps) w := by
  have hrun := Run.stopped_eq hstopped
  rw [expandPieces, Run.bind_of_eq_some hrun, if_neg (by decide)]
  refine congrFun (bind_congr fun front => ?_) w
  cases front with
  | none => rfl
  | some front => exact (map_eq_pure_bind _ _).symm

/-- Nothing in front of a result leaves it as it is. -/
theorem map_nil_append (x : Run κ μ (Option Text)) : Option.map ([] ++ ·) <$> x = x := by
  have hid : (Option.map ([] ++ ·) : Option Text → Option Text) = id := by
    funext a
    cases a <;> rfl
  rw [hid, id_map]

section
variable (hw : w.NoUnnamed) (hl : l.expand (depth + 1) [] w = some ([], w))
include hw hl

/-- An empty reference expands to nothing. -/
theorem expandPiece_hollow :
    expandPiece respond l depth (.reference []) w = some (some [], w) := by
  rw [expandPiece, map_eq_pure_bind, Run.bind_of_eq_some (expandReference_nil hw hl)]
  rfl

/-- An empty reference before another piece changes nothing. -/
theorem expandPieces_hollow (hne : ps ≠ []) :
    expandPieces respond l depth (.reference [] :: ps) w = expandPieces respond l depth ps w := by
  cases hstopped : w.make.stopped with
  | true =>
    rw [expandPieces_of_stopped hstopped (List.cons_ne_nil _ _),
      expandPieces_of_stopped hstopped hne]
  | false =>
    rw [expandPieces_of_running hstopped, Run.bind_of_eq_some (expandPiece_hollow hw hl)]
    dsimp only
    rw [map_nil_append]

/-- An empty reference behind a character changes nothing. -/
theorem expandPieces_close (c : Char) : expandPieces respond l depth [.plain c, .reference []] w =
    expandPieces respond l depth [.plain c] w := by
  cases hstopped : w.make.stopped with
  | true =>
    rw [expandPieces_of_stopped hstopped (List.cons_ne_nil _ _),
      expandPieces_of_stopped hstopped (List.cons_ne_nil _ _)]
  | false =>
    rw [expandPieces_of_spells (.plain c (.hollow .nil)) hw hstopped hl,
      expandPieces_of_spells (.plain c .nil) hw hstopped hl]

end

end

section
variable {T : World κ μ → World κ μ → Prop} {R : Text → Text → Prop}
  {respond respond' : Responder κ μ} {l l' : Level κ μ} {depth : Nat} {w : World κ μ}
  (hT : Reads T) (hworld : ∀ {w}, T w w → w.NoUnnamed ∧ w.Offers F)
  (hl : ∀ w depth text, Run.Along T w (l.expand depth text) (l'.expand depth text))
  (hc : ∀ w name args,
    Run.Along T w (handOut respond l name args) (handOut respond' l' name args))
  (hR : ∀ w s t, R s t → Run.Along T w (l.expand (depth + 1) s) (l'.expand (depth + 1) t))
include hT hworld hl hc hR

/-- References that come to the same are expanded alike. -/
theorem expandReference_twin (h : Twin F R u v) :
    Run.Along T w (expandReference respond l depth u) (expandReference respond' l' depth v) := by
  intro hw
  have hvariable : R u v → Run.Along T w (l.expand (depth + 1) u >>= expandVariable l depth)
      (l'.expand (depth + 1) v >>= expandVariable l' depth) := fun huv =>
    .bind hT.toSteps (hR w u v huv) fun name _ _ => expandVariable_along hl depth name
  cases h with
  | builtin hbuiltin hu hv harg =>
    rw [expandReference_builtin hbuiltin hu, expandReference_builtin hbuiltin hv]
    exact Run.Along.bind hT.toSteps (hR w _ _ harg)
      (fun arg _ _ => Builtin.apply_along hT _ arg) hw
  | named hu hv huv hhead hargs hverbatim =>
    rw [expandReference_named hu, expandReference_named hv]
    unfold expandNamed
    dsimp only
    refine Run.Along.make_bind ?_ hw
    rw [← hhead]
    cases hfunction : w.make.functions.get? (headAndArguments u).1 with
    | none => exact hvariable huv
    | some f =>
      refine expandCall_along_of hT hR (hargs f.max) (fun hpolicy => hverbatim ?_)
        fun _ _ _ _ => hc _ _ _
      exact hpolicy ▸ (hworld hw).2 _ f hfunction
  | «variable» hu hv huv hnone hnone' =>
    have hnotFunction : ∀ {name : Text}, (∀ policy, ¬ F name policy) →
        w.make.functions.get? name = none := by
      intro name hname
      cases hfunction : w.make.functions.get? name with
      | none => rfl
      | some f => exact absurd ((hworld hw).2 name f hfunction) (hname f.policy)
    rw [expandReference_named hu, expandReference_named hv]
    unfold expandNamed
    dsimp only
    refine Run.Along.make_bind ?_ hw
    rw [hnotFunction hnone, hnotFunction hnone']
    exact hvariable huv

variable (hempty : ∀ w, l'.expand (depth + 1) [] w = some ([], w))
include hempty

/-- Pieces that are alike are expanded alike. An empty reference may need more nesting than there
is; where it does not, it is empty. -/
theorem expandPieces_alike (h : Alike (Twin F R) ps qs) :
    Run.Along T w (expandPieces respond l depth ps) (expandPieces respond' l' depth qs) := by
  have hcall : ∀ w depth name f args, w.make.functions.get? name = some f →
      Run.Along T w (expandCall respond l depth name f args)
        (expandCall respond' l' depth name f args) :=
    fun w depth name f args _ => expandCall_along hT hl hc depth name f args
  induction h generalizing w with
  | nil => exact .pure _
  | same p _ ih =>
    simp only [expandPieces]
    refine .stopped_bind ?_
    split
    · exact .pure none
    · refine .bind hT.toSteps (expandPiece_along hT hl hcall depth p) fun front w' _ => ?_
      cases front with
      | none => exact .pure none
      | some front => exact .bind hT.toSteps ih fun back w'' _ => .pure _
  | reference huv _ ih =>
    simp only [expandPieces, expandPiece, map_eq_pure_bind, bind_assoc, pure_bind]
    refine .stopped_bind ?_
    split
    · exact .pure none
    · refine .bind hT.toSteps (expandReference_twin hT hworld hl hc hR huv) fun front w' _ => ?_
      exact .bind hT.toSteps ih fun back w'' _ => .pure _
  | hollowLeft hne _ ih =>
    intro hw a w' ha
    cases hstopped : w.make.stopped with
    | true =>
      rw [expandPieces_of_stopped hstopped (List.cons_ne_nil _ _),
        ← expandPieces_of_stopped hstopped hne] at ha
      exact ih hw ha
    | false =>
      rw [expandPieces_of_running hstopped] at ha
      obtain ⟨front, w₁, hfront, hback⟩ := Run.bind_eq_some.1 ha
      obtain ⟨hfront, -⟩ := expandPiece_along hT hl hcall depth _ hw hfront
      cases (expandPiece_hollow (hworld hw).1 (hempty w)).symm.trans hfront
      dsimp only at hback
      rw [map_nil_append] at hback
      exact ih hw hback
  | hollowRight hne _ ih =>
    intro hw
    exact Run.Along.congr rfl (expandPieces_hollow (hworld hw).1 (hempty w) hne) ih hw
  | closeLeft c =>
    intro hw
    exact Run.Along.congr rfl (expandPieces_close (hworld hw).1 (hempty w) c).symm
      (expandPieces_along hT hl hcall depth _) hw
  | closeRight c =>
    intro hw
    exact Run.Along.congr rfl (expandPieces_close (hworld hw).1 (hempty w) c)
      (expandPieces_along hT hl hcall depth _) hw

end

/-! ## Nesting -/

section
variable {T : World κ μ → World κ μ → Prop} {E : Exported κ → Prop} {respond : Responder κ μ}
  (hT : Serves E T) (hworld : ∀ {w}, T w w → w.NoUnnamed ∧ w.Offers F)
  (hr : respond.Along T respond)
include hT hworld hr

/-- Texts whose pieces are alike expand alike, where the texts of their references do. -/
theorem expandText_alike {R : Text → Text → Prop} {fuel depth : Nat} {w : World κ μ} {s t : Text}
    (hdepth : depth < maxDepth) (h : Alike (Twin F R) (pieces s) (pieces t))
    (hR : ∀ w s t, R s t → Run.Along T w (expandWithin respond fuel (depth + 1) s)
      (expandWithin respond (fuel + 1) (depth + 1) t)) :
    Run.Along T w (expandWithin respond (fuel + 1) depth s)
      (expandWithin respond (fuel + 2) depth t) := by
  have hl : (levelWithin respond fuel).Along T (levelWithin respond (fuel + 1)) :=
    levelWithin_along hT hr (Nat.le_succ fuel)
  have hempty : ∀ w, expandWithin respond (fuel + 1) (depth + 1) [] w = some ([], w) := by
    intro w
    rw [expandWithin, expandText, if_neg (Nat.not_lt.2 hdepth)]
    rfl
  show Run.Along T w (expandText respond (levelWithin respond fuel) depth s)
    (expandText respond (levelWithin respond (fuel + 1)) depth t)
  unfold expandText
  rw [if_neg (Nat.not_lt.2 hdepth.le), if_neg (Nat.not_lt.2 hdepth.le)]
  refine .bind hT.toSteps (expandPieces_alike hT.toReads hworld hl.expand
    (fun _ name _ => handOut_along hT (hr hl _ name _)) hR hempty h) ?_
  exact fun _ w' _ => .pure _

/-- **Texts that may stand for each other expand alike**, the second one within one more step of
nesting. -/
theorem expandWithin_interchange {R : Nat → Text → Text → Prop} (hR : Interchange F R)
    (fuel : Nat) {w : World κ μ} {depth : Nat} {s t : Text} (h : R depth s t) :
    Run.Along T w (expandWithin respond fuel depth s)
      (expandWithin respond (fuel + 1) depth t) := by
  induction fuel generalizing w depth s t with
  | zero => exact .exhausted
  | succ fuel ih =>
    rcases Nat.lt_trichotomy depth maxDepth with hdepth | rfl | hdepth
    · exact expandText_alike hT hworld hr hdepth (hR.read hdepth h) fun w s t h => ih h
    · obtain rfl := hR.deepest h
      exact (levelWithin_along hT hr (Nat.le_succ (fuel + 1))).expand w maxDepth s
    · show Run.Along T w (expandText respond _ depth s) (expandText respond _ depth t)
      unfold expandText
      rw [if_pos hdepth, if_pos hdepth]
      exact hT.toReads.failWith _ []

end

end Make

end MakeHost
