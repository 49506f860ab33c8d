import MakeHost.Proofs.CallSyntax
import MakeHost.Proofs.SharedNames

/-!
# Expanding two texts as one

The pieces of a text are those of a first part and those of the rest where reading ends with the
first part (`Make.Whole`): a reference looks for its closing bracket no further than it has to. So
expansion goes from the left to the right through both (`Make.expandPieces_append`), and two texts
that are expanded as one become what they become one after the other, unless the second one is cut
short (`Make.CutShort`): then nothing is left of the first one either (`Make.expand_append`).
-/

namespace MakeHost

namespace Make

variable {κ μ : Type} {w w' w₁ : World κ μ} {s t a : Text} {ps qs : List Piece} {p : Piece}

/-! ## Reading -/

/-- Reading the text ends with its last reference or character: no dollar sign stands alone at the
end, and every reference has its closing bracket. -/
def Whole (s : Text) : Prop := .dangling ∉ pieces s ∧ .unterminated ∉ pieces s

instance (s : Text) : Decidable (Whole s) := inferInstanceAs (Decidable (_ ∧ _))

/-- A piece that is complete. -/
def Piece.Complete (p : Piece) : Prop := p ≠ .dangling ∧ p ≠ .unterminated

/-- A character completes a piece, or reading is inside one behind it, whatever follows. -/
theorem exists_piecesFrom_cons (scan : Scan) (c : Char) :
    (∃ p : Piece, p.Complete ∧ ∀ rest, piecesFrom scan (c :: rest) = p :: piecesFrom .plain rest) ∨
    ∃ next, next ≠ .plain ∧ ∀ rest, piecesFrom scan (c :: rest) = piecesFrom next rest := by
  cases scan with
  | plain =>
    by_cases hc : c = '$'
    · exact .inr ⟨.dollar, by simp, fun _ => by rw [piecesFrom, if_pos hc]⟩
    · exact .inl ⟨.plain c, by simp [Piece.Complete], fun _ => by rw [piecesFrom, if_neg hc]⟩
  | dollar =>
    simp only [piecesFrom]
    by_cases hc : c = '$'
    · exact .inl ⟨.plain '$', by simp [Piece.Complete], fun _ => if_pos hc⟩
    by_cases hround : c = '('
    · exact .inr ⟨.inside '(' ')' 0 [], by simp, fun _ => by rw [if_neg hc, if_pos hround]⟩
    by_cases hcurly : c = '\x7b'
    · exact .inr ⟨.inside '\x7b' '\x7d' 0 [], by simp, fun _ => by
        rw [if_neg hc, if_neg hround, if_pos hcurly]⟩
    · exact .inl ⟨.single c, by simp [Piece.Complete], fun _ => by
        rw [if_neg hc, if_neg hround, if_neg hcurly]⟩
  | inside opening closing depth inner =>
    by_cases hopen : c = opening
    · refine .inr ⟨.inside opening closing (depth + 1) (c :: inner), by simp, fun _ => ?_⟩
      rw [piecesFrom.eq_def]
      exact if_pos hopen
    by_cases hclose : c = closing
    · cases depth with
      | zero =>
        refine .inl ⟨.reference inner.reverse, by simp [Piece.Complete], fun _ => ?_⟩
        rw [piecesFrom.eq_def]
        exact (if_neg hopen).trans (if_pos hclose)
      | succ depth =>
        refine .inr ⟨.inside opening closing depth (c :: inner), by simp, fun _ => ?_⟩
        rw [piecesFrom.eq_def]
        exact (if_neg hopen).trans (if_pos hclose)
    · refine .inr ⟨.inside opening closing depth (c :: inner), by simp, fun _ => ?_⟩
      rw [piecesFrom.eq_def]
      exact (if_neg hopen).trans (if_neg hclose)

/-- Reading completes pieces and goes on somewhere, whatever follows. -/
theorem exists_piecesFrom_append (scan : Scan) (s : Text) : ∃ ps scan',
    ∀ rest, piecesFrom scan (s ++ rest) = ps ++ piecesFrom scan' rest := by
  induction s generalizing scan with
  | nil => exact ⟨[], scan, fun _ => rfl⟩
  | cons c s ih =>
    obtain ⟨p, -, hc⟩ | ⟨next, -, hc⟩ := exists_piecesFrom_cons scan c
    · obtain ⟨ps, scan', hs⟩ := ih .plain
      exact ⟨p :: ps, scan', fun rest => by rw [List.cons_append, hc, hs, List.cons_append]⟩
    · obtain ⟨ps, scan', hs⟩ := ih next
      exact ⟨ps, scan', fun rest => by rw [List.cons_append, hc, hs]⟩

/-- **The pieces of two texts are those of the one and those of the other**, where reading the first
one ends with it. -/
theorem pieces_append (hs : Whole s) (t : Text) : pieces (s ++ t) = pieces s ++ pieces t := by
  obtain ⟨ps, scan, hread⟩ := exists_piecesFrom_append .plain s
  have hps : pieces s = ps ++ piecesFrom scan [] := by
    rw [pieces, ← hread, List.append_nil]
  cases scan with
  | plain =>
    rw [hps, pieces, hread]
    simp [piecesFrom, pieces]
  | dollar => exact absurd (by simp [hps, piecesFrom]) hs.1
  | inside => exact absurd (by simp [hps, piecesFrom]) hs.2

/-- What is left of a text begins with a piece that is cut off by the end of it, or a first part of
it is one complete piece. -/
theorem exists_first_piece {scan : Scan} (hs : scan ≠ .plain ∨ s ≠ []) :
    piecesFrom scan s = [.dangling] ∨ piecesFrom scan s = [.unterminated] ∨
    ∃ p first back, p.Complete ∧ first ≠ [] ∧ s = first ++ back ∧
      ∀ rest, piecesFrom scan (first ++ rest) = p :: piecesFrom .plain rest := by
  induction s generalizing scan with
  | nil =>
    cases scan with
    | plain => exact absurd rfl (hs.resolve_left (· rfl))
    | dollar => exact .inl rfl
    | inside => exact .inr (.inl rfl)
  | cons c s ih =>
    obtain ⟨p, hp, hc⟩ | ⟨next, hnext, hc⟩ := exists_piecesFrom_cons scan c
    · exact .inr (.inr ⟨p, [c], s, hp, List.cons_ne_nil c [], rfl, hc⟩)
    · rw [hc]
      obtain hend | hend | ⟨p, first, back, hp, -, rfl, hfirst⟩ := ih (.inl hnext)
      · exact .inl hend
      · exact .inr (.inl hend)
      · refine .inr (.inr ⟨p, c :: first, back, hp, List.cons_ne_nil c first, rfl, fun rest => ?_⟩)
        rw [List.cons_append, hc, hfirst]

/-- A text that is not empty has a piece. -/
theorem pieces_ne_nil (hs : s ≠ []) : pieces s ≠ [] := by
  have hplain : Scan.plain ≠ .plain ∨ s ≠ [] := .inr hs
  unfold pieces
  obtain hend | hend | ⟨p, first, back, -, -, rfl, hfirst⟩ := exists_first_piece hplain
  · rw [hend]
    exact List.cons_ne_nil _ _
  · rw [hend]
    exact List.cons_ne_nil _ _
  · rw [hfirst]
    exact List.cons_ne_nil _ _

/-! ## Expansion -/

section
variable {respond : Responder κ μ} {l : Level κ μ} {depth : Nat}

/-- What is put in front of pieces that are cut short is lost with them. -/
def inFront (x : Run κ μ (Option Text)) : Option Text → Run κ μ (Option Text)
  | none => pure none
  | some front => Option.map (front ++ ·) <$> x

/-- What is in front may be put there at once or in two parts. -/
theorem inFront_bind (front : Option Text) (x y : Run κ μ (Option Text)) :
    inFront (x >>= inFront y) front = inFront x front >>= inFront y := by
  cases front with
  | none => rfl
  | some front =>
    simp only [inFront, map_bind, bind_map_left]
    refine bind_congr fun middle => ?_
    cases middle with
    | none => rfl
    | some middle => simp [Function.comp_def]

/-- Text in front of what a run yields stands in front of it wherever there is a result. -/
theorem inFront_some_eq (front : Text) (x : Run κ μ (Option Text)) : inFront x (some front) w =
    (x w).map fun result => (result.1.map (front ++ ·), result.2) := by
  rw [inFront, map_eq_pure_bind, Run.bind_apply]
  cases x w <;> rfl

/-- Where make runs, a piece is expanded before those behind it. -/
theorem expandPieces_cons (hrunning : w.make.stopped = false) (p : Piece) (ps : List Piece) :
    expandPieces respond l depth (p :: ps) w =
      (expandPiece respond l depth p >>= inFront (expandPieces respond l depth ps)) w := by
  rw [expandPieces_of_running hrunning]
  refine congrFun (bind_congr fun front => ?_) w
  cases front <;> rfl

/-- Pieces are expanded one list after the other, unless the first one is cut short. -/
theorem expandPieces_append (ps qs : List Piece) : expandPieces respond l depth (ps ++ qs) =
    expandPieces respond l depth ps >>= inFront (expandPieces respond l depth qs) := by
  induction ps with
  | nil => exact (map_nil_append _).symm
  | cons p ps ih =>
    funext w
    cases hstopped : w.make.stopped with
    | true =>
      rw [Run.bind_of_eq_some (expandPieces_of_stopped hstopped (List.cons_ne_nil p ps))]
      exact expandPieces_of_stopped hstopped (List.cons_ne_nil p (ps ++ qs))
    | false =>
      rw [List.cons_append, expandPieces_cons hstopped, ih,
        Run.bind_apply (expandPieces respond l depth (p :: ps)), expandPieces_cons hstopped,
        ← Run.bind_apply, bind_assoc]
      exact congrFun (bind_congr fun front => inFront_bind front _ _) w

/-- Nothing but a reference without its closing bracket cuts an expansion short by itself. -/
theorem expandPiece_eq_none (h : expandPiece respond l depth p w = some (none, w')) :
    p = .unterminated ∧ w'.make.stopped = true := by
  cases p with
  | plain | dangling => cases h
  | reference | single =>
    rw [expandPiece, map_eq_pure_bind] at h
    obtain ⟨_, _, -, h⟩ := Run.bind_eq_some.1 h
    cases h
  | unterminated =>
    cases h
    exact ⟨rfl, State.stopped_fail⟩

/-- Where make is after pieces that were cut short, it is stopped. -/
theorem stopped_of_expandPieces (h : expandPieces respond l depth ps w = some (none, w')) :
    w'.make.stopped = true := by
  induction ps generalizing w with
  | nil => cases h
  | cons p ps ih =>
    cases hstopped : w.make.stopped with
    | true =>
      rw [expandPieces_of_stopped hstopped (List.cons_ne_nil p ps)] at h
      cases h
      exact hstopped
    | false =>
      rw [expandPieces_cons hstopped] at h
      obtain ⟨front, w₁, hpiece, hrest⟩ := Run.bind_eq_some.1 h
      cases front with
      | none =>
        cases hrest
        exact (expandPiece_eq_none hpiece).2
      | some front =>
        rw [inFront_some_eq] at hrest
        obtain ⟨⟨back, w₂⟩, hback, hresult⟩ := Option.map_eq_some_iff.1 hrest
        obtain ⟨hnone, rfl⟩ := Prod.mk.inj hresult
        cases Option.map_eq_none_iff.1 hnone
        exact ih hback

end

/-! ## Texts that are cut short -/

variable {respond : Responder κ μ} {fuel depth : Nat}

/-- The expansion of a text is cut short: a first part that is read in full leaves make stopped when
there is more of the text, or running before a reference without its closing bracket. -/
def CutShort (l : Level κ μ) (depth : Nat) (s : Text) (w : World κ μ) : Prop :=
  ∃ front back, s = front ++ back ∧ Whole front ∧ ∃ a w', l.expand depth front w = some (a, w') ∧
    (w'.make.stopped = true ∧ back ≠ [] ∨
      w'.make.stopped = false ∧ pieces back = [.unterminated])

/-- Expanding a text is expanding its pieces, and nothing when they are cut short. -/
theorem expand_eq (hdepth : depth ≤ maxDepth) (s : Text) (w : World κ μ) :
    (levelWithin respond (fuel + 1)).expand depth s w =
      (expandPieces respond (levelWithin respond fuel) depth (pieces s) w).map fun result =>
        (result.1.getD [], result.2) := by
  show expandText respond (levelWithin respond fuel) depth s w = _
  rw [expandText, if_neg (Nat.not_lt.2 hdepth), Run.bind_apply]
  cases expandPieces respond (levelWithin respond fuel) depth (pieces s) w <;> rfl

/-- A text stays cut short behind a complete piece. -/
theorem CutShort.behind {first back front : Text} (hdepth : depth ≤ maxDepth) (hp : p.Complete)
    (hread : ∀ rest, pieces (first ++ rest) = p :: pieces rest) (hrunning : w.make.stopped = false)
    (hpiece : expandPiece respond (levelWithin respond fuel) depth p w = some (some front, w₁))
    (h : CutShort (levelWithin respond (fuel + 1)) depth back w₁) :
    CutShort (levelWithin respond (fuel + 1)) depth (first ++ back) w := by
  obtain ⟨middle, back, rfl, hwhole, a, w₂, hmiddle, hback⟩ := h
  rw [expand_eq hdepth] at hmiddle
  obtain ⟨⟨result, w₂⟩, hpieces, hresult⟩ := Option.map_eq_some_iff.1 hmiddle
  obtain ⟨-, rfl⟩ := Prod.mk.inj hresult
  refine ⟨first ++ middle, back, (List.append_assoc ..).symm, ?_,
    (result.map (front ++ ·)).getD [], w₂, ?_, hback⟩
  · unfold Whole
    rw [hread, List.mem_cons, List.mem_cons, not_or, not_or]
    exact ⟨⟨hp.1.symm, hwhole.1⟩, hp.2.symm, hwhole.2⟩
  · rw [expand_eq hdepth, hread, expandPieces_cons hrunning, Run.bind_of_eq_some hpiece,
      inFront_some_eq, hpieces]
    rfl

/-- A text is cut short where its pieces are. -/
theorem cutShort_of_expandPieces (hdepth : depth ≤ maxDepth)
    (h : expandPieces respond (levelWithin respond fuel) depth (pieces s) w = some (none, w')) :
    CutShort (levelWithin respond (fuel + 1)) depth s w := by
  have hnil : ∀ w : World κ μ, (levelWithin respond (fuel + 1)).expand depth [] w = some ([], w) :=
    expand_eq hdepth []
  induction hn : s.length using Nat.strong_induction_on generalizing s w with
  | _ n ih =>
    have hne : s ≠ [] := by
      rintro rfl
      cases h
    cases hstopped : w.make.stopped with
    | true => exact ⟨[], s, rfl, by decide, [], w, hnil w, .inl ⟨hstopped, hne⟩⟩
    | false =>
      have hplain : Scan.plain ≠ .plain ∨ s ≠ [] := .inr hne
      obtain hend | hend | ⟨p, first, back, hp, hfirst, rfl, hread⟩ := exists_first_piece hplain
      · rw [pieces, hend, expandPieces_cons hstopped] at h
        cases h
      · exact ⟨[], s, rfl, by decide, [], w, hnil w, .inr ⟨hstopped, hend⟩⟩
      · rw [pieces, hread, expandPieces_cons hstopped] at h
        obtain ⟨front, w₁, hpiece, hrest⟩ := Run.bind_eq_some.1 h
        cases front with
        | none => exact absurd (expandPiece_eq_none hpiece).1 hp.2
        | some front =>
          rw [inFront_some_eq] at hrest
          obtain ⟨⟨result, w₂⟩, hback, hresult⟩ := Option.map_eq_some_iff.1 hrest
          obtain ⟨hnone, rfl⟩ := Prod.mk.inj hresult
          cases Option.map_eq_none_iff.1 hnone
          have hlength : back.length < n := by
            rw [← hn, List.length_append]
            exact Nat.lt_add_of_pos_left (List.length_pos_of_ne_nil hfirst)
          exact (ih back.length hlength hback rfl).behind hdepth hp hread hstopped hpiece

/-- The pieces of a text that is cut short are. -/
theorem expandPieces_of_cutShort (hdepth : depth ≤ maxDepth)
    (h : CutShort (levelWithin respond (fuel + 1)) depth s w) : ∃ w',
    expandPieces respond (levelWithin respond fuel) depth (pieces s) w = some (none, w') := by
  obtain ⟨front, back, rfl, hwhole, a, w₁, hfront, hback⟩ := h
  rw [expand_eq hdepth] at hfront
  obtain ⟨⟨first, w₂⟩, hpieces, hresult⟩ := Option.map_eq_some_iff.1 hfront
  obtain ⟨-, rfl⟩ := Prod.mk.inj hresult
  rw [pieces_append hwhole, expandPieces_append, Run.bind_of_eq_some hpieces]
  cases first with
  | none => exact ⟨w₂, rfl⟩
  | some first =>
    rw [inFront_some_eq]
    obtain ⟨hstopped, hne⟩ | ⟨hrunning, hend⟩ := hback
    · rw [expandPieces_of_stopped hstopped (pieces_ne_nil hne)]
      exact ⟨w₂, rfl⟩
    · rw [hend, expandPieces_cons hrunning]
      exact ⟨_, rfl⟩

/-- A text is cut short if and only if its pieces are. -/
theorem cutShort_iff (hdepth : depth ≤ maxDepth) :
    CutShort (levelWithin respond (fuel + 1)) depth s w ↔ ∃ w',
      expandPieces respond (levelWithin respond fuel) depth (pieces s) w = some (none, w') :=
  ⟨expandPieces_of_cutShort hdepth, fun ⟨_, h⟩ => cutShort_of_expandPieces hdepth h⟩

/-- Where make runs afterwards, the pieces of a text were not cut short. -/
theorem expandPieces_of_running_after (hdepth : depth ≤ maxDepth)
    (h : (levelWithin respond (fuel + 1)).expand depth s w = some (a, w'))
    (hrunning : w'.make.stopped = false) :
    expandPieces respond (levelWithin respond fuel) depth (pieces s) w = some (some a, w') := by
  rw [expand_eq hdepth] at h
  obtain ⟨⟨result, w₁⟩, hpieces, hresult⟩ := Option.map_eq_some_iff.1 h
  obtain ⟨rfl, rfl⟩ := Prod.mk.inj hresult
  cases result with
  | none => exact absurd (stopped_of_expandPieces hpieces) (Bool.eq_false_iff.1 hrunning)
  | some front => exact hpieces

/-- **Expansion goes from the left to the right through two texts.** In every world, where reading
the first text ends with it and its expansion does not stop make, expanding both as one leaves make
and all else as expanding the second one after the first does, and has no result if that has none.
The expansion is that of the first one and behind it that of the second one, unless the second one
is cut short: then make is stopped, and nothing is left of either. -/
theorem expand_append (hs : Whole s) (hdepth : depth ≤ maxDepth)
    (hfirst : (levelWithin respond fuel).expand depth s w = some (a, w₁))
    (hgoes : w₁.make.stopped = true → w.make.stopped = true) (t : Text) :
    (¬ CutShort (levelWithin respond fuel) depth t w₁ →
      (levelWithin respond fuel).expand depth (s ++ t) w =
        ((levelWithin respond fuel).expand depth t w₁).map fun result =>
          (a ++ result.1, result.2)) ∧
    (CutShort (levelWithin respond fuel) depth t w₁ → ∃ w₂, w₂.make.stopped = true ∧
      (levelWithin respond fuel).expand depth t w₁ = some ([], w₂) ∧
      (levelWithin respond fuel).expand depth (s ++ t) w = some ([], w₂)) := by
  cases fuel with
  | zero => cases hfirst
  | succ fuel =>
    cases hstart : w.make.stopped with
    | true =>
      have hnothing : ∀ text,
          (levelWithin respond (fuel + 1)).expand depth text w = some ([], w) := fun _ =>
        expandWithin_of_stopped hstart hdepth
      cases (hnothing s).symm.trans hfirst
      rw [hnothing, hnothing]
      exact ⟨fun _ => rfl, fun _ => ⟨w, hstart, rfl, rfl⟩⟩
    | false =>
      have hrunning : w₁.make.stopped = false := by
        rw [Bool.eq_false_iff]
        exact fun hstopped => Bool.eq_false_iff.1 hstart (hgoes hstopped)
      have hpieces := expandPieces_of_running_after hdepth hfirst hrunning
      rw [cutShort_iff hdepth, expand_eq hdepth t, expand_eq hdepth (s ++ t), pieces_append hs,
        expandPieces_append, Run.bind_of_eq_some hpieces, inFront_some_eq]
      cases hsecond : expandPieces respond (levelWithin respond fuel) depth (pieces t) w₁ with
      | none => exact ⟨fun _ => rfl, fun ⟨_, h⟩ => nomatch h⟩
      | some result =>
        obtain ⟨back, w₂⟩ := result
        cases back with
        | none =>
          exact ⟨fun hnot => absurd ⟨w₂, rfl⟩ hnot,
            fun _ => ⟨w₂, stopped_of_expandPieces hsecond, rfl, rfl⟩⟩
        | some back => exact ⟨fun _ => rfl, fun ⟨_, h⟩ => nomatch h⟩

end Make

namespace Host

open Make (Whole CutShort)

/-- Behind a call that was handed out, a text whose expansion prints a line, and one that is cut
short. -/
theorem expand_append_called : ∃ w₁,
    Whole "a$(pair b,c)" ∧ 0 ≤ Make.maxDepth ∧
    (recipes.level 4).expand 0 "a$(pair b,c)" withPairing = some ("ab|c".toList, w₁) ∧
    w₁.make.calls = 1 ∧ w₁.make.stopped = false ∧
    ¬ CutShort (recipes.level 4) 0 "$(info d)e" w₁ ∧
    (recipes.level 4).expand 0 ("a$(pair b,c)" ++ "$(info d)e") withPairing =
      ((recipes.level 4).expand 0 "$(info d)e" w₁).map (fun result =>
        ("ab|c".toList ++ result.1, result.2)) ∧
    CutShort (recipes.level 4) 0 "$(error x)e" w₁ ∧
    ∃ w₂, (recipes.level 4).expand 0 ("a$(pair b,c)" ++ "$(error x)e") withPairing =
      some ([], w₂) := by
  have hrun : ((recipes.level 4).expand 0 "a$(pair b,c)" withPairing).map (fun result =>
      (result.1, result.2.make.calls, result.2.make.stopped)) =
        some ("ab|c".toList, 1, false) := by decide +kernel
  obtain ⟨⟨a, w₁⟩, hfirst, hresult⟩ := Option.map_eq_some_iff.1 hrun
  obtain ⟨rfl, hcalls, hrunning⟩ := by simpa only [Prod.mk.injEq] using hresult
  have hwhole : Whole "a$(pair b,c)" := by decide
  have hgoes : w₁.make.stopped = true → withPairing.make.stopped = true := fun hstopped =>
    absurd hstopped (Bool.eq_false_iff.1 hrunning)
  have hprinted : (((recipes.level 4).expand 0 "a$(pair b,c)" >>= fun _ =>
      (recipes.level 4).expand 0 "$(info d)e") withPairing).map (·.1) = some "e".toList := by
    decide +kernel
  have hstopped : (((recipes.level 4).expand 0 "a$(pair b,c)" >>= fun _ =>
      (recipes.level 4).expand 0 "$(error x)") withPairing).map (·.2.make.stopped) = some true := by
    decide +kernel
  rw [Run.bind_of_eq_some hfirst] at hprinted hstopped
  obtain ⟨happend, hcut⟩ := Make.expand_append hwhole (Nat.zero_le _) hfirst hgoes "$(info d)e"
  have hnot : ¬ CutShort (recipes.level 4) 0 "$(info d)e" w₁ := by
    intro hshort
    obtain ⟨w₂, -, hnothing, -⟩ := hcut hshort
    change (recipes.level 4).expand 0 "$(info d)e" w₁ = some ([], w₂) at hnothing
    rw [hnothing] at hprinted
    cases hprinted
  obtain ⟨⟨b, w'⟩, herror, hstops⟩ := Option.map_eq_some_iff.1 hstopped
  have hshort : CutShort (recipes.level 4) 0 "$(error x)e" w₁ :=
    ⟨"$(error x)", "e", rfl, by decide, b, w', herror, .inl ⟨hstops, by decide⟩⟩
  obtain ⟨w₂, -, -, hlost⟩ :=
    (Make.expand_append hwhole (Nat.zero_le _) hfirst hgoes "$(error x)e").2 hshort
  exact ⟨w₁, hwhole, Nat.zero_le _, hfirst, hcalls, hrunning, hnot, happend hnot, hshort, w₂, hlost⟩

/-- An error in the second text takes the first one away. -/
theorem expand_not_append :
    Whole "a" ∧
    (quiet.level 3).expand 0 "a" (.fresh () .attached) = some ("a".toList, .fresh () .attached) ∧
    (World.fresh () .attached : World Unit Unit).make.stopped = false ∧
    ((quiet.level 3).expand 0 ("a" ++ "$(error x)b") (.fresh () .attached)).map (·.1) ≠
      ((quiet.level 3).expand 0 "$(error x)b" (.fresh () .attached)).map ("a".toList ++ ·.1) := by
  refine ⟨by decide, rfl, rfl, ?_⟩
  decide +kernel

end Host

end MakeHost
