import MakeHost.Proofs.Guarded

/-!
# Texts that keep their references

That a text is separated (`DefineBlock.Separated`) is enough for it to be broken up without a change
of what it expands to, when its calls are spared and nothing is broken up too deep in it. For a text
without brackets it is needed too: where no variable has a name of one character, a keyword behind a
dollar sign that takes its first letter leaves a bracket when it is broken up, and the text itself
leaves none. So such a text is kept in all worlds exactly if it is separated
(`Host.keeps_iff_separated`).
-/

namespace MakeHost

variable {κ μ : Type}

namespace Make

variable {respond : Responder κ μ} {l : Level κ μ} {w : World κ μ} {depth : Nat} {s t : Text}
  {ps : List Piece}

/-! ## Pieces that expand to a character at most -/

/-- Pieces that need no variable but one with a name of one character. -/
inductive Idle : Piece → Prop
  | plain (c : Char) : Idle (.plain c)
  | hollow : Idle (.reference [])
  | single (c : Char) : Idle (.single c)
  | dangling : Idle .dangling

/-- What is left of pieces when every reference expands to nothing. -/
def residue : List Piece → Text
  | [] => []
  | .plain c :: ps => c :: residue ps
  | _ :: ps => residue ps

/-- A character is left of pieces if and only if it stands for itself in them. -/
theorem mem_residue {c : Char} : c ∈ residue ps ↔ .plain c ∈ ps := by
  induction ps with
  | nil => simp [residue]
  | cons p ps ih => cases p <;> simp [residue, ih]

/-- Where make runs and no variable has a name of one character, such pieces leave their residue and
change nothing. -/
theorem expandPieces_of_idle (hps : ∀ p ∈ ps, Idle p) (hw : w.NoUnnamed)
    (hrunning : w.make.stopped = false) (hsingle : ∀ c, w.make.bindings.get? [c] = none)
    (hl : l.expand (depth + 1) [] w = some ([], w)) :
    expandPieces respond l depth ps w = some (some (residue ps), w) := by
  induction ps with
  | nil => rfl
  | cons p ps ih =>
    have hrest := ih fun q hq => hps q (.tail p hq)
    have hback : ∀ front : Text, (Option.map (front ++ ·) <$> expandPieces respond l depth ps) w =
        some (some (front ++ residue ps), w) := by
      intro front
      rw [map_eq_pure_bind, Run.bind_of_eq_some hrest]
      rfl
    rw [expandPieces_of_running hrunning]
    cases hps p (.head ps) with
    | plain c =>
      rw [expandPiece, Run.bind_of_eq_some (Run.pure_apply _)]
      exact hback [c]
    | hollow =>
      rw [Run.bind_of_eq_some (expandPiece_hollow hw hl)]
      exact hback []
    | single c =>
      have hvariable : expandVariable l depth [c] w = some ([], w) := by
        rw [expandVariable, Run.bind_of_eq_some (Run.make_apply (w := w)), hsingle c]
        rfl
      have hpiece : expandPiece respond l depth (.single c) w = some (some [], w) := by
        rw [expandPiece, map_eq_pure_bind, Run.bind_of_eq_some hvariable]
        rfl
      rw [Run.bind_of_eq_some hpiece]
      exact hback []
    | dangling =>
      rw [expandPiece, Run.bind_of_eq_some (Run.pure_apply _)]
      exact hback []

/-- Expanding a text of such pieces. -/
theorem expandWithin_of_idle {fuel : Nat} (hps : ∀ p ∈ pieces s, Idle p) (hw : w.NoUnnamed)
    (hrunning : w.make.stopped = false) (hsingle : ∀ c, w.make.bindings.get? [c] = none)
    (hdepth : depth < maxDepth) :
    expandWithin respond (fuel + 2) depth s w = some (residue (pieces s), w) := by
  have hnil : (levelWithin respond (fuel + 1)).expand (depth + 1) [] w = some ([], w) := by
    show expandWithin respond (fuel + 1) (depth + 1) [] w = _
    rw [expandWithin, expandText, if_neg (Nat.not_lt.2 hdepth)]
    rfl
  show expandText respond (levelWithin respond (fuel + 1)) depth s w = _
  rw [expandText, if_neg (Nat.not_lt.2 hdepth.le)]
  rw [Run.bind_of_eq_some (expandPieces_of_idle hps hw hrunning hsingle hnil)]
  rfl

/-! ## Reading -/

/-- Where reading stands outside of brackets: behind a dollar sign that takes the next character for
a name, or not. -/
def scanOf (live : Bool) : Scan := if live then .dollar else .plain

/-- A character that is no bracket, read outside of brackets. -/
theorem piecesFrom_scanOf_cons {c : Char} (hc : c ≠ '(' ∧ c ≠ '\x7b') (live : Bool) (s : Text) :
    ∃ ps, piecesFrom (scanOf live) (c :: s) = ps ++ piecesFrom (scanOf (c == '$' && !live)) s ∧
      ∀ p ∈ ps, Idle p ∧ p ≠ .plain '(' := by
  by_cases hdollar : c = '$'
  · subst hdollar
    cases live with
    | false => exact ⟨[], rfl, List.forall_mem_nil _⟩
    | true =>
      refine ⟨[.plain '$'], rfl, fun p hp => ?_⟩
      obtain rfl := List.mem_singleton.1 hp
      exact ⟨.plain '$', by decide⟩
  · rw [beq_eq_false_iff_ne.2 hdollar]
    cases live with
    | false =>
      refine ⟨[.plain c], ?_, fun p hp => ?_⟩
      · show piecesFrom .plain (c :: s) = _
        rw [piecesFrom, if_neg hdollar]
        rfl
      · obtain rfl := List.mem_singleton.1 hp
        exact ⟨.plain c, by simpa using hc.1⟩
    | true =>
      refine ⟨[.single c], ?_, fun p hp => ?_⟩
      · show piecesFrom .dollar (c :: s) = _
        rw [piecesFrom, if_neg hdollar, if_neg hc.1, if_neg hc.2]
        rfl
      · obtain rfl := List.mem_singleton.1 hp
        exact ⟨.single c, by simp⟩

/-- A text without brackets leaves none. -/
theorem idle_of_notMem (hs : '(' ∉ s ∧ '\x7b' ∉ s) (live : Bool) :
    ∀ p ∈ piecesFrom (scanOf live) s, Idle p ∧ p ≠ .plain '(' := by
  induction s generalizing live with
  | nil =>
    cases live with
    | false => nofun
    | true =>
      intro p hp
      obtain rfl := List.mem_singleton.1 hp
      exact ⟨.dangling, nofun⟩
  | cons c s ih =>
    rw [List.mem_cons, not_or, List.mem_cons, not_or] at hs
    obtain ⟨ps, hread, hps⟩ := piecesFrom_scanOf_cons ⟨Ne.symm hs.1.1, Ne.symm hs.2.1⟩ live s
    rw [hread]
    intro p hp
    obtain hp | hp := List.mem_append.1 hp
    · exact hps p hp
    · exact ih ⟨hs.1.2, hs.2.2⟩ _ p hp

end Make

namespace DefineBlock

open Make

variable {s t front back word : Text}

/-- Whether a text ends in a dollar sign that takes the next character for a name, when one stands
before it or not. -/
def liveFrom (live : Bool) (s : Text) : Bool := s.foldl (fun live c => c == '$' && !live) live

/-- Behind a character that is no dollar sign nothing is taken for a name. -/
theorem liveFrom_of_notMem (h : '$' ∉ front) (hne : front ≠ []) (live : Bool) :
    liveFrom live front = false := by
  obtain rfl | ⟨f, c, rfl⟩ := List.eq_nil_or_concat front
  · exact absurd rfl hne
  · have hc : c ≠ '$' := by
      rintro rfl
      simp at h
    rw [liveFrom, List.concat_eq_append, List.foldl_append]
    simp [hc]

/-- An empty reference and the text that it is put before, read outside of brackets. -/
theorem piecesFrom_scanOf_hollow (hs : '$' ∉ s) (live : Bool) (t : Text) :
    ∃ ps, piecesFrom (scanOf live) ("$()" ++ (s ++ t)) = ps ++ piecesFrom .plain t ∧
      (∀ p ∈ ps, Idle p) ∧ (live = true → .plain '(' ∈ ps) := by
  have hplain : ∀ {s : Text}, ∀ p ∈ s.map Piece.plain, Idle p := by
    intro s p hp
    obtain ⟨c, -, rfl⟩ := List.mem_map.1 hp
    exact .plain c
  cases live with
  | false =>
    refine ⟨.reference [] :: s.map .plain, ?_, List.forall_mem_cons.2 ⟨.hollow, hplain⟩, nofun⟩
    exact congrArg (.reference [] :: ·) (Splice.piecesFrom_plain_append hs t)
  | true =>
    have hparens : '$' ∉ "()" ++ s := by simpa using hs
    refine ⟨.plain '$' :: ("()" ++ s).map .plain, ?_,
      List.forall_mem_cons.2 ⟨.plain '$', hplain⟩, fun _ => .tail _ (.head _)⟩
    exact congrArg (.plain '$' :: ·) (Splice.piecesFrom_plain_append hparens t)

/-- The pieces of a text without brackets that was broken up. -/
theorem Broken.idle (h : Broken false s t) (hs : '(' ∉ s ∧ '\x7b' ∉ s) (live : Bool) :
    ∀ p ∈ piecesFrom (scanOf live) t, Idle p := by
  have hcons : ∀ {c : Char} {t : Text} {live : Bool}, c ≠ '(' ∧ c ≠ '\x7b' →
      (∀ live, ∀ p ∈ piecesFrom (scanOf live) t, Idle p) →
        ∀ p ∈ piecesFrom (scanOf live) (c :: t), Idle p := by
    intro c t live hc ht
    obtain ⟨ps, hread, hps⟩ := piecesFrom_scanOf_cons hc live t
    rw [hread]
    exact List.forall_mem_append.2 ⟨fun p hp => (hps p hp).1, ht _⟩
  have hhollow : ∀ {s t : Text} {live : Bool}, '$' ∉ s →
      (∀ live, ∀ p ∈ piecesFrom (scanOf live) t, Idle p) →
        ∀ p ∈ piecesFrom (scanOf live) ("$()" ++ (s ++ t)), Idle p := by
    intro s t live hs ht
    obtain ⟨ps, hread, hps, -⟩ := piecesFrom_scanOf_hollow hs live t
    rw [hread]
    exact List.forall_mem_append.2 ⟨hps, ht false⟩
  have hnil : ∀ live, ∀ p ∈ piecesFrom (scanOf live) [], Idle p := fun live p hp =>
    (idle_of_notMem ⟨List.not_mem_nil, List.not_mem_nil⟩ live p hp).1
  induction h generalizing live with
  | nil => exact hnil live
  | define _ ih =>
    exact hhollow (s := "define") (by decide) (ih (by simpa using hs))
  | endef _ ih => exact hhollow (s := "endef") (by decide) (ih (by simpa using hs))
  | join _ ih =>
    refine hcons (c := '\\') (by decide) fun live => ?_
    exact hhollow (s := "\n") (by decide) (ih (by simpa using hs))
  | last =>
    refine hcons (c := '\\') (by decide) fun live => ?_
    exact hhollow (s := []) (by decide) hnil
  | dollar _ ih => exact hcons (by decide) (ih (by simpa using hs))
  | @plain c s t _ _ _ _ _ ih =>
    simp only [List.mem_cons, not_or] at hs
    exact hcons ⟨Ne.symm hs.1.1, Ne.symm hs.2.1⟩ (ih ⟨hs.1.2, hs.2.2⟩)

/-- Without dollar signs nothing comes to be taken for a name. -/
theorem liveFrom_false (h : '$' ∉ front) : liveFrom false front = false := by
  by_cases hne : front = []
  · rw [hne]
    rfl
  · exact liveFrom_of_notMem h hne false

/-- A keyword begins with one of two letters. -/
theorem IsKeyword.head (h : IsKeyword word) {c : Char} (heq : c :: s = word ++ back) :
    c = 'd' ∨ c = 'e' := by
  rcases h with rfl | rfl
  · exact .inl (List.cons_eq_cons.1 heq).1
  · exact .inr (List.cons_eq_cons.1 heq).1

/-- A bracket that is left behind one character is left. -/
theorem paren_mem_cons {c : Char} (hc : c ≠ '(' ∧ c ≠ '\x7b') {live : Bool}
    (h : .plain '(' ∈ piecesFrom (scanOf (c == '$' && !live)) t) :
    .plain '(' ∈ piecesFrom (scanOf live) (c :: t) := by
  obtain ⟨ps, hread, -⟩ := piecesFrom_scanOf_cons hc live t
  rw [hread]
  exact List.mem_append_right ps h

/-- A keyword that is broken up leaves a bracket when a dollar sign stands before it, and when one
stands before a keyword behind it. -/
theorem paren_mem_keyword {word' : Text} (hword' : IsKeyword word') {live : Bool}
    (heq : word' ++ s = front ++ (word ++ back)) (hlive : liveFrom live front = true)
    (ih : ∀ {front}, s = front ++ (word ++ back) → liveFrom false front = true →
      .plain '(' ∈ piecesFrom .plain t) :
    .plain '(' ∈ piecesFrom (scanOf live) ("$()" ++ (word' ++ t)) := by
  have hdollar : '$' ∉ word' := fun hc => hword'.forall (p := (· ≠ '$')) (by decide) _ hc rfl
  obtain ⟨ps, hread, -, hparen⟩ := piecesFrom_scanOf_hollow hdollar live t
  rw [hread]
  rcases append_cases heq with ⟨rest, -, rfl, -⟩ | ⟨f, rfl, hs⟩
  · cases live with
    | true => exact List.mem_append_left _ (hparen rfl)
    | false =>
      rw [liveFrom_false fun hc => hdollar (List.mem_append_left rest hc)] at hlive
      cases hlive
  · have hbehind : liveFrom live (word' ++ f) = liveFrom false f := by
      have hfalse := liveFrom_of_notMem hdollar hword'.ne_nil live
      unfold liveFrom at hfalse ⊢
      rw [List.foldl_append, hfalse]
    exact List.mem_append_right ps (ih hs (hbehind ▸ hlive))

/-- A keyword behind a dollar sign leaves a bracket when it is broken up. -/
theorem Broken.paren_mem (h : Broken false s t) (hs : '(' ∉ s ∧ '\x7b' ∉ s) {live : Bool}
    (hword : IsKeyword word) (heq : s = front ++ (word ++ back))
    (hlive : liveFrom live front = true) :
    .plain '(' ∈ piecesFrom (scanOf live) t := by
  induction h generalizing live front with
  | nil => simp [hword.ne_nil] at heq
  | define _ ih =>
    have hs := by simpa using hs
    exact paren_mem_keyword (.inl rfl) heq hlive fun hnext => ih hs hnext
  | endef _ ih =>
    have hs := by simpa using hs
    exact paren_mem_keyword (.inr rfl) heq hlive fun hnext => ih hs hnext
  | @join s t _ ih =>
    have hjoin : '\\' :: '\n' :: s = front ++ (word ++ back) := heq
    match front, hjoin, hlive with
    | [], hjoin, _ => exact absurd (hword.head hjoin) (by decide)
    | [c], hjoin, _ => exact absurd (hword.head (List.cons_eq_cons.1 hjoin).2) (by decide)
    | c :: d :: front, hjoin, hlive =>
      obtain ⟨rfl, hfeed⟩ := List.cons_eq_cons.1 hjoin
      obtain ⟨rfl, hbehind⟩ := List.cons_eq_cons.1 hfeed
      refine paren_mem_cons (c := '\\') (by decide) ?_
      obtain ⟨ps, hread, -⟩ := piecesFrom_scanOf_hollow (s := "\n") (by decide) false t
      refine hread ▸ List.mem_append_right ps ?_
      exact ih (by simpa using hs) hbehind hlive
  | last =>
    match front, heq with
    | [], heq => exact absurd (hword.head heq) (by decide)
    | c :: front, heq => simp [hword.ne_nil] at heq
  | dollar _ ih =>
    match front, heq, hlive with
    | [], heq, _ => exact absurd (hword.head heq) (by decide)
    | c :: front, heq, hlive =>
      obtain ⟨rfl, hbehind⟩ := List.cons_eq_cons.1 heq
      exact paren_mem_cons (by decide) (ih (by simpa using hs) hbehind hlive)
  | @plain c s t _ hdefine hendef _ _ ih =>
    match front, heq, hlive with
    | [], heq, _ =>
      have hbegins : word <+: c :: s := ⟨back, heq.symm⟩
      rcases hword with rfl | rfl
      · exact absurd hbegins hdefine
      · exact absurd hbegins hendef
    | d :: front, heq, hlive =>
      obtain ⟨rfl, hbehind⟩ := List.cons_eq_cons.1 heq
      simp only [List.mem_cons, not_or] at hs
      exact paren_mem_cons ⟨Ne.symm hs.1.1, Ne.symm hs.2.1⟩ (ih ⟨hs.1.2, hs.2.2⟩ hbehind hlive)

/-! ## Exactly the separated texts -/

/-- A text without brackets is read as it stands, and nothing is read in it. -/
theorem Part.of_notMem (hs : '(' ∉ s ∧ '\x7b' ∉ s) {k : Nat} {u : Text} (h : Part s k u) :
    k = 0 ∧ u = s ∨ u = [] := by
  have hinner : ∀ {k : Nat} {u inner : Text}, k = 0 ∧ u = s ∨ u = [] →
      .reference inner ∈ pieces u → inner = [] := by
    rintro k u inner (⟨-, rfl⟩ | rfl) hmem
    · obtain ⟨hidle, -⟩ := idle_of_notMem hs false _ hmem
      cases hidle
      rfl
    · cases hmem
  induction h with
  | self => exact .inl ⟨rfl, rfl⟩
  | inner _ hmem ih => exact .inr (hinner ih hmem)
  | arguments _ hmem hargs ih =>
    rw [hinner ih hmem] at hargs
    cases hargs
  | argument _ hmem harg ih =>
    rw [hinner ih hmem] at harg
    cases harg

/-- An empty text has no keyword to break up. -/
theorem not_breakable_nil : ¬ Breakable [] := fun h => by simpa using h.mem

/-- A text without brackets calls nothing. -/
theorem spares_of_notMem (hs : '(' ∉ s ∧ '\x7b' ∉ s) (name : Text) (policy : Policy) :
    Spares s name policy := by
  intro k u inner hpart hmem _ hbreakable
  obtain ⟨hk, -⟩ | rfl := Part.of_notMem hs (.inner hpart hmem)
  · cases hk
  · exact absurd hbreakable not_breakable_nil

/-- A text without an opening bracket is broken up nowhere too deep. -/
theorem shallow_of_notMem (hs : '(' ∉ s ∧ '\x7b' ∉ s) : Shallow s 0 := by
  intro k u hpart hk
  obtain ⟨rfl, -⟩ | rfl := hpart.of_notMem hs
  · cases hk
  · exact not_breakable_nil

end DefineBlock

/-- A text without brackets suits every reachable world. -/
theorem World.Reachable.suits {w : World κ μ} {s : Text} (hw : w.Reachable)
    (hs : '(' ∉ s ∧ '\x7b' ∉ s) : w.Suits s where
  noUnnamed := hw.sound.noUnnamed
  harmless name f hf := by
    have hname : '$' ∉ name := FunctionName.dollar_notMem ⟨name, (hw.sound.checked name f hf).1⟩
    exact ⟨hname, DefineBlock.spares_of_notMem hs name f.policy⟩

namespace Host

open DefineBlock

variable {host : Host κ μ} {s t : Text}

/-- In a fresh world nothing is left of a text but characters that stand for themselves. -/
theorem expand_fresh_of_idle (host : Host κ μ) (memory : μ)
    (ht : ∀ p ∈ Make.pieces t, Make.Idle p) :
    (host.level 2).expand 0 t (.fresh memory .attached) =
      some (Make.residue (Make.pieces t), .fresh memory .attached) := by
  have hdepth : 0 < Make.maxDepth := by decide
  have hw : (World.fresh memory .attached : World κ μ).NoUnnamed := ⟨rfl, rfl⟩
  have hexpand : Make.expandWithin host.responder 2 0 t (.fresh memory .attached) = _ :=
    Make.expandWithin_of_idle ht hw rfl (fun _ => rfl) hdepth
  exact hexpand

/-- **A text without brackets may be broken up exactly if it is separated.** The text is not to end
in a dollar sign that takes a backslash for a name. -/
theorem keeps_iff_separated (host : Host κ μ) (memory : μ) (hs : '(' ∉ s ∧ '\x7b' ∉ s)
    (hlast : ∀ front, s = front ++ "\\" → endsLive front = false) :
    (∀ w : World κ μ, w.Reachable → host.Keeps 0 s w) ↔ Separated s := by
  have hbroken := guarded_spec s
  constructor
  · intro h
    have hplain := expand_fresh_of_idle host memory fun p hp =>
      (Make.idle_of_notMem hs false p hp).1
    have hguarded := expand_fresh_of_idle host memory (hbroken.idle hs false)
    have hsame : Make.residue (Make.pieces s) = Make.residue (Make.pieces (guarded s)) :=
      congrArg Prod.fst ((h _ (.fresh memory)).eq hplain hguarded)
    have hnone : .plain '(' ∉ Make.pieces (guarded s) := by
      intro hparen
      have hmem : .plain '(' ∈ Make.pieces s :=
        Make.mem_residue.1 (hsame ▸ Make.mem_residue.2 hparen)
      exact (Make.idle_of_notMem hs false _ hmem).2 rfl
    refine ⟨fun front word back hword heq => ?_, hlast⟩
    cases hlive : endsLive front with
    | false => rfl
    | true =>
      have hlive : liveFrom false front = true := hlive
      exact absurd (hbroken.paren_mem hs hword heq hlive) hnone
  · intro hseparated w hw
    have hexports : host.Exports fun entry => entry.Suits s := fun code name args =>
      (Action.Exports.trivial _).mono fun entry _ => spares_of_notMem hs _ _
    exact expand_guarded hexports (hw.suits hs) hseparated (by decide) (shallow_of_notMem hs)

/-- **Text that was broken up keeps the meaning of its references**, expanded and stored, where it
is separated, every call in it is spared, and nothing is broken up too deep in it. A text without
brackets that does not end in a dollar sign with a backslash needs only be separated, and has to
be. -/
theorem guarded_keeps_references (host : Host κ μ) (s : Text) :
    (∀ w : World κ μ, host.Exports (fun entry => entry.Suits s) → w.Suits s → Separated s →
      (∀ depth, depth < Make.maxDepth → Shallow s depth → host.Keeps depth s w) ∧
      ∀ name, isLegalVariableName name = true → '\x00' ∉ name → '\x00' ∉ s → w.link = .attached →
        w.make.stopped = false →
        (w.make.bindings.get? name).map (·.origin) ≠ some .commandLine →
        (∀ fuel, Make.perform (host.level (fuel + 3)) (set name (.text s) .recursive).run w =
          some (.ok (), holding name s w)) ∧
        (Shallow s 1 → w.make.functions.get? name = none → ∀ result,
          (∃ fuel, (host.level fuel).expand 0 ("$(" ++ name ++ ")") (holding name s w) =
            some result) ↔ ∃ fuel, (host.level fuel).expand 1 s (holding name s w) = some result) ∧
        (Shallow s 0 → ∀ w', (∃ fuel, Make.perform (host.level fuel)
            (set name (.text s) .simple).run w = some (.ok (), w')) ↔
          ∃ a w₁, (∃ fuel, (host.level fuel).expand 0 s w = some (a, w₁)) ∧
            w' = { w₁ with make := w₁.make.setVariable name ⟨a, .simple, .file⟩ })) ∧
    (∀ _ : μ, '(' ∉ s → '\x7b' ∉ s → (∀ front, s = front ++ "\\" → endsLive front = false) →
      ((∀ w : World κ μ, w.Reachable → host.Keeps 0 s w) ↔ Separated s)) := by
  refine ⟨fun w hexports hw hs => ⟨fun depth hdepth hshallow =>
    expand_guarded hexports hw hs hdepth hshallow, ?_⟩, fun memory hparen hbrace hlast =>
    keeps_iff_separated host memory ⟨hparen, hbrace⟩ hlast⟩
  intro name hname hclean htext hattached hrunning horigin
  refine ⟨fun fuel => perform_set_recursive hname hclean hattached hrunning htext
    horigin, fun hshallow hfunction result => ?_, fun hshallow w' => ?_⟩
  · exact expand_holding_iff hexports hw hs hshallow hname hrunning hfunction result
  · exact perform_set_simple_iff hexports hw hs hshallow hname hclean htext hattached hrunning
      horigin

/-- A fresh world suits every text. -/
theorem fresh_suits (memory : μ) (link : Link) (s : Text) :
    (World.fresh memory link : World κ μ).Suits s := ⟨⟨rfl, rfl⟩, nofun⟩

/-- A host whose functions give back their first argument. -/
def echo : Host Unit Unit := ⟨.default, fun _ _ args => pure (.text (args.headD []))⟩

/-- A world with one function. -/
def withEcho (name : FunctionName) (policy : Policy) : World Unit Unit :=
  (World.fresh () .attached).enter ⟨name, (), .one, policy⟩

/-- A text with a keyword in the arguments of a call, one at the beginning of a line, and a
backslash at the end, expanded and stored; and a text without brackets that is not kept. -/
theorem guarded_keeps_references_call :
    (∃ result, (∃ fuel, (echo.level fuel).expand 0 (guarded "$(f define)\\\nendef\\")
        (withEcho ⟨"f", by decide⟩ .expand) = some result) ∧
      result.1 = "define\\\nendef\\".toList) ∧
    Make.perform (echo.level 3) (set "X" (.text "$(f define)\\\nendef\\".toList) .recursive).run
        (withEcho ⟨"f", by decide⟩ .expand) =
      some (.ok (), holding "X" "$(f define)\\\nendef\\" (withEcho ⟨"f", by decide⟩ .expand)) ∧
    ¬ ∀ w, w.Reachable → echo.Keeps 0 "$define" w := by
  have hexports : echo.Exports fun entry => entry.Suits "$(f define)\\\nendef\\" :=
    fun _ _ _ => .done _
  have hsuits : (withEcho ⟨"f", by decide⟩ .expand).Suits "$(f define)\\\nendef\\" := by
    refine (fresh_suits () .attached _).evolve (.single (.enter ?_))
    exact fun _ _ _ _ _ _ _ _ => ⟨fun hbreakable => by simpa using hbreakable.mem, rfl⟩
  obtain ⟨hexpand, hset⟩ := (guarded_keeps_references echo _).1 _ hexports hsuits (by decide)
  obtain ⟨hrecursive, -, -⟩ := hset "X" (by decide) (by decide) (by decide) rfl rfl (by decide)
  have hdone : ((echo.level 8).expand 0 "$(f define)\\\nendef\\"
      (withEcho ⟨"f", by decide⟩ .expand)).map (·.1) = some "define\\\nendef\\".toList := by
    decide +kernel
  obtain ⟨result, hresult, htext⟩ := Option.map_eq_some_iff.1 hdone
  have hshallow : Shallow "$(f define)\\\nendef\\" 0 := shallow_of_length (by decide)
  have hlive : ¬ Separated "$define" := by decide
  have hlast : ∀ front : Text, "$define".toList = front ++ "\\" → endsLive front = false := by
    intro front heq
    have hback : '\\' ∈ "$define".toList := heq ▸ List.mem_append_right front (.head _)
    exact absurd hback (by decide)
  have hkept := (guarded_keeps_references echo "$define").2 () (by decide) (by decide) hlast
  exact ⟨⟨result, (hexpand 0 (by decide) hshallow result).2 ⟨8, hresult⟩, htext⟩, hrecursive 0,
    fun h => hlive (hkept.1 h)⟩

/-- What a text expands to, and the message that make stops with. -/
def echoed (depth : Nat) (s : Text) (w : World Unit Unit) : Option (Text × Option Text) :=
  ((echo.level 8).expand depth s w).map fun result => (result.1, result.2.make.fatal)

/-- A text that does not come to the same when it is broken up is not kept. -/
theorem not_keeps_of_echoed {depth : Nat} {w : World Unit Unit} {a b : Text × Option Text}
    (htext : echoed depth s w = some a) (hguarded : echoed depth (guarded s) w = some b)
    (hne : a ≠ b) : ¬ echo.Keeps depth s w := by
  intro hkeeps
  obtain ⟨result, hresult, rfl⟩ := Option.map_eq_some_iff.1 htext
  obtain ⟨result', hresult', rfl⟩ := Option.map_eq_some_iff.1 hguarded
  obtain rfl := hkeeps.eq hresult hresult'
  exact hne rfl

/-- A keyword behind a single dollar sign gives its first letter for a name, and does not when it is
broken up. And although the texts are separated, these are not kept either: a call that is told its
arguments as they stand, one whose name is broken up, and a reference as deep as it may be. -/
theorem guarded_breaks_references :
    ¬ echo.Keeps 0 "$define" (.fresh () .attached) ∧
    (Separated "$(f define)" ∧
      ¬ echo.Keeps 0 "$(f define)" (withEcho ⟨"f", by decide⟩ .verbatim)) ∧
    (Separated "$(define x)" ∧
      ¬ echo.Keeps 0 "$(define x)" (withEcho ⟨"define", by decide⟩ .expand)) ∧
    (Separated "$(define)" ∧ ¬ echo.Keeps 199 "$(define)" (.fresh () .attached)) := by
  refine ⟨?_, ⟨by decide, ?_⟩, ⟨by decide, ?_⟩, by decide, ?_⟩
  · have htext : echoed 0 "$define" (.fresh () .attached) = some ("efine".toList, none) := by
      decide +kernel
    have hguarded : echoed 0 (guarded "$define") (.fresh () .attached) =
        some ("$()define".toList, none) := by decide +kernel
    exact not_keeps_of_echoed htext hguarded (by decide)
  · have htext : echoed 0 "$(f define)" (withEcho ⟨"f", by decide⟩ .verbatim) =
        some ("define".toList, none) := by decide +kernel
    have hguarded : echoed 0 (guarded "$(f define)") (withEcho ⟨"f", by decide⟩ .verbatim) =
        some ("$()define".toList, none) := by decide +kernel
    exact not_keeps_of_echoed htext hguarded (by decide)
  · have htext : echoed 0 "$(define x)" (withEcho ⟨"define", by decide⟩ .expand) =
        some ("x".toList, none) := by decide +kernel
    have hguarded : echoed 0 (guarded "$(define x)") (withEcho ⟨"define", by decide⟩ .expand) =
        some ([], none) := by decide +kernel
    exact not_keeps_of_echoed htext hguarded (by decide)
  · have htext : echoed 199 "$(define)" (.fresh () .attached) = some ([], none) := by
      decide +kernel
    have hguarded : echoed 199 (guarded "$(define)") (.fresh () .attached) =
        some ([], some "recursive variable references itself (eventually)".toList) := by
      decide +kernel
    exact not_keeps_of_echoed htext hguarded (by decide)

end Host

end MakeHost
