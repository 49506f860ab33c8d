import MakeHost.Proofs.Block
import MakeHost.Proofs.Interchange

/-!
# Empty references in a text

`DefineBlock.Splice` says that one text is another with references to the variable without a name
put in where a block needs them, and none right behind a dollar sign that takes the next character
for a name. A splice does not come between the parts that make reads a text in: the arguments of a
spliced call are the spliced arguments of the call (`Splice.splitArguments`), and the pieces of a
spliced text are the text's, with empty references before some of them and their own references
spliced (`Splice.pieces`).
-/

namespace MakeHost

namespace DefineBlock

open Make

variable {b b' b'' : Bool} {s s' t t' word : Text}

/-- `t` is `s` with empty references put in. The first flag says whether a dollar sign that takes
the next character for a name stands before the texts, the last one whether they end in one. -/
inductive Splice : Bool → Text → Text → Bool → Prop
  | nil (b : Bool) : Splice b [] [] b
  | keep (c : Char) {b b' : Bool} {s t : Text} :
      Splice (c == '$' && !b) s t b' → Splice b (c :: s) (c :: t) b'
  | keyword {word s t : Text} {b' : Bool} : IsKeyword word → Splice false s t b' →
      Splice false (word ++ s) ("$()" ++ (word ++ t)) b'
  | join {b b' : Bool} {s t : Text} : Splice false s t b' →
      Splice b ("\\\n" ++ s) ("\\$()\n" ++ t) b'

/-- A whole text and what a splice makes of it. -/
def Spliced (s t : Text) : Prop := ∃ b, Splice false s t b

/-- A text in which a splice may put something. -/
def Breakable (s : Text) : Prop :=
  "define".toList <:+: s ∨ "endef".toList <:+: s ∨ "\\\n".toList <:+: s

/-- A text is breakable when a part of it is. -/
theorem Breakable.mono (h : Breakable s) (hs : s <:+: t) : Breakable t :=
  h.imp (·.trans hs) (Or.imp (·.trans hs) (·.trans hs))

/-- What holds of the characters of both keywords holds of those of each. -/
theorem IsKeyword.forall (h : IsKeyword word) {p : Char → Prop}
    (hp : ∀ c ∈ "defin".toList, p c) : ∀ c ∈ word, p c := by
  intro c hc
  refine hp c ?_
  rcases h with rfl | rfl <;> revert c <;> decide

/-- A keyword is not empty. -/
theorem IsKeyword.ne_nil (h : IsKeyword word) : word ≠ [] := by
  rcases h with rfl | rfl <;> nofun

/-! ## Parts of a splice -/

namespace Splice

/-- Splices are put together where the first one ends. -/
theorem append (h : Splice b s t b') (h' : Splice b' s' t' b'') :
    Splice b (s ++ s') (t ++ t') b'' := by
  induction h with
  | nil => exact h'
  | keep c _ ih => exact .keep c (ih h')
  | keyword hword _ ih =>
    rw [List.append_assoc, List.append_assoc, List.append_assoc]
    exact .keyword hword (ih h')
  | join _ ih =>
    rw [List.append_assoc, List.append_assoc]
    exact .join (ih h')

/-- Where something was put in there is a place for it, and there is a dollar sign then. -/
theorem eq_or_breakable (h : Splice b s t b') : s = t ∨ Breakable s ∧ '$' ∈ t := by
  induction h with
  | nil => exact .inl rfl
  | @keep c _ _ s t _ ih =>
    rcases ih with rfl | ⟨hs, ht⟩
    · exact .inl rfl
    · exact .inr ⟨hs.mono (List.suffix_cons c s).isInfix, .tail c ht⟩
  | @keyword word s t _ hword _ _ =>
    refine .inr ⟨?_, .head _⟩
    rcases hword with rfl | rfl
    · exact .inl (List.prefix_append _ s).isInfix
    · exact .inr (.inl (List.prefix_append _ s).isInfix)
  | @join _ _ s t _ _ =>
    exact .inr ⟨.inr (.inr (List.prefix_append _ s).isInfix), List.mem_append_left _ (by decide)⟩

/-- Nothing is put into nothing. -/
theorem nil_iff (h : Splice b s t b') : s = [] ↔ t = [] := by
  cases h with
  | nil => exact Iff.rfl
  | keep => simp
  | keyword hword => simp [hword.ne_nil]
  | join => simp

/-! ## Calls -/

/-- A splice goes on behind a first part whose characters satisfy `p`, as everything does that is
put in and what it is put into. -/
theorem takeWhile_dropWhile {p : Char → Bool} (hp : ∀ c ∈ "$()defin\\\n".toList, p c = true)
    (h : Splice b s t b') : ∃ c, Splice b (s.takeWhile p) (t.takeWhile p) c ∧
      Splice c (s.dropWhile p) (t.dropWhile p) b' := by
  induction h with
  | nil b => exact ⟨b, .nil b, .nil b⟩
  | @keep c b b' s t h ih =>
    by_cases hc : p c = true
    · obtain ⟨d, htake, hdrop⟩ := ih
      refine ⟨d, ?_, ?_⟩
      · rw [List.takeWhile_cons_of_pos hc, List.takeWhile_cons_of_pos hc]
        exact .keep c htake
      · rw [List.dropWhile_cons_of_pos hc, List.dropWhile_cons_of_pos hc]
        exact hdrop
    · refine ⟨b, ?_, ?_⟩
      · rw [List.takeWhile_cons_of_neg hc, List.takeWhile_cons_of_neg hc]
        exact .nil b
      · rw [List.dropWhile_cons_of_neg hc, List.dropWhile_cons_of_neg hc]
        exact .keep c h
  | @keyword word s t b' hword _ ih =>
    have hpart : ∀ c ∈ word, p c = true := hword.forall fun c hc => hp c (by revert hc; simp; grind)
    have hhollow : ∀ c ∈ "$()".toList, p c = true := fun c hc => hp c (by revert hc; simp; grind)
    obtain ⟨d, htake, hdrop⟩ := ih
    refine ⟨d, ?_, ?_⟩
    · rw [List.takeWhile_append_of_pos hpart, List.takeWhile_append_of_pos hhollow,
        List.takeWhile_append_of_pos hpart]
      exact .keyword hword htake
    · rw [List.dropWhile_append_of_pos hpart, List.dropWhile_append_of_pos hhollow,
        List.dropWhile_append_of_pos hpart]
      exact hdrop
  | @join b b' s t _ ih =>
    have hpart : ∀ c ∈ "\\\n".toList, p c = true := fun c hc => hp c (by revert hc; simp; grind)
    have hpart' : ∀ c ∈ "\\$()\n".toList, p c = true := fun c hc => hp c (by revert hc; simp; grind)
    obtain ⟨d, htake, hdrop⟩ := ih
    refine ⟨d, ?_, ?_⟩
    · rw [List.takeWhile_append_of_pos hpart, List.takeWhile_append_of_pos hpart']
      exact .join htake
    · rw [List.dropWhile_append_of_pos hpart, List.dropWhile_append_of_pos hpart']
      exact hdrop

/-- A splice goes on behind a gap in front. -/
theorem dropGap (h : Splice b s t b') (hb : b = false ∨ s.head?.any isGap = true) :
    Splice false (s.dropWhile isGap) (t.dropWhile isGap) b' := by
  induction h with
  | nil b =>
    obtain rfl : b = false := hb.resolve_right nofun
    exact .nil false
  | @keep c b b' s t h ih =>
    by_cases hgap : isGap c = true
    · have hne : (c == '$') = false := by
        rw [beq_eq_false_iff_ne]
        rintro rfl
        cases hgap
      rw [List.dropWhile_cons_of_pos hgap, List.dropWhile_cons_of_pos hgap]
      exact ih (.inl (by rw [hne]; rfl))
    · obtain rfl : b = false := hb.resolve_right hgap
      rw [List.dropWhile_cons_of_neg hgap, List.dropWhile_cons_of_neg hgap]
      exact .keep c h
  | keyword hword h _ =>
    rcases hword with rfl | rfl
    · exact .keyword (.inl rfl) h
    · exact .keyword (.inr rfl) h
  | join h _ => exact .join h

/-- The head and the arguments of a spliced call. -/
theorem headAndArguments (h : Splice false s t b') :
    Spliced (headAndArguments s).1 (headAndArguments t).1 ∧
      Option.Rel Spliced (headAndArguments s).2 (headAndArguments t).2 := by
  obtain ⟨c, htake, hdrop⟩ := h.takeWhile_dropWhile (p := (!isGap ·)) (by decide)
  unfold Make.headAndArguments
  cases hs : s.dropWhile (!isGap ·) with
  | nil =>
    rw [hdrop.nil_iff.1 hs]
    exact ⟨⟨b', h⟩, .none⟩
  | cons gap rest =>
    obtain ⟨gap', rest', ht⟩ := List.exists_cons_of_ne_nil fun ht => absurd (hdrop.nil_iff.2 ht)
      (hs ▸ List.cons_ne_nil gap rest)
    rw [ht]
    refine ⟨⟨c, htake⟩, .some ⟨b', ?_⟩⟩
    have hgap : isGap gap = true := by
      have hhead := List.head?_dropWhile_not (!isGap ·) s
      rw [hs] at hhead
      simpa using hhead
    rw [hs, ht] at hdrop
    exact hdrop.dropGap (.inr hgap)
/-! ## Arguments -/

/-- A text before the first of some texts. -/
def prepend (s : Text) : List Text → List Text
  | [] => [s]
  | arg :: args => (s ++ arg) :: args

/-- Lists of texts of which the first begin behind a dollar sign or not, as the flag says. -/
def SplicedFrom (b : Bool) : List Text → List Text → Prop
  | s :: args, t :: args' => (∃ b', Splice b s t b') ∧ List.Forall₂ Spliced args args'
  | _, _ => False

/-- Spliced arguments are arguments that are spliced one by one. -/
theorem SplicedFrom.forall₂ {args args' : List Text} (h : SplicedFrom false args args') :
    List.Forall₂ Spliced args args' := by
  match args, args', h with
  | _ :: _, _ :: _, ⟨h, hrest⟩ => exact .cons h hrest

/-- What is put before the first texts may belong to the splice. -/
theorem SplicedFrom.prepend {args args' : List Text} (h : Splice b s t b')
    (hargs : SplicedFrom b' args args') :
    SplicedFrom b (Splice.prepend s args) (Splice.prepend t args') := by
  match args, args', hargs with
  | _ :: _, _ :: _, ⟨⟨c, hfirst⟩, hrest⟩ => exact ⟨⟨c, h.append hfirst⟩, hrest⟩

/-- One character of an argument or a comma. -/
theorem splitArgumentsFrom_cons (depth : Nat) (cuts : Option Nat) (c : Char) (s : Text) :
    splitArgumentsFrom depth cuts (c :: s) =
      if c = ',' ∧ depth = 0 ∧ cuts ≠ some 0 then
        [] :: splitArgumentsFrom 0 (cuts.map (· - 1)) s
      else prepend [c] (splitArgumentsFrom (if c = '(' ∨ c = '\x7b' then depth + 1
        else if c = ')' ∨ c = '\x7d' then depth - 1 else depth) cuts s) := by
  rw [splitArgumentsFrom]
  split
  · rfl
  · dsimp only
    split
    · next hnil => rw [hnil]; rfl
    · next hcons => rw [hcons]; rfl

/-- Texts are put in front one behind the other. -/
@[simp] theorem prepend_prepend (s t : Text) (args : List Text) :
    prepend s (prepend t args) = prepend (s ++ t) args := by
  cases args <;> simp [prepend]

/-- There is an argument always. -/
theorem prepend_nil_splitArgumentsFrom (depth : Nat) (cuts : Option Nat) (s : Text) :
    prepend [] (splitArgumentsFrom depth cuts s) = splitArgumentsFrom depth cuts s := by
  cases s with
  | nil => rfl
  | cons c s =>
    rw [splitArgumentsFrom_cons]
    split
    · rfl
    · rw [prepend_prepend]
      rfl

/-- A text without commas and brackets belongs to the first argument. -/
theorem splitArgumentsFrom_append {depth : Nat} {cuts : Option Nat}
    (h : ∀ c ∈ s, c ∉ ",()\x7b\x7d".toList) : splitArgumentsFrom depth cuts (s ++ t) =
      prepend s (splitArgumentsFrom depth cuts t) := by
  induction s with
  | nil => exact (prepend_nil_splitArgumentsFrom depth cuts t).symm
  | cons c s ih =>
    have hc : c ≠ ',' ∧ c ≠ '(' ∧ c ≠ ')' ∧ c ≠ '\x7b' ∧ c ≠ '\x7d' := by
      simpa using h c List.mem_cons_self
    rw [List.cons_append, splitArgumentsFrom_cons, if_neg (fun hcomma => hc.1 hcomma.1),
      if_neg (by simp [hc]), if_neg (by simp [hc]),
      ih fun d hd => h d (List.mem_cons_of_mem c hd), prepend_prepend]
    rfl

/-- An empty reference belongs to the first argument. -/
theorem splitArgumentsFrom_hollow {depth : Nat} {cuts : Option Nat} :
    splitArgumentsFrom depth cuts ("$()" ++ s) =
      prepend "$()" (splitArgumentsFrom depth cuts s) := by
  have hopen : splitArgumentsFrom depth cuts ("()" ++ s) =
      prepend "(" (splitArgumentsFrom (depth + 1) cuts (")" ++ s)) :=
    splitArgumentsFrom_cons depth cuts '(' (")" ++ s)
  have hclose : splitArgumentsFrom (depth + 1) cuts (")" ++ s) =
      prepend ")" (splitArgumentsFrom depth cuts s) :=
    splitArgumentsFrom_cons (depth + 1) cuts ')' s
  calc splitArgumentsFrom depth cuts ("$()" ++ s)
      = prepend "$" (splitArgumentsFrom depth cuts ("()" ++ s)) :=
        splitArgumentsFrom_append (s := "$") (by decide)
    _ = prepend "$()" (splitArgumentsFrom depth cuts s) := by
        rw [hopen, hclose, prepend_prepend, prepend_prepend]
        rfl

/-- The arguments of a spliced text, whatever the brackets and commas before it were. -/
theorem splitArgumentsFrom (h : Splice b s t b') (depth : Nat) (cuts : Option Nat) :
    SplicedFrom b (splitArgumentsFrom depth cuts s) (splitArgumentsFrom depth cuts t) := by
  induction h generalizing depth cuts with
  | nil b => exact ⟨⟨b, .nil b⟩, .nil⟩
  | @keep c b b' s t h ih =>
    rw [splitArgumentsFrom_cons, splitArgumentsFrom_cons]
    split
    · next hcomma =>
      obtain ⟨rfl, -⟩ := hcomma
      exact ⟨⟨b, .nil b⟩, (ih 0 _).forall₂⟩
    · exact .prepend (.keep c (.nil _)) (ih _ cuts)
  | @keyword word s t b' hword _ ih =>
    have hpart : ∀ c ∈ word, c ∉ ",()\x7b\x7d".toList := hword.forall (by decide)
    rw [splitArgumentsFrom_append hpart, splitArgumentsFrom_hollow, splitArgumentsFrom_append hpart,
      prepend_prepend]
    refine .prepend ?_ (ih depth cuts)
    simpa using Splice.keyword hword (.nil false)
  | @join b b' s t _ ih =>
    have hjoined : "\\$()\n" ++ t = "\\" ++ ("$()" ++ ("\n" ++ t)) := rfl
    rw [hjoined, splitArgumentsFrom_append (s := "\\\n") (by decide),
      splitArgumentsFrom_append (s := "\\") (by decide), splitArgumentsFrom_hollow,
      splitArgumentsFrom_append (s := "\n") (by decide), prepend_prepend, prepend_prepend]
    exact .prepend (.join (.nil false)) (ih depth cuts)

/-- The arguments of a spliced text are the spliced arguments of the text. -/
theorem splitArguments (h : Splice false s t b') (max : Nat) :
    List.Forall₂ Spliced (splitArguments s max) (splitArguments t max) :=
  (h.splitArgumentsFrom 0 _).forall₂

/-! ## Pieces -/

/-- The brackets of a reference. -/
def IsBrackets (opening closing : Char) : Prop :=
  opening = '(' ∧ closing = ')' ∨ opening = '\x7b' ∧ closing = '\x7d'

/-- Where reading stands behind two texts of which one is a splice of the other. The flag says
whether it stands behind a dollar sign that takes the next character for a name. -/
inductive Following : Bool → Scan → Scan → Prop
  | plain : Following false .plain .plain
  | dollar : Following true .dollar .dollar
  | inside {opening closing : Char} (depth : Nat) {b : Bool} {inner inner' : Text} :
      IsBrackets opening closing → Splice false inner.reverse inner'.reverse b →
      Following b (.inside opening closing depth inner) (.inside opening closing depth inner')

variable {scan scan' : Scan} {rest rest' : Text}

/-- Inside a reference, what two texts go on with belongs to it. -/
theorem Following.inside_append {opening closing : Char} {depth : Nat} {inner inner' : Text}
    (hbrackets : IsBrackets opening closing) (h : Splice false inner.reverse inner'.reverse b)
    (hnext : Splice b s t b') : Following b' (.inside opening closing depth (s.reverse ++ inner))
      (.inside opening closing depth (t.reverse ++ inner')) := by
  refine .inside depth hbrackets ?_
  rw [List.reverse_append, List.reverse_append, List.reverse_reverse, List.reverse_reverse]
  exact h.append hnext

/-- Reading the same character. -/
theorem Following.keep (h : Following b scan scan') (c : Char)
    (hrest : ∀ scan scan', Following (c == '$' && !b) scan scan' →
      Alike Spliced (piecesFrom scan rest) (piecesFrom scan' rest')) :
    Alike Spliced (piecesFrom scan (c :: rest)) (piecesFrom scan' (c :: rest')) := by
  have hflag : c ≠ '$' → (c == '$' && !b) = false := fun hc => by
    rw [beq_eq_false_iff_ne.2 hc]
    rfl
  cases h with
  | plain =>
    by_cases hc : c = '$'
    · subst hc
      exact hrest _ _ .dollar
    · rw [hflag hc] at hrest
      rw [Make.piecesFrom, Make.piecesFrom, if_neg hc, if_neg hc]
      exact .same (.plain c) (hrest _ _ .plain)
  | dollar =>
    by_cases hc : c = '$'
    · subst hc
      exact .same (.plain '$') (hrest _ _ .plain)
    rw [hflag hc] at hrest
    by_cases hopen : c = '('
    · subst hopen
      exact hrest _ _ (.inside 0 (.inl ⟨rfl, rfl⟩) (.nil false))
    by_cases hopen' : c = '\x7b'
    · subst hopen'
      exact hrest _ _ (.inside 0 (.inr ⟨rfl, rfl⟩) (.nil false))
    rw [Make.piecesFrom, Make.piecesFrom, if_neg hc, if_neg hc, if_neg hopen, if_neg hopen,
      if_neg hopen', if_neg hopen']
    exact .same (.single c) (hrest _ _ .plain)
  | @inside opening closing depth b inner inner' hbrackets h =>
    have hinside : ∀ {depth}, Alike Spliced
        (piecesFrom (.inside opening closing depth (c :: inner)) rest)
        (piecesFrom (.inside opening closing depth (c :: inner')) rest') := fun {depth} =>
      hrest _ _ (Following.inside_append hbrackets h (s := [c]) (t := [c]) (.keep c (.nil _)))
    rw [piecesFrom.eq_def, piecesFrom.eq_def (.inside opening closing depth inner')]
    dsimp only
    by_cases hopen : c = opening
    · rw [if_pos hopen, if_pos hopen]
      exact hinside
    rw [if_neg hopen, if_neg hopen]
    by_cases hclose : c = closing
    · rw [if_pos hclose, if_pos hclose]
      have hne : c ≠ '$' := by
        rcases hbrackets with ⟨-, rfl⟩ | ⟨-, rfl⟩ <;> (rw [hclose]; decide)
      cases depth with
      | zero =>
        rw [hflag hne] at hrest
        exact .reference ⟨b, h⟩ (hrest _ _ .plain)
      | succ depth => exact hinside
    · rw [if_neg hclose, if_neg hclose]
      exact hinside

/-- A text without dollar signs is read in plain characters. -/
theorem piecesFrom_plain_append (h : '$' ∉ s) (rest : Text) :
    piecesFrom .plain (s ++ rest) = s.map .plain ++ piecesFrom .plain rest := by
  induction s with
  | nil => rfl
  | cons c s ih =>
    rw [List.mem_cons, not_or] at h
    rw [List.cons_append, Make.piecesFrom, if_neg (Ne.symm h.1), ih h.2]
    rfl

/-- Pieces stay alike behind the same pieces. -/
theorem alike_append {Q : Text → Text → Prop} {qs qs' : List Piece} (h : Alike Q qs qs')
    (ps : List Piece) : Alike Q (ps ++ qs) (ps ++ qs') := by
  induction ps with
  | nil => exact h
  | cons p ps ih => exact .same p ih

/-- A text that belongs to every reference it stands in. -/
def Enclosed (s : Text) : Prop := ∀ ⦃opening closing⦄, IsBrackets opening closing →
  ∀ depth inner rest, piecesFrom (.inside opening closing depth inner) (s ++ rest) =
    piecesFrom (.inside opening closing depth (s.reverse ++ inner)) rest

/-- A text without brackets is enclosed. -/
theorem enclosed_of_forall (h : ∀ c ∈ s, c ∉ "()\x7b\x7d".toList) : Enclosed s := by
  intro opening closing hbrackets depth inner rest
  refine piecesFrom_inside (fun hc => h _ hc ?_) fun hc => h _ hc ?_
  all_goals rcases hbrackets with ⟨rfl, rfl⟩ | ⟨rfl, rfl⟩ <;> decide

/-- An empty reference is enclosed. -/
theorem enclosed_hollow : Enclosed "$()" := by
  rintro opening closing (⟨rfl, rfl⟩ | ⟨rfl, rfl⟩) depth inner rest <;> rfl

/-- Enclosed texts one behind the other are enclosed. -/
theorem Enclosed.append (hs : Enclosed s) (ht : Enclosed t) : Enclosed (s ++ t) := by
  intro opening closing hbrackets depth inner rest
  rw [List.append_assoc, hs hbrackets, ht hbrackets, List.reverse_append, List.append_assoc]

/-- Inside a reference, what two texts go on with is read alike when it belongs to it. -/
theorem piecesFrom_inside_append {opening closing : Char} {depth : Nat} {inner inner' : Text}
    (hbrackets : IsBrackets opening closing) (h : Splice false inner.reverse inner'.reverse b)
    (hnext : Splice b s t b') (hs : Enclosed s) (ht : Enclosed t)
    (hrest : ∀ scan scan', Following b' scan scan' →
      Alike Spliced (piecesFrom scan rest) (piecesFrom scan' rest')) :
    Alike Spliced (piecesFrom (.inside opening closing depth inner) (s ++ rest))
      (piecesFrom (.inside opening closing depth inner') (t ++ rest')) := by
  rw [hs hbrackets, ht hbrackets]
  exact hrest _ _ (.inside_append hbrackets h hnext)

/-- The pieces of a spliced text, when what stands before and behind it is read alike. -/
theorem piecesFrom (h : Splice b s t b') (hscan : Following b scan scan')
    (hrest : ∀ scan scan', Following b' scan scan' →
      Alike Spliced (piecesFrom scan rest) (piecesFrom scan' rest')) :
    Alike Spliced (piecesFrom scan (s ++ rest)) (piecesFrom scan' (t ++ rest')) := by
  induction h generalizing scan scan' with
  | nil => exact hrest _ _ hscan
  | keep c _ ih => exact hscan.keep c fun _ _ hnext => ih hnext hrest
  | @keyword word s t b' hword _ ih =>
    have hrest' := fun scan scan' (hnext : Following false scan scan') => ih hnext hrest
    have hword' : Enclosed word := enclosed_of_forall (hword.forall (by decide))
    rw [← List.append_assoc "$()".toList, List.append_assoc, List.append_assoc _ t]
    cases hscan with
    | plain =>
      have hread : Make.piecesFrom .plain ("$()" ++ word ++ (t ++ rest')) =
          .reference [] :: Make.piecesFrom .plain (word ++ (t ++ rest')) := by
        rw [List.append_assoc]
        rfl
      have hdollar : '$' ∉ word := fun hc => hword.forall (p := (· ≠ '$')) (by decide) _ hc rfl
      rw [hread, piecesFrom_plain_append hdollar, piecesFrom_plain_append hdollar]
      exact .hollowRight (by simp [hword.ne_nil]) (alike_append (hrest' _ _ .plain) _)
    | inside depth hbrackets h =>
      refine piecesFrom_inside_append hbrackets h ?_ hword' (enclosed_hollow.append hword') hrest'
      simpa using Splice.keyword hword (.nil false)
  | @join b b' s t _ ih =>
    have hrest' := fun scan scan' (hnext : Following false scan scan') => ih hnext hrest
    rw [List.append_assoc, List.append_assoc]
    cases hscan with
    | plain =>
      exact .same (.plain '\\') (.hollowRight (by nofun) (.same (.plain '\n') (hrest' _ _ .plain)))
    | dollar =>
      exact .same (.single '\\') (.hollowRight (by nofun) (.same (.plain '\n') (hrest' _ _ .plain)))
    | inside depth hbrackets h =>
      have hback : Enclosed "\\" := enclosed_of_forall (by decide)
      have hfeed : Enclosed "\n" := enclosed_of_forall (by decide)
      exact piecesFrom_inside_append hbrackets h (.join (.nil false))
        (enclosed_of_forall (by decide)) ((hback.append enclosed_hollow).append hfeed) hrest'

/-- The pieces of a spliced text. -/
theorem pieces (h : Splice false s t b) : Alike Spliced (pieces s) (pieces t) := by
  have hend : ∀ scan scan', Following b scan scan' →
      Alike Spliced (Make.piecesFrom scan []) (Make.piecesFrom scan' []) := by
    intro scan scan' hscan
    cases hscan with
    | plain => exact .nil
    | dollar => exact .same .dangling .nil
    | inside => exact .same .unterminated .nil
  have hpieces := h.piecesFrom .plain hend
  rw [List.append_nil, List.append_nil] at hpieces
  exact hpieces

/-- The pieces of a text that ends in a backslash, with an empty reference behind it. -/
theorem pieces_close (h : Splice false s t false) :
    Alike Spliced (Make.pieces (s ++ "\\")) (Make.pieces (t ++ "\\$()")) := by
  refine h.piecesFrom .plain ?_
  intro scan scan' hscan
  cases hscan with
  | plain => exact .closeRight '\\'
  | inside depth hbrackets =>
    rcases hbrackets with ⟨rfl, rfl⟩ | ⟨rfl, rfl⟩ <;> exact .same .unterminated .nil

end Splice

end DefineBlock

end MakeHost
