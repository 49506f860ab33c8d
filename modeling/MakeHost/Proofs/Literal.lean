import MakeHost.Proofs.Block
import MakeHost.Proofs.Run
import MakeHost.Proofs.Table
import MakeHost.Make.Machine

/-!
# Text that stands for itself

`Make.Spells` says which pieces amount to a fixed text: characters that stand for themselves, and
references to the variable without a name. Where there is no such variable or function, expanding
the pieces yields that text and changes nothing (`Make.expandPieces_of_spells`). Text that was
broken up with its dollar signs doubled is read as such pieces, so a variable defined by a block
with it holds the text that it was made of (`Make.run_define`).
-/

namespace MakeHost

variable {κ μ : Type}

/-- Nothing is bound to the empty name, so a reference to it expands to nothing. -/
structure World.NoUnnamed (w : World κ μ) : Prop where
  unbound : w.make.bindings.get? [] = none
  uninstalled : w.make.functions.get? [] = none

namespace Make

variable {respond : Responder κ μ} {w : World κ μ} {fuel depth : Nat} {s t name : Text}

/-! ## Pieces that amount to a fixed text -/

/-- The pieces amount to the text, whatever the variables are that have names. -/
inductive Spells : List Piece → Text → Prop
  | nil : Spells [] []
  | plain (c : Char) {ps : List Piece} {s : Text} : Spells ps s → Spells (.plain c :: ps) (c :: s)
  | hollow {ps : List Piece} {s : Text} : Spells ps s → Spells (.reference [] :: ps) s

/-- A character other than a dollar sign stands for itself. -/
theorem pieces_cons {c : Char} (h : c ≠ '$') (s : Text) :
    pieces (c :: s) = .plain c :: pieces s := by
  rw [pieces, piecesFrom, if_neg h, pieces]

/-- A text without dollar signs stands for itself. -/
theorem spells_append (h : '$' ∉ s) (ht : Spells (pieces t) name) :
    Spells (pieces (s ++ t)) (s ++ name) := by
  induction s with
  | nil => exact ht
  | cons c s ih =>
    rw [List.mem_cons, not_or] at h
    rw [List.cons_append, pieces_cons (Ne.symm h.1)]
    exact .plain c (ih h.2)

/-- A text that was broken up with its dollar signs doubled stands for what it was made of. -/
theorem spells_of_broken (h : DefineBlock.Broken true s t) : Spells (pieces t) s := by
  induction h with
  | nil => exact .nil
  | define _ ih => exact .hollow (spells_append (s := "define") (by decide) ih)
  | endef _ ih => exact .hollow (spells_append (s := "endef") (by decide) ih)
  | join _ ih => exact .plain '\\' (.hollow (spells_append (s := "\n") (by decide) ih))
  | last => exact .plain '\\' (.hollow .nil)
  | dollar _ ih => exact .plain '$' ih
  | plain hdollar _ _ _ _ ih =>
    rw [pieces_cons hdollar]
    exact .plain _ ih

/-! ## Expanding them -/

/-- Where no variable and no function is without a name, the reference to one expands to
nothing. -/
theorem expandReference_nil {l : Level κ μ} (hw : w.NoUnnamed)
    (hl : l.expand (depth + 1) [] w = some ([], w)) :
    expandReference respond l depth [] w = some ([], w) := by
  have hvariable : expandVariable l depth [] w = some ([], w) := by
    rw [expandVariable, Run.bind_of_eq_some (Run.make_apply (w := w)), hw.unbound]
    rfl
  have hhead : headAndArguments [] = ([], none) := rfl
  have hnamed : expandNamed respond l depth [] w = some ([], w) := by
    rw [expandNamed, hhead]
    dsimp only
    rw [Run.bind_of_eq_some (Run.make_apply (w := w)), hw.uninstalled]
    dsimp only
    rw [Run.bind_of_eq_some hl, hvariable]
  exact hnamed

/-- Pieces that amount to a text expand to it, and nothing changes. -/
theorem expandPieces_of_spells {l : Level κ μ} {ps : List Piece} (h : Spells ps s)
    (hw : w.NoUnnamed) (hstopped : w.make.stopped = false)
    (hl : l.expand (depth + 1) [] w = some ([], w)) :
    expandPieces respond l depth ps w = some (some s, w) := by
  have hrun := Run.stopped_eq hstopped
  induction h with
  | nil => rfl
  | @plain c ps s _ ih =>
    rw [expandPieces, Run.bind_of_eq_some hrun, if_neg (by decide)]
    rw [expandPiece, Run.bind_of_eq_some (Run.pure_apply _)]
    dsimp only
    rw [Run.bind_of_eq_some ih]
    rfl
  | @hollow ps s _ ih =>
    have hpiece : expandPiece respond l depth (.reference []) w = some (some [], w) := by
      rw [expandPiece, map_eq_pure_bind, Run.bind_of_eq_some (expandReference_nil hw hl)]
      rfl
    rw [expandPieces, Run.bind_of_eq_some hrun, if_neg (by decide)]
    rw [Run.bind_of_eq_some hpiece]
    dsimp only
    rw [Run.bind_of_eq_some ih]
    rfl

/-- Expanding a text whose pieces amount to a fixed text yields that text. -/
theorem expandWithin_of_spells (h : Spells (pieces t) s) (hw : w.NoUnnamed)
    (hstopped : w.make.stopped = false) (hdepth : depth < maxDepth) :
    expandWithin respond (fuel + 2) depth t w = some (s, w) := by
  have hnil : (levelWithin respond (fuel + 1)).expand (depth + 1) [] w = some ([], w) := by
    show expandWithin respond (fuel + 1) (depth + 1) [] w = _
    rw [expandWithin, expandText, if_neg (Nat.not_lt.2 hdepth)]
    rfl
  show expandText respond (levelWithin respond (fuel + 1)) depth t w = _
  rw [expandText, if_neg (Nat.not_lt.2 hdepth.le)]
  rw [Run.bind_of_eq_some (expandPieces_of_spells h hw hstopped hnil)]
  rfl

/-- A text without dollar signs expands to itself. -/
theorem expandWithin_of_notMem (h : '$' ∉ s) (hstopped : w.make.stopped = false)
    (hdepth : depth ≤ maxDepth) : expandWithin respond (fuel + 1) depth s w = some (s, w) := by
  have hrun := Run.stopped_eq hstopped
  have hpieces : ∀ l : Level κ μ, expandPieces respond l depth (pieces s) w = some (some s, w) := by
    intro l
    induction s with
    | nil => rfl
    | cons c s ih =>
      rw [List.mem_cons, not_or] at h
      rw [pieces_cons (Ne.symm h.1), expandPieces, Run.bind_of_eq_some hrun, if_neg (by decide)]
      rw [expandPiece, Run.bind_of_eq_some (Run.pure_apply _)]
      dsimp only
      rw [Run.bind_of_eq_some (ih h.2)]
      rfl
  show expandText respond (levelWithin respond fuel) depth s w = _
  rw [expandText, if_neg (Nat.not_lt.2 hdepth), Run.bind_of_eq_some (hpieces _)]
  rfl

/-! ## Variables -/

/-- The value of a recursive variable is expanded. -/
theorem expandVariable_recursive {l : Level κ μ} {v : Variable}
    (hv : w.make.bindings.get? name = some v) (hflavor : v.flavor = .recursive) :
    expandVariable l depth name w = l.expand (depth + 1) v.value w := by
  rw [expandVariable, Run.bind_of_eq_some (Run.make_apply (w := w)), hv]
  dsimp only
  rw [if_pos hflavor]

/-- Expanding a text that is one reference is expanding the reference. -/
theorem expandText_reference {l : Level κ μ} {inner : Text} (ht : pieces t = [.reference inner])
    (hstopped : w.make.stopped = false) (hdepth : depth ≤ maxDepth) :
    expandText respond l depth t w = expandReference respond l depth inner w := by
  have hrun := Run.stopped_eq hstopped
  have hpieces : expandPieces respond l depth [.reference inner] w =
      (expandReference respond l depth inner >>= fun a => pure (some a)) w := by
    rw [expandPieces, Run.bind_of_eq_some hrun, if_neg (by decide)]
    simp only [expandPiece, expandPieces, map_eq_pure_bind, bind_assoc, pure_bind,
      Option.map_some, List.append_nil]
  rw [expandText, if_neg (Nat.not_lt.2 hdepth), ht, Run.bind_apply, hpieces, Run.bind_apply]
  cases expandReference respond l depth inner w <;> rfl

/-- A reference that begins with a function's name is a call of it, unless it is one of a function
of make's own with that name. -/
theorem expandText_call {l : Level κ μ} {inner : Text} {args : Option Text} {f : Function}
    (ht : pieces t = [.reference inner]) (hinner : headAndArguments inner = (name, args))
    (hbuiltin : args = none ∨ Builtin.ofName? name = none)
    (hfunction : w.make.functions.get? name = some f) (hstopped : w.make.stopped = false)
    (hdepth : depth ≤ maxDepth) :
    expandText respond l depth t w = expandCall respond l depth name f args w := by
  have hnamed : expandReference respond l depth inner = expandNamed respond l depth inner := by
    rw [expandReference, hinner]
    dsimp only
    split
    · next hname => exact absurd hbuiltin (by rw [hname]; simp)
    · rfl
  rw [expandText_reference ht hstopped hdepth, hnamed, expandNamed, hinner]
  dsimp only
  rw [Run.bind_of_eq_some (Run.make_apply (w := w)), hfunction]

/-- Inside a reference, a text without its brackets belongs to it. -/
theorem piecesFrom_inside {opening closing : Char} {brackets : Nat} {inner rest : Text}
    (hopening : opening ∉ s) (hclosing : closing ∉ s) :
    piecesFrom (.inside opening closing brackets inner) (s ++ rest) =
      piecesFrom (.inside opening closing brackets (s.reverse ++ inner)) rest := by
  induction s generalizing inner with
  | nil => rfl
  | cons c s ih =>
    rw [List.mem_cons, not_or] at hopening hclosing
    have hstep : piecesFrom (.inside opening closing brackets inner) (c :: (s ++ rest)) =
        piecesFrom (.inside opening closing brackets (c :: inner)) (s ++ rest) := by
      rw [piecesFrom.eq_def]
      dsimp only
      rw [if_neg (Ne.symm hopening.1), if_neg (Ne.symm hclosing.1)]
    rw [List.cons_append, hstep, ih hopening.2 hclosing.2]
    simp

/-- A reference without a gap has no arguments. -/
theorem headAndArguments_of_forall (h : ∀ c ∈ s, isGap c = false) :
    headAndArguments s = (s, none) := by
  have hdrop : s.dropWhile (!isGap ·) = [] := by
    rw [List.dropWhile_eq_nil_iff]
    intro c hc
    rw [h c hc]
    rfl
  rw [headAndArguments, hdrop]

/-- The head of a reference with a gap is the word before it, and its arguments follow the gap. -/
theorem headAndArguments_of_gap {word args : Text} (hword : ∀ c ∈ word, isGap c = false)
    (hargs : ∀ c ∈ args.head?, isGap c = false) :
    headAndArguments (word ++ " " ++ args) = (word, some args) := by
  have hgap : isGap ' ' = true := by decide
  have hkeep : ∀ c ∈ word, (!isGap c) = true := fun c hc => by rw [hword c hc]; rfl
  have hsplit : word ++ " " ++ args = word ++ ' ' :: args := by simp
  have hdrop : (word ++ ' ' :: args).dropWhile (!isGap ·) = ' ' :: args := by
    rw [List.dropWhile_append_of_pos hkeep, List.dropWhile_cons_of_neg (by simp [hgap])]
  have htake : (word ++ ' ' :: args).takeWhile (!isGap ·) = word := by
    rw [List.takeWhile_append_of_pos hkeep, List.takeWhile_cons_of_neg (by simp [hgap]),
      List.append_nil]
  have hrest : args.dropWhile isGap = args := by
    cases args with
    | nil => rfl
    | cons c args => exact List.dropWhile_cons_of_neg (by simp [hargs c rfl])
  rw [hsplit, headAndArguments, hdrop]
  dsimp only
  rw [htake, List.dropWhile_cons_of_pos hgap, hrest]

/-- A gap is blank. -/
theorem isGap_of_isBlank {c : Char} (h : Text.isBlank c = false) : isGap c = false := by
  cases hgap : isGap c with
  | false => rfl
  | true =>
    simp only [isGap, Bool.or_eq_true, decide_eq_true_eq] at hgap
    rcases hgap with rfl | rfl <;> exact absurd h (by decide)

/-- What make is stopped with when a function is called without arguments. -/
def noArguments (name : Text) : Text :=
  "insufficient number of arguments (" ++ Text.ofNat 0 ++ ") to function '" ++ name ++ "'"

section
variable (hname : isLegalVariableName name = true)
include hname

/-- A legal name belongs to the reference that it stands in. -/
theorem piecesFrom_inside_name {brackets : Nat} {inner rest : Text} :
    piecesFrom (.inside '(' ')' brackets inner) (name ++ rest) =
      piecesFrom (.inside '(' ')' brackets (name.reverse ++ inner)) rest :=
  piecesFrom_inside (fun hc => ne_of_isLegal hname hc (by decide) rfl)
    (fun hc => ne_of_isLegal hname hc (by decide) rfl)

/-- A legal name in brackets is one reference. -/
theorem pieces_reference : pieces ("$(" ++ name ++ ")") = [.reference name] := by
  have hclose : ∀ inner, piecesFrom (.inside '(' ')' 0 inner) ")" = [.reference inner.reverse] :=
    fun _ => rfl
  calc pieces ("$(" ++ name ++ ")")
      = piecesFrom (.inside '(' ')' 0 []) (name ++ ")") := by
        rw [List.append_assoc]
        rfl
    _ = [.reference name] := by
        rw [piecesFrom_inside_name hname, hclose]
        simp

/-- A legal name is read as a name without arguments. -/
theorem headAndArguments_of_isLegal : headAndArguments name = (name, none) :=
  headAndArguments_of_forall fun _ hc => isGap_of_isBlank (isBlank_of_isLegal hname hc)

/-- The reference to a legal name is none to a function of make's own. -/
theorem expandText_named {l : Level κ μ} (hstopped : w.make.stopped = false)
    (hdepth : depth ≤ maxDepth) : expandText respond l depth ("$(" ++ name ++ ")") w =
      expandNamed respond l depth name w := by
  rw [expandText_reference (pieces_reference hname) hstopped hdepth, expandReference,
    headAndArguments_of_isLegal hname]
  dsimp only
  cases Builtin.ofName? name <;> rfl

variable (hstopped : w.make.stopped = false)
include hstopped

/-- A legal name stands for itself. -/
theorem expandWithin_of_isLegal (hdepth : depth ≤ maxDepth) :
    expandWithin respond (fuel + 1) depth name w = some (name, w) :=
  expandWithin_of_notMem (fun hc => ne_of_isLegal hname hc (by decide) rfl) hstopped hdepth

/-- The reference to a variable expands to what the variable does. -/
theorem expandWithin_reference (hfunction : w.make.functions.get? name = none)
    (hdepth : depth < maxDepth) :
    expandWithin respond (fuel + 2) depth ("$(" ++ name ++ ")") w =
      expandVariable (levelWithin respond (fuel + 1)) depth name w := by
  have hself : (levelWithin respond (fuel + 1)).expand (depth + 1) name w = some (name, w) :=
    expandWithin_of_isLegal hname hstopped hdepth
  show expandText respond (levelWithin respond (fuel + 1)) depth _ w = _
  rw [expandText_named hname hstopped (by omega), expandNamed, headAndArguments_of_isLegal hname]
  dsimp only
  rw [Run.bind_of_eq_some (Run.make_apply (w := w)), hfunction]
  dsimp only
  rw [Run.bind_of_eq_some hself]

/-- The reference to what is neither a variable nor a function expands to nothing. -/
theorem expandWithin_reference_undefined (hvariable : w.make.bindings.get? name = none)
    (hfunction : w.make.functions.get? name = none) (hdepth : depth < maxDepth) :
    expandWithin respond (fuel + 2) depth ("$(" ++ name ++ ")") w = some ([], w) := by
  rw [expandWithin_reference hname hstopped hfunction hdepth, expandVariable,
    Run.bind_of_eq_some (Run.make_apply (w := w)), hvariable]
  rfl

/-- The reference to a function stops make, since a call has an argument at least. -/
theorem expandWithin_reference_function {f : Function}
    (hfunction : w.make.functions.get? name = some f) (hmin : 1 ≤ f.min)
    (hdepth : depth ≤ maxDepth) :
    expandWithin respond (fuel + 1) depth ("$(" ++ name ++ ")") w =
      some ([], { w with make := w.make.fail (noArguments name) }) := by
  show expandText respond (levelWithin respond fuel) depth _ w = _
  rw [expandText_call (pieces_reference hname) (headAndArguments_of_isLegal hname) (.inl rfl)
    hfunction hstopped hdepth, expandCall]
  dsimp only [Option.map_none, Option.getD_none]
  rw [if_pos (show List.length [] < f.min from hmin)]
  rfl

end

/-! ## Defining a variable -/

/-- A plain assignment stores the value as it stands. -/
theorem assign_recursive {l : Level κ μ} (hne : name ≠ [])
    (horigin : (w.make.bindings.get? name).map (·.origin) ≠ some .commandLine) :
    assign l name .recursive t w =
      some ((), { w with make := w.make.setVariable name ⟨t, .recursive, .file⟩ }) := by
  have hassigned : assigned l .recursive t (w.make.bindings.get? name) w =
      some (some ⟨t, .recursive, .file⟩, w) := by
    cases w.make.bindings.get? name <;> rfl
  rw [assign, if_neg (by simpa using hne), Run.bind_of_eq_some (Run.make_apply (w := w))]
  rw [if_neg horigin, Run.bind_of_eq_some hassigned]
  rfl

/-- An assignment that expands its value stores the expansion where it leads to. -/
theorem assign_simple {l : Level κ μ} (hne : name ≠ [])
    (horigin : (w.make.bindings.get? name).map (·.origin) ≠ some .commandLine) :
    assign l name .simple t w = (l.expand 0 t >>= fun a =>
      Run.changeMake (·.setVariable name ⟨a, .simple, .file⟩)) w := by
  have hassigned : assigned l .simple t (w.make.bindings.get? name) =
      l.expand 0 t >>= fun a => pure (some ⟨a, .simple, .file⟩) := by
    cases w.make.bindings.get? name <;> rfl
  rw [assign, if_neg (by simpa using hne), Run.bind_of_eq_some (Run.make_apply (w := w))]
  rw [if_neg horigin, hassigned, bind_assoc]
  rfl

/-- Appending to a variable that is not there sets a recursive one. -/
theorem assign_append_none {l : Level κ μ} (hne : name ≠ [])
    (hv : w.make.bindings.get? name = none) : assign l name .append t w =
      some ((), { w with make := w.make.setVariable name ⟨t, .recursive, .file⟩ }) := by
  rw [assign, if_neg (by simpa using hne), Run.bind_of_eq_some (Run.make_apply (w := w)), hv]
  rfl

/-- A variable with a text behind its value, and a space between them if there was a value. -/
def extended (old : Variable) (addition : Text) : Variable where
  value := if old.value.isEmpty then addition else old.value ++ " " ++ addition
  flavor := old.flavor
  origin := .file

/-- Appending to a variable keeps its flavor, by which the addition is expanded or not. The value
that it is put behind is the one from before the expansion. -/
theorem assign_append_some {l : Level κ μ} {w' : World κ μ} {old : Variable} {addition : Text}
    (hne : name ≠ []) (hv : w.make.bindings.get? name = some old)
    (horigin : old.origin ≠ .commandLine)
    (haddition : (if old.flavor = .simple then l.expand 0 t else pure t) w = some (addition, w')) :
    assign l name .append t w =
      some ((), { w' with make := w'.make.setVariable name (extended old addition) }) := by
  have hassigned : assigned l .append t (some old) w = some (some (extended old addition), w') := by
    simp only [assigned]
    split at haddition
    · next hsimple => rw [if_pos hsimple, Run.bind_of_eq_some haddition]; rfl
    · next hsimple =>
      cases haddition
      rw [if_neg hsimple]
      rfl
  rw [assign, if_neg (by simpa using hne), Run.bind_of_eq_some (Run.make_apply (w := w)), hv,
    if_neg (by simpa using horigin), Run.bind_of_eq_some hassigned]
  rfl

/-- Nothing without a name comes to be when a variable is set that has one. -/
theorem noUnnamed_setVariable (hw : w.NoUnnamed) (hne : name ≠ []) (v : Variable) :
    World.NoUnnamed { w with make := w.make.setVariable name v } :=
  ⟨(Table.get?_insert_of_ne hne.symm).trans hw.unbound, hw.uninstalled⟩

/-- A text of one statement is evaluated by carrying that out. -/
theorem run_statement {statement : Statement} (ht : statements t = [statement])
    (hstopped : w.make.stopped = false) : (levelWithin respond (fuel + 1)).run t w =
      evaluateStatement (levelWithin respond fuel) statement w := by
  have hrun := Run.stopped_eq hstopped
  rw [Level.run, Run.bind_of_eq_some hrun]
  show evaluateStatements (levelWithin respond fuel) (statements t) w = _
  rw [ht, evaluateStatements, Run.bind_of_eq_some hrun, if_neg (by decide)]
  show (evaluateStatement _ _ >>= fun _ => pure ()) w = _
  rw [bind_pure_unit]

/-- A block whose body was broken up assigns that body to the name in its header, and does nothing
else. -/
theorem run_block (hname : isLegalVariableName name = true) (hstopped : w.make.stopped = false)
    {header : Text} {op : Assignment} (hheader : IsHeader header)
    (hop : defineHeader header = (name, op)) {double : Bool} (ht : DefineBlock.Broken double s t) :
    (levelWithin respond (fuel + 2)).run ("define " ++ header ++ "\n" ++ t ++ "\nendef") w =
      assign (levelWithin respond (fuel + 1)) name op t w := by
  have hself : (levelWithin respond (fuel + 1)).expand 0 name w = some (name, w) :=
    expandWithin_of_isLegal hname hstopped (Nat.zero_le _)
  have hstatements := statements_block hheader ht
  rw [hop] at hstatements
  rw [run_statement hstatements hstopped, evaluateStatement, Run.bind_of_eq_some hself,
    trim_of_isLegal hname]

/-- An `undefine` line takes a variable away, unless it is one of the command line. A backslash at
the end of the line does not belong to the name. -/
theorem run_undefine (hname : isLegalVariableName name = true) (hstopped : w.make.stopped = false) :
    (levelWithin respond (fuel + 2)).run ("undefine " ++ name) w =
      some ((), { w with make := w.make.undefine (uncontinued name) }) := by
  have hmem : ∀ {c}, c ∈ uncontinued name → c ∈ name := mem_of_mem_uncontinued
  have htrim : (uncontinued name).trim = uncontinued name :=
    Text.trim_of_forall fun c hc => isBlank_of_isLegal hname (hmem hc)
  have hdollar : '$' ∉ uncontinued name := fun hc => ne_of_isLegal hname (hmem hc) (by decide) rfl
  have hself : (levelWithin respond (fuel + 1)).expand 0 (uncontinued name) w =
      some (uncontinued name, w) := expandWithin_of_notMem hdollar hstopped (Nat.zero_le _)
  rw [run_statement (statements_undefine hname) hstopped, evaluateStatement,
    Run.bind_of_eq_some hself, htrim]
  rfl

/-- A block whose body was broken up defines the variable with that body as its value. -/
theorem run_define (hname : isLegalVariableName name = true) (hlast : name.getLast? ≠ some '\\')
    (hstopped : w.make.stopped = false)
    (horigin : (w.make.bindings.get? name).map (·.origin) ≠ some .commandLine) {double : Bool}
    (ht : DefineBlock.Broken double s t) :
    (levelWithin respond (fuel + 2)).run ("define " ++ name ++ "\n" ++ t ++ "\nendef") w =
      some ((), { w with make := w.make.setVariable name ⟨t, .recursive, .file⟩ }) := by
  rw [run_block hname hstopped (isHeader_of_isLegal hname hlast) (defineHeader_of_isLegal hname) ht]
  exact assign_recursive (ne_nil_of_isLegal hname) horigin

section
variable (hname : isLegalVariableName name = true) (hw : w.NoUnnamed)
  (hstopped : w.make.stopped = false) (hfunction : w.make.functions.get? name = none)
include hname hw hstopped hfunction

/-- The reference to a variable that holds a literal expands to what the literal was made of. -/
theorem expandWithin_literal {v : Variable} (hv : w.make.bindings.get? name = some v)
    (hflavor : v.flavor = .recursive) (hvalue : DefineBlock.Broken true s v.value)
    (hdepth : depth + 1 < maxDepth) :
    expandWithin respond (fuel + 3) depth ("$(" ++ name ++ ")") w = some (s, w) := by
  rw [expandWithin_reference hname hstopped hfunction (by omega)]
  rw [expandVariable_recursive hv hflavor]
  exact expandWithin_of_spells (spells_of_broken hvalue) hw hstopped hdepth

end

/-- A make that runs has no fatal error. -/
theorem fatal_of_running {s : State} (h : s.stopped = false) : s.fatal = none :=
  Option.isNone_iff_eq_none.1 (Option.isSome_eq_false_iff.1 h)

/-- **What a literal was made of is read back from the variable it defines.** The block stops
nothing, calls nothing, stores the literal as it stands, and leaves the other variables alone. -/
theorem define_literal_reads_back (respond : Responder κ μ) (fuel : Nat) (s : Text)
    (hname : isLegalVariableName name = true) (hlast : name.getLast? ≠ some '\\')
    (hw : w.NoUnnamed) (hstopped : w.make.stopped = false)
    (horigin : (w.make.bindings.get? name).map (·.origin) ≠ some .commandLine)
    (hfunction : w.make.functions.get? name = none) :
    ∃ w', (levelWithin respond (fuel + 3)).run
        ("define " ++ name ++ "\n" ++ DefineBlock.literal s ++ "\nendef") w = some ((), w') ∧
      w'.make.fatal = none ∧ w'.make.calls = w.make.calls ∧
      w'.make.bindings.get? name = some ⟨DefineBlock.literal s, .recursive, .file⟩ ∧
      (∀ other, other ≠ name → w'.make.bindings.get? other = w.make.bindings.get? other) ∧
      (levelWithin respond (fuel + 3)).expand 0 ("$(" ++ name ++ ")") w' = some (s, w') := by
  have hbroken := DefineBlock.literal_spec s
  refine ⟨_, run_define hname hlast hstopped horigin hbroken, ?_, rfl, ?_, ?_, ?_⟩
  · exact fatal_of_running hstopped
  · exact Table.get?_insert_self
  · exact fun other hother => Table.get?_insert_of_ne hother
  · have hdepth : 0 + 1 < maxDepth := by decide
    exact expandWithin_literal hname (noUnnamed_setVariable hw (ne_nil_of_isLegal hname) _)
      hstopped hfunction Table.get?_insert_self rfl hbroken hdepth

/-- A text with everything in it that a block would not keep, read back from a variable that came
from the environment. -/
theorem define_literal_reads_back_environment :
    ∃ w', (levelWithin (fun _ _ _ => pure none) 3).run
        ("define X\n" ++ DefineBlock.literal "$(X)\nendef\nendefine\\" ++ "\nendef")
        ({ World.fresh () .attached with make := State.fresh.define "X" "old" .environment } :
          World Unit Unit) = some ((), w') ∧
      (levelWithin (fun _ _ _ => pure none) 3).expand 0 "$(X)" w' =
        some ("$(X)\nendef\nendefine\\".toList, w') := by
  have hname : isLegalVariableName "X" = true := by decide
  obtain ⟨w', hrun, -, -, -, -, hexpand⟩ := define_literal_reads_back
    (w := ({ World.fresh () .attached with make := State.fresh.define "X" "old" .environment } :
      World Unit Unit))
    (fun _ _ _ => pure none) 0 "$(X)\nendef\nendefine\\" hname (by decide) ⟨rfl, rfl⟩ rfl
    (by decide) rfl
  exact ⟨w', hrun, hexpand⟩

end Make

end MakeHost
