import MakeHost.Make.Machine
import MakeHost.Proofs.Run
import Mathlib.Data.List.Forall2

/-!
# What expansion and evaluation do to a world

Expansion changes a world by stopping make, by printing, and through the calls that it hands out;
evaluation assigns and removes variables besides, and the host asks for the rest. `Reads`, `Writes`
and `Serves` are relations on worlds that allow so much. The theorems go through the parts of make
one by one: where a relation allows a part what it does, and two levels of make go along, the part
goes along at the two levels. `levelWithin_along` ties the knot by induction on the nesting.
-/

namespace MakeHost.Make

variable {κ μ : Type}

/-- `T` allows what expansion does by itself, any number of times, in every world that it speaks
of. -/
structure Reads (T : World κ μ → World κ μ → Prop) : Prop extends Run.Steps T where
  fail : ∀ {w} message, T w w → T w { w with make := w.make.fail message }
  print : ∀ {w} line, T w w → T w { w with make := w.make.print line }

/-- `v` may be stored in the place of `old`: it comes from make text, and it has a flavor unless
`old` has none. -/
structure Follows (old : Option Variable) (v : Variable) : Prop where
  origin : v.origin = .file
  flavor : v.flavor = .undefined → old.map (·.flavor) = some .undefined

/-- `T` allows what evaluation does by itself. A variable may be set when it was none of the
command line's at some point before, since its value may have been expanded in between. -/
structure Writes (T : World κ μ → World κ μ → Prop) : Prop extends Reads T where
  assign : ∀ {w₀ w name v}, T w₀ w → name ≠ [] →
    (w₀.make.bindings.get? name).map (·.origin) ≠ some .commandLine →
    Follows (w₀.make.bindings.get? name) v → T w { w with make := w.make.setVariable name v }
  undefine : ∀ {w} name, T w w → T w { w with make := w.make.undefine name }

/-- `T` allows what make and the host do to a world. The functions that are exported satisfy
`E`. -/
structure Serves (E : Exported κ → Prop) (T : World κ μ → World κ μ → Prop) : Prop
    extends Writes T where
  note : ∀ {w} call, T w w → T w (w.note call)
  countCall : ∀ {w}, T w w → T w { w with make := w.make.countCall }
  allocate : ∀ {w}, T w w → T w { w with make := w.make.allocate.2 }
  release : ∀ {w} buffer, T w w → T w { w with make := w.make.release buffer }
  enter : ∀ {w} entry, E entry → T w w → T w (w.enter entry)
  remember : ∀ {w} memory, T w w → T w { w with memory := memory }
  complain : ∀ {w} line, T w w → T w { w with complaints := line :: w.complaints }

/-- Two levels of make that go along. -/
structure Level.Along (T : World κ μ → World κ μ → Prop) (l l' : Level κ μ) : Prop where
  expand : ∀ w depth text, Run.Along T w (l.expand depth text) (l'.expand depth text)
  evaluate : ∀ w text, Run.Along T w (l.evaluate text) (l'.evaluate text)

section
variable {T : World κ μ → World κ μ → Prop} {l l' : Level κ μ} {w : World κ μ}

namespace Reads

/-- A part that stops make and has a fixed result. -/
theorem failWith {α : Type} (hT : Reads T) (message : Text) (a : α) :
    Run.Along T w (do Run.fail message; return a) (do Run.fail message; return a) :=
  .of_eq rfl (hT.fail message)

/-- Computing with the members of two lists one after the other. -/
theorem mapM {α α' β : Type} (hT : Reads T) {R : α → α' → Prop} {f : α → Run κ μ β}
    {g : α' → Run κ μ β} {as : List α} {as' : List α'} (has : List.Forall₂ R as as')
    (hfg : ∀ w a a', R a a' → Run.Along T w (f a) (g a')) :
    Run.Along T w (as.mapM f) (as'.mapM g) := by
  induction has generalizing w with
  | nil => exact .pure []
  | @cons a a' as as' ha _ ih =>
    rw [List.mapM_cons, List.mapM_cons]
    refine .bind hT.toSteps (hfg w a a' ha) fun b w' _ => ?_
    refine .bind hT.toSteps ih fun bs w'' _ => ?_
    exact .pure (b :: bs)

end Reads

/-! ## Expansion -/

section
variable (hT : Reads T)
  (hl : ∀ w depth text, Run.Along T w (l.expand depth text) (l'.expand depth text))

include hT in
/-- A builtin goes along where it may print and stop make. -/
theorem Builtin.apply_along (builtin : Builtin) (arg : Text) :
    Run.Along T w (builtin.apply arg) (builtin.apply arg) := by
  cases builtin with
  | value | origin | flavor => exact .of_eq rfl id
  | error => exact .of_eq rfl (hT.fail arg)
  | info => exact .of_eq rfl (hT.print arg)

include hl in
/-- A variable goes along where the text that it holds does. -/
theorem expandVariable_along (depth : Nat) (name : Text) :
    Run.Along T w (expandVariable l depth name) (expandVariable l' depth name) := by
  unfold expandVariable
  refine .make_bind ?_
  cases w.make.bindings.get? name with
  | none => exact .pure []
  | some v =>
    dsimp only
    split
    · exact hl w (depth + 1) v.value
    · exact .pure v.value

end

/-! ### Calls -/

/-- The arguments of a call as the function's policy wants them: expanded, or as they stand. -/
def passed (l : Level κ μ) (depth : Nat) (policy : Policy) (args : List Text) :
    Run κ μ (List Text) :=
  match policy with
  | .expand => args.mapM (l.expand (depth + 1))
  | .verbatim => pure args

/-- The texts between the commas of a call. -/
def splitCall (f : Function) (args : Option Text) : List Text :=
  (args.map (splitArguments · f.max)).getD []

/-- What make is stopped with when a function is called with too few arguments. -/
def tooFewArguments (count : Nat) (name : Text) : Text :=
  "insufficient number of arguments (" ++ Text.ofNat count ++ ") to function '" ++ name ++ "'"

/-- A call is refused for its count, or its arguments are passed and it is handed out unless they
stop make. -/
theorem expandCall_eq (respond : Responder κ μ) (depth : Nat) (name : Text) (f : Function)
    (args : Option Text) : expandCall respond l depth name f args = (do
      if (splitCall f args).length < f.min then
        Run.fail (tooFewArguments (splitCall f args).length name)
        return []
      let texts ← passed l depth f.policy (splitCall f args)
      if ← Run.stopped then return []
      handOut respond l name texts) := by
  unfold expandCall passed
  cases f.policy <;> rfl

/-- What a call comes to: it is refused for its count, its arguments stop make, or it is handed
out. -/
theorem expandCall_eq_some_iff {respond : Responder κ μ} {depth : Nat} {name : Text} {f : Function}
    {args : Option Text} {result : Text × World κ μ} :
    expandCall respond l depth name f args w = some result ↔
      (splitCall f args).length < f.min ∧ result = ([], { w with
        make := w.make.fail (tooFewArguments (splitCall f args).length name) }) ∨
      f.min ≤ (splitCall f args).length ∧ ∃ texts w',
        passed l depth f.policy (splitCall f args) w = some (texts, w') ∧
          (w'.make.stopped = true ∧ result = ([], w') ∨
            w'.make.stopped = false ∧ handOut respond l name texts w' = some result) := by
  rw [expandCall_eq]
  by_cases hfew : (splitCall f args).length < f.min
  · rw [if_pos hfew]
    constructor
    · intro h
      cases h
      exact .inl ⟨hfew, rfl⟩
    · rintro (⟨-, rfl⟩ | ⟨henough, -⟩)
      · rfl
      · omega
  · rw [if_neg hfew, Run.bind_eq_some]
    constructor
    · rintro ⟨texts, w', hpassed, hrest⟩
      refine .inr ⟨Nat.le_of_not_lt hfew, texts, w', hpassed, ?_⟩
      cases hstopped : w'.make.stopped with
      | true =>
        rw [Run.bind_of_eq_some (Run.stopped_eq hstopped)] at hrest
        cases hrest
        exact .inl ⟨rfl, rfl⟩
      | false =>
        rw [Run.bind_of_eq_some (Run.stopped_eq hstopped)] at hrest
        exact .inr ⟨rfl, hrest⟩
    · rintro (⟨hless, -⟩ | ⟨-, texts, w', hpassed, hrest⟩)
      · exact absurd hless hfew
      refine ⟨texts, w', hpassed, ?_⟩
      obtain ⟨hstopped, rfl⟩ | ⟨hrunning, hhanded⟩ := hrest
      · exact Run.bind_of_eq_some (Run.stopped_eq hstopped)
      · rw [Run.bind_of_eq_some (Run.stopped_eq hrunning)]
        exact hhanded

section
variable {respond respond' : Responder κ μ} (hT : Reads T)
include hT

/-- Arguments are expanded one after the other, or passed as they stand. -/
theorem passed_along {R : Text → Text → Prop} {depth : Nat} {policy : Policy}
    (hR : ∀ w a a', R a a' →
      Run.Along T w (l.expand (depth + 1) a) (l'.expand (depth + 1) a'))
    {args args' : List Text} (hargs : List.Forall₂ R args args')
    (hverbatim : policy = .verbatim → args = args') :
    Run.Along T w (passed l depth policy args) (passed l' depth policy args') := by
  cases policy with
  | expand => exact hT.mapM hargs hR
  | verbatim =>
    obtain rfl := hverbatim rfl
    exact .pure args

/-- Passing the same arguments. -/
theorem passed_along_same {depth : Nat}
    (hl : ∀ w text, Run.Along T w (l.expand (depth + 1) text) (l'.expand (depth + 1) text))
    (policy : Policy) (args : List Text) :
    Run.Along T w (passed l depth policy args) (passed l' depth policy args) := by
  refine passed_along hT (R := Eq) ?_ (List.forall₂_same.2 fun _ _ => rfl) fun _ => rfl
  rintro w' a _ rfl
  exact hl w' a

/-- Expanding a call, where the arguments of the two are related and so are their expansions. The
call need only go along once its arguments are passed and make goes on. -/
theorem expandCall_along_of_running {R : Text → Text → Prop} {depth : Nat} {name : Text}
    {f : Function} {args args' : Option Text}
    (hR : ∀ w a a', R a a' →
      Run.Along T w (l.expand (depth + 1) a) (l'.expand (depth + 1) a'))
    (hargs : List.Forall₂ R (splitCall f args) (splitCall f args'))
    (hverbatim : f.policy = .verbatim → args = args')
    (hand : ∀ texts w', f.min ≤ (splitCall f args).length →
      passed l depth f.policy (splitCall f args) w = some (texts, w') → w'.make.stopped = false →
      Run.Along T w' (handOut respond l name texts) (handOut respond' l' name texts)) :
    Run.Along T w (expandCall respond l depth name f args)
      (expandCall respond' l' depth name f args') := by
  rw [expandCall_eq, expandCall_eq, ← hargs.length_eq]
  split
  · exact hT.failWith _ []
  · next hcount =>
    refine .bind_result hT.toSteps (passed_along hT hR hargs fun h => by rw [hverbatim h])
      fun texts w' hpassed _ => .stopped_bind ?_
    split
    · exact .pure []
    · next hrunning =>
      exact hand texts w' (Nat.le_of_not_lt hcount) hpassed (Bool.eq_false_iff.2 hrunning)

/-- Expanding a call, where the arguments of the two are related and so are their expansions. -/
theorem expandCall_along_of {R : Text → Text → Prop} {depth : Nat} {name : Text} {f : Function}
    {args args' : Option Text}
    (hR : ∀ w a a', R a a' →
      Run.Along T w (l.expand (depth + 1) a) (l'.expand (depth + 1) a'))
    (hargs : List.Forall₂ R (splitCall f args) (splitCall f args'))
    (hverbatim : f.policy = .verbatim → args = args')
    (hand : ∀ texts w', f.min ≤ (splitCall f args).length →
      passed l depth f.policy (splitCall f args) w = some (texts, w') →
      Run.Along T w' (handOut respond l name texts) (handOut respond' l' name texts)) :
    Run.Along T w (expandCall respond l depth name f args)
      (expandCall respond' l' depth name f args') :=
  expandCall_along_of_running hT hR hargs hverbatim fun texts w' hmin hpassed _ =>
    hand texts w' hmin hpassed

variable (hl : ∀ w depth text, Run.Along T w (l.expand depth text) (l'.expand depth text))
include hl

/-- Expanding a call, where the call goes along once its arguments are passed. -/
theorem expandCall_along_of_passed {depth : Nat} {name : Text} {f : Function} {args : Option Text}
    (hand : ∀ texts w', f.min ≤ (splitCall f args).length →
      passed l depth f.policy (splitCall f args) w = some (texts, w') →
      Run.Along T w' (handOut respond l name texts) (handOut respond' l' name texts)) :
    Run.Along T w (expandCall respond l depth name f args)
      (expandCall respond' l' depth name f args) := by
  refine expandCall_along_of hT (R := Eq) ?_ (List.forall₂_same.2 fun _ _ => rfl) (fun _ => rfl)
    hand
  rintro w' a _ rfl
  exact hl w' (depth + 1) a

/-- A call goes along where what it hands out does. -/
theorem expandCall_along
    (hc : ∀ w name args,
      Run.Along T w (handOut respond l name args) (handOut respond' l' name args))
    (depth : Nat) (name : Text) (f : Function) (args : Option Text) :
    Run.Along T w (expandCall respond l depth name f args)
      (expandCall respond' l' depth name f args) :=
  expandCall_along_of_passed hT hl fun texts w' _ _ => hc w' name texts

/-! ### Texts -/

variable (hcall : ∀ w depth name f args, w.make.functions.get? name = some f →
  Run.Along T w (expandCall respond l depth name f args) (expandCall respond' l' depth name f args))
include hcall

/-- A name is first expanded and then a variable or a call. -/
theorem expandNamed_along (depth : Nat) (inner : Text) :
    Run.Along T w (expandNamed respond l depth inner) (expandNamed respond' l' depth inner) := by
  unfold expandNamed
  dsimp only
  refine .make_bind ?_
  cases hf : w.make.functions.get? (headAndArguments inner).1 with
  | none =>
    refine .bind hT.toSteps (hl w (depth + 1) inner) fun name w' _ => ?_
    exact expandVariable_along hl depth name
  | some f => exact hcall w depth _ f _ hf

/-- A reference goes along where its name and its call do. -/
theorem expandReference_along (depth : Nat) (inner : Text) :
    Run.Along T w (expandReference respond l depth inner)
      (expandReference respond' l' depth inner) := by
  unfold expandReference
  dsimp only
  split
  · exact .bind hT.toSteps (hl w (depth + 1) _) fun arg w' _ => Builtin.apply_along hT _ arg
  · exact expandNamed_along hT hl hcall depth inner

/-- A piece is plain text or a reference. -/
theorem expandPiece_along (depth : Nat) (piece : Piece) :
    Run.Along T w (expandPiece respond l depth piece) (expandPiece respond' l' depth piece) := by
  cases piece with
  | plain c => exact .pure (some [c])
  | dangling => exact .pure (some [])
  | unterminated => exact hT.failWith _ none
  | reference inner =>
    simp only [expandPiece, map_eq_pure_bind]
    exact .bind hT.toSteps (expandReference_along hT hl hcall depth inner) fun a w' _ => .pure _
  | single c =>
    simp only [expandPiece, map_eq_pure_bind]
    exact .bind hT.toSteps (expandVariable_along hl depth [c]) fun a w' _ => .pure _

/-- Pieces go along from the left to the right. -/
theorem expandPieces_along (depth : Nat) (ps : List Piece) :
    Run.Along T w (expandPieces respond l depth ps) (expandPieces respond' l' depth ps) := by
  induction ps generalizing w with
  | nil => exact .pure (some [])
  | cons piece ps ih =>
    simp only [expandPieces]
    refine .stopped_bind ?_
    split
    · exact .pure none
    · refine .bind hT.toSteps (expandPiece_along hT hl hcall depth piece) fun front w' _ => ?_
      cases front with
      | none => exact .pure none
      | some front => exact .bind hT.toSteps ih fun back w'' _ => .pure _

/-- A text goes along where its pieces do. -/
theorem expandText_along (depth : Nat) (text : Text) :
    Run.Along T w (expandText respond l depth text) (expandText respond' l' depth text) := by
  unfold expandText
  split
  · exact hT.failWith _ []
  · exact .bind hT.toSteps (expandPieces_along hT hl hcall depth _) fun _ w' _ => .pure _

end

/-! ## Evaluation -/

/-- What an assignment stores follows what stood there before. -/
theorem follows_of_assigned {op : Assignment} {value : Text} {old : Option Variable} {v : Variable}
    {w' : World κ μ} (h : assigned l op value old w = some (some v, w')) : Follows old v := by
  cases old with
  | none =>
    cases op with
    | simple =>
      obtain ⟨a, w₁, -, ha⟩ := Run.bind_eq_some.1 h
      cases ha; exact ⟨rfl, nofun⟩
    | recursive | append | conditional => cases h; exact ⟨rfl, nofun⟩
  | some old =>
    cases op with
    | recursive => cases h; exact ⟨rfl, nofun⟩
    | simple =>
      obtain ⟨a, w₁, -, ha⟩ := Run.bind_eq_some.1 h
      cases ha; exact ⟨rfl, nofun⟩
    | append =>
      simp only [assigned] at h
      split at h
      · obtain ⟨a, w₁, -, ha⟩ := Run.bind_eq_some.1 h
        cases ha; exact ⟨rfl, congrArg some⟩
      · cases h; exact ⟨rfl, congrArg some⟩
    | conditional => cases h

section
variable (hT : Writes T)
  (hl : ∀ w depth text, Run.Along T w (l.expand depth text) (l'.expand depth text))
include hT hl

/-- The value of an assignment goes along where its expansion does. -/
theorem assigned_along (op : Assignment) (value : Text) (old : Option Variable) :
    Run.Along T w (assigned l op value old) (assigned l' op value old) := by
  cases old with
  | none =>
    cases op with
    | simple => exact .bind hT.toSteps (hl w 0 value) fun a w' _ => .pure _
    | recursive | append | conditional => exact .pure _
  | some old =>
    cases op with
    | simple => exact .bind hT.toSteps (hl w 0 value) fun a w' _ => .pure _
    | recursive | conditional => exact .pure _
    | append =>
      simp only [assigned]
      split
      · exact .bind hT.toSteps (hl w 0 value) fun a w' _ => .pure _
      · exact .pure _

/-- An assignment goes along where its name, its value and what it writes do. -/
theorem assign_along (name : Text) (op : Assignment) (value : Text) :
    Run.Along T w (assign l name op value) (assign l' name op value) := by
  unfold assign
  split
  · exact .of_eq rfl (hT.fail _)
  · next hname =>
    refine .make_bind ?_
    dsimp only
    split
    · exact .pure ()
    · next horigin =>
      refine .bind_result hT.toSteps (assigned_along hT hl op value _) fun v w' hv hw' => ?_
      cases v with
      | none => exact .pure ()
      | some v =>
        have hne : name ≠ [] := by simpa using hname
        exact .of_eq rfl fun _ => hT.assign hw' hne horigin (follows_of_assigned hv)

/-- Every statement goes along where evaluation may write. -/
theorem evaluateStatement_along (s : Statement) :
    Run.Along T w (evaluateStatement l s) (evaluateStatement l' s) := by
  cases s with
  | assign name op value =>
    exact .bind hT.toSteps (hl w 0 name) fun name w' _ => assign_along hT hl name.trim op value
  | undefine name =>
    exact .bind hT.toSteps (hl w 0 name) fun name w' _ => .of_eq rfl (hT.undefine name.trim)
  | bare line =>
    refine .bind hT.toSteps (hl w 0 line) fun residue w' _ => ?_
    split
    · exact .pure ()
    · exact .of_eq rfl (hT.fail _)
  | unterminated => exact .of_eq rfl (hT.fail _)

/-- Statements go along one after the other, until make is stopped. -/
theorem evaluateStatements_along (ss : List Statement) :
    Run.Along T w (evaluateStatements l ss) (evaluateStatements l' ss) := by
  induction ss generalizing w with
  | nil => exact .pure ()
  | cons s ss ih =>
    simp only [evaluateStatements]
    refine .stopped_bind ?_
    split
    · exact .pure ()
    · exact .bind hT.toSteps (evaluateStatement_along hT hl s) fun _ w' _ => ih

end

end

end MakeHost.Make
