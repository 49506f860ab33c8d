import MakeHost.Proofs.Reachable
import MakeHost.Proofs.VariableRequests

/-!
# Variables as a finite map

To the host make's variables are a finite map. A `VariableMap` says what is stored under each name;
`VariableOperation.answer` and `VariableOperation.after` say what an operation answers there and
what it leaves. Operations are carried out as make text, so a value is broken up into a block and
read back line by line; `VariableOperation.perform_request` shows of one operation, and
`VariableOperation.perform_requests` of any number of them, that make answers what the map answers
and holds what the map holds afterwards.
-/

namespace MakeHost

open DefineBlock

variable {κ μ : Type}

/-! ## The map -/

/-- The variables by name. -/
abbrev VariableMap := Text → Option Variable

namespace VariableMap

variable (σ : VariableMap) (name text : Text)

/-- What is stored of a text that is assigned. -/
def stored (flavor : Flavor) : Text := if flavor = .simple then text else guarded text

/-- A variable is set. -/
def set (flavor : Flavor) : VariableMap :=
  Function.update σ name (some ⟨stored text flavor, flavor, .file⟩)

/-- A text is appended to a variable, which keeps its flavor; one that is not there is set. -/
def append : VariableMap :=
  match σ name with
  | none => σ.set name text .recursive
  | some old => Function.update σ name (some (Make.extended old (stored text old.flavor)))

/-- What is stored under a name, or a default when there is nothing. -/
def value (default : Text) : Text := ((σ name).map (·.value)).getD default

/-- The origin of a variable. -/
def origin : Origin := ((σ name).map (·.origin)).getD .undefined

/-- The flavor of a variable. -/
def flavor : Flavor := ((σ name).map (·.flavor)).getD .undefined

/-- Every variable has a name, a value that make can hand over, and an origin that neither hides it
nor keeps make text from changing it. -/
structure Ordinary : Prop where
  named : σ [] = none
  clean : ∀ name v, σ name = some v → '\x00' ∉ v.value
  origin : ∀ name v, σ name = some v → v.origin ≠ .undefined ∧ v.origin ≠ .commandLine

end VariableMap

/-! ## Operations -/

/-- What the host may ask of make's variables. -/
inductive VariableOperation
  | set (name : Text) (value : Value) (flavor : Flavor)
  | append (name : Text) (value : Value)
  /-- Reads the text that is stored. -/
  | get (name default : Text)
  | origin (name : Text)
  | flavor (name : Text)
  | defined (name : Text)

/-- The answer to an operation. -/
inductive VariableAnswer
  | done
  | text (s : Text)
  | origin (o : Origin)
  | flavor (f : Flavor)
  | flag (b : Bool)
deriving DecidableEq

namespace VariableOperation

/-- The host carries out an operation. -/
def request : VariableOperation → Host.Attempt κ μ VariableAnswer
  | set name value f => do
    Host.set name value f
    return .done
  | append name value => do
    Host.append name value
    return .done
  | get name default => do return .text (← Host.get name default false)
  | origin name => do return .origin (← Host.origin name)
  | flavor name => do return .flavor (← Host.flavor name)
  | defined name => do return .flag (← Host.defined name)

/-- What the map answers. -/
def answer (σ : VariableMap) : VariableOperation → VariableAnswer
  | set .. | append .. => .done
  | get name default => .text (σ.value name default)
  | origin name => .origin (σ.origin name)
  | flavor name => .flavor (σ.flavor name)
  | defined name => .flag (σ name).isSome

/-- The map after an operation. -/
def after (σ : VariableMap) : VariableOperation → VariableMap
  | set name value f => σ.set name value.toText f
  | append name value => σ.append name value.toText
  | get .. | origin _ | flavor _ | defined _ => σ

/-- The name that an operation is about. -/
def name : VariableOperation → Text
  | set name .. | append name _ | get name _ | origin name | flavor name | defined name => name

/-- A value can be assigned: it holds no NUL, and no dollar sign where it would be expanded. -/
def Assignable (value : Value) (flavor : Flavor) : Prop :=
  '\x00' ∉ value.toText ∧ (flavor = .simple → '$' ∉ value.toText)

instance (value : Value) (flavor : Flavor) : Decidable (Assignable value flavor) :=
  inferInstanceAs (Decidable (_ ∧ _))

/-- What an operation assigns can be assigned. -/
def Fits (σ : VariableMap) : VariableOperation → Prop
  | set _ value f => f ≠ .undefined ∧ Assignable value f
  | append name value => Assignable value (σ.flavor name)
  | get .. | origin _ | flavor _ | defined _ => True

instance (σ : VariableMap) : (op : VariableOperation) → Decidable (op.Fits σ)
  | set .. => inferInstanceAs (Decidable (_ ∧ _))
  | append .. => inferInstanceAs (Decidable (Assignable _ _))
  | get .. | origin _ | flavor _ | defined _ => inferInstanceAs (Decidable True)

/-- An operation is about a legal name and fits the map. -/
structure Admissible (σ : VariableMap) (op : VariableOperation) : Prop where
  legal : isLegalVariableName op.name = true
  clean : '\x00' ∉ op.name
  fits : op.Fits σ

/-- What the map answers to operations one after the other. -/
def answers : VariableMap → List VariableOperation → List VariableAnswer
  | _, [] => []
  | σ, op :: ops => op.answer σ :: answers (op.after σ) ops

/-- The map after operations one after the other. -/
def afterAll : VariableMap → List VariableOperation → VariableMap
  | σ, [] => σ
  | σ, op :: ops => afterAll (op.after σ) ops

/-- Each operation is admissible where its turn comes. -/
def AllAdmissible : VariableMap → List VariableOperation → Prop
  | _, [] => True
  | σ, op :: ops => op.Admissible σ ∧ AllAdmissible (op.after σ) ops

instance (σ : VariableMap) (op : VariableOperation) : Decidable (op.Admissible σ) :=
  decidable_of_iff (isLegalVariableName op.name = true ∧ '\x00' ∉ op.name ∧ op.Fits σ)
    ⟨fun ⟨hlegal, hclean, hfits⟩ => ⟨hlegal, hclean, hfits⟩, fun h => ⟨h.legal, h.clean, h.fits⟩⟩

instance : (σ : VariableMap) → (ops : List VariableOperation) → Decidable (AllAdmissible σ ops)
  | _, [] => inferInstanceAs (Decidable True)
  | σ, op :: ops =>
    have : Decidable (AllAdmissible (op.after σ) ops) := instDecidableAllAdmissible _ ops
    inferInstanceAs (Decidable (_ ∧ _))

end VariableOperation

/-! ## What is stored -/

/-- Without a dollar sign it makes no difference whether dollar signs are doubled. -/
theorem DefineBlock.Broken.double {s t : Text} (h : Broken false s t) (hs : '$' ∉ s) :
    Broken true s t := by
  induction h with
  | nil => exact .nil
  | define _ ih => exact .define (ih (by simpa using hs))
  | endef _ ih => exact .endef (ih (by simpa using hs))
  | join _ ih => exact .join (ih (by simpa using hs))
  | last => exact .last
  | dollar _ _ => simp at hs
  | plain hdollar hdefine hendef hlast _ ih =>
    rw [List.mem_cons, not_or] at hs
    exact .plain hdollar hdefine hendef hlast (ih hs.2)

/-- A text without dollar signs that was broken up expands to the text. -/
theorem Make.expandWithin_guarded {respond : Make.Responder κ μ} {w : World κ μ} {fuel depth : Nat}
    {s : Text} (hs : '$' ∉ s) (hw : w.NoUnnamed) (hrunning : w.make.stopped = false)
    (hdepth : depth < Make.maxDepth) :
    Make.expandWithin respond (fuel + 2) depth (guarded s) w = some (s, w) :=
  Make.expandWithin_of_spells (Make.spells_of_broken ((guarded_spec s).double hs)) hw hrunning
    hdepth

namespace VariableMap

variable {σ : VariableMap} {name text : Text} {v : Variable}

/-- A variable that make text sets under a name leaves the map ordinary. -/
theorem Ordinary.update (h : σ.Ordinary) (hname : name ≠ []) (hclean : '\x00' ∉ v.value)
    (horigin : v.origin = .file) : Ordinary (Function.update σ name (some v)) := by
  have hcases : ∀ other u, Function.update σ name (some v) other = some u →
      u = v ∨ σ other = some u := by
    intro other u hu
    by_cases hother : other = name
    · rw [hother, Function.update_self] at hu
      exact .inl (Option.some_inj.1 hu).symm
    · exact .inr (by rwa [Function.update_of_ne hother] at hu)
  refine ⟨by rw [Function.update_of_ne hname.symm, h.named], fun other u hu => ?_,
    fun other u hu => ?_⟩
  · obtain rfl | hu := hcases other u hu
    · exact hclean
    · exact h.clean other u hu
  · obtain rfl | hu := hcases other u hu
    · rw [horigin]
      decide
    · exact h.origin other u hu

/-- What is stored of a text without NUL holds none. -/
theorem nul_notMem_stored (h : '\x00' ∉ text) (flavor : Flavor) : '\x00' ∉ stored text flavor := by
  unfold stored
  split
  · exact h
  · exact (guarded_spec text).notMem h

/-- Setting a variable leaves the map ordinary. -/
theorem Ordinary.set (h : σ.Ordinary) (hname : name ≠ []) (htext : '\x00' ∉ text)
    (flavor : Flavor) : (σ.set name text flavor).Ordinary :=
  h.update hname (nul_notMem_stored htext flavor) rfl

/-- Appending to a variable leaves the map ordinary. -/
theorem Ordinary.append (h : σ.Ordinary) (hname : name ≠ []) (htext : '\x00' ∉ text) :
    (σ.append name text).Ordinary := by
  unfold VariableMap.append
  cases hold : σ name with
  | none => exact h.set hname htext .recursive
  | some old =>
    have hstored := nul_notMem_stored htext old.flavor
    have hvalue := h.clean name old hold
    refine h.update hname ?_ rfl
    unfold Make.extended
    dsimp only
    split
    · exact hstored
    · simpa using ⟨hvalue, hstored⟩

end VariableMap

/-! ## One operation -/

/-- The variables of a world. -/
def World.store (w : World κ μ) : VariableMap := w.make.bindings.get?

/-- A world with other variables, and with its buffers numbered from elsewhere. -/
def World.withVariables (w : World κ μ) (bindings : Table Variable) (next : Nat) : World κ μ :=
  { w with make := { w.make with bindings := bindings, nextBuffer := next } }

/-- Make runs and hands calls to the host, no function is without a name, and every variable is
ordinary. -/
structure World.Ordinary (w : World κ μ) : Prop where
  attached : w.link = .attached
  running : w.make.stopped = false
  uninstalled : w.make.functions.get? [] = none
  store : w.store.Ordinary

/-- In an ordinary world nothing is bound to the empty name. -/
theorem World.Ordinary.noUnnamed {w : World κ μ} (hw : w.Ordinary) : w.NoUnnamed :=
  ⟨hw.store.named, hw.uninstalled⟩

/-- A fresh world has no variables. -/
theorem World.fresh_ordinary (memory : μ) : (World.fresh memory .attached : World κ μ).Ordinary :=
  ⟨rfl, rfl, rfl, rfl, nofun, nofun⟩

namespace VariableOperation

open Host

/-- The map stays ordinary. -/
theorem Admissible.after {σ : VariableMap} {op : VariableOperation} (h : op.Admissible σ)
    (hσ : σ.Ordinary) : (op.after σ).Ordinary := by
  obtain ⟨hlegal, -, hfits⟩ := h
  have hname := ne_nil_of_isLegal hlegal
  cases op with
  | set name value f => exact hσ.set hname hfits.2.1 f
  | append name value => exact hσ.append hname hfits.1
  | get | origin | flavor | defined => exact hσ

/-- Make answers an operation as the map does, and holds afterwards what the map holds. Nothing else
has changed but how many buffers were numbered. -/
def Refines (host : Host κ μ) (fuel : Nat) (w : World κ μ) (op : VariableOperation) : Prop :=
  ∃ bindings next, Make.perform (host.level fuel) op.request.run w =
      some (.ok (op.answer w.store), w.withVariables bindings next) ∧
    bindings.get? = op.after w.store

variable {host : Host κ μ} {w w' : World κ μ} {fuel : Nat} {name default : Text} {value : Value}
  {op : VariableOperation}

/-- What follows a request that did not fail. -/
theorem perform_next {α β : Type} {x : Attempt κ μ α} {a : α} (f : α → β)
    (h : Make.perform (host.level fuel) x.run w = some (.ok a, w')) :
    Make.perform (host.level fuel) (do return f (← x) : Attempt κ μ β).run w =
      some (.ok (f a), w') := by
  rw [ExceptT.run_bind, Make.perform_bind, Run.bind_of_eq_some h]
  rfl

section
variable (hw : w.Ordinary) (hname : isLegalVariableName name = true) (hclean : '\x00' ∉ name)
include hw hname hclean

/-- Make answers the origin that the map has. -/
theorem refines_origin : (origin name).Refines host (fuel + 2) w :=
  ⟨w.make.bindings, w.make.nextBuffer + 1,
    perform_next VariableAnswer.origin (perform_origin hname hclean hw.attached hw.running), rfl⟩

/-- Make answers the flavor that the map has. -/
theorem refines_flavor : (flavor name).Refines host (fuel + 2) w :=
  ⟨w.make.bindings, w.make.nextBuffer + 1,
    perform_next VariableAnswer.flavor (perform_flavor hname hclean hw.attached hw.running), rfl⟩

/-- A variable is there when it has an origin. -/
theorem perform_isSome : Make.perform (host.level (fuel + 2)) (Host.defined name).run w =
    some (.ok (w.store name).isSome, Make.skipBuffer w) := by
  have hsome : (w.make.originOf name != .undefined) = (w.store name).isSome := by
    show (((w.store name).map (·.origin)).getD .undefined != .undefined) = _
    cases hv : w.store name with
    | none => rfl
    | some v => simpa using (hw.store.origin name v hv).1
  rw [perform_defined hname hclean hw.attached hw.running, hsome]

/-- Make answers whether the map has the name. -/
theorem refines_defined : (defined name).Refines host (fuel + 2) w :=
  ⟨w.make.bindings, w.make.nextBuffer + 1,
    perform_next VariableAnswer.flag (perform_isSome hw hname hclean), rfl⟩

/-- Reading what is stored reads the default when nothing is. -/
theorem perform_get : ∃ next, Make.perform (host.level (fuel + 2)) (Host.get name default false).run
    w = some (.ok (w.store.value name default), w.withVariables w.make.bindings next) := by
  have hstored : '\x00' ∉ w.make.rawValue name := by
    show '\x00' ∉ w.store.value name []
    unfold VariableMap.value
    cases hv : w.store name with
    | none => exact List.not_mem_nil
    | some v => exact hw.store.clean name v hv
  have hread : Make.perform (host.level (fuel + 2))
      (Host.expand ("$(value " ++ name ++ ")")).run w =
      some (.ok (w.store.value name []), Make.skipBuffer w) :=
    perform_value hname hclean hw.attached hw.running hstored
  rw [perform_get_of_read false hname hread]
  split
  · have hskip : (Make.skipBuffer w).Ordinary :=
      ⟨hw.attached, hw.running, hw.uninstalled, hw.store⟩
    refine ⟨w.make.nextBuffer + 2,
      (Run.bind_of_eq_some (perform_isSome hskip hname hclean)).trans ?_⟩
    unfold VariableMap.value
    show some (Except.ok (if (w.store name).isSome then _ else _), _) = _
    cases w.store name <;> rfl
  · next hfull =>
    refine ⟨w.make.nextBuffer + 1, ?_⟩
    unfold VariableMap.value at hfull ⊢
    cases hv : w.store name with
    | some v => rfl
    | none =>
      have hdefault : default = [] := by simpa [hv] using hfull
      rw [hdefault]
      rfl

/-- Make answers the value that the map has, or the default. -/
theorem refines_get : (get name default).Refines host (fuel + 2) w := by
  obtain ⟨next, hget⟩ := perform_get hw hname hclean
  exact ⟨w.make.bindings, next, perform_next VariableAnswer.text hget, rfl⟩

omit hw hname hclean in
/-- The result of an operation that sets a variable. -/
theorem refines_of_insert {v : Variable} (hdone : op.answer w.store = .done)
    (hafter : op.after w.store = Function.update w.store name (some v))
    (hperform : Make.perform (host.level fuel) op.request.run w =
      some (.ok .done, { w with make := w.make.setVariable name v })) : op.Refines host fuel w :=
  ⟨w.make.bindings.insert name v, w.make.nextBuffer, hdone ▸ hperform,
    Table.get?_insert.trans hafter.symm⟩

/-- Make sets the variable that the map sets. -/
theorem refines_set {f : Flavor} (hf : f ≠ .undefined) (hvalue : Assignable value f) :
    (set name value f).Refines host (fuel + 3) w := by
  obtain ⟨hnul, hdollar⟩ := hvalue
  have horigin : (w.make.bindings.get? name).map (·.origin) ≠ some .commandLine := by
    intro h
    obtain ⟨v, hv, hcommandLine⟩ := Option.map_eq_some_iff.1 h
    exact (hw.store.origin name v hv).2 hcommandLine
  refine refines_of_insert (v := ⟨VariableMap.stored value.toText f, f, .file⟩) rfl rfl ?_
  refine perform_next (fun _ => VariableAnswer.done) (a := ()) ?_
  cases f with
  | recursive =>
    exact perform_set_recursive hname hclean hw.attached hw.running hnul horigin
  | simple =>
    have hdepth : 0 < Make.maxDepth := by decide
    have hexpand : (host.level (fuel + 2)).expand 0 (guarded value.toText) w =
        some (value.toText, w) :=
      Make.expandWithin_guarded (hdollar rfl) hw.noUnnamed hw.running hdepth
    rw [perform_set_simple hname hclean hw.attached hw.running hnul horigin,
      Run.bind_of_eq_some hexpand]
    rfl
  | undefined => exact absurd rfl hf

/-- Make appends to the variable that the map appends to. -/
theorem refines_append (hvalue : Assignable value (w.store.flavor name)) :
    (append name value).Refines host (fuel + 3) w := by
  obtain ⟨hnul, hdollar⟩ := hvalue
  have hne := ne_nil_of_isLegal hname
  have happend : Make.perform (host.level (fuel + 3)) (Host.append name value).run w =
      (Make.assign (host.level (fuel + 2)) name .append (guarded value.toText) >>= fun _ =>
        pure (.ok ())) w :=
    perform_append hname hclean hw.attached hw.running hnul
  cases hold : w.store name with
  | none =>
    have hafter : (append name value).after w.store = Function.update w.store name
        (some ⟨guarded value.toText, .recursive, .file⟩) := by
      rw [after, VariableMap.append, hold]
      rfl
    refine refines_of_insert rfl hafter (perform_next (fun _ => VariableAnswer.done) (a := ()) ?_)
    rw [happend, Run.bind_of_eq_some (Make.assign_append_none hne hold)]
    rfl
  | some old =>
    have hafter : (append name value).after w.store = Function.update w.store name
        (some (Make.extended old (VariableMap.stored value.toText old.flavor))) := by
      rw [after, VariableMap.append, hold]
    have haddition : (if old.flavor = .simple
          then (host.level (fuel + 2)).expand 0 (guarded value.toText)
          else pure (guarded value.toText)) w =
        some (VariableMap.stored value.toText old.flavor, w) := by
      unfold VariableMap.stored
      split
      · next hsimple =>
        have hflavor : w.store.flavor name = old.flavor := by
          rw [VariableMap.flavor, hold]
          rfl
        have hdepth : 0 < Make.maxDepth := by decide
        exact Make.expandWithin_guarded (hdollar (hflavor.trans hsimple)) hw.noUnnamed hw.running
          hdepth
      · rfl
    refine refines_of_insert rfl hafter (perform_next (fun _ => VariableAnswer.done) (a := ()) ?_)
    rw [happend, Run.bind_of_eq_some (Make.assign_append_some hne hold
      (hw.store.origin name old hold).2 haddition)]
    rfl

end

/-- **One operation comes to what the map says of it.** -/
theorem refines (hw : w.Ordinary) (hop : op.Admissible w.store) :
    op.Refines host (fuel + 3) w := by
  obtain ⟨hname, hclean, hfits⟩ := hop
  cases op with
  | set name value f => exact refines_set hw hname hclean hfits.1 hfits.2
  | append name value => exact refines_append hw hname hclean hfits
  | get name default => exact refines_get hw hname hclean
  | origin name => exact refines_origin hw hname hclean
  | flavor name => exact refines_flavor hw hname hclean
  | defined name => exact refines_defined hw hname hclean

/-! ## Any number of operations -/

/-- **To the host make's variables are a finite map.** Operations one after the other, of which each
is admissible where its turn comes, all succeed and are answered as the map answers them. Afterwards
make's variables are what the map says, and nothing else has changed but how many buffers were
numbered: make runs on, and no call was handed out. -/
theorem perform_requests (host : Host κ μ) (fuel : Nat) (hw : w.Ordinary)
    (ops : List VariableOperation) (hops : AllAdmissible w.store ops) :
    ∃ bindings next, Make.perform (host.level (fuel + 3)) (ops.mapM request).run w =
        some (.ok (answers w.store ops), w.withVariables bindings next) ∧
      bindings.get? = afterAll w.store ops := by
  induction ops generalizing w with
  | nil => exact ⟨w.make.bindings, w.make.nextBuffer, rfl, rfl⟩
  | cons op ops ih =>
    obtain ⟨hop, hops⟩ := hops
    have hstep : op.Refines host (fuel + 3) w := refines hw hop
    obtain ⟨bindings, next, hperform, hbindings⟩ := hstep
    have hstore : (w.withVariables bindings next).store = op.after w.store := hbindings
    have hordinary : (w.withVariables bindings next).store.Ordinary :=
      hstore ▸ hop.after hw.store
    have hw' : (w.withVariables bindings next).Ordinary :=
      ⟨hw.attached, hw.running, hw.uninstalled, hordinary⟩
    obtain ⟨bindings', next', hrest, hbindings'⟩ := ih hw' (hstore ▸ hops)
    refine ⟨bindings', next', ?_, hbindings'.trans (hstore ▸ rfl)⟩
    rw [List.mapM_cons, ExceptT.run_bind, Make.perform_bind, Run.bind_of_eq_some hperform]
    dsimp only
    rw [perform_next (op.answer w.store :: ·) hrest, hstore]
    rfl

/-- A recursive and a simple variable, set and appended to in a fresh world. -/
theorem perform_requests_fresh : ∃ w',
    Make.perform (quiet.level 3)
        ([.set "A" (.text "$(B)\nendef".toList) .recursive, .append "A" (.text "define\\".toList),
          .get "A" "", .set "B" (.flag true) .simple, .append "B" (.text "endef".toList),
          .get "B" "none", .flavor "B", .get "C" "none", .origin "A", .defined "C"].mapM
          request).run (World.fresh () .attached) =
      some (.ok [.done, .done, .text "$(B)\n$()endef $()define\\$()", .done, .done,
        .text "1 endef", .flavor .simple, .text "none", .origin .file, .flag false], w') ∧
    w'.make.fatal = none ∧ w'.make.calls = 0 := by
  obtain ⟨bindings, next, hperform, -⟩ := perform_requests quiet 0 (World.fresh_ordinary ())
    [.set "A" (.text "$(B)\nendef".toList) .recursive, .append "A" (.text "define\\".toList),
      .get "A" "", .set "B" (.flag true) .simple, .append "B" (.text "endef".toList),
      .get "B" "none", .flavor "B", .get "C" "none", .origin "A", .defined "C"] (by decide)
  exact ⟨_, hperform, rfl, rfl⟩

end VariableOperation

end MakeHost
