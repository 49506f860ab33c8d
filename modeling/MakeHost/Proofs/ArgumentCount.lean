import MakeHost.Proofs.Exports
import MakeHost.Proofs.Registry
import MakeHost.Recipe

/-!
# The number of arguments of a call

Make counts the arguments of a call against its own record of the function, expands them, and hands
the call out; only then does the host look up the function. What is called while the arguments are
expanded may enter another function under the name, so the function that runs need not be the one
that the arguments were counted for. `Host.Called` says what a call may come to: the function that
runs accepts the count unless one was entered in between that does not. `Host.keepingWithin_along`
says it of whole runs: as long as no text that is expanded within another one takes a count away
from a name, every call of the name has a count that is accepted.
-/

namespace MakeHost

variable {κ μ α : Type} {w w' : World κ μ} {log : List (Exported κ)} {name : Text} {count : Nat}

/-! ## Counts that are accepted -/

/-- The counts of `a` are counts of `b`. -/
def Arity.Within (a b : Arity) : Prop :=
  b.min ≤ a.min ∧ (b.rawMax = 0 ∨ a.rawMax ≠ 0 ∧ a.rawMax ≤ b.rawMax)

instance (a b : Arity) : Decidable (a.Within b) := inferInstanceAs (Decidable (_ ∧ _))

/-- A count is accepted between the bounds, and the upper bound 0 stands for no bound. -/
theorem Arity.accepts_iff {a : Arity} :
    a.accepts count = true ↔ a.min ≤ count ∧ (a.rawMax = 0 ∨ count ≤ a.rawMax) := by
  simp [accepts]

/-- The range of exactly two arguments. -/
def Arity.two : Arity := ⟨2, 2, by decide, by decide, by decide, by decide⟩

/-- Bounds lie within others if and only if every count they accept is accepted there too. -/
theorem Arity.within_iff {a b : Arity} :
    a.Within b ↔ ∀ count, a.accepts count = true → b.accepts count = true := by
  simp only [accepts_iff, Within]
  constructor
  · intro h count hcount
    omega
  · intro h
    have hmin := h a.min ⟨Nat.le_refl _, a.ordered⟩
    rcases Nat.eq_zero_or_pos a.rawMax with hmax | hmax
    · have hlarge := h (a.min + b.rawMax + 1) ⟨by omega, .inl hmax⟩
      omega
    · have hlast := h a.rawMax ⟨by have := a.ordered; omega, .inr (Nat.le_refl _)⟩
      omega

namespace World

/-- The name stands for an exported function that accepts so many arguments. -/
def Accepts (w : World κ μ) (name : Text) (count : Nat) : Prop :=
  ∃ entry ∈ w.exports.get? name, entry.arity.accepts count = true

instance : Decidable (w.Accepts name count) := inferInstanceAs (Decidable (∃ entry ∈ _, _))

/-- The name accepts every count afterwards that it accepted before. -/
def Keeps (name : Text) (w w' : World κ μ) : Prop :=
  ∀ entry ∈ w.exports.get? name, ∃ entry' ∈ w'.exports.get? name, entry.arity.Within entry'.arity

instance : Decidable (Keeps name w w') := inferInstanceAs (Decidable (∀ entry ∈ _, _))

/-- A world keeps what it accepts. -/
theorem Keeps.refl (name : Text) (w : World κ μ) : Keeps name w w :=
  fun entry hentry => ⟨entry, hentry, Arity.within_iff.2 fun _ => id⟩

/-- What two runs keep one after the other is kept by both together. -/
theorem Keeps.trans {w'' : World κ μ} (h : Keeps name w w') (h' : Keeps name w' w'') :
    Keeps name w w'' := by
  intro entry hentry
  obtain ⟨entry', hentry', hwithin⟩ := h entry hentry
  obtain ⟨entry'', hentry'', hwithin'⟩ := h' entry' hentry'
  refine ⟨entry'', hentry'', Arity.within_iff.2 fun count hcount => ?_⟩
  exact Arity.within_iff.1 hwithin' count (Arity.within_iff.1 hwithin count hcount)

/-- A count that was accepted still is, in a world that keeps the function. -/
theorem Keeps.accepts (h : Keeps name w w') (hw : w.Accepts name count) :
    w'.Accepts name count := by
  obtain ⟨entry, hentry, hcount⟩ := hw
  obtain ⟨entry', hentry', hwithin⟩ := h entry hentry
  exact ⟨entry', hentry', Arity.within_iff.1 hwithin count hcount⟩

end World

/-! ## What make counts -/

namespace Make

variable {l : Level κ μ} {respond : Responder κ μ} {depth : Nat} {f : Function}
  {args : Option Text}

/-- A number of cuts makes at most one more piece. -/
theorem length_splitArgumentsFrom_le (brackets cuts : Nat) (s : Text) :
    (splitArgumentsFrom brackets (some cuts) s).length ≤ cuts + 1 := by
  induction s generalizing brackets cuts with
  | nil => simp [splitArgumentsFrom]
  | cons c s ih =>
    rw [splitArgumentsFrom]
    split
    · next hcut =>
      have hcuts : cuts ≠ 0 := fun h => hcut.2.2 (congrArg some h)
      have hrest := ih 0 (cuts - 1)
      simp only [List.length_cons, Option.map_some]
      omega
    · generalize (if c = '(' ∨ c = '\x7b' then brackets + 1
        else if c = ')' ∨ c = '\x7d' then brackets - 1 else brackets) = inside
      have hrest := ih inside cuts
      dsimp only
      split
      · simp
      · next heq =>
        rw [heq] at hrest
        simpa using hrest

/-- A call is never cut into more arguments than the function takes. -/
theorem length_splitCall_le : f.max = 0 ∨ (splitCall f args).length ≤ f.max := by
  rw [or_iff_not_imp_left]
  intro hmax
  cases args with
  | none => exact Nat.zero_le _
  | some args =>
    show (splitArguments args f.max).length ≤ f.max
    rw [splitArguments, if_neg hmax]
    have hlength := length_splitArgumentsFrom_le 0 (f.max - 1) args
    omega

/-- As many arguments are passed as were counted. -/
theorem length_passed {policy : Policy} {texts texts' : List Text}
    (h : passed l depth policy texts w = some (texts', w')) : texts'.length = texts.length := by
  cases policy with
  | expand => exact Run.length_of_mapM h
  | verbatim =>
    cases h
    rfl

end Make

namespace World.Registered

/-- A count that make lets through is accepted by the function that the name stands for then. -/
theorem accepts (hw : w.Registered log) {f : Make.Function}
    (hf : w.make.functions.get? name = some f) (hmin : f.min ≤ count)
    (hmax : f.max = 0 ∨ count ≤ f.max) : w.Accepts name count := by
  obtain ⟨entry, hentry, rfl⟩ := Option.map_eq_some_iff.1 ((hw.agrees.same name).symm.trans hf)
  exact ⟨entry, hentry, Arity.accepts_iff.2 ⟨hmin, hmax⟩⟩

/-- A count that was accepted before is accepted after more functions have been entered if and only
if the one that was entered last under the name accepts it. -/
theorem accepts_append_iff (hw : w.Registered log) {more : List (Exported κ)}
    (hw' : w'.Registered (more ++ log)) (hcount : w.Accepts name count) :
    w'.Accepts name count ↔
      ∀ entry, more.find? (·.name.text = name) = some entry → entry.arity.accepts count = true := by
  have hbefore := hw.agrees.last name
  have hafter := hw'.agrees.last name
  rw [List.find?_append] at hafter
  cases hlast : more.find? (·.name.text = name) with
  | none =>
    rw [hlast, Option.none_or, ← hbefore] at hafter
    simpa [Accepts, hafter] using hcount
  | some entry =>
    rw [hlast, Option.some_or] at hafter
    simp [Accepts, hafter]

end World.Registered

/-! ## One call -/

namespace Host

variable {host : Host κ μ} {fuel depth : Nat} {f : Make.Function} {args : Option Text}
  {result : Text × World κ μ}

/-- Runs an exported function and says how the call ends. -/
def running (host : Host κ μ) (entry : Exported κ) (args : List Text) : Action κ μ Outcome := do
  match ← (host.body entry.code entry.name.text args).run with
  | .ok value => return .value value
  | .error raised => return .failed entry.name.text raised.toFailure

/-- Arguments that make hands over are decoded to the texts that they are. -/
theorem decodeArguments_utf8 (args : List Text) :
    decodeArguments (args.map Text.utf8) = .ok args := by
  induction args with
  | nil => rfl
  | cons arg args ih =>
    rw [decodeArguments] at ih
    rw [decodeArguments, List.map_cons, List.mapM_cons, Value.decodeArgument, Utf8.decode_utf8, ih]
    rfl

/-- The function that runs is the one that the name stands for when the call is handed out, and it
gets every argument that is. -/
theorem perform_outcome (host : Host κ μ) (l : Make.Level κ μ) (name : Text) (args : List Text) :
    Make.perform l (host.outcome name.utf8 (args.map Text.utf8)) w =
      match w.exports.get? name with
      | none => some (.unknown, w)
      | some entry => Make.perform l (host.running entry args) w := by
  rw [outcome, Make.perform_bind, Run.bind_of_eq_some (perform_lookup l name)]
  cases w.exports.get? name with
  | none => rfl
  | some entry =>
    dsimp only
    rw [invoke, decodeArguments_utf8]
    rfl

/-- What a call of an exported function comes to, with the functions that were entered before it. -/
inductive Called (host : Host κ μ) (l : Make.Level κ μ) (log : List (Exported κ)) (w : World κ μ)
    (depth : Nat) (name : Text) (f : Make.Function) (args : Option Text)
    (result : Text × World κ μ) : Prop
  /-- Make settles it by itself, whatever the host would answer. -/
  | settled : (∀ respond, Make.expandCall respond l depth name f args w = some result) →
      Called host l log w depth name f args result
  /-- Its arguments are passed, while more functions may be entered, and it is handed out. The
  function that the name stands for then accepts their number if and only if the one that was
  entered last under the name meanwhile does, if there is one; while arguments are passed as they
  stand there is none. -/
  | handedOut {texts : List Text} {more : List (Exported κ)} {w₁ : World κ μ} :
      Make.passed l depth f.policy (Make.splitCall f args) w = some (texts, w₁) →
      w₁.Registered (more ++ log) →
      Make.handOut host.responder l name texts w₁ = some result →
      (w₁.Accepts name texts.length ↔ ∀ entry, more.find? (·.name.text = name) = some entry →
        entry.arity.accepts texts.length = true) →
      (f.policy = .verbatim → w₁.Accepts name texts.length) →
      Called host l log w depth name f args result

/-- Every call of an exported function comes to one of the two. -/
theorem called_of_expandCall (hw : w.Registered log) (hf : w.make.functions.get? name = some f)
    (h : Make.expandCall host.responder (host.level fuel) depth name f args w = some result) :
    Called host (host.level fuel) log w depth name f args result := by
  obtain ⟨hfew, hresult⟩ | ⟨henough, texts, w₁, hpassed, hrest⟩ :=
    Make.expandCall_eq_some_iff.1 h
  · exact .settled fun respond => Make.expandCall_eq_some_iff.2 (.inl ⟨hfew, hresult⟩)
  obtain ⟨hstopped, hresult⟩ | ⟨hrunning, hhanded⟩ := hrest
  · exact .settled fun respond => Make.expandCall_eq_some_iff.2
      (.inr ⟨henough, texts, w₁, hpassed, .inl ⟨hstopped, hresult⟩⟩)
  obtain ⟨more, hw₁⟩ := hw.since.evolve (passed_along (Nat.le_refl fuel) hpassed).2
  have hcounted : w.Accepts name texts.length := by
    rw [Make.length_passed hpassed]
    exact hw.accepts hf henough Make.length_splitCall_le
  refine .handedOut hpassed hw₁ hhanded (hw.accepts_append_iff hw₁ hcounted) fun hverbatim => ?_
  rw [hverbatim] at hpassed
  cases hpassed
  exact hcounted

end Host

/-! ## Runs -/

namespace Make

/-- Answers a call of the name only when the function that the name stands for accepts the number
of arguments; elsewhere there is no result. -/
def Responder.counting (respond : Responder κ μ) (name : Text) : Responder κ μ :=
  fun l called args w =>
    if called = name → w.Accepts name args.length then respond l called args w else none

/-- Expands a text that stands within another one only where the name accepts every count
afterwards that it accepted before; elsewhere there is no result. -/
def Level.keeping (l : Level κ μ) (name : Text) : Level κ μ where
  expand depth text w :=
    (l.expand depth text w).filter fun result => 0 < depth → World.Keeps name w result.2
  evaluate := l.evaluate

/-- Make with so many steps of nesting, without a result where the expansion of a text within
another one takes a count away from the name. -/
def keepingWithin (respond : Responder κ μ) (name : Text) : Nat → Level κ μ
  | 0 => ⟨fun _ _ => Run.exhausted, fun _ => Run.exhausted⟩
  | fuel + 1 =>
    let l := (keepingWithin respond name fuel).keeping name
    ⟨expandText respond l, fun text => evaluateStatements l (statements text)⟩

variable {T : World κ μ → World κ μ → Prop} {l l' : Level κ μ}

/-- What make does by itself keeps every count. -/
theorem keeps_reads (name : Text) : Reads (World.Keeps name : World κ μ → World κ μ → Prop) where
  right _ := .refl name _
  trans := .trans
  fail _ h := h
  print _ h := h

/-- Restricting a level keeps what it goes along with. -/
theorem Level.Along.keeping (h : l.Along T l') (name : Text) : (l.keeping name).Along T l' where
  expand w depth text := by
    intro hw a w' ha
    exact h.expand w depth text hw (Option.filter_eq_some_iff.1 ha).1
  evaluate := h.evaluate

/-- Passing arguments takes no count away. -/
theorem passed_keeps {depth : Nat} {policy : Policy} {args texts : List Text}
    (h : passed (l.keeping name) depth policy args w = some (texts, w')) :
    World.Keeps name w w' := by
  have hexpand : ∀ w text, Run.Along (World.Keeps name) w
      ((l.keeping name).expand (depth + 1) text) ((l.keeping name).expand (depth + 1) text) := by
    intro w text _ a w' ha
    obtain ⟨-, hkeeps⟩ := Option.filter_eq_some_iff.1 ha
    exact ⟨ha, of_decide_eq_true hkeeps (Nat.succ_pos depth)⟩
  exact (passed_along_same (keeps_reads name) hexpand policy args (.refl name w) h).2

end Make

namespace Host

/-- Where no text within another one takes a count away from the name, every call of the name has a
count that is accepted. The name accepted the count when make counted, and passing the arguments
kept that. -/
theorem keepingWithin_along (host : Host κ μ) (name : Text) (fuel : Nat) :
    (Make.keepingWithin host.responder name fuel).Along
      (fun w w' => w.Reachable ∧ w'.Reachable ∧ World.Evolves (fun _ => True) w w')
      (Make.levelWithin (host.responder.counting name) fuel) := by
  have hserves := World.Reachable.serves (κ := κ) (μ := μ)
  induction fuel with
  | zero => exact ⟨fun _ _ _ => .exhausted, fun _ _ => .exhausted⟩
  | succ fuel ih =>
    have hl := ih.keeping name
    refine ⟨fun w depth text => ?_, fun w text => ?_⟩
    · refine Make.expandText_along hserves.toReads hl.expand (fun w depth called f args hf => ?_)
        depth text
      intro hw
      refine Make.expandCall_along_of_passed hserves.toReads hl.expand
        (fun texts w₁ hmin hpassed => Make.handOut_along hserves ?_) hw
      refine .congr rfl (if_pos fun hcalled => ?_) (Make.perform_along hserves hl (.trivial _))
      subst hcalled
      obtain ⟨log, hlog⟩ := World.reachable_iff_registered.1 hw.1
      rw [List.length_map, Make.length_passed hpassed]
      exact (Make.passed_keeps hpassed).accepts (hlog.accepts hf hmin Make.length_splitCall_le)
    · exact Make.evaluateStatements_along hserves.toWrites hl.expand _

/-- Where calls are answered only with a count that is accepted, make does what it always does. -/
theorem counting_along (host : Host κ μ) (name : Text) (fuel : Nat) :
    (Make.levelWithin (host.responder.counting name) fuel).Along
      (World.Evolves fun _ => True) (host.level fuel) := by
  refine Make.levelWithin_along (World.Evolves.serves _) (fun l l' hl w called args => ?_)
    (Nat.le_refl fuel)
  by_cases hcount : called = name → w.Accepts name args.length
  · exact .congr (if_pos hcount) rfl (host.responder_along hl w called args)
  · have hnone : host.responder.counting name l called args w = Run.exhausted w := if_neg hcount
    exact .congr hnone rfl .exhausted

/-- What make does without taking a count away within a text, it does whether or not calls of the
name are only answered with a count that is accepted. -/
theorem perform_keeping (hw : w.Reachable) {fuel : Nat} {host : Host κ μ} {x : Action κ μ α} {a : α}
    (hx : Make.perform (Make.keepingWithin host.responder name fuel) x w = some (a, w')) :
    Make.perform (host.level fuel) x w = some (a, w') ∧
      Make.perform (Make.levelWithin (host.responder.counting name) fuel) x w = some (a, w') := by
  have hcounting := (Make.perform_along World.Reachable.serves
    (host.keepingWithin_along name fuel) (.trivial x) ⟨hw, hw, .refl⟩ hx).1
  exact ⟨(Make.perform_along (World.Evolves.serves _) (host.counting_along name fuel) (.trivial x)
    .refl hcounting).1, hcounting⟩

end Host

/-! ## Functions with settled counts -/

/-- A function that has these counts if it has the name. -/
def Exported.Settles (name : Text) (counts : Arity) (entry : Exported κ) : Prop :=
  entry.name.text = name → entry.arity = counts

/-- A world of a session where every function that was entered under the name has these counts. -/
def World.Settled (name : Text) (counts : Arity) (w : World κ μ) : Prop :=
  ∃ log, w.Registered log ∧ ∀ entry ∈ log, entry.Settles name counts

namespace World

variable {counts : Arity}

/-- Every export of the name has the settled counts. -/
theorem Settled.arity (h : w.Settled name counts) {entry : Exported κ}
    (hentry : entry ∈ w.exports.get? name) : entry.arity = counts := by
  obtain ⟨log, hw, hlog⟩ := h
  have hfind := (hw.agrees.last name).symm.trans hentry
  exact hlog entry (List.mem_of_find?_eq_some hfind) (by simpa using List.find?_some hfind)

/-- An export under the name can only be one with the settled counts. -/
theorem Settled.change (hw : w.Settled name counts)
    (h : Change (Exported.Settles name counts) w w') : w'.Settled name counts := by
  obtain ⟨log, hw, hlog⟩ := hw
  obtain hchange | ⟨entry, hentry, rfl⟩ := h.enters
  · exact ⟨log, .change hw hchange, hlog⟩
  · exact ⟨entry :: log, .enter entry hw, List.forall_mem_cons.2 ⟨hentry, hlog⟩⟩

/-- The counts stay settled over whole runs. -/
theorem Settled.evolve (hw : w.Settled name counts)
    (h : Evolves (Exported.Settles name counts) w w') : w'.Settled name counts := by
  induction h with
  | refl => exact hw
  | tail _ hchange ih => exact ih.change hchange

/-- A name that stands for a function goes on to stand for one. -/
theorem Registered.isSome_get? (hw : w.Registered log) {more : List (Exported κ)}
    (hw' : w'.Registered (more ++ log)) (h : (w.exports.get? name).isSome) :
    (w'.exports.get? name).isSome := by
  rw [hw.agrees.last] at h
  rw [hw'.agrees.last, List.find?_append, Option.isSome_or, h, Bool.or_true]

/-- With settled counts no count is taken away. -/
theorem Settled.keeps (hw : w.Settled name counts)
    (h : Evolves (Exported.Settles name counts) w w') : Keeps name w w' := by
  intro entry hentry
  have ⟨log, hlog, _⟩ := hw
  obtain ⟨more, hlog'⟩ := hlog.since.evolve (h.mono fun _ _ => True.intro)
  obtain ⟨entry', hentry'⟩ := Option.isSome_iff_exists.1
    (hlog.isSome_get? hlog' (Option.isSome_iff_exists.2 ⟨entry, hentry⟩))
  refine ⟨entry', hentry', ?_⟩
  rw [hw.arity hentry, (hw.evolve h).arity hentry']
  exact Arity.within_iff.2 fun _ => id

end World

namespace Make

variable {E : Exported κ → Prop} {T : World κ μ → World κ μ → Prop} {respond : Responder κ μ}

/-- Where make and the host take no count away, make does within a text what it always does. -/
theorem levelWithin_along_keeping (hT : Serves E T) (hr : respond.Along T respond)
    (hkeeps : ∀ w w', T w w' → World.Keeps name w w') (fuel : Nat) :
    (levelWithin respond fuel).Along T (keepingWithin respond name fuel) := by
  induction fuel with
  | zero => exact ⟨fun _ _ _ => .exhausted, fun _ _ => .exhausted⟩
  | succ fuel ih =>
    have hl : (levelWithin respond fuel).Along T
        ((keepingWithin respond name fuel).keeping name) := by
      refine ⟨fun w depth text hw a w' ha => ?_, ih.evaluate⟩
      obtain ⟨hresult, hstep⟩ := ih.expand w depth text hw ha
      have hkept := decide_eq_true fun _ : 0 < depth => hkeeps w w' hstep
      exact ⟨Option.filter_eq_some_iff.2 ⟨hresult, hkept⟩, hstep⟩
    refine ⟨fun w depth text => ?_, fun w text => ?_⟩
    · exact expandText_along hT.toReads hl.expand
        (fun _ depth name f args _ => expandCall_handedOut hT hr hl depth name f args) depth text
    · exact evaluateStatements_along hT.toWrites hl.expand _

end Make

namespace Host

/-- With settled counts, every call of the name has a count that is accepted. -/
theorem perform_settled {counts : Arity} (hw : w.Settled name counts) {host : Host κ μ}
    (hhost : host.Exports (Exported.Settles name counts)) {x : Action κ μ α}
    (hexports : x.Exports (Exported.Settles name counts)) {fuel : Nat} {a : α}
    (hx : Make.perform (host.level fuel) x w = some (a, w')) :
    Make.perform (Make.levelWithin (host.responder.counting name) fuel) x w = some (a, w') := by
  have hserves := (World.Evolves.serves (μ := μ) (Exported.Settles (κ := κ) name counts)).restrict
    (P := World.Settled name counts) fun hstep hw => hw.evolve hstep
  have hlevel := Make.levelWithin_along_keeping hserves (hhost.responder_along hserves)
    (fun w w' hstep => hstep.1.keeps hstep.2.2) fuel
  have hkeeping := (Make.perform_along hserves hlevel hexports ⟨hw, hw, .refl⟩ hx).1
  obtain ⟨log, hlog, -⟩ := hw
  exact (perform_keeping (World.reachable_iff_registered.2 ⟨log, hlog⟩) hkeeping).2

/-! ## Everywhere in a session -/

/-- **An exported function gets a number of arguments that its counts accept as long as no text that
is expanded within another one takes a count away from its name.** A call runs the function that its
name stands for when the call is handed out; this accepts what make has counted unless a function
was entered under the name while the arguments were passed that does not. Runs in which no text
within another one takes a count away from a name hand out its calls with accepted counts only; so
do all runs when every function that is entered under the name has the same counts. -/
theorem counts_accepted (host : Host κ μ) (hw : w.Registered log) (fuel : Nat) :
    (∀ (l : Make.Level κ μ) (name : Text) (args : List Text),
      Make.perform l (host.outcome name.utf8 (args.map Text.utf8)) w =
        match w.exports.get? name with
        | none => some (.unknown, w)
        | some entry => Make.perform l (host.running entry args) w) ∧
    (∀ (depth : Nat) (name : Text) (f : Make.Function) (args : Option Text)
      (result : Text × World κ μ), w.make.functions.get? name = some f →
      Make.expandCall host.responder (host.level fuel) depth name f args w = some result →
      Called host (host.level fuel) log w depth name f args result) ∧
    ∀ (name : Text) {α : Type} (x : Action κ μ α) (a : α) (w' : World κ μ),
      (Make.perform (Make.keepingWithin host.responder name fuel) x w = some (a, w') →
        Make.perform (host.level fuel) x w = some (a, w') ∧
        Make.perform (Make.levelWithin (host.responder.counting name) fuel) x w =
          some (a, w')) ∧
      ∀ counts, host.Exports (Exported.Settles name counts) →
        x.Exports (Exported.Settles name counts) → (∀ entry ∈ log, entry.Settles name counts) →
        Make.perform (host.level fuel) x w = some (a, w') →
        Make.perform (Make.levelWithin (host.responder.counting name) fuel) x w = some (a, w') := by
  refine ⟨fun l name args => host.perform_outcome l name args,
    fun depth name f args result => called_of_expandCall hw,
    fun name α x a w' => ⟨fun hx => ?_, ?_⟩⟩
  · exact perform_keeping (World.reachable_iff_registered.2 ⟨log, hw⟩) hx
  · intro counts hhost hexports hlog hx
    exact perform_settled ⟨log, hw, hlog⟩ hhost hexports hx

/-- A host whose functions are recipes. -/
def recipes : Host Recipe Unit := ⟨.default, Recipe.body id⟩

/-- The function `f` of one argument, and a function `re` that enters `f` anew with these counts. -/
def entered (min max : Int) : List (Exported Recipe) :=
  [⟨⟨"re", rfl⟩, .register "f" (some min) (some max) none .expand .count, .one, .expand⟩,
    ⟨⟨"f", rfl⟩, .count, .one, .expand⟩]

/-- A session with `f` and `re`. -/
def reentering (min max : Int) : World Recipe Unit :=
  (entered min max).foldr (fun entry w => w.enter entry) (.fresh () .attached)

/-- An export of this shape can be registered. -/
theorem registered_reentering (min max : Int) :
    (reentering min max).Registered (entered min max) :=
  .enter _ (.enter _ (.fresh ()))

/-- Entering `f` with more counts than before takes none away, so `f` may be entered anew while its
argument is expanded. -/
theorem counts_accepted_widened : ∃ buffer w',
    Make.perform (Make.levelWithin (recipes.responder.counting "f") 4)
      (Action.expand "$(f $(re x))") (reentering 1 0) = some (some buffer, w') ∧
    buffer.content = Text.utf8 "1" ∧ w'.Accepts "f" 2 := by
  have hkeeping : (Make.perform (Make.keepingWithin recipes.responder "f" 4)
      (Action.expand "$(f $(re x))") (reentering 1 0)).map
        (fun result => (result.1.map (·.content), decide (result.2.Accepts "f" 2))) =
      some (some (Text.utf8 "1"), true) := by
    decide +kernel
  obtain ⟨⟨answer, w'⟩, hrun, hresult⟩ := Option.map_eq_some_iff.1 hkeeping
  obtain ⟨hcontent, haccepts⟩ := Prod.mk.inj hresult
  obtain ⟨buffer, rfl, hbuffer⟩ := Option.map_eq_some_iff.1 hcontent
  obtain ⟨-, -, hruns⟩ := recipes.counts_accepted (registered_reentering 1 0) 4
  exact ⟨buffer, w', ((hruns "f" (Action.expand "$(f $(re x))") _ _).1 hrun).2, hbuffer,
    of_decide_eq_true haccepts⟩

/-- A function that is entered anew while its argument is expanded: `f` is called with the one
argument that was counted, and takes exactly two. -/
theorem counts_not_accepted : (∃ log, (reentering 2 2).Registered log) ∧
    (∃ w', (recipes.level 4).expand 0 "$(f $(re x))" (reentering 2 2) =
      some (("1" : Text), w') ∧ ¬ w'.Accepts "f" 1) ∧
    (Make.levelWithin (recipes.responder.counting "f") 4).expand 0 "$(f $(re x))"
      (reentering 2 2) = none := by
  have hcalled : ((recipes.level 4).expand 0 "$(f $(re x))" (reentering 2 2)).map
      (fun result => (result.1, decide (result.2.Accepts "f" 1))) =
        some (("1" : Text), false) := by
    decide +kernel
  have hcounting : ((Make.levelWithin (recipes.responder.counting "f") 4).expand 0
      "$(f $(re x))" (reentering 2 2)).isNone = true := by
    decide +kernel
  obtain ⟨⟨a, w'⟩, hrun, hresult⟩ := Option.map_eq_some_iff.1 hcalled
  obtain ⟨rfl, hrefused⟩ := Prod.mk.inj hresult
  exact ⟨⟨_, registered_reentering 2 2⟩, ⟨w', hrun, of_decide_eq_false hrefused⟩,
    Option.isNone_iff_eq_none.1 hcounting⟩

end Host

end MakeHost
