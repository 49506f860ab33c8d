import MakeHost.Proofs.ArgumentCount
import MakeHost.Proofs.Splice

/-!
# Calls in make text

Three scanners read a call: one looks for the closing bracket and counts brackets of its own kind,
one ends the name at the first gap, and one splits the arguments at the commas outside of brackets
of either kind. They agree on a text whose brackets are nested (`Nested`): it belongs to the
reference that it stands in (`Nested.enclosed`) and no comma in its brackets ends an argument
(`Nested.splitArgumentsFrom_append`). So a function that is called with such arguments gets them,
with those joined again that go beyond its greatest count (`Host.call_gets_arguments`).
-/

namespace MakeHost

variable {κ μ : Type} {w : World κ μ} {name : Text}

namespace Make

open DefineBlock.Splice (IsBrackets Enclosed enclosed_of_forall prepend prepend_prepend
  prepend_nil_splitArgumentsFrom splitArgumentsFrom_cons)

variable {b : Bool} {s arg : Text} {args : List Text} {opening closing : Char}

/-! ## Brackets -/

/-- The brackets of a text are nested. The flag says whether commas may stand outside of them. -/
inductive Nested : Bool → Text → Prop
  | nil (b : Bool) : Nested b []
  | plain {c : Char} {b : Bool} {s : Text} : c ∉ "()\x7b\x7d".toList → (c = ',' → b = true) →
      Nested b s → Nested b (c :: s)
  | brackets {opening closing : Char} {b : Bool} {s t : Text} : IsBrackets opening closing →
      Nested true s → Nested b t → Nested b (opening :: (s ++ closing :: t))

/-- What stands in brackets belongs to every reference with them. -/
theorem enclosed_brackets (hbrackets : IsBrackets opening closing) (hs : Enclosed s) :
    Enclosed (opening :: (s ++ [closing])) := by
  intro opening' closing' hbrackets' depth inner rest
  have hopen : ∀ s, piecesFrom (.inside opening' closing' depth inner) (opening :: s) = piecesFrom
      (.inside opening' closing' (if opening = opening' then depth + 1 else depth)
        (opening :: inner)) s := by
    rcases hbrackets with ⟨rfl, rfl⟩ | ⟨rfl, rfl⟩ <;>
      rcases hbrackets' with ⟨rfl, rfl⟩ | ⟨rfl, rfl⟩ <;> intro s <;> rfl
  have hclose : ∀ inner s, piecesFrom
      (.inside opening' closing' (if opening = opening' then depth + 1 else depth) inner)
        (closing :: s) = piecesFrom (.inside opening' closing' depth (closing :: inner)) s := by
    rcases hbrackets with ⟨rfl, rfl⟩ | ⟨rfl, rfl⟩ <;>
      rcases hbrackets' with ⟨rfl, rfl⟩ | ⟨rfl, rfl⟩ <;> intro inner s <;> rfl
  rw [List.cons_append, List.append_assoc, hopen, hs hbrackets', List.singleton_append, hclose]
  simp

/-- A text with nested brackets belongs to every reference that it stands in. -/
theorem Nested.enclosed (h : Nested b s) : Enclosed s := by
  induction h with
  | nil => exact enclosed_of_forall nofun
  | @plain c b s hc _ _ ih =>
    have hfirst : Enclosed [c] := enclosed_of_forall fun d hd => List.mem_singleton.1 hd ▸ hc
    exact hfirst.append ih
  | @brackets opening closing b s t hbrackets _ _ ihs iht =>
    have hsplit : opening :: (s ++ closing :: t) = opening :: (s ++ [closing]) ++ t := by simp
    rw [hsplit]
    exact (enclosed_brackets hbrackets ihs).append iht

/-! ## Arguments -/

/-- The commas in the brackets of a text end no argument, and neither do those outside of them while
a bracket is open around the text. -/
theorem Nested.splitArgumentsFrom_append (h : Nested b s) {depth : Nat} (hb : b = true → depth ≠ 0)
    (cuts : Option Nat) (t : Text) : splitArgumentsFrom depth cuts (s ++ t) =
      prepend s (splitArgumentsFrom depth cuts t) := by
  induction h generalizing depth t with
  | nil => exact (prepend_nil_splitArgumentsFrom depth cuts t).symm
  | @plain c b s hc hcomma _ ih =>
    have hbracket : c ≠ '(' ∧ c ≠ ')' ∧ c ≠ '\x7b' ∧ c ≠ '\x7d' := by simpa using hc
    have hstays : ¬ (c = ',' ∧ depth = 0 ∧ cuts ≠ some 0) := fun h => hb (hcomma h.1) h.2.1
    rw [List.cons_append, splitArgumentsFrom_cons, if_neg hstays, if_neg (by simp [hbracket]),
      if_neg (by simp [hbracket]), ih hb, prepend_prepend]
    rfl
  | @brackets opening closing b s u hbrackets _ _ ihs ihu =>
    have hopen : ∀ v, splitArgumentsFrom depth cuts (opening :: v) =
        prepend [opening] (splitArgumentsFrom (depth + 1) cuts v) := by
      intro v
      rw [splitArgumentsFrom_cons]
      rcases hbrackets with ⟨rfl, -⟩ | ⟨rfl, -⟩ <;> rfl
    have hclose : ∀ v, splitArgumentsFrom (depth + 1) cuts (closing :: v) =
        prepend [closing] (splitArgumentsFrom depth cuts v) := by
      intro v
      rw [splitArgumentsFrom_cons]
      rcases hbrackets with ⟨-, rfl⟩ | ⟨-, rfl⟩ <;> rfl
    rw [List.cons_append, List.append_assoc, List.cons_append, hopen,
      ihs fun _ => Nat.succ_ne_zero depth, hclose, ihu hb]
    simp

/-- Without further cuts everything is one argument. -/
theorem splitArgumentsFrom_zero (depth : Nat) (s : Text) :
    splitArgumentsFrom depth (some 0) s = [s] := by
  induction s generalizing depth with
  | nil => rfl
  | cons c s ih =>
    rw [splitArgumentsFrom_cons, if_neg fun h => h.2.2 rfl, ih]
    rfl

/-- The arguments that a function with this greatest count gets: those beyond it are joined to the
last one. Zero stands for no greatest count. -/
def joined (max : Nat) (args : List Text) : List Text :=
  if max = 0 ∨ args.length ≤ max then args
  else args.take (max - 1) ++ [Text.join "," (args.drop (max - 1))]

/-- Joining leaves at most the greatest count of arguments. -/
theorem length_joined (max : Nat) (args : List Text) :
    (joined max args).length = if max = 0 then args.length else min args.length max := by
  unfold joined
  split
  · next h => split <;> omega
  · next h =>
    rw [if_neg (by omega)]
    simp
    omega

/-- The first of several arguments is not joined with others. -/
theorem joined_cons (max : Nat) (arg : Text) (args : List Text) :
    joined (max + 2) (arg :: args) = arg :: joined (max + 1) args := by
  unfold joined
  by_cases hfew : args.length ≤ max + 1
  · rw [if_pos (.inr (Nat.succ_le_succ hfew)), if_pos (.inr hfew)]
  · rw [if_neg (by simpa using hfew), if_neg (by simpa using hfew)]
    rfl

/-- An argument ends at the first comma outside of its brackets while another cut may be made. -/
theorem Nested.splitArgumentsFrom_comma (h : Nested false arg) {cuts : Option Nat}
    (hcuts : cuts ≠ some 0) (rest : Text) : splitArgumentsFrom 0 cuts (arg ++ "," ++ rest) =
      arg :: splitArgumentsFrom 0 (cuts.map (· - 1)) rest := by
  rw [List.append_assoc, h.splitArgumentsFrom_append nofun]
  show prepend arg (splitArgumentsFrom 0 cuts (',' :: rest)) = _
  rw [splitArgumentsFrom_cons, if_pos ⟨rfl, rfl, hcuts⟩]
  simp [prepend]

/-- Joined arguments are split where they were joined, as often as the greatest count allows. -/
theorem splitArguments_join (hargs : ∀ arg ∈ args, Nested false arg) (hne : args ≠ []) (max : Nat) :
    splitArguments (Text.join "," args) max = joined max args := by
  induction args generalizing max with
  | nil => exact absurd rfl hne
  | cons arg args ih =>
    have harg := hargs arg List.mem_cons_self
    cases args with
    | nil =>
      have hone : joined max [arg] = [arg] := if_pos (by simp only [List.length_singleton]; omega)
      have hwhole : splitArguments (arg ++ []) max = prepend arg [[]] :=
        harg.splitArgumentsFrom_append nofun _ []
      rw [List.append_nil] at hwhole
      rw [Text.join_singleton, hwhole, hone]
      simp [prepend]
    | cons second rest =>
      have hrest := ih (fun arg harg => hargs arg (List.mem_cons_of_mem _ harg))
        (List.cons_ne_nil second rest)
      cases max with
      | zero =>
        rw [Text.join_cons_cons, splitArguments, if_pos rfl,
          harg.splitArgumentsFrom_comma (by simp)]
        exact congrArg (arg :: ·) (hrest 0)
      | succ max =>
        rw [splitArguments, if_neg (Nat.succ_ne_zero max)]
        cases max with
        | zero =>
          rw [splitArgumentsFrom_zero]
          rfl
        | succ max =>
          rw [Text.join_cons_cons, harg.splitArgumentsFrom_comma (by simp), joined_cons]
          exact congrArg (arg :: ·) (hrest (max + 1))

/-- What no argument has and the comma is not, the joined arguments have not. -/
theorem notMem_join {c : Char} (hc : c ≠ ',') (hargs : ∀ arg ∈ args, c ∉ arg) :
    c ∉ Text.join "," args := by
  induction args with
  | nil => exact List.not_mem_nil
  | cons arg args ih =>
    have harg := hargs arg List.mem_cons_self
    cases args with
    | nil => rwa [Text.join_singleton]
    | cons second rest =>
      have hrest := ih fun arg harg => hargs arg (List.mem_cons_of_mem _ harg)
      rw [Text.join_cons_cons]
      simpa [harg, hc] using hrest

/-- Joining puts nothing between arguments but commas. -/
theorem notMem_joined {c : Char} (hc : c ≠ ',') (hargs : ∀ arg ∈ args, c ∉ arg) {max : Nat} :
    ∀ arg ∈ joined max args, c ∉ arg := by
  unfold joined
  split
  · exact hargs
  · intro arg harg
    rw [List.mem_append, List.mem_singleton] at harg
    obtain harg | rfl := harg
    · exact hargs arg (List.mem_of_mem_take harg)
    · exact notMem_join hc fun arg harg => hargs arg (List.mem_of_mem_drop harg)

/-- Joined arguments begin as the first one does, or with a comma. -/
theorem head?_join (hfirst : ∀ first ∈ args.head?, ∀ c ∈ first.head?, isGap c = false) :
    ∀ c ∈ (Text.join "," args).head?, isGap c = false := by
  match args with
  | [] => nofun
  | [arg] =>
    rw [Text.join_singleton]
    exact hfirst arg rfl
  | [] :: second :: rest =>
    rw [Text.join_cons_cons]
    intro c hc
    cases hc
    decide
  | (d :: arg) :: second :: rest =>
    rw [Text.join_cons_cons]
    intro c hc
    cases hc
    exact hfirst (d :: arg) rfl d rfl

/-- Joined arguments with nested brackets belong to the reference that they stand in. -/
theorem enclosed_join (hargs : ∀ arg ∈ args, Nested false arg) : Enclosed (Text.join "," args) := by
  induction args with
  | nil => exact enclosed_of_forall nofun
  | cons arg args ih =>
    have harg := (hargs arg List.mem_cons_self).enclosed
    cases args with
    | nil => rwa [Text.join_singleton]
    | cons second rest =>
      have hcomma : Enclosed "," := enclosed_of_forall (by decide)
      rw [Text.join_cons_cons]
      exact (harg.append hcomma).append (ih fun arg harg => hargs arg (List.mem_cons_of_mem _ harg))

/-! ## Calls -/

/-- An argument that reaches a function as it stands in make text. -/
structure IsArgument (arg : Text) : Prop where
  literal : '$' ∉ arg
  clean : '\x00' ∉ arg
  nested : Nested false arg

/-- The text of a call in brackets of either kind. -/
def callText (opening closing : Char) (name : Text) (args : List Text) : Text :=
  '$' :: opening :: (name ++ " " ++ Text.join "," args ++ [closing])

variable {respond : Responder κ μ} {l : Level κ μ} {fuel depth : Nat} {f : Function}

/-- A call is one reference. -/
theorem pieces_callText (hbrackets : IsBrackets opening closing) (hname : Enclosed name)
    (hargs : ∀ arg ∈ args, Nested false arg) : pieces (callText opening closing name args) =
      [.reference (name ++ " " ++ Text.join "," args)] := by
  have hgap : Enclosed " " := enclosed_of_forall (by decide)
  have hinner := (hname.append hgap).append (enclosed_join hargs)
  have hopen : ∀ rest, pieces ('$' :: opening :: rest) =
      piecesFrom (.inside opening closing 0 []) rest := by
    rcases hbrackets with ⟨rfl, rfl⟩ | ⟨rfl, rfl⟩ <;> intro rest <;> rfl
  have hclose : ∀ inner, piecesFrom (.inside opening closing 0 inner) [closing] =
      [.reference inner.reverse] := by
    rcases hbrackets with ⟨rfl, rfl⟩ | ⟨rfl, rfl⟩ <;> intro inner <;> rfl
  rw [callText, hopen, hinner hbrackets, hclose]
  simp

/-- Arguments without dollar signs are passed as they stand, whatever the policy is. -/
theorem passed_of_notMem (hargs : ∀ arg ∈ args, '$' ∉ arg) (hrunning : w.make.stopped = false)
    (hdepth : depth < maxDepth) (policy : Policy) :
    passed (levelWithin respond (fuel + 1)) depth policy args w = some (args, w) := by
  cases policy with
  | verbatim => rfl
  | expand =>
    show args.mapM ((levelWithin respond (fuel + 1)).expand (depth + 1)) w = some (args, w)
    induction args with
    | nil => rfl
    | cons arg args ih =>
      have hself : (levelWithin respond (fuel + 1)).expand (depth + 1) arg w = some (arg, w) :=
        expandWithin_of_notMem (hargs arg List.mem_cons_self) hrunning hdepth
      rw [List.mapM_cons, Run.bind_of_eq_some hself,
        Run.bind_of_eq_some (ih fun arg harg => hargs arg (List.mem_cons_of_mem _ harg))]
      rfl

/-- A call that is handed to the host is counted and answered, and its result collected. -/
theorem handOut_attached (hw : w.link = .attached) (hargs : ∀ arg ∈ args, '\x00' ∉ arg) :
    handOut respond l name args w =
      (Run.changeMake State.countCall >>= fun _ => respond l name args >>= collect) w := by
  have hsame : args.map handedOver = args := by
    conv_rhs => rw [← List.map_id args]
    exact List.map_congr_left fun arg harg => if_neg (by simpa using hargs arg harg)
  rw [handOut, hsame, Run.bind_of_eq_some (Run.get_apply (w := w)), hw]

/-- A call is refused for the number of its arguments, or handed out with those joined that go
beyond the function's greatest count. -/
theorem expandCall_of_arguments (hargs : ∀ arg ∈ args, IsArgument arg) (hne : args ≠ [])
    (hcounts : f.max = 0 ∨ f.min ≤ f.max) (hrunning : w.make.stopped = false)
    (hdepth : depth < maxDepth) :
    expandCall respond (levelWithin respond (fuel + 1)) depth name f
        (some (Text.join "," args)) w =
      if args.length < f.min then
        some ([], { w with make := w.make.fail (tooFewArguments args.length name) })
      else handOut respond (levelWithin respond (fuel + 1)) name (joined f.max args) w := by
  have hsplit : splitCall f (some (Text.join "," args)) = joined f.max args :=
    splitArguments_join (fun arg harg => (hargs arg harg).nested) hne f.max
  have hlength := length_joined f.max args
  rw [expandCall_eq, hsplit]
  by_cases hfew : args.length < f.min
  · have hcount : (joined f.max args).length = args.length := by
      rw [hlength]
      split <;> omega
    rw [hcount, if_pos hfew, if_pos hfew]
    rfl
  · have henough : ¬ (joined f.max args).length < f.min := by
      rw [hlength]
      split <;> omega
    have hliteral : ∀ arg ∈ joined f.max args, '$' ∉ arg :=
      notMem_joined (by decide) fun arg harg => (hargs arg harg).literal
    rw [if_neg henough, if_neg hfew,
      Run.bind_of_eq_some (passed_of_notMem hliteral hrunning hdepth f.policy),
      Run.bind_of_eq_some (Run.stopped_eq hrunning)]
    rfl

end Make

/-- The characters of a function name do not end it in a call. -/
theorem FunctionName.plain_of_mem (name : FunctionName) {c : Char} (hc : c ∈ name.text) :
    Make.isGap c = false ∧ c ∉ "()\x7b\x7d".toList := by
  have hchar := name.isNameChar_of_mem hc
  simp only [isNameChar, Bool.and_eq_true, Bool.not_eq_true'] at hchar
  refine ⟨Make.isGap_of_isBlank hchar.1.2, fun hmem => ?_⟩
  have hallowed := hchar.2
  revert hmem hallowed
  simp
  grind

/-- A call with such arguments is refused for their number, or handed out. -/
theorem Make.expandWithin_callText {respond : Make.Responder κ μ} {fuel depth : Nat}
    {f : Make.Function} {opening closing : Char} {args : List Text} {function : FunctionName}
    (hbrackets : DefineBlock.Splice.IsBrackets opening closing)
    (hargs : ∀ arg ∈ args, IsArgument arg) (hne : args ≠ [])
    (hfirst : ∀ first ∈ args.head?, ∀ c ∈ first.head?, isGap c = false)
    (hbuiltin : Builtin.ofName? function.text = none)
    (hf : w.make.functions.get? function.text = some f) (hcounts : f.max = 0 ∨ f.min ≤ f.max)
    (hrunning : w.make.stopped = false) (hdepth : depth < maxDepth) :
    expandWithin respond (fuel + 2) depth (callText opening closing function.text args) w =
      if args.length < f.min then
        some ([], { w with make := w.make.fail (tooFewArguments args.length function.text) })
      else handOut respond (levelWithin respond (fuel + 1)) function.text
        (joined f.max args) w := by
  have hname := DefineBlock.Splice.enclosed_of_forall fun c hc => (function.plain_of_mem hc).2
  have hpieces := pieces_callText hbrackets hname fun arg harg => (hargs arg harg).nested
  have hhead := headAndArguments_of_gap (fun c hc => (function.plain_of_mem hc).1)
    (head?_join hfirst)
  show expandText respond (levelWithin respond (fuel + 1)) depth _ w = _
  rw [expandText_call hpieces hhead (.inr hbuiltin) hf hrunning hdepth.le]
  exact expandCall_of_arguments hargs hne hcounts hrunning hdepth

/-- A call of the name is answered by this function: make hands calls to the host, and has the name
with the function's counts. -/
structure World.Answers (w : World κ μ) (entry : Exported κ) : Prop where
  attached : w.link = .attached
  exported : w.exports.get? entry.name.text = some entry
  installed : w.make.functions.get? entry.name.text = some entry.function

variable {entry : Exported κ}

/-- Everywhere in a session, the function that is exported under a name answers its calls. -/
theorem World.Reachable.answers (hw : w.Reachable) (hentry : w.exports.get? name = some entry) :
    w.Answers entry ∧ entry.name.text = name := by
  obtain ⟨log, hlog⟩ := World.reachable_iff_registered.1 hw
  have hname : entry.name.text = name := by
    have hfound := hlog.agrees.last name
    rw [hentry] at hfound
    simpa using List.find?_some hfound.symm
  subst hname
  refine ⟨⟨hw.sound.attached, hentry, ?_⟩, rfl⟩
  rw [hlog.agrees.same, hentry]
  rfl

namespace Host

open DefineBlock.Splice (IsBrackets)

variable {host : Host κ μ} {fuel depth : Nat} {opening closing : Char} {args : List Text}

/-- The host runs the function that is exported under the name of a call, with the arguments of the
call. -/
theorem responder_of_exported (l : Make.Level κ μ)
    (hentry : w.exports.get? entry.name.text = some entry) :
    host.responder l entry.name.text args w =
      Make.perform l (host.running entry args >>= settle host.options) w := by
  have houtcome := host.perform_outcome l entry.name.text args (w := w)
  rw [hentry] at houtcome
  rw [responder, respond, dispatch, Make.perform_bind, Make.perform_bind, Run.bind_apply, houtcome]
  rfl

/-- **An exported function gets the arguments of a call as they stand in make text.** With arguments
whose brackets are nested and that have no comma outside of them, a call in brackets of either kind
stops make when there are fewer than the function's least count, whoever would answer it. Otherwise
exactly one call is handed out, and the function that is exported under the name runs with the
arguments; with more than its greatest count, the last one holds the rest with its commas. -/
theorem call_gets_arguments (host : Host κ μ) (fuel : Nat) (hw : w.Answers entry)
    (hrunning : w.make.stopped = false) (hbuiltin : Make.Builtin.ofName? entry.name.text = none)
    (hbrackets : IsBrackets opening closing) (hargs : ∀ arg ∈ args, Make.IsArgument arg)
    (hne : args ≠ []) (hfirst : ∀ first ∈ args.head?, ∀ c ∈ first.head?, Make.isGap c = false)
    (hdepth : depth < Make.maxDepth) :
    (args.length < entry.arity.min → ∀ respond,
      (Make.levelWithin respond (fuel + 2)).expand depth
          (Make.callText opening closing entry.name.text args) w =
        some ([], { w with make := { w.make with
          fatal := some (Make.tooFewArguments args.length entry.name.text) } })) ∧
    (entry.arity.min ≤ args.length →
      (∀ respond, (Make.levelWithin respond (fuel + 2)).expand depth
          (Make.callText opening closing entry.name.text args) w =
        (Run.changeMake Make.State.countCall >>= fun _ =>
          respond (Make.levelWithin respond (fuel + 1)) entry.name.text
            (Make.joined entry.arity.rawMax args) >>= Make.collect) w) ∧
      (host.level (fuel + 2)).expand depth
          (Make.callText opening closing entry.name.text args) w =
        (Run.changeMake Make.State.countCall >>= fun _ =>
          Make.perform (host.level (fuel + 1))
            (host.running entry (Make.joined entry.arity.rawMax args) >>= settle host.options) >>=
          Make.collect) w) := by
  have hexpand : ∀ respond, (Make.levelWithin respond (fuel + 2)).expand depth
      (Make.callText opening closing entry.name.text args) w =
        if args.length < entry.arity.min then some ([], { w with
          make := w.make.fail (Make.tooFewArguments args.length entry.name.text) })
        else Make.handOut respond (Make.levelWithin respond (fuel + 1)) entry.name.text
          (Make.joined entry.arity.rawMax args) w := fun respond =>
    Make.expandWithin_callText hbrackets hargs hne hfirst hbuiltin hw.installed entry.arity.ordered
      hrunning hdepth
  have hclean : ∀ arg ∈ Make.joined entry.arity.rawMax args, '\x00' ∉ arg :=
    Make.notMem_joined (by decide) fun arg harg => (hargs arg harg).clean
  refine ⟨fun hfew respond => ?_, fun henough => ?_⟩
  · rw [hexpand, if_pos hfew, Make.State.fail, Make.fatal_of_running hrunning]
  · have hcall : ∀ respond, (Make.levelWithin respond (fuel + 2)).expand depth
        (Make.callText opening closing entry.name.text args) w =
          (Run.changeMake Make.State.countCall >>= fun _ =>
            respond (Make.levelWithin respond (fuel + 1)) entry.name.text
              (Make.joined entry.arity.rawMax args) >>= Make.collect) w := fun respond => by
      rw [hexpand, if_neg (Nat.not_lt.2 henough), Make.handOut_attached hw.attached hclean]
    refine ⟨hcall, (hcall host.responder).trans ?_⟩
    rw [Run.bind_of_eq_some (Run.changeMake_apply (w := w) _),
      Run.bind_of_eq_some (Run.changeMake_apply (w := w) _), Run.bind_apply, Run.bind_apply,
      responder_of_exported (w := { w with make := w.make.countCall }) _ hw.exported]
    rfl

/-- A function `pair` of exactly two arguments. -/
def pairing : Exported Recipe :=
  ⟨⟨"pair", rfl⟩, .join "|", .two, .expand⟩

/-- A session with that function. -/
def withPairing : World Recipe Unit := (World.fresh () .attached).enter pairing

/-- The world is reached by registering the function. -/
theorem withPairing_reachable : withPairing.Reachable := .change (.fresh ()) (.enter trivial)

/-- A call with one argument, and one with three of which the first has a comma in brackets. -/
theorem call_gets_arguments_pairing :
    (recipes.level 2).expand 0 (Make.callText '(' ')' "pair" ["x"]) withPairing =
      some ([], { withPairing with make := { withPairing.make with
        fatal := some "insufficient number of arguments (1) to function 'pair'" } }) ∧
    Make.callText '\x7b' '\x7d' "pair" ["x(y,z)", "u", "v"] = "$\x7bpair x(y,z),u,v\x7d".toList ∧
    (recipes.level 2).expand 0 (Make.callText '\x7b' '\x7d' "pair" ["x(y,z)", "u", "v"])
        withPairing =
      (Run.changeMake Make.State.countCall >>= fun _ =>
        Make.perform (recipes.level 1) (recipes.running pairing ["x(y,z)", "u,v"] >>=
          settle recipes.options) >>= Make.collect) withPairing := by
  have hletter : ∀ c ∈ "xuv".toList, Make.IsArgument [c] := fun c hc =>
    ⟨by revert c; decide, by revert c; decide,
      .plain (by revert c; decide) (by revert c; decide) (.nil _)⟩
  have hinside : Make.Nested true "y,z" :=
    .plain (by decide) (by decide) (.plain (by decide) (by decide)
      (.plain (by decide) (by decide) (.nil _)))
  have hcomma : Make.IsArgument "x(y,z)" :=
    ⟨by decide, by decide, .plain (by decide) (by decide)
      (.brackets (.inl ⟨rfl, rfl⟩) hinside (.nil _))⟩
  have hfirst : ∀ (s : Text) (rest : List Text), ∀ first ∈ (('x' :: s) :: rest).head?,
      ∀ c ∈ first.head?, Make.isGap c = false := by
    rintro s rest _ ⟨⟩ _ ⟨⟩
    rfl
  have hexported : withPairing.exports.get? "pair" = some pairing := rfl
  obtain ⟨hanswers, -⟩ := withPairing_reachable.answers hexported
  refine ⟨?_, by decide, ?_⟩
  · have hargs : ∀ arg ∈ ["x".toList], Make.IsArgument arg :=
      List.forall_mem_cons.2 ⟨hletter 'x' (by decide), nofun⟩
    exact (call_gets_arguments recipes 0 hanswers rfl rfl (.inl ⟨rfl, rfl⟩) hargs nofun
      (hfirst _ _) (by decide)).1 (by decide) _
  · have hargs : ∀ arg ∈ ["x(y,z)".toList, "u", "v"], Make.IsArgument arg :=
      List.forall_mem_cons.2 ⟨hcomma, List.forall_mem_cons.2 ⟨hletter 'u' (by decide),
        List.forall_mem_cons.2 ⟨hletter 'v' (by decide), nofun⟩⟩⟩
    exact ((call_gets_arguments recipes 0 hanswers rfl rfl (.inr ⟨rfl, rfl⟩) hargs nofun
      (hfirst _ _) (by decide)).2 (by decide)).2

end Host

end MakeHost
