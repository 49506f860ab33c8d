import MakeHost.Lua.Native
import MakeHost.Proofs.Reachable
import MakeHost.Proofs.Utf8

/-!
# The exported functions and make's own record of them

The host keeps its exported functions in one table and make keeps their names and counts in another.
`World.Registered log` are the worlds that a session can be in, in the middle of a call as well as
between two steps, with the functions that were entered on the way, last one first. Both tables are
what that log says (`World.Registered.exports`, `World.Registered.functions`), so they agree
(`World.Registered.agrees`). A call that registers functions has a result whatever runs and never
stops make; when it is rejected it changes nothing (`Host.Registers`).
-/

namespace MakeHost

variable {κ μ : Type} {E : Exported κ → Prop} {w w' : World κ μ} {log : List (Exported κ)}
  {name : Text}

/-! ## What a log says -/

/-- The exported functions after a log. -/
def exportsOf (log : List (Exported κ)) : Exports κ :=
  log.foldr (fun entry exports => exports.insert entry.name.text entry) .empty

/-- Make's functions after a log. -/
def functionsOf (log : List (Exported κ)) : Table Make.Function :=
  log.foldr (fun entry functions => functions.insert entry.name.text entry.function) .empty

/-- A name stands for the function that was entered under it last. -/
theorem get?_exportsOf : (exportsOf log).get? name = log.find? (·.name.text = name) := by
  induction log with
  | nil => rfl
  | cons entry log ih =>
    show ((exportsOf log).insert entry.name.text entry).get? name = _
    by_cases hname : entry.name.text = name
    · rw [List.find?_cons_of_pos (by simpa using hname), ← hname, Table.get?_insert_self]
    · rw [List.find?_cons_of_neg (by simpa using hname),
        Table.get?_insert_of_ne (Ne.symm hname), ih]

/-- Make's functions are the exports with the code left out. -/
theorem get?_functionsOf :
    (functionsOf log).get? name = ((exportsOf log).get? name).map Exported.function := by
  induction log with
  | nil => rfl
  | cons entry log ih =>
    show ((functionsOf log).insert entry.name.text entry.function).get? name =
      (((exportsOf log).insert entry.name.text entry).get? name).map Exported.function
    by_cases hname : name = entry.name.text
    · rw [hname, Table.get?_insert_self, Table.get?_insert_self]
      rfl
    · rw [Table.get?_insert_of_ne hname, Table.get?_insert_of_ne hname, ih]

/-- The names that were entered are distinct. -/
theorem distinct_exportsOf : (exportsOf log).Distinct := by
  induction log with
  | nil => exact Table.distinct_empty
  | cons entry log ih => exact ih.insert

/-! ## Worlds with a log -/

/-- A change enters a function, or it is one that may happen whatever is allowed to be entered. -/
theorem World.Change.enters {F : Exported κ → Prop} (h : Change E w w') :
    Change F w w' ∨ ∃ entry, E entry ∧ w' = w.enter entry := by
  cases h with
  | fail message => exact .inl (.fail message)
  | print line => exact .inl (.print line)
  | assign hname hold hv => exact .inl (.assign hname hold hv)
  | undefine name => exact .inl (.undefine name)
  | countCall => exact .inl .countCall
  | allocate => exact .inl .allocate
  | release buffer => exact .inl (.release buffer)
  | note call => exact .inl (.note call)
  | enter hentry => exact .inr ⟨_, hentry, rfl⟩
  | remember memory => exact .inl (.remember memory)
  | complain line => exact .inl (.complain line)

/-- A change that enters certain exports is one that enters more general ones. -/
theorem World.Change.mono {F : Exported κ → Prop} (h : Change E w w')
    (hEF : ∀ entry, E entry → F entry) : Change F w w' := by
  obtain h | ⟨entry, hentry, rfl⟩ := h.enters
  · exact h
  · exact .enter (hEF entry hentry)

/-- An evolution that enters certain exports is one that enters more general ones. -/
theorem World.Evolves.mono {F : Exported κ → Prop} (h : Evolves E w w')
    (hEF : ∀ entry, E entry → F entry) : Evolves F w w' :=
  h.lift id fun _ _ hchange => hchange.mono hEF

/-- A change that enters no function leaves the exported ones alone. -/
theorem World.Change.exports (h : Change (fun _ => False) w w') : w'.exports = w.exports := by
  cases h with
  | enter hentry => exact hentry.elim
  | note call =>
    unfold World.note
    split <;> rfl
  | fail | print | assign | undefine | countCall | allocate | release | remember | complain => rfl

/-- A world that a session with a host can be in when only the host installs functions, and the
functions that were entered, last one first. -/
inductive World.Registered : List (Exported κ) → World κ μ → Prop
  | fresh (memory : μ) : Registered [] (.fresh memory .attached)
  | enter {log : List (Exported κ)} {w : World κ μ} (entry : Exported κ) :
      Registered log w → Registered (entry :: log) (w.enter entry)
  | change {log : List (Exported κ)} {w w' : World κ μ} :
      Registered log w → World.Change (fun _ => False) w w' → Registered log w'
  | define {log : List (Exported κ)} {w : World κ μ} {name : Text} (value : Text)
      (origin : Origin) :
      name ≠ [] → Registered log w →
      Registered log { w with make := w.make.define name value origin }
  | resume {log : List (Exported κ)} {w : World κ μ} :
      Registered log w → Registered log { w with make := { w.make with fatal := none } }

/-- The log of a world begins with what has been entered since. -/
def World.Since (log : List (Exported κ)) (w : World κ μ) : Prop :=
  ∃ more, w.Registered (more ++ log)

namespace World.Registered

/-- The host's table is what the log says. -/
theorem exports (h : w.Registered log) : w.exports = exportsOf log := by
  induction h with
  | fresh memory => rfl
  | @enter log w entry _ ih =>
    show w.exports.insert entry.name.text entry = (exportsOf log).insert entry.name.text entry
    rw [ih]
  | change _ hchange ih => exact hchange.exports.trans ih
  | define _ _ _ _ ih | resume _ ih => exact ih

/-- Make's table is what the log says. -/
theorem functions (h : w.Registered log) : w.make.functions = functionsOf log := by
  induction h with
  | fresh memory => rfl
  | @enter log w entry _ ih => rw [functions_enter, ih]; rfl
  | change _ hchange ih =>
    obtain heq | ⟨_, hfalse, -⟩ := hchange.functions
    · exact heq.trans ih
    · exact hfalse.elim
  | define _ _ _ _ ih | resume _ ih => exact ih

end World.Registered

/-- The reachable worlds are those with a log. -/
theorem World.reachable_iff_registered : w.Reachable ↔ ∃ log, w.Registered log := by
  constructor
  · intro h
    induction h with
    | fresh memory => exact ⟨[], .fresh memory⟩
    | change _ hchange ih =>
      obtain ⟨log, ih⟩ := ih
      obtain hchange | ⟨entry, -, rfl⟩ := hchange.enters
      · exact ⟨log, .change ih hchange⟩
      · exact ⟨entry :: log, .enter entry ih⟩
    | define value origin hname _ ih =>
      obtain ⟨log, ih⟩ := ih
      exact ⟨log, .define value origin hname ih⟩
    | resume _ ih =>
      obtain ⟨log, ih⟩ := ih
      exact ⟨log, .resume ih⟩
  · rintro ⟨log, h⟩
    induction h with
    | fresh memory => exact .fresh memory
    | enter entry _ ih => exact .change ih (.enter True.intro)
    | change _ hchange ih => exact ih.evolve (.single (hchange.mono fun _ h => h.elim))
    | define value origin hname _ ih => exact .define value origin hname ih
    | resume _ ih => exact .resume ih

/-- Whatever make and the host do adds to the log. -/
theorem World.Since.evolve (hw : World.Since log w) (h : Evolves (fun _ => True) w w') :
    World.Since log w' := by
  induction h with
  | refl => exact hw
  | tail _ hchange ih =>
    obtain ⟨more, ih⟩ := ih
    obtain hchange | ⟨entry, -, rfl⟩ := hchange.enters
    · exact ⟨more, .change ih hchange⟩
    · exact ⟨entry :: more, .enter entry ih⟩

/-- A log is the world's log from there on. -/
theorem World.Registered.since (h : w.Registered log) : World.Since log w := ⟨[], h⟩

/-! ## Agreement -/

/-- The host's table and make's hold the same names, each with the counts and the policy that it was
entered with last. -/
structure World.Agrees (w : World κ μ) (log : List (Exported κ)) : Prop where
  /-- A name stands for the function that was entered under it last. -/
  last : ∀ name, w.exports.get? name = log.find? (·.name.text = name)
  same : ∀ name, w.make.functions.get? name = (w.exports.get? name).map Exported.function
  bounds : ∀ name f, w.make.functions.get? name = some f →
    1 ≤ f.min ∧ (f.max = 0 ∨ f.min ≤ f.max)
  sorted : w.exports.names.Pairwise fun a b => Text.before a b = true
  entered : ∀ name, name ∈ w.exports.names ↔ ∃ entry ∈ log, entry.name.text = name

/-- The tables agree wherever a session can be. -/
theorem World.Registered.agrees (h : w.Registered log) : w.Agrees log where
  last name := by rw [h.exports, get?_exportsOf]
  same name := by rw [h.exports, h.functions, get?_functionsOf]
  bounds name f hf := by
    rw [h.functions, get?_functionsOf] at hf
    obtain ⟨entry, -, rfl⟩ := Option.map_eq_some_iff.1 hf
    exact ⟨entry.arity.one_le_min, entry.arity.ordered⟩
  sorted := by
    rw [h.exports]
    exact distinct_exportsOf.pairwise_names
  entered name := by
    rw [h.exports, Table.mem_names, get?_exportsOf, List.find?_isSome]
    simp

/-! ## Calls that register functions -/

namespace Host

/-- What a call that registers functions comes to. It has a result whatever runs, and does not stop
make. Accepted, it enters functions that it was told of, one after the other; rejected, it changes
nothing. -/
def Registers {ε α : Type} (x : Action κ μ (Except ε α)) (told : List (Exported κ) → Prop) : Prop :=
  ∀ (l : Make.Level κ μ) (log : List (Exported κ)) (w : World κ μ), w.Registered log →
    ∃ result w', Make.perform l x w = some (result, w') ∧ w'.make.fatal = w.make.fatal ∧
      match result with
      | .ok _ => ∃ entries, told entries ∧ w'.Registered (entries.reverse ++ log)
      | .error _ => w' = w

/-- An entry is made of what the host was told. -/
structure Told (name : Text) (arity : Except ExportError Arity) (policy : Policy) (code : κ)
    (entry : Exported κ) : Prop where
  name : entry.name.text = name
  arity : arity = .ok entry.arity
  policy : entry.policy = policy
  code : entry.code = code

/-- The entry that an export comes to, if it is not refused. -/
def entryOf (name : Text) (arity : Except ExportError Arity) (policy : Policy) (code : κ) :
    Except ExportError (Exported κ) := do
  let arity ← arity
  let name ← FunctionName.ofText name
  return ⟨name, code, arity, policy⟩

/-- What an export comes to is what it was told. -/
theorem told_of_entryOf {arity : Except ExportError Arity} {policy : Policy} {code : κ}
    {entry : Exported κ} (h : entryOf name arity policy code = .ok entry) :
    Told name arity policy code entry := by
  cases arity with
  | error fault => cases h
  | ok arity =>
    have hname : ∀ {n : FunctionName}, FunctionName.ofText name = .ok n → n.text = name := by
      intro n hn
      unfold FunctionName.ofText at hn
      split at hn
      · cases hn
      · cases hn
        rfl
    cases hn : FunctionName.ofText name with
    | error fault =>
      rw [entryOf, hn] at h
      cases h
    | ok n =>
      rw [entryOf, hn] at h
      cases h
      exact ⟨hname hn, rfl, rfl, rfl⟩

/-- What a call comes to that enters one function, unless it fails. -/
def entering {ε : Type} (entry : Except ε (Exported κ)) (w : World κ μ) :
    Except ε Unit × World κ μ :=
  match entry with
  | .ok entry => (.ok (), w.enter entry)
  | .error fault => (.error fault, w)

/-- Registering a function enters it, or ends with the fault of its name. -/
theorem perform_register (l : Make.Level κ μ) (name : Text) (arity : Arity) (policy : Policy)
    (code : κ) : Make.perform l (register name arity policy code : Export κ μ Unit).run w =
      some (entering (entryOf name (.ok arity) policy code) w) := by
  rw [register, entryOf]
  cases FunctionName.ofText name <;> rfl

/-- An export enters its function, or ends with the fault of its bounds or its name. -/
theorem perform_exportResolved (l : Make.Level κ μ) (name : Text) (min max : Option Int)
    (signature : Option Signature) (policy : Policy) (code : κ) :
    Make.perform l (exportResolved name min max signature policy code : Export κ μ Unit).run w =
      some (entering (entryOf name (Arity.resolve min max signature) policy code) w) := by
  rw [exportResolved]
  cases Arity.resolve min max signature with
  | error fault => rfl
  | ok arity => exact perform_register l name arity policy code

variable {α β ε : Type} {told : List (Exported κ) → Prop}

/-- A call that enters one function, unless it fails. -/
theorem registers_of_entering {x : Action κ μ (Except ε Unit)} {entry : Except ε (Exported κ)}
    (hx : ∀ l w, Make.perform l x w = some (entering entry w))
    (htold : ∀ e, entry = .ok e → told [e]) : Registers x told := by
  intro l log w hw
  cases entry with
  | error fault => exact ⟨.error fault, w, hx l w, rfl, rfl⟩
  | ok entry =>
    exact ⟨.ok (), w.enter entry, hx l w, by rw [World.make_enter], [entry], htold entry rfl,
      .enter entry hw⟩

/-- Registering a function enters it as it was told. -/
theorem registers_register (name : Text) (arity : Arity) (policy : Policy) (code : κ) :
    Registers (register name arity policy code : Export κ μ Unit).run
      fun entries => ∃ entry, entries = [entry] ∧ Told name (.ok arity) policy code entry :=
  registers_of_entering (fun l _ => perform_register l name arity policy code)
    fun entry hentry => ⟨entry, rfl, told_of_entryOf hentry⟩

/-- Exporting a function with its own contract enters it with the contract's counts. -/
theorem registers_exportContract (contract : Contract) (code : κ) :
    Registers (exportContract contract code : Export κ μ Unit).run fun entries =>
      ∃ entry, entries = [entry] ∧ Told contract.name contract.arity contract.policy code entry :=
  registers_of_entering (fun l _ => perform_exportResolved l _ _ _ _ _ _)
    fun entry hentry => ⟨entry, rfl, told_of_entryOf hentry⟩

/-! ### Several functions -/

/-- Functions that are entered one after the other stop nothing and stand in the log. -/
theorem registered_foldl (hw : w.Registered log) (entries : List (Exported κ)) :
    (entries.foldl World.enter w).make.fatal = w.make.fatal ∧
      (entries.foldl World.enter w).Registered (entries.reverse ++ log) := by
  induction entries generalizing w log with
  | nil => exact ⟨rfl, hw⟩
  | cons entry entries ih =>
    obtain ⟨hfatal, hregistered⟩ := ih (.enter entry hw)
    rw [World.make_enter] at hfatal
    rw [List.reverse_cons, List.append_assoc]
    exact ⟨hfatal, hregistered⟩

/-- Exporting functions none of which is refused enters them all. -/
theorem perform_exportAll (functions : List (Contract × κ))
    (hok : ∀ f ∈ functions, ∃ entry, entryOf f.1.name f.1.arity f.1.policy f.2 = .ok entry) :
    ∃ entries, List.Forall₂ (fun f entry => Told f.1.name f.1.arity f.1.policy f.2 entry) functions
        entries ∧
      ∀ (l : Make.Level κ μ) w,
        Make.perform l (exportAll functions).run w =
          some (.ok (), entries.foldl World.enter w) := by
  induction functions with
  | nil => exact ⟨[], .nil, fun _ _ => rfl⟩
  | cons f functions ih =>
    obtain ⟨entries, htold, hperform⟩ := ih fun g hg => hok g (.tail f hg)
    obtain ⟨entry, hentry⟩ := hok f (.head functions)
    refine ⟨entry :: entries, .cons (told_of_entryOf hentry) htold, fun l w => ?_⟩
    have hfirst : Make.perform l (exportContract f.1 f.2 : Export κ μ Unit).run w =
        some (.ok (), w.enter entry) := by
      have hcontract : Make.perform l (exportContract f.1 f.2 : Export κ μ Unit).run w =
          some (entering (entryOf f.1.name f.1.arity f.1.policy f.2) w) :=
        perform_exportResolved l _ _ _ _ _ _
      rwa [hentry] at hcontract
    show Make.perform l (exportContract f.1 f.2 >>= fun _ => exportAll functions).run w = _
    rw [ExceptT.run_bind, Make.perform_bind, Run.bind_of_eq_some hfirst]
    exact hperform l (w.enter entry)

/-- The host accepts every function of the string library. -/
theorem entryOf_library {f : Contract × Code}
    (hf : f ∈ StringFunction.all.map fun f => (f.contract, Code.library f)) :
    ∃ entry, entryOf f.1.name f.1.arity f.1.policy f.2 = .ok entry := by
  obtain ⟨f, -, rfl⟩ := List.mem_map.1 hf
  cases f <;> exact ⟨_, rfl⟩

/-- Exporting the string library enters all of it. -/
theorem registers_exportLibrary : Registers (Code.exportLibrary : Export Code μ Unit).run
    fun entries => List.Forall₂ (fun f entry =>
      Told f.contract.name f.contract.arity f.contract.policy (Code.library f) entry)
      StringFunction.all entries := by
  obtain ⟨entries, htold, hperform⟩ := @perform_exportAll Code μ _ fun f => entryOf_library
  rw [List.forall₂_map_left_iff] at htold
  intro l log w hw
  obtain ⟨hfatal, hregistered⟩ := registered_foldl hw entries
  exact ⟨.ok (), _, hperform l w, hfatal, entries, htold, hregistered⟩

/-- Whatever is made of the result of a call that registers functions. -/
theorem Registers.map {x : Action κ μ (Except ε α)} {ε' : Type} {f : Except ε α → Except ε' β}
    (hx : Registers x told) (hok : ∀ a, ∃ b, f (.ok a) = .ok b)
    (herror : ∀ fault, ∃ fault', f (.error fault) = .error fault') :
    Registers (do return f (← x)) told := by
  intro l log w hw
  obtain ⟨result, w', hresult, hfatal, hw'⟩ := hx l log w hw
  refine ⟨f result, w', ?_, hfatal, ?_⟩
  · rw [Make.perform_bind, Run.bind_of_eq_some hresult]
    rfl
  · cases result with
    | ok a =>
      obtain ⟨b, hb⟩ := hok a
      rw [hb]
      exact hw'
    | error fault =>
      obtain ⟨fault', hfault⟩ := herror fault
      rw [hfault]
      exact hw'

/-- An attempt that has a result went through its first part. -/
theorem exists_of_perform_bind {l : Make.Level κ μ} {x : ExceptT ε (Action κ μ) α}
    {f : α → ExceptT ε (Action κ μ) β} {b : β}
    (h : Make.perform l (x >>= f).run w = some (.ok b, w')) :
    ∃ a w₁, Make.perform l x.run w = some (.ok a, w₁) ∧
      Make.perform l (f a).run w₁ = some (.ok b, w') := by
  rw [ExceptT.run_bind, Make.perform_bind, Run.bind_eq_some] at h
  obtain ⟨result, w₁, hx, hrest⟩ := h
  cases result with
  | ok a => exact ⟨a, w₁, hx, hrest⟩
  | error fault => cases hrest

end Host

/-! ### From a program -/

namespace Lua

open Host

variable {σ α : Type} {lua : Library σ} {run : Runner σ} {i position : Nat} {args : List Value}
  {l : Make.Level Code (Memory σ)} {w w' : World Code (Memory σ)}

/-- An argument that was converted is what its conversion says, and nothing else has happened. -/
theorem eq_of_convertedArgument {convert : Value → Except Error α} {a : α}
    (h : Make.perform l (convertedArgument convert args position).run w = some (.ok a, w')) :
    convert (argument args position) = .ok a := by
  unfold convertedArgument at h
  cases hconvert : convert (argument args position) with
  | error fault =>
    rw [hconvert] at h
    cases h
  | ok b =>
    rw [hconvert] at h
    cases h
    rfl

/-- A function argument is a function. -/
theorem eq_of_toFunction {v : Value} {f : Ref} (h : v.toFunction = .ok f) : v = .function f := by
  cases v with
  | function g =>
    cases h
    rfl
  | _ => cases h

/-- What a program asks to be exported has the name and the function that it gave. -/
theorem exportRequest_names {request : ExportRequest}
    (h : Make.perform l (exportRequest lua run i args).run w = some (.ok request, w')) :
    (argument args 1).toText = .ok request.name ∧
      argument args 2 = .function request.function := by
  unfold exportRequest at h
  obtain ⟨name, w₁, hname, h⟩ := exists_of_perform_bind h
  obtain ⟨f, w₂, hf, h⟩ := exists_of_perform_bind h
  obtain ⟨options, w₃, -, h⟩ := exists_of_perform_bind h
  obtain ⟨-, w₄, -, h⟩ := exists_of_perform_bind h
  obtain ⟨⟨min, max, expanded⟩, w₅, -, h⟩ := exists_of_perform_bind h
  obtain ⟨signature, w₆, -, h⟩ := exists_of_perform_bind h
  cases h
  exact ⟨eq_of_convertedArgument hname, eq_of_toFunction (eq_of_convertedArgument hf)⟩

/-- A program's export enters the function that it asks for. -/
theorem registers_submit (i : Nat) (request : ExportRequest) :
    Registers (request.submit i : Script σ Unit).run fun entries => ∃ entry, entries = [entry] ∧
      Told request.name (Arity.resolve request.min request.max (some request.signature))
        (.ofExpand request.expanded) (.script request.function i) entry := by
  refine .map (registers_of_entering (fun l _ => perform_exportResolved l _ _ _ _ _ _)
    fun entry hentry => ?_) (fun _ => ⟨_, rfl⟩) fun _ => ⟨_, rfl⟩
  exact ⟨entry, rfl, told_of_entryOf hentry⟩

/-- `make.export` reads what it is asked for, which may run code of the program, and then exports
that. -/
theorem perform_exportFunction {read : Except Error ExportRequest}
    (h : Make.perform l (exportRequest lua run i args).run w = some (read, w')) :
    Make.perform l (callNative lua run i .exportFunction args).run w = match read with
      | .error e => some (.error e, w')
      | .ok request => (Make.perform l (request.submit i).run w').map fun (result, w₂) =>
          (result.map fun _ => [], w₂) := by
  show Make.perform l (exportRequest lua run i args >>= fun request => request.submit i >>=
    fun _ => (pure [] : Script σ (List Value))).run w = _
  rw [ExceptT.run_bind, Make.perform_bind, Run.bind_of_eq_some h]
  cases read with
  | error e => rfl
  | ok request =>
    dsimp only
    rw [ExceptT.run_bind, Make.perform_bind, Run.bind_apply]
    cases Make.perform l (request.submit i).run w' with
    | none => rfl
    | some result =>
      obtain ⟨result, w₂⟩ := result
      cases result <;> rfl

end Lua

namespace Host

/-! ## Everywhere in a session -/

/-- Make is asked for nothing when the host looks up a name. -/
theorem perform_lookup (l : Make.Level κ μ) (name : Text) :
    Make.perform l (lookup name.utf8) w = some (w.exports.get? name, w) := by
  rw [lookup, Utf8.decode_utf8]
  rfl

/-- **The host's table and make's agree everywhere in a session**, between two steps and in the
middle of a call, whatever was registered on the way and wherever: with the functions that were
entered, last one first, both tables answer what that log says, and whatever runs in such a world
hands out its calls in worlds whose log goes on from there. Every call that registers functions has
a result in such a world and stops nothing; it puts what it was told at the front of the log when it
is accepted, and changes nothing when it is rejected. A program's export is such a call once it has
been read what is to be exported, which may run more of the program. -/
theorem registrations_agree :
    (∀ {κ μ : Type} {w : World κ μ} {log : List (Exported κ)}, w.Registered log →
      w.Agrees log ∧
      (∀ l, Make.perform l functionNames w = some (w.exports.names, w)) ∧
      (∀ l (name : Text), Make.perform l (lookup name.utf8) w =
        some (log.find? (·.name.text = name), w)) ∧
      ∀ (host : Host κ μ) (fuel : Nat) {α : Type} (x : Action κ μ α) (a : α) (w' : World κ μ),
        Make.perform (host.level fuel) x w = some (a, w') →
          Make.perform (Make.levelWithin (host.responder.onlyIn (World.Since log)) fuel) x w =
            some (a, w') ∧ World.Since log w') ∧
    (∀ {κ μ : Type} (name : Text) (arity : Arity) (policy : Policy) (code : κ),
      Registers (register name arity policy code : Export κ μ Unit).run fun entries =>
        ∃ entry, entries = [entry] ∧ Told name (.ok arity) policy code entry) ∧
    (∀ {κ μ : Type} (contract : Contract) (code : κ),
      Registers (exportContract contract code : Export κ μ Unit).run fun entries =>
        ∃ entry, entries = [entry] ∧
          Told contract.name contract.arity contract.policy code entry) ∧
    (∀ {μ : Type}, Registers (Code.exportLibrary : Export Code μ Unit).run fun entries =>
      List.Forall₂ (fun f entry =>
        Told f.contract.name f.contract.arity f.contract.policy (Code.library f) entry)
        StringFunction.all entries) ∧
    (∀ {σ : Type} (i : Nat) (request : Lua.ExportRequest),
      Registers (request.submit i : Lua.Script σ Unit).run fun entries =>
        ∃ entry, entries = [entry] ∧
          Told request.name (Arity.resolve request.min request.max (some request.signature))
            (.ofExpand request.expanded) (.script request.function i) entry) ∧
    ∀ {σ : Type} (lua : Lua.Library σ) (run : Lua.Runner σ) (i : Nat) (args : List Lua.Value)
      (l : Make.Level Code (Memory σ)) (w w₁ : World Code (Memory σ)),
      (∀ e, Make.perform l (Lua.exportRequest lua run i args).run w = some (.error e, w₁) →
        Make.perform l (Lua.callNative lua run i .exportFunction args).run w =
          some (.error e, w₁)) ∧
      ∀ request, Make.perform l (Lua.exportRequest lua run i args).run w =
          some (.ok request, w₁) →
        (Lua.argument args 1).toText = .ok request.name ∧
        Lua.argument args 2 = .function request.function ∧
        Make.perform l (Lua.callNative lua run i .exportFunction args).run w =
          (Make.perform l (request.submit i).run w₁).map fun (result, w') =>
            (result.map fun _ => [], w') := by
  refine ⟨fun hw => ⟨hw.agrees, fun _ => rfl, fun l name => ?_, ?_⟩, registers_register,
    registers_exportContract, registers_exportLibrary, Lua.registers_submit,
    fun lua run i args l w w₁ => ⟨fun e hread => Lua.perform_exportFunction hread,
      fun request hread => ?_⟩⟩
  · rw [perform_lookup, hw.agrees.last]
  · intro host fuel α x a w' hx
    exact host.perform_onlyIn fuel (fun hstep hw => hw.evolve hstep) hw.since hx
  · obtain ⟨hname, hfunction⟩ := Lua.exportRequest_names hread
    exact ⟨hname, hfunction, Lua.perform_exportFunction hread⟩

/-- A function of the name `g`. -/
def named (arity : Arity) : Exported Unit := ⟨⟨"g", rfl⟩, (), arity, .expand⟩

/-- A name that is registered twice stands for the second function, and a name with a gap is
rejected. -/
theorem registrations_agree_twice : ∃ w : World Unit Unit,
    w.Agrees [named .some, named .one] ∧
    (∀ l, Make.perform l (lookup (Text.utf8 "g")) w = some (some (named .some), w)) ∧
    w.make.functions.get? "g" = some ⟨1, 0, .expand⟩ ∧
    ∀ l, ∃ fault, Make.perform l (register "g h" .one .expand () : Export Unit Unit Unit).run w =
      some (.error fault, w) := by
  have hw : (((World.fresh () .attached : World Unit Unit).enter (named .one)).enter
      (named .some)).Registered [named .some, named .one] := .enter _ (.enter _ (.fresh ()))
  obtain ⟨hagrees, -, hlookup, -⟩ := registrations_agree.1 hw
  refine ⟨_, hagrees, fun l => hlookup l "g", by decide, fun l => ?_⟩
  obtain ⟨result, w', hresult, -, hw'⟩ := registrations_agree.2.1 "g h" .one .expand () l _ _ hw
  cases result with
  | error fault =>
    obtain rfl := hw'
    exact ⟨fault, hresult⟩
  | ok _ =>
    obtain ⟨_, ⟨entry, rfl, htold⟩, -⟩ := hw'
    have haccepted : FunctionName.fault? "g h" = none := htold.name ▸ entry.name.accepted
    exact absurd haccepted (by decide)

end Host

end MakeHost
