import MakeHost.Recipe

/-!
# What is composed of what a host offers

`Host.Grants` holds of a class of actions that has evaluation, expansion, registration and lines on
standard error, and everything that is put together from actions in it. So it has the operations on
variables, what a host does around the functions that it exports, samples and recipes. `Host.Asks`
is the least such class that has the functions' memory too: what such an action may do is said once
for the parts, by induction on how it is put together.
-/

namespace MakeHost

variable {κ μ α β ε : Type} {E : Exported κ → Prop}

namespace Host

/-- What is composed of what a host offers: evaluation, expansion, registration, the functions'
memory, and lines on standard error. The functions that are entered satisfy `E`. -/
inductive Asks (E : Exported κ → Prop) : {α : Type} → Action κ μ α → Prop
  | pure {α : Type} (a : α) : Asks E (pure a)
  | bind {α β : Type} {x : Action κ μ α} {f : α → Action κ μ β} :
      Asks E x → (∀ a, Asks E (f a)) → Asks E (x >>= f)
  | evaluate (text : Text) : Asks E (evaluate text).run
  | expandBytes (text : Text) : Asks E (expandBytes text).run
  | exports : Asks E Action.exports
  | enter {entry : Exported κ} : E entry → Asks E (Action.enter entry)
  | remembered : Asks E Action.remembered
  | remember (memory : μ) : Asks E (Action.remember memory)
  | complain (line : Text) : Asks E (Action.complain line)

/-- The class has what a host offers but the functions' memory, and what is composed of it. The
functions that are entered satisfy `E`. -/
structure Grants (E : Exported κ → Prop) (C : ∀ α : Type, Action κ μ α → Prop) : Prop where
  pure : ∀ {α : Type} (a : α), C α (pure a)
  bind : ∀ {α β : Type} {x : Action κ μ α} {f : α → Action κ μ β},
    C α x → (∀ a, C β (f a)) → C β (x >>= f)
  evaluate : ∀ text, C _ (evaluate text).run
  expandBytes : ∀ text, C _ (expandBytes text).run
  exports : C _ Action.exports
  enter : ∀ {entry : Exported κ}, E entry → C _ (Action.enter entry)
  complain : ∀ line, C _ (Action.complain line)

/-- Such actions are a class that has what a host offers. -/
theorem Asks.grants : Grants E fun α (x : Action κ μ α) => Asks E x :=
  ⟨.pure, .bind, .evaluate, .expandBytes, .exports, .enter, .complain⟩

namespace Grants

variable {C : ∀ α : Type, Action κ μ α → Prop} (h : Grants E C)
include h

/-- An attempt goes on, or ends with its error. -/
theorem attempt {x : ExceptT ε (Action κ μ) α} {f : α → ExceptT ε (Action κ μ) β}
    (hx : C _ x.run) (hf : ∀ a, C _ (f a).run) : C _ (x >>= f).run := by
  rw [ExceptT.run_bind]
  refine h.bind hx fun result => ?_
  cases result with
  | ok a => exact hf a
  | error e => exact h.pure _

/-- An attempt whose result or error is changed. -/
theorem settled {x : ExceptT ε (Action κ μ) α} (hx : C _ x.run) (f : Except ε α → β) :
    C _ (do return f (← x.run)) := h.bind hx fun _ => h.pure _

/-! ### Variables -/

/-- Expansion to text is expansion to bytes that are decoded. -/
theorem expand (text : Text) : C _ (Host.expand text : Attempt κ μ Text).run := by
  refine h.attempt (h.expandBytes text) fun bytes => ?_
  cases Utf8.decode bytes <;> exact h.pure _

/-- What is done with a legal name; with another one nothing is. -/
theorem checkName {name : Text} {f : Unit → Attempt κ μ α} (hf : C _ (f ()).run) :
    C _ (Host.checkName name >>= f).run := by
  unfold Host.checkName
  split
  · exact hf
  · exact h.pure _

/-- The origin of a variable is asked for by expanding a text. -/
theorem origin (name : Text) : C _ (Host.origin name : Attempt κ μ Origin).run :=
  h.checkName (h.attempt (h.expand _) fun _ => h.pure _)

/-- The flavor of a variable is asked for by expanding a text. -/
theorem flavor (name : Text) : C _ (Host.flavor name : Attempt κ μ Flavor).run :=
  h.checkName (h.attempt (h.expand _) fun _ => h.pure _)

/-- Whether a variable is defined is read off its origin. -/
theorem defined (name : Text) : C _ (Host.defined name : Attempt κ μ Bool).run :=
  h.attempt (h.origin name) fun _ => h.pure _

/-- A value is asked for by expanding a text, and its origin if that came to nothing. -/
theorem get (name default : Text) (expanded : Bool) :
    C _ (Host.get name default expanded : Attempt κ μ Text).run := by
  refine h.checkName (h.attempt (h.expand _) fun value => ?_)
  split
  · exact h.attempt (h.defined name) fun _ => h.pure _
  · exact h.pure _

/-- A variable is set by evaluating a text. -/
theorem set (name : Text) (value : Value) (flavor : Flavor) :
    C _ (Host.set name value flavor : Attempt κ μ Unit).run := by
  refine h.checkName ?_
  cases flavor with
  | recursive | simple => exact h.evaluate _
  | undefined => exact h.pure _

/-- A variable is appended to by evaluating a text. -/
theorem append (name : Text) (value : Value) :
    C _ (Host.append name value : Attempt κ μ Unit).run := h.checkName (h.evaluate _)

/-- A variable is undefined by evaluating a text. -/
theorem undefine (name : Text) : C _ (Host.undefine name : Attempt κ μ Unit).run :=
  h.checkName (h.evaluate _)

/-! ### Registration -/

/-- An export enters its function if nothing refuses it. -/
theorem exportResolved (name : Text) (min max : Option Int) (signature : Option Signature)
    (policy : Policy) (code : κ) (hE : ∀ name arity, E ⟨name, code, arity, policy⟩) :
    C _ (Host.exportResolved name min max signature policy code : Export κ μ Unit).run := by
  unfold Host.exportResolved Host.register Host.register.liftExcept
  cases Arity.resolve min max signature with
  | error e => exact h.pure _
  | ok arity =>
    cases FunctionName.ofText name with
    | error e => exact h.pure _
    | ok name =>
      exact h.bind (x := Action.enter ⟨name, code, arity, policy⟩)
        (h.enter (hE name arity)) fun _ =>
        h.pure (Except.ok ())

/-! ### Answering calls -/

/-- The error variable is removed by evaluating a text. -/
theorem clearError (options : HostOptions) : C _ (Host.clearError options : Action κ μ Unit) :=
  h.bind (h.evaluate _) fun _ => h.pure ()

/-- A flag is read by expanding its variable. -/
theorem flagEnabled (name : Text) : C _ (Host.flagEnabled name : Action κ μ Bool) := by
  refine h.bind (h.expandBytes _) fun result => ?_
  cases result <;> exact h.pure _

/-- A failure is shown line by line on standard error. -/
theorem showFailure (name : Text) (failure : Failure) :
    C _ (Host.showFailure name failure : Action κ μ Unit) := by
  refine h.bind (h.complain _) fun _ => ?_
  cases failure.trace with
  | none => exact h.pure ()
  | some trace => exact h.complain _

/-- Make is stopped by evaluating a text. -/
theorem raiseError (options : HostOptions) : C _ (Host.raiseError options : Action κ μ Unit) := by
  refine h.bind (h.flagEnabled _) fun fatal => ?_
  cases fatal with
  | false => exact h.pure ()
  | true => exact h.bind (h.evaluate _) fun _ => h.pure ()

/-- A failure is stored by evaluating a text, and make may be stopped with it. -/
theorem storeError (options : HostOptions) (failure : Failure) :
    C _ (Host.storeError options failure : Action κ μ Unit) := by
  refine h.bind (h.evaluate _) fun result => ?_
  cases result with
  | error e => exact h.pure ()
  | ok _ => exact h.raiseError options

/-- A failure is recorded by reading a flag and storing it. -/
theorem recordError (options : HostOptions) (name : Text) (failure : Failure) :
    C _ (Host.recordError options name failure : Action κ μ Unit) := by
  refine h.bind (h.flagEnabled _) fun traced => ?_
  cases traced with
  | false => exact h.storeError options failure
  | true => exact h.bind (h.showFailure name failure) fun _ => h.storeError options failure

/-- A function is looked for among the exports. -/
theorem lookup (name : Bytes) : C _ (Host.lookup name : Action κ μ (Option (Exported κ))) := by
  unfold Host.lookup
  cases Utf8.decode name with
  | error e => exact h.pure none
  | ok name => exact h.bind h.exports fun _ => h.pure _

/-! ### Calls -/

section
variable {host : Host κ μ} (hbody : ∀ code name args, C _ (host.body code name args).run)
include hbody

/-- A call comes to its outcome by running the body of its function. -/
theorem outcome (function : Bytes) (args : List Bytes) : C _ (host.outcome function args) := by
  refine h.bind (h.lookup function) fun f => ?_
  cases f with
  | none => exact h.pure _
  | some f =>
    refine h.bind ?_ fun result => ?_
    · unfold invoke
      cases decodeArguments args with
      | error e => exact h.pure _
      | ok args => exact hbody f.code f.name.text args
    · cases result <;> exact h.pure _

/-- Answering a call, where the class has the buffer with the result. -/
theorem dispatch (hallocate : ∀ content, C _ (Action.allocate content)) (function : Bytes)
    (args : List Bytes) : C _ (host.dispatch function args) := by
  refine h.bind (h.outcome hbody function args) fun outcome => ?_
  cases outcome with
  | unknown => exact h.bind (h.clearError _) fun _ => h.pure _
  | value v =>
    refine h.bind ?_ fun result => h.bind (h.clearError _) fun _ => h.pure _
    unfold deliver
    cases v.encode? with
    | none => exact h.pure _
    | some bytes => exact hallocate bytes
  | failed name failure => exact h.bind (h.recordError _ name failure) fun _ => h.pure _

end

end Grants

end Host

/-! ## Samples and recipes -/

section
variable {C : ∀ α : Type, Action κ μ α → Prop}

/-- A sample is composed of what a host offers. -/
theorem Host.Grants.sample (h : Grants E C) (s : Sample) (name : Text) (args : Arguments) :
    C _ (s.body name args : Body κ μ Value).run := by
  cases s with
  | expandTwice => exact h.attempt (h.settled (h.expand _) _) fun _ => h.pure _
  | checked =>
    unfold Sample.body
    dsimp only
    split <;> exact h.pure _
  | _ => exact h.pure _

/-- Recipes are composed of what a host offers. -/
theorem Host.Grants.recipe (h : Grants (fun _ => True) C) (code : Recipe → κ) (r : Recipe)
    (name : Text) (args : Arguments) : C _ (r.body code name args : Body κ μ Value).run := by
  induction r with
  | join | count | arg | words | bytes | const | ownName | debug | fail | panic | idle =>
    exact h.pure _
  | parseInt => cases Strings.wholeNumber (args.required 0) <;> exact h.pure _
  | expand text => exact h.attempt (h.settled (h.expand _) _) fun _ => h.pure _
  | evaluate text => exact h.attempt (h.settled (h.evaluate _) _) fun _ => h.pure _
  | get expanded => exact h.attempt (h.settled (h.get _ _ _) _) fun _ => h.pure _
  | set word =>
    unfold Recipe.body
    dsimp only
    cases Flavor.ofReport word with
    | error e => exact h.pure _
    | ok flavor => exact h.attempt (h.settled (h.set _ _ _) _) fun _ => h.pure _
  | append => exact h.attempt (h.settled (h.append _ _) _) fun _ => h.pure _
  | undefine => exact h.attempt (h.settled (h.undefine _) _) fun _ => h.pure _
  | originWord => exact h.attempt (h.settled (h.origin _) _) fun _ => h.pure _
  | flavorWord => exact h.attempt (h.settled (h.flavor _) _) fun _ => h.pure _
  | defined => exact h.attempt (h.settled (h.defined _) _) fun _ => h.pure _
  | register other min max signature policy inner _ =>
    unfold Recipe.body
    dsimp only
    rw [ExceptT.run_bind_lift]
    refine h.bind (h.exportResolved other min max signature policy (code inner) ?_) fun result => ?_
    · exact fun _ _ => True.intro
    · cases result <;> exact h.pure _
  | wrap before after inner ih => exact h.attempt ih fun _ => h.pure _
  | both first second ihf ihs => exact h.attempt ihf fun _ => ihs

end

/-- Recipes are composed of what a host offers. -/
theorem Recipe.asks_body (code : Recipe → κ) (r : Recipe) (name : Text) (args : Arguments) :
    Host.Asks (fun _ => True) (r.body code name args : Body κ μ Value).run :=
  Host.Asks.grants.recipe code r name args

end MakeHost
