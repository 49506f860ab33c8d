import MakeHost.Lua.Entry
import MakeHost.Proofs.Requests

/-!
# What programs are composed of

`Lua.Grants` holds of a class of actions that has what a host offers, changes of what is outside of
the host, writing, and captures around actions in it. Code of an interpreter is in such a class
whatever the library does, by induction on how deep functions of the host are active and on the code
(`Lua.Grants.run`). So every exported function is in it (`Lua.Grants.body`): what programs may do is
proved by naming a class.
-/

namespace MakeHost.Lua

variable {σ α β ε : Type}

/-- The class has what a host offers, changes of what is outside, writing, and captures, and what is
composed of it. -/
structure Grants (C : ∀ α : Type, Action Code (Memory σ) α → Prop) : Prop
    extends Host.Grants (fun _ => True) C where
  remembered : C _ Action.remembered
  changeOutside : ∀ f, C _ (changeOutside f)
  write : ∀ i s, C _ (write i s)
  captured : ∀ {ε : Type} (i : Nat) {body : ExceptT ε (Action Code (Memory σ)) Unit},
    C _ body.run → C _ (captured i body).run

namespace Grants

variable {C : ∀ α : Type, Action Code (Memory σ) α → Prop} (h : Grants C)
include h

/-- An action whose result cannot be an error. -/
theorem lift {x : Action Code (Memory σ) α} (hx : C _ x) :
    C _ (ExceptT.lift x : ExceptT ε (Action Code (Memory σ)) α).run := by
  rw [ExceptT.run_lift, map_eq_pure_bind]
  exact h.bind hx fun _ => h.pure _

/-- An attempt whose result is not used. -/
theorem discarded {x : Script σ α} (hx : C _ x.run) : C _ (discard x).run :=
  h.attempt hx fun _ => h.pure _

/-- What is outside of the host is part of what is remembered. -/
theorem outside : C _ (Lua.outside : Action Code (Memory σ) σ) :=
  h.bind h.remembered fun _ => h.pure _

/-- Looking at what is outside of the host first. -/
theorem looking {f : σ → ExceptT ε (Action Code (Memory σ)) β} (hf : ∀ s, C _ (f s).run) :
    C _ (ExceptT.lift Lua.outside >>= f).run := h.attempt (h.lift h.outside) hf

/-- A value that is converted without a request. -/
theorem converted {e : Except Error α} {f : α → Script σ β} (hf : ∀ a, C _ (f a).run) :
    C _ ((liftM e : Script σ α) >>= f).run := by
  refine h.attempt ?_ hf
  cases e <;> exact h.pure _

/-! ## Functions of the host -/

/-- A request of the host, its error as one of the interpreter. -/
theorem hosted {x : Host.Attempt Code (Memory σ) α} (hx : C _ x.run) : C _ (Lua.hosted x).run :=
  h.settled hx _

/-- What is done where the host is there; where it is gone nothing is. -/
theorem checkHost {x : Script σ β} (hx : C _ x.run) : C _ (Lua.checkHost >>= fun _ => x).run := by
  refine h.attempt ?_ fun _ => hx
  refine h.attempt (h.lift h.remembered) fun m => ?_
  cases m.hostAlive <;> exact h.pure _

section

variable {lua : Library σ} {run : Runner σ} {i : Nat} (hrun : ∀ i code, C _ (run i code).run)
  {args : List Value}
include hrun

/-- The first value that code comes to. -/
theorem valueOf (code : Running σ) : C _ (Lua.valueOf run i code).run := by
  unfold Lua.valueOf
  rw [map_eq_pure_bind]
  exact h.attempt (hrun i code) fun _ => h.pure _

/-- The first value that code comes to, converted. -/
theorem convertedValue (convert : Value → Except Error α) (code : Running σ) :
    C _ (Lua.convertedValue run i convert code).run := by
  refine h.attempt (h.valueOf hrun code) fun v => ?_
  cases convert v <;> exact h.pure _

/-- The text of a value is what `tostring` gives, which may be any code. -/
theorem display (v : Value) : C _ (Lua.display lua run i v).run := by
  refine h.looking fun s => h.attempt (h.convertedValue hrun _ _) fun tostring => ?_
  exact h.attempt (h.convertedValue hrun _ _) fun _ => h.pure _

/-- A value of its own kind is shown by code. -/
theorem toMakeValue (v : Value) : C _ (Lua.toMakeValue lua run i v) := by
  unfold Lua.toMakeValue
  split
  · exact h.pure _
  · exact h.pure _
  · split
    · exact h.pure _
    · refine h.bind (h.display hrun v) fun result => ?_
      cases result <;> exact h.pure _

/-- The values are shown one by one before the line is written. -/
theorem print : C _ (Lua.print lua run i args).run := by
  have htexts : C _ (args.mapM (Lua.display lua run i)).run := by
    induction args with
    | nil => exact h.pure _
    | cons v args ih =>
      rw [List.mapM_cons]
      exact h.attempt (h.display hrun v) fun _ => h.attempt ih fun _ => h.pure _
  exact h.attempt htexts fun _ => h.attempt (h.lift (h.write i _)) fun _ => h.pure _

/-! ### Exports -/

/-- Entries of the table of options are read one by one. -/
theorem exportOptions (options : Option Ref) :
    C _ (Lua.exportOptions lua run i options).run := by
  cases options with
  | none => exact h.pure _
  | some options =>
    refine h.attempt (h.convertedValue hrun _ _) fun min => ?_
    refine h.attempt (h.convertedValue hrun _ _) fun max => ?_
    exact h.attempt (h.convertedValue hrun _ _) fun expanded => h.pure _

/-- What is told of a function is read from a table. -/
theorem signatureOf (f : Ref) : C _ (Lua.signatureOf lua run i f).run := by
  refine h.attempt (h.convertedValue hrun _ _) fun told => ?_
  refine h.attempt (h.convertedValue hrun _ _) fun params => ?_
  exact h.attempt (h.convertedValue hrun _ _) fun vararg => h.pure _

/-- All that an export asks for is read before anything is exported. -/
theorem exportRequest : C _ (Lua.exportRequest lua run i args).run := by
  refine h.converted fun name => h.converted fun f => h.converted fun options => h.checkHost ?_
  refine h.attempt (h.exportOptions hrun options) fun bounds => ?_
  exact h.attempt (h.signatureOf hrun f) fun _ => h.pure _

omit hrun in
/-- An export is a request of the host; a refused one is an error. -/
theorem submit (r : ExportRequest) : C _ (r.submit i).run :=
  h.settled (h.exportResolved _ _ _ _ _ _ fun _ _ => True.intro) _

/-! ### Calls -/

/-- Every function that programs call is in the class, where the code that it runs is. -/
theorem callNative (f : Native) : C _ (Lua.callNative lua run i f args).run := by
  cases f with
  | print => exact h.print hrun
  | eval =>
    exact h.converted fun s => h.checkHost (h.attempt (h.hosted (h.evaluate s)) fun _ => h.pure _)
  | expand =>
    refine h.converted fun s => h.checkHost ?_
    exact h.attempt (h.hosted (h.expandBytes s)) fun _ => h.pure _
  | exportFunction =>
    exact h.attempt (h.exportRequest hrun) fun r => h.attempt (h.submit r) fun _ => h.pure _
  | escape | escapeFully => exact h.converted fun _ => h.pure _
  | varGet =>
    refine h.converted fun name => h.converted fun default => h.checkHost ?_
    exact h.attempt (h.hosted (h.get _ _ _)) fun _ => h.pure _
  | varSet =>
    refine h.converted fun name => h.converted fun word => h.checkHost ?_
    refine h.attempt (h.lift (h.toMakeValue hrun _)) fun value => ?_
    exact h.attempt (h.hosted (h.set _ _ _)) fun _ => h.pure _
  | varAppend =>
    refine h.converted fun name => h.checkHost ?_
    refine h.attempt (h.lift (h.toMakeValue hrun _)) fun value => ?_
    exact h.attempt (h.hosted (h.append _ _)) fun _ => h.pure _
  | varUndefine =>
    refine h.converted fun name => h.checkHost ?_
    exact h.attempt (h.hosted (h.undefine _)) fun _ => h.pure _
  | varOrigin =>
    refine h.converted fun name => h.checkHost ?_
    exact h.attempt (h.hosted (h.origin _)) fun _ => h.pure _
  | varFlavor =>
    refine h.converted fun name => h.checkHost ?_
    exact h.attempt (h.hosted (h.flavor _)) fun _ => h.pure _
  | varDefined =>
    refine h.converted fun name => h.checkHost ?_
    exact h.attempt (h.hosted (h.defined _)) fun _ => h.pure _
  | varField =>
    refine h.converted fun _ => h.converted fun name => ?_
    exact h.attempt (h.convertedValue hrun _ _) fun _ => h.pure _
  | varAssign =>
    refine h.converted fun _ => h.converted fun name => ?_
    dsimp only
    split <;> exact h.attempt (h.discarded (hrun i _)) fun _ => h.pure _

end

/-! ## Code that runs -/

/-- Code is in the class if the functions that it calls are: by induction on what it does. -/
theorem interpret {native : Native → List Value → Script σ (List Value)}
    (hnative : ∀ f args, C _ (native f args).run) (code : Running σ) :
    C _ (code.interpret native).run := by
  induction code with
  | ended result => cases result <;> exact h.pure _
  | look next ih => exact h.looking ih
  | become s next ih => exact h.attempt (h.lift (h.changeOutside _)) fun _ => ih
  | call f args next ih => exact h.bind (hnative f args) ih

/-- Code is in the class however deep functions of the host are active: where they may be no deeper
a call is an error, else by induction on the depth. -/
theorem runWithin (lua : Library σ) (depth i : Nat) (code : Running σ) :
    C _ (lua.runWithin depth i code).run := by
  induction depth generalizing i code with
  | zero => exact h.interpret (fun _ _ => h.pure _) code
  | succ depth ih => exact h.interpret (fun f _ => h.callNative ih f) code

variable {lua : Library σ} {i : Nat}

/-- **Whatever an interpreter does is in the class.** -/
theorem run (i : Nat) (code : Running σ) : C _ (lua.run i code).run :=
  h.runWithin lua lua.nesting i code

/-! ## Uses of an interpreter -/

/-- The interpreter's error as one of the driver. -/
theorem driven {x : Script σ α} (hx : C _ x.run) : C _ (Lua.driven x).run := h.settled hx _

/-- Arguments are lent by changes of what is outside, before and after the body. -/
theorem withArguments (globals : Ref) (script : Text) (args : List Text)
    {body : ExceptT ε (Action Code (Memory σ)) α} (hbody : C _ body.run) :
    C _ (Lua.withArguments lua i globals script args body).run := by
  refine h.bind h.outside fun s => h.bind (h.changeOutside _) fun _ => ?_
  exact h.bind hbody fun result => h.bind (h.changeOutside _) fun _ => h.pure result

/-- An expression has a value for make. -/
theorem evalText (s : Text) : C _ (Lua.evalText lua i s).run :=
  h.attempt (h.valueOf h.run _) fun v => h.lift (h.toMakeValue h.run v)

/-- A program that is run as statements. -/
theorem execProgram (chunk : Text) (source : Bytes) :
    C _ (Lua.execProgram lua i chunk source).run := h.discarded (h.run i _)

/-- A program in a capture. -/
theorem execText (s : Text) : C _ (Lua.execText lua i s).run := h.captured i (h.execProgram _ _)

/-- A script in a capture, with its arguments lent. -/
theorem runFile (path : Text) (args : List Text) : C _ (Lua.runFile lua i path args).run := by
  refine h.looking fun s => ?_
  split
  · exact h.pure _
  · exact h.withArguments _ _ _ (h.captured i (h.driven (h.execProgram _ _)))

/-- Searchers are asked one after another: by induction on how many more may be. -/
theorem askSearchers (searchers : Ref) (name : Text) (index : Nat) (tried : Text) (limit : Nat) :
    C _ (Lua.askSearchers lua i searchers name index tried limit).run := by
  induction limit generalizing index tried with
  | zero => exact h.pure _
  | succ limit ih =>
    refine h.looking fun s => ?_
    split
    · exact h.pure _
    · refine h.converted fun searcher => h.attempt (h.run i _) fun answer => ?_
      split
      · exact h.pure _
      · exact ih _ _
      · exact ih _ _

/-- The list of searchers is read, and they are asked. -/
theorem findModule (globals : Ref) (name : Text) :
    C _ (Lua.findModule lua i globals name).run := by
  refine h.attempt (h.convertedValue h.run _ _) fun package => ?_
  refine h.attempt (h.convertedValue h.run _ _) fun searchers => ?_
  exact h.attempt (h.askSearchers _ _ _ _ _) fun found => h.pure _

/-- What a module came to is noted in the table of loaded modules. -/
theorem load (m : FoundModule) (name : Text) : C _ (m.load lua i name).run := by
  refine h.attempt (h.valueOf h.run _) fun value => ?_
  refine h.attempt (h.convertedValue h.run _ _) fun loaded => ?_
  have hnote : ∀ v, C _ (discard (lua.run i (lua.set loaded (.ofText name) v))).run :=
    fun v => h.discarded (h.run i _)
  split
  · refine h.attempt (h.valueOf h.run _) fun known => ?_
    split
    · exact hnote _
    · exact h.pure _
  · exact hnote _

/-- A module is found, and is loaded in a capture with its arguments lent. -/
theorem runModule (name : Text) (args : List Text) : C _ (Lua.runModule lua i name args).run := by
  refine h.looking fun s => h.attempt (h.driven (h.findModule _ name)) fun found => ?_
  exact h.withArguments _ _ _ (h.captured i (h.driven (h.load found name)))

/-! ## Exported functions -/

/-- A call of an entry point is a use of the interpreter. -/
theorem entryBody (e : EntryPoint) (args : Arguments) : C _ (Lua.entryBody lua i e args).run := by
  have htext : ∀ {x : Driven σ Text}, C _ x.run →
      C _ (MakeHost.Value.text <$> Lua.settled lua x :
        Body Code (Memory σ) MakeHost.Value).run := by
    intro x hx
    rw [map_eq_pure_bind]
    exact h.attempt (h.settled hx _) fun _ => h.pure _
  cases e with
  | eval => exact h.settled (h.driven (h.evalText _)) _
  | exec => exact htext (h.driven (h.execText _))
  | file => exact htext (h.runFile _ _)
  | module => exact htext (h.runModule _ _)

/-- A call of a function of a program. -/
theorem scriptBody (f : Ref) (args : Arguments) : C _ (Lua.scriptBody lua i f args).run := by
  refine h.attempt (h.settled (h.driven (h.valueOf h.run _)) _) fun v => ?_
  exact h.lift (h.toMakeValue h.run v)

/-- **Every exported function is in the class.** -/
theorem body (code : Code) (name : Text) (args : Arguments) :
    C _ (code.body lua name args).run := by
  cases code with
  | library f => exact h.pure _
  | sample s => exact h.sample s name args
  | recipe r => exact h.recipe .recipe r name args
  | entry e i => exact h.entryBody e args
  | script f i => exact h.scriptBody f args

end Grants

end MakeHost.Lua
