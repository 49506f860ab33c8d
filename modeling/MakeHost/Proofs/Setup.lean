import MakeHost.Plugin
import MakeHost.Proofs.Exports
import MakeHost.Proofs.Reachable
import MakeHost.Proofs.Registry
import MakeHost.Proofs.Requests
import MakeHost.Proofs.Termination

/-!
# Setup of the loaded object

Before its setup is done the object has given no name to make, so make hands it no call
(`World.Waiting`, `Make.handOut_waiting`), and whatever is read from make by then leaves it waiting,
with the functions that make and the host had (`World.Waits`). Reading the settings is all that can
fail: what is exported after them is never refused. So setup of a waiting object comes to an end
(`Plugin.setup_ends`), and the object is ready afterwards or still waits (`Plugin.setup_cases`).
-/

namespace MakeHost

variable {κ μ α β ε σ : Type} {E : Exported κ → Prop} {w w' : World κ μ}

/-! ## Waiting -/

namespace World

/-- An object is loaded, but its setup is not done and it has given no name to make. -/
structure Waiting (w : World κ μ) : Prop where
  unready : w.ready = false
  nameless : w.link = .object []

/-- The object waits before and after, and no function was registered in between. -/
structure Waits (w w' : World κ μ) : Prop where
  before : w.Waiting
  after : w'.Waiting
  functions : w'.make.functions = w.make.functions
  exports : w'.exports = w.exports

/-- Nothing happens while a world waits. -/
theorem Waiting.waits (h : w.Waiting) : w.Waits w := ⟨h, h, rfl, rfl⟩

/-- A change of make's state that adds no function. -/
theorem Waits.make (h : w.Waits w) {s : Make.State} (hs : s.functions = w.make.functions) :
    w.Waits { w with make := s } :=
  ⟨h.before, ⟨h.before.unready, h.before.nameless⟩, hs, rfl⟩

/-- A note leaves a world waiting. -/
theorem Waiting.note (h : w.Waiting) (call : InterfaceCall) : w.Waits (w.note call) := by
  have hnote : w.note call = { w with interface := call :: w.interface } := by
    unfold World.note
    rw [h.nameless]
  rw [hnote]
  exact ⟨h, ⟨h.unready, h.nameless⟩, rfl, rfl⟩

/-- While the object waits, everything that registers no function is allowed. -/
theorem Waits.serves : Make.Serves (fun _ : Exported κ => False) (Waits (κ := κ) (μ := μ)) where
  right h := h.after.waits
  trans h h' :=
    ⟨h.before, h'.after, h'.functions.trans h.functions, h'.exports.trans h.exports⟩
  fail _ h := h.make Make.State.functions_fail
  print _ h := h.make rfl
  assign h _ _ _ := h.after.waits.make rfl
  undefine _ h := h.make Make.State.functions_undefine
  note call h := h.before.note call
  countCall h := h.make rfl
  allocate h := h.make rfl
  release _ h := h.make Make.State.functions_release
  enter _ hfalse _ := hfalse.elim
  remember _ h := ⟨h.before, ⟨h.before.unready, h.before.nameless⟩, rfl, rfl⟩
  complain _ h := ⟨h.before, ⟨h.before.unready, h.before.nameless⟩, rfl, rfl⟩

end World

namespace Make

variable {respond : Responder κ μ} {l : Level κ μ} {name : Text} {args : List Text}

/-- A call that is handed out while the object waits expands to nothing and reaches no one. -/
theorem handOut_waiting (h : w.Waiting) :
    handOut respond l name args w = some ([], { w with make := w.make.countCall }) := by
  obtain ⟨make, exports, memory, complaints, link, ready, interface⟩ := w
  obtain ⟨-, hlink⟩ := h
  cases hlink
  rfl

end Make

namespace Host

variable (host : Host κ μ) {fuel more : Nat}

/-- Make leaves the object waiting, and more nesting keeps what it does. -/
theorem level_waits (h : fuel ≤ more) : (host.level fuel).Along World.Waits (host.level more) :=
  Make.levelWithin_along_of World.Waits.serves.toWrites (fun l l' _ w name args hw => by
    have hcall : Run.Along World.Waits w (Make.handOut host.responder l name args)
        (Make.handOut host.responder l name args) :=
      .of_eq (Make.handOut_waiting hw.before) fun hw => hw.make rfl
    have heq : Make.handOut host.responder l' name args w =
        Make.handOut host.responder l name args w :=
      (Make.handOut_waiting hw.before).trans (Make.handOut_waiting hw.before).symm
    exact hcall.congr rfl heq hw) h

/-- Make comes to an end while the object waits. -/
theorem level_waits_ends (h : Make.ample ≤ fuel) : (host.level fuel).Ends World.Waits :=
  Make.levelWithin_ends (fun _ _ _ _ _ _ _ _ hw =>
    ⟨_, _, Make.handOut_waiting hw.before, hw.make rfl⟩) World.Waits.serves.toWrites h

end Host

/-! ## Settings -/

namespace Plugin

open Host

variable {environmentLog : Option Text}

/-- A setting is asked for by looking at its variable, and nothing is exported for it. -/
theorem asks_setting (variableName : Text) :
    Asks (fun _ => False) (setting variableName : Attempt Code (Memory σ) (Option Text)).run := by
  unfold setting
  rw [map_eq_pure_bind]
  exact Asks.grants.attempt (Asks.grants.get _ _ _) fun _ => .pure _

/-- Nothing is exported for the settings either. -/
theorem asks_settings : Asks (fun _ => False)
    (settings environmentLog : Attempt Code (Memory σ) PluginSettings).run := by
  have hpaths : ∀ log, Asks (fun _ => False) (do
      let path ← setting "LUA_PATH"
      let cpath ← setting "LUA_CPATH"
      return ⟨log, path, cpath⟩ : Attempt Code (Memory σ) PluginSettings).run := by
    intro log
    refine Asks.grants.attempt (asks_setting _) fun path => ?_
    exact Asks.grants.attempt (asks_setting _) fun cpath => .pure _
  unfold settings
  cases environmentLog.bind nonBlank? with
  | some filter => exact hpaths (some filter)
  | none => exact Asks.grants.attempt (asks_setting _) hpaths

end Plugin

/-! ## What is never refused -/

namespace Host

/-- The action has a result everywhere, which is no error. -/
def Succeeds (x : ExceptT ε (Action κ μ) α) : Prop :=
  ∀ l w, ∃ a w', Make.perform l x.run w = some (.ok a, w')

namespace Succeeds

/-- A result without a request succeeds. -/
theorem pure (a : α) : Succeeds (pure a : ExceptT ε (Action κ μ) α) := fun _ w => ⟨a, w, rfl⟩

/-- Two parts that succeed do so one behind the other. -/
theorem bind {x : ExceptT ε (Action κ μ) α} {f : α → ExceptT ε (Action κ μ) β}
    (hx : Succeeds x) (hf : ∀ a, Succeeds (f a)) : Succeeds (x >>= f) := by
  intro l w
  obtain ⟨a, w', ha⟩ := hx l w
  obtain ⟨b, w'', hb⟩ := hf a l w'
  refine ⟨b, w'', ?_⟩
  rw [ExceptT.run_bind, Make.perform_bind, Run.bind_of_eq_some ha]
  exact hb

/-- Doing something with the members of a list one after the other. -/
theorem forM {f : α → ExceptT ε (Action κ μ) PUnit} {as : List α}
    (hf : ∀ a ∈ as, Succeeds (f a)) : Succeeds (as.forM f) := by
  induction as with
  | nil => exact .pure _
  | cons a as ih =>
    exact .bind (hf a List.mem_cons_self) fun _ => ih fun b hb => hf b (.tail a hb)

end Succeeds

/-- Registering a function that the host accepts. -/
theorem succeeds_register {name : Text} {arity : Arity} {policy : Policy} {code : κ}
    {entry : Exported κ} (h : entryOf name (.ok arity) policy code = .ok entry) :
    Succeeds (register name arity policy code : Export κ μ Unit) := by
  intro l w
  refine ⟨(), w.enter entry, ?_⟩
  rw [perform_register, h]
  rfl

/-- Exporting the string library is never refused. -/
theorem succeeds_exportLibrary : Succeeds (Code.exportLibrary : Export Code μ Unit) := by
  obtain ⟨entries, -, hperform⟩ := @perform_exportAll Code μ _ fun _ => entryOf_library
  exact fun l w => ⟨(), _, hperform l w⟩

/-- Installing an interpreter is never refused. -/
theorem succeeds_install (lua : Lua.Library σ) (options : Lua.SearchOptions) :
    Succeeds (Lua.install lua options) := by
  have hlift : ∀ {α : Type} (x : Action Code (Memory σ) α), (∀ l w, ∃ a w', Make.perform l x w =
      some (a, w')) → Succeeds (ExceptT.lift x : Export Code (Memory σ) α) := by
    intro α x hx l w
    obtain ⟨a, w', ha⟩ := hx l w
    refine ⟨a, w', ?_⟩
    rw [ExceptT.run_lift, map_eq_pure_bind, Make.perform_bind, Run.bind_of_eq_some ha]
    rfl
  refine .bind (hlift _ fun _ _ => ⟨_, _, rfl⟩) fun memory => ?_
  refine .bind (hlift _ fun _ _ => ⟨_, _, rfl⟩) fun _ => ?_
  refine .bind (.forM fun e _ => ?_) fun _ => .pure _
  obtain ⟨entry, hentry⟩ : ∃ entry, entryOf e.name (.ok e.arity) .expand
      (Code.entry e memory.captures.length) = .ok entry := by
    cases e <;> exact ⟨_, rfl⟩
  exact succeeds_register hentry

end Host

/-! ## Setup -/

namespace Plugin

open Host

variable {environmentLog : Option Text} {present : List InterfaceSymbol}

/-- A part that succeeds does so however its refusal would be reported. -/
theorem Succeeds.refuse {x : ExceptT ε (Action Code (Memory σ)) α} (hx : Succeeds x)
    (why : ε → SetupError) : Succeeds (equip.refuse why x) := by
  intro l w
  obtain ⟨a, w', ha⟩ := hx l w
  refine ⟨a, w', ?_⟩
  show Make.perform l (x.run >>= fun result => pure (result.mapError why)) w = _
  rw [Make.perform_bind, Run.bind_of_eq_some ha]
  rfl

section
variable {lua : Lua.Library σ} {l : Make.Level Code (Memory σ)} {w : World Code (Memory σ)}

/-- Exporting everything is reading the settings, and something that does nothing when that failed
and cannot fail when it did not. -/
theorem perform_equip (lua : Lua.Library σ) (l : Make.Level Code (Memory σ))
    (environmentLog : Option Text) :
    ∃ rest : Except HostError PluginSettings → Run Code (Memory σ) (Except SetupError Nat),
      Make.perform l (equip lua environmentLog).run =
        Make.perform l (settings environmentLog).run >>= rest ∧
      (∀ e w, rest (.error e) w = some (.error (.host e), w)) ∧
      ∀ settings w, ∃ number w', rest (.ok settings) w = some (.ok number, w') := by
  refine ⟨fun result => Make.perform l (match result.mapError SetupError.host with
    | .ok settings => (equip.refuse .refused Code.exportLibrary >>= fun _ =>
        equip.refuse .refused (Lua.install lua settings.search)).run
    | .error e => pure (.error e)), ?_, fun e w => rfl, fun settings w => ?_⟩
  · unfold equip
    rw [ExceptT.run_bind, Make.perform_bind]
    show Make.perform l ((settings environmentLog).run >>= fun result =>
      pure (result.mapError SetupError.host)) >>= _ = _
    rw [Make.perform_bind, bind_assoc]
    refine congrArg _ (funext fun result => ?_)
    show (pure (result.mapError SetupError.host) >>= _) = _
    rw [pure_bind]
    cases result with
    | error e => rfl
    | ok settings => rfl
  · exact ((Succeeds.refuse succeeds_exportLibrary .refused).bind fun _ =>
      Succeeds.refuse (succeeds_install lua settings.search) .refused) l w

/-- A setup without a symbol that it needs answers 0 and does nothing. -/
theorem setup_of_missing (hw : w.Waiting) {symbol : InterfaceSymbol}
    (h : InterfaceSymbol.firstMissing? present = some symbol) :
    setup lua l present environmentLog w = some (false, w) := by
  unfold setup attempt
  rw [Run.bind_of_eq_some Run.get_apply, hw.unready, h]
  rfl

/-- What setup does once everything was exported, or was not. -/
def finish : Except SetupError Nat → Run Code (Memory σ) Bool
  | .error _ => return false
  | .ok _ => do
    let _ ← install
    return true

/-- With the whole interface there, setup is reading the settings, and something that does nothing
when that failed and has the object ready when it did not. -/
theorem setup_of_present (hw : w.Waiting) (h : InterfaceSymbol.firstMissing? present = none) :
    ∃ rest : Except HostError PluginSettings → Run Code (Memory σ) Bool,
      setup lua l present environmentLog w =
        (Make.perform l (settings environmentLog).run >>= rest) w ∧
      (∀ e w, rest (.error e) w = some (false, w)) ∧
      ∀ settings w, ∃ w', rest (.ok settings) w = some (true, w') ∧ w'.ready = true := by
  obtain ⟨rest, hequip, herror, hok⟩ := perform_equip lua l environmentLog
  refine ⟨fun result => rest result >>= finish, ?_, fun e w => ?_, fun settings w => ?_⟩
  · unfold setup attempt
    rw [Run.bind_of_eq_some Run.get_apply, hw.unready, h, ← bind_assoc, ← hequip]
    show ((Make.perform l (equip lua environmentLog).run >>= _) >>= _) w = _
    rw [bind_assoc]
    refine congrFun (congrArg _ (funext fun equipped => ?_)) w
    cases equipped <;> rfl
  · exact Run.bind_of_eq_some (herror e w)
  · obtain ⟨number, w', hnumber⟩ := hok settings w
    exact ⟨{ w' with ready := true }, Run.bind_of_eq_some hnumber, rfl⟩

end

variable {lua : Lua.Library σ} {options : HostOptions} {nesting : Nat}
  {w w' : World Code (Memory σ)}

/-- Setup of a waiting object comes to an end. -/
theorem setup_ends (hw : w.Waiting) (hnesting : Make.ample ≤ nesting) :
    ∃ done w', setup lua ((Code.host lua options).level nesting) present environmentLog w =
      some (done, w') := by
  cases h : InterfaceSymbol.firstMissing? present with
  | some symbol => exact ⟨false, w, setup_of_missing hw h⟩
  | none =>
    obtain ⟨rest, hsetup, herror, hok⟩ := setup_of_present hw h
    obtain ⟨result, w', hresult, -⟩ := Make.perform_ends World.Waits.serves
      ((Code.host lua options).level_waits_ends hnesting) asks_settings.toExports hw.waits
    rw [hsetup, Run.bind_of_eq_some hresult]
    cases result with
    | error e => exact ⟨false, w', herror e w'⟩
    | ok settings =>
      obtain ⟨w'', hready, -⟩ := hok settings w'
      exact ⟨true, w'', hready⟩

/-- After setup a waiting object is ready, or it still waits and setup failed. -/
theorem setup_cases (hw : w.Waiting) {done : Bool}
    (h : setup lua ((Code.host lua options).level nesting) present environmentLog w =
      some (done, w')) :
    done = true ∧ w'.ready = true ∨ done = false ∧ w.Waits w' := by
  cases hmissing : InterfaceSymbol.firstMissing? present with
  | some symbol =>
    rw [setup_of_missing hw hmissing] at h
    cases h
    exact .inr ⟨rfl, hw.waits⟩
  | none =>
    obtain ⟨rest, hsetup, herror, hok⟩ := setup_of_present hw hmissing
    rw [hsetup] at h
    obtain ⟨result, w₁, hresult, hrest⟩ := Run.bind_eq_some.1 h
    cases result with
    | error e =>
      cases (herror e w₁).symm.trans hrest
      have hlevel := (Code.host lua options).level_waits (Nat.le_refl nesting)
      exact .inr ⟨rfl,
        (Make.perform_along World.Waits.serves hlevel asks_settings.toExports hw.waits
        hresult).2⟩
    | ok settings =>
      obtain ⟨w₂, hready, hw₂⟩ := hok settings w₁
      cases hready.symm.trans hrest
      exact .inl ⟨rfl, hw₂⟩

end Plugin

end MakeHost
