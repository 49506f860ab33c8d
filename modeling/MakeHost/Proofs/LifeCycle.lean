import MakeHost.Process
import MakeHost.Proofs.Setup

/-!
# At most one plugin

A process that has no plugin gets one from a setup that answers 1 or from an installation that is
not refused, whichever comes first, and never another one (`Process.Runs.installed`). Until then the
trampoline answers nothing; from then on it hands every call to the host of that plugin. A setup
that answers 0 leaves no function behind.
-/

namespace MakeHost

variable {κ μ σ : Type} {E : Exported κ → Prop} {w w' : World κ μ}

/-- Only setup has the object ready. -/
theorem World.Change.ready (h : Change E w w') : w'.ready = w.ready := by
  cases h with
  | enter entry =>
    simp only [World.enter, World.note]
    split <;> rfl
  | note call =>
    unfold World.note
    split <;> rfl
  | fail | print | assign | undefine | countCall | allocate | release | remember | complain => rfl

/-- Whether a session is ready is settled before make does anything. -/
theorem World.Evolves.ready (h : Evolves E w w') : w'.ready = w.ready := by
  induction h with
  | refl => rfl
  | tail _ hchange ih => exact hchange.ready.trans ih

namespace Process

/-- The owner of the plugin that a call installs if there is none, by its answer. -/
def installs : Call × Answer → Option Owner
  | (.setup .., .flag true) => some .loaded
  | (.install number, .flag true) => some (.other number)
  | _ => none

/-- Calls that are made one after the other, and what was answered. -/
inductive Runs (lua : Lua.Library σ) : Process σ → List (Call × Answer) → Process σ → Prop
  | nil (p : Process σ) : Runs lua p [] p
  | cons {p q r : Process σ} {call : Call} {answer : Answer} {trace : List (Call × Answer)}
      (nesting : Nat) : perform lua nesting call p = some (answer, q) →
      Runs lua q trace r → Runs lua p ((call, answer) :: trace) r

/-- Nothing was installed and the object was not set up. -/
structure Fresh (p : Process σ) : Prop where
  empty : p.installed = none
  unready : ∀ owner, (p.worlds owner).ready = false
  nameless : (p.worlds .loaded).link = .object []

/-- A host is ready when its plugin is the installed one, and the object waits until then. -/
structure Consistent (p : Process σ) : Prop where
  ready : ∀ owner, (p.worlds owner).ready = true ↔ p.installed = some owner
  waiting : p.installed ≠ some .loaded → (p.worlds .loaded).Waiting

variable {lua : Lua.Library σ} {p q r : Process σ} {owner : Owner} {nesting : Nat}
  {trace : List (Call × Answer)}

/-- A process without a plugin has nothing that could disagree with one. -/
theorem Fresh.consistent (h : p.Fresh) : p.Consistent where
  ready owner := by simp [h.unready owner, h.empty]
  waiting _ := ⟨h.unready .loaded, h.nameless⟩

/-! ## A world of a process -/

@[simp] theorem worlds_withWorld (w : World Code (Memory σ)) :
    (p.withWorld owner w).worlds owner = w := Function.update_self ..

/-- A step in one world leaves the others as they are. -/
theorem worlds_withWorld_of_ne {other : Owner} (h : other ≠ owner) (w : World Code (Memory σ)) :
    (p.withWorld owner w).worlds other = p.worlds other := Function.update_of_ne h ..

/-- A step in one world is a run of that world. -/
theorem on_eq_some {α : Type} {x : Run Code (Memory σ) α} {a : α} :
    on owner x p = some (a, q) ↔
      ∃ w, x (p.worlds owner) = some (a, w) ∧ q = p.withWorld owner w := by
  simp only [on, Option.map_eq_some_iff, Prod.exists, Prod.mk.injEq]
  constructor
  · rintro ⟨b, w, h, rfl, rfl⟩
    exact ⟨w, h, rfl⟩
  · rintro ⟨w, h, rfl⟩
    exact ⟨a, w, h, rfl, rfl⟩

/-- A world that keeps what its process relies on. -/
theorem Consistent.withWorld (h : p.Consistent) {w : World Code (Memory σ)}
    (hready : w.ready = (p.worlds owner).ready)
    (hwaiting : owner = .loaded → (p.worlds .loaded).Waiting → w.Waiting) :
    (p.withWorld owner w).Consistent where
  ready other := by
    by_cases hother : other = owner
    · subst hother
      rw [worlds_withWorld, hready]
      exact h.ready other
    · rw [worlds_withWorld_of_ne hother]
      exact h.ready other
  waiting hinstalled := by
    by_cases howner : owner = .loaded
    · subst howner
      rw [worlds_withWorld]
      exact hwaiting rfl (h.waiting hinstalled)
    · rw [worlds_withWorld_of_ne (Ne.symm howner)]
      exact h.waiting hinstalled

/-- The plugin of a world that has come to be ready is the first one. -/
theorem Consistent.keep (h : p.Consistent) (hnone : p.installed = none) {w : World Code (Memory σ)}
    (hready : w.ready = true) :
    { p.withWorld owner w with installed := some owner }.Consistent where
  ready other := by
    by_cases hother : other = owner
    · subst hother
      simp [hready]
    · rw [worlds_withWorld_of_ne hother]
      simp [h.ready other, hnone, Ne.symm hother]
  waiting howner := by
    have hne : Owner.loaded ≠ owner := fun heq => howner (congrArg some heq.symm)
    rw [worlds_withWorld_of_ne hne]
    exact h.waiting (by simp [hnone])

/-! ## One call -/

/-- What becomes of a process, with the owner of the plugin that is installed if there is none. -/
structure Leads (p : Process σ) (added : Option Owner) (q : Process σ) : Prop where
  consistent : q.Consistent
  installed : q.installed = p.installed.or added
  options : q.options = p.options

/-- What a setup that fails leaves: no plugin, and a loaded object that waits, with the functions
that make and the host had. -/
structure Declines (p q : Process σ) : Prop where
  before : p.installed = none
  installed : q.installed = none
  options : q.options = p.options
  loaded : (p.worlds .loaded).Waits (q.worlds .loaded)
  others : ∀ owner, owner ≠ .loaded → q.worlds owner = p.worlds owner

/-- A call that does nothing leads from a consistent process to itself. -/
theorem Leads.unchanged (h : p.Consistent) : p.Leads none p :=
  ⟨h, Option.or_none.symm, rfl⟩

/-- What has no host ready and registers nothing for a waiting object. -/
theorem Consistent.on_leads (h : p.Consistent) {α : Type} {x : Run Code (Memory σ) α} {a : α}
    (hx : on owner x p = some (a, q))
    (hready : ∀ w, x (p.worlds owner) = some (a, w) → w.ready = (p.worlds owner).ready)
    (hwaiting : ∀ w, x (p.worlds owner) = some (a, w) → owner = .loaded →
      (p.worlds .loaded).Waiting → w.Waiting) : p.Leads none q := by
  obtain ⟨w, hw, rfl⟩ := on_eq_some.1 hx
  exact ⟨h.withWorld (hready w hw) (hwaiting w hw), Option.or_none.symm, rfl⟩

/-! ### Setup -/

section
variable {present : List InterfaceSymbol} {environmentLog : Option Text} {done : Bool}

/-- A setup in a process with a plugin answers 1 and does nothing. -/
theorem setup_of_installed (h : p.installed = some owner) :
    setup lua nesting present environmentLog p = some (true, p) := by
  show (if p.installed.isSome then (pure true : Step σ Bool) else _) p = _
  rw [h]
  rfl

/-- Setup of a process without a plugin is setup of the loaded object. -/
theorem setup_of_empty (h : p.installed = none) : setup lua nesting present environmentLog p =
    (Plugin.setup lua (p.level lua .loaded nesting) present environmentLog (p.worlds .loaded)).map
      fun (done, w) => (done, { p.withWorld .loaded w with
        installed := if done then some .loaded else none }) := by
  have hrun : setup lua nesting present environmentLog p =
      (on .loaded (Plugin.setup lua (p.level lua .loaded nesting) present environmentLog) >>=
        fun done => do
        if done then keep .loaded
        return done : Step σ Bool) p := by
    show (if p.installed.isSome then (pure true : Step σ Bool) else _) p = _
    rw [h]
    rfl
  rw [hrun]
  show ((on .loaded _ p).bind _) = _
  unfold on
  rcases Plugin.setup _ _ _ _ _ with _ | ⟨done, w⟩
  · rfl
  · cases done with
    | false =>
      exact congrArg (fun installed => some (false, { p.withWorld .loaded w with installed })) h
    | true => rfl

/-- Setup answers whether there is a plugin afterwards. There was one before and nothing happens, or
it is the loaded object's, or setup failed and there is none. -/
theorem setup_cases (h : p.Consistent)
    (hsetup : setup lua nesting present environmentLog p = some (done, q)) :
    done = true ∧ p.installed.isSome ∧ q = p ∨
      done = true ∧ p.installed = none ∧ p.Leads (some .loaded) q ∨
      done = false ∧ p.Leads none q ∧ p.Declines q := by
  cases hinstalled : p.installed with
  | some owner =>
    cases (setup_of_installed hinstalled).symm.trans hsetup
    exact .inl ⟨rfl, rfl, rfl⟩
  | none =>
    rw [setup_of_empty hinstalled] at hsetup
    obtain ⟨⟨done, w⟩, hw, hq⟩ := Option.map_eq_some_iff.1 hsetup
    cases hq
    have hwaiting : (p.worlds .loaded).Waiting := h.waiting (by simp [hinstalled])
    obtain ⟨rfl, hready⟩ | ⟨rfl, hwaits⟩ := Plugin.setup_cases hwaiting hw
    · refine .inr (.inl ⟨rfl, rfl, h.keep hinstalled hready, ?_, rfl⟩)
      rw [hinstalled]
      rfl
    · have hsame : { p.withWorld .loaded w with installed := none } = p.withWorld .loaded w :=
        congrArg (fun installed => { p.withWorld .loaded w with installed }) hinstalled.symm
      refine .inr (.inr ⟨rfl, ⟨?_, ?_, rfl⟩, hinstalled, rfl, rfl, ?_, fun owner howner => ?_⟩)
      · rw [if_neg Bool.false_ne_true, hsame]
        exact h.withWorld (hwaits.after.unready.trans hwaiting.unready.symm) fun _ _ => hwaits.after
      · rw [hinstalled]
        rfl
      · simpa using hwaits
      · exact worlds_withWorld_of_ne howner w

/-- With enough nesting setup comes to an end. -/
theorem setup_ends (h : p.Consistent) (hnesting : Make.ample ≤ nesting) :
    ∃ done q, setup lua nesting present environmentLog p = some (done, q) := by
  cases hinstalled : p.installed with
  | some owner => exact ⟨true, p, setup_of_installed hinstalled⟩
  | none =>
    have hwaiting : (p.worlds .loaded).Waiting := h.waiting (by simp [hinstalled])
    obtain ⟨done, w, hw⟩ := Plugin.setup_ends hwaiting hnesting
    rw [setup_of_empty hinstalled]
    exact ⟨done, _, Option.map_eq_some_iff.2 ⟨(done, w), hw, rfl⟩⟩

end

/-! ### Installation and the trampoline -/

/-- A plugin is installed unless there is one. -/
theorem install_apply (h : p.Consistent) (number : Nat) : install number p =
    match p.installed with
    | some _ => some (false, p)
    | none => some (true, { p.withWorld (.other number)
        { p.worlds (.other number) with ready := true } with
          installed := some (.other number) }) := by
  cases hinstalled : p.installed with
  | some owner =>
    show (if p.installed.isSome then (pure false : Step σ Bool) else _) p = _
    rw [hinstalled]
    rfl
  | none =>
    have hunready : (p.worlds (.other number)).ready = false := by
      simp [Bool.eq_false_iff, h.ready, hinstalled]
    show (if p.installed.isSome then (pure false : Step σ Bool) else _) p = _
    rw [hinstalled]
    show some (!(p.worlds (.other number)).ready, _) = _
    rw [hunready]
    rfl

/-- The trampoline hands a call to the host of the plugin that is installed. -/
theorem trampoline_apply (h : p.Consistent) (name : Bytes) (args : List Bytes) :
    trampoline lua nesting name args p = match p.installed with
      | none => some (none, p)
      | some owner => on owner
          (Make.perform (p.level lua owner nesting) ((p.host lua owner).dispatch name args)) p := by
  show (match p.installed with
    | none => (pure none : Step σ (Option Buffer))
    | some owner =>
      on owner (Plugin.trampoline (p.level lua owner nesting) (p.host lua owner) name args)) p =
      _
  cases hinstalled : p.installed with
  | none => rfl
  | some owner =>
    have hready : (p.worlds owner).ready = true := (h.ready owner).2 hinstalled
    have hworld : Plugin.trampoline (p.level lua owner nesting) (p.host lua owner) name args
        (p.worlds owner) = Make.perform (p.level lua owner nesting)
          ((p.host lua owner).dispatch name args) (p.worlds owner) := by
      unfold Plugin.trampoline
      rw [Run.bind_of_eq_some Run.get_apply, if_pos hready]
    simp only [on, hworld]

/-! ### Any call -/

section
variable {host : Host κ μ} {w w' : World κ μ}

/-- Make leaves a session as ready as it was. -/
theorem run_ready {text : Text} (h : (host.level nesting).run text w = some ((), w')) :
    w'.ready = w.ready :=
  World.Evolves.ready (Make.Level.run_along (host.level_along (Nat.le_refl nesting)).evaluate text
    .refl h).2

/-- A session that waits for its plugin still does so after make ran. -/
theorem run_waiting {text : Text} (hw : w.Waiting)
    (h : (host.level nesting).run text w = some ((), w')) : w'.Waiting :=
  (Make.Level.run_along (host.level_waits (Nat.le_refl nesting)).evaluate text hw.waits h).2.after

end

/-- A sequence has a result when its first part has one and the rest has one from there. -/
theorem bind_eq_some {α β : Type} {x : Step σ α} {f : α → Step σ β} {b : β} :
    (x >>= f) p = some (b, r) ↔ ∃ a q, x p = some (a, q) ∧ f a q = some (b, r) := by
  show (x p).bind _ = _ ↔ _
  simp [Option.bind_eq_some_iff]

/-- A step whose answer is made something of is that step. -/
theorem map_eq_some {α β : Type} {x : Step σ α} {f : α → β} {b : β} :
    (f <$> x) p = some (b, q) ↔ ∃ a, x p = some (a, q) ∧ f a = b := by
  rw [map_eq_pure_bind, bind_eq_some]
  constructor
  · rintro ⟨a, q', ha, hb⟩
    cases hb
    exact ⟨a, ha, rfl⟩
  · rintro ⟨a, ha, rfl⟩
    exact ⟨a, q, ha, rfl⟩

/-- A call keeps the process consistent, and what it installs stays. -/
theorem perform_leads (h : p.Consistent) {call : Call} {answer : Answer}
    (hcall : perform lua nesting call p = some (answer, q)) :
    p.Leads (installs (call, answer)) q := by
  cases call with
  | setup present environmentLog =>
    obtain ⟨done, hdone, rfl⟩ := map_eq_some.1 hcall
    obtain ⟨rfl, hsome, rfl⟩ | ⟨rfl, -, hleads⟩ | ⟨rfl, hleads, -⟩ := setup_cases h hdone
    · obtain ⟨owner, howner⟩ := Option.isSome_iff_exists.1 hsome
      exact ⟨h, by simp [howner], rfl⟩
    · exact hleads
    · exact hleads
  | install number =>
    obtain ⟨first, hfirst, rfl⟩ := map_eq_some.1 hcall
    rw [install_apply h] at hfirst
    cases hinstalled : p.installed with
    | some owner =>
      rw [hinstalled] at hfirst
      cases hfirst
      exact .unchanged h
    | none =>
      rw [hinstalled] at hfirst
      cases hfirst
      exact ⟨h.keep hinstalled rfl, by simp [hinstalled, installs], rfl⟩
  | trampoline name args =>
    obtain ⟨buffer, hbuffer, rfl⟩ := map_eq_some.1 hcall
    rw [trampoline_apply h] at hbuffer
    cases hinstalled : p.installed with
    | none =>
      rw [hinstalled] at hbuffer
      cases hbuffer
      exact .unchanged h
    | some owner =>
      rw [hinstalled] at hbuffer
      refine h.on_leads hbuffer (fun w hw => ?_) fun w hw howner hwaiting => ?_
      · exact (Host.perform_along (Nat.le_refl nesting) hw).2.ready
      · have hready := (h.ready owner).2 hinstalled
        rw [howner] at hready
        exact absurd (hready.symm.trans hwaiting.unready) (by decide)
  | run text =>
    have hbind : (on .loaded ((p.level lua .loaded nesting).run text) >>= fun _ =>
        pure Answer.nothing) p = some (answer, q) := hcall
    obtain ⟨_, q', hrun, hq⟩ := bind_eq_some.1 hbind
    cases hq
    exact h.on_leads hrun (fun w hw => run_ready hw) fun w hw _ hwaiting => run_waiting hwaiting hw
  | build number environmentLog =>
    unfold perform at hcall
    obtain ⟨_, _, hget, hbuild⟩ := bind_eq_some.1 hcall
    cases hget
    obtain ⟨equipped, q', hequip, hq⟩ := bind_eq_some.1 hbuild
    have hleads : p.Leads none q' := by
      refine h.on_leads hequip (fun w hw => ?_) fun w _ hother => ?_
      · exact (Host.perform_along (Nat.le_refl nesting) hw).2.ready
      · cases hother
    cases equipped <;> cases hq <;> exact hleads
  | runOther number text =>
    have hbind : (on (.other number) ((p.level lua (.other number) nesting).run text) >>= fun _ =>
        pure Answer.nothing) p = some (answer, q) := hcall
    obtain ⟨_, q', hrun, hq⟩ := bind_eq_some.1 hbind
    cases hq
    refine h.on_leads hrun (fun w hw => run_ready hw) fun w _ hother => ?_
    cases hother

/-! ## Any number of calls -/

/-- The plugin after some calls was there before, or is the first that was installed. -/
theorem Runs.leads (h : Runs lua p trace q) (hp : p.Consistent) :
    p.Leads (trace.findSome? installs) q := by
  induction h with
  | nil p => exact .unchanged hp
  | @cons p q r call answer trace _ hcall _ ih =>
    have hfirst := perform_leads hp hcall
    have hrest := ih hfirst.consistent
    refine ⟨hrest.consistent, ?_, hrest.options.trans hfirst.options⟩
    rw [hrest.installed, hfirst.installed, Option.or_assoc, List.findSome?_cons]
    cases installs (call, answer) <;> rfl

/-- A plugin that is installed is never replaced. -/
theorem Runs.installed (h : Runs lua p trace q) (hp : p.Consistent)
    (howner : p.installed = some owner) :
    q.installed = some owner := by
  rw [(h.leads hp).installed, howner]
  rfl

/-- A call of a known name that make hands out on the way is a call of the trampoline. -/
theorem handOut_trampoline {w : World Code (Memory σ)} {host : Host Code (Memory σ)}
    {l : Make.Level Code (Memory σ)} {name : Text} {args known : List Text}
    (hlink : w.link = .object known) (hname : name ∈ known) :
    Make.handOut host.responder l name args w =
      (Plugin.trampoline l host name.utf8 ((args.map Make.handedOver).map Text.utf8) >>=
        Make.collect)
        { w with make := w.make.countCall } := by
  obtain ⟨make, exports, memory, complaints, link, ready, interface⟩ := w
  cases hlink
  have hknown : known.contains name = true := by simpa using hname
  show (if known.contains name = true ∧ ready = true then _ else pure [] :
      Run Code (Memory σ) Text) _ =
    ((if ready = true then _ else pure none : Run Code (Memory σ) (Option Buffer)) >>=
      Make.collect) _
  cases ready with
  | false => rw [if_neg (by simp), if_neg (by simp), pure_bind]; rfl
  | true => rw [if_pos ⟨hknown, rfl⟩, if_pos rfl]; rfl

/-- **A process has one plugin at most, and keeps it.** After any calls on a process in which
nothing was installed, whatever its makes hold, the plugin is the one of the first call that
installed one. It is never replaced, and an installation that comes later is refused. The trampoline
answers nothing and changes nothing before there is a plugin; afterwards it does what that plugin's
host does when it dispatches the call, and so do the calls of known names that make hands out while
it runs. Setup comes to an end, and it answers 1 exactly when there is a plugin afterwards: with a
plugin there it does nothing at all, and when it answers 0 no function was registered. -/
theorem one_plugin (hp : p.Fresh) (h : Runs lua p trace q) :
    q.options = p.options ∧ q.installed = trace.findSome? installs ∧
    (∀ more r owner, Runs lua q more r → q.installed = some owner → r.installed = some owner) ∧
    (∀ number first r, install number q = some (first, r) →
      (first = true ↔ q.installed = none) ∧
        r.installed = some (q.installed.getD (.other number))) ∧
    (∀ nesting name args, trampoline lua nesting name args q = match q.installed with
      | none => some (none, q)
      | some owner => on owner
          (Make.perform ((q.host lua owner).level nesting)
            ((q.host lua owner).dispatch name args)) q) ∧
    (∀ l name args known w, World.Evolves (fun _ => True) (q.worlds .loaded) w →
      w.link = .object known → name ∈ known →
        (w.ready = true ↔ q.installed = some .loaded) ∧
        Make.handOut (q.host lua .loaded).responder l name args w =
          (Plugin.trampoline l (q.host lua .loaded) name.utf8
            ((args.map Make.handedOver).map Text.utf8) >>= Make.collect)
              { w with make := w.make.countCall }) ∧
    ∀ nesting present environmentLog,
      (Make.ample ≤ nesting →
        ∃ done r, setup lua nesting present environmentLog q = some (done, r)) ∧
      ∀ done r, setup lua nesting present environmentLog q = some (done, r) →
        (done = true ↔ r.installed.isSome) ∧ (q.installed.isSome → done = true ∧ r = q) ∧
          (done = false → q.Declines r) := by
  have hleads := h.leads hp.consistent
  have hq := hleads.consistent
  have hinstalled : q.installed = trace.findSome? installs := by
    rw [hleads.installed, hp.empty]
    rfl
  refine ⟨hleads.options, hinstalled, fun more r owner hmore => hmore.installed hq, ?_, ?_, ?_, ?_⟩
  · intro number first r hfirst
    rw [install_apply hq] at hfirst
    cases howner : q.installed with
    | some owner =>
      rw [howner] at hfirst
      cases hfirst
      exact ⟨by simp, by simp [howner]⟩
    | none =>
      rw [howner] at hfirst
      cases hfirst
      exact ⟨by simp, by simp⟩
  · exact fun nesting => trampoline_apply hq
  · intro l name args known w hw hlink hname
    exact ⟨by rw [hw.ready, hq.ready], handOut_trampoline hlink hname⟩
  · refine fun nesting present environmentLog => ⟨setup_ends hq, fun done r hsetup => ?_⟩
    obtain ⟨rfl, hsome, rfl⟩ | ⟨rfl, hnone, hr⟩ | ⟨rfl, hr, hdeclines⟩ := setup_cases hq hsetup
    · exact ⟨by simp [hsome], fun _ => ⟨rfl, rfl⟩, nofun⟩
    · exact ⟨by simp [hr.installed, hnone], fun hsome => by simp [hnone] at hsome, nofun⟩
    · refine ⟨by simp [hdeclines.installed], fun hsome => ?_, fun _ => hdeclines⟩
      rw [hdeclines.before] at hsome
      cases hsome

/-- An interpreter that can be made, and in which nothing is run. -/
def idle : Lua.Library Unit where
  create _ _ _ _ := ()
  globals _ _ := 0
  environment _ := 1
  native _ _ := 2
  inspect _ := 2
  evaluate _ _ _ _ := .ended (.ok [])
  execute _ _ _ _ := .ended (.ok [])
  call _ _ := .ended (.ok [])
  get _ _ := .ended (.ok [])
  set _ _ _ := .ended (.ok [])
  newTable _ _ held := (held + 1, ())
  rawGet _ _ _ := .nil
  rawSet _ _ _ _ := ()
  fileContent _ _ := .error "no such file"
  nesting := 0
  overflow := .runtime "C stack overflow"
  shown _ := "error"

/-- A process whose makes know nothing. -/
def empty : Process Unit where
  worlds
    | .loaded => .fresh (.empty ()) (.object [])
    | .other _ => .fresh (.empty ()) .attached
  options _ := .default
  installed := none

/-- A setup without an interface fails; then a plugin is installed that stays, through a setup that
has the interface and through another installation. -/
theorem one_plugin_stays : ∃ q,
    Runs idle empty [(.setup [] none, .flag false), (.trampoline (Text.utf8 "f") [], .buffer none),
      (.install 0, .flag true), (.setup InterfaceSymbol.all none, .flag true),
      (.install 1, .flag false)] q ∧
    q.installed = some (.other 0) ∧
    ∀ nesting done r, setup idle nesting InterfaceSymbol.all none q = some (done, r) →
      done = true ∧ r = q := by
  have hempty : empty.Fresh := ⟨rfl, fun owner => by cases owner <;> rfl, rfl⟩
  have hruns : ∃ q, Runs idle empty [(.setup [] none, .flag false),
      (.trampoline (Text.utf8 "f") [], .buffer none), (.install 0, .flag true),
      (.setup InterfaceSymbol.all none, .flag true), (.install 1, .flag false)] q :=
    ⟨_, .cons 0 rfl (.cons 0 rfl (.cons 0 rfl (.cons 0 rfl (.cons 0 rfl (.nil _)))))⟩
  obtain ⟨q, hq⟩ := hruns
  obtain ⟨-, hinstalled, -, -, -, -, hsetup⟩ := one_plugin hempty hq
  have howner : q.installed = some (.other 0) := hinstalled
  refine ⟨q, hq, howner, fun nesting done r h => ?_⟩
  exact ((hsetup nesting _ none).2 done r h).2.1 (by simp [howner])

end Process

end MakeHost
