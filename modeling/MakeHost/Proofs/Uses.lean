import MakeHost.Proofs.Captures

/-!
# Uses of an interpreter

A use of an interpreter yields what is printed while its own capture is the innermost one, leaves
the captures as they were, and puts back the entry in which it lends arguments to its program
(`KeptApart`). A module is looked for before all this, by code that may print and write as it likes
(`Use.Apart`). So calls keep their outputs apart, at any nesting (`calls_keep_outputs_apart`).
-/

namespace MakeHost.Lua

variable {σ α β ε : Type} {i : Nat} {w w' w₁ w₂ : Logged σ}

/-! ## Arguments that are lent -/

section

variable {lua : Library σ} {globals : Ref} {script : Text} {args : List Text}
  {l : Make.Level Code (Memory σ × List Line)}

/-- A table of globals keeps its entries when a table of arguments is made. -/
theorem Library.Lawful.rawGet_argumentTable (hlua : lua.Lawful) (s : σ) (i : Nat) (globals : Ref)
    (script : Text) (args : List Text) (key : Value) :
    lua.rawGet (lua.argumentTable s i globals script args).2 globals key =
      lua.rawGet s globals key := by
  have hne : globals ≠ (lua.newTable s i globals).1 := (hlua.newTable_ne s i globals).symm
  have hset : ∀ (entries : List (Text × Nat)) (s' : σ),
      lua.rawGet (entries.foldl (fun s' entry =>
        lua.rawSet s' (lua.newTable s i globals).1 (.int entry.2) (.ofText entry.1)) s')
          globals key = lua.rawGet s' globals key := by
    intro entries
    induction entries with
    | nil => exact fun _ => rfl
    | cons entry entries ih =>
      intro s'
      exact (ih _).trans (hlua.rawGet_rawSet_of_ne _ _ _ _ _ _ hne)
  refine (hset _ _).trans ?_
  rw [hlua.rawGet_rawSet_of_ne _ _ _ _ _ _ hne, hlua.rawGet_newTable _ _ _ _ _ hne]

/-- The memory once arguments were lent in a table of globals. -/
def lent (lua : Library σ) (i : Nat) (globals : Ref) (script : Text) (args : List Text)
    (m : Memory σ) : Memory σ :=
  let (table, filled) := lua.argumentTable m.outside i globals script args
  { m with outside := lua.rawSet filled globals argumentsKey (.table table) }

/-- The memory once the entry for arguments was set to what it was. -/
def handedBack (lua : Library σ) (globals : Ref) (earlier : Value) (m : Memory σ) : Memory σ :=
  { m with outside := lua.rawSet m.outside globals argumentsKey earlier }

/-- Arguments are lent, the body runs, and the entry for them is set to what it was. -/
theorem perform_withArguments (body : ExceptT ε (Action Code (Memory σ)) α) :
    Make.perform l ((withArguments lua i globals script args body).run.logged linesBetween) w =
      (Make.perform l (body.run.logged linesBetween)
        (remembering (lent lua i globals script args) w)).map fun (r, w₂) =>
          (r, remembering (handedBack lua globals (lua.rawGet (lua.argumentTable
            w.memory.1.outside i globals script args).2 globals argumentsKey)) w₂) := by
  let table := lua.argumentTable w.memory.1.outside i globals script args
  have hlend : Make.perform l ((changeOutside fun _ =>
      lua.rawSet table.2 globals argumentsKey (.table table.1)).logged linesBetween) w =
        some ((), remembering (lent lua i globals script args) w) := rfl
  unfold withArguments
  rw [ExceptT.run_mk, Action.logged_bind, Make.perform_bind,
    Run.bind_of_eq_some (perform_outside l w), Action.logged_bind, Make.perform_bind]
  dsimp only
  rw [Run.bind_of_eq_some hlend, Action.logged_bind, Make.perform_bind, Run.bind_apply]
  cases Make.perform l (body.run.logged linesBetween)
    (remembering (lent lua i globals script args) w) with
  | none => rfl
  | some result => rfl

/-- A change of what is outside, before and after something is collected. -/
theorem Collects.between {result : Option Text} {g g' : Memory σ → Memory σ}
    (hg : ∀ m, ∃ s, g m = { m with outside := s }) (hg' : ∀ m, ∃ s, g' m = { m with outside := s })
    (h : Collects i result (remembering g w) w₂) : Collects i result w (remembering g' w₂) := by
  obtain ⟨lines, hlog, hprinted, hcollects⟩ := h
  obtain ⟨s, hs⟩ := hg w.memory.1
  obtain ⟨s', hs'⟩ := hg' w₂.memory.1
  have hbefore : Printed [] w.memory.1 (g w.memory.1) := hs ▸ .outside _ s
  have hafter : Printed [] w₂.memory.1 (g' w₂.memory.1) := hs' ▸ .outside _ s'
  have hcaptures : capturesOf (g w.memory.1) i = capturesOf w.memory.1 i := by
    rw [hbefore.captures, withLines_nil]
  refine ⟨lines, ?_, ?_, ?_⟩
  · simpa [remembering, hbefore.linesBetween_eq_nil, hafter.linesBetween_eq_nil] using hlog
  · have hall := (hbefore.append hprinted).append hafter
    rw [List.nil_append, List.append_nil] at hall
    exact hall
  · simp only [remembering, hcaptures] at hcollects
    exact hcollects

/-- The raw entry of a table for the arguments of programs. -/
def argumentsIn (lua : Library σ) (m : Memory σ) (globals : Ref) : Value :=
  lua.rawGet m.outside globals argumentsKey

/-- A program that is run with a capture and with arguments lent collects what it prints, and the
entry for arguments is afterwards what it was. -/
theorem lent_collects (hlua : lua.Lawful) (hl : l.Along Prints l)
    {body : ExceptT ε (Action Code (Memory σ)) Unit} (hbody : Heard _ body.run)
    {r : Except ε Text} (h : Make.perform l ((withArguments lua i globals script args
      (captured i body)).run.logged linesBetween) w = some (r, w')) :
    Collects i r.toOption w w' ∧
      argumentsIn lua w'.memory.1 globals = argumentsIn lua w.memory.1 globals := by
  rw [perform_withArguments] at h
  obtain ⟨⟨result, w₂⟩, hrun, heq⟩ := Option.map_eq_some_iff.1 h
  cases heq
  refine ⟨(captured_along hbody hl hrun).2.between (fun _ => ⟨_, rfl⟩) fun _ => ⟨_, rfl⟩, ?_⟩
  exact (hlua.rawGet_rawSet _ _ _ _).trans (hlua.rawGet_argumentTable _ i globals script args _)

end

/-! ## Uses of an interpreter -/

/-- A use of an interpreter that yields what is printed. -/
inductive Use
  | text (s : Text)
  | file (path : Text) (args : List Text)
  | module (name : Text) (args : List Text)

namespace Use

variable (lua : Library σ) (i : Nat)

/-- Runs the program of a use. -/
def run : Use → Driven σ Text
  | text s => driven (execText lua i s)
  | file path args => runFile lua i path args
  | module name args => runModule lua i name args

/-- The search that a use begins with. Only a module is looked for. -/
def search : Use → Driven σ (Option FoundModule)
  | text _ | file .. => return none
  | module name _ => do
    let globals := lua.globals (← ExceptT.lift outside) i
    some <$> driven (findModule lua i globals name)

/-- The table of globals in which a use lends arguments, seen from where it begins. -/
def globals? (m : Memory σ) : Use → Option Ref
  | text _ => none
  | file .. => some (lua.environment i)
  | module .. => some (lua.globals m.outside i)

/-- The use that a call of an entry point is; an expression is evaluated instead. -/
def ofEntry? (e : EntryPoint) (args : Arguments) : Option Use :=
  match e with
  | .eval => none
  | .exec => some (text (args.required 0))
  | .file => some (file (args.required 0) (args.rest 1))
  | .module => some (module (args.required 0) (args.rest 1))

end Use

/-- The result of a use as the result of a call. -/
def usedAs (lua : Library σ) (used : Except DriverError Text) : Except Raised MakeHost.Value :=
  (used.map .text).mapError fun e => .failure (e.toFailure lua.shown)

/-- What a use of an interpreter keeps apart, with the lines that were printed meanwhile. -/
structure KeptApart (lua : Library σ) (globals? : Option Ref) (i : Nat)
    (r : Except DriverError Text) (lines : List Line) (m m' : Memory σ) : Prop where
  /-- The captures and the standard output have these lines and nothing else. -/
  printed : Printed lines m m'
  /-- The captures of the interpreter are what they were. -/
  captures : capturesOf m' i = capturesOf m i
  /-- No line went to a capture that was open before. -/
  deeper : ∀ line ∈ lines, ∀ depth, line.sink = .capture i depth → (capturesOf m i).length < depth
  /-- A result is what was printed while the use's own capture was the innermost one. -/
  result : ∀ text, r = .ok text →
    text = (said lines (.capture i ((capturesOf m i).length + 1))).dropTailWhile (· = '\n')
  /-- The entry in which arguments were lent is what it was. -/
  arguments : ∀ globals, globals? = some globals →
    argumentsIn lua m' globals = argumentsIn lua m globals

/-- A use of an interpreter in a run: it prints `before` while it looks for its module, up to `w₁`,
and keeps apart what happens from there on. -/
structure Use.Apart (lua : Library σ) (l : Make.Level Code (Memory σ × List Line)) (use : Use)
    (i : Nat) (r : Except DriverError Text) (before lines : List Line) (w w₁ w' : Logged σ) :
    Prop where
  /-- Where the search fails the use does, and does nothing else. -/
  found : ∃ found, Make.perform l ((use.search lua i).run.logged linesBetween) w =
    some (found, w₁) ∧ ∀ e, found = .error e → r = .error e ∧ w' = w₁
  /-- What is printed in the search goes where the interpreter printed before. -/
  searched : Printed before w.memory.1 w₁.memory.1
  /-- A text and a script are not looked for. -/
  unsearched : (∀ name args, use ≠ .module name args) → before = [] ∧ w₁ = w
  kept : KeptApart lua (use.globals? lua i w.memory.1) i r lines w₁.memory.1 w'.memory.1

section

variable {lua : Library σ} {l : Make.Level Code (Memory σ × List Line)}

/-- A result that is made something of. -/
theorem perform_return (x : Action Code (Memory σ) α) (f : α → β) :
    Make.perform l ((do return f (← x)).logged linesBetween) w =
      (Make.perform l (x.logged linesBetween) w).map fun (a, w') => (f a, w') := by
  rw [Action.logged_bind, Make.perform_bind, Run.bind_apply]
  cases Make.perform l (x.logged linesBetween) w with
  | none => rfl
  | some result => rfl

/-- What was collected is kept apart, where the entry for arguments is what it was. -/
theorem Collects.keptApart {globals? : Option Ref} {r : Except DriverError Text}
    (h : Collects i r.toOption w w') (harg : ∀ globals, globals? = some globals →
      argumentsIn lua w'.memory.1 globals = argumentsIn lua w.memory.1 globals) :
    ∃ lines, w'.memory.2 = w.memory.2 ++ lines ∧
      KeptApart lua globals? i r lines w.memory.1 w'.memory.1 := by
  obtain ⟨lines, hlog, hprinted, hdeeper, htext⟩ := h
  refine ⟨lines, hlog, hprinted, ?_, hdeeper, fun text hr => htext text (hr ▸ rfl), harg⟩
  rw [hprinted.captures i]
  exact withLines_eq_self fun line hline hsink => Nat.lt_irrefl _ (hdeeper line hline _ hsink)

/-- A use that is not looked for keeps everything apart. -/
theorem Collects.apart {use : Use} {r : Except DriverError Text}
    (hsearch : use.search lua i = pure none) (h : Collects i r.toOption w w')
    (harg : ∀ globals, use.globals? lua i w.memory.1 = some globals →
      argumentsIn lua w'.memory.1 globals = argumentsIn lua w.memory.1 globals) :
    ∃ before lines w₁, w₁.memory.2 = w.memory.2 ++ before ∧
      w'.memory.2 = w₁.memory.2 ++ lines ∧ use.Apart lua l i r before lines w w₁ w' := by
  obtain ⟨lines, hlog, hkept⟩ := h.keptApart harg
  refine ⟨[], lines, w, (List.append_nil _).symm, hlog, ⟨.ok none, ?_, nofun⟩, .refl _,
    fun _ => ⟨rfl, rfl⟩, hkept⟩
  rw [hsearch]
  rfl

variable (hlua : lua.Lawful) (hl : l.Along Prints l) {r : Except DriverError Text}
include hl

/-- A program runs in a capture. -/
theorem execText_collects {s : Text}
    (h : Make.perform l ((driven (execText lua i s)).run.logged linesBetween) w = some (r, w')) :
    Collects i r.toOption w w' := by
  rw [driven, ExceptT.run_mk, perform_return] at h
  obtain ⟨⟨ended, w₂⟩, hrun, heq⟩ := Option.map_eq_some_iff.1 h
  cases heq
  have hcollects := (captured_along (heard_grants.execProgram _ _) hl hrun).2
  cases ended with
  | ok text => exact hcollects
  | error e => exact hcollects

include hlua

/-- A script runs in a capture with its arguments lent; one that cannot be read changes nothing. -/
theorem runFile_collects {path : Text} {args : List Text}
    (h : Make.perform l ((runFile lua i path args).run.logged linesBetween) w = some (r, w')) :
    Collects i r.toOption w w' ∧ argumentsIn lua w'.memory.1 (lua.environment i) =
      argumentsIn lua w.memory.1 (lua.environment i) := by
  unfold runFile at h
  rw [ExceptT.run_bind_lift, Action.logged_bind, Make.perform_bind,
    Run.bind_of_eq_some (perform_outside l w)] at h
  cases hscript : lua.fileContent w.memory.1.outside path with
  | error fault =>
    rw [hscript] at h
    cases h
    exact ⟨.refl i w, rfl⟩
  | ok source =>
    rw [hscript] at h
    exact lent_collects hlua hl (heard_grants.driven (heard_grants.execProgram _ _)) h

/-- A module is looked for, and runs in a capture with its arguments lent once it was found. -/
theorem runModule_apart {name : Text} {args : List Text}
    (h : Make.perform l ((runModule lua i name args).run.logged linesBetween) w = some (r, w')) :
    ∃ before lines w₁, w₁.memory.2 = w.memory.2 ++ before ∧ w'.memory.2 = w₁.memory.2 ++ lines ∧
      (Use.module name args).Apart lua l i r before lines w w₁ w' := by
  let use := Use.module name args
  have hheard : Heard _ (driven (findModule lua i (lua.globals w.memory.1.outside i) name)).run :=
    heard_grants.driven (heard_grants.findModule _ name)
  unfold runModule at h
  rw [ExceptT.run_bind_lift, Action.logged_bind, Make.perform_bind,
    Run.bind_of_eq_some (perform_outside l w)] at h
  dsimp only at h
  rw [ExceptT.run_bind, Action.logged_bind, Make.perform_bind, Run.bind_apply] at h
  obtain ⟨⟨found, w₁⟩, hsearch, hrest⟩ := Option.bind_eq_some_iff.1 h
  obtain ⟨-, before, hbefore, hprinted⟩ := hheard hl w (.of_memory rfl) hsearch
  have hfound : Make.perform l ((use.search lua i).run.logged linesBetween) w =
      some (found.map some, w₁) := by
    unfold use Use.search
    rw [ExceptT.run_bind_lift, Action.logged_bind, Make.perform_bind,
      Run.bind_of_eq_some (perform_outside l w)]
    dsimp only
    rw [ExceptT.run_map, map_eq_pure_bind, perform_return, hsearch]
    rfl
  have hmodule : (∀ name args, use ≠ .module name args) → before = [] ∧ w₁ = w :=
    fun hother => absurd rfl (hother name args)
  cases found with
  | error e =>
    cases hrest
    have hsame : ∀ globals, use.globals? lua i w.memory.1 = some globals →
      argumentsIn lua w₁.memory.1 globals = argumentsIn lua w₁.memory.1 globals := fun _ _ => rfl
    have hnothing : Collects i (Except.error e : Except DriverError Text).toOption w₁ w₁ :=
      .refl i w₁
    obtain ⟨lines, hlog, hkept⟩ := hnothing.keptApart hsame
    refine ⟨before, lines, w₁, hbefore, hlog, ⟨_, hfound, ?_⟩, hprinted, hmodule, hkept⟩
    intro e he
    cases he
    exact ⟨rfl, rfl⟩
  | ok found =>
    have hload : Heard _ (driven (found.load lua i name)).run :=
      heard_grants.driven (heard_grants.load found name)
    obtain ⟨hcollects, harg⟩ := lent_collects hlua hl hload hrest
    have hlent : ∀ globals, use.globals? lua i w.memory.1 = some globals →
        argumentsIn lua w'.memory.1 globals = argumentsIn lua w₁.memory.1 globals := by
      intro globals hglobals
      cases hglobals
      exact harg
    obtain ⟨lines, hlog, hkept⟩ := hcollects.keptApart hlent
    refine ⟨before, lines, w₁, hbefore, hlog, ⟨_, hfound, ?_⟩, hprinted, hmodule, hkept⟩
    intro e he
    cases he

/-- Every use looks for its module first, if it is one, and keeps the rest apart. -/
theorem use_apart {use : Use}
    (h : Make.perform l ((use.run lua i).run.logged linesBetween) w = some (r, w')) :
    ∃ before lines w₁, w₁.memory.2 = w.memory.2 ++ before ∧ w'.memory.2 = w₁.memory.2 ++ lines ∧
      use.Apart lua l i r before lines w w₁ w' := by
  cases use with
  | text s => exact (execText_collects hl h).apart rfl nofun
  | file path args =>
    obtain ⟨hcollects, harg⟩ := runFile_collects hlua hl h
    exact hcollects.apart rfl fun globals hglobals => by cases hglobals; exact harg
  | module name args => exact runModule_apart hlua hl h

omit hlua hl

/-- A call of an entry point is a use. -/
theorem perform_entryBody {e : EntryPoint} {args : Arguments} {use : Use}
    (huse : Use.ofEntry? e args = some use) :
    Make.perform l ((entryBody lua i e args).run.logged linesBetween) w =
      (Make.perform l ((use.run lua i).run.logged linesBetween) w).map fun (used, w') =>
        (usedAs lua used, w') := by
  have hvalue : ∀ x : Driven σ Text,
      (MakeHost.Value.text <$> settled lua x : Body Code (Memory σ) _).run =
        (do return usedAs lua (← x.run)) := by
    intro x
    rw [ExceptT.run_map, settled, ExceptT.run_mk, map_eq_pure_bind, bind_assoc]
    refine bind_congr fun used => ?_
    cases used <;> rfl
  have hbody : entryBody lua i e args = MakeHost.Value.text <$> settled lua (use.run lua i) := by
    cases e <;> cases huse <;> rfl
  rw [hbody, hvalue, perform_return]

end

/-! ## Calls -/

/-- The world once an interpreter has printed a line. -/
def linePrinted (j : Nat) (line : Text) (w : Logged σ) : Logged σ :=
  { w with memory := (written w.memory.1 j line, w.memory.2 ++ [⟨sinkOf w.memory.1 j, line⟩]) }

/-- What `print` does with the texts of its values, or with the error of one of them. -/
def textsPrinted (j : Nat) :
    Except Error (List Text) × Logged σ → Except Error (List Value) × Logged σ
  | (.ok texts, w) => (.ok [], linePrinted j (Text.join "\t" texts ++ "\n") w)
  | (.error e, w) => (.error e, w)

/-- `print` finds the texts of its values and prints the line of them, or fails without a line. -/
theorem perform_print (lua : Library σ) (l : Make.Level Code (Memory σ × List Line))
    (run : Runner σ) (j : Nat) (values : List Value) (w : Logged σ) :
    Make.perform l ((print lua run j values).run.logged linesBetween) w =
      (Make.perform l ((values.mapM (display lua run j)).run.logged linesBetween) w).map
        (textsPrinted j) := by
  have hwrite : ∀ line, line ≠ [] → ∀ w₁ : Logged σ,
      Make.perform l ((write j line).logged linesBetween) w₁ =
        some ((), linePrinted j line w₁) := by
    intro line hline w₁
    rw [write, perform_changeMemory, remembering, linesBetween_written hline, linePrinted]
  unfold print
  rw [ExceptT.run_bind, Action.logged_bind, Make.perform_bind, Run.bind_apply]
  cases Make.perform l ((values.mapM (display lua run j)).run.logged linesBetween) w with
  | none => rfl
  | some result =>
    obtain ⟨r, w₁⟩ := result
    cases r with
    | error e => rfl
    | ok texts =>
      have hline : Text.join "\t" texts ++ ("\n" : Text) ≠ [] := by simp
      dsimp only [Option.map_some, Option.bind_some]
      rw [ExceptT.run_bind_lift, Action.logged_bind, Make.perform_bind,
        Run.bind_of_eq_some (hwrite _ hline w₁)]
      rfl

/-- A run with the log of what is printed. -/
theorem perform_heard {lua : Library σ} {options : HostOptions} {nesting : Nat}
    {x : Action Code (Memory σ) α} {a : α} {w w' : World Code (Memory σ)}
    (h : Make.perform ((Code.host lua options).level nesting) x w = some (a, w'))
    (log : List Line) :
    ∃ log', Make.perform ((Code.host lua options).loggedLevel linesBetween nesting)
      (x.logged linesBetween) (w.logging log) = some (a, w'.logging log') :=
  Host.perform_logged h log

/-- A use in a run with a log, which is longer by the lines that are printed in its search and by
those that are printed behind it. -/
theorem use_apart_logging {lua : Library σ} (hlua : lua.Lawful)
    {l : Make.Level Code (Memory σ × List Line)} (hl : l.Along Prints l) {use : Use}
    {r : Except DriverError Text}
    (h : Make.perform l ((use.run lua i).run.logged linesBetween) w = some (r, w')) :
    ∃ before lines, ∃ w₁ : World Code (Memory σ),
      w'.memory.2 = w.memory.2 ++ before ++ lines ∧
        use.Apart lua l i r before lines w (w₁.logging (w.memory.2 ++ before)) w' := by
  obtain ⟨before, lines, w₁, hbefore, hlines, hapart⟩ := use_apart hlua hl h
  have hw₁ : w₁ = (w₁.mapMemory Prod.fst).logging (w.memory.2 ++ before) := by
    rw [← hbefore]
    rfl
  exact ⟨before, lines, w₁.mapMemory Prod.fst, hbefore ▸ hlines, hw₁ ▸ hapart⟩

/-- **Calls keep their outputs apart**, at any nesting of programs, make and calls, whatever the
interpreter does. What is printed in a run can be told line by line, and the captures and the
standard output are afterwards what they were before with these lines. A use of an interpreter
yields the lines that were printed while its capture was the innermost one, leaves nothing else of
them in a capture, and puts back the entry in which it lends its arguments, however it ends; and so
does a call of its entry points, in the run of whatever function. A module is looked for before
that, by code that prints where the interpreter printed before and that may change that entry. A
print is one line to the innermost capture of its interpreter, and to standard output only when
there is none. -/
theorem calls_keep_outputs_apart (lua : Library σ) (hlua : lua.Lawful) (options : HostOptions)
    (nesting : Nat) (log : List Line) :
    (∀ {use : Use} {i : Nat} {w w' : World Code (Memory σ)} {r : Except DriverError Text},
      Make.perform ((Code.host lua options).level nesting) (use.run lua i).run w = some (r, w') →
        ∃ before lines, ∃ w₁ : World Code (Memory σ),
          Make.perform ((Code.host lua options).loggedLevel linesBetween nesting)
            ((use.run lua i).run.logged linesBetween) (w.logging log) =
              some (r, w'.logging (log ++ before ++ lines)) ∧
          use.Apart lua ((Code.host lua options).loggedLevel linesBetween nesting) i r before lines
            (w.logging log) (w₁.logging (log ++ before)) (w'.logging (log ++ before ++ lines))) ∧
    (∀ {code : Code} {name : Text} {args : Arguments} {w w' : World Code (Memory σ)}
        {r : Except Raised MakeHost.Value},
      Make.perform ((Code.host lua options).level nesting) (code.body lua name args).run w =
          some (r, w') →
        ∃ lines, Make.perform ((Code.host lua options).loggedLevel linesBetween nesting)
            ((code.body lua name args).run.logged linesBetween) (w.logging log) =
              some (r, w'.logging (log ++ lines)) ∧
          Printed lines w.memory w'.memory ∧
          ∀ e i use, code = .entry e i → Use.ofEntry? e args = some use →
            ∃ used before after, ∃ w₁ : World Code (Memory σ),
              r = usedAs lua used ∧ lines = before ++ after ∧
              use.Apart lua ((Code.host lua options).loggedLevel linesBetween nesting) i used before
                after (w.logging log) (w₁.logging (log ++ before)) (w'.logging (log ++ lines))) ∧
    (∀ run j values w,
      Make.perform ((Code.host lua options).loggedLevel linesBetween nesting)
          ((print lua run j values).run.logged linesBetween) w =
        (Make.perform ((Code.host lua options).loggedLevel linesBetween nesting)
          ((values.mapM (display lua run j)).run.logged linesBetween) w).map (textsPrinted j)) ∧
    ∀ (m : Memory σ) j line,
      (capturesOf m j = [] →
        sinkOf m j = .output ∧ written m j line = { m with output := m.output ++ line }) ∧
      ∀ top rest, capturesOf m j = top :: rest →
        sinkOf m j = .capture j (rest.length + 1) ∧ (written m j line).output = m.output ∧
          capturesOf (written m j line) j = (top ++ line) :: rest := by
  have hl := loggedLevel_along lua options nesting
  refine ⟨fun {use i w w' r} h => ?_, fun {code name args w w' r} h => ?_, perform_print lua _,
    fun m j line => ⟨written_of_nil, fun top rest => written_to_capture⟩⟩
  · obtain ⟨log', hrun⟩ := perform_heard h log
    obtain ⟨before, lines, w₁, hlog, hapart⟩ := use_apart_logging hlua hl hrun
    have hlog' : log' = log ++ before ++ lines := hlog
    subst hlog'
    exact ⟨before, lines, w₁, hrun, hapart⟩
  · obtain ⟨log', hrun⟩ := perform_heard h log
    obtain ⟨-, lines, hlog, hprinted⟩ :=
      heard_grants.body code name args hl (w.logging log) (.of_memory rfl) hrun
    have hlog' : log' = log ++ lines := hlog
    subst hlog'
    refine ⟨lines, hrun, hprinted, ?_⟩
    rintro e i use rfl hentry
    obtain ⟨⟨used, w₂⟩, hused, heq⟩ :=
      Option.map_eq_some_iff.1 ((perform_entryBody hentry).symm.trans hrun)
    cases heq
    obtain ⟨before, after, w₁, hall, hapart⟩ := use_apart_logging hlua hl hused
    have hlines : lines = before ++ after :=
      List.append_cancel_left (hall.trans (List.append_assoc ..))
    exact ⟨used, before, after, w₁, rfl, hlines, hapart⟩

/-! ## An interpreter with a few programs -/

/-- Tables by what was written to them, the last entry first, and the name of the next one. -/
structure Tables where
  entries : List ((Ref × Value) × Value)
  next : Ref

namespace Tables

/-- The raw entry of a table. -/
def get (s : Tables) (table : Ref) (key : Value) : Value :=
  ((s.entries.find? fun entry => entry.1 = (table, key)).map Prod.snd).getD .nil

/-- Writes a raw entry. -/
def set (s : Tables) (table : Ref) (key value : Value) : Tables :=
  { s with entries := ((table, key), value) :: s.entries }

/-- An entry is what was written last. -/
theorem get_set_self (s : Tables) (table : Ref) (key value : Value) :
    (s.set table key value).get table key = value := by
  rw [get, set, List.find?_cons_of_pos (by simp)]
  rfl

/-- No other table changes. -/
theorem get_set_of_ne (s : Tables) {table other : Ref} (h : other ≠ table)
    (key value entry : Value) : (s.set table key value).get other entry = s.get other entry := by
  rw [get, set, List.find?_cons_of_neg (by simp [Ne.symm h])]
  rfl

/-- A new table, whose name is greater than all that were used. -/
def new (s : Tables) (held : Ref) : Ref × Tables :=
  (max s.next (held + 1), { s with next := max s.next (held + 1) + 1 })

end Tables

/-- Code that goes on where a function of the host has a result, and else fails with its error. -/
def onward (next : Value → Running σ) : Except Error (List Value) → Running σ
  | .ok values => next (firstOf values)
  | .error e => .ended (.error e)

/-- Code that prints a value and goes on. -/
def printing (v : Value) (next : Running σ) : Running σ := .call .print [v] (onward fun _ => next)

/-- A script that prints, defines a function that prints, drops its arguments, and prints what a
call of make prints. -/
def nestingScript : Text :=
  "print(\"a\") function f() print(\"b\") end arg = nil print(make.expand(\"$(lua-exec f())\"))"

/-- A program that prints and fails. -/
def failingProgram : Text := "print(\"a\") error(\"b\")"

/-- The names of what the programs find: the globals, the globals of build scripts, `tostring`,
`package`, the list of searchers, a searcher, the function of the module `m`, a function `f` that
prints, and the loaded modules. -/
inductive Known
  | globals | environment | tostring | package | searchers | searcher | loader | f | loaded

/-- The number of a name. -/
def Known.ref : Known → Ref
  | globals => 0 | environment => 1 | tostring => 2 | package => 3 | searchers => 4
  | searcher => 5 | loader => 6 | f => 7 | loaded => 8

/-- What the functions of the programs do. The searcher prints and writes the arguments of programs
before it finds the module `m` and no other one. -/
def calling (f : Ref) (args : List Value) : Running Tables :=
  if f = Known.tostring.ref then .ended (.ok args)
  else if f = Known.f.ref then printing (.ofText "b") (.ended (.ok []))
  else if f = Known.loader.ref then printing (.ofText "y") (.ended (.ok []))
  else
    printing (.ofText "x") (.look fun s =>
      .become (s.set Known.globals.ref argumentsKey (.int 9)) (.ended (.ok
        (if args = [.ofText "m"] then [.function Known.loader.ref] else []))))

/-- What the programs do. -/
def executing (source : Bytes) (globals : Ref) : Running Tables :=
  if source = Text.utf8 nestingScript then
    printing (.ofText "a") (.look fun s =>
      .become ((s.set globals (.ofText "f") (.function Known.f.ref)).set globals argumentsKey .nil)
        (.call .expand [.ofText "$(lua-exec f())"] (onward fun v =>
          printing v (.ended (.ok [])))))
  else if source = Text.utf8 "f()" then
    .look fun s =>
      match s.get globals (.ofText "f") with
      | .function f => calling f []
      | _ => .ended (.error (.runtime "attempt to call a nil value (global 'f')"))
  else printing (.ofText "a") (.ended (.error (.runtime "lua-exec:1: b")))

/-- An interpreter that does what these programs say. -/
def scripted : Library Tables where
  create outside _ _ _ := outside
  globals _ _ := Known.globals.ref
  environment _ := Known.environment.ref
  native _ _ := Known.tostring.ref
  inspect _ := Known.tostring.ref
  evaluate _ _ _ _ := .ended (.ok [])
  execute _ _ := executing
  call := calling
  get table key := .look fun s => .ended (.ok [s.get table key])
  set table key value := .look fun s => .become (s.set table key value) (.ended (.ok []))
  newTable s _ held := s.new held
  rawGet := Tables.get
  rawSet := Tables.set
  fileContent _ path := if path = "s" then .ok (Text.utf8 nestingScript) else .error "no such file"
  nesting := 4
  overflow := .runtime "C stack overflow"
  shown _ := "error"

/-- Tables are what was written to them. -/
theorem scripted_lawful : scripted.Lawful where
  rawGet_rawSet s table key value := s.get_set_self table (.str key) value
  rawGet_rawSet_of_ne s _ key value _ entry hne := s.get_set_of_ne hne key value entry
  newTable_ne _ _ held := Nat.ne_of_gt (Nat.lt_of_lt_of_le held.lt_succ_self (Nat.le_max_right ..))
  rawGet_newTable _ _ _ _ _ _ := rfl

/-- A world where an interpreter has a capture open, and arguments of its own. -/
def capturingWorld : World Code (Memory Tables) :=
  let tables : Tables := ⟨[((Known.environment.ref, argumentsKey), .int 7),
    ((Known.globals.ref, .ofText "tostring"), .function Known.tostring.ref),
    ((Known.globals.ref, .ofText "package"), .table Known.package.ref),
    ((Known.package.ref, .ofText "searchers"), .table Known.searchers.ref),
    ((Known.package.ref, .ofText "loaded"), .table Known.loaded.ref),
    ((Known.searchers.ref, .int 1), .function Known.searcher.ref)], 9⟩
  (World.fresh ⟨true, [["c"]], [], tables⟩ .attached).enter
    ⟨⟨"lua-exec", by decide⟩, .entry .exec 0, .one, .expand⟩

/-- Make with these programs behind it. -/
def scriptedLevel : Make.Level Code (Memory Tables) := (Code.host scripted .default).level 3

/-- Make with these programs behind it and a log of what is printed. -/
noncomputable def scriptedLog : Make.Level Code (Memory Tables × List Line) :=
  (Code.host scripted .default).loggedLevel linesBetween 3

/-- A script that runs another program through make, a program that fails, and a module whose search
prints and writes, where a capture is open. -/
theorem nested_calls_keep_apart : scripted.Lawful ∧
    (∃ before lines, ∃ w₁ w' : World Code (Memory Tables),
      Make.perform scriptedLevel ((Code.entry .file 0).body scripted "lua-file" ["s"]).run
        capturingWorld = some (.ok (.text "a\nb"), w') ∧
      (Use.file "s" []).Apart scripted scriptedLog 0 (.ok "a\nb") before lines
        (capturingWorld.logging []) (w₁.logging before) (w'.logging (before ++ lines))) ∧
    (∃ e before lines, ∃ w₁ w' : World Code (Memory Tables),
      Make.perform scriptedLevel ((Use.text failingProgram).run scripted 0).run capturingWorld =
        some (.error e, w') ∧
      (Use.text failingProgram).Apart scripted scriptedLog 0 (.error e) before lines
        (capturingWorld.logging []) (w₁.logging before) (w'.logging (before ++ lines))) ∧
    ∃ before lines, ∃ w₁ w' : World Code (Memory Tables),
      Make.perform scriptedLevel ((Use.module "m" []).run scripted 0).run capturingWorld =
        some (.ok "y", w') ∧
      (Use.module "m" []).Apart scripted scriptedLog 0 (.ok "y") before lines
        (capturingWorld.logging []) (w₁.logging before) (w'.logging (before ++ lines)) := by
  obtain ⟨hused, hcalled, -⟩ := calls_keep_outputs_apart scripted scripted_lawful .default 3 []
  have hyields : (Make.perform scriptedLevel
      ((Code.entry .file 0).body scripted "lua-file" ["s"]).run capturingWorld).map
        (·.1.toOption) = some (some (.text "a\nb")) := by decide +kernel
  have hfails : (Make.perform scriptedLevel
      ((Use.text failingProgram).run scripted 0).run capturingWorld).map (·.1.toOption) =
        some none := by decide +kernel
  have hloads : (Make.perform scriptedLevel
      ((Use.module "m" []).run scripted 0).run capturingWorld).map (·.1.toOption) =
        some (some ("y" : Text)) := by decide +kernel
  refine ⟨scripted_lawful, ?_, ?_, ?_⟩
  · obtain ⟨⟨r, w'⟩, hrun, hr⟩ := Option.map_eq_some_iff.1 hyields
    obtain ⟨lines, -, -, hcall⟩ := hcalled hrun
    obtain ⟨used, before, after, w₁, rfl, rfl, hapart⟩ := hcall .file 0 (.file "s" []) rfl rfl
    cases used with
    | error e => cases hr
    | ok text =>
      cases hr
      exact ⟨before, after, w₁, w', hrun, hapart⟩
  · obtain ⟨⟨r, w'⟩, hrun, hr⟩ := Option.map_eq_some_iff.1 hfails
    obtain ⟨before, lines, w₁, -, hapart⟩ := hused hrun
    cases r with
    | error e => exact ⟨e, before, lines, w₁, w', hrun, hapart⟩
    | ok v => cases hr
  · obtain ⟨⟨r, w'⟩, hrun, hr⟩ := Option.map_eq_some_iff.1 hloads
    obtain ⟨before, lines, w₁, -, hapart⟩ := hused hrun
    cases r with
    | error e => cases hr
    | ok text =>
      cases hr
      exact ⟨before, lines, w₁, w', hrun, hapart⟩

/-- A searcher prints to the capture that was open before a call, though no module is found, and
writes the arguments of programs in the interpreter's globals, which the call leaves so. -/
theorem search_not_kept_apart : scripted.Lawful ∧
    (∃ e w', Make.perform scriptedLevel ((Use.module "n" []).run scripted 0).run capturingWorld =
        some (.error e, w') ∧
      capturesOf capturingWorld.memory 0 = ["c"] ∧ capturesOf w'.memory 0 = ["cx\n"] ∧
      ¬ ∃ lines, KeptApart scripted ((Use.module "n" []).globals? scripted 0 capturingWorld.memory)
        0 (.error e) lines capturingWorld.memory w'.memory) ∧
    ∃ w', Make.perform scriptedLevel ((Use.module "m" []).run scripted 0).run capturingWorld =
        some (.ok "y", w') ∧
      argumentsIn scripted capturingWorld.memory Known.globals.ref = .nil ∧
      argumentsIn scripted w'.memory Known.globals.ref = .int 9 ∧
      ¬ ∃ lines, KeptApart scripted ((Use.module "m" []).globals? scripted 0 capturingWorld.memory)
        0 (.ok "y") lines capturingWorld.memory w'.memory := by
  have hfails : (Make.perform scriptedLevel
      ((Use.module "n" []).run scripted 0).run capturingWorld).map
        (fun (r, w') => (r.toOption, capturesOf w'.memory 0)) = some (none, [("cx\n" : Text)]) := by
    decide +kernel
  have hloads : (Make.perform scriptedLevel
      ((Use.module "m" []).run scripted 0).run capturingWorld).map
        (fun (r, w') => (r.toOption, argumentsIn scripted w'.memory Known.globals.ref)) =
          some (some ("y" : Text), .int 9) := by decide +kernel
  refine ⟨scripted_lawful, ?_, ?_⟩
  · obtain ⟨⟨r, w'⟩, hrun, hr⟩ := Option.map_eq_some_iff.1 hfails
    obtain ⟨hr, hafter⟩ := Prod.mk.inj hr
    have hbefore : capturesOf capturingWorld.memory 0 = ["c"] := by decide +kernel
    cases r with
    | ok v => cases hr
    | error e =>
      refine ⟨e, w', hrun, hbefore, hafter, fun ⟨lines, hkept⟩ => ?_⟩
      have hsame := hkept.captures
      rw [hafter, hbefore] at hsame
      exact absurd hsame (by decide)
  · obtain ⟨⟨r, w'⟩, hrun, hr⟩ := Option.map_eq_some_iff.1 hloads
    obtain ⟨hr, hafter⟩ := Prod.mk.inj hr
    have hbefore : argumentsIn scripted capturingWorld.memory Known.globals.ref = .nil := by
      decide +kernel
    cases r with
    | error e => cases hr
    | ok text =>
      cases hr
      refine ⟨w', hrun, hbefore, hafter, fun ⟨lines, hkept⟩ => ?_⟩
      have hsame := hkept.arguments Known.globals.ref rfl
      rw [hafter, hbefore] at hsame
      cases hsame

end MakeHost.Lua
