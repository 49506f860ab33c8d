import MakeHost.Host.Level
import MakeHost.Proofs.Facade
import MakeHost.Proofs.Literal
import MakeHost.Proofs.Utf8

/-!
# Requests on variables

The host reads and writes variables through make text alone. Where make runs and hands calls to the
host, setting a variable and appending to it is one assignment of the text that was broken up
(`Host.perform_define`), and what the host is told of a variable is what make's state says of it
(`Host.perform_value`, `Host.perform_origin`, `Host.perform_flavor`, `Host.perform_defined`).
-/

namespace MakeHost

open DefineBlock

variable {κ μ : Type}

/-! ## Words -/

/-- No word for an origin holds a NUL. -/
theorem Origin.nul_notMem_word (origin : Origin) : '\x00' ∉ origin.word := by
  cases origin <;> decide

/-- Make's word for an origin is read as that origin. -/
theorem Origin.ofReport_word (origin : Origin) : Origin.ofReport origin.word = .ok origin := by
  cases origin <;> rfl

/-- No word for a flavor holds a NUL. -/
theorem Flavor.nul_notMem_word (flavor : Flavor) : '\x00' ∉ flavor.word := by
  cases flavor <;> decide

/-- Make's word for a flavor is read as that flavor. -/
theorem Flavor.ofReport_word (flavor : Flavor) : Flavor.ofReport flavor.word = .ok flavor := by
  cases flavor <;> rfl

namespace Make

variable {respond : Responder κ μ} {l : Level κ μ} {w w' : World κ μ} {fuel depth : Nat}
  {name word text a : Text}

/-! ## Make's own functions -/

/-- A word and a legal name in brackets are one reference. -/
theorem pieces_call (hname : isLegalVariableName name = true)
    (hword : ∀ c ∈ word, isGap c = false ∧ c ≠ '(' ∧ c ≠ ')') :
    pieces ("$(" ++ word ++ " " ++ name ++ ")") = [.reference (word ++ " " ++ name)] := by
  have hopen : '(' ∉ word ++ " " := by
    simpa using fun hc => (hword _ hc).2.1 rfl
  have hclose : ')' ∉ word ++ " " := by
    simpa using fun hc => (hword _ hc).2.2 rfl
  have hend : ∀ inner, piecesFrom (.inside '(' ')' 0 inner) ")" = [.reference inner.reverse] :=
    fun _ => rfl
  calc pieces ("$(" ++ word ++ " " ++ name ++ ")")
      = piecesFrom (.inside '(' ')' 0 []) ((word ++ " ") ++ (name ++ ")")) := by
        simp only [List.append_assoc]
        rfl
    _ = [.reference (word ++ " " ++ name)] := by
        rw [piecesFrom_inside hopen hclose, piecesFrom_inside_name hname, hend]
        simp

/-- A call of one of make's own functions with a legal name. -/
theorem expandWithin_call {builtin : Builtin} (hname : isLegalVariableName name = true)
    (hword : ∀ c ∈ word, isGap c = false ∧ c ≠ '(' ∧ c ≠ ')')
    (hbuiltin : Builtin.ofName? word = some builtin) (hstopped : w.make.stopped = false)
    (hdepth : depth < maxDepth) :
    expandWithin respond (fuel + 2) depth ("$(" ++ word ++ " " ++ name ++ ")") w =
      builtin.apply name w := by
  have hself : (levelWithin respond (fuel + 1)).expand (depth + 1) name w = some (name, w) :=
    expandWithin_of_isLegal hname hstopped hdepth
  have hfirst : ∀ c ∈ name.head?, isGap c = false := fun c hc =>
    isGap_of_isBlank (isBlank_of_isLegal hname (List.mem_of_mem_head? hc))
  show expandText respond (levelWithin respond (fuel + 1)) depth _ w = _
  rw [expandText_reference (pieces_call hname hword) hstopped hdepth.le, expandReference,
    headAndArguments_of_gap (fun c hc => (hword c hc).1) hfirst]
  dsimp only
  rw [hbuiltin]
  exact Run.bind_of_eq_some hself

namespace Builtin

variable (hname : isLegalVariableName name = true)
include hname

/-- The raw value is read without a change. -/
theorem apply_value : Builtin.value.apply name w = some (w.make.rawValue name, w) := by
  rw [apply, Run.bind_of_eq_some (Run.make_apply (w := w)), trim_of_isLegal hname]
  rfl

/-- The origin is read without a change. -/
theorem apply_origin : Builtin.origin.apply name w = some ((w.make.originOf name).word, w) := by
  rw [apply, Run.bind_of_eq_some (Run.make_apply (w := w)), trim_of_isLegal hname]
  rfl

/-- The flavor is read without a change. -/
theorem apply_flavor : Builtin.flavor.apply name w = some ((w.make.flavorOf name).word, w) := by
  rw [apply, Run.bind_of_eq_some (Run.make_apply (w := w)), trim_of_isLegal hname]
  rfl

end Builtin

/-! ## Texts -/

/-- The host is told the text that make expands a text to. -/
theorem perform_expand_text (htext : '\x00' ∉ text) (ha : '\x00' ∉ a)
    (hexpand : l.expand 0 text (w.note (.expand text)) = some (a, w')) :
    perform l (Host.expand text).run w = some (.ok a, skipBuffer w') := by
  have hbytes : perform l (Host.expandBytes text).run w = some (.ok a.utf8, skipBuffer w') := by
    rw [perform_expandBytes_note htext, Run.bind_of_eq_some hexpand, Text.upToNul_utf8 ha]
  rw [Host.expand, ExceptT.run_bind, perform_bind, Run.bind_of_eq_some hbytes]
  dsimp only
  rw [Utf8.decode_utf8]
  rfl

end Make

namespace Host

variable {host : Host κ μ} {w : World κ μ} {fuel : Nat} {name a : Text} {value : Value}

/-- The default of a read is for a variable that is empty because it is not there. -/
theorem perform_get_of_read (expanded : Bool) {l : Make.Level κ μ} {w' : World κ μ}
    {default : Text} (hname : isLegalVariableName name = true)
    (hread : Make.perform l (expand (if expanded then "$(" ++ name ++ ")"
      else "$(value " ++ name ++ ")")).run w = some (.ok a, w')) :
    Make.perform l (get name default expanded).run w =
      if a.isEmpty && !default.isEmpty then
        (Make.perform l (defined name).run >>= fun there =>
          pure (there.map fun there => if there then a else default)) w'
      else some (.ok a, w') := by
  rw [get, checkName, if_pos hname, pure_bind, ExceptT.run_bind, Make.perform_bind,
    Run.bind_of_eq_some hread]
  dsimp only
  split
  · rw [ExceptT.run_bind, Make.perform_bind]
    refine congrFun (congrArg _ (funext fun there => ?_)) w'
    cases there <;> rfl
  · rfl

section
variable (hname : isLegalVariableName name = true) (hclean : '\x00' ∉ name)
  (hattached : w.link = .attached) (hrunning : w.make.stopped = false)
include hname hclean hattached hrunning

/-! ## Reading -/

section
omit hattached

/-- The host is told what one of make's own functions says of a variable. -/
theorem perform_call (word : Text) {builtin : Make.Builtin}
    (hword : ∀ c ∈ word, Make.isGap c = false ∧ c ≠ '(' ∧ c ≠ ')') (hcleanWord : '\x00' ∉ word)
    (hbuiltin : Make.Builtin.ofName? word = some builtin) (ha : '\x00' ∉ a)
    (happly : ∀ w' : World κ μ, w'.make = w.make → builtin.apply name w' = some (a, w')) :
    Make.perform (host.level (fuel + 2)) (expand ("$(" ++ word ++ " " ++ name ++ ")")).run w =
      some (.ok a,
        Make.skipBuffer (w.note (.expand ("$(" ++ word ++ " " ++ name ++ ")")))) := by
  have hdepth : 0 < Make.maxDepth := by decide
  have htext : '\x00' ∉ "$(" ++ word ++ " " ++ name ++ ")" := by
    simpa using ⟨hcleanWord, hclean⟩
  generalize hnoted : w.note (.expand ("$(" ++ word ++ " " ++ name ++ ")")) = w'
  have hmake : w'.make = w.make := by rw [← hnoted, World.make_note]
  have hexpand : (host.level (fuel + 2)).expand 0 ("$(" ++ word ++ " " ++ name ++ ")") w' =
      some (a, w') :=
    (Make.expandWithin_call hname hword hbuiltin (hmake ▸ hrunning) hdepth).trans (happly w' hmake)
  exact Make.perform_expand_text htext ha (hnoted ▸ hexpand)

/-- A word that make reports of a variable is read by the host. -/
theorem perform_report {α : Type} (word : Text) {builtin : Make.Builtin}
    {read : Text → Except HostError α} {report : α}
    (hword : ∀ c ∈ word, Make.isGap c = false ∧ c ≠ '(' ∧ c ≠ ')') (hcleanWord : '\x00' ∉ word)
    (hbuiltin : Make.Builtin.ofName? word = some builtin) (ha : '\x00' ∉ a)
    (happly : ∀ w' : World κ μ, w'.make = w.make → builtin.apply name w' = some (a, w'))
    (hread : read a = .ok report) :
    Make.perform (host.level (fuel + 2)) (do
        checkName name
        ExceptT.mk (pure (read (← expand ("$(" ++ word ++ " " ++ name ++ ")")))) :
          Attempt κ μ α).run w = some (.ok report,
            Make.skipBuffer (w.note (.expand ("$(" ++ word ++ " " ++ name ++ ")")))) := by
  rw [checkName, if_pos hname, pure_bind, ExceptT.run_bind, Make.perform_bind, Run.bind_of_eq_some
    (perform_call hname hclean hrunning word hword hcleanWord hbuiltin ha happly)]
  dsimp only
  rw [hread]
  rfl

/-- The origin of a variable; a loaded object takes note that it is asked for. -/
theorem perform_origin_note : Make.perform (host.level (fuel + 2)) (origin name).run w =
    some (.ok (w.make.originOf name),
      Make.skipBuffer (w.note (.expand ("$(origin " ++ name ++ ")")))) :=
  perform_report hname hclean hrunning "origin" (by decide) (by decide) rfl
    (Origin.nul_notMem_word _) (fun _ hw' => hw' ▸ Make.Builtin.apply_origin hname)
    (Origin.ofReport_word _)

/-- Whether there is a variable; a loaded object takes note that it is asked for. -/
theorem perform_defined_note (host : Host κ μ) (fuel : Nat) :
    Make.perform (host.level (fuel + 2)) (defined name).run w =
      some (.ok (w.make.originOf name != .undefined),
        Make.skipBuffer (w.note (.expand ("$(origin " ++ name ++ ")")))) := by
  rw [defined, ExceptT.run_bind, Make.perform_bind,
    Run.bind_of_eq_some (perform_origin_note hname hclean hrunning)]
  rfl

end

/-- The value of a variable as it was stored. -/
theorem perform_value (hvalue : '\x00' ∉ w.make.rawValue name) :
    Make.perform (host.level (fuel + 2)) (expand ("$(value " ++ name ++ ")")).run w =
      some (.ok (w.make.rawValue name), Make.skipBuffer w) :=
  (perform_call hname hclean hrunning "value" (by decide) (by decide) rfl hvalue
    fun _ hw' => hw' ▸ Make.Builtin.apply_value hname).trans
      (by rw [World.note_of_attached hattached])

/-- The origin of a variable. -/
theorem perform_origin : Make.perform (host.level (fuel + 2)) (origin name).run w =
    some (.ok (w.make.originOf name), Make.skipBuffer w) := by
  rw [perform_origin_note hname hclean hrunning, World.note_of_attached hattached]

/-- The flavor of a variable. -/
theorem perform_flavor : Make.perform (host.level (fuel + 2)) (flavor name).run w =
    some (.ok (w.make.flavorOf name), Make.skipBuffer w) :=
  (perform_report hname hclean hrunning "flavor" (by decide) (by decide) rfl
    (Flavor.nul_notMem_word _) (fun _ hw' => hw' ▸ Make.Builtin.apply_flavor hname)
    (Flavor.ofReport_word _)).trans (by rw [World.note_of_attached hattached])

/-- Whether there is a variable. -/
theorem perform_defined : Make.perform (host.level (fuel + 2)) (defined name).run w =
    some (.ok (w.make.originOf name != .undefined), Make.skipBuffer w) := by
  rw [perform_defined_note hname hclean hrunning, World.note_of_attached hattached]

/-! ## Writing -/

variable (hvalue : '\x00' ∉ value.toText)
include hvalue

/-- Defining a variable assigns the text that was broken up. -/
theorem perform_define {op : Text} {assignment : Make.Assignment}
    (hop : Make.Operator op assignment) :
    Make.perform (host.level (fuel + 2)) (define name op value).run w =
      (Make.assign (host.level (fuel + 1)) name assignment (guarded value.toText) >>= fun _ =>
        pure (.ok ())) w := by
  have hbroken := guarded_spec value.toText
  have hassoc : "define " ++ name ++ " " ++ op ++ "\n" ++ guarded value.toText ++ "\nendef" =
      "define " ++ (name ++ " " ++ op) ++ "\n" ++ guarded value.toText ++ "\nendef" := by simp
  have hdefinition :
      '\x00' ∉ "define " ++ (name ++ " " ++ op) ++ "\n" ++ guarded value.toText ++ "\nendef" := by
    have hguarded := hbroken.notMem hvalue
    generalize guarded value.toText = body at hguarded
    cases hop <;> simpa using ⟨hclean, hguarded⟩
  have hrun : (host.level (fuel + 2)).run
      ("define " ++ (name ++ " " ++ op) ++ "\n" ++ guarded value.toText ++ "\nendef") w =
        Make.assign (host.level (fuel + 1)) name assignment (guarded value.toText) w :=
    Make.run_block hname hrunning (isHeader_operator hname hop) (defineHeader_operator hname hop)
      hbroken
  show Make.perform _ (evaluate ("define " ++ name ++ " " ++ op ++ "\n" ++ guarded value.toText ++
    "\nendef")).run w = _
  rw [hassoc, Make.perform_evaluate_run hdefinition hattached, Run.bind_apply, Run.bind_apply, hrun]

variable (horigin : (w.make.bindings.get? name).map (·.origin) ≠ some .commandLine)
include horigin

/-- A recursive variable is set to the broken-up text, and nothing else happens. -/
theorem perform_set_recursive :
    Make.perform (host.level (fuel + 2)) (set name value .recursive).run w = some (.ok (),
      { w with make := w.make.setVariable name ⟨guarded value.toText, .recursive, .file⟩ }) := by
  have hset : (set name value .recursive : Attempt κ μ Unit) = define name "=" value := by
    rw [set, checkName, if_pos hname, pure_bind]
  rw [hset, perform_define hname hclean hattached hrunning hvalue .recursive,
    Run.bind_of_eq_some (Make.assign_recursive (ne_nil_of_isLegal hname) horigin)]
  rfl

/-- A simple variable is set to the expansion of the broken-up text, where that leads to. -/
theorem perform_set_simple :
    Make.perform (host.level (fuel + 2)) (set name value .simple).run w =
      ((host.level (fuel + 1)).expand 0 (guarded value.toText) >>= fun a w' => some (.ok (),
        { w' with make := w'.make.setVariable name ⟨a, .simple, .file⟩ })) w := by
  have hset : (set name value .simple : Attempt κ μ Unit) = define name ":=" value := by
    rw [set, checkName, if_pos hname, pure_bind]
  rw [hset, perform_define hname hclean hattached hrunning hvalue .simple, Run.bind_apply,
    Make.assign_simple (ne_nil_of_isLegal hname) horigin, Run.bind_apply, Run.bind_apply,
    Option.bind_assoc]
  rfl

omit horigin in
/-- Appending assigns the text that was broken up. -/
theorem perform_append : Make.perform (host.level (fuel + 2)) (append name value).run w =
    (Make.assign (host.level (fuel + 1)) name .append (guarded value.toText) >>= fun _ =>
      pure (.ok ())) w := by
  have happend : (append name value : Attempt κ μ Unit) = define name "+=" value := by
    rw [append, checkName, if_pos hname, pure_bind]
  rw [happend, perform_define hname hclean hattached hrunning hvalue .append]

end

/-- A host whose functions answer nothing. -/
def quiet : Host Unit Unit := ⟨.default, fun _ _ _ => pure .none⟩

end Host

end MakeHost
