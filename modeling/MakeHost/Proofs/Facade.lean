import MakeHost.Host.Dispatch
import MakeHost.Proofs.Nesting
import MakeHost.Proofs.Evolution

/-!
# What requests of the host come to

A request with a text that holds no NUL is carried out by make: evaluation runs the text
(`Make.perform_evaluate_run`), expansion hands over the expanded bytes in a buffer that is freed
again (`Make.perform_expandBytes_run`), and a flag is what its variable expands to
(`Make.perform_flagEnabled`).
-/

namespace MakeHost

variable {κ μ : Type} {l : Make.Level κ μ} {w : World κ μ} {text name : Text}

/-- A text without NULs is not refused. -/
theorem Host.checkText_of_notMem (h : '\x00' ∉ text) :
    (Host.checkText text : Host.Attempt κ μ Unit) = pure () := by
  have hfault : Host.nulFault? text = none := by
    rw [Host.nulFault?, if_neg (by simpa using h)]
  rw [Host.checkText, hfault]

namespace Make

/-- A buffer that is freed at once leaves only its number taken. -/
theorem State.release_allocate (s : State) :
    s.allocate.2.release s.allocate.1 = { s with nextBuffer := s.nextBuffer + 1 } := by
  simp [State.allocate, State.release]

/-! ## Single requests -/

/-- A single request is what make does with it. -/
theorem perform_request (r : Request κ μ) : perform l (Action.request r) = handle l r :=
  bind_pure (handle l r)

/-- A text that is evaluated is noted, and make runs it. -/
theorem perform_evaluate : perform l (Action.evaluate text) =
    Run.note (.eval text) >>= fun _ => l.run text :=
  perform_request (.evaluate text)

/-- A text that is expanded is noted, and a buffer is allocated for the expanded bytes. -/
theorem perform_expand : perform l (Action.expand text) = Run.note (.expand text) >>= fun _ =>
    l.expand 0 text >>= fun a => allocate a.utf8 >>= fun buffer => pure (some buffer) :=
  perform_request (.expand text)

/-! ## Texts -/

/-- Nothing is evaluated in a stopped make. -/
theorem run_of_stopped (hw : w.make.stopped = true) (text : Text) :
    l.run text w = some ((), w) := by
  rw [Level.run, Run.bind_of_eq_some Run.stopped_apply, hw]
  rfl

/-- Make evaluates a text for the host, which a loaded object takes note of. -/
theorem perform_evaluate_note (htext : '\x00' ∉ text) : perform l (Host.evaluate text).run w =
    (l.run text >>= fun _ => pure (.ok ())) (w.note (.eval text)) := by
  have hrun : (Host.evaluate text : Host.Attempt κ μ Unit).run =
      Action.evaluate text >>= fun a => pure (.ok a) := by
    rw [Host.evaluate, Host.checkText_of_notMem htext, pure_bind, ExceptT.run_lift,
      map_eq_pure_bind]
  rw [hrun, perform_bind, perform_evaluate, bind_assoc, Run.bind_of_eq_some (Run.note_apply _)]
  rfl

/-- Make evaluates a text for the host. -/
theorem perform_evaluate_run (htext : '\x00' ∉ text) (hw : w.link = .attached) :
    perform l (Host.evaluate text).run w = (l.run text >>= fun _ => pure (.ok ())) w := by
  rw [perform_evaluate_note htext, World.note_of_attached hw]

/-- Takes the number of a buffer that is freed at once. -/
def skipBuffer (w : World κ μ) : World κ μ :=
  { w with make := { w.make with nextBuffer := w.make.nextBuffer + 1 } }

/-- Make expands a text for the host, which a loaded object takes note of. -/
theorem perform_expandBytes_note (htext : '\x00' ∉ text) :
    perform l (Host.expandBytes text).run w =
      (l.expand 0 text >>= fun a w' => some (.ok a.utf8.upToNul, skipBuffer w'))
        (w.note (.expand text)) := by
  rw [Host.expandBytes, Host.checkText_of_notMem htext, pure_bind, ExceptT.run_bind_lift,
    perform_bind, perform_expand, bind_assoc, Run.bind_of_eq_some (Run.note_apply _), bind_assoc,
    Run.bind_apply, Run.bind_apply]
  refine congrArg _ (funext fun ⟨a, w'⟩ => ?_)
  show some (_, { w' with make := w'.make.allocate.2.release w'.make.allocate.1 }) = _
  rw [State.release_allocate]
  rfl

/-- Make expands a text for the host. -/
theorem perform_expandBytes_run (htext : '\x00' ∉ text) (hw : w.link = .attached) :
    perform l (Host.expandBytes text).run w =
      (l.expand 0 text >>= fun a w' => some (.ok a.utf8.upToNul, skipBuffer w')) w := by
  rw [perform_expandBytes_note htext, World.note_of_attached hw]

/-- The text of a flag's reference. -/
theorem notMem_reference (hname : '\x00' ∉ name) : '\x00' ∉ "$(" ++ name ++ ")" := by
  simpa using hname

/-- A flag is set when its variable expands to something. -/
theorem perform_flagEnabled (hname : '\x00' ∉ name) (hw : w.link = .attached) :
    perform l (Host.flagEnabled name) w =
      (l.expand 0 ("$(" ++ name ++ ")") >>= fun a w' =>
        some (!a.utf8.upToNul.isEmpty, skipBuffer w')) w := by
  rw [Host.flagEnabled, perform_bind, Run.bind_apply,
    perform_expandBytes_run (notMem_reference hname) hw, Run.bind_apply, Run.bind_apply,
    Option.bind_assoc]
  rfl

end Make

end MakeHost
