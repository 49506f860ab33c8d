import MakeHost.Code
import MakeHost.Lua.Library

/-!
# What the host keeps of an interpreter

Uses of an interpreter are actions that an error of the interpreter may end. The host keeps the
captures that collect printed text, for each interpreter a stack, and changes what is outside of it
by writing entries of tables.
-/

namespace MakeHost.Lua

variable {σ ε α : Type}

/-- An action that an error of the interpreter may end. -/
abbrev Script (σ : Type) := ExceptT Error (Action Code (Memory σ))

/-- Changes the memory. -/
def changeMemory (f : Memory σ → Memory σ) : Action Code (Memory σ) Unit := do
  Action.remember (f (← Action.remembered))

/-- What is outside of the host. -/
def outside : Action Code (Memory σ) σ := do return (← Action.remembered).outside

/-- Changes what is outside of the host. -/
def changeOutside (f : σ → σ) : Action Code (Memory σ) Unit :=
  changeMemory fun m => { m with outside := f m.outside }

/-- Changes the captures of an interpreter. -/
def changeCaptures (i : Nat) (f : List Text → List Text) : Action Code (Memory σ) Unit :=
  changeMemory fun m => { m with captures := m.captures.modify i f }

/-- Raises an error with a message. -/
def raise (message : Text) : Script σ α := throw (.runtime message)

/-! ## Captures -/

/-- The open captures of an interpreter, innermost first; one that is not there has none. -/
def capturesOf (m : Memory σ) (i : Nat) : List Text := m.captures.getD i []

/-- The memory once an interpreter has printed a text: to its innermost capture, or to standard
output when there is none. -/
def written (m : Memory σ) (i : Nat) (s : Text) : Memory σ :=
  match capturesOf m i with
  | [] => { m with output := m.output ++ s }
  | top :: rest => { m with captures := m.captures.set i ((top ++ s) :: rest) }

/-- Writes text to the innermost capture, or to standard output when there is none. -/
def write (i : Nat) (s : Text) : Action Code (Memory σ) Unit := changeMemory fun m => written m i s

/-- Runs `body` with a capture of its own and returns what it collects, less the line feeds at its
end; a failure drops it. -/
def captured (i : Nat) (body : ExceptT ε (Action Code (Memory σ)) Unit) :
    ExceptT ε (Action Code (Memory σ)) Text :=
  ExceptT.mk do
    changeCaptures i ([] :: ·)
    let result ← body.run
    let collected := (capturesOf (← Action.remembered) i).headD []
    changeCaptures i List.tail
    return result.map fun _ => collected.dropTailWhile (· = '\n')

/-! ## Arguments of programs -/

variable (lua : Library σ)

/-- The key under which a program finds its arguments. -/
def argumentsKey : Value := .ofText "arg"

/-- A new table with the name of a script at 0 and its arguments from 1 on, for a table of
globals. -/
def Library.argumentTable (outside : σ) (i : Nat) (globals : Ref) (script : Text)
    (args : List Text) : Ref × σ :=
  let (table, outside) := lua.newTable outside i globals
  let outside := lua.rawSet outside table (.int 0) (.ofText script)
  (table, (args.zipIdx 1).foldl (fun outside (value, k) =>
    lua.rawSet outside table (.int k) (.ofText value)) outside)

/-- Runs `body` with the arguments of a script in a table of globals, and puts back what was there,
however `body` ends. -/
def withArguments (i : Nat) (globals : Ref) (script : Text) (args : List Text)
    (body : ExceptT ε (Action Code (Memory σ)) α) : ExceptT ε (Action Code (Memory σ)) α :=
  ExceptT.mk do
    let (table, filled) := lua.argumentTable (← outside) i globals script args
    let earlier := lua.rawGet filled globals argumentsKey
    changeOutside fun _ => lua.rawSet filled globals argumentsKey (.table table)
    let result ← body.run
    changeOutside fun outside => lua.rawSet outside globals argumentsKey earlier
    return result

end MakeHost.Lua
