import MakeHost.Make.Piece
import MakeHost.Make.Statement
import MakeHost.Make.World

/-!
# Evaluation and expansion

Evaluating a text assigns variables, expanding one reads them, and both call exported functions,
whose actions may evaluate and expand again. One step of nesting is written against a `Level`,
which says what evaluation and expansion do one step further in; the two knots at the end tie
the levels together, as deep as they are allowed.

Make looks whether it was stopped before each statement and before each piece, and nowhere else.
-/

namespace MakeHost.Make

/-- Evaluation and expansion one step further in. -/
structure Level (κ μ : Type) where
  /-- Expands a text at a nesting depth of references. -/
  expand : Nat → Text → Run κ μ Text
  evaluate : Text → Run κ μ Unit

/-- What becomes of a call that make hands out, with what it may ask of make. -/
abbrev Responder (κ μ : Type) := Level κ μ → Text → List Text → Run κ μ (Option Buffer)

variable {κ μ : Type}

/-! ## Requests of the host -/

/-- Takes a buffer with this content into use. -/
def allocate (content : Bytes) : Run κ μ Buffer := do
  let (id, state) := (← Run.make).allocate
  Run.changeMake fun _ => state
  return ⟨id, content.upToNul⟩

/-- Evaluates a text unless make was stopped. -/
def Level.run (level : Level κ μ) (text : Text) : Run κ μ Unit := do
  unless ← Run.stopped do
    level.evaluate text

/-- Answers a request. -/
def handle (level : Level κ μ) : (r : Request κ μ) → Run κ μ r.Answer
  | .evaluate text => do
    Run.note (.eval text)
    level.run text
  | .expand text => do
    Run.note (.expand text)
    let expansion ← level.expand 0 text
    return some (← allocate expansion.utf8)
  | .allocate content => do return some (← allocate content)
  | .release buffer => Run.changeMake (·.release buffer.id)
  | .exports => do return (← get).exports
  | .enter entry => modify (·.enter entry)
  | .remembered => do return (← get).memory
  | .remember memory => modify fun w => { w with memory := memory }
  | .complain line => modify fun w => { w with complaints := line :: w.complaints }

/-- Performs an action request by request. -/
def perform (level : Level κ μ) {α : Type} : Action κ μ α → Run κ μ α
  | .done a => pure a
  | .ask r next => do
    let answer ← handle level r
    perform level (next answer)

/-! ## Calls of exported functions -/

/-- What a call yields: the text of the buffer that the host hands out, which is freed. -/
def collect : Option Buffer → Run κ μ Text
  | none => pure []
  | some buffer => do
    Run.changeMake (·.release buffer.id)
    return Utf8.decodeLossy buffer.content

/-- An argument as the host gets it: one with a NUL in it arrives empty. -/
def handedOver (arg : Text) : Text := if arg.contains '\x00' then [] else arg

/-- Hands a call to the host. -/
def handOut (respond : Responder κ μ) (level : Level κ μ) (name : Text) (args : List Text) :
    Run κ μ Text := do
  let answer := respond level name (args.map handedOver)
  match (← get).link with
  | .absent => do
    Run.fail ("no host for function '" ++ name ++ "'")
    return []
  | .attached => do
    Run.changeMake State.countCall
    collect (← answer)
  | .object known => do
    Run.changeMake State.countCall
    if known.contains name ∧ (← get).ready then collect (← answer) else return []

/-- Expands a call of an installed function: the arguments are counted before they are
expanded, and the host is not asked when one of them stops make. -/
def expandCall (respond : Responder κ μ) (level : Level κ μ) (depth : Nat) (name : Text)
    (f : Function) (args : Option Text) : Run κ μ Text := do
  let args := (args.map (splitArguments · f.max)).getD []
  if args.length < f.min then
    Run.fail ("insufficient number of arguments (" ++ Text.ofNat args.length ++
      ") to function '" ++ name ++ "'")
    return []
  let args ← match f.policy with
    | .expand => args.mapM (level.expand (depth + 1))
    | .verbatim => pure args
  if ← Run.stopped then return []
  handOut respond level name args

/-! ## Expansion -/

/-- The value of a variable as a reference sees it. -/
def expandVariable (level : Level κ μ) (depth : Nat) (name : Text) : Run κ μ Text := do
  match (← Run.make).bindings.get? name with
  | none => return []
  | some v => if v.flavor = .recursive then level.expand (depth + 1) v.value else return v.value

/-- The functions that make has of its own. -/
inductive Builtin
  | value
  | origin
  | flavor
  | error
  | info

/-- The function of make that a name stands for. -/
def Builtin.ofName? (name : Text) : Option Builtin :=
  if name = "value" then some .value
  else if name = "origin" then some .origin
  else if name = "flavor" then some .flavor
  else if name = "error" then some .error
  else if name = "info" then some .info
  else none

/-- What one of make's own functions does with its expanded argument. -/
def Builtin.apply (builtin : Builtin) (arg : Text) : Run κ μ Text := do
  let state ← Run.make
  match builtin with
  | .value => return state.rawValue arg.trim
  | .origin => return (state.originOf arg.trim).word
  | .flavor => return (state.flavorOf arg.trim).word
  | .error => do
    Run.fail arg
    return []
  | .info => do
    Run.changeMake (·.print arg)
    return []

/-- Expands a reference that is no call of make's own functions: a call of an installed function,
or a variable whose name is the expanded text. -/
def expandNamed (respond : Responder κ μ) (level : Level κ μ) (depth : Nat) (inner : Text) :
    Run κ μ Text := do
  let (head, args) := headAndArguments inner
  match (← Run.make).functions.get? head with
  | some f => expandCall respond level depth head f args
  | none => do
    let name ← level.expand (depth + 1) inner
    expandVariable level depth name

/-- Expands a reference in brackets. -/
def expandReference (respond : Responder κ μ) (level : Level κ μ) (depth : Nat) (inner : Text) :
    Run κ μ Text := do
  let (head, args) := headAndArguments inner
  match Builtin.ofName? head, args with
  | some builtin, some arg => do
    let arg ← level.expand (depth + 1) arg
    builtin.apply arg
  | _, _ => expandNamed respond level depth inner

/-- Expands one piece; absent when the text is cut short there. -/
def expandPiece (respond : Responder κ μ) (level : Level κ μ) (depth : Nat) :
    Piece → Run κ μ (Option Text)
  | .plain c => pure (some [c])
  | .reference inner => some <$> expandReference respond level depth inner
  | .single c => some <$> expandVariable level depth [c]
  | .dangling => pure (some [])
  | .unterminated => do
    Run.fail "unterminated variable reference"
    return none

/-- Expands pieces from the left; absent when make is found to be stopped before one of them. -/
def expandPieces (respond : Responder κ μ) (level : Level κ μ) (depth : Nat) :
    List Piece → Run κ μ (Option Text)
  | [] => pure (some [])
  | piece :: rest => do
    if ← Run.stopped then return none
    match ← expandPiece respond level depth piece with
    | none => return none
    | some front => do
      let back ← expandPieces respond level depth rest
      return back.map (front ++ ·)

/-- References nest at most so deep. -/
def maxDepth : Nat := 200

/-- Expands a text; one that is cut short expands to nothing. -/
def expandText (respond : Responder κ μ) (level : Level κ μ) (depth : Nat) (text : Text) :
    Run κ μ Text := do
  if maxDepth < depth then
    Run.fail "recursive variable references itself (eventually)"
    return []
  return (← expandPieces respond level depth (pieces text)).getD []

/-! ## Evaluation -/

/-- What an assignment stores, given the variable that stood there before the value is expanded;
absent when it leaves that variable alone. -/
def assigned (level : Level κ μ) (op : Assignment) (value : Text) :
    Option Variable → Run κ μ (Option Variable)
  | none => match op with
    | .simple => do return some ⟨← level.expand 0 value, .simple, .file⟩
    | _ => pure (some ⟨value, .recursive, .file⟩)
  | some old => match op with
    | .recursive => pure (some ⟨value, .recursive, .file⟩)
    | .simple => do return some ⟨← level.expand 0 value, .simple, .file⟩
    | .conditional => pure none
    | .append => do
      let addition ← if old.flavor = .simple then level.expand 0 value else pure value
      let joined := if old.value.isEmpty then addition else old.value ++ " " ++ addition
      return some ⟨joined, old.flavor, .file⟩

/-- Assigns a variable; the command line's own are left alone. -/
def assign (level : Level κ μ) (name : Text) (op : Assignment) (value : Text) : Run κ μ Unit := do
  if name.isEmpty then Run.fail "empty variable name"
  else
    let old := (← Run.make).bindings.get? name
    if (old.map (·.origin)) = some .commandLine then return
    match ← assigned level op value old with
    | none => return
    | some v => Run.changeMake (·.setVariable name v)

/-- Evaluates one statement. -/
def evaluateStatement (level : Level κ μ) : Statement → Run κ μ Unit
  | .assign name op value => do
    let name ← level.expand 0 name
    assign level name.trim op value
  | .undefine name => do
    let name ← level.expand 0 name
    Run.changeMake (·.undefine name.trim)
  | .bare line => do
    let residue ← level.expand 0 line
    unless residue.trim.isEmpty do
      Run.fail "missing separator"
  | .unterminated => Run.fail "missing 'endef', unterminated 'define'"

/-- Evaluates statements until make is found to be stopped. -/
def evaluateStatements (level : Level κ μ) : List Statement → Run κ μ Unit
  | [] => pure ()
  | s :: rest => do
    if ← Run.stopped then return
    evaluateStatement level s
    evaluateStatements level rest

/-! ## Nesting -/

mutual

/-- Expands a text within `fuel` steps of nesting. -/
def expandWithin (respond : Responder κ μ) : Nat → Nat → Text → Run κ μ Text
  | 0, _, _ => Run.exhausted
  | fuel + 1, depth, text =>
    expandText respond ⟨expandWithin respond fuel, evaluateWithin respond fuel⟩ depth text

/-- Evaluates a text within `fuel` steps of nesting. -/
def evaluateWithin (respond : Responder κ μ) : Nat → Text → Run κ μ Unit
  | 0, _ => Run.exhausted
  | fuel + 1, text =>
    evaluateStatements ⟨expandWithin respond fuel, evaluateWithin respond fuel⟩
      (statements text)

end

/-- Make with so many steps of nesting. -/
def levelWithin (respond : Responder κ μ) (fuel : Nat) : Level κ μ :=
  ⟨expandWithin respond fuel, evaluateWithin respond fuel⟩

end MakeHost.Make
