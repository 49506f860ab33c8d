import MakeHost.Text.Blank

/-!
# Statements of make text

Physical lines are joined at trailing backslashes into logical lines, and logical lines are read
as statements: assignments, `define` blocks, `undefine`, and lines that are only expanded.
Reading has no effects; a statement says what evaluation has to do.
-/

namespace MakeHost.Make

/-- What an assignment does with the value. -/
inductive Assignment
  | recursive
  | simple
  | append
  | conditional
deriving DecidableEq

/-- One thing that a make text asks for. Names and values are still to be expanded. -/
inductive Statement
  | assign (name : Text) (op : Assignment) (value : Text)
  | undefine (name : Text)
  /-- A line that is only expanded; its expansion must be blank. -/
  | bare (line : Text)
  /-- A `define` whose block the text ends in. -/
  | unterminated
deriving DecidableEq

/-! ## Logical lines -/

/-- The line without the backslash at its end, if it has one there. -/
def continued? (line : Text) : Option Text := ['\\'].isSuffixOf? line

/-- Joins physical lines; `line` is the logical line under way. A continued line loses the blanks
before its backslash, the next one those in front, and one space stands between them. -/
def joinLines (line : Text) : List Text → List Text
  | [] => [(continued? line).getD line]
  | next :: rest =>
    match continued? line with
    | some front => joinLines (front.trimEnd ++ " " ++ next.trimStart) rest
    | none => line :: joinLines next rest

/-- The logical lines of a text. -/
def logicalLines (s : Text) : List Text :=
  match s.lines with
  | [] => []
  | line :: rest => joinLines line rest

/-! ## Directives and assignments -/

/-- What follows the directive `word` on a line that begins with it. -/
def directive? (word line : Text) : Option Text :=
  match word.isPrefixOf? line with
  | none => none
  | some [] => some []
  | some (c :: rest) =>
    if Text.isBlank c ∨ c = '#' then some (Text.trimStart (c :: rest)) else none

/-- The assignment that the last characters of `before`, a text read up to an equals sign, make
with that sign; `before` is reversed. -/
def assignmentBefore (before : Text) : Text × Assignment :=
  match before with
  | ':' :: ':' :: name => (name.reverse, .simple)
  | ':' :: name => (name.reverse, .simple)
  | '+' :: name => (name.reverse, .append)
  | '?' :: name => (name.reverse, .conditional)
  | name => (name.reverse, .recursive)

/-- The name and the operator of a `define` line; without an operator it is a recursive
assignment. -/
def defineHeader (header : Text) : Text × Assignment :=
  match header.trim.reverse with
  | '=' :: before =>
    let (name, op) := assignmentBefore before
    (name.trimEnd, op)
  | _ => (header.trim, .recursive)

/-- Looks for the first equals sign outside brackets. A colon before it that does not belong to
the operator ends the search. `depth` counts open brackets and `before` is what was passed,
reversed. -/
def findAssignment (depth : Nat) (before : Text) : Text → Option (Text × Assignment × Text)
  | [] => none
  | c :: s =>
    if c = '(' ∨ c = '\x7b' then findAssignment (depth + 1) (c :: before) s
    else if c = ')' ∨ c = '\x7d' then findAssignment (depth - 1) (c :: before) s
    else if c = '=' ∧ depth = 0 then
      let (name, op) := assignmentBefore before
      if name.trim.isEmpty then none else some (name.trim, op, s)
    else if c = ':' ∧ depth = 0 ∧ ¬ (['='].isPrefixOf s ∨ [':', '='].isPrefixOf s) then none
    else findAssignment depth (c :: before) s

/-- The parts of a line that is an assignment. -/
def assignment? (line : Text) : Option (Text × Assignment × Text) := findAssignment 0 [] line

/-! ## Reading statements -/

/-- What a logical line is outside of a block. -/
inductive LineKind
  | empty
  | opens (header : Text)
  | statement (s : Statement)

/-- Reads a logical line outside of a block. -/
def lineKind (logical : Text) : LineKind :=
  let line := logical.trim
  if line.isEmpty ∨ line.head? = some '#' then .empty
  else match directive? "define" line with
    | some header => .opens header
    | none => match directive? "undefine" line with
      | some name => .statement (.undefine name)
      | none => match assignment? line with
        | some (name, op, value) => .statement (.assign name op value.trimStart)
        | none => .statement (.bare line)

/-- Where reading stands: outside of blocks, or in a block with its header, the number of blocks
open inside it, and its lines so far, last one first. -/
inductive Position
  | outside
  | inside (header : Text) (nested : Nat) (body : List Text)

/-- The statement of a whole block. -/
def blockStatement (header : Text) (body : List Text) : Statement :=
  let (name, op) := defineHeader header
  .assign name op (Text.join "\n" body.reverse)

/-- Reads logical lines into statements. -/
def statementsFrom : Position → List Text → List Statement
  | .outside, [] => []
  | .inside .., [] => [.unterminated]
  | .outside, line :: rest =>
    match lineKind line with
    | .empty => statementsFrom .outside rest
    | .opens header => statementsFrom (.inside header 0 []) rest
    | .statement s => s :: statementsFrom .outside rest
  | .inside header nested body, line :: rest =>
    if (directive? "endef" line.trim).isSome then
      match nested with
      | 0 => blockStatement header body :: statementsFrom .outside rest
      | nested + 1 => statementsFrom (.inside header nested (line :: body)) rest
    else if (directive? "define" line.trim).isSome then
      statementsFrom (.inside header (nested + 1) (line :: body)) rest
    else statementsFrom (.inside header nested (line :: body)) rest

/-- The statements of a text. -/
def statements (s : Text) : List Statement := statementsFrom .outside (logicalLines s)

end MakeHost.Make
