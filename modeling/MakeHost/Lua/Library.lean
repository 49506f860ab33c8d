import MakeHost.Lua.Value

/-!
# The interpreter library

The interpreter itself is not part of the host: a `Library` says what it does. Its code is a finite
tree (`Running`): it looks at what is outside of the host, changes it, calls functions of the host,
whose errors it may catch, and ends with values or an error. What code does may depend on all that
it has seen so far. A program that may go on for ever is such a tree in each of its runs that end.

What the host relies on is `Library.Lawful`: raw access to tables.
-/

namespace MakeHost.Lua

variable {σ : Type}

/-- What code does when it runs, as the host sees it. `σ` is the type of what is outside of the
host: all that the interpreters hold, and files. -/
inductive Running (σ : Type)
  | ended (result : Except Error (List Value))
  /-- What follows depends on what is outside. -/
  | look (next : σ → Running σ)
  /-- What is outside changes. -/
  | become (outside : σ) (next : Running σ)
  /-- A function of the host is called; its error is for the caller to raise or to catch. -/
  | call (f : Native) (args : List Value) (next : Except Error (List Value) → Running σ)

/-- An interpreter library. Interpreters are known by their number. -/
structure Library (σ : Type) where
  /-- Makes an interpreter with its standard library, in front of whose search paths for scripts and
  for compiled modules these two texts stand. Its globals hold the functions of the host. -/
  create (outside : σ) (interpreter : Nat) (path cpath : Text) : σ
  /-- The table of an interpreter's own globals. -/
  globals (outside : σ) (interpreter : Nat) : Ref
  /-- The table of the globals that build-script code shares. Reading falls back to the
  interpreter's own. -/
  environment (interpreter : Nat) : Ref
  /-- The function that calls a function of the host. -/
  native (interpreter : Nat) (f : Native) : Ref
  /-- The function that tells of a function how it was declared. -/
  inspect (interpreter : Nat) : Ref
  /-- Runs source text with a table of globals; if it can be read as an expression, for its
  values. -/
  evaluate (interpreter : Nat) (chunk : Text) (source : Bytes) (environment : Ref) : Running σ
  /-- Runs source text as statements with a table of globals. -/
  execute (interpreter : Nat) (chunk : Text) (source : Bytes) (environment : Ref) : Running σ
  /-- Calls a function. -/
  call (f : Ref) (args : List Value) : Running σ
  /-- Reads an entry of a table, in the way the table says if it has a way of its own. -/
  get (table : Ref) (key : Value) : Running σ
  /-- Writes an entry of a table, in the way the table says if it has a way of its own. -/
  set (table : Ref) (key value : Value) : Running σ
  /-- A new empty table, beside a table that the host holds. -/
  newTable (outside : σ) (interpreter : Nat) (held : Ref) : Ref × σ
  /-- The entry that a table itself has. -/
  rawGet (outside : σ) (table : Ref) (key : Value) : Value
  /-- Writes an entry of the table itself; with nil there is none afterwards. -/
  rawSet (outside : σ) (table : Ref) (key value : Value) : σ
  /-- The content of a file, or why it cannot be read. -/
  fileContent (outside : σ) (path : Text) : Except Text Bytes
  /-- How many functions of the host may be active within one another in one call. -/
  nesting : Nat
  /-- The error in place of a call that would be one too many. -/
  overflow : Error
  /-- The library's wording of an error. -/
  shown : Error → Text

/-- Raw access to tables: an entry under a string is what was written last, no other table changes
with it, and a new table is none that the host holds. -/
structure Library.Lawful (lua : Library σ) : Prop where
  rawGet_rawSet : ∀ outside table (key : Bytes) value,
    lua.rawGet (lua.rawSet outside table (.str key) value) table (.str key) = value
  rawGet_rawSet_of_ne : ∀ outside table key value other entry, other ≠ table →
    lua.rawGet (lua.rawSet outside table key value) other entry = lua.rawGet outside other entry
  newTable_ne : ∀ outside i held, (lua.newTable outside i held).1 ≠ held
  rawGet_newTable : ∀ outside i held table key, table ≠ (lua.newTable outside i held).1 →
    lua.rawGet (lua.newTable outside i held).2 table key = lua.rawGet outside table key

end MakeHost.Lua
