import MakeHost.Text.Basic

/-!
# Tables

Finite maps from names to values. A name occurs in a table at most once when it was built by
`insert` and `erase`, and what a table says is what `get?` answers.
-/

namespace MakeHost

/-- A finite map from names to values. -/
structure Table (α : Type) where
  entries : List (Text × α)

namespace Table

variable {α : Type}

/-- The table without entries. -/
def empty : Table α := ⟨[]⟩

/-- The value of a name. -/
def get? (t : Table α) (name : Text) : Option α := t.entries.lookup name

/-- Whether a name has a value. -/
def contains (t : Table α) (name : Text) : Bool := (t.get? name).isSome

/-- Takes a name out. -/
def erase (t : Table α) (name : Text) : Table α := ⟨t.entries.filter (·.1 ≠ name)⟩

/-- Gives a name a value, in place of the one it had. -/
def insert (t : Table α) (name : Text) (a : α) : Table α := ⟨(name, a) :: (t.erase name).entries⟩

/-- How many names have a value. -/
def size (t : Table α) : Nat := t.entries.length

/-- The names in the order of their code points. -/
def names (t : Table α) : List Text := (t.entries.map (·.1)).mergeSort fun a b => !Text.before b a

end Table

end MakeHost
