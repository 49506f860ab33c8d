import MakeHost.Table
import Mathlib.Logic.Function.Basic

/-!
# What a table answers

`Table.get?` after `insert` and `erase`. The theorems about worlds read tables through these
equations alone and never look at the entries. The names of a table that was built by `insert` are
in order, each once (`Table.Distinct.pairwise_names`).
-/

namespace MakeHost.Table

variable {α : Type} {t : Table α} {name other : Text} {a : α}

/-- An empty table answers nothing. -/
@[simp] theorem get?_empty : (empty : Table α).get? name = none := rfl

/-- Taking a name out leaves no value of it. -/
@[simp] theorem get?_erase_self : (t.erase name).get? name = none := by
  rw [get?, List.lookup_eq_none_iff]
  intro entry hentry
  have hne : entry.1 ≠ name := by simpa using (List.mem_filter.1 hentry).2
  simpa using hne.symm

/-- Taking a name out leaves the values of the others. -/
theorem get?_erase_of_ne (h : other ≠ name) : (t.erase name).get? other = t.get? other := by
  obtain ⟨entries⟩ := t
  simp only [get?, erase]
  induction entries with
  | nil => rfl
  | cons entry entries ih =>
    obtain ⟨key, value⟩ := entry
    by_cases hkey : key = name
    · have hother : (other == key) = false := by simpa [hkey] using h
      rw [List.filter_cons_of_neg (by simpa using hkey), ih, List.lookup_cons, hother]
    · rw [List.filter_cons_of_pos (by simpa using hkey), List.lookup_cons, List.lookup_cons, ih]

/-- A name has the value that it was given last. -/
@[simp] theorem get?_insert_self : (t.insert name a).get? name = some a := by
  simp [get?, insert]

/-- Giving a name a value leaves the values of the others. -/
theorem get?_insert_of_ne (h : other ≠ name) : (t.insert name a).get? other = t.get? other := by
  have hother : (other == name) = false := by simpa using h
  rw [get?, insert, List.lookup_cons, hother]
  exact get?_erase_of_ne h

/-- What a table answers after `insert` is what it answered, updated at the name. -/
theorem get?_insert : (t.insert name a).get? = Function.update t.get? name (some a) := by
  funext other
  by_cases hother : other = name
  · rw [hother, get?_insert_self, Function.update_self]
  · rw [get?_insert_of_ne hother, Function.update_of_ne hother]

/-! ## Names -/

/-- Every name occurs once among the entries. -/
def Distinct (t : Table α) : Prop := (t.entries.map (·.1)).Nodup

/-- An empty table has no name twice. -/
theorem distinct_empty : (empty : Table α).Distinct := List.nodup_nil

/-- Inserting leaves every name there once. -/
theorem Distinct.insert (h : t.Distinct) : (t.insert name a).Distinct := by
  have hsublist : ((t.erase name).entries.map (·.1)).Sublist (t.entries.map (·.1)) :=
    List.filter_sublist.map _
  refine List.nodup_cons.2 ⟨fun hmem => ?_, h.sublist hsublist⟩
  obtain ⟨entry, hentry, hname⟩ := List.mem_map.1 hmem
  have hne : entry.1 ≠ name := by simpa using (List.mem_filter.1 hentry).2
  exact hne hname

/-- The names are those that have a value. -/
theorem mem_names : name ∈ t.names ↔ (t.get? name).isSome := by
  rw [names, (List.mergeSort_perm _ _).mem_iff, get?, List.lookup_isSome_iff, List.mem_map]
  exact exists_congr fun entry => and_congr_right fun _ => by rw [beq_iff_eq, eq_comm]

/-- The names are in order, each once. -/
theorem Distinct.pairwise_names (h : t.Distinct) :
    t.names.Pairwise fun a b => Text.before a b = true := by
  have hsorted : t.names.Pairwise fun a b => (!Text.before b a) = true := by
    refine List.pairwise_mergeSort (fun a b c hab hbc => ?_) (fun a b => ?_) _
    · simp only [Text.before, Bool.not_eq_true', decide_eq_false_iff_not] at hab hbc ⊢
      exact List.le_trans hab hbc
    · simp only [Text.before, Bool.or_eq_true, Bool.not_eq_true', decide_eq_false_iff_not]
      exact List.le_total a b
  have hnodup : t.names.Nodup := (List.mergeSort_perm _ _).nodup_iff.2 h
  refine (hsorted.and hnodup).imp fun {a b} hab => ?_
  have hle : Text.before b a = false := by simpa using hab.1
  by_contra hnot
  have hge : Text.before a b = false := by simpa using hnot
  exact hab.2 (List.le_antisymm (of_decide_eq_false hle) (of_decide_eq_false hge))

end MakeHost.Table
