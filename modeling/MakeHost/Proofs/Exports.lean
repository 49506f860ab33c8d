import MakeHost.Proofs.Evolution
import MakeHost.Proofs.Facade
import MakeHost.Proofs.Interchange
import MakeHost.Proofs.Requests

/-!
# What a host exports

`Host.Exports` says that every function the host's bodies export satisfies a predicate, whatever
they are told. What the host does around the bodies exports nothing, so every answer of such a host
exports such functions only (`Host.Exports.dispatch`), and make with that host has them only, if it
had them only before (`World.Evolves.offers`).
-/

namespace MakeHost

variable {κ μ : Type} {E : Exported κ → Prop} {F : Text → Policy → Prop} {w w' : World κ μ}

/-! ## Names -/

/-- A function name is made of name characters. -/
theorem FunctionName.isNameChar_of_mem (name : FunctionName) {c : Char} (hc : c ∈ name.text) :
    isNameChar c = true := by
  have h := name.accepted
  unfold FunctionName.fault? at h
  split at h
  · cases h
  · split at h
    · cases h
    · rw [Option.map_eq_none_iff, List.find?_eq_none] at h
      simpa using h c hc

/-- A function name holds no dollar sign. -/
theorem FunctionName.dollar_notMem (name : FunctionName) : '$' ∉ name.text := fun hmem =>
  absurd (name.isNameChar_of_mem hmem) (by decide)

/-- A function has a name. -/
theorem FunctionName.text_ne_nil (name : FunctionName) : name.text ≠ [] := by
  intro hnil
  have h := name.accepted
  rw [hnil] at h
  cases h

/-! ## Requests -/

namespace Host

variable {host : Host κ μ} {options : HostOptions} {failure : Failure} {name text : Text}

/-- Every function that the host's bodies export satisfies `E`. -/
def Exports (host : Host κ μ) (E : Exported κ → Prop) : Prop :=
  ∀ code name args, (host.body code name args).run.Exports E

/-- Actions that export what satisfies `E` are such a class. -/
theorem grants_exports : Grants E fun α (x : Action κ μ α) => x.Exports E where
  pure := .done
  bind := .bind
  evaluate text := by
    unfold Host.evaluate checkText
    cases nulFault? text with
    | none => exact .ask nofun fun _ => .done _
    | some fault => exact .done _
  expandBytes text := by
    unfold Host.expandBytes checkText
    cases nulFault? text with
    | none =>
      refine .ask nofun fun answer => ?_
      cases answer with
      | none => exact .done _
      | some buffer => exact .ask nofun fun _ => .done _
    | some fault => exact .done _
  exports := .request nofun
  enter hentry := .ask (fun _ h => by cases h; exact hentry) fun _ => .done _
  complain _ := .request nofun

/-- What is composed of what a host offers exports what it enters. -/
theorem Asks.toExports {α : Type} {x : Action κ μ α} (hx : Asks E x) : x.Exports E := by
  induction hx with
  | pure a => exact .done a
  | bind _ _ ihx ihf => exact ihx.bind ihf
  | evaluate text => exact grants_exports.evaluate text
  | expandBytes text => exact grants_exports.expandBytes text
  | exports => exact grants_exports.exports
  | enter hentry => exact grants_exports.enter hentry
  | complain line => exact grants_exports.complain line
  | remembered | remember => exact .request nofun

/-! ## Answers -/

/-- Answering a call exports what the bodies do. -/
theorem Exports.dispatch (h : host.Exports E) (function : Bytes) (args : List Bytes) :
    (host.dispatch function args).Exports E :=
  grants_exports.dispatch h (fun _ => .request nofun) function args

/-- The answers of a host, along what is allowed with its exports. -/
theorem Exports.responder_along {T : World κ μ → World κ μ → Prop} (h : host.Exports E)
    (hT : Make.Serves E T) : host.responder.Along T host.responder :=
  fun _ _ hl _ _ _ => Make.perform_along hT hl (h.dispatch _ _)

end Host

/-! ## Functions -/

namespace World

/-- Functions that satisfy `F` are added to those that do. -/
theorem Change.offers (h : Change E w w')
    (hE : ∀ entry : Exported κ, E entry → F entry.name.text entry.policy) (hw : w.Offers F) :
    w'.Offers F := by
  intro name f hf
  obtain heq | ⟨entry, hentry, heq⟩ := h.functions
  · exact hw name f (heq ▸ hf)
  · rw [heq] at hf
    by_cases hname : name = entry.name.text
    · subst hname
      rw [Table.get?_insert_self] at hf
      cases hf
      exact hE entry hentry
    · rw [Table.get?_insert_of_ne hname] at hf
      exact hw name f hf

/-- Functions that make has are of a kind that it had, or that the exports have. -/
theorem Evolves.offers (h : Evolves E w w')
    (hE : ∀ entry : Exported κ, E entry → F entry.name.text entry.policy) (hw : w.Offers F) :
    w'.Offers F := by
  induction h with
  | refl => exact hw
  | tail _ hchange ih => exact hchange.offers hE ih

/-- Nothing comes to have the empty name. -/
theorem Evolves.noUnnamed (h : Evolves E w w') (hw : w.NoUnnamed) : w'.NoUnnamed := by
  induction h with
  | refl => exact hw
  | @tail w₁ w₂ _ hchange ih =>
    refine ⟨hchange.unbound ih.unbound, ?_⟩
    obtain heq | ⟨entry, -, heq⟩ := hchange.functions
    · rw [heq]
      exact ih.uninstalled
    · rw [heq, Table.get?_insert_of_ne entry.name.text_ne_nil.symm]
      exact ih.uninstalled

end World

end MakeHost
