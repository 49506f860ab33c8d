import MakeHost.Proofs.Exports
import MakeHost.Proofs.Parts
import MakeHost.Proofs.Reachable
import MakeHost.Proofs.VariableRequests

/-!
# Text that keeps its references

Text that a block is to keep with its references is broken up as it stands (`DefineBlock.guarded`).
Its expansion is that of the text itself when

* no keyword, and no backslash at the end, stands behind a dollar sign that takes it for a name
  (`DefineBlock.Separated`);
* no call that make hands out is broken up in its name, or in arguments that are not expanded
  (`DefineBlock.Spares`);
* nothing is broken up where references nest as deep as they may (`DefineBlock.Shallow`).

`Host.expand_guarded` proves it for every world and host, as one instance of
`Make.expandWithin_interchange`.
-/

namespace MakeHost

namespace DefineBlock

open Make

variable {b b' : Bool} {s t word : Text}

/-! ## Breaking up -/

/-- Whether a text ends in a dollar sign that takes the next character for a name: the last one of
an odd number of them. -/
def endsLive (s : Text) : Bool := s.foldl (fun live c => c == '$' && !live) false

/-- A dollar sign at the end is live unless the one in front of it is. -/
theorem endsLive_append (front : Text) (c : Char) :
    endsLive (front ++ [c]) = (c == '$' && !endsLive front) := by
  rw [endsLive, List.foldl_append]
  rfl

/-- No keyword, and no backslash at the end, stands behind a dollar sign that takes its first
character for a name. -/
structure Separated (s : Text) : Prop where
  keyword : ∀ front word back, IsKeyword word → s = front ++ (word ++ back) → endsLive front = false
  backslash : ∀ front, s = front ++ "\\" → endsLive front = false

/-- Whether a text is separated is decided by looking at each of its ends. -/
theorem separated_iff : Separated s ↔ ∀ n < s.length + 1, ("define".toList <+: s.drop n ∨
    "endef".toList <+: s.drop n ∨ s.drop n = "\\") → endsLive (s.take n) = false := by
  constructor
  · rintro h n - hend
    have hsplit : s = s.take n ++ s.drop n := (List.take_append_drop n s).symm
    obtain ⟨back, hback⟩ | ⟨back, hback⟩ | hback := hend
    · exact h.keyword _ _ back (.inl rfl) (hback ▸ hsplit)
    · exact h.keyword _ _ back (.inr rfl) (hback ▸ hsplit)
    · exact h.backslash _ (hback ▸ hsplit)
  · intro h
    refine ⟨?_, ?_⟩
    · rintro front word back hword rfl
      have hfront := h front.length (by rw [List.length_append]; omega)
      rw [List.drop_left, List.take_left] at hfront
      exact hfront (hword.elim (fun hw => .inl (hw ▸ List.prefix_append _ _))
        fun hw => .inr (.inl (hw ▸ List.prefix_append _ _)))
    · rintro front rfl
      have hfront := h front.length (by rw [List.length_append]; omega)
      rw [List.drop_left, List.take_left] at hfront
      exact hfront (.inr (.inr rfl))

instance (s : Text) : Decidable (Separated s) := decidable_of_iff _ separated_iff.symm

/-- The next part of a text counts among what stands in front. -/
theorem Separated.next {front p : Text} (hs : Separated (front ++ (p ++ s))) :
    Separated ((front ++ p) ++ s) := by
  rwa [List.append_assoc]

/-- `t` is a splice of `s`, with an empty reference behind the backslash at its end if it has one
there. -/
inductive Guards (b : Bool) : Text → Text → Prop
  | whole {b' : Bool} {s t : Text} : Splice b s t b' → Guards b s t
  | close {s t : Text} : Splice b s t false → Guards b (s ++ "\\") (t ++ "\\$()")

/-- Texts are broken up one behind the other. -/
theorem Guards.append (h : Splice b s t b') (h' : Guards b' s' t') :
    Guards b (s ++ s') (t ++ t') := by
  cases h' with
  | whole h' => exact .whole (h.append h')
  | close h' =>
    rw [← List.append_assoc, ← List.append_assoc]
    exact .close (h.append h')

/-- A keyword that is separated, before a text that was broken up behind it. -/
theorem Guards.keyword {front : Text} (hword : IsKeyword word)
    (hs : Separated (front ++ (word ++ s))) (h : Guards (endsLive (front ++ word)) s t) :
    Guards (endsLive front) (word ++ s) ("$()" ++ (word ++ t)) := by
  have hbehind : endsLive (front ++ word) = false := by
    rw [endsLive, List.foldl_append]
    rcases hword with rfl | rfl <;> rfl
  rw [hs.keyword front word s hword rfl]
  rw [hbehind] at h
  simpa using Guards.append (.keyword hword (.nil false)) h

/-- A character that stays, before a text that was broken up behind it. -/
theorem Guards.keep {front : Text} (c : Char) (h : Guards (endsLive (front ++ [c])) s t) :
    Guards (endsLive front) (c :: s) (c :: t) := by
  rw [endsLive_append] at h
  exact .append (.keep c (.nil _)) h

/-- Breaking up a text that is separated keeps its references. -/
theorem Broken.guards {front : Text} (h : Broken false s t) (hs : Separated (front ++ s)) :
    Guards (endsLive front) s t := by
  induction h generalizing front with
  | nil => exact .whole (.nil _)
  | define _ ih => exact .keyword (.inl rfl) hs (ih hs.next)
  | endef _ ih => exact .keyword (.inr rfl) hs (ih hs.next)
  | @join s t _ ih =>
    have hbehind : endsLive (front ++ "\\\n") = false := by
      rw [endsLive, List.foldl_append]
      rfl
    have ih : Guards (endsLive (front ++ "\\\n")) s t := ih hs.next
    rw [hbehind] at ih
    exact .append (.join (.nil false)) ih
  | last =>
    have hlive := hs.backslash front rfl
    exact .close (s := []) (t := []) (hlive ▸ .nil _)
  | @dollar s t _ ih => exact .keep '$' (ih (Separated.next (p := ['$']) hs))
  | @plain c s t _ _ _ _ _ ih => exact .keep c (ih (Separated.next (p := [c]) hs))

/-- The pieces of a text that was broken up. -/
theorem Guards.pieces (h : Guards false s t) : Alike Spliced (pieces s) (pieces t) := by
  cases h with
  | whole h => exact h.pieces
  | close h => exact h.pieces_close

end DefineBlock

/-! ## Expanding -/

variable {κ μ : Type}

/-- Nothing has the empty name, and a splice of the text calls every function as the text does. -/
structure World.Suits (w : World κ μ) (s : Text) : Prop where
  noUnnamed : w.NoUnnamed
  harmless : w.Offers (DefineBlock.Harmless s)

/-- A splice of the text calls the function as the text does. -/
def Exported.Suits (entry : Exported κ) (s : Text) : Prop :=
  DefineBlock.Spares s entry.name.text entry.policy

/-- A world suits a text still when only functions were exported that do. -/
theorem World.Suits.evolve {w w' : World κ μ} {s : Text} (hw : w.Suits s)
    (h : World.Evolves (fun entry => entry.Suits s) w w') : w'.Suits s where
  noUnnamed := h.noUnnamed hw.noUnnamed
  harmless := h.offers (fun entry hentry => ⟨entry.name.dollar_notMem, hentry⟩) hw.harmless

namespace Host

open DefineBlock

variable {host : Host κ μ} {w w' : World κ μ} {s x y name : Text} {fuel depth : Nat}

/-- Texts that are read as parts of `s` and as what a splice makes of them expand alike. -/
theorem expand_alike (hexports : host.Exports fun entry => entry.Suits s) (hw : w.Suits s)
    (hdepth : depth < Make.maxDepth) (hshallow : Shallow s depth)
    (halike : Make.Alike (Make.Twin (Harmless s) (Counterparts s depth (depth + 1)))
      (Make.pieces x) (Make.pieces y)) {fuel : Nat} {result : Text × World κ μ}
    (hx : (host.level fuel).expand depth x w = some result) :
    ∃ more, (host.level more).expand depth y w = some result := by
  cases fuel with
  | zero => cases hx
  | succ fuel =>
    have hserves := (World.Evolves.serves fun entry : Exported κ => entry.Suits s).restrict
      fun {w w' : World κ μ} hstep (hw : w.Suits s) => hw.evolve hstep
    have hhost := hexports.responder_along hserves
    refine ⟨fuel + 2, (Make.expandText_alike hserves (fun h => ⟨h.1.noUnnamed, h.1.harmless⟩) hhost
      hdepth halike (fun w x y h => ?_) ⟨hw, hw, .refl⟩ hx).1⟩
    exact Make.expandWithin_interchange hserves (fun h => ⟨h.1.noUnnamed, h.1.harmless⟩) hhost
      (counterparts_interchange hshallow) fuel h

/-- What a text expands to, it expands to when it is broken up, with the same effects. -/
def Keeps (host : Host κ μ) (depth : Nat) (s : Text) (w : World κ μ) : Prop :=
  ∀ result, (∃ fuel, (host.level fuel).expand depth (guarded s) w = some result) ↔
    ∃ fuel, (host.level fuel).expand depth s w = some result

/-- A text that is kept expands to one text. -/
theorem Keeps.eq {result result' : Text × World κ μ} {fuel fuel' : Nat} (h : host.Keeps depth s w)
    (htext : (host.level fuel).expand depth s w = some result)
    (hguarded : (host.level fuel').expand depth (guarded s) w = some result') :
    result = result' := by
  obtain ⟨more, hmore⟩ := (h result).2 ⟨fuel, htext⟩
  obtain ⟨hfirst, -⟩ := expand_along (Nat.le_add_right more fuel') hmore
  obtain ⟨hsecond, -⟩ := expand_along (Nat.le_add_left fuel' more) hguarded
  exact Option.some.inj (hfirst.symm.trans hsecond)

/-- **Breaking a text up does not change what it expands to**, when what is put in comes between no
dollar sign and its name, into no call that is handed out, and nowhere where references nest as deep
as they may. -/
theorem expand_guarded (hexports : host.Exports fun entry => entry.Suits s) (hw : w.Suits s)
    (hs : Separated s) (hdepth : depth < Make.maxDepth) (hshallow : Shallow s depth) :
    host.Keeps depth s w := by
  have hguards : Guards (endsLive []) s (guarded s) := (guarded_spec s).guards hs
  have halike : Make.Alike (Make.Twin (Harmless s) (Counterparts s depth (depth + 1)))
      (Make.pieces s) (Make.pieces (guarded s)) :=
    hguards.pieces.imp fun inner inner' hinner h => twin .self hinner h
  refine fun result => ⟨fun ⟨fuel, h⟩ => ?_, fun ⟨fuel, h⟩ =>
    expand_alike hexports hw hdepth hshallow halike h⟩
  refine expand_alike hexports hw hdepth hshallow ?_ h
  exact halike.symm.imp fun inner inner' _ h => h.symm Counterparts.symm

/-! ## Setting variables -/

/-- A world in which a recursive variable holds a text that was broken up. -/
def holding (name s : Text) (w : World κ μ) : World κ μ :=
  { w with make := w.make.setVariable name ⟨guarded s, .recursive, .file⟩ }

/-- The reference to a recursive variable is the expansion of its value further in. -/
theorem expand_reference_iff {v : Variable} (hname : isLegalVariableName name = true)
    (hrunning : w.make.stopped = false)
    (hfunction : w.make.functions.get? name = none) (hv : w.make.bindings.get? name = some v)
    (hflavor : v.flavor = .recursive) (result : Text × World κ μ) :
    (∃ fuel, (host.level fuel).expand 0 ("$(" ++ name ++ ")") w = some result) ↔
      ∃ fuel, (host.level fuel).expand 1 v.value w = some result := by
  have hdepth : 0 < Make.maxDepth := by decide
  have hvalue : ∀ fuel, (host.level (fuel + 3)).expand 0 ("$(" ++ name ++ ")") w =
      (host.level (fuel + 2)).expand 1 v.value w := by
    intro fuel
    have hreference : (host.level (fuel + 3)).expand 0 ("$(" ++ name ++ ")") w =
        Make.expandVariable (host.level (fuel + 2)) 0 name w :=
      Make.expandWithin_reference hname hrunning hfunction hdepth
    rw [hreference, Make.expandVariable_recursive hv hflavor]
  constructor
  · rintro ⟨fuel, h⟩
    obtain ⟨h, -⟩ := expand_along (Nat.le_add_right fuel 3) h
    exact ⟨fuel + 2, hvalue fuel ▸ h⟩
  · rintro ⟨fuel, h⟩
    obtain ⟨h, -⟩ := expand_along (Nat.le_add_right fuel 2) h
    exact ⟨fuel + 3, (hvalue fuel).trans h⟩

/-- A recursive variable that holds a text broken up expands to what the text expands to. -/
theorem expand_holding_iff (hexports : host.Exports fun entry => entry.Suits s) (hw : w.Suits s)
    (hs : Separated s) (hshallow : Shallow s 1) (hname : isLegalVariableName name = true)
    (hrunning : w.make.stopped = false) (hfunction : w.make.functions.get? name = none)
    (result : Text × World κ μ) :
    (∃ fuel, (host.level fuel).expand 0 ("$(" ++ name ++ ")") (holding name s w) = some result) ↔
      ∃ fuel, (host.level fuel).expand 1 s (holding name s w) = some result := by
  have hnoUnnamed : (holding name s w).NoUnnamed :=
    Make.noUnnamed_setVariable hw.noUnnamed (ne_nil_of_isLegal hname) _
  have hsuits : (holding name s w).Suits s := ⟨hnoUnnamed, hw.harmless⟩
  rw [expand_reference_iff (w := holding name s w) hname hrunning hfunction
    Table.get?_insert_self rfl]
  exact expand_guarded hexports hsuits hs (by decide) hshallow result

/-- A simple variable is set to what the text expands to, where that leads to. -/
theorem perform_set_simple_iff (hexports : host.Exports fun entry => entry.Suits s) (hw : w.Suits s)
    (hs : Separated s) (hshallow : Shallow s 0) (hname : isLegalVariableName name = true)
    (hclean : '\x00' ∉ name) (htext : '\x00' ∉ s) (hattached : w.link = .attached)
    (hrunning : w.make.stopped = false)
    (horigin : (w.make.bindings.get? name).map (·.origin) ≠ some .commandLine) :
    (∃ fuel, Make.perform (host.level fuel) (set name (.text s) .simple).run w =
        some (.ok (), w')) ↔
      ∃ a w₁, (∃ fuel, (host.level fuel).expand 0 s w = some (a, w₁)) ∧
        w' = { w₁ with make := w₁.make.setVariable name ⟨a, .simple, .file⟩ } := by
  have hguarded := expand_guarded hexports hw hs (by decide) hshallow
  have hset : ∀ fuel, Make.perform (host.level (fuel + 3)) (set name (.text s) .simple).run w =
      ((host.level (fuel + 2)).expand 0 (guarded s) >>= fun a w' => some (.ok (),
        { w' with make := w'.make.setVariable name ⟨a, .simple, .file⟩ })) w := fun fuel =>
    perform_set_simple hname hclean hattached hrunning htext horigin
  constructor
  · rintro ⟨fuel, h⟩
    obtain ⟨h, -⟩ := perform_along (Nat.le_add_right fuel 3) h
    rw [hset] at h
    obtain ⟨a, w₁, hexpand, hresult⟩ := Run.bind_eq_some.1 h
    cases hresult
    exact ⟨a, w₁, (hguarded (a, w₁)).1 ⟨fuel + 2, hexpand⟩, rfl⟩
  · rintro ⟨a, w₁, hexpand, rfl⟩
    obtain ⟨fuel, h⟩ := (hguarded (a, w₁)).2 hexpand
    obtain ⟨h, -⟩ := expand_along (Nat.le_add_right fuel 2) h
    exact ⟨fuel + 3, by rw [hset, Run.bind_of_eq_some h]⟩

end Host

end MakeHost
