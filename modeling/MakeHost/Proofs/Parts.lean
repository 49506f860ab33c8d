import MakeHost.Proofs.Splice

/-!
# The parts that a text is read in

`DefineBlock.Part` are the texts that are read when a text is expanded. What a splice makes of them
may stand for them (`DefineBlock.counterparts_interchange`), whatever the functions are that satisfy
`DefineBlock.Harmless`: a reference that calls one is a call of it still, with the same arguments
unless it has them expanded. Where references nest as deep as they may there has to be nothing to
break up (`DefineBlock.Shallow`), which is so in every text that is short enough
(`shallow_of_length`).
-/

namespace MakeHost

namespace Make

variable {inner s : Text}

/-! ## Lengths -/

/-- How much of a text belongs to a reference under way. -/
def Scan.consumed : Scan → Nat
  | .plain => 0
  | .dollar => 1
  | .inside _ _ _ inner => inner.length + 2

/-- A reference is longer than what stands in it by its dollar sign and its brackets. -/
theorem length_of_reference_mem {scan : Scan} (h : .reference inner ∈ piecesFrom scan s) :
    inner.length + 3 ≤ scan.consumed + s.length := by
  induction s generalizing scan with
  | nil => cases scan <;> simp [piecesFrom] at h
  | cons c s ih =>
    have hnext : ∀ {next : Scan}, .reference inner ∈ piecesFrom next s →
        next.consumed ≤ scan.consumed + 1 →
          inner.length + 3 ≤ scan.consumed + (c :: s).length := by
      intro next hmem hconsumed
      have hlength := ih hmem
      rw [List.length_cons]
      omega
    have hother : ∀ {p : Piece} {next : Scan}, .reference inner ∈ p :: piecesFrom next s →
        p ≠ .reference inner → next.consumed ≤ scan.consumed + 1 →
          inner.length + 3 ≤ scan.consumed + (c :: s).length := fun hmem hp =>
      hnext ((List.mem_cons.1 hmem).resolve_left hp.symm)
    cases scan with
    | plain =>
      rw [piecesFrom] at h
      split at h
      · exact hnext h (Nat.le_refl 1)
      · exact hother h (by simp) (Nat.zero_le 1)
    | dollar =>
      rw [piecesFrom] at h
      split at h
      · exact hother h (by simp) (Nat.zero_le 2)
      split at h
      · exact hnext h (Nat.le_refl 2)
      split at h
      · exact hnext h (Nat.le_refl 2)
      · exact hother h (by simp) (Nat.zero_le 2)
    | inside opening closing depth front =>
      rw [piecesFrom.eq_def] at h
      dsimp only at h
      split at h
      · exact hnext h (Nat.le_refl (front.length + 3))
      split at h
      · split at h
        · obtain hself | h := List.mem_cons.1 h
          · cases hself
            simp only [Scan.consumed, List.length_reverse, List.length_cons]
            omega
          · exact hnext h (Nat.zero_le _)
        · exact hnext h (Nat.le_refl (front.length + 3))
      · exact hnext h (Nat.le_refl (front.length + 3))

/-- The text of a call's arguments is no longer than the call. -/
theorem length_of_args {args : Text} (h : (headAndArguments inner).2 = some args) :
    args.length ≤ inner.length := by
  unfold headAndArguments at h
  split at h
  · cases h
  · next gap rest hrest =>
    cases h
    have hgap := (List.dropWhile_suffix (l := gap :: rest) isGap).length_le
    have hhead := (List.dropWhile_suffix (l := inner) (!isGap ·)).length_le
    rw [hrest] at hhead
    omega

/-- An argument is no longer than the arguments. -/
theorem length_of_mem_splitArgumentsFrom {arg : Text} {depth : Nat} {cuts : Option Nat}
    (h : arg ∈ splitArgumentsFrom depth cuts s) : arg.length ≤ s.length := by
  induction s generalizing depth cuts arg with
  | nil =>
    obtain rfl : arg = [] := List.mem_singleton.1 h
    exact Nat.le_refl 0
  | cons c s ih =>
    rw [DefineBlock.Splice.splitArgumentsFrom_cons] at h
    split at h
    · obtain rfl | h := List.mem_cons.1 h
      · exact Nat.zero_le _
      · exact Nat.le_succ_of_le (ih h)
    · generalize hargs : splitArgumentsFrom _ cuts s = args at h
      cases args with
      | nil =>
        obtain rfl : arg = [c] := List.mem_singleton.1 h
        exact Nat.succ_le_succ (Nat.zero_le _)
      | cons first rest =>
        obtain rfl | h := List.mem_cons.1 h
        · exact Nat.succ_le_succ (ih (hargs ▸ List.mem_cons_self))
        · exact Nat.le_succ_of_le (ih (hargs ▸ List.mem_cons_of_mem _ h))

end Make

namespace DefineBlock

open Make

variable {s t u inner inner' name : Text} {k depth : Nat} {policy : Policy}

/-! ## Parts of a text -/

/-- The texts that are read when `s` is expanded, by how far inside references they are: a
reference's own text, the text of its arguments, and each argument. -/
inductive Part (s : Text) : Nat → Text → Prop
  | self : Part s 0 s
  | inner {k : Nat} {u inner : Text} : Part s k u → .reference inner ∈ pieces u →
      Part s (k + 1) inner
  | arguments {k : Nat} {u inner args : Text} : Part s k u → .reference inner ∈ pieces u →
      (headAndArguments inner).2 = some args → Part s (k + 1) args
  | argument {k max : Nat} {u inner arg : Text} : Part s k u → .reference inner ∈ pieces u →
      arg ∈ argumentsOf inner max → Part s (k + 1) arg

/-- Wherever a reference in `s` that may be broken up would call a function of this name, the name
stays whole and the arguments are expanded. -/
def Spares (s name : Text) (policy : Policy) : Prop :=
  ∀ k u inner, Part s k u → .reference inner ∈ pieces u → (headAndArguments inner).1 = name →
    Breakable inner → ¬ IsBuiltinCall inner → ¬ Breakable name ∧ policy = .expand

/-- There is nothing to break up where references nest as deep as they may, when `s` is expanded at
`depth`. -/
def Shallow (s : Text) (depth : Nat) : Prop :=
  ∀ k u, Part s k u → depth + k = maxDepth → ¬ Breakable u

/-- Each reference takes its dollar sign and brackets from the text around it. -/
theorem Part.length_le (h : Part s k u) : 3 * k + u.length ≤ s.length := by
  induction h with
  | self => simp
  | @inner k u inner _ hinner ih =>
    have hlength := length_of_reference_mem hinner
    simp only [Scan.consumed] at hlength
    omega
  | @arguments k u inner args _ hinner hargs ih =>
    have hlength := length_of_reference_mem hinner
    have hle := length_of_args hargs
    simp only [Scan.consumed] at hlength
    omega
  | @argument k max u inner arg _ hinner harg ih =>
    have hlength := length_of_reference_mem hinner
    simp only [Scan.consumed] at hlength
    unfold argumentsOf at harg
    cases hargs : (headAndArguments inner).2 with
    | none =>
      rw [hargs] at harg
      cases harg
    | some args =>
      rw [hargs] at harg
      have hle := length_of_args hargs
      have hle' : arg.length ≤ args.length := length_of_mem_splitArgumentsFrom harg
      omega

/-- References do not nest deeper than the text is long. -/
theorem shallow_of_length (h : s.length < 3 * (maxDepth - depth)) : Shallow s depth := by
  intro k u hpart hk
  have hlength := hpart.length_le
  omega

/-! ## Splices of parts -/

/-- The functions that a splice of `s` calls as `s` does. -/
def Harmless (s name : Text) (policy : Policy) : Prop := '$' ∉ name ∧ Spares s name policy

/-- A part of `s` and what a splice makes of it, in either order, by the depth they are expanded
at when `s` is expanded at `depth`. -/
def Counterparts (s : Text) (depth at' : Nat) (x y : Text) : Prop :=
  ∃ k u u', depth + k = at' ∧ Part s k u ∧ Spliced u u' ∧ (x = u ∧ y = u' ∨ x = u' ∧ y = u)

/-- What has its counterparts has them the other way round. -/
theorem Counterparts.symm {at' : Nat} (h : Counterparts s depth at' t u) :
    Counterparts s depth at' u t := by
  obtain ⟨k, v, v', hk, hpart, hsplice, hends⟩ := h
  exact ⟨k, v, v', hk, hpart, hsplice, hends.symm.imp And.symm And.symm⟩

/-- The head of a reference stands in it. -/
theorem isInfix_head (inner : Text) : (headAndArguments inner).1 <:+: inner := by
  unfold headAndArguments
  split
  · exact List.infix_rfl
  · exact (List.takeWhile_prefix _).isInfix

/-- The characters that a place for a break is known by. -/
theorem Breakable.mem (h : Breakable s) : 'd' ∈ s ∨ '\\' ∈ s := by
  obtain h | h | h := h
  · exact .inl (h.subset (by decide))
  · exact .inl (h.subset (by decide))
  · exact .inr (h.subset (by decide))

/-- The names of make's own functions stay whole. -/
theorem builtin_whole (h : (Builtin.ofName? name).isSome) : ¬ Breakable name ∧ '$' ∉ name := by
  have hchars : 'd' ∉ name ∧ '\\' ∉ name ∧ '$' ∉ name := by
    unfold Builtin.ofName? at h
    split at h
    · next hname => subst hname; decide
    split at h
    · next hname => subst hname; decide
    split at h
    · next hname => subst hname; decide
    split at h
    · next hname => subst hname; decide
    split at h
    · next hname => subst hname; decide
    · cases h
  exact ⟨fun hbreakable => hbreakable.mem.elim hchars.1 hchars.2.1, hchars.2.2⟩

/-- Something is related to an optional value if and only if that is there and related. -/
theorem rel_some_iff {α β : Type} {R : α → β → Prop} {a : α} {x : Option α} {y : Option β}
    (hx : x = some a) : Option.Rel R x y ↔ ∃ b, y = some b ∧ R a b := by
  subst hx
  constructor
  · rintro ⟨h⟩
    exact ⟨_, rfl, h⟩
  · rintro ⟨b, rfl, h⟩
    exact .some h

/-- Of related optional values both are there or none is. -/
theorem isSome_of_rel {α β : Type} {R : α → β → Prop} {x : Option α} {y : Option β}
    (h : Option.Rel R x y) : x.isSome ↔ y.isSome := by
  cases h <;> simp

/-- The arguments of a reference and what a splice makes of them, as a function gets them. -/
theorem argumentsOf_counterparts (hpart : Part s k u) (hinner : .reference inner ∈ pieces u)
    (hargs : Option.Rel Spliced (headAndArguments inner).2 (headAndArguments inner').2)
    (max : Nat) : List.Forall₂ (Counterparts s depth (depth + k + 1)) (argumentsOf inner max)
      (argumentsOf inner' max) := by
  have hspliced : List.Forall₂ Spliced (argumentsOf inner max) (argumentsOf inner' max) := by
    unfold argumentsOf
    generalize (headAndArguments inner).2 = args at hargs
    generalize (headAndArguments inner').2 = args' at hargs
    cases hargs with
    | none => exact .nil
    | some h =>
      obtain ⟨b, h⟩ := h
      exact h.splitArguments max
  have hparts : ∀ arg ∈ argumentsOf inner max, Part s (k + 1) arg := fun arg harg =>
    .argument hpart hinner harg
  refine ((List.forall₂_and_left _ _).2 ⟨hparts, hspliced⟩).imp fun arg arg' h => ?_
  exact ⟨k + 1, arg, arg', rfl, h.1, h.2, .inl ⟨rfl, rfl⟩⟩

/-- A reference of a part of `s` and what a splice makes of it come to the same. Arguments that are
not expanded were not broken up. -/
theorem twin (hpart : Part s k u) (hinner : .reference inner ∈ pieces u)
    (h : Spliced inner inner') :
    Twin (Harmless s) (Counterparts s depth (depth + k + 1)) inner inner' := by
  obtain ⟨b, hsplice⟩ := h
  obtain ⟨⟨c, hhead⟩, hargs⟩ := hsplice.headAndArguments
  have hself : Counterparts s depth (depth + k + 1) inner inner' :=
    ⟨k + 1, inner, inner', rfl, .inner hpart hinner, ⟨b, hsplice⟩, .inl ⟨rfl, rfl⟩⟩
  obtain heq | ⟨hbreakable, hdollar⟩ := hhead.eq_or_breakable
  · by_cases hcall : IsBuiltinCall inner
    · obtain ⟨hname, hsome⟩ := hcall
      obtain ⟨builtin, hname⟩ := Option.isSome_iff_exists.1 hname
      obtain ⟨arg, harg⟩ := Option.isSome_iff_exists.1 hsome
      obtain ⟨arg', harg', hspliced⟩ := (rel_some_iff harg).1 hargs
      exact .builtin hname (Prod.ext rfl harg) (Prod.ext heq.symm harg')
        ⟨k + 1, arg, arg', rfl, .arguments hpart hinner harg, hspliced, .inl ⟨rfl, rfl⟩⟩
    · have hcall' : ¬ IsBuiltinCall inner' := by
        rintro ⟨hname, hsome⟩
        exact hcall ⟨heq ▸ hname, (isSome_of_rel hargs).2 hsome⟩
      refine .named hcall hcall' hself heq (argumentsOf_counterparts hpart hinner hargs)
        fun hF => ?_
      obtain rfl | ⟨hbreakable, -⟩ := hsplice.eq_or_breakable
      · rfl
      · exact absurd (hF.2 k u inner hpart hinner rfl hbreakable hcall).2 nofun
  · have hcall : ¬ IsBuiltinCall inner := fun hcall => (builtin_whole hcall.1).1 hbreakable
    have hcall' : ¬ IsBuiltinCall inner' := fun hcall => (builtin_whole hcall.1).2 hdollar
    refine .variable hcall hcall' hself (fun policy hF => ?_) fun policy hF => hF.1 hdollar
    have hinfix := hbreakable.mono (isInfix_head inner)
    exact (hF.2 k u inner hpart hinner rfl hinfix hcall).1 hbreakable

/-- **A splice of a text may stand for the text**, where its parts are not breakable as deep as
references may nest. -/
theorem counterparts_interchange (hshallow : Shallow s depth) :
    Interchange (Harmless s) (Counterparts s depth) where
  read := by
    rintro at' x y hdepth ⟨k, u, u', rfl, hpart, ⟨b, hsplice⟩, hends⟩
    have halike : Alike (Twin (Harmless s) (Counterparts s depth (depth + k + 1))) (pieces u)
        (pieces u') := hsplice.pieces.imp fun inner inner' hinner h => twin hpart hinner h
    obtain ⟨rfl, rfl⟩ | ⟨rfl, rfl⟩ := hends
    · exact halike
    · exact halike.symm.imp fun inner inner' _ h => h.symm Counterparts.symm
  deepest := by
    rintro x y ⟨k, u, u', hk, hpart, ⟨b, hsplice⟩, hends⟩
    obtain rfl : u = u' := hsplice.eq_or_breakable.resolve_right fun h =>
      hshallow k u hpart hk h.1
    obtain ⟨rfl, rfl⟩ | ⟨rfl, rfl⟩ := hends <;> rfl

end DefineBlock

end MakeHost
