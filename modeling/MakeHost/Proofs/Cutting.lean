import MakeHost.Proofs.Lines
import MakeHost.Text.Search

/-!
# Cutting a text at a separator

`Text.Cuts` says that pieces are what is left of a text when occurrences of a separator are cut out
of it. A split from the left makes each cut as early as any other way of cutting does
(`Text.Cuts.earliest`), so it makes as many cuts as there can be; a split from the right is a split
of the reversed text (`Text.splitLastUpTo_eq`), so it makes as many, each of them as late as any
other way does. Hence the two agree if and only if there is only one way to make that many cuts
(`Text.splitLastUpTo_eq_splitAll_iff`).
-/

namespace MakeHost.Text

variable {sep s front after : Text}

/-! ## One cut -/

/-- A prefix is found where the text begins with it. -/
theorem isPrefixOf?_eq_none : sep.isPrefixOf? s = none ↔ ¬ sep <+: s := by
  rw [Option.eq_none_iff_forall_ne_some]
  constructor
  · rintro h ⟨after, rfl⟩
    exact h after (isPrefixOf?_eq_some.2 rfl)
  · intro h after hafter
    exact h ⟨after, (isPrefixOf?_eq_some.1 hafter).symm⟩

/-- Nothing is cut where the separator does not occur. -/
theorem cutFirst?_eq_none_iff : cutFirst? sep s = none ↔ ¬ sep <:+: s := by
  induction s with
  | nil => cases sep <;> simp [cutFirst?]
  | cons c s ih =>
    rw [cutFirst?, List.infix_cons_iff]
    cases hfirst : sep.isPrefixOf? (c :: s) with
    | some after =>
      have hbegins : sep <+: c :: s := ⟨after, (isPrefixOf?_eq_some.1 hfirst).symm⟩
      simp [hbegins]
    | none => simp [isPrefixOf?_eq_none.1 hfirst, ih]

/-- Nothing is cut where the separator does not occur. -/
theorem cutLast?_eq_none_iff : cutLast? sep s = none ↔ ¬ sep <:+: s := by
  induction s with
  | nil => cases sep <;> simp [cutLast?]
  | cons c s ih =>
    rw [cutLast?, List.infix_cons_iff]
    cases hlast : cutLast? sep s with
    | some cut =>
      have hoccurs : sep <:+: s := by
        by_contra hoccurs
        rw [ih.2 hoccurs] at hlast
        cases hlast
      simp [hoccurs]
    | none => simp [isPrefixOf?_eq_none, ih.1 hlast]

/-- The first cut is made at an occurrence, and none is before it. -/
theorem eq_of_cutFirst? (h : cutFirst? sep s = some (front, after)) : s = front ++ sep ++ after ∧
    ∀ before behind, s = before ++ sep ++ behind → front.length ≤ before.length := by
  induction s generalizing front with
  | nil =>
    rw [cutFirst?] at h
    split at h
    · next hsep =>
      obtain rfl := List.isEmpty_iff.1 hsep
      cases h
      simp
    · cases h
  | cons c s ih =>
    rw [cutFirst?] at h
    cases hfirst : sep.isPrefixOf? (c :: s) with
    | some rest =>
      rw [hfirst] at h
      cases h
      exact ⟨isPrefixOf?_eq_some.1 hfirst, fun _ _ _ => Nat.zero_le _⟩
    | none =>
      rw [hfirst] at h
      obtain ⟨⟨front, after⟩, hcut, hresult⟩ := Option.map_eq_some_iff.1 h
      cases hresult
      obtain ⟨hs, hleast⟩ := ih hcut
      refine ⟨by rw [hs]; simp, fun before behind hbefore => ?_⟩
      cases before with
      | nil => exact absurd ⟨behind, hbefore.symm⟩ (isPrefixOf?_eq_none.1 hfirst)
      | cons d before => exact Nat.succ_le_succ (hleast before behind (List.cons.inj hbefore).2)

/-- The last cut is made at an occurrence, and none is behind it. -/
theorem eq_of_cutLast? (h : cutLast? sep s = some (front, after)) : s = front ++ sep ++ after ∧
    ∀ before behind, s = before ++ sep ++ behind → before.length ≤ front.length := by
  induction s generalizing front with
  | nil =>
    rw [cutLast?] at h
    split at h
    · next hsep =>
      obtain rfl := List.isEmpty_iff.1 hsep
      cases h
      refine ⟨rfl, fun before behind hbefore => ?_⟩
      obtain ⟨rfl, -⟩ : before = [] ∧ behind = [] := by simpa using hbefore
      exact Nat.le_refl _
    · cases h
  | cons c s ih =>
    rw [cutLast?] at h
    cases hlast : cutLast? sep s with
    | some cut =>
      rw [hlast] at h
      cases h
      obtain ⟨hs, hgreatest⟩ := ih hlast
      refine ⟨by rw [hs]; simp, fun before behind hbefore => ?_⟩
      cases before with
      | nil => exact Nat.zero_le _
      | cons d before => exact Nat.succ_le_succ (hgreatest before behind (List.cons.inj hbefore).2)
    | none =>
      rw [hlast] at h
      obtain ⟨rest, hfirst, hresult⟩ := Option.map_eq_some_iff.1 h
      cases hresult
      refine ⟨isPrefixOf?_eq_some.1 hfirst, fun before behind hbefore => ?_⟩
      cases before with
      | nil => exact Nat.le_refl _
      | cons d before =>
        have hoccurs : sep <:+: s := ⟨before, behind, (List.cons.inj hbefore).2.symm⟩
        exact absurd hoccurs (cutLast?_eq_none_iff.1 hlast)

/-- A cut is known from its place. -/
theorem cut_unique {cut : Text × Text} (h : s = cut.1 ++ sep ++ cut.2)
    (h' : s = front ++ sep ++ after) (hlength : cut.1.length = front.length) :
    cut = (front, after) := by
  rw [h, List.append_assoc, List.append_assoc] at h'
  obtain ⟨hfront, hrest⟩ := List.append_inj h' hlength
  exact Prod.ext hfront (List.append_cancel_left hrest)

/-- The first cut is the one before which there is none. -/
theorem cutFirst?_eq_some_iff : cutFirst? sep s = some (front, after) ↔
    s = front ++ sep ++ after ∧
      ∀ before behind, s = before ++ sep ++ behind → front.length ≤ before.length := by
  refine ⟨eq_of_cutFirst?, fun ⟨hs, hleast⟩ => ?_⟩
  cases hcut : cutFirst? sep s with
  | none => exact absurd ⟨front, after, hs.symm⟩ (cutFirst?_eq_none_iff.1 hcut)
  | some cut =>
    obtain ⟨hs', hleast'⟩ := eq_of_cutFirst? hcut
    rw [cut_unique hs' hs (Nat.le_antisymm (hleast' _ _ hs) (hleast _ _ hs'))]

/-- The last cut is the one behind which there is none. -/
theorem cutLast?_eq_some_iff : cutLast? sep s = some (front, after) ↔
    s = front ++ sep ++ after ∧
      ∀ before behind, s = before ++ sep ++ behind → before.length ≤ front.length := by
  refine ⟨eq_of_cutLast?, fun ⟨hs, hgreatest⟩ => ?_⟩
  cases hcut : cutLast? sep s with
  | none => exact absurd ⟨front, after, hs.symm⟩ (cutLast?_eq_none_iff.1 hcut)
  | some cut =>
    obtain ⟨hs', hgreatest'⟩ := eq_of_cutLast? hcut
    rw [cut_unique hs' hs (Nat.le_antisymm (hgreatest _ _ hs') (hgreatest' _ _ hs))]

/-- The last cut is the first one in the reversed text. -/
theorem cutLast?_eq : cutLast? sep s =
    (cutFirst? sep.reverse s.reverse).map fun cut => (cut.2.reverse, cut.1.reverse) := by
  have hturn : ∀ front after, s = front ++ sep ++ after ↔
      s.reverse = after.reverse ++ sep.reverse ++ front.reverse := fun front after => by
    rw [← List.reverse_inj]
    simp
  refine Option.ext fun ⟨front, after⟩ => ?_
  rw [cutLast?_eq_some_iff, Option.map_eq_some_iff]
  constructor
  · rintro ⟨hs, hgreatest⟩
    refine ⟨(after.reverse, front.reverse), cutFirst?_eq_some_iff.2 ⟨(hturn _ _).1 hs, ?_⟩, by simp⟩
    intro before behind hbefore
    have hle := hgreatest behind.reverse before.reverse ((hturn _ _).2 (by simpa using hbefore))
    have hlength := congrArg List.length ((hturn _ _).1 hs)
    rw [hbefore] at hlength
    simp at hle hlength ⊢
    omega
  · rintro ⟨⟨first, rest⟩, hcut, hresult⟩
    cases hresult
    obtain ⟨hs, hleast⟩ := cutFirst?_eq_some_iff.1 hcut
    refine ⟨(hturn _ _).2 (by simpa using hs), fun before behind hbefore => ?_⟩
    have hle := hleast _ _ ((hturn _ _).1 hbefore)
    have hlength := congrArg List.length hs
    rw [hbefore] at hlength
    simp at hle hlength ⊢
    omega

/-! ## Any number of cuts -/

variable {parts : List Text} {limit i : Nat}

/-- The pieces are what is left of the text when occurrences of the separator are cut out of it. -/
structure Cuts (sep s : Text) (parts : List Text) : Prop where
  ne_nil : parts ≠ []
  join_eq : join sep parts = s

/-- The pieces of a reversed text. -/
def mirrored (parts : List Text) : List Text := (parts.map List.reverse).reverse

/-- Mirroring twice gives the pieces back. -/
@[simp] theorem mirrored_mirrored (parts : List Text) : mirrored (mirrored parts) = parts := by
  simp [mirrored, List.map_reverse]

/-- As many pieces are mirrored. -/
@[simp] theorem length_mirrored (parts : List Text) : (mirrored parts).length = parts.length := by
  simp [mirrored]

/-- The separator stands behind a piece that is not the last one. -/
theorem join_of_ne_nil (p : Text) (hparts : parts ≠ []) :
    join sep (p :: parts) = p ++ sep ++ join sep parts := by
  obtain ⟨q, parts, rfl⟩ := List.exists_cons_of_ne_nil hparts
  exact join_cons_cons sep p q parts

/-- Two rows of pieces are joined with one separator between them. -/
theorem join_append {first second : List Text} (hfirst : first ≠ []) (hsecond : second ≠ []) :
    join sep (first ++ second) = join sep first ++ sep ++ join sep second := by
  induction first with
  | nil => exact absurd rfl hfirst
  | cons p first ih =>
    by_cases hrest : first = []
    · subst hrest
      rw [List.singleton_append, join_of_ne_nil p hsecond, join_singleton]
    · rw [List.cons_append, join_of_ne_nil p hrest, join_of_ne_nil p (by simp [hrest]), ih hrest]
      simp

/-- Mirrored pieces make the text from right to left. -/
theorem join_mirrored (sep : Text) (parts : List Text) :
    join sep.reverse (mirrored parts) = (join sep parts).reverse := by
  induction parts with
  | nil => rfl
  | cons p parts ih =>
    have hcons : mirrored (p :: parts) = mirrored parts ++ [p.reverse] := by simp [mirrored]
    cases parts with
    | nil => simp [mirrored, join_singleton]
    | cons q parts =>
      have hne : mirrored (q :: parts) ≠ [] := by simp [mirrored]
      rw [hcons, join_append hne (List.cons_ne_nil _ _), ih, join_cons_cons, join_singleton]
      simp

/-- A split from the right is a split of the reversed text from the left. -/
theorem splitLastUpTo_eq (sep : Text) (limit : Nat) (s : Text) :
    splitLastUpTo sep limit s = mirrored (splitUpTo sep.reverse limit s.reverse) := by
  induction limit generalizing s with
  | zero => simp [splitLastUpTo, splitUpTo, mirrored]
  | succ limit ih =>
    rw [splitLastUpTo, splitUpTo, cutLast?_eq]
    cases cutFirst? sep.reverse s.reverse with
    | none => simp [mirrored]
    | some cut => simp [mirrored, ih]

/-! ## Where the cuts are -/

/-- How much of a text lies before a cut, the first one being number zero. -/
def cutAt (sep : Text) (parts : List Text) (i : Nat) : Nat := (join sep (parts.take (i + 1))).length

/-- The first cut is behind the first piece. -/
theorem cutAt_zero (p : Text) (parts : List Text) : cutAt sep (p :: parts) 0 = p.length := by
  simp [cutAt, join_singleton]

/-- A later cut lies behind the first piece and its separator. -/
theorem cutAt_succ (p : Text) (hne : parts ≠ []) :
    cutAt sep (p :: parts) (i + 1) = p.length + sep.length + cutAt sep parts i := by
  obtain ⟨q, parts, rfl⟩ := List.exists_cons_of_ne_nil hne
  rw [cutAt, List.take_succ_cons, List.take_succ_cons, join_cons_cons]
  simp [cutAt, Nat.add_assoc]

/-- A text before the first piece belongs to it. -/
theorem join_extend (extra p : Text) (parts : List Text) :
    join sep ((extra ++ p) :: parts) = extra ++ join sep (p :: parts) := by
  cases parts with
  | nil => simp [join_singleton]
  | cons q parts => simp [join_cons_cons]

/-- Text in front of the first piece moves every cut by its length. -/
theorem cutAt_extend (extra p : Text) (parts : List Text) :
    cutAt sep ((extra ++ p) :: parts) i = extra.length + cutAt sep (p :: parts) i := by
  rw [cutAt, List.take_succ_cons, join_extend]
  simp [cutAt]

/-- A cut that could be made earlier leaves more of the text for the cuts behind it. -/
theorem Cuts.behind {p q : Text} (h : Cuts sep s (p :: q :: parts)) (hs : s = front ++ sep ++ after)
    (hle : front.length ≤ p.length) : ∃ extra, p.length = front.length + extra.length ∧
      Cuts sep after ((extra ++ q) :: parts) := by
  have hjoin : s = p ++ sep ++ join sep (q :: parts) :=
    h.join_eq.symm.trans (join_cons_cons sep p q parts)
  obtain ⟨extra, hextra⟩ : front ++ sep <+: p ++ sep :=
    List.prefix_of_prefix_length_le ⟨after, hs.symm⟩ ⟨_, hjoin.symm⟩ (by simpa using hle)
  have hlength := congrArg List.length hextra
  simp only [List.length_append] at hlength
  refine ⟨extra, by omega, List.cons_ne_nil _ _, ?_⟩
  rw [hs, ← hextra, List.append_assoc _ extra] at hjoin
  rw [join_extend]
  exact (List.append_cancel_left hjoin).symm

/-- A split has at least one piece. -/
theorem splitUpTo_ne_nil (sep : Text) (limit : Nat) (s : Text) : splitUpTo sep limit s ≠ [] := by
  cases limit with
  | zero => simp [splitUpTo]
  | succ limit =>
    rw [splitUpTo]
    cases cutFirst? sep s <;> simp

/-- **A split from the left makes every cut that another way of cutting makes, and no later.** -/
theorem Cuts.earliest (h : Cuts sep s parts) (hlimit : parts.length ≤ limit + 1)
    (hi : i + 1 < parts.length) : i + 1 < (splitUpTo sep limit s).length ∧
      cutAt sep (splitUpTo sep limit s) i ≤ cutAt sep parts i := by
  induction limit generalizing s parts i with
  | zero => omega
  | succ limit ih =>
    obtain ⟨p, q, parts, rfl⟩ : ∃ p q rest, parts = p :: q :: rest := by
      match parts, hi with
      | p :: q :: rest, _ => exact ⟨p, q, rest, rfl⟩
    have hjoin : s = p ++ sep ++ join sep (q :: parts) :=
      h.join_eq.symm.trans (join_cons_cons sep p q parts)
    rw [splitUpTo]
    cases hcut : cutFirst? sep s with
    | none => exact absurd ⟨p, _, hjoin.symm⟩ (cutFirst?_eq_none_iff.1 hcut)
    | some cut =>
      obtain ⟨front, after⟩ := cut
      obtain ⟨hs, hleast⟩ := eq_of_cutFirst? hcut
      obtain ⟨extra, hextra, hbehind⟩ := h.behind hs (hleast _ _ hjoin)
      have hrest := splitUpTo_ne_nil sep limit after
      dsimp only
      cases i with
      | zero =>
        rw [cutAt_zero, cutAt_zero, List.length_cons]
        have hpos := List.length_pos_of_ne_nil hrest
        omega
      | succ i =>
        rw [List.length_cons] at hlimit hi
        obtain ⟨hmore, hearlier⟩ :=
          ih hbehind (Nat.le_of_succ_le_succ hlimit) (Nat.lt_of_succ_lt_succ hi)
        rw [cutAt_extend] at hearlier
        rw [cutAt_succ _ hrest, cutAt_succ _ (List.cons_ne_nil q parts), List.length_cons]
        omega

/-! ## As many cuts as there can be -/

/-- Between two neighbouring pieces stands an occurrence, so the text has room for them all. -/
theorem Cuts.length_le_succ (h : Cuts sep s parts) (hsep : sep ≠ []) :
    parts.length ≤ s.length + 1 := by
  obtain ⟨-, rfl⟩ := h
  induction parts with
  | nil => exact Nat.zero_le _
  | cons p parts ih =>
    cases parts with
    | nil => simp
    | cons q parts =>
      have hpos := List.length_pos_of_ne_nil hsep
      rw [join_cons_cons, List.length_cons]
      simp only [List.length_append]
      omega

/-- A split cuts its text at the separator. -/
theorem cuts_splitUpTo (sep : Text) (limit : Nat) (s : Text) :
    Cuts sep s (splitUpTo sep limit s) := by
  refine ⟨splitUpTo_ne_nil sep limit s, ?_⟩
  induction limit generalizing s with
  | zero => exact join_singleton sep
  | succ limit ih =>
    rw [splitUpTo]
    cases hcut : cutFirst? sep s with
    | none => exact join_singleton sep
    | some cut =>
      dsimp only
      rw [join_of_ne_nil _ (splitUpTo_ne_nil sep limit cut.2), ih, (eq_of_cutFirst? hcut).1]

/-- No way of cutting within the limit makes more cuts than a split from the left does. -/
theorem Cuts.length_le (h : Cuts sep s parts) (hlimit : parts.length ≤ limit + 1) :
    parts.length ≤ (splitUpTo sep limit s).length := by
  by_cases hone : parts.length ≤ 1
  · exact hone.trans (List.length_pos_of_ne_nil (splitUpTo_ne_nil sep limit s))
  · have hlast : parts.length - 2 + 1 < parts.length := by omega
    have hmore := (h.earliest hlimit hlast).1
    omega

/-- The pieces of a text after as many cuts as there can be. -/
structure MostCuts (sep s : Text) (parts : List Text) : Prop extends Cuts sep s parts where
  most : ∀ others, Cuts sep s others → others.length ≤ parts.length

/-- A split without a limit makes as many cuts as there can be. -/
theorem mostCuts_splitAll (hsep : sep ≠ []) (s : Text) : MostCuts sep s (splitAll sep s) where
  toCuts := cuts_splitUpTo sep s.length s
  most _ hothers := hothers.length_le (hothers.length_le_succ hsep)

/-- There is one piece more than there are disjoint occurrences. -/
theorem occurrences_eq (hsep : sep ≠ []) (s : Text) :
    occurrences sep s + 1 = (splitAll sep s).length := by
  have hpos := List.length_pos_of_ne_nil (splitUpTo_ne_nil sep s.length s)
  rw [occurrences, if_neg (by simpa using hsep)]
  exact Nat.succ_pred_eq_of_pos hpos

/-- Two ways to make the most cuts have equally many pieces. -/
theorem MostCuts.length_eq {others : List Text} (h : MostCuts sep s parts)
    (hothers : MostCuts sep s others) : parts.length = others.length :=
  Nat.le_antisymm (hothers.most _ h.toCuts) (h.most _ hothers.toCuts)

/-- A limit that the number of occurrences does not exceed is no limit. -/
theorem mostCuts_splitUpTo (hsep : sep ≠ []) (hlimit : occurrences sep s ≤ limit) :
    MostCuts sep s (splitUpTo sep limit s) where
  toCuts := cuts_splitUpTo sep limit s
  most others hothers := by
    have hmost := (mostCuts_splitAll hsep s).most others hothers
    have hcount := occurrences_eq hsep s
    exact hothers.length_le (by omega)

/-! ## The mirror image -/

/-- A way of cutting from the right is one of the reversed text. -/
theorem Cuts.mirrored (h : Cuts sep s parts) : Cuts sep.reverse s.reverse (mirrored parts) where
  ne_nil := by simpa [Text.mirrored] using h.ne_nil
  join_eq := by rw [join_mirrored, h.join_eq]

/-- The most cuts stay the most when the text is reversed. -/
theorem MostCuts.mirrored (h : MostCuts sep s parts) :
    MostCuts sep.reverse s.reverse (mirrored parts) where
  toCuts := h.toCuts.mirrored
  most others hothers := by
    have hback := hothers.mirrored
    rw [List.reverse_reverse, List.reverse_reverse] at hback
    simpa using h.most _ hback

/-- A separator occurs as often in the reversed text. -/
theorem occurrences_reverse (hsep : sep ≠ []) (s : Text) :
    occurrences sep.reverse s.reverse = occurrences sep s := by
  have hmirrored := (mostCuts_splitAll hsep s).mirrored
  have hreverse : sep.reverse ≠ [] := by simpa using hsep
  have hlength := hmirrored.length_eq (mostCuts_splitAll hreverse s.reverse)
  have hcount := occurrences_eq hsep s
  have hcount' := occurrences_eq hreverse s.reverse
  rw [length_mirrored] at hlength
  omega

/-- A split from the right makes the most cuts where its limit allows all of them. -/
theorem mostCuts_splitLastUpTo (hsep : sep ≠ []) (hlimit : occurrences sep s ≤ limit) :
    MostCuts sep s (splitLastUpTo sep limit s) := by
  have hreverse : sep.reverse ≠ [] := by simpa using hsep
  have hmirrored := (mostCuts_splitUpTo hreverse (occurrences_reverse hsep s ▸ hlimit)).mirrored
  rwa [List.reverse_reverse, List.reverse_reverse, ← splitLastUpTo_eq] at hmirrored

/-- The last pieces of a text are the first ones of its mirror image. -/
theorem mirrored_drop (parts : List Text) (k : Nat) :
    mirrored (parts.drop k) = (mirrored parts).take (parts.length - k) := by
  rw [mirrored, mirrored, List.map_drop, List.reverse_drop, List.length_map]

/-- A cut and the same cut in the reversed text have the separator and nothing else between them. -/
theorem Cuts.cutAt_add (h : Cuts sep s parts) (hi : i + 1 < parts.length) :
    cutAt sep parts i + sep.length +
      cutAt sep.reverse (Text.mirrored parts) (parts.length - (i + 2)) = s.length := by
  have hfront : parts.take (i + 1) ≠ [] := by simpa using h.ne_nil
  have hback : parts.drop (i + 1) ≠ [] := by simpa using hi
  have hsplit : s = join sep (parts.take (i + 1)) ++ sep ++ join sep (parts.drop (i + 1)) := by
    rw [← join_append hfront hback, List.take_append_drop, h.join_eq]
  have hmirror : cutAt sep.reverse (Text.mirrored parts) (parts.length - (i + 2)) =
      (join sep (parts.drop (i + 1))).length := by
    have hindex : parts.length - (i + 2) + 1 = parts.length - (i + 1) := by omega
    rw [cutAt, hindex, ← mirrored_drop, join_mirrored, List.length_reverse]
  rw [hmirror, cutAt, hsplit, List.length_append, List.length_append]

/-- **A split from the right makes each of the most cuts no earlier than another way does.** -/
theorem MostCuts.latest (h : MostCuts sep s parts) (hsep : sep ≠ [])
    (hlimit : occurrences sep s ≤ limit) (hi : i + 1 < parts.length) :
    cutAt sep parts i ≤ cutAt sep (splitLastUpTo sep limit s) i := by
  have hright := mostCuts_splitLastUpTo hsep hlimit
  have hlength := h.length_eq hright
  have hcount := occurrences_eq hsep s
  have hall := h.length_eq (mostCuts_splitAll hsep s)
  have hback := hright.toCuts.cutAt_add (hlength ▸ hi)
  have hearliest : cutAt sep.reverse (splitUpTo sep.reverse limit s.reverse)
      (parts.length - (i + 2)) ≤ cutAt sep.reverse (Text.mirrored parts) (parts.length - (i + 2)) :=
    (h.mirrored.earliest (by rw [length_mirrored]; omega) (by rw [length_mirrored]; omega)).2
  rw [← hlength, splitLastUpTo_eq, mirrored_mirrored, ← splitLastUpTo_eq] at hback
  have hthere := h.toCuts.cutAt_add hi
  omega

/-! ## When the two directions agree -/

/-- Two ways to make as many cuts agree in the first piece if that is of the same length. -/
theorem Cuts.cons_inj {p q : Text} {others : List Text} (h : Cuts sep s (p :: parts))
    (hothers : Cuts sep s (q :: others)) (hlength : parts.length = others.length)
    (hfirst : parts ≠ [] → p.length = q.length) : p = q ∧ join sep parts = join sep others := by
  have hjoin := h.join_eq.trans hothers.join_eq.symm
  by_cases hparts : parts = []
  · subst hparts
    obtain rfl := List.length_eq_zero_iff.1 hlength.symm
    rw [join_singleton, join_singleton] at hjoin
    exact ⟨hjoin, rfl⟩
  · have hothers' : others ≠ [] := by
      rw [← List.length_pos_iff, ← hlength]
      exact List.length_pos_of_ne_nil hparts
    rw [join_of_ne_nil p hparts, join_of_ne_nil q hothers', List.append_assoc,
      List.append_assoc] at hjoin
    obtain ⟨hpq, hrest⟩ := List.append_inj hjoin (hfirst hparts)
    exact ⟨hpq, List.append_cancel_left hrest⟩

/-- The pieces are known from where the cuts are. -/
theorem Cuts.eq_of_cutAt {others : List Text} (h : Cuts sep s parts) (hothers : Cuts sep s others)
    (hlength : parts.length = others.length)
    (hcuts : ∀ i, i + 1 < parts.length → cutAt sep parts i = cutAt sep others i) :
    parts = others := by
  induction parts generalizing s others with
  | nil => exact absurd rfl h.ne_nil
  | cons p parts ih =>
    obtain ⟨q, others, rfl⟩ := List.exists_cons_of_ne_nil hothers.ne_nil
    rw [List.length_cons, List.length_cons, Nat.add_right_cancel_iff] at hlength
    obtain ⟨rfl, hbehind⟩ := h.cons_inj hothers hlength fun hparts => by
      have hfirst := hcuts 0 (by simpa using List.length_pos_of_ne_nil hparts)
      rwa [cutAt_zero, cutAt_zero] at hfirst
    cases others with
    | nil => rw [List.length_eq_zero_iff.1 hlength]
    | cons q others =>
      have hparts : parts ≠ [] := by rintro rfl; cases hlength
      have htail := ih ⟨hparts, rfl⟩ ⟨List.cons_ne_nil q others, hbehind.symm⟩ hlength
        fun i hi => by
          have hcut := hcuts (i + 1) (Nat.succ_lt_succ hi)
          rw [cutAt_succ p hparts, cutAt_succ p (List.cons_ne_nil q others)] at hcut
          exact Nat.add_left_cancel hcut
      rw [htail]

/-- There is only one way to cut the text at as many occurrences of the separator as can be. -/
def CutOneWay (sep s : Text) : Prop :=
  ∀ parts others, MostCuts sep s parts → MostCuts sep s others → parts = others

/-- **A split from the right and one from the left agree if and only if there is only one way to
make as many cuts.** Every way to make the most cuts makes them between where the splits from either
side do. -/
theorem splitLastUpTo_eq_splitAll_iff (hsep : sep ≠ []) (hlimit : occurrences sep s ≤ limit) :
    splitLastUpTo sep limit s = splitAll sep s ↔ CutOneWay sep s := by
  have hleft := mostCuts_splitAll hsep s
  constructor
  · intro heq
    have hsame : ∀ parts, MostCuts sep s parts → parts = splitAll sep s := fun parts hparts => by
      refine hparts.toCuts.eq_of_cutAt hleft.toCuts (hparts.length_eq hleft) fun i hi => ?_
      have hlate := hparts.latest hsep hlimit hi
      have hearly := (hparts.toCuts.earliest (hparts.toCuts.length_le_succ hsep) hi).2
      rw [heq] at hlate
      exact Nat.le_antisymm hlate hearly
    intro parts others hparts hothers
    rw [hsame parts hparts, hsame others hothers]
  · intro hone
    exact hone _ _ (mostCuts_splitLastUpTo hsep hlimit) hleft

/-- Of two occurrences of the separator in the text, one ends before the other one begins. -/
def Apart (sep s : Text) : Prop :=
  ∀ front after front' after', s = front ++ sep ++ after → s = front' ++ sep ++ after' →
    front.length < front'.length → front.length + sep.length ≤ front'.length

/-- No occurrence is left in the first piece, or another cut could be made there. -/
theorem MostCuts.not_infix {p : Text} (h : MostCuts sep s (p :: parts)) : ¬ sep <:+: p := by
  rintro ⟨front, after, rfl⟩
  have hmore : Cuts sep s (front :: after :: parts) := by
    refine ⟨List.cons_ne_nil _ _, ?_⟩
    rw [← h.join_eq, join_extend, join_cons_cons]
  have hle := h.most _ hmore
  simp only [List.length_cons] at hle
  omega

/-- An occurrence before the first cut would leave room for another cut. -/
theorem MostCuts.first_le {p q : Text} (h : MostCuts sep s (p :: parts)) (hparts : parts ≠ [])
    (hs : s = q ++ sep ++ after) (hapart : Apart sep s) : p.length ≤ q.length := by
  by_contra hlt
  have hjoin : s = p ++ sep ++ join sep parts := h.join_eq.symm.trans (join_of_ne_nil p hparts)
  have hwithin := hapart _ _ _ _ hs hjoin (Nat.lt_of_not_le hlt)
  obtain ⟨rest, hrest⟩ : q ++ sep <+: p := List.prefix_of_prefix_length_le ⟨after, hs.symm⟩
    ⟨sep ++ join sep parts, by rw [hjoin, List.append_assoc]⟩ (by simpa using hwithin)
  exact h.not_infix ⟨q, rest, hrest⟩

/-- Behind the first of the most cuts there are the most cuts. -/
theorem MostCuts.tail {p : Text} (h : MostCuts sep s (p :: parts)) (hparts : parts ≠ []) :
    MostCuts sep (join sep parts) parts where
  ne_nil := hparts
  join_eq := rfl
  most others hothers := by
    have hmore : Cuts sep s (p :: others) := by
      refine ⟨List.cons_ne_nil _ _, ?_⟩
      rw [join_of_ne_nil p hothers.ne_nil, hothers.join_eq, ← join_of_ne_nil p hparts, h.join_eq]
    exact Nat.le_of_succ_le_succ (h.most _ hmore)

/-- Occurrences that stand apart in a text stand apart in its end. -/
theorem Apart.behind (h : Apart sep (front ++ after)) : Apart sep after := by
  rintro before rest before' rest' hs hs' hlt
  have hwithin := h (front ++ before) rest (front ++ before') rest' (by rw [hs]; simp)
    (by rw [hs']; simp) (by simpa using hlt)
  rw [List.length_append, List.length_append] at hwithin
  omega

/-- Where the occurrences do not overlap there is only one way to cut. -/
theorem Apart.cutOneWay (hapart : Apart sep s) : CutOneWay sep s := by
  intro parts others h hothers
  induction parts generalizing s others with
  | nil => exact absurd rfl h.ne_nil
  | cons p parts ih =>
    obtain ⟨q, others, rfl⟩ := List.exists_cons_of_ne_nil hothers.ne_nil
    have hlength := h.length_eq hothers
    rw [List.length_cons, List.length_cons, Nat.add_right_cancel_iff] at hlength
    cases others with
    | nil =>
      obtain rfl := List.length_eq_zero_iff.1 hlength
      rw [(h.toCuts.cons_inj hothers.toCuts rfl fun hne => absurd rfl hne).1]
    | cons q' others =>
      have hparts : parts ≠ [] := by rintro rfl; cases hlength
      have hs : s = p ++ sep ++ join sep parts := h.join_eq.symm.trans (join_of_ne_nil p hparts)
      have hs' : s = q ++ sep ++ join sep (q' :: others) :=
        hothers.join_eq.symm.trans (join_cons_cons sep q q' others)
      obtain ⟨rfl, hbehind⟩ := h.toCuts.cons_inj hothers.toCuts hlength fun _ =>
        Nat.le_antisymm (h.first_le hparts hs' hapart)
          (hothers.first_le (List.cons_ne_nil q' others) hs hapart)
      have htail := hothers.tail (List.cons_ne_nil q' others)
      rw [← hbehind] at htail
      rw [ih (Apart.behind (hs ▸ hapart)) _ (h.tail hparts) htail]

/-- The separator can begin before an occurrence of it has ended. -/
def SelfOverlapping (sep : Text) : Prop := ∃ k, 0 < k ∧ k < sep.length ∧ sep.drop k <+: sep

/-- The occurrences of a separator overlap only if it overlaps itself. -/
theorem apart_of_not_selfOverlapping (h : ¬ SelfOverlapping sep) (s : Text) : Apart sep s := by
  intro front after front' after' hs hs' hlt
  by_contra hoverlap
  obtain ⟨between, rfl⟩ : front <+: front' := by
    have hfront : front <+: s := ⟨sep ++ after, by rw [hs, List.append_assoc]⟩
    have hfront' : front' <+: s := ⟨sep ++ after', by rw [hs', List.append_assoc]⟩
    exact List.prefix_of_prefix_length_le hfront hfront' (Nat.le_of_lt hlt)
  rw [List.length_append] at hlt hoverlap
  have htail : sep ++ after = between ++ sep ++ after' := by
    have heq := hs.symm.trans hs'
    rw [List.append_assoc, List.append_assoc front, List.append_assoc front] at heq
    exact List.append_cancel_left heq
  have hbetween : sep.take between.length = between := by
    have htake := congrArg (List.take between.length) htail
    rwa [List.take_append_of_le_length (by omega), List.append_assoc, List.take_left] at htake
  have hdrop : sep.drop between.length ++ after = sep ++ after' := by
    have hdrop := congrArg (List.drop between.length) htail
    rwa [List.drop_append_of_le_length (by omega), List.append_assoc, List.drop_left] at hdrop
  exact h ⟨between.length, by omega, by omega,
    List.prefix_of_prefix_length_le ⟨after, hdrop⟩ ⟨after', rfl⟩ (by simp)⟩

/-- A single character does not overlap itself. -/
theorem not_selfOverlapping_singleton (c : Char) : ¬ SelfOverlapping [c] := by
  rintro ⟨k, hpos, hlt, -⟩
  rw [List.length_singleton] at hlt
  omega

end MakeHost.Text
