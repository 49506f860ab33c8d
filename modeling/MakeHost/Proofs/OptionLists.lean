import MakeHost.Proofs.IntegerLiterals
import MakeHost.Proofs.Packages
import MakeHost.Proofs.WholeNumbers

/-!
# How options are read

`Lists` says which keys and values an attribute's tokens give, and `Denotes` which number a value
is. What is read of a value is what it denotes, if it is read as a number at all (`IsRead`). A minus
sign is an operator, which negates what was read behind it, and belongs to a number only where that
ends the options. So the least number of 64 bits is no expression's value (`IsExpression`), and
negations do not overflow (`inWords_of_readPairs`).
-/

namespace MakeHost.Wrapper

open TokenTree

variable {here rest value value' tokens : List TokenTree} {entries : List (Text × List TokenTree)}
  {setting found : Setting} {key : Text} {pair : Pair} {n m : Int}

/-! ## What options are written -/

/-- Tokens are a whole number: a literal, with minus signs in front. -/
inductive Denotes : List TokenTree → Int → Prop
  | literal {s : Text} {n : Nat} : Literal.Writes s n → Denotes [literal s] n
  | negated {joint : Bool} {tokens : List TokenTree} {n : Int} :
      Denotes tokens n → Denotes (punct '-' joint :: tokens) (-n)

/-- No commas are among tokens, but maybe in brackets. -/
def CommaFree (tokens : List TokenTree) : Prop := ∀ t ∈ tokens, t.isPunct ',' = false

/-- Tokens are options: keys with a value each, and commas between them, and maybe at the end. -/
inductive Lists : List TokenTree → List (Text × List TokenTree) → Prop
  | nil : Lists [] []
  | last {key : Text} {joint : Bool} {value : List TokenTree} (hvalue : CommaFree value) :
      Lists (ident key :: punct '=' joint :: value) [(key, value)]
  | cons {key : Text} {joint joint' : Bool} {value rest : List TokenTree}
      {entries : List (Text × List TokenTree)} (hvalue : CommaFree value) : Lists rest entries →
      Lists (ident key :: punct '=' joint :: (value ++ punct ',' joint' :: rest))
        ((key, value) :: entries)

/-- A value denotes at most one number. -/
theorem Denotes.unique (hn : Denotes value n) (hm : Denotes value m) : n = m := by
  induction hn generalizing m with
  | literal hn =>
    cases hm with
    | literal hm => rw [hn.unique hm]
  | negated _ ih =>
    cases hm with
    | negated hm => rw [ih hm]

/-- No tokens hold no comma. -/
theorem commaFree_nil : CommaFree [] := fun _ h => nomatch h

/-- Tokens without a comma stay so with one more that is none. -/
theorem commaFree_cons {t : TokenTree} (ht : t.isPunct ',' = false) (h : CommaFree value) :
    CommaFree (t :: value) := by
  rintro u hu
  rcases List.mem_cons.1 hu with rfl | hu
  · exact ht
  · exact h u hu

/-- What follows a value: a comma, if anything. -/
def EndsValue (rest : List TokenTree) : Prop := ∀ t ∈ rest.head?, t.isPunct ',' = true

/-- A value may end where the options do. -/
theorem endsValue_nil : EndsValue [] := fun _ h => nomatch h

/-- A value may end in front of a comma. -/
theorem endsValue_comma (joint : Bool) : EndsValue (punct ',' joint :: rest) := by
  rintro _ ⟨⟩
  rfl

/-- Where a value ends is told by the tokens. -/
theorem CommaFree.split_unique {rest' : List TokenTree} (hvalue : CommaFree value)
    (hvalue' : CommaFree value') (hrest : EndsValue rest) (hrest' : EndsValue rest')
    (h : value ++ rest = value' ++ rest') : value = value' ∧ rest = rest' := by
  have hfront : ∀ {value rest}, CommaFree value → EndsValue rest →
      (value ++ rest).takeWhile (!·.isPunct ',') = value := by
    intro value rest hvalue hrest
    have hstop : rest.takeWhile (!·.isPunct ',') = [] := by
      cases rest with
      | nil => rfl
      | cons t rest =>
        rw [List.takeWhile_cons_of_neg]
        simp [hrest t rfl]
    rw [List.takeWhile_append_of_pos (by simpa [CommaFree] using hvalue), hstop, List.append_nil]
  have hsame : value = value' := by rw [← hfront hvalue hrest, h, hfront hvalue' hrest']
  subst hsame
  exact ⟨rfl, List.append_cancel_left h⟩

/-- Tokens are one list of options at most. -/
theorem Lists.unique {entries' : List (Text × List TokenTree)} (h : Lists tokens entries)
    (h' : Lists tokens entries') : entries = entries' := by
  have hcomma : ∀ {value joint rest}, ¬ CommaFree (value ++ punct ',' joint :: rest) := by
    intro value joint rest hfree
    exact Bool.noConfusion (hfree _ (List.mem_append_right _ (.head _)))
  induction h generalizing entries' with
  | nil =>
    cases h'
    rfl
  | last hvalue =>
    cases h' with
    | last => rfl
    | cons _ _ => exact absurd hvalue hcomma
  | cons hvalue _ ih =>
    generalize htokens : ident _ :: punct '=' _ :: (_ ++ punct ',' _ :: _) = tokens at h'
    cases h' with
    | nil => cases htokens
    | last hvalue' =>
      cases htokens
      exact absurd hvalue' hcomma
    | cons hvalue' hrest' =>
      simp only [List.cons.injEq, ident.injEq] at htokens
      obtain ⟨rfl, -, hsplit⟩ := htokens
      obtain ⟨rfl, hrest⟩ :=
        hvalue.split_unique hvalue' (endsValue_comma _) (endsValue_comma _) hsplit
      cases hrest
      rw [ih hrest']

/-! ## Evaluation in words -/

instance {type : IntegerType} : Decidable (type.Holds n) :=
  inferInstanceAs (Decidable (type.low ≤ n ∧ n ≤ type.high))

namespace Setting

/-- The value of an integer option, worked out in words of 64 bits. It is absent if a negation
overflows. -/
def inWords : Setting → Option (Except WrapperError Int)
  | literal (.int n) => some (fitting n)
  | negated value => value.inWords.bind fun
    | .ok n => if IntegerType.signed64.Holds (-n) then some (.ok (-n)) else none
    | .error e => some (.error e)
  | _ => some (.error .noInteger)

/-- A setting is no whole number. -/
def IsNoInteger (setting : Setting) : Prop :=
  setting.toInteger = .error .noInteger ∧ setting.inWords = some (.error .noInteger)

/-- A number that fits is read as itself, and it fits 64 bits. -/
theorem fitting_eq_ok (h : fitting n = .ok m) : m = n ∧ IntegerType.signed64.Holds n := by
  unfold fitting at h
  split at h
  · cases h
  · split at h
    · cases h
    · next hhigh hlow =>
      cases h
      exact ⟨rfl, Int.not_lt.1 hlow, Int.not_lt.1 hhigh⟩

/-- A number that 64 bits hold fits. -/
theorem fitting_of_holds (h : IntegerType.signed64.Holds n) : fitting n = .ok n := by
  rw [fitting, if_neg (Int.not_lt.2 h.2), if_neg (Int.not_lt.2 h.1)]

/-- A negated setting is the negative of a number. -/
theorem toInteger_negated (h : (negated setting).toInteger = .ok n) :
    ∃ k, setting.toInteger = .ok k ∧ n = -k := by
  rw [toInteger] at h
  cases hk : setting.toInteger with
  | error e =>
    rw [hk] at h
    cases h
  | ok k =>
    rw [hk] at h
    cases h
    exact ⟨k, rfl, rfl⟩

end Setting

/-! ## What is read -/

/-- A setting is what tokens say: if it is a whole number, they denote that number, it fits 64 bits,
and no step of working it out overflows. -/
structure IsRead (value : List TokenTree) (setting : Setting) : Prop where
  commaFree : CommaFree value
  exact : ∀ n, setting.toInteger = .ok n → Denotes value n ∧ IntegerType.signed64.Holds n
  words : setting.inWords = some setting.toInteger

/-- A setting is what an expression says, which is not the least number of 64 bits. -/
structure IsExpression (value : List TokenTree) (setting : Setting) : Prop
    extends IsRead value setting where
  above : ∀ n, setting.toInteger = .ok n → IntegerType.signed64.low < n

/-- A setting that is no whole number is what any tokens without a comma may say. -/
theorem Setting.IsNoInteger.isExpression (h : setting.IsNoInteger) (hvalue : CommaFree value) :
    IsExpression value setting where
  commaFree := hvalue
  exact n hn := by
    rw [h.1] at hn
    cases hn
  words := by rw [h.1, h.2]
  above n hn := by
    rw [h.1] at hn
    cases hn

/-- What is passed over in front of a comma holds none. -/
theorem exists_fromComma (here : List TokenTree) :
    ∃ value, here = value ++ fromComma here ∧ CommaFree value := by
  refine ⟨here.takeWhile (!·.isPunct ','), List.takeWhile_append_dropWhile.symm, fun t ht => ?_⟩
  simpa using List.mem_takeWhile_imp ht

/-- Behind a value the expression may go on up to the next comma; then it is no whole number. -/
theorem exists_of_whole (h : whole setting here = (found, rest)) : ∃ value, here = value ++ rest ∧
    CommaFree value ∧ ((value = [] ∧ found = setting) ∨ found = .other) := by
  have hkept : (setting, here) = (found, rest) → ∃ value, here = value ++ rest ∧
      CommaFree value ∧ ((value = [] ∧ found = setting) ∨ found = .other) := by
    rintro ⟨⟩
    exact ⟨[], rfl, commaFree_nil, .inl ⟨rfl, rfl⟩⟩
  have hother : (Setting.other, fromComma here) = (found, rest) → ∃ value, here = value ++ rest ∧
      CommaFree value ∧ ((value = [] ∧ found = setting) ∨ found = .other) := by
    rintro ⟨⟩
    obtain ⟨value, hvalue, hfree⟩ := exists_fromComma here
    exact ⟨value, hvalue, hfree, .inr rfl⟩
  unfold whole at h
  split at h
  · split at h
    · exact hother h
    · exact hkept h
  · exact hkept h
  · exact hother h
  · split at h
    · exact hother h
    · exact hkept h
  · exact hkept h

/-- A value that begins with a name is passed over, and is no whole number. -/
theorem exists_of_readNamed {name : Text} (h : readNamed name here = (found, rest)) :
    ∃ value, here = value ++ rest ∧ CommaFree value ∧ found.IsNoInteger := by
  have hother : (Setting.other, fromComma here) = (found, rest) →
      ∃ value, here = value ++ rest ∧ CommaFree value ∧ found.IsNoInteger := by
    rintro ⟨⟩
    obtain ⟨value, hvalue, hfree⟩ := exists_fromComma here
    exact ⟨value, hvalue, hfree, rfl, rfl⟩
  have hwhole : ∀ {setting}, setting.IsNoInteger → whole setting here = (found, rest) →
      ∃ value, here = value ++ rest ∧ CommaFree value ∧ found.IsNoInteger := by
    intro setting hsetting h
    obtain ⟨value, hvalue, hfree, ⟨-, rfl⟩ | rfl⟩ := exists_of_whole h
    · exact ⟨value, hvalue, hfree, hsetting⟩
    · exact ⟨value, hvalue, hfree, rfl, rfl⟩
  unfold readNamed at h
  split at h
  · exact hwhole ⟨rfl, rfl⟩ h
  · split at h
    · exact hwhole ⟨rfl, rfl⟩ h
    · split at h
      · exact hother h
      · split at h
        · exact hother h
        · exact hwhole ⟨rfl, rfl⟩ h

/-- A literal that writes no whole number is none. -/
theorem isNoInteger_ofText {s : Text} (h : ∀ n, Literal.ofText s ≠ .int n) :
    (Setting.literal (.ofText s)).IsNoInteger := by
  cases hs : Literal.ofText s with
  | int n => exact absurd hs (h n)
  | str | flag | other => exact ⟨rfl, rfl⟩

/-- A literal is read as what it denotes. -/
theorem isExpression_literal (s : Text) : IsExpression [literal s] (.literal (.ofText s)) := by
  have hfree : CommaFree [literal s] := commaFree_cons rfl commaFree_nil
  by_cases hint : ∃ n, Literal.ofText s = .int n
  · obtain ⟨m, hm⟩ := hint
    obtain ⟨k, rfl, hk⟩ := Literal.ofText_eq_int_iff.1 hm
    rw [hm]
    refine ⟨⟨hfree, fun n hn => ?_, rfl⟩, fun n hn => ?_⟩
    · obtain ⟨rfl, hholds⟩ := Setting.fitting_eq_ok hn
      exact ⟨.literal hk, hholds⟩
    · obtain ⟨rfl, -⟩ := Setting.fitting_eq_ok hn
      exact Int.lt_of_lt_of_le (by decide) (Int.natCast_nonneg k)
  · push Not at hint
    exact (isNoInteger_ofText hint).isExpression hfree

/-- The range of 64 bits less its least number is the same for both signs. -/
theorem holds_neg (h : IntegerType.signed64.Holds n) (hlow : IntegerType.signed64.low < n) :
    IntegerType.signed64.Holds (-n) ∧ IntegerType.signed64.low < -n := by
  simp only [IntegerType.Holds, IntegerType.signed64] at *
  omega

/-- A minus sign in front negates what an expression denotes, and the negation fits. -/
theorem IsExpression.negated {joint : Bool} (h : IsExpression value setting) :
    IsExpression (punct '-' joint :: value) (.negated setting) where
  commaFree := commaFree_cons rfl h.commaFree
  exact n hn := by
    obtain ⟨k, hk, rfl⟩ := Setting.toInteger_negated hn
    obtain ⟨hdenotes, hholds⟩ := h.exact k hk
    exact ⟨hdenotes.negated, (holds_neg hholds (h.above k hk)).1⟩
  words := by
    rw [Setting.inWords, Setting.toInteger, h.words]
    cases hk : setting.toInteger with
    | error e => rfl
    | ok k => exact if_pos (holds_neg (h.exact k hk).2 (h.above k hk)).1
  above n hn := by
    obtain ⟨k, hk, rfl⟩ := Setting.toInteger_negated hn
    exact (holds_neg (h.exact k hk).2 (h.above k hk)).2

/-- What is read of an expression is what it says, and the rest follows it. -/
theorem exists_of_readExpression (h : readExpression here = .ok (setting, rest)) :
    ∃ value, here = value ++ rest ∧ IsExpression value setting := by
  induction here using readExpression.induct generalizing setting rest with
  | case1 joint here ih =>
    rw [readExpression] at h
    obtain ⟨⟨inner, behind⟩, hinner, h⟩ := bind_eq_ok.1 h
    cases h
    obtain ⟨value, rfl, hvalue⟩ := ih hinner
    exact ⟨punct '-' joint :: value, rfl, hvalue.negated⟩
  | case2 joint here ih =>
    rw [readExpression] at h
    obtain ⟨⟨inner, behind⟩, hinner, h⟩ := bind_eq_ok.1 h
    cases h
    obtain ⟨value, rfl, hvalue⟩ := ih hinner
    exact ⟨punct '!' joint :: value, rfl,
      Setting.IsNoInteger.isExpression ⟨rfl, rfl⟩ (commaFree_cons rfl hvalue.commaFree)⟩
  | case3 s here =>
    rw [readExpression] at h
    obtain ⟨value, rfl, hfree, ⟨rfl, rfl⟩ | rfl⟩ := exists_of_whole (Except.ok.inj h)
    · exact ⟨[literal s], rfl, isExpression_literal s⟩
    · exact ⟨literal s :: value, rfl,
        Setting.IsNoInteger.isExpression ⟨rfl, rfl⟩ (commaFree_cons rfl hfree)⟩
  | case4 name here =>
    rw [readExpression] at h
    obtain ⟨value, rfl, hfree, hno⟩ := exists_of_readNamed (Except.ok.inj h)
    exact ⟨ident name :: value, rfl, hno.isExpression (commaFree_cons rfl hfree)⟩
  | case5 d inner here =>
    rw [readExpression] at h
    obtain ⟨value, rfl, hfree, ⟨-, rfl⟩ | rfl⟩ := exists_of_whole (Except.ok.inj h)
    · exact ⟨group d inner :: value, rfl,
        Setting.IsNoInteger.isExpression ⟨rfl, rfl⟩ (commaFree_cons rfl hfree)⟩
    · exact ⟨group d inner :: value, rfl,
        Setting.IsNoInteger.isExpression ⟨rfl, rfl⟩ (commaFree_cons rfl hfree)⟩
  | case6 c joint here hminus hnot hmem =>
    obtain ⟨value, hvalue, hfree⟩ := exists_fromComma (punct c joint :: here)
    rw [readExpression, if_pos hmem] at h
    · cases h
      exact ⟨value, hvalue, Setting.IsNoInteger.isExpression ⟨rfl, rfl⟩ hfree⟩
    · exact hminus
    · exact hnot
  | case7 c joint here hminus hnot hmem =>
    rw [readExpression, if_neg hmem] at h
    · cases h
    · exact hminus
    · exact hnot
  | case8 => cases h

/-- A value is read as what it denotes. -/
theorem exists_of_readValue (h : readValue here = .ok (setting, rest)) :
    ∃ value, here = value ++ rest ∧ IsRead value setting := by
  have hexpression : readExpression here = .ok (setting, rest) →
      ∃ value, here = value ++ rest ∧ IsRead value setting := by
    intro h
    obtain ⟨value, hvalue, hread⟩ := exists_of_readExpression h
    exact ⟨value, hvalue, hread.toIsRead⟩
  unfold readValue at h
  split at h
  · next joint s =>
    split at h
    · next m hm =>
      cases h
      obtain ⟨k, rfl, hk⟩ := Literal.ofText_eq_int_iff.1 hm
      refine ⟨[punct '-' joint, literal s], rfl, ?_, fun n hn => ?_, rfl⟩
      · exact commaFree_cons rfl (commaFree_cons rfl commaFree_nil)
      · obtain ⟨rfl, hholds⟩ := Setting.fitting_eq_ok hn
        exact ⟨.negated (.literal hk), hholds⟩
    · exact hexpression h
  · cases h
  · exact hexpression h

/-! ## Pairs -/

/-- Names that were read are at least one. -/
theorem readNames_ne_nil {names : List Text} (h : readNames here = .ok (names, rest)) :
    names ≠ [] := by
  rw [readNames.eq_def] at h
  split at h
  · split at h
    · obtain ⟨⟨names', rest'⟩, -, h⟩ := bind_eq_ok.1 h
      cases h
      exact List.cons_ne_nil _ _
    · cases h
  · cases h
    exact List.cons_ne_nil _ _
  · cases h

/-- A single name is read from a single word. -/
theorem eq_cons_of_readNames (h : readNames here = .ok ([key], rest)) :
    here = ident key :: rest := by
  rw [readNames.eq_def] at h
  split at h
  · split at h
    · obtain ⟨⟨names, rest'⟩, hnames, h⟩ := bind_eq_ok.1 h
      cases h
      exact absurd rfl (readNames_ne_nil hnames)
    · cases h
  · cases h
    rfl
  · cases h

/-- A key that is a name on its own is one token. -/
theorem eq_cons_of_readKey (h : readKey here = .ok (some key, rest)) :
    here = ident key :: rest := by
  unfold readKey at h
  split at h
  · obtain ⟨read, -, h⟩ := bind_eq_ok.1 h
    cases h
  · obtain ⟨⟨names, rest'⟩, hpath, h⟩ := bind_eq_ok.1 h
    dsimp only at h
    split at h
    · cases h
      unfold readPath at hpath
      split at hpath
      · exact eq_cons_of_readNames hpath
      · cases hpath
    · cases h

/-- The value of a pair is read as what it denotes; it stands behind the key and an equals sign. -/
theorem exists_of_readPair (h : readPair here = .ok (pair, rest)) : ∃ joint value,
    IsRead value pair.value ∧
      ∀ key, pair.key = some key → here = ident key :: punct '=' joint :: (value ++ rest) := by
  obtain ⟨⟨key, behind⟩, hkey, h⟩ := bind_eq_ok.1 h
  dsimp only at h
  split at h
  · next joint behind =>
    obtain ⟨⟨setting, rest'⟩, hvalue, h⟩ := bind_eq_ok.1 h
    cases h
    obtain ⟨value, rfl, hread⟩ := exists_of_readValue hvalue
    refine ⟨joint, value, hread, ?_⟩
    rintro key rfl
    exact eq_cons_of_readKey hkey
  · cases h

/-- A pair is an entry of a list of options: it has the key, and is read from the value. -/
def IsEntry (pair : Pair) (entry : Text × List TokenTree) : Prop :=
  pair.key = some entry.1 ∧ IsRead entry.2 pair.value

/-- No pair overflows when it is worked out. -/
theorem inWords_of_readPairs {limit : Nat} {pairs : List Pair}
    (h : readPairs limit tokens = .ok pairs) :
    ∀ pair ∈ pairs, pair.value.inWords = some pair.value.toInteger := by
  induction limit generalizing tokens pairs with
  | zero => cases tokens <;> cases h <;> exact fun _ h => nomatch h
  | succ limit ih =>
    cases tokens with
    | nil =>
      cases h
      exact fun _ h => nomatch h
    | cons t tokens =>
      rw [readPairs] at h
      · obtain ⟨⟨pair, rest⟩, hpair, h⟩ := bind_eq_ok.1 h
        obtain ⟨joint, value, hread, -⟩ := exists_of_readPair hpair
        dsimp only at h
        split at h
        · cases h
          exact List.forall_mem_singleton.2 hread.words
        · obtain ⟨pairs, hpairs, h⟩ := bind_eq_ok.1 h
          cases h
          exact List.forall_mem_cons.2 ⟨hread.words, ih hpairs⟩
        · cases h
      · exact List.cons_ne_nil _ _

/-- If all keys are names on their own, the pairs are those that are listed. -/
theorem exists_of_readPairs {limit : Nat} {pairs : List Pair}
    (h : readPairs limit tokens = .ok pairs) (hlimit : tokens.length ≤ limit)
    (hkeys : ∀ pair ∈ pairs, pair.key.isSome) :
    ∃ entries, Lists tokens entries ∧ List.Forall₂ IsEntry pairs entries := by
  induction limit generalizing tokens pairs with
  | zero =>
    cases List.eq_nil_of_length_eq_zero (Nat.le_zero.1 hlimit)
    cases h
    exact ⟨[], .nil, .nil⟩
  | succ limit ih =>
    cases tokens with
    | nil =>
      cases h
      exact ⟨[], .nil, .nil⟩
    | cons t tokens =>
      rw [readPairs] at h
      · obtain ⟨⟨pair, rest⟩, hpair, h⟩ := bind_eq_ok.1 h
        obtain ⟨joint, value, hread, hhere⟩ := exists_of_readPair hpair
        dsimp only at h
        split at h
        · cases h
          obtain ⟨key, hkey⟩ := Option.isSome_iff_exists.1 (hkeys _ (.head _))
          rw [hhere key hkey, List.append_nil]
          exact ⟨[(key, value)], .last hread.commaFree, .cons ⟨hkey, hread⟩ .nil⟩
        · next joint' rest =>
          obtain ⟨pairs, hpairs, h⟩ := bind_eq_ok.1 h
          cases h
          obtain ⟨key, hkey⟩ := Option.isSome_iff_exists.1 (hkeys _ (.head _))
          have htokens := hhere key hkey
          have hrest : rest.length ≤ limit := by
            rw [htokens] at hlimit
            simp only [List.length_cons, List.length_append] at hlimit
            omega
          obtain ⟨entries, hlists, hentries⟩ := ih hpairs hrest fun p hp => hkeys p (.tail _ hp)
          rw [htokens]
          exact ⟨(key, value) :: entries, .cons hread.commaFree hlists,
            .cons ⟨hkey, hread⟩ hentries⟩
        · cases h
      · exact List.cons_ne_nil _ _

end MakeHost.Wrapper
