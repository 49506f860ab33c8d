import MakeHost.Proofs.OptionLists

/-!
# Whole numbers as options

The bounds that options give for the number of arguments are whole numbers of 64 bits.
`integer_options_exact` says that they are the numbers which the values given last denote, that
numbers which do not fit are errors, and that working them out does not overflow. Options that are
well-formed are accepted.
-/

namespace MakeHost.Wrapper

open TokenTree

variable {here rest value tokens : List TokenTree} {entries : List (Text × List TokenTree)}
  {setting : Setting} {key : Text} {pair : Pair} {n : Int} {options next : FunctionOptions}

/-! ## What options say -/

/-- Options hold the numbers that two values denote, and none for an absent value. -/
def BoundsFrom (least most : Option (List TokenTree)) (options : FunctionOptions) : Prop :=
  Option.Rel Denotes least options.minArgs ∧ Option.Rel Denotes most options.maxArgs

/-- The value that is given last for a key. -/
def lastValue (key : String) (entries : List (Text × List TokenTree)) : Option (List TokenTree) :=
  entries.reverse.lookup key.toList

/-- The keys that take whole numbers. -/
def integerKeys : List Text := ["min_args", "max_args"].map String.toList

/-- A key that is not empty was written. -/
theorem eq_some_of_getD {key' : Option Text} (h : key'.getD [] = key) (hne : key ≠ []) :
    key' = some key := by
  cases key' with
  | none => exact absurd h.symm hne
  | some key' => exact congrArg some h

/-- What a pair adds: a text, a flag or a number. -/
theorem FunctionOptions.add_cases (h : add options pair = .ok next) : ∃ key, pair.key = some key ∧
    ((key = "name".toList ∧ ∃ s, next = { options with name := some s }) ∨
      (key = "expand".toList ∧ ∃ b, next = { options with expand := some b }) ∨
      (key = "min_args".toList ∧
        ∃ n, pair.value.toInteger = .ok n ∧ next = { options with minArgs := some n }) ∨
      (key = "max_args".toList ∧
        ∃ n, pair.value.toInteger = .ok n ∧ next = { options with maxArgs := some n })) := by
  unfold add at h
  dsimp only at h
  split at h
  · next hkey =>
    obtain ⟨s, -, h⟩ := bind_eq_ok.1 h
    cases h
    exact ⟨_, eq_some_of_getD hkey (by decide), .inl ⟨rfl, s, rfl⟩⟩
  · split at h
    · next hkey =>
      obtain ⟨b, -, h⟩ := bind_eq_ok.1 h
      cases h
      exact ⟨_, eq_some_of_getD hkey (by decide), .inr (.inl ⟨rfl, b, rfl⟩)⟩
    · split at h
      · next hkey =>
        obtain ⟨n, hn, h⟩ := bind_eq_ok.1 h
        cases h
        exact ⟨_, eq_some_of_getD hkey (by decide), .inr (.inr (.inl ⟨rfl, n, hn, rfl⟩))⟩
      · split at h
        · next hkey =>
          obtain ⟨n, hn, h⟩ := bind_eq_ok.1 h
          cases h
          exact ⟨_, eq_some_of_getD hkey (by decide), .inr (.inr (.inr ⟨rfl, n, hn, rfl⟩))⟩
        · cases h

/-- A bound that was accepted has a whole number of 64 bits as its value. -/
theorem FunctionOptions.exists_integer_of_add (h : add options pair = .ok next)
    (hkey : pair.key = some key) (hinteger : key ∈ integerKeys) :
    ∃ n, pair.value.toInteger = .ok n := by
  obtain ⟨key', hkey', hcases⟩ := add_cases h
  cases hkey.symm.trans hkey'
  rcases hcases with ⟨rfl, -⟩ | ⟨rfl, -⟩ | ⟨-, n, hn, -⟩ | ⟨-, n, hn, -⟩
  · exact absurd hinteger (by decide)
  · exact absurd hinteger (by decide)
  · exact ⟨n, hn⟩
  · exact ⟨n, hn⟩

/-- A pair replaces what its key held. -/
theorem BoundsFrom.add {least most : Option (List TokenTree)} {entry : Text × List TokenTree}
    (h : BoundsFrom least most options) (hentry : IsEntry pair entry)
    (hadd : FunctionOptions.add options pair = .ok next) :
    BoundsFrom ((lastValue "min_args" [entry]).or least) ((lastValue "max_args" [entry]).or most)
      next := by
  obtain ⟨key, value⟩ := entry
  obtain ⟨key', hkey, hcases⟩ := FunctionOptions.add_cases hadd
  cases hentry.1.symm.trans hkey
  rcases hcases with ⟨rfl, s, rfl⟩ | ⟨rfl, b, rfl⟩ | ⟨rfl, n, hn, rfl⟩ | ⟨rfl, n, hn, rfl⟩
  · exact h
  · exact h
  · exact ⟨.some (hentry.2.exact n hn).1, h.2⟩
  · exact ⟨h.1, .some (hentry.2.exact n hn).1⟩

/-- A value that is given later wins. -/
theorem lastValue_cons {key : String} {value : Option (List TokenTree)}
    (entry : Text × List TokenTree) (entries : List (Text × List TokenTree)) :
    (lastValue key (entry :: entries)).or value =
      (lastValue key entries).or ((lastValue key [entry]).or value) := by
  rw [lastValue, List.reverse_cons, List.lookup_append, Option.or_assoc]
  rfl

/-- Adding pairs one after the other leaves what was given last. -/
theorem boundsFrom_of_foldlM {least most : Option (List TokenTree)} {pairs : List Pair}
    (h : BoundsFrom least most options) (hentries : List.Forall₂ IsEntry pairs entries)
    (hadd : pairs.foldlM FunctionOptions.add options = .ok next) :
    BoundsFrom ((lastValue "min_args" entries).or least) ((lastValue "max_args" entries).or most)
      next := by
  induction hentries generalizing least most options with
  | nil =>
    cases hadd
    exact h
  | @cons pair entry pairs entries hentry _ ih =>
    rw [List.foldlM_cons] at hadd
    obtain ⟨between, hfirst, hadd⟩ := bind_eq_ok.1 hadd
    rw [lastValue_cons entry entries, lastValue_cons entry entries]
    exact ih (h.add hentry hfirst) hadd

/-- Each entry of the options was read as a pair. -/
theorem exists_pair_of_mem {pairs : List Pair} {entry : Text × List TokenTree}
    (h : List.Forall₂ IsEntry pairs entries) (hentry : entry ∈ entries) :
    ∃ pair ∈ pairs, IsEntry pair entry := by
  induction h with
  | nil => cases hentry
  | cons hfirst _ ih =>
    rcases List.mem_cons.1 hentry with rfl | hentry
    · exact ⟨_, .head _, hfirst⟩
    · obtain ⟨pair, hpair, hread⟩ := ih hentry
      exact ⟨pair, .tail _ hpair, hread⟩

/-- Pairs are added only if each of them can be. -/
theorem exists_add_of_foldlM {pairs : List Pair}
    (h : pairs.foldlM FunctionOptions.add options = .ok next) (hpair : pair ∈ pairs) :
    ∃ before after, FunctionOptions.add before pair = .ok after := by
  induction pairs generalizing options with
  | nil => cases hpair
  | cons first pairs ih =>
    rw [List.foldlM_cons] at h
    obtain ⟨between, hfirst, h⟩ := bind_eq_ok.1 h
    rcases List.mem_cons.1 hpair with rfl | hpair
    · exact ⟨options, between, hfirst⟩
    · exact ih h hpair

/-- Options that are read are listed; they hold the numbers given last, and every number fits. -/
theorem exists_of_ofTokens (h : FunctionOptions.ofTokens tokens = .ok options) : ∃ entries,
    Lists tokens entries ∧
      BoundsFrom (lastValue "min_args" entries) (lastValue "max_args" entries) options ∧
      ∀ entry ∈ entries, entry.1 ∈ integerKeys →
        ∃ n, Denotes entry.2 n ∧ IntegerType.signed64.Holds n := by
  obtain ⟨pairs, hpairs, h⟩ := bind_eq_ok.1 h
  have hkeys : ∀ pair ∈ pairs, pair.key.isSome := by
    intro pair hpair
    obtain ⟨before, after, hadd⟩ := exists_add_of_foldlM h hpair
    obtain ⟨key, hkey, -⟩ := FunctionOptions.add_cases hadd
    rw [hkey]
    rfl
  obtain ⟨entries, hlists, hentries⟩ := exists_of_readPairs hpairs (Nat.le_refl _) hkeys
  have hnone : BoundsFrom none none FunctionOptions.none := ⟨.none, .none⟩
  have hbounds := boundsFrom_of_foldlM hnone hentries h
  rw [Option.or_none, Option.or_none] at hbounds
  refine ⟨entries, hlists, hbounds, fun entry hmem hinteger => ?_⟩
  obtain ⟨pair, hpair, hentry⟩ := exists_pair_of_mem hentries hmem
  obtain ⟨before, after, hadd⟩ := exists_add_of_foldlM h hpair
  obtain ⟨n, hn⟩ := FunctionOptions.exists_integer_of_add hadd hentry.1 hinteger
  exact ⟨n, hentry.2.exact n hn⟩

/-! ## What is accepted -/

/-- An option is well-formed: a string for the name, a truth value, or a whole number for the two
keys that take one, which fits 64 bits and is not the least number of these. -/
inductive IsWellFormed : Text × List TokenTree → Prop
  | name {s t : Text} (h : Literal.ofText s = .str t) : IsWellFormed ("name".toList, [literal s])
  | expand {word : Text} (h : word ∈ ["true".toList, "false".toList]) :
      IsWellFormed ("expand".toList, [ident word])
  | integer {key : Text} {value : List TokenTree} {n : Int} (hkey : key ∈ integerKeys)
      (hvalue : Denotes value n) (hlow : IntegerType.signed64.low < n)
      (hhigh : n ≤ IntegerType.signed64.high) : IsWellFormed (key, value)

/-- Where a value ends, its expression does not go on. -/
theorem whole_of_endsValue (h : EndsValue rest) : whole setting rest = (setting, rest) := by
  cases rest with
  | nil => rfl
  | cons t rest =>
    have ht := h t rfl
    cases t with
    | punct c joint =>
      obtain rfl : c = ',' := by simpa [isPunct] using ht
      rfl
    | ident | literal | group => cases ht

/-- A value that denotes a number is read up to its end, and as that number if it fits. -/
theorem readExpression_of_denotes (h : Denotes value n) (hrest : EndsValue rest) :
    ∃ setting, readExpression (value ++ rest) = .ok (setting, rest) ∧
      (IntegerType.signed64.low < n → n ≤ IntegerType.signed64.high →
        setting.toInteger = .ok n) := by
  induction h with
  | @literal s n hn =>
    refine ⟨.literal (.int n), ?_, fun hlow hhigh => ?_⟩
    · rw [List.singleton_append, readExpression, whole_of_endsValue hrest,
        Literal.ofText_eq_int_iff.2 ⟨n, rfl, hn⟩]
    · exact Setting.fitting_of_holds ⟨Int.le_of_lt hlow, hhigh⟩
  | @negated joint tokens n _ ih =>
    obtain ⟨setting, hread, hvalue⟩ := ih
    refine ⟨.negated setting, ?_, fun hlow hhigh => ?_⟩
    · rw [List.cons_append, readExpression, hread]
      rfl
    · have hn : IntegerType.signed64.low < n ∧ n ≤ IntegerType.signed64.high := by
        simp only [IntegerType.signed64] at *
        omega
      rw [Setting.toInteger, hvalue hn.1 hn.2]
      rfl

/-- A value that denotes a number which fits is read as that number. -/
theorem readValue_of_denotes (h : Denotes value n) (hrest : EndsValue rest)
    (hlow : IntegerType.signed64.low < n) (hhigh : n ≤ IntegerType.signed64.high) :
    ∃ setting, readValue (value ++ rest) = .ok (setting, rest) ∧ setting.toInteger = .ok n := by
  obtain ⟨setting, hread, hvalue⟩ := readExpression_of_denotes h hrest
  have hexpression : readValue (value ++ rest) = readExpression (value ++ rest) →
      ∃ setting, readValue (value ++ rest) = .ok (setting, rest) ∧ setting.toInteger = .ok n :=
    fun heq => ⟨setting, heq.trans hread, hvalue hlow hhigh⟩
  cases h with
  | literal hn => exact hexpression rfl
  | negated h =>
    cases h with
    | negated h => exact hexpression rfl
    | @literal s n hn =>
      cases rest with
      | cons t rest => exact hexpression rfl
      | nil =>
        refine ⟨.literal (.int (-n)), ?_, Setting.fitting_of_holds ⟨Int.le_of_lt hlow, hhigh⟩⟩
        show readValue [punct '-' _, literal s] = _
        rw [readValue, Literal.ofText_eq_int_iff.2 ⟨n, rfl, hn⟩]

/-- A plain word in front of an equals sign is read as a key. -/
theorem readKey_ident {joint : Bool} (h : isPathName key = true) :
    readKey (ident key :: punct '=' joint :: here) = .ok (some key, punct '=' joint :: here) := by
  have hpath : readPath (ident key :: punct '=' joint :: here) =
      .ok ([key], punct '=' joint :: here) := by
    rw [readPath, startsName, if_pos h]
    rfl
  show (readPath (ident key :: punct '=' joint :: here) >>= _) = _
  rw [hpath]
  rfl

/-- A bound with a number that fits is accepted. -/
theorem FunctionOptions.exists_add_integer (hkey : key ∈ integerKeys)
    (hn : setting.toInteger = .ok n) : ∃ next, add options ⟨some key, setting⟩ = .ok next := by
  have hkeys : key = "min_args".toList ∨ key = "max_args".toList := by
    simpa [integerKeys] using hkey
  rcases hkeys with rfl | rfl
  · refine ⟨{ options with minArgs := some n }, ?_⟩
    show (setting.toInteger >>= fun n => pure { options with minArgs := some n }) = _
    rw [hn]
    rfl
  · refine ⟨{ options with maxArgs := some n }, ?_⟩
    show (setting.toInteger >>= fun n => pure { options with maxArgs := some n }) = _
    rw [hn]
    rfl

/-- Well-formed options are read up to the comma behind them, and can be added. -/
theorem IsWellFormed.exists_readPair (h : IsWellFormed (key, value)) (joint : Bool)
    (hrest : EndsValue rest) : ∃ pair,
      readPair (ident key :: punct '=' joint :: (value ++ rest)) = .ok (pair, rest) ∧
        ∀ options, ∃ next, FunctionOptions.add options pair = .ok next := by
  have hread : ∀ {key value} (setting : Setting), isPathName key = true →
      readValue (value ++ rest) = .ok (setting, rest) →
      readPair (ident key :: punct '=' joint :: (value ++ rest)) =
        .ok (⟨some key, setting⟩, rest) := by
    intro key value setting hkey hvalue
    rw [readPair, readKey_ident hkey]
    show (readValue (value ++ rest) >>= _) = _
    rw [hvalue]
    rfl
  cases h with
  | @name s t hs =>
    refine ⟨_, hread (.literal (.str t)) (by decide) ?_, fun options => ⟨_, rfl⟩⟩
    show readExpression (literal s :: rest) = _
    rw [readExpression, whole_of_endsValue hrest, hs]
  | @expand word hword =>
    have hnamed : ∃ b, readNamed word rest = (.literal (.flag b), rest) := by
      simp only [List.mem_cons, List.not_mem_nil, or_false] at hword
      rcases hword with rfl | rfl
      · exact ⟨true, whole_of_endsValue hrest⟩
      · exact ⟨false, whole_of_endsValue hrest⟩
    obtain ⟨b, hb⟩ := hnamed
    refine ⟨_, hread (.literal (.flag b)) (by decide) ?_, fun options => ⟨_, rfl⟩⟩
    exact congrArg Except.ok hb
  | integer hkey hvalue hlow hhigh =>
    have hpath : ∀ key ∈ integerKeys, isPathName key = true := by decide
    obtain ⟨setting, hsetting, hn⟩ := readValue_of_denotes hvalue hrest hlow hhigh
    exact ⟨_, hread setting (hpath _ hkey) hsetting, fun options =>
      FunctionOptions.exists_add_integer hkey hn⟩

/-- Well-formed options are read, and every one of them is accepted. -/
theorem exists_readPairs {limit : Nat} (h : Lists tokens entries) (hlimit : tokens.length ≤ limit)
    (hentries : ∀ entry ∈ entries, IsWellFormed entry) : ∃ pairs,
      readPairs limit tokens = .ok pairs ∧
        ∀ pair ∈ pairs, ∀ options, ∃ next, FunctionOptions.add options pair = .ok next := by
  induction h generalizing limit with
  | nil =>
    refine ⟨[], ?_, fun _ h => nomatch h⟩
    cases limit <;> rfl
  | @last key joint value =>
    obtain ⟨limit, rfl⟩ := Nat.exists_eq_succ_of_ne_zero (Nat.ne_zero_of_lt hlimit)
    obtain ⟨pair, hread, hadd⟩ := (hentries _ (.head _)).exists_readPair joint endsValue_nil
    rw [List.append_nil] at hread
    refine ⟨[pair], ?_, List.forall_mem_singleton.2 hadd⟩
    rw [readPairs, hread]
    · rfl
    · exact List.cons_ne_nil _ _
  | @cons key joint joint' value rest entries _ _ ih =>
    obtain ⟨limit, rfl⟩ := Nat.exists_eq_succ_of_ne_zero (Nat.ne_zero_of_lt hlimit)
    have hrest : rest.length ≤ limit := by
      simp only [List.length_cons, List.length_append] at hlimit
      omega
    obtain ⟨pair, hread, hadd⟩ :=
      (hentries _ (.head _)).exists_readPair joint (endsValue_comma joint')
    obtain ⟨pairs, hpairs, hall⟩ := ih hrest fun entry h => hentries entry (.tail _ h)
    refine ⟨pair :: pairs, ?_, List.forall_mem_cons.2 ⟨hadd, hall⟩⟩
    rw [readPairs, hread]
    · show (readPairs limit rest >>= fun ps => pure (pair :: ps)) = _
      rw [hpairs]
      rfl
    · exact List.cons_ne_nil _ _

/-- If each pair can be added to any options, all of them can be. -/
theorem FunctionOptions.exists_foldlM {pairs : List Pair}
    (h : ∀ pair ∈ pairs, ∀ options, ∃ next, add options pair = .ok next)
    (options : FunctionOptions) : ∃ next, pairs.foldlM add options = .ok next := by
  induction pairs generalizing options with
  | nil => exact ⟨options, rfl⟩
  | cons pair pairs ih =>
    obtain ⟨between, hbetween⟩ := h pair (.head _) options
    obtain ⟨next, hnext⟩ := ih (fun p hp => h p (.tail _ hp)) between
    refine ⟨next, ?_⟩
    rw [List.foldlM_cons, hbetween]
    exact hnext

/-- Well-formed options are accepted. -/
theorem FunctionOptions.exists_ofTokens (h : Lists tokens entries)
    (hentries : ∀ entry ∈ entries, IsWellFormed entry) :
    ∃ options, ofTokens tokens = .ok options := by
  obtain ⟨ps, hps, hadd⟩ := exists_readPairs h (Nat.le_refl _) hentries
  obtain ⟨options, hoptions⟩ := exists_foldlM hadd none
  exact ⟨options, by rw [ofTokens, pairs, hps]; exact hoptions⟩

/-- **Whole numbers in options are exact.** If options are accepted, the tokens are one list of
options, and the bounds are the numbers that the values given last denote. Wherever a number is
given that does not fit 64 bits, there is an error. No step of working out a value overflows.
Well-formed options are accepted. -/
theorem integer_options_exact (tokens : List TokenTree) :
    (∀ options, FunctionOptions.ofTokens tokens = .ok options → ∃ entries,
      (∀ entries', Lists tokens entries' ↔ entries' = entries) ∧
        BoundsFrom (lastValue "min_args" entries) (lastValue "max_args" entries) options) ∧
    (∀ entries key value n, Lists tokens entries → (key, value) ∈ entries → key ∈ integerKeys →
      Denotes value n → ¬ IntegerType.signed64.Holds n →
        ∃ e, FunctionOptions.ofTokens tokens = .error e) ∧
    (∀ ps, pairs tokens = .ok ps → ∀ p ∈ ps, p.value.inWords = some p.value.toInteger) ∧
    (∀ entries, Lists tokens entries → (∀ entry ∈ entries, IsWellFormed entry) →
      ∃ options, FunctionOptions.ofTokens tokens = .ok options) := by
  refine ⟨?_, ?_, fun ps h => inWords_of_readPairs h, fun entries h hentries =>
    FunctionOptions.exists_ofTokens h hentries⟩
  · intro options h
    obtain ⟨entries, hlists, hbounds, -⟩ := exists_of_ofTokens h
    exact ⟨entries, fun entries' => ⟨fun h => h.unique hlists, fun h => h ▸ hlists⟩, hbounds⟩
  · intro entries key value n hlists hmem hkey hdenotes hrange
    cases h : FunctionOptions.ofTokens tokens with
    | error e => exact ⟨e, rfl⟩
    | ok options =>
      obtain ⟨entries', hlists', -, hfit⟩ := exists_of_ofTokens h
      cases hlists.unique hlists'
      obtain ⟨m, hm, hholds⟩ := hfit _ hmem hkey
      rw [hdenotes.unique hm] at hrange
      exact absurd hholds hrange

/-- A number with two signs, a mark and a suffix, and at the end the least number. -/
def leastOptions : List TokenTree :=
  [ident "min_args", punct '=' true, punct '-' true, punct '-' false, literal "0x1_0u8",
    punct ',' false, ident "max_args", punct '=' true, punct '-' false,
    literal "9223372036854775808"]

/-- The negation of the least number, with a value behind it. -/
def greaterOptions : List TokenTree :=
  [ident "max_args", punct '=' true, punct '-' true, punct '-' false,
    literal "9223372036854775808", punct ',' false, ident "max_args", punct '=' false, literal "1"]

/-- The first are accepted as they were given, and the second are an error. -/
theorem integer_options_exact_least :
    (∃ options entries, FunctionOptions.ofTokens leastOptions = .ok options ∧
      Lists leastOptions entries ∧ options.minArgs = some 16 ∧
        options.maxArgs = some (-9223372036854775808) ∧
        BoundsFrom (lastValue "min_args" entries) (lastValue "max_args" entries) options) ∧
    ∃ e, FunctionOptions.ofTokens greaterOptions = .error e := by
  constructor
  · have hread : FunctionOptions.ofTokens leastOptions =
        .ok ⟨none, none, some 16, some (-9223372036854775808)⟩ := rfl
    obtain ⟨entries, hentries, hbounds⟩ := (integer_options_exact leastOptions).1 _ hread
    exact ⟨_, entries, hread, (hentries entries).2 rfl, rfl, rfl, hbounds⟩
  · have hwrites : Literal.ofText "9223372036854775808" = .int (9223372036854775808 : Nat) := rfl
    obtain ⟨n, hn, hwrites⟩ := Literal.ofText_eq_int_iff.1 hwrites
    have hdenotes : Denotes [punct '-' true, punct '-' false, literal "9223372036854775808"]
        (- - (n : Int)) := .negated (.negated (.literal hwrites))
    have hvalue : CommaFree [punct '-' true, punct '-' false, literal "9223372036854775808"] := by
      simp [CommaFree, isPunct]
    have hlast : Lists [ident "max_args", punct '=' false, literal "1"]
        [("max_args", [literal "1"])] := .last (by simp [CommaFree, isPunct])
    have hlists : Lists greaterOptions [("max_args", _), ("max_args", [literal "1"])] :=
      .cons hvalue hlast
    refine (integer_options_exact greaterOptions).2.1 _ "max_args" _ _ hlists (.head _) ?_
      hdenotes ?_
    · decide
    · rw [← hn]
      decide

end MakeHost.Wrapper
