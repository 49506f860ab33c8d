import MakeHost.Proofs.WrittenNames

/-!
# Names of structures

The structure of a function is called as the function is, without underscores and with capitals for
the words between them. What is left of a function's name need not be a name: `struct_named_iff`
says for which functions it is, and so for which ones code is generated, and for which of these the
name is a keyword.
-/

namespace MakeHost.Wrapper

variable {c d : Char} {s name : Text}

/-! ## Capitals -/

/-- The letters that have a capital in a structure's name. -/
def smallLetters : Text := "abcdefghijklmnopqrstuvwxyz"

/-- Only small letters have another capital. -/
theorem toUpper_cases (c : Char) : c.toUpper = c ∨ c ∈ smallLetters := by
  have hletters : ∀ n < 123, 97 ≤ n → Char.ofNat n ∈ smallLetters := by decide
  unfold Char.toUpper
  split
  · next h =>
    refine .inr ?_
    rw [← Char.ofNat_toNat c]
    exact hletters c.toNat (Nat.lt_succ_of_le h.2) h.1
  · exact .inl rfl

/-- Taking its capital leaves whether a character begins a name. -/
theorem isIdentifierStart_toUpper (c : Char) :
    Text.isIdentifierStart c.toUpper = Text.isIdentifierStart c := by
  have hletters : ∀ c ∈ smallLetters, Text.isIdentifierStart c.toUpper = true ∧
      Text.isIdentifierStart c = true := by decide +kernel
  rcases toUpper_cases c with h | h
  · rw [h]
  · rw [(hletters c h).1, (hletters c h).2]

/-- The capital of a character in a name may stand in one. -/
theorem isIdentifierContinue_toUpper (h : Text.isIdentifierContinue c = true) :
    Text.isIdentifierContinue c.toUpper = true := by
  have hletters : ∀ c ∈ smallLetters, Text.isIdentifierContinue c.toUpper = true := by
    decide +kernel
  rcases toUpper_cases c with hc | hc
  · rwa [hc]
  · exact hletters c hc

/-- No capital is a small letter. -/
theorem toUpper_notMem (c : Char) : c.toUpper ∉ smallLetters := by
  have hletters : ∀ c ∈ smallLetters, c.toUpper ∉ smallLetters := by decide
  rcases toUpper_cases c with hc | hc
  · intro h
    exact hletters c (hc ▸ h) h
  · exact hletters c hc

/-- Only the letter `s` has the capital `S`. -/
theorem eq_of_toUpper_eq_s (h : c.toUpper = 'S') : c = 's' ∨ c = 'S' := by
  have hletters : ∀ c ∈ smallLetters, c.toUpper = 'S' → c = 's' := by decide
  rcases toUpper_cases c with hc | hc
  · exact .inr (hc.symm.trans h)
  · exact .inl (hletters c hc h)

/-! ## What is left of a name -/

/-- A name loses the underscores in front, and the letter behind them becomes a capital. -/
theorem pascalCase_eq (name : Text) : pascalCase name =
    match name.dropWhile (· = '_') with
    | [] => []
    | c :: s => c.toUpper :: pascalFrom false s := by
  induction name with
  | nil => rfl
  | cons c name ih =>
    by_cases hc : c = '_'
    · subst hc
      rw [List.dropWhile_cons_of_pos (by simp), ← ih, pascalCase, pascalFrom, if_pos rfl]
      rfl
    · rw [List.dropWhile_cons_of_neg (by simpa using hc), pascalCase, pascalFrom, if_neg hc]
      rfl

/-- What is left are name characters. -/
theorem isIdentifierContinue_of_mem_pascalFrom {capital : Bool}
    (h : ∀ c ∈ s, Text.isIdentifierContinue c = true) (hd : d ∈ pascalFrom capital s) :
    Text.isIdentifierContinue d = true := by
  induction s generalizing capital with
  | nil => cases hd
  | cons c s ih =>
    have hrest : ∀ c ∈ s, Text.isIdentifierContinue c = true := fun c hc => h c (.tail _ hc)
    rw [pascalFrom] at hd
    split at hd
    · exact ih hrest hd
    · rcases List.mem_cons.1 hd with rfl | hd
      · split
        · exact isIdentifierContinue_toUpper (h c (.head _))
        · exact h c (.head _)
      · exact ih hrest hd

/-- A function's name opens as a name without its underscores in front does. -/
def OpensName (function : Text) : Prop :=
  '#' ∉ function ∧ ∃ c ∈ (function.dropWhile (· = '_')).head?, Text.isIdentifierStart c = true

/-- What is left of a name is one if its first character that is no underscore can begin one. -/
theorem isName_pascalCase_iff (hname : isName name = true) : isName (pascalCase name) = true ↔
    ∃ c ∈ (name.dropWhile (· = '_')).head?, Text.isIdentifierStart c = true := by
  rw [pascalCase_eq]
  cases hdrop : name.dropWhile (· = '_') with
  | nil => simp [isName]
  | cons c s =>
    have hcontinue : ∀ d ∈ s, Text.isIdentifierContinue d = true := by
      intro d hd
      cases name with
      | nil => cases hdrop
      | cons e name =>
        simp only [isName, Bool.and_eq_true, List.all_eq_true] at hname
        have hsuffix : s <:+ name := by
          rw [List.dropWhile_cons] at hdrop
          split at hdrop
          · exact (List.suffix_cons c s).trans (hdrop ▸ List.dropWhile_suffix _)
          · cases hdrop
            exact List.suffix_rfl
        exact hname.2 d (hsuffix.subset hd)
    simp only [isName, isIdentifierStart_toUpper, Bool.and_eq_true, List.all_eq_true,
      List.head?_cons, Option.mem_some_iff, exists_eq_left']
    refine ⟨fun h => h.1, fun h => ⟨h, fun d hd => ?_⟩⟩
    exact isIdentifierContinue_of_mem_pascalFrom hcontinue hd

/-- A name has no number sign. -/
theorem number_sign_notMem (hname : isName name = true) : '#' ∉ name := by
  have hstart : Text.isIdentifierStart '#' = false := by decide +kernel
  have hcontinue : Text.isIdentifierContinue '#' = false := by decide +kernel
  cases name with
  | nil => simp
  | cons c s =>
    simp only [isName, Bool.and_eq_true, List.all_eq_true] at hname
    intro h
    rcases List.mem_cons.1 h with rfl | h
    · rw [hstart] at hname
      exact Bool.noConfusion hname.1
    · have hname := hname.2 _ h
      rw [hcontinue] at hname
      cases hname

/-- What is left of a name in code is a name if and only if it opens as one. The mark of a raw name
is left of it, and no name has one. -/
theorem isName_pascalCase_iff_opens (h : IsWritten name) :
    isName (pascalCase name) = true ↔ OpensName name := by
  cases h with
  | plain hname =>
    rw [isName_pascalCase_iff hname, OpensName, and_iff_right (number_sign_notMem hname)]
  | @raw word hword =>
    have hleft : '#' ∈ pascalCase ('r' :: '#' :: word) := .tail _ (.head _)
    have hmark : '#' ∈ 'r' :: '#' :: word := .tail _ (.head _)
    constructor
    · intro hname
      exact absurd hleft (number_sign_notMem hname)
    · intro hopens
      exact absurd hmark hopens.1

/-! ## The one keyword -/

/-- Only underscores come to nothing. -/
theorem pascalFrom_eq_nil_iff {capital : Bool} :
    pascalFrom capital s = [] ↔ ∃ n, s = List.replicate n '_' := by
  induction s generalizing capital with
  | nil => exact ⟨fun _ => ⟨0, rfl⟩, fun _ => rfl⟩
  | cons c s ih =>
    rw [pascalFrom]
    split
    · next hc =>
      subst hc
      rw [ih]
      constructor
      · rintro ⟨n, rfl⟩
        exact ⟨n + 1, rfl⟩
      · rintro ⟨_ | n, hn⟩
        · cases hn
        · exact ⟨n, (List.cons.inj hn).2⟩
    · next hc =>
      constructor
      · intro h
        cases h
      · rintro ⟨_ | n, hn⟩
        · cases hn
        · exact absurd (List.cons.inj hn).1 hc

/-- A small letter that is left stood there without underscores before it. Behind an underscore the
next letter is a capital. -/
theorem eq_cons_of_pascalFrom {t : Text} (hd : d ∈ smallLetters)
    (h : pascalFrom false s = d :: t) : ∃ s', s = d :: s' ∧ pascalFrom false s' = t := by
  cases s with
  | nil => cases h
  | cons c s =>
    rw [pascalFrom] at h
    split at h
    · have hcapital := pascalCase_eq s
      rw [pascalCase, h] at hcapital
      split at hcapital
      · cases hcapital
      · next e s' _ =>
        rw [(List.cons.inj hcapital).1] at hd
        exact absurd hd (toUpper_notMem e)
    · cases h
      exact ⟨s, rfl, rfl⟩

/-- A function is called `self`, with a small or a big letter in front, but for underscores around
it. -/
def SpellsSelf (function : Text) : Prop := ∃ m n : Nat, ∃ c, (c = 's' ∨ c = 'S') ∧
  function = List.replicate m '_' ++ c :: 'e' :: 'l' :: 'f' :: List.replicate n '_'

/-- A structure is called `Self` if and only if its function is called `self`, but for
underscores. -/
theorem pascalCase_eq_self_iff : pascalCase name = ['S', 'e', 'l', 'f'] ↔ SpellsSelf name := by
  constructor
  · intro h
    have hsplit := List.takeWhile_append_dropWhile (p := (· = '_')) (l := name)
    have hfront : name.takeWhile (· = '_') =
        List.replicate (name.takeWhile (· = '_')).length '_' :=
      List.eq_replicate_of_mem fun c hc => by simpa using List.mem_takeWhile_imp hc
    rw [pascalCase_eq] at h
    split at h
    · cases h
    · next c s hdrop =>
      have hc := (List.cons.inj h).1
      obtain ⟨s₁, rfl, h₁⟩ := eq_cons_of_pascalFrom (by decide) (List.cons.inj h).2
      obtain ⟨s₂, rfl, h₂⟩ := eq_cons_of_pascalFrom (by decide) h₁
      obtain ⟨s₃, rfl, h₃⟩ := eq_cons_of_pascalFrom (by decide) h₂
      obtain ⟨n, rfl⟩ := pascalFrom_eq_nil_iff.1 h₃
      refine ⟨(name.takeWhile (· = '_')).length, n, c, eq_of_toUpper_eq_s hc, ?_⟩
      rw [hdrop, hfront] at hsplit
      exact hsplit.symm
  · rintro ⟨m, n, c, hc, rfl⟩
    have hne : c ≠ '_' := by
      rintro rfl
      rcases hc with hc | hc <;> cases hc
    have hdrop : (List.replicate m '_' ++ c :: 'e' :: 'l' :: 'f' :: List.replicate n '_').dropWhile
        (· = '_') = c :: 'e' :: 'l' :: 'f' :: List.replicate n '_' := by
      rw [List.dropWhile_append_of_pos (by simp), List.dropWhile_cons_of_neg (by simpa using hne)]
    have hend : pascalFrom false (List.replicate n '_') = [] := pascalFrom_eq_nil_iff.2 ⟨n, rfl⟩
    rw [pascalCase_eq, hdrop]
    rcases hc with rfl | rfl <;> simp [pascalFrom, hend]

example : pascalCase "_self_" = "Self".toList := by decide

/-- An identifier: a name that is no keyword. -/
def IsIdentifier (s : Text) : Prop := isName s = true ∧ s ∉ keywords

/-- The only keyword that a structure can be called is `Self`. -/
theorem pascalCase_notMem_keywords (hne : pascalCase name ≠ ['S', 'e', 'l', 'f']) :
    pascalCase name ∉ keywords := by
  have hkeywords : ∀ word ∈ keywords, word = ['S', 'e', 'l', 'f'] ∨
      word.head?.any (fun c => c = '_' ∨ c ∈ smallLetters) = true := by decide
  intro hmem
  rcases hkeywords _ hmem with hself | hhead
  · exact hne hself
  · obtain ⟨c, hc, hsmall⟩ := (Option.any_eq_true _ _).1 hhead
    rw [decide_eq_true_eq] at hsmall
    rw [pascalCase_eq] at hc
    split at hc
    · cases hc
    · next d s hdrop =>
      obtain rfl : d.toUpper = c := by simpa using hc
      rcases hsmall with hlow | hsmall
      · have hd : d = '_' := by
          rcases toUpper_cases d with h | h
          · exact h.symm.trans hlow
          · have hletters : ∀ d ∈ smallLetters, d.toUpper ≠ '_' := by decide
            exact absurd hlow (hletters d h)
        have hhead := List.head?_dropWhile_not (· = '_') name
        rw [hdrop] at hhead
        simp [hd] at hhead
      · exact toUpper_notMem d hsmall

/-- The name of a structure is an identifier if and only if what is left of the function's name
opens one and is not the keyword. -/
theorem isIdentifier_pascalCase_iff (h : IsWritten name) :
    IsIdentifier (pascalCase name) ↔ OpensName name ∧ ¬ SpellsSelf name := by
  have hself : ['S', 'e', 'l', 'f'] ∈ keywords := by decide
  rw [IsIdentifier, isName_pascalCase_iff_opens h, ← pascalCase_eq_self_iff]
  constructor
  · rintro ⟨hopens, hkeyword⟩
    exact ⟨hopens, fun heq => hkeyword (heq ▸ hself)⟩
  · rintro ⟨hopens, hne⟩
    exact ⟨hopens, pascalCase_notMem_keywords hne⟩

/-! ## Generation -/

/-- Whether generation breaks off does not depend on the code that is generated. -/
theorem generated?_eq_none {α : Type} {x : Except WrapperError α} {first : α → Code}
    (h : generated? first x = none) (second : α → Code) : generated? second x = none := by
  cases x with
  | ok a => cases h
  | error e => cases e <;> first | rfl | cases h

/-- The function in a text, if it and its options can be read and its signature passes the
checks. -/
def checked? (given text : Text) : Option FunctionItem := do
  let item ← (FunctionItem.ofText text).toOption
  let _ ← (FunctionOptions.ofText given).toOption
  if item.generics.isEmpty && !item.isAsync &&
      (FunctionWrapper.passed true item.parameters).isOk then some item
  else none

/-- Behind the checks nothing is missing but the name of the structure. -/
theorem FunctionWrapper.ofTexts_of_checked {given text : Text} {item : FunctionItem}
    (h : checked? given text = some item) : FunctionItem.ofText text = .ok item ∧
      ∃ make : Text → FunctionWrapper, (∀ struct, (make struct).struct = struct) ∧
        ofTexts given text = (structName item.name).map make := by
  obtain ⟨item', hitem, h⟩ := Option.bind_eq_some_iff.1 h
  obtain ⟨options, hoptions, h⟩ := Option.bind_eq_some_iff.1 h
  split at h
  · next hpass =>
    cases h
    simp only [Bool.and_eq_true, List.isEmpty_iff, Bool.not_eq_true'] at hpass
    obtain ⟨⟨hgenerics, hasync⟩, hparameters⟩ := hpass
    cases hpassed : passed true item.parameters with
    | error e =>
      rw [hpassed] at hparameters
      cases hparameters
    | ok found =>
      refine ⟨toOption_eq_some hitem, ?_⟩
      rw [ofTexts, toOption_eq_some hitem, toOption_eq_some hoptions]
      refine ⟨fun struct => ⟨item.tokens, item.visibility, item.name, struct, options, found.1,
        found.2, (successType? (item.result.getD unitType)).getD (item.result.getD unitType),
        (successType? (item.result.getD unitType)).isSome⟩, fun _ => rfl, ?_⟩
      show ofItem item options = _
      rw [ofItem, hgenerics, hasync, hpassed]
      cases structName item.name <;> rfl
  · cases h

/-- **For a function whose signature passes the checks code is generated if and only if its name
less the underscores in front opens as a name does; its structure has the name in capitals, which is
an identifier unless the function is called `self`.** How the syntax library writes types and items
does not matter. -/
theorem struct_named_iff (print : Printer) {given text : Text} {item : FunctionItem}
    (h : checked? given text = some item) :
    ((functionCode? print given text).isSome = true ↔ OpensName item.name) ∧
      (∀ code, functionCode? print given text = some code → ∃ w,
        FunctionWrapper.ofTexts given text = .ok w ∧ w.code print = code ∧
          w.struct = pascalCase item.name ∧ isName w.struct = true) ∧
      (IsIdentifier (pascalCase item.name) ↔ OpensName item.name ∧ ¬ SpellsSelf item.name) := by
  obtain ⟨hitem, make, hmake, hresult⟩ := FunctionWrapper.ofTexts_of_checked h
  have hwritten := FunctionItem.isWritten_name hitem
  have hcode : functionCode? print given text =
      if isName (pascalCase item.name) then some ((make (pascalCase item.name)).code print)
      else none := by
    rw [functionCode?, hresult, structName]
    split <;> rfl
  refine ⟨?_, ?_, isIdentifier_pascalCase_iff hwritten⟩
  · rw [hcode, ← isName_pascalCase_iff_opens hwritten]
    split <;> simp [*]
  · intro code hsome
    rw [hcode] at hsome
    split at hsome
    · next hname =>
      refine ⟨make (pascalCase item.name), ?_, Option.some.inj hsome, hmake _, ?_⟩
      · rw [hresult, structName, if_pos hname]
        rfl
      · rw [hmake, hname]
    · cases hsome

/-- A function with underscores in front of its name. -/
def hiddenFunction : Text := "pub fn __read_all(path: &str) -> String { read(path) }"

/-- Its structure is named in capitals. -/
theorem struct_named_iff_underscores : ∃ item,
    checked? "expand = false" hiddenFunction = some item ∧ item.name = "__read_all".toList ∧
      (functionCode? .asRead "expand = false" hiddenFunction).isSome = true ∧
      IsIdentifier (pascalCase item.name) := by
  have hname : (checked? "expand = false" hiddenFunction).map (·.name) =
      some "__read_all".toList := by decide +kernel
  obtain ⟨item, hitem, hname⟩ := Option.map_eq_some_iff.1 hname
  have hopens : OpensName item.name := by
    rw [hname]
    exact ⟨by decide, 'r', rfl, by decide +kernel⟩
  have hself : ¬ SpellsSelf item.name := by
    rw [hname, ← pascalCase_eq_self_iff]
    decide
  obtain ⟨hcode, -, hidentifier⟩ := struct_named_iff .asRead hitem
  exact ⟨item, hitem, hname, hcode.2 hopens, hidentifier.2 ⟨hopens, hself⟩⟩

/-- A function whose name less its underscore is a number. -/
def numberedFunction : Text := "fn _1(x: &str) \x7b\x7d"

/-- It passes the checks, but generation breaks off. -/
theorem struct_not_named : (checked? [] numberedFunction).map (·.name) = some "_1".toList ∧
    pascalCase "_1" = "1".toList ∧ isName "1" = false ∧
    ∀ print, functionCode? print [] numberedFunction = none := by
  have hbreaks : generated? (fun _ => []) (FunctionWrapper.ofTexts [] numberedFunction) = none := by
    decide +kernel
  exact ⟨by decide +kernel, by decide, by decide +kernel, fun print => generated?_eq_none hbreaks _⟩

end MakeHost.Wrapper
