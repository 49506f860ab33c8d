import Mathlib.Data.List.TakeWhile
import MakeHost.Proofs.ItemParts
import MakeHost.Proofs.Packages

/-!
# Names in code

What the names in code are: name characters, or these behind the mark of a raw name. That holds of
every name in the tokens of a text (`isWritten_of_mem_names`), and so of the name of every function
that is read (`FunctionItem.isWritten_name`).
-/

namespace MakeHost.Wrapper

variable {c : Char} {s name rest : Text} {tokens here : List TokenTree}
  {around : List (Delimiter × List TokenTree)} {lexemes : List Lexeme} {limit : Nat}

/-! ## Names -/

/-- A name in code: name characters, or these behind the mark of a raw name. -/
inductive IsWritten : Text → Prop
  | plain {name : Text} (h : isName name = true) : IsWritten name
  | raw {name : Text} (h : isName name = true) : IsWritten ('r' :: '#' :: name)

/-- The characters of a name make a name. -/
theorem isName_nameCharacters (hc : Text.isIdentifierStart c = true) (s : Text) :
    isName (c :: (nameCharacters s).1) = true := by
  simp only [isName, hc, Bool.true_and, List.all_eq_true]
  intro d hd
  exact List.mem_takeWhile_imp hd

/-- A name that is read is one in code. -/
theorem isWritten_of_name? (h : name? s = some (name, rest)) : IsWritten name := by
  unfold name? at h
  split at h
  · split at h
    · next hc =>
      dsimp only at h
      split at h
      · cases h
      · cases h
        exact .raw (isName_nameCharacters hc _)
    · cases h
  · split at h
    · next hc =>
      cases h
      exact .plain (isName_nameCharacters hc _)
    · cases h
  · cases h

namespace TokenTree

mutual

/-- The names in a token tree, at any depth. -/
def names : TokenTree → List Text
  | ident name => [name]
  | punct _ _ | literal _ => []
  | group _ inner => namesAll inner

/-- The names in token trees in a row. -/
def namesAll : List TokenTree → List Text
  | [] => []
  | t :: rest => t.names ++ namesAll rest

end

/-- The names in a row of token trees are those in each of them. -/
theorem mem_namesAll : name ∈ namesAll tokens ↔ ∃ t ∈ tokens, name ∈ t.names := by
  induction tokens with
  | nil => simp [namesAll]
  | cons t tokens ih => simp [namesAll, ih]

end TokenTree

/-- Whether all names in a lexeme are names in code. -/
def Lexeme.IsNamed : Lexeme → Prop
  | .opens _ | .closes _ => True
  | .leaf t => ∀ name ∈ t.names, IsWritten name

/-- A token has names in code only. -/
theorem isNamed_of_token? {lexeme : Lexeme} (h : token? s = some (lexeme, rest)) :
    lexeme.IsNamed := by
  unfold token? at h
  split at h
  · next read hbracket =>
    cases h
    unfold bracket? at hbracket
    split at hbracket
    · cases hbracket
    · split at hbracket
      · cases hbracket
        trivial
      · cases hbracket
        trivial
      · cases hbracket
  · split at h
    · cases h
      simp [Lexeme.IsNamed, TokenTree.names]
    · split at h
      · next t _ hpunctuation =>
        cases h
        have ht : t.names = [] := by
          unfold punctuation? at hpunctuation
          split at hpunctuation
          · split at hpunctuation <;> cases hpunctuation
            rfl
          · split at hpunctuation <;> cases hpunctuation
            rfl
          · cases hpunctuation
        simp [Lexeme.IsNamed, ht]
      · obtain ⟨⟨name, rest'⟩, hname, hresult⟩ := Option.map_eq_some_iff.1 h
        cases hresult
        simpa [Lexeme.IsNamed, TokenTree.names] using isWritten_of_name? hname

/-- Documentation has names in code only. -/
theorem isNamed_documentation (inner : Bool) (content : Text) :
    ∀ lexeme ∈ documentation inner content, lexeme.IsNamed := by
  have hdoc : IsWritten "doc" := .plain (by decide +kernel)
  intro lexeme hlexeme
  cases inner <;> simp [documentation] at hlexeme <;> rcases hlexeme with
    rfl | rfl | rfl | rfl | rfl | rfl | rfl <;> simp_all [Lexeme.IsNamed, TokenTree.names]

/-- All names in the lexemes of a text are names in code. -/
theorem isNamed_of_lexemesWithin (h : lexemesWithin limit s = some lexemes) :
    ∀ lexeme ∈ lexemes, lexeme.IsNamed := by
  induction limit generalizing s lexemes with
  | zero =>
    cases s with
    | nil =>
      cases h
      simp
    | cons c s => cases h
  | succ limit ih =>
    cases s with
    | nil =>
      cases h
      simp
    | cons c s =>
      rw [lexemesWithin] at h
      split at h
      · exact ih h
      · split at h
        · exact ih h
        · obtain ⟨behind, hbehind, rfl⟩ := Option.map_eq_some_iff.1 h
          intro lexeme hlexeme
          rcases List.mem_append.1 hlexeme with hfront | hrest
          · exact isNamed_documentation _ _ lexeme hfront
          · exact ih hbehind lexeme hrest
        · obtain ⟨⟨first, after⟩, htoken, h⟩ := Option.bind_eq_some_iff.1 h
          obtain ⟨behind, hbehind, h⟩ := Option.bind_eq_some_iff.1 h
          cases h
          intro lexeme hlexeme
          rcases List.mem_cons.1 hlexeme with rfl | hrest
          · exact isNamed_of_token? htoken
          · exact ih hbehind lexeme hrest

/-- Grouping lexemes adds no names. What stands in brackets becomes a group behind what stood before
them. -/
theorem isWritten_of_grouped (h : grouped around here lexemes = some tokens)
    (haround : ∀ p ∈ around, ∀ t ∈ p.2, ∀ name ∈ t.names, IsWritten name)
    (hhere : ∀ t ∈ here, ∀ name ∈ t.names, IsWritten name)
    (hlexemes : ∀ lexeme ∈ lexemes, lexeme.IsNamed) :
    ∀ t ∈ tokens, ∀ name ∈ t.names, IsWritten name := by
  induction lexemes generalizing around here with
  | nil =>
    rw [grouped] at h
    split at h
    · cases h
      simpa using hhere
    · cases h
  | cons lexeme lexemes ih =>
    have hrest : ∀ lexeme ∈ lexemes, lexeme.IsNamed := fun l hl => hlexemes l (.tail _ hl)
    cases lexeme with
    | leaf t =>
      have ht : ∀ name ∈ t.names, IsWritten name := hlexemes (.leaf t) (.head _)
      refine ih h haround (fun u hu => ?_) hrest
      rcases List.mem_cons.1 hu with rfl | hu
      · exact ht
      · exact hhere u hu
    | opens d =>
      refine ih h (fun p hp => ?_) (by simp) hrest
      rcases List.mem_cons.1 hp with rfl | hp
      · exact hhere
      · exact haround p hp
    | closes d =>
      cases around with
      | nil => cases h
      | cons outer around =>
        obtain ⟨e, before⟩ := outer
        have hbefore : ∀ t ∈ before, ∀ name ∈ t.names, IsWritten name :=
          haround (e, before) (.head _)
        rw [grouped] at h
        split at h
        · refine ih h (fun p hp => haround p (.tail _ hp)) (fun u hu => ?_) hrest
          rcases List.mem_cons.1 hu with rfl | hu
          · intro name hname
            obtain ⟨t, ht, hname⟩ := TokenTree.mem_namesAll.1 hname
            exact hhere t (List.mem_reverse.1 ht) name hname
          · exact hbefore u hu
        · cases h

/-- **The names in the tokens of a text are names in code.** -/
theorem isWritten_of_mem_names (h : tokenTrees? s = some tokens)
    (hname : name ∈ TokenTree.namesAll tokens) : IsWritten name := by
  obtain ⟨lexemes, hlexemes, hgrouped⟩ := Option.bind_eq_some_iff.1 h
  obtain ⟨t, ht, hname⟩ := TokenTree.mem_namesAll.1 hname
  exact isWritten_of_grouped hgrouped (by simp) (by simp) (isNamed_of_lexemesWithin hlexemes)
    t ht name hname

/-- A result that is there was read without an error. -/
theorem toOption_eq_some {α : Type} {x : Except WrapperError α} {a : α} (h : x.toOption = some a) :
    x = .ok a := by
  cases x <;> cases h
  rfl

/-- The name of a function stands among its tokens. All that is read before the name is split off
the front, so a suffix is left. -/
theorem mem_of_nameOf (h : nameOf tokens = some name) : .ident name ∈ tokens := by
  rw [nameOf_eq, nameBehind] at h
  split at h
  · cases h
  · dsimp only at h
    split at h
    · obtain ⟨marks, -, htokens, -⟩ := outerAttributes_append tokens
      have hattributes : (outerAttributes tokens).2 <:+ tokens := ⟨marks, htokens.symm⟩
      have hvisibility : (visibility (outerAttributes tokens).2).2 <:+ (outerAttributes tokens).2 :=
        ⟨_, visibility_append _⟩
      have hsuffix := ((((((word?_suffix "fn" _).trans (convention_suffix _)).trans
        (word?_suffix "unsafe" _)).trans (word?_suffix "async" _)).trans
        (word?_suffix "const" _)).trans hvisibility).trans hattributes
      obtain ⟨⟨name', after⟩, hread, hfirst⟩ := Option.map_eq_some_iff.1 h
      cases hfirst
      generalize (word? "fn" _).2 = behind at hread hsuffix
      rw [eq_cons_of_readName (toOption_eq_some hread)] at hsuffix
      exact hsuffix.subset (.head _)
    · cases h

/-- The name of a function that was read is a name in code. -/
theorem FunctionItem.isWritten_name {text : Text} {item : FunctionItem}
    (h : FunctionItem.ofText text = .ok item) : IsWritten item.name := by
  unfold FunctionItem.ofText at h
  split at h
  · next tokens htokens =>
    have hmem := mem_of_nameOf (FunctionItem.nameOf_of_ofTokens h)
    exact isWritten_of_mem_names htokens
      (TokenTree.mem_namesAll.2 ⟨.ident item.name, hmem, .head _⟩)
  · cases h

end MakeHost.Wrapper
