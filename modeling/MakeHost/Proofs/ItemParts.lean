import MakeHost.Wrapper.Item

/-!
# The parts in front of an item

Attributes, visibility and words are split off the front of an item one after the other. Each lemma
says of one of them how the tokens are put together again from what was split off and the rest.
-/

namespace MakeHost.Wrapper

variable {tokens rest : List TokenTree} {word : String} {name : Text}

namespace TokenTree

/-- A token is a word if and only if it is that identifier. -/
theorem isIdent_iff {t : TokenTree} : t.isIdent word = true ↔ t = .ident word.toList := by
  cases t <;> simp [isIdent]

@[simp] theorem textsAll_nil : textsAll [] = [] := rfl

@[simp] theorem textsAll_cons (t : TokenTree) (rest : List TokenTree) :
    textsAll (t :: rest) = t.texts ++ textsAll rest := rfl

/-- The texts of tokens stand one behind the other. -/
@[simp] theorem textsAll_append (first second : List TokenTree) :
    textsAll (first ++ second) = textsAll first ++ textsAll second := by
  induction first with
  | nil => rfl
  | cons t first ih => simp [ih]

end TokenTree

/-- A word is split off the front or the tokens are all left. -/
theorem word?_append (word : String) (tokens : List TokenTree) :
    (if (word? word tokens).1 then [.ident word.toList] else []) ++ (word? word tokens).2 =
      tokens := by
  cases tokens with
  | nil => rfl
  | cons t tokens =>
    rw [word?]
    split
    · next ht =>
      rw [TokenTree.isIdent_iff.1 ht]
      rfl
    · rfl

/-- Reading a word leaves an end of the tokens. -/
theorem word?_suffix (word : String) (tokens : List TokenTree) :
    (word? word tokens).2 <:+ tokens :=
  ⟨_, word?_append word tokens⟩

/-- Reading a calling convention leaves an end of the tokens. -/
theorem convention_suffix (tokens : List TokenTree) : convention tokens <:+ tokens := by
  have hword := word?_suffix "extern" tokens
  unfold convention
  split
  · next heq =>
    rw [heq] at hword
    exact (List.suffix_cons _ _).trans hword
  · next heq =>
    rw [heq] at hword
    exact hword

/-- Whether tokens are brackets and punctuation only, as attributes are. -/
def IsMarks (tokens : List TokenTree) : Prop := ∀ t ∈ tokens, ∀ word, t ≠ .ident word

/-- A visibility is nothing, or its word and maybe brackets. -/
def IsVisibility (tokens : List TokenTree) : Prop :=
  tokens = [] ∨ ∃ restriction, IsMarks restriction ∧ tokens = .ident "pub".toList :: restriction

/-- What is split off as a visibility is one. -/
theorem isVisibility_visibility (tokens : List TokenTree) : IsVisibility (visibility tokens).1 := by
  unfold visibility
  split
  · next name rest =>
    split
    · exact .inl rfl
    · next hname =>
      rw [Decidable.not_not.1 hname]
      refine .inr ?_
      split
      · next inner rest =>
        split
        · refine ⟨[.group .parenthesis inner], ?_, rfl⟩
          simp [IsMarks]
        · exact ⟨[], by simp [IsMarks], rfl⟩
      · exact ⟨[], by simp [IsMarks], rfl⟩
  · exact .inl rfl

/-- The visibility and the rest are the tokens. -/
theorem visibility_append (tokens : List TokenTree) :
    (visibility tokens).1 ++ (visibility tokens).2 = tokens := by
  unfold visibility
  split
  · split
    · rfl
    · split
      · split <;> rfl
      · rfl
  · rfl

/-- The attributes in front of an item are written as they were read. -/
theorem outerAttributes_append (tokens : List TokenTree) : ∃ marks, IsMarks marks ∧
    tokens = marks ++ (outerAttributes tokens).2 ∧
    TokenTree.textsAll marks =
      TokenTree.textsAll ((outerAttributes tokens).1.flatMap Attribute.tokens) := by
  induction tokens using outerAttributes.induct with
  | case1 joint content rest attributes behind hbehind ih =>
    obtain ⟨marks, hmarks, htokens, htexts⟩ := ih
    refine ⟨.punct '#' joint :: .group .bracket content :: marks, ?_, ?_, ?_⟩
    · intro t ht word
      rcases List.mem_cons.1 ht with rfl | ht
      · exact TokenTree.noConfusion
      · rcases List.mem_cons.1 ht with rfl | ht
        · exact TokenTree.noConfusion
        · exact hmarks t ht word
    · exact congrArg (.punct '#' joint :: .group .bracket content :: ·) htokens
    · simp [outerAttributes, Attribute.tokens, TokenTree.texts, htexts]
  | case2 tokens hplain =>
    have hnone : outerAttributes tokens = ([], tokens) := by
      rw [outerAttributes]
      exact hplain
    exact ⟨[], by simp [IsMarks], by simp [hnone], by simp [hnone]⟩

/-- The name of an item is the identifier in front of the rest. -/
theorem eq_cons_of_readName (h : readName tokens = .ok (name, rest)) :
    tokens = .ident name :: rest := by
  unfold readName at h
  split at h
  · split at h
    · cases h
    · cases h
      rfl
  · cases h

/-- The name of a module is the identifier in front of the rest. -/
theorem eq_cons_of_readModuleName (h : readModuleName tokens = .ok (name, rest)) :
    tokens = .ident name :: rest := by
  unfold readModuleName at h
  split at h
  · split at h
    · cases h
      rfl
    · exact eq_cons_of_readName h
  · exact eq_cons_of_readName h

end MakeHost.Wrapper
