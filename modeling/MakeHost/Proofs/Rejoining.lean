import MakeHost.Proofs.WordRuns

/-!
# Splitting and joining again

`Text.Pieces` says what the pieces of a text are: what lies between the leftmost occurrences of a
separator that do not overlap. A split without a limit makes all these cuts, and one with a limit
makes the first ones and joins the rest (`Text.Pieces.splitUpTo_of_lt`). A word list shows the
pieces with spaces between them, so pieces that are words come back when the list is read
(`Text.words_unwords`), and joining them gives the text (`Strings.joinWords_split`).
-/

namespace MakeHost

namespace Text

variable {sep s : Text} {parts : List Text} {limit : Nat}

/-! ## The pieces of a text -/

/-- The pieces of a text between the leftmost occurrences of a separator that do not overlap: the
first one ends where the separator first occurs, and the others are those of the text behind it. -/
inductive Pieces (sep : Text) : Text → List Text → Prop
  | whole {s : Text} (hnone : ¬ sep <:+: s) : Pieces sep s [s]
  | cut {front after : Text} {parts : List Text}
      (hfirst : ∀ before behind, front ++ sep ++ after = before ++ sep ++ behind →
        front.length ≤ before.length)
      (hrest : Pieces sep after parts) : Pieces sep (front ++ sep ++ after) (front :: parts)

/-- The pieces of a text are one way to cut it. -/
theorem Pieces.cuts (h : Pieces sep s parts) : Cuts sep s parts := by
  induction h with
  | whole => exact ⟨List.cons_ne_nil _ _, join_singleton sep⟩
  | cut _ _ ih =>
    refine ⟨List.cons_ne_nil _ _, ?_⟩
    rw [join_of_ne_nil _ ih.ne_nil, ih.join_eq]

/-- A split with a limit that the pieces do not exceed gives the pieces. -/
theorem Pieces.splitUpTo_of_le (h : Pieces sep s parts) (hlimit : parts.length ≤ limit + 1) :
    splitUpTo sep limit s = parts := by
  induction h generalizing limit with
  | whole hnone =>
    cases limit with
    | zero => rfl
    | succ limit => rw [splitUpTo, cutFirst?_eq_none_iff.2 hnone]
  | @cut front after parts hfirst hrest ih =>
    have hpos := List.length_pos_of_ne_nil hrest.cuts.ne_nil
    cases limit with
    | zero =>
      rw [List.length_cons] at hlimit
      omega
    | succ limit =>
      rw [splitUpTo, cutFirst?_eq_some_iff.2 ⟨rfl, hfirst⟩]
      exact congrArg (front :: ·) (ih (Nat.le_of_succ_le_succ hlimit))

/-- A split with a smaller limit gives as many pieces as it says and the rest in one. -/
theorem Pieces.splitUpTo_of_lt (h : Pieces sep s parts) (hlimit : limit < parts.length) :
    splitUpTo sep limit s = parts.take limit ++ [join sep (parts.drop limit)] := by
  induction h generalizing limit with
  | whole =>
    obtain rfl : limit = 0 := by simpa using hlimit
    simp [splitUpTo, join_singleton]
  | @cut front after parts hfirst hrest ih =>
    cases limit with
    | zero => simp [splitUpTo, join_of_ne_nil front hrest.cuts.ne_nil, hrest.cuts.join_eq]
    | succ limit =>
      rw [splitUpTo, cutFirst?_eq_some_iff.2 ⟨rfl, hfirst⟩]
      exact congrArg (front :: ·) (ih (Nat.lt_of_succ_lt_succ hlimit))

/-- A split with room for every cut finds the pieces. -/
theorem pieces_splitUpTo (hsep : sep ≠ []) (hlimit : s.length ≤ limit) :
    Pieces sep s (splitUpTo sep limit s) := by
  induction limit generalizing s with
  | zero =>
    obtain rfl : s = [] := by simpa using hlimit
    exact .whole (by simpa using hsep)
  | succ limit ih =>
    rw [splitUpTo]
    cases hcut : cutFirst? sep s with
    | none => exact .whole (cutFirst?_eq_none_iff.1 hcut)
    | some cut =>
      obtain ⟨front, after⟩ := cut
      obtain ⟨rfl, hfirst⟩ := eq_of_cutFirst? hcut
      have hpos := List.length_pos_of_ne_nil hsep
      simp only [List.length_append] at hlimit
      exact .cut hfirst (ih (by omega))

/-- **A split without a limit gives the pieces between the leftmost occurrences.** -/
theorem pieces_iff (hsep : sep ≠ []) : Pieces sep s parts ↔ splitAll sep s = parts := by
  constructor
  · intro h
    exact h.splitUpTo_of_le (h.cuts.length_le_succ hsep)
  · rintro rfl
    exact pieces_splitUpTo hsep (Nat.le_refl _)

/-! ## Word lists -/

/-- A text that a word list can show as one word: it is not empty and has no blank in it. -/
def IsWord (p : Text) : Prop := p ≠ [] ∧ ∀ c ∈ p, ¬ isBlank c

/-- Words that are joined by a separator without blanks are one word. -/
theorem IsWord.append_join {p : Text} (hp : IsWord p) (hsep : ∀ c ∈ sep, ¬ isBlank c)
    (hparts : ∀ q ∈ parts, IsWord q) : IsWord (join sep (p :: parts)) := by
  induction parts generalizing p with
  | nil => simpa [join_singleton] using hp
  | cons q parts ih =>
    obtain ⟨-, hrest⟩ := ih (hparts q (.head _)) fun r hr => hparts r (.tail _ hr)
    rw [join_cons_cons]
    refine ⟨by simp [hp.1], fun c hc => ?_⟩
    rcases List.mem_append.1 hc with hc | hc
    · rcases List.mem_append.1 hc with hc | hc
      · exact hp.2 c hc
      · exact hsep c hc
    · exact hrest c hc

/-- Words are read back from the list that shows them. -/
theorem words_unwords (hparts : ∀ p ∈ parts, IsWord p) : words (unwords parts) = parts := by
  induction parts with
  | nil => rfl
  | cons p parts ih =>
    obtain ⟨hne, hword⟩ := hparts p (.head _)
    cases parts with
    | nil =>
      have hlast : wordsFrom [] (p ++ []) = ([].reverse ++ p) :: wordsFrom [] [] :=
        wordsFrom_word [] hword (by simp) (by simpa)
      simpa [unwords, join_singleton, words, wordsFrom] using hlast
    | cons q parts =>
      have hrest := ih fun r hr => hparts r (.tail _ hr)
      have hspace : ∀ c ∈ ([' '] : Text), isBlank c := by decide
      rw [words] at hrest
      rw [unwords, join_cons_cons, words, List.append_assoc,
        wordsFrom_word [] hword (by simpa using hspace) (by simpa), wordsFrom_gap hspace]
      exact congrArg (p :: ·) hrest

end Text

namespace Strings

variable {s sep : Text} {parts words : List Text} {limit : Option Text}

/-- A split returns a list of these words, and joining it with the separator gives the text. -/
def Rejoins (s sep : Text) (limit : Option Text) (words : List Text) : Prop :=
  ∃ list, split s (some sep) limit = .ok list ∧ Text.words list = words ∧ joinWords sep list = s

/-- Pieces that are words come back from the list that shows them. -/
theorem rejoins_of_splitUpTo {l : Option Nat} (hsep : sep ≠ []) (hlimit : splitLimit limit = .ok l)
    (hwords : Text.splitUpTo sep (l.getD s.length) s = words) (hall : ∀ p ∈ words, Text.IsWord p) :
    Rejoins s sep limit words := by
  have hlist : Text.words (Text.unwords words) = words := Text.words_unwords hall
  refine ⟨Text.unwords words, ?_, hlist, ?_⟩
  · simp only [split, hlimit, splitPieces, given_of_ne_nil hsep, ← hwords]
    rfl
  · rw [joinWords, hlist, ← hwords]
    exact (Text.cuts_splitUpTo sep _ s).join_eq

/-- **Joining undoes splitting where the pieces are words.** Take a text whose pieces between the
leftmost occurrences of a separator that do not overlap are words. Without a limit, or with a
negative one, a split returns the pieces, and joining them with the separator gives the text. If the
separator has no blank in it, a split with a limit returns as many words as the limit allows, one
more than cuts and no more than pieces, and joining them gives the text as well. -/
theorem joinWords_split (hsep : sep ≠ []) (hparts : Text.Pieces sep s parts)
    (hwords : ∀ p ∈ parts, Text.IsWord p) :
    Rejoins s sep none parts ∧
      (∀ limit n, wholeNumber limit = .ok n → n < 0 → Rejoins s sep (some limit) parts) ∧
      ((∀ c ∈ sep, ¬ Text.isBlank c) → ∀ limit n, wholeNumber limit = .ok n → 0 ≤ n →
        ∃ words : List Text, (words.length : Int) = min (n + 1) parts.length ∧
          Rejoins s sep (some limit) words) := by
  have hall : Text.splitUpTo sep s.length s = parts := (Text.pieces_iff hsep).1 hparts
  refine ⟨?_, ?_, ?_⟩
  · exact rejoins_of_splitUpTo (l := none) hsep rfl hall hwords
  · intro limit n hlimit hn
    have hnone := splitLimit_of_wholeNumber hlimit
    rw [if_pos hn] at hnone
    exact rejoins_of_splitUpTo hsep hnone hall hwords
  · intro hblank limit n hlimit hn
    have hsome := splitLimit_of_wholeNumber hlimit
    rw [if_neg (Int.not_lt.2 hn)] at hsome
    by_cases hroom : parts.length ≤ n.toNat + 1
    · exact ⟨parts, by omega,
        rejoins_of_splitUpTo hsep hsome (hparts.splitUpTo_of_le hroom) hwords⟩
    · have hlt : n.toNat < parts.length := by omega
      have hrest : Text.IsWord (Text.join sep (parts.drop n.toNat)) := by
        rw [List.drop_eq_getElem_cons hlt]
        refine Text.IsWord.append_join (hwords _ (List.getElem_mem hlt)) hblank fun q hq => ?_
        exact hwords q (List.mem_of_mem_drop hq)
      refine ⟨parts.take n.toNat ++ [Text.join sep (parts.drop n.toNat)], ?_,
        rejoins_of_splitUpTo hsep hsome (hparts.splitUpTo_of_lt hlt) fun p hp => ?_⟩
      · rw [List.length_append, List.length_take, List.length_singleton]
        omega
      · rcases List.mem_append.1 hp with hp | hp
        · exact hwords p (List.mem_of_mem_take hp)
        · rwa [List.mem_singleton.1 hp]

/-- A separator that overlaps itself, with room for one cut of two. -/
theorem joinWords_split_overlapping : ∃ words : List Text, words.length = 2 ∧
    Text.Pieces "aa" "xaaayaaz" ["x", "ay", "z"] ∧ Rejoins "xaaayaaz" "aa" (some "1") words := by
  have hsep : ("aa" : Text) ≠ [] := by decide
  have hparts : Text.Pieces "aa" "xaaayaaz" ["x", "ay", "z"] := (Text.pieces_iff hsep).2 (by decide)
  have hwords : ∀ p ∈ (["x", "ay", "z"] : List Text), Text.IsWord p := by
    simp only [Text.IsWord]
    decide
  have hlimit : wholeNumber "1" = .ok 1 := by decide
  obtain ⟨words, hlength, hrejoins⟩ :=
    (joinWords_split hsep hparts hwords).2.2 (by decide) _ _ hlimit (by decide)
  exact ⟨words, by simp at hlength; omega, hparts, hrejoins⟩

end Strings

end MakeHost
