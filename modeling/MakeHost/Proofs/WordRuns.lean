import MakeHost.Proofs.Splitting

/-!
# Words and blanks

`Text.Runs` says what the words of a text are: its maximal runs of characters that are not blank.
There is one list of them (`Text.runs_iff`), and those of the reversed text are the same ones in the
mirror (`Text.Runs.mirrored`). Splitting at blanks returns them, up to a limit; what is left then
goes on to the end of the text (`Strings.splitPieces_at_blanks`).
-/

namespace MakeHost

namespace Text

variable {s gap word rest : Text} {words : List Text} {limit n : Nat}

/-! ## Maximal runs -/

/-- The maximal runs of characters of a text that are not blank, in their order. -/
inductive Runs : Text → List Text → Prop
  | blank {s : Text} (hs : ∀ c ∈ s, isBlank c) : Runs s []
  | word {gap word rest : Text} {words : List Text} (hgap : ∀ c ∈ gap, isBlank c) (hne : word ≠ [])
      (hword : ∀ c ∈ word, ¬ isBlank c) (hend : ∀ c ∈ rest.head?, isBlank c)
      (hrest : Runs rest words) : Runs (gap ++ word ++ rest) (word :: words)

/-- The word under way ends where blanks begin. -/
theorem wordsFrom_word (current : Text) (hword : ∀ c ∈ word, ¬ isBlank c)
    (hend : ∀ c ∈ rest.head?, isBlank c) (hne : current ++ word ≠ []) :
    wordsFrom current (word ++ rest) = (current.reverse ++ word) :: wordsFrom [] rest := by
  induction word generalizing current with
  | nil =>
    have hcurrent : current ≠ [] := by simpa using hne
    cases rest with
    | nil => simp [wordsFrom, hcurrent]
    | cons c rest =>
      have hc : isBlank c := hend c rfl
      simp [wordsFrom, hc, hcurrent]
  | cons c word ih =>
    have hc : isBlank c = false := by simpa using hword c List.mem_cons_self
    rw [List.cons_append, wordsFrom, if_neg (by simp [hc]),
      ih (c :: current) (fun d hd => hword d (List.mem_cons_of_mem _ hd)) (by simp)]
    simp

/-- Blanks in front make no word. -/
theorem wordsFrom_gap (hgap : ∀ c ∈ gap, isBlank c) (rest : Text) :
    wordsFrom [] (gap ++ rest) = wordsFrom [] rest := by
  induction gap with
  | nil => rfl
  | cons c gap ih =>
    have hc : isBlank c := hgap c List.mem_cons_self
    rw [List.cons_append, wordsFrom, if_pos hc, if_pos (by rfl),
      ih fun d hd => hgap d (List.mem_cons_of_mem _ hd)]

/-- The words of a text are known from its runs. -/
theorem Runs.words_eq (h : Runs s words) : s.words = words := by
  induction h with
  | blank hs =>
    have hgap := wordsFrom_gap hs []
    rwa [List.append_nil] at hgap
  | word hgap hne hword hend _ ih =>
    rw [Text.words, List.append_assoc, wordsFrom_gap hgap, wordsFrom_word [] hword hend (by simpa)]
    exact congrArg _ ih

/-- A text begins with blanks, or with a word behind blanks. -/
theorem blank_or_word (s : Text) : (∀ c ∈ s, isBlank c) ∨ ∃ gap word rest,
    s = gap ++ word ++ rest ∧ (∀ c ∈ gap, isBlank c) ∧ word ≠ [] ∧ (∀ c ∈ word, ¬ isBlank c) ∧
      ∀ c ∈ rest.head?, isBlank c := by
  obtain ⟨gap, hs, hgap⟩ := eq_append_trimStart s
  cases htrim : s.trimStart with
  | nil =>
    rw [htrim, List.append_nil] at hs
    exact .inl (hs ▸ hgap)
  | cons c t =>
    have hc : isBlank c = false := by
      have hhead := List.head?_dropWhile_not isBlank s
      rw [← trimStart, htrim] at hhead
      simpa using hhead
    refine .inr ⟨gap, (c :: t).takeWhile (!isBlank ·), (c :: t).dropWhile (!isBlank ·), ?_, hgap,
      ?_, fun d hd => by simpa using List.mem_takeWhile_imp hd, fun d hd => ?_⟩
    · rw [List.append_assoc, List.takeWhile_append_dropWhile, ← htrim, ← hs]
    · simp [hc]
    · have hhead := List.head?_dropWhile_not (!isBlank ·) (c :: t)
      rw [Option.mem_def.1 hd] at hhead
      simpa using hhead

/-- Every text has runs. -/
theorem exists_runs (s : Text) : ∃ words, Runs s words := by
  rcases blank_or_word s with hs | ⟨gap, word, rest, hs, hgap, hne, hword, hend⟩
  · exact ⟨[], .blank hs⟩
  · have hshort : rest.length < s.length := by
      have hpos := List.length_pos_of_ne_nil hne
      rw [hs, List.length_append, List.length_append]
      omega
    obtain ⟨words, hrest⟩ := exists_runs rest
    exact ⟨word :: words, hs ▸ .word hgap hne hword hend hrest⟩
termination_by s.length

/-- **The words of a text are its maximal runs of characters that are not blank.** -/
theorem runs_iff : Runs s words ↔ s.words = words := by
  refine ⟨Runs.words_eq, fun h => ?_⟩
  obtain ⟨others, hothers⟩ := exists_runs s
  rwa [← h, hothers.words_eq]

/-- The words of a text are its runs. -/
theorem runs_words (s : Text) : Runs s s.words := runs_iff.2 rfl

/-- There are no more words than characters. -/
theorem Runs.length_le (h : Runs s words) : words.length ≤ s.length := by
  induction h with
  | blank => exact Nat.zero_le _
  | word _ hne _ _ _ ih =>
    have := List.length_pos_of_ne_nil hne
    simp only [List.length_append, List.length_cons]
    omega

/-! ## The mirror image -/

/-- A word behind blanks, or alone, is one more run. -/
theorem Runs.concat (h : Runs s words) (hlast : ∀ c ∈ s.getLast?, isBlank c) (hne : word ≠ [])
    (hword : ∀ c ∈ word, ¬ isBlank c) (hgap : ∀ c ∈ gap, isBlank c) :
    Runs (s ++ word ++ gap) (words ++ [word]) := by
  have hhead : ∀ c ∈ gap.head?, isBlank c := fun c hc => hgap c (List.mem_of_mem_head? hc)
  induction h with
  | blank hs => exact .word hs hne hword hhead (.blank hgap)
  | @word gap' word' rest words hgap' hne' hword' hend hrest ih =>
    have hrestne : rest ≠ [] := by
      rintro rfl
      obtain ⟨c, hc⟩ := List.getLast?_isSome.2 hne' |> Option.isSome_iff_exists.1
      refine hword' c (List.mem_of_getLast? hc) (hlast c ?_)
      simp [List.getLast?_append, hc]
    have hrestlast : ∀ c ∈ rest.getLast?, isBlank c := fun c hc =>
      hlast c (by simp [List.getLast?_append, Option.mem_def.1 hc])
    have hmore := ih hrestlast
    rw [List.append_assoc, List.append_assoc _ rest, ← List.append_assoc rest]
    refine .word hgap' hne' hword' (fun c hc => hend c ?_) hmore
    rwa [List.append_assoc, List.head?_append_of_ne_nil _ hrestne] at hc

/-- The runs of the reversed text are the mirror image of the runs. -/
theorem Runs.mirrored (h : Runs s words) : Runs s.reverse (mirrored words) := by
  induction h with
  | blank hs => exact .blank (by simpa using hs)
  | @word gap word rest words hgap hne hword hend _ ih =>
    have hword' : ∀ c ∈ word.reverse, ¬ isBlank c := by simpa using hword
    have hgap' : ∀ c ∈ gap.reverse, isBlank c := by simpa using hgap
    have hconcat := ih.concat (by simpa using hend) (by simpa using hne) hword' hgap'
    simpa [Text.mirrored] using hconcat

/-- The words of a reversed text are those of the text from right to left. -/
theorem words_reverse (s : Text) : Text.words s.reverse = mirrored s.words :=
  (runs_words s).mirrored.words_eq

/-! ## Taking words off -/

/-- Blanks have no word to take off. -/
theorem takeWords_of_blank (h : s.trimStart = []) (limit : Nat) : takeWords limit s = [] := by
  rw [takeWords, h]

/-- Where no word may be taken off the rest stays, from its first word on. -/
theorem takeWords_zero (h : s.trimStart ≠ []) : takeWords 0 s = [s.trimStart] := by
  obtain ⟨c, t, htrim⟩ := List.exists_cons_of_ne_nil h
  rw [takeWords, htrim]

/-- Of a text with words the first one is taken off, and words are taken off the rest. -/
theorem takeWords_succ (h : s.trimStart ≠ []) (limit : Nat) : takeWords (limit + 1) s =
    s.trimStart.takeWhile (!isBlank ·) :: takeWords limit (s.trimStart.dropWhile (!isBlank ·)) := by
  obtain ⟨c, t, htrim⟩ := List.exists_cons_of_ne_nil h
  rw [takeWords, htrim]

/-- Blanks have no last word to take off. -/
theorem takeLastWords_of_blank (h : s.trimEnd = []) (limit : Nat) : takeLastWords limit s = [] := by
  rw [takeLastWords, h]

/-- From the right the rest stays up to its last word. -/
theorem takeLastWords_zero (h : s.trimEnd ≠ []) : takeLastWords 0 s = [s.trimEnd] := by
  obtain ⟨c, t, htrim⟩ := List.exists_cons_of_ne_nil h
  rw [takeLastWords, htrim]

/-- Of a text with words the last one is taken off, and words are taken off in front of it. -/
theorem takeLastWords_succ (h : s.trimEnd ≠ []) (limit : Nat) : takeLastWords (limit + 1) s =
    takeLastWords limit (dropTailWhile (!isBlank ·) s.trimEnd) ++
      [takeTailWhile (!isBlank ·) s.trimEnd] := by
  obtain ⟨c, t, htrim⟩ := List.exists_cons_of_ne_nil h
  rw [takeLastWords, htrim]

/-- **Splitting words off the end is splitting them off the front of the reversed text.** -/
theorem takeLastWords_eq (limit : Nat) (s : Text) :
    takeLastWords limit s = mirrored (takeWords limit s.reverse) := by
  induction limit generalizing s with
  | zero =>
    by_cases h : trimStart s.reverse = []
    · rw [takeWords_of_blank h, takeLastWords_of_blank (List.reverse_eq_nil_iff.2 h)]
      rfl
    · rw [takeWords_zero h, takeLastWords_zero (mt List.reverse_eq_nil_iff.1 h)]
      rfl
  | succ limit ih =>
    by_cases h : trimStart s.reverse = []
    · rw [takeWords_of_blank h, takeLastWords_of_blank (List.reverse_eq_nil_iff.2 h)]
      rfl
    · have hend : s.trimEnd.reverse = trimStart s.reverse := List.reverse_reverse _
      rw [takeWords_succ h, takeLastWords_succ (mt List.reverse_eq_nil_iff.1 h), ih, takeTailWhile,
        dropTailWhile, List.reverse_reverse, hend]
      simp [mirrored]

section Word

variable (hgap : ∀ c ∈ gap, isBlank c) (hne : word ≠ []) (hword : ∀ c ∈ word, ¬ isBlank c)
include hgap hne hword

/-- What stands in front of a word is trimmed off. -/
theorem trimStart_word : trimStart (gap ++ word ++ rest) = word ++ rest := by
  obtain ⟨c, word, rfl⟩ := List.exists_cons_of_ne_nil hne
  have hc : isBlank c = false := by simpa using hword c List.mem_cons_self
  rw [trimStart, List.append_assoc, List.dropWhile_append_of_pos hgap]
  simp [hc]

/-- Without cuts to be made a text keeps all that is behind the blanks in front. -/
theorem takeWords_zero_word : takeWords 0 (gap ++ word ++ rest) = [word ++ rest] := by
  have htrim : trimStart (gap ++ word ++ rest) = word ++ rest := trimStart_word hgap hne hword
  rw [takeWords_zero (by rw [htrim]; simp [hne]), htrim]

/-- A cut takes the first word off. -/
theorem takeWords_succ_word (hend : ∀ c ∈ rest.head?, isBlank c) (limit : Nat) :
    takeWords (limit + 1) (gap ++ word ++ rest) = word :: takeWords limit rest := by
  have htrim : trimStart (gap ++ word ++ rest) = word ++ rest := trimStart_word hgap hne hword
  have hall : ∀ c ∈ word, (!isBlank c) = true := by simpa using hword
  have hrest : rest.takeWhile (!isBlank ·) = [] ∧ rest.dropWhile (!isBlank ·) = rest := by
    cases rest with
    | nil => exact ⟨rfl, rfl⟩
    | cons c rest =>
      have hc : isBlank c := hend c rfl
      simp [hc]
  rw [takeWords_succ (by rw [htrim]; simp [hne]), htrim, List.takeWhile_append_of_pos hall,
    List.dropWhile_append_of_pos hall, hrest.1, hrest.2, List.append_nil]

end Word

/-- A limit that the number of words does not exceed leaves nothing but words. -/
theorem Runs.takeWords_of_le (h : Runs s words) (hlimit : words.length ≤ limit) :
    takeWords limit s = words := by
  induction h generalizing limit with
  | blank hs => exact takeWords_of_blank (List.dropWhile_eq_nil_iff.2 hs) limit
  | word hgap hne hword hend _ ih =>
    cases limit with
    | zero => cases hlimit
    | succ limit =>
      rw [takeWords_succ_word hgap hne hword hend, ih (Nat.le_of_succ_le_succ hlimit)]

/-- What is left of a text behind the first `n` of its words: all of it from the next word on. -/
structure LeftBehind (s : Text) (words : List Text) (n : Nat) (rest : Text) : Prop where
  front : ∃ front, s = front ++ rest ∧ Runs front (words.take n)
  behind : Runs rest (words.drop n)
  next : ∃ word, words[n]? = some word ∧ word <+: rest

/-- With fewer cuts than words, the last piece is what is left behind the words taken off. -/
theorem Runs.takeWords_of_lt (h : Runs s words) (hn : n < words.length) :
    ∃ rest, LeftBehind s words n rest ∧ takeWords n s = words.take n ++ [rest] := by
  induction h generalizing n with
  | blank => cases hn
  | @word gap word rest words hgap hne hword hend hrest ih =>
    cases n with
    | zero =>
      have hbehind : Runs ([] ++ word ++ rest) (word :: words) :=
        .word (List.forall_mem_nil _) hne hword hend hrest
      refine ⟨word ++ rest, ⟨⟨gap, List.append_assoc _ _ _, .blank hgap⟩, hbehind, word, rfl,
        List.prefix_append _ _⟩, takeWords_zero_word hgap hne hword⟩
    | succ n =>
      obtain ⟨left, ⟨⟨front, hfront, hruns⟩, hbehind, hnext⟩, htake⟩ :=
        ih (Nat.lt_of_succ_lt_succ hn)
      have hhead : ∀ c ∈ front.head?, isBlank c := fun c hc =>
        hend c (by rw [hfront, List.head?_append, Option.mem_def.1 hc]; rfl)
      refine ⟨left, ⟨⟨gap ++ word ++ front, ?_, .word hgap hne hword hhead hruns⟩, hbehind, hnext⟩,
        ?_⟩
      · rw [hfront, List.append_assoc _ front]
      · rw [takeWords_succ_word hgap hne hword hend, htake]
        rfl

end Text

namespace Strings

variable {sep : Option Text}

/-- Without a separator words are taken off from the left. -/
theorem splitPieces_of_given (s : Text) (hsep : given sep = none) (limit : Option Nat) :
    splitPieces s sep limit = Text.takeWords (limit.getD s.length) s := by
  rw [splitPieces, hsep]

/-- A split from the right is the mirror image of one of the reversed text. -/
theorem splitLastPieces_of_given (s : Text) (hsep : given sep = none) (limit : Option Nat) :
    splitLastPieces s sep limit = Text.mirrored (splitPieces s.reverse sep limit) := by
  rw [splitPieces_of_given _ hsep, ← Text.takeLastWords_eq, List.length_reverse]
  simp only [splitLastPieces, hsep]

/-- **Splitting at blanks loses nothing but blanks, and from the right it is the mirror image.**
Without a limit either direction returns the words of the text, its maximal runs of characters that
are not blank. A limit that the number of words does not exceed changes nothing; with a smaller one
the pieces are as many words as the limit says and all that is left of the text behind them, from
the next word on. From the right the pieces are those of the reversed text, each of them and their
list reversed. -/
theorem splitPieces_at_blanks (s : Text) (hsep : given sep = none) :
    Text.Runs s s.words ∧ splitPieces s sep none = s.words ∧ splitLastPieces s sep none = s.words ∧
      ∀ n, (s.words.length ≤ n → splitPieces s sep (some n) = s.words) ∧
        (n < s.words.length → ∃ rest, Text.LeftBehind s s.words n rest ∧
          splitPieces s sep (some n) = s.words.take n ++ [rest]) ∧
        splitLastPieces s sep (some n) = Text.mirrored (splitPieces s.reverse sep (some n)) := by
  have hall : ∀ s : Text, splitPieces s sep none = s.words := fun s => by
    have hruns := Text.runs_words s
    rw [splitPieces_of_given s hsep]
    exact hruns.takeWords_of_le hruns.length_le
  have hruns := Text.runs_words s
  refine ⟨hruns, hall s, ?_, fun n => ⟨fun hn => ?_, fun hn => ?_, ?_⟩⟩
  · rw [splitLastPieces_of_given s hsep, hall, Text.words_reverse, Text.mirrored_mirrored]
  · rw [splitPieces_of_given s hsep]
    exact hruns.takeWords_of_le hn
  · rw [splitPieces_of_given s hsep]
    exact hruns.takeWords_of_lt hn
  · exact splitLastPieces_of_given s hsep _

/-- One word is taken off, and the blanks behind the last one stay with the rest. -/
theorem splitPieces_at_blanks_spaces : given (some []) = none ∧
    ∃ rest, Text.LeftBehind "  a b  c  " (Text.words "  a b  c  ") 1 rest ∧
      splitPieces "  a b  c  " (some []) (some 1) = ["a".toList] ++ [rest] := by
  have hsep : given (some []) = none := rfl
  exact ⟨hsep, ((splitPieces_at_blanks "  a b  c  " hsep).2.2.2 1).2.1 (by decide)⟩

example : splitPieces "  a b  c  " none (some 1) = ["a".toList, "b  c  ".toList] ∧
    splitLastPieces "  a b  c  " none (some 1) = ["  a b".toList, "c".toList] := by decide

end Strings

end MakeHost
