import MakeHost.Library.Strings
import MakeHost.Proofs.CaseTables
import Mathlib.Data.List.Induction

/-!
# Title case

`Strings.title` writes a character in lowercase behind a letter of the text, `Strings.isTitle` wants
it in lowercase behind a cased character of what was written. `Strings.caseAfter` reads a piece of a
text the way `isTitle` does and keeps what the next piece needs to know, so the result of `title`
can be read form by form. The two agree where the forms of every letter are in title case where they
are written and end in a cased character (`Strings.TitleForms`). The letters of ASCII have such
forms (`Strings.titleForms_of_ascii`). A ligature, whose uppercase form is several capitals, has
not, nor has a letter without case.
-/

namespace MakeHost

namespace Text

/-- Whether a character is uppercase or lowercase. -/
def hasCase (c : Char) : Bool := isUpper c || isLower c

/-- A cased character is a letter. -/
theorem isLetter_of_hasCase {c : Char} (h : hasCase c = true) : isLetter c = true := by
  rcases Bool.or_eq_true_iff.1 h with hupper | hlower
  · exact isLetter_of_isUpper hupper
  · exact isLetter_of_isLower hlower

/-- What is no letter has no case. -/
theorem hasCase_of_not_isLetter {c : Char} (h : isLetter c = false) : hasCase c = false :=
  Bool.eq_false_iff.2 fun hcase => Bool.noConfusion ((isLetter_of_hasCase hcase).symm.trans h)

end Text

namespace Strings

open Text (hasCase isUpper isLower isLetter lowerChar upperChar)

variable {b b' : Bool} {c : Char} {s : Text}

/-! ## Reading -/

/-- Reads a text that stands behind a cased character, or does not, and tells whether a cased
character stands at its end. There is no answer when a character does not have the case it should
have there. -/
def caseAfter (behindCased : Bool) : Text → Option Bool
  | [] => some behindCased
  | c :: s =>
    if isUpper c then if behindCased then none else caseAfter true s
    else if isLower c then if behindCased then caseAfter true s else none
    else caseAfter false s

/-- A text is in title case where it is read to its end and has a cased character. -/
theorem isTitleFrom_eq (b seen : Bool) (s : Text) :
    isTitleFrom b seen s = ((caseAfter b s).isSome && (seen || s.any hasCase)) := by
  induction s generalizing b seen with
  | nil => simp [isTitleFrom, caseAfter]
  | cons c s ih =>
    cases hupper : isUpper c <;> cases hlower : isLower c <;> cases b <;>
      simp [isTitleFrom, caseAfter, hasCase, hupper, hlower, ih]

/-- A text is read behind what was read of the one in front. -/
theorem caseAfter_append (b : Bool) (s t : Text) :
    caseAfter b (s ++ t) = (caseAfter b s).bind (caseAfter · t) := by
  induction s generalizing b with
  | nil => rfl
  | cons c s ih =>
    cases hupper : isUpper c <;> cases hlower : isLower c <;> cases b <;>
      simp [caseAfter, hupper, hlower, ih]

/-- Behind a character it only counts whether that one has a case. -/
theorem eq_hasCase_of_caseAfter (h : caseAfter b [c] = some b') : b' = hasCase c := by
  cases hupper : isUpper c <;> cases hlower : isLower c <;> cases b <;>
    simp_all [caseAfter, hasCase]

/-- Behind what is no letter a text begins anew. -/
theorem caseAfter_of_not_isLetter (h : isLetter c = false) : caseAfter b [c] = some false := by
  obtain ⟨hupper, hlower⟩ := Bool.or_eq_false_iff.1 (Text.hasCase_of_not_isLetter h)
  simp [caseAfter, hupper, hlower]

/-- Whether a text ends in a cased character. -/
def endsCased (s : Text) : Bool := s.getLast?.any hasCase

/-- What is kept of a text is whether it ends in a cased character. -/
theorem eq_endsCased_of_caseAfter (h : caseAfter false s = some b') : b' = endsCased s := by
  cases s using List.reverseRecOn with
  | nil => exact (Option.some.inj h).symm
  | append_singleton s c =>
    rw [caseAfter_append, Option.bind_eq_some_iff] at h
    obtain ⟨_, -, hc⟩ := h
    rw [eq_hasCase_of_caseAfter hc, endsCased, List.getLast?_concat, Option.any_some]

/-- A text that takes the reader behind a cased character holds one. -/
theorem any_hasCase_of_caseAfter (h : caseAfter false s = some true) : s.any hasCase = true := by
  have hends : s.getLast?.any hasCase = true := (eq_endsCased_of_caseAfter h).symm
  obtain ⟨c, hc, hcase⟩ := (Option.any_eq_true _ _).1 hends
  exact List.any_eq_true.2 ⟨c, List.mem_of_getLast? hc, hcase⟩

/-- Whether a text ends in a letter. -/
def endsInLetter (s : Text) : Bool := s.getLast?.any isLetter

/-- A text ends in its last character. -/
theorem endsInLetter_concat (s : Text) (c : Char) : endsInLetter (s ++ [c]) = isLetter c := by
  rw [endsInLetter, List.getLast?_concat, Option.any_some]

/-- Every run of letters starts in uppercase and goes on in lowercase. -/
def RunsTitled (s : Text) : Prop :=
  ∀ front c, front ++ [c] <+: s → isLetter c = true →
    isUpper c = !endsInLetter front ∧ isLower c = endsInLetter front

/-- A text with such runs is read to its end. -/
theorem caseAfter_of_runsTitled (h : RunsTitled s) : caseAfter false s = some (endsInLetter s) := by
  induction s using List.reverseRecOn with
  | nil => rfl
  | append_singleton s c ih =>
    have hs : RunsTitled s := fun front d hfront =>
      h front d (hfront.trans (List.prefix_append s [c]))
    have hc := h s c List.prefix_rfl
    rw [caseAfter_append, ih hs, Option.bind_some, endsInLetter_concat]
    cases hletter : isLetter c with
    | true =>
      obtain ⟨hupper, hlower⟩ := hc hletter
      cases hends : endsInLetter s <;> simp [caseAfter, hupper, hlower, hends]
    | false => exact caseAfter_of_not_isLetter hletter

/-- A text with such runs of letters is in title case. -/
theorem isTitle_of_runsTitled (h : RunsTitled s) (hs : s.any hasCase = true) :
    isTitle s = true := by
  rw [isTitle, isTitleFrom_eq, caseAfter_of_runsTitled h, hs]
  rfl

/-! ## Writing -/

/-- What a title has for a character, behind a letter or not. -/
def titleForm (behindLetter : Bool) (c : Char) : Text :=
  if behindLetter then lowerChar c else upperChar c

/-- A title goes on behind a character, in lowercase if it is a letter. -/
theorem titleFrom_cons (b : Bool) (c : Char) (s : Text) :
    titleFrom b (c :: s) = titleForm b c ++ titleFrom (isLetter c) s := rfl

/-- What is written for a character depends on the one in front. -/
theorem titleFrom_concat (b : Bool) (s : Text) (c : Char) :
    titleFrom b (s ++ [c]) = titleFrom b s ++ titleForm (s.getLast?.elim b isLetter) c := by
  induction s generalizing b with
  | nil => exact List.append_nil _
  | cons d s ih =>
    rw [List.cons_append, titleFrom_cons, titleFrom_cons, ih, List.append_assoc,
      List.getLast?_cons]
    cases s.getLast? <;> rfl

/-- A title is written form by form. -/
theorem title_concat (s : Text) (c : Char) :
    title (s ++ [c]) = title s ++ titleForm (endsInLetter s) c := by
  rw [title, titleFrom_concat, endsInLetter]
  cases s.getLast? <;> rfl

/-- Whether the form that a title has for a character is in the right case behind what it has for
the characters before. -/
def fitsBehind (front : Text) (c : Char) : Bool :=
  (caseAfter (endsCased (title front)) (titleForm (endsInLetter front) c)).isSome

/-- A title is read to its end if and only if each of its characters is in the right case. -/
theorem caseAfter_title_isSome (s : Text) : (caseAfter false (title s)).isSome = true ↔
    ∀ front c, front ++ [c] <+: s → fitsBehind front c = true := by
  induction s using List.reverseRecOn with
  | nil => simp [title, titleFrom, caseAfter]
  | append_singleton s d ih =>
    have hstep : (caseAfter false (title (s ++ [d]))).isSome = true ↔
        (caseAfter false (title s)).isSome = true ∧ fitsBehind s d = true := by
      rw [title_concat, caseAfter_append]
      cases h : caseAfter false (title s) with
      | none => simp
      | some b => simp [eq_endsCased_of_caseAfter h, fitsBehind]
    rw [hstep, ih]
    simp only [List.prefix_concat_iff]
    constructor
    · rintro ⟨hs, hd⟩ front c (heq | hfront)
      · obtain ⟨rfl, hc⟩ := List.append_inj' heq rfl
        obtain rfl := List.singleton_inj.1 hc
        exact hd
      · exact hs front c hfront
    · exact fun h => ⟨fun front c hfront => h front c (.inr hfront), h s d (.inl rfl)⟩

/-! ## Letters -/

/-- The uppercase form of the letter is in title case behind an uncased character and its lowercase
form behind a cased one, and both end in a cased character. -/
structure TitleForms (c : Char) : Prop where
  upper : caseAfter false (upperChar c) = some true
  lower : caseAfter true (lowerChar c) = some true

instance : Decidable (TitleForms c) :=
  decidable_of_iff
    (caseAfter false (upperChar c) = some true ∧ caseAfter true (lowerChar c) = some true)
    ⟨fun h => ⟨h.1, h.2⟩, fun h => ⟨h.upper, h.lower⟩⟩

/-- The letters of ASCII have forms in title case. -/
theorem titleForms_of_ascii (hc : c.toNat < 128) (hletter : isLetter c = true) :
    TitleForms c := by
  have hcapital : ∀ i : Fin 26, TitleForms (Char.ofNat (65 + i)) := by decide +kernel
  have hsmall : ∀ i : Fin 26, TitleForms (Char.ofNat (97 + i)) := by decide +kernel
  rcases Text.ascii_of_isLetter hletter hc with ⟨hfirst, hlast⟩ | ⟨hfirst, hlast⟩
  · have hi := hcapital ⟨c.toNat - 65, by omega⟩
    rwa [Nat.add_sub_cancel' hfirst, Char.ofNat_toNat] at hi
  · have hi := hsmall ⟨c.toNat - 97, by omega⟩
    rwa [Nat.add_sub_cancel' hfirst, Char.ofNat_toNat] at hi

/-- With such letters the reader is behind a cased character exactly when the writer is behind a
letter, and both stay so. -/
theorem caseAfter_titleForm (h : isLetter c = true → TitleForms c) (b : Bool) :
    caseAfter b (titleForm b c) = some (isLetter c) := by
  cases hletter : isLetter c with
  | true =>
    cases b with
    | true => exact (h hletter).lower
    | false => exact (h hletter).upper
  | false =>
    have hform : titleForm b c = [c] := by
      cases b with
      | true => exact Text.lowerChar_of_not_isLetter hletter
      | false => exact Text.upperChar_of_not_isLetter hletter
    rw [hform, caseAfter_of_not_isLetter hletter]

/-- Where every letter has such forms what is written is read to its end. -/
theorem caseAfter_titleFrom (h : ∀ c ∈ s, isLetter c = true → TitleForms c) (b : Bool) :
    (caseAfter b (titleFrom b s)).isSome = true := by
  induction s generalizing b with
  | nil => rfl
  | cons c s ih =>
    obtain ⟨hc, hs⟩ := List.forall_mem_cons.1 h
    rw [titleFrom_cons, caseAfter_append, caseAfter_titleForm hc, Option.bind_some]
    exact ih hs _

/-- The first letter of a text is written in uppercase, so there is a cased character in it. -/
theorem any_hasCase_title (h : ∀ c ∈ s, isLetter c = true → TitleForms c)
    (hs : s.any isLetter = true) : (title s).any hasCase = true := by
  induction s with
  | nil => cases hs
  | cons c s ih =>
    obtain ⟨hc, hrest⟩ := List.forall_mem_cons.1 h
    rw [title, titleFrom_cons, List.any_append]
    cases hletter : isLetter c with
    | true =>
      rw [any_hasCase_of_caseAfter (s := titleForm false c) (hc hletter).upper, Bool.true_or]
    | false =>
      rw [List.any_cons, hletter, Bool.false_or] at hs
      rw [← title, ih hrest hs, Bool.or_true]

/-- A text whose letters have such forms becomes a title. -/
theorem isTitle_title (h : ∀ c ∈ s, isLetter c = true → TitleForms c)
    (hs : s.any hasCase = true) : isTitle (title s) = true := by
  have hletter : s.any isLetter = true := by
    obtain ⟨c, hc, hcase⟩ := List.any_eq_true.1 hs
    exact List.any_eq_true.2 ⟨c, hc, Text.isLetter_of_hasCase hcase⟩
  rw [isTitle, isTitleFrom_eq, any_hasCase_title h hletter, title, caseAfter_titleFrom h]
  rfl

/-- Only a piece that ends in a cased character can have an `a` behind it. -/
theorem eq_some_true_of_append_a (h : (caseAfter b (s ++ ['a'])).isSome = true) :
    caseAfter b s = some true := by
  have ha : (caseAfter false ['a']).isSome = false := by decide
  rw [caseAfter_append] at h
  cases hs : caseAfter b s with
  | none => rw [hs] at h; cases h
  | some b' =>
    cases b' with
    | false => rw [hs, Option.bind_some, ha] at h; cases h
    | true => rfl

/-- A letter that comes out well before an `a` and between two of them has such forms. -/
theorem titleForms_of_isTitle (hletter : isLetter c = true)
    (hfirst : isTitle (title [c, 'a']) = true) (hmiddle : isTitle (title ['a', c, 'a']) = true) :
    TitleForms c := by
  have hisLetter : isLetter 'a' = true := by decide
  have hupper : titleForm false 'a' = ['A'] := by decide
  have hlower : titleForm true 'a' = ['a'] := by decide
  have hA : caseAfter false ['A'] = some true := by decide
  have hfirst_eq : title [c, 'a'] = upperChar c ++ ['a'] := by
    rw [title, titleFrom_cons, hletter, titleFrom_cons, hlower]
    rfl
  have hmiddle_eq : title ['a', c, 'a'] = ['A'] ++ (lowerChar c ++ ['a']) := by
    rw [title, titleFrom_cons, hupper, hisLetter, titleFrom_cons, hletter, titleFrom_cons, hlower]
    rfl
  rw [hfirst_eq, isTitle, isTitleFrom_eq, Bool.and_eq_true] at hfirst
  rw [hmiddle_eq, isTitle, isTitleFrom_eq, Bool.and_eq_true, caseAfter_append, hA,
    Option.bind_some] at hmiddle
  exact ⟨eq_some_true_of_append_a hfirst.1, eq_some_true_of_append_a hmiddle.1⟩

/-- **Where a title is one.** The result of `title` is in title case exactly when it has a cased
character and every character of the text is written in the right case behind what is written before
it; for a result with a cased character it is enough that its runs of letters start in uppercase and
go on in lowercase. An alphabet, together with the letter `a`, gives such results for all of its
texts with a cased character exactly when every letter of it has forms in title case that end in a
cased character. -/
theorem isTitle_title_iff (s : Text) (alphabet : Char → Prop) :
    (isTitle (title s) = true ↔ (title s).any hasCase = true ∧
      ∀ front c, front ++ [c] <+: s → fitsBehind front c = true) ∧
    (RunsTitled (title s) → (title s).any hasCase = true → isTitle (title s) = true) ∧
    ((∀ t : Text, (∀ c ∈ t, alphabet c ∨ c = 'a') → t.any hasCase = true →
        isTitle (title t) = true) ↔
      ∀ c, alphabet c → isLetter c = true → TitleForms c) := by
  refine ⟨?_, isTitle_of_runsTitled, fun h c hc hletter => ?_, fun h t ht hcase => ?_⟩
  · rw [isTitle, isTitleFrom_eq, Bool.false_or, Bool.and_eq_true, caseAfter_title_isSome, and_comm]
  · have ha : hasCase 'a' = true := by decide
    refine titleForms_of_isTitle hletter (h _ ?_ ?_) (h _ ?_ ?_)
    · simp [hc]
    · simp [ha]
    · simp [hc]
    · simp [ha]
  · refine isTitle_title (fun c hmem hletter => ?_) hcase
    rcases ht c hmem with hc | rfl
    · exact h c hc hletter
    · exact titleForms_of_ascii (by decide) hletter

/-- Letters with accents and Cyrillic ones have such forms, so titles of them are in title case. -/
theorem isTitle_title_iff_accented :
    (∀ c ∈ ("éøЖ" : Text), isLetter c = true → TitleForms c) ∧
    ∀ t : Text, (∀ c ∈ t, c ∈ ("éøЖ" : Text) ∨ c = 'a') → t.any hasCase = true →
      isTitle (title t) = true := by
  have hforms : ∀ c ∈ ("éøЖ" : Text), isLetter c = true → TitleForms c := by decide
  exact ⟨hforms, (isTitle_title_iff [] (· ∈ ("éøЖ" : Text))).2.2.2 hforms⟩

/-- Letters that are written as several capitals, that have no case, or that are lowercase without
an uppercase form. -/
theorem not_isTitle_title :
    (("ﬁnd" : Text).any hasCase = true ∧ title "ﬁnd" = "FInd" ∧ isTitle (title "ﬁnd") = false) ∧
    (("中a" : Text).any hasCase = true ∧ title "中a" = "中a" ∧ isTitle (title "中a") = false) ∧
    (("ª" : Text).any hasCase = true ∧ title "ª" = "ª" ∧ isTitle (title "ª") = false) := by
  decide +kernel

end Strings

end MakeHost
