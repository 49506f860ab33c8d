import MakeHost.DefineBlock
import MakeHost.Name
import MakeHost.Proofs.Lines

/-!
# Reading a define block back

`DefineBlock.Broken` is the rule behind `DefineBlock.broken`: what each part of a text becomes. Text
that was broken up has no line that make would take for a directive and no line that goes on in the
next one: before each `define` and `endef` in it stands a character that is not blank
(`Broken.before_keyword`), and behind each backslash one that is no line feed
(`Broken.behind_backslash`). So a block with such a text as its body is read as one statement that
assigns the text unchanged (`Make.statements_block`).
-/

namespace MakeHost

namespace DefineBlock

variable {double : Bool} {s t front back word : Text}

/-- Breaking up a text, part by part. -/
inductive Broken (double : Bool) : Text → Text → Prop
  | nil : Broken double [] []
  | define {s t : Text} : Broken double s t → Broken double ("define" ++ s) ("$()define" ++ t)
  | endef {s t : Text} : Broken double s t → Broken double ("endef" ++ s) ("$()endef" ++ t)
  | join {s t : Text} : Broken double s t → Broken double ("\\\n" ++ s) ("\\$()\n" ++ t)
  | last : Broken double "\\" "\\$()"
  | dollar {s t : Text} : Broken double s t →
      Broken double ('$' :: s) ((if double then "$$" else "$") ++ t)
  | plain {c : Char} {s t : Text} : c ≠ '$' → ¬ "define".toList <+: c :: s →
      ¬ "endef".toList <+: c :: s → (c = '\\' → s ≠ [] ∧ ¬ "\n".toList <+: s) →
      Broken double s t → Broken double (c :: s) (c :: t)

/-- The function follows the rule. -/
theorem broken_spec (double : Bool) (s : Text) : Broken double s (broken double s) := by
  fun_induction broken double s with
  | case1 s ih => exact .define ih
  | case2 s ih => exact .endef ih
  | case3 s ih => exact .join ih
  | case4 => exact .last
  | case5 s ih => exact .dollar ih
  | case6 c s hdefine hendef hjoin hlast hdollar ih =>
    refine .plain (fun h => hdollar h) ?_ ?_ (fun hc => ⟨hlast hc, ?_⟩) ih
    · rintro ⟨rest, hrest⟩
      cases hrest
      exact hdefine rest rfl rfl
    · rintro ⟨rest, hrest⟩
      cases hrest
      exact hendef rest rfl rfl
    · rintro ⟨rest, rfl⟩
      exact hjoin rest hc rfl
  | case7 => exact .nil

/-- A literal is its text broken up with the dollars doubled. -/
theorem literal_spec (s : Text) : Broken true s (literal s) := broken_spec true s

/-- A guarded text is its text broken up with the dollars as they are. -/
theorem guarded_spec (s : Text) : Broken false s (guarded s) := broken_spec false s

/-- Breaking a text up puts no character into it that is not one of the breaks'. -/
theorem Broken.notMem {double : Bool} {s t : Text} (h : Broken double s t) (hs : '\x00' ∉ s) :
    '\x00' ∉ t := by
  induction h with
  | nil | last => decide
  | define _ ih | endef _ ih | join _ ih =>
    rw [List.mem_append, not_or] at hs ⊢
    exact ⟨by decide, ih hs.2⟩
  | dollar _ ih =>
    rw [List.mem_cons, not_or] at hs
    rw [List.mem_append, not_or]
    exact ⟨by cases double <;> decide, ih hs.2⟩
  | plain _ _ _ _ _ ih =>
    rw [List.mem_cons, not_or] at hs ⊢
    exact ⟨hs.1, ih hs.2⟩

/-! ## Keywords in a broken text -/

/-- The words that open and close a block. -/
def IsKeyword (word : Text) : Prop := word = "define" ∨ word = "endef"

/-- What stands at the beginning of a text and holds nowhere its first character is empty. -/
theorem eq_nil_of_begins {c : Char} (hword : ∀ a ∈ word, a ≠ c) (h : word <+: c :: s) :
    word = [] := by
  cases word with
  | nil => rfl
  | cons a word => exact absurd (List.cons_prefix_cons.1 h).1 (hword a List.mem_cons_self)

/-- Words that hold no part of a break stand where they stood. -/
theorem Broken.begins_of_begins (h : Broken double s t)
    (hword : ∀ c ∈ word, c ≠ '$' ∧ c ≠ '\\') (hbegins : word <+: t) : word <+: s := by
  have hdollar : ∀ c ∈ word, c ≠ '$' := fun c hc => (hword c hc).1
  have hbackslash : ∀ c ∈ word, c ≠ '\\' := fun c hc => (hword c hc).2
  induction h generalizing word with
  | nil => exact hbegins
  | define | endef => exact eq_nil_of_begins hdollar hbegins ▸ List.nil_prefix
  | join | last => exact eq_nil_of_begins hbackslash hbegins ▸ List.nil_prefix
  | dollar =>
    cases double <;> exact eq_nil_of_begins hdollar hbegins ▸ List.nil_prefix
  | @plain c s t _ _ _ _ _ ih =>
    cases word with
    | nil => exact List.nil_prefix
    | cons a word =>
      obtain ⟨rfl, hrest⟩ := List.cons_prefix_cons.1 hbegins
      have hmem : ∀ {c}, c ∈ word → c ∈ a :: word := List.mem_cons_of_mem a
      refine List.cons_prefix_cons.2 ⟨rfl, ih (fun c hc => hword c (hmem hc)) hrest ?_ ?_⟩
      · exact fun c hc => hdollar c (hmem hc)
      · exact fun c hc => hbackslash c (hmem hc)

/-- The end of `front` is inside `p` or behind it. -/
theorem append_cases {p t front back : Text} (h : p ++ t = front ++ back) :
    (∃ rest, rest ≠ [] ∧ p = front ++ rest ∧ rest ++ t = back) ∨
      ∃ f, front = p ++ f ∧ t = f ++ back := by
  rcases List.append_eq_append_iff.1 h with ⟨f, rfl, ht⟩ | ⟨rest, rfl, ht⟩
  · exact .inr ⟨f, rfl, ht⟩
  · cases rest with
    | nil => exact .inr ⟨[], by simp, by simpa using ht.symm⟩
    | cons c rest => exact .inl ⟨c :: rest, List.cons_ne_nil _ _, rfl, ht.symm⟩

/-- A text that is there and whose last character is not blank. -/
def EndsSolid (front : Text) : Prop := ∃ c, front.getLast? = some c ∧ Text.isBlank c = false

/-- A text ends so when it ends in a part that does. -/
theorem EndsSolid.append (p : Text) (h : EndsSolid front) : EndsSolid (p ++ front) := by
  obtain ⟨c, hlast, hc⟩ := h
  exact ⟨c, by simp [List.getLast?_append, hlast], hc⟩

/-- What stands before a word is solid when that holds behind a part `p`, only the last character
of `p` may be blank, and the word does not begin with `p`. -/
theorem endsSolid_of_append {p : Text} (hp : ∀ c ∈ p.dropLast, Text.isBlank c = false)
    (hword : ¬ word <+: p ++ t) (ht : p ++ t = front ++ (word ++ back))
    (ih : ∀ {front}, t = front ++ (word ++ back) → EndsSolid front) : EndsSolid front := by
  rcases append_cases ht with ⟨rest, hrest, rfl, -⟩ | ⟨f, rfl, htail⟩
  · rcases List.eq_nil_or_concat front with rfl | ⟨f, c, rfl⟩
    · exact absurd ⟨back, ht.symm⟩ hword
    · refine ⟨c, by simp, hp c ?_⟩
      rw [List.dropLast_append_of_ne_nil hrest]
      simp
  · exact (ih htail).append p

/-- Before a keyword in a broken text stands a character that is not blank. -/
theorem Broken.before_keyword (h : Broken double s t) (hword : IsKeyword word)
    (ht : t = front ++ (word ++ back)) : EndsSolid front := by
  have hhead : ∀ {c : Char} {u : Text}, c = '$' ∨ c = '\\' → ¬ word <+: c :: u := by
    rintro c u hc ⟨rest, hrest⟩
    rcases hword with rfl | rfl <;> rcases hc with rfl | rfl <;> cases hrest
  have hnil : ∀ {front : Text}, [] = front ++ (word ++ back) → EndsSolid front := by
    rcases hword with rfl | rfl <;> simp
  induction h generalizing front with
  | nil => exact hnil ht
  | define _ ih => exact endsSolid_of_append (by decide) (hhead (.inl rfl)) ht ih
  | endef _ ih => exact endsSolid_of_append (by decide) (hhead (.inl rfl)) ht ih
  | join _ ih => exact endsSolid_of_append (by decide) (hhead (.inr rfl)) ht ih
  | last =>
    exact endsSolid_of_append (p := "\\$()") (t := []) (by decide) (hhead (.inr rfl)) ht hnil
  | dollar _ ih =>
    cases double <;> exact endsSolid_of_append (by decide) (hhead (.inl rfl)) ht ih
  | @plain c s t hdollar hdefine hendef hlast h ih =>
    refine endsSolid_of_append (p := [c]) nofun (fun hbegins => ?_) ht ih
    have hs := (Broken.plain hdollar hdefine hendef hlast h).begins_of_begins
      (by rcases hword with rfl | rfl <;> decide) hbegins
    rcases hword with rfl | rfl
    · exact hdefine hs
    · exact hendef hs

/-! ## Backslashes in a broken text -/

/-- A text that is there and does not begin with a line feed: behind a backslash, it keeps make
from joining lines. -/
def Holds (back : Text) : Prop := ∃ c, back.head? = some c ∧ c ≠ '\n'

/-- Behind a part without backslashes, backslashes are where they were. -/
theorem holds_of_append {p : Text} (hp : '\\' ∉ p) (ht : p ++ t = front ++ '\\' :: back)
    (ih : ∀ {front}, t = front ++ '\\' :: back → Holds back) : Holds back := by
  rcases append_cases ht with ⟨rest, hrest, rfl, htail⟩ | ⟨f, rfl, htail⟩
  · obtain ⟨c, rest, rfl⟩ := List.exists_cons_of_ne_nil hrest
    obtain ⟨rfl, -⟩ := List.cons_eq_cons.1 htail
    simp at hp
  · exact ih htail

/-- A backslash that does not continue its line, before a text in which none does. -/
theorem holds_of_cons (h : Holds t) (ht : '\\' :: t = front ++ '\\' :: back)
    (ih : ∀ {front}, t = front ++ '\\' :: back → Holds back) : Holds back := by
  cases front with
  | nil =>
    obtain ⟨-, rfl⟩ := List.cons_eq_cons.1 ht
    exact h
  | cons c front => exact ih (List.cons_eq_cons.1 ht).2

/-- Something is left of a text that is broken up. -/
theorem Broken.ne_nil (h : Broken double s t) (hs : s ≠ []) : t ≠ [] := by
  cases h with
  | nil => exact hs
  | dollar => cases double <;> exact List.cons_ne_nil _ _
  | define | endef | join | last | plain => exact List.cons_ne_nil _ _

/-- Behind a backslash in a broken text stands a character that is no line feed. -/
theorem Broken.behind_backslash (h : Broken double s t) (ht : t = front ++ '\\' :: back) :
    Holds back := by
  induction h generalizing front with
  | nil => simp at ht
  | define _ ih | endef _ ih => exact holds_of_append (by decide) ht ih
  | @join s t _ ih =>
    refine holds_of_cons (t := "$()\n" ++ t) ⟨'$', rfl, by decide⟩ ht fun ht => ?_
    exact holds_of_append (by decide) ht ih
  | last =>
    refine holds_of_cons (t := "$()") ⟨'$', rfl, by decide⟩ ht fun ht => ?_
    exact holds_of_append (p := "$()") (t := []) (by decide) ht (by simp)
  | dollar _ ih => cases double <;> exact holds_of_append (by decide) ht ih
  | @plain c s t hdollar hdefine hendef hlast h ih =>
    by_cases hc : c = '\\'
    · subst hc
      obtain ⟨hne, hfeed⟩ := hlast rfl
      refine holds_of_cons ?_ ht ih
      obtain ⟨a, t, rfl⟩ := List.exists_cons_of_ne_nil (h.ne_nil hne)
      refine ⟨a, rfl, ?_⟩
      rintro rfl
      exact hfeed (h.begins_of_begins (by decide) ⟨t, rfl⟩)
    · exact holds_of_append (p := [c]) (by simpa using Ne.symm hc) ht ih

/-! ## Lines of a broken text -/

/-- No line of a broken text goes on in the next one. -/
theorem Broken.not_continued (h : Broken double s t) {line : Text} (hline : line ∈ t.lines) :
    line.getLast? ≠ some '\\' := by
  intro hlast
  obtain ⟨front, rfl⟩ := List.getLast?_eq_some_iff.1 hlast
  obtain ⟨before, behind, ht, -, hbehind⟩ := Text.mem_lines hline
  have hsplit : t = (before ++ front) ++ '\\' :: behind := by simp [ht]
  obtain ⟨c, hhead, hc⟩ := h.behind_backslash hsplit
  exact hc (hbehind c hhead)

/-- No line of a broken text begins with a keyword. -/
theorem Broken.not_directive (h : Broken double s t) (hword : IsKeyword word) {line : Text}
    (hline : line ∈ t.lines) : ¬ word <+: line.trim := by
  rintro ⟨rest, hrest⟩
  obtain ⟨before, behind, ht, hbefore, -⟩ := Text.mem_lines hline
  obtain ⟨blanks, after, htrim, hblanks⟩ := Text.eq_append_trim line
  have hsplit : t = (before ++ blanks) ++ (word ++ (rest ++ after ++ behind)) := by
    rw [ht, htrim, ← hrest]
    simp
  obtain ⟨c, hlast, hc⟩ := h.before_keyword hword hsplit
  have hblank : Text.isBlank c := by
    rw [List.getLast?_append, Option.or_eq_some_iff] at hlast
    rcases hlast with hlast | ⟨-, hlast⟩
    · exact hblanks c (List.mem_of_getLast? hlast)
    · cases hbefore c hlast
      decide
  rw [hc] at hblank
  cases hblank

end DefineBlock

namespace Make

open DefineBlock

/-! ## The statement of a block -/

/-- A line that does not begin with the word is no such directive. -/
theorem directive?_eq_none {word line : Text} (h : ¬ word <+: line) :
    directive? word line = none := by
  unfold directive?
  cases hline : word.isPrefixOf? line with
  | none => rfl
  | some rest => exact absurd ⟨rest, (Text.isPrefixOf?_eq_some.1 hline).symm⟩ h

/-- Lines that are no directives belong to the block's body, and the next `endef` ends it. -/
theorem statementsFrom_inside {header : Text} {ls body : List Text}
    (h : ∀ word, IsKeyword word → ∀ line ∈ ls, ¬ word <+: line.trim) :
    statementsFrom (.inside header 0 body) (ls ++ ["endef".toList]) =
      [blockStatement header (ls.reverse ++ body)] := by
  induction ls generalizing body with
  | nil => rfl
  | cons line ls ih =>
    have hendef := directive?_eq_none (h "endef" (.inr rfl) line List.mem_cons_self)
    have hdefine := directive?_eq_none (h "define" (.inl rfl) line List.mem_cons_self)
    rw [List.cons_append, statementsFrom, hendef, hdefine]
    have hbody := @ih (line :: body)
      fun word hword l hl => h word hword l (List.mem_cons_of_mem _ hl)
    simpa using hbody

/-- What may stand behind `define `: one line without blanks around it that does not go on. -/
structure IsHeader (header : Text) : Prop where
  starts : ∃ c, header.head? = some c ∧ Text.isBlank c = false
  ends : ∃ c, header.getLast? = some c ∧ Text.isBlank c = false ∧ c ≠ '\\'
  oneLine : '\n' ∉ header

variable {header : Text}

/-- No blank stands at either end of a header. -/
theorem IsHeader.trim_eq (h : IsHeader header) : header.trim = header := by
  obtain ⟨c, hc, hblank⟩ := h.starts
  obtain ⟨d, hd, hblank', -⟩ := h.ends
  exact Text.trim_of_ends hc hblank hd hblank'

/-- A line that ends in a header does not go on in the next one. -/
theorem IsHeader.getLast?_append (h : IsHeader header) (front : Text) :
    ∃ c, (front ++ header).getLast? = some c ∧ Text.isBlank c = false ∧ c ≠ '\\' := by
  obtain ⟨c, hc, hends⟩ := h.ends
  exact ⟨c, by simp only [List.getLast?_append, hc, Option.some_or], hends⟩

/-- Behind a word and a gap the whole rest is left. -/
theorem directive?_append {c : Char} (hc : header.head? = some c) (hblank : Text.isBlank c = false)
    (word : Text) : directive? word (word ++ ' ' :: header) = some header := by
  have hspace : Text.isBlank ' ' = true := by decide
  have htrim : Text.trimStart (' ' :: header) = header := by
    rw [Text.trimStart, List.dropWhile_cons_of_pos hspace]
    exact Text.trimStart_of_head? hc hblank
  rw [directive?, Text.isPrefixOf?_eq_some.2 rfl]
  dsimp only
  rw [if_pos (.inl hspace), htrim]

/-- A `define` line opens a block. -/
theorem lineKind_define (h : IsHeader header) : lineKind ("define " ++ header) = .opens header := by
  obtain ⟨c, hc, hblank⟩ := h.starts
  obtain ⟨d, hd, hblank', -⟩ := h.getLast?_append "define "
  have htrim : Text.trim ("define " ++ header) = "define " ++ header :=
    Text.trim_of_ends rfl (by decide) hd hblank'
  have hdirective : directive? "define" ("define " ++ header) = some header :=
    directive?_append hc hblank "define"
  rw [lineKind, htrim, hdirective]
  rfl

/-- An `undefine` line with a name without blanks is a statement, also when there is no name. -/
theorem lineKind_undefine {name : Text} (h : ∀ c ∈ name, Text.isBlank c = false) :
    lineKind ("undefine " ++ name) = .statement (.undefine name) := by
  cases name with
  | nil => rfl
  | cons c rest =>
    obtain ⟨d, hd⟩ := Option.isSome_iff_exists.1 (by simp : (c :: rest).getLast?.isSome)
    have hlast : ("undefine " ++ c :: rest).getLast? = some d := by
      rw [List.getLast?_append, hd, Option.some_or]
    have htrim : Text.trim ("undefine " ++ c :: rest) = "undefine " ++ c :: rest :=
      Text.trim_of_ends rfl (by decide) hlast (h d (List.mem_of_getLast? hd))
    have hdefine : directive? "define" ("undefine " ++ c :: rest) = none :=
      directive?_eq_none nofun
    have hdirective : directive? "undefine" ("undefine " ++ c :: rest) = some (c :: rest) :=
      directive?_append rfl (h c List.mem_cons_self) "undefine"
    rw [lineKind, htrim, hdefine, hdirective]
    rfl

/-- A line of its own is a logical line. -/
theorem logicalLines_header (h : IsHeader header) {front : Text} (hfront : '\n' ∉ front) :
    logicalLines (front ++ header) = [front ++ header] := by
  obtain ⟨c, hc, -, hne⟩ := h.getLast?_append front
  rw [logicalLines_of_notMem (by simpa [hfront] using h.oneLine), uncontinued_of_getLast?]
  rw [hc]
  exact fun heq => hne (Option.some_inj.1 heq)

/-- **A block whose body was broken up is one statement that assigns the body unchanged.** -/
theorem statements_block (hheader : IsHeader header) {double : Bool} {s t : Text}
    (ht : Broken double s t) : statements ("define " ++ header ++ "\n" ++ t ++ "\nendef") =
      [.assign (defineHeader header).1 (defineHeader header).2 t] := by
  have hlines : Text.lines ("define " ++ header ++ "\n" ++ t ++ "\nendef") =
      ("define " ++ header) :: (t.lines ++ ["endef".toList]) := by
    have hbody : Text.lines (t ++ '\n' :: "endef".toList) = t.lines ++ ["endef".toList] :=
      Text.lines_append_lineFeed
    have hhead : Text.lines ("define " ++ header) = ["define " ++ header] :=
      Text.lines_of_notMem (by simpa using hheader.oneLine)
    calc Text.lines ("define " ++ header ++ "\n" ++ t ++ "\nendef")
        = Text.lines (("define " ++ header) ++ '\n' :: (t ++ '\n' :: "endef".toList)) := by simp
      _ = _ := by rw [Text.lines_append_lineFeed, hbody, hhead]; rfl
  have hlogical : logicalLines ("define " ++ header ++ "\n" ++ t ++ "\nendef") =
      ("define " ++ header) :: (t.lines ++ ["endef".toList]) := by
    rw [logicalLines_of_forall, hlines]
    rw [hlines]
    intro line hline
    rcases List.mem_cons.1 hline with rfl | hline
    · obtain ⟨c, hc, -, hne⟩ := hheader.getLast?_append "define "
      rw [hc]
      exact fun h => hne (Option.some_inj.1 h)
    · rcases List.mem_append.1 hline with hline | hline
      · exact ht.not_continued hline
      · obtain rfl := List.mem_singleton.1 hline
        decide
  have hquiet : ∀ word, IsKeyword word → ∀ line ∈ t.lines, ¬ word <+: line.trim :=
    fun word hword line hline => ht.not_directive hword hline
  rw [statements, hlogical, statementsFrom, lineKind_define hheader]
  dsimp only
  rw [statementsFrom_inside hquiet, blockStatement, List.append_nil, List.reverse_reverse,
    Text.join_lines]

end Make

/-! ## Legal names -/

section
variable {name : Text}

/-- A legal name holds none of the characters that would break it. -/
theorem isNameBreaker_of_mem (h : isLegalVariableName name = true) {c : Char} (hc : c ∈ name) :
    isNameBreaker c = false := by
  have hall := (Bool.and_eq_true_iff.1 h).2
  simp only [Bool.not_eq_true', List.any_eq_false, Bool.not_eq_true] at hall
  exact hall c hc

/-- A legal name is not empty. -/
theorem ne_nil_of_isLegal (h : isLegalVariableName name = true) : name ≠ [] := by
  rintro rfl
  cases h

/-- No character of a legal name is blank. -/
theorem isBlank_of_isLegal (h : isLegalVariableName name = true) {c : Char} (hc : c ∈ name) :
    Text.isBlank c = false :=
  (Bool.or_eq_false_iff.1 (isNameBreaker_of_mem h hc)).1

/-- There is nothing to trim off a legal name. -/
theorem trim_of_isLegal (h : isLegalVariableName name = true) : name.trim = name :=
  Text.trim_of_forall fun _ hc => isBlank_of_isLegal h hc

/-- No character of a legal name has a meaning in an assignment or a reference. -/
theorem ne_of_isLegal (h : isLegalVariableName name = true) {c d : Char} (hc : c ∈ name)
    (hd : d ∈ [':', '#', '=', '$', '(', ')']) : c ≠ d := by
  rintro rfl
  have hbreaker := (Bool.or_eq_false_iff.1 (isNameBreaker_of_mem h hc)).2
  rw [List.contains_eq_mem, decide_eq_false_iff_not] at hbreaker
  exact hbreaker hd

/-- An `undefine` line with a legal name is read as it stands, but for a backslash at its end. -/
theorem statements_undefine (h : isLegalVariableName name = true) :
    Make.statements ("undefine " ++ name) = [.undefine (Make.uncontinued name)] := by
  have hfeed : '\n' ∉ name := fun hc => absurd (isBlank_of_isLegal h hc) (by decide)
  have hblank : ∀ c ∈ Make.uncontinued name, Text.isBlank c = false := fun c hc =>
    isBlank_of_isLegal h (Make.mem_of_mem_uncontinued hc)
  have hline : Make.logicalLines ("undefine " ++ name) =
      ["undefine " ++ Make.uncontinued name] := by
    rw [Make.logicalLines_of_notMem (by simpa using hfeed),
      Make.uncontinued_append_of_ne_nil _ (ne_nil_of_isLegal h)]
  rw [Make.statements, hline, Make.statementsFrom, Make.lineKind_undefine hblank]
  rfl

/-- A legal name that does not end in a backslash may stand in a `define` line. -/
theorem isHeader_of_isLegal (h : isLegalVariableName name = true)
    (hlast : name.getLast? ≠ some '\\') : Make.IsHeader name := by
  obtain ⟨c, rest, rfl⟩ := List.exists_cons_of_ne_nil (ne_nil_of_isLegal h)
  obtain ⟨d, hd⟩ := Option.isSome_iff_exists.1 (by simp : (c :: rest).getLast?.isSome)
  refine ⟨⟨c, rfl, isBlank_of_isLegal h List.mem_cons_self⟩, ⟨d, hd, ?_, ?_⟩, fun hfeed => ?_⟩
  · exact isBlank_of_isLegal h (List.mem_of_getLast? hd)
  · rintro rfl
    exact hlast hd
  · exact absurd (isBlank_of_isLegal h hfeed) (by decide)

/-- A `define` line with nothing but a legal name defines a recursive variable of that name. -/
theorem defineHeader_of_isLegal (h : isLegalVariableName name = true) :
    Make.defineHeader name = (name, .recursive) := by
  unfold Make.defineHeader
  rw [trim_of_isLegal h]
  split
  · next before hbefore =>
    have hmem : '=' ∈ name := List.mem_reverse.1 (hbefore ▸ List.mem_cons_self)
    exact absurd rfl (ne_of_isLegal h hmem (by decide))
  · rfl

/-- The operators that may stand behind the name in a `define` line of the host. -/
inductive Make.Operator : Text → Make.Assignment → Prop
  | recursive : Operator "=" .recursive
  | simple : Operator ":=" .simple
  | append : Operator "+=" .append

/-- A legal name and an operator may stand in a `define` line. -/
theorem isHeader_operator (h : isLegalVariableName name = true) {op : Text}
    {assignment : Make.Assignment} (hop : Make.Operator op assignment) :
    Make.IsHeader (name ++ " " ++ op) := by
  obtain ⟨c, rest, rfl⟩ := List.exists_cons_of_ne_nil (ne_nil_of_isLegal h)
  have hfeed : '\n' ∉ c :: rest := fun hmem => absurd (isBlank_of_isLegal h hmem) (by decide)
  refine ⟨⟨c, rfl, isBlank_of_isLegal h List.mem_cons_self⟩, ⟨'=', ?_, by decide, by decide⟩, ?_⟩
  · rw [List.getLast?_append]
    cases hop <;> rfl
  · cases hop <;> simpa using hfeed

/-- The blank between a legal name and an operator belongs to neither. -/
theorem trimEnd_of_isLegal (h : isLegalVariableName name = true) :
    Text.trimEnd (name ++ [' ']) = name := by
  obtain ⟨c, hc⟩ := Option.isSome_iff_exists.1
    (List.getLast?_isSome.2 (ne_nil_of_isLegal h))
  have hspace : Text.isBlank ' ' = true := by decide
  have hname : Text.trimEnd name = name :=
    Text.trimEnd_of_getLast? hc (isBlank_of_isLegal h (List.mem_of_getLast? hc))
  rw [Text.trimEnd, Text.dropTailWhile, List.reverse_append, List.reverse_singleton,
    List.singleton_append, List.dropWhile_cons_of_pos hspace]
  exact hname

/-- What stands before the equals sign at the end of a `define` line is the name and the
operator. -/
theorem defineHeader_of_reverse {header before : Text} (h : Make.IsHeader header)
    (hreverse : header.reverse = '=' :: before) : Make.defineHeader header =
      ((Make.assignmentBefore before).1.trimEnd, (Make.assignmentBefore before).2) := by
  unfold Make.defineHeader
  rw [h.trim_eq, hreverse]
  rfl

/-- A `define` line with an operator is read as the name and what the operator does. -/
theorem defineHeader_operator (h : isLegalVariableName name = true) {op : Text}
    {assignment : Make.Assignment} (hop : Make.Operator op assignment) :
    Make.defineHeader (name ++ " " ++ op) = (name, assignment) := by
  have hreverse : ∃ before, (name ++ " " ++ op).reverse = '=' :: before ∧
      Make.assignmentBefore before = (name ++ [' '], assignment) := by
    cases hop with
    | recursive => exact ⟨' ' :: name.reverse, by simp, by simp [Make.assignmentBefore]⟩
    | simple => exact ⟨':' :: ' ' :: name.reverse, by simp, by simp [Make.assignmentBefore]⟩
    | append => exact ⟨'+' :: ' ' :: name.reverse, by simp, by simp [Make.assignmentBefore]⟩
  obtain ⟨before, hreverse, hbefore⟩ := hreverse
  rw [defineHeader_of_reverse (isHeader_operator h hop) hreverse, hbefore, trimEnd_of_isLegal h]

end

end MakeHost
