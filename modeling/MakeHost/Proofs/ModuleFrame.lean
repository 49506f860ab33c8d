import MakeHost.Proofs.ItemParts
import MakeHost.Proofs.Packages
import MakeHost.Proofs.WrittenNames

/-!
# What stays of a module

To make it a package a module is taken apart and written again with two items more.
`package_extends_iff` says when that leaves all of it in its place, however the syntax library
writes what it has read: when no attributes of the module stand between its braces, it is not marked
as unsafe, and its items are written as they were read.
-/

namespace MakeHost.Wrapper

variable {print : Printer} {text given : Text} {item : ModuleItem} {content : List TokenTree}

/-! ## Modules part by part -/

/-- Where there are no inner attributes in front nothing is split off. -/
theorem innerAttributes_of_nil {tokens : List TokenTree} (h : (innerAttributes tokens).1 = []) :
    (innerAttributes tokens).2 = tokens := by
  unfold innerAttributes at h ⊢
  split at h
  · cases h
  · rfl

/-- A module with items, part by part. -/
structure ModuleLayout where
  /-- The attributes in front. -/
  outer : List Attribute
  /-- Their tokens. -/
  marks : List TokenTree
  isMarks : IsMarks marks
  textsAll_marks : TokenTree.textsAll marks = TokenTree.textsAll (outer.flatMap Attribute.tokens)
  visible : List TokenTree
  isVisibility : IsVisibility visible
  isUnsafe : Bool
  name : Text
  /-- What stands between the braces. -/
  body : List TokenTree

namespace ModuleLayout

/-- The tokens between the attributes and the braces. -/
def heading (m : ModuleLayout) : List TokenTree :=
  m.visible ++ ((if m.isUnsafe then [.ident "unsafe".toList] else []) ++
    [.ident "mod".toList, .ident m.name])

/-- The tokens of the module. -/
def tokens (m : ModuleLayout) : List TokenTree :=
  m.marks ++ m.heading ++ [.group .brace m.body]

/-- The module with code behind its last item. -/
def extended (m : ModuleLayout) (added : Code) : Code :=
  TokenTree.textsAll (m.marks ++ m.heading) ++
    (code "\x7b" ++ (TokenTree.textsAll m.body ++ (added ++ code "\x7d")))

/-- The attributes between the braces, in front of the items. -/
def inner (m : ModuleLayout) : List Attribute := (innerAttributes m.body).1

/-- The items. -/
def items (m : ModuleLayout) : List TokenTree := (innerAttributes m.body).2

/-- The module as it is written again, with code behind its last item: the attributes between the
braces follow the ones in front. -/
def rewritten (m : ModuleLayout) (print : Printer) (added : Code) : Code :=
  TokenTree.textsAll ((m.outer ++ m.inner).flatMap (Attribute.written print) ++ m.visible) ++
    (code "mod" ++ ([m.name] ++ (code "\x7b" ++
      ((itemsOf m.items).flatMap print.itemCode ++ (added ++ code "\x7d")))))

/-- Whether the attributes in front are written as they were read. -/
def KeepsMarks (m : ModuleLayout) (print : Printer) : Prop :=
  ∀ a ∈ m.outer, TokenTree.textsAll (print.mark a.content) = TokenTree.textsAll a.content

/-- Whether the items are written as they were read. -/
def KeepsItems (m : ModuleLayout) (print : Printer) : Prop :=
  (itemsOf m.items).flatMap print.itemCode = TokenTree.textsAll m.items

/-- Items each of which is written as it was read. -/
theorem keepsItems_of_forall (m : ModuleLayout)
    (h : ∀ tokens ∈ itemsOf m.items, print.itemCode tokens = TokenTree.textsAll tokens) :
    m.KeepsItems print := by
  have hflatten : ∀ items : List (List TokenTree),
      TokenTree.textsAll items.flatten = items.flatMap TokenTree.textsAll := by
    intro items
    induction items with
    | nil => rfl
    | cons tokens items ih => simp [ih]
  rw [KeepsItems, List.flatMap_def, List.map_congr_left h, ← List.flatMap_def, ← hflatten,
    Package.flatten_itemsOf]

/-- Attributes that are written as they were read. -/
theorem textsAll_written (m : ModuleLayout) (h : m.KeepsMarks print) :
    TokenTree.textsAll (m.outer.flatMap (Attribute.written print)) =
      TokenTree.textsAll m.marks := by
  have hone : ∀ a : Attribute,
      TokenTree.textsAll (print.mark a.content) = TokenTree.textsAll a.content →
        TokenTree.textsAll (a.written print) = TokenTree.textsAll a.tokens := by
    intro a ha
    simp [Attribute.written, Attribute.tokens, TokenTree.texts, ha]
  rw [m.textsAll_marks]
  unfold KeepsMarks at h
  generalize m.outer = attributes at h ⊢
  induction attributes with
  | nil => rfl
  | cons a attributes ih =>
    rw [List.flatMap_cons, List.flatMap_cons, TokenTree.textsAll_append, TokenTree.textsAll_append,
      hone a (h a (.head _)), ih fun b hb => h b (.tail _ hb)]

/-- Behind its attributes a module begins with a word. -/
theorem textsAll_heading (m : ModuleLayout) : ∃ word behind,
    TokenTree.textsAll m.heading = word :: behind ∧ word ≠ ['#'] := by
  rcases m.isVisibility with hnone | ⟨restriction, -, hpub⟩
  · cases hqualified : m.isUnsafe with
    | false => exact ⟨"mod".toList, _, by rw [heading, hnone, hqualified]; rfl, by decide⟩
    | true => exact ⟨"unsafe".toList, _, by rw [heading, hnone, hqualified]; rfl, by decide⟩
  · exact ⟨"pub".toList, _, by rw [heading, hpub]; rfl, by decide⟩

/-- A module begins as it does with code behind its last item. -/
theorem head?_extended (m : ModuleLayout) (added : Code) :
    (m.extended added).head? = (TokenTree.textsAll m.tokens).head? := by
  obtain ⟨word, behind, hword, -⟩ := m.textsAll_heading
  simp [extended, tokens, hword, List.head?_append]

/-- Where no token is the word `unsafe` the module is not marked so. -/
theorem isUnsafe_of_any (m : ModuleLayout)
    (h : (m.tokens.any fun t => t.isIdent "unsafe") = false) : m.isUnsafe = false := by
  cases hqualified : m.isUnsafe with
  | false => rfl
  | true => simp [tokens, heading, hqualified, TokenTree.isIdent] at h

/-- An attribute between the braces is written before the module, whose first word then stands
elsewhere. -/
theorem written_inner_ne (m : ModuleLayout) (h : m.inner ≠ []) (rest behind : Code) :
    TokenTree.textsAll (m.inner.flatMap (Attribute.written print)) ++ rest ≠
      TokenTree.textsAll m.heading ++ behind := by
  obtain ⟨word, more, hword, hne⟩ := m.textsAll_heading
  cases hinner : m.inner with
  | nil => exact absurd hinner h
  | cons a attributes =>
    rw [hword]
    intro heq
    have hmark : (['#'] : Text) = word := (List.cons.inj heq).1
    exact hne hmark.symm

/-- Where the word `unsafe` stands it is not written again. -/
theorem written_unsafe_ne (m : ModuleLayout) (h : m.isUnsafe = true) (rest behind : Code) :
    TokenTree.textsAll m.visible ++ (code "mod" ++ rest) ≠
      TokenTree.textsAll m.heading ++ behind := by
  rw [heading, h, TokenTree.textsAll_append, List.append_assoc]
  intro heq
  have hword : "mod".toList = "unsafe".toList := (List.cons.inj (List.append_cancel_left heq)).1
  exact absurd hword (by decide)

/-- Where the attributes in front are kept, a module is written as it stood with code behind its
last item if and only if all else is kept. -/
theorem rewritten_eq_extended_iff (m : ModuleLayout) (hmarks : m.KeepsMarks print)
    (added : Code) : m.rewritten print added = m.extended added ↔
      m.inner = [] ∧ m.isUnsafe = false ∧ m.KeepsItems print := by
  rw [rewritten, extended, List.flatMap_append]
  simp only [TokenTree.textsAll_append, List.append_assoc, m.textsAll_written hmarks,
    List.append_cancel_left_eq]
  by_cases hinner : m.inner = []
  · have hitems : m.items = m.body := innerAttributes_of_nil hinner
    rw [hinner, List.flatMap_nil, TokenTree.textsAll_nil, List.nil_append]
    cases hqualified : m.isUnsafe with
    | true => simpa using m.written_unsafe_ne hqualified _ _
    | false =>
      have hheading : TokenTree.textsAll m.heading =
          TokenTree.textsAll m.visible ++ (code "mod" ++ [m.name]) := by
        rw [heading, hqualified, TokenTree.textsAll_append]
        rfl
      rw [hheading, KeepsItems, hitems]
      simp only [List.append_assoc, List.append_cancel_left_eq, List.append_cancel_right_eq,
        true_and]
  · exact ⟨fun heq => absurd heq (m.written_inner_ne hinner _ _), fun h => absurd h.1 hinner⟩

end ModuleLayout

/-- What stands between the braces that tokens end in. -/
def lastBody (tokens : List TokenTree) : List TokenTree :=
  match tokens.getLast? with
  | some (.group .brace body) => body
  | _ => []

/-- The last braces of a module hold its body. -/
@[simp] theorem lastBody_tokens (m : ModuleLayout) : lastBody m.tokens = m.body := by
  rw [lastBody, ModuleLayout.tokens, List.getLast?_concat]

/-- What was read of a module behind its attributes is its visibility, its words, its name and its
body. -/
theorem append_of_readModuleName {rest afterWord body : List TokenTree} {name : Text}
    (hword : word? "mod" (word? "unsafe" (visibility rest).2).2 = (true, afterWord))
    (hname : readModuleName afterWord = .ok (name, [.group .brace body])) :
    (visibility rest).1 ++ ((if (word? "unsafe" (visibility rest).2).1
      then [.ident "unsafe".toList] else []) ++
        [.ident "mod".toList, .ident name, .group .brace body]) = rest := by
  have hmod := word?_append "mod" (word? "unsafe" (visibility rest).2).2
  have hbody : [.ident "mod".toList, .ident name, .group .brace body] =
      (word? "unsafe" (visibility rest).2).2 := by
    rw [← hmod, hword, eq_cons_of_readModuleName hname]
    rfl
  rw [hbody, word?_append, visibility_append]

/-- A module that was read, part by part. -/
theorem ModuleItem.exists_layout {tokens : List TokenTree}
    (h : ModuleItem.ofTokens tokens = .ok item) (hcontent : item.content = some content) :
    ∃ m : ModuleLayout, m.tokens = tokens ∧ m.visible = item.visibility ∧ m.name = item.name ∧
      item.attributes = m.outer ++ m.inner ∧ content = m.items := by
  unfold ModuleItem.ofTokens at h
  obtain ⟨⟨outer, rest⟩, hattributes, h⟩ := bind_eq_ok.1 h
  have houter : outerAttributes tokens = (outer, rest) := by
    unfold readAttributes at hattributes
    split at hattributes
    · cases hattributes
    · exact Except.ok.inj hattributes
  obtain ⟨marks, hmarks, htokens, htexts⟩ := outerAttributes_append tokens
  rw [houter] at htokens htexts
  dsimp only at h htokens htexts
  split at h
  · cases h
  · next afterWord hword =>
    obtain ⟨⟨name, afterName⟩, hname, h⟩ := bind_eq_ok.1 h
    dsimp only at h
    split at h
    · cases h
      cases hcontent
    · next body =>
      cases h
      cases hcontent
      refine ⟨⟨outer, marks, hmarks, htexts, _, isVisibility_visibility rest,
        (word? "unsafe" (Wrapper.visibility rest).2).1, name, body⟩, ?_, rfl, rfl, rfl, rfl⟩
      rw [htokens, ModuleLayout.tokens, ModuleLayout.heading]
      refine Eq.trans ?_ (congrArg (marks ++ ·) (append_of_readModuleName hword hname))
      simp only [List.append_assoc, List.cons_append, List.nil_append]
    · cases h
    · cases h
    · cases h

/-! ## Packages -/

namespace Package

/-- The two items that a package gets. -/
def added (p : Package) : Code := p.registerCode ++ p.namesCode

/-- The module of a package was read, and has items. -/
theorem of_ofTexts {p : Package} (h : ofTexts given text = .ok p) : ∃ tokens item,
    tokenTrees? text = some tokens ∧ ModuleItem.ofTokens tokens = .ok item ∧
      item.content = some p.content ∧ p.attributes = item.attributes ∧
      p.visibility = item.visibility ∧ p.name = item.name := by
  obtain ⟨item, hitem, h⟩ := bind_eq_ok.1 h
  obtain ⟨register, -, h⟩ := bind_eq_ok.1 h
  unfold ModuleItem.ofText at hitem
  split at hitem
  · next tokens htokens =>
    unfold ofItem at h
    split at h
    · cases h
    · next content hcontent =>
      obtain ⟨functions, -, h⟩ := bind_eq_ok.1 h
      split at h
      · cases h
      · cases h
        exact ⟨tokens, item, htokens, hitem, hcontent, rfl, rfl, rfl⟩
  · cases hitem

/-- A package begins with its first attribute, and with the word `mod` if it has no attribute and no
visibility. -/
theorem head?_code (print : Printer) (p : Package) :
    (p.attributes ≠ [] → (p.code print).head? = some ['#']) ∧
      (p.attributes = [] → p.visibility = [] → (p.code print).head? = some "mod".toList) := by
  rw [code]
  constructor
  · intro hattributes
    obtain ⟨a, attributes, ha⟩ := List.exists_cons_of_ne_nil hattributes
    rw [ha]
    rfl
  · intro hattributes hvisible
    rw [hattributes, hvisible]
    rfl

/-- A package is written as its module is written again, with its two items. -/
theorem exists_layout {p : Package} (h : ofTexts given text = .ok p) : ∃ m : ModuleLayout,
    tokenTrees? text = some m.tokens ∧ p.attributes = m.outer ++ m.inner ∧
      ∀ print, packageCode? print given text = some (m.rewritten print p.added) := by
  obtain ⟨tokens, item, htokens, hitem, hcontent, hattributes, hvisible, hname⟩ := of_ofTexts h
  obtain ⟨m, rfl, hlayout, hcalled, hmarks, hitems⟩ := ModuleItem.exists_layout hitem hcontent
  refine ⟨m, htokens, hattributes.trans hmarks, fun print => ?_⟩
  rw [packageCode?, h]
  show some (p.code print) = _
  rw [Package.code, ModuleLayout.rewritten, Package.added, hattributes, hmarks, hvisible, hname,
    hitems, hlayout, hcalled]
  simp only [List.append_assoc]

end Package

/-- **A package is written as its module with two items behind the others, but for these: attributes
between the braces are written in front of the module, the word `unsafe` is left out, and attributes
and items are written as the syntax library writes them. So where it keeps the attributes in front,
the package is the module as it stood with the two items if and only if none of the rest makes a
difference.** Items are kept together when each of them is. -/
theorem package_extends_iff (print : Printer) {p : Package}
    (h : Package.ofTexts given text = .ok p) :
    ∃ m : ModuleLayout, tokenTrees? text = some m.tokens ∧
      packageCode? print given text = some (m.rewritten print p.added) ∧
      (m.KeepsMarks print → (packageCode? print given text = some (m.extended p.added) ↔
        m.inner = [] ∧ m.isUnsafe = false ∧ m.KeepsItems print)) ∧
      ((∀ tokens ∈ itemsOf m.items, print.itemCode tokens = TokenTree.textsAll tokens) →
        m.KeepsItems print) := by
  obtain ⟨m, htokens, -, hcode⟩ := Package.exists_layout h
  refine ⟨m, htokens, hcode print, fun hmarks => ?_, m.keepsItems_of_forall⟩
  rw [hcode print, Option.some.injEq, m.rewritten_eq_extended_iff hmarks]

/-- A module with an attribute, a visibility and a marked function. -/
def markedModule : Text :=
  "#[cfg(unix)] pub mod text \x7b #[make_fn] fn upper(s: &str) \x7b #![inline] s.up() \x7d \x7d"

/-- It stays as it stood where everything is written as it was read. -/
theorem package_extends_iff_marked : ∃ (p : Package) (m : ModuleLayout),
    Package.ofTexts [] markedModule = .ok p ∧
    tokenTrees? markedModule = some m.tokens ∧
    packageCode? .asRead [] markedModule = some (m.extended p.added) := by
  have hread : (Package.ofTexts [] markedModule).isOk = true := by decide +kernel
  have hfacts : (tokenTrees? markedModule).map (fun tokens =>
      ((innerAttributes (lastBody tokens)).1.isEmpty, tokens.any (·.isIdent "unsafe"))) =
        some (true, false) := by decide +kernel
  cases hp : Package.ofTexts [] markedModule with
  | error e =>
    rw [hp] at hread
    cases hread
  | ok p =>
    obtain ⟨m, htokens, -, hiff, hitems⟩ := package_extends_iff .asRead hp
    rw [htokens, Option.map_some, Option.some.injEq, lastBody_tokens, Prod.mk.injEq] at hfacts
    obtain ⟨hinner, hqualified⟩ := hfacts
    refine ⟨p, m, rfl, htokens, (hiff fun _ _ => rfl).2 ⟨List.isEmpty_iff.1 hinner, ?_, ?_⟩⟩
    · exact m.isUnsafe_of_any hqualified
    · exact hitems fun _ _ => rfl

/-- A module with an attribute between its braces. -/
def innerModule : Text := "mod m \x7b #![allow(dead_code)] fn f() \x7b\x7d \x7d"

/-- A module that is marked as unsafe. -/
def unsafeModule : Text := "unsafe mod m \x7b fn f() \x7b\x7d \x7d"

/-- Neither stays as it stood, however the syntax library writes what it has read: the one begins
with its attribute, the other with the word `mod`. -/
theorem package_not_extended :
    (∃ p, Package.ofTexts [] innerModule = .ok p ∧ ∀ (print : Printer) (m : ModuleLayout),
      tokenTrees? innerModule = some m.tokens →
        packageCode? print [] innerModule ≠ some (m.extended p.added)) ∧
    ∃ p, Package.ofTexts [] unsafeModule = .ok p ∧ ∀ (print : Printer) (m : ModuleLayout),
      tokenTrees? unsafeModule = some m.tokens →
        packageCode? print [] unsafeModule ≠ some (m.extended p.added) := by
  have hinner : (Package.ofTexts [] innerModule).toOption.map (·.attributes.isEmpty) =
      some false := by decide +kernel
  have hunsafe : (Package.ofTexts [] unsafeModule).toOption.map (fun p =>
      (p.attributes.isEmpty, p.visibility.isEmpty)) = some (true, true) := by decide +kernel
  have hheads : (tokenTrees? innerModule).map (fun tokens => (TokenTree.textsAll tokens).head?) =
        some (some "mod".toList) ∧
      (tokenTrees? unsafeModule).map (fun tokens => (TokenTree.textsAll tokens).head?) =
        some (some "unsafe".toList) := by decide +kernel
  constructor
  · obtain ⟨p, hp, hattributes⟩ := Option.map_eq_some_iff.1 hinner
    have hok := toOption_eq_some hp
    refine ⟨p, hok, fun print m hm hcode => ?_⟩
    have hbegins := (p.head?_code print).1 (by simpa using hattributes)
    have hread := hheads.1
    rw [packageCode?, hok] at hcode
    rw [hm, Option.map_some, Option.some.injEq, ← m.head?_extended p.added,
      ← Option.some.inj hcode, hbegins] at hread
    exact absurd hread (by decide)
  · obtain ⟨p, hp, hfacts⟩ := Option.map_eq_some_iff.1 hunsafe
    have hok := toOption_eq_some hp
    obtain ⟨hattributes, hvisible⟩ := Prod.mk.inj hfacts
    refine ⟨p, hok, fun print m hm hcode => ?_⟩
    have hbegins := (p.head?_code print).2 (List.isEmpty_iff.1 hattributes)
      (List.isEmpty_iff.1 hvisible)
    have hread := hheads.2
    rw [packageCode?, hok] at hcode
    rw [hm, Option.map_some, Option.some.injEq, ← m.head?_extended p.added,
      ← Option.some.inj hcode, hbegins] at hread
    exact absurd hread (by decide)

end MakeHost.Wrapper
