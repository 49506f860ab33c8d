import MakeHost.Proofs.StructNames
import Mathlib.Logic.Relation

/-!
# Functions whose structures are called the same

The name of a function's structure forgets where underscores stood, and how the letter behind them
was written. `Respelling` lists the changes of a name that make no difference to it: one change at a
time leaves the structure's name (`Respelling.pascalCase_eq`), and every name can be changed into
that of its structure (`respells_pascalCase`). So two functions share a structure's name exactly if
their names can be changed into the same one (`pascalCase_eq_iff`), and `structs_differ_iff` says
for which modules all structures are called differently.
-/

namespace MakeHost.Wrapper

variable {s t x y : Text} {c : Char} {capital : Bool}

/-! ## Changes of a name -/

/-- One change of a function's name that makes no difference to its structure's. -/
inductive Respelling : Text → Text → Prop
  /-- The letter in front becomes a capital. -/
  | front (c : Char) (s : Text) : Respelling (c :: s) (c.toUpper :: s)
  /-- A letter behind an underscore becomes a capital. -/
  | capital (before : Text) (c : Char) (s : Text) :
      Respelling (before ++ '_' :: c :: s) (before ++ '_' :: c.toUpper :: s)
  /-- An underscore goes that stands before anything but a small letter. -/
  | underscore (before : Text) {c : Char} (s : Text) (hc : c ∉ smallLetters) :
      Respelling (before ++ '_' :: c :: s) (before ++ c :: s)
  /-- An underscore at the end goes. -/
  | trailing (s : Text) : Respelling (s ++ ['_']) s

/-- Any number of changes. -/
abbrev Respells : Text → Text → Prop := Relation.ReflTransGen Respelling

/-- Two names that can be changed into the same one. -/
def SpelledAlike (s t : Text) : Prop := Relation.Join Respells s t

/-- No two names are spelled alike. -/
def SpelledApart (names : List Text) : Prop := names.Pairwise fun s t => ¬ SpelledAlike s t

/-! ## What changes leave -/

/-- What is no small letter has no other capital. -/
theorem toUpper_of_notMem (h : c ∉ smallLetters) : c.toUpper = c :=
  (toUpper_cases c).resolve_right h

/-- A capital is its own capital. -/
theorem toUpper_toUpper (c : Char) : c.toUpper.toUpper = c.toUpper :=
  toUpper_of_notMem (toUpper_notMem c)

/-- Only the underscore has the underscore as its capital. -/
theorem toUpper_eq_underscore_iff : c.toUpper = '_' ↔ c = '_' := by
  have hletters : ∀ c ∈ smallLetters, c.toUpper ≠ '_' ∧ c ≠ '_' := by decide
  by_cases hc : c ∈ smallLetters
  · exact iff_of_false (hletters c hc).1 (hletters c hc).2
  · rw [toUpper_of_notMem hc]

/-- What stands in front makes no difference between texts that are read alike. -/
theorem pascalFrom_append_congr (h : ∀ capital, pascalFrom capital x = pascalFrom capital y)
    (before : Text) : pascalFrom capital (before ++ x) = pascalFrom capital (before ++ y) := by
  induction before generalizing capital with
  | nil => exact h capital
  | cons c before ih =>
    rw [List.cons_append, List.cons_append, pascalFrom, pascalFrom, ih, ih]

/-- An underscore goes, and makes the next letter a capital. -/
theorem pascalFrom_underscore : pascalFrom capital ('_' :: s) = pascalFrom true s := by
  rw [pascalFrom, if_pos rfl]

/-- Behind an underscore, or in front, a letter and its capital are read alike. -/
theorem pascalFrom_toUpper : pascalFrom true (c.toUpper :: s) = pascalFrom true (c :: s) := by
  simp only [pascalFrom, toUpper_toUpper, toUpper_eq_underscore_iff, if_true]

/-- An underscore makes no difference to what is no small letter. -/
theorem pascalFrom_of_notMem (hc : c ∉ smallLetters) :
    pascalFrom true (c :: s) = pascalFrom capital (c :: s) := by
  rw [pascalFrom, pascalFrom, toUpper_of_notMem hc, ite_self, ite_self]

/-- A change leaves the name of the structure. -/
theorem Respelling.pascalCase_eq (h : Respelling s t) : pascalCase s = pascalCase t := by
  cases h with
  | front c s => exact pascalFrom_toUpper.symm
  | capital before c s =>
    refine pascalFrom_append_congr (fun _ => ?_) before
    rw [pascalFrom_underscore, pascalFrom_underscore, pascalFrom_toUpper]
  | underscore before s hc =>
    refine pascalFrom_append_congr (fun _ => ?_) before
    rw [pascalFrom_underscore, pascalFrom_of_notMem hc]
  | trailing =>
    have hend : pascalFrom true (t ++ ['_']) = pascalFrom true (t ++ []) :=
      pascalFrom_append_congr (fun _ => pascalFrom_underscore) t
    rwa [List.append_nil] at hend

/-! ## What names can be changed into -/

/-- Behind what is finished, the rest of a name can be changed into what is left of it: within a
word, and behind an underscore. -/
theorem respells_pascalFrom (s : Text) : ∀ done : Text,
    Respells (done ++ s) (done ++ pascalFrom false s) ∧
      Respells (done ++ '_' :: s) (done ++ pascalFrom true s) := by
  induction s with
  | nil =>
    intro done
    refine ⟨.refl, .single ?_⟩
    have hend := Respelling.trailing done
    rwa [pascalFrom, List.append_nil]
  | cons c s ih =>
    intro done
    by_cases hc : c = '_'
    · subst hc
      have hdouble : Respelling (done ++ '_' :: '_' :: s) (done ++ '_' :: s) :=
        .underscore done s (by decide)
      rw [pascalFrom_underscore, pascalFrom_underscore]
      exact ⟨(ih done).2, .head hdouble (ih done).2⟩
    · have hinside := (ih (done ++ [c])).1
      have hbehind := (ih (done ++ [c.toUpper])).1
      rw [List.append_assoc, List.append_assoc] at hinside hbehind
      have hcapital := Respelling.capital done c s
      have hjoined := Respelling.underscore done s (toUpper_notMem c)
      rw [pascalFrom, if_neg hc, pascalFrom, if_neg hc]
      exact ⟨hinside, .head hcapital (.head hjoined hbehind)⟩

/-- Every function's name can be changed into its structure's. -/
theorem respells_pascalCase (s : Text) : Respells s (pascalCase s) := by
  cases s with
  | nil => exact .refl
  | cons c s =>
    by_cases hc : c = '_'
    · subst hc
      rw [pascalCase, pascalFrom_underscore]
      exact (respells_pascalFrom s []).2
    · rw [pascalCase, pascalFrom, if_neg hc]
      exact .head (.front c s) (respells_pascalFrom s [c.toUpper]).1

/-- The structures of two functions are called the same exactly if the functions' names can be
changed into the same one. -/
theorem pascalCase_eq_iff : pascalCase s = pascalCase t ↔ SpelledAlike s t := by
  have hkeep : ∀ {s t}, Respells s t → pascalCase s = pascalCase t := by
    intro s t h
    induction h with
    | refl => rfl
    | tail _ hstep ih => exact ih.trans hstep.pascalCase_eq
  constructor
  · intro h
    exact ⟨pascalCase s, respells_pascalCase s, h ▸ respells_pascalCase t⟩
  · rintro ⟨u, hs, ht⟩
    exact (hkeep hs).trans (hkeep ht).symm

/-- Structures have different names if and only if their functions are spelled apart. -/
theorem nodup_pascalCase_iff {names : List Text} :
    (names.map pascalCase).Nodup ↔ SpelledApart names := by
  simp only [List.Nodup, List.pairwise_map, SpelledApart, ← pascalCase_eq_iff, ne_eq]

/-! ## Names as they are usually written -/

/-- Whether the rest of a name has no capitals and a small letter behind each underscore. `opens`
says that an underscore is in front of it. -/
def keepsWords (opens : Bool) : Text → Bool
  | [] => !opens
  | c :: s =>
    if opens then smallLetters.contains c && keepsWords false s
    else if c = '_' then keepsWords true s
    else !c.isUpper && keepsWords false s

/-- Whether a name is made of words with one underscore between each and the next. -/
def isSnakeCase (name : Text) : Bool := keepsWords true name

/-- A structure's name with its words apart again: an underscore and the small letter for each
capital. -/
def wordsApart : Text → Text
  | [] => []
  | c :: s => if c.isUpper then '_' :: c.toLower :: wordsApart s else c :: wordsApart s

/-- Of a name that keeps its words nothing is lost. -/
theorem wordsApart_pascalFrom (h : keepsWords capital s = true) :
    wordsApart (pascalFrom capital s) = (if capital then ['_'] else []) ++ s := by
  have hletters : ∀ c ∈ smallLetters,
      c ≠ '_' ∧ c.toUpper.isUpper = true ∧ c.toUpper.toLower = c := by decide
  induction s generalizing capital with
  | nil =>
    cases capital with
    | false => rfl
    | true => cases h
  | cons c s ih =>
    cases capital with
    | true =>
      simp only [keepsWords, if_true, Bool.and_eq_true, List.contains_iff_mem] at h
      obtain ⟨hplain, hupper, hlower⟩ := hletters c h.1
      rw [pascalFrom, if_neg hplain, if_pos rfl, wordsApart, if_pos hupper, hlower, ih h.2]
      rfl
    | false =>
      by_cases hc : c = '_'
      · subst hc
        have hopens : keepsWords true s = true := h
        rw [pascalFrom_underscore, ih hopens]
        rfl
      · simp only [keepsWords, if_neg hc, Bool.false_eq_true, if_false, Bool.and_eq_true,
          Bool.not_eq_true'] at h
        rw [pascalFrom, if_neg hc, if_neg Bool.false_ne_true, wordsApart, h.1,
          if_neg Bool.false_ne_true, ih h.2]
        rfl

/-- Names that are made of words with single underscores between them are spelled alike only if they
are the same. -/
theorem eq_of_spelledAlike (hs : isSnakeCase s = true) (ht : isSnakeCase t = true)
    (h : SpelledAlike s t) : s = t := by
  have hsame := congrArg wordsApart (pascalCase_eq_iff.2 h)
  rw [pascalCase, pascalCase, wordsApart_pascalFrom hs, wordsApart_pascalFrom ht] at hsame
  exact List.append_cancel_left hsame

/-- Different names in snake case are spelled apart. -/
theorem spelledApart_of_isSnakeCase {names : List Text} (h : names.Nodup)
    (hsnake : ∀ name ∈ names, isSnakeCase name = true) : SpelledApart names :=
  h.imp_of_mem fun hs ht hne halike => hne (eq_of_spelledAlike (hsnake _ hs) (hsnake _ ht) halike)

/-! ## The functions of a module -/

namespace Package

/-- The name of an item of a module, if it is a function that has a mark. -/
def markedName? (tokens : List TokenTree) : Option Text :=
  (mark? tokens).bind fun _ => nameOf tokens

/-- The names of the marked functions among the items of a module. -/
def markedNames (content : List TokenTree) : List Text := (itemsOf content).filterMap markedName?

/-- The wrappers of the marked functions among the items of a module. -/
def wrappers (content : List TokenTree) : List FunctionWrapper :=
  (itemsOf content).filterMap wrapper?

/-- A structure that is named has the function's name in capitals. -/
theorem structName_eq_ok {struct : Text} (h : structName s = .ok struct) :
    struct = pascalCase s := by
  dsimp only [structName] at h
  split at h
  · exact (Except.ok.inj h).symm
  · cases h

/-- A package takes the structure of a marked function from its name; other items have none. -/
theorem struct_of_exported? {tokens : List TokenTree} {exported : Option (Text × Text)}
    (h : exported? (Member.ofTokens tokens) = .ok exported) :
    exported.map (·.1) = (markedName? tokens).map pascalCase := by
  unfold markedName? mark?
  cases hmember : Member.ofTokens tokens with
  | other =>
    rw [hmember] at h
    cases h
    rfl
  | function attributes name =>
    rw [hmember, exported?] at h
    obtain ⟨found, hfound, h⟩ := bind_eq_ok.1 h
    dsimp only
    rw [hfound]
    cases found with
    | none =>
      cases h
      rfl
    | some arguments =>
      obtain ⟨options, -, h⟩ := bind_eq_ok.1 h
      obtain ⟨struct, hstruct, h⟩ := bind_eq_ok.1 h
      cases h
      show some struct = (nameOf tokens).map pascalCase
      rw [Member.nameOf_of_ofTokens hmember, structName_eq_ok hstruct]
      rfl

/-- A package exports the structures that belong to the names of the marked functions, in order. -/
theorem structs_of_exports {items : List (List TokenTree)} {functions : List (Text × Text)}
    (h : exports (items.map Member.ofTokens) = .ok functions) :
    functions.map (·.1) = (items.filterMap markedName?).map pascalCase := by
  induction items generalizing functions with
  | nil =>
    cases h
    rfl
  | cons tokens items ih =>
    rw [List.map_cons, exports] at h
    obtain ⟨first, hfirst, h⟩ := bind_eq_ok.1 h
    have hstruct := struct_of_exported? hfirst
    cases first with
    | none =>
      have hname : markedName? tokens = none := Option.map_eq_none_iff.1 hstruct.symm
      rw [List.filterMap_cons_none hname, ih h]
    | some f =>
      obtain ⟨rest, hrest, h⟩ := bind_eq_ok.1 h
      cases h
      obtain ⟨name, hname, hf⟩ := Option.map_eq_some_iff.1 hstruct.symm
      rw [List.filterMap_cons_some hname, List.map_cons, List.map_cons, ih hrest, hf]

/-- A wrapper's structure belongs to the name of the function, which is that of the item. -/
theorem struct_of_wrapper? {tokens : List TokenTree} {w : FunctionWrapper}
    (h : wrapper? tokens = some w) :
    markedName? tokens = some w.function ∧ w.struct = pascalCase w.function := by
  obtain ⟨arguments, hmark, hw⟩ := Option.bind_eq_some_iff.1 h
  obtain ⟨item, hitem, hw⟩ := bind_eq_ok.1 (toOption_eq_some hw)
  obtain ⟨options, -, hw⟩ := bind_eq_ok.1 hw
  obtain ⟨hstruct, hfunction, -⟩ := FunctionWrapper.of_ofItem hw
  have hname := FunctionItem.nameOf_of_ofTokens hitem
  rw [nameOf_less] at hname
  rw [markedName?, hmark, hfunction]
  exact ⟨hname, structName_eq_ok hstruct⟩

/-- The structures of wrappers are called as their functions are. -/
theorem structs_of_wrappers (content : List TokenTree) :
    (wrappers content).map (·.struct) = ((wrappers content).map (·.function)).map pascalCase := by
  rw [List.map_map]
  refine List.map_congr_left fun w hw => ?_
  obtain ⟨tokens, -, hw⟩ := List.mem_filterMap.1 hw
  exact (struct_of_wrapper? hw).2

/-- The functions that have wrappers are marked functions, in the order of the items. -/
theorem sublist_markedNames (content : List TokenTree) :
    ((wrappers content).map (·.function)).Sublist (markedNames content) := by
  unfold wrappers markedNames
  induction itemsOf content with
  | nil => exact .slnil
  | cons tokens items ih =>
    cases hw : wrapper? tokens with
    | none =>
      rw [List.filterMap_cons_none hw]
      exact ih.trans ((List.sublist_cons_self tokens items).filterMap markedName?)
    | some w =>
      rw [List.filterMap_cons_some hw, List.filterMap_cons_some (struct_of_wrapper? hw).1]
      exact ih.cons_cons _

/-- The structures of a package are called as its marked functions are, in their order. -/
theorem structs_of_ofTexts {given text : Text} {item : ModuleItem} {content : List TokenTree}
    {p : Package} (hitem : ModuleItem.ofText text = .ok item)
    (hcontent : item.content = some content) (h : ofTexts given text = .ok p) :
    p.functions.map (·.1) = (markedNames content).map pascalCase := by
  obtain ⟨item', hitem', h⟩ := bind_eq_ok.1 h
  obtain ⟨register, -, h⟩ := bind_eq_ok.1 h
  cases hitem.symm.trans hitem'
  rw [ofItem, hcontent] at h
  obtain ⟨functions, hexports, h⟩ := bind_eq_ok.1 h
  split at h
  · cases h
  · cases h
    exact structs_of_exports hexports

end Package

open Package in
/-- **The structures of a module's functions are called differently if and only if no two names of
the functions are spelled alike.** So it is for the structures that wrappers declare, and for those
that a package exports; each belongs to the name of its function. It is enough that the names are
different and made of words with single underscores between them. -/
theorem structs_differ_iff {text : Text} {item : ModuleItem} {content : List TokenTree}
    (hitem : ModuleItem.ofText text = .ok item) (hcontent : item.content = some content) :
    ((wrappers content).map (·.struct) = ((wrappers content).map (·.function)).map pascalCase ∧
      ((wrappers content).map (·.function)).Sublist (markedNames content) ∧
      (((wrappers content).map (·.struct)).Nodup ↔
        SpelledApart ((wrappers content).map (·.function)))) ∧
    (∀ given p, Package.ofTexts given text = .ok p →
      p.functions.map (·.1) = (markedNames content).map pascalCase ∧
      ((p.functions.map (·.1)).Nodup ↔ SpelledApart (markedNames content))) ∧
    ((markedNames content).Nodup → (∀ name ∈ markedNames content, isSnakeCase name = true) →
      ((wrappers content).map (·.struct)).Nodup ∧
        ∀ given p, Package.ofTexts given text = .ok p → (p.functions.map (·.1)).Nodup) := by
  have hwrappers := structs_of_wrappers content
  have hsublist := sublist_markedNames content
  refine ⟨⟨hwrappers, hsublist, ?_⟩, fun given p h => ?_, fun hdiffer hsnake => ?_⟩
  · rw [hwrappers, nodup_pascalCase_iff]
  · have hstructs := structs_of_ofTexts hitem hcontent h
    exact ⟨hstructs, by rw [hstructs, nodup_pascalCase_iff]⟩
  · have hapart := spelledApart_of_isSnakeCase hdiffer hsnake
    constructor
    · rw [hwrappers, nodup_pascalCase_iff]
      exact List.Pairwise.sublist hsublist hapart
    · intro given p h
      rw [structs_of_ofTexts hitem hcontent h, nodup_pascalCase_iff]
      exact hapart

/-- A module with three marked functions whose names differ in an underscore and a letter. -/
def threeFunctions : Text :=
  "mod m \x7b #[make_fn] fn get_a(x: &str) \x7b\x7d #[make_fn] pub fn get_b() \x7b\x7d " ++
    "fn getA() \x7b\x7d #[make_fn(name = r\"c\")] fn geta() \x7b\x7d \x7d"

/-- Their structures are called differently. -/
theorem structs_differ_iff_three : ∃ item content p,
    ModuleItem.ofText threeFunctions = .ok item ∧ item.content = some content ∧
      Package.ofTexts [] threeFunctions = .ok p ∧
      p.functions.map (·.1) = ["GetA".toList, "GetB".toList, "Geta".toList] ∧
      (p.functions.map (·.1)).Nodup := by
  have hread : ((ModuleItem.ofText threeFunctions).toOption.bind (·.content)).any (fun content =>
      Package.markedNames content = ["get_a".toList, "get_b".toList, "geta".toList]) = true := by
    decide +kernel
  have hpackage : (Package.ofTexts [] threeFunctions).isOk = true := by decide +kernel
  obtain ⟨content, hcontent, hnames⟩ := (Option.any_eq_true _ _).1 hread
  obtain ⟨item, hitem, hcontent⟩ := Option.bind_eq_some_iff.1 hcontent
  rw [decide_eq_true_eq] at hnames
  cases hp : Package.ofTexts [] threeFunctions with
  | error e =>
    rw [hp] at hpackage
    cases hpackage
  | ok p =>
    obtain ⟨-, hexported, hsnake⟩ := structs_differ_iff (toOption_eq_some hitem) hcontent
    obtain ⟨hstructs, -⟩ := hexported [] p hp
    rw [hnames] at hstructs hsnake
    exact ⟨item, content, p, toOption_eq_some hitem, hcontent, rfl, hstructs,
      (hsnake (by decide) (by decide)).2 [] p hp⟩

/-- A module with two marked functions whose names differ in an underscore. -/
def twoUnderscores : Text :=
  "mod m \x7b #[make_fn] fn foo_bar(x: &str) \x7b\x7d #[make_fn] fn foo__bar(x: &str) \x7b\x7d \x7d"

/-- Their names are different, and their structures are called the same. -/
theorem structs_not_differ : ∃ item content p,
    ModuleItem.ofText twoUnderscores = .ok item ∧ item.content = some content ∧
      Package.ofTexts [] twoUnderscores = .ok p ∧
      (Package.markedNames content).Nodup ∧ ¬ (p.functions.map (·.1)).Nodup ∧
      ((Package.wrappers content).map (·.function)).Nodup ∧
      ¬ ((Package.wrappers content).map (·.struct)).Nodup := by
  have hread : ((ModuleItem.ofText twoUnderscores).toOption.bind (·.content)).any (fun content =>
      decide ((Package.markedNames content).Nodup ∧
        ((Package.wrappers content).map (·.function)).Nodup ∧
        ¬ ((Package.wrappers content).map (·.struct)).Nodup)) = true := by
    decide +kernel
  have hpackage : (Package.ofTexts [] twoUnderscores).toOption.any (fun p =>
      decide (¬ (p.functions.map (·.1)).Nodup)) = true := by
    decide +kernel
  obtain ⟨content, hcontent, hnames⟩ := (Option.any_eq_true _ _).1 hread
  obtain ⟨item, hitem, hcontent⟩ := Option.bind_eq_some_iff.1 hcontent
  obtain ⟨p, hp, hstructs⟩ := (Option.any_eq_true _ _).1 hpackage
  rw [decide_eq_true_eq] at hnames hstructs
  exact ⟨item, content, p, toOption_eq_some hitem, hcontent, toOption_eq_some hp, hnames.1,
    hstructs, hnames.2⟩

end MakeHost.Wrapper
