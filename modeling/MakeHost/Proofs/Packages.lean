import MakeHost.Wrapper.Package

/-!
# Packages and wrappers agree

A package finds its functions by their attributes, and each of these functions is wrapped on its
own, from the tokens in the attribute and the item less the attribute. The two read the same tokens
separately. `Package.agrees_with_wrappers` says that they come to the same structures and names, in
the order of the items: what an item is called depends neither on the attributes in front of it nor
on what its body holds, so taking its attribute away leaves its name (`nameOf_less`). How the syntax
library writes code again does not matter.
-/

namespace MakeHost.Wrapper

/-- A sequence of readings succeeds when its parts do. -/
theorem bind_eq_ok {α β : Type} {x : Except WrapperError α} {f : α → Except WrapperError β}
    {b : β} :
    (x >>= f) = .ok b ↔ ∃ a, x = .ok a ∧ f a = .ok b := by
  cases x <;> simp [bind, Except.bind]

/-! ## Names of functions -/

/-- The name behind the word `fn`. -/
def nameOfHead (head : FunctionHead) : Option Text := (readName head.rest).toOption.map (·.1)

/-- The name of the function that tokens are, if they begin as one. -/
def nameOf (tokens : List TokenTree) : Option Text :=
  (functionHead tokens).toOption.bind nameOfHead

namespace TokenTree

/-- A token less what it holds in braces. -/
def hollow : TokenTree → TokenTree
  | group .brace _ => group .brace []
  | t => t

@[simp] theorem hollow_ident (name : Text) : hollow (.ident name) = .ident name := rfl

@[simp] theorem hollow_punct (c : Char) (joint : Bool) : hollow (.punct c joint) = .punct c joint :=
  rfl

@[simp] theorem hollow_literal (s : Text) : hollow (.literal s) = .literal s := rfl

/-- Emptying the groups of a token does not make a word of it or out of it. -/
@[simp] theorem isIdent_hollow (t : TokenTree) (name : String) :
    t.hollow.isIdent name = t.isIdent name := by
  rcases t with _ | _ | _ | ⟨d, inner⟩
  · rfl
  · rfl
  · rfl
  · cases d <;> rfl

end TokenTree

/-- Splitting off the visibility does not look into braces. -/
theorem visibility_hollow (tokens : List TokenTree) :
    (visibility (tokens.map .hollow)).2 = (visibility tokens).2.map .hollow := by
  rcases tokens with _ | ⟨name | _ | _ | ⟨d, inner⟩, rest⟩
  · rfl
  · simp only [List.map_cons, TokenTree.hollow_ident, visibility]
    split
    · rfl
    · rcases rest with _ | ⟨_ | _ | _ | ⟨d, inner⟩, rest⟩
      · rfl
      · rfl
      · rfl
      · rfl
      · cases d with
        | parenthesis =>
          simp only [List.map_cons, TokenTree.hollow]
          split <;> rfl
        | bracket | brace => rfl
  · rfl
  · rfl
  · cases d <;> rfl

/-- A word is read in the same way where groups are emptied. -/
theorem word?_hollow (word : String) (tokens : List TokenTree) :
    word? word (tokens.map .hollow) =
      ((word? word tokens).1, (word? word tokens).2.map .hollow) := by
  cases tokens with
  | nil => rfl
  | cons t rest =>
    simp only [List.map_cons, word?, TokenTree.isIdent_hollow]
    split <;> rfl

/-- A calling convention is read in the same way where groups are emptied. -/
theorem convention_hollow (tokens : List TokenTree) :
    convention (tokens.map .hollow) = (convention tokens).map .hollow := by
  unfold convention
  rw [word?_hollow]
  rcases word? "extern" tokens with ⟨found, _ | ⟨_ | _ | _ | ⟨d, inner⟩, rest⟩⟩
  · cases found <;> rfl
  · cases found <;> rfl
  · cases found <;> rfl
  · cases found <;> rfl
  · cases found <;> cases d <;> rfl

/-- The name of an item does not depend on what its groups hold. -/
theorem readName_hollow (tokens : List TokenTree) :
    (readName (tokens.map .hollow)).toOption.map (·.1) = (readName tokens).toOption.map (·.1) := by
  rcases tokens with _ | ⟨name | _ | _ | ⟨d, inner⟩, rest⟩
  · rfl
  · simp only [List.map_cons, TokenTree.hollow_ident, readName]
    split <;> rfl
  · rfl
  · rfl
  · cases d <;> rfl

/-- Whether tokens begin with a number sign, as attributes do. -/
def opensAttribute (tokens : List TokenTree) : Bool := tokens.head?.any (·.isPunct '#')

/-- Whether an attribute begins does not depend on what groups hold. -/
theorem opensAttribute_hollow (tokens : List TokenTree) :
    opensAttribute (tokens.map .hollow) = opensAttribute tokens := by
  rcases tokens with _ | ⟨_ | _ | _ | ⟨d, inner⟩, rest⟩
  · rfl
  · rfl
  · rfl
  · rfl
  · cases d <;> rfl

/-- An attribute begins with a hash mark. -/
theorem opensAttribute_iff (tokens : List TokenTree) :
    opensAttribute tokens = true ↔ ∃ joint rest, tokens = .punct '#' joint :: rest := by
  rcases tokens with _ | ⟨_ | ⟨c, joint⟩ | _ | _, rest⟩ <;>
    simp [opensAttribute, TokenTree.isPunct]

/-- The name of the function that tokens are whose attributes were read. -/
def nameBehind (tokens : List TokenTree) : Option Text :=
  if opensAttribute tokens then none
  else
    let rest := (word? "const" (visibility tokens).2).2
    let rest := word? "fn" (convention (word? "unsafe" (word? "async" rest).2).2)
    if rest.1 then (readName rest.2).toOption.map (·.1) else none

/-- What stands in front of an item does not bear on its name. -/
theorem nameOf_eq (tokens : List TokenTree) :
    nameOf tokens = nameBehind (outerAttributes tokens).2 := by
  unfold nameOf functionHead readAttributes nameBehind
  rcases outerAttributes tokens with ⟨attributes, rest⟩
  dsimp only
  split
  · next heq =>
    cases heq
    rfl
  · next hplain =>
    have hopens : ¬ opensAttribute rest = true := by
      rw [opensAttribute_iff]
      rintro ⟨joint, rest', rfl⟩
      exact hplain _ _ _ rfl
    rw [if_neg hopens]
    rcases hword : word? "fn" (convention (word? "unsafe" (word? "async"
      (word? "const" (visibility rest).2).2).2).2) with ⟨_ | _, behind⟩
    · simp only [bind, Except.bind, hword]
      rfl
    · simp only [bind, Except.bind, hword]
      rfl

/-- Names do not depend on what is in braces. -/
theorem nameBehind_hollow (tokens : List TokenTree) :
    nameBehind (tokens.map .hollow) = nameBehind tokens := by
  simp only [nameBehind, opensAttribute_hollow, visibility_hollow, word?_hollow, convention_hollow,
    readName_hollow]

/-! ## Taking an attribute away -/

/-- Whether an attribute has this name alone, or with arguments in brackets. -/
def Attribute.isCalled (a : Attribute) (name : String) : Bool :=
  match a.arguments? name with
  | .ok (some _) => true
  | _ => false

/-- Takes the first attribute with this name away from those in front of an item. -/
def lessOuter (name : String) : List TokenTree → Option (List TokenTree)
  | .punct '#' joint :: .group .bracket content :: rest =>
    if Attribute.isCalled ⟨false, content⟩ name then some rest
    else (lessOuter name rest).map (.punct '#' joint :: .group .bracket content :: ·)
  | _ => none

/-- Takes the first attribute with this name away from those that a body begins with. -/
def lessInner (name : String) : List TokenTree → List TokenTree
  | .punct '#' joint :: .punct '!' joint' :: .group .bracket content :: rest =>
    if Attribute.isCalled ⟨true, content⟩ name then rest
    else .punct '#' joint :: .punct '!' joint' :: .group .bracket content :: lessInner name rest
  | rest => rest

/-- Changes what stands in braces at the end of an item. -/
def changeBody (f : List TokenTree → List TokenTree) : List TokenTree → List TokenTree
  | [] => []
  | [.group .brace body] => [.group .brace (f body)]
  | t :: rest => t :: changeBody f rest

/-- An item less its first attribute with this name: as the attribute's macro gets it. -/
def less (name : String) (tokens : List TokenTree) : List TokenTree :=
  (lessOuter name tokens).getD (changeBody (lessInner name) tokens)

/-- Taking an attribute away leaves what stands behind the attributes. -/
theorem outerAttributes_lessOuter {name : String} {tokens tokens' : List TokenTree}
    (h : lessOuter name tokens = some tokens') :
    (outerAttributes tokens').2 = (outerAttributes tokens).2 := by
  induction tokens using outerAttributes.induct generalizing tokens' with
  | case1 joint content rest _ _ _ ih =>
    rw [lessOuter] at h
    split at h
    · cases h
      rfl
    · obtain ⟨rest', hrest, rfl⟩ := Option.map_eq_some_iff.1 h
      have hbehind : (outerAttributes rest').2 = (outerAttributes rest).2 := ih hrest
      exact hbehind
  | case2 tokens hplain =>
    rw [lessOuter] at h
    · cases h
    · exact hplain

/-- Changing a body changes nothing but what its group holds. -/
theorem changeBody_hollow (f : List TokenTree → List TokenTree) (tokens : List TokenTree) :
    (changeBody f tokens).map TokenTree.hollow = tokens.map TokenTree.hollow := by
  induction tokens using changeBody.induct with
  | case1 => rfl
  | case2 body => rfl
  | case3 t rest hbody ih =>
    rw [changeBody]
    · simp only [List.map_cons, ih]
    · exact hbody

/-- Changing the body leaves a token in front that is no body. -/
theorem eq_cons_of_changeBody {f : List TokenTree → List TokenTree} {tokens rest : List TokenTree}
    {t : TokenTree} (h : changeBody f tokens = t :: rest) (ht : t.isGroup .brace = false) :
    ∃ rest', tokens = t :: rest' ∧ changeBody f rest' = rest := by
  cases tokens using changeBody.fun_cases with
  | case1 => cases h
  | case2 body =>
    cases h
    cases ht
  | case3 u rest' hbody =>
    rw [changeBody] at h
    · cases h
      exact ⟨rest', rfl, rfl⟩
    · exact hbody

/-- Changing the body leaves the attributes in front, and what follows them but for the body. -/
theorem outerAttributes_changeBody (f : List TokenTree → List TokenTree) (tokens : List TokenTree) :
    (outerAttributes (changeBody f tokens)).2 = changeBody f (outerAttributes tokens).2 := by
  have hbracket : ∀ joint content rest, changeBody f
      (.punct '#' joint :: .group .bracket content :: rest) =
        .punct '#' joint :: .group .bracket content :: changeBody f rest := by
    intro joint content rest
    cases rest <;> rfl
  induction tokens using outerAttributes.induct with
  | case1 joint content rest _ _ _ ih =>
    rw [hbracket]
    exact ih
  | case2 tokens hplain =>
    have hplain' : ∀ joint content rest,
        changeBody f tokens ≠ .punct '#' joint :: .group .bracket content :: rest := by
      intro joint content rest h
      obtain ⟨rest₁, rfl, h₁⟩ := eq_cons_of_changeBody h rfl
      obtain ⟨rest₂, rfl, -⟩ := eq_cons_of_changeBody h₁ rfl
      exact hplain _ _ _ rfl
    rw [outerAttributes, outerAttributes]
    · exact hplain
    · exact hplain'

/-- An item keeps its name when an attribute is taken away. -/
theorem nameOf_less (name : String) (tokens : List TokenTree) :
    nameOf (less name tokens) = nameOf tokens := by
  unfold less
  cases h : lessOuter name tokens with
  | some tokens' => rw [Option.getD_some, nameOf_eq, nameOf_eq, outerAttributes_lessOuter h]
  | none =>
    rw [Option.getD_none, nameOf_eq, nameOf_eq, outerAttributes_changeBody]
    rw [← nameBehind_hollow, changeBody_hollow, nameBehind_hollow]

/-! ## Items -/

/-- A function that was read has the name that its tokens say. -/
theorem FunctionItem.nameOf_of_ofTokens {tokens : List TokenTree} {item : FunctionItem}
    (h : FunctionItem.ofTokens tokens = .ok item) : nameOf tokens = some item.name := by
  obtain ⟨head, hhead, h⟩ := bind_eq_ok.1 h
  obtain ⟨⟨name, rest⟩, hname, h⟩ := bind_eq_ok.1 h
  obtain ⟨⟨generics, rest⟩, -, h⟩ := bind_eq_ok.1 h
  have hnamed : item.name = name := by
    dsimp only at h
    split at h
    · obtain ⟨⟨parameters, left⟩, -, h⟩ := bind_eq_ok.1 h
      dsimp only at h
      split at h
      · cases left <;> cases h
        rfl
      · cases h
      · cases h
    · cases h
  rw [nameOf, hhead, hnamed]
  show nameOfHead head = some name
  rw [nameOfHead, hname]
  rfl

/-- An item of a module that is a function has the name that its tokens say. -/
theorem Member.nameOf_of_ofTokens {tokens : List TokenTree} {attributes : List Attribute}
    {name : Text} (h : Member.ofTokens tokens = .function attributes name) :
    nameOf tokens = some name := by
  unfold Member.ofTokens at h
  split at h
  · next head body hhead _ =>
    split at h
    · next name' rest hname =>
      cases h
      rw [nameOf, hhead]
      show nameOfHead head = some name
      rw [nameOfHead, hname]
      rfl
    · cases h
  · cases h

namespace FunctionWrapper

/-- The wrapper of the function that tokens are, with the tokens of its options. -/
def ofTokens (given item : List TokenTree) : Except WrapperError FunctionWrapper := do
  let item ← FunctionItem.ofTokens item
  let options ← FunctionOptions.ofTokens given
  ofItem item options

/-- The wrapper of the function in a text is that of its tokens. -/
theorem ofTexts_eq {given item : Text} {givenTokens itemTokens : List TokenTree}
    (hgiven : tokenTrees? given = some givenTokens) (hitem : tokenTrees? item = some itemTokens) :
    ofTexts given item = ofTokens givenTokens itemTokens := by
  rw [ofTexts, ofTokens, FunctionItem.ofText, FunctionOptions.ofText, hgiven, hitem]

/-- What the wrapper of a function takes from it and from its options. -/
theorem of_ofItem {item : FunctionItem} {options : FunctionOptions} {w : FunctionWrapper}
    (h : ofItem item options = .ok w) :
    structName item.name = .ok w.struct ∧ w.function = item.name ∧ w.options = options := by
  unfold ofItem at h
  by_cases hgeneric : (!item.generics.isEmpty) = true
  · rw [if_pos hgeneric] at h
    cases h
  · rw [if_neg hgeneric] at h
    by_cases hasync : item.isAsync = true
    · rw [if_pos hasync] at h
      cases h
    · rw [if_neg hasync] at h
      obtain ⟨⟨context, parameters⟩, -, h⟩ := bind_eq_ok.1 h
      obtain ⟨struct, hstruct, h⟩ := bind_eq_ok.1 h
      cases h
      exact ⟨hstruct, rfl, rfl⟩

end FunctionWrapper

namespace Package

/-- The tokens in the mark of an item of a module, if it is a function that has one. -/
def mark? (tokens : List TokenTree) : Option (List TokenTree) :=
  match Member.ofTokens tokens with
  | .other => none
  | .function attributes _ => (findArguments attributes "make_fn").toOption.join

/-- The wrapper of a marked function among the items of a module. It is made of the tokens in the
mark and of the item less the mark. -/
def wrapper? (tokens : List TokenTree) : Option FunctionWrapper :=
  (mark? tokens).bind fun arguments =>
    (FunctionWrapper.ofTokens arguments (less "make_fn" tokens)).toOption

/-- Whether an item is no function, has no mark, or is accepted with the mark that it has. -/
def isAccepted (tokens : List TokenTree) : Bool :=
  match Member.ofTokens tokens with
  | .other => true
  | .function attributes _ =>
    match findArguments attributes "make_fn" with
    | .ok none => true
    | .ok (some arguments) => (FunctionWrapper.ofTokens arguments (less "make_fn" tokens)).isOk
    | .error _ => false

/-- Items are accepted if and only if each function is that is marked. -/
theorem isAccepted_iff {tokens : List TokenTree} : isAccepted tokens = true ↔
    ∀ attributes name, Member.ofTokens tokens = .function attributes name →
      findArguments attributes "make_fn" = .ok none ∨
        ∃ arguments w, findArguments attributes "make_fn" = .ok (some arguments) ∧
          FunctionWrapper.ofTokens arguments (less "make_fn" tokens) = .ok w := by
  unfold isAccepted
  cases Member.ofTokens tokens with
  | other => simp
  | function attributes name =>
    rcases hmark : findArguments attributes "make_fn" with e | _ | arguments
    · simp [hmark]
    · simp [hmark]
    · cases hw : FunctionWrapper.ofTokens arguments (less "make_fn" tokens) <;>
        simp [hmark, hw, Except.isOk, Except.toBool]

/-- Of the items that are accepted, those with a mark have a wrapper. -/
theorem isSome_wrapper? {tokens : List TokenTree} (h : isAccepted tokens = true) :
    (wrapper? tokens).isSome = (mark? tokens).isSome := by
  unfold wrapper? mark?
  cases hmember : Member.ofTokens tokens with
  | other => rfl
  | function attributes name =>
    dsimp only
    rcases isAccepted_iff.1 h attributes name hmember with hnone | ⟨arguments, w, hmark, hw⟩
    · rw [hnone]
      rfl
    · rw [hmark]
      show (FunctionWrapper.ofTokens arguments (less "make_fn" tokens)).toOption.isSome = true
      rw [hw]
      rfl

/-- The macro of a mark generates the wrapper's code. -/
theorem functionCode_of_wrapper? {print : Printer} {tokens : List TokenTree} {w : FunctionWrapper}
    (h : wrapper? tokens = some w) : ∃ arguments, mark? tokens = some arguments ∧
      ∀ given item, tokenTrees? given = some arguments →
        tokenTrees? item = some (less "make_fn" tokens) →
          functionCode print given item = w.code print := by
  obtain ⟨arguments, hmark, hw⟩ := Option.bind_eq_some_iff.1 h
  refine ⟨arguments, hmark, fun given item hgiven hitem => ?_⟩
  rw [functionCode, FunctionWrapper.ofTexts_eq hgiven hitem]
  cases hresult : FunctionWrapper.ofTokens arguments (less "make_fn" tokens) with
  | error e =>
    rw [hresult] at hw
    cases hw
  | ok w' =>
    rw [hresult] at hw
    cases hw
    rfl

/-- A package and a wrapper take the same structure and name from an item. -/
theorem exported?_eq {tokens : List TokenTree} (h : isAccepted tokens = true) :
    exported? (Member.ofTokens tokens) =
      .ok ((wrapper? tokens).map fun w => (w.struct, w.makeName)) := by
  unfold wrapper? mark?
  cases hmember : Member.ofTokens tokens with
  | other => rfl
  | function attributes name =>
    dsimp only
    rcases isAccepted_iff.1 h attributes name hmember with hnone | ⟨arguments, w, hmark, hw⟩
    · rw [exported?, hnone]
      rfl
    · obtain ⟨item, hitem, hwrapper⟩ := bind_eq_ok.1 hw
      obtain ⟨options, hoptions, hwrapper⟩ := bind_eq_ok.1 hwrapper
      obtain ⟨hstruct, hfunction, hsaid⟩ := FunctionWrapper.of_ofItem hwrapper
      have hname : item.name = name := by
        have hless := FunctionItem.nameOf_of_ofTokens hitem
        rw [nameOf_less, Member.nameOf_of_ofTokens hmember] at hless
        exact (Option.some.inj hless).symm
      subst hname
      rw [exported?, hmark]
      show (FunctionOptions.ofTokens arguments >>= fun options => structName item.name >>= fun s =>
        pure (some (s, options.name.getD item.name))) = .ok (Option.map _
          (FunctionWrapper.ofTokens arguments (less "make_fn" tokens)).toOption)
      rw [hoptions, hstruct, hw]
      show Except.ok (some (w.struct, options.name.getD item.name)) = _
      rw [← hsaid, ← hfunction]
      rfl

/-- A package exports what its items are wrapped as, in order. -/
theorem exports_eq {items : List (List TokenTree)}
    (h : ∀ tokens ∈ items, isAccepted tokens = true) :
    exports (items.map Member.ofTokens) =
      .ok ((items.filterMap wrapper?).map fun w => (w.struct, w.makeName)) := by
  induction items with
  | nil => rfl
  | cons tokens items ih =>
    have hfirst := exported?_eq (h tokens (.head _))
    have hrest := ih fun t ht => h t (.tail _ ht)
    rw [List.map_cons, exports, hfirst, hrest]
    cases hw : wrapper? tokens with
    | none => simp [hw, bind, Except.bind]
    | some w => simp [hw, bind, Except.bind, pure, Except.pure]

/-! ## The items are all of the module -/

/-- An item and what is left behind it are all tokens. -/
theorem splitItem_append (semicolon : Bool) (depth : Nat) (arrow : Bool)
    (tokens : List TokenTree) : (splitItem semicolon depth arrow tokens).1 ++
      (splitItem semicolon depth arrow tokens).2 = tokens := by
  induction tokens generalizing depth arrow with
  | nil => rfl
  | cons t tokens ih =>
    unfold splitItem
    split
    · rfl
    · dsimp only
      split <;> exact congrArg (List.cons _) (ih _ _)

/-- An item has a token at least. -/
theorem length_splitItem_lt (semicolon : Bool) (depth : Nat) (arrow : Bool) (t : TokenTree)
    (tokens : List TokenTree) :
    (splitItem semicolon depth arrow (t :: tokens)).2.length ≤ tokens.length := by
  have happend := congrArg List.length (splitItem_append semicolon depth arrow (t :: tokens))
  have hfirst : (splitItem semicolon depth arrow (t :: tokens)).1 ≠ [] := by
    unfold splitItem
    split
    · exact List.cons_ne_nil _ _
    · exact List.cons_ne_nil _ _
  have hpos := List.length_pos_iff.2 hfirst
  simp only [List.length_append, List.length_cons] at happend
  omega

/-- Items that are split off one after the other are all tokens. -/
theorem flatten_itemsWithin {limit : Nat} {content : List TokenTree}
    (h : content.length ≤ limit) : (itemsWithin limit content).flatten = content := by
  induction limit generalizing content with
  | zero =>
    cases List.eq_nil_of_length_eq_zero (Nat.le_zero.1 h)
    rfl
  | succ limit ih =>
    cases content with
    | nil => rfl
    | cons t content =>
      rw [itemsWithin]
      · have hrest := length_splitItem_lt (endedBySemicolon (t :: content)) 0 false t content
        have hcount : content.length ≤ limit := Nat.le_of_succ_le_succ h
        rw [List.flatten_cons, ih (Nat.le_trans hrest hcount), splitItem_append]
      · exact List.cons_ne_nil _ _

/-- The items of a module, one after the other, are its content. -/
theorem flatten_itemsOf (content : List TokenTree) : (itemsOf content).flatten = content :=
  flatten_itemsWithin (Nat.le_refl _)

/-! ## What both say -/

/-- Code that declares a structure and answers a question for its name with a literal. -/
def Declares (generated : Code) (struct literal : Text) : Prop :=
  ∃ before between behind, generated =
    before ++ Wrapper.code "struct" ++ [struct] ++ Wrapper.code ";" ++ between ++
      Wrapper.code "fn name ( & self ) - > & ' static str \x7b" ++ [literal] ++
      Wrapper.code "\x7d" ++ behind

/-- A wrapper's code declares its structure and answers with its name. -/
theorem declares_code (print : Printer) (w : FunctionWrapper) :
    Declares (w.code print) w.struct (stringLiteral w.makeName) := by
  have hcontract : ∃ rest, w.contractCode print =
      Wrapper.code "fn name ( & self ) - > & ' static str \x7b" ++ [stringLiteral w.makeName] ++
        Wrapper.code "\x7d" ++ rest := by
    unfold FunctionWrapper.contractCode
    simp only [List.append_assoc]
    exact ⟨_, rfl⟩
  obtain ⟨rest, hrest⟩ := hcontract
  refine ⟨print.itemCode w.item ++ (Wrapper.code "# [ doc =" ++
    ([stringLiteral w.documentation] ++ (Wrapper.code "]" ++
    (Wrapper.code "# [ derive ( Debug , Clone , Copy , Default ) ]" ++
    TokenTree.textsAll w.visibility)))),
    Wrapper.code "impl : : gnumake_core : : registry : : Callable for" ++ ([w.struct] ++
    (Wrapper.code "\x7b" ++ (w.answerCode print ++ (Wrapper.code "\x7d" ++
    (Wrapper.code "impl : : gnumake_core : : registry : : MakeFunction for" ++ ([w.struct] ++
    Wrapper.code "\x7b")))))), rest ++ Wrapper.code "\x7d", ?_⟩
  rw [FunctionWrapper.code, hrest]
  simp only [List.append_assoc]

end Package

open Package in
/-- **A package and the wrappers of its functions agree.** Take a module with its items in place and
options that are accepted, where each function among the items has no mark or is accepted by the
macro of its mark, which gets the tokens in the mark and the item less the mark. The package then
exports exactly the structures of these wrappers and lists exactly the names that they answer with,
one for each marked function, in the order of the items; the other items add nothing. -/
theorem package_agrees_with_wrappers (print : Printer) {given text : Text} {item : ModuleItem}
    {content : List TokenTree} {register : Option Text}
    (hitem : ModuleItem.ofText text = .ok item) (hcontent : item.content = some content)
    (hgiven : identOptionOfText "register" given = .ok register)
    (hregister : keywords.contains (register.getD "register") = false)
    (haccepted : ∀ tokens ∈ itemsOf content, isAccepted tokens = true) :
    ∃ wrappers, wrappers = (itemsOf content).filterMap wrapper? ∧
      wrappers.length = (itemsOf content).countP (fun tokens => (mark? tokens).isSome) ∧
      (itemsOf content).flatten = content ∧
      packageCode print given text =
        TokenTree.textsAll (item.attributes.flatMap (Attribute.written print) ++
          item.visibility) ++
        code "mod" ++ [item.name] ++ code "\x7b" ++ (itemsOf content).flatMap print.itemCode ++
        (code "# [ doc =" ++ ["r\" Export every function of this package.\"".toList] ++
        code "] pub fn" ++ [register.getD "register"] ++
        code "( bridge : & : : gnumake_core : : bridge : : Bridge , ) - >" ++
        code ": : core : : result : : Result < ( ) , : : gnumake_core : : error : : RegistrationError >" ++
        code "\x7b" ++
        (wrappers.flatMap fun w => code "bridge . export (" ++ [w.struct] ++ code ") ? ;") ++
        code ": : core : : result : : Result : : Ok ( ( ) ) \x7d") ++
        (code "# [ doc =" ++ ["r\" Make names of the functions in this package.\"".toList] ++
        code "] pub const FUNCTION_NAMES : & [ & str ] = & [" ++
        FunctionWrapper.commaSeparated (wrappers.map fun w => [stringLiteral w.makeName]) ++
        code "] ;") ++
        code "\x7d" ∧
      ∀ tokens w, wrapper? tokens = some w →
        Declares (w.code print) w.struct (stringLiteral w.makeName) ∧
        ∃ arguments, mark? tokens = some arguments ∧ ∀ options function,
          tokenTrees? options = some arguments →
          tokenTrees? function = some (less "make_fn" tokens) →
          functionCode print options function = w.code print := by
  refine ⟨_, rfl, ?_, flatten_itemsOf content, ?_, fun tokens w h =>
    ⟨declares_code print w, functionCode_of_wrapper? h⟩⟩
  · rw [List.length_filterMap_eq_countP]
    exact List.countP_congr fun tokens htokens => by rw [isSome_wrapper? (haccepted tokens htokens)]
  have hpackage : ofTexts given text = .ok ⟨item.attributes, item.visibility, item.name, content,
      register.getD "register",
      ((itemsOf content).filterMap wrapper?).map fun w => (w.struct, w.makeName)⟩ := by
    have hmembers : membersOf content = (itemsOf content).map Member.ofTokens := rfl
    rw [ofTexts, hitem, hgiven]
    show ofItem item (register.getD "register") = _
    rw [ofItem, hcontent]
    dsimp only
    rw [hmembers, exports_eq haccepted]
    show (if keywords.contains (register.getD "register") = true then _ else _) = _
    rw [hregister]
    rfl
  rw [packageCode, hpackage]
  dsimp only
  rw [Package.code, registerCode, namesCode, List.flatMap_map, List.map_map]
  simp only [Function.comp_def]

/-- A module with a marked function, one without a mark, and a module with a marked function. -/
def nestedModule : Text :=
  "mod m \x7b #[make_fn(name = r\"a-b\")] fn f(x: &str) -> u8 \x7b 0 \x7d fn g() \x7b \x7d " ++
    "mod n \x7b #[make_fn] fn h() \x7b \x7d \x7d \x7d"

open Package in
/-- Its package exports the first function alone. -/
theorem package_agrees_with_wrappers_nested : ∃ item content wrappers,
    ModuleItem.ofText nestedModule = .ok item ∧ item.content = some content ∧
      wrappers = (itemsOf content).filterMap wrapper? ∧
      wrappers.map (fun w => (w.struct, w.makeName)) = [("F".toList, "a-b".toList)] ∧
      wrappers.length = (itemsOf content).countP (fun tokens => (mark? tokens).isSome) := by
  have hread : ((ModuleItem.ofText nestedModule).toOption.bind (·.content)).any (fun content =>
      (itemsOf content).all isAccepted && ((itemsOf content).filterMap wrapper?).map
        (fun w => (w.struct, w.makeName)) == [("F".toList, "a-b".toList)]) = true := by
    decide +kernel
  have hgiven : identOptionOfText "register" "" = .ok none := rfl
  obtain ⟨content, hcontent, hitems⟩ := (Option.any_eq_true _ _).1 hread
  obtain ⟨item, hitem, hcontent⟩ := Option.bind_eq_some_iff.1 hcontent
  rw [Bool.and_eq_true, List.all_eq_true, beq_iff_eq] at hitems
  have hok : ModuleItem.ofText nestedModule = .ok item := by
    cases h : ModuleItem.ofText nestedModule with
    | error e =>
      rw [h] at hitem
      cases hitem
    | ok item' =>
      rw [h] at hitem
      cases hitem
      rfl
  obtain ⟨wrappers, hwrappers, hcount, -⟩ :=
    package_agrees_with_wrappers .asRead hok hcontent hgiven (by decide) hitems.1
  exact ⟨item, content, wrappers, hok, hcontent, hwrappers, hwrappers ▸ hitems.2, hcount⟩

end MakeHost.Wrapper
