import MakeHost.Proofs.StructNames

/-!
# Names in the method that answers a call

The method that answers a call takes the parameters of the function out of the arguments, each under
its own name, and then calls the function. These names come into the scope in which the function
itself and the method's own parameters are looked up. `FunctionWrapper.body` is the method's body as
statements and uses of names, and `answerCode_eq` says that it is what is written;
`FunctionWrapper.hygienic_iff` says for which functions every name refers to what it is meant to.
-/

namespace MakeHost.Wrapper

variable {given text name other : Text} {w : FunctionWrapper} {r : Referent} {print : Printer}

/-! ## Scopes -/

/-- A name less the mark of a raw name, which has no part in what the name refers to. -/
def plainName : Text → Text
  | 'r' :: '#' :: name => name
  | name => name

/-- What a name in a method can refer to. -/
inductive Referent
  /-- What the name refers to outside of the method. -/
  | outside
  /-- The method's parameter for the context of the call. -/
  | context
  /-- The method's parameter for the arguments of the call. -/
  | arguments
  /-- What a statement of the method binds. -/
  | binding
deriving DecidableEq

/-- A part of an expression: tokens, or the use of a name with what it is meant to refer to. -/
inductive Fragment
  | tokens (code : Code)
  | use (name : Text) (meant : Referent)

/-- A statement that binds a name to a value. Values are not looked up in its type. -/
structure LetStatement where
  name : Text
  type : Code
  value : List Fragment

/-- The body of a method: statements, and an expression for the result. -/
structure MethodBody where
  statements : List LetStatement
  result : List Fragment

/-- The names in scope with what they refer to, the innermost first. -/
abbrev Scope := List (Text × Referent)

/-- What a name refers to in a scope. -/
def Scope.referent (scope : Scope) (name : Text) : Referent :=
  ((scope.find? fun bound => plainName bound.1 = plainName name).map (·.2)).getD .outside

/-- Every use in an expression refers to what it is meant to. -/
def Scope.Resolves (scope : Scope) (expression : List Fragment) : Prop :=
  ∀ name meant, .use name meant ∈ expression → scope.referent name = meant

/-- Every use in statements and in the result behind them refers to what it is meant to. A
statement's name is in scope behind it. -/
def Scope.ResolvesAll (scope : Scope) (result : List Fragment) : List LetStatement → Prop
  | [] => scope.Resolves result
  | s :: rest => scope.Resolves s.value ∧ ResolvesAll ((s.name, .binding) :: scope) result rest

/-- The parameters of the method that answers a call. -/
def answerScope : Scope := [("__args", .arguments), ("__ctx", .context)]

/-- Every name in the method's body refers to what it is meant to. -/
def MethodBody.Hygienic (b : MethodBody) : Prop := answerScope.ResolvesAll b.result b.statements

/-! ## What is written -/

/-- The code of a part of an expression. -/
def Fragment.code : Fragment → Code
  | tokens code => code
  | use name _ => [name]

/-- The code of an expression. -/
def expressionCode (expression : List Fragment) : Code := expression.flatMap Fragment.code

/-- The code of a statement. -/
def LetStatement.code (s : LetStatement) : Code :=
  Wrapper.code "let" ++ [s.name] ++ s.type ++ Wrapper.code "=" ++ expressionCode s.value ++
    Wrapper.code ";"

/-- The code of a method's body. -/
def MethodBody.code (b : MethodBody) : Code :=
  b.statements.flatMap LetStatement.code ++ expressionCode b.result

/-- The tokens of an expression that are no uses. -/
def otherTokens (expression : List Fragment) : Code :=
  expression.flatMap fun
    | .tokens code => code
    | .use _ _ => []

/-- In the values of a body and in its result, every token that is this name is a use. -/
def MethodBody.Marks (b : MethodBody) (name : Text) : Prop :=
  name ∉ otherTokens (b.statements.flatMap (·.value)) ∧ name ∉ otherTokens b.result

/-- The names of the parameters of the method that answers a call. -/
def methodNames : List Text := ["__args", "__ctx"]

/-- The code of the method that answers a call, up to its body. -/
def answerHead : Code :=
  code "# [ allow ( unused_variables ) ] fn call ( & self ," ++
  code "__ctx : & : : gnumake_core : : bridge : : CallContext < ' _ > ," ++
  code "__args : & [ : : std : : string : : String ] , ) - >" ++
  code ": : core : : result : : Result < : : gnumake_core : : codec : : MakeValue ," ++
  code ": : gnumake_core : : error : : CallError , > \x7b"

/-- The statements that take parameters out of the arguments; `i` is the next position. -/
def extractionStatements (print : Printer) (i : Nat) :
    List (Text × List TokenTree) → List LetStatement
  | [] => []
  | (name, type) :: rest =>
    ⟨name, code ":" ++ print.typeCode type,
      [.tokens (code ": : gnumake_core : : arity : : FromArg : : from_args ("),
        .use "__args" .arguments, .tokens (code "," ++ FunctionWrapper.countCode i ++ code ")")]⟩ ::
      extractionStatements print (i + 1) rest

/-- The uses of parameters in a call. -/
def parameterUses : List (Text × List TokenTree) → List Fragment
  | [] => []
  | [(name, _)] => [.use name .binding]
  | (name, _) :: rest => .use name .binding :: .tokens (code ",") :: parameterUses rest

namespace FunctionWrapper

/-- The call of the function. -/
def callExpression (w : FunctionWrapper) : List Fragment :=
  [.use w.function .outside, .tokens (Wrapper.code "(")] ++
    (if w.context then [.use "__ctx" .context, .tokens (Wrapper.code ",")] else []) ++
    parameterUses w.parameters ++ [.tokens (Wrapper.code ")")]

/-- What is taken of the result of the call. -/
def successExpression (w : FunctionWrapper) : List Fragment :=
  if w.fallible then
    [.tokens (Wrapper.code "match"), .use "__call_result" .binding, .tokens (
      Wrapper.code "\x7b" ++
      Wrapper.code ": : core : : result : : Result : : Ok ( value ) = > value ," ++
      Wrapper.code ": : core : : result : : Result : : Err ( err ) = > \x7b return" ++
      Wrapper.code ": : core : : result : : Result : : Err (" ++
      Wrapper.code ": : core : : convert : : Into : : < : : gnumake_core : : error : : CallError > : : into" ++
      Wrapper.code "( err ) , ) ; \x7d \x7d")]
  else [.use "__call_result" .binding]

/-- The body of the method that answers a call. -/
def body (print : Printer) (w : FunctionWrapper) : MethodBody where
  statements := extractionStatements print 0 w.parameters ++
    [⟨"__call_result", [], w.callExpression⟩,
      ⟨"__ok_result", Wrapper.code ":" ++ print.typeCode w.result, w.successExpression⟩]
  result := [.tokens (Wrapper.code ": : core : : result : : Result : : Ok (" ++
      Wrapper.code ": : gnumake_core : : codec : : IntoMakeValue : : into_make_value ("),
    .use "__ok_result" .binding, .tokens (Wrapper.code ") , )")]

end FunctionWrapper

/-! ## The body is what is written -/

/-- What takes the parameters out of the arguments is written as statements. -/
theorem extractions_eq (print : Printer) (i : Nat) (parameters : List (Text × List TokenTree)) :
    FunctionWrapper.extractions print i parameters =
      (extractionStatements print i parameters).flatMap LetStatement.code := by
  have hfront : code "= : : gnumake_core : : arity : : FromArg : : from_args ( __args ," =
      code "=" ++ (code ": : gnumake_core : : arity : : FromArg : : from_args (" ++
        ["__args".toList] ++ code ",") := by decide +kernel
  have hend : code ") ;" = code ")" ++ code ";" := by decide +kernel
  induction parameters generalizing i with
  | nil => rfl
  | cons p rest ih =>
    obtain ⟨name, type⟩ := p
    rw [FunctionWrapper.extractions, extractionStatements, List.flatMap_cons, ← ih, hfront, hend]
    simp only [LetStatement.code, expressionCode, List.flatMap_cons, List.flatMap_nil,
      Fragment.code, List.append_assoc, List.append_nil]

/-- The parameters of the call are written with commas between them. -/
theorem parameterUses_code (parameters : List (Text × List TokenTree)) :
    expressionCode (parameterUses parameters) =
      FunctionWrapper.commaSeparated (parameters.map fun (name, _) => [name]) := by
  have hcomma : code "," = [[',']] := by decide +kernel
  induction parameters with
  | nil => rfl
  | cons p rest ih =>
    cases rest with
    | nil => rfl
    | cons q rest =>
      rw [parameterUses]
      · show [p.1] ++ (code "," ++ expressionCode (parameterUses (q :: rest))) = _
        rw [ih, hcomma]
        rfl
      · exact List.cons_ne_nil q rest

namespace FunctionWrapper

/-- The call of the function is written as its tokens and its uses of names. -/
theorem callCode_eq (w : FunctionWrapper) : w.callCode = expressionCode w.callExpression := by
  have hcontext : Wrapper.code "__ctx ," = ["__ctx".toList] ++ Wrapper.code "," := by
    decide +kernel
  have hnames := parameterUses_code w.parameters
  unfold expressionCode at hnames
  rw [callCode, ← hnames, hcontext]
  unfold expressionCode callExpression
  cases w.context <;>
    simp only [List.flatMap_append, List.flatMap_cons, List.flatMap_nil, Fragment.code,
      List.append_assoc, List.append_nil, Bool.false_eq_true, if_false, if_true]

/-- The result is written as a statement that binds it. -/
theorem resultCode_eq (print : Printer) (w : FunctionWrapper) :
    w.resultCode print = LetStatement.code
    ⟨"__ok_result", Wrapper.code ":" ++ print.typeCode w.result, w.successExpression⟩ := by
  have hfront : Wrapper.code "let __ok_result :" =
      Wrapper.code "let" ++ ["__ok_result".toList] ++ Wrapper.code ":" := by decide +kernel
  have hplain : Wrapper.code "__call_result ;" = ["__call_result".toList] ++ Wrapper.code ";" := by
    decide +kernel
  have hmatch : Wrapper.code "match __call_result \x7b" =
      Wrapper.code "match" ++ ["__call_result".toList] ++ Wrapper.code "\x7b" := by decide +kernel
  have hend : Wrapper.code "( err ) , ) ; \x7d \x7d ;" =
      Wrapper.code "( err ) , ) ; \x7d \x7d" ++ Wrapper.code ";" := by decide +kernel
  rw [resultCode, hfront, hplain, hmatch, hend]
  unfold LetStatement.code expressionCode successExpression
  cases w.fallible with
  | false =>
    simp only [List.flatMap_cons, List.flatMap_nil, Fragment.code, List.append_assoc,
      List.append_nil, Bool.false_eq_true, if_false]
  | true =>
    simp only [List.flatMap_cons, List.flatMap_nil, Fragment.code, List.append_assoc,
      List.append_nil, if_true]

/-- The method that answers a call is written with this body. -/
theorem answerCode_eq (print : Printer) (w : FunctionWrapper) :
    w.answerCode print = answerHead ++ (w.body print).code ++ Wrapper.code "\x7d" := by
  have hcall : Wrapper.code "let __call_result =" =
      Wrapper.code "let" ++ ["__call_result".toList] ++ Wrapper.code "=" := by decide +kernel
  have hend : Wrapper.code ": : gnumake_core : : codec : : IntoMakeValue : : into_make_value ( __ok_result ) , ) \x7d" =
      Wrapper.code ": : gnumake_core : : codec : : IntoMakeValue : : into_make_value (" ++
        ["__ok_result".toList] ++ Wrapper.code ") , )" ++ Wrapper.code "\x7d" := by decide +kernel
  rw [answerCode, callCode_eq, resultCode_eq, extractions_eq, hcall, hend]
  unfold answerHead MethodBody.code body
  simp only [LetStatement.code, expressionCode, List.flatMap_append, List.flatMap_cons,
    List.flatMap_nil, Fragment.code, List.append_assoc, List.append_nil]

/-- The number of a position is none of these names. -/
theorem notMem_countCode (h : name.getLast? ≠ some 'e') (i : Nat) : name ∉ countCode i := by
  rw [countCode, List.mem_singleton]
  rintro rfl
  exact h (by rw [List.getLast?_append]; rfl)

/-- What takes parameters out of the arguments has no token of these names. -/
theorem notMem_extractions (hname : name ∈ methodNames) (i : Nat)
    (parameters : List (Text × List TokenTree)) :
    name ∉ otherTokens ((extractionStatements print i parameters).flatMap (·.value)) := by
  have hclosed : ∀ name ∈ methodNames, name ∉ Wrapper.code "," ∧ name ∉ Wrapper.code ")" ∧
      name ∉ Wrapper.code ": : gnumake_core : : arity : : FromArg : : from_args (" ∧
      name.getLast? ≠ some 'e' := by decide +kernel
  obtain ⟨hcomma, hclosing, hpath, hlast⟩ := hclosed name hname
  induction parameters generalizing i with
  | nil => exact nofun
  | cons p parameters ih =>
    have hrest := ih (i + 1)
    have hcount := notMem_countCode hlast i
    unfold otherTokens at hrest ⊢
    simp only [extractionStatements, List.flatMap_cons, List.flatMap_append, List.flatMap_nil,
      List.mem_append, List.not_mem_nil, not_or, not_false_eq_true, and_true]
    exact ⟨⟨hpath, trivial, ⟨hcomma, hcount⟩, hclosing⟩, hrest⟩

/-- The parameters of a call have no tokens but commas beside the names that are used. -/
theorem notMem_parameterUses (hcomma : name ∉ Wrapper.code ",")
    (parameters : List (Text × List TokenTree)) :
    name ∉ otherTokens (parameterUses parameters) := by
  induction parameters with
  | nil => exact nofun
  | cons p rest ih =>
    cases rest with
    | nil => exact nofun
    | cons q rest =>
      rw [parameterUses]
      · show name ∉ Wrapper.code "," ++ otherTokens (parameterUses (q :: rest))
        rw [List.mem_append, not_or]
        exact ⟨hcomma, ih⟩
      · exact List.cons_ne_nil q rest

/-- The call of the function has no token of these names. -/
theorem notMem_callExpression (hname : name ∈ methodNames) (w : FunctionWrapper) :
    name ∉ otherTokens w.callExpression := by
  have hclosed : ∀ name ∈ methodNames, name ∉ Wrapper.code "(" ∧ name ∉ Wrapper.code ")" ∧
      name ∉ Wrapper.code "," := by decide +kernel
  obtain ⟨hopening, hclosing, hcomma⟩ := hclosed name hname
  have hparameters := notMem_parameterUses hcomma w.parameters
  unfold otherTokens at hparameters ⊢
  simp only [callExpression, List.flatMap_append, List.mem_append, not_or]
  refine ⟨⟨⟨?_, ?_⟩, hparameters⟩, ?_⟩
  · simpa using hopening
  · cases w.context with
    | false => exact nofun
    | true => simpa using hcomma
  · simpa using hclosing

/-- In the method's body every token `__args` or `__ctx` is a use. -/
theorem body_marks (w : FunctionWrapper) (hname : name ∈ methodNames) :
    (w.body print).Marks name := by
  have hsuccess : ∀ name ∈ methodNames, name ∉ otherTokens w.successExpression := by
    unfold successExpression
    cases w.fallible <;> decide +kernel
  have hresult : ∀ name ∈ methodNames, name ∉ otherTokens (w.body print).result := by
    dsimp only [body]
    decide +kernel
  have hstatements : otherTokens ((w.body print).statements.flatMap (·.value)) =
      otherTokens ((extractionStatements print 0 w.parameters).flatMap (·.value)) ++
        (otherTokens w.callExpression ++ otherTokens w.successExpression) := by
    unfold otherTokens
    simp only [body, List.flatMap_append, List.flatMap_cons, List.flatMap_nil, List.append_nil]
  refine ⟨?_, hresult name hname⟩
  rw [hstatements, List.mem_append, List.mem_append, not_or, not_or]
  exact ⟨notMem_extractions hname 0 w.parameters, notMem_callExpression hname w,
    hsuccess name hname⟩

end FunctionWrapper

/-! ## What names refer to -/

/-- Names that statements have bound, the last one first. -/
def Scope.bound (names : List Text) : Scope := names.map (·, .binding)

section
variable {scope : Scope} {names : List Text}

/-- A name refers to what was bound under it last, raw marks aside. -/
theorem Scope.referent_cons (other name : Text) (r : Referent) (scope : Scope) :
    Scope.referent ((other, r) :: scope) name =
      if plainName other = plainName name then r else scope.referent name := by
  unfold referent
  split
  · next h => rw [List.find?_cons_of_pos (by simpa using h)]; rfl
  · next h => rw [List.find?_cons_of_neg (by simpa using h)]

/-- What stands behind names of statements is found by a name that is none of them. -/
theorem Scope.referent_bound (hr : r ≠ .binding) :
    Scope.referent (bound names ++ scope) name = r ↔
      (∀ n ∈ names, plainName n ≠ plainName name) ∧ scope.referent name = r := by
  induction names with
  | nil => simp [bound]
  | cons n names ih =>
    show Scope.referent ((n, .binding) :: (bound names ++ scope)) name = r ↔ _
    rw [referent_cons]
    by_cases hn : plainName n = plainName name
    · simp [hn, hr.symm]
    · simp [hn, ih]

/-- A name that was bound is a binding. -/
theorem Scope.referent_of_mem (h : name ∈ names) :
    Scope.referent (bound names ++ scope) name = .binding := by
  by_contra hr
  exact ((referent_bound hr).1 rfl).1 name h rfl

/-- An expression resolves where each of its parts does. -/
theorem Scope.resolves_append {front back : List Fragment} :
    scope.Resolves (front ++ back) ↔ scope.Resolves front ∧ scope.Resolves back := by
  simp only [Resolves, List.mem_append, or_imp, forall_and]

/-- Nothing resolves to anything else. -/
@[simp] theorem Scope.resolves_nil : scope.Resolves [] := nofun

/-- Tokens use no name. -/
@[simp] theorem Scope.resolves_tokens {code : Code} {expression : List Fragment} :
    scope.Resolves (.tokens code :: expression) ↔ scope.Resolves expression := by
  simp [Resolves]

/-- A use resolves where its name refers to what is meant. -/
@[simp] theorem Scope.resolves_use {meant : Referent} {expression : List Fragment} :
    scope.Resolves (.use name meant :: expression) ↔
      scope.referent name = meant ∧ scope.Resolves expression := by
  constructor
  · intro h
    exact ⟨h name meant (.head _), fun n m hn => h n m (.tail _ hn)⟩
  · rintro ⟨hfirst, hrest⟩ n m hn
    rcases List.mem_cons.1 hn with hn | hn
    · cases hn
      exact hfirst
    · exact hrest n m hn

/-- A call's parameters are in scope. -/
theorem resolves_parameterUses {parameters : List (Text × List TokenTree)}
    (h : ∀ p ∈ parameters, p.1 ∈ names) :
    Scope.Resolves (Scope.bound names ++ scope) (parameterUses parameters) := by
  induction parameters with
  | nil => simp [parameterUses, Scope.Resolves]
  | cons p rest ih =>
    have hfirst : Scope.referent (Scope.bound names ++ scope) p.1 = .binding :=
      Scope.referent_of_mem (h p (.head _))
    cases rest with
    | nil => exact Scope.resolves_use.2 ⟨hfirst, Scope.resolves_nil⟩
    | cons q rest =>
      have hrest := ih fun p hp => h p (.tail _ hp)
      exact Scope.resolves_use.2 ⟨hfirst, Scope.resolves_tokens.2 hrest⟩

/-- The name of the arguments has no mark. -/
theorem plainName_args : plainName "__args" = "__args".toList := by decide

/-- The name of the context has none. -/
theorem plainName_context : plainName "__ctx" = "__ctx".toList := by decide

/-- The method's arguments are found under their name. -/
theorem referent_answerScope_arguments : answerScope.referent "__args" = .arguments := by decide

/-- Its context is found under its name. -/
theorem referent_answerScope_context : answerScope.referent "__ctx" = .context := by decide

/-- Every other name is one from outside of the method. -/
theorem referent_answerScope_outside : answerScope.referent name = .outside ↔
    plainName name ≠ "__args" ∧ plainName name ≠ "__ctx" := by
  unfold answerScope
  rw [Scope.referent_cons, Scope.referent_cons, plainName_args, plainName_context]
  by_cases hargs : "__args".toList = plainName name
  · rw [if_pos hargs]
    exact iff_of_false nofun fun h => h.1 hargs.symm
  · rw [if_neg hargs]
    by_cases hctx : "__ctx".toList = plainName name
    · rw [if_pos hctx]
      exact iff_of_false nofun fun h => h.2 hctx.symm
    · rw [if_neg hctx]
      exact iff_of_true rfl ⟨Ne.symm hargs, Ne.symm hctx⟩

/-- Where the names before them are bound, the statements that take parameters out of the arguments
find these if no name that is bound before the last of them is theirs. -/
theorem resolvesAll_extractions {result : List Fragment} {rest : List LetStatement} {i : Nat}
    {parameters : List (Text × List TokenTree)} :
    Scope.ResolvesAll (Scope.bound names ++ answerScope) result
        (extractionStatements print i parameters ++ rest) ↔
      (parameters ≠ [] → ∀ n ∈ names, plainName n ≠ "__args") ∧
      (∀ name ∈ (parameters.map (·.1)).dropLast, plainName name ≠ "__args") ∧
      Scope.ResolvesAll (Scope.bound ((parameters.map (·.1)).reverse ++ names) ++ answerScope)
        result rest := by
  induction parameters generalizing i names with
  | nil => simp [extractionStatements]
  | cons p parameters ih =>
    obtain ⟨name, type⟩ := p
    have hfirst : Scope.Resolves (Scope.bound names ++ answerScope)
        [.tokens (code ": : gnumake_core : : arity : : FromArg : : from_args ("),
          .use "__args" .arguments,
          .tokens (code "," ++ FunctionWrapper.countCode i ++ code ")")] ↔
        ∀ n ∈ names, plainName n ≠ "__args" := by
      rw [Scope.resolves_tokens, Scope.resolves_use, Scope.resolves_tokens,
        and_iff_left Scope.resolves_nil, Scope.referent_bound (r := .arguments) nofun,
        and_iff_left referent_answerScope_arguments, plainName_args]
    show Scope.Resolves _ _ ∧ Scope.ResolvesAll (Scope.bound (name :: names) ++ answerScope) _
      (extractionStatements print (i + 1) parameters ++ rest) ↔ _
    rw [hfirst, ih]
    cases parameters with
    | nil => simp [Scope.bound]
    | cons q parameters => simp [Scope.bound, and_assoc, and_left_comm]

end

/-! ## Which functions have a method whose names mean what they are meant to -/

namespace FunctionWrapper

/-- The names of the parameters that make passes. -/
def parameterNames (w : FunctionWrapper) : List Text := w.parameters.map (·.1)

/-- No name that is bound in the method is that of what is used behind it: the function is called
neither as a parameter of the method nor as one of its own, `__args` is no parameter but the last
one, and `__ctx` is none where the context is passed on. -/
structure Unshadowed (w : FunctionWrapper) : Prop where
  method : plainName w.function ≠ "__args" ∧ plainName w.function ≠ "__ctx"
  function : ∀ name ∈ w.parameterNames, plainName name ≠ plainName w.function
  arguments : ∀ name ∈ w.parameterNames.dropLast, plainName name ≠ "__args"
  context : w.context = true → ∀ name ∈ w.parameterNames, plainName name ≠ "__ctx"

/-- The call finds the function and the context if the parameters hide neither. -/
theorem resolves_callExpression (w : FunctionWrapper) :
    Scope.Resolves (Scope.bound w.parameterNames.reverse ++ answerScope) w.callExpression ↔
      ((∀ name ∈ w.parameterNames, plainName name ≠ plainName w.function) ∧
        plainName w.function ≠ "__args" ∧ plainName w.function ≠ "__ctx") ∧
      (w.context = true → ∀ name ∈ w.parameterNames, plainName name ≠ "__ctx") := by
  have hparameters : Scope.Resolves
      (Scope.bound w.parameterNames.reverse ++ answerScope) (parameterUses w.parameters) :=
    resolves_parameterUses fun p hp => List.mem_reverse.2 (List.mem_map_of_mem hp)
  have hfunction : Scope.referent (Scope.bound w.parameterNames.reverse ++ answerScope)
      w.function = .outside ↔ (∀ name ∈ w.parameterNames, plainName name ≠ plainName w.function) ∧
        plainName w.function ≠ "__args" ∧ plainName w.function ≠ "__ctx" := by
    rw [Scope.referent_bound (r := .outside) nofun, referent_answerScope_outside]
    simp only [List.mem_reverse]
  have hcontext : Scope.referent (Scope.bound w.parameterNames.reverse ++ answerScope)
      "__ctx" = .context ↔ ∀ name ∈ w.parameterNames, plainName name ≠ "__ctx" := by
    rw [Scope.referent_bound (r := .context) nofun, and_iff_left referent_answerScope_context,
      plainName_context]
    simp only [List.mem_reverse]
  rw [callExpression, Scope.resolves_append, Scope.resolves_append, Scope.resolves_append,
    Scope.resolves_use, hfunction, and_iff_left hparameters]
  cases w.context with
  | false => simp only [Bool.false_eq_true, if_false, Scope.resolves_nil, Scope.resolves_tokens,
      and_true, false_implies]
  | true => simp only [if_true, Scope.resolves_use, hcontext, Scope.resolves_nil,
      Scope.resolves_tokens, and_true, true_implies]

/-- What the statements bind is found behind them. -/
theorem resolves_successExpression (w : FunctionWrapper) {scope : Scope} :
    Scope.Resolves (("__call_result".toList, .binding) :: scope) w.successExpression := by
  have hresult : Scope.referent (("__call_result".toList, .binding) :: scope) "__call_result" =
      .binding := by rw [Scope.referent_cons, if_pos rfl]
  unfold successExpression
  cases w.fallible with
  | false => exact Scope.resolves_use.2 ⟨hresult, Scope.resolves_nil⟩
  | true =>
    exact Scope.resolves_tokens.2 (Scope.resolves_use.2
      ⟨hresult, Scope.resolves_tokens.2 Scope.resolves_nil⟩)

/-- Every name in the method's body refers to what it is meant to if and only if nothing that is
used is shadowed. -/
theorem hygienic_iff (print : Printer) (w : FunctionWrapper) :
    (w.body print).Hygienic ↔ w.Unshadowed := by
  have hend : Scope.Resolves
      (("__ok_result".toList, .binding) :: ("__call_result".toList, .binding) ::
        (Scope.bound (w.parameterNames.reverse ++ []) ++ answerScope)) (w.body print).result :=
    Scope.resolves_tokens.2 (Scope.resolves_use.2 ⟨by rw [Scope.referent_cons, if_pos rfl],
      Scope.resolves_tokens.2 Scope.resolves_nil⟩)
  show Scope.ResolvesAll (Scope.bound [] ++ answerScope) (w.body print).result
    (extractionStatements print 0 w.parameters ++ [⟨"__call_result", [], w.callExpression⟩,
      ⟨"__ok_result", Wrapper.code ":" ++ print.typeCode w.result, w.successExpression⟩]) ↔ _
  rw [resolvesAll_extractions, Scope.ResolvesAll, Scope.ResolvesAll, Scope.ResolvesAll,
    ← parameterNames, and_iff_left hend, and_iff_left w.resolves_successExpression,
    List.append_nil, resolves_callExpression]
  constructor
  · rintro ⟨-, hargs, ⟨hfunction, hmethod⟩, hcontext⟩
    exact ⟨hmethod, hfunction, hargs, hcontext⟩
  · intro h
    exact ⟨fun _ => nofun, h.arguments, ⟨h.function, h.method⟩, h.context⟩

/-- The code of a wrapper holds the method that answers a call. -/
theorem exists_code_eq (print : Printer) (w : FunctionWrapper) : ∃ before behind, w.code print =
    before ++ (answerHead ++ (w.body print).code ++ Wrapper.code "\x7d") ++ behind := by
  refine ⟨print.itemCode w.item ++ Wrapper.code "# [ doc =" ++ [stringLiteral w.documentation] ++
    Wrapper.code "]" ++ Wrapper.code "# [ derive ( Debug , Clone , Copy , Default ) ]" ++
    TokenTree.textsAll w.visibility ++ Wrapper.code "struct" ++ [w.struct] ++ Wrapper.code ";" ++
    Wrapper.code "impl : : gnumake_core : : registry : : Callable for" ++ [w.struct] ++
    Wrapper.code "\x7b", Wrapper.code "\x7d" ++
    (Wrapper.code "impl : : gnumake_core : : registry : : MakeFunction for" ++ ([w.struct] ++
    (Wrapper.code "\x7b" ++ (w.contractCode print ++ Wrapper.code "\x7d")))), ?_⟩
  rw [code, answerCode_eq]
  simp only [List.append_assoc]

end FunctionWrapper

/-- **In the method that answers calls of a function every name refers to what it is meant to if and
only if nothing that is used is shadowed.** The code that is generated for a function holds a method
with this body, in which all tokens `__args` and `__ctx` of its own are uses. The function, the
context and the arguments are found by their names if and only if the function is called neither as
one of its parameters nor as one of the method's, `__args` is at most its last parameter, and
`__ctx` is none of its parameters if it takes the context; the mark of a raw name does not count. -/
theorem wrapper_hygienic_iff (print : Printer) (h : FunctionWrapper.ofTexts given text = .ok w) :
    (∃ before behind, functionCode? print given text =
      some (before ++ (answerHead ++ (w.body print).code ++ code "\x7d") ++ behind)) ∧
    (∀ name ∈ methodNames, (w.body print).Marks name) ∧
    ((w.body print).Hygienic ↔
      (plainName w.function ≠ "__args" ∧ plainName w.function ≠ "__ctx") ∧
      (∀ name ∈ w.parameterNames, plainName name ≠ plainName w.function) ∧
      (∀ name ∈ w.parameterNames.dropLast, plainName name ≠ "__args") ∧
      (w.context = true → ∀ name ∈ w.parameterNames, plainName name ≠ "__ctx")) := by
  refine ⟨?_, fun name hname => w.body_marks hname, ?_⟩
  · obtain ⟨before, behind, hcode⟩ := w.exists_code_eq print
    exact ⟨before, behind, by rw [functionCode?, h, generated?, hcode]⟩
  · rw [w.hygienic_iff print]
    constructor
    · intro hclear
      exact ⟨hclear.method, hclear.function, hclear.arguments, hclear.context⟩
    · rintro ⟨hmethod, hfunction, harguments, hcontext⟩
      exact ⟨hmethod, hfunction, harguments, hcontext⟩

/-- What a wrapper says of names: that of the function, whether it takes the context, and those of
its parameters. -/
def wrapperNames? (text : Text) : Option (Text × Bool × List Text) :=
  (FunctionWrapper.ofTexts [] text).toOption.map fun w => (w.function, w.context, w.parameterNames)

/-- What is read off the wrapper of a text is said of that wrapper. -/
theorem exists_of_wrapperNames? {function : Text} {context : Bool} {names : List Text}
    (h : wrapperNames? text = some (function, context, names)) :
    ∃ w, FunctionWrapper.ofTexts [] text = .ok w ∧ w.function = function ∧ w.context = context ∧
      w.parameterNames = names := by
  obtain ⟨w, hw, hnames⟩ := Option.map_eq_some_iff.1 h
  cases hnames
  exact ⟨w, toOption_eq_some hw, rfl, rfl, rfl⟩

/-- A function whose last parameter is called as the arguments are. -/
def trailingFunction : Text :=
  "fn show(ctx: &CallContext, text: &str, __args: &[String]) -> String \x7b\x7d"

/-- The last parameter may hide the arguments, which nothing uses behind it. -/
theorem wrapper_hygienic_iff_last : ∃ w, FunctionWrapper.ofTexts [] trailingFunction = .ok w ∧
    w.parameterNames = ["text".toList, "__args".toList] ∧ (w.body .asRead).Hygienic := by
  have hread : wrapperNames? trailingFunction =
      some ("show".toList, true, ["text".toList, "__args".toList]) := by decide +kernel
  obtain ⟨w, hw, hfunction, hcontext, hnames⟩ := exists_of_wrapperNames? hread
  refine ⟨w, hw, hnames, (wrapper_hygienic_iff .asRead hw).2.2.2 ?_⟩
  rw [hfunction, hcontext, hnames]
  decide

/-- Whether names of a function and its parameters hide what the method uses. -/
def hidesUsed : Text × Bool × List Text → Bool
  | (function, context, names) =>
    plainName function = "__args".toList || plainName function ∈ names.map plainName ||
      "__args".toList ∈ names.dropLast.map plainName ||
      context && "__ctx".toList ∈ names.map plainName

/-- A function with a parameter that hides what is used behind it has no such method. -/
theorem exists_not_hygienic (h : (wrapperNames? text).any hidesUsed = true) :
    ∃ w, FunctionWrapper.ofTexts [] text = .ok w ∧ ∀ print, ¬ (w.body print).Hygienic := by
  obtain ⟨⟨function, context, names⟩, hnames, hhides⟩ := (Option.any_eq_true _ _).1 h
  obtain ⟨w, hw, rfl, rfl, rfl⟩ := exists_of_wrapperNames? hnames
  refine ⟨w, hw, fun print hhygienic => ?_⟩
  have hclear := (w.hygienic_iff print).1 hhygienic
  simp only [hidesUsed, Bool.or_eq_true, Bool.and_eq_true, decide_eq_true_eq] at hhides
  rcases hhides with ((hmethod | hfunction) | harguments) | ⟨hcontext, hhidden⟩
  · exact hclear.method.1 hmethod
  · obtain ⟨name, hname, heq⟩ := List.mem_map.1 hfunction
    exact hclear.function name hname heq
  · obtain ⟨name, hname, heq⟩ := List.mem_map.1 harguments
    exact hclear.arguments name hname heq
  · obtain ⟨name, hname, heq⟩ := List.mem_map.1 hhidden
    exact hclear.context hcontext name hname heq

/-- Functions whose names or parameters hide what the method uses: the function itself behind a
parameter of its name or behind the method's, the arguments behind a parameter that is not the last
one, and the context. -/
theorem wrapper_not_hygienic :
    (∃ w, FunctionWrapper.ofTexts [] "fn f(f: &str) \x7b\x7d" = .ok w ∧
      ∀ print, ¬ (w.body print).Hygienic) ∧
    (∃ w, FunctionWrapper.ofTexts [] "fn __args(x: &str) \x7b\x7d" = .ok w ∧
      ∀ print, ¬ (w.body print).Hygienic) ∧
    (∃ w, FunctionWrapper.ofTexts []
      "fn f(a: &str, __args: &[String], b: &[String]) \x7b\x7d" = .ok w ∧
      ∀ print, ¬ (w.body print).Hygienic) ∧
    ∃ w, FunctionWrapper.ofTexts [] "fn f(ctx: &CallContext, __ctx: &str) \x7b\x7d" = .ok w ∧
      ∀ print, ¬ (w.body print).Hygienic :=
  ⟨exists_not_hygienic (by decide +kernel), exists_not_hygienic (by decide +kernel),
    exists_not_hygienic (by decide +kernel), exists_not_hygienic (by decide +kernel)⟩

end MakeHost.Wrapper
