import EachSubject.Proofs.Source.Declarations
import EachSubject.Proofs.Wrapper.Syntax
import EachSubject.Proofs.Wrapper.Tokens

/-!
# Reading a wrapper module back

The tokens of a wrapper class are read as its syntax tree: the overrides one after the other, each line by
line, and the fixed parts as they are written.
-/

namespace EachSubject

open Source Source.Parser Source.Grammar

namespace Wrapper

/-- The tokens of a text stand for the expression that it is. -/
def TextStands (depth : Nat) (text : String) : Prop :=
  ∃ e, expressionOf text = some e ∧ StandFor depth (textTokens text) e

/-! ## Parameters -/

/-- The name of a parameter is a name, and its texts stand for expressions. -/
structure Parameter.Stands (depth : Nat) (p : Parameter) : Prop where
  name : Text.isName p.name = true
  typeText : ∀ typeText ∈ p.typeText, TextStands depth (annotatedText typeText p.annotations)
  default : ∀ default ∈ p.default, TextStands depth default

section

variable {depth : Nat} {p : Parameter} {stop next : Token} {rest : List Token}

private theorem bareItem_stands {least : Nat} {tokens : List Token} {e : Expr} (stands : StandFor least tokens e)
    (deep : least ≤ depth) (ends : stop ∈ expressionEnds) :
    bareItem (grammar depth) (tokens ++ stop :: next :: rest) = some (e, stop :: next :: rest) := by
  have read := stands deep stop ends next rest
  obtain ⟨first, more, rfl, unstarred⟩ := StandFor.starts stands
  rw [List.cons_append] at read ⊢
  rw [bareItem, bind_of_some (accepts_other (unstarred "*" (by decide)) _)]
  exact read

/-- The tokens of a declared type, with the colon. -/
private def typeTokens (p : Parameter) : List Token :=
  match p.typeText with
  | some typeText => .op ":" :: textTokens (annotatedText typeText p.annotations)
  | none => []

private theorem type_read (stands : p.Stands depth) (noColon : stop ≠ .op ":")
    {parser : Parser Expr} (reads : ∀ {tokens e}, StandFor depth tokens e →
      parser (tokens ++ stop :: next :: rest) = some (e, stop :: next :: rest)) :
    hint? true parser (typeTokens p ++ stop :: next :: rest) = some (p.hint, stop :: next :: rest) := by
  rw [typeTokens, Parameter.hint]
  cases isType : p.typeText with
  | none => exact hint_none noColon
  | some typeText =>
    obtain ⟨e, same, standFor⟩ := stands.typeText typeText isType
    rw [Option.bind_some, same]
    exact hint_some (reads standFor)

private theorem noColon_of_stop {stop : Token} (isStop : stop ∈ [Token.op ",", .op ")"]) :
    stop ≠ .op ":" ∧ stop ≠ .op "=" ∧ stop ∈ expressionEnds :=
  (by decide : ∀ stop ∈ [Token.op ",", .op ")"], stop ≠ .op ":" ∧ stop ≠ .op "=" ∧ stop ∈ expressionEnds)
    stop isStop

/-- A parameter that is not starred. -/
private theorem plain_read (stands : p.Stands depth) (isStop : stop ∈ [Token.op ",", .op ")"]) :
    parameterItem true (grammar depth).expression (bareItem (grammar depth))
      (.word p.name :: (typeTokens p ++ (match p.default with
        | some default => .op "=" :: textTokens default
        | none => []) ++ stop :: next :: rest)) =
      some (.plain (Text.normalized p.name) p.hint p.value, stop :: next :: rest) := by
  have isName := nameOf?_eq stands.name
  obtain ⟨noColon, noEquals, ends⟩ := noColon_of_stop isStop
  have value : p.value = p.default.bind expressionOf := rfl
  cases isDefault : p.default with
  | none =>
    rw [value, isDefault, Option.bind_none, List.append_nil]
    exact plainItem_read isName (type_read stands noColon fun standFor => standFor (Nat.le_refl _) _ ends _ _)
      noEquals
  | some default =>
    obtain ⟨e, same, standFor⟩ := stands.default default isDefault
    have read := standFor (Nat.le_refl depth) stop ends next rest
    obtain ⟨second, tail, behind⟩ : ∃ second tail, textTokens default ++ stop :: next :: rest = second :: tail :=
      List.exists_cons_of_ne_nil (by simp)
    rw [value, isDefault, Option.bind_some, same, List.append_assoc, List.cons_append, behind]
    rw [behind] at read
    exact defaultedItem_read isName
      (type_read stands (by decide) fun standFor => standFor (Nat.le_refl _) _ (by decide) _ _) read

private theorem declaration_read (stands : p.Stands depth)
    (noDefault : p.kind.isVariadic = true → p.default = none) :
    ReadsItem (grammar depth) p.declarationTokens p.item := by
  have isName := nameOf?_eq stands.name
  have starts : ∃ first more, p.declarationTokens = first :: more ∧ first ≠ .op ")" := by
    rw [Parameter.declarationTokens]
    cases p.kind <;> exact ⟨_, _, rfl, by simp⟩
  refine ⟨starts, fun stop isStop next rest => ?_⟩
  obtain ⟨noColon, noEquals, ends⟩ := noColon_of_stop isStop
  have plain : parameterItem _ _ _ (_ :: (_ ++ stop :: next :: rest)) = _ := plain_read stands isStop
  rw [Parameter.declarationTokens, Parameter.item]
  cases kind : p.kind with
  | positional => exact plain
  | keywordOnly => exact plain
  | extraPositional =>
    rw [noDefault (by rw [kind]; rfl), List.append_nil]
    exact extraPositionalItem_read isName
      (type_read stands noColon fun standFor => bareItem_stands standFor (Nat.le_refl _) ends)
  | extraKeyword =>
    rw [noDefault (by rw [kind]; rfl), List.append_nil]
    exact extraKeywordItem_read isName
      (type_read stands noColon fun standFor => standFor (Nat.le_refl _) _ ends _ _)

private theorem declarations_read : ∀ {parameters : List Parameter} {last : Option ParameterKind}
    {defaulted : Bool} (starred : Bool), (∀ p ∈ parameters, p.Stands depth) → InOrder last defaulted parameters →
      ReadsItems (grammar depth) (declarationItems starred parameters) (parameterItems starred parameters)
  | [], _, _, _, _, _ => .nil
  | p :: rest, _, _, starred, stands, inOrder => by
    obtain ⟨_, noDefault, _, behind⟩ := inOrder
    have first := declaration_read (stands p List.mem_cons_self) noDefault
    have further : ∀ starred, ReadsItems (grammar depth) (declarationItems starred rest)
        (parameterItems starred rest) := fun starred =>
      declarations_read starred (fun q inside => stands q (List.mem_cons_of_mem p inside)) behind
    rw [declarationItems, parameterItems]
    cases p.kind with
    | extraPositional => exact .cons first (further true)
    | keywordOnly =>
      cases starred with
      | true => exact .cons first (further true)
      | false => exact .star (.cons first (further true))
    | positional => exact .cons first (further starred)
    | extraKeyword => exact .cons first (further starred)

private theorem self_read : ReadsItem (grammar depth) [.word "self"] (.plain "self" none none) := by
  refine ⟨⟨_, _, rfl, by decide⟩, fun stop isStop next rest => ?_⟩
  obtain ⟨noColon, noEquals, _⟩ := noColon_of_stop isStop
  exact plainItem_read (by decide +kernel) (hint_none noColon) noEquals

/-- An argument is passed on. -/
private theorem argument_read (deep : 0 < depth) (isName : Text.isName p.name = true) :
    Passes (grammar depth) p.argumentTokens p.passed := by
  have isName := nameOf?_eq isName
  rw [Parameter.argumentTokens, Parameter.passed]
  cases p.kind with
  | positional => exact Passes.name isName deep
  | extraPositional => exact Passes.spread isName deep
  | keywordOnly => exact Passes.keyword isName isName deep
  | extraKeyword => exact Passes.spreadKeywords isName deep

private theorem passed_inOrder : ∀ {parameters : List Parameter} {last : Option ParameterKind}
    {defaulted keywords spreads : Bool}, InOrder last defaulted parameters →
      (keywords = true → ∃ before ∈ last, 2 ≤ before.rank) →
      (spreads = true → ∃ before ∈ last, 3 ≤ before.rank) →
      argumentsInOrder keywords spreads (parameters.map Parameter.passed) = true
  | [], _, _, _, _, _, _, _ => rfl
  | p :: rest, last, _, keywords, spreads, inOrder, named, spread => by
    obtain ⟨follow, _, _, behind⟩ := inOrder
    have unnamed : p.kind.rank < 2 → keywords = false := by
      intro early
      cases given : keywords with
      | false => rfl
      | true =>
        obtain ⟨before, isLast, late⟩ := named given
        have := (follow before isLast).1
        omega
    have unspread : p.kind.rank < 3 → spreads = false := by
      intro early
      cases given : spreads with
      | false => rfl
      | true =>
        obtain ⟨before, isLast, late⟩ := spread given
        have := (follow before isLast).1
        omega
    rw [List.map_cons, Parameter.passed]
    cases kind : p.kind <;> rw [kind] at behind unnamed unspread
    case positional =>
      have : argumentsInOrder false false _ = true := passed_inOrder behind (by simp) (by simp)
      simpa [argumentsInOrder, unnamed (by decide), unspread (by decide)] using this
    case extraPositional =>
      have : argumentsInOrder false false _ = true := passed_inOrder behind (by simp) (by simp)
      simpa [argumentsInOrder, unnamed (by decide), unspread (by decide)] using this
    case keywordOnly =>
      have : argumentsInOrder true false _ = true :=
        passed_inOrder behind (fun _ => ⟨_, rfl, by decide⟩) (by simp)
      simpa [argumentsInOrder, unspread (by decide)] using this
    case extraKeyword =>
      exact passed_inOrder behind
        (fun _ => ⟨_, rfl, by decide⟩) (fun _ => ⟨_, rfl, by decide⟩)

end

/-! ## Overrides -/

namespace Override

/-- The names of an override are names, and its texts stand for expressions. -/
structure Stands (depth : Nat) (m : Override) : Prop where
  name : Text.isName m.name = true
  subjectType : Text.isName m.subjectType = true
  itemLocal : Text.isName m.itemLocal = true ∧ m.itemLocal ≠ "match"
  subjectLocal : Text.isName m.subjectLocal = true ∧ m.subjectLocal ≠ "match"
  targetType : TextStands depth m.targetType
  returns : ∀ returns ∈ m.returns, TextStands depth returns
  parameters : ∀ p ∈ m.parameters, p.Stands depth
  inOrder : InOrder none false m.parameters

variable {m : Override} {depth : Nat} (stands : m.Stands (depth + 2)) {block : Parser (List Stmt)}
  (next : Token) (rest : List Token)

/-- A name in front of an annotation, an index, or the end of a line. -/
private theorem assigned_name {word name : String} (isName : nameOf? word = some name)
    (noMatch : word ≠ "match") {stop : Token} (ends : stop ∈ expressionEnds) (noComma : stop ≠ .op ",") :
    assignedValue (grammar (depth + 1)) (.word word :: stop :: next :: rest) =
      some (.name name, stop :: next :: rest) :=
  assignedValue_one (name_startsExpression isName noMatch) noComma
    (StandFor.name isName (Nat.le_add_left 1 depth) stop ends next rest)

/-- The object itself, and an attribute of it. -/
private theorem self_heads {inner : Grammar} : Heads inner [.word "self"] (.name "self") :=
  Heads.name (by decide +kernel)

include stands

private theorem item_read : statement (grammar (depth + 2)) block (m.itemTokens ++ .newline :: next :: rest) =
    some ([m.itemTree], next :: rest) := by
  obtain ⟨isName, noMatch⟩ := stands.itemLocal
  obtain ⟨e, same, standFor⟩ := stands.targetType
  obtain ⟨second, tail, behind⟩ : ∃ second tail,
      textTokens m.targetType ++ .newline :: next :: rest = second :: tail :=
    List.exists_cons_of_ne_nil (by simp)
  have typed := standFor (Nat.le_refl _) .newline (by decide) next rest
  rw [itemTokens, itemTree, same, List.cons_append, List.cons_append, behind]
  rw [behind] at typed
  exact line_read (name_startsExpression (nameOf?_eq isName) noMatch)
    (annotation_read (assigned_name _ _ (nameOf?_eq isName) noMatch (by decide) (by decide)) rfl typed
      (by decide))

private theorem makes_stands : StandFor 2
    [.word "self", .op ".", .word "_subject_factory", .op ".", .word "get_subject", .op "(", .word "self",
     .op ".", .word "failure_strategy", .op ",", .word m.itemLocal, .op ")"]
    (.call (.attribute (.attribute (.name "self") "_subject_factory") "get_subject")
      [.positional (.attribute (.name "self") "failure_strategy"),
       .positional (.name (Text.normalized m.itemLocal))]) := by
  refine StandFor.heads (fun inside deep => ?_) (by decide)
  have reporter : StandFor 1 [.word "self", .op ".", .word "failure_strategy"]
      (.attribute (.name "self") "failure_strategy") :=
    StandFor.heads (fun _ _ => Heads.member self_heads (by decide +kernel)) (by decide)
  have first := Passes.positional reporter deep ⟨_, _, rfl, by decide⟩ (by simp)
  have second := Passes.name (nameOf?_eq stands.itemLocal.1) deep
  have factory : Heads (grammar inside) [.word "self", .op ".", .word "_subject_factory"]
      (.attribute (.name "self") "_subject_factory") := self_heads.member (by decide +kernel)
  have make : Heads (grammar inside)
      [.word "self", .op ".", .word "_subject_factory", .op ".", .word "get_subject"]
      (.attribute (.attribute (.name "self") "_subject_factory") "get_subject") :=
    factory.member (by decide +kernel)
  have passed : ∀ next rest, arguments (grammar inside) ([.word "self", .op ".", .word "failure_strategy",
      .op ",", .word m.itemLocal, .op ")"] ++ next :: rest) =
        some ([.positional (.attribute (.name "self") "failure_strategy"),
          .positional (.name (Text.normalized m.itemLocal))], next :: rest) :=
    arguments_read (.cons first (.cons second .nil)) rfl
  exact make.call passed

private theorem subject_read :
    statement (grammar (depth + 2)) block (m.subjectTokens ++ .newline :: next :: rest) =
      some ([m.subjectTree], next :: rest) := by
  obtain ⟨isName, noMatch⟩ := stands.subjectLocal
  have typed := StandFor.name (nameOf?_eq stands.subjectType) (Nat.le_add_left 1 (depth + 1)) (.op "=")
    (by decide)
  have made := makes_stands stands (Nat.le_add_left 2 depth) .newline (by decide) next rest
  exact line_read (name_startsExpression (nameOf?_eq isName) noMatch)
    (annotation_value_read (assigned_name _ _ (nameOf?_eq isName) noMatch (by decide) (by decide)) rfl
      (typed _ _) (assignedValue_one (by decide) (by decide) made))

private theorem call_heads (inside : Nat) (deep : 1 ≤ inside) : Heads (grammar inside)
    ([.word m.subjectLocal, .op ".", .word m.name] ++ .op "(" ::
      (commaSeparated (m.parameters.map Parameter.argumentTokens) ++ [.op ")"])) m.callTree := by
  have passes : List.Forall₂ (Passes (grammar inside)) (m.parameters.map Parameter.argumentTokens)
      (m.parameters.map Parameter.passed) := by
    rw [List.forall₂_map_left_iff, List.forall₂_map_right_iff, List.forall₂_same]
    exact fun p among => argument_read deep (stands.parameters p among).name
  have order : argumentsInOrder false false _ = true := passed_inOrder stands.inOrder (by simp) (by simp)
  have method : Heads (grammar inside) [.word m.subjectLocal, .op ".", .word m.name]
      (.attribute (.name (Text.normalized m.subjectLocal)) (Text.normalized m.name)) :=
    (Heads.name (nameOf?_eq stands.subjectLocal.1)).member (nameOf?_eq stands.name)
  refine method.call fun next rest => ?_
  rw [List.append_assoc]
  exact arguments_read passes order next rest

private theorem call_read :
    statement (grammar (depth + 2)) block (m.callTokens ++ .newline :: next :: rest) =
      some ([.expression (if m.isAsync then .awaited m.callTree else m.callTree)], next :: rest) := by
  obtain ⟨isName, noMatch⟩ := stands.subjectLocal
  have plain := name_startsExpression (nameOf?_eq isName) noMatch
  have heads := call_heads stands
  have called : StandFor 2 (.word m.subjectLocal :: _) m.callTree :=
    StandFor.heads heads (name_startsPlainly (nameOf?_eq isName))
  have awaited : StandFor 2 (.word "await" :: _) (.awaited m.callTree) := StandFor.awaits heads
  rw [callTokens]
  cases m.isAsync with
  | false =>
    have read := called (Nat.le_add_left 2 depth) .newline (by decide) next rest
    have whole : statement _ block _ = _ :=
      line_read plain (expression_read (assignedValue_one plain (by decide) read))
    simpa using whole
  | true =>
    have read := awaited (Nat.le_add_left 2 depth) .newline (by decide) next rest
    have whole : statement _ block _ = _ :=
      line_read (by decide) (expression_read (assignedValue_one (by decide) (by decide) read))
    simpa using whole

private theorem loop_read {inside : Nat} :
    statement (grammar (depth + 2)) (blockAt (grammar (depth + 2)) (inside + 1))
      (m.loopTokens ++ .newline :: .indent :: (m.subjectTokens ++ .newline ::
        (m.callTokens ++ .newline :: .dedent :: .dedent :: rest))) =
      some ([m.loopTree], .dedent :: rest) := by
  have data : StandFor 1 [.word "self", .op ".", .word "_data"] (.attribute (.name "self") "_data") :=
    StandFor.heads (fun _ _ => Heads.member self_heads (by decide +kernel)) (by decide)
  have source := data (Nat.le_add_left 1 (depth + 1)) (.op ":") (by decide)
  obtain ⟨first, more, starts, noEnd⟩ : ∃ first more, m.callTokens = first :: more ∧ first ≠ .dedent := by
    rw [callTokens]
    cases m.isAsync <;> exact ⟨_, _, rfl, by simp⟩
  have call : statements _ (blockAt (grammar (depth + 2)) inside) _ = some (_, .dedent :: .dedent :: rest) :=
    statements_cons ⟨first, _, by rw [starts]; rfl, noEnd⟩ (call_read stands .dedent (.dedent :: rest)) (by simp; omega)
    statements_end
  rw [starts] at call
  have subject := statements_cons ⟨_, _, by rw [subjectTokens]; rfl, by simp⟩
    (subject_read stands first _) (by simp; omega) call
  have body := block_read (g := grammar (depth + 2)) subject (by simp)
  rw [starts]
  exact Source.loop_read (nameOf?_eq stands.itemLocal.1)
    (bareTuple_one (by decide) (by decide) (source _ _)) body (by decide)

private theorem body_read (inside : Nat) : blockAt (grammar (depth + 2)) (inside + 2)
    (.newline :: .indent :: (m.itemTokens ++ .newline :: (m.loopTokens ++ .newline :: .indent ::
      (m.subjectTokens ++ .newline :: (m.callTokens ++ .newline :: .dedent :: .dedent :: rest))))) =
    some (m.body, rest) := by
  have loop : statements _ (blockAt (grammar (depth + 2)) (inside + 1)) _ = _ :=
    statements_cons ⟨_, _, by rw [loopTokens]; rfl, by decide⟩ (loop_read stands rest) (by simp; omega)
      statements_end
  have item := statements_cons ⟨_, _, by rw [itemTokens]; rfl, by simp⟩
    (item_read stands (.word "for") _)
    (by simp; omega) loop
  exact block_read item (by simp [body])

/-- An override is read back as its tree. -/
theorem tokens_read (inside : Nat) :
    statement (grammar (depth + 2)) (blockAt (grammar (depth + 2)) (inside + 2)) (m.tokens ++ rest) =
      some ([m.tree], rest) := by
  have body := body_read stands rest inside
  generalize blockAt (grammar (depth + 2)) (inside + 2) = block at body ⊢
  generalize shape : Token.newline :: Token.indent :: (m.itemTokens ++ .newline :: (m.loopTokens ++
    .newline :: .indent :: (m.subjectTokens ++ .newline :: (m.callTokens ++
      .newline :: .dedent :: .dedent :: rest)))) = lines at body
  have listed : ∀ next behind, Parser.parameters true (.op ")") (grammar (depth + 2)).expression
      (bareItem (grammar (depth + 2)))
      (commaSeparated ([.word "self"] :: declarationItems false m.parameters) ++ .op ")" :: next :: behind) =
        some (Source.Parameter.mk "self" .positional none none :: m.parameters.map Parameter.tree,
          .op ")" :: next :: behind) := fun next behind =>
    parameters_read self_read (declarations_read false stands.parameters stands.inOrder)
      (arrangeParameters_eq stands.inOrder) (.closed next behind)
  have returns : ∃ first more, (match m.returns with
      | some returns => Token.op "->" :: textTokens returns
      | none => []) ++ .op ":" :: lines = first :: more ∧
        ReadsReturns (grammar (depth + 2)) lines (m.returns.bind expressionOf) (first :: more) := by
    cases isReturned : m.returns with
    | none => exact ⟨_, _, rfl, .none⟩
    | some returns =>
      obtain ⟨e, same, standFor⟩ := stands.returns returns isReturned
      refine ⟨_, _, rfl, ?_⟩
      rw [Option.bind_some, same, ← shape]
      exact .some (standFor (Nat.le_refl _) (.op ":") (by decide) _ _)
  obtain ⟨first, more, same, returned⟩ := returns
  have decorator : nameOf? "override" = some "override" := by decide +kernel
  have whole : statement (grammar (depth + 2)) block
      (_ :: _ :: _ :: ((if m.isAsync then [.word "async"] else []) ++ _)) = _ :=
    decoratedFunction_read decorator (nameOf?_eq stands.name) (listed first more) returned body
  rw [tree, ← whole, ← same, ← shape]
  simp only [tokens, lineTokens, headerTokens, commaSeparated, List.append_assoc, List.cons_append,
    List.nil_append] <;> rfl

end Override

private theorem overrides_read {depth : Nat} (inside : Nat) (rest : List Token) : ∀ {overrides : List Override},
    (∀ m ∈ overrides, m.Stands (depth + 2)) →
      statements (grammar (depth + 2)) (blockAt (grammar (depth + 2)) (inside + 2))
        (overrides.flatMap Override.tokens ++ .dedent :: rest) =
          some (overrides.map Override.tree, .dedent :: rest)
  | [], _ => statements_end
  | m :: overrides, stands => by
    have behind := overrides_read inside rest fun other among => stands other (List.mem_cons_of_mem m among)
    have first := Override.tokens_read (stands m List.mem_cons_self)
      (overrides.flatMap Override.tokens ++ .dedent :: rest) inside
    rw [List.flatMap_cons, List.append_assoc]
    exact statements_cons ⟨_, _, rfl, by decide⟩ first (by simp [Override.tokens, Override.lineTokens]; omega)
      behind

/-! ## Modules -/

namespace Class

/-- The names of a class are names, and its texts stand for expressions; its target type also stands for
    one inside of brackets. -/
structure Stands (depth : Nat) (c : Class) : Prop where
  package : Text.isDottedPath c.package = true
  subjectName : Text.isName c.subjectName = true
  targetType : TextStands depth c.targetType
  overrides : ∀ m ∈ c.overrides, m.Stands (depth + 1)

section

variable {g : Grammar} {block : Parser (List Stmt)} {rest : List Token} {body : List Stmt}

private theorem import_more (pieces words : List String) (nonempty : pieces ≠ [] ∧ words ≠ [])
    (names : ∀ word ∈ pieces ++ words, Text.isName word = true ∧ Text.normalized word = word)
    (read : statements g block rest = some (body, [])) :
    statements g block (.word "from" :: (dottedTokens pieces ++ .word "import" ::
      (commaSeparated (words.map fun word => [.word word]) ++ .newline :: rest))) =
        some (.importNames 0 pieces (some (words.map fun word => (word, none))) :: body, []) := by
  have first : statement g block (_ :: (_ ++ _ :: (_ ++ .newline :: rest))) = _ := import_read nonempty.1
    (fun piece among => (names piece (List.mem_append_left _ among)).1) nonempty.2
    (fun word among => (names word (List.mem_append_right _ among)).1)
  have path : pieces.map Text.normalized = pieces := by
    rw [List.map_congr_left fun piece among => (names piece (List.mem_append_left _ among)).2, List.map_id']
  have given : (words.map fun word => (Text.normalized word, (none : Option String))) =
      words.map fun word => (word, none) :=
    List.map_congr_left fun word among => by rw [(names word (List.mem_append_right _ among)).2]
  rw [path, given] at first
  exact statements_cons ⟨_, _, rfl, by decide⟩ first (by simp; omega) read

private theorem imports_read (read : statements g block rest = some (body, [])) :
    statements g block (importTokens ++ rest) = some (importTrees ++ body, []) := by
  have subject := import_more ["iterwrap", "subject"] ["FailureStrategy", "SubjectFactory"] (by decide)
    (by decide +kernel) read
  have override := import_more ["typing_extensions"] ["override"] (by decide)
    (by decide +kernel) subject
  have annotated := import_more ["typing"] ["Annotated"] (by decide)
    (by decide +kernel) override
  have iterable := import_more ["collections", "abc"] ["Iterable"] (by decide)
    (by decide +kernel) annotated
  exact import_more ["__future__"] ["annotations"] (by decide) (by decide +kernel)
    iterable

end

variable {c : Class} {depth : Nat} (stands : c.Stands (depth + 2)) (rest : List Token)
include stands

omit stands in
private theorem typedItem_read (word name hint shown : String) (isName : nameOf? word = some name)
    (isHint : nameOf? hint = some shown) : ReadsItem (grammar (depth + 3)) [.word word, .op ":", .word hint]
      (.plain name (some (.name shown)) none) := by
  refine ⟨⟨_, _, rfl, by simp⟩, fun stop isStop next rest => ?_⟩
  obtain ⟨_, noEquals, ends⟩ := noColon_of_stop isStop
  have typed := StandFor.name isHint (Nat.le_add_left 1 (depth + 2)) stop ends next rest
  exact plainItem_read isName (hint_some typed) noEquals

private theorem dataItem_read : ReadsItem (grammar (depth + 3))
    (.word "data" :: .op ":" :: ([.word "Iterable"] ++ .op "[" :: (textTokens c.targetType ++ [.op "]"])))
    (.plain "data" (some (.subscript (.name "Iterable")
      (indexOf ((expressionOf c.targetType).getD (.literal .none))))) none) := by
  refine ⟨⟨_, _, rfl, by decide⟩, fun stop isStop next rest => ?_⟩
  obtain ⟨_, noEquals, ends⟩ := noColon_of_stop isStop
  obtain ⟨e, same, standFor⟩ := stands.targetType
  have iterable : Heads (grammar (depth + 2)) [.word "Iterable"] (.name "Iterable") :=
    Heads.name (by decide +kernel)
  have typed : expressionHere (grammar (depth + 2))
      (.word "Iterable" :: (.op "[" :: (textTokens c.targetType ++ [.op "]"]) ++ stop :: next :: rest)) =
        some (.subscript (.name "Iterable") (indexOf e), stop :: next :: rest) :=
    expressionHere_stops (by decide) (List.mem_cons_of_mem _ (List.mem_cons_of_mem _ ends))
      ((iterable.index standFor (Nat.le_refl _)).primary (quiet_ends stop
        (List.mem_cons_of_mem _ (List.mem_cons_of_mem _ ends))))
  rw [same]
  exact plainItem_read (by decide +kernel) (hint_some typed) noEquals

omit stands in
private theorem construction_read {block : Parser (List Stmt)} :
    statements (grammar (depth + 3)) block (constructionTokens ++ .dedent :: rest) =
      some ([.expression (.call (.attribute (.call (.name "super") []) "__init__")
          [.positional (.name "failure_strategy"), .positional (.literal .none)]),
        .assign [.attribute (.name "self") "_subject_factory"] (.name "subject_factory"),
        .assign [.attribute (.name "self") "_data"] (.name "data")], .dedent :: rest) := by
  have keepData : statements (grammar (depth + 3)) block
      ([.word "self", .op ".", .word "_data", .op "=", .word "data", .newline] ++ .dedent :: rest) =
        some ([.assign [.attribute (.name "self") "_data"] (.name "data")] ++ _, _) :=
    statements_cons ⟨_, _, rfl, by decide⟩ rfl (by simp) statements_end
  have keepFactory : statements (grammar (depth + 3)) block
      ([.word "self", .op ".", .word "_subject_factory", .op "=", .word "subject_factory", .newline] ++
        ([.word "self", .op ".", .word "_data", .op "=", .word "data", .newline] ++ .dedent :: rest)) =
        some ([.assign [.attribute (.name "self") "_subject_factory"] (.name "subject_factory")] ++ _, _) :=
    statements_cons ⟨_, _, rfl, by decide⟩ rfl (by simp) keepData
  have above : statement (grammar (depth + 3)) block (constructionTokens ++ .dedent :: rest) =
      some ([.expression (.call (.attribute (.call (.name "super") []) "__init__")
        [.positional (.name "failure_strategy"), .positional (.literal .none)])], _) := rfl
  exact statements_cons ⟨_, _, rfl, by decide⟩ above (by simp) keepFactory

private theorem constructor_read (inside : Nat) :
    statement (grammar (depth + 3)) (blockAt (grammar (depth + 3)) (inside + 1))
      (c.signatureTokens ++ .newline :: .indent :: (constructionTokens ++ .dedent :: rest)) =
        some ([c.constructorTree], rest) := by
  have body : blockAt (grammar (depth + 3)) (inside + 1) _ = _ := block_read (construction_read rest) (by simp)
  have reporter : ReadsItem (grammar (depth + 3)) _ _ := typedItem_read "failure_strategy" "failure_strategy"
    "FailureStrategy" "FailureStrategy" (by decide +kernel) (by decide +kernel)
  have factory : ReadsItem (grammar (depth + 3)) _ _ := typedItem_read "subject_factory" "subject_factory"
    "SubjectFactory" "SubjectFactory" (by decide +kernel) (by decide +kernel)
  have items := ReadsItems.cons reporter (.cons factory (.cons (dataItem_read stands) .nil))
  generalize shape : Token.newline :: Token.indent :: (constructionTokens ++ .dedent :: rest) = lines at body ⊢
  have returned : (grammar (depth + 3)).expression (.word "None" :: .op ":" :: lines) =
      some (.literal .none, .op ":" :: lines) := rfl
  have listed : Parser.parameters true _ _ _ _ = some (c.constructorParameters, _) :=
    parameters_read self_read items rfl (.comma (.op "->") (.word "None" :: .op ":" :: lines))
  have isName : nameOf? "__init__" = some "__init__" := by decide +kernel
  have whole : statement _ (blockAt (grammar (depth + 3)) (inside + 1)) _ = _ :=
    plainFunction_read isName listed (.some returned) body
  rw [constructorTree, ← whole]
  simp [signatureTokens, commaSeparated, behindCommas]

/-- The tokens of a module are read back as its tree. -/
theorem tokens_read (inside : Nat) :
    statements (grammar (depth + 3)) (blockAt (grammar (depth + 3)) (inside + 3)) c.tokens =
      some (c.module, []) := by
  have overrides := overrides_read inside [] stands.overrides
  have construction := constructor_read stands (c.overrides.flatMap Override.tokens ++ [.dedent]) (inside + 1)
  have members := statements_cons ⟨_, _, by rw [signatureTokens]; rfl, by decide⟩ construction
    (by simp; omega) overrides
  have body := block_read members (by simp)
  have declared : statement (grammar (depth + 3)) (blockAt (grammar (depth + 3)) (inside + 3)) _ = _ := class_read
    (nameOf?_eq (name_isName stands.subjectName)) (nameOf?_eq stands.subjectName) body
  have classes := statements_cons ⟨_, _, rfl, by decide⟩ declared (by simp) statements_nil
  have pieces : Text.pathPieces c.package ≠ [] := by
    rw [Text.pathPieces, Ne, List.map_eq_nil_iff]
    exact Text.splitPoints_ne_nil _
  have package (rest : List Token) : statement (grammar (depth + 3)) (blockAt (grammar (depth + 3)) (inside + 3))
      (_ :: (_ ++ _ :: (commaSeparated ([c.subjectName].map fun word => [.word word]) ++ .newline :: rest))) = _ :=
    import_read pieces (List.all_eq_true.1 stands.package) (by simp) (by simpa using stands.subjectName)
  have imported := statements_cons ⟨_, _, rfl, by decide⟩ (package _) (by simp; omega) classes
  have whole := imports_read imported
  simpa [tokens, module, packageTokens, classTokens, packageTree, tree, commaSeparated, behindCommas] using whole

end Class

end Wrapper

end EachSubject
