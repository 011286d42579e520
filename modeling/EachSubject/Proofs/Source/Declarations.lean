import EachSubject.Proofs.Source.Calls
import EachSubject.Proofs.Source.Pieces
import EachSubject.Source.Parser.Statement

/-!
# Statements, imports and declarations of functions

What the parser makes of single statements whose parts are expressions, and of the blocks that hold them. A parameter
list is read item by item, each in front of a comma or of the closing parenthesis; a lone star always has a comma behind
it. The decorators and the body of a function are read around it.
-/

namespace EachSubject.Source

open EachSubject.Source.Parser Grammar

section Statements

variable {g : Grammar} {block : Parser (List Stmt)} {first stop : Token} {tokens rest : List Token} {e : Expr}

/-! ## Simple statements -/

/-- The words with which a statement starts that is no expression. -/
def statementWords : List String :=
  ["if", "while", "for", "with", "try", "def", "class", "async", "match", "import", "from", "pass", "break",
   "continue", "return", "raise", "del", "assert", "global", "nonlocal", "yield"]

/-- The token starts no statement but those that start with an expression. -/
def startsExpression : Token → Bool
  | .word word => !statementWords.contains word
  | .op text => !(["@", "*"].contains text)
  | _ => true

theorem name_startsExpression {word name : String} (isName : nameOf? word = some name)
    (noMatch : word ≠ "match") : startsExpression (.word word) = true := by
  have reserved := (by decide : ∀ word ∈ statementWords, word ≠ "match" → Text.isReserved word = true) word
  have unreserved := not_reserved isName
  simp only [startsExpression, Bool.not_eq_true', List.contains_eq_mem, decide_eq_false_iff_not]
  intro inside
  rw [reserved inside noMatch] at unreserved
  cases unreserved

theorem simpleStatement_expression (plain : startsExpression first = true) :
    simpleStatement g (first :: tokens) = expressionStatement g (first :: tokens) := by
  rw [simpleStatement, bind_of_some (show next _ = some (some first, _) from rfl)]
  refine congrFun (g := expressionStatement g) ?_ _
  split <;> first | rfl | (rename_i same; cases same; cases plain)

theorem statement_simple (plain : startsExpression first = true) :
    statement g block (first :: tokens) = simpleStatements g (first :: tokens) := by
  rw [statement, bind_of_some (show nextTwo _ = some (first :: tokens.take 1, _) from rfl)]
  refine congrFun (g := simpleStatements g) ?_ _
  split <;> first | rfl | (rename_i same; obtain rfl := (List.cons.inj same).1; cases plain)

/-- No comma, no further item. -/
theorem moreItems_none {α : Type} {item : Parser α} (noComma : stop ≠ .op ",") :
    moreItems item (stop :: rest) = some (([], false), stop :: rest) := by
  have nothing : commaBefore startsItem (stop :: rest) = some (false, stop :: rest) := by
    cases stop with
    | op text =>
      have differs : text ≠ "," := fun same => noComma (by rw [same])
      cases rest with
      | nil => rfl
      | cons next rest => simp [commaBefore, differs]
    | _ => cases rest <;> rfl
  rw [moreItems, moreStarting, bind_of_some (repeated_nil (bind_of_some nothing)),
    bind_of_some (accepts_other noComma rest)]
  rfl

theorem bareTuple_one (unstarred : first ≠ .op "*") (noComma : stop ≠ .op ",")
    (read : g.expression (first :: tokens) = some (e, stop :: rest)) :
    bareTuple g (first :: tokens) = some (e, stop :: rest) := by
  have item : bareItem g (first :: tokens) = some (e, stop :: rest) := by
    rw [bareItem, bind_of_some (accepts_other unstarred tokens)]
    exact read
  rw [bareTuple, bind_of_some item, bind_of_some (moreItems_none noComma)]
  rfl

/-- An expression as what is assigned, or as a statement. -/
theorem assignedValue_one (plain : startsExpression first = true) (noComma : stop ≠ .op ",")
    (read : g.expression (first :: tokens) = some (e, stop :: rest)) :
    assignedValue g (first :: tokens) = some (e, stop :: rest) := by
  have noYield : first ≠ .word "yield" := by rintro rfl; cases plain
  have unstarred : first ≠ .op "*" := by rintro rfl; cases plain
  rw [assignedValue, bind_of_some (sees_other noYield tokens)]
  exact bareTuple_one unstarred noComma read

variable {target hint value : Expr} {middle behind : List Token}

theorem annotation_read (named : assignedValue g tokens = some (target, .op ":" :: middle))
    (single : isSingleTarget target = true) (read : g.expression middle = some (hint, stop :: rest))
    (noValue : stop ≠ .op "=") :
    expressionStatement g tokens = some (.annotate target hint none, stop :: rest) := by
  rw [expressionStatement, bind_of_some named, bind_of_some (accepts_same _ _), if_pos rfl, if_pos single,
    bind_of_some read]
  exact bind_of_some (accepts_other noValue rest)

theorem annotation_value_read (named : assignedValue g tokens = some (target, .op ":" :: middle))
    (single : isSingleTarget target = true) (read : g.expression middle = some (hint, .op "=" :: behind))
    (assigned : assignedValue g behind = some (value, rest)) :
    expressionStatement g tokens = some (.annotate target hint (some value), rest) := by
  rw [expressionStatement, bind_of_some named, bind_of_some (accepts_same _ _), if_pos rfl, if_pos single,
    bind_of_some read, bind_of_some (accepts_same _ _), if_pos rfl, bind_of_some assigned]
  rfl

theorem expression_read (read : assignedValue g tokens = some (e, .newline :: rest)) :
    expressionStatement g tokens = some (.expression e, .newline :: rest) := by
  rw [expressionStatement, bind_of_some read, bind_of_some (accepts_other (by decide) rest)]
  rfl

theorem simpleStatements_one {s : Stmt} (read : simpleStatement g tokens = some (s, .newline :: rest)) :
    simpleStatements g tokens = some ([s], rest) := by
  rw [simpleStatements, bind_of_some read,
    bind_of_some (repeated_nil (bind_of_some (accepts_other (by decide) rest))),
    bind_of_some (expect_same _ _)]
  rfl

/-- A line that holds one statement that starts with an expression. -/
theorem line_read {s : Stmt} (plain : startsExpression first = true)
    (read : expressionStatement g (first :: tokens) = some (s, .newline :: rest)) :
    statement g block (first :: tokens) = some ([s], rest) :=
  (statement_simple plain).trans (simpleStatements_one ((simpleStatement_expression plain).trans read))

/-! ## Blocks -/

variable {body group : List Stmt}

theorem statements_nil : statements g block [] = some ([], []) := by
  rw [statements, bind_of_some (repeated_nil rfl)]
  rfl

theorem statements_end : statements g block (.dedent :: rest) = some ([], .dedent :: rest) := by
  rw [statements, bind_of_some (repeated_nil rfl)]
  rfl

theorem statements_cons (starts : ∃ first more, tokens = first :: more ∧ first ≠ .dedent)
    (read : statement g block tokens = some (group, middle)) (shorter : middle.length < tokens.length)
    (more : statements g block middle = some (body, rest)) :
    statements g block tokens = some (group ++ body, rest) := by
  obtain ⟨first, left, rfl, noEnd⟩ := starts
  obtain ⟨groups, _, others, same⟩ := bind_eq_some_iff.1 more
  cases same
  refine bind_eq_some_iff.2 ⟨group :: groups, rest, repeated_cons ?_ shorter others, rfl⟩
  rw [bind_of_some (show next _ = some (some first, _) from rfl)]
  cases first with
  | dedent => exact absurd rfl noEnd
  | _ => exact bind_of_some read

/-- A block of indented lines. -/
theorem block_read (read : statements g block tokens = some (body, .dedent :: rest)) (nonempty : body ≠ []) :
    blockHere g block (.newline :: .indent :: tokens) = some (body, rest) := by
  have filled : ¬body.isEmpty = true := by simpa using nonempty
  rw [blockHere, bind_of_some (accepts_same _ _), if_pos rfl, bind_of_some (expect_same _ _),
    bind_of_some read, bind_of_some (expect_same _ _), if_neg filled]
  rfl

theorem blockAfterColon_read (read : block behind = some (body, rest)) :
    blockAfterColon block (.op ":" :: behind) = some (body, rest) := by
  rw [blockAfterColon, bind_of_some (expect_same _ _)]
  exact read

/-- A loop over the values of an expression. -/
theorem loop_read {depth : Nat} {word name : String} {source : Expr} (isName : nameOf? word = some name)
    (iterable : bareTuple (grammar (depth + 1)) middle = some (source, .op ":" :: behind))
    (read : block behind = some (body, stop :: rest)) (noElse : stop ≠ .word "else") :
    statement (grammar (depth + 1)) block (.word "for" :: .word word :: .word "in" :: middle) =
      some ([.for false (.name name) source body []], stop :: rest) := by
  have target : loopTargets (grammar (depth + 1)) (.word word :: .word "in" :: middle) =
      some (.name name, .word "in" :: middle) := by
    have element : (grammar (depth + 1)).primary (.word word :: .word "in" :: middle) =
        some (.name name, .word "in" :: middle) := primaryHere_name isName rfl
    rw [loopTargets]
    dsimp only
    rw [bind_of_some (bind_of_some (accepts_other (by simp) _) |>.trans element),
      bind_of_some (moreItems_none (by decide))]
    rfl
  have whole : forStatement (grammar (depth + 1)) block false
      (.word "for" :: .word word :: .word "in" :: middle) =
        some (.for false (.name name) source body [], stop :: rest) := by
    rw [forStatement, bind_of_some (expect_same _ _), bind_of_some target, bind_of_some (expect_same _ _),
      bind_of_some iterable, bind_of_some (blockAfterColon_read read), elseBlock,
      bind_of_some (bind_of_some (accepts_other noElse rest))]
    rfl
  rw [statement, bind_of_some (show nextTwo _ = some ([.word "for", .word word], _) from rfl)]
  exact bind_of_some whole

end Statements

section Declarations

variable {g : Grammar} {tokens middle rest : List Token} {word name : String} {stop : Token}

theorem nameOf?_eq (isName : Text.isName word = true) : nameOf? word = some (Text.normalized word) := by
  rw [Text.isName, Bool.and_eq_true, Bool.not_eq_true'] at isName
  simp [nameOf?, isName.2]

private theorem identifier_read (isName : Text.isName word = true) (rest : List Token) :
    identifier (.word word :: rest) = some (Text.normalized word, rest) := by
  simp [identifier, nameOf?_eq isName]

/-! ## Imports -/

private theorem morePieces_read (noPoint : stop ≠ .op ".") : ∀ {pieces : List String},
    (∀ piece ∈ pieces, Text.isName piece = true) →
      repeated (do if ← accepts (.op ".") then return some (← identifier) else return none)
        (pieces.flatMap (fun piece => [.op ".", .word piece]) ++ stop :: rest) =
          some (pieces.map Text.normalized, stop :: rest)
  | [], _ => repeated_nil (bind_of_some (accepts_other noPoint rest))
  | piece :: pieces, names => by
    have behind := morePieces_read noPoint fun other inside => names other (List.mem_cons_of_mem piece inside)
    have shorter : (pieces.flatMap (fun piece => [Token.op ".", .word piece]) ++ stop :: rest).length <
        ((piece :: pieces).flatMap (fun piece => [Token.op ".", .word piece]) ++ stop :: rest).length := by
      simp only [List.flatMap_cons, List.length_append, List.length_cons]
      omega
    refine repeated_cons ?_ shorter behind
    rw [List.flatMap_cons, List.cons_append, List.cons_append, bind_of_some (accepts_same _ _), if_pos rfl]
    exact bind_of_some (identifier_read (names piece List.mem_cons_self) _)

private theorem dottedTokens_cons : ∀ (piece : String) (pieces : List String),
    dottedTokens (piece :: pieces) = .word piece :: pieces.flatMap fun piece => [.op ".", .word piece]
  | _, [] => rfl
  | piece, next :: pieces => by
    rw [dottedTokens, dottedTokens_cons next pieces, List.flatMap_cons]
    · rfl
    · simp

private theorem dottedName_read (noPoint : stop ≠ .op ".") {pieces : List String} (nonempty : pieces ≠ [])
    (names : ∀ piece ∈ pieces, Text.isName piece = true) :
    dottedName (dottedTokens pieces ++ stop :: rest) = some (pieces.map Text.normalized, stop :: rest) := by
  obtain ⟨piece, pieces, rfl⟩ := List.exists_cons_of_ne_nil nonempty
  rw [dottedTokens_cons, List.cons_append, dottedName,
    bind_of_some (identifier_read (names piece List.mem_cons_self) _),
    bind_of_some (morePieces_read noPoint fun other inside => names other (List.mem_cons_of_mem piece inside))]
  rfl

private theorem importedName_read (isName : Text.isName word = true) (noAlias : stop ≠ .word "as") :
    importedName (.word word :: stop :: rest) = some ((Text.normalized word, none), stop :: rest) := by
  rw [importedName, bind_of_some (identifier_read isName _), alias?]
  exact bind_of_some (bind_of_some (accepts_other noAlias rest))

/-- What stands behind an imported name. -/
private theorem behind_name (words : List String) (rest : List Token) : ∃ stop tail,
    behindCommas (words.map fun word => [.word word]) ++ .newline :: rest = stop :: tail ∧
      stop ≠ .word "as" := by
  cases words with
  | nil => exact ⟨.newline, rest, rfl, by decide⟩
  | cons word words => exact ⟨.op ",", _, rfl, by decide⟩

private theorem moreNames_read : ∀ {words : List String}, (∀ word ∈ words, Text.isName word = true) →
    repeated (do if ← accepts (.op ",") then return some (← importedName) else return none)
      (behindCommas (words.map fun word => [.word word]) ++ .newline :: rest) =
        some (words.map fun word => (Text.normalized word, none), .newline :: rest)
  | [], _ => repeated_nil (bind_of_some (accepts_other (by decide) rest))
  | word :: words, names => by
    have behind := moreNames_read fun other inside => names other (List.mem_cons_of_mem word inside)
    obtain ⟨stop, tail, same, noAlias⟩ := behind_name words rest
    have split : behindCommas ((word :: words).map fun word => [.word word]) ++ .newline :: rest =
        .op "," :: .word word :: stop :: tail := by
      rw [← same]
      simp [behindCommas]
    rw [same] at behind
    rw [split]
    refine repeated_cons ?_ (by simp) behind
    rw [bind_of_some (accepts_same _ _), if_pos rfl]
    exact bind_of_some (importedName_read (names word List.mem_cons_self) noAlias)

private theorem names_read {words : List String} (nonempty : words ≠ [])
    (names : ∀ word ∈ words, Text.isName word = true) :
    separated importedName (commaSeparated (words.map fun word => [.word word]) ++ .newline :: rest) =
      some (words.map fun word => (Text.normalized word, none), .newline :: rest) := by
  obtain ⟨word, words, rfl⟩ := List.exists_cons_of_ne_nil nonempty
  have more : repeated _ (behindCommas (words.map fun word => [.word word]) ++ .newline :: rest) = _ :=
    moreNames_read fun other inside => names other (List.mem_cons_of_mem word inside)
  obtain ⟨stop, tail, same, noAlias⟩ := behind_name words rest
  rw [same] at more
  rw [List.map_cons, commaSeparated, List.append_assoc, same, List.cons_append, List.nil_append, separated,
    bind_of_some (importedName_read (names word List.mem_cons_self) noAlias), bind_of_some more]
  rfl

/-- An import of names of a module. -/
theorem import_read {block : Parser (List Stmt)} {pieces words : List String} (path : pieces ≠ [])
    (pieceNames : ∀ piece ∈ pieces, Text.isName piece = true) (nonempty : words ≠ [])
    (names : ∀ word ∈ words, Text.isName word = true) :
    statement g block (.word "from" :: (dottedTokens pieces ++ .word "import" ::
      (commaSeparated (words.map fun word => [.word word]) ++ .newline :: rest))) =
      some ([.importNames 0 (pieces.map Text.normalized)
        (some (words.map fun word => (Text.normalized word, none)))], rest) := by
  have given : separated importedName (_ ++ Token.newline :: rest) = _ := names_read nonempty names
  obtain ⟨word, tail, same⟩ : ∃ word tail, commaSeparated (words.map fun word => [.word word]) ++
      .newline :: rest = .word word :: tail := by
    obtain ⟨word, words, rfl⟩ := List.exists_cons_of_ne_nil nonempty
    exact ⟨word, _, rfl⟩
  rw [same] at given ⊢
  have module : dottedName (_ ++ Token.word "import" :: .word word :: tail) = _ :=
    dottedName_read (by decide) path pieceNames
  obtain ⟨first, more, starts⟩ : ∃ first more, dottedTokens pieces ++ .word "import" :: .word word :: tail =
      .word first :: more := by
    obtain ⟨piece, pieces, rfl⟩ := List.exists_cons_of_ne_nil path
    rw [dottedTokens_cons]
    exact ⟨piece, _, rfl⟩
  rw [starts] at module ⊢
  have level : importLevel (.word first :: more) = some (0, .word first :: more) := by
    rw [importLevel, bind_of_some (repeated_nil (anyOf_other (by simp) more))]
    rfl
  have single : importStatement (.word "from" :: .word first :: more) =
      some (.importNames 0 (pieces.map Text.normalized)
        (some (words.map fun word => (Text.normalized word, none))), .newline :: rest) := by
    rw [importStatement, bind_of_some (accepts_other (by decide) _), if_neg (by decide),
      bind_of_some (expect_same _ _), bind_of_some level, if_neg (by decide), bind_of_some module]
    dsimp only
    rw [bind_of_some (expect_same _ _), bind_of_some (accepts_other (by simp) _), if_neg (by decide),
      bind_of_some (accepts_other (by simp) _), if_neg (by decide), bind_of_some given]
    rfl
  have line : simpleStatement g (.word "from" :: .word first :: more) = _ := single
  rw [statement, bind_of_some (show nextTwo _ = some ([.word "from", .word first], _) from rfl)]
  exact simpleStatements_one line

/-! ## Items of a parameter list -/

theorem hint_none {p : Parser Expr} (noColon : stop ≠ .op ":") :
    hint? true p (stop :: rest) = some (none, stop :: rest) := by
  rw [hint?, if_pos rfl, bind_of_some (accepts_other noColon rest)]
  rfl

theorem hint_some {p : Parser Expr} {e : Expr} (read : p tokens = some (e, rest)) :
    hint? true p (.op ":" :: tokens) = some (some e, rest) := by
  rw [hint?, if_pos rfl, bind_of_some (accepts_same _ _), if_pos rfl, bind_of_some read]
  rfl

section

variable {hint : Option Expr}

theorem plainItem_read (isName : nameOf? word = some name)
    (typed : hint? true g.expression tokens = some (hint, stop :: rest)) (noValue : stop ≠ .op "=") :
    parameterItem true g.expression (bareItem g) (.word word :: tokens) =
      some (.plain name hint none, stop :: rest) := by
  have named : identifier (.word word :: tokens) = some (name, tokens) := by simp [identifier, isName]
  rw [parameterItem, bind_of_some (accepts_other (by simp) _), if_neg (by decide),
    bind_of_some (accepts_other (by simp) _), if_neg (by decide),
    bind_of_some (accepts_other (by simp) _), if_neg (by decide), bind_of_some named, bind_of_some typed]
  exact bind_of_some (accepts_other noValue rest)

theorem defaultedItem_read {value : Expr} (isName : nameOf? word = some name)
    (typed : hint? true g.expression tokens = some (hint, .op "=" :: middle))
    (read : g.expression middle = some (value, rest)) :
    parameterItem true g.expression (bareItem g) (.word word :: tokens) =
      some (.plain name hint (some value), rest) := by
  have named : identifier (.word word :: tokens) = some (name, tokens) := by simp [identifier, isName]
  rw [parameterItem, bind_of_some (accepts_other (by simp) _), if_neg (by decide),
    bind_of_some (accepts_other (by simp) _), if_neg (by decide),
    bind_of_some (accepts_other (by simp) _), if_neg (by decide), bind_of_some named, bind_of_some typed,
    bind_of_some (accepts_same _ _), if_pos rfl, bind_of_some read]
  rfl

theorem extraPositionalItem_read (isName : nameOf? word = some name)
    (typed : hint? true (bareItem g) tokens = some (hint, rest)) :
    parameterItem true g.expression (bareItem g) (.op "*" :: .word word :: tokens) =
      some (.extraPositional name hint, rest) := by
  have named : identifier (.word word :: tokens) = some (name, tokens) := by simp [identifier, isName]
  rw [parameterItem, bind_of_some (accepts_other (by decide) _), if_neg (by decide),
    bind_of_some (accepts_other (by decide) _), if_neg (by decide), bind_of_some (accepts_same _ _),
    if_pos rfl, bind_of_some (sees_other (by simp) _), if_neg (by decide), bind_of_some named,
    bind_of_some typed]
  rfl

theorem extraKeywordItem_read (isName : nameOf? word = some name)
    (typed : hint? true g.expression tokens = some (hint, rest)) :
    parameterItem true g.expression (bareItem g) (.op "**" :: .word word :: tokens) =
      some (.extraKeyword name hint, rest) := by
  have named : identifier (.word word :: tokens) = some (name, tokens) := by simp [identifier, isName]
  rw [parameterItem, bind_of_some (accepts_other (by decide) _), if_neg (by decide),
    bind_of_some (accepts_same _ _), if_pos rfl, bind_of_some named, bind_of_some typed]
  rfl

end

/-- The tokens are one item, in front of a comma or of the closing parenthesis. -/
structure ReadsItem (g : Grammar) (item : List Token) (what : ParameterItem) : Prop where
  starts : ∃ first more, item = first :: more ∧ first ≠ .op ")"
  reads : ∀ stop ∈ [Token.op ",", .op ")"], ∀ next rest,
    parameterItem true g.expression (bareItem g) (item ++ stop :: next :: rest) =
      some (what, stop :: next :: rest)

/-- The tokens are the items of a list; a lone star has one behind it. -/
inductive ReadsItems (g : Grammar) : List (List Token) → List ParameterItem → Prop where
  | nil : ReadsItems g [] []
  | cons {item : List Token} {items : List (List Token)} {what : ParameterItem}
      {others : List ParameterItem} (first : ReadsItem g item what) (behind : ReadsItems g items others) :
      ReadsItems g (item :: items) (what :: others)
  | star {item : List Token} {items : List (List Token)} {others : List ParameterItem}
      (behind : ReadsItems g (item :: items) others) :
      ReadsItems g ([.op "*"] :: item :: items) (.star :: others)

/-- What the parser of a list does at each comma. -/
private abbrev nextItem (g : Grammar) : Parser (Option ParameterItem) := do
  if ← sees (.op ")") then return none
  else
    expect (.op ",")
    if ← sees (.op ")") then return none
    else return some (← parameterItem true g.expression (bareItem g))

private theorem nextItem_read {item : List Token} {first : Token} {more : List Token} {what : ParameterItem}
    (same : item = first :: more) (noClose : first ≠ .op ")")
    (read : parameterItem true g.expression (bareItem g) item = some (what, rest)) :
    nextItem g (.op "," :: item) = some (some what, rest) := by
  subst same
  rw [nextItem, bind_of_some (sees_other (by decide) _), if_neg (by decide), bind_of_some (expect_same _ _),
    bind_of_some (sees_other noClose _), if_neg (by decide), bind_of_some read]
  rfl

/-- What ends a list: the closing parenthesis, which a comma may stand before. -/
inductive EndsList : List Token → List Token → Prop where
  | closed (next : Token) (rest : List Token) : EndsList (.op ")" :: next :: rest) (.op ")" :: next :: rest)
  | comma (next : Token) (rest : List Token) :
      EndsList (.op "," :: .op ")" :: next :: rest) (.op ")" :: next :: rest)

private theorem EndsList.shape {ending closing : List Token} (ends : EndsList ending closing) :
    nextItem g ending = some (none, closing) ∧
      ∃ last next rest, ending = last :: next :: rest ∧ last ∈ [Token.op ",", .op ")"] := by
  cases ends with
  | closed next rest => exact ⟨rfl, .op ")", next, rest, rfl, by decide⟩
  | comma next rest => exact ⟨rfl, .op ",", .op ")", next :: rest, rfl, by decide⟩

private theorem items_read {items : List (List Token)} {what : List ParameterItem}
    (read : ReadsItems g items what) {ending closing : List Token} (ends : EndsList ending closing) :
    repeated (nextItem g) (behindCommas items ++ ending) = some (what, closing) := by
  obtain ⟨nothing, last, next, rest, rfl, isLast⟩ := ends.shape (g := g)
  induction read with
  | nil => exact repeated_nil nothing
  | @cons item items what others first behind further =>
    obtain ⟨stop, second, tail, same, isStop⟩ := behind_item _ items isLast next rest
    obtain ⟨⟨head, more, shape, noClose⟩, reads⟩ := first
    have split : behindCommas (item :: items) ++ last :: next :: rest =
        .op "," :: (item ++ stop :: second :: tail) := by
      rw [← same]
      simp [behindCommas]
    rw [same] at further
    rw [split]
    have whole : item ++ stop :: second :: tail = head :: (more ++ stop :: second :: tail) := by
      rw [shape, List.cons_append]
    exact repeated_cons (nextItem_read whole noClose (reads stop isStop second tail)) (by simp only [List.length_append, List.length_cons]; omega) further
  | @star item items others behind further =>
    have split : behindCommas ([.op "*"] :: item :: items) ++ last :: next :: rest =
        .op "," :: .op "*" :: (behindCommas (item :: items) ++ last :: next :: rest) := by
      simp [behindCommas]
    have comma : ∃ tail, behindCommas (item :: items) ++ last :: next :: rest = .op "," :: tail :=
      ⟨_, by simp [behindCommas]; rfl⟩
    obtain ⟨tail, same⟩ := comma
    rw [same] at further split
    rw [split]
    exact repeated_cons (nextItem_read rfl (by decide) rfl) (by simp) further

/-- The parameter list of a function, up to its closing parenthesis. -/
theorem parameters_read {item : List Token} {items : List (List Token)} {what : ParameterItem}
    {others : List ParameterItem} {found : List Parameter} (first : ReadsItem g item what)
    (behind : ReadsItems g items others) (arranged : arrangeParameters? (what :: others) = some found)
    {ending closing : List Token} (ends : EndsList ending closing) :
    parameters true (.op ")") g.expression (bareItem g) (commaSeparated (item :: items) ++ ending) =
      some (found, closing) := by
  have later := items_read behind ends
  obtain ⟨_, last, next, rest, rfl, isLast⟩ := ends.shape (g := g)
  obtain ⟨stop, second, tail, same, isStop⟩ := behind_item _ items isLast next rest
  obtain ⟨⟨head, more, rfl, noClose⟩, reads⟩ := first
  rw [same] at later
  rw [commaSeparated, List.append_assoc, same, parameters, List.cons_append,
    bind_of_some (sees_other noClose _), if_neg (by decide), ← List.cons_append,
    bind_of_some (reads stop isStop second tail), bind_of_some later, arranged]
  rfl

/-! ## Functions -/

variable {block : Parser (List Stmt)} {body : List Stmt} {decorators : List Expr} {isAsync : Bool}
  {list : List Parameter} {behind : List Token}

/-- What stands between the parameters and the body. -/
inductive ReadsReturns (g : Grammar) (behind : List Token) : Option Expr → List Token → Prop where
  | none : ReadsReturns g behind none (.op ":" :: behind)
  | some {e : Expr} {tokens : List Token} (read : g.expression tokens = some (e, .op ":" :: behind)) :
      ReadsReturns g behind (some e) (.op "->" :: tokens)

theorem functionStatement_read {returned : Option Expr} (isName : nameOf? word = some name)
    (listed : parameters true (.op ")") g.expression (bareItem g) tokens = some (list, .op ")" :: middle))
    (returns : ReadsReturns g behind returned middle) (read : block behind = some (body, rest)) :
    functionStatement g block decorators isAsync (.word "def" :: .word word :: .op "(" :: tokens) =
      some (.function decorators isAsync name list returned body, rest) := by
  have named : identifier (.word word :: .op "(" :: tokens) = some (name, .op "(" :: tokens) := by
    simp [identifier, isName]
  rw [functionStatement, bind_of_some (expect_same _ _), bind_of_some named, bind_of_some (expect_same _ _),
    bind_of_some listed, bind_of_some (expect_same _ _)]
  cases returns with
  | none =>
    rw [bind_of_some (accepts_other (by decide) _), if_neg (by decide), pure_bind]
    exact bind_of_some (blockAfterColon_read read)
  | some typed =>
    rw [bind_of_some (accepts_same _ _), if_pos rfl, bind_of_some typed, pure_bind]
    exact bind_of_some (blockAfterColon_read read)

/-- A function under a decorator that is a name. -/
theorem decoratedFunction_read {depth : Nat} {decorator shown : String} {returned : Option Expr}
    (isDecorator : nameOf? decorator = some shown) (isName : nameOf? word = some name)
    (listed : parameters true (.op ")") (grammar (depth + 1)).expression (bareItem (grammar (depth + 1)))
      tokens = some (list, .op ")" :: middle))
    (returns : ReadsReturns (grammar (depth + 1)) behind returned middle)
    (read : block behind = some (body, rest)) :
    statement (grammar (depth + 1)) block (.op "@" :: .word decorator :: .newline ::
      ((if isAsync then [.word "async"] else []) ++ .word "def" :: .word word :: .op "(" :: tokens)) =
        some ([.function [.name shown] isAsync name list returned body], rest) := by
  have whole : functionStatement (grammar (depth + 1)) block [.name shown] isAsync _ = _ :=
    functionStatement_read isName listed returns read
  have declared : decorated (grammar (depth + 1)) block [.name shown]
      ((if isAsync then [.word "async"] else []) ++ .word "def" :: .word word :: .op "(" :: tokens) =
        some (.function [.name shown] isAsync name list returned body, rest) := by
    cases isAsync with
    | false => exact whole
    | true => exact whole
  have noSign : ∃ first more, (if isAsync then [Token.word "async"] else []) ++
      .word "def" :: .word word :: .op "(" :: tokens = first :: more ∧ first ≠ .op "@" := by
    cases isAsync <;> exact ⟨_, _, rfl, by decide⟩
  obtain ⟨first, more, same, differs⟩ := noSign
  rw [same] at declared ⊢
  have decoration : (grammar (depth + 1)).expression (.word decorator :: .newline :: first :: more) =
      some (.name shown, .newline :: first :: more) :=
    StandFor.name isDecorator (Nat.le_add_left 1 depth) .newline (by decide) first more
  have named : named (grammar (depth + 1)) (.word decorator :: .newline :: first :: more) =
      some (.name shown, .newline :: first :: more) := by
    rw [named_plain (by simp), decoration]
  have decorations : repeated (do
      if ← accepts (.op "@") then
        let e ← Grammar.named (grammar (depth + 1))
        expect .newline
        return some e
      else return none) (.op "@" :: .word decorator :: .newline :: first :: more) =
        some ([.name shown], first :: more) := by
    refine repeated_cons ?_ (by simp) (repeated_nil (bind_of_some (accepts_other differs more)))
    rw [bind_of_some (accepts_same _ _), if_pos rfl, bind_of_some named, bind_of_some (expect_same _ _)]
    rfl
  rw [statement, bind_of_some (show nextTwo _ = some ([.op "@", .word decorator], _) from rfl)]
  exact (bind_of_some decorations).trans (bind_of_some declared)

/-- A function without decorators. -/
theorem plainFunction_read {returned : Option Expr} (isName : nameOf? word = some name)
    (listed : parameters true (.op ")") g.expression (bareItem g) tokens = some (list, .op ")" :: middle))
    (returns : ReadsReturns g behind returned middle) (read : block behind = some (body, rest)) :
    statement g block (.word "def" :: .word word :: .op "(" :: tokens) =
      some ([.function [] false name list returned body], rest) := by
  have whole : functionStatement g block [] false _ = _ := functionStatement_read isName listed returns read
  rw [statement, bind_of_some (show nextTwo _ = some ([.word "def", .word word], _) from rfl)]
  exact bind_of_some whole

/-- A class with one base that is a name. -/
theorem class_read {depth : Nat} {base shown : String} (isName : nameOf? word = some name)
    (isBase : nameOf? base = some shown) (read : block behind = some (body, rest)) :
    statement (grammar (depth + 1)) block (.word "class" :: .word word :: .op "(" :: .word base :: .op ")" ::
      .op ":" :: behind) = some ([.class [] name [.positional (.name shown)] body], rest) := by
  have named : identifier (.word word :: .op "(" :: .word base :: .op ")" :: .op ":" :: behind) =
      some (name, .op "(" :: .word base :: .op ")" :: .op ":" :: behind) := by simp [identifier, isName]
  have passed : argument (grammar (depth + 1)) (.word base :: .op ")" :: .op ":" :: behind) =
      some (.positional (.name shown), .op ")" :: .op ":" :: behind) :=
    (Passes.name isBase (Nat.succ_pos depth)).reads (.op ")") (by decide) (.op ":") behind
  have bases : classStatement.classArguments (grammar (depth + 1))
      (.word base :: .op ")" :: .op ":" :: behind) = some ([.positional (.name shown)], .op ":" :: behind) := by
    rw [classStatement.classArguments, bind_of_some (accepts_other (by simp) _), if_neg (by decide),
      bind_of_some passed, bind_of_some (moreItems_none (by decide))]
    rfl
  have whole : classStatement (grammar (depth + 1)) block [] (.word "class" :: .word word :: .op "(" ::
      .word base :: .op ")" :: .op ":" :: behind) =
        some (.class [] name [.positional (.name shown)] body, rest) := by
    rw [classStatement, bind_of_some (expect_same _ _), bind_of_some named, bind_of_some (accepts_same _ _),
      if_pos rfl, bind_of_some bases]
    exact bind_of_some (blockAfterColon_read read)
  rw [statement, bind_of_some (show nextTwo _ = some ([.word "class", .word word], _) from rfl)]
  exact bind_of_some whole

end Declarations

end EachSubject.Source
