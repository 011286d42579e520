import EachSubject.Proofs.Source.Agreement
import EachSubject.Source.Parser.Expression

/-!
# Readers of expressions agree

Two grammars agree if the reader of each kind of expression does. Going one level out keeps this, so a
grammar agrees with every one that goes at least as deep: what is read as an expression before the end
of a statement is read as the same expression before any other end, at any greater depth.
-/

namespace EachSubject.Source

open EachSubject.Source.Parser Grammar

namespace Grammar

/-- The readers of the first grammar agree with those of the second, and its reader of expressions
    takes at least one token. -/
structure Agrees (inner inner' : Grammar) : Prop where
  expression : Parser.Agrees true inner.expression inner'.expression
  disjunction : Parser.Agrees true inner.disjunction inner'.disjunction
  bitOr : Parser.Agrees true inner.bitOr inner'.bitOr
  factor : Parser.Agrees true inner.factor inner'.factor
  primary : Parser.Agrees true inner.primary inner'.primary
  takesToken : Takes 1 inner.expression

section

variable {inner inner' : Grammar}

theorem Agrees.refuses (agree : Agrees inner inner') :
    inner.expression statementEnd = none := by
  cases read : inner.expression statementEnd with
  | none => rfl
  | some found =>
    obtain ⟨e, rest⟩ := found
    have alike : EndsAlike statementEnd [.op ",", .newline] := .elsewhere (by decide) .newline []
    obtain ⟨left, rfl, shorter, _⟩ := agree.expression [] alike read
    have taken := agree.takesToken read
    rw [List.length_append] at taken
    omega

/-! ## Looking ahead -/

/-- A reader that looks at two tokens only, which tell what it gives and how many of them it takes. -/
private theorem agrees_of_glance {α : Type} {edge : Bool} {p : Parser α}
    (look : Token → Token → α × Nat)
    (glances : ∀ first second more, p (first :: second :: more) =
      some ((look first second).1, (first :: second :: more).drop (look first second).2))
    (few : ∀ first second, (look first second).2 ≤ 2)
    (behind : ∀ first, ∀ token ∈ expressionEnds,
      look first token = look first (.op ";") ∧ (look first token).2 ≤ 1)
    (atEnd : ∀ token ∈ expressionEnds, ∀ next,
      look token next = look (.op ";") .newline ∧ (look token next).2 = 0)
    (shorter : ∀ tokens a rest, p tokens = some (a, rest) → rest.length ≤ tokens.length) :
    Parser.Agrees edge p p := by
  refine agrees_of_two ?_ ?_ ?_ shorter
  · intro first second tail w a rest read
    rw [glances] at read
    cases read
    have room : (look first second).2 ≤ (first :: second :: tail).length := by
      have := few first second
      simp only [List.length_cons]
      omega
    refine ⟨(first :: second :: tail).drop (look first second).2, ?_, ?_, fun w' => ?_⟩
    · rw [← List.drop_append_of_le_length room]
      rfl
    · simp only [List.length_drop, List.length_cons]
      omega
    · rw [glances, ← List.drop_append_of_le_length room]
      rfl
  · intro first a rest read
    rw [statementEnd, glances] at read
    cases read
    have room : (look first (.op ";")).2 ≤ [first].length := by
      obtain ⟨same, few⟩ := behind first (.op ",") (by decide)
      rw [← same]
      exact few
    refine ⟨[first].drop (look first (.op ";")).2, ?_, ?_, fun token ends next more => ?_⟩
    · rw [← List.drop_append_of_le_length room]
      rfl
    · simp only [List.length_drop, List.length_singleton]
      omega
    · rw [glances, (behind first token ends).1, ← List.drop_append_of_le_length room]
      rfl
  · intro a rest read
    rw [statementEnd, glances] at read
    cases read
    have none : (look (.op ";") .newline).2 = 0 := by
      obtain ⟨same, none⟩ := atEnd (.op ",") (by decide) .newline
      rw [← same]
      exact none
    refine ⟨by rw [none]; rfl, fun token ends next more => ?_⟩
    rw [glances, (atEnd token ends next).1, none]
    rfl

private theorem forall_ends {P : Token → Prop} (comma : P (.op ",")) (closing : P (.op ")"))
    (bracket : P (.op "]")) (brace : P (.op "\x7d")) (colon : P (.op ":")) (equals : P (.op "="))
    (line : P .newline) : ∀ token ∈ expressionEnds, P token := by
  simp only [expressionEnds, List.forall_mem_cons]
  exact ⟨comma, closing, bracket, brace, colon, equals, line, by simp⟩

/-- The two tokens give a name a value. -/
private def namingAhead : Token → Token → Bool × Nat
  | .word _, .op ":=" => (true, 0)
  | _, _ => (false, 0)

private theorem startsNaming_agrees {edge : Bool} :
    Parser.Agrees edge startsNaming startsNaming := by
  refine agrees_of_glance namingAhead ?_ ?_ ?_ ?_ ?_
  · intro first second more
    unfold startsNaming namingAhead
    split
    · rename_i same
      cases same
      rfl
    · rename_i other
      split
      · exact absurd rfl (other _ more)
      · rfl
  · intro first second
    unfold namingAhead
    split <;> simp
  · intro first
    apply forall_ends <;> cases first <;> exact ⟨rfl, Nat.zero_le _⟩
  · apply forall_ends <;> intro next <;> exact ⟨rfl, rfl⟩
  · intro tokens a rest read
    unfold startsNaming at read
    split at read <;> cases read <;> exact Nat.le_refl _

/-- The two tokens start a `for`. -/
private def clauseAhead : Token → Token → Bool × Nat
  | .word "for", _ => (true, 0)
  | .word "async", .word "for" => (true, 0)
  | _, _ => (false, 0)

private theorem startsClause_agrees {edge : Bool} :
    Parser.Agrees edge startsClause startsClause := by
  refine agrees_of_glance clauseAhead ?_ ?_ ?_ ?_ ?_
  · intro first second more
    unfold startsClause clauseAhead
    split
    · rename_i same
      cases same
      rfl
    · rename_i same
      cases same
      rfl
    · rename_i notFor notAsync
      split
      · exact absurd rfl (notFor _)
      · exact absurd rfl (notAsync more)
      · rfl
  · intro first second
    unfold clauseAhead
    split <;> simp
  · intro first
    apply forall_ends <;> unfold clauseAhead <;> split <;> simp_all
  · apply forall_ends <;> intro next <;> exact ⟨rfl, rfl⟩
  · intro tokens a rest read
    unfold startsClause at read
    split at read <;> cases read <;> exact Nat.le_refl _

/-- The comparison that the two tokens start with. -/
private def comparisonAhead : Token → Token → Option String × Nat
  | .word "not", .word "in" => (some "not in", 2)
  | .word "in", _ => (some "in", 1)
  | .word "is", .word "not" => (some "is not", 2)
  | .word "is", _ => (some "is", 1)
  | .op text, _ =>
    if ["==", "!=", "<=", "<", ">=", ">"].contains text then (some text, 1) else (none, 0)
  | _, _ => (none, 0)

private theorem comparisonOp_agrees {edge : Bool} :
    Parser.Agrees edge comparisonOp comparisonOp := by
  refine agrees_of_glance comparisonAhead ?_ ?_ ?_ ?_ ?_
  · intro first second more
    unfold comparisonOp comparisonAhead
    split
    · rename_i same
      cases same
      rfl
    · rename_i same
      cases same
      rfl
    · rename_i same
      cases same
      rfl
    · rename_i notTwo same
      cases same
      split <;> simp_all
    · rename_i notIn inside isNot is
      split
      · exact absurd rfl (notIn more)
      · exact absurd rfl (inside _)
      · exact absurd rfl (isNot more)
      · exact absurd rfl (is _)
      · simp only [anyOf]
        split <;> rfl
      · rename_i notOp _ _
        cases first with
        | op text => exact absurd rfl (notOp text)
        | _ => rfl
  · intro first second
    unfold comparisonAhead
    split <;> try split
    all_goals simp
  · intro first
    apply forall_ends <;> cases first with
    | word text =>
      by_cases isIn : text = "in"
      · subst isIn
        exact ⟨rfl, Nat.le_refl _⟩
      · by_cases isIs : text = "is"
        · subst isIs
          exact ⟨rfl, Nat.le_refl _⟩
        · unfold comparisonAhead
          split <;> simp_all
    | op text =>
      refine ⟨rfl, ?_⟩
      simp only [comparisonAhead]
      split <;> simp
    | _ => exact ⟨rfl, Nat.zero_le _⟩
  · apply forall_ends <;> intro next <;> exact ⟨rfl, rfl⟩
  · intro tokens a rest read
    unfold comparisonOp at read
    split at read
    · cases read
      simp only [List.length_cons]
      omega
    · cases read
      simp
    · cases read
      simp only [List.length_cons]
      omega
    · cases read
      simp
    · exact (Agrees.anyOf (by decide) (by simp) : Parser.Agrees false _ _).takes read

/-! ## Items of lists -/

variable (agree : Agrees inner inner')
include agree

private theorem named_agrees {edge : Bool} : Parser.Agrees edge (named inner) (named inner') := by
  refine .inside (startsNaming_agrees.bind fun naming => .ite ?_ agree.expression)
  refine Agrees.identifier.bind fun name => ?_
  refine (Agrees.expect (by decide)).bind fun _ => ?_
  exact agree.expression.bind fun e => .pure _

private theorem displayItem_agrees {edge : Bool} :
    Parser.Agrees edge (displayItem inner) (displayItem inner') := by
  refine .inside (.ifAccepts (by decide) (by decide) ?_ (named_agrees agree))
  exact agree.bitOr.bind fun e => .pure _

private theorem bareItem_agrees {edge : Bool} :
    Parser.Agrees edge (bareItem inner) (bareItem inner') := by
  refine .inside (.ifAccepts (by decide) (by decide) ?_ agree.expression)
  exact agree.bitOr.bind fun e => .pure _

private theorem bareTuple_agrees : Parser.Agrees false (bareTuple inner) (bareTuple inner') := by
  refine (bareItem_agrees agree).bind fun first => ?_
  refine (Agrees.moreItems (bareItem_agrees agree)).bind fun more => ?_
  exact .ite (.pure _) (.pure _)

private theorem yielding_agrees : Parser.Agrees false (yielding inner) (yielding inner') := by
  refine (Agrees.expect (by decide)).bind fun _ => ?_
  refine .ifAccepts (by decide) (by decide) ?_ ?_
  · exact (agree.expression.bind fun e => .pure _).inside
  · refine Agrees.next.bind fun token => ?_
    cases token with
    | none => exact .pure _
    | some token => exact .ite ((bareTuple_agrees agree).bind fun e => .pure _) (.pure _)

/-! ## Comprehensions -/

private theorem loopTargets_agrees :
    Parser.Agrees false (loopTargets inner) (loopTargets inner') := by
  have part : Parser.Agrees false
      (do if ← accepts (.op "*") then return .starred (← inner.primary) else inner.primary)
      (do if ← accepts (.op "*") then return .starred (← inner'.primary) else inner'.primary) :=
    .ifAccepts (by decide) (by decide) (agree.primary.inside.bind fun e => .pure _)
      agree.primary.inside
  refine part.bind fun first => ?_
  refine part.moreItems.bind fun more => ?_
  exact .ite (.pure _) (.failure _)

private theorem conditions_agree : Parser.Agrees true
    (repeated do if ← accepts (.word "if") then return some (← inner.disjunction) else return none)
    (repeated do if ← accepts (.word "if") then return some (← inner'.disjunction) else return none) :=
  .repeated (.ifAccepts (by decide) (by decide) (agree.disjunction.bind fun e => .pure _) (.pure _))

private theorem clauses_agrees : Parser.Agrees true (clauses inner) (clauses inner') := by
  refine .repeated (startsClause_agrees.bind fun starts => .ite ?_ (.pure _))
  refine (Agrees.accepts (by decide) (by decide)).bind fun isAsync => ?_
  refine (Agrees.expect (by decide)).bind fun _ => ?_
  refine (loopTargets_agrees agree).closing (fun target => ?_) (fun target => rfl)
  refine (Agrees.expect (by decide)).bind fun _ => ?_
  refine agree.disjunction.bind fun iterable => ?_
  exact (conditions_agree agree).bind fun conditions => .pure _

/-! ## Calls -/

/-- The tokens start with a word and a sign of equality. -/
private def startsKeyword : List Token → Bool
  | .word _ :: .op "=" :: _ => true
  | _ => false

/-- An argument of a call, given whether a keyword stands in front of it. -/
private def argumentAs (inner : Grammar) (hasKeyword : Bool) : Parser Argument := do
  if ← accepts (.op "*") then return .spread (← inner.expression)
  else if ← accepts (.op "**") then return .spreadKeywords (← inner.expression)
  else if hasKeyword then
    let name ← identifier
    expect (.op "=")
    return .keyword name (← inner.expression)
  else return .positional (← named inner)

omit agree in
private theorem argument_eq (tokens : List Token) :
    argument inner tokens = argumentAs inner (startsKeyword tokens) tokens := by
  unfold argument argumentAs
  split
  · rename_i rest
    cases read : inner.expression rest <;> simp [accepts, bind, StateT.bind, read, return_eq]
  · rename_i rest
    cases read : inner.expression rest <;> simp [accepts, bind, StateT.bind, read, return_eq]
  · rename_i word rest
    cases known : nameOf? word with
    | none => simp [accepts, bind, StateT.bind, startsKeyword, identifier, known]
    | some name =>
      cases read : inner.expression rest <;>
        simp [accepts, bind, StateT.bind, startsKeyword, identifier, known, expect, read, return_eq]
  · rename_i noStar noStars noKeyword
    have noWord : startsKeyword tokens = false := by
      unfold startsKeyword
      split
      · exact absurd rfl (noKeyword _ _)
      · rfl
    have skipped : ∀ op, (∀ rest, tokens ≠ .op op :: rest) →
        accepts (.op op) tokens = some (false, tokens) := by
      intro op other
      cases tokens with
      | nil => rfl
      | cons head tail =>
        have different : head ≠ .op op := fun same => other tail (by rw [same])
        simp [accepts, different]
    rw [noWord, bind_of_some (skipped "*" noStar), if_neg (by decide),
      bind_of_some (skipped "**" noStars), if_neg (by decide), if_neg (by decide)]
    cases read : named inner tokens with
    | none => rw [bind_of_none read]; rfl
    | some found => rw [bind_of_some read]; rfl

private theorem argumentAs_agrees (hasKeyword : Bool) :
    Parser.Agrees true (argumentAs inner hasKeyword) (argumentAs inner' hasKeyword) := by
  refine .ifAccepts (by decide) (by decide) (agree.expression.bind fun e => .pure _) ?_
  refine .ifAccepts (by decide) (by decide) (agree.expression.bind fun e => .pure _) ?_
  refine .ite ?_ ((named_agrees agree).bind fun e => .pure _)
  refine Agrees.identifier.bind fun name => ?_
  exact (Agrees.expect (by decide)).bind fun _ => agree.expression.bind fun e => .pure _

private theorem named_takes : Takes 1 (named inner) := by
  refine (startsNaming_agrees : Parser.Agrees true _ _).takes.bind (n := 1) fun naming => .ite ?_ agree.takesToken
  refine Takes.identifier.bind (n := 0) fun name => ?_
  refine (Agrees.expect (by decide) : Parser.Agrees true _ _).takes.bind (n := 0) fun _ => ?_
  exact agree.expression.takes.bind (n := 0) fun e => .pure _

private theorem argumentAs_takes (hasKeyword : Bool) : Takes 1 (argumentAs inner hasKeyword) := by
  have token (op : Token) (ordinary : op ≠ .op ";") : Takes 0 (accepts op) :=
    (Agrees.accepts ordinary (by simp) : Parser.Agrees false _ _).takes
  refine (token _ (by decide)).bind (n := 1) fun star =>
    .ite (agree.takesToken.bind (n := 0) fun e => .pure _) ?_
  refine (token _ (by decide)).bind (n := 1) fun stars =>
    .ite (agree.takesToken.bind (n := 0) fun e => .pure _) ?_
  refine .ite ?_ ((named_takes agree).bind (n := 0) fun e => .pure _)
  refine Takes.identifier.bind (n := 0) fun name => ?_
  refine (Agrees.expect (by decide) : Parser.Agrees true _ _).takes.bind (n := 0) fun _ => ?_
  exact agree.expression.takes.bind (n := 0) fun e => .pure _

private theorem argument_agrees : Parser.Agrees false (argument inner) (argument inner') := by
  intro tokens u v alike found rest read
  rw [argument_eq] at read
  obtain ⟨left, rfl, shorter, other⟩ := argumentAs_agrees agree _ tokens alike read
  refine ⟨left, rfl, shorter, fun asked => ?_⟩
  rw [argument_eq]
  have same : startsKeyword (tokens ++ v) = startsKeyword (tokens ++ u) := by
    cases alike with
    | nothing => rfl
    | @elsewhere token ends next more =>
      match tokens with
      | [] => revert token; apply forall_ends <;> intros <;> rfl
      | [.word word] =>
        -- A sign of equality behind the word is no part of the argument, which takes the word.
        have taken := argumentAs_takes agree _ read
        have empty : left = [] := by
          rw [List.length_append, List.length_append, List.length_singleton] at taken
          exact List.length_eq_zero_iff.1 (by omega)
        rcases asked with impossible | same | nonempty
        · cases impossible
        · cases same
          exact absurd ends (by decide)
        · exact absurd empty nonempty
      | [.number _] => rfl
      | [.string _] => rfl
      | [.op _] => rfl
      | [.newline] => rfl
      | [.indent] => rfl
      | [.dedent] => rfl
      | first :: second :: others =>
        unfold startsKeyword
        split
        · rename_i same
          cases same
          rfl
        · rename_i other
          split
          · rename_i same
            cases same
            exact absurd rfl (other _ _)
          · rfl
  rw [same]
  exact other (.inl rfl)

private theorem argument_refuses : argument inner statementEnd = none := by
  have refuses : named inner statementEnd = none := by
    rw [named, bind_of_some (a := false) rfl]
    exact agree.refuses
  rw [argument_eq, argumentAs, bind_of_some (a := false) rfl, if_neg (by decide),
    bind_of_some (a := false) rfl, if_neg (by decide)]
  exact bind_of_none refuses

private theorem finish_agrees (first : Argument) :
    Parser.Agrees true (arguments.finish inner first) (arguments.finish inner' first) := by
  refine (Agrees.moreItems (argument_agrees agree)).closing (fun more => ?_) (fun more => rfl)
  exact (Agrees.expect (by decide)).bind fun _ => .ite (.pure _) (.failure _)

private theorem arguments_agrees : Parser.Agrees true (arguments inner) (arguments inner') := by
  refine .ifCloses (by decide) (.pure _) ?_ ?_
  · refine (argument_agrees agree).closing (fun first => ?_) (fun first => ?_)
    · cases first with
      | positional e =>
        refine startsClause_agrees.bind fun starts => .ite ?_ (finish_agrees agree _)
        refine (clauses_agrees agree).bind fun parts => ?_
        exact (Agrees.expect (by decide)).bind fun _ => .pure _
      | _ => exact finish_agrees agree _
    · cases first <;> rfl
  · simp only [bind, StateT.bind, argument_refuses agree]
    rfl

/-! ## Subscripts -/

private theorem part_agrees :
    Parser.Agrees false (sliceItem.part inner) (sliceItem.part inner') := by
  refine Agrees.next.bind fun token => ?_
  cases token with
  | none => exact .pure _
  | some token => exact .ite (agree.expression.inside.bind fun e => .pure _) (.pure _)

private theorem sliceItem_agrees : Parser.Agrees false (sliceItem inner) (sliceItem inner') := by
  have slice (start : Option Expr) : Parser.Agrees false
      (do
        if ← accepts (.op ":") then
          let stop ← sliceItem.part inner
          let step ← if ← accepts (.op ":") then sliceItem.part inner else pure none
          return .slice start stop step
        else start.elim failure pure)
      (do
        if ← accepts (.op ":") then
          let stop ← sliceItem.part inner'
          let step ← if ← accepts (.op ":") then sliceItem.part inner' else pure none
          return .slice start stop step
        else start.elim failure pure) := by
    refine .ifAcceptsInside (by decide) ?_ ?_
    · refine (part_agrees agree).bind fun stop => ?_
      exact .ifAcceptsInside (by decide) ((part_agrees agree).bind fun step => .pure _) (.pure _)
    · cases start with
      | some e => exact .pure _
      | none => exact .failure _
  refine .ifAccepts (by decide) (by decide) (agree.expression.inside.bind fun e => .pure _) ?_
  refine startsNaming_agrees.bind fun naming => .ite (named_agrees agree) ?_
  refine (Agrees.sees (by decide) (by decide)).bind fun colon => .ite ?_ ?_
  · exact (slice none)
  · exact agree.expression.inside.bind fun e => slice (some e)

private theorem subscriptIndex_agrees :
    Parser.Agrees true (subscriptIndex inner) (subscriptIndex inner') := by
  refine (sliceItem_agrees agree).closing (fun first => ?_) (fun first => ?_)
  · refine (Agrees.moreStarting (by decide) (sliceItem_agrees agree)).closing (fun more => ?_)
      (fun more => rfl)
    refine (Agrees.expect (by decide)).bind fun _ => ?_
    cases first with
    | starred e => exact .pure _
    | _ => exact .ite (.pure _) (.pure _)
  · rfl

/-! ## Displays -/

private theorem displayItem_refuses : displayItem inner statementEnd = none := by
  rw [displayItem, bind_of_some (a := false) rfl, if_neg (by decide), named,
    bind_of_some (a := false) rfl]
  exact agree.refuses

/-- The parts of a comprehension and its closing bracket. -/
private theorem comprehension_agrees {closer : Token} (ordinary : closer ≠ .op ";")
    (build : List Clause → Expr) : Parser.Agrees true
      (do let parts ← clauses inner; expect closer; return build parts)
      (do let parts ← clauses inner'; expect closer; return build parts) := by
  refine (clauses_agrees agree).bind fun parts => ?_
  exact (Agrees.expect ordinary).bind fun _ => .pure _

private theorem parenthesized_agrees :
    Parser.Agrees true (parenthesized inner) (parenthesized inner') := by
  refine .ifCloses (by decide) (.pure _) ?_ ?_
  · refine (Agrees.sees (by decide) (by decide)).bind fun isYield => .ite ?_ ?_
    · refine (yielding_agrees agree).closing (fun e => ?_) (fun e => rfl)
      exact (Agrees.expect (by decide)).bind fun _ => .pure _
    · refine (displayItem_agrees agree).bind fun first => ?_
      refine startsClause_agrees.bind fun starts => .ite ?_ ?_
      · cases first with
        | starred e => exact .failure _
        | _ => exact comprehension_agrees agree (by decide) _
      · refine (Agrees.moreItems (displayItem_agrees agree)).closing (fun more => ?_)
          (fun more => rfl)
        refine (Agrees.expect (by decide)).bind fun _ => .ite (.pure _) ?_
        cases first with
        | starred e => exact .failure _
        | _ => exact .pure _
  · rw [bind_of_some (a := false) rfl, if_neg (by decide)]
    exact bind_of_none (displayItem_refuses agree)

private theorem bracketed_agrees :
    Parser.Agrees true (bracketed inner) (bracketed inner') := by
  refine .ifCloses (by decide) (.pure _) ?_ (bind_of_none (displayItem_refuses agree))
  refine (displayItem_agrees agree).bind fun first => ?_
  refine startsClause_agrees.bind fun starts => .ite ?_ ?_
  · cases first with
    | starred e => exact .failure _
    | _ => exact comprehension_agrees agree (by decide) _
  · refine (Agrees.moreItems (displayItem_agrees agree)).closing (fun more => ?_) (fun more => rfl)
    exact (Agrees.expect (by decide)).bind fun _ => .pure _

private theorem dictEntry_agrees {edge : Bool} :
    Parser.Agrees edge (dictEntry inner) (dictEntry inner') := by
  refine .inside (.ifAccepts (by decide) (by decide) (agree.bitOr.bind fun e => .pure _) ?_)
  refine agree.expression.bind fun key => ?_
  exact (Agrees.expect (by decide)).bind fun _ => agree.expression.bind fun e => .pure _

private theorem entries_agrees (first : Option Expr × Expr) :
    Parser.Agrees true (braced.entries inner first) (braced.entries inner' first) := by
  refine (Agrees.moreItems (dictEntry_agrees agree)).closing (fun more => ?_) (fun more => rfl)
  exact (Agrees.expect (by decide)).bind fun _ => .pure _

private theorem braced_agrees : Parser.Agrees true (braced inner) (braced inner') := by
  refine .ifCloses (by decide) (.pure _) ?_ ?_
  · refine (Agrees.sees (by decide) (by decide)).bind fun isSpread => .ite ?_ ?_
    · exact (dictEntry_agrees agree).bind fun first => entries_agrees agree first
    · refine startsNaming_agrees.bind fun isNaming => ?_
      refine (displayItem_agrees agree).bind fun first => ?_
      refine .ifCloses (by decide) ?_ ?_ rfl
      · have value : Parser.Agrees true
            (do
              let value ← inner.expression
              if ← startsClause then
                let parts ← clauses inner
                expect (.op "\x7d")
                return .dictComprehension first value parts
              else braced.entries inner (some first, value))
            (do
              let value ← inner'.expression
              if ← startsClause then
                let parts ← clauses inner'
                expect (.op "\x7d")
                return .dictComprehension first value parts
              else braced.entries inner' (some first, value)) := by
          refine agree.expression.bind fun value => ?_
          refine startsClause_agrees.bind fun starts => .ite ?_ (entries_agrees agree _)
          exact comprehension_agrees agree (by decide) _
        cases first with
        | starred e => exact .failure _
        | _ => exact .ite (.failure _) value
      · refine startsClause_agrees.bind fun starts => .ite ?_ ?_
        · cases first with
          | starred e => exact .failure _
          | _ => exact comprehension_agrees agree (by decide) _
        · refine (Agrees.moreItems (displayItem_agrees agree)).closing (fun more => ?_)
            (fun more => rfl)
          exact (Agrees.expect (by decide)).bind fun _ => .pure _
  · rw [bind_of_some (a := false) rfl, if_neg (by decide), bind_of_some (a := false) rfl]
    exact bind_of_none (displayItem_refuses agree)

/-! ## Strings -/

/-- The second gives whatever the first gives. -/
private def Extended {α : Type} (first second : Option α) : Prop :=
  ∀ a, first = some a → second = some a

omit agree in
private theorem Extended.refl {α : Type} (o : Option α) : Extended o o := fun _ given => given

omit agree in
private theorem Extended.none {α : Type} (o : Option α) : Extended none o := by
  intro a given
  cases given

omit agree in
private theorem Extended.bind {α β : Type} {first second : Option α} {f g : α → Option β}
    (same : Extended first second) (later : ∀ a, Extended (f a) (g a)) :
    Extended (first >>= f) (second >>= g) := by
  intro b given
  obtain ⟨a, givenFirst, givenLater⟩ := Option.bind_eq_some_iff.1 given
  exact Option.bind_eq_some_iff.2 ⟨a, same a givenFirst, later a b givenLater⟩

omit agree in
private theorem Extended.ite {α : Type} {condition : Prop} [Decidable condition]
    {first second first' second' : Option α} (yes : Extended first second)
    (no : Extended first' second') :
    Extended (if condition then first else first') (if condition then second else second') := by
  by_cases holds : condition
  · simpa only [if_pos holds] using yes
  · simpa only [if_neg holds] using no

private theorem embedded?_extended (text : List Char) :
    Extended (embedded? inner text) (embedded? inner' text) := by
  refine .ite (.none _) ?_
  refine (Extended.refl _).bind fun tokens => .bind ?_ fun found => .refl _
  intro found given
  exact (bareTuple_agrees agree).sameResult given

private theorem formatted_extended (isRaw : Bool) (fuel : Nat) :
    (∀ nested text, Extended (formattedParts? inner isRaw nested fuel text)
      (formattedParts? inner' isRaw nested fuel text)) ∧
    ∀ nested text, Extended (embeddedField? inner isRaw nested fuel text)
      (embeddedField? inner' isRaw nested fuel text) := by
  induction fuel with
  | zero => exact ⟨fun _ _ => .none _, fun _ _ => .none _⟩
  | succ fuel ih =>
    obtain ⟨parts, field⟩ := ih
    constructor
    · intro nested text
      rw [formattedParts?.eq_2, formattedParts?.eq_2]
      refine (Extended.refl _).bind fun chars => ?_
      dsimp only
      cases (formattedText isRaw (decide (0 < nested)) (text.length + 1) text).2 with
      | nil => exact .refl _
      | cons c rest =>
        refine .ite (.refl _) (.ite (.none _) ?_)
        refine (field _ _).bind fun found => ?_
        exact (parts _ _).bind fun more => .refl _
    · intro nested text
      rw [embeddedField?.eq_2, embeddedField?.eq_2]
      refine (Extended.refl _).bind fun found => ?_
      refine (embedded?_extended agree _).bind fun e => ?_
      split
      refine (Extended.refl _).bind fun conversion => ?_
      obtain ⟨conversion, behind⟩ := conversion
      dsimp only
      split
      · exact .refl _
      · exact (parts _ _).bind fun layout => .refl _
      · exact .none _

omit agree in
private theorem mapM_extended {α β : Type} {f g : α → Option β} (items : List α)
    (same : ∀ item, Extended (f item) (g item)) : Extended (items.mapM f) (items.mapM g) := by
  induction items with
  | nil => exact .refl _
  | cons item rest ih =>
    rw [List.mapM_cons, List.mapM_cons]
    exact (same item).bind fun first => ih.bind fun others => .refl _

private theorem strings?_extended (tokens : List StringToken) :
    Extended (strings? inner tokens) (strings? inner' tokens) := by
  refine .ite (.refl _) (.ite (.bind ?_ fun parts => .refl _) (.refl _))
  refine mapM_extended tokens fun token => .ite ?_ (.refl _)
  intro parts given
  obtain ⟨found, read, same⟩ := Option.map_eq_some_iff.1 given
  exact Option.map_eq_some_iff.2 ⟨found, (formatted_extended agree _ _).1 _ _ found read, same⟩

/-! ## Levels of binding -/

omit agree in
/-- A reader that takes a first token and then reads on. -/
private theorem agrees_of_cons {edge : Bool} {p q : Parser Expr} (nothing : p [] = none)
    (refuses : p statementEnd = none)
    (later : ∀ first, Parser.Agrees edge (fun tokens => p (first :: tokens))
      (fun tokens => q (first :: tokens))) : Parser.Agrees edge p q := by
  intro tokens u v alike e rest read
  cases tokens with
  | nil =>
    cases alike with
    | nothing => rw [List.append_nil, nothing] at read; cases read
    | elsewhere _ _ _ => rw [List.nil_append, refuses] at read; cases read
  | cons first tail =>
    obtain ⟨left, same, shorter, other⟩ := later first tail alike read
    exact ⟨left, same, Nat.le_succ_of_le shorter, other⟩

omit agree in
private theorem takeStrings_append (tokens : List Token) {behind : List Token}
    (other : takeStrings behind = ([], behind)) :
    takeStrings (tokens ++ behind) = ((takeStrings tokens).1, (takeStrings tokens).2 ++ behind) := by
  induction tokens with
  | nil => exact other
  | cons first rest ih =>
    cases first with
    | string s => simp [takeStrings, ih]
    | _ => rfl

omit agree in
private theorem takeStrings_length (tokens : List Token) :
    (takeStrings tokens).2.length ≤ tokens.length := by
  induction tokens with
  | nil => exact Nat.le_refl _
  | cons first rest ih =>
    cases first with
    | string s => exact Nat.le_succ_of_le ih
    | _ => exact Nat.le_refl _

private theorem stringAtom_agrees (first : StringToken) :
    Parser.Agrees true (fun tokens => atom inner (.string first :: tokens))
      (fun tokens => atom inner' (.string first :: tokens)) := by
  intro tokens u v alike e rest read
  have ended : takeStrings u = ([], u) ∧ takeStrings v = ([], v) := by
    cases alike with
    | nothing => exact ⟨rfl, rfl⟩
    | @elsewhere token ends next more =>
      refine ⟨rfl, ?_⟩
      revert token
      apply forall_ends <;> rfl
  simp only [atom, takeStrings_append tokens ended.1] at read
  obtain ⟨found, valued, same⟩ := Option.map_eq_some_iff.1 read
  cases same
  refine ⟨_, rfl, takeStrings_length tokens, fun _ => ?_⟩
  simp only [atom, takeStrings_append tokens ended.2]
  exact Option.map_eq_some_iff.2 ⟨_, strings?_extended agree _ _ valued, rfl⟩

private theorem atom_cons_agrees (first : Token) :
    Parser.Agrees true (fun tokens => atom inner (first :: tokens))
      (fun tokens => atom inner' (first :: tokens)) := by
  cases first with
  | string s => exact stringAtom_agrees agree s
  | word text =>
    by_cases isNone : text = "None"
    · subst isNone
      exact .pure (Expr.literal .none)
    by_cases isTrue : text = "True"
    · subst isTrue
      exact .pure (Expr.literal (.bool true))
    by_cases isFalse : text = "False"
    · subst isFalse
      exact .pure (Expr.literal (.bool false))
    have other (g : Grammar) : (fun rest => atom g (.word text :: rest)) =
        fun rest => (nameOf? text).map fun name => (.name name, rest) := by
      funext rest
      simp [atom]
    rw [other, other]
    cases nameOf? text with
    | none => exact .failure _
    | some name => exact .pure (Expr.name name)
  | number value =>
    cases value with
    | whole n => exact .pure (Expr.literal (.whole n))
    | real x => exact .pure (Expr.literal (.real x))
    | imaginary x => exact .pure (Expr.literal (.imaginary x))
  | op text =>
    by_cases isDots : text = "..."
    · subst isDots
      exact .pure (Expr.literal .ellipsis)
    by_cases isRound : text = "("
    · subst isRound
      exact parenthesized_agrees agree
    by_cases isSquare : text = "["
    · subst isSquare
      exact bracketed_agrees agree
    by_cases isBrace : text = "\x7b"
    · subst isBrace
      exact braced_agrees agree
    have other (g : Grammar) : (fun rest => atom g (.op text :: rest)) = fun _ => none := by
      funext rest
      unfold atom
      split <;> simp_all
    rw [other, other]
    exact .failure _
  | _ => exact .failure _

private theorem atom_agrees : Parser.Agrees true (atom inner) (atom inner') :=
  agrees_of_cons rfl rfl (atom_cons_agrees agree)

private theorem trailer_agrees : Parser.Agrees true (trailer inner) (trailer inner') := by
  refine (Agrees.anyOf (by decide) (by decide)).bind fun op => ?_
  split
  · exact Agrees.identifier.bind fun name => .pure _
  · exact (arguments_agrees agree).bind fun call => .pure _
  · exact (subscriptIndex_agrees agree).bind fun index => .pure _
  · exact .pure _

private theorem primaryHere_agrees :
    Parser.Agrees true (primaryHere inner) (primaryHere inner') := by
  refine (atom_agrees agree).bind fun first => ?_
  exact (trailer_agrees agree).repeated.bind fun trailers => .pure _

private theorem awaitable_agrees : Parser.Agrees true (awaitable inner) (awaitable inner') := by
  refine .ifAccepts (by decide) (by decide) ?_ (primaryHere_agrees agree)
  exact (primaryHere_agrees agree).bind fun e => .pure _

private theorem power_agrees : Parser.Agrees true (power inner) (power inner') := by
  refine (awaitable_agrees agree).bind fun base => ?_
  exact .ifAccepts (by decide) (by decide) (agree.factor.bind fun e => .pure _) (.pure _)

private theorem factorHere_agrees :
    Parser.Agrees true (factorHere inner) (factorHere inner') := by
  refine (Agrees.anyOf (by decide) (by decide)).repeated.bind fun signs => ?_
  exact (power_agrees agree).bind fun operand => .pure _

omit agree in
private theorem operands_agree {ops : List String} {operand operand' : Parser Expr}
    (ordinary : ";" ∉ ops) (stays : ∀ op ∈ ops, .op op ∉ expressionEnds)
    (same : Parser.Agrees true operand operand') :
    Parser.Agrees true
      (repeated do
        match ← anyOf ops with
        | some op => return some (op, ← operand)
        | none => return none)
      (repeated do
        match ← anyOf ops with
        | some op => return some (op, ← operand')
        | none => return none) := by
  refine .repeated ((Agrees.anyOf ordinary fun _ => stays).bind fun op => ?_)
  cases op with
  | none => exact .pure _
  | some op => exact same.bind fun e => .pure _

omit agree in
private theorem leftAssociative_agrees {ops : List String} {operand operand' : Parser Expr}
    (ordinary : ";" ∉ ops) (stays : ∀ op ∈ ops, .op op ∉ expressionEnds)
    (same : Parser.Agrees true operand operand') :
    Parser.Agrees true (leftAssociative ops operand) (leftAssociative ops operand') :=
  same.bind fun _ => (operands_agree ordinary stays same).bind fun _ => .pure _

private theorem bitOrHere_agrees : Parser.Agrees true (bitOrHere inner) (bitOrHere inner') := by
  refine leftAssociative_agrees (by decide) (by decide) ?_
  refine leftAssociative_agrees (by decide) (by decide) ?_
  refine leftAssociative_agrees (by decide) (by decide) ?_
  refine leftAssociative_agrees (by decide) (by decide) ?_
  refine leftAssociative_agrees (by decide) (by decide) ?_
  exact leftAssociative_agrees (by decide) (by decide) (factorHere_agrees agree)

private theorem comparisons_agree : Parser.Agrees true
    (repeated do
      match ← comparisonOp with
      | some op => return some (op, ← bitOrHere inner)
      | none => return none)
    (repeated do
      match ← comparisonOp with
      | some op => return some (op, ← bitOrHere inner')
      | none => return none) := by
  refine .repeated (comparisonOp_agrees.bind fun op => ?_)
  cases op with
  | none => exact .pure _
  | some op => exact (bitOrHere_agrees agree).bind fun e => .pure _

private theorem comparisonHere_agrees :
    Parser.Agrees true (comparisonHere inner) (comparisonHere inner') :=
  (bitOrHere_agrees agree).bind fun _ =>
    (comparisons_agree agree).bind fun _ => .ite (.pure _) (.pure _)

private theorem inversion_agrees : Parser.Agrees true (inversion inner) (inversion inner') := by
  refine (Agrees.repeated ?_).bind fun nots => ?_
  · exact .ifAccepts (by decide) (by decide) (.pure _) (.pure _)
  · exact (comparisonHere_agrees agree).bind fun operand => .pure _

omit agree in
private theorem joined_agree {word : String} {operand operand' : Parser Expr}
    (same : Parser.Agrees true operand operand') : Parser.Agrees true
      (repeated do if ← accepts (.word word) then return some (← operand) else return none)
      (repeated do if ← accepts (.word word) then return some (← operand') else return none) :=
  .repeated (.ifAccepts (by simp) (by simp [expressionEnds]) (same.bind fun e => .pure _) (.pure _))

omit agree in
private theorem joinedBy_agrees {word : String} {operand operand' : Parser Expr}
    (same : Parser.Agrees true operand operand') :
    Parser.Agrees true (joinedBy word operand) (joinedBy word operand') :=
  same.bind fun _ => (joined_agree same).bind fun _ => .ite (.pure _) (.pure _)

private theorem disjunctionHere_agrees :
    Parser.Agrees true (disjunctionHere inner) (disjunctionHere inner') :=
  joinedBy_agrees (joinedBy_agrees (inversion_agrees agree))

omit agree in
private theorem hint?_agrees (annotated : Bool) {hint hint' : Parser Expr}
    (same : Parser.Agrees false hint hint') :
    Parser.Agrees false (hint? annotated hint) (hint? annotated hint') :=
  .ite (.ifAcceptsInside (by decide) (same.bind fun e => .pure _) (.pure _)) (.pure _)

omit agree in
private theorem parameterItem_agrees (annotated : Bool) {plain plain' star star' : Parser Expr}
    (same : Parser.Agrees false plain plain') (sameStar : Parser.Agrees false star star') :
    Parser.Agrees false (parameterItem annotated plain star)
      (parameterItem annotated plain' star') := by
  refine .ifAcceptsInside (by decide) (.pure _) (.ifAcceptsInside (by decide) ?_ ?_)
  · refine Agrees.identifier.bind fun name => ?_
    exact (hint?_agrees annotated same).bind fun hint => .pure _
  · refine .ifAcceptsInside (by decide) ?_ ?_
    · refine (Agrees.sees (by decide) (by simp)).bind fun comma => .ite (.pure _) ?_
      refine Agrees.identifier.bind fun name => ?_
      exact (hint?_agrees annotated sameStar).bind fun hint => .pure _
    · refine Agrees.identifier.bind fun name => ?_
      refine (hint?_agrees annotated same).bind fun hint => ?_
      exact .ifAcceptsInside (by decide) (same.bind fun e => .pure _) (.pure _)

omit agree in
private theorem parameters_agrees (annotated : Bool) {closer : Token} (ordinary : closer ≠ .op ";")
    {plain plain' star star' : Parser Expr} (same : Parser.Agrees false plain plain')
    (sameStar : Parser.Agrees false star star') :
    Parser.Agrees false (parameters annotated closer plain star)
      (parameters annotated closer plain' star') := by
  have item := parameterItem_agrees annotated same sameStar
  have seesCloser : Parser.Agrees false (sees closer) (sees closer) := .sees ordinary (by simp)
  refine seesCloser.bind fun none => .ite (.pure _) ?_
  refine item.bind fun first => (Agrees.repeated ?_).bind fun more => ?_
  · refine seesCloser.bind fun ends => .ite (.pure _) ?_
    refine (Agrees.expect (by decide)).bind fun _ => ?_
    exact seesCloser.bind fun trailing => .ite (.pure _) (item.bind fun p => .pure _)
  · split
    · exact .pure _
    · exact .failure _

private theorem functionHere_agrees :
    Parser.Agrees true (functionHere inner) (functionHere inner') := by
  have plain : Parser.Agrees false inner.expression inner'.expression := agree.expression.inside
  refine (Agrees.expect (by decide)).bind fun _ => ?_
  refine (parameters_agrees false (by decide) plain plain).closing (fun list => ?_) (fun list => rfl)
  exact (Agrees.expect (by decide)).bind fun _ => agree.expression.bind fun e => .pure _

/-- What follows the first part of an expression. -/
private theorem condition_agrees (yes : Expr) : Parser.Agrees true
    (do
      if ← accepts (.word "if") then
        let test ← inner.disjunction
        expect (.word "else")
        return .conditional test yes (← inner.expression)
      else return yes)
    (do
      if ← accepts (.word "if") then
        let test ← inner'.disjunction
        expect (.word "else")
        return .conditional test yes (← inner'.expression)
      else return yes) := by
  refine .ifAccepts (by decide) (by decide) ?_ (.pure _)
  refine agree.disjunction.bind fun test => ?_
  exact (Agrees.expect (by decide)).bind fun _ => agree.expression.bind fun e => .pure _

private theorem expressionHere_agrees :
    Parser.Agrees true (expressionHere inner) (expressionHere inner') := by
  refine (Agrees.sees (by decide) (by decide)).bind fun isFunction =>
    .ite (functionHere_agrees agree) ?_
  exact (disjunctionHere_agrees agree).bind fun yes => condition_agrees agree yes

/-! ## Progress of each level -/

private theorem atom_takes : Takes 1 (atom inner) := by
  intro tokens rest e read
  cases tokens with
  | nil => cases read
  | cons first tail =>
    have := (atom_cons_agrees agree first).takes read
    simp only [List.length_cons]
    omega

private theorem primaryHere_takes : Takes 1 (primaryHere inner) :=
  (atom_takes agree).andThen fun _ => (trailer_agrees agree).repeated.bind fun _ => .pure _

private theorem awaitable_takes : Takes 1 (awaitable inner) := by
  have awaits : Takes 0 (accepts (.word "await")) :=
    (Agrees.accepts (by decide) (by simp) : Parser.Agrees false _ _).takes
  refine awaits.bind (n := 1) fun found => .ite ?_ (primaryHere_takes agree)
  exact (primaryHere_takes agree).bind (n := 0) fun e => .pure _

private theorem power_takes : Takes 1 (power inner) :=
  (awaitable_takes agree).andThen fun _ =>
    .ifAccepts (by decide) (by decide) (agree.factor.bind fun e => .pure _) (.pure _)

private theorem factorHere_takes : Takes 1 (factorHere inner) := by
  have signs : Takes 0 (repeated (anyOf ["+", "-", "~"])) :=
    (Agrees.anyOf (by decide) (by decide) : Parser.Agrees true _ _).repeated.takes
  exact signs.bind (n := 1) fun _ => (power_takes agree).bind (n := 0) fun e => .pure _

omit agree in
private theorem leftAssociative_takes {ops : List String} {operand operand' : Parser Expr}
    (ordinary : ";" ∉ ops) (stays : ∀ op ∈ ops, .op op ∉ expressionEnds)
    (both : Parser.Agrees true operand operand' ∧ Takes 1 operand) :
    Parser.Agrees true (leftAssociative ops operand) (leftAssociative ops operand') ∧
      Takes 1 (leftAssociative ops operand) := by
  obtain ⟨same, takes⟩ := both
  refine ⟨leftAssociative_agrees ordinary stays same, ?_⟩
  exact takes.andThen fun _ => (operands_agree ordinary stays same).bind fun _ => .pure _

private theorem bitOrHere_takes : Takes 1 (bitOrHere inner) := by
  suffices both : Parser.Agrees true (bitOrHere inner) (bitOrHere inner') ∧
      Takes 1 (bitOrHere inner) from both.2
  refine leftAssociative_takes (by decide) (by decide) ?_
  refine leftAssociative_takes (by decide) (by decide) ?_
  refine leftAssociative_takes (by decide) (by decide) ?_
  refine leftAssociative_takes (by decide) (by decide) ?_
  refine leftAssociative_takes (by decide) (by decide) ?_
  refine leftAssociative_takes (by decide) (by decide) ?_
  exact ⟨factorHere_agrees agree, factorHere_takes agree⟩

private theorem comparisonHere_takes : Takes 1 (comparisonHere inner) :=
  (bitOrHere_takes agree).andThen fun _ =>
    (comparisons_agree agree).bind fun _ => .ite (.pure _) (.pure _)

private theorem inversion_takes : Takes 1 (inversion inner) := by
  have nots : Takes 0 (repeated do
      if ← accepts (.word "not") then return some () else return none) :=
    (Agrees.repeated (.ifAccepts (by decide) (by decide) (.pure _) (.pure _)) :
      Parser.Agrees true _ _).takes
  exact nots.bind (n := 1) fun _ => (comparisonHere_takes agree).bind (n := 0) fun e => .pure _

omit agree in
private theorem joinedBy_takes {word : String} {operand operand' : Parser Expr}
    (same : Parser.Agrees true operand operand') (takes : Takes 1 operand) :
    Takes 1 (joinedBy word operand) :=
  takes.andThen fun _ => (joined_agree same).bind fun _ => .ite (.pure _) (.pure _)

private theorem disjunctionHere_takes : Takes 1 (disjunctionHere inner) :=
  joinedBy_takes (joinedBy_agrees (inversion_agrees agree))
    (joinedBy_takes (inversion_agrees agree) (inversion_takes agree))

private theorem functionHere_takes : Takes 1 (functionHere inner) := by
  have plain : Parser.Agrees false inner.expression inner'.expression := agree.expression.inside
  have list : Parser.Agrees false (parameters false (.op ":") _ _) _ :=
    parameters_agrees false (by decide) plain plain
  refine (Takes.expect _).bind (n := 0) fun _ => list.takes.bind (n := 0) fun _ => ?_
  refine ((Takes.expect _).bind (n := 0) fun _ => ?_).weaken
  exact agree.expression.takes.bind (n := 0) fun _ => .pure _

private theorem expressionHere_takes : Takes 1 (expressionHere inner) := by
  have ahead : Takes 0 (sees (.word "lambda")) :=
    (Agrees.sees (by decide) (by simp) : Parser.Agrees false _ _).takes
  refine ahead.bind (n := 1) fun isFunction => .ite (functionHere_takes agree) ?_
  exact (disjunctionHere_takes agree).andThen fun yes => condition_agrees agree yes

omit agree in
/-- Going one level out. -/
theorem Agrees.enclosing (agree : Agrees inner inner') :
    Agrees inner.enclosing inner'.enclosing where
  expression := expressionHere_agrees agree
  disjunction := disjunctionHere_agrees agree
  bitOr := bitOrHere_agrees agree
  factor := factorHere_agrees agree
  primary := primaryHere_agrees agree
  takesToken := expressionHere_takes agree

end

end Grammar

theorem refusing_agrees (inner : Grammar) : Grammar.Agrees .refusing inner where
  expression := .failure _
  disjunction := .failure _
  bitOr := .failure _
  factor := .failure _
  primary := .failure _
  takesToken := .failure _

/-- A grammar agrees with one that goes deeper. -/
theorem grammar_agrees : ∀ {depth depth' : Nat}, depth ≤ depth' →
    Grammar.Agrees (grammar depth) (grammar depth')
  | 0, _, _ => refusing_agrees _
  | _ + 1, _ + 1, deeper => (grammar_agrees (Nat.le_of_succ_le_succ deeper)).enclosing

end EachSubject.Source
