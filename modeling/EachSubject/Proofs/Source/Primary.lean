import EachSubject.Proofs.Source.CompleteText

/-!
# Names, attributes and calls as expressions

What starts with a name or a bracket and is followed by the end of an expression is read by the parser of
primaries alone: no other level finds an operator of its own in front of it or behind it.
-/

namespace EachSubject.Source

open EachSubject.Source.Parser Grammar

/-! ## Repetition -/

namespace Parser

variable {α : Type} {step : Parser (Option α)}

private theorem repeatAtMost_more : ∀ {fuel : Nat} {tokens rest : List Token} {found : List α},
    repeatAtMost step fuel tokens = some (found, rest) →
      repeatAtMost step (fuel + 1) tokens = some (found, rest)
  | 0, _, _, _, read => by cases read
  | fuel + 1, tokens, rest, found, read => by
    obtain ⟨next, middle, first, later⟩ := bind_eq_some_iff.1 read
    refine bind_eq_some_iff.2 ⟨next, middle, first, ?_⟩
    cases next with
    | none => exact later
    | some a =>
      obtain ⟨others, _, more, ends⟩ := bind_eq_some_iff.1 later
      cases ends
      exact bind_eq_some_iff.2 ⟨others, rest, repeatAtMost_more more, rfl⟩

private theorem repeatAtMost_further {fuel : Nat} {tokens rest : List Token} {found : List α}
    (read : repeatAtMost step fuel tokens = some (found, rest)) {more : Nat} (enough : fuel ≤ more) :
    repeatAtMost step more tokens = some (found, rest) := by
  induction enough with
  | refl => exact read
  | step _ further => exact repeatAtMost_more further

theorem repeated_nil {tokens rest : List Token} (ends : step tokens = some (none, rest)) :
    repeated step tokens = some ([], rest) := by
  rw [repeated, repeatAtMost, bind_of_some ends]
  rfl

theorem repeated_cons {tokens middle rest : List Token} {a : α} {found : List α}
    (first : step tokens = some (some a, middle)) (shorter : middle.length < tokens.length)
    (more : repeated step middle = some (found, rest)) :
    repeated step tokens = some (a :: found, rest) := by
  rw [repeated, repeatAtMost, bind_of_some first]
  exact bind_eq_some_iff.2 ⟨found, rest, repeatAtMost_further more (by omega), rfl⟩

theorem accepts_other {token other : Token} (differ : other ≠ token) (rest : List Token) :
    accepts token (other :: rest) = some (false, other :: rest) := by
  simp [accepts, differ]

theorem accepts_same (token : Token) (rest : List Token) :
    accepts token (token :: rest) = some (true, rest) := by
  simp [accepts]

theorem sees_other {token other : Token} (differ : other ≠ token) (rest : List Token) :
    sees token (other :: rest) = some (false, other :: rest) := by
  simp [sees, differ]

theorem expect_same (token : Token) (rest : List Token) :
    expect token (token :: rest) = some ((), rest) := by
  simp [expect]

theorem anyOf_other {ops : List String} {token : Token} (differ : ∀ op ∈ ops, token ≠ .op op)
    (rest : List Token) : anyOf ops (token :: rest) = some (none, token :: rest) := by
  cases token with
  | op text =>
    have missing : text ∉ ops := fun inside => differ text inside rfl
    simp [anyOf, missing]
  | _ => rfl

end Parser

/-! ## What no operator continues -/

/-- The tokens that no expression goes on with. -/
def quietTokens : List Token := .op ":=" :: .op ";" :: expressionEnds

namespace Grammar

variable {inner : Grammar} {tokens rest : List Token} {e : Expr} {stop : Token}

/-- Nothing is repeated in front of a token that the step does not take. -/
private theorem after_none {α β : Type} {step : Parser (Option α)} {f : List α → Parser β}
    {tokens : List Token} (ends : step tokens = some (none, tokens)) :
    (repeated step >>= f) tokens = f [] tokens :=
  bind_of_some (repeated_nil ends)

theorem leftAssociative_stops {ops : List String} {operand : Parser Expr}
    (quiet : ∀ op ∈ ops, stop ≠ .op op) (read : operand tokens = some (e, stop :: rest)) :
    leftAssociative ops operand tokens = some (e, stop :: rest) := by
  rw [leftAssociative, bind_of_some read]
  exact after_none (bind_of_some (anyOf_other quiet rest))

private theorem joinedBy_stops {word : String} {operand : Parser Expr}
    (quiet : stop ≠ .word word) (read : operand tokens = some (e, stop :: rest)) :
    joinedBy word operand tokens = some (e, stop :: rest) := by
  rw [joinedBy, bind_of_some read]
  exact after_none (bind_of_some (accepts_other quiet rest))

/-- The operators of all levels between two operands. -/
private def binaryOps : List String :=
  ["|", "^", "&", "<<", ">>", "+", "-", "*", "/", "//", "%", "@", "**",
   "==", "!=", "<=", "<", ">=", ">"]

/-- The operators of the levels that bind tighter than a union. -/
private def tightOps : List String := ["^", "&", "<<", ">>", "+", "-", "*", "/", "//", "%", "@", "**"]

private theorem quiet_op : ∀ stop ∈ quietTokens, ∀ op ∈ binaryOps, stop ≠ .op op := by decide

private theorem quiet_word : ∀ stop ∈ quietTokens, ∀ word, stop ≠ .word word := by
  simp [quietTokens, expressionEnds]

private theorem comparisonOp_stops (quiet : stop ∈ quietTokens) :
    comparisonOp (stop :: rest) = some (none, stop :: rest) := by
  have words := quiet_word stop quiet
  rw [comparisonOp]
  · exact anyOf_other (fun op inside => quiet_op stop quiet op
      ((by decide : ∀ op ∈ ["==", "!=", "<=", "<", ">=", ">"], op ∈ binaryOps) op inside)) rest
  · exact fun _ same => words "not" (List.cons.inj same).1
  · exact fun _ same => words "in" (List.cons.inj same).1
  · exact fun _ same => words "is" (List.cons.inj same).1
  · exact fun _ same => words "is" (List.cons.inj same).1

/-- The first token starts no prefix of a level but the one that awaits. -/
def startsOperand : Token → Bool
  | .word text => !(["not", "lambda"].contains text)
  | .op text => !(["+", "-", "~"].contains text)
  | _ => true

/-- The first token starts no prefix of a level. -/
def startsPlainly (token : Token) : Bool := startsOperand token && token != .word "await"

variable {first : Token}

/-- The first token starts no prefix of a level that binds looser than a union. -/
def startsUnion : Token → Bool
  | .word text => !(["not", "lambda"].contains text)
  | _ => true

theorem startsUnion_of_operand (plain : startsOperand first = true) : startsUnion first = true := by
  cases first with
  | word text => exact plain
  | _ => rfl

theorem startsOperand_of_plain (plain : startsPlainly first = true) : startsOperand first = true :=
  (Bool.and_eq_true_iff.1 plain).1

theorem awaitable_plain (plain : startsPlainly first = true) :
    awaitable inner (first :: tokens) = primaryHere inner (first :: tokens) := by
  have differs : first ≠ .word "await" := by rintro rfl; cases plain
  rw [awaitable, bind_of_some (accepts_other differs tokens)]
  rfl

/-- No sign stands in front. -/
private theorem factorHere_plain (plain : startsOperand first = true) :
    factorHere inner (first :: tokens) = power inner (first :: tokens) := by
  have differs : ∀ op ∈ ["+", "-", "~"], first ≠ .op op := by
    rintro op inside rfl
    simp only [startsOperand, Bool.not_eq_true', List.contains_eq_mem, decide_eq_false_iff_not] at plain
    exact plain inside
  rw [factorHere, after_none (anyOf_other differs tokens)]
  exact congrFun (bind_pure (power inner)) _

/-- No negation stands in front. -/
private theorem inversion_plain (plain : startsUnion first = true) :
    inversion inner (first :: tokens) = comparisonHere inner (first :: tokens) := by
  have differs : first ≠ .word "not" := by rintro rfl; cases plain
  rw [inversion, after_none (bind_of_some (accepts_other differs tokens))]
  exact congrFun (bind_pure (comparisonHere inner)) _

private theorem expressionHere_plain (plain : startsUnion first = true) :
    expressionHere inner (first :: tokens) = (do
      let yes ← disjunctionHere inner
      if ← accepts (.word "if") then
        let test ← inner.disjunction
        expect (.word "else")
        return .conditional test yes (← inner.expression)
      else return yes : Parser Expr) (first :: tokens) := by
  have differs : first ≠ .word "lambda" := by rintro rfl; cases plain
  rw [expressionHere, bind_of_some (sees_other differs tokens)]
  rfl

/-- The operands of unions: all levels that bind tighter. -/
def memberHere (inner : Grammar) : Parser Expr :=
  leftAssociative ["^"] <| leftAssociative ["&"] <| leftAssociative ["<<", ">>"] <| leftAssociative ["+", "-"] <|
  leftAssociative ["*", "/", "//", "%", "@"] <| factorHere inner

private theorem power_stops (noPower : stop ≠ .op "**") (read : awaitable inner tokens = some (e, stop :: rest)) :
    power inner tokens = some (e, stop :: rest) := by
  rw [power, bind_of_some read, bind_of_some (accepts_other noPower rest)]
  rfl

/-- What may be awaited is a factor if no power is made of it. -/
theorem factorHere_stops (plain : startsOperand first = true) (noPower : stop ≠ .op "**")
    (read : awaitable inner (first :: tokens) = some (e, stop :: rest)) :
    factorHere inner (first :: tokens) = some (e, stop :: rest) :=
  (factorHere_plain plain).trans (power_stops noPower read)

/-- What may be awaited is a factor with a sign in front of it, too. -/
theorem factorHere_signed {sign : String} (isSign : sign ∈ ["+", "-", "~"]) (plain : startsOperand first = true)
    (noPower : stop ≠ .op "**") (read : awaitable inner (first :: tokens) = some (e, stop :: rest)) :
    factorHere inner (.op sign :: first :: tokens) = some (.unary sign e, stop :: rest) := by
  have differs : ∀ op ∈ ["+", "-", "~"], first ≠ .op op := by
    rintro op inside rfl
    simp only [startsOperand, Bool.not_eq_true', List.contains_eq_mem, decide_eq_false_iff_not] at plain
    exact plain inside
  have taken : anyOf ["+", "-", "~"] (.op sign :: first :: tokens) = some (some sign, first :: tokens) := by
    simp only [anyOf, List.contains_eq_mem, isSign, decide_true, if_true]
  have signs : repeated (anyOf ["+", "-", "~"]) (.op sign :: first :: tokens) = some ([sign], first :: tokens) :=
    repeated_cons taken (Nat.lt_succ_self _) (repeated_nil (anyOf_other differs tokens))
  rw [factorHere, bind_of_some signs, bind_of_some (power_stops noPower read)]
  rfl

private theorem tight_op (quiet : stop ∈ .op "|" :: quietTokens) : ∀ op ∈ tightOps, stop ≠ .op op := by
  rcases List.mem_cons.1 quiet with rfl | quiet
  · decide
  · exact fun op inside => quiet_op stop quiet op ((by decide : ∀ op ∈ tightOps, op ∈ binaryOps) op inside)

private theorem memberHere_sums (quiet : stop ∈ .op "|" :: quietTokens)
    (read : leftAssociative ["+", "-"] (leftAssociative ["*", "/", "//", "%", "@"] (factorHere inner)) tokens =
      some (e, stop :: rest)) : memberHere inner tokens = some (e, stop :: rest) := by
  have among : ∀ {ops : List String}, (∀ op ∈ ops, op ∈ tightOps) → ∀ op ∈ ops, stop ≠ .op op :=
    fun all op inside => tight_op quiet op (all op inside)
  refine leftAssociative_stops (among (by decide)) ?_
  refine leftAssociative_stops (among (by decide)) ?_
  exact leftAssociative_stops (among (by decide)) read

/-- A factor is an operand of a union if the bar of a union follows, or a quiet token. -/
theorem memberHere_factor (quiet : stop ∈ .op "|" :: quietTokens)
    (read : factorHere inner tokens = some (e, stop :: rest)) : memberHere inner tokens = some (e, stop :: rest) := by
  have among : ∀ {ops : List String}, (∀ op ∈ ops, op ∈ tightOps) → ∀ op ∈ ops, stop ≠ .op op :=
    fun all op inside => tight_op quiet op (all op inside)
  refine memberHere_sums quiet (leftAssociative_stops (among (by decide)) ?_)
  exact leftAssociative_stops (among (by decide)) read

/-- The sum or the difference of two factors is an operand of a union. -/
theorem memberHere_sum {op : String} {middle : List Token} {right : Expr} (isSum : op ∈ ["+", "-"])
    (quiet : stop ∈ .op "|" :: quietTokens) (left : factorHere inner tokens = some (e, .op op :: middle))
    (read : factorHere inner middle = some (right, stop :: rest)) (shorter : rest.length < middle.length) :
    memberHere inner tokens = some (.binary op e right, stop :: rest) := by
  have among : ∀ {ops : List String}, (∀ op ∈ ops, op ∈ tightOps) → ∀ op ∈ ops, stop ≠ .op op :=
    fun all op inside => tight_op quiet op (all op inside)
  have noProduct : ∀ other ∈ ["*", "/", "//", "%", "@"], Token.op op ≠ .op other :=
    (by decide : ∀ op ∈ ["+", "-"], ∀ other ∈ ["*", "/", "//", "%", "@"], Token.op op ≠ .op other) op isSum
  have taken : anyOf ["+", "-"] (.op op :: middle) = some (some op, middle) := by
    simp only [anyOf, List.contains_eq_mem, isSum, decide_true, if_true]
  have quietProduct : ∀ other ∈ ["*", "/", "//", "%", "@"], stop ≠ .op other := among (by decide)
  have product := leftAssociative_stops quietProduct read
  have noSum : ∀ other ∈ ["+", "-"], stop ≠ .op other := among (by decide)
  have less : (stop :: rest).length < (Token.op op :: middle).length := Nat.succ_lt_succ shorter
  refine memberHere_sums quiet ?_
  rw [leftAssociative, bind_of_some (leftAssociative_stops noProduct left)]
  refine (bind_of_some (repeated_cons (a := (op, right)) ?_ less (repeated_nil ?_))).trans rfl
  · exact (bind_of_some taken).trans (bind_of_some product)
  · exact bind_of_some (anyOf_other noSum rest)

/-- What may be awaited is an operand of a union if the bar of a union follows, or a quiet token. -/
theorem memberHere_stops (plain : startsOperand first = true) (quiet : stop ∈ .op "|" :: quietTokens)
    (read : awaitable inner (first :: tokens) = some (e, stop :: rest)) :
    memberHere inner (first :: tokens) = some (e, stop :: rest) :=
  memberHere_factor quiet (factorHere_stops plain (tight_op quiet "**" (by decide)) read)

/-- A union is an expression if a quiet token follows. -/
theorem expressionHere_union (plain : startsUnion first = true) (quiet : stop ∈ quietTokens)
    (read : bitOrHere inner (first :: tokens) = some (e, stop :: rest)) :
    expressionHere inner (first :: tokens) = some (e, stop :: rest) := by
  have words := quiet_word stop quiet
  have asComparison : comparisonHere inner (first :: tokens) = some (e, stop :: rest) := by
    rw [comparisonHere, bind_of_some read]
    exact after_none (bind_of_some (comparisonOp_stops quiet))
  have asDisjunction : disjunctionHere inner (first :: tokens) = some (e, stop :: rest) := by
    refine joinedBy_stops (words "or") (joinedBy_stops (words "and") ?_)
    exact (inversion_plain plain).trans asComparison
  rw [expressionHere_plain plain, bind_of_some asDisjunction]
  exact bind_of_some (accepts_other (words "if") rest)

/-- What may be awaited is an expression if a quiet token follows. -/
private theorem expressionHere_awaitable (plain : startsOperand first = true) (quiet : stop ∈ quietTokens)
    (read : awaitable inner (first :: tokens) = some (e, stop :: rest)) :
    expressionHere inner (first :: tokens) = some (e, stop :: rest) := by
  refine expressionHere_union (startsUnion_of_operand plain) quiet (leftAssociative_stops ?_ ?_)
  · exact fun op inside => quiet_op stop quiet op ((by decide : ∀ op ∈ ["|"], op ∈ binaryOps) op inside)
  · exact memberHere_stops plain (List.mem_cons_of_mem _ quiet) read

/-- A primary that a quiet token follows is an expression. -/
theorem expressionHere_stops (plain : startsPlainly first = true) (quiet : stop ∈ quietTokens)
    (read : primaryHere inner (first :: tokens) = some (e, stop :: rest)) :
    expressionHere inner (first :: tokens) = some (e, stop :: rest) :=
  expressionHere_awaitable (startsOperand_of_plain plain) quiet ((awaitable_plain plain).trans read)

/-- An awaited primary that a quiet token follows is an expression. -/
theorem expressionHere_awaits (quiet : stop ∈ quietTokens)
    (read : primaryHere inner tokens = some (e, stop :: rest)) :
    expressionHere inner (.word "await" :: tokens) = some (.awaited e, stop :: rest) := by
  refine expressionHere_awaitable (by decide) quiet ?_
  rw [awaitable, bind_of_some (accepts_same _ _)]
  exact bind_of_some read

private theorem comparisonHere_fails (fails : factorHere inner tokens = none) :
    comparisonHere inner tokens = none := by
  have asBitOr : bitOrHere inner tokens = none :=
    bind_of_none (bind_of_none (bind_of_none (bind_of_none (bind_of_none (bind_of_none fails)))))
  exact bind_of_none asBitOr

private theorem comparisonHere_refuses (plain : startsPlainly first = true)
    (read : primaryHere inner (first :: tokens) = none) :
    comparisonHere inner (first :: tokens) = none := by
  have asPower : power inner (first :: tokens) = none :=
    bind_of_none ((awaitable_plain plain).trans read)
  exact comparisonHere_fails ((factorHere_plain (startsOperand_of_plain plain)).trans asPower)

private theorem expressionHere_fails (noFunction : first ≠ .word "lambda")
    (fails : inversion inner (first :: tokens) = none) :
    expressionHere inner (first :: tokens) = none := by
  have asDisjunction : disjunctionHere inner (first :: tokens) = none :=
    bind_of_none (bind_of_none fails)
  rw [expressionHere, bind_of_some (sees_other noFunction tokens)]
  exact bind_of_none asDisjunction

/-- What is no primary is no expression. -/
theorem expressionHere_refuses (plain : startsPlainly first = true)
    (read : primaryHere inner (first :: tokens) = none) :
    expressionHere inner (first :: tokens) = none := by
  refine expressionHere_fails (by rintro rfl; cases plain) ?_
  exact (inversion_plain (startsUnion_of_operand (startsOperand_of_plain plain))).trans
    (comparisonHere_refuses plain read)

/-! ## Names -/

theorem not_reserved {word name : String} (isName : nameOf? word = some name) :
    Text.isReserved word = false := by
  cases reserved : Text.isReserved word with
  | false => rfl
  | true =>
    rw [nameOf?, if_pos reserved] at isName
    cases isName

theorem atom_name {word name : String} (isName : nameOf? word = some name) (rest : List Token) :
    atom inner (.word word :: rest) = some (.name name, rest) := by
  have differs : ∀ other, Text.isReserved other = true → word ≠ other := by
    rintro other reserved rfl
    rw [not_reserved isName] at reserved
    cases reserved
  rw [atom, isName]
  · rfl
  · exact differs "None" (by decide)
  · exact differs "True" (by decide)
  · exact differs "False" (by decide)

/-- The tokens with which something goes on behind an atom. -/
def startsTrailer : Token → Bool
  | .op text => [".", "(", "["].contains text
  | _ => false

theorem trailer_none {next : Token} (ends : startsTrailer next = false) (rest : List Token) :
    trailer inner (next :: rest) = some (none, next :: rest) := by
  have differs : ∀ op ∈ [".", "(", "["], next ≠ .op op := by
    rintro op inside rfl
    simp only [startsTrailer, List.contains_eq_mem, decide_eq_false_iff_not] at ends
    exact ends inside
  rw [trailer, bind_of_some (anyOf_other differs rest)]
  rfl

theorem primaryHere_atom {next : Token} (ends : startsTrailer next = false)
    (read : atom inner tokens = some (e, next :: rest)) :
    primaryHere inner tokens = some (e, next :: rest) := by
  rw [primaryHere, bind_of_some read]
  exact after_none (trailer_none ends rest)

theorem primaryHere_name {word name : String} (isName : nameOf? word = some name) {next : Token}
    (ends : startsTrailer next = false) :
    primaryHere inner (.word word :: next :: rest) = some (.name name, next :: rest) :=
  primaryHere_atom ends (atom_name isName _)

theorem quiet_ends : ∀ stop ∈ quietTokens, startsTrailer stop = false := by decide

theorem name_startsPlainly {word name : String} (isName : nameOf? word = some name) :
    startsPlainly (.word word) = true := by
  have notSpecial : word ∉ ["await", "not", "lambda"] := by
    intro special
    have reserved := (by decide : ∀ word ∈ ["await", "not", "lambda"], Text.isReserved word = true)
      word special
    rw [not_reserved isName] at reserved
    cases reserved
  simp only [List.mem_cons, List.not_mem_nil, or_false, not_or] at notSpecial
  simp [startsPlainly, startsOperand, notSpecial]

/-! ## Where no expression starts -/

/-- The operators with which an expression starts. -/
def startingOps : List String := ["...", "(", "[", "\x7b", "+", "-", "~"]

theorem expressionHere_op {text : String} (refused : text ∉ startingOps) (rest : List Token) :
    expressionHere inner (.op text :: rest) = none := by
  have differs : ∀ op ∈ startingOps, text ≠ op := by
    rintro op inside rfl
    exact refused inside
  simp only [startingOps, List.mem_cons, List.not_mem_nil, or_false, forall_eq_or_imp, forall_eq]
    at differs
  obtain ⟨noEllipsis, noParenthesis, noBracket, noBrace, noPlus, noMinus, noTilde⟩ := differs
  have noAtom : atom inner (.op text :: rest) = none := by
    simp [atom, noEllipsis, noParenthesis, noBracket, noBrace]
  refine expressionHere_refuses ?_ (bind_of_none noAtom)
  simp [startsPlainly, startsOperand, noPlus, noMinus, noTilde]

end Grammar

/-! ## Names that are given a value -/

namespace Grammar

variable {inner : Grammar}

private theorem naming_atom (word : String) (rest : List Token) :
    atom inner (.word word :: rest) = none ∨ ∃ e, atom inner (.word word :: rest) = some (e, rest) := by
  by_cases isNone : word = "None"
  · exact .inr ⟨.literal .none, by simp [atom, isNone]⟩
  by_cases isTrue : word = "True"
  · exact .inr ⟨.literal (.bool true), by simp [atom, isTrue]⟩
  by_cases isFalse : word = "False"
  · exact .inr ⟨.literal (.bool false), by simp [atom, isFalse]⟩
  cases named : nameOf? word with
  | none => exact .inl (by simp [atom, named])
  | some name => exact .inr ⟨.name name, atom_name named rest⟩

/-- No expression goes on from a word to the operator that gives it a value. -/
theorem expressionHere_naming (word : String) (rest : List Token) {e : Expr} {left : List Token}
    (read : expressionHere inner (.word word :: .op ":=" :: rest) = some (e, left)) :
    left = .op ":=" :: rest := by
  have noAtom : atom inner (.op ":=" :: rest) = none := by simp [atom]
  have noPrimary : primaryHere inner (.op ":=" :: rest) = none := bind_of_none noAtom
  by_cases awaits : word = "await"
  · subst awaits
    have asAwaitable : awaitable inner (.word "await" :: .op ":=" :: rest) = none := by
      rw [awaitable, bind_of_some (accepts_same _ _)]
      exact bind_of_none noPrimary
    have asFactor : factorHere inner (.word "await" :: .op ":=" :: rest) = none := by
      rw [factorHere, after_none (anyOf_other (by decide) _)]
      exact bind_of_none (bind_of_none asAwaitable)
    have asInversion : inversion inner (.word "await" :: .op ":=" :: rest) = none := by
      rw [inversion, after_none (bind_of_some (accepts_other (by decide) _))]
      exact bind_of_none (comparisonHere_fails asFactor)
    rw [expressionHere_fails (by decide) asInversion] at read
    cases read
  by_cases negates : word = "not"
  · subst negates
    have asInversion : inversion inner (.word "not" :: .op ":=" :: rest) = none := by
      have nots : repeated (do
          if ← accepts (.word "not") then return some () else return none)
          (.word "not" :: .op ":=" :: rest) = some ([()], .op ":=" :: rest) :=
        repeated_cons (bind_of_some (accepts_same _ _)) (by simp)
          (repeated_nil (bind_of_some (accepts_other (by decide) _)))
      rw [inversion, bind_of_some nots]
      exact bind_of_none (comparisonHere_refuses rfl noPrimary)
    rw [expressionHere_fails (by decide) asInversion] at read
    cases read
  by_cases isFunction : word = "lambda"
  · subst isFunction
    have noFunction : functionHere inner (.word "lambda" :: .op ":=" :: rest) = none := rfl
    rw [expressionHere, bind_of_some (show sees _ _ = some (true, _) from rfl), if_pos rfl, noFunction]
      at read
    cases read
  have plain : startsPlainly (.word word) = true := by simp [startsPlainly, startsOperand, awaits, negates, isFunction]
  rcases naming_atom word (.op ":=" :: rest) with none | ⟨found, isAtom⟩
  · rw [expressionHere_refuses plain (bind_of_none none)] at read
    cases read
  · rw [expressionHere_stops plain (by decide) (primaryHere_atom rfl isAtom)] at read
    cases read
    rfl

end Grammar

/-! ## Tokens that stand for an expression -/

namespace StandFor

variable {least : Nat} {tokens : List Token} {e : Expr}

private theorem reads (stands : StandFor least tokens e) :
    expressionHere (grammar least) (tokens ++ [.op ")", .newline]) = some (e, [.op ")", .newline]) :=
  stands (Nat.le_succ least) _ (by decide) _ _

/-- They are not empty, and start with no operator but those of an expression. -/
theorem starts (stands : StandFor least tokens e) :
    ∃ first more, tokens = first :: more ∧ ∀ text, text ∉ startingOps → first ≠ .op text := by
  have read := stands.reads
  cases tokens with
  | nil =>
    rw [List.nil_append, expressionHere_op (by decide)] at read
    cases read
  | cons first more =>
    refine ⟨first, more, rfl, ?_⟩
    rintro text refused rfl
    rw [List.cons_append, expressionHere_op refused] at read
    cases read

/-- They do not start by giving a name a value. -/
theorem names_nothing (stands : StandFor least tokens e) {stop : Token} (ends : stop ∈ expressionEnds)
    (rest : List Token) : startsNaming (tokens ++ stop :: rest) = some (false, tokens ++ stop :: rest) := by
  have read := stands.reads
  rw [startsNaming]
  intro word tail same
  match tokens with
  | [] =>
    obtain rfl := (List.cons.inj same).1
    revert ends
    simp [expressionEnds]
  | [first] =>
    simp only [List.cons_append, List.nil_append, List.cons.injEq] at same
    obtain ⟨_, rfl, _⟩ := same
    revert ends
    decide
  | first :: second :: more =>
    simp only [List.cons_append, List.cons.injEq] at same
    obtain ⟨rfl, rfl, _⟩ := same
    have left := expressionHere_naming word _ read
    simp at left

end StandFor

end EachSubject.Source
