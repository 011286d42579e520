import EachSubject.Proofs.Source.Calls
import EachSubject.Source.Scope

/-!
# Unions, constants and displays

Operands joined by bars, numerals with a sign or in a sum, and what stands in brackets: tuples, lists, sets and
dictionaries. Their parts are told apart by what may follow them: trailers, a bar, or only what ends an expression.
-/

namespace EachSubject.Source

open EachSubject.Source.Parser Grammar

/-! ## Parts of expressions -/

/-- The tokens start as an item of a list may, and with no operator that binds looser than a union. -/
def StartsItem (tokens : List Token) : Prop :=
  ∃ first more, tokens = first :: more ∧ startsUnion first = true ∧ startsItem first = true

namespace Outline

theorem areSound_append (p : Position) : ∀ body more : List Outline,
    areSound p (body ++ more) = (areSound p body && areSound p more)
  | [], _ => rfl
  | item :: body, more => by
    rw [List.cons_append, areSound, areSound, areSound_append p body more, Bool.and_assoc]

/-- Nothing is done but reading names and calling without keywords. -/
inductive IsQuiet : Outline → Prop
  | reads (name : String) : IsQuiet (.reads name)
  | calls : IsQuiet (.keywords [])

/-- What only reads names makes sense wherever it stands. -/
theorem areSound_quiet {body : List Outline} (quiet : ∀ item ∈ body, item.IsQuiet) (p : Position) :
    areSound p body = true := by
  induction body with
  | nil => rfl
  | cons item body ih =>
    obtain ⟨first, behind⟩ := List.forall_mem_cons.1 quiet
    rw [areSound, ih behind, Bool.and_true]
    cases first with
    | reads name => rfl
    | calls => simp [isSound]

end Outline

namespace Expr

/-- The expression is no spread, and evaluating it only reads names and calls without keywords. -/
structure IsSettled (e : Expr) : Prop where
  single : ∀ operand, e ≠ .starred operand
  quiet : ∀ owner, ∀ item ∈ e.outline owner, item.IsQuiet

namespace IsSettled

variable {e other : Expr}

theorem literal (value : Literal) : (Expr.literal value).IsSettled :=
  ⟨by rintro operand ⟨⟩, fun _ _ among => absurd among List.not_mem_nil⟩

theorem name (name : String) : (Expr.name name).IsSettled := by
  refine ⟨by rintro operand ⟨⟩, fun owner item among => ?_⟩
  cases List.mem_singleton.1 among
  exact .reads _

theorem field (settled : e.IsSettled) (name : String) : (Expr.attribute e name).IsSettled :=
  ⟨by rintro operand ⟨⟩, settled.quiet⟩

theorem call (settled : e.IsSettled) : (Expr.call e []).IsSettled := by
  refine ⟨by rintro operand ⟨⟩, fun owner item among => ?_⟩
  simp only [outline, argumentsOutline, keywordNames, List.append_nil, List.filterMap_nil] at among
  rcases List.mem_cons.1 among with rfl | among
  · exact .calls
  · exact settled.quiet owner item among

theorem unary (settled : e.IsSettled) (op : String) : (Expr.unary op e).IsSettled :=
  ⟨by rintro operand ⟨⟩, settled.quiet⟩

private theorem both (left : e.IsSettled) (right : other.IsSettled) (owner : String) :
    ∀ item ∈ e.outline owner ++ other.outline owner, item.IsQuiet :=
  List.forall_mem_append.2 ⟨left.quiet owner, right.quiet owner⟩

theorem binary (left : e.IsSettled) (right : other.IsSettled) (op : String) : (Expr.binary op e other).IsSettled :=
  ⟨by rintro operand ⟨⟩, both left right⟩

theorem subscript (left : e.IsSettled) (index : other.IsSettled) : (Expr.subscript e other).IsSettled :=
  ⟨by rintro operand ⟨⟩, both left index⟩

theorem items_quiet {items : List Expr} (each : ∀ e ∈ items, e.IsSettled) (owner : String) :
    ∀ item ∈ itemsOutline owner items, item.IsQuiet := by
  induction items with
  | nil => exact fun _ among => absurd among List.not_mem_nil
  | cons first items ih =>
    obtain ⟨head, each⟩ := List.forall_mem_cons.1 each
    rw [itemsOutline]
    · exact List.forall_mem_append.2 ⟨head.quiet owner, ih each⟩
    · exact head.single

theorem tuple {items : List Expr} (each : ∀ e ∈ items, e.IsSettled) : (Expr.tuple items).IsSettled :=
  ⟨by rintro operand ⟨⟩, items_quiet each⟩

theorem list {items : List Expr} (each : ∀ e ∈ items, e.IsSettled) : (Expr.list items).IsSettled :=
  ⟨by rintro operand ⟨⟩, items_quiet each⟩

theorem set {items : List Expr} (each : ∀ e ∈ items, e.IsSettled) : (Expr.set items).IsSettled :=
  ⟨by rintro operand ⟨⟩, items_quiet each⟩

theorem dict {entries : List (Expr × Expr)} (each : ∀ e ∈ entries, e.1.IsSettled ∧ e.2.IsSettled) :
    (Expr.dict (entries.map fun e => (some e.1, e.2))).IsSettled := by
  refine ⟨by rintro operand ⟨⟩, fun owner => ?_⟩
  rw [outline]
  induction entries with
  | nil => exact fun _ among => absurd among List.not_mem_nil
  | cons first entries ih =>
    obtain ⟨⟨key, value⟩, each⟩ := List.forall_mem_cons.1 each
    rw [List.map_cons, entriesOutline, optionalOutline]
    exact List.forall_mem_append.2 ⟨both key value owner, ih each⟩

end IsSettled

end Expr

/-- The tokens are a primary so far, up to nested parts that need so many levels. -/
structure IsOperand (least : Nat) (tokens : List Token) (e : Expr) : Prop where
  starts : ∃ first more, tokens = first :: more ∧ startsPlainly first = true ∧ startsItem first = true
  settled : e.IsSettled
  heads : ∀ depth, least ≤ depth → Heads (grammar depth) tokens e

/-- The tokens are an operand of a union. -/
structure IsMember (least : Nat) (tokens : List Token) (e : Expr) : Prop where
  starts : StartsItem tokens
  settled : e.IsSettled
  reads : ∀ {depth : Nat}, least ≤ depth → ∀ stop ∈ .op "|" :: quietTokens, ∀ rest,
    memberHere (grammar depth) (tokens ++ stop :: rest) = some (e, stop :: rest)

/-- The tokens are an expression that may be an item of a list. -/
structure IsElement (least : Nat) (tokens : List Token) (e : Expr) : Prop where
  starts : StartsItem tokens
  settled : e.IsSettled
  reads : ∀ {depth : Nat}, least ≤ depth → ∀ stop ∈ quietTokens, ∀ rest,
    (grammar depth).expression (tokens ++ stop :: rest) = some (e, stop :: rest)

section

variable {least more : Nat} {tokens : List Token} {e : Expr}

theorem IsOperand.mono (operand : IsOperand least tokens e) (le : least ≤ more) : IsOperand more tokens e :=
  { operand with heads := fun depth deep => operand.heads depth (Nat.le_trans le deep) }

theorem IsMember.mono (member : IsMember least tokens e) (le : least ≤ more) : IsMember more tokens e :=
  { member with reads := fun deep => member.reads (Nat.le_trans le deep) }

theorem IsElement.mono (element : IsElement least tokens e) (le : least ≤ more) : IsElement more tokens e :=
  { element with reads := fun deep => element.reads (Nat.le_trans le deep) }

theorem IsElement.stands (element : IsElement least tokens e) : StandFor least tokens e :=
  fun deep stop ends next rest =>
    element.reads deep stop (List.mem_cons_of_mem _ (List.mem_cons_of_mem _ ends)) (next :: rest)

theorem IsOperand.member (operand : IsOperand least tokens e) : IsMember least tokens e where
  starts := by
    obtain ⟨first, more, same, plain, isItem⟩ := operand.starts
    exact ⟨first, more, same, startsUnion_of_operand (startsOperand_of_plain plain), isItem⟩
  settled := operand.settled
  reads {depth} deep stop quiet rest := by
    have heads := operand.heads depth deep
    obtain ⟨first, more, rfl, plain, _⟩ := operand.starts
    have ends : startsTrailer stop = false := by
      rcases List.mem_cons.1 quiet with rfl | quiet
      · rfl
      · exact quiet_ends stop quiet
    exact memberHere_stops (startsOperand_of_plain plain) quiet ((awaitable_plain plain).trans (heads.primary ends))

end

/-! ## Constants -/

/-- No constant goes on with the token: it starts no trailer, makes no power of it, and is no text, with which a text
    would make up one text. -/
structure EndsConstant (stop : Token) : Prop where
  noTrailer : startsTrailer stop = false
  noText : ∀ s, stop ≠ Token.string s
  noPower : stop ≠ .op "**"

/-- The token is a constant. -/
structure IsConstant (token : Token) (e : Expr) : Prop where
  plain : startsPlainly token = true
  isItem : startsItem token = true
  settled : e.IsSettled
  reads : ∀ inner stop rest, (∀ s, stop ≠ Token.string s) →
    Grammar.atom inner (token :: stop :: rest) = some (e, stop :: rest)

/-- The tokens are a constant, possibly with a sign. -/
structure IsFactor (tokens : List Token) (e : Expr) : Prop where
  starts : StartsItem tokens
  settled : e.IsSettled
  reads : ∀ inner stop rest, EndsConstant stop → factorHere inner (tokens ++ stop :: rest) = some (e, stop :: rest)

private theorem endsConstant_quiet {stop : Token} (quiet : stop ∈ .op "|" :: quietTokens) : EndsConstant stop := by
  simp only [quietTokens, expressionEnds, List.mem_cons, List.not_mem_nil, or_false] at quiet
  rcases quiet with rfl | rfl | rfl | rfl | rfl | rfl | rfl | rfl | rfl | rfl <;>
    exact ⟨rfl, by rintro s ⟨⟩, by decide⟩

private theorem endsConstant_sign {sign : String} (isSign : sign ∈ ["+", "-"]) : EndsConstant (.op sign) := by
  simp only [List.mem_cons, List.not_mem_nil, or_false] at isSign
  rcases isSign with rfl | rfl <;> exact ⟨rfl, by rintro s ⟨⟩, by decide⟩

namespace IsConstant

variable {token : Token} {e : Expr}

theorem number (number : Number) : ∃ e, IsConstant (.number number) e := by
  cases number with
  | whole n => exact ⟨.literal (.whole n), rfl, rfl, Expr.IsSettled.literal _, fun _ _ _ _ => rfl⟩
  | real x => exact ⟨.literal (.real x), rfl, rfl, Expr.IsSettled.literal _, fun _ _ _ _ => rfl⟩
  | imaginary x => exact ⟨.literal (.imaginary x), rfl, rfl, Expr.IsSettled.literal _, fun _ _ _ _ => rfl⟩

/-- A text by itself, or bytes. -/
theorem string {value : StringToken} (plain : value.isFormatted = false)
    (valid : (if value.isBytes then (bodyBytes? value.isRaw value.body).isSome
      else (bodyText? value.isRaw value.body).isSome) = true) : ∃ e, IsConstant (.string value) e := by
  have alone : ∀ {stop : Token} {rest : List Token}, (∀ s, stop ≠ .string s) →
      Grammar.takeStrings (stop :: rest) = ([], stop :: rest) := by
    intro stop rest noText
    rw [Grammar.takeStrings]
    exact fun s behind same => noText s (List.cons.inj same).1
  cases isBytes : value.isBytes with
  | true =>
    rw [isBytes, if_pos rfl, Option.isSome_iff_exists] at valid
    obtain ⟨bytes, found⟩ := valid
    refine ⟨.literal (.bytes bytes), rfl, rfl, Expr.IsSettled.literal _, fun inner stop rest noText => ?_⟩
    simp [Grammar.atom, alone noText, Grammar.strings?, isBytes, found]
  | false =>
    rw [isBytes, if_neg (by decide), Option.isSome_iff_exists] at valid
    obtain ⟨text, found⟩ := valid
    refine ⟨.literal (.text (String.ofList text)), rfl, rfl, Expr.IsSettled.literal _, fun inner stop rest noText => ?_⟩
    simp [Grammar.atom, alone noText, Grammar.strings?, isBytes, plain, found]

private theorem awaitable (constant : IsConstant token e) {inner : Grammar} {stop : Token} {rest : List Token}
    (ends : EndsConstant stop) : Grammar.awaitable inner (token :: stop :: rest) = some (e, stop :: rest) :=
  (awaitable_plain constant.plain).trans (primaryHere_atom ends.noTrailer (constant.reads inner stop rest ends.noText))

theorem factor (constant : IsConstant token e) : IsFactor [token] e where
  starts := ⟨token, [], rfl, startsUnion_of_operand (startsOperand_of_plain constant.plain), constant.isItem⟩
  settled := constant.settled
  reads _ _ _ ends :=
    factorHere_stops (startsOperand_of_plain constant.plain) ends.noPower (constant.awaitable ends)

theorem signed (constant : IsConstant token e) {sign : String} (isSign : sign ∈ ["+", "-"]) :
    IsFactor [.op sign, token] (.unary sign e) where
  starts := ⟨_, _, rfl, rfl, (by decide : ∀ sign ∈ ["+", "-"], startsItem (.op sign) = true) sign isSign⟩
  settled := constant.settled.unary sign
  reads _ _ _ ends := factorHere_signed
    ((by decide : ∀ sign ∈ ["+", "-"], sign ∈ ["+", "-", "~"]) sign isSign)
    (startsOperand_of_plain constant.plain) ends.noPower (constant.awaitable ends)

end IsConstant

namespace IsFactor

variable {tokens : List Token} {e : Expr}

theorem member (factor : IsFactor tokens e) : IsMember 0 tokens e where
  starts := factor.starts
  settled := factor.settled
  reads _ _ quiet _ := memberHere_factor quiet (factor.reads _ _ _ (endsConstant_quiet quiet))

/-- A constant behind a plus or a minus. -/
theorem sum (factor : IsFactor tokens e) {other : Token} {right : Expr} (constant : IsConstant other right)
    {op : String} (isSum : op ∈ ["+", "-"]) : IsMember 0 (tokens ++ [.op op, other]) (.binary op e right) where
  starts := by
    obtain ⟨first, more, rfl, starts⟩ := factor.starts
    exact ⟨first, _, rfl, starts⟩
  settled := factor.settled.binary constant.settled op
  reads {depth} _ stop quiet rest := by
    have left := factor.reads (grammar depth) _ (other :: stop :: rest) (endsConstant_sign isSum)
    have sum := memberHere_sum isSum quiet left (constant.factor.reads _ _ rest (endsConstant_quiet quiet))
      (Nat.lt_succ_of_lt (Nat.lt_succ_self _))
    simpa using sum

end IsFactor

/-! ## Unions -/

/-- A step that takes each piece in front of the next one, and nothing behind the last one. -/
private theorem repeated_read {α : Type} {step : Parser (Option α)} (ends : List Token) {pieces : List (List Token)}
    (found : List α) (each : List.Forall₂ (fun piece a => (∃ first ∈ ends, ∃ more, piece = first :: more) ∧
      ∀ stop ∈ ends, ∀ rest, step (piece ++ stop :: rest) = some (some a, stop :: rest)) pieces found)
    {stop : Token} (isStop : stop ∈ ends) {rest : List Token}
    (stops : step (stop :: rest) = some (none, stop :: rest)) :
    repeated step (pieces.flatten ++ stop :: rest) = some (found, stop :: rest) := by
  induction each with
  | nil => exact repeated_nil stops
  | @cons piece a pieces found first others further =>
    obtain ⟨⟨head, _, more, rfl⟩, reads⟩ := first
    obtain ⟨next, isNext, tail, same⟩ : ∃ next ∈ ends, ∃ tail, pieces.flatten ++ stop :: rest = next :: tail := by
      cases others with
      | nil => exact ⟨stop, isStop, rest, rfl⟩
      | cons other _ =>
        obtain ⟨⟨next, isNext, more, rfl⟩, _⟩ := other
        exact ⟨next, isNext, _, rfl⟩
    rw [same] at further
    rw [List.flatten_cons, List.append_assoc, same]
    exact repeated_cons (reads next isNext tail) (by simp only [List.length_append, List.length_cons]; omega) further

/-- Operands of one level that are joined by one of its operators. -/
private theorem leftAssociative_read {op : String} {ops : List String} (isOp : op ∈ ops) {operand : Parser Expr}
    {ends : List Token} {first : List Token} {e : Expr} {others : List (List Token)} {found : List Expr}
    (readsFirst : ∀ stop ∈ .op op :: ends, ∀ rest, operand (first ++ stop :: rest) = some (e, stop :: rest))
    (each : List.Forall₂ (fun tokens e => ∀ stop ∈ .op op :: ends, ∀ rest,
      operand (tokens ++ stop :: rest) = some (e, stop :: rest)) others found)
    (quiet : ∀ stop ∈ ends, ∀ op ∈ ops, stop ≠ .op op) {stop : Token} (isStop : stop ∈ ends) (rest : List Token) :
    leftAssociative ops operand (first ++ others.flatMap (.op op :: ·) ++ stop :: rest) =
      some (found.foldl (.binary op) e, stop :: rest) := by
  have taken (behind : List Token) : anyOf ops (.op op :: behind) = some (some op, behind) := by
    simp [anyOf, isOp]
  obtain ⟨next, tail, same, isNext⟩ : ∃ next tail,
      others.flatMap (.op op :: ·) ++ stop :: rest = next :: tail ∧ next ∈ .op op :: ends := by
    cases others with
    | nil => exact ⟨stop, rest, rfl, List.mem_cons_of_mem _ isStop⟩
    | cons other others => exact ⟨.op op, _, rfl, List.mem_cons_self⟩
  rw [List.append_assoc, same, leftAssociative, bind_of_some (readsFirst next isNext tail), ← same,
    List.flatMap_def]
  refine (bind_of_some (repeated_read (.op op :: ends) (found.map fun e => (op, e)) ?_
    (List.mem_cons_of_mem _ isStop) (bind_of_some (anyOf_other (quiet stop isStop) rest)))).trans ?_
  · rw [List.forall₂_map_left_iff, List.forall₂_map_right_iff]
    refine each.imp fun tokens e reads => ⟨⟨.op op, List.mem_cons_self, tokens, rfl⟩, fun stop isStop rest => ?_⟩
    rw [List.cons_append, bind_of_some (taken _)]
    exact bind_of_some (reads stop isStop rest)
  · rw [List.foldl_map]
    rfl

/-- Operands joined by bars are an expression. -/
theorem IsElement.union {least : Nat} {first : List Token} {e : Expr} {others : List (List Token)}
    {found : List Expr} (member : IsMember least first e) (each : List.Forall₂ (IsMember least) others found) :
    IsElement (least + 1) (first ++ others.flatMap (.op "|" :: ·)) (found.foldl (.binary "|") e) where
  starts := by
    obtain ⟨head, more, rfl, starts⟩ := member.starts
    exact ⟨head, _, rfl, starts⟩
  settled := by
    have first := member.settled
    clear member
    induction each generalizing e with
    | nil => exact first
    | cons other _ further => exact further (first.binary other.settled "|")
  reads {depth} deep stop quiet rest := by
    obtain ⟨inside, rfl⟩ := Nat.exists_eq_add_of_le' (Nat.le_trans (Nat.le_add_left 1 least) deep)
    have deep : least ≤ inside := Nat.le_of_succ_le_succ deep
    have noBar : ∀ stop ∈ quietTokens, ∀ op ∈ ["|"], stop ≠ .op op := by decide
    have read := leftAssociative_read List.mem_cons_self (fun stop quiet rest => member.reads deep stop quiet rest)
      (each.imp fun _ _ other stop quiet rest => other.reads deep stop quiet rest) noBar quiet rest
    obtain ⟨head, more, rfl, starts, _⟩ := member.starts
    exact expressionHere_union starts quiet read

/-! ## Items in brackets -/

/-- The tokens are elements separated by commas. -/
def AreElements (least : Nat) (tokens : List Token) : Prop :=
  ∃ first e others found, tokens = first ++ behindCommas others ∧ IsElement least first e ∧
    List.Forall₂ (IsElement least) others found

/-- What closes a display: its bracket, possibly behind a comma. -/
def closing (trailing : Bool) (bracket : String) : List Token :=
  if trailing then [.op ",", .op bracket] else [.op bracket]

/-- The brackets that close displays. -/
def closingBrackets : List String := [")", "]", "\x7d"]

namespace Grammar

variable {least depth : Nat} {bracket : String} {first : List Token} {e : Expr} {others : List (List Token)}
  {found : List Expr} {next : Token} {rest : List Token}

private theorem bracket_token (closes : bracket ∈ closingBrackets) :
    Token.op bracket ∈ expressionEnds ∧ Token.op bracket ≠ .op "," ∧ startsItem (.op bracket) = false := by
  simp only [closingBrackets, List.mem_cons, List.not_mem_nil, or_false] at closes
  rcases closes with rfl | rfl | rfl <;> decide

private theorem ends_of_stop {stop : Token} (closes : bracket ∈ closingBrackets)
    (isStop : stop ∈ [.op ",", .op bracket]) : stop ∈ expressionEnds := by
  simp only [List.mem_cons, List.not_mem_nil, or_false] at isStop
  rcases isStop with rfl | rfl
  · decide
  · exact (bracket_token closes).1

private theorem displayItem_read (element : IsElement least first e) (deep : least ≤ depth) {stop : Token}
    (ends : stop ∈ expressionEnds) (next : Token) (rest : List Token) :
    displayItem (grammar depth) (first ++ stop :: next :: rest) = some (e, stop :: next :: rest) := by
  have read := element.stands deep stop ends next rest
  have unnamed := StandFor.names_nothing element.stands ends (next :: rest)
  obtain ⟨head, more, rfl, ordinary⟩ := StandFor.starts element.stands
  rw [List.cons_append] at read unnamed ⊢
  rw [displayItem, bind_of_some (accepts_other (ordinary "*" (by decide)) _), if_neg (by decide), named,
    bind_of_some unnamed, if_neg (by decide), read]

/-- An element is an item of a display. -/
theorem IsElement.item (element : IsElement least first e) (deep : least ≤ depth) (closes : bracket ∈ closingBrackets) :
    IsItem startsItem (.op bracket) (displayItem (grammar depth)) first e where
  starts := by
    obtain ⟨head, more, same, _, starts⟩ := element.starts
    exact ⟨head, more, same, starts⟩
  reads _ isStop := displayItem_read element deep (ends_of_stop closes isStop)

/-- Behind the first item of a display stand the others, and its closing bracket. -/
private theorem items_read {α : Type} {item : Parser α} {found : List α}
    (items : List.Forall₂ (IsItem startsItem (.op bracket) item) others found) (closes : bracket ∈ closingBrackets)
    (trailing : Bool) (next : Token) (rest : List Token) : ∃ stop second tail,
      behindCommas others ++ (closing trailing bracket ++ next :: rest) = stop :: second :: tail ∧
      stop ∈ expressionEnds ∧
      startsClause (stop :: second :: tail) = some (false, stop :: second :: tail) ∧
      accepts (.op ":") (stop :: second :: tail) = some (false, stop :: second :: tail) ∧
      moreItems item (stop :: second :: tail) =
        some ((found, trailing || !found.isEmpty), .op bracket :: next :: rest) := by
  obtain ⟨_, noComma, noItem⟩ := bracket_token closes
  obtain ⟨stop, second, tail, same, isStop⟩ : ∃ stop second tail,
      behindCommas others ++ (closing trailing bracket ++ next :: rest) = stop :: second :: tail ∧
      stop ∈ [.op ",", .op bracket] := by
    cases trailing with
    | true => exact behind_item (.op bracket) others (.head _) (.op bracket) (next :: rest)
    | false => exact behind_item (.op bracket) others (.tail _ (.head _)) next rest
  have words : ∀ word, stop ≠ .word word := by
    rintro word rfl
    simp at isStop
  have noColon : stop ≠ .op ":" := by
    rintro rfl
    simp only [List.mem_cons, List.not_mem_nil, or_false, Token.op.injEq] at isStop
    rcases isStop with isStop | rfl
    · revert isStop
      decide
    · revert closes
      decide
  refine ⟨stop, second, tail, same, ends_of_stop closes isStop, ?_, accepts_other noColon _, ?_⟩
  · rw [startsClause]
    · exact fun _ is => words "for" (List.cons.inj is).1
    · exact fun _ is => words "async" (List.cons.inj is).1
  · rw [← same, moreItems]
    cases trailing with
    | true => exact moreStarting_trailing items noItem (next :: rest)
    | false => exact moreStarting_read items noComma next rest

/-- The first token of an element opens no display by itself. -/
private theorem element_head (element : IsElement least first e) : ∃ head more, first = head :: more ∧
    (∀ text, text ∉ startingOps → head ≠ .op text) ∧ head ≠ .word "yield" := by
  obtain ⟨head, more, rfl, ordinary⟩ := StandFor.starts element.stands
  refine ⟨head, more, rfl, ordinary, ?_⟩
  rintro rfl
  have read := element.reads (Nat.le_succ least) .newline (by decide) []
  have noExpression : (grammar (least + 1)).expression (.word "yield" :: more ++ [.newline]) = none :=
    expressionHere_refuses rfl rfl
  rw [noExpression] at read
  cases read

/-- Elements in round brackets: a tuple, or what stands there alone. -/
theorem parenthesized_read (element : IsElement least first e) (each : List.Forall₂ (IsElement least) others found)
    (deep : least ≤ depth) (trailing : Bool) (next : Token) (rest : List Token) :
    parenthesized (grammar depth) (first ++ behindCommas others ++ (closing trailing ")" ++ next :: rest)) =
      some (if trailing || !found.isEmpty then .tuple (e :: found) else e, next :: rest) := by
  have closes : ")" ∈ closingBrackets := by decide
  have items := each.imp fun _ _ other => IsElement.item other deep closes
  obtain ⟨stop, second, tail, same, ends, noClause, _, more⟩ := items_read items closes trailing next rest
  have isItem := displayItem_read element deep ends second tail
  obtain ⟨head, behind, rfl, ordinary, noYield⟩ := element_head element
  rw [List.append_assoc, same, List.cons_append]
  rw [List.cons_append] at isItem
  rw [parenthesized, bind_of_some (accepts_other (ordinary ")" (by decide)) _), if_neg (by decide),
    bind_of_some (sees_other noYield _), if_neg (by decide), bind_of_some isItem, bind_of_some noClause,
    if_neg (by decide), bind_of_some more]
  dsimp only
  rw [bind_of_some (expect_same _ _)]
  cases trailing || !found.isEmpty with
  | true => rfl
  | false =>
    rw [if_neg (by decide), if_neg (by decide)]
    cases e with
    | starred operand => exact absurd rfl (element.settled.single operand)
    | _ => rfl

/-- Elements in square brackets are a list. -/
theorem bracketed_read (element : IsElement least first e) (each : List.Forall₂ (IsElement least) others found)
    (deep : least ≤ depth) (trailing : Bool) (next : Token) (rest : List Token) :
    bracketed (grammar depth) (first ++ behindCommas others ++ (closing trailing "]" ++ next :: rest)) =
      some (.list (e :: found), next :: rest) := by
  have closes : "]" ∈ closingBrackets := by decide
  have items := each.imp fun _ _ other => IsElement.item other deep closes
  obtain ⟨stop, second, tail, same, ends, noClause, _, more⟩ := items_read items closes trailing next rest
  have isItem := displayItem_read element deep ends second tail
  obtain ⟨head, behind, rfl, ordinary, _⟩ := element_head element
  rw [List.append_assoc, same, List.cons_append]
  rw [List.cons_append] at isItem
  rw [bracketed, bind_of_some (accepts_other (ordinary "]" (by decide)) _), if_neg (by decide), bind_of_some isItem,
    bind_of_some noClause, if_neg (by decide), bind_of_some more]
  dsimp only
  rw [bind_of_some (expect_same _ _)]
  rfl

/-- Elements in braces are a set. -/
theorem braced_read (element : IsElement least first e) (each : List.Forall₂ (IsElement least) others found)
    (deep : least ≤ depth) (trailing : Bool) (next : Token) (rest : List Token) :
    braced (grammar depth) (first ++ behindCommas others ++ (closing trailing "\x7d" ++ next :: rest)) =
      some (.set (e :: found), next :: rest) := by
  have closes : "\x7d" ∈ closingBrackets := by decide
  have items := each.imp fun _ _ other => IsElement.item other deep closes
  obtain ⟨stop, second, tail, same, ends, noClause, noColon, more⟩ := items_read items closes trailing next rest
  have isItem := displayItem_read element deep ends second tail
  have unnamed := StandFor.names_nothing element.stands ends (second :: tail)
  obtain ⟨head, behind, rfl, ordinary, _⟩ := element_head element
  rw [List.append_assoc, same, List.cons_append]
  rw [List.cons_append] at isItem unnamed
  rw [braced, bind_of_some (accepts_other (ordinary "\x7d" (by decide)) _), if_neg (by decide),
    bind_of_some (sees_other (ordinary "**" (by decide)) _), if_neg (by decide), bind_of_some unnamed,
    bind_of_some isItem, bind_of_some noColon, if_neg (by decide), bind_of_some noClause, if_neg (by decide),
    bind_of_some more]
  dsimp only
  rw [bind_of_some (expect_same _ _)]
  rfl

/-! ## Dictionaries -/

/-- The tokens are an entry of a dictionary. -/
def IsEntry (least : Nat) (tokens : List Token) (entry : Expr × Expr) : Prop :=
  ∃ key value, tokens = key ++ .op ":" :: value ∧ IsElement least key entry.1 ∧ IsElement least value entry.2

/-- An entry is an item of a dictionary. -/
private theorem IsEntry.item {tokens : List Token} {entry : Expr × Expr} (isEntry : IsEntry least tokens entry)
    (deep : least ≤ depth) : IsItem startsItem (.op "\x7d") (dictEntry (grammar depth)) tokens
      (some entry.1, entry.2) := by
  obtain ⟨key, value, rfl, isKey, isValue⟩ := isEntry
  constructor
  case starts =>
    obtain ⟨head, more, rfl, _, starts⟩ := isKey.starts
    exact ⟨head, _, rfl, starts⟩
  case reads =>
    intro stop isStop next rest
    have ends := ends_of_stop (by decide) isStop
    obtain ⟨head, more, rfl, ordinary⟩ := StandFor.starts isKey.stands
    have readKey := isKey.reads deep (.op ":") (by decide) (value ++ stop :: next :: rest)
    have readValue := isValue.stands deep stop ends next rest
    rw [List.append_assoc]
    rw [List.cons_append] at readKey ⊢
    rw [dictEntry, bind_of_some (accepts_other (ordinary "**" (by decide)) _), if_neg (by decide),
      List.cons_append, bind_of_some readKey, bind_of_some (expect_same _ _), bind_of_some readValue]
    rfl

/-- Entries in braces are a dictionary. -/
theorem braced_entries {entry : Expr × Expr} {found : List (Expr × Expr)} (isEntry : IsEntry least first entry)
    (each : List.Forall₂ (IsEntry least) others found) (deep : least ≤ depth) (trailing : Bool) (next : Token)
    (rest : List Token) :
    braced (grammar depth) (first ++ behindCommas others ++ (closing trailing "\x7d" ++ next :: rest)) =
      some (.dict ((some entry.1, entry.2) :: found.map fun e => (some e.1, e.2)), next :: rest) := by
  have closes : "\x7d" ∈ closingBrackets := by decide
  have items : List.Forall₂ (IsItem startsItem (.op "\x7d") (dictEntry (grammar depth))) others
      (found.map fun e => (some e.1, e.2)) := by
    rw [List.forall₂_map_right_iff]
    exact each.imp fun _ _ other => IsEntry.item other deep
  obtain ⟨stop, second, tail, same, ends, noClause, _, more⟩ := items_read items closes trailing next rest
  obtain ⟨key, value, rfl, isKey, isValue⟩ := isEntry
  have readValue := isValue.stands deep stop ends second tail
  obtain ⟨middle, behind, whole⟩ : ∃ middle behind, value ++ stop :: second :: tail = middle :: behind :=
    List.exists_cons_of_ne_nil (by simp)
  have colonEnds : Token.op ":" ∈ expressionEnds := by decide
  have readKey := displayItem_read isKey deep colonEnds middle behind
  have unnamed := StandFor.names_nothing isKey.stands colonEnds (middle :: behind)
  rw [← whole] at readKey unnamed
  obtain ⟨head, more', rfl, ordinary⟩ := StandFor.starts isKey.stands
  have single := isKey.settled.single
  rw [List.append_assoc, same, List.append_assoc]
  rw [List.cons_append] at readKey unnamed ⊢
  rw [braced, bind_of_some (accepts_other (ordinary "\x7d" (by decide)) _), if_neg (by decide),
    bind_of_some (sees_other (ordinary "**" (by decide)) _), if_neg (by decide), List.cons_append,
    bind_of_some unnamed, bind_of_some readKey, bind_of_some (accepts_same _ _), if_pos rfl]
  have entries : (do
      let value ← (grammar depth).expression
      if ← startsClause then
        let parts ← clauses (grammar depth)
        expect (.op "\x7d")
        return .dictComprehension entry.1 value parts
      else braced.entries (grammar depth) (some entry.1, value) : Parser Expr) (value ++ stop :: second :: tail) =
        some (.dict ((some entry.1, entry.2) :: found.map fun e => (some e.1, e.2)), next :: rest) := by
    rw [bind_of_some readValue, bind_of_some noClause, if_neg (by decide), braced.entries, bind_of_some more]
    dsimp only
    rw [bind_of_some (expect_same _ _)]
    rfl
  cases key : entry.1 with
  | starred operand => exact absurd key (single operand)
  | _ =>
    rw [key] at entries
    exact entries

end Grammar

/-! ## Operands -/

section

variable {least : Nat} {tokens : List Token} {e : Expr}

namespace IsOperand

theorem name {word name : String} (isName : nameOf? word = some name) : IsOperand 0 [.word word] (.name name) where
  starts := ⟨_, _, rfl, name_startsPlainly isName, startsItem_name isName⟩
  settled := .name name
  heads _ _ := .name isName

/-- A constant that is a word. -/
theorem word {word : String} (isConstant : word ∈ ["None", "True", "False"]) : ∃ e, IsOperand 0 [.word word] e := by
  simp only [List.mem_cons, List.not_mem_nil, or_false] at isConstant
  rcases isConstant with rfl | rfl | rfl <;>
    exact ⟨_, ⟨_, _, rfl, by decide, by decide⟩, Expr.IsSettled.literal _, fun _ _ => .atom fun _ _ => rfl⟩

theorem ellipsis : IsOperand 0 [.op "..."] (.literal .ellipsis) where
  starts := ⟨_, _, rfl, by decide, by decide⟩
  settled := .literal _
  heads _ _ := .atom fun _ _ => rfl

/-- What may stand behind an operand leaves its start as it is. -/
private theorem starts_append (operand : IsOperand least tokens e) (more : List Token) :
    ∃ first rest, tokens ++ more = first :: rest ∧ startsPlainly first = true ∧ startsItem first = true := by
  obtain ⟨first, rest, rfl, starts⟩ := operand.starts
  exact ⟨first, rest ++ more, rfl, starts⟩

theorem dotted (operand : IsOperand least tokens e) {word name : String} (isName : nameOf? word = some name) :
    IsOperand least (tokens ++ [.op ".", .word word]) (.attribute e name) where
  starts := operand.starts_append _
  settled := operand.settled.field name
  heads depth deep := (operand.heads depth deep).member isName

/-- A call that passes nothing on. -/
theorem call (operand : IsOperand least tokens e) : IsOperand least (tokens ++ [.op "(", .op ")"]) (.call e []) where
  starts := operand.starts_append _
  settled := operand.settled.call
  heads depth deep := (operand.heads depth deep).call fun _ _ => rfl

end IsOperand

private theorem settled_items {first : List Token} {others : List (List Token)} {found : List Expr}
    (isFirst : IsElement least first e) (each : List.Forall₂ (IsElement least) others found) :
    ∀ item ∈ e :: found, item.IsSettled := by
  refine List.forall_mem_cons.2 ⟨isFirst.settled, ?_⟩
  induction each with
  | nil => simp
  | cons element _ further => exact List.forall_mem_cons.2 ⟨element.settled, further⟩

namespace AreElements

theorem single (element : IsElement least tokens e) : AreElements least tokens :=
  ⟨tokens, e, [], [], by simp [behindCommas], element, .nil⟩

theorem cons (element : IsElement least tokens e) {more : List Token} (elements : AreElements least more) :
    AreElements least (tokens ++ .op "," :: more) := by
  obtain ⟨first, other, others, found, rfl, isFirst, each⟩ := elements
  exact ⟨tokens, e, first :: others, other :: found, by simp [behindCommas], element, .cons isFirst each⟩

theorem mono (elements : AreElements least tokens) {more : Nat} (le : least ≤ more) : AreElements more tokens := by
  obtain ⟨first, other, others, found, same, isFirst, each⟩ := elements
  exact ⟨first, other, others, found, same, isFirst.mono le, each.imp fun _ _ element => element.mono le⟩

/-- Elements in square brackets behind an operand. -/
theorem subscript {primary : List Token} (elements : AreElements least tokens) (operand : IsOperand least primary e) :
    ∃ index, IsOperand least (primary ++ .op "[" :: (tokens ++ [.op "]"])) (.subscript e index) := by
  obtain ⟨first, other, others, found, rfl, isFirst, each⟩ := elements
  have settled : (indexWith other found).IsSettled := by
    cases found with
    | nil =>
      cases other with
      | starred operand => exact absurd rfl (isFirst.settled.single operand)
      | _ => exact isFirst.settled
    | cons => exact .tuple (settled_items isFirst each)
  refine ⟨_, operand.starts_append _, operand.settled.subscript settled, fun depth deep => ?_⟩
  refine (operand.heads depth deep).subscript isFirst.stands deep (each.imp fun _ _ element => ?_)
  obtain ⟨head, more, same, _, isItem⟩ := element.starts
  exact Grammar.IsItem.slice element.stands deep ⟨head, more, same, isItem⟩

end AreElements

/-- The tokens are entries of a dictionary separated by commas. -/
def AreEntries (least : Nat) (tokens : List Token) : Prop :=
  ∃ first entry others found, tokens = first ++ behindCommas others ∧ IsEntry least first entry ∧
    List.Forall₂ (IsEntry least) others found

theorem Grammar.IsEntry.mono {entry : Expr × Expr} (isEntry : IsEntry least tokens entry) {more : Nat}
    (le : least ≤ more) : IsEntry more tokens entry := by
  obtain ⟨key, value, same, isKey, isValue⟩ := isEntry
  exact ⟨key, value, same, isKey.mono le, isValue.mono le⟩

namespace AreEntries

theorem single {entry : Expr × Expr} (isEntry : IsEntry least tokens entry) : AreEntries least tokens :=
  ⟨tokens, entry, [], [], by simp [behindCommas], isEntry, .nil⟩

theorem cons {entry : Expr × Expr} (isEntry : IsEntry least tokens entry) {more : List Token}
    (entries : AreEntries least more) : AreEntries least (tokens ++ .op "," :: more) := by
  obtain ⟨first, other, others, found, rfl, isFirst, each⟩ := entries
  exact ⟨tokens, entry, first :: others, other :: found, by simp [behindCommas], isEntry, .cons isFirst each⟩

theorem mono (entries : AreEntries least tokens) {more : Nat} (le : least ≤ more) : AreEntries more tokens := by
  obtain ⟨first, other, others, found, same, isFirst, each⟩ := entries
  exact ⟨first, other, others, found, same, isFirst.mono le, each.imp fun _ _ entry => entry.mono le⟩

end AreEntries

/-- The kinds of brackets. -/
inductive Bracket where
  | round
  | square
  | curly
deriving DecidableEq, Repr

namespace Bracket

def opens : Bracket → String
  | round => "("
  | square => "["
  | curly => "\x7b"

def closes : Bracket → String
  | round => ")"
  | square => "]"
  | curly => "\x7d"

theorem matching (bracket : Bracket) : closerOf? bracket.opens = some bracket.closes := by
  cases bracket <;> rfl

private theorem starts (bracket : Bracket) (inside : List Token) : ∃ first more,
    .op bracket.opens :: inside = first :: more ∧ startsPlainly first = true ∧ startsItem first = true :=
  ⟨_, _, rfl, by cases bracket <;> decide, by cases bracket <;> decide⟩

/-- An operand that a bracket opens. -/
private theorem operand (bracket : Bracket) {inside : List Token} (settled : e.IsSettled)
    (reads : ∀ depth, least ≤ depth → ∀ next rest, Grammar.atom (grammar depth)
      (.op bracket.opens :: inside ++ next :: rest) = some (e, next :: rest)) :
    IsOperand least (.op bracket.opens :: inside) e where
  starts := bracket.starts inside
  settled := settled
  heads depth deep := .atom (reads depth deep)

/-- Brackets with nothing inside. -/
theorem empty (bracket : Bracket) : ∃ e, IsOperand 0 [.op bracket.opens, .op bracket.closes] e := by
  cases bracket with
  | round => exact ⟨_, round.operand (.tuple (by simp)) fun _ _ _ _ => rfl⟩
  | square => exact ⟨_, square.operand (.list (by simp)) fun _ _ _ _ => rfl⟩
  | curly =>
    have none : ∀ e ∈ ([] : List (Expr × Expr)), e.1.IsSettled ∧ e.2.IsSettled := by simp
    exact ⟨_, curly.operand (.dict none) fun _ _ _ _ => rfl⟩

/-- Brackets around elements. -/
theorem around (bracket : Bracket) (elements : AreElements least tokens) (trailing : Bool) :
    ∃ e, IsOperand least (.op bracket.opens :: (tokens ++ closing trailing bracket.closes)) e := by
  obtain ⟨first, e, others, found, rfl, isFirst, each⟩ := elements
  have settled := settled_items isFirst each
  cases bracket with
  | round =>
    have whole : (if trailing || !found.isEmpty then Expr.tuple (e :: found) else e).IsSettled := by
      split
      · exact .tuple settled
      · exact isFirst.settled
    refine ⟨_, round.operand whole fun depth deep next rest => ?_⟩
    simpa [Grammar.atom, opens, closes] using parenthesized_read isFirst each deep trailing next rest
  | square =>
    refine ⟨.list (e :: found), square.operand (.list settled) fun depth deep next rest => ?_⟩
    simpa [Grammar.atom, opens, closes] using bracketed_read isFirst each deep trailing next rest
  | curly =>
    refine ⟨.set (e :: found), curly.operand (.set settled) fun depth deep next rest => ?_⟩
    simpa [Grammar.atom, opens, closes] using braced_read isFirst each deep trailing next rest

/-- Braces around the entries of a dictionary. -/
theorem aroundEntries (entries : AreEntries least tokens) (trailing : Bool) :
    ∃ e, IsOperand least (.op curly.opens :: (tokens ++ closing trailing curly.closes)) e := by
  obtain ⟨first, entry, others, found, rfl, isFirst, each⟩ := entries
  have settled : ∀ item ∈ entry :: found, item.1.IsSettled ∧ item.2.IsSettled := by
    have parts {tokens : List Token} {entry : Expr × Expr} (isEntry : IsEntry least tokens entry) :
        entry.1.IsSettled ∧ entry.2.IsSettled := by
      obtain ⟨_, _, _, key, value⟩ := isEntry
      exact ⟨key.settled, value.settled⟩
    refine List.forall_mem_cons.2 ⟨parts isFirst, ?_⟩
    induction each with
    | nil => simp
    | cons other _ further => exact List.forall_mem_cons.2 ⟨parts other, further⟩
  refine ⟨_, curly.operand (.dict settled) fun depth deep next rest => ?_⟩
  simpa [Grammar.atom, opens, closes] using braced_entries isFirst each deep trailing next rest

end Bracket

end

end EachSubject.Source
