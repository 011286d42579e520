import EachSubject.Proofs.Source.Cutting
import EachSubject.Proofs.Source.Declarations
import EachSubject.Proofs.Source.Displays
import EachSubject.Proofs.Source.Numerals
import EachSubject.Proofs.Source.Quotation

/-!
# Plain texts

Names, constants, attributes, subscripts, unions and what stands in brackets, on one line: such a text is a complete
expression, unless its brackets nest too deep. The texts of types are of this kind, and those of literals.
-/

namespace EachSubject.Source

open EachSubject.Source.Parser Grammar

/-! ## Characters -/

/-- White space within a line. -/
def IsBlank (text : List Char) : Prop := ∀ c ∈ text, isInlineSpace c = true

/-- What separates a constant from what follows it. -/
def separators : List Char := [' ', '\t', '\x0c', '\n', ',', ':', ';', ')', ']', '\x7d', '|', '+', '-']

/-- What may stand behind an operand. -/
def operandEnds : List Char := '.' :: '(' :: '[' :: separators

/-- The text is this token, whatever separates it from what follows. -/
structure IsWritten (text : List Char) (token : Token) : Prop where
  onLine : isInline text = true
  reads : ∀ c ∈ separators, ∀ more, token? (text ++ c :: more) = some (token, c :: more)

/-- The signs of numbers, with their tokens. -/
def signs : List (Char × String) := [('+', "+"), ('-', "-")]

namespace Bracket

def opening : Bracket → Char
  | round => '('
  | square => '['
  | curly => '\x7b'

def closing : Bracket → Char
  | round => ')'
  | square => ']'
  | curly => '\x7d'

end Bracket

/-- White space in front of a closing bracket, possibly with a comma. -/
inductive IsTail : Bool → List Char → Prop where
  | blank {text : List Char} (blank : IsBlank text) : IsTail false text
  | comma {before behind : List Char} (blankBefore : IsBlank before) (blankBehind : IsBlank behind) :
      IsTail true (before ++ ',' :: behind)

/-! ## The grammar -/

/-- The parts of plain texts. -/
inductive TextPart where
  /-- What attributes and subscripts may be added to. -/
  | operand
  /-- A number, possibly with a sign. -/
  | number
  /-- What unions are made of. -/
  | member
  /-- Members joined by bars. -/
  | union
  /-- Unions separated by commas. -/
  | items
  /-- A key and its value. -/
  | entry
  /-- Keys with their values, separated by commas. -/
  | entries
deriving DecidableEq, Repr

/-- The text is such a part, in which brackets nest to this depth at most. -/
inductive PlainText : TextPart → Nat → List Char → Prop where
  | name {depth : Nat} {name : String} (isName : Text.isName name = true) : PlainText .operand depth name.toList
  | word {depth : Nat} {word : String} (isConstant : word ∈ ["None", "True", "False"]) :
      PlainText .operand depth word.toList
  | ellipsis {depth : Nat} : PlainText .operand depth ['.', '.', '.']
  | empty {depth : Nat} (bracket : Bracket) {between : List Char} (blank : IsBlank between) :
      PlainText .operand (depth + 1) (bracket.opening :: (between ++ [bracket.closing]))
  | emptySet {depth : Nat} {before between : List Char} (blankBefore : IsBlank before) (blank : IsBlank between) :
      PlainText .operand (depth + 1) ("set".toList ++ (before ++ '(' :: (between ++ [')'])))
  | display {depth : Nat} (bracket : Bracket) {before items tail : List Char} {trailing : Bool}
      (blank : IsBlank before) (items_ : PlainText .items depth items) (isTail : IsTail trailing tail) :
      PlainText .operand (depth + 1) (bracket.opening :: (before ++ (items ++ (tail ++ [bracket.closing]))))
  | dictionary {depth : Nat} {before entries tail : List Char} {trailing : Bool} (blank : IsBlank before)
      (entries_ : PlainText .entries depth entries) (isTail : IsTail trailing tail) :
      PlainText .operand (depth + 1) ('\x7b' :: (before ++ (entries ++ (tail ++ ['\x7d']))))
  | dotted {depth : Nat} {object before behind : List Char} {name : String}
      (object_ : PlainText .operand depth object) (blankBefore : IsBlank before) (blankBehind : IsBlank behind)
      (isName : Text.isName name = true) :
      PlainText .operand depth (object ++ (before ++ '.' :: (behind ++ name.toList)))
  | subscript {depth : Nat} {object before inside items behind : List Char}
      (object_ : PlainText .operand (depth + 1) object) (blankBefore : IsBlank before) (blankInside : IsBlank inside)
      (items_ : PlainText .items depth items) (blankBehind : IsBlank behind) :
      PlainText .operand (depth + 1) (object ++ (before ++ '[' :: (inside ++ (items ++ (behind ++ [']'])))))
  | numeral {depth : Nat} {text : List Char} {value : Number} (written : IsWritten text (.number value)) :
      PlainText .number depth text
  | signed {depth : Nat} {sign : Char} {op : String} {behind text : List Char} {value : Number}
      (isSign : (sign, op) ∈ signs) (blank : IsBlank behind) (written : IsWritten text (.number value)) :
      PlainText .number depth (sign :: (behind ++ text))
  | operand {depth : Nat} {text : List Char} (operand : PlainText .operand depth text) : PlainText .member depth text
  | string {depth : Nat} {text : List Char} {value : StringToken} (written : IsWritten text (.string value))
      (plain : value.isFormatted = false)
      (valid : (if value.isBytes then (bodyBytes? value.isRaw value.body).isSome
        else (bodyText? value.isRaw value.body).isSome) = true) : PlainText .member depth text
  | number {depth : Nat} {text : List Char} (number : PlainText .number depth text) : PlainText .member depth text
  | sum {depth : Nat} {left before behind right : List Char} {sign : Char} {op : String} {value : Number}
      (left_ : PlainText .number depth left) (isSign : (sign, op) ∈ signs) (blankBefore : IsBlank before)
      (blankBehind : IsBlank behind) (written : IsWritten right (.number value)) :
      PlainText .member depth (left ++ (before ++ sign :: (behind ++ right)))
  | member {depth : Nat} {text : List Char} (member : PlainText .member depth text) : PlainText .union depth text
  | union {depth : Nat} {left before behind right : List Char} (left_ : PlainText .member depth left)
      (blankBefore : IsBlank before) (blankBehind : IsBlank behind) (right_ : PlainText .union depth right) :
      PlainText .union depth (left ++ (before ++ '|' :: (behind ++ right)))
  | item {depth : Nat} {text : List Char} (item : PlainText .union depth text) : PlainText .items depth text
  | items {depth : Nat} {first before behind others : List Char} (first_ : PlainText .union depth first)
      (blankBefore : IsBlank before) (blankBehind : IsBlank behind) (others_ : PlainText .items depth others) :
      PlainText .items depth (first ++ (before ++ ',' :: (behind ++ others)))
  | entry {depth : Nat} {key before behind value : List Char} (key_ : PlainText .union depth key)
      (blankBefore : IsBlank before) (blankBehind : IsBlank behind) (value_ : PlainText .union depth value) :
      PlainText .entry depth (key ++ (before ++ ':' :: (behind ++ value)))
  | lastEntry {depth : Nat} {text : List Char} (entry : PlainText .entry depth text) : PlainText .entries depth text
  | entries {depth : Nat} {first before behind others : List Char} (first_ : PlainText .entry depth first)
      (blankBefore : IsBlank before) (blankBehind : IsBlank behind) (others_ : PlainText .entries depth others) :
      PlainText .entries depth (first ++ (before ++ ',' :: (behind ++ others)))

/-- Brackets may nest deeper than they do. -/
theorem PlainText.deeper {part : TextPart} {depth : Nat} {text : List Char} (plain : PlainText part depth text) :
    PlainText part (depth + 1) text := by
  induction plain with
  | name isName => exact .name isName
  | word isConstant => exact .word isConstant
  | ellipsis => exact .ellipsis
  | empty bracket blank => exact .empty bracket blank
  | emptySet blankBefore blank => exact .emptySet blankBefore blank
  | display bracket blank _ isTail items => exact .display bracket blank items isTail
  | dictionary blank _ isTail entries => exact .dictionary blank entries isTail
  | dotted _ blankBefore blankBehind isName object => exact .dotted object blankBefore blankBehind isName
  | subscript _ blankBefore blankInside _ blankBehind object items =>
    exact .subscript object blankBefore blankInside items blankBehind
  | numeral written => exact .numeral written
  | signed isSign blank written => exact .signed isSign blank written
  | operand _ operand => exact .operand operand
  | string written plain valid => exact .string written plain valid
  | number _ number => exact .number number
  | sum _ isSign blankBefore blankBehind written left => exact .sum left isSign blankBefore blankBehind written
  | member _ member => exact .member member
  | union _ blankBefore blankBehind _ left right => exact .union left blankBefore blankBehind right
  | item _ item => exact .item item
  | items _ blankBefore blankBehind _ first others => exact .items first blankBefore blankBehind others
  | entry _ blankBefore blankBehind _ key value => exact .entry key blankBefore blankBehind value
  | lastEntry _ entry => exact .lastEntry entry
  | entries _ blankBefore blankBehind _ first others => exact .entries first blankBefore blankBehind others

/-- The text is plain, possibly with white space around it. -/
def IsPlain (depth : Nat) (text : String) : Prop :=
  ∃ before plain behind, text.toList = before ++ (plain ++ behind) ∧ IsBlank before ∧ PlainText .union depth plain ∧
    IsBlank behind

/-! ## Lines -/

/-- What no text of a part starts with: white space, and what would continue a bar or a sign in front of it. -/
def offending : List Char := '=' :: '>' :: spacing

/-- The text starts as a part does. -/
def StartsWell (text : List Char) : Prop := ∃ c more, text = c :: more ∧ c ∉ offending

theorem StartsWell.append {text : List Char} (starts : StartsWell text) (more : List Char) :
    StartsWell (text ++ more) := by
  obtain ⟨c, rest, rfl, ordinary⟩ := starts
  exact ⟨c, rest ++ more, rfl, ordinary⟩

private theorem space_cases {c : Char} (inline : isInlineSpace c = true) : c ∈ [' ', '\t', '\x0c'] := by
  simp only [isInlineSpace, Bool.or_eq_true, beq_iff_eq] at inline
  rcases inline with (rfl | rfl) | rfl <;> decide

namespace IsBlank

variable {text : List Char}

@[simp]
theorem nil : IsBlank [] := fun _ impossible => absurd impossible List.not_mem_nil

@[simp]
theorem space : IsBlank [' '] := by simp [IsBlank, isInlineSpace]

theorem onLine (blank : IsBlank text) : isInline text = true := by
  refine List.all_eq_true.2 fun c inside => ?_
  exact (by decide : ∀ c ∈ [' ', '\t', '\x0c'], (c != nulCharacter && c != '\r' && c != '\n') = true) c
    (space_cases (blank c inside))

/-- What may stand behind white space may be followed by it, too. -/
theorem followed (blank : IsBlank text) {follow : List Char} (spaces : ∀ c ∈ [' ', '\t', '\x0c'], c ∈ follow) {c : Char}
    (follows : c ∈ follow) (more : List Char) : ∃ d rest, text ++ c :: more = d :: rest ∧ d ∈ follow := by
  cases text with
  | nil => exact ⟨c, more, rfl, follows⟩
  | cons d text => exact ⟨d, text ++ c :: more, rfl, spaces d (space_cases (blank d List.mem_cons_self))⟩

/-- White space in front of a part does not continue an operator. -/
theorem alone (blank : IsBlank text) {other : List Char} (starts : StartsWell other) (more : List Char) :
    ∃ d rest, text ++ (other ++ more) = d :: rest ∧ d ≠ '=' ∧ d ≠ '>' := by
  cases text with
  | nil =>
    obtain ⟨d, rest, rfl, ordinary⟩ := starts
    simp only [offending, List.mem_cons, not_or] at ordinary
    exact ⟨d, rest ++ more, rfl, ordinary.1, ordinary.2.1⟩
  | cons d text =>
    exact ⟨d, text ++ (other ++ more), rfl, (by decide : ∀ d ∈ [' ', '\t', '\x0c'], d ≠ '=' ∧ d ≠ '>') d
      (space_cases (blank d List.mem_cons_self))⟩

end IsBlank

/-! ## Tokens -/

/-- Within a line, in front of what may follow it, the text is read as these tokens. -/
structure Gives (follow : List Char) (depth : Nat) (text : List Char) (tokens : List Token) : Prop where
  onLine : isInline text = true
  nests : Nests depth tokens
  reads : ∀ (closers : List String), ∀ c ∈ follow, ∀ more,
    Reads closers (text ++ c :: more) tokens closers (c :: more)

/-- The characters between parts, with their tokens. -/
def joints : List (Char × String) := ('|', "|") :: (',', ",") :: (':', ":") :: signs

private theorem joint_read {c d : Char} {op : String} (isJoint : (c, op) ∈ joints) (noEquals : d ≠ '=')
    (noArrow : d ≠ '>') (rest : List Char) : token? (c :: d :: rest) = some (.op op, d :: rest) := by
  simp only [joints, signs, List.mem_cons, Prod.mk.injEq, List.not_mem_nil, or_false] at isJoint
  rcases isJoint with ⟨rfl, rfl⟩ | ⟨rfl, rfl⟩ | ⟨rfl, rfl⟩ | ⟨rfl, rfl⟩ | ⟨rfl, rfl⟩ <;>
    simp [token?, operator?, operators, drop?, Ne.symm noEquals, Ne.symm noArrow, isWordChar, isQuote]

private theorem sign_joint {c : Char} {op : String} (isSign : (c, op) ∈ signs) : (c, op) ∈ joints :=
  List.mem_cons_of_mem _ (List.mem_cons_of_mem _ (List.mem_cons_of_mem _ isSign))

private theorem joint_plain : ∀ joint ∈ joints, (Token.op joint.2).isNeutral = true ∧
    joint.1 ∈ separators ∧ joint.1 != '\x00' ∧ joint.1 != '\r' ∧ joint.1 != '\n' := by
  decide

namespace Gives

variable {follow : List Char} {depth : Nat} {text other : List Char} {tokens others : List Token}

theorem separated (gives : Gives operandEnds depth text tokens) : Gives separators depth text tokens :=
  { gives with
    reads := fun closers c among =>
      gives.reads closers c ((by decide : ∀ c ∈ separators, c ∈ operandEnds) c among) }

/-- White space in front of a part. -/
theorem behindBlank (gives : Gives follow depth text tokens) {blanks : List Char} (blank : IsBlank blanks) :
    Gives follow depth (blanks ++ text) tokens where
  onLine := by rw [isInline_append, blank.onLine, gives.onLine]; rfl
  nests := gives.nests
  reads closers c among more := by
    rw [List.append_assoc]
    exact (gives.reads closers c among more).blanks blank

/-- A part, and behind it another one that starts with what may follow. -/
theorem append {behind : List Char} (gives : Gives follow depth text tokens)
    (starts : ∃ c more, other = c :: more ∧ c ∈ follow) (right : Gives behind depth other others) :
    Gives behind depth (text ++ other) (tokens ++ others) where
  onLine := by rw [isInline_append, gives.onLine, right.onLine]; rfl
  nests := gives.nests.append right.nests
  reads closers c among more := by
    obtain ⟨first, rest, rfl, follows⟩ := starts
    have reads := (gives.reads closers first follows (rest ++ c :: more)).append (right.reads closers c among more)
    rwa [List.append_assoc]

/-- A part with white space behind it. -/
theorem spaced (gives : Gives separators depth text tokens) {blanks : List Char} (blank : IsBlank blanks) :
    Gives separators depth (text ++ blanks) tokens where
  onLine := by rw [isInline_append, gives.onLine, blank.onLine]; rfl
  nests := gives.nests
  reads closers c among more := by
    obtain ⟨d, rest, same, follows⟩ := blank.followed (by decide) among more
    have spaces : Reads closers (blanks ++ c :: more) [] closers (c :: more) := Reads.done.blanks blank
    rw [List.append_assoc]
    rw [same] at spaces ⊢
    simpa using (gives.reads closers d follows rest).append spaces

/-- White space between two parts. -/
theorem appendBehind {behind : List Char} (gives : Gives follow depth text tokens) {blanks : List Char}
    (blank : IsBlank blanks) (spaces : ∀ c ∈ [' ', '\t', '\x0c'], c ∈ follow)
    (starts : ∃ c more, other = c :: more ∧ c ∈ follow) (right : Gives behind depth other others) :
    Gives behind depth (text ++ (blanks ++ other)) (tokens ++ others) := by
  refine gives.append ?_ (right.behindBlank blank)
  obtain ⟨first, rest, rfl, follows⟩ := starts
  exact blank.followed spaces follows rest

/-- A character between parts, with the part behind it. -/
theorem joint {c : Char} {op : String} (isJoint : (c, op) ∈ joints) {blanks : List Char} (blank : IsBlank blanks)
    (right : Gives follow depth other others) (starts : StartsWell other) :
    Gives follow depth (c :: (blanks ++ other)) (.op op :: others) where
  onLine := by
    obtain ⟨_, _, noNul, noReturn, noNewline⟩ := joint_plain _ isJoint
    rw [isInline_cons, isInline_append, blank.onLine, right.onLine, noNul, noReturn, noNewline]
    rfl
  nests := .neutral (joint_plain _ isJoint).1 right.nests
  reads closers d among more := by
    have behind := (right.reads closers d among more).blanks blank
    obtain ⟨e, rest, same, noEquals, noArrow⟩ := blank.alone starts (d :: more)
    rw [List.cons_append, List.append_assoc]
    rw [same] at behind ⊢
    exact .token (joint_read isJoint noEquals noArrow rest) (turned_neutral (joint_plain _ isJoint).1 _) behind

/-- Two parts with a character between them. -/
theorem joined {c : Char} {op : String} (left : Gives separators depth text tokens) (isJoint : (c, op) ∈ joints)
    {before behind : List Char} (blankBefore : IsBlank before) (blankBehind : IsBlank behind)
    (right : Gives separators depth other others) (starts : StartsWell other) :
    Gives separators depth (text ++ (before ++ c :: (behind ++ other))) (tokens ++ .op op :: others) :=
  left.appendBehind blankBefore (by decide) ⟨c, _, rfl, (joint_plain _ isJoint).2.1⟩
    (.joint isJoint blankBehind right starts)

/-- A part with brackets around it. -/
theorem bracketed (bracket : Bracket) (gives : Gives separators depth text tokens) :
    Gives follow (depth + 1) (bracket.opening :: (text ++ [bracket.closing]))
      (.op bracket.opens :: (tokens ++ [.op bracket.closes])) where
  onLine := by cases bracket <;> simp [Bracket.opening, Bracket.closing, gives.onLine]
  nests := .enclosed bracket.matching gives.nests
  reads closers c _ more := by
    have inside := gives.reads (bracket.closes :: closers) bracket.closing (by cases bracket <;> decide) (c :: more)
    rw [List.cons_append, List.append_assoc]
    cases bracket with
    | round => exact Reads.openParenthesis.append (inside.append Reads.closeParenthesis)
    | square => exact Reads.openBracket.append (inside.append Reads.closeBracket)
    | curly =>
      exact Reads.append (.token rfl rfl .done) (inside.append (.token rfl rfl .done))

theorem blanks (blank : IsBlank text) : Gives separators depth text [] where
  onLine := blank.onLine
  nests := .nil
  reads _ _ _ _ := Reads.done.blanks blank

/-- What stands in front of a closing bracket. -/
theorem tail (gives : Gives separators depth text tokens) {trailing : Bool} (isTail : IsTail trailing other) :
    Gives separators depth (text ++ other) (tokens ++ if trailing then [.op ","] else []) := by
  cases isTail with
  | blank blank => simpa using gives.spaced blank
  | @comma before behind blankBefore blankBehind =>
    have comma : Gives separators depth (',' :: behind) [.op ","] :=
      { onLine := by simpa using blankBehind.onLine
        nests := .plain rfl
        reads := fun _ _ _ _ => Reads.comma.append (Reads.done.blanks blankBehind) }
    exact gives.appendBehind blankBefore (by decide) ⟨',', behind, rfl, by decide⟩ comma

theorem word {word : String} (isWord : Text.isIdentifier word = true) :
    Gives operandEnds depth word.toList [.word word] where
  onLine := isInline_iff.2
    ⟨identifier_clean isWord, fun inside => absurd (identifier_wordChars isWord inside) (by decide)⟩
  nests := .plain rfl
  reads _ c among := Reads.word isWord ((by decide : ∀ c ∈ operandEnds, endsWord c = true) c among)

/-- A point with a name behind it. -/
theorem point {blanks : List Char} (blank : IsBlank blanks) {word : String} (isWord : Text.isIdentifier word = true) :
    Gives operandEnds depth ('.' :: (blanks ++ word.toList)) [.op ".", .word word] where
  onLine := by
    have name : Gives operandEnds depth word.toList [.word word] := .word isWord
    simp [blank.onLine, name.onLine]
  nests := .plain rfl
  reads closers c among more := by
    have name : Gives operandEnds depth word.toList [.word word] := .word isWord
    have behind := (name.reads closers c among more).blanks blank
    obtain ⟨d, rest, same, noDigit, noPoint⟩ : ∃ d rest, blanks ++ (word.toList ++ c :: more) = d :: rest ∧
        d.isDigit = false ∧ d ≠ '.' := by
      cases blanks with
      | nil =>
        obtain ⟨d, rest, same, noDigit, noPoint, _⟩ := identifier_head isWord
        exact ⟨d, rest ++ c :: more, by rw [same]; rfl, noDigit, noPoint⟩
      | cons d blanks =>
        exact ⟨d, _, rfl, (by decide : ∀ d ∈ [' ', '\t', '\x0c'], d.isDigit = false ∧ d ≠ '.') d
          (space_cases (blank d List.mem_cons_self))⟩
    rw [List.cons_append, List.append_assoc]
    rw [same] at behind ⊢
    exact (Reads.point noDigit noPoint).append behind

theorem ellipsis : Gives operandEnds depth ['.', '.', '.'] [.op "..."] where
  onLine := by decide
  nests := .plain rfl
  reads _ _ _ more := .token (by simp [token?, operator?, operators, drop?, isWordChar, isQuote]) rfl .done

theorem written {token : Token} (written : IsWritten text token) (isNeutral : token.isNeutral = true) :
    Gives separators depth text [token] where
  onLine := written.onLine
  nests := .neutral isNeutral .nil
  reads _ c among more := .token (written.reads c among more) (turned_neutral isNeutral _) .done

end Gives

/-! ## Where parts start -/

theorem word_startsWell {word : String} (isWord : Text.isIdentifier word = true) : StartsWell word.toList := by
  obtain ⟨c, more, same, _⟩ := identifier_head isWord
  refine ⟨c, more, same, fun inside => ?_⟩
  have noWordChar := (by decide : ∀ c ∈ offending, isWordChar c = false) c inside
  have among : c ∈ word.toList := by rw [same]; exact List.mem_cons_self
  rw [identifier_wordChars isWord among] at noWordChar
  cases noWordChar

/-- These characters only start operators. -/
private theorem token_op {c : Char} (special : c ∈ ['=', '>']) {rest middle : List Char} {token : Token}
    (found : token? (c :: rest) = some (token, middle)) : ∃ op, token = .op op := by
  have isOperator : token? (c :: rest) = (operator? (c :: rest)).map fun found => (.op found.1, found.2) := by
    simp only [List.mem_cons, List.not_mem_nil, or_false] at special
    rcases special with rfl | rfl <;> simp [token?, isWordChar, isQuote]
  rw [isOperator] at found
  obtain ⟨⟨op, _⟩, _, same⟩ := Option.map_eq_some_iff.1 found
  cases same
  exact ⟨op, rfl⟩

theorem IsWritten.startsWell {text : List Char} {token : Token} (written : IsWritten text token)
    (noOp : ∀ op, token ≠ .op op) : StartsWell text := by
  have read := written.reads ' ' (by decide) []
  cases text with
  | nil => exact absurd (by decide) (not_spacing read)
  | cons c rest =>
    refine ⟨c, rest, rfl, fun inside => ?_⟩
    have special : c ∈ ['=', '>'] := by
      simp only [offending, List.mem_cons] at inside
      rcases inside with rfl | rfl | spaces
      · decide
      · decide
      · exact absurd spaces (not_spacing read)
    obtain ⟨op, same⟩ := token_op special read
    exact noOp op same

/-! ## What the parts are -/

/-- The tokens are members joined by bars. -/
def AreMembers (least : Nat) (tokens : List Token) : Prop :=
  ∃ first e others found, tokens = first ++ others.flatMap (.op "|" :: ·) ∧ IsMember least first e ∧
    List.Forall₂ (IsMember least) others found

namespace AreMembers

variable {least : Nat} {tokens : List Token} {e : Expr}

theorem single (member : IsMember least tokens e) : AreMembers least tokens :=
  ⟨tokens, e, [], [], by simp, member, .nil⟩

theorem cons (member : IsMember least tokens e) {more : List Token} (members : AreMembers least more) :
    AreMembers least (tokens ++ .op "|" :: more) := by
  obtain ⟨first, other, others, found, rfl, isFirst, each⟩ := members
  exact ⟨tokens, e, first :: others, other :: found, by simp, member, .cons isFirst each⟩

theorem mono (members : AreMembers least tokens) {more : Nat} (le : least ≤ more) : AreMembers more tokens := by
  obtain ⟨first, other, others, found, same, isFirst, each⟩ := members
  exact ⟨first, other, others, found, same, isFirst.mono le, each.imp fun _ _ member => member.mono le⟩

theorem element (members : AreMembers least tokens) : ∃ e, IsElement (least + 1) tokens e := by
  obtain ⟨first, e, others, found, rfl, isFirst, each⟩ := members
  exact ⟨_, IsElement.union isFirst each⟩

end AreMembers

namespace TextPart

/-- What may stand behind a part. -/
def follow : TextPart → List Char
  | operand => operandEnds
  | _ => separators

/-- What the tokens of a part are, up to nested parts that need so many levels. -/
def Means : TextPart → Nat → List Token → Prop
  | operand, least, tokens => ∃ e, IsOperand least tokens e
  | number, _, tokens => ∃ e, IsFactor tokens e
  | member, least, tokens => ∃ e, IsMember least tokens e
  | union, least, tokens => AreMembers least tokens
  | items, least, tokens => AreElements (least + 1) tokens
  | entry, least, tokens => ∃ entry, IsEntry (least + 1) tokens entry
  | entries, least, tokens => AreEntries (least + 1) tokens

end TextPart

/-- The text of a part is read as these tokens, and they are what the part is. -/
structure IsPart (part : TextPart) (depth : Nat) (text : List Char) (tokens : List Token) : Prop where
  gives : Gives part.follow depth text tokens
  starts : StartsWell text
  means : part.Means text.length tokens

namespace IsPart

variable {depth : Nat} {text other before behind : List Char} {tokens others : List Token}

/-- An operand that a bracket opens. -/
private theorem opened (bracket : Bracket) {inside : List Char} {inner : List Token}
    (gives : Gives separators depth inside inner) {least : Nat} {e : Expr} (le : least ≤ inside.length + 1)
    (operand : IsOperand least (.op bracket.opens :: (inner ++ [.op bracket.closes])) e) :
    IsPart .operand (depth + 1) (bracket.opening :: (inside ++ [bracket.closing]))
      (.op bracket.opens :: (inner ++ [.op bracket.closes])) where
  gives := gives.bracketed bracket
  starts := ⟨bracket.opening, _, rfl, by cases bracket <;> decide⟩
  means := ⟨e, operand.mono (by simp; omega)⟩

theorem empty (bracket : Bracket) (blank : IsBlank text) :
    IsPart .operand (depth + 1) (bracket.opening :: (text ++ [bracket.closing]))
      [.op bracket.opens, .op bracket.closes] := by
  obtain ⟨e, operand⟩ := bracket.empty
  exact opened bracket (Gives.blanks blank) (Nat.zero_le _) operand

private theorem closing_append (trailing : Bool) (bracket : String) :
    closing trailing bracket = (if trailing then [.op ","] else []) ++ [.op bracket] := by
  cases trailing <;> rfl

/-- Brackets around a list, with white space and possibly a comma behind its last item. -/
private theorem surrounded (bracket : Bracket) (gives : Gives separators depth text tokens) (blank : IsBlank before)
    {trailing : Bool} {tail : List Char} (isTail : IsTail trailing tail) {e : Expr}
    (operand : IsOperand (text.length + 1) (.op bracket.opens :: (tokens ++ closing trailing bracket.closes)) e) :
    IsPart .operand (depth + 1) (bracket.opening :: (before ++ (text ++ (tail ++ [bracket.closing]))))
      (.op bracket.opens :: (tokens ++ closing trailing bracket.closes)) := by
  rw [closing_append, ← List.append_assoc] at operand ⊢
  have part := opened bracket ((gives.tail isTail).behindBlank blank) (by simp; omega) operand
  simpa using part

theorem display (bracket : Bracket) (items : IsPart .items depth text tokens) (blank : IsBlank before)
    {trailing : Bool} {tail : List Char} (isTail : IsTail trailing tail) :
    IsPart .operand (depth + 1) (bracket.opening :: (before ++ (text ++ (tail ++ [bracket.closing]))))
      (.op bracket.opens :: (tokens ++ closing trailing bracket.closes)) := by
  obtain ⟨_, operand⟩ := bracket.around items.means trailing
  exact surrounded bracket items.gives blank isTail operand

theorem dictionary (entries : IsPart .entries depth text tokens) (blank : IsBlank before) {trailing : Bool}
    {tail : List Char} (isTail : IsTail trailing tail) :
    IsPart .operand (depth + 1) ('\x7b' :: (before ++ (text ++ (tail ++ ['\x7d']))))
      (.op Bracket.curly.opens :: (tokens ++ closing trailing Bracket.curly.closes)) := by
  obtain ⟨_, operand⟩ := Bracket.aroundEntries entries.means trailing
  exact surrounded .curly entries.gives blank isTail operand

theorem dotted {name : String} (object : IsPart .operand depth text tokens) (blankBefore : IsBlank before)
    (blankBehind : IsBlank behind) (isName : Text.isName name = true) :
    IsPart .operand depth (text ++ (before ++ '.' :: (behind ++ name.toList))) (tokens ++ [.op ".", .word name]) where
  gives := object.gives.appendBehind blankBefore (by decide) ⟨'.', _, rfl, by decide⟩
    (.point blankBehind (Text.isName_isIdentifier isName))
  starts := object.starts.append _
  means := by
    obtain ⟨_, operand⟩ := object.means
    exact ⟨_, (operand.dotted (nameOf?_eq isName)).mono (by simp)⟩

theorem subscript {inside items : List Char} (object : IsPart .operand (depth + 1) text tokens)
    (blankBefore : IsBlank before) (blankInside : IsBlank inside) (index : IsPart .items depth items others)
    (blankBehind : IsBlank behind) :
    IsPart .operand (depth + 1) (text ++ (before ++ '[' :: (inside ++ (items ++ (behind ++ [']'])))))
      (tokens ++ .op "[" :: (others ++ [.op "]"])) where
  gives := by
    have between : Gives separators depth (inside ++ (items ++ behind)) others :=
      (Gives.spaced index.gives blankBehind).behindBlank blankInside
    have bracketed : Gives operandEnds (depth + 1) ('[' :: (inside ++ (items ++ behind) ++ [']']))
        (.op "[" :: (others ++ [.op "]"])) := between.bracketed .square
    rw [List.append_assoc, List.append_assoc] at bracketed
    exact object.gives.appendBehind blankBefore (by decide) ⟨'[', _, rfl, by decide⟩ bracketed
  starts := object.starts.append _
  means := by
    obtain ⟨_, operand⟩ := object.means
    have shorter : items.length + 1 ≤ (text ++ (before ++ '[' :: (inside ++ (items ++ (behind ++ [']']))))).length := by
      simp
      omega
    obtain ⟨_, subscript⟩ := (AreElements.mono index.means shorter).subscript (operand.mono (by simp))
    exact ⟨_, subscript⟩

theorem emptySet (blankBefore : IsBlank before) (blank : IsBlank text) :
    IsPart .operand (depth + 1) ("set".toList ++ (before ++ '(' :: (text ++ [')'])))
      [.word "set", .op "(", .op ")"] where
  gives := (Gives.word (by decide)).appendBehind blankBefore (by decide) ⟨'(', _, rfl, by decide⟩
    ((Gives.blanks blank).bracketed .round)
  starts := (word_startsWell (by decide)).append _
  means := ⟨_, (IsOperand.name (show nameOf? "set" = some "set" by decide)).call.mono (Nat.zero_le _)⟩

theorem signed {sign : Char} {op : String} {value : Number} (isSign : (sign, op) ∈ signs) (blank : IsBlank behind)
    (written : IsWritten text (.number value)) :
    IsPart .number depth (sign :: (behind ++ text)) [.op op, .number value] where
  gives := (Gives.written written rfl).joint (sign_joint isSign) blank (written.startsWell (by rintro op ⟨⟩))
  starts := ⟨sign, _, rfl, (by decide : ∀ sign ∈ signs, sign.1 ∉ offending) _ isSign⟩
  means := by
    obtain ⟨e, constant⟩ := IsConstant.number value
    exact ⟨_, constant.signed ((by decide : ∀ sign ∈ signs, sign.2 ∈ ["+", "-"]) _ isSign)⟩

theorem sum {sign : Char} {op : String} {value : Number} (left : IsPart .number depth text tokens)
    (isSign : (sign, op) ∈ signs) (blankBefore : IsBlank before) (blankBehind : IsBlank behind)
    (written : IsWritten other (.number value)) :
    IsPart .member depth (text ++ (before ++ sign :: (behind ++ other))) (tokens ++ [.op op, .number value]) where
  gives := Gives.joined left.gives (sign_joint isSign) blankBefore blankBehind (Gives.written written rfl)
    (written.startsWell (by rintro op ⟨⟩))
  starts := left.starts.append _
  means := by
    obtain ⟨_, factor⟩ := left.means
    obtain ⟨_, constant⟩ := IsConstant.number value
    exact ⟨_, (factor.sum constant ((by decide : ∀ sign ∈ signs, sign.2 ∈ ["+", "-"]) _ isSign)).mono (Nat.zero_le _)⟩

theorem string {value : StringToken} (written : IsWritten text (.string value)) (plain : value.isFormatted = false)
    (valid : (if value.isBytes then (bodyBytes? value.isRaw value.body).isSome
      else (bodyText? value.isRaw value.body).isSome) = true) : IsPart .member depth text [.string value] where
  gives := .written written rfl
  starts := written.startsWell (by rintro op ⟨⟩)
  means := by
    obtain ⟨e, constant⟩ := IsConstant.string plain valid
    exact ⟨e, constant.factor.member.mono (Nat.zero_le _)⟩

theorem union (left : IsPart .member depth text tokens) (blankBefore : IsBlank before) (blankBehind : IsBlank behind)
    (right : IsPart .union depth other others) :
    IsPart .union depth (text ++ (before ++ '|' :: (behind ++ other))) (tokens ++ .op "|" :: others) where
  gives := Gives.joined left.gives (by decide) blankBefore blankBehind right.gives right.starts
  starts := left.starts.append _
  means := by
    obtain ⟨_, member⟩ := left.means
    exact (AreMembers.cons (member.mono (by simp)) (AreMembers.mono right.means (by simp; omega)))

theorem items (first : IsPart .union depth text tokens) (blankBefore : IsBlank before) (blankBehind : IsBlank behind)
    (more : IsPart .items depth other others) :
    IsPart .items depth (text ++ (before ++ ',' :: (behind ++ other))) (tokens ++ .op "," :: others) where
  gives := Gives.joined first.gives (by decide) blankBefore blankBehind more.gives more.starts
  starts := first.starts.append _
  means := by
    obtain ⟨_, element⟩ := AreMembers.element first.means
    exact AreElements.cons (element.mono (by simp)) (AreElements.mono more.means (by simp; omega))

theorem entry (key : IsPart .union depth text tokens) (blankBefore : IsBlank before) (blankBehind : IsBlank behind)
    (value : IsPart .union depth other others) :
    IsPart .entry depth (text ++ (before ++ ':' :: (behind ++ other))) (tokens ++ .op ":" :: others) where
  gives := Gives.joined key.gives (by decide) blankBefore blankBehind value.gives value.starts
  starts := key.starts.append _
  means := by
    obtain ⟨k, isKey⟩ := AreMembers.element key.means
    obtain ⟨v, isValue⟩ := AreMembers.element value.means
    exact ⟨(k, v), tokens, others, rfl, isKey.mono (by simp), isValue.mono (by simp; omega)⟩

theorem entries (first : IsPart .entry depth text tokens) (blankBefore : IsBlank before) (blankBehind : IsBlank behind)
    (more : IsPart .entries depth other others) :
    IsPart .entries depth (text ++ (before ++ ',' :: (behind ++ other))) (tokens ++ .op "," :: others) where
  gives := Gives.joined first.gives (by decide) blankBefore blankBehind more.gives more.starts
  starts := first.starts.append _
  means := by
    obtain ⟨_, entry⟩ := first.means
    exact AreEntries.cons (entry.mono (by simp)) (AreEntries.mono more.means (by simp; omega))

end IsPart

/-- The text of a part is read as tokens that are what the part is. -/
theorem PlainText.tokens {part : TextPart} {depth : Nat} {text : List Char} (plain : PlainText part depth text) :
    ∃ tokens, IsPart part depth text tokens := by
  induction plain with
  | name isName =>
    have isWord := Text.isName_isIdentifier isName
    exact ⟨_, .word isWord, word_startsWell isWord, _, (IsOperand.name (nameOf?_eq isName)).mono (Nat.zero_le _)⟩
  | @word depth word isConstant =>
    have isWord := (by decide : ∀ word ∈ ["None", "True", "False"], Text.isIdentifier word = true) word isConstant
    obtain ⟨e, operand⟩ := IsOperand.word isConstant
    exact ⟨_, .word isWord, word_startsWell isWord, e, operand.mono (Nat.zero_le _)⟩
  | ellipsis => exact ⟨_, .ellipsis, ⟨'.', _, rfl, by decide⟩, _, IsOperand.ellipsis.mono (Nat.zero_le _)⟩
  | empty bracket blank => exact ⟨_, .empty bracket blank⟩
  | emptySet blankBefore blank => exact ⟨_, .emptySet blankBefore blank⟩
  | display bracket blank _ isTail further =>
    obtain ⟨tokens, items⟩ := further
    exact ⟨_, items.display bracket blank isTail⟩
  | dictionary blank _ isTail further =>
    obtain ⟨tokens, entries⟩ := further
    exact ⟨_, entries.dictionary blank isTail⟩
  | dotted _ blankBefore blankBehind isName further =>
    obtain ⟨tokens, object⟩ := further
    exact ⟨_, object.dotted blankBefore blankBehind isName⟩
  | subscript _ blankBefore blankInside _ blankBehind further index =>
    obtain ⟨tokens, object⟩ := further
    obtain ⟨others, items⟩ := index
    exact ⟨_, object.subscript blankBefore blankInside items blankBehind⟩
  | @numeral depth text value written =>
    obtain ⟨e, constant⟩ := IsConstant.number value
    exact ⟨_, .written written rfl, written.startsWell (by rintro op ⟨⟩), e, constant.factor⟩
  | signed isSign blank written => exact ⟨_, .signed isSign blank written⟩
  | operand _ further =>
    obtain ⟨tokens, operand⟩ := further
    obtain ⟨e, means⟩ := operand.means
    exact ⟨tokens, Gives.separated operand.gives, operand.starts, e, means.member⟩
  | string written plain valid => exact ⟨_, .string written plain valid⟩
  | number _ further =>
    obtain ⟨tokens, number⟩ := further
    obtain ⟨e, factor⟩ := number.means
    exact ⟨tokens, number.gives, number.starts, e, factor.member.mono (Nat.zero_le _)⟩
  | sum _ isSign blankBefore blankBehind written further =>
    obtain ⟨tokens, left⟩ := further
    exact ⟨_, left.sum isSign blankBefore blankBehind written⟩
  | member _ further =>
    obtain ⟨tokens, member⟩ := further
    obtain ⟨e, means⟩ := member.means
    exact ⟨tokens, member.gives, member.starts, .single means⟩
  | union _ blankBefore blankBehind _ left right =>
    obtain ⟨tokens, left⟩ := left
    obtain ⟨others, right⟩ := right
    exact ⟨_, left.union blankBefore blankBehind right⟩
  | item _ further =>
    obtain ⟨tokens, union⟩ := further
    obtain ⟨e, element⟩ := AreMembers.element union.means
    exact ⟨tokens, union.gives, union.starts, .single element⟩
  | items _ blankBefore blankBehind _ first more =>
    obtain ⟨tokens, first⟩ := first
    obtain ⟨others, more⟩ := more
    exact ⟨_, first.items blankBefore blankBehind more⟩
  | entry _ blankBefore blankBehind _ key value =>
    obtain ⟨tokens, key⟩ := key
    obtain ⟨others, value⟩ := value
    exact ⟨_, key.entry blankBefore blankBehind value⟩
  | lastEntry _ further =>
    obtain ⟨tokens, entry⟩ := further
    obtain ⟨e, means⟩ := entry.means
    exact ⟨tokens, entry.gives, entry.starts, .single means⟩
  | entries _ blankBefore blankBehind _ first more =>
    obtain ⟨tokens, first⟩ := first
    obtain ⟨others, more⟩ := more
    exact ⟨_, first.entries blankBefore blankBehind more⟩

/-! ## Whole texts -/

/-- A plain text is cut into tokens whose brackets nest as deep as those of the text, and they are an expression. -/
private theorem IsPlain.spells {depth : Nat} {text : String} (plain : IsPlain depth text)
    (room : depth ≤ bracketLimit) : ∃ tokens e, Spells (text.toList.dropWhile isInlineSpace) tokens ∧ Nests depth tokens ∧
      IsElement (text.toList.length + 1) tokens e := by
  obtain ⟨before, inner, behind, same, blankBefore, isUnion, blankBehind⟩ := plain
  obtain ⟨tokens, union⟩ := isUnion.tokens
  obtain ⟨e, element⟩ := AreMembers.element union.means
  obtain ⟨c, more, rfl, ordinary⟩ := union.starts
  simp only [offending, List.mem_cons, not_or] at ordinary
  have noSpace : ¬isInlineSpace c = true := fun inline =>
    ordinary.2.2 ((by decide : ∀ c ∈ [' ', '\t', '\x0c'], c ∈ spacing) c (space_cases inline))
  have trimmed : text.toList.dropWhile isInlineSpace = c :: more ++ behind := by
    rw [same, List.dropWhile_append_of_pos blankBefore, List.cons_append, List.dropWhile_cons_of_neg noSpace]
  have gives : Gives separators depth (c :: more ++ behind) tokens := Gives.spaced union.gives blankBehind
  obtain ⟨clean, noNewline⟩ := isInline_iff.1 gives.onLine
  refine ⟨tokens, e, ?_, gives.nests, element.mono (by rw [same]; simp; omega)⟩
  rw [trimmed]
  exact .of_reads ⟨c, _, rfl, ordinary.2.2⟩ clean noNewline (gives.nests.mono room) fun stop among more =>
    gives.reads [] stop ((by decide : ∀ stop ∈ ['\n', ';'], stop ∈ separators) stop among) more

/-- A plain text is a complete expression, unless its brackets nest too deep. -/
theorem IsPlain.readsAs {depth : Nat} {text : String} (plain : IsPlain depth text) (room : depth ≤ bracketLimit) :
    ∃ e, ReadsAs text e := by
  obtain ⟨tokens, e, spells, _, element⟩ := plain.spells room
  exact ⟨e, tokens, spells, element.reads (Nat.le_refl _) (.op ";") (by decide) [.newline]⟩

/-- The expression that a plain text is makes sense wherever it stands. -/
theorem IsPlain.settled {depth : Nat} {text : String} (plain : IsPlain depth text) (room : depth ≤ bracketLimit) {e : Expr}
    (isExpression : expressionOf text = some e) : e.IsSettled := by
  obtain ⟨tokens, found, spells, _, element⟩ := plain.spells room
  have reads := element.reads (Nat.le_refl _) (.op ";") (by decide) [.newline]
  have same : expressionOf text = some found := ReadsAs.expressionOf_eq ⟨tokens, spells, reads⟩
  cases isExpression.symm.trans same
  exact element.settled

/-- A plain text by itself is that expression, too. -/
theorem PlainText.parseExpression {depth : Nat} {text : String} (plain : PlainText .union depth text.toList)
    (room : depth ≤ bracketLimit) : text.toList.dropWhile isInlineSpace = text.toList ∧
      parseExpression? text = expressionOf text := by
  obtain ⟨_, union⟩ := plain.tokens
  obtain ⟨c, more, starts, ordinary⟩ := union.starts
  have noSpace : ¬isInlineSpace c = true := by
    intro inline
    simp only [offending, List.mem_cons, not_or] at ordinary
    exact ordinary.2.2 ((by decide : ∀ c ∈ [' ', '\t', '\x0c'], c ∈ spacing) c (space_cases inline))
  have trimmed : text.toList.dropWhile isInlineSpace = text.toList := by
    rw [starts, List.dropWhile_cons_of_neg noSpace]
  have isPlain : IsPlain depth text := ⟨[], text.toList, [], by simp, .nil, plain, .nil⟩
  obtain ⟨tokens, e, spells, _, element⟩ := isPlain.spells room
  have reads := element.reads (Nat.le_refl _) (.op ";") (by decide) [.newline]
  have alone := spells.alone
  rw [trimmed] at alone
  have read := element.reads (Nat.le_refl _) .newline (by decide) []
  have nothing : Parser.moreItems (grammar (text.toList.length + 1)).expression [.newline] =
      some (([], false), [.newline]) := rfl
  rw [ReadsAs.expressionOf_eq ⟨tokens, spells, reads⟩, parseExpression?]
  dsimp only
  rw [alone]
  simp only [Option.bind_eq_bind, Option.bind_some, read, nothing]
  exact ⟨trimmed, rfl⟩

/-- The tokens of a plain text nest as deep as the text does. -/
theorem IsPlain.nests {depth : Nat} {text : String} (plain : IsPlain depth text) (room : depth ≤ bracketLimit) :
    Nests depth (textTokens text) := by
  obtain ⟨tokens, e, spells, nests, _⟩ := plain.spells room
  rwa [spells.textTokens_eq]

/-! ## Texts that are plain -/

/-- A numeral. -/
theorem IsWritten.numeral {n : Numeral} (valid : n.IsValid) : IsWritten n.text (.number n.value) where
  onLine := by
    refine List.all_eq_true.2 fun c inside => ?_
    have plain : ∀ d ∈ ['.', 'e', '+', '-', 'j'], (d != '\x00' && d != '\r' && d != '\n') = true := by decide
    rcases Numeral.mem_text valid inside with isDigit | among
    · simp only [Bool.and_eq_true, bne_iff_ne, ne_eq]
      refine ⟨⟨?_, ?_⟩, ?_⟩ <;> (rintro rfl; revert isDigit; decide)
    · exact plain c among
  reads c among := by
    obtain ⟨noWord, noPoint⟩ := (by decide : ∀ c ∈ separators, isWordChar c = false ∧ c ≠ '.') c among
    exact Numeral.token noWord valid noPoint

/-- A whole number in decimal digits. -/
theorem IsWritten.decimal {n : Nat} (short : n < 10 ^ wholeLimit) :
    IsWritten (Nat.toDigits 10 n) (.number (.whole n)) := by
  rw [← Numeral.decimal_text, ← Numeral.decimal_value]
  exact .numeral (Numeral.decimal_valid short)

/-- A text in quotes. -/
theorem IsWritten.quoted (text : List Char) : IsWritten (Text.quotedChars text) (.string (quotedToken text)) where
  onLine := quotedChars_inline text
  reads c among := token_quoted text ((by decide : ∀ c ∈ separators, isQuote c = false) c among)

/-- Bytes in quotes. -/
theorem IsWritten.quotedBytes (bytes : List UInt8) :
    IsWritten (Text.quotedBytes bytes).toList (.string (bytesToken bytes)) where
  onLine := quotedBytes_inline bytes
  reads c among := token_quotedBytes bytes ((by decide : ∀ c ∈ separators, isQuote c = false) c among)

namespace PlainText

variable {depth : Nat}

theorem quoted (text : List Char) : PlainText .member depth (Text.quotedChars text) := by
  refine .string (.quoted text) rfl ?_
  have isText : (quotedToken text).isBytes = false := rfl
  rw [isText, if_neg Bool.false_ne_true, bodyText_quoted]
  rfl

theorem quotedBytes (bytes : List UInt8) : PlainText .member depth (Text.quotedBytes bytes).toList := by
  refine .string (.quotedBytes bytes) rfl ?_
  have isBytes : (bytesToken bytes).isBytes = true := rfl
  rw [isBytes, if_pos rfl, bodyBytes_quoted]
  rfl

/-- A numeral with a minus in front of it, or without one. -/
theorem signedNumeral (negative : Bool) {n : Numeral} (valid : n.IsValid) :
    PlainText .number depth ((if negative then ['-'] else []) ++ n.text) := by
  cases negative with
  | false => exact .numeral (.numeral valid)
  | true =>
    have minus : ('-', "-") ∈ signs := by decide
    exact .signed minus .nil (.numeral valid)

/-- A whole number, possibly negative. -/
theorem whole {n : Int} (short : n.natAbs < 10 ^ wholeLimit) : PlainText .number depth (toString n).toList := by
  have digits : (toString n).toList = (if decide (n < 0) then ['-'] else []) ++ (Numeral.decimal n.natAbs).text := by
    rw [Numeral.decimal_text, Int.toString_eq_repr, Int.repr_eq_if]
    by_cases positive : 0 ≤ n
    · have notNegative : ¬n < 0 := by omega
      rw [if_pos positive, Nat.repr_eq_ofList_toDigits, String.toList_ofList, decide_eq_false notNegative,
        if_neg Bool.false_ne_true, List.nil_append, show n.toNat = n.natAbs by omega]
    · rw [if_neg positive, String.toList_append, Nat.repr_eq_ofList_toDigits, String.toList_ofList,
        String.toList_ofList, decide_eq_true (show n < 0 by omega), if_pos rfl, show (-n).toNat = n.natAbs by omega]
  rw [digits]
  exact signedNumeral _ (Numeral.decimal_valid short)

/-- Parts with commas between them. -/
theorem joined {texts : List String} (given : texts ≠ [])
    (each : ∀ text ∈ texts, PlainText .union depth text.toList) :
    PlainText .items depth (", ".intercalate texts).toList := by
  induction texts with
  | nil => exact absurd rfl given
  | cons text texts ih =>
    cases texts with
    | nil => exact .item (each text List.mem_cons_self)
    | cons next texts =>
      have others := ih (List.cons_ne_nil _ _) fun other among => each other (List.mem_cons_of_mem _ among)
      have whole : PlainText .items depth _ := .items (each text List.mem_cons_self) .nil .space others
      rw [String.intercalate_cons_cons, String.toList_append, String.toList_append, List.append_assoc]
      exact whole

/-- Keys and their values with commas between them. -/
theorem joinedEntries {texts : List String} (given : texts ≠ [])
    (each : ∀ text ∈ texts, PlainText .entry depth text.toList) :
    PlainText .entries depth (", ".intercalate texts).toList := by
  induction texts with
  | nil => exact absurd rfl given
  | cons text texts ih =>
    cases texts with
    | nil => exact .lastEntry (each text List.mem_cons_self)
    | cons next texts =>
      have others := ih (List.cons_ne_nil _ _) fun other among => each other (List.mem_cons_of_mem _ among)
      have whole : PlainText .entries depth _ := .entries (each text List.mem_cons_self) .nil .space others
      rw [String.intercalate_cons_cons, String.toList_append, String.toList_append, List.append_assoc]
      exact whole

/-- Members of a union with the members of another one behind them. -/
theorem unions {left before behind right : List Char} (blankBefore : IsBlank before) (blankBehind : IsBlank behind)
    (further : PlainText .union depth right) (members : PlainText .union depth left) :
    PlainText .union depth (left ++ (before ++ '|' :: (behind ++ right))) := by
  generalize isUnion : TextPart.union = part at members
  induction members with
  | member single => exact .union single blankBefore blankBehind further
  | union first blank blanks _ _ others =>
    have whole : PlainText .union _ _ := .union first blank blanks (others further rfl)
    simpa using whole
  | _ => cases isUnion

/-- Unions with bars between them. -/
theorem barred {texts : List String} (given : texts ≠ [])
    (each : ∀ text ∈ texts, PlainText .union depth text.toList) :
    PlainText .union depth (" | ".intercalate texts).toList := by
  induction texts with
  | nil => exact absurd rfl given
  | cons text texts ih =>
    cases texts with
    | nil => exact each text List.mem_cons_self
    | cons next texts =>
      have others := ih (List.cons_ne_nil _ _) fun other among => each other (List.mem_cons_of_mem _ among)
      have whole := unions .space .space others (each text List.mem_cons_self)
      rw [String.intercalate_cons_cons, String.toList_append, String.toList_append, List.append_assoc]
      exact whole

/-- Parts in brackets, with commas between them. -/
theorem enclosed (bracket : Bracket) {texts : List String} (given : texts ≠ [])
    (each : ∀ text ∈ texts, PlainText .union depth text.toList) :
    PlainText .operand (depth + 1) (bracket.opening :: ((", ".intercalate texts).toList ++ [bracket.closing])) := by
  have whole : PlainText .operand (depth + 1) _ := .display bracket .nil (.joined given each) (.blank .nil)
  simpa using whole

/-- A list in square brackets. -/
theorem listed {texts : List String} (each : ∀ text ∈ texts, PlainText .union depth text.toList) :
    PlainText .operand (depth + 1) ("[" ++ ", ".intercalate texts ++ "]").toList := by
  cases texts with
  | nil => exact .empty .square .nil
  | cons first others =>
    simpa [Bracket.opening, Bracket.closing] using enclosed .square (List.cons_ne_nil _ _) each

/-- What stands in square brackets behind a word. -/
theorem bracketed {word : String} {texts : List String} (object : PlainText .operand (depth + 1) word.toList)
    (given : texts ≠ []) (each : ∀ text ∈ texts, PlainText .union depth text.toList) :
    PlainText .operand (depth + 1) (word ++ "[" ++ ", ".intercalate texts ++ "]").toList := by
  have whole : PlainText .operand (depth + 1) _ := .subscript object .nil .nil (.joined given each) .nil
  simpa using whole

end PlainText

section

variable {depth : Nat}

/-- A plain text by itself. -/
theorem PlainText.isPlain {text : String} {inner : List Char} (plain : PlainText .union depth inner)
    (same : text.toList = inner) : IsPlain depth text :=
  ⟨[], inner, [], by simp [same], .nil, plain, .nil⟩

theorem IsPlain.name {name : String} (isName : Text.isName name = true) : IsPlain depth name :=
  PlainText.isPlain (.member (.operand (.name isName))) rfl

theorem IsPlain.decimal {n : Nat} (short : n < 10 ^ wholeLimit) : IsPlain depth (String.ofList (Nat.toDigits 10 n)) :=
  PlainText.isPlain (.member (.number (.numeral (.decimal short)))) String.toList_ofList

theorem IsPlain.quoted (text : List Char) : IsPlain depth (String.ofList (Text.quotedChars text)) :=
  PlainText.isPlain (.member (.quoted text)) String.toList_ofList

/-- Plain texts separated by commas are the items of a list, with white space around them. -/
private theorem joined_items : ∀ {texts : List String}, texts ≠ [] → (∀ text ∈ texts, IsPlain depth text) →
    ∃ before items behind, (", ".intercalate texts).toList = before ++ (items ++ behind) ∧ IsBlank before ∧
      PlainText .items depth items ∧ IsBlank behind
  | [text], _, plain => by
    obtain ⟨before, union, behind, same, blankBefore, isUnion, blankBehind⟩ := plain text List.mem_cons_self
    exact ⟨before, union, behind, same, blankBefore, .item isUnion, blankBehind⟩
  | text :: next :: texts, _, plain => by
    obtain ⟨before, union, between, same, blankBefore, isUnion, blankBetween⟩ := plain text List.mem_cons_self
    obtain ⟨inside, items, behind, others, blankInside, areItems, blankBehind⟩ :=
      joined_items (List.cons_ne_nil next texts) fun text among => plain text (List.mem_cons_of_mem _ among)
    have blankComma : IsBlank (' ' :: inside) := List.forall_mem_cons.2 ⟨rfl, blankInside⟩
    refine ⟨before, _, behind, ?_, blankBefore, .items isUnion blankBetween blankComma areItems, blankBehind⟩
    rw [String.intercalate_cons_cons, String.toList_append, String.toList_append, others, same]
    simp

/-- A plain text with plain annotations is plain, one level deeper. -/
theorem IsPlain.annotated {typeText : String} {annotations : List String} (given : annotations ≠ [])
    (plain : IsPlain depth typeText) (each : ∀ annotation ∈ annotations, IsPlain depth annotation) :
    IsPlain (depth + 1) ("Annotated[" ++ typeText ++ ", " ++ ", ".intercalate annotations ++ "]") := by
  have all : ∀ text ∈ typeText :: annotations, IsPlain depth text := List.forall_mem_cons.2 ⟨plain, each⟩
  obtain ⟨before, items, behind, same, blankBefore, areItems, blankBehind⟩ :=
    joined_items (List.cons_ne_nil _ _) all
  have name : Text.isName "Annotated" = true := by decide
  have subscript : PlainText .operand (depth + 1) _ := .subscript (.name name) .nil blankBefore areItems blankBehind
  have whole : ("Annotated[" ++ typeText ++ ", " ++ ", ".intercalate annotations ++ "]").toList =
      "Annotated".toList ++ ([] ++ '[' :: (before ++ (items ++ (behind ++ [']'])))) := by
    obtain ⟨first, others, rfl⟩ := List.exists_cons_of_ne_nil given
    rw [String.intercalate_cons_cons] at same
    simp only [String.toList_append] at same ⊢
    have inside := congrArg (fun inside => "Annotated[".toList ++ (inside ++ "]".toList)) same
    simpa using inside
  exact PlainText.isPlain (.member (.operand subscript)) whole

end

end EachSubject.Source
