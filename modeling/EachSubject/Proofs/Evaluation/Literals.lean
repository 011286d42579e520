import EachSubject.Proofs.Evaluation.Constants
import EachSubject.Proofs.Library
import EachSubject.Proofs.Source.Displays

/-!
# Evaluating literals

Where the class of sets goes by its own name, evaluating an expression of constants gives what it denotes, made anew,
and the text of a literal is such an expression.
-/

namespace EachSubject

open Source

namespace Engine

variable {e : Engine} {f : Frame} {store : Store}

/-! ## Displays -/

private theorem newTuple_makes {run : Run (List Value)} {items : List Value}
    (made : Run.Makes store Value.CopiesAll run items) :
    Run.Makes store Value.Copies (do Run.newTuple (← run)) (.tuple 0 items) := by
  intro next constants
  obtain ⟨copies, next', constants', later, all, started⟩ := made next constants
  cases copies with
  | nil =>
    cases all
    exact ⟨_, next', constants', later, .emptyTuple, Run.bind_ok started⟩
  | cons copy copies =>
    exact ⟨_, next' + 1, constants', Nat.le_succ_of_le later,
      .tuple later (Nat.lt_succ_self _) (all.within (Nat.le_refl _) (Nat.le_succ _)), Run.bind_ok started⟩

private theorem newList_makes {run : Run (List Value)} {items : List Value}
    (made : Run.Makes store Value.CopiesAll run items) :
    Run.Makes store Value.Copies (do Run.newList (← run)) (.list 0 items) := by
  intro next constants
  obtain ⟨copies, next', constants', later, all, started⟩ := made next constants
  exact ⟨_, next' + 1, constants', Nat.le_succ_of_le later,
    .list _ (all.within (Nat.le_refl _) (Nat.le_succ _)), Run.bind_ok started⟩

private theorem newSet_makes {run : Run (List Value)} {items : List Value} (reorder : Bool)
    (made : Run.Makes store Value.CopiesAll run items) (hashable : items.all Value.isHashable = true) :
    Run.Makes store Value.Copies (do
      let found ← setItems (← run)
      return .set (← Run.freshPlace) (if reorder then Value.inCopyOrder found else found))
      (.set 0 (Value.distinctItems items)) := by
  intro next constants
  obtain ⟨copies, next', constants', later, all, started⟩ := made next constants
  have collected : (setItems copies).start (store.advanced next' constants') =
      (.ok (Value.setOf copies), store.advanced next' constants') := by
    rw [setItems, all.all_isHashable, hashable]
    rfl
  have order : (if reorder then Value.inCopyOrder (Value.setOf copies) else Value.setOf copies).Perm
      (Value.distinctItems copies) := by
    cases reorder with
    | true => exact (Value.inCopyOrder_perm _).trans (Value.inSetOrder_perm _)
    | false => exact Value.inSetOrder_perm _
  refine ⟨_, next' + 1, constants', Nat.le_succ_of_le later,
    .set next' ((all.distinctItems hashable).within (Nat.le_refl _) (Nat.le_succ _)) order, ?_⟩
  rw [Run.bind_ok started, Run.bind_ok collected]
  rfl

private theorem newDict_makes {run : Run (List (Value × Value))} {entries : List (Value × Value)}
    (made : Run.Makes store Value.CopiesEntries run entries)
    (hashable : entries.all (·.1.isHashable) = true) :
    Run.Makes store Value.Copies (do
      let entries ← keyedEntries (← run)
      return .dict (← Run.freshPlace) entries) (.dict 0 (Value.distinctEntries entries)) := by
  intro next constants
  obtain ⟨copies, next', constants', later, all, started⟩ := made next constants
  have collected : (keyedEntries copies).start (store.advanced next' constants') =
      (.ok (Value.distinctEntries copies), store.advanced next' constants') := by
    rw [keyedEntries, all.all_isHashable, hashable]
    rfl
  refine ⟨_, next' + 1, constants', Nat.le_succ_of_le later,
    .dict next' ((all.distinctEntries hashable).within (Nat.le_refl _) (Nat.le_succ _)), ?_⟩
  rw [Run.bind_ok started, Run.bind_ok collected]
  rfl

/-- Members of sets are values that can be members. -/
private theorem literalMembers_ok : ∀ {items : List Expr} {values : List Value},
    Expr.literalMembers items = .ok values →
      Expr.literalValues items = .ok values ∧ values.all Value.isHashable = true
  | [], _, denotes => by
    rw [Expr.literalMembers] at denotes
    cases denotes
    exact ⟨rfl, rfl⟩
  | item :: rest, _, denotes => by
    rw [Expr.literalMembers] at denotes
    obtain ⟨first, head, denotes⟩ := bind_eq_ok_iff.1 denotes
    cases hashable : first.isHashable with
    | false =>
      rw [hashable] at denotes
      cases denotes
    | true =>
      rw [hashable] at denotes
      obtain ⟨others, tail, denotes⟩ := bind_eq_ok_iff.1 denotes
      cases denotes
      obtain ⟨denotes, others⟩ := literalMembers_ok tail
      refine ⟨?_, by rw [List.all_cons, hashable, others]; rfl⟩
      rw [Expr.literalValues, head, denotes]
      rfl

private theorem literalEntries_hashable : ∀ {items : List (Option Expr × Expr)} {entries : List (Value × Value)},
    Expr.literalEntries items = .ok entries → entries.all (·.1.isHashable) = true
  | [], _, denotes => by
    rw [Expr.literalEntries] at denotes
    cases denotes
    rfl
  | (none, _) :: _, _, denotes => by
    rw [Expr.literalEntries] at denotes
    cases denotes
  | (some key, value) :: rest, _, denotes => by
    rw [Expr.literalEntries] at denotes
    obtain ⟨first, _, denotes⟩ := bind_eq_ok_iff.1 denotes
    obtain ⟨second, _, denotes⟩ := bind_eq_ok_iff.1 denotes
    cases hashable : first.isHashable with
    | false =>
      rw [hashable] at denotes
      cases denotes
    | true =>
      rw [hashable] at denotes
      obtain ⟨others, tail, denotes⟩ := bind_eq_ok_iff.1 denotes
      cases denotes
      rw [List.all_cons, hashable, literalEntries_hashable tail]
      rfl

/-! ## Expressions -/

/-- The class of sets goes by its own name: called without arguments it gives an empty set. -/
def KnowsSets (e : Engine) (f : Frame) (store : Store) : Prop :=
  ∀ next constants, ∃ place next' constants', next ≤ next' ∧
    (e.evaluate f (.call (.name "set") [])).start (store.advanced next constants) =
      (.ok (.set place []), store.advanced next' constants')

/-- In a world without classes of that name, it is enough that the name stands for the class of sets. -/
theorem knowsSets (unchanged : store.revised = []) (keeps : store.world.KeepsBuiltins)
    (denotes : (f.value "set").start store = (.ok (.ofClass (.builtin "set")), store)) : KnowsSets e f store := by
  intro next constants
  have named := Frame.value_advanced denotes next constants
  have made : (e.instantiate (.builtin "set") {}).start (store.advanced next constants) =
      (.ok (.set next []), store.advanced (next + 1) constants) :=
    instantiate_set (by exact unchanged) keeps
  refine ⟨next, next + 1, constants, Nat.le_succ _, ?_⟩
  rw [evaluate, evaluate, Run.bind_ok named]
  exact made

private theorem number_makes {operand : Expr} {value : Value} (denotes : operand.number = .ok value) :
    IsNumeral value ∧ Run.Makes store Value.Copies (e.evaluate f operand) value := by
  obtain ⟨isNumeral, literal, rfl, found⟩ := number_inv denotes
  rw [evaluate]
  exact ⟨isNumeral, Run.constant_makes found⟩

private theorem signedNumber_makes {op : String} {operand : Expr} {value : Value}
    (denotes : Expr.signedNumber op operand = .ok value) :
    Run.Makes store Value.Copies (e.evaluate f (.unary op operand)) value := by
  obtain ⟨number, found, sign⟩ := signedNumber_inv denotes
  have makes : IsNumeral number ∧ Run.Makes store Value.Copies (e.evaluate f operand) number := number_makes found
  intro next constants
  obtain ⟨operandCopy, middle, known, later, copies, started⟩ := makes.2 next constants
  have signed : Run.Makes store Value.Copies (e.unaryOperator op operandCopy) value := by
    rcases sign with ⟨rfl, rfl⟩ | ⟨rfl, rfl⟩
    · exact plus_makes makes.1 copies
    · exact minus_makes makes.1 copies
  obtain ⟨copy, next', constants', further, holds, behind⟩ := signed middle known
  refine ⟨copy, next', constants', Nat.le_trans later further, holds.within later (Nat.le_refl _), ?_⟩
  rw [evaluate, Run.bind_ok started, behind]

private theorem realPart_makes {left : Expr} {value : Value} (denotes : left.realPart = .ok value) :
    Run.Makes store Value.Copies (e.evaluate f left) value := by
  unfold Expr.realPart at denotes
  split at denotes
  · exact signedNumber_makes denotes
  · exact (number_makes denotes).2

private theorem binary_inv {op : String} {left right : Expr} {value : Value}
    (denotes : (Expr.binary op left right).literalValue = .ok value) : (op = "+" ∨ op = "-") ∧
      ∃ real imaginary, left.realPart = .ok real ∧ right.number = .ok imaginary ∧
        Expr.complexNumber op real imaginary = .ok value := by
  rw [Expr.literalValue] at denotes
  by_cases isSign : op = "+" ∨ op = "-"
  · have noThrow : (op != "+" && op != "-") = false := by rcases isSign with rfl | rfl <;> rfl
    rw [noThrow] at denotes
    obtain ⟨real, leftDenotes, denotes⟩ := bind_eq_ok_iff.1 denotes
    obtain ⟨imaginary, rightDenotes, denotes⟩ := bind_eq_ok_iff.1 denotes
    exact ⟨isSign, real, imaginary, leftDenotes, rightDenotes, denotes⟩
  · simp only [not_or] at isSign
    simp only [bne_iff_ne.2 isSign.1, bne_iff_ne.2 isSign.2] at denotes
    cases denotes

private theorem complexNumber_makes (unchanged : store.revised = []) {op : String} {left right : Expr}
    {real imaginary value : Value} (isSign : op = "+" ∨ op = "-") (leftDenotes : left.realPart = .ok real)
    (rightDenotes : right.number = .ok imaginary) (denotes : Expr.complexNumber op real imaginary = .ok value) :
    Run.Makes store Value.Copies (e.evaluate f (.binary op left right)) value := by
  have makesLeft : Run.Makes store Value.Copies (e.evaluate f left) real := realPart_makes leftDenotes
  have makesRight : IsNumeral imaginary ∧ Run.Makes store Value.Copies (e.evaluate f right) imaginary :=
    number_makes rightDenotes
  intro next constants
  obtain ⟨leftCopy, middle, known, later, leftCopies, started⟩ := makesLeft next constants
  obtain ⟨rightCopy, middle', known', later', rightCopies, started'⟩ := makesRight.2 middle known
  obtain ⟨copy, next', constants', further, holds, behind⟩ :=
    sum_makes unchanged isSign makesRight.1 denotes leftCopies rightCopies middle' known'
  have before := Nat.le_trans later later'
  refine ⟨copy, next', constants', Nat.le_trans before further, holds.within before (Nat.le_refl _), ?_⟩
  rw [evaluate, Run.bind_ok started, Run.bind_ok started', behind]

mutual

/-- Evaluating an expression of constants gives what it denotes. -/
theorem evaluate_literal (unchanged : store.revised = []) (knows : KnowsSets e f store)
    (expression : Expr) {value : Value} (denotes : expression.literalValue = .ok value) :
    Run.Makes store Value.Copies (e.evaluate f expression) value := by
  unfold Expr.literalValue at denotes
  split at denotes
  · rw [evaluate]
    exact Run.constant_makes denotes
  · rename_i items
    obtain ⟨values, found, same⟩ := bind_eq_ok_iff.1 denotes
    cases same
    rw [evaluate]
    exact newTuple_makes (evaluateItems_literal unchanged knows items found)
  · rename_i items
    obtain ⟨values, found, same⟩ := bind_eq_ok_iff.1 denotes
    cases same
    rw [evaluate]
    exact newList_makes (evaluateItems_literal unchanged knows items found)
  · rename_i items
    obtain ⟨values, found, same⟩ := bind_eq_ok_iff.1 denotes
    cases same
    obtain ⟨found, hashable⟩ := literalMembers_ok found
    rw [evaluate]
    exact newSet_makes _ (evaluateItems_literal unchanged knows items found) hashable
  · rename_i entries
    obtain ⟨values, found, same⟩ := bind_eq_ok_iff.1 denotes
    cases same
    rw [evaluate]
    exact newDict_makes (evaluateEntries_literal unchanged knows entries found) (literalEntries_hashable found)
  · cases denotes
    intro next constants
    obtain ⟨place, next', constants', later, started⟩ := knows next constants
    exact ⟨_, next', constants', later, .set place (.nil later) (.refl _), started⟩
  · exact signedNumber_makes denotes
  · rename_i op left right
    obtain ⟨isSign, real, imaginary, leftDenotes, rightDenotes, found⟩ := binary_inv denotes
    exact complexNumber_makes unchanged isSign leftDenotes rightDenotes found
  · cases denotes

theorem evaluateItems_literal (unchanged : store.revised = []) (knows : KnowsSets e f store)
    (items : List Expr) {values : List Value} (denotes : Expr.literalValues items = .ok values) :
    Run.Makes store Value.CopiesAll (e.evaluateItems f items) values := by
  match items with
  | [] =>
    cases denotes
    exact fun next constants => ⟨[], next, constants, Nat.le_refl _, .nil (Nat.le_refl _), rfl⟩
  | item :: rest =>
    rw [Expr.literalValues] at denotes
    obtain ⟨first, head, denotes⟩ := bind_eq_ok_iff.1 denotes
    obtain ⟨others, tail, denotes⟩ := bind_eq_ok_iff.1 denotes
    cases denotes
    intro next constants
    obtain ⟨copy, middle, known, later, copies, started⟩ :=
      evaluate_literal unchanged knows item head next constants
    obtain ⟨more, next', constants', further, all, behind⟩ :=
      evaluateItems_literal unchanged knows rest tail middle known
    refine ⟨copy :: more, next', constants', Nat.le_trans later further, .cons later copies all, ?_⟩
    rw [evaluateItems, Run.bind_ok started, Run.bind_ok behind]
    · rfl
    · rintro spread rfl
      cases head

theorem evaluateEntries_literal (unchanged : store.revised = []) (knows : KnowsSets e f store)
    (items : List (Option Expr × Expr)) {entries : List (Value × Value)}
    (denotes : Expr.literalEntries items = .ok entries) :
    Run.Makes store Value.CopiesEntries (e.evaluateEntries f items) entries := by
  match items with
  | [] =>
    cases denotes
    exact fun next constants => ⟨[], next, constants, Nat.le_refl _, .nil (Nat.le_refl _), rfl⟩
  | (none, _) :: _ => cases denotes
  | (some key, value) :: rest =>
    rw [Expr.literalEntries] at denotes
    obtain ⟨first, keyed, denotes⟩ := bind_eq_ok_iff.1 denotes
    obtain ⟨second, valued, denotes⟩ := bind_eq_ok_iff.1 denotes
    cases hashable : first.isHashable with
    | false =>
      rw [hashable] at denotes
      cases denotes
    | true =>
      rw [hashable] at denotes
      obtain ⟨others, tail, denotes⟩ := bind_eq_ok_iff.1 denotes
      cases denotes
      intro next constants
      obtain ⟨left, middle, known, later, leftCopies, started⟩ :=
        evaluate_literal unchanged knows key keyed next constants
      obtain ⟨right, middle', known', later', rightCopies, started'⟩ :=
        evaluate_literal unchanged knows value valued middle known
      obtain ⟨more, next', constants', further, all, behind⟩ :=
        evaluateEntries_literal unchanged knows rest tail middle' known'
      refine ⟨(left, right) :: more, next', constants', by omega,
        .cons (Nat.le_trans later later') (leftCopies.within (Nat.le_refl _) later') rightCopies all, ?_⟩
      rw [evaluateEntries, Run.bind_ok started, Run.bind_ok started', Run.bind_ok behind]
      rfl

end

/-! ## Texts -/

private theorem number_outline {operand : Expr} {value : Value} (denotes : operand.number = .ok value) (owner : String) :
    operand.outline owner = [] := by
  obtain ⟨_, literal, rfl, _⟩ := number_inv denotes
  rw [Expr.outline]

private theorem realPart_outline {left : Expr} {value : Value} (denotes : left.realPart = .ok value) (owner : String) :
    left.outline owner = [] := by
  unfold Expr.realPart at denotes
  split at denotes
  · obtain ⟨number, found, _⟩ := signedNumber_inv denotes
    rw [Expr.outline, number_outline found]
  · exact number_outline denotes owner

mutual

/-- An expression of constants makes sense wherever it stands. -/
private theorem literal_areSound (p : Outline.Position) (owner : String) (expression : Expr) {value : Value}
    (denotes : expression.literalValue = .ok value) : Outline.areSound p (expression.outline owner) = true := by
  unfold Expr.literalValue at denotes
  split at denotes
  · rfl
  · rename_i items
    obtain ⟨values, found, _⟩ := bind_eq_ok_iff.1 denotes
    exact literals_areSound p owner items found
  · rename_i items
    obtain ⟨values, found, _⟩ := bind_eq_ok_iff.1 denotes
    exact literals_areSound p owner items found
  · rename_i items
    obtain ⟨values, found, _⟩ := bind_eq_ok_iff.1 denotes
    exact literals_areSound p owner items (literalMembers_ok found).1
  · rename_i entries
    obtain ⟨values, found, _⟩ := bind_eq_ok_iff.1 denotes
    exact literalEntries_areSound p owner entries found
  · simp [Expr.outline, argumentsOutline, keywordNames, Outline.areSound, Outline.isSound]
  · obtain ⟨number, found, _⟩ := signedNumber_inv denotes
    rw [Expr.outline, number_outline found]
    rfl
  · rename_i op left right
    obtain ⟨_, real, _, leftDenotes, rightDenotes, _⟩ := binary_inv denotes
    rw [Expr.outline, realPart_outline leftDenotes, number_outline rightDenotes]
    rfl
  · cases denotes

private theorem literals_areSound (p : Outline.Position) (owner : String) (items : List Expr) {values : List Value}
    (denotes : Expr.literalValues items = .ok values) : Outline.areSound p (itemsOutline owner items) = true := by
  match items with
  | [] => rfl
  | item :: rest =>
    rw [Expr.literalValues] at denotes
    obtain ⟨first, head, denotes⟩ := bind_eq_ok_iff.1 denotes
    obtain ⟨others, tail, _⟩ := bind_eq_ok_iff.1 denotes
    rw [itemsOutline, Outline.areSound_append, literal_areSound p owner item head, literals_areSound p owner rest tail]
    · rfl
    · rintro spread rfl
      cases head

private theorem literalEntries_areSound (p : Outline.Position) (owner : String) (items : List (Option Expr × Expr))
    {entries : List (Value × Value)} (denotes : Expr.literalEntries items = .ok entries) :
    Outline.areSound p (entriesOutline owner items) = true := by
  match items with
  | [] => rfl
  | (none, _) :: _ => cases denotes
  | (some key, value) :: rest =>
    rw [Expr.literalEntries] at denotes
    obtain ⟨first, keyed, denotes⟩ := bind_eq_ok_iff.1 denotes
    obtain ⟨second, valued, denotes⟩ := bind_eq_ok_iff.1 denotes
    cases hashable : first.isHashable with
    | false =>
      rw [hashable] at denotes
      cases denotes
    | true =>
      rw [hashable] at denotes
      obtain ⟨others, tail, denotes⟩ := bind_eq_ok_iff.1 denotes
      rw [entriesOutline, optionalOutline, Outline.areSound_append, Outline.areSound_append, literal_areSound p owner key keyed,
        literal_areSound p owner value valued, literalEntries_areSound p owner rest tail]
      rfl

end

/-- What a text gives as an expression where the frame stands. -/
def evaluateText (e : Engine) (f : Frame) (text : String) : Run Value := do
  match ← contentOf true text with
  | .expression value => e.evaluate f value
  | _ => throw .malformed

/-- Blanks in front of an expression do not count. -/
def unindented (text : String) : String := String.ofList (text.toList.dropWhile fun c => c = ' ' || c = '\t')

/-- The text is read as the expression, which makes sense. -/
structure IsTextOf (text : String) (expression : Expr) : Prop where
  noNul : nulCharacter ∉ text.toList
  parsed : parseExpression? (unindented text) = some expression
  sound : expression.isSound = true

/-- The expression that a text is, if it makes sense, is evaluated. -/
theorem evaluateText_start {text : String} {expression : Expr} (isText : IsTextOf text expression) (store : Store) :
    (e.evaluateText f text).start store = (e.evaluate f expression).start store := by
  have read : (contentOf true text).start store = (.ok (.expression expression), store) := by
    rw [contentOf, String.contains_char_eq, decide_eq_false isText.noNul]
    change (do
      let value ← Run.orFault .malformed (parseExpression? (unindented text))
      if value.isSound then return .expression value else throw .malformed : Run Content).start store = _
    rw [isText.parsed, Run.bind_ok (show (Run.orFault .malformed (some expression)).start store =
      (.ok expression, store) from rfl), isText.sound]
    rfl
  rw [evaluateText, Run.bind_ok read]

/-- A text that denotes a value is read as an expression that does. -/
theorem literalOf_inv {text : String} {value : Value} (denotes : literalOf text = .ok value) :
    ∃ expression, IsTextOf text expression ∧ expression.literalValue = .ok value := by
  rw [literalOf] at denotes
  cases holdsNul : text.toList.contains nulCharacter with
  | true =>
    rw [holdsNul] at denotes
    cases denotes
  | false =>
    rw [holdsNul] at denotes
    obtain ⟨expression, parsed, denotes⟩ := bind_eq_ok_iff.1 denotes
    refine ⟨expression, ⟨fun inside => ?_, ?_, literal_areSound _ _ expression denotes⟩, denotes⟩
    · rw [List.contains_iff_mem.2 inside] at holdsNul
      cases holdsNul
    · unfold Fault.orElse at parsed
      split at parsed
      · cases parsed
        assumption
      · cases parsed

end Engine

end EachSubject
