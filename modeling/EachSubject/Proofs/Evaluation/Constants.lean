import EachSubject.Description.Literal
import EachSubject.Execution
import EachSubject.Proofs.Outcome
import EachSubject.Proofs.Run
import EachSubject.Proofs.Value.Copies

/-!
# Making values anew

A run makes a value if, from any place on, it gives a copy of it and changes nothing in the store but the next place
and the places of constants. Constants and the operators of numerals do. What a name stands for does not depend on
either.
-/

namespace EachSubject

open Source

/-- The store with another next place and other places of constants. -/
def Store.advanced (store : Store) (next : Nat) (constants : List (Literal × Nat)) : Store :=
  { store with nextPlace := next, constants }

namespace Run

/-- From any place on, the run gives a copy of the value, and changes nothing but the next place and the places of
    constants. -/
def Makes {α β : Type} (store : Store) (holds : Nat → Nat → β → α → Prop) (run : Run α) (b : β) : Prop :=
  ∀ next constants, ∃ a next' constants', next ≤ next' ∧ holds next next' b a ∧
    run.start (store.advanced next constants) = (.ok a, store.advanced next' constants')

variable {store : Store}

/-- Data that is common has no place, other data gets the next one. -/
theorem placeFor_start (store : Store) (isCommon : Bool) (next : Nat) (constants : List (Literal × Nat)) :
    ∃ place next', next ≤ next' ∧
      (placeFor isCommon).start (store.advanced next constants) = (.ok place, store.advanced next' constants) := by
  cases isCommon with
  | true => exact ⟨0, next, Nat.le_refl _, rfl⟩
  | false => exact ⟨next, next + 1, Nat.le_succ _, rfl⟩

/-- The value of a constant at a place. -/
private def placed (place : Nat) : Literal → Value
  | .none => .none
  | .bool value => .bool value
  | .whole value => .int place value
  | .real value => .float place value
  | .imaginary value => .complex place (.zero false) value
  | .text value => .text place value
  | .bytes value => .bytes place value
  | .ellipsis => .ellipsis

private theorem placed_copies {literal : Literal} {value : Value} (denotes : literal.value = .ok value)
    (place : Nat) {first last : Nat} : value.Copies first last (placed place literal) := by
  cases literal with
  | real x =>
    rw [Literal.value] at denotes
    split at denotes
    · cases denotes
    · rename_i isNumber
      cases denotes
      exact .float place (Bool.not_eq_true _ ▸ isNumber)
  | imaginary x =>
    rw [Literal.value] at denotes
    split at denotes
    · cases denotes
    · rename_i isNumber
      cases denotes
      exact .complex place rfl (Bool.not_eq_true _ ▸ isNumber)
  | _ =>
    cases denotes
    constructor

private theorem constant_start (store : Store) (literal : Literal) (next : Nat) (constants : List (Literal × Nat)) :
    ∃ place next' constants', next ≤ next' ∧ (constant literal).start (store.advanced next constants) =
      (.ok (placed place literal), store.advanced next' constants') := by
  have read : (get : Run Store).start (store.advanced next constants) = (.ok (store.advanced next constants),
      store.advanced next constants) := rfl
  unfold constant
  rw [bind_ok read]
  cases literal <;> dsimp only <;> split
  all_goals first
    | exact ⟨0, next, constants, Nat.le_refl _, rfl⟩
    | exact ⟨_, next, constants, Nat.le_refl _, rfl⟩
    | exact ⟨next, next + 1, (_, next) :: constants, Nat.le_succ _, rfl⟩

theorem constant_makes {literal : Literal} {value : Value} (denotes : literal.value = .ok value) :
    Makes store Value.Copies (constant literal) value := by
  intro next constants
  obtain ⟨place, next', constants', later, started⟩ := constant_start store literal next constants
  exact ⟨_, next', constants', later, placed_copies denotes place, started⟩

private theorem newInt_makes (value : Int) : Makes store Value.Copies (newInt value) (.int 0 value) := by
  intro next constants
  obtain ⟨place, next', later, started⟩ := placeFor_start store (isCommonInt value) next constants
  exact ⟨_, next', constants, later, .int place value, bind_ok started⟩

private theorem newFloat_makes {value : Double} (isNumber : value.isNan = false) :
    Makes store Value.Copies (newFloat value) (.float 0 value) := fun next constants =>
  ⟨_, next + 1, constants, Nat.le_succ _, .float next isNumber, rfl⟩

private theorem newComplex_makes {re im : Double} (isReal : re.isNan = false) (isImaginary : im.isNan = false) :
    Makes store Value.Copies (do return .complex (← freshPlace) re im) (.complex 0 re im) := fun next constants =>
  ⟨_, next + 1, constants, Nat.le_succ _, .complex next isReal isImaginary, rfl⟩

end Run

/-! ## Names -/

namespace Run

/-- The run changes nothing, and neither the next place nor the places of constants make a difference to it. -/
def Looks {α : Type} (run : Run α) : Prop :=
  ∀ store next constants, ∃ outcome, run.start store = (outcome, store) ∧
    run.start (store.advanced next constants) = (outcome, store.advanced next constants)

namespace Looks

variable {α β : Type}

theorem outcome (outcome : Except Fault α) : Looks fun store => (outcome, store) :=
  fun _ _ _ => ⟨outcome, rfl, rfl⟩

theorem pure (a : α) : Looks (Pure.pure a : Run α) := outcome (.ok a)

theorem bind {run : Run α} {more : α → Run β} (first : Looks run) (behind : ∀ a, Looks (more a)) :
    Looks (run >>= more) := by
  intro store next constants
  obtain ⟨found, here, there⟩ := first store next constants
  cases found with
  | error fault => exact ⟨.error fault, bind_error here, bind_error there⟩
  | ok a =>
    obtain ⟨result, here', there'⟩ := behind a store next constants
    exact ⟨result, (bind_ok here).trans here', (bind_ok there).trans there'⟩

theorem orFault (fault : Fault) (found : Option α) : Looks (Run.orFault fault found) := by
  cases found with
  | none => exact outcome (.error fault)
  | some a => exact pure a

theorem world : Looks Run.world := fun store _ _ => ⟨.ok store.world, rfl, rfl⟩

theorem namesOf (scope : Nat) : Looks (Run.namesOf scope) := by
  refine bind (fun store _ _ => ⟨.ok store.entities[scope]?, rfl, rfl⟩) fun entity => ?_
  cases entity with
  | none => exact pure []
  | some entity => cases entity <;> exact pure _

end Looks

end Run

private theorem Frame.globalValue_looks (f : Frame) (name : String) : (f.globalValue name).Looks := by
  refine .bind (.namesOf _) fun names => ?_
  cases names.lookup name with
  | none => exact .orFault _ _
  | some value => exact .pure value

private theorem Frame.outerValue_looks (f : Frame) (name : String) : (f.outerValue name).Looks := by
  unfold Frame.outerValue
  split
  · exact .bind (.namesOf _) fun names => .orFault _ _
  · split
    · split
      · exact .bind .world fun w => .pure _
      · exact globalValue_looks f _
    · exact globalValue_looks f _

private theorem Frame.value_looks (f : Frame) (name : String) : (f.value name).Looks := by
  unfold Frame.value
  dsimp only
  split
  · exact globalValue_looks f _
  · split
    · refine .bind (.namesOf _) fun names => ?_
      cases names.lookup (f.inside name) with
      | none => exact globalValue_looks f _
      | some value => exact .pure value
    · refine .bind (.namesOf _) fun names => ?_
      cases names.lookup (f.inside name) with
      | none =>
        dsimp only
        split
        · exact globalValue_looks f _
        · exact outerValue_looks f _
      | some value => exact .pure value
    · split
      · exact .bind (.namesOf _) fun names => .orFault _ _
      · exact outerValue_looks f _

/-- What a name stands for does not depend on what was made. -/
theorem Frame.value_advanced {f : Frame} {name : String} {value : Value} {store : Store}
    (denotes : (f.value name).start store = (.ok value, store)) (next : Nat) (constants : List (Literal × Nat)) :
    (f.value name).start (store.advanced next constants) = (.ok value, store.advanced next constants) := by
  obtain ⟨outcome, here, there⟩ := f.value_looks name store next constants
  cases here.symm.trans denotes
  exact there

namespace Double

theorem isNan_negate (x : Double) : x.negate.isNan = x.isNan := by cases x <;> rfl

theorem isNan_ofRatio (negative : Bool) (num den : Nat) : (ofRatio negative num den).isNan = false := by
  rw [ofRatio]
  split
  · rfl
  · dsimp only
    split <;> split <;> rfl

/-- Only numbers add up to a number. -/
theorem isNan_plus_zero {x : Double} (isNumber : x.isNan = false) (negative : Bool) :
    (x.plus (zero negative)).isNan = false ∧ ((zero negative).plus x).isNan = false := by
  have ratio : ∀ {y : Double}, y.isFinite = true → ∃ r, y.toRatio? = some r := fun finite =>
    Option.isSome_iff_exists.1 (toRatio?_isSome _ ▸ finite)
  cases x with
  | nan => cases isNumber
  | infinite => exact ⟨rfl, rfl⟩
  | finite sign mantissa exponent =>
    obtain ⟨r, found⟩ := ratio (y := finite sign mantissa exponent) rfl
    obtain ⟨r', found'⟩ := ratio (y := zero negative) rfl
    rw [zero] at found'
    constructor
    · simp only [plus, zero, found, found']
      split
      · rfl
      · exact isNan_ofRatio _ _ _
    · simp only [plus, zero, found, found']
      split
      · rfl
      · exact isNan_ofRatio _ _ _

end Double

namespace Engine

variable {e : Engine} {store : Store}

/-! ## Numbers -/

/-- What a numeral denotes. -/
inductive IsNumeral : Value → Prop
  | whole (n : Nat) : IsNumeral (.int 0 n)
  | real {x : Double} (isNumber : x.isNan = false) : IsNumeral (.float 0 x)
  | imaginary {x : Double} (isNumber : x.isNan = false) : IsNumeral (.complex 0 (.zero false) x)

theorem number_inv {operand : Expr} {value : Value} (found : operand.number = .ok value) :
    IsNumeral value ∧ ∃ literal, operand = .literal literal ∧ literal.value = .ok value := by
  unfold Expr.number at found
  split at found
  · cases found
    exact ⟨.whole _, _, rfl, rfl⟩
  · refine ⟨?_, _, rfl, found⟩
    rw [Literal.value] at found
    split at found
    · cases found
    · cases found
      exact .real (Bool.not_eq_true _ ▸ ‹_›)
  · refine ⟨?_, _, rfl, found⟩
    rw [Literal.value] at found
    split at found
    · cases found
    · cases found
      exact .imaginary (Bool.not_eq_true _ ▸ ‹_›)
  · cases found

theorem signedNumber_inv {op : String} {operand : Expr} {value : Value}
    (denotes : Expr.signedNumber op operand = .ok value) : ∃ number, operand.number = .ok number ∧
      (op = "+" ∧ value = number ∨ op = "-" ∧ value = Expr.negated number) := by
  unfold Expr.signedNumber at denotes
  split at denotes
  · exact ⟨value, denotes, .inl ⟨rfl, rfl⟩⟩
  · cases found : operand.number with
    | error fault =>
      rw [found] at denotes
      cases denotes
    | ok number =>
      rw [found] at denotes
      cases denotes
      exact ⟨number, rfl, .inr ⟨rfl, rfl⟩⟩
  · cases denotes

theorem minus_makes {value copy : Value} {low high : Nat} (isNumeral : IsNumeral value)
    (copies : value.Copies low high copy) :
    Run.Makes store Value.Copies (e.unaryOperator "-" copy) (Expr.negated value) := by
  cases isNumeral <;> cases copies
  · exact Run.newInt_makes _
  · exact Run.newFloat_makes ((Double.isNan_negate _).trans ‹_›)
  · exact Run.newComplex_makes rfl ((Double.isNan_negate _).trans ‹_›)

theorem plus_makes {value copy : Value} {low high : Nat} (isNumeral : IsNumeral value)
    (copies : value.Copies low high copy) :
    Run.Makes store Value.Copies (e.unaryOperator "+" copy) value := by
  cases isNumeral <;> cases copies
  · exact Run.newInt_makes _
  · exact Run.newFloat_makes ‹_›
  · exact Run.newComplex_makes rfl ‹_›

/-- A real number and an imaginary one are added or subtracted as complex numbers. -/
private theorem plainOperator_start {op : String} {left : Value} {real : Double} {place : Nat} {im : Double}
    (isSign : op = "+" ∨ op = "-") (isReal : (∃ place n, left = .int place n) ∨ ∃ place x, left = .float place x)
    (nearest : Expr.doubleOf left = .ok real) (store : Store) :
    (e.plainOperator op left (.complex place (.zero false) im)).start store =
      (complexOperator op (real, .zero false) (.zero false, im)).start store := by
  have converted : (complexOf? left.plain).start store = (.ok (some (real, .zero false)), store) := by
    rcases isReal with ⟨_, n, rfl⟩ | ⟨_, x, rfl⟩
    · have found : nearestDouble (.whole n) = .ok real := nearest
      change (do return some (← Run.lift (nearestDouble (.whole n)), Double.zero false) :
        Run (Option Double.Complex)).start store = _
      rw [found]
      rfl
    · cases nearest
      rfl
  rcases isReal with ⟨_, n, rfl⟩ | ⟨_, x, rfl⟩ <;> rcases isSign with rfl | rfl
  all_goals exact (Run.bind_ok converted).trans rfl

private theorem isNan_doubleOfInt {n : Int} {real : Double} (nearest : Value.doubleOfInt n = .ok real) :
    real.isNan = false := by
  simp only [Value.doubleOfInt] at nearest
  split at nearest
  · rename_i finite
    cases nearest
    cases found : Double.ofInt n <;> rw [found] at finite <;> first | rfl | cases finite
  · cases nearest

/-- A copy of a real number. -/
private theorem isReal_of_copies {left leftCopy : Value} {real : Double} {low high : Nat}
    (copies : left.Copies low high leftCopy) (nearest : Expr.doubleOf left = .ok real) :
    ((∃ place n, leftCopy = .int place n) ∨ ∃ place x, leftCopy = .float place x) ∧
      Expr.doubleOf leftCopy = .ok real ∧ real.isNan = false := by
  cases copies with
  | int place n => exact ⟨.inl ⟨place, n, rfl⟩, nearest, isNan_doubleOfInt nearest⟩
  | float place isNumber =>
    cases nearest
    exact ⟨.inr ⟨place, _, rfl⟩, rfl, isNumber⟩
  | _ => cases nearest

/-- The sum or the difference of a real number and an imaginary one. -/
theorem sum_makes {op : String} {left right value leftCopy rightCopy : Value} {low mid high last : Nat}
    (unchanged : store.revised = []) (isSign : op = "+" ∨ op = "-") (imaginary : IsNumeral right)
    (denotes : Expr.complexNumber op left right = .ok value)
    (leftCopies : left.Copies low mid leftCopy) (rightCopies : right.Copies high last rightCopy) :
    Run.Makes store Value.Copies (e.binaryOperator op leftCopy rightCopy) value := by
  cases imaginary with
  | whole => cases denotes
  | real => cases denotes
  | @imaginary im isImaginary =>
    obtain ⟨real, nearest, denotes⟩ := bind_eq_ok_iff.1 denotes
    obtain ⟨isReal, nearest, isNumber⟩ := isReal_of_copies leftCopies nearest
    cases rightCopies with
    | complex place =>
      intro next constants
      have noHook : (e.binaryHook? op leftCopy (.complex place (.zero false) im)).start
          (store.advanced next constants) = (.ok none, store.advanced next constants) := by
        rcases isReal with ⟨_, n, rfl⟩ | ⟨_, x, rfl⟩ <;> rcases isSign with rfl | rfl <;> rfl
      have kept : (store.advanced next constants).revised = [] := unchanged
      rw [binaryOperator, Run.bind_ok noHook]
      dsimp only
      rw [Run.bind_ok (Run.current_start kept _), Run.bind_ok (Run.current_start kept _),
        plainOperator_start isSign isReal nearest]
      rcases isSign with rfl | rfl
      · cases denotes
        exact ⟨_, next + 1, constants, Nat.le_succ _, .complex next (Double.isNan_plus_zero isNumber false).1
          (Double.isNan_plus_zero isImaginary false).2, rfl⟩
      · cases denotes
        exact ⟨_, next + 1, constants, Nat.le_succ _, .complex next (Double.isNan_plus_zero isNumber true).1
          (Double.isNan_plus_zero ((Double.isNan_negate _).trans isImaginary) false).2, rfl⟩

end Engine

end EachSubject
