import EachSubject.Proofs.Hint.Variables
import EachSubject.Proofs.Outcome
import EachSubject.TypeArguments

/-!
# Worlds that are declared class by class

A program declares its classes one after the other, each below classes that exist and under a name of its own. What
a declaration computes from the classes above then stays true: the order of a class goes on through the orders of all
its bases, and its type parameters hold the variables of the arguments that it gives.
-/

namespace EachSubject

/-! ## Merged orders -/

namespace Linearization

variable {α : Type} [DecidableEq α]

/-- A merge keeps the items of each row in order. -/
theorem sublist_mergeAtMost {fuel : Nat} {rows : List (List α)} {merged row : List α}
    (found : mergeAtMost fuel rows = some merged) (inside : row ∈ rows) : row.Sublist merged := by
  induction fuel generalizing rows merged row with
  | zero =>
    cases rows with
    | nil => exact absurd inside List.not_mem_nil
    | cons first rest => cases found
  | succ fuel ih =>
    cases rows with
    | nil => exact absurd inside List.not_mem_nil
    | cons first rest =>
      obtain ⟨head, _, found⟩ := Option.bind_eq_some_iff.1 found
      obtain ⟨tail, merges, same⟩ := Option.bind_eq_some_iff.1 found
      cases same
      have kept : ∀ left : List α, left ∈ (first :: rest).map (fun row =>
          if row.head? = some head then row.tail else row) → left.Sublist tail := by
        intro left advanced
        cases left with
        | nil => exact List.nil_sublist _
        | cons x more => exact ih merges (List.mem_filter.2 ⟨advanced, rfl⟩)
      have stepped := kept _ (List.mem_map_of_mem inside)
      cases row with
      | nil => exact List.nil_sublist _
      | cons x more =>
        change (if some x = some head then more else x :: more).Sublist tail at stepped
        by_cases taken : x = head
        · rw [if_pos (congrArg some taken)] at stepped
          rw [taken]
          exact stepped.cons_cons head
        · rw [if_neg fun isHead => taken (Option.some.inj isHead)] at stepped
          exact stepped.cons head

/-- A class comes before what is above it, and the orders of its bases are kept. -/
theorem linearize_eq_some {name : α} {bases order : List α} {above : List (List α)}
    (found : linearize name bases above = some order) :
    ∃ tail, order = name :: tail ∧ ∀ row ∈ above, row.Sublist tail := by
  obtain ⟨tail, merges, same⟩ := Option.map_eq_some_iff.1 found
  refine ⟨tail, same.symm, fun row inside => ?_⟩
  cases row with
  | nil => exact List.nil_sublist _
  | cons x more =>
    exact sublist_mergeAtMost merges (List.mem_filter.2 ⟨List.mem_append_left _ inside, rfl⟩)

end Linearization

/-! ## Declarations -/

namespace ClassInfo

/-- Members aside, the classes are the same. -/
def SameHeader (c other : ClassInfo) : Prop :=
  c.name = other.name ∧ c.bases = other.bases ∧ c.writtenBases = other.writtenBases ∧
    c.typeParameters = other.typeParameters ∧ c.order = other.order

private theorem withMember_header (c : ClassInfo) (entry : String × Member) : (c.withMember entry).SameHeader c := by
  rw [withMember]
  split
  · exact ⟨rfl, rfl, rfl, rfl, rfl⟩
  · exact ⟨rfl, rfl, rfl, rfl, rfl⟩

theorem SameHeader.trans {a b c : ClassInfo} (first : a.SameHeader b) (second : b.SameHeader c) : a.SameHeader c :=
  ⟨first.1.trans second.1, first.2.1.trans second.2.1, first.2.2.1.trans second.2.2.1,
    first.2.2.2.1.trans second.2.2.2.1, first.2.2.2.2.trans second.2.2.2.2⟩

theorem withMembers_header (members : List (String × Member)) (c : ClassInfo) :
    (members.foldl withMember c).SameHeader c := by
  induction members generalizing c with
  | nil => exact ⟨rfl, rfl, rfl, rfl, rfl⟩
  | cons entry rest ih => exact (ih (c.withMember entry)).trans (withMember_header c entry)

/-- The class derives from a class under brackets. -/
def Subscripts (c : ClassInfo) (base : ClassName) (given : List Value) : Prop :=
  .subscripted (.userClass base) given ∈ c.basesAsWritten

end ClassInfo

namespace World

/-- What holds of a class in the world that it was declared in: its order starts with its own name and goes on
    through those of its bases, it derives from the classes that it gives arguments to, and the variables in these
    are its type parameters. -/
structure Keeps (w : World) (c : ClassInfo) : Prop where
  order : ∃ tail, c.order = c.name :: tail ∧ ∀ base ∈ c.bases, (w.orderOf base).Sublist tail
  bases : ∀ base given, c.Subscripts base given → base ≠ genericClass → base ∈ c.bases
  parameters : ∀ base given, c.Subscripts base given → ∀ v ∈ Hint.freeVariables given, v ∈ c.typeParameters

private theorem Keeps.of_header {w : World} {c other : ClassInfo} (same : c.SameHeader other) (keeps : w.Keeps other) :
    w.Keeps c := by
  obtain ⟨name, bases, written, parameters, order⟩ := same
  have asWritten : c.basesAsWritten = other.basesAsWritten := by
    rw [ClassInfo.basesAsWritten, ClassInfo.basesAsWritten, written, bases]
  constructor
  · rw [order, name, bases]
    exact keeps.order
  · intro base given inside
    rw [ClassInfo.Subscripts, asWritten] at inside
    rw [bases]
    exact keeps.bases base given inside
  · intro base given inside
    rw [ClassInfo.Subscripts, asWritten] at inside
    rw [parameters]
    exact keeps.parameters base given inside

private theorem mem_basesFrom {w : World} {all : List Value} {base : ClassName} {given : List Value}
    (notList : base ≠ genericClass) {written : List Value} {bases : List ClassName}
    (found : w.basesFrom all written = .ok bases) (inside : .subscripted (.userClass base) given ∈ written) :
    base ∈ bases := by
  induction written generalizing bases with
  | nil => exact absurd inside List.not_mem_nil
  | cons first later ih =>
    obtain ⟨here, isHere, found⟩ := bind_eq_ok_iff.1 found
    obtain ⟨behind, isBehind, same⟩ := bind_eq_ok_iff.1 found
    cases same
    rcases List.mem_cons.1 inside with rfl | inside
    · have listed : w.basesOf all (.subscripted (.userClass base) given) later = .ok [base] := by
        rw [basesOf, if_neg (by simp [notList])]
      cases isHere.symm.trans listed
      exact List.mem_append_left _ (List.mem_singleton_self _)
    · exact List.mem_append_right _ (ih isBehind inside)

private theorem mem_typeParametersOf {bases parameters : List Value} (found : typeParametersOf bases = .ok parameters)
    {v : Value} (free : v ∈ Hint.freeVariables bases) : v ∈ parameters := by
  rw [typeParametersOf] at found
  dsimp only at found
  split at found
  · cases found
    exact free
  · rename_i args _
    split at found
    · rename_i every
      cases found
      obtain ⟨other, listed, same⟩ := List.any_eq_true.1 (List.all_eq_true.1 every v free)
      obtain ⟨value, _, occurs⟩ := Hint.mem_freeVariables.1 free
      rwa [(Hint.occurring_isVariable value occurs).isSame_iff.1 same]
    · cases found
  · cases found

/-- The classes directly above a class: those that its bases stand for and those that its kind adds, or else the
    root. -/
def basesAbove (found more : List ClassName) : List ClassName :=
  if (found ++ more).isEmpty then [objectClass] else found ++ more

/-- What a declaration makes, the members that it declares aside. -/
def plainClass (d : ClassDeclaration) (kind : ClassKind) (bases order : List ClassName) (parameters : List Value) :
    ClassInfo where
  name := d.name
  kind := kind
  bases := bases
  writtenBases := if hasWrittenBases d.bases then some d.bases else none
  typeParameters := parameters
  order := order
  members := kindMembers kind

private theorem mem_of_subscripts {d : ClassDeclaration} {kind : ClassKind} {bases order : List ClassName}
    {parameters : List Value} {base : ClassName} {given : List Value}
    (subscripts : (plainClass d kind bases order parameters).Subscripts base given) :
    hasWrittenBases d.bases = true ∧ .subscripted (.userClass base) given ∈ d.bases := by
  by_cases written : hasWrittenBases d.bases = true
  · rw [ClassInfo.Subscripts, ClassInfo.basesAsWritten, plainClass, if_pos written] at subscripts
    exact ⟨written, subscripts⟩
  · rw [ClassInfo.Subscripts, ClassInfo.basesAsWritten, plainClass, if_neg written] at subscripts
    obtain ⟨name, _, same⟩ := List.mem_map.1 subscripts
    cases same

/-- The class is made from its bases: they are linearized, and the type parameters are found if a base is written as
    more than a class. -/
def MadeFrom (w : World) (d : ClassDeclaration) (kind : ClassKind) (c : ClassInfo) (bases : List ClassName) : Prop :=
  ∃ order parameters, Linearization.linearize d.name bases (bases.map w.orderOf) = some order ∧
    (hasWrittenBases d.bases = true → typeParametersOf d.bases = .ok parameters) ∧
    c = d.members.foldl ClassInfo.withMember (plainClass d kind bases order parameters)

private theorem madeFrom_of_made {w : World} {d : ClassDeclaration} {kind : ClassKind} {bases : List ClassName}
    {c : ClassInfo} (made : (do
      if !w.areCompatible bases then throw .mismatch
      let order ← Fault.orElse .mismatch (Linearization.linearize d.name bases (bases.map w.orderOf))
      let typeParameters ← if hasWrittenBases d.bases then typeParametersOf d.bases else pure []
      let plain : ClassInfo := {
        name := d.name
        kind
        bases
        writtenBases := if hasWrittenBases d.bases then some d.bases else none
        typeParameters
        order
        members := kindMembers kind }
      return d.members.foldl ClassInfo.withMember plain : Except Fault ClassInfo) = .ok c) :
    w.MadeFrom d kind c bases := by
  by_cases compatible : (!w.areCompatible bases) = true
  · rw [if_pos compatible] at made
    cases made
  rw [if_neg compatible] at made
  obtain ⟨order, isOrder, made⟩ := bind_eq_ok_iff.1 made
  have linear : Linearization.linearize d.name bases (bases.map w.orderOf) = some order := by
    cases merged : Linearization.linearize d.name bases (bases.map w.orderOf) with
    | none => rw [merged] at isOrder; cases isOrder
    | some other => rw [merged] at isOrder; cases isOrder; rfl
  by_cases written : hasWrittenBases d.bases = true
  · simp only [if_pos written] at made
    obtain ⟨parameters, isParameters, made⟩ := bind_eq_ok_iff.1 made
    cases made
    exact ⟨order, parameters, linear, fun _ => isParameters, by rw [plainClass, if_pos written]⟩
  · simp only [if_neg written] at made
    cases made
    exact ⟨order, [], linear, fun isWritten => absurd isWritten written, by rw [plainClass, if_neg written]⟩

/-- A declaration makes its class from the classes that its bases stand for. -/
theorem classFor_madeFrom {w : World} {d : ClassDeclaration} {c : ClassInfo} (made : w.classFor d = .ok c) :
    ∃ kind found, kindFor d.kind = .ok kind ∧ w.basesFrom d.bases d.bases = .ok found ∧
      w.MadeFrom d kind c (basesAbove found (kindBases kind)) := by
  rw [classFor] at made
  obtain ⟨kind, isKind, made⟩ := bind_eq_ok_iff.1 made
  by_cases plain : namesPlainGeneric d.bases = true
  · rw [if_pos plain] at made
    cases made
  rw [if_neg plain] at made
  obtain ⟨found, isFound, made⟩ := bind_eq_ok_iff.1 made
  refine ⟨kind, found, isKind, isFound, ?_⟩
  have isMade := madeFrom_of_made made
  clear made isFound isKind
  revert isMade
  generalize kindBases kind = more
  cases found <;> cases more <;> exact id

/-- A declaration makes a class that keeps to what is above it. -/
theorem classFor_keeps {w : World} {d : ClassDeclaration} {c : ClassInfo} (made : w.classFor d = .ok c) :
    c.name = d.name ∧ w.Keeps c := by
  obtain ⟨kind, found, _, isFound, order, parameters, isOrder, isParameters, rfl⟩ := classFor_madeFrom made
  obtain ⟨tail, starts, goesOn⟩ := Linearization.linearize_eq_some isOrder
  refine ⟨(ClassInfo.withMembers_header d.members _).1, ?_⟩
  refine Keeps.of_header (ClassInfo.withMembers_header d.members _) ⟨⟨tail, starts, fun base inside => ?_⟩, ?_, ?_⟩
  · exact goesOn _ (List.mem_map_of_mem inside)
  · intro base given inside notList
    have among := mem_basesFrom notList isFound (mem_of_subscripts inside).2
    rw [plainClass, basesAbove, if_neg (by simp [List.ne_nil_of_mem among])]
    exact List.mem_append_left _ among
  · intro base given inside v free
    obtain ⟨written, among⟩ := mem_of_subscripts inside
    refine mem_typeParametersOf (isParameters written) (Hint.mem_freeVariables.2 ⟨_, among, ?_⟩)
    exact Hint.mem_occurringAll.2 (Hint.mem_freeVariables.1 free)

/-- The world arises by adding modules and declaring classes, each under a name that is not in use and below classes
    that exist. -/
inductive Declared : World → Prop where
  | empty : Declared .empty
  | addModule {w : World} (before : Declared w) (name : String) : Declared (w.addModule name)
  | declare {w w' : World} {d : ClassDeclaration} (before : Declared w) (made : w.declare d = .ok w')
      (fresh : w.class? d.name = none)
      (known : ∀ c, w.classFor d = .ok c → ∀ base ∈ c.bases, (w.class? base).isSome = true) : Declared w'

/-- A class is a value, whichever kind it is of. -/
theorem classValue_eq (w : World) (name : ClassName) : ∃ isEnum, w.classValue name = .class name isEnum := by
  rw [World.classValue]
  split
  · exact ⟨true, rfl⟩
  · exact ⟨false, rfl⟩

/-- A further class is found by its name. -/
theorem class?_withClass_self (w : World) (c : ClassInfo) : (w.withClass c).class? c.name = some c := by
  rw [class?, withClass, List.find?_cons, beq_self_eq_true]
  rfl

/-- A further class changes nothing about those of other names. -/
theorem class?_withClass_ne (w : World) {c : ClassInfo} {name : ClassName} (differs : c.name ≠ name) :
    (w.withClass c).class? name = w.class? name := by
  rw [class?, class?, withClass, List.find?_cons, beq_false_of_ne differs]

/-- A further class changes nothing about those that are known. -/
theorem class?_withClass {w : World} {c : ClassInfo} (fresh : w.class? c.name = none) {name : ClassName}
    (known : (w.class? name).isSome = true) : (w.withClass c).class? name = w.class? name := by
  refine w.class?_withClass_ne ?_
  rintro rfl
  rw [fresh] at known
  cases known

private theorem Keeps.withClass {w : World} {c other : ClassInfo} (fresh : w.class? c.name = none)
    (keeps : w.Keeps other) (known : ∀ base ∈ other.bases, (w.class? base).isSome = true) :
    (w.withClass c).Keeps other := by
  obtain ⟨tail, starts, above⟩ := keeps.order
  refine ⟨⟨tail, starts, fun base inside => ?_⟩, keeps.bases, keeps.parameters⟩
  rw [orderOf, class?_withClass fresh (known base inside)]
  exact above base inside

namespace Declared

/-- Every class is found by its name, derives from known classes, and keeps to them. -/
private theorem classes_keep {w : World} (declared : w.Declared) : ∀ c ∈ w.classes,
    w.class? c.name = some c ∧ (∀ base ∈ c.bases, (w.class? base).isSome = true) ∧ w.Keeps c := by
  induction declared with
  | empty => exact fun c inside => absurd inside List.not_mem_nil
  | addModule before name ih =>
    intro c inside
    obtain ⟨found, derives, keeps⟩ := ih c inside
    exact ⟨found, derives, ⟨keeps.order, keeps.bases, keeps.parameters⟩⟩
  | @declare w w' d before made fresh known ih =>
    obtain ⟨c, isMade, same⟩ := bind_eq_ok_iff.1 made
    cases same
    obtain ⟨isName, keeps⟩ := classFor_keeps isMade
    rw [← isName] at fresh
    intro other inside
    rcases List.mem_cons.1 inside with rfl | inside
    · refine ⟨w.class?_withClass_self other, fun base isBase => ?_, keeps.withClass fresh (known other isMade)⟩
      · rw [class?_withClass fresh (known other isMade base isBase)]
        exact known other isMade base isBase
    · obtain ⟨found, derives, keeps⟩ := ih other inside
      refine ⟨?_, fun base isBase => ?_, keeps.withClass fresh derives⟩
      · rw [class?_withClass fresh (by rw [found]; rfl), found]
      · rw [class?_withClass fresh (derives base isBase)]
        exact derives base isBase

theorem class?_of_mem {w : World} (declared : w.Declared) {c : ClassInfo} (inside : c ∈ w.classes) :
    w.class? c.name = some c :=
  (declared.classes_keep c inside).1

theorem keeps {w : World} (declared : w.Declared) {c : ClassInfo} (inside : c ∈ w.classes) : w.Keeps c :=
  (declared.classes_keep c inside).2.2

/-- The classes of the library stay what they are. -/
theorem class?_library {w : World} (declared : w.Declared) {name : ClassName} {c : ClassInfo}
    (found : Library.class? name = some c) : w.class? name = some c := by
  induction declared with
  | empty => exact found
  | addModule before name ih => exact ih
  | @declare w w' d before made fresh known ih =>
    obtain ⟨other, isMade, same⟩ := bind_eq_ok_iff.1 made
    cases same
    rw [← (classFor_keeps isMade).1] at fresh
    rw [class?_withClass fresh (by rw [ih]; rfl), ih]

/-- No class is declared under the name of one of the library. -/
theorem not_library {w : World} (declared : w.Declared) {c : ClassInfo} (inside : c ∈ w.classes) :
    Library.class? c.name = none := by
  induction declared with
  | empty => exact absurd inside List.not_mem_nil
  | addModule before name ih => exact ih inside
  | @declare w w' d before made fresh known ih =>
    obtain ⟨other, isMade, same⟩ := bind_eq_ok_iff.1 made
    cases same
    rcases List.mem_cons.1 inside with rfl | inside
    · rw [← (classFor_keeps isMade).1] at fresh
      exact (Option.or_eq_none_iff.1 fresh).2
    · exact ih inside

end Declared

end World

end EachSubject
