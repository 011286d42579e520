import EachSubject.Proofs.Signatures
import EachSubject.Proofs.Visibility
import EachSubject.Proofs.World.Chains

/-!
# Classes that add nothing

A class with one base, to which it gives no arguments, and without members of its own is described as its base is:
the methods are found in the same classes, and the target is bound by the same arguments. Only a default that the
generated module has to read back from the method is reached through the class that is described.
-/

namespace EachSubject

/-! ## Orders -/

namespace Linearization

variable {α : Type} [DecidableEq α]

private theorem advance_row (x : α) (more : List α) :
    advance x [x :: more] = [more].filter fun row => !row.isEmpty := by
  rw [advance, List.map_singleton, List.head?_cons, if_pos rfl, List.tail_cons]

private theorem advance_base (base : α) (tail : List α) :
    advance base [base :: tail, [base]] = [tail].filter fun row => !row.isEmpty := by
  rw [advance, List.map_cons, List.map_singleton, List.head?_cons, List.head?_cons, if_pos rfl, if_pos rfl,
    List.tail_cons, List.tail_cons]
  cases tail <;> rfl

/-- A merge of a single row is that row. -/
private theorem mergeAtMost_single {fuel : Nat} {row merged : List α}
    (found : mergeAtMost fuel ([row].filter fun row => !row.isEmpty) = some merged) : merged = row := by
  induction fuel generalizing row merged with
  | zero =>
    cases row with
    | nil => cases found; rfl
    | cons x more => cases found
  | succ fuel ih =>
    cases row with
    | nil => cases found; rfl
    | cons x more =>
      obtain ⟨head, chosen, found⟩ := Option.bind_eq_some_iff.1 found
      obtain ⟨tail, merges, same⟩ := Option.bind_eq_some_iff.1 found
      cases same
      have isFirst : head = x := List.mem_singleton.1 (List.mem_of_find?_eq_some chosen)
      rw [show ([x :: more].filter fun row => !row.isEmpty) = [x :: more] from rfl, isFirst, advance_row] at merges
      rw [isFirst, ih merges]

/-- Below a single base, a class goes on through the order of that base. -/
theorem linearize_single {name base : α} {tail order : List α}
    (found : linearize name [base] [base :: tail] = some order) : order = name :: base :: tail := by
  obtain ⟨merged, isMerged, starts⟩ := Option.map_eq_some_iff.1 found
  obtain ⟨head, chosen, goesOn⟩ := Option.bind_eq_some_iff.1 isMerged
  obtain ⟨rest, merges, same⟩ := Option.bind_eq_some_iff.1 goesOn
  have isBase : head = base := by
    have among := List.mem_of_find?_eq_some chosen
    simpa using among
  rw [isBase, show (([base :: tail] ++ [[base]]).filter fun row : List α => !row.isEmpty) = [base :: tail, [base]] from
    rfl, advance_base] at merges
  rw [← starts, ← Option.some.inj same, isBase, mergeAtMost_single merges]

/-- A row without repetitions is merged with nothing else into itself. -/
private theorem mergeAtMost_row : ∀ {row : List α} {fuel : Nat}, row.Nodup → row.length ≤ fuel →
    mergeAtMost fuel ([row].filter fun row => !row.isEmpty) = some row
  | [], fuel, _, _ => by
    rw [show ([[]] : List (List α)).filter (fun row => !row.isEmpty) = [] from rfl, mergeAtMost]
  | x :: more, 0, _, room => absurd room (by simp)
  | x :: more, fuel + 1, distinct, room => by
    obtain ⟨fresh, distinct⟩ := List.nodup_cons.1 distinct
    have chosen : candidate? [x :: more] = some x := by simp [candidate?, fresh]
    have behind := mergeAtMost_row distinct (Nat.le_of_succ_le_succ room)
    rw [show ([x :: more].filter fun row => !row.isEmpty) = [x :: more] from rfl, mergeAtMost, chosen,
      Option.bind_eq_bind, Option.bind_some, advance_row, behind]
    · rfl
    · rintro ⟨⟩

/-- Below a single base whose order has no repetitions, a class goes on through that order. -/
theorem linearize_base (name : α) {base : α} {tail : List α} (distinct : (base :: tail).Nodup) :
    linearize name [base] [base :: tail] = some (name :: base :: tail) := by
  obtain ⟨fresh, others⟩ := List.nodup_cons.1 distinct
  have chosen : candidate? [base :: tail, [base]] = some base := by simp [candidate?, fresh]
  have room : tail.length ≤ ([base :: tail] ++ [[base]]).flatten.length := by
    simp only [List.cons_append, List.nil_append, List.flatten_cons, List.length_append, List.length_cons]
    omega
  have merged : merge ([base :: tail] ++ [[base]]) = some (base :: tail) := by
    rw [merge, show (([base :: tail] ++ [[base]]).filter fun row : List α => !row.isEmpty) = [base :: tail, [base]] from
      rfl, mergeAtMost, chosen, Option.bind_eq_bind, Option.bind_some, advance_base, mergeAtMost_row others room]
    · rfl
    · rintro ⟨⟩
  rw [linearize, merged]
  rfl

end Linearization

namespace Library

private theorem Row.order_starts (r : Row) (known : List (ClassName × List ClassName)) :
    (r.order known).head? = some r.name := by
  rw [Row.order]
  cases merged : Linearization.linearize r.name r.bases _ with
  | none => rfl
  | some order =>
    obtain ⟨tail, starts, _⟩ := Linearization.linearize_eq_some merged
    rw [starts]
    rfl

private theorem classesOf_start (rows : List Row) : ∀ entry ∈ classesOf rows, entry.2.order.head? = some entry.1 := by
  have grows : ∀ done : List (ClassName × ClassInfo), (∀ entry ∈ done, entry.2.order.head? = some entry.1) →
      ∀ row : Row, ∀ entry ∈ done ++ [(row.name,
        { name := row.name, bases := row.bases, order := row.order (done.map fun known => (known.1, known.2.order))
          members := row.allMembers, missing := row.missing })], entry.2.order.head? = some entry.1 := by
    intro done starts row entry among
    rcases List.mem_append.1 among with among | among
    · exact starts entry among
    · cases List.mem_singleton.1 among
      exact row.order_starts _
  exact List.foldlRecOn rows _ (fun _ among => absurd among List.not_mem_nil) fun done starts row _ =>
    grows done starts row

private theorem classes_start : ∀ entry ∈ classes, entry.2.order.head? = some entry.1 := by
  have written : ∀ entry ∈ subjectClasses ++ typingClasses, entry.2.order.head? = some entry.1 := by decide
  intro entry among
  rw [classes, List.mem_append, List.mem_append] at among
  rcases among with (among | among) | among
  · exact written entry among
  · exact classesOf_start _ entry among
  · cases List.mem_singleton.1 among
    rfl

private theorem pathsAbove_starts (path : String) (fuel : Nat) : (pathsAbove path (fuel + 1)).head? = some path := by
  rw [pathsAbove]
  by_cases isGroup : path = "ExceptionGroup"
  · rw [if_pos isGroup, isGroup]
    rfl
  · rw [if_neg isGroup]
    rfl

/-- The order of a class of the library starts with that class. -/
theorem order_starts {name : ClassName} {c : ClassInfo} (found : class? name = some c) :
    c.order.head? = some name := by
  rw [class?] at found
  by_cases builtin : name.module = ClassName.builtinModule
  · rw [if_pos builtin, builtinClass?] at found
    by_cases known : isBuiltin name.path = true
    · rw [if_pos known] at found
      cases found
      rw [List.head?_map, chainLength, pathsAbove_starts, Option.map_some, ClassName.builtin, ← builtin]
    · rw [if_neg known] at found
      cases found
  · rw [if_neg builtin] at found
    obtain ⟨before, after, split, _⟩ := List.lookup_eq_some_iff.1 found
    exact classes_start (name, c) (by rw [split]; exact List.mem_append_right _ List.mem_cons_self)

end Library

/-! ## Heirs -/

/-- The class has one base, which it gives no arguments, and no members of its own. -/
structure ClassInfo.IsHeir (c : ClassInfo) (parent : ClassName) : Prop where
  bases : c.bases = [parent]
  plain : c.writtenBases = none
  empty : c.members = []

/-- The class stands at the top of its module, and in no function. -/
structure ClassName.StandsAtTop (name : ClassName) : Prop where
  noPoint : name.isTopLevel = true
  notLocal : name.isLocal = false

theorem ClassName.StandsAtTop.reachable {name : ClassName} (top : name.StandsAtTop) :
    name.reachable = .ok name.qualified := by
  rw [ClassName.reachable, top.notLocal]
  rfl

namespace World

variable {w : World} {c : ClassInfo} {parent : ClassName}

/-- The order of a class is a linearization of its bases. -/
theorem classFor_linearizes {d : ClassDeclaration} (made : w.classFor d = .ok c) :
    Linearization.linearize c.name c.bases (c.bases.map w.orderOf) = some c.order := by
  obtain ⟨kind, found, _, _, order, parameters, linear, _, rfl⟩ := classFor_madeFrom made
  obtain ⟨name, bases, _, _, isOrder⟩ := ClassInfo.withMembers_header d.members
    (plainClass d kind (basesAbove found (kindBases kind)) order parameters)
  rw [name, bases, isOrder]
  exact linear

/-- Declaring a class with a single class as its base, and nothing in it, makes an heir of that class. -/
theorem classFor_heir {name : ClassName} {isEnum : Bool}
    (made : w.classFor { name, kind := .ordinary, bases := [.class parent isEnum], members := [] } = .ok c) :
    c.name = name ∧ c.IsHeir parent := by
  obtain ⟨kind, found, isKind, isFound, order, parameters, _, _, rfl⟩ := classFor_madeFrom made
  cases isKind
  cases isFound
  exact ⟨rfl, rfl, rfl, rfl⟩

/-- The order of a known class starts with that class. -/
private theorem order_starts (declared : w.Declared) {name : ClassName} (known : (w.class? name).isSome = true) :
    ∃ tail, w.orderOf name = name :: tail := by
  obtain ⟨c, found⟩ := Option.isSome_iff_exists.1 known
  rw [orderOf, found]
  dsimp only
  rcases Option.or_eq_some_iff.1 found with found | ⟨_, found⟩
  · have isName := List.find?_some found
    obtain ⟨tail, starts, _⟩ := (declared.keeps (List.mem_of_find?_eq_some found)).order
    exact ⟨tail, by rw [starts, eq_of_beq isName]⟩
  · exact List.head?_eq_some_iff.1 (Library.order_starts found)

/-- A class is below itself. -/
theorem Declared.isSubclass_self (declared : w.Declared) (name : ClassName) : w.isSubclass name name = true := by
  rw [isSubclass, List.contains_iff_mem]
  cases found : w.class? name with
  | none =>
    rw [orderOf, found]
    exact List.mem_cons_self
  | some c =>
    obtain ⟨tail, starts⟩ := order_starts declared (by rw [found]; rfl)
    rw [starts]
    exact List.mem_cons_self

/-- A class below another one, with further members. -/
def childOf (w : World) (name parent : ClassName) (members : List (String × Member)) : ClassInfo where
  name := name
  bases := [parent]
  order := name :: w.orderOf parent
  members := members

private theorem withMembers_fresh : ∀ {members : List (String × Member)} {c : ClassInfo},
    ((c.members ++ members).map (·.1)).Nodup →
      members.foldl ClassInfo.withMember c = { c with members := c.members ++ members }
  | [], c, _ => by rw [List.foldl_nil, List.append_nil]
  | entry :: members, c, distinct => by
    rw [List.append_cons] at distinct
    have fresh : ¬c.members.any (·.1 == entry.1) = true := by
      rw [List.any_eq_true]
      rintro ⟨other, among, same⟩
      have distinct := List.Nodup.of_append_left (List.map_append ▸ distinct)
      rw [List.map_append, List.nodup_append] at distinct
      exact distinct.2.2 _ (List.mem_map_of_mem among) _ (List.mem_singleton_self _) (LawfulBEq.eq_of_beq same)
    rw [List.foldl_cons, ClassInfo.withMember, if_neg fresh]
    exact (withMembers_fresh distinct).trans (by rw [← List.append_cons])

/-- Below a class that can be extended, a class can be declared with any members of different names. -/
theorem Declared.classFor_child (declared : w.Declared) (extensible : w.isExtensible parent = true)
    (distinct : (w.orderOf parent).Nodup) (noList : parent ≠ genericClass) (known : (w.class? parent).isSome = true)
    (name : ClassName) (isEnum : Bool) {members : List (String × Member)} (names : (members.map (·.1)).Nodup) :
    w.classFor { name, kind := .ordinary, bases := [.class parent isEnum], members } =
      .ok (w.childOf name parent members) := by
  obtain ⟨tail, starts⟩ := order_starts declared known
  have fits : w.fitTogether parent parent = true := by
    rw [fitTogether]
    cases w.solidOf parent with
    | none => rfl
    | some solid => simp [declared.isSubclass_self]
  have compatible : w.areCompatible [parent] = true := by simp [areCompatible, extensible, fits]
  have plain : namesPlainGeneric [.class parent isEnum] = false := by simp [namesPlainGeneric, listsClass, noList]
  have linear : Linearization.linearize name [parent] ([parent].map w.orderOf) = some (name :: w.orderOf parent) := by
    rw [starts] at distinct
    rw [List.map_singleton, starts]
    exact Linearization.linearize_base name distinct
  rw [classFor]
  refine bind_eq_ok_iff.2 ⟨.ordinary, rfl, ?_⟩
  dsimp only
  rw [plain]
  refine bind_eq_ok_iff.2 ⟨[parent], rfl, ?_⟩
  refine (if_neg (show ¬(!w.areCompatible [parent]) = true by simp [compatible])).trans ?_
  refine bind_eq_ok_iff.2 ⟨_, congrArg (Fault.orElse .mismatch) linear, bind_eq_ok_iff.2 ⟨[], rfl, ?_⟩⟩
  exact congrArg Except.ok (withMembers_fresh names)

/-- A further class gives nothing to classes that it is not above. -/
theorem lookupIn_withClass {member : String} : ∀ {classes : List ClassName}, c.name ∉ classes →
    (w.withClass c).lookupIn member classes = w.lookupIn member classes
  | [], _ => rfl
  | owner :: rest, outside => by
    obtain ⟨differs, behind⟩ := not_or.1 (List.mem_cons.not.1 outside)
    rw [lookupIn, lookupIn, class?_withClass_ne w differs, lookupIn_withClass behind]

private theorem originClass?_ofClass (name : ClassName) : Hint.originClass? (.ofClass name) = some name := by
  rw [Hint.originClass?.eq_def]
  cases found : Hint.origin? (.ofClass name) with
  | none => rfl
  | some origin =>
    rw [Hint.origin?.eq_def, Value.ofClass] at found
    split at found
    case h_9 same =>
      cases same
      cases found
      rfl
    case h_10 => cases found
    all_goals
      rename_i same
      cases same

private theorem substitute_nothing : substitute [] = id := by
  funext argument
  cases argument <;> rfl

/-- The base class of subjects binds nothing for itself. -/
private theorem typeArguments?_subject (declared : w.Declared) : w.typeArguments? subjectClass subjectClass = none := by
  have outside : w.isSubclass genericClass subjectClass = false := by
    rw [isSubclass, orderOf, declared.class?_library (show Library.class? genericClass = some _ from rfl)]
    decide
  have written : Library.subject.basesAsWritten =
      [.subscripted (.userClass genericClass) [subjectVariable "S", subjectVariable "T"]] := rfl
  have origin : Hint.originClass? (.subscripted (.userClass genericClass) [subjectVariable "S", subjectVariable "T"]) =
      some genericClass := rfl
  rw [typeArguments?, subject_order declared, List.length_cons, argumentsWithin,
    declared.class?_library (c := Library.subject) rfl]
  dsimp only
  rw [written, List.findSome?_singleton, origin]
  dsimp only
  rw [outside]
  rfl

namespace Declared

/-- A class with a single base goes on through the order of that base. -/
private theorem order_of_mem (declared : w.Declared) : ∀ c ∈ w.classes, ∀ base, c.bases = [base] →
    (w.class? base).isSome = true ∧ c.order = c.name :: w.orderOf base := by
  induction declared with
  | empty => exact fun c inside => absurd inside List.not_mem_nil
  | addModule before name ih => exact ih
  | @declare w w' d before made fresh known ih =>
    obtain ⟨c, isMade, same⟩ := bind_eq_ok_iff.1 made
    cases same
    rw [← (classFor_keeps isMade).1] at fresh
    have kept : ∀ base, (w.class? base).isSome = true → (w.withClass c).class? base = w.class? base :=
      fun base isKnown => class?_withClass fresh isKnown
    intro other inside base single
    rcases List.mem_cons.1 inside with rfl | inside
    · have isKnown := known other isMade base (by rw [single]; exact List.mem_singleton_self base)
      obtain ⟨tail, starts⟩ := order_starts before isKnown
      have linear := classFor_linearizes isMade
      rw [single, List.map_singleton, starts] at linear
      rw [orderOf, kept base isKnown]
      exact ⟨isKnown, (Linearization.linearize_single linear).trans (congrArg _ starts.symm)⟩
    · obtain ⟨isKnown, goesOn⟩ := ih other inside base single
      rw [orderOf, kept base isKnown]
      exact ⟨isKnown, goesOn⟩

section

variable (declared : w.Declared) (inside : c ∈ w.classes) (heir : c.IsHeir parent)

include declared inside heir

theorem order_heir : w.orderOf c.name = c.name :: w.orderOf parent := by
  rw [orderOf, declared.class?_of_mem inside]
  exact (order_of_mem declared c inside parent heir.bases).2

/-- The methods of an heir are those of the class above it. -/
theorem methods_heir : Description.methods w c.name = Description.methods w parent := by
  rw [Description.methods, order_heir declared inside heir, Description.methodsOf, declared.class?_of_mem inside]
  simp [heir.empty, Description.freshMembers, Description.methods]

/-- An heir binds the arguments that the class above it binds. -/
theorem typeArguments?_heir (below : w.isSubclass parent subjectClass = true) :
    w.typeArguments? c.name subjectClass = w.typeArguments? parent subjectClass := by
  have asWritten : c.basesAsWritten = [Value.ofClass parent] := by
    rw [ClassInfo.basesAsWritten, heir.plain, heir.bases]
    rfl
  rw [typeArguments?, typeArguments?, order_heir declared inside heir, List.length_cons, argumentsWithin,
    declared.class?_of_mem inside]
  dsimp only
  rw [asWritten, List.findSome?_singleton, originClass?_ofClass]
  dsimp only
  rw [below]
  by_cases isSubject : parent = subjectClass
  · have nothing := typeArguments?_subject declared
    rw [typeArguments?] at nothing
    rw [if_neg (by decide), if_pos isSubject, isSubject, nothing]
    rfl
  · rw [if_neg (by decide), if_neg isSubject]
    cases w.argumentsWithin subjectClass (w.orderOf parent).length parent with
    | none => rfl
    | some found => simp [Hint.arguments, Value.ofClass, substitute_nothing]

end

end Declared

end World

/-! ## Descriptions -/

/-- Where a method keeps the default of a parameter: by its place, or by its name. -/
inductive DefaultSlot where
  | byPlace (index : Nat)
  | byName (name : String)

/-- How the place is reached from the method. -/
def DefaultSlot.text : DefaultSlot → String
  | byPlace index => ".__defaults__[" ++ toString index ++ "]"
  | byName name => ".__kwdefaults__[" ++ Text.quoted name ++ "]"

/-- What a function keeps there. -/
def DefaultSlot.value? (f : Function) : DefaultSlot → Option Value
  | byPlace index => f.storedDefaults[index]?
  | byName name => f.storedKeywordDefaults.lookup name

/-- The same default, where the method goes by two references: there is none, it is written as a literal, or the
    place where the method keeps it is reached through the reference. -/
inductive SameDefault (reference other : String) : Option String → Option String → Prop where
  | absent : SameDefault reference other none none
  | literal {text : String} {value : Value} (denotes : Source.literalOf text = .ok value) :
      SameDefault reference other (some text) (some text)
  | kept (slot : DefaultSlot) : SameDefault reference other (some (reference ++ slot.text)) (some (other ++ slot.text))

/-- The same parameter, where its method goes by two references. -/
structure SameParameter (reference other : String) (p q : ParameterShape) : Prop where
  fields : q = { p with default := q.default }
  default : SameDefault reference other p.default q.default

/-- The same method, as it is described for two classes. -/
structure SameMethod (subject other : String) (m n : MethodShape) : Prop where
  fields : n = { m with parameters := n.parameters }
  parameters : List.Forall₂ (SameParameter (subject ++ "." ++ m.name) (other ++ "." ++ m.name)) m.parameters
    n.parameters

theorem SameMethod.isEligible {subject other : String} {m n : MethodShape} (same : SameMethod subject other m n) :
    m.isEligible = n.isEligible := by
  rw [same.fields]
  rfl

namespace Description

variable {w : World} {f : Function} {reference : String} {p : FunctionParameter}

private theorem append_last (start a b c : String) : start ++ a ++ b ++ c = start ++ (a ++ b ++ c) := by
  rw [String.append_assoc, String.append_assoc, String.append_assoc]

/-- Where a function keeps the default of a parameter, if it keeps that one. -/
def keptSlot? (f : Function) (p : FunctionParameter) (value : Value) : Option DefaultSlot :=
  (if p.mode = .keywordOnly then some (.byName p.name) else (defaultIndex? f p.name).map .byPlace).filter fun slot =>
    (slot.value? f).any (keeps f · value)

/-- Where a default is kept does not depend on how the method is reached. -/
theorem storedDefault?_eq (f : Function) (reference : String) (p : FunctionParameter) (value : Value) :
    storedDefault? f reference p value = (keptSlot? f p value).map fun slot => reference ++ slot.text := by
  rw [storedDefault?, keptSlot?]
  by_cases keywordOnly : p.mode = .keywordOnly
  · rw [if_pos keywordOnly, if_pos keywordOnly, Option.filter_some, DefaultSlot.value?]
    cases f.storedKeywordDefaults.lookup p.name with
    | none => rfl
    | some kept =>
      dsimp only [Option.any_some]
      split
      · exact congrArg some (append_last reference _ _ _)
      · rfl
  · rw [if_neg keywordOnly, if_neg keywordOnly]
    cases defaultIndex? f p.name with
    | none => rfl
    | some index =>
      dsimp only [Option.map_some]
      rw [Option.filter_some, DefaultSlot.value?]
      cases f.storedDefaults[index]? with
      | none => rfl
      | some kept =>
        dsimp only [Option.any_some]
        split
        · exact congrArg some (append_last reference _ _ _)
        · rfl

private theorem denotes_of_isLiteral {text : String} {value : Value} (judged : isLiteral text value = .ok true) :
    ∃ parsed, Source.literalOf text = .ok parsed := by
  rw [isLiteral] at judged
  cases denotes : Source.literalOf text with
  | ok parsed => exact ⟨parsed, rfl⟩
  | error fault =>
    rw [denotes] at judged
    dsimp only at judged
    split at judged <;> cases judged

/-- The text of a default, as seen from another reference. -/
theorem defaultText_reread {text : Option String} (found : defaultText f reference p = .ok text) (other : String) :
    ∃ again, defaultText f other p = .ok again ∧ SameDefault reference other text again := by
  rw [defaultText.eq_def] at found ⊢
  cases isDefault : p.default with
  | none =>
    rw [isDefault] at found
    cases found
    exact ⟨none, rfl, .absent⟩
  | some value =>
    rw [isDefault] at found
    dsimp only at found ⊢
    obtain ⟨shown, shows, found⟩ := bind_eq_ok_iff.1 found
    obtain ⟨literal, judged, found⟩ := bind_eq_ok_iff.1 found
    cases literal with
    | true =>
      cases found
      obtain ⟨parsed, denotes⟩ := denotes_of_isLiteral judged
      exact ⟨some shown, bind_eq_ok_iff.2 ⟨shown, shows, bind_eq_ok_iff.2 ⟨true, judged, rfl⟩⟩, .literal denotes⟩
    | false =>
      rw [storedDefault?_eq] at found
      cases isKept : keptSlot? f p value with
      | none =>
        rw [isKept] at found
        cases found
      | some slot =>
        rw [isKept] at found
        cases found
        refine ⟨some (other ++ slot.text), bind_eq_ok_iff.2 ⟨shown, shows, bind_eq_ok_iff.2 ⟨false, judged, ?_⟩⟩,
          .kept slot⟩
        rw [storedDefault?_eq, isKept]
        rfl

/-- The shape of a parameter, as seen from another reference. -/
theorem parameterShape_reread {hints : List (String × Value)} {shape : ParameterShape}
    (made : parameterShape f reference hints p = .ok shape) (other : String) :
    ∃ again, parameterShape f other hints p = .ok again ∧ SameParameter reference other shape again := by
  rw [parameterShape] at made ⊢
  obtain ⟨text, found, made⟩ := bind_eq_ok_iff.1 made
  obtain ⟨again, foundAgain, same⟩ := defaultText_reread found other
  dsimp only at made
  cases written : (hints.lookup p.name).or p.hint with
  | none =>
    rw [written] at made
    cases made
    exact ⟨_, bind_eq_ok_iff.2 ⟨again, foundAgain, rfl⟩, rfl, same⟩
  | some declared =>
    rw [written] at made
    obtain ⟨⟨typeText, annotations⟩, isType, made⟩ := bind_eq_ok_iff.1 made
    cases made
    exact ⟨_, bind_eq_ok_iff.2 ⟨again, foundAgain, bind_eq_ok_iff.2 ⟨_, isType, rfl⟩⟩, rfl, same⟩

/-- The shape of a method, as it is described for another class. -/
theorem bareMethodShape_reread {subject : ClassName} {m : FoundMethod} {shape : MethodShape}
    (made : bareMethodShape w subject m = .ok shape) (other : ClassName) :
    ∃ again, bareMethodShape w other m = .ok again ∧ SameMethod subject.simple other.simple shape again := by
  rw [bareMethodShape] at made ⊢
  obtain ⟨hints, areHints, made⟩ := bind_eq_ok_iff.1 made
  obtain ⟨returns, isReturn, made⟩ := bind_eq_ok_iff.1 made
  obtain ⟨owner, isOwner, made⟩ := bind_eq_ok_iff.1 made
  obtain ⟨parameters, are, made⟩ := bind_eq_ok_iff.1 made
  cases made
  obtain ⟨again, areAgain, same⟩ := mapM_related are fun _ _ _ shape =>
    parameterShape_reread shape (other.simple ++ "." ++ m.name)
  exact ⟨_, bind_eq_ok_iff.2 ⟨hints, areHints, bind_eq_ok_iff.2 ⟨returns, isReturn, bind_eq_ok_iff.2 ⟨owner, isOwner,
    bind_eq_ok_iff.2 ⟨again, areAgain, rfl⟩⟩⟩⟩, rfl, same⟩

theorem methodShape_reread {subject : ClassName} {subjectName : String} {m : FoundMethod} {shape : MethodShape}
    (made : methodShape w subject subjectName m = .ok shape) (other : ClassName) (otherName : String) :
    ∃ again, methodShape w other otherName m = .ok again ∧ SameMethod subject.simple other.simple shape again := by
  rw [methodShape, mapError_eq_ok_iff] at made
  obtain ⟨again, madeAgain, same⟩ := bareMethodShape_reread made other
  exact ⟨again, mapError_eq_ok_iff.2 madeAgain, same⟩

/-- A target is found if an argument is bound for it that has a text. -/
theorem targetText_ok_iff {name : ClassName} {subjectName text : String} :
    targetText w name subjectName = .ok text ↔
      ∃ target, w.typeParameter name subjectClass targetIndex = .bound target ∧ Hint.format target = .ok text := by
  rw [targetText]
  cases w.typeParameter name subjectClass targetIndex with
  | bound target =>
    constructor
    · exact fun found => ⟨target, rfl, mapError_eq_ok_iff.1 found⟩
    · rintro ⟨_, same, printed⟩
      cases same
      exact mapError_eq_ok_iff.2 printed
  | unbound =>
    constructor
    · intro found
      cases found
    · rintro ⟨_, same, _⟩
      cases same
  | outOfRange =>
    constructor
    · intro found
      cases found
    · rintro ⟨_, same, _⟩
      cases same

/-- Only a subject class at the top of a module is described. -/
theorem describe_head {name : ClassName} {isEnum : Bool} {shape : SubjectShape}
    (described : w.describe (.class name isEnum) = .ok shape) :
    w.isSubclass name subjectClass = true ∧ name.StandsAtTop := by
  rw [World.describe] at described
  obtain ⟨_, isHead, _⟩ := bind_eq_ok_iff.1 described
  rw [head, World.subjectClass?] at isHead
  by_cases below : w.isSubclass name subjectClass = true
  · rw [if_pos below] at isHead
    obtain ⟨_, reached, isHead⟩ := bind_eq_ok_iff.1 isHead
    obtain ⟨top, _⟩ := checked_eq_ok_iff.1 isHead
    refine ⟨below, by simpa using top, ?_⟩
    rw [ClassName.reachable] at reached
    split at reached
    · cases reached
    · rename_i notLocal
      simpa using notLocal
  · rw [if_neg below] at isHead
    obtain ⟨_, _, impossible⟩ := bind_eq_ok_iff.1 isHead
    cases impossible

/-- What the description of a subject class at the top of a module is made of. -/
theorem describe_ok_iff {name : ClassName} (below : w.isSubclass name subjectClass = true) (top : name.StandsAtTop)
    {isEnum : Bool} {shape : SubjectShape} :
    w.describe (.class name isEnum) = .ok shape ↔ ∃ target found, targetText w name name.qualified = .ok target ∧
      (methods w name).mapM (methodShape w name name.qualified) = .ok found ∧
      shape = { package := name.module, simpleName := name.simple, target, methods := found } := by
  have isHead : head w (.class name isEnum) =
      (targetText w name name.qualified).bind fun target => .ok (name, name.qualified, target) := by
    rw [head, World.subjectClass?, if_pos below]
    dsimp only
    rw [top.reachable]
    change (if (!name.isTopLevel) = true then _ else _) = _
    rw [top.noPoint]
    rfl
  rw [World.describe, isHead]
  constructor
  · intro described
    obtain ⟨⟨_, _, text⟩, first, described⟩ := bind_eq_ok_iff.1 described
    obtain ⟨_, isTarget, same⟩ := bind_eq_ok_iff.1 first
    cases same
    obtain ⟨found, areFound, same⟩ := bind_eq_ok_iff.1 described
    cases same
    exact ⟨text, found, isTarget, areFound, rfl⟩
  · rintro ⟨target, found, isTarget, areFound, rfl⟩
    exact bind_eq_ok_iff.2 ⟨_, bind_eq_ok_iff.2 ⟨target, isTarget, rfl⟩, bind_eq_ok_iff.2 ⟨found, areFound, rfl⟩⟩

/-- Where one subject class has the methods of another and binds the same arguments, it is described as the other
    is. -/
theorem describe_reread {name other : ClassName} (below : w.isSubclass name subjectClass = true)
    (otherBelow : w.isSubclass other subjectClass = true) (top : name.StandsAtTop) (otherTop : other.StandsAtTop)
    (sameMethods : methods w other = methods w name)
    (sameArguments : w.typeArguments? other subjectClass = w.typeArguments? name subjectClass) {isEnum : Bool}
    {shape : SubjectShape} (described : w.describe (.class name isEnum) = .ok shape) (otherEnum : Bool) :
    ∃ again, w.describe (.class other otherEnum) = .ok again ∧ again.target = shape.target ∧
      List.Forall₂ (SameMethod name.simple other.simple) shape.methods again.methods := by
  obtain ⟨target, found, isTarget, areFound, rfl⟩ := (describe_ok_iff below top).1 described
  obtain ⟨again, areFoundAgain, same⟩ := mapM_related areFound fun _ _ _ shape =>
    methodShape_reread shape other other.qualified
  rw [← sameMethods] at areFoundAgain
  have isTargetAgain : targetText w other other.qualified = .ok target := by
    rw [targetText_ok_iff] at isTarget ⊢
    rw [World.typeParameter, sameArguments]
    exact isTarget
  exact ⟨_, (describe_ok_iff otherBelow otherTop).2 ⟨target, again, isTargetAgain, areFoundAgain, rfl⟩, rfl, same⟩

end Description

/-- Eligible are the same of the methods. -/
theorem eligibleMethods_same {subject other : String} {shape again : SubjectShape}
    (same : List.Forall₂ (SameMethod subject other) shape.methods again.methods) :
    List.Forall₂ (SameMethod subject other) shape.eligibleMethods again.eligibleMethods :=
  List.rel_filter (fun _ _ related => Bool.eq_iff_iff.1 related.isEligible) same

open Description in
/-- An heir at the top of a module can be described just if the class above it can. Then both have the same target and
    the same methods, of which the same are eligible; only the defaults that are read back from a method are reached
    through the class itself. -/
theorem World.describe_heir {w : World} {c : ClassInfo} {parent : ClassName} (declared : w.Declared)
    (inside : c ∈ w.classes) (heir : c.IsHeir parent) (below : w.isSubclass parent subjectClass = true)
    (top : c.name.StandsAtTop) (parentTop : parent.StandsAtTop) (isEnum parentEnum : Bool) :
    ((∃ fault, w.describe (.class c.name isEnum) = .error fault) ↔
      ∃ fault, w.describe (.class parent parentEnum) = .error fault) ∧
    ∀ shape parentShape, w.describe (.class c.name isEnum) = .ok shape →
      w.describe (.class parent parentEnum) = .ok parentShape →
      shape.target = parentShape.target ∧
      List.Forall₂ (SameMethod parent.simple c.name.simple) parentShape.methods shape.methods ∧
      List.Forall₂ (SameMethod parent.simple c.name.simple) parentShape.eligibleMethods shape.eligibleMethods := by
  have sameMethods := declared.methods_heir inside heir
  have sameArguments := declared.typeArguments?_heir inside heir below
  have heirBelow : w.isSubclass c.name subjectClass = true := by
    rw [isSubclass, declared.order_heir inside heir, List.contains_cons, Bool.or_eq_true]
    exact .inr below
  constructor
  · rw [fails_iff, fails_iff, not_iff_not]
    constructor
    · rintro ⟨shape, described⟩
      obtain ⟨again, describedAgain, _⟩ := describe_reread heirBelow below top parentTop sameMethods.symm
        sameArguments.symm described parentEnum
      exact ⟨again, describedAgain⟩
    · rintro ⟨shape, described⟩
      obtain ⟨again, describedAgain, _⟩ := describe_reread below heirBelow parentTop top sameMethods sameArguments
        described isEnum
      exact ⟨again, describedAgain⟩
  · intro shape parentShape described parentDescribed
    obtain ⟨again, describedAgain, target, same⟩ := describe_reread below heirBelow parentTop top sameMethods
      sameArguments parentDescribed isEnum
    cases described.symm.trans describedAgain
    exact ⟨target, same, eligibleMethods_same same⟩

/-! ### An example -/

namespace World

open Description

/-- `def is_near(self, within=float("inf"))`. -/
def isNear : FoundMethod where
  owner := ⟨"shop", "PriceSubject"⟩
  name := "is_near"
  binding := .onObject
  isFinal := false
  function :=
    { module := "shop", name := "is_near", body := .declared
      parameters := [{ name := "self" }, { name := "within", default := some (.float 0 (.infinite false)) }] }

/-- What the class above gives: `("PriceSubject", int)`. -/
def priceGiven : List Value := [.forward "PriceSubject", .ofClass (.builtin "int")]

/-- `class PriceSubject(Subject["PriceSubject", int])`, which has this method. -/
def priceClass : ClassInfo :=
  { World.empty.madeBelow ⟨"shop", "PriceSubject"⟩ subjectClass priceGiven with
    members := [(isNear.name, .function .onObject false isNear.function)] }

/-- `class CheapSubject(PriceSubject): pass`. -/
def cheapClass : ClassInfo where
  name := ⟨"shop", "CheapSubject"⟩
  bases := [priceClass.name]
  order := ⟨"shop", "CheapSubject"⟩ :: priceClass.order

/-- The world of both. -/
def cheapWorld : World := (World.empty.withClass priceClass).withClass cheapClass

theorem cheapWorld_declared : cheapWorld.Declared := by
  have price : (World.empty.withClass priceClass).Declared := by
    have made : World.empty.classFor
        { below ⟨"shop", "PriceSubject"⟩ subjectClass priceGiven with members := priceClass.members } =
          .ok priceClass :=
      classFor_single rfl rfl rfl (by decide) rfl rfl rfl
    refine Declared.empty.declare (bind_eq_ok_iff.2 ⟨_, made, rfl⟩) rfl ?_
    intro c isMade base isBase
    cases isMade.symm.trans made
    cases List.mem_singleton.1 isBase
    rfl
  have made : (World.empty.withClass priceClass).classFor
      { name := cheapClass.name, kind := .ordinary, bases := [.ofClass priceClass.name], members := [] } =
        .ok cheapClass :=
    classFor_single rfl rfl rfl (by decide) rfl rfl rfl
  refine price.declare (bind_eq_ok_iff.2 ⟨_, made, rfl⟩) rfl ?_
  intro c isMade base isBase
  cases isMade.symm.trans made
  cases List.mem_singleton.1 isBase
  rfl

/-- The shape of the method, as it is described for its own class. -/
def isNearShape : MethodShape where
  name := "is_near"
  owner := "shop.PriceSubject"
  visibility := .everyone
  returns := none
  parameters := [{
    typeText := none, annotations := [], kind := .positional, keyword := none
    default := some "PriceSubject.is_near.__defaults__[0]" }]
  isFinal := false
  isPrivate := false
  isStatic := false
  isAsync := false
  isGenerator := false

theorem isNear_described (w : World) :
    methodShape w ⟨"shop", "PriceSubject"⟩ "shop.PriceSubject" isNear = .ok isNearShape := by
  let within : FunctionParameter := { name := "within", default := some (.float 0 (.infinite false)) }
  have shown : Hint.shownText (.float 0 (.infinite false)) = .ok "inf" := by
    rw [Hint.shownText, Value.display]
    rfl
  have literal : isLiteral "inf" (.float 0 (.infinite false)) = .ok false := by with_unfolding_all rfl
  have text : defaultText isNear.function "PriceSubject.is_near" within =
      .ok (some "PriceSubject.is_near.__defaults__[0]") := by
    rw [defaultText]
    exact bind_eq_ok_iff.2 ⟨"inf", shown, bind_eq_ok_iff.2 ⟨false, literal, rfl⟩⟩
  have shape : parameterShape isNear.function "PriceSubject.is_near" [] within = .ok {
      typeText := none, annotations := [], kind := .positional, keyword := none
      default := some "PriceSubject.is_near.__defaults__[0]" } := by
    rw [parameterShape, text]
    rfl
  have shapes : (callerParameters isNear).mapM (parameterShape isNear.function "PriceSubject.is_near" []) =
      .ok isNearShape.parameters := by
    rw [show callerParameters isNear = [within] from rfl, List.mapM_cons]
    exact bind_eq_ok_iff.2 ⟨_, shape, rfl⟩
  rw [methodShape, mapError_eq_ok_iff, bareMethodShape]
  exact bind_eq_ok_iff.2 ⟨[], rfl, bind_eq_ok_iff.2 ⟨none, rfl, bind_eq_ok_iff.2 ⟨"shop.PriceSubject", rfl,
    bind_eq_ok_iff.2 ⟨_, shapes, rfl⟩⟩⟩⟩

theorem price_methods : methods cheapWorld ⟨"shop", "PriceSubject"⟩ = [isNear] := by
  have order : cheapWorld.orderOf ⟨"shop", "PriceSubject"⟩ =
      [⟨"shop", "PriceSubject"⟩, subjectClass, genericClass, objectClass] := by decide +kernel
  rw [methods, order, methodsOf]
  dsimp only
  rw [methodsOf]
  dsimp only
  rw [methodsOf]
  dsimp only
  rw [methodsOf_object]
  rfl

theorem price_described : cheapWorld.describe (.class ⟨"shop", "PriceSubject"⟩ false) =
    .ok { package := "shop", simpleName := "PriceSubject", target := "int", methods := [isNearShape] } := by
  refine (describe_ok_iff (by decide +kernel) ⟨by decide, by decide⟩).2 ⟨"int", [isNearShape], ?_, ?_, rfl⟩
  · exact eq_ok_of_toOption (by decide +kernel)
  · rw [price_methods, List.mapM_cons]
    exact bind_eq_ok_iff.2 ⟨_, isNear_described _, rfl⟩

/-- The class below is described, with the same target and the same method. -/
theorem cheap_described : cheapWorld.Declared ∧ cheapClass ∈ cheapWorld.classes ∧ cheapClass.IsHeir priceClass.name ∧
    cheapWorld.isSubclass priceClass.name subjectClass = true ∧ cheapClass.name.StandsAtTop ∧
    priceClass.name.StandsAtTop ∧
    ∃ shape, cheapWorld.describe (.class cheapClass.name false) = .ok shape ∧ shape.target = "int" ∧
      List.Forall₂ (SameMethod "PriceSubject" "CheapSubject") [isNearShape] shape.methods := by
  have heir : cheapClass.IsHeir priceClass.name := ⟨rfl, rfl, rfl⟩
  have below : cheapWorld.isSubclass priceClass.name subjectClass = true := by decide +kernel
  have top : cheapClass.name.StandsAtTop := ⟨by decide, by decide⟩
  have parentTop : priceClass.name.StandsAtTop := ⟨by decide, by decide⟩
  obtain ⟨fails, same⟩ := describe_heir cheapWorld_declared List.mem_cons_self heir below top parentTop false false
  refine ⟨cheapWorld_declared, List.mem_cons_self, heir, below, top, parentTop, ?_⟩
  have succeeds : ∃ shape, cheapWorld.describe (.class cheapClass.name false) = .ok shape := by
    by_contra failed
    obtain ⟨_, failed⟩ := fails.1 (fails_iff.2 failed)
    cases price_described.symm.trans failed
  obtain ⟨shape, described⟩ := succeeds
  obtain ⟨target, methods, _⟩ := same shape _ described price_described
  exact ⟨shape, described, target, methods⟩

end World

end EachSubject
