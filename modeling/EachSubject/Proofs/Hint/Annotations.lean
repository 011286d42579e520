import EachSubject.Proofs.Hint.Constants
import EachSubject.Proofs.Source.Pieces
import Mathlib.Data.Set.Operations

/-!
# Reading a declared type off its text

A declared type that is made of classes, unions, literals and metadata can be read off its source text, at any depth:
two such types with the same text are made of the same parts in the same order. Names of the typing library for one
class are not told apart, nor are the two ways to write a union, nor nothing and its class.
-/

namespace EachSubject

/-- The class before the brackets of a type. -/
def TypeHead.origin? : TypeHead → Option ClassName
  | .native origin => some origin
  | .userClass origin => some origin
  | .classAlias _ origin => some origin
  | .special _ => none

namespace Hint

open Value (noneClass callableClass)

/-! ## Declared types -/

/-- Stands for the class: by itself, or as a name of the typing library for it. -/
inductive Names (name : ClassName) : Value → Prop where
  | itself (isEnum : Bool) : Names name (.class name isEnum)
  | byAlias (shown : String) : Names name (.classAlias shown name)

/-- The types in an argument: those of a list of parameters, or else the argument itself. -/
def argumentTypes : Value → List Value
  | .tuple _ items => items
  | argument => [argument]

/-- A declared type that is made of classes of a set. The list of parameters of a callable is spread out before its
    result; among the arguments of other classes such a list stands by itself. -/
inductive MadeOf (K : Set ClassName) : Value → Prop where
  | nothing : MadeOf K .none
  | ellipsis : MadeOf K .ellipsis
  | named {a : Value} {name : ClassName} (names : Names name a) (known : name ∈ K) : MadeOf K a
  | library {head : TypeHead} {origin : ClassName} {args : List Value}
      (isHead : head = .native origin ∨ ∃ shown, head = .classAlias shown origin) (known : origin ∈ K)
      (nonempty : args ≠ []) (each : ∀ a ∈ args, MadeOf K a) : MadeOf K (.subscripted head args)
  | user {origin : ClassName} {args : List Value} (apart : origin ≠ callableClass) (known : origin ∈ K)
      (nonempty : args ≠ []) (each : ∀ a ∈ args, ∀ part ∈ argumentTypes a, MadeOf K part) :
      MadeOf K (.subscripted (.userClass origin) args)
  | union {style : UnionStyle} {members : List Value} (several : 2 ≤ members.length)
      (flat : ∀ m ∈ members, ∀ style inner, m ≠ .union style inner) (each : ∀ m ∈ members, MadeOf K m) :
      MadeOf K (.union style members)
  | literal {values : List Value} (nonempty : values ≠ []) (each : ∀ v ∈ values, IsConstant v) :
      MadeOf K (.literalType values)
  | annotated {base : Value} {metadata : List Value} (flat : ∀ inner before, base ≠ .annotated inner before)
      (nonempty : metadata ≠ []) (each : ∀ m ∈ metadata, ∃ name ∈ K, ∃ isEnum, m = .class name isEnum)
      (of : MadeOf K base) : MadeOf K (.annotated base metadata)

/-- The classes of the set can be told apart by their names, which are dotted identifiers and none of the words that
    stand for something else. -/
structure Nameable (K : Set ClassName) : Prop where
  dotted : ∀ name ∈ K, (Text.pathPieces name.qualified).all Text.isIdentifier = true
  distinct : ∀ name ∈ K, ∀ other ∈ K, name.qualified = other.qualified → name = other
  ordinary : ∀ name ∈ K, name.qualified ∉ ["None", "Annotated", "typing.Literal"]

/-! ## The same types -/

/-- Nothing, or its class. -/
inductive IsNothing : Value → Prop where
  | value : IsNothing .none
  | itsClass (isEnum : Bool) : IsNothing (.class noneClass isEnum)

/-- The same class as metadata. -/
inductive SameClass : Value → Value → Prop where
  | of (name : ClassName) (isEnum other : Bool) : SameClass (.class name isEnum) (.class name other)

/-- The same type, made of the same parts in the same order. Only nothing and its class, the names of the typing
    library for one class, and the ways to write a union are not told apart. -/
inductive Alike : Value → Value → Prop where
  | nothing {a b : Value} (first : IsNothing a) (second : IsNothing b) : Alike a b
  | ellipsis : Alike .ellipsis .ellipsis
  | named {a b : Value} {name : ClassName} (first : Names name a) (second : Names name b) : Alike a b
  | parameters {place other : Nat} {xs ys : List Value} (each : List.Forall₂ Alike xs ys) :
      Alike (.tuple place xs) (.tuple other ys)
  | subscripted {head other : TypeHead} {origin : ClassName} {xs ys : List Value} (first : head.origin? = some origin)
      (second : other.origin? = some origin) (each : List.Forall₂ Alike xs ys) :
      Alike (.subscripted head xs) (.subscripted other ys)
  | union {style other : UnionStyle} {xs ys : List Value} (each : List.Forall₂ Alike xs ys) :
      Alike (.union style xs) (.union other ys)
  | literal {xs ys : List Value} (each : List.Forall₂ SameConstant xs ys) : Alike (.literalType xs) (.literalType ys)
  | annotated {base other : Value} {xs ys : List Value} (of : Alike base other)
      (each : List.Forall₂ SameClass xs ys) : Alike (.annotated base xs) (.annotated other ys)

/-! ## Where texts stop -/

/-- What may come behind a member of a union. -/
def Breaks (rest : List Char) : Prop := ∀ c ∈ rest.head?, c = ',' ∨ c = ']' ∨ c = ' '

theorem Ends.breaks {rest : List Char} (ends : Ends rest) : Breaks rest :=
  fun c first => (ends c first).elim .inl fun closes => .inr (.inl closes)

/-- Neither separates nor encloses. -/
def isNameChar (c : Char) : Bool := !(['[', ']', ',', ' '].contains c)

theorem Breaks.noName {rest : List Char} (breaks : Breaks rest) : ∀ c ∈ rest.head?, isNameChar c = false := by
  intro c first
  rcases breaks c first with rfl | rfl | rfl <;> decide

/-! ## Words in front of brackets -/

/-- What the text of a type starts with. -/
inductive Head where
  | nothing
  | ellipsis
  | named (name : ClassName)
  | literal
  | annotated

/-- The word for it. -/
def Head.word : Head → String
  | nothing => "None"
  | ellipsis => "..."
  | named name => name.qualified
  | literal => "typing.Literal"
  | annotated => "Annotated"

variable {K : Set ClassName}

/-- Names a class of the set, if any. -/
def Head.Known (K : Set ClassName) : Head → Prop
  | named name => name ∈ K
  | _ => True

namespace Nameable

private theorem piece_chars {piece : List Char} (isIdentifier : Text.isIdentifierChars piece = true) :
    ∀ c ∈ piece, isNameChar c = true := by
  have outside : ∀ c ∈ ['[', ']', ',', ' '],
      Text.isIdentifierStart c = false ∧ Text.isIdentifierContinue c = false := by decide +kernel
  have inside : ∀ c, (Text.isIdentifierStart c = true ∨ Text.isIdentifierContinue c = true) → isNameChar c = true := by
    intro c goesOn
    rw [isNameChar, Bool.not_eq_true', ← Bool.not_eq_true, List.contains_iff_mem]
    intro among
    obtain ⟨noStart, noContinue⟩ := outside c among
    rcases goesOn with starts | continues
    · rw [noStart] at starts
      cases starts
    · rw [noContinue] at continues
      cases continues
  cases piece with
  | nil => exact fun _ among => absurd among List.not_mem_nil
  | cons first rest =>
    rw [Text.isIdentifierChars, Bool.and_eq_true, List.all_eq_true] at isIdentifier
    intro c among
    rcases List.mem_cons.1 among with rfl | among
    · exact inside c (.inl isIdentifier.1)
    · exact inside c (.inr (isIdentifier.2 c among))

private theorem mem_intercalate_point {pieces : List (List Char)} {c : Char} (among : c ∈ ['.'].intercalate pieces) :
    c = '.' ∨ ∃ piece ∈ pieces, c ∈ piece := by
  induction pieces with
  | nil => cases among
  | cons piece rest ih =>
    cases rest with
    | nil =>
      rw [List.intercalate_singleton] at among
      exact .inr ⟨piece, List.mem_cons_self, among⟩
    | cons next rest =>
      rw [List.intercalate_cons_cons, List.mem_append, List.mem_append] at among
      rcases among with (among | among) | among
      · exact .inr ⟨piece, List.mem_cons_self, among⟩
      · exact .inl (List.mem_singleton.1 among)
      · rcases ih among with isPoint | ⟨other, inside, among⟩
        · exact .inl isPoint
        · exact .inr ⟨other, List.mem_cons_of_mem _ inside, among⟩

/-- A dotted identifier is a single word. -/
theorem qualified_chars (nameable : Nameable K) {name : ClassName} (known : name ∈ K) :
    ∀ c ∈ name.qualified.toList, isNameChar c = true := by
  intro c inside
  rw [← Source.splitPoints_join name.qualified.toList] at inside
  rcases mem_intercalate_point inside with rfl | ⟨piece, among, inside⟩
  · rfl
  · have dotted := List.all_eq_true.1 (nameable.dotted name known) _ (List.mem_map_of_mem among)
    rw [Text.isIdentifier, String.toList_ofList] at dotted
    exact piece_chars dotted c inside

theorem qualified_ne (nameable : Nameable K) {name : ClassName} (known : name ∈ K) :
    name.qualified ≠ "..." ∧ name.qualified ≠ "" := by
  have dotted := nameable.dotted name known
  constructor
  · intro same
    rw [same] at dotted
    exact absurd dotted (by decide +kernel)
  · intro same
    rw [same] at dotted
    exact absurd dotted (by decide +kernel)

end Nameable

namespace Head

variable {head other : Head}

theorem word_chars (nameable : Nameable K) (known : head.Known K) :
    (∀ c ∈ head.word.toList, isNameChar c = true) ∧ head.word.toList ≠ [] := by
  cases head with
  | nothing => exact ⟨by decide, by decide⟩
  | ellipsis => exact ⟨by decide, by decide⟩
  | named name =>
    refine ⟨nameable.qualified_chars known, fun empty => (nameable.qualified_ne known).2 ?_⟩
    rw [← String.toList_inj]
    exact empty
  | literal => exact ⟨by decide, by decide⟩
  | annotated => exact ⟨by decide, by decide⟩

private theorem word_ne (nameable : Nameable K) {name : ClassName} (known : name ∈ K)
    (unnamed : ∀ other, head ≠ .named other) : name.qualified ≠ head.word := by
  have ordinary := nameable.ordinary name known
  intro same
  rw [same] at ordinary
  cases head with
  | ellipsis => exact (nameable.qualified_ne known).1 same
  | named other => exact unnamed other rfl
  | nothing | literal | annotated => exact ordinary (by decide)

/-- The words are all different. -/
theorem word_injective (nameable : Nameable K) (known : head.Known K) (otherKnown : other.Known K)
    (same : head.word = other.word) : head = other := by
  cases head with
  | named name =>
    cases other with
    | named otherName => rw [nameable.distinct name known otherName otherKnown same]
    | nothing | ellipsis | literal | annotated =>
      exact absurd same (word_ne nameable known fun _ impossible => by cases impossible)
  | nothing | ellipsis | literal | annotated =>
    cases other with
    | named otherName => exact absurd same.symm (word_ne nameable otherKnown fun _ impossible => by cases impossible)
    | nothing | ellipsis | literal | annotated => first | rfl | exact absurd same (by decide)

end Head

/-! ## Texts of types -/

/-- What separates arguments. -/
def comma : List Char := [',', ' ']

/-- What separates the members of a union. -/
def verticalBar : List Char := [' ', '|', ' ']

/-- A type that is made of classes of the set, and its text. -/
def Writes (K : Set ClassName) (a : Value) (chars : List Char) : Prop :=
  MadeOf K a ∧ ∃ text, format a = .ok text ∧ text.toList = chars

/-- An argument and its text. -/
inductive WritesArgument (K : Set ClassName) : Value → List Char → Prop where
  | type {a : Value} {chars : List Char} (writes : Writes K a chars) : WritesArgument K a chars
  | parameters {place : Nat} {items : List Value} {texts : List (List Char)}
      (each : List.Forall₂ (Writes K) items texts) :
      WritesArgument K (.tuple place items) ('[' :: (comma.intercalate texts ++ [']']))

/-- A class as metadata, and its text. -/
inductive WritesClass (K : Set ClassName) : Value → List Char → Prop where
  | of {name : ClassName} (known : name ∈ K) (isEnum : Bool) : WritesClass K (.class name isEnum) name.qualified.toList

/-- The word of a type that is no union, and what stands between its brackets. -/
inductive Layout (K : Set ClassName) : Value → Head → Option (List Char) → Prop where
  | nothing {a : Value} (isNothing : IsNothing a) : Layout K a .nothing none
  | ellipsis : Layout K .ellipsis .ellipsis none
  | named {a : Value} {name : ClassName} (names : Names name a) : Layout K a (.named name) none
  | generic {head : TypeHead} {origin : ClassName} {args : List Value} {texts : List (List Char)}
      (isOrigin : head.origin? = some origin) (nonempty : args ≠ [])
      (gathered : origin = callableClass → ∃ result, args = [.ellipsis, result])
      (each : List.Forall₂ (WritesArgument K) args texts) :
      Layout K (.subscripted head args) (.named origin) (some (comma.intercalate texts))
  | callable {head : TypeHead} {parameters : List Value} {result : Value} {texts : List (List Char)} {text : List Char}
      (isOrigin : head.origin? = some callableClass) (each : List.Forall₂ (Writes K) parameters texts)
      (last : Writes K result text) :
      Layout K (.subscripted head (parameters ++ [result])) (.named callableClass)
        (some ('[' :: (comma.intercalate texts ++ ']' :: (comma ++ text))))
  | literal {values : List Value} {texts : List (List Char)} (nonempty : values ≠ [])
      (each : List.Forall₂ WritesConstant values texts) :
      Layout K (.literalType values) .literal (some (comma.intercalate texts))
  | annotated {base : Value} {metadata : List Value} {text : List Char} {names : List (List Char)}
      (of : Writes K base text) (nonempty : metadata ≠ []) (each : List.Forall₂ (WritesClass K) metadata names) :
      Layout K (.annotated base metadata) .annotated (some (text ++ (comma ++ comma.intercalate names)))

/-- What stands behind a word. -/
def inBrackets : Option (List Char) → List Char
  | none => []
  | some inside => '[' :: (inside ++ [']'])

theorem formatAll_ok {values : List Value} {texts : List String} (printed : formatAll values = .ok texts) :
    List.Forall₂ (fun value text => format value = .ok text) values texts := by
  induction values generalizing texts with
  | nil =>
    rw [formatAll] at printed
    cases printed
    exact .nil
  | cons value rest ih =>
    rw [formatAll] at printed
    obtain ⟨first, isFirst, printed⟩ := bind_eq_ok_iff.1 printed
    obtain ⟨others, areOthers, same⟩ := bind_eq_ok_iff.1 printed
    cases same
    exact .cons isFirst (ih areOthers)

private theorem writes_all {values : List Value} {texts : List String} (each : ∀ a ∈ values, MadeOf K a)
    (printed : List.Forall₂ (fun value text => format value = .ok text) values texts) :
    List.Forall₂ (Writes K) values (texts.map String.toList) := by
  induction printed with
  | nil => exact .nil
  | cons first _ ih =>
    exact .cons ⟨each _ List.mem_cons_self, _, first, rfl⟩ (ih fun a among => each a (List.mem_cons_of_mem _ among))

private theorem toList_comma (texts : List String) :
    (", ".intercalate texts).toList = comma.intercalate (texts.map String.toList) :=
  String.toList_intercalate

private theorem toList_enclosed (texts : List String) :
    ("[" ++ ", ".intercalate texts ++ "]").toList = '[' :: (comma.intercalate (texts.map String.toList) ++ [']']) := by
  rw [String.toList_append, String.toList_append, toList_comma]
  rfl

theorem reachable_ok {name : ClassName} {text : String} (reached : name.reachable = .ok text) :
    text = name.qualified := by
  rw [ClassName.reachable] at reached
  split at reached
  · cases reached
  · cases reached
    rfl

private theorem headName_ok {head : TypeHead} {origin : ClassName} {text : String}
    (isOrigin : head.origin? = some origin) (named : headName head = .ok text) : text = origin.qualified := by
  cases head <;> cases isOrigin <;> exact reachable_ok named

/-- The text of a type with arguments: those of a callable are put in brackets before its result. -/
theorem format_subscripted {head : TypeHead} {origin : ClassName} {args : List Value} {text : String}
    (isOrigin : head.origin? = some origin) (nonempty : args ≠ [])
    (printed : format (.subscripted head args) = .ok text) :
    ∃ texts, List.Forall₂ (fun value text => format value = .ok text) args texts ∧
      text.toList = origin.qualified.toList ++ inBrackets (some (comma.intercalate
        ((if Value.isSpreadCallable head args then Value.callableTexts texts else texts).map String.toList))) := by
  rw [format] at printed
  obtain ⟨name, isName, printed⟩ := bind_eq_ok_iff.1 printed
  rw [if_neg (by simpa using nonempty)] at printed
  obtain ⟨texts, areTexts, same⟩ := bind_eq_ok_iff.1 printed
  cases same
  refine ⟨texts, formatAll_ok areTexts, ?_⟩
  rw [headName_ok isOrigin isName, String.toList_append, String.toList_append, String.toList_append, toList_comma]
  simp [inBrackets]

private theorem forall₂_concat {α β : Type} {R : α → β → Prop} {xs : List α} {x : α} {zs : List β}
    (related : List.Forall₂ R (xs ++ [x]) zs) : ∃ ys y, zs = ys ++ [y] ∧ List.Forall₂ R xs ys ∧ R x y := by
  induction xs generalizing zs with
  | nil =>
    cases related with
    | cons first rest =>
      cases rest
      exact ⟨[], _, rfl, .nil, first⟩
  | cons w xs ih =>
    cases related with
    | cons first rest =>
      obtain ⟨ys, y, rfl, further, last⟩ := ih rest
      exact ⟨_ :: ys, y, rfl, .cons first further, last⟩

private theorem writesArgument {a : Value} {text : String} (each : ∀ part ∈ argumentTypes a, MadeOf K part)
    (printed : format a = .ok text) : WritesArgument K a text.toList := by
  cases a
  case tuple place items =>
    rw [format] at printed
    obtain ⟨texts, areTexts, same⟩ := bind_eq_ok_iff.1 printed
    cases same
    rw [toList_enclosed]
    exact .parameters (writes_all each (formatAll_ok areTexts))
  all_goals exact .type ⟨each _ (List.mem_singleton_self _), text, printed, rfl⟩

private theorem writes_arguments {args : List Value} {texts : List String}
    (each : ∀ a ∈ args, ∀ part ∈ argumentTypes a, MadeOf K part)
    (printed : List.Forall₂ (fun value text => format value = .ok text) args texts) :
    List.Forall₂ (WritesArgument K) args (texts.map String.toList) := by
  induction printed with
  | nil => exact .nil
  | cons first _ ih =>
    exact .cons (writesArgument (each _ List.mem_cons_self) first)
      (ih fun a among => each a (List.mem_cons_of_mem _ among))

private theorem literalTexts_ok {values : List Value} {texts : List String} (isConstant : ∀ v ∈ values, IsConstant v)
    (shown : literalTexts values = .ok texts) : List.Forall₂ WritesConstant values (texts.map String.toList) := by
  have related := forall₂_of_mapM shown
  clear shown
  induction related with
  | nil => exact .nil
  | cons first _ ih =>
    exact .cons ⟨isConstant _ List.mem_cons_self, _, first, rfl⟩
      (ih fun v among => isConstant v (List.mem_cons_of_mem _ among))

private theorem metadataNames_ok {metadata : List Value} {names : List String}
    (isClass : ∀ m ∈ metadata, ∃ name ∈ K, ∃ isEnum, m = .class name isEnum)
    (named : metadataNames metadata = .ok names) :
    List.Forall₂ (WritesClass K) metadata (names.map String.toList) := by
  have related := forall₂_of_mapM named
  clear named
  induction related with
  | nil => exact .nil
  | cons first _ ih =>
    obtain ⟨name, known, isEnum, rfl⟩ := isClass _ List.mem_cons_self
    cases reachable_ok first
    exact .cons (.of known isEnum) (ih fun m among => isClass m (List.mem_cons_of_mem _ among))

/-- Lists of parameters stand nowhere but where a callable keeps them. -/
private theorem not_parameterList {a : Value} (made : MadeOf K a) :
    (∀ name, a ≠ .paramSpec name) ∧ ∀ place items, a ≠ .list place items := by
  constructor
  · rintro name rfl
    cases made with
    | named names => cases names
  · rintro place items rfl
    cases made with
    | named names => cases names

section

variable {head : TypeHead} {origin : ClassName} {args : List Value}

/-- A class of the library keeps its arguments as they are, unless they are the parameters and the result of a
    callable. -/
private theorem isSpreadCallable_library (isHead : head = .native origin ∨ ∃ shown, head = .classAlias shown origin)
    (each : ∀ a ∈ args, MadeOf K a) :
    Value.isSpreadCallable head args = true ↔ origin = callableClass ∧ ∀ result, args ≠ [.ellipsis, result] := by
  have isCallable : Value.isSpreadCallable head args = (origin == callableClass && Value.isSpreadCallable
      (.native callableClass) args) := by
    rcases isHead with rfl | ⟨_, rfl⟩ <;> simp [Value.isSpreadCallable]
  have packed : Value.isSpreadCallable (.native callableClass) args = true ↔ ∀ result, args ≠ [.ellipsis, result] := by
    unfold Value.isSpreadCallable
    dsimp only
    rw [beq_self_eq_true, Bool.true_and, Bool.not_eq_true']
    split
    · rename_i result
      exact ⟨fun impossible => Bool.noConfusion impossible, fun differs => absurd rfl (differs result)⟩
    · exact absurd rfl ((not_parameterList (each _ List.mem_cons_self)).1 _)
    · exact absurd rfl ((not_parameterList (each _ List.mem_cons_self)).2 _ _)
    · rename_i differs _ _
      exact ⟨fun _ => differs, fun _ => rfl⟩
  rw [isCallable, Bool.and_eq_true, beq_iff_eq, packed]

/-- What the arguments of a class of the library are written as. -/
private theorem library_layout (isHead : head = .native origin ∨ ∃ shown, head = .classAlias shown origin)
    (nonempty : args ≠ []) (each : ∀ a ∈ args, MadeOf K a) {text : String}
    (printed : format (.subscripted head args) = .ok text) :
    ∃ inside, Layout K (.subscripted head args) (.named origin) inside ∧
      text.toList = origin.qualified.toList ++ inBrackets inside := by
  have isOrigin : head.origin? = some origin := by
    rcases isHead with rfl | ⟨_, rfl⟩ <;> rfl
  obtain ⟨texts, areTexts, written⟩ := format_subscripted isOrigin nonempty printed
  rw [written]
  by_cases spread : Value.isSpreadCallable head args = true
  · obtain ⟨rfl, -⟩ := (isSpreadCallable_library isHead each).1 spread
    rw [if_pos spread]
    obtain ⟨parameters, result, rfl⟩ : ∃ parameters result, args = parameters ++ [result] :=
      ⟨_, _, (List.dropLast_append_getLast nonempty).symm⟩
    obtain ⟨before, last, rfl, areBefore, isLast⟩ := forall₂_concat areTexts
    have writesLast : Writes K result last.toList :=
      ⟨each _ (List.mem_append_right _ List.mem_cons_self), _, isLast, rfl⟩
    refine ⟨_, .callable isOrigin (writes_all (fun a among => each a (List.mem_append_left _ among)) areBefore)
      writesLast, ?_⟩
    simp [Value.callableTexts, inBrackets, comma]
  · rw [if_neg spread]
    refine ⟨_, .generic isOrigin nonempty (fun isCallable => ?_) ?_, rfl⟩
    · by_contra differs
      exact spread ((isSpreadCallable_library isHead each).2 ⟨isCallable, fun result same => differs ⟨result, same⟩⟩)
    · exact (writes_all each areTexts).imp fun _ _ writes => .type writes

end

/-- The text of a type that is no union. -/
theorem Writes.layout {a : Value} {chars : List Char} (writes : Writes K a chars)
    (single : ∀ style members, a ≠ .union style members) :
    ∃ head inside, Layout K a head inside ∧ head.Known K ∧ chars = head.word.toList ++ inBrackets inside := by
  obtain ⟨made, text, printed, rfl⟩ := writes
  cases made with
  | nothing =>
    rw [format] at printed
    cases printed
    exact ⟨.nothing, none, .nothing .value, trivial, rfl⟩
  | ellipsis =>
    rw [format] at printed
    cases printed
    exact ⟨.ellipsis, none, .ellipsis, trivial, rfl⟩
  | @named _ name names known =>
    cases names with
    | itself isEnum =>
      rw [format] at printed
      by_cases isNone : name = noneClass
      · rw [if_pos isNone] at printed
        cases printed
        exact ⟨.nothing, none, .nothing (isNone ▸ .itsClass isEnum), trivial, rfl⟩
      · rw [if_neg isNone] at printed
        cases reachable_ok printed
        exact ⟨.named name, none, .named (.itself isEnum), known, (List.append_nil _).symm⟩
    | byAlias shown =>
      rw [format] at printed
      cases reachable_ok printed
      exact ⟨.named name, none, .named (.byAlias shown), known, (List.append_nil _).symm⟩
  | library isHead known nonempty each =>
    obtain ⟨inside, layout, written⟩ := library_layout isHead nonempty each printed
    exact ⟨_, inside, layout, known, written⟩
  | user apart known nonempty each =>
    obtain ⟨texts, areTexts, written⟩ := format_subscripted rfl nonempty printed
    rw [written]
    have plain : ∀ {origin : ClassName} {args : List Value}, Value.isSpreadCallable (.userClass origin) args = false :=
      rfl
    rw [plain, if_neg Bool.false_ne_true]
    refine ⟨_, _, .generic rfl nonempty (fun isCallable => absurd isCallable apart) ?_, known, rfl⟩
    exact writes_arguments each areTexts
  | union several flat each => exact absurd rfl (single _ _)
  | literal nonempty each =>
    rw [format] at printed
    obtain ⟨texts, areTexts, same⟩ := bind_eq_ok_iff.1 printed
    cases same
    refine ⟨.literal, _, .literal nonempty (literalTexts_ok each areTexts), trivial, ?_⟩
    rw [String.toList_append, String.toList_append, toList_comma]
    simp [inBrackets, Head.word]
  | annotated flat nonempty each isBase =>
    rw [format] at printed
    obtain ⟨base, printedBase, printed⟩ := bind_eq_ok_iff.1 printed
    obtain ⟨names, areNames, same⟩ := bind_eq_ok_iff.1 printed
    cases same
    have named := metadataNames_ok each areNames
    refine ⟨.annotated, _, .annotated ⟨isBase, base, printedBase, rfl⟩ nonempty named, trivial, ?_⟩
    have given : names.isEmpty = false := by
      cases names with
      | nil =>
        cases named
        exact absurd rfl nonempty
      | cons => rfl
    rw [Wrapper.annotatedText, given, if_neg Bool.false_ne_true, String.toList_append, String.toList_append,
      String.toList_append, String.toList_append, toList_comma]
    simp [inBrackets, Head.word, comma]

end Hint

end EachSubject
