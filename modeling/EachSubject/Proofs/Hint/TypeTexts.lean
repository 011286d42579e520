import EachSubject.Description
import EachSubject.Proofs.Hint.Annotations
import EachSubject.Proofs.Value.Displays

/-!
# The texts of declared types

A declared type whose parts all go by names of the language is written as a plain text. Each pair of brackets that the
type is made with is one of the text, and the parameters of a callable stand in a pair of their own.
-/

namespace EachSubject

open Source

/-! ## Paths -/

namespace Source.PlainText

variable {depth : Nat}

private theorem names_behind {pieces : List (List Char)} (names : ∀ piece ∈ pieces, Text.isName (String.ofList piece) = true) :
    ∀ {object : List Char}, PlainText .operand depth object →
      PlainText .operand depth (object ++ pieces.flatMap fun piece => '.' :: piece) := by
  induction pieces with
  | nil =>
    intro object plain
    simpa using plain
  | cons piece pieces ih =>
    intro object plain
    have dotted : PlainText .operand depth _ := .dotted plain .nil .nil (names piece List.mem_cons_self)
    have whole := ih (fun other among => names other (List.mem_cons_of_mem piece among)) dotted
    simpa using whole

private theorem intercalate_point (first : List Char) (pieces : List (List Char)) :
    ['.'].intercalate (first :: pieces) = first ++ pieces.flatMap fun piece => '.' :: piece := by
  induction pieces generalizing first with
  | nil => simp
  | cons piece pieces ih => rw [List.intercalate_cons_cons, ih, List.flatMap_cons, List.append_assoc]; rfl

/-- A dotted path of names is a plain text. -/
theorem path {path : String} (isPath : Text.isDottedPath path = true) : PlainText .operand depth path.toList := by
  have names : ∀ piece ∈ Text.splitPoints path.toList, Text.isName (String.ofList piece) = true := fun piece among =>
    List.all_eq_true.1 isPath _ (List.mem_map_of_mem among)
  obtain ⟨first, pieces, split⟩ := List.exists_cons_of_ne_nil (Text.splitPoints_ne_nil path.toList)
  rw [split] at names
  obtain ⟨isName, names⟩ := List.forall_mem_cons.1 names
  have leading : PlainText .operand depth (String.ofList first).toList := .name isName
  have whole := names_behind names leading
  have joined := splitPoints_join path.toList
  rw [split, intercalate_point] at joined
  rwa [String.toList_ofList, joined] at whole

end Source.PlainText

/-! ## Type expressions -/

/-- The full name of the class is a dotted path. -/
def ClassName.IsSpelled (name : ClassName) : Prop := Text.isDottedPath name.qualified = true

/-- What stands before the brackets goes by a dotted path. -/
def TypeHead.IsSpelled : TypeHead → Prop
  | .native origin => origin.IsSpelled
  | .userClass origin => origin.IsSpelled
  | .classAlias _ origin => origin.IsSpelled
  | .special name => Text.isName name = true

namespace Hint

/-- The class by which metadata goes. -/
def metadataClass : Value → ClassName
  | .class name _ => name
  | value => value.classOf

/-- A type expression that goes by names of the language, with brackets that nest to this depth at most. -/
inductive IsTypeExpression : Nat → Value → Prop where
  | nothing {depth : Nat} : IsTypeExpression depth .none
  | ellipsis {depth : Nat} : IsTypeExpression depth .ellipsis
  | named {depth : Nat} {name : ClassName} (isEnum : Bool) (spelled : name.IsSpelled) :
      IsTypeExpression depth (.class name isEnum)
  | byAlias {depth : Nat} (shown : String) {origin : ClassName} (spelled : origin.IsSpelled) :
      IsTypeExpression depth (.classAlias shown origin)
  | special {depth : Nat} {name : String} (isName : Text.isName name = true) : IsTypeExpression depth (.special name)
  | typeVar {depth : Nat} (scope : String) {name : String} (isName : Text.isName name = true) :
      IsTypeExpression depth (.typeVar scope name)
  | paramSpec {depth : Nat} {name : String} (isName : Text.isName name = true) : IsTypeExpression depth (.paramSpec name)
  | newType {depth : Nat} {module name : String} (isPath : Text.isDottedPath (module ++ "." ++ name) = true) :
      IsTypeExpression depth (.newType module name)
  | parameters {depth place : Nat} {argument : Value} {items : List Value}
      (isList : argument = .list place items ∨ argument = .tuple place items)
      (each : ∀ a ∈ items, IsTypeExpression depth a) : IsTypeExpression (depth + 1) argument
  | bare {depth : Nat} {head : TypeHead} (spelled : head.IsSpelled) : IsTypeExpression depth (.subscripted head [])
  | subscripted {depth : Nat} {head : TypeHead} {args : List Value} (spelled : head.IsSpelled)
      (gathered : Value.isSpreadCallable head args = false) (given : args ≠ [])
      (each : ∀ a ∈ args, IsTypeExpression depth a) : IsTypeExpression (depth + 1) (.subscripted head args)
  | callable {depth : Nat} {head : TypeHead} {args : List Value} (spelled : head.IsSpelled)
      (spread : Value.isSpreadCallable head args = true) (given : args ≠ [])
      (each : ∀ a ∈ args, IsTypeExpression depth a) : IsTypeExpression (depth + 2) (.subscripted head args)
  | union {depth : Nat} (style : UnionStyle) {members : List Value} (given : members ≠ [])
      (each : ∀ m ∈ members, IsTypeExpression depth m) : IsTypeExpression depth (.union style members)
  | literal {depth : Nat} {values : List Value} (given : values ≠ []) (each : ∀ v ∈ values, IsConstant v) :
      IsTypeExpression (depth + 1) (.literalType values)
  | annotated {depth : Nat} {base : Value} {metadata : List Value} (of : IsTypeExpression depth base)
      (given : metadata ≠ []) (spelled : ∀ m ∈ metadata, (metadataClass m).IsSpelled) :
      IsTypeExpression (depth + 1) (.annotated base metadata)

/-! ## Their texts -/

variable {depth : Nat}

private theorem reachable_plain {name : ClassName} {text : String} (spelled : name.IsSpelled)
    (reached : name.reachable = .ok text) : PlainText .operand depth text.toList := by
  rw [reachable_ok reached]
  exact .path spelled

private theorem typing_path {name : String} (isName : Text.isName name = true) :
    PlainText .operand depth ("typing." ++ name).toList := by
  have typing : PlainText .operand depth "typing".toList := .name (by decide)
  have whole : PlainText .operand depth _ := .dotted typing .nil .nil isName
  simpa using whole

private theorem headName_plain {head : TypeHead} {text : String} (spelled : head.IsSpelled)
    (named : headName head = .ok text) : PlainText .operand depth text.toList := by
  cases head with
  | native | userClass | classAlias => exact reachable_plain spelled named
  | special name =>
    cases named
    exact typing_path spelled

/-- The name of metadata. -/
theorem metadataName_plain {m : Value} {text : String} (spelled : (metadataClass m).IsSpelled)
    (named : metadataName m = .ok text) : PlainText .operand depth text.toList := by
  have reached : (metadataClass m).reachable = .ok text := by
    rw [← named]
    cases m <;> rfl
  exact reachable_plain spelled reached

theorem metadataNames_plain {metadata : List Value} {names : List String}
    (spelled : ∀ m ∈ metadata, (metadataClass m).IsSpelled) (named : metadataNames metadata = .ok names) :
    ∀ name ∈ names, PlainText .union depth name.toList := by
  intro name among
  obtain ⟨m, inside, isName⟩ := mem_right_of_forall₂ (forall₂_of_mapM named) among
  exact .member (.operand (metadataName_plain (spelled m inside) isName))

private theorem constant_plain {v : Value} {text : String} (isConstant : IsConstant v) (shown : shownText v = .ok text) :
    PlainText .union depth text.toList := by
  rw [shownText, mapError_eq_ok_iff] at shown
  refine Value.IsPlainData.display_plain ?_ shown
  cases isConstant <;> constructor

private theorem texts_plain {values : List Value} {texts : List String} (printed : formatAll values = .ok texts)
    (further : ∀ v ∈ values, ∀ {text : String}, format v = .ok text → PlainText .union depth text.toList) :
    ∀ text ∈ texts, PlainText .union depth text.toList := by
  intro text among
  obtain ⟨v, inside, isText⟩ := mem_right_of_forall₂ (formatAll_ok printed) among
  exact further v inside isText

private theorem texts_given {values : List Value} {texts : List String} (printed : formatAll values = .ok texts)
    (given : values ≠ []) : texts ≠ [] := by
  rintro rfl
  cases formatAll_ok printed
  exact given rfl

/-- The texts of a callable's parameters and of its result, the parameters in brackets of their own. -/
private theorem callable_plain {texts : List String} (each : ∀ text ∈ texts, PlainText .union depth text.toList)
    (given : texts ≠ []) : ∀ text ∈ Value.callableTexts texts, PlainText .union (depth + 1) text.toList := by
  intro text among
  rw [Value.callableTexts, List.mem_cons, List.mem_singleton] at among
  rcases among with rfl | rfl
  · exact .member (.operand (.listed fun text inside => each text (List.dropLast_subset _ inside)))
  · rw [List.getLast?_eq_some_getLast given, Option.getD_some]
    exact (each _ (List.getLast_mem given)).deeper

theorem metadataNames_given {metadata : List Value} {names : List String} (named : metadataNames metadata = .ok names)
    (given : metadata ≠ []) : names ≠ [] := by
  rintro rfl
  cases forall₂_of_mapM named
  exact given rfl

private theorem annotated_plain {base : String} {names : List String} (of : PlainText .union depth base.toList)
    (each : ∀ name ∈ names, PlainText .union depth name.toList) (given : names ≠ []) :
    PlainText .union (depth + 1) (Wrapper.annotatedText base names).toList := by
  have word : PlainText .operand (depth + 1) "Annotated".toList := .name (by decide)
  have whole := PlainText.bracketed word (List.cons_ne_nil base names) (List.forall_mem_cons.2 ⟨of, each⟩)
  obtain ⟨name, others, rfl⟩ := List.exists_cons_of_ne_nil given
  have same : Wrapper.annotatedText base (name :: others) =
      "Annotated" ++ "[" ++ ", ".intercalate (base :: name :: others) ++ "]" := by
    rw [Wrapper.annotatedText, List.isEmpty_cons, if_neg Bool.false_ne_true, String.intercalate_cons_cons,
      show "Annotated[" = "Annotated" ++ "[" from rfl]
    simp only [String.append_assoc]
  rw [same]
  exact .member (.operand whole)

/-- The text of a type expression is plain, and its brackets nest as deep as those of the type. -/
theorem IsTypeExpression.format_plain {a : Value} (isType : IsTypeExpression depth a) :
    ∀ {text : String}, format a = .ok text → PlainText .union depth text.toList := by
  induction isType with
  | nothing =>
    intro text printed
    rw [format] at printed
    cases printed
    exact .member (.operand (.word (by decide)))
  | ellipsis =>
    intro text printed
    rw [format] at printed
    cases printed
    exact .member (.operand .ellipsis)
  | @named _ name isEnum spelled =>
    intro text printed
    rw [format] at printed
    by_cases isNone : name = Value.noneClass
    · rw [if_pos isNone] at printed
      cases printed
      exact .member (.operand (.word (by decide)))
    · rw [if_neg isNone] at printed
      exact .member (.operand (reachable_plain spelled printed))
  | byAlias shown spelled =>
    intro text printed
    rw [format] at printed
    exact .member (.operand (reachable_plain spelled printed))
  | special isName =>
    intro text printed
    rw [format, shownText, mapError_eq_ok_iff, Value.display] at printed
    · cases printed
      exact .member (.operand (typing_path isName))
    all_goals simp
  | typeVar scope isName =>
    intro text printed
    rw [format] at printed
    cases printed
    exact .member (.operand (.name isName))
  | paramSpec isName =>
    intro text printed
    rw [format] at printed
    cases printed
    exact .member (.operand (.name isName))
  | newType isPath =>
    intro text printed
    rw [format, shownText, mapError_eq_ok_iff, Value.display] at printed
    · cases printed
      exact .member (.operand (.path isPath))
    all_goals simp
  | parameters isList each further =>
    intro text printed
    rcases isList with rfl | rfl
    all_goals
      rw [format] at printed
      obtain ⟨texts, areTexts, same⟩ := bind_eq_ok_iff.1 printed
      cases same
      exact .member (.operand (.listed (texts_plain areTexts further)))
  | bare spelled =>
    intro text printed
    rw [format] at printed
    obtain ⟨name, isName, printed⟩ := bind_eq_ok_iff.1 printed
    cases printed
    exact .member (.operand (headName_plain spelled isName))
  | subscripted spelled gathered given each further =>
    intro text printed
    rw [format] at printed
    obtain ⟨name, isName, printed⟩ := bind_eq_ok_iff.1 printed
    rw [if_neg (by simpa using given)] at printed
    obtain ⟨texts, areTexts, same⟩ := bind_eq_ok_iff.1 printed
    rw [gathered, if_neg Bool.false_ne_true] at same
    cases same
    exact .member (.operand (.bracketed (headName_plain spelled isName) (texts_given areTexts given)
      (texts_plain areTexts further)))
  | callable spelled spread given each further =>
    intro text printed
    rw [format] at printed
    obtain ⟨name, isName, printed⟩ := bind_eq_ok_iff.1 printed
    rw [if_neg (by simpa using given)] at printed
    obtain ⟨texts, areTexts, same⟩ := bind_eq_ok_iff.1 printed
    rw [spread, if_pos rfl] at same
    cases same
    exact .member (.operand (.bracketed (headName_plain spelled isName) (List.cons_ne_nil _ _)
      (callable_plain (texts_plain areTexts further) (texts_given areTexts given))))
  | union style given each further =>
    intro text printed
    rw [format] at printed
    obtain ⟨texts, areTexts, same⟩ := bind_eq_ok_iff.1 printed
    cases same
    exact .barred (texts_given areTexts given) (texts_plain areTexts further)
  | @literal inside _ given each =>
    intro text printed
    rw [format] at printed
    obtain ⟨texts, areTexts, same⟩ := bind_eq_ok_iff.1 printed
    cases same
    have related := forall₂_of_mapM areTexts
    have shown : ∀ text ∈ texts, PlainText .union inside text.toList := by
      intro text among
      obtain ⟨v, isValue, shows⟩ := mem_right_of_forall₂ related among
      exact constant_plain (each v isValue) shows
    have nonempty : texts ≠ [] := by
      rintro rfl
      cases related
      exact given rfl
    have word : PlainText .operand (inside + 1) "typing.Literal".toList := .path (by decide)
    rw [show "typing.Literal[" = "typing.Literal" ++ "[" by decide]
    exact .member (.operand (.bracketed word nonempty shown))
  | annotated of given spelled further =>
    intro text printed
    rw [format] at printed
    obtain ⟨base, isBase, printed⟩ := bind_eq_ok_iff.1 printed
    obtain ⟨names, areNames, same⟩ := bind_eq_ok_iff.1 printed
    cases same
    exact annotated_plain (further isBase) (metadataNames_plain spelled areNames) (metadataNames_given areNames given)

end Hint

end EachSubject
