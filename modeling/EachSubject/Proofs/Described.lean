import EachSubject.Build
import EachSubject.Proofs.Defaults
import EachSubject.Proofs.Hint.TypeTexts
import EachSubject.Proofs.Overrides
import EachSubject.Proofs.Source.PlainText
import EachSubject.Proofs.Wrapper.Refusals
import EachSubject.Proofs.Wrapper.Tokens

/-!
# Shapes and classes that are emitted

A shape that passes the checks of its structure is emitted if its texts are plain: the module that is written out is
cut into tokens, and it is read back.

A class that goes by names of the language is emitted if it can be described: its declared types are written as plain
texts, and so are its defaults, whether a default is data or is read back from the method that keeps it. A build of
such a class fails only with the fault of its description.
-/

namespace EachSubject

open Source Wrapper

namespace SubjectShape

/-- The texts of the methods that are overridden are plain, and so is the target type. Their brackets nest to this
    depth at most. -/
structure IsPlain (depth : Nat) (s : SubjectShape) : Prop where
  target : Source.IsPlain depth s.target
  returns : ∀ m ∈ s.eligibleMethods, ∀ returns ∈ m.returns, Source.IsPlain depth returns
  typeText : ∀ m ∈ s.eligibleMethods, ∀ p ∈ m.parameters, ∀ typeText ∈ p.typeText, Source.IsPlain depth typeText
  annotations : ∀ m ∈ s.eligibleMethods, ∀ p ∈ m.parameters, ∀ annotation ∈ p.annotations,
    Source.IsPlain depth annotation
  default : ∀ m ∈ s.eligibleMethods, ∀ p ∈ m.parameters, ∀ default ∈ p.default, Source.IsPlain depth default

variable {depth : Nat} {s : SubjectShape}

/-- A type with its annotations is a complete expression, one level deeper. -/
private theorem annotated_plain {typeText : String} {annotations : List String} (plain : Source.IsPlain depth typeText)
    (each : ∀ annotation ∈ annotations, Source.IsPlain depth annotation) (room : depth + 1 ≤ bracketLimit) :
    (∃ e, ReadsAs (annotatedText typeText annotations) e) ∧
      Nests (depth + 1) (textTokens (annotatedText typeText annotations)) := by
  rw [annotatedText]
  cases annotations with
  | nil =>
    have room : depth ≤ bracketLimit := Nat.le_of_succ_le room
    exact ⟨plain.readsAs room, (plain.nests room).mono (Nat.le_succ depth)⟩
  | cons annotation annotations =>
    have whole := plain.annotated (List.cons_ne_nil annotation annotations) each
    exact ⟨whole.readsAs room, whole.nests room⟩

/-- The texts of a plain shape are complete expressions. -/
theorem IsPlain.complete (plain : s.IsPlain depth) (room : depth + 1 ≤ bracketLimit) : s.IsComplete where
  target := plain.target.readsAs (Nat.le_of_succ_le room)
  returns m eligible returns isReturned :=
    (plain.returns m eligible returns isReturned).readsAs (Nat.le_of_succ_le room)
  typeText m eligible p among typeText isType :=
    (annotated_plain (plain.typeText m eligible p among typeText isType) (plain.annotations m eligible p among) room).1
  default m eligible p among default isDefault :=
    (plain.default m eligible p among default isDefault).readsAs (Nat.le_of_succ_le room)

/-- The brackets of the override of a method of a plain shape nest one level deeper than those of the texts. -/
private theorem override_shallow (plain : s.IsPlain depth) (room : depth + 1 ≤ bracketLimit) {m : MethodShape}
    (eligible : m ∈ s.eligibleMethods) {o : Override} (made : m.override s = .ok o) : o.IsShallow (depth + 1) := by
  have deeper {text : String} (isPlain : Source.IsPlain depth text) : Nests (depth + 1) (textTokens text) :=
    (isPlain.nests (Nat.le_of_succ_le room)).mono (Nat.le_succ depth)
  obtain ⟨_, parameters, named, _, rfl⟩ := MethodShape.override_ok made
  refine ⟨deeper plain.target, fun returns isReturned => deeper (plain.returns m eligible returns isReturned), ?_⟩
  intro q among
  obtain ⟨p, inside, names⟩ := mem_right_of_forall₂ named among
  constructor
  case typeText =>
    intro typeText isType
    rw [names.typeText] at isType
    rw [names.annotations]
    exact (annotated_plain (plain.typeText m eligible p inside typeText isType)
      (plain.annotations m eligible p inside) room).2
  case default =>
    intro default isDefault
    rw [names.default] at isDefault
    exact deeper (plain.default m eligible p inside default isDefault)

/-- The module of a plain shape is cut into tokens. Around the texts three more brackets are open at most. -/
private theorem IsPlain.cut (plain : s.IsPlain depth) (room : depth + 3 ≤ bracketLimit) {c : Wrapper.Class}
    (made : s.wrapper = .ok c) : ∃ tokens, tokens? c.text.toList = some tokens := by
  have less : depth + 1 ≤ bracketLimit := Nat.le_trans (Nat.add_le_add_left (by decide) depth) room
  obtain ⟨_, _, _, _, target, overrides⟩ := wrapper_ok made
  have shallow : c.IsShallow (depth + 1) :=
    { targetType := by
        rw [target]
        exact (plain.target.nests (Nat.le_of_succ_le less)).mono (Nat.le_succ depth)
      overrides := by
        intro o among
        obtain ⟨m, eligible, made⟩ := mem_right_of_forall₂ overrides among
        exact override_shallow plain less eligible made }
  exact ⟨_, Class.tokens_of_shallow (wrapper_readable (plain.complete less) made) shallow room⟩

/-- The module of a plain shape is read back as the tree of its class. -/
theorem IsPlain.parses (plain : s.IsPlain depth) (room : depth + 3 ≤ bracketLimit) {c : Wrapper.Class}
    (made : s.wrapper = .ok c) : parse? c.text = some c.module := by
  obtain ⟨_, cut⟩ := plain.cut room made
  exact wrapper_parses (plain.complete (by omega)) made cut

/-- A plain shape with a wrapper class is emitted. -/
theorem IsPlain.emits (plain : s.IsPlain depth) (room : depth + 3 ≤ bracketLimit) {c : Wrapper.Class}
    (made : s.wrapper = .ok c) : s.emit = .ok { className := c.name, package := s.package, code := c.text } :=
  emit_of_tokens (plain.complete (by omega)) made (Option.isSome_iff_exists.2 (plain.cut room made))

end SubjectShape

/-! ## An example -/

/-- The target type takes brackets, and a bar inside of them. -/
def nestedShape : SubjectShape := { sampleShape with target := "dict[str, int | None]" }

/-- The wrapper class of the subject. -/
def nestedClass : Wrapper.Class where
  package := "shop"
  subjectName := "PriceSubject"
  targetType := "dict[str, int | None]"
  overrides := [{ sampleOverride with targetType := "dict[str, int | None]" }]

private theorem nestedShape_wrapper : nestedShape.wrapper = .ok nestedClass := by
  have eligible : nestedShape.eligibleMethods = [sampleMethod] := by decide
  have isPath : Text.isDottedPath nestedShape.package = true := by decide
  have simple : Text.isName nestedShape.simpleName = true := by decide
  rw [SubjectShape.wrapper, isPath, simple, eligible]
  refine bind_eq_ok_iff.2 ⟨nestedClass.overrides, ?_, rfl⟩
  rw [List.mapM_cons, mapError_eq_ok_iff.2 (sampleMethod_overrides nestedShape)]
  rfl

/-- The target type is plain: a subscript, and in it a name and a union. -/
private theorem nestedTarget_plain : Source.IsPlain 1 nestedShape.target := by
  have none : IsBlank [] := by simp [IsBlank]
  have space : IsBlank [' '] := by simp [IsBlank, isInlineSpace]
  have text : PlainText .operand 0 "str".toList := .name (by decide)
  have number : PlainText .operand 0 "int".toList := .name (by decide)
  have nothing : PlainText .operand 0 "None".toList := .word (by decide)
  have values : PlainText .union 0 _ := .union (.operand number) space space (.member (.operand nothing))
  have items : PlainText .items 0 _ := .items (.member (.operand text)) none space (.item values)
  have dict : PlainText .operand 1 "dict".toList := .name (by decide)
  exact PlainText.isPlain (.member (.operand (.subscript dict none none items none))) (by decide)

private theorem three_plain : Source.IsPlain 1 "3" := by
  have short : 3 < 10 ^ wholeLimit :=
    Nat.lt_of_lt_of_le (by decide : 3 < 10 ^ 1) (Nat.pow_le_pow_right (by decide) (by decide))
  exact IsPlain.decimal short

theorem nestedShape_plain : nestedShape.IsPlain 1 := by
  have only : ∀ m ∈ nestedShape.eligibleMethods, m = sampleMethod := fun m among =>
    List.mem_singleton.1 (SubjectShape.mem_eligibleMethods.1 among).1
  have nothing : PlainText .operand 1 "None".toList := .word (by decide)
  constructor
  case target => exact nestedTarget_plain
  case returns =>
    intro m among returns isReturned
    cases only m among
    cases isReturned
    exact PlainText.isPlain (.member (.operand nothing)) rfl
  case typeText =>
    intro m among p inside typeText isType
    cases only m among
    simp only [sampleMethod, List.mem_cons, List.not_mem_nil, or_false] at inside
    rcases inside with rfl | rfl <;> cases isType
    exact .name (by decide)
  case annotations =>
    intro m among p inside annotation annotated
    cases only m among
    simp only [sampleMethod, List.mem_cons, List.not_mem_nil, or_false] at inside
    rcases inside with rfl | rfl <;> cases annotated
  case default =>
    intro m among p inside default isDefault
    cases only m among
    simp only [sampleMethod, List.mem_cons, List.not_mem_nil, or_false] at inside
    rcases inside with rfl | rfl <;> cases isDefault
    exact three_plain

end EachSubject

namespace EachSubject

open Source Wrapper Description

/-! ## Signatures -/

/-- The parameters stand in an order in which they can be declared: their kinds do not go back, and behind a positional
    one with a default the others have one, too. -/
structure Function.IsOrdered (f : Function) : Prop where
  kinds : f.parameters.Pairwise fun p q => (kindOf p.mode).MayPrecede (kindOf q.mode)
  defaults : f.parameters.Pairwise fun p q => kindOf p.mode = .positional → kindOf q.mode = .positional →
    p.default ≠ none → q.default ≠ none

namespace Description

/-- Nothing keeps the method from being overridden. -/
structure FoundMethod.IsOverridable (found : FoundMethod) : Prop where
  static : found.binding ≠ .static
  onClass : found.binding ≠ .onClass
  isFinal : found.isFinal = false
  isPrivate : isPrivateName found.owner found.name = false
  generator : found.function.looksGenerator = false

/-- The default is data, or it has no literal for a text, so that it is read back from its method. -/
def IsDataOrKept (depth : Nat) (value : Value) : Prop :=
  value.IsPlainData depth ∨ ∀ text, Hint.shownText value = .ok text → isLiteral text value ≠ .ok true

/-- The method goes by names of the language, its declared types are type expressions, and its defaults can be
    written. No keyword is the name of the receiver. -/
structure FoundMethod.IsSpelled (w : World) (depth : Nat) (found : FoundMethod) : Prop where
  isName : Text.isName found.name = true
  declared : found.function.IsDeclared
  ordered : found.function.IsOrdered
  keywords : ∀ p ∈ callerParameters found, p.mode = .keywordOnly → Text.isName p.name = true ∧ p.name ≠ "self"
  types : ∀ hints, w.hints found.function = .ok hints → ∀ p ∈ callerParameters found,
    ∀ written ∈ (hints.lookup p.name).or p.hint, Hint.IsTypeExpression depth written
  returns : ∀ hints, w.hints found.function = .ok hints →
    ∀ written ∈ hints.lookup "return", Hint.IsTypeExpression depth written
  defaults : ∀ p ∈ callerParameters found, ∀ value ∈ p.default, IsDataOrKept depth value

end Description

/-- The class goes by names of the language, its target is a type expression, and so it is with the methods that can
    be overridden. -/
structure World.Spells (w : World) (depth : Nat) (name : ClassName) : Prop where
  isPath : Text.isDottedPath name.module = true
  isName : Text.isName name.simple = true
  target : ∀ target, w.typeParameter name subjectClass targetIndex = .bound target → Hint.IsTypeExpression depth target
  methods : ∀ found ∈ Description.methods w name, found.IsOverridable → found.IsSpelled w depth

/-! ## Texts -/

namespace Description

variable {w : World} {depth : Nat} {f : Function} {p : FunctionParameter} {reference : String}

private theorem format_isPlain {written : Value} {text : String} (isType : Hint.IsTypeExpression depth written)
    (printed : Hint.format written = .ok text) : Source.IsPlain depth text :=
  PlainText.isPlain (isType.format_plain printed) rfl

private theorem typeAndMetadata_isPlain {written : Value} {text : String} {names : List String}
    (isType : Hint.IsTypeExpression depth written) (made : typeAndMetadata written = .ok (text, names)) :
    Source.IsPlain depth text ∧ ∀ name ∈ names, Source.IsPlain depth name := by
  unfold typeAndMetadata at made
  split at made
  · obtain ⟨base, printed, made⟩ := bind_eq_ok_iff.1 made
    obtain ⟨metadata, named, same⟩ := bind_eq_ok_iff.1 made
    cases same
    cases isType with
    | parameters isList => rcases isList with impossible | impossible <;> cases impossible
    | annotated of given spelled =>
      exact ⟨PlainText.isPlain (of.format_plain printed).deeper rfl, fun name among =>
        PlainText.isPlain (Hint.metadataNames_plain spelled named name among) rfl⟩
  · obtain ⟨shown, printed, same⟩ := bind_eq_ok_iff.1 made
    cases same
    exact ⟨format_isPlain isType printed, by simp⟩

/-- Where a method keeps a default is reached by a plain text. -/
private theorem slot_plain (object : PlainText .operand (depth + 1) reference.toList) {slot : DefaultSlot}
    (declared : f.IsDeclared) (kept : (slot.value? f).isSome = true) :
    PlainText .operand (depth + 1) (reference ++ slot.text).toList := by
  cases slot with
  | byPlace index =>
    have isName : Text.isName "__defaults__" = true := by decide +kernel
    have field : PlainText .operand (depth + 1) _ := .dotted object .nil .nil isName
    have place : PlainText .number depth _ := .numeral (.decimal (index_short declared kept))
    have whole : PlainText .operand (depth + 1) _ :=
      .subscript field .nil .nil (.item (.member (.number place))) .nil
    simpa [DefaultSlot.text, Nat.toString_eq_repr, Nat.repr] using whole
  | byName key =>
    have isName : Text.isName "__kwdefaults__" = true := by decide +kernel
    have field : PlainText .operand (depth + 1) _ := .dotted object .nil .nil isName
    have name : PlainText .member depth _ := .quoted key.toList
    have whole : PlainText .operand (depth + 1) _ := .subscript field .nil .nil (.item (.member name)) .nil
    simpa [DefaultSlot.text, Text.quoted] using whole

/-- The text of a default is plain. A text that is read back stands in brackets. -/
private theorem defaultText_isPlain (room : 0 < depth) (object : PlainText .operand depth reference.toList)
    (declared : f.IsDeclared) (each : ∀ value ∈ p.default, IsDataOrKept depth value) {text : String}
    (made : defaultText f reference p = .ok (some text)) : PlainText .union depth text.toList := by
  rcases defaultText_ok made with ⟨_, impossible⟩ | ⟨value, shown, source, isDefault, same, shows, origin⟩
  · cases impossible
  cases same
  rcases origin with ⟨literal, rfl⟩ | stored
  · rcases each value isDefault with isData | noLiteral
    · rw [Hint.shownText, mapError_eq_ok_iff] at shows
      exact isData.display_plain shows
    · exact absurd literal (noLiteral _ shows)
  · rw [storedDefault?_eq] at stored
    obtain ⟨slot, isKept, rfl⟩ := Option.map_eq_some_iff.1 stored
    obtain ⟨inner, rfl⟩ := Nat.exists_eq_succ_of_ne_zero (Nat.pos_iff_ne_zero.1 room)
    rw [keptSlot?] at isKept
    have kept := Option.isSome_of_any (Option.filter_eq_some_iff.1 isKept).2
    exact .member (.operand (slot_plain object declared kept))

/-! ## Methods -/

/-- The texts of a parameter are plain, and metadata stands only behind a type. -/
structure IsPlainParameter (depth : Nat) (shape : ParameterShape) : Prop where
  typed : shape.annotations ≠ [] → shape.typeText ≠ none
  typeText : ∀ typeText ∈ shape.typeText, Source.IsPlain depth typeText
  annotations : ∀ annotation ∈ shape.annotations, Source.IsPlain depth annotation
  default : ∀ default ∈ shape.default, PlainText .union depth default.toList

private theorem parameterShape_isPlain (room : 0 < depth) (object : PlainText .operand depth reference.toList)
    (declared : f.IsDeclared) {hints : List (String × Value)}
    (types : ∀ written ∈ (hints.lookup p.name).or p.hint, Hint.IsTypeExpression depth written)
    (each : ∀ value ∈ p.default, IsDataOrKept depth value) {shape : ParameterShape}
    (made : parameterShape f reference hints p = .ok shape) : IsPlainParameter depth shape := by
  rw [parameterShape] at made
  obtain ⟨default, found, made⟩ := bind_eq_ok_iff.1 made
  have defaults : ∀ text ∈ default, PlainText .union depth text.toList := by
    rintro text rfl
    exact defaultText_isPlain room object declared each found
  dsimp only at made
  cases written : (hints.lookup p.name).or p.hint with
  | none =>
    rw [written] at made
    cases made
    exact ⟨fun given => absurd rfl given, by rintro _ ⟨⟩, by simp, defaults⟩
  | some declared =>
    rw [written] at made
    obtain ⟨⟨typeText, annotations⟩, isType, made⟩ := bind_eq_ok_iff.1 made
    cases made
    obtain ⟨plain, each⟩ := typeAndMetadata_isPlain (types declared written) isType
    exact ⟨fun _ => Option.some_ne_none _, by rintro _ ⟨⟩; exact plain, each, defaults⟩

/-- Only a method that can be overridden is eligible. -/
theorem overridable_of_isEligible {subject : ClassName} {subjectName : String} {found : FoundMethod}
    {m : MethodShape} (described : methodShape w subject subjectName found = .ok m) (eligible : m.isEligible = true) :
    found.IsOverridable := by
  obtain ⟨_, isFinal, isPrivate, isStatic, generator⟩ := m.isEligible_iff.1 eligible
  rw [methodShape, mapError_eq_ok_iff, bareMethodShape] at described
  obtain ⟨hints, _, described⟩ := bind_eq_ok_iff.1 described
  obtain ⟨returns, _, described⟩ := bind_eq_ok_iff.1 described
  obtain ⟨owner, _, described⟩ := bind_eq_ok_iff.1 described
  obtain ⟨parameters, _, described⟩ := bind_eq_ok_iff.1 described
  cases described
  obtain ⟨static, onClass⟩ := Bool.or_eq_false_iff.1 isStatic
  exact ⟨by simpa using static, by simpa using onClass, isFinal, isPrivate, generator⟩

private theorem callerParameters_sublist (found : FoundMethod) :
    (callerParameters found).Sublist found.function.parameters := by
  rw [callerParameters]
  split
  · exact List.Sublist.refl _
  · cases found.function.parameters with
    | nil => exact List.Sublist.refl _
    | cons first rest =>
      rw [withoutReceiver]
      split
      · exact List.sublist_cons_self first rest
      · exact List.Sublist.refl _

/-- What holds of pairs holds of the pairs that they are related to. -/
theorem pairwise_of_forall₂ {α β : Type} {R : α → β → Prop} {S : α → α → Prop} {T : β → β → Prop}
    (carried : ∀ a a' b b', R a b → R a' b' → S a a' → T b b') :
    ∀ {items : List α} {results : List β}, List.Forall₂ R items results → items.Pairwise S → results.Pairwise T
  | _, _, .nil, _ => .nil
  | _, _, .cons first behind, pairs => by
    obtain ⟨before, pairs⟩ := List.pairwise_cons.1 pairs
    refine List.pairwise_cons.2 ⟨fun result among => ?_, pairwise_of_forall₂ carried behind pairs⟩
    obtain ⟨item, inside, related⟩ := mem_right_of_forall₂ behind among
    exact carried _ item _ result first related (before item inside)

section

variable {subject : ClassName} {subjectName : String} {found : FoundMethod} {m : MethodShape}

/-- The override of a spelled method can be declared. -/
private theorem not_isUnfit (spelled : found.IsSpelled w depth)
    (described : methodShape w subject subjectName found = .ok m)
    (plain : ∀ p ∈ m.parameters, IsPlainParameter depth p) : ¬m.IsUnfit := by
  obtain ⟨name, _, _, _, describes⟩ := methodShape_ok described
  have inside := callerParameters_sublist found
  have sameDefault {p : FunctionParameter} {shape : ParameterShape} (tells : Describes p shape) :
      shape.default ≠ none ↔ p.default ≠ none := by
    rw [← Option.isSome_iff_ne_none, ← Option.isSome_iff_ne_none, tells.default]
  have keyword {p : FunctionParameter} {shape : ParameterShape} (tells : Describes p shape)
      (keywordOnly : shape.kind = .keywordOnly) : shape.keyword = some p.name ∧ p.mode = .keywordOnly := by
    refine ⟨by rw [tells.keyword, if_pos keywordOnly], ?_⟩
    have kind := tells.kind
    rw [keywordOnly] at kind
    cases mode : p.mode <;> rw [mode] at kind <;> first | rfl | cases kind
  refine (MethodShape.not_isUnfit_iff (s := default)).2 (MethodShape.override_ok_iff.2 ⟨?_, ?_, ?_, ?_, ?_, ?_⟩)
  · rw [name]
    exact spelled.isName
  · intro shape among
    obtain ⟨p, isCaller, tells⟩ := mem_right_of_forall₂ describes among
    refine ⟨(plain shape among).typed, fun keywordOnly => ?_, fun variadic => ?_⟩
    · obtain ⟨given, mode⟩ := keyword tells keywordOnly
      exact ⟨p.name, given, (spelled.keywords p isCaller mode).1⟩
    · by_contra given
      have has := Option.isSome_iff_ne_none.2 ((sameDefault tells).1 given)
      rw [tells.kind] at variadic
      have place := spelled.declared.places p (inside.subset isCaller) has
      cases mode : p.mode <;> rw [mode] at place variadic <;>
        simp [ParameterMode.isPositional, kindOf, ParameterKind.isVariadic] at place variadic
  · rw [List.pairwise_map]
    refine pairwise_of_forall₂ (fun _ _ _ _ one other => ?_) describes (spelled.ordered.kinds.sublist inside)
    rw [one.kind, other.kind]
    exact id
  · refine pairwise_of_forall₂ (fun _ _ _ _ one other keeps first second given => ?_) describes
      (spelled.ordered.defaults.sublist inside)
    exact (sameDefault other).2
      (keeps (one.kind.symm.trans first) (other.kind.symm.trans second) ((sameDefault one).1 given))
  · rw [MethodShape.keywords, List.Nodup, List.pairwise_filterMap]
    have distinct := List.pairwise_map.1 spelled.declared.distinct
    refine pairwise_of_forall₂ (fun _ _ _ _ one other differ first isFirst second isSecond => ?_) describes
      (distinct.sublist inside)
    split at isFirst
    · split at isSecond
      · cases (keyword one ‹_›).1.symm.trans isFirst
        cases (keyword other ‹_›).1.symm.trans isSecond
        exact differ
      · cases isSecond
    · cases isFirst
  · intro bound
    obtain ⟨shape, among, isBound⟩ := List.mem_filterMap.1 bound
    obtain ⟨p, isCaller, tells⟩ := mem_right_of_forall₂ describes among
    split at isBound
    · obtain ⟨given, mode⟩ := keyword tells ‹_›
      exact (spelled.keywords p isCaller mode).2 (Option.some.inj (given.symm.trans isBound))
    · cases isBound

/-- The texts of a spelled method are plain. -/
theorem methodShape_isPlain (room : 0 < depth) (isName : Text.isName subject.simple = true)
    (spelled : found.IsSpelled w depth) (described : methodShape w subject subjectName found = .ok m) :
    (∀ returns ∈ m.returns, Source.IsPlain depth returns) ∧ ∀ p ∈ m.parameters, IsPlainParameter depth p := by
  have object : PlainText .operand depth (subject.simple ++ "." ++ found.name).toList := by
    have whole : PlainText .operand depth _ := .dotted (.name isName) .nil .nil spelled.isName
    simpa using whole
  rw [methodShape, mapError_eq_ok_iff, bareMethodShape] at described
  obtain ⟨hints, areHints, described⟩ := bind_eq_ok_iff.1 described
  obtain ⟨returns, isReturn, described⟩ := bind_eq_ok_iff.1 described
  obtain ⟨owner, _, described⟩ := bind_eq_ok_iff.1 described
  obtain ⟨parameters, mapped, described⟩ := bind_eq_ok_iff.1 described
  cases described
  constructor
  · rintro text rfl
    rw [returnsText] at isReturn
    cases written : hints.lookup "return" with
    | none =>
      rw [written] at isReturn
      cases isReturn
    | some declared =>
      rw [written] at isReturn
      obtain ⟨_, printed, same⟩ := bind_eq_ok_iff.1 isReturn
      cases same
      exact format_isPlain (spelled.returns hints areHints declared written) printed
  · intro shape among
    obtain ⟨p, isCaller, made⟩ := mem_right_of_forall₂ (forall₂_of_mapM mapped) among
    exact parameterShape_isPlain room object spelled.declared (spelled.types hints areHints p isCaller)
      (spelled.defaults p isCaller) made

end

end Description

/-! ## Classes -/

namespace World

variable {w : World} {depth : Nat} {name : ClassName} {subject : Value} {shape : SubjectShape}

/-- What a description is made of. -/
theorem describe_ok (isSubject : w.subjectClass? subject = some name)
    (described : w.describe subject = .ok shape) :
    shape.package = name.module ∧ shape.simpleName = name.simple ∧
      (∃ target, w.typeParameter name subjectClass targetIndex = .bound target ∧
        Hint.format target = .ok shape.target) ∧
      List.Forall₂ (fun found m => methodShape w name name.qualified found = .ok m) (methods w name) shape.methods := by
  rw [subjectClass?.eq_def] at isSubject
  split at isSubject
  · split at isSubject
    · rename_i below
      cases isSubject
      obtain ⟨_, top⟩ := describe_head described
      obtain ⟨_, found, isTarget, mapped, rfl⟩ := (describe_ok_iff below top).1 described
      exact ⟨rfl, rfl, targetText_ok_iff.1 isTarget, forall₂_of_mapM mapped⟩
    · cases isSubject
  · cases isSubject

/-- The shape of a class that goes by names of the language is plain, and it can be declared. -/
theorem describe_isPlain (room : 0 < depth) (isSubject : w.subjectClass? subject = some name)
    (spells : w.Spells depth name) (described : w.describe subject = .ok shape) :
    shape.IsPlain depth ∧ ¬shape.IsUnfit := by
  obtain ⟨package, simpleName, ⟨target, bound, printed⟩, methods⟩ := describe_ok isSubject described
  have each : ∀ m ∈ shape.eligibleMethods, ¬m.IsUnfit ∧ (∀ returns ∈ m.returns, Source.IsPlain depth returns) ∧
      ∀ p ∈ m.parameters, IsPlainParameter depth p := by
    intro m eligible
    obtain ⟨among, eligible⟩ := SubjectShape.mem_eligibleMethods.1 eligible
    obtain ⟨found, inside, made⟩ := mem_right_of_forall₂ methods among
    have spelled := spells.methods found inside (overridable_of_isEligible made eligible)
    obtain ⟨returns, parameters⟩ := methodShape_isPlain room spells.isName spelled made
    exact ⟨not_isUnfit spelled made parameters, returns, parameters⟩
  constructor
  · constructor
    case target => exact format_isPlain (spells.target target bound) printed
    case returns => exact fun m eligible => (each m eligible).2.1
    case typeText => exact fun m eligible p among => ((each m eligible).2.2 p among).typeText
    case annotations => exact fun m eligible p among => ((each m eligible).2.2 p among).annotations
    case default => exact fun m eligible p among default isDefault =>
      PlainText.isPlain (((each m eligible).2.2 p among).default default isDefault) rfl
  · intro unfit
    cases unfit with
    | package among noName =>
      rw [package] at among
      rw [List.all_eq_true.1 spells.isPath _ among] at noName
      cases noName
    | simpleName noName =>
      rw [simpleName, spells.isName] at noName
      cases noName
    | method eligible unfit => exact (each _ eligible).1 unfit

theorem isNear_spelled (w : World) : isNear.IsSpelled w 1 where
  isName := by decide +kernel
  declared := isNear_readable.declared
  ordered := by
    constructor
    · simp only [isNear, List.pairwise_cons]
      decide
    · simp only [isNear, List.pairwise_cons]
      simp
  keywords := by
    intro p among keywordOnly
    cases List.mem_singleton.1 among
    cases keywordOnly
  types := by
    rintro hints ⟨⟩ p among written isType
    cases List.mem_singleton.1 among
    cases isType
  returns := by
    rintro hints ⟨⟩ written ⟨⟩
  defaults := by
    intro p among value isDefault
    cases List.mem_singleton.1 among
    cases isDefault
    refine .inr fun text shows literal => ?_
    rw [Hint.shownText, Value.display] at shows
    cases shows
    have none : isLiteral "inf" (.float 0 (.infinite false)) = .ok false := by with_unfolding_all rfl
    cases none.symm.trans literal

/-- The class goes by names of the language in each world that knows it with its target and its method. -/
theorem price_spells {w : World} (isTarget : w.typeParameter priceClass.name subjectClass targetIndex =
    .bound (.class (.builtin "int") false)) (only : Description.methods w priceClass.name = [isNear]) :
    w.Spells 1 priceClass.name where
  isPath := by decide
  isName := by decide
  target := by
    intro target bound
    cases isTarget.symm.trans bound
    exact .named false (by unfold ClassName.IsSpelled; decide)
  methods := by
    intro found among _
    cases List.mem_singleton.1 (only ▸ among)
    exact isNear_spelled w

private theorem price_spelled : cheapWorld.Spells 1 priceClass.name :=
  price_spells (by with_unfolding_all rfl) price_methods

end World

end EachSubject
