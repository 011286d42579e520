import EachSubject.Proofs.Loading

/-!
# Wrapping described classes

The wrapper that is built of a subject class loads, if its names keep out of each other's way: then it has the subject
class as its only base, and it defines the constructor and one override for each eligible method.
-/

namespace EachSubject

open Source Wrapper Description

/-! ## Names and texts -/

namespace Wrapper

theorem IsOpenName.of_letter {name : String} (plain : IsPlain name) {c : Char} {rest : List Char}
    (starts : name.toList = c :: rest) (letter : c ≠ '_') : IsOpenName name where
  normal := plain.normalized
  notPrivate := by
    rw [isPrivate, starts]
    simp [Ne.symm letter]
  notConstant := by
    rintro rfl
    cases starts
    exact letter rfl

theorem IsOpenName.of_argument (index underscores : Nat) : IsOpenName (argumentName index underscores) := by
  have starts := argumentName_chars index underscores
  exact .of_letter (argumentName_plain index underscores) starts (by decide)

theorem IsOpenName.of_freeLocal {base : String} (isBase : base ∈ localBases) (taken : List String) :
    IsOpenName (freeLocal base taken) := by
  obtain ⟨c, rest, starts, letter⟩ := freeLocal_letter isBase taken
  exact .of_letter (freeLocal_plain isBase taken) starts letter

end Wrapper

section

variable {depth : Nat} {s : SubjectShape} (plain : s.IsPlain depth) (room : depth + 1 ≤ bracketLimit)
include plain room

/-- The override of a method with open names keeps the rules. -/
theorem MethodShape.override_keepsRules {m : MethodShape} (eligible : m ∈ s.eligibleMethods) {o : Override}
    (made : m.override s = .ok o) (name : IsOpenName m.name) (keywords : ∀ keyword ∈ m.keywords, IsOpenName keyword) :
    o.KeepsRules := by
  have less : depth ≤ bracketLimit := Nat.le_of_succ_le room
  have quiet {text : String} (isPlain : Source.IsPlain depth text) : IsQuietText text :=
    fun _ => isPlain.settled less
  obtain ⟨_, parameters, parametersMade, _, clear, rfl⟩ := override_eq_ok_iff.1 made
  have named := parametersFrom_names parametersMade
  constructor
  case name => exact name
  case item => exact .of_freeLocal (by decide) _
  case subject => exact .of_freeLocal (by decide) _
  case parameters =>
    intro q among
    obtain ⟨p, inside, names⟩ := mem_right_of_forall₂ named among
    have given := names.name
    split at given
    · rename_i keywordOnly
      refine keywords q.name (List.mem_filterMap.2 ⟨p, inside, ?_⟩)
      rw [if_pos (names.kind ▸ keywordOnly), given]
    · obtain ⟨index, same⟩ := given
      obtain ⟨underscores, same'⟩ := firstFree_mem (argumentName index) m.keywords
      rw [same, same']
      exact .of_argument index underscores
  case different =>
    obtain ⟨different, receiver⟩ := clashes_eq_nil_iff.1 clear
    exact List.nodup_cons.2 ⟨receiver, different⟩
  case target => exact quiet plain.target
  case returns => exact fun returns isReturned => quiet (plain.returns m eligible returns isReturned)
  case hints =>
    intro q among e isHint
    obtain ⟨p, inside, names⟩ := mem_right_of_forall₂ named among
    obtain ⟨typeText, isType, isExpression⟩ := Option.bind_eq_some_iff.1 isHint
    rw [names.typeText] at isType
    rw [names.annotations, annotatedText] at isExpression
    have isPlain := plain.typeText m eligible p inside typeText isType
    have each := plain.annotations m eligible p inside
    split at isExpression
    · exact isPlain.settled less isExpression
    · rename_i given
      exact (isPlain.annotated (by simpa using given) each).settled room isExpression
  case defaults =>
    intro q among e isDefault
    obtain ⟨p, inside, names⟩ := mem_right_of_forall₂ named among
    obtain ⟨text, isText, isExpression⟩ := Option.bind_eq_some_iff.1 isDefault
    rw [names.default] at isText
    exact (plain.default m eligible p inside text isText).settled less isExpression

end

/-! ## Classes that can be wrapped -/

namespace Description

/-- The method and its keywords go by open names. -/
structure FoundMethod.IsOpen (found : FoundMethod) : Prop where
  name : IsOpenName found.name
  keywords : ∀ p ∈ callerParameters found, p.mode = .keywordOnly → IsOpenName p.name

/-- What the override of the method reads while its class is made: its mark, and for its defaults the class of the
    subject and the class of sets. -/
def FoundMethod.reads (found : FoundMethod) (subject : ClassName) : List String :=
  "override" :: if (callerParameters found).any (·.default.isSome) then [subject.simple, "set"] else []

end Description

/-- The name of the class that wraps a subject class. -/
def ClassName.wrapper (subject : ClassName) : ClassName :=
  ⟨subject.module ++ "." ++ (subject.simple ++ wrapperEnding), subject.simple ++ wrapperEnding⟩

private theorem splitPoints_plain : ∀ {text : List Char}, '.' ∉ text → Text.splitPoints text = [text]
  | [], _ => rfl
  | c :: rest, noPoint => by
    obtain ⟨differs, behind⟩ := not_or.1 (List.mem_cons.not.1 noPoint)
    rw [Text.splitPoints, splitPoints_plain behind]
    exact fun same => differs same.symm

/-- A class at the top of its module goes by its simple name there. -/
theorem ClassName.simple_of_isTopLevel {name : ClassName} (top : name.isTopLevel = true) : name.simple = name.path := by
  have noPoint : '.' ∉ name.path.toList := by simpa [ClassName.isTopLevel] using top
  rw [ClassName.simple, Text.pathPieces, splitPoints_plain noPoint, List.map_singleton, String.ofList_toList]
  rfl

/-- A class that can be extended is no enumeration with members. -/
theorem World.memberOf?_of_isExtensible {w : World} {name : ClassName} (extensible : w.isExtensible name = true)
    (member : String) : (w.class? name).bind (World.memberOf? · member) = none := by
  rw [isExtensible, kindOf?] at extensible
  cases found : w.class? name with
  | none => rfl
  | some c =>
    rw [found, Option.map_some] at extensible
    rw [Option.bind_some, memberOf?]
    cases kind : c.kind with
    | ordinary => rfl
    | record fields => rfl
    | enumeration members mixin =>
      cases members with
      | nil => rfl
      | cons first rest =>
        rw [kind] at extensible
        cases extensible

/-- The subject class can be imported in a world that keeps what a wrapper module imports, a class can be declared below
    it, and the methods that are overridden keep out of the way of what is read behind them. -/
structure World.IsWrappable (w : World) (depth : Nat) (subject : ClassName) : Prop where
  declared : w.Declared
  keepsBuiltins : w.KeepsBuiltins
  keepsLibrary : w.KeepsLibrary
  spells : w.Spells depth subject
  known : subject ∈ w.classes.map (·.name)
  importable : subject.module ∈ w.modules
  pieces : ∀ piece ∈ Text.pathPieces subject.module, Text.normalized piece = piece
  name : IsOpenName subject.simple
  reserved : subject.simple ∉ ["override", "set", "__module__", "__qualname__", "__init__", "__name__"]
  wrapper : IsOpenName subject.wrapper.path
  outside : subject.wrapper ∉ w.orderOf subject
  base : w.IsOpenBase subject
  methods : ∀ found ∈ Description.methods w subject, found.IsOverridable → found.IsOpen
  apart : (Description.methods w subject).Pairwise fun found later =>
    found.IsOverridable → later.IsOverridable → found.name ∉ later.reads subject

/-! ## Loading -/

/-- The class wraps the subject class of the shape in the store: the subject class is its only base, and it defines
    functions just under the name of the constructor and those of the eligible methods, each of which is that of the
    override of the method. -/
structure ClassInfo.Wraps (info : ClassInfo) (w : World) (subject : ClassName) (shape : SubjectShape) (store : Store) :
    Prop where
  isChild : info = w.childOf subject.wrapper subject info.members
  functions : ∀ name, (∃ f, info.Defines store name f) ↔ name = "__init__" ∨ ∃ m ∈ shape.eligibleMethods, m.name = name
  constructs : ∀ f, info.Defines store "__init__" f → f.body = .constructWrapper info.name
  overrides : ∀ m ∈ shape.eligibleMethods, ∀ f, info.Defines store m.name f →
    ∃ o, m.override shape = .ok o ∧ ∃ (frame : Frame) (defaults : List (Option Value)),
      frame.IsClassBody info.name ∧ defaults.length = o.parameters.length + 1 ∧ f = o.function frame defaults

theorem ClassInfo.Defines.unique {info : ClassInfo} {store : Store} {name : String} {f other : Function}
    (defines : info.Defines store name f) (again : info.Defines store name other) : f = other := by
  obtain ⟨id, member, kept⟩ := defines
  obtain ⟨_, member', kept'⟩ := again
  cases member.symm.trans member'
  cases kept.symm.trans kept'
  rfl

/-- What the override of a method of the shape reads while its class is made. -/
def MethodShape.reads (m : MethodShape) (subject : String) : List String :=
  "override" :: if m.parameters.any (·.default.isSome) then [subject, "set"] else []

private theorem any_of_forall₂ {α β : Type} {R : α → β → Prop} {p : α → Bool} {q : β → Bool}
    (same : ∀ a b, R a b → p a = q b) : ∀ {items : List α} {others : List β}, List.Forall₂ R items others →
      items.any p = others.any q
  | _, _, .nil => rfl
  | _, _, .cons first behind => by
    rw [List.any_cons, List.any_cons, same _ _ first, any_of_forall₂ same behind]

theorem MethodShape.override_reads {m : MethodShape} {s : SubjectShape} {o : Override} (made : m.override s = .ok o)
    (subject : String) : o.name = m.name ∧ o.reads subject = m.reads subject := by
  obtain ⟨_, parameters, named, _, rfl⟩ := MethodShape.override_ok made
  have same : m.parameters.any (·.default.isSome) = parameters.any (·.default.isSome) :=
    any_of_forall₂ (fun p q names => by rw [names.default]) named
  rw [Override.reads, MethodShape.reads, same]
  exact ⟨rfl, rfl⟩

namespace Description

variable {w : World} {subject : ClassName} {found : FoundMethod} {m : MethodShape}

theorem methodShape_reads (described : methodShape w subject subject.qualified found = .ok m) :
    m.name = found.name ∧ m.reads subject.simple = found.reads subject := by
  obtain ⟨name, _, _, _, describes⟩ := methodShape_ok described
  have same : (callerParameters found).any (·.default.isSome) = m.parameters.any (·.default.isSome) :=
    any_of_forall₂ (fun p shape tells => tells.default.symm) describes
  rw [FoundMethod.reads, MethodShape.reads, same]
  exact ⟨name, rfl⟩

/-- The keywords of a shape are names of parameters. -/
theorem keywords_open (described : methodShape w subject subject.qualified found = .ok m) (isOpen : found.IsOpen) :
    ∀ keyword ∈ m.keywords, IsOpenName keyword := by
  obtain ⟨_, _, _, _, describes⟩ := methodShape_ok described
  intro keyword among
  obtain ⟨shape, inside, isKeyword⟩ := List.mem_filterMap.1 among
  obtain ⟨p, isCaller, tells⟩ := mem_right_of_forall₂ describes inside
  split at isKeyword
  · rename_i keywordOnly
    have mode : p.mode = .keywordOnly := by
      have kind := tells.kind
      rw [keywordOnly] at kind
      cases mode : p.mode <;> rw [mode] at kind <;> first | rfl | cases kind
    have given := tells.keyword
    rw [if_pos keywordOnly, isKeyword] at given
    cases given
    exact isOpen.keywords p isCaller mode
  · cases isKeyword

/-- The text of a default is read as the expression that its override has for it. -/
private theorem expressionOf_eq {depth : Nat} {source : String} (plain : PlainText .union depth source.toList)
    (room : depth ≤ bracketLimit) {expression : Expr} (isText : Engine.IsTextOf source expression) :
    expressionOf source = some expression := by
  obtain ⟨notIndented, parses⟩ := plain.parseExpression room
  have same : Engine.unindented source = source := by
    rw [Engine.unindented]
    cases chars : source.toList with
    | nil => rw [← String.toList_inj, chars]; rfl
    | cons c rest =>
      rw [chars] at notIndented
      have noSpace : ¬isInlineSpace c = true := by
        intro isSpace
        have shorter := congrArg List.length notIndented
        rw [List.dropWhile_cons, if_pos isSpace] at shorter
        have := (List.dropWhile_sublist isInlineSpace (l := rest)).length_le
        simp only [List.length_cons] at shorter
        omega
      have noBlank : ¬(decide (c = ' ') || decide (c = '\t')) = true := by
        rw [Bool.or_eq_true, decide_eq_true_eq, decide_eq_true_eq]
        rintro (rfl | rfl) <;> exact noSpace (by decide)
      rw [List.dropWhile_cons, if_neg noBlank, ← chars, String.ofList_toList]
  rw [← parses, ← same]
  exact isText.parsed

/-- Where the class of the subject is imported, the defaults of the override have values. -/
theorem override_evaluates {depth : Nat} (nested : 0 < depth) (room : depth ≤ bracketLimit) (keeps : w.KeepsBuiltins)
    (isName : IsPlainName subject.simple) (among : found ∈ methods w subject) (spelled : found.IsSpelled w depth)
    (readable : found.IsReadable w subject) (notPrivate : isPrivate found.name = false)
    (described : methodShape w subject subject.qualified found = .ok m) {s : SubjectShape} {o : Override}
    (made : m.override s = .ok o) (e : Engine) {f : Frame} (isOuter : f.IsOuter) {outer : List (String × Value)}
    (isSubject : outer.lookup subject.simple = some (w.classValue subject)) (noSet : outer.lookup "set" = none)
    (notPrivateSubject : isPrivate subject.simple = false) : o.Evaluates e f w outer subject.simple := by
  obtain ⟨_, parameters, named, _, same⟩ := MethodShape.override_ok made
  obtain ⟨_, plain⟩ := methodShape_isPlain nested isName.isName spelled described
  intro store own isWorld unchanged sees free q isParameter default isDefault
  rw [same] at isParameter
  obtain ⟨shape, inside, names⟩ := mem_right_of_forall₂ named isParameter
  obtain ⟨source, isText, isExpression⟩ := Option.bind_eq_some_iff.1 isDefault
  have defaulted : o.parameters.any (·.default.isSome) = true := by
    rw [same]
    exact List.any_eq_true.2 ⟨q, isParameter, by rw [isText]; rfl⟩
  rw [Override.reads, if_pos defaulted] at free
  rw [names.default] at isText
  obtain ⟨p, isCaller, made⟩ := mem_right_of_forall₂ (World.methodShape_defaults described) inside
  rw [isText] at made
  obtain ⟨value, isValue⟩ : ∃ value, p.default = some value := by
    rcases defaultText_ok made with ⟨_, impossible⟩ | ⟨value, _, _, isValue, _⟩
    · cases impossible
    · exact ⟨value, isValue⟩
  obtain ⟨_, expression, isSource, reads, evaluates⟩ :=
    defaultText_evaluates keeps isName among readable (mem_of_mem_callerParameters isCaller) isValue made
  cases isSource
  cases (expressionOf_eq ((plain shape inside).default _ isText) room reads).symm.trans isExpression
  simp only [List.forall_mem_cons] at free
  obtain ⟨_, noSubject, noOwnSet, _⟩ := free
  intro later grows
  have isLater : later.world = w := grows.world.trans isWorld
  have seesLater : f.Sees later own outer :=
    ⟨grows.kept _ List.not_mem_nil _ sees.own, grows.kept _ List.not_mem_nil _ sees.outer⟩
  have knows : f.Knows later subject := by
    constructor
    · refine isOuter.value_start seesLater ?_
      rw [Frame.inside_notPrivate notPrivateSubject, noSubject, isSubject, isLater]
      rfl
    · refine isOuter.value_start seesLater ?_
      rw [Frame.inside_notPrivate (by decide), noOwnSet, noSet, Option.none_or, Option.none_or]
      exact Library.knownName?_set
  obtain ⟨given, next, constants, started, _⟩ := evaluates e f later isLater (grows.revised.trans unchanged) knows
    (Frame.inside_notPrivate notPrivate f)
  exact ⟨given, _, started, .advanced _ _ _ _⟩

end Description

namespace World

section

variable {w : World} {depth : Nat} {subject : ClassName} {isEnum : Bool} {shape : SubjectShape} {c : Wrapper.Class}
  (nested : 0 < depth) (room : depth + 3 ≤ bracketLimit) (wrappable : w.IsWrappable depth subject)
  (described : w.describe (.class subject isEnum) = .ok shape) (made : shape.wrapper = .ok c)

include described in
private theorem subjectClass?_of_describe : w.subjectClass? (.class subject isEnum) = some subject := by
  rw [subjectClass?, if_pos (describe_head described).1]

include described in
private theorem eligible_found : ∀ m ∈ shape.eligibleMethods, ∃ found ∈ Description.methods w subject,
    methodShape w subject subject.qualified found = .ok m ∧ found.IsOverridable := by
  intro m eligible
  obtain ⟨among, eligible⟩ := SubjectShape.mem_eligibleMethods.1 eligible
  obtain ⟨found, inside, made⟩ := mem_right_of_forall₂ (describe_methods described) among
  exact ⟨found, inside, made, overridable_of_isEligible made eligible⟩

include nested room wrappable described made

private theorem wrapper_keepsRules : c.KeepsRules := by
  have isSubject := subjectClass?_of_describe described
  obtain ⟨plain, _⟩ := describe_isPlain nested isSubject wrappable.spells described
  obtain ⟨package, simpleName, _⟩ := describe_ok isSubject described
  obtain ⟨_, _, isPackage, isName, isTarget, overrides⟩ := SubjectShape.wrapper_ok made
  constructor
  case name =>
    rw [Class.name, isName, simpleName]
    exact wrappable.wrapper
  case subjectName =>
    rw [isName, simpleName]
    exact wrappable.name
  case package =>
    rw [isPackage, package, List.map_congr_left wrappable.pieces, List.map_id']
    intro same
    have isFuture : subject.module = "__future__" := by
      rw [← Text.pathPieces_join subject.module, same]
      rfl
    exact wrappable.keepsLibrary "__future__" (by decide) (isFuture ▸ wrappable.importable)
  case target =>
    rw [isTarget]
    exact fun _ => plain.target.settled (by omega)
  case overrides =>
    intro o among
    obtain ⟨m, eligible, overridden⟩ := mem_right_of_forall₂ overrides among
    obtain ⟨found, inside, shaped, overridable⟩ := eligible_found described m eligible
    have isOpen := wrappable.methods found inside overridable
    refine MethodShape.override_keepsRules plain (by omega) eligible overridden ?_ (keywords_open shaped isOpen)
    rw [(methodShape_ok shaped).1]
    exact isOpen.name

private theorem wrapper_statements (noNul : c.text.contains nulCharacter = false) {source : WrapperSource}
    (isText : source.code = c.text) : source.statements = .ok c.module := by
  have isSubject := subjectClass?_of_describe described
  obtain ⟨plain, _⟩ := describe_isPlain nested isSubject wrappable.spells described
  rw [WrapperSource.statements, isText, noNul, if_neg (by decide)]
  refine bind_eq_ok_iff.2 ⟨c.module, ?_, if_pos (wrapper_keepsRules nested room wrappable described made).isSound⟩
  rw [plain.parses room made]
  rfl

omit nested room in
/-- No override is named as a later one, or as what that reads. -/
private theorem wrapper_apart :
    c.overrides.Pairwise fun o later => o.name ∉ later.name :: later.reads subject.simple := by
  obtain ⟨_, _, _, _, _, overrides⟩ := SubjectShape.wrapper_ok made
  have distinct := List.pairwise_map.1 (methods_names_nodup w subject)
  have shapes := pairwise_of_forall₂ (T := fun m later => m.isEligible = true → later.isEligible = true →
      m.name ∉ later.name :: later.reads subject.simple) (fun found m later m' shaped shapedLater apart eligible
        eligibleLater => ?_) (describe_methods described) (distinct.and wrappable.apart)
  · refine pairwise_of_forall₂ (fun m o m' later overridden overriddenLater apart => ?_) overrides
      (List.pairwise_filter.2 shapes)
    rw [(MethodShape.override_reads overridden subject.simple).1,
      (MethodShape.override_reads overriddenLater subject.simple).1,
      (MethodShape.override_reads overriddenLater subject.simple).2]
    exact apart
  · rw [(methodShape_reads shaped).1, (methodShape_reads shapedLater).1, (methodShape_reads shapedLater).2,
      List.mem_cons, not_or]
    exact ⟨apart.1, apart.2 (overridable_of_isEligible shaped eligible) (overridable_of_isEligible shapedLater
      eligibleLater)⟩

private theorem wrapper_evaluates (e : Engine) {f : Frame} (isOuter : f.IsOuter) {outer : List (String × Value)}
    (isSubject : outer.lookup subject.simple = some (w.classValue subject)) (noSet : outer.lookup "set" = none) :
    ∀ o ∈ c.overrides, o.Evaluates e f w outer subject.simple := by
  obtain ⟨_, _, _, _, _, overrides⟩ := SubjectShape.wrapper_ok made
  intro o among
  obtain ⟨m, eligible, overridden⟩ := mem_right_of_forall₂ overrides among
  obtain ⟨found, inside, shaped, overridable⟩ := eligible_found described m eligible
  have spelled := wrappable.spells.methods found inside overridable
  have name := (wrappable.methods found inside overridable).name
  have readable : found.IsReadable w subject :=
    ⟨⟨spelled.isName, name.normal⟩, memberOf?_of_isExtensible wrappable.base.extensible _, spelled.declared⟩
  exact override_evaluates nested (by omega) wrappable.keepsBuiltins ⟨wrappable.spells.isName, wrappable.name.normal⟩
    inside spelled readable name.notPrivate shaped overridden e isOuter isSubject noSet wrappable.name.notPrivate

omit nested room in
private theorem wrapper_isClear : c.IsClear := by
  obtain ⟨_, simpleName, _⟩ := describe_ok (subjectClass?_of_describe described) described
  obtain ⟨_, _, _, isName, _, overrides⟩ := SubjectShape.wrapper_ok made
  have reserved := wrappable.reserved
  rw [simpleName] at isName
  constructor
  case subject =>
    rw [isName]
    exact ⟨fun same => reserved (by simp [same]), fun same => reserved (by simp [same])⟩
  case special =>
    intro o among name inside
    obtain ⟨m, eligible, overridden⟩ := mem_right_of_forall₂ overrides among
    obtain ⟨found, isFound, shaped, _⟩ := eligible_found described m eligible
    rcases List.mem_cons.1 inside with rfl | inside
    · rw [(MethodShape.override_reads overridden c.subjectName).1, (methodShape_reads shaped).1]
      obtain ⟨_, _, _, ordinary, _⟩ := (mem_methods_iff w subject found).1 isFound
      have special : ∀ name ∈ ["__module__", "__qualname__", "__init__"], Special name := by
        unfold Special
        decide
      exact fun among => ordinary (special _ among)
    · have read : name ∈ ["override", subject.simple, "set"] := by
        rw [Override.reads, isName] at inside
        split at inside
        · exact inside
        · exact List.mem_cons.2 (.inl (List.mem_singleton.1 inside))
      simp only [List.mem_cons, List.not_mem_nil, or_false] at read
      rcases read with rfl | rfl | rfl
      · decide
      · intro among
        exact reserved (by simp only [List.mem_cons] at among ⊢; tauto)
      · decide
  case apart =>
    rw [isName]
    exact wrapper_apart wrappable described made

omit nested room wrappable described in
/-- The overrides go by the names of the methods. -/
private theorem override_names : c.overrides.map (·.name) = shape.eligibleMethods.map (·.name) := by
  obtain ⟨_, _, _, _, _, overrides⟩ := SubjectShape.wrapper_ok made
  refine (List.forall₂_eq_eq_eq ▸ List.forall₂_map_left_iff.2 (List.forall₂_map_right_iff.2 (overrides.imp ?_))).symm
  exact fun m o overridden => (MethodShape.override_reads overridden "").1.symm

omit nested room wrappable described in
/-- What the class of the wrapper makes wraps the subject class. -/
private theorem makes_wraps {store : Store} {info : ClassInfo} (makes : c.Makes w subject.wrapper subject store info) :
    info.Wraps w subject shape store := by
  obtain ⟨_, _, _, _, _, overrides⟩ := SubjectShape.wrapper_ok made
  have isName : info.name = subject.wrapper := by rw [makes.isChild]; rfl
  have isOverride : ∀ {m : MethodShape} {o : Override}, m.override shape = .ok o → o.name = m.name :=
    fun overridden => (MethodShape.override_reads overridden "").1
  constructor
  case isChild => exact makes.isChild
  case functions =>
    intro name
    constructor
    · rintro ⟨f, id, member, _⟩
      have among : name ∈ info.members.map (·.1) := by
        obtain ⟨before, after, split, _⟩ := List.lookup_eq_some_iff.1 member
        rw [split]
        simp
      rw [makes.names] at among
      rcases List.mem_cons.1 among with rfl | among
      · obtain ⟨place, isText⟩ := makes.isText
        cases isText.symm.trans member
      · refine (List.mem_cons.1 among).imp_right fun among => ?_
        obtain ⟨o, inside, rfl⟩ := List.mem_map.1 among
        obtain ⟨m, eligible, overridden⟩ := mem_right_of_forall₂ overrides inside
        exact ⟨m, eligible, (isOverride overridden).symm⟩
    · rintro (rfl | ⟨m, eligible, rfl⟩)
      · obtain ⟨f, _, defines⟩ := makes.constructs
        exact ⟨_, defines⟩
      · obtain ⟨o, inside, overridden⟩ := mem_left_of_forall₂ overrides eligible
        obtain ⟨f, defaults, _, _, defines⟩ := makes.overrides o inside
        rw [isOverride overridden] at defines
        exact ⟨_, defines⟩
  case constructs =>
    intro f defines
    obtain ⟨frame, _, given⟩ := makes.constructs
    rw [defines.unique given, isName]
    rfl
  case overrides =>
    intro m eligible f defines
    obtain ⟨o, inside, overridden⟩ := mem_left_of_forall₂ overrides eligible
    obtain ⟨frame, defaults, body, count, given⟩ := makes.overrides o inside
    rw [isOverride overridden] at given
    rw [isName]
    exact ⟨o, overridden, frame, defaults, body, count, defines.unique given⟩

end

/-- A build describes the class, and emits what is described. -/
theorem build_eq_ok {w : World} {subject : Value} {source : WrapperSource} (built : w.build subject = .ok source) :
    ∃ shape, w.describe subject = .ok shape ∧ shape.emit = .ok source := by
  rw [build] at built
  cases described : w.describe subject with
  | error fault =>
    rw [described] at built
    cases built
  | ok shape =>
    rw [described, mapError_eq_ok_iff] at built
    exact ⟨shape, rfl, built⟩

/-- The module that is emitted of a class which can be wrapped loads: its class wraps the subject class, has no members
    but the text of its module and its functions, and takes what constructors of wrappers take. -/
theorem emit_loads {w : World} {depth : Nat} {subject : ClassName} (nested : 0 < depth)
    (room : depth + 3 ≤ bracketLimit) (wrappable : w.IsWrappable depth subject) {isEnum : Bool} {shape : SubjectShape}
    (described : w.describe (.class subject isEnum) = .ok shape) {source : WrapperSource}
    (emitted : shape.emit = .ok source) {store : Store} (isWorld : store.world = w) (unchanged : store.revised = []) :
    source.load.Ends store fun value last => ∃ info, value = info.value ∧ last.world = w.withClass info ∧
      last.revised = [] ∧ info.Wraps w subject shape last ∧
      info.members.map (·.1) = "__module__" :: "__init__" :: shape.eligibleMethods.map (·.name) ∧
      ∃ f, info.Defines last "__init__" f ∧ f.IsWrapperConstructor info.name := by
  obtain ⟨c, made, isSource, noNul⟩ := SubjectShape.emit_ok emitted
  have isSubject := subjectClass?_of_describe described
  obtain ⟨package, simpleName, _⟩ := describe_ok isSubject described
  obtain ⟨_, _, isPackage, isName, _, overrides⟩ := SubjectShape.wrapper_ok made
  rw [simpleName] at isName
  rw [package] at isPackage
  have isWrapper : ⟨source.qualifiedName, c.name⟩ = subject.wrapper := by
    rw [WrapperSource.qualifiedName, isSource, ClassName.wrapper, Class.name, isName, package]
  have isPath := ClassName.simple_of_isTopLevel (describe_head described).2.noPoint
  have imported : store.world.Imports c.packageTree [(c.subjectName, store.world.classValue subject)] := by
    obtain ⟨known, inside, isKnown⟩ := List.mem_map.1 wrappable.known
    have noName : subject.path ≠ "__name__" := by
      rw [← isPath]
      exact fun same => wrappable.reserved (by simp [same])
    rw [isWorld]
    refine imports_package isPackage (isName.trans isPath) (isPath ▸ wrappable.name.normal) wrappable.pieces ?_
    exact importName_class (describe_head described).2.noPoint noName wrappable.importable inside isKnown
  have rules := wrapper_keepsRules nested room wrappable described made
  have isText : source.statements = .ok c.module :=
    wrapper_statements nested room wrappable described made noNul (by rw [isSource])
  have chosen : ∀ o ∈ c.overrides, o.ChoosesNames := by
    intro o among
    obtain ⟨m, eligible, overridden⟩ := mem_right_of_forall₂ overrides among
    obtain ⟨found, inside, shaped, overridable⟩ := eligible_found described m eligible
    exact MethodShape.override_chooses (fun keyword isKeyword =>
      (keywords_open shaped (wrappable.methods found inside overridable) keyword isKeyword).normal) overridden
  refine (WrapperSource.load_ends isText (by rw [isSource]) rules chosen (wrapper_isClear wrappable described made)
    unchanged (isWorld ▸ wrappable.declared) (isWorld ▸ wrappable.keepsLibrary) imported (isWorld ▸ wrappable.base)
    ?_ ?_).imp ?_
  · rw [isWrapper, isWorld]
    exact wrappable.outside
  · rw [isName, isWorld]
    exact fun f outer body isSubject noSet =>
      wrapper_evaluates nested room wrappable described made engine body.toIsOuter isSubject noSet
  · rintro value last ⟨rfl, info, makes, world, revised⟩
    rw [isWrapper, isWorld] at makes
    rw [isWorld] at world
    have isName : info.name = subject.wrapper := by
      rw [makes.isChild]
      rfl
    obtain ⟨frame, _, defines⟩ := makes.constructs
    refine ⟨info, ?_, world, revised.trans unchanged, makes_wraps made makes, by rw [makes.names, override_names made],
      _, defines, isName ▸ c.constructor_isWrapperConstructor frame subject.wrapper⟩
    rw [isWrapper, makes.isChild]
    rfl

/-- The wrapper that is built of a class which can be wrapped loads: it raises nothing, and gives a class that wraps the
    subject class. -/
theorem build_loads {w : World} {depth : Nat} {subject : ClassName} (nested : 0 < depth)
    (room : depth + 3 ≤ bracketLimit) (wrappable : w.IsWrappable depth subject) {isEnum : Bool} {source : WrapperSource}
    (built : w.build (.class subject isEnum) = .ok source) {store : Store} (isWorld : store.world = w)
    (unchanged : store.revised = []) : ∃ shape, w.describe (.class subject isEnum) = .ok shape ∧
      source.load.Ends store fun value last => ∃ info, value = info.value ∧ last.world = w.withClass info ∧
        info.Wraps w subject shape last := by
  obtain ⟨shape, described, emitted⟩ := build_eq_ok built
  refine ⟨shape, described, (emit_loads nested room wrappable described emitted isWorld unchanged).imp ?_⟩
  rintro value last ⟨info, isValue, world, _, wraps, _⟩
  exact ⟨info, isValue, world, wraps⟩

/-! ### An example -/

/-- The module of prices can be imported. -/
def shopWorld : World := cheapWorld.addModule "shop"

/-- A further module changes nothing about the methods of a class. -/
private theorem methods_addModule (w : World) (module : String) (subject : ClassName) :
    methods (w.addModule module) subject = methods w subject := by
  have each (seen : List String) (order : List ClassName) :
      methodsOf (w.addModule module) seen order = methodsOf w seen order := by
    induction order generalizing seen with
    | nil => rfl
    | cons owner rest ih =>
      rw [methodsOf, methodsOf]
      exact congrArg _ (ih _)
  exact each [] _

private theorem shop_methods : methods shopWorld priceClass.name = [isNear] :=
  (methods_addModule cheapWorld "shop" priceClass.name).trans price_methods

/-- Lookup on the class of the example comes to the root of all classes where nothing below has the member. -/
theorem price_lookup {name : String}
    (passes : ∀ above ∈ [priceClass.name, subjectClass, genericClass],
      ((shopWorld.class? above).bind (·.member? name)).isNone = true)
    {object : ClassInfo} (isObject : Library.class? objectClass = some object) :
    shopWorld.lookup priceClass.name name = (object.member? name).map fun member => (objectClass, member) := by
  have order : shopWorld.orderOf priceClass.name = [priceClass.name, subjectClass, genericClass, objectClass] := by
    decide +kernel
  have declared : shopWorld.Declared := cheapWorld_declared.addModule "shop"
  simp only [List.forall_mem_cons, Option.isNone_iff_eq_none] at passes
  obtain ⟨price, above, generic, _⟩ := passes
  rw [lookup, order, lookupIn_cons_of_none price, lookupIn_cons_of_none above, lookupIn_cons_of_none generic, lookupIn,
    declared.class?_library isObject, Option.bind_some]
  cases object.member? name <;> rfl

theorem price_isWrappable : shopWorld.IsWrappable 1 priceClass.name where
  declared := cheapWorld_declared.addModule "shop"
  keepsBuiltins := by
    intro c among
    rcases List.mem_cons.1 among with rfl | among
    · decide
    · rw [List.mem_singleton.1 among]
      decide
  keepsLibrary := by
    unfold KeepsLibrary
    decide
  spells := price_spells (by with_unfolding_all rfl) shop_methods
  known := by decide
  importable := by decide
  pieces := by decide
  name := .of_letter (by decide) rfl (by decide)
  reserved := by decide
  wrapper := .of_letter (by decide) rfl (by decide)
  outside := by decide +kernel
  base :=
    { known := by decide
      noList := by decide
      extensible := by decide +kernel
      distinct := by decide +kernel
      unnoticed := by
        obtain ⟨object, isObject, _, notices⟩ := Library.object_plain
        rw [price_lookup (by decide +kernel) isObject, notices]
        rfl }
  methods := by
    intro found among _
    cases List.mem_singleton.1 (shop_methods ▸ among)
    refine ⟨.of_letter (by decide) rfl (by decide), fun p among keywordOnly => ?_⟩
    cases List.mem_singleton.1 among
    cases keywordOnly
  apart := by
    rw [shop_methods]
    exact List.pairwise_singleton _ _

theorem price_built : ∃ source, shopWorld.build (.class priceClass.name false) = .ok source := by
  let shape : SubjectShape :=
    { package := "shop", simpleName := "PriceSubject", target := "int", methods := [isNearShape] }
  have described : shopWorld.describe (.class priceClass.name false) = .ok shape := by
    refine (describe_ok_iff (by decide +kernel) ⟨by decide, by decide⟩).2 ⟨"int", [isNearShape], ?_, ?_, rfl⟩
    · exact eq_ok_of_toOption (by decide +kernel)
    · rw [shop_methods, List.mapM_cons]
      exact bind_eq_ok_iff.2 ⟨_, isNear_described _, rfl⟩
  obtain ⟨plain, fits⟩ := describe_isPlain (by decide) (by decide +kernel) price_isWrappable.spells described
  obtain ⟨c, made⟩ := SubjectShape.wrapper_ok_iff.2 fits
  refine ⟨{ className := c.name, package := shape.package, code := c.text }, ?_⟩
  rw [build, described]
  exact mapError_eq_ok_iff.2 (plain.emits (by decide) made)

/-- The wrapper of the example loads. -/
theorem price_loads : 0 < 1 ∧ 1 + 3 ≤ bracketLimit ∧ shopWorld.IsWrappable 1 priceClass.name ∧
    ∃ source, shopWorld.build (.class priceClass.name false) = .ok source ∧
      ∃ shape, shopWorld.describe (.class priceClass.name false) = .ok shape ∧
        source.load.Ends (Store.start shopWorld .raise Hint.firstPlace) fun value last =>
          ∃ info, value = info.value ∧ last.world = shopWorld.withClass info ∧
            info.Wraps shopWorld priceClass.name shape last := by
  obtain ⟨source, built⟩ := price_built
  exact ⟨by decide, by decide, price_isWrappable, source, built,
    build_loads (by decide) (by decide) price_isWrappable built rfl rfl⟩

end World

end EachSubject
