import EachSubject.Description
import EachSubject.Proofs.Forwarding
import EachSubject.Proofs.Overrides

/-!
# The signatures of overrides

The override of a described method mirrors its parameters: it takes the calls that the method takes, refuses
those that the method refuses, and passes the same arguments on. Only the names that it chooses for itself and
those that a class keeps to itself stand in the way of a keyword.
-/

namespace EachSubject

open Source Wrapper Description

/-! ## Described parameters -/

/-- The shape tells the kind of the parameter, its keyword, and whether it has a default. -/
structure Describes (p : FunctionParameter) (shape : ParameterShape) : Prop where
  kind : shape.kind = kindOf p.mode
  keyword : shape.keyword = if shape.kind = .keywordOnly then some p.name else none
  default : shape.default.isSome = p.default.isSome

/-- Where the text of a default comes from: the default's own text if that is a literal, or where the function
    keeps the default. -/
theorem defaultText_ok {f : Function} {reference : String} {p : FunctionParameter} {text : Option String}
    (found : defaultText f reference p = .ok text) : p.default = none ∧ text = none ∨
      ∃ value shown source, p.default = some value ∧ text = some source ∧ Hint.shownText value = .ok shown ∧
        (isLiteral shown value = .ok true ∧ source = shown ∨ storedDefault? f reference p value = some source) := by
  rw [defaultText.eq_def] at found
  cases isDefault : p.default with
  | none =>
    rw [isDefault] at found
    cases found
    exact .inl ⟨rfl, rfl⟩
  | some value =>
    rw [isDefault] at found
    dsimp only at found
    obtain ⟨shown, shows, found⟩ := bind_eq_ok_iff.1 found
    obtain ⟨literal, judged, found⟩ := bind_eq_ok_iff.1 found
    cases literal with
    | true =>
      cases found
      exact .inr ⟨value, shown, shown, rfl, rfl, shows, .inl ⟨judged, rfl⟩⟩
    | false =>
      cases stored : storedDefault? f reference p value with
      | none =>
        rw [stored] at found
        cases found
      | some source =>
        rw [stored] at found
        cases found
        exact .inr ⟨value, shown, source, rfl, rfl, shows, .inr stored⟩

private theorem defaultText_isSome {f : Function} {reference : String} {p : FunctionParameter} {text : Option String}
    (found : defaultText f reference p = .ok text) : text.isSome = p.default.isSome := by
  rcases defaultText_ok found with ⟨isDefault, rfl⟩ | ⟨_, _, _, isDefault, rfl, _⟩ <;> rw [isDefault] <;> rfl

private theorem parameterShape_describes {f : Function} {reference : String} {hints : List (String × Value)}
    {p : FunctionParameter} {shape : ParameterShape} (made : parameterShape f reference hints p = .ok shape) :
    Describes p shape := by
  rw [parameterShape] at made
  obtain ⟨default, found, made⟩ := bind_eq_ok_iff.1 made
  dsimp only at made
  have has := defaultText_isSome found
  split at made
  · obtain ⟨_, _, made⟩ := bind_eq_ok_iff.1 made
    cases made
    exact ⟨rfl, rfl, has⟩
  · cases made
    exact ⟨rfl, rfl, has⟩

/-- What the shape of a method tells of it. -/
theorem methodShape_ok {w : World} {subject : ClassName} {subjectName : String} {found : FoundMethod}
    {shape : MethodShape} (described : methodShape w subject subjectName found = .ok shape) :
    shape.name = found.name ∧ shape.isStatic = (found.binding == .static || found.binding == .onClass) ∧
      shape.isAsync = found.function.looksAsync ∧ shape.isGenerator = found.function.looksGenerator ∧
      List.Forall₂ Describes (callerParameters found) shape.parameters := by
  rw [methodShape, mapError_eq_ok_iff, bareMethodShape] at described
  obtain ⟨hints, _, described⟩ := bind_eq_ok_iff.1 described
  obtain ⟨returns, _, described⟩ := bind_eq_ok_iff.1 described
  obtain ⟨owner, _, described⟩ := bind_eq_ok_iff.1 described
  obtain ⟨parameters, mapped, described⟩ := bind_eq_ok_iff.1 described
  cases described
  exact ⟨rfl, rfl, rfl, rfl, (forall₂_of_mapM mapped).imp fun _ _ => parameterShape_describes⟩

/-- The parameter of an override is named for the one of the method that it stands for. -/
structure StandsFor (p : FunctionParameter) (q : Wrapper.Parameter) : Prop where
  kind : q.kind = kindOf p.mode
  name : q.kind = .keywordOnly → q.name = p.name
  default : q.default.isSome = p.default.isSome

theorem standsFor_of_describes {keywords : List String} {p : FunctionParameter} {shape : ParameterShape}
    {q : Wrapper.Parameter} (describes : Describes p shape) (names : MethodShape.Names keywords shape q) :
    StandsFor p q where
  kind := names.kind.trans describes.kind
  name := by
    intro keywordOnly
    have given := names.name
    rw [if_pos keywordOnly, describes.keyword, if_pos (names.kind ▸ keywordOnly)] at given
    exact (Option.some.inj given).symm
  default := by rw [names.default, describes.default]

private theorem standsFor_of_forall₂ {keywords : List String} : ∀ {ps : List FunctionParameter}
    {shapes : List ParameterShape} {qs : List Wrapper.Parameter}, List.Forall₂ Describes ps shapes →
      List.Forall₂ (MethodShape.Names keywords) shapes qs → List.Forall₂ StandsFor ps qs
  | _, _, _, .nil, .nil => .nil
  | _, _, _, .cons first behind, .cons names others =>
    .cons (standsFor_of_describes first names) (standsFor_of_forall₂ behind others)

private theorem rank_injective {kind other : ParameterKind} (same : kind.rank = other.rank) : kind = other := by
  cases kind <;> cases other <;> first | rfl | cases same

/-- If the parameters of an override are in order, so are those that they stand for. -/
private theorem placesFirst_of_inOrder {ps : List FunctionParameter} {qs : List Wrapper.Parameter}
    {last : Option ParameterKind} {defaulted : Bool} (stand : List.Forall₂ StandsFor ps qs)
    (inOrder : InOrder last defaulted qs) :
    PlacesFirst ps ∧ ∀ before ∈ last, ∀ p ∈ ps,
      before.rank ≤ (kindOf p.mode).rank ∧ (before.isVariadic = true → before.rank < (kindOf p.mode).rank) := by
  induction stand generalizing last defaulted with
  | nil => exact ⟨trivial, fun _ _ _ among => absurd among List.not_mem_nil⟩
  | @cons p q ps qs first behind further =>
    obtain ⟨follows, _, _, rest⟩ := inOrder
    obtain ⟨order, later⟩ := further rest
    have later := later q.kind rfl
    rw [first.kind] at later follows
    refine ⟨⟨fun mode other among => ?_, fun mode => ?_, order⟩, fun before isLast other among => ?_⟩
    · obtain ⟨_, further⟩ := later other among
      rw [mode] at further
      have further := further rfl
      cases mode : other.mode <;> rw [mode] at further <;> simp [kindOf, ParameterKind.rank] at further ⊢
    · cases ps with
      | nil => rfl
      | cons other others =>
        obtain ⟨_, further⟩ := later other List.mem_cons_self
        rw [mode] at further
        have further := further rfl
        cases mode : other.mode <;> rw [mode] at further <;> simp [kindOf, ParameterKind.rank] at further
    · obtain ⟨near, differs⟩ := follows before isLast
      have strict : before.isVariadic = true → before.rank < (kindOf p.mode).rank := by
        intro variadic
        refine Nat.lt_of_le_of_ne near fun same => differs ?_
        have equal := rank_injective same
        exact ⟨equal ▸ variadic, equal.symm⟩
      rcases List.mem_cons.1 among with rfl | among
      · exact ⟨near, strict⟩
      · have further := (later other among).1
        exact ⟨Nat.le_trans near further, fun variadic => Nat.lt_of_lt_of_le (strict variadic) further⟩

private theorem placesFirst_of_withoutReceiver : ∀ {ps : List FunctionParameter},
    PlacesFirst (withoutReceiver ps) → PlacesFirst ps
  | [], _ => trivial
  | p :: ps, order => by
    rw [withoutReceiver] at order
    split at order
    · rename_i positional
      refine ⟨fun mode => ?_, fun mode => ?_, order⟩ <;> rw [mode] at positional <;> cases positional
    · exact order

/-! ## Calls of overrides -/

/-- Values that stand for the same default are related. -/
def DefaultsAre (same : Value → Value → Prop) : List FunctionParameter → List FunctionParameter → Prop :=
  List.Forall₂ fun p q => ∀ own ∈ p.default, ∀ other ∈ q.default, same own other

/-- The parameter of the function is the one that the override declares, in a class of the name. -/
structure Holds (owner : String) (q : Wrapper.Parameter) (own : FunctionParameter) : Prop where
  name : own.name = nameInside owner q.name
  mode : own.mode = q.kind.mode
  default : own.default.isSome = q.default.isSome

section

variable {same : Value → Value → Prop} {o : Override} {f : Frame} {owner : String}

private theorem holds_zip : ∀ {qs : List Wrapper.Parameter} {defaults : List (Option Value)},
    (∀ q ∈ qs, Text.normalized q.name = q.name) → (∀ q ∈ qs, q.value.isSome = q.default.isSome) →
      List.Forall₂ (fun p default => default.isSome = p.default.isSome) (qs.map Parameter.tree) defaults →
      List.Forall₂ (Holds f.owner) qs (((qs.map Parameter.tree).zip defaults).map fun (p, default) =>
        Engine.parameterOf f p default)
  | [], _, _, _, _ => .nil
  | q :: qs, default :: defaults, normal, values, .cons given others => by
    have further := holds_zip (fun q among => normal q (List.mem_cons_of_mem _ among))
      (fun q among => values q (List.mem_cons_of_mem _ among)) others
    refine .cons ⟨?_, rfl, ?_⟩ further
    · change nameInside f.owner (Text.normalized q.name) = _
      rw [normal q List.mem_cons_self]
    · exact given.trans (values q List.mem_cons_self)

private theorem argumentName_inside (index underscores : Nat) :
    nameInside owner (argumentName index underscores) = argumentName index underscores :=
  nameInside_plain (argumentName_chars index underscores) (by decide)

/-- The parameters of an override's function are the object and those that it declares. -/
theorem ownParameters_holds {defaults : List (Option Value)} (chosen : o.ChoosesNames)
    (values : ∀ q ∈ o.parameters, q.value.isSome = q.default.isSome)
    (evaluated : List.Forall₂ (fun p default => default.isSome = p.default.isSome)
      (.mk "self" .positional none none :: o.parameters.map Parameter.tree) defaults) :
    ∃ first rest, o.ownParameters f defaults = first :: rest ∧ first.mode = .positional ∧ first.name = "self" ∧
      List.Forall₂ (Holds f.owner) o.parameters rest := by
  cases evaluated with
  | cons given others =>
    have self : nameInside f.owner "self" = "self" := nameInside_plain (c := 's') rfl (by decide)
    exact ⟨_, _, rfl, rfl, self, holds_zip chosen.normal values others⟩

private theorem mirrors_of_holds : ∀ {ps own : List FunctionParameter} {qs : List Wrapper.Parameter},
    List.Forall₂ StandsFor ps qs → List.Forall₂ (Holds owner) qs own → DefaultsAre same ps own →
      (∀ q ∈ qs, q.kind = .keywordOnly → nameInside owner q.name = q.name) →
      List.Forall₂ (Mirrors same) ps own
  | _, _, _, .nil, .nil, _, _ => .nil
  | p :: ps, r :: own, q :: qs, .cons stands behind, .cons holds others, .cons related further, unchanged => by
    refine .cons ⟨by rw [holds.mode, stands.kind], fun mode => ?_, ?_⟩ (mirrors_of_holds behind others further
      fun q among => unchanged q (List.mem_cons_of_mem _ among))
    · have keywordOnly : q.kind = .keywordOnly := by rw [stands.kind, mode]; rfl
      rw [holds.name, unchanged q List.mem_cons_self keywordOnly, stands.name keywordOnly]
    · have has := holds.default.trans stands.default
      cases own : p.default <;> cases other : r.default <;> rw [own, other] at has
      · exact .none
      · cases has
      · cases has
      · exact .some (related _ own _ other)

/-- An override passes each of its parameters on by its mode. -/
private theorem forwards_of_holds {qs : List Wrapper.Parameter} {own : List FunctionParameter}
    (all : List.Forall₂ (Holds owner) qs own) (normal : ∀ q ∈ qs, Text.normalized q.name = q.name)
    (unchanged : ∀ q ∈ qs, q.kind = .keywordOnly → nameInside owner q.name = q.name) :
    qs.map (Parameter.forward owner) = own.map FunctionParameter.forward := by
  induction all with
  | nil => rfl
  | @cons q p qs own holds others further =>
    have behind := further (fun q among => normal q (List.mem_cons_of_mem _ among))
      (fun q among => unchanged q (List.mem_cons_of_mem _ among))
    rw [List.map_cons, List.map_cons, behind, Parameter.forward, FunctionParameter.forward, holds.mode, holds.name,
      normal q List.mem_cons_self]
    cases kind : q.kind with
    | keywordOnly => rw [unchanged q List.mem_cons_self kind]; rfl
    | positional => rfl
    | extraPositional => rfl
    | extraKeyword => rfl

end

/-- The function takes a call on a wrapper as a method with the parameters takes it on an object: it refuses the
    call before anything else is done, or passes on a call that gives the method the same arguments. Arguments
    that are left out are related defaults. -/
structure TakesAs (same : Value → Value → Prop) (parameters : List FunctionParameter) (f : Function)
    (forwards : List Forward) (c : Call) (object wrapper : Value) : Prop where
  refused : (Engine.withReceiver object c).bind? parameters = none → ∀ (e : Engine) (store : Store),
    (e.run f (Engine.withReceiver wrapper c)).start store = (.error .mismatch, store)
  bound : ∀ own, (Engine.withReceiver object c).bind? parameters = some own →
    ∃ received passed again, (Engine.withReceiver wrapper c).bind? f.parameters = some received ∧
      received.lookup "self" = some (.one wrapper) ∧ Forward.call? received forwards = some passed ∧
      (Engine.withReceiver object passed).bind? parameters = some again ∧
      List.Forall₂ (fun a b => a.1 = b.1 ∧ Alike same a.2 b.2) own again

/-- The function takes every call whose keywords are those of keyword-only parameters as a method with the
    parameters takes it. -/
def TakesKeywordCalls (parameters : List FunctionParameter) (f : Function) (forwards : List Forward) : Prop :=
  ∀ same : Value → Value → Prop, DefaultsAre same (withoutReceiver parameters) (f.parameters.drop 1) →
  ∀ c : Call, (∀ keyword ∈ c.keywords.map (·.1), ∃ p ∈ parameters, p.mode = .keywordOnly ∧ p.name = keyword) →
  ∀ object wrapper, TakesAs same parameters f forwards c object wrapper

/-- The function takes every call in which places are given by place as a method with the parameters takes it,
    with further keywords too, unless one of those is a name that overrides choose for their parameters. -/
def TakesExtraKeywords (parameters : List FunctionParameter) (f : Function) (forwards : List Forward) : Prop :=
  ∀ same : Value → Value → Prop, DefaultsAre same (withoutReceiver parameters) (f.parameters.drop 1) →
  ∀ c : Call, c.ByPlace parameters →
    (∀ keyword ∈ c.keywords.map (·.1), (∃ p ∈ parameters, p.mode = .keywordOnly ∧ p.name = keyword) ∨
      (keyword ≠ "self" ∧ ∀ index underscores, keyword ≠ argumentName index underscores)) →
  ∀ object wrapper, TakesAs same parameters f forwards c object wrapper

/-- A keyword that is the name of a keyword-only parameter is not that of another one. -/
private theorem byPlace_of_keywordOnly {parameters : List FunctionParameter} (distinct : Distinct parameters)
    {c : Call} (only : ∀ keyword ∈ c.keywords.map (·.1),
      ∃ p ∈ parameters, p.mode = .keywordOnly ∧ p.name = keyword) : c.ByPlace parameters := by
  intro p among mode
  rw [List.lookup_eq_none_iff]
  intro entry given
  rw [bne_iff_ne]
  intro named
  obtain ⟨q, inside, keywordOnly, isName⟩ := only entry.1 (List.mem_map_of_mem given)
  rw [← eq_of_name distinct among inside (named.trans isName.symm), mode] at keywordOnly
  cases keywordOnly

private theorem mem_withoutReceiver {parameters : List FunctionParameter} {p : FunctionParameter}
    (among : p ∈ parameters) (mode : p.mode = .keywordOnly) : p ∈ withoutReceiver parameters := by
  cases parameters with
  | nil => exact among
  | cons first rest =>
    rw [withoutReceiver]
    split
    · rename_i positional
      rcases List.mem_cons.1 among with rfl | among
      · rw [mode] at positional
        cases positional
      · exact among
    · exact among

section

variable {w : World} {subject : ClassName} {subjectName : String} {found : FoundMethod} {shape : MethodShape}

/-- A method that can be overridden is called on an object. -/
private theorem callerParameters_eligible (described : methodShape w subject subjectName found = .ok shape)
    {s : SubjectShape} (eligible : shape ∈ s.eligibleMethods) :
    callerParameters found = withoutReceiver found.function.parameters := by
  obtain ⟨_, static, _⟩ := methodShape_ok described
  have notStatic := ((MethodShape.isEligible_iff shape).1 (SubjectShape.mem_eligibleMethods.1 eligible).2).2.2.2.1
  rw [static, Bool.or_eq_false_iff] at notStatic
  rw [callerParameters, if_neg (by simpa using notStatic.1)]

variable (described : methodShape w subject subjectName found = .ok shape)
  (distinct : Distinct found.function.parameters) (takes : TakesReceiver found.function.parameters)
  {s : SubjectShape} (complete : s.IsComplete) {source : WrapperSource} (emitted : s.emit = .ok source)
  {module : Module} (loaded : source.statements = .ok module) (eligible : shape ∈ s.eligibleMethods)
  (stored : shape.StoresNames)
  (unchanged : ∀ keyword ∈ shape.keywords, nameInside (Text.normalized source.className) keyword = keyword)
include described distinct takes complete emitted loaded eligible stored unchanged

/-- The override takes every call by places in which no keyword is the name of a parameter of either. -/
private theorem override_takesAs : Overridden (Text.normalized source.className) shape module fun f forwards =>
    Distinct f.parameters ∧
    (∀ p ∈ withoutReceiver found.function.parameters, p.mode = .keywordOnly →
      ∃ q ∈ f.parameters, q.mode = .keywordOnly ∧ q.name = p.name) ∧
    (∀ q ∈ f.parameters, q.mode = .positional →
      q.name = "self" ∨ ∃ index underscores, q.name = argumentName index underscores) ∧
    ∀ same : Value → Value → Prop, DefaultsAre same (withoutReceiver found.function.parameters) (f.parameters.drop 1) →
    ∀ c : Call, c.ByPlace found.function.parameters → c.ByPlace f.parameters →
    ∀ object wrapper, TakesAs same found.function.parameters f forwards c object wrapper := by
  obtain ⟨o, overridden, chosen, ⟨bases, members, declares, holds⟩, different⟩ :=
    override_emitted complete emitted loaded eligible stored
  obtain ⟨_, wrapped, _⟩ := SubjectShape.emit_ok emitted
  obtain ⟨_, simple, _⟩ := SubjectShape.wrapper_ok wrapped
  obtain ⟨readable, inOrder, _⟩ := SubjectShape.override_readable complete simple eligible overridden
  obtain ⟨_, parameters, named, _, same⟩ := MethodShape.override_ok overridden
  have name : o.name = shape.name := by rw [same]
  have isAsync : o.isAsync = shape.isAsync := by rw [same]
  have named : List.Forall₂ (MethodShape.Names shape.keywords) shape.parameters o.parameters := by
    rw [same]
    exact named
  obtain ⟨_, _, _, _, describes⟩ := methodShape_ok described
  rw [callerParameters_eligible described eligible] at describes
  have stands : List.Forall₂ StandsFor (withoutReceiver found.function.parameters) o.parameters :=
    standsFor_of_forall₂ describes named
  have order := placesFirst_of_withoutReceiver (placesFirst_of_inOrder stands inOrder).1
  have plain : ∀ q ∈ o.parameters, q.kind = .keywordOnly →
      nameInside (Text.normalized source.className) q.name = q.name := by
    intro q among keywordOnly
    obtain ⟨p, inside, names⟩ := mem_right_of_forall₂ named among
    have given := names.name
    rw [if_pos keywordOnly] at given
    exact unchanged q.name (List.mem_filterMap.2 ⟨p, inside, by rw [if_pos (names.kind ▸ keywordOnly), given]⟩)
  rw [Override.tree, isAsync, name] at holds
  refine ⟨_, _, _, _, _, _, declares, holds, fun e frame defaults store store' inClass evaluated => ?_⟩
  have evaluated := Engine.evaluateDefaults_isSome evaluated
  have given : defaults.length = o.parameters.length + 1 := by simpa using evaluated.length_eq.symm
  have different := different frame defaults inClass given
  have makes := functionOfStatement_override inClass chosen given different
  rw [isAsync, name] at makes
  obtain ⟨first, rest, own, mode, self, holds⟩ :=
    ownParameters_holds chosen (fun q among => (readable.parameters q among).value_isSome) evaluated
  rw [inClass.owner] at holds
  have forwards := forwards_of_holds holds chosen.normal plain
  have forwarded : (o.delegation frame.owner).forwards = rest.map FunctionParameter.forward := by
    rw [Override.delegation, inClass.owner, forwards]
  have ownParameters : (o.function frame defaults).parameters = first :: rest := own
  refine ⟨o.function frame defaults, rest.map FunctionParameter.forward, makes, ?_, ?_, ?_, ?_, ?_⟩
  · rw [← forwarded, Override.function, Override.delegation, name, isAsync]
    rfl
  · exact different
  · intro p among keywordOnly
    obtain ⟨q, inside, stands⟩ := mem_left_of_forall₂ stands among
    obtain ⟨q', inside', holds⟩ := mem_left_of_forall₂ holds inside
    have kind : q.kind = .keywordOnly := by rw [stands.kind, keywordOnly]; rfl
    refine ⟨q', by rw [ownParameters]; exact List.mem_cons_of_mem _ inside', by rw [holds.mode, kind]; rfl, ?_⟩
    rw [holds.name, plain q inside kind, stands.name kind]
  · intro q among positional
    rw [ownParameters] at among
    rcases List.mem_cons.1 among with rfl | among
    · exact .inl self
    · obtain ⟨q', inside, holds⟩ := mem_right_of_forall₂ holds among
      obtain ⟨_, _, names⟩ := mem_right_of_forall₂ named inside
      have given := names.name
      rw [holds.mode] at positional
      rw [if_neg (by intro kind; rw [kind] at positional; cases positional)] at given
      obtain ⟨index, given⟩ := given
      obtain ⟨underscores, given'⟩ := firstFree_mem (argumentName index) shape.keywords
      refine .inr ⟨index, underscores, ?_⟩
      rw [holds.name, given, given']
      exact argumentName_inside index underscores
  · intro same related c places otherPlaces object wrapper
    rw [ownParameters] at related otherPlaces
    rw [own] at different
    have mirrors := mirrors_of_holds stands holds related plain
    obtain ⟨refuses, binds⟩ := passedOn_binds takes distinct order mode mirrors places otherPlaces object wrapper
    constructor
    · intro refused e store
      rw [Engine.run, ownParameters, refuses refused]
      rfl
    · intro own' bound
      obtain ⟨received, again, other, passed, alike⟩ := binds own' bound
      have receives := Call.receive_receives (Call.bind?_receive other)
      have found : ∀ r ∈ (first.name, .one wrapper) :: received,
          List.lookup r.1 ((first.name, .one wrapper) :: received) = some r.2 := by
        refine fun r => lookup_entry ?_
        rw [received_names receives]
        exact different
      refine ⟨_, passedOn rest received, again, by rw [ownParameters]; exact other, by simp [self], ?_, passed, alike⟩
      cases receives with
      | cons _ behind => exact call?_passedOn behind fun r among => found r (List.mem_cons_of_mem _ among)

end

/-! ### An example -/

/-- The method of the example, with the values of its declared types and of its default. -/
def sampleFound : FoundMethod where
  owner := ⟨"shop", "PriceSubject"⟩
  name := "is_near"
  binding := .onObject
  isFinal := false
  function :=
    { module := "shop", name := "is_near", returns := some .none, form := .coroutine, body := .declared
      parameters :=
        [{ name := "self" }, { name := "value", hint := some (.class (.builtin "int") false) },
         { name := "within", mode := .keywordOnly, default := some (.int 0 3) }] }

private theorem shownText_three : Hint.shownText (.int 0 3) = .ok "3" := by
  have short : Value.isTooLong 3 = false := by decide +kernel
  have shown : Value.display (.int 0 3) = .ok "3" := by
    rw [Value.display, Value.intText, short]
    rfl
  rw [Hint.shownText, shown]
  rfl

theorem sampleFound_described :
    methodShape .empty ⟨"shop", "PriceSubject"⟩ "shop.PriceSubject" sampleFound = .ok sampleMethod := by
  let hints : List (String × Value) :=
    [("value", .class (.builtin "int") false), ("return", .class (.builtin "NoneType") false)]
  let value : FunctionParameter := { name := "value", hint := some (.class (.builtin "int") false) }
  let within : FunctionParameter := { name := "within", mode := .keywordOnly, default := some (.int 0 3) }
  have given : World.empty.hints sampleFound.function = .ok hints := rfl
  have callers : callerParameters sampleFound = [value, within] := rfl
  have literal : isLiteral "3" (.int 0 3) = .ok true := by with_unfolding_all rfl
  have text : defaultText sampleFound.function "PriceSubject.is_near" within = .ok (some "3") := by
    rw [defaultText]
    exact bind_eq_ok_iff.2 ⟨_, shownText_three, bind_eq_ok_iff.2 ⟨_, literal, rfl⟩⟩
  have first : parameterShape sampleFound.function "PriceSubject.is_near" hints value =
      .ok { typeText := some "int", annotations := [], kind := .positional, keyword := none, default := none } := rfl
  have second : parameterShape sampleFound.function "PriceSubject.is_near" hints within =
      .ok { typeText := none, annotations := [], kind := .keywordOnly, keyword := some "within"
            default := some "3" } := by
    rw [parameterShape, text]
    rfl
  have shapes : (callerParameters sampleFound).mapM
      (parameterShape sampleFound.function "PriceSubject.is_near" hints) = .ok sampleMethod.parameters := by
    rw [callers, List.mapM_cons]
    refine bind_eq_ok_iff.2 ⟨_, first, bind_eq_ok_iff.2 ⟨_, ?_, rfl⟩⟩
    rw [List.mapM_cons]
    exact bind_eq_ok_iff.2 ⟨_, second, rfl⟩
  rw [methodShape, mapError_eq_ok_iff, bareMethodShape, given]
  exact bind_eq_ok_iff.2 ⟨_, rfl, bind_eq_ok_iff.2 ⟨some "None", rfl, bind_eq_ok_iff.2 ⟨"shop.PriceSubject", rfl,
    bind_eq_ok_iff.2 ⟨_, shapes, rfl⟩⟩⟩⟩

theorem sampleFound_distinct : Distinct sampleFound.function.parameters := by
  unfold Distinct
  decide

theorem sampleFound_takesReceiver : TakesReceiver sampleFound.function.parameters := Or.inl rfl

theorem sampleMethod_unchanged : ∀ keyword ∈ sampleMethod.keywords,
    nameInside (Text.normalized sampleSource.className) keyword = keyword := by
  intro keyword among
  have given : sampleMethod.keywords = ["within"] := by decide +kernel
  rw [given, List.mem_singleton] at among
  rw [among]
  exact nameInside_plain (c := 'w') rfl (by decide)

end EachSubject
