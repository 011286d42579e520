import EachSubject.Proofs.Wrapper.Emission

/-!
# Shapes that are refused

A shape is refused before anything of it is written just if its class cannot be named, or one of the methods that are
overridden cannot be declared. The names that are made up for parameters are never in the way: they differ from each
other, from all keywords and from the name of the receiver. Methods that are not overridden do not matter.
-/

namespace EachSubject

/-! ## What is refused -/

/-- One kind of parameters may stand in front of another: kinds do not go back, and variadic ones do not repeat. -/
def ParameterKind.MayPrecede (before kind : ParameterKind) : Prop :=
  before.rank ≤ kind.rank ∧ ¬(kind.isVariadic = true ∧ kind = before)

/-- Positional parameters, then at most one that collects the others, then keyword-only ones, then at most one that
    collects the other keywords. -/
def IsArranged (kinds : List ParameterKind) : Prop :=
  ∃ places others keywords extras, others ≤ 1 ∧ extras ≤ 1 ∧
    kinds = List.replicate places .positional ++ List.replicate others .extraPositional ++
      List.replicate keywords .keywordOnly ++ List.replicate extras .extraKeyword

/-- Why a method cannot be declared. -/
inductive MethodShape.IsUnfit (m : MethodShape) : Prop where
  | name (noName : Text.isName m.name = false)
  | annotations {p : ParameterShape} (among : p ∈ m.parameters) (annotated : p.annotations ≠ [])
      (untyped : p.typeText = none)
  | keyword {p : ParameterShape} (among : p ∈ m.parameters) (keywordOnly : p.kind = .keywordOnly)
      (noName : ∀ keyword ∈ p.keyword, Text.isName keyword = false)
  | repeated {p q : ParameterShape} {keyword : String} (inOrder : [p, q].Sublist m.parameters)
      (first : p.kind = .keywordOnly) (second : q.kind = .keywordOnly) (one : p.keyword = some keyword)
      (other : q.keyword = some keyword)
  | receiver {p : ParameterShape} (among : p ∈ m.parameters) (keywordOnly : p.kind = .keywordOnly)
      (bound : p.keyword = some "self")
  | default {p : ParameterShape} (among : p ∈ m.parameters) (variadic : p.kind.isVariadic = true)
      (given : p.default ≠ none)
  | arrangement (mixed : ¬IsArranged (m.parameters.map (·.kind)))
  | missing {p q : ParameterShape} (inOrder : [p, q].Sublist m.parameters) (first : p.kind = .positional)
      (second : q.kind = .positional) (given : p.default ≠ none) (notGiven : q.default = none)

/-- Why a shape is refused before anything of it is written. -/
inductive SubjectShape.IsUnfit (s : SubjectShape) : Prop where
  | package {part : String} (among : part ∈ Text.pathPieces s.package) (noName : Text.isName part = false)
  | simpleName (noName : Text.isName s.simpleName = false)
  | method {m : MethodShape} (eligible : m ∈ s.eligibleMethods) (unfit : m.IsUnfit)

/-! ## The names of parameters -/

namespace MethodShape

/-- The names that are chosen for parameters, the first of which has the index. -/
def chosenNames (keywords : List String) : Nat → List ParameterShape → List String
  | _, [] => []
  | index, p :: rest => chosenName keywords index p :: chosenNames keywords (index + 1) rest

/-- The keywords of the keyword-only parameters in a list. -/
def keywordsOf (parameters : List ParameterShape) : List String :=
  parameters.filterMap fun p => if p.kind = .keywordOnly then p.keyword else none

variable {keywords : List String} {index : Nat}

theorem parametersFrom_ok_iff : ∀ {shapes : List ParameterShape} {index : Nat},
    (∃ parameters, parametersFrom keywords index shapes = .ok parameters) ↔ ∀ p ∈ shapes, IsDeclarable p
  | [], _ => by simp [parametersFrom, pure, Except.pure]
  | p :: shapes, index => by
    rw [parametersFrom, List.forall_mem_cons]
    constructor
    · rintro ⟨_, made⟩
      obtain ⟨q, first, made⟩ := bind_eq_ok_iff.1 made
      obtain ⟨parameters, others, _⟩ := bind_eq_ok_iff.1 made
      exact ⟨(parameter_eq_ok_iff.1 first).1, parametersFrom_ok_iff.1 ⟨parameters, others⟩⟩
    · rintro ⟨declarable, others⟩
      obtain ⟨parameters, others⟩ := parametersFrom_ok_iff.2 others
      exact ⟨_, bind_eq_ok_iff.2 ⟨_, parameter_eq_ok_iff.2 ⟨declarable, rfl⟩, bind_eq_ok_iff.2 ⟨_, others, rfl⟩⟩⟩

/-- The parameters have the names that are chosen for them. -/
theorem parametersFrom_chosen : ∀ {shapes : List ParameterShape} {index : Nat} {parameters : List Wrapper.Parameter},
    parametersFrom keywords index shapes = .ok parameters →
      parameters.map (·.name) = chosenNames keywords index shapes
  | [], _, _, made => by
    cases made
    rfl
  | p :: shapes, index, _, made => by
    rw [parametersFrom] at made
    obtain ⟨q, first, made⟩ := bind_eq_ok_iff.1 made
    obtain ⟨parameters, others, made⟩ := bind_eq_ok_iff.1 made
    cases made
    obtain ⟨_, rfl⟩ := parameter_eq_ok_iff.1 first
    rw [List.map_cons, parametersFrom_chosen others]
    rfl

/-! ## Clashes -/

/-- A parameter is called by its keyword, or else a name is made up for it. -/
private theorem chosen_cases (keywords : List String) (index : Nat) {p : ParameterShape} (declarable : IsDeclarable p)
    (rest : List ParameterShape) :
    keywordsOf (p :: rest) = chosenName keywords index p :: keywordsOf rest ∨
      keywordsOf (p :: rest) = keywordsOf rest ∧
        ∃ underscores, chosenName keywords index p = argumentName index underscores ∧
          chosenName keywords index p ∉ keywords := by
  by_cases keywordOnly : p.kind = .keywordOnly
  · obtain ⟨given, _⟩ := chosenName_keyword keywords index declarable keywordOnly
    exact .inl (List.filterMap_cons_some (by rw [if_pos keywordOnly, given]))
  · obtain ⟨underscores, made⟩ := firstFree_mem (argumentName index) keywords
    rw [chosenName_other keywords index keywordOnly]
    refine .inr ⟨List.filterMap_cons_none (by rw [if_neg keywordOnly]), underscores, made, ?_⟩
    exact firstFree_free (argumentName_injective index) keywords

/-- Keywords are chosen as often as they are given. -/
theorem count_chosen {name : String} (isKeyword : name ∈ keywords) :
    ∀ {shapes : List ParameterShape} {index : Nat}, (∀ p ∈ shapes, IsDeclarable p) →
      (chosenNames keywords index shapes).count name = (keywordsOf shapes).count name
  | [], _, _ => rfl
  | p :: shapes, index, declarable => by
    obtain ⟨first, others⟩ := List.forall_mem_cons.1 declarable
    rw [chosenNames]
    rcases chosen_cases keywords index first shapes with named | ⟨cut, _, _, free⟩
    · rw [named, List.count_cons, List.count_cons, count_chosen isKeyword others]
    · have differs : chosenName keywords index p ≠ name := fun same => free (same ▸ isKeyword)
      rw [cut, List.count_cons_of_ne differs, count_chosen isKeyword others]

/-- A chosen name that is no keyword is made up for one of the indices. -/
theorem chosen_made {name : String} (other : name ∉ keywords) :
    ∀ {shapes : List ParameterShape} {index : Nat}, keywordsOf shapes ⊆ keywords → (∀ p ∈ shapes, IsDeclarable p) →
      name ∈ chosenNames keywords index shapes →
        ∃ place underscores, index ≤ place ∧ name = argumentName place underscores
  | [], _, _, _, among => absurd among List.not_mem_nil
  | p :: shapes, index, inside, declarable, among => by
    obtain ⟨first, others⟩ := List.forall_mem_cons.1 declarable
    have further (inside : keywordsOf shapes ⊆ keywords) (among : name ∈ chosenNames keywords (index + 1) shapes) :
        ∃ place underscores, index ≤ place ∧ name = argumentName place underscores := by
      obtain ⟨place, underscores, behind, made⟩ := chosen_made other inside others among
      exact ⟨place, underscores, Nat.le_of_succ_le behind, made⟩
    rcases chosen_cases keywords index first shapes with named | ⟨cut, underscores, made, _⟩
    · rw [named, List.cons_subset] at inside
      rcases List.mem_cons.1 among with rfl | among
      · exact absurd inside.1 other
      · exact further inside.2 among
    · rw [cut] at inside
      rcases List.mem_cons.1 among with rfl | among
      · exact ⟨index, underscores, Nat.le_refl index, made⟩
      · exact further inside among

/-- A name that is no keyword is chosen once at most. -/
theorem count_made {name : String} (other : name ∉ keywords) :
    ∀ {shapes : List ParameterShape} {index : Nat}, keywordsOf shapes ⊆ keywords → (∀ p ∈ shapes, IsDeclarable p) →
      (chosenNames keywords index shapes).count name ≤ 1
  | [], _, _, _ => Nat.zero_le 1
  | p :: shapes, index, inside, declarable => by
    obtain ⟨first, others⟩ := List.forall_mem_cons.1 declarable
    rw [chosenNames]
    rcases chosen_cases keywords index first shapes with named | ⟨cut, underscores, made, _⟩
    · rw [named, List.cons_subset] at inside
      have differs : chosenName keywords index p ≠ name := fun same => other (same ▸ inside.1)
      rw [List.count_cons_of_ne differs]
      exact count_made other inside.2 others
    · rw [cut] at inside
      by_cases same : chosenName keywords index p = name
      · -- Names made up further on are made up for higher indices.
        have nowhere : name ∉ chosenNames keywords (index + 1) shapes := by
          intro among
          obtain ⟨place, more, behind, made'⟩ := chosen_made other inside others among
          rw [same, made'] at made
          obtain ⟨rfl, _⟩ := argumentName_inj.1 made
          exact Nat.not_succ_le_self _ behind
        exact Nat.le_of_eq (by rw [same, List.count_cons_self, List.count_eq_zero.2 nowhere])
      · rw [List.count_cons_of_ne same]
        exact count_made other inside others

/-- The names of parameters clash just where a keyword is given twice, or is the name of the receiver. -/
theorem mem_clashes_chosen_iff {m : MethodShape} (declarable : ∀ p ∈ m.parameters, IsDeclarable p) {name : String} :
    name ∈ clashes (chosenNames m.keywords 0 m.parameters) ↔
      name ∈ m.keywords ∧ (1 < m.keywords.count name ∨ name = "self") := by
  have all : keywordsOf m.parameters ⊆ m.keywords := List.Subset.refl _
  rw [mem_clashes_iff]
  by_cases isKeyword : name ∈ m.keywords
  · have counts : (chosenNames m.keywords 0 m.parameters).count name = m.keywords.count name :=
      count_chosen isKeyword declarable
    have chosen : name ∈ chosenNames m.keywords 0 m.parameters := by
      rw [← List.count_pos_iff, counts]
      exact List.count_pos_iff.2 isKeyword
    simp [isKeyword, chosen, counts]
  · simp only [isKeyword, false_and, iff_false, not_and, not_or]
    intro chosen
    refine ⟨Nat.not_lt.2 (count_made isKeyword all declarable), ?_⟩
    rintro rfl
    obtain ⟨place, underscores, _, made⟩ := chosen_made isKeyword all declarable chosen
    exact argumentName_ne_self place underscores made.symm

/-! ## The order of parameters -/

instance (before kind : ParameterKind) : Decidable (before.MayPrecede kind) :=
  inferInstanceAs (Decidable (_ ∧ _))

theorem mayPrecede_trans {a b c : ParameterKind} (first : a.MayPrecede b) (second : b.MayPrecede c) :
    a.MayPrecede c := by
  revert first second
  cases a <;> cases b <;> cases c <;> decide

/-- A positional parameter behind one with a default has one itself. -/
def KeepsDefault (p q : ParameterShape) : Prop :=
  p.kind = .positional → q.kind = .positional → p.default ≠ none → q.default ≠ none

private theorem inPlace_iff {last : Option ParameterKind} {kind : ParameterKind} :
    ¬(match last with
      | some before => decide (kind.rank < before.rank) || (kind.isVariadic && decide (kind = before))
      | none => false) = true ↔ ∀ before ∈ last, before.MayPrecede kind := by
  cases last with
  | none => simp
  | some before => simp [ParameterKind.MayPrecede]

theorem checkOrder_eq_ok_iff : ∀ {shapes : List ParameterShape} {index : Nat} {last : Option ParameterKind}
    {defaulted : Bool}, checkOrder index last defaulted shapes = .ok () ↔
      (∀ before ∈ last, ∀ p ∈ shapes, before.MayPrecede p.kind) ∧
        (shapes.map (·.kind)).Pairwise ParameterKind.MayPrecede ∧
        (defaulted = true → ∀ p ∈ shapes, p.kind = .positional → p.default ≠ none) ∧ shapes.Pairwise KeepsDefault
  | [], _, _, _ => by simp [checkOrder, pure, Except.pure]
  | p :: shapes, index, last, defaulted => by
    rw [checkOrder.eq_def]
    dsimp only
    rw [checked_eq_ok_iff, checked_eq_ok_iff, checkOrder_eq_ok_iff]
    refine (and_congr_left' inPlace_iff).trans ?_
    simp only [List.map_cons, List.pairwise_cons, List.forall_mem_cons, List.forall_mem_map, Option.mem_some_iff,
      forall_eq']
    constructor
    · rintro ⟨inPlace, hasDefault, follow, ordered, given, keep⟩
      refine ⟨fun before isLast => ⟨inPlace before isLast, fun q among => ?_⟩, ⟨follow, ordered⟩,
        fun isDefaulted => ⟨fun positional noDefault => ?_, ?_⟩, fun q among positional second hasDefault => ?_, keep⟩
      · exact mayPrecede_trans (inPlace before isLast) (follow q among)
      · simp [positional, noDefault, isDefaulted] at hasDefault
      · exact given (by simp [isDefaulted])
      · refine given ?_ q among second
        simp [positional, Option.isSome_iff_ne_none.2 hasDefault]
    · rintro ⟨inPlace, ⟨follow, ordered⟩, given, keepFirst, keep⟩
      refine ⟨fun before isLast => (inPlace before isLast).1, ?_, follow, ordered,
        fun either q among second => ?_, keep⟩
      · intro lacks
        simp only [Bool.and_eq_true, decide_eq_true_eq, Option.isNone_iff_eq_none] at lacks
        exact (given lacks.2).1 lacks.1.1 lacks.1.2
      · rw [Bool.or_eq_true, Bool.and_eq_true, decide_eq_true_eq, Option.isSome_iff_ne_none] at either
        rcases either with isDefaulted | ⟨positional, hasDefault⟩
        · exact (given isDefaulted).2 q among second
        · exact keepFirst q among positional second hasDefault

/-- Kinds of which each may precede all that stand behind it are arranged. -/
theorem isArranged_iff {kinds : List ParameterKind} : IsArranged kinds ↔ kinds.Pairwise ParameterKind.MayPrecede := by
  constructor
  · rintro ⟨places, others, keywords, extras, oneOther, oneExtra, rfl⟩
    simp only [List.pairwise_append, List.pairwise_replicate, List.mem_append, List.mem_replicate]
    refine ⟨⟨⟨.inr (by decide), .inl oneOther, ?_⟩, .inr (by decide), ?_⟩, .inl oneExtra, ?_⟩
    · rintro _ ⟨_, rfl⟩ _ ⟨_, rfl⟩
      decide
    · rintro _ (⟨_, rfl⟩ | ⟨_, rfl⟩) _ ⟨_, rfl⟩ <;> decide
    · rintro _ ((⟨_, rfl⟩ | ⟨_, rfl⟩) | ⟨_, rfl⟩) _ ⟨_, rfl⟩ <;> decide
  · intro ordered
    induction kinds with
    | nil => exact ⟨0, 0, 0, 0, Nat.zero_le 1, Nat.zero_le 1, rfl⟩
    | cons kind rest ih =>
      obtain ⟨first, ordered⟩ := List.pairwise_cons.1 ordered
      obtain ⟨places, others, keywords, extras, oneOther, oneExtra, rfl⟩ := ih ordered
      simp only [List.mem_append, List.mem_replicate] at first
      -- What may not stand behind the first kind is not there.
      have none {count : Nat} {other : ParameterKind} (hidden : ¬kind.MayPrecede other)
          (inside : count ≠ 0 → kind.MayPrecede other) : count = 0 := by
        by_contra some
        exact hidden (inside some)
      cases kind with
      | positional => exact ⟨places + 1, others, keywords, extras, oneOther, oneExtra, rfl⟩
      | extraPositional =>
        obtain rfl := none (by decide) fun some => first .positional (.inl (.inl (.inl ⟨some, rfl⟩)))
        obtain rfl := none (by decide) fun some => first .extraPositional (.inl (.inl (.inr ⟨some, rfl⟩)))
        exact ⟨0, 1, keywords, extras, Nat.le_refl 1, oneExtra, rfl⟩
      | keywordOnly =>
        obtain rfl := none (by decide) fun some => first .positional (.inl (.inl (.inl ⟨some, rfl⟩)))
        obtain rfl := none (by decide) fun some => first .extraPositional (.inl (.inl (.inr ⟨some, rfl⟩)))
        exact ⟨0, 0, keywords + 1, extras, Nat.zero_le 1, oneExtra, rfl⟩
      | extraKeyword =>
        obtain rfl := none (by decide) fun some => first .positional (.inl (.inl (.inl ⟨some, rfl⟩)))
        obtain rfl := none (by decide) fun some => first .extraPositional (.inl (.inl (.inr ⟨some, rfl⟩)))
        obtain rfl := none (by decide) fun some => first .keywordOnly (.inl (.inr ⟨some, rfl⟩))
        obtain rfl := none (by decide) fun some => first .extraKeyword (.inr ⟨some, rfl⟩)
        exact ⟨0, 0, 0, 1, Nat.zero_le 1, Nat.le_refl 1, rfl⟩

/-! ## Overrides -/

/-- Without a clash, no keyword is given twice, and none is the name of the receiver. -/
private theorem clashes_chosen_eq_nil_iff {m : MethodShape} (declarable : ∀ p ∈ m.parameters, IsDeclarable p) :
    clashes (chosenNames m.keywords 0 m.parameters) = [] ↔ m.keywords.Nodup ∧ "self" ∉ m.keywords := by
  rw [← clashes_eq_nil_iff, List.eq_nil_iff_forall_not_mem, List.eq_nil_iff_forall_not_mem]
  simp only [mem_clashes_chosen_iff declarable, mem_clashes_iff]

theorem override_ok_iff {m : MethodShape} {s : SubjectShape} : (∃ o, m.override s = .ok o) ↔
    Text.isName m.name = true ∧ (∀ p ∈ m.parameters, IsDeclarable p) ∧
      (m.parameters.map (·.kind)).Pairwise ParameterKind.MayPrecede ∧ m.parameters.Pairwise KeepsDefault ∧
      m.keywords.Nodup ∧ "self" ∉ m.keywords := by
  have ordered : checkOrder 0 none false m.parameters = .ok () ↔
      (m.parameters.map (·.kind)).Pairwise ParameterKind.MayPrecede ∧ m.parameters.Pairwise KeepsDefault := by
    rw [checkOrder_eq_ok_iff]
    simp
  constructor
  · rintro ⟨o, made⟩
    obtain ⟨isName, parameters, named, passed, clear, _⟩ := override_eq_ok_iff.1 made
    have declarable := parametersFrom_ok_iff.1 ⟨parameters, named⟩
    obtain ⟨kinds, defaults⟩ := ordered.1 passed
    rw [parametersFrom_chosen named] at clear
    exact ⟨isName, declarable, kinds, defaults, (clashes_chosen_eq_nil_iff declarable).1 clear⟩
  · rintro ⟨isName, declarable, kinds, defaults, keywords⟩
    obtain ⟨parameters, named⟩ := parametersFrom_ok_iff.2 declarable
    have clear := (clashes_chosen_eq_nil_iff declarable).2 keywords
    rw [← parametersFrom_chosen named] at clear
    exact ⟨_, override_eq_ok_iff.2 ⟨isName, parameters, named, ordered.2 ⟨kinds, defaults⟩, clear, rfl⟩⟩

private theorem keywords_nodup {m : MethodShape} (fits : ¬m.IsUnfit) : m.keywords.Nodup := by
  rw [List.Nodup, keywords, List.pairwise_filterMap, List.pairwise_iff_forall_sublist]
  intro p q inOrder keyword one other second same
  subst same
  split at one
  · split at second
    · exact fits (.repeated inOrder ‹_› ‹_› one second)
    · cases second
  · cases one

/-- A method that can be declared is one that has an override. -/
theorem not_isUnfit_iff {m : MethodShape} {s : SubjectShape} : ¬m.IsUnfit ↔ ∃ o, m.override s = .ok o := by
  rw [override_ok_iff]
  constructor
  · intro fits
    refine ⟨?_, fun p among => ⟨fun annotated untyped => fits (.annotations among annotated untyped),
      fun keywordOnly => ?_, fun variadic => ?_⟩, ?_, ?_, keywords_nodup fits, fun bound => ?_⟩
    · by_contra noName
      exact fits (.name (Bool.eq_false_iff.2 noName))
    · by_contra unnamed
      refine fits (.keyword among keywordOnly fun keyword given => Bool.eq_false_iff.2 fun isName => ?_)
      exact unnamed ⟨keyword, given, isName⟩
    · by_contra given
      exact fits (.default among variadic given)
    · refine isArranged_iff.1 ?_
      by_contra mixed
      exact fits (.arrangement mixed)
    · rw [List.pairwise_iff_forall_sublist]
      intro p q inOrder first second given notGiven
      exact fits (.missing inOrder first second given notGiven)
    · obtain ⟨p, among, isKeyword⟩ := List.mem_filterMap.1 bound
      split at isKeyword
      · exact fits (.receiver among ‹_› isKeyword)
      · cases isKeyword
  · rintro ⟨isName, declarable, kinds, defaults, once, free⟩ unfit
    have among_keywords {p : ParameterShape} {keyword : String} (among : p ∈ m.parameters)
        (keywordOnly : p.kind = .keywordOnly) (given : p.keyword = some keyword) : keyword ∈ m.keywords :=
      List.mem_filterMap.2 ⟨p, among, by rw [if_pos keywordOnly, given]⟩
    cases unfit with
    | name noName =>
      rw [noName] at isName
      cases isName
    | annotations among annotated untyped => exact (declarable _ among).typed annotated untyped
    | keyword among keywordOnly noName =>
      obtain ⟨keyword, given, isName⟩ := (declarable _ among).keyword keywordOnly
      rw [noName keyword given] at isName
      cases isName
    | repeated inOrder first second one other =>
      have twice := inOrder.filterMap fun p => if p.kind = .keywordOnly then p.keyword else none
      rw [List.filterMap_cons_some (by rw [if_pos first, one]), List.filterMap_cons_some (by rw [if_pos second, other])]
        at twice
      exact absurd rfl (List.pairwise_iff_forall_sublist.1 once twice)
    | receiver among keywordOnly bound => exact free (among_keywords among keywordOnly bound)
    | default among variadic given => exact given ((declarable _ among).default variadic)
    | arrangement mixed => exact mixed (isArranged_iff.2 kinds)
    | missing inOrder first second given notGiven =>
      exact List.pairwise_iff_forall_sublist.1 defaults inOrder first second given notGiven

/-! ## Causes -/

/-- Nothing is refused for its text before it is written. -/
private theorem bind_early {α β : Type} {first : Except EmissionCause α} {next : α → Except EmissionCause β}
    (one : first ≠ .error .doesNotParse) (other : ∀ middle, next middle ≠ .error .doesNotParse) :
    first >>= next ≠ .error .doesNotParse := by
  intro failed
  rcases bind_eq_error_iff.1 failed with failed | ⟨middle, _, failed⟩
  · exact one failed
  · exact other middle failed

private theorem checked_early {α : Type} {refused : Prop} [Decidable refused] {cause : EmissionCause}
    {rest : Except EmissionCause α} (other : cause ≠ .doesNotParse) (further : rest ≠ .error .doesNotParse) :
    (if refused then throw cause else rest) ≠ .error .doesNotParse := by
  by_cases isRefused : refused
  · rw [if_pos isRefused]
    intro same
    cases same
    exact other rfl
  · rwa [if_neg isRefused]

private theorem given_early {α : Type} {result : α} : (.ok result : Except EmissionCause α) ≠ .error .doesNotParse :=
  fun impossible => by cases impossible

private theorem parametersFrom_early {keywords : List String} : ∀ {shapes : List ParameterShape} {index : Nat},
    parametersFrom keywords index shapes ≠ .error .doesNotParse
  | [], _ => given_early
  | p :: shapes, index => by
    rw [parametersFrom]
    refine bind_early ?_ fun _ => bind_early parametersFrom_early fun _ => given_early
    rw [parameter]
    refine checked_early (by simp) (bind_early ?_ fun _ => checked_early (by simp) given_early)
    rw [parameterName]
    split
    · split
      · exact given_early
      · simp
    · exact given_early

private theorem checkOrder_early : ∀ {shapes : List ParameterShape} {index : Nat} {last : Option ParameterKind}
    {defaulted : Bool}, checkOrder index last defaulted shapes ≠ .error .doesNotParse
  | [], _, _, _ => given_early
  | p :: shapes, index, last, defaulted => by
    rw [checkOrder.eq_def]
    exact checked_early (by simp) (checked_early (by simp) checkOrder_early)

private theorem override_early {m : MethodShape} {s : SubjectShape} : m.override s ≠ .error .doesNotParse := by
  rw [MethodShape.override]
  refine checked_early (by simp) (bind_early parametersFrom_early fun _ => bind_early checkOrder_early fun _ => ?_)
  exact checked_early (by simp) given_early

end MethodShape

/-! ## Shapes -/

namespace SubjectShape

variable {s : SubjectShape}

theorem wrapper_ok_iff : (∃ c, s.wrapper = .ok c) ↔ ¬s.IsUnfit := by
  have package : (∀ part ∈ Text.pathPieces s.package, Text.isName part = true) ↔ Text.isDottedPath s.package = true :=
    List.all_eq_true.symm
  have overrides : (∃ overrides, s.eligibleMethods.mapM (fun m =>
      (m.override s).mapError fun cause => (⟨s.qualifiedName, some m.name, cause⟩ : EmissionError)) = .ok overrides) ↔
        ∀ m ∈ s.eligibleMethods, ¬m.IsUnfit := by
    simp only [mapM_ok_iff, mapError_eq_ok_iff, MethodShape.not_isUnfit_iff (s := s)]
  rw [wrapper]
  dsimp only
  constructor
  · rintro ⟨c, made⟩ unfit
    obtain ⟨isPath, made⟩ := checked_eq_ok_iff.1 made
    obtain ⟨isName, made⟩ := checked_eq_ok_iff.1 made
    obtain ⟨made, mapped, _⟩ := bind_eq_ok_iff.1 made
    cases unfit with
    | package among noName =>
      have isName := package.2 (by simpa using isPath) _ among
      rw [noName] at isName
      cases isName
    | simpleName noName => simp [noName] at isName
    | method eligible unfit => exact overrides.1 ⟨made, mapped⟩ _ eligible unfit
  · intro fits
    have isPath : Text.isDottedPath s.package = true := by
      refine package.1 fun part among => ?_
      by_contra noName
      exact fits (.package among (Bool.eq_false_iff.2 noName))
    have isName : Text.isName s.simpleName = true := by
      by_contra noName
      exact fits (.simpleName (Bool.eq_false_iff.2 noName))
    obtain ⟨made, mapped⟩ := overrides.2 fun m eligible unfit => fits (.method eligible unfit)
    exact ⟨_, checked_eq_ok_iff.2 ⟨by simpa using isPath,
      checked_eq_ok_iff.2 ⟨by simpa using isName, bind_eq_ok_iff.2 ⟨made, mapped, rfl⟩⟩⟩⟩

/-- What is refused before anything is written is not refused for its text. -/
private theorem wrapper_early {e : EmissionError} (refused : s.wrapper = .error e) : e.cause ≠ .doesNotParse := by
  rw [wrapper] at refused
  dsimp only at refused
  split at refused
  · cases refused
    simp
  · split at refused
    · cases refused
      simp
    · rcases bind_eq_error_iff.1 refused with refused | ⟨_, _, impossible⟩
      · obtain ⟨m, _, fails⟩ := mapM_eq_error refused
        cases overridden : m.override s with
        | ok o =>
          rw [overridden] at fails
          cases fails
        | error cause =>
          rw [overridden] at fails
          cases fails
          rintro rfl
          exact MethodShape.override_early overridden
      · cases impossible

private theorem emit_early_iff {e : EmissionError} :
    s.emit = .error (.refused e) ∧ e.cause ≠ .doesNotParse ↔ s.wrapper = .error e := by
  rw [emit]
  cases made : s.wrapper with
  | error other =>
    have early := wrapper_early made
    constructor
    · rintro ⟨same, _⟩
      cases same
      rfl
    · rintro ⟨⟩
      exact ⟨rfl, early⟩
  | ok c =>
    refine ⟨?_, fun impossible => by cases impossible⟩
    rintro ⟨failed, early⟩
    change (if _ then _ else if _ then _ else _ : Except EmissionFailure WrapperSource) = _ at failed
    split at failed
    · cases failed
    · split at failed
      · cases failed
      · cases failed
        exact absurd rfl early

/-- A shape is refused before anything of it is written just if its class cannot be named or one of its eligible methods
    cannot be declared. The only names that clash are keywords that are given twice or are the name of the receiver.
    Shapes that agree in all but the methods that are not eligible have the same outcome. -/
theorem refused_early_iff (s : SubjectShape) :
    ((∃ e, s.emit = .error (.refused e) ∧ e.cause ≠ .doesNotParse) ↔ s.IsUnfit) ∧
    (∀ e, s.emit = .error (.refused e) ∧ e.cause ≠ .doesNotParse ↔ s.wrapper = .error e) ∧
    (∀ (m : MethodShape) parameters, MethodShape.parametersFrom m.keywords 0 m.parameters = .ok parameters → ∀ name,
      name ∈ MethodShape.clashes (parameters.map (·.name)) ↔
        name ∈ m.keywords ∧ (1 < m.keywords.count name ∨ name = "self")) ∧
    ∀ other : SubjectShape, other.package = s.package → other.simpleName = s.simpleName → other.target = s.target →
      other.eligibleMethods = s.eligibleMethods → other.emit = s.emit := by
  refine ⟨?_, fun _ => emit_early_iff, fun m parameters named name => ?_,
    fun other package simpleName target eligible => ?_⟩
  · simp only [emit_early_iff]
    rw [fails_iff, wrapper_ok_iff, not_not]
  · rw [MethodShape.parametersFrom_chosen named]
    exact MethodShape.mem_clashes_chosen_iff (MethodShape.parametersFrom_ok_iff.1 ⟨parameters, named⟩)
  · have overrides (m : MethodShape) : m.override other = m.override s := by
      rw [MethodShape.override, MethodShape.override, simpleName, target]
    have named : other.qualifiedName = s.qualifiedName := by
      rw [qualifiedName, qualifiedName, package, simpleName]
    have wrappers : other.wrapper = s.wrapper := by
      simp only [wrapper, package, simpleName, target, eligible, named, overrides]
    rw [emit, emit, wrappers, package, named]

end SubjectShape

/-! ### An example -/

/-- A keyword is the name that would be made up for the first parameter. -/
def crossedMethod : MethodShape where
  name := "check"
  owner := "shop.PriceSubject"
  visibility := .everyone
  returns := none
  parameters := [⟨some "int", [], .positional, none, none⟩, ⟨none, [], .keywordOnly, some "arg0", some "1"⟩]
  isFinal := false
  isPrivate := false
  isStatic := false
  isAsync := false
  isGenerator := false

def crossedShape : SubjectShape where
  package := "shop"
  simpleName := "PriceSubject"
  target := "int"
  methods := [crossedMethod]

/-- The same shape with a method that could not be declared, but is final. -/
def hiddenShape : SubjectShape :=
  { crossedShape with methods := [{ crossedMethod with name := "1", isFinal := true }, crossedMethod] }

private theorem crossed_named : MethodShape.parametersFrom crossedMethod.keywords 0 crossedMethod.parameters = .ok
    [{ name := "arg0_", typeText := some "int" }, { name := "arg0", kind := .keywordOnly, default := some "1" }] :=
  eq_ok_of_toOption (by decide +kernel)

theorem hidden_fits : hiddenShape.eligibleMethods = crossedShape.eligibleMethods ∧
    hiddenShape.emit = crossedShape.emit ∧ ¬hiddenShape.IsUnfit ∧
    MethodShape.parametersFrom crossedMethod.keywords 0 crossedMethod.parameters = .ok
      [{ name := "arg0_", typeText := some "int" }, { name := "arg0", kind := .keywordOnly, default := some "1" }] ∧
    "arg0" ∉ MethodShape.clashes ["arg0_", "arg0"] := by
  have eligible : hiddenShape.eligibleMethods = crossedShape.eligibleMethods := by decide
  have made : hiddenShape.wrapper.toOption.isSome = true := by decide +kernel
  obtain ⟨-, -, clashes, same⟩ := SubjectShape.refused_early_iff crossedShape
  obtain ⟨unfit, early, -, -⟩ := SubjectShape.refused_early_iff hiddenShape
  refine ⟨eligible, same hiddenShape rfl rfl rfl eligible, fun isUnfit => ?_, crossed_named, fun clashing => ?_⟩
  · obtain ⟨e, refused⟩ := unfit.2 isUnfit
    rw [(early e).1 refused] at made
    cases made
  · have twice := (clashes crossedMethod _ crossed_named "arg0").1 clashing
    exact absurd twice.2 (by decide)

end EachSubject
