import EachSubject.Loading
import EachSubject.Proofs.Wrapper.Naming
import EachSubject.Proofs.Wrapper.Parsing

/-!
# What emitted modules are

A module is only emitted if its names are names, its parameters form a list, and its text parses. If the
texts that are copied into it are complete expressions, it is read back as the tree of its class.
-/

namespace EachSubject

open Source Wrapper

/-! ## Parameters -/

namespace MethodShape

/-- The parameters that pass the check of their order form a list. -/
theorem checkOrder_inOrder {keywords : List String} : ∀ {shapes : List ParameterShape}
    {parameters : List Wrapper.Parameter} {index : Nat} {last : Option ParameterKind} {defaulted : Bool},
      List.Forall₂ (Names keywords) shapes parameters →
      (∀ q ∈ parameters, q.value.isSome = q.default.isSome) →
      checkOrder index last defaulted shapes = .ok () → InOrder last defaulted parameters
  | _, _, _, _, _, .nil, _, _ => trivial
  | p :: shapes, q :: parameters, index, last, defaulted, .cons names others, values, checked => by
    have value := values q List.mem_cons_self
    have follow : mayFollow last q.kind ∧ (if q.kind = .positional && q.default.isNone && defaulted then
        throw (.defaultMissing index) else checkOrder (index + 1) (some q.kind)
          (defaulted || (q.kind = .positional && q.value.isSome)) shapes) = Except.ok () := by
      rw [checkOrder.eq_def] at checked
      dsimp only at checked
      rw [← names.kind, ← names.default, ← value] at checked
      cases last with
      | none => exact ⟨fun _ impossible => (by cases impossible), checked⟩
      | some before =>
        dsimp only at checked
        split at checked
        · cases checked
        · rename_i inPlace
          refine ⟨fun other isLast => ?_, checked⟩
          cases isLast
          simpa using inPlace
    obtain ⟨mayFollow, checked⟩ := follow
    split at checked
    · cases checked
    · rename_i given
      refine ⟨mayFollow, names.variadic, fun positional none => ?_, checkOrder_inOrder others
        (fun q among => values q (List.mem_cons_of_mem _ among)) checked⟩
      have noDefault : q.default.isNone = true := by
        rw [none] at value
        simpa using value.symm
      simpa [positional, noDefault] using given

end MethodShape

/-! ## Lengths -/

namespace Wrapper

private theorem length_le_intercalate {text : String} : ∀ {texts : List String}, text ∈ texts →
    text.length ≤ (", ".intercalate texts).length
  | [other], among => by
    rw [List.mem_singleton.1 among]
    exact Nat.le_of_eq rfl
  | first :: second :: rest, among => by
    have whole : ", ".intercalate (first :: second :: rest) =
        first ++ (", " ++ ", ".intercalate (second :: rest)) := by
      simp [← String.toList_inj, String.toList_intercalate, List.intercalate]
    rw [whole, String.length_append, String.length_append]
    rcases List.mem_cons.1 among with rfl | among
    · exact Nat.le_add_right _ _
    · have := length_le_intercalate among
      omega

private theorem declaration_mem {p : Parameter} : ∀ {parameters : List Parameter} (starred : Bool),
    p ∈ parameters → p.declaration ∈ declarations starred parameters
  | q :: rest, starred, among => by
    rw [declarations]
    rcases List.mem_cons.1 among with rfl | among
    · split
      · exact List.mem_cons_self
      · split
        · exact List.mem_cons_self
        · exact List.mem_cons_of_mem _ List.mem_cons_self
      · exact List.mem_cons_self
    · have behind := fun starred => declaration_mem starred among
      split
      · exact List.mem_cons_of_mem _ (behind true)
      · split
        · exact List.mem_cons_of_mem _ (behind true)
        · exact List.mem_cons_of_mem _ (List.mem_cons_of_mem _ (behind true))
      · exact List.mem_cons_of_mem _ (behind starred)

/-- The texts of a parameter are no longer than its declaration. -/
private theorem texts_le_declaration (p : Parameter) :
    (∀ typeText ∈ p.typeText, (annotatedText typeText p.annotations).length ≤ p.declaration.length) ∧
      ∀ default ∈ p.default, default.length ≤ p.declaration.length := by
  rw [Parameter.declaration]
  constructor
  · intro typeText isType
    rw [Option.mem_def] at isType
    rw [isType]
    cases p.default <;> simp only [String.length_append] <;> omega
  · intro default isDefault
    rw [Option.mem_def] at isDefault
    rw [isDefault]
    cases p.typeText <;> simp only [String.length_append] <;> omega

private theorem parameters_le_text (m : Override) : (parametersText m.parameters).length ≤ m.text.length := by
  unfold Override.text
  simp only [String.length_append]
  cases given : (parametersText m.parameters).isEmpty with
  | true =>
    rw [String.isEmpty_iff.1 given]
    exact Nat.zero_le _
  | false =>
    simp only [Bool.false_eq_true, if_false, String.length_append]
    omega

private theorem returns_le_text {m : Override} {returns : String} (isReturned : returns ∈ m.returns) :
    returns.length ≤ m.text.length := by
  rw [Option.mem_def] at isReturned
  unfold Override.text
  rw [isReturned]
  simp only [String.length_append]
  omega

private theorem target_le_text (m : Override) : m.targetType.length ≤ m.text.length := by
  unfold Override.text
  simp only [String.length_append]
  omega

private theorem text_le_text {c : Wrapper.Class} {m : Override} (among : m ∈ c.overrides) :
    m.text.length ≤ c.text.length := by
  have within : m.text.toList.length ≤ (c.overrides.flatMap (·.text.toList)).length :=
    List.Sublist.length_le (List.sublist_flatten_of_mem (List.mem_map_of_mem among))
  have whole : (String.join (c.overrides.map Override.text)).toList = c.overrides.flatMap (·.text.toList) := by
    rw [String.toList_join, List.flatMap_map]
  rw [← whole, String.length_toList, String.length_toList] at within
  rw [Class.text, String.length_append]
  omega

private theorem target_lt_text (c : Wrapper.Class) : c.targetType.length + 2 ≤ c.text.length := by
  have some : "        data: Iterable[".length = 23 := rfl
  unfold Class.text Class.head
  simp only [String.length_append]
  omega

private theorem textStands {text : String} {depth : Nat} (complete : ∃ e, ReadsAs text e)
    (deep : text.length + 1 ≤ depth) : TextStands depth text := by
  obtain ⟨e, reads⟩ := complete
  refine ⟨e, reads.expressionOf_eq, fun deeper => reads.stands (Nat.le_trans ?_ deeper)⟩
  rwa [String.length_toList]

/-- In a readable class whose parameters form lists, everything stands for what it is. -/
private theorem Override.IsReadable.stands {m : Override} {depth : Nat} (readable : m.IsReadable)
    (inOrder : InOrder none false m.parameters) (item : m.itemLocal ≠ "match") (subject : m.subjectLocal ≠ "match")
    (deep : m.text.length + 1 ≤ depth) : m.Stands depth where
  name := readable.name
  subjectType := readable.subjectType
  itemLocal := ⟨readable.itemLocal, item⟩
  subjectLocal := ⟨readable.subjectLocal, subject⟩
  targetType := textStands readable.targetType (Nat.le_trans (Nat.succ_le_succ (target_le_text m)) deep)
  returns := fun returns isReturned => textStands (readable.returns returns isReturned)
    (Nat.le_trans (Nat.succ_le_succ (returns_le_text isReturned)) deep)
  parameters := fun p among => by
    have declared := Nat.le_trans (length_le_intercalate (declaration_mem false among)) (parameters_le_text m)
    have ⟨typeText, default⟩ := texts_le_declaration p
    have readable := readable.parameters p among
    exact
      { name := readable.name
        typeText := fun text isType => textStands (readable.typeText text isType)
          (by have := typeText text isType; omega)
        default := fun text isDefault => textStands (readable.default text isDefault)
          (by have := default text isDefault; omega) }
  inOrder := inOrder

/-- The text of a default is read, so that there is a value if there is a text. -/
theorem Parameter.IsReadable.value_isSome {q : Wrapper.Parameter} (readable : q.IsReadable) :
    q.value.isSome = q.default.isSome := by
  rw [Parameter.value]
  cases isDefault : q.default with
  | none => rfl
  | some default =>
    obtain ⟨e, reads⟩ := readable.default default isDefault
    rw [Option.bind_some, reads.expressionOf_eq]
    rfl

end Wrapper

/-! ## Modules -/

namespace SubjectShape

/-- The texts that are copied from a shape into its module are complete expressions. -/
structure IsComplete (s : SubjectShape) : Prop where
  target : ∃ e, ReadsAs s.target e
  returns : ∀ m ∈ s.eligibleMethods, ∀ returns ∈ m.returns, ∃ e, ReadsAs returns e
  typeText : ∀ m ∈ s.eligibleMethods, ∀ p ∈ m.parameters, ∀ typeText ∈ p.typeText,
    ∃ e, ReadsAs (annotatedText typeText p.annotations) e
  default : ∀ m ∈ s.eligibleMethods, ∀ p ∈ m.parameters, ∀ default ∈ p.default, ∃ e, ReadsAs default e

variable {s : SubjectShape}

/-- What a wrapper class is made of. -/
theorem wrapper_ok {c : Wrapper.Class} (made : s.wrapper = .ok c) : Text.isDottedPath s.package = true ∧
    Text.isName s.simpleName = true ∧ c.package = s.package ∧ c.subjectName = s.simpleName ∧
    c.targetType = s.target ∧ List.Forall₂ (fun m o => m.override s = .ok o) s.eligibleMethods c.overrides := by
  rw [wrapper] at made
  dsimp only at made
  split at made
  · cases made
  · rename_i isPath
    split at made
    · cases made
    · rename_i isName
      obtain ⟨overrides, mapped, made⟩ := bind_eq_ok_iff.1 made
      cases made
      refine ⟨by simpa using isPath, by simpa using isName, rfl, rfl, rfl, ?_⟩
      exact (forall₂_of_mapM mapped).imp fun _ _ => mapError_eq_ok_iff.1

/-- What an emitted module is. -/
theorem emit_ok {source : WrapperSource} (emitted : s.emit = .ok source) :
    ∃ c, s.wrapper = .ok c ∧ source = { className := c.name, package := s.package, code := c.text } ∧
      c.text.contains nulCharacter = false := by
  rw [emit] at emitted
  obtain ⟨c, made, emitted⟩ := bind_eq_ok_iff.1 emitted
  refine ⟨c, mapError_eq_ok_iff.1 made, ?_⟩
  split at emitted
  · cases emitted
  · rename_i noNul
    split at emitted
    · cases emitted
      exact ⟨rfl, by simpa using noNul⟩
    · cases emitted

/-- The override of a method of a complete shape is readable, and its parameters form a list. -/
theorem override_readable (complete : s.IsComplete) (simple : Text.isName s.simpleName = true) {m : MethodShape}
    (eligible : m ∈ s.eligibleMethods) {o : Override} (made : m.override s = .ok o) : o.IsReadable ∧
      InOrder none false o.parameters ∧ o.itemLocal ≠ "match" ∧ o.subjectLocal ≠ "match" := by
  obtain ⟨isName, parameters, named, ordered, rfl⟩ := MethodShape.override_ok made
  have readable : ∀ q ∈ parameters, q.IsReadable := by
    intro q among
    obtain ⟨p, inside, names⟩ := mem_right_of_forall₂ named among
    exact
      { name := names.isName
        typeText := by
          rw [names.typeText, names.annotations]
          exact complete.typeText m eligible p inside
        default := by
          rw [names.default]
          exact complete.default m eligible p inside }
  refine ⟨?_, MethodShape.checkOrder_inOrder named (fun q among => (readable q among).value_isSome) ordered,
    freeLocal_ne_word (by decide) _ (by decide), freeLocal_ne_word (by decide) _ (by decide)⟩
  exact
    { name := isName
      subjectType := simple
      itemLocal := freeLocal_isName (by decide) _
      subjectLocal := freeLocal_isName (by decide) _
      targetType := complete.target
      returns := complete.returns m eligible
      parameters := readable }

/-- The overrides of a complete shape are readable, and their parameters form lists. -/
private theorem overrides_readable (complete : s.IsComplete) {c : Wrapper.Class} (made : s.wrapper = .ok c) :
    ∀ o ∈ c.overrides, o.IsReadable ∧ InOrder none false o.parameters ∧ o.itemLocal ≠ "match" ∧
      o.subjectLocal ≠ "match" := by
  obtain ⟨_, isName, _, _, _, overrides⟩ := wrapper_ok made
  intro o among
  obtain ⟨m, eligible, made⟩ := mem_right_of_forall₂ overrides among
  exact override_readable complete isName eligible made

/-- The wrapper class of a complete shape is readable. -/
theorem wrapper_readable (complete : s.IsComplete) {c : Wrapper.Class} (made : s.wrapper = .ok c) : c.IsReadable := by
  obtain ⟨isPath, isName, package, subjectName, target, _⟩ := wrapper_ok made
  exact
    { package := by rw [package]; exact isPath
      subjectName := by rw [subjectName]; exact isName
      targetType := by rw [target]; exact complete.target
      overrides := fun o among => (overrides_readable complete made o among).1 }

/-- The text of the wrapper class of a complete shape is read back as its tree, if it can be cut into
    tokens at all. -/
theorem wrapper_parses (complete : s.IsComplete) {c : Wrapper.Class} (made : s.wrapper = .ok c) {all : List Token}
    (cut : tokens? c.text.toList = some all) : parse? c.text = some c.module := by
  have readable := wrapper_readable complete made
  have size := target_lt_text c
  obtain ⟨depth, deep⟩ : ∃ depth, c.text.length = depth + 2 := ⟨c.text.length - 2, by omega⟩
  have stands : c.Stands (depth + 2) :=
    { package := readable.package
      subjectName := readable.subjectName
      targetType := textStands readable.targetType (by omega)
      overrides := fun o among => by
        have ⟨readable, inOrder, item, subject⟩ := overrides_readable complete made o among
        exact readable.stands inOrder item subject (by have := text_le_text among; omega) }
  obtain rfl := Class.tokens_eq readable cut
  have same : c.text.toList.length + 1 = depth + 3 := by rw [String.length_toList, deep]
  rw [parse?]
  dsimp only
  rw [cut, Option.bind_eq_bind, Option.bind_some, same, Class.tokens_read stands]
  rfl

/-- What is read from the text of the wrapper class of a complete shape is its tree. -/
theorem wrapper_read (complete : s.IsComplete) {c : Wrapper.Class} (made : s.wrapper = .ok c) {module : Module}
    (read : parse? c.text = some module) : module = c.module := by
  have parsed := read
  rw [parse?] at parsed
  dsimp only at parsed
  obtain ⟨all, cut, _⟩ := Option.bind_eq_some_iff.1 parsed
  exact Option.some.inj (read.symm.trans (wrapper_parses complete made cut))

/-- A complete shape is emitted if the text of its wrapper class can be cut into tokens. -/
theorem emit_of_tokens (complete : s.IsComplete) {c : Wrapper.Class} (made : s.wrapper = .ok c)
    (cut : (tokens? c.text.toList).isSome = true) :
    s.emit = .ok { className := c.name, package := s.package, code := c.text } := by
  obtain ⟨all, cut⟩ := Option.isSome_iff_exists.1 cut
  have noNul : ¬c.text.contains nulCharacter = true := by
    rw [String.contains_char_eq, decide_eq_true_iff]
    intro inside
    rw [tokens?, if_pos (List.contains_iff_mem.2 inside)] at cut
    cases cut
  have parses : parses c.text = true :=
    Option.isSome_iff_exists.2 ⟨_, wrapper_parses complete made cut⟩
  have known : s.wrapper.mapError EmissionFailure.refused = .ok c := mapError_eq_ok_iff.2 made
  refine bind_eq_ok_iff.2 ⟨c, known, ?_⟩
  rw [if_neg noNul, if_pos parses]
  rfl

end SubjectShape

end EachSubject
