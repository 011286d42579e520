import EachSubject.Proofs.Evaluation.References
import EachSubject.Proofs.World.Heirs

/-!
# Defaults that are read back

Where the described class goes by its simple name, the text of a default gives the default: a literal gives an equal
value of the same class, and a reference the very same object. An undecorated function keeps all its defaults, so that
each of them has a text, unless its own text is that of a complex number with a part that no double is near to: working
that out ends with an error that is none of those after which a text counts as no literal.
-/

namespace EachSubject

open Source Description

/-! ## Texts that are no literals -/

/-- What ends is either taken as a sign that a text is no literal, or no double is near to a number. -/
def RefusesLiterals {α : Type} (outcome : Except Fault α) : Prop :=
  ∀ fault, outcome = .error fault → literalErrors.contains fault.errorClass = true ∨ fault = .overflow

namespace RefusesLiterals

variable {α β : Type}

private theorem ok (a : α) : RefusesLiterals (.ok a : Except Fault α) := by
  intro fault failed
  cases failed

private theorem caught {fault : Fault} (among : literalErrors.contains fault.errorClass = true) :
    RefusesLiterals (.error fault : Except Fault α) := by
  intro _ failed
  cases failed
  exact .inl among

private theorem noLiteral : RefusesLiterals (.error moreThanLiteral : Except Fault α) := caught rfl

private theorem bind {first : Except Fault α} {next : α → Except Fault β} (head : RefusesLiterals first)
    (tail : ∀ a, RefusesLiterals (next a)) : RefusesLiterals (first >>= next) := by
  intro fault failed
  rcases bind_eq_error_iff.1 failed with failed | ⟨a, _, failed⟩
  · exact head fault failed
  · exact tail a fault failed

private theorem checked {fault : Fault} {refused : Bool} {rest : Except Fault α}
    (among : literalErrors.contains fault.errorClass = true) (behind : RefusesLiterals rest) :
    RefusesLiterals (if refused then throw fault else rest) := by
  cases refused with
  | true => exact caught among
  | false => exact behind

end RefusesLiterals

namespace Source

open RefusesLiterals

private theorem value_refuses (constant : Literal) : RefusesLiterals constant.value := by
  cases constant <;> rw [Literal.value] <;> (try split) <;> first | exact ok _ | exact noLiteral

private theorem number_refuses (e : Expr) : RefusesLiterals e.number := by
  unfold Expr.number
  split <;> first | exact value_refuses _ | exact noLiteral

private theorem signedNumber_refuses (op : String) (operand : Expr) : RefusesLiterals (Expr.signedNumber op operand) := by
  unfold Expr.signedNumber
  split
  · exact number_refuses operand
  · exact bind (number_refuses operand) fun _ => ok _
  · exact noLiteral

private theorem realPart_refuses (e : Expr) : RefusesLiterals e.realPart := by
  unfold Expr.realPart
  split
  · exact signedNumber_refuses _ _
  · exact number_refuses _

private theorem doubleOf_refuses (value : Value) : RefusesLiterals (Expr.doubleOf value) := by
  unfold Expr.doubleOf
  split
  · rw [Value.doubleOfInt]
    split
    · exact ok _
    · intro fault failed
      cases failed
      exact .inr rfl
  · exact ok _
  · exact noLiteral

private theorem complexNumber_refuses (op : String) (left right : Value) :
    RefusesLiterals (Expr.complexNumber op left right) := by
  unfold Expr.complexNumber
  split
  · exact bind (doubleOf_refuses left) fun _ => ok _
  · exact noLiteral

mutual

private theorem literalValue_refuses (e : Expr) : RefusesLiterals e.literalValue := by
  unfold Expr.literalValue
  split
  · exact value_refuses _
  · exact bind (literalValues_refuses _) fun _ => ok _
  · exact bind (literalValues_refuses _) fun _ => ok _
  · exact bind (literalMembers_refuses _) fun _ => ok _
  · exact bind (literalEntries_refuses _) fun _ => ok _
  · exact ok _
  · exact signedNumber_refuses _ _
  · rename_i op left right
    exact checked rfl (bind (realPart_refuses left) fun real =>
      bind (number_refuses right) fun imaginary => complexNumber_refuses op real imaginary)
  · exact noLiteral

private theorem literalValues_refuses (items : List Expr) : RefusesLiterals (Expr.literalValues items) := by
  match items with
  | [] => exact ok []
  | item :: rest =>
    rw [Expr.literalValues]
    exact bind (literalValue_refuses item) fun _ => bind (literalValues_refuses rest) fun _ => ok _

private theorem literalMembers_refuses (items : List Expr) : RefusesLiterals (Expr.literalMembers items) := by
  match items with
  | [] => exact ok []
  | item :: rest =>
    rw [Expr.literalMembers]
    exact bind (literalValue_refuses item) fun _ =>
      checked rfl (bind (literalMembers_refuses rest) fun _ => ok _)

private theorem literalEntries_refuses (items : List (Option Expr × Expr)) :
    RefusesLiterals (Expr.literalEntries items) := by
  match items with
  | [] => exact ok []
  | (none, _) :: _ => exact noLiteral
  | (some key, value) :: rest =>
    rw [Expr.literalEntries]
    exact bind (literalValue_refuses key) fun _ => bind (literalValue_refuses value) fun _ =>
      checked rfl (bind (literalEntries_refuses rest) fun _ => ok _)

end

/-- A text denotes a literal, or is seen not to, or holds a number that no double is near to. -/
theorem literalOf_refuses (text : String) : RefusesLiterals (literalOf text) := by
  rw [literalOf]
  refine checked rfl (bind ?_ fun e => literalValue_refuses e)
  cases parseExpression? _ with
  | none => exact caught rfl
  | some e => exact ok e

end Source

/-! ## Where defaults are kept -/

/-- A function as a declaration makes it: its parameters have different names, those that take all further arguments
    have no default, and the places of its defaults can be written down. -/
structure Function.IsDeclared (f : Function) : Prop where
  distinct : Distinct f.parameters
  places : ∀ p ∈ f.parameters, p.default.isSome = true → p.mode.isPositional = true ∨ p.mode = .keywordOnly
  few : f.storedDefaults.length < 10 ^ wholeLimit

/-- The text refers to something that the function keeps. -/
def Function.IsReferenceText (f : Function) (reference text : String) : Prop :=
  ∃ slot : DefaultSlot, (slot.value? f).isSome = true ∧ text = reference ++ slot.text

namespace Description

variable {f : Function} {p : FunctionParameter} {value : Value}

private theorem place_of_mem : ∀ {defaulted : List FunctionParameter},
    Distinct defaulted → (∀ p ∈ defaulted, p.default.isSome = true) → p ∈ defaulted →
      ∃ index, defaulted.findIdx? (·.name == p.name) = some index ∧
        (defaulted.filterMap (·.default))[index]? = p.default
  | first :: rest, distinct, all, among => by
    obtain ⟨kept, isKept⟩ := Option.isSome_iff_exists.1 (all first List.mem_cons_self)
    rw [List.findIdx?_cons, List.filterMap_cons_some isKept]
    by_cases same : first.name = p.name
    · refine ⟨0, by rw [if_pos (beq_iff_eq.2 same)], ?_⟩
      rw [← eq_of_name distinct List.mem_cons_self among same, isKept]
      rfl
    · have behind : p ∈ rest := (List.mem_cons.1 among).resolve_left fun isFirst => same (isFirst ▸ rfl)
      obtain ⟨index, place, isThere⟩ :=
        place_of_mem (List.pairwise_cons.1 distinct).2 (fun q inside => all q (List.mem_cons_of_mem _ inside)) behind
      exact ⟨index + 1, by rw [if_neg (by simpa using same), place]; rfl, isThere⟩

private theorem lookup_keyword : ∀ {parameters : List FunctionParameter}, Distinct parameters → p ∈ parameters →
    p.mode = .keywordOnly → p.default = some value →
      (parameters.filterMap fun q => if q.mode = .keywordOnly then q.default.map fun d => (q.name, d) else none).lookup
        p.name = some value
  | first :: rest, distinct, among, mode, isDefault => by
    rcases List.mem_cons.1 among with rfl | behind
    · rw [List.filterMap_cons_some (b := (p.name, value)) (by rw [if_pos mode, isDefault]; rfl),
        List.lookup_cons_self]
    · have further := lookup_keyword (List.pairwise_cons.1 distinct).2 behind mode isDefault
      have differs : p.name ≠ first.name := fun same =>
        (List.pairwise_cons.1 distinct).1 p.name (List.mem_map_of_mem behind) same.symm
      rw [List.filterMap_cons]
      split
      · exact further
      · rename_i entry kept
        have isName : entry.1 = first.name := by
          split at kept
          · obtain ⟨_, _, rfl⟩ := Option.map_eq_some_iff.1 kept
            rfl
          · cases kept
        rw [List.lookup_cons, isName, beq_false_of_ne differs, further]

/-- An undecorated function keeps each of its defaults. -/
theorem keptSlot?_undecorated (plain : f.wrapping = none) (declared : f.IsDeclared) (among : p ∈ f.parameters)
    (isDefault : p.default = some value) :
    ∃ slot : DefaultSlot, keptSlot? f p value = some slot ∧ slot.value? f = some value := by
  have kept : ∀ slot : DefaultSlot, slot.value? f = some value → (slot.value? f).any (keeps f · value) = true := by
    intro slot isKept
    rw [isKept, Option.any_some, keeps, plain]
    rfl
  by_cases keywordOnly : p.mode = .keywordOnly
  · have isKept : (DefaultSlot.byName p.name).value? f = some value := by
      rw [DefaultSlot.value?, Function.storedKeywordDefaults, plain]
      exact lookup_keyword declared.distinct among keywordOnly isDefault
    exact ⟨.byName p.name, by rw [keptSlot?, if_pos keywordOnly, Option.filter_some, if_pos (kept _ isKept)], isKept⟩
  · have has : p.default.isSome = true := by rw [isDefault]; rfl
    have positional := (declared.places p among has).resolve_right keywordOnly
    have distinct : Distinct f.defaulted := List.Pairwise.sublist (List.filter_sublist.map _) declared.distinct
    have all : ∀ q ∈ f.defaulted, q.default.isSome = true := by
      intro q inside
      have judged := List.of_mem_filter inside
      exact (Bool.and_eq_true_iff.1 judged).2
    have inside : p ∈ f.defaulted := List.mem_filter.2 ⟨among, by rw [positional, has]; rfl⟩
    obtain ⟨index, place, isThere⟩ := place_of_mem distinct all inside
    have isKept : (DefaultSlot.byPlace index).value? f = some value := by
      rw [DefaultSlot.value?, Function.storedDefaults, plain]
      exact isThere.trans isDefault
    refine ⟨.byPlace index, ?_, isKept⟩
    rw [keptSlot?, if_neg keywordOnly, defaultIndex?, place, Option.map_some, Option.filter_some,
      if_pos (kept _ isKept)]

/-- What a function keeps for a default is that very object. -/
theorem keptSlot?_identical {slot : DefaultSlot} (declared : f.IsDeclared) (among : p ∈ f.parameters)
    (isDefault : p.default = some value) (found : keptSlot? f p value = some slot) :
    ∃ kept, slot.value? f = some kept ∧ (kept = value ∨ kept.isSame value = true) := by
  obtain ⟨kept, isKept, same⟩ : ∃ kept, slot.value? f = some kept ∧ keeps f kept value = true := by
    rw [keptSlot?] at found
    exact Option.any_eq_true _ _ |>.1 (Option.filter_eq_some_iff.1 found).2
  cases plain : f.wrapping with
  | none =>
    obtain ⟨own, isOwn, isThere⟩ := keptSlot?_undecorated plain declared among isDefault
    cases isOwn.symm.trans found
    exact ⟨value, isThere, .inl rfl⟩
  | some outer =>
    rw [keeps, plain] at same
    exact ⟨kept, isKept, .inr same⟩

end Description

/-! ## Reading back -/

/-- The frame is one from which a default is read back: it knows the class by its simple name, and the class of sets by
    its own. -/
structure Frame.Knows (f : Frame) (store : Store) (subject : ClassName) : Prop where
  subject : (f.value subject.simple).start store = (.ok (store.world.classValue subject), store)
  sets : (f.value "set").start store = (.ok (.ofClass (.builtin "set")), store)

/-- The method can be asked for by its name: that is read as itself, and is no member of an enumeration. -/
structure Description.FoundMethod.IsReadable (w : World) (subject : ClassName) (found : FoundMethod) : Prop where
  isName : IsPlainName found.name
  noMember : (w.class? subject).bind (World.memberOf? · found.name) = none
  declared : found.function.IsDeclared

/-- Wherever the class is known and the name of the method stands for itself, evaluating the text gives the default:
    the very same object if the text refers to something that the method keeps, or else an equal value of the same
    class. -/
def Description.FoundMethod.ReadsBack (w : World) (subject : ClassName) (found : FoundMethod) (value : Value)
    (text : String) : Prop :=
  ∀ (e : Engine) (f : Frame) (store : Store), store.world = w → store.revised = [] → f.Knows store subject →
    f.inside found.name = found.name → ∃ given store', (e.evaluateText f text).start store = (.ok given, store') ∧
      (found.function.IsReferenceText (subject.simple ++ "." ++ found.name) text →
        given = value ∨ given.isSame value = true) ∧
      (¬ found.function.IsReferenceText (subject.simple ++ "." ++ found.name) text →
        given.classOf = value.classOf ∧ given.isEqual value = true)

section

variable {w : World} {subject : ClassName} {found : FoundMethod}

private theorem text_byPlace (class_ name : String) (index : Nat) :
    class_ ++ "." ++ name ++ (DefaultSlot.byPlace index).text =
      String.ofList (referenceText class_ name "__defaults__" (Nat.toDigits 10 index)) := by
  apply String.toList_inj.1
  simp [DefaultSlot.text, referenceText, Nat.toString_eq_repr, Nat.repr]

private theorem text_byName (class_ name key : String) :
    class_ ++ "." ++ name ++ (DefaultSlot.byName key).text =
      String.ofList (referenceText class_ name "__kwdefaults__" (Text.quotedChars key.toList)) := by
  apply String.toList_inj.1
  simp [DefaultSlot.text, referenceText, Text.quoted]

private theorem defaults_isPlainName : IsPlainName "__defaults__" := ⟨by decide, by decide⟩

private theorem keywordDefaults_isPlainName : IsPlainName "__kwdefaults__" := ⟨by decide, by decide⟩

theorem index_short {f : Function} (declared : f.IsDeclared) {index : Nat}
    (kept : (f.storedDefaults[index]?).isSome = true) : index < 10 ^ wholeLimit := by
  obtain ⟨_, isKept⟩ := Option.isSome_iff_exists.1 kept
  exact Nat.lt_trans (List.getElem?_eq_some_iff.1 isKept).1 declared.few

/-- The text of a reference denotes no literal. -/
private theorem literal_noReference (isClass : IsPlainName subject.simple) (readable : found.IsReadable w subject)
    {text : String} {value : Value} (denotes : literalOf text = .ok value) :
    ¬ found.function.IsReferenceText (subject.simple ++ "." ++ found.name) text := by
  rintro ⟨slot, kept, rfl⟩
  cases slot with
  | byPlace index =>
    rw [text_byPlace] at denotes
    exact Engine.literalOf_reference isClass readable.isName defaults_isPlainName
      (.decimal (index_short readable.declared kept)) value denotes
  | byName key =>
    rw [text_byName] at denotes
    exact Engine.literalOf_reference isClass readable.isName keywordDefaults_isPlainName (.quoted key) value denotes

/-- A reference gives what the method keeps. -/
private theorem slot_evaluates (isClass : IsPlainName subject.simple) (readable : found.IsReadable w subject)
    (among : found ∈ methods w subject) {slot : DefaultSlot} {kept : Value}
    (isKept : slot.value? found.function = some kept) :
    ∃ expression, Engine.IsTextOf (subject.simple ++ "." ++ found.name ++ slot.text) expression ∧
      ∀ (e : Engine) (f : Frame) (store : Store), store.world = w → store.revised = [] → f.Knows store subject →
        f.inside found.name = found.name → Engine.Gives store (e.evaluate f expression) kept := by
  cases slot with
  | byPlace index =>
    have short := index_short readable.declared (Option.isSome_iff_exists.2 ⟨kept, isKept⟩)
    rw [text_byPlace]
    refine ⟨_, Engine.reads_reference isClass readable.isName defaults_isPlainName (.decimal short), ?_⟩
    rintro e f store rfl unchanged knows unchangedName
    obtain ⟨isEnum, isClassValue⟩ := World.classValue_eq store.world subject
    exact Engine.evaluate_positionalReference unchanged readable.noMember among (isClassValue ▸ knows.subject)
      unchangedName isKept
  | byName key =>
    rw [text_byName]
    refine ⟨_, Engine.reads_reference isClass readable.isName keywordDefaults_isPlainName (.quoted key), ?_⟩
    rintro e f store rfl unchanged knows unchangedName
    obtain ⟨isEnum, isClassValue⟩ := World.classValue_eq store.world subject
    exact Engine.evaluate_keywordReference unchanged readable.noMember among (isClassValue ▸ knows.subject)
      unchangedName isKept

private theorem copies_classOf {first last : Nat} {value copy : Value} (copies : value.Copies first last copy) :
    copy.classOf = value.classOf := by
  cases copies <;> rfl

/-- The text of a default is an expression. Where the class is known, that is evaluated to the default, and nothing but
    the next place and the places of constants changes. -/
theorem defaultText_evaluates (keeps : w.KeepsBuiltins) (isClass : IsPlainName subject.simple)
    (among : found ∈ methods w subject) (readable : found.IsReadable w subject) {p : FunctionParameter}
    (inside : p ∈ found.function.parameters) {value : Value} (isDefault : p.default = some value)
    {text : Option String}
    (made : defaultText found.function (subject.simple ++ "." ++ found.name) p = .ok text) :
    ∃ source expression, text = some source ∧ Engine.IsTextOf source expression ∧
      ∀ (e : Engine) (f : Frame) (store : Store), store.world = w → store.revised = [] → f.Knows store subject →
        f.inside found.name = found.name → ∃ given next constants,
          (e.evaluate f expression).start store = (.ok given, store.advanced next constants) ∧
          (found.function.IsReferenceText (subject.simple ++ "." ++ found.name) source →
            given = value ∨ given.isSame value = true) ∧
          (¬ found.function.IsReferenceText (subject.simple ++ "." ++ found.name) source →
            given.classOf = value.classOf ∧ given.isEqual value = true) := by
  rcases defaultText_ok made with ⟨none, _⟩ | ⟨_, _, source, isValue, rfl, _, origin⟩
  · rw [isDefault] at none
    cases none
  cases isDefault.symm.trans isValue
  rcases origin with ⟨literal, rfl⟩ | stored
  · rw [isLiteral] at literal
    cases denotes : literalOf source with
    | error fault =>
      rw [denotes] at literal
      dsimp only at literal
      split at literal <;> cases literal
    | ok parsed =>
      rw [denotes] at literal
      obtain ⟨sameClass, equal⟩ := Bool.and_eq_true_iff.1 (Except.ok.inj literal)
      obtain ⟨expression, isText, isLiteral⟩ := Engine.literalOf_inv denotes
      refine ⟨source, expression, rfl, isText, ?_⟩
      rintro e f store rfl unchanged knows _
      obtain ⟨given, next, constants, _, copies, started⟩ :=
        Engine.evaluate_literal unchanged (Engine.knowsSets unchanged keeps knows.sets) expression isLiteral
          store.nextPlace store.constants
      refine ⟨given, next, constants, started, fun isReference => ?_, fun _ => ?_⟩
      · exact absurd isReference (literal_noReference isClass readable denotes)
      · exact ⟨(copies_classOf copies).trans (eq_of_beq sameClass), copies.isEqual equal⟩
  · rw [storedDefault?_eq] at stored
    obtain ⟨slot, isKept, rfl⟩ := Option.map_eq_some_iff.1 stored
    obtain ⟨kept, isThere, identical⟩ := keptSlot?_identical readable.declared inside isDefault isKept
    obtain ⟨expression, isText, gives⟩ := slot_evaluates isClass readable among isThere
    refine ⟨_, expression, rfl, isText, ?_⟩
    intro e f store isWorld unchanged knows unchangedName
    obtain ⟨given, next, constants, _, rfl, started⟩ :=
      gives e f store isWorld unchanged knows unchangedName store.nextPlace store.constants
    refine ⟨given, next, constants, started, fun _ => identical, fun noReference => ?_⟩
    exact absurd ⟨slot, Option.isSome_iff_exists.2 ⟨given, isThere⟩, rfl⟩ noReference

/-- The text of a default is read back. -/
theorem defaultText_readsBack (keeps : w.KeepsBuiltins) (isClass : IsPlainName subject.simple)
    (among : found ∈ methods w subject) (readable : found.IsReadable w subject) {p : FunctionParameter}
    (inside : p ∈ found.function.parameters) {value : Value} (isDefault : p.default = some value)
    {text : Option String}
    (made : defaultText found.function (subject.simple ++ "." ++ found.name) p = .ok text) :
    ∃ source, text = some source ∧ found.ReadsBack w subject value source := by
  obtain ⟨source, expression, same, isText, evaluates⟩ :=
    defaultText_evaluates keeps isClass among readable inside isDefault made
  refine ⟨source, same, fun e f store isWorld unchanged knows unchangedName => ?_⟩
  obtain ⟨given, next, constants, started, gives⟩ := evaluates e f store isWorld unchanged knows unchangedName
  exact ⟨given, _, (Engine.evaluateText_start isText store).trans started, gives⟩

end

/-! ## Descriptions -/

/-- The computations end with the same fault, if one of them does. -/
def FailAlike {α β : Type} (first : Except Fault α) (second : Except Fault β) : Prop :=
  ∀ fault, first = .error fault ↔ second = .error fault

namespace FailAlike

variable {α β γ : Type}

private theorem bind {first : Except Fault γ} {next : γ → Except Fault α} {other : γ → Except Fault β}
    (alike : ∀ c, FailAlike (next c) (other c)) : FailAlike (first >>= next) (first >>= other) := by
  intro fault
  rw [bind_eq_error_iff, bind_eq_error_iff]
  simp only [alike _ fault]

private theorem of_ok (a : α) (b : β) : FailAlike (.ok a) (.ok b) := by
  intro fault
  constructor <;> intro impossible <;> cases impossible

private theorem mapError {first : Except Fault α} {second : Except Fault β} (alike : FailAlike first second)
    (f : Fault → Fault) : FailAlike (first.mapError f) (second.mapError f) := by
  intro fault
  cases first with
  | error own =>
    rw [(alike own).1 rfl]
    simp [Except.mapError]
  | ok a =>
    cases second with
    | error own => cases (alike own).2 rfl
    | ok b => simp [Except.mapError]

private theorem continued {first : Except Fault α} {second : Except Fault β} (alike : FailAlike first second) {α' β' : Type}
    {next : α → Except Fault α'} {other : β → Except Fault β'} (behind : ∀ a b, FailAlike (next a) (other b)) :
    FailAlike (first >>= next) (second >>= other) := by
  cases first with
  | error own =>
    rw [(alike own).1 rfl]
    intro fault
    constructor <;> intro failed <;> cases failed <;> rfl
  | ok a =>
    cases second with
    | error own => cases (alike own).2 rfl
    | ok b => exact behind a b

private theorem mapM {f : γ → Except Fault α} {g : γ → Except Fault β} {image : γ → γ} : ∀ {items : List γ},
    (∀ item ∈ items, FailAlike (f item) (g (image item))) → FailAlike (items.mapM f) ((items.map image).mapM g)
  | [], _ => of_ok [] []
  | item :: rest, alike => by
    rw [List.map_cons, List.mapM_cons, List.mapM_cons]
    have behind := mapM fun other inside => alike other (List.mem_cons_of_mem _ inside)
    exact (alike item List.mem_cons_self).continued fun a b => behind.continued fun _ _ => of_ok _ _

end FailAlike

/-- The parameter, as a caller has to give it. -/
def FunctionParameter.withoutDefault (p : FunctionParameter) : FunctionParameter := { p with default := none }

@[simp]
theorem FunctionParameter.withoutDefault_mode (p : FunctionParameter) : p.withoutDefault.mode = p.mode := rfl

/-- The function with the defaults of its parameters left out. -/
def Function.withoutDefaults (f : Function) : Function :=
  { f with parameters := f.parameters.map FunctionParameter.withoutDefault }

/-- The method with the defaults of its parameters left out. -/
def Description.FoundMethod.withoutDefaults (found : FoundMethod) : FoundMethod :=
  { found with function := found.function.withoutDefaults }

/-- The default has a text of its own, and that is not the text of a complex number with a part that no double is
    near to. -/
def Value.IsWritable (value : Value) : Prop :=
  ∃ shown, Hint.shownText value = .ok shown ∧ literalOf shown ≠ .error .overflow

namespace Description

section

variable {w : World} {f : Function} {found : FoundMethod} {reference : String} {p : FunctionParameter}

/-- An undecorated function loses no default that has a text. -/
theorem defaultText_undecorated (plain : f.wrapping = none) (declared : f.IsDeclared) (among : p ∈ f.parameters)
    (writable : ∀ value, p.default = some value → value.IsWritable) (reference : String) :
    ∃ text, defaultText f reference p = .ok text ∧ text.isSome = p.default.isSome := by
  cases isDefault : p.default with
  | none => exact ⟨none, by rw [defaultText, isDefault], rfl⟩
  | some value =>
    obtain ⟨shown, shows, noOverflow⟩ := writable value isDefault
    obtain ⟨slot, isKept, _⟩ := keptSlot?_undecorated plain declared among isDefault
    obtain ⟨literal, judged⟩ : ∃ literal, isLiteral shown value = .ok literal := by
      rw [isLiteral]
      cases denotes : literalOf shown with
      | ok parsed => exact ⟨_, rfl⟩
      | error fault =>
        rcases literalOf_refuses shown fault denotes with caught | rfl
        · exact ⟨false, if_pos caught⟩
        · exact absurd denotes noOverflow
    rw [defaultText, isDefault]
    dsimp only
    cases literal with
    | true => exact ⟨some shown, bind_eq_ok_iff.2 ⟨shown, shows, bind_eq_ok_iff.2 ⟨true, judged, rfl⟩⟩, rfl⟩
    | false =>
      refine ⟨some (reference ++ slot.text), bind_eq_ok_iff.2 ⟨shown, shows, bind_eq_ok_iff.2 ⟨false, judged, ?_⟩⟩, rfl⟩
      rw [storedDefault?_eq, isKept]
      rfl

theorem mem_of_mem_callerParameters (inside : p ∈ callerParameters found) : p ∈ found.function.parameters := by
  rw [callerParameters] at inside
  split at inside
  · exact inside
  · cases parameters : found.function.parameters with
    | nil =>
      rw [parameters] at inside
      exact inside
    | cons first rest =>
      rw [parameters, withoutReceiver] at inside
      split at inside
      · exact List.mem_cons_of_mem _ inside
      · exact inside

private theorem withoutReceiver_map : ∀ parameters : List FunctionParameter,
    withoutReceiver (parameters.map FunctionParameter.withoutDefault) =
      (withoutReceiver parameters).map FunctionParameter.withoutDefault
  | [] => rfl
  | first :: rest => by
    rw [List.map_cons, withoutReceiver, withoutReceiver, FunctionParameter.withoutDefault_mode]
    split <;> rfl

private theorem callerParameters_withoutDefaults (found : FoundMethod) :
    callerParameters found.withoutDefaults = (callerParameters found).map FunctionParameter.withoutDefault := by
  rw [callerParameters, callerParameters, FoundMethod.withoutDefaults, Function.withoutDefaults]
  dsimp only
  split
  · rfl
  · exact withoutReceiver_map _

/-- The declared types do not depend on the defaults. -/
private theorem hints_withoutDefaults (w : World) (f : Function) : w.hints f.withoutDefaults = w.hints f := by
  have written : Hint.written f.withoutDefaults = Hint.written f := by
    rw [Hint.written, Hint.written, Function.withoutDefaults, List.filterMap_map]
    rfl
  rw [World.hints, World.hints, World.lookedUpHints, World.lookedUpHints, written]
  rfl

private theorem parameterShape_alike {hints : List (String × Value)} {text : Option String}
    (made : defaultText f reference p = .ok text) :
    FailAlike (parameterShape f reference hints p)
      (parameterShape f.withoutDefaults reference hints p.withoutDefault) := by
  simp only [parameterShape, made, FunctionParameter.withoutDefault]
  cases (hints.lookup p.name).or p.hint with
  | none => exact .of_ok _ _
  | some written => exact .bind fun _ => .of_ok _ _

/-- A method whose defaults all have a text fails to be described just as it does without its defaults. -/
theorem methodShape_alike {subject : ClassName} (subjectName : String)
    (texts : ∀ p ∈ callerParameters found, ∃ text,
      defaultText found.function (subject.simple ++ "." ++ found.name) p = .ok text) :
    FailAlike (methodShape w subject subjectName found) (methodShape w subject subjectName found.withoutDefaults) := by
  refine .mapError ?_ _
  rw [bareMethodShape, bareMethodShape, callerParameters_withoutDefaults,
    show found.withoutDefaults.function = found.function.withoutDefaults from rfl, hints_withoutDefaults]
  refine .bind fun hints => .bind fun _ => .bind fun _ => .continued ?_ fun _ _ => .of_ok _ _
  refine .mapM fun p inside => ?_
  obtain ⟨text, made⟩ := texts p inside
  exact parameterShape_alike made

end

end Description

namespace World

variable {w : World} {subject : ClassName}

/-- A description holds the shapes of the methods, in order. -/
theorem describe_methods {isEnum : Bool} {shape : SubjectShape} (described : w.describe (.class subject isEnum) = .ok shape) :
    List.Forall₂ (fun found m => methodShape w subject subject.qualified found = .ok m) (methods w subject)
      shape.methods := by
  obtain ⟨below, top⟩ := describe_head described
  obtain ⟨_, found, _, mapped, rfl⟩ := (describe_ok_iff below top).1 described
  exact forall₂_of_mapM mapped

/-- The shape of a method holds the texts of the defaults of its parameters, in order. -/
theorem methodShape_defaults {subjectName : String} {found : FoundMethod} {m : MethodShape}
    (made : methodShape w subject subjectName found = .ok m) :
    List.Forall₂ (fun p q => defaultText found.function (subject.simple ++ "." ++ found.name) p = .ok q.default)
      (callerParameters found) m.parameters := by
  rw [methodShape, mapError_eq_ok_iff, bareMethodShape] at made
  obtain ⟨hints, _, made⟩ := bind_eq_ok_iff.1 made
  obtain ⟨_, _, made⟩ := bind_eq_ok_iff.1 made
  obtain ⟨_, _, made⟩ := bind_eq_ok_iff.1 made
  obtain ⟨parameters, mapped, made⟩ := bind_eq_ok_iff.1 made
  cases made
  refine (forall₂_of_mapM mapped).imp fun p q shaped => ?_
  rw [parameterShape] at shaped
  obtain ⟨text, isText, shaped⟩ := bind_eq_ok_iff.1 shaped
  dsimp only at shaped
  split at shaped
  · obtain ⟨_, _, shaped⟩ := bind_eq_ok_iff.1 shaped
    cases shaped
    exact isText
  · cases shaped
    exact isText

/-- Each default of a described method has a text that is read back as the default. No default of an undecorated
    method stands in the way of its description, unless it has no text, or the text of a complex number with a part
    that no double is near to. -/
theorem defaults_readBack (keeps : w.KeepsBuiltins) (isClass : IsPlainName subject.simple) :
    (∀ isEnum shape, w.describe (.class subject isEnum) = .ok shape →
      List.Forall₂ (fun found m => found.IsReadable w subject →
          List.Forall₂ (fun p q => ∀ value, p.default = some value →
              ∃ text, q.default = some text ∧ found.ReadsBack w subject value text)
            (callerParameters found) m.parameters)
        (methods w subject) shape.methods) ∧
    ∀ found ∈ methods w subject, found.function.wrapping = none → found.function.IsDeclared →
      (∀ p ∈ callerParameters found, ∀ value, p.default = some value → value.IsWritable) →
      (∀ p ∈ callerParameters found, ∃ text,
        defaultText found.function (subject.simple ++ "." ++ found.name) p = .ok text ∧
          text.isSome = p.default.isSome) ∧
      ∀ subjectName, FailAlike (methodShape w subject subjectName found)
        (methodShape w subject subjectName found.withoutDefaults) := by
  constructor
  · intro isEnum shape described
    refine ((List.forall₂_and_left _ _).2 ⟨fun found among => among, describe_methods described⟩).imp ?_
    rintro found m ⟨among, made⟩ readable
    refine ((List.forall₂_and_left _ _).2 ⟨fun p inside => inside, methodShape_defaults made⟩).imp ?_
    rintro p q ⟨inside, isText⟩ value isDefault
    exact defaultText_readsBack keeps isClass among readable (mem_of_mem_callerParameters inside) isDefault isText
  · intro found among plain declared writable
    have texts : ∀ p ∈ callerParameters found, ∃ text,
        defaultText found.function (subject.simple ++ "." ++ found.name) p = .ok text ∧
          text.isSome = p.default.isSome :=
      fun p inside => defaultText_undecorated plain declared (mem_of_mem_callerParameters inside) (writable p inside) _
    refine ⟨texts, fun subjectName => methodShape_alike subjectName fun p inside => ?_⟩
    obtain ⟨text, isText, _⟩ := texts p inside
    exact ⟨text, isText⟩

/-! ### An example -/

/-- A module that knows the class of prices. -/
def priceFrame : Frame := { kind := .module, scope := 1, globals := 1, module := "prices" }

/-- The store of that module. -/
def priceStore : Store :=
  { Store.start cheapWorld .raise Hint.firstPlace with
    entities := #[.object [], .scope [("PriceSubject", .ofClass ⟨"shop", "PriceSubject"⟩)]] }

theorem priceFrame_knows : priceFrame.Knows priceStore ⟨"shop", "PriceSubject"⟩ where
  subject := by
    have simple : ClassName.simple ⟨"shop", "PriceSubject"⟩ = "PriceSubject" := by decide
    have plain : priceStore.world.classValue ⟨"shop", "PriceSubject"⟩ = .ofClass ⟨"shop", "PriceSubject"⟩ := rfl
    rw [simple, plain, Frame.value, Frame.inside_notPrivate (by decide), if_neg (by decide)]
    rfl
  sets := by
    let names : List (String × Value) := [("PriceSubject", .ofClass ⟨"shop", "PriceSubject"⟩)]
    have kept : (Run.namesOf 1).start priceStore = (.ok names, priceStore) := rfl
    have absent : names.lookup "set" = none := rfl
    rw [Frame.value, Frame.inside_notPrivate (by decide), if_neg (by decide)]
    dsimp only [priceFrame]
    rw [Run.bind_ok kept, absent]
    dsimp only
    rw [Frame.globalValue, Run.bind_ok kept, absent]
    dsimp only
    rw [Library.knownName?_set]
    rfl

theorem isNear_readable : isNear.IsReadable cheapWorld ⟨"shop", "PriceSubject"⟩ where
  isName := ⟨by decide, by decide⟩
  noMember := rfl
  declared :=
    { distinct := by
        unfold Distinct
        decide
      places := by
        intro p inside _
        rcases List.mem_cons.1 inside with rfl | inside
        · exact .inl rfl
        · rw [List.mem_singleton.1 inside]
          exact .inl rfl
      few := Nat.lt_of_lt_of_le (show 1 < 10 by decide) (Nat.le_self_pow (by decide) 10) }

theorem infinite_isWritable : (Value.float 0 (.infinite false)).IsWritable := by
  have shown : Hint.shownText (.float 0 (.infinite false)) = .ok "inf" := by
    rw [Hint.shownText, Value.display]
    rfl
  have noNumber : literalOf "inf" = .error moreThanLiteral := by with_unfolding_all rfl
  exact ⟨"inf", shown, by rw [noNumber]; intro same; cases same⟩

/-- The default of the method is read back as the very object that the method keeps. -/
theorem isNear_readBack : cheapWorld.KeepsBuiltins ∧ IsPlainName (ClassName.simple ⟨"shop", "PriceSubject"⟩) ∧
    isNear.IsReadable cheapWorld ⟨"shop", "PriceSubject"⟩ ∧ isNear ∈ methods cheapWorld ⟨"shop", "PriceSubject"⟩ ∧
    priceFrame.Knows priceStore ⟨"shop", "PriceSubject"⟩ ∧
    (∃ given store', (engine.evaluateText priceFrame "PriceSubject.is_near.__defaults__[0]").start priceStore =
        (.ok given, store') ∧
      (given = .float 0 (.infinite false) ∨ given.isSame (.float 0 (.infinite false)) = true)) ∧
    ∀ subjectName, FailAlike (methodShape cheapWorld ⟨"shop", "PriceSubject"⟩ subjectName isNear)
      (methodShape cheapWorld ⟨"shop", "PriceSubject"⟩ subjectName isNear.withoutDefaults) := by
  have keeps : cheapWorld.KeepsBuiltins := by
    intro c among
    rcases List.mem_cons.1 among with rfl | among
    · decide
    · rw [List.mem_singleton.1 among]
      decide
  have isClass : IsPlainName (ClassName.simple ⟨"shop", "PriceSubject"⟩) := ⟨by decide, by decide⟩
  have among : isNear ∈ methods cheapWorld ⟨"shop", "PriceSubject"⟩ := by
    rw [price_methods]
    exact List.mem_singleton_self _
  have whole := defaults_readBack keeps isClass
  have readBack := whole.1 false _ price_described
  rw [price_methods] at readBack
  obtain ⟨parameters, _⟩ := List.forall₂_cons.1 readBack
  obtain ⟨within, _⟩ := List.forall₂_cons.1 (parameters isNear_readable)
  obtain ⟨text, isText, readsBack⟩ := within _ rfl
  cases isText
  obtain ⟨given, store', started, identical, _⟩ := readsBack engine priceFrame priceStore rfl rfl priceFrame_knows
    (Frame.inside_notPrivate (by decide) _)
  refine ⟨keeps, isClass, isNear_readable, among, priceFrame_knows, ⟨given, store', started, ?_⟩, ?_⟩
  · exact identical ⟨.byPlace 0, rfl, rfl⟩
  · refine (whole.2 isNear among rfl isNear_readable.declared ?_).2
    intro p inside value isDefault
    rw [show callerParameters isNear = [{ name := "within", default := some (.float 0 (.infinite false)) }] from rfl,
      List.mem_singleton] at inside
    rw [inside] at isDefault
    cases isDefault
    exact infinite_isWritable

end World

end EachSubject
