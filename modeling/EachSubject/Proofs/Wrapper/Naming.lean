import EachSubject.Emission
import EachSubject.Proofs.Outcome
import Mathlib.Data.List.Nodup
import Mathlib.Data.List.Perm.Subperm
import Std.Data.String.ToNat

/-!
# The names that an override chooses

A keyword-only parameter keeps its keyword, and the receiver is always called the same. All other names of an override
are looked for: a parameter gets underscores until its name is no keyword, and a variable gets a number until no
parameter has its name. Each search tries different names, so that it passes over at most as many as are taken. What
it finds are plain letters, digits and underscores, which nothing changes. No two names of an override are the same.
-/

namespace EachSubject

/-! ## Plain texts -/

/-- The text consists of plain letters, digits and underscores. -/
def IsPlain (text : String) : Prop := ∀ c ∈ text.toList, (c.isAlphanum || c == '_') = true

instance (text : String) : Decidable (IsPlain text) :=
  List.decidableBAll (fun c => (c.isAlphanum || c == '_') = true) text.toList

private theorem digits_only (n : Nat) : ∀ c ∈ (toString n).toList, c.isDigit = true := by
  intro c inside
  rw [show toString n = n.repr from rfl, Nat.repr_eq_ofList_toDigits, String.toList_ofList] at inside
  exact Nat.isDigit_of_mem_toDigits (by decide) (by decide) inside

namespace IsPlain

private theorem small {c : Char} (plain : (c.isAlphanum || c == '_') = true) : c.toNat < 128 := by
  rw [Bool.or_eq_true, beq_iff_eq] at plain
  rcases plain with letter | rfl
  · change ((decide ('A'.val ≤ c.val ∧ c.val ≤ 'Z'.val) || (decide ('a'.val ≤ c.val) && decide (c.val ≤ 'z'.val))) ||
      (decide ('0'.val ≤ c.val) && decide (c.val ≤ '9'.val))) = true at letter
    simp only [Bool.or_eq_true, Bool.and_eq_true, decide_eq_true_eq, UInt32.le_iff_toNat_le] at letter
    have upper : UInt32.toNat 'Z'.val = 90 := rfl
    have lower : UInt32.toNat 'z'.val = 122 := rfl
    have digit : UInt32.toNat '9'.val = 57 := rfl
    change c.val.toNat < 128
    omega
  · decide

/-- A plain text is already in its normal form. -/
theorem normalized {text : String} (plain : IsPlain text) : Text.normalized text = text := by
  refine if_pos (List.all_eq_true.2 fun c inside => ?_)
  exact decide_eq_true (small (plain c inside))

theorem append {text more : String} (plain : IsPlain text) (further : IsPlain more) :
    IsPlain (text ++ more) := by
  intro c inside
  rw [String.toList_append, List.mem_append] at inside
  exact inside.elim (plain c) (further c)

theorem number (n : Nat) : IsPlain (toString n) := by
  intro c inside
  simp [Char.isAlphanum, digits_only n c inside]

theorem underscores (count : Nat) : IsPlain (String.ofList (List.replicate count '_')) := by
  intro c inside
  rw [String.toList_ofList] at inside
  simp [List.eq_of_mem_replicate inside]

/-- A plain text is an identifier if its first character is a letter. -/
theorem isIdentifier {text : String} (plain : IsPlain text) {first : Char} {rest : List Char}
    (starts : text.toList = first :: rest) (letter : first.isAlpha = true) :
    Text.isIdentifier text = true := by
  rw [IsPlain, starts] at plain
  rw [Text.isIdentifier, starts, Text.isIdentifierChars, Bool.and_eq_true]
  refine ⟨by simp [Text.isIdentifierStart, letter], List.all_eq_true.2 fun c inside => ?_⟩
  have := plain c (List.mem_cons_of_mem first inside)
  simp only [Text.isIdentifierContinue, this, Bool.true_or]

end IsPlain

/-- A text that starts like no reserved word is none. -/
private theorem unreserved {text : String} {start rest : List Char} (starts : text.toList = start ++ rest)
    (unlike : ∀ word ∈ Text.reservedWords, word.toList.take start.length ≠ start) :
    Text.isReserved text = false := by
  rw [Text.isReserved, Bool.eq_false_iff]
  intro reserved
  exact unlike text (by simpa using reserved) (by rw [starts, List.take_left])

/-! ## Free names -/

/-- Different candidates are passed over until the first that is not taken. At most as many are passed over as there are
    taken names. -/
theorem firstFree_first {candidate : Nat → String} (different : Function.Injective candidate)
    (taken : List String) : ∃ k ≤ taken.length, firstFree candidate taken = candidate k ∧ candidate k ∉ taken ∧
      ∀ earlier < k, candidate earlier ∈ taken := by
  rw [firstFree]
  cases found : (List.range (taken.length + 1)).find? fun k => !taken.contains (candidate k) with
  | some k =>
    obtain ⟨free, within, before⟩ := List.find?_range_eq_some.1 found
    refine ⟨k, Nat.le_of_lt_succ (List.mem_range.1 within), rfl, by simpa using free, fun earlier less => ?_⟩
    simpa using before earlier less
  | none =>
    -- All candidates would be among the taken names, which are too few for them.
    have all : ∀ k ∈ List.range (taken.length + 1), candidate k ∈ taken := by
      simpa using List.find?_eq_none.1 found
    have among : (List.range (taken.length + 1)).map candidate ⊆ taken := by
      intro name inside
      obtain ⟨k, within, rfl⟩ := List.mem_map.1 inside
      exact all k within
    have fits := (List.subperm_of_subset (List.Nodup.map different List.nodup_range) among).length_le
    rw [List.length_map, List.length_range] at fits
    exact absurd fits (Nat.not_succ_le_self _)

/-- Among enough different candidates there is one that is not taken. -/
theorem firstFree_free {candidate : Nat → String} (different : Function.Injective candidate)
    (taken : List String) : firstFree candidate taken ∉ taken := by
  obtain ⟨k, _, same, free, _⟩ := firstFree_first different taken
  rwa [same]

theorem firstFree_mem (candidate : Nat → String) (taken : List String) :
    ∃ k, firstFree candidate taken = candidate k := ⟨_, rfl⟩

theorem argumentName_plain (index underscores : Nat) : IsPlain (argumentName index underscores) :=
  ((by decide : IsPlain "arg").append (.number index)).append (.underscores underscores)

theorem argumentName_chars (index underscores : Nat) : (argumentName index underscores).toList =
    ['a', 'r', 'g'] ++ ((toString index).toList ++ List.replicate underscores '_') := by
  simp [argumentName, String.toList_append]

/-- The names of parameters are names. -/
theorem argumentName_isName (index underscores : Nat) : Text.isName (argumentName index underscores) = true := by
  have starts := argumentName_chars index underscores
  rw [Text.isName, (argumentName_plain index underscores).isIdentifier starts (by decide),
    unreserved starts (by decide)]
  rfl

/-- The index and the number of underscores can be read back from the name of a parameter. -/
theorem argumentName_inj {index other underscores more : Nat} :
    argumentName index underscores = argumentName other more ↔ index = other ∧ underscores = more := by
  constructor
  · intro same
    have chars := congrArg String.toList same
    rw [argumentName_chars, argumentName_chars, List.append_cancel_left_eq] at chars
    have numbers := congrArg (List.filter Char.isDigit) chars
    have noDigits (count : Nat) : (List.replicate count '_').filter Char.isDigit = [] :=
      List.filter_eq_nil_iff.2 fun c inside => by rw [List.eq_of_mem_replicate inside]; decide
    rw [List.filter_append, List.filter_append, List.filter_eq_self.2 (digits_only index),
      List.filter_eq_self.2 (digits_only other), noDigits, noDigits, List.append_nil, List.append_nil] at numbers
    have sameIndex : index = other := Nat.repr_injective (String.toList_inj.1 numbers)
    subst sameIndex
    have lengths := congrArg List.length (List.append_cancel_left chars)
    simp only [List.length_replicate] at lengths
    exact ⟨rfl, lengths⟩
  · rintro ⟨rfl, rfl⟩
    rfl

theorem argumentName_injective (index : Nat) : Function.Injective (argumentName index) :=
  fun _ _ same => (argumentName_inj.1 same).2

theorem argumentName_ne_self (index underscores : Nat) : argumentName index underscores ≠ "self" := by
  intro same
  have chars := congrArg String.toList same
  rw [argumentName_chars] at chars
  cases chars

private theorem localName_chars (base : String) (k : Nat) :
    ∃ rest, (localName base k).toList = base.toList ++ rest := by
  cases k with
  | zero => exact ⟨[], (List.append_nil _).symm⟩
  | succ k => exact ⟨_, by rw [localName, String.append_assoc, String.toList_append]⟩

theorem localName_plain {base : String} (plain : IsPlain base) (k : Nat) : IsPlain (localName base k) := by
  cases k with
  | zero => exact plain
  | succ k => exact (plain.append (by decide)).append (.number _)

/-- The candidates for the name of a variable differ. -/
theorem localName_injective (base : String) : Function.Injective (localName base) := by
  have longer : ∀ k, localName base (k + 1) ≠ base := by
    intro k same
    have := congrArg String.length same
    have one : "_".length = 1 := rfl
    simp only [localName, String.length_append] at this
    omega
  intro k l same
  cases k with
  | zero =>
    cases l with
    | zero => rfl
    | succ l => exact absurd same.symm (longer l)
  | succ k =>
    cases l with
    | zero => exact absurd same (longer k)
    | succ l =>
      have numbers : toString (k + 1) = toString (l + 1) := by
        simpa [localName, ← String.toList_inj, String.toList_append] using same
      exact Nat.repr_injective numbers

theorem freeLocal_chars (base : String) (taken : List String) :
    ∃ rest, (freeLocal base taken).toList = base.toList ++ rest :=
  localName_chars base _

/-- The bases of the names of variables. -/
def localBases : List String := ["item", "subject"]

section

variable {base : String} (isBase : base ∈ localBases) (taken : List String)
include isBase

theorem freeLocal_plain : IsPlain (freeLocal base taken) :=
  localName_plain ((by decide : ∀ base ∈ localBases, IsPlain base) base isBase) _

/-- The names of variables are names. -/
theorem freeLocal_isName : Text.isName (freeLocal base taken) = true := by
  obtain ⟨rest, starts⟩ := freeLocal_chars base taken
  have unlike := (by decide : ∀ base ∈ localBases, ∀ word ∈ Text.reservedWords,
    word.toList.take base.toList.length ≠ base.toList) base isBase
  obtain ⟨first, more, begins, letter⟩ : ∃ first more, base.toList = first :: more ∧ first.isAlpha = true := by
    rcases List.mem_cons.1 isBase with rfl | isBase
    · exact ⟨_, _, rfl, by decide⟩
    · rw [List.mem_singleton.1 isBase]
      exact ⟨_, _, rfl, by decide⟩
  rw [Text.isName, (freeLocal_plain isBase taken).isIdentifier (by rw [starts, begins]; rfl) letter,
    unreserved starts unlike]
  rfl

/-- A variable starts with a letter. -/
theorem freeLocal_letter : ∃ c rest, (freeLocal base taken).toList = c :: rest ∧ c ≠ '_' := by
  obtain ⟨rest, starts⟩ := freeLocal_chars base taken
  rcases List.mem_cons.1 isBase with rfl | isBase
  · exact ⟨_, _, starts, by decide⟩
  · cases List.mem_singleton.1 isBase
    exact ⟨_, _, starts, by decide⟩

/-- No variable is called like a word that starts otherwise. -/
theorem freeLocal_ne_word {word : String} (unlike : word ∈ ["match", "self"]) : freeLocal base taken ≠ word := by
  intro same
  obtain ⟨rest, starts⟩ := freeLocal_chars base taken
  have unlike := (by decide : ∀ word ∈ ["match", "self"], ∀ base ∈ localBases,
    word.toList.take base.toList.length ≠ base.toList) word unlike base isBase
  rw [same] at starts
  exact unlike (by rw [starts, List.take_left])

end

/-- No parameter has the name of a variable. -/
theorem freeLocal_free (base : String) (taken : List String) : freeLocal base taken ∉ taken :=
  firstFree_free (localName_injective base) taken

/-- The two variables have different names. -/
theorem freeLocal_ne (taken : List String) : freeLocal "item" taken ≠ freeLocal "subject" taken := by
  intro same
  obtain ⟨rest, item⟩ := freeLocal_chars "item" taken
  obtain ⟨more, subject⟩ := freeLocal_chars "subject" taken
  rw [same, subject] at item
  cases item

/-! ## Searches -/

/-- A loop goes on to the next state as long as a test holds. From a state it ends in another after so many rounds. -/
inductive LoopEnds {State : Type} (test : State → Prop) (next : State → State) : Nat → State → State → Prop where
  | stop {state : State} (fails : ¬test state) : LoopEnds test next 0 state state
  | round {rounds : Nat} {state last : State} (holds : test state)
      (further : LoopEnds test next rounds (next state) last) : LoopEnds test next (rounds + 1) state last

/-- A loop that goes through states one by one ends in the first in which the test fails. -/
theorem LoopEnds.of_states {State : Type} {test : State → Prop} {next : State → State} (states : Nat → State)
    (moves : ∀ k, next (states k) = states (k + 1)) {rounds : Nat} (holds : ∀ k < rounds, test (states k))
    (fails : ¬test (states rounds)) : LoopEnds test next rounds (states 0) (states rounds) := by
  induction rounds generalizing states with
  | zero => exact .stop fails
  | succ rounds ih =>
    refine .round (holds 0 (Nat.succ_pos rounds)) ?_
    rw [moves]
    exact ih (fun k => states (k + 1)) (fun k => moves (k + 1)) (fun k less => holds (k + 1) (Nat.succ_lt_succ less))
      fails

/-- The search for the name of a parameter ends, whatever the keywords are. -/
theorem underscores_end (index : Nat) (keywords : List String) : ∃ rounds ≤ keywords.length,
    LoopEnds (· ∈ keywords) (· ++ "_") rounds ("arg" ++ toString index) (firstFree (argumentName index) keywords) := by
  obtain ⟨rounds, few, same, free, before⟩ := firstFree_first (argumentName_injective index) keywords
  have start : argumentName index 0 = "arg" ++ toString index := by
    simp [argumentName]
  have moves (k : Nat) : argumentName index k ++ "_" = argumentName index (k + 1) := by
    simp [argumentName, String.append_assoc, List.replicate_succ']
  refine ⟨rounds, few, ?_⟩
  rw [same, ← start]
  exact .of_states (argumentName index) moves before free

/-- The search for the name of a variable ends, whatever names are taken. -/
theorem numbers_end (base : String) (taken : List String) : ∃ rounds ≤ taken.length,
    LoopEnds (fun tried => tried.1 ∈ taken) (fun tried => (base ++ "_" ++ toString tried.2, tried.2 + 1)) rounds
      (base, 1) (freeLocal base taken, rounds + 1) := by
  obtain ⟨rounds, few, same, free, before⟩ := firstFree_first (localName_injective base) taken
  refine ⟨rounds, few, ?_⟩
  rw [freeLocal, same]
  -- A state is the name that is tried next, and the number for the name behind it.
  exact .of_states (fun k => (localName base k, k + 1)) (fun _ => rfl) before free

/-! ## Parameters -/

namespace MethodShape

/-- The name that is chosen for a parameter. -/
def chosenName (keywords : List String) (index : Nat) (p : ParameterShape) : String :=
  if p.kind = .keywordOnly then p.keyword.getD "" else firstFree (argumentName index) keywords

/-- The parameter can be declared, as far as it alone tells. -/
structure IsDeclarable (p : ParameterShape) : Prop where
  typed : p.annotations ≠ [] → p.typeText ≠ none
  keyword : p.kind = .keywordOnly → ∃ keyword, p.keyword = some keyword ∧ Text.isName keyword = true
  default : p.kind.isVariadic = true → p.default = none

section

variable {keywords : List String} {index : Nat}

/-- A keyword-only parameter that can be declared keeps its keyword. -/
theorem chosenName_keyword (keywords : List String) (index : Nat) {p : ParameterShape} (declarable : IsDeclarable p)
    (keywordOnly : p.kind = .keywordOnly) : p.keyword = some (chosenName keywords index p) ∧
      Text.isName (chosenName keywords index p) = true := by
  obtain ⟨keyword, given, isName⟩ := declarable.keyword keywordOnly
  rw [chosenName, if_pos keywordOnly, given]
  exact ⟨rfl, isName⟩

theorem chosenName_other (keywords : List String) (index : Nat) {p : ParameterShape} (other : p.kind ≠ .keywordOnly) :
    chosenName keywords index p = firstFree (argumentName index) keywords :=
  if_neg other

theorem parameterName_eq_ok_iff {p : ParameterShape} {name : String} :
    parameterName keywords index p = .ok name ↔
      (p.kind = .keywordOnly → ∃ keyword, p.keyword = some keyword ∧ Text.isName keyword = true) ∧
        name = chosenName keywords index p := by
  rw [parameterName, chosenName]
  by_cases keywordOnly : p.kind = .keywordOnly
  · rw [if_pos keywordOnly, if_pos keywordOnly]
    cases given : p.keyword with
    | none => simp [keywordOnly]
    | some keyword =>
      rw [Option.filter_some]
      by_cases isName : Text.isName keyword = true
      · rw [if_pos isName]
        constructor
        · intro same
          cases same
          exact ⟨fun _ => ⟨_, rfl, isName⟩, rfl⟩
        · rintro ⟨_, rfl⟩
          rfl
      · rw [if_neg isName]
        constructor
        · intro impossible
          cases impossible
        · rintro ⟨named, _⟩
          obtain ⟨_, same, isName'⟩ := named keywordOnly
          cases same
          exact absurd isName' isName
  · rw [if_neg keywordOnly, if_neg keywordOnly]
    constructor
    · intro same
      cases same
      exact ⟨fun only => absurd only keywordOnly, rfl⟩
    · rintro ⟨_, rfl⟩
      rfl

theorem parameter_eq_ok_iff {p : ParameterShape} {q : Wrapper.Parameter} :
    parameter keywords index p = .ok q ↔ IsDeclarable p ∧
      q = { name := chosenName keywords index p, typeText := p.typeText, annotations := p.annotations, kind := p.kind
            default := p.default } := by
  rw [parameter]
  constructor
  · intro made
    obtain ⟨typed, made⟩ := checked_eq_ok_iff.1 made
    obtain ⟨name, named, made⟩ := bind_eq_ok_iff.1 made
    obtain ⟨keyword, rfl⟩ := parameterName_eq_ok_iff.1 named
    obtain ⟨plain, made⟩ := checked_eq_ok_iff.1 made
    cases made
    refine ⟨⟨fun annotated untyped => typed (by simp [annotated, untyped]), keyword, fun variadic => ?_⟩, rfl⟩
    simpa [variadic] using plain
  · rintro ⟨declarable, rfl⟩
    have named : parameterName keywords index p = .ok (chosenName keywords index p) :=
      parameterName_eq_ok_iff.2 ⟨declarable.keyword, rfl⟩
    refine checked_eq_ok_iff.2 ⟨by simpa using declarable.typed, bind_eq_ok_iff.2 ⟨_, named, ?_⟩⟩
    refine checked_eq_ok_iff.2 ⟨fun both => ?_, rfl⟩
    rw [Bool.and_eq_true] at both
    rw [declarable.default both.2] at both
    cases both.1

/-- A named parameter keeps what its shape declares, and its name is a name. -/
structure Names (keywords : List String) (p : ParameterShape) (q : Wrapper.Parameter) : Prop where
  typeText : q.typeText = p.typeText
  annotations : q.annotations = p.annotations
  kind : q.kind = p.kind
  default : q.default = p.default
  variadic : q.kind.isVariadic = true → q.default = none
  isName : Text.isName q.name = true
  /-- A keyword-only parameter keeps its keyword, any other is called after an index. -/
  name : if q.kind = .keywordOnly then p.keyword = some q.name
    else ∃ index, q.name = firstFree (argumentName index) keywords

theorem parameter_names {p : ParameterShape} {q : Wrapper.Parameter} (made : parameter keywords index p = .ok q) :
    Names keywords p q := by
  obtain ⟨declarable, rfl⟩ := parameter_eq_ok_iff.1 made
  by_cases keywordOnly : p.kind = .keywordOnly
  · obtain ⟨kept, isName⟩ := chosenName_keyword keywords index declarable keywordOnly
    refine ⟨rfl, rfl, rfl, rfl, declarable.default, isName, ?_⟩
    rwa [if_pos keywordOnly]
  · have made := chosenName_other keywords index keywordOnly
    obtain ⟨underscores, same⟩ := firstFree_mem (argumentName index) keywords
    refine ⟨rfl, rfl, rfl, rfl, declarable.default, ?_, ?_⟩
    · rw [made, same]
      exact argumentName_isName index underscores
    · rw [if_neg keywordOnly]
      exact ⟨index, made⟩

end

theorem parametersFrom_names {keywords : List String} : ∀ {shapes : List ParameterShape} {index : Nat}
    {parameters : List Wrapper.Parameter}, parametersFrom keywords index shapes = .ok parameters →
      List.Forall₂ (Names keywords) shapes parameters
  | [], _, _, made => by
    cases made
    exact .nil
  | p :: shapes, index, _, made => by
    rw [parametersFrom] at made
    obtain ⟨q, first, made⟩ := bind_eq_ok_iff.1 made
    obtain ⟨parameters, others, made⟩ := bind_eq_ok_iff.1 made
    cases made
    exact .cons (parameter_names first) (parametersFrom_names others)

/-- The parameters are made one by one, each at its index. -/
theorem parametersFrom_made {keywords : List String} : ∀ {shapes : List ParameterShape} {start : Nat}
    {chosen : List Wrapper.Parameter}, parametersFrom keywords start shapes = .ok chosen →
      ∀ index p, shapes[index]? = some p →
        ∃ q, chosen[index]? = some q ∧ parameter keywords (start + index) p = .ok q
  | [], _, _, _, _, _, found => by cases found
  | first :: rest, start, _, made, index, p, found => by
    rw [parametersFrom] at made
    obtain ⟨q, head, made⟩ := bind_eq_ok_iff.1 made
    obtain ⟨others, behind, made⟩ := bind_eq_ok_iff.1 made
    cases made
    cases index with
    | zero =>
      cases found
      exact ⟨q, rfl, head⟩
    | succ index =>
      obtain ⟨other, stands, made⟩ := parametersFrom_made behind index p found
      exact ⟨other, stands, by rwa [Nat.add_assoc, Nat.add_comm 1] at made⟩

/-! ## Clashes -/

theorem mem_clashes_iff {names : List String} {name : String} :
    name ∈ clashes names ↔ name ∈ names ∧ (1 < names.count name ∨ name = "self") := by
  simp [clashes, boundNames]

/-- No names clash just if they differ from each other and from that of the receiver. -/
theorem clashes_eq_nil_iff {names : List String} : clashes names = [] ↔ names.Nodup ∧ "self" ∉ names := by
  rw [List.eq_nil_iff_forall_not_mem, List.nodup_iff_count_le_one]
  simp only [mem_clashes_iff, not_and, not_or, Nat.not_lt]
  constructor
  · intro clear
    refine ⟨fun name => ?_, fun receiver => (clear "self" receiver).2 rfl⟩
    by_cases among : name ∈ names
    · exact (clear name among).1
    · rw [List.count_eq_zero.2 among]
      exact Nat.zero_le 1
  · rintro ⟨once, free⟩ name among
    exact ⟨once name, fun same => free (same ▸ among)⟩

/-! ## Overrides -/

/-- A method has an override just if its name is a name, and its parameters can be made, stand in order and have names
    that do not clash. -/
theorem override_eq_ok_iff {m : MethodShape} {s : SubjectShape} {o : Wrapper.Override} : m.override s = .ok o ↔
    Text.isName m.name = true ∧ ∃ parameters, parametersFrom m.keywords 0 m.parameters = .ok parameters ∧
      checkOrder 0 none false m.parameters = .ok () ∧ clashes (parameters.map (·.name)) = [] ∧
      o = { name := m.name, subjectType := s.simpleName, targetType := s.target, visibility := m.visibility
            returns := m.returns, parameters, isAsync := m.isAsync
            itemLocal := freeLocal "item" (parameters.map (·.name))
            subjectLocal := freeLocal "subject" (parameters.map (·.name)) } := by
  rw [MethodShape.override]
  constructor
  · intro made
    obtain ⟨isName, made⟩ := checked_eq_ok_iff.1 made
    obtain ⟨parameters, named, made⟩ := bind_eq_ok_iff.1 made
    obtain ⟨_, ordered, made⟩ := bind_eq_ok_iff.1 made
    obtain ⟨clear, made⟩ := checked_eq_ok_iff.1 made
    cases made
    exact ⟨by simpa using isName, parameters, named, ordered, by simpa using clear, rfl⟩
  · rintro ⟨isName, parameters, named, ordered, clear, rfl⟩
    refine checked_eq_ok_iff.2 ⟨by simp [isName], bind_eq_ok_iff.2 ⟨parameters, named, ?_⟩⟩
    exact bind_eq_ok_iff.2 ⟨(), ordered, checked_eq_ok_iff.2 ⟨by simp [clear], rfl⟩⟩

/-- What the override of a method is made of. -/
theorem override_ok {m : MethodShape} {s : SubjectShape} {o : Wrapper.Override} (made : m.override s = .ok o) :
    Text.isName m.name = true ∧ ∃ parameters, List.Forall₂ (Names m.keywords) m.parameters parameters ∧
      checkOrder 0 none false m.parameters = .ok () ∧
      o = { name := m.name, subjectType := s.simpleName, targetType := s.target, visibility := m.visibility
            returns := m.returns, parameters, isAsync := m.isAsync
            itemLocal := freeLocal "item" (parameters.map (·.name))
            subjectLocal := freeLocal "subject" (parameters.map (·.name)) } := by
  obtain ⟨isName, parameters, named, ordered, _, same⟩ := override_eq_ok_iff.1 made
  exact ⟨isName, parameters, parametersFrom_names named, ordered, same⟩

end MethodShape

/-- How a parameter is called that stands at an index: by its keyword, or by the index with the fewest underscores that
    keep it clear of all keywords. -/
inductive ParameterShape.IsCalled (keywords : List String) (index : Nat) (p : ParameterShape) (name : String) :
    Prop where
  | keyword (keywordOnly : p.kind = .keywordOnly) (kept : p.keyword = some name)
  | made {underscores : Nat} (other : p.kind ≠ .keywordOnly)
      (same : name = "arg" ++ toString index ++ String.ofList (List.replicate underscores '_'))
      (free : name ∉ keywords)
      (least : ∀ fewer < underscores, "arg" ++ toString index ++ String.ofList (List.replicate fewer '_') ∈ keywords)

/-- How a variable is called next to parameters: by its base, or by the base with the least number that keeps it clear
    of them. -/
inductive IsVariable (base : String) (parameters : List String) (name : String) : Prop where
  | base (unused : base ∉ parameters) (same : name = base)
  | numbered {number : Nat} (used : base ∈ parameters) (positive : 1 ≤ number)
      (same : name = base ++ "_" ++ toString number) (free : name ∉ parameters)
      (least : ∀ smaller, 1 ≤ smaller → smaller < number → base ++ "_" ++ toString smaller ∈ parameters)

/-- The names in an override of a method are those of its parameters, of the receiver and of two variables. -/
structure Wrapper.Override.NamesApart (o : Wrapper.Override) (m : MethodShape) : Prop where
  different : (o.parameters.map (·.name) ++ ["self", o.itemLocal, o.subjectLocal]).Nodup
  count : o.parameters.length = m.parameters.length
  parameters : ∀ (index : Nat) (p : ParameterShape), m.parameters[index]? = some p →
    ∃ q, o.parameters[index]? = some q ∧ q.kind = p.kind ∧ p.IsCalled m.keywords index q.name
  item : IsVariable "item" (o.parameters.map (·.name)) o.itemLocal
  subject : IsVariable "subject" (o.parameters.map (·.name)) o.subjectLocal

/-- A parameter that can be declared is called by the name that is chosen for it. -/
private theorem chosenName_isCalled {keywords : List String} {index : Nat} {p : ParameterShape}
    (declarable : MethodShape.IsDeclarable p) :
    p.IsCalled keywords index (MethodShape.chosenName keywords index p) := by
  by_cases keywordOnly : p.kind = .keywordOnly
  · exact .keyword keywordOnly (MethodShape.chosenName_keyword keywords index declarable keywordOnly).1
  · obtain ⟨underscores, _, same, free, before⟩ := firstFree_first (argumentName_injective index) keywords
    rw [MethodShape.chosenName_other keywords index keywordOnly, same]
    exact .made keywordOnly rfl free before

private theorem freeLocal_isVariable (base : String) (taken : List String) :
    IsVariable base taken (freeLocal base taken) := by
  obtain ⟨k, _, same, free, before⟩ := firstFree_first (localName_injective base) taken
  rw [freeLocal, same]
  cases k with
  | zero => exact .base free rfl
  | succ k =>
    refine .numbered (before 0 (Nat.succ_pos k)) (Nat.succ_pos k) rfl free fun smaller positive less => ?_
    obtain ⟨j, rfl⟩ := Nat.exists_eq_add_of_le' positive
    exact before (j + 1) less

/-- The two variables differ from each other, from the receiver and from names that differ from each other and from the
    receiver. -/
private theorem names_nodup {names : List String} (different : names.Nodup) (receiver : "self" ∉ names) :
    (names ++ ["self", freeLocal "item" names, freeLocal "subject" names]).Nodup := by
  have item : "self" ≠ freeLocal "item" names := (freeLocal_ne_word (by decide) names (by decide)).symm
  have subject : "self" ≠ freeLocal "subject" names := (freeLocal_ne_word (by decide) names (by decide)).symm
  refine List.nodup_append.2 ⟨different, ?_, fun name among other => ?_⟩
  · simp [item, subject, freeLocal_ne names]
  · intro isOther same
    subst same
    simp only [List.mem_cons, List.not_mem_nil, or_false] at isOther
    rcases isOther with rfl | rfl | rfl
    · exact receiver among
    · exact freeLocal_free "item" names among
    · exact freeLocal_free "subject" names among

/-- The names in every override differ from each other. Keywords are kept, and all other names have the fewest
    underscores or the least number behind them that keeps them apart. The searches for these names try one after
    another, and end for all keywords and all taken names. -/
theorem override_namesApart :
    (∀ (m : MethodShape) (s : SubjectShape) (o : Wrapper.Override), m.override s = .ok o → o.NamesApart m) ∧
    (∀ (index : Nat) (keywords : List String), ∃ rounds ≤ keywords.length,
      LoopEnds (· ∈ keywords) (· ++ "_") rounds ("arg" ++ toString index)
        (firstFree (argumentName index) keywords)) ∧
    ∀ (base : String) (taken : List String), ∃ rounds ≤ taken.length,
      LoopEnds (fun tried => tried.1 ∈ taken) (fun tried => (base ++ "_" ++ toString tried.2, tried.2 + 1)) rounds
        (base, 1) (freeLocal base taken, rounds + 1) := by
  refine ⟨fun m s o made => ?_, underscores_end, numbers_end⟩
  obtain ⟨_, parameters, named, _, clear, rfl⟩ := MethodShape.override_eq_ok_iff.1 made
  obtain ⟨different, receiver⟩ := MethodShape.clashes_eq_nil_iff.1 clear
  refine ⟨names_nodup different receiver, ?_, fun index p found => ?_, freeLocal_isVariable _ _,
    freeLocal_isVariable _ _⟩
  · exact (MethodShape.parametersFrom_names named).length_eq.symm
  · obtain ⟨q, stands, made⟩ := MethodShape.parametersFrom_made named index p found
    rw [Nat.zero_add] at made
    obtain ⟨declarable, rfl⟩ := MethodShape.parameter_eq_ok_iff.1 made
    exact ⟨_, stands, rfl, chosenName_isCalled declarable⟩

/-- The keywords are names that would be made up for the first parameter and for the variables. -/
def crowdedMethod : MethodShape where
  name := "check"
  owner := "shop.PriceSubject"
  visibility := .everyone
  returns := none
  parameters := [⟨some "str", [], .positional, none, none⟩, ⟨none, [], .extraPositional, none, none⟩,
    ⟨none, [], .keywordOnly, some "item", none⟩, ⟨none, [], .keywordOnly, some "subject", none⟩,
    ⟨none, [], .keywordOnly, some "arg0", some "0"⟩, ⟨none, [], .keywordOnly, some "arg0_", none⟩,
    ⟨none, [], .keywordOnly, some "item_1", none⟩, ⟨none, [], .extraKeyword, none, none⟩]
  isFinal := false
  isPrivate := false
  isStatic := false
  isAsync := false
  isGenerator := false

def crowdedShape : SubjectShape where
  package := "shop"
  simpleName := "PriceSubject"
  target := "int"
  methods := [crowdedMethod]

def crowdedOverride : Wrapper.Override where
  name := "check"
  subjectType := "PriceSubject"
  targetType := "int"
  parameters := [{ name := "arg0__", typeText := some "str" }, { name := "arg1", kind := .extraPositional },
    { name := "item", kind := .keywordOnly }, { name := "subject", kind := .keywordOnly },
    { name := "arg0", kind := .keywordOnly, default := some "0" }, { name := "arg0_", kind := .keywordOnly },
    { name := "item_1", kind := .keywordOnly }, { name := "arg7", kind := .extraKeyword }]
  itemLocal := "item_2"
  subjectLocal := "subject_1"

theorem crowded_namesApart : crowdedMethod.override crowdedShape = .ok crowdedOverride ∧
    crowdedOverride.NamesApart crowdedMethod ∧
    ∃ rounds ≤ 2, LoopEnds (· ∈ ["arg0", "arg0_"]) (· ++ "_") rounds "arg0" "arg0__" := by
  have made : crowdedMethod.override crowdedShape = .ok crowdedOverride := eq_ok_of_toOption (by decide +kernel)
  obtain ⟨named, underscores, _⟩ := override_namesApart
  exact ⟨made, named crowdedMethod crowdedShape crowdedOverride made, underscores 0 ["arg0", "arg0_"]⟩

end EachSubject
