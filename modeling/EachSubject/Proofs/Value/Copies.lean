import EachSubject.Value.Table
import Mathlib.Data.List.Basic
import Mathlib.Data.List.Perm.Basic

/-!
# Data made anew

What is made from a literal while running holds the same data as the literal denotes, at places of its own.
`Copies` says so, and in which range the places of tuples lie: tuples are what sets and dictionaries tell apart by
their places. Data made one after the other has ranges one after the other, so of two tuples neither is taken for the
other, and what is equal among the copies is what is equal among the originals. However the slots of its table are
filled, a set holds the items that were put into it, each as often as it was: its own order, and that of a copy, are
permutations of the order in which they were added.
-/

/-! ## The items of a set -/

namespace EachSubject.Value

namespace Table

variable {t : Table}

theorem search?_isFree {rest index fuel found : Nat} (searched : t.search? rest index fuel = some found) :
    t.isFree found = true := by
  fun_induction search? t rest index fuel with
  | case1 => cases searched
  | case2 rest index fuel count free here =>
    cases searched
    exact List.find?_some here
  | case3 rest index fuel count here further => exact further searched

/-- A free slot that is filled gives one more entry. -/
private theorem entries_set {index : Nat} (free : t.isFree index = true) (entry : Nat × Value) :
    (entries (t.setIfInBounds index (some entry))).Perm (entry :: t.entries) := by
  have slot : t.toList[index]? = some Option.none := by
    rw [isFree] at free
    split at free
    · rename_i found
      rw [Array.getElem?_toList, found]
    · cases free
  obtain ⟨bound, here⟩ := List.getElem?_eq_some_iff.1 slot
  have around : t.toList = t.toList.take index ++ Option.none :: t.toList.drop (index + 1) := by
    rw [← here, List.getElem_cons_drop, List.take_append_drop]
  have filled : (t.setIfInBounds index (some entry)).toList =
      t.toList.take index ++ some entry :: t.toList.drop (index + 1) := by
    rw [Array.toList_setIfInBounds, List.set_eq_take_append_cons_drop, if_pos bound]
  have before : t.entries = (t.toList.take index).filterMap id ++ (t.toList.drop (index + 1)).filterMap id := by
    rw [entries, around]
    simp [← around]
  have after : entries (t.setIfInBounds index (some entry)) =
      (t.toList.take index).filterMap id ++ entry :: (t.toList.drop (index + 1)).filterMap id := by
    rw [entries, filled]
    simp
  rw [before, after]
  exact List.perm_middle

/-- Nothing is lost when an item is added. -/
theorem entries_put (number : Nat) (item : Value) :
    (t.put number item).entries.Perm ((number, item) :: t.entries) := by
  rw [put]
  split
  · rename_i index found
    exact entries_set (search?_isFree found) _
  · simp [entries]

@[simp] theorem entries_empty (size : Nat) : (empty size).entries = [] := by simp [empty, entries]

private theorem entries_foldl_put (more : List (Nat × Value)) (t : Table) :
    (more.foldl (fun t (number, item) => t.put number item) t).entries.Perm (more ++ t.entries) := by
  induction more generalizing t with
  | nil => rfl
  | cons entry more further =>
    refine (further _).trans ?_
    exact ((entries_put entry.1 entry.2).append_left more).trans List.perm_middle

theorem entries_moved (size : Nat) : (t.moved size).entries.Perm t.entries := by
  have placed := entries_foldl_put t.entries (empty size)
  rwa [entries_empty, List.append_nil] at placed

theorem entries_add (used number : Nat) (item : Value) :
    (t.add used number item).entries.Perm ((number, item) :: t.entries) := by
  rw [add]
  split
  · exact entries_put number item
  · exact (entries_moved _).trans (entries_put number item)

theorem entries_addAll (more : List (Nat × Value)) (t : Table) (used : Nat) :
    (t.addAll used more).entries.Perm (more ++ t.entries) := by
  induction more generalizing t used with
  | nil => rfl
  | cons entry more further =>
    refine (further _ _).trans ?_
    exact ((entries_add _ entry.1 entry.2).append_left more).trans List.perm_middle

private theorem entries_resized (size : Nat) :
    (entries (if size = t.size then t else t.moved size)).Perm t.entries := by
  split
  · rfl
  · exact entries_moved size

theorem entries_copied : t.copied.entries.Perm t.entries := entries_resized _

private theorem length_ofAll? : ∀ {items : List Value} {numbers : List Int},
    Hash.ofAll? items = some numbers → numbers.length = items.length
  | [], _, found => by
    cases found
    rfl
  | value :: rest, numbers, found => by
    rw [Hash.ofAll?] at found
    split at found
    · rename_i _ others
      cases found
      simp [length_ofAll? others]
    · cases found

/-- The table of a set holds its items. -/
theorem items_ofItems? {items : List Value} (found : ofItems? items = some t) :
    (t.entries.map (·.2)).Perm items := by
  rw [ofItems?, Option.map_eq_some_iff] at found
  obtain ⟨numbers, numbered, rfl⟩ := found
  have added := (entries_addAll ((numbers.map Hash.unsigned).zip items) (empty leastSize) 0).map (·.2)
  rw [entries_empty, List.append_nil, List.map_snd_zip (by simp [length_ofAll? numbered])] at added
  exact added

end Table

theorem inSetOrder_perm (items : List Value) : (inSetOrder items).Perm items := by
  rw [inSetOrder]
  split
  · rename_i t found
    exact Table.items_ofItems? found
  · rfl

theorem inCopyOrder_perm (items : List Value) : (inCopyOrder items).Perm items := by
  rw [inCopyOrder]
  split
  · rename_i t found
    exact (Table.entries_copied.map (·.2)).trans (Table.items_ofItems? found)
  · rfl

end EachSubject.Value

/-! ## Copies -/

namespace EachSubject

theorem Double.compare?_self {x : Double} (isNumber : x.isNan = false) : x.compare? x = some .eq := by
  cases x with
  | finite negative mantissa exponent =>
    have finite := toRatio?_isSome (.finite negative mantissa exponent)
    rw [isFinite, Option.isSome_iff_exists] at finite
    obtain ⟨⟨num, den⟩, ratio⟩ := finite
    simp [compare?, ratio]
  | infinite negative => cases negative <;> rfl
  | nan => cases isNumber

namespace Value

mutual

/-- The value holds the data of the first one, which was made nowhere in particular; the places of tuples are from
    `first` on and before `last`. -/
inductive Copies : Nat → Nat → Value → Value → Prop
  | none {first last : Nat} : Copies first last .none .none
  | bool {first last : Nat} (value : Bool) : Copies first last (.bool value) (.bool value)
  | ellipsis {first last : Nat} : Copies first last .ellipsis .ellipsis
  | int {first last : Nat} (place : Nat) (value : Int) : Copies first last (.int 0 value) (.int place value)
  | float {first last : Nat} (place : Nat) {value : Double} (isNumber : value.isNan = false) :
      Copies first last (.float 0 value) (.float place value)
  | complex {first last : Nat} (place : Nat) {re im : Double} (isReal : re.isNan = false)
      (isImaginary : im.isNan = false) : Copies first last (.complex 0 re im) (.complex place re im)
  | text {first last : Nat} (place : Nat) (value : String) : Copies first last (.text 0 value) (.text place value)
  | bytes {first last : Nat} (place : Nat) (value : List UInt8) :
      Copies first last (.bytes 0 value) (.bytes place value)
  | emptyTuple {first last : Nat} : Copies first last (.tuple 0 []) (.tuple 0 [])
  | tuple {first last place : Nat} {items copies : List Value} (notBefore : first ≤ place) (before : place < last)
      (all : CopiesAll first last items copies) : Copies first last (.tuple 0 items) (.tuple place copies)
  | list {first last : Nat} (place : Nat) {items copies : List Value} (all : CopiesAll first last items copies) :
      Copies first last (.list 0 items) (.list place copies)
  | set {first last : Nat} (place : Nat) {items copies found : List Value}
      (all : CopiesAll first last items copies) (order : found.Perm copies) :
      Copies first last (.set 0 items) (.set place found)
  | dict {first last : Nat} (place : Nat) {entries copies : List (Value × Value)}
      (all : CopiesEntries first last entries copies) : Copies first last (.dict 0 entries) (.dict place copies)

/-- The values hold the data of the first ones, and were made one after the other. -/
inductive CopiesAll : Nat → Nat → List Value → List Value → Prop
  | nil {first last : Nat} (ordered : first ≤ last) : CopiesAll first last [] []
  | cons {first next last : Nat} {value copy : Value} {values copies : List Value} (ordered : first ≤ next)
      (head : Copies first next value copy) (tail : CopiesAll next last values copies) :
      CopiesAll first last (value :: values) (copy :: copies)

/-- The same for entries, whose keys were made one after the other. -/
inductive CopiesEntries : Nat → Nat → List (Value × Value) → List (Value × Value) → Prop
  | nil {first last : Nat} (ordered : first ≤ last) : CopiesEntries first last [] []
  | cons {first next last low high : Nat} {key keyCopy value copy : Value} {entries copies : List (Value × Value)}
      (ordered : first ≤ next) (left : Copies first next key keyCopy) (right : Copies low high value copy)
      (tail : CopiesEntries next last entries copies) :
      CopiesEntries first last ((key, value) :: entries) ((keyCopy, copy) :: copies)

end

variable {first last : Nat} {value copy other : Value} {values copies others : List Value}

/-! ## What is equal to the original -/

/-- What is made nowhere in particular is the same as another value only if it is equal to it. -/
theorem Copies.isEqual_of_isSame (holds : Copies first last value copy) (same : value.isSame other = true) :
    value.isEqual other = true := by
  cases holds <;> cases other <;> simp_all [isSame, samePlace, isEqual, plain, numeric?, Numeric.equal,
    Numeric.compare?, equalItems, Double.compare?_self]

theorem Copies.matchesItem_iff (holds : Copies first last value copy) :
    value.matchesItem other = true ↔ value.isEqual other = true := by
  rw [matchesItem, Bool.or_eq_true]
  exact ⟨fun either => either.elim holds.isEqual_of_isSame id, .inr⟩

private theorem allFoundIn_eq (values others : List Value) :
    allFoundIn values others = values.all fun value => others.any (matchesItem value) := by
  induction values with
  | nil => rw [allFoundIn, List.all_nil]
  | cons value values further =>
    rw [allFoundIn, further, List.all_cons]
    rfl

theorem CopiesAll.length_eq : ∀ {first last : Nat} {values copies : List Value},
    CopiesAll first last values copies → copies.length = values.length
  | _, _, _, _, .nil _ => rfl
  | _, _, _, _, .cons _ _ tail => by rw [List.length_cons, List.length_cons, tail.length_eq]

theorem CopiesEntries.length_eq : ∀ {first last : Nat} {entries copies : List (Value × Value)},
    CopiesEntries first last entries copies → copies.length = entries.length
  | _, _, _, _, .nil _ => rfl
  | _, _, _, _, .cons _ _ _ tail => by rw [List.length_cons, List.length_cons, tail.length_eq]

private theorem int_isEqual (place there : Nat) (value : Int) (other : Value) :
    (int place value).isEqual other = (int there value).isEqual other := by
  simp only [isEqual, numeric?]
  cases other.plain <;> rfl

private theorem float_isEqual (place there : Nat) (value : Double) (other : Value) :
    (float place value).isEqual other = (float there value).isEqual other := by
  simp only [isEqual, numeric?]
  cases other.plain <;> rfl

mutual

/-- A copy is equal to whatever the original is equal to. -/
theorem Copies.isEqual : ∀ {first last : Nat} {value copy : Value}, Copies first last value copy →
    ∀ {other : Value}, value.isEqual other = true → copy.isEqual other = true
  | _, _, _, _, .none, _, equal => equal
  | _, _, _, _, .bool _, _, equal => equal
  | _, _, _, _, .ellipsis, _, equal => equal
  | _, _, _, _, .emptyTuple, _, equal => equal
  | _, _, _, _, .int place value, other, equal => int_isEqual 0 place value other ▸ equal
  | _, _, _, _, @Copies.float _ _ place value _, other, equal => float_isEqual 0 place value other ▸ equal
  | _, _, _, _, .complex _ _ _, _, equal => by simpa only [Value.isEqual] using equal
  | _, _, _, _, .text _ _, _, equal => by simpa only [Value.isEqual] using equal
  | _, _, _, _, .bytes _ _, _, equal => by simpa only [Value.isEqual] using equal
  | _, _, _, _, .tuple _ _ all, other, equal => by
    cases other <;> simp only [Value.isEqual, Bool.false_eq_true] at equal ⊢
    exact all.equalItems equal
  | _, _, _, _, .list _ all, other, equal => by
    cases other <;> simp only [Value.isEqual, Bool.false_eq_true] at equal ⊢
    exact all.equalItems equal
  | _, _, _, _, .set _ all order, other, equal => by
    cases other <;> simp only [Value.isEqual, Bool.false_eq_true, Bool.and_eq_true, order.length_eq,
      all.length_eq, allFoundIn_eq, order.all_eq] at equal ⊢
    · exact ⟨equal.1, all.allFoundIn equal.2⟩
    · exact ⟨equal.1, all.allFoundIn equal.2⟩
  | _, _, _, _, .dict _ all, other, equal => by
    cases other <;> simp only [Value.isEqual, Bool.false_eq_true, Bool.and_eq_true, all.length_eq] at equal ⊢
    exact ⟨equal.1, all.entriesFoundIn equal.2⟩

theorem CopiesAll.equalItems : ∀ {first last : Nat} {values copies : List Value},
    CopiesAll first last values copies → ∀ {others : List Value}, Value.equalItems values others = true →
      Value.equalItems copies others = true
  | _, _, _, _, .nil _, _, equal => equal
  | _, _, _, _, .cons _ head tail, others, equal => by
    cases others with
    | nil => simp only [Value.equalItems, Bool.false_eq_true] at equal
    | cons other others =>
      simp only [Value.equalItems, Bool.and_eq_true] at equal ⊢
      have same := head.isEqual (head.matchesItem_iff.1 equal.1)
      exact ⟨Bool.or_eq_true_iff.2 (.inr same), tail.equalItems equal.2⟩

theorem CopiesAll.allFoundIn : ∀ {first last : Nat} {values copies : List Value},
    CopiesAll first last values copies → ∀ {others : List Value},
      (values.all fun value => others.any (matchesItem value)) = true →
      (copies.all fun copy => others.any (matchesItem copy)) = true
  | _, _, _, _, .nil _, _, found => found
  | _, _, _, _, .cons _ head tail, others, found => by
    simp only [List.all_cons, Bool.and_eq_true, List.any_eq_true] at found ⊢
    obtain ⟨⟨other, among, equal⟩, behind⟩ := found
    have same := head.isEqual (head.matchesItem_iff.1 equal)
    exact ⟨⟨other, among, Bool.or_eq_true_iff.2 (.inr same)⟩, tail.allFoundIn behind⟩

theorem CopiesEntries.entriesFoundIn : ∀ {first last : Nat} {entries copies : List (Value × Value)},
    CopiesEntries first last entries copies → ∀ {others : List (Value × Value)},
      Value.entriesFoundIn entries others = true → Value.entriesFoundIn copies others = true
  | _, _, _, _, .nil _, _, found => found
  | _, _, _, _, .cons _ left right tail, others, found => by
    simp only [Value.entriesFoundIn, Bool.and_eq_true, List.any_eq_true] at found ⊢
    obtain ⟨⟨other, among, keys, equals⟩, behind⟩ := found
    have sameKey := left.isEqual (left.matchesItem_iff.1 keys)
    have same := right.isEqual (right.matchesItem_iff.1 equals)
    exact ⟨⟨other, among, Bool.or_eq_true_iff.2 (.inr sameKey), Bool.or_eq_true_iff.2 (.inr same)⟩,
      tail.entriesFoundIn behind⟩

end

/-! ## What is equal among copies -/

theorem CopiesAll.ordered : ∀ {first last : Nat} {values copies : List Value},
    CopiesAll first last values copies → first ≤ last
  | _, _, _, _, .nil ordered => ordered
  | _, _, _, _, .cons ordered _ tail => Nat.le_trans ordered tail.ordered

variable {first' last' : Nat} {value' copy' : Value}

/-- Of two copies, one made after the other, neither is taken for the other because of its place. -/
private theorem Copies.isEqual_of_isSame_copies (later : Copies first' last' value' copy')
    (earlier : Copies first last value copy) (apart : last ≤ first') (hashable : value'.isHashable = true)
    (same : copy'.isSame copy = true) : copy'.isEqual copy = true := by
  cases later with
  | tuple notBefore before all =>
    cases earlier <;> simp only [isSame, samePlace, Bool.false_eq_true] at same
    · simp_all [Value.isEqual, Value.equalItems]
    · simp at same
      omega
  | list => simp [isHashable] at hashable
  | set => simp [isHashable] at hashable
  | dict => simp [isHashable] at hashable
  | _ =>
    cases copy <;> simp_all [isSame, samePlace, Value.isEqual, plain, numeric?, Numeric.equal, Numeric.compare?,
      Value.equalItems, Double.compare?_self]

private theorem Copies.matchesItem_of_isEqual (later : Copies first' last' value' copy')
    (earlier : Copies first last value copy) (apart : last ≤ first') (hashable : value'.isHashable = true)
    (equal : copy'.isEqual copy = value'.isEqual value) : matchesItem copy' copy = matchesItem value' value := by
  have own : matchesItem copy' copy = true ↔ copy'.isEqual copy = true := by
    rw [matchesItem, Bool.or_eq_true]
    exact ⟨fun either => either.elim (later.isEqual_of_isSame_copies earlier apart hashable) id, .inr⟩
  rw [Bool.eq_iff_iff, own, later.matchesItem_iff, equal]

mutual

private theorem Copies.isEqual_copies : ∀ {first' last' : Nat} {value' copy' : Value},
    Copies first' last' value' copy' → ∀ {first last : Nat} {value copy : Value}, Copies first last value copy →
      last ≤ first' → value'.isHashable = true → copy'.isEqual copy = value'.isEqual value
  | _, _, _, _, .tuple _ _ all', _, _, _, _, earlier, apart, hashable => by
    cases earlier <;> simp only [Value.isEqual]
    · exact all'.equalItems_copies (.nil (Nat.zero_le 0)) (Nat.zero_le _) hashable
    · rename_i all
      exact all'.equalItems_copies all apart hashable
  | _, _, _, _, .emptyTuple, _, _, _, _, earlier, _, _ => by
    cases earlier <;> simp only [Value.isEqual]
    rename_i all
    cases all <;> simp only [Value.equalItems]
  | _, _, _, _, .list _ _, _, _, _, _, _, _, hashable => by simp [isHashable] at hashable
  | _, _, _, _, .set _ _ _, _, _, _, _, _, _, hashable => by simp [isHashable] at hashable
  | _, _, _, _, .dict _ _, _, _, _, _, _, _, hashable => by simp [isHashable] at hashable
  | _, _, _, _, .none, _, _, _, _, earlier, _, _ => by cases earlier <;> simp [Value.isEqual, plain, numeric?, isSame]
  | _, _, _, _, .bool _, _, _, _, _, earlier, _, _ => by cases earlier <;> simp [Value.isEqual, plain, numeric?]
  | _, _, _, _, .ellipsis, _, _, _, _, earlier, _, _ => by
    cases earlier <;> simp [Value.isEqual, plain, numeric?, isSame]
  | _, _, _, _, .int _ _, _, _, _, _, earlier, _, _ => by
    cases earlier <;> simp [Value.isEqual, plain, numeric?]
  | _, _, _, _, .float _ _, _, _, _, _, earlier, _, _ => by
    cases earlier <;> simp [Value.isEqual, plain, numeric?]
  | _, _, _, _, .complex _ _ _, _, _, _, _, earlier, _, _ => by
    cases earlier <;> simp [Value.isEqual, plain, numeric?]
  | _, _, _, _, .text _ _, _, _, _, _, earlier, _, _ => by cases earlier <;> simp [Value.isEqual, plain]
  | _, _, _, _, .bytes _ _, _, _, _, _, earlier, _, _ => by cases earlier <;> simp [Value.isEqual, plain]

private theorem CopiesAll.equalItems_copies : ∀ {first' last' : Nat} {values' copies' : List Value},
    CopiesAll first' last' values' copies' → ∀ {first last : Nat} {values copies : List Value},
      CopiesAll first last values copies → last ≤ first' → allHashable values' = true →
      Value.equalItems copies' copies = Value.equalItems values' values
  | _, _, _, _, .nil _, _, _, _, _, earlier, _, _ => by cases earlier <;> simp only [Value.equalItems]
  | _, _, _, _, .cons ordered head' tail', _, _, _, _, earlier, apart, hashable => by
    simp only [allHashable, Bool.and_eq_true] at hashable
    cases earlier with
    | nil => simp only [Value.equalItems]
    | cons _ head tail =>
      simp only [Value.equalItems]
      have before := Nat.le_trans tail.ordered apart
      have equal := head'.isEqual_copies head before hashable.1
      have same := head'.matchesItem_of_isEqual head before hashable.1 equal
      rw [matchesItem, matchesItem] at same
      rw [same, tail'.equalItems_copies tail (Nat.le_trans apart ordered) hashable.2]

end

/-- A later copy is found in an earlier one's place exactly if the originals are equal. -/
theorem Copies.matchesItem_copies (later : Copies first' last' value' copy')
    (earlier : Copies first last value copy) (apart : last ≤ first') (hashable : value'.isHashable = true) :
    matchesItem copy' copy = matchesItem value' value :=
  later.matchesItem_of_isEqual earlier apart hashable (later.isEqual_copies earlier apart hashable)

/-! ## Ranges -/

mutual

theorem Copies.within : ∀ {first last low high : Nat} {value copy : Value}, Copies first last value copy →
    low ≤ first → last ≤ high → Copies low high value copy
  | _, _, _, _, _, _, .none, _, _ => .none
  | _, _, _, _, _, _, .bool value, _, _ => .bool value
  | _, _, _, _, _, _, .ellipsis, _, _ => .ellipsis
  | _, _, _, _, _, _, .int place value, _, _ => .int place value
  | _, _, _, _, _, _, .float place isNumber, _, _ => .float place isNumber
  | _, _, _, _, _, _, .complex place isReal isImaginary, _, _ => .complex place isReal isImaginary
  | _, _, _, _, _, _, .text place value, _, _ => .text place value
  | _, _, _, _, _, _, .bytes place value, _, _ => .bytes place value
  | _, _, _, _, _, _, .emptyTuple, _, _ => .emptyTuple
  | _, _, _, _, _, _, .tuple notBefore before all, lower, higher =>
    .tuple (Nat.le_trans lower notBefore) (Nat.lt_of_lt_of_le before higher) (all.within lower higher)
  | _, _, _, _, _, _, .list place all, lower, higher => .list place (all.within lower higher)
  | _, _, _, _, _, _, .set place all order, lower, higher => .set place (all.within lower higher) order
  | _, _, _, _, _, _, .dict place all, lower, higher => .dict place (all.within lower higher)

theorem CopiesAll.within : ∀ {first last low high : Nat} {values copies : List Value},
    CopiesAll first last values copies → low ≤ first → last ≤ high → CopiesAll low high values copies
  | _, _, _, _, _, _, .nil ordered, lower, higher => .nil (Nat.le_trans lower (Nat.le_trans ordered higher))
  | _, _, _, _, _, _, .cons ordered head tail, lower, higher =>
    .cons (Nat.le_trans lower ordered) (head.within lower (Nat.le_refl _)) (tail.within (Nat.le_refl _) higher)

theorem CopiesEntries.within : ∀ {first last low high : Nat} {entries copies : List (Value × Value)},
    CopiesEntries first last entries copies → low ≤ first → last ≤ high → CopiesEntries low high entries copies
  | _, _, _, _, _, _, .nil ordered, lower, higher => .nil (Nat.le_trans lower (Nat.le_trans ordered higher))
  | _, _, _, _, _, _, .cons ordered left right tail, lower, higher =>
    .cons (Nat.le_trans lower ordered) (left.within lower (Nat.le_refl _)) right
      (tail.within (Nat.le_refl _) higher)

end

theorem CopiesAll.append : ∀ {first next last : Nat} {values copies more moreCopies : List Value},
    CopiesAll first next values copies → CopiesAll next last more moreCopies →
      CopiesAll first last (values ++ more) (copies ++ moreCopies)
  | _, _, _, _, _, _, _, .nil ordered, behind => behind.within ordered (Nat.le_refl _)
  | _, _, _, _, _, _, _, .cons ordered head tail, behind => .cons ordered head (tail.append behind)

theorem CopiesEntries.ordered : ∀ {first last : Nat} {entries copies : List (Value × Value)},
    CopiesEntries first last entries copies → first ≤ last
  | _, _, _, _, .nil ordered => ordered
  | _, _, _, _, .cons ordered _ _ tail => Nat.le_trans ordered tail.ordered

theorem CopiesEntries.append : ∀ {first next last : Nat} {entries copies more moreCopies : List (Value × Value)},
    CopiesEntries first next entries copies → CopiesEntries next last more moreCopies →
      CopiesEntries first last (entries ++ more) (copies ++ moreCopies)
  | _, _, _, _, _, _, _, .nil ordered, behind => behind.within ordered (Nat.le_refl _)
  | _, _, _, _, _, _, _, .cons ordered left right tail, behind => .cons ordered left right (tail.append behind)

/-! ## Members of sets and keys of dictionaries -/

mutual

theorem Copies.isHashable_eq : ∀ {first last : Nat} {value copy : Value}, Copies first last value copy →
    copy.isHashable = value.isHashable
  | _, _, _, _, .tuple _ _ all => by
    rw [Value.isHashable, Value.isHashable, all.allHashable_eq]
  | _, _, _, _, .none | _, _, _, _, .bool _ | _, _, _, _, .ellipsis | _, _, _, _, .int _ _ | _, _, _, _, .float _ _
  | _, _, _, _, .complex _ _ _ | _, _, _, _, .text _ _ | _, _, _, _, .bytes _ _ | _, _, _, _, .emptyTuple
  | _, _, _, _, .list _ _ | _, _, _, _, .set _ _ _ | _, _, _, _, .dict _ _ => by simp only [isHashable]

theorem CopiesAll.allHashable_eq : ∀ {first last : Nat} {values copies : List Value},
    CopiesAll first last values copies → allHashable copies = allHashable values
  | _, _, _, _, .nil _ => rfl
  | _, _, _, _, .cons _ head tail => by
    rw [allHashable, allHashable, head.isHashable_eq, tail.allHashable_eq]

end

theorem CopiesAll.all_isHashable : ∀ {first last : Nat} {values copies : List Value},
    CopiesAll first last values copies → copies.all isHashable = values.all isHashable
  | _, _, _, _, .nil _ => rfl
  | _, _, _, _, .cons _ head tail => by
    rw [List.all_cons, List.all_cons, head.isHashable_eq, tail.all_isHashable]

theorem CopiesEntries.all_isHashable : ∀ {first last : Nat} {entries copies : List (Value × Value)},
    CopiesEntries first last entries copies → (copies.all (·.1.isHashable)) = entries.all (·.1.isHashable)
  | _, _, _, _, .nil _ => rfl
  | _, _, _, _, .cons _ left _ tail => by
    rw [List.all_cons, List.all_cons, left.isHashable_eq, tail.all_isHashable]

private theorem CopiesAll.any_matchesItem (later : Copies first' last' value' copy')
    (hashable : value'.isHashable = true) : ∀ {first last : Nat} {values copies : List Value},
      CopiesAll first last values copies → last ≤ first' →
        copies.any (matchesItem copy') = values.any (matchesItem value')
  | _, _, _, _, .nil _, _ => rfl
  | _, _, _, _, .cons _ head tail, apart => by
    rw [List.any_cons, List.any_cons, later.matchesItem_copies head (Nat.le_trans tail.ordered apart) hashable,
      CopiesAll.any_matchesItem later hashable tail apart]

private theorem CopiesAll.foldl_distinct : ∀ {first next last : Nat} {kept keptCopies values copies : List Value},
    CopiesAll first next kept keptCopies → CopiesAll next last values copies → values.all isHashable = true →
      CopiesAll first last
        (values.foldl (fun kept item => if kept.any (matchesItem item) then kept else kept ++ [item]) kept)
        (copies.foldl (fun kept item => if kept.any (matchesItem item) then kept else kept ++ [item]) keptCopies)
  | _, _, _, _, _, _, _, before, .nil ordered, _ => before.within (Nat.le_refl _) ordered
  | _, _, _, kept, _, _, _, before, .cons ordered head tail, hashable => by
    rw [List.all_cons, Bool.and_eq_true] at hashable
    rw [List.foldl_cons, List.foldl_cons,
      CopiesAll.any_matchesItem head hashable.1 before (Nat.le_refl _)]
    split
    · exact (before.within (Nat.le_refl _) ordered).foldl_distinct tail hashable.2
    · exact (before.append (.cons ordered head (.nil (Nat.le_refl _)))).foldl_distinct tail hashable.2

/-- Among copies the same ones are distinct as among the originals. -/
theorem CopiesAll.distinctItems (all : CopiesAll first last values copies)
    (hashable : values.all isHashable = true) :
    CopiesAll first last (Value.distinctItems values) (Value.distinctItems copies) :=
  CopiesAll.foldl_distinct (.nil (Nat.le_refl _)) all hashable

private theorem CopiesEntries.any_matchesItem (later : Copies first' last' value' copy')
    (hashable : value'.isHashable = true) : ∀ {first last : Nat} {entries copies : List (Value × Value)},
      CopiesEntries first last entries copies → last ≤ first' →
        (copies.any fun entry => matchesItem copy' entry.1) = entries.any fun entry => matchesItem value' entry.1
  | _, _, _, _, .nil _, _ => rfl
  | _, _, _, _, .cons _ left _ tail, apart => by
    rw [List.any_cons, List.any_cons, later.matchesItem_copies left (Nat.le_trans tail.ordered apart) hashable,
      CopiesEntries.any_matchesItem later hashable tail apart]

/-- A value that takes the place of those of its key. -/
private theorem CopiesEntries.replaced {low high : Nat} (later : Copies first' last' value' copy')
    (hashable : value'.isHashable = true) (given : Copies low high value copy) :
    ∀ {first last : Nat} {entries copies : List (Value × Value)}, CopiesEntries first last entries copies →
      last ≤ first' → CopiesEntries first last
        (entries.map fun entry => if matchesItem value' entry.1 then (entry.1, value) else entry)
        (copies.map fun entry => if matchesItem copy' entry.1 then (entry.1, copy) else entry)
  | _, _, _, _, .nil ordered, _ => .nil ordered
  | _, _, _, _, .cons ordered left right tail, apart => by
    have behind := CopiesEntries.replaced later hashable given tail apart
    rw [List.map_cons, List.map_cons,
      later.matchesItem_copies left (Nat.le_trans tail.ordered apart) hashable]
    split
    · exact .cons ordered left given behind
    · exact .cons ordered left right behind

private theorem CopiesEntries.foldl_distinct : ∀ {first next last : Nat}
    {kept keptCopies entries copies : List (Value × Value)},
    CopiesEntries first next kept keptCopies → CopiesEntries next last entries copies →
      entries.all (·.1.isHashable) = true →
      CopiesEntries first last
        (entries.foldl (fun kept entry =>
          if kept.any fun k => matchesItem entry.1 k.1 then
            kept.map fun k => if matchesItem entry.1 k.1 then (k.1, entry.2) else k
          else kept ++ [entry]) kept)
        (copies.foldl (fun kept entry =>
          if kept.any fun k => matchesItem entry.1 k.1 then
            kept.map fun k => if matchesItem entry.1 k.1 then (k.1, entry.2) else k
          else kept ++ [entry]) keptCopies)
  | _, _, _, _, _, _, _, before, .nil ordered, _ => before.within (Nat.le_refl _) ordered
  | _, _, _, _, _, _, _, before, .cons ordered left right tail, hashable => by
    rw [List.all_cons, Bool.and_eq_true] at hashable
    rw [List.foldl_cons, List.foldl_cons,
      CopiesEntries.any_matchesItem left hashable.1 before (Nat.le_refl _)]
    split
    · exact ((CopiesEntries.replaced left hashable.1 right before (Nat.le_refl _)).within (Nat.le_refl _)
        ordered).foldl_distinct tail hashable.2
    · exact (before.append (.cons ordered left right (.nil (Nat.le_refl _)))).foldl_distinct tail hashable.2

/-- Among copies of entries the same ones are left as among the originals. -/
theorem CopiesEntries.distinctEntries {entries entryCopies : List (Value × Value)}
    (all : CopiesEntries first last entries entryCopies) (hashable : entries.all (·.1.isHashable) = true) :
    CopiesEntries first last (Value.distinctEntries entries) (Value.distinctEntries entryCopies) :=
  CopiesEntries.foldl_distinct (.nil (Nat.le_refl _)) all hashable

end Value

end EachSubject
