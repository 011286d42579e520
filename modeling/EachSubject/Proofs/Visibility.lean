import EachSubject.Description
import EachSubject.Proofs.Outcome
import Mathlib.Data.List.Nodup
import Mathlib.Data.Prod.Lex

/-!
# Visible methods

The methods of a class are found by one pass over the classes in the order of lookup, with the names
seen so far. They are exactly the names that lookup itself gives to a function of a class that is not
left out, each once, and in the order in which the classes and their namespaces list them.
-/

namespace EachSubject

/-- The own members of a class, in order. -/
def World.namespaceOf (w : World) (owner : ClassName) : List (String × Member) :=
  ((w.class? owner).map (·.members)).getD []

namespace Description

/-- Two underscores at both ends. -/
def Special (name : String) : Prop := ['_', '_'] <+: name.toList ∧ ['_', '_'] <:+ name.toList

/-- Lookup along the order finds the method first, in a class that is not left out, under a name that
    is not special, and it is a function and no property. -/
def Visible (w : World) (order : List ClassName) (m : FoundMethod) : Prop :=
  w.lookupIn m.name order = some (m.owner, .function m.binding m.isFinal m.function) ∧
    m.owner ≠ objectClass ∧ m.owner ≠ subjectClass ∧ ¬ Special m.name ∧ m.binding ≠ .property

/-- The place of a method: that of its class in the order, and that of its name in the class. -/
def place (w : World) (order : List ClassName) (m : FoundMethod) : Nat × Nat :=
  (order.idxOf m.owner, ((w.namespaceOf m.owner).map (·.1)).idxOf m.name)

/-- Stands in an earlier class, or earlier in the same class. -/
def Precedes (w : World) (order : List ClassName) (a b : FoundMethod) : Prop :=
  Prod.Lex (· < ·) (· < ·) (place w order a) (place w order b)

private theorem isSpecialName_iff (name : String) : isSpecialName name = true ↔ Special name := by
  have reversed : ['_', '_'] <+: name.toList.reverse ↔ ['_', '_'] <:+ name.toList := by
    rw [← List.reverse_prefix]
    rfl
  simp only [isSpecialName, Bool.and_eq_true, List.isPrefixOf_iff_prefix, reversed, Special]

private theorem methodOf?_eq_some_iff (owner : ClassName) (name : String) (member : Member)
    (m : FoundMethod) :
    methodOf? owner name member = some m ↔
      m.owner = owner ∧ m.name = name ∧ member = .function m.binding m.isFinal m.function ∧
        m.binding ≠ .property := by
  obtain ⟨o, n, b, l, f⟩ := m
  cases member with
  | value v => simp [methodOf?]
  | builtin => simp [methodOf?]
  | function binding isFinal function =>
    cases binding <;> simp [methodOf?] <;> grind

/-! ## One namespace -/

private theorem mem_freshNames_iff (seen : List String) (members : List (String × Member))
    (name : String) :
    name ∈ (freshMembers seen members).2 ↔ name ∈ seen ∨ name ∈ members.map (·.1) := by
  induction members generalizing seen with
  | nil => simp [freshMembers]
  | cons entry rest ih =>
    obtain ⟨n, member⟩ := entry
    by_cases hidden : n ∈ seen
    · simp only [freshMembers, List.contains_iff_mem, hidden, if_true, ih, List.map_cons,
        List.mem_cons]
      grind
    · simp only [freshMembers, List.contains_iff_mem, hidden, if_false, ih, List.map_cons,
        List.mem_cons]
      grind

private theorem mem_freshMembers_iff (seen : List String) (members : List (String × Member))
    (name : String) (member : Member) :
    (name, member) ∈ (freshMembers seen members).1 ↔
      name ∉ seen ∧ members.lookup name = some member := by
  induction members generalizing seen with
  | nil => simp [freshMembers]
  | cons entry rest ih =>
    obtain ⟨n, first⟩ := entry
    rw [List.lookup_cons]
    by_cases hidden : n ∈ seen
    · have skipped : freshMembers seen ((n, first) :: rest) = freshMembers seen rest := by
        simp [freshMembers, hidden]
      rw [skipped, ih]
      by_cases same : name = n
      · subst same
        simp [hidden]
      · rw [beq_false_of_ne same]
    · have kept : (freshMembers seen ((n, first) :: rest)).1 =
          (n, first) :: (freshMembers (n :: seen) rest).1 := by
        simp [freshMembers, hidden]
      rw [kept, List.mem_cons, ih]
      by_cases same : name = n
      · subst same
        simp [hidden, eq_comm]
      · rw [beq_false_of_ne same]
        simp [same]

private theorem freshMembers_ordered (seen : List String) (members : List (String × Member)) :
    (freshMembers seen members).1.Pairwise fun a b =>
      (members.map (·.1)).idxOf a.1 < (members.map (·.1)).idxOf b.1 := by
  induction members generalizing seen with
  | nil => simp [freshMembers]
  | cons entry rest ih =>
    obtain ⟨n, first⟩ := entry
    -- Behind the head no fresh member has the head's name, so that all places move by one.
    have shift : ∀ below, n ∈ below → ∀ a ∈ (freshMembers below rest).1,
        (n :: rest.map (·.1)).idxOf a.1 = (rest.map (·.1)).idxOf a.1 + 1 := by
      intro below shown a found
      have fresh := ((mem_freshMembers_iff below rest a.1 a.2).1 found).1
      have different : a.1 ≠ n := by
        rintro same
        exact fresh (same ▸ shown)
      exact List.idxOf_cons_ne _ (Ne.symm different)
    have moved : ∀ below, n ∈ below → (freshMembers below rest).1.Pairwise fun a b =>
        (n :: rest.map (·.1)).idxOf a.1 < (n :: rest.map (·.1)).idxOf b.1 := by
      intro below shown
      refine (ih below).imp_of_mem ?_
      intro a b foundA foundB before
      rw [shift below shown a foundA, shift below shown b foundB]
      omega
    by_cases hidden : n ∈ seen
    · simpa [freshMembers, hidden] using moved seen hidden
    · have kept : (freshMembers seen ((n, first) :: rest)).1 =
          (n, first) :: (freshMembers (n :: seen) rest).1 := by
        simp [freshMembers, hidden]
      rw [kept, List.map_cons, List.pairwise_cons]
      refine ⟨?_, moved (n :: seen) List.mem_cons_self⟩
      intro b found
      rw [shift (n :: seen) List.mem_cons_self b found, List.idxOf_cons_self]
      omega

/-! ## All classes -/

/-- The methods that one class adds to those found before. -/
private def ownMethods (w : World) (seen : List String) (owner : ClassName) : List FoundMethod :=
  if excludedOwners.contains owner then [] else
    (freshMembers seen (w.namespaceOf owner)).1.filterMap fun (name, member) =>
      if isSpecialName name then none else methodOf? owner name member

private theorem methodsOf_cons (w : World) (seen : List String) (owner : ClassName)
    (rest : List ClassName) :
    methodsOf w seen (owner :: rest) =
      ownMethods w seen owner ++ methodsOf w (freshMembers seen (w.namespaceOf owner)).2 rest := rfl

/-- The root of all classes, at the end, adds no method; its many members need not be looked at. -/
theorem methodsOf_object (w : World) (seen : List String) : methodsOf w seen [objectClass] = [] := by
  rw [methodsOf_cons, ownMethods, if_pos (by decide)]
  rfl

private theorem mem_ownMethods_iff (w : World) (seen : List String) (owner : ClassName)
    (m : FoundMethod) :
    m ∈ ownMethods w seen owner ↔
      m.owner = owner ∧ m.name ∉ seen ∧
        (w.namespaceOf owner).lookup m.name = some (.function m.binding m.isFinal m.function) ∧
        m.owner ≠ objectClass ∧ m.owner ≠ subjectClass ∧ ¬ Special m.name ∧
        m.binding ≠ .property := by
  by_cases excluded : owner ∈ excludedOwners
  · have left : owner = objectClass ∨ owner = subjectClass := by simpa [excludedOwners] using excluded
    simp only [ownMethods, List.contains_iff_mem, excluded, if_true, List.not_mem_nil, false_iff]
    rintro ⟨rfl, _, _, notObject, notSubject, _⟩
    exact left.elim notObject notSubject
  · have kept : owner ≠ objectClass ∧ owner ≠ subjectClass := by
      simpa [excludedOwners] using excluded
    simp only [ownMethods, List.contains_iff_mem, excluded, if_false, List.mem_filterMap]
    constructor
    · rintro ⟨⟨name, member⟩, fresh, found⟩
      obtain ⟨unseen, first⟩ := (mem_freshMembers_iff _ _ _ _).1 fresh
      by_cases special : isSpecialName name = true
      · simp [special] at found
      · obtain ⟨rfl, rfl, rfl, notProperty⟩ :=
          (methodOf?_eq_some_iff _ _ _ _).1 (by simpa [special] using found)
        exact ⟨rfl, unseen, first, kept.1, kept.2, fun s => special ((isSpecialName_iff _).2 s),
          notProperty⟩
    · rintro ⟨rfl, unseen, first, _, _, ordinary, notProperty⟩
      refine ⟨(m.name, .function m.binding m.isFinal m.function),
        (mem_freshMembers_iff _ _ _ _).2 ⟨unseen, first⟩, ?_⟩
      have notSpecial : isSpecialName m.name = false := by
        rw [← Bool.not_eq_true, isSpecialName_iff]
        exact ordinary
      simp only [notSpecial, Bool.false_eq_true, if_false]
      exact (methodOf?_eq_some_iff _ _ _ _).2 ⟨rfl, rfl, rfl, notProperty⟩

private theorem lookupIn_cons (w : World) (name : String) (owner : ClassName)
    (rest : List ClassName) :
    w.lookupIn name (owner :: rest) =
      ((w.namespaceOf owner).lookup name).elim (w.lookupIn name rest) fun member =>
        some (owner, member) := by
  cases declared : w.class? owner with
  | none => simp [World.lookupIn, World.namespaceOf, declared]
  | some c =>
    cases found : c.members.lookup name <;>
      simp [World.lookupIn, World.namespaceOf, ClassInfo.member?, declared, found]

private theorem lookup_eq_none_iff_names (members : List (String × Member)) (name : String) :
    members.lookup name = none ↔ name ∉ members.map (·.1) := by
  rw [List.lookup_eq_none_iff]
  simp only [List.mem_map, not_exists, not_and, bne_iff_ne, ne_eq]
  grind

/-- Finding in a rest of the order, with the names that the classes before have. -/
private theorem mem_methodsOf_iff (w : World) (seen : List String) (order : List ClassName)
    (m : FoundMethod) : m ∈ methodsOf w seen order ↔ m.name ∉ seen ∧ Visible w order m := by
  induction order generalizing seen with
  | nil => simp [methodsOf, Visible, World.lookupIn]
  | cons owner rest ih =>
    rw [methodsOf_cons, List.mem_append, mem_ownMethods_iff, ih, mem_freshNames_iff]
    simp only [Visible, lookupIn_cons]
    cases found : (w.namespaceOf owner).lookup m.name with
    | none =>
      have absent := (lookup_eq_none_iff_names _ _).1 found
      simp only [Option.elim_none]
      grind
    | some member =>
      have present : m.name ∈ (w.namespaceOf owner).map (·.1) := by
        by_contra absent
        rw [(lookup_eq_none_iff_names _ _).2 absent] at found
        cases found
      simp only [Option.elim_some]
      grind

/-- The methods of a class are the visible ones. -/
theorem mem_methods_iff (w : World) (subject : ClassName) (m : FoundMethod) :
    m ∈ methods w subject ↔ Visible w (w.orderOf subject) m := by
  rw [methods, mem_methodsOf_iff]
  simp

private theorem lookup_namespaceOf_of_lookupIn (w : World) {name : String} {order : List ClassName}
    {owner : ClassName} {member : Member} (found : w.lookupIn name order = some (owner, member)) :
    (w.namespaceOf owner).lookup name = some member := by
  induction order with
  | nil => simp [World.lookupIn] at found
  | cons first rest ih =>
    rw [lookupIn_cons] at found
    cases declared : (w.namespaceOf first).lookup name with
    | none =>
      rw [declared] at found
      exact ih found
    | some own =>
      rw [declared, Option.elim_some, Option.some.injEq, Prod.mk.injEq] at found
      obtain ⟨rfl, rfl⟩ := found
      exact declared

private theorem ownMethods_ordered (w : World) (seen : List String) (owner : ClassName) :
    (ownMethods w seen owner).Pairwise fun a b =>
      ((w.namespaceOf owner).map (·.1)).idxOf a.name < ((w.namespaceOf owner).map (·.1)).idxOf b.name := by
  by_cases excluded : owner ∈ excludedOwners
  · simp [ownMethods, excluded]
  · simp only [ownMethods, List.contains_iff_mem, excluded, if_false]
    rw [List.pairwise_filterMap]
    have sameName : ∀ (entry : String × Member) (m : FoundMethod),
        (if isSpecialName entry.1 then none else methodOf? owner entry.1 entry.2) = some m →
          m.name = entry.1 := by
      intro entry m found
      by_cases special : isSpecialName entry.1 = true
      · simp [special] at found
      · exact ((methodOf?_eq_some_iff _ _ _ _).1 (by simpa [special] using found)).2.1
    refine (freshMembers_ordered seen (w.namespaceOf owner)).imp ?_
    intro a b before m foundM n foundN
    rw [sameName a m foundM, sameName b n foundN]
    exact before

private theorem methodsOf_ordered (w : World) (seen : List String) (order : List ClassName) :
    (methodsOf w seen order).Pairwise (Precedes w order) := by
  induction order generalizing seen with
  | nil => simp [methodsOf]
  | cons owner rest ih =>
    have ownOwner : ∀ m ∈ ownMethods w seen owner, m.owner = owner := fun m found =>
      ((mem_ownMethods_iff _ _ _ _).1 found).1
    -- A class that stands in the order once more adds nothing there, as its names have been seen.
    have otherOwner : ∀ m ∈ methodsOf w (freshMembers seen (w.namespaceOf owner)).2 rest,
        m.owner ≠ owner := by
      intro m found same
      obtain ⟨unseen, visible⟩ := (mem_methodsOf_iff _ _ _ _).1 found
      have declared := lookup_namespaceOf_of_lookupIn w visible.1
      rw [mem_freshNames_iff, not_or, ← lookup_eq_none_iff_names] at unseen
      rw [same, unseen.2] at declared
      cases declared
    rw [methodsOf_cons, List.pairwise_append]
    refine ⟨?_, ?_, ?_⟩
    · refine (ownMethods_ordered w seen owner).imp_of_mem ?_
      intro a b foundA foundB before
      rw [Precedes, place, place, ownOwner a foundA, ownOwner b foundB]
      exact Prod.Lex.right _ before
    · refine (ih _).imp_of_mem ?_
      intro a b foundA foundB before
      rw [Precedes, Prod.lex_def] at before ⊢
      simp only [place, List.idxOf_cons_ne rest (Ne.symm (otherOwner a foundA)),
        List.idxOf_cons_ne rest (Ne.symm (otherOwner b foundB))] at before ⊢
      omega
    · intro a foundA b foundB
      rw [Precedes, Prod.lex_def]
      simp only [place, ownOwner a foundA, List.idxOf_cons_self,
        List.idxOf_cons_ne rest (Ne.symm (otherOwner b foundB))]
      omega

/-- The methods of a class differ in their names. -/
theorem methods_names_nodup (w : World) (subject : ClassName) : ((methods w subject).map (·.name)).Nodup := by
  rw [List.Nodup, List.pairwise_map]
  refine (methodsOf_ordered w [] (w.orderOf subject)).imp_of_mem ?_
  intro a b foundA foundB before same
  have visibleA := ((mem_methodsOf_iff _ _ _ _).1 foundA).2.1
  have visibleB := ((mem_methodsOf_iff _ _ _ _).1 foundB).2.1
  rw [same, visibleB] at visibleA
  have sameOwner : b.owner = a.owner := by
    simp only [Option.some.injEq, Prod.mk.injEq] at visibleA
    exact visibleA.1
  rw [Precedes, Prod.lex_def] at before
  simp only [place, same, sameOwner] at before
  omega

/-! ## Descriptions -/

private theorem methodShape_owner {w : World} {subject : ClassName} {subjectName : String}
    {m : FoundMethod} {described : MethodShape}
    (shaped : methodShape w subject subjectName m = .ok described) :
    described.name = m.name ∧ m.owner.reachable = .ok described.owner := by
  rw [methodShape, mapError_eq_ok_iff, bareMethodShape] at shaped
  obtain ⟨hints, _, shaped⟩ := bind_eq_ok_iff.1 shaped
  obtain ⟨returns, _, shaped⟩ := bind_eq_ok_iff.1 shaped
  obtain ⟨owner, reached, shaped⟩ := bind_eq_ok_iff.1 shaped
  obtain ⟨parameters, _, shaped⟩ := bind_eq_ok_iff.1 shaped
  cases shaped
  exact ⟨rfl, reached⟩

end Description

open Description

/-- The methods found for a class are those that lookup along its order gives first to a class that is
    not left out, under an ordinary name, as a function. Each name is there once, in the order of the
    classes and then of the namespace, and whatever lookup gives first hides all others of its name.
    A description lists the same methods in the same order. -/
theorem methods_visible (w : World) (subject : ClassName) :
    (∀ m, m ∈ methods w subject ↔ Visible w (w.orderOf subject) m) ∧
    ((methods w subject).map (·.name)).Nodup ∧
    (methods w subject).Pairwise (Precedes w (w.orderOf subject)) ∧
    (∀ name owner member, w.lookup subject name = some (owner, member) →
      (owner ∈ excludedOwners ∨ methodOf? owner name member = none) →
        ∀ m ∈ methods w subject, m.name ≠ name) ∧
    ∀ value subjectName target, head w value = .ok (subject, subjectName, target) →
      ∀ shape, w.describe value = .ok shape →
        List.Forall₂ (fun m described => methodShape w subject subjectName m = .ok described ∧
            described.name = m.name ∧ m.owner.reachable = .ok described.owner)
          (methods w subject) shape.methods := by
  have members : ∀ m, m ∈ methods w subject ↔ Visible w (w.orderOf subject) m := mem_methods_iff w subject
  refine ⟨members, methods_names_nodup w subject, methodsOf_ordered w [] _, ?_, ?_⟩
  · rintro name owner member first hidden m found rfl
    obtain ⟨visible, notObject, notSubject, ordinary, notProperty⟩ := (members m).1 found
    rw [World.lookup, visible] at first
    simp only [Option.some.injEq, Prod.mk.injEq] at first
    obtain ⟨rfl, rfl⟩ := first
    rcases hidden with excluded | noMethod
    · have left : m.owner = objectClass ∨ m.owner = subjectClass := by
        simpa [excludedOwners] using excluded
      exact left.elim notObject notSubject
    · have found := (methodOf?_eq_some_iff m.owner m.name _ m).2 ⟨rfl, rfl, rfl, notProperty⟩
      rw [noMethod] at found
      cases found
  · intro value subjectName target headed shape described
    obtain ⟨known, headed', described⟩ := bind_eq_ok_iff.1 described
    rw [headed] at headed'
    cases headed'
    obtain ⟨shapes, mapped, described⟩ := bind_eq_ok_iff.1 described
    cases described
    refine (forall₂_of_mapM mapped).imp ?_
    intro m described shaped
    exact ⟨shaped, methodShape_owner shaped⟩

end EachSubject
