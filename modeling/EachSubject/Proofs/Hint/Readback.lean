import EachSubject.Proofs.Hint.Annotations
import EachSubject.Value.Equality

/-!
# The same text, the same type

The word in front of the brackets tells what kind of type it is. What stands between the brackets is read off item by
item, where every item stops at a comma or at the closing bracket; a member of a union also stops at the blank in front
of the next one.
-/

namespace EachSubject.Hint

open Value (noneClass callableClass)

variable {K : Set ClassName} {a b : Value} {head : Head} {inside : Option (List Char)}
  {t u rest behind text more : List Char}

/-! ## Where items stop -/

private theorem ends_comma (rest : List Char) : Ends (comma ++ rest) := by
  intro c first
  cases first
  exact .inl rfl

private theorem ends_closed (rest : List Char) : Ends (']' :: rest) := by
  intro c first
  cases first
  exact .inr rfl

private theorem breaks_bar (rest : List Char) : Breaks (verticalBar ++ rest) := by
  intro c first
  cases first
  exact .inr (.inr rfl)

private theorem closed_ne_comma (rest more : List Char) : ']' :: rest ≠ comma ++ more := by
  intro same
  exact absurd (List.cons.inj same).1 (by decide)

private theorem Ends.ne_bar (ends : Ends rest) (more : List Char) : rest ≠ verticalBar ++ more := by
  rintro rfl
  rcases ends ' ' rfl with impossible | impossible <;> exact absurd impossible (by decide)

/-! ## Members -/

/-- The members of a union, and any other type by itself. -/
def membersOf : Value → List Value
  | .union _ members => members
  | other => [other]

/-- A type that is no union, and its text. -/
def WritesMember (K : Set ClassName) (a : Value) (chars : List Char) : Prop :=
  Writes K a chars ∧ ∀ style members, a ≠ .union style members

private theorem membersOf_single (single : ∀ style members, a ≠ .union style members) : membersOf a = [a] := by
  cases a
  case union style members => exact absurd rfl (single style members)
  all_goals rfl

private theorem writes_members {members : List Value} {texts : List String}
    (flat : ∀ m ∈ members, ∀ style inner, m ≠ .union style inner) (each : ∀ m ∈ members, MadeOf K m)
    (printed : List.Forall₂ (fun value text => format value = .ok text) members texts) :
    List.Forall₂ (WritesMember K) members (texts.map String.toList) := by
  induction printed with
  | nil => exact .nil
  | cons first _ ih =>
    exact .cons ⟨⟨each _ List.mem_cons_self, _, first, rfl⟩, flat _ List.mem_cons_self⟩
      (ih (fun m among => flat m (List.mem_cons_of_mem _ among)) fun m among => each m (List.mem_cons_of_mem _ among))

/-- A text is made of the texts of the members. -/
theorem Writes.members (writes : Writes K a t) :
    ∃ texts, List.Forall₂ (WritesMember K) (membersOf a) texts ∧ t = verticalBar.intercalate texts ∧
      membersOf a ≠ [] := by
  by_cases isUnion : ∃ style members, a = .union style members
  · obtain ⟨style, members, rfl⟩ := isUnion
    obtain ⟨made, text, printed, rfl⟩ := writes
    rw [format] at printed
    obtain ⟨texts, areTexts, same⟩ := bind_eq_ok_iff.1 printed
    cases same
    cases made with
    | named names => cases names
    | union several flat each =>
      refine ⟨_, writes_members flat each (formatAll_ok areTexts), String.toList_intercalate, ?_⟩
      intro empty
      rw [membersOf] at empty
      rw [empty] at several
      exact absurd several (by decide)
  · have single : ∀ style members, a ≠ .union style members := fun style members same => isUnion ⟨_, _, same⟩
    rw [membersOf_single single]
    exact ⟨[t], .cons ⟨writes, single⟩ .nil, (List.intercalate_singleton).symm, List.cons_ne_nil _ _⟩

/-- Types with the same members are the same. -/
private theorem alike_of_members (first : MadeOf K a) (second : MadeOf K b)
    (each : List.Forall₂ Alike (membersOf a) (membersOf b)) : Alike a b := by
  have several : ∀ {style : UnionStyle} {members : List Value}, MadeOf K (.union style members) →
      2 ≤ members.length := by
    intro style members made
    cases made with
    | named names => cases names
    | union several flat each => exact several
  by_cases isUnion : ∃ style members, a = .union style members <;>
    by_cases otherUnion : ∃ style members, b = .union style members
  · obtain ⟨style, members, rfl⟩ := isUnion
    obtain ⟨style', members', rfl⟩ := otherUnion
    exact .union each
  · obtain ⟨style, members, rfl⟩ := isUnion
    rw [membersOf_single fun style members same => otherUnion ⟨style, members, same⟩] at each
    have count := several first
    rw [show members.length = 1 from each.length_eq] at count
    exact absurd count (by decide)
  · obtain ⟨style, members, rfl⟩ := otherUnion
    rw [membersOf_single fun style members same => isUnion ⟨style, members, same⟩] at each
    have count := several second
    rw [show members.length = 1 from each.length_eq.symm] at count
    exact absurd count (by decide)
  · rw [membersOf_single fun style members same => isUnion ⟨style, members, same⟩,
      membersOf_single fun style members same => otherUnion ⟨style, members, same⟩] at each
    cases each with
    | cons alike _ => exact alike

/-! ## How texts begin -/

private theorem word_begins (nameable : Nameable K) (known : head.Known K) (more : List Char) :
    ∃ c others, head.word.toList ++ more = c :: others ∧ isNameChar c = true := by
  obtain ⟨chars, nonempty⟩ := head.word_chars nameable known
  obtain ⟨c, others, begins⟩ := List.exists_cons_of_ne_nil nonempty
  refine ⟨c, others ++ more, by rw [begins, List.cons_append], chars c ?_⟩
  rw [begins]
  exact List.mem_cons_self

/-- A type starts with a word. -/
theorem Writes.begins (nameable : Nameable K) (writes : Writes K a t) :
    ∃ c more, t = c :: more ∧ isNameChar c = true := by
  obtain ⟨texts, each, rfl, nonempty⟩ := writes.members
  generalize membersOf a = members at each nonempty
  cases each with
  | nil => exact absurd rfl nonempty
  | @cons m first members others isFirst _ =>
    obtain ⟨head, inside, -, known, rfl⟩ := isFirst.1.layout isFirst.2
    cases others with
    | nil =>
      rw [List.intercalate_singleton]
      exact word_begins nameable known _
    | cons _ _ =>
      rw [List.intercalate_cons_cons, List.append_assoc, List.append_assoc]
      exact word_begins nameable known _

private theorem Writes.begins_ne (bracket : Char) (outside : isNameChar bracket = false) (nameable : Nameable K)
    (writes : Writes K a t) : ∃ c more, t = c :: more ∧ c ≠ bracket := by
  obtain ⟨c, more, begins, inName⟩ := writes.begins nameable
  refine ⟨c, more, begins, ?_⟩
  rintro rfl
  rw [outside] at inName
  cases inName

private theorem Writes.ne_opened (nameable : Nameable K) (writes : Writes K a t) : t ++ rest ≠ '[' :: more := by
  obtain ⟨c, others, rfl, differs⟩ := writes.begins_ne '[' rfl nameable
  exact fun same => differs (List.cons.inj same).1

/-! ## Arguments -/

private theorem argumentTypes_type (made : MadeOf K a) : argumentTypes a = [a] := by
  cases made with
  | named names => cases names <;> rfl
  | _ => rfl

private theorem madeOf_of_writes {xs : List Value} {ts : List (List Char)}
    (written : List.Forall₂ (Writes K) xs ts) : ∀ x ∈ xs, MadeOf K x := by
  induction written with
  | nil => exact fun _ among => absurd among List.not_mem_nil
  | cons first _ ih => exact List.forall_mem_cons.2 ⟨first.1, ih⟩

/-- Types between brackets, up to the closing one. -/
private theorem types_readOff {xs ys : List Value} {ts us : List (List Char)} (nameable : Nameable K)
    (each : ∀ x ∈ xs, ReadsOff (Writes K) Alike Ends x) (written : List.Forall₂ (Writes K) xs ts)
    (otherWritten : List.Forall₂ (Writes K) ys us)
    (same : comma.intercalate ts ++ ']' :: rest = comma.intercalate us ++ ']' :: behind) :
    List.Forall₂ Alike xs ys ∧ rest = behind :=
  ReadsOff.enclosed ends_comma ends_closed closed_ne_comma (fun _ _ writes => writes.begins_ne ']' rfl nameable) each
    written otherWritten same

/-- An argument can be read off if its types can. -/
private theorem argument_readsOff (nameable : Nameable K)
    (each : ∀ part ∈ argumentTypes a, ReadsOff (Writes K) Alike Ends part) :
    ReadsOff (WritesArgument K) Alike Ends a := by
  intro other t u rest behind writes otherWrites ends otherEnds same
  cases writes with
  | type writes =>
    cases otherWrites with
    | type otherWrites =>
      rw [argumentTypes_type writes.1] at each
      exact each _ List.mem_cons_self writes otherWrites ends otherEnds same
    | parameters _ => exact absurd same (writes.ne_opened nameable)
  | parameters written =>
    cases otherWrites with
    | type otherWrites => exact absurd same.symm (otherWrites.ne_opened nameable)
    | parameters otherWritten =>
      rw [List.cons_append, List.cons_append, List.append_assoc, List.append_assoc] at same
      obtain ⟨alike, left⟩ := types_readOff nameable each written otherWritten (List.cons.inj same).2
      exact ⟨.parameters alike, left⟩

/-! ## Metadata -/

private theorem class_readsOff (nameable : Nameable K) : ReadsOff (WritesClass K) SameClass Ends a := by
  intro other t u rest behind writes otherWrites ends otherEnds same
  cases writes with
  | of known isEnum =>
    cases otherWrites with
    | of otherKnown otherIsEnum =>
      obtain ⟨sameName, left⟩ := word_readOff (nameable.qualified_chars known) (nameable.qualified_chars otherKnown)
        ends.breaks.noName otherEnds.breaks.noName same
      rw [nameable.distinct _ known _ otherKnown (String.toList_inj.1 sameName)]
      exact ⟨.of _ _ _, left⟩

/-! ## Types -/

/-- The types that a type is made of. -/
def partsOf : Value → List Value
  | .subscripted _ args => args.flatMap argumentTypes
  | .union _ members => members
  | .annotated base _ => [base]
  | _ => []

/-- Without brackets the word tells the type. -/
private theorem Layout.bare (layout : Layout K a head none) (otherLayout : Layout K b head none) : Alike a b := by
  cases layout with
  | nothing isNothing =>
    cases otherLayout with
    | nothing otherNothing => exact .nothing isNothing otherNothing
  | ellipsis =>
    cases otherLayout with
    | ellipsis => exact .ellipsis
  | named names =>
    cases otherLayout with
    | named otherNames => exact .named names otherNames

/-- A callable that keeps its arguments as they are shows no list of parameters. -/
private theorem gathered_ne {result : Value} {texts : List (List Char)}
    (each : List.Forall₂ (WritesArgument K) [.ellipsis, result] texts) :
    comma.intercalate texts ++ rest ≠ '[' :: more := by
  cases each with
  | cons first each =>
    cases each with
    | cons _ _ =>
      cases first with
      | type writes =>
        obtain ⟨-, text, printed, rfl⟩ := writes
        rw [format] at printed
        cases printed
        intro same
        exact absurd (List.cons.inj same).1 (by decide)

/-- What stands between the brackets tells the type, given the word in front of them. -/
private theorem Layout.readOff (nameable : Nameable K) (parts : ∀ part ∈ partsOf a, ReadsOff (Writes K) Alike Ends part)
    (layout : Layout K a head (some t)) (otherLayout : Layout K b head (some u))
    (same : t ++ ']' :: rest = u ++ ']' :: behind) : Alike a b ∧ rest = behind := by
  cases layout with
  | @generic _ origin args texts isOrigin nonempty gathered each =>
    have arguments : ∀ x ∈ args, ReadsOff (WritesArgument K) Alike Ends x := fun x among =>
      argument_readsOff nameable fun part inside => parts part (List.mem_flatMap.2 ⟨x, among, inside⟩)
    cases otherLayout with
    | generic otherOrigin otherNonempty _ otherEach =>
      obtain ⟨alike, left⟩ := ReadsOff.separated ends_comma arguments each otherEach nonempty otherNonempty
        (ends_closed rest) (ends_closed behind) (closed_ne_comma rest) (closed_ne_comma behind) same
      exact ⟨.subscripted isOrigin otherOrigin alike, (List.cons.inj left).2⟩
    | callable _ _ _ =>
      obtain ⟨result, rfl⟩ := gathered rfl
      exact absurd same (gathered_ne each)
  | @callable _ parameters result texts text isOrigin each last =>
    have types : ∀ x ∈ parameters ++ [result], ReadsOff (Writes K) Alike Ends x := by
      intro x among
      refine parts x (List.mem_flatMap.2 ⟨x, among, ?_⟩)
      rw [argumentTypes_type (madeOf_of_writes (List.rel_append each (.cons last .nil)) x among)]
      exact List.mem_cons_self
    cases otherLayout with
    | generic _ _ gathered otherEach =>
      obtain ⟨result, rfl⟩ := gathered rfl
      exact absurd same.symm (gathered_ne otherEach)
    | callable otherOrigin otherEach otherLast =>
      rw [List.cons_append, List.cons_append, List.append_assoc, List.append_assoc, List.cons_append,
        List.cons_append] at same
      obtain ⟨alike, left⟩ := types_readOff nameable (fun x among => types x (List.mem_append_left _ among)) each
        otherEach (List.cons.inj same).2
      rw [List.append_assoc, List.append_assoc] at left
      obtain ⟨alikeResult, left⟩ := types result (List.mem_append_right _ List.mem_cons_self) last otherLast
        (ends_closed rest) (ends_closed behind) (List.append_cancel_left left)
      refine ⟨.subscripted isOrigin otherOrigin (List.rel_append alike (.cons alikeResult .nil)), ?_⟩
      exact (List.cons.inj left).2
  | literal nonempty each =>
    cases otherLayout with
    | literal otherNonempty otherEach =>
      obtain ⟨alike, left⟩ := ReadsOff.separated ends_comma (fun x _ => constant_readsOff x) each otherEach nonempty
        otherNonempty (ends_closed rest) (ends_closed behind) (closed_ne_comma rest) (closed_ne_comma behind) same
      exact ⟨.literal alike, (List.cons.inj left).2⟩
  | annotated of nonempty each =>
    cases otherLayout with
    | annotated otherOf otherNonempty otherEach =>
      rw [List.append_assoc, List.append_assoc, List.append_assoc, List.append_assoc] at same
      obtain ⟨alike, left⟩ := parts _ List.mem_cons_self of otherOf (ends_comma _) (ends_comma _) same
      obtain ⟨alikeMetadata, left⟩ := ReadsOff.separated ends_comma (fun x _ => class_readsOff nameable) each otherEach
        nonempty otherNonempty (ends_closed rest) (ends_closed behind) (closed_ne_comma rest) (closed_ne_comma behind)
        (List.append_cancel_left left)
      exact ⟨.annotated alike alikeMetadata, (List.cons.inj left).2⟩

/-- Where a word stops. -/
private theorem inBrackets_noName (breaks : Breaks rest) :
    ∀ c ∈ (inBrackets inside ++ rest).head?, isNameChar c = false := by
  cases inside with
  | none => exact breaks.noName
  | some _ =>
    intro c first
    cases first
    rfl

private theorem Breaks.ne_opened (breaks : Breaks rest) : rest ≠ '[' :: more := by
  rintro rfl
  rcases breaks '[' rfl with impossible | impossible | impossible <;> exact absurd impossible (by decide)

/-- A type that is no union can be read off, also in front of another member, if its parts can be read off. -/
private theorem member_readsOff (nameable : Nameable K)
    (parts : ∀ part ∈ partsOf a, ReadsOff (Writes K) Alike Ends part) :
    ReadsOff (WritesMember K) Alike Breaks a := by
  intro other t u rest behind writes otherWrites breaks otherBreaks same
  obtain ⟨head, inside, layout, known, rfl⟩ := writes.1.layout writes.2
  obtain ⟨otherHead, otherInside, otherLayout, otherKnown, rfl⟩ := otherWrites.1.layout otherWrites.2
  rw [List.append_assoc, List.append_assoc] at same
  obtain ⟨sameWord, further⟩ := word_readOff (head.word_chars nameable known).1
    (otherHead.word_chars nameable otherKnown).1 (inBrackets_noName breaks) (inBrackets_noName otherBreaks) same
  cases Head.word_injective nameable known otherKnown (String.toList_inj.1 sameWord)
  cases inside with
  | none =>
    cases otherInside with
    | none => exact ⟨layout.bare otherLayout, further⟩
    | some _ => exact absurd further breaks.ne_opened
  | some text =>
    cases otherInside with
    | none => exact absurd further.symm otherBreaks.ne_opened
    | some otherText =>
      rw [inBrackets, inBrackets, List.cons_append, List.cons_append, List.append_assoc, List.append_assoc] at further
      exact layout.readOff nameable parts otherLayout (List.cons.inj further).2

/-- A type can be read off if its members can. -/
private theorem type_readsOff (members : ∀ m ∈ membersOf a, ReadsOff (WritesMember K) Alike Breaks m) :
    ReadsOff (Writes K) Alike Ends a := by
  intro other t u rest behind writes otherWrites ends otherEnds same
  obtain ⟨texts, each, rfl, nonempty⟩ := writes.members
  obtain ⟨otherTexts, otherEach, rfl, otherNonempty⟩ := otherWrites.members
  obtain ⟨alike, left⟩ := ReadsOff.separated breaks_bar members each otherEach nonempty otherNonempty ends.breaks
    otherEnds.breaks ends.ne_bar otherEnds.ne_bar same
  exact ⟨alike_of_members writes.1 otherWrites.1 alike, left⟩

/-- The members of a type can be read off, by induction on the type. -/
private theorem members_readOff (nameable : Nameable K) (made : MadeOf K a) :
    ∀ m ∈ membersOf a, ReadsOff (WritesMember K) Alike Breaks m := by
  induction made with
  | nothing | ellipsis | literal _ _ =>
    intro m among
    cases List.mem_singleton.1 among
    exact member_readsOff nameable fun part inside => absurd inside List.not_mem_nil
  | named names known =>
    cases names <;>
    · intro m among
      cases List.mem_singleton.1 among
      exact member_readsOff nameable fun part inside => absurd inside List.not_mem_nil
  | library isHead known nonempty each ih =>
    intro m among
    cases List.mem_singleton.1 among
    refine member_readsOff nameable fun part inside => ?_
    obtain ⟨argument, among, inside⟩ := List.mem_flatMap.1 inside
    rw [argumentTypes_type (each argument among)] at inside
    cases List.mem_singleton.1 inside
    exact type_readsOff (ih _ among)
  | user apart known nonempty each ih =>
    intro m among
    cases List.mem_singleton.1 among
    refine member_readsOff nameable fun part inside => ?_
    obtain ⟨argument, among, inside⟩ := List.mem_flatMap.1 inside
    exact type_readsOff (ih argument among part inside)
  | union several flat each ih =>
    intro m among
    refine ih m among m ?_
    rw [membersOf_single (flat m among)]
    exact List.mem_cons_self
  | annotated flat nonempty each isBase ih =>
    intro m among
    cases List.mem_singleton.1 among
    refine member_readsOff nameable fun part inside => ?_
    cases List.mem_singleton.1 inside
    exact type_readsOff ih

/-- Declared types with the same text are the same: their parts and the order, the repetition and the nesting of these
    can be read off the text. -/
theorem format_alike {text : String} (nameable : Nameable K) (first : MadeOf K a) (second : MadeOf K b)
    (printed : format a = .ok text) (again : format b = .ok text) : Alike a b := by
  have noMore : Ends [] := fun c first => by cases first
  exact (type_readsOff (members_readOff nameable first) ⟨first, text, printed, rfl⟩ ⟨second, text, again, rfl⟩ noMore
    noMore rfl).1

/-- Classes that a callback may be made of. -/
def callbackNames : List ClassName := [⟨"builtins", "int"⟩, ⟨"builtins", "list"⟩, noneClass, callableClass]

/-- The set of these classes. -/
def callbackClasses : Set ClassName := { name | name ∈ callbackNames }

/-- Takes a number and a list of numbers with gaps. -/
def callback (head list : TypeHead) (style : UnionStyle) (result : Value) : Value :=
  let number : Value := .ofClass ⟨"builtins", "int"⟩
  .subscripted head [number, .subscripted list [.union style [number, .ofClass noneClass]], result]

/-- In the words of the typing library. -/
def libraryCallback : Value :=
  callback (.classAlias "Callable" callableClass) (.classAlias "List" ⟨"builtins", "list"⟩) .subscript
    (.ofClass noneClass)

/-- In the words of the language. -/
def nativeCallback : Value := callback (.native callableClass) (.native ⟨"builtins", "list"⟩) .bar .none

private theorem callbackClasses_nameable : Nameable callbackClasses where
  dotted := show ∀ name ∈ callbackNames, _ by decide +kernel
  distinct := show ∀ name ∈ callbackNames, ∀ other ∈ callbackNames, _ by decide
  ordinary := show ∀ name ∈ callbackNames, _ by decide

private theorem callback_madeOf {head list : TypeHead} {style : UnionStyle} {result : Value}
    (isHead : head = .native callableClass ∨ ∃ shown, head = .classAlias shown callableClass)
    (isList : list = .native ⟨"builtins", "list"⟩ ∨ ∃ shown, list = .classAlias shown ⟨"builtins", "list"⟩)
    (isResult : MadeOf callbackClasses result) :
    MadeOf callbackClasses (callback head list style result) := by
  have number : MadeOf callbackClasses (.ofClass ⟨"builtins", "int"⟩) :=
    .named (.itself false) (show _ ∈ callbackNames by decide)
  have gap : MadeOf callbackClasses (.ofClass noneClass) :=
    .named (.itself false) (show noneClass ∈ callbackNames by decide)
  have item : MadeOf callbackClasses (.union style [.ofClass ⟨"builtins", "int"⟩, .ofClass noneClass]) :=
    .union (by decide) (by simp [Value.ofClass]) (by simp [number, gap])
  have items := MadeOf.library isList (show _ ∈ callbackNames by decide) (List.cons_ne_nil _ [])
    (List.forall_mem_singleton.2 item)
  exact .library isHead (show callableClass ∈ callbackNames by decide) (List.cons_ne_nil _ _)
    (by simp [number, items, isResult])

/-- Both callbacks have the same text, and are the same type. -/
theorem callback_alike : Nameable callbackClasses ∧ MadeOf callbackClasses libraryCallback ∧
    MadeOf callbackClasses nativeCallback ∧
    format libraryCallback = .ok "collections.abc.Callable[[int, list[int | None]], None]" ∧
    format nativeCallback = .ok "collections.abc.Callable[[int, list[int | None]], None]" ∧
    Alike libraryCallback nativeCallback := by
  have library : MadeOf callbackClasses libraryCallback := callback_madeOf (.inr ⟨_, rfl⟩) (.inr ⟨_, rfl⟩)
    (.named (.itself false) (show noneClass ∈ callbackNames by decide))
  have native : MadeOf callbackClasses nativeCallback := callback_madeOf (.inl rfl) (.inl rfl) .nothing
  exact ⟨callbackClasses_nameable, library, native, rfl, rfl,
    format_alike callbackClasses_nameable library native rfl rfl⟩

/-- Nothing is not equal to its class, but goes by the same text. -/
theorem nothing_ne_itsClass : Nameable {noneClass} ∧ MadeOf {noneClass} .none ∧
    MadeOf {noneClass} (.ofClass noneClass) ∧ format .none = .ok "None" ∧
    format (.ofClass noneClass) = .ok "None" ∧ Value.isEqual .none (.ofClass noneClass) = false := by
  refine ⟨⟨?_, ?_, ?_⟩, .nothing, .named (.itself false) rfl, rfl, rfl, by decide +kernel⟩
  · rintro name rfl
    decide +kernel
  · rintro name rfl other rfl -
    rfl
  · rintro name rfl
    decide

end EachSubject.Hint
