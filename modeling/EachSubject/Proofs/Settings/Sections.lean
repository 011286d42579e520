import EachSubject.Proofs.Outcome
import EachSubject.Settings.Section

/-!
# What a section gives

The section of a settings file gives settings if it is a table without other names, each value of the right kind. An
empty text and an empty array pass for an empty table. A section of any other shape is refused, or the names that it
lists cannot even be looked at.
-/

namespace EachSubject.Settings

/-! ## Names -/

private theorem mapM_id_eq_none_iff {α : Type} {items : List (Option α)} : items.mapM id = none ↔ none ∈ items := by
  induction items with
  | nil => simp
  | cons item rest ih =>
    cases item with
    | none => simp
    | some a =>
      have rest' : (some a :: rest).mapM id = none ↔ rest.mapM id = none := by
        rw [List.mapM_cons]
        cases rest.mapM id <;> simp
      rw [rest', ih]
      simp

/-- A thing that a section lists is the name of a setting. -/
def IsKnown (name : Option String) : Prop := ∃ known ∈ names, name = some known

private theorem isNone_filter_iff {name : Option String} :
    (name.filter names.contains).isNone = true ↔ ¬IsKnown name := by
  cases name with
  | none => simp [IsKnown]
  | some text => by_cases known : text ∈ names <;> simp [IsKnown, Option.filter, known]

/-- Nothing but names of settings passes. Of other lists, those with a thing that cannot be a name cannot be refused in
    the proper way. -/
theorem checkNames_cases (path : String) (listed : List (Option String)) :
    (∀ name ∈ listed, IsKnown name) ∧ checkNames path listed = .ok () ∨
    none ∈ listed ∧ checkNames path listed = .error .noSettings ∨
    none ∉ listed ∧ (∃ name ∈ listed, ¬IsKnown name) ∧
      ∃ cause, checkNames path listed = .error (.refused (.file path cause)) := by
  have among : ∀ name, name ∈ listed.filter (fun name => (name.filter names.contains).isNone) ↔
      name ∈ listed ∧ ¬IsKnown name := by
    intro name
    rw [List.mem_filter, isNone_filter_iff]
  rw [checkNames]
  generalize listed.filter (fun name => (name.filter names.contains).isNone) = unknown at among ⊢
  cases unknown with
  | nil => exact .inl ⟨fun name inside => by simpa [inside] using among name, rfl⟩
  | cons first others =>
    cases found : (first :: others).mapM id with
    | none =>
      have inside : none ∈ listed := ((among none).1 (mapM_id_eq_none_iff.1 found)).1
      exact .inr (.inl ⟨inside, by simp only [List.isEmpty_cons, Bool.false_eq_true, if_false]⟩)
    | some unknown =>
      have proper : none ∉ listed := by
        intro inside
        have unnamed := mapM_id_eq_none_iff.2 ((among none).2 ⟨inside, by simp [IsKnown]⟩)
        rw [found] at unnamed
        cases unnamed
      exact .inr (.inr ⟨proper, ⟨first, (among first).1 List.mem_cons_self⟩, _, by
        simp only [List.isEmpty_cons, Bool.false_eq_true, if_false]
        rfl⟩)

/-! ## Tables -/

/-- What a settings file gives: the value of each setting that it has. -/
structure Given where
  subjects : Option (List String) := none
  outputDir : Option String := none
  verbosity : Option Int := none

/-- The settings with what a file gives. -/
def updated (s : Settings) (given : Given) : Settings where
  subjects := given.subjects.getD s.subjects
  outputDir := given.outputDir.or s.outputDir
  verbosity := given.verbosity.getD s.verbosity

/-- The table has no other names than the settings, and each value is of the right kind: texts in an array for the
    subjects, a text for the directory, an integer for the verbosity. -/
structure Lists (table : Toml.Table) (given : Given) : Prop where
  known : ∀ entry ∈ table, entry.1 ∈ names
  subjects : table.lookup "subjects" = given.subjects.map fun texts => .array (texts.map .text)
  outputDir : table.lookup "output_dir" = given.outputDir.map .text
  verbosity : table.lookup "verbosity" = given.verbosity.map .integer

/-- A table gives one thing for each setting. -/
theorem Lists.unique {table : Toml.Table} {given other : Given} (lists : Lists table given)
    (others : Lists table other) : given = other := by
  have subjects := lists.subjects.symm.trans others.subjects
  have outputDir := lists.outputDir.symm.trans others.outputDir
  have verbosity := lists.verbosity.symm.trans others.verbosity
  obtain ⟨texts, dir, n⟩ := given
  obtain ⟨texts', dir', n'⟩ := other
  obtain rfl : dir = dir' := Option.map_injective (fun _ _ same => Toml.Value.text.inj same) outputDir
  obtain rfl : n = n' := Option.map_injective (fun _ _ same => Toml.Value.integer.inj same) verbosity
  have inj : Function.Injective fun texts : List String => Toml.Value.array (texts.map .text) := fun _ _ same =>
    List.map_injective_iff.2 (fun _ _ same => Toml.Value.text.inj same) (Toml.Value.array.inj same)
  obtain rfl : texts = texts' := Option.map_injective inj subjects
  rfl

private theorem textOf?_eq_some_iff {value : Toml.Value} {text : String} :
    textOf? value = some text ↔ value = .text text := by
  cases value <;> simp [textOf?]

private theorem mapM_textOf?_eq_some_iff {items : List Toml.Value} {texts : List String} :
    items.mapM textOf? = some texts ↔ items = texts.map .text := by
  induction items generalizing texts with
  | nil => cases texts <;> simp
  | cons item rest ih =>
    rw [List.mapM_cons]
    cases item with
    | text t =>
      cases found : rest.mapM textOf? with
      | none =>
        have differs : ∀ others, rest ≠ List.map .text others := by
          intro others same
          simp [ih.2 same] at found
        cases texts <;> simp [textOf?, differs]
      | some others =>
        obtain rfl := ih.1 found
        cases texts <;> simp [textOf?, List.map_inj_right]
    | integer | float | boolean | moment | array | table => cases texts <;> simp [textOf?]

private theorem subjectsOf?_eq_some_iff {value : Toml.Value} {texts : List String} :
    subjectsOf? value = some texts ↔ value = .array (texts.map .text) := by
  cases value <;> simp [subjectsOf?, mapM_textOf?_eq_some_iff]

private theorem verbosityOf?_eq_some_iff {value : Toml.Value} {n : Int} :
    verbosityOf? value = some n ↔ value = .integer n := by
  cases value <;> simp [verbosityOf?]

/-- A setting stays as it was where the table has none, and is what its value is read as otherwise. -/
private theorem setting_eq_ok_iff {α : Type} {read? : Toml.Value → Option α} {cause : SettingsCause} {before after : α}
    {held : Option Toml.Value} :
    setting read? cause before held = .ok after ↔
      held = none ∧ after = before ∨ ∃ value, held = some value ∧ read? value = some after := by
  cases held with
  | none => simp [setting, eq_comm]
  | some value => cases found : read? value <;> simp [setting, found]

/-- What a table gives for a setting: nothing, or a value of the setting's kind. -/
private theorem setting_given_iff {α : Type} {read? : Toml.Value → Option α} {cause : SettingsCause} {before after : α}
    {held : Option Toml.Value} {make : α → Toml.Value} (reads : ∀ value a, read? value = some a ↔ value = make a) :
    setting read? cause before held = .ok after ↔ ∃ a : Option α, held = a.map make ∧ after = a.getD before := by
  rw [setting_eq_ok_iff]
  constructor
  · rintro (⟨absent, same⟩ | ⟨value, present, found⟩)
    · exact ⟨none, absent, same⟩
    · exact ⟨some after, by rw [present, (reads value after).1 found, Option.map_some], rfl⟩
  · rintro ⟨a, held, rfl⟩
    cases a with
    | none => exact .inl ⟨held, rfl⟩
    | some a => exact .inr ⟨_, held, (reads _ a).2 rfl⟩

private theorem settingDir_given_iff {cause : SettingsCause} {before after : Option String} {held : Option Toml.Value} :
    setting (fun v => (textOf? v).map some) cause before held = .ok after ↔
      ∃ text : Option String, held = text.map .text ∧ after = text.or before := by
  rw [setting_eq_ok_iff]
  constructor
  · rintro (⟨absent, same⟩ | ⟨value, present, found⟩)
    · exact ⟨none, absent, same⟩
    · obtain ⟨text, read, rfl⟩ := Option.map_eq_some_iff.1 found
      exact ⟨some text, by rw [present, textOf?_eq_some_iff.1 read, Option.map_some], rfl⟩
  · rintro ⟨text, held, rfl⟩
    cases text with
    | none => exact .inl ⟨held, rfl⟩
    | some text => exact .inr ⟨_, held, rfl⟩

variable {s after : Settings} {path : String}

/-- The settings in a table are taken over just if each is of its kind. -/
theorem withTable_eq_ok_iff {table : Toml.Table} :
    s.withTable table = .ok after ↔ ∃ given : Given,
      table.lookup "subjects" = given.subjects.map (fun texts => .array (texts.map .text)) ∧
      table.lookup "output_dir" = given.outputDir.map .text ∧
      table.lookup "verbosity" = given.verbosity.map .integer ∧ after = s.updated given := by
  simp only [withTable, bind_eq_ok_iff, setting_given_iff fun _ _ => subjectsOf?_eq_some_iff,
    setting_given_iff fun _ _ => verbosityOf?_eq_some_iff, settingDir_given_iff]
  constructor
  · rintro ⟨_, ⟨subjects, subjectsHeld, rfl⟩, _, ⟨dir, dirHeld, rfl⟩, _, ⟨verbosity, verbosityHeld, rfl⟩, same⟩
    cases same
    exact ⟨⟨subjects, dir, verbosity⟩, subjectsHeld, dirHeld, verbosityHeld, rfl⟩
  · rintro ⟨⟨subjects, dir, verbosity⟩, subjectsHeld, dirHeld, verbosityHeld, rfl⟩
    exact ⟨_, ⟨subjects, subjectsHeld, rfl⟩, _, ⟨dir, dirHeld, rfl⟩, _, ⟨verbosity, verbosityHeld, rfl⟩, rfl⟩

/-! ## Sections -/

/-- A section that is no table, and that nobody can be told the unknown names of. -/
inductive Shapeless : Toml.Value → Prop
  /-- What lists nothing at all: a number, a truth value, or a moment. -/
  | single {value : Toml.Value} (noTable : ∀ entries, value ≠ .table entries) (noText : ∀ text, value ≠ .text text)
    (noArray : ∀ items, value ≠ .array items) : Shapeless value
  /-- An array with an item that is no name. -/
  | unnamed {items : List Toml.Value} {item : Toml.Value} (among : item ∈ items) (noText : ∀ text, item ≠ .text text) :
    Shapeless (.array items)
  /-- An array of nothing but names of settings. -/
  | known {items : List Toml.Value} (some : items ≠ []) (known : ∀ item ∈ items, ∃ name ∈ names, item = .text name) :
    Shapeless (.array items)

/-- A section holds nothing although it is no table. -/
def HoldsNothing (value : Toml.Value) : Prop := value = .text "" ∨ value = .array []

/-- What a section can be to the settings: a table of them, nothing, a shape that ends in another fault, or one that is
    refused in the proper way. -/
inductive Reading (s : Settings) (path : String) : Toml.Value → Except SettingsFailure Settings → Prop
  | table {entries : Toml.Table} {given : Given} (lists : Lists entries given) :
    Reading s path (.table entries) (.ok (s.updated given))
  | empty {value : Toml.Value} (holdsNothing : HoldsNothing value) : Reading s path value (.ok s)
  | shapeless {value : Toml.Value} (shapeless : Shapeless value) : Reading s path value (.error .noSettings)
  | refused {value : Toml.Value} {cause : SettingsCause}
    (noTable : ∀ entries given, value = .table entries → ¬Lists entries given) (shaped : ¬Shapeless value) :
    Reading s path value (.error (.refused (.file path cause)))

private theorem Lists.isKnown {entries : Toml.Table} {given : Given} (lists : Lists entries given) :
    ∀ name ∈ entries.map (fun entry => some entry.1), IsKnown name := by
  intro name among
  obtain ⟨entry, inside, rfl⟩ := List.mem_map.1 among
  exact ⟨entry.1, lists.known entry inside, rfl⟩

private theorem not_shapeless_table {entries : Toml.Table} : ¬Shapeless (.table entries) := by
  intro shapeless
  cases shapeless with
  | single noTable => exact noTable entries rfl

private theorem not_shapeless_text {text : String} : ¬Shapeless (.text text) := by
  intro shapeless
  cases shapeless with
  | single _ noText => exact noText text rfl

private theorem reading_table (entries : Toml.Table) :
    Reading s path (.table entries) (s.withSection path (.table entries)) := by
  have refused : ∀ cause, (∀ given, ¬Lists entries given) →
      Reading s path (.table entries) (.error (.refused (.file path cause))) := by
    intro cause never
    refine .refused ?_ not_shapeless_table
    rintro _ given ⟨⟩
    exact never given
  rw [withSection, listed?]
  rcases checkNames_cases path (entries.map fun entry => some entry.1) with
    ⟨known, passed⟩ | ⟨unnamed, _⟩ | ⟨_, ⟨name, among, unknown⟩, cause, failed⟩
  · have allKnown : ∀ entry ∈ entries, entry.1 ∈ names := by
      intro entry among
      obtain ⟨name, isName, same⟩ := known _ (List.mem_map_of_mem among)
      cases same
      exact isName
    simp only [passed]
    cases found : s.withTable entries with
    | ok after =>
      obtain ⟨given, subjects, dir, verbosity, rfl⟩ := withTable_eq_ok_iff.1 found
      exact .table ⟨allKnown, subjects, dir, verbosity⟩
    | error cause =>
      refine refused cause fun given lists => ?_
      rw [withTable_eq_ok_iff.2 ⟨given, lists.subjects, lists.outputDir, lists.verbosity, rfl⟩] at found
      cases found
  · simp at unnamed
  · simp only [failed]
    exact refused cause fun given lists => unknown (lists.isKnown name among)

private theorem singleton_not_mem_names {c : Char} : String.singleton c ∉ names := by
  intro among
  have short : ∀ name ∈ names, name.length ≠ 1 := by decide
  exact short _ among (by simp)

private theorem reading_text (text : String) : Reading s path (.text text) (s.withSection path (.text text)) := by
  rw [withSection, listed?]
  by_cases empty : text = ""
  · subst empty
    exact .empty (.inl rfl)
  · rcases checkNames_cases path (text.toList.map fun c => some (String.singleton c)) with
      ⟨known, _⟩ | ⟨unnamed, _⟩ | ⟨_, _, cause, failed⟩
    · obtain ⟨c, among⟩ : ∃ c, c ∈ text.toList := List.exists_mem_of_ne_nil _ (by simpa using empty)
      obtain ⟨name, isName, same⟩ := known _ (List.mem_map_of_mem among)
      exact absurd (Option.some.inj same ▸ isName) singleton_not_mem_names
    · simp at unnamed
    · simp only [failed]
      exact .refused (by simp) not_shapeless_text

private theorem textOf?_eq_none_iff {value : Toml.Value} : textOf? value = none ↔ ∀ text, value ≠ .text text := by
  cases value <;> simp [textOf?]

private theorem isKnown_textOf?_iff {value : Toml.Value} :
    IsKnown (textOf? value) ↔ ∃ name ∈ names, value = .text name := by
  simp only [IsKnown, textOf?_eq_some_iff]

private theorem shapeless_array_iff {items : List Toml.Value} : Shapeless (.array items) ↔
    none ∈ items.map textOf? ∨ items ≠ [] ∧ ∀ name ∈ items.map textOf?, IsKnown name := by
  constructor
  · intro shapeless
    cases shapeless with
    | single _ _ noArray => exact absurd rfl (noArray items)
    | unnamed among noText => exact .inl (List.mem_map.2 ⟨_, among, textOf?_eq_none_iff.2 noText⟩)
    | known some known =>
      refine .inr ⟨some, fun name among => ?_⟩
      obtain ⟨item, inside, rfl⟩ := List.mem_map.1 among
      exact isKnown_textOf?_iff.2 (known item inside)
  · rintro (unnamed | ⟨some, known⟩)
    · obtain ⟨item, among, noText⟩ := List.mem_map.1 unnamed
      exact .unnamed among (textOf?_eq_none_iff.1 noText)
    · exact .known some fun item among => isKnown_textOf?_iff.1 (known _ (List.mem_map_of_mem among))

private theorem reading_array (items : List Toml.Value) :
    Reading s path (.array items) (s.withSection path (.array items)) := by
  rw [withSection, listed?]
  by_cases values : items.any (·.holdsValues)
  · obtain ⟨item, among, holdsValues⟩ := List.any_eq_true.1 values
    rw [if_pos values]
    refine .shapeless (.unnamed among ?_)
    rintro text rfl
    cases holdsValues
  · rw [if_neg values]
    rcases checkNames_cases path (items.map textOf?) with
      ⟨known, passed⟩ | ⟨unnamed, failed⟩ | ⟨proper, ⟨name, among, unknown⟩, cause, failed⟩
    · simp only [passed]
      by_cases empty : items = []
      · subst empty
        exact .empty (.inr rfl)
      · have shapeless := shapeless_array_iff.2 (.inr ⟨empty, known⟩)
        have filled : (items.map textOf?).isEmpty = false := by simpa using empty
        simp only [filled]
        exact .shapeless shapeless
    · simp only [failed]
      exact .shapeless (shapeless_array_iff.2 (.inl unnamed))
    · simp only [failed]
      refine .refused (by simp) ?_
      rw [shapeless_array_iff]
      rintro (unnamed | ⟨_, known⟩)
      · exact proper unnamed
      · exact unknown (known name among)

theorem withSection_reading (s : Settings) (path : String) (value : Toml.Value) :
    Reading s path value (s.withSection path value) := by
  cases value with
  | table entries => exact reading_table entries
  | text text => exact reading_text text
  | array items => exact reading_array items
  | integer | float | boolean | moment => exact .shapeless (.single (by simp) (by simp) (by simp))

private theorem HoldsNothing.not_shapeless {value : Toml.Value} (holdsNothing : HoldsNothing value) :
    ¬Shapeless value := by
  rcases holdsNothing with rfl | rfl
  · exact not_shapeless_text
  · simp [shapeless_array_iff]

theorem withSection_of_lists {entries : Toml.Table} {given : Given} (lists : Lists entries given) :
    s.withSection path (.table entries) = .ok (s.updated given) := by
  have reading := withSection_reading s path (.table entries)
  generalize s.withSection path (.table entries) = outcome at reading ⊢
  cases reading with
  | table others => rw [lists.unique others]
  | empty holdsNothing => simp [HoldsNothing] at holdsNothing
  | shapeless shapeless => exact absurd shapeless not_shapeless_table
  | refused noTable => exact absurd lists (noTable entries given rfl)

theorem withSection_of_holdsNothing {value : Toml.Value} (holdsNothing : HoldsNothing value) :
    s.withSection path value = .ok s := by
  rcases holdsNothing with rfl | rfl
  · rfl
  · rfl

theorem withSection_of_shapeless {value : Toml.Value} (shapeless : Shapeless value) :
    s.withSection path value = .error .noSettings := by
  have reading := withSection_reading s path value
  generalize s.withSection path value = outcome at reading ⊢
  cases reading with
  | table => exact absurd shapeless not_shapeless_table
  | empty holdsNothing => exact absurd shapeless holdsNothing.not_shapeless
  | shapeless => rfl
  | refused _ shaped => exact absurd shapeless shaped

end EachSubject.Settings
