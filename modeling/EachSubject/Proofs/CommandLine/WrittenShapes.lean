import EachSubject.Emission
import EachSubject.Proofs.CommandLine.Delivery
import EachSubject.Proofs.Json.ReadBack
import EachSubject.Proofs.Overrides
import EachSubject.Shape.Document

/-!
# Emitting what was written

Writing a shape as a document and validating its text gives the shape back, with every field of it and of its methods
and parameters. So nothing is lost on the way through a file: what is emitted afterwards is what was to be emitted.

The content of a file leads to the wrapper of the shape that it describes, or is refused with the status one. Two kinds
of content are settled in neither way: bytes that are no text, and shapes whose module would hold the NUL character.
-/

namespace EachSubject

open Validated

/-! ## Fields -/

section

variable {α : Type} {read : Json → Validated α} {members : List (String × Json)} {name : String} {value : Json} {a : α}

/-- A field that is there is read. -/
theorem required_found (found : Json.lookup name members = some value) (reads : read value = .valid a) :
    required read name members = .valid a := by
  simp only [required, found, reads, within_valid]

/-- A field that is there is read, also if it may be absent. -/
theorem optional_found {absent : α} (found : Json.lookup name members = some value) (reads : read value = .valid a) :
    Validated.optional read absent name members = .valid a := by
  simp only [Validated.optional, found, reads, within_valid]

/-- The word for a value is read as the value. -/
theorem word_found {ofWord? : String → Option α} {spelled : String} (stands : ofWord? spelled = some a) :
    word ofWord? (.string spelled) = .valid a := by
  simp only [word, stands]

/-- A list is read if each of its items is. -/
theorem list_found {write : α → Json} (back : ∀ a, read (write a) = .valid a) (values : List α) :
    Validated.list read (.list (values.map write)) = .valid values := items_map back 0 values

end

theorem text_found (value : String) : text (.string value) = .valid value := rfl

/-! ## Parameters, methods and subjects -/

theorem ParameterShape.ofJson_toJson (p : ParameterShape) : ofJson p.toJson = .valid p := by
  rw [toJson, ofJson, Validated.object, ofMembers]
  rw [optional_found rfl (textOrNull_ofTextOrNull p.typeText), optional_found rfl (list_found text_found p.annotations),
    optional_found rfl (word_found p.kind.ofWord?_word), optional_found rfl (textOrNull_ofTextOrNull p.keyword),
    optional_found rfl (textOrNull_ofTextOrNull p.default)]
  rfl

theorem MethodShape.ofJson_toJson (m : MethodShape) : ofJson m.toJson = .valid m := by
  have parameters := list_found ParameterShape.ofJson_toJson m.parameters
  have truths (value : Bool) : truth (.bool value) = .valid value := rfl
  rw [toJson, ofJson, Validated.object, ofMembers]
  rw [required_found rfl (text_found m.name), required_found rfl (text_found m.owner),
    optional_found rfl (word_found m.visibility.ofWord?_word), optional_found rfl (textOrNull_ofTextOrNull m.returns),
    optional_found rfl parameters, optional_found rfl (truths m.isFinal), optional_found rfl (truths m.isPrivate),
    optional_found rfl (truths m.isStatic), optional_found rfl (truths m.isAsync),
    optional_found rfl (truths m.isGenerator)]
  rfl

theorem SubjectShape.ofJson_toJson (s : SubjectShape) : ofJson s.toJson = .valid s := by
  have methods := list_found MethodShape.ofJson_toJson s.methods
  rw [toJson, SubjectShape.members, ofJson, Validated.object, ofMembers]
  rw [required_found rfl (text_found s.package), required_found rfl (text_found s.simpleName),
    required_found rfl (text_found s.target), optional_found rfl methods]
  rfl

/-! ## Documents as texts -/

namespace Json

private theorem ofTextOrNull_wordy {depth : Nat} : ∀ value : Option String, IsWordy depth (.ofTextOrNull value)
  | none => .null
  | some text => .string text

private theorem map_wordy {α : Type} {depth : Nat} {write : α → Json} (wordy : ∀ a, IsWordy depth (write a))
    (values : List α) : IsWordy (depth + 1) (.list (values.map write)) := by
  refine .list fun item among => ?_
  obtain ⟨a, _, rfl⟩ := List.mem_map.1 among
  exact wordy a

end Json

open Json

private theorem ParameterShape.toJson_wordy {depth : Nat} (p : ParameterShape) : IsWordy (depth + 2) p.toJson := by
  refine .object ?_
  simp only [List.forall_mem_cons]
  exact ⟨ofTextOrNull_wordy p.typeText, map_wordy .string p.annotations, .string _, ofTextOrNull_wordy p.keyword,
    ofTextOrNull_wordy p.default, fun _ among => absurd among List.not_mem_nil⟩

private theorem MethodShape.toJson_wordy {depth : Nat} (m : MethodShape) : IsWordy (depth + 4) m.toJson := by
  refine .object ?_
  simp only [List.forall_mem_cons]
  exact ⟨.string _, .string _, .string _, ofTextOrNull_wordy m.returns,
    map_wordy ParameterShape.toJson_wordy m.parameters, .bool _, .bool _, .bool _, .bool _, .bool _,
    fun _ among => absurd among List.not_mem_nil⟩

private theorem SubjectShape.toJson_wordy {depth : Nat} (s : SubjectShape) : IsWordy (depth + 6) s.toJson := by
  refine .object ?_
  simp only [SubjectShape.members, List.forall_mem_cons]
  exact ⟨.string _, .string _, .string _, map_wordy MethodShape.toJson_wordy s.methods,
    fun _ among => absurd among List.not_mem_nil⟩

theorem SubjectShape.ofText_toJson (s : SubjectShape) : Validated.ofText ofJson s.toJson.render = .valid s := by
  have read : read? usualDepth s.toJson.render = some s.toJson := read_render s.toJson_wordy
  rw [Validated.ofText, read]
  exact s.ofJson_toJson

/-- Validating the text of a shape's document gives back the shape with all its fields, and so the same module or the
    same refusal. -/
theorem SubjectShape.ofText_render (s : SubjectShape) :
    Validated.ofText ofJson s.toJson.render = .valid s ∧
      (Validated.ofText ofJson s.toJson.render).map emit = .valid s.emit :=
  ⟨s.ofText_toJson, by rw [s.ofText_toJson, map_valid]⟩

end EachSubject

namespace EachSubject.CommandLine

/-- The content of a file is a text that describes the shape. -/
def Describes (content : ByteArray) (shape : SubjectShape) : Prop :=
  ∃ text, String.fromUTF8? content = some text ∧ Validated.ofText SubjectShape.ofJson text = .valid shape

theorem Describes.unique {content : ByteArray} {shape other : SubjectShape} (describes : Describes content shape)
    (also : Describes content other) : shape = other := by
  obtain ⟨_, isText, read⟩ := describes
  obtain ⟨_, same, read'⟩ := also
  cases isText.symm.trans same
  cases read.symm.trans read'
  rfl

private theorem fromUTF8?_toUTF8 (text : String) : String.fromUTF8? text.toUTF8 = some text :=
  dif_pos text.isValidUTF8

theorem describes_document (shape : SubjectShape) : Describes shape.toJson.render.toUTF8 shape :=
  ⟨_, fromUTF8?_toUTF8 _, shape.ofText_toJson⟩

/-- How emitting a content without an output directory can end, and what it has printed by then. -/
inductive Settles (content : ByteArray) (before : Trace) : Ending → Trace → Prop where
  /-- The wrapper is printed, and nothing else. -/
  | written {shape : SubjectShape} {source : WrapperSource} {after : Trace} (describes : Describes content shape)
    (emits : shape.emit = .ok source) (printed : after.printed = before.printed ++ source.code)
    (disk : after.disk = before.disk) : Settles content before (.exit 0) after
  /-- Nothing is printed, and there is no wrapper that could have been. -/
  | refused {text : String} {after : Trace} (isText : String.fromUTF8? content = some text)
    (noWrapper : ∀ shape, Describes content shape → ∃ error, shape.emit = .error (.refused error))
    (printed : after.printed = before.printed) (disk : after.disk = before.disk) :
    Settles content before (.exit 1) after
  | noText (noText : String.fromUTF8? content = none) : Settles content before (.fault .notText) before
  | unreadable {shape : SubjectShape} {c : Wrapper.Class} (describes : Describes content shape)
    (made : shape.wrapper = .ok c) (holdsNul : c.text.contains Source.nulCharacter = true) :
    Settles content before (.fault (.emission .nulCharacter)) before

namespace Surroundings

variable {s : Surroundings} {path : Path} {content : ByteArray} {before after : Trace} {ending : Ending}

/-- A module that cannot be read at all holds the NUL character. -/
private theorem holds_nul {shape : SubjectShape} (failed : shape.emit = .error .nulCharacter) :
    ∃ c, shape.wrapper = .ok c ∧ c.text.contains Source.nulCharacter = true := by
  rw [SubjectShape.emit] at failed
  cases made : shape.wrapper with
  | error refusal =>
    rw [made] at failed
    cases failed
  | ok c =>
    rw [made] at failed
    refine ⟨c, rfl, ?_⟩
    by_contra noNul
    simp only [Except.mapError, bind, Except.bind, if_neg noNul] at failed
    split at failed <;> cases failed

/-- Every content of a file is settled. -/
theorem emit_settles (found : before.disk.file? s.here path = .ok (some content))
    (ran : (s.emit none path).run before = (ending, after)) : Settles content before ending after := by
  have got : (get : Work Trace).run before = (before, before) := rfl
  rw [emit, run_bind, got] at ran
  dsimp only at ran
  rw [found] at ran
  dsimp only at ran
  cases isText : String.fromUTF8? content with
  | none =>
    rw [isText] at ran
    cases ran
    exact .noText isText
  | some text =>
    rw [isText] at ran
    simp only [emitText] at ran
    cases read : Validated.ofText SubjectShape.ofJson text with
    | invalid problems =>
      rw [read] at ran
      cases ran
      refine .refused isText (fun shape describes => ?_) rfl rfl
      obtain ⟨other, same, describes⟩ := describes
      cases isText.symm.trans same
      cases read.symm.trans describes
    | valid shape =>
      have describes : Describes content shape := ⟨text, isText, read⟩
      rw [read] at ran
      dsimp only at ran
      cases emitted : shape.emit with
      | error failure =>
        rw [emitted] at ran
        cases failure with
        | refused error =>
          cases ran
          refine .refused isText (fun other also => ⟨error, ?_⟩) rfl rfl
          rw [← describes.unique also, emitted]
        | nulCharacter =>
          obtain ⟨c, made, holdsNul⟩ := holds_nul emitted
          cases ran
          exact .unreadable describes made holdsNul
      | ok source =>
        rw [emitted] at ran
        cases ran
        exact .written describes emitted rfl rfl

/-! ### An example -/

/-- A directory with one document. -/
def sampleDisk (content : ByteArray) : Disk where
  entries := [(["shop"], .directory), (["shop", "prices.json"], .file content)]

private theorem sampleDisk_found (content : ByteArray) :
    (sampleDisk content).file? shop.here ⟨"", ["prices.json"]⟩ = .ok (some content) := rfl

theorem sample_settles :
    ((shop.emit none ⟨"", ["prices.json"]⟩).run { disk := sampleDisk sampleShape.toJson.render.toUTF8 }).1 = .exit 0 ∧
    ((shop.emit none ⟨"", ["prices.json"]⟩).run { disk := sampleDisk sampleShape.toJson.render.toUTF8 }).2.printed =
      sampleSource.code := by
  have describes := describes_document sampleShape
  cases ran : (shop.emit none ⟨"", ["prices.json"]⟩).run { disk := sampleDisk sampleShape.toJson.render.toUTF8 } with
  | mk ending after =>
    have settles := emit_settles (sampleDisk_found sampleShape.toJson.render.toUTF8) ran
    cases settles with
    | written other emits printed =>
      cases describes.unique other
      cases sampleShape_emit.symm.trans emits
      exact ⟨rfl, printed⟩
    | refused _ noWrapper =>
      obtain ⟨_, refused⟩ := noWrapper _ describes
      cases sampleShape_emit.symm.trans refused
    | noText noText =>
      obtain ⟨_, isText, _⟩ := describes
      cases noText.symm.trans isText
    | unreadable other made holdsNul =>
      cases describes.unique other
      obtain ⟨_, made', _, noNul⟩ := SubjectShape.emit_ok sampleShape_emit
      cases made.symm.trans made'
      cases noNul.symm.trans holdsNul

end Surroundings

end EachSubject.CommandLine
