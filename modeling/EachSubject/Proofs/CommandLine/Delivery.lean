import EachSubject.CommandLine.Commands
import EachSubject.Disk.Basic
import EachSubject.Proofs.Outcome
import EachSubject.Proofs.Visibility
import EachSubject.Proofs.World.Chains
import EachSubject.Proofs.Wrapper.Emission
import Mathlib.Logic.Function.Basic

/-!
# What is delivered

Seen as a function from places to contents, a disk changes in one way only: making directories leaves every file as it
is, and writing a file changes the content at the place where its path leads.

Wrappers are built and delivered one subject after the other, up to the first subject that is refused. Whatever was
delivered by then stays, in the order of the subjects, and nothing of what comes behind it is touched.
-/

namespace EachSubject.Disk

/-- The content of the file at a place. -/
def fileAt (d : Disk) (place : Place) : Option ByteArray :=
  match d.entry? place with
  | some (.file content) => some content
  | _ => none

/-! ## Places -/

theorem walk_ok {d : Disk} : ∀ {parts : List String} {here place : Place}, d.walk here parts = .ok place →
    place = parts.foldl Place.follow here
  | [], _, _, walked => by
    cases walked
    rfl
  | part :: rest, here, place, walked => by
    rw [walk] at walked
    split at walked
    · cases walked
    · cases walked
    · split at walked
      · cases walked
      · rw [List.foldl_cons]
        exact walk_ok walked

/-- Where a path leads at all, it leads where its names do. -/
theorem locate_ok {d : Disk} {here place : Place} {p : Path} (located : d.locate here p = .ok place) :
    place = here.resolve p := by
  rw [locate] at located
  split at located
  · cases located
  · split at located
    · cases located
    · exact walk_ok located

/-! ## Entries -/

theorem entry?_put {d : Disk} {place : Place} (inside : place ≠ []) (entry : DiskEntry) (other : Place) :
    Disk.entry? (d.put place entry) other = if other = place then some entry else d.entry? other := by
  have filtered (apart : other ≠ place) : ∀ entries : List (Place × DiskEntry),
      (entries.filter fun e => e.1 != place).lookup other = entries.lookup other := by
    intro entries
    induction entries with
    | nil => rfl
    | cons first rest ih =>
      obtain ⟨key, value⟩ := first
      by_cases same : key = place
      · subst same
        rw [List.filter_cons_of_neg (by simp), ih, List.lookup_cons, beq_eq_false_iff_ne.2 apart]
      · rw [List.filter_cons_of_pos (by simpa using same), List.lookup_cons, List.lookup_cons, ih]
  unfold entry?
  by_cases same : other = place
  · subst same
    rw [if_neg (by simpa using inside), if_pos rfl]
    exact List.lookup_cons_self
  · rw [if_neg same]
    split
    · rfl
    · change List.lookup other ((place, entry) :: _) = _
      rw [List.lookup_cons, beq_eq_false_iff_ne.2 same]
      exact filtered same d.entries

private theorem inside_of_entry {d : Disk} {place : Place} (noDirectory : d.entry? place ≠ some .directory) :
    place ≠ [] := by
  rintro rfl
  exact noDirectory rfl

/-! ## Directories -/

private theorem makeDirectory_files {d made : Disk} {here : Place} {p : Path}
    (makes : d.makeDirectory here p = .ok made) : made.fileAt = d.fileAt := by
  rw [makeDirectory] at makes
  obtain ⟨place, _, makes⟩ := bind_eq_ok_iff.1 makes
  cases found : d.entry? place with
  | some entry =>
    rw [found] at makes
    cases makes
  | none =>
    rw [found] at makes
    cases makes
    funext other
    have noDirectory : d.entry? place ≠ some .directory := by simp [found]
    rw [fileAt, fileAt, entry?_put (inside_of_entry noDirectory)]
    by_cases same : other = place
    · rw [if_pos same, same, found]
    · rw [if_neg same]

private theorem ensureDirectory_files {d made : Disk} {here : Place} {p : Path}
    (makes : d.ensureDirectory here p = .ok made) : made.fileAt = d.fileAt := by
  rw [ensureDirectory] at makes
  split at makes
  · rename_i fresh
    cases makes
    exact makeDirectory_files fresh
  · cases makes
  · cases makes
  · cases asked : d.isDirectory here p with
    | error fault =>
      rw [asked] at makes
      cases makes
    | ok answer =>
      rw [asked] at makes
      cases answer <;> cases makes
      rfl

private theorem ensureParents_files {here : Place} : ∀ {depth : Nat} {d made : Disk} {p : Path},
    d.ensureParents here p depth = .ok made → made.fileAt = d.fileAt
  | 0, _, _, _, makes => ensureDirectory_files makes
  | depth + 1, d, made, p, makes => by
    rw [ensureParents] at makes
    split at makes
    · cases above : d.ensureParents here p.parent depth with
      | error fault =>
        rw [above] at makes
        cases makes
      | ok between =>
        rw [above] at makes
        exact (ensureDirectory_files makes).trans (ensureParents_files above)
    · exact ensureDirectory_files makes

/-- Making a directory with all those above it changes no file. -/
theorem ensurePath_files {d made : Disk} {here : Place} {p : Path} (makes : d.ensurePath here p = .ok made) :
    made.fileAt = d.fileAt :=
  ensureParents_files makes

/-! ## Files -/

/-- Writing a file sets the content at its place, and nothing else. -/
theorem write_files {d written : Disk} {here : Place} {p : Path} {content : ByteArray}
    (writes : d.write here p content = .ok written) :
    written.fileAt = Function.update d.fileAt (here.resolve p) (some content) := by
  rw [write] at writes
  obtain ⟨place, located, writes⟩ := bind_eq_ok_iff.1 writes
  obtain rfl := locate_ok located
  split at writes
  · cases writes
  · rename_i noDirectory
    cases writes
    funext other
    rw [fileAt, entry?_put (inside_of_entry noDirectory)]
    by_cases same : other = here.resolve p
    · rw [if_pos same, same, Function.update_self]
    · rw [if_neg same, Function.update_of_ne same, fileAt]

end EachSubject.Disk

namespace EachSubject.CommandLine

namespace Surroundings

variable (s : Surroundings)

/-! ## What there is to deliver -/

/-- The wrapper of the subject of an import string, if the string leads to one and its wrapper can be built. -/
def wrapper? (path : String) : Option WrapperSource :=
  match s.subject path with
  | .ok subject => (s.world.build subject).toOption
  | .error _ => none

/-- The wrappers of the longest run of subjects from the first one on that can all be built. -/
def leading (subjects : List String) : List WrapperSource :=
  ((subjects.map s.wrapper?).takeWhile (·.isSome)).filterMap id

/-- The place of the file for a wrapper in a directory. -/
def fileOf (dir : Path) (source : WrapperSource) : Place :=
  s.here.resolve (dir.child (Wrapper.moduleFileName source.className))

/-- The files after one wrapper was written into a directory. -/
def withModule (dir : Path) (files : Place → Option ByteArray) (source : WrapperSource) : Place → Option ByteArray :=
  Function.update files (s.fileOf dir source) (some source.code.toUTF8)

/-- Wrappers are delivered in order: without a directory they are printed one behind the other, and no file changes;
    with one, each is written over the files that there are, and nothing is printed. -/
def Delivers (outputDir : Option Path) (sources : List WrapperSource) (before after : Trace) : Prop :=
  match outputDir with
  | none => after.printed = before.printed ++ String.join (sources.map (·.code)) ∧ after.disk = before.disk
  | some dir => after.printed = before.printed ∧
      after.disk.fileAt = sources.foldl (s.withModule dir) before.disk.fileAt

variable {s} {outputDir : Option Path}

theorem leading_cons_some {path : String} {source : WrapperSource} (built : s.wrapper? path = some source)
    (rest : List String) : s.leading (path :: rest) = source :: s.leading rest := by
  rw [leading, List.map_cons, List.takeWhile_cons_of_pos (by rw [built]; rfl),
    List.filterMap_cons_some (by exact built)]
  rfl

theorem leading_cons_none {path : String} (refused : s.wrapper? path = none) (rest : List String) :
    s.leading (path :: rest) = [] := by
  rw [leading, List.map_cons, List.takeWhile_cons_of_neg (by rw [refused]; decide)]
  rfl

/-- What is shown and logged delivers nothing. -/
theorem delivers_nothing {before after : Trace} (printed : after.printed = before.printed)
    (disk : after.disk = before.disk) : s.Delivers outputDir [] before after := by
  cases outputDir with
  | none => exact ⟨by rw [printed]; simp [String.join], disk⟩
  | some dir => exact ⟨printed, by rw [disk]; rfl⟩

theorem Delivers.append {first second : List WrapperSource} {before between after : Trace}
    (one : s.Delivers outputDir first before between) (two : s.Delivers outputDir second between after) :
    s.Delivers outputDir (first ++ second) before after := by
  cases outputDir with
  | none =>
    obtain ⟨printed, disk⟩ := one
    obtain ⟨printed', disk'⟩ := two
    exact ⟨by rw [printed', printed, List.map_append, String.join_append, String.append_assoc], disk'.trans disk⟩
  | some dir =>
    obtain ⟨printed, files⟩ := one
    obtain ⟨printed', files'⟩ := two
    exact ⟨printed'.trans printed, by rw [files', files, List.foldl_append]⟩

/-- Files that are none of the delivered ones stay as they are. -/
theorem Delivers.others {sources : List WrapperSource} {before after : Trace}
    (delivers : s.Delivers outputDir sources before after) {place : Place}
    (other : ∀ dir ∈ outputDir, ∀ source ∈ sources, place ≠ s.fileOf dir source) :
    after.disk.fileAt place = before.disk.fileAt place := by
  cases outputDir with
  | none => rw [delivers.2]
  | some dir =>
    have untouched : ∀ (sources : List WrapperSource) (files : Place → Option ByteArray),
        (∀ source ∈ sources, place ≠ s.fileOf dir source) →
          sources.foldl (s.withModule dir) files place = files place := by
      intro sources
      induction sources with
      | nil => exact fun _ _ => rfl
      | cons source rest ih =>
        intro files apart
        rw [List.foldl_cons, ih _ fun later among => apart later (List.mem_cons_of_mem source among)]
        exact Function.update_of_ne (apart source List.mem_cons_self) _ _
    rw [delivers.2]
    exact untouched sources _ (other dir rfl)

/-! ## Delivering -/

/-- A part of a run behind another one starts from what that one left. -/
theorem run_bind {α β : Type} (work : Work α) (more : α → Work β) (t : Trace) :
    (work >>= more).run t = (more (work.run t).1).run (work.run t).2 := rfl

private theorem logNotes_kept (notes : List Note) (t : Trace) :
    ((Work.logNotes notes).run t).2.printed = t.printed ∧ ((Work.logNotes notes).run t).2.disk = t.disk := by
  change (if t.level = .debug then _ else t : Trace).printed = _ ∧ (if t.level = .debug then _ else t : Trace).disk = _
  split <;> exact ⟨rfl, rfl⟩

private theorem writeInto_files {d written : Disk} {dir : Path} {source : WrapperSource}
    (writes : s.writeInto d dir source = .ok written) : written.fileAt = s.withModule dir d.fileAt source := by
  rw [writeInto] at writes
  cases made : d.ensurePath s.here dir with
  | error fault =>
    rw [made] at writes
    cases writes
  | ok between =>
    rw [made] at writes
    rw [Disk.write_files writes, Disk.ensurePath_files made]
    rfl

/-- A wrapper that is delivered without a fault has been delivered. -/
theorem deliver_delivers {source : WrapperSource} {before after : Trace}
    (ran : (s.deliver outputDir source).run before = (none, after)) : s.Delivers outputDir [source] before after := by
  cases outputDir with
  | none =>
    cases ran
    exact ⟨by simp [String.join], rfl⟩
  | some dir =>
    have got : (get : Work Trace).run before = (before, before) := rfl
    rw [deliver] at ran
    dsimp only at ran
    rw [run_bind, got] at ran
    dsimp only at ran
    cases written : s.writeInto before.disk dir source with
    | error fault =>
      rw [written] at ran
      cases ran
    | ok disk =>
      rw [written] at ran
      have logged (text : String) (t : Trace) : ((Work.log .info text).run t).2.printed = t.printed ∧
          ((Work.log .info text).run t).2.disk = t.disk := by
        change (if t.level.weight ≤ LogLevel.info.weight then _ else t : Trace).printed = _ ∧
          (if t.level.weight ≤ LogLevel.info.weight then _ else t : Trace).disk = _
        split <;> exact ⟨rfl, rfl⟩
      obtain ⟨printed, kept⟩ := logged ("Wrote " ++ (dir.child (Wrapper.moduleFileName source.className)).text)
        { before with disk }
      cases ran
      exact ⟨printed, (congrArg Disk.fileAt kept).trans (writeInto_files written)⟩

/-- What stops a build ends the run: with the status one if it is a refusal. -/
private theorem finish_run (obstacle : Obstacle) (t : Trace) :
    ∃ after, obstacle.finish.run t = (match obstacle with
      | .refused _ => .exit 1
      | .fault cause => .fault cause, after) ∧ after.printed = t.printed ∧ after.disk = t.disk := by
  cases obstacle <;> exact ⟨_, rfl, rfl, rfl⟩

/-- The subjects are delivered up to the first that is refused, and the status tells whether there is one. -/
theorem deliverAll_delivers : ∀ {subjects : List String} {before after : Trace} {ending : Ending},
    (s.deliverAll outputDir subjects).run before = (ending, after) → (∀ fault, ending ≠ .fault fault) →
      ending = .exit (if (s.leading subjects).length = subjects.length then 0 else 1) ∧
        s.Delivers outputDir (s.leading subjects) before after
  | [], _, _, _, ran, _ => by
    cases ran
    exact ⟨rfl, delivers_nothing rfl rfl⟩
  | path :: rest, before, after, ending, ran, caught => by
    have refusing (refused : s.wrapper? path = none) {obstacle : Obstacle} {between : Trace}
        (finished : obstacle.finish.run between = (ending, after)) (printed : between.printed = before.printed)
        (disk : between.disk = before.disk) :
        ending = .exit (if (s.leading (path :: rest)).length = (path :: rest).length then 0 else 1) ∧
          s.Delivers outputDir (s.leading (path :: rest)) before after := by
      obtain ⟨_, found, printed', disk'⟩ := finish_run obstacle between
      cases found.symm.trans finished
      rw [leading_cons_none refused]
      refine ⟨?_, delivers_nothing (printed'.trans printed) (disk'.trans disk)⟩
      cases obstacle with
      | refused _ => rfl
      | fault cause => exact absurd rfl (caught cause)
    rw [deliverAll] at ran
    cases found : s.subject path with
    | error obstacle =>
      rw [found] at ran
      exact refusing (by rw [wrapper?, found]) ran rfl rfl
    | ok subject =>
      rw [found] at ran
      dsimp only at ran
      rw [run_bind] at ran
      obtain ⟨printed, disk⟩ := logNotes_kept (s.world.buildNotes subject) before
      cases built : s.world.build subject with
      | error failure =>
        rw [built] at ran
        exact refusing (by rw [wrapper?, found]; simp only [built]; rfl) ran printed disk
      | ok source =>
        rw [built] at ran
        dsimp only at ran
        rw [run_bind] at ran
        have isBuilt : s.wrapper? path = some source := by
          rw [wrapper?, found]
          simp only [built]
          rfl
        cases delivered : (s.deliver outputDir source).run
          ((Work.logNotes (s.world.buildNotes subject)).run before).2 with
        | mk outcome between =>
          rw [delivered] at ran
          cases outcome with
          | some fault =>
            cases ran
            exact absurd rfl (caught fault)
          | none =>
            obtain ⟨status, further⟩ := deliverAll_delivers ran caught
            have one := (delivers_nothing printed disk).append (deliver_delivers delivered)
            rw [leading_cons_some isBuilt]
            refine ⟨?_, one.append further⟩
            simp only [status, List.length_cons, Nat.add_right_cancel_iff]

/-- A wrapper that cannot be delivered leaves everything as it was. -/
theorem deliver_fails {source : WrapperSource} {before after : Trace} {fault : RunFault}
    (ran : (s.deliver outputDir source).run before = (some fault, after)) : after = before := by
  cases outputDir with
  | none => cases ran
  | some dir =>
    have got : (get : Work Trace).run before = (before, before) := rfl
    rw [deliver] at ran
    dsimp only at ran
    rw [run_bind, got] at ran
    dsimp only at ran
    cases written : s.writeInto before.disk dir source with
    | error fault =>
      rw [written] at ran
      cases ran
      rfl
    | ok disk =>
      rw [written] at ran
      cases ran

/-- However a run ends, what it has delivered by then is the beginning of what there is to deliver. -/
theorem deliverAll_begins : ∀ {subjects : List String} {before after : Trace} {ending : Ending},
    (s.deliverAll outputDir subjects).run before = (ending, after) →
      ∃ sources, sources <+: s.leading subjects ∧ s.Delivers outputDir sources before after
  | [], _, _, _, ran => by
    cases ran
    exact ⟨[], List.nil_prefix, delivers_nothing rfl rfl⟩
  | path :: rest, before, after, ending, ran => by
    have nothing (printed : after.printed = before.printed) (disk : after.disk = before.disk) :
        ∃ sources, sources <+: s.leading (path :: rest) ∧ s.Delivers outputDir sources before after :=
      ⟨[], List.nil_prefix, delivers_nothing printed disk⟩
    rw [deliverAll] at ran
    cases found : s.subject path with
    | error obstacle =>
      rw [found] at ran
      obtain ⟨_, finished, printed, disk⟩ := finish_run obstacle before
      cases finished.symm.trans ran
      exact nothing printed disk
    | ok subject =>
      rw [found] at ran
      dsimp only at ran
      rw [run_bind] at ran
      obtain ⟨printed, disk⟩ := logNotes_kept (s.world.buildNotes subject) before
      cases built : s.world.build subject with
      | error failure =>
        rw [built] at ran
        obtain ⟨_, finished, printed', disk'⟩ := finish_run (.ofBuild failure)
          ((Work.logNotes (s.world.buildNotes subject)).run before).2
        cases finished.symm.trans ran
        exact nothing (printed'.trans printed) (disk'.trans disk)
      | ok source =>
        rw [built] at ran
        dsimp only at ran
        rw [run_bind] at ran
        have isBuilt : s.wrapper? path = some source := by
          rw [wrapper?, found]
          simp only [built]
          rfl
        cases delivered : (s.deliver outputDir source).run
          ((Work.logNotes (s.world.buildNotes subject)).run before).2 with
        | mk outcome between =>
          rw [delivered] at ran
          cases outcome with
          | some fault =>
            cases ran
            have unchanged := deliver_fails delivered
            exact nothing (by rw [← printed, ← unchanged]) (by rw [← disk, ← unchanged])
          | none =>
            obtain ⟨sources, begins, further⟩ := deliverAll_begins ran
            have one := (delivers_nothing printed disk).append (deliver_delivers delivered)
            refine ⟨source :: sources, ?_, one.append further⟩
            rw [leading_cons_some isBuilt]
            exact List.cons_prefix_cons.2 ⟨rfl, begins⟩

end Surroundings

/-! ### An example -/

section

open Source Wrapper

/-- A module with one class of subjects, `class PriceSubject(Subject["PriceSubject", int])`. -/
def shop : Surroundings where
  world := { World.empty.withClass (World.empty.madeBelow ⟨"shop", "PriceSubject"⟩ subjectClass
    [.forward "PriceSubject", .ofClass (.builtin "int")]) with modules := ["shop"] }
  here := ["shop"]
  vars := []

/-- The wrapper class of its subjects. -/
def shopClass : Wrapper.Class where
  package := "shop"
  subjectName := "PriceSubject"
  targetType := "int"
  overrides := []

/-- The module of the wrapper class. -/
def shopSource : WrapperSource where
  className := shopClass.name
  package := "shop"
  code := shopClass.text

theorem shop_subject : shop.subject "shop:PriceSubject" = .ok (.ofClass ⟨"shop", "PriceSubject"⟩) := by
  have found : shop.world.resolveImport "shop:PriceSubject" = .ok ⟨"shop", "PriceSubject"⟩ :=
    eq_ok_of_toOption (by decide)
  rw [Surroundings.subject, found]

/-- Nothing is seen of the classes above, of which the root of all classes has so many members that they are not
    looked at one by one. -/
private theorem shop_methods : Description.methods shop.world ⟨"shop", "PriceSubject"⟩ = [] := by
  have order : shop.world.orderOf ⟨"shop", "PriceSubject"⟩ =
      [⟨"shop", "PriceSubject"⟩, subjectClass, genericClass, objectClass] := by decide +kernel
  rw [Description.methods, order, Description.methodsOf]
  dsimp only
  rw [Description.methodsOf]
  dsimp only
  rw [Description.methodsOf]
  dsimp only
  rw [Description.methodsOf_object]
  rfl

private theorem shop_describe : shop.world.describe (.ofClass ⟨"shop", "PriceSubject"⟩) =
    .ok { package := "shop", simpleName := "PriceSubject", target := "int", methods := [] } := by
  have head : Description.head shop.world (.ofClass ⟨"shop", "PriceSubject"⟩) =
      .ok (⟨"shop", "PriceSubject"⟩, "shop.PriceSubject", "int") := eq_ok_of_toOption (by decide +kernel)
  refine bind_eq_ok_iff.2 ⟨_, head, ?_⟩
  dsimp only
  rw [shop_methods]
  rfl

theorem shop_build : shop.world.build (.ofClass ⟨"shop", "PriceSubject"⟩) = .ok shopSource := by
  have complete : SubjectShape.IsComplete
      { package := "shop", simpleName := "PriceSubject", target := "int", methods := [] } := by
    constructor
    case target => exact ⟨_, [.word "int"], ⟨by decide, by decide, by decide, by decide⟩, rfl⟩
    all_goals exact fun m among => absurd (SubjectShape.mem_eligibleMethods.1 among).1 List.not_mem_nil
  have made : SubjectShape.wrapper { package := "shop", simpleName := "PriceSubject", target := "int", methods := [] } =
      .ok shopClass := rfl
  have word : textTokens shopClass.targetType = [.word "int"] :=
    Spells.textTokens_eq ⟨by decide, by decide, by decide, by decide⟩
  have shallow : shopClass.IsShallow 0 :=
    { targetType := by
        rw [word]
        exact .neutral rfl .nil
      overrides := fun o among => absurd among List.not_mem_nil }
  have tokens : (tokens? shopClass.text.toList).isSome = true :=
    Option.isSome_iff_exists.2
      ⟨_, Class.tokens_of_shallow (SubjectShape.wrapper_readable complete made) shallow (by decide)⟩
  rw [World.build, shop_describe]
  dsimp only
  rw [SubjectShape.emit_of_tokens complete made tokens]
  rfl

/-- A text without a class leads nowhere. -/
private theorem shop_nowhere : shop.subject "nowhere" =
    .error (.refused (DescriptionError.mk "nowhere" .malformedPath).message) := by
  have noPath : splitImportString? "nowhere" = none := by decide
  rw [Surroundings.subject, World.resolveImport, noPath]
  rfl

end

end EachSubject.CommandLine
