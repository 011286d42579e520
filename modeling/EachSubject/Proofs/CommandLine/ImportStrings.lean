import EachSubject.Proofs.CommandLine.Delivery
import Mathlib.Data.List.TakeWhile

/-!
# Subjects by their import strings

An import string leads to the class of subjects that stands under its name in its module, and to nothing else. Any
other string is refused, and a command ends with the status one at the first string that is refused, unless the
string gives no module, or a module seen from another one: then the import itself fails.
-/

namespace EachSubject

/-! ## Modules and names -/

/-- The text of a path consists of a module, a separator and a name. The separator is the last colon, or the last
    point of a path without a colon. -/
inductive Addresses (path module name : String) : Prop where
  | colon (cut : path.toList = module.toList ++ ':' :: name.toList) (last : ':' ∉ name.toList)
  | point (noColon : ':' ∉ path.toList) (cut : path.toList = module.toList ++ '.' :: name.toList)
      (last : '.' ∉ name.toList)

theorem splitLast?_eq_some_iff {separator : Char} {text before after : List Char} :
    splitLast? separator text = some (before, after) ↔ text = before ++ separator :: after ∧ separator ∉ after := by
  constructor
  · intro split
    have whole := List.takeWhile_append_dropWhile (p := (· != separator)) (l := text.reverse)
    have clear : ∀ c ∈ text.reverse.takeWhile (· != separator), c ≠ separator := fun c inside => by
      simpa using List.mem_takeWhile_imp inside
    rw [splitLast?] at split
    cases rest : text.reverse.dropWhile (· != separator) with
    | nil =>
      rw [rest] at split
      cases split
    | cons c reversed =>
      have stops := List.head_dropWhile_not (p := (· != separator)) (l := text.reverse) (by rw [rest]; simp)
      have isSeparator : c = separator := by simpa [rest] using stops
      rw [rest] at split whole
      cases split
      refine ⟨?_, fun inside => clear separator (List.mem_reverse.1 inside) rfl⟩
      have turned := congrArg List.reverse whole
      rw [List.reverse_reverse, List.reverse_append, List.reverse_cons, isSeparator] at turned
      rw [List.append_assoc, List.singleton_append] at turned
      exact turned.symm
  · rintro ⟨rfl, last⟩
    have clear : ∀ c ∈ after.reverse, (c != separator) = true := fun c inside =>
      bne_iff_ne.2 fun same => last (same ▸ List.mem_reverse.1 inside)
    have turned : (before ++ separator :: after).reverse = after.reverse ++ separator :: before.reverse := by simp
    rw [splitLast?, turned, List.takeWhile_append_of_pos clear, List.dropWhile_append_of_pos clear]
    simp

theorem splitLast?_eq_none_iff {separator : Char} {text : List Char} :
    splitLast? separator text = none ↔ separator ∉ text := by
  rw [← not_iff_not, not_not, ← ne_eq, Option.ne_none_iff_exists']
  constructor
  · rintro ⟨⟨before, after⟩, split⟩
    rw [(splitLast?_eq_some_iff.1 split).1]
    exact List.mem_append_right _ List.mem_cons_self
  · intro inside
    obtain ⟨before, after, cut, last⟩ := List.eq_append_cons_of_mem (List.mem_reverse.2 inside)
    have last : separator ∉ before.reverse := fun among => last (List.mem_reverse.1 among)
    refine ⟨(after.reverse, before.reverse), splitLast?_eq_some_iff.2 ⟨?_, last⟩⟩
    rw [← List.reverse_reverse text, cut]
    simp

/-- A path is split into the module and the name that it gives. -/
theorem splitImportString?_eq_some_iff {path module name : String} :
    splitImportString? path = some (module, name) ↔ Addresses path module name := by
  have pieces {before after : List Char} :
      (String.ofList before, String.ofList after) = (module, name) ↔ before = module.toList ∧ after = name.toList := by
    rw [Prod.mk.injEq, ← String.toList_inj, ← String.toList_inj, String.toList_ofList, String.toList_ofList]
  rw [splitImportString?]
  constructor
  · intro split
    obtain ⟨⟨before, after⟩, found, same⟩ := Option.map_eq_some_iff.1 split
    obtain ⟨rfl, rfl⟩ := pieces.1 same
    cases colon : splitLast? ':' path.toList with
    | some cut =>
      rw [colon, Option.some_or] at found
      cases found
      obtain ⟨cut, last⟩ := splitLast?_eq_some_iff.1 colon
      exact .colon cut last
    | none =>
      rw [colon, Option.none_or] at found
      obtain ⟨cut, last⟩ := splitLast?_eq_some_iff.1 found
      exact .point (splitLast?_eq_none_iff.1 colon) cut last
  · rintro (⟨cut, last⟩ | ⟨noColon, cut, last⟩)
    · rw [splitLast?_eq_some_iff.2 ⟨cut, last⟩]
      exact congrArg some (pieces.2 ⟨rfl, rfl⟩)
    · rw [splitLast?_eq_none_iff.2 noColon, splitLast?_eq_some_iff.2 ⟨cut, last⟩]
      exact congrArg some (pieces.2 ⟨rfl, rfl⟩)

/-! ## What stands in a module -/

namespace World

/-- The name stands for a class of subjects in the module: one that is declared at its top, or the base class in a
    module of the library that exports it. -/
inductive Offers (w : World) (module name : String) : ClassName → Prop where
  | declared {c : ClassInfo} (inside : c ∈ w.classes) (named : c.name = ⟨module, name⟩)
      (top : c.name.isTopLevel = true) (subject : w.isSubclass c.name subjectClass = true) : Offers w module name c.name
  | base (exports : module ∈ subjectExporters) (named : name = subjectClass.path) (foreign : module ∉ w.modules)
      (free : ∀ c ∈ w.classes, c.name ≠ ⟨module, name⟩) : Offers w module name subjectClass

/-- The path gives a module that can be imported, and a name that stands for the class there. -/
def Finds (w : World) (path : String) (found : ClassName) : Prop :=
  ∃ module name, Addresses path module name ∧ module ≠ "" ∧ module.toList.head? ≠ some '.' ∧
    w.importModule module = .ok () ∧ w.Offers module name found

variable {w : World} {module name : String}

private theorem topLevel?_eq_some {c : ClassInfo} (found : w.topLevel? module name = some c) :
    c ∈ w.classes ∧ c.name = ⟨module, name⟩ ∧ c.name.isTopLevel = true := by
  have holds := List.find?_some found
  simp only [Bool.and_eq_true, beq_iff_eq] at holds
  obtain ⟨⟨top, rfl⟩, rfl⟩ := holds
  exact ⟨List.mem_of_find?_eq_some found, rfl, top⟩

private theorem topLevel?_of_mem {c : ClassInfo} (inside : c ∈ w.classes) (named : c.name = ⟨module, name⟩)
    (top : c.name.isTopLevel = true) : ∃ other, w.topLevel? module name = some other := by
  refine Option.isSome_iff_exists.1 (List.find?_isSome.2 ⟨c, inside, ?_⟩)
  rw [named] at top ⊢
  simp [top]

/-- What an import finds in a module is what the name stands for there. -/
theorem importedSubject?_eq_some_iff {found : ClassName} :
    w.importedSubject? module name = some found ↔ w.Offers module name found := by
  rw [importedSubject?]
  constructor
  · intro imports
    cases top : w.topLevel? module name with
    | some c =>
      obtain ⟨inside, named, top'⟩ := topLevel?_eq_some top
      rw [top] at imports
      dsimp only at imports
      split at imports
      · rename_i subject
        cases imports
        exact .declared inside named top' subject
      · cases imports
    | none =>
      rw [top] at imports
      dsimp only at imports
      split at imports
      · rename_i exported
        cases imports
        simp only [Bool.and_eq_true, decide_eq_true_eq, Bool.not_eq_true', List.contains_eq_mem,
          decide_eq_false_iff_not] at exported
        obtain ⟨⟨exports, rfl⟩, foreign⟩ := exported
        refine .base exports rfl foreign fun c inside named => ?_
        have isTop : (ClassName.mk module subjectClass.path).isTopLevel = true := by
          change (ClassName.mk subjectClass.module subjectClass.path).isTopLevel = true
          decide
        obtain ⟨other, found⟩ := topLevel?_of_mem inside named (by rw [named]; exact isTop)
        rw [top] at found
        cases found
      · cases imports
  · rintro (⟨inside, named, top, subject⟩ | ⟨exports, rfl, foreign, free⟩)
    · obtain ⟨other, found⟩ := topLevel?_of_mem inside named top
      have same := (topLevel?_eq_some found).2.1.trans named.symm
      rw [found]
      dsimp only
      rw [same, if_pos subject]
    · have nothing : w.topLevel? module subjectClass.path = none := by
        cases found : w.topLevel? module subjectClass.path with
        | none => rfl
        | some c =>
          obtain ⟨inside, named, _⟩ := topLevel?_eq_some found
          exact absurd named (free c inside)
      rw [nothing]
      simp [exports, foreign]

/-- A path is resolved to the class that it leads to. -/
theorem resolveImport_eq_ok_iff {path : String} {found : ClassName} :
    w.resolveImport path = .ok found ↔ w.Finds path found := by
  rw [resolveImport]
  constructor
  · intro resolved
    dsimp only at resolved
    split at resolved
    · cases resolved
    · rename_i module name split'
      split at resolved
      · cases resolved
      · rename_i given
        split at resolved
        · cases resolved
        · rename_i absolute
          split at resolved
          · cases resolved
          · rename_i imports
            split at resolved
            · rename_i other offered
              cases resolved
              exact ⟨module, name, splitImportString?_eq_some_iff.1 split', by simpa using given, absolute, imports,
                importedSubject?_eq_some_iff.1 offered⟩
            · cases resolved
  · rintro ⟨module, name, addressed, given, absolute, imports, offered⟩
    rw [splitImportString?_eq_some_iff.2 addressed]
    dsimp only
    rw [if_neg (by simpa using given), if_neg absolute, imports]
    dsimp only
    rw [importedSubject?_eq_some_iff.2 offered]

/-- A path that gives no module fails the import. -/
theorem resolveImport_noModule {path : String} (addressed : Addresses path "" name) :
    w.resolveImport path = .error (.badValue "Empty module name") := by
  rw [resolveImport, splitImportString?_eq_some_iff.2 addressed]
  rfl

/-- A path that gives a module as it is seen from another one fails the import. -/
theorem resolveImport_relative {path : String} (addressed : Addresses path module name)
    (relative : module.toList.head? = some '.') : w.resolveImport path = .error .mismatch := by
  have given : module.isEmpty = false := by
    rw [Bool.eq_false_iff, ne_eq, String.isEmpty_iff]
    rintro rfl
    cases relative
  rw [resolveImport, splitImportString?_eq_some_iff.2 addressed]
  dsimp only
  rw [given, if_neg Bool.false_ne_true, if_pos relative]

/-- Any other path is resolved or refused. -/
theorem resolveImport_settled {path : String} (given : ∀ name, ¬Addresses path "" name)
    (absolute : ∀ module name, Addresses path module name → module.toList.head? ≠ some '.') :
    (∃ found, w.resolveImport path = .ok found) ∨ ∃ cause, w.resolveImport path = .error (.refusal path cause) := by
  rw [resolveImport]
  cases split : splitImportString? path with
  | none => exact .inr ⟨_, rfl⟩
  | some address =>
    obtain ⟨module, name⟩ := address
    have addressed := splitImportString?_eq_some_iff.1 split
    have notEmpty : ¬module.isEmpty = true := by
      rw [String.isEmpty_iff]
      rintro rfl
      exact given name addressed
    dsimp only
    rw [if_neg notEmpty, if_neg (absolute module name addressed)]
    cases w.importModule module with
    | error cause => exact .inr ⟨_, rfl⟩
    | ok _ =>
      dsimp only
      cases w.importedSubject? module name with
      | some found => exact .inl ⟨found, rfl⟩
      | none => exact .inr ⟨_, rfl⟩

end World

/-! ## Commands -/

namespace CommandLine.Surroundings

variable {s : Surroundings} {outputDir : Option Path}

/-- What stops a subject does not end a run well. -/
private theorem finish_ne {obstacle : Obstacle} {t passed : Trace} :
    obstacle.finish.run t ≠ (.exit 0, passed) := by
  intro ended
  cases obstacle with
  | refused _ => cases (congrArg Prod.fst ended : Ending.exit 1 = .exit 0)
  | fault _ => cases (congrArg Prod.fst ended : Ending.fault _ = .exit 0)

/-- Behind subjects that can all be described, the others are described as if they came first. -/
private theorem describe_append : ∀ {before rest : List String} {t passed : Trace},
    (s.describe before).run t = (.exit 0, passed) → (s.describe (before ++ rest)).run t = (s.describe rest).run passed
  | [], _, _, _, ran => by
    cases ran
    rfl
  | path :: before, rest, t, passed, ran => by
    rw [List.cons_append]
    rw [describe] at ran ⊢
    cases found : s.subject path with
    | error obstacle =>
      rw [found] at ran
      exact absurd ran finish_ne
    | ok subject =>
      rw [found] at ran
      dsimp only at ran ⊢
      rw [run_bind] at ran ⊢
      cases described : s.world.describe subject with
      | error fault =>
        rw [described] at ran
        exact absurd ran finish_ne
      | ok shape =>
        rw [described] at ran
        dsimp only at ran ⊢
        rw [run_bind] at ran ⊢
        exact describe_append ran

/-- Behind subjects that are all delivered, the others are delivered as if they came first. -/
private theorem deliverAll_append : ∀ {before rest : List String} {t passed : Trace},
    (s.deliverAll outputDir before).run t = (.exit 0, passed) →
      (s.deliverAll outputDir (before ++ rest)).run t = (s.deliverAll outputDir rest).run passed
  | [], _, _, _, ran => by
    cases ran
    rfl
  | path :: before, rest, t, passed, ran => by
    rw [List.cons_append]
    rw [deliverAll] at ran ⊢
    cases found : s.subject path with
    | error obstacle =>
      rw [found] at ran
      exact absurd ran finish_ne
    | ok subject =>
      rw [found] at ran
      dsimp only at ran ⊢
      rw [run_bind] at ran ⊢
      cases built : s.world.build subject with
      | error failure =>
        rw [built] at ran
        exact absurd ran finish_ne
      | ok source =>
        rw [built] at ran
        dsimp only at ran ⊢
        rw [run_bind] at ran ⊢
        cases delivered : (s.deliver outputDir source).run ((Work.logNotes (s.world.buildNotes subject)).run t).2 with
        | mk outcome between =>
          rw [delivered] at ran
          cases outcome with
          | some fault => cases (congrArg Prod.fst ran : Ending.fault _ = .exit 0)
          | none => exact deliverAll_append ran

/-- What a run shows of a refused path, and nothing else. -/
def complaining (t : Trace) (path : String) (cause : DescriptionCause) : Trace :=
  { t with shown := t.shown ++ [.text .output (complaint (DescriptionError.mk path cause).message)] }

end CommandLine.Surroundings

/-! ### An example -/

namespace CommandLine

open Surroundings

/-- The module is there, the class is not. -/
private theorem missing_addressed {module name : String} (addressed : Addresses "shop:Missing" module name) :
    module = "shop" := by
  have split : splitImportString? "shop:Missing" = some ("shop", "Missing") := by decide +kernel
  cases split.symm.trans (splitImportString?_eq_some_iff.2 addressed)
  rfl

private theorem missing_nowhere (found : ClassName) : ¬shop.world.Finds "shop:Missing" found := by
  have unresolved : (shop.world.resolveImport "shop:Missing").toOption = none := by decide +kernel
  intro finds
  rw [World.resolveImport_eq_ok_iff.2 finds] at unresolved
  cases unresolved

end CommandLine

end EachSubject
