import EachSubject.World.Module

/-!
# Finding a subject class by its import string

An import string gives a module and a class, separated by the last colon, or by the last point if
there is no colon. The module is imported; the class has to stand at its top and to be a class of
subjects.
-/

namespace EachSubject

/-- The module and the class of an import string. -/
def splitImportString? (path : String) : Option (String × String) :=
  ((splitLast? ':' path.toList).or (splitLast? '.' path.toList)).map fun (module, name) =>
    (String.ofList module, String.ofList name)

namespace World

/-- The class of subjects at the top of a module. -/
def importedSubject? (w : World) (module name : String) : Option ClassName :=
  match w.topLevel? module name with
  | some c => if w.isSubclass c.name subjectClass then some c.name else none
  | none =>
    if subjectExporters.contains module && name = subjectClass.path && !w.modules.contains module then
      some subjectClass
    else none

/-- The subject class of an import string. The module's name may neither be empty nor be given from
    another module. -/
def resolveImport (w : World) (path : String) : Except Fault ClassName :=
  let refuse (cause : DescriptionCause) : Fault := .refusal path cause
  match splitImportString? path with
  | none => .error (refuse .malformedPath)
  | some (module, name) =>
    if module.isEmpty then .error (.badValue "Empty module name")
    else if module.toList.head? = some '.' then .error .mismatch
    else
      match w.importModule module with
      | .error cause => .error (refuse (.importFailed module cause))
      | .ok () =>
        match w.importedSubject? module name with
        | some found => .ok found
        | none => .error (refuse .notSubject)

end World

end EachSubject
