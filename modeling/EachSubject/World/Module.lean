import EachSubject.Description.Error
import EachSubject.World.Basic

/-!
# Modules

What can be imported: the modules of a world, and those of the library as far as they matter here. A
module gives the classes at its top and the modules inside it; a name that is no name of a module may
still be known everywhere.
-/

namespace EachSubject

/-- The text before the last separator and the text after it. -/
def splitLast? (separator : Char) (text : List Char) : Option (List Char × List Char) :=
  let reversed := text.reverse
  let last := reversed.takeWhile (· != separator)
  match reversed.dropWhile (· != separator) with
  | [] => none
  | _ :: before => some (before.reverse, last.reverse)

/-- The package that a module's name starts with, if it has a point. -/
def parentModule? (module : String) : Option String :=
  ((splitLast? '.' module.toList).map fun (parent, _) => String.ofList parent).filter (!·.isEmpty)

/-- The packages and modules of the library. -/
def libraryModules : List String :=
  ["iterwrap", "iterwrap.subject", "iterwrap.subject.base", "iterwrap.subject.factory",
   "iterwrap.subject.failure", "typing", "builtins", "collections", "collections.abc"]

/-- The modules of the library that hold modules. -/
def libraryPackages : List String := ["iterwrap", "iterwrap.subject", "collections"]

/-- Modules that a wrapper module imports from, besides those that lead to subjects. -/
def supportModules : List String := ["__future__", "typing_extensions"]

/-- The modules of the library where the base class of subjects stands. -/
def subjectExporters : List String :=
  ["iterwrap", "iterwrap.subject", "iterwrap.subject.base", "iterwrap.subject.factory"]

namespace World

/-- The module can be imported. -/
def hasModule (w : World) (module : String) : Bool :=
  w.modules.contains module || libraryModules.contains module

/-- Imports a module, the packages that its name starts with first. No name has more points than
    characters. -/
def importWithin (w : World) : Nat → String → Except ImportCause Unit
  | 0, module => .error (.missing module)
  | fuel + 1, module =>
    if w.hasModule module then .ok ()
    else
      match parentModule? module with
      | none => .error (.missing module)
      | some parent => do
        w.importWithin fuel parent
        if libraryPackages.contains parent then .error (.missing module)
        else .error (.parentNotPackage module parent)

def importModule (w : World) (module : String) : Except ImportCause Unit :=
  w.importWithin (module.length + 1) module

/-- The module can be imported. -/
def isImportable (w : World) (module : String) : Bool :=
  supportModules.contains module || (w.importModule module).toOption.isSome

end World

/-! ## Names that are known everywhere -/

/-- Names that stand for a value of their own. -/
def constantNames : List (String × Value) :=
  [("Ellipsis", .ellipsis), ("NotImplemented", Value.notImplemented), ("__debug__", .bool true),
   ("exit", .foreign ⟨"_sitebuiltins", "Quitter"⟩ "Use exit() or Ctrl-D (i.e. EOF) to exit"),
   ("quit", .foreign ⟨"_sitebuiltins", "Quitter"⟩ "Use quit() or Ctrl-D (i.e. EOF) to exit"),
   ("help", .foreign ⟨"_sitebuiltins", "_Helper"⟩
     "Type help() for interactive help, or help(object) for help about object.")]

/-- What a name stands for that is known everywhere. -/
def knownName? (name : String) : Option Value :=
  match constantNames.lookup name with
  | some value => some value
  | none =>
    match Library.builtinNamed? name with
    | some path => some (.ofClass (.builtin path))
    | none => if Library.builtinFunctions.contains name then some (.builtin name) else none

/-! ## Names of modules -/

/-- What the future of the language gives; it is always there already. -/
def futureFeature : Value :=
  .foreign ⟨"__future__", "_Feature"⟩ "_Feature((3, 7, 0, 'beta', 1), None, 16777216)"

/-- What a name of a module of the library stands for. -/
def libraryName? (w : World) (module name : String) : Option Value :=
  if module = "__future__" then some futureFeature
  else if module = "typing_extensions" && name = "override" then some (.builtin "override")
  else if module = "typing_extensions" then Library.typingName? name
  else if module = ClassName.builtinModule then knownName? name
  else if module = Library.collectionsModule then
    if Library.collectionNames.contains name then some (.ofClass (Library.collectionClass name))
    else none
  else if module = "typing" then Library.typingName? name
  else if subjectExporters.contains module && name = subjectClass.path then
    some (.ofClass subjectClass)
  else if libraryModules.contains module then
    match Library.subjectLibrary.lookup name with
    | some found =>
      if module = "iterwrap" || module = Library.subjectModule || found.module = module then
        some (.ofClass found)
      else none
    | none => if name = "subject_factory" then some (.builtin name) else none
  else w.named? (module ++ "." ++ name)

/-- What a name of a module stands for. A module inside the module counts as well. -/
def World.nameIn? (w : World) (module name : String) : Option Value :=
  let inside := module ++ "." ++ name
  if name = "__name__" then some (.text 0 module)
  else if w.modules.contains module then
    match w.topLevel? module name with
    | some c => some c.value
    | none => if w.modules.contains inside then some (.module inside) else none
  else (libraryName? w module name).or (if w.hasModule inside then some (.module inside) else none)

/-- What importing a name from a module gives. -/
def World.importName (w : World) (module name : String) : Except Fault Value :=
  if w.modules.contains module || w.isImportable module then
    Fault.orElse .missingImport (w.nameIn? module name)
  else .error .missingModule

end EachSubject
