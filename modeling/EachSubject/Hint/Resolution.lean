import EachSubject.Execution

/-!
# Looking up declared types

A declared type may be given by its text. The text is read as an expression and evaluated: names are
looked up among the classes at the top of the function's module and then among those that are known
everywhere. The texts inside a type are looked up as well. All declared types of a function are looked
up together: if one of them fails, all stay as written.
-/

namespace EachSubject

namespace Hint

/-- What the names at the top of a module stand for, the latest class of a name first. -/
def moduleNames (w : World) (module : String) : List (String × Value) :=
  let classes := w.classes.filter fun c => c.name.isTopLevel && c.name.module == module
  classes.map (fun c => (c.name.path, c.value)) ++ Library.namesIn module

/-- A text under the brackets of a class is looked up as well. -/
def nativeArgument (value : Value) : Except Fault Value :=
  match textOf? value with
  | some _ => convert value
  | none => .ok value

/-- A union written with bars, from its members. -/
def joinBars : List Value → Except Fault Value
  | [] => .error .mismatch
  | first :: rest => rest.foldlM bar first

/-- The type that a text stands for in a module. -/
def evaluateText (f : Frame) (text : String) : Run Value := do
  let expression ← Run.lift (readText text)
  Run.lift (checked false (← engine.evaluate f expression))

/-- Looks up the texts inside a declared type. `guarded` holds the texts that are being looked up,
    which are left alone; `fuel` bounds the nesting. -/
def lookUp (f : Frame) (guarded : List String) : Nat → Value → Run Value
  | 0, value => pure value
  | fuel + 1, value => do
    let inside := lookUp f guarded fuel
    match value with
    | .forward text =>
      if guarded.contains text then return value
      else lookUp f (text :: guarded) fuel (← evaluateText f text)
    | .subscripted (.native origin) arguments =>
      let arguments ← Run.lift (arguments.mapM nativeArgument)
      return .subscripted (.native origin) (← arguments.mapM inside)
    | .subscripted head arguments => return .subscripted head (← arguments.mapM inside)
    | .union style members =>
      let found ← members.mapM inside
      if Value.equalItems members found then return value
      Run.lift (match style with | .subscript => union found | .bar => joinBars found)
    | .annotated base metadata => Run.lift (annotatedOf (← inside base) metadata)
    | value => return value

/-- How deep declared types are looked into. -/
def lookUpDepth : Nat := 1000

/-- The declared types of a function by parameter, the result under `return`, as they are written. -/
def written (f : Function) : List (String × Value) :=
  f.parameters.filterMap (fun p => p.hint.map fun h => (p.name, h)) ++
  (f.returns.map fun h => ("return", h)).toList

/-- A declared type with its texts looked up. -/
def resolve (f : Frame) (hint : Value) : Run Value := do
  lookUp f [] lookUpDepth (← Run.lift (convert hint))

/-- A place behind those of all data of a world. -/
def firstPlace : Nat := 1000000000

end Hint

namespace World

/-- The declared types of a function with their texts looked up. -/
def lookedUpHints (w : World) (f : Function) : Except Fault (List (String × Value)) :=
  let run : Run (List (String × Value)) := do
    let frame ← Run.moduleFrame f.module (Hint.moduleNames w f.module)
    (Hint.written f).mapM fun (name, hint) => do return (name, ← Hint.resolve frame hint)
  (run.start (Store.start w .raise Hint.firstPlace)).1

/-- The classes of the faults that leave all declared types of a function as they are written. -/
def forgivenErrors : List ClassName :=
  ["NameError", "TypeError", "AttributeError", "SyntaxError"].map ClassName.builtin

/-- A fault that leaves all declared types of a function as they are written. -/
def forgives (w : World) (fault : Fault) : Bool :=
  forgivenErrors.any fun kind => w.isSubclass fault.errorClass kind

/-- The function's declared types stay as written. -/
def keepsWrittenHints (w : World) (f : Function) : Bool :=
  match w.lookedUpHints f with
  | .ok _ => false
  | .error fault => w.forgives fault

/-- The declared types of a function: looked up if all of them can be, or else as written. -/
def hints (w : World) (f : Function) : Except Fault (List (String × Value)) :=
  match w.lookedUpHints f with
  | .ok found => .ok found
  | .error fault => if w.forgives fault then .ok (Hint.written f) else .error fault

end World

end EachSubject
