import EachSubject.Value.Printer

/-!
# Parts of a declared type

A declared type may be made from others. Its origin is what stands before the brackets, its arguments
are what stands between them, and its free variables are the type variables anywhere inside.
-/

namespace EachSubject.Hint

open Value hiding none

/-- The text that a value is, members of enumerations of texts included. -/
def textOf? (value : Value) : Option String :=
  match value with
  | .text _ written => some written
  | .member _ _ (.text _ written) true => some written
  | _ => Option.none

/-- What a declared type is made from. -/
inductive Origin where
  | ofClass (name : ClassName)
  /-- A special form of the typing library. -/
  | special (name : String)
  | union
  | literal
  | annotated
deriving DecidableEq, Repr

/-- What a declared type is made from, if it is made from anything. -/
def origin? : Value → Option Origin
  | .subscripted (.native name) _ => some (.ofClass name)
  | .subscripted (.userClass name) _ => some (.ofClass name)
  | .subscripted (.classAlias _ name) _ => some (.ofClass name)
  | .subscripted (.special name) _ => some (.special name)
  | .classAlias _ name => some (.ofClass name)
  | .union .. => some .union
  | .literalType _ => some .literal
  | .annotated .. => some .annotated
  | .class ⟨"typing", "Generic"⟩ _ => some (.ofClass ⟨"typing", "Generic"⟩)
  | _ => none

/-- The arguments of a declared type; those of a callable are the list of its parameters and its
    result. -/
def arguments : Value → List Value
  | .subscripted head args =>
    if isSpreadCallable head args then
      match args.getLast? with
      | some result => [.list 0 args.dropLast, result]
      | none => []
    else args
  | .union _ members => members
  | .literalType values => values
  | .annotated base metadata => base :: metadata
  | _ => []

/-- The class that a base of a class stands for, if it is one. -/
def originClass? (base : Value) : Option ClassName :=
  match origin? base, base with
  | some (.ofClass name), _ => some name
  | some _, _ => none
  | none, .class name _ => some name
  | none, _ => none

/-- Adds what is new at the end. -/
def addNew (seen : List Value) (value : Value) : List Value :=
  if seen.any (isSame value) then seen else seen ++ [value]

mutual

/-- Adds the type variables inside a declared type to those seen, in order of appearance. -/
def collectVariables (seen : List Value) : Value → List Value
  | .typeVar scope name => addNew seen (.typeVar scope name)
  | .paramSpec name => addNew seen (.paramSpec name)
  | .subscripted _ args => collectAll seen args
  | .union _ members => collectAll seen members
  | .annotated base _ => collectVariables seen base
  | .tuple _ items => collectAll seen items
  | _ => seen

def collectAll (seen : List Value) : List Value → List Value
  | [] => seen
  | value :: rest => collectAll (collectVariables seen value) rest

end

/-- The type variables inside declared types, each once, in order of appearance. -/
def freeVariables (types : List Value) : List Value := collectAll [] types

end EachSubject.Hint
