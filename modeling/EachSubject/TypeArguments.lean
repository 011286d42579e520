import EachSubject.World.Basic

/-!
# Type arguments through a hierarchy

A class may bind the type parameters of a generic class far above it, through other generic classes.
The arguments are found by following the first base that leads there, and replacing the type variables
of each class on the way by the arguments that it is given.
-/

namespace EachSubject

/-- The bases of a class, as they are written if one of them has arguments. -/
def ClassInfo.basesAsWritten (c : ClassInfo) : List Value :=
  c.writtenBases.getD (c.bases.map Value.ofClass)

namespace World

/-- A type variable stands for the argument bound to it, if one is; anything else for itself. -/
def substitute (bindings : List (Value × Value)) (argument : Value) : Value :=
  match argument with
  | .typeVar scope name =>
    ((bindings.find? fun b => Value.isSame b.1 (.typeVar scope name)).map (·.2)).getD argument
  | argument => argument

/-- The arguments that the class binds for the type parameters of a class above it. No way up is
    longer than `fuel`. -/
def argumentsWithin (w : World) (above : ClassName) : Nat → ClassName → Option (List Value)
  | 0, _ => none
  | fuel + 1, name =>
    match w.class? name with
    | none => none
    | some c =>
      c.basesAsWritten.findSome? fun base =>
        match Hint.originClass? base with
        | none => none
        | some origin =>
          if !w.isSubclass origin above then none
          else
            let given := Hint.arguments base
            if origin = above then if given.isEmpty then none else some given
            else
              (w.argumentsWithin above fuel origin).map fun inner =>
                let parameters := ((w.class? origin).map (·.typeParameters)).getD []
                inner.map (substitute (parameters.zip given))

/-- The arguments that the class binds for the type parameters of a class above it. Every base comes
    later in the order of the class, so its length bounds the way up. -/
def typeArguments? (w : World) (name above : ClassName) : Option (List Value) :=
  w.argumentsWithin above (w.orderOf name).length name

/-- What an index into a list of arguments gives. -/
inductive TypeParameter where
  | bound (value : Value)
  /-- Absent, or left open by a type variable. -/
  | unbound
  /-- The index counts from the end, beyond the first argument. -/
  | outOfRange

/-- The argument bound at an index; a negative index counts from the end. -/
def typeParameter (w : World) (name above : ClassName) (index : Int) : TypeParameter :=
  match w.typeArguments? name above with
  | none => .unbound
  | some args =>
    let position := if index < 0 then index + args.length else index
    if position < 0 then .outOfRange
    else
      match args[position.toNat]? with
      | none => .unbound
      | some (.typeVar ..) => .unbound
      | some value => .bound value

/-- A class of subjects. -/
def subjectClass? (w : World) : Value → Option ClassName
  | .class name _ => if w.isSubclass name subjectClass then some name else none
  | _ => none

/-- The subject class that a class of factories binds as its type argument. -/
def boundSubject (w : World) (factory : ClassName) : Except Fault Value :=
  match w.typeParameter factory factoryClass subjectIndex with
  | .bound subject =>
    match w.subjectClass? subject with
    | some _ => .ok subject
    | none => .error (.refusal factory.path .subjectUnbound)
  | _ => .error (.refusal factory.path .subjectUnbound)

end World

end EachSubject
