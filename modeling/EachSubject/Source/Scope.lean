import EachSubject.Source.Outline

/-!
# Rules on blocks

A text that can be read may still make no sense as a whole: a result is given outside of a function, a
function suspends where it cannot, two parameters share a name, or a name is declared to belong to an
outer block after it was used. The rules look at the outline of the text, block by block.
-/

namespace EachSubject.Source

namespace Outline

/-! ## Names of a block -/

mutual

/-- The outline without its loops and the like, whose parts belong to the same block. -/
def own : Outline → List Outline
  | loop body => ownAll body
  | groupHandler body => ownAll body
  | iterable body => ownAll body
  | targets body => ownAll body
  | item => [item]

def ownAll : List Outline → List Outline
  | [] => []
  | item :: rest => own item ++ ownAll rest

end

mutual

/-- The names that a comprehension gives to values in the block around it. -/
def outward : Outline → List String
  | assigns name => [name]
  | iterable body => outwardAll body
  | block (.comprehension _) _ body => outwardAll body
  | _ => []

def outwardAll : List Outline → List String
  | [] => []
  | item :: rest => outward item ++ outwardAll rest

end

/-- The names that part of a block binds. -/
def bound : Outline → List String
  | binds name => [name]
  | annotates name => [name]
  | item => outward item

/-- The names that part of a block uses or binds. -/
def mentioned : Outline → List String
  | reads name => [name]
  | item => item.bound

/-- The names that part of a block declares to belong to an outer block. -/
def declared : Outline → List String
  | globals declared => declared
  | nonlocals declared => declared
  | _ => []

/-- The names that part of a block declares to belong to the module. -/
def declaredGlobal : Outline → List String
  | globals declared => declared
  | _ => []

/-- The names that part of a block declares to belong to a function around. -/
def declaredNonlocal : Outline → List String
  | nonlocals declared => declared
  | _ => []

/-- The names that a block declares to belong to the module. -/
def globalNames (body : List Outline) : List String := (ownAll body).flatMap declaredGlobal

/-- The names that belong to the block. -/
def localNames (parameters : List String) (body : List Outline) : List String :=
  let items := ownAll body
  let outer := items.flatMap declared
  (parameters ++ items.flatMap bound).filter fun name => !outer.contains name

/-- The names that the targets of a comprehension get, those of its own block only. -/
def targetNames : List Outline → List String
  | [] => []
  | targets body :: rest => (ownAll body).flatMap bound ++ targetNames rest
  | _ :: rest => targetNames rest

/-! ## Rules -/

/-- Names are declared to belong to an outer block before the block uses them. -/
def declaresFirst (seen : List String) : List Outline → Bool
  | [] => true
  | item :: rest =>
    item.declared.all (!seen.contains ·) && declaresFirst (seen ++ item.mentioned) rest

/-- No name that is declared to belong to an outer block is declared to have a type. -/
def annotatesOwn (outer : List String) : List Outline → Bool
  | [] => true
  | annotates name :: rest => !outer.contains name && annotatesOwn outer rest
  | item :: rest => annotatesOwn (outer ++ item.declared) rest

/-- A block around: what it belongs to, and the names of its own. -/
structure Around where
  kind : BlockKind
  names : List String

/-- Where a part of a text stands: the blocks around it, the innermost first; whether it is inside a
    loop, a clause for groups of errors, something that a comprehension runs over, or a declared type. -/
structure Position where
  around : List Around := []
  inLoop : Bool := false
  inGroup : Bool := false
  inIterable : Bool := false
  inHint : Bool := false

namespace Position

/-- The block that the part belongs to; nothing for the module. -/
def kind? (p : Position) : Option BlockKind := p.around.head?.map (·.kind)

/-- Values may be yielded. -/
def canYield (p : Position) : Bool :=
  match p.kind? with
  | some (.function _) => true
  | _ => false

/-- The rest of a value can be yielded by another. -/
def canDelegate (p : Position) : Bool := p.kind? == some (.function false)

/-- Values may be awaited: in an asynchronous function and in a comprehension, and anywhere in what a
    declared type would do if it were evaluated. -/
def canAwait (p : Position) : Bool :=
  match p.kind? with
  | some (.function isAsync) => isAsync || p.inHint
  | some (.comprehension _) => true
  | _ => false

/-- Work may be done asynchronously in a statement or in a comprehension of this kind. -/
def canWorkAsync (p : Position) : Bool := p.kind? == some (.function true)

/-- A comprehension that waits may stand here. -/
def canHoldWaiting (isLazy : Bool) (p : Position) : Bool :=
  isLazy || p.inHint ||
  match p.kind? with
  | some (.function isAsync) => isAsync
  | some (.comprehension _) => true
  | _ => false

/-- A value may be given the name here. Inside comprehensions the name belongs to the block around
    them, which is no class, and is none of the names that they run through. -/
def canName (name : String) : List Around → Bool
  | [] => true
  | ⟨.comprehension _, names⟩ :: rest => !names.contains name && canNameOutside name rest
  | ⟨.hint, _⟩ :: _ => false
  | _ => true
where
  canNameOutside (name : String) : List Around → Bool
    | [] => true
    | ⟨.comprehension _, names⟩ :: rest => !names.contains name && canNameOutside name rest
    | ⟨.hint, _⟩ :: rest => canNameOutside name rest
    | ⟨.classBody, _⟩ :: _ => false
    | ⟨.function _, _⟩ :: _ => true

/-- Some function around has the name. -/
def hasOuter (name : String) (p : Position) : Bool :=
  (p.around.drop 1).any fun a =>
    match a.kind with
    | .function _ => a.names.contains name
    | _ => false

/-- The position inside a block. -/
def enter (p : Position) (kind : BlockKind) (parameters : List String) (body : List Outline) :
    Position :=
  let names := match kind with
    | .comprehension _ => targetNames body
    | _ => localNames parameters body
  { around := ⟨kind, names⟩ :: p.around, inIterable := p.inIterable
    inHint := p.inHint || kind == .hint }

end Position

mutual

/-- A comprehension waits for values, itself or in a comprehension inside. -/
def waits : Outline → Bool
  | awaits => true
  | worksAsync => true
  | iterable body => waitsAny body
  | targets body => waitsAny body
  | block (.comprehension false) _ body => waitsAny body
  | _ => false

def waitsAny : List Outline → Bool
  | [] => false
  | item :: rest => waits item || waitsAny rest

end

/-- A function yields values. -/
def isGenerator (body : List Outline) : Bool :=
  (ownAll body).any fun
    | yields => true
    | delegates => true
    | _ => false

/-- A function gives a result that is a value. -/
def givesValue (body : List Outline) : Bool :=
  (ownAll body).any fun
    | returns hasValue => hasValue
    | _ => false

/-- A block as a whole keeps the rules on names. -/
def isOrderly (parameters : List String) (body : List Outline) : Bool :=
  let items := ownAll body
  let outer := items.flatMap declaredNonlocal
  decide (parameters.Pairwise (· ≠ ·)) && declaresFirst parameters items && annotatesOwn [] items &&
    (globalNames body).all (!outer.contains ·)

mutual

/-- A part of a text keeps the rules where it stands. -/
def isSound (p : Position) : Outline → Bool
  | reads _ => true
  | binds _ => true
  | assigns name => !p.inIterable && Position.canName name p.around
  | annotates _ => true
  | globals _ => true
  | nonlocals names => names.all fun name => Position.hasOuter name p
  | yields => p.canYield
  | delegates => p.canDelegate
  | awaits => p.canAwait
  | returns _ => p.canYield && !p.inGroup
  | breaks => p.inLoop
  | continues => p.inLoop
  | worksAsync => p.canWorkAsync
  | importsAll => p.around.isEmpty
  | keywords names => p.inHint || decide (names.Pairwise (· ≠ ·))
  | fault => p.inHint
  | loop body => areSound { p with inLoop := true } body
  | groupHandler body => areSound { p with inLoop := false, inGroup := true } body
  | iterable body => areSound { p with inIterable := true } body
  | targets body => areSound p body
  | block (.comprehension isLazy) parameters body =>
    let inside := p.enter (.comprehension isLazy) parameters body
    (!waitsAny body || p.canHoldWaiting isLazy) &&
      areSoundClauses inside body
  | block (.function isAsync) parameters body =>
    isOrderly parameters body && !(isAsync && isGenerator body && givesValue body) &&
      areSound (p.enter (.function isAsync) parameters body) body
  | block kind parameters body =>
    isOrderly parameters body && areSound (p.enter kind parameters body) body

def areSound (p : Position) : List Outline → Bool
  | [] => true
  | item :: rest => isSound p item && areSound p rest

/-- The parts of a comprehension, whose loops may be asynchronous. -/
def areSoundClauses (p : Position) : List Outline → Bool
  | [] => true
  | worksAsync :: rest => areSoundClauses p rest
  | item :: rest => isSound p item && areSoundClauses p rest

end

end Outline

/-- An import of what the future of the language gives. -/
def Stmt.importsFuture : Stmt → Bool
  | .importNames _ ["__future__"] _ => true
  | _ => false

mutual

/-- An import of what the future of the language gives stands inside a statement. -/
def Stmt.holdsFuture : Stmt → Bool
  | .importNames _ ["__future__"] _ => true
  | .function _ _ _ _ _ body => anyHoldsFuture body
  | .class _ _ _ body => anyHoldsFuture body
  | .if _ body orElse => anyHoldsFuture body || anyHoldsFuture orElse
  | .while _ body orElse => anyHoldsFuture body || anyHoldsFuture orElse
  | .for _ _ _ body orElse => anyHoldsFuture body || anyHoldsFuture orElse
  | .with _ _ body => anyHoldsFuture body
  | .try body handlers orElse finalBody =>
    anyHoldsFuture body || anyHandlerHoldsFuture handlers || anyHoldsFuture orElse ||
      anyHoldsFuture finalBody
  | .match _ cases => anyCaseHoldsFuture cases
  | _ => false

def anyHoldsFuture : List Stmt → Bool
  | [] => false
  | s :: rest => s.holdsFuture || anyHoldsFuture rest

def anyHandlerHoldsFuture : List Handler → Bool
  | [] => false
  | .mk _ _ _ body :: rest => anyHoldsFuture body || anyHandlerHoldsFuture rest

def anyCaseHoldsFuture : List Case → Bool
  | [] => false
  | .mk _ _ body :: rest => anyHoldsFuture body || anyCaseHoldsFuture rest

end

/-- A module makes sense as a whole. What the future of the language gives is imported first. -/
def Module.isSound (module : Module) : Bool :=
  !anyHoldsFuture (module.dropWhile Stmt.importsFuture) &&
  Outline.declaresFirst [] (Outline.ownAll module.outline) && Outline.areSound {} module.outline

/-- An expression that stands for itself makes sense as a whole. -/
def Expr.isSound (e : Expr) : Bool := Outline.areSound {} (e.outline "")

end EachSubject.Source
