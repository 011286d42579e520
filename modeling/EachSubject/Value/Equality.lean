import EachSubject.Double.Arithmetic
import EachSubject.Value.Basic

/-!
# Comparing values

Equality of values looks at what they hold: numbers of all kinds compare by their exact value, lists
and tuples item by item, sets and dictionaries without regard to order, records field by field. Inside
a container two items also count as equal when they are one and the same. Order, containment and
truth are defined on the values that have them.
-/

namespace EachSubject.Value

/-- A number of any kind. -/
inductive Numeric where
  | whole (value : Int)
  | real (value : Double)

/-- The value that a mixed member of an enumeration stands for; any other value stands for itself. -/
def plain : Value → Value
  | member _ _ value true => value
  | value => value

/-- The number that a value is. -/
def numeric? : Value → Option Numeric
  | bool value => some (.whole (if value then 1 else 0))
  | int _ value => some (.whole value)
  | float _ value => some (.real value)
  | _ => Option.none

/-- How two numbers compare; there is no answer if one of them is not a number. -/
def Numeric.compare? : Numeric → Numeric → Option Ordering
  | .whole a, .whole b => some (Ord.compare a b)
  | .whole a, .real x => (x.compareInt? a).map Ordering.swap
  | .real x, .whole b => x.compareInt? b
  | .real x, .real y => x.compare? y

def Numeric.equal (a b : Numeric) : Bool := a.compare? b == some .eq

/-- How many numbers a range holds. -/
def rangeLength (start stop step : Int) : Nat :=
  if 0 < step then ((stop - start + step - 1).fdiv step).toNat
  else if step < 0 then ((start - stop - step - 1).fdiv (-step)).toNat
  else 0

/-- The numbers of a range. -/
def rangeItems (start stop step : Int) : List Int :=
  (List.range (rangeLength start stop step)).map fun (k : Nat) => start + k * step

/-- The number is one of a range. -/
def inRange (start stop step : Int) (value : Value) : Bool :=
  let found : Option Int := match value.plain.numeric? with
    | some (.whole n) => some n
    | some (.real x) => x.toInt?
    | Option.none => Option.none
  match found with
  | some n =>
    (n - start).fmod step == 0 && 0 ≤ (n - start).fdiv step &&
      (n - start).fdiv step < rangeLength start stop step
  | Option.none => false

/-- The same class under the brackets, whatever name it was written with. -/
def TypeHead.same : TypeHead → TypeHead → Bool
  | .native a, .native b => a == b
  | .userClass a, .userClass b => a == b
  | .classAlias _ a, .classAlias _ b => a == b
  | .special a, .special b => a == b
  | _, _ => false

/-- The kind of a literal, which tells apart values that are equal. -/
def kindName : Value → String
  | none => "NoneType"
  | bool _ => "bool"
  | int .. => "int"
  | float .. => "float"
  | text .. => "str"
  | bytes .. => "bytes"
  | list .. => "list"
  | tuple .. => "tuple"
  | set .. => "set"
  | frozenset .. => "frozenset"
  | dict .. => "dict"
  | complex .. => "complex"
  | range .. => "range"
  | .class .. => "class"
  | member owner .. => owner.full
  | record _ owner _ => owner.full
  | _ => "other"

mutual

/-- Hold the same. -/
def isEqual : Value → Value → Bool
  | member owner name value mixed, other =>
    isSame (member owner name value mixed) other || (mixed && isEqual value other)
  | list _ as, other =>
    match other with
    | list _ bs => equalItems as bs
    | _ => false
  | tuple _ as, other =>
    match other with
    | tuple _ bs => equalItems as bs
    | _ => false
  | set _ as, other =>
    match other with
    | set _ bs => as.length == bs.length && allFoundIn as bs
    | frozenset _ bs => as.length == bs.length && allFoundIn as bs
    | _ => false
  | frozenset _ as, other =>
    match other with
    | set _ bs => as.length == bs.length && allFoundIn as bs
    | frozenset _ bs => as.length == bs.length && allFoundIn as bs
    | _ => false
  | dict _ as, other =>
    match other with
    | dict _ bs => as.length == bs.length && entriesFoundIn as bs
    | _ => false
  | record _ owner fields, other =>
    match other with
    | record _ owner' fields' => owner == owner' && equalFields fields fields'
    | _ => false
  | forward a, other =>
    match other with
    | forward b => a == b
    | _ => false
  | subscripted head as, other =>
    match other with
    | subscripted head' bs => TypeHead.same head head' && equalItems as bs
    | _ => false
  | union _ as, other =>
    match other with
    | union _ bs => as.length == bs.length && allFoundIn as bs
    | _ => false
  | literalType as, other =>
    match other with
    | literalType bs => as.length == bs.length && literalsFoundIn as bs
    | _ => false
  | annotated base metadata, other =>
    match other with
    | annotated base' metadata' => isEqual base base' && equalItems metadata metadata'
    | _ => false
  | bound receiver callee, other =>
    match other with
    | bound receiver' callee' => isSame receiver receiver' && isSame callee callee'
    | _ => false
  | method receiver name, other =>
    match other with
    | method receiver' name' => isSame receiver receiver' && name == name'
    | _ => false
  | complex _ re im, other =>
    match other.plain with
    | complex _ re' im' => re.compare? re' == some .eq && im.compare? im' == some .eq
    | other =>
      match other.numeric? with
      | some n => im.isZero && (Numeric.real re).equal n
      | Option.none => false
  | range _ start stop step, other =>
    match other with
    | range _ start' stop' step' =>
      let count := rangeLength start stop step
      count == rangeLength start' stop' step' &&
        (count == 0 || (start == start' && (count == 1 || step == step')))
    | _ => false
  | slice _ start stop step, other =>
    match other with
    | slice _ start' stop' step' => isEqual start start' && isEqual stop stop' && isEqual step step'
    | _ => false
  | view .keys (dict _ as), other =>
    match other with
    | view .keys (dict _ bs) => as.length == bs.length && keysFoundIn as (bs.map (·.1))
    | set _ bs => as.length == bs.length && keysFoundIn as bs
    | frozenset _ bs => as.length == bs.length && keysFoundIn as bs
    | _ => false
  | view .items (dict _ as), other =>
    match other with
    | view .items (dict _ bs) => as.length == bs.length && entriesFoundIn as bs
    | _ => false
  | text _ a, other =>
    match other.plain with
    | text _ b => a == b
    | _ => false
  | bytes _ a, other =>
    match other.plain with
    | bytes _ b => a == b
    | _ => false
  | value, other =>
    match value.numeric?, other.plain with
    | some a, complex _ re im => im.isZero && a.equal (.real re)
    | some a, other =>
      match other.numeric? with
      | some b => a.equal b
      | Option.none => false
    | Option.none, _ => isSame value other

/-- Item by item the same object or equal. -/
def equalItems : List Value → List Value → Bool
  | [], [] => true
  | a :: as, b :: bs => (isSame a b || isEqual a b) && equalItems as bs
  | _, _ => false

/-- Each item of the first list is found in the second. -/
def allFoundIn : List Value → List Value → Bool
  | [], _ => true
  | a :: as, bs => bs.any (fun b => isSame a b || isEqual a b) && allFoundIn as bs

/-- Each literal of the first list is found in the second, with the same kind. -/
def literalsFoundIn : List Value → List Value → Bool
  | [], _ => true
  | a :: as, bs =>
    bs.any (fun b => kindName a == kindName b && (isSame a b || isEqual a b)) && literalsFoundIn as bs

/-- Each key of the entries is found in the list. -/
def keysFoundIn : List (Value × Value) → List Value → Bool
  | [], _ => true
  | (k, _) :: as, bs => bs.any (fun b => isSame k b || isEqual k b) && keysFoundIn as bs

/-- Each entry of the first list is found in the second. -/
def entriesFoundIn : List (Value × Value) → List (Value × Value) → Bool
  | [], _ => true
  | (k, v) :: as, bs =>
    bs.any (fun b => (isSame k b.1 || isEqual k b.1) && (isSame v b.2 || isEqual v b.2)) &&
      entriesFoundIn as bs

/-- Field by field the same object or equal. -/
def equalFields : List (String × Value) → List (String × Value) → Bool
  | [], [] => true
  | (n, a) :: as, (m, b) :: bs => n == m && (isSame a b || isEqual a b) && equalFields as bs
  | _, _ => false

end

/-- The same object, or equal: what a container looks for. -/
def matchesItem (a b : Value) : Bool := isSame a b || isEqual a b

mutual

/-- Can be a member of a set or a key of a dictionary. -/
def isHashable : Value → Bool
  | list .. => false
  | set .. => false
  | dict .. => false
  | slice .. => false
  | view .values _ => true
  | view .. => false
  | tuple _ items => allHashable items
  | record _ _ fields => fieldsHashable fields
  | subscripted _ args => allHashable args
  | union _ members => allHashable members
  | literalType values => allHashable values
  | annotated base metadata => isHashable base && allHashable metadata
  | _ => true

def allHashable : List Value → Bool
  | [] => true
  | value :: rest => isHashable value && allHashable rest

def fieldsHashable : List (String × Value) → Bool
  | [] => true
  | (_, value) :: rest => isHashable value && fieldsHashable rest

end

/-- The items of a set: each once, in the order of first appearance. -/
def distinctItems (items : List Value) : List Value :=
  items.foldl
    (fun kept item => if kept.any (matchesItem item) then kept else kept ++ [item]) []

/-- The entries of a dictionary: a later value takes the place of the earlier one of its key. -/
def distinctEntries (entries : List (Value × Value)) : List (Value × Value) :=
  entries.foldl (fun kept entry =>
    if kept.any fun k => matchesItem entry.1 k.1 then
      kept.map fun k => if matchesItem entry.1 k.1 then (k.1, entry.2) else k
    else kept ++ [entry]) []

/-- Counts as true in a condition: everything but nothing, false, zero, and what is empty. -/
def isTrue (value : Value) : Bool :=
  match value.plain with
  | none => false
  | bool b => b
  | int _ n => n != 0
  | float _ x => !(x.compareInt? 0 == some .eq)
  | text _ s => !s.isEmpty
  | bytes _ b => !b.isEmpty
  | list _ items => !items.isEmpty
  | tuple _ items => !items.isEmpty
  | set _ items => !items.isEmpty
  | frozenset _ items => !items.isEmpty
  | dict _ entries => !entries.isEmpty
  | complex _ re im => !re.isZero || !im.isZero
  | range _ start stop step => rangeLength start stop step != 0
  | view _ (dict _ entries) => !entries.isEmpty
  | _ => true

/-- The outcome of "less", or of "less or equal", for a comparison. -/
def accepts (orEqual : Bool) : Option Ordering → Bool
  | some .lt => true
  | some .eq => orEqual
  | _ => false

/-- The order of two texts by their code points. -/
def compareText (a b : String) : Ordering := compare a b

mutual

/-- Is less, or less or equal; nothing if the two have no order. -/
def isBelow? (orEqual : Bool) : Value → Value → Option Bool
  | member _ _ value mixed, other => if mixed then isBelow? orEqual value other else Option.none
  | list _ as, other =>
    match other with
    | list _ bs => itemsBelow? orEqual as bs
    | _ => Option.none
  | tuple _ as, other =>
    match other with
    | tuple _ bs => itemsBelow? orEqual as bs
    | _ => Option.none
  | set _ as, other => setBelow? orEqual as other
  | frozenset _ as, other => setBelow? orEqual as other
  | text _ a, other =>
    match other.plain with
    | text _ b => some (accepts orEqual (some (compareText a b)))
    | _ => Option.none
  | bytes _ a, other =>
    match other.plain with
    | bytes _ b => some (accepts orEqual (some (compare (a.map UInt8.toNat) (b.map UInt8.toNat))))
    | _ => Option.none
  | value, other =>
    match value.numeric?, other.plain.numeric? with
    | some a, some b => some (accepts orEqual (a.compare? b))
    | _, _ => Option.none

/-- The first items that differ decide; if none do, the lengths. -/
def itemsBelow? (orEqual : Bool) : List Value → List Value → Option Bool
  | [], bs => some (orEqual || !bs.isEmpty)
  | _ :: _, [] => some false
  | a :: as, b :: bs =>
    if isSame a b || isEqual a b then itemsBelow? orEqual as bs else isBelow? orEqual a b

/-- A set is below another that holds all its items. -/
def setBelow? (orEqual : Bool) (as : List Value) : Value → Option Bool
  | set _ bs => some (allFoundIn as bs && (orEqual || as.length < bs.length))
  | frozenset _ bs => some (allFoundIn as bs && (orEqual || as.length < bs.length))
  | _ => Option.none

end

/-- One list of characters stands inside another. -/
def isInfix (part : List Char) : List Char → Bool
  | [] => part.isEmpty
  | c :: rest => part.isPrefixOf (c :: rest) || isInfix part rest

/-- One list of bytes stands inside another. -/
def bytesInside (part : List UInt8) : List UInt8 → Bool
  | [] => part.isEmpty
  | b :: rest => part.isPrefixOf (b :: rest) || bytesInside part rest

/-- Can be asked for in a set: a set stands for the immutable set of its items. -/
def canBeMember : Value → Bool
  | set .. => true
  | value => value.isHashable

/-- Why a container cannot be asked for an item. -/
inductive MembershipFault where
  /-- It is no container, or not one for such items. -/
  | unsuitable
  /-- Bytes are asked for a number that is no byte. -/
  | notByte
deriving DecidableEq, Repr

/-- The container holds the item. -/
def holds (container item : Value) : Except MembershipFault Bool :=
  match container.plain with
  | list _ items => .ok (items.any (matchesItem item))
  | tuple _ items => .ok (items.any (matchesItem item))
  | set _ items => if canBeMember item then .ok (items.any (matchesItem item)) else .error .unsuitable
  | frozenset _ items =>
    if canBeMember item then .ok (items.any (matchesItem item)) else .error .unsuitable
  | dict _ entries =>
    if item.isHashable then .ok (entries.any fun e => matchesItem item e.1) else .error .unsuitable
  | text _ whole =>
    match item.plain with
    | text _ part => .ok (isInfix part.toList whole.toList)
    | _ => .error .unsuitable
  | bytes _ whole =>
    match item.plain with
    | bytes _ part => .ok (bytesInside part whole)
    | bool b => .ok (whole.contains (if b then 1 else 0))
    | int _ n =>
      if 0 ≤ n && n < 256 then .ok (whole.contains (UInt8.ofNat n.toNat)) else .error .notByte
    | _ => .error .unsuitable
  | .class owner true =>
    match item with
    | member own .. => .ok (own == owner)
    | _ => .error .unsuitable
  | _ => .error .unsuitable

end EachSubject.Value
