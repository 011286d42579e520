import EachSubject.Value.Hash

/-!
# The order of the items of a set

A set keeps its items in a table of slots. The number that stands for an item says where the search for
a free slot begins: a few slots in a row are tried, and then it jumps. A table that becomes too full is
replaced by a larger one. The items come in the order of their slots; items for which no number is laid
down keep the order in which they were added.
-/

namespace EachSubject.Value

/-- The slots of a table, each with an item and its number or free. -/
abbrev Table := Array (Option (Nat × Value))

namespace Table

/-- How many slots behind the first one are tried before the search jumps. -/
def neighbours : Nat := 9

/-- The size of a table at first. -/
def leastSize : Nat := 8

def empty (size : Nat) : Table := Array.replicate size Option.none

/-- The slot is free. -/
def isFree (t : Table) (index : Nat) : Bool :=
  match t[index]? with
  | some Option.none => true
  | _ => false

/-- The free slot at which a search ends that goes on at an index. Every jump uses up some digits of
    `rest`, and `fuel` bounds the jumps. -/
def search? (t : Table) (rest index : Nat) : Nat → Option Nat
  | 0 => Option.none
  | fuel + 1 =>
    let count := if index + neighbours < t.size then neighbours + 1 else 1
    match (List.range' index count).find? t.isFree with
    | some found => some found
    | Option.none => search? t (rest / 32) ((index * 5 + 1 + rest / 32) % t.size) fuel

/-- Adds an item. A table without a free slot gets one more. -/
def put (t : Table) (number : Nat) (item : Value) : Table :=
  match t.search? number (number % t.size) (20 + 10 * t.size) with
  | some index => t.setIfInBounds index (some (number, item))
  | Option.none => t.push (some (number, item))

/-- The least size above a number of items. -/
def sizeAbove (count : Nat) : Nat := max leastSize (Nat.pow 2 (Nat.log2 count + 1))

/-- The items with their numbers, in order. -/
def entries (t : Table) : List (Nat × Value) := t.toList.filterMap id

/-- The same items in a table of another size. -/
def moved (t : Table) (size : Nat) : Table :=
  t.entries.foldl (fun moved (number, item) => moved.put number item) (empty size)

/-- Adds an item that becomes one of `used` items; a table that is full to three fifths grows. -/
def add (t : Table) (used number : Nat) (item : Value) : Table :=
  let t := t.put number item
  if used * 5 < (t.size - 1) * 3 then t
  else t.moved (sizeAbove (if 50000 < used then used * 2 else used * 4))

/-- Adds items one by one to a table that holds some already. -/
def addAll (t : Table) (used : Nat) : List (Nat × Value) → Table
  | [] => t
  | (number, item) :: rest => addAll (t.add (used + 1) number item) (used + 1) rest

/-- The table of the items of another one, which are added at once. -/
def copied (t : Table) : Table :=
  let count := t.entries.length
  let size := if count * 5 < (leastSize - 1) * 3 then leastSize else sizeAbove (count * 2)
  if size = t.size then t else t.moved size

/-- The table of different items that are added one by one, if a number stands for each of them. -/
def ofItems? (items : List Value) : Option Table :=
  (Hash.ofAll? items).map fun numbers =>
    addAll (empty leastSize) 0 ((numbers.map Hash.unsigned).zip items)

/-- The items of a table and of others that are added at once; some of them may be there already. -/
def merged (t : Table) (others : List (Nat × Value)) (isThere : Value → Bool) : Table :=
  let used := t.entries.length
  let count := used + others.length
  let t := if count * 5 < (t.size - 1) * 3 then t else t.moved (sizeAbove (count * 2))
  t.addAll used (others.filter fun (_, item) => !isThere item)

end Table

/-- Different items in the order of a set to which they are added one by one. -/
def inSetOrder (items : List Value) : List Value :=
  match Table.ofItems? items with
  | some t => t.entries.map (·.2)
  | Option.none => items

/-- The items of a set in the order of a copy of it. -/
def inCopyOrder (items : List Value) : List Value :=
  match Table.ofItems? items with
  | some t => t.copied.entries.map (·.2)
  | Option.none => items

/-- The items of the union of two sets. -/
def inUnionOrder (items others : List Value) : List Value :=
  let isThere (item : Value) : Bool := items.any (matchesItem item)
  match Table.ofItems? items, Table.ofItems? others with
  | some s, some t => (s.copied.merged t.entries isThere).entries.map (·.2)
  | _, _ => items ++ others.filter (!isThere ·)

/-- The items of a set that is made of items one by one. -/
def setOf (items : List Value) : List Value := inSetOrder (distinctItems items)

end EachSubject.Value
