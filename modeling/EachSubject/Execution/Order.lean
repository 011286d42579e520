import EachSubject.Execution.Argument

/-!
# Sorted items

Items are sorted by what a function makes of them, or by themselves, under the order that the language
has for them. Of two items neither of which is less than the other, the one that stood first stays
first, also when the order is turned round.
-/

namespace EachSubject.Engine

variable (e : Engine)

/-- An item with what it is sorted by. -/
abbrev Keyed := Value × Value

/-- The key of the left item is less. -/
def isLess (left right : Keyed) : Run Bool := do
  e.isTrue (← e.comparison "<" left.1 right.1)

/-- Two sorted lists as one; `fuel` bounds the steps. -/
def merged : Nat → List Keyed → List Keyed → Run (List Keyed)
  | 0, xs, ys => pure (xs ++ ys)
  | _, [], ys => pure ys
  | _, xs, [] => pure xs
  | fuel + 1, x :: xs, y :: ys => do
    if ← e.isLess y x then return y :: (← merged fuel (x :: xs) ys)
    else return x :: (← merged fuel xs (y :: ys))

/-- Sorts a list whose length is at most 2 to the power of `depth`. -/
def sortWithin : Nat → List Keyed → Run (List Keyed)
  | 0, items => pure items
  | depth + 1, items => do
    if items.length < 2 then return items
    let half := items.length / 2
    let left ← sortWithin depth (items.take half)
    let right ← sortWithin depth (items.drop half)
    e.merged items.length left right

/-- The items in order. -/
def sorted (items : List Value) (key : Value) (isReversed : Bool) : Run (List Value) := do
  let keyed ← items.mapM fun item =>
    match key with
    | .none => pure ((item, item) : Keyed)
    | key => do return (← e.apply key { positional := [item] }, item)
  let depth := Nat.log2 items.length + 2
  let found ← e.sortWithin depth (if isReversed then keyed.reverse else keyed)
  let found := found.map (·.2)
  return if isReversed then found.reverse else found

/-- The parameters of what sorts. -/
def sortingParameters : List FunctionParameter :=
  [maybeKeyword "key" .none, maybeKeyword "reverse" (.bool false)]

/-- The greatest or the least of items; the first one of several. -/
def extreme (wantsGreatest : Bool) (key : Value) : Option Keyed → List Value → Run (Option Value)
  | best, [] => pure (best.map (·.2))
  | best, item :: rest => do
    let own ← match key with
      | .none => pure item
      | key => e.apply key { positional := [item] }
    match best with
    | none => extreme wantsGreatest key (some (own, item)) rest
    | some best =>
      let op := if wantsGreatest then ">" else "<"
      let better ← e.isTrue (← e.comparison op own best.1)
      extreme wantsGreatest key (some (if better then (own, item) else best)) rest

end EachSubject.Engine
