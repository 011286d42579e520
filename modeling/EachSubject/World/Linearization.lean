/-!
# Linearization of class hierarchies

A class is followed by a merge of the linearizations of its bases and of the list of bases itself. The
merge takes the first head that stands in no tail, so every class comes before its own bases and the
bases keep their order. There is no merge if every head stands in some tail.
-/

namespace EachSubject.Linearization

variable {α : Type} [DecidableEq α]

/-- The first head that stands in no tail. -/
def candidate? (rows : List (List α)) : Option α :=
  (rows.filterMap List.head?).find? fun head => rows.all fun row => !row.tail.contains head

/-- Takes a head off the rows that start with it, and drops the rows that are used up. -/
def advance (head : α) (rows : List (List α)) : List (List α) :=
  (rows.map fun row => if row.head? = some head then row.tail else row).filter fun row => !row.isEmpty

/-- Merges rows; each step takes an item, so the number of items bounds the steps. -/
def mergeAtMost : Nat → List (List α) → Option (List α)
  | _, [] => some []
  | 0, _ => none
  | fuel + 1, rows => do
    let head ← candidate? rows
    let rest ← mergeAtMost fuel (advance head rows)
    some (head :: rest)

/-- Merges rows, the used-up ones aside. -/
def merge (rows : List (List α)) : Option (List α) :=
  mergeAtMost (rows.flatten.length + 1) (rows.filter fun row => !row.isEmpty)

/-- The linearization of a class from its bases and their linearizations. -/
def linearize (name : α) (bases : List α) (above : List (List α)) : Option (List α) :=
  (merge (above ++ [bases])).map (name :: ·)

example : linearize 4 [2, 3] [[2, 1], [3, 1]] = some [4, 2, 3, 1] := by decide
example : linearize 3 [1, 2] [[1], [2, 1]] = none := by decide

/-- A merge of the rows is made of their items. -/
theorem mem_of_mem_mergeAtMost {fuel : Nat} {rows : List (List α)} {merged : List α} {x : α}
    (found : mergeAtMost fuel rows = some merged) (inside : x ∈ merged) : ∃ row ∈ rows, x ∈ row := by
  induction fuel generalizing rows merged with
  | zero =>
    cases rows with
    | nil => simp_all [mergeAtMost]
    | cons row rest => simp [mergeAtMost] at found
  | succ fuel ih =>
    cases rows with
    | nil => simp_all [mergeAtMost]
    | cons row rest =>
      simp only [mergeAtMost, Option.bind_eq_bind, Option.bind_eq_some_iff, Option.some.injEq] at found
      obtain ⟨head, chosen, tail, merges, rfl⟩ := found
      rcases List.mem_cons.mp inside with rfl | deeper
      · have isHead := List.mem_of_find?_eq_some chosen
        obtain ⟨r, hr, hx⟩ := List.mem_filterMap.mp isHead
        exact ⟨r, hr, List.mem_of_mem_head? hx⟩
      · obtain ⟨r, hr, hx⟩ := ih merges deeper
        obtain ⟨r', hr', rfl⟩ := List.mem_map.mp (List.mem_filter.mp hr).1
        refine ⟨r', hr', ?_⟩
        split at hx
        · exact List.mem_of_mem_tail hx
        · exact hx

end EachSubject.Linearization
