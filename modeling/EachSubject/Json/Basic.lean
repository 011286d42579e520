import EachSubject.Double.Basic

/-!
# JSON documents

A document keeps its object members in the order in which they stand, repeated names included;
looking a name up finds the last member of that name.
-/

namespace EachSubject

/-- A JSON document. Whole numbers and numbers with a point or exponent are kept apart. -/
inductive Json where
  | null
  | bool (value : Bool)
  | int (value : Int)
  | float (value : Double)
  | string (value : String)
  | list (items : List Json)
  | object (members : List (String × Json))

instance : Inhabited Json := ⟨.null⟩

namespace Json

/-- The value of the last member of a name among members. -/
def lookup (name : String) : List (String × Json) → Option Json
  | [] => none
  | (key, value) :: rest =>
    match lookup name rest with
    | some later => some later
    | none => if key = name then some value else none

/-- The member of that name of an object. -/
def get? (document : Json) (name : String) : Option Json :=
  match document with
  | .object members => lookup name members
  | _ => none

theorem lookup_append (name : String) (front back : List (String × Json)) :
    lookup name (front ++ back) = (lookup name back).or (lookup name front) := by
  induction front with
  | nil => simp [lookup]
  | cons head tail ih =>
    obtain ⟨key, value⟩ := head
    simp only [List.cons_append, lookup, ih]
    cases lookup name back <;> simp

theorem lookup_eq_none_iff {name : String} {members : List (String × Json)} :
    lookup name members = none ↔ ∀ member ∈ members, member.1 ≠ name := by
  induction members with
  | nil => simp [lookup]
  | cons head tail ih =>
    obtain ⟨key, value⟩ := head
    simp only [lookup]
    split
    · next later found =>
      have : ¬ (lookup name tail = none) := by simp [found]
      simp_all
    · next missing =>
      have absent := ih.mp missing
      by_cases same : key = name
      · simp [same]
      · simpa [same] using absent

end Json

end EachSubject
