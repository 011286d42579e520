import EachSubject.Double.Basic

/-!
# TOML documents

A document is a table of values by key. Keys keep the order in which they first appear. Dates and times
carry no value here, since no setting has one.
-/

namespace EachSubject.Toml

inductive Value where
  | text (value : String)
  | integer (value : Int)
  | float (value : Double)
  | boolean (value : Bool)
  /-- A date, a time, or both. -/
  | moment
  | array (items : List Value)
  | table (entries : List (String × Value))

instance : Inhabited Value := ⟨.table []⟩

/-- The entries of a table, in order. -/
abbrev Table := List (String × Value)

/-- Why a document cannot be read. -/
inductive Fault where
  /-- The text is not a document. -/
  | malformed
  /-- A whole number has more digits than are read. -/
  | tooManyDigits
  /-- Arrays and inline tables are nested too deeply. -/
  | tooDeep
deriving DecidableEq, Repr

/-- Puts a value under a key, in the place of the value that is there, or behind all others. -/
def put (key : String) (value : Value) : Table → Table
  | [] => [(key, value)]
  | (k, v) :: rest => if k = key then (key, value) :: rest else (k, v) :: put key value rest

/-- Changes the table at a path, with missing tables on the way made. In an array, the way goes on
    through its last item if `throughArrays` holds; otherwise it ends there. -/
def changeAt (throughArrays : Bool) (change : Table → Option Table) :
    List String → Table → Option Table
  | [], table => change table
  | key :: rest, table =>
    match table.lookup key with
    | none => (changeAt throughArrays change rest []).map fun inner => put key (.table inner) table
    | some (.table entries) =>
      (changeAt throughArrays change rest entries).map fun inner => put key (.table inner) table
    | some (.array items) =>
      match throughArrays, items.getLast? with
      | true, some (.table entries) =>
        (changeAt throughArrays change rest entries).map fun inner =>
          put key (.array (items.dropLast ++ [.table inner])) table
      | _, _ => none
    | some _ => none

/-- Puts a value under a new key of the table at a path. -/
def addAt (throughArrays : Bool) (path : List String) (key : String) (value : Value) (table : Table) :
    Option Table :=
  changeAt throughArrays
    (fun t => if (t.lookup key).isSome then none else some (put key value t)) path table

/-- Makes sure that there is a table at a path. -/
def openAt (path : List String) (table : Table) : Option Table := changeAt true some path table

/-- Appends an empty table to the array of tables under a key of the table at a path. -/
def appendAt (path : List String) (key : String) (table : Table) : Option Table :=
  changeAt true (fun t =>
    match t.lookup key with
    | none => some (put key (.array [.table []]) t)
    | some (.array items) => some (put key (.array (items ++ [.table []])) t)
    | some _ => none) path table

end EachSubject.Toml
