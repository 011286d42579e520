import EachSubject.Json.Basic

/-!
# Validation of documents

Reading a value from a document either succeeds or lists every problem, in the order of the fields.
A problem tells what was expected and where, as a path of field names and list indices.
-/

namespace EachSubject

/-- What is wrong at a place of a document. -/
inductive ProblemKind where
  /-- A required field is absent. -/
  | missing
  | notText
  /-- Bytes that are no text. -/
  | undecodableText
  | notList
  | notObject
  /-- Not one of the words of an enumeration. -/
  | notOneOf
  /-- A text or whole number that stands for neither truth value. -/
  | unreadableTruth
  | notTruth
  /-- The text is no document at all. -/
  | malformed
deriving DecidableEq, Repr

/-- A step from a value into a part of it. -/
inductive PathStep where
  | field (name : String)
  | index (position : Nat)
deriving DecidableEq, Repr

structure Problem where
  kind : ProblemKind
  path : List PathStep
deriving DecidableEq, Repr

/-- The code by which a kind of problem is reported. -/
def ProblemKind.code : ProblemKind → String
  | missing => "missing"
  | notText => "string_type"
  | undecodableText => "string_unicode"
  | notList => "tuple_type"
  | notObject => "model_type"
  | notOneOf => "enum"
  | unreadableTruth => "bool_parsing"
  | notTruth => "bool_type"
  | malformed => "json_invalid"

/-- A value that was read, or all the problems found. -/
inductive Validated (α : Type) where
  | valid (value : α)
  | invalid (problems : List Problem)
deriving Repr

namespace Validated

variable {α β : Type}

def map (f : α → β) : Validated α → Validated β
  | valid a => valid (f a)
  | invalid problems => invalid problems

/-- Both parts are read, and the problems of both are listed. -/
def ap (f : Validated (α → β)) (a : Validated α) : Validated β :=
  match f, a with
  | valid f, valid a => valid (f a)
  | valid _, invalid problems => invalid problems
  | invalid problems, valid _ => invalid problems
  | invalid first, invalid second => invalid (first ++ second)

instance : Applicative Validated where
  pure := valid
  seq f a := ap f (a ())

/-- The same reading, one step further inside the document. -/
def within (step : PathStep) : Validated α → Validated α
  | valid a => valid a
  | invalid problems => invalid (problems.map fun p => { p with path := step :: p.path })

/-- A single problem at this place. -/
def problem (kind : ProblemKind) : Validated α := invalid [⟨kind, []⟩]

/-- Reads every item of a list, from the given index on. -/
def items (read : Json → Validated α) (index : Nat) : List Json → Validated (List α)
  | [] => valid []
  | item :: rest =>
    ap (map List.cons (within (.index index) (read item))) (items read (index + 1) rest)

/-- Reads a list. -/
def list (read : Json → Validated α) : Json → Validated (List α)
  | .list values => items read 0 values
  | _ => problem .notList

/-- Reads a text. -/
def text : Json → Validated String
  | .string value => valid value
  | _ => problem .notText

/-- Reads a text or null. -/
def textOrNull : Json → Validated (Option String)
  | .null => valid none
  | .string value => valid (some value)
  | _ => problem .notText

/-- Reads one of the words of an enumeration. -/
def word (ofWord? : String → Option α) : Json → Validated α
  | .string value =>
    match ofWord? value with
    | some a => valid a
    | none => problem .notOneOf
  | _ => problem .notOneOf

/-- The words for a truth value, in lower case. -/
def falseWords : List String := ["0", "off", "f", "false", "n", "no"]

/-- The words for a truth value, in lower case. -/
def trueWords : List String := ["1", "on", "t", "true", "y", "yes"]

/-- Whole numbers outside this range are no candidates for a truth value. -/
def wordSize : Int := 0x8000000000000000

/-- A whole number as a truth value. -/
def truthOfInt (n : Int) : Validated Bool :=
  if n = 0 then valid false
  else if n = 1 then valid true
  else problem .unreadableTruth

/-- Reads a truth value: itself, zero or one, or one of the words for it in any letter case. -/
def truth : Json → Validated Bool
  | .bool value => valid value
  | .int n => if -wordSize ≤ n && n < wordSize then truthOfInt n else problem .notTruth
  | .float x =>
    match x.toInt? with
    | some n => if -wordSize < n && n < wordSize then truthOfInt n else problem .notTruth
    | none => problem .notTruth
  | .string value =>
    let lower := String.ofList (value.toList.map Char.toLower)
    if falseWords.contains lower then valid false
    else if trueWords.contains lower then valid true
    else problem .unreadableTruth
  | _ => problem .notTruth

/-- Reads a field that has to be present. -/
def required (read : Json → Validated α) (name : String) (members : List (String × Json)) :
    Validated α :=
  match Json.lookup name members with
  | some value => within (.field name) (read value)
  | none => within (.field name) (problem .missing)

/-- Reads a field that may be absent. -/
def optional (read : Json → Validated α) (absent : α) (name : String)
    (members : List (String × Json)) : Validated α :=
  match Json.lookup name members with
  | some value => within (.field name) (read value)
  | none => valid absent

/-- Reads an object by its members. -/
def object (read : List (String × Json) → Validated α) : Json → Validated α
  | .object members => read members
  | _ => problem .notObject

@[simp] theorem ap_valid (f : α → β) (a : α) : ap (valid f) (valid a) = valid (f a) := rfl

@[simp] theorem map_valid (f : α → β) (a : α) : map f (valid a) = valid (f a) := rfl

@[simp] theorem within_valid (step : PathStep) (a : α) : within step (valid a) = valid a := rfl

end Validated

end EachSubject
