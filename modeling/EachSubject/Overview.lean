import EachSubject.Eligibility
import EachSubject.Text.Markup

/-!
# The overview of a subject

A table with one row per method of a subject: its visibility, its signature, the class that declares
it, and whether the wrapper overrides it.
-/

namespace EachSubject

/-- A table for the terminal; its texts are markup. -/
structure Overview where
  title : String
  headers : List String
  rows : List (List String)
deriving DecidableEq, Repr, Inhabited

/-- A text that is present and not empty. -/
def shown (text : Option String) : Option String := text.filter fun t => !t.isEmpty

/-- A parameter in a signature: its keyword or else its type. -/
def ParameterShape.summary (p : ParameterShape) : String :=
  let head := p.kind.stars ++ ((shown p.keyword).or (shown p.typeText)).getD "?"
  match p.kind, shown p.typeText with
  | .keywordOnly, some typeText => head ++ ": " ++ typeText
  | _, _ => head

/-- The signature of a method. -/
def MethodShape.signature (m : MethodShape) : String :=
  (if m.isAsync then "async " else "") ++
  "(" ++ ", ".intercalate (m.parameters.map ParameterShape.summary) ++ ")" ++
  (match shown m.returns with
    | some returns => " -> " ++ returns
    | none => "")

/-- The row of a method. -/
def MethodShape.row (m : MethodShape) : List String :=
  [m.name, m.visibility.word, Text.escape m.signature, m.owner,
   if m.isEligible then "[green]yes[/green]" else "[dim]no[/dim]"]

/-- The overview of a subject. -/
def SubjectShape.overview (s : SubjectShape) : Overview where
  title := Text.escape (s.qualifiedName ++ " (target " ++ s.target ++ ")")
  headers := ["Method", "Visibility", "Signature", "Declared in", "Wrapped"]
  rows := s.methods.map MethodShape.row

end EachSubject
