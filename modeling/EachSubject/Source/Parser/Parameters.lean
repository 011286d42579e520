import EachSubject.Source.Parser.Basic

/-!
# Parameter lists

A parameter list is read item by item and then arranged: the items must stand in the order that a
declaration allows, and each parameter gets its mode from its place among the separators.
-/

namespace EachSubject.Source

/-- An item of a parameter list as it is written. -/
inductive ParameterItem where
  /-- The parameters before it are passed by position only. -/
  | slash
  /-- The parameters after it are passed by keyword only. -/
  | star
  | plain (name : String) (hint default : Option Expr)
  | extraPositional (name : String) (hint : Option Expr)
  | extraKeyword (name : String) (hint : Option Expr)

/-- What has been seen of a parameter list. -/
structure ParameterProgress where
  /-- The parameters so far, in order. -/
  done : List Parameter
  slashed : Bool
  starred : Bool
  closed : Bool
  /-- A lone star still needs a parameter behind it. -/
  pending : Bool
  /-- A positional parameter had a default. -/
  defaulted : Bool

namespace ParameterProgress

def start : ParameterProgress := ⟨[], false, false, false, false, false⟩

/-- Makes a parameter one that is passed by position only. -/
def toPositionalOnly : Parameter → Parameter
  | .mk name _ hint default => .mk name .positionalOnly hint default

/-- Takes the next item, if it may stand here. -/
def add? (p : ParameterProgress) : ParameterItem → Option ParameterProgress
  | .slash =>
    if p.slashed || p.starred || p.closed || p.done.isEmpty then none
    else some { p with done := p.done.map toPositionalOnly, slashed := true }
  | .star =>
    if p.starred || p.closed then none else some { p with starred := true, pending := true }
  | .plain name hint default =>
    if p.closed then none
    else if p.starred then
      some { p with done := p.done ++ [.mk name .keywordOnly hint default], pending := false }
    else if p.defaulted && default.isNone then none
    else some { p with
      done := p.done ++ [.mk name .positional hint default]
      defaulted := p.defaulted || default.isSome }
  | .extraPositional name hint =>
    if p.starred || p.closed then none
    else some { p with
      done := p.done ++ [.mk name .extraPositional hint none], starred := true }
  | .extraKeyword name hint =>
    if p.closed || p.pending then none
    else some { p with done := p.done ++ [.mk name .extraKeyword hint none], closed := true }

end ParameterProgress

/-- The parameters of a list of items, if the items stand in an allowed order. -/
def arrangeParameters? (items : List ParameterItem) : Option (List Parameter) :=
  match items.foldlM ParameterProgress.add? .start with
  | some p => if p.pending then none else some p.done
  | none => none

namespace Parser

/-- A declared type after its colon, where one is allowed. -/
def hint? (allowed : Bool) (expression : Parser Expr) : Parser (Option Expr) := do
  if allowed then
    if ← accepts (.op ":") then return some (← expression) else return none
  else return none

/-- One item of a parameter list. The declared type of a starred parameter may itself be starred. -/
def parameterItem (annotated : Bool) (expression starExpression : Parser Expr) :
    Parser ParameterItem := do
  if ← accepts (.op "/") then return .slash
  else if ← accepts (.op "**") then
    let name ← identifier
    return .extraKeyword name (← hint? annotated expression)
  else if ← accepts (.op "*") then
    if ← sees (.op ",") then return .star
    else
      let name ← identifier
      return .extraPositional name (← hint? annotated starExpression)
  else
    let name ← identifier
    let hint ← hint? annotated expression
    if ← accepts (.op "=") then return .plain name hint (some (← expression))
    else return .plain name hint none

/-- A parameter list up to its closing token, which stays. -/
def parameters (annotated : Bool) (closer : Token) (expression starExpression : Parser Expr) :
    Parser (List Parameter) := do
  if ← sees closer then return []
  else
    let first ← parameterItem annotated expression starExpression
    let rest ← repeated do
      if ← sees closer then return none
      else
        expect (.op ",")
        if ← sees closer then return none
        else return some (← parameterItem annotated expression starExpression)
    match arrangeParameters? (first :: rest) with
    | some parameters => return parameters
    | none => failure

end Parser

end EachSubject.Source
