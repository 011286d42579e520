/-!
# Modes of parameters

How a function's parameter is declared, which fixes the arguments that it can take.
-/

namespace EachSubject

/-- How a parameter of a function is declared. -/
inductive ParameterMode where
  /-- Takes an argument by its place only. -/
  | positionalOnly
  /-- Takes an argument by its place or by name. -/
  | positional
  /-- Collects the positional arguments that are left over. -/
  | extraPositional
  /-- Takes an argument by name only. -/
  | keywordOnly
  /-- Collects the keyword arguments that are left over. -/
  | extraKeyword
deriving DecidableEq, Repr, Inhabited

namespace ParameterMode

/-- Takes an argument by its place. -/
def isPositional : ParameterMode → Bool
  | positionalOnly => true
  | positional => true
  | _ => false

/-- Takes an argument by its name. -/
def isNamed : ParameterMode → Bool
  | positional => true
  | keywordOnly => true
  | _ => false

end ParameterMode

end EachSubject
