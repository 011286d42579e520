import EachSubject.Double.Basic
import EachSubject.ParameterMode

/-!
# Syntax trees

Expressions and statements of a module's text. Parentheses that only group leave no trace.
-/

namespace EachSubject.Source

/-- A constant in an expression. -/
inductive Literal where
  | none
  | bool (value : Bool)
  | whole (value : Nat)
  | real (value : Double)
  | imaginary (value : Double)
  | text (value : String)
  | bytes (value : List UInt8)
  | ellipsis
deriving DecidableEq, Repr

/-- What a comprehension builds. -/
inductive ComprehensionKind where
  | list
  | set
  | generator
deriving DecidableEq, Repr

mutual

inductive Expr where
  | name (text : String)
  | literal (value : Literal)
  /-- A string with embedded expressions. -/
  | formatted (parts : List FormattedPart)
  | attribute (object : Expr) (name : String)
  | subscript (object index : Expr)
  | slice (start stop step : Option Expr)
  | call (function : Expr) (arguments : List Argument)
  | unary (op : String) (operand : Expr)
  | binary (op : String) (left right : Expr)
  /-- Operands joined by `and` or by `or`. -/
  | junction (op : String) (operands : List Expr)
  | comparison (first : Expr) (rest : List (String × Expr))
  | conditional (test yes no : Expr)
  | function (parameters : List Parameter) (body : Expr)
  | tuple (items : List Expr)
  | list (items : List Expr)
  | set (items : List Expr)
  /-- Entries with a key, and mappings that are spread. -/
  | dict (entries : List (Option Expr × Expr))
  | starred (operand : Expr)
  | comprehension (kind : ComprehensionKind) (element : Expr) (clauses : List Clause)
  | dictComprehension (key value : Expr) (clauses : List Clause)
  /-- An expression that also names its value. -/
  | assigning (name : String) (value : Expr)
  | awaited (operand : Expr)
  | yielded (operand : Option Expr)
  | yieldedFrom (operand : Expr)

inductive Argument where
  | positional (value : Expr)
  | spread (value : Expr)
  | keyword (name : String) (value : Expr)
  | spreadKeywords (value : Expr)

inductive Parameter where
  | mk (name : String) (mode : ParameterMode) (hint default : Option Expr)

/-- A `for` of a comprehension, with its conditions. -/
inductive Clause where
  | mk (isAsync : Bool) (target iterable : Expr) (conditions : List Expr)

/-- A part of a string with embedded expressions. -/
inductive FormattedPart where
  | text (value : String)
  /-- An embedded expression, the letter of the form in which it is shown, and how it is laid out. -/
  | field (value : Expr) (conversion : Option Char) (layout : Option (List FormattedPart))

end

instance : Inhabited Expr := ⟨.literal .none⟩

namespace Parameter

def name : Parameter → String
  | mk name _ _ _ => name

def mode : Parameter → ParameterMode
  | mk _ mode _ _ => mode

def hint : Parameter → Option Expr
  | mk _ _ hint _ => hint

def default : Parameter → Option Expr
  | mk _ _ _ default => default

end Parameter

/-- What a value is matched with. -/
inductive Pattern where
  /-- A constant; numbers may have a sign or be complex. -/
  | literal (value : Expr)
  /-- The value of a name reached through attributes. -/
  | value (of : Expr)
  /-- Everything, which gets the name if there is one. -/
  | capture (name : Option String)
  | sequence (items : List Pattern)
  /-- The items of a sequence that the other patterns leave over. -/
  | star (name : Option String)
  | mapping (entries : List (Expr × Pattern)) (rest : Option String)
  | ofClass (cls : Expr) (positional : List Pattern) (keywords : List (String × Pattern))
  | alternatives (patterns : List Pattern)
  | named (pattern : Pattern) (name : String)

instance : Inhabited Pattern := ⟨.capture none⟩

/-- An imported name and the name that it is given. -/
abbrev ImportedName := List String × Option String

mutual

inductive Stmt where
  | expression (value : Expr)
  | assign (targets : List Expr) (value : Expr)
  | augment (target : Expr) (op : String) (value : Expr)
  | annotate (target hint : Expr) (value : Option Expr)
  | importModules (modules : List ImportedName)
  /-- The number of leading points, the module, and the names; no names stand for all of them. -/
  | importNames (level : Nat) (module : List String) (names : Option (List (String × Option String)))
  | pass
  | break
  | continue
  | return (value : Option Expr)
  | raise (error cause : Option Expr)
  | delete (targets : List Expr)
  | assert (test : Expr) (message : Option Expr)
  | global (names : List String)
  | nonlocal (names : List String)
  | function (decorators : List Expr) (isAsync : Bool) (name : String) (parameters : List Parameter)
      (returns : Option Expr) (body : List Stmt)
  | class (decorators : List Expr) (name : String) (arguments : List Argument) (body : List Stmt)
  | if (test : Expr) (body orElse : List Stmt)
  | while (test : Expr) (body orElse : List Stmt)
  | for (isAsync : Bool) (target iterable : Expr) (body orElse : List Stmt)
  | with (isAsync : Bool) (items : List (Expr × Option Expr)) (body : List Stmt)
  | try (body : List Stmt) (handlers : List Handler) (orElse finalBody : List Stmt)
  | match (subject : Expr) (cases : List Case)

/-- A clause that handles errors, of one kind or in groups. -/
inductive Handler where
  | mk (isGroup : Bool) (kind : Option Expr) (name : Option String) (body : List Stmt)

/-- A case of a `match`, with its condition. -/
inductive Case where
  | mk (pattern : Pattern) (guard : Option Expr) (body : List Stmt)

end

/-- A module is a sequence of statements. -/
abbrev Module := List Stmt

end EachSubject.Source
