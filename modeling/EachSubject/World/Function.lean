import EachSubject.Source.Syntax
import EachSubject.Value.Basic

/-!
# Functions and members of classes

A class keeps its functions as data: a parameter list with declared types and defaults, and a body.
Bodies are made of a few kinds of steps, or given by source text; those of the base classes of subjects
and of factories, of what reports failures, and of the overrides of wrappers are kinds of their own.
-/

namespace EachSubject

/-- What calling a function gives. -/
inductive FunctionForm where
  /-- The result. -/
  | plain
  /-- A coroutine, which gives the result when it is awaited. -/
  | coroutine
  /-- A generator, which runs when it is iterated. -/
  | generator
  | asyncGenerator
deriving DecidableEq, Repr, Inhabited

/-- A parameter of a function. -/
structure FunctionParameter where
  name : String
  mode : ParameterMode := .positional
  /-- The declared type, as written. -/
  hint : Option Value := none
  default : Option Value := none
deriving Inhabited

/-- A comparison of two values. -/
inductive Comparison where
  | equal
  | notEqual
  | less
  | lessOrEqual
  | inside
  | same
deriving DecidableEq, Repr

/-- An expression in a body. -/
inductive Term where
  | constant (value : Value)
  | parameter (name : String)
  /-- The value under check. -/
  | actual
  | attribute (name : String) (of : Term)
  /-- The value of a call on the receiver. -/
  | result (method : String) (arguments : List Term) (keywords : List (String × Term))
  | not (operand : Term)
  | and (operands : List Term)
  | or (operands : List Term)
  | compare (comparison : Comparison) (left right : Term)

instance : Inhabited Term := ⟨.actual⟩

/-- What a step of a body does. -/
inductive Action where
  /-- Reports a failed check with the base class's own wording. -/
  | fail (verb : String) (others : List Term)
  /-- Reports a failure with a wording of its own. -/
  | report (message : String) (others : List Term)
  /-- Calls a method of the receiver and lets it run to its end. -/
  | call (method : String) (arguments : List Term) (keywords : List (String × Term))
  | give (value : Term)
  | yield (value : Term)

/-- A step is skipped if its condition is false. -/
structure Step where
  condition : Option Term
  action : Action

/-- The functions of the base class of subjects. -/
inductive SubjectFunction where
  | construct
  | actual
  | named
  | isEqualTo
  | isNotEqualTo
  | isNone
  | isNotNone
  | isInstanceOf
  | isIn
  | fail
deriving DecidableEq, Repr

/-- The functions of the classes of factories. -/
inductive FactoryFunction where
  /-- Keeps the subject class that the factory is made for. -/
  | construct
  /-- The subject class that the factory is made for. -/
  | keptSubject
  /-- The subject class that the factory's class binds. -/
  | boundSubject
  /-- Makes a subject of the class that the factory is made for. -/
  | make
  | text
deriving DecidableEq, Repr

/-- How an override passes a parameter on. -/
inductive Forward where
  | positional (name : String)
  | extraPositional (name : String)
  /-- Under a keyword, what the named parameter received. -/
  | keyword (keyword name : String)
  | extraKeyword (name : String)
deriving DecidableEq, Repr

/-- An override: the method that it runs for each element, how it passes its arguments on, and
    whether it awaits the results. -/
structure Delegation where
  method : String
  forwards : List Forward
  awaits : Bool := false
deriving DecidableEq, Repr

/-- The functions of the classes of objects that failures are reported to. -/
inductive ReporterFunction where
  /-- Nothing is recorded at first. -/
  | construct
  /-- Raises a failure, or records it. -/
  | fail
  /-- The recorded failures. -/
  | failures
  | clear
  /-- Raises the recorded failures as one, if there are any. -/
  | raiseIfFailed
deriving DecidableEq, Repr

/-- What source text gives for the body of a function. -/
inductive Content where
  | statements (body : List Source.Stmt)
  | expression (value : Source.Expr)
  /-- What a comprehension yields one by one; it runs over the value of the only parameter first. -/
  | items (element : Source.Expr) (clauses : List Source.Clause)

/-- The body of a function as source text gives it, with what it sees around itself. -/
structure Code where
  content : Content
  /-- The scopes of the functions around, the innermost first, with the names that belong to them. -/
  around : List (Nat × List String)
  /-- The scope of the module. -/
  globals : Nat
  /-- The name of the class around, for private names. -/
  owner : String
  /-- The class around. -/
  definer : Option ClassName
  /-- The names that belong to the function, its parameters among them. -/
  names : List String
  /-- The names that the function declares to belong to the module. -/
  globalNames : List String
  /-- How the function is reached from its module. -/
  path : String
  isGenerator : Bool
  /-- The scope to run in, if it is there already, as that of a module is. -/
  scope : Option Nat := none

/-- What a function does when it runs. -/
inductive Body where
  | script (steps : List Step)
  | source (code : Code)
  | ofSubject (function : SubjectFunction)
  | ofFactory (function : FactoryFunction)
  | ofReporter (function : ReporterFunction)
  /-- The constructor of a wrapper class: the one above runs first. -/
  | constructWrapper (owner : ClassName)
  /-- Runs a method of a fresh subject for each element. -/
  | delegate (delegation : Delegation)
  /-- Makes a subject of a class. -/
  | makeSubject (subject : ClassName)
  /-- Declared only. -/
  | declared

/-- A synchronous function around another one, which it calls with the same arguments; introspection
    sees the signature of the inner function but the stored defaults of the outer one. -/
structure Wrapping where
  defaults : List Value
  keywordDefaults : List (String × Value)

/-- A function of a class. -/
structure Function where
  /-- The module whose names its declared types refer to. -/
  module : String
  name : String
  parameters : List FunctionParameter
  /-- The declared type of the result, as written. -/
  returns : Option Value := none
  form : FunctionForm := .plain
  wrapping : Option Wrapping := none
  /-- The text that describes the function, or nothing. -/
  doc : Value := .none
  body : Body

/-- An entry of a class's namespace. -/
inductive Member where
  | value (value : Value)
  /-- A function of the language itself, which has no declaration to look at. -/
  | builtin
  | function (binding : Binding) (isFinal : Bool) (function : Function)

namespace Function

/-- The positional parameters that have a default, in order. -/
def defaulted (f : Function) : List FunctionParameter :=
  f.parameters.filter fun p => p.mode.isPositional && p.default.isSome

/-- The defaults that the function itself stores for its positional parameters. -/
def storedDefaults (f : Function) : List Value :=
  match f.wrapping with
  | some w => w.defaults
  | none => f.defaulted.filterMap (·.default)

/-- The defaults that the function itself stores for its keyword-only parameters. -/
def storedKeywordDefaults (f : Function) : List (String × Value) :=
  match f.wrapping with
  | some w => w.keywordDefaults
  | none => f.parameters.filterMap fun p =>
      if p.mode = .keywordOnly then p.default.map fun d => (p.name, d) else none

/-- Seen from outside, calling it gives a coroutine. -/
def looksAsync (f : Function) : Bool := f.wrapping.isNone && f.form == .coroutine

/-- Seen from outside, calling it gives a generator. -/
def looksGenerator (f : Function) : Bool :=
  f.wrapping.isNone && (f.form == .generator || f.form == .asyncGenerator)

end Function

end EachSubject
