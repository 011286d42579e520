import EachSubject.Execution.SubjectCheck

/-!
# Bodies of functions

The steps of a body run in order, those with a false condition aside, until one gives a result. Every
call that a step makes runs to its end. What is yielded on the way is kept in order.
-/

namespace EachSubject

/-- What the parameters of a running function hold. -/
abbrev Scope := List (String × Value)

/-- How far a body has come. -/
inductive Progress where
  | running (yielded : List Value)
  | done (outcome : Outcome)

namespace Engine

variable (e : Engine)

/-- The outcome of a comparison. -/
def compare (comparison : Comparison) (left right : Value) : Run Value :=
  match comparison with
  | .equal => e.comparison "==" left right
  | .notEqual => e.comparison "!=" left right
  | .less => e.comparison "<" left right
  | .lessOrEqual => e.comparison "<=" left right
  | .inside => e.comparison "in" left right
  | .same => e.comparison "is" left right

/-- Calls a method of the receiver and runs it to its end. -/
def callToEnd (self : Value) (name : String) (call : Call) : Run Value := do
  e.finish (← e.callMethod self name call)

mutual

/-- The value of an expression. -/
def termValue (self : Value) (scope : Scope) : Term → Run Value
  | .constant value => pure value
  | .parameter name => Run.orFault .unknownName (scope.lookup name)
  | .actual => e.callMethod self "actual" {}
  | .attribute name of => do e.getAttribute (← termValue self scope of) name
  | .result name arguments keywords => do
    let positional ← termValues self scope arguments
    let keywords ← namedTermValues self scope keywords
    e.callToEnd self name { positional, keywords }
  | .not operand => do return .bool !(← e.isTrue (← termValue self scope operand))
  | .and operands => firstTermValue self scope false (.bool true) operands
  | .or operands => firstTermValue self scope true (.bool false) operands
  | .compare comparison left right => do
    let left ← termValue self scope left
    let right ← termValue self scope right
    e.compare comparison left right

/-- The values of expressions, in order. -/
def termValues (self : Value) (scope : Scope) : List Term → Run (List Value)
  | [] => pure []
  | term :: rest => do
    let first ← termValue self scope term
    return first :: (← termValues self scope rest)

/-- The values of keyword arguments, in order. -/
def namedTermValues (self : Value) (scope : Scope) : List (String × Term) → Run (List (String × Value))
  | [] => pure []
  | (name, term) :: rest => do
    let first ← termValue self scope term
    return (name, first) :: (← namedTermValues self scope rest)

/-- The first value that counts as `stop`, or the last one; the ones behind it are not evaluated. -/
def firstTermValue (self : Value) (scope : Scope) (stop : Bool) (last : Value) :
    List Term → Run Value
  | [] => pure last
  | term :: rest => do
    let value ← termValue self scope term
    if (← e.isTrue value) == stop then return value else firstTermValue self scope stop value rest

end

/-- Runs an action, given what was yielded before. -/
def act (self : Value) (scope : Scope) (yielded : List Value) (action : Action) : Run Progress := do
  match action with
  | .fail verb others =>
    let others ← e.termValues self scope others
    let verb ← Run.newText verb
    discard <| e.callToEnd self "_fail" { positional := verb :: others }
    return .running yielded
  | .report message others =>
    let texts ← (← e.termValues self scope others).mapM e.textOf
    let message := message ++ String.join (texts.map (" " ++ ·))
    e.reportTo (← e.getAttribute self "failure_strategy") (pure ⟨message, none⟩)
    return .running yielded
  | .call name arguments keywords =>
    let positional ← e.termValues self scope arguments
    let keywords ← e.namedTermValues self scope keywords
    discard <| e.callToEnd self name { positional, keywords }
    return .running yielded
  | .give value => return .done { result := ← e.termValue self scope value, yielded }
  | .yield value => return .running (yielded ++ [← e.termValue self scope value])

/-- Runs the steps of a body, given what was yielded before. -/
def runSteps (self : Value) (scope : Scope) (yielded : List Value) : List Step → Run Outcome
  | [] => return { yielded }
  | step :: rest => do
    let skipped ← match step.condition with
      | some condition => do pure !(← e.isTrue (← e.termValue self scope condition))
      | none => pure false
    if skipped then runSteps self scope yielded rest
    else
      match ← e.act self scope yielded step.action with
      | .running yielded => runSteps self scope yielded rest
      | .done outcome => return outcome

/-- The values that parameters hold. -/
def scopeOf (arguments : Arguments) : Run Scope :=
  arguments.mapM fun (name, _) => do return (name, ← received arguments name)

/-- Runs a body; its receiver is what the first parameter holds. -/
def runScript (steps : List Step) (arguments : Arguments) : Run Outcome := do
  let scope ← scopeOf arguments
  let self := (scope.head?.map (·.2)).getD .none
  e.runSteps self scope [] steps

end Engine

end EachSubject
