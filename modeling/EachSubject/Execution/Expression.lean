import EachSubject.Execution.Frame

/-!
# Evaluating expressions

The value of an expression where it stands. Operands are evaluated from left to right, and no further
than the outcome needs. A function keeps the scopes that it sees. The first thing that a comprehension
runs over is evaluated where the comprehension stands, everything else in a scope of its own; the items
of a generator are made when the first of them is asked for.
-/

namespace EachSubject.Engine

variable (e : Engine)

/-! ## Functions -/

/-- A parameter with the value of its default. -/
def parameterOf (f : Frame) (p : Source.Parameter) (default : Option Value) : FunctionParameter :=
  { name := f.inside p.name, mode := p.mode, default }

/-- The code of a block in a frame. -/
def codeIn (f : Frame) (content : Content) (parameters : List String)
    (outline : List Source.Outline) (path : String) : Code where
  content
  around := f.visible
  globals := f.globals
  owner := f.owner
  definer := f.definer
  names := Source.Outline.localNames parameters outline
  globalNames := Source.Outline.globalNames outline
  path
  isGenerator := Source.Outline.isGenerator outline

/-- A new function. -/
def newFunction (f : Function) : Run Value := do
  return .reference (← Run.allocate (.function { function := f })) Value.functionClass

/-- The function of an expression. -/
def functionOfExpression (f : Frame) (parameters : List Source.Parameter)
    (defaults : List (Option Value)) (body : Source.Expr) : Run Value := do
  let own := (parameters.zip defaults).map fun (p, default) => parameterOf f p default
  let outline := body.outline f.owner
  let name := "<lambda>"
  let code := codeIn f (.expression body) (own.map (·.name)) outline (f.pathOf name)
  newFunction
    { module := f.module, name, parameters := own, body := .source code
      form := if code.isGenerator then .generator else .plain }

/-- The names that belong to a comprehension. -/
def comprehensionNames (f : Frame) (clauses : List Source.Clause) : List String :=
  Source.Outline.targetNames (Source.clausesOutline f.owner clauses)

/-- A generator over the items of an iterator. -/
def generatorOver (f : Frame) (element : Source.Expr) (clauses : List Source.Clause)
    (iterator : Value) : Run Value := do
  let name := "<genexpr>"
  let code : Code :=
    { content := .items element clauses, around := f.visible, globals := f.globals, owner := f.owner
      definer := f.definer, names := comprehensionNames f clauses, globalNames := []
      path := f.pathOf name, isGenerator := false, scope := some (← Run.allocate (.scope [])) }
  let function ← newFunction
    { module := f.module, name, parameters := [{ name := iteratorsParameter }]
      body := .source code }
  Run.newStream "generator" "generator" [function, iterator]

/-! ## Calls -/

/-- The keywords of a mapping that is spread over a call. -/
def keywordsOf (value : Value) : Run (List (String × Value)) := do
  let entries ← match (← Run.current value).plain with
    | .dict _ entries => pure entries
    | _ =>
      match ← hook? value "keys" with
      | some _ => e.entriesFor value
      | none => throw .mismatch
  entries.mapM fun (key, value) => do return (String.ofList (← charsOf key), value)

/-- The entries of a mapping that is spread over a dictionary. -/
def entriesOfMapping (value : Value) : Run (List (Value × Value)) := do
  match (← Run.current value).plain with
  | .dict _ entries => return entries
  | _ =>
    match ← hook? value "keys" with
    | some _ => e.entriesFor value
    | none => throw .mismatch

/-- The object that a function is called on, and the class that the function belongs to. -/
def aboveHere (f : Frame) : Run Value := do
  match f.definer, f.first with
  | some owner, some first =>
    match (← Run.namesOf f.scope).lookup first with
    | some object => return .above owner object
    | none => throw .spent
  | _, _ => throw .spent

/-- Runs a text in a scope. -/
def runText (f : Frame) (isExpression : Bool) (source : Value) (scope globals : Nat) : Run Value := do
  let content ← contentOf isExpression (← sourceText source)
  let globalNames := match content with
    | .statements body => Source.Outline.globalNames (Source.bodyOutline "" body)
    | _ => []
  let code : Code :=
    { content, around := [], globals, owner := "", definer := none, names := [], globalNames
      path := "", isGenerator := false, scope := some scope }
  let outcome ← e.execute
    { module := f.module, name := "<module>", parameters := [], body := .source code } []
  return outcome.result

/-- A scope of the names that a dictionary holds. -/
def scopeOfDict (dict : Value) : Run Nat := do
  match (← Run.current dict).plain with
  | .dict _ entries =>
    Run.allocate (.scope (entries.filterMap fun (key, value) => (Hint.textOf? key).map (·, value)))
  | _ => throw .mismatch

/-- A dictionary gets the names of a scope. -/
def keepNames (dict : Value) (scope : Nat) : Run Unit := do
  match (← Run.current dict).plain with
  | .dict place entries =>
    let names ← (← Run.namesOf scope).mapM fun (name, value) => do return (← Run.newText name, value)
    let others := entries.filter fun (key, _) => (Hint.textOf? key).isNone
    Run.revise (.dict place (others ++ names))
  | _ => pure ()

/-- What a text sees of the names that are known everywhere. -/
def knownNames : String × Value := ("__builtins__", .module ClassName.builtinModule)

/-- Runs a text where an expression stands, or with the names of one or two dictionaries. -/
def runGiven (f : Frame) (isExpression : Bool) (source globals locals : Value) : Run Value := do
  match globals with
  | .none =>
    match locals with
    | .none =>
      let scope ← if f.kind = .module || f.kind = .classBody then pure f.scope
        else do Run.allocate (.scope (← Run.namesOf f.scope))
      e.runText f isExpression source scope f.globals
    | locals =>
      let scope ← scopeOfDict locals
      let found ← e.runText f isExpression source scope f.globals
      keepNames locals scope
      return found
  | globals =>
    let outer ← scopeOfDict globals
    Run.setName outer knownNames.1 knownNames.2
    let scope ← if locals.isSame .none then pure outer else scopeOfDict locals
    let found ← e.runText f isExpression source scope outer
    keepNames globals outer
    if !locals.isSame .none then keepNames locals scope
    return found

/-- Runs a text as a call asks for it; statements have no value. -/
def runCall (f : Frame) (isExpression : Bool) (source : Value) (call : Call) : Run Value := do
  match ← taken [place "source", maybePlace "globals" .none, maybePlace "locals" .none] call with
  | [_, globals, locals] =>
    let found ← e.runGiven f isExpression source globals locals
    return if isExpression then found else .none
  | _ => throw .mismatch

/-- Calls a value from where an expression stands; some functions look at that place. -/
def callFrom (f : Frame) (function : Value) (call : Call) : Run Value := do
  match function, call.positional, call.keywords with
  | .class owner _, [], [] =>
    if owner = .builtin "super" then aboveHere f else e.call function call
  | .builtin "locals", [], [] => do Run.newDict (← Run.namesOf f.scope)
  | .builtin "vars", [], [] => do Run.newDict (← Run.namesOf f.scope)
  | .builtin "globals", [], [] => do Run.newDict (← Run.namesOf f.globals)
  | .builtin "dir", [], [] => do
    Run.newList (← ((← Run.namesOf f.scope).map (·.1)).mergeSort.mapM Run.newText)
  | .builtin "eval", source :: _, [] => e.runCall f true source call
  | .builtin "exec", source :: _, [] => e.runCall f false source call
  | function, _, _ => e.call function call

/-! ## Expressions -/

mutual

/-- The value of an expression. -/
def evaluate (f : Frame) : Source.Expr → Run Value
  | .name name => f.value name
  | .literal value => Run.constant value
  | .formatted parts => do Run.newText (← formattedText f parts)
  | .attribute object name => do e.getAttribute (← evaluate f object) (f.inside name)
  | .subscript object index => do
    let object ← evaluate f object
    e.getItem object (← evaluate f index)
  | .slice start stop step => do
    let start ← evaluateOptional f start
    let stop ← evaluateOptional f stop
    let step ← evaluateOptional f step
    return .slice (← Run.freshPlace) start stop step
  | .call function arguments => do
    let function ← evaluate f function
    e.callFrom f function (← evaluateCall f {} arguments)
  | .unary op operand => do e.unaryOperator op (← evaluate f operand)
  | .binary op left right => do
    let left ← evaluate f left
    e.binaryOperator op left (← evaluate f right)
  | .junction op operands => evaluateUntil f (op == "or") .none operands
  | .comparison first rest => do evaluateChain f (← evaluate f first) rest
  | .conditional test yes no => do
    if ← e.isTrue (← evaluate f test) then evaluate f yes else evaluate f no
  | .function parameters body => do
    functionOfExpression f parameters (← evaluateDefaults f parameters) body
  | .tuple items => do Run.newTuple (← evaluateItems f items)
  | .list items => do Run.newList (← evaluateItems f items)
  | .set items => do
    let found ← setItems (← evaluateItems f items)
    let areConstant := 2 < items.length && items.all Source.Expr.isConstant
    return .set (← Run.freshPlace) (if areConstant then Value.inCopyOrder found else found)
  | .dict entries => do
    let entries ← keyedEntries (← evaluateEntries f entries)
    return .dict (← Run.freshPlace) entries
  | .starred _ => throw .malformed
  | .comprehension .generator element (.mk isAsync target iterable conditions :: rest) => do
    let source ← e.iterator (← evaluate f iterable)
    generatorOver f element (.mk isAsync target iterable conditions :: rest) source
  | .comprehension kind element (.mk isAsync target iterable conditions :: rest) => do
    let source ← evaluate f iterable
    let yields ← Run.newYields
    let names := comprehensionNames f (.mk isAsync target iterable conditions :: rest)
    let inner := f.comprehension (← Run.allocate (.scope [])) names yields
    e.forEach source fun item => do
      assign inner target item
      if ← holdAll inner conditions then
        runClauses inner (do inner.yield (← evaluate inner element)) rest
    let items ← Run.yielded yields
    if kind = .set then
      let items ← setItems items
      return .set (← Run.freshPlace) items
    else Run.newList items
  | .comprehension _ _ [] => throw .malformed
  | .dictComprehension key value (.mk isAsync target iterable conditions :: rest) => do
    let source ← evaluate f iterable
    let yields ← Run.newYields
    let names := comprehensionNames f (.mk isAsync target iterable conditions :: rest)
    let inner := f.comprehension (← Run.allocate (.scope [])) names yields
    e.forEach source fun item => do
      assign inner target item
      if ← holdAll inner conditions then
        runClauses inner (do
          let key ← evaluate inner key
          if !key.isHashable then throw .mismatch
          inner.yield (.tuple 0 [key, ← evaluate inner value])) rest
    let entries := (← Run.yielded yields).filterMap fun
      | .tuple _ [key, value] => some (key, value)
      | _ => none
    return .dict (← Run.freshPlace) (Value.distinctEntries entries)
  | .dictComprehension _ _ [] => throw .malformed
  | .assigning name value => do
    let value ← evaluate f value
    f.bind name value
    return value
  | .awaited operand => do e.await (← evaluate f operand)
  | .yielded operand => do
    f.yield (← evaluateOptional f operand)
    return .none
  | .yieldedFrom operand => do
    e.forEach (← evaluate f operand) f.yield
    return .none

def evaluateOptional (f : Frame) : Option Source.Expr → Run Value
  | some expression => evaluate f expression
  | none => pure .none

/-- The defaults of parameters. -/
def evaluateDefaults (f : Frame) : List Source.Parameter → Run (List (Option Value))
  | [] => pure []
  | .mk _ _ _ (some default) :: rest => do
    let first ← evaluate f default
    return some first :: (← evaluateDefaults f rest)
  | .mk _ _ _ none :: rest => do return none :: (← evaluateDefaults f rest)

/-- The text of a string with embedded expressions. -/
def formattedText (f : Frame) : List Source.FormattedPart → Run String
  | [] => pure ""
  | .text shown :: rest => do return shown ++ (← formattedText f rest)
  | .field value conversion none :: rest => do
    let shown ← e.format (← e.converted conversion (← evaluate f value)) ""
    return shown ++ (← formattedText f rest)
  | .field value conversion (some layout) :: rest => do
    let value ← e.converted conversion (← evaluate f value)
    let shown ← e.format value (← formattedText f layout)
    return shown ++ (← formattedText f rest)

/-- The values of the items of a display, starred ones spread. -/
def evaluateItems (f : Frame) : List Source.Expr → Run (List Value)
  | [] => pure []
  | .starred expression :: rest => do
    let spread ← e.items (← evaluate f expression)
    return spread ++ (← evaluateItems f rest)
  | expression :: rest => do
    let first ← evaluate f expression
    return first :: (← evaluateItems f rest)

/-- The entries of a dictionary display, mappings spread. -/
def evaluateEntries (f : Frame) : List (Option Source.Expr × Source.Expr) → Run (List (Value × Value))
  | [] => pure []
  | (some key, value) :: rest => do
    let key ← evaluate f key
    let value ← evaluate f value
    return (key, value) :: (← evaluateEntries f rest)
  | (none, value) :: rest => do
    let entries ← e.entriesOfMapping (← evaluate f value)
    return entries ++ (← evaluateEntries f rest)

/-- The arguments of a call. -/
def evaluateCall (f : Frame) (call : Call) : List Source.Argument → Run Call
  | [] => pure call
  | .positional expression :: rest => do
    let value ← evaluate f expression
    evaluateCall f { call with positional := call.positional ++ [value] } rest
  | .spread expression :: rest => do
    let values ← e.items (← evaluate f expression)
    evaluateCall f { call with positional := call.positional ++ values } rest
  | .keyword name expression :: rest => do
    let value ← evaluate f expression
    evaluateCall f { call with keywords := call.keywords ++ [(name, value)] } rest
  | .spreadKeywords expression :: rest => do
    let entries ← e.keywordsOf (← evaluate f expression)
    evaluateCall f { call with keywords := call.keywords ++ entries } rest

/-- The first operand that counts as `stop`, or the last one. -/
def evaluateUntil (f : Frame) (stop : Bool) (last : Value) : List Source.Expr → Run Value
  | [] => pure last
  | [expression] => evaluate f expression
  | expression :: rest => do
    let value ← evaluate f expression
    if (← e.isTrue value) == stop then return value else evaluateUntil f stop value rest

/-- Comparisons in a row, up to the first that does not hold. -/
def evaluateChain (f : Frame) (left : Value) : List (String × Source.Expr) → Run Value
  | [] => pure (.bool true)
  | [(op, expression)] => do e.comparison op left (← evaluate f expression)
  | (op, expression) :: rest => do
    let right ← evaluate f expression
    let found ← e.comparison op left right
    if ← e.isTrue found then evaluateChain f right rest else return found

/-- All conditions hold. -/
def holdAll (f : Frame) : List Source.Expr → Run Bool
  | [] => pure true
  | expression :: rest => do
    if ← e.isTrue (← evaluate f expression) then holdAll f rest else return false

/-- Runs the loops of a comprehension. -/
def runClauses (f : Frame) (visit : Run Unit) : List Source.Clause → Run Unit
  | [] => visit
  | .mk _ target iterable conditions :: rest => do
    e.forEach (← evaluate f iterable) fun item => do
      assign f target item
      if ← holdAll f conditions then runClauses f visit rest

/-- Gives a value to what is assigned to. -/
def assign (f : Frame) : Source.Expr → Value → Run Unit
  | .name name, value => f.bind name value
  | .attribute object name, value => do
    e.setAttribute (← evaluate f object) (f.inside name) value
  | .subscript object index, value => do
    let object ← evaluate f object
    e.setItem object (← evaluate f index) value
  | .tuple targets, value => do assignAll f targets (← e.items value)
  | .list targets, value => do assignAll f targets (← e.items value)
  | _, _ => throw .malformed

/-- Gives values to several targets; a starred one gets the list of those that are left over. -/
def assignAll (f : Frame) : List Source.Expr → List Value → Run Unit
  | [], [] => pure ()
  | .starred target :: rest, values => do
    let count := values.length - rest.length
    if values.length < rest.length then throw (.badValue "not enough values to unpack")
    assign f target (← Run.newList (values.take count))
    assignAll f rest (values.drop count)
  | target :: rest, value :: values => do
    if values.length < rest.length && !rest.any Source.Expr.isStarred then
      throw (.badValue "not enough values to unpack")
    assign f target value
    assignAll f rest values
  | _, _ => throw (.badValue "wrong number of values to unpack")

end

end EachSubject.Engine
