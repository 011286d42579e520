import EachSubject.Source.Parser.Pattern

/-!
# Statements and modules

`parse?` reads the text of a module. Statements nest through blocks; `blockAt depth` reads blocks
that nest at most `depth` deep.
-/

namespace EachSubject.Source

open EachSubject.Source.Parser Grammar

variable (g : Grammar)

/-! ## Simple statements -/

/-- What is assigned: expressions, or what a generator is sent. -/
def assignedValue : Parser Expr := do
  if ← sees (.word "yield") then yielding g else bareTuple g

/-- The operators that can change their target in place, where a sign of equality follows them. -/
def augmentOps : List String :=
  ["+", "-", "*", "/", "//", "%", "@", "&", "|", "^", ">>", "<<", "**"]

/-- The operator, if the target is to be changed by it. -/
def augmented (op : String) : Parser (Option String) := do
  return if ← accepts (.op (op ++ "=")) then some op else none

/-- The rest of an assignment with the targets so far. -/
def assignment (first : Expr) : Parser Stmt := do
  let values ← repeated do
    if ← accepts (.op "=") then return some (← assignedValue g) else return none
  match values.reverse with
  | [] => return .expression first
  | value :: targets =>
    let targets := first :: targets.reverse
    if targets.all isStarTarget then return .assign targets value else failure

/-- A statement that starts with an expression. -/
def expressionStatement : Parser Stmt := do
  let first ← assignedValue g
  if ← accepts (.op ":") then
    if isSingleTarget first then
      let hint ← g.expression
      if ← accepts (.op "=") then return .annotate first hint (some (← assignedValue g))
      else return .annotate first hint none
    else failure
  else
    match ← augmentOps.findSomeM? augmented with
    | some op => if isSingleTarget first then return .augment first op (← assignedValue g) else failure
    | none => assignment g first

/-- A name with points in it. -/
def dottedName : Parser (List String) := do
  let first ← identifier
  let rest ← repeated do
    if ← accepts (.op ".") then return some (← identifier) else return none
  return first :: rest

/-- The name that an import is given, if it is given one. -/
def alias? : Parser (Option String) := do
  if ← accepts (.word "as") then return some (← identifier) else return none

def importedModule : Parser (List String × Option String) := do
  let path ← dottedName
  return (path, ← alias?)

def importedName : Parser (String × Option String) := do
  let name ← identifier
  return (name, ← alias?)

/-- The names of an import in parentheses, possibly with a comma at the end. -/
def importedNames : Parser (List (String × Option String)) := do
  let first ← importedName
  let rest ← repeated do
    if ← accepts (.op ",") then
      if ← sees (.op ")") then return none else return some (← importedName)
    else return none
  return first :: rest

/-- The points before a module. -/
def importLevel : Parser Nat := do
  let points ← repeated (anyOf [".", "..."])
  return (String.join points).length

def importStatement : Parser Stmt := do
  if ← accepts (.word "import") then return .importModules (← separated importedModule)
  else
    expect (.word "from")
    let level ← importLevel
    let module ← if 0 < level then
        if ← sees (.word "import") then pure [] else dottedName
      else dottedName
    expect (.word "import")
    if ← accepts (.op "*") then return .importNames level module none
    else if ← accepts (.op "(") then
      let names ← importedNames
      expect (.op ")")
      return .importNames level module (some names)
    else return .importNames level module (some (← separated importedName))

/-- Is there an expression before the end of the statement? -/
def hasValue : Parser Bool := do
  match ← next with
  | some token => return startsItem token
  | none => return false

/-- The targets of a deletion. -/
def deletion : Parser Stmt := do
  let first ← g.primary
  let (rest, _) ← moreItems g.primary
  if (first :: rest).all isDeletable then return .delete (first :: rest) else failure

/-- A statement that fits on a line. -/
def simpleStatement : Parser Stmt := do
  match ← next with
  | some (.word "import") => importStatement
  | some (.word "from") => importStatement
  | some (.word "pass") => skip; return .pass
  | some (.word "break") => skip; return .break
  | some (.word "continue") => skip; return .continue
  | some (.word "return") =>
    skip
    if ← hasValue then return .return (some (← bareTuple g)) else return .return none
  | some (.word "raise") =>
    skip
    if ← hasValue then
      let error ← g.expression
      if ← accepts (.word "from") then return .raise (some error) (some (← g.expression))
      else return .raise (some error) none
    else return .raise none none
  | some (.word "del") => skip; deletion g
  | some (.word "assert") =>
    skip
    let test ← g.expression
    if ← accepts (.op ",") then return .assert test (some (← g.expression))
    else return .assert test none
  | some (.word "global") => skip; return .global (← separated identifier)
  | some (.word "nonlocal") => skip; return .nonlocal (← separated identifier)
  | _ => expressionStatement g

/-- Simple statements up to the end of the line. -/
def simpleStatements : Parser (List Stmt) := do
  let first ← simpleStatement g
  let rest ← repeated do
    if ← accepts (.op ";") then
      if ← sees .newline then return none else return some (← simpleStatement g)
    else return none
  expect .newline
  return first :: rest

/-! ## Compound statements -/

variable (block : Parser (List Stmt))

/-- A block after its colon. -/
def blockAfterColon : Parser (List Stmt) := do
  expect (.op ":")
  block

/-- An `else` with its block, if there is one. -/
def elseBlock : Parser (List Stmt) := do
  if ← accepts (.word "else") then blockAfterColon block else return []

def ifStatement : Parser Stmt := do
  expect (.word "if")
  let test ← named g
  let body ← blockAfterColon block
  let others ← repeated do
    if ← accepts (.word "elif") then
      let test ← named g
      return some (test, ← blockAfterColon block)
    else return none
  let last ← elseBlock block
  return .if test body (others.foldr (fun (test, body) orElse => [.if test body orElse]) last)

def whileStatement : Parser Stmt := do
  expect (.word "while")
  let test ← named g
  let body ← blockAfterColon block
  return .while test body (← elseBlock block)

def forStatement (isAsync : Bool) : Parser Stmt := do
  expect (.word "for")
  let target ← loopTargets g
  expect (.word "in")
  let iterable ← bareTuple g
  let body ← blockAfterColon block
  return .for isAsync target iterable body (← elseBlock block)

/-- An object that a `with` enters, and the target that is given what it enters. -/
def withItem : Parser (Expr × Option Expr) := do
  let object ← g.expression
  if ← accepts (.word "as") then
    let starred ← accepts (.op "*")
    let target ← g.primary
    let target := if starred then .starred target else target
    if isStarTarget target then return (object, some target) else failure
  else return (object, none)

/-- The objects of a `with`, in parentheses or not. -/
def withItems : Parser (List (Expr × Option Expr)) :=
  (do
    expect (.op "(")
    let first ← withItem g
    let (rest, _) ← moreItems (withItem g)
    expect (.op ")")
    if ← sees (.op ":") then return first :: rest else failure) <|>
  separated (withItem g)

def withStatement (isAsync : Bool) : Parser Stmt := do
  expect (.word "with")
  let items ← withItems g
  return .with isAsync items (← blockAfterColon block)

/-- An `except` with its block. -/
def handler : Parser (Option Handler) := do
  if ← accepts (.word "except") then
    let isGroup ← accepts (.op "*")
    if ← sees (.op ":") then
      if isGroup then failure
      else return some (.mk false none none (← blockAfterColon block))
    else
      let kind ← g.expression
      let name ← alias?
      return some (.mk isGroup (some kind) name (← blockAfterColon block))
  else return none

def handlesAll : Handler → Bool
  | .mk _ none _ _ => true
  | _ => false

def isGroupHandler : Handler → Bool
  | .mk isGroup _ _ _ => isGroup

def tryStatement : Parser Stmt := do
  expect (.word "try")
  let body ← blockAfterColon block
  let handlers ← repeated (handler g block)
  let orElse ← if handlers.isEmpty then pure [] else elseBlock block
  let hasFinal ← accepts (.word "finally")
  let finalBody ← if hasFinal then blockAfterColon block else pure []
  if handlers.isEmpty && !hasFinal then failure
  else if handlers.any isGroupHandler && !handlers.all isGroupHandler then failure
  else return .try body handlers orElse finalBody

def functionStatement (decorators : List Expr) (isAsync : Bool) : Parser Stmt := do
  expect (.word "def")
  let name ← identifier
  expect (.op "(")
  let list ← parameters true (.op ")") g.expression (bareItem g)
  expect (.op ")")
  let returns ← if ← accepts (.op "->") then pure (some (← g.expression)) else pure none
  return .function decorators isAsync name list returns (← blockAfterColon block)

def classStatement (decorators : List Expr) : Parser Stmt := do
  expect (.word "class")
  let name ← identifier
  let bases ← if ← accepts (.op "(") then classArguments else pure []
  return .class decorators name bases (← blockAfterColon block)
where
  /-- The bases of a class; a comprehension needs parentheses of its own here. -/
  classArguments : Parser (List Argument) := do
    if ← accepts (.op ")") then return []
    else
      let first ← argument g
      let (rest, _) ← moreItems (argument g)
      expect (.op ")")
      if argumentsInOrder false false (first :: rest) then return first :: rest else failure

/-- A case with its block. -/
def caseBlock : Parser Case := do
  expect (.word "case")
  let pattern ← casePattern (patterns g)
  let guard ← if ← accepts (.word "if") then pure (some (← named g)) else pure none
  return .mk pattern guard (← blockAfterColon block)

/-- What is matched: an expression, or several separated by commas. -/
def matchSubject : Parser Expr := do
  let first ← displayItem g
  let (rest, isTuple) ← moreItems (displayItem g)
  match first, isTuple with
  | .starred _, false => failure
  | first, false => return first
  | first, true => return .tuple (first :: rest)

/-- A `match`; its word and that of its cases may also be names. -/
def matchStatement : Parser Stmt := do
  expect (.word "match")
  let subject ← matchSubject g
  expect (.op ":")
  expect .newline
  expect .indent
  let cases ← repeated do
    if ← sees (.word "case") then return some (← caseBlock g block) else return none
  expect .dedent
  if cases.isEmpty then failure else return .match subject cases

/-- What follows decorators. -/
def decorated (decorators : List Expr) : Parser Stmt := do
  match ← nextTwo with
  | .word "class" :: _ => classStatement g block decorators
  | .word "async" :: _ => skip; functionStatement g block decorators true
  | _ => functionStatement g block decorators false

/-- A statement, or all the simple statements of a line. -/
def statement : Parser (List Stmt) := do
  match ← nextTwo with
  | .word "if" :: _ => return [← ifStatement g block]
  | .word "while" :: _ => return [← whileStatement g block]
  | .word "for" :: _ => return [← forStatement g block false]
  | .word "with" :: _ => return [← withStatement g block false]
  | .word "try" :: _ => return [← tryStatement g block]
  | .word "def" :: _ => return [← functionStatement g block [] false]
  | .word "class" :: _ => return [← classStatement g block []]
  | .word "async" :: .word "for" :: _ => skip; return [← forStatement g block true]
  | .word "async" :: .word "with" :: _ => skip; return [← withStatement g block true]
  | .word "async" :: _ => skip; return [← functionStatement g block [] true]
  | .op "@" :: _ =>
    let decorators ← repeated do
      if ← accepts (.op "@") then
        let e ← named g
        expect .newline
        return some e
      else return none
    return [← decorated g block decorators]
  | .word "match" :: _ => (do return [← matchStatement g block]) <|> simpleStatements g
  | _ => simpleStatements g

/-- Statements up to the end of the block. -/
def statements : Parser (List Stmt) := do
  let groups ← repeated do
    match ← next with
    | none => return none
    | some .dedent => return none
    | some _ => return some (← statement g block)
  return groups.flatten

/-- A block: statements on the same line, or indented ones on the following lines. -/
def blockHere : Parser (List Stmt) := do
  if ← accepts .newline then
    expect .indent
    let body ← statements g block
    expect .dedent
    if body.isEmpty then failure else return body
  else simpleStatements g

/-- Blocks that nest at most `depth` deep. -/
def blockAt (g : Grammar) : Nat → Parser (List Stmt)
  | 0 => fun _ => none
  | depth + 1 => blockHere g (blockAt g depth)

/-- Reads a whole module. Every nesting takes a character, so the length bounds the depth. -/
def parse? (text : String) : Option Module := do
  let chars := text.toList
  let depth := chars.length + 1
  let found ← tokens? chars
  let (module, rest) ← statements (grammar depth) (blockAt (grammar depth) depth) found
  if rest.isEmpty then some module else none

/-- Reads a text that is nothing but an expression, or several separated by commas. -/
def parseExpression? (text : String) : Option Expr := do
  let chars := text.toList
  let g := grammar (chars.length + 1)
  let found ← tokens? chars
  let (first, rest) ← g.expression found
  let ((others, isTuple), rest) ← moreItems g.expression rest
  if rest = [.newline] then some (if isTuple then .tuple (first :: others) else first) else none

/-- The text parses as a module. -/
def parses (text : String) : Bool := (parse? text).isSome

end EachSubject.Source
