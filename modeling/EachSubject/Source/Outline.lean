import EachSubject.Source.Syntax

/-!
# What a text does with names

The outline of a text is what its statements and expressions do with names and with the flow of
control, in order, and in which block they do it. Functions, classes, comprehensions and declared types
are blocks of their own. Inside a class the private names are already those that they stand for.
-/

namespace EachSubject.Source

/-! ## Private names -/

/-- The name starts with two underscores and does not end with two. -/
def isPrivate (name : String) : Bool :=
  let chars := name.toList
  "__".toList.isPrefixOf chars && !"__".toList.isPrefixOf chars.reverse

/-- The name that stands for a name inside a class. -/
def nameInside (owner name : String) : String :=
  if isPrivate name then
    let bare := String.ofList (owner.toList.dropWhile (· == '_'))
    if bare.isEmpty then name else "_" ++ bare ++ name
  else name

/-- A name that nothing may be called. -/
def constantName : String := "__debug__"

/-! ## Outlines -/

/-- What a block belongs to. -/
inductive BlockKind where
  | classBody
  | function (isAsync : Bool)
  /-- A comprehension; `isLazy` if it makes a generator. -/
  | comprehension (isLazy : Bool)
  /-- A declared type, which is never evaluated. -/
  | hint
deriving DecidableEq, Repr

inductive Outline where
  | reads (name : String)
  | binds (name : String)
  /-- Gives a name to a value in the middle of an expression. -/
  | assigns (name : String)
  /-- Declares the type of a name. -/
  | annotates (name : String)
  | globals (names : List String)
  | nonlocals (names : List String)
  | yields
  | delegates
  | awaits
  | returns (hasValue : Bool)
  | breaks
  | continues
  /-- Runs a loop or enters an object asynchronously. -/
  | worksAsync
  | importsAll
  | keywords (names : List String)
  /-- Something that parses but has no meaning. -/
  | fault
  /-- The body of a loop. -/
  | loop (body : List Outline)
  /-- The body of a clause for groups of errors. -/
  | groupHandler (body : List Outline)
  /-- What a comprehension runs over. -/
  | iterable (body : List Outline)
  /-- The targets of a comprehension. -/
  | targets (body : List Outline)
  | block (kind : BlockKind) (parameters : List String) (body : List Outline)

instance : Inhabited Outline := ⟨.fault⟩

/-- A binding, unless nothing may have the name. -/
def bindingOf (owner name : String) : Outline :=
  if name = constantName then .fault else .binds (nameInside owner name)

/-- Something that has to hold. -/
def needs (condition : Bool) : List Outline := if condition then [] else [.fault]

/-- Is written as a constant: a literal, with a sign or without. -/
def Expr.isConstant : Expr → Bool
  | .literal _ => true
  | .unary _ (.literal _) => true
  | _ => false

/-- Is starred. -/
def Expr.isStarred : Expr → Bool
  | .starred _ => true
  | _ => false

/-- The names of the parameters. -/
def parameterNames (owner : String) (parameters : List Parameter) : List String :=
  parameters.map fun p => nameInside owner p.name

/-- The names of the keywords of a call. -/
def keywordNames (arguments : List Argument) : List String :=
  arguments.filterMap fun
    | .keyword name _ => some name
    | _ => none

mutual

/-- The outline of an expression. -/
def Expr.outline (owner : String) : Expr → List Outline
  | .name name => [.reads (nameInside owner name)]
  | .literal _ => []
  | .formatted parts => partsOutline owner parts
  | .attribute object _ => object.outline owner
  | .subscript object index => object.outline owner ++ index.outline owner
  | .slice start stop step =>
    optionalOutline owner start ++ optionalOutline owner stop ++ optionalOutline owner step
  | .call function arguments =>
    .keywords (keywordNames arguments) :: function.outline owner ++ argumentsOutline owner arguments
  | .unary _ operand => operand.outline owner
  | .binary _ left right => left.outline owner ++ right.outline owner
  | .junction _ operands => allOutline owner operands
  | .comparison first rest => first.outline owner ++ comparedOutline owner rest
  | .conditional test yes no => test.outline owner ++ yes.outline owner ++ no.outline owner
  | .function parameters body =>
    needs (!(parameterNames owner parameters).contains constantName) ++
    defaultsOutline owner parameters ++
    [.block (.function false) (parameterNames owner parameters) (body.outline owner)]
  | .tuple items => itemsOutline owner items
  | .list items => itemsOutline owner items
  | .set items => itemsOutline owner items
  | .dict entries => entriesOutline owner entries
  | .starred operand => .fault :: operand.outline owner
  | .comprehension kind element clauses =>
    comprehensionOutline owner (kind == .generator) (element.outline owner) clauses
  | .dictComprehension key value clauses =>
    comprehensionOutline owner false (key.outline owner ++ value.outline owner) clauses
  | .assigning name value =>
    let name' := nameInside owner name
    needs (name != constantName) ++ value.outline owner ++ [.assigns name']
  | .awaited operand => operand.outline owner ++ [.awaits]
  | .yielded operand => optionalOutline owner operand ++ [.yields]
  | .yieldedFrom operand => operand.outline owner ++ [.delegates]

/-- The outline of something that is assigned to or deleted. -/
def Expr.targetOutline (owner : String) : Expr → List Outline
  | .name name => [bindingOf owner name]
  | .attribute object name => needs (name != constantName) ++ object.outline owner
  | .subscript object index => object.outline owner ++ index.outline owner
  | .tuple items => needs ((items.filter Expr.isStarred).length ≤ 1) ++ targetsOutline owner items
  | .list items => needs ((items.filter Expr.isStarred).length ≤ 1) ++ targetsOutline owner items
  | .starred operand => operand.targetOutline owner
  | _ => [.fault]

def targetsOutline (owner : String) : List Expr → List Outline
  | [] => []
  | e :: rest => e.targetOutline owner ++ targetsOutline owner rest

def optionalOutline (owner : String) : Option Expr → List Outline
  | none => []
  | some e => e.outline owner

def allOutline (owner : String) : List Expr → List Outline
  | [] => []
  | e :: rest => e.outline owner ++ allOutline owner rest

/-- The items of a display, which may be starred. -/
def itemsOutline (owner : String) : List Expr → List Outline
  | [] => []
  | .starred e :: rest => e.outline owner ++ itemsOutline owner rest
  | e :: rest => e.outline owner ++ itemsOutline owner rest

def comparedOutline (owner : String) : List (String × Expr) → List Outline
  | [] => []
  | (_, e) :: rest => e.outline owner ++ comparedOutline owner rest

def entriesOutline (owner : String) : List (Option Expr × Expr) → List Outline
  | [] => []
  | (key, value) :: rest =>
    optionalOutline owner key ++ value.outline owner ++ entriesOutline owner rest

def argumentsOutline (owner : String) : List Argument → List Outline
  | [] => []
  | .positional e :: rest => e.outline owner ++ argumentsOutline owner rest
  | .spread e :: rest => e.outline owner ++ argumentsOutline owner rest
  | .keyword name e :: rest =>
    needs (name != constantName) ++ e.outline owner ++ argumentsOutline owner rest
  | .spreadKeywords e :: rest => e.outline owner ++ argumentsOutline owner rest

def partsOutline (owner : String) : List FormattedPart → List Outline
  | [] => []
  | .text _ :: rest => partsOutline owner rest
  | .field value _ none :: rest => value.outline owner ++ partsOutline owner rest
  | .field value _ (some layout) :: rest =>
    value.outline owner ++ partsOutline owner layout ++ partsOutline owner rest

/-- The defaults of parameters. -/
def defaultsOutline (owner : String) : List Parameter → List Outline
  | [] => []
  | .mk _ _ _ default :: rest => optionalOutline owner default ++ defaultsOutline owner rest

/-- A comprehension: what it runs over first belongs to the block around it. -/
def comprehensionOutline (owner : String) (isLazy : Bool) (element : List Outline) :
    List Clause → List Outline
  | [] => [.block (.comprehension isLazy) [] element]
  | .mk isAsync target iterable conditions :: rest =>
    [.iterable (iterable.outline owner),
     .block (.comprehension isLazy) []
       ((if isAsync then [.worksAsync] else []) ++ [.targets (target.targetOutline owner)] ++
         allOutline owner conditions ++ clausesOutline owner rest ++ element)]

/-- The clauses of a comprehension behind the first. -/
def clausesOutline (owner : String) : List Clause → List Outline
  | [] => []
  | .mk isAsync target iterable conditions :: rest =>
    (if isAsync then [.worksAsync] else []) ++ [.targets (target.targetOutline owner)] ++
      [.iterable (iterable.outline owner)] ++ allOutline owner conditions ++ clausesOutline owner rest

end

/-! ## Statements -/

/-- The outline of declared types. -/
def hintsOutline (owner : String) (parameters : List Parameter) : List Outline :=
  let hints := parameters.filterMap (·.hint)
  [.block .hint [] (itemsOutline owner hints)]

mutual

/-- The names that a pattern gives to what it matches. -/
def Pattern.captures : Pattern → List String
  | .literal _ => []
  | .value _ => []
  | .capture name => name.toList
  | .sequence items => capturesOfAll items
  | .star name => name.toList
  | .mapping entries rest => capturesOfEntries entries ++ rest.toList
  | .ofClass _ positional keywords => capturesOfAll positional ++ capturesOfKeywords keywords
  | .alternatives patterns => capturesOfFirst patterns
  | .named pattern name => pattern.captures ++ [name]

def capturesOfAll : List Pattern → List String
  | [] => []
  | p :: rest => p.captures ++ capturesOfAll rest

/-- Alternatives give the same names. -/
def capturesOfFirst : List Pattern → List String
  | [] => []
  | p :: _ => p.captures

def capturesOfEntries : List (Expr × Pattern) → List String
  | [] => []
  | (_, p) :: rest => p.captures ++ capturesOfEntries rest

def capturesOfKeywords : List (String × Pattern) → List String
  | [] => []
  | (_, p) :: rest => p.captures ++ capturesOfKeywords rest

end

mutual

/-- Matches everything. -/
def Pattern.matchesAll : Pattern → Bool
  | .capture _ => true
  | .named p _ => p.matchesAll
  | .alternatives patterns => lastMatchesAll patterns
  | _ => false

def lastMatchesAll : List Pattern → Bool
  | [] => false
  | [p] => p.matchesAll
  | _ :: p :: rest => lastMatchesAll (p :: rest)

end

def Pattern.isStar : Pattern → Bool
  | .star _ => true
  | _ => false

/-- Has the same elements in any order. -/
def sameNames (a b : List String) : Bool := a.all b.contains && b.all a.contains

/-- A constant that a pattern may hold; a text with embedded expressions is none. -/
def isPatternConstant : Expr → Bool
  | .formatted _ => false
  | _ => true

/-- The constant that the key of a pattern is, numbers without sign or parts only. -/
def constantOf? : Expr → Option Literal
  | .literal value => some value
  | _ => none

mutual

/-- The outline of a pattern, its names aside. -/
def Pattern.outline (owner : String) : Pattern → List Outline
  | .literal value => needs (isPatternConstant value)
  | .value of => of.outline owner
  | .capture _ => []
  | .sequence items =>
    needs ((items.filter Pattern.isStar).length ≤ 1) ++ patternsOutline owner items
  | .star _ => []
  | .mapping entries _ =>
    needs ((entries.filterMap fun (key, _) => constantOf? key).Pairwise (· ≠ ·)) ++
      entryPatternsOutline owner entries
  | .ofClass cls positional keywords =>
    needs ((keywords.map (·.1)).Pairwise (· ≠ ·)) ++ cls.outline owner ++
      patternsOutline owner positional ++ keywordPatternsOutline owner keywords
  | .alternatives patterns =>
    needs (patterns.dropLast.all (!·.matchesAll)) ++
    needs (patterns.all fun p => sameNames p.captures (capturesOfFirst patterns)) ++
      patternsOutline owner patterns
  | .named p _ => p.outline owner

def patternsOutline (owner : String) : List Pattern → List Outline
  | [] => []
  | p :: rest => p.outline owner ++ patternsOutline owner rest

def entryPatternsOutline (owner : String) : List (Expr × Pattern) → List Outline
  | [] => []
  | (key, p) :: rest =>
    needs (isPatternConstant key) ++ key.outline owner ++ p.outline owner ++
      entryPatternsOutline owner rest

def keywordPatternsOutline (owner : String) : List (String × Pattern) → List Outline
  | [] => []
  | (_, p) :: rest => p.outline owner ++ keywordPatternsOutline owner rest

end

/-- A pattern with the names that it gives, each once. -/
def caseOutline (owner : String) (p : Pattern) : List Outline :=
  needs (p.captures.Pairwise (· ≠ ·)) ++ p.outline owner ++ p.captures.map (bindingOf owner)

/-- The imported names that the future of the language gives. -/
def futureFeatures : List String :=
  ["nested_scopes", "generators", "division", "absolute_import", "with_statement", "print_function",
   "unicode_literals", "barry_as_FLUFL", "generator_stop", "annotations"]

/-- The part of a handler's kind that has to be last if there is none. -/
def Handler.isBare : Handler → Bool
  | .mk _ kind _ _ => kind.isNone

def Case.isFinal : Case → Bool
  | .mk pattern guard _ => guard.isNone && pattern.matchesAll

/-- A value that may be a starred one only inside a tuple. -/
def valueOutline (owner : String) (value : Expr) : List Outline := value.outline owner

/-- Bindings of imported modules. -/
def importedOutline (owner : String) (modules : List ImportedName) : List Outline :=
  modules.map fun (path, given) =>
    bindingOf owner (given.getD (path.headD ""))

mutual

/-- The outline of a statement. -/
def Stmt.outline (owner : String) : Stmt → List Outline
  | .expression value => value.outline owner
  | .assign targets value =>
    value.outline owner ++ needs (!targets.any Expr.isStarred) ++ targetsOutline owner targets
  | .augment target _ value => target.targetOutline owner ++ value.outline owner
  | .annotate target hint value =>
    (match target with
      | .name name => [.annotates (nameInside owner name), bindingOf owner name]
      | target => target.targetOutline owner) ++
    [.block .hint [] (hint.outline owner)] ++ optionalOutline owner value
  | .importModules modules => importedOutline owner modules
  | .importNames _ _ none => [.importsAll]
  | .importNames level path (some names) =>
    needs (!(level == 0 && path == ["__future__"]) || names.all fun n => futureFeatures.contains n.1) ++
    names.map fun (name, given) => bindingOf owner (given.getD name)
  | .pass => []
  | .break => [.breaks]
  | .continue => [.continues]
  | .return value => optionalOutline owner value ++ [.returns value.isSome]
  | .raise error cause => optionalOutline owner error ++ optionalOutline owner cause
  | .delete targets => targetsOutline owner targets
  | .assert test message => test.outline owner ++ optionalOutline owner message
  | .global names => [.globals (names.map (nameInside owner))]
  | .nonlocal names => [.nonlocals (names.map (nameInside owner))]
  | .function decorators isAsync name parameters returns body =>
    needs (!(parameterNames owner parameters).contains constantName) ++
    [bindingOf owner name] ++ defaultsOutline owner parameters ++ hintsOutline owner parameters ++
    [.block .hint [] (optionalOutline owner returns)] ++ allOutline owner decorators ++
    [.block (.function isAsync) (parameterNames owner parameters) (bodyOutline owner body)]
  | .class decorators name arguments body =>
    [bindingOf owner name, .keywords (keywordNames arguments)] ++ argumentsOutline owner arguments ++
    allOutline owner decorators ++ [.block .classBody [] (bodyOutline name body)]
  | .if test body orElse =>
    test.outline owner ++ bodyOutline owner body ++ bodyOutline owner orElse
  | .while test body orElse =>
    test.outline owner ++ [.loop (bodyOutline owner body)] ++ bodyOutline owner orElse
  | .for isAsync target iterable body orElse =>
    (if isAsync then [.worksAsync] else []) ++ target.targetOutline owner ++
    needs (!target.isStarred) ++ iterable.outline owner ++
    [.loop (bodyOutline owner body)] ++ bodyOutline owner orElse
  | .with isAsync items body =>
    (if isAsync then [.worksAsync] else []) ++ enteredOutline owner items ++ bodyOutline owner body
  | .try body handlers orElse finalBody =>
    bodyOutline owner body ++ needs (handlers.dropLast.all (!·.isBare)) ++
    handlersOutline owner handlers ++ bodyOutline owner orElse ++ bodyOutline owner finalBody
  | .match subject cases =>
    subject.outline owner ++ needs (cases.dropLast.all (!·.isFinal)) ++ casesOutline owner cases

def bodyOutline (owner : String) : List Stmt → List Outline
  | [] => []
  | s :: rest => s.outline owner ++ bodyOutline owner rest

def enteredOutline (owner : String) : List (Expr × Option Expr) → List Outline
  | [] => []
  | (e, none) :: rest => e.outline owner ++ enteredOutline owner rest
  | (e, some target) :: rest =>
    e.outline owner ++ needs (!target.isStarred) ++ target.targetOutline owner ++
      enteredOutline owner rest

def handlersOutline (owner : String) : List Handler → List Outline
  | [] => []
  | .mk isGroup kind name body :: rest =>
    let inside := bodyOutline owner body
    optionalOutline owner kind ++ (name.map (bindingOf owner)).toList ++
    (if isGroup then [.groupHandler inside] else inside) ++ handlersOutline owner rest

def casesOutline (owner : String) : List Case → List Outline
  | [] => []
  | .mk pattern guard body :: rest =>
    caseOutline owner pattern ++ optionalOutline owner guard ++ bodyOutline owner body ++
      casesOutline owner rest

end

/-- The outline of a module. -/
def Module.outline (module : Module) : List Outline := bodyOutline "" module

end EachSubject.Source
