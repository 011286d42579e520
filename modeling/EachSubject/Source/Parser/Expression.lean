import EachSubject.Source.Lexer
import EachSubject.Source.Parser.Parameters
import EachSubject.Source.StringLiteral

/-!
# Expressions

`Grammar` holds the parsers of the kinds of expression that occur inside others. `Grammar.enclosing`
builds them one level further out from those for the inside, so `grammar depth` parses expressions
in which at most `depth` levels are nested.
-/

namespace EachSubject.Source

/-- Parsers for the expressions that can stand inside others. -/
structure Grammar where
  /-- A full expression, without a top-level comma. -/
  expression : Parser Expr
  /-- Without a top-level conditional or function. -/
  disjunction : Parser Expr
  /-- Without a top-level comparison. -/
  bitOr : Parser Expr
  /-- A signed operand, the right side of a power. -/
  factor : Parser Expr
  /-- Without any top-level operator; the targets of a `for` are made of these. -/
  primary : Parser Expr

namespace Parser

/-- Is the word one of these? -/
def anyWord (words : List String) : Parser (Option String)
  | .word text :: rest =>
    if words.contains text then some (some text, rest) else some (none, .word text :: rest)
  | tokens => some (none, tokens)

/-- Operands of one level, joined from the left. -/
def leftAssociative (ops : List String) (operand : Parser Expr) : Parser Expr := do
  let first ← operand
  let rest ← repeated do
    match ← anyOf ops with
    | some op => return some (op, ← operand)
    | none => return none
  return rest.foldl (fun left (op, right) => .binary op left right) first

/-- Operands joined by a reserved word. -/
def joinedBy (word : String) (operand : Parser Expr) : Parser Expr := do
  let first ← operand
  let rest ← repeated do
    if ← accepts (.word word) then return some (← operand) else return none
  if rest.isEmpty then return first else return .junction word (first :: rest)

end Parser

namespace Grammar

open EachSubject.Source.Parser

/-- Fails on everything. -/
def refusing : Grammar :=
  ⟨fun _ => none, fun _ => none, fun _ => none, fun _ => none, fun _ => none⟩

variable (inner : Grammar)

/-! ## Items of lists -/

/-- A name with the operator that gives it a value comes next. -/
def startsNaming : Parser Bool := fun tokens =>
  match tokens with
  | .word _ :: .op ":=" :: _ => some (true, tokens)
  | tokens => some (false, tokens)

/-- An expression that may name its value. -/
def named : Parser Expr := do
  if ← startsNaming then
    let name ← identifier
    expect (.op ":=")
    return .assigning name (← inner.expression)
  else inner.expression

/-- An item of a display: an expression that may name its value, or a spread. -/
def displayItem : Parser Expr := do
  if ← accepts (.op "*") then return .starred (← inner.bitOr) else named inner

/-- An item of a bare tuple: an expression or a spread. -/
def bareItem : Parser Expr := do
  if ← accepts (.op "*") then return .starred (← inner.bitOr) else inner.expression

/-- Expressions separated by commas, a tuple if there is any comma. -/
def bareTuple : Parser Expr := do
  let first ← bareItem inner
  let (rest, isTuple) ← moreItems (bareItem inner)
  if isTuple then return .tuple (first :: rest) else return first

/-- A `yield` with what it gives. -/
def yielding : Parser Expr := do
  expect (.word "yield")
  if ← accepts (.word "from") then return .yieldedFrom (← inner.expression)
  else
    match ← next with
    | some token =>
      if startsItem token then
        return .yielded (some (← bareTuple inner))
      else
        return .yielded none
    | none => return .yielded none

/-! ## Targets -/

/-- Can be assigned to as a whole. -/
def isSingleTarget : Expr → Bool
  | .name _ => true
  | .attribute .. => true
  | .subscript .. => true
  | _ => false

/-- Can be assigned to; sequences take a target for each item, one of which may be starred. -/
def isTarget : Expr → Bool
  | .name _ => true
  | .attribute .. => true
  | .subscript .. => true
  | .tuple items => areTargets items
  | .list items => areTargets items
  | _ => false
where
  areTargets : List Expr → Bool
    | [] => true
    | .starred e :: rest => isTarget e && areTargets rest
    | e :: rest => isTarget e && areTargets rest

/-- Can be deleted; nothing in it is starred. -/
def isDeletable : Expr → Bool
  | .name _ => true
  | .attribute .. => true
  | .subscript .. => true
  | .tuple items => areDeletable items
  | .list items => areDeletable items
  | _ => false
where
  areDeletable : List Expr → Bool
    | [] => true
    | e :: rest => isDeletable e && areDeletable rest

/-- Can stand on the left of an assignment. -/
def isStarTarget : Expr → Bool
  | .starred e => isTarget e
  | e => isTarget e

/-! ## Comprehensions -/

/-- A `for` may start here. -/
def startsClause : Parser Bool := fun tokens =>
  match tokens with
  | .word "for" :: _ => some (true, tokens)
  | .word "async" :: .word "for" :: _ => some (true, tokens)
  | _ => some (false, tokens)

/-- A target of a `for`. -/
def loopTargets : Parser Expr := do
  let part : Parser Expr := do
    if ← accepts (.op "*") then return .starred (← inner.primary) else inner.primary
  let first ← part
  let (rest, isTuple) ← moreItems part
  let target := if isTuple then .tuple (first :: rest) else first
  if isStarTarget target then return target else failure

/-- The `for` and `if` parts of a comprehension. -/
def clauses : Parser (List Clause) := do
  repeated do
    if ← startsClause then
      let isAsync ← accepts (.word "async")
      expect (.word "for")
      let target ← loopTargets inner
      expect (.word "in")
      let iterable ← inner.disjunction
      let conditions ← repeated do
        if ← accepts (.word "if") then return some (← inner.disjunction) else return none
      return some (.mk isAsync target iterable conditions)
    else return none

/-! ## Calls -/

/-- An argument of a call. -/
def argument : Parser Argument := fun tokens =>
  match tokens with
  | .op "*" :: rest => (inner.expression rest).map fun (e, rest) => (.spread e, rest)
  | .op "**" :: rest => (inner.expression rest).map fun (e, rest) => (.spreadKeywords e, rest)
  | .word word :: .op "=" :: rest => do
    let name ← nameOf? word
    let (e, rest) ← inner.expression rest
    return (.keyword name e, rest)
  | tokens => (named inner tokens).map fun (e, rest) => (.positional e, rest)

/-- Positional arguments come before keywords, and spread lists before spread keywords. -/
def argumentsInOrder (keywords spreads : Bool) : List Argument → Bool
  | [] => true
  | .positional _ :: rest => !keywords && !spreads && argumentsInOrder keywords spreads rest
  | .spread _ :: rest => !spreads && argumentsInOrder keywords spreads rest
  | .keyword .. :: rest => argumentsInOrder true spreads rest
  | .spreadKeywords _ :: rest => argumentsInOrder keywords true rest

/-- The arguments of a call after its opening parenthesis, with the closing one. A comprehension may
    stand alone without parentheses of its own. -/
def arguments : Parser (List Argument) := do
  if ← accepts (.op ")") then return []
  else
    let first ← argument inner
    match first with
    | .positional e =>
      if ← startsClause then
        let parts ← clauses inner
        expect (.op ")")
        return [.positional (.comprehension .generator e parts)]
      else finish first
    | first => finish first
where
  finish (first : Argument) : Parser (List Argument) := do
    let (rest, _) ← moreItems (argument inner)
    expect (.op ")")
    if argumentsInOrder false false (first :: rest) then return first :: rest else failure

/-! ## Subscripts -/

/-- An item between the brackets of a subscript. The parts of a slice name no value, unless in
    parentheses. -/
def sliceItem : Parser Expr := do
  if ← accepts (.op "*") then return .starred (← inner.expression)
  else if ← startsNaming then named inner
  else
    let start ← if ← sees (.op ":") then pure none else pure (some (← inner.expression))
    if ← accepts (.op ":") then
      let stop ← part
      let step ← if ← accepts (.op ":") then part else pure none
      return .slice start stop step
    else
      match start with
      | some e => return e
      | none => failure
where
  part : Parser (Option Expr) := do
    match ← next with
    | some token =>
      if startsItem token && token != .op "*" then
        return some (← inner.expression)
      else return none
    | none => return none

/-- The index of a subscript, with the closing bracket. -/
def subscriptIndex : Parser Expr := do
  let first ← sliceItem inner
  let (rest, isTuple) ← moreStarting startsSlice (sliceItem inner)
  expect (.op "]")
  match first with
  | .starred _ => return .tuple (first :: rest)
  | _ => if isTuple then return .tuple (first :: rest) else return first

/-! ## Displays -/

/-- What follows an opening parenthesis: a tuple, a generator, or an expression in parentheses. -/
def parenthesized : Parser Expr := do
  if ← accepts (.op ")") then return .tuple []
  else if ← sees (.word "yield") then
    let e ← yielding inner
    expect (.op ")")
    return e
  else
    let first ← displayItem inner
    if ← startsClause then
      match first with
      | .starred _ => failure
      | _ =>
        let parts ← clauses inner
        expect (.op ")")
        return .comprehension .generator first parts
    else
      let (rest, isTuple) ← moreItems (displayItem inner)
      expect (.op ")")
      if isTuple then return .tuple (first :: rest)
      else match first with
        | .starred _ => failure
        | _ => return first

/-- What follows an opening square bracket: a list. -/
def bracketed : Parser Expr := do
  if ← accepts (.op "]") then return .list []
  else
    let first ← displayItem inner
    if ← startsClause then
      match first with
      | .starred _ => failure
      | _ =>
        let parts ← clauses inner
        expect (.op "]")
        return .comprehension .list first parts
    else
      let (rest, _) ← moreItems (displayItem inner)
      expect (.op "]")
      return .list (first :: rest)

/-- An entry of a dictionary. -/
def dictEntry : Parser (Option Expr × Expr) := do
  if ← accepts (.op "**") then return (none, ← inner.bitOr)
  else
    let key ← inner.expression
    expect (.op ":")
    return (some key, ← inner.expression)

/-- What follows an opening brace: a dictionary or a set. -/
def braced : Parser Expr := do
  if ← accepts (.op "\x7d") then return .dict []
  else if ← sees (.op "**") then
    let first ← dictEntry inner
    entries first
  else
    let isNaming ← startsNaming
    let first ← displayItem inner
    if ← accepts (.op ":") then
      match first with
      | .starred _ => failure
      | _ =>
        if isNaming then failure
        let value ← inner.expression
        if ← startsClause then
          let parts ← clauses inner
          expect (.op "\x7d")
          return .dictComprehension first value parts
        else entries (some first, value)
    else if ← startsClause then
      match first with
      | .starred _ => failure
      | _ =>
        let parts ← clauses inner
        expect (.op "\x7d")
        return .comprehension .set first parts
    else
      let (rest, _) ← moreItems (displayItem inner)
      expect (.op "\x7d")
      return .set (first :: rest)
where
  entries (first : Option Expr × Expr) : Parser Expr := do
    let (rest, _) ← moreItems (dictEntry inner)
    expect (.op "\x7d")
    return .dict (first :: rest)

/-! ## Strings -/

/-- A quoted text inside an embedded expression, after its opening quote: its characters with the
    closing quotes, and what follows. -/
def embeddedQuote? (quote : Char) (isLong : Bool) : List Char → Option (List Char × List Char)
  | [] => none
  | '\\' :: _ => none
  | c :: rest =>
    if c = quote && !isLong then some ([c], rest)
    else if c = quote && rest.take 2 = [quote, quote] then some ([c, quote, quote], rest.drop 2)
    else (embeddedQuote? quote isLong rest).map fun (text, rest) => (c :: text, rest)

/-- The source text of an embedded expression up to the character that ends it: a closing brace, a
    conversion, a format or an equals sign, outside of brackets and quotes. Backslashes and comments
    are refused. `closers` are the brackets still to be closed; `fuel` bounds the length. -/
def embeddedText? (closers : List Char) : Nat → List Char → Option (List Char × List Char)
  | _, [] => none
  | 0, _ => none
  | _, '\\' :: _ => none
  | fuel + 1, c :: rest =>
    let keep (closers : List Char) : Option (List Char × List Char) :=
      (embeddedText? closers fuel rest).map fun (text, rest) => (c :: text, rest)
    let opened (closer : Char) : Option (List Char × List Char) :=
      if bracketLimit ≤ closers.length then none else keep (closer :: closers)
    if c = '\'' || c = '"' then do
      let isLong := rest.take 2 = [c, c]
      let opening := if isLong then [c, c] else []
      let (quoted, rest) ← embeddedQuote? c isLong (rest.drop opening.length)
      let (text, rest) ← embeddedText? closers fuel rest
      return (c :: opening ++ quoted ++ text, rest)
    else if c = '#' then none
    else if c = '(' then opened ')'
    else if c = '[' then opened ']'
    else if c = '\x7b' then opened '\x7d'
    else
      match closers with
      | closer :: outer =>
        if c = closer then keep outer
        else if c = ')' || c = ']' || c = '\x7d' then none
        else keep closers
      | [] =>
        if c = ')' || c = ']' then none
        else if c = '\x7d' || c = ':' then some ([], c :: rest)
        else if ['!', '=', '<', '>'].contains c then
          match rest with
          | '=' :: rest =>
            (embeddedText? [] fuel rest).map fun (text, rest) => (c :: '=' :: text, rest)
          | rest => if c = '!' || c = '=' then some ([], c :: rest) else keep []
        else keep []

/-- An embedded expression must not be blank; it is read as if in parentheses. -/
def embedded? (text : List Char) : Option Expr := do
  if text.all fun c => c == ' ' || c == '\t' || c == '\n' || c == '\x0c' || c == '\r' then none
  else
    let (e, rest) ← bareTuple inner (← tokens? ('(' :: text ++ [')']))
    if rest = [.newline] then some e else none

/-- The conversion after an embedded expression, if there is one. -/
def conversion? : List Char → Option (Option Char × List Char)
  | '!' :: c :: rest => if c = 's' || c = 'r' || c = 'a' then some (some c, rest) else none
  | '!' :: [] => none
  | rest => some (none, rest)

/-- White space that may follow the equals sign of an embedded expression. -/
def isEmbeddedSpace (c : Char) : Bool :=
  c == ' ' || c == '\t' || c == '\n' || c == '\r' || c == '\x0b' || c == '\x0c'

/-- The text between embedded expressions, up to a brace, and what follows it. A doubled brace stands
    for one brace, unless this is a layout. The braces around the name of a character count as text. -/
def formattedText (isRaw isLayout : Bool) : Nat → List Char → List Char × List Char
  | 0, text => ([], text)
  | _, [] => ([], [])
  | fuel + 1, c :: rest =>
    let keep (taken : List Char) (rest : List Char) : List Char × List Char :=
      let (text, rest) := formattedText isRaw isLayout fuel rest
      (taken ++ text, rest)
    if c = '\\' && !isRaw then
      match rest with
      | 'N' :: '\x7b' :: rest =>
        let name := rest.takeWhile (· != '\x7d')
        match rest.drop name.length with
        | close :: rest => keep ([c, 'N', '\x7b'] ++ name ++ [close]) rest
        | [] => keep ([c, 'N', '\x7b'] ++ name) []
      | d :: rest => if d = '\x7b' || d = '\x7d' then keep [c, c] (d :: rest) else keep [c, d] rest
      | [] => ([c], [])
    else if c = '\x7b' || c = '\x7d' then
      if !isLayout && rest.head? = some c then keep [c] (rest.drop 1) else ([], c :: rest)
    else keep [c] rest

mutual

/-- The parts of a string with embedded expressions, or of a layout inside one, which a closing brace
    ends. `nested` is the number of strings and layouts around. -/
def formattedParts? (isRaw : Bool) (nested : Nat) :
    Nat → List Char → Option (List FormattedPart × List Char)
  | 0, _ => none
  | fuel + 1, text => do
    let (written, rest) := formattedText isRaw (0 < nested) (text.length + 1) text
    let chars ← bodyText? isRaw written
    let before : List FormattedPart := if chars.isEmpty then [] else [.text (String.ofList chars)]
    match rest with
    | [] => if nested = 0 then return (before, []) else none
    | c :: rest =>
      if c = '\x7d' then
        if nested = 0 then none else return (before, c :: rest)
      else
        if 2 ≤ nested then none
        let (parts, rest) ← embeddedField? isRaw nested fuel rest
        let (more, rest) ← formattedParts? isRaw nested fuel rest
        return (before ++ parts ++ more, rest)

/-- An embedded expression after its opening brace, with the closing one. With an equals sign behind it
    its own source text is shown before its value. -/
def embeddedField? (isRaw : Bool) (nested : Nat) :
    Nat → List Char → Option (List FormattedPart × List Char)
  | 0, _ => none
  | fuel + 1, text => do
    let (written, rest) ← embeddedText? [] (text.length + 1) text
    let e ← embedded? inner written
    let (shown, rest) : Option (List Char) × List Char := match rest with
      | '=' :: rest =>
        let space := rest.takeWhile isEmbeddedSpace
        (some (written ++ '=' :: space), rest.drop space.length)
      | rest => (none, rest)
    let before : List FormattedPart := (shown.map fun t => .text (String.ofList t)).toList
    let (conversion, rest) ← conversion? rest
    match rest with
    | '\x7d' :: rest =>
      let conversion := if shown.isSome && conversion.isNone then some 'r' else conversion
      return (before ++ [.field e conversion none], rest)
    | ':' :: rest => do
      let (layout, rest) ← formattedParts? isRaw (nested + 1) fuel rest
      match rest with
      | '\x7d' :: rest => return (before ++ [.field e conversion (some layout)], rest)
      | _ => none
    | _ => none

end

/-- The value of adjacent strings: all of them bytes, or none. -/
def strings? (tokens : List StringToken) : Option Expr :=
  if tokens.any (·.isBytes) then
    if tokens.all (·.isBytes) then do
      let parts ← tokens.mapM fun t => bodyBytes? t.isRaw t.body
      some (.literal (.bytes parts.flatten))
    else none
  else if tokens.any (·.isFormatted) then do
    let parts ← tokens.mapM fun t =>
      if t.isFormatted then
        (formattedParts? inner t.isRaw 0 (2 * t.body.length + 2) t.body).map fun (parts, _) => parts
      else (bodyText? t.isRaw t.body).map fun chars => [.text (String.ofList chars)]
    some (.formatted parts.flatten)
  else do
    let parts ← tokens.mapM fun t => bodyText? t.isRaw t.body
    some (.literal (.text (String.ofList parts.flatten)))

/-- The strings at the front. -/
def takeStrings : List Token → List StringToken × List Token
  | .string s :: rest =>
    let (more, rest) := takeStrings rest
    (s :: more, rest)
  | tokens => ([], tokens)

/-! ## Levels of binding, from the tightest -/

/-- A name, a constant, or something in brackets. -/
def atom : Parser Expr := fun tokens =>
  match tokens with
  | .word "None" :: rest => some (.literal .none, rest)
  | .word "True" :: rest => some (.literal (.bool true), rest)
  | .word "False" :: rest => some (.literal (.bool false), rest)
  | .word text :: rest => (nameOf? text).map fun name => (.name name, rest)
  | .number (.whole n) :: rest => some (.literal (.whole n), rest)
  | .number (.real x) :: rest => some (.literal (.real x), rest)
  | .number (.imaginary x) :: rest => some (.literal (.imaginary x), rest)
  | .op "..." :: rest => some (.literal .ellipsis, rest)
  | .op "(" :: rest => parenthesized inner rest
  | .op "[" :: rest => bracketed inner rest
  | .op "\x7b" :: rest => braced inner rest
  | .string s :: rest =>
    let (more, rest) := takeStrings rest
    (strings? inner (s :: more)).map fun e => (e, rest)
  | _ => none

/-- What may follow an atom: an attribute, arguments, or an index. -/
inductive Trailer where
  | member (name : String)
  | call (arguments : List Argument)
  | index (position : Expr)

/-- The expression that a trailer makes of what stands before it. -/
def Trailer.apply (object : Expr) : Trailer → Expr
  | member name => .attribute object name
  | call arguments => .call object arguments
  | index position => .subscript object position

/-- The trailer that is next, if there is one. -/
def trailer : Parser (Option Trailer) := do
  match ← anyOf [".", "(", "["] with
  | some "." => return some (.member (← identifier))
  | some "(" => return some (.call (← arguments inner))
  | some _ => return some (.index (← subscriptIndex inner))
  | none => return none

/-- An atom with its trailers. -/
def primaryHere : Parser Expr := do
  let first ← atom inner
  let trailers ← repeated (trailer inner)
  return trailers.foldl Trailer.apply first

/-- A primary, possibly awaited. -/
def awaitable : Parser Expr := do
  if ← accepts (.word "await") then return .awaited (← primaryHere inner) else primaryHere inner

/-- A power binds tighter than a sign before it and looser than one behind its operator. -/
def power : Parser Expr := do
  let base ← awaitable inner
  if ← accepts (.op "**") then return .binary "**" base (← inner.factor) else return base

def factorHere : Parser Expr := do
  let signs ← repeated (anyOf ["+", "-", "~"])
  let operand ← power inner
  return signs.foldr (fun sign e => .unary sign e) operand

def bitOrHere : Parser Expr :=
  leftAssociative ["|"] <| leftAssociative ["^"] <| leftAssociative ["&"] <|
  leftAssociative ["<<", ">>"] <| leftAssociative ["+", "-"] <|
  leftAssociative ["*", "/", "//", "%", "@"] <| factorHere inner

/-- The comparison that is next, if there is one. -/
def comparisonOp : Parser (Option String) := fun tokens =>
  match tokens with
  | .word "not" :: .word "in" :: rest => some (some "not in", rest)
  | .word "in" :: rest => some (some "in", rest)
  | .word "is" :: .word "not" :: rest => some (some "is not", rest)
  | .word "is" :: rest => some (some "is", rest)
  | tokens => anyOf ["==", "!=", "<=", "<", ">=", ">"] tokens

def comparisonHere : Parser Expr := do
  let first ← bitOrHere inner
  let rest ← repeated do
    match ← comparisonOp with
    | some op => return some (op, ← bitOrHere inner)
    | none => return none
  if rest.isEmpty then return first else return .comparison first rest

def inversion : Parser Expr := do
  let nots ← repeated do
    if ← accepts (.word "not") then return some () else return none
  let operand ← comparisonHere inner
  return nots.foldr (fun _ e => .unary "not" e) operand

def disjunctionHere : Parser Expr := joinedBy "or" (joinedBy "and" (inversion inner))

/-- A function without a name. -/
def functionHere : Parser Expr := do
  expect (.word "lambda")
  let list ← parameters false (.op ":") inner.expression inner.expression
  expect (.op ":")
  return .function list (← inner.expression)

def expressionHere : Parser Expr := do
  if ← sees (.word "lambda") then functionHere inner
  else
    let yes ← disjunctionHere inner
    if ← accepts (.word "if") then
      let test ← inner.disjunction
      expect (.word "else")
      return .conditional test yes (← inner.expression)
    else return yes

/-- The parsers one level further out. -/
def enclosing : Grammar where
  expression := expressionHere inner
  disjunction := disjunctionHere inner
  bitOr := bitOrHere inner
  factor := factorHere inner
  primary := primaryHere inner

end Grammar

/-- Parsers of expressions in which at most `depth` levels are nested. -/
def grammar : Nat → Grammar
  | 0 => .refusing
  | depth + 1 => (grammar depth).enclosing

end EachSubject.Source
