import EachSubject.Double.Fixed
import EachSubject.Double.Host
import EachSubject.Execution.Subscript
import EachSubject.Text.Layout
import EachSubject.Text.Template

/-!
# Laid out values

How values are written by a layout: texts in their space, whole numbers in any of the usual bases,
doubles in one of three notations, and anything else by its plain text if nothing is asked for. A
template lays out the values that its fields name; so does a text with percent signs.
-/

namespace EachSubject.Engine

open Text (Layout)

variable (e : Engine)

/-- A layout that cannot be used. -/
def badLayout {α : Type} : Run α := throw (.badValue "Invalid format specifier")

/-! ## Numbers -/

/-- The digits of a number in a base. -/
def digitsIn (base n : Nat) (isUpper : Bool) : List Char :=
  (Nat.toDigits base n).map fun c => if isUpper then c.toUpper else c

/-- The base of a notation of whole numbers, what stands in front of its digits, and how many digits
    make a group. -/
def notationBase? : Char → Option (Nat × List Char × Nat)
  | 'b' => some (2, ['0', 'b'], 4)
  | 'o' => some (8, ['0', 'o'], 4)
  | 'x' => some (16, ['0', 'x'], 4)
  | 'X' => some (16, ['0', 'X'], 4)
  | 'd' => some (10, [], 3)
  | 'n' => some (10, [], 3)
  | _ => none

/-- The numeral of a double without its sign, in a notation. -/
def numeralFor (kind : Char) (isAlternate : Bool) (precision : Option Nat) (num den : Nat) :
    Double.Numeral :=
  let places := precision.getD 6
  match kind with
  | 'f' => Double.fixedNumeral num den places
  | 'F' => Double.fixedNumeral num den places
  | 'e' => Double.scientificNumeral 'e' num den places
  | 'E' => Double.scientificNumeral 'E' num den places
  | 'G' => Double.generalNumeral 'E' num den places (max places 1) isAlternate
  | _ => Double.generalNumeral 'e' num den places (max places 1) isAlternate

/-- The shortest numeral of a double without its sign. -/
def shortestNumeral (x : Double) : Double.Numeral :=
  let text := (if x.isNegative then x.negate else x).shortest.toList
  let mantissa := text.takeWhile (· != 'e')
  { whole := mantissa.takeWhile (· != '.')
    fraction := (mantissa.dropWhile (· != '.')).drop 1
    exponent := text.drop mantissa.length }

/-- A numeral with at least one digit behind the point, unless it has an exponent. -/
def withFraction (n : Double.Numeral) : Double.Numeral :=
  if n.fraction.isEmpty && n.exponent.isEmpty then { n with fraction := ['0'] } else n

/-- The numeral of a double by a layout that names no notation: all digits, or the given number of them
    with at least one behind the point. -/
def plainNumeral (x : Double) (isAlternate : Bool) (precision : Option Nat) (num den : Nat) :
    Double.Numeral :=
  match precision with
  | none => shortestNumeral x
  | some count =>
    let count := max count 1
    withFraction (Double.generalNumeral 'e' num den count (count - 1) isAlternate)

/-- A double laid out. -/
def layDouble (l : Layout) (x : Double) : Run String := do
  let kind := l.notation?
  if !(kind.all "eEfFgGn%".toList.contains) then badLayout
  if kind == some 'n' && l.grouping.isSome then badLayout
  let finish (negative : Bool) (digits rest : List Char) : String :=
    String.ofList (l.placeNumber 3 (l.signOf negative) [] digits rest)
  let isUpper := kind.any fun c => c.isUpper
  match x with
  | .nan => return finish false (if isUpper then "NAN" else "nan").toList []
  | .infinite negative => return finish negative (if isUpper then "INF" else "inf").toList []
  | x =>
    let (signed, den) := x.toRatio?.getD (0, 1)
    let num := signed.natAbs
    let n := match kind with
      | none => plainNumeral x l.isAlternate l.precision num den
      | some '%' => numeralFor 'f' l.isAlternate l.precision (100 * num) den
      | some c => numeralFor c l.isAlternate l.precision num den
    let point := if n.fraction.isEmpty && !l.isAlternate then [] else ['.']
    let rest := point ++ n.fraction ++ n.exponent ++ (if kind == some '%' then ['%'] else [])
    let isNothing := (n.whole ++ n.fraction).all (· == '0')
    let negative := x.isNegative && !(l.joinsZeros && isNothing)
    return finish negative n.whole rest

/-- A whole number laid out. -/
def layInt (l : Layout) (n : Int) : Run String := do
  match l.notation? with
  | some 'c' =>
    if l.sign.isSome || l.isAlternate || l.grouping.isSome || l.precision.isSome then badLayout
    if n < 0 || 0x110000 ≤ n then throw .overflow
    return String.ofList (l.placeNumber 3 [] [] [Char.ofNat n.toNat] [])
  | kind =>
    match notationBase? (kind.getD 'd') with
    | some (base, start, size) =>
      if l.precision.isSome || l.joinsZeros then badLayout
      if l.grouping == some ',' && size = 4 then badLayout
      if kind == some 'n' && l.grouping.isSome then badLayout
      if base = 10 && Value.isTooLong n then throw (.badValue Value.tooLongMessage)
      let digits := digitsIn base n.natAbs (kind == some 'X')
      let start := if l.isAlternate then start else []
      return String.ofList (l.placeNumber size (l.signOf (n < 0)) start digits [])
    | none => do layDouble l (← Run.lift (Value.doubleOfInt n))

/-- A text laid out. -/
def layText (l : Layout) (text : String) : Run String := do
  if l.sign.isSome || l.isAlternate || l.grouping.isSome || l.joinsZeros ||
      l.alignment == some .behindSign || !(l.notation?.all (· == 's')) then badLayout
  let chars := match l.precision with
    | some count => text.toList.take count
    | none => text.toList
  return String.ofList (l.place .left chars)

/-- A complex number laid out: its parts, in their space together. -/
def layComplex (l : Layout) (re im : Double) : Run String := do
  if l.fillsZeros || l.alignment == some .behindSign || l.notation? == some '%' then badLayout
  let bare : Layout := { l with width := 0, alignment := none, fillsZeros := false }
  let part (l : Layout) (x : Double) : Run String :=
    if l.notation?.isNone && l.precision.isNone then
      return String.ofList (l.signOf x.isNegative) ++
        Value.partText (if x.isNegative then x.negate else x)
    else layDouble l x
  let imaginary := (← part { bare with sign := some '+' } im) ++ "j"
  let hidesReal := l.notation?.isNone && re.isZero && !re.isNegative
  let shown ←
    if hidesReal then do pure ((← part bare im) ++ "j")
    else do
      let both := (← part bare re) ++ imaginary
      pure (if l.notation?.isNone then "(" ++ both ++ ")" else both)
  return String.ofList (l.place .right shown.toList)

/-! ## Values -/

/-- A value by a layout. -/
def format (value : Value) (written : String) : Run String := do
  match value with
  | .reference .. =>
    match ← e.callHook? value "__format__" [← Run.newText written] with
    | some (.text _ shown) => return shown
    | some _ => throw .mismatch
    | none => if written.isEmpty then e.plainTextOf value else throw .mismatch
  | value =>
    if written.isEmpty then e.plainTextOf value
    else
      match value with
      | .text .. => pure ()
      | .member .. => pure ()
      | .bool _ => pure ()
      | .int .. => pure ()
      | .float .. => pure ()
      | .complex .. => pure ()
      | _ => throw .mismatch
      match Layout.ofText? written with
      | none => badLayout
      | some l =>
        match value with
        | .text _ text => layText l text
        | .member .. => layText l (← e.plainTextOf value)
        | .bool b => layInt l b.toInt
        | .int _ n => layInt l n
        | .float _ x => layDouble l x
        | .complex _ re im => layComplex l re im
        | _ => throw .mismatch

/-- A value in the form that a letter stands for. -/
def converted (conversion : Option Char) (value : Value) : Run Value := do
  match conversion with
  | none => return value
  | some 's' => Run.newText (← e.plainTextOf value)
  | some 'r' => Run.newText (← e.textOf value)
  | some 'a' => Run.newText (asciiOnly (← e.textOf value))
  | some _ => throw (.badValue "Unknown conversion specifier")

/-! ## Templates -/

/-- The values that the fields of a template may name. -/
structure FieldValues where
  /-- Those that go by numbers, if there may be some. -/
  numbered : Option (List Value)
  named : List (String × Value)

/-- The value of a number. -/
def FieldValues.at (v : FieldValues) (index : Nat) : Run Value :=
  match v.numbered with
  | some values => Run.orFault .outOfRange values[index]?
  | none => throw (.badValue "Format string contains positional fields")

/-- The value that a field of a template names, and the number of the next field without a name. -/
def fieldValue (v : FieldValues) (next : Option Nat) (name : List Char) : Run (Value × Option Nat) := do
  let (first, steps) ←
    Run.orFault (.badValue "Empty attribute in format string") (Text.Template.reference? name)
  let isNumber := first.toList.all Char.isDigit
  let (value, next) ←
    if first.isEmpty then
      match next with
      | some index => do pure (← v.at index, some (index + 1))
      | none => throw (.badValue "cannot switch from manual field specification to automatic")
    else if isNumber then
      if next.any (· != 0) then
        throw (.badValue "cannot switch from automatic field numbering to manual")
      let index := (Layout.number 0 first.toList).1
      pure (← v.at index, none)
    else do pure (← Run.orFault .missingKey (v.named.lookup first), next)
  let value ← steps.foldlM (fun value step =>
    match step with
    | .attribute name => e.getAttribute value name
    | .item key => do
      let key ← if key.toList.all Char.isDigit then Run.newInt (Layout.number 0 key.toList).1
        else Run.newText key
      e.getItem value key) value
  return (value, next)

/-- Fills the fields of a template; layouts may hold fields to a depth of `fuel`. -/
def fill (v : FieldValues) : Nat → Option Nat → String → Run (String × Option Nat)
  | 0, _, _ => throw (.badValue "Max string recursion exceeded")
  | fuel + 1, next, template => do
    let parts ← Run.orFault (.badValue "Single brace encountered in format string")
      (Text.Template.parts? template)
    parts.foldlM (fun (done, next) part =>
      match part with
      | .text value => return (done ++ String.ofList value, next)
      | .field name conversion layout => do
        let (value, next) ← e.fieldValue v next name
        let value ← e.converted conversion value
        let (layout, next) ←
          if layout.contains '{' || layout.contains '}' then fill v fuel next (String.ofList layout)
          else pure (String.ofList layout, next)
        return (done ++ (← e.format value layout), next)) ("", next)

/-- A template with its fields filled. -/
def fillTemplate (template : String) (v : FieldValues) : Run String := do
  return (← e.fill v 2 (some 0) template).1

/-! ## Percent signs -/

/-- What a percent sign asks for. -/
structure Directive where
  key : Option String
  flags : List Char
  width : Option (Option Nat)
  precision : Option (Option Nat)
  kind : Char

/-- Reads a number, or a star that stands for one that is given. -/
def countIn : List Char → Option (Option Nat) × List Char
  | '*' :: rest => (some none, rest)
  | c :: rest =>
    if c.isDigit then
      let (n, rest) := Layout.number 0 (c :: rest)
      (some (some n), rest)
    else (none, c :: rest)
  | [] => (none, [])

/-- The key in parentheses and what follows it. -/
def keyIn (depth : Nat) (before : List Char) : List Char → Option (String × List Char)
  | [] => none
  | '(' :: rest => keyIn (depth + 1) ('(' :: before) rest
  | ')' :: rest =>
    if depth = 0 then some (String.ofList before.reverse, rest)
    else keyIn (depth - 1) (')' :: before) rest
  | c :: rest => keyIn depth (c :: before) rest

/-- Reads what follows a percent sign. -/
def directive? (text : List Char) : Option (Directive × List Char) := do
  let (key, rest) ← match text with
    | '(' :: rest => (keyIn 0 [] rest).map fun (key, rest) => (some key, rest)
    | rest => some (none, rest)
  let flags := rest.takeWhile "#0- +".toList.contains
  let (width, rest) := countIn (rest.drop flags.length)
  let (precision, rest) := match rest with
    | '.' :: rest =>
      match countIn rest with
      | (none, rest) => (some (some 0), rest)
      | found => found
    | rest => (none, rest)
  match rest.dropWhile "hlL".toList.contains with
  | kind :: rest => some ({ key, flags, width, precision, kind }, rest)
  | [] => none

/-- The arguments that percent signs take: one by one, or by their keys. -/
structure Supply where
  left : List Value
  mapping : Option Value

/-- The next argument. -/
def takeNext (s : Supply) : Run (Value × Supply) := do
  match s.left with
  | value :: rest => return (value, { s with left := rest })
  | [] => throw .mismatch

/-- A width or a precision, which may be an argument. -/
def countFor (s : Supply) : Option (Option Nat) → Run (Option Int × Supply)
  | none => pure (none, s)
  | some (some n) => pure (some n, s)
  | some none => do
    let (value, s) ← takeNext s
    match value.plain with
    | .int _ n => return (some n, s)
    | .bool b => return (some b.toInt, s)
    | _ => throw .mismatch

/-- A whole number for a percent sign; a double counts with its whole part if that is allowed. -/
def wholeFor (allowsDouble : Bool) (value : Value) : Run Int := do
  match value.plain with
  | .int _ n => return n
  | .bool b => return b.toInt
  | .float _ x => if allowsDouble then Run.lift (Value.wholePart x) else throw .mismatch
  | _ => throw .mismatch

/-- The character that a directive asks for; in bytes, it is one of the first 256. -/
def characterFor (inBytes : Bool) (value : Value) : Run Char := do
  match inBytes, value.plain with
  | false, .text _ text =>
    match text.toList with
    | [c] => return c
    | _ => throw .mismatch
  | true, .bytes _ [b] => return Char.ofNat b.toNat
  | inBytes, _ =>
    let n ← wholeFor false value
    if n < 0 || (if inBytes then 256 else 0x110000) ≤ n then throw .overflow
    return Char.ofNat n.toNat

/-- The bytes of a value that takes part in bytes, as characters. -/
def bytesFor (value : Value) : Run (List Char) := do
  match value.plain with
  | .bytes _ bytes => return bytes.map fun b => Char.ofNat b.toNat
  | _ =>
    match ← e.callHook? value "__bytes__" [] with
    | some (.bytes _ bytes) => return bytes.map fun b => Char.ofNat b.toNat
    | _ => throw .mismatch

/-- The text that a directive stands for, and the sign and what follows it if it is a number. -/
def directiveText (inBytes : Bool) (d : Directive) (precision : Option Nat) (value : Value) :
    Run (List Char × List Char × List Char × Bool) := do
  let isAlternate := d.flags.contains '#'
  let layout : Layout :=
    { sign := if d.flags.contains '+' then some '+' else if d.flags.contains ' ' then some ' ' else none }
  let cut (text : List Char) : List Char :=
    match precision with
    | some count => text.take count
    | none => text
  let whole (allowsDouble isUpper : Bool) (base : Nat) (start : List Char) :
      Run (List Char × List Char × List Char × Bool) := do
    let n ← wholeFor allowsDouble value
    if base = 10 && Value.isTooLong n then throw (.badValue Value.tooLongMessage)
    let digits := digitsIn base n.natAbs isUpper
    let digits := List.replicate (precision.getD 0 - digits.length) '0' ++ digits
    return (layout.signOf (n < 0), if isAlternate then start else [], digits, true)
  let written (text : String) : List Char × List Char × List Char × Bool :=
    ([], [], cut text.toList, false)
  let bytes : Run (List Char × List Char × List Char × Bool) := do
    return ([], [], cut (← e.bytesFor value), false)
  match d.kind with
  | 's' => if inBytes then bytes else return written (← e.plainTextOf value)
  | 'b' => if inBytes then bytes else throw (.badValue "unsupported format character")
  | 'r' =>
    let shown ← e.textOf value
    return written (if inBytes then asciiOnly shown else shown)
  | 'a' => return written (asciiOnly (← e.textOf value))
  | 'd' => whole true false 10 []
  | 'i' => whole true false 10 []
  | 'u' => whole true false 10 []
  | 'o' => whole false false 8 ['0', 'o']
  | 'x' => whole false false 16 ['0', 'x']
  | 'X' => whole false true 16 ['0', 'X']
  | 'c' => return ([], [], [← characterFor inBytes value], false)
  | kind =>
    if "eEfFgG".toList.contains kind then
      let x ← Run.lift <| match value.plain with
        | .text .. => .error .mismatch
        | .bytes .. => .error .mismatch
        | plain => Value.doubleOf plain
      let shown ← layDouble
        { layout with isAlternate, precision := some (precision.getD 6), notation? := some kind } x
      match shown.toList with
      | '-' :: rest => return (['-'], [], rest, true)
      | '+' :: rest => return (['+'], [], rest, true)
      | ' ' :: rest => return ([' '], [], rest, true)
      | rest => return ([], [], rest, true)
    else throw (.badValue "unsupported format character")

/-- A directive with its width. -/
def laidOut (d : Directive) (width : Int) (sign start body : List Char) (isNumber : Bool) :
    List Char :=
  let shown := sign ++ start ++ body
  let missing := width.natAbs - shown.length
  if d.flags.contains '-' || width < 0 then shown ++ List.replicate missing ' '
  else if d.flags.contains '0' && isNumber then
    sign ++ start ++ List.replicate missing '0' ++ body
  else List.replicate missing ' ' ++ shown

/-- Replaces the percent signs of a text, or of bytes; every step takes a character. -/
def percentWithin (inBytes : Bool) (done : List Char) (s : Supply) : Nat → List Char → Run (List Char × Supply)
  | _, [] => pure (done.reverse, s)
  | 0, _ => throw .tooDeep
  | fuel + 1, '%' :: '%' :: rest => percentWithin inBytes ('%' :: done) s fuel rest
  | fuel + 1, '%' :: rest => do
    let (d, rest) ← Run.orFault (.badValue "incomplete format") (directive? rest)
    let s ← match d.key, s.mapping with
      | none, _ => pure s
      | some key, some mapping => do
        let key ← if inBytes then Run.newBytes (key.toList.map fun c => c.toNat.toUInt8)
          else Run.newText key
        let found ← e.getItem mapping key
        pure { s with left := [found] }
      | some _, none => throw .mismatch
    let (width, s) ← countFor s d.width
    let (precision, s) ← countFor s d.precision
    let precision := precision.map Int.toNat
    let (value, s) ← takeNext s
    let (sign, start, body, isNumber) ← e.directiveText inBytes d precision value
    let shown := laidOut d (width.getD 0) sign start body isNumber
    percentWithin inBytes (shown.reverse ++ done) s fuel rest
  | fuel + 1, c :: rest => percentWithin inBytes (c :: done) s fuel rest

/-- A text, or bytes, with the percent signs replaced by a value, or by the items of a tuple. All of
    them are used, unless the value may be asked for keys. -/
def percent (inBytes : Bool) (chars : List Char) (argument : Value) : Run (List Char) := do
  let mapping := match argument with
    | .tuple .. => none
    | .text .. => if inBytes then some argument else none
    | .member _ _ (.text ..) true => if inBytes then some argument else none
    | .dict .. => some argument
    | .list .. => some argument
    | .bytes .. => if inBytes then none else some argument
    | .range .. => some argument
    | .reference .. => some argument
    | _ => none
  let left := match argument with
    | .tuple _ items => items
    | argument => [argument]
  let (done, s) ← e.percentWithin inBytes [] { left, mapping } (chars.length + 1) chars
  if !s.left.isEmpty && mapping.isNone then throw .mismatch
  return done

end EachSubject.Engine
