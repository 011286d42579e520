import EachSubject.Double.Basic

/-!
# Tokens of source text

A module's text is a sequence of words, numbers, strings and operators, in which the ends of logical
lines and the changes of indentation are tokens too.
-/

namespace EachSubject.Source

/-- The value of a numeral. -/
inductive Number where
  | whole (value : Nat)
  | real (value : Double)
  | imaginary (value : Double)
deriving DecidableEq, Repr

/-- A string as it stands between its quotes, with the meaning of the letters before it. -/
structure StringToken where
  isBytes : Bool
  isRaw : Bool
  isFormatted : Bool
  body : List Char
deriving DecidableEq, Repr

inductive Token where
  /-- An identifier or a reserved word. -/
  | word (text : String)
  | number (value : Number)
  | string (value : StringToken)
  /-- An operator or a delimiter. -/
  | op (text : String)
  /-- The end of a logical line. -/
  | newline
  | indent
  | dedent
deriving DecidableEq, Repr

end EachSubject.Source
