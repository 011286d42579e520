import EachSubject.Proofs.Source.Locality
import Mathlib.Algebra.Ring.Nat
import Mathlib.Data.List.Basic

/-!
# Numerals

A decimal numeral is a single token: digits, possibly a point with digits behind it, possibly an exponent, and possibly
the letter of an imaginary number. Where it ends does not depend on what separates it from what follows.
-/

namespace EachSubject.Source

/-! ## Digits -/

private theorem digitsAfter_stops {p : Char → Bool} {c : Char} (noDigit : p c = false) (ordinary : c ≠ '_')
    (rest : List Char) : ∀ {digits : List Char}, (∀ d ∈ digits, p d = true ∧ d ≠ '_') →
      digitsAfter? p (digits ++ c :: rest) = some (digits, c :: rest)
  | [], _ => by
    rw [List.nil_append, digitsAfter?]
    · rw [noDigit]
      rfl
    · exact fun same _ => ordinary same
    · exact fun _ _ same _ => ordinary same
  | d :: digits, all => by
    obtain ⟨isDigit, noUnderscore⟩ := all d List.mem_cons_self
    have behind := digitsAfter_stops noDigit ordinary rest fun e inside => all e (List.mem_cons_of_mem d inside)
    rw [List.cons_append, digitsAfter?]
    · rw [isDigit, behind]
      rfl
    · exact fun same _ => noUnderscore same
    · exact fun _ _ same _ => noUnderscore same

private theorem hexValue_digit {c : Char} (isDigit : c.isDigit = true) :
    Text.hexValue? c = some (c.toNat - '0'.toNat) := by
  have between : (decide ('0' ≤ c) && decide (c ≤ '9')) = true := isDigit
  rw [Text.hexValue?, if_pos between]
  rfl

private theorem digitsValue_eq {digits : List Char} (all : ∀ d ∈ digits, d.isDigit = true) :
    digitsValue 10 digits = Nat.ofDigitChars 10 digits 0 := by
  rw [digitsValue, Nat.ofDigitChars]
  refine List.foldl_ext _ _ _ fun value d inside => ?_
  rw [hexValue_digit (all d inside)]
  rfl

/-- Digits of a number have no superfluous zero in front. -/
theorem digits_head (n : Nat) : (Nat.toDigits 10 n).head? ≠ some '0' ∨ Nat.toDigits 10 n = ['0'] := by
  induction n using Nat.strongRecOn with
  | _ n further =>
    by_cases small : n < 10
    · rw [Nat.toDigits_of_lt_base small]
      have := (by decide : ∀ n < 10, [Nat.digitChar n].head? ≠ some '0' ∨ [Nat.digitChar n] = ['0'])
      exact this n small
    · rw [Nat.toDigits_of_base_le (by decide) (by omega)]
      refine .inl ?_
      rcases further (n / 10) (by omega) with ordinary | zero
      · rwa [List.head?_append_of_ne_nil _ Nat.toDigits_ne_nil]
      · have value := Nat.ofDigitChars_toDigits (b := 10) (n := n / 10) (by decide) (by decide)
        rw [zero] at value
        have : n / 10 = 0 := value.symm
        omega

/-- Decimal digits, at least one. -/
structure AreDigits (digits : List Char) : Prop where
  given : digits ≠ []
  each : ∀ d ∈ digits, d.isDigit = true

theorem areDigits_toDigits (n : Nat) : AreDigits (Nat.toDigits 10 n) where
  given := Nat.toDigits_ne_nil
  each _ inside := Nat.isDigit_of_mem_toDigits (by decide) (by decide) inside

/-- Digits end in front of anything but a digit or an underscore. -/
private theorem AreDigits.taken {digits : List Char} (areDigits : AreDigits digits) {c : Char}
    (noDigit : c.isDigit = false) (ordinary : c ≠ '_') (rest : List Char) :
    digitsAfter? Char.isDigit (digits ++ c :: rest) = some (digits, c :: rest) := by
  apply digitsAfter_stops noDigit ordinary rest
  intro d inside
  have isDigit := areDigits.each d inside
  exact ⟨isDigit, by rintro rfl; exact absurd isDigit (by decide)⟩

/-! ## Numerals by their parts -/

/-- A decimal numeral. -/
structure Numeral where
  whole : List Char
  /-- The digits behind the point. -/
  fraction : Option (List Char) := none
  /-- The sign and the digits of the exponent. -/
  exponent : Option (Char × List Char) := none
  isImaginary : Bool := false

namespace Numeral

def pointText : Option (List Char) → List Char
  | none => []
  | some fraction => '.' :: fraction

def exponentText : Option (Char × List Char) → List Char
  | none => []
  | some (sign, digits) => 'e' :: sign :: digits

def unitText (isImaginary : Bool) : List Char := if isImaginary then ['j'] else []

def text (n : Numeral) : List Char :=
  n.whole ++ (pointText n.fraction ++ (exponentText n.exponent ++ unitText n.isImaginary))

/-- The number of the exponent. -/
def power : Option (Char × List Char) → Option Int
  | none => none
  | some (sign, digits) => some (if sign = '-' then -(digitsValue 10 digits : Int) else digitsValue 10 digits)

/-- What stands behind the digits of a numeral makes a number of them. -/
private def numberOf (whole fraction : List Char) (isReal isImaginary : Bool) (exponent : Option Int) : Number :=
  if isImaginary then .imaginary (Double.ofDecimal false (digitsValue 10 (whole ++ fraction))
    (exponent.getD 0 - fraction.length))
  else afterPoint?.number whole fraction isReal exponent

/-- The number that the numeral denotes. -/
def value (n : Numeral) : Number :=
  numberOf n.whole (n.fraction.getD []) n.fraction.isSome n.isImaginary (power n.exponent)

/-- There are digits wherever some are needed. Those in front are few, and have no superfluous zero. -/
structure IsValid (n : Numeral) : Prop where
  whole : AreDigits n.whole
  few : n.whole.length ≤ wholeLimit
  first : n.whole.head? ≠ some '0' ∨ n.whole = ['0']
  fraction : ∀ digits ∈ n.fraction, AreDigits digits
  exponent : ∀ sign digits, n.exponent = some (sign, digits) → (sign = '+' ∨ sign = '-') ∧ AreDigits digits

/-- A numeral is made of digits, a point, the letters of the exponent and of the unit, and a sign. -/
theorem mem_text {n : Numeral} (valid : n.IsValid) {c : Char} (inside : c ∈ n.text) :
    c.isDigit = true ∨ c ∈ ['.', 'e', '+', '-', 'j'] := by
  rw [text, List.mem_append, List.mem_append, List.mem_append] at inside
  rcases inside with inside | inside | inside | inside
  · exact .inl (valid.whole.each c inside)
  · cases isFraction : n.fraction with
    | none =>
      rw [isFraction] at inside
      cases inside
    | some fraction =>
      rw [isFraction, pointText] at inside
      rcases List.mem_cons.1 inside with rfl | inside
      · exact .inr (by decide)
      · exact .inl ((valid.fraction fraction isFraction).each c inside)
  · cases isExponent : n.exponent with
    | none =>
      rw [isExponent] at inside
      cases inside
    | some exponent =>
      obtain ⟨sign, digits⟩ := exponent
      obtain ⟨isSign, areDigits⟩ := valid.exponent sign digits isExponent
      rw [isExponent, exponentText] at inside
      simp only [List.mem_cons] at inside
      rcases inside with rfl | rfl | inside
      · exact .inr (by decide)
      · rcases isSign with rfl | rfl <;> exact .inr (by decide)
      · exact .inl (areDigits.each c inside)
  · rw [unitText] at inside
    split at inside
    · exact .inr (by rw [List.mem_singleton.1 inside]; decide)
    · cases inside

variable {n : Numeral} {c : Char} (noWord : isWordChar c = false)
include noWord

/-- What continues no word is none of the characters that may. -/
private theorem differs : ∀ d, isWordChar d = true → c ≠ d := by
  rintro d continues rfl
  rw [noWord] at continues
  cases continues

private theorem noDigit : c.isDigit = false := by
  simp only [isWordChar, Char.isAlphanum, Bool.or_eq_false_iff] at noWord
  exact noWord.1.1.2

private theorem unit_read (whole fraction : List Char) (isReal isImaginary : Bool) (exponent : Option Int)
    (rest : List Char) : behindDigits whole fraction isReal exponent (unitText isImaginary ++ c :: rest) =
      some (numberOf whole fraction isReal isImaginary exponent, c :: rest) := by
  cases isImaginary with
  | true => simp [behindDigits, unitText, unitOf, numberOf, endsNumber, noWord]
  | false =>
    simp [behindDigits, unitText, unitOf, numberOf, endsNumber, noWord, differs noWord 'j' (by decide),
      differs noWord 'J' (by decide)]

/-- What stands behind the exponent. -/
private theorem unit_starts (isImaginary : Bool) (rest : List Char) :
    ∃ d more, unitText isImaginary ++ c :: rest = d :: more ∧ d.isDigit = false ∧ d ≠ '_' ∧
      ¬(decide (d = 'e') || decide (d = 'E')) = true := by
  cases isImaginary with
  | true => exact ⟨'j', c :: rest, rfl, by decide, by decide, by decide⟩
  | false =>
    refine ⟨c, rest, rfl, noDigit noWord, differs noWord '_' (by decide), ?_⟩
    simp [differs noWord 'e' (by decide), differs noWord 'E' (by decide)]

private theorem exponent_read (whole fraction : List Char) (isReal isImaginary : Bool) {exponent : Option (Char × List Char)}
    (valid : ∀ sign digits, exponent = some (sign, digits) → (sign = '+' ∨ sign = '-') ∧ AreDigits digits)
    (rest : List Char) :
    afterPoint? whole fraction isReal (exponentText exponent ++ (unitText isImaginary ++ c :: rest)) =
      some (numberOf whole fraction isReal isImaginary (power exponent), c :: rest) := by
  obtain ⟨d, more, same, noDigit, noUnderscore, noLetter⟩ := unit_starts noWord isImaginary rest
  have unit := fun exponent => unit_read noWord whole fraction isReal isImaginary exponent rest
  rw [same] at unit ⊢
  cases exponent with
  | none => rw [exponentText, List.nil_append, afterPoint_plain _ _ _ noLetter, unit, power]
  | some exponent =>
    obtain ⟨sign, digits⟩ := exponent
    obtain ⟨isSign, areDigits⟩ := valid sign digits rfl
    obtain ⟨first, others, rfl⟩ := List.exists_cons_of_ne_nil areDigits.given
    have signs : (decide (sign = '+') || decide (sign = '-')) = true := by simpa using isSign
    have leads : (((first :: others ++ d :: more).head?.map Char.isDigit).getD false) = true :=
      areDigits.each first List.mem_cons_self
    rw [exponentText, List.cons_append, List.cons_append, afterPoint_exponent _ _ _ (by decide) sign (by simp), if_pos signs,
      if_pos leads, areDigits.taken noDigit noUnderscore, Option.bind_some]
    exact unit _

private theorem exponent_starts (exponent : Option (Char × List Char)) (isImaginary : Bool) (noPoint : c ≠ '.')
    (rest : List Char) : ∃ d more, exponentText exponent ++ (unitText isImaginary ++ c :: rest) = d :: more ∧
      d.isDigit = false ∧ d ≠ '_' ∧ d ≠ '.' ∧ d ∉ ['x', 'X', 'o', 'O', 'b', 'B'] := by
  cases exponent with
  | some exponent => exact ⟨'e', _, rfl, by decide, by decide, by decide, by decide⟩
  | none =>
    cases isImaginary with
    | true => exact ⟨'j', c :: rest, rfl, by decide, by decide, by decide, by decide⟩
    | false =>
      refine ⟨c, rest, rfl, noDigit noWord, differs noWord '_' (by decide), noPoint, fun among => ?_⟩
      exact differs noWord c ((by decide : ∀ d ∈ ['x', 'X', 'o', 'O', 'b', 'B'], isWordChar d = true) c among) rfl

private theorem decimalNumber_read (valid : n.IsValid) (noPoint : c ≠ '.') (rest : List Char) :
    decimalNumber? (n.text ++ c :: rest) = some (n.value, c :: rest) := by
  have behind (fraction : List Char) (isReal : Bool) :=
    exponent_read noWord n.whole fraction isReal n.isImaginary valid.exponent rest
  rw [decimalNumber?, text, value]
  simp only [List.append_assoc]
  cases isFraction : n.fraction with
  | some fraction =>
    obtain ⟨d, more, same, noDigit, noUnderscore, -, -⟩ :=
      exponent_starts noWord n.exponent n.isImaginary noPoint rest
    have areDigits := valid.fraction fraction isFraction
    have taken := areDigits.taken noDigit noUnderscore more
    rw [pointText, List.cons_append, valid.whole.taken (by decide) (by decide)]
    have behind := behind fraction true
    rw [same] at behind ⊢
    obtain ⟨first, others, rfl⟩ := List.exists_cons_of_ne_nil areDigits.given
    have isDigit := areDigits.each first List.mem_cons_self
    rw [List.cons_append] at taken ⊢
    simp only [Option.bind_eq_bind, Option.bind_some, fraction?, isDigit, if_true, taken, behind]
    rfl
  | none =>
    obtain ⟨d, more, same, noDigit, noUnderscore, differs, -⟩ :=
      exponent_starts noWord n.exponent n.isImaginary noPoint rest
    have behind := behind [] false
    rw [pointText, List.nil_append]
    rw [same] at behind ⊢
    have accepted : (n.whole.any (· != '0') &&
        (decide (wholeLimit < n.whole.length) || decide (n.whole.head? = some '0'))) = false := by
      have few := valid.few
      rcases valid.first with ordinary | zero
      · simp [ordinary, few]
      · rw [zero]
        decide
    rw [valid.whole.taken noDigit noUnderscore]
    dsimp only [Option.bind_eq_bind, Option.bind_some]
    split
    · rename_i isPoint
      exact absurd (List.cons.inj isPoint).1 differs
    · simp only [behind, Option.bind_some, accepted, Bool.false_eq_true, if_false, Option.getD_none, Option.isSome_none]
      cases numberOf n.whole [] false n.isImaginary (power n.exponent) <;> rfl

/-- The numeral in front of what continues no word and starts no fraction. -/
theorem token (valid : n.IsValid) (noPoint : c ≠ '.') (rest : List Char) :
    token? (n.text ++ c :: rest) = some (.number n.value, c :: rest) := by
  have decimal := decimalNumber_read noWord valid noPoint rest
  obtain ⟨d, others, isWhole⟩ := List.exists_cons_of_ne_nil valid.whole.given
  have isDigit := valid.whole.each d (by rw [isWhole]; exact List.mem_cons_self)
  obtain ⟨more, begins⟩ : ∃ more, n.text ++ c :: rest = d :: more := ⟨_, by rw [text, isWhole]; rfl⟩
  have asNumber : number? (d :: more) = decimalNumber? (d :: more) := by
    by_cases zero : d = '0'
    · subst zero
      have single : n.whole = ['0'] := valid.first.resolve_left (by simp [isWhole])
      obtain ⟨x, behind, rfl, plain⟩ : ∃ x behind, more = x :: behind ∧ x ∉ ['x', 'X', 'o', 'O', 'b', 'B'] := by
        rw [text, single] at begins
        have begins : pointText n.fraction ++ (exponentText n.exponent ++ unitText n.isImaginary) ++ c :: rest = more :=
          (List.cons.inj begins).2
        rw [← begins]
        cases n.fraction with
        | some fraction => exact ⟨'.', _, rfl, by decide⟩
        | none =>
          obtain ⟨x, behind, same, -, -, -, plain⟩ := exponent_starts noWord n.exponent n.isImaginary noPoint rest
          exact ⟨x, behind, by rw [pointText, List.nil_append, List.append_assoc, same], plain⟩
      simp only [List.mem_cons, List.not_mem_nil, or_false, not_or] at plain
      simp [number?, plain]
    · rw [number?]
      · exact fun _ _ same => zero (List.cons.inj same).1
      · rintro _ same
        rw [(List.cons.inj same).1] at isDigit
        cases isDigit
  rw [begins] at decimal ⊢
  simp only [token?, isDigit, Bool.true_or, if_true, asNumber, decimal, Option.map_some]

end Numeral

/-- The numeral of a whole number. -/
def Numeral.decimal (n : Nat) : Numeral where
  whole := Nat.toDigits 10 n

theorem Numeral.decimal_text (n : Nat) : (Numeral.decimal n).text = Nat.toDigits 10 n := by
  simp [text, decimal, pointText, exponentText, unitText]

theorem Numeral.decimal_valid {n : Nat} (short : n < 10 ^ wholeLimit) : (Numeral.decimal n).IsValid where
  whole := areDigits_toDigits n
  few := (Nat.length_toDigits_le_iff (by decide) (by decide)).2 short
  first := digits_head n
  fraction _ impossible := by cases impossible
  exponent _ _ impossible := by cases impossible

theorem Numeral.decimal_value (n : Nat) : (Numeral.decimal n).value = .whole n := by
  have value : digitsValue 10 (Nat.toDigits 10 n) = n := by
    rw [digitsValue_eq (areDigits_toDigits n).each, Nat.ofDigitChars_toDigits (by decide) (by decide)]
  simp [Numeral.value, numberOf, decimal, power, afterPoint?.number, value]

/-- A decimal numeral in front of what continues no word and starts no fraction. -/
theorem token_decimal {n : Nat} (short : n < 10 ^ wholeLimit) {c : Char} (noWord : isWordChar c = false)
    (noPoint : c ≠ '.') (rest : List Char) :
    token? (Nat.toDigits 10 n ++ c :: rest) = some (.number (.whole n), c :: rest) := by
  rw [← Numeral.decimal_text, ← Numeral.decimal_value]
  exact Numeral.token noWord (Numeral.decimal_valid short) noPoint rest

end EachSubject.Source
