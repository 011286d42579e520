import EachSubject.Proofs.Outcome
import EachSubject.Proofs.Source.PlainText
import EachSubject.Value.Printer

/-!
# The texts of data

Data is shown by a plain text: nothing, truth values and numbers, texts and bytes, and lists, tuples, sets and
dictionaries of data. The brackets of the text nest as deep as the containers do. A finite double is shown by a numeral
with a point or an exponent.
-/

namespace EachSubject

open Source

namespace Double

open Source.Numeral (pointText unitText)

/-! ## The digits of a double -/

private theorem lt_pow_decimalLength (n : Nat) : n < 10 ^ decimalLength n :=
  (Nat.length_toDigits_le_iff (by decide) (List.length_pos_of_ne_nil Nat.toDigits_ne_nil)).1 (Nat.le_refl _)

private theorem pow_decimalLength_le {n : Nat} (positive : 0 < n) : 10 ^ (decimalLength n - 1) ≤ n := by
  by_contra less
  have given : 0 < decimalLength n := List.length_pos_of_ne_nil Nat.toDigits_ne_nil
  by_cases single : decimalLength n = 1
  · rw [single] at less
    exact less positive
  · have shorter : decimalLength n ≤ decimalLength n - 1 :=
      (Nat.length_toDigits_le_iff (by decide) (by omega)).2 (Nat.lt_of_not_le less)
    omega

/-- At the places of its digits a fraction has a whole part. -/
private theorem whole_at_place {num den : Nat} (positive : 0 < num) {place : Int}
    (inside : place < decimalExponent num den) :
    den * 10 ^ place.toNat ≤ num * 10 ^ (-place).toNat := by
  rw [decimalExponent] at inside
  by_cases whole : den ≤ num
  · rw [if_pos whole] at inside
    by_cases behindPoint : place < 0
    · rw [Int.toNat_of_nonpos (Int.le_of_lt behindPoint), Nat.pow_zero, Nat.mul_one]
      exact Nat.le_trans whole (Nat.le_mul_of_pos_right num (Nat.pow_pos (by decide)))
    · have few : place.toNat ≤ decimalLength (num / den) - 1 := by omega
      rw [Int.toNat_of_nonpos (by omega : -place ≤ 0), Nat.pow_zero, Nat.mul_one, Nat.mul_comm]
      by_cases none : den = 0
      · rw [none, Nat.mul_zero]
        exact Nat.zero_le num
      · have quotient : 0 < num / den := Nat.div_pos whole (Nat.pos_of_ne_zero none)
        have less : 10 ^ place.toNat ≤ num / den :=
          Nat.le_trans (Nat.pow_le_pow_right (by decide) few) (pow_decimalLength_le quotient)
        exact Nat.le_trans (Nat.mul_le_mul_right den less) (Nat.div_mul_le_self num den)
  · rw [if_neg whole] at inside
    have few : decimalLength num ≤ decimalLength den := by
      have given : 0 < decimalLength den := List.length_pos_of_ne_nil Nat.toDigits_ne_nil
      exact (Nat.length_toDigits_le_iff (by decide) given).2
        (Nat.lt_trans (Nat.lt_of_not_le whole) (lt_pow_decimalLength den))
    dsimp only at inside
    split at inside
    · rename_i short
      have before := pow_decimalLength_le positive
      have behind := lt_pow_decimalLength den
      have given : 0 < decimalLength num := List.length_pos_of_ne_nil Nat.toDigits_ne_nil
      rw [Int.toNat_of_nonpos (by omega : place ≤ 0), Nat.pow_zero, Nat.mul_one]
      calc den ≤ 10 ^ decimalLength den := Nat.le_of_lt behind
        _ ≤ 10 ^ (decimalLength num - 1 + (-place).toNat) := Nat.pow_le_pow_right (by decide) (by omega)
        _ = 10 ^ (decimalLength num - 1) * 10 ^ (-place).toNat := Nat.pow_add ..
        _ ≤ num * 10 ^ (-place).toNat := Nat.mul_le_mul_right _ before
    · rename_i long
      rw [Int.toNat_of_nonpos (by omega : place ≤ 0), Nat.pow_zero, Nat.mul_one]
      refine Nat.le_trans (Nat.le_of_not_lt long) (Nat.mul_le_mul_left num (Nat.pow_le_pow_right (by decide) ?_))
      omega

private theorem neighbours_pos {num den : Nat} (positive : 0 < num) (divides : 0 < den) {place : Int}
    (inside : place < decimalExponent num den) {digits : Nat} (among : digits ∈ neighbours num den place) :
    0 < digits := by
  have whole := whole_at_place positive inside
  have quotient {n d : Nat} (given : 0 < d) (below : d ≤ n)
      (isNeighbour : digits ∈ if roundedQuotient n d = n / d then [n / d, n / d + 1] else [n / d + 1, n / d]) :
      0 < digits := by
    have least : 0 < n / d := Nat.div_pos below given
    split at isNeighbour <;> simp only [List.mem_cons, List.not_mem_nil, or_false] at isNeighbour <;> omega
  rw [neighbours] at among
  by_cases before : 0 ≤ place
  · rw [if_pos before] at among
    rw [Int.toNat_of_nonpos (by omega : -place ≤ 0), Nat.pow_zero, Nat.mul_one] at whole
    exact quotient (Nat.mul_pos divides (Nat.pow_pos (by decide))) whole among
  · rw [if_neg before] at among
    rw [Int.toNat_of_nonpos (by omega : place ≤ 0), Nat.pow_zero, Nat.mul_one] at whole
    exact quotient divides whole among

/-- A positive number has digits. Only one that were read back from no few digits might have none, in front of the
    point. -/
private theorem shortestFrom_pos {num den : Nat} (positive : 0 < num) (divides : 0 < den) :
    ∀ (count : Nat) {length : Nat}, 0 < length →
      0 < (shortestFrom num den (decimalExponent num den) length count).1 ∨
        (shortestFrom num den (decimalExponent num den) length count).2 = 0
  | 0, _, _ => .inr rfl
  | count + 1, length, given => by
    rw [shortestFrom]
    split
    · rename_i found
      exact .inl (neighbours_pos positive divides (by omega) (List.mem_of_find?_eq_some found))
    · exact shortestFrom_pos positive divides count (Nat.succ_pos length)

/-! ## Layouts -/

/-- What is written of the digits still starts with the first of them. -/
private theorem dropTrailingZeros_digits {digits : List Char} (areDigits : AreDigits digits)
    (first : digits.head? ≠ some '0') :
    AreDigits (dropTrailingZeros digits) ∧ (dropTrailingZeros digits).head? ≠ some '0' := by
  obtain ⟨d, more, rfl⟩ := List.exists_cons_of_ne_nil areDigits.given
  have ordinary : (d == '0') = false := by simpa using first
  have kept : dropTrailingZeros (d :: more) = d :: (more.reverse.dropWhile (· == '0')).reverse := by
    rw [dropTrailingZeros, List.reverse_cons, List.dropWhile_append]
    split
    · rename_i none
      rw [List.isEmpty_iff.1 none]
      simp [ordinary]
    · simp
  rw [kept]
  refine ⟨⟨List.cons_ne_nil _ _, fun c inside => ?_⟩, first⟩
  rcases List.mem_cons.1 inside with rfl | inside
  · exact areDigits.each c List.mem_cons_self
  · have inside := (List.dropWhile_sublist _).subset (List.mem_reverse.1 inside)
    exact areDigits.each c (List.mem_cons_of_mem d (List.mem_reverse.1 inside))

private theorem zeros_digits (n : Nat) : ∀ d ∈ List.replicate n '0', d.isDigit = true := by
  intro d inside
  rw [List.eq_of_mem_replicate inside]
  decide

/-- A numeral with a point or an exponent. -/
structure IsReal (n : Source.Numeral) : Prop where
  valid : n.IsValid
  isReal : n.fraction.isSome = true ∨ n.exponent.isSome = true
  real : n.isImaginary = false

/-- Digits with a point between them. -/
private theorem pointed_isReal (whole fraction : List Char) (before : AreDigits whole)
    (few : whole.length ≤ wholeLimit) (first : whole.head? ≠ some '0' ∨ whole = ['0']) (behind : AreDigits fraction) :
    IsReal { whole, fraction := some fraction } where
  valid := ⟨before, few, first, by rintro _ ⟨⟩; exact behind, by rintro _ _ ⟨⟩⟩
  isReal := .inl rfl
  real := rfl

/-- A numeral without a point stands by its digits. -/
private theorem pointed_text (whole fraction : List Char) :
    ({ whole, fraction := some fraction } : Source.Numeral).text = whole ++ '.' :: fraction := by
  simp [Source.Numeral.text, pointText, Source.Numeral.exponentText, unitText]

private theorem positional_numeral {digits : List Char} (areDigits : AreDigits digits) (first : digits.head? ≠ some '0')
    {point : Int} (positional : -4 < point ∧ point ≤ 16) : ∃ n, IsReal n ∧ (layout digits point).toList = n.text := by
  have each := areDigits.each
  unfold layout
  rw [if_pos (by simpa using positional)]
  by_cases behindPoint : point ≤ 0
  · rw [if_pos behindPoint]
    refine ⟨_, pointed_isReal ['0'] (List.replicate (-point).toNat '0' ++ digits) ?_ (by decide)
      (.inr rfl) ⟨by simp [areDigits.given], fun d inside => ?_⟩, by simp [pointed_text]⟩
    · exact ⟨List.cons_ne_nil _ _, by decide⟩
    · rcases List.mem_append.1 inside with inside | inside
      · exact zeros_digits _ d inside
      · exact each d inside
  rw [if_neg behindPoint]
  by_cases whole : (digits.length : Int) ≤ point
  · rw [if_pos whole]
    refine ⟨_, pointed_isReal (digits ++ List.replicate (point - digits.length).toNat '0') ['0']
      ⟨by simp [areDigits.given], fun d inside => ?_⟩ ?_ ?_ ⟨List.cons_ne_nil _ _, by decide⟩, by simp [pointed_text]⟩
    · rcases List.mem_append.1 inside with inside | inside
      · exact each d inside
      · exact zeros_digits _ d inside
    · simp only [List.length_append, List.length_replicate, wholeLimit]
      omega
    · rw [List.head?_append_of_ne_nil _ areDigits.given]
      exact .inl first
  · rw [if_neg whole]
    refine ⟨_, pointed_isReal (digits.take point.toNat) (digits.drop point.toNat) ⟨?_, ?_⟩ ?_ ?_ ⟨?_, ?_⟩,
      by simp [pointed_text]⟩
    · simp only [ne_eq, List.take_eq_nil_iff, areDigits.given, or_false]
      omega
    · exact fun d inside => each d (List.take_subset _ _ inside)
    · simp only [List.length_take, wholeLimit]
      omega
    · rw [List.head?_take, if_neg (by omega)]
      exact .inl first
    · simp only [ne_eq, List.drop_eq_nil_iff]
      omega
    · exact fun d inside => each d (List.drop_subset _ _ inside)

private theorem scientific_numeral {digits : List Char} (areDigits : AreDigits digits) (first : digits.head? ≠ some '0')
    {point : Int} (beyond : ¬(-4 < point ∧ point ≤ 16)) : ∃ n, IsReal n ∧ (layout digits point).toList = n.text := by
  unfold layout
  rw [if_neg (by simpa using beyond)]
  dsimp only
  generalize isSize : (if (Nat.toDigits 10 (point - 1).natAbs).length < 2 then '0' :: Nat.toDigits 10 (point - 1).natAbs
    else Nat.toDigits 10 (point - 1).natAbs) = size
  generalize isSign : (if point - 1 < 0 then '-' else '+') = sign
  have signs : sign = '+' ∨ sign = '-' := by
    rw [← isSign]
    split
    · exact .inr rfl
    · exact .inl rfl
  have power : AreDigits size := by
    have digits := areDigits_toDigits (point - 1).natAbs
    rw [← isSize]
    split
    · exact ⟨List.cons_ne_nil _ _, List.forall_mem_cons.2 ⟨by decide, digits.each⟩⟩
    · exact digits
  obtain ⟨d, rest, rfl⟩ := List.exists_cons_of_ne_nil areDigits.given
  obtain ⟨isDigit, each⟩ := List.forall_mem_cons.1 areDigits.each
  have exponent : ∀ s ds, some (sign, size) = some (s, ds) → (s = '+' ∨ s = '-') ∧ AreDigits ds := by
    rintro _ _ ⟨⟩
    exact ⟨signs, power⟩
  have whole : AreDigits [d] := ⟨List.cons_ne_nil _ _, by simpa using isDigit⟩
  have few : [d].length ≤ wholeLimit := (by decide : 1 ≤ wholeLimit)
  cases rest with
  | nil =>
    refine ⟨{ whole := [d], exponent := some (sign, size) },
      ⟨⟨whole, few, .inl first, by rintro _ ⟨⟩, exponent⟩, .inr rfl, rfl⟩, ?_⟩
    simp [Source.Numeral.text, pointText, Source.Numeral.exponentText, unitText]
  | cons e rest =>
    refine ⟨{ whole := [d], fraction := some (e :: rest), exponent := some (sign, size) },
      ⟨⟨whole, few, .inl first, ?_, exponent⟩, .inl rfl, rfl⟩, ?_⟩
    · rintro _ ⟨⟩
      exact ⟨List.cons_ne_nil _ _, each⟩
    · simp [Source.Numeral.text, pointText, Source.Numeral.exponentText, unitText]

private theorem layout_numeral {digits : List Char} (areDigits : AreDigits digits) (first : digits.head? ≠ some '0')
    (point : Int) : ∃ n, IsReal n ∧ (layout digits point).toList = n.text := by
  by_cases positional : -4 < point ∧ point ≤ 16
  · exact positional_numeral areDigits first positional
  · exact scientific_numeral areDigits first positional

/-- What a finite double is written as: a numeral with a point or an exponent, and a sign if the double is negative. -/
theorem shortest_numeral (negative : Bool) (mantissa : Nat) (exponent : Int) :
    ∃ n, IsReal n ∧
      (shortest (.finite negative mantissa exponent)).toList = (if negative then ['-'] else []) ++ n.text := by
  have signed {text : String} {n : Source.Numeral} (same : text.toList = n.text) :
      ((if negative then "-" else "") ++ text).toList = (if negative then ['-'] else []) ++ n.text := by
    rw [String.toList_append, same]
    cases negative <;> rfl
  have zero : IsReal { whole := ['0'], fraction := some ['0'] } :=
    pointed_isReal _ _ ⟨List.cons_ne_nil _ _, by decide⟩ (by decide) (.inr rfl) ⟨List.cons_ne_nil _ _, by decide⟩
  rw [shortest]
  dsimp only
  by_cases none : mantissa = 0
  · rw [if_pos none]
    exact ⟨_, zero, signed rfl⟩
  rw [if_neg none]
  obtain ⟨num, den, ratio, positive, divides⟩ : ∃ num den, (finite false mantissa exponent).toRatio? = some (num, den) ∧
      0 < num.toNat ∧ 0 < den := by
    rw [toRatio?]
    split
    · refine ⟨_, _, rfl, ?_, by decide⟩
      have := Nat.mul_pos (Nat.pos_of_ne_zero none) (Nat.pow_pos (n := exponent.toNat) (by decide : 0 < 2))
      simp only [Bool.false_eq_true, if_false, Nat.pow_eq]
      rw [← Int.natCast_mul, Int.toNat_natCast]
      exact this
    · refine ⟨_, _, rfl, ?_, Nat.pow_pos (by decide)⟩
      simp only [Bool.false_eq_true, if_false, Int.toNat_natCast]
      exact Nat.pos_of_ne_zero none
  rw [ratio]
  dsimp only
  generalize isShortest : shortestDecimal num.toNat den = found
  obtain ⟨digits, place⟩ := found
  have given : 0 < digits ∨ place = 0 := by
    have given := shortestFrom_pos positive divides 17 Nat.one_pos
    rwa [← shortestDecimal, isShortest] at given
  by_cases whole : digits = 0
  · subst whole
    obtain rfl := given.resolve_left (Nat.lt_irrefl 0)
    exact ⟨_, zero, signed (by decide)⟩
  · have first : (Nat.toDigits 10 digits).head? ≠ some '0' := by
      refine (digits_head digits).resolve_right fun single => whole ?_
      have value := Nat.ofDigitChars_toDigits (b := 10) (n := digits) (by decide) (by decide)
      rw [single] at value
      exact value.symm
    obtain ⟨areDigits, first⟩ := dropTrailingZeros_digits (areDigits_toDigits digits) first
    obtain ⟨n, isReal, same⟩ := layout_numeral areDigits first ((Nat.toDigits 10 digits).length + place)
    exact ⟨n, isReal, signed same⟩

/-- Where digits behind a character end in a point and a zero, they are that zero. -/
private theorem ends_digits {before digits : List Char} {c : Char} (areDigits : AreDigits digits)
    (whole : ['0', '.'].isPrefixOf (before ++ c :: digits).reverse = true) : c = '.' ∧ digits = ['0'] := by
  obtain ⟨init, last, rfl⟩ := (List.eq_nil_or_concat digits).resolve_left areDigits.given
  rcases List.eq_nil_or_concat init with rfl | ⟨init, d, rfl⟩
  · simp at whole
    exact ⟨whole.2.symm, by rw [← whole.1]; rfl⟩
  · simp at whole
    have isDigit := areDigits.each d (by simp)
    rw [← whole.2] at isDigit
    cases isDigit

private theorem ends_whole {before : List Char} {n : Source.Numeral}
    (isReal : n.fraction.isSome = true ∨ n.exponent.isSome = true) (real : n.isImaginary = false) (valid : n.IsValid)
    (whole : ['0', '.'].isPrefixOf (before ++ n.text).reverse = true) :
    n.exponent = none ∧ n.fraction = some ['0'] := by
  rw [Source.Numeral.text, real] at whole
  cases isExponent : n.exponent with
  | some exponent =>
    obtain ⟨sign, digits⟩ := exponent
    obtain ⟨isSign, areDigits⟩ := valid.exponent sign digits isExponent
    have same : before ++ (n.whole ++ (pointText n.fraction ++ (Source.Numeral.exponentText (some (sign, digits)) ++
        unitText false))) = (before ++ n.whole ++ pointText n.fraction ++ ['e']) ++ sign :: digits := by
      simp [Source.Numeral.exponentText, unitText]
    rw [isExponent, same] at whole
    obtain ⟨rfl, -⟩ := ends_digits areDigits whole
    rcases isSign with impossible | impossible <;> cases impossible
  | none =>
    rw [isExponent] at isReal whole
    obtain ⟨fraction, isFraction⟩ := Option.isSome_iff_exists.1 (isReal.resolve_right Bool.false_ne_true)
    have same : before ++ (n.whole ++ (pointText (some fraction) ++ (Source.Numeral.exponentText none ++
        unitText false))) = (before ++ n.whole) ++ '.' :: fraction := by
      simp [pointText, Source.Numeral.exponentText, unitText]
    rw [isFraction, same] at whole
    obtain ⟨-, rfl⟩ := ends_digits (valid.fraction fraction isFraction) whole
    exact ⟨rfl, isFraction⟩

/-- A part of a complex number is shown by a numeral, which may do without its point. -/
theorem part_numeral (negative : Bool) (mantissa : Nat) (exponent : Int) :
    ∃ n : Source.Numeral, n.IsValid ∧ n.isImaginary = false ∧
      (Value.partText (.finite negative mantissa exponent)).toList = (if negative then ['-'] else []) ++ n.text := by
  obtain ⟨n, ⟨valid, isReal, real⟩, same⟩ := shortest_numeral negative mantissa exponent
  rw [Value.partText, same]
  by_cases whole : ['0', '.'].isPrefixOf ((if negative then ['-'] else []) ++ n.text).reverse = true
  · rw [if_pos whole, String.toList_ofList]
    obtain ⟨noExponent, isFraction⟩ := ends_whole isReal real valid whole
    refine ⟨{ whole := n.whole }, ⟨valid.whole, valid.few, valid.first, by rintro _ ⟨⟩, by rintro _ _ ⟨⟩⟩, rfl, ?_⟩
    simp [Source.Numeral.text, noExponent, isFraction, real, pointText, Source.Numeral.exponentText, unitText,
      List.dropLast_append_of_ne_nil]
  · rw [if_neg whole, String.toList_ofList]
    exact ⟨n, valid, real, rfl⟩

end Double

namespace Value

/-! ## Data -/

/-- Plain data, in which containers nest to this depth at most. A complex number counts as a container, as it is
    written in parentheses. -/
inductive IsPlainData : Nat → Value → Prop where
  | none {depth : Nat} : IsPlainData depth .none
  | bool {depth : Nat} (b : Bool) : IsPlainData depth (.bool b)
  | int {depth : Nat} (place : Nat) (n : Int) : IsPlainData depth (.int place n)
  | float {depth : Nat} (place : Nat) {x : Double} (isFinite : x.isFinite = true) : IsPlainData depth (.float place x)
  | text {depth : Nat} (place : Nat) (text : String) : IsPlainData depth (.text place text)
  | bytes {depth : Nat} (place : Nat) (bytes : List UInt8) : IsPlainData depth (.bytes place bytes)
  | complex {depth : Nat} (place : Nat) {re im : Double} (real : re.isFinite = true) (imaginary : im.isFinite = true) :
      IsPlainData (depth + 1) (.complex place re im)
  | list {depth : Nat} (place : Nat) {items : List Value} (each : ∀ v ∈ items, IsPlainData depth v) :
      IsPlainData (depth + 1) (.list place items)
  | tuple {depth : Nat} (place : Nat) {items : List Value} (each : ∀ v ∈ items, IsPlainData depth v) :
      IsPlainData (depth + 1) (.tuple place items)
  | set {depth : Nat} (place : Nat) {items : List Value} (each : ∀ v ∈ items, IsPlainData depth v) :
      IsPlainData (depth + 1) (.set place items)
  | dict {depth : Nat} (place : Nat) {entries : List (Value × Value)} (keys : ∀ e ∈ entries, IsPlainData depth e.1)
      (values : ∀ e ∈ entries, IsPlainData depth e.2) : IsPlainData (depth + 1) (.dict place entries)

private theorem finite_parts {x : Double} (isFinite : x.isFinite = true) :
    ∃ negative mantissa exponent, x = .finite negative mantissa exponent := by
  cases x with
  | finite negative mantissa exponent => exact ⟨negative, mantissa, exponent, rfl⟩
  | infinite | nan => cases isFinite

private theorem lt_of_log2_lt {n bits limit : Nat} (few : Nat.log2 n < bits) (room : 2 ^ bits ≤ limit) : n < limit :=
  calc n < 2 ^ (Nat.log2 n + 1) := Nat.lt_log2_self
    _ ≤ 2 ^ bits := Nat.pow_le_pow_right (by decide) few
    _ ≤ limit := room

/-- As many numbers have 28 digits as have 93 bits, or more. -/
private theorem bits_le_digits (k : Nat) : 2 ^ (93 * k + 52) ≤ 10 ^ (28 * k + 16) := by
  rw [Nat.pow_add, Nat.pow_mul, Nat.pow_add, Nat.pow_mul]
  exact Nat.mul_le_mul (Nat.pow_le_pow_left (by decide) k) (by decide)

/-- A whole number that can be written can be read, too. -/
private theorem int_short {n : Int} (short : isTooLong n = false) : n.natAbs < 10 ^ wholeLimit := by
  rw [isTooLong, Bool.and_eq_false_iff] at short
  rcases short with few | below
  · have bits : Nat.log2 n.natAbs < 93 * 153 + 52 := by
      have := of_decide_eq_false few
      omega
    have digits : wholeLimit = 28 * 153 + 16 := rfl
    rw [digits]
    exact lt_of_log2_lt bits (bits_le_digits 153)
  · have digits : Text.digitLimit = wholeLimit := rfl
    have power : ∀ k, Nat.pow 10 k = 10 ^ k := fun _ => rfl
    rwa [power, digits, decide_eq_false_iff_not, Nat.not_le] at below

section

variable {depth : Nat}

private theorem imaginary_written {n : Numeral} (valid : n.IsValid) (real : n.isImaginary = false) :
    ∃ value, IsWritten (n.text ++ ['j']) (.number value) := by
  have imaginary : { n with isImaginary := true }.IsValid :=
    ⟨valid.whole, valid.few, valid.first, valid.fraction, valid.exponent⟩
  have same : { n with isImaginary := true }.text = n.text ++ ['j'] := by
    simp [Numeral.text, real, Numeral.unitText]
  exact ⟨_, same ▸ IsWritten.numeral imaginary⟩

/-- A complex number is shown as a sum in parentheses, or as an imaginary number by itself. -/
private theorem complex_plain {re im : Double} (real : re.isFinite = true) (imaginary : im.isFinite = true) :
    PlainText .union (depth + 1) (complexText re im).toList := by
  obtain ⟨negative, mantissa, exponent, rfl⟩ := finite_parts imaginary
  obtain ⟨n, valid, isReal, same⟩ := Double.part_numeral negative mantissa exponent
  obtain ⟨value, written⟩ := imaginary_written valid isReal
  have minus : ('-', "-") ∈ signs := by decide
  have plus : ('+', "+") ∈ signs := by decide
  rw [complexText]
  by_cases alone : (re.isZero && !re.isNegative) = true
  · rw [if_pos alone, String.toList_append, same]
    refine .member (.number ?_)
    cases negative with
    | false => exact .numeral written
    | true =>
      have whole : PlainText .number (depth + 1) _ := .signed minus .nil written
      simpa using whole
  · rw [if_neg alone]
    obtain ⟨negativeRe, mantissaRe, exponentRe, rfl⟩ := finite_parts real
    obtain ⟨m, validRe, -, sameRe⟩ := Double.part_numeral negativeRe mantissaRe exponentRe
    have left : PlainText .number depth _ := .signedNumeral negativeRe validRe
    have sum : PlainText .member depth (((if negativeRe then ['-'] else []) ++ m.text) ++
        ([] ++ (if negative then '-' else '+') :: ([] ++ (n.text ++ ['j'])))) := by
      cases negative with
      | false => exact .sum left plus .nil .nil written
      | true => exact .sum left minus .nil .nil written
    have whole : PlainText .operand (depth + 1) _ := .display .round .nil (.item (.member sum)) (.blank .nil)
    refine .member (.operand ?_)
    simp only [String.toList_append, sameRe, same]
    cases negative <;> simpa [Bracket.opening, Bracket.closing, Double.isNegative] using whole

private theorem displayAll_ok : ∀ {items : List Value} {texts : List String}, displayAll items = .ok texts →
    List.Forall₂ (fun v text => v.display = .ok text) items texts
  | [], _, shown => by
    rw [displayAll] at shown
    cases shown
    exact .nil
  | v :: items, _, shown => by
    rw [displayAll] at shown
    obtain ⟨first, isFirst, shown⟩ := bind_eq_ok_iff.1 shown
    obtain ⟨others, areOthers, same⟩ := bind_eq_ok_iff.1 shown
    cases same
    exact .cons isFirst (displayAll_ok areOthers)

private theorem displayEntries_ok : ∀ {entries : List (Value × Value)} {texts : List String},
    displayEntries entries = .ok texts → List.Forall₂ (fun e text => ∃ key value, e.1.display = .ok key ∧
      e.2.display = .ok value ∧ text = key ++ ": " ++ value) entries texts
  | [], _, shown => by
    rw [displayEntries] at shown
    cases shown
    exact .nil
  | (k, v) :: entries, _, shown => by
    rw [displayEntries] at shown
    obtain ⟨key, isKey, shown⟩ := bind_eq_ok_iff.1 shown
    obtain ⟨value, isValue, shown⟩ := bind_eq_ok_iff.1 shown
    obtain ⟨others, areOthers, same⟩ := bind_eq_ok_iff.1 shown
    cases same
    exact .cons ⟨key, value, isKey, isValue, rfl⟩ (displayEntries_ok areOthers)

private theorem tuple_plain : ∀ {texts : List String}, (∀ text ∈ texts, PlainText .union depth text.toList) →
    PlainText .operand (depth + 1) (tupleText texts).toList
  | [], _ => .empty .round .nil
  | [only], each => by
    have tail : IsTail true ([] ++ ',' :: []) := .comma .nil .nil
    have whole : PlainText .operand (depth + 1) _ :=
      .display .round .nil (.item (each only List.mem_cons_self)) tail
    simpa [tupleText, Bracket.opening, Bracket.closing] using whole
  | first :: second :: others, each => by
    simpa [tupleText, Bracket.opening, Bracket.closing] using
      PlainText.enclosed .round (List.cons_ne_nil _ _) each

private theorem set_plain : ∀ {texts : List String}, (∀ text ∈ texts, PlainText .union depth text.toList) →
    PlainText .operand (depth + 1) (setText texts).toList
  | [], _ => .emptySet .nil .nil
  | first :: others, each => by
    simpa [setText, Bracket.opening, Bracket.closing] using
      PlainText.enclosed .curly (List.cons_ne_nil _ _) each

private theorem dict_plain {texts : List String} (each : ∀ text ∈ texts, PlainText .entry depth text.toList) :
    PlainText .operand (depth + 1) ("\x7b" ++ ", ".intercalate texts ++ "\x7d").toList := by
  cases texts with
  | nil => exact .empty .curly .nil
  | cons first others =>
    have whole : PlainText .operand (depth + 1) _ :=
      .dictionary .nil (.joinedEntries (List.cons_ne_nil _ _) each) (.blank .nil)
    simpa using whole

/-- The text of data is plain, and its brackets nest as deep as the containers do. -/
theorem IsPlainData.display_plain {v : Value} (isData : IsPlainData depth v) : ∀ {text : String}, v.display = .ok text →
    PlainText .union depth text.toList := by
  have items {depth : Nat} {items : List Value} {texts : List String} (shown : displayAll items = .ok texts)
      (further : ∀ v ∈ items, ∀ {text : String}, v.display = .ok text → PlainText .union depth text.toList) :
      ∀ text ∈ texts, PlainText .union depth text.toList := by
    intro text among
    obtain ⟨v, inside, shows⟩ := mem_right_of_forall₂ (displayAll_ok shown) among
    exact further v inside shows
  induction isData with
  | none =>
    intro text shown
    rw [display] at shown
    cases shown
    exact .member (.operand (.word (by decide)))
  | bool b =>
    intro text shown
    cases b <;> rw [display] at shown <;> cases shown <;> exact .member (.operand (.word (by decide)))
  | int place n =>
    intro text shown
    rw [display, intText] at shown
    by_cases long : isTooLong n = true
    · rw [if_pos long] at shown
      cases shown
    · rw [if_neg long] at shown
      cases shown
      exact .member (.number (.whole (int_short (Bool.eq_false_iff.2 long))))
  | float place isFinite =>
    intro text shown
    rw [display] at shown
    cases shown
    obtain ⟨negative, mantissa, exponent, rfl⟩ := finite_parts isFinite
    obtain ⟨n, isReal, same⟩ := Double.shortest_numeral negative mantissa exponent
    rw [same]
    exact .member (.number (.signedNumeral negative isReal.valid))
  | text place value =>
    intro text shown
    rw [display] at shown
    cases shown
    rw [Text.quoted, String.toList_ofList]
    exact .member (.quoted _)
  | bytes place bytes =>
    intro text shown
    rw [display] at shown
    cases shown
    exact .member (.quotedBytes bytes)
  | complex place real imaginary =>
    intro text shown
    rw [display] at shown
    cases shown
    exact complex_plain real imaginary
  | list place each further =>
    intro text shown
    rw [display] at shown
    obtain ⟨texts, areTexts, same⟩ := bind_eq_ok_iff.1 shown
    cases same
    exact .member (.operand (.listed (items areTexts further)))
  | tuple place each further =>
    intro text shown
    rw [display] at shown
    obtain ⟨texts, areTexts, same⟩ := bind_eq_ok_iff.1 shown
    cases same
    exact .member (.operand (tuple_plain (items areTexts further)))
  | set place each further =>
    intro text shown
    rw [display] at shown
    obtain ⟨texts, areTexts, same⟩ := bind_eq_ok_iff.1 shown
    cases same
    exact .member (.operand (set_plain (items areTexts further)))
  | dict place keys values furtherKeys furtherValues =>
    intro text shown
    rw [display] at shown
    obtain ⟨texts, areTexts, same⟩ := bind_eq_ok_iff.1 shown
    cases same
    refine .member (.operand (dict_plain fun text among => ?_))
    obtain ⟨e, inside, key, value, isKey, isValue, rfl⟩ := mem_right_of_forall₂ (displayEntries_ok areTexts) among
    have whole : PlainText .entry _ _ :=
      .entry (furtherKeys e inside isKey) .nil .space (furtherValues e inside isValue)
    simpa using whole

end

end Value

end EachSubject
