import EachSubject.Source.Lexer

/-!
# Tokens before a stop

A stop is a character that continues no token: a blank, the end of a line, and the separators that stand
behind an expression. The token at the head of a text before a stop does not depend on which stop it is,
nor on what follows it. A string is the exception, as it may hold stops; where the line ends behind the
stop, it has to end before.
-/

namespace EachSubject.Source

/-- What is said of each item of a list is decided item by item, also where the type is finite. -/
instance (priority := high) decidableForallMem {α : Type} (p : α → Prop) [DecidablePred p] (items : List α) :
    Decidable (∀ item ∈ items, p item) := List.decidableBAll p items

/-- The characters that can stand directly behind an expression. -/
def stops : List Char := [' ', ',', ')', ']', ':', ';', '\n']

/-- What a reader gives on a text before a stop depends neither on which stop it is nor on what follows
    it, and the stop stays. -/
def Local {α : Type} (read : List Char → Option (α × List Char)) (text : List Char) : Prop :=
  ∃ found : Option (α × List Char),
    (∀ a left, found = some (a, left) → left <:+ text) ∧
      ∀ stop ∈ stops, ∀ more, read (text ++ stop :: more) =
        found.map fun (a, left) => (a, left ++ stop :: more)

namespace Local

variable {α β : Type} {read : List Char → Option (α × List Char)} {text : List Char}

theorem none (refuses : ∀ stop ∈ stops, ∀ more, read (text ++ stop :: more) = Option.none) :
    Local read text :=
  ⟨Option.none, by simp, fun stop isStop more => refuses stop isStop more⟩

theorem found {left : List Char} (a : α) (short : left <:+ text)
    (finds : ∀ stop ∈ stops, ∀ more, read (text ++ stop :: more) = some (a, left ++ stop :: more)) :
    Local read text := by
  refine ⟨some (a, left), fun b rest same => ?_, fun stop isStop more => finds stop isStop more⟩
  cases same
  exact short

/-- The reader goes on as another does from a later place. -/
theorem later {other : List Char → Option (α × List Char)} {left : List Char}
    (there : Local other left) (short : left <:+ text)
    (same : ∀ stop ∈ stops, ∀ more, read (text ++ stop :: more) = other (left ++ stop :: more)) :
    Local read text := by
  obtain ⟨found, shorter, gives⟩ := there
  refine ⟨found, fun a rest is => (shorter a rest is).trans short, fun stop isStop more => ?_⟩
  rw [same stop isStop more, gives stop isStop more]

theorem bind {f : α → List Char → Option (β × List Char)} (first : Local read text)
    (next : ∀ a left, left <:+ text → Local (f a) left) :
    Local (fun chars => (read chars).bind fun (a, rest) => f a rest) text := by
  obtain ⟨found, shorter, gives⟩ := first
  cases found with
  | none => exact .none fun stop isStop more => by rw [gives stop isStop more]; rfl
  | some pair =>
    obtain ⟨a, left⟩ := pair
    have short := shorter a left rfl
    exact (next a left short).later short fun stop isStop more => by rw [gives stop isStop more]; rfl

theorem map {f : α → β} (first : Local read text) :
    Local (fun chars => (read chars).map fun (a, rest) => (f a, rest)) text := by
  obtain ⟨found, shorter, gives⟩ := first
  cases found with
  | none => exact .none fun stop isStop more => by simp only [gives stop isStop more, Option.map_none]
  | some pair =>
    refine .found (f pair.1) (shorter pair.1 pair.2 rfl) fun stop isStop more => ?_
    simp only [gives stop isStop more, Option.map_some]

theorem ite {condition : Prop} [Decidable condition] {other : List Char → Option (α × List Char)}
    (yes : Local read text) (no : Local other text) :
    Local (fun chars => if condition then read chars else other chars) text := by
  by_cases holds : condition
  · simpa only [if_pos holds] using yes
  · simpa only [if_neg holds] using no

theorem or {other : List Char → Option (α × List Char)} (first : Local read text)
    (second : Local other text) : Local (fun chars => (read chars).or (other chars)) text := by
  obtain ⟨found, shorter, gives⟩ := first
  cases found with
  | none =>
    refine second.later (List.suffix_refl _) fun stop isStop more => ?_
    simp only [gives stop isStop more, Option.map_none, Option.none_or]
  | some pair =>
    refine .found pair.1 (shorter pair.1 pair.2 rfl) fun stop isStop more => ?_
    simp only [gives stop isStop more, Option.map_some, Option.some_or]

/-- What is read before one stop is read before any other one. -/
theorem transfer (here : Local read text) {stop : Char} {more rest : List Char} {a : α}
    (isStop : stop ∈ stops) (readHere : read (text ++ stop :: more) = some (a, rest)) :
    ∃ left, rest = left ++ stop :: more ∧ left <:+ text ∧
      ∀ other ∈ stops, ∀ after, read (text ++ other :: after) = some (a, left ++ other :: after) := by
  obtain ⟨found, shorter, gives⟩ := here
  rw [gives stop isStop more] at readHere
  obtain ⟨⟨b, left⟩, is, same⟩ := Option.map_eq_some_iff.1 readHere
  cases same
  refine ⟨left, rfl, shorter a left is, fun other isOther after => ?_⟩
  rw [gives other isOther after, is]
  rfl

end Local

section Stops

variable {stop : Char} (stops_it : stop ∈ stops)
include stops_it

private theorem stop_ne {c : Char} (ordinary : c ∉ stops) : stop ≠ c := by
  rintro rfl
  exact ordinary stops_it

private theorem not_wordChar : isWordChar stop = false := by
  revert stop
  decide

private theorem not_quote : isQuote stop = false := by
  revert stop
  decide

private theorem not_digit : stop.isDigit = false := by
  revert stop
  decide

private theorem not_hexDigit : isHexDigit stop = false := by
  revert stop
  decide

private theorem not_octalDigit : isOctalDigit stop = false := by
  revert stop
  decide

private theorem not_binaryDigit : isBinaryDigit stop = false := by
  revert stop
  decide

end Stops

/-! ## Numerals -/

private theorem digits_cons {isDigit : Char → Bool} {c : Char} (ordinary : c ≠ '_')
    (rest : List Char) : digitsAfter? isDigit (c :: rest) =
      if isDigit c then (digitsAfter? isDigit rest).map fun (digits, rest) => (c :: digits, rest)
      else some ([], c :: rest) := by
  rw [digitsAfter?]
  · exact fun same _ => ordinary same
  · exact fun _ _ same _ => ordinary same

private theorem digits_local {isDigit : Char → Bool} (no : ∀ stop ∈ stops, isDigit stop = false) :
    ∀ text : List Char, Local (digitsAfter? isDigit) text
  | [] => by
    refine .found [] (List.suffix_refl _) fun stop isStop more => ?_
    rw [List.nil_append, digits_cons (stop_ne isStop (by decide)), no stop isStop]
    rfl
  | c :: text => by
    by_cases ordinary : c = '_'
    · subst ordinary
      match text with
      | [] => exact .none fun stop isStop more => by simp [digitsAfter?, no stop isStop]
      | c :: text =>
        have further := (digits_local no text).map (f := (c :: ·))
        have either : Local (fun chars => if isDigit c = true then _ else none) text :=
          further.ite (.none fun _ _ _ => rfl)
        exact either.later (List.suffix_cons_iff.2 (.inr (List.suffix_cons _ _))) fun stop isStop more => rfl
    · by_cases digit : isDigit c = true
      · refine ((digits_local no text).map (f := (c :: ·))).later (by simp) fun stop isStop more => ?_
        rw [List.cons_append, digits_cons ordinary, if_pos digit]
      · refine .found [] (List.suffix_refl _) fun stop isStop more => ?_
        rw [List.cons_append, digits_cons ordinary, if_neg digit]

private theorem drop_before_stop {word : List Char} (ordinary : ∀ c ∈ word, c ∉ stops)
    {stop : Char} (isStop : stop ∈ stops) (more : List Char) : ∀ text : List Char,
    (drop? word (text ++ stop :: more)).isSome = (drop? word text).isSome := by
  induction word with
  | nil => intro text; rfl
  | cons c word further =>
    intro text
    have rest : ∀ d ∈ word, d ∉ stops := fun d inside => ordinary d (List.mem_cons_of_mem c inside)
    cases text with
    | nil =>
      have differ : c ≠ stop := fun same => ordinary c List.mem_cons_self (same ▸ isStop)
      simp [drop?, differ]
    | cons d text =>
      simp only [List.cons_append, drop?]
      by_cases same : c = d
      · rw [if_pos same, if_pos same, further rest text]
      · rw [if_neg same, if_neg same]

private theorem wordsAfterNumber_ordinary :
    ∀ word ∈ wordsAfterNumber, ∀ c ∈ word.toList, c ∉ stops := by decide

private theorem endsNumber_before_stop {stop : Char} (isStop : stop ∈ stops) (more text : List Char) :
    endsNumber (text ++ stop :: more) = endsNumber text := by
  cases text with
  | nil => simp [endsNumber, not_wordChar isStop]
  | cons c text =>
    have words : (wordsAfterNumber.any fun word => (drop? word.toList (c :: text ++ stop :: more)).isSome) =
        wordsAfterNumber.any fun word => (drop? word.toList (c :: text)).isSome := by
      refine Bool.eq_iff_iff.2 ?_
      simp only [List.any_eq_true]
      refine exists_congr fun word => and_congr_right fun inside => ?_
      rw [drop_before_stop (wordsAfterNumber_ordinary word inside) isStop]
    simpa only [endsNumber, List.cons_append] using congrArg (!isWordChar c || ·) words

private theorem head_before_stop {p : Char → Bool} {stop : Char} (no : p stop = false)
    (more text : List Char) :
    ((text ++ stop :: more).head?.map p).getD false = (text.head?.map p).getD false := by
  cases text with
  | nil => simpa using no
  | cons c text => rfl

private theorem basedNumber_local (base : Nat) {isDigit : Char → Bool}
    (no : ∀ stop ∈ stops, isDigit stop = false) (text : List Char) :
    Local (basedNumber? base isDigit) text := by
  refine Local.bind (f := fun digits rest =>
    if digits.isEmpty || (rest.head?.map Char.isDigit).getD false || !endsNumber rest then none
    else some (Number.whole (digitsValue base digits), rest)) (digits_local no text) fun digits left short => ?_
  by_cases refused : (digits.isEmpty || (left.head?.map Char.isDigit).getD false ||
      !endsNumber left) = true
  · refine .none fun stop isStop more => ?_
    simp only [head_before_stop (not_digit isStop), endsNumber_before_stop isStop, if_pos refused]
  · refine .found (.whole (digitsValue base digits)) (List.suffix_refl _) fun stop isStop more => ?_
    simp only [head_before_stop (not_digit isStop), endsNumber_before_stop isStop, if_neg refused]

/-- What stands behind the digits of a decimal numeral: the letter of an imaginary number, or nothing. -/
def unitOf (imaginary plain : Number) (text : List Char) : Option (Number × List Char) :=
  match text with
  | c :: after =>
    if c = 'j' || c = 'J' then if endsNumber after then some (imaginary, after) else none
    else if endsNumber text then some (plain, text) else none
  | [] => some (plain, [])

private theorem unit_local (imaginary plain : Number) (text : List Char) :
    Local (unitOf imaginary plain) text := by
  have here : Local (fun rest => if endsNumber rest then some (plain, rest) else none) text := by
    by_cases ends : endsNumber text = true
    · refine .found plain (List.suffix_refl _) fun stop isStop more => ?_
      simp only [endsNumber_before_stop isStop, if_pos ends]
    · exact .none fun stop isStop more => by simp only [endsNumber_before_stop isStop, if_neg ends]
  cases text with
  | nil =>
    refine here.later (List.suffix_refl _) fun stop isStop more => ?_
    have notUnit : ¬(decide (stop = 'j') || decide (stop = 'J')) = true := by
      simp [stop_ne isStop (c := 'j') (by decide), stop_ne isStop (c := 'J') (by decide)]
    simp only [unitOf, List.nil_append, if_neg notUnit]
  | cons c text =>
    by_cases isUnit : (decide (c = 'j') || decide (c = 'J')) = true
    · by_cases ends : endsNumber text = true
      · refine .found imaginary (List.suffix_cons c text) fun stop isStop more => ?_
        simp only [unitOf, List.cons_append, if_pos isUnit, endsNumber_before_stop isStop, if_pos ends]
      · refine .none fun stop isStop more => ?_
        simp only [unitOf, List.cons_append, if_pos isUnit, endsNumber_before_stop isStop, if_neg ends]
    · refine here.later (List.suffix_refl _) fun stop isStop more => ?_
      simp only [unitOf, List.cons_append, if_neg isUnit]

section

variable (whole fraction : List Char) (isReal : Bool)

/-- The numeral with an exponent or without one, up to its unit. -/
def behindDigits (exponent : Option Int) (text : List Char) : Option (Number × List Char) :=
  unitOf (.imaginary (Double.ofDecimal false (digitsValue 10 (whole ++ fraction))
    (exponent.getD 0 - fraction.length))) (afterPoint?.number whole fraction isReal exponent) text

/-- Where no exponent is written behind the letter for one. -/
def withoutExponent (text : List Char) : Option (Number × List Char) :=
  if endsNumber text then some (afterPoint?.number whole fraction isReal none, text) else none

private theorem withoutExponent_local (text : List Char) :
    Local (withoutExponent whole fraction isReal) text := by
  by_cases ends : endsNumber text = true
  · refine .found (afterPoint?.number whole fraction isReal none) (List.suffix_refl _) fun stop isStop more => ?_
    simp only [withoutExponent, endsNumber_before_stop isStop, if_pos ends]
  · exact .none fun stop isStop more => by
      simp only [withoutExponent, endsNumber_before_stop isStop, if_neg ends]

theorem afterPoint_plain {c : Char} (plain : ¬(decide (c = 'e') || decide (c = 'E')) = true)
    (text : List Char) : afterPoint? whole fraction isReal (c :: text) =
      behindDigits whole fraction isReal none (c :: text) := by
  simp only [afterPoint?, if_neg plain]
  rfl

theorem afterPoint_exponent {e : Char} (letter : (decide (e = 'e') || decide (e = 'E')) = true)
    (sign : Char) {text : List Char} (more : text ≠ []) : afterPoint? whole fraction isReal (e :: sign :: text) =
      if sign = '+' || sign = '-' then
        if (text.head?.map Char.isDigit).getD false then
          (digitsAfter? Char.isDigit text).bind fun (power, rest) =>
            behindDigits whole fraction isReal
              (some (if sign = '-' then -(digitsValue 10 power : Int) else digitsValue 10 power)) rest
        else none
      else if sign.isDigit then
        (digitsAfter? Char.isDigit (sign :: text)).bind fun (power, rest) =>
          behindDigits whole fraction isReal (some (digitsValue 10 power)) rest
      else withoutExponent whole fraction isReal (e :: sign :: text) := by
  cases text with
  | nil => exact absurd rfl more
  | cons d text =>
    simp only [afterPoint?, if_pos letter]
    rfl

private theorem not_endsNumber {e : Char} (letter : (decide (e = 'e') || decide (e = 'E')) = true) :
    endsNumber [e] = false := by
  simp only [Bool.or_eq_true, decide_eq_true_eq] at letter
  rcases letter with rfl | rfl <;> decide

private theorem afterPoint_local (text : List Char) :
    Local (afterPoint? whole fraction isReal) text := by
  have finish : ∀ exponent left, Local (behindDigits whole fraction isReal exponent) left :=
    fun _ left => unit_local _ _ left
  have digits := digits_local fun stop isStop => not_digit isStop
  match text with
  | [] =>
    refine (finish none []).later (List.suffix_refl _) fun stop isStop more => afterPoint_plain _ _ _ ?_ more
    simp [stop_ne isStop (c := 'e') (by decide), stop_ne isStop (c := 'E') (by decide)]
  | e :: text =>
    by_cases letter : (decide (e = 'e') || decide (e = 'E')) = true
    · match text with
      | [] =>
        refine .none fun stop isStop more => ?_
        have noSign : ¬(decide (stop = '+') || decide (stop = '-')) = true := by
          simp [stop_ne isStop (c := '+') (by decide), stop_ne isStop (c := '-') (by decide)]
        have refuses : endsNumber (e :: stop :: more) = false := by
          rw [← List.singleton_append, endsNumber_before_stop isStop, not_endsNumber letter]
        cases more with
        | nil =>
          simp only [List.cons_append, List.nil_append, afterPoint?, if_pos letter, not_digit isStop,
            if_neg noSign, refuses]
          rfl
        | cons d more =>
          simp only [List.cons_append, List.nil_append]
          rw [afterPoint_exponent whole fraction isReal letter stop (by simp), if_neg noSign, not_digit isStop]
          simp [withoutExponent, refuses]
      | sign :: text =>
        have same (stop : Char) (more : List Char) :
            afterPoint? whole fraction isReal (_ :: sign :: (text ++ stop :: more)) = _ :=
          afterPoint_exponent whole fraction isReal letter sign (by simp)
        by_cases signed : (decide (sign = '+') || decide (sign = '-')) = true
        · by_cases digit : (text.head?.map Char.isDigit).getD false = true
          · have both := Local.bind (digits text) fun power left _ => finish (some (if sign = '-' then
              -(digitsValue 10 power : Int) else digitsValue 10 power)) left
            refine both.later (List.suffix_cons_iff.2 (.inr (List.suffix_cons _ _))) fun stop isStop more => ?_
            simpa only [List.cons_append, if_pos signed, head_before_stop (not_digit isStop),
              if_pos digit] using same stop more
          · refine .none fun stop isStop more => ?_
            simpa only [List.cons_append, if_pos signed, head_before_stop (not_digit isStop),
              if_neg digit] using same stop more
        · by_cases digit : sign.isDigit = true
          · have both := Local.bind (digits (sign :: text)) fun power left _ =>
              finish (some (digitsValue 10 power)) left
            refine both.later (by simp) fun stop isStop more => ?_
            simpa only [List.cons_append, if_neg signed, if_pos digit] using same stop more
          · refine (withoutExponent_local whole fraction isReal (e :: sign :: text)).later
              (List.suffix_refl _) fun stop isStop more => ?_
            simpa only [List.cons_append, if_neg signed, if_neg digit] using same stop more
    · exact (finish none (e :: text)).later (List.suffix_refl _) fun stop isStop more =>
        afterPoint_plain _ _ _ letter _

end

private theorem fraction_local (whole text : List Char) : Local (fraction? whole) text := by
  have plain := afterPoint_local whole [] true
  have digits := digits_local fun stop isStop => not_digit isStop
  match text with
  | [] =>
    refine (plain []).later (List.suffix_refl _) fun stop isStop more => ?_
    simp [fraction?, not_digit isStop]
  | c :: text =>
    by_cases digit : c.isDigit = true
    · have both := Local.bind (digits (c :: text)) fun fraction left _ =>
        afterPoint_local whole fraction true left
      refine both.later (List.suffix_refl _) fun stop isStop more => ?_
      simp only [List.cons_append, fraction?, if_pos digit]
      rfl
    · refine (plain (c :: text)).later (List.suffix_refl _) fun stop isStop more => ?_
      simp only [List.cons_append, fraction?, if_neg digit]

/-- A decimal numeral without a point, when its value is known. -/
private def accepted (digits : List Char) (number : Number) (text : List Char) :
    Option (Number × List Char) :=
  match number with
  | .whole _ =>
    if digits.any (· != '0') && (wholeLimit < digits.length || digits.head? = some '0') then none
    else some (number, text)
  | _ => some (number, text)

private theorem accepted_local (digits : List Char) (number : Number) (text : List Char) :
    Local (accepted digits number) text := by
  cases number with
  | whole value =>
    exact .ite (.none fun _ _ _ => rfl) (.found _ (List.suffix_refl _) fun _ _ _ => rfl)
  | real value => exact .found _ (List.suffix_refl _) fun _ _ _ => rfl
  | imaginary value => exact .found _ (List.suffix_refl _) fun _ _ _ => rfl

/-- What the first digits of a decimal numeral make with what follows them. -/
private def afterDigits (digits rest : List Char) : Option (Number × List Char) :=
  match rest with
  | '.' :: rest => fraction? digits rest
  | rest => (afterPoint? digits [] false rest).bind fun (number, after) => accepted digits number after

private theorem decimalNumber_local (text : List Char) : Local decimalNumber? text := by
  have digits := digits_local (fun stop isStop => not_digit isStop) text
  have plain := fun digits left => Local.bind (afterPoint_local digits [] false left) fun number after _ =>
    accepted_local digits number after
  refine Local.bind (f := afterDigits) digits fun digits left _ => ?_
  cases left with
  | nil =>
    refine (plain digits []).later (List.suffix_refl _) fun stop isStop more => ?_
    have notPoint := stop_ne isStop (c := '.') (by decide)
    simp [afterDigits, notPoint]
  | cons c left =>
    by_cases point : c = '.'
    · subst point
      exact (fraction_local digits left).later (by simp) fun _ _ _ => rfl
    · refine (plain digits (c :: left)).later (List.suffix_refl _) fun stop isStop more => ?_
      simp [afterDigits, point]

private theorem number_local (text : List Char) : Local number? text := by
  have decimal := decimalNumber_local text
  match text with
  | [] =>
    refine decimal.later (List.suffix_refl _) fun stop isStop more => ?_
    have notZero := stop_ne isStop (c := '0') (by decide)
    have notPoint := stop_ne isStop (c := '.') (by decide)
    simp [number?, notZero, notPoint]
  | c :: text =>
    by_cases zero : c = '0'
    · subst zero
      match text with
      | [] =>
        refine decimal.later (List.suffix_refl _) fun stop isStop more => ?_
        have noLetter : ∀ c ∈ ['x', 'X', 'o', 'O', 'b', 'B'], stop ≠ c := fun c isLetter =>
          stop_ne isStop ((by decide : ∀ c ∈ ['x', 'X', 'o', 'O', 'b', 'B'], c ∉ stops) c isLetter)
        simp only [List.mem_cons, List.not_mem_nil, or_false, forall_eq_or_imp, forall_eq] at noLetter
        simp [number?, noLetter]
      | x :: text =>
        by_cases hex : (decide (x = 'x') || decide (x = 'X')) = true
        · refine (basedNumber_local 16 (fun stop isStop => not_hexDigit isStop) text).later
            (List.suffix_cons_iff.2 (.inr (List.suffix_cons _ _))) fun stop isStop more => ?_
          simp only [List.cons_append, number?, if_pos hex]
        by_cases octal : (decide (x = 'o') || decide (x = 'O')) = true
        · refine (basedNumber_local 8 (fun stop isStop => not_octalDigit isStop) text).later
            (List.suffix_cons_iff.2 (.inr (List.suffix_cons _ _))) fun stop isStop more => ?_
          simp only [List.cons_append, number?, if_neg hex, if_pos octal]
        by_cases binary : (decide (x = 'b') || decide (x = 'B')) = true
        · refine (basedNumber_local 2 (fun stop isStop => not_binaryDigit isStop) text).later
            (List.suffix_cons_iff.2 (.inr (List.suffix_cons _ _))) fun stop isStop more => ?_
          simp only [List.cons_append, number?, if_neg hex, if_neg octal, if_pos binary]
        · refine decimal.later (List.suffix_refl _) fun stop isStop more => ?_
          simp only [List.cons_append, number?, if_neg hex, if_neg octal, if_neg binary]
    · by_cases point : c = '.'
      · subst point
        exact (fraction_local [] text).later (by simp) fun _ _ _ => rfl
      · refine decimal.later (List.suffix_refl _) fun stop isStop more => ?_
        simp [number?, zero, point]

/-! ## Operators -/

private theorem drop_local (op : String) : ∀ {word : List Char}, (∀ c ∈ word, c ∉ stops) →
    ∀ text, Local (fun chars => (drop? word chars).map fun rest => (op, rest)) text
  | [], _, text => .found op (List.suffix_refl _) fun _ _ _ => rfl
  | c :: word, ordinary, text => by
    have rest : ∀ d ∈ word, d ∉ stops := fun d inside => ordinary d (List.mem_cons_of_mem c inside)
    match text with
    | [] =>
      refine .none fun stop isStop more => ?_
      have differ : c ≠ stop := fun same => ordinary c List.mem_cons_self (same ▸ isStop)
      simp [drop?, differ]
    | d :: text =>
      by_cases same : c = d
      · refine (drop_local op rest text).later (by simp) fun stop isStop more => ?_
        simp only [List.cons_append, drop?, if_pos same]
      · refine .none fun stop isStop more => ?_
        simp only [List.cons_append, drop?, if_neg same, Option.map_none]

/-- A stop never continues an operator. -/
private theorem operators_ordinary : ∀ op ∈ operators, ∀ c ∈ op.toList.tail, c ∉ stops := by decide

private theorem operators_nonempty : ∀ op ∈ operators, op.toList ≠ [] := by decide

private theorem operator_local (c : Char) (text : List Char) : Local operator? (c :: text) := by
  have one : ∀ op ∈ operators,
      Local (fun chars => (drop? op.toList chars).map fun rest => (op, rest)) (c :: text) := by
    intro op inside
    obtain ⟨d, word, same⟩ := List.exists_cons_of_ne_nil (operators_nonempty op inside)
    have ordinary := operators_ordinary op inside
    rw [same] at ordinary ⊢
    by_cases first : d = c
    · refine (drop_local op ordinary text).later (by simp) fun stop isStop more => ?_
      simp only [List.cons_append, drop?, if_pos first, List.tail_cons]
    · refine .none fun stop isStop more => ?_
      simp only [List.cons_append, drop?, if_neg first, Option.map_none]
  have all : ∀ ops : List String, (∀ op ∈ ops, op ∈ operators) → Local (fun chars =>
      ops.findSome? fun op => (drop? op.toList chars).map fun rest => (op, rest)) (c :: text) := by
    intro ops inside
    induction ops with
    | nil => exact .none fun _ _ _ => rfl
    | cons op ops further =>
      have others := further fun op found => inside op (List.mem_cons_of_mem _ found)
      refine ((one op (inside op List.mem_cons_self)).or others).later (List.suffix_refl _) fun _ _ _ => ?_
      rw [List.findSome?_cons]
      split
      · rename_i isFound
        rw [isFound, Option.some_or]
      · rename_i isFound
        rw [isFound, Option.none_or]
  exact all operators fun _ inside => inside

/-! ## Strings -/

/-- What a reader of the rest of a string finds before a stop with which the line ends, it finds before
    any stop. -/
private def EndsBefore (read : List Char → Option (List Char × List Char)) (text : List Char) : Prop :=
  ∀ stop ∈ stops, ∀ body rest, read (text ++ [stop, '\n']) = some (body, rest) →
    ∃ left, rest = left ++ [stop, '\n'] ∧ left <:+ text ∧
      ∀ other ∈ stops, ∀ after, read (text ++ other :: after) = some (body, left ++ other :: after)

private theorem shortString_plain {quote c : Char} (ordinary : c ≠ '\\') (rest : List Char) :
    shortString? quote (c :: rest) = if c = '\n' then none else if c = quote then some ([], rest)
      else (shortString? quote rest).map fun (body, rest) => (c :: body, rest) := by
  rw [shortString?]
  · simp [ordinary]
  · exact fun _ _ same _ => ordinary same

private theorem quote_ordinary {quote : Char} (isQuote_ : isQuote quote = true) : quote ∉ stops := by
  intro isStop
  rw [not_quote isStop] at isQuote_
  cases isQuote_

private theorem EndsBefore.more {read other : List Char → Option (List Char × List Char)}
    {text later : List Char} (there : EndsBefore other later) (short : later <:+ text)
    (taken : List Char) (same : ∀ stop ∈ stops, ∀ more, read (text ++ stop :: more) =
      (other (later ++ stop :: more)).map fun (body, rest) => (taken ++ body, rest)) :
    EndsBefore read text := by
  intro stop isStop body rest found
  rw [same stop isStop] at found
  obtain ⟨⟨own, after⟩, foundThere, is⟩ := Option.map_eq_some_iff.1 found
  cases is
  obtain ⟨left, rfl, shorter, others⟩ := there stop isStop own _ foundThere
  refine ⟨left, rfl, shorter.trans short, fun other isOther after => ?_⟩
  rw [same other isOther, others other isOther]
  rfl

private theorem EndsBefore.here {read : List Char → Option (List Char × List Char)}
    {text later : List Char} (body : List Char) (short : later <:+ text)
    (ends : ∀ stop ∈ stops, ∀ more, read (text ++ stop :: more) = some (body, later ++ stop :: more)) :
    EndsBefore read text := by
  intro stop isStop found rest is
  rw [ends stop isStop] at is
  cases is
  exact ⟨later, rfl, short, fun other isOther after => ends other isOther after⟩

private theorem EndsBefore.nowhere {read : List Char → Option (List Char × List Char)}
    {text : List Char} (none : ∀ stop ∈ stops, read (text ++ [stop, '\n']) = none) :
    EndsBefore read text := by
  intro stop isStop found rest is
  rw [none stop isStop] at is
  cases is

private theorem shortString_stop {quote stop : Char} (quotes : isQuote quote = true)
    (isStop : stop ∈ stops) : shortString? quote [stop, '\n'] = none := by
  have ordinary := stop_ne isStop (c := '\\') (by decide)
  have differ := stop_ne isStop (quote_ordinary quotes)
  simp [shortString_plain ordinary, differ, shortString?]

private theorem shortString_ends {quote : Char} (quotes : isQuote quote = true) :
    ∀ text : List Char, EndsBefore (shortString? quote) text
  | [] => .nowhere fun stop isStop => shortString_stop quotes isStop
  | c :: text => by
    by_cases escape : c = '\\'
    · subst escape
      match text with
      | [] => exact .nowhere fun stop isStop => by simp [shortString?]
      | c :: text =>
        refine (shortString_ends quotes text).more (List.suffix_cons_iff.2 (.inr (List.suffix_cons _ _))) ['\\', c]
          fun stop isStop more => ?_
        simp only [List.cons_append, shortString?]
        rfl
    · by_cases newline : c = '\n'
      · refine .nowhere fun stop isStop => ?_
        rw [List.cons_append, shortString_plain escape, if_pos newline]
      · by_cases closes : c = quote
        · refine .here [] (List.suffix_cons c text) fun stop isStop more => ?_
          rw [List.cons_append, shortString_plain escape, if_neg newline, if_pos closes]
        · refine (shortString_ends quotes text).more (by simp) [c] fun stop isStop more => ?_
          rw [List.cons_append, shortString_plain escape, if_neg newline, if_neg closes]
          rfl

private theorem longString_plain {quote c : Char} (ordinary : c ≠ '\\') (rest : List Char) :
    longString? quote (c :: rest) =
      if c = quote && rest.take 2 = [quote, quote] then some ([], rest.drop 2)
      else (longString? quote rest).map fun (body, rest) => (c :: body, rest) := by
  rw [longString?]
  · simp [ordinary]
  · exact fun _ _ same _ => ordinary same

private theorem longString_ends {quote : Char} (quotes : isQuote quote = true) :
    ∀ text : List Char, EndsBefore (longString? quote) text
  | [] => .nowhere fun stop isStop => by
    have ordinary := stop_ne isStop (c := '\\') (by decide)
    have differ := stop_ne isStop (quote_ordinary quotes)
    have newlineDiffers : '\n' ≠ quote := stop_ne (by decide) (quote_ordinary quotes)
    simp [longString_plain ordinary, differ, longString?, newlineDiffers]
  | c :: text => by
    by_cases escape : c = '\\'
    · subst escape
      match text with
      | [] => exact .nowhere fun stop isStop => by simp [longString?]
      | c :: text =>
        refine (longString_ends quotes text).more (List.suffix_cons_iff.2 (.inr (List.suffix_cons _ _))) ['\\', c]
          fun stop isStop more => ?_
        simp only [List.cons_append, longString?]
        rfl
    · have closing : ∀ stop ∈ stops, ∀ more, (text ++ stop :: more).take 2 = [quote, quote] ↔
          text.take 2 = [quote, quote] := by
        intro stop isStop more
        have differ := stop_ne isStop (quote_ordinary quotes)
        match text with
        | [] => simp [differ]
        | [d] => simp [differ]
        | d :: d' :: text => simp
      by_cases closes : (decide (c = quote) && decide (text.take 2 = [quote, quote])) = true
      · have long : 2 ≤ text.length := by
          have := congrArg List.length (of_decide_eq_true (Bool.and_eq_true_iff.1 closes).2)
          rw [List.length_take] at this
          simp only [List.length_cons, List.length_nil] at this
          omega
        have behind := (List.drop_suffix 2 text).trans (List.suffix_cons c text)
        refine .here [] behind fun stop isStop more => ?_
        rw [List.cons_append, longString_plain escape, decide_eq_decide.2 (closing stop isStop more),
          if_pos closes, List.drop_append_of_le_length long]
      · refine (longString_ends quotes text).more (by simp) [c] fun stop isStop more => ?_
        rw [List.cons_append, longString_plain escape, decide_eq_decide.2 (closing stop isStop more),
          if_neg closes]
        rfl

private theorem quotedBody_ends {quote : Char} (quotes : isQuote quote = true) :
    ∀ text : List Char, EndsBefore quotedBody? (quote :: text)
  | [] => .nowhere fun stop isStop => by
    have differ := stop_ne isStop (quote_ordinary quotes)
    simp [quotedBody?, differ, shortString_stop quotes isStop]
  | [r] => by
    by_cases same : r = quote
    · refine .here [] List.nil_suffix fun stop isStop more => ?_
      have differ := stop_ne isStop (quote_ordinary quotes)
      simp [quotedBody?, same, differ]
    · refine (shortString_ends quotes [r]).more (by simp) [] fun stop isStop more => ?_
      simp [quotedBody?, same]
  | r :: s :: text => by
    by_cases long : (decide (r = quote) && decide (s = quote)) = true
    · refine (longString_ends quotes text).more ⟨[quote, r, s], rfl⟩ [] fun stop isStop more => ?_
      simp only [List.cons_append, quotedBody?, if_pos long, List.nil_append]
      exact Option.map_id'.symm
    · by_cases same : r = quote
      · refine .here [] ⟨[quote, r], rfl⟩ fun stop isStop more => ?_
        simp only [List.cons_append, quotedBody?, if_neg long, if_pos same]
      · refine (shortString_ends quotes (r :: s :: text)).more (List.suffix_cons _ _) [] fun stop isStop more => ?_
        simp only [List.cons_append, quotedBody?, if_neg long, if_neg same, List.nil_append]
        exact Option.map_id'.symm

/-! ## Tokens -/

private theorem takeWhile_before_stop {stop : Char} (isStop : stop ∈ stops) (more : List Char) :
    ∀ text : List Char, (text ++ stop :: more).takeWhile isWordChar = text.takeWhile isWordChar
  | [] => by simp [not_wordChar isStop]
  | c :: text => by
    by_cases word : isWordChar c = true
    · simp [word, takeWhile_before_stop isStop more text]
    · simp [word]

private theorem dropWhile_before_stop {stop : Char} (isStop : stop ∈ stops) (more : List Char) :
    ∀ text : List Char,
      (text ++ stop :: more).dropWhile isWordChar = text.dropWhile isWordChar ++ stop :: more
  | [] => by simp [not_wordChar isStop]
  | c :: text => by
    by_cases word : isWordChar c = true
    · simp [word, dropWhile_before_stop isStop more text]
    · simp [word]

/-- Which kind of token comes next is decided before the stop. -/
private theorem token_eq {stop : Char} (isStop : stop ∈ stops) (c : Char) (text more : List Char) :
    token? (c :: text ++ stop :: more) =
      if c.isDigit || (c == '.' && (text.head?.map Char.isDigit).getD false) then
        (number? (c :: text ++ stop :: more)).map fun (value, rest) => (.number value, rest)
      else if (((c :: text).dropWhile isWordChar).head?.map isQuote).getD false && stringMarks.contains
          (String.ofList (((c :: text).takeWhile isWordChar).map Char.toLower)) then
        (quotedBody? ((c :: text).dropWhile isWordChar ++ stop :: more)).map fun (body, rest) =>
          (.string (.ofMark (((c :: text).takeWhile isWordChar).map Char.toLower) body), rest)
      else if !((c :: text).takeWhile isWordChar).isEmpty then
        if Text.isIdentifierChars ((c :: text).takeWhile isWordChar) then
          some (.word (String.ofList ((c :: text).takeWhile isWordChar)),
            (c :: text).dropWhile isWordChar ++ stop :: more)
        else none
      else (operator? (c :: text ++ stop :: more)).map fun (op, rest) => (.op op, rest) := by
  have taken := takeWhile_before_stop isStop more (c :: text)
  have left := dropWhile_before_stop isStop more (c :: text)
  simp only [List.cons_append] at taken left ⊢
  simp only [token?, taken, left, head_before_stop (not_digit isStop), head_before_stop (not_quote isStop)]

/-- The token at the head of a text before a stop with which the line ends is the one before any other
    stop. -/
theorem token_before_stop {c : Char} {text : List Char} {stop : Char} (isStop : stop ∈ stops)
    {token : Token} {rest : List Char}
    (read : token? (c :: text ++ [stop, '\n']) = some (token, rest)) :
    ∃ left, rest = left ++ [stop, '\n'] ∧ left <:+ c :: text ∧
      ∀ other ∈ stops, ∀ after, token? (c :: text ++ other :: after) = some (token, left ++ other :: after) := by
  rw [token_eq isStop] at read
  by_cases isNumber : (c.isDigit || (c == '.' && (text.head?.map Char.isDigit).getD false)) = true
  · rw [if_pos isNumber] at read
    obtain ⟨⟨value, _⟩, found, same⟩ := Option.map_eq_some_iff.1 read
    cases same
    obtain ⟨left, rfl, short, others⟩ := (number_local (c :: text)).transfer isStop found
    refine ⟨left, rfl, short, fun other isOther after => ?_⟩
    rw [token_eq isOther, if_pos isNumber, others other isOther]
    rfl
  rw [if_neg isNumber] at read
  by_cases isString : ((((c :: text).dropWhile isWordChar).head?.map isQuote).getD false &&
      stringMarks.contains (String.ofList (((c :: text).takeWhile isWordChar).map Char.toLower))) = true
  · rw [if_pos isString] at read
    obtain ⟨⟨body, _⟩, found, same⟩ := Option.map_eq_some_iff.1 read
    cases same
    have shorter : (c :: text).dropWhile isWordChar <:+ c :: text := List.dropWhile_suffix isWordChar
    cases behind : (c :: text).dropWhile isWordChar with
    | nil => simp [behind] at isString
    | cons quote inside =>
      have quotes : isQuote quote = true := by
        simpa [behind] using (Bool.and_eq_true_iff.1 isString).1
      rw [behind] at found shorter
      obtain ⟨left, rfl, short, others⟩ := quotedBody_ends quotes inside stop isStop body _ found
      refine ⟨left, rfl, short.trans shorter, fun other isOther after => ?_⟩
      rw [token_eq isOther, if_neg isNumber, if_pos isString, behind, others other isOther]
      rfl
  rw [if_neg isString] at read
  by_cases isWord : (!((c :: text).takeWhile isWordChar).isEmpty) = true
  · rw [if_pos isWord] at read
    by_cases known : Text.isIdentifierChars ((c :: text).takeWhile isWordChar) = true
    · rw [if_pos known] at read
      cases read
      refine ⟨_, rfl, List.dropWhile_suffix isWordChar, fun other isOther after => ?_⟩
      rw [token_eq isOther, if_neg isNumber, if_neg isString, if_pos isWord, if_pos known]
    · rw [if_neg known] at read
      cases read
  rw [if_neg isWord] at read
  obtain ⟨⟨op, _⟩, found, same⟩ := Option.map_eq_some_iff.1 read
  cases same
  obtain ⟨left, rfl, short, others⟩ := (operator_local c text).transfer isStop found
  refine ⟨left, rfl, short, fun other isOther after => ?_⟩
  rw [token_eq isOther, if_neg isNumber, if_neg isString, if_neg isWord, others other isOther]
  rfl

end EachSubject.Source
