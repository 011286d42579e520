import EachSubject.Proofs.Source.Scanning

/-!
# Progress of the lexer

Every token takes at least one character, so a text that can be cut into tokens at all is cut within as many
steps as `tokens?` grants.
-/

namespace EachSubject.Source

/-! ## Numerals -/

private theorem digitsAfter_length {p : Char → Bool} {text digits rest : List Char}
    (read : digitsAfter? p text = some (digits, rest)) : digits.length + rest.length ≤ text.length := by
  fun_induction digitsAfter? p text generalizing digits rest
  case case1 => simp_all
  case case2 => cases read
  case case3 isDigit further =>
    obtain ⟨⟨digits, rest⟩, behind, same⟩ := Option.map_eq_some_iff.1 read
    cases same
    have := further behind
    simp only [List.length_cons]
    omega
  case case4 => cases read
  case case5 isDigit further =>
    obtain ⟨⟨digits, rest⟩, behind, same⟩ := Option.map_eq_some_iff.1 read
    cases same
    have := further behind
    simp only [List.length_cons]
    omega
  case case6 => simp_all

/-- The first digit is taken. -/
private theorem digitsAfter_shorter {c : Char} (isDigit : c.isDigit = true) {text digits rest : List Char}
    (read : digitsAfter? Char.isDigit (c :: text) = some (digits, rest)) : rest.length ≤ text.length := by
  have ordinary : c ≠ '_' := by
    rintro rfl
    cases isDigit
  rw [digitsAfter?, if_pos isDigit] at read
  · obtain ⟨⟨digits, rest⟩, behind, same⟩ := Option.map_eq_some_iff.1 read
    cases same
    have := digitsAfter_length behind
    omega
  · exact fun same _ => ordinary same
  · exact fun _ _ same _ => ordinary same

section

variable {whole fraction : List Char} {isReal : Bool} {text rest : List Char} {number : Number}

private theorem behindDigits_length (exponent : Option Int)
    (read : behindDigits whole fraction isReal exponent text = some (number, rest)) :
    rest.length ≤ text.length := by
  unfold behindDigits unitOf at read
  split at read
  · split at read
    · split at read
      · cases read
        exact Nat.le_succ _
      · cases read
    · split at read
      · cases read
        exact Nat.le_refl _
      · cases read
  · cases read
    exact Nat.le_refl _

private theorem afterPoint_length (read : afterPoint? whole fraction isReal text = some (number, rest)) :
    rest.length ≤ text.length := by
  cases text with
  | nil => exact behindDigits_length none read
  | cons e text =>
    by_cases letter : (decide (e = 'e') || decide (e = 'E')) = true
    · match text with
      | [] =>
        simp [afterPoint?, letter] at read
      | [sign] =>
        simp only [afterPoint?, if_pos letter] at read
        split at read
        · exact Nat.le_trans (@behindDigits_length _ _ _ [] _ _ (some _) read) (Nat.zero_le _)
        · split at read
          · cases read
          · split at read
            · cases read
              exact Nat.le_refl _
            · cases read
      | sign :: d :: text =>
        rw [afterPoint_exponent whole fraction isReal letter sign (by simp)] at read
        split at read
        · split at read
          · obtain ⟨⟨power, left⟩, digits, ends⟩ := Option.bind_eq_some_iff.1 read
            have := digitsAfter_length digits
            have := behindDigits_length _ ends
            simp only [List.length_cons] at *
            omega
          · cases read
        · split at read
          · obtain ⟨⟨power, left⟩, digits, ends⟩ := Option.bind_eq_some_iff.1 read
            have := digitsAfter_length digits
            have := behindDigits_length _ ends
            simp only [List.length_cons] at *
            omega
          · unfold withoutExponent at read
            split at read
            · cases read
              exact Nat.le_refl _
            · cases read
    · rw [afterPoint_plain whole fraction isReal letter] at read
      exact behindDigits_length _ read

private theorem fraction_length (read : fraction? whole text = some (number, rest)) : rest.length ≤ text.length := by
  cases text with
  | nil => exact afterPoint_length read
  | cons c text =>
    rw [fraction?] at read
    split at read
    · obtain ⟨⟨digits, left⟩, taken, behind⟩ := Option.bind_eq_some_iff.1 read
      have := digitsAfter_length taken
      have := afterPoint_length behind
      omega
    · exact afterPoint_length read

private theorem basedNumber_length {base : Nat} {isDigit : Char → Bool}
    (read : basedNumber? base isDigit text = some (number, rest)) : rest.length ≤ text.length := by
  obtain ⟨⟨digits, left⟩, taken, behind⟩ := Option.bind_eq_some_iff.1 read
  have := digitsAfter_length taken
  dsimp only at behind
  split at behind
  · cases behind
  · cases behind
    omega

private theorem decimalNumber_shorter {c : Char} (isDigit : c.isDigit = true)
    (read : decimalNumber? (c :: text) = some (number, rest)) : rest.length ≤ text.length := by
  obtain ⟨⟨digits, left⟩, taken, behind⟩ := Option.bind_eq_some_iff.1 read
  have shorter := digitsAfter_shorter isDigit taken
  dsimp only at behind
  split at behind
  · have := fraction_length behind
    simp only [List.length_cons] at shorter
    omega
  · obtain ⟨⟨number, after⟩, ends, same⟩ := Option.bind_eq_some_iff.1 behind
    have := afterPoint_length ends
    dsimp only at same
    split at same
    · split at same
      · cases same
      · cases same
        omega
    · cases same
      omega

private theorem number_shorter {c : Char}
    (starts : (c.isDigit || (c == '.' && (text.head?.map Char.isDigit).getD false)) = true)
    (read : number? (c :: text) = some (number, rest)) : rest.length ≤ text.length := by
  rw [number?.eq_def] at read
  split at read
  · rename_i x behind same
    cases same
    have based : ∀ {base : Nat} {isDigit : Char → Bool},
        basedNumber? base isDigit behind = some (number, rest) → rest.length ≤ (x :: behind).length :=
      fun read => Nat.le_succ_of_le (basedNumber_length read)
    split at read
    · exact based read
    split at read
    · exact based read
    split at read
    · exact based read
    · exact decimalNumber_shorter (by decide) read
  · rename_i same
    cases same
    exact fraction_length read
  · rename_i noPoint
    have isDigit : c.isDigit = true := by
      rcases Bool.or_eq_true_iff.1 starts with isDigit | isPoint
      · exact isDigit
      · exact absurd (congrArg (· :: text) (beq_iff_eq.1 (Bool.and_eq_true_iff.1 isPoint).1)) (noPoint text)
    exact decimalNumber_shorter isDigit read

end

/-! ## Strings, words and operators -/

private theorem shortString_length {quote : Char} {text body rest : List Char}
    (read : shortString? quote text = some (body, rest)) : rest.length ≤ text.length := by
  fun_induction shortString? quote text generalizing body rest
  case case1 => cases read
  case case2 further =>
    obtain ⟨⟨body, rest⟩, behind, same⟩ := Option.map_eq_some_iff.1 read
    cases same
    have := further behind
    simp only [List.length_cons]
    omega
  case case3 => cases read
  case case4 => simp_all
  case case5 further =>
    obtain ⟨⟨body, rest⟩, behind, same⟩ := Option.map_eq_some_iff.1 read
    cases same
    exact Nat.le_succ_of_le (further behind)

private theorem longString_length {quote : Char} {text body rest : List Char}
    (read : longString? quote text = some (body, rest)) : rest.length ≤ text.length := by
  fun_induction longString? quote text generalizing body rest
  case case1 => cases read
  case case2 further =>
    obtain ⟨⟨body, rest⟩, behind, same⟩ := Option.map_eq_some_iff.1 read
    cases same
    have := further behind
    simp only [List.length_cons]
    omega
  case case3 => cases read
  case case4 =>
    cases read
    simp only [List.length_drop, List.length_cons]
    omega
  case case5 further =>
    obtain ⟨⟨body, rest⟩, behind, same⟩ := Option.map_eq_some_iff.1 read
    cases same
    exact Nat.le_succ_of_le (further behind)

private theorem quotedBody_length {text body rest : List Char} (read : quotedBody? text = some (body, rest)) :
    rest.length < text.length := by
  unfold quotedBody? at read
  split at read
  · split at read
    · have := longString_length read
      simp only [List.length_cons]
      omega
    split at read
    · cases read
      simp only [List.length_cons]
      omega
    · have := shortString_length read
      simp only [List.length_cons] at *
      omega
  · split at read
    · cases read
      simp
    · cases read
  · cases read

private theorem drop_length : ∀ {word text rest : List Char}, drop? word text = some rest →
    rest.length + word.length = text.length
  | [], _, _, read => by
    cases read
    rfl
  | _ :: _, [], _, read => by cases read
  | c :: word, d :: text, rest, read => by
    rw [drop?] at read
    split at read
    · have := drop_length read
      simp only [List.length_cons]
      omega
    · cases read

private theorem operator_length {text rest : List Char} {op : String} (read : operator? text = some (op, rest)) :
    rest.length < text.length := by
  obtain ⟨op, inside, found⟩ := List.exists_of_findSome?_eq_some read
  obtain ⟨rest, dropped, same⟩ := Option.map_eq_some_iff.1 found
  cases same
  have nonempty := (by decide : ∀ op ∈ operators, 0 < op.toList.length) op inside
  have := drop_length dropped
  omega

/-- A token is not empty. -/
theorem token_length {text rest : List Char} {token : Token} (read : token? text = some (token, rest)) :
    rest.length < text.length := by
  cases text with
  | nil => cases read
  | cons c text =>
    have words : ((c :: text).dropWhile isWordChar).length ≤ (c :: text).length :=
      (List.dropWhile_suffix isWordChar).length_le
    rw [token?] at read
    dsimp only at read
    split at read
    · obtain ⟨⟨value, left⟩, found, same⟩ := Option.map_eq_some_iff.1 read
      cases same
      exact Nat.lt_succ_of_le (number_shorter ‹_› found)
    split at read
    · obtain ⟨⟨body, left⟩, found, same⟩ := Option.map_eq_some_iff.1 read
      cases same
      exact Nat.lt_of_lt_of_le (quotedBody_length found) words
    split at read
    · rename_i isWord
      split at read
      · cases read
        have split := congrArg List.length (List.takeWhile_append_dropWhile (p := isWordChar) (l := c :: text))
        have taken : 0 < ((c :: text).takeWhile isWordChar).length := by
          rw [List.length_pos_iff]
          simpa using isWord
        rw [List.length_append] at split
        omega
      · cases read
    · obtain ⟨⟨op, left⟩, found, same⟩ := Option.map_eq_some_iff.1 read
      cases same
      exact operator_length found

/-! ## Steps of the scan -/

private theorem measureIndent_length (text : List Char) : ∀ {column narrow column' narrow' : Nat} {rest : List Char},
    measureIndent column narrow text = (column', narrow', rest) → rest.length ≤ text.length := by
  intro column narrow column' narrow' rest measured
  fun_induction measureIndent column narrow text
  case case4 =>
    cases measured
    exact Nat.le_refl _
  all_goals
    rename_i further
    exact Nat.le_succ_of_le (further measured)

/-- The steps for a text: two for each character, and one for the start of its first line. -/
def scanSteps (fresh : Bool) (text : List Char) : Nat := 2 * text.length + fresh.toNat

/-- A text that is cut into tokens is cut within these steps. -/
theorem scan_enough {fuel : Nat} {fresh : Bool} {layout : Layout} {text : List Char} {all : List Token}
    (found : scan fuel fresh layout text = some all) {more : Nat} (enough : scanSteps fresh text ≤ more) :
    scan more fresh layout text = some all := by
  have comment (text : List Char) : (text.dropWhile (· != '\n')).length ≤ text.length :=
    (List.dropWhile_suffix _).length_le
  fun_induction scan fuel fresh layout text generalizing all more
  case case1 => cases found
  case case6 => cases found
  all_goals
    simp only [scanSteps, List.length_cons, Bool.toNat_true, Bool.toNat_false] at enough
    obtain ⟨steps, rfl⟩ := Nat.exists_eq_add_of_le' (show 1 ≤ more by omega)
  case case2 measured =>
    rw [scan, measured]
    exact found
  case case3 measured further =>
    have := measureIndent_length _ measured
    simp only [List.length_cons] at this
    rw [scan, measured]
    exact further found (by simp only [scanSteps, Bool.toNat_true]; omega)
  case case4 rest measured further =>
    have := measureIndent_length _ measured
    have := comment rest
    simp only [List.length_cons] at *
    rw [scan, measured]
    exact further found (by simp only [scanSteps, Bool.toNat_true]; omega)
  case case5 line notEmpty notNewline notComment measured further =>
    have := measureIndent_length _ measured
    obtain ⟨⟨tokens, inside⟩, indented, found⟩ := Option.bind_eq_some_iff.1 found
    obtain ⟨left, scanned, same⟩ := Option.bind_eq_some_iff.1 found
    cases same
    have behind := further inside scanned
      (show scanSteps false line ≤ steps by simp only [scanSteps, Bool.toNat_false]; omega)
    rw [scan, measured]
    simp [indented, behind]
  case case7 outside further =>
    obtain ⟨left, scanned, same⟩ := Option.map_eq_some_iff.1 found
    rw [scan, if_pos outside, further scanned (by simp only [scanSteps, Bool.toNat_true]; omega), ← same]
    rfl
  case case8 inside further =>
    rw [scan, if_neg inside]
    exact further found (by simp only [scanSteps, Bool.toNat_false]; omega)
  case case9 rest further =>
    have := comment rest
    rw [scan]
    exact further found (by simp only [scanSteps, Bool.toNat_false]; omega)
  case case10 => cases found
  case case11 goesOn further =>
    rw [scan, if_neg goesOn]
    exact further found (by simp only [scanSteps, Bool.toNat_false]; omega)
  case case12 inline further =>
    rw [scan_blank inline]
    exact further found (by simp only [scanSteps, Bool.toNat_false]; omega)
  case case13 noNewline noComment noContinuation notInline further =>
    obtain ⟨⟨token, middle⟩, first, found⟩ := Option.bind_eq_some_iff.1 found
    obtain ⟨after, turns, found⟩ := Option.bind_eq_some_iff.1 found
    obtain ⟨left, scanned, same⟩ := Option.bind_eq_some_iff.1 found
    cases same
    have := token_length first
    simp only [List.length_cons] at this
    exact scan_cons first turns
      (further middle after scanned (by simp only [scanSteps, Bool.toNat_false]; omega))

end EachSubject.Source
