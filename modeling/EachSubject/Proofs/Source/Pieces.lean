import EachSubject.Proofs.Source.Primary

/-!
# Words and separators

What single pieces of a text give: an identifier, the separators of a declaration, a dotted path, and
fixed texts. A piece is read with the character behind it in place.
-/

namespace EachSubject.Source

/-! ## Words -/

/-- The character ends a word, and does not make it the mark of a string. -/
def endsWord (c : Char) : Bool := !isWordChar c && !isQuote c

private theorem continue_wordChar {c : Char} (continues : Text.isIdentifierContinue c = true) :
    isWordChar c = true := by
  simp only [Text.isIdentifierContinue, isWordChar, Bool.or_eq_true, Bool.and_eq_true] at continues ⊢
  rcases continues with plain | ⟨beyond, _⟩
  · exact .inl plain
  · exact .inr beyond

private theorem start_continue {c : Char} (start : Text.isIdentifierStart c = true) :
    isWordChar c = true ∧ c.isDigit = false ∧ c ≠ '.' := by
  simp only [Text.isIdentifierStart, Bool.or_eq_true, Bool.and_eq_true, decide_eq_true_eq,
    beq_iff_eq] at start
  rcases start with (letter | rfl) | ⟨beyond, _⟩
  · refine ⟨by simp [isWordChar, Char.isAlphanum, letter], ?_, by rintro rfl; cases letter⟩
    change (decide ('A'.val ≤ c.val ∧ c.val ≤ 'Z'.val) || (decide ('a'.val ≤ c.val) && decide (c.val ≤ 'z'.val))) =
      true at letter
    change (decide ('0'.val ≤ c.val) && decide (c.val ≤ '9'.val)) = false
    simp only [Bool.or_eq_true, Bool.and_eq_true, decide_eq_true_eq, Bool.and_eq_false_iff,
      decide_eq_false_iff_not, UInt32.le_iff_toNat_le] at letter ⊢
    simp only [Char.reduceVal, UInt32.reduceToNat] at letter ⊢
    omega
  · decide
  · refine ⟨by simp [isWordChar, beyond], ?_, by rintro rfl; revert beyond; decide⟩
    simp only [Char.isDigit, Bool.and_eq_false_iff, decide_eq_false_iff_not, ge_iff_le,
      UInt32.le_iff_toNat_le]
    simp only [Char.toNat, Char.reduceVal, UInt32.reduceToNat] at beyond ⊢
    omega

theorem token_word {word : List Char} (isWord : Text.isIdentifierChars word = true) {c : Char}
    (ends : endsWord c = true) (rest : List Char) :
    token? (word ++ c :: rest) = some (.word (String.ofList word), c :: rest) := by
  simp only [endsWord, Bool.and_eq_true, Bool.not_eq_true'] at ends
  cases word with
  | nil => cases isWord
  | cons d word =>
    have all := isWord
    simp only [Text.isIdentifierChars, Bool.and_eq_true, List.all_eq_true] at all
    obtain ⟨startWord, noDigit, noPoint⟩ := start_continue all.1
    have wordChars : ∀ e ∈ d :: word, isWordChar e = true := by
      intro e inside
      rcases List.mem_cons.1 inside with rfl | inside
      · exact startWord
      · exact continue_wordChar (all.2 e inside)
    have taken : (d :: word ++ c :: rest).takeWhile isWordChar = d :: word := by
      rw [List.takeWhile_append_of_pos wordChars, List.takeWhile_cons_of_neg (by simp [ends.1]),
        List.append_nil]
    have left : (d :: word ++ c :: rest).dropWhile isWordChar = c :: rest := by
      rw [List.dropWhile_append_of_pos wordChars, List.dropWhile_cons_of_neg (by simp [ends.1])]
    rw [List.cons_append] at taken left ⊢
    simp [token?, noDigit, noPoint, taken, left, ends.2, isWord]

theorem Reads.word {closers : List String} {word : String} (isWord : Text.isIdentifier word = true)
    {c : Char} (ends : endsWord c = true) (rest : List Char) :
    Reads closers (word.toList ++ c :: rest) [.word word] closers (c :: rest) := by
  have first := token_word isWord ends rest
  rw [String.ofList_toList] at first
  exact .token first rfl .done

/-- The first character of an identifier. -/
theorem identifier_head {word : String} (isWord : Text.isIdentifier word = true) :
    ∃ c more, word.toList = c :: more ∧ c.isDigit = false ∧ c ≠ '.' ∧ c ≠ '*' ∧ c ≠ '=' := by
  rw [Text.isIdentifier] at isWord
  cases same : word.toList with
  | nil =>
    rw [same] at isWord
    cases isWord
  | cons c more =>
    rw [same] at isWord
    obtain ⟨isWordChar_, noDigit, noPoint⟩ := start_continue (Bool.and_eq_true_iff.1 isWord).1
    exact ⟨c, more, rfl, noDigit, noPoint, by rintro rfl; revert isWordChar_; decide,
      by rintro rfl; revert isWordChar_; decide⟩

theorem identifier_wordChars {word : List Char} (isWord : Text.isIdentifierChars word = true) {c : Char}
    (inside : c ∈ word) : isWordChar c = true := by
  cases word with
  | nil => cases inside
  | cons d more =>
    obtain ⟨start, continues⟩ := Bool.and_eq_true_iff.1 isWord
    rcases List.mem_cons.1 inside with rfl | inside
    · exact (start_continue start).1
    · exact continue_wordChar (List.all_eq_true.1 continues c inside)

theorem identifier_clean {word : List Char} (isWord : Text.isIdentifierChars word = true) : isClean word = true :=
  isClean_iff.2 ⟨fun inside => absurd (identifier_wordChars isWord inside) (by decide),
    fun inside => absurd (identifier_wordChars isWord inside) (by decide)⟩

/-- A line may start with it. -/
theorem identifier_starts {word : String} (isWord : Text.isIdentifier word = true) :
    ∃ c more, word.toList = c :: more ∧ c ∉ spacing := by
  rw [Text.isIdentifier] at isWord
  cases same : word.toList with
  | nil =>
    rw [same] at isWord
    cases isWord
  | cons c more =>
    rw [same] at isWord
    obtain ⟨wordChar, _, _⟩ := start_continue (Bool.and_eq_true_iff.1 isWord).1
    refine ⟨c, more, rfl, fun blank => ?_⟩
    have plain := (by decide : ∀ c ∈ spacing, isWordChar c = false) c blank
    rw [plain] at wordChar
    cases wordChar

/-! ## Separators -/

section Separators

variable {closers : List String} {rest : List Char}

theorem Reads.openParenthesis : Reads closers ('(' :: rest) [.op "("] (")" :: closers) rest :=
  .token rfl rfl .done

theorem Reads.closeParenthesis : Reads (")" :: closers) (')' :: rest) [.op ")"] closers rest :=
  .token rfl rfl .done

theorem Reads.openBracket : Reads closers ('[' :: rest) [.op "["] ("]" :: closers) rest :=
  .token rfl rfl .done

theorem Reads.closeBracket : Reads ("]" :: closers) (']' :: rest) [.op "]"] closers rest :=
  .token rfl rfl .done

theorem Reads.comma : Reads closers (',' :: rest) [.op ","] closers rest := .token rfl rfl .done

theorem Reads.arrow : Reads closers ('-' :: '>' :: rest) [.op "->"] closers rest := .token rfl rfl .done

theorem Reads.space (more : List Char) : Reads closers (' ' :: more) [] closers more :=
  .blank rfl .done

theorem Reads.colon {c : Char} (differs : c ≠ '=') :
    Reads closers (':' :: c :: rest) [.op ":"] closers (c :: rest) := by
  have first : token? (':' :: c :: rest) = some (.op ":", c :: rest) := by
    simp [token?, operator?, operators, drop?, Ne.symm differs, isWordChar, isQuote]
  exact .token first rfl .done

theorem Reads.equals {c : Char} (differs : c ≠ '=') :
    Reads closers ('=' :: c :: rest) [.op "="] closers (c :: rest) := by
  have first : token? ('=' :: c :: rest) = some (.op "=", c :: rest) := by
    simp [token?, operator?, operators, drop?, Ne.symm differs, isWordChar, isQuote]
  exact .token first rfl .done

theorem Reads.star {c : Char} (noEquals : c ≠ '=') (noStar : c ≠ '*') :
    Reads closers ('*' :: c :: rest) [.op "*"] closers (c :: rest) := by
  have first : token? ('*' :: c :: rest) = some (.op "*", c :: rest) := by
    simp [token?, operator?, operators, drop?, Ne.symm noEquals, Ne.symm noStar, isWordChar, isQuote]
  exact .token first rfl .done

theorem Reads.twoStars {c : Char} (noEquals : c ≠ '=') :
    Reads closers ('*' :: '*' :: c :: rest) [.op "**"] closers (c :: rest) := by
  have first : token? ('*' :: '*' :: c :: rest) = some (.op "**", c :: rest) := by
    simp [token?, operator?, operators, drop?, Ne.symm noEquals, isWordChar, isQuote]
  exact .token first rfl .done

theorem token_point {c : Char} (noDigit : c.isDigit = false) (noPoint : c ≠ '.') :
    token? ('.' :: c :: rest) = some (.op ".", c :: rest) := by
  simp [token?, operator?, operators, drop?, Ne.symm noPoint, noDigit, isWordChar, isQuote]

theorem Reads.point {c : Char} (noDigit : c.isDigit = false) (noPoint : c ≠ '.') :
    Reads closers ('.' :: c :: rest) [.op "."] closers (c :: rest) :=
  .token (token_point noDigit noPoint) rfl .done

/-- A word of fixed letters in front of a blank. -/
theorem Reads.keyword (word : String) (isWord : Text.isIdentifier word = true) (more : List Char) :
    Reads closers (word.toList ++ ' ' :: more) [.word word] closers more := by
  simpa using (Reads.word isWord rfl more).append (Reads.space more)

/-- An attribute behind its point. -/
theorem Reads.member {name : String} (isWord : Text.isIdentifier name = true) {c : Char}
    (ends : endsWord c = true) (more : List Char) :
    Reads closers ('.' :: (name.toList ++ c :: more)) [.op ".", .word name] closers (c :: more) := by
  obtain ⟨d, rest, same, noDigit, noPoint, _⟩ := identifier_head isWord
  have behind : Reads closers _ _ _ _ := Reads.word isWord ends more
  rw [same] at behind ⊢
  exact (Reads.point noDigit noPoint).append behind

end Separators

/-! ## Dotted paths -/

/-- The tokens of names joined by points. -/
def dottedTokens : List String → List Token
  | [] => []
  | [name] => [.word name]
  | name :: rest => .word name :: .op "." :: dottedTokens rest

theorem splitPoints_join : ∀ text : List Char, ['.'].intercalate (Text.splitPoints text) = text
  | [] => rfl
  | c :: text => by
    have further := splitPoints_join text
    by_cases point : c = '.'
    · subst point
      obtain ⟨piece, pieces, split⟩ := List.exists_cons_of_ne_nil (Text.splitPoints_ne_nil text)
      rw [split] at further
      simp only [Text.splitPoints, split, List.intercalate_cons_cons, List.nil_append]
      rw [further]
      rfl
    · obtain ⟨piece, pieces, split⟩ := List.exists_cons_of_ne_nil (Text.splitPoints_ne_nil text)
      rw [split] at further
      have cut : Text.splitPoints (c :: text) = (c :: piece) :: pieces := by
        rw [Text.splitPoints, split]
        exact fun same => point same
      rw [cut, ← further]
      cases pieces <;> simp [List.intercalate]

private theorem reads_path {closers : List String} {c : Char} (ends : endsWord c = true)
    (rest : List Char) : ∀ {pieces : List (List Char)}, pieces ≠ [] →
      (∀ piece ∈ pieces, Text.isIdentifierChars piece = true) →
      Reads closers (['.'].intercalate pieces ++ c :: rest)
        (dottedTokens (pieces.map String.ofList)) closers (c :: rest)
  | [piece], _, names => by
    have first := token_word (names piece List.mem_cons_self) ends rest
    rw [List.intercalate_singleton]
    exact .token first rfl .done
  | piece :: next :: pieces, _, names => by
    have behind : ∀ other ∈ next :: pieces, Text.isIdentifierChars other = true :=
      fun other inside => names other (List.mem_cons_of_mem piece inside)
    have further : Reads closers _ _ _ _ := reads_path ends rest (by simp) behind
    have first := token_word (names piece List.mem_cons_self) (c := '.') rfl
      (['.'].intercalate (next :: pieces) ++ c :: rest)
    have tail : ∃ d more, ['.'].intercalate (next :: pieces) ++ c :: rest = d :: more ∧
        d.isDigit = false ∧ d ≠ '.' := by
      cases next with
      | nil => cases behind [] List.mem_cons_self
      | cons d next =>
        have start := Bool.and_eq_true_iff.1 (behind (d :: next) List.mem_cons_self)
        obtain ⟨_, noDigit, noPoint⟩ := start_continue start.1
        cases pieces <;> exact ⟨d, _, by simp [List.intercalate]; rfl, noDigit, noPoint⟩
    obtain ⟨d, more, same, noDigit, noPoint⟩ := tail
    rw [List.intercalate_cons_cons, List.append_assoc, List.append_assoc]
    refine .token first rfl ?_
    rw [same] at further ⊢
    exact (Reads.point noDigit noPoint).append further

private theorem path_pieces {path : String} (isPath : Text.isDottedPath path = true) :
    ∀ piece ∈ Text.splitPoints path.toList, Text.isIdentifierChars piece = true := by
  intro piece inside
  have := List.all_eq_true.1 isPath (String.ofList piece) (List.mem_map_of_mem inside)
  simpa [Text.isIdentifier] using Text.isName_isIdentifier this

/-- A dotted path. -/
theorem Reads.path {closers : List String} {path : String} (isPath : Text.isDottedPath path = true)
    {c : Char} (ends : endsWord c = true) (rest : List Char) :
    Reads closers (path.toList ++ c :: rest) (dottedTokens (Text.pathPieces path)) closers (c :: rest) := by
  have reads : Reads closers _ _ _ _ :=
    reads_path ends rest (Text.splitPoints_ne_nil path.toList) (path_pieces isPath)
  rwa [splitPoints_join] at reads

theorem path_clean {path : String} (isPath : Text.isDottedPath path = true) : isClean path.toList = true := by
  rw [← splitPoints_join path.toList]
  have names := path_pieces isPath
  generalize Text.splitPoints path.toList = pieces at names
  induction pieces with
  | nil => rfl
  | cons piece rest further =>
    have here := identifier_clean (names piece List.mem_cons_self)
    have behind := further fun other inside => names other (List.mem_cons_of_mem piece inside)
    cases rest with
    | nil => simpa [List.intercalate] using here
    | cons next rest =>
      rw [List.intercalate_cons_cons, isClean_append, isClean_append, here, behind]
      rfl

/-! ## Texts of expressions -/

private theorem equals_token {rest middle : List Char} {token : Token}
    (found : token? ('=' :: rest) = some (token, middle)) : token = .op "=" ∨ token = .op "==" := by
  cases rest with
  | nil =>
    have : token? ['='] = some (.op "=", []) := by decide
    rw [this] at found
    cases found
    exact .inl rfl
  | cons c rest =>
    by_cases second : c = '='
    · have : token? ('=' :: c :: rest) = some (.op "==", rest) := by
        simp [token?, operator?, operators, drop?, second, isWordChar, isQuote]
      rw [this] at found
      cases found
      exact .inr rfl
    · have : token? ('=' :: c :: rest) = some (.op "=", c :: rest) := by
        simp [token?, operator?, operators, drop?, Ne.symm second, isWordChar, isQuote]
      rw [this] at found
      cases found
      exact .inl rfl

/-- The first character of an expression. -/
theorem ReadsAs.head {text : String} {e : Expr} (reads : ReadsAs text e) :
    ∃ c more, text.toList = c :: more ∧ c ≠ '=' := by
  obtain ⟨first, tokens, same, starts⟩ := StandFor.starts reads.stands
  have here : Reads [] (text.toList ++ ')' :: []) _ _ _ := reads.reads (by decide) []
  rw [same] at here
  cases behind : text.toList with
  | nil =>
    rw [behind] at here
    cases here with
    | blank inline _ => cases inline
    | token found _ _ =>
      have closing : token? [')'] = some (.op ")", []) := by decide
      rw [List.nil_append, closing] at found
      cases found
      exact absurd rfl (starts ")" (by decide))
  | cons c more =>
    refine ⟨c, more, rfl, ?_⟩
    rintro rfl
    rw [behind] at here
    cases here with
    | blank inline _ => cases inline
    | token found _ _ =>
      rcases equals_token found with rfl | rfl
      · exact starts "=" (by decide) rfl
      · exact starts "==" (by decide) rfl

/-! ## Fixed texts -/

/-- A fixed text in front of a stop. -/
theorem Spells.fixed {text : String} {tokens : List Token} (spells : Spells text.toList tokens)
    (start : (text.toList.head?.map isInlineSpace).getD false = false) {closers : List String}
    {stop : Char} (isStop : stop ∈ stops) (more : List Char) :
    Reads closers (text.toList ++ stop :: more) tokens closers (stop :: more) := by
  simpa using (spells.reads start isStop more).within closers

end EachSubject.Source
