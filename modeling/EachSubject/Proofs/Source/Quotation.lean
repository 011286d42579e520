import EachSubject.Proofs.Source.Pieces
import EachSubject.Text.Quoted
import Mathlib.Algebra.Ring.Nat
import Mathlib.Data.List.Basic

/-!
# Quoted texts

A text in quotes is a single token, and reading it gives the text back: whatever stands for a character between the
quotes is one character, or a backslash with what is read as that character again.
-/

namespace EachSubject.Source

/-! ## Quoted texts -/

/-- The characters of escapes: ASCII, and nothing that ends a line. -/
private def IsEscapeChar (c : Char) : Prop := c ≠ nulCharacter ∧ c ≠ '\r' ∧ c ≠ '\n' ∧ c.toNat < 128

private theorem hexDigit_plain : ∀ n < 16, Text.hexDigit n ≠ '\\' ∧ Text.hexDigit n ≠ '\'' ∧
    Text.hexDigit n ≠ '"' ∧ IsEscapeChar (Text.hexDigit n) := by
  unfold IsEscapeChar
  decide

private theorem mem_paddedHex {width n : Nat} {c : Char} (inside : c ∈ Text.paddedHex width n) :
    ∃ k < 16, c = Text.hexDigit k := by
  induction width generalizing n with
  | zero => cases inside
  | succ width further =>
    rw [Text.paddedHex, List.mem_append, List.mem_singleton] at inside
    rcases inside with inside | rfl
    · exact further inside
    · exact ⟨n % 16, by omega, rfl⟩

private theorem escapePoint_chars {point : Nat} : ∀ c ∈ Text.escapePoint point, IsEscapeChar c := by
  have letters : ∀ c ∈ ['\\', 'x', 'u', 'U'], IsEscapeChar c := by
    unfold IsEscapeChar
    decide
  have escape {letter : Char} {width : Nat} (isLetter : letter ∈ ['\\', 'x', 'u', 'U']) :
      ∀ c ∈ '\\' :: letter :: Text.paddedHex width point, IsEscapeChar c := by
    intro c inside
    rcases List.mem_cons.1 inside with rfl | inside
    · exact letters _ (by decide)
    rcases List.mem_cons.1 inside with rfl | inside
    · exact letters _ isLetter
    · obtain ⟨k, small, rfl⟩ := mem_paddedHex inside
      exact (hexDigit_plain k small).2.2.2
  rw [Text.escapePoint]
  split
  · exact escape (by decide)
  split
  · exact escape (by decide)
  · exact escape (by decide)

private theorem charAt_toNat (c : Char) : charAt? c.toNat = some c := by
  have valid : c.toNat < 0xD800 ∨ 0xDFFF < c.toNat ∧ c.toNat < 0x110000 := c.valid
  rw [charAt?, if_neg (by omega), if_neg (by simp; omega), Char.ofNat_toNat]

private theorem hexEscape_paddedHex {width : Nat} {c : Char} (small : c.toNat < 16 ^ width) (rest : List Char) :
    hexEscape? width (Text.paddedHex width c.toNat ++ rest) = some (c, rest) := by
  have taken : (Text.paddedHex width c.toNat ++ rest).take width = Text.paddedHex width c.toNat :=
    List.take_left' (Text.length_paddedHex _ _)
  have left : (Text.paddedHex width c.toNat ++ rest).drop width = rest :=
    List.drop_left' (Text.length_paddedHex _ _)
  rw [hexEscape?]
  simp only [taken, left, Text.length_paddedHex, Text.hexNumber?_paddedHex small, Nat.lt_irrefl, if_false,
    Option.bind_eq_bind, Option.bind_some, charAt_toNat]

/-- May stand between quotes: it neither ends the text nor the line, and starts no escape. -/
private def Inert (quote c : Char) : Prop := c ≠ '\\' ∧ c ≠ '\n' ∧ c ≠ quote

private theorem paddedHex_inert {quote : Char} (quotes : isQuote quote = true) {width n : Nat} :
    ∀ c ∈ Text.paddedHex width n, Inert quote c := by
  intro c inside
  obtain ⟨k, small, rfl⟩ := mem_paddedHex inside
  obtain ⟨noBackslash, noSingle, noDouble, -, -, noNewline, -⟩ := hexDigit_plain k small
  refine ⟨noBackslash, noNewline, ?_⟩
  simp only [isQuote, Bool.or_eq_true, beq_iff_eq] at quotes
  rcases quotes with rfl | rfl
  · exact noSingle
  · exact noDouble

/-- An escape with hexadecimal digits: how many there are depends on the letter. Among bytes there is one such letter,
    which is enough for them. -/
private theorem escapePoint_eq (isBytes : Bool) (c : Char) (small : isBytes = true → c.toNat < 0x100) :
    ∃ letter width, letter ∈ ['x', 'u', 'U'] ∧ c.toNat < 16 ^ width ∧
      Text.escapePoint c.toNat = '\\' :: letter :: Text.paddedHex width c.toNat ∧
      ∀ rest, escape? isBytes (letter :: rest) = (hexEscape? width rest).map fun (d, rest) => ([d], rest) := by
  have valid : c.toNat < 0xD800 ∨ 0xDFFF < c.toNat ∧ c.toNat < 0x110000 := c.valid
  rw [Text.escapePoint]
  by_cases two : c.toNat < 0x100
  · exact ⟨'x', 2, by decide, by omega, if_pos two, fun _ => rfl⟩
  have isText : isBytes = false := Bool.eq_false_iff.2 fun isBytes => two (small isBytes)
  subst isText
  rw [if_neg two]
  by_cases four : c.toNat < 0x10000
  · exact ⟨'u', 4, by decide, by omega, if_pos four, fun _ => rfl⟩
  · exact ⟨'U', 8, by decide, by omega, if_neg four, fun _ => rfl⟩

/-- What stands between quotes is the character itself, which does not end a line, or made of the characters of
    escapes. -/
private theorem quotedChar_chars {quote : Char} (quotes : isQuote quote = true) (c : Char) :
    ∀ e ∈ Text.quotedChar quote c, IsEscapeChar e ∨ e = c ∧ e ≠ nulCharacter ∧ e ≠ '\r' ∧ e ≠ '\n' := by
  have letters : ∀ e ∈ ['\\', 't', 'n', 'r', '\'', '"'], IsEscapeChar e := by
    unfold IsEscapeChar
    decide
  intro e inside
  rw [Text.quotedChar] at inside
  split at inside
  · rename_i special
    simp only [Bool.or_eq_true, decide_eq_true_eq] at special
    simp only [isQuote, Bool.or_eq_true, beq_iff_eq] at quotes
    refine .inl (letters e ?_)
    rcases List.mem_cons.1 inside with rfl | inside
    · decide
    · rw [List.mem_singleton.1 inside]
      rcases special with rfl | rfl
      · rcases quotes with rfl | rfl <;> decide
      · decide
  split at inside
  · exact .inl (letters e (by revert inside; revert e; decide))
  split at inside
  · exact .inl (letters e (by revert inside; revert e; decide))
  rename_i noNewline
  split at inside
  · exact .inl (letters e (by revert inside; revert e; decide))
  rename_i noReturn
  split at inside
  · rename_i printable
    rw [List.mem_singleton.1 inside]
    refine .inr ⟨rfl, ?_, noReturn, noNewline⟩
    rintro rfl
    exact absurd printable (by decide +kernel)
  · exact .inl (escapePoint_chars e inside)

/-- What stands between quotes holds neither the character that no module holds nor what ends a line. -/
private theorem quotedChar_noControl {quote : Char} (quotes : isQuote quote = true) (c : Char) :
    ∀ e ∈ Text.quotedChar quote c, e ≠ nulCharacter ∧ e ≠ '\r' ∧ e ≠ '\n' := by
  intro e inside
  rcases quotedChar_chars quotes c e inside with ⟨noNul, noReturn, noNewline, -⟩ | ⟨-, plain⟩
  · exact ⟨noNul, noReturn, noNewline⟩
  · exact plain

private theorem byteChar_toNat (byte : UInt8) : (Char.ofNat byte.toNat).toNat = byte.toNat := by
  have small : byte.toNat < 256 := byte.toNat_lt
  have valid : byte.toNat.isValidChar := .inl (by omega)
  rw [Char.ofNat, dif_pos valid]
  rfl

/-- What stands between quotes for a byte is made of the characters of escapes, too. -/
private theorem quotedByte_chars {quote : Char} (quotes : isQuote quote = true) (byte : UInt8) :
    ∀ e ∈ Text.quotedByte quote byte, IsEscapeChar e := by
  intro e inside
  rw [Text.quotedByte] at inside
  split at inside
  · rename_i ascii
    rcases quotedChar_chars quotes _ e inside with escape | ⟨rfl, noNul, noReturn, noNewline⟩
    · exact escape
    · refine ⟨noNul, noReturn, noNewline, ?_⟩
      rwa [byteChar_toNat]
  · exact escapePoint_chars e inside

/-- What stands between such quotes for a character: the character itself, or an escape that is read as it. -/
private def StandsFor (isBytes : Bool) (quote : Char) (text : List Char) (c : Char) : Prop :=
  (text = [c] ∧ Inert quote c) ∨ ∃ d more, text = '\\' :: d :: more ∧ (∀ e ∈ more, Inert quote e) ∧
    ∀ rest, escape? isBytes (d :: more ++ rest) = some ([c], rest)

private theorem quotedChar_standsFor {quote : Char} (quotes : isQuote quote = true) (isBytes : Bool) (c : Char)
    (small : isBytes = true → c.toNat < 0x100) : StandsFor isBytes quote (Text.quotedChar quote c) c := by
  by_cases special : (decide (c = quote) || decide (c = '\\')) = true
  · refine .inr ⟨c, [], by rw [Text.quotedChar, if_pos special], by simp, fun rest => ?_⟩
    simp only [Bool.or_eq_true, decide_eq_true_eq] at special
    simp only [isQuote, Bool.or_eq_true, beq_iff_eq] at quotes
    rcases special with rfl | rfl
    · rcases quotes with rfl | rfl <;> cases isBytes <;> rfl
    · cases isBytes <;> rfl
  · rw [Text.quotedChar, if_neg special]
    simp only [Bool.or_eq_true, decide_eq_true_eq, not_or] at special
    by_cases tab : c = '\t'
    · exact .inr ⟨'t', [], if_pos tab, by simp, fun rest => by rw [tab]; cases isBytes <;> rfl⟩
    rw [if_neg tab]
    by_cases newline : c = '\n'
    · exact .inr ⟨'n', [], if_pos newline, by simp, fun rest => by rw [newline]; cases isBytes <;> rfl⟩
    rw [if_neg newline]
    by_cases back : c = '\r'
    · exact .inr ⟨'r', [], if_pos back, by simp, fun rest => by rw [back]; cases isBytes <;> rfl⟩
    rw [if_neg back]
    by_cases printable : Text.isPrintable c = true
    · exact .inl ⟨if_pos printable, special.2, newline, special.1⟩
    obtain ⟨letter, width, _, short, shown, reads⟩ := escapePoint_eq isBytes c small
    refine .inr ⟨letter, _, (if_neg printable).trans shown, paddedHex_inert quotes, fun rest => ?_⟩
    rw [List.cons_append, reads, hexEscape_paddedHex short]
    rfl

private theorem StandsFor.begins {isBytes : Bool} {quote : Char} (quotes : isQuote quote = true) {text : List Char}
    {c : Char} (stands : StandsFor isBytes quote text c) : ∃ d more, text = d :: more ∧ d ≠ quote := by
  rcases stands with ⟨rfl, inert⟩ | ⟨d, more, rfl, _⟩
  · exact ⟨c, [], rfl, inert.2.2⟩
  · refine ⟨'\\', _, rfl, ?_⟩
    rintro rfl
    cases quotes

private theorem shortString_inert {quote c : Char} (inert : Inert quote c) (rest : List Char) :
    shortString? quote (c :: rest) = (shortString? quote rest).map fun (body, rest) => (c :: body, rest) := by
  obtain ⟨noBackslash, noNewline, noQuote⟩ := inert
  rw [shortString?]
  · simp [noNewline, noBackslash, noQuote]
  · exact fun _ _ same _ => noBackslash same

private theorem shortString_inerts {quote : Char} (rest : List Char) : ∀ {body : List Char},
    (∀ c ∈ body, Inert quote c) → shortString? quote (body ++ rest) =
      (shortString? quote rest).map fun (more, rest) => (body ++ more, rest)
  | [], _ => by
    rw [List.nil_append]
    cases shortString? quote rest <;> rfl
  | c :: body, inert => by
    rw [List.cons_append, shortString_inert (inert c List.mem_cons_self),
      shortString_inerts rest fun d inside => inert d (List.mem_cons_of_mem c inside)]
    cases shortString? quote rest <;> rfl

section

variable {α : Type} {isBytes : Bool} {quote : Char} {shown : α → List Char} {char : α → Char}

/-- A string between single quotes ends where what it stands for does. -/
private theorem shortString_quoted (quotes : isQuote quote = true) (stands : ∀ x, StandsFor isBytes quote (shown x) (char x))
    (rest : List Char) : ∀ xs : List α,
      shortString? quote (xs.flatMap shown ++ quote :: rest) = some (xs.flatMap shown, rest)
  | [] => by
    rw [List.flatMap_nil, List.nil_append, shortString?]
    · simp only [isQuote, Bool.or_eq_true, beq_iff_eq] at quotes
      rcases quotes with rfl | rfl <;> rfl
    · rintro _ _ rfl _
      cases quotes
  | x :: xs => by
    have further := shortString_quoted quotes stands rest xs
    rw [List.flatMap_cons, List.append_assoc]
    rcases stands x with ⟨plain, inert⟩ | ⟨d, more, escape, inert, _⟩
    · rw [plain, List.singleton_append, shortString_inert inert, further]
      rfl
    · rw [escape, List.cons_append, List.cons_append, shortString?, shortString_inerts _ inert, further]
      rfl

private theorem unescape_quoted (stands : ∀ x, StandsFor isBytes quote (shown x) (char x)) :
    ∀ {xs : List α} {fuel : Nat}, (xs.flatMap shown).length ≤ fuel →
      unescape? isBytes fuel (xs.flatMap shown) = some (xs.map char)
  | [], _, _ => by rw [List.flatMap_nil, unescape?, List.map_nil]
  | x :: xs, fuel, enough => by
    rw [List.flatMap_cons, List.length_append] at enough
    rw [List.flatMap_cons]
    rcases stands x with ⟨plain, inert⟩ | ⟨d, more, escape, _, reads⟩
    · rw [plain] at enough ⊢
      obtain ⟨left, rfl⟩ := Nat.exists_eq_add_of_le' (show 1 ≤ fuel by rw [List.length_singleton] at enough; omega)
      rw [List.length_singleton] at enough
      rw [List.singleton_append, unescape?, unescape_quoted stands (by omega)]
      · rfl
      · exact fun same => inert.1 same
    · rw [escape] at enough ⊢
      obtain ⟨left, rfl⟩ := Nat.exists_eq_add_of_le' (show 1 ≤ fuel by rw [List.length_cons] at enough; omega)
      rw [List.length_cons, List.length_cons] at enough
      have behind : unescape? isBytes left (xs.flatMap shown) = some (xs.map char) := unescape_quoted stands (by omega)
      rw [List.cons_append, unescape?, reads]
      simp only [Option.bind_eq_bind, Option.bind_some, behind]
      rfl

private theorem quotedBody_quoted (quotes : isQuote quote = true) (stands : ∀ x, StandsFor isBytes quote (shown x) (char x))
    {c : Char} (noQuote : isQuote c = false) (rest : List Char) (xs : List α) :
    quotedBody? (quote :: (xs.flatMap shown ++ quote :: c :: rest)) = some (xs.flatMap shown, c :: rest) := by
  have differ : c ≠ quote := by
    rintro rfl
    rw [quotes] at noQuote
    cases noQuote
  cases xs with
  | nil => simp [quotedBody?, differ]
  | cons x xs =>
    have short := shortString_quoted quotes stands (c :: rest) (x :: xs)
    -- The first character between the quotes is not the quote, so that the text is no long one.
    obtain ⟨r, more, body, noQuote⟩ : ∃ r more, (x :: xs).flatMap shown = r :: more ∧ r ≠ quote := by
      obtain ⟨r, more, begins, differs⟩ := (stands x).begins quotes
      exact ⟨r, _, by rw [List.flatMap_cons, begins]; rfl, differs⟩
    rw [body] at short ⊢
    obtain ⟨s, behind, same⟩ : ∃ s behind, more ++ quote :: c :: rest = s :: behind :=
      List.exists_cons_of_ne_nil (by simp)
    rw [List.cons_append, same] at short ⊢
    simp [quotedBody?, noQuote, short]

end

private theorem quoteFor_quotes (text : List Char) : isQuote (Text.quoteFor text) = true := by
  rw [Text.quoteFor]
  split <;> rfl

private theorem quotedText_standsFor {quote : Char} (quotes : isQuote quote = true) (c : Char) :
    StandsFor false quote (Text.quotedChar quote c) (id c) :=
  quotedChar_standsFor quotes false c fun impossible => by cases impossible

/-- The token of a quoted text. -/
def quotedToken (text : List Char) : StringToken :=
  .ofMark [] (text.flatMap (Text.quotedChar (Text.quoteFor text)))

private theorem quote_plain {quote : Char} (quotes : isQuote quote = true) : quote.isDigit = false ∧
    (quote == '.') = false ∧ isWordChar quote = false ∧ quote ≠ nulCharacter ∧ quote ≠ '\r' ∧ quote ≠ '\n' := by
  simp only [isQuote, Bool.or_eq_true, beq_iff_eq] at quotes
  rcases quotes with rfl | rfl <;> decide

/-- A quoted text is a single token. -/
theorem token_quoted (text : List Char) {c : Char} (noQuote : isQuote c = false) (rest : List Char) :
    token? (Text.quotedChars text ++ c :: rest) = some (.string (quotedToken text), c :: rest) := by
  have quotes := quoteFor_quotes text
  have body := quotedBody_quoted quotes (quotedText_standsFor quotes) noQuote rest text
  have plain := quote_plain quotes
  rw [Text.quotedChars, quotedToken]
  generalize Text.quoteFor text = quote at quotes body plain
  have whole : quote :: text.flatMap (Text.quotedChar quote) ++ [quote] ++ c :: rest =
      quote :: (text.flatMap (Text.quotedChar quote) ++ quote :: c :: rest) := by simp
  rw [whole]
  simp [token?, plain, quotes, stringMarks, body]

/-- The body of a quoted text stands for the text. -/
theorem bodyText_quoted (text : List Char) :
    bodyText? (quotedToken text).isRaw (quotedToken text).body = some text := by
  have stands := quotedText_standsFor (quoteFor_quotes text)
  exact (unescape_quoted stands (Nat.le_refl _)).trans (by rw [List.map_id])

/-! ## Quoted bytes -/

/-- A byte stands for the character with its number. -/
private theorem quotedByte_standsFor {quote : Char} (quotes : isQuote quote = true) (isBytes : Bool) (byte : UInt8) :
    StandsFor isBytes quote (Text.quotedByte quote byte) (Char.ofNat byte.toNat) := by
  have number := byteChar_toNat byte
  have small : (Char.ofNat byte.toNat).toNat < 0x100 := by
    rw [number]
    exact byte.toNat_lt
  rw [Text.quotedByte]
  by_cases ascii : byte.toNat < 128
  · rw [if_pos ascii]
    exact quotedChar_standsFor quotes isBytes _ fun _ => small
  · rw [if_neg ascii]
    obtain ⟨letter, width, _, short, shown, reads⟩ := escapePoint_eq isBytes (Char.ofNat byte.toNat) fun _ => small
    rw [← number]
    refine .inr ⟨letter, _, shown, paddedHex_inert quotes, fun rest => ?_⟩
    rw [List.cons_append, reads, hexEscape_paddedHex short, Char.ofNat_toNat]
    rfl

/-- The token of quoted bytes. -/
def bytesToken (bytes : List UInt8) : StringToken :=
  .ofMark ['b'] (bytes.flatMap (Text.quotedByte (Text.quoteFor (bytes.map fun byte => Char.ofNat byte.toNat))))

/-- So are quoted bytes a single token. -/
theorem token_quotedBytes (bytes : List UInt8) {c : Char} (noQuote : isQuote c = false) (rest : List Char) :
    token? ((Text.quotedBytes bytes).toList ++ c :: rest) = some (.string (bytesToken bytes), c :: rest) := by
  have quotes := quoteFor_quotes (bytes.map fun byte => Char.ofNat byte.toNat)
  have body := quotedBody_quoted quotes (quotedByte_standsFor quotes true) noQuote rest bytes
  have plain := quote_plain quotes
  rw [Text.quotedBytes, bytesToken, String.toList_ofList]
  generalize Text.quoteFor (bytes.map fun byte => Char.ofNat byte.toNat) = quote at quotes body plain
  have whole : 'b' :: quote :: bytes.flatMap (Text.quotedByte quote) ++ [quote] ++ c :: rest =
      'b' :: quote :: (bytes.flatMap (Text.quotedByte quote) ++ quote :: c :: rest) := by simp
  have mark : isWordChar 'b' = true := by decide
  have noDigit : 'b'.isDigit = false := by decide
  rw [whole]
  simp [token?, plain, quotes, stringMarks, body, mark, noDigit]

/-- The body of quoted bytes stands for the bytes. -/
theorem bodyBytes_quoted (bytes : List UInt8) :
    bodyBytes? (bytesToken bytes).isRaw (bytesToken bytes).body = some bytes := by
  have quotes := quoteFor_quotes (bytes.map fun byte => Char.ofNat byte.toNat)
  have ascii : (bytesToken bytes).body.any (fun c => decide (128 ≤ c.toNat)) = false := by
    refine List.any_eq_false.2 fun c inside => ?_
    obtain ⟨byte, -, inside⟩ := List.mem_flatMap.1 inside
    have := (quotedByte_chars quotes byte c inside).2.2.2
    simpa using this
  have read : unescape? true (bytesToken bytes).body.length (bytesToken bytes).body =
      some (bytes.map fun byte => Char.ofNat byte.toNat) :=
    unescape_quoted (quotedByte_standsFor quotes true) (Nat.le_refl _)
  have numbers : (bytes.map fun byte => Char.ofNat byte.toNat).map (fun c => UInt8.ofNat c.toNat) = bytes := by
    rw [List.map_map]
    conv_rhs => rw [← List.map_id bytes]
    refine List.map_congr_left fun byte _ => ?_
    simp [byteChar_toNat]
  rw [bodyBytes?, ascii, if_neg Bool.false_ne_true]
  change (unescape? true _ _).map _ = _
  rw [read, Option.map_some, numbers]

/-! ## Reading them off -/

private theorem StandsFor.readOff {quote : Char} {text other rest behind : List Char} {c d : Char}
    (stands : StandsFor false quote text c) (otherStands : StandsFor false quote other d) (same : text ++ rest = other ++ behind) :
    c = d ∧ rest = behind := by
  rcases stands with ⟨rfl, inert⟩ | ⟨e, more, rfl, _, reads⟩
  · rcases otherStands with ⟨rfl, _⟩ | ⟨_, _, rfl, _⟩
    · exact List.cons.inj same
    · exact absurd (List.cons.inj same).1 inert.1
  · rcases otherStands with ⟨rfl, inert⟩ | ⟨f, others, rfl, _, otherReads⟩
    · exact absurd (List.cons.inj same).1.symm inert.1
    · have read := reads rest
      rw [show e :: more ++ rest = f :: others ++ behind from (List.cons.inj same).2, otherReads] at read
      cases read
      exact ⟨rfl, rfl⟩

/-- What stands between two quotes of one kind is read off up to the second one. -/
private theorem body_readOff {α : Type} {quote : Char} (quotes : isQuote quote = true) {shown : α → List Char}
    {char : α → Char} (injective : Function.Injective char) (stands : ∀ x, StandsFor false quote (shown x) (char x))
    {rest behind : List Char} : ∀ {xs ys : List α},
      xs.flatMap shown ++ quote :: rest = ys.flatMap shown ++ quote :: behind → xs = ys ∧ rest = behind
  | [], [], same => ⟨rfl, (List.cons.inj same).2⟩
  | [], y :: ys, same => by
    obtain ⟨d, more, begins, differs⟩ := (stands y).begins quotes
    rw [List.flatMap_cons, begins] at same
    exact absurd (List.cons.inj same).1.symm differs
  | x :: xs, [], same => by
    obtain ⟨d, more, begins, differs⟩ := (stands x).begins quotes
    rw [List.flatMap_cons, begins] at same
    exact absurd (List.cons.inj same).1 differs
  | x :: xs, y :: ys, same => by
    rw [List.flatMap_cons, List.flatMap_cons, List.append_assoc, List.append_assoc] at same
    obtain ⟨first, same⟩ := (stands x).readOff (stands y) same
    obtain ⟨further, left⟩ := body_readOff quotes injective stands same
    exact ⟨by rw [injective first, further], left⟩

/-- A quoted text can be read off, whatever comes behind it. -/
theorem quotedChars_readOff {text other rest behind : List Char}
    (same : Text.quotedChars text ++ rest = Text.quotedChars other ++ behind) : text = other ∧ rest = behind := by
  have quotes := quoteFor_quotes text
  have sameQuote : Text.quoteFor text = Text.quoteFor other := (List.cons.inj same).1
  rw [Text.quotedChars, Text.quotedChars, ← sameQuote, List.cons_append, List.cons_append, List.cons_append,
    List.cons_append, List.append_assoc, List.append_assoc] at same
  exact body_readOff quotes (fun _ _ same => same) (quotedText_standsFor quotes) (List.cons.inj same).2

/-- So can quoted bytes. -/
theorem quotedBytes_readOff {bytes other : List UInt8} {rest behind : List Char}
    (same : (Text.quotedBytes bytes).toList ++ rest = (Text.quotedBytes other).toList ++ behind) :
    bytes = other ∧ rest = behind := by
  have injective : Function.Injective fun byte : UInt8 => Char.ofNat byte.toNat := by
    intro byte other same
    have numbers := congrArg Char.toNat same
    simp only [byteChar_toNat] at numbers
    exact UInt8.toNat_inj.1 numbers
  have quotes := quoteFor_quotes (bytes.map fun byte => Char.ofNat byte.toNat)
  simp only [Text.quotedBytes, String.toList_ofList, List.cons_append, List.append_assoc, List.cons.injEq,
    true_and] at same
  obtain ⟨sameQuote, same⟩ := same
  rw [← sameQuote] at same
  exact body_readOff quotes injective (quotedByte_standsFor quotes false) same

/-! ## Lines -/

theorem quotedChars_inline (text : List Char) : isInline (Text.quotedChars text) = true := by
  have quotes := quoteFor_quotes text
  have all : ∀ e ∈ Text.quotedChars text, e ≠ nulCharacter ∧ e ≠ '\r' ∧ e ≠ '\n' := by
    intro e inside
    rw [Text.quotedChars] at inside
    simp only [List.mem_append, List.mem_cons, List.mem_flatMap, List.not_mem_nil, or_false] at inside
    rcases inside with (rfl | ⟨c, _, inside⟩) | rfl
    · exact (quote_plain quotes).2.2.2
    · exact quotedChar_noControl quotes c e inside
    · exact (quote_plain quotes).2.2.2
  refine List.all_eq_true.2 fun e inside => ?_
  simpa [and_assoc] using all e inside

theorem quotedBytes_inline (bytes : List UInt8) : isInline (Text.quotedBytes bytes).toList = true := by
  have quotes := quoteFor_quotes (bytes.map fun byte => Char.ofNat byte.toNat)
  have all : ∀ e ∈ (Text.quotedBytes bytes).toList, e ≠ nulCharacter ∧ e ≠ '\r' ∧ e ≠ '\n' := by
    intro e inside
    rw [Text.quotedBytes, String.toList_ofList] at inside
    simp only [List.mem_append, List.mem_cons, List.mem_flatMap, List.not_mem_nil, or_false] at inside
    rcases inside with (rfl | rfl | ⟨byte, _, inside⟩) | rfl
    · decide
    · exact (quote_plain quotes).2.2.2
    · obtain ⟨noNul, noReturn, noNewline, -⟩ := quotedByte_chars quotes byte e inside
      exact ⟨noNul, noReturn, noNewline⟩
    · exact (quote_plain quotes).2.2.2
  refine List.all_eq_true.2 fun e inside => ?_
  simpa [and_assoc] using all e inside

end EachSubject.Source
