import EachSubject.Hint.Printer
import EachSubject.Proofs.Outcome
import EachSubject.Proofs.Source.Quotation
import Mathlib.Data.List.Basic
import Mathlib.Data.List.Forall2
import Std.Data.String.ToInt

/-!
# Reading a constant off its text

An item can be read off a text if no other item is written in the same way up to a place where items may stop. Then a
list of such items can be read off too, as long as what comes behind the list does not look like a separator.

The constants of a literal type are written without quotes, as texts in quotes or as bytes. The first character tells
which of the three it is. What is written without quotes goes on up to a comma or the closing bracket; a text and bytes
go on up to their own closing quote.
-/

namespace EachSubject

/-! ## Words that can be read off -/

/-- A word goes on up to the first character that stands in no word. -/
theorem word_readOff {inWord : Char → Bool} {word other rest behind : List Char}
    (isWord : ∀ c ∈ word, inWord c = true) (isOther : ∀ c ∈ other, inWord c = true)
    (ends : ∀ c ∈ rest.head?, inWord c = false) (otherEnds : ∀ c ∈ behind.head?, inWord c = false)
    (same : word ++ rest = other ++ behind) : word = other ∧ rest = behind := by
  induction word generalizing other with
  | nil =>
    cases other with
    | nil => exact ⟨rfl, same⟩
    | cons d other =>
      rw [List.nil_append] at same
      have outside := ends d (by rw [same]; rfl)
      rw [isOther d List.mem_cons_self] at outside
      cases outside
  | cons c word ih =>
    cases other with
    | nil =>
      rw [List.nil_append] at same
      have outside := otherEnds c (by rw [← same]; rfl)
      rw [isWord c List.mem_cons_self] at outside
      cases outside
    | cons d other =>
      obtain ⟨first, further⟩ := List.cons.inj same
      obtain ⟨sameWord, left⟩ := ih (fun e inside => isWord e (List.mem_cons_of_mem c inside))
        (fun e inside => isOther e (List.mem_cons_of_mem d inside)) further
      exact ⟨by rw [first, sameWord], left⟩

/-- Texts that begin with different characters differ, whatever stands behind them. -/
theorem append_ne_of_begins {c d : Char} {text other more others : List Char} (begins : text = c :: more)
    (otherBegins : other = d :: others) (differ : c ≠ d) (rest behind : List Char) :
    text ++ rest ≠ other ++ behind := by
  rw [begins, otherBegins]
  exact fun same => differ (List.cons.inj same).1

/-! ## Items that can be read off -/

section

variable {α : Type} (Writes : α → List Char → Prop) (Same : α → α → Prop) (Stops : List Char → Prop)

/-- Whatever is written as the item is, up to where both may stop, is the same and stops there too. -/
def ReadsOff (x : α) : Prop :=
  ∀ ⦃y : α⦄ ⦃t u rest behind : List Char⦄, Writes x t → Writes y u → Stops rest → Stops behind →
    t ++ rest = u ++ behind → Same x y ∧ rest = behind

variable {Writes Same Stops} {separator : List Char} {xs ys : List α} {ts us : List (List Char)}
  {rest behind : List Char}

/-- Items with a separator between them. -/
theorem ReadsOff.separated (between : ∀ rest, Stops (separator ++ rest)) (each : ∀ x ∈ xs, ReadsOff Writes Same Stops x)
    (written : List.Forall₂ Writes xs ts) (otherWritten : List.Forall₂ Writes ys us) (some : xs ≠ []) (others : ys ≠ [])
    (stops : Stops rest) (otherStops : Stops behind) (ends : ∀ more, rest ≠ separator ++ more)
    (otherEnds : ∀ more, behind ≠ separator ++ more)
    (same : separator.intercalate ts ++ rest = separator.intercalate us ++ behind) :
    List.Forall₂ Same xs ys ∧ rest = behind := by
  induction written generalizing ys us with
  | nil => exact absurd rfl some
  | @cons x t xs ts first further ih =>
    cases otherWritten with
    | nil => exact absurd rfl others
    | @cons y u ys us otherFirst otherFurther =>
      have readsOff := each x List.mem_cons_self
      cases further with
      | nil =>
        rw [List.intercalate_singleton] at same
        cases otherFurther with
        | nil =>
          rw [List.intercalate_singleton] at same
          obtain ⟨alike, left⟩ := readsOff first otherFirst stops otherStops same
          exact ⟨.cons alike .nil, left⟩
        | cons _ _ =>
          rw [List.intercalate_cons_cons, List.append_assoc, List.append_assoc] at same
          exact absurd (readsOff first otherFirst stops (between _) same).2 (ends _)
      | @cons x' t' xs ts second further =>
        rw [List.intercalate_cons_cons, List.append_assoc, List.append_assoc] at same
        cases otherFurther with
        | nil =>
          rw [List.intercalate_singleton] at same
          exact absurd (readsOff first otherFirst (between _) otherStops same).2.symm (otherEnds _)
        | cons otherSecond otherFurther =>
          rw [List.intercalate_cons_cons, List.append_assoc, List.append_assoc] at same
          obtain ⟨alike, same⟩ := readsOff first otherFirst (between _) (between _) same
          obtain ⟨others, left⟩ := ih (fun x inside => each x (List.mem_cons_of_mem _ inside))
            (.cons otherSecond otherFurther) (List.cons_ne_nil _ _) (List.cons_ne_nil _ _)
            (List.append_cancel_left same)
          exact ⟨.cons alike others, left⟩

/-- Any number of items with a separator between them, up to a character that neither starts an item nor a
    separator. -/
theorem ReadsOff.enclosed {closer : Char} (between : ∀ rest, Stops (separator ++ rest))
    (closes : ∀ rest, Stops (closer :: rest)) (apart : ∀ rest more, closer :: rest ≠ separator ++ more)
    (begins : ∀ y u, Writes y u → ∃ c more, u = c :: more ∧ c ≠ closer) (each : ∀ x ∈ xs, ReadsOff Writes Same Stops x)
    (written : List.Forall₂ Writes xs ts) (otherWritten : List.Forall₂ Writes ys us)
    (same : separator.intercalate ts ++ closer :: rest = separator.intercalate us ++ closer :: behind) :
    List.Forall₂ Same xs ys ∧ rest = behind := by
  have starts : ∀ {y : α} {u : List Char} {us : List (List Char)}, Writes y u → ∀ rest more,
      closer :: rest ≠ separator.intercalate (u :: us) ++ more := by
    intro y u us isWritten rest more same
    obtain ⟨c, further, rfl, differs⟩ := begins y u isWritten
    cases us with
    | nil =>
      rw [List.intercalate_singleton] at same
      exact differs (List.cons.inj same).1.symm
    | cons _ _ =>
      rw [List.intercalate_cons_cons, List.append_assoc] at same
      exact differs (List.cons.inj same).1.symm
  cases written with
  | nil =>
    cases otherWritten with
    | nil => exact ⟨.nil, (List.cons.inj same).2⟩
    | cons otherFirst _ => exact absurd same (starts otherFirst rest _)
  | cons first further =>
    cases otherWritten with
    | nil => exact absurd same.symm (starts first behind _)
    | cons otherFirst otherFurther =>
      obtain ⟨alike, left⟩ := ReadsOff.separated between each (.cons first further) (.cons otherFirst otherFurther)
        (List.cons_ne_nil _ _) (List.cons_ne_nil _ _) (closes rest) (closes behind) (apart rest) (apart behind) same
      exact ⟨alike, (List.cons.inj left).2⟩

end

end EachSubject

namespace EachSubject.Hint

/-! ## Constants and their texts -/

/-- May stand in a literal type. -/
inductive IsConstant : Value → Prop where
  | none : IsConstant .none
  | bool (value : Bool) : IsConstant (.bool value)
  | int (place : Nat) (value : Int) : IsConstant (.int place value)
  | text (place : Nat) (value : String) : IsConstant (.text place value)
  | bytes (place : Nat) (value : List UInt8) : IsConstant (.bytes place value)

/-- The same constant, wherever it was made. -/
inductive SameConstant : Value → Value → Prop where
  | none : SameConstant .none .none
  | bool (value : Bool) : SameConstant (.bool value) (.bool value)
  | int (place other : Nat) (value : Int) : SameConstant (.int place value) (.int other value)
  | text (place other : Nat) (value : String) : SameConstant (.text place value) (.text other value)
  | bytes (place other : Nat) (value : List UInt8) : SameConstant (.bytes place value) (.bytes other value)

/-- A constant and its text. -/
def WritesConstant (value : Value) (chars : List Char) : Prop :=
  IsConstant value ∧ ∃ text, shownText value = .ok text ∧ text.toList = chars

/-- A constant that is written without quotes. -/
inductive WrittenAs : Value → String → Prop where
  | none : WrittenAs .none "None"
  | bool (value : Bool) : WrittenAs (.bool value) (if value then "True" else "False")
  | int (place : Nat) (value : Int) : WrittenAs (.int place value) (toString value)

private theorem int_chars (n : Int) : ∀ c ∈ (toString n).toList, c = '-' ∨ c.isDigit = true := by
  have digits : ∀ m : Nat, ∀ c ∈ m.repr.toList, c.isDigit = true := by
    intro m c inside
    rw [Nat.repr_eq_ofList_toDigits, String.toList_ofList] at inside
    exact Nat.isDigit_of_mem_toDigits (by decide) (by decide) inside
  intro c inside
  rw [Int.toString_eq_repr, Int.repr_eq_if] at inside
  by_cases positive : 0 ≤ n
  · rw [if_pos positive] at inside
    exact .inr (digits _ c inside)
  · rw [if_neg positive, String.toList_append, List.mem_append] at inside
    rcases inside with inside | inside
    · exact .inl (List.mem_singleton.1 inside)
    · exact .inr (digits _ c inside)

/-- No number is written with a letter, as all the other words are. -/
private theorem int_ne {n : Int} {word : String} (letter : 'e' ∈ word.toList) : toString n ≠ word := by
  rintro rfl
  rcases int_chars n 'e' letter with isSign | isDigit
  · exact absurd isSign (by decide)
  · exact absurd isDigit (by decide)

/-- Constants that are written in the same way without quotes are the same. -/
private theorem WrittenAs.sameConstant {value other : Value} {word : String} (first : WrittenAs value word)
    (second : WrittenAs other word) : SameConstant value other := by
  generalize isWord : word = again at second
  cases first with
  | none =>
    cases second with
    | none => exact .none
    | bool b => cases b <;> exact absurd isWord (by decide)
    | int place n => exact absurd isWord.symm (int_ne (by decide))
  | bool b =>
    cases second with
    | none => cases b <;> exact absurd isWord (by decide)
    | bool b' => cases b <;> cases b' <;> first | exact .bool _ | exact absurd isWord (by decide)
    | int place n => cases b <;> exact absurd isWord.symm (int_ne (by decide))
  | int place n =>
    cases second with
    | none => exact absurd isWord (int_ne (by decide))
    | bool b => cases b <;> exact absurd isWord (int_ne (by decide))
    | int place' n' =>
      cases Int.repr_inj.1 isWord
      exact .int place place' n

private theorem int_nonempty (n : Int) : (toString n).toList ≠ [] := by
  rw [Int.toString_eq_repr, Int.repr_eq_if]
  by_cases positive : 0 ≤ n
  · rw [if_pos positive, Nat.repr_eq_ofList_toDigits, String.toList_ofList]
    exact Nat.toDigits_ne_nil
  · rw [if_neg positive, String.toList_append]
    exact List.cons_ne_nil _ _

/-- Such a constant holds nothing that ends it, and starts with neither a quote nor the mark of bytes. -/
private theorem WrittenAs.chars {value : Value} {word : String} (written : WrittenAs value word) :
    (∀ c ∈ word.toList, c ≠ ',' ∧ c ≠ ']') ∧ ∃ c more, word.toList = c :: more ∧ c ∉ ['\'', '"', 'b'] := by
  cases written with
  | none => exact ⟨by decide, 'N', _, rfl, by decide⟩
  | bool b =>
    cases b with
    | true => exact ⟨by decide, 'T', _, rfl, by decide⟩
    | false => exact ⟨by decide, 'F', _, rfl, by decide⟩
  | int place n =>
    have outside : ∀ c ∈ [',', ']', '\'', '"', 'b'], c ≠ '-' ∧ c.isDigit = false := by decide
    have plain : ∀ c ∈ (toString n).toList, c ∉ [',', ']', '\'', '"', 'b'] := by
      intro c inside among
      obtain ⟨noSign, noDigit⟩ := outside c among
      rcases int_chars n c inside with isSign | isDigit
      · exact noSign isSign
      · rw [noDigit] at isDigit
        cases isDigit
    refine ⟨fun c inside => ?_, ?_⟩
    · exact ⟨fun same => plain c inside (by rw [same]; decide), fun same => plain c inside (by rw [same]; decide)⟩
    · obtain ⟨c, more, begins⟩ := List.exists_cons_of_ne_nil (int_nonempty n)
      refine ⟨c, more, begins, fun among => plain c (by rw [begins]; exact List.mem_cons_self) ?_⟩
      exact List.mem_cons_of_mem _ (List.mem_cons_of_mem _ among)

/-- What is written without quotes, as a text in quotes, or as bytes. -/
private theorem WritesConstant.cases {value : Value} {chars : List Char} (writes : WritesConstant value chars) :
    (∃ word, WrittenAs value word ∧ chars = word.toList) ∨
      (∃ place text, value = .text place text ∧ chars = Text.quotedChars text.toList) ∨
      ∃ place bytes, value = .bytes place bytes ∧ chars = (Text.quotedBytes bytes).toList := by
  obtain ⟨isConstant, shown, shows, rfl⟩ := writes
  rw [shownText, mapError_eq_ok_iff] at shows
  cases isConstant with
  | none =>
    rw [Value.display] at shows
    cases shows
    exact .inl ⟨_, .none, rfl⟩
  | bool b =>
    refine .inl ⟨_, .bool b, ?_⟩
    cases b <;> rw [Value.display] at shows <;> cases shows <;> rfl
  | int place n =>
    rw [Value.display, Value.intText] at shows
    split at shows
    · cases shows
    · cases shows
      exact .inl ⟨_, .int place n, rfl⟩
  | text place text =>
    rw [Value.display] at shows
    cases shows
    exact .inr (.inl ⟨place, text, rfl, String.toList_ofList⟩)
  | bytes place bytes =>
    rw [Value.display] at shows
    cases shows
    exact .inr (.inr ⟨place, bytes, rfl, rfl⟩)

/-- The first character tells the three kinds of constants apart. -/
private theorem quotedChars_begins (text : List Char) :
    ∃ c more, Text.quotedChars text = c :: more ∧ (c = '\'' ∨ c = '"') := by
  refine ⟨_, _, rfl, ?_⟩
  rw [Text.quoteFor]
  split
  · exact .inr rfl
  · exact .inl rfl

private theorem quotedBytes_begins (bytes : List UInt8) : ∃ more, (Text.quotedBytes bytes).toList = 'b' :: more :=
  ⟨_, String.toList_ofList⟩

private theorem WrittenAs.ne_text {value : Value} {word : String} (written : WrittenAs value word) (text : List Char)
    (rest behind : List Char) : word.toList ++ rest ≠ Text.quotedChars text ++ behind := by
  obtain ⟨-, c, more, begins, plain⟩ := written.chars
  obtain ⟨d, others, otherBegins, isQuote⟩ := quotedChars_begins text
  refine append_ne_of_begins begins otherBegins ?_ rest behind
  rintro rfl
  rcases isQuote with rfl | rfl <;> exact plain (by decide)

private theorem WrittenAs.ne_bytes {value : Value} {word : String} (written : WrittenAs value word)
    (bytes : List UInt8) (rest behind : List Char) :
    word.toList ++ rest ≠ (Text.quotedBytes bytes).toList ++ behind := by
  obtain ⟨-, c, more, begins, plain⟩ := written.chars
  obtain ⟨others, otherBegins⟩ := quotedBytes_begins bytes
  refine append_ne_of_begins begins otherBegins ?_ rest behind
  rintro rfl
  exact plain (by decide)

private theorem text_ne_bytes (text : List Char) (bytes : List UInt8) (rest behind : List Char) :
    Text.quotedChars text ++ rest ≠ (Text.quotedBytes bytes).toList ++ behind := by
  obtain ⟨c, more, begins, isQuote⟩ := quotedChars_begins text
  obtain ⟨others, otherBegins⟩ := quotedBytes_begins bytes
  refine append_ne_of_begins begins otherBegins ?_ rest behind
  rcases isQuote with rfl | rfl <;> decide

/-- What may come behind a type between brackets. -/
def Ends (rest : List Char) : Prop := ∀ c ∈ rest.head?, c = ',' ∨ c = ']'

/-- A constant can be read off. -/
theorem constant_readsOff (value : Value) : ReadsOff WritesConstant SameConstant Ends value := by
  intro other t u rest behind writes otherWrites ends otherEnds same
  have outside : ∀ {left : List Char}, Ends left → ∀ c ∈ left.head?, (c != ',' && c != ']') = false := by
    intro left ends c first
    rcases ends c first with rfl | rfl <;> rfl
  have inWord : ∀ {value : Value} {word : String}, WrittenAs value word →
      ∀ c ∈ word.toList, (c != ',' && c != ']') = true := by
    intro value word written c inside
    simpa using written.chars.1 c inside
  rcases writes.cases with ⟨word, written, rfl⟩ | ⟨place, text, rfl, rfl⟩ | ⟨place, bytes, rfl, rfl⟩ <;>
    rcases otherWrites.cases with ⟨otherWord, otherWritten, rfl⟩ | ⟨place', text', rfl, rfl⟩ |
      ⟨place', bytes', rfl, rfl⟩
  · obtain ⟨sameWord, left⟩ := word_readOff (inWord written) (inWord otherWritten) (outside ends) (outside otherEnds)
      same
    rw [String.toList_inj] at sameWord
    rw [← sameWord] at otherWritten
    exact ⟨written.sameConstant otherWritten, left⟩
  · exact absurd same (written.ne_text _ _ _)
  · exact absurd same (written.ne_bytes _ _ _)
  · exact absurd same.symm (otherWritten.ne_text _ _ _)
  · obtain ⟨sameText, left⟩ := Source.quotedChars_readOff same
    rw [String.toList_inj.1 sameText]
    exact ⟨.text _ _ _, left⟩
  · exact absurd same (text_ne_bytes _ _ _ _)
  · exact absurd same.symm (otherWritten.ne_bytes _ _ _)
  · exact absurd same.symm (text_ne_bytes _ _ _ _)
  · obtain ⟨rfl, left⟩ := Source.quotedBytes_readOff same
    exact ⟨.bytes _ _ _, left⟩

end EachSubject.Hint
