import EachSubject.Json.Printer
import EachSubject.Json.Reader

/-!
# Written documents read back

A string reads back whatever its characters are: each is written as itself or as an escape of its own. So does every
document without numbers, whose written form says where each of its parts ends.
-/

namespace EachSubject.Json

/-! ## Strings -/

private theorem stringRest_ordinary {c : Char} (noQuote : c ≠ '"') (noBackslash : c ≠ '\\') (rest : List Char) :
    stringRest? (c :: rest) =
      if c.toNat < 32 then none else (stringRest? rest).map fun (chars, rest) => (c :: chars, rest) := by
  rw [stringRest?]
  · exact noQuote
  · exact fun _ _ _ _ _ same _ => noBackslash same
  · exact fun _ _ same _ => noBackslash same

private theorem stringRest_simple {letter c : Char} (stands : simpleEscape? letter = some c) (rest : List Char) :
    stringRest? ('\\' :: letter :: rest) = (stringRest? rest).map fun (chars, rest) => (c :: chars, rest) := by
  have noUnit : letter ≠ 'u' := by
    rintro rfl
    cases stands
  rw [stringRest?]
  · rw [stands]
  · exact fun _ _ _ _ _ same _ => noUnit same

/-- A character below the surrogates may be written by its four digits. -/
private theorem stringRest_digits {c : Char} (small : c.toNat < 0xD800) (rest : List Char) :
    stringRest? ('\\' :: 'u' :: (Text.paddedHex 4 c.toNat ++ rest)) =
      (stringRest? rest).map fun (chars, rest) => (c :: chars, rest) := by
  have number : Text.hexNumber? (Text.paddedHex 4 c.toNat) = some c.toNat :=
    Text.hexNumber?_paddedHex (Nat.lt_trans small (by decide))
  have four : (Text.paddedHex 4 c.toNat).length = 4 := Text.length_paddedHex 4 c.toNat
  obtain ⟨a, b, d, e, same⟩ : ∃ a b d e, Text.paddedHex 4 c.toNat = [a, b, d, e] := by
    match Text.paddedHex 4 c.toNat, four with
    | [a, b, d, e], _ => exact ⟨a, b, d, e, rfl⟩
  rw [same] at number ⊢
  have notHigh : (0xD800 ≤ c.toNat && c.toNat < 0xDC00) = false := by simp; omega
  have notLow : (0xDC00 ≤ c.toNat && c.toNat < 0xE000) = false := by simp; omega
  simp only [List.cons_append, List.nil_append]
  rw [stringRest?, stringRest?.hexOf, number]
  simp only [notHigh, notLow, Char.ofNat_toNat, Bool.false_eq_true, if_false]

/-- What stands for a character is read as the character. -/
theorem stringRest_escapedChar (c : Char) (rest : List Char) :
    stringRest? (escapedChar c ++ rest) = (stringRest? rest).map fun (chars, rest) => (c :: chars, rest) := by
  by_cases named : c ∈ ['"', '\\', '\n', '\r', '\t', '\x08', '\x0c']
  · simp only [List.mem_cons, List.not_mem_nil, or_false] at named
    rcases named with rfl | rfl | rfl | rfl | rfl | rfl | rfl <;> exact stringRest_simple rfl rest
  · simp only [List.mem_cons, List.not_mem_nil, or_false, not_or] at named
    obtain ⟨noQuote, noBackslash, noNewline, noReturn, noTab, noBack, noFeed⟩ := named
    rw [escapedChar, if_neg noQuote, if_neg noBackslash, if_neg noNewline, if_neg noReturn, if_neg noTab,
      if_neg noBack, if_neg noFeed]
    by_cases control : c.toNat < 32
    · rw [if_pos control]
      exact stringRest_digits (Nat.lt_trans control (by decide)) rest
    · rw [if_neg control, List.singleton_append, stringRest_ordinary noQuote noBackslash, if_neg control]

/-- A written string reads back behind its opening quote. -/
theorem stringRest_written (rest : List Char) : ∀ chars : List Char,
    stringRest? (chars.flatMap escapedChar ++ '"' :: rest) = some (chars, rest)
  | [] => by rw [List.flatMap_nil, List.nil_append, stringRest?]
  | c :: chars => by
    rw [List.flatMap_cons, List.append_assoc, stringRest_escapedChar, stringRest_written rest chars, Option.map_some]

/-! ## Documents -/

/-- The document holds no numbers, and its lists and objects nest at most so deep. -/
inductive IsWordy : Nat → Json → Prop where
  | null {depth : Nat} : IsWordy depth .null
  | bool {depth : Nat} (value : Bool) : IsWordy depth (.bool value)
  | string {depth : Nat} (value : String) : IsWordy depth (.string value)
  | list {depth : Nat} {items : List Json} (each : ∀ item ∈ items, IsWordy depth item) :
      IsWordy (depth + 1) (.list items)
  | object {depth : Nat} {members : List (String × Json)} (each : ∀ member ∈ members, IsWordy depth member.2) :
      IsWordy (depth + 1) (.object members)

/-- The text starts neither with white space nor with what would close a list. -/
def StartsValue (text : List Char) : Prop := ∃ c rest, text = c :: rest ∧ isSpace c = false ∧ c ≠ ']'

theorem IsWordy.starts {depth : Nat} {document : Json} (wordy : IsWordy depth document) (rest : List Char) :
    StartsValue (renderChars document ++ rest) := by
  cases wordy with
  | null => exact ⟨'n', _, rfl, rfl, by decide⟩
  | bool value => cases value <;> exact ⟨_, _, rfl, rfl, by decide⟩
  | string value => exact ⟨'"', _, rfl, rfl, by decide⟩
  | list each => exact ⟨'[', _, by rw [renderChars]; rfl, rfl, by decide⟩
  | object each => exact ⟨'\x7b', _, by rw [renderChars]; rfl, rfl, by decide⟩

theorem StartsValue.skipSpace {text : List Char} (starts : StartsValue text) : Json.skipSpace text = text := by
  obtain ⟨c, rest, rfl, ordinary, _⟩ := starts
  rw [Json.skipSpace, List.dropWhile_cons_of_neg (by simp [ordinary])]

/-- What is written behind an item of a list. -/
def behindItem : List Json → List Char
  | [] => [']']
  | item :: rest => ',' :: renderItems (item :: rest)

/-- What is written behind a member of an object. -/
def behindMember : List (String × Json) → List Char
  | [] => ['\x7d']
  | member :: rest => ',' :: renderMembers (member :: rest)

theorem renderItems_cons (item : Json) (rest : List Json) :
    renderItems (item :: rest) = renderChars item ++ behindItem rest := by
  cases rest <;> rfl

theorem renderMembers_cons (name : String) (value : Json) (rest : List (String × Json)) :
    renderMembers ((name, value) :: rest) = renderText name ++ ':' :: (renderChars value ++ behindMember rest) := by
  cases rest <;> simp [renderMembers, behindMember]

theorem length_le_behindItem : ∀ items : List Json, items.length < (behindItem items).length
  | [] => Nat.zero_lt_one
  | item :: rest => by
    have further := length_le_behindItem rest
    rw [behindItem, renderItems_cons, List.length_cons, List.length_cons, List.length_append]
    omega

theorem length_le_behindMember : ∀ members : List (String × Json), members.length < (behindMember members).length
  | [] => Nat.zero_lt_one
  | (name, value) :: rest => by
    have further := length_le_behindMember rest
    rw [behindMember, renderMembers_cons]
    simp only [List.length_cons, List.length_append]
    omega

section

variable {read : List Char → Option (Json × List Char)} {rest : List Char}

/-- The items behind the first one read back if each of them does. -/
theorem moreItems_written : ∀ {items : List Json} {fuel : Nat}, items.length < fuel →
    (∀ item ∈ items, ∀ rest, StartsValue (renderChars item ++ rest) ∧
      read (renderChars item ++ rest) = some (item, rest)) →
    moreItems? read fuel (behindItem items ++ rest) = some (items, rest)
  | [], _ + 1, _, _ => rfl
  | item :: items, fuel + 1, enough, each => by
    obtain ⟨starts, reads⟩ := each item List.mem_cons_self (behindItem items ++ rest)
    have further : moreItems? read fuel (behindItem items ++ rest) = some (items, rest) :=
      moreItems_written (Nat.lt_of_succ_lt_succ enough) fun other among => each other (List.mem_cons_of_mem item among)
    have comma : Json.skipSpace (behindItem (item :: items) ++ rest) =
        ',' :: (renderChars item ++ (behindItem items ++ rest)) := by
      rw [behindItem, renderItems_cons, List.cons_append, List.append_assoc]
      rfl
    rw [moreItems?, comma]
    simp only [starts.skipSpace, reads, further, Option.bind_eq_bind, Option.bind_some]

private theorem member_written (name : String) {value : Json} (starts : StartsValue (renderChars value ++ rest))
    (reads : read (renderChars value ++ rest) = some (value, rest)) :
    member? read (renderText name ++ ':' :: (renderChars value ++ rest)) = some ((name, value), rest) := by
  have quoted : renderText name ++ ':' :: (renderChars value ++ rest) =
      '"' :: (name.toList.flatMap escapedChar ++ '"' :: ':' :: (renderChars value ++ rest)) := by
    rw [renderText, List.cons_append, List.cons_append, List.append_assoc]
    rfl
  have colon : Json.skipSpace (':' :: (renderChars value ++ rest)) = ':' :: (renderChars value ++ rest) := rfl
  rw [quoted, member?, stringRest_written]
  simp only [Option.bind_eq_bind, Option.bind_some, colon, starts.skipSpace, reads, String.ofList_toList]

/-- The members behind the first one read back if the value of each of them does. -/
theorem moreMembers_written : ∀ {members : List (String × Json)} {fuel : Nat}, members.length < fuel →
    (∀ member ∈ members, ∀ rest, StartsValue (renderChars member.2 ++ rest) ∧
      read (renderChars member.2 ++ rest) = some (member.2, rest)) →
    moreMembers? read fuel (behindMember members ++ rest) = some (members, rest)
  | [], _ + 1, _, _ => rfl
  | (name, value) :: members, fuel + 1, enough, each => by
    obtain ⟨starts, reads⟩ := each (name, value) List.mem_cons_self (behindMember members ++ rest)
    have further : moreMembers? read fuel (behindMember members ++ rest) = some (members, rest) :=
      moreMembers_written (Nat.lt_of_succ_lt_succ enough) fun other among =>
        each other (List.mem_cons_of_mem (name, value) among)
    have comma : Json.skipSpace (behindMember ((name, value) :: members) ++ rest) =
        ',' :: (renderText name ++ ':' :: (renderChars value ++ (behindMember members ++ rest))) := by
      rw [behindMember, renderMembers_cons]
      simp only [List.cons_append, List.append_assoc]
      rfl
    have quote : Json.skipSpace (renderText name ++ ':' :: (renderChars value ++ (behindMember members ++ rest))) =
        renderText name ++ ':' :: (renderChars value ++ (behindMember members ++ rest)) := rfl
    rw [moreMembers?, comma]
    simp only [quote, member_written name starts reads, further, Option.bind_eq_bind, Option.bind_some]

end

private theorem list_written {depth : Nat} {item : Json} {items : List Json} {rest : List Char}
    (each : ∀ other ∈ item :: items, ∀ rest, StartsValue (renderChars other ++ rest) ∧
      value? depth (renderChars other ++ rest) = some (other, rest)) :
    value? (depth + 1) (renderChars (.list (item :: items)) ++ rest) = some (.list (item :: items), rest) := by
  obtain ⟨starts, reads⟩ := each item List.mem_cons_self (behindItem items ++ rest)
  have enough : items.length < (behindItem items ++ rest).length + 1 := by
    have := length_le_behindItem items
    rw [List.length_append]
    omega
  have others : moreItems? (value? depth) ((behindItem items ++ rest).length + 1) (behindItem items ++ rest) =
      some (items, rest) :=
    moreItems_written enough fun other among => each other (List.mem_cons_of_mem item among)
  rw [renderChars, renderItems_cons, List.cons_append, List.append_assoc, value?, starts.skipSpace]
  obtain ⟨c, more, same, _, noClose⟩ := starts
  rw [same] at reads ⊢
  split
  · rename_i closes
    exact absurd (List.cons.inj closes).1 noClose
  · simp only [reads, others, Option.bind_eq_bind, Option.bind_some]

private theorem object_written {depth : Nat} {name : String} {value : Json} {members : List (String × Json)}
    {rest : List Char}
    (each : ∀ member ∈ (name, value) :: members, ∀ rest, StartsValue (renderChars member.2 ++ rest) ∧
      value? depth (renderChars member.2 ++ rest) = some (member.2, rest)) :
    value? (depth + 1) (renderChars (.object ((name, value) :: members)) ++ rest) =
      some (.object ((name, value) :: members), rest) := by
  obtain ⟨starts, reads⟩ := each (name, value) List.mem_cons_self (behindMember members ++ rest)
  have first := member_written name starts reads
  have enough : members.length < (behindMember members ++ rest).length + 1 := by
    have := length_le_behindMember members
    rw [List.length_append]
    omega
  have others : moreMembers? (value? depth) ((behindMember members ++ rest).length + 1) (behindMember members ++ rest) =
      some (members, rest) :=
    moreMembers_written enough fun other among => each other (List.mem_cons_of_mem (name, value) among)
  have quote : Json.skipSpace (renderText name ++ ':' :: (renderChars value ++ (behindMember members ++ rest))) =
      renderText name ++ ':' :: (renderChars value ++ (behindMember members ++ rest)) := rfl
  rw [renderChars, renderMembers_cons, List.cons_append, List.append_assoc, List.cons_append, List.append_assoc,
    value?, quote]
  split
  · rename_i closes
    cases closes
  · simp only [first, others, Option.bind_eq_bind, Option.bind_some]

/-- A written document without numbers reads back, whatever follows it. -/
theorem value_written {depth : Nat} {document : Json} (wordy : IsWordy depth document) :
    ∀ rest, value? depth (renderChars document ++ rest) = some (document, rest) := by
  induction wordy with
  | null =>
    intro rest
    rw [value?.eq_def]
    rfl
  | bool value =>
    intro rest
    rw [value?.eq_def]
    cases value <;> rfl
  | string value =>
    intro rest
    have quoted : renderChars (.string value) ++ rest = '"' :: (value.toList.flatMap escapedChar ++ '"' :: rest) := by
      rw [renderChars, renderText, List.cons_append, List.cons_append, List.append_assoc]
      rfl
    rw [quoted, value?, stringRest_written, Option.map_some]
    simp only [String.ofList_toList]
  | @list depth items each further =>
    intro rest
    cases items with
    | nil =>
      rw [value?.eq_def]
      rfl
    | cons item items =>
      exact list_written fun other among rest => ⟨(each other among).starts rest, further other among rest⟩
  | @object depth members each further =>
    intro rest
    cases members with
    | nil =>
      rw [value?.eq_def]
      rfl
    | cons member members =>
      exact object_written fun other among rest => ⟨(each other among).starts rest, further other among rest⟩

/-- A document without numbers reads back from its compact form. -/
theorem read_render {depth : Nat} {document : Json} (wordy : IsWordy depth document) :
    read? depth document.render = some document := by
  have starts := wordy.starts []
  have reads := value_written wordy []
  rw [List.append_nil] at starts reads
  rw [read?, render, String.toList_ofList, starts.skipSpace, reads]
  rfl

end EachSubject.Json
