import EachSubject.Proofs.Attributes
import EachSubject.Proofs.Evaluation.Literals
import EachSubject.Proofs.Source.Calls
import EachSubject.Proofs.Source.Numerals
import EachSubject.Proofs.Source.Quotation
import EachSubject.Proofs.Visibility
import EachSubject.Source.Parser.Statement

/-!
# References to what a function keeps

The name of a class, the name of a method, an attribute of the method and an index in brackets read as an expression
that asks for just these, and as no literal. Asking a class for one of its methods, the method for the defaults that it
keeps, and those for one of them gives just what the method keeps: the function that is found on the class is the one
that lookup finds.
-/

namespace EachSubject.Source

/-! ## Tokens -/

/-- A name that is read as itself. -/
structure IsPlainName (name : String) : Prop where
  isName : Text.isName name = true
  normal : Text.normalized name = name

namespace IsPlainName

variable {name : String}

theorem isIdentifier (plain : IsPlainName name) : Text.isIdentifier name = true := Text.isName_isIdentifier plain.isName

theorem nameOf (plain : IsPlainName name) : Parser.nameOf? name = some name := by
  have isName := plain.isName
  rw [Text.isName, Bool.and_eq_true, Bool.not_eq_true'] at isName
  rw [Parser.nameOf?, if_neg (by simp [isName.2]), plain.normal]

end IsPlainName

/-- What may stand in the brackets of a reference: a single token that is a constant. -/
structure IsIndex (item : List Char) (token : Token) (index : Literal) : Prop where
  read : ∀ rest, token? (item ++ ']' :: rest) = some (token, ']' :: rest)
  constant : ∀ inner stop rest, (∀ string, stop ≠ Token.string string) →
    Grammar.atom inner (token :: stop :: rest) = some (.literal index, stop :: rest)
  plain : Grammar.startsPlainly token = true
  neutral : ∀ layout : Layout, layout.after? token = some layout
  noControl : nulCharacter ∉ item ∧ '\r' ∉ item

theorem IsIndex.decimal {n : Nat} (short : n < 10 ^ wholeLimit) :
    IsIndex (Nat.toDigits 10 n) (.number (.whole n)) (.whole n) where
  read := token_decimal short (by decide) (by decide)
  constant _ _ _ _ := rfl
  plain := rfl
  neutral _ := rfl
  noControl := by
    have digits : ∀ d ∈ Nat.toDigits 10 n, d.isDigit = true := fun d inside =>
      Nat.isDigit_of_mem_toDigits (by decide) (by decide) inside
    exact ⟨fun inside => absurd (digits _ inside) (by decide), fun inside => absurd (digits _ inside) (by decide)⟩

theorem IsIndex.quoted (text : String) :
    IsIndex (Text.quotedChars text.toList) (.string (quotedToken text.toList)) (.text text) where
  read := token_quoted text.toList (by decide)
  constant inner stop rest noString := by
    have alone : Grammar.takeStrings (stop :: rest) = ([], stop :: rest) := by
      rw [Grammar.takeStrings]
      exact fun string behind same => noString string (List.cons.inj same).1
    have plain : (quotedToken text.toList).isBytes = false ∧ (quotedToken text.toList).isFormatted = false := ⟨rfl, rfl⟩
    have body := bodyText_quoted text.toList
    simp [Grammar.atom, alone, Grammar.strings?, plain, body]
  plain := rfl
  neutral _ := rfl
  noControl := isClean_iff.1 (isInline_iff.1 (quotedChars_inline text.toList)).1

/-- A constant by itself. -/
private theorem IsIndex.stands {item : List Char} {token : Token} {index : Literal} (isIndex : IsIndex item token index) :
    StandFor 1 [token] (.literal index) := by
  intro depth deeper stop ends next rest
  obtain ⟨inside, rfl⟩ := Nat.exists_eq_add_of_le' deeper
  have quiet : stop ∈ quietTokens := List.mem_cons_of_mem _ (List.mem_cons_of_mem _ ends)
  refine Grammar.expressionHere_stops isIndex.plain quiet
    (Grammar.primaryHere_atom (Grammar.quiet_ends stop quiet) (isIndex.constant _ _ _ ?_))
  rintro string rfl
  revert ends
  simp [expressionEnds]

/-! ## Reading -/

section

variable {subject name field : String} {item : List Char} {token : Token} {index : Literal}

/-- The text of a reference. -/
def referenceText (subject name field : String) (item : List Char) : List Char :=
  subject.toList ++ '.' :: (name.toList ++ '.' :: (field.toList ++ '[' :: (item ++ [']'])))

/-- The tokens of a reference. -/
def referenceTokens (subject name field : String) (token : Token) : List Token :=
  [.word subject, .op ".", .word name, .op ".", .word field, .op "[", token, .op "]"]

/-- What a reference asks for. -/
def referenceExpr (subject name field : String) (index : Literal) : Expr :=
  .subscript (.attribute (.attribute (.name subject) name) field) (.literal index)

private theorem token_wordBefore {word : String} (isWord : Text.isIdentifier word = true) {c : Char}
    (ends : endsWord c = true) (rest : List Char) :
    token? (word.toList ++ c :: rest) = some (.word word, c :: rest) := by
  have read := token_word isWord ends rest
  rwa [String.ofList_toList] at read

private theorem token_pointBefore {word : String} (isWord : Text.isIdentifier word = true) (rest : List Char) :
    token? ('.' :: (word.toList ++ rest)) = some (.op ".", word.toList ++ rest) := by
  obtain ⟨c, more, same, noDigit, noPoint, _⟩ := identifier_head isWord
  rw [same]
  exact token_point noDigit noPoint

/-- The tokens of a reference stand one directly behind the other. -/
private theorem scan_reference (isSubject : Text.isIdentifier subject = true) (isName : Text.isIdentifier name = true)
    (isField : Text.isIdentifier field = true) (isIndex : IsIndex item token index) (fuel : Nat) :
    scan (fuel + 10) false .start (referenceText subject name field item ++ ['\n']) =
      some (referenceTokens subject name field token ++ [.newline]) := by
  have text : referenceText subject name field item ++ ['\n'] =
      subject.toList ++ '.' :: (name.toList ++ '.' :: (field.toList ++ '[' :: (item ++ ']' :: ['\n']))) := by
    simp [referenceText]
  have inside : Layout.start.after? (.op "[") = some ⟨["]"], [(0, 0)]⟩ := rfl
  have last : scan (fuel + 2) false .start ['\n'] = some [.newline] := rfl
  rw [text]
  exact scan_cons (token_wordBefore isSubject rfl _) rfl <| scan_cons (token_pointBefore isName _) rfl <|
    scan_cons (token_wordBefore isName rfl _) rfl <| scan_cons (token_pointBefore isField _) rfl <|
    scan_cons (token_wordBefore isField rfl _) rfl <| scan_cons rfl inside <|
    scan_cons (isIndex.read _) (isIndex.neutral _) <| scan_cons rfl rfl last

/-- A reference holds no character that ends a line or a text. -/
theorem referenceText_noControl (isSubject : Text.isIdentifier subject = true) (isName : Text.isIdentifier name = true)
    (isField : Text.isIdentifier field = true) (isIndex : IsIndex item token index) :
    nulCharacter ∉ referenceText subject name field item ∧ '\r' ∉ referenceText subject name field item := by
  have inWord : ∀ {word : String} {c : Char}, Text.isIdentifier word = true → isWordChar c = false →
      c ∉ word.toList := by
    intro word c isWord noWordChar inside
    rw [identifier_wordChars isWord inside] at noWordChar
    cases noWordChar
  obtain ⟨noNul, noReturn⟩ := isIndex.noControl
  constructor
  · simp [referenceText, inWord isSubject (c := nulCharacter) rfl, inWord isName (c := nulCharacter) rfl,
      inWord isField (c := nulCharacter) rfl, noNul]
    decide
  · simp [referenceText, inWord isSubject (c := '\r') rfl, inWord isName (c := '\r') rfl,
      inWord isField (c := '\r') rfl, noReturn]

private theorem tokens_reference (isSubject : Text.isIdentifier subject = true) (isName : Text.isIdentifier name = true)
    (isField : Text.isIdentifier field = true) (isIndex : IsIndex item token index) :
    tokens? (referenceText subject name field item) =
      some (referenceTokens subject name field token ++ [.newline]) := by
  have noControl := referenceText_noControl isSubject isName isField isIndex
  have ended : endLine (referenceText subject name field item) = referenceText subject name field item ++ ['\n'] := by
    refine if_neg fun ends => ?_
    simp [referenceText, List.getLast?_append, List.getLast?_cons] at ends
  obtain ⟨c, more, start, ordinary⟩ := identifier_starts isSubject
  rw [tokens?, if_neg (by simp [noControl.1]), unifyLineEnds_eq noControl.2, ended]
  dsimp only
  obtain ⟨fuel, enough⟩ : ∃ fuel, 2 * (referenceText subject name field item ++ ['\n']).length = fuel + 10 :=
    Nat.exists_eq_add_of_le' (by simp [referenceText]; omega)
  have scanned := scan_reference isSubject isName isField isIndex fuel
  have starts : referenceText subject name field item ++ ['\n'] = c :: (more ++
      '.' :: (name.toList ++ '.' :: (field.toList ++ '[' :: (item ++ [']']))) ++ ['\n']) := by
    simp [referenceText, start]
  rw [enough]
  rw [starts] at scanned ⊢
  rw [scan_start ordinary, scanned]

/-- A reference reads as an expression that asks for an item of an attribute of a method. -/
theorem parse_reference (isSubject : IsPlainName subject) (isName : IsPlainName name) (isField : IsPlainName field)
    (isIndex : IsIndex item token index) :
    parseExpression? (String.ofList (referenceText subject name field item)) =
      some (referenceExpr subject name field index) := by
  have tokens := tokens_reference isSubject.isIdentifier isName.isIdentifier isField.isIdentifier isIndex
  obtain ⟨depth, deep⟩ : ∃ depth, (referenceText subject name field item).length = depth + 1 :=
    Nat.exists_eq_add_of_le' (by simp [referenceText]; omega)
  have heads : Grammar.Heads (grammar (depth + 1)) (referenceTokens subject name field token)
      (referenceExpr subject name field index) :=
    (((Grammar.Heads.name isSubject.nameOf).member isName.nameOf).member isField.nameOf).index isIndex.stands
      (Nat.le_add_left 1 depth)
  have read : (grammar (depth + 1 + 1)).expression (referenceTokens subject name field token ++ [.newline]) =
      some (referenceExpr subject name field index, [.newline]) :=
    Grammar.expressionHere_stops (Grammar.name_startsPlainly isSubject.nameOf) (by decide)
      (heads.primary (by decide))
  have nothing : Parser.moreItems (grammar (depth + 1 + 1)).expression [.newline] =
      some (([], false), [.newline]) := rfl
  rw [parseExpression?]
  dsimp only
  rw [String.toList_ofList, deep, tokens]
  simp only [Option.bind_eq_bind, Option.bind_some, read, nothing]
  rfl

end

end EachSubject.Source

namespace EachSubject

open Source Description

/-- A name that is not private is the same inside of every class. -/
theorem Frame.inside_notPrivate {name : String} (notPrivate : isPrivate name = false) (f : Frame) :
    f.inside name = name := by
  rw [Frame.inside, nameInside, notPrivate]
  rfl

namespace Engine

variable {e : Engine} {f : Frame} {store : Store} {subject : ClassName} {found : FoundMethod}

/-! ## Methods on classes -/

/-- What a class gives for one of its methods. -/
def methodOn (w : World) (subject : ClassName) (found : FoundMethod) : Value :=
  match found.binding with
  | .onClass => .bound (w.classValue subject) (.function found.owner found.name)
  | _ => .function found.owner found.name

/-- The plain attributes that every class has have special names. -/
private theorem classField_ordinary {name : String} (ordinary : ¬ Special name) (owner : ClassName) (store : Store) :
    (classField owner name).start store = (.ok none, store) := by
  have known : Run.world.start store = (.ok store.world, store) := rfl
  rw [classField, Run.bind_ok known]
  dsimp only
  split
  case h_12 => rfl
  all_goals exact absurd (by unfold Special; decide) ordinary

private theorem boundToClass_start (notProperty : found.binding ≠ .property) (isFinal : Bool) :
    (boundToClass subject (rawMember found.owner found.name (.function found.binding isFinal found.function))).start
      store = (.ok (methodOn store.world subject found), store) := by
  obtain ⟨owner, name, binding, _, function⟩ := found
  cases binding with
  | onObject => rfl
  | static => rfl
  | onClass => rfl
  | property => exact absurd rfl notProperty

/-- A class gives its methods as lookup finds them, unless it is an enumeration with a member of the name. -/
theorem classAttribute_method
    (noMember : (store.world.class? subject).bind (World.memberOf? · found.name) = none)
    (among : found ∈ methods store.world subject) :
    (classAttribute subject found.name).start store = (.ok (methodOn store.world subject found), store) := by
  obtain ⟨looked, _, _, ordinary, notProperty⟩ := (mem_methods_iff store.world subject found).1 among
  have known : Run.world.start store = (.ok store.world, store) := rfl
  have own := member?_start subject found.name store
  rw [World.lookup, looked, Option.map_some] at own
  rw [classAttribute, Run.bind_ok known, Run.bind_ok (classField_ordinary ordinary subject store)]
  dsimp only
  rw [noMember]
  dsimp only
  rw [Run.bind_ok own]
  exact boundToClass_start notProperty found.isFinal

/-! ## What functions keep -/

private theorem functionOf_method {w : World} (among : found ∈ methods w subject) (known : store.world = w) :
    (functionOf? (.function found.owner found.name)).start store = (.ok (some found.function), store) := by
  obtain ⟨looked, _⟩ := (mem_methods_iff w subject found).1 among
  obtain ⟨_, own⟩ := World.member?_of_lookupIn looked
  have isKnown : Run.world.start store = (.ok store.world, store) := rfl
  rw [functionOf?, Run.bind_ok isKnown, known, own]
  rfl

/-- A method gives a plain attribute of its function. -/
theorem getAttribute_methodOn {w : World} {name : String} {value : Value} {store' : Store}
    (known : store.world = w) (among : found ∈ methods w subject) (plain : name ∉ ["__self__", "__func__", "__class__"])
    (given : (functionField (found.owner.path ++ "." ++ found.name) found.function name).start store =
      (.ok (some value), store')) :
    (e.getAttribute (methodOn w subject found) name).start store = (.ok value, store') := by
  have ofFunction : (e.functionAttribute (.function found.owner found.name) name).start store = (.ok value, store') := by
    have attributes : (ownAttributes (.function found.owner found.name)).start store = (.ok [], store) := rfl
    rw [functionAttribute, Run.bind_ok (functionOf_method among known)]
    dsimp only
    rw [Run.bind_ok attributes]
    dsimp only [List.lookup]
    rw [pathOf, Run.bind_ok given]
    rfl
  simp only [List.mem_cons, List.not_mem_nil, or_false, not_or] at plain
  obtain ⟨noSelf, noFunction, noClass⟩ := plain
  rw [methodOn]
  split
  · rw [getAttribute, if_neg noSelf, if_neg noFunction, if_neg noClass, ofFunction]
  · rw [getAttribute, ofFunction]

/-- Nothing but the next place and the places of constants has changed, and the run gives just the value. -/
abbrev Gives (store : Store) (run : Run Value) (value : Value) : Prop :=
  Run.Makes store (fun _ _ (value given : Value) => given = value) run value

/-- The item of a tuple at an index. -/
private theorem getItem_tuple (unchanged : store.revised = []) {items : List Value} {index : Nat} {value : Value}
    (kept : items[index]? = some value) (place place' : Nat) :
    (e.getItem (.tuple place items) (.int place' index)).start store = (.ok value, store) := by
  have within : index < items.length := (List.getElem?_eq_some_iff.1 kept).1
  have position : (positionOf items.length index).start store = (.ok index, store) := by
    rw [positionOf]
    have notNegative : ¬ (index : Int) < 0 := by omega
    have inside : ¬ (items.length : Int) ≤ index := by omega
    simp only [if_neg notNegative, decide_eq_false notNegative, decide_eq_false inside]
    rfl
  have current := Run.current_start unchanged (.tuple place items)
  have number : (e.indexOf (.int place' index)).start store = (.ok (index : Int), store) := rfl
  rw [getItem, Run.bind_ok current]
  · change (do itemAt items (← e.indexOf (.int place' index)) : Run Value).start store = _
    rw [Run.bind_ok number, itemAt, Run.bind_ok position, kept]
    rfl
  · rintro _ _ impossible
    cases impossible
  · rintro _ impossible
    cases impossible

/-- The entry of a dictionary is that of a name. -/
private def KeepsEntry (entry : String × Value) (copy : Value × Value) : Prop := ∃ place, copy = (.text place entry.1, entry.2)

private theorem mapM_keyed (store : Store) (constants : List (Literal × Nat)) : ∀ (entries : List (String × Value))
    (next : Nat), ∃ keyed next', next ≤ next' ∧ List.Forall₂ KeepsEntry entries keyed ∧
      (entries.mapM fun (key, value) => do return (← Run.newText key, value) : Run _).start
        (store.advanced next constants) = (.ok keyed, store.advanced next' constants)
  | [], next => ⟨[], next, Nat.le_refl _, .nil, rfl⟩
  | (key, value) :: entries, next => by
    obtain ⟨place, middle, later, placed⟩ := Run.placeFor_start store (Run.isCommonText key) next constants
    obtain ⟨keyed, next', further, all, started⟩ := mapM_keyed store constants entries middle
    refine ⟨(.text place key, value) :: keyed, next', Nat.le_trans later further, .cons ⟨place, rfl⟩ all, ?_⟩
    have text : (do return (← Run.newText key, value) : Run (Value × Value)).start (store.advanced next constants) =
        (.ok (.text place key, value), store.advanced middle constants) := by
      have made : (Run.newText key).start (store.advanced next constants) =
          (.ok (.text place key), store.advanced middle constants) := Run.bind_ok placed
      rw [Run.bind_ok made]
      rfl
    rw [List.mapM_cons, Run.bind_ok text, Run.bind_ok started]
    rfl

private theorem newDict_start (store : Store) (entries : List (String × Value)) (next : Nat)
    (constants : List (Literal × Nat)) : ∃ place keyed next', next ≤ next' ∧ List.Forall₂ KeepsEntry entries keyed ∧
      (Run.newDict entries).start (store.advanced next constants) =
        (.ok (.dict place keyed), store.advanced next' constants) := by
  obtain ⟨keyed, next', later, all, started⟩ := mapM_keyed store constants entries (next + 1)
  refine ⟨next, keyed, next', by omega, all, ?_⟩
  have place : Run.freshPlace.start (store.advanced next constants) =
      (.ok next, store.advanced (next + 1) constants) := rfl
  rw [Run.newDict, Run.bind_ok place, Run.bind_ok started]
  rfl

private theorem matchesItem_text (place place' : Nat) (name other : String) :
    Value.matchesItem (.text place name) (.text place' other) = (name == other) := by
  have equal : Value.isEqual (.text place name) (.text place' other) = (name == other) := by simp [Value.isEqual, Value.plain]
  rw [Value.matchesItem, equal, Value.isSame]
  cases name == other <;> simp

private theorem find_keyed {entries : List (String × Value)} {keyed : List (Value × Value)}
    (all : List.Forall₂ KeepsEntry entries keyed) (place : Nat) (name : String) :
    (keyed.find? fun entry => Value.matchesItem (.text place name) entry.1).map (·.2) = entries.lookup name := by
  induction all with
  | nil => rfl
  | @cons entry copy entries keyed head _ further =>
    obtain ⟨there, rfl⟩ := head
    rw [List.find?_cons, matchesItem_text, List.lookup_cons]
    cases same : name == entry.1 with
    | true => rfl
    | false => exact further

/-- The entry of a dictionary under a name. -/
private theorem getItem_dict (unchanged : store.revised = []) {entries : List (String × Value)}
    {keyed : List (Value × Value)} (all : List.Forall₂ KeepsEntry entries keyed) {name : String} {value : Value}
    (kept : entries.lookup name = some value) (place place' : Nat) :
    (e.getItem (.dict place keyed) (.text place' name)).start store = (.ok value, store) := by
  have current := Run.current_start unchanged (.dict place keyed)
  have entry : ( entry? keyed (.text place' name)).start store = (.ok (some value), store) := by
    change (pure ((keyed.find? fun entry => Value.matchesItem (.text place' name) entry.1).map (·.2)) :
      Run (Option Value)).start store = _
    rw [find_keyed all, kept]
    rfl
  rw [getItem, Run.bind_ok current]
  · change (do Run.orFault .missingKey (← entry? keyed (.text place' name)) : Run Value).start store = _
    rw [Run.bind_ok entry]
    rfl
  · rintro _ _ impossible
    cases impossible
  · rintro _ impossible
    cases impossible

/-! ## References -/

section

variable {field : String} {value : Value} {isEnum : Bool}

/-- An item of what a method keeps is found by asking the class for the method, and the method for what it keeps. -/
private theorem evaluate_reference {index : Literal} {indexValue : Value}
    (noMember : (store.world.class? subject).bind (World.memberOf? · found.name) = none)
    (among : found ∈ methods store.world subject)
    (named : (f.value subject.simple).start store = (.ok (.class subject isEnum), store))
    (unchangedName : f.inside found.name = found.name) (unchangedField : f.inside field = field)
    (denotes : index.value = .ok indexValue)
    (kept : ∀ next constants, ∃ object next', next ≤ next' ∧
      (e.getAttribute (methodOn store.world subject found) field).start (store.advanced next constants) =
        (.ok object, store.advanced next' constants) ∧
      ∀ first last copy next constants, indexValue.Copies first last copy →
        (e.getItem object copy).start (store.advanced next constants) = (.ok value, store.advanced next constants)) :
    Gives store (e.evaluate f (referenceExpr subject.simple found.name field index)) value := by
  have makes : Run.Makes store Value.Copies (Run.constant index) indexValue := Run.constant_makes denotes
  intro next constants
  obtain ⟨object, middle, later, fielded, item⟩ := kept next constants
  obtain ⟨copy, next', constants', further, copies, made⟩ := makes middle constants
  have onClass : (e.evaluate f (.name subject.simple)).start (store.advanced next constants) =
      (.ok (.class subject isEnum), store.advanced next constants) := by
    rw [evaluate]
    exact Frame.value_advanced named next constants
  have method : (e.evaluate f (.attribute (.name subject.simple) found.name)).start (store.advanced next constants) =
      (.ok (methodOn store.world subject found), store.advanced next constants) := by
    rw [evaluate, Run.bind_ok onClass, unchangedName, getAttribute]
    exact classAttribute_method noMember among
  refine ⟨value, next', constants', Nat.le_trans later further, rfl, ?_⟩
  have kept : (e.evaluate f (.attribute (.attribute (.name subject.simple) found.name) field)).start
      (store.advanced next constants) = (.ok object, store.advanced middle constants) := by
    rw [evaluate, Run.bind_ok method, unchangedField, fielded]
  rw [referenceExpr, evaluate, Run.bind_ok kept, evaluate, Run.bind_ok made]
  exact item _ _ copy next' constants' copies

variable (unchanged : store.revised = [])
  (noMember : (store.world.class? subject).bind (World.memberOf? · found.name) = none)
  (among : found ∈ methods store.world subject)
  (named : (f.value subject.simple).start store = (.ok (.class subject isEnum), store))
  (unchangedName : f.inside found.name = found.name)
include unchanged noMember among named unchangedName

/-- A reference to a default by its place gives just what the method keeps there. -/
theorem evaluate_positionalReference {index : Nat} (kept : found.function.storedDefaults[index]? = some value) :
    Gives store (e.evaluate f (referenceExpr subject.simple found.name "__defaults__" (.whole index))) value := by
  refine evaluate_reference noMember among named unchangedName (Frame.inside_notPrivate (by decide) f) rfl ?_
  intro next constants
  obtain ⟨place, next', later, placed⟩ :=
    Run.placeFor_start store found.function.storedDefaults.isEmpty next constants
  have nonempty : found.function.storedDefaults.isEmpty = false := by
    cases some : found.function.storedDefaults with
    | nil =>
      rw [some] at kept
      cases kept
    | cons => rfl
  refine ⟨.tuple place found.function.storedDefaults, next', later, ?_, ?_⟩
  · refine getAttribute_methodOn rfl among (by decide) ?_
    have made : (Run.newTuple found.function.storedDefaults).start (store.advanced next constants) =
        (.ok (.tuple place found.function.storedDefaults), store.advanced next' constants) := Run.bind_ok placed
    rw [functionField, nonempty]
    exact Run.bind_ok made
  · intro first last copy next constants copies
    cases copies with
    | int there => exact getItem_tuple (by exact unchanged) kept place there

/-- A reference to a default by its name gives just what the method keeps under it. -/
theorem evaluate_keywordReference {key : String} (kept : found.function.storedKeywordDefaults.lookup key = some value) :
    Gives store (e.evaluate f (referenceExpr subject.simple found.name "__kwdefaults__" (.text key))) value := by
  refine evaluate_reference noMember among named unchangedName (Frame.inside_notPrivate (by decide) f) rfl ?_
  intro next constants
  obtain ⟨place, keyed, next', later, all, made⟩ :=
    newDict_start store found.function.storedKeywordDefaults next constants
  have nonempty : found.function.storedKeywordDefaults.isEmpty = false := by
    cases some : found.function.storedKeywordDefaults with
    | nil =>
      rw [some] at kept
      cases kept
    | cons => rfl
  refine ⟨.dict place keyed, next', later, ?_, ?_⟩
  · refine getAttribute_methodOn rfl among (by decide) ?_
    rw [functionField, nonempty]
    exact Run.bind_ok made
  · intro first last copy next constants copies
    cases copies with
    | text there => exact getItem_dict (by exact unchanged) all kept place there

end

/-! ## Texts -/

section

variable {class_ name field : String} {item : List Char} {token : Token} {index : Literal}
  (isClass : IsPlainName class_) (isName : IsPlainName name) (isField : IsPlainName field)
  (isIndex : IsIndex item token index)
include isClass isName isField isIndex

/-- The text of a reference is read as that reference. -/
theorem reads_reference :
    IsTextOf (String.ofList (referenceText class_ name field item)) (referenceExpr class_ name field index) := by
  obtain ⟨noNul, _⟩ := referenceText_noControl isClass.isIdentifier isName.isIdentifier isField.isIdentifier isIndex
  obtain ⟨c, more, start, ordinary⟩ := identifier_starts isClass.isIdentifier
  have notIndented : unindented (String.ofList (referenceText class_ name field item)) =
      String.ofList (referenceText class_ name field item) := by
    have noBlank : ¬ (c = ' ' ∨ c = '\t') := by
      rintro (rfl | rfl) <;> exact ordinary (by decide)
    rw [unindented, String.toList_ofList, referenceText, start, List.cons_append, List.dropWhile_cons,
      if_neg (by simpa using noBlank)]
  refine ⟨by rwa [String.toList_ofList], ?_, rfl⟩
  rw [notIndented]
  exact parse_reference isClass isName isField isIndex

/-- The text of a reference denotes no literal. -/
theorem literalOf_reference (value : Value) :
    literalOf (String.ofList (referenceText class_ name field item)) ≠ .ok value := by
  intro denotes
  obtain ⟨_, isText, denotes⟩ := literalOf_inv denotes
  cases isText.parsed.symm.trans (reads_reference isClass isName isField isIndex).parsed
  cases denotes

end

end Engine

end EachSubject
