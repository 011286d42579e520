import EachSubject.Proofs.Source.Primary
import Mathlib.Data.List.Forall2

/-!
# Attributes and calls

A primary is an atom with trailers. `Heads` says that tokens make up a primary to which further trailers
can be added, so that attributes and calls can be put together one trailer at a time.
-/

namespace EachSubject.Source

open EachSubject.Source.Parser Grammar

/-! ## Lists of items -/

/-- Items behind others, each after a comma. -/
def behindCommas (items : List (List Token)) : List Token :=
  items.flatMap fun item => .op "," :: item

/-- Items separated by commas. -/
def commaSeparated : List (List Token) → List Token
  | [] => []
  | item :: rest => item ++ behindCommas rest

/-- What stands behind an item. -/
theorem behind_item (closing : Token) (items : List (List Token)) {last : Token} (isLast : last ∈ [.op ",", closing])
    (next : Token) (rest : List Token) :
    ∃ stop second tail, behindCommas items ++ last :: next :: rest = stop :: second :: tail ∧
      stop ∈ [.op ",", closing] := by
  cases items with
  | nil => exact ⟨last, next, rest, rfl, isLast⟩
  | cons item items =>
    obtain ⟨second, tail, same⟩ : ∃ second tail,
        item ++ (behindCommas items ++ last :: next :: rest) = second :: tail :=
      List.exists_cons_of_ne_nil (by simp)
    exact ⟨.op ",", second, tail, by simpa [behindCommas] using same, List.mem_cons_self⟩

/-- The tokens are an item of a list that a token closes. -/
structure IsItem {α : Type} (starts : Token → Bool) (closing : Token) (item : Parser α) (tokens : List Token) (a : α) :
    Prop where
  starts : ∃ first more, tokens = first :: more ∧ starts first = true
  reads : ∀ stop ∈ [.op ",", closing], ∀ next rest, item (tokens ++ stop :: next :: rest) =
    some (a, stop :: next :: rest)

section

variable {α : Type} {starts : Token → Bool} {closing : Token} {item : Parser α} {items : List (List Token)}
  {found : List α}

/-- The items of a list behind the first one, up to a token that is no comma in front of a further item. -/
private theorem itemsBehind_read (each : List.Forall₂ (IsItem starts closing item) items found) {last next : Token}
    {rest : List Token} (isLast : last ∈ [.op ",", closing])
    (ends : commaBefore starts (last :: next :: rest) = some (false, last :: next :: rest)) :
    repeated (do if ← commaBefore starts then return some (← item) else return none)
      (behindCommas items ++ last :: next :: rest) = some (found, last :: next :: rest) := by
  induction each with
  | nil => exact repeated_nil (bind_of_some ends)
  | @cons tokens a items others first behind further =>
    obtain ⟨⟨head, more, rfl, isStart⟩, reads⟩ := first
    obtain ⟨stop, second, tail, same, isStop⟩ := behind_item closing items isLast next rest
    have comma : commaBefore starts (.op "," :: (head :: more ++ stop :: second :: tail)) =
        some (true, head :: more ++ stop :: second :: tail) := by
      simp [commaBefore, isStart]
    have split : behindCommas ((head :: more) :: items) ++ last :: next :: rest =
        .op "," :: (head :: more ++ stop :: second :: tail) := by
      rw [← same]
      simp [behindCommas]
    rw [same] at further
    rw [split]
    refine repeated_cons ?_ (by simp only [List.length_append, List.length_cons]; omega) further
    rw [bind_of_some comma, if_pos rfl, bind_of_some (reads stop isStop second tail)]
    rfl

/-- The items of a list behind the first one. -/
theorem moreStarting_read (each : List.Forall₂ (IsItem starts closing item) items found) (closes : closing ≠ .op ",")
    (next : Token) (rest : List Token) : moreStarting starts item (behindCommas items ++ closing :: next :: rest) =
      some ((found, !found.isEmpty), closing :: next :: rest) := by
  have noComma : commaBefore starts (closing :: next :: rest) = some (false, closing :: next :: rest) := by
    cases closing with
    | op text =>
      have : text ≠ "," := fun same => closes (same ▸ rfl)
      simp [commaBefore, this]
    | _ => rfl
  rw [moreStarting, bind_of_some (itemsBehind_read each (.tail _ (.head _)) noComma),
    bind_of_some (accepts_other closes _)]
  cases found <;> rfl

/-- The items of a list behind the first one, with a comma behind the last one. -/
theorem moreStarting_trailing (each : List.Forall₂ (IsItem starts closing item) items found)
    (noItem : starts closing = false) (rest : List Token) :
    moreStarting starts item (behindCommas items ++ .op "," :: closing :: rest) =
      some ((found, true), closing :: rest) := by
  have noComma : commaBefore starts (.op "," :: closing :: rest) = some (false, .op "," :: closing :: rest) := by
    simp [commaBefore, noItem]
  rw [moreStarting, bind_of_some (itemsBehind_read each (.head _) noComma), bind_of_some (accepts_same _ _)]
  rfl

end

namespace Grammar

variable {inner : Grammar} {tokens rest : List Token} {e : Expr}

/-! ## Trailers -/

/-- The tokens are a primary so far: with the trailers behind them, they make up what the trailers make
    of it. -/
def Heads (inner : Grammar) (tokens : List Token) (e : Expr) : Prop :=
  ∀ ⦃next : Token⦄ ⦃behind rest : List Token⦄ ⦃trailers : List Trailer⦄,
    repeated (trailer inner) (next :: behind) = some (trailers, rest) →
      primaryHere inner (tokens ++ next :: behind) = some (trailers.foldl Trailer.apply e, rest)

namespace Heads

/-- What is an atom in front of everything is a primary so far. -/
theorem atom (reads : ∀ next rest, Grammar.atom inner (tokens ++ next :: rest) = some (e, next :: rest)) :
    Heads inner tokens e := by
  intro next behind rest trailers read
  rw [primaryHere, bind_of_some (reads next behind), bind_of_some read]
  rfl

theorem name {word name : String} (isName : nameOf? word = some name) :
    Heads inner [.word word] (.name name) :=
  atom fun _ _ => atom_name isName _

theorem member (heads : Heads inner tokens e) {word name : String} (isName : nameOf? word = some name) :
    Heads inner (tokens ++ [.op ".", .word word]) (.attribute e name) := by
  intro next behind rest trailers read
  have first : trailer inner (.op "." :: .word word :: next :: behind) =
      some (some (.member name), next :: behind) := by
    rw [trailer, bind_of_some (show anyOf [".", "(", "["] _ = some (some ".", _) from rfl)]
    simp [identifier, isName, bind, StateT.bind, return_eq]
  have whole := heads (repeated_cons first (by simp only [List.length_cons]; omega) read)
  rwa [List.append_assoc]

theorem call (heads : Heads inner tokens e) {passed : List Token} {arguments : List Argument}
    (reads : ∀ next rest, Grammar.arguments inner (passed ++ next :: rest) = some (arguments, next :: rest)) :
    Heads inner (tokens ++ .op "(" :: passed) (.call e arguments) := by
  intro next behind rest trailers read
  have first : trailer inner (.op "(" :: (passed ++ next :: behind)) =
      some (some (.call arguments), next :: behind) := by
    rw [trailer, bind_of_some (show anyOf [".", "(", "["] _ = some (some "(", _) from rfl)]
    exact bind_of_some (reads next behind)
  have whole := heads (repeated_cons first (by simp only [List.length_append, List.length_cons]; omega) read)
  rwa [List.append_assoc]

/-- Nothing is added in front of a token that starts no trailer. -/
theorem primary (heads : Heads inner tokens e) {next : Token} (ends : startsTrailer next = false) :
    primaryHere inner (tokens ++ next :: rest) = some (e, next :: rest) :=
  heads (repeated_nil (trailer_none ends rest))

end Heads

end Grammar

/-! ## Expressions -/

namespace StandFor

variable {least : Nat} {first : Token} {tokens : List Token} {e : Expr}

private theorem ends_quiet {stop : Token} (ends : stop ∈ expressionEnds) : stop ∈ quietTokens :=
  List.mem_cons_of_mem _ (List.mem_cons_of_mem _ ends)

/-- A primary by itself. -/
theorem heads (heads : ∀ depth, least ≤ depth → Heads (grammar depth) (first :: tokens) e)
    (plain : startsPlainly first = true) : StandFor (least + 1) (first :: tokens) e := by
  intro depth deeper stop ends next rest
  obtain ⟨inside, rfl⟩ := Nat.exists_eq_add_of_le' (Nat.le_trans (Nat.le_add_left 1 least) deeper)
  have quiet := ends_quiet ends
  exact expressionHere_stops plain quiet
    (Heads.primary (heads inside (by omega)) (quiet_ends stop quiet))

/-- A primary that is awaited. -/
theorem awaits (heads : ∀ depth, least ≤ depth → Heads (grammar depth) tokens e) :
    StandFor (least + 1) (.word "await" :: tokens) (.awaited e) := by
  intro depth deeper stop ends next rest
  obtain ⟨inside, rfl⟩ := Nat.exists_eq_add_of_le' (Nat.le_trans (Nat.le_add_left 1 least) deeper)
  have quiet := ends_quiet ends
  exact expressionHere_awaits quiet (Heads.primary (heads inside (by omega)) (quiet_ends stop quiet))

theorem name {word name : String} (isName : nameOf? word = some name) :
    StandFor 1 [.word word] (.name name) :=
  heads (fun _ _ => Heads.name isName) (name_startsPlainly isName)

end StandFor

/-! ## Arguments -/

namespace Grammar

variable {inner : Grammar} {item : List Token} {passed : Argument}

/-- The tokens pass one argument on, in front of a comma or of the closing parenthesis. -/
abbrev Passes (inner : Grammar) : List Token → Argument → Prop := IsItem startsItem (.op ")") (argument inner)

theorem startsItem_name {word name : String} (isName : nameOf? word = some name) :
    startsItem (.word word) = true := by
  simp [startsItem, not_reserved isName]

theorem named_plain {tokens : List Token} (unnamed : ∀ word more, tokens ≠ .word word :: .op ":=" :: more) :
    named inner tokens = inner.expression tokens := by
  have plain : startsNaming tokens = some (false, tokens) := by
    rw [startsNaming]
    exact unnamed
  rw [named, bind_of_some plain]
  rfl

private theorem expression_name {depth : Nat} {word name : String} {stop : Token}
    (isName : nameOf? word = some name) (deep : 0 < depth) (isStop : stop ∈ [Token.op ",", .op ")"])
    (next : Token) (rest : List Token) : (grammar depth).expression (.word word :: stop :: next :: rest) =
      some (.name name, stop :: next :: rest) :=
  StandFor.name isName deep stop
    ((by decide : ∀ stop ∈ [Token.op ",", .op ")"], stop ∈ expressionEnds) stop isStop) next rest

namespace Passes

variable {depth least : Nat} {tokens : List Token} {e : Expr}

theorem spread {word name : String} (isName : nameOf? word = some name) (deep : 0 < depth) :
    Passes (grammar depth) [.op "*", .word word] (.spread (.name name)) where
  starts := ⟨_, _, rfl, by decide⟩
  reads stop isStop next rest := by
    simp [argument, expression_name isName deep isStop]

theorem spreadKeywords {word name : String} (isName : nameOf? word = some name) (deep : 0 < depth) :
    Passes (grammar depth) [.op "**", .word word] (.spreadKeywords (.name name)) where
  starts := ⟨_, _, rfl, by decide⟩
  reads stop isStop next rest := by
    simp [argument, expression_name isName deep isStop]

theorem keyword {word name other value : String} (isName : nameOf? word = some name)
    (isValue : nameOf? other = some value) (deep : 0 < depth) :
    Passes (grammar depth) [.word word, .op "=", .word other] (.keyword name (.name value)) where
  starts := ⟨_, _, rfl, startsItem_name isName⟩
  reads stop isStop next rest := by
    simp [argument, isName, expression_name isValue deep isStop]

/-- A positional argument that starts like no other one. -/
theorem positional (stands : StandFor least tokens e) (deep : least ≤ depth)
    (starts : ∃ first more, tokens = first :: more ∧ startsItem first = true)
    (plain : ∀ word op more, tokens = .word word :: .op op :: more → op ≠ "=" ∧ op ≠ ":=") :
    Passes (grammar depth) tokens (.positional e) where
  starts := starts
  reads stop isStop next rest := by
    have ends := (by decide : ∀ stop ∈ [Token.op ",", .op ")"], stop ∈ expressionEnds) stop isStop
    have read := stands deep stop ends next rest
    obtain ⟨first, more, same, unstarred⟩ := StandFor.starts stands
    have unnamed : ∀ word op behind, tokens ++ stop :: next :: rest = .word word :: .op op :: behind →
        op ≠ "=" ∧ op ≠ ":=" := by
      intro word op behind is
      subst same
      cases more with
      | nil =>
        simp only [List.cons_append, List.nil_append, List.cons.injEq] at is
        obtain ⟨_, rfl, _⟩ := is
        constructor
        · rintro rfl
          revert isStop
          decide
        · rintro rfl
          revert isStop
          decide
      | cons second more =>
        simp only [List.cons_append, List.cons.injEq] at is
        obtain ⟨rfl, rfl, _⟩ := is
        exact plain word op more rfl
    have asNamed : named (grammar depth) (tokens ++ stop :: next :: rest) = some (e, stop :: next :: rest) := by
      rw [named_plain fun word behind is => (unnamed word ":=" behind is).2 rfl, read]
    rw [argument, asNamed]
    · rfl
    · intro behind is
      rw [same, List.cons_append, List.cons.injEq] at is
      exact unstarred "*" (by decide) is.1
    · intro behind is
      rw [same, List.cons_append, List.cons.injEq] at is
      exact unstarred "**" (by decide) is.1
    · exact fun word behind is => (unnamed word "=" behind is).1 rfl

theorem name {word name : String} (isName : nameOf? word = some name) (deep : 0 < depth) :
    Passes (grammar depth) [.word word] (.positional (.name name)) :=
  positional (StandFor.name isName) deep ⟨_, _, rfl, startsItem_name isName⟩ (by simp)

end Passes

/-- The arguments of a call with the closing parenthesis. -/
theorem arguments_read {items : List (List Token)} {passed : List Argument}
    (passes : List.Forall₂ (Passes inner) items passed)
    (order : argumentsInOrder false false passed = true) (next : Token) (rest : List Token) :
    arguments inner (commaSeparated items ++ .op ")" :: next :: rest) = some (passed, next :: rest) := by
  cases passes with
  | nil => rfl
  | @cons item first items others passesFirst behind =>
    obtain ⟨⟨head, more, rfl, starts⟩, reads⟩ := passesFirst
    obtain ⟨stop, second, tail, same, isStop⟩ :=
      behind_item (.op ")") items (.tail _ (.head _)) next rest
    have noClose : head ≠ .op ")" := by
      rintro rfl
      revert starts
      decide
    have finished : arguments.finish inner first (stop :: second :: tail) =
        some (first :: others, next :: rest) := by
      rw [← same, arguments.finish, moreItems, bind_of_some (moreStarting_read behind (by decide) next rest)]
      dsimp only
      rw [bind_of_some (expect_same _ _), if_pos order]
      rfl
    have split : commaSeparated ((head :: more) :: items) ++ .op ")" :: next :: rest =
        head :: more ++ stop :: second :: tail := by
      rw [commaSeparated, List.append_assoc, same]
    rw [split, List.cons_append, arguments, bind_of_some (accepts_other noClose _), if_neg (by decide)]
    rw [← List.cons_append, bind_of_some (reads stop isStop second tail)]
    cases first with
    | positional e =>
      have noClause : startsClause (stop :: second :: tail) = some (false, stop :: second :: tail) := by
        have words : ∀ word, stop ≠ .word word := by
          rintro word rfl
          simp at isStop
        rw [startsClause]
        · exact fun _ is => words "for" (List.cons.inj is).1
        · exact fun _ is => words "async" (List.cons.inj is).1
      exact (bind_of_some noClause).trans finished
    | spread e => exact finished
    | keyword name e => exact finished
    | spreadKeywords e => exact finished

/-! ## Indices -/

/-- The index that a single item makes. -/
def indexOf : Expr → Expr
  | .starred e => .tuple [.starred e]
  | e => e

/-- The index that an item makes with others behind it. -/
def indexWith (e : Expr) : List Expr → Expr
  | [] => indexOf e
  | others => .tuple (e :: others)

variable {depth least : Nat} {tokens : List Token} {e : Expr}

/-- An expression between the brackets of a subscript. -/
private theorem sliceItem_read (stands : StandFor least tokens e) (deep : least ≤ depth) {stop : Token}
    (isStop : stop ∈ [.op ",", .op "]"]) (next : Token) (rest : List Token) :
    sliceItem (grammar depth) (tokens ++ stop :: next :: rest) = some (e, stop :: next :: rest) := by
  have ends := (by decide : ∀ stop ∈ [Token.op ",", .op "]"], stop ∈ expressionEnds) stop isStop
  have noColon := (by decide : ∀ stop ∈ [Token.op ",", .op "]"], stop ≠ .op ":") stop isStop
  have read := stands deep stop ends next rest
  have unnamed := StandFor.names_nothing stands ends (next :: rest)
  obtain ⟨first, more, rfl, ordinary⟩ := StandFor.starts stands
  rw [List.cons_append] at read unnamed ⊢
  rw [sliceItem, bind_of_some (accepts_other (ordinary "*" (by decide)) _), if_neg (by decide),
    bind_of_some unnamed, if_neg (by decide), bind_of_some (sees_other (ordinary ":" (by decide)) _),
    if_neg (by decide), bind_of_some read, bind_of_some (return_eq _ _)]
  exact bind_of_some (accepts_other noColon _)

/-- An expression between the brackets of a subscript, behind others. -/
theorem IsItem.slice (stands : StandFor least tokens e) (deep : least ≤ depth)
    (starts : ∃ first more, tokens = first :: more ∧ startsItem first = true) :
    IsItem startsSlice (.op "]") (sliceItem (grammar depth)) tokens e where
  starts := by
    obtain ⟨first, more, same, isStart⟩ := starts
    exact ⟨first, more, same, by rw [startsSlice, isStart, Bool.true_or]⟩
  reads _ isStop := sliceItem_read stands deep isStop

/-- The index of a subscript with the closing bracket. -/
theorem index_read {items : List (List Token)} {others : List Expr} (stands : StandFor least tokens e)
    (deep : least ≤ depth)
    (each : List.Forall₂ (IsItem startsSlice (.op "]") (sliceItem (grammar depth))) items others) (next : Token)
    (rest : List Token) : subscriptIndex (grammar depth) (tokens ++ behindCommas items ++ .op "]" :: next :: rest) =
      some (indexWith e others, next :: rest) := by
  obtain ⟨stop, second, tail, same, isStop⟩ := behind_item (.op "]") items (.tail _ (.head _)) next rest
  have more := moreStarting_read each (by decide) next rest
  rw [List.append_assoc, same, subscriptIndex, bind_of_some (sliceItem_read stands deep isStop second tail), ← same,
    bind_of_some more]
  dsimp only
  rw [bind_of_some (expect_same _ _)]
  cases others <;> cases e <;> rfl

/-- A subscript. -/
theorem Heads.subscript {primary : List Token} {object : Expr} {items : List (List Token)} {others : List Expr}
    (heads : Heads (grammar depth) primary object) (stands : StandFor least tokens e) (deep : least ≤ depth)
    (each : List.Forall₂ (IsItem startsSlice (.op "]") (sliceItem (grammar depth))) items others) :
    Heads (grammar depth) (primary ++ .op "[" :: (tokens ++ behindCommas items ++ [.op "]"]))
      (.subscript object (indexWith e others)) := by
  intro next behind rest trailers read
  have taken : trailer (grammar depth) (.op "[" :: (tokens ++ behindCommas items ++ .op "]" :: next :: behind)) =
      some (some (.index (indexWith e others)), next :: behind) := by
    rw [trailer, bind_of_some (show anyOf [".", "(", "["] _ = some (some "[", _) from rfl)]
    exact bind_of_some (index_read stands deep each next behind)
  have whole := heads (repeated_cons taken (by simp only [List.length_append, List.length_cons]; omega) read)
  simpa [Trailer.apply] using whole

/-- A subscript with a single item. -/
theorem Heads.index {primary : List Token} {object : Expr} (heads : Heads (grammar depth) primary object)
    (stands : StandFor least tokens e) (deep : least ≤ depth) :
    Heads (grammar depth) (primary ++ .op "[" :: (tokens ++ [.op "]"])) (.subscript object (indexOf e)) := by
  simpa [behindCommas, indexWith] using heads.subscript stands deep .nil

end Grammar

end EachSubject.Source
