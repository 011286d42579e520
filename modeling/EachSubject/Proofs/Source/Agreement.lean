import EachSubject.Source.Parser.Parameters

/-!
# Readers that agree

A reader of an expression looks at what stands in front of it, and at the token behind it only to see
that nothing goes on there. So what it reads from a statement of its own it also reads where another
token ends the expression. Agreement says this of two readers at once, so that it also covers a reader
that may go deeper than another. Inside brackets agreement is only asked for where something is left
in front of the end, as a closing bracket always is.
-/

namespace EachSubject.Source

/-- The tokens that end an expression in a declaration, in brackets, and at the end of a line. -/
def expressionEnds : List Token := [.op ",", .op ")", .op "]", .op "\x7d", .op ":", .op "=", .newline]

/-- What follows an expression that is a statement of its own with a semicolon. -/
def statementEnd : List Token := [.op ";", .newline]

/-- The first end is that of a statement, the second one of those that an expression can have
    elsewhere; or there is nothing at both. -/
inductive EndsAlike : List Token → List Token → Prop where
  | nothing : EndsAlike [] []
  | elsewhere {token : Token} (ends : token ∈ expressionEnds) (next : Token) (rest : List Token) :
      EndsAlike statementEnd (token :: next :: rest)

theorem EndsAlike.length_le {u v : List Token} (alike : EndsAlike u v) : u.length ≤ v.length := by
  cases alike with
  | nothing => exact Nat.le_refl _
  | elsewhere _ next rest => simp [statementEnd]

namespace Parser

variable {α β : Type}

/-- What the first reader takes from tokens before the one end, the second takes from the same tokens
    before the other end. If `edge` does not hold, this is only asked for where tokens are left before
    the end. -/
def Agrees (edge : Bool) (p q : Parser α) : Prop :=
  ∀ (tokens : List Token) {u v : List Token}, EndsAlike u v → ∀ {a : α} {rest : List Token},
    p (tokens ++ u) = some (a, rest) →
      ∃ left, rest = left ++ u ∧ left.length ≤ tokens.length ∧
        (edge = true ∨ u = v ∨ left ≠ [] → q (tokens ++ v) = some (a, left ++ v))

theorem bind_eq_some_iff {p : Parser α} {f : α → Parser β} {tokens rest : List Token} {b : β} :
    (p >>= f) tokens = some (b, rest) ↔
      ∃ a middle, p tokens = some (a, middle) ∧ f a middle = some (b, rest) := by
  cases read : p tokens with
  | none => simp [bind, StateT.bind, read]
  | some found =>
    obtain ⟨a, middle⟩ := found
    constructor
    · intro later
      exact ⟨a, middle, rfl, by simpa [bind, StateT.bind, read] using later⟩
    · rintro ⟨_, _, same, later⟩
      cases same
      simpa [bind, StateT.bind, read] using later

theorem bind_of_some {p : Parser α} {f : α → Parser β} {tokens rest : List Token} {a : α}
    (read : p tokens = some (a, rest)) : (p >>= f) tokens = f a rest := by
  simp [bind, StateT.bind, read]

theorem return_eq (a : α) (tokens : List Token) : (pure a : Parser α) tokens = some (a, tokens) := rfl

theorem bind_of_none {p : Parser α} {f : α → Parser β} {tokens : List Token}
    (read : p tokens = none) : (p >>= f) tokens = none := by
  simp [bind, StateT.bind, read]

/-! ## Progress -/

/-- The reader takes at least so many tokens. -/
def Takes (count : Nat) (p : Parser α) : Prop :=
  ∀ ⦃tokens rest : List Token⦄ ⦃a : α⦄, p tokens = some (a, rest) → rest.length + count ≤ tokens.length

namespace Takes

theorem pure (a : α) : Takes 0 (Pure.pure a : Parser α) := by
  intro tokens rest b read
  cases read
  exact Nat.le_refl _

theorem failure (count : Nat) : Takes count (Alternative.failure : Parser α) := by
  intro tokens rest a read
  cases read

theorem weaken {count : Nat} {p : Parser α} (takes : Takes count p) : Takes 0 p := by
  intro tokens rest a read
  have := takes read
  omega

theorem bind {m n : Nat} {p : Parser α} {f : α → Parser β} (first : Takes m p)
    (later : ∀ a, Takes n (f a)) : Takes (m + n) (p >>= f) := by
  intro tokens rest b read
  obtain ⟨a, middle, readFirst, readLater⟩ := bind_eq_some_iff.1 read
  have := first readFirst
  have := later a readLater
  omega

theorem ite {count : Nat} {condition : Prop} [Decidable condition] {p q : Parser α}
    (yes : Takes count p) (no : Takes count q) : Takes count (if condition then p else q) := by
  by_cases holds : condition
  · simpa only [if_pos holds] using yes
  · simpa only [if_neg holds] using no

theorem expect (token : Token) : Takes 1 (expect token) := by
  intro tokens rest a read
  cases tokens with
  | nil => cases read
  | cons head tail =>
    by_cases isToken : head = token
    · simp only [Parser.expect, if_pos isToken] at read
      cases read
      exact Nat.le_refl _
    · simp [Parser.expect, isToken] at read

theorem identifier : Takes 1 identifier := by
  intro tokens rest a read
  match tokens with
  | .word text :: tail =>
    obtain ⟨name, _, same⟩ := Option.map_eq_some_iff.1 read
    cases same
    exact Nat.le_refl _

end Takes

/-! ## Rules -/

namespace Agrees

variable {edge : Bool}

theorem takes {p q : Parser α} (agree : Agrees edge p q) : Takes 0 p := by
  intro tokens rest a read
  obtain ⟨left, rfl, short, _⟩ := agree tokens .nothing (by rwa [List.append_nil])
  simpa using short

/-- What the first reader reads, the second reads too. -/
theorem sameResult {p q : Parser α} (agree : Agrees edge p q) {tokens rest : List Token} {a : α}
    (read : p tokens = some (a, rest)) : q tokens = some (a, rest) := by
  obtain ⟨left, rfl, _, other⟩ := agree tokens .nothing (by rwa [List.append_nil])
  simpa using other (.inr (.inl rfl))

theorem inside {p q : Parser α} (agree : Agrees true p q) : Agrees edge p q := by
  intro tokens u v alike a rest read
  obtain ⟨left, same, shorter, other⟩ := agree tokens alike read
  exact ⟨left, same, shorter, fun _ => other (.inl rfl)⟩

theorem pure (a : α) : Agrees edge (Pure.pure a) (Pure.pure a) := by
  intro tokens u v alike b rest read
  cases read
  exact ⟨tokens, rfl, Nat.le_refl _, fun _ => rfl⟩

theorem failure (q : Parser α) : Agrees edge Alternative.failure q := by
  intro tokens u v alike a rest read
  cases read

theorem bind {p q : Parser α} {f g : α → Parser β} (first : Agrees edge p q)
    (later : ∀ a, Agrees edge (f a) (g a)) : Agrees edge (p >>= f) (q >>= g) := by
  intro tokens u v alike b rest read
  obtain ⟨a, middle, readFirst, readLater⟩ := bind_eq_some_iff.1 read
  obtain ⟨left, rfl, shorter, otherFirst⟩ := first tokens alike readFirst
  obtain ⟨last, rfl, shorterLast, otherLater⟩ := later a left alike readLater
  refine ⟨last, rfl, by omega, fun asked => ?_⟩
  have askedFirst : edge = true ∨ u = v ∨ left ≠ [] := by
    rcases asked with edge | same | nonempty
    · exact .inl edge
    · exact .inr (.inl same)
    · refine .inr (.inr fun empty => nonempty ?_)
      rw [empty, List.length_nil] at shorterLast
      exact List.length_eq_zero_iff.1 (by omega)
  exact bind_eq_some_iff.2 ⟨a, left ++ v, otherFirst askedFirst, otherLater asked⟩

/-- A reader inside brackets, followed by one that does not accept the end of the statement. -/
theorem closing {p q : Parser α} {f g : α → Parser β} (first : Agrees false p q)
    (later : ∀ a, Agrees true (f a) (g a)) (refuses : ∀ a, f a statementEnd = none) :
    Agrees true (p >>= f) (q >>= g) := by
  intro tokens u v alike b rest read
  obtain ⟨a, middle, readFirst, readLater⟩ := bind_eq_some_iff.1 read
  obtain ⟨left, rfl, shorter, otherFirst⟩ := first tokens alike readFirst
  obtain ⟨last, rfl, shorterLast, otherLater⟩ := later a left alike readLater
  refine ⟨last, rfl, by omega, fun asked => ?_⟩
  have askedFirst : false = true ∨ u = v ∨ left ≠ [] := by
    cases alike with
    | nothing => exact .inr (.inl rfl)
    | elsewhere _ _ _ =>
      refine .inr (.inr fun empty => ?_)
      rw [empty, List.nil_append, refuses] at readLater
      cases readLater
  exact bind_eq_some_iff.2 ⟨a, left ++ v, otherFirst askedFirst, otherLater asked⟩

theorem ite {condition : Prop} [Decidable condition] {p q p' q' : Parser α}
    (yes : Agrees edge p q) (no : Agrees edge p' q') :
    Agrees edge (if condition then p else p') (if condition then q else q') := by
  by_cases holds : condition
  · simpa only [if_pos holds] using yes
  · simpa only [if_neg holds] using no

end Agrees

/-- A reader that takes tokens, followed by one that takes none away from the front of others. -/
theorem Takes.andThen {count : Nat} {edge : Bool} {p : Parser α} {f g : α → Parser β}
    (first : Takes count p) (later : ∀ a, Agrees edge (f a) (g a)) : Takes count (p >>= f) :=
  first.bind (n := 0) fun a => (later a).takes

/-! ## Single tokens -/

private theorem end_ne_semicolon {token : Token} (ends : token ∈ expressionEnds) :
    token ≠ .op ";" := by
  rintro rfl
  exact absurd ends (by decide)

/-- A token that may be next decides what is read. At the end it may only be one that an expression
    ends with if what is read otherwise does not accept the end of the statement. -/
private theorem ifAccepts_agrees {edge : Bool} {token : Token} {p q p' q' : Parser α}
    (ordinary : token ≠ .op ";") (yes : Agrees edge p q) (no : Agrees edge p' q')
    (refuses : edge = true → token ∈ expressionEnds → p' statementEnd = none) :
    Agrees edge (accepts token >>= fun found => if found = true then p else p')
      (accepts token >>= fun found => if found = true then q else q') := by
  intro tokens u v alike a rest read
  obtain ⟨found, middle, accepted, readLater⟩ := bind_eq_some_iff.1 read
  cases tokens with
  | nil =>
    cases alike with
    | nothing =>
      cases accepted
      obtain ⟨left, same, shorter, other⟩ := no [] .nothing readLater
      exact ⟨left, same, shorter, fun asked => bind_eq_some_iff.2 ⟨false, [], rfl, other asked⟩⟩
    | @elsewhere last ends next more =>
      have skipped : accepts token ([] ++ statementEnd) = some (false, statementEnd) := by
        simp [accepts, statementEnd, Ne.symm ordinary]
      rw [skipped] at accepted
      cases accepted
      obtain ⟨left, same, shorter, other⟩ := no [] (.elsewhere ends next more) readLater
      refine ⟨left, same, shorter, fun asked => ?_⟩
      by_cases isLast : last = token
      · rcases asked with edge | same | nonempty
        · have refused := refuses edge (isLast ▸ ends)
          simp only [Bool.false_eq_true, if_false, refused] at readLater
          cases readLater
        · cases same
          exact absurd rfl (end_ne_semicolon ends)
        · rw [List.length_nil, Nat.le_zero, List.length_eq_zero_iff] at shorter
          exact absurd shorter nonempty
      · exact bind_eq_some_iff.2
          ⟨false, last :: next :: more, by simp [accepts, isLast], other asked⟩
  | cons head tail =>
    by_cases isToken : head = token
    · have taken : ∀ w, accepts token (head :: tail ++ w) = some (true, tail ++ w) := by
        simp [accepts, isToken]
      rw [taken] at accepted
      cases accepted
      obtain ⟨left, same, shorter, other⟩ := yes tail alike readLater
      refine ⟨left, same, by simp only [List.length_cons]; omega, fun asked => ?_⟩
      exact bind_eq_some_iff.2 ⟨true, tail ++ v, taken v, other asked⟩
    · have stays : ∀ w, accepts token (head :: tail ++ w) = some (false, head :: tail ++ w) := by
        simp [accepts, isToken]
      rw [stays] at accepted
      cases accepted
      obtain ⟨left, same, shorter, other⟩ := no (head :: tail) alike readLater
      exact ⟨left, same, shorter, fun asked => bind_eq_some_iff.2 ⟨false, _, stays v, other asked⟩⟩

theorem Agrees.ifAccepts {edge : Bool} {token : Token} {p q p' q' : Parser α}
    (ordinary : token ≠ .op ";") (stays : token ∉ expressionEnds) (yes : Agrees edge p q)
    (no : Agrees edge p' q') :
    Agrees edge (accepts token >>= fun found => if found = true then p else p')
      (Parser.accepts token >>= fun found => if found = true then q else q') :=
  ifAccepts_agrees ordinary yes no fun _ ends => absurd ends stays

theorem Agrees.ifAcceptsInside {token : Token} {p q p' q' : Parser α}
    (ordinary : token ≠ .op ";") (yes : Agrees false p q) (no : Agrees false p' q') :
    Agrees false (accepts token >>= fun found => if found = true then p else p')
      (Parser.accepts token >>= fun found => if found = true then q else q') :=
  ifAccepts_agrees ordinary yes no fun impossible => absurd impossible (by decide)

/-- A bracket that closes at once, or else something that does not accept the end of the statement. -/
theorem Agrees.ifCloses {token : Token} {p q p' q' : Parser α} (ordinary : token ≠ .op ";")
    (yes : Agrees true p q) (no : Agrees true p' q') (refuses : p' statementEnd = none) :
    Agrees true (accepts token >>= fun found => if found = true then p else p')
      (Parser.accepts token >>= fun found => if found = true then q else q') :=
  ifAccepts_agrees ordinary yes no fun _ _ => refuses

/-- A reader whose work on the first token does not depend on the others. -/
private theorem agrees_of_head {edge : Bool} {p : Parser α}
    (onToken : ∀ head tail w a rest, p (head :: (tail ++ w)) = some (a, rest) →
      ∃ left, rest = left ++ w ∧ left.length ≤ tail.length + 1 ∧
        ∀ w', p (head :: (tail ++ w')) = some (a, left ++ w'))
    (onNothing : ∀ a rest, p [] = some (a, rest) → rest = [])
    (onEnd : ∀ a rest, p statementEnd = some (a, rest) → rest = statementEnd ∧
      (edge = true → ∀ token ∈ expressionEnds, ∀ next more,
        p (token :: next :: more) = some (a, token :: next :: more))) : Agrees edge p p := by
  intro tokens u v alike a rest read
  cases tokens with
  | nil =>
    cases alike with
    | nothing =>
      obtain rfl := onNothing a rest read
      exact ⟨[], rfl, Nat.le_refl _, fun _ => read⟩
    | elsewhere ends next more =>
      obtain ⟨rfl, other⟩ := onEnd a rest read
      refine ⟨[], rfl, Nat.le_refl _, fun asked => ?_⟩
      rcases asked with edge | same | nonempty
      · exact other edge _ ends next more
      · cases same
        exact absurd rfl (end_ne_semicolon ends)
      · exact absurd rfl nonempty
  | cons head tail =>
    obtain ⟨left, same, shorter, other⟩ := onToken head tail u a rest read
    exact ⟨left, same, shorter, fun _ => other v⟩

/-- A reader whose work on the first two tokens does not depend on the others, and which takes the end
    of a statement behind a token for any other end. -/
theorem agrees_of_two {edge : Bool} {p : Parser α}
    (onTwo : ∀ first second tail w a rest, p (first :: second :: (tail ++ w)) = some (a, rest) →
      ∃ left, rest = left ++ w ∧ left.length ≤ tail.length + 2 ∧
        ∀ w', p (first :: second :: (tail ++ w')) = some (a, left ++ w'))
    (onOne : ∀ first a rest, p (first :: statementEnd) = some (a, rest) →
      ∃ left, rest = left ++ statementEnd ∧ left.length ≤ 1 ∧
        ∀ token ∈ expressionEnds, ∀ next more,
          p (first :: token :: next :: more) = some (a, left ++ token :: next :: more))
    (onEnd : ∀ a rest, p statementEnd = some (a, rest) → rest = statementEnd ∧
      ∀ token ∈ expressionEnds, ∀ next more,
        p (token :: next :: more) = some (a, token :: next :: more))
    (shorter : ∀ tokens a rest, p tokens = some (a, rest) → rest.length ≤ tokens.length) :
    Agrees edge p p := by
  intro tokens u v alike a rest read
  cases alike with
  | nothing =>
    rw [List.append_nil] at read ⊢
    exact ⟨rest, (List.append_nil rest).symm, shorter tokens a rest read, fun _ => by simpa using read⟩
  | elsewhere ends next more =>
    match tokens with
    | [] =>
      obtain ⟨rfl, other⟩ := onEnd a rest read
      exact ⟨[], rfl, Nat.le_refl _, fun _ => other _ ends next more⟩
    | [first] =>
      obtain ⟨left, same, short, other⟩ := onOne first a rest read
      exact ⟨left, same, short, fun _ => other _ ends next more⟩
    | first :: second :: tail =>
      obtain ⟨left, same, short, other⟩ := onTwo first second tail _ a rest read
      exact ⟨left, same, short, fun _ => other _⟩

theorem Agrees.expect {edge : Bool} {token : Token} (ordinary : token ≠ .op ";") :
    Agrees edge (expect token) (Parser.expect token) := by
  refine agrees_of_head ?_ ?_ ?_
  · intro head tail w a rest read
    by_cases isToken : head = token
    · simp only [Parser.expect, if_pos isToken] at read ⊢
      cases read
      exact ⟨tail, rfl, by omega, fun _ => rfl⟩
    · simp [Parser.expect, isToken] at read
  · intro a rest read
    cases read
  · intro a rest read
    simp [Parser.expect, statementEnd, Ne.symm ordinary] at read

theorem Agrees.sees {edge : Bool} {token : Token} (ordinary : token ≠ .op ";")
    (stays : edge = true → token ∉ expressionEnds) :
    Agrees edge (sees token) (Parser.sees token) := by
  refine agrees_of_head ?_ ?_ ?_
  · intro head tail w a rest read
    cases read
    exact ⟨head :: tail, rfl, by simp, fun _ => rfl⟩
  · intro a rest read
    cases read
    rfl
  · intro a rest read
    cases read
    refine ⟨rfl, fun edge last ends next more => ?_⟩
    have different : (last == token) = false := by
      rw [beq_eq_false_iff_ne]
      rintro rfl
      exact stays edge ends
    have notEnd : (Token.op ";" == token) = false := beq_eq_false_iff_ne.2 (Ne.symm ordinary)
    simp [Parser.sees, statementEnd, different, notEnd]

theorem Agrees.accepts {edge : Bool} {token : Token} (ordinary : token ≠ .op ";")
    (stays : edge = true → token ∉ expressionEnds) :
    Agrees edge (accepts token) (Parser.accepts token) := by
  refine agrees_of_head ?_ ?_ ?_
  · intro head tail w a rest read
    by_cases isToken : head = token
    · simp only [Parser.accepts, if_pos isToken] at read ⊢
      cases read
      exact ⟨tail, rfl, by omega, fun _ => rfl⟩
    · simp only [Parser.accepts, if_neg isToken] at read ⊢
      cases read
      exact ⟨head :: tail, rfl, by simp, fun _ => rfl⟩
  · intro a rest read
    cases read
    rfl
  · intro a rest read
    have skipped : Parser.accepts token statementEnd = some (false, statementEnd) := by
      simp [Parser.accepts, statementEnd, Ne.symm ordinary]
    rw [skipped] at read
    cases read
    refine ⟨rfl, fun edge last ends next more => ?_⟩
    have different : last ≠ token := by
      rintro rfl
      exact stays edge ends
    simp [Parser.accepts, different]

theorem Agrees.next : Agrees false next Parser.next := by
  refine agrees_of_head ?_ ?_ ?_
  · intro head tail w a rest read
    cases read
    exact ⟨head :: tail, rfl, by simp, fun _ => rfl⟩
  · intro a rest read
    cases read
    rfl
  · intro a rest read
    cases read
    exact ⟨rfl, fun impossible => absurd impossible (by decide)⟩

theorem Agrees.identifier {edge : Bool} : Agrees edge identifier Parser.identifier := by
  refine agrees_of_head ?_ ?_ ?_
  · intro head tail w a rest read
    cases head with
    | word text =>
      simp only [Parser.identifier, Option.map_eq_some_iff] at read ⊢
      obtain ⟨name, named, same⟩ := read
      cases same
      exact ⟨tail, rfl, by omega, fun _ => ⟨_, named, rfl⟩⟩
    | _ => cases read
  · intro a rest read
    cases read
  · intro a rest read
    cases read

theorem Agrees.anyOf {edge : Bool} {ops : List String} (ordinary : ";" ∉ ops)
    (stays : edge = true → ∀ op ∈ ops, .op op ∉ expressionEnds) :
    Agrees edge (anyOf ops) (Parser.anyOf ops) := by
  refine agrees_of_head ?_ ?_ ?_
  · intro head tail w a rest read
    cases head with
    | op text =>
      by_cases listed : text ∈ ops
      · simp only [Parser.anyOf, List.contains_iff_mem, if_pos listed] at read ⊢
        cases read
        exact ⟨tail, rfl, by omega, fun _ => rfl⟩
      · simp only [Parser.anyOf, List.contains_iff_mem, if_neg listed] at read ⊢
        cases read
        exact ⟨.op text :: tail, rfl, by simp, fun _ => rfl⟩
    | _ =>
      cases read
      exact ⟨_ :: tail, rfl, by simp, fun _ => rfl⟩
  · intro a rest read
    cases read
    rfl
  · intro a rest read
    have skipped : Parser.anyOf ops statementEnd = some (none, statementEnd) := by
      simp [Parser.anyOf, statementEnd, ordinary]
    rw [skipped] at read
    cases read
    refine ⟨rfl, fun edge last ends next more => ?_⟩
    cases last with
    | op text =>
      have unlisted : text ∉ ops := fun listed => stays edge text listed ends
      simp [Parser.anyOf, unlisted]
    | _ => rfl

/-! ## Repetition -/

private theorem repeatAtMost_agrees {edge : Bool} {step step' : Parser (Option α)}
    (agree : Agrees edge step step') (fuel fuel' : Nat) (enough : fuel ≤ fuel') :
    Agrees edge (repeatAtMost step fuel) (repeatAtMost step' fuel') := by
  induction fuel generalizing fuel' with
  | zero =>
    intro tokens u v alike a rest read
    cases read
  | succ fuel ih =>
    obtain ⟨fuel', rfl⟩ : ∃ n, fuel' = n + 1 := ⟨fuel' - 1, by omega⟩
    refine agree.bind fun found => ?_
    cases found with
    | none => exact .pure []
    | some a => exact (ih fuel' (by omega)).bind fun more => .pure (a :: more)

theorem Agrees.repeated {edge : Bool} {step step' : Parser (Option α)}
    (agree : Agrees edge step step') : Agrees edge (repeated step) (Parser.repeated step') := by
  intro tokens u v alike a rest read
  have enough : (tokens ++ u).length + 1 ≤ (tokens ++ v).length + 1 := by
    simpa using alike.length_le
  exact repeatAtMost_agrees agree _ _ enough tokens alike read

/-! ## Lists of items -/

private theorem commaBefore_two (starts : Token → Bool) (first second : Token)
    (more : List Token) :
    commaBefore starts (first :: second :: more) =
      if first = .op "," ∧ starts second = true then some (true, second :: more)
      else some (false, first :: second :: more) := by
  cases first with
  | op text =>
    by_cases comma : text = "," <;> cases starting : starts second <;>
      simp [commaBefore, comma, starting]
  | _ => simp [commaBefore]

private theorem commaBefore_one (starts : Token → Bool) (only : Token) :
    commaBefore starts [only] = some (false, [only]) := by
  cases only <;> rfl

/-- Where no comma stands alone before the end, a comma with a further item behind it is seen from the
    tokens before the end. -/
private theorem commaBefore_agrees {starts : Token → Bool} (refuses : starts (.op ";") = false)
    (tokens : List Token) {u v : List Token} (alike : EndsAlike u v) {found : Bool}
    {rest : List Token} (read : commaBefore starts (tokens ++ u) = some (found, rest)) :
    ∃ left, rest = left ++ u ∧ left.length ≤ tokens.length ∧ (found = false → left = tokens) ∧
      (found = true → tokens ≠ [] ∧ tokens ≠ [.op ","]) ∧
      (u = v ∨ (tokens ≠ [] ∧ tokens ≠ [.op ","]) →
        commaBefore starts (tokens ++ v) = some (found, left ++ v)) := by
  match tokens with
  | [] =>
    cases alike with
    | nothing =>
      cases read
      exact ⟨[], rfl, Nat.le_refl _, fun _ => rfl, by simp, fun _ => rfl⟩
    | elsewhere ends next more =>
      rw [statementEnd, List.nil_append, commaBefore_two, if_neg (by simp)] at read
      cases read
      refine ⟨[], rfl, Nat.le_refl _, fun _ => rfl, by simp, fun asked => ?_⟩
      rcases asked with same | ⟨nonempty, _⟩
      · cases same
        exact absurd rfl (end_ne_semicolon ends)
      · exact absurd rfl nonempty
  | [only] =>
    cases alike with
    | nothing =>
      rw [List.append_nil, commaBefore_one] at read
      cases read
      exact ⟨[only], rfl, Nat.le_refl _, fun _ => rfl, by simp, fun _ => commaBefore_one starts only⟩
    | elsewhere ends next more =>
      rw [statementEnd, List.singleton_append, commaBefore_two, if_neg (by simp [refuses])] at read
      cases read
      refine ⟨[only], rfl, Nat.le_refl _, fun _ => rfl, by simp, fun asked => ?_⟩
      rcases asked with same | ⟨_, noComma⟩
      · cases same
        exact absurd rfl (end_ne_semicolon ends)
      · have different : only ≠ .op "," := fun same => noComma (by rw [same])
        rw [List.singleton_append, commaBefore_two, if_neg fun both => different both.1]
  | first :: second :: more =>
    simp only [List.cons_append, commaBefore_two] at read ⊢
    by_cases comma : first = .op "," ∧ starts second = true
    · rw [if_pos comma] at read
      cases read
      exact ⟨second :: more, rfl, by simp, by simp, by simp, fun _ => by rw [if_pos comma]; rfl⟩
    · rw [if_neg comma] at read
      cases read
      exact ⟨first :: second :: more, rfl, by simp, fun _ => rfl, by simp, fun _ => by rw [if_neg comma]; rfl⟩

/-- An item behind a comma, if there is one. -/
private def nextItem (starts : Token → Bool) (item : Parser α) : Parser (Option α) := do
  if ← commaBefore starts then return some (← item) else return none

private theorem items_agree {starts : Token → Bool} (refuses : starts (.op ";") = false)
    {item item' : Parser α} (agree : Agrees false item item') (fuel fuel' : Nat)
    (enough : fuel ≤ fuel') (tokens : List Token) {u v : List Token} (alike : EndsAlike u v)
    {items : List α} {rest : List Token}
    (read : repeatAtMost (nextItem starts item) fuel (tokens ++ u) = some (items, rest)) :
    ∃ left, rest = left ++ u ∧ left.length ≤ tokens.length ∧
      (u = v ∨ (left ≠ [] ∧ left ≠ [.op ","]) →
        repeatAtMost (nextItem starts item') fuel' (tokens ++ v) = some (items, left ++ v)) := by
  induction fuel generalizing fuel' tokens items with
  | zero => cases read
  | succ fuel ih =>
    obtain ⟨fuel', rfl⟩ : ∃ n, fuel' = n + 1 := ⟨fuel' - 1, by omega⟩
    obtain ⟨found, middle, readStep, readMore⟩ := bind_eq_some_iff.1 read
    obtain ⟨comma, behind, readComma, readItem⟩ := bind_eq_some_iff.1 readStep
    obtain ⟨left, rfl, shorter, unmoved, inFront, otherComma⟩ :=
      commaBefore_agrees refuses tokens alike readComma
    cases comma with
    | false =>
      cases readItem
      cases readMore
      obtain rfl := unmoved rfl
      refine ⟨left, rfl, Nat.le_refl _, fun asked => ?_⟩
      exact bind_eq_some_iff.2
        ⟨none, left ++ v, bind_eq_some_iff.2 ⟨false, left ++ v, otherComma asked, rfl⟩, rfl⟩
    | true =>
      obtain ⟨a, behindItem, readA, same⟩ := bind_eq_some_iff.1 readItem
      cases same
      obtain ⟨leftItem, rfl, shorterItem, otherItem⟩ := agree left alike readA
      obtain ⟨more, behindMore, readMore, same⟩ := bind_eq_some_iff.1 readMore
      cases same
      obtain ⟨last, rfl, shorterLast, otherMore⟩ := ih fuel' (by omega) leftItem readMore
      refine ⟨last, rfl, by omega, fun asked => ?_⟩
      have askedItem : false = true ∨ u = v ∨ leftItem ≠ [] := by
        rcases asked with same | ⟨nonempty, _⟩
        · exact .inr (.inl same)
        · refine .inr (.inr fun empty => nonempty ?_)
          rw [empty, List.length_nil] at shorterLast
          exact List.length_eq_zero_iff.1 (by omega)
      refine bind_eq_some_iff.2 ⟨some a, leftItem ++ v, bind_eq_some_iff.2
        ⟨true, left ++ v, otherComma (.inr (inFront rfl)), ?_⟩, ?_⟩
      · exact bind_eq_some_iff.2 ⟨a, leftItem ++ v, otherItem askedItem, rfl⟩
      · exact bind_eq_some_iff.2 ⟨more, last ++ v, otherMore asked, rfl⟩

/-- Items behind commas, inside brackets. -/
theorem Agrees.moreStarting {starts : Token → Bool} (refuses : starts (.op ";") = false)
    {item item' : Parser α} (agree : Agrees false item item') :
    Agrees false (moreStarting starts item) (Parser.moreStarting starts item') := by
  intro tokens u v alike found rest read
  obtain ⟨items, middle, readItems, readTrailing⟩ := bind_eq_some_iff.1 read
  have enough : (tokens ++ u).length + 1 ≤ (tokens ++ v).length + 1 := by
    simpa using alike.length_le
  obtain ⟨left, rfl, shorter, otherItems⟩ :=
    items_agree refuses agree _ _ enough tokens alike readItems
  obtain ⟨trailing, behind, readComma, same⟩ := bind_eq_some_iff.1 readTrailing
  cases same
  have ordinary : Token.op "," ≠ .op ";" := by decide
  obtain ⟨last, rfl, shorterLast, otherComma⟩ :=
    (Agrees.accepts ordinary (by simp) : Agrees false _ _) left alike readComma
  refine ⟨last, rfl, by omega, fun asked => ?_⟩
  have askedItems : u = v ∨ (left ≠ [] ∧ left ≠ [.op ","]) := by
    rcases asked with impossible | same | nonempty
    · cases impossible
    · exact .inl same
    · refine .inr ⟨?_, ?_⟩
      · rintro rfl
        rw [List.length_nil, Nat.le_zero, List.length_eq_zero_iff] at shorterLast
        exact nonempty shorterLast
      · rintro rfl
        have taken : Parser.accepts (.op ",") ([.op ","] ++ u) = some (true, u) := by
          simp [Parser.accepts]
        rw [taken] at readComma
        simp only [Option.some.injEq, Prod.mk.injEq] at readComma
        have := congrArg List.length readComma.2
        rw [List.length_append] at this
        exact nonempty (List.length_eq_zero_iff.1 (by omega))
  exact bind_eq_some_iff.2 ⟨items, left ++ v, otherItems askedItems,
    bind_eq_some_iff.2 ⟨trailing, last ++ v, otherComma asked, rfl⟩⟩

theorem Agrees.moreItems {item item' : Parser α} (agree : Agrees false item item') :
    Agrees false (moreItems item) (Parser.moreItems item') := .moreStarting (by decide) agree

end Parser

end EachSubject.Source
