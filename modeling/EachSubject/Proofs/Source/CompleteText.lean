import EachSubject.Proofs.Source.ExpressionAgreement
import EachSubject.Proofs.Source.Scanning

/-!
# Texts of expressions

A text is a complete expression if it reads as one that a semicolon ends. Such a text keeps its meaning
wherever it is copied in front of a stop: the same tokens stand there, and they are read as the same
expression.
-/

namespace EachSubject.Source

/-- The text stands on one line and is cut into these tokens, alone and in front of a semicolon, so that
    no comment at its end hides what follows. -/
structure Spells (text : List Char) (tokens : List Token) : Prop where
  noNewline : '\n' ∉ text
  noReturn : '\r' ∉ text
  alone : tokens? text = some (tokens ++ [.newline])
  closed : tokens? (text ++ [';']) = some (tokens ++ statementEnd)

instance (text : List Char) (tokens : List Token) : Decidable (Spells text tokens) :=
  decidable_of_iff ('\n' ∉ text ∧ '\r' ∉ text ∧ tokens? text = some (tokens ++ [.newline]) ∧
      tokens? (text ++ [';']) = some (tokens ++ statementEnd))
    ⟨fun ⟨noNewline, noReturn, alone, closed⟩ => ⟨noNewline, noReturn, alone, closed⟩,
      fun spells => ⟨spells.noNewline, spells.noReturn, spells.alone, spells.closed⟩⟩

/-- The text is a complete expression on one line. Blanks before it do not count. -/
def ReadsAs (text : String) (e : Expr) : Prop :=
  ∃ tokens, Spells (text.toList.dropWhile isInlineSpace) tokens ∧
    (grammar (text.toList.length + 1)).expression (tokens ++ statementEnd) = some (e, statementEnd)

/-! ## Clean texts -/

/-- The text holds neither the character that no module holds nor one that would become a line end. -/
def isClean (text : List Char) : Bool := text.all fun c => c != nulCharacter && c != '\r'

@[simp] theorem isClean_nil : isClean [] = true := rfl

@[simp] theorem isClean_cons (c : Char) (text : List Char) :
    isClean (c :: text) = (c != '\x00' && c != '\r' && isClean text) := rfl

@[simp] theorem isClean_append (text more : List Char) : isClean (text ++ more) = (isClean text && isClean more) :=
  List.all_append

theorem isClean_iff {text : List Char} : isClean text = true ↔ nulCharacter ∉ text ∧ '\r' ∉ text := by
  simp only [isClean, List.all_eq_true, Bool.and_eq_true, bne_iff_ne, ne_eq]
  exact ⟨fun clean => ⟨fun inside => (clean _ inside).1 rfl, fun inside => (clean _ inside).2 rfl⟩,
    fun clean c inside => ⟨fun same => clean.1 (same ▸ inside), fun same => clean.2 (same ▸ inside)⟩⟩

theorem isClean_flatMap {α : Type} {f : α → List Char} : ∀ {items : List α},
    (∀ item ∈ items, isClean (f item) = true) → isClean (items.flatMap f) = true
  | [], _ => rfl
  | item :: rest, clean => by
    rw [List.flatMap_cons, isClean_append, clean item List.mem_cons_self,
      isClean_flatMap fun other among => clean other (List.mem_cons_of_mem item among)]
    rfl

/-- The text stands within a line of a module. -/
def isInline (text : List Char) : Bool := text.all fun c => c != nulCharacter && c != '\r' && c != '\n'

@[simp] theorem isInline_nil : isInline [] = true := rfl

@[simp] theorem isInline_cons (c : Char) (text : List Char) :
    isInline (c :: text) = (c != '\x00' && c != '\r' && c != '\n' && isInline text) := rfl

@[simp] theorem isInline_append (text more : List Char) : isInline (text ++ more) = (isInline text && isInline more) :=
  List.all_append

theorem isInline_iff {text : List Char} : isInline text = true ↔ isClean text = true ∧ '\n' ∉ text := by
  simp only [isInline, isClean, List.all_eq_true, Bool.and_eq_true, bne_iff_ne, ne_eq]
  constructor
  · exact fun inline => ⟨fun c inside => (inline c inside).1, fun inside => (inline _ inside).2 rfl⟩
  · rintro ⟨clean, noNewline⟩ c inside
    exact ⟨clean c inside, by rintro rfl; exact noNewline inside⟩

theorem isClean_of_tokens {text : List Char} {all : List Token} (noReturn : '\r' ∉ text)
    (found : tokens? text = some all) : isClean text = true := by
  refine isClean_iff.2 ⟨fun inside => ?_, noReturn⟩
  rw [tokens?, if_pos (List.contains_iff_mem.2 inside)] at found
  cases found

/-! ## Tokens -/

theorem unifyLineEnds_eq : ∀ {text : List Char}, '\r' ∉ text → unifyLineEnds text = text
  | [], _ => rfl
  | c :: text, noReturn => by
    simp only [List.mem_cons, not_or] at noReturn
    rw [unifyLineEnds]
    · rw [unifyLineEnds_eq noReturn.2]
    · exact fun _ same _ => noReturn.1 same.symm
    · exact fun same => noReturn.1 same.symm

theorem endLine_eq {text : List Char} (noNewline : '\n' ∉ text) :
    endLine text = text ++ ['\n'] := by
  refine if_neg fun last => noNewline ?_
  exact List.mem_of_getLast? last

theorem scans_of_tokens {text : List Char} (noReturn : '\r' ∉ text) {all : List Token}
    (found : tokens? text = some all) : Scans true .start (endLine text) all := by
  rw [tokens?, unifyLineEnds_eq noReturn] at found
  split at found
  · cases found
  · exact ⟨_, found⟩

theorem semicolon_token : token? [';', '\n'] = some (.op ";", ['\n']) := by decide

/-- The semicolon itself. -/
private theorem reads_nothing {closers : List String} {tokens : List Token}
    (closed : Scans false ⟨closers, [(0, 0)]⟩ [';', '\n'] (tokens ++ statementEnd)) :
    closers = [] ∧ tokens = [] := by
  obtain ⟨after, left, same, turns, behind⟩ := closed.token semicolon_token
  cases turns
  cases closers with
  | cons closer outer =>
    obtain ⟨fuel, scanned⟩ := behind.lineEnd (by simp)
    cases fuel <;> cases scanned
  | nil =>
    obtain ⟨last, rfl, ends⟩ := behind.newline rfl
    obtain rfl := ends.ending
    refine ⟨rfl, ?_⟩
    have := congrArg List.length same
    simp [statementEnd] at this
    exact this

private theorem reads_of_scan : ∀ {fuel : Nat} {closers : List String} {text : List Char}
    {tokens : List Token}, '\n' ∉ text →
      scan fuel false ⟨closers, [(0, 0)]⟩ (text ++ [';', '\n']) = some (tokens ++ statementEnd) →
      Scans false ⟨closers, [(0, 0)]⟩ (text ++ ['\n']) (tokens ++ [.newline]) →
      ∀ stop ∈ stops, ∀ more, Reads closers (text ++ stop :: more) tokens [] (stop :: more)
  | 0, _, _, _, _, closed, _, _, _, _ => by cases closed
  | fuel + 1, closers, [], tokens, _, closed, _, stop, _, more => by
    obtain ⟨rfl, rfl⟩ := reads_nothing ⟨fuel + 1, closed⟩
    exact .done
  | fuel + 1, closers, c :: text, tokens, noNewline, closed, alone, stop, isStop, more => by
    have noNewlineBehind : '\n' ∉ text := fun inside => noNewline (List.mem_cons_of_mem c inside)
    by_cases inline : isInlineSpace c = true
    · rw [List.cons_append, scan_blank inline] at closed
      exact .blank inline (reads_of_scan noNewlineBehind closed (alone.blank inline) stop isStop more)
    by_cases comment : c = '#'
    · subst comment
      have hidden : Scans false ⟨closers, [(0, 0)]⟩ ['\n'] (tokens ++ statementEnd) := by
        have split : text ++ [';', '\n'] = (text ++ [';']) ++ '\n' :: [] := by simp
        rw [List.cons_append, split] at closed
        have behind := Scans.comment ⟨fuel + 1, closed⟩
        rwa [dropWhile_line (by simp [noNewlineBehind])] at behind
      have visible : Scans false ⟨closers, [(0, 0)]⟩ ['\n'] (tokens ++ [.newline]) := by
        rw [List.cons_append] at alone
        have behind := alone.comment
        rwa [dropWhile_line noNewlineBehind] at behind
      have := congrArg List.length (hidden.unique visible)
      simp [statementEnd] at this
    · have noContinuation : ∀ behind, c = '\\' → text ++ [';', '\n'] ≠ '\n' :: behind := by
        intro behind _ same
        cases text with
        | nil => cases same
        | cons d text =>
          rw [(List.cons.inj same).1] at noNewlineBehind
          exact noNewlineBehind List.mem_cons_self
      have differs : c ≠ '\n' := by
        rintro rfl
        exact noNewline List.mem_cons_self
      rw [List.cons_append, scan_token inline differs comment noContinuation] at closed
      obtain ⟨⟨token, middle⟩, first, closed⟩ := Option.bind_eq_some_iff.1 closed
      obtain ⟨after, turns, closed⟩ := Option.bind_eq_some_iff.1 closed
      obtain ⟨all, closed, same⟩ := Option.bind_eq_some_iff.1 closed
      obtain ⟨left, rfl, suffix, others⟩ := token_before_stop (by decide) first
      obtain ⟨there, rest, sameAlone, turnsThere, aloneBehind⟩ :=
        alone.token (others '\n' (by decide) [])
      obtain rfl : after = there := Option.some.inj (turns.symm.trans turnsThere)
      cases tokens with
      | nil =>
        cases same
        cases sameAlone
      | cons own tokens =>
        simp only [List.cons_append, List.cons.injEq] at same sameAlone
        obtain ⟨rfl, rfl⟩ := same
        obtain ⟨turned, columns⟩ := Layout.after?_eq_some turns
        obtain ⟨closers', columns'⟩ := after
        obtain rfl : columns' = [(0, 0)] := columns
        rw [← sameAlone.2] at aloneBehind
        have noNewlineLeft : '\n' ∉ left := fun inside => noNewline (suffix.subset inside)
        exact .token (others stop isStop more) turned
          (reads_of_scan noNewlineLeft closed aloneBehind stop isStop more)

/-- Its tokens stand wherever the text is copied in front of a stop. -/
theorem Spells.reads {text : List Char} {tokens : List Token} (spells : Spells text tokens)
    (start : (text.head?.map isInlineSpace).getD false = false) {stop : Char} (isStop : stop ∈ stops)
    (more : List Char) : Reads [] (text ++ stop :: more) tokens [] (stop :: more) := by
  obtain ⟨noNewline, noReturn, alone, closed⟩ := spells
  have alone := scans_of_tokens noReturn alone
  have closed := scans_of_tokens (by simpa using noReturn) closed
  rw [endLine_eq noNewline] at alone
  rw [endLine_eq (by simpa using noNewline), List.append_assoc] at closed
  cases text with
  | nil =>
    have := alone.emptyLine.ending
    simp [Layout.start] at this
  | cons c text =>
    have ordinary : isInlineSpace c = false := by simpa using start
    have measured : ∀ rest, measureIndent 0 0 (c :: text ++ rest) = (0, 0, c :: text ++ rest) := by
      intro rest
      simp only [isInlineSpace, Bool.or_eq_false_iff, beq_eq_false_iff_ne] at ordinary
      rw [List.cons_append, measureIndent]
      · exact fun _ same => ordinary.1.1 (List.cons.inj same).1
      · exact fun _ same => ordinary.1.2 (List.cons.inj same).1
      · exact fun _ same => ordinary.2 (List.cons.inj same).1
    have differs : c ≠ '\n' := by
      rintro rfl
      exact noNewline List.mem_cons_self
    by_cases comment : c = '#'
    · subst comment
      have noNewlineBehind : '\n' ∉ text := fun inside => noNewline (List.mem_cons_of_mem _ inside)
      have hidden : Scans true .start ((text ++ ['\n']).dropWhile (· != '\n'))
          (tokens ++ [.newline]) := alone.commentLine (measured _)
      rw [dropWhile_line noNewlineBehind] at hidden
      have := hidden.emptyLine.ending
      simp [Layout.start] at this
    · obtain ⟨indents, inside, left, indented, same, behind⟩ := closed.line (measured _) differs comment
      obtain ⟨indents', inside', left', indented', same', behind'⟩ := alone.line (measured _) differs comment
      cases indented
      cases indented'
      cases same
      cases same'
      obtain ⟨fuel, scanned⟩ := behind
      exact reads_of_scan noNewline scanned behind' stop isStop more

/-! ## Expressions -/

theorem Reads.blanks {closers closers' : List String} {text rest : List Char}
    {tokens : List Token} (more : Reads closers text tokens closers' rest) :
    ∀ {blanks : List Char}, (∀ c ∈ blanks, isInlineSpace c = true) →
      Reads closers (blanks ++ text) tokens closers' rest
  | [], _ => more
  | c :: blanks, inline => by
    have behind : ∀ d ∈ blanks, isInlineSpace d = true := fun d inside =>
      inline d (List.mem_cons_of_mem c inside)
    exact .blank (inline c List.mem_cons_self) (more.blanks behind)

/-- The tokens that stand for an expression wherever they are followed by the end of one. -/
def StandFor (least : Nat) (tokens : List Token) (e : Expr) : Prop :=
  ∀ {depth : Nat}, least ≤ depth → ∀ token ∈ expressionEnds, ∀ next rest,
    (grammar depth).expression (tokens ++ token :: next :: rest) = some (e, token :: next :: rest)

/-- The tokens of a text on one line. -/
def textTokens (text : String) : List Token :=
  ((tokens? (text.toList.dropWhile isInlineSpace)).getD []).dropLast

theorem Spells.textTokens_eq {text : String} {tokens : List Token}
    (spells : Spells (text.toList.dropWhile isInlineSpace) tokens) : textTokens text = tokens := by
  simp [textTokens, spells.alone]

/-- The expression that a text on one line is. -/
def expressionOf (text : String) : Option Expr :=
  ((grammar (text.toList.length + 1)).expression (textTokens text ++ statementEnd)).map (·.1)

theorem ReadsAs.expressionOf_eq {text : String} {e : Expr} (reads : ReadsAs text e) :
    expressionOf text = some e := by
  obtain ⟨tokens, spells, reads⟩ := reads
  rw [expressionOf, spells.textTokens_eq, reads]
  rfl

/-- A complete expression, copied in front of a stop, gives the same tokens. -/
theorem ReadsAs.reads {text : String} {e : Expr} (reads : ReadsAs text e) {closers : List String}
    {stop : Char} (isStop : stop ∈ stops) (more : List Char) :
    Reads closers (text.toList ++ stop :: more) (textTokens text) closers (stop :: more) := by
  obtain ⟨tokens, spells, _⟩ := reads
  have start : ((text.toList.dropWhile isInlineSpace).head?.map isInlineSpace).getD false = false := by
    cases left : text.toList.dropWhile isInlineSpace with
    | nil => rfl
    | cons c behind =>
      have := List.head?_dropWhile_not isInlineSpace text.toList
      simpa [left] using this
  have blanks : ∀ c ∈ text.toList.takeWhile isInlineSpace, isInlineSpace c = true :=
    List.all_eq_true.1 List.all_takeWhile
  have reads := (spells.reads start isStop more).blanks blanks
  rw [← List.append_assoc, List.takeWhile_append_dropWhile] at reads
  simpa [spells.textTokens_eq] using reads.within closers

theorem ReadsAs.clean {text : String} {e : Expr} (reads : ReadsAs text e) : isClean text.toList = true := by
  obtain ⟨tokens, spells, _⟩ := reads
  have blanks : isClean (text.toList.takeWhile isInlineSpace) = true := by
    refine isClean_iff.2 ⟨fun inside => ?_, fun inside => ?_⟩ <;>
      cases List.all_eq_true.1 List.all_takeWhile _ inside
  rw [← List.takeWhile_append_dropWhile (p := isInlineSpace) (l := text.toList), isClean_append, blanks,
    isClean_of_tokens spells.noReturn spells.alone]
  rfl

/-- Its tokens stand for the expression everywhere. -/
theorem ReadsAs.stands {text : String} {e : Expr} (reads : ReadsAs text e) :
    StandFor (text.toList.length + 1) (textTokens text) e := by
  obtain ⟨tokens, spells, reads⟩ := reads
  intro depth deeper token ends next rest
  have alike : EndsAlike statementEnd (token :: next :: rest) := .elsewhere ends next rest
  obtain ⟨left, same, _, others⟩ := (grammar_agrees deeper).expression tokens alike reads
  rw [spells.textTokens_eq, others (.inl rfl), List.append_left_eq_self.1 same.symm]
  rfl

end EachSubject.Source
