import EachSubject.Proofs.Source.Locality

/-!
# Tokens within a line

`Reads` says which tokens stand between two places of a text within one logical line, and what they do
to the open brackets. Each token is read with all of the text behind it in place, so readings can be put
together without cutting a token in two.
-/

namespace EachSubject.Source

/-- The open brackets after a token, however deep they nest. -/
def turned? (closers : List String) : Token → Option (List String)
  | .op op =>
    match closerOf? op with
    | some closer => some (closer :: closers)
    | none =>
      if isCloser op then
        match closers with
        | closer :: outer => if closer = op then some outer else none
        | [] => none
      else some closers
  | _ => some closers

/-- The tokens from a place in a line to a later one, with the brackets that are open at both. Line ends
    inside brackets are blank. -/
inductive Reads : List String → List Char → List Token → List String → List Char → Prop where
  | done {closers : List String} {text : List Char} : Reads closers text [] closers text
  | blank {closers closers' : List String} {c : Char} {text rest : List Char} {tokens : List Token}
      (inline : isInlineSpace c = true) (more : Reads closers text tokens closers' rest) :
      Reads closers (c :: text) tokens closers' rest
  | lineEnd {closer : String} {closers closers' : List String} {text rest : List Char}
      {tokens : List Token} (more : Reads (closer :: closers) text tokens closers' rest) :
      Reads (closer :: closers) ('\n' :: text) tokens closers' rest
  | token {closers closers' closers'' : List String} {text middle rest : List Char} {token : Token}
      {tokens : List Token} (first : token? text = some (token, middle))
      (turns : turned? closers token = some closers')
      (more : Reads closers' middle tokens closers'' rest) :
      Reads closers text (token :: tokens) closers'' rest

/-- The text is cut into these tokens, from the start of a line or from inside of one. -/
def Scans (fresh : Bool) (layout : Layout) (text : List Char) (tokens : List Token) : Prop :=
  ∃ fuel, scan fuel fresh layout text = some tokens

/-! ## Steps of the scan -/

theorem Layout.after?_eq_some {layout after : Layout} {token : Token}
    (found : layout.after? token = some after) :
    turned? layout.closers token = some after.closers ∧ after.columns = layout.columns := by
  cases token with
  | op op =>
    cases opens : closerOf? op with
    | some closer =>
      simp only [Layout.after?, turned?, opens] at found ⊢
      by_cases few : layout.closers.length < bracketLimit
      · rw [if_pos few] at found
        cases found
        exact ⟨rfl, rfl⟩
      · rw [if_neg few] at found
        cases found
    | none =>
      simp only [Layout.after?, turned?, opens] at found ⊢
      by_cases closes : isCloser op = true
      · rw [if_pos closes] at found ⊢
        cases around : layout.closers with
        | nil => simp [around] at found
        | cons closer outer =>
          simp only [around] at found
          by_cases matching : closer = op
          · rw [if_pos matching] at found
            cases found
            simp [matching]
          · rw [if_neg matching] at found
            cases found
      · rw [if_neg closes] at found ⊢
        cases found
        exact ⟨rfl, rfl⟩
  | word _ => cases found; exact ⟨rfl, rfl⟩
  | number _ => cases found; exact ⟨rfl, rfl⟩
  | string _ => cases found; exact ⟨rfl, rfl⟩
  | newline => cases found; exact ⟨rfl, rfl⟩
  | indent => cases found; exact ⟨rfl, rfl⟩
  | dedent => cases found; exact ⟨rfl, rfl⟩

/-- The characters with which no token starts. -/
def spacing : List Char := [' ', '\t', '\x0c', '\n', '#', '\\']

private theorem token_spacing {c : Char} (blank : c ∈ spacing) (rest : List Char) :
    token? (c :: rest) = none := by
  have noOperator : operator? (c :: rest) = none := by
    rw [operator?, List.findSome?_eq_none_iff]
    intro op inside
    have first : ∀ op ∈ operators, ∀ c ∈ spacing, op.toList.head? ≠ some c ∧ op.toList ≠ [] := by
      decide
    obtain ⟨differ, nonempty⟩ := first op inside c blank
    obtain ⟨d, word, same⟩ := List.exists_cons_of_ne_nil nonempty
    rw [same] at differ ⊢
    have : d ≠ c := fun is => differ (by rw [is]; rfl)
    simp [drop?, this]
  have plain : ∀ c ∈ spacing, c.isDigit = false ∧ (c == '.') = false ∧ isWordChar c = false ∧
      isQuote c = false := by decide
  obtain ⟨noDigit, noPoint, noWord, noQuote⟩ := plain c blank
  simp [token?, noDigit, noPoint, noWord, noQuote, noOperator]

/-- No token starts with white space. -/
theorem not_spacing {c : Char} {rest middle : List Char} {token : Token}
    (found : token? (c :: rest) = some (token, middle)) : c ∉ spacing := by
  intro blank
  rw [token_spacing blank] at found
  cases found

theorem scan_token {fuel : Nat} {layout : Layout} {c : Char} {rest : List Char}
    (notInline : ¬isInlineSpace c = true) (noNewline : c ≠ '\n') (noComment : c ≠ '#')
    (noContinuation : ∀ behind, c = '\\' → rest ≠ '\n' :: behind) :
    scan (fuel + 1) false layout (c :: rest) = (do
      let (token, rest) ← token? (c :: rest)
      let layout ← layout.after? token
      let more ← scan fuel false layout rest
      some (token :: more)) := by
  rw [scan]
  · rw [if_neg notInline]
  · exact noNewline
  · exact noComment
  · exact noContinuation

private theorem scan_ordinary {fuel : Nat} {layout : Layout} {c : Char} {rest : List Char}
    (ordinary : c ∉ spacing) : scan (fuel + 1) false layout (c :: rest) = (do
      let (token, rest) ← token? (c :: rest)
      let layout ← layout.after? token
      let more ← scan fuel false layout rest
      some (token :: more)) := by
  simp only [spacing, List.mem_cons, List.not_mem_nil, or_false, not_or] at ordinary
  obtain ⟨noBlank, noTab, noFeed, noNewline, noComment, noBackslash⟩ := ordinary
  have notInline : ¬isInlineSpace c = true := by simp [isInlineSpace, noBlank, noTab, noFeed]
  exact scan_token notInline noNewline noComment fun _ same => absurd same noBackslash

/-- One token in front of what is scanned. -/
theorem scan_cons {fuel : Nat} {layout after : Layout} {text middle : List Char} {token : Token} {left : List Token}
    (first : token? text = some (token, middle)) (turns : layout.after? token = some after)
    (more : scan fuel false after middle = some left) : scan (fuel + 1) false layout text = some (token :: left) := by
  cases text with
  | nil => cases first
  | cons c rest =>
    rw [scan_ordinary (not_spacing first), first]
    simp [turns, more]

/-- A text that starts with no blank is scanned as a line of its own. -/
theorem scan_start {fuel : Nat} {c : Char} {rest : List Char} (ordinary : c ∉ spacing) :
    scan (fuel + 1) true .start (c :: rest) = scan fuel false .start (c :: rest) := by
  simp only [spacing, List.mem_cons, List.not_mem_nil, or_false, not_or] at ordinary
  obtain ⟨noBlank, noTab, noFeed, noNewline, noComment, _⟩ := ordinary
  have measured : measureIndent 0 0 (c :: rest) = (0, 0, c :: rest) := by
    rw [measureIndent]
    · exact fun _ same => noBlank (List.cons.inj same).1
    · exact fun _ same => noTab (List.cons.inj same).1
    · exact fun _ same => noFeed (List.cons.inj same).1
  have here : Layout.start.indentTo? 0 0 = some ([], .start) := rfl
  rw [scan, measured]
  dsimp only
  split
  · rename_i impossible
    cases impossible
  · rename_i same
    exact absurd (List.cons.inj same).1 noNewline
  · rename_i same
    exact absurd (List.cons.inj same).1 noComment
  · rw [here]
    simp

theorem scan_blank {fuel : Nat} {layout : Layout} {c : Char} {rest : List Char}
    (inline : isInlineSpace c = true) :
    scan (fuel + 1) false layout (c :: rest) = scan fuel false layout rest := by
  have noNewline : c ≠ '\n' := by rintro rfl; cases inline
  have noComment : c ≠ '#' := by rintro rfl; cases inline
  have noBackslash : c ≠ '\\' := by rintro rfl; cases inline
  rw [scan]
  · simp only [inline]
    rfl
  · exact fun same => noNewline same
  · exact fun same => noComment same
  · exact fun _ same _ => noBackslash same

theorem dropWhile_line : ∀ {text : List Char}, '\n' ∉ text → ∀ rest,
    (text ++ '\n' :: rest).dropWhile (· != '\n') = '\n' :: rest
  | [], _, _ => rfl
  | c :: text, noNewline, rest => by
    simp only [List.mem_cons, not_or] at noNewline
    have differ : (c != '\n') = true := by simpa using Ne.symm noNewline.1
    rw [List.cons_append, List.dropWhile_cons, if_pos differ, dropWhile_line noNewline.2]

namespace Scans

variable {layout : Layout} {text middle : List Char} {all : List Token}

theorem blank {c : Char} (scanned : Scans false layout (c :: text) all)
    (inline : isInlineSpace c = true) : Scans false layout text all := by
  obtain ⟨fuel, scanned⟩ := scanned
  cases fuel with
  | zero => cases scanned
  | succ fuel =>
    rw [scan_blank inline] at scanned
    exact ⟨fuel, scanned⟩

theorem lineEnd (scanned : Scans false layout ('\n' :: text) all) (inside : layout.closers ≠ []) :
    Scans false layout text all := by
  obtain ⟨fuel, scanned⟩ := scanned
  cases fuel with
  | zero => cases scanned
  | succ fuel =>
    have notEmpty : layout.closers.isEmpty = false := by simpa using inside
    simp only [scan, notEmpty] at scanned
    exact ⟨fuel, scanned⟩

theorem token {token : Token} (scanned : Scans false layout text all)
    (found : token? text = some (token, middle)) :
    ∃ after left, all = token :: left ∧ layout.after? token = some after ∧
      Scans false after middle left := by
  obtain ⟨fuel, scanned⟩ := scanned
  cases text with
  | nil => cases found
  | cons c rest =>
    cases fuel with
    | zero => cases scanned
    | succ fuel =>
      rw [scan_ordinary (not_spacing found), found] at scanned
      simp only [Option.bind_eq_bind, Option.bind_some] at scanned
      obtain ⟨after, turns, scanned⟩ := Option.bind_eq_some_iff.1 scanned
      obtain ⟨left, behind, same⟩ := Option.bind_eq_some_iff.1 scanned
      cases same
      exact ⟨after, left, rfl, turns, fuel, behind⟩

/-- The end of a line outside of brackets. -/
theorem newline (scanned : Scans false layout ('\n' :: text) all) (outside : layout.closers = []) :
    ∃ left, all = .newline :: left ∧ Scans true layout text left := by
  obtain ⟨fuel, scanned⟩ := scanned
  cases fuel with
  | zero => cases scanned
  | succ fuel =>
    have empty : layout.closers.isEmpty = true := by simpa using outside
    simp only [scan, empty, if_pos] at scanned
    obtain ⟨left, scanned, same⟩ := Option.map_eq_some_iff.1 scanned
    exact ⟨left, same.symm, fuel, scanned⟩

/-- A comment up to the end of its line. -/
theorem comment (scanned : Scans false layout ('#' :: text) all) :
    Scans false layout (text.dropWhile (· != '\n')) all := by
  obtain ⟨fuel, scanned⟩ := scanned
  cases fuel with
  | zero => cases scanned
  | succ fuel => exact ⟨fuel, scanned⟩

/-- An empty line. -/
theorem emptyLine (scanned : Scans true layout ('\n' :: text) all) : Scans true layout text all := by
  obtain ⟨fuel, scanned⟩ := scanned
  cases fuel with
  | zero => cases scanned
  | succ fuel => exact ⟨fuel, scanned⟩

/-- A line that only holds a comment. -/
theorem commentLine (scanned : Scans true layout text all) {column narrow : Nat} {rest : List Char}
    (measured : measureIndent 0 0 text = (column, narrow, '#' :: rest)) :
    Scans true layout (rest.dropWhile (· != '\n')) all := by
  obtain ⟨fuel, scanned⟩ := scanned
  cases fuel with
  | zero => cases scanned
  | succ fuel =>
    rw [scan, measured] at scanned
    exact ⟨fuel, scanned⟩

/-- A line that holds more than blanks and a comment. -/
theorem line (scanned : Scans true layout text all) {column narrow : Nat} {c : Char}
    {rest : List Char} (measured : measureIndent 0 0 text = (column, narrow, c :: rest))
    (noNewline : c ≠ '\n') (noComment : c ≠ '#') :
    ∃ indents inside left, layout.indentTo? column narrow = some (indents, inside) ∧
      all = indents ++ left ∧ Scans false inside (c :: rest) left := by
  obtain ⟨fuel, scanned⟩ := scanned
  cases fuel with
  | zero => cases scanned
  | succ fuel =>
    rw [scan, measured] at scanned
    have plain : (layout.indentTo? column narrow).bind (fun found =>
        (scan fuel false found.2 (c :: rest)).bind fun more => some (found.1 ++ more)) = some all := by
      dsimp only at scanned
      split at scanned
      · rename_i impossible
        cases impossible
      · rename_i same
        exact absurd (List.cons.inj same).1 noNewline
      · rename_i same
        exact absurd (List.cons.inj same).1 noComment
      · exact scanned
    obtain ⟨⟨indents, inside⟩, indented, found⟩ := Option.bind_eq_some_iff.1 plain
    obtain ⟨left, behind, same⟩ := Option.bind_eq_some_iff.1 found
    cases same
    exact ⟨indents, inside, left, indented, rfl, fuel, behind⟩

/-- The end of the text. -/
theorem ending (scanned : Scans true layout [] all) :
    all = layout.columns.dropLast.map fun _ => .dedent := by
  obtain ⟨fuel, scanned⟩ := scanned
  cases fuel with
  | zero => cases scanned
  | succ fuel => exact (Option.some.inj scanned).symm

end Scans

private theorem scan_more {fuel : Nat} {fresh : Bool} {layout : Layout} {text : List Char}
    {all : List Token} (found : scan fuel fresh layout text = some all) :
    scan (fuel + 1) fresh layout text = some all := by
  fun_induction scan fuel fresh layout text generalizing all
  case case5 line notEmpty notNewline notComment measured further =>
    obtain ⟨⟨tokens, inside⟩, indented, found⟩ := Option.bind_eq_some_iff.1 found
    obtain ⟨more, scanned, same⟩ := Option.bind_eq_some_iff.1 found
    cases same
    rw [scan, measured]
    simp [indented, further inside scanned]
  case case7 outside further =>
    obtain ⟨more, scanned, same⟩ := Option.map_eq_some_iff.1 found
    rw [scan, if_pos outside, further scanned, ← same]
    rfl
  case case13 noNewline noComment noContinuation notInline further =>
    obtain ⟨⟨token, middle⟩, first, found⟩ := Option.bind_eq_some_iff.1 found
    obtain ⟨after, turns, found⟩ := Option.bind_eq_some_iff.1 found
    obtain ⟨more, scanned, same⟩ := Option.bind_eq_some_iff.1 found
    cases same
    rw [scan_ordinary (not_spacing first), first]
    simp [turns, further middle after scanned]
  all_goals simp_all [scan]

private theorem scan_further {fuel : Nat} {fresh : Bool} {layout : Layout} {text : List Char}
    {all : List Token} (found : scan fuel fresh layout text = some all) (extra : Nat) :
    scan (fuel + extra) fresh layout text = some all := by
  induction extra with
  | zero => exact found
  | succ extra further => exact scan_more further

/-- A text is cut in one way only. -/
theorem Scans.unique {fresh : Bool} {layout : Layout} {text : List Char} {one two : List Token}
    (first : Scans fresh layout text one) (second : Scans fresh layout text two) : one = two := by
  obtain ⟨fuel, first⟩ := first
  obtain ⟨other, second⟩ := second
  have both := (scan_further first other).symm.trans
    ((congrArg (scan · fresh layout text) (Nat.add_comm fuel other)).trans (scan_further second fuel))
  exact Option.some.inj both

/-! ## What a line gives -/

private theorem turned_around {closers closers' : List String} {token : Token} (around : List String)
    (turns : turned? closers token = some closers') :
    turned? (closers ++ around) token = some (closers' ++ around) := by
  cases token with
  | op op =>
    cases opens : closerOf? op with
    | some closer =>
      simp only [turned?, opens, Option.some.injEq] at turns ⊢
      rw [← turns]
      rfl
    | none =>
      simp only [turned?, opens] at turns ⊢
      by_cases closes : isCloser op = true
      · rw [if_pos closes] at turns ⊢
        cases closers with
        | nil => cases turns
        | cons closer outer =>
          by_cases matching : closer = op
          · simp only [if_pos matching, List.cons_append] at turns ⊢
            cases turns
            rfl
          · simp [matching] at turns
      · rw [if_neg closes] at turns ⊢
        cases turns
        rfl
  | word _ => cases turns; rfl
  | number _ => cases turns; rfl
  | string _ => cases turns; rfl
  | newline => cases turns; rfl
  | indent => cases turns; rfl
  | dedent => cases turns; rfl

namespace Reads

variable {closers closers' closers'' : List String} {text middle rest : List Char}
  {tokens more : List Token}

theorem append (first : Reads closers text tokens closers' middle)
    (second : Reads closers' middle more closers'' rest) :
    Reads closers text (tokens ++ more) closers'' rest := by
  induction first with
  | done => exact second
  | blank inline _ further => exact .blank inline (further second)
  | lineEnd _ further => exact .lineEnd (further second)
  | token first turns _ further => exact .token first turns (further second)

/-- The same tokens are read inside of further brackets. -/
theorem within (reads : Reads closers text tokens closers' rest) (around : List String) :
    Reads (closers ++ around) text tokens (closers' ++ around) rest := by
  induction reads with
  | done => exact .done
  | blank inline _ further => exact .blank inline further
  | lineEnd _ further => exact .lineEnd further
  | token first turns _ further => exact .token first (turned_around around turns) further

/-- What is read within a line comes out of every scan of it. -/
theorem scanned (reads : Reads closers text tokens closers' rest) {layout : Layout}
    {all : List Token} (start : layout.closers = closers) (scanned : Scans false layout text all) :
    ∃ left, all = tokens ++ left ∧ Scans false ⟨closers', layout.columns⟩ rest left := by
  induction reads generalizing layout all with
  | done =>
    subst start
    exact ⟨all, rfl, scanned⟩
  | blank inline _ further => exact further start (scanned.blank inline)
  | lineEnd _ further => exact further start (scanned.lineEnd (by simp [start]))
  | token first turns _ further =>
    obtain ⟨after, left, rfl, turnsThere, behind⟩ := scanned.token first
    obtain ⟨same, columns⟩ := Layout.after?_eq_some turnsThere
    rw [start, turns] at same
    obtain ⟨last, rfl, remains⟩ := further (Option.some.inj same).symm behind
    rw [columns] at remains
    exact ⟨last, rfl, remains⟩

end Reads

/-! ## Whole lines -/

theorem measureIndent_spaces {c : Char} (ordinary : c ∉ spacing) (rest : List Char) :
    ∀ width column narrow, measureIndent column narrow (List.replicate width ' ' ++ c :: rest) =
      (column + width, narrow + width, c :: rest)
  | 0, column, narrow => by
    simp only [spacing, List.mem_cons, List.not_mem_nil, or_false, not_or] at ordinary
    rw [List.replicate_zero, List.nil_append, measureIndent]
    · rfl
    · exact fun _ same => ordinary.1 (List.cons.inj same).1
    · exact fun _ same => ordinary.2.1 (List.cons.inj same).1
    · exact fun _ same => ordinary.2.2.1 (List.cons.inj same).1
  | width + 1, column, narrow => by
    rw [List.replicate_succ, List.cons_append, measureIndent,
      measureIndent_spaces ordinary rest width, Nat.add_assoc, Nat.add_assoc, Nat.add_comm 1]

/-- The start of an indented line. -/
theorem Scans.indented {columns columns' : List (Nat × Nat)} {width : Nat} {indents all : List Token}
    {c : Char} {rest : List Char}
    (scanned : Scans true ⟨[], columns⟩ (List.replicate width ' ' ++ c :: rest) all)
    (ordinary : c ∉ spacing)
    (places : Layout.indentTo? ⟨[], columns⟩ width width = some (indents, ⟨[], columns'⟩)) :
    ∃ left, all = indents ++ left ∧ Scans false ⟨[], columns'⟩ (c :: rest) left := by
  have measured := measureIndent_spaces ordinary rest width 0 0
  rw [Nat.zero_add] at measured
  have noNewline : c ≠ '\n' := by rintro rfl; revert ordinary; decide
  have noComment : c ≠ '#' := by rintro rfl; revert ordinary; decide
  obtain ⟨found, inside, left, indented, same, behind⟩ := scanned.line measured noNewline noComment
  rw [places] at indented
  cases indented
  exact ⟨left, same, behind⟩

/-- A line at an indentation, with what follows it. -/
def lineAt (width : Nat) (line rest : List Char) : List Char :=
  List.replicate width ' ' ++ (line ++ '\n' :: rest)

/-- The text ends with a line end. -/
theorem lineAt_ends (width : Nat) (line : List Char) {rest : List Char}
    (ends : rest = [] ∨ rest.getLast? = some '\n') : (lineAt width line rest).getLast? = some '\n' := by
  rcases ends with rfl | ends
  · simp [lineAt]
  · simp [lineAt, List.getLast?_cons, ends]

end EachSubject.Source
