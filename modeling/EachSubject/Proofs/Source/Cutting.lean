import EachSubject.Proofs.Source.CompleteText
import EachSubject.Proofs.Source.Progress

/-!
# Cutting whole texts

`Cuts` says line by line which tokens a text is cut into. A text is cut in no other way, and it is cut at all
unless its brackets nest too deep.
-/

namespace EachSubject.Source

/-! ## Brackets -/

/-- The token neither opens nor closes a bracket. -/
def Token.isNeutral : Token → Bool
  | .op text => (closerOf? text).isNone && !isCloser text
  | _ => true

/-- The brackets among the tokens are closed again, and nest to this depth at most. -/
inductive Nests : Nat → List Token → Prop where
  | nil {depth : Nat} : Nests depth []
  | neutral {depth : Nat} {token : Token} {rest : List Token} (isNeutral : token.isNeutral = true)
      (more : Nests depth rest) : Nests depth (token :: rest)
  | bracketed {depth : Nat} {opening closing : String} {inside rest : List Token}
      (matching : closerOf? opening = some closing) (inner : Nests depth inside) (more : Nests (depth + 1) rest) :
      Nests (depth + 1) (.op opening :: (inside ++ .op closing :: rest))

namespace Nests

variable {depth : Nat} {tokens more : List Token}

theorem append (first : Nests depth tokens) (second : Nests depth more) : Nests depth (tokens ++ more) := by
  induction first with
  | nil => exact second
  | neutral isNeutral _ further => exact .neutral isNeutral (further second)
  | bracketed matching inner _ _ further =>
    rw [List.cons_append, List.append_assoc]
    exact .bracketed matching inner (further second)

theorem mono (nests : Nests depth tokens) {deeper : Nat} (le : depth ≤ deeper) : Nests deeper tokens := by
  induction nests generalizing deeper with
  | nil => exact .nil
  | neutral isNeutral _ further => exact .neutral isNeutral (further le)
  | bracketed matching _ _ inner further =>
    obtain ⟨outer, rfl⟩ := Nat.exists_eq_add_of_le' (Nat.le_trans (Nat.le_add_left 1 _) le)
    exact .bracketed matching (inner (Nat.le_of_succ_le_succ le)) (further le)

/-- Without brackets nothing nests. -/
theorem plain (neutral : tokens.all Token.isNeutral = true) : Nests depth tokens := by
  induction tokens with
  | nil => exact .nil
  | cons token tokens further =>
    rw [List.all_cons, Bool.and_eq_true] at neutral
    exact .neutral neutral.1 (further neutral.2)

theorem flatMap {α : Type} {f : α → List Token} : ∀ {items : List α}, (∀ item ∈ items, Nests depth (f item)) →
    Nests depth (items.flatMap f)
  | [], _ => .nil
  | item :: rest, nest => by
    rw [List.flatMap_cons]
    exact (nest item List.mem_cons_self).append
      (Nests.flatMap fun other among => nest other (List.mem_cons_of_mem item among))

/-- Tokens within a pair of brackets. -/
theorem enclosed {opening closing : String} (matching : closerOf? opening = some closing) (inner : Nests depth tokens) :
    Nests (depth + 1) (.op opening :: (tokens ++ [.op closing])) :=
  .bracketed matching inner .nil

end Nests

/-- From the open brackets on, the tokens never open more than may be open at once. -/
def Fits : List String → List Token → Prop
  | _, [] => True
  | closers, token :: rest =>
    ∃ after, turned? closers token = some after ∧ after.length ≤ bracketLimit ∧ Fits after rest

/-- A token that is no bracket leaves the open ones as they are. -/
theorem turned_neutral {token : Token} (isNeutral : token.isNeutral = true) (closers : List String) :
    turned? closers token = some closers := by
  cases token with
  | op op =>
    simp only [Token.isNeutral, Bool.and_eq_true, Option.isNone_iff_eq_none, Bool.not_eq_true'] at isNeutral
    simp [turned?, isNeutral.1, isNeutral.2]
  | _ => rfl

private theorem turned_opens {opening closing : String} (matching : closerOf? opening = some closing)
    (closers : List String) : turned? closers (.op opening) = some (closing :: closers) := by
  simp [turned?, matching]

private theorem turned_closes {opening closing : String} (matching : closerOf? opening = some closing)
    (closers : List String) : turned? (closing :: closers) (.op closing) = some closers := by
  unfold closerOf? at matching
  split at matching <;> cases matching <;> rfl

theorem Nests.fits {depth : Nat} {tokens rest : List Token} (nests : Nests depth tokens) {closers : List String}
    (room : closers.length + depth ≤ bracketLimit) (behind : Fits closers rest) : Fits closers (tokens ++ rest) := by
  induction nests generalizing closers rest with
  | nil => exact behind
  | neutral isNeutral _ further =>
    exact ⟨closers, turned_neutral isNeutral closers, by omega, further room behind⟩
  | @bracketed depth opening closing inside after matching _ _ inner further =>
    rw [List.cons_append, List.append_assoc]
    refine ⟨closing :: closers, turned_opens matching closers, by rw [List.length_cons]; omega, ?_⟩
    refine inner (by rw [List.length_cons]; omega) ?_
    exact ⟨closers, turned_closes matching closers, by omega, further room behind⟩

private theorem Fits.behind_neutral : ∀ {tokens rest : List Token} {closers : List String},
    (∀ token ∈ tokens, token.isNeutral = true) → Fits closers (tokens ++ rest) → Fits closers rest
  | [], _, _, _, fits => fits
  | token :: tokens, _, closers, neutral, ⟨after, turns, _, fits⟩ => by
    rw [turned_neutral (neutral token List.mem_cons_self)] at turns
    cases turns
    exact Fits.behind_neutral (fun other among => neutral other (List.mem_cons_of_mem token among)) fits

/-! ## Within a line -/

private theorem Layout.after?_of_turned {layout : Layout} {token : Token} {after : List String}
    (turns : turned? layout.closers token = some after) (few : after.length ≤ bracketLimit) :
    layout.after? token = some ⟨after, layout.columns⟩ := by
  cases token with
  | op op =>
    cases opens : closerOf? op with
    | some closer =>
      simp only [turned?, opens, Option.some.injEq] at turns
      subst turns
      have room : layout.closers.length < bracketLimit := few
      simp only [Layout.after?, opens, if_pos room]
    | none =>
      simp only [turned?, opens] at turns
      simp only [Layout.after?, opens]
      by_cases closes : isCloser op = true
      · rw [if_pos closes] at turns ⊢
        cases around : layout.closers with
        | nil => simp [around] at turns
        | cons closer outer =>
          simp only [around] at turns
          by_cases matching : closer = op
          · rw [if_pos matching, Option.some.injEq] at turns
            simp [matching, turns]
          · rw [if_neg matching] at turns
            cases turns
      · rw [if_neg closes, Option.some.injEq] at turns
        rw [if_neg closes, ← turns]
  | _ =>
    cases turns
    rfl

namespace Reads

variable {closers closers' : List String} {text rest : List Char} {tokens more : List Token}

/-- Behind what is read within a line, the brackets that are open there count. -/
theorem fits_behind (reads : Reads closers text tokens closers' rest) (fits : Fits closers (tokens ++ more)) :
    Fits closers' more := by
  induction reads with
  | done => exact fits
  | blank _ _ further => exact further fits
  | lineEnd _ further => exact further fits
  | token _ turns _ further =>
    obtain ⟨after, turnsThere, _, fits⟩ := fits
    cases turns.symm.trans turnsThere
    exact further fits

/-- What is read within a line is scanned, in front of what is scanned behind it. -/
theorem scans (reads : Reads closers text tokens closers' rest) (fits : Fits closers (tokens ++ more))
    {columns : List (Nat × Nat)} {left : List Token} (behind : Scans false ⟨closers', columns⟩ rest left) :
    Scans false ⟨closers, columns⟩ text (tokens ++ left) := by
  induction reads with
  | done => exact behind
  | blank inline _ further =>
    obtain ⟨fuel, scanned⟩ := further fits behind
    exact ⟨fuel + 1, by rw [scan_blank inline]; exact scanned⟩
  | lineEnd _ further =>
    obtain ⟨fuel, scanned⟩ := further fits behind
    exact ⟨fuel + 1, by rw [scan]; exact scanned⟩
  | token first turns _ further =>
    obtain ⟨after, turnsThere, few, fits⟩ := fits
    cases turns.symm.trans turnsThere
    obtain ⟨fuel, scanned⟩ := further fits behind
    exact ⟨fuel + 1, scan_cons first (Layout.after?_of_turned turns few) scanned⟩

end Reads

/-! ## Line by line -/

/-- What stands behind the last token of a line: its end, or a comment in front of it. -/
inductive LineEnd : List Char → List Char → Prop where
  | plain {rest : List Char} : LineEnd ('\n' :: rest) rest
  | comment {text rest : List Char} (noNewline : '\n' ∉ text) : LineEnd ('#' :: (text ++ '\n' :: rest)) rest

/-- From the start of a line on, where these blocks are open, the text is cut into these tokens. Every line is
    indented by blanks. -/
inductive Cuts : List (Nat × Nat) → List Char → List Token → Prop where
  | done {columns : List (Nat × Nat)} : Cuts columns [] (columns.dropLast.map fun _ => .dedent)
  | emptyLine {columns : List (Nat × Nat)} {text : List Char} {tokens : List Token}
      (more : Cuts columns text tokens) : Cuts columns ('\n' :: text) tokens
  | line {columns columns' : List (Nat × Nat)} {width : Nat} {c : Char} {text behind rest : List Char}
      {indents tokens more : List Token} (ordinary : c ∉ spacing)
      (places : Layout.indentTo? ⟨[], columns⟩ width width = some (indents, ⟨[], columns'⟩))
      (reads : Reads [] (c :: text) tokens [] behind) (ends : LineEnd behind rest)
      (further : Cuts columns' rest more) :
      Cuts columns (List.replicate width ' ' ++ c :: text) (indents ++ (tokens ++ .newline :: more))

private theorem closeBlocks_neutral {column narrow : Nat} : ∀ {columns left : List (Nat × Nat)}
    {tokens : List Token}, closeBlocks column narrow columns = some (tokens, left) →
      ∀ token ∈ tokens, token.isNeutral = true
  | [], _, _, closed => by cases closed
  | (wide, thin) :: outer, left, tokens, closed => by
    rw [closeBlocks] at closed
    split at closed
    · split at closed
      · cases closed
        simp
      · cases closed
    split at closed
    · obtain ⟨⟨closings, _⟩, found, same⟩ := Option.map_eq_some_iff.1 closed
      cases same
      intro token among
      rcases List.mem_cons.1 among with rfl | among
      · rfl
      · exact closeBlocks_neutral found token among
    · cases closed

private theorem indentTo_neutral {layout after : Layout} {column narrow : Nat} {tokens : List Token}
    (places : layout.indentTo? column narrow = some (tokens, after)) : ∀ token ∈ tokens, token.isNeutral = true := by
  rw [Layout.indentTo?] at places
  split at places
  · cases places
  split at places
  · split at places
    · cases places
      simp [Token.isNeutral]
    · cases places
  · obtain ⟨⟨closings, _⟩, found, same⟩ := Option.map_eq_some_iff.1 places
    cases same
    exact closeBlocks_neutral found

/-- The start of an indented line, in front of what is scanned behind it. -/
private theorem indented_scans {columns columns' : List (Nat × Nat)} {width : Nat} {indents left : List Token}
    {c : Char} {text : List Char} (ordinary : c ∉ spacing)
    (places : Layout.indentTo? ⟨[], columns⟩ width width = some (indents, ⟨[], columns'⟩))
    (behind : Scans false ⟨[], columns'⟩ (c :: text) left) :
    Scans true ⟨[], columns⟩ (List.replicate width ' ' ++ c :: text) (indents ++ left) := by
  obtain ⟨fuel, scanned⟩ := behind
  have measured := measureIndent_spaces ordinary text width 0 0
  rw [Nat.zero_add] at measured
  have noNewline : c ≠ '\n' := by rintro rfl; revert ordinary; decide
  have noComment : c ≠ '#' := by rintro rfl; revert ordinary; decide
  refine ⟨fuel + 1, ?_⟩
  rw [scan, measured]
  dsimp only
  split
  · rename_i impossible
    cases impossible
  · rename_i same
    exact absurd (List.cons.inj same).1 noNewline
  · rename_i same
    exact absurd (List.cons.inj same).1 noComment
  · rw [places]
    simp [scanned]

namespace Cuts

variable {columns columns' : List (Nat × Nat)} {text rest : List Char} {tokens indents more all : List Token}

/-- A line with its end. -/
theorem lineAt {width : Nat} {line : List Char} (starts : ∃ c more, line = c :: more ∧ c ∉ spacing)
    (places : Layout.indentTo? ⟨[], columns⟩ width width = some (indents, ⟨[], columns'⟩))
    (reads : Reads [] (line ++ '\n' :: rest) tokens [] ('\n' :: rest)) (further : Cuts columns' rest more) :
    Cuts columns (lineAt width line rest) (indents ++ (tokens ++ .newline :: more)) := by
  obtain ⟨c, inLine, rfl, ordinary⟩ := starts
  exact .line ordinary places reads .plain further

/-- The text is cut in no other way. -/
theorem unique (cuts : Cuts columns text tokens) (scanned : Scans true ⟨[], columns⟩ text all) : all = tokens := by
  induction cuts generalizing all with
  | done => exact scanned.ending
  | emptyLine _ further => exact further scanned.emptyLine
  | @line _ columns' _ _ _ _ rest _ _ _ ordinary places reads ends _ further =>
    obtain ⟨left, rfl, within⟩ := scanned.indented ordinary places
    obtain ⟨behind, rfl, atEnd⟩ := reads.scanned rfl within
    have newline : ∃ left, behind = .newline :: left ∧ Scans true ⟨[], columns'⟩ rest left := by
      cases ends with
      | plain => exact atEnd.newline rfl
      | comment noNewline =>
        have shown := atEnd.comment
        rw [dropWhile_line noNewline] at shown
        exact shown.newline rfl
    obtain ⟨last, rfl, behindLine⟩ := newline
    rw [further behindLine]

/-- The text is cut so, unless its brackets nest too deep. -/
theorem scans (cuts : Cuts columns text tokens) (fits : Fits [] tokens) : Scans true ⟨[], columns⟩ text tokens := by
  induction cuts with
  | done => exact ⟨1, rfl⟩
  | emptyLine _ further =>
    obtain ⟨fuel, scanned⟩ := further fits
    exact ⟨fuel + 1, scanned⟩
  | @line _ columns' width c text behind rest indents _ more ordinary places reads ends _ further =>
    have fits := fits.behind_neutral (indentTo_neutral places)
    obtain ⟨_, newline, _, fitsBehind⟩ := reads.fits_behind fits
    cases newline
    obtain ⟨fuel, scanned⟩ := further fitsBehind
    have atNewline : Scans false ⟨[], columns'⟩ ('\n' :: rest) (.newline :: more) :=
      ⟨fuel + 1, by simp [scan, scanned]⟩
    have atEnd : Scans false ⟨[], columns'⟩ behind (.newline :: more) := by
      cases ends with
      | plain => exact atNewline
      | comment noNewline =>
        obtain ⟨fuel, scanned⟩ := atNewline
        exact ⟨fuel + 1, by rw [scan, dropWhile_line noNewline]; exact scanned⟩
    exact indented_scans ordinary places (reads.scans fits atEnd)

end Cuts

/-! ## Whole texts -/

/-- A clean text that can be scanned is cut into its tokens. -/
theorem tokens_of_scans {text : List Char} (clean : isClean text = true) {all : List Token}
    (scanned : Scans true .start (endLine text) all) : tokens? text = some all := by
  obtain ⟨noNul, noReturn⟩ := isClean_iff.1 clean
  obtain ⟨fuel, scanned⟩ := scanned
  rw [tokens?, if_neg (by simpa using noNul), unifyLineEnds_eq noReturn]
  exact scan_enough scanned (Nat.le_refl _)

@[simp] theorem isClean_lineAt (width : Nat) (line rest : List Char) :
    isClean (lineAt width line rest) = (isClean line && isClean rest) := by
  have blanks : isClean (List.replicate width ' ') = true := by
    induction width with
    | zero => rfl
    | succ width further => simpa [List.replicate_succ] using further
  simp [lineAt, blanks]

/-- A line at the margin opens and closes nothing. -/
private theorem atMargin : Layout.indentTo? ⟨[], [(0, 0)]⟩ 0 0 = some ([], ⟨[], [(0, 0)]⟩) := rfl

/-- A text on one line spells the tokens that are read in front of the end of the line and of a semicolon, unless
    their brackets nest too deep. -/
theorem Spells.of_reads {text : List Char} {tokens : List Token} (starts : ∃ c more, text = c :: more ∧ c ∉ spacing)
    (clean : isClean text = true) (noNewline : '\n' ∉ text) (nests : Nests bracketLimit tokens)
    (reads : ∀ stop ∈ ['\n', ';'], ∀ more, Reads [] (text ++ stop :: more) tokens [] (stop :: more)) :
    Spells text tokens where
  noNewline := noNewline
  noReturn := (isClean_iff.1 clean).2
  alone := by
    have cuts : Cuts [(0, 0)] (text ++ ['\n']) (tokens ++ [.newline]) :=
      Cuts.lineAt starts atMargin (reads '\n' (by decide) []) .done
    refine tokens_of_scans clean ?_
    rw [endLine_eq noNewline]
    exact cuts.scans (nests.fits (Nat.le_of_eq (Nat.zero_add _)) ⟨[], rfl, Nat.zero_le _, trivial⟩)
  closed := by
    obtain ⟨c, inLine, rfl, ordinary⟩ := starts
    have whole : Reads [] (c :: (inLine ++ [';', '\n'])) (tokens ++ [.op ";"]) [] ['\n'] :=
      (reads ';' (by decide) ['\n']).append (.token semicolon_token rfl .done)
    have cuts : Cuts [(0, 0)] (c :: (inLine ++ [';', '\n'])) (tokens ++ statementEnd) := by
      simpa [statementEnd] using Cuts.line ordinary atMargin whole .plain .done
    have closedClean : isClean (c :: inLine ++ [';']) = true := by
      rw [isClean_append, clean]
      rfl
    refine tokens_of_scans closedClean ?_
    rw [endLine_eq (by simpa using noNewline)]
    have fits : Fits [] statementEnd := ⟨[], rfl, Nat.zero_le _, [], rfl, Nat.zero_le _, trivial⟩
    simpa [Layout.start] using cuts.scans (nests.fits (Nat.le_of_eq (Nat.zero_add _)) fits)

end EachSubject.Source
