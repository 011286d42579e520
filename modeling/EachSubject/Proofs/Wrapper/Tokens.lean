import EachSubject.Proofs.Wrapper.Lines
import EachSubject.Source.Parser.Statement

/-!
# The tokens of a wrapper module

The module of a wrapper class starts with imports, the class with its constructor; the overrides follow.
Each part is found in the text where it was printed. A wrapper module puts two brackets at most around the texts that
are copied into it, so its text is cut into tokens if the brackets of these texts leave room for two more.
-/

namespace EachSubject

open Source

namespace Wrapper

namespace Class

/-- The names of a class are names, and its texts are complete expressions. -/
structure IsReadable (c : Class) : Prop where
  package : Text.isDottedPath c.package = true
  subjectName : Text.isName c.subjectName = true
  targetType : ∃ e, ReadsAs c.targetType e
  overrides : ∀ m ∈ c.overrides, m.IsReadable

/-- The imports that all wrappers share. -/
def importTokens : List Token :=
  [.word "from", .word "__future__", .word "import", .word "annotations", .newline,
   .word "from", .word "collections", .op ".", .word "abc", .word "import", .word "Iterable", .newline,
   .word "from", .word "typing", .word "import", .word "Annotated", .newline,
   .word "from", .word "typing_extensions", .word "import", .word "override", .newline,
   .word "from", .word "iterwrap", .op ".", .word "subject", .word "import",
   .word "FailureStrategy", .op ",", .word "SubjectFactory", .newline]

variable (c : Class)

/-- The line that imports the subject class. -/
def packageTokens : List Token :=
  .word "from" :: (dottedTokens (Text.pathPieces c.package) ++ [.word "import", .word c.subjectName])

/-- The line with the name of the class. -/
def classTokens : List Token :=
  [.word "class", .word c.name, .op "(", .word c.subjectName, .op ")", .op ":"]

/-- The line with the parameters of the constructor. -/
def signatureTokens : List Token :=
  [.word "def", .word "__init__", .op "(", .word "self", .op ",",
   .word "failure_strategy", .op ":", .word "FailureStrategy", .op ",",
   .word "subject_factory", .op ":", .word "SubjectFactory", .op ",",
   .word "data", .op ":", .word "Iterable", .op "["] ++ textTokens c.targetType ++
  [.op "]", .op ",", .op ")", .op "->", .word "None", .op ":"]

/-- The statements of the constructor. -/
def constructionTokens : List Token :=
  [.word "super", .op "(", .op ")", .op ".", .word "__init__", .op "(", .word "failure_strategy", .op ",",
   .word "None", .op ")", .newline,
   .word "self", .op ".", .word "_subject_factory", .op "=", .word "subject_factory", .newline,
   .word "self", .op ".", .word "_data", .op "=", .word "data", .newline]

/-- The tokens of a module. -/
def tokens : List Token :=
  importTokens ++ (c.packageTokens ++ .newline :: (c.classTokens ++ .newline :: .indent ::
    (c.signatureTokens ++ .newline :: .indent :: (constructionTokens ++ .dedent ::
      (c.overrides.flatMap Override.tokens ++ [.dedent])))))

private def packageLine : String := "from " ++ c.package ++ " import " ++ c.subjectName

private def classLine : String := "class " ++ c.name ++ "(" ++ c.subjectName ++ "):"

/-- A further line inside of brackets. -/
private def further (width : Nat) (rest : List Char) : List Char := '\n' :: (List.replicate width ' ' ++ rest)

/-- The parameters of the constructor, over several lines. -/
private def signatureLines (rest : List Char) : List Char :=
  "def __init__(".toList ++ further 8 ("self,".toList ++
  further 8 ("failure_strategy: FailureStrategy,".toList ++
  further 8 ("subject_factory: SubjectFactory,".toList ++
  further 8 ("data: Iterable[".toList ++ (c.targetType.toList ++ "],".toList) ++
  further 4 (") -> None:".toList ++ rest)))))

private def constructionLines (rest : List Char) : List Char :=
  lineAt 8 "super().__init__(failure_strategy, None)".toList
    (lineAt 8 "self._subject_factory = subject_factory".toList (lineAt 8 "self._data = data".toList rest))

private theorem break_import : "from __future__ import annotations\n\n".toList =
    "from __future__ import annotations".toList ++ ['\n', '\n'] := by
  rw [String.toList_ofList, String.toList_ofList]
  rfl

private theorem break_iterable : "from collections.abc import Iterable\n".toList =
    "from collections.abc import Iterable".toList ++ ['\n'] := by
  rw [String.toList_ofList, String.toList_ofList]
  rfl

private theorem break_annotated : "from typing import Annotated\n\n".toList =
    "from typing import Annotated".toList ++ ['\n', '\n'] := by
  rw [String.toList_ofList, String.toList_ofList]
  rfl

private theorem break_override : "from typing_extensions import override\n\n".toList =
    "from typing_extensions import override".toList ++ ['\n', '\n'] := by
  rw [String.toList_ofList, String.toList_ofList]
  rfl

private theorem break_subject :
    "from iterwrap.subject import FailureStrategy, SubjectFactory\n".toList =
      "from iterwrap.subject import FailureStrategy, SubjectFactory".toList ++ ['\n'] := by
  rw [String.toList_ofList, String.toList_ofList]
  rfl

private theorem break_package : "\n\n\n".toList = ['\n', '\n', '\n'] := by
  rw [String.toList_ofList]

private theorem break_class : "):\n\n".toList = "):".toList ++ ['\n', '\n'] := by
  rw [String.toList_ofList, String.toList_ofList]
  rfl

private theorem break_signature : "    def __init__(\n".toList =
    List.replicate 4 ' ' ++ ("def __init__(".toList ++ ['\n']) := by
  rw [String.toList_ofList, String.toList_ofList]
  rfl

private theorem break_self : "        self,\n".toList =
    List.replicate 8 ' ' ++ ("self,".toList ++ ['\n']) := by
  rw [String.toList_ofList, String.toList_ofList]
  rfl

private theorem break_reporter : "        failure_strategy: FailureStrategy,\n".toList =
    List.replicate 8 ' ' ++ ("failure_strategy: FailureStrategy,".toList ++ ['\n']) := by
  rw [String.toList_ofList, String.toList_ofList]
  rfl

private theorem break_factory : "        subject_factory: SubjectFactory,\n".toList =
    List.replicate 8 ' ' ++ ("subject_factory: SubjectFactory,".toList ++ ['\n']) := by
  rw [String.toList_ofList, String.toList_ofList]
  rfl

private theorem break_data : "        data: Iterable[".toList =
    List.replicate 8 ' ' ++ "data: Iterable[".toList := by
  rw [String.toList_ofList, String.toList_ofList]
  rfl

private theorem break_target : "],\n".toList = "],".toList ++ ['\n'] := by
  rw [String.toList_ofList, String.toList_ofList]
  rfl

private theorem break_returns : "    ) -> None:\n".toList =
    List.replicate 4 ' ' ++ (") -> None:".toList ++ ['\n']) := by
  rw [String.toList_ofList, String.toList_ofList]
  rfl

private theorem break_super : "        super().__init__(failure_strategy, None)\n".toList =
    lineAt 8 "super().__init__(failure_strategy, None)".toList [] := by
  rw [String.toList_ofList, String.toList_ofList]
  rfl

private theorem break_keepFactory : "        self._subject_factory = subject_factory\n".toList =
    lineAt 8 "self._subject_factory = subject_factory".toList [] := by
  rw [String.toList_ofList, String.toList_ofList]
  rfl

private theorem break_keepData : "        self._data = data\n".toList =
    lineAt 8 "self._data = data".toList [] := by
  rw [String.toList_ofList, String.toList_ofList]
  rfl

private theorem head_lines (more : List Char) : c.head.toList ++ more =
    lineAt 0 "from __future__ import annotations".toList ('\n' ::
      lineAt 0 "from collections.abc import Iterable".toList
        (lineAt 0 "from typing import Annotated".toList ('\n' ::
          lineAt 0 "from typing_extensions import override".toList ('\n' ::
            lineAt 0 "from iterwrap.subject import FailureStrategy, SubjectFactory".toList
              (lineAt 0 c.packageLine.toList ('\n' :: '\n' :: lineAt 0 c.classLine.toList ('\n' ::
                lineAt 4 (c.signatureLines []) (constructionLines more)))))))) := by
  unfold head signatureLines
  simp only [String.toList_append]
  simp only [break_import, break_iterable, break_annotated, break_override, break_subject, break_package,
    break_class, break_signature, break_self, break_reporter, break_factory, break_data, break_target,
    break_returns, break_super, break_keepFactory, break_keepData, packageLine, classLine,
    constructionLines, further, lineAt, List.replicate_zero, String.toList_append, List.append_assoc,
    List.cons_append, List.nil_append]

/-! ### The lines in place -/

/-- A line of fixed text. -/
private theorem fixedLine {columns columns' : List (Nat × Nat)} {width : Nat} {indents tokens left : List Token}
    {line : String} {rest : List Char} (starts : ∃ c ∈ line.toList.head?, c ∉ spacing)
    (places : Layout.indentTo? ⟨[], columns⟩ width width = some (indents, ⟨[], columns'⟩))
    (spells : Spells line.toList tokens) (further : Cuts columns' rest left) :
    Cuts columns (lineAt width line.toList rest) (indents ++ (tokens ++ .newline :: left)) := by
  obtain ⟨c, first, ordinary⟩ := starts
  obtain ⟨more, same⟩ := List.head?_eq_some_iff.1 first
  have inline : isInlineSpace c = false := by
    cases inline : isInlineSpace c with
    | false => rfl
    | true =>
      simp only [isInlineSpace, Bool.or_eq_true, beq_iff_eq] at inline
      rcases inline with (rfl | rfl) | rfl <;> exact absurd (by decide) ordinary
  have start : (line.toList.head?.map isInlineSpace).getD false = false := by
    rw [show line.toList.head? = some c from first]
    exact inline
  exact Cuts.lineAt ⟨c, more, same, ordinary⟩ places (spells.fixed start (by decide) rest) further

/-- A line at the margin opens and closes no block. -/
private theorem inModule : Layout.indentTo? ⟨[], [(0, 0)]⟩ 0 0 = some ([], ⟨[], [(0, 0)]⟩) := rfl

/-- The first line of a class opens a block. -/
private theorem toMembers : Layout.indentTo? ⟨[], [(0, 0)]⟩ 4 4 = some ([.indent], ⟨[], [(4, 4), (0, 0)]⟩) := rfl

/-- The first line of the constructor opens a block. -/
private theorem toConstructor :
    Layout.indentTo? ⟨[], [(4, 4), (0, 0)]⟩ 8 8 = some ([.indent], ⟨[], [(8, 8), (4, 4), (0, 0)]⟩) := rfl

/-- The constructor goes on in its block. -/
private theorem inConstructor :
    Layout.indentTo? ⟨[], [(8, 8), (4, 4), (0, 0)]⟩ 8 8 = some ([], ⟨[], [(8, 8), (4, 4), (0, 0)]⟩) := rfl

private theorem imports_spell :
    Spells "from __future__ import annotations".toList
      [.word "from", .word "__future__", .word "import", .word "annotations"] ∧
    Spells "from collections.abc import Iterable".toList
      [.word "from", .word "collections", .op ".", .word "abc", .word "import", .word "Iterable"] ∧
    Spells "from typing import Annotated".toList
      [.word "from", .word "typing", .word "import", .word "Annotated"] ∧
    Spells "from typing_extensions import override".toList
      [.word "from", .word "typing_extensions", .word "import", .word "override"] ∧
    Spells "from iterwrap.subject import FailureStrategy, SubjectFactory".toList
      [.word "from", .word "iterwrap", .op ".", .word "subject", .word "import",
       .word "FailureStrategy", .op ",", .word "SubjectFactory"] := by
  decide +kernel

private theorem construction_spells :
    Spells "super().__init__(failure_strategy, None)".toList
      [.word "super", .op "(", .op ")", .op ".", .word "__init__", .op "(", .word "failure_strategy",
       .op ",", .word "None", .op ")"] ∧
    Spells "self._subject_factory = subject_factory".toList
      [.word "self", .op ".", .word "_subject_factory", .op "=", .word "subject_factory"] ∧
    Spells "self._data = data".toList
      [.word "self", .op ".", .word "_data", .op "=", .word "data"] := by
  decide +kernel

private theorem signature_spells :
    Spells "failure_strategy: FailureStrategy".toList
      [.word "failure_strategy", .op ":", .word "FailureStrategy"] ∧
    Spells "subject_factory: SubjectFactory".toList
      [.word "subject_factory", .op ":", .word "SubjectFactory"] ∧
    Spells "-> None".toList [.op "->", .word "None"] := by
  decide +kernel

private theorem imports_cut {more : List Char} {left : List Token} (further : Cuts [(0, 0)] more left) :
    Cuts [(0, 0)] (lineAt 0 "from __future__ import annotations".toList ('\n' ::
      lineAt 0 "from collections.abc import Iterable".toList
        (lineAt 0 "from typing import Annotated".toList ('\n' ::
          lineAt 0 "from typing_extensions import override".toList ('\n' ::
            lineAt 0 "from iterwrap.subject import FailureStrategy, SubjectFactory".toList more)))))
      (importTokens ++ left) := by
  have starts : ∀ {text : String}, text.toList.head? = some 'f' →
      ∃ c ∈ text.toList.head?, c ∉ spacing := fun first => ⟨'f', first, by decide⟩
  obtain ⟨future_spells, iterable_spells, annotated_spells, override_spells, subject_spells⟩ := imports_spell
  have subject := fixedLine (starts (by decide)) inModule subject_spells further
  have override := fixedLine (starts (by decide)) inModule override_spells (.emptyLine subject)
  have annotated := fixedLine (starts (by decide)) inModule annotated_spells (.emptyLine override)
  have iterable := fixedLine (starts (by decide)) inModule iterable_spells annotated
  exact fixedLine (starts (by decide)) inModule future_spells (.emptyLine iterable)

private theorem construction_cut {more : List Char} {left : List Token}
    (further : Cuts [(8, 8), (4, 4), (0, 0)] more left) :
    Cuts [(4, 4), (0, 0)] (constructionLines more) (.indent :: (constructionTokens ++ left)) := by
  obtain ⟨super_spells, keepFactory_spells, keepData_spells⟩ := construction_spells
  have data := fixedLine ⟨'s', by decide, by decide⟩ inConstructor keepData_spells further
  have factory := fixedLine ⟨'s', by decide, by decide⟩ inConstructor keepFactory_spells data
  exact fixedLine ⟨'s', by decide, by decide⟩ toConstructor super_spells factory

variable {c} (readable : c.IsReadable)

theorem name_isIdentifier (isName : Text.isName c.subjectName = true) :
    Text.isIdentifier c.name = true := by
  have isWord := Text.isName_isIdentifier isName
  have ending : wrapperEnding.toList.all Text.isIdentifierContinue = true := by decide
  rw [Text.isIdentifier] at isWord ⊢
  rw [name, String.toList_append]
  cases same : c.subjectName.toList with
  | nil =>
    rw [same] at isWord
    cases isWord
  | cons first rest =>
    rw [same] at isWord
    simp only [Text.isIdentifierChars, Bool.and_eq_true] at isWord
    simp only [List.cons_append, Text.isIdentifierChars, List.all_append, isWord.1, isWord.2, ending,
      Bool.and_self]

/-- The name of a wrapper class is no reserved word, being longer. -/
theorem name_isName (isName : Text.isName c.subjectName = true) : Text.isName c.name = true := by
  have long : 16 ≤ c.name.length := by
    have ending : wrapperEnding.length = 16 := by decide
    rw [name, String.length_append, ending]
    omega
  have short := (by decide : ∀ word ∈ Text.reservedWords, word.length < 16)
  rw [Text.isName, name_isIdentifier isName, Bool.true_and, Bool.not_eq_true', Text.isReserved,
    List.contains_eq_mem, decide_eq_false_iff_not]
  intro reserved
  have := short c.name reserved
  omega

include readable

private theorem package_cut {more : List Char} {left : List Token} (further : Cuts [(0, 0)] more left) :
    Cuts [(0, 0)] (lineAt 0 c.packageLine.toList more) (c.packageTokens ++ .newline :: left) := by
  have subject : Reads [] _ _ _ _ :=
    Reads.word (Text.isName_isIdentifier readable.subjectName) (c := '\n') rfl more
  have behind := (Reads.path readable.package (c := ' ') rfl _).append
    ((Reads.space _).append ((Reads.keyword "import" (by decide) _).append subject))
  have whole := (Reads.keyword "from" (by decide) _).append behind
  have reads : Reads [] (c.packageLine.toList ++ '\n' :: more) c.packageTokens [] ('\n' :: more) := by
    simpa [packageLine, packageTokens, String.toList_append] using whole
  exact Cuts.lineAt ⟨'f', _, by simp [packageLine, String.toList_append]; rfl, by decide⟩ inModule reads further

private theorem class_cut {more : List Char} {left : List Token} (further : Cuts [(0, 0)] more left) :
    Cuts [(0, 0)] (lineAt 0 c.classLine.toList more) (c.classTokens ++ .newline :: left) := by
  have colon : Reads [] (_ :: '\n' :: more) _ _ _ := Reads.colon (by decide)
  have base := (Reads.word (Text.isName_isIdentifier readable.subjectName) (c := ')') rfl _).append
    (Reads.closeParenthesis.append colon)
  have named := (Reads.word (name_isIdentifier readable.subjectName) (c := '(') rfl _).append
    (Reads.openParenthesis.append base)
  have whole := (Reads.keyword "class" (by decide) _).append named
  have reads : Reads [] (c.classLine.toList ++ '\n' :: more) c.classTokens [] ('\n' :: more) := by
    simpa [classLine, classTokens, String.toList_append] using whole
  exact Cuts.lineAt ⟨'c', _, by simp [classLine, String.toList_append]; rfl, by decide⟩ inModule reads further

omit readable in
/-- The blanks between two lines inside of brackets. -/
private theorem further_reads {closer : String} {closers : List String} (width : Nat) (rest : List Char) :
    Reads (closer :: closers) (further width rest) [] (closer :: closers) rest := by
  refine .lineEnd ?_
  induction width with
  | zero => exact .done
  | succ width ih => exact .blank rfl ih

omit readable in
/-- A fixed parameter with the comma behind it. -/
private theorem parameter_reads {closers : List String} {text : String} {tokens : List Token}
    (spells : Spells text.toList tokens)
    (start : (text.toList.head?.map isInlineSpace).getD false = false) (rest : List Char) :
    Reads closers (text.toList ++ ',' :: rest) (tokens ++ [.op ","]) closers rest :=
  (spells.fixed start (by decide) rest).append Reads.comma

private theorem signature_reads (more : List Char) :
    Reads [] (c.signatureLines [] ++ '\n' :: more) c.signatureTokens [] ('\n' :: more) := by
  obtain ⟨e, target⟩ := readable.targetType
  obtain ⟨reporter_spells, factory_spells, returned_spells⟩ := signature_spells
  have colon : Reads [] (_ :: '\n' :: more) _ _ _ := Reads.colon (by decide)
  have returned := Reads.closeParenthesis.append ((Reads.space _).append
    ((returned_spells.fixed (by decide) (by decide) _).append colon))
  have listed := (target.reads (by decide) _).append
    (Reads.closeBracket.append (Reads.comma.append ((further_reads 4 _).append returned)))
  have data := (Reads.word (show Text.isIdentifier "data" = true by decide) (c := ':') rfl _).append
    ((Reads.colon (c := ' ') (by decide)).append ((Reads.space _).append
      ((Reads.word (show Text.isIdentifier "Iterable" = true by decide) (c := '[') rfl _).append
        (Reads.openBracket.append listed))))
  have factory := (parameter_reads factory_spells (by decide) _).append ((further_reads 8 _).append data)
  have reporter := (parameter_reads reporter_spells (by decide) _).append
    ((further_reads 8 _).append factory)
  have self := (Reads.word (show Text.isIdentifier "self" = true by decide) (c := ',') rfl _).append
    (Reads.comma.append ((further_reads 8 _).append reporter))
  have whole := (Reads.keyword "def" (by decide) _).append
    ((Reads.word (show Text.isIdentifier "__init__" = true by decide) (c := '(') rfl _).append
      (Reads.openParenthesis.append ((further_reads 8 _).append self)))
  unfold signatureLines
  simpa [signatureTokens, further] using whole

omit readable in
private theorem signature_starts : ∃ more, c.signatureLines [] = 'd' :: more := by
  unfold signatureLines
  exact ⟨_, by rw [show "def __init__(".toList = 'd' :: "ef __init__(".toList by decide]; rfl⟩

private theorem signature_clean : isClean (c.signatureLines []) = true := by
  obtain ⟨e, target⟩ := readable.targetType
  unfold signatureLines
  simp [further, target.clean]

private theorem head_clean : isClean c.head.toList = true := by
  have package := path_clean readable.package
  have subject := identifier_clean (Text.isName_isIdentifier readable.subjectName)
  have name := identifier_clean (name_isIdentifier readable.subjectName)
  have lines := head_lines c []
  rw [List.append_nil] at lines
  rw [lines]
  simp [packageLine, classLine, constructionLines, String.toList_append, signature_clean readable, package, subject,
    name]

omit readable in
private theorem text_chars : c.text.toList = c.head.toList ++ c.overrides.flatMap (·.text.toList) := by
  rw [text, String.toList_append, String.toList_join, List.flatMap_map]

omit readable in
private theorem overrides_end : ∀ overrides : List Override, overrides.flatMap (·.text.toList) = [] ∨
    (overrides.flatMap (·.text.toList)).getLast? = some '\n'
  | [] => .inl rfl
  | m :: rest => by
    rw [List.flatMap_cons]
    rcases overrides_end rest with none | ends
    · exact .inr (by rw [none, List.append_nil, Override.text_ends])
    · exact .inr (by simp [List.getLast?_append, ends])

omit readable in
private theorem text_ends : c.text.toList.getLast? = some '\n' := by
  have emptyLine : ∀ {rest : List Char}, rest.getLast? = some '\n' →
      ('\n' :: rest).getLast? = some '\n' := by simp +contextual [List.getLast?_cons]
  have before : ∀ (width : Nat) (line : List Char) {rest : List Char}, rest.getLast? = some '\n' →
      (lineAt width line rest).getLast? = some '\n' := fun width line _ ends =>
    lineAt_ends width line (.inr ends)
  have construction := before 8 "super().__init__(failure_strategy, None)".toList
    (before 8 "self._subject_factory = subject_factory".toList
      (lineAt_ends 8 "self._data = data".toList (overrides_end c.overrides)))
  rw [text_chars, head_lines]
  exact before _ _ (emptyLine (before _ _ (before _ _ (emptyLine (before _ _ (emptyLine (before _ _
    (before _ _ (emptyLine (emptyLine (before _ _ (emptyLine (before _ _ construction)))))))))))))

/-- The text of a readable class is cut into the tokens of its parts. -/
private theorem text_cut : Cuts [(0, 0)] c.text.toList c.tokens := by
  obtain ⟨more, starts⟩ := signature_starts (c := c)
  have overrides := overrides_cut readable.overrides [(8, 8), (4, 4), (0, 0)] rfl rfl
  have signature := Cuts.lineAt ⟨'d', more, starts, by decide⟩ toMembers (signature_reads readable _)
    (construction_cut overrides)
  have named := class_cut readable (.emptyLine signature)
  have package := package_cut readable (.emptyLine (.emptyLine named))
  rw [text_chars, head_lines]
  simpa [tokens] using imports_cut package

private theorem text_clean : isClean c.text.toList = true := by
  have overrides : isClean (c.overrides.flatMap (·.text.toList)) = true :=
    isClean_flatMap fun m among => Override.text_clean (readable.overrides m among)
  rw [text_chars, isClean_append, head_clean readable, overrides, Bool.and_self]

/-- The text of a readable class is cut into the tokens of its parts only. -/
theorem tokens_eq {all : List Token} (found : tokens? c.text.toList = some all) : all = c.tokens := by
  have scanned := scans_of_tokens (isClean_iff.1 (text_clean readable)).2 found
  rw [endLine, if_pos text_ends] at scanned
  exact (text_cut readable).unique scanned

/-- The text of a readable class is cut into its tokens, unless its brackets nest too deep. -/
theorem tokens_found (nests : Nests bracketLimit c.tokens) : tokens? c.text.toList = some c.tokens := by
  have fits : Fits [] (c.tokens ++ []) := nests.fits (Nat.le_of_eq (Nat.zero_add _)) trivial
  rw [List.append_nil] at fits
  refine tokens_of_scans (text_clean readable) ?_
  rw [endLine, if_pos text_ends]
  exact (text_cut readable).scans fits

end Class

end Wrapper

/-! # How deep the brackets nest -/

/-! ## Lines -/

section

variable {depth : Nat} {tokens : List Token}

private theorem newline_nests (nests : Nests depth tokens) : Nests depth (.newline :: tokens) := .neutral rfl nests

private theorem indent_nests (nests : Nests depth tokens) : Nests depth (.indent :: tokens) := .neutral rfl nests

private theorem dedent_nests (nests : Nests depth tokens) : Nests depth (.dedent :: tokens) := .neutral rfl nests

end

namespace Wrapper

/-! ## Parts -/

private theorem starTokens_nest (kind : ParameterKind) {depth : Nat} : Nests depth (starTokens kind) := by
  cases kind <;> exact .plain rfl

private theorem dottedTokens_nest {depth : Nat} : ∀ names : List String, Nests depth (dottedTokens names)
  | [] => .nil
  | [_] => .plain rfl
  | _ :: next :: rest => .neutral rfl (.neutral rfl (dottedTokens_nest (next :: rest)))

private theorem behindCommas_nest {depth : Nat} {items : List (List Token)} (nest : ∀ item ∈ items, Nests depth item) :
    Nests depth (behindCommas items) :=
  .flatMap fun item among => .neutral rfl (nest item among)

private theorem commaSeparated_nest {depth : Nat} {items : List (List Token)}
    (nest : ∀ item ∈ items, Nests depth item) : Nests depth (commaSeparated items) := by
  cases items with
  | nil => exact .nil
  | cons item rest =>
    exact (nest item List.mem_cons_self).append
      (behindCommas_nest fun other among => nest other (List.mem_cons_of_mem item among))

/-- The brackets in the texts of a parameter nest to this depth at most. -/
structure Parameter.IsShallow (depth : Nat) (p : Parameter) : Prop where
  typeText : ∀ typeText ∈ p.typeText, Nests depth (textTokens (annotatedText typeText p.annotations))
  default : ∀ default ∈ p.default, Nests depth (textTokens default)

private theorem declaration_nests {depth : Nat} {p : Parameter} (shallow : p.IsShallow depth) :
    Nests depth p.declarationTokens := by
  refine (starTokens_nest p.kind).append (.neutral rfl (.append ?_ ?_))
  · cases isType : p.typeText with
    | none => exact .nil
    | some typeText => exact .neutral rfl (shallow.typeText typeText isType)
  · cases isDefault : p.default with
    | none => exact .nil
    | some default => exact .neutral rfl (shallow.default default isDefault)

private theorem declarationItems_nest {depth : Nat} : ∀ {parameters : List Parameter} (starred : Bool),
    (∀ p ∈ parameters, p.IsShallow depth) → ∀ item ∈ declarationItems starred parameters, Nests depth item
  | [], _, _ => by simp [declarationItems]
  | p :: rest, starred, shallow => by
    have first := declaration_nests (shallow p List.mem_cons_self)
    have behind (starred : Bool) : ∀ item ∈ declarationItems starred rest, Nests depth item :=
      declarationItems_nest starred fun q among => shallow q (List.mem_cons_of_mem p among)
    have star : Nests depth [.op "*"] := .plain rfl
    rw [declarationItems]
    split
    · exact List.forall_mem_cons.2 ⟨first, behind true⟩
    · split
      · exact List.forall_mem_cons.2 ⟨first, behind true⟩
      · exact List.forall_mem_cons.2 ⟨star, List.forall_mem_cons.2 ⟨first, behind true⟩⟩
    · exact List.forall_mem_cons.2 ⟨first, behind starred⟩

private theorem argument_nests {depth : Nat} (p : Parameter) : Nests depth p.argumentTokens := by
  rw [Parameter.argumentTokens]
  split
  · exact .plain rfl
  · exact (starTokens_nest _).append (.plain rfl)

/-! ## Overrides -/

/-- The brackets in the texts of an override nest to this depth at most. -/
structure Override.IsShallow (depth : Nat) (m : Override) : Prop where
  targetType : Nests depth (textTokens m.targetType)
  returns : ∀ returns ∈ m.returns, Nests depth (textTokens returns)
  parameters : ∀ p ∈ m.parameters, p.IsShallow depth

namespace Override

variable {depth : Nat} {m : Override}

private theorem header_nests (shallow : m.IsShallow depth) : Nests (depth + 1) m.headerTokens := by
  have declared : Nests depth (.word "self" :: behindCommas (declarationItems false m.parameters)) :=
    .neutral rfl (behindCommas_nest (declarationItems_nest false shallow.parameters))
  have colon : Nests (depth + 1) [.op ":"] := .plain rfl
  have named {returned : List Token} (nests : Nests (depth + 1) returned) : Nests (depth + 1)
      (.word "def" :: .word m.name :: .op "(" :: (.word "self" :: behindCommas (declarationItems false m.parameters) ++
        .op ")" :: (returned ++ [.op ":"]))) :=
    .neutral rfl (.neutral rfl (.bracketed rfl declared (nests.append colon)))
  have async : Nests (depth + 1) (if m.isAsync then [.word "async"] else []) := by
    split
    · exact .plain rfl
    · exact .nil
  cases isReturned : m.returns with
  | none => simpa [headerTokens, isReturned] using async.append (named .nil)
  | some returns =>
    have type : Nests (depth + 1) (.op "->" :: textTokens returns) :=
      .neutral rfl ((shallow.returns returns isReturned).mono (Nat.le_succ depth))
    simpa [headerTokens, isReturned] using async.append (named type)

private theorem call_nests : Nests (depth + 1) m.callTokens := by
  have passed : Nests depth (commaSeparated (m.parameters.map Parameter.argumentTokens)) := by
    refine commaSeparated_nest fun item among => ?_
    obtain ⟨p, _, rfl⟩ := List.mem_map.1 among
    exact argument_nests p
  have called : Nests (depth + 1) (.word m.subjectLocal :: .op "." :: .word m.name ::
      .op "(" :: (commaSeparated (m.parameters.map Parameter.argumentTokens) ++ [.op ")"])) :=
    .neutral rfl (.neutral rfl (.neutral rfl (.enclosed rfl passed)))
  have async : Nests (depth + 1) (if m.isAsync then [.word "await"] else []) := by
    split
    · exact .plain rfl
    · exact .nil
  simpa [callTokens] using async.append called

private theorem subject_nests : Nests (depth + 1) m.subjectTokens := by
  have reported : Nests depth [.word "self", .op ".", .word "failure_strategy", .op ",", .word m.itemLocal] :=
    .plain rfl
  have enclosed : Nests (depth + 1) (.op "(" :: ([.word "self", .op ".", .word "failure_strategy", .op ",",
      .word m.itemLocal] ++ [.op ")"])) := .enclosed rfl reported
  have before : Nests (depth + 1) [.word m.subjectLocal, .op ":", .word m.subjectType, .op "=", .word "self", .op ".",
      .word "_subject_factory", .op ".", .word "get_subject"] := .plain rfl
  exact before.append enclosed

theorem tokens_nest (shallow : m.IsShallow depth) : Nests (depth + 1) m.tokens := by
  have item : Nests (depth + 1) m.itemTokens :=
    .neutral rfl (.neutral rfl (shallow.targetType.mono (Nat.le_succ depth)))
  have loop : Nests (depth + 1) m.loopTokens := .plain rfl
  have call : Nests (depth + 1) (m.callTokens ++ [.newline]) := call_nests.append (newline_nests .nil)
  have subject : Nests (depth + 1) (m.subjectTokens ++ .newline :: (m.callTokens ++ [.newline])) :=
    subject_nests.append (newline_nests call)
  have body := item.append (newline_nests (loop.append (newline_nests (indent_nests subject))))
  have lines := (header_nests shallow).append (newline_nests (indent_nests body))
  exact (Nests.neutral rfl (.neutral rfl (.neutral rfl lines))).append (.plain rfl)

end Override

/-! ## Classes -/

/-- The brackets in the texts of a class nest to this depth at most. -/
structure Class.IsShallow (depth : Nat) (c : Wrapper.Class) : Prop where
  targetType : Nests depth (textTokens c.targetType)
  overrides : ∀ m ∈ c.overrides, m.IsShallow depth

namespace Class

variable {depth : Nat} {c : Wrapper.Class}

private theorem signature_nests (shallow : c.IsShallow depth) : Nests (depth + 2) c.signatureTokens := by
  have data : Nests (depth + 1) ([.word "data", .op ":", .word "Iterable", .op "["] ++
      (textTokens c.targetType ++ [.op "]", .op ","])) :=
    .neutral rfl (.neutral rfl (.neutral rfl (.bracketed rfl shallow.targetType (.plain rfl))))
  have others : Nests (depth + 1) [.word "self", .op ",", .word "failure_strategy", .op ":", .word "FailureStrategy",
      .op ",", .word "subject_factory", .op ":", .word "SubjectFactory", .op ","] := .plain rfl
  have returned : Nests (depth + 2) [.op "->", .word "None", .op ":"] := .plain rfl
  have listed : Nests (depth + 2) (.op "(" :: ([.word "self", .op ",", .word "failure_strategy", .op ":",
      .word "FailureStrategy", .op ",", .word "subject_factory", .op ":", .word "SubjectFactory", .op ","] ++
      ([.word "data", .op ":", .word "Iterable", .op "["] ++ (textTokens c.targetType ++ [.op "]", .op ","])) ++
        .op ")" :: [.op "->", .word "None", .op ":"])) := .bracketed rfl (others.append data) returned
  have whole : Nests (depth + 2) (.word "def" :: .word "__init__" :: _) := .neutral rfl (.neutral rfl listed)
  simpa [signatureTokens] using whole

private theorem construction_nests : Nests (depth + 2) constructionTokens := by
  have passed : Nests 0 [.word "failure_strategy", .op ",", .word "None"] := .plain rfl
  have shallow : Nests 1 constructionTokens :=
    .neutral rfl (.bracketed rfl .nil (.neutral rfl (.neutral rfl (.bracketed rfl passed (.plain rfl)))))
  exact shallow.mono (by omega)

private theorem tokens_nest (shallow : c.IsShallow depth) : Nests (depth + 2) c.tokens := by
  have imports : Nests (depth + 2) importTokens := .plain rfl
  have package : Nests (depth + 2) c.packageTokens :=
    .neutral rfl ((dottedTokens_nest _).append (.plain rfl))
  have subject : Nests (depth + 1) [.word c.subjectName] := .plain rfl
  have named : Nests (depth + 2) c.classTokens :=
    .neutral rfl (.neutral rfl (.bracketed rfl subject (.plain rfl)))
  have overrides : Nests (depth + 2) (c.overrides.flatMap Override.tokens) := by
    refine .flatMap fun m among => ?_
    exact (Override.tokens_nest (shallow.overrides m among)).mono (Nat.le_succ _)
  have construction := construction_nests.append (dedent_nests (overrides.append (dedent_nests .nil)))
  have signature := (signature_nests shallow).append (newline_nests (indent_nests construction))
  have members := named.append (newline_nests (indent_nests signature))
  exact imports.append (package.append (.neutral rfl members))

/-- The text of a readable class is cut into its tokens, if two more brackets may be put around its texts. -/
theorem tokens_of_shallow (readable : c.IsReadable) (shallow : c.IsShallow depth) (room : depth + 2 ≤ bracketLimit) :
    tokens? c.text.toList = some c.tokens :=
  tokens_found readable ((tokens_nest shallow).mono room)

end Class

end Wrapper

end EachSubject
