import EachSubject.Proofs.Source.Calls
import EachSubject.Proofs.Source.Cutting
import EachSubject.Proofs.Source.Pieces
import EachSubject.Wrapper.Printer

/-!
# The tokens of a wrapper module

A wrapper module is printed line by line. Where the names in it are names and the texts in it are complete
expressions, its tokens are those of its parts.
-/

namespace EachSubject

open Source

namespace Wrapper

/-! ## Parameters -/

/-- The stars of a kind as a token. -/
def starTokens : ParameterKind → List Token
  | .extraPositional => [.op "*"]
  | .extraKeyword => [.op "**"]
  | _ => []

/-- The tokens of a parameter's declaration. -/
def Parameter.declarationTokens (p : Parameter) : List Token :=
  starTokens p.kind ++ .word p.name ::
    ((match p.typeText with
      | some typeText => .op ":" :: textTokens (annotatedText typeText p.annotations)
      | none => []) ++
    (match p.default with
      | some default => .op "=" :: textTokens default
      | none => []))

/-- The tokens of the items of a parameter list. -/
def declarationItems (starred : Bool) : List Parameter → List (List Token)
  | [] => []
  | p :: rest =>
    match p.kind with
    | .extraPositional => p.declarationTokens :: declarationItems true rest
    | .keywordOnly =>
      if starred then p.declarationTokens :: declarationItems true rest
      else [.op "*"] :: p.declarationTokens :: declarationItems true rest
    | _ => p.declarationTokens :: declarationItems starred rest

/-- The tokens that pass a parameter on. -/
def Parameter.argumentTokens (p : Parameter) : List Token :=
  match p.kind with
  | .keywordOnly => [.word p.name, .op "=", .word p.name]
  | kind => starTokens kind ++ [.word p.name]

/-- The name of a parameter is a name, and its texts are complete expressions. -/
structure Parameter.IsReadable (p : Parameter) : Prop where
  name : Text.isName p.name = true
  typeText : ∀ typeText ∈ p.typeText, ∃ e, ReadsAs (annotatedText typeText p.annotations) e
  default : ∀ default ∈ p.default, ∃ e, ReadsAs default e

section

variable {closers : List String} {stop : Char} {more : List Char}

/-- The name of a parameter with its stars. -/
private theorem name_reads {name : String} (isName : Text.isName name = true) (kind : ParameterKind)
    (ends : endsWord stop = true) :
    Reads closers ((kind.stars ++ name).toList ++ stop :: more) (starTokens kind ++ [.word name]) closers
      (stop :: more) := by
  have isWord := Text.isName_isIdentifier isName
  have word : Reads closers _ _ _ _ := Reads.word isWord ends more
  obtain ⟨c, rest, same, _, _, noStar, noEquals⟩ := identifier_head isWord
  rw [String.toList_append, List.append_assoc]
  cases kind with
  | extraPositional =>
    rw [same] at word ⊢
    exact (Reads.star noEquals noStar).append word
  | extraKeyword =>
    rw [same] at word ⊢
    exact (Reads.twoStars noEquals).append word
  | positional => exact word
  | keywordOnly => exact word

/-- A declared type behind its colon. -/
private theorem type_reads {typeText : String} {e : Expr} (reads : ReadsAs typeText e)
    (isStop : stop ∈ stops) (more : List Char) :
    Reads closers (':' :: ' ' :: (typeText.toList ++ stop :: more)) (.op ":" :: textTokens typeText)
      closers (stop :: more) :=
  (Reads.colon (by decide)).append (.blank rfl (reads.reads isStop more))

private theorem declaration_reads {p : Parameter} (readable : p.IsReadable)
    (isStop : stop ∈ [',', ')']) :
    Reads closers (p.declaration.toList ++ stop :: more) p.declarationTokens closers (stop :: more) := by
  have isEnd : stop ∈ stops := (by decide : ∀ c ∈ [',', ')'], c ∈ stops) stop isStop
  have ends : endsWord stop = true := (by decide : ∀ c ∈ [',', ')'], endsWord c = true) stop isStop
  rw [Parameter.declaration, Parameter.declarationTokens]
  cases isType : p.typeText with
  | none =>
    cases isDefault : p.default with
    | none => simpa using name_reads readable.name p.kind ends
    | some default =>
      obtain ⟨e, reads⟩ := readable.default default isDefault
      obtain ⟨c, rest, same, noEquals⟩ := reads.head
      have value : Reads closers _ _ _ _ := reads.reads isEnd more
      rw [same] at value
      have whole := (name_reads readable.name p.kind rfl).append
        ((Reads.equals noEquals).append value)
      simpa [String.toList_append, same] using whole
  | some typeText =>
    obtain ⟨hint, readsType⟩ := readable.typeText typeText isType
    have name (more : List Char) : Reads closers (_ ++ ':' :: more) _ _ _ :=
      name_reads readable.name p.kind rfl
    cases isDefault : p.default with
    | none =>
      have whole := (name _).append (type_reads readsType isEnd more)
      simpa [String.toList_append] using whole
    | some default =>
      obtain ⟨e, reads⟩ := readable.default default isDefault
      have value : Reads closers _ _ _ _ := (Reads.space _).append
        ((Reads.equals (c := ' ') (by decide)).append (.blank rfl (reads.reads isEnd more)))
      have whole := (name _).append ((type_reads readsType (by decide) _).append value)
      simpa [String.toList_append] using whole

/-- An item of a list, in front of the comma or the parenthesis behind it. -/
private def ReadsInList (text : String) (tokens : List Token) : Prop :=
  ∀ {closers : List String} {stop : Char}, stop ∈ [',', ')'] → ∀ more,
    Reads closers (text.toList ++ stop :: more) tokens closers (stop :: more)

private theorem loneStar_reads : ReadsInList "*" [.op "*"] := by
  intro closers stop isStop more
  simp only [List.mem_cons, List.not_mem_nil, or_false] at isStop
  rcases isStop with rfl | rfl
  · exact Reads.star (by decide) (by decide)
  · exact Reads.star (by decide) (by decide)

private theorem declarations_inList : ∀ {parameters : List Parameter} (starred : Bool),
    (∀ p ∈ parameters, p.IsReadable) →
      List.Forall₂ ReadsInList (declarations starred parameters) (declarationItems starred parameters)
  | [], _, _ => .nil
  | p :: rest, starred, readable => by
    have first : ReadsInList p.declaration p.declarationTokens :=
      fun isStop more => declaration_reads (readable p List.mem_cons_self) isStop
    have behind : ∀ q ∈ rest, q.IsReadable := fun q inside => readable q (List.mem_cons_of_mem p inside)
    rw [declarations, declarationItems]
    cases p.kind with
    | extraPositional => exact .cons first (declarations_inList true behind)
    | keywordOnly =>
      cases starred with
      | true => exact .cons first (declarations_inList true behind)
      | false => exact .cons loneStar_reads (.cons first (declarations_inList true behind))
    | positional => exact .cons first (declarations_inList starred behind)
    | extraKeyword => exact .cons first (declarations_inList starred behind)

private theorem argument_reads {p : Parameter} (isName : Text.isName p.name = true) :
    ReadsInList p.argument p.argumentTokens := by
  intro closers stop isStop more
  have ends : endsWord stop = true := (by decide : ∀ c ∈ [',', ')'], endsWord c = true) stop isStop
  have plain (kind : ParameterKind) : Reads closers (_ ++ stop :: more) _ _ _ := name_reads isName kind ends
  rw [Parameter.argument, Parameter.argumentTokens]
  cases p.kind with
  | keywordOnly =>
    obtain ⟨c, rest, same, _, _, _, noEquals⟩ := identifier_head (Text.isName_isIdentifier isName)
    have value : Reads closers _ _ _ _ := Reads.word (Text.isName_isIdentifier isName) ends more
    have word : Reads closers _ _ _ _ := Reads.word (Text.isName_isIdentifier isName) (c := '=') rfl
      (p.name.toList ++ stop :: more)
    rw [same] at value word
    have whole := word.append ((Reads.equals noEquals).append value)
    simpa [String.toList_append, same] using whole
  | positional => exact plain .positional
  | extraPositional => exact plain .extraPositional
  | extraKeyword => exact plain .extraKeyword

/-- An item in front of others. -/
private theorem item_before {text : String} {item : List Token} (first : ReadsInList text item)
    (texts : List String) : Reads closers
      (text.toList ++ (texts.flatMap (fun text => ',' :: ' ' :: text.toList) ++ ')' :: more)) item closers
      (texts.flatMap (fun text => ',' :: ' ' :: text.toList) ++ ')' :: more) := by
  cases texts with
  | nil => exact first (by decide) more
  | cons next texts => exact first (by decide) _

private theorem behindCommas_read {texts : List String} {items : List (List Token)}
    (read : List.Forall₂ ReadsInList texts items) : Reads closers
      (texts.flatMap (fun text => ',' :: ' ' :: text.toList) ++ ')' :: more) (behindCommas items)
      closers (')' :: more) := by
  induction read with
  | nil => exact .done
  | @cons text item texts items first rest further =>
    have whole := Reads.comma.append ((Reads.space _).append ((item_before first texts).append further))
    simpa [behindCommas] using whole

private theorem intercalate_cons (text : String) (texts : List String) :
    (", ".intercalate (text :: texts)).toList =
      text.toList ++ texts.flatMap fun text => ',' :: ' ' :: text.toList := by
  induction texts generalizing text with
  | nil => simp
  | cons next texts further =>
    rw [String.intercalate_cons_cons, String.toList_append, String.toList_append, further]
    simp

private theorem commaSeparated_read {texts : List String} {items : List (List Token)}
    (read : List.Forall₂ ReadsInList texts items) : Reads closers
      ((", ".intercalate texts).toList ++ ')' :: more) (commaSeparated items) closers (')' :: more) := by
  cases read with
  | nil => exact .done
  | @cons text item texts items first rest =>
    have whole : Reads closers (_ ++ (_ ++ ')' :: more)) _ _ _ :=
      (item_before first texts).append (behindCommas_read rest)
    rw [intercalate_cons, List.append_assoc]
    exact whole

end

/-! ### Control characters -/

private theorem name_clean {name : String} (isName : Text.isName name = true) : isClean name.toList = true :=
  identifier_clean (Text.isName_isIdentifier isName)

private theorem stars_clean (kind : ParameterKind) : isClean kind.stars.toList = true := by
  cases kind <;> rfl

private theorem declaration_clean {p : Parameter} (readable : p.IsReadable) :
    isClean p.declaration.toList = true := by
  have name := name_clean readable.name
  have stars := stars_clean p.kind
  have type := fun typeText isType => (readable.typeText typeText isType).elim fun _ reads => reads.clean
  have value := fun default isDefault => (readable.default default isDefault).elim fun _ reads => reads.clean
  rw [Parameter.declaration]
  cases isType : p.typeText <;> cases isDefault : p.default <;>
    simp_all [String.toList_append]

private theorem argument_clean {p : Parameter} (isName : Text.isName p.name = true) :
    isClean p.argument.toList = true := by
  have name := name_clean isName
  have stars := stars_clean p.kind
  rw [Parameter.argument]
  cases kind : p.kind <;> simp_all [String.toList_append]

private theorem declarations_mem : ∀ {parameters : List Parameter} {starred : Bool} {text : String},
    text ∈ declarations starred parameters → text = "*" ∨ ∃ p ∈ parameters, text = p.declaration
  | p :: rest, starred, text, inside => by
    have first : ∀ {starred}, text ∈ p.declaration :: declarations starred rest →
        text = "*" ∨ ∃ q ∈ p :: rest, text = q.declaration := by
      intro starred inside
      rcases List.mem_cons.1 inside with same | behind
      · exact .inr ⟨p, List.mem_cons_self, same⟩
      · rcases declarations_mem behind with star | ⟨q, among, same⟩
        · exact .inl star
        · exact .inr ⟨q, List.mem_cons_of_mem p among, same⟩
    rw [declarations] at inside
    cases kind : p.kind <;> rw [kind] at inside
    case keywordOnly =>
      cases starred with
      | true => exact first inside
      | false =>
        rcases List.mem_cons.1 inside with star | behind
        · exact .inl star
        · exact first behind
    all_goals exact first inside

private theorem declarations_clean {parameters : List Parameter}
    (readable : ∀ p ∈ parameters, p.IsReadable) :
    ∀ text ∈ declarations false parameters, isClean text.toList = true := by
  intro text inside
  rcases declarations_mem inside with rfl | ⟨p, among, rfl⟩
  · rfl
  · exact declaration_clean (readable p among)

/-- Clean texts behind others. -/
private theorem behind_clean {texts : List String} (clean : ∀ text ∈ texts, isClean text.toList = true) :
    isClean (texts.flatMap fun text => ',' :: ' ' :: text.toList) = true :=
  isClean_flatMap fun text among => by simp [clean text among]

private theorem intercalate_clean {texts : List String} (clean : ∀ text ∈ texts, isClean text.toList = true) :
    isClean (", ".intercalate texts).toList = true := by
  cases texts with
  | nil => rfl
  | cons text texts =>
    rw [intercalate_cons, isClean_append, clean text List.mem_cons_self,
      behind_clean fun other among => clean other (List.mem_cons_of_mem text among)]
    rfl

/-! ## Overrides -/

/-- The names of an override are names, and its texts are complete expressions. -/
structure Override.IsReadable (m : Override) : Prop where
  name : Text.isName m.name = true
  subjectType : Text.isName m.subjectType = true
  itemLocal : Text.isName m.itemLocal = true
  subjectLocal : Text.isName m.subjectLocal = true
  targetType : ∃ e, ReadsAs m.targetType e
  returns : ∀ returns ∈ m.returns, ∃ e, ReadsAs returns e
  parameters : ∀ p ∈ m.parameters, p.IsReadable

namespace Override

variable (m : Override)

/-- The line with the name and the parameters. -/
def headerTokens : List Token :=
  (if m.isAsync then [.word "async"] else []) ++
  [.word "def", .word m.name, .op "(", .word "self"] ++
  behindCommas (declarationItems false m.parameters) ++ .op ")" ::
  ((match m.returns with
    | some returns => .op "->" :: textTokens returns
    | none => []) ++ [.op ":"])

/-- The line that declares the element. -/
def itemTokens : List Token := .word m.itemLocal :: .op ":" :: textTokens m.targetType

/-- The line of the loop. -/
def loopTokens : List Token :=
  [.word "for", .word m.itemLocal, .word "in", .word "self", .op ".", .word "_data", .op ":"]

/-- The line that makes the element's subject. -/
def subjectTokens : List Token :=
  [.word m.subjectLocal, .op ":", .word m.subjectType, .op "=", .word "self", .op ".",
   .word "_subject_factory", .op ".", .word "get_subject", .op "(", .word "self", .op ".",
   .word "failure_strategy", .op ",", .word m.itemLocal, .op ")"]

/-- The line that runs the subject's method. -/
def callTokens : List Token :=
  (if m.isAsync then [.word "await"] else []) ++
  [.word m.subjectLocal, .op ".", .word m.name, .op "("] ++
  commaSeparated (m.parameters.map Parameter.argumentTokens) ++ [.op ")"]

/-- The tokens of the lines of an override. -/
def lineTokens : List Token :=
  .op "@" :: .word "override" :: .newline :: (m.headerTokens ++ .newline :: .indent ::
  (m.itemTokens ++ .newline :: (m.loopTokens ++ .newline :: .indent ::
  (m.subjectTokens ++ .newline :: (m.callTokens ++ [.newline])))))

/-- The tokens of an override, with the ends of its blocks. -/
def tokens : List Token := m.lineTokens ++ [.dedent, .dedent]

private def headerLine : String :=
  (if m.isAsync then "async def" else "def") ++ " " ++ m.name ++ "(self" ++
  (if (parametersText m.parameters).isEmpty then "" else ", " ++ parametersText m.parameters) ++ ")" ++
  (match m.returns with
    | some returns => " -> " ++ returns
    | none => "") ++ ":"

private def itemLine : String := m.itemLocal ++ ": " ++ m.targetType

private def loopLine : String := "for " ++ m.itemLocal ++ " in self._data:"

private def subjectLine : String :=
  m.subjectLocal ++ ": " ++ m.subjectType ++
  " = self._subject_factory.get_subject(self.failure_strategy, " ++ m.itemLocal ++ ")"

private def callLine : String :=
  (if m.isAsync then "await " else "") ++ m.subjectLocal ++ "." ++ m.name ++
  "(" ++ argumentsText m.parameters ++ ")"

/-- The comment behind the decorator. -/
private def markText : String :=
  if (visibilityText m.visibility).isEmpty then "" else "  # " ++ visibilityText m.visibility

private theorem break_decorator :
    "\n    @override".toList = '\n' :: (List.replicate 4 ' ' ++ "@override".toList) := by
  rw [String.toList_ofList, String.toList_ofList]
  rfl

private theorem break_four : "\n    ".toList = '\n' :: List.replicate 4 ' ' := by
  rw [String.toList_ofList]
  rfl

private theorem break_eight : "\n        ".toList = '\n' :: List.replicate 8 ' ' := by
  rw [String.toList_ofList]
  rfl

private theorem break_loop :
    "\n        for ".toList = '\n' :: (List.replicate 8 ' ' ++ "for ".toList) := by
  rw [String.toList_ofList, String.toList_ofList]
  rfl

private theorem break_twelve : "\n            ".toList = '\n' :: List.replicate 12 ' ' := by
  rw [String.toList_ofList]
  rfl

private theorem break_end : ")\n".toList = ")".toList ++ ['\n'] := by
  rw [String.toList_ofList, String.toList_ofList]
  rfl

private theorem text_lines (more : List Char) : m.text.toList ++ more =
    '\n' :: lineAt 4 ("@override" ++ m.markText).toList (lineAt 4 m.headerLine.toList
      (lineAt 8 m.itemLine.toList (lineAt 8 m.loopLine.toList (lineAt 12 m.subjectLine.toList
        (lineAt 12 m.callLine.toList more))))) := by
  unfold text headerLine
  cases m.returns
  all_goals
    simp only [String.toList_append]
    simp only [break_decorator, break_four, break_eight, break_loop, break_twelve, break_end,
      itemLine, loopLine, subjectLine, callLine, markText, lineAt, String.toList_append,
      List.append_assoc, List.cons_append, List.nil_append]

private theorem declaration_nonempty {p : Parameter} (readable : p.IsReadable) :
    p.declaration.toList ≠ [] := by
  obtain ⟨c, rest, same, _⟩ := identifier_head (Text.isName_isIdentifier readable.name)
  rw [Parameter.declaration]
  cases p.typeText <;> cases p.default <;> simp [String.toList_append, same]

/-- The parameters behind the first one. -/
private theorem parameters_text {parameters : List Parameter}
    (readable : ∀ p ∈ parameters, p.IsReadable) :
    (if (parametersText parameters).isEmpty then "" else ", " ++ parametersText parameters).toList =
      (declarations false parameters).flatMap fun text => ',' :: ' ' :: text.toList := by
  cases parameters with
  | nil => rfl
  | cons p rest =>
    have nonempty := declaration_nonempty (readable p List.mem_cons_self)
    obtain ⟨text, texts, same, filled⟩ : ∃ text texts,
        declarations false (p :: rest) = text :: texts ∧ text.toList ≠ [] := by
      rw [declarations]
      cases p.kind with
      | keywordOnly => exact ⟨"*", _, rfl, by decide⟩
      | _ => exact ⟨p.declaration, _, rfl, nonempty⟩
    have hasText : ¬(parametersText (p :: rest)).isEmpty = true := by
      intro empty
      have none := congrArg String.toList (String.isEmpty_iff.1 empty)
      rw [parametersText, same, intercalate_cons] at none
      exact filled (List.append_eq_nil_iff.1 none).1
    rw [if_neg hasText, String.toList_append, parametersText, same, intercalate_cons]
    rfl

private theorem mark_clean : isClean m.markText.toList = true := by
  rw [markText]
  cases m.visibility <;> rfl

private theorem header_clean {m : Override} (readable : m.IsReadable) : isClean m.headerLine.toList = true := by
  have name := name_clean readable.name
  have parameters := behind_clean (declarations_clean readable.parameters)
  have returned := fun returns isReturned => (readable.returns returns isReturned).elim fun _ reads => reads.clean
  rw [headerLine]
  simp only [String.toList_append, parameters_text readable.parameters]
  cases isReturned : m.returns <;> cases m.isAsync <;> simp_all [String.toList_append]

private theorem call_clean {m : Override} (readable : m.IsReadable) : isClean m.callLine.toList = true := by
  have name := name_clean readable.name
  have subject := name_clean readable.subjectLocal
  have arguments : isClean (argumentsText m.parameters).toList = true := by
    refine intercalate_clean fun text inside => ?_
    obtain ⟨p, among, rfl⟩ := List.mem_map.1 inside
    exact argument_clean (readable.parameters p among).name
  rw [callLine]
  cases m.isAsync <;> simp_all [String.toList_append]

theorem text_clean {m : Override} (readable : m.IsReadable) : isClean m.text.toList = true := by
  have item := name_clean readable.itemLocal
  have subject := name_clean readable.subjectLocal
  have type := name_clean readable.subjectType
  have target := readable.targetType.elim fun _ reads => reads.clean
  have lines := text_lines m []
  rw [List.append_nil] at lines
  rw [lines]
  simp [String.toList_append, itemLine, loopLine, subjectLine, mark_clean, header_clean readable, call_clean readable,
    item, subject, type, target]

/-- An override ends with a line end. -/
theorem text_ends : m.text.toList.getLast? = some '\n' := by
  have lines := text_lines m []
  rw [List.append_nil] at lines
  rw [lines, List.getLast?_cons, lineAt_ends]
  · rfl
  · exact .inr (lineAt_ends _ _ (.inr (lineAt_ends _ _ (.inr (lineAt_ends _ _ (.inr (lineAt_ends _ _
      (.inr (lineAt_ends _ _ (.inl rfl))))))))))

/-! ### What the lines read as -/

variable {m} (readable : m.IsReadable) (more : List Char)

/-- An attribute of the object itself, up to the character behind it. -/
private theorem ownAttribute_reads {closers : List String} (name : String)
    (isWord : Text.isIdentifier name = true) {c : Char} (ends : endsWord c = true) (more : List Char) :
    Reads closers ("self".toList ++ '.' :: (name.toList ++ c :: more))
      [.word "self", .op ".", .word name] closers (c :: more) :=
  (Reads.word (by decide) rfl _).append (Reads.member isWord ends more)

include readable

private theorem returns_read : Reads []
    ((match m.returns with
      | some returns => " -> " ++ returns
      | none => "").toList ++ ':' :: '\n' :: more)
    ((match m.returns with
      | some returns => .op "->" :: textTokens returns
      | none => []) ++ [.op ":"]) [] ('\n' :: more) := by
  have colon : Reads [] (_ :: '\n' :: more) _ _ _ := Reads.colon (by decide)
  cases isReturned : m.returns with
  | none => exact colon
  | some returns =>
    obtain ⟨e, reads⟩ := readable.returns returns isReturned
    have type : Reads [] (_ ++ ':' :: _) _ _ _ := reads.reads (by decide) ('\n' :: more)
    have whole := (Reads.arrow.append ((Reads.space _).append type)).append colon
    simpa [String.toList_append] using (Reads.space _).append whole

private theorem list_reads : Reads []
    ('(' :: ("self".toList ++
      ((declarations false m.parameters).flatMap (fun text => ',' :: ' ' :: text.toList) ++ ')' :: more)))
    ([.op "(", .word "self"] ++ behindCommas (declarationItems false m.parameters) ++ [.op ")"]) []
    more := by
  have others : Reads [")"] (_ ++ ')' :: more) _ _ _ :=
    behindCommas_read (declarations_inList false readable.parameters)
  have first : Reads [")"] ("self".toList ++
      ((declarations false m.parameters).flatMap (fun text => ',' :: ' ' :: text.toList) ++ ')' :: more))
      [.word "self"] [")"]
      ((declarations false m.parameters).flatMap (fun text => ',' :: ' ' :: text.toList) ++
        ')' :: more) := by
    cases declarations false m.parameters with
    | nil => exact Reads.word (by decide) rfl _
    | cons text texts => exact Reads.word (by decide) rfl _
  simpa using Reads.openParenthesis.append (first.append (others.append Reads.closeParenthesis))

private theorem header_reads :
    Reads [] (m.headerLine.toList ++ '\n' :: more) m.headerTokens [] ('\n' :: more) := by
  have list := (list_reads readable _).append (returns_read readable more)
  have name := (Reads.word (Text.isName_isIdentifier readable.name) rfl _).append list
  have named := (Reads.keyword "def" (by decide) _).append name
  rw [headerLine, headerTokens]
  simp only [String.toList_append, parameters_text readable.parameters]
  cases m.isAsync with
  | false => simpa using named
  | true => simpa using (Reads.keyword "async" (by decide) _).append named

private theorem item_reads :
    Reads [] (m.itemLine.toList ++ '\n' :: more) m.itemTokens [] ('\n' :: more) := by
  obtain ⟨e, reads⟩ := readable.targetType
  have name (more : List Char) : Reads [] _ _ _ _ :=
    Reads.word (c := ':') (Text.isName_isIdentifier readable.itemLocal) rfl more
  have type : Reads [] (_ :: _ :: (_ ++ '\n' :: _)) _ _ _ := type_reads reads (by decide) more
  have whole := (name _).append type
  rw [itemLine]
  simpa [String.toList_append, itemTokens] using whole

private theorem loop_reads :
    Reads [] (m.loopLine.toList ++ '\n' :: more) m.loopTokens [] ('\n' :: more) := by
  have name (more : List Char) : Reads [] _ _ _ _ :=
    Reads.word (c := ' ') (Text.isName_isIdentifier readable.itemLocal) rfl more
  have colon : Reads [] (_ :: '\n' :: more) _ _ _ := Reads.colon (by decide)
  have data := (ownAttribute_reads "_data" (c := ':') (by decide) rfl _).append colon
  have behind := (Reads.space _).append ((Reads.keyword "in" (by decide) _).append data)
  have whole := (Reads.keyword "for" (by decide) _).append ((name _).append behind)
  rw [loopLine]
  simpa [String.toList_append, loopTokens] using whole

private theorem subject_reads :
    Reads [] (m.subjectLine.toList ++ '\n' :: more) m.subjectTokens [] ('\n' :: more) := by
  have close : Reads _ (_ :: '\n' :: more) _ [] _ := Reads.closeParenthesis
  have item := (Reads.word (Text.isName_isIdentifier readable.itemLocal) rfl _).append close
  have reporter := (ownAttribute_reads "failure_strategy" (c := ',') (by decide) rfl _).append
    (Reads.comma.append ((Reads.space _).append item))
  have make := (Reads.member (show Text.isIdentifier "get_subject" = true by decide) rfl _).append
    (Reads.openParenthesis.append reporter)
  have factory := (ownAttribute_reads "_subject_factory" (c := '.') (by decide) rfl _).append make
  have value := (Reads.space _).append
    ((Reads.equals (c := ' ') (by decide)).append ((Reads.space _).append factory))
  have type := (Reads.colon (c := ' ') (by decide)).append
    ((Reads.space _).append ((Reads.word (Text.isName_isIdentifier readable.subjectType) rfl _).append value))
  have whole := (Reads.word (Text.isName_isIdentifier readable.subjectLocal) rfl _).append type
  rw [subjectLine]
  simpa [String.toList_append, subjectTokens] using whole

private theorem passed_reads : Reads [")"]
    ((argumentsText m.parameters).toList ++ ')' :: more)
    (commaSeparated (m.parameters.map Parameter.argumentTokens)) [")"] (')' :: more) := by
  refine commaSeparated_read ?_
  rw [List.forall₂_map_left_iff, List.forall₂_map_right_iff, List.forall₂_same]
  exact fun p inside => argument_reads (readable.parameters p inside).name

private theorem call_reads :
    Reads [] (m.callLine.toList ++ '\n' :: more) m.callTokens [] ('\n' :: more) := by
  have close : Reads _ (_ :: '\n' :: more) _ [] _ := Reads.closeParenthesis
  have arguments := Reads.openParenthesis.append ((passed_reads readable _).append close)
  have method := (Reads.member (Text.isName_isIdentifier readable.name) rfl _).append arguments
  have called := (Reads.word (Text.isName_isIdentifier readable.subjectLocal) rfl _).append method
  rw [callLine, callTokens]
  cases m.isAsync with
  | false => simpa [String.toList_append] using called
  | true => simpa [String.toList_append] using (Reads.keyword "await" (by decide) _).append called

/-! ### The lines in place -/

omit readable in
private theorem mark_chars : m.markText.toList = [] ∨
    ∃ comment, m.markText.toList = ' ' :: ' ' :: '#' :: comment ∧ '\n' ∉ comment := by
  rw [markText]
  cases m.visibility with
  | everyone => exact .inr ⟨" public".toList, by decide, by decide⟩
  | subclasses => exact .inr ⟨" protected".toList, by decide, by decide⟩
  | package => exact .inl (by decide)

omit readable in
private theorem decorator_cut {columns : List (Nat × Nat)} {closings left : List Token}
    (places : Layout.indentTo? ⟨[], columns⟩ 4 4 = some (closings, ⟨[], [(4, 4), (0, 0)]⟩))
    (further : Cuts [(4, 4), (0, 0)] more left) :
    Cuts columns (lineAt 4 ("@override" ++ m.markText).toList more)
      (closings ++ (.op "@" :: .word "override" :: .newline :: left)) := by
  have sign : ∀ more, Reads [] ('@' :: ("override".toList ++ more)) [.op "@"] [] ("override".toList ++ more) :=
    fun more => .token (by simp [token?, operator?, operators, drop?, isWordChar, isQuote]) rfl .done
  have line : ("@override" ++ m.markText).toList ++ '\n' :: more =
      '@' :: ("override".toList ++ (m.markText.toList ++ '\n' :: more)) := by
    simp [String.toList_append]
  rw [lineAt, line]
  rcases mark_chars (m := m) with none | ⟨comment, same, noNewline⟩
  · rw [none]
    exact .line (by decide) places ((sign _).append (Reads.word (by decide) (c := '\n') rfl more)) .plain further
  · simp only [same, List.cons_append]
    have marked := (sign _).append ((Reads.word (by decide) (c := ' ') rfl _).append
      ((Reads.space _).append (Reads.space ('#' :: (comment ++ '\n' :: more)))))
    exact .line (by decide) places marked (.comment noNewline) further

omit readable in
private theorem startsWith {name : String} (line : String) (isName : Text.isName name = true) {more : List Char}
    (same : line.toList = name.toList ++ more) : ∃ c rest, line.toList = c :: rest ∧ c ∉ spacing := by
  obtain ⟨c, rest, starts, ordinary⟩ := identifier_starts (Text.isName_isIdentifier isName)
  exact ⟨c, rest ++ more, by rw [same, starts]; rfl, ordinary⟩

/-- The lines of an override, at the indentation of the members of a class. -/
private theorem lines_cut {columns : List (Nat × Nat)} {closings left : List Token}
    (places : Layout.indentTo? ⟨[], columns⟩ 4 4 = some (closings, ⟨[], [(4, 4), (0, 0)]⟩))
    (further : Cuts [(12, 12), (8, 8), (4, 4), (0, 0)] more left) :
    Cuts columns (m.text.toList ++ more) (closings ++ (m.lineTokens ++ left)) := by
  have startsHeader : ∃ c more, m.headerLine.toList = c :: more ∧ c ∉ spacing := by
    rw [headerLine]
    cases m.isAsync <;> simp [String.toList_append, spacing]
  have startsItem := startsWith m.itemLine readable.itemLocal
    (by simp [itemLine, String.toList_append]; rfl)
  have startsSubject := startsWith m.subjectLine readable.subjectLocal
    (by simp [subjectLine, String.toList_append]; rfl)
  have startsLoop : ∃ c more, m.loopLine.toList = c :: more ∧ c ∉ spacing := by
    simp [loopLine, String.toList_append, spacing]
  have startsCall : ∃ c more, m.callLine.toList = c :: more ∧ c ∉ spacing := by
    rw [callLine]
    cases m.isAsync with
    | false => exact startsWith _ readable.subjectLocal (by simp [String.toList_append]; rfl)
    | true => simp [String.toList_append, spacing]
  have inMembers : Layout.indentTo? ⟨[], [(4, 4), (0, 0)]⟩ 4 4 = some ([], ⟨[], [(4, 4), (0, 0)]⟩) := rfl
  have toBody : Layout.indentTo? ⟨[], [(4, 4), (0, 0)]⟩ 8 8 = some ([.indent], ⟨[], [(8, 8), (4, 4), (0, 0)]⟩) := rfl
  have inBody : Layout.indentTo? ⟨[], [(8, 8), (4, 4), (0, 0)]⟩ 8 8 =
      some ([], ⟨[], [(8, 8), (4, 4), (0, 0)]⟩) := rfl
  have toLoop : Layout.indentTo? ⟨[], [(8, 8), (4, 4), (0, 0)]⟩ 12 12 =
      some ([.indent], ⟨[], [(12, 12), (8, 8), (4, 4), (0, 0)]⟩) := rfl
  have inLoop : Layout.indentTo? ⟨[], [(12, 12), (8, 8), (4, 4), (0, 0)]⟩ 12 12 =
      some ([], ⟨[], [(12, 12), (8, 8), (4, 4), (0, 0)]⟩) := rfl
  have call := Cuts.lineAt startsCall inLoop (call_reads readable _) further
  have subject := Cuts.lineAt startsSubject toLoop (subject_reads readable _) call
  have loop := Cuts.lineAt startsLoop inBody (loop_reads readable _) subject
  have item := Cuts.lineAt startsItem toBody (item_reads readable _) loop
  have header := Cuts.lineAt startsHeader inMembers (header_reads readable _) item
  have whole := Cuts.emptyLine (decorator_cut (m := m) _ places header)
  rw [text_lines]
  simpa [lineTokens] using whole

end Override

/-- The tokens of overrides up to the end of the class. -/
theorem overrides_cut : ∀ {overrides : List Override}, (∀ m ∈ overrides, m.IsReadable) →
    ∀ (columns : List (Nat × Nat)) {closings : List Token},
      Layout.indentTo? ⟨[], columns⟩ 4 4 = some (closings, ⟨[], [(4, 4), (0, 0)]⟩) →
      (columns.dropLast.map fun _ => Token.dedent) = closings ++ [.dedent] →
      Cuts columns (overrides.flatMap (·.text.toList)) (closings ++ overrides.flatMap Override.tokens ++ [.dedent])
  | [], _, columns, closings, _, ends => by
    simpa [ends] using @Cuts.done columns
  | m :: rest, readable, columns, closings, places, _ => by
    have behind := overrides_cut (fun other inside => readable other (List.mem_cons_of_mem m inside))
      [(12, 12), (8, 8), (4, 4), (0, 0)] rfl rfl
    have whole := Override.lines_cut (readable m List.mem_cons_self) _ places behind
    rw [List.flatMap_cons]
    simpa [Override.tokens] using whole

end Wrapper

end EachSubject
