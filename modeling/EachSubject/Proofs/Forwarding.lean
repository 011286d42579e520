import EachSubject.Description
import EachSubject.Execution.Attribute
import EachSubject.Proofs.Binding
import EachSubject.Proofs.Outcome
import EachSubject.Proofs.Wrapper.Syntax
import Mathlib.Data.Option.Basic

/-!
# Calls that are passed on

A parameter list that mirrors another one takes the same calls, as long as no keyword is the name of a
parameter that takes its argument by place. What its parameters received, passed on by their kinds, is
received alike by the parameters of the other list.
-/

namespace EachSubject

open Description

/-! ## Parameter lists -/

/-- The second parameter stands for the first: it receives arguments of the same kind, has a default if the
    first one has, and keeps the name if arguments are passed by it. -/
structure Mirrors (same : Value → Value → Prop) (p q : FunctionParameter) : Prop where
  mode : q.mode = (kindOf p.mode).mode
  name : p.mode = .keywordOnly → q.name = p.name
  default : Option.Rel same p.default q.default

/-- What both parameters received is the same, or each took its own default. -/
inductive Alike (same : Value → Value → Prop) : Argument → Argument → Prop where
  | given (argument : Argument) : Alike same argument argument
  | default {own other : Value} (related : same own other) : Alike same (.one own) (.one other)

/-- No keyword of the call is the name of a parameter that takes its argument by place and by name. -/
def Call.ByPlace (c : Call) (parameters : List FunctionParameter) : Prop :=
  ∀ p ∈ parameters, p.mode = .positional → c.keywords.lookup p.name = none

/-- Behind the parameter for further arguments no argument is taken by place, and nothing stands behind the
    one for further keywords. -/
def PlacesFirst : List FunctionParameter → Prop
  | [] => True
  | p :: rest =>
    (p.mode = .extraPositional → ∀ q ∈ rest, q.mode = .keywordOnly ∨ q.mode = .extraKeyword) ∧
    (p.mode = .extraKeyword → rest = []) ∧ PlacesFirst rest

section

variable {same : Value → Value → Prop} {p q : FunctionParameter} {c : Call}

theorem Mirrors.isPositional (mirrors : Mirrors same p q) : q.mode.isPositional = p.mode.isPositional := by
  rw [mirrors.mode]
  cases p.mode <;> rfl

theorem Mirrors.keywordOnly (mirrors : Mirrors same p q) : q.mode = .keywordOnly ↔ p.mode = .keywordOnly := by
  rw [mirrors.mode]
  cases p.mode <;> simp [kindOf, ParameterKind.mode]

theorem Mirrors.extraPositional (mirrors : Mirrors same p q) :
    q.mode = .extraPositional ↔ p.mode = .extraPositional := by
  rw [mirrors.mode]
  cases p.mode <;> simp [kindOf, ParameterKind.mode]

theorem Mirrors.extraKeyword (mirrors : Mirrors same p q) : q.mode = .extraKeyword ↔ p.mode = .extraKeyword := by
  rw [mirrors.mode]
  cases p.mode <;> simp [kindOf, ParameterKind.mode]

/-- By which keywords a parameter can be given, if none is the name of one that takes its argument by place. -/
private theorem takes_iff {parameters : List FunctionParameter} (byPlace : c.ByPlace parameters) {keyword : String}
    (isGiven : keyword ∈ c.keywords.map (·.1)) :
    Call.takes parameters keyword = true ↔ ∃ p ∈ parameters, p.mode = .keywordOnly ∧ p.name = keyword := by
  rw [Call.takes, List.any_eq_true]
  refine exists_congr fun p => and_congr_right fun among => ?_
  rw [Bool.and_eq_true, beq_iff_eq]
  refine and_congr_left ?_
  rintro rfl
  cases mode : p.mode
  case positional =>
    have absent := byPlace p among mode
    rw [List.lookup_eq_none_iff] at absent
    obtain ⟨pair, inside, isName⟩ := List.mem_map.1 isGiven
    have := absent pair inside
    simp [isName] at this
  all_goals simp [ParameterMode.isNamed]

end

/-! ## Receiving alike -/

section

variable {same : Value → Value → Prop} {c : Call} {unclaimed : List (String × Value)}

/-- What the parameters received is alike, place by place. -/
abbrev AllAlike (same : Value → Value → Prop) : Arguments → Arguments → Prop :=
  List.Forall₂ fun a b => Alike same a.2 b.2

private theorem defaults_alike {own other : Option Value} (related : Option.Rel same own other) :
    Option.Rel (fun v v' => Alike same (.one v) (.one v')) own other := by
  cases related with
  | none => exact .none
  | some related => exact .some (.default related)

/-- A parameter for one argument that gets none by place takes the same argument as the one that stands for it,
    or each takes its default. -/
private theorem fromKeyword_alike {p q : FunctionParameter} (mirrors : Mirrors same p q)
    (one : p.mode.isPositional = true ∨ p.mode = .keywordOnly)
    (ownPlace : p.mode = .positional → c.keywords.lookup p.name = none)
    (otherPlace : q.mode = .positional → c.keywords.lookup q.name = none) :
    Option.Rel (fun v v' => Alike same (.one v) (.one v')) (c.fromKeyword p) (c.fromKeyword q) := by
  have defaults := defaults_alike mirrors.default
  have mode := mirrors.mode
  rw [Call.fromKeyword, Call.fromKeyword]
  cases own : p.mode with
  | positionalOnly =>
    rw [own] at mode
    rw [mode, if_neg (by decide), if_pos (by decide), otherPlace mode, Option.none_or]
    exact defaults
  | positional =>
    rw [own] at mode
    rw [mode, if_pos (by decide), if_pos (by decide), otherPlace mode, ownPlace own, Option.none_or, Option.none_or]
    exact defaults
  | keywordOnly =>
    rw [own] at mode
    rw [mode, mirrors.name own, if_pos (by decide), if_pos (by decide)]
    cases c.keywords.lookup p.name with
    | none => exact defaults
    | some value => exact .some (.given _)
  | extraPositional => simp [own, ParameterMode.isPositional] at one
  | extraKeyword => simp [own, ParameterMode.isPositional] at one

private theorem map_alike {name name' : String} {argument argument' : Argument}
    (first : Alike same argument argument') {behind behind' : Option Arguments}
    (alike : Option.Rel (AllAlike same) behind behind') :
    Option.Rel (AllAlike same) (behind.map ((name, argument) :: ·)) (behind'.map ((name', argument') :: ·)) := by
  cases alike with
  | none => exact .none
  | some alike => exact .some (.cons first alike)

private theorem bind_alike {name name' : String} {value value' : Option Value}
    (first : Option.Rel (fun v v' => Alike same (.one v) (.one v')) value value') {behind behind' : Option Arguments}
    (alike : Option.Rel (AllAlike same) behind behind') :
    Option.Rel (AllAlike same) (value.bind fun v => behind.map ((name, .one v) :: ·))
      (value'.bind fun v => behind'.map ((name', .one v) :: ·)) := by
  cases first with
  | none => exact .none
  | some first => exact map_alike first alike

/-- A parameter that takes its argument by place gets the next one. -/
theorem receive_next {p : FunctionParameter} {ps : List FunctionParameter} (positional : p.mode.isPositional = true)
    (place : p.mode = .positional → c.keywords.lookup p.name = none) (value : Value) (rest : List Value) :
    c.receive unclaimed (p :: ps) (value :: rest) =
      (c.receive unclaimed ps rest).map ((p.name, .one value) :: ·) := by
  rw [Call.receive_given positional, if_neg]
  cases mode : p.mode with
  | positional => simp [place mode]
  | positionalOnly => simp [ParameterMode.isNamed]
  | extraPositional => simp [mode, ParameterMode.isPositional] at positional
  | keywordOnly => simp [mode, ParameterMode.isPositional] at positional
  | extraKeyword => simp [mode, ParameterMode.isPositional] at positional

/-- The parameters receive alike what those that they stand for receive, and refuse what those refuse. -/
theorem receive_alike {ps qs : List FunctionParameter} (mirrors : List.Forall₂ (Mirrors same) ps qs)
    (ownPlaces : c.ByPlace ps) (otherPlaces : c.ByPlace qs) (rest : List Value) :
    Option.Rel (AllAlike same) (c.receive unclaimed ps rest) (c.receive unclaimed qs rest) := by
  induction mirrors generalizing rest with
  | nil =>
    rw [Call.receive]
    split
    · exact .some .nil
    · exact .none
  | @cons p q ps qs first behind ih =>
    have further := ih (fun p among => ownPlaces p (List.mem_cons_of_mem _ among))
      (fun q among => otherPlaces q (List.mem_cons_of_mem _ among))
    have ownPlace := ownPlaces p List.mem_cons_self
    have otherPlace := otherPlaces q List.mem_cons_self
    have byPlace : p.mode.isPositional = true → Option.Rel (AllAlike same) (c.receive unclaimed (p :: ps) rest)
        (c.receive unclaimed (q :: qs) rest) := by
      intro positional
      have otherPositional := first.isPositional.trans positional
      cases rest with
      | nil =>
        rw [Call.receive_missing positional, Call.receive_missing otherPositional]
        exact bind_alike (fromKeyword_alike first (.inl positional) ownPlace otherPlace) (further [])
      | cons value rest =>
        rw [receive_next positional ownPlace, receive_next otherPositional otherPlace]
        exact map_alike (.given _) (further rest)
    cases mode : p.mode with
    | extraPositional =>
      rw [Call.receive_extraPositional mode, Call.receive_extraPositional (first.extraPositional.2 mode)]
      exact map_alike (.given _) (further [])
    | extraKeyword =>
      rw [Call.receive_extraKeyword mode, Call.receive_extraKeyword (first.extraKeyword.2 mode)]
      exact map_alike (.given _) (further rest)
    | keywordOnly =>
      rw [Call.receive_keywordOnly mode, Call.receive_keywordOnly (first.keywordOnly.2 mode)]
      exact bind_alike (fromKeyword_alike first (.inr mode) ownPlace otherPlace) (further rest)
    | positionalOnly => exact byPlace (by rw [mode]; rfl)
    | positional => exact byPlace (by rw [mode]; rfl)

end

/-! ## Passing on -/

/-- How a parameter passes on what it received. -/
def FunctionParameter.forward (p : FunctionParameter) : Forward :=
  match p.mode with
  | .positionalOnly => .positional p.name
  | .positional => .positional p.name
  | .extraPositional => .extraPositional p.name
  | .keywordOnly => .keyword p.name p.name
  | .extraKeyword => .extraKeyword p.name

/-- What passing on an argument of a parameter adds to a call. -/
def FunctionParameter.passes (p : FunctionParameter) : Argument → Call
  | .one value => if p.mode = .keywordOnly then { keywords := [(p.name, value)] } else { positional := [value] }
  | .extra values => { positional := values }
  | .extraKeywords entries => { keywords := entries }

/-- The call that passes on what parameters received. -/
def passedOn : List FunctionParameter → Arguments → Call
  | p :: ps, (_, argument) :: received =>
    { positional := (p.passes argument).positional ++ (passedOn ps received).positional
      keywords := (p.passes argument).keywords ++ (passedOn ps received).keywords }
  | _, _ => {}

/-- What parameters received, under the names of other ones. -/
def renamed (parameters : List FunctionParameter) (received : Arguments) : Arguments :=
  List.zipWith (fun p r => (p.name, r.2)) parameters received

/-- The parameter of the list receives its argument from the call, with these keywords left over. -/
def Takes (c : Call) (unclaimed : List (String × Value)) (p : FunctionParameter) (received : String × Argument) :
    Prop :=
  match received.2 with
  | .one value => p.mode.isPositional = true ∨ p.mode = .keywordOnly ∧ c.keywords.lookup p.name = some value
  | .extra _ => p.mode = .extraPositional
  | .extraKeywords entries => p.mode = .extraKeyword ∧ entries = unclaimed

section

variable {c : Call} {unclaimed : List (String × Value)} {ps : List FunctionParameter} {received : Arguments}

private theorem forward_passes {p : FunctionParameter} {argument : Argument} {arguments : Arguments}
    (suits : argument.Suits p.mode) (found : arguments.lookup p.name = some argument) :
    p.forward.pass? arguments = some (p.passes argument) := by
  rw [FunctionParameter.forward, FunctionParameter.passes.eq_def]
  cases mode : p.mode <;> rw [mode] at suits <;> cases argument <;>
    first | exact False.elim suits | simp [Forward.pass?, found]

/-- The forwards of parameters make the call that passes on what they received. -/
theorem call?_passedOn {arguments : Arguments} (receives : List.Forall₂ Receives ps received)
    (found : ∀ r ∈ received, arguments.lookup r.1 = some r.2) :
    Forward.call? arguments (ps.map FunctionParameter.forward) = some (passedOn ps received) := by
  induction receives with
  | nil => rfl
  | @cons p r ps received first behind ih =>
    have own := found r List.mem_cons_self
    rw [first.1] at own
    rw [List.map_cons, Forward.call?, forward_passes first.2 own,
      ih fun other among => found other (List.mem_cons_of_mem _ among)]
    rfl

private theorem passedOn_noPlaces (takes : List.Forall₂ (Takes c unclaimed) ps received)
    (noPlaces : ∀ p ∈ ps, p.mode = .keywordOnly ∨ p.mode = .extraKeyword) :
    (passedOn ps received).positional = [] := by
  induction takes with
  | nil => rfl
  | @cons p r ps received first behind ih =>
    obtain ⟨name, argument⟩ := r
    rw [passedOn, ih fun other among => noPlaces other (List.mem_cons_of_mem _ among), List.append_nil]
    have late := noPlaces p List.mem_cons_self
    cases argument with
    | one value =>
      rcases late with keywordOnly | extraKeyword
      · simp [FunctionParameter.passes, keywordOnly]
      · simp [Takes, extraKeyword, ParameterMode.isPositional] at first
    | extra values =>
      have mode : p.mode = .extraPositional := first
      simp [mode] at late
    | extraKeywords entries => rfl

/-- What is passed on is received by parameters that take it. -/
theorem receive_passedOn (takes : List.Forall₂ (Takes c unclaimed) ps received) (order : PlacesFirst ps)
    (byPlace : c.ByPlace ps) :
    c.receive unclaimed ps (passedOn ps received).positional = some (renamed ps received) := by
  induction takes with
  | nil => rfl
  | @cons p r ps received first behind ih =>
    obtain ⟨name, argument⟩ := r
    obtain ⟨star, last, order⟩ := order
    have further := ih order fun other among => byPlace other (List.mem_cons_of_mem _ among)
    have place := byPlace p List.mem_cons_self
    rw [passedOn, renamed, List.zipWith_cons_cons, ← renamed]
    cases argument with
    | one value =>
      rcases first with positional | ⟨keywordOnly, found⟩
      · have mode : p.mode ≠ .keywordOnly := by
          intro mode
          rw [mode] at positional
          cases positional
        rw [FunctionParameter.passes, if_neg mode, List.singleton_append, receive_next positional place, further]
        rfl
      · rw [FunctionParameter.passes, if_pos keywordOnly, List.nil_append, Call.receive_keywordOnly keywordOnly,
          further, Call.fromKeyword, keywordOnly, if_pos (by decide), found]
        rfl
    | extra values =>
      have mode : p.mode = .extraPositional := first
      rw [passedOn_noPlaces behind (star mode), List.append_nil, Call.receive_extraPositional mode]
      rw [passedOn_noPlaces behind (star mode)] at further
      rw [further]
      rfl
    | extraKeywords entries =>
      obtain ⟨mode, rfl⟩ := first
      rw [FunctionParameter.passes, List.nil_append, Call.receive_extraKeyword mode, further]
      rfl

end

/-! ## The keywords that are passed on -/

/-- The parameters have received their arguments, the one for further keywords those that were left over. -/
def ReceivesAll (unclaimed : List (String × Value)) : List FunctionParameter → Arguments → Prop :=
  List.Forall₂ fun p r => r.2.Suits p.mode ∧ (p.mode = .extraKeyword → r.2 = .extraKeywords unclaimed)

section

variable {c : Call} {unclaimed : List (String × Value)} {ps : List FunctionParameter} {received : Arguments}

/-- What a parameter passes on by keyword is its own argument, or one that was left over. -/
private theorem passes_keywords {p : FunctionParameter} {argument : Argument}
    (suits : argument.Suits p.mode) (left : p.mode = .extraKeyword → argument = .extraKeywords unclaimed) :
    (p.mode = .keywordOnly ∧ ∃ value, argument = .one value ∧ (p.passes argument).keywords = [(p.name, value)]) ∨
      (p.mode = .extraKeyword ∧ (p.passes argument).keywords = unclaimed) ∨
      (p.mode ≠ .keywordOnly ∧ p.mode ≠ .extraKeyword ∧ (p.passes argument).keywords = []) := by
  cases mode : p.mode with
  | keywordOnly =>
    rw [mode] at suits
    cases argument with
    | one value => exact .inl ⟨rfl, value, rfl, by rw [FunctionParameter.passes, if_pos mode]⟩
    | extra values => exact False.elim suits
    | extraKeywords entries => exact False.elim suits
  | extraKeyword =>
    rw [left mode]
    exact .inr (.inl ⟨rfl, rfl⟩)
  | extraPositional =>
    rw [mode] at suits
    cases argument with
    | extra values => exact .inr (.inr ⟨by decide, by decide, rfl⟩)
    | one value => exact False.elim suits
    | extraKeywords entries => exact False.elim suits
  | positional =>
    rw [mode] at suits
    cases argument with
    | one value =>
      exact .inr (.inr ⟨by decide, by decide, by rw [FunctionParameter.passes, if_neg (by rw [mode]; decide)]⟩)
    | extra values => exact False.elim suits
    | extraKeywords entries => exact False.elim suits
  | positionalOnly =>
    rw [mode] at suits
    cases argument with
    | one value =>
      exact .inr (.inr ⟨by decide, by decide, by rw [FunctionParameter.passes, if_neg (by rw [mode]; decide)]⟩)
    | extra values => exact False.elim suits
    | extraKeywords entries => exact False.elim suits

/-- A keyword that is passed on is that of a parameter, or was left over. -/
private theorem mem_passedOn (receives : ReceivesAll unclaimed ps received) {entry : String × Value}
    (among : entry ∈ (passedOn ps received).keywords) :
    (∃ p ∈ ps, p.mode = .keywordOnly ∧ p.name = entry.1) ∨ entry ∈ unclaimed := by
  induction receives with
  | nil => cases among
  | @cons p r ps received first behind ih =>
    rw [passedOn, List.mem_append] at among
    rcases among with own | further
    · rcases passes_keywords first.1 first.2 with ⟨mode, value, _, same⟩ | ⟨_, same⟩ | ⟨_, _, same⟩
      · rw [same, List.mem_singleton] at own
        exact .inl ⟨p, List.mem_cons_self, mode, by rw [own]⟩
      · rw [same] at own
        exact .inr own
      · rw [same] at own
        cases own
    · refine (ih further).imp_left ?_
      rintro ⟨q, among, found⟩
      exact ⟨q, List.mem_cons_of_mem _ among, found⟩

/-- A call that holds the keywords that are passed on gives each parameter what it has received. -/
private theorem takes_passedOn {d : Call} {left : List (String × Value)} (receives : ReceivesAll unclaimed ps received)
    (given : ∀ entry ∈ (passedOn ps received).keywords, d.keywords.lookup entry.1 = some entry.2)
    (isLeft : ps.any (·.mode == .extraKeyword) = true → unclaimed = left) :
    List.Forall₂ (Takes d left) ps received := by
  induction receives with
  | nil => exact .nil
  | @cons p r ps received first behind ih =>
    have further := ih (fun entry inside => given entry (List.mem_append_right _ inside))
      (fun extra => isLeft (by rw [List.any_cons, extra, Bool.or_true]))
    refine .cons ?_ further
    obtain ⟨name, argument⟩ := r
    obtain ⟨suits, extra⟩ := first
    rcases passes_keywords suits extra with ⟨mode, value, rfl, same⟩ | ⟨mode, _⟩ | ⟨notKeyword, notExtra, _⟩
    · exact .inr ⟨mode, given (p.name, value) (List.mem_append_left _ (by rw [same]; exact List.mem_singleton_self _))⟩
    · obtain rfl : argument = .extraKeywords unclaimed := extra mode
      exact ⟨mode, isLeft (by rw [List.any_cons, mode]; rfl)⟩
    · cases mode : p.mode with
      | keywordOnly => exact absurd mode notKeyword
      | extraKeyword => exact absurd mode notExtra
      | extraPositional =>
        rw [mode] at suits
        cases argument with
        | extra values => exact mode
        | one value => exact False.elim suits
        | extraKeywords entries => exact False.elim suits
      | positional =>
        rw [mode] at suits
        cases argument with
        | one value => exact .inl (by rw [mode]; rfl)
        | extra values => exact False.elim suits
        | extraKeywords entries => exact False.elim suits
      | positionalOnly =>
        rw [mode] at suits
        cases argument with
        | one value => exact .inl (by rw [mode]; rfl)
        | extra values => exact False.elim suits
        | extraKeywords entries => exact False.elim suits

/-- No keyword is passed on twice. -/
private theorem passedOn_keysDiffer (receives : ReceivesAll unclaimed ps received) (distinct : Distinct ps)
    (order : PlacesFirst ps) (leftDiffer : (unclaimed.map (·.1)).Pairwise (· ≠ ·))
    (leftOver : ∀ p ∈ ps, p.mode = .keywordOnly → ∀ entry ∈ unclaimed, p.name ≠ entry.1) :
    ((passedOn ps received).keywords.map (·.1)).Pairwise (· ≠ ·) := by
  induction receives with
  | nil => exact .nil
  | @cons p r ps received first behind ih =>
    obtain ⟨others, different⟩ := List.pairwise_cons.1 distinct
    have further := ih different order.2.2 fun q among => leftOver q (List.mem_cons_of_mem _ among)
    rw [passedOn]
    rcases passes_keywords first.1 first.2 with ⟨mode, value, _, same⟩ | ⟨mode, same⟩ | ⟨_, _, same⟩
    · rw [same, List.singleton_append, List.map_cons]
      refine List.pairwise_cons.2 ⟨fun key among => ?_, further⟩
      obtain ⟨entry, inside, rfl⟩ := List.mem_map.1 among
      rcases mem_passedOn behind inside with ⟨q, among, _, named⟩ | left
      · rw [← named]
        exact others q.name (List.mem_map_of_mem among)
      · exact leftOver p List.mem_cons_self mode entry left
    · obtain rfl := order.2.1 mode
      cases behind
      rw [same]
      simpa [passedOn] using leftDiffer
    · rwa [same, List.nil_append]

/-- No parameter takes by name what was left over; so it is left over again. -/
private theorem passedOn_unclaimed {all : List FunctionParameter} (receives : ReceivesAll unclaimed ps received)
    (order : PlacesFirst ps) (within : ps ⊆ all)
    (leftOver : ∀ entry ∈ unclaimed, Call.takes all entry.1 = false) :
    (passedOn ps received).keywords.filter (fun k => !Call.takes all k.1) =
      if ps.any (·.mode == .extraKeyword) then unclaimed else [] := by
  have again : unclaimed.filter (fun k => !Call.takes all k.1) = unclaimed :=
    List.filter_eq_self.2 fun entry among => by rw [leftOver entry among]; rfl
  induction receives with
  | nil => rfl
  | @cons p r ps received first behind ih =>
    have further := ih order.2.2 fun q among => within (List.mem_cons_of_mem _ among)
    rw [passedOn, List.filter_append]
    rcases passes_keywords first.1 first.2 with ⟨mode, value, _, same⟩ | ⟨mode, same⟩ | ⟨_, notExtra, same⟩
    · have taken : Call.takes all p.name = true :=
        List.any_eq_true.2 ⟨p, within List.mem_cons_self, by simp [mode, ParameterMode.isNamed]⟩
      rw [same, further, List.filter_singleton, taken, List.any_cons, mode]
      rfl
    · obtain rfl := order.2.1 mode
      cases behind
      rw [same, again, List.any_cons, mode]
      simp [passedOn]
    · rw [same, further, List.any_cons, List.filter_nil, List.nil_append, beq_false_of_ne notExtra, Bool.false_or]

end

/-! ## Binding what is passed on -/

section

variable {same : Value → Value → Prop} {c : Call} {unclaimed : List (String × Value)}
  {ps qs : List FunctionParameter} {received : Arguments}

theorem Mirrors.suits {p q : FunctionParameter} (mirrors : Mirrors same p q) (argument : Argument) :
    argument.Suits q.mode ↔ argument.Suits p.mode := by
  rw [mirrors.mode]
  cases p.mode <;> cases argument <;> exact Iff.rfl

private theorem receive_receivesAll : ∀ {parameters : List FunctionParameter} {rest : List Value}
    {received : Arguments}, c.receive unclaimed parameters rest = some received →
      ReceivesAll unclaimed parameters received
  | [], rest, _, bound => by
    rw [Call.receive] at bound
    split at bound
    · cases bound
      exact .nil
    · cases bound
  | p :: ps, rest, received, bound => by
    obtain ⟨argument, others, behind, rfl, further, suits, left⟩ := Call.receive_cons_inv bound
    exact .cons ⟨suits, left⟩ (receive_receivesAll further)

private theorem ReceivesAll.mirrored (mirrors : List.Forall₂ (Mirrors same) ps qs)
    (receives : ReceivesAll unclaimed qs received) : ReceivesAll unclaimed ps received := by
  induction mirrors generalizing received with
  | nil => exact receives
  | cons first _ ih =>
    cases receives with
    | cons own behind =>
      exact .cons ⟨(first.suits _).1 own.1, fun mode => own.2 (first.extraKeyword.2 mode)⟩ (ih behind)

/-- What is passed on does not depend on which of the two lists passes it on. -/
private theorem passedOn_mirrored (mirrors : List.Forall₂ (Mirrors same) ps qs) (received : Arguments) :
    passedOn qs received = passedOn ps received := by
  induction mirrors generalizing received with
  | nil => rfl
  | @cons p q ps qs first _ ih =>
    cases received with
    | nil => rfl
    | cons r received =>
      obtain ⟨name, argument⟩ := r
      have passes : q.passes argument = p.passes argument := by
        cases argument with
        | one value =>
          rw [FunctionParameter.passes, FunctionParameter.passes]
          by_cases mode : p.mode = .keywordOnly
          · rw [if_pos mode, if_pos (first.keywordOnly.2 mode), first.name mode]
          · rw [if_neg mode, if_neg fun other => mode (first.keywordOnly.1 other)]
        | extra values => rfl
        | extraKeywords entries => rfl
      rw [passedOn, passedOn, passes, ih]

/-- No keyword that is passed on is the name of a parameter that takes its argument by place. -/
private theorem passedOn_byPlace {all : List FunctionParameter} (distinct : Distinct all) (within : ps ⊆ all)
    (places : c.ByPlace all) (left : unclaimed ⊆ c.keywords) (receives : ReceivesAll unclaimed ps received) :
    (passedOn ps received).ByPlace all := by
  intro p among mode
  rw [List.lookup_eq_none_iff]
  intro entry inside
  rw [bne_iff_ne]
  rcases mem_passedOn receives inside with ⟨q, inside, keywordOnly, named⟩ | isLeft
  · intro same
    have first := find?_of_distinct distinct among
    rw [same, ← named, find?_of_distinct distinct (within inside)] at first
    rw [Option.some.inj first, mode] at keywordOnly
    cases keywordOnly
  · have absent := places p among mode
    rw [List.lookup_eq_none_iff] at absent
    exact bne_iff_ne.1 (absent entry (left isLeft))

/-- What parameters received and passed on is bound by those that they stand for, each to its own part. -/
private theorem bind?_passedOn (mirrors : List.Forall₂ (Mirrors same) ps qs) (distinct : Distinct ps)
    (order : PlacesFirst ps) (places : c.ByPlace ps) (bound : c.bind? qs = some received) :
    (passedOn ps received).bind? ps = some (renamed ps received) := by
  have receives := (receive_receivesAll (Call.bind?_receive bound)).mirrored mirrors
  have differ : (c.keywords.map (·.1)).Pairwise (· ≠ ·) := by
    rw [Call.bind?] at bound
    split at bound
    · cases bound
    · rename_i differ
      simpa [Call.keywordsDiffer] using differ
  have among : c.unclaimed qs ⊆ c.keywords := List.filter_subset_self _
  have leftOver : ∀ entry ∈ c.unclaimed qs, Call.takes ps entry.1 = false := by
    intro entry inside
    obtain ⟨given, notTaken⟩ := List.mem_filter.1 inside
    rw [Bool.eq_false_iff]
    intro taken
    obtain ⟨p, inside, mode, named⟩ := (takes_iff places (List.mem_map_of_mem given)).1 taken
    obtain ⟨q, other, mirror⟩ := mem_left_of_forall₂ mirrors inside
    have takes : Call.takes qs entry.1 = true := List.any_eq_true.2 ⟨q, other, by
      rw [mirror.keywordOnly.2 mode, mirror.name mode, named]
      simp [ParameterMode.isNamed]⟩
    rw [takes] at notTaken
    cases notTaken
  have again : (passedOn ps received).unclaimed ps =
      if ps.any (·.mode == .extraKeyword) then c.unclaimed qs else [] :=
    passedOn_unclaimed receives order (List.Subset.refl ps) leftOver
  have keys : ((passedOn ps received).keywords.map (·.1)).Pairwise (· ≠ ·) := by
    refine passedOn_keysDiffer receives distinct order (differ.sublist (List.filter_sublist.map _)) ?_
    intro p inside mode entry isLeft named
    have taken : Call.takes ps entry.1 = true :=
      List.any_eq_true.2 ⟨p, inside, by simp [mode, ParameterMode.isNamed, named]⟩
    rw [leftOver entry isLeft] at taken
    cases taken
  have takes : List.Forall₂ (Takes (passedOn ps received) ((passedOn ps received).unclaimed ps)) ps received := by
    refine takes_passedOn receives (fun entry => lookup_entry keys) fun extra => ?_
    rw [again, if_pos extra]
  have none : ¬((!((passedOn ps received).unclaimed ps).isEmpty && !ps.any (·.mode == .extraKeyword)) = true) := by
    rw [again]
    cases ps.any (·.mode == .extraKeyword) <;> simp
  rw [Call.bind?, Call.keywordsDiffer, decide_eq_true keys, if_neg (by decide), if_neg none]
  exact receive_passedOn takes order (passedOn_byPlace distinct (List.Subset.refl ps) places among receives)

/-- A call is bound alike by the parameters and by those that they stand for, or refused by both. -/
private theorem bind?_alike (mirrors : List.Forall₂ (Mirrors same) ps qs) (ownPlaces : c.ByPlace ps)
    (otherPlaces : c.ByPlace qs) : Option.Rel (AllAlike same) (c.bind? ps) (c.bind? qs) := by
  have sameLeft : c.unclaimed qs = c.unclaimed ps := by
    refine List.filter_congr fun entry given => congrArg Bool.not ?_
    have isGiven : entry.1 ∈ c.keywords.map (·.1) := List.mem_map_of_mem given
    rw [Bool.eq_iff_iff, takes_iff otherPlaces isGiven, takes_iff ownPlaces isGiven]
    constructor
    · rintro ⟨q, inside, mode, named⟩
      obtain ⟨p, among, mirror⟩ := mem_right_of_forall₂ mirrors inside
      have mode := mirror.keywordOnly.1 mode
      exact ⟨p, among, mode, (mirror.name mode).symm.trans named⟩
    · rintro ⟨p, inside, mode, named⟩
      obtain ⟨q, among, mirror⟩ := mem_left_of_forall₂ mirrors inside
      exact ⟨q, among, mirror.keywordOnly.2 mode, (mirror.name mode).trans named⟩
  have sameExtra : qs.any (·.mode == .extraKeyword) = ps.any (·.mode == .extraKeyword) := by
    rw [Bool.eq_iff_iff, List.any_eq_true, List.any_eq_true]
    simp only [beq_iff_eq]
    constructor
    · rintro ⟨q, inside, mode⟩
      obtain ⟨p, among, mirror⟩ := mem_right_of_forall₂ mirrors inside
      exact ⟨p, among, mirror.extraKeyword.1 mode⟩
    · rintro ⟨p, inside, mode⟩
      obtain ⟨q, among, mirror⟩ := mem_left_of_forall₂ mirrors inside
      exact ⟨q, among, mirror.extraKeyword.2 mode⟩
  rw [Call.bind?, Call.bind?, sameLeft, sameExtra]
  split
  · exact .none
  · split
    · exact .none
    · exact receive_alike mirrors ownPlaces otherPlaces _

end

/-! ## Receivers -/

/-- The parameters take the object that a method is called on: the first of them, or the one for further
    arguments. -/
def TakesReceiver : List FunctionParameter → Prop
  | [] => False
  | p :: _ => p.mode.isPositional = true ∨ p.mode = .extraPositional

/-- The object as the first of the further arguments. -/
def amongFurther (object : Value) : Arguments → Arguments
  | (name, .extra values) :: behind => (name, .extra (object :: values)) :: behind
  | received => received

/-- What the parameters received, with the object in front. -/
def withObject (object : Value) : List FunctionParameter → Arguments → Arguments
  | [], received => received
  | p :: _, received =>
    if p.mode.isPositional then (p.name, .one object) :: received else amongFurther object received

section

variable {same : Value → Value → Prop} {c : Call}

/-- Only the keywords of a call matter to what is left of it. -/
private theorem receive_keywords {d : Call} (keywords : d.keywords = c.keywords) (unclaimed : List (String × Value))
    (ps : List FunctionParameter) (rest : List Value) : d.receive unclaimed ps rest = c.receive unclaimed ps rest := by
  have fromKeyword : ∀ p, d.fromKeyword p = c.fromKeyword p := fun p => by
    rw [Call.fromKeyword, Call.fromKeyword, keywords]
  induction ps generalizing rest with
  | nil => rw [Call.receive, Call.receive]
  | cons p ps ih =>
    rw [Call.receive.eq_def, Call.receive.eq_def]
    simp only [ih, fromKeyword, keywords]

/-- A method takes the object that it is called on without touching the other arguments. -/
theorem bind?_withReceiver {parameters : List FunctionParameter} (takes : TakesReceiver parameters)
    (places : c.ByPlace parameters) (object : Value) :
    (Engine.withReceiver object c).bind? parameters =
      (c.bind? (withoutReceiver parameters)).map (withObject object parameters) := by
  cases parameters with
  | nil => exact takes.elim
  | cons p ps =>
    have keywords : (Engine.withReceiver object c).keywords = c.keywords := rfl
    have positional : (Engine.withReceiver object c).positional = object :: c.positional := rfl
    have differ : (Engine.withReceiver object c).keywordsDiffer = c.keywordsDiffer := rfl
    cases isPlace : p.mode.isPositional with
    | true =>
      have place := places p List.mem_cons_self
      have notTaken : ∀ entry ∈ c.keywords, Call.takes (p :: ps) entry.1 = Call.takes ps entry.1 := by
        intro entry given
        have notNamed : (p.mode.isNamed && p.name == entry.1) = false := by
          rw [Bool.and_eq_false_imp]
          intro named
          have mode : p.mode = .positional := by
            cases mode : p.mode <;> simp [mode, ParameterMode.isPositional, ParameterMode.isNamed] at isPlace named ⊢
          have absent := place mode
          rw [List.lookup_eq_none_iff] at absent
          exact bne_iff_ne.1 (absent entry given) |> beq_false_of_ne
        rw [Call.takes, List.any_cons, notNamed, Bool.false_or, Call.takes]
      have left : (Engine.withReceiver object c).unclaimed (p :: ps) = c.unclaimed ps :=
        List.filter_congr fun entry given => by rw [notTaken entry given]
      have notExtra : (p.mode == .extraKeyword) = false := by
        cases mode : p.mode <;> simp [mode, ParameterMode.isPositional] at isPlace ⊢
      rw [withoutReceiver, if_pos isPlace, Call.bind?, Call.bind?, differ, left, List.any_cons, notExtra,
        Bool.false_or, positional, receive_keywords keywords, receive_next isPlace place]
      split
      · rfl
      · split
        · rfl
        · refine congrArg (Option.map · _) (funext fun received => ?_)
          rw [withObject, if_pos isPlace]
    | false =>
      have mode : p.mode = .extraPositional := takes.resolve_left (by rw [isPlace]; decide)
      rw [withoutReceiver, isPlace, if_neg (by decide), Call.bind?, Call.bind?, differ, positional,
        receive_keywords keywords, Call.receive_extraPositional mode, Call.receive_extraPositional mode]
      have left : (Engine.withReceiver object c).unclaimed (p :: ps) = c.unclaimed (p :: ps) := rfl
      rw [left]
      split
      · rfl
      · split
        · rfl
        · rw [Option.map_map]
          refine congrArg (Option.map · _) (funext fun received => ?_)
          rw [Function.comp_apply, withObject, isPlace, if_neg (by decide), amongFurther]

theorem withoutReceiver_sublist : ∀ parameters, (withoutReceiver parameters).Sublist parameters
  | [] => .slnil
  | p :: rest => by
    rw [withoutReceiver]
    split
    · exact List.sublist_cons_self p rest
    · exact List.Sublist.refl _

private theorem PlacesFirst.withoutReceiver : ∀ {parameters}, PlacesFirst parameters →
    PlacesFirst (withoutReceiver parameters)
  | [], order => order
  | p :: rest, order => by
    rw [Description.withoutReceiver]
    split
    · exact order.2.2
    · exact order

/-- Two parameters that received the same, or took a default each, do so also with an object in front. -/
private theorem withObject_alike {parameters : List FunctionParameter} (object : Value) {own other : Arguments}
    (alike : List.Forall₂ (fun a b => a.1 = b.1 ∧ Alike same a.2 b.2) own other) :
    List.Forall₂ (fun a b => a.1 = b.1 ∧ Alike same a.2 b.2) (withObject object parameters own)
      (withObject object parameters other) := by
  cases parameters with
  | nil => exact alike
  | cons p ps =>
    rw [withObject, withObject]
    split
    · exact .cons ⟨rfl, .given _⟩ alike
    · cases alike with
      | nil => exact .nil
      | @cons a b own other first behind =>
        obtain ⟨name, argument⟩ := a
        obtain ⟨name', argument'⟩ := b
        obtain ⟨rfl, first⟩ := first
        cases first with
        | given =>
          cases argument with
          | extra values => exact .cons ⟨rfl, .given _⟩ behind
          | one value => exact .cons ⟨rfl, .given _⟩ behind
          | extraKeywords entries => exact .cons ⟨rfl, .given _⟩ behind
        | default related => exact .cons ⟨rfl, .default related⟩ behind

private theorem renamed_alike {ps : List FunctionParameter} {own other : Arguments}
    (receives : List.Forall₂ Receives ps own) (alike : AllAlike same own other) :
    List.Forall₂ (fun a b => a.1 = b.1 ∧ Alike same a.2 b.2) own (renamed ps other) := by
  induction receives generalizing other with
  | nil =>
    cases alike
    exact .nil
  | cons first _ ih =>
    cases alike with
    | cons own behind => exact .cons ⟨first.1, own⟩ (ih behind)

/-- A list of parameters behind one for the object, mirroring those of a method, takes the calls that the method
    takes and no other, as long as no keyword is the name of a parameter that takes its argument by place. What
    it passes on gives the method the same arguments, but for defaults. -/
theorem passedOn_binds {parameters qs : List FunctionParameter} {first : FunctionParameter}
    (takes : TakesReceiver parameters) (distinct : Distinct parameters) (order : PlacesFirst parameters)
    (mode : first.mode = .positional) (mirrors : List.Forall₂ (Mirrors same) (withoutReceiver parameters) qs)
    (places : c.ByPlace parameters) (otherPlaces : c.ByPlace (first :: qs)) (object other : Value) :
    ((Engine.withReceiver object c).bind? parameters = none →
      (Engine.withReceiver other c).bind? (first :: qs) = none) ∧
    ∀ own, (Engine.withReceiver object c).bind? parameters = some own →
      ∃ received again, (Engine.withReceiver other c).bind? (first :: qs) =
          some ((first.name, .one other) :: received) ∧
        (Engine.withReceiver object (passedOn qs received)).bind? parameters = some again ∧
        List.Forall₂ (fun a b => a.1 = b.1 ∧ Alike same a.2 b.2) own again := by
  have isPlace : first.mode.isPositional = true := by rw [mode]; rfl
  have rest : withoutReceiver (first :: qs) = qs := if_pos isPlace
  have otherTakes : TakesReceiver (first :: qs) := Or.inl isPlace
  have within := (withoutReceiver_sublist parameters).subset
  have distinct' : Distinct (withoutReceiver parameters) :=
    List.Pairwise.sublist ((withoutReceiver_sublist parameters).map _) distinct
  have order' := order.withoutReceiver
  have ownPlaces : c.ByPlace (withoutReceiver parameters) := fun p among => places p (within among)
  have alike := bind?_alike mirrors ownPlaces fun q among => otherPlaces q (List.mem_cons_of_mem _ among)
  rw [bind?_withReceiver takes places, bind?_withReceiver otherTakes otherPlaces, rest]
  cases bound : c.bind? (withoutReceiver parameters) with
  | none =>
    rw [bound] at alike
    cases otherBound : c.bind? qs with
    | none => exact ⟨fun _ => rfl, nofun⟩
    | some received =>
      rw [otherBound] at alike
      cases alike
  | some own =>
    rw [bound] at alike
    cases otherBound : c.bind? qs with
    | none =>
      rw [otherBound] at alike
      cases alike
    | some received =>
      rw [otherBound] at alike
      cases alike with
      | some alike =>
        have receives := (receive_receivesAll (Call.bind?_receive otherBound)).mirrored mirrors
        have again := bind?_passedOn mirrors distinct' order' ownPlaces otherBound
        have againPlaces := passedOn_byPlace distinct within places (List.filter_subset_self _) receives
        refine ⟨nofun, fun whole same => ?_⟩
        cases same
        refine ⟨received, withObject object parameters (renamed (withoutReceiver parameters) received), ?_, ?_, ?_⟩
        · rw [Option.map_some, withObject, if_pos isPlace]
        · rw [passedOn_mirrored mirrors, bind?_withReceiver takes againPlaces, again, Option.map_some]
        · exact withObject_alike object
            (renamed_alike (Call.receive_receives (Call.bind?_receive bound)) alike)

end

end EachSubject
