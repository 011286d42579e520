import EachSubject.Call
import Mathlib.Data.List.Forall2

/-!
# Bound arguments

A call that is bound gives every parameter an argument of its kind, in order. If the parameters have
different names, each is found under its own.
-/

namespace EachSubject

/-- The argument is of the kind that a parameter of the mode receives. -/
def Argument.Suits : ParameterMode → Argument → Prop
  | .extraPositional, .extra _ => True
  | .extraKeyword, .extraKeywords _ => True
  | .positionalOnly, .one _ => True
  | .positional, .one _ => True
  | .keywordOnly, .one _ => True
  | _, _ => False

/-- The parameter is what the argument was received by. -/
def Receives (p : FunctionParameter) (received : String × Argument) : Prop :=
  received.1 = p.name ∧ received.2.Suits p.mode

namespace Call

variable {c : Call} {unclaimed : List (String × Value)}

section

variable {p : FunctionParameter} {ps : List FunctionParameter} {rest : List Value}

theorem receive_extraPositional (mode : p.mode = .extraPositional) : c.receive unclaimed (p :: ps) rest =
    (c.receive unclaimed ps []).map ((p.name, .extra rest) :: ·) := by
  rw [receive.eq_def]
  simp only [mode, bind_pure_comp, Option.map_eq_map]

theorem receive_extraKeyword (mode : p.mode = .extraKeyword) : c.receive unclaimed (p :: ps) rest =
    (c.receive unclaimed ps rest).map ((p.name, .extraKeywords unclaimed) :: ·) := by
  rw [receive.eq_def]
  simp only [mode, bind_pure_comp, Option.map_eq_map]

theorem receive_keywordOnly (mode : p.mode = .keywordOnly) : c.receive unclaimed (p :: ps) rest =
    (c.fromKeyword p).bind fun value => (c.receive unclaimed ps rest).map ((p.name, .one value) :: ·) := by
  rw [receive.eq_def]
  simp only [mode, bind_pure_comp, Option.map_eq_map, Option.bind_eq_bind]

theorem receive_given (positional : p.mode.isPositional = true) {value : Value} :
    c.receive unclaimed (p :: ps) (value :: rest) =
      if p.mode.isNamed && (c.keywords.lookup p.name).isSome then none
      else (c.receive unclaimed ps rest).map ((p.name, .one value) :: ·) := by
  rw [receive.eq_def]
  cases mode : p.mode <;> rw [mode] at positional
  case positionalOnly => simp only [mode, bind_pure_comp, Option.map_eq_map]
  case positional => simp only [mode, bind_pure_comp, Option.map_eq_map]
  all_goals cases positional

theorem receive_missing (positional : p.mode.isPositional = true) : c.receive unclaimed (p :: ps) [] =
    (c.fromKeyword p).bind fun value => (c.receive unclaimed ps []).map ((p.name, .one value) :: ·) := by
  rw [receive.eq_def]
  cases mode : p.mode <;> rw [mode] at positional
  case positionalOnly => simp only [mode, bind_pure_comp, Option.map_eq_map, Option.bind_eq_bind]
  case positional => simp only [mode, bind_pure_comp, Option.map_eq_map, Option.bind_eq_bind]
  all_goals cases positional

end

/-- The first parameter receives an argument of its kind, and those behind it the others. -/
theorem receive_cons_inv {p : FunctionParameter} {ps : List FunctionParameter} {rest : List Value}
    {arguments : Arguments} (bound : c.receive unclaimed (p :: ps) rest = some arguments) :
    ∃ argument others behind, arguments = (p.name, argument) :: behind ∧
      c.receive unclaimed ps others = some behind ∧ argument.Suits p.mode ∧
      (p.mode = .extraKeyword → argument = .extraKeywords unclaimed) := by
  have first : ∀ {argument : Argument} {others : List Value},
      (c.receive unclaimed ps others).map ((p.name, argument) :: ·) = some arguments →
        ∃ behind, arguments = (p.name, argument) :: behind ∧ c.receive unclaimed ps others = some behind := by
    intro argument others found
    obtain ⟨behind, received, rfl⟩ := Option.map_eq_some_iff.1 found
    exact ⟨behind, rfl, received⟩
  have one : p.mode.isPositional = true → ∃ value others behind, arguments = (p.name, .one value) :: behind ∧
      c.receive unclaimed ps others = some behind := by
    intro positional
    cases rest with
    | nil =>
      rw [receive_missing positional] at bound
      obtain ⟨value, _, bound⟩ := Option.bind_eq_some_iff.1 bound
      exact ⟨value, [], first bound⟩
    | cons value rest =>
      rw [receive_given positional] at bound
      split at bound
      · cases bound
      · exact ⟨value, rest, first bound⟩
  cases mode : p.mode with
  | extraPositional =>
    rw [receive_extraPositional mode] at bound
    obtain ⟨behind, same, received⟩ := first bound
    exact ⟨_, _, behind, same, received, trivial, nofun⟩
  | extraKeyword =>
    rw [receive_extraKeyword mode] at bound
    obtain ⟨behind, same, received⟩ := first bound
    exact ⟨_, _, behind, same, received, trivial, fun _ => rfl⟩
  | keywordOnly =>
    rw [receive_keywordOnly mode] at bound
    obtain ⟨value, _, bound⟩ := Option.bind_eq_some_iff.1 bound
    obtain ⟨behind, same, received⟩ := first bound
    exact ⟨_, _, behind, same, received, trivial, nofun⟩
  | positionalOnly =>
    obtain ⟨value, others, behind, same, received⟩ := one (by rw [mode]; rfl)
    exact ⟨_, _, behind, same, received, trivial, nofun⟩
  | positional =>
    obtain ⟨value, others, behind, same, received⟩ := one (by rw [mode]; rfl)
    exact ⟨_, _, behind, same, received, trivial, nofun⟩

/-- Every parameter receives an argument of its kind. -/
theorem receive_receives : ∀ {parameters : List FunctionParameter} {rest : List Value} {arguments : Arguments},
    c.receive unclaimed parameters rest = some arguments → List.Forall₂ Receives parameters arguments
  | [], rest, _, bound => by
    rw [receive_nil] at bound
    split at bound
    · cases bound
      exact .nil
    · cases bound
  | p :: ps, rest, arguments, bound => by
    obtain ⟨argument, others, behind, rfl, received, suits, _⟩ := receive_cons_inv bound
    exact .cons ⟨rfl, suits⟩ (receive_receives received)

/-- What a bound call gives to the parameters. -/
theorem bind?_receive {parameters : List FunctionParameter} {arguments : Arguments}
    (bound : c.bind? parameters = some arguments) :
    c.receive (c.unclaimed parameters) parameters c.positional = some arguments := by
  rw [bind?] at bound
  split at bound
  · cases bound
  · split at bound
    · cases bound
    · exact bound

end Call

/-- The parameter that is passed on. -/
def Forward.name : Forward → String
  | .positional name => name
  | .extraPositional name => name
  | .keyword _ name => name
  | .extraKeyword name => name

/-- Arguments are passed on if each of them is. -/
theorem Forward.call?_isSome {arguments : Arguments} : ∀ {forwards : List Forward},
    (∀ forward ∈ forwards, (forward.pass? arguments).isSome = true) → (call? arguments forwards).isSome = true
  | [], _ => rfl
  | forward :: rest, each => by
    obtain ⟨first, passes⟩ := Option.isSome_iff_exists.1 (each forward List.mem_cons_self)
    obtain ⟨others, behind⟩ := Option.isSome_iff_exists.1
      (call?_isSome fun other among => each other (List.mem_cons_of_mem _ among))
    rw [call?, passes, behind]
    rfl

/-! ## Different names -/

/-- With different keys, every entry is found under its own. -/
theorem lookup_entry {α : Type} : ∀ {entries : List (String × α)}, (entries.map (·.1)).Pairwise (· ≠ ·) →
    ∀ {entry}, entry ∈ entries → entries.lookup entry.1 = some entry.2
  | first :: rest, distinct, entry, among => by
    obtain ⟨others, behind⟩ := List.pairwise_cons.1 distinct
    rcases List.mem_cons.1 among with rfl | among
    · rw [List.lookup_cons, beq_self_eq_true]
    · have other : entry.1 ≠ first.1 := Ne.symm (others _ (List.mem_map_of_mem among))
      rw [List.lookup_cons, beq_false_of_ne other]
      exact lookup_entry behind among

/-- What was received stands under the names of the parameters. -/
theorem received_names {parameters : List FunctionParameter} {arguments : Arguments}
    (received : List.Forall₂ Receives parameters arguments) :
    arguments.map (·.1) = parameters.map (·.name) := by
  rw [← List.forall₂_eq_eq_eq, List.forall₂_map_left_iff, List.forall₂_map_right_iff]
  exact received.flip.imp fun _ _ receives => receives.1

/-- The parameters have different names. -/
def Distinct (parameters : List FunctionParameter) : Prop := (parameters.map (·.name)).Pairwise (· ≠ ·)

/-- A parameter is found under its name. -/
theorem find?_of_distinct : ∀ {parameters : List FunctionParameter}, Distinct parameters →
    ∀ {p}, p ∈ parameters → parameters.find? (·.name == p.name) = some p
  | first :: rest, distinct, p, among => by
    obtain ⟨others, behind⟩ := List.pairwise_cons.1 distinct
    rcases List.mem_cons.1 among with rfl | among
    · rw [List.find?_cons_of_pos (by simp)]
    · have other : first.name ≠ p.name := others _ (List.mem_map_of_mem among)
      rw [List.find?_cons_of_neg (by simpa using other)]
      exact find?_of_distinct behind among

/-- Parameters of one name are the same. -/
theorem eq_of_name {parameters : List FunctionParameter} (distinct : Distinct parameters) {p q : FunctionParameter}
    (among : p ∈ parameters) (inside : q ∈ parameters) (named : p.name = q.name) : p = q := by
  have found := find?_of_distinct distinct among
  rw [named, find?_of_distinct distinct inside] at found
  exact (Option.some.inj found).symm

/-- The argument of a parameter is found under its name. -/
theorem lookup_of_distinct : ∀ {parameters : List FunctionParameter} {arguments : Arguments},
    Distinct parameters → List.Forall₂ Receives parameters arguments →
    ∀ {p}, p ∈ parameters → ∃ argument, arguments.lookup p.name = some argument ∧ argument.Suits p.mode
  | first :: rest, (name, argument) :: arguments, distinct, .cons ⟨same, suits⟩ behind, p, among => by
    obtain ⟨others, further⟩ := List.pairwise_cons.1 distinct
    cases same
    rcases List.mem_cons.1 among with rfl | among
    · exact ⟨argument, by simp, suits⟩
    · have other : p.name ≠ first.name := Ne.symm (others _ (List.mem_map_of_mem among))
      rw [List.lookup_cons, beq_false_of_ne other]
      exact lookup_of_distinct further behind among

end EachSubject
