import EachSubject.Hint.Structure

/-!
# Type variables inside declared types

Which type variables occur in a declared type, at any depth, and what replacing all of them at once gives: the
variables of what stands for them.
-/

namespace EachSubject.Hint

open Value hiding none

/-- Stands for another type: a type variable, or a variable for the parameters of a callable. -/
def IsVariable : Value → Prop
  | .typeVar .. => True
  | .paramSpec _ => True
  | _ => False

/-- A variable is the same object as another value just if the two are equal. -/
theorem IsVariable.isSame_iff {u other : Value} (isVariable : IsVariable u) :
    isSame u other = true ↔ u = other := by
  cases u <;> simp only [IsVariable] at isVariable
  · cases other <;> simp [isSame]
  · cases other <;> simp [isSame]

theorem mem_addNew {seen : List Value} {value v : Value} (isVariable : IsVariable value) :
    v ∈ addNew seen value ↔ v ∈ seen ∨ v = value := by
  rw [addNew]
  by_cases known : seen.any (isSame value) = true
  · obtain ⟨other, inside, same⟩ := List.any_eq_true.1 known
    have isOther := isVariable.isSame_iff.1 same
    rw [if_pos known]
    constructor
    · exact .inl
    · rintro (inside | rfl)
      · exact inside
      · rwa [isOther]
  · rw [if_neg known, List.mem_append, List.mem_singleton]

mutual

/-- The type variables that occur in a declared type, as often as they do. -/
def occurring : Value → List Value
  | .typeVar scope name => [.typeVar scope name]
  | .paramSpec name => [.paramSpec name]
  | .subscripted _ args => occurringAll args
  | .union _ members => occurringAll members
  | .annotated base _ => occurring base
  | .tuple _ items => occurringAll items
  | _ => []

def occurringAll : List Value → List Value
  | [] => []
  | value :: rest => occurring value ++ occurringAll rest

end

theorem mem_occurringAll {v : Value} {types : List Value} :
    v ∈ occurringAll types ↔ ∃ value ∈ types, v ∈ occurring value := by
  induction types with
  | nil => simp [occurringAll]
  | cons value rest ih => simp [occurringAll, ih]

mutual

/-- Only variables occur. -/
theorem occurring_isVariable {v : Value} (value : Value) (occurs : v ∈ occurring value) : IsVariable v := by
  cases value with
  | typeVar scope name =>
    cases List.mem_singleton.1 occurs
    trivial
  | paramSpec name =>
    cases List.mem_singleton.1 occurs
    trivial
  | subscripted head args => exact occurringAll_isVariable args occurs
  | union style members => exact occurringAll_isVariable members occurs
  | annotated base metadata => exact occurring_isVariable base occurs
  | tuple place items => exact occurringAll_isVariable items occurs
  | _ => exact absurd occurs List.not_mem_nil

theorem occurringAll_isVariable {v : Value} (types : List Value) (occurs : v ∈ occurringAll types) :
    IsVariable v := by
  cases types with
  | nil => exact absurd occurs List.not_mem_nil
  | cons value rest =>
    rcases List.mem_append.1 occurs with first | later
    · exact occurring_isVariable value first
    · exact occurringAll_isVariable rest later

end

mutual

/-- Collecting adds the variables that occur to those seen. -/
theorem mem_collectVariables {v : Value} (seen : List Value) (value : Value) :
    v ∈ collectVariables seen value ↔ v ∈ seen ∨ v ∈ occurring value := by
  cases value with
  | typeVar scope name =>
    rw [collectVariables, occurring, List.mem_singleton]
    exact mem_addNew trivial
  | paramSpec name =>
    rw [collectVariables, occurring, List.mem_singleton]
    exact mem_addNew trivial
  | subscripted head args =>
    rw [collectVariables, occurring]
    exact mem_collectAll seen args
  | union style members =>
    rw [collectVariables, occurring]
    exact mem_collectAll seen members
  | annotated base metadata =>
    rw [collectVariables, occurring]
    exact mem_collectVariables seen base
  | tuple place items =>
    rw [collectVariables, occurring]
    exact mem_collectAll seen items
  | _ => simp [collectVariables, occurring]

theorem mem_collectAll {v : Value} (seen types : List Value) :
    v ∈ collectAll seen types ↔ v ∈ seen ∨ v ∈ occurringAll types := by
  cases types with
  | nil => simp [collectAll, occurringAll]
  | cons value rest =>
    rw [collectAll, occurringAll, mem_collectAll _ rest, mem_collectVariables seen value, List.mem_append, or_assoc]

end

theorem mem_freeVariables {v : Value} {types : List Value} :
    v ∈ freeVariables types ↔ ∃ value ∈ types, v ∈ occurring value := by
  rw [freeVariables, mem_collectAll, ← mem_occurringAll]
  simp

/-! ## Replacing variables -/

/-- What a variable stands for: the first value that is bound to it, or itself. -/
def boundTo (bindings : List (Value × Value)) (u : Value) : Value :=
  ((bindings.find? fun b => isSame b.1 u).map (·.2)).getD u

mutual

/-- Replaces every variable of a declared type, at any depth, by what it stands for. The replacements are not looked
    at again. -/
def replace (bindings : List (Value × Value)) : Value → Value
  | .typeVar scope name => boundTo bindings (.typeVar scope name)
  | .paramSpec name => boundTo bindings (.paramSpec name)
  | .subscripted head args => .subscripted head (replaceAll bindings args)
  | .union style members => .union style (replaceAll bindings members)
  | .annotated base metadata => .annotated (replace bindings base) metadata
  | .tuple place items => .tuple place (replaceAll bindings items)
  | value => value

def replaceAll (bindings : List (Value × Value)) : List Value → List Value
  | [] => []
  | value :: rest => replace bindings value :: replaceAll bindings rest

end

theorem replaceAll_eq_map (bindings : List (Value × Value)) (types : List Value) :
    replaceAll bindings types = types.map (replace bindings) := by
  induction types with
  | nil => rfl
  | cons value rest ih => rw [replaceAll, ih, List.map_cons]

mutual

/-- Where no variable occurs, nothing is replaced. -/
theorem replace_closed (bindings : List (Value × Value)) (value : Value) (closed : occurring value = []) :
    replace bindings value = value := by
  cases value with
  | typeVar scope name => cases closed
  | paramSpec name => cases closed
  | subscripted head args => rw [replace, replaceAll_closed bindings args closed]
  | union style members => rw [replace, replaceAll_closed bindings members closed]
  | annotated base metadata => rw [replace, replace_closed bindings base closed]
  | tuple place items => rw [replace, replaceAll_closed bindings items closed]
  | _ => rfl

theorem replaceAll_closed (bindings : List (Value × Value)) (types : List Value) (closed : occurringAll types = []) :
    replaceAll bindings types = types := by
  cases types with
  | nil => rfl
  | cons value rest =>
    obtain ⟨first, later⟩ := List.append_eq_nil_iff.1 closed
    rw [replaceAll, replace_closed bindings value first, replaceAll_closed bindings rest later]

end

/-- A parameter stands for one of the arguments, if there is an argument for each parameter. -/
theorem boundTo_mem {parameters given : List Value} {u : Value} (isVariable : IsVariable u)
    (isParameter : u ∈ parameters) (each : given.length = parameters.length) :
    boundTo (parameters.zip given) u ∈ given := by
  obtain ⟨place, inside, found⟩ := List.getElem_of_mem isParameter
  have given_place : place < given.length := by omega
  have paired : (u, given[place]) ∈ parameters.zip given := by
    rw [List.mem_iff_getElem]
    refine ⟨place, by rw [List.length_zip]; omega, ?_⟩
    rw [List.getElem_zip, found]
  have isFound : ((parameters.zip given).find? fun b => isSame b.1 u).isSome = true := by
    rw [List.find?_isSome]
    exact ⟨_, paired, isVariable.isSame_iff.2 rfl⟩
  obtain ⟨⟨parameter, argument⟩, first⟩ := Option.isSome_iff_exists.1 isFound
  rw [boundTo, first]
  exact (List.of_mem_zip (List.mem_of_find?_eq_some first)).2

section

variable {parameters given : List Value} {v : Value}

mutual

/-- If all variables are parameters, those that occur after the replacement occur in the arguments. -/
theorem occurring_replace (each : given.length = parameters.length) (value : Value)
    (among : ∀ u ∈ occurring value, u ∈ parameters)
    (occurs : v ∈ occurring (replace (parameters.zip given) value)) : v ∈ occurringAll given := by
  cases value with
  | typeVar scope name =>
    have bound := boundTo_mem (u := .typeVar scope name) trivial
      (among _ (List.mem_singleton_self _)) each
    exact mem_occurringAll.2 ⟨_, bound, occurs⟩
  | paramSpec name =>
    have bound := boundTo_mem (u := .paramSpec name) trivial
      (among _ (List.mem_singleton_self _)) each
    exact mem_occurringAll.2 ⟨_, bound, occurs⟩
  | subscripted head args => exact occurringAll_replace each args among occurs
  | union style members => exact occurringAll_replace each members among occurs
  | annotated base metadata => exact occurring_replace each base among occurs
  | tuple place items => exact occurringAll_replace each items among occurs
  | _ => exact absurd occurs List.not_mem_nil

theorem occurringAll_replace (each : given.length = parameters.length) (types : List Value)
    (among : ∀ u ∈ occurringAll types, u ∈ parameters)
    (occurs : v ∈ occurringAll (replaceAll (parameters.zip given) types)) : v ∈ occurringAll given := by
  cases types with
  | nil => exact absurd occurs List.not_mem_nil
  | cons value rest =>
    rcases List.mem_append.1 occurs with first | later
    · exact occurring_replace each value (fun u inside => among u (List.mem_append_left _ inside)) first
    · exact occurringAll_replace each rest (fun u inside => among u (List.mem_append_right _ inside)) later

end

end

end EachSubject.Hint
