import Mathlib.Data.List.Forall2

/-!
# Computations that can fail

A computation in steps gives a result just if each of its steps does.
-/

namespace EachSubject

universe u

variable {α β : Type u} {ε ε' : Type u}

theorem bind_eq_ok_iff {first : Except ε α} {next : α → Except ε β} {result : β} :
    first >>= next = .ok result ↔ ∃ middle, first = .ok middle ∧ next middle = .ok result := by
  cases first with
  | error fault =>
    constructor
    · intro impossible
      cases impossible
    · rintro ⟨_, impossible, _⟩
      cases impossible
  | ok middle =>
    constructor
    · intro rest
      exact ⟨middle, rfl, rest⟩
    · rintro ⟨_, same, rest⟩
      cases same
      exact rest

theorem bind_eq_error_iff {first : Except ε α} {next : α → Except ε β} {fault : ε} :
    first >>= next = .error fault ↔
      first = .error fault ∨ ∃ middle, first = .ok middle ∧ next middle = .error fault := by
  cases first with
  | error other =>
    constructor
    · intro same
      cases same
      exact .inl rfl
    · rintro (same | ⟨_, impossible, _⟩)
      · cases same
        rfl
      · cases impossible
  | ok middle =>
    constructor
    · intro rest
      exact .inr ⟨middle, rfl, rest⟩
    · rintro (impossible | ⟨_, same, rest⟩)
      · cases impossible
      · cases same
        exact rest

theorem mapError_eq_ok_iff {f : ε → ε'} {first : Except ε α} {result : α} :
    first.mapError f = .ok result ↔ first = .ok result := by
  cases first <;> simp [Except.mapError]

/-- A computation behind a check gives a result if it does so by itself, and the check passes. -/
theorem checked_eq_ok_iff {refused : Prop} [Decidable refused] {fault : ε} {rest : Except ε α} {result : α} :
    (if refused then throw fault else rest) = .ok result ↔ ¬refused ∧ rest = .ok result := by
  by_cases isRefused : refused
  · rw [if_pos isRefused]
    constructor
    · intro impossible
      cases impossible
    · rintro ⟨passes, _⟩
      exact absurd isRefused passes
  · rw [if_neg isRefused]
    exact ⟨fun given => ⟨isRefused, given⟩, And.right⟩

/-- A computation fails just if it gives no result. -/
theorem fails_iff {outcome : Except ε α} : (∃ fault, outcome = .error fault) ↔ ¬∃ result, outcome = .ok result := by
  cases outcome <;> simp

theorem eq_ok_of_toOption {outcome : Except ε α} {result : α} (given : outcome.toOption = some result) :
    outcome = .ok result := by
  cases outcome with
  | error fault => cases given
  | ok other =>
    cases given
    rfl

/-- Running over a list gives one result for each item, in order. -/
theorem forall₂_of_mapM {f : α → Except ε β} {items : List α} {results : List β}
    (mapped : items.mapM f = .ok results) :
    List.Forall₂ (fun item result => f item = .ok result) items results := by
  induction items generalizing results with
  | nil =>
    rw [List.mapM_nil] at mapped
    cases mapped
    exact .nil
  | cons item rest ih =>
    rw [List.mapM_cons, bind_eq_ok_iff] at mapped
    obtain ⟨result, first, mapped⟩ := mapped
    obtain ⟨later, others, mapped⟩ := bind_eq_ok_iff.1 mapped
    cases mapped
    exact .cons first (ih others)

theorem mapM_eq_ok_iff {f : α → Except ε β} {items : List α} {results : List β} :
    items.mapM f = .ok results ↔ List.Forall₂ (fun item result => f item = .ok result) items results := by
  refine ⟨forall₂_of_mapM, fun related => ?_⟩
  induction related with
  | nil => exact List.mapM_nil
  | cons first _ ih =>
    rw [List.mapM_cons]
    exact bind_eq_ok_iff.2 ⟨_, first, bind_eq_ok_iff.2 ⟨_, ih, rfl⟩⟩

/-- Running over a list gives results if it does so for each item. -/
theorem mapM_ok_iff {f : α → Except ε β} {items : List α} :
    (∃ results, items.mapM f = .ok results) ↔ ∀ item ∈ items, ∃ result, f item = .ok result := by
  simp only [mapM_eq_ok_iff]
  constructor
  · rintro ⟨results, related⟩
    induction related with
    | nil => simp
    | cons first _ ih =>
      intro item among
      rcases List.mem_cons.1 among with rfl | among
      · exact ⟨_, first⟩
      · exact ih item among
  · intro each
    induction items with
    | nil => exact ⟨[], .nil⟩
    | cons item rest ih =>
      obtain ⟨result, first⟩ := each item List.mem_cons_self
      obtain ⟨results, others⟩ := ih fun later among => each later (List.mem_cons_of_mem item among)
      exact ⟨result :: results, .cons first others⟩

/-- Running over a list fails with what one of the items fails with. -/
theorem mapM_eq_error {f : α → Except ε β} {items : List α} {fault : ε} (failed : items.mapM f = .error fault) :
    ∃ item ∈ items, f item = .error fault := by
  induction items with
  | nil =>
    rw [List.mapM_nil] at failed
    cases failed
  | cons item rest ih =>
    rw [List.mapM_cons] at failed
    rcases bind_eq_error_iff.1 failed with failed | ⟨_, _, failed⟩
    · exact ⟨item, List.mem_cons_self, failed⟩
    · rcases bind_eq_error_iff.1 failed with failed | ⟨_, _, impossible⟩
      · obtain ⟨later, among, fails⟩ := ih failed
        exact ⟨later, List.mem_cons_of_mem item among, fails⟩
      · cases impossible

/-- Where another function gives a related result for each item that has one, running both over a list gives related
    results. -/
theorem mapM_related {γ : Type u} {R : β → γ → Prop} {f : α → Except ε β} {g : α → Except ε γ} {items : List α}
    {results : List β} (mapped : items.mapM f = .ok results)
    (each : ∀ item ∈ items, ∀ result, f item = .ok result → ∃ other, g item = .ok other ∧ R result other) :
    ∃ others, items.mapM g = .ok others ∧ List.Forall₂ R results others := by
  simp only [mapM_eq_ok_iff] at mapped ⊢
  induction mapped with
  | nil => exact ⟨[], .nil, .nil⟩
  | cons first _ ih =>
    obtain ⟨other, found, related⟩ := each _ List.mem_cons_self _ first
    obtain ⟨others, areFound, areRelated⟩ := ih fun item among => each item (List.mem_cons_of_mem _ among)
    exact ⟨other :: others, .cons found areFound, .cons related areRelated⟩

theorem mem_right_of_forall₂ {γ δ : Type*} {R : γ → δ → Prop} {items : List γ} {results : List δ}
    (related : List.Forall₂ R items results) {result : δ} (among : result ∈ results) :
    ∃ item ∈ items, R item result := by
  induction related with
  | nil => cases among
  | cons first _ ih =>
    rcases List.mem_cons.1 among with rfl | among
    · exact ⟨_, List.mem_cons_self, first⟩
    · obtain ⟨item, inside, holds⟩ := ih among
      exact ⟨item, List.mem_cons_of_mem _ inside, holds⟩

theorem mem_left_of_forall₂ {γ δ : Type*} {R : γ → δ → Prop} {items : List γ} {results : List δ}
    (related : List.Forall₂ R items results) {item : γ} (among : item ∈ items) :
    ∃ result ∈ results, R item result :=
  mem_right_of_forall₂ related.flip among

end EachSubject
