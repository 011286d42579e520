import EachSubject.Execution.Store

/-!
# Runs from a store

A run in steps takes each step from the store that the one before it left, and ends with the first fault.
-/

namespace EachSubject.Run

variable {α β : Type} {run : Run α} {more : α → Run β} {a : α} {fault : Fault} {store store' : Store}

theorem start_bind (run : Run α) (more : α → Run β) (store : Store) :
    (run >>= more).start store =
      match run.start store with
      | (.ok a, store') => (more a).start store'
      | (.error fault, store') => (.error fault, store') := by
  change (run >>= more) store = match run store with
    | (.ok a, store') => more a store'
    | (.error fault, store') => (.error fault, store')
  have outcome := show (run >>= more) store = ExceptT.bindCont more (run store).1 (run store).2 from rfl
  rw [outcome]
  rcases run store with ⟨found | found, left⟩ <;> rfl

/-- The steps behind one that gives a result. -/
theorem bind_ok (found : run.start store = (.ok a, store')) :
    (run >>= more).start store = (more a).start store' := by
  rw [start_bind, found]

/-- A fault ends the whole. -/
theorem bind_error (failed : run.start store = (.error fault, store')) :
    (run >>= more).start store = (.error fault, store') := by
  rw [start_bind, failed]

theorem bind_inv {b : β} {last : Store} (found : (run >>= more).start store = (.ok b, last)) :
    ∃ a store', run.start store = (.ok a, store') ∧ (more a).start store' = (.ok b, last) := by
  rw [start_bind] at found
  split at found
  · rename_i a store' first
    exact ⟨a, store', first, found⟩
  · cases found

theorem bind_error_inv {last : Store} (failed : (run >>= more).start store = (.error fault, last)) :
    run.start store = (.error fault, last) ∨
      ∃ a store', run.start store = (.ok a, store') ∧ (more a).start store' = (.error fault, last) := by
  rw [start_bind] at failed
  split at failed
  · rename_i a store' first
    exact .inr ⟨a, store', first, failed⟩
  · rename_i first
    cases failed
    exact .inl first

theorem discard_eq (run : Run α) : discard run = run >>= fun _ => pure () := map_eq_pure_bind _ run

/-- A run that gives a result leaves nothing to catch. -/
theorem tryCatch_ok {handler : Fault → Run α} (found : run.start store = (.ok a, store')) :
    (tryCatch run handler).start store = (.ok a, store') := by
  change run store = (.ok a, store') at found
  change (ExceptT.tryCatch run handler) store = _
  unfold ExceptT.tryCatch ExceptT.mk
  simp only [bind, StateT.bind, found]
  rfl

/-! ## Data that nothing was done to -/

theorem current_start (unchanged : store.revised = []) (value : Value) :
    (current value).start store = (.ok value, store) := by
  have read : (get : Run Store).start store = (.ok store, store) := rfl
  rw [current, bind_ok read]
  simp only [unchanged]
  rfl

theorem currentAll_start (unchanged : store.revised = []) (values : List Value) :
    (currentAll values).start store = (.ok values, store) := by
  have read : (get : Run Store).start store = (.ok store, store) := rfl
  rw [currentAll, bind_ok read]
  simp only [unchanged]
  rfl

/-! ## Names and what they stand for -/

private theorem lookup_replaced (names : List (String × Value)) (name other : String) (value : Value) :
    (names.map fun n => if n.1 == name then (name, value) else n).lookup other =
      if other = name then (names.lookup name).map fun _ => value else names.lookup other := by
  simp only [beq_iff_eq]
  induction names with
  | nil => simp
  | cons first rest ih =>
    obtain ⟨key, held⟩ := first
    rw [List.map_cons]
    by_cases isKey : key = name
    · subst isKey
      by_cases same : other = key
      · simp [same]
      · simp [List.lookup_cons, same, beq_eq_false_iff_ne.2 same, ih]
    · by_cases same : other = name
      · subst same
        simp [List.lookup_cons, isKey, beq_eq_false_iff_ne.2 (Ne.symm isKey), ih]
      · by_cases isFirst : other = key
        · simp [isKey, isFirst]
        · simp [List.lookup_cons, isKey, same, beq_eq_false_iff_ne.2 isFirst, ih]

/-- Of a list of names, only the one that is set changes what it stands for. -/
theorem lookup_bindName (names : List (String × Value)) (name other : String) (value : Value) :
    (bindName names name value).lookup other = if other = name then some value else names.lookup other := by
  rw [bindName]
  split
  · next known =>
    have isSome : ∃ held, names.lookup name = some held := by
      rw [← Option.isSome_iff_exists, ← Option.ne_none_iff_isSome, ne_eq, List.lookup_eq_none_iff]
      intro absent
      obtain ⟨entry, among, same⟩ := List.any_eq_true.1 known
      have differs := absent entry among
      simp [LawfulBEq.eq_of_beq same] at differs
    obtain ⟨held, found⟩ := isSome
    rw [lookup_replaced, found, Option.map_some]
  · next unknown =>
    have absent : names.lookup name = none := by
      rw [List.lookup_eq_none_iff]
      intro entry among
      rw [bne_iff_ne]
      rintro rfl
      exact unknown (List.any_eq_true.2 ⟨entry, among, by simp⟩)
    rw [List.lookup_append]
    by_cases same : other = name
    · subst same
      simp [absent]
    · simp [List.lookup_cons, same, beq_eq_false_iff_ne.2 same]

end EachSubject.Run
