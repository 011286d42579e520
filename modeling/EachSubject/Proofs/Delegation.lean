import EachSubject.Execution
import EachSubject.Proofs.Run

/-!
# Delegation, element by element

An override makes a subject for each element of the wrapper's data and runs one method of it, and nothing
else. The runs are those that `Visits` describes: an element is asked for, its steps are taken, and the next
one is asked for only if none of them failed.
-/

namespace EachSubject

/-! ## Wrappers -/

/-- A wrapper with what its constructor was given. -/
structure Wrapped where
  self : Value
  factory : Value
  reporter : Value
  data : Value

/-- The attributes of the wrapper hold what its constructor was given. -/
structure Wrapped.Held (e : Engine) (w : Wrapped) (store : Store) : Prop where
  factory : (e.getAttribute w.self "_subject_factory").start store = (.ok w.factory, store)
  reporter : (e.getAttribute w.self "failure_strategy").start store = (.ok w.reporter, store)
  data : (e.getAttribute w.self "_data").start store = (.ok w.data, store)

/-- The attributes of the wrapper hold what its constructor was given, also after the function that makes
    subjects was looked up. -/
def Wrapped.HeldAround (e : Engine) (w : Wrapped) (store : Store) : Prop :=
  w.Held e store ∧ ∀ make store', (e.getAttribute w.factory "get_subject").start store = (.ok make, store') →
    w.Held e store'

/-! ## Elements -/

/-- Elements that are still to come. -/
inductive Elements where
  /-- All of them are known. -/
  | known (values : List Value)
  /-- An iterator is asked for them one by one. -/
  | asked (iterator : Value)

namespace Engine

variable (e : Engine)

/-- The elements of data. -/
def elementsOf (data : Value) : Run Elements :=
  match data with
  | .reference .. => do return .asked (← e.iterator data)
  | data => do return .known (← e.items data)

/-- The next element, if there is one, and those behind it. -/
def draw : Elements → Run (Option (Value × Elements))
  | .known [] => pure none
  | .known (value :: rest) => pure (some (value, .known rest))
  | .asked iterator => do return (← e.nextItem iterator).map fun item => (item, .asked iterator)

/-- The steps for one element: a subject is made for it, a method of that is called, and what comes of the
    call is awaited if it has to be. -/
def visit (w : Wrapped) (method : String) (awaits : Bool) (call : Call) (item : Value) : Run Unit := do
  let subject ← e.callMethod w.factory "get_subject" { positional := [w.reporter, item] }
  let result ← e.callMethod subject method call
  if awaits then discard <| e.await result

/-- The elements are visited in order, from one store to another. The visited ones are listed; only the last
    of them can fail, and no element is asked for behind it. -/
inductive Visits (w : Wrapped) (method : String) (awaits : Bool) (call : Call) :
    Elements → Store → List Value → Except Fault Unit → Store → Prop where
  | done {left : Elements} {store last : Store} (drawn : (e.draw left).start store = (.ok none, last)) :
    Visits w method awaits call left store [] (.ok ()) last
  | unknown {left : Elements} {store last : Store} {fault : Fault}
    (drawn : (e.draw left).start store = (.error fault, last)) :
    Visits w method awaits call left store [] (.error fault) last
  | next {left rest : Elements} {item : Value} {items : List Value} {outcome : Except Fault Unit}
    {store before after last : Store} (drawn : (e.draw left).start store = (.ok (some (item, rest)), before))
    (held : w.HeldAround e before) (visited : (e.visit w method awaits call item).start before = (.ok (), after))
    (further : Visits w method awaits call rest after items outcome last) :
    Visits w method awaits call left store (item :: items) outcome last
  | fails {left rest : Elements} {item : Value} {store before last : Store} {fault : Fault}
    (drawn : (e.draw left).start store = (.ok (some (item, rest)), before)) (held : w.HeldAround e before)
    (failed : (e.visit w method awaits call item).start before = (.error fault, last)) :
    Visits w method awaits call left store [item] (.error fault) last

/-- The elements of the wrapper's data are visited, if the data has elements. -/
inductive VisitsAll (w : Wrapped) (method : String) (awaits : Bool) (call : Call) :
    Store → Except Fault Unit → Store → Prop where
  | each {left : Elements} {items : List Value} {outcome : Except Fault Unit} {store before last : Store}
    (held : w.Held e store) (opened : (e.elementsOf w.data).start store = (.ok left, before))
    (finite : ∀ iterator, left = .asked iterator → items.length < e.itemLimit)
    (visits : e.Visits w method awaits call left before items outcome last) :
    VisitsAll w method awaits call store outcome last
  | none {store last : Store} {fault : Fault} (held : w.Held e store)
    (failed : (e.elementsOf w.data).start store = (.error fault, last)) :
    VisitsAll w method awaits call store (.error fault) last

variable {e} {w : Wrapped} {d : Delegation} {arguments : Arguments} {call : Call}

/-! ## Steps -/

private theorem subjectFor_eq {store : Store} (held : w.HeldAround e store) (item : Value) :
    (e.subjectFor w.self item).start store =
      (e.callMethod w.factory "get_subject" { positional := [w.reporter, item] }).start store := by
  rw [subjectFor, callMethod, Run.bind_ok held.1.factory, Run.start_bind, Run.start_bind]
  cases made : (e.getAttribute w.factory "get_subject").start store with
  | mk found store' =>
    cases found with
    | error fault => rfl
    | ok make => exact Run.bind_ok (held.2 make store' made).reporter

/-- What an override does for an element. -/
theorem delegateTo_eq {store : Store} (held : w.HeldAround e store)
    (passed : Forward.call? arguments d.forwards = some call) (item : Value) :
    (e.delegateTo d w.self arguments item).start store =
      (e.visit w d.method d.awaits call item).start store := by
  have called : ∀ subject, (do
      let method ← e.getAttribute subject d.method
      let call ← Run.orFault .unknownName (Forward.call? arguments d.forwards)
      let result ← e.call method call
      if d.awaits then discard <| e.await result : Run Unit) = (do
      let result ← e.callMethod subject d.method call
      if d.awaits then discard <| e.await result) := by
    intro subject
    simp only [passed, Run.orFault, pure_bind, callMethod, bind_assoc]
  rw [delegateTo, visit]
  simp only [called]
  rw [Run.start_bind, Run.start_bind, subjectFor_eq held]

/-! ## Loops -/

section

variable {method : String} {awaits : Bool} {body : Value → Run Unit} {items : List Value}
  {outcome : Except Fault Unit} {store last : Store}
  (steps : ∀ item store, w.HeldAround e store →
    (body item).start store = (e.visit w method awaits call item).start store)
include steps

/-- The loop over known elements visits them. -/
private theorem forM_visits : ∀ {values : List Value} {items : List Value} {store : Store},
    e.Visits w method awaits call (.known values) store items outcome last →
      (values.forM body).start store = (outcome, last)
  | [], _, _, visits => by
    cases visits with
    | done drawn =>
      cases drawn
      rfl
    | unknown drawn => cases drawn
    | next drawn => cases drawn
    | fails drawn => cases drawn
  | value :: rest, _, _, visits => by
    rw [List.forM_eq_forM, List.forM_cons]
    cases visits with
    | done drawn => cases drawn
    | unknown drawn => cases drawn
    | next drawn held visited further =>
      cases drawn
      rw [Run.bind_ok ((steps _ _ held).trans visited)]
      exact forM_visits further
    | fails drawn held failed =>
      cases drawn
      exact Run.bind_error ((steps _ _ held).trans failed)

omit steps in
private theorem drawn_asked {iterator : Value} {found : Option (Value × Elements)}
    (drawn : (e.draw (.asked iterator)).start store = (.ok found, last)) :
    ∃ next, (e.nextItem iterator).start store = (.ok next, last) ∧
      found = next.map fun item => (item, .asked iterator) := by
  obtain ⟨next, middle, asked, same⟩ := Run.bind_inv drawn
  cases same
  exact ⟨next, asked, rfl⟩

/-- The loop over an iterator visits what it gives. -/
private theorem forEachNext_visits {iterator : Value} : ∀ {fuel : Nat} {items : List Value} {store : Store},
    e.Visits w method awaits call (.asked iterator) store items outcome last → items.length < fuel →
      (e.forEachNext iterator body fuel).start store = (outcome, last)
  | fuel + 1, _, _, visits, finite => by
    rw [forEachNext]
    cases visits with
    | done drawn =>
      obtain ⟨next, asked, none⟩ := drawn_asked drawn
      obtain rfl := Option.map_eq_none_iff.1 none.symm
      rw [Run.bind_ok asked]
      rfl
    | unknown drawn =>
      rcases Run.bind_error_inv drawn with asked | ⟨next, middle, _, impossible⟩
      · exact Run.bind_error asked
      · cases impossible
    | next drawn held visited further =>
      obtain ⟨next, asked, some⟩ := drawn_asked drawn
      obtain ⟨item, rfl, same⟩ := Option.map_eq_some_iff.1 some.symm
      cases same
      rw [Run.bind_ok asked]
      dsimp only
      rw [Run.bind_ok ((steps _ _ held).trans visited)]
      exact forEachNext_visits further (Nat.lt_of_succ_lt_succ finite)
    | fails drawn held failed =>
      obtain ⟨next, asked, some⟩ := drawn_asked drawn
      obtain ⟨item, rfl, same⟩ := Option.map_eq_some_iff.1 some.symm
      cases same
      rw [Run.bind_ok asked]
      exact Run.bind_error ((steps _ _ held).trans failed)

omit steps in
private theorem forEach_eq (data : Value) : e.forEach data body = (do
    match ← e.elementsOf data with
    | .known values => values.forM body
    | .asked iterator => e.forEachNext iterator body e.itemLimit) := by
  cases data <;> simp only [forEach, elementsOf, bind_assoc, pure_bind]

/-- The loop over data visits its elements. -/
private theorem forEach_visits {left : Elements} {data : Value} {before : Store}
    (opened : (e.elementsOf data).start store = (.ok left, before))
    (finite : ∀ iterator, left = .asked iterator → items.length < e.itemLimit)
    (visits : e.Visits w method awaits call left before items outcome last) :
    (e.forEach data body).start store = (outcome, last) := by
  rw [forEach_eq, Run.bind_ok opened]
  cases left with
  | known values => exact forM_visits steps visits
  | asked iterator => exact forEachNext_visits steps visits (finite iterator rfl)

end

/-- An override visits all elements and gives no result. -/
theorem delegate_visitsAll (passed : Forward.call? arguments d.forwards = some call)
    {outcome : Except Fault Unit} {store last : Store}
    (visits : e.VisitsAll w d.method d.awaits call store outcome last) :
    (e.delegate d w.self arguments).start store = (outcome.map fun _ => .none, last) := by
  have steps : ∀ item store, w.HeldAround e store → (e.delegateTo d w.self arguments item).start store =
      (e.visit w d.method d.awaits call item).start store := fun item _ held => delegateTo_eq held passed item
  rw [delegate]
  cases visits with
  | each held opened finite visits =>
    rw [Run.bind_ok held.data, Run.start_bind, forEach_visits steps opened finite visits]
    cases outcome <;> rfl
  | none held failed =>
    rw [Run.bind_ok held.data, forEach_eq]
    exact Run.bind_error (Run.bind_error failed)

/-- Known elements are visited from the first on, and all of them unless one fails. -/
theorem Visits.known {method : String} {awaits : Bool} {outcome : Except Fault Unit} {last : Store} :
    ∀ {values items : List Value} {store : Store},
      e.Visits w method awaits call (.known values) store items outcome last →
        items <+: values ∧ (outcome = .ok () → items = values)
  | [], _, _, visits => by
    cases visits with
    | done drawn => exact ⟨List.prefix_refl [], fun _ => rfl⟩
    | unknown drawn => cases drawn
    | next drawn => cases drawn
    | fails drawn => cases drawn
  | value :: rest, _, _, visits => by
    cases visits with
    | done drawn => cases drawn
    | unknown drawn => cases drawn
    | next drawn held visited further =>
      cases drawn
      obtain ⟨inOrder, whole⟩ := Visits.known further
      exact ⟨List.cons_prefix_cons.2 ⟨rfl, inOrder⟩, fun good => by rw [whole good]⟩
    | fails drawn held failed =>
      cases drawn
      exact ⟨List.cons_prefix_cons.2 ⟨rfl, List.nil_prefix⟩, fun impossible => by cases impossible⟩

/-- Known elements are visited from every store, as long as the steps for an element leave the wrapper's
    attributes as they are. -/
theorem visits_exist {method : String} {awaits : Bool} {invariant : Store → Prop}
    (held : ∀ store, invariant store → w.HeldAround e store)
    (kept : ∀ item store after, invariant store →
      (e.visit w method awaits call item).start store = (.ok (), after) → invariant after) :
    ∀ (values : List Value) (store : Store), invariant store →
      ∃ items outcome last, e.Visits w method awaits call (.known values) store items outcome last
  | [], store, _ => ⟨[], .ok (), store, .done rfl⟩
  | value :: rest, store, holds => by
    cases visited : (e.visit w method awaits call value).start store with
    | mk outcome after =>
      cases outcome with
      | ok =>
        obtain ⟨items, outcome, last, further⟩ := visits_exist held kept rest after (kept _ _ _ holds visited)
        exact ⟨_, _, _, .next rfl (held store holds) visited further⟩
      | error fault => exact ⟨_, _, _, .fails rfl (held store holds) visited⟩

/-! ## Calls -/

/-- A call of the function at once visits the elements of the wrapper that it is called on, with the same
    call for each of them, and gives no result. -/
def DelegatesPlainly (f : Function) (method : String) (call passed : Call) (self : Value) : Prop :=
  ∀ (itemLimit depth : Nat) (w : Wrapped) (store last : Store) (outcome : Except Fault Unit), w.self = self →
    (nested itemLimit depth).VisitsAll w method false passed store outcome last →
      ((nested itemLimit (depth + 1)).run f call).start store = (outcome.map fun _ => .none, last)

/-- The store in which a suspended call has begun to run. -/
def begun (store : Store) (id : Nat) : Store :=
  { store with entities := store.entities.setIfInBounds id (.finished .coroutine) }

/-- The store in which a call of a function is suspended. -/
def suspended (store : Store) (f : Function) (arguments : Arguments) : Store :=
  { store with entities := store.entities.push (.suspended f arguments) }

/-- A call of a coroutine is suspended. -/
theorem run_coroutine {f : Function} (coroutine : f.form = .coroutine) (bound : call.bind? f.parameters = some arguments)
    (store : Store) : (e.run f call).start store =
      (.ok (.reference store.entities.size (suspendedClass .coroutine)), suspended store f arguments) := by
  rw [run, bound]
  simp only [invoke, coroutine]
  rfl

/-- A suspended call runs when it is awaited. -/
theorem await_suspended {f : Function} (coroutine : f.form = .coroutine) {store : Store} {id : Nat}
    (waits : store.entities[id]? = some (.suspended f arguments)) (owner : ClassName) :
    (e.await (.reference id owner)).start store =
      (do return (← e.execute f arguments).result : Run Value).start (begun store id) := by
  have found : (Run.entity? id).start store = (.ok (some (.suspended f arguments)), store) := by
    rw [← waits]
    rfl
  rw [await, Run.bind_ok found]
  simp only [coroutine, if_true, resume, bind_assoc]
  exact Run.bind_ok rfl

/-- A call of the function does nothing but to suspend it. Once it is awaited, it visits the elements of the
    wrapper that it was called on, with the same call for each of them, and gives no result. -/
def DelegatesWhenAwaited (f : Function) (method : String) (call passed : Call) (arguments : Arguments)
    (self : Value) : Prop :=
  ∀ (itemLimit depth : Nat),
    (∀ store : Store, ((nested itemLimit (depth + 1)).run f call).start store =
      (.ok (.reference store.entities.size (suspendedClass .coroutine)), suspended store f arguments)) ∧
    ∀ (w : Wrapped) (id : Nat) (owner : ClassName) (store last : Store) (outcome : Except Fault Unit),
      w.self = self → store.entities[id]? = some (.suspended f arguments) →
      (nested itemLimit depth).VisitsAll w method true passed (begun store id) outcome last →
        ((nested itemLimit (depth + 1)).await (.reference id owner)).start store =
          (outcome.map fun _ => .none, last)

section

variable {f : Function} {self : Value} {passed : Call} (body : f.body = .delegate d)
  (called : arguments.lookup "self" = some (.one self))
  (forwarded : Forward.call? arguments d.forwards = some passed)
include body called

private theorem execute_delegate (itemLimit depth : Nat) : (nested itemLimit (depth + 1)).execute f arguments =
    (do
      let result ← (nested itemLimit depth).delegate d self arguments
      return { result }) := by
  change (nested itemLimit depth).runBody f arguments = _
  rw [runBody, body]
  simp only [received, called, pure_bind]

include forwarded

/-- The function of a delegation that awaits nothing. -/
theorem delegatesPlainly (plain : f.form = .plain) (sync : d.awaits = false)
    (bound : call.bind? f.parameters = some arguments) : DelegatesPlainly f d.method call passed self := by
  intro itemLimit depth w store last outcome same visits
  rw [← sync] at visits
  have whole := delegate_visitsAll forwarded visits
  rw [same] at whole
  rw [run, bound]
  simp only [invoke, plain, execute_delegate body called, bind_assoc, pure_bind, bind_pure]
  exact whole

/-- The function of a delegation that awaits what comes of its calls. -/
theorem delegatesWhenAwaited (coroutine : f.form = .coroutine) (async : d.awaits = true)
    (bound : call.bind? f.parameters = some arguments) :
    DelegatesWhenAwaited f d.method call passed arguments self := by
  intro itemLimit depth
  refine ⟨run_coroutine coroutine bound, fun w id owner store last outcome same waits visits => ?_⟩
  rw [← async] at visits
  have whole := delegate_visitsAll forwarded visits
  rw [same] at whole
  rw [await_suspended coroutine waits]
  simp only [execute_delegate body called, bind_assoc, pure_bind, bind_pure]
  exact whole

end

end Engine

end EachSubject
