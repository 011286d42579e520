import EachSubject.Proofs.Attributes
import EachSubject.Proofs.Signatures

/-!
# Bodies that run to their end

An override that ends without a fault has run the body of the method it overrides once for each element, to its
end. For this the two views of a method have to agree: a function that looks plain has to be plain, and one that
looks like a coroutine has to be one.
-/

namespace EachSubject

open Source Wrapper Description

namespace Engine

/-- The store in which the body of a function begins to run, if the function is called and, as a coroutine,
    awaited at once. -/
def bodyStore (f : Function) (arguments : Arguments) (store : Store) : Store :=
  if f.form = .coroutine then begun (suspended store f arguments) store.entities.size else store

variable (e : Engine)

/-- For each of the elements, in order, a subject is made, the function receives the call on it, and its body runs
    to its end. Nothing else runs. -/
inductive RunsBodies (w : Wrapped) (f : Function) (call : Call) : List Value → Store → Store → Prop where
  | done {store : Store} : RunsBodies w f call [] store store
  | next {item subject : Value} {rest : List Value} {arguments : Arguments} {outcome : Outcome}
    {store made after last : Store}
    (makes : (e.callMethod w.factory "get_subject" { positional := [w.reporter, item] }).start store =
      (.ok subject, made))
    (binds : (withReceiver subject call).bind? f.parameters = some arguments)
    (runs : (e.execute f arguments).start (bodyStore f arguments made) = (.ok outcome, after))
    (further : RunsBodies w f call rest after last) : RunsBodies w f call (item :: rest) store last

/-- Calls a function, and awaits what comes of the call if it has to be awaited. -/
def runToEnd (awaits : Bool) (f : Function) (call : Call) : Run Value := do
  let result ← e.run f call
  if awaits then e.await result else return result

variable {e} {w : Wrapped} {f : Function} {call : Call} {store last : Store}

/-- A call that ends without a fault has run the body of the function once, to its end. -/
theorem runToEnd_runs {awaits : Bool} (suits : f.form = if awaits then .coroutine else .plain) {result : Value}
    (ended : (e.runToEnd awaits f call).start store = (.ok result, last)) :
    ∃ arguments outcome, call.bind? f.parameters = some arguments ∧
      (e.execute f arguments).start (bodyStore f arguments store) = (.ok outcome, last) := by
  cases bound : call.bind? f.parameters with
  | none =>
    obtain ⟨_, _, ran, _⟩ := Run.bind_inv ended
    rw [run, bound] at ran
    cases ran
  | some arguments =>
    cases awaits with
    | false =>
      obtain ⟨result, after, ran, rest⟩ := Run.bind_inv ended
      cases rest
      rw [run, bound] at ran
      simp only [invoke, suits] at ran
      obtain ⟨outcome, _, executed, same⟩ := Run.bind_inv ran
      cases same
      exact ⟨arguments, outcome, rfl, by rwa [bodyStore, if_neg (by rw [suits]; decide)]⟩
    | true =>
      have coroutine : f.form = .coroutine := suits
      rw [runToEnd, Run.bind_ok (run_coroutine coroutine bound store), if_pos rfl] at ended
      have waits : (suspended store f arguments).entities[store.entities.size]? = some (.suspended f arguments) :=
        Array.getElem?_push_size
      rw [await_suspended coroutine waits] at ended
      obtain ⟨outcome, _, executed, same⟩ := Run.bind_inv ended
      cases same
      exact ⟨arguments, outcome, rfl, by rwa [bodyStore, if_pos coroutine]⟩

/-- The object has the function as its method of the name. -/
def IsMethodOf (method : String) (f : Function) (store : Store) (object : Value) : Prop :=
  ∃ id owner definer, object = .reference id owner ∧ SearchesPlainly store.world owner ∧
    HasMethod store.world owner method definer f ∧ (store.attributesOf id).lookup method = none

/-- The steps for an element leave alone what an override relies on: the wrapper keeps its attributes, and every
    subject that is made has the function as its method. -/
structure Keeps (e : Engine) (w : Wrapped) (method : String) (awaits : Bool) (call : Call) (f : Function)
    (invariant : Store → Prop) : Prop where
  held : ∀ store, invariant store → w.HeldAround e store
  kept : ∀ item store after, invariant store →
    (e.visit w method awaits call item).start store = (.ok (), after) → invariant after
  answers : ∀ item store subject made, invariant store →
    (e.callMethod w.factory "get_subject" { positional := [w.reporter, item] }).start store = (.ok subject, made) →
      IsMethodOf method f made subject

section

variable {method : String} {awaits : Bool} {invariant : Store → Prop}

/-- The steps for an element that end without a fault run one body. -/
private theorem visit_runs (suits : f.form = if awaits then .coroutine else .plain)
    (keeps : Keeps e w method awaits call f invariant) {item : Value} (holds : invariant store)
    (visited : (e.visit w method awaits call item).start store = (.ok (), last)) :
    ∃ subject made arguments outcome,
      (e.callMethod w.factory "get_subject" { positional := [w.reporter, item] }).start store = (.ok subject, made) ∧
      (withReceiver subject call).bind? f.parameters = some arguments ∧
      (e.execute f arguments).start (bodyStore f arguments made) = (.ok outcome, last) := by
  obtain ⟨subject, made, makes, behind⟩ := Run.bind_inv visited
  obtain ⟨result, _, answered, rest⟩ := Run.bind_inv behind
  obtain ⟨id, owner, definer, rfl, plainly, has, own⟩ := keeps.answers item store subject made holds makes
  rw [callMethod_method plainly has own] at answered
  have ended : ∃ value, (e.runToEnd awaits f (withReceiver (.reference id owner) call)).start made =
      (.ok value, last) := by
    rw [runToEnd, Run.bind_ok answered]
    cases awaits with
    | false =>
      cases rest
      exact ⟨result, rfl⟩
    | true =>
      obtain ⟨value, _, awaited, same⟩ := Run.bind_inv rest
      cases same
      exact ⟨value, awaited⟩
  obtain ⟨value, ended⟩ := ended
  obtain ⟨arguments, outcome, binds, runs⟩ := runToEnd_runs suits ended
  exact ⟨_, made, arguments, outcome, makes, binds, runs⟩

/-- Visiting all elements without a fault runs the body once for each. -/
private theorem visits_runBodies (suits : f.form = if awaits then .coroutine else .plain)
    (keeps : Keeps e w method awaits call f invariant) : ∀ {values items : List Value} {store : Store},
      invariant store → e.Visits w method awaits call (.known values) store items (.ok ()) last →
        e.RunsBodies w f call values store last
  | [], _, _, _, visits => by
    cases visits with
    | done drawn =>
      cases drawn
      exact .done
    | next drawn => cases drawn
  | value :: rest, _, _, holds, visits => by
    cases visits with
    | done drawn => cases drawn
    | next drawn held visited further =>
      cases drawn
      obtain ⟨subject, made, arguments, outcome, makes, binds, runs⟩ := visit_runs suits keeps holds visited
      exact .next makes binds runs (visits_runBodies suits keeps (keeps.kept _ _ _ holds visited) further)

end

/-- A call of the function on a wrapper that ends without a fault gives no result, and has run the body of the
    other one once for each element of the wrapper's data, to its end. -/
def RunsEachBody (f : Function) (awaits : Bool) (o : Function) (forwards : List Forward) : Prop :=
  ∀ (d : Delegation) (call : Call) (arguments : Arguments), o.body = .delegate d →
    call.bind? o.parameters = some arguments →
  ∃ passed, Forward.call? arguments forwards = some passed ∧
  ∀ (itemLimit depth : Nat) (w : Wrapped) (invariant : Store → Prop) (values : List Value)
    (store before last : Store) (result : Value), arguments.lookup "self" = some (.one w.self) →
    w.Held (nested itemLimit depth) (bodyStore o arguments store) →
    ((nested itemLimit depth).elementsOf w.data).start (bodyStore o arguments store) = (.ok (.known values), before) →
    Keeps (nested itemLimit depth) w d.method awaits passed f invariant → invariant before →
    ((nested itemLimit (depth + 1)).runToEnd awaits o call).start store = (.ok result, last) →
    result = .none ∧ (nested itemLimit depth).RunsBodies w f passed values before last

end Engine

section

open Engine

variable {w : World} {subject : ClassName} {subjectName : String} {found : FoundMethod} {shape : MethodShape}

/-- A method that can be overridden is a plain function or a coroutine, as it looks, unless it is hidden behind a
    function that wraps it. -/
private theorem form_of_eligible (described : methodShape w subject subjectName found = .ok shape)
    (eligible : shape.isEligible = true)
    (shown : found.function.wrapping = none ∨ found.function.form = .plain) :
    found.function.form = if shape.isAsync then .coroutine else .plain := by
  obtain ⟨_, _, isAsync, isGenerator, _⟩ := methodShape_ok described
  have noGenerator := ((MethodShape.isEligible_iff shape).1 eligible).2.2.2.2
  rw [isGenerator, Function.looksGenerator] at noGenerator
  rw [isAsync, Function.looksAsync]
  rcases shown with unwrapped | plain
  · rw [unwrapped] at noGenerator ⊢
    cases form : found.function.form <;> rw [form] at noGenerator <;> simp at noGenerator ⊢
  · rw [plain]
    simp

end

end EachSubject
