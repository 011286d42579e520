import EachSubject.Proofs.Completion
import EachSubject.Proofs.Reporting

/-!
# The first failure

The override of a wrapper whose failures are recorded is compared to that of a wrapper whose first failure ends the
run. As long as nothing is reported, both make the same subjects. The failure that is recorded first is the one that
ends the other run, while the element that it comes from is visited.
-/

namespace EachSubject

/-- A wrapper with what its constructor was given, when failures are reported so. -/
def Wrapped.reporting (self factory data : Value) (policy : FailurePolicy) : Wrapped where
  self := self
  factory := factory
  reporter := policy.reporter
  data := data

namespace Engine

/-! ## Visited elements -/

section

variable (e : Engine) (w : Wrapped) (method : String) (awaits : Bool) (call : Call)

/-- The elements of the wrapper's data are visited from a store on: those that are visited, in order, how this ends,
    and in which store. -/
inductive Walks : Store → List Value → Except Fault Unit → Store → Prop where
  | each {left : Elements} {items : List Value} {outcome : Except Fault Unit} {store before last : Store}
    (held : w.Held e store) (opened : (e.elementsOf w.data).start store = (.ok left, before))
    (finite : ∀ iterator, left = .asked iterator → items.length < e.itemLimit)
    (visits : e.Visits w method awaits call left before items outcome last) : Walks store items outcome last
  | none {store last : Store} {fault : Fault} (held : w.Held e store)
    (failed : (e.elementsOf w.data).start store = (.error fault, last)) : Walks store [] (.error fault) last

/-- The elements are visited without a fault, and others are left. -/
inductive Passes : Elements → Store → List Value → Elements → Store → Prop where
  | none {left : Elements} {store : Store} : Passes left store [] left store
  | next {left rest behind : Elements} {item : Value} {items : List Value} {store before after last : Store}
    (drawn : (e.draw left).start store = (.ok (some (item, rest)), before))
    (visited : (e.visit w method awaits call item).start before = (.ok (), after))
    (further : Passes rest after items behind last) : Passes left store (item :: items) behind last

/-- Nothing is recorded before the element behind the earlier ones is visited, and in the steps for it the failure is
    the first to be recorded. -/
def ComesFrom (failure : Failure) (left : Elements) (store : Store) (earlier : List Value) (item : Value) : Prop :=
  ∃ (behind rest : Elements) (between before after : Store) (outcome : Except Fault Unit),
    e.Passes w method awaits call left store earlier behind between ∧
    (e.draw behind).start between = (.ok (some (item, rest)), before) ∧ before.failures = [] ∧
    (e.visit w method awaits call item).start before = (outcome, after) ∧ after.failures.head? = some failure

variable {e w method awaits call}

theorem Walks.visitsAll {store last : Store} {items : List Value} {outcome : Except Fault Unit}
    (walks : e.Walks w method awaits call store items outcome last) :
    e.VisitsAll w method awaits call store outcome last := by
  cases walks with
  | each held opened finite visits => exact .each held opened finite visits
  | none held failed => exact .none held failed

theorem ComesFrom.behind {failure : Failure} {left rest : Elements} {store before after : Store}
    {earlier : List Value} {first item : Value} (drawn : (e.draw left).start store = (.ok (some (first, rest)), before))
    (visited : (e.visit w method awaits call first).start before = (.ok (), after))
    (comes : e.ComesFrom w method awaits call failure rest after earlier item) :
    e.ComesFrom w method awaits call failure left store (first :: earlier) item := by
  obtain ⟨behind, rest', between, before', after', outcome, passes, ends⟩ := comes
  exact ⟨behind, rest', between, before', after', outcome, .next drawn visited passes, ends⟩

end

/-! ## Two wrappers -/

/-- Two wrappers, one for each way to report, take the same steps: what their data gives is the same, nothing is
    reported while it is asked, and the steps for each element are alike. -/
structure Coupling (e : Engine) (w : FailurePolicy → Wrapped) (method : String) (awaits : Bool) (call : Call) where
  start : Standing
  /-- With these elements left. -/
  between : Elements → Standing
  /-- At an element, with others behind it. -/
  visiting : Value → Elements → Standing
  ended : Standing
  held : ∀ s t, start.related s t → (w .raise).Held e t
  heldAround : ∀ item rest s t, (visiting item rest).related s t → (w .raise).HeldAround e t
  opens : Silent start (Standing.same between) (e.elementsOf (w .collect).data) (e.elementsOf (w .raise).data)
  draws : ∀ left, Silent (between left)
    (Standing.same fun
      | some (item, rest) => visiting item rest
      | none => ended) (e.draw left) (e.draw left)
  visits : ∀ item rest, InStep (visiting item rest) (fun _ _ => between rest)
    (e.visit (w .collect) method awaits call item) (e.visit (w .raise) method awaits call item)

namespace Coupling

variable {e : Engine} {w : FailurePolicy → Wrapped} {method : String} {awaits : Bool} {call : Call}
  (c : Coupling e w method awaits call)
include c

/-- Nothing is recorded while an element is asked for. -/
private theorem drawn_failures {left : Elements} {store after : Store}
    {found : Except Fault (Option (Value × Elements))}
    (drawn : (e.draw left).start store = (found, after)) (holds : (c.between left).collecting store) :
    after.failures = store.failures := by
  have same := (c.draws left).failures store holds
  rwa [drawn] at same

/-- Whatever was recorded stays recorded while elements are visited. -/
theorem recorded {left : Elements} {items : List Value} {outcome : Except Fault Unit} {store last : Store}
    (visits : e.Visits (w .collect) method awaits call left store items outcome last)
    (holds : (c.between left).collecting store) : store.failures <+: last.failures := by
  induction visits with
  | done drawn => exact (c.drawn_failures drawn holds).symm ▸ List.prefix_rfl
  | unknown drawn => exact (c.drawn_failures drawn holds).symm ▸ List.prefix_rfl
  | @next left rest item _ _ _ _ _ _ drawn _ visited _ ih =>
    obtain ⟨_, _, holds'⟩ := (c.draws left).collecting _ _ _ holds drawn
    obtain ⟨kept, onward⟩ := (c.visits item rest).collecting _ holds'
    rw [visited] at kept
    obtain ⟨_, holds''⟩ := onward _ _ visited
    rw [← c.drawn_failures drawn holds]
    exact kept.trans (ih holds'')
  | @fails left rest item _ _ _ _ drawn _ failed =>
    obtain ⟨_, _, holds'⟩ := (c.draws left).collecting _ _ _ holds drawn
    have kept := ((c.visits item rest).collecting _ holds').1
    rw [failed] at kept
    rwa [← c.drawn_failures drawn holds]

/-- What comes of visiting elements with either wrapper. -/
theorem compared {left : Elements} {items : List Value} {outcome : Except Fault Unit} {s last : Store}
    (visits : e.Visits (w .collect) method awaits call left s items outcome last) : ∀ t,
    (c.between left).related s t →
      (last.failures = [] ∧ ∃ last', e.Visits (w .raise) method awaits call left t items outcome last') ∨
      ∃ failure more earlier item later last', last.failures = failure :: more ∧ items = earlier ++ item :: later ∧
        e.ComesFrom (w .collect) method awaits call failure left s earlier item ∧
        e.Visits (w .raise) method awaits call left t (earlier ++ [item]) (.error (.failedCheck failure)) last' := by
  induction visits with
  | @done left s last drawn =>
    intro t related
    obtain ⟨found, last', drawn', rfl, ended⟩ := (c.draws left).result _ _ _ _ related drawn
    exact .inl ⟨c.ended.unreported _ _ ended, last', .done drawn'⟩
  | @unknown left s last fault drawn =>
    intro t related
    obtain ⟨last', drawn'⟩ := (c.draws left).fault _ _ _ _ related drawn
    have same := c.drawn_failures drawn ((c.between left).left _ _ related)
    exact .inl ⟨same.trans ((c.between left).unreported _ _ related), last', .unknown drawn'⟩
  | @next left rest item items outcome s before after last drawn held visited further ih =>
    intro t related
    obtain ⟨found, before', drawn', rfl, related'⟩ := (c.draws left).result _ _ _ _ related drawn
    have verdict := (c.visits item rest).verdict before before' related'
    have held' := c.heldAround item rest before before' related'
    rw [visited] at verdict
    cases visited' : (e.visit (w .raise) method awaits call item).start before' with
    | mk outcome' after' =>
      rw [visited'] at verdict
      cases verdict with
      | result related'' =>
        rcases ih after' related'' with ⟨unreported, last', visits'⟩ |
          ⟨failure, more, earlier, cause, later, last', first, rfl, comes, visits'⟩
        · exact .inl ⟨unreported, last', .next drawn' held' visited' visits'⟩
        · exact .inr ⟨failure, more, item :: earlier, cause, later, last', first, rfl,
            comes.behind drawn visited, .next drawn' held' visited' visits'⟩
      | @reported _ failure _ _ _ first =>
        have standing := (c.visiting item rest).left _ _ related'
        obtain ⟨_, holds⟩ := ((c.visits item rest).collecting before standing).2 _ _ visited
        obtain ⟨more, kept⟩ := c.recorded further holds
        rw [first] at kept
        refine .inr ⟨failure, _, [], item, items, after', kept.symm, rfl, ?_, .fails drawn' held' visited'⟩
        exact ⟨left, rest, s, before, after, .ok (), .none, drawn, (c.visiting item rest).unreported _ _ related',
          visited, by rw [first]; rfl⟩
  | @fails left rest item s before last fault drawn held failed =>
    intro t related
    obtain ⟨found, before', drawn', rfl, related'⟩ := (c.draws left).result _ _ _ _ related drawn
    have verdict := (c.visits item rest).verdict before before' related'
    have held' := c.heldAround item rest before before' related'
    rw [failed] at verdict
    cases visited' : (e.visit (w .raise) method awaits call item).start before' with
    | mk outcome' after' =>
      rw [visited'] at verdict
      cases verdict with
      | fault unreported => exact .inl ⟨unreported, after', .fails drawn' held' visited'⟩
      | @reported _ failure more _ _ first =>
        refine .inr ⟨failure, more, [], item, [], after', first, rfl, ?_, .fails drawn' held' visited'⟩
        exact ⟨left, rest, s, before, last, .error fault, .none, drawn, (c.visiting item rest).unreported _ _ related',
          failed, by rw [first]; rfl⟩

/-- What comes of walking over the data of either wrapper. -/
theorem walks_compared {items : List Value} {outcome : Except Fault Unit} {s t last : Store}
    (walks : e.Walks (w .collect) method awaits call s items outcome last) (related : c.start.related s t) :
    ∃ items' outcome' last', e.Walks (w .raise) method awaits call t items' outcome' last' ∧
      match last.failures with
      | [] => items' = items ∧ outcome' = outcome
      | failure :: _ => outcome' = .error (.failedCheck failure) ∧ ∃ left before earlier item later,
          (e.elementsOf (w .collect).data).start s = (.ok left, before) ∧ items = earlier ++ item :: later ∧
          items' = earlier ++ [item] ∧
          e.ComesFrom (w .collect) method awaits call failure left before earlier item := by
  have held' := c.held s t related
  have unreported := c.start.unreported s t related
  cases walks with
  | none held failed =>
    obtain ⟨last', failed'⟩ := c.opens.fault _ _ _ _ related failed
    have same := c.opens.failures s (c.start.left s t related)
    rw [failed] at same
    refine ⟨[], _, last', .none held' failed', ?_⟩
    rw [same.trans unreported]
    exact ⟨rfl, rfl⟩
  | @each left _ _ _ before _ held opened finite visits =>
    obtain ⟨_, before', opened', rfl, related'⟩ := c.opens.result _ _ _ _ related opened
    rcases c.compared visits before' related' with ⟨none, last', visits'⟩ |
      ⟨failure, more, earlier, item, later, last', first, rfl, comes, visits'⟩
    · refine ⟨items, outcome, last', .each held' opened' finite visits', ?_⟩
      rw [none]
      exact ⟨rfl, rfl⟩
    · refine ⟨earlier ++ [item], _, last', .each held' opened' ?_ visits', ?_⟩
      · intro iterator isAsked
        have enough := finite iterator isAsked
        simp only [List.length_append, List.length_cons, List.length_nil] at enough ⊢
        omega
      · rw [first]
        exact ⟨rfl, left, before, earlier, item, later, opened, rfl, rfl, comes⟩

end Coupling

/-! ## Two calls -/

/-- A call of a delegation that is awaited if it has to be visits the elements of the wrapper that it is called on. -/
private theorem runToEnd_delegates {o : Function} {d : Delegation} {call passed : Call} {arguments : Arguments}
    {w : Wrapped} (body : o.body = .delegate d) (called : arguments.lookup "self" = some (.one w.self))
    (forwarded : Forward.call? arguments d.forwards = some passed)
    (form : o.form = if d.awaits then .coroutine else .plain) (bound : call.bind? o.parameters = some arguments)
    {itemLimit depth : Nat} {store last : Store} {outcome : Except Fault Unit}
    (visits : (nested itemLimit depth).VisitsAll w d.method d.awaits passed
      (bodyStore o arguments store) outcome last) :
    ((nested itemLimit (depth + 1)).runToEnd d.awaits o call).start store = (outcome.map fun _ => .none, last) := by
  cases async : d.awaits with
  | false =>
    rw [async] at form visits
    rw [bodyStore, if_neg (by rw [form]; decide)] at visits
    have ran := delegatesPlainly body called forwarded form async bound itemLimit depth w store last outcome rfl visits
    rw [runToEnd, Run.start_bind, ran]
    cases outcome <;> rfl
  | true =>
    rw [async] at form visits
    have coroutine : o.form = .coroutine := form
    rw [bodyStore, if_pos coroutine] at visits
    obtain ⟨suspends, awaited⟩ := delegatesWhenAwaited body called forwarded coroutine async bound itemLimit depth
    rw [runToEnd, Run.bind_ok (suspends store), if_pos rfl]
    exact awaited w _ _ _ last outcome rfl Array.getElem?_push_size visits

/-- A call of the function on a wrapper that records failures, and the same call where the first failure ends the run,
    as long as their steps are alike: if nothing is recorded, both make the same subjects and end alike; otherwise the
    other one ends with the failure that was recorded first, at the element which that comes from. -/
def EndsAtFirstFailure (o : Function) (awaits : Bool) (forwards : List Forward) : Prop :=
  ∀ (d : Delegation) (call : Call) (arguments : Arguments), o.body = .delegate d →
    call.bind? o.parameters = some arguments →
  ∃ passed, Forward.call? arguments forwards = some passed ∧
  ∀ (itemLimit depth : Nat) (self factory data : Value)
    (c : Coupling (nested itemLimit depth) (.reporting self factory data) d.method awaits passed)
    (s t last : Store) (items : List Value) (outcome : Except Fault Unit),
    arguments.lookup "self" = some (.one self) →
    c.start.related (bodyStore o arguments s) (bodyStore o arguments t) →
    (nested itemLimit depth).Walks (.reporting self factory data .collect) d.method awaits passed
      (bodyStore o arguments s) items outcome last →
    ((nested itemLimit (depth + 1)).runToEnd awaits o call).start s = (outcome.map fun _ => .none, last) ∧
    ∃ items' outcome' last',
      (nested itemLimit depth).Walks (.reporting self factory data .raise) d.method awaits passed
        (bodyStore o arguments t) items' outcome' last' ∧
      ((nested itemLimit (depth + 1)).runToEnd awaits o call).start t = (outcome'.map fun _ => .none, last') ∧
      match last.failures with
      | [] => items' = items ∧ outcome' = outcome
      | failure :: _ => outcome' = .error (.failedCheck failure) ∧ ∃ left before earlier item later,
          ((nested itemLimit depth).elementsOf data).start (bodyStore o arguments s) = (.ok left, before) ∧
          items = earlier ++ item :: later ∧ items' = earlier ++ [item] ∧
          (nested itemLimit depth).ComesFrom (.reporting self factory data .collect) d.method awaits passed failure left
            before earlier item

end Engine

section

open Engine

/-- A check that always fails. -/
def nearFunction : Function :=
  { sampleFound.function with body := .script [⟨none, .report "too far" []⟩] }

/-- The classes of the example, without any above them: subjects with the check, a factory for them, and what failures
    are reported to. -/
def nearWorld : World where
  modules := ["shop"]
  classes :=
    [{ name := ⟨"shop", "PriceSubject"⟩, order := [⟨"shop", "PriceSubject"⟩]
       members :=
         [("__init__", .function .onObject false
            { module := "shop", name := "__init__", body := .ofSubject .construct
              parameters := [{ name := "self" }, { name := "failure_strategy" }, { name := "actual" }] }),
          ("is_near", .function .onObject false nearFunction)] },
     { name := ⟨"shop", "PriceFactory"⟩, order := [⟨"shop", "PriceFactory"⟩]
       members :=
         [("get_subject", .function .onObject false
            { module := "shop", name := "get_subject", body := .makeSubject ⟨"shop", "PriceSubject"⟩
              parameters := [{ name := "self" }, { name := "strategy" }, { name := "actual" }] })] },
     { name := collectingClass, order := [collectingClass]
       members := [("fail", .function .onObject false reportFunction)] },
     { name := raisingClass, order := [raisingClass]
       members := [("fail", .function .onObject false reportFunction)] }]

/-- The one element of the wrapper's data. -/
def nearItem : Value := .int 0 7

def nearFactory : Value := .reference 2 ⟨"shop", "PriceFactory"⟩

def nearData : Value := .list 0 [nearItem]

/-- The wrapper, as an object of its class. -/
def nearWrapper : Value := .reference 1 ⟨"shop", "PriceSubject"⟩

/-- The subject that is made for the element. -/
def nearSubject : Value := .reference 3 ⟨"shop", "PriceSubject"⟩

/-- The call that each subject gets. -/
def nearCall : Call := { positional := [.int 0 9], keywords := [("within", .int 0 2)] }

def nearArguments : Arguments :=
  [("self", .one nearSubject), ("value", .one (.int 0 9)), ("within", .one (.int 0 2))]

/-- The store with the wrapper, and behind it these objects. -/
def nearStore (policy : FailurePolicy) (others : List Entity) (failures : List Failure) (nextPlace : Nat) : Store where
  world := nearWorld
  policy := policy
  entities := ⟨[.object [],
    .object [("failure_strategy", policy.reporter), ("_actual", .none), ("_name", .none),
      ("_subject_factory", nearFactory), ("_data", nearData)],
    .object []] ++ others⟩
  failures := failures
  nextPlace := nextPlace

/-- The subject, as an object. -/
def nearEntity (policy : FailurePolicy) : Entity :=
  .object [("failure_strategy", policy.reporter), ("_actual", nearItem), ("_name", .none)]

/-- The subject was made, -/
def nearMade (policy : FailurePolicy) : List Entity := [nearEntity policy]

/-- its check was called, -/
def nearCalled (policy : FailurePolicy) : List Entity := [nearEntity policy, .suspended nearFunction nearArguments]

/-- and the check was awaited. -/
def nearChecked (policy : FailurePolicy) : List Entity := [nearEntity policy, .finished .coroutine]

/-- Both runs have made the same objects, with such failures recorded and such a place to come. -/
def nearStanding (possible : List Failure → Nat → Prop) (others : FailurePolicy → List Entity) : Standing where
  collecting := fun s => ∃ failures place, possible failures place ∧
    s = nearStore .collect (others .collect) failures place
  related := fun s t => ∃ place, possible [] place ∧ s = nearStore .collect (others .collect) [] place ∧
    t = nearStore .raise (others .raise) [] place
  collects := by
    rintro _ ⟨_, _, _, rfl⟩
    rfl
  raises := by
    rintro _ _ ⟨_, _, _, rfl⟩
    rfl
  left := by
    rintro _ _ ⟨place, holds, rfl, _⟩
    exact ⟨[], place, holds, rfl⟩
  unreported := by
    rintro _ _ ⟨_, _, rfl, _⟩
    rfl

/-- Nothing has happened yet. -/
def atFirst (failures : List Failure) (place : Nat) : Prop := failures = [] ∧ place = 1

/-- Anything may have been recorded. -/
def anyTime (_ : List Failure) (_ : Nat) : Prop := True

/-- A step that gives one value and makes objects. -/
private theorem near_step {α : Type} {possible possible' : List Failure → Nat → Prop}
    {others : FailurePolicy → List Entity} (others' : FailurePolicy → List Entity) (run : FailurePolicy → Run α) {a : α}
    {after : α → α → Standing} (ran : ∀ policy failures place, possible failures place →
      (run policy).start (nearStore policy (others policy) failures place) =
        (.ok a, nearStore policy (others' policy) failures place))
    (further : ∀ failures place, possible failures place → possible' failures place)
    (collecting : ∀ s, (nearStanding possible' others').collecting s → (after a a).collecting s)
    (related : ∀ s t, (nearStanding possible' others').related s t → (after a a).related s t) :
    Silent (nearStanding possible others) after (run .collect) (run .raise) := by
  refine .of_ok (a := a) (b := a) ?_ ?_
  · rintro _ ⟨failures, place, holds, rfl⟩
    exact ⟨_, ran .collect failures place holds, rfl, collecting _ ⟨failures, place, further _ _ holds, rfl⟩⟩
  · rintro _ _ ⟨place, holds, rfl, rfl⟩
    exact ⟨_, _, ran .collect [] place holds, ran .raise [] place holds,
      related _ _ ⟨place, further _ _ holds, rfl, rfl⟩⟩

private theorem near_makes (policy : FailurePolicy) (failures : List Failure) (place : Nat)
    (first : atFirst failures place) :
    ((nested 10 9).callMethod nearFactory "get_subject" { positional := [policy.reporter, nearItem] }).start
      (nearStore policy [] failures place) = (.ok nearSubject, nearStore policy (nearMade policy) failures place) := by
  obtain ⟨rfl, rfl⟩ := first
  cases policy <;> rfl

private theorem near_calls (policy : FailurePolicy) (failures : List Failure) (place : Nat) :
    ((nested 10 9).callMethod nearSubject "is_near" nearCall).start
        (nearStore policy (nearMade policy) failures place) =
      (.ok (.reference 4 (suspendedClass .coroutine)),
        nearStore policy (nearCalled policy) failures place) := by
  cases policy <;> rfl

private theorem near_held (policy : FailurePolicy) (failures : List Failure) (place : Nat) :
    (Wrapped.reporting nearWrapper nearFactory nearData policy).Held (nested 10 9)
      (nearStore policy [] failures place) := by
  cases policy <;> exact ⟨by rfl, by rfl, by rfl⟩

private theorem near_reports : (nearStanding anyTime nearChecked).Reports where
  can := by
    rintro _ ⟨failures, place, _, rfl⟩
    exact ⟨false, by rfl⟩
  can' := by
    rintro _ _ ⟨place, _, rfl, rfl⟩
    exact ⟨false, by rfl⟩
  plainly := by
    rintro _ ⟨failures, place, _, rfl⟩
    exact ⟨by decide, fun _ _ found => by cases found⟩
  plainly' := by
    rintro _ _ ⟨place, _, rfl, rfl⟩
    exact ⟨by decide, fun _ _ found => by cases found⟩
  own := by
    rintro _ ⟨failures, place, _, rfl⟩
    rfl
  own' := by
    rintro _ _ ⟨place, _, rfl, rfl⟩
    rfl
  placed := by
    refine .silent ⟨?_, ?_, ?_, ?_⟩
    · rintro _ ⟨failures, place, _, rfl⟩
      rfl
    · rintro _ _ _ ⟨failures, place, _, rfl⟩ same
      cases same
      exact ⟨place, failures, place + 1, trivial, rfl⟩
    · rintro _ _ _ _ ⟨place, _, rfl, rfl⟩ same
      cases same
      exact ⟨place, _, rfl, place + 1, trivial, rfl, rfl⟩
    · rintro _ _ _ _ ⟨place, _, rfl, rfl⟩ same
      cases same
  recorded := by
    rintro _ failure ⟨failures, place, _, rfl⟩
    exact ⟨failures ++ [failure], place, trivial, rfl⟩

private theorem near_executes : (nearStanding anyTime nearChecked).Agrees (fun _ => nearStanding anyTime nearChecked)
    ((nested 10 9).execute nearFunction nearArguments) := by
  have body : (nested 10 9).execute nearFunction nearArguments = (do
      let reporter ← (nested 10 8).getAttribute nearSubject "failure_strategy"
      (nested 10 8).reportTo reporter (pure ⟨"too far", none⟩)
      return {}) := by
    change (nested 10 8).runBody nearFunction nearArguments = _
    have scope : scopeOf nearArguments = pure [("self", nearSubject), ("value", .int 0 9), ("within", .int 0 2)] := rfl
    rw [runBody, nearFunction]
    dsimp only
    rw [runScript, scope]
    simp only [runSteps, act, termValues, pure_bind, bind_assoc, List.mapM_nil]
    rfl
  rw [body]
  have found (policy : FailurePolicy) (failures : List Failure) (place : Nat) :
      ((nested 10 8).getAttribute nearSubject "failure_strategy").start
          (nearStore policy (nearChecked policy) failures place) =
        (.ok policy.reporter, nearStore policy (nearChecked policy) failures place) := by
    cases policy <;> rfl
  refine .bind_found (a := FailurePolicy.collect.reporter) (b := FailurePolicy.raise.reporter) ?_ ?_ ?_
  · rintro _ ⟨failures, place, _, rfl⟩
    exact found .collect failures place
  · rintro _ _ ⟨place, _, rfl, rfl⟩
    exact found .raise [] place
  · exact .bind_same (reportTo_inStep near_reports (Standing.agrees_pure _)) fun _ => Standing.agrees_pure _

private theorem near_awaits : (nearStanding anyTime nearCalled).Agrees (fun _ => nearStanding anyTime nearChecked)
    ((nested 10 9).await (.reference 4 (suspendedClass .coroutine))) := by
  have asked : Silent (nearStanding anyTime nearCalled) (Standing.same fun found =>
      (nearStanding anyTime nearCalled).when (found = some (.suspended nearFunction nearArguments))) (Run.entity? 4)
      (Run.entity? 4) :=
    near_step nearCalled (fun _ => Run.entity? 4) (fun _ _ _ _ => rfl) (fun _ _ holds => holds)
      (fun _ holds => ⟨rfl, rfl, holds⟩) fun _ _ related => ⟨rfl, rfl, related⟩
  have begins : Silent (nearStanding anyTime nearCalled) (Standing.same fun _ => nearStanding anyTime nearChecked)
      (Run.setEntity 4 (.finished nearFunction.form)) (Run.setEntity 4 (.finished nearFunction.form)) :=
    near_step nearChecked (fun _ => Run.setEntity 4 (.finished nearFunction.form))
      (fun _ _ _ _ => rfl) (fun _ _ holds => holds) (fun _ holds => ⟨rfl, holds⟩) fun _ _ related => ⟨rfl, related⟩
  rw [await]
  refine .bind_when (.silent asked) fun found isSuspended => ?_
  rw [isSuspended]
  simp only [show nearFunction.form = .coroutine from rfl, if_true, resume, bind_assoc]
  exact .bind (.silent begins) fun _ => .bind near_executes fun outcome => Standing.agrees_pure outcome.result

private theorem near_visits : InStep (nearStanding atFirst fun _ => []) (fun _ _ => nearStanding anyTime nearChecked)
    ((nested 10 9).visit (.reporting nearWrapper nearFactory nearData .collect) "is_near" true nearCall nearItem)
    ((nested 10 9).visit (.reporting nearWrapper nearFactory nearData .raise) "is_near" true nearCall nearItem) := by
  have makes : Silent (nearStanding atFirst fun _ => []) (Standing.same fun found =>
      (nearStanding anyTime nearMade).when (found = nearSubject)) _ _ :=
    near_step nearMade _ near_makes (fun _ _ _ => trivial) (fun _ holds => ⟨rfl, rfl, holds⟩)
      fun _ _ related => ⟨rfl, rfl, related⟩
  have calls : Silent (nearStanding anyTime nearMade) (Standing.same fun found =>
      (nearStanding anyTime nearCalled).when (found = Value.reference 4 (suspendedClass .coroutine)))
      ((nested 10 9).callMethod nearSubject "is_near" nearCall)
      ((nested 10 9).callMethod nearSubject "is_near" nearCall) :=
    near_step nearCalled (fun _ => (nested 10 9).callMethod nearSubject "is_near" nearCall)
      (fun policy failures place _ => near_calls policy failures place) (fun _ _ holds => holds)
      (fun _ holds => ⟨rfl, rfl, holds⟩) fun _ _ related => ⟨rfl, rfl, related⟩
  rw [visit, visit]
  refine .bind_when (.silent makes) fun subject isMade => ?_
  rw [isMade]
  refine .bind_when (.silent calls) fun result isSuspended => ?_
  rw [isSuspended, if_pos rfl, Run.discard_eq]
  exact .bind_same near_awaits fun _ => .step_pure (fun _ holds => holds) fun _ _ related => related

/-- The two wrappers of the example take the same steps. -/
def nearCoupling : Coupling (nested 10 9) (.reporting nearWrapper nearFactory nearData) "is_near" true nearCall where
  start := nearStanding atFirst fun _ => []
  between := fun
    | .known [item] => (nearStanding atFirst fun _ => []).when (item = nearItem)
    | .known [] => nearStanding anyTime nearChecked
    | _ => (nearStanding anyTime nearChecked).when False
  visiting := fun item rest => (nearStanding atFirst fun _ => []).when (item = nearItem ∧ rest = .known [])
  ended := nearStanding anyTime nearChecked
  held := by
    rintro _ _ ⟨place, _, rfl, rfl⟩
    exact near_held .raise [] place
  heldAround := by
    rintro item rest _ _ ⟨_, place, _, rfl, rfl⟩
    refine ⟨near_held .raise [] place, fun make store found => ?_⟩
    have unchanged : ((nested 10 9).getAttribute nearFactory "get_subject").start (nearStore .raise [] [] place) =
        (.ok (.bound nearFactory (.function ⟨"shop", "PriceFactory"⟩ "get_subject")),
          nearStore .raise [] [] place) := by
      rfl
    cases unchanged.symm.trans found
    exact near_held .raise [] place
  opens := by
    have known (policy : FailurePolicy) (failures : List Failure) (place : Nat) :
        ((nested 10 9).elementsOf nearData).start (nearStore policy [] failures place) =
          (.ok (.known [nearItem]), nearStore policy [] failures place) := rfl
    exact near_step (fun _ => []) (fun _ => (nested 10 9).elementsOf nearData)
      (fun policy failures place _ => known policy failures place) (fun _ _ holds => holds)
      (fun _ holds => ⟨rfl, rfl, holds⟩) fun _ _ related => ⟨rfl, rfl, related⟩
  draws := by
    intro left
    match left with
    | .known [item] =>
      refine .of_ok (a := some (item, .known [])) (b := some (item, .known [])) ?_ ?_
      · exact fun s holds => ⟨s, rfl, rfl, rfl, ⟨holds.1, rfl⟩, holds.2⟩
      · exact fun s t related => ⟨s, t, rfl, rfl, rfl, ⟨related.1, rfl⟩, related.2⟩
    | .known [] =>
      exact .of_ok (a := none) (b := none) (fun s holds => ⟨s, rfl, rfl, rfl, holds⟩)
        fun s t related => ⟨s, t, rfl, rfl, rfl, related⟩
    | .known (_ :: _ :: _) => exact .unreached fun _ impossible => impossible.1
    | .asked _ => exact .unreached fun _ impossible => impossible.1
  visits := by
    intro item rest
    by_cases reached : item = nearItem ∧ rest = .known []
    · obtain ⟨rfl, rfl⟩ := reached
      exact near_visits.weaken (fun _ holds => holds.2) fun _ _ related => related.2
    · exact .unreached fun _ impossible => reached impossible.1

end

end EachSubject
