import EachSubject.Proofs.Reporting

/-!
# One call of a subject

A subject is an object that keeps what it checks, what it reports to, and its name. Giving it a name changes nothing
else. A check of it asks for its condition; where that is false, the texts of what is told are made, and one failure is
recorded, under the name that the subject has then. Comparing and showing values can run code of their own, which may
do anything but touch the subject, the record, or the classes.
-/

namespace EachSubject

/-- A value with all data inside as it has become. -/
def Store.now (store : Store) (value : Value) : Value :=
  if store.revised.isEmpty then value else Run.refreshed store.revised [] Run.dataDepth value

theorem Run.current_now (value : Value) (store : Store) :
    (Run.current value).start store = (.ok (store.now value), store) := rfl

/-- The store in which one more place is taken. -/
def Store.placed (store : Store) : Store := { store with nextPlace := store.nextPlace + 1 }

/-! ## Base checks -/

/-- A check that every subject has, with the value that it is given. -/
inductive BaseCheck where
  | isEqualTo (expected : Value)
  | isNotEqualTo (unexpected : Value)
  | isNone
  | isNotNone
  | isInstanceOf (kind : Value)
  | isIn (container : Value)

namespace BaseCheck

/-- The method of the check. -/
def method : BaseCheck → String
  | isEqualTo _ => "is_equal_to"
  | isNotEqualTo _ => "is_not_equal_to"
  | isNone => "is_none"
  | isNotNone => "is_not_none"
  | isInstanceOf _ => "is_instance_of"
  | isIn _ => "is_in"

/-- What the check claims. -/
def verb : BaseCheck → String
  | isEqualTo _ => "is equal to"
  | isNotEqualTo _ => "is not equal to"
  | isNone => "is None"
  | isNotNone => "is not None"
  | isInstanceOf _ => "is an instance of"
  | isIn _ => "is equal to any element in"

/-- The parameter that takes the value, with the value. -/
def given? : BaseCheck → Option (String × Value)
  | isEqualTo expected => some ("expected", expected)
  | isNotEqualTo unexpected => some ("unexpected", unexpected)
  | isNone => none
  | isNotNone => none
  | isInstanceOf kind => some ("cls", kind)
  | isIn container => some ("iterable", container)

/-- The condition of the check, for the value under check. -/
def holds (e : Engine) (actual : Value) : BaseCheck → Run Bool
  | isEqualTo expected => do
    let expected ← Run.current expected
    return !(← e.isTrue (← e.inequality (← Run.current actual) expected))
  | isNotEqualTo unexpected => do
    let unexpected ← Run.current unexpected
    return !(← e.isTrue (← e.equality (← Run.current actual) unexpected))
  | isNone => do return (← Run.current actual).isSame .none
  | isNotNone => do return !(← Run.current actual).isSame .none
  | isInstanceOf kind => do Run.orFault .mismatch (Check.isInstance? (← Run.world) (← Run.current actual) kind)
  | isIn container => do e.holds container (← Run.current actual)

/-- The values that are told beside the one under check: an expected one as it is when the check is called. -/
def others (store : Store) : BaseCheck → List Value
  | isEqualTo expected => [store.now expected]
  | isNotEqualTo unexpected => [store.now unexpected]
  | isNone => []
  | isNotNone => []
  | isInstanceOf kind => [kind]
  | isIn container => [container]

end BaseCheck

/-! ## Calls -/

/-- A call of a subject, with the one argument by place or by keyword. -/
inductive SubjectCall where
  | named (byKeyword : Bool) (place : Nat) (name : String)
  | check (byKeyword : Bool) (check : BaseCheck)

namespace SubjectCall

/-- One argument, by keyword or by place. -/
def passing (byKeyword : Bool) (word : String) (value : Value) : Call :=
  if byKeyword then { keywords := [(word, value)] } else { positional := [value] }

def method : SubjectCall → String
  | named .. => "named"
  | check _ c => c.method

def call : SubjectCall → Call
  | named byKeyword place name => passing byKeyword "name" (.text place name)
  | check byKeyword c =>
    match c.given? with
    | some (word, value) => passing byKeyword word value
    | none => {}

end SubjectCall

/-! ## Subjects -/

/-- The class has the functions of the base class of subjects, and its objects keep their attributes plainly. -/
structure IsSubjectClass (w : World) (owner : ClassName) : Prop where
  searches : SearchesPlainly w owner
  sets : ∀ definer member, w.lookup owner "__setattr__" = some (definer, member) →
    Engine.isFunction (Engine.rawMember definer "__setattr__" member) = false
  methods : ∀ name isFinal f, (name, Member.function .onObject isFinal f) ∈ Library.subjectMembers →
    name ≠ "__init__" → ∃ definer, HasMethod w owner name definer f
  attributes : ∀ name ∈ ["failure_strategy", "_actual", "_name"], w.lookup owner name = none
  noRecord : Engine.hasRecordField w owner "_name" = false

/-- The function that raises for all recorded failures. -/
def raiseFunction : Function where
  module := failureClass.module
  name := "raise_if_failed"
  parameters := [Library.selfParameter]
  body := .ofReporter .raiseIfFailed

/-- The class of objects that record failures. -/
structure IsCollectingClass (w : World) : Prop where
  searches : SearchesPlainly w collectingClass
  fails : HasMethod w collectingClass "fail" collectingClass reportFunction
  raises : HasMethod w collectingClass "raise_if_failed" collectingClass raiseFunction

/-- A subject: an object that checks a value. -/
structure Subject where
  id : Nat
  owner : ClassName
  actual : Value

/-- The subject as a value. -/
def Subject.value (s : Subject) : Value := .reference s.id s.owner

/-- A subject has a name, or none. -/
inductive IsNameValue : Option String → Value → Prop
  | none : IsNameValue none .none
  | some (place : Nat) (name : String) : IsNameValue (some name) (.text place name)

/-- The subject stands in the store, with its name: it keeps the value under check, reports to what records failures,
    and nothing hides the methods of either. -/
structure Subject.Stands (s : Subject) (name : Option String) (store : Store) : Prop where
  collects : store.policy = .collect
  subjects : IsSubjectClass store.world s.owner
  reporters : IsCollectingClass store.world
  object : ∃ attributes, store.entities[s.id]? = some (.object attributes)
  strategy : (store.attributesOf s.id).lookup "failure_strategy" = some FailurePolicy.collect.reporter
  actual : (store.attributesOf s.id).lookup "_actual" = some s.actual
  name : ∃ value, (store.attributesOf s.id).lookup "_name" = some value ∧ IsNameValue name value
  unhidden : ∀ entry ∈ Library.subjectMembers, (store.attributesOf s.id).lookup entry.1 = none
  distinct : s.id ≠ reporterId
  reporter : ∀ method ∈ ["fail", "raise_if_failed"], (store.attributesOf reporterId).lookup method = none

/-- What happened between two stores left the subject, the record and the classes alone. -/
structure Subject.LeftAlone (s : Subject) (before after : Store) : Prop where
  world : after.world = before.world
  policy : after.policy = before.policy
  failures : after.failures = before.failures
  subject : after.entities[s.id]? = before.entities[s.id]?
  reporter : after.attributesOf reporterId = before.attributesOf reporterId

namespace Subject

variable {s : Subject} {name : Option String} {store before last : Store}

theorem LeftAlone.refl (s : Subject) (store : Store) : s.LeftAlone store store := ⟨rfl, rfl, rfl, rfl, rfl⟩

theorem LeftAlone.attributes (alone : s.LeftAlone before last) :
    last.attributesOf s.id = before.attributesOf s.id := by
  rw [Store.attributesOf, Store.attributesOf, alone.subject]

theorem Stands.onward (stands : s.Stands name before) (alone : s.LeftAlone before last) : s.Stands name last where
  collects := alone.policy.trans stands.collects
  subjects := alone.world ▸ stands.subjects
  reporters := alone.world ▸ stands.reporters
  object := alone.subject ▸ stands.object
  strategy := alone.attributes ▸ stands.strategy
  actual := alone.attributes ▸ stands.actual
  name := alone.attributes ▸ stands.name
  unhidden := alone.attributes ▸ stands.unhidden
  distinct := stands.distinct
  reporter := alone.reporter ▸ stands.reporter

/-- A subject stands on when places are taken and failures are recorded. -/
theorem Stands.recorded (stands : s.Stands name store) (failures : List Failure) (place : Nat) :
    s.Stands name { store with failures := failures, nextPlace := place } where
  collects := stands.collects
  subjects := stands.subjects
  reporters := stands.reporters
  object := stands.object
  strategy := stands.strategy
  actual := stands.actual
  name := stands.name
  unhidden := stands.unhidden
  distinct := stands.distinct
  reporter := stands.reporter

theorem Stands.canReport (stands : s.Stands name store) : store.CanReport := by
  rw [Store.CanReport, stands.collects]
  exact stands.reporters.fails

/-! ### What a subject gives -/

section

variable (e : Engine)

theorem Stands.gives_actual (stands : s.Stands name store) :
    (e.getAttribute s.value "_actual").start store = (.ok s.actual, store) :=
  Engine.getAttribute_own stands.subjects.searches (stands.subjects.attributes _ (by simp)) stands.actual

theorem Stands.gives_strategy (stands : s.Stands name store) :
    (e.getAttribute s.value "failure_strategy").start store = (.ok FailurePolicy.collect.reporter, store) :=
  Engine.getAttribute_own stands.subjects.searches (stands.subjects.attributes _ (by simp)) stands.strategy

theorem Stands.gives_name (stands : s.Stands name store) : ∃ value, IsNameValue name value ∧
    (e.getAttribute s.value "_name").start store = (.ok value, store) := by
  obtain ⟨value, held, isName⟩ := stands.name
  exact ⟨value, isName,
    Engine.getAttribute_own stands.subjects.searches (stands.subjects.attributes _ (by simp)) held⟩

/-- Calling a method of the base class of subjects runs its function. -/
theorem Stands.callMethod (stands : s.Stands name store) {method : String} {isFinal : Bool} {f : Function}
    (among : (method, Member.function .onObject isFinal f) ∈ Library.subjectMembers) (ordinary : method ≠ "__init__")
    (call : Call) : (e.callMethod s.value method call).start store =
      (e.run f (Engine.withReceiver s.value call)).start store := by
  obtain ⟨definer, found⟩ := stands.subjects.methods method isFinal f among ordinary
  exact Engine.callMethod_method stands.subjects.searches found (stands.unhidden _ among) call

end

end Subject

namespace Engine

variable (itemLimit depth : Nat) {s : Subject} {name : Option String} {store : Store}

/-- Running a function of the base class of subjects, one level of calls deeper. -/
theorem run_ofSubject {f : Function} {body : SubjectFunction} {call : Call} {arguments : Arguments}
    (plain : f.form = .plain) (isBody : f.body = .ofSubject body) (bound : call.bind? f.parameters = some arguments) :
    (nested itemLimit (depth + 1)).run f call = (nested itemLimit depth).runSubjectFunction body arguments := by
  have executes : (nested itemLimit (depth + 1)).execute f arguments =
      (do return { result := ← (nested itemLimit depth).runSubjectFunction body arguments } : Run Outcome) := by
    change (nested itemLimit depth).runBody f arguments = _
    rw [runBody, isBody]
  rw [run, bound]
  simp only [invoke, plain, executes, bind_assoc, pure_bind, bind_pure]

end Engine

/-! ## Names -/

/-- The store after the subject got a name. -/
def Subject.naming (s : Subject) (value : Value) (store : Store) : Store :=
  let named := Entity.object (Run.bindName (store.attributesOf s.id) "_name" value)
  { store with entities := store.entities.setIfInBounds s.id named }

namespace Subject

variable {s : Subject} {name : Option String} {store last : Store}

private theorem naming_attributes (stands : s.Stands name store) (value : Value) :
    (s.naming value store).attributesOf s.id = Run.bindName (store.attributesOf s.id) "_name" value := by
  obtain ⟨attributes, object⟩ := stands.object
  have inside : s.id < store.entities.size := (Array.getElem?_eq_some_iff.1 object).1
  have found : (s.naming value store).entities[s.id]? =
      some (.object (Run.bindName (store.attributesOf s.id) "_name" value)) := by
    rw [naming, Array.getElem?_setIfInBounds_self_of_lt inside]
  rw [Store.attributesOf, found]

private theorem naming_reporter (stands : s.Stands name store) (value : Value) :
    (s.naming value store).attributesOf reporterId = store.attributesOf reporterId := by
  have found : (s.naming value store).entities[reporterId]? = store.entities[reporterId]? := by
    rw [naming, Array.getElem?_setIfInBounds_ne stands.distinct]
  rw [Store.attributesOf, found]
  rfl

/-- A subject that gets a name stands with that name. -/
theorem Stands.named (stands : s.Stands name store) (place : Nat) (given : String) :
    s.Stands (some given) (s.naming (.text place given) store) where
  collects := stands.collects
  subjects := stands.subjects
  reporters := stands.reporters
  object := by
    obtain ⟨attributes, object⟩ := stands.object
    have inside : s.id < store.entities.size := (Array.getElem?_eq_some_iff.1 object).1
    exact ⟨_, Array.getElem?_setIfInBounds_self_of_lt inside⟩
  strategy := by
    rw [naming_attributes stands, Run.lookup_bindName, if_neg (by decide)]
    exact stands.strategy
  actual := by
    rw [naming_attributes stands, Run.lookup_bindName, if_neg (by decide)]
    exact stands.actual
  name := by
    rw [naming_attributes stands, Run.lookup_bindName, if_pos rfl]
    exact ⟨_, rfl, .some place given⟩
  unhidden := by
    intro entry among
    have differs : entry.1 ≠ "_name" := by
      have all : ∀ entry ∈ Library.subjectMembers, entry.1 ≠ "_name" := by decide
      exact all entry among
    rw [naming_attributes stands, Run.lookup_bindName, if_neg differs]
    exact stands.unhidden entry among
  distinct := stands.distinct
  reporter := by
    rw [naming_reporter stands]
    exact stands.reporter

theorem Stands.sets_name (stands : s.Stands name store) (e : Engine) (value : Value) :
    (e.setAttribute s.value "_name" value).start store = (.ok (), s.naming value store) := by
  obtain ⟨held, object⟩ := stands.object
  have plainly : SetsPlainly store.world s.owner "_name" :=
    { hook := stands.subjects.sets
      noProperty := by
        intro definer member f found
        cases (stands.subjects.attributes _ (by simp)).symm.trans found
      noField := stands.subjects.noRecord }
  rw [Subject.value, Engine.setAttribute_start plainly object, Subject.naming, Store.attributesOf, object]
  rfl

end Subject

/-! ## Functions behind the methods -/

namespace BaseCheck

/-- The function behind the check. -/
def body : BaseCheck → SubjectFunction
  | isEqualTo _ => .isEqualTo
  | isNotEqualTo _ => .isNotEqualTo
  | isNone => .isNone
  | isNotNone => .isNotNone
  | isInstanceOf _ => .isInstanceOf
  | isIn _ => .isIn

/-- What the parameters of the function receive. -/
def arguments (self : Value) (c : BaseCheck) : Arguments :=
  ("self", .one self) ::
    match c.given? with
    | some (word, value) => [(word, .one value)]
    | none => []

theorem member (c : BaseCheck) : ∃ f : Function,
    (c.method, Member.function .onObject false f) ∈ Library.subjectMembers ∧ f.form = .plain ∧
      f.body = .ofSubject c.body ∧ ∀ self byKeyword,
        (Engine.withReceiver self (SubjectCall.check byKeyword c).call).bind? f.parameters =
          some (c.arguments self) := by
  cases c with
  | isEqualTo =>
    exact ⟨_, List.mem_of_getElem? (i := 3) rfl, rfl, rfl, fun _ byKeyword => by cases byKeyword <;> rfl⟩
  | isNotEqualTo =>
    exact ⟨_, List.mem_of_getElem? (i := 4) rfl, rfl, rfl, fun _ byKeyword => by cases byKeyword <;> rfl⟩
  | isNone => exact ⟨_, List.mem_of_getElem? (i := 5) rfl, rfl, rfl, fun _ _ => rfl⟩
  | isNotNone => exact ⟨_, List.mem_of_getElem? (i := 6) rfl, rfl, rfl, fun _ _ => rfl⟩
  | isInstanceOf =>
    exact ⟨_, List.mem_of_getElem? (i := 7) rfl, rfl, rfl, fun _ byKeyword => by cases byKeyword <;> rfl⟩
  | isIn =>
    exact ⟨_, List.mem_of_getElem? (i := 8) rfl, rfl, rfl, fun _ byKeyword => by cases byKeyword <;> rfl⟩

end BaseCheck

namespace Subject

variable {s : Subject} {name : Option String} {store last : Store} (itemLimit depth : Nat)

/-- The condition of a check is asked for first, and then the failure is told if it is false. -/
theorem Stands.checks (stands : s.Stands name store) (c : BaseCheck) :
    ((Engine.nested itemLimit depth).runSubjectFunction c.body (c.arguments s.value)).start store =
      (do
        let holds ← c.holds (Engine.nested itemLimit depth) s.actual
        (Engine.nested itemLimit depth).require s.value holds c.verb (c.others store)
        return Value.none : Run Value).start store := by
  have actual := stands.gives_actual (Engine.nested itemLimit depth)
  have self : Engine.received (c.arguments s.value) "self" = pure s.value := rfl
  rw [Engine.runSubjectFunction, self, pure_bind]
  cases c with
  | isEqualTo expected =>
    have given : Engine.received (BaseCheck.arguments s.value (.isEqualTo expected)) "expected" = pure expected := rfl
    simp only [BaseCheck.body, BaseCheck.holds, given, pure_bind, bind_assoc]
    rw [Run.bind_ok (Run.current_now expected store), Run.bind_ok actual, Run.bind_ok (Run.current_now expected store)]
    rfl
  | isNotEqualTo unexpected =>
    have given : Engine.received (BaseCheck.arguments s.value (.isNotEqualTo unexpected)) "unexpected" =
      pure unexpected := rfl
    simp only [BaseCheck.body, BaseCheck.holds, given, pure_bind, bind_assoc]
    rw [Run.bind_ok (Run.current_now unexpected store), Run.bind_ok actual,
      Run.bind_ok (Run.current_now unexpected store)]
    rfl
  | isNone =>
    simp only [BaseCheck.body, BaseCheck.holds, pure_bind, bind_assoc]
    rw [Run.bind_ok actual]
    rfl
  | isNotNone =>
    simp only [BaseCheck.body, BaseCheck.holds, pure_bind, bind_assoc]
    rw [Run.bind_ok actual]
    rfl
  | isInstanceOf kind =>
    have given : Engine.received (BaseCheck.arguments s.value (.isInstanceOf kind)) "cls" = pure kind := rfl
    have known : Run.world.start store = (.ok store.world, store) := rfl
    simp only [BaseCheck.body, BaseCheck.holds, given, pure_bind, bind_assoc]
    rw [Run.bind_ok known, Run.bind_ok actual, Run.bind_ok known]
    rfl
  | isIn container =>
    have given : Engine.received (BaseCheck.arguments s.value (.isIn container)) "iterable" = pure container := rfl
    simp only [BaseCheck.body, BaseCheck.holds, given, pure_bind, bind_assoc]
    rw [Run.bind_ok actual]
    rfl

/-! ## Telling a failure -/

/-- The texts of what is told of a failed check: that of the subject, which is its name, or else that of the value, cut
    if it is long, and those of the other values. -/
def shows (s : Subject) (e : Engine) (name : Option String) (others : List Value) : Run (String × List String) := do
  let subject ←
    match name with
    | some name => pure name
    | none => do pure (Check.shorten (← e.textOf s.actual))
  return (subject, ← others.mapM e.textOf)

theorem Stands.reports (stands : s.Stands name store) (failure : Failure) {made : Run Failure}
    (makes : made.start store = (.ok failure, store)) :
    ((Engine.nested itemLimit (depth + 1)).reportTo FailurePolicy.collect.reporter made).start store =
      (.ok (), store.placed.recording failure) := by
  have report : ((Engine.nested itemLimit (depth + 1)).getAttribute FailurePolicy.collect.reporter "fail").start store =
      (.ok FailurePolicy.collect.report, store) :=
    Engine.getAttribute_method stands.reporters.searches stands.reporters.fails (stands.reporter _ (by simp))
  have place : Run.freshPlace.start store = (.ok store.nextPlace, store.placed) := rfl
  have recorded : ((Engine.nested itemLimit (depth + 1)).call FailurePolicy.collect.report
      { positional := [failure.record store.nextPlace] }).start store.placed =
        (.ok .none, store.placed.recording failure) :=
    Engine.report_collect itemLimit depth failure store.nextPlace (stands.recorded store.failures _).canReport
      stands.collects
  rw [Engine.reportTo, Run.bind_ok report, Run.bind_ok makes, Run.bind_ok place, Run.discard_eq, Run.bind_ok recorded]
  rfl

/-- Reports the failure of a check from the texts of what is told. -/
private def telling (s : Subject) (e : Engine) (verb : String) (shown : String × List String) : Run Unit := do
  e.reportTo (← e.getAttribute s.value "failure_strategy") do
    match recordedName (← e.getAttribute s.value "_name") with
    | .valid subjectName => return ⟨Check.message shown.1 verb shown.2, subjectName⟩
    | .invalid problems => throw (.invalidFailure problems)

private theorem telling_start (stands : s.Stands name store) (verb : String) (shown : String × List String) :
    (s.telling (Engine.nested itemLimit (depth + 1)) verb shown).start store =
      (.ok (), store.placed.recording ⟨Check.message shown.1 verb shown.2, name⟩) := by
  obtain ⟨value, isName, held⟩ := stands.gives_name (Engine.nested itemLimit (depth + 1))
  rw [telling, Run.bind_ok (stands.gives_strategy _)]
  refine stands.reports itemLimit depth ⟨Check.message shown.1 verb shown.2, name⟩ ?_
  rw [Run.bind_ok held]
  cases isName with
  | none => rfl
  | some place name => rfl

private theorem reportCheck_start (stands : s.Stands name store) (e : Engine) (place : Nat) (verb : String)
    (others : List Value) : (e.reportCheck s.value (.text place verb) others).start store =
      (do s.telling e verb (← s.shows e name others)).start store := by
  have plain : ∀ place text, e.format (.text place text) "" = pure text := fun _ _ => rfl
  obtain ⟨value, isName, held⟩ := stands.gives_name e
  rw [Engine.reportCheck, Run.bind_ok held]
  cases isName with
  | none =>
    simp only [shows, plain, pure_bind, bind_assoc]
    rw [Run.bind_ok (stands.gives_actual e)]
    rfl
  | some place name =>
    simp only [shows, plain, pure_bind, bind_assoc]
    rfl

/-- The base function for failed checks makes the texts of what is told, and then records the failure. -/
theorem Stands.tells (stands : s.Stands name store) (place : Nat) (verb : String) (others : List Value)
    (alone : ∀ shown after,
      (s.shows (Engine.nested itemLimit (depth + 1)) name others).start store = (.ok shown, after) →
        s.LeftAlone store after)
    (told : ((Engine.nested itemLimit (depth + 1)).reportCheck s.value (.text place verb) others).start store =
      (.ok (), last)) : ∃ subject texts after,
        (s.shows (Engine.nested itemLimit (depth + 1)) name others).start store = (.ok (subject, texts), after) ∧
        last = after.placed.recording ⟨Check.message subject verb texts, name⟩ := by
  rw [reportCheck_start stands] at told
  obtain ⟨⟨subject, texts⟩, after, shown, told⟩ := Run.bind_inv told
  rw [telling_start itemLimit depth (stands.onward (alone _ _ shown))] at told
  cases told
  exact ⟨subject, texts, after, shown, rfl⟩

/-! ## One call -/

theorem fail_member : ∃ f : Function, ("_fail", Member.function .onObject false f) ∈ Library.subjectMembers ∧
    f.form = .plain ∧ f.body = .ofSubject .fail ∧ ∀ self verb others,
      (Engine.withReceiver self { positional := verb :: others }).bind? f.parameters =
        some [("self", .one self), ("verb", .one verb), ("others", .extra others)] :=
  ⟨_, List.mem_of_getElem? (i := 9) rfl, rfl, rfl, fun _ _ _ => rfl⟩

private theorem verb_placed (c : BaseCheck) (store : Store) :
    (Run.newText c.verb).start store = (.ok (.text store.nextPlace c.verb), store.placed) := by
  have all : ∀ verb ∈ ["is equal to", "is not equal to", "is None", "is not None", "is an instance of",
      "is equal to any element in"], Run.isCommonText verb = false := by decide +kernel
  have uncommon : Run.isCommonText c.verb = false := all c.verb (by cases c <;> simp [BaseCheck.verb])
  rw [Run.newText, Run.placeFor, uncommon]
  rfl

/-- A check whose condition is false runs the function for failed checks; otherwise nothing happens. -/
private theorem require_start (stands : s.Stands name store) (c : BaseCheck) (others : List Value) :
    ((Engine.nested itemLimit (depth + 1)).require s.value false c.verb others).start store =
      ((Engine.nested itemLimit depth).reportCheck s.value (.text store.nextPlace c.verb) others).start
        store.placed := by
  obtain ⟨f, among, plain, isBody, bound⟩ := fail_member
  have stands' : s.Stands name store.placed := stands.recorded store.failures _
  have called := stands'.callMethod (Engine.nested itemLimit (depth + 1)) among (by decide)
    { positional := .text store.nextPlace c.verb :: others }
  rw [Engine.run_ofSubject itemLimit depth plain isBody (bound s.value _ others)] at called
  have calls : ((Engine.nested itemLimit (depth + 1)).require s.value false c.verb others) = (do
      let verb ← Run.newText c.verb
      discard <|
        (Engine.nested itemLimit (depth + 1)).callMethod s.value "_fail" { positional := verb :: others }) := rfl
  have body : (Engine.nested itemLimit depth).runSubjectFunction .fail
      [("self", .one s.value), ("verb", .one (.text store.nextPlace c.verb)), ("others", .extra others)] = (do
        (Engine.nested itemLimit depth).reportCheck s.value (.text store.nextPlace c.verb) others
        return .none) := rfl
  rw [body] at called
  rw [calls, Run.bind_ok (verb_placed c store), Run.discard_eq, Run.start_bind, called, ← Run.start_bind]
  simp only [bind_assoc, pure_bind, bind_pure_unit]

/-- A check that is called without a fault either holds, and leaves what asking for its condition left, or it fails, and
    then one failure is recorded behind what making the texts left. -/
theorem Stands.check_ends (stands : s.Stands name store) (byKeyword : Bool) (c : BaseCheck) {result : Value}
    (asked : ∀ holds between,
      (c.holds (Engine.nested itemLimit (depth + 2)) s.actual).start store = (.ok holds, between) →
        s.LeftAlone store between)
    (shown : ∀ between shown after,
      (c.holds (Engine.nested itemLimit (depth + 2)) s.actual).start store = (.ok false, between) →
      (s.shows (Engine.nested itemLimit (depth + 1)) name (c.others store)).start between.placed = (.ok shown, after) →
        s.LeftAlone between.placed after)
    (called : ((Engine.nested itemLimit (depth + 3)).callMethod s.value c.method
      (SubjectCall.check byKeyword c).call).start store = (.ok result, last)) :
    (c.holds (Engine.nested itemLimit (depth + 2)) s.actual).start store = (.ok true, last) ∨
    ∃ between subject texts after,
      (c.holds (Engine.nested itemLimit (depth + 2)) s.actual).start store = (.ok false, between) ∧
      (s.shows (Engine.nested itemLimit (depth + 1)) name (c.others store)).start between.placed =
        (.ok (subject, texts), after) ∧
      last = after.placed.recording ⟨Check.message subject c.verb texts, name⟩ := by
  obtain ⟨f, among, plain, isBody, bound⟩ := c.member
  have ordinary : c.method ≠ "__init__" := by cases c <;> simp [BaseCheck.method]
  rw [stands.callMethod _ among ordinary,
    Engine.run_ofSubject itemLimit (depth + 2) plain isBody (bound s.value byKeyword), stands.checks] at called
  obtain ⟨holds, between, evaluated, called⟩ := Run.bind_inv called
  obtain ⟨_, behind, required, called⟩ := Run.bind_inv called
  cases called
  cases holds with
  | true =>
    cases required
    exact .inl evaluated
  | false =>
    have stands' := stands.onward (asked false between evaluated)
    rw [require_start itemLimit (depth + 1) stands'] at required
    have placed : s.Stands name between.placed := stands'.recorded between.failures _
    obtain ⟨subject, texts, after, told, same⟩ := placed.tells itemLimit depth _ _ _
      (fun _ _ => shown between _ _ evaluated) required
    exact .inr ⟨between, subject, texts, after, evaluated, told, same⟩

/-- A subject that is given a name gives itself. -/
theorem Stands.named_ends (stands : s.Stands name store) (byKeyword : Bool) (place : Nat) (given : String) :
    ((Engine.nested itemLimit (depth + 1)).callMethod s.value "named"
      (SubjectCall.named byKeyword place given).call).start store =
        (.ok s.value, s.naming (.text place given) store) := by
  have member : ∃ f : Function, ("named", Member.function .onObject false f) ∈ Library.subjectMembers ∧
      f.form = .plain ∧ f.body = .ofSubject .named ∧
        (Engine.withReceiver s.value (SubjectCall.named byKeyword place given).call).bind? f.parameters =
          some [("self", .one s.value), ("name", .one (.text place given))] :=
    ⟨_, List.mem_of_getElem? (i := 2) rfl, rfl, rfl, by cases byKeyword <;> rfl⟩
  obtain ⟨f, among, plain, isBody, bound⟩ := member
  have body : (Engine.nested itemLimit depth).runSubjectFunction .named
      [("self", .one s.value), ("name", .one (.text place given))] = (do
        (Engine.nested itemLimit depth).setAttribute s.value "_name" (.text place given)
        return s.value) := rfl
  rw [stands.callMethod _ among (by decide), Engine.run_ofSubject itemLimit depth plain isBody bound, body,
    Run.bind_ok (stands.sets_name _ _)]
  rfl

/-! ## Raising for all failures -/

private theorem run_raise (store : Store) :
    ((Engine.nested itemLimit (depth + 1)).run raiseFunction
      (Engine.withReceiver FailurePolicy.collect.reporter {})).start store =
        (do Engine.raiseRecorded; return Value.none : Run Value).start store := by
  have bound : (Engine.withReceiver FailurePolicy.collect.reporter {}).bind? raiseFunction.parameters =
      some [("self", .one FailurePolicy.collect.reporter)] := rfl
  have body : (Engine.nested itemLimit (depth + 1)).execute raiseFunction
      [("self", .one FailurePolicy.collect.reporter)] = (do
        let result ← Engine.runReporterFunction .raiseIfFailed [("self", .one FailurePolicy.collect.reporter)]
        return { result }) := rfl
  rw [Engine.run, bound]
  simp only [Engine.invoke, body, Engine.runReporterFunction, pure_bind, bind_assoc]
  rfl

/-- What failures are recorded by raises if there are any, and leaves them. -/
theorem Stands.raises (stands : s.Stands name store) :
    ((Engine.nested itemLimit (depth + 1)).callMethod FailurePolicy.collect.reporter "raise_if_failed" {}).start store =
      (if store.failures = [] then .ok .none else .error (.failedCheck ⟨Check.summary store.failures, none⟩),
        store) := by
  have asked : (get : Run Store).start store = (.ok store, store) := rfl
  rw [FailurePolicy.reporter, FailurePolicy.reporterClass, Engine.callMethod_method stands.reporters.searches
    stands.reporters.raises (stands.reporter _ (by simp))]
  change ((Engine.nested itemLimit (depth + 1)).run raiseFunction
    (Engine.withReceiver FailurePolicy.collect.reporter {})).start store = _
  rw [run_raise, Engine.raiseRecorded, bind_assoc, Run.bind_ok asked]
  cases store.failures with
  | nil => rfl
  | cons first rest => rfl

end Subject

end EachSubject
