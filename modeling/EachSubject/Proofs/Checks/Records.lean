import EachSubject.Proofs.Binding
import EachSubject.Proofs.Checks.Steps

/-!
# The record of a sequence of calls

However a subject is called, one failure is recorded for each check whose condition is false, in order, and nothing
else. It tells the name that the subject was given last, or else what it checks. The values that are compared and shown
may have code of their own for that, which could call the subject, or record failures, just as well; what is said here
is about runs where it does not.
-/

namespace EachSubject

/-! ## What a failure tells -/

/-- What is shown of a text: all of it if it is short, and otherwise a beginning of it with a mark behind. -/
inductive IsShown (text : String) : String → Prop where
  | whole (short : text.length ≤ 30) : IsShown text text
  | cut (long : 30 < text.length) (start : String) (begins : start.toList <+: text.toList)
    (full : (start ++ "...").length = 30) : IsShown text (start ++ "...")

theorem isShown_shorten (text : String) : IsShown text (Check.shorten text) := by
  rw [Check.shorten]
  split
  · next short => exact .whole short
  · next long =>
    refine .cut (Nat.lt_of_not_le long) _ ?_ ?_
    · rw [String.toList_ofList]
      exact List.take_prefix _ _
    · have enough : 30 < text.toList.length := by
        rw [String.length_toList]
        exact Nat.lt_of_not_le long
      rw [String.length_append, String.length_ofList, List.length_take]
      change min (30 - 3) text.toList.length + 3 = 30
      omega

namespace Subject

variable (s : Subject) (e : Engine)

/-- The subject is told by its name, or else by what is shown of the value under check. -/
inductive TellsItself : Option String → Store → String → Store → Prop where
  | name {name : String} {store : Store} : TellsItself (some name) store name store
  | value {text shown : String} {store after : Store} (text_eq : (e.textOf s.actual).start store = (.ok text, after))
    (isShown : IsShown text shown) : TellsItself none store shown after

/-- The failure tells that the check of the subject is not true, and carries the name of the subject. -/
inductive Tells (c : BaseCheck) (name : Option String) (others : List Value) : Store → Failure → Store → Prop where
  | tells {subject : String} {texts shown : List String} {before between after : Store}
    (itself : s.TellsItself e name before subject between)
    (texts_eq : (others.mapM e.textOf).start between = (.ok texts, after))
    (areShown : List.Forall₂ IsShown texts shown) :
    Tells c name others before
      { message := "Not true that " ++ Check.bracketed subject ++ " " ++ c.verb ++
          if shown.isEmpty then "" else " " ++ ", ".intercalate (shown.map Check.bracketed)
        subjectName := name } after

variable {s e}

private theorem tellsItself_of_shows {name : Option String} {others : List Value} {subject : String}
    {texts : List String} {before after : Store}
    (shows : (s.shows e name others).start before = (.ok (subject, texts), after)) : ∃ between,
      s.TellsItself e name before subject between ∧ (others.mapM e.textOf).start between = (.ok texts, after) := by
  cases name with
  | some name =>
    change (others.mapM e.textOf >>= fun texts => pure (name, texts)).start before = _ at shows
    obtain ⟨_, _, texts_eq, given⟩ := Run.bind_inv shows
    cases given
    exact ⟨before, .name, texts_eq⟩
  | none =>
    obtain ⟨text, between, text_eq, further⟩ := Run.bind_inv shows
    change (others.mapM e.textOf >>= fun texts => pure (Check.shorten text, texts)).start between = _ at further
    obtain ⟨_, _, texts_eq, given⟩ := Run.bind_inv further
    cases given
    exact ⟨between, .value text_eq (isShown_shorten text), texts_eq⟩

theorem tells_of_shows {c : BaseCheck} {name : Option String} {others : List Value} {subject : String}
    {texts : List String} {before after : Store}
    (shows : (s.shows e name others).start before = (.ok (subject, texts), after)) :
    s.Tells e c name others before ⟨Check.message subject c.verb texts, name⟩ after := by
  obtain ⟨between, itself, texts_eq⟩ := tellsItself_of_shows shows
  have areShown : List.Forall₂ IsShown texts (texts.map Check.shorten) := by
    rw [List.forall₂_map_right_iff, List.forall₂_same]
    exact fun text _ => isShown_shorten text
  have tells : s.Tells e c name others before _ after := .tells itself texts_eq areShown
  rw [List.isEmpty_map, List.map_map] at tells
  exact tells

end Subject

/-! ## Sequences of calls -/

namespace Subject

section

variable (s : Subject) (itemLimit depth : Nat)

/-- Calls the subject, once after the other. -/
def callAll (e : Engine) : List SubjectCall → Run Unit
  | [] => pure ()
  | call :: rest => do
    discard <| e.callMethod s.value call.method call.call
    callAll e rest

/-- The name that the subject has after the calls. -/
def latestName (name : Option String) : List SubjectCall → Option String
  | [] => name
  | .named _ _ given :: rest => latestName (some given) rest
  | .check _ _ :: rest => latestName name rest

/-- What the calls record, and the store that they leave: nothing for a name and for a check that holds, and one failure
    for a check that does not. -/
inductive Account : Option String → List SubjectCall → Store → List Failure → Store → Prop where
  | done {name : Option String} {store : Store} : Account name [] store [] store
  | named {name : Option String} {byKeyword : Bool} {place : Nat} {given : String} {rest : List SubjectCall}
    {store last : Store} {told : List Failure}
    (further : Account (some given) rest (s.naming (.text place given) store) told last) :
    Account name (.named byKeyword place given :: rest) store told last
  | holds {name : Option String} {byKeyword : Bool} {c : BaseCheck} {rest : List SubjectCall}
    {store between last : Store} {told : List Failure}
    (asked : (c.holds (Engine.nested itemLimit (depth + 2)) s.actual).start store = (.ok true, between))
    (further : Account name rest between told last) : Account name (.check byKeyword c :: rest) store told last
  | fails {name : Option String} {byKeyword : Bool} {c : BaseCheck} {rest : List SubjectCall}
    {store between after last : Store} {failure : Failure} {told : List Failure}
    (asked : (c.holds (Engine.nested itemLimit (depth + 2)) s.actual).start store = (.ok false, between))
    (tells : s.Tells (Engine.nested itemLimit (depth + 1)) c name (c.others store) between.placed failure after)
    (further : Account name rest (after.placed.recording failure) told last) :
    Account name (.check byKeyword c :: rest) store (failure :: told) last

/-- While the calls run, the code of the values that are compared and shown leaves the subject, the record and the
    classes alone. -/
def Undisturbed (name : Option String) : List SubjectCall → Store → Prop
  | [], _ => True
  | .named _ place given :: rest, store => Undisturbed (some given) rest (s.naming (.text place given) store)
  | .check _ c :: rest, store =>
    ∀ holds between, (c.holds (Engine.nested itemLimit (depth + 2)) s.actual).start store = (.ok holds, between) →
      s.LeftAlone store between ∧
      if holds then Undisturbed name rest between
      else ∀ subject texts after,
        (s.shows (Engine.nested itemLimit (depth + 1)) name (c.others store)).start between.placed =
          (.ok (subject, texts), after) →
        s.LeftAlone between.placed after ∧
        Undisturbed name rest (after.placed.recording ⟨Check.message subject c.verb texts, name⟩)

end

variable {s : Subject} {itemLimit depth : Nat} {name : Option String} {store last : Store}

private theorem callAll_cons {e : Engine} {call : SubjectCall} {rest : List SubjectCall}
    (ran : (s.callAll e (call :: rest)).start store = (.ok (), last)) : ∃ result between,
      (e.callMethod s.value call.method call.call).start store = (.ok result, between) ∧
      (s.callAll e rest).start between = (.ok (), last) := by
  rw [callAll, Run.discard_eq, bind_assoc] at ran
  exact Run.bind_inv ran

/-- Calls that end without a fault record what they are to record, behind what was recorded before, and the subject goes
    on to keep the same value. -/
theorem Stands.calls_end {calls : List SubjectCall} (stands : s.Stands name store)
    (undisturbed : s.Undisturbed itemLimit depth name calls store)
    (ran : (s.callAll (Engine.nested itemLimit (depth + 3)) calls).start store = (.ok (), last)) :
    ∃ told, s.Account itemLimit depth name calls store told last ∧ last.failures = store.failures ++ told ∧
      s.Stands (latestName name calls) last := by
  induction calls generalizing name store with
  | nil =>
    cases ran
    exact ⟨[], .done, (List.append_nil _).symm, stands⟩
  | cons call rest ih =>
    obtain ⟨result, next, called, followed⟩ := callAll_cons ran
    cases call with
    | named byKeyword place given =>
      have named := stands.named_ends itemLimit (depth + 2) byKeyword place given
      cases named.symm.trans called
      obtain ⟨told, account, recorded, onward⟩ := ih (stands.named place given) undisturbed followed
      exact ⟨told, .named account, recorded, onward⟩
    | check byKeyword c =>
      have asked : ∀ holds between, (c.holds (Engine.nested itemLimit (depth + 2)) s.actual).start store =
          (.ok holds, between) → s.LeftAlone store between := fun holds between evaluated =>
        (undisturbed holds between evaluated).1
      have shown : ∀ between shown after,
          (c.holds (Engine.nested itemLimit (depth + 2)) s.actual).start store = (.ok false, between) →
          (s.shows (Engine.nested itemLimit (depth + 1)) name (c.others store)).start between.placed =
            (.ok shown, after) → s.LeftAlone between.placed after := fun between shown after evaluated shows =>
        ((undisturbed false between evaluated).2 shown.1 shown.2 after shows).1
      rcases stands.check_ends itemLimit depth byKeyword c asked shown called with evaluated |
        ⟨between, subject, texts, after, evaluated, shows, rfl⟩
      · obtain ⟨alone, further⟩ := undisturbed true next evaluated
        obtain ⟨told, account, recorded, onward⟩ := ih (stands.onward alone) further followed
        exact ⟨told, .holds evaluated account, alone.failures ▸ recorded, onward⟩
      · obtain ⟨alone, further⟩ := undisturbed false between evaluated
        obtain ⟨alone', further⟩ := further subject texts after shows
        have stands' := ((stands.onward alone).recorded between.failures _).onward alone'
        have stands'' := stands'.recorded (after.failures ++ [⟨Check.message subject c.verb texts, name⟩])
          after.placed.nextPlace
        obtain ⟨told, account, recorded, onward⟩ := ih stands'' further followed
        refine ⟨_ :: told, .fails evaluated (tells_of_shows shows) account, ?_, onward⟩
        have before : after.failures = store.failures := alone'.failures.trans alone.failures
        rw [recorded, ← before]
        exact List.append_assoc _ [_] told

end Subject

/-! ## Data -/

/-- The values that a value directly holds. -/
def Value.parts : Value → List Value
  | .list _ items => items
  | .tuple _ items => items
  | .set _ items => items
  | .frozenset _ items => items
  | .dict _ entries => entries.flatMap fun (key, value) => [key, value]
  | .record _ _ fields => fields.map (·.2)
  | .view _ source => [source]
  | .member _ _ value _ => [value]
  | _ => []

/-- Neither the value nor anything inside is an object, which could have code of its own. -/
inductive Value.IsData : Value → Prop where
  | intro {value : Value} (noObject : ∀ id owner, value ≠ .reference id owner)
    (parts : ∀ part ∈ value.parts, part.IsData) : value.IsData

namespace Value.IsData

variable {value : Value}

theorem noObject (data : value.IsData) (id : Nat) (owner : ClassName) : value ≠ .reference id owner := by
  cases data with
  | intro noObject _ => exact noObject id owner

theorem inside (data : value.IsData) : ∀ part ∈ value.parts, part.IsData := by
  cases data with
  | intro _ parts => exact parts

theorem plain (data : value.IsData) : value.plain.IsData := by
  unfold Value.plain
  split
  · exact data.inside _ (List.mem_singleton_self _)
  · exact data

end Value.IsData

/-- The run leaves the store as it is, whether it gives a value or not. -/
def Run.Stays {α : Type} (run : Run α) (store : Store) : Prop := (run.start store).2 = store

namespace Run

variable {α β : Type} {run : Run α} {more : α → Run β} {store store' : Store}

theorem Stays.after {a : α} (stays : run.Stays store) (ran : run.start store = (.ok a, store')) : store' = store := by
  rw [Stays, ran] at stays
  exact stays

theorem stays_pure (a : α) : (pure a : Run α).Stays store := rfl

theorem stays_current (value : Value) : (current value).Stays store := rfl

theorem Stays.bind (first : run.Stays store) (further : ∀ a, (more a).Stays store) : (run >>= more).Stays store := by
  rw [Stays, start_bind]
  cases ran : run.start store with
  | mk outcome after =>
    rw [Stays, ran] at first
    subst first
    cases outcome with
    | ok a => exact further a
    | error fault => rfl

theorem stays_mapM {f : α → Run β} {items : List α} (each : ∀ item ∈ items, (f item).Stays store) :
    (items.mapM f).Stays store := by
  induction items with
  | nil => exact stays_pure []
  | cons item rest ih =>
    rw [List.mapM_cons]
    refine (each item List.mem_cons_self).bind fun first => ?_
    exact (ih fun later among => each later (List.mem_cons_of_mem item among)).bind fun others => stays_pure _

end Run

namespace Engine

variable (e : Engine) {value left right : Value} {store : Store}

private theorem hook?_data (data : value.IsData) (name : String) : hook? value name = pure none := by
  unfold hook?
  split
  · next id owner => exact absurd rfl (data.noObject id owner)
  · rfl

private theorem operatorHook?_data (data : value.IsData) (name : String) (other : Value) :
    e.operatorHook? value name other = pure none := by
  rw [operatorHook?, callHook?, hook?_data data]
  rfl

private theorem recordsEqual?_data (data : left.IsData) (right : Value) : recordsEqual? left right = pure none := by
  unfold recordsEqual?
  split
  · next id owner _ _ => exact absurd rfl (data.noObject id owner)
  · rfl

/-- Data is compared by what it holds. -/
theorem equality_data (data : left.IsData) (data' : right.IsData) :
    e.equality left right = pure (.bool (left.isEqual right)) := by
  rw [equality, operatorHook?_data e data, pure_bind]
  dsimp only
  rw [operatorHook?_data e data', pure_bind]
  dsimp only
  rw [recordsEqual?_data data, pure_bind]

private theorem isTrue_bool (unchanged : store.revised = []) (b : Bool) :
    (e.isTrue (.bool b)).start store = (.ok b, store) := by
  change (Run.current (.bool b) >>= fun value => pure value.isTrue).start store = _
  rw [Run.bind_ok (Run.current_start unchanged (.bool b))]
  rfl

theorem inequality_data (unchanged : store.revised = []) (data : left.IsData) (data' : right.IsData) :
    (e.inequality left right).start store = (.ok (.bool !left.isEqual right), store) := by
  rw [inequality, operatorHook?_data e data, pure_bind]
  dsimp only
  rw [operatorHook?_data e data', pure_bind]
  dsimp only
  rw [equality_data e data data', pure_bind, Run.bind_ok (isTrue_bool e unchanged _)]
  rfl

private theorem matchesItem_stays (unchanged : store.revised = []) (data : left.IsData) (data' : right.IsData) :
    (e.matchesItem left right).Stays store := by
  rw [matchesItem, equality_data e data data', pure_bind]
  split
  · exact Run.stays_pure _
  · rw [Run.Stays, isTrue_bool e unchanged]

private theorem anyMatches_stays {items : List Value} (unchanged : store.revised = []) (data : value.IsData)
    (each : ∀ item ∈ items, item.IsData) : (e.anyMatches value items).Stays store := by
  induction items with
  | nil => exact Run.stays_pure _
  | cons item rest ih =>
    rw [anyMatches]
    refine (matchesItem_stays e unchanged (each item List.mem_cons_self) data).bind fun found => ?_
    split
    · exact Run.stays_pure _
    · exact ih fun later among => each later (List.mem_cons_of_mem item among)

private theorem membership_stays (container item : Value) : (Run.membership container item).Stays store := by
  unfold Run.membership
  split <;> rfl

/-- Looking for data among data changes nothing. -/
theorem holds_stays {container item : Value} (unchanged : store.revised = []) (data : container.IsData)
    (data' : item.IsData) : (e.holds container item).Stays store := by
  unfold holds
  split
  · next id owner => exact absurd rfl (data.noObject id owner)
  · rw [Run.Stays, Run.bind_ok (Run.current_start unchanged container)]
    have inside := data.plain.inside
    split
    · next items shape =>
      rw [shape] at inside
      exact anyMatches_stays e unchanged data' inside
    · next items shape =>
      rw [shape] at inside
      exact anyMatches_stays e unchanged data' inside
    · next entries shape =>
      rw [shape] at inside
      refine anyMatches_stays e unchanged data' fun found among => ?_
      obtain ⟨entry, kept, rfl⟩ := List.mem_map.1 among
      refine (inside _ (List.mem_singleton_self _)).inside _ ?_
      exact List.mem_flatMap.2 ⟨entry, kept, by simp⟩
    · exact membership_stays _ _
    · split <;> rfl
    · rfl
    · exact membership_stays _ _

private theorem mapM_itself {α : Type} {f : α → Run α} {items : List α} (each : ∀ item ∈ items, f item = pure item) :
    items.mapM f = pure items := by
  induction items with
  | nil => exact List.mapM_nil
  | cons item rest ih =>
    rw [List.mapM_cons, each item List.mem_cons_self, pure_bind,
      ih fun later among => each later (List.mem_cons_of_mem item among), pure_bind]

/-- Data shows no texts of its own inside. -/
private theorem withTexts_data (data : value.IsData) (fuel : Nat) : e.withTexts fuel value = pure value := by
  induction fuel generalizing value with
  | zero => rw [withTexts]
  | succ fuel ih =>
    have each : ∀ part ∈ value.parts, e.withTexts fuel part = pure part := fun part among => ih (data.inside part among)
    cases value with
    | list _ items | tuple _ items | set _ items | frozenset _ items =>
      have each' : ∀ item ∈ items, e.withTexts fuel item = pure item := each
      rw [withTexts, mapM_itself each', pure_bind]
    | dict _ entries =>
      have each' : ∀ entry ∈ entries, (do return (← e.withTexts fuel entry.1, ← e.withTexts fuel entry.2)) =
          (pure entry : Run (Value × Value)) := by
        intro entry among
        rw [each entry.1 (List.mem_flatMap.2 ⟨entry, among, by simp⟩), pure_bind,
          each entry.2 (List.mem_flatMap.2 ⟨entry, among, by simp⟩), pure_bind]
      rw [withTexts, mapM_itself each', pure_bind]
    | record _ _ fields =>
      have each' : ∀ field ∈ fields, (do return (field.1, ← e.withTexts fuel field.2)) =
          (pure field : Run (String × Value)) := by
        intro field among
        rw [each field.2 (List.mem_map.2 ⟨field, among, rfl⟩), pure_bind]
      rw [withTexts, mapM_itself each', pure_bind]
    | reference id owner => exact absurd rfl (data.noObject id owner)
    | _ => rfl

/-- Showing data changes nothing. -/
theorem textOf_stays (unchanged : store.revised = []) (data : value.IsData) : (e.textOf value).Stays store := by
  have text : (objectText value).Stays store := by
    unfold objectText
    split
    · next id owner => exact absurd rfl (data.noObject id owner)
    · split <;> rfl
  rw [textOf, hookText?, callHook?, hook?_data data, pure_bind]
  dsimp only
  rw [pure_bind]
  dsimp only
  rw [pure_bind]
  dsimp only
  · rw [Run.Stays, Run.bind_ok (Run.current_start unchanged value), withTexts_data e data, pure_bind]
    exact text
  · exact data.noObject

end Engine

namespace Subject

variable {s : Subject} {itemLimit depth : Nat} {store : Store}

private theorem holds_stays (e : Engine) (unchanged : store.revised = []) (actual : s.actual.IsData) (c : BaseCheck)
    (given : ∀ word value, c.given? = some (word, value) → value.IsData) : (c.holds e s.actual).Stays store := by
  have current : ∀ value, (Run.current value).start store = (.ok value, store) := Run.current_start unchanged
  cases c with
  | isEqualTo expected =>
    rw [BaseCheck.holds, Run.Stays, Run.bind_ok (current expected), Run.bind_ok (current s.actual),
      Run.bind_ok (Engine.inequality_data e unchanged actual (given _ _ rfl)),
      Run.bind_ok (Engine.isTrue_bool e unchanged _)]
    rfl
  | isNotEqualTo unexpected =>
    rw [BaseCheck.holds, Run.Stays, Run.bind_ok (current unexpected), Run.bind_ok (current s.actual),
      Engine.equality_data e actual (given _ _ rfl), pure_bind, Run.bind_ok (Engine.isTrue_bool e unchanged _)]
    rfl
  | isNone => exact (Run.stays_current _).bind fun _ => Run.stays_pure _
  | isNotNone => exact (Run.stays_current _).bind fun _ => Run.stays_pure _
  | isInstanceOf kind =>
    have known : Run.world.start store = (.ok store.world, store) := rfl
    rw [BaseCheck.holds, Run.Stays, Run.bind_ok known, Run.bind_ok (current s.actual)]
    cases Check.isInstance? store.world s.actual kind <;> rfl
  | isIn container =>
    rw [BaseCheck.holds, Run.Stays, Run.bind_ok (current s.actual)]
    exact Engine.holds_stays e unchanged (given _ _ rfl) actual

private theorem shows_stays (e : Engine) (unchanged : store.revised = []) (actual : s.actual.IsData)
    (name : Option String) {others : List Value} (data : ∀ value ∈ others, value.IsData) :
    (s.shows e name others).Stays store := by
  have texts : (others.mapM e.textOf).Stays store := Run.stays_mapM fun value among =>
    Engine.textOf_stays e unchanged (data value among)
  cases name with
  | some name => exact texts.bind fun _ => Run.stays_pure _
  | none => exact (Engine.textOf_stays e unchanged actual).bind fun _ => texts.bind fun _ => Run.stays_pure _

private theorem mem_others (unchanged : store.revised = []) {c : BaseCheck} {value : Value}
    (among : value ∈ c.others store) : ∃ word, c.given? = some (word, value) := by
  have now : ∀ value, store.now value = value := fun value => by
    rw [Store.now, unchanged]
    rfl
  cases c with
  | isEqualTo expected =>
    rw [BaseCheck.others, now] at among
    obtain rfl := List.mem_singleton.1 among
    exact ⟨_, rfl⟩
  | isNotEqualTo unexpected =>
    rw [BaseCheck.others, now] at among
    obtain rfl := List.mem_singleton.1 among
    exact ⟨_, rfl⟩
  | isNone => cases among
  | isNotNone => cases among
  | isInstanceOf kind =>
    obtain rfl := List.mem_singleton.1 among
    exact ⟨_, rfl⟩
  | isIn container =>
    obtain rfl := List.mem_singleton.1 among
    exact ⟨_, rfl⟩

/-- Comparing and showing data disturbs no calls. -/
theorem undisturbed_of_data {calls : List SubjectCall} {name : Option String} (unchanged : store.revised = [])
    (actual : s.actual.IsData) (given : ∀ byKeyword c word value, .check byKeyword c ∈ calls →
      c.given? = some (word, value) → value.IsData) : s.Undisturbed itemLimit depth name calls store := by
  induction calls generalizing name store with
  | nil => trivial
  | cons call rest ih =>
    have later := fun byKeyword c word value among =>
      given byKeyword c word value (List.mem_cons_of_mem call among)
    cases call with
    | named byKeyword place name => exact ih unchanged later
    | check byKeyword c =>
      intro holds between asked
      have data := fun word value => given byKeyword c word value List.mem_cons_self
      obtain rfl := (holds_stays _ unchanged actual c data).after asked
      refine ⟨.refl s _, ?_⟩
      cases holds with
      | true => exact ih unchanged later
      | false =>
        intro subject texts after shows
        have others : ∀ value ∈ c.others between, value.IsData := by
          intro value among
          obtain ⟨word, found⟩ := mem_others unchanged among
          exact data word value found
        have unchanged' : between.placed.revised = [] := unchanged
        obtain rfl := (shows_stays _ unchanged' actual name others).after shows
        exact ⟨.refl s _, ih unchanged later⟩

end Subject

/-! ## All calls -/

section

variable {s : Subject} {itemLimit depth : Nat} {name : Option String} {calls : List SubjectCall} {store last : Store}

/-- When a subject is called any number of times without a fault, one failure is recorded for each check whose condition
    is false, in order, behind what was recorded before. The subject keeps the same value, and the latest name. All
    recorded failures are then raised at once, if there are any, and stay recorded. -/
theorem calls_recorded (stands : s.Stands name store) (undisturbed : s.Undisturbed itemLimit depth name calls store)
    (ran : (s.callAll (Engine.nested itemLimit (depth + 3)) calls).start store = (.ok (), last)) :
    (∃ told, s.Account itemLimit depth name calls store told last ∧ last.failures = store.failures ++ told) ∧
    s.Stands (Subject.latestName name calls) last ∧
    ((Engine.nested itemLimit (depth + 3)).callMethod FailurePolicy.collect.reporter "raise_if_failed" {}).start last =
      (if last.failures = [] then .ok .none
        else .error (.failedCheck
          { message := toString last.failures.length ++ " check(s) failed:\n" ++
              "\n".intercalate (last.failures.map (·.message))
            subjectName := none }), last) := by
  obtain ⟨told, account, recorded, onward⟩ := stands.calls_end undisturbed ran
  exact ⟨⟨told, account, recorded⟩, onward, onward.raises itemLimit (depth + 2)⟩

end

/-- A class of subjects. -/
def shopSubject : ClassName := ⟨"shop", "PriceSubject"⟩

/-- Reports whatever a subject is compared to, and holds it equal. -/
def comparingFunction : Function where
  module := "shop"
  name := "__eq__"
  parameters := [{ name := "self" }, { name := "other" }]
  body := .script [⟨none, .report "compared" []⟩, ⟨none, .give (.constant (.bool true))⟩]

/-- The subjects of the class have code of their own to be compared. -/
def comparingClass : ClassInfo where
  name := shopSubject
  bases := [subjectClass]
  order := [shopSubject, subjectClass]
  members := [("__eq__", .function .onObject false comparingFunction)]

/-- The class with what it reports to, both without the class of all objects above them. -/
def comparingWorld : World where
  modules := ["shop"]
  classes :=
    [comparingClass,
     { name := collectingClass, order := [collectingClass]
       members :=
         [("fail", .function .onObject false reportFunction),
          ("raise_if_failed", .function .onObject false raiseFunction)] }]

/-- A subject that checks a number. -/
def shopPrice : Subject := ⟨1, shopSubject, .int 0 7⟩

/-- The subject is there, and nothing was checked yet. -/
def comparingStore : Store where
  world := comparingWorld
  policy := .collect
  entities := #[.object [],
    .object [("failure_strategy", FailurePolicy.collect.reporter), ("_actual", .int 0 7), ("_name", .none)]]
  nextPlace := 1

/-- Neither class has such a member. -/
private theorem comparing_lacks : ∀ owner ∈ [shopSubject, collectingClass],
    ∀ name ∈ ["__getattribute__", "__setattr__", "failure_strategy", "_actual", "_name"],
      comparingWorld.lookup owner name = none := by
  decide +kernel

private theorem comparing_searches {owner : ClassName} (among : owner ∈ [shopSubject, collectingClass])
    (ordinary : owner ≠ Value.functionClass) : SearchesPlainly comparingWorld owner := by
  refine ⟨ordinary, fun definer member found => ?_⟩
  rw [comparing_lacks owner among _ (by simp)] at found
  cases found

private theorem comparing_methods : ∀ entry ∈ Library.subjectMembers,
    comparingWorld.lookup shopSubject entry.1 = some (subjectClass, entry.2) := by
  intro entry among
  have distinct : (Library.subjectMembers.map (·.1)).Pairwise (· ≠ ·) := by decide
  have found : Library.subject.member? entry.1 = some entry.2 := lookup_entry distinct among
  have differs : entry.1 ≠ "__eq__" := by
    have all : ∀ entry ∈ Library.subjectMembers, entry.1 ≠ "__eq__" := by decide
    exact all entry among
  have known : comparingWorld.class? subjectClass = some Library.subject := rfl
  have known' : comparingWorld.class? shopSubject = some comparingClass := rfl
  have lacks : comparingClass.member? entry.1 = none := by
    rw [ClassInfo.member?, comparingClass, List.lookup_cons, beq_eq_false_iff_ne.2 differs]
    rfl
  rw [World.lookup, World.orderOf, known']
  change comparingWorld.lookupIn entry.1 [shopSubject, subjectClass] = _
  rw [World.lookupIn, known', Option.bind_some, lacks]
  dsimp only
  rw [World.lookupIn, known, Option.bind_some, found]

private theorem comparing_stands : shopPrice.Stands none comparingStore where
  collects := rfl
  subjects :=
    { searches := comparing_searches (by decide) (by decide)
      sets := by
        intro definer member found
        have lacks := comparing_lacks shopSubject (by simp) "__setattr__" (by simp)
        cases lacks.symm.trans found
      methods := fun name isFinal f among _ => ⟨subjectClass, isFinal, comparing_methods _ among⟩
      attributes := fun name among => comparing_lacks shopSubject (by simp) name (by grind)
      noRecord := by decide +kernel }
  reporters :=
    { searches := comparing_searches (by decide) (by decide)
      fails := ⟨false, rfl⟩
      raises := ⟨false, rfl⟩ }
  object := ⟨_, rfl⟩
  strategy := rfl
  actual := rfl
  name := ⟨.none, rfl, .none⟩
  unhidden := by decide
  distinct := by decide
  reporter := by decide

/-- A run that is known to end without a fault. -/
private theorem ends_of_isOk (run : Run Unit) (store : Store) (isOk : (run.start store).1.isOk = true) :
    ∃ last, run.start store = (.ok (), last) ∧ last = (run.start store).2 := by
  cases ran : run.start store with
  | mk outcome last =>
    rw [ran] at isOk
    cases outcome with
    | ok _ => exact ⟨last, rfl, rfl⟩
    | error fault => cases isOk

/-- Checks of the subject under two names, of which the first is false each time. -/
def shopCalls : List SubjectCall :=
  [.named false 0 "price", .check false .isNone, .check true (.isEqualTo (.int 0 7)),
    .named true 0 "cost", .check false .isNone, .check false (.isIn (.list 2 [.int 0 7]))]

theorem shopCalls_recorded : shopPrice.Stands none comparingStore ∧
    shopPrice.Undisturbed 10 6 none shopCalls comparingStore ∧
    ∃ last, (shopPrice.callAll (Engine.nested 10 9) shopCalls).start comparingStore = (.ok (), last) ∧
      (∃ told, shopPrice.Account 10 6 none shopCalls comparingStore told last ∧ last.failures = [] ++ told) ∧
      shopPrice.Stands (some "cost") last ∧
      ((Engine.nested 10 9).callMethod FailurePolicy.collect.reporter "raise_if_failed" {}).start last =
        (if last.failures = [] then .ok .none
          else .error (.failedCheck
            { message := toString last.failures.length ++ " check(s) failed:\n" ++
                "\n".intercalate (last.failures.map (·.message))
              subjectName := none }), last) ∧
      last.failures =
        [⟨"Not true that <price> is None", some "price"⟩, ⟨"Not true that <cost> is None", some "cost"⟩] := by
  have number : ∀ place n, (Value.int place n).IsData := fun place n => ⟨nofun, nofun⟩
  have undisturbed : shopPrice.Undisturbed 10 6 none shopCalls comparingStore := by
    refine Subject.undisturbed_of_data rfl (number 0 7) ?_
    intro byKeyword c word value among given
    simp only [shopCalls, List.mem_cons, SubjectCall.check.injEq, List.not_mem_nil, or_false, reduceCtorEq, false_or]
      at among
    rcases among with ⟨_, rfl⟩ | ⟨_, rfl⟩ | ⟨_, rfl⟩ | ⟨_, rfl⟩
    · cases given
    · cases given
      exact number 0 7
    · cases given
    · cases given
      exact ⟨nofun, List.forall_mem_singleton.2 (number 0 7)⟩
  obtain ⟨last, ran, isLast⟩ :=
    ends_of_isOk (shopPrice.callAll (Engine.nested 10 9) shopCalls) comparingStore (by decide +kernel)
  obtain ⟨account, onward, raises⟩ := calls_recorded comparing_stands undisturbed ran
  refine ⟨comparing_stands, undisturbed, last, ran, account, onward, raises, ?_⟩
  rw [isLast]
  decide +kernel

/-- The subject is compared to itself. -/
def comparingCalls : List SubjectCall := [.named false 0 "price", .check false (.isEqualTo shopPrice.value)]

/-- A comparison that records a failure is not accounted for by the checks that are false. -/
theorem comparing_unaccounted : shopPrice.Stands none comparingStore ∧
    ∃ last, (shopPrice.callAll (Engine.nested 10 9) comparingCalls).start comparingStore = (.ok (), last) ∧
      last.failures = [⟨"compared", none⟩] ∧
      ¬ ∃ told, shopPrice.Account 10 6 none comparingCalls comparingStore told last ∧ last.failures = [] ++ told := by
  obtain ⟨last, ran, isLast⟩ :=
    ends_of_isOk (shopPrice.callAll (Engine.nested 10 9) comparingCalls) comparingStore (by decide +kernel)
  have recorded : last.failures = [⟨"compared", none⟩] := by
    rw [isLast]
    decide +kernel
  refine ⟨comparing_stands, last, ran, recorded, ?_⟩
  rintro ⟨told, account, same⟩
  cases account with
  | named further =>
    cases further with
    | holds _ further =>
      cases further
      rw [recorded] at same
      cases same
    | fails asked =>
      have equal : (((BaseCheck.isEqualTo shopPrice.value).holds (Engine.nested 10 8) shopPrice.actual).start
          (shopPrice.naming (.text 0 "price") comparingStore)).1.toOption = some true := by
        decide +kernel
      rw [asked] at equal
      cases equal

end EachSubject
