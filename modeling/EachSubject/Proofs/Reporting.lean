import EachSubject.Proofs.Attributes

/-!
# Reporting to one reporter or the other

A failure that is reported is recorded, or it ends the run. Two runs that take the same steps, one with each of these
reporters, stay together until the first failure: there the second one ends with this very failure, while the first one
may go on, and records whatever else it reports behind it.
-/

namespace EachSubject

/-! ## Reporting -/

/-- The function that reports a failure. -/
def reportFunction : Function where
  module := failureClass.module
  name := "fail"
  parameters := [Library.selfParameter, { name := "failure" }]
  body := .ofReporter .fail

/-- What failures are reported to has the function for it. -/
def Store.CanReport (store : Store) : Prop :=
  HasMethod store.world store.policy.reporterClass "fail" store.policy.reporterClass reportFunction

/-- The method that failures are reported by. -/
def FailurePolicy.report (policy : FailurePolicy) : Value :=
  .bound policy.reporter (.function policy.reporterClass "fail")

/-- The call that reports a failure. -/
def Failure.reported (failure : Failure) (place : Nat) : Call := { positional := [failure.record place] }

/-- The store with one more failure recorded. -/
def Store.recording (store : Store) (failure : Failure) : Store :=
  { store with failures := store.failures ++ [failure] }

theorem Failure.ofRecord?_record (failure : Failure) (place : Nat) :
    Failure.ofRecord? (failure.record place) = some failure := by
  obtain ⟨message, _ | name⟩ := failure <;> rfl

namespace Engine

variable {store : Store} (itemLimit depth : Nat) (failure : Failure) (place : Nat)

private theorem run_report (reporter : Value) :
    (nested itemLimit (depth + 1)).run reportFunction (withReceiver reporter (failure.reported place)) = (do
      Run.reportFailure failure
      return .none) := by
  have bound : (withReceiver reporter (failure.reported place)).bind? reportFunction.parameters =
      some [("self", .one reporter), ("failure", .one (failure.record place))] := rfl
  have body : (nested itemLimit (depth + 1)).execute reportFunction
      [("self", .one reporter), ("failure", .one (failure.record place))] = (do
        let result ← runReporterFunction .fail [("self", .one reporter), ("failure", .one (failure.record place))]
        return { result }) := rfl
  have received : received [("self", .one reporter), ("failure", .one (failure.record place))] "failure" =
      pure (failure.record place) := rfl
  rw [run, bound]
  simp only [invoke, body, runReporterFunction, received, Failure.ofRecord?_record, Run.orFault, pure_bind, bind_assoc]
  rfl

/-- A reported failure is recorded. -/
theorem report_collect (can : store.CanReport) (collects : store.policy = .collect) :
    ((nested itemLimit (depth + 1)).call FailurePolicy.collect.report (failure.reported place)).start store =
      (.ok .none, store.recording failure) := by
  rw [Store.CanReport, collects] at can
  have asked : (get : Run Store).start store = (.ok store, store) := rfl
  rw [FailurePolicy.report, call_bound can, run_report, Run.reportFailure, bind_assoc, Run.bind_ok asked, collects]
  rfl

/-- A reported failure ends the run. -/
theorem report_raise (can : store.CanReport) (raises : store.policy = .raise) :
    ((nested itemLimit (depth + 1)).call FailurePolicy.raise.report (failure.reported place)).start store =
      (.error (.failedCheck failure), store) := by
  rw [Store.CanReport, raises] at can
  have asked : (get : Run Store).start store = (.ok store, store) := rfl
  rw [FailurePolicy.report, call_bound can, run_report, Run.reportFailure, bind_assoc, Run.bind_ok asked, raises]
  rfl

end Engine

/-! ## Runs with the two reporters -/

/-- Where two runs stand of which one records failures and one ends with the first: what holds of the store of the
    first one throughout, and how their stores are related as long as nothing was reported. -/
structure Standing where
  collecting : Store → Prop
  related : Store → Store → Prop
  collects : ∀ s, collecting s → s.policy = .collect
  raises : ∀ s t, related s t → t.policy = .raise
  left : ∀ s t, related s t → collecting s
  unreported : ∀ s t, related s t → s.failures = []

/-- The two runs only get there if something holds. -/
def Standing.when (standing : Standing) (condition : Prop) : Standing where
  collecting := fun s => condition ∧ standing.collecting s
  related := fun s t => condition ∧ standing.related s t
  collects := fun s holds => standing.collects s holds.2
  raises := fun s t related => standing.raises s t related.2
  left := fun s t related => ⟨related.1, standing.left s t related.2⟩
  unreported := fun s t related => standing.unreported s t related.2

/-- The same value came out of both runs, which stand accordingly. -/
def Standing.same {α : Type} (standing : α → Standing) (a b : α) : Standing := (standing a).when (a = b)

section

variable {α β : Type}

/-- The two runs report nothing, and end alike. -/
structure Silent (before : Standing) (after : α → β → Standing) (left : Run α) (right : Run β) : Prop where
  failures : ∀ s, before.collecting s → (left.start s).2.failures = s.failures
  collecting : ∀ s a s', before.collecting s → left.start s = (.ok a, s') → ∃ b, (after a b).collecting s'
  result : ∀ s t a s', before.related s t → left.start s = (.ok a, s') →
    ∃ b t', right.start t = (.ok b, t') ∧ (after a b).related s' t'
  fault : ∀ s t fault s', before.related s t → left.start s = (.error fault, s') →
    ∃ t', right.start t = (.error fault, t')

/-- Steps that give a value each and record nothing. -/
theorem Silent.of_ok {before : Standing} {after : α → β → Standing} {left : Run α} {right : Run β} {a : α} {b : β}
    (ran : ∀ s, before.collecting s →
      ∃ s', left.start s = (.ok a, s') ∧ s'.failures = s.failures ∧ (after a b).collecting s')
    (ran' : ∀ s t, before.related s t →
      ∃ s' t', left.start s = (.ok a, s') ∧ right.start t = (.ok b, t') ∧ (after a b).related s' t') :
    Silent before after left right where
  failures := by
    intro s holds
    obtain ⟨s', gives, unchanged, _⟩ := ran s holds
    rw [gives, unchanged]
  collecting := by
    intro s _ _ holds given
    obtain ⟨s', gives, _, onward⟩ := ran s holds
    cases gives.symm.trans given
    exact ⟨b, onward⟩
  result := by
    intro s t _ _ related given
    obtain ⟨s', t', gives, gives', onward⟩ := ran' s t related
    cases gives.symm.trans given
    exact ⟨b, t', gives', onward⟩
  fault := by
    intro s t _ _ related given
    obtain ⟨_, _, gives, _⟩ := ran' s t related
    cases gives.symm.trans given

/-- Where the runs do not get, they may do anything. -/
theorem Silent.unreached {before : Standing} {after : α → β → Standing} {left : Run α} {right : Run β}
    (never : ∀ s, ¬ before.collecting s) : Silent before after left right where
  failures := fun s holds => absurd holds (never s)
  collecting := fun s _ _ holds => absurd holds (never s)
  result := fun s t _ _ related => absurd (before.left s t related) (never s)
  fault := fun s t _ _ related => absurd (before.left s t related) (never s)

end

open Engine in
/-- The two runs take the same steps: each of them reports nothing, or is a call of the method that failures are
    reported by, with the same failure. No step catches what another one raises. -/
inductive InStep : {α β : Type} → Standing → (α → β → Standing) → Run α → Run β → Prop where
  | silent {α β : Type} {before : Standing} {after : α → β → Standing} {left : Run α} {right : Run β}
    (silent : Silent before after left right) : InStep before after left right
  | report {before after : Standing} (itemLimit depth : Nat) (failure : Failure) (place place' : Nat)
    (can : ∀ s, before.collecting s → s.CanReport) (can' : ∀ s t, before.related s t → t.CanReport)
    (recorded : ∀ s, before.collecting s → after.collecting (s.recording failure)) :
    InStep before (fun _ _ => after)
      ((nested itemLimit (depth + 1)).call FailurePolicy.collect.report (failure.reported place))
      ((nested itemLimit (depth + 1)).call FailurePolicy.raise.report (failure.reported place'))
  | bind {α β γ δ : Type} {before : Standing} {between : α → β → Standing} {after : γ → δ → Standing}
    {left : Run α} {right : Run β} {more : α → Run γ} {more' : β → Run δ} (first : InStep before between left right)
    (further : ∀ a b, InStep (between a b) after (more a) (more' b)) :
    InStep before after (left >>= more) (right >>= more')

/-- How a run that records failures compares to one that ends with the first: nothing was reported and they end alike,
    or the failure that was recorded first ended the second one. -/
inductive Verdict {α β : Type} (after : α → β → Standing) : Except Fault α × Store → Except Fault β × Store → Prop where
  | result {a : α} {b : β} {s t : Store} (related : (after a b).related s t) : Verdict after (.ok a, s) (.ok b, t)
  | fault {fault : Fault} {s t : Store} (unreported : s.failures = []) :
    Verdict after (.error fault, s) (.error fault, t)
  | reported {outcome : Except Fault α} {failure : Failure} {more : List Failure} {s t : Store}
    (first : s.failures = failure :: more) : Verdict after (outcome, s) (.error (.failedCheck failure), t)

namespace InStep

variable {α β : Type} {before : Standing} {after : α → β → Standing} {left : Run α} {right : Run β}

/-- Whatever was recorded stays recorded, and the first run goes on as it may. -/
theorem collecting (inStep : InStep before after left right) : ∀ s, before.collecting s →
    s.failures <+: (left.start s).2.failures ∧
      ∀ a s', left.start s = (.ok a, s') → ∃ b, (after a b).collecting s' := by
  induction inStep with
  | silent silent =>
    intro s holds
    exact ⟨(silent.failures s holds).symm ▸ List.prefix_rfl, fun a s' ran => silent.collecting s a s' holds ran⟩
  | @report before after itemLimit depth failure place _ can _ recorded =>
    intro s holds
    rw [Engine.report_collect itemLimit depth failure place (can s holds) (before.collects s holds)]
    refine ⟨List.prefix_append _ _, fun a s' ran => ?_⟩
    cases ran
    exact ⟨.none, recorded s holds⟩
  | @bind _ _ _ _ before between after left right more more' first further ih ih' =>
    intro s holds
    obtain ⟨kept, holds'⟩ := ih s holds
    cases ran : left.start s with
    | mk outcome s' =>
      rw [ran] at kept
      cases outcome with
      | error fault =>
        rw [Run.bind_error ran]
        exact ⟨kept, nofun⟩
      | ok a =>
        obtain ⟨b, holds'⟩ := holds' a s' ran
        obtain ⟨kept', result⟩ := ih' a b s' holds'
        rw [Run.bind_ok ran]
        exact ⟨kept.trans kept', result⟩

/-- The first failure that is recorded is the one that ends the second run. -/
theorem verdict (inStep : InStep before after left right) : ∀ s t, before.related s t →
    Verdict after (left.start s) (right.start t) := by
  induction inStep with
  | @silent _ _ before _ left right silent =>
    intro s t related
    have unreported := (silent.failures s (before.left s t related)).trans (before.unreported s t related)
    cases ran : left.start s with
    | mk outcome s' =>
      rw [ran] at unreported
      cases outcome with
      | ok a =>
        obtain ⟨b, t', ran', related'⟩ := silent.result s t a s' related ran
        rw [ran']
        exact .result related'
      | error fault =>
        obtain ⟨t', ran'⟩ := silent.fault s t fault s' related ran
        rw [ran']
        exact .fault unreported
  | @report before after itemLimit depth failure place place' can can' recorded =>
    intro s t related
    have holds := before.left s t related
    rw [Engine.report_collect itemLimit depth failure place (can s holds) (before.collects s holds),
      Engine.report_raise itemLimit depth failure place' (can' s t related) (before.raises s t related)]
    have only : (s.recording failure).failures = [failure] := by
      rw [Store.recording, before.unreported s t related]
      rfl
    exact .reported only
  | @bind _ _ _ _ before between after left right more more' first further ih ih' =>
    intro s t related
    have compared := ih s t related
    have onward := first.collecting s (before.left s t related)
    cases ran : left.start s with
    | mk outcome s' =>
      cases ran' : right.start t with
      | mk outcome' t' =>
        rw [ran, ran'] at compared
        rw [ran] at onward
        cases compared with
        | @result a b _ _ related' =>
          rw [Run.bind_ok ran, Run.bind_ok ran']
          exact ih' a b s' t' related'
        | fault unreported =>
          rw [Run.bind_error ran, Run.bind_error ran']
          exact .fault unreported
        | @reported _ failure _ _ _ isFirst =>
          rw [Run.bind_error ran']
          cases outcome with
          | error fault =>
            rw [Run.bind_error ran]
            exact .reported isFirst
          | ok a =>
            obtain ⟨b, holds⟩ := onward.2 a s' rfl
            obtain ⟨⟨later, kept⟩, _⟩ := (further a b).collecting s' holds
            rw [Run.bind_ok ran]
            rw [isFirst] at kept
            exact .reported kept.symm

/-! ### Steps that follow one another -/

theorem weaken {before' : Standing} (inStep : InStep before after left right)
    (collecting : ∀ s, before'.collecting s → before.collecting s)
    (related : ∀ s t, before'.related s t → before.related s t) : InStep before' after left right := by
  induction inStep with
  | silent silent =>
    exact .silent
      { failures := fun s holds => silent.failures s (collecting s holds)
        collecting := fun s a s' holds => silent.collecting s a s' (collecting s holds)
        result := fun s t a s' relates => silent.result s t a s' (related s t relates)
        fault := fun s t fault s' relates => silent.fault s t fault s' (related s t relates) }
  | report itemLimit depth failure place place' can can' recorded =>
    exact .report itemLimit depth failure place place' (fun s holds => can s (collecting s holds))
      (fun s t relates => can' s t (related s t relates)) fun s holds => recorded s (collecting s holds)
  | bind _ further ih => exact .bind (ih collecting related) further

theorem unreached (never : ∀ s, ¬ before.collecting s) : InStep before after left right := .silent (.unreached never)

variable {γ δ : Type} {more : α → Run γ} {more' : β → Run δ} {last : γ → δ → Standing}

/-- After a step that gives both runs the same, they go on with that. -/
theorem bind_same {right : Run α} {between : α → Standing} {more' : α → Run δ}
    (first : InStep before (Standing.same between) left right)
    (further : ∀ a, InStep (between a) last (more a) (more' a)) :
    InStep before last (left >>= more) (right >>= more') := by
  refine .bind first fun a b => ?_
  by_cases same : a = b
  · subst same
    exact (further a).weaken (fun _ holds => holds.2) fun _ _ related => related.2
  · exact unreached fun _ holds => same holds.1

/-- After a step that gives both runs the same, of a kind, only this kind has to be gone on with. -/
theorem bind_when {right : Run α} {between : Standing} {condition : α → Prop} {more' : α → Run δ}
    (first : InStep before (Standing.same fun a => between.when (condition a)) left right)
    (further : ∀ a, condition a → InStep between last (more a) (more' a)) :
    InStep before last (left >>= more) (right >>= more') := by
  refine .bind_same first fun a => ?_
  by_cases holds : condition a
  · exact (further a holds).weaken (fun _ holds => holds.2) fun _ _ related => related.2
  · exact unreached fun _ impossible => holds impossible.1

/-- After steps that find a value each and change nothing, the runs go on with these. -/
theorem bind_found {a : α} {b : β} (found : ∀ s, before.collecting s → left.start s = (.ok a, s))
    (found' : ∀ s t, before.related s t → right.start t = (.ok b, t))
    (further : InStep before last (more a) (more' b)) : InStep before last (left >>= more) (right >>= more') := by
  have first : InStep before (fun x y => before.when (x = a ∧ y = b)) left right :=
    .silent (.of_ok (fun s holds => ⟨s, found s holds, rfl, ⟨rfl, rfl⟩, holds⟩) fun s t related =>
      ⟨s, t, found s (before.left s t related), found' s t related, ⟨rfl, rfl⟩, related⟩)
  refine .bind first fun x y => ?_
  by_cases same : x = a ∧ y = b
  · obtain ⟨rfl, rfl⟩ := same
    exact further.weaken (fun _ holds => holds.2) fun _ _ related => related.2
  · exact unreached fun _ holds => same holds.1

theorem step_pure {a : α} {b : β} (collecting : ∀ s, before.collecting s → (after a b).collecting s)
    (related : ∀ s t, before.related s t → (after a b).related s t) : InStep before after (pure a) (pure b) :=
  .silent (.of_ok (fun s holds => ⟨s, rfl, rfl, collecting s holds⟩) fun s t relates =>
    ⟨s, t, rfl, rfl, related s t relates⟩)

end InStep

/-! ### The same run twice -/

/-- A run takes the same steps with either reporter, and gives the same. -/
def Standing.Agrees {α : Type} (before : Standing) (after : α → Standing) (run : Run α) : Prop :=
  InStep before (Standing.same after) run run

namespace Standing

variable {α β : Type} {standing : Standing} {run : Run α} {more : α → Run β}

theorem Agrees.bind {between : α → Standing} {after : β → Standing} (first : standing.Agrees between run)
    (further : ∀ a, (between a).Agrees after (more a)) : standing.Agrees after (run >>= more) :=
  InStep.bind_same first further

theorem agrees_pure (a : α) : standing.Agrees (fun _ => standing) (pure a) :=
  .step_pure (fun _ holds => ⟨rfl, holds⟩) fun _ _ related => ⟨rfl, related⟩

theorem Agrees.bind_when {between : Standing} {condition : α → Prop} {after : β → Standing}
    (first : standing.Agrees (fun a => between.when (condition a)) run)
    (further : ∀ a, condition a → between.Agrees after (more a)) : standing.Agrees after (run >>= more) :=
  InStep.bind_when first further

theorem agrees_throw {after : α → Standing} (fault : Fault) : standing.Agrees after (throw fault : Run α) := by
  refine .silent ⟨fun _ _ => rfl, fun _ _ _ _ ran => ?_, fun _ _ _ _ _ ran => ?_, fun s t _ _ _ ran => ?_⟩
  · cases ran
  · cases ran
  · cases ran
    exact ⟨t, rfl⟩

theorem agrees_mapM {f : α → Run β} : ∀ {values : List α},
    (∀ value ∈ values, standing.Agrees (fun _ => standing) (f value)) →
      standing.Agrees (fun _ => standing) (values.mapM f)
  | [], _ => agrees_pure []
  | value :: rest, each => by
    rw [List.mapM_cons]
    refine .bind (each value List.mem_cons_self) fun first => ?_
    exact .bind (agrees_mapM fun later among => each later (List.mem_cons_of_mem value among)) fun others =>
      agrees_pure (first :: others)

end Standing

/-! ## Checks -/

/-- What failures are reported to can be used for that, and reporting leads nowhere else. -/
structure Standing.Reports (standing : Standing) : Prop where
  can : ∀ s, standing.collecting s → s.CanReport
  can' : ∀ s t, standing.related s t → t.CanReport
  plainly : ∀ s, standing.collecting s → SearchesPlainly s.world collectingClass
  plainly' : ∀ s t, standing.related s t → SearchesPlainly t.world raisingClass
  own : ∀ s, standing.collecting s → (s.attributesOf reporterId).lookup "fail" = none
  own' : ∀ s t, standing.related s t → (t.attributesOf reporterId).lookup "fail" = none
  placed : InStep standing (fun _ _ => standing) Run.freshPlace Run.freshPlace
  recorded : ∀ s failure, standing.collecting s → standing.collecting (s.recording failure)

namespace Engine

/-- The subject reports to either reporter, and what it shows of itself and of other values is shown by steps that are
    the same in both runs. -/
structure Checked (e : Engine) (standing : Standing) (subject : Value) (shown : Value → Prop) : Prop where
  strategy : ∀ s, standing.collecting s →
    (e.getAttribute subject "failure_strategy").start s = (.ok FailurePolicy.collect.reporter, s)
  strategy' : ∀ s t, standing.related s t →
    (e.getAttribute subject "failure_strategy").start t = (.ok FailurePolicy.raise.reporter, t)
  name : standing.Agrees (fun value => standing.when (shown value)) (e.getAttribute subject "_name")
  actual : standing.Agrees (fun value => standing.when (shown value)) (e.getAttribute subject "_actual")
  texts : ∀ value, shown value → standing.Agrees (fun _ => standing) (e.textOf value)
  formats : ∀ value, shown value → standing.Agrees (fun _ => standing) (e.format value "")

variable {itemLimit depth : Nat} {standing : Standing}

/-- Reporting a failure is a step of either run. -/
theorem reportTo_inStep (reports : standing.Reports) {failure : Run Failure}
    (made : standing.Agrees (fun _ => standing) failure) : InStep standing (Standing.same fun _ => standing)
      ((nested itemLimit (depth + 1)).reportTo FailurePolicy.collect.reporter failure)
      ((nested itemLimit (depth + 1)).reportTo FailurePolicy.raise.reporter failure) := by
  have found : ∀ s, standing.collecting s →
      ((nested itemLimit (depth + 1)).getAttribute FailurePolicy.collect.reporter "fail").start s =
        (.ok FailurePolicy.collect.report, s) := by
    intro s holds
    have can := reports.can s holds
    rw [Store.CanReport, standing.collects s holds] at can
    exact getAttribute_method (reports.plainly s holds) can (reports.own s holds)
  have found' : ∀ s t, standing.related s t →
      ((nested itemLimit (depth + 1)).getAttribute FailurePolicy.raise.reporter "fail").start t =
        (.ok FailurePolicy.raise.report, t) := by
    intro s t related
    have can := reports.can' s t related
    rw [Store.CanReport, standing.raises s t related] at can
    exact getAttribute_method (reports.plainly' s t related) can (reports.own' s t related)
  refine .bind_found found found' (.bind_same made fun failure => .bind reports.placed fun place place' => ?_)
  rw [Run.discard_eq, Run.discard_eq]
  have report := InStep.report itemLimit depth failure place place' reports.can reports.can'
    fun s => reports.recorded s failure
  exact report.bind fun _ _ => .step_pure (fun _ holds => ⟨rfl, holds⟩) fun _ _ related => ⟨rfl, related⟩

section

variable {subject verb : Value} {others : List Value} {shown : Value → Prop}

/-- Once it is known how the subject is shown, what is left of a failed check takes the same steps. -/
private theorem reportShown_agrees (reports : standing.Reports)
    (checked : Checked (nested itemLimit (depth + 1)) standing subject shown)
    (isShown : shown verb) (areShown : ∀ other ∈ others, shown other) (text : String) :
    standing.Agrees (fun _ => standing) (do
      let verb ← (nested itemLimit (depth + 1)).format verb ""
      let others ← others.mapM (nested itemLimit (depth + 1)).textOf
      let strategy ← (nested itemLimit (depth + 1)).getAttribute subject "failure_strategy"
      (nested itemLimit (depth + 1)).reportTo strategy do
        match recordedName (← (nested itemLimit (depth + 1)).getAttribute subject "_name") with
        | .valid subjectName => return ⟨Check.message text verb others, subjectName⟩
        | .invalid problems => throw (.invalidFailure problems)) := by
  refine .bind (checked.formats verb isShown) fun verb => ?_
  refine .bind (Standing.agrees_mapM fun other among => checked.texts other (areShown other among)) fun others => ?_
  refine .bind_found checked.strategy checked.strategy' (reportTo_inStep reports ?_)
  refine .bind_when checked.name fun name _ => ?_
  split
  · exact Standing.agrees_pure _
  · exact Standing.agrees_throw _

/-- The base function for failed checks takes the same steps with either reporter if that holds for what it shows. -/
theorem reportCheck_agrees (reports : standing.Reports)
    (checked : Checked (nested itemLimit (depth + 1)) standing subject shown)
    (isShown : shown verb) (areShown : ∀ other ∈ others, shown other) :
    standing.Agrees (fun _ => standing) ((nested itemLimit (depth + 1)).reportCheck subject verb others) := by
  have reported := reportShown_agrees reports checked isShown areShown
  rw [reportCheck]
  refine .bind_when checked.name fun name isShown => ?_
  dsimp only
  split
  · refine .bind_when checked.actual fun actual isShown => ?_
    exact .bind (checked.texts actual isShown) fun text => reported (Check.shorten text)
  · exact .bind (checked.formats name isShown) reported

end

end Engine

end EachSubject
