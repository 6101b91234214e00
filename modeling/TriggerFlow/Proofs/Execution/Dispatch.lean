import TriggerFlow.Memory
import TriggerFlow.Proofs.Execution.Batch
import TriggerFlow.Proofs.Rule.Breakdown
import TriggerFlow.Proofs.Value.Limits

/-! # Dispatch

A batch gives the outcomes of the eligible workflows in the order of the feed.  The outcome of each
depends on the workflow and the context alone: neither on the other workflows nor on how many of them
run at a time.  Two kinds of batches are lost with their outcomes: those in which the sandbox fails with
a fault that has no text, and those whose business object has an id that cannot be written
(`execute_dispatches`).  What the engine asks of the sandbox and of the recorder is seen in the calls of
services that are traced. -/

namespace TriggerFlow

/-- What an engine asks of its sandbox or of its recorder. -/
inductive Call
  | evaluated (tree context : Value)
  | recorded (event : Event) (outcome : WorkflowOutcome)

namespace Services

variable {σ α : Type}

/-- An action that notes calls. -/
def noting (calls : List Call) (action : StateM σ α) : StateM (σ × List Call) α := fun s =>
  ((action s.1).1, (action s.1).2, s.2 ++ calls)

/-- The services with a note of each evaluation and of each recording. -/
def traced (services : Services σ) : Services (σ × List Call) where
  feed trigger limit := noting [] (services.feed trigger limit)
  find id := noting [] (services.find id)
  evaluate tree context := noting [.evaluated tree context] (services.evaluate tree context)
  record event o := noting [.recorded event o] (services.record event o)

/-- The sandbox answers by the function `f` of the tree and the context, and the recorder never
raises. -/
structure Steady (services : Services σ) (f : Value → Value → Outcome) : Prop where
  evaluates : ∀ tree context, Answers (services.evaluate tree context) (f tree context)
  records : ∀ event o s, ∃ written, (services.record event o s).1 = .ok written

/-- The sandbox fails with no other faults than those that have a text. -/
def Telling (services : Services σ) : Prop :=
  ∀ tree context s cause, (services.evaluate tree context s).1 ≠ .error (.mute cause)

theorem Steady.traced {services : Services σ} {f : Value → Value → Outcome}
    (h : services.Steady f) : services.traced.Steady f where
  evaluates tree context s := h.evaluates tree context s.1
  records event o s := h.records event o s.1

theorem noting_adds (calls : List Call) (action : StateM σ α) :
    Adds Prod.snd calls (noting calls action) := fun _ => rfl

end Services

/-- Over a store, the recorder swallows whatever its writes raise. -/
theorem Backend.services_steady [Levels] {σ : Type} (b : Backend σ) (f : Value → Value → Outcome) :
    (b.services f).Steady f where
  evaluates _ _ _ := rfl
  records _ _ _ := ⟨_, rfl⟩

namespace Engine

section

variable [Levels] {σ : Type} {services : Services σ} {f : Value → Value → Outcome}

/-- The evaluation of a workflow: there is one if the event fires. -/
def evaluation (context : Value) (w : Workflow) : List Call :=
  match Filter.fires w.config context with
  | .ok true => [.evaluated w.tree context]
  | _ => []

/-- The event under which the outcomes of a request are recorded; there is none in a dry run. -/
def recordedUnder (request : Request) : Except Breakdown (Option Event) :=
  if request.dryRun then .ok none else (eventOf request).map some

theorem filterAndEvaluate_traced (context : Value) (w : Workflow) :
    Adds Prod.snd (evaluation context w) (filterAndEvaluate services.traced context w) := by
  intro s
  unfold evaluation
  rcases hfires : Filter.fires w.config context with fault | fires
  · rw [filterAndEvaluate_of_error hfires]
    exact (List.append_nil _).symm
  · cases fires with
    | false =>
        rw [filterAndEvaluate_of_not_fires hfires]
        exact (List.append_nil _).symm
    | true =>
        rw [filterAndEvaluate_of_fires hfires]
        rfl

/-- The evaluations of workflows, in their order if one at a time: those of the first workflows, and of
all of them if there are outcomes. -/
theorem evaluateAll_traced (maxConcurrency : Int) (schedule : Schedule) (context : Value)
    (ws : List Workflow) (s : σ) :
    ∃ evaluated evaluations, evaluated <+: ws ∧
      evaluations.Perm (evaluated.flatMap (evaluation context)) ∧
      (maxConcurrency ≤ 1 → evaluations = evaluated.flatMap (evaluation context)) ∧
      (evaluateAll services.traced maxConcurrency schedule context ws (s, [])).2.2 = evaluations ∧
      ∀ outcomes, (evaluateAll services.traced maxConcurrency schedule context ws (s, [])).1 =
        .ok outcomes → evaluated = ws :=
  @evaluateAll_adds _ _ services.traced _ Prod.snd _ context ws
    (fun w _ => filterAndEvaluate_traced context w) maxConcurrency schedule (s, [])

/-- The recordings of a batch: one for each outcome, under the event of the request. -/
def recordings (request : Request) (outcomes : List WorkflowOutcome) : List Call :=
  match recordedUnder request with
  | .ok (some event) => outcomes.map (.recorded event)
  | _ => []

theorem recordedUnder_of_dryRun {request : Request} (h : request.dryRun = true) :
    recordedUnder request = .ok none := by
  rw [recordedUnder, if_pos h]

theorem recordedUnder_of_recorded {request : Request} (h : request.dryRun = false) :
    recordedUnder request = (eventOf request).map some := by
  rw [recordedUnder, h]
  rfl

theorem settle_steady (steady : services.Steady f) (request : Request)
    (outcomes : List WorkflowOutcome) :
    Answers (settle services request outcomes) (match recordedUnder request with
      | .ok _ => .completed outcomes
      | .error cause => .abandoned (.breakdown cause)) := by
  intro s
  cases hdry : request.dryRun with
  | true => rw [settle_of_dryRun hdry, recordedUnder_of_dryRun hdry]
  | false =>
      rw [recordedUnder_of_recorded hdry]
      rcases hevent : eventOf request with cause | event
      · rw [settle_of_eventOf_error hdry hevent]
        rfl
      · rw [settle_of_recordAll hdry hevent
          (recordAll_eq_ok (steady.records event) outcomes s)]
        rfl

theorem settle_traced (steady : services.Steady f) (request : Request)
    (outcomes : List WorkflowOutcome) :
    Adds Prod.snd (recordings request outcomes) (settle services.traced request outcomes) := by
  intro s
  unfold recordings
  cases hdry : request.dryRun with
  | true =>
      rw [settle_of_dryRun hdry, recordedUnder_of_dryRun hdry]
      exact (List.append_nil _).symm
  | false =>
      rw [recordedUnder_of_recorded hdry]
      rcases hevent : eventOf request with cause | event
      · rw [settle_of_eventOf_error hdry hevent]
        exact (List.append_nil _).symm
      · rw [settle_of_recordAll hdry hevent
          (recordAll_eq_ok (steady.traced.records event) outcomes s)]
        have logged := recordAll_adds (steady.traced.records event)
          (fun o => Services.noting_adds _ _) outcomes s
        rw [← List.map_eq_flatMap] at logged
        exact logged

/-- The report of a batch under steady services, if no workflow is untold. -/
theorem execute_of_told (steady : services.Steady f) (limits : Limits) (schedule : Schedule)
    (request : Request) {s s' : σ} {fetched : List Workflow}
    (hfeed : services.feed request.trigger limits.maxWorkflows s = (.ok fetched, s'))
    (told : ∀ w ∈ chosen limits request fetched, ∀ cause, ¬ Untold f request.context w cause) :
    (execute services limits schedule request s).1 =
      match recordedUnder request with
      | .ok _ =>
        .ok (.ofOutcomes ((chosen limits request fetched).filterMap (outcomeOf f request.context)))
      | .error cause =>
        if chosen limits request fetched = [] then .ok (.ofOutcomes [])
        else (Batch.abandoned (.breakdown cause)).toReport := by
  rw [execute_apply]
  by_cases hws : chosen limits request fetched = []
  · rw [run_of_idle schedule hfeed hws]
    rcases recordedUnder request with cause | event
    · exact (if_pos hws).symm
    · rw [hws]
      rfl
  · rw [run_of_feed schedule hfeed hws]
    dsimp only
    rw [evaluateAll_of_told (fun tree => steady.evaluates tree request.context) _ _ told]
    dsimp only
    rw [settle_steady steady]
    rcases recordedUnder request with cause | event
    · exact (if_neg hws).symm
    · rfl

/-- And if some workflow is. -/
theorem execute_of_untold (steady : services.Steady f) (limits : Limits) (schedule : Schedule)
    (request : Request) {s s' : σ} {fetched : List Workflow}
    (hfeed : services.feed request.trigger limits.maxWorkflows s = (.ok fetched, s')) {w : Workflow}
    {cause : Fault} (hw : w ∈ chosen limits request fetched)
    (untold : Untold f request.context w cause) :
    ∃ v ∈ chosen limits request fetched, ∃ fault, Untold f request.context v fault ∧
      (execute services limits schedule request s).1 = (Batch.abandoned fault).toReport := by
  obtain ⟨v, hv, fault, lost, evaluated⟩ :=
    evaluateAll_of_untold (fun tree => steady.evaluates tree request.context) limits.maxConcurrency
      schedule hw untold s'
  refine ⟨v, hv, fault, lost, ?_⟩
  rw [execute_apply, run_of_feed schedule hfeed (List.ne_nil_of_mem hw)]
  dsimp only
  rw [evaluated]

omit [Levels] in
theorem traced_feed {trigger : String} {n : Int} {s s' : σ}
    {answer : Except Fault (List Workflow)} (h : services.feed trigger n s = (answer, s')) :
    services.traced.feed trigger n (s, []) = (answer, s', []) := by
  change ((services.feed trigger n s).1, (services.feed trigger n s).2, []) = _
  rw [h]

/-- The calls of a batch under steady services. -/
theorem execute_traced (steady : services.Steady f) (limits : Limits) (schedule : Schedule)
    (request : Request) {s s' : σ} {fetched : List Workflow}
    (hfeed : services.feed request.trigger limits.maxWorkflows s = (.ok fetched, s')) :
    ∃ evaluated evaluations, evaluated <+: chosen limits request fetched ∧
      evaluations.Perm (evaluated.flatMap (evaluation request.context)) ∧
      (limits.maxConcurrency ≤ 1 →
        evaluations = evaluated.flatMap (evaluation request.context)) ∧
      ((∀ w ∈ chosen limits request fetched, ∀ cause, ¬ Untold f request.context w cause) →
        evaluated = chosen limits request fetched ∧
        (execute services.traced limits schedule request (s, [])).2.2 =
          evaluations ++ recordings request
            ((chosen limits request fetched).filterMap (outcomeOf f request.context))) ∧
      ((∃ w ∈ chosen limits request fetched, ∃ cause, Untold f request.context w cause) →
        (execute services.traced limits schedule request (s, [])).2.2 = evaluations) := by
  have htraced := traced_feed hfeed
  rw [execute_apply]
  by_cases hws : chosen limits request fetched = []
  · rw [run_of_idle schedule htraced hws, hws]
    refine ⟨[], [], List.prefix_refl _, List.Perm.refl _, fun _ => rfl, fun _ => ⟨rfl, ?_⟩,
      fun _ => rfl⟩
    unfold recordings
    rcases recordedUnder request with cause | event
    · rfl
    · cases event <;> rfl
  · have answers := fun tree => steady.traced.evaluates tree request.context
    obtain ⟨evaluated, evaluations, first, perm, sequential, hlog, whole⟩ :=
      @evaluateAll_traced _ _ services limits.maxConcurrency schedule request.context
        (chosen limits request fetched) s'
    rw [run_of_feed schedule htraced hws]
    dsimp only
    refine ⟨evaluated, evaluations, first, perm, sequential, fun told => ?_, ?_⟩
    · have outcomes := evaluateAll_of_told answers limits.maxConcurrency schedule told (s', [])
      refine ⟨whole _ outcomes, ?_⟩
      rw [outcomes]
      dsimp only
      rw [settle_traced steady, hlog]
    · rintro ⟨w, hw, cause, untold⟩
      obtain ⟨-, -, fault, -, lost⟩ :=
        evaluateAll_of_untold answers limits.maxConcurrency schedule hw untold (s', [])
      rw [lost]
      exact hlog

omit [Levels] in
/-- Recording asks the recorder alone, for as long as that does not raise. -/
theorem recordAll_asks (event : Event) (outcomes : List WorkflowOutcome) (s : σ × List Call) :
    ∃ recorded, (∀ call ∈ recorded, ∃ o, call = .recorded event o) ∧
      (recordAll services.traced event outcomes s).2.2 = s.2 ++ recorded := by
  induction outcomes generalizing s with
  | nil => exact ⟨[], nofun, (List.append_nil _).symm⟩
  | cons o rest ih =>
      have noted := Services.noting_adds [.recorded event o] (services.record event o) s
      rw [recordAll, StateM.bind_apply]
      rcases (services.traced.record event o s).1 with fault | written
      · refine ⟨[.recorded event o], ?_, noted⟩
        exact fun call hc => ⟨o, List.mem_singleton.mp hc⟩
      · obtain ⟨recorded, each, hlog⟩ := ih (services.traced.record event o s).2
        refine ⟨.recorded event o :: recorded, ?_, ?_⟩
        · exact List.forall_mem_cons.mpr ⟨⟨o, rfl⟩, each⟩
        · rw [hlog.trans (congrArg (· ++ recorded) noted), List.append_assoc]
          rfl

theorem settle_asks (request : Request) (outcomes : List WorkflowOutcome) (s : σ × List Call) :
    ∃ recorded, (∀ call ∈ recorded, ∃ event o, call = .recorded event o) ∧
      (settle services.traced request outcomes s).2.2 = s.2 ++ recorded := by
  cases hdry : request.dryRun with
  | true =>
      rw [settle_of_dryRun hdry]
      exact ⟨[], nofun, (List.append_nil _).symm⟩
  | false =>
      rcases hevent : eventOf request with cause | event
      · rw [settle_of_eventOf_error hdry hevent]
        exact ⟨[], nofun, (List.append_nil _).symm⟩
      · rw [settle_of_event hdry hevent]
        obtain ⟨recorded, each, hlog⟩ := @recordAll_asks _ services event outcomes s
        exact ⟨recorded, fun call hc => ⟨event, each call hc⟩, hlog⟩

/-- The evaluations of a batch under any services: those of its first workflows, and of all of them unless
one fails with a fault that has no text; and then there are recordings only. -/
theorem execute_evaluates (limits : Limits) (schedule : Schedule) (request : Request) {s s' : σ}
    {fetched : List Workflow}
    (hfeed : services.feed request.trigger limits.maxWorkflows s = (.ok fetched, s')) :
    ∃ evaluated evaluations recorded, evaluated <+: chosen limits request fetched ∧
      evaluations.Perm (evaluated.flatMap (evaluation request.context)) ∧
      (limits.maxConcurrency ≤ 1 →
        evaluations = evaluated.flatMap (evaluation request.context)) ∧
      (∀ call ∈ recorded, ∃ event o, call = .recorded event o) ∧
      (execute services.traced limits schedule request (s, [])).2.2 = evaluations ++ recorded ∧
      (services.Telling → evaluated = chosen limits request fetched) := by
  have htraced := traced_feed hfeed
  rw [execute_apply]
  by_cases hws : chosen limits request fetched = []
  · rw [run_of_idle schedule htraced hws, hws]
    exact ⟨[], [], [], List.prefix_refl _, List.Perm.refl _, fun _ => rfl, nofun, rfl, fun _ => rfl⟩
  · obtain ⟨evaluated, evaluations, first, perm, sequential, hlog, whole⟩ :=
      @evaluateAll_traced _ _ services limits.maxConcurrency schedule request.context
        (chosen limits request fetched) s'
    have all (telling : services.Telling) : evaluated = chosen limits request fetched := by
      obtain ⟨outcomes, houtcomes⟩ := @exists_evaluateAll _ _ services.traced request.context
        (chosen limits request fetched) (fun w _ s => telling w.tree request.context s.1)
        limits.maxConcurrency schedule (s', [])
      exact whole outcomes houtcomes
    rw [run_of_feed schedule htraced hws]
    dsimp only
    rcases (evaluateAll services.traced limits.maxConcurrency schedule request.context
      (chosen limits request fetched) (s', [])).1 with fault | outcomes
    · refine ⟨evaluated, evaluations, [], first, perm, sequential, nofun, ?_, all⟩
      rw [List.append_nil]
      exact hlog
    · obtain ⟨recorded, each, hsettled⟩ := @settle_asks _ _ services request outcomes
        (evaluateAll services.traced limits.maxConcurrency schedule request.context
          (chosen limits request fetched) (s', [])).2
      refine ⟨evaluated, evaluations, recorded, first, perm, sequential, each, ?_, all⟩
      rw [hlog] at hsettled
      exact hsettled

/-- **Dispatch keeps the order and isolates the workflows.**  Let the sandbox answer by a function of
the tree and the context.  However many workflows run at a time and in whatever order they are done,
the report has the outcomes of the first eligible workflows of the feed, in its order and each by
`outcomeOf`.  Just those on which the event fires are evaluated, in the order of the feed if one at a
time.  All outcomes are recorded in their order, after the evaluations; but a request that names a
business object whose id cannot be written fails as a whole, and nothing of it is recorded.  So does a
batch in which the sandbox fails with a fault that has no text: it has no outcomes, nothing is recorded,
and the report is about what went wrong when the fault was to be told. -/
theorem execute_dispatches (steady : services.Steady f) {limits : Limits}
    (hn : 0 ≤ limits.maxWorkflows) (request : Request) {s s' : σ} {fetched : List Workflow}
    (hfeed : services.feed request.trigger limits.maxWorkflows s = (.ok fetched, s')) :
    let ws := (fetched.filter (·.isEligible request.trigger)).take limits.maxWorkflows.toNat
    let outcomes := ws.filterMap (outcomeOf f request.context)
    ∀ (maxConcurrency : Int) (schedule : Schedule),
      let report := (execute services { limits with maxConcurrency } schedule request s).1
      ∃ evaluated evaluations, evaluated <+: ws ∧
        evaluations.Perm (evaluated.flatMap (evaluation request.context)) ∧
        (maxConcurrency ≤ 1 → evaluations = evaluated.flatMap (evaluation request.context)) ∧
        let calls :=
          (execute services.traced { limits with maxConcurrency } schedule request (s, [])).2.2
        ((∀ w ∈ ws, ∀ cause, ¬ Untold f request.context w cause) →
          report = (match recordedUnder request with
            | .ok _ => .ok (.ofOutcomes outcomes)
            | .error cause =>
              if ws = [] then .ok (.ofOutcomes [])
              else (Batch.abandoned (.breakdown cause)).toReport) ∧
          evaluated = ws ∧ calls = evaluations ++ recordings request outcomes) ∧
        ((∃ w ∈ ws, ∃ cause, Untold f request.context w cause) →
          (∃ w ∈ ws, ∃ cause, Untold f request.context w cause ∧
            report = (Batch.abandoned cause).toReport) ∧
          calls = evaluations) := by
  intro ws outcomes maxConcurrency schedule report
  have hchosen : chosen { limits with maxConcurrency } request fetched = ws :=
    chosen_eq_take hn request fetched
  have told := execute_of_told steady { limits with maxConcurrency } schedule request hfeed
  have untold := @execute_of_untold _ _ _ _ steady { limits with maxConcurrency } schedule request
    _ _ _ hfeed
  obtain ⟨evaluated, evaluations, first, perm, sequential, whole, lost⟩ :=
    execute_traced steady { limits with maxConcurrency } schedule request hfeed
  rw [hchosen] at told untold first whole lost
  refine ⟨evaluated, evaluations, first, perm, sequential, fun all => ⟨told all, whole all⟩, ?_⟩
  rintro ⟨w, hw, cause, h⟩
  exact ⟨untold hw h, lost ⟨w, hw, cause, h⟩⟩

/-- No evaluation of a tree fails with a fault that has no text. -/
theorem not_untold_evaluate (context : Value) (w : Workflow) (cause : Fault) :
    ¬ Untold Rule.evaluate context w cause := by
  rintro ⟨-, silent⟩
  rcases Rule.evaluate_error silent with ⟨_, ⟨⟩⟩ | ⟨_, ⟨⟩⟩

end

/-! ### A batch that is dispatched, and one that is lost -/

/-- A workflow that approves whatever it is about. -/
def approval (id : String) (config : Value) : Workflow where
  id := id
  name := "Workflow " ++ id
  trigger := "ORDER_CREATED"
  tree := .object [("action", .str "AUTO_APPROVE"), ("config", .object [])]
  config := config

/-- A filter that lets no event fire. -/
def closedConfig : Value :=
  .object [("enabled", .bool true), ("filters", .list [.null])]

/-- A store in the order of its list: one workflow with a broken filter, one that is paused, one that
does not fire, and one that decides. -/
def mixedStore : Memory where
  workflows := [approval "broken" (.str "x"), { approval "paused" .null with active := .bool false },
    approval "silent" closedConfig, approval "sound" .null]
  isSorted := false

theorem execute_dispatches_mixedStore :
    (execute (Memory.backend.services Rule.evaluate) { maxConcurrency := 2 } [1, 0]
      { trigger := "ORDER_CREATED", context := .object [] } { sink := mixedStore }).1.map
        (fun report => report.outcomes.map fun o => (o.workflowId, o.success)) =
      .ok [("broken", false), ("sound", true)] := by
  obtain ⟨_, _, -, -, -, whole, -⟩ := @execute_dispatches _ _ _ _
    (Memory.backend.services_steady Rule.evaluate) {} (by decide)
    { trigger := "ORDER_CREATED", context := .object [] } { sink := mixedStore } _ _ rfl 2 [1, 0]
  have report := (whole fun w _ cause => not_untold_evaluate _ w cause).1
  rw [report]
  rfl

/-- A store of one workflow. -/
def soleStore : Memory where
  workflows := [approval "sound" .null]
  isSorted := false

/-- An order whose id is nested. -/
def nestedOrder (n : Nat) : Request where
  trigger := "ORDER_CREATED"
  context := .object [("id", Value.nested n)]

theorem eventOf_nestedOrder [Levels] {n : Nat} (h : Levels.writing ≤ n) :
    eventOf (nestedOrder n) = .error (.nestedTooDeeply .writing) := by
  have hnull : (Value.nested n).isNull = false := by cases n <;> rfl
  have htext : (Value.nested n).textWithin = .error (.nestedTooDeeply .writing) := by
    rw [Value.textWithin_eq_error, Value.Unwritable, Value.obstacle?_nested, if_pos h]
  have hid : entityId? (nestedOrder n).trigger (nestedOrder n).context =
      .error (.nestedTooDeeply .writing) := by
    change (if (Value.nested n).isNull then .ok none else (Value.nested n).textWithin.map some) = _
    rw [hnull, htext]
    rfl
  unfold eventOf
  rw [hid]
  rfl

/-- A batch is lost, with its outcomes, when the id of its business object cannot be written. -/
theorem execute_loses_nestedOrder :
    (execute (Memory.backend.services Rule.evaluate) {} [] (nestedOrder 1999)
      { sink := soleStore }).1.map Report.outcomes = .ok [] ∧
    ((soleStore.workflows.filter (·.isEligible (nestedOrder 1999).trigger)).filterMap
      (outcomeOf Rule.evaluate (nestedOrder 1999).context)).length = 1 := by
  have report := @execute_of_told _ _ _ _ (Memory.backend.services_steady Rule.evaluate) {} []
    (nestedOrder 1999) { sink := soleStore } _ _ rfl fun w _ cause => not_untold_evaluate _ w cause
  rw [recordedUnder_of_recorded rfl, eventOf_nestedOrder (by decide)] at report
  rw [report]
  exact ⟨rfl, rfl⟩

end Engine

end TriggerFlow
