import TriggerFlow.Execution.Engine
import TriggerFlow.Proofs.Execution.Schedule

/-! # A batch of workflows

One lemma for each step of a batch: what the evaluations come to, log and keep (`evaluateAll_ran`), which
outcomes they have (`evaluateAll_of_told`, `evaluateAll_workflowIds`) and in which order they ask the
sandbox (`evaluateAll_adds`), what recording does (`recordAll_adds`), how a batch goes on once its
workflows are loaded (`run_of_feed`), and how it can end (`run_cases`).  Where the sandbox fails with a
fault that has no text, what the workflow comes to cannot be told (`Untold`), and the batch is
abandoned. -/

namespace TriggerFlow

open Outcome

/-! ### Faults with and without a text -/

namespace Fault

variable {fault cause : Fault} {kind : String → LogicFault}

theorem text_eq_error : fault.text = .error cause ↔ fault = .mute cause := by
  cases fault <;> simp [text]

/-- Only a fault without a text is not contained. -/
theorem contain_eq_error : fault.contain kind = .error cause ↔ fault = .mute cause := by
  have writes : ∀ e : Except Fault String,
      (do return Fault.logic (kind (← e))) = .error cause ↔ e = .error cause := by
    intro e
    cases e <;> simp [bind, Except.bind, pure, Except.pure]
  unfold contain
  split
  all_goals first | exact (writes _).trans text_eq_error | simp

theorem report_eq_error : fault.report = .error cause ↔ fault = .mute cause := by
  cases fault <;> simp [report, text, bind, Except.bind, pure, Except.pure]

end Fault

/-- What a filter fails with is contained. -/
theorem Filter.exists_contained [Levels] {config context : Value} {fault : Fault}
    (h : fires config context = .error fault) (kind : String → LogicFault) :
    ∃ contained, fault.contain kind = .ok (.logic contained) := by
  have logical : ∀ cause, (.error (Fault.logic cause) : Except Fault Bool) = .error fault →
      ∃ contained, fault.contain kind = .ok (.logic contained) := by
    rintro cause ⟨⟩
    exact ⟨cause, rfl⟩
  unfold fires at h
  split at h
  · cases h
  · split at h
    · cases h
    · split at h
      · cases h
      · cases h
      · rcases bind_eq_error.mp h with h | ⟨answers, -, h⟩
        · obtain ⟨cause, -, rfl⟩ := mapError_eq_error.mp h
          exact ⟨_, rfl⟩
        · split at h <;> cases h
      · exact logical _ h
  · exact logical _ h

namespace Engine

/-! ### Evaluating -/

theorem judge_eq_error {w : Workflow} {result : Outcome} {cause : Fault} :
    judge w result = .error cause ↔ result = .error (.mute cause) := by
  unfold judge
  split
  · rename_i fault
    rw [bind_eq_error, Fault.contain_eq_error]
    simp [pure, Except.pure]
  · split <;> simp

theorem judge_workflowId {w : Workflow} {result : Outcome} {o : WorkflowOutcome}
    (h : judge w result = .ok o) : o.workflowId = w.id := by
  unfold judge at h
  split at h
  · obtain ⟨fault, -, h⟩ := bind_eq_ok.mp h
    cases h
    rfl
  · split at h
    all_goals
      cases h
      rfl

/-- The outcome, if any, of a workflow with this answer. -/
def outcome? : Except Fault (Option WorkflowOutcome) → Option (Except Fault WorkflowOutcome)
  | .ok o => o.map .ok
  | .error fault => some (.error fault)

theorem outcome?_map_some (result : Except Fault WorkflowOutcome) :
    outcome? (result.map some) = some result := by
  cases result <;> rfl

variable [Levels] {σ : Type} {services : Services σ}

/-- What a workflow comes to, an outcome or none, when the sandbox answers by the function `f`. -/
def verdict (f : Value → Value → Outcome) (context : Value) (w : Workflow) :
    Except Fault (Option WorkflowOutcome) :=
  match Filter.fires w.config context with
  | .error fault => (fault.contain .filterFailed).map fun contained => some (.failed w contained)
  | .ok false => .ok none
  | .ok true => (judge w (f w.tree context)).map some

/-- Whether a workflow has an outcome: it has none if the event does not fire. -/
def hasOutcome (context : Value) (w : Workflow) : Bool :=
  match Filter.fires w.config context with
  | .ok false => false
  | _ => true

theorem filterAndEvaluate_of_error {context : Value} {w : Workflow} {fault : Fault}
    (h : Filter.fires w.config context = .error fault) :
    filterAndEvaluate services context w =
      pure ((fault.contain .filterFailed).map fun contained => some (.failed w contained)) := by
  rw [filterAndEvaluate, h]
  exact congrArg pure (by cases fault.contain .filterFailed <;> rfl)

theorem filterAndEvaluate_of_not_fires {context : Value} {w : Workflow}
    (h : Filter.fires w.config context = .ok false) :
    filterAndEvaluate services context w = pure (.ok none) := by
  rw [filterAndEvaluate, h]

theorem filterAndEvaluate_of_fires {context : Value} {w : Workflow}
    (h : Filter.fires w.config context = .ok true) :
    filterAndEvaluate services context w =
      (fun result => (judge w result).map some) <$> services.evaluate w.tree context := by
  rw [filterAndEvaluate, h]
  rfl

theorem filterAndEvaluate_answers {f : Value → Value → Outcome} {context : Value}
    (hf : ∀ tree, Answers (services.evaluate tree context) (f tree context)) (w : Workflow) :
    Answers (filterAndEvaluate services context w) (verdict f context w) := by
  intro s
  unfold verdict
  rcases hfires : Filter.fires w.config context with fault | fires
  · rw [filterAndEvaluate_of_error hfires]
    rfl
  · cases fires with
    | false =>
        rw [filterAndEvaluate_of_not_fires hfires]
        rfl
    | true =>
        rw [filterAndEvaluate_of_fires hfires, StateM.map_apply, hf]

/-- The event fires for the workflow, and then the sandbox fails with a fault that has no text. -/
def Untold (f : Value → Value → Outcome) (context : Value) (w : Workflow) (cause : Fault) : Prop :=
  Filter.fires w.config context = .ok true ∧ f w.tree context = .error (.mute cause)

/-- Only of such a workflow it is not known what it comes to. -/
theorem verdict_eq_error {f : Value → Value → Outcome} {context : Value} {w : Workflow}
    {cause : Fault} : verdict f context w = .error cause ↔ Untold f context w cause := by
  unfold verdict Untold
  rcases hfires : Filter.fires w.config context with fault | fires
  · obtain ⟨contained, told⟩ := Filter.exists_contained hfires .filterFailed
    simp [told, Except.map]
  · cases fires with
    | false => simp
    | true => simp [map_eq_error, judge_eq_error]

/-- The outcome of a workflow, if it has one. -/
def outcomeOf (f : Value → Value → Outcome) (context : Value) (w : Workflow) :
    Option WorkflowOutcome :=
  (verdict f context w).toOption.join

section Yields

variable {γ : Type} {P : σ → Prop} {log : σ → List γ}
  {related : Workflow → Except Fault WorkflowOutcome → List γ → Prop} {context : Value}

/-- An answer for a workflow and what is logged along with it: a workflow that has an outcome has one
in relation to it and to the log, and nothing is logged for the others. -/
def Gives (related : Workflow → Except Fault WorkflowOutcome → List γ → Prop) (context : Value)
    (w : Workflow) (answer : Except Fault (Option WorkflowOutcome)) (logged : List γ) : Prop :=
  if hasOutcome context w then ∃ result, answer = result.map some ∧ related w result logged
  else answer = .ok none ∧ logged = []

theorem filterAndEvaluate_yields {w : Workflow}
    (hfailed : ∀ fault, Filter.fires w.config context = .error fault →
      ∀ contained, fault.contain .filterFailed = .ok (.logic contained) →
        related w (.ok (.failed w (.logic contained))) [])
    (hjudged : Filter.fires w.config context = .ok true →
      Yields P log (fun result => related w (judge w result)) (services.evaluate w.tree context)) :
    Yields P log (Gives related context w) (filterAndEvaluate services context w) := by
  intro s hs
  unfold Gives hasOutcome
  rcases hfires : Filter.fires w.config context with fault | fires
  · obtain ⟨contained, told⟩ := Filter.exists_contained hfires .filterFailed
    rw [filterAndEvaluate_of_error hfires, told]
    exact ⟨[], ⟨_, rfl, hfailed fault hfires contained told⟩, (List.append_nil _).symm, hs⟩
  · cases fires with
    | false =>
        rw [filterAndEvaluate_of_not_fires hfires]
        exact ⟨[], ⟨rfl, rfl⟩, (List.append_nil _).symm, hs⟩
    | true =>
        obtain ⟨logged, holds, rest⟩ := hjudged hfires s hs
        rw [filterAndEvaluate_of_fires hfires, StateM.map_apply]
        exact ⟨logged, ⟨_, rfl, holds⟩, rest⟩

theorem forall₂_of_gives {ws : List Workflow}
    {answers : List (Except Fault (Option WorkflowOutcome) × List γ)}
    (h : List.Forall₂ (fun w answer => Gives related context w answer.1 answer.2) ws answers) :
    ∃ done : List (Except Fault WorkflowOutcome × List γ),
      done.map Prod.fst = (answers.map Prod.fst).filterMap outcome? ∧
      done.flatMap Prod.snd = answers.flatMap Prod.snd ∧
      List.Forall₂ (fun w d => related w d.1 d.2) (ws.filter (hasOutcome context)) done := by
  induction h with
  | nil => exact ⟨[], rfl, rfl, .nil⟩
  | @cons w answer ws answers first _ ih =>
      obtain ⟨answer, logged⟩ := answer
      obtain ⟨done, outcomes, logs, each⟩ := ih
      cases hw : hasOutcome context w with
      | false =>
          rw [Gives, hw, if_neg Bool.false_ne_true] at first
          obtain ⟨rfl, rfl⟩ := first
          rw [List.filter_cons_of_neg (by rw [hw]; exact Bool.false_ne_true)]
          exact ⟨done, outcomes, logs, each⟩
      | true =>
          rw [Gives, hw, if_pos rfl] at first
          obtain ⟨result, rfl, holds⟩ := first
          rw [List.filter_cons_of_pos hw]
          refine ⟨(result, logged) :: done, ?_, congrArg (logged ++ ·) logs, .cons holds each⟩
          rw [List.map_cons, List.map_cons,
            List.filterMap_cons_some (outcome?_map_some result), outcomes]

end Yields

theorem evaluateAll_apply (maxConcurrency : Int) (schedule : Schedule) (context : Value)
    (ws : List Workflow) (s : σ) :
    evaluateAll services maxConcurrency schedule context ws s =
      ((Schedule.together maxConcurrency schedule
          (ws.map (filterAndEvaluate services context)) s).1.map fun found => found.filterMap id,
        (Schedule.together maxConcurrency schedule
          (ws.map (filterAndEvaluate services context)) s).2) := rfl

/-- **The outcomes are those of the workflows that have one, in their order**, and so is what is
logged along with them if they run one after another. -/
theorem evaluateAll_ran {γ : Type} {P : σ → Prop} {log : σ → List γ}
    {related : Workflow → Except Fault WorkflowOutcome → List γ → Prop} {context : Value}
    {ws : List Workflow}
    (h : ∀ w ∈ ws,
      Yields P log (Gives related context w) (filterAndEvaluate services context w))
    (maxConcurrency : Int) (schedule : Schedule) (s : σ) (hs : P s) :
    ∃ ran done, Schedule.Ran P log related (ws.filter (hasOutcome context)) (maxConcurrency ≤ 1) s
      (evaluateAll services maxConcurrency schedule context ws s) ran done := by
  have jobs : List.Forall₂ (fun w job => Yields P log (Gives related context w) job) ws
      (ws.map (filterAndEvaluate services context)) := by
    rw [List.forall₂_map_right_iff, List.forall₂_same]
    exact h
  obtain ⟨ran, answers, all⟩ := Schedule.together_ran maxConcurrency schedule jobs s hs
  obtain ⟨done, outcomes, same, each⟩ := forall₂_of_gives all.each
  have logs := all.logs
  rw [← same] at logs
  refine ⟨ran.filter (hasOutcome context), done, ?_⟩
  rw [evaluateAll_apply]
  refine ⟨all.first.filter _, each, logs, all.keeps, fun os hos => ?_, fun fault hfault => ?_⟩
  · obtain ⟨found, hfound, rfl⟩ := map_eq_ok.mp hos
    obtain ⟨rfl, answered⟩ := all.completed found hfound
    have told : (found.map Except.ok).filterMap outcome? = (found.filterMap id).map Except.ok := by
      rw [List.filterMap_map, List.map_filterMap]
      rfl
    exact ⟨rfl, by rw [outcomes, answered, told]⟩
  · rw [outcomes]
    exact List.mem_filterMap.mpr ⟨_, all.failed fault (map_eq_error.mp hfault), rfl⟩

section Answers

variable {f : Value → Value → Outcome} {context : Value} {ws : List Workflow}
  (hf : ∀ tree, Answers (services.evaluate tree context) (f tree context)) (maxConcurrency : Int)
  (schedule : Schedule)

include hf

theorem jobs_answer (ws : List Workflow) :
    List.Forall₂ (fun w job => Answers job (verdict f context w)) ws
      (ws.map (filterAndEvaluate services context)) := by
  rw [List.forall₂_map_right_iff, List.forall₂_same]
  exact fun w _ => filterAndEvaluate_answers hf w

/-- Unless some workflow is untold, the outcomes do not depend on how many workflows run at a time, nor
on the schedule. -/
theorem evaluateAll_of_told (told : ∀ w ∈ ws, ∀ cause, ¬ Untold f context w cause) :
    Answers (evaluateAll services maxConcurrency schedule context ws)
      (.ok (ws.filterMap (outcomeOf f context))) := by
  intro s
  obtain ⟨same, fails⟩ :=
    Schedule.together_of_answers maxConcurrency schedule (jobs_answer hf ws) s
  rw [evaluateAll_apply]
  rcases results : (Schedule.together maxConcurrency schedule
    (ws.map (filterAndEvaluate services context)) s).1 with fault | found
  · obtain ⟨w, hw, failed⟩ := fails fault results
    exact absurd (verdict_eq_error.mp failed) (told w hw fault)
  · have each : ws.map (outcomeOf f context) = found := by
      rw [← List.forall₂_eq_eq_eq, List.forall₂_map_left_iff]
      refine (mapM_eq_ok.mp (same found results)).imp fun w o ho => ?_
      rw [outcomeOf, ho]
      rfl
    rw [← each, ← Function.id_comp (outcomeOf f context), ← List.filterMap_map, Function.id_comp]
    rfl

/-- If some are, there are no outcomes, but one of the faults that have no text. -/
theorem evaluateAll_of_untold {w : Workflow} {cause : Fault} (hw : w ∈ ws)
    (untold : Untold f context w cause) (s : σ) :
    ∃ v ∈ ws, ∃ fault, Untold f context v fault ∧
      (evaluateAll services maxConcurrency schedule context ws s).1 = .error fault := by
  obtain ⟨same, fails⟩ :=
    Schedule.together_of_answers maxConcurrency schedule (jobs_answer hf ws) s
  rw [evaluateAll_apply]
  rcases results : (Schedule.together maxConcurrency schedule
    (ws.map (filterAndEvaluate services context)) s).1 with fault | found
  · obtain ⟨v, hv, failed⟩ := fails fault results
    exact ⟨v, hv, fault, verdict_eq_error.mp failed, rfl⟩
  · obtain ⟨_, failed⟩ := exists_mapM_error_iff.mpr ⟨w, hw, cause, verdict_eq_error.mpr untold⟩
    cases (same found results).symm.trans failed

end Answers

/-- Whatever the sandbox answers, the outcomes have the ids of their workflows. -/
theorem evaluateAll_workflowIds (maxConcurrency : Int) (schedule : Schedule) (context : Value)
    (ws : List Workflow) (s : σ) {outcomes : List WorkflowOutcome}
    (h : (evaluateAll services maxConcurrency schedule context ws s).1 = .ok outcomes) :
    outcomes.map WorkflowOutcome.workflowId = (ws.filter (hasOutcome context)).map Workflow.id := by
  have yields : ∀ w ∈ ws, Yields (fun _ => True) (fun _ => ([] : List Unit))
      (Gives (fun w result _ => ∀ o, result = .ok o → w.id = o.workflowId) context w)
      (filterAndEvaluate services context w) := by
    intro w _
    refine filterAndEvaluate_yields (fun _ _ _ _ => ?_) fun _ s _ => ?_
    · rintro _ ⟨⟩
      rfl
    · exact ⟨[], fun o ho => (judge_workflowId ho).symm, rfl, trivial⟩
  obtain ⟨ran, done, all⟩ := evaluateAll_ran yields maxConcurrency schedule s trivial
  obtain ⟨told, rfl, each, -⟩ := all.exists_results h
  rw [List.map_map, eq_comm, ← List.forall₂_eq_eq_eq, List.forall₂_map_left_iff,
    List.forall₂_map_right_iff]
  exact each.imp fun w d same => same d.1 rfl

/-- Each outcome has what every judgement and every failed filter has; what is told where there are no
outcomes is why some fault of the sandbox has no text. -/
theorem evaluateAll_keeps {P : σ → Prop} {Q : WorkflowOutcome → Prop} {context : Value}
    {ws : List Workflow} (hfailed : ∀ w contained, Q (.failed w (.logic contained)))
    (hjudged : ∀ w ∈ ws, Keeps P (fun result => ∀ o, judge w result = .ok o → Q o)
      (services.evaluate w.tree context))
    (maxConcurrency : Int) (schedule : Schedule) :
    Keeps P (fun result => (∀ outcomes, result = .ok outcomes → ∀ o ∈ outcomes, Q o) ∧
        ∀ cause, result = .error cause →
          ∃ w ∈ ws, ∃ s, P s ∧ (services.evaluate w.tree context s).1 = .error (.mute cause))
      (evaluateAll services maxConcurrency schedule context ws) := by
  have yields : ∀ w ∈ ws, Yields P (fun _ => ([] : List Unit))
      (Gives (fun w result _ => (∀ o, result = .ok o → Q o) ∧ ∀ cause, result = .error cause →
        ∃ s, P s ∧ (services.evaluate w.tree context s).1 = .error (.mute cause)) context w)
      (filterAndEvaluate services context w) := by
    intro w hw
    refine filterAndEvaluate_yields (fun _ _ contained _ => ⟨?_, nofun⟩) fun _ s hs => ?_
    · rintro o ⟨⟩
      exact hfailed w contained
    · exact ⟨[], ⟨(hjudged w hw s hs).1, fun cause h => ⟨s, hs, judge_eq_error.mp h⟩⟩, rfl,
        (hjudged w hw s hs).2⟩
  intro s hs
  obtain ⟨ran, done, all⟩ := evaluateAll_ran yields maxConcurrency schedule s hs
  refine ⟨⟨fun outcomes h o ho => ?_, fun cause h => ?_⟩, all.keeps⟩
  · have mem : Except.ok o ∈ done.map Prod.fst := by
      rw [(all.completed outcomes h).2]
      exact List.mem_map_of_mem ho
    obtain ⟨_, -, _, ⟨has, -⟩, -⟩ := all.exists_item mem
    exact has o rfl
  · obtain ⟨w, hw, _, ⟨-, mute⟩, -⟩ := all.exists_item (all.failed cause h)
    exact ⟨w, List.mem_of_mem_filter hw, mute cause rfl⟩

/-- If the sandbox fails with no other faults than those that have a text, there are outcomes. -/
theorem exists_evaluateAll {context : Value} {ws : List Workflow}
    (telling : ∀ w ∈ ws, ∀ s cause, (services.evaluate w.tree context s).1 ≠ .error (.mute cause))
    (maxConcurrency : Int) (schedule : Schedule) (s : σ) :
    ∃ outcomes, (evaluateAll services maxConcurrency schedule context ws s).1 = .ok outcomes := by
  obtain ⟨⟨-, fails⟩, -⟩ := @evaluateAll_keeps _ _ services (fun _ => True) (fun _ => True) context
    ws (fun _ _ => trivial) (fun _ _ _ _ => ⟨fun _ _ => trivial, trivial⟩) maxConcurrency schedule
    s trivial
  cases answer : (evaluateAll services maxConcurrency schedule context ws s).1 with
  | error cause =>
      obtain ⟨w, hw, t, -, mute⟩ := fails cause answer
      exact absurd mute (telling w hw t cause)
  | ok outcomes => exact ⟨outcomes, rfl⟩

/-- What the evaluations log is that of the first workflows, and of all of them if there are outcomes; it
is in their order if they run one after another, and in some order if not. -/
theorem evaluateAll_adds {γ : Type} {log : σ → List γ} {entries : Workflow → List γ}
    {context : Value} {ws : List Workflow}
    (h : ∀ w ∈ ws, Adds log (entries w) (filterAndEvaluate services context w))
    (maxConcurrency : Int) (schedule : Schedule) (s : σ) :
    ∃ ran logged, ran <+: ws ∧ logged.Perm (ran.flatMap entries) ∧
      (maxConcurrency ≤ 1 → logged = ran.flatMap entries) ∧
      log (evaluateAll services maxConcurrency schedule context ws s).2 = log s ++ logged ∧
      ∀ outcomes, (evaluateAll services maxConcurrency schedule context ws s).1 = .ok outcomes →
        ran = ws := by
  have jobs : List.Forall₂ (fun w job => Yields (fun _ => True) log
      (fun _ logged => entries w = logged) job) ws (ws.map (filterAndEvaluate services context)) := by
    rw [List.forall₂_map_right_iff, List.forall₂_same]
    exact fun w hw s _ => ⟨entries w, rfl, h w hw s, trivial⟩
  obtain ⟨ran, done, all⟩ := Schedule.together_ran maxConcurrency schedule jobs s trivial
  have same : ran.map entries = done.map Prod.snd := by
    rw [← List.forall₂_eq_eq_eq, List.forall₂_map_left_iff, List.forall₂_map_right_iff]
    exact all.each
  obtain ⟨logged, perm, ordered, hlog⟩ := all.logs
  rw [List.flatMap_def, ← same, ← List.flatMap_def] at perm ordered
  refine ⟨ran, logged, all.first, perm, ordered, hlog, fun outcomes houtcomes => ?_⟩
  obtain ⟨found, hfound, -⟩ := map_eq_ok.mp houtcomes
  exact (all.completed found hfound).1

/-! ### Recording -/

section Recording

omit [Levels]

/-- A recorder that never raises has all outcomes recorded, whether they are written or not. -/
theorem recordAll_eq_ok {event : Event}
    (h : ∀ o s, ∃ written, (services.record event o s).1 = .ok written)
    (outcomes : List WorkflowOutcome) : Answers (recordAll services event outcomes) (.ok ()) := by
  induction outcomes with
  | nil => exact fun _ => rfl
  | cons o rest ih =>
      intro s
      obtain ⟨written, hw⟩ := h o s
      rw [recordAll, StateM.bind_apply, hw]
      exact ih _

/-- Recording fails only as the recorder does. -/
theorem recordAll_eq_error {event : Event} {outcomes : List WorkflowOutcome} {fault : Fault} {s : σ}
    (h : (recordAll services event outcomes s).1 = .error fault) :
    ∃ o s', (services.record event o s').1 = .error fault := by
  induction outcomes generalizing s with
  | nil => cases h
  | cons o rest ih =>
      rw [recordAll, StateM.bind_apply] at h
      rcases answer : (services.record event o s).1 with cause | written
      · rw [answer] at h
        cases h
        exact ⟨o, s, answer⟩
      · rw [answer] at h
        exact ih h

theorem recordAll_adds {γ : Type} {log : σ → List γ} {entries : WorkflowOutcome → List γ}
    {event : Event} (h : ∀ o s, ∃ written, (services.record event o s).1 = .ok written)
    (hadds : ∀ o, Adds log (entries o) (services.record event o))
    (outcomes : List WorkflowOutcome) :
    Adds log (outcomes.flatMap entries) (recordAll services event outcomes) := by
  induction outcomes with
  | nil => exact fun s => (List.append_nil _).symm
  | cons o rest ih =>
      intro s
      obtain ⟨written, hw⟩ := h o s
      rw [recordAll, StateM.bind_apply, hw]
      refine (ih _).trans ?_
      rw [hadds o s, List.append_assoc]
      rfl

end Recording

/-! ### The steps of a batch -/

/-- How a batch goes on once its outcomes are known. -/
def settle (services : Services σ) (request : Request) (outcomes : List WorkflowOutcome) :
    StateM σ Batch := do
  if request.dryRun then return .completed outcomes
  match eventOf request with
  | .error cause => return .abandoned (.breakdown cause)
  | .ok event =>
    match ← recordAll services event outcomes with
    | .ok () => return .completed outcomes
    | .error fault => return .abandoned fault

/-- The workflows of a batch among those that the feed answers. -/
def chosen (limits : Limits) (request : Request) (fetched : List Workflow) : List Workflow :=
  takeFirst limits.maxWorkflows (fetched.filter (·.isEligible request.trigger))

omit [Levels] in
theorem chosen_eq_take {limits : Limits} (h : 0 ≤ limits.maxWorkflows) (request : Request)
    (fetched : List Workflow) :
    chosen limits request fetched =
      (fetched.filter (·.isEligible request.trigger)).take limits.maxWorkflows.toNat := by
  rw [chosen, takeFirst, if_pos h]

variable {limits : Limits} {request : Request} {s s' : σ}

theorem execute_apply (schedule : Schedule) (s : σ) :
    execute services limits schedule request s =
      ((run services limits schedule request s).1.toReport,
        (run services limits schedule request s).2) := rfl

theorem settle_of_dryRun (h : request.dryRun = true) (outcomes : List WorkflowOutcome) (s : σ) :
    settle services request outcomes s = (.completed outcomes, s) := by
  rw [settle, if_pos h]
  rfl

theorem settle_of_eventOf_error (h : request.dryRun = false) {cause : Breakdown}
    (hevent : eventOf request = .error cause) (outcomes : List WorkflowOutcome) (s : σ) :
    settle services request outcomes s = (.abandoned (.breakdown cause), s) := by
  rw [settle, h, hevent]
  rfl

theorem settle_of_event (h : request.dryRun = false) {event : Event}
    (hevent : eventOf request = .ok event) (outcomes : List WorkflowOutcome) (s : σ) :
    settle services request outcomes s =
      ((match (recordAll services event outcomes s).1 with
        | .ok () => .completed outcomes
        | .error fault => .abandoned fault), (recordAll services event outcomes s).2) := by
  rw [settle, h, hevent]
  simp only [Bool.false_eq_true, if_false, StateM.bind_apply]
  cases (recordAll services event outcomes s).1 <;> rfl

theorem settle_of_recordAll (h : request.dryRun = false) {event : Event}
    (hevent : eventOf request = .ok event) {outcomes : List WorkflowOutcome}
    (hrecord : (recordAll services event outcomes s).1 = .ok ()) :
    settle services request outcomes s =
      (.completed outcomes, (recordAll services event outcomes s).2) := by
  rw [settle_of_event h hevent, hrecord]

theorem run_of_feed_error (schedule : Schedule) {fault : Fault}
    (h : services.feed request.trigger limits.maxWorkflows s = (.error fault, s')) :
    run services limits schedule request s = (.unavailable fault, s') := by
  unfold run
  rw [StateM.bind_apply, h]
  rfl

theorem run_of_idle (schedule : Schedule) {fetched : List Workflow}
    (h : services.feed request.trigger limits.maxWorkflows s = (.ok fetched, s'))
    (hws : chosen limits request fetched = []) :
    run services limits schedule request s = (.idle, s') := by
  unfold chosen at hws
  unfold run
  rw [StateM.bind_apply, h]
  simp only [hws]
  rfl

theorem run_of_feed (schedule : Schedule) {fetched : List Workflow}
    (h : services.feed request.trigger limits.maxWorkflows s = (.ok fetched, s'))
    (hws : chosen limits request fetched ≠ []) :
    run services limits schedule request s =
      let evaluated := evaluateAll services limits.maxConcurrency schedule request.context
        (chosen limits request fetched) s'
      match evaluated.1 with
      | .error fault => (.abandoned fault, evaluated.2)
      | .ok outcomes => settle services request outcomes evaluated.2 := by
  have hne : (chosen limits request fetched).isEmpty = false := List.isEmpty_eq_false_iff.mpr hws
  unfold chosen at hne ⊢
  unfold run
  rw [StateM.bind_apply, h]
  simp only [hne]
  change (_ >>= _ : StateM σ Batch) s' = _
  rw [StateM.bind_apply]
  rcases (evaluateAll services limits.maxConcurrency schedule request.context
    (takeFirst limits.maxWorkflows (fetched.filter (·.isEligible request.trigger))) s').1 with _ | _
  · rfl
  · rfl

/-- A batch whose outcomes are known is completed with these outcomes, or it is abandoned. -/
theorem settle_cases (request : Request) (outcomes : List WorkflowOutcome) (s : σ) :
    (settle services request outcomes s).1 = .completed outcomes ∨
      ∃ fault, (settle services request outcomes s).1 = .abandoned fault := by
  cases hdry : request.dryRun with
  | true =>
      rw [settle_of_dryRun hdry]
      exact .inl rfl
  | false =>
      rcases hevent : eventOf request with cause | event
      · rw [settle_of_eventOf_error hdry hevent]
        exact .inr ⟨_, rfl⟩
      · rw [settle_of_event hdry hevent]
        rcases (recordAll services event outcomes s).1 with fault | _
        · exact .inr ⟨fault, rfl⟩
        · exact .inl rfl

/-- How a batch ends once its workflows are loaded. -/
theorem run_cases (schedule : Schedule) {fetched : List Workflow}
    (h : services.feed request.trigger limits.maxWorkflows s = (.ok fetched, s')) :
    (chosen limits request fetched = [] ∧
        (run services limits schedule request s).1 = .idle) ∨
      (∃ outcomes, (evaluateAll services limits.maxConcurrency schedule request.context
          (chosen limits request fetched) s').1 = .ok outcomes ∧
        (run services limits schedule request s).1 = .completed outcomes) ∨
      ∃ fault, (run services limits schedule request s).1 = .abandoned fault := by
  by_cases hws : chosen limits request fetched = []
  · exact .inl ⟨hws, by rw [run_of_idle schedule h hws]⟩
  · right
    rw [run_of_feed schedule h hws]
    dsimp only
    rcases (evaluateAll services limits.maxConcurrency schedule request.context
      (chosen limits request fetched) s').1 with fault | outcomes
    · exact .inr ⟨fault, rfl⟩
    · exact (settle_cases request outcomes _).imp_left fun completed => ⟨outcomes, rfl, completed⟩

omit [Levels] in
theorem toReport_abandoned_eq_ok {fault : Fault} {report : Report} :
    (Batch.abandoned fault).toReport = .ok report ↔
      ∃ error, fault.report = .ok error ∧ .failed error = report := by
  rw [Batch.toReport, bind_eq_ok]
  simp only [pure_eq_ok]

/-- A report of success has the outcomes of the workflows that have one, in their order. -/
theorem execute_workflowIds (schedule : Schedule) {fetched : List Workflow}
    (h : services.feed request.trigger limits.maxWorkflows s = (.ok fetched, s')) {report : Report}
    (told : (execute services limits schedule request s).1 = .ok report)
    (success : report.success = true) :
    report.outcomes.map WorkflowOutcome.workflowId =
      ((chosen limits request fetched).filter (hasOutcome request.context)).map Workflow.id := by
  rw [execute_apply] at told
  rcases run_cases schedule h with ⟨none, hrun⟩ | ⟨outcomes, houtcomes, hrun⟩ | ⟨fault, hrun⟩
  · rw [hrun] at told
    cases told
    rw [none]
    rfl
  · rw [hrun] at told
    cases told
    exact evaluateAll_workflowIds limits.maxConcurrency schedule request.context _ s' houtcomes
  · rw [hrun] at told
    obtain ⟨error, -, rfl⟩ := toReport_abandoned_eq_ok.mp told
    cases success

end Engine

end TriggerFlow
