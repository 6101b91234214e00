import TriggerFlow.Proofs.Execution.Coherence
import TriggerFlow.Proofs.Execution.Correlation
import TriggerFlow.Proofs.Value.Limits

/-! # A trial predicts the batch

A workflow is judged in a trial as it is in a batch, so the trial tells beforehand what an event that
meets this workflow alone will lead to (`trial_predicts_execute`).  The reports differ only where the
outcome is a failure: then the trial has failed, and the batch has run without an action.  A trial
looks at the tree of the workflow alone, so it says nothing about an event whose business object cannot
be written down; there the batch is lost (`recordedUnder_eq_error`).  And where the sandbox fails with a
fault that has no text there is no outcome: the trial raises, and the batch is lost. -/

namespace TriggerFlow

open Outcome

/-! ### Events that cannot be told -/

/-- The business object of a request that is recorded has an id, which cannot be written. -/
def Request.Untold [Levels] (request : Request) (cause : Breakdown) : Prop :=
  request.dryRun = false ∧
    ∃ v, request.considered.find? (!·.isNull) = some v ∧ v.Unwritable cause

theorem firstText_eq_error [Levels] {ids : List Value} {cause : Breakdown} :
    firstText ids = .error cause ↔ ∃ v, ids.find? (!·.isNull) = some v ∧ v.Unwritable cause := by
  unfold firstText
  cases ids.find? (!·.isNull) with
  | none => exact ⟨nofun, fun ⟨_, h, _⟩ => by cases h⟩
  | some v =>
      simp only [map_eq_error, Value.textWithin_eq_error, Option.some.injEq]
      constructor
      · exact fun h => ⟨v, rfl, h⟩
      · rintro ⟨_, rfl, h⟩
        exact h

namespace Engine

theorem recordedUnder_eq_error [Levels] {request : Request} {entries : Entries} {cause : Breakdown}
    (hcontext : request.context = .object entries) :
    recordedUnder request = .error cause ↔ request.Untold cause := by
  unfold Request.Untold
  cases hdry : request.dryRun with
  | true =>
      rw [recordedUnder_of_dryRun hdry]
      exact ⟨nofun, nofun⟩
  | false =>
      rw [recordedUnder_of_recorded hdry, map_eq_error, eventOf_eq hcontext, map_eq_error,
        firstText_eq_error]
      exact (and_iff_right rfl).symm

end Engine

/-! ### Two reports of one outcome -/

/-- The reports of a trial and of a batch whose only outcome is the same.  A success is told by both
alike.  A failure is that of the trial, but one outcome without an action to the batch. -/
structure Report.Predicts (trial batch : Report) (o : WorkflowOutcome) : Prop where
  trialOutcomes : trial.outcomes = [o]
  batchOutcomes : batch.outcomes = [o]
  success : o.success = true → trial = batch ∧ batch.success = true ∧ batch.executed = 1
  failure : o.success = false →
    (trial.success = false ∧ trial.error = o.error ∧ trial.executed = 0) ∧
    batch.success = true ∧ batch.error = none ∧ batch.actions = [] ∧ batch.details = [] ∧
      batch.executed = 1

namespace Engine

theorem trialReport_outcomes (o : WorkflowOutcome) : (trialReport o).outcomes = [o] := by
  unfold trialReport
  split <;> rfl

theorem trialReport_predicts {o : WorkflowOutcome} (h : o.Arranged) :
    (trialReport o).Predicts (.ofOutcomes [o]) o := by
  refine ⟨trialReport_outcomes o, rfl, fun succeeds => ?_, fun fails => ?_⟩
  · rw [trialReport, if_pos succeeds]
    exact ⟨rfl, rfl, rfl⟩
  · cases h with
    | success succeeds => exact absurd (succeeds.symm.trans fails) (by decide)
    | failure _ _ reads =>
        have details : (Report.ofOutcomes [o]).details = [] := by
          change [o].filterMap WorkflowOutcome.detail = []
          rw [List.filterMap_cons_none (by rw [WorkflowOutcome.detail, reads]), List.filterMap_nil]
        have actions : (Report.ofOutcomes [o]).actions = [] := congrArg (List.map _) details
        rw [trialReport, fails, if_neg Bool.false_ne_true]
        exact ⟨⟨rfl, rfl, rfl⟩, rfl, rfl, actions, details, rfl⟩

/-! ### One workflow, tried and met -/

section

variable [Levels]

variable {σ : Type} {services : Services σ} {f : Value → Value → Outcome}

/-- The event of a request meets the workflow alone: no other is fetched, there is room for it, it
runs on the trigger, and its filters let the event fire. -/
structure MeetsAlone (services : Services σ) (limits : Limits) (request : Request) (w : Workflow)
    (s : σ) : Prop where
  fetched : (services.feed request.trigger limits.maxWorkflows s).1 = .ok [w]
  room : 1 ≤ limits.maxWorkflows
  eligible : w.isEligible request.trigger = true
  fires : Filter.fires w.config request.context = .ok true

theorem MeetsAlone.chosen_eq {limits : Limits} {request : Request} {w : Workflow} {s : σ}
    (h : MeetsAlone services limits request w s) : chosen limits request [w] = [w] := by
  have room := h.room
  have eligible : [w].filter (·.isEligible request.trigger) = [w] :=
    List.filter_eq_self.mpr (List.forall_mem_singleton.mpr h.eligible)
  rw [chosen_eq_take (by omega), eligible]
  exact List.take_of_length_le (show 1 ≤ limits.maxWorkflows.toNat by omega)

/-- What comes of a batch that meets one workflow alone. -/
theorem MeetsAlone.execute_eq {limits : Limits} {request : Request} {w : Workflow} {s : σ}
    (h : MeetsAlone services limits request w s) (steady : services.Steady f)
    (schedule : Schedule) :
    (execute services limits schedule request s).1 =
      match judge w (f w.tree request.context) with
      | .error cause => (Batch.abandoned cause).toReport
      | .ok o =>
        match recordedUnder request with
        | .ok _ => .ok (.ofOutcomes [o])
        | .error cause => (Batch.abandoned (.breakdown cause)).toReport := by
  have fetched : services.feed request.trigger limits.maxWorkflows s =
      (.ok [w], (services.feed request.trigger limits.maxWorkflows s).2) :=
    Prod.ext h.fetched rfl
  rcases judged : judge w (f w.tree request.context) with cause | o
  · have untold : Untold f request.context w cause := ⟨h.fires, judge_eq_error.mp judged⟩
    have mem : w ∈ chosen limits request [w] := by
      rw [h.chosen_eq]
      exact List.mem_singleton_self w
    obtain ⟨v, hv, fault, lost, abandoned⟩ :=
      execute_of_untold steady limits schedule request fetched mem untold
    rw [h.chosen_eq, List.mem_singleton] at hv
    subst hv
    cases lost.2.symm.trans untold.2
    exact abandoned
  · have told : ∀ v ∈ chosen limits request [w], ∀ cause, ¬ Untold f request.context v cause := by
      intro v hv cause untold
      rw [h.chosen_eq, List.mem_singleton] at hv
      subst hv
      cases judged.symm.trans (judge_eq_error.mpr untold.2)
    have outcome : outcomeOf f request.context w = some o := by
      rw [outcomeOf, verdict, h.fires]
      dsimp only
      rw [judged]
      rfl
    rw [execute_of_told steady limits schedule request fetched told, h.chosen_eq,
      List.filterMap_cons_some outcome]
    rcases recordedUnder request with cause | event
    · exact if_neg (List.cons_ne_nil _ _)
    · rfl

omit [Levels] in
/-- A trial depends on the id, the name and the tree of the workflow that is found. -/
theorem trial_eq (steady : services.Steady f) {id : String} {w : Workflow} {s : σ}
    (hfind : (services.find id s).1 = .ok (some w)) (context : Value) :
    (trial services id context s).1 = (judge w (f w.tree context)).map trialReport := by
  unfold trial
  rw [StateM.bind_apply, hfind]
  exact congrArg (fun result => (judge w result).map trialReport) (steady.evaluates _ _ _)

/-- **A trial predicts the batch.**  Let the sandbox answer by a function of the tree and the context,
and let the recorder not raise.  The trial of a workflow has one outcome, unless the sandbox fails with
a fault that has no text; then the trial raises.  A request with the same context that meets this
workflow alone has the same outcome, however it is scheduled, and whether it is recorded or not.  But if
the business object of the request cannot be written, or if there is no outcome, then the batch is lost.
The trial comes out the same if the workflow is stored with other flags, under another trigger and with
another trigger config, wherever that is. -/
theorem trial_predicts_execute (steady : services.Steady f) {w : Workflow} {s : σ}
    (hfind : (services.find w.id s).1 = .ok (some w)) (entries : Entries) :
    let context := Value.object entries
    let tried := (trial services w.id context s).1
    (match judge w (f w.tree context) with
      | .ok o => ∃ report, tried = .ok report ∧ report.outcomes = [o] ∧
        ∀ limits schedule request t, request.context = context →
          MeetsAlone services limits request w t →
          let answer := (execute services limits schedule request t).1
          ((∀ cause, ¬ request.Untold cause) → ∃ batch, answer = .ok batch ∧ report.Predicts batch o) ∧
          ∀ cause, request.Untold cause → ∃ error, answer = .ok (.failed (some error))
      | .error cause => f w.tree context = .error (.mute cause) ∧ tried = .error cause ∧
        ∀ limits schedule request t, request.context = context →
          MeetsAlone services limits request w t →
          (execute services limits schedule request t).1 = (Batch.abandoned cause).toReport) ∧
    ∀ (active : Value) (status : Option String) (trigger : String) (config : Value)
      {τ : Type} (others : Services τ) (t : τ), others.Steady f →
      (others.find w.id t).1 = .ok (some { w with active, status, trigger, config }) →
      (trial others w.id context t).1 = tried := by
  intro context tried
  have trying : tried = (judge w (f w.tree context)).map trialReport :=
    trial_eq steady hfind context
  refine ⟨?_, ?_⟩
  · rcases judged : judge w (f w.tree context) with cause | o
    all_goals
      rw [judged] at trying
      dsimp only
    · refine ⟨judge_eq_error.mp judged, trying, fun limits schedule request t hcontext meets => ?_⟩
      have met := meets.execute_eq steady schedule
      rwa [hcontext, judged] at met
    · refine ⟨_, trying, trialReport_outcomes o, fun limits schedule request t hcontext meets => ?_⟩
      have met := meets.execute_eq steady schedule
      rw [hcontext, judged] at met
      dsimp only at met
      refine ⟨fun told => ?_, fun cause untold => ?_⟩
      · rcases hevent : recordedUnder request with cause | event
        · exact absurd ((recordedUnder_eq_error hcontext).mp hevent) (told cause)
        · rw [hevent] at met
          exact ⟨_, met, trialReport_predicts (judge_arranged judged)⟩
      · rw [(recordedUnder_eq_error hcontext).mpr untold] at met
        exact ⟨_, met⟩
  · intro active status trigger config τ others t steady' found
    rw [trying, trial_eq steady' found]
    cases f w.tree context <;> rfl

end

/-! ### A failure that is predicted, and a batch that is lost -/

/-- A workflow whose action is none that there is. -/
def launch : Workflow := { approval "launch" .null with tree := .object [("action", .str "LAUNCH")] }

/-- A store of that workflow. -/
def launchStore : Memory where
  workflows := [launch]
  isSorted := false

/-- Its trial fails; the batch runs, with the same failure as its outcome. -/
theorem trial_predicts_execute_launch :
    let services := Memory.backend.services Rule.evaluate
    ∃ report batch, (trial services "launch" (.object []) { sink := launchStore }).1 = .ok report ∧
      (execute services {} [] { trigger := "ORDER_CREATED", context := .object [] }
        { sink := launchStore }).1 = .ok batch ∧
      report.success = false ∧ report.executed = 0 ∧ batch.success = true ∧ batch.executed = 1 ∧
      report.outcomes = batch.outcomes ∧ report.outcomes.length = 1 := by
  intro services
  obtain ⟨⟨report, tried, -, predicts⟩, -⟩ := @trial_predicts_execute _ _ services Rule.evaluate
    (Memory.backend.services_steady Rule.evaluate) launch { sink := launchStore } rfl []
  have meets : MeetsAlone services {} { trigger := "ORDER_CREATED", context := .object [] } launch
      { sink := launchStore } := ⟨rfl, by decide, by decide, rfl⟩
  have told : ∀ cause,
      ¬ Request.Untold { trigger := "ORDER_CREATED", context := .object [] } cause := by
    rintro cause ⟨-, v, found, -⟩
    cases found
  obtain ⟨batch, met, both⟩ := (predicts {} [] _ _ rfl meets).1 told
  obtain ⟨⟨fails, -, none⟩, runs, -, -, -, one⟩ := both.failure (by decide +kernel)
  exact ⟨report, batch, tried, met, fails, none, runs, one,
    both.trialOutcomes.trans both.batchOutcomes.symm, congrArg List.length both.trialOutcomes⟩

/-- The trial of a workflow succeeds, and the batch that meets it alone is lost with its outcome. -/
theorem nestedOrder_is_not_predicted :
    let services := Memory.backend.services Rule.evaluate
    let w := approval "sound" .null
    services.Steady Rule.evaluate ∧ (services.find w.id { sink := soleStore }).1 = .ok (some w) ∧
    MeetsAlone services {} (nestedOrder 1999) w { sink := soleStore } ∧
    ∃ report batch,
      (trial services w.id (nestedOrder 1999).context { sink := soleStore }).1 = .ok report ∧
      (execute services {} [] (nestedOrder 1999) { sink := soleStore }).1 = .ok batch ∧
      report.success = true ∧ report.outcomes.length = 1 ∧
      batch.success = false ∧ batch.outcomes = [] ∧ batch.executed = 0 := by
  intro services w
  have meets : MeetsAlone services {} (nestedOrder 1999) w { sink := soleStore } :=
    ⟨rfl, by decide, by decide, rfl⟩
  have steady := Memory.backend.services_steady Rule.evaluate
  have lost := meets.execute_eq steady []
  rw [recordedUnder_of_recorded rfl, eventOf_nestedOrder (by decide)] at lost
  have tried := @trial_eq _ services Rule.evaluate steady w.id w { sink := soleStore } rfl
    (nestedOrder 1999).context
  have approved : judge w (Rule.evaluate w.tree (nestedOrder 1999).context) =
      .ok (.succeeded w (some ⟨"AUTO_APPROVE", []⟩)) := rfl
  rw [approved] at tried
  exact ⟨steady, rfl, meets, _, _, tried, lost, rfl, rfl, rfl, rfl, rfl⟩

end Engine

end TriggerFlow
