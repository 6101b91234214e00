import Mathlib.Data.List.ReduceOption
import TriggerFlow.Proofs.Execution.Batch
import TriggerFlow.Proofs.Outcome

/-! # Reports are coherent

Whatever its services answer, the parts of a report of an engine fit together: the details are the
actions of the outcomes in their order, a report of failure has no action, and an outcome that is a
failure has none either (`Report.Arranged`).  The report leaves out an outcome whose action cannot be
read; the engine makes no such outcome, so nothing is lost there (`judge_arranged`).  Whether there is
a report at all, and whether a failure tells an error and one of two codes, depends on the faults of the
services (`reports_coherent`): the handlers write a fault that they do not know, and a fault without a
text fails them; of a fault of one of the engine's own kinds they take message and code as they are. -/

namespace TriggerFlow

open Outcome

/-! ### Faults -/

namespace Fault

/-- The fault can be written. -/
def HasText (fault : Fault) : Prop := ∀ cause, fault ≠ .mute cause

/-- The fault can be written, and if it is of one of the engine's kinds, it has a message and the code
of this kind. -/
def Plain : Fault → Prop
  | .mute _ => False
  | .custom .logic message code => message.isSome ∧ code = some FaultCode.logic.text
  | .custom .timeout message code => message.isSome ∧ code = some FaultCode.timeout.text
  | .custom .other message _ => message.isSome
  | _ => True

variable {fault : Fault}

theorem HasText.exists_report (h : fault.HasText) : ∃ error, fault.report = .ok error := by
  cases hreport : fault.report with
  | error cause => exact absurd (report_eq_error.mp hreport) (h cause)
  | ok error => exact ⟨error, rfl⟩

theorem Plain.report_isSome (h : fault.Plain) {error : Option String}
    (reported : fault.report = .ok error) : error.isSome := by
  cases fault with
  | mute => exact h.elim
  | custom kind message code =>
      cases reported
      cases kind with
      | logic | timeout => exact h.1
      | other => exact h
  | logic | timeout | store | invalid | breakdown | failure =>
      cases reported
      rfl

end Fault

/-! ### Outcomes -/

namespace WorkflowOutcome

/-- A success without an error whose action can be read, or a failure that has neither result nor
action. -/
inductive Arranged (o : WorkflowOutcome) : Prop
  | success (succeeds : o.success = true) (error : o.error = none) (code : o.errorCode = none)
      (action : Option ActionDetail) (reads : o.detail? = .ok action)
  | failure (fails : o.success = false) (result : o.result = .null) (reads : o.detail? = .ok none)

/-- A failure tells its error and one of two codes. -/
def Told (o : WorkflowOutcome) : Prop :=
  o.success = false → o.error.isSome ∧
    (o.errorCode = some "LOGIC_ERROR" ∨ o.errorCode = some "EVALUATION_TIMEOUT")

theorem Arranged.exists_detail {o : WorkflowOutcome} (h : o.Arranged) :
    ∃ action, o.detail? = .ok action := by
  cases h with
  | success _ _ _ action reads => exact ⟨action, reads⟩
  | failure _ _ reads => exact ⟨none, reads⟩

theorem failed_arranged (w : Workflow) (fault : Fault) : (failed w fault).Arranged :=
  .failure rfl rfl rfl

theorem failed_logic_told (w : Workflow) (fault : LogicFault) : (failed w (.logic fault)).Told :=
  fun _ => ⟨rfl, .inl rfl⟩

/-- A success is written and read with the same action. -/
theorem detail?_succeeded (w : Workflow) (action : Option Action) :
    (succeeded w action).detail? =
      .ok (action.map fun a => ⟨w.id, w.name, .str a.type, a.config⟩) := by
  cases action with
  | none => rfl
  | some a =>
      obtain ⟨type, config⟩ := a
      cases config <;> rfl

theorem succeeded_arranged (w : Workflow) (action : Option Action) :
    (succeeded w action).Arranged :=
  .success rfl rfl rfl _ (detail?_succeeded w action)

end WorkflowOutcome

/-- What a plain fault is contained as tells its error and its code. -/
theorem Fault.Plain.failed_told {fault contained : Fault} {kind : String → LogicFault}
    (h : fault.Plain) (hcontain : fault.contain kind = .ok contained) (w : Workflow) :
    (WorkflowOutcome.failed w contained).Told := by
  cases fault with
  | mute => exact h.elim
  | timeout =>
      cases hcontain
      exact fun _ => ⟨rfl, .inr rfl⟩
  | custom k message code =>
      cases k with
      | logic =>
          cases hcontain
          exact fun _ => ⟨h.1, .inl h.2⟩
      | timeout =>
          cases hcontain
          exact fun _ => ⟨h.1, .inr h.2⟩
      | other =>
          cases hcontain
          exact WorkflowOutcome.failed_logic_told w _
  | logic | store | invalid | breakdown | failure =>
      cases hcontain
      exact WorkflowOutcome.failed_logic_told w _

/-! ### Reports -/

namespace Report

/-- A report whose parts fit together. -/
structure Arranged (r : Report) : Prop where
  outcomes : ∀ o ∈ r.outcomes, o.Arranged
  /-- The action of every outcome can be read, and the details are these actions. -/
  details : ∃ found, r.outcomes.mapM WorkflowOutcome.detail? = .ok found ∧
    r.details = found.reduceOption
  actions : r.actions = r.details.map ActionDetail.type
  failure : r.success = false → r.actions = [] ∧ r.details = [] ∧ r.executed = 0
  success : r.success = true → r.error = none ∧ r.executed = r.outcomes.length

/-- A report whose parts fit together and that tells of every failure what it is. -/
structure Coherent (r : Report) : Prop extends r.Arranged where
  error : r.success = false → r.error.isSome
  told : ∀ o ∈ r.outcomes, o.Told

theorem failed_arranged (error : Option String) : (failed error).Arranged where
  outcomes := nofun
  details := ⟨[], rfl, rfl⟩
  actions := rfl
  failure _ := ⟨rfl, rfl, rfl⟩
  success := nofun

theorem exists_details {outcomes : List WorkflowOutcome} (h : ∀ o ∈ outcomes, o.Arranged) :
    ∃ found, outcomes.mapM WorkflowOutcome.detail? = .ok found ∧
      outcomes.filterMap WorkflowOutcome.detail = found.reduceOption := by
  induction outcomes with
  | nil => exact ⟨[], rfl, rfl⟩
  | cons o rest ih =>
      obtain ⟨first, others⟩ := List.forall_mem_cons.mp h
      obtain ⟨action, reads⟩ := first.exists_detail
      obtain ⟨found, hfound, hrest⟩ := ih others
      refine ⟨action :: found, mapM_eq_ok.mpr (.cons reads (mapM_eq_ok.mp hfound)), ?_⟩
      have detail : o.detail = action := by rw [WorkflowOutcome.detail, reads]
      rw [List.filterMap_cons, detail, hrest]
      cases action <;> rfl

theorem ofOutcomes_arranged {outcomes : List WorkflowOutcome} (h : ∀ o ∈ outcomes, o.Arranged) :
    (ofOutcomes outcomes).Arranged where
  outcomes := h
  details := exists_details h
  actions := rfl
  failure := nofun
  success _ := ⟨rfl, rfl⟩

end Report

/-- Every fault of a batch has the property `P`, and every outcome has `Q`. -/
def Batch.All (P : Fault → Prop) (Q : WorkflowOutcome → Prop) : Batch → Prop
  | .unavailable fault | .abandoned fault => P fault
  | .idle => True
  | .completed outcomes => ∀ o ∈ outcomes, Q o

namespace Batch

variable {P : Fault → Prop} {Q : WorkflowOutcome → Prop} {batch : Batch}

/-- A batch whose faults can all be written has a report. -/
theorem All.exists_report (h : batch.All Fault.HasText Q) : ∃ report, batch.toReport = .ok report := by
  cases batch with
  | unavailable fault | abandoned fault =>
      obtain ⟨error, told⟩ := Fault.HasText.exists_report h
      exact ⟨_, Engine.toReport_abandoned_eq_ok.mpr ⟨error, told, rfl⟩⟩
  | idle | completed outcomes => exact ⟨_, rfl⟩

theorem All.arranged (h : batch.All P WorkflowOutcome.Arranged) {report : Report}
    (told : batch.toReport = .ok report) : report.Arranged := by
  cases batch with
  | unavailable fault | abandoned fault =>
      obtain ⟨error, -, rfl⟩ := Engine.toReport_abandoned_eq_ok.mp told
      exact Report.failed_arranged error
  | idle =>
      cases told
      exact Report.ofOutcomes_arranged nofun
  | completed outcomes =>
      cases told
      exact Report.ofOutcomes_arranged h

theorem All.coherent (h : batch.All Fault.Plain WorkflowOutcome.Told) {report : Report}
    (arranged : report.Arranged) (told : batch.toReport = .ok report) : report.Coherent := by
  cases batch with
  | unavailable fault | abandoned fault =>
      obtain ⟨error, reported, rfl⟩ := Engine.toReport_abandoned_eq_ok.mp told
      exact ⟨arranged, fun _ => Fault.Plain.report_isSome h reported, nofun⟩
  | idle =>
      cases told
      exact ⟨arranged, nofun, nofun⟩
  | completed outcomes =>
      cases told
      exact ⟨arranged, nofun, h⟩

end Batch

/-- Every fault that one of the services answers has the property. -/
structure Services.Fails {σ : Type} (services : Services σ) (P : Fault → Prop) : Prop where
  feed : ∀ trigger n s fault, (services.feed trigger n s).1 = .error fault → P fault
  find : ∀ id s fault, (services.find id s).1 = .error fault → P fault
  evaluate : ∀ tree context s fault, (services.evaluate tree context s).1 = .error fault → P fault
  record : ∀ event o s fault, (services.record event o s).1 = .error fault → P fault

namespace Engine

variable {σ : Type} {services : Services σ} {P : Fault → Prop} {Q : WorkflowOutcome → Prop}

/-! ### One workflow -/

theorem judge_arranged {w : Workflow} {result : Outcome} {o : WorkflowOutcome}
    (h : judge w result = .ok o) : o.Arranged := by
  unfold judge at h
  split at h
  · obtain ⟨contained, -, h⟩ := bind_eq_ok.mp h
    cases h
    exact WorkflowOutcome.failed_arranged w contained
  · split at h
    · cases h
      exact WorkflowOutcome.succeeded_arranged w _
    · cases h
      exact WorkflowOutcome.failed_arranged w _

theorem judge_told {w : Workflow} {result : Outcome}
    (plain : ∀ fault, result = .error fault → fault.Plain) {o : WorkflowOutcome}
    (h : judge w result = .ok o) : o.Told := by
  unfold judge at h
  split at h
  · obtain ⟨contained, hcontain, h⟩ := bind_eq_ok.mp h
    cases h
    exact (plain _ rfl).failed_told hcontain w
  · split at h
    · cases h
      exact nofun
    · cases h
      exact WorkflowOutcome.failed_logic_told w _

theorem exists_judge {result : Outcome} (h : ∀ fault, result = .error fault → fault.HasText)
    (w : Workflow) : ∃ o, judge w result = .ok o := by
  cases hjudge : judge w result with
  | error cause => exact absurd rfl (h _ (judge_eq_error.mp hjudge) cause)
  | ok o => exact ⟨o, rfl⟩

theorem trialReport_arranged {o : WorkflowOutcome} (h : o.Arranged) :
    (trialReport o).Arranged := by
  unfold trialReport
  have each : ∀ o' ∈ [o], o'.Arranged := fun o' ho => List.mem_singleton.mp ho ▸ h
  cases h with
  | success succeeds =>
      rw [if_pos succeeds]
      exact Report.ofOutcomes_arranged each
  | failure fails result reads =>
      rw [fails, if_neg Bool.false_ne_true]
      exact ⟨each, ⟨[none], mapM_eq_ok.mpr (.cons reads .nil), rfl⟩, rfl, fun _ => ⟨rfl, rfl, rfl⟩,
        nofun⟩

theorem trialReport_coherent {o : WorkflowOutcome} (h : o.Arranged) (told : o.Told) :
    (trialReport o).Coherent := by
  refine ⟨trialReport_arranged h, ?_, ?_⟩
  all_goals
    unfold trialReport
    split
  · exact nofun
  · rename_i fails
    exact fun _ => (told (Bool.not_eq_true _ ▸ fails)).1
  all_goals exact fun o' ho => List.mem_singleton.mp ho ▸ told

/-! ### The operations -/

/-- The answer of an operation: the parts of a report fit together; there is a report unless a service
fails with a fault that cannot be written, and it tells of every failure what it is unless a service
fails with a fault that is not plain. -/
structure Answered (services : Services σ) (answer : Except Fault Report) : Prop where
  arranged : ∀ report, answer = .ok report → report.Arranged
  reported : services.Fails Fault.HasText → ∃ report, answer = .ok report
  coherent : services.Fails Fault.Plain → ∀ report, answer = .ok report → report.Coherent

theorem answered_toReport {batch : Batch} (arranged : batch.All (fun _ => True) (·.Arranged))
    (reported : services.Fails Fault.HasText → batch.All Fault.HasText fun _ => True)
    (coherent : services.Fails Fault.Plain → batch.All Fault.Plain (·.Told)) :
    Answered services batch.toReport where
  arranged _ told := arranged.arranged told
  reported fails := (reported fails).exists_report
  coherent fails _ told := (coherent fails).coherent (arranged.arranged told) told

/-- A workflow that is tried out has the answer of its one evaluation; if it cannot be loaded, the
answer is that of a batch that cannot be loaded. -/
theorem trial_answered (id : String) (context : Value) (s : σ) :
    Answered services (trial services id context s).1 := by
  unfold trial
  rw [StateM.bind_apply]
  rcases hfind : (services.find id s).1 with fault | _ | w
  · exact @answered_toReport _ services (.unavailable fault) trivial
      (fun fails => fails.find id s fault hfind) fun fails => fails.find id s fault hfind
  · refine ⟨?_, fun _ => ⟨_, rfl⟩, fun _ => ?_⟩
    all_goals rintro _ ⟨⟩
    · exact Report.failed_arranged _
    · exact ⟨Report.failed_arranged _, fun _ => rfl, nofun⟩
  · obtain ⟨result, hresult⟩ : ∃ result,
        (services.evaluate w.tree context (services.find id s).2).1 = result := ⟨_, rfl⟩
    change Answered services ((judge w _).map trialReport)
    rw [hresult]
    refine ⟨fun report h => ?_, fun fails => ?_, fun fails report h => ?_⟩
    · obtain ⟨o, ho, rfl⟩ := map_eq_ok.mp h
      exact trialReport_arranged (judge_arranged ho)
    · obtain ⟨o, ho⟩ := exists_judge (fun fault h => fails.evaluate _ _ _ fault (hresult.trans h)) w
      exact ⟨_, map_eq_ok.mpr ⟨o, ho, rfl⟩⟩
    · obtain ⟨o, ho, rfl⟩ := map_eq_ok.mp h
      exact trialReport_coherent (judge_arranged ho)
        (judge_told (fun fault h => fails.evaluate _ _ _ fault (hresult.trans h)) ho)

section

variable [Levels]

/-- A batch whose outcomes are known ends with these, or with a fault of the recorder or of the id of
its business object. -/
theorem settle_all (fails : services.Fails P) (breakdown : ∀ cause, P (.breakdown cause))
    (request : Request) {outcomes : List WorkflowOutcome} (each : ∀ o ∈ outcomes, Q o) (s : σ) :
    (settle services request outcomes s).1.All P Q := by
  cases hdry : request.dryRun with
  | true =>
      rw [settle_of_dryRun hdry]
      exact each
  | false =>
      rcases hevent : eventOf request with cause | event
      · rw [settle_of_eventOf_error hdry hevent]
        exact breakdown cause
      · rw [settle_of_event hdry hevent]
        rcases recorded : (recordAll services event outcomes s).1 with fault | _
        · obtain ⟨o, t, failed⟩ := recordAll_eq_error recorded
          exact fails.record event o t fault failed
        · exact each

/-- What holds of the faults of the services holds of the fault of a batch, and what follows of a
judgement holds of its outcomes. -/
theorem run_all (fails : services.Fails P) (breakdown : ∀ cause, P (.breakdown cause))
    (inner : ∀ cause, P (.mute cause) → P cause)
    (hfailed : ∀ w contained, Q (.failed w (.logic contained)))
    (hjudged : ∀ w result, (∀ fault, result = .error fault → P fault) →
      ∀ o, judge w result = .ok o → Q o)
    (limits : Limits) (schedule : Schedule) (request : Request) (s : σ) :
    (run services limits schedule request s).1.All P Q := by
  obtain ⟨answer, s', hfeed⟩ : ∃ answer s',
      services.feed request.trigger limits.maxWorkflows s = (answer, s') := ⟨_, _, rfl⟩
  cases answer with
  | error fault =>
      rw [run_of_feed_error schedule hfeed]
      exact fails.feed _ _ s fault (congrArg Prod.fst hfeed)
  | ok fetched =>
      by_cases hws : chosen limits request fetched = []
      · rw [run_of_idle schedule hfeed hws]
        trivial
      · have evaluates : ∀ w ∈ chosen limits request fetched, Keeps (fun _ => True)
            (fun result => ∀ o, judge w result = .ok o → Q o)
            (services.evaluate w.tree request.context) :=
          fun w _ t _ => ⟨hjudged w _ fun fault => fails.evaluate _ _ t fault, trivial⟩
        obtain ⟨⟨each, mute⟩, -⟩ := evaluateAll_keeps hfailed evaluates limits.maxConcurrency
          schedule s' trivial
        rw [run_of_feed schedule hfeed hws]
        dsimp only
        rcases results : (evaluateAll services limits.maxConcurrency schedule request.context
          (chosen limits request fetched) s').1 with cause | outcomes
        · obtain ⟨w, -, t, -, failed⟩ := mute cause results
          exact inner cause (fails.evaluate _ _ t _ failed)
        · exact settle_all fails breakdown request (each outcomes results) _

theorem execute_answered (limits : Limits) (schedule : Schedule) (request : Request) (s : σ) :
    Answered services (execute services limits schedule request s).1 := by
  refine answered_toReport ?_ (fun fails => ?_) fun fails => ?_
  · exact run_all ⟨fun _ _ _ _ _ => trivial, fun _ _ _ _ => trivial, fun _ _ _ _ _ => trivial,
      fun _ _ _ _ _ => trivial⟩ (fun _ => trivial) (fun _ _ => trivial)
      (fun w _ => WorkflowOutcome.failed_arranged w _) (fun _ _ _ _ => judge_arranged) limits
      schedule request s
  · exact run_all fails (fun _ => nofun) (fun cause h => absurd rfl (h cause)) (fun _ _ => trivial)
      (fun _ _ _ _ _ => trivial) limits schedule request s
  · exact run_all fails (fun _ => trivial) (fun _ => False.elim)
      (fun w _ => WorkflowOutcome.failed_logic_told w _) (fun _ _ plain _ => judge_told plain)
      limits schedule request s

/-- **Reports are coherent, but for the faults of the services.**  Whatever the services answer at any
call, the parts of a report fit together.  As long as every fault of theirs can be written, both
operations of the engine give a report; and as long as every fault is plain, the report tells of each
failure what it is. -/
theorem reports_coherent (services : Services σ) (limits : Limits) (schedule : Schedule) (s : σ) :
    (∀ request, Answered services (execute services limits schedule request s).1) ∧
      ∀ id context, Answered services (trial services id context s).1 :=
  ⟨fun request => execute_answered limits schedule request s,
    fun id context => trial_answered id context s⟩

end

/-! ### Services that fail -/

/-- One workflow in a store whose feed fails with the one fault, if any, and whose sandbox fails with
the other. -/
def failingServices (feed : Option Fault) (evaluation : Fault) : Services Unit where
  feed _ _ := pure (match feed with
    | some fault => .error fault
    | none => .ok [{ id := "w", name := "w", trigger := "ORDER_CREATED", tree := .null }])
  find _ := pure (.ok (some { id := "w", name := "w", trigger := "ORDER_CREATED", tree := .null }))
  evaluate _ _ := pure (.error evaluation)
  record _ _ := pure (.ok true)

/-- A fault whose text is that of an integer which is too long to be written. -/
def untoldFault : Fault := .mute (.breakdown .integerTooLong)

/-- A request about an order. -/
def orderRequest : Request :=
  { trigger := "ORDER_CREATED", context := .object [("orderId", .str "o7")] }

/-- Faults that a component made itself are reported like the engine's own. -/
theorem reports_coherent_failingServices :
    ∃ report, (execute (failingServices none (.custom .logic (some "no rates") (some "LOGIC_ERROR")))
        {} [] orderRequest ()).1 = .ok report ∧
      report.Coherent ∧ report.outcomes.map WorkflowOutcome.error = [some "no rates"] := by
  obtain ⟨executed, -⟩ := reports_coherent
    (failingServices none (.custom .logic (some "no rates") (some "LOGIC_ERROR"))) {} [] ()
  have plain : (failingServices none
      (.custom .logic (some "no rates") (some "LOGIC_ERROR"))).Fails Fault.Plain := by
    refine ⟨nofun, nofun, ?_, nofun⟩
    rintro _ _ _ _ ⟨⟩
    exact ⟨rfl, rfl⟩
  exact ⟨_, rfl, (executed orderRequest).coherent plain _ rfl, rfl⟩

/-- The handlers fail with a fault that cannot be written: a batch raises if its feed fails so, and a
trial if its evaluation does.  And of a fault of logic the outcome takes what the component gave it,
even if that is no message and another code. -/
theorem untoldFault_is_raised :
    (execute (failingServices (some untoldFault) untoldFault) {} [] orderRequest ()).1 =
        .error (.breakdown .integerTooLong) ∧
      (trial (failingServices none untoldFault) "w" (.object []) ()).1 =
        .error (.breakdown .integerTooLong) ∧
      ∃ report, (execute (failingServices none (.custom .logic none (some "RATES"))) {} []
          orderRequest ()).1 = .ok report ∧
        report.outcomes.map (fun o => (o.error, o.errorCode)) = [(none, some "RATES")] ∧
        ¬ report.Coherent := by
  refine ⟨rfl, rfl, _, rfl, rfl, fun coherent => ?_⟩
  exact Bool.false_ne_true (coherent.told _ (List.mem_singleton_self _) rfl).1

end Engine

end TriggerFlow
