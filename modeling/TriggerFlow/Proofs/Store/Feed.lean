import Mathlib.Data.List.Nodup
import TriggerFlow.Proofs.Execution.Dispatch
import TriggerFlow.Proofs.Store.Selection
import TriggerFlow.Store

/-! # The feed of a store

The feed of a trigger is the top of its eligible rows: the rank is a strict order on the rows of a table
(`precedes_of_ranksBefore`), so the rows that are fed go before all that are left out
(`isTop_of_selects`).  The engine tests the rows again, in other words than the query; on the rows of a
table both tests are the same (`isFed_eq_isEligible`), so an engine that is fed by the store runs just the
rows that it is given (`execute_runs_feed`).  A limit that no word of the database holds is an error of
the driver. -/

namespace TriggerFlow

theorem Number.isWord_of_lt {n : Int} (positive : 0 ≤ n) (word : n < 2 ^ 63) : isWord n = true := by
  simp only [isWord, Bool.and_eq_true, decide_eq_true_eq]
  omega

theorem Number.isWord_of_beyond {n : Int} (beyond : 2 ^ 63 ≤ n) : isWord n = false := by
  simp only [isWord, Bool.and_eq_false_iff, decide_eq_false_iff_not]
  omega

namespace Store

/-- What the constraints of the table hold its rows to: the id is a key, the time of creation is there,
and the flag is a truth value. -/
structure IsTable (rows : List Workflow) : Prop where
  distinct : (rows.map Workflow.id).Nodup
  dated : ∀ w ∈ rows, w.created.isSome
  flagged : ∀ w ∈ rows, ∃ b, w.active = .bool b

/-! ### The rank -/

/-- A row goes before another one: by higher priority, then by earlier creation, then by id. -/
def Precedes (v w : Workflow) : Prop :=
  w.priority < v.priority ∨ v.priority = w.priority ∧
    (createdAt v < createdAt w ∨ createdAt v = createdAt w ∧ v.id < w.id)

variable {v w : Workflow}

theorem ranksBefore_iff : ranksBefore v w = true ↔
    w.priority < v.priority ∨ v.priority = w.priority ∧
      (createdAt v < createdAt w ∨ createdAt v = createdAt w ∧ v.id ≤ w.id) := by
  unfold ranksBefore
  have last : (!decide (w.id < v.id)) = true ↔ v.id ≤ w.id := by
    rw [Bool.not_eq_true', decide_eq_false_iff_not, String.not_lt]
  by_cases priority : v.priority = w.priority
  · by_cases created : createdAt v = createdAt w
    · rw [if_neg (by simp [priority]), if_neg (by simp [created]), last]
      simp [priority, created]
    · simp [priority, created]
  · simp [priority]

theorem ranksBefore_trans (v w x : Workflow) (hv : ranksBefore v w = true)
    (hw : ranksBefore w x = true) : ranksBefore v x = true := by
  rw [ranksBefore_iff] at hv hw ⊢
  rcases hv with hv | ⟨pv, cv | ⟨cv, iv⟩⟩
  · exact .inl (by omega)
  · rcases hw with hw | ⟨pw, cw | ⟨cw, -⟩⟩
    · exact .inl (by omega)
    · exact .inr ⟨by omega, .inl (by omega)⟩
    · exact .inr ⟨by omega, .inl (by omega)⟩
  · rcases hw with hw | ⟨pw, cw | ⟨cw, iw⟩⟩
    · exact .inl (by omega)
    · exact .inr ⟨by omega, .inl (by omega)⟩
    · exact .inr ⟨by omega, .inr ⟨by omega, String.le_trans iv iw⟩⟩

theorem ranksBefore_total (v w : Workflow) : (ranksBefore v w || ranksBefore w v) = true := by
  rw [Bool.or_eq_true, ranksBefore_iff, ranksBefore_iff]
  rcases Int.lt_trichotomy v.priority w.priority with hp | hp | hp
  · exact .inr (.inl hp)
  · rcases Int.lt_trichotomy (createdAt v) (createdAt w) with hc | hc | hc
    · exact .inl (.inr ⟨hp, .inl hc⟩)
    · rcases String.le_total v.id w.id with hi | hi
      · exact .inl (.inr ⟨hp, .inr ⟨hc, hi⟩⟩)
      · exact .inr (.inr ⟨hp.symm, .inr ⟨hc.symm, hi⟩⟩)
    · exact .inr (.inr ⟨hp.symm, .inl hc⟩)
  · exact .inl (.inl hp)

/-- Between rows of different ids the rank is strict. -/
theorem precedes_of_ranksBefore (h : ranksBefore v w = true) (distinct : v.id ≠ w.id) :
    Precedes v w := by
  rcases ranksBefore_iff.mp h with hp | ⟨hp, hc | ⟨hc, hi⟩⟩
  · exact .inl hp
  · exact .inr ⟨hp, .inl hc⟩
  · refine .inr ⟨hp, .inr ⟨hc, String.not_le.mp fun hle => ?_⟩⟩
    exact distinct (String.le_antisymm hi hle)

/-! ### The query and the engine's own test -/

theorem isFed_iff {trigger : String} (flagged : ∃ b, w.active = .bool b) :
    isFed trigger w = true ↔
      w.trigger = trigger ∧ w.active = .bool true ∧ w.status = some "ACTIVE" := by
  obtain ⟨b, hb⟩ := flagged
  have flag : (Value.bool b).same (.bool true) = b := by cases b <;> decide
  rw [isFed, hb, flag]
  simp [and_assoc, Status.name]

theorem isFed_eq_isEligible (trigger : String) (flagged : ∃ b, w.active = .bool b) :
    isFed trigger w = w.isEligible trigger := by
  rw [Bool.eq_iff_iff, isFed_iff flagged]
  obtain ⟨b, hb⟩ := flagged
  unfold Workflow.isEligible Workflow.triggersOn Workflow.enabled
  cases b with
  | false => simp [hb, Value.truthy]
  | true =>
      by_cases status : w.status = some "ACTIVE"
      · simp [hb, Value.truthy, Status.name, status]
      · simp [hb, Value.truthy, Status.name, status]

/-! ### The top rows -/

/-- The rows are the first `n` of those that a table has for a trigger. -/
structure IsTop (trigger : String) (n : Nat) (rows fed : List Workflow) : Prop where
  eligible : ∀ w ∈ fed, w ∈ rows ∧ w.trigger = trigger ∧ w.active = .bool true ∧
    w.status = some "ACTIVE"
  length : fed.length = min n (rows.countP (isFed trigger))
  ranked : fed.Pairwise Precedes
  distinct : (fed.map Workflow.id).Nodup
  /-- No row that is left out goes before one that is not. -/
  first : ∀ v ∈ rows, isFed trigger v = true → v ∉ fed → ∀ w ∈ fed, Precedes w v

variable {rows fed : List Workflow} {s : Store} {trigger : String} {n : Int}

theorem isTop_of_selects (table : IsTable rows) {m : Nat}
    (h : Selects (isFed trigger) ranksBefore m rows fed) : IsTop trigger m rows fed := by
  have distinct := h.nodup_map table.distinct
  have ids := List.inj_on_of_nodup_map table.distinct
  refine ⟨fun w hw => ?_, h.length, ?_, distinct, fun v hv hfed left w hw => ?_⟩
  · obtain ⟨mem, hfed⟩ := h.passes w hw
    exact ⟨mem, (isFed_iff (table.flagged w mem)).mp hfed⟩
  · exact (h.ranked.and (List.pairwise_map.mp distinct)).imp fun both =>
      precedes_of_ranksBefore both.1 both.2
  · refine precedes_of_ranksBefore (h.first v hv hfed left w hw) fun same => left ?_
    rwa [← ids (h.passes w hw).1 hv same]

theorem active_eq (hrows : s.workflows = some rows) (hn : 1 ≤ n) (word : n < 2 ^ 63) :
    active trigger n s =
      (.ok (((rows.filter (isFed trigger)).mergeSort ranksBefore).take n.toNat), s) := by
  have positive : ¬ n < 0 := by omega
  unfold active limited
  simp [hrows, Number.isWord_of_lt (Int.not_lt.mp positive) word, positive]

theorem active_of_beyond_word (hrows : s.workflows = some rows) (beyond : 2 ^ 63 ≤ n) :
    active trigger n s = (.error (.breakdown .integerBeyondWord), s) := by
  unfold active
  simp [hrows, Number.isWord_of_beyond beyond]

/-- The test of the engine, and its cut, leave the top rows as they are. -/
theorem IsTop.chosen_eq (top : IsTop trigger n.toNat rows fed) (hn : 1 ≤ n) :
    takeFirst n (fed.filter (·.isEligible trigger)) = fed := by
  have kept : fed.filter (·.isEligible trigger) = fed := by
    refine List.filter_eq_self.mpr fun w hw => ?_
    obtain ⟨-, eligible⟩ := top.eligible w hw
    have flagged : ∃ b, w.active = .bool b := ⟨true, eligible.2.1⟩
    rw [← isFed_eq_isEligible trigger flagged]
    exact (isFed_iff flagged).mpr eligible
  have short : fed.length ≤ n.toNat := top.length ▸ Nat.min_le_left _ _
  have positive : 0 ≤ n := by omega
  rw [kept, takeFirst, if_pos positive, List.take_of_length_le short]

end Store

/-! ### Engines that are fed by a store -/

/-- The services load workflows as the store gives them. -/
def Services.FedBy {σ : Type} (services : Services σ) (r : σ) (s : Store) : Prop :=
  ∀ trigger limit, (services.feed trigger limit r).1 = (Store.active trigger limit s).1

namespace Engine

open Store

section

variable [Levels]

/-- Whatever the services answer, a batch evaluates the workflows on which the event fires, in their
order if one at a time, and asks the recorder afterwards; only a fault of the sandbox that has no text
ends the evaluations early.  A report of success has an outcome for each of these workflows, and for each
whose filter fails, in their order. -/
structure Runs {σ : Type} (services : Services σ) (limits : Limits) (request : Request) (r : σ)
    (ws : List Workflow) : Prop where
  evaluates : ∀ schedule, ∃ evaluated evaluations recorded, evaluated <+: ws ∧
    evaluations.Perm (evaluated.flatMap (evaluation request.context)) ∧
    (limits.maxConcurrency ≤ 1 →
      evaluations = evaluated.flatMap (evaluation request.context)) ∧
    (∀ call ∈ recorded, ∃ event o, call = .recorded event o) ∧
    (execute services.traced limits schedule request (r, [])).2.2 = evaluations ++ recorded ∧
    (services.Telling → evaluated = ws)
  outcomes : ∀ schedule report, (execute services limits schedule request r).1 = .ok report →
    report.success = true →
      report.outcomes.map WorkflowOutcome.workflowId =
        (ws.filter (hasOutcome request.context)).map Workflow.id

variable {σ : Type} {services : Services σ} {r : σ} {limits : Limits} {request : Request}

theorem runs_of_feed {fetched : List Workflow}
    (feed : (services.feed request.trigger limits.maxWorkflows r).1 = .ok fetched)
    (same : chosen limits request fetched = fetched) :
    Runs services limits request r fetched := by
  have hfeed : services.feed request.trigger limits.maxWorkflows r =
      (.ok fetched, (services.feed request.trigger limits.maxWorkflows r).2) := Prod.ext feed rfl
  constructor
  · intro schedule
    have evaluates := execute_evaluates limits schedule request hfeed
    rw [same] at evaluates
    exact evaluates
  · intro schedule report told success
    have ids := execute_workflowIds schedule hfeed told success
    rw [same] at ids
    exact ids

theorem execute_of_feed_error {fault : Fault} (schedule : Schedule)
    (feed : (services.feed request.trigger limits.maxWorkflows r).1 = .error fault) :
    (execute services limits schedule request r).1 = (Batch.unavailable fault).toReport := by
  rw [execute_apply, run_of_feed_error schedule (Prod.ext feed rfl)]

/-- **The engine runs the top of the eligible rows.**  For every table and trigger and every limit from
one on that is a word of the database, the feed is the top of the eligible rows, the test and the cut of
the engine leave it as it is, and the engine runs just these rows in their rank.  A greater limit is an
error of the driver, which the engine reports. -/
theorem execute_runs_feed {rows : List Workflow} (table : IsTable rows) {s : Store}
    (hrows : s.workflows = some rows) (trigger : String) {n : Int} (hn : 1 ≤ n) :
    (n < 2 ^ 63 → ∃ fed, active trigger n s = (.ok fed, s) ∧ IsTop trigger n.toNat rows fed ∧
      takeFirst n (fed.filter (·.isEligible trigger)) = fed ∧
      ∀ {σ : Type} (services : Services σ) (r : σ), services.FedBy r s →
        ∀ (limits : Limits) (request : Request),
          limits.maxWorkflows = n → request.trigger = trigger →
            Runs services limits request r fed) ∧
    (2 ^ 63 ≤ n → active trigger n s = (.error (.breakdown .integerBeyondWord), s) ∧
      ∀ {σ : Type} (services : Services σ) (r : σ), services.FedBy r s →
        ∀ (limits : Limits) (schedule : Schedule) (request : Request),
          limits.maxWorkflows = n → request.trigger = trigger →
            (execute services limits schedule request r).1 =
              .ok (.failed (some "Python int too large to convert to SQLite INTEGER"))) := by
  constructor
  · intro word
    have top : IsTop trigger n.toNat rows _ :=
      isTop_of_selects table (selects_take ranksBefore_trans ranksBefore_total rows n.toNat)
    refine ⟨_, active_eq hrows hn word, top, top.chosen_eq hn, ?_⟩
    intro σ services r fedBy limits request hlimit htrigger
    subst hlimit htrigger
    refine runs_of_feed ?_ (top.chosen_eq hn)
    rw [fedBy, active_eq hrows hn word]
  · intro beyond
    refine ⟨active_of_beyond_word hrows beyond, ?_⟩
    intro σ services r fedBy limits schedule request hlimit htrigger
    subst hlimit htrigger
    have refused : (services.feed request.trigger limits.maxWorkflows r).1 =
        .error (.breakdown .integerBeyondWord) := by
      rw [fedBy, active_of_beyond_word hrows beyond]
    exact execute_of_feed_error schedule refused

end

/-! ### A table with ties -/

/-- A row that approves, of some priority, created at some time. -/
def rankedRow (id : String) (priority : Int) (created : WallTime) : Workflow :=
  { approval id .null with priority, created := some ⟨created, some 0⟩ }

/-- Two rows that only the id ranks, one of a later time, one of a higher priority, and one that is
paused. -/
def tiedRows : List Workflow :=
  [rankedRow "late" 1 7, rankedRow "b" 1 3, rankedRow "a" 1 3, rankedRow "high" 2 9,
    { rankedRow "paused" 5 1 with status := some Status.paused.name }]

def tiedStore : Store := { workflows := some tiedRows }

theorem isTable_tiedRows : IsTable tiedRows := by
  refine ⟨by decide, by decide, fun w hw => ⟨true, ?_⟩⟩
  simp only [tiedRows, List.mem_cons, List.not_mem_nil, or_false] at hw
  rcases hw with rfl | rfl | rfl | rfl | rfl <;> rfl

theorem execute_runs_feed_tiedStore :
    ∃ fed, active "ORDER_CREATED" 3 tiedStore = (.ok fed, tiedStore) ∧ fed.length = 3 ∧
      IsTop "ORDER_CREATED" 3 tiedRows fed ∧
      Runs (backend.services Rule.evaluate) { maxWorkflows := 3 }
        { trigger := "ORDER_CREATED", context := .object [] } { sink := tiedStore } fed := by
  obtain ⟨fed, hfed, top, -, runs⟩ := (execute_runs_feed isTable_tiedRows (s := tiedStore) rfl
    "ORDER_CREATED" (n := 3) (by decide)).1 (by decide)
  refine ⟨fed, hfed, top.length, top, ?_⟩
  exact runs (backend.services Rule.evaluate) { sink := tiedStore } (fun _ _ => rfl)
    { maxWorkflows := 3 } { trigger := "ORDER_CREATED", context := .object [] } rfl rfl

/-- A limit of 64 bits is refused, whatever the table has. -/
theorem active_refuses_wide_limit :
    IsTable tiedRows ∧ (1 : Int) ≤ 2 ^ 63 ∧ ∀ fed s,
      active "ORDER_CREATED" (2 ^ 63) tiedStore ≠ (.ok fed, s) := by
  refine ⟨isTable_tiedRows, by decide, fun fed s h => ?_⟩
  have refused := @active_of_beyond_word tiedRows tiedStore "ORDER_CREATED" (2 ^ 63) rfl (by decide)
  cases refused.symm.trans h

end Engine

end TriggerFlow
