import TriggerFlow.Proofs.Execution.FailOpen
import TriggerFlow.Proofs.Execution.Ledger
import TriggerFlow.Proofs.Rule.Actions
import TriggerFlow.Proofs.Sandbox

/-! # Accounting over whole runs

A run is a sequence of calls of one engine, each a batch or a trial, over a store that may refuse any
write.  What is posted in a run are the outcomes in the reports of its recorded batches; the writes
that are attempted are those of the postings, in their order (`execute_posted`, `performAll_posted`).
From this everything else follows: the number of failed writes, what the records say, and how far the
counts of the workflows lag behind the records (`performAll_accounts`).  A trial or a dry run touches
none of them (`perform_quiet`). -/

namespace TriggerFlow

open Outcome

section

variable [Levels]

/-! ### Results that can be recorded -/

/-- The result that decides on an action nests one level more than the config. -/
theorem Action.toResult_encodable {action : Action}
    (hnesting : (Value.object action.config).nesting < Levels.encoding)
    (hlong : (Value.object action.config).hasLongInteger Breakdown.digitLimit = false) :
    (Value.object action.toResult).Encodable where
  nesting_le := by
    rw [toResult, Value.nesting, Value.nestingEntries, Value.nestingEntries, Value.nestingEntries,
      Value.nesting.eq_def (.str action.type)]
    simp only
    omega
  no_long_integer := by
    rw [toResult, Value.hasLongInteger, Value.anyLongIntegerAt, Value.anyLongIntegerAt,
      Value.anyLongIntegerAt, hlong]
    rfl

theorem Action.ofResult?_encodable {entries : Entries} {action : Action}
    (haction : ofResult? (.object entries) = .ok (some action))
    (h : (Value.object entries).Encodable) : (Value.object action.toResult).Encodable := by
  obtain ⟨-, _, ⟨⟩, hconfig⟩ := ofResult?_eq_action haction
  rcases hconfig with hempty | hmem
  · refine toResult_encodable ?_ ?_ <;> rw [hempty]
    · exact Levels.enough_encoding
    · rfl
  · exact toResult_encodable (Nat.lt_of_lt_of_le (Value.nesting_entry hmem) h.nesting_le)
      (h.entry hmem).no_long_integer

theorem judge_recordable {w : Workflow} {result : Outcome} {o : WorkflowOutcome}
    (judged : Engine.judge w result = .ok o)
    (h : ∀ entries, result = .ok (.object entries) → (Value.object entries).Encodable) :
    o.Recordable := by
  unfold Engine.judge at judged
  split at judged
  · obtain ⟨_, -, judged⟩ := bind_eq_ok.mp judged
    cases judged
    exact .inl rfl
  · rename_i v
    split at judged
    · rename_i action haction
      cases judged
      cases action with
      | none => exact .inl rfl
      | some action =>
          cases v with
          | object entries =>
              exact .inr ⟨_, rfl, Action.ofResult?_encodable haction (h entries rfl)⟩
          | _ => cases haction
    · cases judged
      exact .inl rfl

/-- A worker has the levels of an encoding that the sandbox has. -/
theorem Value.encodable_atWorker {v : Value} : @Encodable Levels.atWorker v ↔ v.Encodable := by
  constructor
  · rintro ⟨shallow, short⟩
    exact ⟨shallow, short⟩
  · rintro ⟨shallow, short⟩
    exact @Encodable.mk Levels.atWorker v shallow short

variable {ε : Type}

/-- For a tree and a context that can be encoded, an object that the sandbox answers can be encoded
too. -/
def Encodes (sandbox : Value → Value → StateM ε Outcome) : Prop :=
  ∀ tree given entries e, tree.Encodable → (Value.object given).Encodable →
    (sandbox tree (.object given) e).1 = .ok (.object entries) → (Value.object entries).Encodable

namespace Sandbox

/-- Whatever becomes of its workers, a sandbox answers no other objects than those of the
evaluation. -/
theorem encodes (s : Sandbox) {work : ε → Value → Value → Conduct Value}
    (faithful : ∀ e, Faithful (work e)) (exitCode : ε → Option Int)
    (next : Value → Value → ε → ε) :
    Encodes fun tree context e =>
      (s.runWith (work e) tree context (exitCode e), next tree context e) := by
  intro tree given entries e htree hcontext h
  have answered := (faithful e _ _ _ (s.runWith_eq_ok h)).symm
  obtain ⟨htree', hcontext'⟩ := s.reread_handedOver tree (.object given)
  obtain ⟨others, hothers⟩ := s.handedOver_object tree given
  rw [hothers] at answered hcontext'
  rw [← Value.encodable_reread, ← htree', Value.encodable_reread] at htree
  rw [← Value.encodable_reread, ← hcontext', Value.encodable_reread] at hcontext
  rw [← Value.encodable_atWorker] at htree hcontext ⊢
  exact @Rule.evaluate_encodable _ Levels.atWorker _ _ htree hcontext answered

end Sandbox

/-! ### Batches and trials -/

/-- The context is an object that can be encoded, each key in it given once. -/
structure Request.Plain (request : Request) : Prop where
  isObject : ∃ entries, request.context = .object entries
  wellKeyed : request.context.WellKeyed
  encodable : request.context.Encodable

/-- The outcomes that a caller learns of: none if there is no report. -/
def reported : Except Fault Report → List WorkflowOutcome
  | .ok report => report.outcomes
  | .error _ => []

omit [Levels] in
theorem reported_toReport_unavailable (fault : Fault) :
    reported (Batch.unavailable fault).toReport = [] := by
  unfold Batch.toReport
  dsimp only
  cases fault.report <;> rfl

omit [Levels] in
theorem reported_toReport_abandoned (fault : Fault) :
    reported (Batch.abandoned fault).toReport = [] :=
  reported_toReport_unavailable fault

/-- What is posted of a batch: the outcomes of the report, but none of a dry run. -/
def Request.postings (request : Request) (report : Except Fault Report) : List Posting :=
  if request.dryRun then []
  else (reported report).map fun o => ⟨request.trigger, request.context, o⟩

namespace Engine

variable (b : Backend ε) (sandbox : Value → Value → StateM ε Outcome)

omit [Levels] in
theorem aside_entered {α : Type} (action : StateM ε α) (r : Recording (ε × Ledger)) :
    Entered [] r (Backend.lift (Ledger.aside action) r).2 := ⟨rfl, rfl⟩

omit [Levels] in
theorem mem_of_mem_chosen {limits : Limits} {request : Request} {fetched : List Workflow}
    {w : Workflow} (h : w ∈ chosen limits request fetched) : w ∈ fetched := by
  unfold chosen takeFirst at h
  split at h <;> exact List.mem_of_mem_filter (List.mem_of_mem_take h)

/-- Evaluating writes nothing. -/
theorem evaluateAll_entered {Q : WorkflowOutcome → Prop} {context : Value} {ws : List Workflow}
    (hfailed : ∀ w fault, Q (.failed w fault))
    (hjudged : ∀ w ∈ ws, ∀ e o, judge w (sandbox w.tree context e).1 = .ok o → Q o)
    (maxConcurrency : Int) (schedule : Schedule) (r : Recording (ε × Ledger)) :
    (∀ outcomes,
      (evaluateAll (b.bookedServices sandbox) maxConcurrency schedule context ws r).1 =
          .ok outcomes → ∀ o ∈ outcomes, Q o) ∧
      Entered [] r
        (evaluateAll (b.bookedServices sandbox) maxConcurrency schedule context ws r).2 := by
  have evaluates : ∀ w ∈ ws, Keeps (Entered [] r)
      (fun result => ∀ o, judge w result = .ok o → Q o)
      ((b.bookedServices sandbox).evaluate w.tree context) := by
    intro w hw r' entered
    exact ⟨hjudged w hw r'.sink.1, entered.trans (aside_entered _ r')⟩
  obtain ⟨⟨each, -⟩, entered⟩ := evaluateAll_keeps (fun w contained => hfailed w _) evaluates
    maxConcurrency schedule r ⟨rfl, rfl⟩
  exact ⟨each, entered⟩

theorem recordAll_posted {event : Event} {entries : Entries}
    (hcontext : event.context = .object entries) (hkeys : event.context.WellKeyed)
    (hencoding : event.context.Encodable) {outcomes : List WorkflowOutcome}
    (h : ∀ o ∈ outcomes, o.Recordable) (r : Recording (ε × Ledger)) :
    Posted (outcomes.map event.posting) r
      (recordAll (b.bookedServices sandbox) event outcomes r).2 := by
  induction outcomes generalizing r with
  | nil => exact Entered.posted ⟨rfl, rfl⟩
  | cons o rest ih =>
      obtain ⟨record, hmake, agrees⟩ := ExecutionRecord.make_of_recordable hcontext hkeys hencoding
        (h o List.mem_cons_self)
      have first := record_posted b hmake agrees r
      exact first.trans (ih (fun p hp => h p (List.mem_cons_of_mem _ hp)) _)

/-- A batch ends without outcomes, or it comes to settling those of workflows of the feed. -/
theorem execute_course {Q : WorkflowOutcome → Prop} (hfailed : ∀ w fault, Q (.failed w fault))
    (limits : Limits) (schedule : Schedule) (request : Request) (r : Recording (ε × Ledger))
    (hjudged : ∀ fetched, (b.feed request.trigger limits.maxWorkflows r.sink.1).1 = .ok fetched →
      ∀ w ∈ fetched, ∀ e o, judge w (sandbox w.tree request.context e).1 = .ok o → Q o) :
    (reported (execute (b.bookedServices sandbox) limits schedule request r).1 = [] ∧
      Entered [] r (execute (b.bookedServices sandbox) limits schedule request r).2) ∨
    ∃ outcomes r', (∀ o ∈ outcomes, Q o) ∧ Entered [] r r' ∧
      execute (b.bookedServices sandbox) limits schedule request r =
        ((settle (b.bookedServices sandbox) request outcomes r').1.toReport,
          (settle (b.bookedServices sandbox) request outcomes r').2) := by
  obtain ⟨answer, r', hanswer, hfeed, fed⟩ : ∃ answer r',
      (b.feed request.trigger limits.maxWorkflows r.sink.1).1 = answer ∧
      (b.bookedServices sandbox).feed request.trigger limits.maxWorkflows r = (answer, r') ∧
        Entered [] r r' := ⟨_, _, rfl, rfl, aside_entered _ r⟩
  rw [execute_apply]
  rcases answer with fault | fetched
  · left
    rw [run_of_feed_error schedule hfeed]
    exact ⟨reported_toReport_unavailable fault, fed⟩
  · by_cases hws : chosen limits request fetched = []
    · left
      rw [run_of_idle schedule hfeed hws]
      exact ⟨rfl, fed⟩
    · obtain ⟨each, evaluated⟩ := evaluateAll_entered b sandbox hfailed
        (fun w hw => hjudged fetched hanswer w (mem_of_mem_chosen hw)) limits.maxConcurrency
        schedule r'
      rw [run_of_feed schedule hfeed hws]
      dsimp only
      rcases answer : (evaluateAll (b.bookedServices sandbox) limits.maxConcurrency schedule
        request.context (chosen limits request fetched) r').1 with fault | outcomes
      · exact .inl ⟨reported_toReport_abandoned fault, fed.trans evaluated⟩
      · exact .inr ⟨outcomes, _, each outcomes answer, fed.trans evaluated, rfl⟩

/-- A dry run touches neither the ledger nor the number of failed writes. -/
theorem execute_dryRun_entered (limits : Limits) (schedule : Schedule) {request : Request}
    (hdry : request.dryRun = true) (r : Recording (ε × Ledger)) :
    Entered [] r (execute (b.bookedServices sandbox) limits schedule request r).2 := by
  rcases @execute_course _ _ b sandbox (fun _ => True) (fun _ _ => trivial) limits schedule request
    r (fun _ _ _ _ _ _ _ => trivial) with ⟨-, fed⟩ | ⟨outcomes, r', -, fed, h⟩
  · exact fed
  · rw [h, settle_of_dryRun hdry]
    exact fed

theorem trial_entered (id : String) (context : Value) (r : Recording (ε × Ledger)) :
    Entered [] r (trial (b.bookedServices sandbox) id context r).2 := by
  unfold trial
  rw [StateM.bind_apply]
  refine (aside_entered (b.find id) r).trans ?_
  rcases ((b.bookedServices sandbox).find id r).1 with fault | _ | w
  · exact ⟨rfl, rfl⟩
  · exact ⟨rfl, rfl⟩
  · exact aside_entered (sandbox w.tree context) _

theorem eventOf_eq_ok {request : Request} {event : Event} (h : eventOf request = .ok event) :
    event.trigger = request.trigger ∧ event.context = request.context := by
  unfold eventOf at h
  split at h
  · cases h
    exact ⟨rfl, rfl⟩
  · obtain ⟨id, -, h⟩ := bind_eq_ok.mp h
    cases h
    exact ⟨rfl, rfl⟩

variable {b} {sandbox}

/-- The trees of the feed can be encoded. -/
def PlainFeed (b : Backend ε) : Prop :=
  ∀ trigger limit e fetched, (b.feed trigger limit e).1 = .ok fetched →
    ∀ w ∈ fetched, w.tree.Encodable

/-- **The writes of a batch are those of its postings.** -/
theorem execute_posted (hfeed : PlainFeed b) (hsandbox : Encodes sandbox) (limits : Limits)
    (schedule : Schedule) {request : Request} (hplain : request.Plain)
    (r : Recording (ε × Ledger)) :
    Posted (request.postings (execute (b.bookedServices sandbox) limits schedule request r).1) r
      (execute (b.bookedServices sandbox) limits schedule request r).2 := by
  cases hdry : request.dryRun with
  | true =>
      rw [Request.postings, if_pos hdry]
      exact (execute_dryRun_entered b sandbox limits schedule hdry r).posted
  | false =>
      rw [Request.postings, hdry, if_neg Bool.false_ne_true]
      obtain ⟨given, hgiven⟩ := hplain.isObject
      obtain ⟨event, hevent⟩ := eventOf_of_encodable hgiven hplain.encodable
      have judged : ∀ fetched,
          (b.feed request.trigger limits.maxWorkflows r.sink.1).1 = .ok fetched →
            ∀ w ∈ fetched, ∀ e o,
              judge w (sandbox w.tree request.context e).1 = .ok o → o.Recordable := by
        intro fetched hfetched w hw e o ho
        refine judge_recordable ho fun entries hentries => ?_
        have htree := hfeed _ _ _ _ hfetched w hw
        have hcontext := hplain.encodable
        rw [hgiven] at hentries hcontext
        exact hsandbox _ _ _ _ htree hcontext hentries
      rcases execute_course b sandbox (fun _ _ => .inl rfl) limits schedule request r judged with
        ⟨none, fed⟩ | ⟨outcomes, r', recordable, evaluated, h⟩
      · rw [none]
        exact fed.posted
      · obtain ⟨htrigger, hcontext⟩ := eventOf_eq_ok hevent
        rw [← hcontext] at hgiven
        have recorded := recordAll_posted b sandbox hgiven (hcontext ▸ hplain.wellKeyed)
          (hcontext ▸ hplain.encodable) recordable r'
        rw [h, settle_of_recordAll hdry hevent (recordAll_eq_ok (fun _ _ => ⟨_, rfl⟩) _ _),
          ← htrigger, ← hcontext]
        exact evaluated.posted.trans recorded

/-! ### Runs -/

/-- A call of an engine. -/
inductive Invocation
  | execute (request : Request) (schedule : Schedule)
  | trial (id : String) (context : Value)

/-- The call is a batch in a plain context, or a trial in any. -/
def Invocation.Plain : Invocation → Prop
  | .execute request _ => request.Plain
  | .trial _ _ => True

/-- The call is a dry run or a trial. -/
def Invocation.isQuiet : Invocation → Bool
  | .execute request _ => request.dryRun
  | .trial _ _ => true

/-- What is posted of a call and its answer. -/
def Invocation.postings : Invocation × Except Fault Report → List Posting
  | (.execute request _, report) => request.postings report
  | (.trial _ _, _) => []

def perform {σ : Type} (services : Services σ) (limits : Limits) :
    Invocation → StateM σ (Except Fault Report)
  | .execute request schedule => execute services limits schedule request
  | .trial id context => trial services id context

/-- Performs calls one after another, each with its answer. -/
def performAll {σ : Type} (services : Services σ) (limits : Limits) :
    List Invocation → StateM σ (List (Invocation × Except Fault Report))
  | [] => pure []
  | call :: rest => do
    let report ← perform services limits call
    let reports ← performAll services limits rest
    return (call, report) :: reports

theorem perform_quiet (limits : Limits) {call : Invocation} (h : call.isQuiet = true)
    (r : Recording (ε × Ledger)) :
    Entered [] r (perform (b.bookedServices sandbox) limits call r).2 := by
  cases call with
  | execute request schedule => exact execute_dryRun_entered b sandbox limits schedule h r
  | trial id context => exact trial_entered b sandbox id context r

theorem perform_posted (hfeed : PlainFeed b) (hsandbox : Encodes sandbox) (limits : Limits)
    {call : Invocation} (hplain : call.Plain) (r : Recording (ε × Ledger)) :
    Posted (Invocation.postings (call, (perform (b.bookedServices sandbox) limits call r).1)) r
      (perform (b.bookedServices sandbox) limits call r).2 := by
  cases call with
  | execute request schedule => exact execute_posted hfeed hsandbox limits schedule hplain r
  | trial id context => exact (trial_entered b sandbox id context r).posted

/-- The writes of a run are those of its postings. -/
theorem performAll_posted (hfeed : PlainFeed b) (hsandbox : Encodes sandbox) (limits : Limits)
    {calls : List Invocation} (hplain : ∀ call ∈ calls, call.Plain) (r : Recording (ε × Ledger)) :
    Posted ((performAll (b.bookedServices sandbox) limits calls r).1.flatMap Invocation.postings) r
      (performAll (b.bookedServices sandbox) limits calls r).2 := by
  induction calls generalizing r with
  | nil => exact Entered.posted ⟨rfl, rfl⟩
  | cons call rest ih =>
      have first := perform_posted hfeed hsandbox limits (hplain call List.mem_cons_self) r
      have others := ih (fun c hc => hplain c (List.mem_cons_of_mem _ hc))
        (perform (b.bookedServices sandbox) limits call r).2
      exact first.trans others

theorem performAll_calls {σ : Type} (services : Services σ) (limits : Limits)
    (calls : List Invocation) (s : σ) :
    (performAll services limits calls s).1.map Prod.fst = calls := by
  induction calls generalizing s with
  | nil => rfl
  | cons call rest ih => exact congrArg (call :: ·) (ih (perform services limits call s).2)

/-- **The records and the counts of a run.**  Let a store refuse whatever writes it likes, and let the
sandbox fail whenever it likes.  For each outcome in the report of a recorded batch, in the order of
the outcomes, one record is attempted, and a count after it just if the outcome is a success and the
record was stored.  The number of failed writes is that of the attempts that failed.  Each stored
record agrees with the outcome it is of.  No workflow has a higher count than it has successes among
the records, and it has the same unless a count of it failed.  Dry runs and trials change nothing of
this. -/
theorem performAll_accounts (hfeed : PlainFeed b) (hsandbox : Encodes sandbox) (limits : Limits)
    {calls : List Invocation} (hplain : ∀ call ∈ calls, call.Plain) (e : ε) :
    let run := performAll (b.bookedServices sandbox) limits calls { sink := (e, {}) }
    let postings := run.1.flatMap Invocation.postings
    let ledger := run.2.sink.2
    run.1.map Prod.fst = calls ∧
      (∃ groups, List.Forall₂ Posting.Settles postings groups ∧
        ledger.attempts = groups.flatten) ∧
      run.2.failedWrites = ledger.attempts.countP Attempt.failed ∧
      ledger.records = ledger.attempts.filterMap Attempt.stored? ∧
      (∃ kept, kept.Sublist postings ∧ List.Forall₂ Posting.Agrees kept ledger.records) ∧
      (∀ id, ledger.counts id ≤ ledger.records.countP (ExecutionRecord.succeeds id) ∧
        (ledger.counts id = ledger.records.countP (ExecutionRecord.succeeds id) ↔
          ∀ answer, ⟨.bump id, answer⟩ ∈ ledger.attempts → Except.isOk answer = true)) ∧
      ∀ call : Invocation, call.isQuiet = true → ∀ r : Recording (ε × Ledger),
        (perform (b.bookedServices sandbox) limits call r).2.sink.2 = r.sink.2 ∧
          (perform (b.bookedServices sandbox) limits call r).2.failedWrites = r.failedWrites := by
  intro run postings ledger
  obtain ⟨groups, settled, entered⟩ : Posted postings { sink := (e, {}) } run.2 :=
    performAll_posted hfeed hsandbox limits hplain _
  have hattempts : ledger.attempts = groups.flatten := by
    rw [show ledger = _ from entered.ledger, Ledger.enterAll_attempts]
    rfl
  have hrecords : ledger.records = groups.flatten.filterMap Attempt.stored? := by
    rw [show ledger = _ from entered.ledger, Ledger.enterAll_records]
    rfl
  have hcounts : ∀ id, ledger.counts id = groups.flatten.countP (Attempt.counts id) := by
    intro id
    rw [show ledger = _ from entered.ledger, Ledger.enterAll_counts, Nat.zero_add]
  refine ⟨performAll_calls _ _ _ _, ⟨groups, settled, hattempts⟩, ?_, ?_, ?_, ?_, ?_⟩
  · rw [entered.failedWrites, hattempts, Nat.zero_add]
  · rw [hrecords, hattempts]
  · rw [hrecords]
    exact Posting.stored_flatten settled
  · intro id
    have balance := Posting.balance_flatten settled id
    rw [hcounts id, hrecords, balance, hattempts, ← Attempt.countP_misses_eq_zero]
    omega
  · intro call hquiet r
    have quiet : Entered [] r (perform (b.bookedServices sandbox) limits call r).2 :=
      perform_quiet limits hquiet r
    exact ⟨quiet.ledger, quiet.failedWrites⟩

end Engine

end

/-! ### A store that refuses some writes -/

namespace Engine

/-- The next answer of a store that is told beforehand which writes to refuse. -/
def answerNext : StateM (List Bool) (Except Fault Unit) := fun answers =>
  (if answers.headD true then .ok () else .error (.failure "disk full"), answers.tail)

/-- A store of two workflows that is told beforehand which writes to refuse. -/
def scriptedStore : Backend (List Bool) where
  feed _ _ := pure (.ok [approval "first" .null, approval "second" .null])
  find _ := pure (.ok none)
  sink := ⟨fun _ => answerNext, fun _ => answerNext⟩

/-- A recorded batch, a dry run, a trial, and another recorded batch. -/
def mixedCalls : List Invocation :=
  let request : Request :=
    { trigger := "ORDER_CREATED", context := .object [("orderId", .str "o7")] }
  [.execute request [], .execute { request with dryRun := true } [], .trial "first" .null,
    .execute request []]

/-- A sandbox whose workers answer in time. -/
def promptSandbox (tree context : Value) : StateM (List Bool) Outcome := fun answers =>
  (({} : Sandbox).run tree context, answers)

theorem plainFeed_scriptedStore : PlainFeed scriptedStore := by
  intro trigger limit e fetched h w hw
  cases h
  have tree : ∀ id, (approval id .null).tree.Encodable := fun id =>
    Value.checkEncoding_eq_ok.mp rfl
  rcases List.mem_pair.mp hw with rfl | rfl
  · exact tree "first"
  · exact tree "second"

theorem encodes_promptSandbox : Encodes promptSandbox := by
  have faithful : Sandbox.Faithful fun tree context =>
      .answers (Sandbox.evaluateAtWorker tree context) := by
    rintro tree context outcome ⟨⟩
    rfl
  exact ({} : Sandbox).encodes (fun _ => faithful) (fun _ => none) fun _ _ answers => answers

theorem plain_of_mem_mixedCalls : ∀ call ∈ mixedCalls, call.Plain := by
  have plain : ∀ dryRun, Request.Plain
      { trigger := "ORDER_CREATED", context := .object [("orderId", .str "o7")], dryRun } := by
    intro dryRun
    refine ⟨⟨_, rfl⟩, Value.wellKeyed_object (by decide) ?_, Value.checkEncoding_eq_ok.mp rfl⟩
    intro entry hentry
    cases List.mem_singleton.mp hentry
    exact Value.wellKeyed_of_nesting_zero rfl
  intro call hcall
  simp only [mixedCalls, List.mem_cons, List.not_mem_nil, or_false] at hcall
  rcases hcall with rfl | rfl | rfl | rfl
  · exact plain false
  · exact plain true
  · exact trivial
  · exact plain false

/-- The run of these calls in which the store refuses the count of the second workflow, and then the
next record. -/
def mixedRun : List (Invocation × Except Fault Report) × Recording (List Bool × Ledger) :=
  performAll (scriptedStore.bookedServices promptSandbox) {} mixedCalls
    { sink := ([true, true, true, false, false], {}) }

theorem performAll_accounts_mixedRun :
    mixedRun.2.failedWrites = 2 ∧
      (∃ groups, List.Forall₂ Posting.Settles (mixedRun.1.flatMap Invocation.postings) groups ∧
        mixedRun.2.sink.2.attempts = groups.flatten) ∧
      mixedRun.2.sink.2.counts "second" = 1 ∧
      mixedRun.2.sink.2.records.countP (ExecutionRecord.succeeds "second") = 2 := by
  obtain ⟨-, posted, -⟩ := performAll_accounts plainFeed_scriptedStore encodes_promptSandbox {}
    plain_of_mem_mixedCalls [true, true, true, false, false]
  rw [← mixedRun] at posted
  exact ⟨by decide +kernel, posted, by decide +kernel, by decide +kernel⟩

end Engine

end TriggerFlow
