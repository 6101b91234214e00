import TriggerFlow.Proofs.Sandbox.Exchange

/-! # A sandbox refines the evaluation

The message of a worker keeps a value as it is and of a fault the wording.  So a sandbox that waits for
its worker gives the values of the worker's evaluation that can be sent, behind the check of the depth
and the handover, and of a fault a fault of logic with that wording
(`Sandbox.run_refines_evaluate`).  At a worker a tree has the outcome that it has anywhere, unless the
levels do not suffice (`Sandbox.evaluateAtWorker_cases`).  Data that cannot be handed over is a fault of
the sandbox that is not classified (`Sandbox.deepEvent_is_not_classified`). -/

namespace TriggerFlow

open Outcome Relation

/-! ### Messages -/

/-- What a worker can tell: a result that can be sent, a fault of logic, and any other fault that has a
text. -/
inductive Told {α : Type} [Sendable α] : Except Fault α → Prop
  | value {v : α} : Sendable.canSend v = true → Told (.ok v)
  | logic (fault : LogicFault) : Told (.error (.logic fault))
  | custom (message code : Option String) : Told (.error (.custom .logic message code))
  | other {fault : Fault} {text : String} : fault.text = .ok text → Told (.error fault)

theorem WorkerMessage.isSome_wording? {fault : Fault} {text : String} (h : fault.text = .ok text) :
    (wording? fault).isSome = true := by
  unfold wording?
  split
  · rfl
  · rfl
  · rw [h]
    rfl

theorem isSome_ofOutcome? {α : Type} [Sendable α] {outcome : Except Fault α} :
    (WorkerMessage.ofOutcome? outcome).isSome = true ↔ Told outcome := by
  constructor
  · intro h
    rcases outcome with fault | v
    · cases ht : fault.text with
      | ok text => exact .other ht
      | error cause =>
          cases fault with
          | mute => cases h
          | _ => cases ht
    · rw [WorkerMessage.ofOutcome?] at h
      split at h
      · exact .value ‹_›
      · cases h
  · intro h
    cases h with
    | value sent => rw [WorkerMessage.ofOutcome?, if_pos sent]; rfl
    | logic | custom => rfl
    | other ht => rw [WorkerMessage.ofOutcome?, Option.isSome_map]; exact WorkerMessage.isSome_wording? ht

/-- A fault of logic that is told with a wording and without any details. -/
def IsLogicError (outcome : Outcome) (message : String) : Prop :=
  ∃ fault, outcome = .error (.logic fault) ∧
    Notice.ofFault? (.logic fault) = some ⟨.str message, Notice.codeOf .logic, .object []⟩

theorem isLogicError_of_operator {fault : LogicFault} (h : fault.operator? = none) :
    IsLogicError (.error (.logic fault)) fault.message := by
  refine ⟨fault, rfl, ?_⟩
  rw [Notice.ofFault?, h]
  rfl

namespace Sandbox

variable [Levels] {s : Sandbox} {exitCode : Option Int} {tree context : Value} {entries : Entries}

/-- A message tells of a fault of logic no more than its wording. -/
theorem isLogicError_received_logic {fault : LogicFault} :
    IsLogicError (received exitCode (WorkerMessage.ofOutcome? (.error (.logic fault))))
      fault.message :=
  @isLogicError_of_operator (.reported _) rfl

/-- A message tells of a breakdown that the execution failed, and its wording. -/
theorem isLogicError_received_breakdown {cause : Breakdown} :
    IsLogicError (received exitCode (WorkerMessage.ofOutcome? (.error (.breakdown cause))))
      ("Logic execution failed: " ++ cause.message) :=
  @isLogicError_of_operator (.reported _) rfl

/-- A result that cannot be sent leaves the sandbox without an answer of its worker. -/
theorem received_unsendable {v : Value} (h : Sendable.canSend v = false) :
    received exitCode (WorkerMessage.ofOutcome? (.ok v)) = .error (.logic (.workerExited exitCode)) := by
  rw [WorkerMessage.ofOutcome?, h]
  rfl

/-! ### The checks in front -/

theorem prepare_of_tooDeep (h : s.maxDepth < Rule.depth tree) :
    s.prepare tree context = .error (.logic (.tooDeep s.maxDepth)) := by
  rw [prepare, Rule.checkDepth_eq_error.mpr ⟨h, rfl⟩]
  rfl

/-- The data can be handed over: to a fork always, to any other worker if it nests within the
levels. -/
def HandsOver (s : Sandbox) (tree : Value) (entries : Entries) : Prop :=
  s.startMethod = "fork" ∨
    2 * tree.nesting ≤ Levels.handover ∧ 2 * (Value.object entries).nesting ≤ Levels.handover

theorem checkHandover_iff :
    s.checkHandover [tree, .object entries] = .ok () ↔ s.HandsOver tree entries := by
  by_cases fork : s.startMethod = "fork"
  · exact iff_of_true (checkHandover_eq_ok (.inl fork)) (.inl fork)
  · simp [checkHandover, HandsOver, fork]

theorem checkHandover_of_not (h : ¬ s.HandsOver tree entries) :
    s.checkHandover [tree, .object entries] = .error (.nestedTooDeeply .handover) := by
  rw [← checkHandover_iff, checkHandover] at h
  rw [checkHandover]
  split at h
  · exact if_pos ‹_›
  · exact absurd rfl h

theorem prepare_object (deep : (Rule.depth tree : Int) ≤ s.maxDepth) :
    s.prepare tree (.object entries) =
      ((s.checkHandover [tree, .object entries]).mapError Fault.breakdown).map
        fun _ => s.handedOver tree (.object entries) := by
  simp only [prepare, Rule.checkDepth_eq_ok.mpr deep, Value.toEntries, Except.mapError, bind,
    Except.bind]
  cases s.checkHandover [tree, .object entries] <;> rfl

theorem run_of_tooDeep (h : s.maxDepth < Rule.depth tree) :
    s.run tree context exitCode = .error (.logic (.tooDeep s.maxDepth)) := by
  rw [run, runWith_eq, prepare_of_tooDeep h]
  rfl

theorem run_of_unhanded (deep : (Rule.depth tree : Int) ≤ s.maxDepth)
    (unhanded : ¬ s.HandsOver tree entries) :
    s.run tree (.object entries) exitCode =
      .error (.breakdown (.nestedTooDeeply .handover)) := by
  rw [run, runWith_eq, prepare_object deep, checkHandover_of_not unhanded]
  rfl

/-- Behind the checks the answer is what the message tells of the evaluation at the worker. -/
theorem run_within (waits : s.Waits) (handed : s.HandsOver tree entries)
    (deep : (Rule.depth tree : Int) ≤ s.maxDepth) :
    s.run tree (.object entries) exitCode =
      received exitCode (WorkerMessage.ofOutcome?
        (evaluateAtWorker (s.handedOver tree (.object entries)).1
          (s.handedOver tree (.object entries)).2)) := by
  rw [run, runWith_eq, prepare_object deep, checkHandover_iff.mpr handed]
  exact waits.hear _

theorem run_eq_ok_iff (waits : s.Waits) {v : Value} :
    s.run tree (.object entries) exitCode = .ok v ↔
      (Rule.depth tree : Int) ≤ s.maxDepth ∧ s.HandsOver tree entries ∧
        evaluateAtWorker (s.handedOver tree (.object entries)).1
          (s.handedOver tree (.object entries)).2 = .ok v ∧ 2 * v.nesting ≤ Levels.answer := by
  by_cases deep : (Rule.depth tree : Int) ≤ s.maxDepth
  · by_cases handed : s.HandsOver tree entries
    · rw [run_within waits handed deep, received_eq_ok, WorkerMessage.ofOutcome?_eq_value,
        and_iff_right deep, and_iff_right handed]
      exact and_congr_right fun _ => decide_eq_true_iff
    · rw [run_of_unhanded deep handed]
      exact iff_of_false nofun fun h => handed h.2.1
  · rw [run_of_tooDeep (Int.not_le.mp deep)]
    exact iff_of_false nofun fun h => deep h.1

/-! ### The worker's evaluation -/

/-- At a worker a tree has the outcome that it has anywhere, unless something goes too deep in the one
place or in the other. -/
theorem evaluateAtWorker_cases (tree context : Value) :
    evaluateAtWorker tree context = Rule.evaluate tree context ∨
      (∃ during, evaluateAtWorker tree context = .error (.breakdown (.nestedTooDeeply during))) ∨
      ∃ during, Rule.evaluate tree context = .error (.breakdown (.nestedTooDeeply during)) := by
  rcases Rule.evaluate_cases context tree with here | deep
  · rcases @Rule.evaluate_cases context Levels.atWorker tree with there | deep
    · exact .inl (there.trans here.symm)
    · exact .inr (.inl deep)
  · exact .inr (.inr deep)

/-- A value that a tree has is its value at a worker, too, if the steps suffice there. -/
theorem evaluateAtWorker_eq_ok {v : Value} (h : Rule.evaluate tree (.object entries) = .ok v) :
    evaluateAtWorker tree (.object entries) = .ok v ↔
      2 * Rule.reach Value.nesting (.object entries) tree ≤ Levels.worker := by
  have free : Rule.eval (.object entries) tree = .ok v := by
    rcases Rule.evaluate_cases (.object entries) tree with here | ⟨_, deep⟩
    · exact here ▸ h
    · rw [deep] at h
      cases h
  rw [evaluateAtWorker, @Rule.evaluate_eq Levels.atWorker, Rule.contextOf_object, free]
  split
  · rename_i far
    exact iff_of_false nofun (Nat.not_le.mpr (of_decide_eq_true far))
  · rename_i near
    exact iff_of_true rfl (Nat.not_lt.mp fun far => near (decide_eq_true far))

/-! ### The message of a worker -/

section Message

variable {α : Type} [Sendable α] (f : Value → Value → Except Fault α) (tree context : Value)

omit [Levels]

/-- A worker whose outcome can be told sends one message and closes its end; it sends a value if and
only if there is one. -/
theorem leads_told (told : Told (f tree context)) :
    Leads (Worker.Step fun tree context => .answers (f tree context))
      (fun w => ∃ message, w.line = ⟨[message], true⟩ ∧
        ∀ v, message = .value v ↔ f tree context = .ok v) (.fresh tree context) := by
  obtain ⟨message, hm⟩ := Option.isSome_iff_exists.mp (isSome_ofOutcome?.mpr told)
  refine (Worker.leads_ofOutcome f tree context).mono fun w h => ⟨message, ?_, fun v => ?_⟩
  · rw [h, Transcript.ofOutcome, hm]
    rfl
  · rw [← Option.some_inj, ← hm, WorkerMessage.ofOutcome?_eq_value]
    refine and_iff_left_of_imp fun returned => ?_
    rw [returned] at told
    cases told with
    | value sent => exact sent

/-- A worker whose outcome cannot be told closes its end without a message. -/
theorem leads_untold (untold : ¬ Told (f tree context)) :
    Leads (Worker.Step fun tree context => .answers (f tree context))
      (fun w => w.line = ⟨[], true⟩) (.fresh tree context) := by
  rw [← isSome_ofOutcome?, Option.not_isSome_iff_eq_none] at untold
  refine (Worker.leads_ofOutcome f tree context).mono fun w h => ?_
  rw [h, Transcript.ofOutcome, untold]
  rfl

variable {f} {tree} {context}

/-- At no time a worker has sent more than one message, and when its end is closed it has sent one just
if its outcome can be told. -/
theorem sent_of_reached {w : Worker α}
    (h : ReflTransGen (Worker.Step fun tree context => .answers (f tree context))
      (.fresh tree context) w) :
    w.line.sent.length ≤ 1 ∧
      (w.line.closed = true → (w.line.sent.length = 1 ↔ Told (f tree context))) := by
  rw [← isSome_ofOutcome?]
  rcases Worker.line_of_reached h with hl | hl | hl <;> rw [hl]
  · exact ⟨Nat.zero_le _, fun closed => absurd closed Bool.false_ne_true⟩
  · cases WorkerMessage.ofOutcome? (f tree context) <;> simp
  · rw [Transcript.ofOutcome]
    cases WorkerMessage.ofOutcome? (f tree context) <;> simp

end Message

/-! ### The refinement -/

/-- What becomes of the outcome of a worker's evaluation: a value is answered if it can be sent, a fault
is told by its wording, and otherwise all that is told is that the worker has gone. -/
structure Reflects (exitCode : Option Int) (evaluated answer : Outcome) : Prop where
  value : ∀ v, evaluated = .ok v → 2 * v.nesting ≤ Levels.answer → answer = .ok v
  unsendable : ∀ v, evaluated = .ok v → Levels.answer < 2 * v.nesting →
    IsLogicError answer (LogicFault.workerExited exitCode).message
  logic : ∀ fault, evaluated = .error (.logic fault) → IsLogicError answer fault.message
  breakdown : ∀ cause, evaluated = .error (.breakdown cause) →
    IsLogicError answer ("Logic execution failed: " ++ cause.message)

theorem reflects_received (outcome : Outcome) :
    Reflects exitCode outcome (received exitCode (WorkerMessage.ofOutcome? outcome)) where
  value := by
    rintro v rfl sent
    exact received_eq_ok.mpr
      (WorkerMessage.ofOutcome?_eq_value.mpr ⟨rfl, decide_eq_true sent⟩)
  unsendable := by
    rintro v rfl unsent
    rw [received_unsendable (decide_eq_false (Nat.not_le.mpr unsent))]
    exact isLogicError_of_operator rfl
  logic := by
    rintro fault rfl
    exact isLogicError_received_logic
  breakdown := by
    rintro cause rfl
    exact isLogicError_received_breakdown

/-- **A sandbox refines the evaluation.**  A tree beyond the depth limit is a fault of logic, and no
worker is started for it; nor is one for data that cannot be handed over, which is a breakdown.
Otherwise, where the sandbox waits, the worker evaluates what is handed over: the tree and the context
themselves in a fork and where nothing is not-a-number.  The sandbox gives a value if and only if that
evaluation gives it and it can be sent; a fault of logic comes back as one with the same wording and no
details, a breakdown with its wording behind that of a failed execution, and what cannot be sent as a
worker that has gone.  The worker's evaluation has the outcome of the evaluation anywhere, unless the
levels do not suffice for one of them.  This is the answer that the exchange with the worker comes to.
A worker closes its end, whatever function it evaluates with, and before it sends one message if what
comes of the function can be told, a value if and only if the function returned one, and no message
otherwise. -/
theorem run_refines_evaluate (s : Sandbox) (exitCode : Option Int) (tree : Value)
    (entries : Entries) :
    (s.maxDepth < Rule.depth tree →
      IsLogicError (s.run tree (.object entries) exitCode) (LogicFault.tooDeep s.maxDepth).message ∧
      ∀ work e, ReflTransGen (Exchange.Step s exitCode work tree (.object entries)) {} e →
        e.worker = none) ∧
    (Rule.depth tree ≤ s.maxDepth → ¬ s.HandsOver tree entries →
      s.run tree (.object entries) exitCode = .error (.breakdown (.nestedTooDeeply .handover)) ∧
      ∀ work e, ReflTransGen (Exchange.Step s exitCode work tree (.object entries)) {} e →
        e.worker = none) ∧
    (s.Waits →
      (∀ v, s.run tree (.object entries) exitCode = .ok v ↔
        Rule.depth tree ≤ s.maxDepth ∧ s.HandsOver tree entries ∧
          evaluateAtWorker (s.handedOver tree (.object entries)).1
            (s.handedOver tree (.object entries)).2 = .ok v ∧ 2 * v.nesting ≤ Levels.answer) ∧
      (Rule.depth tree ≤ s.maxDepth → s.HandsOver tree entries →
        Reflects exitCode
          (evaluateAtWorker (s.handedOver tree (.object entries)).1
            (s.handedOver tree (.object entries)).2)
          (s.run tree (.object entries) exitCode))) ∧
    (s.startMethod = "fork" ∨ tree.NaNFree ∧ (Value.object entries).NaNFree →
      s.handedOver tree (.object entries) = (tree, .object entries)) ∧
    (evaluateAtWorker tree (.object entries) = Rule.evaluate tree (.object entries) ∨
      (∃ during,
        evaluateAtWorker tree (.object entries) = .error (.breakdown (.nestedTooDeeply during))) ∨
      ∃ during,
        Rule.evaluate tree (.object entries) = .error (.breakdown (.nestedTooDeeply during))) ∧
    Leads (Exchange.Step s exitCode (fun tree context => .answers (evaluateAtWorker tree context))
        tree (.object entries))
      (fun e => e.answer = some (s.run tree (.object entries) exitCode) ∧
        ∀ w ∈ e.worker, w.stage = .gone)
      {} ∧
    ∀ (α : Type) [Sendable α] (f : Value → Value → Except Fault α) (context : Value),
      (Told (f tree context) →
        Leads (Worker.Step fun tree context => .answers (f tree context))
          (fun w => ∃ message, w.line = ⟨[message], true⟩ ∧
            ∀ v, message = .value v ↔ f tree context = .ok v) (.fresh tree context)) ∧
      (¬ Told (f tree context) →
        Leads (Worker.Step fun tree context => .answers (f tree context))
          (fun w => w.line = ⟨[], true⟩) (.fresh tree context)) ∧
      ∀ w, ReflTransGen (Worker.Step fun tree context => .answers (f tree context))
          (.fresh tree context) w →
        w.line.sent.length ≤ 1 ∧
          (w.line.closed = true → (w.line.sent.length = 1 ↔ Told (f tree context))) := by
  refine ⟨?_, ?_, ?_, ?_, evaluateAtWorker_cases tree (.object entries), ?_, ?_⟩
  · intro deep
    rw [run_of_tooDeep deep]
    exact ⟨isLogicError_of_operator rfl,
      fun work e h => Exchange.worker_eq_none (prepare_of_tooDeep deep) h⟩
  · intro deep unhanded
    have refused : s.prepare tree (.object entries) =
        .error (.breakdown (.nestedTooDeeply .handover)) := by
      rw [prepare_object deep, checkHandover_of_not unhanded]
      rfl
    exact ⟨run_of_unhanded deep unhanded, fun work e h => Exchange.worker_eq_none refused h⟩
  · intro waits
    refine ⟨fun v => run_eq_ok_iff waits, fun deep handed => ?_⟩
    rw [run_within waits handed deep]
    exact reflects_received _
  · rintro (fork | ⟨number, number'⟩)
    · exact handedOver_fork fork
    · exact handedOver_of_naNFree number number'
  · exact Exchange.leads_runWith s exitCode _ tree (.object entries)
  · exact fun α _ f context =>
      ⟨leads_told f tree context, leads_untold f tree context, fun w h => sent_of_reached h⟩

end Sandbox

namespace Sandbox

/-- What is left of a stock that is put into boxes. -/
def leftoverRule : Value :=
  .object [("%", .list [.object [("var", .str "stock")], .object [("var", .str "box")]])]

/-- A stock and the size of a box. -/
def delivery (stock box : Binary64) : Entries := [("stock", .float stock), ("box", .float box)]

theorem waits_default : ({} : Sandbox).Waits := ⟨by decide +kernel, by decide +kernel⟩

theorem evaluateAtWorker_leftoverRule (stock box : Binary64) :
    evaluateAtWorker leftoverRule (.object (delivery stock box)) =
      (Rule.calculate .remainder [stock, box]).map Value.float := by
  have near : Rule.reach Value.nesting (.object (delivery stock box)) leftoverRule = 2 := rfl
  rw [evaluateAtWorker, @Rule.evaluate_eq Levels.atWorker, Rule.contextOf_object, near,
    if_neg (by decide)]
  change (do return Value.float (← Rule.calculate .remainder [stock, box])) = _
  cases Rule.calculate .remainder [stock, box] <;> rfl

theorem handsOver_leftoverRule (stock box : Binary64) :
    ({} : Sandbox).HandsOver leftoverRule (delivery stock box) :=
  .inr ⟨by decide, (by decide : 2 * 1 ≤ Levels.handover)⟩

theorem handedOver_leftoverRule {stock box : Binary64} (number : stock.isNaN = false)
    (number' : box.isNaN = false) :
    ({} : Sandbox).handedOver leftoverRule (.object (delivery stock box)) =
      (leftoverRule, .object (delivery stock box)) :=
  handedOver_of_naNFree (by simp [leftoverRule]) (by simp [delivery, number, number'])

/-- What the worker makes of it. -/
theorem answer_leftoverRule {stock box : Binary64} (number : stock.isNaN = false)
    (number' : box.isNaN = false) :
    evaluateAtWorker (({} : Sandbox).handedOver leftoverRule (.object (delivery stock box))).1
        (({} : Sandbox).handedOver leftoverRule (.object (delivery stock box))).2 =
      (Rule.calculate .remainder [stock, box]).map Value.float := by
  rw [handedOver_leftoverRule number number', evaluateAtWorker_leftoverRule]

theorem run_refines_evaluate_leftoverRule :
    ({} : Sandbox).run leftoverRule (.object (delivery (.ofInt 10) (.ofInt 4))) =
        .ok (.float (.ofInt 2)) ∧
      IsLogicError (({} : Sandbox).run leftoverRule (.object (delivery (.ofInt 10) .zero)))
        "Division by zero" ∧
      IsLogicError
        (({} : Sandbox).run leftoverRule (.object (delivery (.infinite false) (.ofInt 4))))
        "Logic execution failed: math domain error" ∧
      IsLogicError
        (({ maxDepth := 1 } : Sandbox).run leftoverRule
          (.object (delivery (.ofInt 10) (.ofInt 4))))
        "Logic tree too deep (max nesting depth is 1)" := by
  have rest : Rule.calculate .remainder [.ofInt 10, .ofInt 4] = .ok (.ofInt 2) := by
    decide +kernel
  have zero : Rule.calculate .remainder [.ofInt 10, .zero] =
      .error (.logic (.divisionByZero .remainder)) := by
    decide +kernel
  have endless : Rule.calculate .remainder [.infinite false, .ofInt 4] =
      .error (.breakdown .undefinedRemainder) := by
    decide +kernel
  have deep : (Rule.depth leftoverRule : Int) ≤ ({} : Sandbox).maxDepth := by decide
  obtain ⟨-, -, atRest, -⟩ :=
    run_refines_evaluate {} none leftoverRule (delivery (.ofInt 10) (.ofInt 4))
  obtain ⟨-, -, atZero, -⟩ :=
    run_refines_evaluate {} none leftoverRule (delivery (.ofInt 10) .zero)
  obtain ⟨-, -, atEndless, -⟩ :=
    run_refines_evaluate {} none leftoverRule (delivery (.infinite false) (.ofInt 4))
  obtain ⟨beyond, -⟩ :=
    run_refines_evaluate { maxDepth := 1 } none leftoverRule (delivery (.ofInt 10) (.ofInt 4))
  refine ⟨?_, ?_, ?_, ?_⟩
  · refine ((atRest waits_default).1 _).mpr
      ⟨deep, handsOver_leftoverRule _ _, ?_, (by decide : 2 * 0 ≤ Levels.answer)⟩
    rw [answer_leftoverRule (by decide +kernel) (by decide +kernel), rest]
    rfl
  · refine ((atZero waits_default).2 deep (handsOver_leftoverRule _ _)).logic
      (.divisionByZero .remainder) ?_
    rw [answer_leftoverRule (by decide +kernel) (by decide +kernel), zero]
    rfl
  · refine ((atEndless waits_default).2 deep (handsOver_leftoverRule _ _)).breakdown
      .undefinedRemainder ?_
    rw [answer_leftoverRule (by decide +kernel) (by decide +kernel), endless]
    rfl
  · exact (beyond (by decide)).1

/-- A fault of the handover is not classified: an event may hold data that nests too deeply although
the tree, which does not read it, has a value. -/
theorem deepEvent_is_not_classified :
    Rule.evaluate (.object [("var", .str "a")])
        (.object [("a", .int 1), ("b", .nested 2499)]) = .ok (.int 1) ∧
      ({} : Sandbox).run (.object [("var", .str "a")])
          (.object [("a", .int 1), ("b", .nested 2499)]) =
        .error (.breakdown (.nestedTooDeeply .handover)) := by
  refine ⟨rfl, run_of_unhanded (by decide) ?_⟩
  rintro (fork | ⟨-, shallow⟩)
  · exact absurd fork (by decide)
  · have deep := Value.nesting_entry
      (List.mem_cons_of_mem ("a", .int 1) (List.mem_singleton_self ("b", Value.nested 2499)))
    rw [Value.nesting_nested] at deep
    exact absurd shallow (Nat.not_le.mpr (Nat.lt_of_lt_of_le (by decide)
      (Nat.mul_le_mul_left 2 (Nat.le_of_lt deep))))

end Sandbox

end TriggerFlow
