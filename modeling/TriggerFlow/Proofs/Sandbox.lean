import TriggerFlow.Proofs.Rule.Breakdown
import TriggerFlow.Proofs.Rule.Soundness
import TriggerFlow.Proofs.Sandbox.Handover

/-! # What a sandbox answers

A sandbox answers what its worker answers, or a fault of its own.  Of a fault it tells the message
only: behind the check of the depth, nothing is worded like a tree too deep
(`Sandbox.runWith_not_saysTooDeep`).  A value is always the one that the worker answered to what was
handed over (`Sandbox.runWith_eq_ok`). -/

namespace TriggerFlow

open Outcome

/-! ### Wordings

Only the beginnings matter here: no other fault is worded like a tree that is too deep. -/

theorem message_tooDeep (limit : Int) :
    (LogicFault.tooDeep limit).message =
      "Logic tree too deep (max nesting depth is " ++ toString limit ++ ")" := rfl

theorem message_executionFailed (reason : String) :
    (LogicFault.executionFailed reason).message = "Logic execution failed: " ++ reason := rfl

theorem message_nestedTooDeeply (during : Descent) :
    (Breakdown.nestedTooDeeply during).message =
      "maximum recursion depth exceeded" ++ during.text := rfl

/-- The wording of a tree that is nested too deeply, for some limit. -/
def SaysTooDeep (message : String) : Prop :=
  ∃ limit, message = (LogicFault.tooDeep limit).message

/-- A fault that reads so. -/
def Fault.SaysTooDeep (fault : Fault) : Prop :=
  ∃ message, fault.text = .ok message ∧ TriggerFlow.SaysTooDeep message

theorem Fault.saysTooDeep_iff {fault : Fault} {message : String} (h : fault.text = .ok message) :
    fault.SaysTooDeep ↔ TriggerFlow.SaysTooDeep message := by
  constructor
  · rintro ⟨other, read, deep⟩
    cases h.symm.trans read
    exact deep
  · exact fun deep => ⟨message, h, deep⟩

theorem not_saysTooDeep {message : String} (h : message.toList.take 7 ≠ "Logic t".toList) :
    ¬ SaysTooDeep message := by
  rintro ⟨limit, hm⟩
  apply h
  rw [hm, message_tooDeep]
  simp

theorem not_saysTooDeep_executionFailed (reason : String) :
    ¬ SaysTooDeep (LogicFault.executionFailed reason).message := by
  apply not_saysTooDeep
  rw [message_executionFailed]
  simp

theorem not_saysTooDeep_raises {op : Operator} {fault : LogicFault} (h : op.Raises fault) :
    ¬ SaysTooDeep fault.message := by
  apply not_saysTooDeep
  cases h with
  | pathKind kind =>
      change ("Variable path must be a string, got " ++ kind.name).toList.take 7 ≠ _
      simp
  | operandKind kind _ =>
      change ("Operator '" ++ op.symbol ++ "' expects numeric operands, got " ++
        kind.name).toList.take 7 ≠ _
      simp
  | quotient | remainder =>
      change "Division by zero".toList.take 7 ≠ _
      simp

theorem not_saysTooDeep_exited (exitCode : Option Int) :
    ¬ SaysTooDeep (LogicFault.workerExited exitCode).message := by
  apply not_saysTooDeep
  change ("Evaluation worker exited without a result (exit code " ++ _ ++ ")").toList.take 7 ≠ _
  simp

theorem not_saysTooDeep_ofTimeout (seconds : Number) : ¬ (Fault.ofTimeout seconds).SaysTooDeep := by
  unfold Fault.ofTimeout
  cases h : seconds.milliseconds with
  | ok ms =>
      refine (Fault.saysTooDeep_iff rfl).not.mpr (not_saysTooDeep ?_)
      change ("Workflow execution timeout (" ++ toString ms ++ "ms)").toList.take 7 ≠ _
      simp
  | error cause =>
      have kinds : cause = .notANumberToInteger ∨ cause = .infinityToInteger := by
        cases seconds with
        | int n => cases h
        | float x =>
            unfold Number.milliseconds at h
            dsimp only at h
            split at h
            · cases h
            · split at h <;> cases h
              · exact .inl rfl
              · exact .inr rfl
      refine (Fault.saysTooDeep_iff rfl).not.mpr (not_saysTooDeep ?_)
      rcases kinds with rfl | rfl
      · change "cannot convert float NaN to integer".toList.take 7 ≠ _
        simp
      · change "cannot convert float infinity to integer".toList.take 7 ≠ _
        simp

/-! ### Messages -/

theorem WorkerMessage.ofOutcome?_eq_value {α : Type} [Sendable α] {outcome : Except Fault α} {v : α} :
    ofOutcome? outcome = some (.value v) ↔ outcome = .ok v ∧ Sendable.canSend v = true := by
  rcases outcome with fault | w
  · simp [ofOutcome?]
  · rw [ofOutcome?, Option.ite_none_right_eq_some, Option.some.injEq, value.injEq, Except.ok.injEq]
    exact ⟨fun ⟨sent, same⟩ => ⟨same, same ▸ sent⟩, fun ⟨same, sent⟩ => ⟨same ▸ sent, same⟩⟩

/-! ### What a sandbox answers -/

namespace Sandbox

variable {s : Sandbox} {cause : Breakdown}

theorem checkWait_error (h : s.checkWait = .error cause) :
    cause = .integerTooLarge ∨ cause = .waitBeyondClock ∨ cause = .waitTooLong ∨
      cause = .notANumberToInteger ∨ cause = .infinityToInteger := by
  unfold checkWait at h
  cases hn : s.timeout.nearest? with
  | none =>
      rw [hn] at h
      cases h
      simp
  | some seconds =>
      rw [hn] at h
      dsimp only at h
      cases hc : (seconds.mul (.ofInt 1000)).ceiling? with
      | some ms =>
          rw [hc] at h
          dsimp only at h
          split at h
          · cases h
            simp
          · split at h <;> cases h
            simp
      | none =>
          rw [hc] at h
          dsimp only at h
          split at h
          · cases h
          · split at h <;> cases h <;> simp

theorem not_saysTooDeep_checkWait (h : s.checkWait = .error cause) :
    ¬ SaysTooDeep cause.message := by
  apply not_saysTooDeep
  rcases checkWait_error h with rfl | rfl | rfl | rfl | rfl
  · change "int too large to convert to float".toList.take 7 ≠ _
    simp
  · change "timestamp too large to convert to C _PyTime_t".toList.take 7 ≠ _
    simp
  · change "timeout is too large".toList.take 7 ≠ _
    simp
  · change "cannot convert float NaN to integer".toList.take 7 ≠ _
    simp
  · change "cannot convert float infinity to integer".toList.take 7 ≠ _
    simp

theorem received_eq_ok {exitCode : Option Int} {message : Option (WorkerMessage Value)} {v : Value} :
    received exitCode message = .ok v ↔ message = some (.value v) := by
  rcases message with _ | _ | _ | _ <;> simp [received, WorkerMessage.toOutcome]

variable [Levels]

theorem not_saysTooDeep_checkHandover {data : List Value} (h : s.checkHandover data = .error cause) :
    ¬ SaysTooDeep cause.message := by
  unfold checkHandover at h
  split at h <;> cases h
  apply not_saysTooDeep
  rw [message_nestedTooDeeply]
  simp

/-- A worker that answers at all answers with the outcome of the evaluation. -/
def Faithful (work : Value → Value → Conduct Value) : Prop :=
  ∀ tree context outcome, work tree context = .answers outcome →
    outcome = evaluateAtWorker tree context

theorem checkHandover_eq_ok {data : List Value}
    (h : s.startMethod = "fork" ∨ ∀ v ∈ data, 2 * v.nesting ≤ Levels.handover) :
    s.checkHandover data = .ok () := by
  have shallow : (s.startMethod != "fork" &&
      data.any fun v => Levels.handover < 2 * v.nesting) = false := by
    rcases h with h | h
    · simp [h]
    · simpa using fun _ => h
  rw [checkHandover, shallow]
  rfl

/-- Of the outcome of an evaluation none of whose faults of logic is worded like a tree too deep, the
answer is not worded so either, and neither is that to a worker that ends without a message. -/
theorem received_not_saysTooDeep {exitCode : Option Int} {outcome : Outcome} {fault : Fault}
    (plain : ∀ kind message code, outcome ≠ .error (.custom kind message code))
    (unlike : ∀ f, outcome = .error (.logic f) → ¬ SaysTooDeep f.message)
    (h : received exitCode (WorkerMessage.ofOutcome? outcome) = .error fault) :
    ¬ fault.SaysTooDeep := by
  have exited : ¬ (Fault.logic (.workerExited exitCode)).SaysTooDeep :=
    (Fault.saysTooDeep_iff rfl).not.mpr (not_saysTooDeep_exited exitCode)
  rcases outcome with cause | v
  · rw [WorkerMessage.ofOutcome?] at h
    unfold WorkerMessage.wording? at h
    split at h
    · cases h
      exact (Fault.saysTooDeep_iff rfl).not.mpr (unlike _ rfl)
    · exact absurd rfl (plain _ _ _)
    · split at h <;> cases h
      · exact (Fault.saysTooDeep_iff rfl).not.mpr (not_saysTooDeep_executionFailed _)
      · exact exited
  · rw [WorkerMessage.ofOutcome?] at h
    split at h <;> cases h
    exact exited

/-- Behind the check of the depth no answer of a faithful worker is worded like a tree too deep, and
neither is anything that keeps the worker from answering. -/
theorem runWith_not_saysTooDeep {work : Value → Value → Conduct Value} (faithful : Faithful work)
    {tree : Value} {entries : Entries} {exitCode : Option Int} {fault : Fault}
    (sound : ∀ node, Rule.Occurs node tree → Rule.operationFault? node = none)
    (deep : Rule.checkDepth s.maxDepth tree = .ok ())
    (h : s.runWith work tree (.object entries) exitCode = .error fault) : ¬ fault.SaysTooDeep := by
  simp only [runWith, deep, Value.toEntries, bind_eq_error, mapError_eq_error, mapError_eq_ok] at h
  rcases h with ⟨_, h, -⟩ | ⟨_, -, ⟨_, h, -⟩ | ⟨_, ⟨⟩, ⟨cause, h, rfl⟩ |
    ⟨_, -, ⟨cause, h, rfl⟩ | ⟨_, -, h⟩⟩⟩⟩
  · cases h
  · cases h
  · exact (Fault.saysTooDeep_iff rfl).not.mpr (not_saysTooDeep_checkHandover h)
  · exact (Fault.saysTooDeep_iff rfl).not.mpr (not_saysTooDeep_checkWait h)
  · split at h
    · rename_i outcome hw
      have answered : work (s.handedOver tree (.object entries)).1
          (s.handedOver tree (.object entries)).2 = .answers outcome := by
        split at hw
        · exact hw
        · cases hw
      obtain rfl := faithful _ _ _ answered
      have sound' := Rule.sound_of_reread sound (s.reread_handedOver tree (.object entries)).1
      refine received_not_saysTooDeep (fun kind message code custom => ?_) (fun f hf => ?_) h
      · rcases @Rule.evaluate_error _ _ _ Levels.atWorker custom with ⟨_, ⟨⟩⟩ | ⟨_, ⟨⟩⟩
      · obtain ⟨node, op, operands, -, -, hr⟩ :=
          Rule.eval_logic_fault sound' (@Rule.evaluate_logic_fault Levels.atWorker _ _ _ hf)
        exact not_saysTooDeep_raises hr
    · cases h
      exact (Fault.saysTooDeep_iff rfl).not.mpr (not_saysTooDeep_exited exitCode)
    · cases h
      exact not_saysTooDeep_ofTimeout _

/-- A value that a sandbox answers is one that its worker answered to what was handed over. -/
theorem runWith_eq_ok {work : Value → Value → Conduct Value} {tree : Value}
    {given : Entries} {exitCode : Option Int} {v : Value}
    (h : s.runWith work tree (.object given) exitCode = .ok v) :
    work (s.handedOver tree (.object given)).1 (s.handedOver tree (.object given)).2 =
      .answers (.ok v) := by
  simp only [runWith, Value.toEntries, bind_eq_ok, mapError_eq_ok] at h
  obtain ⟨-, -, _, ⟨⟩, -, -, -, -, h⟩ := h
  split at h
  · rename_i outcome hw
    rw [received_eq_ok, WorkerMessage.ofOutcome?_eq_value] at h
    obtain ⟨rfl, -⟩ := h
    split at hw
    · exact hw
    · cases hw
  · cases h
  · cases h

end Sandbox

end TriggerFlow
