import TriggerFlow.Notice
import TriggerFlow.Proofs.Rule.Depth
import TriggerFlow.Proofs.Run
import TriggerFlow.Proofs.Sandbox

/-! # A sandbox and its worker, message by message

`Sandbox.runWith` tells at once what a sandbox answers.  Here the sandbox and its worker take their
steps one after another, in any order that the connection between them allows: the worker evaluates,
sends a message if it can and closes its end, while the sandbox waits for the message, answers and
stops the worker.

A worker that evaluates with any function leaves one message, or none if what comes of it cannot be
sent, and then closes its end (`Worker.leads_ofOutcome`, `Worker.line_of_reached`).  However the steps
are interleaved, the exchange comes to an end, and its answer is that of `runWith`
(`Exchange.leads_runWith`); where something is in the way, no worker is started
(`Exchange.worker_eq_none`). -/

namespace TriggerFlow

open Outcome Relation

/-! ### The worker -/

section

variable {α : Type}

namespace Transcript

/-- An open end on which nothing has been sent. -/
def blank : Transcript α := ⟨[], false⟩

/-- Sends a message, if there is one. -/
def send (t : Transcript α) (message : Option (WorkerMessage α)) : Transcript α :=
  { t with sent := t.sent ++ message.toList }

def close (t : Transcript α) : Transcript α := { t with closed := true }

end Transcript

/-- What a worker is about. -/
inductive Stage (α : Type)
  | evaluating (tree context : Value)
  | telling (outcome : Except Fault α)
  | leaving
  | gone

/-- A worker with what it leaves on its end of the connection. -/
structure Worker (α : Type) where
  stage : Stage α
  line : Transcript α

namespace Worker

/-- A worker that has just been started. -/
def fresh (tree context : Value) : Worker α := ⟨.evaluating tree context, .blank⟩

variable [Sendable α]

/-- What a worker does next.  A worker that exits leaves its end to the system, which closes it; one
that cannot send its result closes its end without a message. -/
inductive Step (work : Value → Value → Conduct α) : Worker α → Worker α → Prop
  | evaluate {tree context outcome line} (h : work tree context = .answers outcome) :
      Step work ⟨.evaluating tree context, line⟩ ⟨.telling outcome, line⟩
  | exit {tree context line} (h : work tree context = .exits) :
      Step work ⟨.evaluating tree context, line⟩ ⟨.gone, line.close⟩
  | tell {outcome line} :
      Step work ⟨.telling outcome, line⟩ ⟨.leaving, line.send (WorkerMessage.ofOutcome? outcome)⟩
  | leave {line} : Step work ⟨.leaving, line⟩ ⟨.gone, line.close⟩

/-- How many steps a worker has left at most. -/
def left (w : Worker α) : Nat :=
  match w.stage with
  | .evaluating .. => 3
  | .telling _ => 2
  | .leaving => 1
  | .gone => 0

/-- The states of a worker that has been started with a tree and a context. -/
inductive Sound (work : Value → Value → Conduct α) (tree context : Value) : Worker α → Prop
  | evaluating : Sound work tree context ⟨.evaluating tree context, .blank⟩
  | telling {outcome} (h : work tree context = .answers outcome) :
      Sound work tree context ⟨.telling outcome, .blank⟩
  | leaving {outcome} (h : work tree context = .answers outcome) :
      Sound work tree context ⟨.leaving, ⟨(WorkerMessage.ofOutcome? outcome).toList, false⟩⟩
  | answered {outcome} (h : work tree context = .answers outcome) :
      Sound work tree context ⟨.gone, .ofOutcome outcome⟩
  | exited (h : work tree context = .exits) : Sound work tree context ⟨.gone, ⟨[], true⟩⟩

variable {work : Value → Value → Conduct α} {tree context : Value} {w w' : Worker α}

theorem Sound.step (hw : Sound work tree context w) (h : Step work w w') :
    Sound work tree context w' := by
  cases hw with
  | evaluating =>
      cases h with
      | evaluate h => exact .telling h
      | exit h => exact .exited h
  | telling ho =>
      cases h
      exact .leaving ho
  | leaving ho =>
      cases h
      exact .answered ho
  | answered | exited => cases h

theorem Step.left_lt (h : Step work w w') : w'.left < w.left := by
  cases h <;> simp [left]

/-- **What a worker sends.**  A worker that evaluates with a function sends the message about what
comes of it, if that can be sent, then closes its end, and is done. -/
theorem leads_ofOutcome (f : Value → Value → Except Fault α) (tree context : Value) :
    Leads (Step fun tree context => .answers (f tree context))
      (fun w => w.line = .ofOutcome (f tree context)) (fresh tree context) := by
  refine .of_measure (Sound _ tree context) left (fun _ _ => Sound.step)
    (fun _ _ => Step.left_lt) ?_ _ .evaluating
  intro w hw stuck
  -- Before it is gone a worker always has a next step, so a stuck one has said all it had to say.
  cases hw with
  | evaluating => exact (stuck _ (.evaluate rfl)).elim
  | telling => exact (stuck _ .tell).elim
  | leaving => exact (stuck _ .leave).elim
  | answered h =>
      cases h
      rfl
  | exited h => cases h

/-- On its way a worker has sent nothing, or its message; its end is closed behind that. -/
theorem line_of_reached {f : Value → Value → Except Fault α}
    (h : ReflTransGen (Step fun tree context => .answers (f tree context)) (fresh tree context) w) :
    w.line = .blank ∨ w.line = ⟨(WorkerMessage.ofOutcome? (f tree context)).toList, false⟩ ∨
      w.line = .ofOutcome (f tree context) := by
  cases inv_of_reflTransGen (Sound _ tree context) (fun _ _ => Sound.step) .evaluating h with
  | evaluating | telling => exact .inl rfl
  | leaving ho =>
      cases ho
      exact .inr (.inl rfl)
  | answered ho =>
      cases ho
      exact .inr (.inr rfl)
  | exited ho => cases ho

end Worker

end

/-! ### What a sandbox does before and after a worker is started -/

variable [Levels]

namespace Sandbox

/-- The tree and the context that a worker is started with, unless something is in the way of starting
one. -/
def prepare (s : Sandbox) (tree context : Value) : Except Fault (Value × Value) := do
  (Rule.checkDepth s.maxDepth tree).mapError Fault.logic
  let given := Value.object (← context.toEntries.mapError Fault.breakdown)
  (s.checkHandover [tree, given]).mapError Fault.breakdown
  return s.handedOver tree given

/-- What is answered to a worker of the given conduct. -/
def hear (s : Sandbox) (exitCode : Option Int) (conduct : Conduct Value) : Outcome := do
  s.checkWait.mapError Fault.breakdown
  match if s.isPatient then conduct else .overruns with
  | .answers outcome => received exitCode (WorkerMessage.ofOutcome? outcome)
  | .exits => received exitCode none
  | .overruns => .error (.ofTimeout s.timeout)

/-- A sandbox waits for the workers that it has started. -/
structure Waits (s : Sandbox) : Prop where
  wait : s.checkWait = .ok ()
  patient : s.isPatient = true

variable {s : Sandbox} {exitCode : Option Int}

theorem runWith_eq (s : Sandbox) (work : Value → Value → Conduct Value) (tree context : Value)
    (exitCode : Option Int) :
    s.runWith work tree context exitCode =
      s.prepare tree context >>= fun data => s.hear exitCode (work data.1 data.2) := by
  simp only [runWith, prepare, bind_assoc, pure_bind]
  rfl

theorem Waits.hear (waits : s.Waits) (outcome : Outcome) :
    s.hear exitCode (.answers outcome) = received exitCode (WorkerMessage.ofOutcome? outcome) := by
  rw [Sandbox.hear, waits.wait, waits.patient]
  rfl

end Sandbox

/-! ### Both sides -/

/-- A sandbox with its worker, once there is one, and with its answer. -/
structure Exchange where
  worker : Option (Worker Value) := none
  answer : Option Outcome := none

namespace Exchange

/-- What can happen next.  The time for an answer is over only if a sandbox gives no time at all, or
if its worker never comes to an end. -/
inductive Step (s : Sandbox) (exitCode : Option Int) (work : Value → Value → Conduct Value)
    (tree context : Value) : Exchange → Exchange → Prop
  | refuse {fault} (h : s.prepare tree context = .error fault) :
      Step s exitCode work tree context ⟨none, none⟩ ⟨none, some (.error fault)⟩
  | start {data} (h : s.prepare tree context = .ok data) :
      Step s exitCode work tree context ⟨none, none⟩ ⟨some (.fresh data.1 data.2), none⟩
  | proceed {w w' answer} (h : w.Step work w') :
      Step s exitCode work tree context ⟨some w, answer⟩ ⟨some w', answer⟩
  | cannotWait {w cause} (h : s.checkWait = .error cause) :
      Step s exitCode work tree context ⟨some w, none⟩
        ⟨some w, some (.error (.breakdown cause))⟩
  | receive {w message rest} (waits : s.Waits) (h : w.line.sent = message :: rest) :
      Step s exitCode work tree context ⟨some w, none⟩ ⟨some w, some message.toOutcome⟩
  | exhausted {w} (waits : s.Waits) (h : w.line = ⟨[], true⟩) :
      Step s exitCode work tree context ⟨some w, none⟩
        ⟨some w, some (.error (.logic (.workerExited exitCode)))⟩
  | expire {w} (wait : s.checkWait = .ok ())
      (h : s.isPatient = false ∨ ∃ t c, w.stage = .evaluating t c ∧ work t c = .overruns) :
      Step s exitCode work tree context ⟨some w, none⟩
        ⟨some w, some (.error (.ofTimeout s.timeout))⟩
  | stop {w outcome} (h : w.stage ≠ .gone) :
      Step s exitCode work tree context ⟨some w, some outcome⟩
        ⟨some ⟨.gone, w.line.close⟩, some outcome⟩

/-- How many steps are left at most. -/
def left (e : Exchange) : Nat := e.worker.elim 4 Worker.left + if e.answer.isNone then 1 else 0

/-- The states of an exchange over a tree in a context. -/
inductive Sound (s : Sandbox) (exitCode : Option Int) (work : Value → Value → Conduct Value)
    (tree context : Value) : Exchange → Prop
  | idle : Sound s exitCode work tree context ⟨none, none⟩
  | refused {fault} (h : s.prepare tree context = .error fault) :
      Sound s exitCode work tree context ⟨none, some (.error fault)⟩
  | waiting {data w} (h : s.prepare tree context = .ok data) (hw : w.Sound work data.1 data.2) :
      Sound s exitCode work tree context ⟨some w, none⟩
  | answered {data w} (h : s.prepare tree context = .ok data) :
      Sound s exitCode work tree context ⟨some w, some (s.hear exitCode (work data.1 data.2))⟩

variable {s : Sandbox} {work : Value → Value → Conduct Value} {tree context given : Value}
  {exitCode : Option Int} {e e' : Exchange}

theorem Step.left_lt (h : Step s exitCode work tree context e e') : e'.left < e.left := by
  cases h with
  | proceed h =>
      have := h.left_lt
      simp only [left, Option.elim]
      omega
  | @stop w _ h =>
      -- A worker that is stopped skips all the steps it had left.
      have : 0 < w.left := by
        rcases w with ⟨_ | _ | _ | _, _⟩ <;> simp_all [Worker.left]
      simpa [left, Worker.left] using this
  | _ => simp [left, Worker.left, Worker.fresh]

theorem hear_of_unwaitable {cause : Breakdown} (conduct : Conduct Value)
    (h : s.checkWait = .error cause) : s.hear exitCode conduct = .error (.breakdown cause) := by
  rw [Sandbox.hear, h]
  rfl

/-- What a worker has sent is what the sandbox answers, if it waits. -/
theorem hear_of_received {w : Worker Value} {message : WorkerMessage Value}
    {rest : List (WorkerMessage Value)}
    (waits : s.Waits) (hw : w.Sound work tree given) (h : w.line.sent = message :: rest) :
    s.hear exitCode (work tree given) = message.toOutcome := by
  cases hw with
  | leaving ho | answered ho =>
      have told := Option.mem_toList.mp (h ▸ List.mem_cons_self)
      rw [ho, waits.hear, told]
      rfl
  | _ => cases h

/-- Where a worker has closed its end without a message, it has exited. -/
theorem hear_of_exhausted {w : Worker Value} (waits : s.Waits) (hw : w.Sound work tree given)
    (h : w.line = ⟨[], true⟩) :
    s.hear exitCode (work tree given) = .error (.logic (.workerExited exitCode)) := by
  cases hw with
  | answered ho =>
      rw [ho, waits.hear, Option.toList_eq_nil_iff.mp (congrArg Transcript.sent h)]
      rfl
  | exited ho =>
      rw [ho, Sandbox.hear, waits.wait, waits.patient]
      rfl
  | evaluating | telling | leaving => cases congrArg Transcript.closed h

theorem hear_of_expired {w : Worker Value} (wait : s.checkWait = .ok ()) (hw : w.Sound work tree given)
    (h : s.isPatient = false ∨ ∃ t c, w.stage = .evaluating t c ∧ work t c = .overruns) :
    s.hear exitCode (work tree given) = .error (.ofTimeout s.timeout) := by
  rcases h with impatient | ⟨t, c, hs, ho⟩
  · rw [Sandbox.hear, wait, impatient]
    rfl
  · cases hw with
    | evaluating =>
        cases hs
        rw [ho, Sandbox.hear, wait]
        cases s.isPatient <;> rfl
    | _ => cases hs

theorem Sound.step (he : Sound s exitCode work tree context e) (h : Step s exitCode work tree context e e') :
    Sound s exitCode work tree context e' := by
  cases he with
  | idle =>
      cases h with
      | refuse h => exact .refused h
      | start h => exact .waiting h .evaluating
  | refused h => cases h
  | @waiting data w prepared hw =>
      cases h with
      | proceed h => exact .waiting prepared (hw.step h)
      | cannotWait h => exact hear_of_unwaitable (work data.1 data.2) h ▸ .answered prepared
      | receive waits h => exact hear_of_received waits hw h ▸ .answered prepared
      | exhausted waits h => exact hear_of_exhausted waits hw h ▸ .answered prepared
      | expire wait h => exact hear_of_expired wait hw h ▸ .answered prepared
  | answered prepared => cases h <;> exact .answered prepared

/-- A sandbox that waits for an answer need not wait for ever. -/
theorem Sound.exists_step {w : Worker Value} {t c : Value} (hw : w.Sound work t c) :
    ∃ e', Step s exitCode work tree context ⟨some w, none⟩ e' := by
  cases wait : s.checkWait with
  | error cause => exact ⟨_, .cannotWait wait⟩
  | ok _ =>
      cases patient : s.isPatient with
      | false => exact ⟨_, .expire wait (.inl patient)⟩
      | true =>
          have waits : s.Waits := ⟨wait, patient⟩
          cases hw with
          | evaluating =>
              cases conduct : work t c with
              | answers outcome => exact ⟨_, .proceed (.evaluate conduct)⟩
              | exits => exact ⟨_, .proceed (.exit conduct)⟩
              | overruns => exact ⟨_, .expire wait (.inr ⟨_, _, rfl, conduct⟩)⟩
          | telling => exact ⟨_, .proceed .tell⟩
          | leaving => exact ⟨_, .proceed .leave⟩
          | @answered outcome =>
              cases told : WorkerMessage.ofOutcome? outcome with
              | none => exact ⟨_, .exhausted waits (by rw [Transcript.ofOutcome, told]; rfl)⟩
              | some message => exact ⟨_, .receive waits (by rw [Transcript.ofOutcome, told]; rfl)⟩
          | exited => exact ⟨_, .exhausted waits rfl⟩

/-- **The answer of an exchange.**  In whatever order the steps are taken, an exchange comes to an
end; then it has the answer of `runWith`, and no worker is left. -/
theorem leads_runWith (s : Sandbox) (exitCode : Option Int) (work : Value → Value → Conduct Value)
    (tree context : Value) :
    Leads (Step s exitCode work tree context)
      (fun e => e.answer = some (s.runWith work tree context exitCode) ∧
        ∀ w ∈ e.worker, w.stage = .gone)
      {} := by
  refine .of_measure (Sound s exitCode work tree context) left (fun _ _ => Sound.step)
    (fun _ _ => Step.left_lt) ?_ _ .idle
  intro e he stuck
  rw [Sandbox.runWith_eq]
  -- Only an exchange that is answered, and whose worker is gone, has no step left.
  cases he with
  | idle =>
      cases h : s.prepare tree context with
      | error fault => exact (stuck _ (.refuse h)).elim
      | ok data => exact (stuck _ (.start h)).elim
  | refused h => simp [h, bind, Except.bind]
  | waiting h hw =>
      obtain ⟨e', he'⟩ := Sound.exists_step hw
      exact (stuck e' he').elim
  | @answered data w h =>
      refine ⟨by simp [h, bind, Except.bind], ?_⟩
      rintro _ ⟨⟩
      by_contra running
      exact stuck _ (.stop running)

/-- No worker is started where something is in the way. -/
theorem worker_eq_none {fault : Fault} (refused : s.prepare tree context = .error fault)
    (h : ReflTransGen (Step s exitCode work tree context) {} e) : e.worker = none := by
  cases inv_of_reflTransGen (Sound s exitCode work tree context) (fun _ _ => Sound.step) .idle h with
  | idle | refused => rfl
  | waiting prepared | answered prepared =>
      rw [refused] at prepared
      cases prepared

end Exchange

end TriggerFlow
