import TriggerFlow.Proofs.Store.Insertion

/-! # Transactions

Every call of the store runs in a transaction of its own.  The transaction brings the ids of new rows and
the time; it may fail, and is then undone.  What a call can do to the tables is said once (`Step`), and
every call does one of these things, whether it succeeds, is refused or is undone
(`Transaction.perform_step`). -/

namespace TriggerFlow.Store

/-! ### Bumps and queries -/

/-- The row of a workflow after a bump of an id. -/
def bumpRow (id : String) (now : WallTime) (w : Workflow) : Workflow :=
  if w.id == id then
    { w with executions := w.executions + 1, lastExecuted := some ⟨now, some 0⟩ }
  else w

theorem bumpRow_of_ne {id : String} {w : Workflow} (h : w.id ≠ id) (now : WallTime) :
    bumpRow id now w = w :=
  if_neg fun same => h (beq_iff_eq.mp same)

@[simp] theorem bumpRow_id (id : String) (now : WallTime) (w : Workflow) :
    (bumpRow id now w).id = w.id := by
  unfold bumpRow
  split <;> rfl

theorem get_state (id : String) (s : Store) : (get id s).2 = s := by
  unfold get
  split <;> rfl

theorem active_state (trigger : String) (limit : Int) (s : Store) :
    (active trigger limit s).2 = s := by
  unfold active
  split
  · rfl
  · split <;> rfl

theorem list_state (id : String) (limit : Int) (s : Store) : (list id limit s).2 = s := by
  unfold list
  split
  · rfl
  · split <;> rfl

theorem bump_apply (id : String) {s : Store} {rows : List Workflow} (h : s.workflows = some rows) :
    bump id s = (.ok (), { s with workflows := some (rows.map (bumpRow id s.now)) }) := by
  rw [bump, h]
  rfl

/-- A bump of an id that no row has changes nothing. -/
theorem bump_of_unknown {id : String} {s : Store} {rows : List Workflow}
    (hrows : s.workflows = some rows) (unknown : id ∉ rows.map Workflow.id) :
    bump id s = (.ok (), s) := by
  have same : rows.map (bumpRow id s.now) = rows := by
    refine (List.map_congr_left fun w hw => ?_).trans (List.map_id _)
    exact bumpRow_of_ne (fun same => unknown (List.mem_map.mpr ⟨w, hw, same⟩)) s.now
  rw [bump_apply id hrows, same, ← hrows]

/-! ### Commands -/

variable [Levels]

/-- A call of the store, its arguments as they are declared. -/
inductive Command
  | create (p : Proposal)
  | record (r : Submission)
  | bump (id : String)
  | get (id : String)
  | active (trigger : String) (limit : Int)
  | list (workflowId : String) (limit : Int)

/-- What a call gives back. -/
inductive Reply
  | created (w : Workflow)
  | recorded (id : String)
  | bumped
  | found (w : Option Workflow)
  | fed (ws : List Workflow)
  | listed (rows : List StoredRecord)

namespace Command

def operation : Command → String
  | create _ => "create_workflow"
  | record _ => "create_execution"
  | bump _ => "bump_stats"
  | get _ => "get_by_id"
  | active _ _ => "get_active_by_trigger"
  | list _ _ => "list_for_workflow"

/-- Whether the command only looks at the tables. -/
def reads : Command → Bool
  | get _ | active _ _ | list _ _ => true
  | create _ | record _ | bump _ => false

/-- An operation of the store with its result as a reply. -/
def replying {α : Type} (reply : α → Reply) (operation : StateM Store (Except Fault α)) :
    StateM Store (Except Fault Reply) := fun s =>
  ((operation s).1.map reply, (operation s).2)

def perform : Command → StateM Store (Except Fault Reply)
  | create p => replying .created (createFrom p.columns p.maxDepth)
  | record r => replying .recorded (recordFrom r.columns)
  | bump id => replying (fun _ => .bumped) (Store.bump id)
  | get id => replying .found (Store.get id)
  | active trigger limit => replying .fed (Store.active trigger limit)
  | list id limit => replying .listed (Store.list id limit)

end Command

/-- A command with what the database brings to it: the ids of new rows, the time, and, if it fails
before all is done, the reason. -/
structure Transaction where
  command : Command
  ids : List String := []
  now : WallTime := 0
  outage : Option String := none

/-- The store when the transaction begins. -/
def Transaction.begun (x : Transaction) (s : Store) : Store :=
  { s with queuedIds := x.ids, now := x.now }

/-- Performs the command; if the database fails, the tables are put back. -/
def Transaction.perform (x : Transaction) : StateM Store (Except Fault Reply) := fun s =>
  match x.command.perform (x.begun s), x.outage with
  | (.ok _, after), some reason =>
    (.error (failed x.command.operation reason),
      { after with workflows := s.workflows, records := s.records })
  | answered, _ => answered

/-! ### What one command does -/

/-- What a command with a reply does to the tables. -/
inductive Step : Command → Except Fault Reply → Tables → Tables → Prop
  | raised (c : Command) (fault : Fault) (t : Tables) : Step c (.error fault) t t
  | read {c : Command} (reads : c.reads = true) (reply : Reply) (t : Tables) : Step c (.ok reply) t t
  | created {p : Proposal} {w : Workflow} {rows : List Workflow} (stores : p.Stores w)
      (fresh : w.id ∉ rows.map Workflow.id) (records : Option (List StoredRecord)) :
      Step (.create p) (.ok (.created w)) ⟨some rows, records⟩ ⟨some (rows ++ [w]), records⟩
  | recorded (r : Submission) {id : String} (created : Timestamp) {rows : List StoredRecord}
      (fresh : id ∉ rows.map StoredRecord.id) (workflows : Option (List Workflow)) :
      Step (.record r) (.ok (.recorded id)) ⟨workflows, some rows⟩
        ⟨workflows, some (rows ++ [⟨id, rereadRecord r.record, created⟩])⟩
  | bumped (id : String) (now : WallTime) (rows : List Workflow)
      (records : Option (List StoredRecord)) :
      Step (.bump id) (.ok .bumped) ⟨some rows, records⟩ ⟨some (rows.map (bumpRow id now)), records⟩

theorem step_read {c : Command} (reads : c.reads = true) (reply : Except Fault Reply) (t : Tables) :
    Step c reply t t := by
  cases reply with
  | error fault => exact .raised c fault t
  | ok reply => exact .read reads reply t

/-- Every command takes a step. -/
theorem Command.perform_step (c : Command) (s : Store) :
    Step c (c.perform s).1 s.tables (c.perform s).2.tables := by
  cases c with
  | create p =>
      rw [perform, replying]
      rcases createFrom_cases p s with ⟨fault, answer, after⟩ |
        ⟨rows, w, stores, hrows, fresh, answer, after⟩
      · rw [answer, after]
        exact .raised _ fault _
      · rw [answer, after, tables, hrows]
        exact .created stores fresh _
  | record r =>
      rw [perform, replying]
      rcases recordFrom_cases r s with ⟨fault, answer, after⟩ |
        ⟨rows, id, created, hrows, fresh, answer, after⟩
      · rw [answer, after]
        exact .raised _ fault _
      · rw [answer, after, tables, hrows]
        exact .recorded r created fresh _
  | bump id =>
      rw [perform, replying]
      cases hrows : s.workflows with
      | none =>
          rw [Store.bump, hrows]
          exact .raised _ _ _
      | some rows =>
          rw [bump_apply id hrows, tables, hrows]
          exact .bumped id s.now rows s.records
  | get id =>
      rw [perform, replying, get_state]
      exact step_read rfl _ _
  | active trigger limit =>
      rw [perform, replying, active_state]
      exact step_read rfl _ _
  | list id limit =>
      rw [perform, replying, list_state]
      exact step_read rfl _ _

/-- A transaction takes a step of its command; if it is undone, the one of a command that raised. -/
theorem Transaction.perform_step (x : Transaction) (s : Store) :
    Step x.command (x.perform s).1 s.tables (x.perform s).2.tables := by
  have step : Step x.command (x.command.perform (x.begun s)).1 s.tables
      (x.command.perform (x.begun s)).2.tables := x.command.perform_step (x.begun s)
  unfold perform
  split
  · exact .raised _ _ _
  · exact step

/-- A command that raises changes no table. -/
theorem Step.tables_eq {c : Command} {fault : Fault} {t t' : Tables}
    (step : Step c (.error fault) t t') : t' = t := by
  cases step
  rfl

end TriggerFlow.Store
