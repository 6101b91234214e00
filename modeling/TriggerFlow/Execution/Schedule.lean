/-!
# Running jobs

Jobs run one after another until one fails, or several at a time. Then at most `limit` jobs run at once;
a waiting job starts when another one is done, a schedule says which of the running jobs is done next,
and a job that fails does not stop the others. Either way the results come in the order of the jobs.
-/

namespace TriggerFlow

/-- Which of the running jobs is done next, time after time; the first one once the list is used up. -/
abbrev Schedule := List Nat

namespace Schedule

variable {σ α ε : Type}

/-- Runs jobs one after another until one fails. -/
def inTurn : List (StateM σ (Except ε α)) → StateM σ (Except ε (List α))
  | [] => return .ok []
  | job :: rest => do
    match ← job with
    | .error fault => return .error fault
    | .ok a => return (← inTurn rest).map (a :: ·)

/-- Jobs that wait, jobs that run, and the results so far, all with the place of the job. -/
structure Board (σ α : Type) where
  waiting : List (Nat × StateM σ α)
  running : List (Nat × StateM σ α) := []
  finished : List (Nat × α) := []

/-- Starts waiting jobs until `limit` jobs run. -/
def Board.fill (limit : Nat) (b : Board σ α) : Board σ α :=
  let room := limit - b.running.length
  { b with running := b.running ++ b.waiting.take room, waiting := b.waiting.drop room }

/-- Lets the jobs run for `rounds` more results. -/
def Board.run (limit : Nat) (schedule : Schedule) (b : Board σ α) :
    (rounds : Nat) → StateM σ (Board σ α)
  | 0 => pure b
  | rounds + 1 => do
    let b := b.fill limit
    let next := schedule.headD 0 % b.running.length
    match b.running[next]? with
    | none => return b
    | some (place, job) =>
      let result ← job
      Board.run limit schedule.tail
        { b with
          running := b.running.eraseIdx next
          finished := (place, result) :: b.finished }
        rounds

/-- Runs all jobs and gives their results in the order of the jobs, or the failure of the job that was
the first to fail. -/
def gather (limit : Nat) (schedule : Schedule) (jobs : List (StateM σ (Except ε α))) :
    StateM σ (Except ε (List α)) := do
  let places := List.range jobs.length
  let b ← Board.run limit schedule { waiting := places.zip jobs } jobs.length
  return do
    let finished ← b.finished.reverse.mapM fun (place, result) => result.map fun a => (place, a)
    return places.filterMap fun place => finished.lookup place

/-- Runs jobs, at most so many at a time. -/
def together (maxConcurrency : Int) (schedule : Schedule) (jobs : List (StateM σ (Except ε α))) :
    StateM σ (Except ε (List α)) :=
  if maxConcurrency ≤ 1 then inTurn jobs else gather maxConcurrency.toNat schedule jobs

end Schedule

end TriggerFlow
