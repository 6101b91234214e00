import Mathlib.Data.List.Perm.Basic
import TriggerFlow.Execution.Schedule
import TriggerFlow.Proofs.Outcome
import TriggerFlow.Proofs.Value.Parts

/-! # Jobs under a schedule

Whatever the schedule, running several jobs at a time is running all of them one after another, in
some order (`Board.run_eq`).  The results are put back in the order of the jobs: what each job answers,
logs and keeps alone, it answers, logs and keeps under any schedule (`together_ran`).  As long as no job
fails, the schedule shows in nothing but the order of the log; which of several failures is told depends
on the schedule and on the answers alone (`together_same`). -/

namespace TriggerFlow

variable {σ σ' ε α β : Type}

/-! ### Actions on a state -/

@[simp] theorem StateM.bind_apply (x : StateM σ α) (f : α → StateM σ β) (s : σ) :
    (x >>= f) s = f (x s).1 (x s).2 := rfl

@[simp] theorem StateM.pure_apply (a : α) (s : σ) : (pure a : StateM σ α) s = (a, s) := rfl

@[simp] theorem StateM.map_apply (f : α → β) (x : StateM σ α) (s : σ) :
    (f <$> x) s = (f (x s).1, (x s).2) := rfl

/-- An action that gives the same answer in every state. -/
def Answers (action : StateM σ α) (a : α) : Prop := ∀ s, (action s).1 = a

/-- Every answer of the action has the property `Q`, and the action keeps `P`. -/
def Keeps (P : σ → Prop) (Q : α → Prop) (action : StateM σ α) : Prop :=
  ∀ s, P s → Q (action s).1 ∧ P (action s).2

/-- The action appends the entries to a log in the state. -/
def Adds {γ : Type} (log : σ → List γ) (entries : List γ) (action : StateM σ α) : Prop :=
  ∀ s, log (action s).2 = log s ++ entries

/-- What the action answers and what it appends to a log are in the relation `R`, and it keeps `P`. -/
def Yields {γ : Type} (P : σ → Prop) (log : σ → List γ) (R : α → List γ → Prop)
    (action : StateM σ α) : Prop :=
  ∀ s, P s → ∃ logged, R (action s).1 logged ∧ log (action s).2 = log s ++ logged ∧ P (action s).2

open Outcome

namespace Schedule

variable {γ δ : Type} {P : σ → Prop} {log : σ → List γ}

/-- A job with its place. -/
abbrev Placed (σ α : Type) := Nat × StateM σ α

/-- Runs jobs one after another; the results have the places of the jobs. -/
def inOrder : List (Placed σ α) → StateM σ (List (Nat × α))
  | [] => pure []
  | (place, job) :: rest => do
    let a ← job
    let done ← inOrder rest
    pure ((place, a) :: done)

theorem inOrder_cons (place : Nat) (job : StateM σ α) (rest : List (Placed σ α)) (s : σ) :
    inOrder ((place, job) :: rest) s =
      ((place, (job s).1) :: (inOrder rest (job s).2).1, (inOrder rest (job s).2).2) := rfl

theorem inOrder_places (order : List (Placed σ α)) (s : σ) :
    (inOrder order s).1.map Prod.fst = order.map Prod.fst := by
  induction order generalizing s with
  | nil => rfl
  | cons job rest ih =>
      obtain ⟨place, job⟩ := job
      rw [inOrder_cons, List.map_cons, List.map_cons, ih]

theorem inOrder_yields {R : Nat → α → List γ → Prop} (order : List (Placed σ α))
    (h : ∀ entry ∈ order, Yields P log (R entry.1) entry.2) (s : σ) (hs : P s) :
    ∃ done : List (Nat × α × List γ), done.map (fun d => (d.1, d.2.1)) = (inOrder order s).1 ∧
      (∀ d ∈ done, R d.1 d.2.1 d.2.2) ∧
      log (inOrder order s).2 = log s ++ done.flatMap (fun d => d.2.2) ∧ P (inOrder order s).2 := by
  induction order generalizing s with
  | nil => exact ⟨[], rfl, nofun, (List.append_nil _).symm, hs⟩
  | cons entry rest ih =>
      obtain ⟨place, job⟩ := entry
      obtain ⟨logged, holds, first, keep⟩ := h (place, job) List.mem_cons_self s hs
      obtain ⟨done, answers, each, others, keeps⟩ :=
        ih (fun e he => h e (List.mem_cons_of_mem _ he)) (job s).2 keep
      rw [inOrder_cons]
      refine ⟨(place, (job s).1, logged) :: done, congrArg (_ :: ·) answers,
        List.forall_mem_cons.mpr ⟨holds, each⟩, ?_, keeps⟩
      rw [others, first, List.append_assoc]
      rfl

/-! ### Rounds -/

namespace Board

/-- The jobs that are not done yet. -/
def pending (b : Board σ α) : List (Placed σ α) := b.running ++ b.waiting

theorem pending_fill (limit : Nat) (b : Board σ α) : (b.fill limit).pending = b.pending := by
  simp [pending, fill]

/-- With room for a job at all, there is a running one as long as one is pending. -/
theorem running_fill_ne_nil {limit : Nat} (hl : 0 < limit) {b : Board σ α}
    (hp : b.pending ≠ []) : (b.fill limit).running ≠ [] := by
  intro h
  apply hp
  obtain ⟨hr, ht⟩ := List.append_eq_nil_iff.mp h
  rw [hr, List.length_nil, Nat.sub_zero, List.take_eq_nil_iff] at ht
  rw [pending, hr, ht.resolve_left (by omega)]
  rfl

/-- One round: a pending job is run and moved to the finished ones. -/
theorem run_succ {limit : Nat} (hl : 0 < limit) (schedule : Schedule) {b : Board σ α}
    (hp : b.pending ≠ []) (rounds : Nat) (s : σ) :
    ∃ place job, ∃ b' : Board σ α,
      ((place, job) :: b'.pending).Perm b.pending ∧
        b'.finished = (place, (job s).1) :: b.finished ∧
          Board.run limit schedule b (rounds + 1) s =
            Board.run limit schedule.tail b' rounds (job s).2 := by
  have hlen : 0 < (b.fill limit).running.length :=
    List.length_pos_iff.mpr (running_fill_ne_nil hl hp)
  have hnext := Nat.mod_lt (schedule.headD 0) hlen
  obtain ⟨⟨place, job⟩, hj⟩ :
      ∃ entry, (b.fill limit).running[schedule.headD 0 % (b.fill limit).running.length] = entry :=
    ⟨_, rfl⟩
  refine ⟨place, job,
    { b.fill limit with
      running := (b.fill limit).running.eraseIdx
        (schedule.headD 0 % (b.fill limit).running.length)
      finished := (place, (job s).1) :: (b.fill limit).finished }, ?_, rfl, ?_⟩
  · rw [← pending_fill limit b, ← hj]
    exact (List.getElem_cons_eraseIdx_perm hnext).append_right _
  · have found := List.getElem?_eq_getElem hnext
    rw [hj] at found
    simp only [Board.run, found]
    rfl

/-- **A scheduled run is a run in some order.** -/
theorem run_eq {limit : Nat} (hl : 0 < limit) (schedule : Schedule) (rounds : Nat)
    (b : Board σ α) (hb : b.pending.length = rounds) (s : σ) :
    ∃ order : List (Placed σ α), order.Perm b.pending ∧
      (Board.run limit schedule b rounds s).1.finished =
        (inOrder order s).1.reverse ++ b.finished ∧
      (Board.run limit schedule b rounds s).2 = (inOrder order s).2 := by
  induction rounds generalizing schedule b s with
  | zero =>
      refine ⟨[], ?_, rfl, rfl⟩
      rw [List.length_eq_zero_iff.mp hb]
  | succ rounds ih =>
      have hp : b.pending ≠ [] := by
        intro h
        rw [h] at hb
        cases hb
      obtain ⟨place, job, b', perm, hf, hrun⟩ := run_succ hl schedule hp rounds s
      have hb' : b'.pending.length = rounds := by
        have := perm.length_eq
        rw [List.length_cons] at this
        omega
      obtain ⟨order, hperm, hfin, hstate⟩ := ih schedule.tail b' hb' (job s).2
      refine ⟨(place, job) :: order, (hperm.cons _).trans perm, ?_, ?_⟩
      · rw [hrun, hfin, hf, inOrder_cons, List.reverse_cons, List.append_assoc]
        rfl
      · rw [hrun, hstate, inOrder_cons]

end Board

/-! ### Results in the order of the jobs -/

theorem exists_of_getElem? {R : γ → δ → Prop} {xs : List γ} {ys : List δ}
    (h : List.Forall₂ R xs ys) {i : Nat} {x : γ} (hx : xs[i]? = some x) :
    ∃ y, ys[i]? = some y ∧ R x y := by
  induction h generalizing i with
  | nil => cases hx
  | @cons a b as bs hab _ ih =>
      cases i with
      | zero =>
          cases hx
          exact ⟨b, rfl, hab⟩
      | succ i => exact ih hx

theorem map_fst_places (jobs : List (StateM σ α)) :
    ((List.range jobs.length).zip jobs).map Prod.fst = List.range jobs.length := by
  rw [List.map_fst_zip]
  exact Nat.le_of_eq List.length_range

theorem job_of_mem_places {jobs : List (StateM σ α)} {entry : Placed σ α}
    (h : entry ∈ (List.range jobs.length).zip jobs) : jobs[entry.1]? = some entry.2 := by
  obtain ⟨i, hi⟩ := List.mem_iff_getElem?.mp h
  obtain ⟨hplace, hjob⟩ := List.getElem?_zip_eq_some.mp hi
  obtain ⟨hlt, hplace⟩ := List.getElem?_eq_some_iff.mp hplace
  rw [← hplace, List.getElem_range]
  exact hjob

/-- Results with their places, unless one of them is a failure. -/
def collected (results : List (Nat × Except ε α)) : Except ε (List (Nat × α)) :=
  results.mapM fun (place, result) => result.map fun a => (place, a)

theorem collected_eq_ok {results : List (Nat × Except ε α)} {found : List (Nat × α)} :
    collected results = .ok found ↔ results = found.map fun p => (p.1, .ok p.2) := by
  rw [collected, mapM_eq_ok, ← List.forall₂_eq_eq_eq, List.forall₂_map_right_iff]
  constructor
  · refine List.Forall₂.imp ?_
    rintro ⟨place, result⟩ p h
    obtain ⟨a, rfl, rfl⟩ := map_eq_ok.mp h
    rfl
  · refine List.Forall₂.imp ?_
    rintro _ p rfl
    rfl

theorem mem_of_collected_error {results : List (Nat × Except ε α)} {fault : ε}
    (h : collected results = .error fault) : ∃ place, (place, .error fault) ∈ results := by
  obtain ⟨⟨place, result⟩, mem, failed⟩ := mem_of_mapM_error h
  cases map_eq_error.mp failed
  exact ⟨place, mem⟩

/-- The results of the jobs, found by their places. -/
def inPlace (count : Nat) (results : List (Nat × Except ε α)) : Except ε (List α) :=
  (collected results).map fun found => (List.range count).filterMap fun place => found.lookup place

theorem gather_apply (limit : Nat) (schedule : Schedule) (jobs : List (StateM σ (Except ε α)))
    (s : σ) :
    gather limit schedule jobs s =
      let after := Board.run limit schedule { waiting := (List.range jobs.length).zip jobs }
        jobs.length s
      (inPlace jobs.length after.1.finished.reverse, after.2) := by
  unfold inPlace
  dsimp only
  rcases hfound : collected (Board.run limit schedule { waiting := (List.range jobs.length).zip jobs }
    jobs.length s).1.finished.reverse with fault | found
  all_goals
    unfold collected at hfound
    unfold gather
    rw [StateM.bind_apply]
    dsimp only [StateM.pure_apply]
    rw [hfound]
    rfl

/-- Scheduled jobs are run in some order, and each result is found by its place. -/
theorem gather_eq {limit : Nat} (hl : 0 < limit) (schedule : Schedule)
    (jobs : List (StateM σ (Except ε α))) (s : σ) :
    ∃ order : List (Placed σ (Except ε α)), order.Perm ((List.range jobs.length).zip jobs) ∧
      gather limit schedule jobs s =
        (inPlace jobs.length (inOrder order s).1, (inOrder order s).2) := by
  obtain ⟨order, perm, finished, state⟩ :=
    Board.run_eq hl schedule jobs.length
      { waiting := (List.range jobs.length).zip jobs } (by simp [Board.pending]) s
  refine ⟨order, perm, ?_⟩
  rw [List.append_nil] at finished
  rw [gather_apply]
  dsimp only
  rw [finished, state, List.reverse_reverse]

/-- What has places can be sorted by them. -/
theorem exists_sorted {β : Type} {done : List (Nat × β)} {n : Nat}
    (places : (List.range n).Perm (done.map Prod.fst)) :
    ∃ sorted : List (Nat × β), sorted.Perm done ∧ sorted.map Prod.fst = List.range n := by
  obtain ⟨sorted, inPlace, perm⟩ := List.perm_comp_forall₂ (r := fun i d => i = d.1) places
    (List.forall₂_map_left_iff.mpr (List.forall₂_same.mpr fun d _ => rfl))
  refine ⟨sorted, perm, ?_⟩
  rw [← List.forall₂_map_right_iff, List.forall₂_eq_eq_eq] at inPlace
  exact inPlace.symm

/-- What is sorted by its places, and related to the items of these places, is related to all items in
their order. -/
theorem forall₂_of_places {R : γ → δ → Prop} {xs : List γ} {sorted : List (Nat × δ)}
    (places : sorted.map Prod.fst = List.range xs.length)
    (h : ∀ d ∈ sorted, ∃ x, xs[d.1]? = some x ∧ R x d.2) :
    List.Forall₂ R xs (sorted.map Prod.snd) := by
  have hlen : xs.length = sorted.length := by
    rw [← sorted.length_map Prod.fst, places, List.length_range]
  rw [List.forall₂_map_right_iff, List.forall₂_iff_get]
  refine ⟨hlen, fun i hi hd => ?_⟩
  obtain ⟨x, hx, related⟩ := h _ (List.get_mem sorted ⟨i, hd⟩)
  have place : (sorted.map Prod.fst)[i]? = some (sorted.get ⟨i, hd⟩).1 := by
    rw [List.getElem?_map, List.getElem?_eq_getElem hd]
    rfl
  rw [places, List.getElem?_range hi] at place
  rw [← Option.some.inj place, List.getElem?_eq_getElem hi] at hx
  cases hx
  exact related

/-- Results that are sorted by their places are found in this order. -/
theorem inPlace_eq_ok {results : List (Nat × Except ε α)} {count : Nat} {as : List α}
    {sorted : List (Nat × Except ε α)} (same : sorted.Perm results)
    (places : sorted.map Prod.fst = List.range count) (h : inPlace count results = .ok as) :
    sorted.map Prod.snd = as.map .ok := by
  obtain ⟨found, collects, rfl⟩ := map_eq_ok.mp h
  have results_eq := collected_eq_ok.mp collects
  have keys : (found.map Prod.fst).Nodup := by
    have all : (results.map Prod.fst).Nodup :=
      (same.map Prod.fst).nodup_iff.mp (places ▸ List.nodup_range)
    rwa [results_eq, List.map_map] at all
  have each : ∀ d ∈ sorted, (found.lookup d.1).map Except.ok = some d.2 := by
    intro d hd
    have mem := same.mem_iff.mp hd
    rw [results_eq] at mem
    obtain ⟨⟨place, a⟩, ha, rfl⟩ := List.mem_map.mp mem
    rw [(Value.lookup_eq_some_iff keys).mpr ha]
    rfl
  rw [← places, List.filterMap_map, List.map_filterMap, ← List.filterMap_eq_map]
  exact (List.filterMap_congr each).symm

/-! ### What comes of jobs -/

/-- What comes of jobs for items: `ran` are the items whose jobs were run, and `done` is what these
answered and logged.  The jobs that were run are the first ones, and all of them unless one fails; the
failure that is told is one of them.  The log is in the order of the jobs if they run in turn. -/
structure Ran (P : σ → Prop) (log : σ → List γ) (R : δ → Except ε α → List γ → Prop)
    (items : List δ) (inTurn : Prop) (before : σ) (after : Except ε (List α) × σ) (ran : List δ)
    (done : List (Except ε α × List γ)) : Prop where
  first : ran <+: items
  each : List.Forall₂ (fun x d => R x d.1 d.2) ran done
  logs : ∃ logged, logged.Perm (done.flatMap Prod.snd) ∧
    (inTurn → logged = done.flatMap Prod.snd) ∧ log after.2 = log before ++ logged
  keeps : P after.2
  completed : ∀ as, after.1 = .ok as → ran = items ∧ done.map Prod.fst = as.map .ok
  failed : ∀ fault, after.1 = .error fault → .error fault ∈ done.map Prod.fst

variable {R : δ → Except ε α → List γ → Prop} {xs : List δ} {jobs : List (StateM σ (Except ε α))}

theorem inTurn_ran (h : List.Forall₂ (fun x job => Yields P log (R x) job) xs jobs) (s : σ)
    (hs : P s) : ∃ ran done, Ran P log R xs True s (inTurn jobs s) ran done := by
  induction h generalizing s with
  | nil =>
      refine ⟨[], [], List.prefix_refl _, .nil,
        ⟨[], .refl _, fun _ => rfl, (List.append_nil _).symm⟩, hs, ?_, nofun⟩
      rintro _ ⟨⟩
      exact ⟨rfl, rfl⟩
  | @cons x job xs jobs yields _ ih =>
      obtain ⟨logged, holds, first, keep⟩ := yields s hs
      rw [inTurn, StateM.bind_apply]
      rcases answer : (job s).1 with fault | a
      · rw [answer] at holds
        refine ⟨[x], [(.error fault, logged)], List.prefix_append [x] xs, .cons holds .nil,
          ⟨logged, .of_eq (List.append_nil _).symm, fun _ => (List.append_nil _).symm, first⟩, keep,
          nofun, ?_⟩
        rintro _ ⟨⟩
        exact List.mem_singleton_self _
      · rw [answer] at holds
        obtain ⟨ran, done, start, each, ⟨others, perm, ordered, later⟩, keeps, completed, failed⟩ :=
          ih (job s).2 keep
        dsimp only [StateM.bind_apply, StateM.pure_apply]
        refine ⟨x :: ran, (.ok a, logged) :: done, (List.prefix_cons_inj x).mpr start,
          .cons holds each, ⟨logged ++ others, perm.append_left logged,
            fun _ => congrArg (logged ++ ·) (ordered trivial), ?_⟩, keeps, fun as has => ?_,
          fun fault hfault => ?_⟩
        · rw [later, first, List.append_assoc]
        · obtain ⟨rest, hrest, rfl⟩ := map_eq_ok.mp has
          obtain ⟨rfl, answers⟩ := completed rest hrest
          exact ⟨rfl, congrArg (Except.ok a :: ·) answers⟩
        · exact List.mem_cons_of_mem _ (failed fault (map_eq_error.mp hfault))

theorem gather_ran {limit : Nat} (hl : 0 < limit) (schedule : Schedule)
    (h : List.Forall₂ (fun x job => Yields P log (R x) job) xs jobs) (s : σ) (hs : P s) :
    ∃ done, Ran P log R xs False s (gather limit schedule jobs s) xs done := by
  obtain ⟨order, perm, hgather⟩ := gather_eq hl schedule jobs s
  have each : ∀ entry ∈ order,
      Yields P log (fun a logged => ∃ x, xs[entry.1]? = some x ∧ R x a logged) entry.2 := by
    intro entry he s hs
    obtain ⟨x, hx, yields⟩ :=
      exists_of_getElem? h.flip (job_of_mem_places (perm.mem_iff.mp he))
    obtain ⟨logged, holds, rest⟩ := yields s hs
    exact ⟨logged, ⟨x, hx, holds⟩, rest⟩
  obtain ⟨done, answers, holds, hlog, keeps⟩ :=
    inOrder_yields (R := fun i a logged => ∃ x, xs[i]? = some x ∧ R x a logged) order each s hs
  have places : (List.range jobs.length).Perm (done.map Prod.fst) := by
    have places := inOrder_places order s
    rw [← answers, List.map_map] at places
    rw [← map_fst_places]
    exact (perm.map Prod.fst).symm.trans (.of_eq places.symm)
  obtain ⟨sorted, same, sortedPlaces⟩ := exists_sorted places
  have results : (sorted.map fun d => (d.1, d.2.1)).Perm (inOrder order s).1 :=
    answers ▸ same.map _
  rw [hgather]
  refine ⟨sorted.map Prod.snd, List.prefix_refl _, ?_, ⟨_, ?_, False.elim, hlog⟩, keeps,
    fun as has => ?_, fun fault failed => ?_⟩
  · have related : ∀ d ∈ sorted, ∃ x, xs[d.1]? = some x ∧ R x d.2.1 d.2.2 :=
      fun d hd => holds d (same.mem_iff.mp hd)
    exact forall₂_of_places (h.length_eq ▸ sortedPlaces) related
  · rw [List.flatMap_map]
    exact (same.flatMap_right _).symm
  · have found := inPlace_eq_ok results (by rw [List.map_map]; exact sortedPlaces) has
    rw [List.map_map] at found ⊢
    exact ⟨rfl, found⟩
  · obtain ⟨place, mem⟩ := mem_of_collected_error (map_eq_error.mp failed)
    obtain ⟨d, hd, found⟩ := List.mem_map.mp (results.mem_iff.mpr mem)
    rw [List.map_map]
    exact List.mem_map.mpr ⟨d, hd, congrArg Prod.snd found⟩

/-- **What each job answers, logs and keeps, it answers, logs and keeps under any schedule.** -/
theorem together_ran (maxConcurrency : Int) (schedule : Schedule)
    (h : List.Forall₂ (fun x job => Yields P log (R x) job) xs jobs) (s : σ) (hs : P s) :
    ∃ ran done, Ran P log R xs (maxConcurrency ≤ 1) s
      (together maxConcurrency schedule jobs s) ran done := by
  by_cases hc : maxConcurrency ≤ 1
  · rw [together, if_pos hc, eq_true hc]
    exact inTurn_ran h s hs
  · have hl : 0 < maxConcurrency.toNat := by omega
    rw [together, if_neg hc, eq_false hc]
    exact ⟨xs, gather_ran hl schedule h s hs⟩

section Ran

variable {inTurn : Prop} {before : σ} {after : Except ε (List α) × σ} {ran : List δ}
  {done : List (Except ε α × List γ)}

/-- An answer is that of a job for an item, and what this job logged is in the log. -/
theorem Ran.exists_item (h : Ran P log R xs inTurn before after ran done) {answer : Except ε α}
    (mem : answer ∈ done.map Prod.fst) :
    ∃ x ∈ xs, ∃ logged, R x answer logged ∧ logged ⊆ log after.2 := by
  obtain ⟨d, hd, rfl⟩ := List.mem_map.mp mem
  obtain ⟨i, hi⟩ := List.mem_iff_getElem?.mp hd
  obtain ⟨x, hx, related⟩ := exists_of_getElem? h.each.flip hi
  refine ⟨x, h.first.subset (List.mem_of_getElem? hx), d.2, related, fun e he => ?_⟩
  obtain ⟨logged, perm, -, hlog⟩ := h.logs
  rw [hlog]
  exact List.mem_append_right _ (perm.mem_iff.mpr (List.mem_flatMap.mpr ⟨d, hd, he⟩))

/-- If there are results, each is next to what was logged along with it. -/
theorem Ran.exists_results (h : Ran P log R xs inTurn before after ran done) {as : List α}
    (has : after.1 = .ok as) :
    ∃ told : List (α × List γ), told.map Prod.fst = as ∧
      List.Forall₂ (fun x d => R x (.ok d.1) d.2) xs told ∧
      ∃ logged, logged.Perm (told.flatMap Prod.snd) ∧ log after.2 = log before ++ logged := by
  obtain ⟨rfl, answers⟩ := h.completed as has
  have lengths := congrArg List.length answers
  rw [List.length_map, List.length_map, ← done.length_map Prod.snd] at lengths
  have pairs : (as.zip (done.map Prod.snd)).map (Prod.map Except.ok id) = done := by
    rw [← List.zip_map_left]
    exact (List.zip_of_prod answers rfl).symm
  obtain ⟨logged, perm, -, hlog⟩ := h.logs
  refine ⟨as.zip (done.map Prod.snd), List.map_fst_zip (Nat.le_of_eq lengths.symm), ?_, logged, ?_,
    hlog⟩
  · have each := h.each
    rwa [← pairs, List.forall₂_map_right_iff] at each
  · rwa [← pairs, List.flatMap_map] at perm

end Ran

/-- Where the answers depend on the items alone, the jobs come to these answers, or to a failure that is
one of them. -/
theorem together_of_answers (maxConcurrency : Int) (schedule : Schedule) {answer : δ → Except ε α}
    (h : List.Forall₂ (fun x job => Answers job (answer x)) xs jobs) (s : σ) :
    (∀ as, (together maxConcurrency schedule jobs s).1 = .ok as → xs.mapM answer = .ok as) ∧
    ∀ fault, (together maxConcurrency schedule jobs s).1 = .error fault →
      ∃ x ∈ xs, answer x = .error fault := by
  have yields : List.Forall₂ (fun x job => Yields (fun _ : σ => True) (fun _ => ([] : List Unit))
      (fun a _ => answer x = a) job) xs jobs :=
    h.imp fun x job answers s _ => ⟨[], (answers s).symm, rfl, trivial⟩
  obtain ⟨ran, done, all⟩ := together_ran maxConcurrency schedule yields s trivial
  refine ⟨fun as has => ?_, fun fault hfault => ?_⟩
  · obtain ⟨rfl, answered⟩ := all.completed as has
    have each : List.Forall₂ (fun x a => answer x = a) ran (done.map Prod.fst) :=
      List.forall₂_map_right_iff.mpr all.each
    rw [answered, List.forall₂_map_right_iff] at each
    exact mapM_eq_ok.mpr each
  · obtain ⟨x, hx, -, failed, -⟩ := all.exists_item (all.failed fault hfault)
    exact ⟨x, hx, failed⟩

/-! ### The same answers -/

/-- Two jobs that give one and the same answer, in every state. -/
def SameAnswer (job : StateM σ α) (job' : StateM σ' α) : Prop := ∃ a, Answers job a ∧ Answers job' a

namespace Board

/-- Two boards with jobs of the same answers in the same places. -/
structure Same (b : Board σ α) (b' : Board σ' α) : Prop where
  waiting : List.Forall₂ (fun e e' => e.1 = e'.1 ∧ SameAnswer e.2 e'.2) b.waiting b'.waiting
  running : List.Forall₂ (fun e e' => e.1 = e'.1 ∧ SameAnswer e.2 e'.2) b.running b'.running
  finished : b.finished = b'.finished

theorem Same.fill {b : Board σ α} {b' : Board σ' α} (h : b.Same b') (limit : Nat) :
    (b.fill limit).Same (b'.fill limit) := by
  have room : limit - b.running.length = limit - b'.running.length := by
    rw [h.running.length_eq]
  unfold Board.fill
  rw [room]
  exact ⟨List.forall₂_drop _ h.waiting, List.rel_append h.running (List.forall₂_take _ h.waiting),
    h.finished⟩

theorem forall₂_eraseIdx {R : γ → δ → Prop} {xs : List γ} {ys : List δ}
    (h : List.Forall₂ R xs ys) (i : Nat) : List.Forall₂ R (xs.eraseIdx i) (ys.eraseIdx i) := by
  rw [List.eraseIdx_eq_take_drop_succ, List.eraseIdx_eq_take_drop_succ]
  exact List.rel_append (List.forall₂_take i h) (List.forall₂_drop (i + 1) h)

theorem Same.finish {b : Board σ α} {b' : Board σ' α} (h : b.Same b') (next : Nat)
    (result : Nat × α) :
    Board.Same { b with running := b.running.eraseIdx next, finished := result :: b.finished }
      { b' with running := b'.running.eraseIdx next, finished := result :: b'.finished } :=
  ⟨h.waiting, forall₂_eraseIdx h.running next, congrArg (result :: ·) h.finished⟩

theorem Same.run {limit : Nat} (rounds : Nat) {schedule : Schedule} {b : Board σ α}
    {b' : Board σ' α} (h : b.Same b') (s : σ) (s' : σ') :
    (Board.run limit schedule b rounds s).1.finished =
      (Board.run limit schedule b' rounds s').1.finished := by
  induction rounds generalizing schedule b b' s s' with
  | zero => exact h.finished
  | succ rounds ih =>
      have filled := h.fill limit
      simp only [Board.run]
      rw [filled.running.length_eq]
      rcases hnext : (b.fill limit).running[schedule.headD 0 % (b'.fill limit).running.length]? with
        _ | ⟨place, job⟩
      · have none : (b'.fill limit).running[schedule.headD 0 % (b'.fill limit).running.length]? =
            none := by
          rw [List.getElem?_eq_none_iff] at hnext ⊢
          exact filled.running.length_eq ▸ hnext
        rw [none]
        exact filled.finished
      · obtain ⟨⟨place', job'⟩, hnext', hplace, a, answer, answer'⟩ :=
          exists_of_getElem? filled.running hnext
        cases (hplace : place = place')
        have result : (job s).1 = (job' s').1 := (answer s).trans (answer' s').symm
        rw [hnext']
        dsimp only [StateM.bind_apply]
        rw [result]
        exact ih (filled.finish _ _) _ _

end Board

end Schedule

end TriggerFlow
