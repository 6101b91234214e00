import TriggerFlow.Proofs.Rule.Tree
import TriggerFlow.Proofs.Run

/-! # The search for the depth

A search for the depth of a tree notes with each tree that is left how many operations are around it
(`Search`).  It may take any of these trees next, and put back its children in any order
(`Search.Step`).  As this neither gains nor loses depth (`overall_step`), every search comes to an end,
and what it finds is the depth of the tree, or the first depth beyond the limit
(`Search.leads_depth`).  `measureDepth` searches with a stack (`Search.runs_measure`), so this is what
it finds too (`measureDepth_eq`).  Hence a tree passes the check of a limit if and only if its depth
is within the limit (`checkDepth_eq_ok`). -/

namespace TriggerFlow.Rule

/-! ### Depth by recursion -/

/-- How many operations are around the children of a tree that has so many around it. -/
def inside (v : Value) (around : Nat) : Nat :=
  if (operation? v).isSome then around + 1 else around

/-- An operation is one deeper than its operands, any other node as deep as its children. -/
theorem around_add_depth (v : Value) (around : Nat) :
    around + depth v = inside v around + deepest (children v) := by
  unfold depth inside operation? children
  split <;> simp [deepest, operandsOf] <;> omega

/-! ### Depth of what is left -/

/-- The greatest depth that was reached before or is below a tree that is left. -/
def overall (reached : Nat) : List (Value × Nat) → Nat
  | [] => reached
  | (v, around) :: rest => max (around + depth v) (overall reached rest)

theorem le_overall (reached : Nat) (left : List (Value × Nat)) : reached ≤ overall reached left := by
  induction left with
  | nil => exact Nat.le_refl _
  | cons e rest ih => exact Nat.le_trans ih (Nat.le_max_right _ _)

theorem overall_max (m n : Nat) (left : List (Value × Nat)) :
    overall (max m n) left = max m (overall n left) := by
  induction left with
  | nil => rfl
  | cons e rest ih => rw [overall, overall, ih, Nat.max_left_comm]

theorem overall_perm (reached : Nat) {left other : List (Value × Nat)} (order : left.Perm other) :
    overall reached left = overall reached other := by
  induction order with
  | nil => rfl
  | cons e _ ih => rw [overall, overall, ih]
  | swap e f rest => rw [overall, overall, overall, overall, Nat.max_left_comm]
  | trans _ _ ih ih' => exact ih.trans ih'

theorem overall_map (reached n : Nat) (vs : List Value) (rest : List (Value × Nat)) :
    max n (overall reached (vs.map (·, n) ++ rest)) =
      max (n + deepest vs) (overall reached rest) := by
  induction vs with
  | nil => rfl
  | cons v vs ih =>
      rw [List.map_cons, List.cons_append, overall, Nat.max_left_comm, ih, deepest]
      omega

/-- The children of a tree, put in its place, keep the depth. -/
theorem overall_step (reached : Nat) (v : Value) (around : Nat) (rest : List (Value × Nat)) :
    overall (max reached (inside v around))
        ((children v).map (·, inside v around) ++ rest) =
      overall reached ((v, around) :: rest) := by
  rw [Nat.max_comm, overall_max, overall_map, overall, around_add_depth]

/-! ### The limit -/

/-- What is found of a depth if the search stops at the first one beyond the limit. -/
def capped (limit : Option Int) (n : Nat) : Nat :=
  match limit with
  | some l => min n (l.toNat + 1)
  | none => n

/-- A search that has come so far has not been stopped. -/
def Unstopped (limit : Option Int) (reached : Nat) : Prop :=
  ∀ l, limit = some l → reached ≤ l.toNat

variable {limit : Option Int} {reached around n : Nat}

theorem capped_of_unstopped (going : Unstopped limit n) : capped limit n = n := by
  cases limit with
  | none => rfl
  | some l =>
      have := going l rfl
      rw [capped]
      omega

/-- One more operation stops the search one beyond the limit. -/
theorem capped_of_exceeds (going : Unstopped limit reached) (ha : around ≤ reached)
    (h : exceeds limit (max reached (around + 1)) = true) (hn : max reached (around + 1) ≤ n) :
    capped limit n = max reached (around + 1) := by
  cases limit with
  | none => cases h
  | some l =>
      have := going l rfl
      have : l < (max reached (around + 1) : Nat) := of_decide_eq_true h
      rw [capped]
      omega

/-- Whether a tree that is taken is an operation whose depth exceeds the limit. -/
def stopsAt (limit : Option Int) (reached : Nat) (v : Value) (around : Nat) : Bool :=
  (operation? v).isSome && exceeds limit (max reached (inside v around))

theorem inside_of_stopsAt {v : Value} (stops : stopsAt limit reached v around = true) :
    inside v around = around + 1 :=
  if_pos (Bool.and_eq_true_iff.mp stops).1

/-- Where the search goes on, it has not been stopped. -/
theorem unstopped_next {v : Value} (going : Unstopped limit reached) (ha : around ≤ reached)
    (goes : stopsAt limit reached v around = false) :
    Unstopped limit (max reached (inside v around)) := by
  cases operation : (operation? v).isSome with
  | true =>
      rw [stopsAt, operation, Bool.true_and] at goes
      rintro l rfl
      have : ¬ l < ((max reached (inside v around) : Nat) : Int) := of_decide_eq_false goes
      omega
  | false =>
      have same : inside v around = around := if_neg (by rw [operation]; decide)
      rw [same, Nat.max_eq_left ha]
      exact going

/-! ### Searching in any order -/

/-- A search on its way, with the depth reached so far and the trees that are left, or one that has
found a depth. -/
inductive Search
  | going (reached : Nat) (left : List (Value × Nat))
  | found (n : Nat)

namespace Search

/-- The search of a tree. -/
def of (tree : Value) : Search := .going 0 [(tree, 0)]

/-- What a search does next: it takes any of the trees that are left.  It has found a depth if there is
none, or if that tree exceeds the limit; else the children are left too, in any place. -/
inductive Step (limit : Option Int) : Search → Search → Prop
  | finish {reached : Nat} : Step limit (.going reached []) (.found reached)
  | stop {reached around : Nat} {v : Value} {left rest : List (Value × Nat)}
      (taken : left.Perm ((v, around) :: rest)) (stops : stopsAt limit reached v around = true) :
      Step limit (.going reached left) (.found (max reached (inside v around)))
  | go {reached around : Nat} {v : Value} {left rest next : List (Value × Nat)}
      (taken : left.Perm ((v, around) :: rest)) (goes : stopsAt limit reached v around = false)
      (put : next.Perm ((children v).map (·, inside v around) ++ rest)) :
      Step limit (.going reached left) (.going (max reached (inside v around)) next)

/-- What is true of every search of a tree of depth `n` that the limit has not stopped before. -/
inductive Sound (limit : Option Int) (n : Nat) : Search → Prop
  | going {reached : Nat} {left : List (Value × Nat)} (keeps : overall reached left = n)
      (around_le : ∀ e ∈ left, e.2 ≤ reached) (unstopped : Unstopped limit reached) :
      Sound limit n (.going reached left)
  | found : Sound limit n (.found (capped limit n))

/-- How many nodes are left. -/
def left : Search → Nat
  | .going _ trees => sizes (trees.map Prod.fst) + 1
  | .found _ => 0

variable {s t : Search}

theorem Sound.of (limit : Option Int) (tree : Value) : Sound limit (depth tree) (of tree) := by
  refine .going ?_ (by simp) fun l _ => Nat.zero_le _
  rw [overall, overall, Nat.zero_add, Nat.max_zero]

theorem Sound.step (hs : Sound limit n s) (h : Step limit s t) : Sound limit n t := by
  cases hs with
  | found => cases h
  | @going reached left keeps around_le unstopped =>
      cases h with
      | finish =>
          have ended : capped limit n = reached := by
            rw [← keeps, overall, capped_of_unstopped unstopped]
          rw [← ended]
          exact .found
      | @stop _ around v _ rest taken stops =>
          have around_le := around_le _ (taken.mem_iff.mpr List.mem_cons_self)
          have passed := le_overall (max reached (inside v around))
            ((children v).map (·, inside v around) ++ rest)
          rw [overall_step, ← overall_perm reached taken, keeps] at passed
          have exceeded := (Bool.and_eq_true_iff.mp stops).2
          rw [inside_of_stopsAt stops] at exceeded passed ⊢
          rw [← capped_of_exceeds unstopped around_le exceeded passed]
          exact .found
      | @go _ around v _ rest next taken goes put =>
          refine .going ?_ ?_ (unstopped_next unstopped
            (around_le _ (taken.mem_iff.mpr List.mem_cons_self)) goes)
          · rw [overall_perm _ put, overall_step, ← overall_perm reached taken, keeps]
          · intro e he
            rcases List.mem_append.mp (put.mem_iff.mp he) with he | he
            · obtain ⟨child, -, rfl⟩ := List.mem_map.mp he
              exact Nat.le_max_right _ _
            · have rest_le := around_le e (taken.mem_iff.mpr (List.mem_cons_of_mem _ he))
              exact Nat.le_trans rest_le (Nat.le_max_left _ _)

theorem Sound.eq_capped {found : Nat} (hs : Sound limit n (.found found)) :
    found = capped limit n := by
  cases hs
  rfl

theorem Step.left_lt (h : Step limit s t) : t.left < s.left := by
  cases h with
  | finish | stop => exact Nat.succ_pos _
  | @go _ around v trees rest next taken _ put =>
      have before : sizes (trees.map Prod.fst) = size v + sizes (rest.map Prod.fst) :=
        sizes_perm (taken.map Prod.fst)
      have after : sizes (next.map Prod.fst) =
          sizes (children v) + sizes (rest.map Prod.fst) := by
        rw [sizes_perm (put.map Prod.fst), List.map_append, sizes_append, List.map_map]
        exact congrArg (sizes · + _) (List.map_id _)
      rw [left, left, before, after, size_eq v]
      omega

/-- A search that has found nothing yet has a next step. -/
theorem Sound.found_of_stuck (hs : Sound limit n s) (stuck : ∀ t, ¬ Step limit s t) :
    s = .found (capped limit n) := by
  cases hs with
  | found => rfl
  | @going reached trees =>
      refine absurd ?_ (not_exists.mpr stuck)
      cases trees with
      | nil => exact ⟨_, .finish⟩
      | cons e rest =>
          obtain ⟨v, around⟩ := e
          cases h : stopsAt limit reached v around with
          | true => exact ⟨_, .stop (.refl _) h⟩
          | false => exact ⟨_, .go (.refl _) h (.refl _)⟩

/-- Whatever it takes next, a search comes to an end, and has found the depth of the tree as far as the
limit lets it. -/
theorem leads_depth (limit : Option Int) (tree : Value) :
    TriggerFlow.Leads (Step limit) (· = .found (capped limit (depth tree))) (of tree) :=
  .of_measure (Sound limit (depth tree)) left (fun _ _ => Sound.step) (fun _ _ => Step.left_lt)
    (fun _ => Sound.found_of_stuck) _ (.of limit tree)

/-! ### Searching with a stack -/

theorem measure_cons (v : Value) (rest : List (Value × Nat)) :
    measure limit reached ((v, around) :: rest) =
      if stopsAt limit reached v around then max reached (inside v around)
      else
        measure limit (max reached (inside v around))
          ((children v).reverse.map (·, inside v around) ++ rest) := by
  rw [measure]
  rfl

/-- A search that always takes what was left last. -/
theorem runs_measure (limit : Option Int) (reached : Nat) (stack : List (Value × Nat)) :
    Relation.ReflTransGen (Step limit) (.going reached stack) (.found (measure limit reached stack)) := by
  induction reached, stack using measure.induct limit with
  | case1 reached =>
      rw [measure]
      exact .single .finish
  | case2 reached v around rest _ _ stops =>
      change stopsAt limit reached v around = true at stops
      rw [measure_cons, if_pos stops]
      exact .single (.stop (.refl _) stops)
  | case3 reached v around rest _ _ goes ih =>
      change ¬ stopsAt limit reached v around = true at goes
      rw [measure_cons, if_neg goes]
      refine .head (.go (.refl _) ((Bool.not_eq_true _).mp goes) ?_) ih
      exact ((children v).reverse_perm.map _).append_right rest

end Search

theorem measureDepth_eq (tree : Value) (limit : Option Int) :
    measureDepth tree limit = capped limit (depth tree) :=
  (inv_of_reflTransGen (Search.Sound limit (depth tree)) (fun _ _ => Search.Sound.step)
    (.of limit tree) (Search.runs_measure limit 0 [(tree, 0)])).eq_capped

/-! ### The check -/

theorem checkDepth_eq_ok {l : Int} {tree : Value} :
    checkDepth l tree = .ok () ↔ (depth tree : Int) ≤ l := by
  rw [checkDepth, measureDepth_eq, capped]
  split <;> simp <;> omega

theorem checkDepth_eq_error {l : Int} {tree : Value} {fault : LogicFault} :
    checkDepth l tree = .error fault ↔ l < depth tree ∧ fault = .tooDeep l := by
  rw [checkDepth, measureDepth_eq, capped]
  split
  · have : l < depth tree := by omega
    simp [this, eq_comm]
  · have : ¬ l < depth tree := by omega
    simp [this]

end TriggerFlow.Rule
