import TriggerFlow.Proofs.Rule.Verdict
import TriggerFlow.Proofs.Sandbox.Refinement
import TriggerFlow.Proofs.Settings
import TriggerFlow.Schema.Definition
import TriggerFlow.Store.Column

/-! # Which trees are saved, and which are run

A tree is saved if it is valid within the default depth, both by the schema of definitions
(`Schema.readTree_eq_accepted`) and by the store (`Store.takesRow_iff`).  An engine and its sandbox
go by the depth of the settings.  All of them agree about every tree if and only if the settings
leave the depth at its default (`Settings.limits_agree_iff`); every positive depth can be set
(`Settings.load_maxDepth`), and where the settings tighten it, trees are saved that no evaluation
will accept (`Settings.load_tightened`). -/

namespace TriggerFlow

open Outcome

/-! ### Validity within different depths -/

namespace Rule

/-- Of a tree that is valid within some depth, another depth limit asks for the depth only. -/
theorem validate_accepted_iff [Levels] {d e : Int} {tree : Value} (h : validate e tree = .ok .accepted) :
    validate d tree = .ok .accepted ↔ (depth tree : Int) ≤ d := by
  obtain ⟨object, structured, actions, -, trial⟩ := validate_eq_accepted.mp h
  rw [validate_eq_accepted, checkDepth_eq_ok]
  exact ⟨fun ⟨_, _, _, deep, _⟩ => deep, fun deep => ⟨object, structured, actions, deep, trial⟩⟩

/-- An empty object with so many negations around it. -/
def negations : Nat → Value
  | 0 => .object []
  | n + 1 => .object [("!", .list [negations n])]

theorem depth_negations (n : Nat) : depth (negations n) = n := by
  induction n with
  | zero => rfl
  | succ n ih => rw [negations, depth, deepest, deepest, ih, Nat.max_zero]

theorem occurs_negations {node : Value} {n : Nat} (h : Occurs node (negations n)) :
    ∃ m, node = negations m := by
  induction n with
  | zero =>
      cases h with
      | here => exact ⟨0, rfl⟩
      | inside hc => cases hc
  | succ n ih =>
      rcases occurs_iff.mp h with rfl | ⟨child, hc, h⟩
      · exact ⟨n + 1, rfl⟩
      · cases List.mem_singleton.mp hc
        exact ih h

theorem eval_negations (context : Value) (n : Nat) :
    ∃ v, eval context (negations n) = .ok v := by
  induction n with
  | zero => exact ⟨_, rfl⟩
  | succ n ih =>
      obtain ⟨v, hv⟩ := ih
      rw [negations, eval, evalEach, evalEach, hv]
      exact ⟨.bool !v.truthy, rfl⟩

theorem reach_negations (context : Value) (n : Nat) :
    reach Value.nesting context (negations n) = n + 1 := by
  induction n with
  | zero => rfl
  | succ n ih =>
      obtain ⟨v, hv⟩ := eval_negations context n
      rw [negations, reach, evalEach, evalEach, reachEach, reachEach, hv, ih]
      exact congrArg (· + 1) (Nat.max_zero (n + 1))

/-- As long as there are levels for them, negations are valid within their number. -/
theorem validate_negations [Levels] {n : Nat} (levels : 2 * (n + 1) ≤ Levels.evaluation) {d : Int} :
    validate d (negations n) = .ok .accepted ↔ (n : Int) ≤ d := by
  have valid : validate n (negations n) = .ok .accepted := by
    rw [validate_eq_accepted, checkStructure_eq_ok, checkDepth_eq_ok, depth_negations]
    refine ⟨by cases n <;> exact ⟨_, rfl⟩, ?_, ?_, Int.le_refl _, ?_⟩
    · intro node h
      obtain ⟨m, rfl⟩ := occurs_negations h
      cases m <;> rfl
    · refine checkNodes_eq_ok.mpr fun node h => ?_
      obtain ⟨m, rfl⟩ := occurs_negations h
      cases m <;> rfl
    · obtain ⟨v, hv⟩ := eval_negations (.object []) n
      have near : isTooFar (n + 1) = false := by simpa [isTooFar] using levels
      rw [evaluate_eq, contextOf_object, reach_negations, near]
      exact ⟨v, hv⟩
  rw [validate_accepted_iff valid, depth_negations]

theorem validate_empty [Levels] : validate defaultMaxDepth (.object []) = .ok .accepted :=
  (validate_negations (Nat.le_trans (by decide : 2 * (0 + 1) ≤ 24) Levels.enough_evaluation)).mpr
    (by decide)

end Rule

/-! ### Saving -/

theorem Schema.readTree_eq_accepted [Levels] {tree : Value} {entries : Entries} :
    readTree tree = .accepted entries ↔
      tree = .object entries ∧ Rule.validate Rule.defaultMaxDepth tree = .ok .accepted := by
  cases tree with
  | object given =>
      rw [readTree, readObject, Checked.andThen]
      split
      · simp_all
      · simp_all [Checked.problem]
      · split <;> simp_all [Checked.problem]
      · simp_all [Checked.problem]
  | _ => simp [readTree, readObject, Checked.andThen, Checked.problem]

theorem Schema.readTree_accepts_iff [Levels] {tree : Value} :
    (∃ entries, readTree tree = .accepted entries) ↔
      Rule.validate Rule.defaultMaxDepth tree = .ok .accepted := by
  simp only [readTree_eq_accepted, exists_and_right, and_iff_right_iff_imp]
  intro valid
  obtain ⟨object, -⟩ := Rule.validate_eq_accepted.mp valid
  exact object

namespace Store

/-- An insertion is given a row, whether or not the table takes it then. -/
def TakesRow (insertion : StateM Store (Except Fault Workflow)) (s : Store) : Prop :=
  (insertion s).2.taken = s.taken + 1

variable {maxDepth : Int} {s : Store}

/-- A draft is given a row if and only if its tree is valid; otherwise nothing changes. -/
theorem create_takesRow_iff [Levels] {draft : Draft} :
    TakesRow (create draft maxDepth) s ↔ Rule.validate maxDepth draft.tree = .ok .accepted := by
  rw [← Rule.ensureValid_eq_ok, TakesRow]
  cases h : Rule.ensureValid maxDepth draft.tree with
  | error fault => simp [create, h]
  | ok _ =>
      simp only [create, h, iff_true]
      split
      · rfl
      · split
        · split <;> rfl
        · rfl

theorem takesRow_iff [Levels] {columns : Entries} :
    TakesRow (createFrom columns maxDepth) s ↔
      Rule.validate maxDepth (columns.get "logic_tree") = .ok .accepted := by
  cases h : draftOf columns with
  | ok draft =>
      have same : draft.tree = columns.get "logic_tree" := by
        simp only [draftOf, bind_eq_ok, pure_eq_ok] at h
        obtain ⟨_, -, _, -, _, -, _, -, _, -, rfl⟩ := h
        rfl
      have drafted : TakesRow (createFrom columns maxDepth) s ↔
          TakesRow (create draft maxDepth) s := by
        rw [TakesRow, TakesRow, createFrom, h]
      rw [drafted, create_takesRow_iff, same]
  | error misfit =>
      rw [← Rule.ensureValid_eq_ok, TakesRow]
      cases hv : Rule.ensureValid maxDepth (columns.get "logic_tree") with
      | error fault => simp [createFrom, h, hv]
      | ok _ => simp [createFrom, h, hv, takeRow]

end Store

/-! ### Settings of a given depth -/

namespace Settings

theorem limitFault?_maxDepth {n : Int} (h : 1 ≤ n) :
    ({ maxDepth := n } : Settings).limitFault? = none := by
  have timeout : (Binary64.ofInt 5).le .zero = false := by decide +kernel
  have started : "forkserver" ∈ startMethods := by decide
  have positive : ¬ n < 1 := Int.not_lt.mpr h
  simp [limitFault?, timeout, started, positive]

/-- A positive depth alone is read as settings that have it. -/
theorem read_maxDepth {n : Int} (h : 1 ≤ n) :
    read [("workflow_max_recursion_depth", .int n)] = .accepted { maxDepth := n } := by
  have own : Schema.Checked.defaulted [("workflow_max_recursion_depth", .int n)]
      "workflow_max_recursion_depth" ({} : Settings).maxDepth Schema.readInteger =
        .accepted n := rfl
  rw [read]
  simp (disch := decide) only [own, defaulted_singleton]
  change (Schema.Checked.accepted ({ maxDepth := n } : Settings)).andThen _ = _
  rw [Schema.Checked.andThen, limitFault?_maxDepth h]

/-- Every positive depth can be set. -/
theorem load_maxDepth {n : Int} (h : 1 ≤ n) :
    load [("workflow_max_recursion_depth", .int n)] [] "" = .accepted { maxDepth := n } := by
  rw [load, ofValues_of_names (by simp [names]), assignments_empty]
  exact read_maxDepth h

end Settings

/-! ### Running -/

theorem Sandbox.run_not_saysTooDeep [Levels] {s : Sandbox} {d : Int} {tree : Value} {given : Entries}
    {exitCode : Option Int} {fault : Fault} (valid : Rule.validate d tree = .ok .accepted)
    (hd : d ≤ s.maxDepth) (h : s.run tree (.object given) exitCode = .error fault) :
    ¬ fault.SaysTooDeep := by
  obtain ⟨-, structured, -, deep, -⟩ := Rule.validate_eq_accepted.mp valid
  have within : Rule.checkDepth s.maxDepth tree = .ok () :=
    Rule.checkDepth_eq_ok.mpr (Int.le_trans (Rule.checkDepth_eq_ok.mp deep) hd)
  refine s.runWith_not_saysTooDeep ?_ (Rule.checkStructure_eq_ok.mp structured) within h
  rintro tree context outcome ⟨⟩
  rfl

namespace Settings

/-- Two limits say the same of a tree if and only if it is valid within no depth at all, or its depth
is on the same side of both. -/
theorem agree_on_tree_iff [Levels] {d e : Int} {tree : Value} :
    (Rule.validate d tree = .ok .accepted ↔ Rule.validate e tree = .ok .accepted) ↔
      (∃ any, Rule.validate any tree = .ok .accepted) →
        (Rule.depth tree ≤ d ↔ Rule.depth tree ≤ e) := by
  by_cases valid : ∃ any, Rule.validate any tree = .ok .accepted
  · obtain ⟨any, h⟩ := valid
    rw [Rule.validate_accepted_iff h, Rule.validate_accepted_iff h]
    exact ⟨fun agree _ => agree, fun agree => agree ⟨any, h⟩⟩
  · exact ⟨fun _ h => (valid h).elim,
      fun _ => ⟨fun h => (valid ⟨_, h⟩).elim, fun h => (valid ⟨_, h⟩).elim⟩⟩

/-- No limit but the default one says the same of every tree. -/
theorem agree_on_all_iff [Levels] {d : Int} :
    (∀ tree, Rule.validate Rule.defaultMaxDepth tree = .ok .accepted ↔
        Rule.validate d tree = .ok .accepted) ↔ d = Rule.defaultMaxDepth := by
  constructor
  · intro agree
    -- Ten negations tell a smaller depth from the default one, and eleven tell a greater one.
    have at10 := agree (Rule.negations 10)
    have at11 := agree (Rule.negations 11)
    have levels := Levels.enough_evaluation
    rw [Rule.validate_negations (by omega), Rule.validate_negations (by omega)] at at10 at11
    unfold Rule.defaultMaxDepth at *
    omega
  · rintro rfl tree
    rfl

/-- What is saved is never too deep for a sandbox if and only if that allows the default depth. -/
theorem never_tooDeep_iff [Levels] (s : Sandbox) :
    (∀ tree given exitCode fault, Rule.validate Rule.defaultMaxDepth tree = .ok .accepted →
        s.run tree (.object given) exitCode = .error fault → ¬ fault.SaysTooDeep) ↔
      Rule.defaultMaxDepth ≤ s.maxDepth := by
  constructor
  · intro never
    by_contra tighter
    have saved : Rule.validate Rule.defaultMaxDepth (Rule.negations 10) = .ok .accepted :=
      (Rule.validate_negations (Nat.le_trans (by decide) Levels.enough_evaluation)).mpr (by decide)
    have deep : s.maxDepth < Rule.depth (Rule.negations 10) := by
      rw [Rule.depth_negations]
      exact Int.not_le.mp tighter
    exact never _ [] none _ saved (Sandbox.run_of_tooDeep deep) ⟨_, rfl, s.maxDepth, rfl⟩
  · intro wider tree given exitCode fault valid h
    exact Sandbox.run_not_saysTooDeep valid wider h

/-- **Where the limits agree.**  A definition and a new row of the store are held to the default
depth, the validation of an engine to the depth of its settings.  They say the same of a tree that is
valid within some depth if and only if its depth is on the same side of both limits, and they say the
same of every tree if and only if the settings have the default depth.  What is saved is never too
deep for the sandbox of the engine if and only if the settings allow at least the default depth. -/
theorem limits_agree_iff [Levels] (s : Settings) :
    (∀ tree, (∃ entries, Schema.readTree tree = .accepted entries) ↔
      Rule.validate Rule.defaultMaxDepth tree = .ok .accepted) ∧
    (∀ columns store, Store.TakesRow (Store.createFrom columns Rule.defaultMaxDepth) store ↔
      Rule.validate Rule.defaultMaxDepth (Entries.get columns "logic_tree") = .ok .accepted) ∧
    (∀ tree,
      (Rule.validate Rule.defaultMaxDepth tree = .ok .accepted ↔
        Rule.validate s.limits.maxDepth tree = .ok .accepted) ↔
      (∃ d, Rule.validate d tree = .ok .accepted) →
        (Rule.depth tree ≤ Rule.defaultMaxDepth ↔ Rule.depth tree ≤ s.maxDepth)) ∧
    ((∀ tree, Rule.validate Rule.defaultMaxDepth tree = .ok .accepted ↔
        Rule.validate s.limits.maxDepth tree = .ok .accepted) ↔
      s.maxDepth = Rule.defaultMaxDepth) ∧
    ((∀ tree given exitCode fault, Rule.validate Rule.defaultMaxDepth tree = .ok .accepted →
        (Sandbox.ofSettings s).run tree (.object given) exitCode = .error fault →
          ¬ fault.SaysTooDeep) ↔
      Rule.defaultMaxDepth ≤ s.maxDepth) :=
  ⟨fun _ => Schema.readTree_accepts_iff, fun _ _ => Store.takesRow_iff,
    fun _ => agree_on_tree_iff, agree_on_all_iff, never_tooDeep_iff (Sandbox.ofSettings s)⟩

/-- Settings that tighten the depth. -/
def tightened : Settings := { maxDepth := 1 }

/-- The tightened settings load; a tree of two negations is then saved, by the schema and by the
store, but the validation of the engine refuses it, and the sandbox finds it too deep. -/
theorem load_tightened :
    load [("workflow_max_recursion_depth", .int 1)] [] "" = .accepted tightened ∧
      (∃ entries, Schema.readTree (Rule.negations 2) = .accepted entries) ∧
      (∀ columns store, Entries.get columns "logic_tree" = Rule.negations 2 →
        Store.TakesRow (Store.createFrom columns Rule.defaultMaxDepth) store) ∧
      Rule.validate tightened.limits.maxDepth (Rule.negations 2) ≠ .ok .accepted ∧
      (Sandbox.ofSettings tightened).run (Rule.negations 2) (.object []) =
        .error (.logic (.tooDeep 1)) := by
  have saved : Rule.validate Rule.defaultMaxDepth (Rule.negations 2) = .ok .accepted :=
    (Rule.validate_negations (by decide)).mpr (by decide)
  refine ⟨load_maxDepth (by decide), ⟨_, Schema.readTree_eq_accepted.mpr ⟨rfl, saved⟩⟩, ?_, ?_, ?_⟩
  · rintro columns store ht
    rw [Store.takesRow_iff, ht]
    exact saved
  · rw [Ne, Rule.validate_negations (by decide)]
    decide
  · exact Sandbox.run_of_tooDeep (by rw [Rule.depth_negations]; decide)

end Settings

end TriggerFlow
