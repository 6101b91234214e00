import TriggerFlow.Proofs.Number.Range
import TriggerFlow.Proofs.Rule.Actions
import TriggerFlow.Proofs.Rule.Breakdown
import TriggerFlow.Proofs.Rule.Depth
import TriggerFlow.Proofs.Rule.Validation

/-! # The verdict on a tree

`WellFormed` says without any walk what the checks of a tree look for, and `wellFormed_iff` that they
find it.  A tree that is not well formed is refused, and one that is well formed has the verdict of
its trial in the empty context, except that numbers which break down there break down the validation
too: `validation_verdict`. -/

namespace TriggerFlow.Rule

open Outcome

variable {d : Int} {tree : Value} {fault : Fault}

/-- What the checks in front of the trial ask of a tree. -/
structure WellFormed (d : Int) (tree : Value) : Prop where
  object : ∃ entries, tree = .object entries
  operations : ∀ node symbol operands, Occurs node tree →
    operation? node = some (symbol, operands) →
      ∃ op : Operator, op.symbol = symbol ∧ op.arity.admits operands.length = true
  actions : ∀ node, Occurs node tree → operation? node = none → ¬ node.NamesUnknownAction
  depth_le : (depth tree : Int) ≤ d

/-- A tree passes the check of its structure if and only if each of its operations has a known symbol
and an admitted number of operands. -/
theorem checkStructure_eq_ok_iff :
    checkStructure tree = .ok () ↔ ∀ node symbol operands, Occurs node tree →
      operation? node = some (symbol, operands) →
        ∃ op : Operator, op.symbol = symbol ∧ op.arity.admits operands.length = true := by
  rw [checkStructure_eq_ok]
  constructor
  · intro sound node symbol operands hn ho
    obtain ⟨op, hop, ha⟩ := operationFault?_eq_none.mp (sound node hn) symbol operands ho
    exact ⟨op, hop, (admitted_eq_ok.mp ha).2⟩
  · intro known node hn
    refine operationFault?_eq_none.mpr fun symbol operands ho => ?_
    obtain ⟨op, rfl, ha⟩ := known node symbol operands hn ho
    exact ⟨op, rfl, admitted_eq_ok.mpr ⟨ofSymbol?_symbol op, ha⟩⟩

theorem wellFormed_iff :
    WellFormed d tree ↔ (∃ entries, tree = .object entries) ∧ checkStructure tree = .ok () ∧
      checkActions tree = .ok () ∧ checkDepth d tree = .ok () := by
  rw [checkStructure_eq_ok_iff, checkActions_eq_ok, checkDepth_eq_ok]
  exact ⟨fun h => ⟨h.object, h.operations, h.actions, h.depth_le⟩,
    fun ⟨object, operations, actions, depth_le⟩ => ⟨object, operations, actions, depth_le⟩⟩

/-! ### The checks and the trial -/

/-- A well-formed tree is left to the trial. -/
theorem checkTree_of_wellFormed [Levels] (h : WellFormed d tree) :
    checkTree d tree = (evaluate tree (.object [])).map fun _ => () := by
  obtain ⟨-, hs, ha, hd⟩ := wellFormed_iff.mp h
  simp only [checkTree, hs, ha, hd, Except.mapError, bind, Except.bind]
  cases evaluate tree (.object []) <;> rfl

/-- Any other object has a fault of logic. -/
theorem checkTree_of_not_wellFormed [Levels] {entries : Entries} (h : ¬ WellFormed d (.object entries)) :
    ∃ f, checkTree d (.object entries) = .error (.logic f) := by
  rw [wellFormed_iff] at h
  cases hs : checkStructure (.object entries) with
  | error f => exact ⟨f, by simp [checkTree, hs, Except.mapError, bind, Except.bind]⟩
  | ok =>
      cases ha : checkActions (.object entries) with
      | error f => exact ⟨f, by simp [checkTree, hs, ha, Except.mapError, bind, Except.bind]⟩
      | ok =>
          cases hd : checkDepth d (.object entries) with
          | error f => exact ⟨f, by simp [checkTree, hs, ha, hd, Except.mapError, bind, Except.bind]⟩
          | ok => exact (h ⟨⟨entries, rfl⟩, hs, ha, hd⟩).elim

theorem validate_of_not_wellFormed [Levels] (h : ¬ WellFormed d tree) :
    ∃ reason, validate d tree = .ok (.refused reason) := by
  cases tree with
  | object entries =>
      obtain ⟨f, hf⟩ := checkTree_of_not_wellFormed h
      exact ⟨f.message, by rw [validate, hf]⟩
  | _ => exact ⟨_, rfl⟩

/-- A well-formed tree has the verdict of its trial, unless numbers break down. -/
theorem validate_of_wellFormed [Levels] (h : WellFormed d tree) :
    (∃ verdict, validate d tree = .ok verdict ∧
        ∀ cause, Breakdown.OfNumbers cause →
          evaluate tree (.object []) ≠ .error (.breakdown cause)) ∨
      ∃ cause, Breakdown.OfNumbers cause ∧ validate d tree = .error (.breakdown cause) ∧
        evaluate tree (.object []) = .error (.breakdown cause) := by
  obtain ⟨entries, rfl⟩ := h.object
  have trial := checkTree_of_wellFormed h
  cases he : evaluate (.object entries) (.object []) with
  | ok v =>
      refine .inl ⟨.accepted, ?_, nofun⟩
      rw [validate, trial, he]
      rfl
  | error fault =>
      rcases evaluate_empty_error he with ⟨f, rfl⟩ | ⟨during, rfl⟩ | ⟨cause, hc, rfl⟩
      · refine .inl ⟨.refused f.message, ?_, nofun⟩
        rw [validate, trial, he]
        rfl
      · refine .inl ⟨.refused "Logic tree is nested too deeply to evaluate", ?_, ?_⟩
        · rw [validate, trial, he]
          rfl
        · rintro cause hc ⟨⟩
          cases hc
      · refine .inr ⟨cause, hc, ?_, rfl⟩
        rw [validate, trial, he]
        cases hc <;> rfl

/-- Validation breaks down just where the trial of a well-formed tree breaks down on numbers. -/
theorem validate_eq_error [Levels] :
    validate d tree = .error fault ↔ WellFormed d tree ∧
      ∃ cause, Breakdown.OfNumbers cause ∧ fault = .breakdown cause ∧
        evaluate tree (.object []) = .error (.breakdown cause) := by
  constructor
  · intro hv
    by_cases h : WellFormed d tree
    · rcases validate_of_wellFormed h with ⟨verdict, hr, -⟩ | ⟨cause, hc, hr, he⟩
      · rw [hr] at hv
        cases hv
      · rw [hr] at hv
        cases hv
        exact ⟨h, cause, hc, rfl, he⟩
    · obtain ⟨reason, hr⟩ := validate_of_not_wellFormed h
      rw [hr] at hv
      cases hv
  · rintro ⟨h, cause, hc, rfl, he⟩
    rcases validate_of_wellFormed h with ⟨verdict, -, never⟩ | ⟨other, -, hr, ho⟩
    · exact (never cause hc he).elim
    · rw [he] at ho
      cases ho
      exact hr

theorem ensureValid_eq_ok [Levels] : ensureValid d tree = .ok () ↔ validate d tree = .ok .accepted := by
  unfold ensureValid
  rcases validate d tree with fault | _ | reason <;>
    simp [bind, Except.bind, pure, Except.pure, throw, throwThe, MonadExceptOf.throw]

theorem ensureValid_eq_error [Levels] :
    ensureValid d tree = .error fault ↔
      (∃ reason, validate d tree = .ok (.refused reason) ∧ fault = .invalid reason) ∨
        validate d tree = .error fault := by
  unfold ensureValid
  rcases validate d tree with fault | _ | reason <;>
    simp [bind, Except.bind, pure, Except.pure, throw, throwThe, MonadExceptOf.throw, eq_comm]

/-- **The verdict on every tree.**  A tree is accepted if and only if it is well formed and has a
value in the empty context.  Validation gives a verdict on every other tree too, unless the trial of a
well-formed one breaks down on numbers; then that breakdown is all there is.  A tree that is not
accepted is turned away with the reason of the verdict, or with that breakdown. -/
theorem validation_verdict [Levels] (d : Int) (tree : Value) :
    (validate d tree = .ok .accepted ↔
      WellFormed d tree ∧ ∃ v, evaluate tree (.object []) = .ok v) ∧
    (∀ fault, validate d tree = .error fault ↔ WellFormed d tree ∧
      ∃ cause, Breakdown.OfNumbers cause ∧ fault = .breakdown cause ∧
        evaluate tree (.object []) = .error (.breakdown cause)) ∧
    (ensureValid d tree = .ok () ↔
      WellFormed d tree ∧ ∃ v, evaluate tree (.object []) = .ok v) ∧
    (∀ fault, ensureValid d tree = .error fault ↔
      (∃ reason, validate d tree = .ok (.refused reason) ∧ fault = .invalid reason) ∨
        validate d tree = .error fault) := by
  have accepted : validate d tree = .ok .accepted ↔
      WellFormed d tree ∧ ∃ v, evaluate tree (.object []) = .ok v := by
    rw [validate_eq_accepted, wellFormed_iff]
    simp only [and_assoc]
  exact ⟨accepted, fun _ => validate_eq_error, ensureValid_eq_ok.trans accepted,
    fun _ => ensureValid_eq_error⟩

theorem eval_sum (context : Value) (x y : Binary64) :
    eval context (.object [("+", .list [.float x, .float y])]) =
      (calculate .sum [x, y]).map Value.float := by
  change (do return Value.float (← calculate .sum [x, y])) = _
  cases calculate .sum [x, y] <;> rfl

/-- The number `1e308`. -/
def hugeNumber : Binary64 := .ofBits 0x7FE1CCF385EBC8A0

/-- A sum that is beyond all floating-point numbers. -/
def overflowingRule : Value :=
  .object [("+", .list [.float hugeNumber, .float hugeNumber])]

theorem validate_overflowingRule :
    validate 10 overflowingRule = .error (.breakdown .sumOverflow) ∧
      ensureValid 10 overflowingRule = .error (.breakdown .sumOverflow) := by
  have overflow : Binary64.total [hugeNumber, hugeNumber] = .error .overflow := by decide +kernel
  have broken : validate 10 overflowingRule = .error (.breakdown .sumOverflow) := by
    rw [validate_eq_error, wellFormed_iff]
    refine ⟨⟨⟨_, rfl⟩, ?_, ?_, ?_⟩, _, .sumOverflow, rfl, ?_⟩
    · simp only [checkStructure, checkNodes, overflowingRule, walk, children, operandsOf,
        List.reverse_cons, List.reverse_nil, List.nil_append, List.cons_append]
      rfl
    · simp only [checkActions, checkNodes, overflowingRule, walk, children, operandsOf,
        List.reverse_cons, List.reverse_nil, List.nil_append, List.cons_append]
      rfl
    · rw [checkDepth_eq_ok]
      decide
    · rw [evaluate_eq, if_neg (by decide +kernel), overflowingRule, eval_sum, calculate, overflow]
      rfl
  exact ⟨broken, ensureValid_eq_error.mpr (.inr broken)⟩

/-! ### A number that is too large -/

theorem apply_below (context a b : Value) :
    Operator.below.apply context [.ok a, .ok b] = decided (related .below a b) := by
  have strict : Operator.below.isLazy = false := rfl
  have both : collect [.ok a, .ok b] = .ok [a, b] := rfl
  have computed : compute .below context [a, b] = decided (related .below a b) := by rw [compute]
  rw [Operator.apply_of_strict strict, both]
  exact computed

theorem eval_below {a b : Value} (ha : isLiteral a = true) (hb : isLiteral b = true)
    (context : Value) :
    eval context (.object [("<", .list [a, b])]) = decided (related .below a b) := by
  have operation : operation? (.object [("<", .list [a, b])]) = some ("<", [a, b]) := rfl
  have known : operate context "<" [.ok a, .ok b] = Operator.below.apply context [.ok a, .ok b] :=
    rfl
  rw [eval_operation context operation, List.map_cons, List.map_singleton, eval_literal context ha,
    eval_literal context hb, known, apply_below]

theorem related_of_tooLarge {m : Int} (large : (Number.int m).nearest? = none)
    (r : Relation) (n : Int) :
    related r (.int m) (.int n) = .error .integerTooLarge := by
  change (do return r.onNumbers (← toBinary64 (.int m)) (← toBinary64 (.int n))) = _
  rw [toBinary64_eq_error.mpr ⟨large, rfl⟩]
  rfl

/-- A comparison with a number of 401 digits. -/
def oversizedRule : Value := .object [("<", .list [.int (10 ^ 400), .int 0])]

theorem wellFormed_oversizedRule : WellFormed defaultMaxDepth oversizedRule := by
  rw [wellFormed_iff, checkDepth_eq_ok]
  refine ⟨⟨_, rfl⟩, ?_, ?_, by decide⟩
  · simp only [checkStructure, checkNodes, oversizedRule, walk, children, operandsOf,
      List.reverse_cons, List.reverse_nil, List.nil_append, List.cons_append]
    rfl
  · simp only [checkActions, checkNodes, oversizedRule, walk, children, operandsOf,
      List.reverse_cons, List.reverse_nil, List.nil_append, List.cons_append]
    rfl

theorem evaluate_oversizedRule :
    evaluate oversizedRule (.object []) = .error (.breakdown .integerTooLarge) := by
  have large : (Number.int (10 ^ 400)).nearest? = none :=
    Number.nearest?_eq_none_iff.mpr (by decide +kernel)
  rw [evaluate_eq, if_neg (by decide +kernel), oversizedRule, eval_below rfl rfl,
    related_of_tooLarge large]
  rfl

end TriggerFlow.Rule
