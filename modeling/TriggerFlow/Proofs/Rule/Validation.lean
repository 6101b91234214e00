import TriggerFlow.Proofs.Sandbox.Refinement

/-! # What validation promises to evaluation

A tree that `validate` accepts passes every check and has a value in the empty context
(`validate_eq_accepted`).  As it is sound, evaluation in any context raises only faults of its own
operators; and the sandbox checks just the depth that validation has checked.  Together:
`validated_evaluation_sound`.  But validation does not look at what a tree holds besides its
operations: `deepBranch_is_accepted`. -/

namespace TriggerFlow.Rule

open Outcome

section

variable [Levels]

/-! ### Acceptance -/

/-- A tree is accepted if and only if it is an object that passes every check and has a value in the
empty context. -/
theorem validate_eq_accepted {d : Int} {tree : Value} :
    validate d tree = .ok .accepted ↔
      (∃ entries, tree = .object entries) ∧ checkStructure tree = .ok () ∧
        checkActions tree = .ok () ∧ checkDepth d tree = .ok () ∧
          ∃ v, evaluate tree (.object []) = .ok v := by
  have checks : checkTree d tree = .ok () ↔ checkStructure tree = .ok () ∧
      checkActions tree = .ok () ∧ checkDepth d tree = .ok () ∧
        ∃ v, evaluate tree (.object []) = .ok v := by
    simp only [checkTree, bind_eq_ok, mapError_eq_ok, pure_eq_ok]
    constructor
    · rintro ⟨⟨⟩, hs, ⟨⟩, ha, ⟨⟩, hd, v, hv, -⟩
      exact ⟨hs, ha, hd, v, hv⟩
    · rintro ⟨hs, ha, hd, v, hv⟩
      exact ⟨(), hs, (), ha, (), hd, v, hv, trivial⟩
  rw [← checks]
  unfold validate
  cases tree with
  | object entries =>
      dsimp only
      split <;> simp_all
  | _ => simp

/-! ### The promise -/

/-- **Validation is sound for every event.**  Once a tree is accepted, an evaluation in any context
raises no fault of an unknown operator or of an operand count, and whatever fault of logic it raises
names `var` or an arithmetic operator that stands in the tree; no sandbox of the same depth limit
answers that the tree is too deep.  In the empty context the tree has a value.  A sandbox that waits
for its worker answers what the tree has there as it is handed over, if it can be handed over and the
answer sent; that is the same value in a fork and where nothing in the tree is not-a-number, as long
as the levels suffice. -/
theorem validated_evaluation_sound {d : Int} {tree : Value}
    (accepted : validate d tree = .ok .accepted) :
    (∀ context fault,
      eval context tree = .error (.logic fault) ∨
          evaluate tree context = .error (.logic fault) →
        (∀ name, fault ≠ .unknownOperator name) ∧ (∀ op count, fault ≠ .operandCount op count) ∧
          ∃ op : Operator, fault.operator? = some op.symbol ∧
            (op = .variable ∨ op.isArithmetic = true) ∧
              ∃ node operands, Occurs node tree ∧ operation? node = some (op.symbol, operands)) ∧
    (∀ (s : Sandbox) work entries exitCode fault, s.maxDepth = d → Sandbox.Faithful work →
      s.runWith work tree (.object entries) exitCode = .error fault → ¬ fault.SaysTooDeep) ∧
    (∀ (s : Sandbox) exitCode, s.maxDepth = d → s.Waits →
      ∃ v, evaluate tree (.object []) = .ok v ∧
        (∀ w, s.run tree (.object []) exitCode = .ok w ↔
          s.HandsOver tree [] ∧
            Sandbox.evaluateAtWorker (s.handedOver tree (.object [])).1 (.object []) = .ok w ∧
              2 * w.nesting ≤ Levels.answer) ∧
        (s.startMethod = "fork" ∨ tree.NaNFree →
          (s.run tree (.object []) exitCode = .ok v ↔
            s.HandsOver tree [] ∧
              2 * reach Value.nesting (.object []) tree ≤ Levels.worker ∧
                2 * v.nesting ≤ Levels.answer))) := by
  obtain ⟨-, structured, -, deep, v, hv⟩ := validate_eq_accepted.mp accepted
  have sound := checkStructure_eq_ok.mp structured
  refine ⟨?_, ?_, ?_⟩
  · intro context fault h
    have raised : ∃ c, eval c tree = .error (.logic fault) := by
      rcases h with h | h
      · exact ⟨context, h⟩
      · exact ⟨contextOf context, evaluate_logic_fault h⟩
    obtain ⟨c, hc⟩ := raised
    obtain ⟨node, op, operands, hn, ho, hr⟩ := eval_logic_fault sound hc
    refine ⟨?_, ?_, op, hr.operator?, hr.variable_or_arithmetic, node, operands, hn, ho⟩
    · rintro name rfl
      cases hr
    · rintro op' count rfl
      cases hr
  · rintro s work entries exitCode fault rfl faithful h
    exact s.runWith_not_saysTooDeep faithful sound deep h
  · rintro s exitCode rfl waits
    have within := (checkDepth_eq_ok).mp deep
    have given : (s.handedOver tree (.object [])).2 = .object [] :=
      (apply_ite Prod.snd ..).trans (ite_self _)
    have answers (w : Value) := @Sandbox.run_eq_ok_iff _ s exitCode tree [] waits w
    simp only [given, and_iff_right within] at answers
    refine ⟨v, hv, answers, fun plain => ?_⟩
    have same : s.handedOver tree (.object []) = (tree, .object []) := by
      rcases plain with fork | number
      · exact Sandbox.handedOver_fork fork
      · exact Sandbox.handedOver_of_naNFree number (Value.naNFree_object.mpr nofun)
    rw [answers, same, Sandbox.evaluateAtWorker_eq_ok hv]

end

/-- Divides an amount that is due and approves what is not. -/
def shareRule : Value :=
  .object [("if", .list [
    .object [("var", .str "due")],
    .object [("/", .list [.object [("var", .str "amount")], .object [("var", .str "parts")]])],
    .object [("action", .str "AUTO_APPROVE"), ("config", .object [])]])]

/-- What becomes of it where nothing is due. -/
def approval : Value := .object [("action", .str "AUTO_APPROVE"), ("config", .object [])]

/-- An event on which the division meets a text; the empty context never reaches it. -/
def wordyEvent : Value :=
  .object [("due", .bool true), ("amount", .str "ten"), ("parts", .int 2)]

theorem validated_evaluation_sound_shareRule :
    validate 10 shareRule = .ok .accepted ∧
      evaluate shareRule wordyEvent = .error (.logic (.operandKind .quotient .str)) ∧
      (∃ op : Operator, (LogicFault.operandKind .quotient .str).operator? = some op.symbol ∧
        (op = .variable ∨ op.isArithmetic = true) ∧
          ∃ node operands, Occurs node shareRule ∧
            operation? node = some (op.symbol, operands)) ∧
      ({} : Sandbox).run shareRule (.object []) = .ok approval := by
  have accepted : validate 10 shareRule = .ok .accepted := by
    rw [validate_eq_accepted]
    refine ⟨⟨_, rfl⟩, ?_, ?_, ?_, _, rfl⟩
    · simp only [checkStructure, checkNodes, shareRule, walk, children, operandsOf,
        List.reverse_cons, List.reverse_nil, List.nil_append, List.cons_append]
      rfl
    · simp only [checkActions, checkNodes, shareRule, walk, children, operandsOf,
        List.reverse_cons, List.reverse_nil, List.nil_append, List.cons_append]
      rfl
    · simp [checkDepth, measureDepth, shareRule, Rule.measure, children, operandsOf, operation?,
        exceeds]
  have raised : evaluate shareRule wordyEvent =
      .error (.logic (.operandKind .quotient .str)) := by
    rw [evaluate_eq, if_neg (by decide +kernel)]
    rfl
  obtain ⟨logic, -, served⟩ := validated_evaluation_sound accepted
  have value : evaluate shareRule (.object []) = .ok approval := by
    rw [evaluate_eq, if_neg (by decide +kernel)]
    rfl
  obtain ⟨v, hv, -, answered⟩ := served {} none rfl ⟨by decide +kernel, by decide +kernel⟩
  obtain rfl : v = approval := Except.ok.inj (hv.symm.trans value)
  have handed : ({} : Sandbox).HandsOver shareRule [] := .inr ⟨by decide, by decide⟩
  exact ⟨accepted, raised, (logic _ _ (.inr raised)).2.2,
    (answered (.inr (by simp [shareRule]))).mpr ⟨handed, by decide, by decide⟩⟩

/-- A tree with a branch that is never taken and nests deeply. -/
def deepBranch (n : Nat) : Value :=
  .object [("if", .list [.bool true, .int 1, .nested n])]

theorem occurs_nested {n : Nat} {node : Value} (h : Occurs node (.nested n)) :
    ∃ m, node = .nested m := by
  induction n with
  | zero =>
      rcases occurs_iff.mp h with rfl | ⟨child, hc, -⟩
      · exact ⟨0, rfl⟩
      · cases hc
  | succ n ih =>
      rcases occurs_iff.mp h with rfl | ⟨child, hc, below⟩
      · exact ⟨n + 1, rfl⟩
      · cases List.mem_singleton.mp hc
        exact ih below

theorem depth_nested (n : Nat) : depth (.nested n) = 0 := by
  induction n with
  | zero => rfl
  | succ n ih => rw [Value.nested, depth, deepest, ih, deepest, Nat.max_zero]

/-- The nodes of such a tree are the tree itself, the operands before the branch, and lists. -/
theorem occurs_deepBranch {n : Nat} {node : Value} (h : Occurs node (deepBranch n)) :
    node = deepBranch n ∨ node = .bool true ∨ node = .int 1 ∨ ∃ m, node = .nested m := by
  rcases occurs_iff.mp h with rfl | ⟨child, hc, below⟩
  · exact .inl rfl
  · simp only [deepBranch, children, operandsOf, List.mem_cons, List.not_mem_nil, or_false] at hc
    rcases hc with rfl | rfl | rfl
    · rcases occurs_iff.mp below with rfl | ⟨_, ⟨⟩, -⟩
      exact .inr (.inl rfl)
    · rcases occurs_iff.mp below with rfl | ⟨_, ⟨⟩, -⟩
      exact .inr (.inr (.inl rfl))
    · exact .inr (.inr (.inr (occurs_nested below)))

theorem evaluate_deepBranch (n : Nat) : evaluate (deepBranch n) (.object []) = .ok (.int 1) := by
  have near : reach Value.nesting (.object []) (deepBranch n) = 1 := rfl
  rw [evaluate_eq, contextOf_object, near, if_neg (by decide)]
  rfl

theorem nesting_branch (n : Nat) : n + 1 < (deepBranch n).nesting := by
  have list := Value.nesting_item (show Value.nested n ∈ [Value.bool true, .int 1, .nested n] by simp)
  exact Nat.lt_trans (Value.nesting_nested n ▸ list) (Value.nesting_entry List.mem_cons_self)

/-- A tree is accepted, and has a value in the empty context, although it cannot be handed over. -/
theorem deepBranch_is_accepted :
    validate 10 (deepBranch 2499) = .ok .accepted ∧
      evaluate (deepBranch 2499) (.object []) = .ok (.int 1) ∧
      ({} : Sandbox).run (deepBranch 2499) (.object []) =
        .error (.breakdown (.nestedTooDeeply .handover)) := by
  have deep : depth (deepBranch 2499) = 1 := by
    rw [deepBranch, depth, deepest, deepest, deepest, depth_nested]
    rfl
  have clean (fault? : Value → Option LogicFault) (top : fault? (deepBranch 2499) = none)
      (truth : fault? (.bool true) = none) (one : fault? (.int 1) = none)
      (lists : ∀ m, fault? (.nested m) = none) : checkNodes fault? (deepBranch 2499) = .ok () := by
    refine checkNodes_eq_ok.mpr fun node occurs => ?_
    rcases occurs_deepBranch occurs with rfl | rfl | rfl | ⟨m, rfl⟩
    · exact top
    · exact truth
    · exact one
    · exact lists m
  refine ⟨validate_eq_accepted.mpr ⟨⟨_, rfl⟩, ?_, ?_, ?_, _, evaluate_deepBranch 2499⟩,
    evaluate_deepBranch 2499, Sandbox.run_of_unhanded ?_ ?_⟩
  · exact clean operationFault? rfl rfl rfl fun m => by cases m <;> rfl
  · exact clean actionFault? rfl rfl rfl fun m => by cases m <;> rfl
  · rw [checkDepth_eq_ok, deep]
    decide
  · rw [deep]
    decide
  · rintro (fork | ⟨shallow, -⟩)
    · exact absurd fork (by decide)
    · have deeper := nesting_branch 2499
      exact absurd shallow (Nat.not_le.mpr (Nat.lt_of_lt_of_le (by decide)
        (Nat.mul_le_mul_left 2 (Nat.le_of_lt deeper))))

end TriggerFlow.Rule
