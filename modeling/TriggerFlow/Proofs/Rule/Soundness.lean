import TriggerFlow.Proofs.Rule.Operation
import TriggerFlow.Proofs.Rule.Tree
import TriggerFlow.Rule.Validation

/-! # Sound trees

A tree is sound if every operation in it has a known symbol and an admitted number of operands
(`checkStructure_eq_ok`), also where no evaluation ever comes.  Evaluation meets only nodes of the
tree, so in any context its faults of logic are faults that an operator of the tree raises itself
(`eval_logic_fault`, `evaluate_logic_fault`). -/

namespace TriggerFlow.Rule

open Outcome

/-! ### Nodes -/

theorem ofSymbol?_eq_some {symbol : String} {op : Operator}
    (h : Operator.ofSymbol? symbol = some op) : op.symbol = symbol := by
  have := List.find?_some h
  simpa using this

theorem ofSymbol?_symbol (op : Operator) : Operator.ofSymbol? op.symbol = some op := by
  cases op <;> rfl

theorem admitted_eq_ok {symbol : String} {count : Nat} {op : Operator} :
    admitted symbol count = .ok op ↔
      Operator.ofSymbol? symbol = some op ∧ op.arity.admits count = true := by
  unfold admitted
  cases h : Operator.ofSymbol? symbol with
  | none => simp
  | some other =>
      dsimp only
      split
      · constructor
        · rintro ⟨⟩
          exact ⟨rfl, by assumption⟩
        · rintro ⟨⟨⟩, -⟩
          rfl
      · constructor
        · rintro ⟨⟩
        · rintro ⟨⟨⟩, ha⟩
          contradiction

theorem ofSymbol?_eq_none {symbol : String} :
    Operator.ofSymbol? symbol = none ↔ ∀ op : Operator, op.symbol ≠ symbol := by
  constructor
  · rintro h op rfl
    rw [ofSymbol?_symbol] at h
    cases h
  · intro unknown
    cases h : Operator.ofSymbol? symbol with
    | none => rfl
    | some op => exact (unknown op (ofSymbol?_eq_some h)).elim

/-- An operation is refused for its symbol, which names no operator, or for the number of its
operands. -/
theorem admitted_eq_error {symbol : String} {count : Nat} {fault : LogicFault} :
    admitted symbol count = .error fault ↔
      (∀ op : Operator, op.symbol ≠ symbol) ∧ fault = .unknownOperator symbol ∨
        ∃ op : Operator, op.symbol = symbol ∧ op.arity.admits count = false ∧
          fault = .operandCount op count := by
  unfold admitted
  constructor
  · intro h
    split at h
    · cases h
      exact .inl ⟨ofSymbol?_eq_none.mp ‹_›, rfl⟩
    · rename_i op known
      split at h <;> cases h
      exact .inr ⟨op, ofSymbol?_eq_some known, Bool.eq_false_iff.mpr ‹_›, rfl⟩
  · rintro (⟨unknown, rfl⟩ | ⟨op, rfl, refused, rfl⟩)
    · rw [ofSymbol?_eq_none.mpr unknown]
    · simp only [ofSymbol?_symbol, refused, Bool.false_eq_true, if_false]

theorem operationFault?_eq_some {node : Value} {fault : LogicFault} :
    operationFault? node = some fault ↔
      ∃ symbol operands, operation? node = some (symbol, operands) ∧
        admitted symbol operands.length = .error fault := by
  unfold operationFault?
  cases h : operation? node with
  | none => simp
  | some operation =>
      obtain ⟨symbol, operands⟩ := operation
      dsimp only
      cases ha : admitted symbol operands.length <;> simp [ha]

theorem operationFault?_eq_none {node : Value} :
    operationFault? node = none ↔
      ∀ symbol operands, operation? node = some (symbol, operands) →
        ∃ op : Operator, op.symbol = symbol ∧ admitted symbol operands.length = .ok op := by
  unfold operationFault?
  cases h : operation? node with
  | none => simp
  | some operation =>
      obtain ⟨symbol, operands⟩ := operation
      dsimp only
      cases ha : admitted symbol operands.length with
      | error fault =>
          simp only [reduceCtorEq, false_iff]
          intro sound
          obtain ⟨op, -, hop⟩ := sound symbol operands rfl
          rw [ha] at hop
          cases hop
      | ok op =>
          simp only [true_iff]
          rintro symbol' operands' ⟨⟩
          exact ⟨op, ofSymbol?_eq_some (admitted_eq_ok.mp ha).1, ha⟩

theorem checkStructure_eq_ok {tree : Value} :
    checkStructure tree = .ok () ↔ ∀ node, Occurs node tree → operationFault? node = none :=
  checkNodes_eq_ok

/-! ### Evaluation -/

theorem operate_symbol {op : Operator} {context : Value} {outcomes : List Outcome}
    (h : op.arity.admits outcomes.length = true) :
    operate context op.symbol outcomes = op.apply context outcomes := by
  rw [operate, admitted_eq_ok.mpr ⟨ofSymbol?_symbol op, h⟩]

/-- An operation that needs all its operands computes on their values. -/
theorem eval_strict {op : Operator} {context tree : Value} {operands vs : List Value}
    (strict : op.isLazy = false) (operation : operation? tree = some (op.symbol, operands))
    (count : op.arity.admits operands.length = true)
    (evaluated : operands.map (eval context) = vs.map .ok) :
    eval context tree = compute op context vs := by
  rw [eval_operation context operation, operate_symbol (by rwa [List.length_map]),
    op.apply_of_strict strict, collect_eq_ok.mpr evaluated]
  rfl

/-- A fault of logic in the evaluation of a tree whose nodes are sound is raised by an operator that
stands in the tree. -/
theorem eval_logic_fault {tree context : Value} {fault : LogicFault}
    (sound : ∀ node, Occurs node tree → operationFault? node = none)
    (h : eval context tree = .error (.logic fault)) :
    ∃ node op operands, Occurs node tree ∧
      operation? node = some (Operator.symbol op, operands) ∧ op.Raises fault := by
  induction tree using tree_induction with
  | list items ih =>
      rw [eval_list, map_eq_error] at h
      obtain ⟨item, hi, he⟩ := List.mem_map.mp (mem_of_collect_error h)
      obtain ⟨node, op, operands, hn, rest⟩ := ih item hi (fun node hn => sound node (hn.item hi)) he
      exact ⟨node, op, operands, hn.item hi, rest⟩
  | operation tree symbol operands ht ih =>
      obtain ⟨op, rfl, ha⟩ := operationFault?_eq_none.mp (sound tree .here) symbol operands ht
      have hn := (admitted_eq_ok.mp ha).2
      rw [eval_operation context ht, operate, List.length_map, ha] at h
      rcases Operator.apply_error (by rwa [List.length_map]) h with he | hr
      · obtain ⟨operand, ho, he⟩ := List.mem_map.mp he
        obtain ⟨node, op', operands', hn', rest⟩ :=
          ih operand ho (fun node hn => sound node (hn.operand ht ho)) he
        exact ⟨node, op', operands', hn'.operand ht ho, rest⟩
      · exact ⟨tree, op, operands, .here, ht, hr⟩
  | literal tree hl =>
      rw [eval_literal context hl] at h
      cases h

theorem evaluate_logic_fault [Levels] {tree context : Value} {fault : LogicFault}
    (h : evaluate tree context = .error (.logic fault)) :
    eval (contextOf context) tree = .error (.logic fault) := by
  rcases evaluate_cases context tree with heq | ⟨descent, heq⟩
  · exact heq ▸ h
  · rw [heq] at h
    cases h

end TriggerFlow.Rule
