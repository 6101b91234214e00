import TriggerFlow.Rule.Depth
import TriggerFlow.Rule.Reach

/-! # Trees as nodes

A node of a tree is a list, an operation or a literal (`tree_induction`).  A node occurs in a tree if
it is the tree or occurs in one of its children (`Occurs`); these are the nodes that `walk` visits,
whatever its order (`mem_walk`), and the only ones that evaluation meets.  The equations of `eval`
are stated once for each kind of node: `eval_list`, `eval_operation` and `eval_literal`. -/

namespace TriggerFlow.Rule

/-- Neither a list nor an operation. -/
def isLiteral : Value → Bool
  | .list _ | .object [_] => false
  | _ => true

/-- A node that is met on the way down from a tree. -/
inductive Occurs (node : Value) : Value → Prop
  | here : Occurs node node
  | inside {child tree : Value} : child ∈ children tree → Occurs node child → Occurs node tree

/-! ### Nodes and their children -/

theorem operation?_eq_some {tree : Value} {symbol : String} {operands : List Value} :
    operation? tree = some (symbol, operands) ↔
      ∃ v, tree = .object [(symbol, v)] ∧ operands = operandsOf v := by
  constructor
  · intro h
    unfold operation? at h
    split at h
    · obtain ⟨rfl, rfl⟩ := Prod.mk.inj (Option.some.inj h)
      exact ⟨_, rfl, rfl⟩
    · cases h
  · rintro ⟨v, rfl, rfl⟩
    rfl

theorem children_operation {tree : Value} {symbol : String} {operands : List Value}
    (h : operation? tree = some (symbol, operands)) : children tree = operands := by
  obtain ⟨v, rfl, rfl⟩ := operation?_eq_some.mp h
  rfl

/-- A node is a list, an operation or a literal. -/
theorem node_cases (tree : Value) :
    (∃ items, tree = .list items) ∨
      (∃ symbol operands, operation? tree = some (symbol, operands)) ∨ isLiteral tree = true := by
  match tree with
  | .list items => exact .inl ⟨items, rfl⟩
  | .object [(symbol, v)] => exact .inr (.inl ⟨symbol, operandsOf v, rfl⟩)
  | .null | .bool _ | .int _ | .float _ | .str _ | .object [] | .object (_ :: _ :: _) =>
      exact .inr (.inr rfl)

theorem operation?_literal {tree : Value} (h : isLiteral tree = true) : operation? tree = none := by
  unfold operation?
  split
  · cases h
  · rfl

theorem children_literal {tree : Value} (h : isLiteral tree = true) : children tree = [] := by
  unfold children
  split
  · cases h
  · cases h
  · rfl

theorem size_le_sizes {v : Value} {vs : List Value} (h : v ∈ vs) : size v ≤ sizes vs := by
  induction vs with
  | nil => cases h
  | cons w rest ih =>
      rw [sizes]
      rcases List.mem_cons.mp h with rfl | h
      · omega
      · have := ih h
        omega

theorem sizes_perm {vs ws : List Value} (order : vs.Perm ws) : sizes vs = sizes ws := by
  induction order with
  | nil => rfl
  | cons v _ ih => rw [sizes, sizes, ih]
  | swap v w rest => rw [sizes, sizes, sizes, sizes, Nat.add_left_comm]
  | trans _ _ ih ih' => exact ih.trans ih'

theorem size_child {child tree : Value} (h : child ∈ children tree) : size child < size tree := by
  have := size_le_sizes h
  rw [size_eq tree]
  omega

/-- Induction on a tree, from the children of a node to the node. -/
@[elab_as_elim]
theorem tree_induction {motive : Value → Prop} (tree : Value)
    (list : ∀ items, (∀ item ∈ items, motive item) → motive (.list items))
    (operation : ∀ v symbol operands, operation? v = some (symbol, operands) →
      (∀ operand ∈ operands, motive operand) → motive v)
    (literal : ∀ v, isLiteral v = true → motive v) : motive tree := by
  have below : ∀ child ∈ children tree, motive child := fun child h =>
    tree_induction child list operation literal
  rcases node_cases tree with ⟨items, rfl⟩ | ⟨symbol, operands, h⟩ | h
  · exact list items below
  · exact operation tree symbol operands h fun operand ho =>
      below operand (by rw [children_operation h]; exact ho)
  · exact literal tree h
termination_by size tree
decreasing_by exact size_child h

/-! ### Occurrence -/

theorem occurs_iff {node tree : Value} :
    Occurs node tree ↔ node = tree ∨ ∃ child ∈ children tree, Occurs node child := by
  constructor
  · intro h
    cases h with
    | here => exact .inl rfl
    | inside hc h => exact .inr ⟨_, hc, h⟩
  · rintro (rfl | ⟨child, hc, h⟩)
    · exact .here
    · exact .inside hc h

theorem Occurs.item {node item : Value} {items : List Value} (hi : item ∈ items)
    (h : Occurs node item) : Occurs node (.list items) := by
  refine .inside ?_ h
  exact hi

theorem Occurs.operand {node operand tree : Value} {symbol : String} {operands : List Value}
    (ht : operation? tree = some (symbol, operands)) (ho : operand ∈ operands)
    (h : Occurs node operand) : Occurs node tree :=
  .inside (by rw [children_operation ht]; exact ho) h

/-- A walk visits the nodes that occur in the trees on its stack. -/
theorem mem_walk {node : Value} {stack : List Value} :
    node ∈ walk stack ↔ ∃ tree ∈ stack, Occurs node tree := by
  induction stack using walk.induct with
  | case1 => simp [walk]
  | case2 tree rest ih =>
      rw [walk, List.mem_cons, ih]
      simp only [List.mem_append, List.mem_reverse, List.mem_cons, or_and_right, exists_or,
        exists_eq_left]
      rw [@occurs_iff node tree, or_assoc]

theorem checkNodes_eq_ok {fault? : Value → Option LogicFault} {tree : Value} :
    checkNodes fault? tree = .ok () ↔ ∀ node, Occurs node tree → fault? node = none := by
  have visited : ∀ node, node ∈ walk [tree] ↔ Occurs node tree := by simp [mem_walk]
  unfold checkNodes
  cases h : (walk [tree]).findSome? fault? with
  | none =>
      rw [List.findSome?_eq_none_iff] at h
      simpa [visited] using h
  | some fault =>
      obtain ⟨node, hn, hf⟩ := List.exists_of_findSome?_eq_some h
      simp only [reduceCtorEq, false_iff]
      intro sound
      rw [sound node ((visited node).mp hn)] at hf
      cases hf

/-! ### Evaluation, node by node -/

variable (context : Value)

theorem evalEach_eq_map (vs : List Value) : evalEach context vs = vs.map (eval context) := by
  induction vs with
  | nil => rfl
  | cons v rest ih => rw [evalEach, ih, List.map_cons]

theorem eval_list (items : List Value) :
    eval context (.list items) = (collect (items.map (eval context))).map .list := by
  rw [eval, evalEach_eq_map]

theorem eval_operation {tree : Value} {symbol : String} {operands : List Value}
    (h : operation? tree = some (symbol, operands)) :
    eval context tree = operate context symbol (operands.map (eval context)) := by
  obtain ⟨v, rfl, rfl⟩ := operation?_eq_some.mp h
  cases v with
  | list items => rw [eval, evalEach_eq_map, operandsOf]
  | _ => simp [eval, operandsOf]

theorem eval_literal {tree : Value} (h : isLiteral tree = true) :
    eval context tree = .ok tree := by
  unfold isLiteral at h
  split at h
  · cases h
  · cases h
  · rw [eval] <;> simp_all

@[simp]
theorem contextOf_object (entries : Entries) : contextOf (.object entries) = .object entries := rfl

/-- Within the level limit evaluation gives the outcome of the tree, unless something goes too
deep. -/
theorem evaluate_cases [Levels] (tree : Value) :
    evaluate tree context = eval (contextOf context) tree ∨
      ∃ descent, evaluate tree context = .error (.breakdown (.nestedTooDeeply descent)) := by
  rw [evaluate_eq]
  split
  · exact .inr ⟨_, rfl⟩
  · exact .inl rfl

end TriggerFlow.Rule
