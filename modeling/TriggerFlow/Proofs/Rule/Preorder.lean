import TriggerFlow.Notice
import TriggerFlow.Proofs.Rule.Actions
import TriggerFlow.Proofs.Rule.Soundness
import TriggerFlow.Proofs.Run

/-! # The order of the checks

By recursion on a tree its nodes come in preorder, from right to left (`preorder`); the walk of the
checks visits them in this order (`walk_eq`).  A check keeps a stack of nodes (`Scan`): it takes the last
one off, and unless that is at fault it appends its children.  What it has visited and what is on its
stack make up the order all the time (`Scan.Sound.step`), so it always comes to an end, at the first node
at fault or at the end of the order (`scansTo_checkNodes`).  What the check of the structure says of a
misused operation (`Misuse`) and the check of the actions of a misnamed action (`Misnaming`) is thus said
of the first one in preorder (`checkNodes_remarks`).  Together: `checks_in_preorder`. -/

namespace TriggerFlow.Rule

/-! ### Preorder from right to left -/

mutual

/-- The nodes of a tree: the tree itself, then those of its children from the last to the first.  A
literal object is not entered. -/
def preorder : Value → List Value
  | .list items => .list items :: preorders items
  | .object [(symbol, .list operands)] => .object [(symbol, .list operands)] :: preorders operands
  | .object [(symbol, operand)] => .object [(symbol, operand)] :: preorder operand
  | literal => [literal]

/-- The nodes of several trees, those of the last tree first. -/
def preorders : List Value → List Value
  | [] => []
  | v :: rest => preorders rest ++ preorder v

end

theorem preorders_eq (vs : List Value) : preorders vs = vs.reverse.flatMap preorder := by
  induction vs with
  | nil => rfl
  | cons v rest ih => rw [preorders, ih, List.reverse_cons, List.flatMap_append, List.flatMap_singleton]

theorem preorders_append (vs ws : List Value) :
    preorders (vs ++ ws) = preorders ws ++ preorders vs := by
  rw [preorders_eq, preorders_eq, preorders_eq, List.reverse_append, List.flatMap_append]

theorem preorder_eq (v : Value) : preorder v = v :: preorders (children v) := by
  unfold preorder children
  split <;> simp [operandsOf, preorders]

theorem preorder_operation {tree : Value} {symbol : String} {operands : List Value}
    (h : operation? tree = some (symbol, operands)) :
    preorder tree = tree :: operands.reverse.flatMap preorder := by
  rw [preorder_eq, children_operation h, preorders_eq]

theorem preorder_literal {tree : Value} (h : isLiteral tree = true) : preorder tree = [tree] := by
  rw [preorder_eq, children_literal h, preorders]

/-- A walk visits the trees on its stack one after the other, each in preorder. -/
theorem walk_eq (stack : List Value) : walk stack = stack.flatMap preorder := by
  induction stack using walk.induct with
  | case1 => rw [walk, List.flatMap_nil]
  | case2 v rest ih =>
      rw [walk, ih, List.flatMap_append, ← preorders_eq, List.flatMap_cons, preorder_eq v,
        List.cons_append]

theorem walk_tree (tree : Value) : walk [tree] = preorder tree := by
  rw [walk_eq, List.flatMap_singleton]

/-! ### The first fault -/

/-- A check ends with the fault of the first node in preorder that is at fault. -/
theorem checkNodes_eq_error {fault? : Value → Option LogicFault} {tree : Value}
    {fault : LogicFault} :
    checkNodes fault? tree = .error fault ↔
      ∃ before node after, preorder tree = before ++ node :: after ∧ fault? node = some fault ∧
        ∀ earlier ∈ before, fault? earlier = none := by
  rw [checkNodes, walk_tree, ← List.findSome?_eq_some_iff]
  cases (preorder tree).findSome? fault? <;> simp

theorem checkNodes_raises_iff {fault? : Value → Option LogicFault} {tree : Value} :
    (∃ fault, checkNodes fault? tree = .error fault) ↔
      ∃ node ∈ preorder tree, ∃ fault, fault? node = some fault := by
  rw [checkNodes, walk_tree]
  cases h : (preorder tree).findSome? fault? with
  | none =>
      rw [List.findSome?_eq_none_iff] at h
      simp +contextual [h]
  | some fault =>
      obtain ⟨node, hn, found⟩ := List.exists_of_findSome?_eq_some h
      exact iff_of_true ⟨fault, rfl⟩ ⟨node, hn, fault, found⟩

/-! ### Scanning with a stack -/

/-- A check on its way, with the nodes visited so far and the stack of those that are left, or one at
its end, with its verdict. -/
inductive Scan
  | going (visited stack : List Value)
  | done (visited : List Value) (verdict : Except LogicFault Unit)

namespace Scan

/-- The check of a tree. -/
def of (tree : Value) : Scan := .going [] [tree]

/-- What a check does next: it takes the last node off the stack and ends there if that is at fault,
else it appends the children of the node.  With an empty stack all is well. -/
inductive Step (fault? : Value → Option LogicFault) : Scan → Scan → Prop
  | pass {visited : List Value} : Step fault? (.going visited []) (.done visited (.ok ()))
  | raise {visited stack : List Value} {node : Value} {fault : LogicFault}
      (found : fault? node = some fault) :
      Step fault? (.going visited (stack ++ [node])) (.done (visited ++ [node]) (.error fault))
  | enter {visited stack : List Value} {node : Value} (clear : fault? node = none) :
      Step fault? (.going visited (stack ++ [node])) (.going (visited ++ [node]) (stack ++ children node))

variable {fault? : Value → Option LogicFault} {tree : Value} {s t : Scan}

/-- What is true of every scan of a tree: what it has visited begins the preorder, and none of these
nodes is at fault, but for the last one if the check has ended with its fault. -/
inductive Sound (fault? : Value → Option LogicFault) (tree : Value) : Scan → Prop
  | going {visited stack : List Value} (order : visited ++ preorders stack = preorder tree)
      (clear : ∀ node ∈ visited, fault? node = none) : Sound fault? tree (.going visited stack)
  | passed (clear : ∀ node ∈ preorder tree, fault? node = none) :
      Sound fault? tree (.done (preorder tree) (.ok ()))
  | raised {before after : List Value} {node : Value} {fault : LogicFault}
      (order : preorder tree = before ++ node :: after)
      (clear : ∀ node ∈ before, fault? node = none) (found : fault? node = some fault) :
      Sound fault? tree (.done (before ++ [node]) (.error fault))

def verdict? : Scan → Option (Except LogicFault Unit)
  | .going .. => none
  | .done _ verdict => some verdict

/-- How many nodes are left. -/
def left : Scan → Nat
  | .going _ stack => sizes stack + 1
  | .done .. => 0

theorem Sound.of (fault? : Value → Option LogicFault) (tree : Value) :
    Sound fault? tree (of tree) :=
  .going (by simp [preorders]) (by simp)

theorem Sound.step (hs : Sound fault? tree s) (h : Step fault? s t) : Sound fault? tree t := by
  cases hs with
  | passed => cases h
  | raised => cases h
  | @going visited stack order clear =>
      cases h with
      | pass =>
          rw [preorders, List.append_nil] at order
          subst order
          exact .passed clear
      | @raise _ rest node fault found =>
          -- the last node of the stack is the next of the order, and its children follow it
          have next : preorder tree =
              visited ++ node :: (preorders (children node) ++ preorders rest) := by
            rw [← order, preorders_append]
            simp [preorders, preorder_eq node]
          exact .raised next clear found
      | @enter _ rest node sound =>
          refine .going ?_ ?_
          · rw [← order, preorders_append, preorders_append]
            simp [preorders, preorder_eq node]
          · intro v hv
            rcases List.mem_append.mp hv with hv | hv
            · exact clear v hv
            · rwa [List.mem_singleton.mp hv]

theorem Step.left_lt (h : Step fault? s t) : t.left < s.left := by
  cases h with
  | pass | raise => exact Nat.succ_pos _
  | @enter _ stack node _ =>
      rw [left, left, sizes_append, sizes_append, sizes, sizes, size_eq node]
      omega

/-- A scan without a next step has its verdict, and this is the one of the check. -/
theorem Sound.verdict_of_stuck (hs : Sound fault? tree s) (stuck : ∀ t, ¬ Step fault? s t) :
    s.verdict? = some (checkNodes fault? tree) := by
  cases hs with
  | @going visited stack =>
      refine absurd ?_ (not_exists.mpr stuck)
      rcases List.eq_nil_or_concat stack with rfl | ⟨rest, node, rfl⟩
      · exact ⟨_, .pass⟩
      · rw [List.concat_eq_append]
        cases h : fault? node with
        | none => exact ⟨_, .enter h⟩
        | some fault => exact ⟨_, .raise h⟩
  | passed clear =>
      cases h : checkNodes fault? tree with
      | ok => rfl
      | error fault =>
          obtain ⟨node, hn, fault, found⟩ := checkNodes_raises_iff.mp ⟨fault, h⟩
          rw [clear node hn] at found
          cases found
  | raised order clear found =>
      rw [checkNodes_eq_error.mpr ⟨_, _, _, order, found, clear⟩]
      rfl

end Scan

/-- Every scan of a tree comes to an end with the verdict, having visited the preorder, up to the first
node at fault if there is one. -/
def ScansTo (fault? : Value → Option LogicFault) (tree : Value)
    (verdict : Except LogicFault Unit) : Prop :=
  TriggerFlow.Leads (Scan.Step fault?)
    (fun s => Scan.Sound fault? tree s ∧ s.verdict? = some verdict) (.of tree)

theorem scansTo_checkNodes (fault? : Value → Option LogicFault) (tree : Value) :
    ScansTo fault? tree (checkNodes fault? tree) :=
  .of_measure (Scan.Sound fault? tree) Scan.left (fun _ _ => Scan.Sound.step)
    (fun _ _ => Scan.Step.left_lt) (fun _ hs stuck => ⟨hs, hs.verdict_of_stuck stuck⟩) _
    (.of fault? tree)

/-! ### What the checks say -/

/-- What the check of the structure says of an operation, the symbol it names and its message: the
symbol is unknown, or the operands are too few or too many. -/
inductive Misuse (node : Value) : String × String → Prop
  | unknown {symbol : String} {operands : List Value}
      (operation : operation? node = some (symbol, operands))
      (unknown : ∀ op : Operator, op.symbol ≠ symbol) :
      Misuse node (symbol, "Unrecognized operation " ++ symbol)
  | count {op : Operator} {operands : List Value}
      (operation : operation? node = some (op.symbol, operands))
      (outside : operands.length < op.arity.low ∨
        ∃ high, op.arity.high = some high ∧ high < operands.length) :
      Misuse node (op.symbol, "Operator '" ++ op.symbol ++ "' expects " ++ op.arity.text ++
        " operand(s), got " ++ toString operands.length)

/-- What the check of the actions says of a literal object, the action it names: a nonempty text that is
none of the vocabulary. -/
structure Misnaming (node : Value) (name : String) : Prop where
  literal : ∃ entries, node = .object entries ∧ entries.length ≠ 1
  names : node.get "action" = .str name
  nonempty : name ≠ ""
  unknown : ∀ a : ActionType, a.name ≠ name

/-- What is remarked on the first of the nodes on which anything is. -/
def FirstRemark {α : Type} (remarks : Value → α → Prop) (nodes : List Value) (remark : α) : Prop :=
  ∃ before node after, nodes = before ++ node :: after ∧ remarks node remark ∧
    ∀ earlier ∈ before, ∀ other, ¬ remarks earlier other

theorem admits_eq_false {a : Arity} {count : Nat} :
    a.admits count = false ↔ count < a.low ∨ ∃ high, a.high = some high ∧ high < count := by
  obtain ⟨low, _ | high⟩ := a
  · rw [← Bool.not_eq_true, Arity.admits_unbounded_iff]
    simp
  · rw [← Bool.not_eq_true, Arity.admits_iff, not_and_or, Nat.not_le, Nat.not_le]
    simp

/-- The details that give the symbol of an operation unless it is empty. -/
def operatorDetails (symbol : String) : Value :=
  .object (if symbol = "" then [] else [("operator", .str symbol)])

theorem operatorDetails_inj {s t : String} (h : operatorDetails s = operatorDetails t) : s = t := by
  unfold operatorDetails at h
  split at h <;> split at h <;> simp_all

theorem detail_operator (symbol : String) :
    Notice.detail "operator" (.str symbol) = operatorDetails symbol := by
  by_cases empty : symbol = ""
  · subst empty
    rfl
  · simp [Notice.detail, operatorDetails, Value.truthy, empty]

/-- What a fault tells its reader of an operation, the symbol and the message. -/
def Tells (fault : LogicFault) (remark : String × String) : Prop :=
  ∃ notice, Notice.ofFault? (.logic fault) = some notice ∧ notice.message = .str remark.2 ∧
    notice.details = operatorDetails remark.1

theorem tells_iff {fault : LogicFault} {symbol : String} {remark : String × String}
    (details : Notice.detail "operator" (Value.ofOption .str fault.operator?) =
      operatorDetails symbol) :
    Tells fault remark ↔ remark = (symbol, fault.message) := by
  constructor
  · rintro ⟨notice, found, message, told⟩
    obtain rfl := Option.some.inj found
    exact Prod.ext (operatorDetails_inj (told.symm.trans details)) (Value.str.inj message).symm
  · rintro rfl
    exact ⟨_, rfl, rfl, details⟩

theorem tells_unknownOperator {name : String} {remark : String × String} :
    Tells (.unknownOperator name) remark ↔ remark = (name, "Unrecognized operation " ++ name) := by
  refine tells_iff ?_
  rw [LogicFault.operator?]
  by_cases empty : name = ""
  · subst empty
    rfl
  · rw [if_neg (by simpa using empty)]
    exact detail_operator name

theorem tells_operandCount {op : Operator} {count : Nat} {remark : String × String} :
    Tells (.operandCount op count) remark ↔
      remark = (op.symbol, (LogicFault.operandCount op count).message) :=
  tells_iff (detail_operator op.symbol)

theorem misuse_iff (node : Value) (remark : String × String) :
    Misuse node remark ↔ ∃ fault, operationFault? node = some fault ∧ Tells fault remark := by
  simp only [operationFault?_eq_some]
  constructor
  · rintro (⟨operation, unknown⟩ | ⟨operation, outside⟩)
    · exact ⟨_, ⟨_, _, operation, admitted_eq_error.mpr (.inl ⟨unknown, rfl⟩)⟩,
        tells_unknownOperator.mpr rfl⟩
    · have refused := admits_eq_false.mpr outside
      exact ⟨_, ⟨_, _, operation, admitted_eq_error.mpr (.inr ⟨_, rfl, refused, rfl⟩)⟩,
        tells_operandCount.mpr rfl⟩
  · rintro ⟨fault, ⟨operator, operands, operation, refused⟩, told⟩
    rcases admitted_eq_error.mp refused with ⟨unknown, rfl⟩ | ⟨op, rfl, outside, rfl⟩
    · rw [tells_unknownOperator.mp told]
      exact .unknown operation unknown
    · rw [tells_operandCount.mp told]
      exact .count operation (admits_eq_false.mp outside)

theorem operation?_object_eq_none {entries : Entries} :
    operation? (.object entries) = none ↔ entries.length ≠ 1 := by
  rcases entries with _ | ⟨e, _ | ⟨e', rest⟩⟩ <;> simp [operation?]

theorem misnaming_iff (node : Value) (name : String) :
    Misnaming node name ↔
      ∃ fault, actionFault? node = some fault ∧ fault = .unknownAction name := by
  simp only [actionFault?_eq_some, exists_eq_right]
  constructor
  · rintro ⟨⟨entries, rfl, literal⟩, names, nonempty, unknown⟩
    exact ⟨operation?_object_eq_none.mpr literal, name, names, nonempty, unknown, rfl⟩
  · rintro ⟨literal, other, names, nonempty, unknown, ⟨⟩⟩
    refine ⟨?_, names, nonempty, unknown⟩
    cases node with
    | object entries => exact ⟨entries, rfl, operation?_object_eq_none.mp literal⟩
    | _ => cases names

section Remarks

variable {α : Type} {fault? : Value → Option LogicFault} {remarks : Value → α → Prop}
  {tells : LogicFault → α → Prop}

theorem not_remarked
    (read : ∀ node remark,
      remarks node remark ↔ ∃ fault, fault? node = some fault ∧ tells fault remark)
    {node : Value} (clear : fault? node = none) (remark : α) : ¬ remarks node remark := by
  rw [read]
  rintro ⟨fault, found, -⟩
  rw [clear] at found
  cases found

/-- A check raises a fault if and only if something is remarked on a node of the tree, and the fault
tells what is remarked on the first one. -/
theorem checkNodes_remarks
    (read : ∀ node remark,
      remarks node remark ↔ ∃ fault, fault? node = some fault ∧ tells fault remark)
    (told : ∀ node fault, fault? node = some fault → ∃ remark, tells fault remark) (tree : Value) :
    ((∃ fault, checkNodes fault? tree = .error fault) ↔
      ∃ node ∈ preorder tree, ∃ remark, remarks node remark) ∧
    ∀ remark, (∃ fault, checkNodes fault? tree = .error fault ∧ tells fault remark) ↔
      FirstRemark remarks (preorder tree) remark := by
  have clear : ∀ node, fault? node = none ↔ ∀ remark, ¬ remarks node remark := by
    intro node
    constructor
    · exact not_remarked read
    · intro h
      cases found : fault? node with
      | none => rfl
      | some fault =>
          obtain ⟨remark, ht⟩ := told node fault found
          exact (h remark ((read node remark).mpr ⟨fault, found, ht⟩)).elim
  constructor
  · rw [checkNodes_raises_iff]
    refine exists_congr fun node => and_congr_right fun _ => ?_
    rw [← not_iff_not, not_exists, not_exists, ← clear, Option.eq_none_iff_forall_ne_some]
  · intro remark
    simp only [checkNodes_eq_error, clear]
    constructor
    · rintro ⟨fault, ⟨before, node, after, order, found, earlier⟩, ht⟩
      exact ⟨before, node, after, order, (read node remark).mpr ⟨fault, found, ht⟩, earlier⟩
    · rintro ⟨before, node, after, order, hr, earlier⟩
      obtain ⟨fault, found, ht⟩ := (read node remark).mp hr
      exact ⟨fault, ⟨before, node, after, order, found, earlier⟩, ht⟩

end Remarks

/-- The fault of the structure is that of the first misuse. -/
theorem checkStructure_remarks (tree : Value) :
    ((∃ fault, checkStructure tree = .error fault) ↔
      ∃ node ∈ preorder tree, ∃ remark, Misuse node remark) ∧
    ∀ remark, (∃ fault, checkStructure tree = .error fault ∧ Tells fault remark) ↔
      FirstRemark Misuse (preorder tree) remark := by
  have told : ∀ node fault, operationFault? node = some fault → ∃ remark, Tells fault remark := by
    intro node fault found
    obtain ⟨symbol, operands, -, refused⟩ := operationFault?_eq_some.mp found
    rcases admitted_eq_error.mp refused with ⟨-, rfl⟩ | ⟨op, -, -, rfl⟩
    · exact ⟨_, tells_unknownOperator.mpr rfl⟩
    · exact ⟨_, tells_operandCount.mpr rfl⟩
  exact checkNodes_remarks misuse_iff told tree

/-- The fault of the actions names the first one that is misnamed. -/
theorem checkActions_remarks (tree : Value) :
    ((∃ fault, checkActions tree = .error fault) ↔
      ∃ node ∈ preorder tree, ∃ name, Misnaming node name) ∧
    ∀ name, checkActions tree = .error (.unknownAction name) ↔
      FirstRemark Misnaming (preorder tree) name := by
  have told : ∀ node fault, actionFault? node = some fault →
      ∃ name, fault = .unknownAction name := by
    intro node fault found
    obtain ⟨-, name, -, -, -, rfl⟩ := actionFault?_eq_some.mp found
    exact ⟨name, rfl⟩
  obtain ⟨raises, first⟩ := checkNodes_remarks misnaming_iff told tree
  refine ⟨raises, fun name => ?_⟩
  rw [← first, exists_eq_right]
  rfl

/-! ### The order of the checks -/

/-- **The checks go through a tree in preorder, from right to left.**  This order has the tree first, and
then the operands of an operation or the items of a list from the last to the first, each with all its
nodes before the next; a literal object has no nodes below it.  The scan of either check visits the nodes
in this order, and always comes to an end: at the first node at fault, or with an empty stack at the end
of the order.  The check of the structure raises a fault if and only if some operation of the tree has
an unknown symbol or too few or too many operands; it has the message of the first one, and its details
give the symbol of that one unless it is empty.  The check of the actions raises a fault if and only if
some literal object names an action that is none of the vocabulary, and it names the first one. -/
theorem checks_in_preorder (tree : Value) :
    walk [tree] = preorder tree ∧
    ((∀ items, tree = .list items → preorder tree = tree :: items.reverse.flatMap preorder) ∧
      (∀ symbol operands, operation? tree = some (symbol, operands) →
        preorder tree = tree :: operands.reverse.flatMap preorder) ∧
      (isLiteral tree = true → preorder tree = [tree])) ∧
    (ScansTo operationFault? tree (checkStructure tree) ∧
      ScansTo actionFault? tree (checkActions tree)) ∧
    (((∃ fault, checkStructure tree = .error fault) ↔
        ∃ node ∈ preorder tree, ∃ remark, Misuse node remark) ∧
      ∀ symbol message,
        (∃ fault notice, checkStructure tree = .error fault ∧
          Notice.ofFault? (.logic fault) = some notice ∧ notice.message = .str message ∧
          notice.details = operatorDetails symbol) ↔
            FirstRemark Misuse (preorder tree) (symbol, message)) ∧
    (((∃ fault, checkActions tree = .error fault) ↔
        ∃ node ∈ preorder tree, ∃ name, Misnaming node name) ∧
      ∀ name, checkActions tree = .error (.unknownAction name) ↔
        FirstRemark Misnaming (preorder tree) name) := by
  refine ⟨walk_tree tree, ⟨?_, fun _ _ => preorder_operation, preorder_literal⟩,
    ⟨scansTo_checkNodes _ tree, scansTo_checkNodes _ tree⟩, ⟨(checkStructure_remarks tree).1, ?_⟩,
    checkActions_remarks tree⟩
  · rintro items rfl
    rw [preorder, preorders_eq]
  · intro symbol message
    rw [← (checkStructure_remarks tree).2 (symbol, message)]
    exact exists_congr fun fault =>
      ⟨fun ⟨notice, raised, told⟩ => ⟨raised, notice, told⟩,
        fun ⟨raised, notice, told⟩ => ⟨notice, raised, told⟩⟩

/-- An action with a slip of the pen. -/
def slippedAction : Value := .object [("action", .str "AUTO_APROVE"), ("config", .null)]

/-- A negation of two operands, one of them an action that there is not. -/
def slippedNegation : Value :=
  .object [("!", .list [.bool true, .object [("action", .str "REFUND"), ("config", .null)]])]

/-- A rule with faults in both of its operands. -/
def slippedRule : Value :=
  .object [("or", .list [
    .object [("above", .list [.object [("var", .str "total")], .int 100])],
    .list [slippedNegation, slippedAction]])]

theorem checks_in_preorder_slippedRule :
    (∃ operands, operation? slippedRule = some ("or", operands) ∧
      preorder slippedRule = slippedRule :: operands.reverse.flatMap preorder) ∧
    preorder slippedAction = [slippedAction] ∧
    (∃ fault notice, checkStructure slippedRule = .error fault ∧
      Notice.ofFault? (.logic fault) = some notice ∧
      notice.message = .str "Operator '!' expects 1 operand(s), got 2" ∧
      notice.details = operatorDetails "!") ∧
    checkActions slippedRule = .error (.unknownAction "AUTO_APROVE") := by
  obtain ⟨-, ⟨-, operation, -⟩, -, ⟨-, structured⟩, -, named⟩ := checks_in_preorder slippedRule
  obtain ⟨-, ⟨-, -, literal⟩, -, -⟩ := checks_in_preorder slippedAction
  -- the comparison has a fault too, but it stands further to the left
  refine ⟨⟨_, rfl, operation _ _ rfl⟩, literal rfl, (structured _ _).mpr ?_, (named _).mpr ?_⟩
  · refine ⟨[slippedRule, .list [slippedNegation, slippedAction], slippedAction], slippedNegation,
      _, rfl, ?_, ?_⟩
    · exact (misuse_iff _ _).mpr ⟨.operandCount .negation 2, rfl, tells_operandCount.mpr rfl⟩
    · intro earlier he
      refine not_remarked misuse_iff ?_
      simp only [List.mem_cons, List.not_mem_nil, or_false] at he
      rcases he with rfl | rfl | rfl <;> rfl
  · refine ⟨[slippedRule, .list [slippedNegation, slippedAction]], slippedAction, _, rfl, ?_, ?_⟩
    · exact (misnaming_iff _ _).mpr ⟨_, rfl, rfl⟩
    · intro earlier he
      refine not_remarked misnaming_iff ?_
      simp only [List.mem_cons, List.not_mem_nil, or_false] at he
      rcases he with rfl | rfl <;> rfl

/-- The fault of an operation with an empty name does not give the name. -/
theorem nameless_operator_is_dropped :
    checkStructure (.object [("", .int 1)]) = .error (.unknownOperator "") ∧
    FirstRemark Misuse (preorder (.object [("", .int 1)])) ("", "Unrecognized operation ") ∧
    (Notice.ofFault? (.logic (.unknownOperator ""))).map Notice.details = some (.object []) :=
  ⟨checkNodes_eq_error.mpr ⟨[], _, [.int 1], rfl, rfl, nofun⟩,
    ⟨[], .object [("", .int 1)], [.int 1], rfl,
      @Misuse.unknown _ _ [.int 1] rfl fun op => by cases op <;> decide, nofun⟩, rfl⟩

end TriggerFlow.Rule
