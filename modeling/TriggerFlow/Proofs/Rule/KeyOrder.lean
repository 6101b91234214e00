import TriggerFlow.Proofs.Rule.Reach
import TriggerFlow.Proofs.Value.KeyOrder

/-! # Evaluation and the order of keys

Reordered trees have in reordered contexts the same outcome up to that order: reordered values, or one
fault (`evaluate_reordered`).  Only a variable and a literal give a value with entries; every other
operator looks at what the order does not change, and so gives the very same (`compute_reordered`).  The
operands are matched one by one (`List.Forall₂`), and the relation of their outcomes is kept by each way
of combining them. -/

namespace TriggerFlow

open Outcome

/-- Two outcomes with related values, or with one and the same fault. -/
inductive Outcome.Related {ε α β : Type} (R : α → β → Prop) : Except ε α → Except ε β → Prop
  | ok {a : α} {b : β} : R a b → Related R (.ok a) (.ok b)
  | error (fault : ε) : Related R (.error fault) (.error fault)

namespace Outcome.Related

variable {ε α β γ δ : Type} {R : α → β → Prop} {S : γ → δ → Prop} {x : Except ε α} {y : Except ε β}

theorem bind {f : α → Except ε γ} {g : β → Except ε δ} (h : Related R x y)
    (next : ∀ a b, x = .ok a → R a b → Related S (f a) (g b)) :
    Related S (x >>= f) (y >>= g) := by
  cases h with
  | ok h => exact next _ _ rfl h
  | error fault => exact .error fault

theorem map {f : α → γ} {g : β → δ} (h : Related R x y) (next : ∀ a b, R a b → S (f a) (g b)) :
    Related S (x.map f) (y.map g) := by
  cases h with
  | ok h => exact .ok (next _ _ h)
  | error fault => exact .error fault

end Outcome.Related

namespace Rule

open Value

/-- Reordered values, or one and the same fault. -/
abbrev SameButOrder : Outcome → Outcome → Prop := Outcome.Related Reordered

variable {v w a b c d : Value} {vs ws : List Value} {xs ys : List Outcome} {n : Nat}

/-! ### Looking up -/

theorem getD_reordered (h : List.Forall₂ Reordered vs ws) (index : Nat) :
    (vs.getD index .null).Reordered (ws.getD index .null) := by
  induction h generalizing index with
  | nil => exact .atom rfl
  | cons head _ ih =>
      cases index with
      | zero => exact head
      | succ index => exact ih index

theorem descend_reordered (segment : String) (h : v.Reordered w) :
    Outcome.Related Reordered (descend segment v) (descend segment w) := by
  cases h with
  | @atom v hv => cases v <;> first | exact .ok (.atom rfl) | cases hv
  | object keys entries order => exact .ok (Reordered.get (.object keys entries order) segment)
  | @list items others given =>
      rw [descend, descend]
      split
      · cases readIndex segment with
        | error cause => exact .error cause
        | ok index => exact .ok (getD_reordered given index)
      · exact .ok (.atom rfl)

theorem resolve_reordered (path : List String) (h : v.Reordered w) :
    Outcome.Related Reordered (resolve v path) (resolve w path) := by
  induction path generalizing v w with
  | nil => exact .ok h
  | cons segment rest ih =>
      refine (descend_reordered segment h).bind fun next next' _ hnext => ?_
      rw [hnext.isNull_eq]
      split
      · exact .ok (.atom rfl)
      · exact ih hnext

theorem readPath_reordered (path : String) (contexts : c.Reordered d) (h : v.Reordered w) :
    SameButOrder (readPath c v path) (readPath d w path) := by
  have found := resolve_reordered (segments path) contexts
  unfold readPath
  generalize resolve c (segments path) = x, resolve d (segments path) = y at found ⊢
  cases found with
  | error cause => exact .error _
  | ok found =>
      refine .ok ?_
      rw [found.isNull_eq]
      split
      · exact h
      · exact found

theorem variableAt_reordered (contexts : c.Reordered d) (path : a.Reordered b)
    (h : v.Reordered w) : SameButOrder (variableAt c a v) (variableAt d b w) := by
  cases path with
  | @atom a ha =>
      cases a with
      | null => exact .ok contexts
      | str p =>
          rw [variableAt_str, variableAt_str]
          split
          · exact .ok contexts
          · exact readPath_reordered p contexts h
      | int i =>
          rw [variableAt_int, variableAt_int]
          split
          · exact .error _
          · exact readPath_reordered _ contexts h
      | bool | float => exact .error _
      | list | object => cases ha
  | list | object => exact .error _

/-! ### Comparing and calculating -/

theorem valuesEqual_reordered (first : a.Reordered b) (second : v.Reordered w) :
    valuesEqual a v = valuesEqual b w := by
  rw [valuesEqual, valuesEqual, first.number?_eq, second.number?_eq, first.kind_eq, second.kind_eq,
    first.same_eq second]

theorem related_reordered (r : Relation) (first : a.Reordered b) (second : v.Reordered w) :
    related r a v = related r b w := by
  cases first with
  | @atom a _ =>
      cases second with
      | atom => rfl
      | list | object => cases a <;> rfl
  | list | object => cases second <;> rfl

theorem relatedChain_reordered (r : Relation) (first : a.Reordered b) (second : v.Reordered w)
    (third : c.Reordered d) : relatedChain r a v c = relatedChain r b w d := by
  rw [relatedChain, relatedChain, related_reordered r first second,
    related_reordered r second third]

theorem equalsSome_reordered (h : v.Reordered w) (given : List.Forall₂ Reordered vs ws) :
    equalsSome v vs = equalsSome w ws := by
  induction given with
  | nil => rfl
  | cons head _ ih => rw [equalsSome, equalsSome, valuesEqual_reordered h head, ih]

theorem isMember_reordered (h : v.Reordered w) (whole : a.Reordered b) :
    isMember v a = isMember w b := by
  cases whole with
  | list given => exact equalsSome_reordered h given
  | object => rfl
  | @atom a ha =>
      cases a with
      | str s => cases h <;> rfl
      | list | object => cases ha
      | _ => rfl

theorem decided_reordered {x y : Except Breakdown Bool} (h : x = y) :
    SameButOrder (decided x) (decided y) := by
  subst h
  cases x with
  | error cause => exact .error _
  | ok b => exact .ok (.atom rfl)

theorem numbers_reordered (op : Operator) (given : List.Forall₂ Reordered vs ws) :
    numbers op vs = numbers op ws := by
  induction given with
  | nil => rfl
  | cons head _ ih => rw [numbers, numbers, head.number?_eq, head.kind_eq, ih]

theorem arithmetic_atom {op : Operator} (h : arithmetic op vs = .ok v) : v.nesting = 0 := by
  unfold arithmetic at h
  split at h
  · cases h
    rfl
  · simp only [bind_eq_ok, pure_eq_ok] at h
    obtain ⟨_, -, _, -, x, -, rfl⟩ := h
    rfl

theorem arithmetic_reordered (op : Operator) (given : List.Forall₂ Reordered vs ws) :
    SameButOrder (arithmetic op vs) (arithmetic op ws) := by
  have missing : vs.any isNull = ws.any isNull := by
    induction given with
    | nil => rfl
    | cons head _ ih => rw [List.any_cons, List.any_cons, head.isNull_eq, ih]
  have same : arithmetic op vs = arithmetic op ws := by
    rw [arithmetic, arithmetic, missing, numbers_reordered op given]
  rw [same]
  cases h : arithmetic op ws with
  | error fault => exact .error fault
  | ok v => exact .ok (.atom (arithmetic_atom h))

/-! ### Operators -/

theorem exists_pair (count : vs.length = 2) (given : List.Forall₂ Reordered vs ws) :
    ∃ a b v w, vs = [a, v] ∧ ws = [b, w] ∧ a.Reordered b ∧ v.Reordered w := by
  obtain ⟨a, v, rfl⟩ := List.length_eq_two.mp count
  obtain ⟨b, w, rfl⟩ := List.length_eq_two.mp (given.length_eq ▸ count)
  obtain _ | ⟨first, _ | ⟨second, -⟩⟩ := given
  exact ⟨a, b, v, w, rfl, rfl, first, second⟩

theorem compute_variable_reordered (count : Operator.variable.arity.admits vs.length = true)
    (contexts : c.Reordered d) (given : List.Forall₂ Reordered vs ws) :
    SameButOrder (compute .variable c vs) (compute .variable d ws) := by
  rcases given with _ | ⟨path, _ | ⟨fallback, _ | _⟩⟩
  · exact variableAt_reordered contexts (.atom (v := .str "") rfl) (.atom (v := .null) rfl)
  · exact variableAt_reordered contexts path (.atom rfl)
  · exact variableAt_reordered contexts path fallback
  · have := (Arity.admits_iff.mp count).2
    simp only [List.length_cons] at this
    omega

theorem compute_chain_reordered {op : Operator} {r : Relation}
    (two : ∀ c a v, compute op c [a, v] = decided (related r a v))
    (three : ∀ c a v w, compute op c [a, v, w] = decided (relatedChain r a v w))
    (count : 2 ≤ vs.length ∧ vs.length ≤ 3) (given : List.Forall₂ Reordered vs ws) :
    SameButOrder (compute op c vs) (compute op d ws) := by
  rcases given with _ | ⟨first, _ | ⟨second, _ | ⟨third, _ | _⟩⟩⟩ <;>
    simp only [List.length_cons, List.length_nil] at count
  · omega
  · omega
  · rw [two, two]
    exact decided_reordered (related_reordered r first second)
  · rw [three, three]
    exact decided_reordered (relatedChain_reordered r first second third)
  · omega

theorem compute_reordered {op : Operator} (hl : op.isLazy = false)
    (count : op.arity.admits vs.length = true) (contexts : c.Reordered d)
    (given : List.Forall₂ Reordered vs ws) :
    SameButOrder (compute op c vs) (compute op d ws) := by
  by_cases ha : op.isArithmetic = true
  · rw [compute_of_isArithmetic ha, compute_of_isArithmetic ha]
    exact arithmetic_reordered op given
  · cases op with
    | «variable» => exact compute_variable_reordered count contexts given
    | equal | identical =>
        obtain ⟨_, _, _, _, rfl, rfl, first, second⟩ := exists_pair (Arity.eq_of_admits count) given
        exact decided_reordered (valuesEqual_reordered first second)
    | unequal | notIdentical =>
        obtain ⟨_, _, _, _, rfl, rfl, first, second⟩ := exists_pair (Arity.eq_of_admits count) given
        exact decided_reordered (congrArg _ (valuesEqual_reordered first second))
    | above | atLeast =>
        obtain ⟨_, _, _, _, rfl, rfl, first, second⟩ := exists_pair (Arity.eq_of_admits count) given
        exact decided_reordered (related_reordered _ first second)
    | below =>
        exact compute_chain_reordered (fun _ _ _ => rfl) (fun _ _ _ _ => rfl)
          (Arity.admits_iff.mp count) given
    | atMost =>
        exact compute_chain_reordered (fun _ _ _ => rfl) (fun _ _ _ _ => rfl)
          (Arity.admits_iff.mp count) given
    | member =>
        obtain ⟨_, _, _, _, rfl, rfl, first, second⟩ := exists_pair (Arity.eq_of_admits count) given
        exact decided_reordered (isMember_reordered first second)
    | notMember =>
        obtain ⟨_, _, _, _, rfl, rfl, first, second⟩ := exists_pair (Arity.eq_of_admits count) given
        exact decided_reordered (congrArg _ (isMember_reordered first second))
    | negation | truth =>
        obtain ⟨v, rfl⟩ := List.length_eq_one_iff.mp (Arity.eq_of_admits count)
        obtain _ | ⟨only, _ | _⟩ := given
        rw [compute, compute, only.truthy_eq]
        exact .ok (.atom rfl)
    | conjunction | disjunction | conditional | ternary => cases hl
    | sum | difference | product | quotient | remainder | minimum | maximum => exact (ha rfl).elim

theorem collect_reordered (h : List.Forall₂ SameButOrder xs ys) :
    Outcome.Related (List.Forall₂ Reordered) (collect xs) (collect ys) := by
  induction h with
  | nil => exact .ok .nil
  | cons head _ ih => exact head.bind fun _ _ _ hv => ih.bind fun _ _ _ hvs => .ok (.cons hv hvs)

theorem firstWhere_reordered {settles : Value → Bool}
    (hsettles : ∀ v w, v.Reordered w → settles v = settles w)
    (h : List.Forall₂ SameButOrder xs ys) :
    SameButOrder (firstWhere settles xs) (firstWhere settles ys) := by
  induction h with
  | nil => exact .ok (.atom rfl)
  | cons head tail ih =>
      cases tail with
      | nil => exact head
      | cons next rest =>
          refine head.bind fun v w _ hv => ?_
          rw [hsettles v w hv]
          split
          · exact .ok hv
          · exact ih

theorem choose_reordered (h : List.Forall₂ SameButOrder xs ys) :
    SameButOrder (choose xs) (choose ys) := by
  induction xs using choose.induct generalizing ys with
  | case1 =>
      cases h
      exact .ok (.atom rfl)
  | case2 otherwise =>
      cases h with
      | cons head tail =>
          cases tail
          exact head
  | case3 condition chosen rest ih =>
      obtain _ | ⟨head, _ | ⟨next, others⟩⟩ := h
      refine head.bind fun v w _ hv => ?_
      rw [hv.truthy_eq]
      split
      · exact next
      · exact ih others

theorem apply_reordered {op : Operator} (count : op.arity.admits xs.length = true)
    (contexts : c.Reordered d) (h : List.Forall₂ SameButOrder xs ys) :
    SameButOrder (op.apply c xs) (op.apply d ys) := by
  cases hl : op.isLazy with
  | true =>
      cases op <;> cases hl
      · exact firstWhere_reordered (fun _ _ hv => by rw [hv.truthy_eq]) h
      · exact firstWhere_reordered (fun _ _ => Reordered.truthy_eq) h
      · exact choose_reordered h
      · exact choose_reordered h
  | false =>
      rw [op.apply_of_strict hl, op.apply_of_strict hl]
      refine (collect_reordered h).bind fun vs ws hvs given => ?_
      rw [collect_eq_ok.mp hvs, List.length_map] at count
      exact compute_reordered hl count contexts given

theorem copyWithin_reordered (n : Nat) (h : v.Reordered w) :
    SameButOrder (copyWithin n v) (copyWithin n w) := by
  rw [copyWithin, copyWithin, h.nesting_eq]
  split
  · exact .error _
  · exact .ok h

theorem operateWithin_reordered (symbol : String) (contexts : c.Reordered d)
    (h : List.Forall₂ SameButOrder xs ys) :
    SameButOrder (operateWithin c symbol n xs) (operateWithin d symbol n ys) := by
  refine Outcome.Related.bind (R := Reordered) ?_ fun v w _ hv => ?_
  · rw [operate, operate, ← h.length_eq]
    rcases ha : admitted symbol xs.length with fault | op
    · exact .error _
    · exact apply_reordered (admitted_eq_ok.mp ha).2 contexts h
  · split
    · exact copyWithin_reordered n hv
    · exact .ok hv

/-! ### Trees -/

theorem operandsOf_reordered (h : v.Reordered w) :
    List.Forall₂ Reordered (operandsOf v) (operandsOf w) := by
  cases h with
  | @atom v hv => cases v <;> first | exact .cons (.atom rfl) .nil | cases hv
  | list items => exact items
  | object keys entries order => exact .cons (.object keys entries order) .nil

/-- Reordered trees are the same kind of node, with the same symbol if they are operations. -/
theorem operation?_reordered (h : v.Reordered w) {symbol : String}
    (ho : operation? v = some (symbol, vs)) :
    ∃ ws, operation? w = some (symbol, ws) ∧ List.Forall₂ Reordered vs ws := by
  obtain ⟨operand, rfl, rfl⟩ := operation?_eq_some.mp ho
  cases h with
  | atom h => cases h
  | object keys entries order =>
      obtain _ | ⟨⟨first⟩, _ | _⟩ := entries
      cases List.singleton_perm.mp order
      exact ⟨_, rfl, operandsOf_reordered first⟩

theorem isLiteral_reordered (h : v.Reordered w) (hl : isLiteral v = true) : isLiteral w = true := by
  rcases node_cases w with ⟨items, rfl⟩ | ⟨symbol, operands, ho⟩ | hw
  · cases h with
    | atom => exact hl
    | list => cases hl
  · obtain ⟨operand, rfl, -⟩ := operation?_eq_some.mp ho
    cases h with
    | atom => exact hl
    | object keys entries order =>
        -- Reordering keeps the number of entries.
        cases List.perm_singleton.mp order
        obtain _ | ⟨_, _ | _⟩ := entries
        cases hl
  · exact hw

theorem map_reordered {f g : Value → Outcome} (given : List.Forall₂ Reordered vs ws)
    (h : ∀ v ∈ vs, ∀ w, v.Reordered w → SameButOrder (f v) (g w)) :
    List.Forall₂ SameButOrder (vs.map f) (ws.map g) := by
  induction given with
  | nil => exact .nil
  | cons head _ ih =>
      obtain ⟨first, rest⟩ := List.forall_mem_cons.mp h
      exact .cons (first _ head) (ih rest)

theorem stepDown_reordered {f g : Nat → Outcome} (h : ∀ n, SameButOrder (f n) (g n)) :
    SameButOrder (stepDown n f) (stepDown n g) := by
  cases n with
  | zero => exact .error _
  | succ n => exact h n

/-- Within any steps, reordered trees have the same outcome up to the order of keys. -/
theorem evalWithin_reordered {t t' : Value} (contexts : c.Reordered d) (trees : t.Reordered t') :
    SameButOrder (evalWithin c n t) (evalWithin d n t') := by
  induction t using tree_induction generalizing t' n with
  | list items ih =>
      cases trees with
      | atom h => cases h
      | list given =>
          rw [evalWithin_list, evalWithin_list]
          refine stepDown_reordered fun n => ?_
          have outcomes := map_reordered given fun item hi _ => ih item hi (n := n)
          exact (collect_reordered outcomes).map fun _ _ => .list
  | operation t symbol operands ht ih =>
      obtain ⟨operands', ht', given⟩ := operation?_reordered trees ht
      rw [evalWithin_operation ht, evalWithin_operation ht']
      refine stepDown_reordered fun n => ?_
      exact operateWithin_reordered symbol contexts
        (map_reordered given fun operand ho _ => ih operand ho (n := n))
  | literal t hl =>
      rw [evalWithin_literal hl, evalWithin_literal (isLiteral_reordered trees hl)]
      exact copyWithin_reordered n trees

theorem contextOf_reordered (h : c.Reordered d) : (contextOf c).Reordered (contextOf d) := by
  cases h with
  | @atom c hc => cases c <;> first | exact .object .nil .nil .nil | exact .atom hc
  | list given => exact .list given
  | object keys entries order => exact .object keys entries order

/-- **The order of keys does not matter.**  For trees and contexts that are the same up to the order of
the keys in their objects, evaluation gives values that are the same up to that order, or fails with the
same fault. -/
theorem evaluate_reordered [Levels] {t t' c c' : Value} (trees : t.Reordered t') (contexts : c.Reordered c') :
    (∃ v v', evaluate t c = .ok v ∧ evaluate t' c' = .ok v' ∧ v.Reordered v') ∨
      ∃ fault, evaluate t c = .error fault ∧ evaluate t' c' = .error fault := by
  rw [evaluate_eq_evalWithin, evaluate_eq_evalWithin]
  have same : SameButOrder (evalWithin (contextOf c) stepLimit t)
      (evalWithin (contextOf c') stepLimit t') :=
    evalWithin_reordered (contextOf_reordered contexts) trees
  generalize evalWithin (contextOf c) stepLimit t = x,
    evalWithin (contextOf c') stepLimit t' = y at same ⊢
  cases same with
  | ok h => exact .inl ⟨_, _, rfl, rfl, h⟩
  | error fault => exact .inr ⟨fault, rfl, rfl⟩

/-! ### A rule written twice -/

/-- Whether an order is one of a customer. -/
def isCustomer (customer : Entries) : Value :=
  .object [("==", .list [.object [("var", .str "customer")], .object customer])]

/-- Decides on an action for the orders of one customer. -/
def customerRule (customer action : Entries) : Value :=
  .object [("if", .list [isCustomer customer, .object action])]

/-- An order of a customer. -/
def customerOrder (customer : Entries) : Value := .object [("customer", .object customer)]

def polishCustomer : Entries := [("country", .str "PL"), ("vip", .bool true)]

def plainApproval : Entries := [("action", .str "AUTO_APPROVE"), ("config", .object [])]

theorem wellKeyed_polishCustomer : (Value.object polishCustomer).WellKeyed := by
  refine wellKeyed_object (by decide) fun e he => wellKeyed_of_nesting_zero ?_
  simp only [polishCustomer, List.mem_cons, List.not_mem_nil, or_false] at he
  rcases he with rfl | rfl <;> rfl

theorem wellKeyed_plainApproval : (Value.object plainApproval).WellKeyed := by
  refine wellKeyed_object (by decide) fun e he => ?_
  simp only [plainApproval, List.mem_cons, List.not_mem_nil, or_false] at he
  rcases he with rfl | rfl
  · exact wellKeyed_of_nesting_zero rfl
  · exact wellKeyed_object List.nodup_nil nofun

theorem reordered_single (key : String) (h : v.Reordered w) :
    (Value.object [(key, v)]).Reordered (.object [(key, w)]) :=
  .object (by simp) (.cons (.entry h) .nil) (.refl _)

theorem customerRule_reordered {us us' vs vs' : Entries}
    (customers : (Value.object us).Reordered (.object us'))
    (actions : (Value.object vs).Reordered (.object vs')) :
    (customerRule us vs).Reordered (customerRule us' vs') := by
  have read := reordered_single "var" (.atom (v := .str "customer") rfl)
  have condition := reordered_single "==" (.list (.cons read (.cons customers .nil)))
  exact reordered_single "if" (.list (.cons condition (.cons actions .nil)))

theorem evaluate_reordered_customerRule :
    (customerRule polishCustomer plainApproval).Reordered
        (customerRule polishCustomer.reverse plainApproval.reverse) ∧
      (customerOrder polishCustomer).Reordered (customerOrder polishCustomer.reverse) ∧
      evaluate (customerRule polishCustomer plainApproval) (customerOrder polishCustomer) =
        .ok (.object plainApproval) ∧
      ∃ v, evaluate (customerRule polishCustomer.reverse plainApproval.reverse)
          (customerOrder polishCustomer.reverse) = .ok v ∧
        (Value.object plainApproval).Reordered v := by
  have customers := wellKeyed_polishCustomer.reordered_perm (List.reverse_perm _).symm
  have actions := wellKeyed_plainApproval.reordered_perm (List.reverse_perm _).symm
  have trees := customerRule_reordered customers actions
  have contexts : (customerOrder polishCustomer).Reordered (customerOrder polishCustomer.reverse) :=
    reordered_single "customer" customers
  have approved : evaluate (customerRule polishCustomer plainApproval)
      (customerOrder polishCustomer) = .ok (.object plainApproval) := by
    have read : eval (customerOrder polishCustomer) (.object [("var", .str "customer")]) =
        .ok (.object polishCustomer) := rfl
    have equal : eval (customerOrder polishCustomer) (isCustomer polishCustomer) =
        .ok (.bool true) := by
      change operate _ "==" [eval _ _, eval _ _] = _
      rw [read]
      rfl
    rw [evaluate_eq, if_neg (by decide +kernel)]
    change choose [eval (customerOrder polishCustomer) (isCustomer polishCustomer), eval _ _] = _
    rw [equal]
    rfl
  refine ⟨trees, contexts, approved, ?_⟩
  rcases evaluate_reordered trees contexts with ⟨v, v', hv, hv', same⟩ | ⟨fault, hv, -⟩
  · cases approved.symm.trans hv
    exact ⟨v', hv', same⟩
  · cases approved.symm.trans hv

end Rule

end TriggerFlow
