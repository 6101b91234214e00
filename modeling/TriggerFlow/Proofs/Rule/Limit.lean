import TriggerFlow.Proofs.Rule.Preorder
import TriggerFlow.Proofs.Rule.Verdict

/-! # What the limit of the depth decides

The depth that is measured without a limit is that of the recursive definition, and a limit cuts the
measure off one beyond itself (`measureDepth_of_limit`).  So the check of a limit and the validation
refuse a tree for its depth exactly if the whole depth exceeds the limit, and validation says the same
of a tree for every limit that its depth is within (`validate_congr`, `validate_saysTooDeep_iff`).
Together: `measureDepth_exact`. -/

namespace TriggerFlow.Rule

open Outcome

/-- The greatest of some numbers; zero if there are none. -/
def greatest (ns : List Nat) : Nat := ns.foldr max 0

variable {tree : Value} {limit other : Int} {fault : LogicFault}

/-! ### The depth and the measure -/

theorem deepest_eq (vs : List Value) : deepest vs = greatest (vs.map depth) := by
  induction vs with
  | nil => rfl
  | cons v rest ih => rw [deepest, ih, List.map_cons, greatest, greatest, List.foldr_cons]

theorem depth_operation {symbol : String} {operands : List Value}
    (h : operation? tree = some (symbol, operands)) :
    depth tree = greatest (operands.map depth) + 1 := by
  have deeper := around_add_depth tree 0
  rw [inside, h, children_operation h, deepest_eq] at deeper
  simp only [Option.isSome_some, if_true] at deeper
  omega

theorem depth_list (items : List Value) : depth (.list items) = greatest (items.map depth) := by
  rw [depth, deepest_eq]

theorem depth_literal (h : isLiteral tree = true) : depth tree = 0 := by
  have same := around_add_depth tree 0
  rw [inside, operation?_literal h, children_literal h] at same
  simpa [deepest] using same

theorem measureDepth_of_limit (tree : Value) (limit : Int) :
    (measureDepth tree (some limit) : Int) = min (measureDepth tree none : Int) (max limit 0 + 1) := by
  rw [measureDepth_eq, measureDepth_eq, capped, capped]
  omega

/-! ### Validation within the limit -/

/-- Only the depth check looks at the limit. -/
theorem validate_congr [Levels] (h : (depth tree : Int) ≤ limit) (h' : (depth tree : Int) ≤ other) :
    validate limit tree = validate other tree := by
  have same : checkTree limit tree = checkTree other tree := by
    rw [checkTree, checkTree, checkDepth_eq_ok.mpr h, checkDepth_eq_ok.mpr h']
  cases tree with
  | object entries => rw [validate, validate, same]
  | _ => rfl

/-! ### Validation beyond the limit

No other reason of a verdict is worded like that of the depth check. -/

theorem not_saysTooDeep_admitted {symbol : String} {count : Nat}
    (h : admitted symbol count = .error fault) : ¬ SaysTooDeep fault.message := by
  apply not_saysTooDeep
  rcases admitted_eq_error.mp h with ⟨-, rfl⟩ | ⟨op, -, -, rfl⟩
  · change ("Unrecognized operation " ++ symbol).toList.take 7 ≠ _
    simp
  · change ("Operator '" ++ op.symbol ++ "' expects " ++ op.arity.text ++ " operand(s), got " ++
      toString count).toList.take 7 ≠ _
    simp

theorem not_saysTooDeep_checkStructure (h : checkStructure tree = .error fault) :
    ¬ SaysTooDeep fault.message := by
  obtain ⟨-, node, -, -, found, -⟩ := checkNodes_eq_error.mp h
  obtain ⟨symbol, operands, -, refused⟩ := operationFault?_eq_some.mp found
  exact not_saysTooDeep_admitted refused

theorem not_saysTooDeep_checkActions (h : checkActions tree = .error fault) :
    ¬ SaysTooDeep fault.message := by
  obtain ⟨-, node, -, -, found, -⟩ := checkNodes_eq_error.mp h
  obtain ⟨-, name, -, -, -, rfl⟩ := actionFault?_eq_some.mp found
  apply not_saysTooDeep
  change ("Unknown action type: " ++ name).toList.take 7 ≠ _
  simp

/-- Beyond its first word such a wording tells the two other faults of trees from it. -/
theorem not_saysTooDeep_of_take {message : String}
    (h : message.toList.take 14 ≠ "Logic tree too".toList) : ¬ SaysTooDeep message := by
  rintro ⟨l, hm⟩
  apply h
  rw [hm, message_tooDeep]
  simp

/-- The first check that a tree does not pass decides. -/
theorem checkTree_eq_error [Levels] {raised : Fault} :
    checkTree limit tree = .error raised ↔
      (∃ f, checkStructure tree = .error f ∧ .logic f = raised) ∨ checkStructure tree = .ok () ∧
        ((∃ f, checkActions tree = .error f ∧ .logic f = raised) ∨ checkActions tree = .ok () ∧
          ((∃ f, checkDepth limit tree = .error f ∧ .logic f = raised) ∨
            checkDepth limit tree = .ok () ∧ evaluate tree (.object []) = .error raised)) := by
  have passed (x : Except LogicFault Unit) : (∃ u, x = .ok u) ↔ x = .ok () := Unique.exists_iff
  simp [checkTree, bind_eq_error, mapError_eq_error, mapError_eq_ok, passed, pure, Except.pure]

theorem validate_eq_refused [Levels] {entries : Entries} {reason : String} :
    validate limit (.object entries) = .ok (.refused reason) ↔
      (∃ f, checkTree limit (.object entries) = .error (.logic f) ∧ f.message = reason) ∨
        (∃ during, checkTree limit (.object entries) = .error (.breakdown (.nestedTooDeeply during))) ∧
          "Logic tree is nested too deeply to evaluate" = reason := by
  unfold validate
  dsimp only
  split <;> simp_all

theorem validate_of_tooDeep [Levels] {entries : Entries}
    (structured : checkStructure (.object entries) = .ok ())
    (acts : checkActions (.object entries) = .ok ()) (deep : limit < depth (.object entries)) :
    validate limit (.object entries) = .ok (.refused (LogicFault.tooDeep limit).message) := by
  refine validate_eq_refused.mpr (.inl ⟨.tooDeep limit, ?_, rfl⟩)
  refine checkTree_eq_error.mpr (.inr ⟨structured, .inr ⟨acts, .inl ⟨_, ?_, rfl⟩⟩⟩)
  exact checkDepth_eq_error.mpr ⟨deep, rfl⟩

/-- What is refused as too deep has passed the checks in front and exceeds the limit. -/
theorem exceeds_of_saysTooDeep [Levels] {reason : String}
    (h : validate limit tree = .ok (.refused reason)) (worded : SaysTooDeep reason) :
    (∃ entries, tree = .object entries) ∧ checkStructure tree = .ok () ∧
      checkActions tree = .ok () ∧ limit < depth tree := by
  have other {message : String} (said : message = reason)
      (differs : message.toList.take 14 ≠ "Logic tree too".toList) : False :=
    not_saysTooDeep_of_take differs (said ▸ worded)
  cases tree with
  | object entries =>
      rcases validate_eq_refused.mp h with ⟨f, hf, rfl⟩ | ⟨-, said⟩
      · rcases checkTree_eq_error.mp hf with ⟨f', hs, ⟨⟩⟩ | ⟨hs, ⟨f', ha, ⟨⟩⟩ | ⟨ha, ⟨f', hd, ⟨⟩⟩ | ⟨-, he⟩⟩⟩
        · exact (not_saysTooDeep_checkStructure hs worded).elim
        · exact (not_saysTooDeep_checkActions ha worded).elim
        · exact ⟨⟨entries, rfl⟩, hs, ha, (checkDepth_eq_error.mp hd).1⟩
        · obtain ⟨_, _, _, -, -, raises⟩ :=
            eval_logic_fault (checkStructure_eq_ok.mp hs) (evaluate_logic_fault he)
          exact (not_saysTooDeep_raises raises worded).elim
      · exact (other said (by simp)).elim
  | _ =>
      cases h
      exact (other rfl (by simp)).elim

/-! ### The limit -/

/-- **Measured depth.**  Without a limit the depth of a tree is measured as its recursive definition
has it: an operation is one deeper than the deepest of its operands, a list as deep as the deepest of
its items, and a literal has no depth.  A limit cuts the measure off one beyond itself.  The trees
that are left may be taken in any order, of which a stack is one: every search comes to an end, with
that depth.  Hence the check of a limit refuses exactly the trees whose depth exceeds it.  So does
validation, with this reason if the tree passes the checks in front; and it says the same of a tree for
every limit that the depth is within. -/
theorem measureDepth_exact [Levels] (tree : Value) :
    (measureDepth tree none = depth tree ∧
      (∀ symbol operands, operation? tree = some (symbol, operands) →
        depth tree = greatest (operands.map depth) + 1) ∧
      (∀ items, tree = .list items → depth tree = greatest (items.map depth)) ∧
      (isLiteral tree = true → depth tree = 0)) ∧
    (∀ limit : Int,
      (measureDepth tree (some limit) : Int) = min (measureDepth tree none : Int) (max limit 0 + 1)) ∧
    (∀ limit : Option Int,
      Relation.ReflTransGen (Search.Step limit) (.of tree) (.found (measureDepth tree limit)) ∧
        TriggerFlow.Leads (Search.Step limit) (· = .found (measureDepth tree limit)) (.of tree)) ∧
    ∀ limit : Int,
      (checkDepth limit tree = .error (.tooDeep limit) ↔ limit < measureDepth tree none) ∧
      (checkDepth limit tree = .ok () ↔ (measureDepth tree none : Int) ≤ limit) ∧
      (limit < measureDepth tree none → ∃ reason, validate limit tree = .ok (.refused reason)) ∧
      (validate limit tree = .ok (.refused (LogicFault.tooDeep limit).message) ↔
        (∃ entries, tree = .object entries) ∧ checkStructure tree = .ok () ∧
          checkActions tree = .ok () ∧ limit < measureDepth tree none) ∧
      ∀ other : Int, (measureDepth tree none : Int) ≤ limit → (measureDepth tree none : Int) ≤ other →
        validate limit tree = validate other tree := by
  have whole : measureDepth tree none = depth tree := measureDepth_eq tree none
  rw [whole]
  refine ⟨⟨rfl, fun _ _ => depth_operation, ?_, depth_literal⟩, ?_, ?_, ?_⟩
  · rintro items rfl
    exact depth_list items
  · intro limit
    rw [measureDepth_of_limit, whole]
  · intro limit
    refine ⟨Search.runs_measure limit 0 [(tree, 0)], ?_⟩
    rw [measureDepth_eq]
    exact Search.leads_depth limit tree
  · intro limit
    refine ⟨?_, checkDepth_eq_ok, ?_, ⟨?_, ?_⟩, fun _ => validate_congr⟩
    · rw [checkDepth_eq_error, and_iff_left rfl]
    · intro deep
      exact validate_of_not_wellFormed fun h => absurd h.depth_le (by omega)
    · exact fun h => exceeds_of_saysTooDeep h ⟨limit, rfl⟩
    · rintro ⟨⟨entries, rfl⟩, structured, acts, deep⟩
      exact validate_of_tooDeep structured acts deep

/-- A rule whose deepest operation stands in the operand that comes first. -/
def steepRule : Value :=
  .object [("or", .list [
    .list [.object [("!", .object [("!!", .object [("var", .str "held")])])]],
    .object [("var", .str "due")]])]

theorem measureDepth_exact_steepRule :
    measureDepth steepRule none = 4 ∧ measureDepth steepRule (some 1) = 2 ∧
      measureDepth steepRule (some (-3)) = 1 ∧
      checkDepth 3 steepRule = .error (.tooDeep 3) ∧
      (∃ reason, validate 3 steepRule = .ok (.refused reason)) ∧
      validate 4 steepRule = validate 1000 steepRule := by
  obtain ⟨⟨whole, rules, -, -⟩, limited, -, decides⟩ := measureDepth_exact steepRule
  have four : measureDepth steepRule none = 4 := by
    rw [whole, rules _ _ rfl]
    decide
  have cut := limited 1
  have cut' := limited (-3)
  rw [four] at cut cut'
  obtain ⟨checked, -, refused, -, -⟩ := decides 3
  obtain ⟨-, -, -, -, alike⟩ := decides 4
  rw [four] at checked refused alike
  exact ⟨four, by omega, by omega, checked.mpr (by decide), refused (by decide),
    alike 1000 (by decide) (by decide)⟩

end TriggerFlow.Rule
