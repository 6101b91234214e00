import TriggerFlow.Proofs.Rule.Reach
import TriggerFlow.Proofs.Value.Reread

/-! # What evaluation reads

Only a variable reads the context, and what it gives depends on the part of the context at its path
alone (`variableAt_alike`).  If every variable of a tree names its path (`NamesPaths`), two contexts
that give the same at each of these paths therefore give the same outcome of the tree, whatever else
is in them: `evaluate_reads_named_paths`. -/

namespace TriggerFlow.Rule

open Outcome

/-! ### Named paths -/

/-- The path that is named by the operands of a variable.  Without operands it is the whole
context. -/
def namedPath? : List Value → Option Value
  | [] => some (.str "")
  | .str p :: _ => some (.str p)
  | .int n :: _ => some (.int n)
  | .null :: _ => some .null
  | _ => none

/-- Every variable in the tree names its path. -/
def NamesPaths (tree : Value) : Prop :=
  ∀ node operands, Occurs node tree → operation? node = some ("var", operands) →
    ∃ path, namedPath? operands = some path

/-- A variable in the tree names the path. -/
def Names (tree path : Value) : Prop :=
  ∃ node operands, Occurs node tree ∧ operation? node = some ("var", operands) ∧
    namedPath? operands = some path

/-- The variable of a path. -/
def variableOf (path : Value) : Value := .object [("var", .list [path])]

theorem operation?_variableOf (path : Value) :
    operation? (variableOf path) = some ("var", [path]) := rfl

/-! ### Results that cannot be told apart -/

/-- The same outcomes, or two values of which a copy takes more steps than there are. -/
def Alike (m : Nat) (x y : Outcome) : Prop :=
  x = y ∨ ∃ v w, x = .ok v ∧ y = .ok w ∧ m < v.nesting ∧ m < w.nesting

variable {m n : Nat} {x y : Outcome} {c₁ c₂ path : Value}

theorem Alike.copyWithin_eq (h : Alike m x y) (hn : n ≤ m) :
    (x >>= copyWithin n) = (y >>= copyWithin n) := by
  rcases h with rfl | ⟨v, w, rfl, rfl, hv, hw⟩
  · rfl
  · change copyWithin n v = copyWithin n w
    rw [copyWithin, copyWithin, if_pos (by omega), if_pos (by omega)]

theorem copyWithin_cases (m : Nat) (v : Value) :
    (v.nesting ≤ m ∧ copyWithin m v = .ok v) ∨
      (m < v.nesting ∧ copyWithin m v = exhausted .copying) := by
  rcases Nat.lt_or_ge m v.nesting with few | enough
  · exact .inr ⟨few, if_pos few⟩
  · exact .inl ⟨enough, if_neg (Nat.not_lt.mpr enough)⟩

/-- Copies of outcomes that are not exhausted themselves tell them apart as far as that is
possible. -/
theorem alike_of_copyWithin_eq (hx : ∀ during, x ≠ exhausted during)
    (hy : ∀ during, y ≠ exhausted during)
    (h : (x >>= copyWithin m) = (y >>= copyWithin m)) : Alike m x y := by
  cases x with
  | error e =>
      cases y with
      | error f => exact .inl h
      | ok w =>
          change .error e = copyWithin m w at h
          rcases copyWithin_cases m w with ⟨-, hw⟩ | ⟨-, hw⟩
          · cases h.trans hw
          · exact absurd (h.trans hw) (hx .copying)
  | ok v =>
      cases y with
      | error f =>
          change copyWithin m v = .error f at h
          rcases copyWithin_cases m v with ⟨-, hv⟩ | ⟨-, hv⟩
          · cases hv.symm.trans h
          · exact absurd (h.symm.trans hv) (hy .copying)
      | ok w =>
          change copyWithin m v = copyWithin m w at h
          rcases copyWithin_cases m v with ⟨-, hv⟩ | ⟨deep, hv⟩ <;>
            rcases copyWithin_cases m w with ⟨-, hw⟩ | ⟨deep', hw⟩ <;> rw [hv, hw] at h
          · exact .inl h
          · cases h
          · cases h
          · exact .inr ⟨v, w, rfl, rfl, deep, deep'⟩

/-! ### Reading -/

theorem resolve_ne_tooDeep {v : Value} {path : List String} {during : Descent} :
    resolve v path ≠ .error (.nestedTooDeeply during) := by
  induction path generalizing v with
  | nil => nofun
  | cons segment rest ih =>
      intro h
      rcases bind_eq_error.mp h with h | ⟨next, -, h⟩
      · cases v with
        | list items =>
            rw [descend] at h
            split at h
            · rcases bind_eq_error.mp h with h | ⟨index, -, h⟩
              · rw [readIndex] at h
                split at h
                · cases h
                · split at h <;> cases h
              · cases h
            · cases h
        | _ => cases h
      · split at h
        · cases h
        · exact ih h

theorem readPath_ne_exhausted {context fallback : Value} {path : String} {during : Descent} :
    readPath context fallback path ≠ exhausted during := by
  unfold readPath exhausted
  split
  · nofun
  · rename_i hr
    rintro ⟨⟩
    exact resolve_ne_tooDeep hr

theorem variableAt_ne_exhausted {context fallback : Value} {during : Descent} :
    variableAt context path fallback ≠ exhausted during := by
  cases path with
  | str p =>
      rw [variableAt_str]
      split
      · nofun
      · exact readPath_ne_exhausted
  | int i =>
      rw [variableAt_int]
      split
      · nofun
      · exact readPath_ne_exhausted
  | _ => nofun

/-- The default takes the place of null. -/
theorem readPath_eq (context fallback : Value) (path : String) :
    readPath context fallback path =
      (readPath context .null path).map fun v => if v.isNull then fallback else v := by
  unfold readPath
  split
  · rename_i v _
    cases v <;> rfl
  · rfl

theorem readPath_alike {p : String} (fallback : Value)
    (h : Alike m (readPath c₁ .null p) (readPath c₂ .null p)) :
    Alike m (readPath c₁ fallback p) (readPath c₂ fallback p) := by
  rw [readPath_eq c₁ fallback, readPath_eq c₂ fallback]
  rcases h with heq | ⟨v, w, hv, hw, deep, deep'⟩
  · exact .inl (by rw [heq])
  · rw [hv, hw]
    -- What is too deep to be copied is not null.
    cases v with
    | list | object =>
        cases w with
        | list | object => exact .inr ⟨_, _, rfl, rfl, deep, deep'⟩
        | _ => exact absurd deep' (Nat.not_lt_zero m)
    | _ => exact absurd deep (Nat.not_lt_zero m)

/-- Two contexts that are alike at a path are alike there whatever the default is. -/
theorem variableAt_alike (fallback : Value)
    (h : Alike m (variableAt c₁ path .null) (variableAt c₂ path .null)) :
    Alike m (variableAt c₁ path fallback) (variableAt c₂ path fallback) := by
  cases path with
  | str p =>
      rw [variableAt_str, variableAt_str] at h ⊢
      split
      · rwa [if_pos ‹_›, if_pos ‹_›] at h
      · rw [if_neg ‹_›, if_neg ‹_›] at h
        exact readPath_alike fallback h
  | int i =>
      rw [variableAt_int, variableAt_int] at h ⊢
      split
      · exact .inl rfl
      · rw [if_neg ‹_›, if_neg ‹_›] at h
        exact readPath_alike fallback h
  | null => exact h
  | _ => exact .inl rfl

/-! ### Operations -/

variable {symbol : String} {operands : List Value}

/-- No other operator looks at the context. -/
theorem apply_eq_of_ne_variable {op : Operator} (h : op ≠ .variable) (outcomes : List Outcome) :
    op.apply c₁ outcomes = op.apply c₂ outcomes := by
  cases hl : op.isLazy with
  | true => cases op <;> first | rfl | cases hl
  | false =>
      have same : compute op c₁ = compute op c₂ := by
        funext vs
        unfold compute
        split <;> first | rfl | exact absurd rfl h
      rw [op.apply_of_strict hl, op.apply_of_strict hl, same]

theorem eval_path (h : namedPath? operands = some path) (context : Value) :
    eval context path = .ok path := by
  unfold namedPath? at h
  split at h <;> cases h <;> exact eval_literal context rfl

theorem evalWithin_path (h : namedPath? operands = some path) (context : Value) (n : Nat) :
    evalWithin context n path = .ok path := by
  unfold namedPath? at h
  split at h <;> cases h <;> exact evalWithin_literal rfl

theorem head_of_namedPath? {v : Value} (h : namedPath? (v :: operands) = some path) : v = path := by
  unfold namedPath? at h
  split at h <;> cases h <;> simp_all

/-- An operation on the same outcomes gives the same in two contexts that are alike at the path that
it names, if it is a variable. -/
theorem operateWithin_eq {f : Value → Outcome} (hn : n ≤ m)
    (reads : symbol = "var" → ∃ path, namedPath? operands = some path ∧ f path = .ok path ∧
      Alike m (variableAt c₁ path .null) (variableAt c₂ path .null)) :
    operateWithin c₁ symbol n (operands.map f) = operateWithin c₂ symbol n (operands.map f) := by
  rcases ha : admitted symbol (operands.map f).length with fault | op
  · rw [operateWithin_of_error ha, operateWithin_of_error ha]
  rw [operateWithin_of_ok ha, operateWithin_of_ok ha]
  by_cases hv : op = .variable
  · subst hv
    obtain ⟨hsymbol, count⟩ := admitted_eq_ok.mp ha
    obtain ⟨path, named, hpath, alike⟩ := reads (ofSymbol?_eq_some hsymbol).symm
    rw [if_pos rfl, if_pos rfl]
    match operands with
    | [] =>
        cases named
        exact alike.copyWithin_eq hn
    | [v] =>
        cases head_of_namedPath? named
        rw [List.map_singleton, hpath]
        exact alike.copyWithin_eq hn
    | [v, fallback] =>
        cases head_of_namedPath? named
        rw [List.map_cons, List.map_singleton, hpath]
        cases f fallback with
        | error fault => rfl
        | ok d => exact (variableAt_alike d alike).copyWithin_eq hn
    | _ :: _ :: _ :: rest =>
        have := (Arity.admits_iff.mp count).2
        simp only [List.map_cons, List.length_cons] at this
        omega
  · rw [if_neg hv, if_neg hv, apply_eq_of_ne_variable hv]

/-! ### Trees -/

variable {tree : Value}

/-- Within any steps, two contexts that are alike at the named paths give the same. -/
theorem evalWithin_congr (named : NamesPaths tree)
    (alike : ∀ path, Names tree path →
      Alike m (variableAt c₁ path .null) (variableAt c₂ path .null)) (hn : n ≤ m + 1) :
    evalWithin c₁ n tree = evalWithin c₂ n tree := by
  induction tree using tree_induction generalizing n with
  | list items ih =>
      cases n with
      | zero => rw [evalWithin_list, evalWithin_list]; rfl
      | succ n =>
          have same : items.map (evalWithin c₁ n) = items.map (evalWithin c₂ n) :=
            List.map_congr_left fun item hi =>
              ih item hi (fun node operands hnode => named node operands (hnode.item hi))
                (fun path ⟨node, operands, hnode, rest⟩ =>
                  alike path ⟨node, operands, hnode.item hi, rest⟩) (by omega)
          rw [evalWithin_list, evalWithin_list, stepDown, stepDown, same]
  | operation tree symbol operands ht ih =>
      cases n with
      | zero => rw [evalWithin_operation ht, evalWithin_operation ht]; rfl
      | succ n =>
          have same : operands.map (evalWithin c₁ n) = operands.map (evalWithin c₂ n) :=
            List.map_congr_left fun operand ho =>
              ih operand ho (fun node operands hnode => named node operands (hnode.operand ht ho))
                (fun path ⟨node, operands, hnode, rest⟩ =>
                  alike path ⟨node, operands, hnode.operand ht ho, rest⟩) (by omega)
          rw [evalWithin_operation ht, evalWithin_operation ht, stepDown, stepDown, ← same]
          refine operateWithin_eq (Nat.le_of_succ_le_succ hn) ?_
          rintro rfl
          obtain ⟨path, hpath⟩ := named tree operands .here ht
          exact ⟨path, hpath, evalWithin_path hpath c₁ n, alike path ⟨tree, operands, .here, ht, hpath⟩⟩
  | literal tree hl => rw [evalWithin_literal hl, evalWithin_literal hl]

theorem evalWithin_variableOf (h : namedPath? operands = some path) (context : Value) (n : Nat) :
    evalWithin context (n + 1) (variableOf path) =
      (variableAt context path .null >>= copyWithin n) := by
  rw [evalWithin_operation (operation?_variableOf path), stepDown, List.map_singleton,
    evalWithin_path h, operateWithin_of_ok rfl, if_pos rfl]
  rfl

theorem eval_variableOf (h : namedPath? operands = some path) (context : Value) :
    eval context (variableOf path) = variableAt context path .null := by
  rw [eval_operation context (operation?_variableOf path), List.map_singleton, eval_path h]
  rfl

theorem alike_of_evaluate_eq [Levels] (h : namedPath? operands = some path)
    (same : evaluate (variableOf path) c₁ = evaluate (variableOf path) c₂) :
    Alike (stepLimit - 1) (variableAt (contextOf c₁) path .null)
      (variableAt (contextOf c₂) path .null) := by
  rw [evaluate_eq_evalWithin, evaluate_eq_evalWithin, stepLimit_eq, evalWithin_variableOf h,
    evalWithin_variableOf h] at same
  exact alike_of_copyWithin_eq (fun _ => variableAt_ne_exhausted)
    (fun _ => variableAt_ne_exhausted) same

/-- **Evaluation reads what the tree names.**  If every variable of a tree names its path, two contexts
in which each of these paths gives the same outcome, with the same not-a-numbers, give the same outcome
of the tree; so they do if no limit is set to the levels.  A tree without variables has one outcome in
all contexts. -/
theorem evaluate_reads_named_paths [Levels] :
    (∀ tree c₁ c₂, NamesPaths tree →
      (∀ path, Names tree path → evaluate (variableOf path) c₁ = evaluate (variableOf path) c₂) →
        evaluate tree c₁ = evaluate tree c₂) ∧
    (∀ tree c₁ c₂, NamesPaths tree →
      (∀ path, Names tree path → eval c₁ (variableOf path) = eval c₂ (variableOf path)) →
        eval c₁ tree = eval c₂ tree) ∧
    (∀ tree, (∀ node operands, Occurs node tree → operation? node ≠ some ("var", operands)) →
      ∀ c₁ c₂, evaluate tree c₁ = evaluate tree c₂) := by
  have limited : ∀ tree c₁ c₂, NamesPaths tree →
      (∀ path, Names tree path → evaluate (variableOf path) c₁ = evaluate (variableOf path) c₂) →
        evaluate tree c₁ = evaluate tree c₂ := by
    intro tree c₁ c₂ named same
    rw [evaluate_eq_evalWithin, evaluate_eq_evalWithin]
    refine evalWithin_congr named (fun path hp => ?_) (Nat.le_of_eq stepLimit_eq)
    have ⟨_, _, _, _, hnamed⟩ := hp
    exact alike_of_evaluate_eq hnamed (same path hp)
  refine ⟨limited, ?_, ?_⟩
  · intro tree c₁ c₂ named same
    let n := max (reach Value.nesting c₁ tree) (reach Value.nesting c₂ tree)
    rw [← (evalWithin_suits tree).enough (Nat.le_max_left _ _ : _ ≤ n),
      ← (evalWithin_suits tree).enough (Nat.le_max_right _ _ : _ ≤ n)]
    refine evalWithin_congr (m := n) named (fun path hp => .inl ?_) (Nat.le_succ n)
    have ⟨_, _, _, _, hnamed⟩ := hp
    rw [← eval_variableOf hnamed, ← eval_variableOf hnamed]
    exact same path hp
  · intro tree none c₁ c₂
    refine limited tree c₁ c₂ ?_ ?_
    · exact fun node operands hn ho => absurd ho (none node operands hn)
    · rintro path ⟨node, operands, hn, ho, -⟩
      exact absurd ho (none node operands hn)

/-- Urgent orders go to a reviewer, or to the team if there is none. -/
def reviewingRule : Value :=
  .object [("if", .list [
    .object [("var", .list [.str "order.urgent", .bool false])],
    .object [("var", .list [.str "reviewer", .object [("var", .str "team")]])],
    .object [("action", .str "AUTO_APPROVE"), ("config", .object [])]])]

/-- An urgent order. -/
def urgentOrder : Value :=
  .object [("team", .str "north"), ("order", .object [("urgent", .bool true)])]

/-- The same order with data that the rule does not ask for.  The reviewer is there, but null. -/
def notedOrder : Value :=
  .object [("order", .object [("urgent", .bool true), ("note", .str "fragile")]),
    ("reviewer", .null), ("channel", .str "web"), ("team", .str "north")]

theorem evaluate_reads_named_paths_reviewingRule :
    evaluate reviewingRule urgentOrder = .ok (.str "north") ∧
      evaluate reviewingRule urgentOrder = evaluate reviewingRule notedOrder := by
  have paths : ∀ node operands, Occurs node reviewingRule →
      operation? node = some ("var", operands) →
        operands = [.str "order.urgent", .bool false] ∨
          operands = [.str "reviewer", .object [("var", .str "team")]] ∨
            operands = [.str "team"] := by
    intro node operands visited ho
    have hw : node ∈ walk [reviewingRule] := mem_walk.mpr ⟨_, List.mem_singleton_self _, visited⟩
    simp only [reviewingRule, walk, children, operandsOf, List.reverse_cons, List.reverse_nil,
      List.nil_append, List.cons_append, List.mem_cons, List.not_mem_nil, or_false] at hw
    rcases hw with rfl | rfl | rfl | rfl | rfl | rfl | rfl | rfl | rfl <;>
      simp [operation?, operandsOf] at ho ⊢ <;> simp [← ho]
  have named : NamesPaths reviewingRule := by
    intro node operands visited ho
    rcases paths node operands visited ho with rfl | rfl | rfl <;> exact ⟨_, rfl⟩
  refine ⟨by rw [evaluate_eq, if_neg (by decide +kernel)]; rfl,
    evaluate_reads_named_paths.1 reviewingRule urgentOrder notedOrder named ?_⟩
  rintro path ⟨node, operands, visited, ho, hp⟩
  rcases paths node operands visited ho with rfl | rfl | rfl <;> cases hp <;>
    rw [evaluate_eq, if_neg (by decide +kernel), evaluate_eq, if_neg (by decide +kernel)] <;> rfl

/-- Whether two places of a context hold equal data. -/
def comparingRule : Value :=
  .object [("==", .list [.object [("var", .str "sizes.0")], .object [("var", .str "sizes.00")]])]

/-- A list, of which both places are the first one. -/
def listedSizes : Value := .object [("sizes", .list [.list [.float (.nan (some 0))]])]

/-- An object with two entries, whose not-a-numbers are two objects. -/
def keyedSizes : Value :=
  .object [("sizes", .object
    [("0", .list [.float (.nan (some 0))]), ("00", .list [.float (.nan (some 1))])])]

/-- What the variables of a tree give may look the same in two contexts and yet make a difference:
a list is equal to one that looks the same if they share their not-a-numbers. -/
theorem comparingRule_tells_objects :
    NamesPaths comparingRule ∧
      (∀ path, Names comparingRule path →
        (evaluate (variableOf path) listedSizes).map Value.reread =
          (evaluate (variableOf path) keyedSizes).map Value.reread) ∧
      evaluate comparingRule listedSizes = .ok (.bool true) ∧
      evaluate comparingRule keyedSizes = .ok (.bool false) := by
  have paths : ∀ node operands, Occurs node comparingRule →
      operation? node = some ("var", operands) →
        operands = [.str "sizes.0"] ∨ operands = [.str "sizes.00"] := by
    intro node operands visited ho
    have hw : node ∈ walk [comparingRule] := mem_walk.mpr ⟨_, List.mem_singleton_self _, visited⟩
    simp only [comparingRule, walk, children, operandsOf, List.reverse_cons, List.reverse_nil,
      List.nil_append, List.cons_append, List.mem_cons, List.not_mem_nil, or_false] at hw
    rcases hw with rfl | rfl | rfl | rfl | rfl <;> simp [operation?, operandsOf] at ho ⊢ <;>
      simp [← ho]
  have outcome {tree context v : Value} (present : contextOf context = context)
      (near : isTooFar (reach Value.nesting (contextOf context) tree) = false)
      (h : eval context tree = .ok v) : evaluate tree context = .ok v := by
    rw [evaluate_of_near near, present, h]
  have comparison : operation? comparingRule =
      some ("==", [.object [("var", .str "sizes.0")], .object [("var", .str "sizes.00")]]) := rfl
  have compared (context : Value) : eval context comparingRule =
      operate context "==" [eval context (variableOf (.str "sizes.0")),
        eval context (variableOf (.str "sizes.00"))] :=
    eval_operation context comparison
  have listed (path : Value) (h : path = .str "sizes.0" ∨ path = .str "sizes.00") :
      eval listedSizes (variableOf path) = .ok (.list [.float (.nan (some 0))]) := by
    rcases h with rfl | rfl <;> rfl
  have first : eval keyedSizes (variableOf (.str "sizes.0")) =
      .ok (.list [.float (.nan (some 0))]) := rfl
  have second : eval keyedSizes (variableOf (.str "sizes.00")) =
      .ok (.list [.float (.nan (some 1))]) := rfl
  refine ⟨?_, ?_, outcome rfl (by decide +kernel) ?_, outcome rfl (by decide +kernel) ?_⟩
  · intro node operands visited ho
    rcases paths node operands visited ho with rfl | rfl <;> exact ⟨_, rfl⟩
  · rintro path ⟨node, operands, visited, ho, hp⟩
    rcases paths node operands visited ho with rfl | rfl <;> cases hp
    · rw [outcome rfl (by decide +kernel) (listed _ (.inl rfl)),
        outcome rfl (by decide +kernel) first]
    · rw [outcome rfl (by decide +kernel) (listed _ (.inr rfl)),
        outcome rfl (by decide +kernel) second]
      rfl
  · rw [compared, listed _ (.inl rfl), listed _ (.inr rfl)]
    rfl
  · rw [compared, first, second]
    rfl

end TriggerFlow.Rule
