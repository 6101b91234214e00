import TriggerFlow.Proofs.Rule.Path
import TriggerFlow.Proofs.Rule.Reading
import TriggerFlow.Proofs.Rule.Replacement

/-! # What a variable gives

A variable with a literal default gives the part of the context that its path reaches, and the default
where the path strays.  Both are copied, for which there must be levels (`Copyable`).  Apart from that
it fails on one thing only, digits at a list that write no index: `variable_fails_iff`.  A part that is
addressed place by place is given as it is: `addressed_part_is_read`. -/

namespace TriggerFlow.Rule

open Outcome Value

variable {entries : Entries} {path : String} {d v w : Value} {cause : Breakdown} {n : Nat}

/-- The variable of a path with a default. -/
def variableOr (path : String) (d : Value) : Value := .object [("var", .list [.str path, d])]

/-- There are levels to copy the value one step below the top of a tree. -/
def Copyable [Levels] (v : Value) : Prop := v.nesting < stepLimit

instance [Levels] (v : Value) : Decidable (Copyable v) := inferInstanceAs (Decidable (_ < _))

theorem pred_stepLimit_lt [Levels] : stepLimit - 1 < stepLimit := by
  have := stepLimit_enough
  omega

theorem copyable_null [Levels] : Copyable .null := by
  have := stepLimit_enough
  exact Nat.lt_of_lt_of_le (by decide : 0 < 12) this

/-! ### Literals -/

theorem reachAll_ok (vs : List Value) :
    reachAll (vs.map .ok) (vs.map Value.nesting) = nestingItems vs := by
  induction vs with
  | nil => rfl
  | cons v rest ih => rw [List.map_cons, List.map_cons, reachAll, ih, nestingItems]

/-- The evaluation of a tree without operations goes down as far as a copy of it. -/
theorem reach_of_depth_eq_zero (h : depth v = 0) (context : Value) :
    reach Value.nesting context v = v.nesting := by
  induction v using tree_induction with
  | list items ih =>
      have flat (item : Value) (hi : item ∈ items) : depth item = 0 :=
        Nat.le_zero.mp (Nat.le_trans (depth_le_deepest hi) (Nat.le_of_eq h))
      have outcomes : items.map (eval context) = items.map .ok :=
        List.map_congr_left fun item hi => eval_of_depth_eq_zero (flat item hi) context
      have steps : items.map (reach Value.nesting context) = items.map Value.nesting :=
        List.map_congr_left fun item hi => ih item hi (flat item hi)
      rw [reach_list, outcomes, steps, reachAll_ok, nesting]
  | operation v symbol operands hv _ => exact absurd h (Nat.ne_of_gt (depth_pos_of_operation hv))
  | literal v hl => exact reach_literal _ hl

theorem literal_suits (h : depth v = 0) (context : Value) (n : Nat) :
    Suits n v.nesting (.ok v) (evalWithin context n v) := by
  rw [← eval_of_depth_eq_zero h context, ← reach_of_depth_eq_zero h context]
  exact evalWithin_suits v

/-! ### Variables with a default -/

theorem evalWithin_variableOr (context : Value) (n : Nat) (path : String) (d : Value) :
    evalWithin context (n + 1) (variableOr path d) =
      (evalWithin context n d >>= fun d => variableAt context (.str path) d >>= copyWithin n) := by
  have operation : operation? (variableOr path d) = some ("var", [.str path, d]) := rfl
  have text : evalWithin context n (.str path) = .ok (.str path) := evalWithin_literal rfl
  rw [evalWithin_operation operation, stepDown, List.map_cons, List.map_singleton, text,
    operateWithin_of_ok rfl, if_pos rfl]
  cases evalWithin context n d <;> rfl

/-- A variable without a default has null as its default. -/
theorem evaluate_variable [Levels] (path : String) (context : Value) :
    evaluate (.object [("var", .str path)]) context = evaluate (variableOr path .null) context := by
  have operation : operation? (.object [("var", .str path)]) = some ("var", [.str path]) := rfl
  have text : evalWithin (contextOf context) (stepLimit - 1) (.str path) = .ok (.str path) :=
    evalWithin_literal rfl
  rw [evaluate_eq_evalWithin, evaluate_eq_evalWithin, stepLimit_eq, evalWithin_variableOr,
    evalWithin_operation operation, stepDown, List.map_singleton, text, operateWithin_of_ok rfl,
    if_pos rfl]
  rfl

theorem evaluate_variableOr [Levels] (literal : depth d = 0) (copyable : Copyable d) (context : Value) :
    evaluate (variableOr path d) context =
      (variableAt (contextOf context) (.str path) d >>= copyWithin (stepLimit - 1)) := by
  have given : evalWithin (contextOf context) (stepLimit - 1) d = .ok d :=
    (literal_suits literal _ _).enough (Nat.le_sub_one_of_lt copyable)
  rw [evaluate_eq_evalWithin, stepLimit_eq, evalWithin_variableOr, given]
  rfl

theorem evaluate_variableOr_of_deep [Levels] (literal : depth d = 0) (deep : ¬ Copyable d)
    (context : Value) : ∃ during, evaluate (variableOr path d) context = exhausted during := by
  have few : stepLimit - 1 < d.nesting :=
    Nat.lt_of_lt_of_le pred_stepLimit_lt (Nat.le_of_not_lt deep)
  obtain ⟨during, given⟩ := (literal_suits literal (contextOf context) (stepLimit - 1)).tooFew few
  refine ⟨during, ?_⟩
  rw [evaluate_eq_evalWithin, stepLimit_eq, evalWithin_variableOr, given]
  rfl

theorem copyWithin_of_copyable [Levels] (h : Copyable v) : copyWithin (stepLimit - 1) v = .ok v :=
  if_neg (Nat.not_lt.mpr (Nat.le_sub_one_of_lt h))

theorem copyWithin_of_deep [Levels] (h : ¬ Copyable v) :
    copyWithin (stepLimit - 1) v = exhausted .copying :=
  if_pos (Nat.lt_of_lt_of_le pred_stepLimit_lt (Nat.le_of_not_lt h))

theorem eq_of_copyWithin (h : copyWithin n v = .ok w) : v = w := by
  unfold copyWithin at h
  split at h
  · cases h
  · exact Except.ok.inj h

/-! ### Ways in a context -/

theorem variableAt_way (entries : Entries) (path : String) (d : Value) :
    variableAt (.object entries) (.str path) d =
      match resolve (.object entries) (way path) with
      | .ok v => .ok (if v.isNull then d else v)
      | .error cause => .error (.breakdown cause) := by
  rw [variableAt_str, way]
  split
  · rfl
  · rfl

/-- Where the path leads decides what a variable gives. -/
theorem evaluate_of_reaches [Levels] (literal : depth d = 0) (copyable : Copyable d)
    (h : Reaches (.object entries) (way path) v) :
    evaluate (variableOr path d) (.object entries) = copyWithin (stepLimit - 1) v := by
  rw [evaluate_variableOr literal copyable, contextOf_object, variableAt_way, resolve_of_reaches h]
  change copyWithin _ (if v.isNull then d else v) = _
  rw [h.isNull rfl, if_neg (by decide)]

theorem evaluate_of_strays [Levels] (literal : depth d = 0) (copyable : Copyable d)
    (h : Strays (.object entries) (way path)) :
    evaluate (variableOr path d) (.object entries) = .ok d := by
  rw [evaluate_variableOr literal copyable, contextOf_object, variableAt_way, resolve_of_strays h]
  exact copyWithin_of_copyable copyable

theorem evaluate_of_misleads [Levels] (literal : depth d = 0) (copyable : Copyable d)
    (h : Misleads (.object entries) (way path) cause) :
    evaluate (variableOr path d) (.object entries) = .error (.breakdown cause) := by
  rw [evaluate_variableOr literal copyable, contextOf_object, variableAt_way,
    resolve_of_misleads h]
  rfl

theorem evaluate_of_deep [Levels] (literal : depth d = 0)
    (deep : ¬ Copyable d ∨ ∃ v, Reaches (.object entries) (way path) v ∧ ¬ Copyable v) :
    ∃ during, evaluate (variableOr path d) (.object entries) = exhausted during := by
  by_cases copyable : Copyable d
  · obtain ⟨v, reaches, deep⟩ := deep.resolve_left (fun hd => hd copyable)
    exact ⟨.copying, by rw [evaluate_of_reaches literal copyable reaches, copyWithin_of_deep deep]⟩
  · exact evaluate_variableOr_of_deep literal copyable _

/-! ### What goes wrong -/

/-- **When reading a variable fails.**  With a literal default it fails where the path comes to a list
and there to digits that write no index, and it says so; and it goes too deep where there are no levels
to copy the default or what the path reaches.  It does not fail on anything else: a segment that is
missing, null, no index of its list, or applied to a scalar gives the default. -/
theorem variable_fails_iff [Levels] (entries : Entries) (path : String) (d : Value)
    (literal : depth d = 0) :
    ((∃ fault, evaluate (variableOr path d) (.object entries) = .error fault) ↔
      (∃ cause, Misleads (.object entries) (way path) cause) ∨ ¬ Copyable d ∨
        ∃ v, Reaches (.object entries) (way path) v ∧ ¬ Copyable v) ∧
    (∀ cause, Misleads (.object entries) (way path) cause → Copyable d →
      evaluate (variableOr path d) (.object entries) = .error (.breakdown cause)) ∧
    ((¬ Copyable d ∨ ∃ v, Reaches (.object entries) (way path) v ∧ ¬ Copyable v) →
      ∃ during, evaluate (variableOr path d) (.object entries) =
        .error (.breakdown (.nestedTooDeeply during))) ∧
    (Strays (.object entries) (way path) → Copyable d →
      evaluate (variableOr path d) (.object entries) = .ok d) ∧
    (∀ v, Reaches (.object entries) (way path) v → Copyable d → Copyable v →
      evaluate (variableOr path d) (.object entries) = .ok v) := by
  refine ⟨⟨?_, ?_⟩, fun cause misleads copyable => evaluate_of_misleads literal copyable misleads,
    evaluate_of_deep literal, fun strays copyable => evaluate_of_strays literal copyable strays,
    fun v reaches copyable hv => ?_⟩
  · rintro ⟨fault, failed⟩
    by_cases copyable : Copyable d
    · rcases path_cases (.object entries) (way path) with ⟨v, reaches⟩ | strays | misleads
      · refine .inr (.inr ⟨v, reaches, fun hv => ?_⟩)
        rw [evaluate_of_reaches literal copyable reaches, copyWithin_of_copyable hv] at failed
        cases failed
      · rw [evaluate_of_strays literal copyable strays] at failed
        cases failed
      · exact .inl misleads
    · exact .inr (.inl copyable)
  · rintro (⟨cause, misleads⟩ | deep)
    · by_cases copyable : Copyable d
      · exact ⟨_, evaluate_of_misleads literal copyable misleads⟩
      · obtain ⟨during, failed⟩ := evaluate_variableOr_of_deep literal copyable (.object entries)
        exact ⟨_, failed⟩
    · obtain ⟨during, failed⟩ := evaluate_of_deep literal deep
      exact ⟨_, failed⟩
  · rw [evaluate_of_reaches literal copyable reaches, copyWithin_of_copyable hv]

/-- An order of one item. -/
def order : Entries := [("items", .list [.object [("sku", .str "A")]])]

/-- The order has no second item. -/
theorem variable_fails_iff_order :
    depth (.str "none") = 0 ∧
      evaluate (variableOr "items.1.sku" (.str "none")) (.object order) = .ok (.str "none") := by
  have second : WritesIndex "1" 1 := ⟨by decide, [1], by decide, by decide, rfl⟩
  have strays : Strays (.object order) (way "items.1.sku") :=
    ⟨["items"], "1", ["sku"], _, by decide, .step (.entry rfl) rfl (.here _),
      .beyond second (by decide)⟩
  obtain ⟨-, -, -, default, -⟩ := variable_fails_iff order "items.1.sku" (.str "none") rfl
  exact ⟨rfl, default strays (by decide)⟩

/-- A superscript two writes no index, but it counts as a digit, and so the variable fails. -/
theorem variable_fails_superscript :
    depth (.str "none") = 0 ∧ (∀ index, ¬ WritesIndex "²" index) ∧
      evaluate (variableOr "items.²" (.str "none")) (.object order) =
        .error (.breakdown (.notAnInteger "²")) := by
  have misleads : Misleads (.object order) (way "items.²") (.notAnInteger "²") :=
    ⟨["items"], "²", [], _, by decide, .step (.entry rfl) rfl (.here _), by decide,
      .notDecimal (c := '²') (by decide) (by decide) (by decide)⟩
  refine ⟨rfl, fun index writes => ?_, evaluate_of_misleads rfl (by decide) misleads⟩
  exact absurd writes.leadingDigits_eq (by decide)

/-! ### Addressed parts -/

/-- **What is addressed is read.**  If a part of the context that is not null is found place by place,
the path of these places gives this very part, whatever it is and whatever the default is.  Only what
there are no levels to copy, be it the part or the default, goes too deep. -/
theorem addressed_part_is_read [Levels] (entries : Entries) (places : List Schema.Place) (v : Value)
    (addressed : Addresses (.object entries) places v) (hv : v.isNull = false)
    (ne : dotted places ≠ "") :
    (Copyable v →
      evaluate (.object [("var", .str (dotted places))]) (.object entries) = .ok v) ∧
    (¬ Copyable v → evaluate (.object [("var", .str (dotted places))]) (.object entries) =
      .error (.breakdown (.nestedTooDeeply .copying))) ∧
    (∀ d, depth d = 0 → Copyable d → Copyable v →
      evaluate (variableOr (dotted places) d) (.object entries) = .ok v) ∧
    ∀ d, depth d = 0 → ¬ (Copyable d ∧ Copyable v) →
      ∃ during, evaluate (variableOr (dotted places) d) (.object entries) =
        .error (.breakdown (.nestedTooDeeply during)) := by
  have reaches : Reaches (.object entries) (way (dotted places)) v := by
    rw [addressed.way_eq ne]
    exact addressed.reaches hv
  rw [evaluate_variable, evaluate_of_reaches rfl copyable_null reaches]
  refine ⟨copyWithin_of_copyable, copyWithin_of_deep, fun d literal copyable hv => ?_,
    fun d literal deep => evaluate_of_deep literal ?_⟩
  · rw [evaluate_of_reaches literal copyable reaches, copyWithin_of_copyable hv]
  · rcases not_and_or.mp deep with hd | hw
    · exact .inl hd
    · exact .inr ⟨v, reaches, hw⟩

/-- Orders under an empty key, the first with a note that looks like a variable. -/
def notedOrders : Entries :=
  [("", .list [.object [("0", .object [("var", .str "items")])]]), ("items", .list [])]

/-- The path `.0.0` has an empty key, an index and a key that looks like one. -/
theorem addressed_part_is_read_notedOrders :
    Addresses (.object notedOrders) [.field "", .item 0, .field "0"]
        (.object [("var", .str "items")]) ∧
      dotted [.field "", .item 0, .field "0"] ≠ "" ∧
      evaluate (variableOr (dotted [.field "", .item 0, .field "0"]) (.int 0))
        (.object notedOrders) = .ok (.object [("var", .str "items")]) := by
  have addressed : Addresses (.object notedOrders) [.field "", .item 0, .field "0"]
      (.object [("var", .str "items")]) :=
    .field rfl (by decide) (.item rfl (Nat.pow_pos (by decide)) (.field rfl (by decide) (.here _)))
  have ne : dotted [.field "", .item 0, .field "0"] ≠ "" := by decide
  obtain ⟨-, -, read, -⟩ := addressed_part_is_read notedOrders _ _ addressed rfl ne
  exact ⟨addressed, ne, read (.int 0) rfl (by decide) (by decide)⟩

/-- Orders that follow one another, so many after the first. -/
def chain : Nat → Value
  | 0 => .object []
  | n + 1 => .object [("next", chain n)]

theorem nesting_chain (n : Nat) : (chain n).nesting = n + 1 := by
  induction n with
  | zero => rfl
  | succ n ih => rw [chain, nesting, nestingEntries, ih, nestingEntries, Nat.max_zero]

theorem not_copyable_chain [Levels] (h : stepLimit ≤ n + 1) : ¬ Copyable (chain n) := by
  rw [Copyable, nesting_chain]
  exact Nat.not_lt.mpr h

theorem chain_reaches (n : Nat) : Reaches (.object [("next", chain n)]) (way "next") (chain n) := by
  have one : way "next" = ["next"] := by decide
  have leads : Leads (.object [("next", chain n)]) "next" (chain n) := .entry rfl
  rw [one]
  cases n with
  | zero => exact .step leads rfl (.here _)
  | succ n => exact .step leads rfl (.here _)

/-- In a long chain the order after the first is addressed, but it cannot be copied. -/
theorem chain_is_not_read :
    Addresses (chain 2000) [.field "next"] (chain 1999) ∧ (chain 1999).isNull = false ∧
      dotted [.field "next"] = "next" ∧
      evaluate (.object [("var", .str "next")]) (chain 2000) =
        .error (.breakdown (.nestedTooDeeply .copying)) := by
  have addressed : Addresses (.object [("next", chain 1999)]) [.field "next"] (chain 1999) :=
    .field rfl (by decide) (.here _)
  refine ⟨addressed, rfl, by decide, ?_⟩
  rw [chain, evaluate_variable, evaluate_of_reaches rfl (by decide) (chain_reaches 1999),
    copyWithin_of_deep (not_copyable_chain (by decide))]
  rfl

end TriggerFlow.Rule
