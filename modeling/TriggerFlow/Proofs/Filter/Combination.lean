import TriggerFlow.Proofs.Filter.Operator

/-! # Lists of filters

A config asks its filters in their order, and its logic settles their answers (`fires_eq`).  The logic
`AND` asks for all answers and every other one for any, and a list without filters lets every event
through.  So the answers of a list are those of its parts, conjoined or disjoined
(`settle_append_all`, `settle_append_any`), their order does not matter (`settle_perm`), and one filter
without an answer leaves the whole list without one (`fires_raises_iff`).  The laws of configs follow:
`filter_lists`. -/

namespace TriggerFlow.Filter

open Outcome Value

variable {config config' left right : Entries} {logic item context : Value}
  {filters xs ys : List Value} {as bs : List Bool}

/-! ### What logic makes of answers -/

/-- What the logic of a config makes of the answers of its filters. -/
def settle (logic : Value) (answers : List Bool) : Bool :=
  answers.isEmpty || if logic.same (.str "AND") then answers.all id else answers.any id

/-- Every logic but `AND` is another one. -/
theorem same_and_iff : logic.same (.str "AND") = true ↔ logic = .str "AND" := by
  cases logic with
  | str s => simp [Value.same]
  | _ => simp [Value.same, sameNumber, quantity?]

theorem settle_and (answers : List Bool) : settle (.str "AND") answers = answers.all id := by
  cases answers with
  | nil => rfl
  | cons => rw [settle, same_and_iff.mpr rfl, List.isEmpty_cons, Bool.false_or, if_pos rfl]

theorem settle_other (other : logic ≠ .str "AND") (some : as ≠ []) :
    settle logic as = as.any id := by
  rw [settle, if_neg (mt same_and_iff.mp other), List.isEmpty_eq_false_iff.mpr some, Bool.false_or]

theorem settle_append_all (as bs : List Bool) :
    settle (.str "AND") (as ++ bs) = (settle (.str "AND") as && settle (.str "AND") bs) := by
  rw [settle_and, settle_and, settle_and, List.all_append]

theorem settle_append_any (other : logic ≠ .str "AND") (has : as ≠ []) (hbs : bs ≠ []) :
    settle logic (as ++ bs) = (settle logic as || settle logic bs) := by
  rw [settle_other other has, settle_other other hbs,
    settle_other other (List.append_ne_nil_of_left_ne_nil has bs), List.any_append]

theorem settle_perm (logic : Value) (h : as.Perm bs) : settle logic as = settle logic bs := by
  rw [settle, settle, h.isEmpty_eq, h.all_eq, h.any_eq]

/-! ### Asking in another order -/

/-- Filters in another order have the same answers in another order. -/
theorem exists_answers_perm [Levels] (h : xs.Perm ys) (answered : xs.mapM (itemHolds context) = .ok as) :
    ∃ bs, ys.mapM (itemHolds context) = .ok bs ∧ as.Perm bs := by
  obtain ⟨bs, hbs, perm⟩ := List.perm_comp_forall₂ h.symm (mapM_eq_ok.mp answered)
  exact ⟨bs, mapM_eq_ok.mpr hbs, perm.symm⟩

/-! ### Configs -/

/-- An enabled config with its logic and its filters. -/
structure Combines (config : Entries) (logic : Value) (filters : List Value) : Prop
    extends Enables config filters where
  logic : config.get "logic" = logic

/-- A filter that has no answer on an event. -/
def Raises [Levels] (item context : Value) : Prop := ∃ cause, itemHolds context item = .error cause

/-- A config settles the answers of its filters. -/
theorem fires_eq [Levels] (h : Combines config logic filters) (context : Value) :
    fires (.object config) context =
      ((filters.mapM (itemHolds context)).map (settle logic)).mapError Fault.breakdown := by
  by_cases none : filters = []
  · subst none
    have enabled : ((Value.object config).get "enabled").truthy = true := h.enabled
    have listed : (Value.object config).get "filters" = .list [] := h.filters
    simp only [fires, enabled, listed, Bool.not_true, Bool.false_eq_true, if_false]
    rfl
  · rw [fires_of_filters context h.enabled h.filters none,
      show (Value.object config).get "logic" = logic from h.logic]
    cases answered : filters.mapM (itemHolds context) with
    | error cause => rfl
    | ok answers =>
        have some : answers ≠ [] := by
          rintro rfl
          exact none (List.forall₂_nil_right_iff.mp (mapM_eq_ok.mp answered))
        change (if _ then Except.ok _ else .ok _) = Except.ok (settle logic answers)
        rw [settle, List.isEmpty_eq_false_iff.mpr some, Bool.false_or]
        split <;> rfl

/-- A list in two parts has the answer that its logic makes of theirs. -/
theorem fires_append [Levels] {combine : Bool → Bool → Bool} (whole : Combines config logic (xs ++ ys))
    (first : Combines left logic xs) (second : Combines right logic ys)
    (law : ∀ as bs : List Bool, as.length = xs.length → bs.length = ys.length →
      settle logic (as ++ bs) = combine (settle logic as) (settle logic bs)) (context : Value) :
    fires (.object config) context = do
      let a ← fires (.object left) context
      let b ← fires (.object right) context
      return combine a b := by
  rw [fires_eq whole, fires_eq first, fires_eq second, List.mapM_append]
  cases hxs : xs.mapM (itemHolds context) with
  | error cause => rfl
  | ok as =>
      cases hys : ys.mapM (itemHolds context) with
      | error cause => rfl
      | ok bs =>
          exact congrArg Except.ok
            (law as bs (mapM_eq_ok.mp hxs).length_eq.symm (mapM_eq_ok.mp hys).length_eq.symm)

theorem fires_of_perm [Levels] (h : xs.Perm ys) (first : Combines config logic xs)
    (second : Combines config' logic ys) {b : Bool} (hb : fires (.object config) context = .ok b) :
    fires (.object config') context = .ok b := by
  rw [fires_eq first, mapError_eq_ok, map_eq_ok] at hb
  obtain ⟨as, answered, rfl⟩ := hb
  obtain ⟨bs, answered', perm⟩ := exists_answers_perm h answered
  rw [fires_eq second, answered', settle_perm logic perm]
  rfl

/-- A config has no answer if and only if one of its filters has none. -/
theorem fires_raises_iff [Levels] (h : Combines config logic filters) :
    (∃ fault, fires (.object config) context = .error fault) ↔
      ∃ item ∈ filters, Raises item context := by
  rw [fires_eq h]
  unfold Raises
  rw [← exists_mapM_error_iff]
  simp only [mapError_eq_error, map_eq_error]
  constructor
  · rintro ⟨_, cause, raised, rfl⟩
    exact ⟨cause, raised⟩
  · rintro ⟨cause, raised⟩
    exact ⟨_, cause, raised, rfl⟩

/-- **How filters combine.**  Take enabled configs of one logic and their filters.  With the logic
`AND` a list in two parts fires if both parts do, and with any other logic, where neither part is
empty, if one of them does; it has no answer if one of the parts has none.  A config with the same
filters in another order fires on the same events.  And a config has no answer if and only if some
filter has none by itself, wherever it stands and whatever the others answer. -/
theorem filter_lists [Levels] (context : Value) :
    (∀ config left right xs ys, Combines config (.str "AND") (xs ++ ys) →
      Combines left (.str "AND") xs → Combines right (.str "AND") ys →
      fires (.object config) context = do
        let a ← fires (.object left) context
        let b ← fires (.object right) context
        return a && b) ∧
    (∀ config left right logic xs ys, logic ≠ .str "AND" → xs ≠ [] → ys ≠ [] →
      Combines config logic (xs ++ ys) → Combines left logic xs → Combines right logic ys →
      fires (.object config) context = do
        let a ← fires (.object left) context
        let b ← fires (.object right) context
        return a || b) ∧
    (∀ config config' logic xs ys, xs.Perm ys → Combines config logic xs →
      Combines config' logic ys →
      ∀ b, fires (.object config) context = .ok b ↔ fires (.object config') context = .ok b) ∧
    ∀ config logic filters, Combines config logic filters →
      ((∃ fault, fires (.object config) context = .error fault) ↔
        ∃ item ∈ filters, Raises item context) := by
  refine ⟨?_, ?_, ?_, fun _ _ _ => fires_raises_iff⟩
  · intro config left right xs ys whole first second
    exact fires_append whole first second (fun as bs _ _ => settle_append_all as bs) context
  · intro config left right logic xs ys other hxs hys whole first second
    refine fires_append whole first second (fun as bs has hbs => ?_) context
    have some {zs : List Value} {cs : List Bool} (h : cs.length = zs.length) (hzs : zs ≠ []) :
        cs ≠ [] := by
      rintro rfl
      exact hzs (List.length_eq_zero_iff.mp h.symm)
    exact settle_append_any other (some has hxs) (some hbs hys)
  · intro config config' logic xs ys perm first second b
    exact ⟨fires_of_perm perm first second, fires_of_perm perm.symm second first⟩

/-- An enabled config without anything else. -/
def listing (logic : Value) (filters : List Value) : Entries :=
  [("enabled", .bool true), ("logic", logic), ("filters", .list filters)]

theorem combines_listing (logic : Value) (filters : List Value) :
    Combines (listing logic filters) logic filters := ⟨⟨rfl, rfl⟩, rfl⟩

/-- A filter for totals from 50 on. -/
def fromFifty : Value := .object (asking (.str "total") ">=" (.str "50"))

/-- A filter for totals below 100. -/
def belowHundred : Value := .object (asking (.str "total") "<" (.int 100))

/-- A filter with an operator that cannot be looked up. -/
def unsearchable : Value := .object [("field", .str "total"), ("operator", .list [.str ">"])]

/-- A total of 100 matches the first filter and not the second: all of both do not, and any of them
does, in either order.  With the third filter there is no answer, though the first has settled it. -/
theorem filter_lists_writtenOrder :
    fires (.object (listing (.str "AND") [fromFifty, belowHundred])) writtenOrder = .ok false ∧
      fires (.object (listing (.str "OR") [belowHundred, fromFifty])) writtenOrder = .ok true ∧
      ∃ fault, fires (.object (listing (.str "OR") [fromFifty, unsearchable])) writtenOrder =
        .error fault := by
  obtain ⟨conjoined, disjoined, reordered, raises⟩ := filter_lists writtenOrder
  refine ⟨?_, ?_, ?_⟩
  · have parts := conjoined _ _ _ [fromFifty] [belowHundred] (combines_listing _ _)
      (combines_listing _ _) (combines_listing _ _)
    rw [show fires (.object (listing (.str "AND") [fromFifty])) writtenOrder = .ok true by
        decide +kernel,
      show fires (.object (listing (.str "AND") [belowHundred])) writtenOrder = .ok false by
        decide +kernel] at parts
    exact parts
  · have parts := disjoined _ _ _ (.str "OR") [fromFifty] [belowHundred] (by simp) (by simp)
      (by simp) (combines_listing _ _) (combines_listing _ _) (combines_listing _ _)
    rw [show fires (.object (listing (.str "OR") [fromFifty])) writtenOrder = .ok true by
        decide +kernel,
      show fires (.object (listing (.str "OR") [belowHundred])) writtenOrder = .ok false by
        decide +kernel] at parts
    exact (reordered _ _ _ _ _ (.swap _ _ _) (combines_listing _ _) (combines_listing _ _)
      true).mp parts
  · exact (raises _ _ _ (combines_listing _ _)).mpr
      ⟨unsearchable, List.mem_cons_of_mem _ List.mem_cons_self, .unhashable .list,
        by decide +kernel⟩

end TriggerFlow.Filter
