import TriggerFlow.Filter
import TriggerFlow.Proofs.Rule.Variable

/-! # Looking up the value for a filter

A filter looks a value up along the dotted path that a variable reads, but it knows no indices and no
default.  What it finds, the path reaches (`reaches_of_found`), and where there is no list the filter
finds all that the path reaches (`found_of_reaches`).  So a variable gives what the filter finds, and
without lists it gives its default just where the filter finds nothing: `resolvers_agree`. -/

namespace TriggerFlow.Filter

open Rule Value

variable {v u w : Value} {segment : String} {path : List String} {cause : Breakdown}

/-- There is no list in the value. -/
def WithoutLists (v : Value) : Prop := ∀ items, ¬ Part (.list items) v

theorem WithoutLists.part (h : WithoutLists v) (part : Part u v) : WithoutLists u :=
  fun items list => h items (list.trans part)

/-! ### What is found is reached -/

theorem leads_of_get (h : (v.get segment).isNull = false) :
    Rule.Leads v segment (v.get segment) := by
  cases v with
  | object entries =>
      rw [Value.get] at h ⊢
      cases found : entries.lookup segment with
      | none =>
          rw [get_of_missing found] at h
          cases h
      | some w =>
          rw [get_of_lookup found]
          exact .entry found
  | _ => cases h

theorem foldl_get_null (path : List String) : path.foldl Value.get .null = .null := by
  induction path with
  | nil => rfl
  | cons segment rest ih => exact ih

/-- What is found along a path is reached by it: no part on the way was null. -/
theorem reaches_of_found (h : (path.foldl Value.get v).isNull = false) :
    Reaches v path (path.foldl Value.get v) := by
  induction path generalizing v with
  | nil => exact .here v
  | cons segment rest ih =>
      rw [List.foldl_cons] at h ⊢
      have next : (v.get segment).isNull = false := by
        cases hn : v.get segment with
        | null =>
            rw [hn, foldl_get_null] at h
            cases h
        | _ => rfl
      exact .step (leads_of_get next) next (ih h)

/-! ### Where there is no list -/

theorem part_of_leads (h : Rule.Leads v segment u) : Part u v := by
  cases h with
  | entry found => exact .entry (mem_of_lookup found) .whole
  | item _ found => exact .item (List.mem_of_getElem? found) .whole

theorem part_of_reaches (h : Reaches v path w) : Part w v := by
  induction h with
  | here => exact .whole
  | step leads _ _ ih => exact ih.trans (part_of_leads leads)

theorem found_of_reaches (h : Reaches v path w) (hv : WithoutLists v) :
    path.foldl Value.get v = w := by
  induction h with
  | here => rfl
  | step leads _ _ ih =>
      have below := hv.part (part_of_leads leads)
      cases leads with
      | entry found =>
          rw [List.foldl_cons, Value.get, get_of_lookup found]
          exact ih below
      | item => exact absurd .whole (hv _)

theorem not_misleads (hv : WithoutLists v) : ¬ Misleads v path cause := by
  rintro ⟨before, segment, after, items, rfl, reaches, -⟩
  exact hv items (part_of_reaches reaches)

/-! ### Filters and variables -/

/-- **Filters and variables agree.**  A variable gives what a filter finds under its path, whatever the
default is.  In a context without lists the filter finds nothing just where the variable gives its
default, for every literal.  In both, a literal or a value without levels to copy it goes too deep. -/
theorem resolvers_agree [Levels] (entries : Entries) (path : String) (ne : path ≠ "") :
    (∀ v, lookup (.object entries) path = v → v.isNull = false → ∀ d, depth d = 0 →
      (Copyable d → Copyable v → evaluate (variableOr path d) (.object entries) = .ok v) ∧
      (¬ (Copyable d ∧ Copyable v) → ∃ during, evaluate (variableOr path d) (.object entries) =
        .error (.breakdown (.nestedTooDeeply during)))) ∧
    (WithoutLists (.object entries) →
      (lookup (.object entries) path = .null ↔
        ∀ d, depth d = 0 → Copyable d →
          evaluate (variableOr path d) (.object entries) = .ok d) ∧
      ∀ d, depth d = 0 → ¬ Copyable d → ∃ during,
        evaluate (variableOr path d) (.object entries) =
          .error (.breakdown (.nestedTooDeeply during))) := by
  have reached (v : Value) (found : lookup (.object entries) path = v) (hv : v.isNull = false) :
      Reaches (.object entries) (way path) v := by
    subst found
    rw [way_of_ne ne]
    exact reaches_of_found hv
  refine ⟨fun v found hv d literal => ⟨fun copyable part => ?_, fun deep => ?_⟩,
    fun plain => ⟨⟨fun missing d literal copyable => ?_, fun default => ?_⟩, ?_⟩⟩
  · rw [evaluate_of_reaches literal copyable (reached v found hv), copyWithin_of_copyable part]
  · refine evaluate_of_deep literal ((not_and_or.mp deep).imp_right fun part => ?_)
    exact ⟨v, reached v found hv, part⟩
  · rcases path_cases (.object entries) (way path) with ⟨v, reaches⟩ | strays | ⟨cause, misleads⟩
    · have found : lookup (.object entries) path = v := by
        rw [way_of_ne ne] at reaches
        exact found_of_reaches reaches plain
      have full := reaches.isNull rfl
      rw [← found, missing] at full
      cases full
    · exact evaluate_of_strays literal copyable strays
    · exact absurd misleads (not_misleads plain)
  · -- With null for its default the variable gives null, but it gives what the filter finds.
    by_contra found
    have reaches := reached _ rfl (isNull_of_ne_null found)
    have given := default .null rfl copyable_null
    rw [evaluate_of_reaches rfl copyable_null reaches] at given
    exact found (eq_of_copyWithin given)
  · exact fun d literal deep => evaluate_variableOr_of_deep literal deep _

/-- An order of a customer with a status but no email. -/
def customerOrder : Entries := [("customer", .object [("vip", .bool false), ("email", .null)])]

/-- The status is found though it is false, and below the missing email there is nothing. -/
theorem resolvers_agree_customerOrder :
    evaluate (variableOr "customer.vip" (.str "unknown")) (.object customerOrder) =
        .ok (.bool false) ∧
      evaluate (variableOr "customer.email.host" (.str "unknown")) (.object customerOrder) =
        .ok (.str "unknown") := by
  have plain : WithoutLists (.object customerOrder) := by
    intro items list
    simp only [customerOrder, part_object_iff, exists_eq_left, List.mem_cons,
      List.not_mem_nil, or_false, exists_eq_or_imp, reduceCtorEq, false_or] at list
    rcases list with list | list
    · cases (part_atom_iff rfl).mp list
    · cases (part_atom_iff rfl).mp list
  have status : lookup (.object customerOrder) "customer.vip" = .bool false := by
    rw [lookup, show segments "customer.vip" = ["customer", "vip"] by decide]
    rfl
  have host : lookup (.object customerOrder) "customer.email.host" = .null := by
    rw [lookup, show segments "customer.email.host" = ["customer", "email", "host"] by decide]
    rfl
  have text : depth (.str "unknown") = 0 := rfl
  obtain ⟨found, -⟩ := resolvers_agree customerOrder "customer.vip" (by decide)
  obtain ⟨-, missing⟩ := resolvers_agree customerOrder "customer.email.host" (by decide)
  exact ⟨(found (.bool false) status rfl (.str "unknown") text).1 (by decide) (by decide),
    (missing plain).1.mp host (.str "unknown") text (by decide)⟩

/-- In a long chain the filter finds the order after the first, but the variable cannot copy it. -/
theorem chain_is_found_but_not_read :
    lookup (chain 2000) "next" = chain 1999 ∧ (chain 1999).isNull = false ∧
      evaluate (variableOr "next" .null) (chain 2000) =
        .error (.breakdown (.nestedTooDeeply .copying)) := by
  have one : segments "next" = ["next"] := by decide
  refine ⟨?_, rfl, ?_⟩
  · rw [lookup, one]
    rfl
  · rw [chain, evaluate_of_reaches rfl (by decide) (chain_reaches 1999),
      copyWithin_of_deep (not_copyable_chain (by decide))]
    rfl

end TriggerFlow.Filter
