import TriggerFlow.Proofs.Json.RoundTrip
import TriggerFlow.Proofs.Value.Limits
import TriggerFlow.Snapshot

/-! # What a snapshot keeps

A snapshot writes the entries of an object, or of the pairs that make one, and reads them back
(`snapshot_eq_ok`).  The values of the pairs are parts of what is given (`toPairs_wellKeyed`), so they
are read back as they are; of keys that have the same text the last is.  What results has different
keys, and nothing changes any more: every object that can be encoded is its own snapshot, and so is
every snapshot (`snapshot_verbatim_idempotent`). -/

namespace TriggerFlow

namespace Value

open Outcome

variable {v : Value} {key value : Value} {index : Nat} {pairs done : List (Value × Value)}

/-! ### Pairs -/

/-- The value of a pair is an item of it, or a text. -/
theorem pair?_wellKeyed (keyed : v.WellKeyed) (h : v.pair? index = .ok (key, value)) :
    value.WellKeyed := by
  have second {items : List Value} (given : some items = some [key, value]) : value ∈ items :=
    Option.some.inj given ▸ List.mem_cons_of_mem _ List.mem_cons_self
  cases v with
  | list items =>
      simp only [pair?] at h
      split at h <;> cases h
      exact keyed.item (second ‹_›)
  | str s =>
      simp only [pair?] at h
      split at h <;> cases h
      obtain ⟨c, -, rfl⟩ := List.mem_map.mp (second ‹_›)
      exact wellKeyed_of_nesting_zero rfl
  | object entries =>
      simp only [pair?] at h
      split at h <;> cases h
      obtain ⟨e, -, rfl⟩ := List.mem_map.mp (second ‹_›)
      exact wellKeyed_of_nesting_zero rfl
  | _ => cases h

theorem setPair_wellKeyed (key : Value) (hdone : ∀ p ∈ done, p.2.WellKeyed)
    (hv : value.WellKeyed) : ∀ p ∈ setPair key value done, p.2.WellKeyed := by
  induction done with
  | nil => exact List.forall_mem_singleton.mpr hv
  | cons head rest ih =>
      obtain ⟨hhead, hrest⟩ := List.forall_mem_cons.mp hdone
      rw [setPair]
      split
      · exact List.forall_mem_cons.mpr ⟨hv, hrest⟩
      · exact List.forall_mem_cons.mpr ⟨hhead, ih hrest⟩

theorem addPairs_wellKeyed {items : List Value} (hdone : ∀ p ∈ done, p.2.WellKeyed)
    (keyed : ∀ v ∈ items, v.WellKeyed) (h : addPairs index done items = .ok pairs) :
    ∀ p ∈ pairs, p.2.WellKeyed := by
  induction items generalizing index done with
  | nil =>
      cases h
      exact hdone
  | cons v rest ih =>
      obtain ⟨hfirst, hrest⟩ := List.forall_mem_cons.mp keyed
      rw [addPairs, bind_eq_ok] at h
      obtain ⟨⟨key, value⟩, hpair, h⟩ := h
      have added := setPair_wellKeyed key hdone (pair?_wellKeyed hfirst hpair)
      cases key with
      | list | object => cases h
      | _ => exact ih added hrest h

theorem toPairs_wellKeyed (keyed : v.WellKeyed) (h : v.toPairs = .ok pairs) :
    ∀ p ∈ pairs, p.2.WellKeyed := by
  cases v with
  | object entries =>
      cases h
      exact List.forall_mem_map.mpr fun e he => keyed.entry he
  | list items => exact addPairs_wellKeyed (List.forall_mem_nil _) (fun v hv => keyed.item hv) h
  | str s =>
      refine addPairs_wellKeyed (List.forall_mem_nil _) (List.forall_mem_map.mpr fun c _ => ?_) h
      exact wellKeyed_of_nesting_zero rfl
  | _ => cases h

theorem underTexts_wellKeyed (h : ∀ p ∈ pairs, p.2.WellKeyed) :
    ∀ e ∈ underTexts pairs, e.2.WellKeyed :=
  List.forall_mem_map.mpr h

theorem underTexts_entries (entries : Entries) :
    underTexts (entries.map fun e => (.str e.1, e.2)) = entries := by
  rw [underTexts, List.map_map]
  exact List.map_id entries

/-- The keys of an object are texts, which are no obstacle. -/
theorem obstacleAmong?_texts {during : Descent} {levels : Nat} (entries : Entries) :
    obstacleAmong? during levels (entries.flatMap fun e => [.str e.1, e.2]) =
      obstacleUnder? during levels entries := by
  induction entries with
  | nil => rfl
  | cons e rest ih =>
      rw [List.flatMap_cons, List.cons_append, List.singleton_append, obstacleAmong?,
        obstacleAmong?, obstacleUnder?, ih]
      rfl

end Value

open Outcome Value

/-! ### Snapshots -/

section Snapshots

variable [Levels] {v w : Value} {entries : Entries} {pairs : List (Value × Value)}

/-- A snapshot has the entries of the pairs, and of those whose keys have the same text the last. -/
theorem snapshot_eq_ok (keyed : v.WellKeyed) :
    snapshot v = .ok w ↔ ∃ pairs, v.toPairs = .ok pairs ∧
      (Value.list (pairs.flatMap fun p => [p.1, p.2])).Encodable ∧
      w = .object (Entries.ofList (rereadEntries (underTexts pairs))) := by
  simp only [snapshot, bind_eq_ok, pure_eq_ok, ← checkEncoding_eq_ok]
  refine exists_congr fun pairs => and_congr_right fun found => ?_
  have read := Json.read_write_object (underTexts_wellKeyed (toPairs_wellKeyed keyed found))
  simp only [read, Option.getD_some]
  constructor
  · rintro ⟨⟨⟩, written, rfl⟩
    exact ⟨written, rfl⟩
  · rintro ⟨written, rfl⟩
    exact ⟨(), written, rfl⟩

/-- Of an object it is written whether it can be encoded, and what is read back. -/
theorem snapshot_object (entries : Entries) :
    snapshot (.object entries) = (do
      (Value.object entries).checkEncoding
      return (Json.read? (Json.write (.object entries))).getD .null) := by
  have check : (Value.list ((entries.map fun e => (Value.str e.1, e.2)).flatMap
      fun p => [p.1, p.2])).checkEncoding = (Value.object entries).checkEncoding := by
    rw [List.flatMap_map, checkEncoding, checkEncoding]
    cases Levels.encoding with
    | zero => rfl
    | succ levels => rw [obstacle?, obstacle?, obstacleAmong?_texts]
  simp only [snapshot, toPairs, bind, Except.bind, check, underTexts_entries]

/-- An object that can be encoded has a snapshot. -/
theorem snapshot_of_encodable (h : (Value.object entries).Encodable) :
    ∃ copy, snapshot (.object entries) = .ok copy := by
  rw [snapshot_object, checkEncoding_eq_ok.mpr h]
  exact ⟨_, rfl⟩

/-- The snapshot of an object that can be encoded is the object as it is read back. -/
theorem snapshot_eq_reread (keyed : (Value.object entries).WellKeyed)
    (h : (Value.object entries).Encodable) :
    snapshot (.object entries) = .ok (Value.object entries).reread := by
  rw [snapshot_object, checkEncoding_eq_ok.mpr h, Json.read_write keyed]
  rfl

theorem snapshot_object_eq_error {cause : Breakdown} :
    snapshot (.object entries) = .error cause ↔ (Value.object entries).Unencodable cause := by
  rw [snapshot_object, bind_eq_error, ← checkEncoding_eq_error]
  exact or_iff_left fun ⟨_, _, h⟩ => by cases h

theorem encodable_underTexts
    (h : (Value.list (pairs.flatMap fun p => [p.1, p.2])).Encodable) :
    (Value.object (underTexts pairs)).Encodable := by
  have inside : ∀ p ∈ pairs, p.2 ∈ pairs.flatMap fun p => [p.1, p.2] := fun p hp =>
    List.mem_flatMap.mpr ⟨p, hp, List.mem_cons_of_mem _ List.mem_cons_self⟩
  refine ⟨?_, anyLongIntegerAt_eq_false.mpr ?_⟩
  · have deep := h.nesting_le
    simp only [nesting] at deep ⊢
    refine Nat.le_trans (Nat.succ_le_succ ?_) deep
    exact nestingEntries_le_iff.mpr (List.forall_mem_map.mpr fun p hp =>
      nestingItems_le_iff.mp (Nat.le_refl _) p.2 (inside p hp))
  · exact List.forall_mem_map.mpr fun p hp =>
      anyLongInteger_eq_false.mp h.no_long_integer p.2 (inside p hp)

/-- What a snapshot results in has different keys, it can be encoded, and it is read back as it is. -/
theorem snapshot_result (keyed : v.WellKeyed) (h : snapshot v = .ok w) :
    ∃ entries, w = .object entries ∧ w.WellKeyed ∧ w.Encodable ∧ w.reread = w := by
  obtain ⟨pairs, found, written, rfl⟩ := (snapshot_eq_ok keyed).mp h
  have values := underTexts_wellKeyed (toPairs_wellKeyed keyed found)
  refine ⟨_, rfl, wellKeyed_object (Entries.nodup_ofList _) fun e he =>
      wellKeyed_rereadEntries _ values e (Entries.mem_of_ofList e he),
    (encodable_reread.mpr (encodable_underTexts written)).of_subset Entries.mem_of_ofList, ?_⟩
  refine congrArg Value.object ?_
  rw [rereadEntries_eq]
  refine (List.map_congr_left fun e he => ?_).trans (List.map_id _)
  have read := Entries.mem_of_ofList e he
  rw [rereadEntries_eq] at read
  obtain ⟨f, -, rfl⟩ := List.mem_map.mp read
  exact congrArg (f.1, ·) (reread_reread f.2)

/-- **A snapshot is verbatim and idempotent.**  The snapshot of an object is the object itself, as it
is read back: with the reader's not-a-number where it has one.  It fails only on an object that cannot
be encoded because it nests too deeply or holds an integer that is too long.  Whatever a snapshot is
taken of, pairs whose keys have the same text included, it is an object, and taking the snapshot of it
gives it again. -/
theorem snapshot_verbatim_idempotent (v : Value) (keyed : v.WellKeyed) :
    (∀ entries, v = .object entries →
      (∀ w, snapshot v = .ok w ↔ v.Encodable ∧ w = v.reread) ∧
      (v.NaNFree → v.reread = v) ∧
      ∀ cause, snapshot v = .error cause ↔ v.Unencodable cause) ∧
    ∀ w, snapshot v = .ok w → (∃ entries, w = .object entries) ∧ snapshot w = .ok w := by
  refine ⟨?_, fun w taken => ?_⟩
  · rintro entries rfl
    refine ⟨fun w => ⟨fun taken => ?_, ?_⟩, reread_eq_self _,
      fun cause => snapshot_object_eq_error⟩
    · have encodable : (Value.object entries).Encodable := by
        rw [snapshot_object, bind_eq_ok] at taken
        obtain ⟨⟨⟩, written, -⟩ := taken
        exact checkEncoding_eq_ok.mp written
      exact ⟨encodable, (Except.ok.inj ((snapshot_eq_reread keyed encodable).symm.trans taken)).symm⟩
    · rintro ⟨encodable, rfl⟩
      exact snapshot_eq_reread keyed encodable
  · obtain ⟨entries, rfl, keyed, encodable, read⟩ := snapshot_result keyed taken
    exact ⟨⟨entries, rfl⟩, (snapshot_eq_reread keyed encodable).trans (congrArg _ read)⟩

end Snapshots

/-- Pairs of which the first two have one key, and the third has a key of the same text. -/
def collidingPairs : Value := .list [
  .list [.int 1, .str "number"], .list [.bool true, .float (.nan (some 7))], .list [.str "1", .int 2],
  .list [.null, .float (.infinite true)]]

/-- The entries that the colliding pairs leave. -/
def collidedEntries : Value := .object [("1", .int 2), ("null", .float (.infinite true))]

theorem snapshot_verbatim_idempotent_collidingPairs :
    collidingPairs.WellKeyed ∧ snapshot collidingPairs = .ok collidedEntries ∧
      snapshot collidedEntries = .ok collidedEntries := by
  have keyed : collidingPairs.WellKeyed := by
    have atoms {v w : Value} (hv : v.nesting = 0) (hw : w.nesting = 0) :
        (Value.list [v, w]).WellKeyed :=
      wellKeyed_list (List.forall_mem_cons.mpr ⟨wellKeyed_of_nesting_zero hv,
        List.forall_mem_singleton.mpr (wellKeyed_of_nesting_zero hw)⟩)
    refine wellKeyed_list ?_
    simp only [List.forall_mem_cons, List.not_mem_nil, false_imp_iff, implies_true, and_true]
    exact ⟨atoms rfl rfl, atoms rfl rfl, atoms rfl rfl, atoms rfl rfl⟩
  have taken : snapshot collidingPairs = .ok collidedEntries :=
    (snapshot_eq_ok keyed).mpr
      ⟨_, rfl, ⟨by decide, by decide +kernel⟩, rfl⟩
  exact ⟨keyed, taken, ((snapshot_verbatim_idempotent _ keyed).2 _ taken).2⟩

end TriggerFlow
