import Mathlib.Data.List.TakeWhile
import Mathlib.Data.Nat.Digits.Defs
import TriggerFlow.Proofs.Number.Numeral
import TriggerFlow.Proofs.Outcome
import TriggerFlow.Proofs.Value.Parts
import TriggerFlow.Rule.Path
import TriggerFlow.Schema.Checked

/-! # Where paths lead

A segment leads from a value to a part of it (`Leads`), or nowhere (`LeadsNowhere`), or it consists of
digits that write no index (`Unreadable`); one of these is always the case (`segment_cases`).  A way
along segments goes from part to part and never over null (`Reaches`).  It reaches the end of the path
or stops at the first segment that leads nowhere (`Strays`) or cannot be read (`Misleads`), and that is
what `resolve` tells: `resolve_of_reaches`, `resolve_of_strays`, `resolve_of_misleads`.  A part that is
addressed place by place is reached by the path that its places write (`Addresses.reaches`). -/

namespace TriggerFlow.Rule

open Outcome Value

variable {segment : String} {v u w : Value} {cause : Breakdown} {before rest path : List String}

/-! ### Indices -/

/-- A text of decimal digits, which are few enough to be read, writes a number. -/
def WritesIndex (segment : String) (index : Nat) : Prop :=
  segment ≠ "" ∧ ∃ digits : List Nat, segment.toList.map Text.decimalValue? = digits.map some ∧
    digits.length ≤ Breakdown.digitLimit ∧ digits.foldl (fun n d => 10 * n + d) 0 = index

/-- The decimal digits that a text starts with. -/
def leadingDigits (segment : String) : List Char :=
  segment.toList.takeWhile fun c => (Text.decimalValue? c).isSome

/-- Why a text of digits writes no index: there are too many of them, or one is not decimal. -/
inductive Unreadable (segment : String) : Breakdown → Prop
  | tooMany : Breakdown.digitLimit < (leadingDigits segment).length →
      Unreadable segment (.tooManyDigits (leadingDigits segment).length)
  | notDecimal {c : Char} : (leadingDigits segment).length ≤ Breakdown.digitLimit →
      c ∈ segment.toList → Text.decimalValue? c = none → Unreadable segment (.notAnInteger segment)

theorem isDigit_of_decimalValue? {c : Char} {d : Nat} (h : Text.decimalValue? c = some d) :
    Text.isDigit c = true := by
  unfold Text.decimalValue? at h
  unfold Text.isDigit
  split at h
  · split at h
    · rwa [if_pos ‹_›]
    · cases h
  · rw [if_neg ‹_›, Bool.or_eq_true]
    obtain ⟨range, found, -⟩ := Option.map_eq_some_iff.mp h
    have inside := List.find?_some found
    exact .inl (List.any_eq_true.mpr ⟨range, List.mem_of_find?_eq_some found, inside⟩)

theorem leadingDigits_eq_iff :
    leadingDigits segment = segment.toList ↔
      ∀ c ∈ segment.toList, (Text.decimalValue? c).isSome = true :=
  List.takeWhile_eq_self_iff

theorem leadingDigits_lt {c : Char} (hc : c ∈ segment.toList) (hn : Text.decimalValue? c = none) :
    (leadingDigits segment).length < segment.toList.length := by
  by_contra long
  have whole := (List.takeWhile_prefix _).eq_of_length_le (Nat.le_of_not_lt long)
  have decimal := leadingDigits_eq_iff.mp whole c hc
  rw [hn] at decimal
  cases decimal

theorem readIndex_eq (segment : String) :
    readIndex segment =
      if Breakdown.digitLimit < (leadingDigits segment).length then
        .error (.tooManyDigits (leadingDigits segment).length)
      else if (leadingDigits segment).length < segment.toList.length then
        .error (.notAnInteger segment)
      else .ok ((segment.toList.map Text.decimalValue?).foldl (fun n d => 10 * n + d.getD 0) 0) := by
  have leading : ((segment.toList.map Text.decimalValue?).takeWhile Option.isSome).length =
      (leadingDigits segment).length := by
    rw [List.takeWhile_map, List.length_map]
    rfl
  rw [readIndex, leading, List.length_map]

theorem WritesIndex.leadingDigits_eq {index : Nat} (h : WritesIndex segment index) :
    leadingDigits segment = segment.toList := by
  obtain ⟨-, digits, hd, -, -⟩ := h
  refine leadingDigits_eq_iff.mpr fun c hc => ?_
  have value : Text.decimalValue? c ∈ digits.map some := hd ▸ List.mem_map_of_mem hc
  obtain ⟨d, -, hd⟩ := List.mem_map.mp value
  rw [← hd, Option.isSome_some]

theorem WritesIndex.isIndex {index : Nat} (h : WritesIndex segment index) :
    isIndex segment = true := by
  rw [Rule.isIndex, Bool.and_eq_true, List.all_eq_true]
  refine ⟨bne_iff_ne.mpr h.1, fun c hc => ?_⟩
  obtain ⟨d, hd⟩ := Option.isSome_iff_exists.mp (leadingDigits_eq_iff.mp h.leadingDigits_eq c hc)
  exact isDigit_of_decimalValue? hd

theorem readIndex_of_writes {index : Nat} (h : WritesIndex segment index) :
    readIndex segment = .ok index := by
  have whole := h.leadingDigits_eq
  obtain ⟨-, digits, hd, few, rfl⟩ := h
  have count : segment.toList.length = digits.length := by
    rw [← List.length_map (f := Text.decimalValue?), hd, List.length_map]
  rw [readIndex_eq, whole, count, if_neg (Nat.not_lt.mpr few), if_neg (Nat.lt_irrefl _), hd,
    List.foldl_map]
  rfl

theorem readIndex_of_unreadable (h : Unreadable segment cause) :
    readIndex segment = .error cause := by
  rw [readIndex_eq]
  cases h with
  | tooMany many => rw [if_pos many]
  | notDecimal few hc hn => rw [if_neg (Nat.not_lt.mpr few), if_pos (leadingDigits_lt hc hn)]

/-- Digits write an index or are unreadable. -/
theorem index_cases (h : isIndex segment = true) :
    (∃ index, WritesIndex segment index) ∨ ∃ cause, Unreadable segment cause := by
  by_cases few : (leadingDigits segment).length ≤ Breakdown.digitLimit
  · by_cases decimal : ∀ c ∈ segment.toList, (Text.decimalValue? c).isSome = true
    · refine .inl ⟨_, ?_, segment.toList.map fun c => (Text.decimalValue? c).getD 0, ?_, ?_, rfl⟩
      · rw [isIndex, Bool.and_eq_true] at h
        exact bne_iff_ne.mp h.1
      · rw [List.map_map]
        refine List.map_congr_left fun c hc => ?_
        obtain ⟨d, hd⟩ := Option.isSome_iff_exists.mp (decimal c hc)
        rw [Function.comp, hd, Option.getD_some]
      · rw [List.length_map, ← leadingDigits_eq_iff.mpr decimal]
        exact few
    · push Not at decimal
      obtain ⟨c, hc, hn⟩ := decimal
      exact .inr ⟨_, .notDecimal few hc (Option.not_isSome_iff_eq_none.mp hn)⟩
  · exact .inr ⟨_, .tooMany (Nat.lt_of_not_le few)⟩

/-! ### Segments -/

/-- A segment leads to a part of a value: by the key of an object, or by the index of an item. -/
inductive Leads : Value → String → Value → Prop
  | entry {entries : Entries} {segment : String} {v : Value} :
      entries.lookup segment = some v → Leads (.object entries) segment v
  | item {items : List Value} {segment : String} {index : Nat} {v : Value} :
      WritesIndex segment index → items[index]? = some v → Leads (.list items) segment v

/-- A segment leads to nothing: its key is missing, it is no index of the list, what is there is null,
or the value has no parts. -/
inductive LeadsNowhere : Value → String → Prop
  | missing {entries : Entries} {segment : String} :
      entries.lookup segment = none → LeadsNowhere (.object entries) segment
  | noIndex {items : List Value} {segment : String} :
      isIndex segment = false → LeadsNowhere (.list items) segment
  | beyond {items : List Value} {segment : String} {index : Nat} :
      WritesIndex segment index → items.length ≤ index → LeadsNowhere (.list items) segment
  | null {v : Value} {segment : String} : Leads v segment .null → LeadsNowhere v segment
  | scalar {v : Value} {segment : String} :
      v.kind ≠ .object → v.kind ≠ .list → LeadsNowhere v segment

theorem descend_of_leads (h : Leads v segment w) : descend segment v = .ok w := by
  cases h with
  | entry found => rw [descend, get_of_lookup found]
  | item writes found =>
      rw [descend, if_pos writes.isIndex, readIndex_of_writes writes]
      change Except.ok _ = _
      rw [List.getD_eq_getElem?_getD, found, Option.getD_some]

theorem descend_of_nowhere (h : LeadsNowhere v segment) : descend segment v = .ok .null := by
  cases h with
  | missing none => rw [descend, get_of_missing none]
  | noIndex other => rw [descend, if_neg (by rw [other]; decide)]
  | beyond writes short =>
      rw [descend, if_pos writes.isIndex, readIndex_of_writes writes]
      change Except.ok _ = _
      rw [List.getD_eq_getElem?_getD, List.getElem?_eq_none short, Option.getD_none]
  | null leads => exact descend_of_leads leads
  | scalar object list => cases v <;> first | rfl | exact absurd rfl object | exact absurd rfl list

theorem descend_of_unreadable {items : List Value} (digits : isIndex segment = true)
    (h : Unreadable segment cause) : descend segment (.list items) = .error cause := by
  rw [descend, if_pos digits, readIndex_of_unreadable h]
  rfl

theorem isNull_of_ne_null (h : v ≠ .null) : v.isNull = false := by
  cases v <;> first | rfl | exact absurd rfl h

/-- A segment leads to a part that is not null, or nowhere, or it stands at a list and consists of
digits that write no index. -/
theorem segment_cases (v : Value) (segment : String) :
    (∃ w, Leads v segment w ∧ w.isNull = false) ∨ LeadsNowhere v segment ∨
      ∃ items cause, v = .list items ∧ isIndex segment = true ∧ Unreadable segment cause := by
  have part {w : Value} (leads : Leads v segment w) :
      (∃ w, Leads v segment w ∧ w.isNull = false) ∨ LeadsNowhere v segment := by
    by_cases hw : w = .null
    · exact .inr (.null (hw ▸ leads))
    · exact .inl ⟨w, leads, isNull_of_ne_null hw⟩
  cases v with
  | object entries =>
      cases found : entries.lookup segment with
      | none => exact .inr (.inl (.missing found))
      | some w => exact (part (.entry found)).imp_right .inl
  | list items =>
      cases digits : isIndex segment with
      | false => exact .inr (.inl (.noIndex digits))
      | true =>
          rcases index_cases digits with ⟨index, writes⟩ | ⟨cause, unreadable⟩
          · cases found : items[index]? with
            | none => exact .inr (.inl (.beyond writes (List.getElem?_eq_none_iff.mp found)))
            | some w => exact (part (.item writes found)).imp_right .inl
          · exact .inr (.inr ⟨items, cause, rfl, rfl, unreadable⟩)
  | _ => exact .inr (.inl (.scalar nofun nofun))

/-! ### Ways -/

/-- The way along a path leads from part to part, none of them null. -/
inductive Reaches : Value → List String → Value → Prop
  | here (v : Value) : Reaches v [] v
  | step {v u w : Value} {segment : String} {rest : List String} : Leads v segment u →
      u.isNull = false → Reaches u rest w → Reaches v (segment :: rest) w

/-- The way along a path comes to a segment that leads nowhere. -/
def Strays (v : Value) (path : List String) : Prop :=
  ∃ before segment after u, path = before ++ segment :: after ∧ Reaches v before u ∧
    LeadsNowhere u segment

/-- The way along a path comes to a list and there to digits that write no index. -/
def Misleads (v : Value) (path : List String) (cause : Breakdown) : Prop :=
  ∃ before segment after items, path = before ++ segment :: after ∧
    Reaches v before (.list items) ∧ isIndex segment = true ∧ Unreadable segment cause

theorem Strays.step (leads : Leads v segment u) (hu : u.isNull = false) (h : Strays u rest) :
    Strays v (segment :: rest) := by
  obtain ⟨before, stop, after, w, rfl, reaches, nowhere⟩ := h
  exact ⟨segment :: before, stop, after, w, rfl, .step leads hu reaches, nowhere⟩

theorem Misleads.step (leads : Leads v segment u) (hu : u.isNull = false)
    (h : Misleads u rest cause) : Misleads v (segment :: rest) cause := by
  obtain ⟨before, stop, after, items, rfl, reaches, unreadable⟩ := h
  exact ⟨segment :: before, stop, after, items, rfl, .step leads hu reaches, unreadable⟩

/-- The way along a path has an end. -/
theorem path_cases (v : Value) (path : List String) :
    (∃ w, Reaches v path w) ∨ Strays v path ∨ ∃ cause, Misleads v path cause := by
  induction path generalizing v with
  | nil => exact .inl ⟨v, .here v⟩
  | cons segment rest ih =>
      rcases segment_cases v segment with ⟨u, leads, hu⟩ | nowhere |
        ⟨items, cause, rfl, digits, unreadable⟩
      · rcases ih u with ⟨w, reaches⟩ | strays | ⟨cause, misleads⟩
        · exact .inl ⟨w, .step leads hu reaches⟩
        · exact .inr (.inl (strays.step leads hu))
        · exact .inr (.inr ⟨cause, misleads.step leads hu⟩)
      · exact .inr (.inl ⟨[], segment, rest, v, rfl, .here v, nowhere⟩)
      · exact .inr (.inr ⟨cause, [], segment, rest, items, rfl, .here _, digits, unreadable⟩)

theorem Reaches.isNull (h : Reaches v path w) (hv : v.isNull = false) : w.isNull = false := by
  induction h with
  | here => exact hv
  | step leads hu _ ih => exact ih hu

/-- A path can be followed part by part. -/
theorem resolve_append (h : Reaches v before u) (rest : List String) :
    resolve v (before ++ rest) = resolve u rest := by
  induction h with
  | here => rfl
  | step leads hu _ ih =>
      rw [List.cons_append, resolve, descend_of_leads leads]
      change (if _ then _ else _) = _
      rw [if_neg (by rw [hu]; decide), ih]

theorem resolve_of_reaches (h : Reaches v path w) : resolve v path = .ok w := by
  have followed := resolve_append h []
  rwa [List.append_nil] at followed

theorem resolve_of_strays (h : Strays v path) : resolve v path = .ok .null := by
  obtain ⟨before, segment, after, u, rfl, reaches, nowhere⟩ := h
  rw [resolve_append reaches, resolve, descend_of_nowhere nowhere]
  rfl

theorem resolve_of_misleads (h : Misleads v path cause) : resolve v path = .error cause := by
  obtain ⟨before, segment, after, items, rfl, reaches, digits, unreadable⟩ := h
  rw [resolve_append reaches, resolve, descend_of_unreadable digits unreadable]
  rfl

/-! ### Dotted paths -/

/-- The segments to go along; an empty path leads nowhere else. -/
def way (path : String) : List String := if path == "" then [] else segments path

theorem way_of_ne {path : String} (h : path ≠ "") : way path = segments path :=
  if_neg fun empty => h (beq_iff_eq.mp empty)

theorem splitAt_ne_nil (separator : Char) (cs : List Char) : Text.splitAt separator cs ≠ [] := by
  cases cs with
  | nil => nofun
  | cons c rest =>
      rw [Text.splitAt]
      split
      · split <;> nofun
      · nofun

theorem splitAt_free {separator : Char} {piece : List Char} (free : separator ∉ piece) :
    Text.splitAt separator piece = [piece] := by
  induction piece with
  | nil => rfl
  | cons c piece ih =>
      rw [List.mem_cons, not_or] at free
      rw [Text.splitAt, ih free.2]
      exact if_neg fun same => free.1 (beq_iff_eq.mp same).symm

/-- A separator ends the piece in front of it. -/
theorem splitAt_append {separator : Char} {piece : List Char} (free : separator ∉ piece)
    (rest : List Char) :
    Text.splitAt separator (piece ++ separator :: rest) =
      piece :: Text.splitAt separator rest := by
  induction piece with
  | nil =>
      rw [List.nil_append, Text.splitAt]
      split
      · rename_i first others h
        rw [h]
        exact if_pos (beq_self_eq_true separator)
      · exact absurd ‹_› (splitAt_ne_nil separator rest)
  | cons c piece ih =>
      rw [List.mem_cons, not_or] at free
      rw [List.cons_append, Text.splitAt, ih free.2]
      exact if_neg fun same => free.1 (beq_iff_eq.mp same).symm

theorem splitAt_intercalate {separator : Char} {pieces : List (List Char)} (ne : pieces ≠ [])
    (free : ∀ piece ∈ pieces, separator ∉ piece) :
    Text.splitAt separator ([separator].intercalate pieces) = pieces := by
  induction pieces with
  | nil => exact absurd rfl ne
  | cons piece others ih =>
      obtain ⟨first, free⟩ := List.forall_mem_cons.mp free
      cases others with
      | nil => rw [List.intercalate_singleton, splitAt_free first]
      | cons next others =>
          rw [List.intercalate_cons_cons, List.append_assoc, List.singleton_append,
            splitAt_append first, ih nofun free]

/-- Joined segments are found again if none of them has a dot. -/
theorem segments_join {pieces : List String} (ne : pieces ≠ [])
    (free : ∀ piece ∈ pieces, '.' ∉ piece.toList) : segments (".".intercalate pieces) = pieces := by
  have split : Text.splitAt '.' (['.'].intercalate (pieces.map String.toList)) =
      pieces.map String.toList := by
    refine splitAt_intercalate (fun empty => ne (List.map_eq_nil_iff.mp empty)) ?_
    rw [List.forall_mem_map]
    exact free
  rw [segments, String.toList_intercalate]
  change (Text.splitAt '.' (['.'].intercalate _)).map String.ofList = _
  rw [split, List.map_map]
  refine (List.map_congr_left fun piece _ => ?_).trans (List.map_id pieces)
  exact String.ofList_toList

/-! ### Places -/

open Schema (Place)

/-- The segment that leads to a place. -/
def segmentOf : Place → String
  | .field name => name
  | .item index => toString index

/-- The path along places. -/
def dotted (places : List Place) : String := ".".intercalate (places.map segmentOf)

/-- A part of a value is found place by place, in fields whose names have no dot and in items whose
index has no more digits than can be read. -/
inductive Addresses : Value → List Place → Value → Prop
  | here (v : Value) : Addresses v [] v
  | field {entries : Entries} {name : String} {v w : Value} {places : List Place} :
      entries.lookup name = some v → '.' ∉ name.toList → Addresses v places w →
        Addresses (.object entries) (.field name :: places) w
  | item {items : List Value} {index : Nat} {v w : Value} {places : List Place} :
      items[index]? = some v → index < 10 ^ Breakdown.digitLimit → Addresses v places w →
        Addresses (.list items) (.item index :: places) w

variable {places : List Place}

theorem decimalValue?_of_isDigit {c : Char} (h : c.isDigit = true) :
    Text.decimalValue? c = some (c.toNat - '0'.toNat) := by
  have ascii : c.toNat < 0x80 := Nat.lt_of_le_of_lt (Char.isDigit_iff_toNat.mp h).2 (by decide)
  rw [Text.decimalValue?, if_pos ascii, if_pos h]

theorem toList_toString (n : Nat) : (toString n).toList = Nat.toDigits 10 n := Nat.toList_repr

theorem writesIndex_toString {index : Nat} (h : index < 10 ^ Breakdown.digitLimit) :
    WritesIndex (toString index) index := by
  refine ⟨fun empty => ?_, (Nat.toDigits 10 index).map fun c => c.toNat - '0'.toNat, ?_, ?_, ?_⟩
  · have none := toList_toString index
    rw [empty] at none
    exact Nat.toDigits_ne_nil none.symm
  · rw [toList_toString, List.map_map]
    exact List.map_congr_left fun c hc =>
      decimalValue?_of_isDigit (Decimal.digits_toDigits index c hc)
  · rw [List.length_map]
    exact Nat.toDigits_length 10 index _ (by decide) h
  · rw [List.foldl_map]
    exact Decimal.digitsValue_toDigits index

theorem dot_notMem_toString (n : Nat) : '.' ∉ (toString n).toList := by
  rw [toList_toString]
  intro dot
  cases Decimal.digits_toDigits n _ dot

theorem Addresses.dot_notMem (h : Addresses v places w) :
    ∀ segment ∈ places.map segmentOf, '.' ∉ segment.toList := by
  induction h with
  | here => nofun
  | field _ free _ ih => exact List.forall_mem_cons.mpr ⟨free, ih⟩
  | item _ _ _ ih => exact List.forall_mem_cons.mpr ⟨dot_notMem_toString _, ih⟩

theorem Addresses.isNull (h : Addresses v places w) (hw : w.isNull = false) : v.isNull = false := by
  cases h with
  | here => exact hw
  | field | item => rfl

/-- A part that is addressed and not null is reached. -/
theorem Addresses.reaches (h : Addresses v places w) (hw : w.isNull = false) :
    Reaches v (places.map segmentOf) w := by
  induction h with
  | here => exact .here _
  | field found _ below ih => exact .step (.entry found) (below.isNull hw) (ih hw)
  | item found short below ih =>
      exact .step (.item (writesIndex_toString short) found) (below.isNull hw) (ih hw)

theorem Addresses.way_eq (h : Addresses v places w) (ne : dotted places ≠ "") :
    way (dotted places) = places.map segmentOf := by
  rw [way_of_ne ne]
  refine segments_join (fun empty => ne ?_) h.dot_notMem
  rw [dotted, empty]
  rfl

end TriggerFlow.Rule
