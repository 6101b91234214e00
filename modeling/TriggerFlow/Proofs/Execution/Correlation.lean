import TriggerFlow.Proofs.Execution.Accounting

/-! # The business object of a record

A record names the business object that its event is about.  Three values may identify it: one that
the caller gives, the one under the own key of the trigger, and the one under `id`.  The first that is
there should count, but the engine passes over the first two where they count as false
(`eventOf_eq`).  So a record names the object that it should unless such a value is overlooked
(`names_iff`), and this holds of every record that a store is asked to create
(`execute_names_object`). -/

namespace TriggerFlow

open Outcome

/-! ### What identifies a business object -/

/-- The value under the own key of a trigger; a trigger outside the vocabulary has none. -/
def ownId (trigger : String) (context : Value) : Value :=
  match Trigger.ofName? trigger with
  | some t => context.get t.entityIdKey
  | none => .null

/-- The value, or null if it counts as false. -/
def Value.unlessFalse (v : Value) : Value := if v.truthy then v else .null

/-- The text of the first value that is not null; none if there is no such value. -/
def firstText [Levels] (ids : List Value) : Except Breakdown (Option String) :=
  match ids.find? (!·.isNull) with
  | some v => v.textWithin.map some
  | none => .ok none

namespace Request

/-- The values that may identify the business object of a request. -/
def identifiers (request : Request) : List Value :=
  [Value.ofOption .str request.entityId, ownId request.trigger request.context,
    request.context.get "id"]

/-- These values as the engine takes them. -/
def considered (request : Request) : List Value :=
  [(Value.ofOption .str request.entityId).unlessFalse,
    (ownId request.trigger request.context).unlessFalse, request.context.get "id"]

/-- A value that is there, and first, but counts as false: the engine passes over it. -/
inductive Overlooks (request : Request) : Value → Prop
  | given : request.entityId = some "" → Overlooks request (.str "")
  | own : request.entityId = none → ownId request.trigger request.context ≠ .null →
      (ownId request.trigger request.context).truthy = false →
      Overlooks request (ownId request.trigger request.context)

end Request

/-- The record names a business object: its type, or else that of the trigger, and its first id. -/
structure ExecutionRecord.Names [Levels] (record : ExecutionRecord) (trigger : String)
    (type : Option String) (ids : List Value) : Prop where
  entityType : record.entityType = type.orElse fun _ => entityType? trigger
  entityId : firstText ids = .ok record.entityId

/-! ### Texts -/

theorem Value.textWithin_of_false [Levels] {v : Value} (h : v.truthy = false) :
    v.textWithin = .ok v.text := by
  apply Value.textWithin_of_encodable
  cases v with
  | int n =>
      have zero : n = 0 := by simpa [Value.truthy] using h
      subst zero
      exact ⟨Nat.zero_le _, by decide +kernel⟩
  | str s => exact ⟨Nat.zero_le _, rfl⟩
  | list items =>
      cases items with
      | nil => exact ⟨Nat.le_of_succ_le Levels.enough_encoding, rfl⟩
      | cons item rest => cases h
  | object entries =>
      cases entries with
      | nil => exact ⟨Nat.le_of_succ_le Levels.enough_encoding, rfl⟩
      | cons entry rest => cases h
  | _ => exact ⟨Nat.zero_le _, rfl⟩

theorem Value.textWithin_str [Levels] (s : String) : (Value.str s).textWithin = .ok s :=
  Value.textWithin_of_encodable ⟨Nat.zero_le _, rfl⟩

theorem Value.ne_null_of_truthy {v : Value} (h : v.truthy = true) : v ≠ .null := by
  rintro rfl
  cases h

variable {v : Value} {ids : List Value} {request : Request} {entries : Entries}

theorem firstText_null [Levels] : firstText (.null :: ids) = firstText ids := rfl

theorem firstText_of_ne_null [Levels] (h : v ≠ .null) :
    firstText (v :: ids) = v.textWithin.map some := by
  cases v with
  | null => exact absurd rfl h
  | _ => rfl

theorem firstText_unlessFalse [Levels] :
    firstText (v.unlessFalse :: ids) =
      if v.truthy then v.textWithin.map some else firstText ids := by
  rw [Value.unlessFalse]
  split
  · exact firstText_of_ne_null (Value.ne_null_of_truthy ‹_›)
  · exact firstText_null

theorem firstText_singleton [Levels] :
    firstText [v] = if v.isNull then .ok none else v.textWithin.map some := by
  cases v <;> rfl

/-! ### What the engine takes -/

theorem entityId?_eq [Levels] (trigger : String) (entries : Entries) :
    entityId? trigger (.object entries) =
      firstText [(ownId trigger (.object entries)).unlessFalse, (Value.object entries).get "id"] := by
  change (let id := if (ownId trigger (.object entries)).truthy then ownId trigger (.object entries)
      else (Value.object entries).get "id"
    if id.isNull then .ok none else id.textWithin.map some) = _
  rw [firstText_unlessFalse, ← firstText_singleton]
  split
  · exact firstText_of_ne_null (Value.ne_null_of_truthy ‹_›)
  · rfl

theorem firstText_considered [Levels] (hcontext : request.context = .object entries) :
    firstText request.considered = match Engine.given request.entityId with
      | some id => .ok (some id)
      | none => entityId? request.trigger request.context := by
  rw [Request.considered, firstText_unlessFalse, hcontext, entityId?_eq]
  cases request.entityId with
  | none => rfl
  | some s =>
      by_cases empty : s = ""
      · subst empty
        rfl
      · have kept : (Value.str s).truthy = true := bne_iff_ne.mpr empty
        have given : Engine.given (some s) = some s := Option.filter_some_pos kept
        rw [Value.ofOption, kept, if_pos rfl, Value.textWithin_str, given]
        rfl

namespace Engine

/-- The event of a request is about the object that the considered values identify. -/
theorem eventOf_eq [Levels] (hcontext : request.context = .object entries) :
    eventOf request = (firstText request.considered).map fun id =>
      { trigger := request.trigger, context := request.context
        entityType := (given request.entityType).orElse fun _ => entityType? request.trigger
        entityId := id } := by
  rw [firstText_considered hcontext, eventOf]
  cases given request.entityId with
  | some id => rfl
  | none => cases entityId? request.trigger request.context <;> rfl

end Engine

/-! ### What is overlooked -/

theorem Value.unlessFalse_eq_self {v : Value} (h : v.truthy = false → v = .null) :
    v.unlessFalse = v := by
  cases htruthy : v.truthy with
  | true => rw [unlessFalse, htruthy, if_pos rfl]
  | false =>
      rw [h htruthy]
      rfl

/-- Unless a value is overlooked, the engine takes the first one that is there. -/
theorem firstText_identifiers [Levels] (h : ∀ v, ¬ request.Overlooks v) :
    firstText request.identifiers = firstText request.considered := by
  rw [Request.identifiers, Request.considered]
  cases hgiven : request.entityId with
  | none =>
      have own : (ownId request.trigger request.context).unlessFalse =
          ownId request.trigger request.context := by
        refine Value.unlessFalse_eq_self fun isFalse => ?_
        by_contra present
        exact h _ (.own hgiven present isFalse)
      rw [own]
      rfl
  | some s =>
      have kept : (Value.str s).truthy = true := by
        refine bne_iff_ne.mpr fun empty => ?_
        subst empty
        exact h _ (.given hgiven)
      rw [Value.ofOption, firstText_of_ne_null (Value.ne_null_of_truthy kept),
        firstText_unlessFalse, if_pos kept]

theorem Request.Overlooks.firstText_eq [Levels] (h : request.Overlooks v) :
    firstText request.identifiers = .ok (some v.text) := by
  rw [Request.identifiers]
  cases h with
  | given hgiven =>
      rw [hgiven]
      exact congrArg (Except.map some) (Value.textWithin_str "")
  | own hgiven present isFalse =>
      rw [hgiven, Value.ofOption, firstText_null, firstText_of_ne_null present,
        Value.textWithin_of_false isFalse]
      rfl

theorem entityType?_ne_empty (trigger : String) : entityType? trigger ≠ some "" := by
  unfold entityType?
  cases Trigger.ofName? trigger with
  | none => nofun
  | some t => cases t <;> decide

theorem Engine.given_eq_self {text : Option String} (h : text ≠ some "") : given text = text := by
  cases text with
  | none => rfl
  | some s => exact Option.filter_some_pos (bne_iff_ne.mpr fun empty => h (congrArg some empty))

/-- A record of the object that the engine takes is one of the object that the request is about, unless
the caller gives an empty type or an overlooked value has another text. -/
theorem names_iff [Levels] {record : ExecutionRecord}
    (named : record.Names request.trigger (Engine.given request.entityType) request.considered) :
    record.Names request.trigger request.entityType request.identifiers ↔
      request.entityType ≠ some "" ∧
        ∀ v, request.Overlooks v → record.entityId = some v.text := by
  constructor
  · rintro ⟨type, id⟩
    refine ⟨fun empty => ?_, fun v overlooked => ?_⟩
    · have derived := named.entityType
      rw [type, empty] at derived
      exact entityType?_ne_empty request.trigger derived.symm
    · rw [overlooked.firstText_eq] at id
      exact (Except.ok.inj id).symm
  · rintro ⟨type, id⟩
    refine ⟨?_, ?_⟩
    · rw [named.entityType, Engine.given_eq_self type]
    · by_cases h : ∃ v, request.Overlooks v
      · obtain ⟨v, overlooked⟩ := h
        rw [overlooked.firstText_eq, id v overlooked]
      · rw [firstText_identifiers (not_exists.mp h), named.entityId]

/-! ### What a store is asked for -/

/-- The record that an attempt is to create. -/
def Attempt.created? : Attempt → Option ExecutionRecord
  | ⟨.create record, _⟩ => some record
  | _ => none

/-- The records that a store has been asked to create, whether it did or not. -/
def Ledger.asked (ledger : Ledger) : List ExecutionRecord :=
  ledger.attempts.filterMap Attempt.created?

variable {ε : Type} {r r' : Recording (ε × Ledger)}

theorem Entered.asked {attempts : List Attempt} (h : Entered attempts r r') :
    r'.sink.2.asked = r.sink.2.asked ++ attempts.filterMap Attempt.created? := by
  rw [Ledger.asked, h.ledger, Ledger.enterAll_attempts, List.filterMap_append]
  rfl

/-- For each outcome of which a record can be made, the store is asked to create it. -/
theorem record_asks [Levels] (b : Backend ε) (event : Event) (o : WorkflowOutcome) :
    Adds (fun r : Recording (ε × Ledger) => r.sink.2.asked)
      (ExecutionRecord.make event o).toOption.toList (b.booked.sink.record event o) := by
  intro r
  rcases hmake : ExecutionRecord.make event o with cause | record
  · unfold Sink.record
    rw [hmake]
    exact (List.append_nil _).symm
  · obtain ⟨counts, only, entered⟩ := record_entered b hmake r
    refine entered.asked.trans ?_
    rcases only with rfl | ⟨answer, rfl⟩ <;> rfl

namespace Engine

variable (b : Backend ε) (sandbox : Value → Value → StateM ε Outcome)

theorem settle_asks_store [Levels] (hdry : request.dryRun = false) {event : Event}
    (hevent : eventOf request = .ok event) (outcomes : List WorkflowOutcome)
    (r : Recording (ε × Ledger)) :
    (settle (b.bookedServices sandbox) request outcomes r).1 = .completed outcomes ∧
      (settle (b.bookedServices sandbox) request outcomes r).2.sink.2.asked =
        r.sink.2.asked ++ outcomes.filterMap fun o => (ExecutionRecord.make event o).toOption := by
  have written : ∀ o s, ∃ written,
      ((b.bookedServices sandbox).record event o s).1 = .ok written := fun _ _ => ⟨_, rfl⟩
  rw [settle_of_recordAll hdry hevent (recordAll_eq_ok written outcomes r)]
  refine ⟨rfl, ?_⟩
  have asked : Adds (fun r : Recording (ε × Ledger) => r.sink.2.asked)
      (outcomes.flatMap fun o => (ExecutionRecord.make event o).toOption.toList)
      (recordAll (b.bookedServices sandbox) event outcomes) :=
    recordAll_adds written (fun o => record_asks b event o) outcomes
  rw [List.filterMap_eq_flatMap_toList]
  exact asked r

/-- A recorded batch asks for the records of the outcomes that it reports; if its event cannot be told,
it reports none and asks for none. -/
theorem execute_asks [Levels] (limits : Limits) (schedule : Schedule) (hdry : request.dryRun = false)
    (r : Recording (ε × Ledger)) :
    let run := execute (b.bookedServices sandbox) limits schedule request r
    match eventOf request with
    | .ok event => run.2.sink.2.asked = r.sink.2.asked ++
        (reported run.1).filterMap fun o => (ExecutionRecord.make event o).toOption
    | .error _ => reported run.1 = [] ∧ run.2.sink.2.asked = r.sink.2.asked := by
  intro run
  rcases @execute_course _ _ b sandbox (fun _ => True) (fun _ _ => trivial) limits schedule request
    r (fun _ _ _ _ _ _ _ => trivial) with ⟨none, quiet⟩ | ⟨outcomes, r', -, evaluated, course⟩
  · have nothing : reported run.1 = [] := none
    have same : run.2.sink.2.asked = r.sink.2.asked := quiet.asked.trans (List.append_nil _)
    rw [nothing, same]
    cases eventOf request with
    | error cause => exact ⟨rfl, rfl⟩
    | ok event => exact (List.append_nil _).symm
  · have same : r'.sink.2.asked = r.sink.2.asked := evaluated.asked.trans (List.append_nil _)
    rw [show run = _ from course]
    rcases hevent : eventOf request with cause | event
    · rw [settle_of_eventOf_error hdry hevent]
      exact ⟨rfl, same⟩
    · obtain ⟨completed, asked⟩ := settle_asks_store b sandbox hdry hevent outcomes r'
      rw [completed, ← same]
      exact asked

/-- A record of an event tells the object of the event. -/
theorem make_object [Levels] {event : Event} {o : WorkflowOutcome} {record : ExecutionRecord}
    (h : (ExecutionRecord.make event o).toOption = some record) :
    record.entityType = event.entityType ∧ record.entityId = event.entityId := by
  obtain h := toOption_eq_some.mp h
  obtain ⟨context, -, h⟩ := bind_eq_ok.mp h
  dsimp only at h
  split at h <;>
    obtain ⟨result, -, h⟩ := bind_eq_ok.mp h <;>
    cases h <;>
    exact ⟨rfl, rfl⟩

/-- **The business object of a record.**  Let the store refuse whatever writes it likes, and let the
sandbox answer what it likes.  The records that a recorded batch asks the store to create are those
that can be made of the outcomes in the report.  Each names the type that the caller gives, unless it
is empty, and else that of the trigger; and the first id of those that the engine considers.  That is
the object that the request is about unless the caller gives an empty type, or a value is overlooked
whose text is another one. -/
theorem execute_names_object [Levels] (limits : Limits) (schedule : Schedule) (request : Request)
    (hdry : request.dryRun = false) (hcontext : request.context = .object entries)
    (r : Recording (ε × Ledger)) :
    let run := execute (b.bookedServices sandbox) limits schedule request r
    ∃ event : Event,
      let records := (reported run.1).filterMap fun o => (ExecutionRecord.make event o).toOption
      run.2.sink.2.asked = r.sink.2.asked ++ records ∧
      ∀ record ∈ records,
        record.Names request.trigger (given request.entityType) request.considered ∧
        (record.Names request.trigger request.entityType request.identifiers ↔
          request.entityType ≠ some "" ∧
            ∀ v, request.Overlooks v → record.entityId = some v.text) := by
  intro run
  have asks := execute_asks b sandbox limits schedule hdry r
  rw [eventOf_eq hcontext] at asks
  rcases hid : firstText request.considered with cause | id
  · rw [hid] at asks
    obtain ⟨none, silent⟩ := asks
    refine ⟨⟨request.trigger, request.context, .none, .none⟩, ?_, ?_⟩
    · rw [show reported run.1 = [] from none]
      exact silent.trans (List.append_nil _).symm
    · rw [show reported run.1 = [] from none]
      exact nofun
  · rw [hid] at asks
    refine ⟨_, asks, fun record hrecord => ?_⟩
    obtain ⟨o, -, made⟩ := List.mem_filterMap.mp hrecord
    obtain ⟨type, object⟩ := make_object made
    have named : record.Names request.trigger (given request.entityType) request.considered :=
      ⟨type, by rw [hid, object]⟩
    exact ⟨named, names_iff named⟩

/-! ### A parcel, and an order that is overlooked -/

/-- What becomes of a request for one workflow whose records are stored. -/
def recordedRun (request : Request) : Except Fault Report × Recording (Memory × Ledger) :=
  execute (Memory.backend.bookedServices fun tree context => pure (Rule.evaluate tree context)) {}
    [] request { sink := (soleStore, {}) }

/-- A parcel; there is no order. -/
def lostParcel : Request where
  trigger := "ORDER_CREATED"
  context := .object [("orderId", .null), ("id", .int 12)]
  entityType := some "Parcel"

theorem execute_names_object_lostParcel :
    (recordedRun lostParcel).2.sink.2.asked.map (fun record => (record.entityType, record.entityId)) =
        [(some "Parcel", some "12")] ∧
      ∀ record ∈ (recordedRun lostParcel).2.sink.2.asked,
        record.Names lostParcel.trigger lostParcel.entityType lostParcel.identifiers := by
  have plain : ∀ v, ¬ lostParcel.Overlooks v := by
    rintro _ (given | ⟨-, present, -⟩)
    · cases given
    · exact present rfl
  obtain ⟨event, asked, named⟩ := execute_names_object Memory.backend
    (fun tree context => pure (Rule.evaluate tree context)) {} [] lostParcel rfl rfl
    { sink := (soleStore, {}) }
  refine ⟨by decide +kernel, fun record hrecord => ?_⟩
  rw [recordedRun, asked] at hrecord
  obtain ⟨-, whole⟩ := named record ((List.mem_append.mp hrecord).resolve_left List.not_mem_nil)
  exact whole.mpr ⟨by decide, fun v overlooked => absurd overlooked (plain v)⟩

/-- The order of number 0, in an event that has an id too. -/
def zeroOrder : Request where
  trigger := "ORDER_CREATED"
  context := .object [("orderId", .int 0), ("id", .str "evt-7")]

/-- The record names the event and not the order. -/
theorem zeroOrder_is_overlooked :
    (recordedRun zeroOrder).2.sink.2.asked.map ExecutionRecord.entityId = [some "evt-7"] ∧
      firstText zeroOrder.identifiers = .ok (some "0") ∧
      ∀ record ∈ (recordedRun zeroOrder).2.sink.2.asked,
        ¬ record.Names zeroOrder.trigger zeroOrder.entityType zeroOrder.identifiers := by
  have first : firstText zeroOrder.identifiers = .ok (some "0") := by decide +kernel
  have recorded :
      (recordedRun zeroOrder).2.sink.2.asked.map ExecutionRecord.entityId = [some "evt-7"] := by
    decide +kernel
  refine ⟨recorded, first, fun record hrecord names => ?_⟩
  have id := List.mem_map_of_mem (f := ExecutionRecord.entityId) hrecord
  rw [recorded, List.mem_singleton] at id
  have other := names.entityId
  rw [first, id] at other
  exact absurd other (by decide)

end Engine

end TriggerFlow
