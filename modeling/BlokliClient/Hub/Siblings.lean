import BlokliClient.Library.Solo
import BlokliClient.Hub.Connections
import BlokliClient.Hub.Dispatch
import BlokliClient.Hub.Overflow
import BlokliClient.Hub.Supervision

/-!
# A frame and the siblings on the shared connection

One frame of the shared connection carries something for many slots, and some of
it may be broken. That stays between the hub and the slots that it is broken for.
The file follows the supervisor, with no other task running, from the event to the
next turn of `drive`, and looks at one slot only:

* `SlotView` is all that the hub keeps for a slot, and `SlotView.share` what a
  frame is meant to make of it, given what it decoded to.
* Whatever the supervisor does for another slot leaves the view alone: an update
  of health, an isolation with the supervisors it starts, a rejection, a delivery
  (`arrives_*_other`).
* So each loop of `dispatch` leaves the view alone but for the turn of the slot
  itself (`arrives_payloads`, `arrives_errors`), and the flags that decide what
  `dispatch` returns stay down (`Unharmed`).
* The view afterwards is a function of the view before and of the slot's own
  payload. Taking the parts of other slots out of the frame does not change
  either (`GraphQlResponse.without`), hence not the result.
-/

namespace Blokli

open Worklist Program

variable {V : Type}

/-! ### What the hub keeps for a slot -/

/-- What the hub keeps under the id of a slot. -/
structure SlotView (V : Type) where
  queue : List (Item V)
  lagging : Bool
  closed : Bool
  entry : Option (SlotEntry V)

def Store.view (s : Store V) (id : SlotId) : SlotView V where
  queue := s.queues id
  lagging := s.lagging id
  closed := s.closed id
  entry := s.state.slots id

namespace SlotView

variable (v : SlotView V)

/-- An update of the health of the slot. -/
def touch (update : HealthUpdate) (now : Instant) : SlotView V :=
  { v with entry := v.entry.map fun e => { e with health := update.apply e.health now } }

/-- An item for the slot on the shared connection: queued if there is room, and
dropped with the lag flag raised if there is none. -/
def offer (item : Item V) (now : Instant) : SlotView V :=
  if v.closed then v
  else if v.queue.length < slotChannelCapacity then
    { v with queue := v.queue ++ [item] }.touch .dataUpdate now
  else if v.lagging then v
  else { v with lagging := true }.touch .lagging now

/-- What a frame makes of a slot whose part of it is fine: its payload, if there
is one, and a sign of life. -/
def share (part : Option (Item V)) (now : Instant) : SlotView V :=
  (part.elim v fun item => v.offer item now).touch .transportActivity now

/-- The slot is registered and on the shared connection. -/
def OnShared : Prop := ∃ e, v.entry = some e ∧ e.isolated = none

variable {v}

theorem OnShared.touch (h : v.OnShared) (update : HealthUpdate) (now : Instant) :
    (v.touch update now).OnShared := by
  obtain ⟨e, h_e, h_iso⟩ := h
  exact ⟨{ e with health := update.apply e.health now }, by unfold SlotView.touch; rw [h_e]; rfl,
    h_iso⟩

theorem OnShared.offer (h : v.OnShared) (item : Item V) (now : Instant) :
    (v.offer item now).OnShared := by
  unfold SlotView.offer
  split
  · exact h
  · split
    · have h_push : OnShared { v with queue := v.queue ++ [item] } := h
      exact h_push.touch _ _
    · split
      · exact h
      · have h_flag : OnShared { v with lagging := true } := h
        exact h_flag.touch _ _

theorem OnShared.share (h : v.OnShared) (part : Option (Item V)) (now : Instant) :
    (v.share part now).OnShared := by
  cases part with
  | none => exact h.touch _ _
  | some item => exact (h.offer item now).touch _ _

end SlotView

/-- The view of slot `id`, at a clock that stands still. -/
structure Shows (id : SlotId) (v : SlotView V) (now : Instant) (s : Store V) : Prop where
  view : s.view id = v
  clock : s.clock = now

variable {hub : HubConfig} {t : Task} {c : Config V} {id : SlotId} {v : SlotView V}
  {now : Instant} {rest : List (Instr V)}

theorem Shows.of_same {s s' : Store V} (h : Shows id v now s) (h_queue : s'.queues id = s.queues id)
    (h_lagging : s'.lagging id = s.lagging id) (h_closed : s'.closed id = s.closed id)
    (h_slot : s'.state.slots id = s.state.slots id) (h_clock : s'.clock = s.clock) :
    Shows id v now s' where
  view := by
    have h_view : s'.view id = s.view id := by
      unfold Store.view
      rw [h_queue, h_lagging, h_closed, h_slot]
    exact h_view.trans h.view
  clock := h_clock.trans h.clock

/-- The entry of the slot, as the view has it. -/
theorem Shows.entry {s : Store V} (h : Shows id v now s) : s.state.slots id = v.entry :=
  congrArg SlotView.entry h.view

/-! ### What is done for other slots -/

/-- What an update of health makes of an entry. -/
theorem withHealth_slots (s : HubState V) (scope : Scope) (ids : List SlotId)
    (update : HealthUpdate) (id : SlotId) : (s.withHealth scope ids update now).slots id =
      (s.slots id).map fun e => if decide (id ∈ ids) && e.belongsTo id scope then
        { e with health := update.apply e.health now } else e := rfl

/-- An update of health leaves the slots that are not listed alone. -/
theorem withHealth_slots_of_not_mem (s : HubState V) (scope : Scope) {ids : List SlotId}
    (update : HealthUpdate) (h : id ∉ ids) :
    (s.withHealth scope ids update now).slots id = s.slots id := by
  rw [withHealth_slots]
  simp only [h, decide_false, Bool.false_and, Bool.false_eq_true, if_false, Option.map_id']

/-- An update of the health of other slots. -/
theorem arrives_withHealth_other {scope : Scope} {ids : List SlotId} {update : HealthUpdate}
    (h_todo : c.todo t = .withHealth scope ids update :: rest) (h_id : id ∉ ids)
    (h : Shows id v now c.store) :
    (hubProgram hub).Arrives t .proceed c rest (Shows id v now) := by
  refine Arrives.step h_todo rfl fun c₁ h_todo₁ h_store₁ => Arrives.here h_todo₁ ?_
  rw [h_store₁]
  exact h.of_same rfl rfl rfl (withHealth_slots_of_not_mem _ scope update h_id) rfl

/-- An update of the health of the slot. -/
theorem arrives_withHealth_self {ids : List SlotId} {update : HealthUpdate}
    (h_todo : c.todo t = .withHealth .shared ids update :: rest) (h_id : id ∈ ids)
    (h_on : v.OnShared) (h : Shows id v now c.store) :
    (hubProgram hub).Arrives t .proceed c rest (Shows id (v.touch update now) now) := by
  refine Arrives.step h_todo rfl fun c₁ h_todo₁ h_store₁ => Arrives.here h_todo₁ ?_
  rw [h_store₁]
  refine ⟨?_, h.clock⟩
  obtain ⟨e, h_e, h_iso⟩ := h_on
  have h_slot : (c.store.state.withHealth .shared ids update c.store.clock).slots id =
      some { e with health := update.apply e.health now } := by
    have h_belongs : e.belongsTo id .shared = true := by
      change e.isolated.isNone = true
      rw [h_iso]
      rfl
    rw [withHealth_slots, h.entry, h_e, h.clock, Option.map_some, h_belongs, decide_eq_true h_id]
    rfl
  rw [← h.view]
  unfold SlotView.touch Store.view
  dsimp only
  rw [h_slot, h.entry, h_e]
  rfl

/-- The supervisors that an isolation starts. -/
theorem arrives_spawns {tokens : List Token}
    (h_todo : c.todo t = tokens.map Instr.spawnSupervisor ++ rest) (h : Shows id v now c.store) :
    (hubProgram hub).Arrives t .proceed c rest (Shows id v now) := by
  induction tokens generalizing c with
  | nil => exact Arrives.here h_todo h
  | cons token tokens ih =>
    refine Arrives.step h_todo rfl fun c₁ h_todo₁ h_store₁ => ih h_todo₁ ?_
    rw [h_store₁]
    exact h.of_same rfl rfl rfl rfl rfl

/-- The isolation of another slot. -/
theorem arrives_isolate_other {other : SlotId} {cause : IsolationCause}
    (h_todo : c.todo t = .isolate other cause :: rest) (h_ne : other ≠ id) (h_on : v.OnShared)
    (h : Shows id v now c.store) :
    (hubProgram hub).Arrives t .proceed c rest (Shows id v now) := by
  -- either the slot is on its own connection already, or it moves now
  cases h_iso : c.store.state.isolate other cause with
  | none =>
    have h_exec : exec hub t .proceed (.isolate other cause) c =
        some { store := c.store, next := [] } := by
      simp only [exec, h_iso]
    refine Arrives.step h_todo h_exec fun c₁ h_todo₁ h_store₁ => Arrives.here h_todo₁ ?_
    rw [h_store₁]
    exact h
  | some state =>
    have h_exec : exec hub t .proceed (.isolate other cause) c =
        some { store := { c.store with state := state }
               next := [.bumpGeneration, .ensureSupervisors] } := by
      simp only [exec, h_iso]
    refine Arrives.step h_todo h_exec fun c₁ h_todo₁ h_store₁ => ?_
    have h₁ : Shows id v now c₁.store := by
      obtain ⟨-, -, -, rfl⟩ := HubState.isolate_eq_some _ h_iso
      rw [h_store₁]
      exact h.of_same rfl rfl rfl (HubState.modifySlot_slots_of_ne _ _ h_ne.symm) rfl
    -- `publish_generation`
    refine Arrives.step h_todo₁ rfl fun c₂ h_todo₂ h_store₂ => ?_
    have h₂ : Shows id v now c₂.store := by
      rw [h_store₂]
      exact h₁.of_same rfl rfl rfl rfl rfl
    refine Arrives.step h_todo₂ rfl fun c₃ h_todo₃ h_store₃ => ?_
    have h₃ : Shows id v now c₃.store := by
      rw [h_store₃]
      exact h₂.of_same rfl rfl rfl rfl rfl
    -- `ensure_supervisors` leaves the slots of the shared connection as they are
    refine Arrives.step h_todo₃ rfl fun c₄ h_todo₄ h_store₄ => ?_
    have h₄ : Shows id v now c₄.store := by
      have h_slot : (c₃.store.state.ensureSupervisors c₃.store.alive c₃.store.serial).1.slots id =
          c₃.store.state.slots id := by
        obtain ⟨e, h_e, h_none⟩ := h_on
        have h_lacks : HubState.lacksSupervisor c₃.store.alive e = false := by
          unfold HubState.lacksSupervisor
          rw [h_none]
        rw [HubState.ensureSupervisors_slots, h₃.entry, h_e, Option.map_some, h_lacks]
        rfl
      rw [h_store₄]
      exact h₃.of_same rfl rfl rfl h_slot rfl
    exact arrives_spawns h_todo₄ h₄

/-- What becomes of an item for another slot. -/
theorem arrives_deliver_other {target : SlotTarget V} {item : Item V}
    (h_hub : hub.dedicated = false) (h_todo : c.todo t = .deliver .shared target item :: rest)
    (h_ne : target.id ≠ id) (h : Shows id v now c.store) :
    (hubProgram hub).Arrives t .proceed c rest (Shows id v now) := by
  have h_other : id ∉ [target.id] := fun h_mem => h_ne (List.mem_singleton.mp h_mem).symm
  by_cases h_closed : c.store.closed target.id = true
  · -- the other stream is gone: the item is recorded and nothing follows
    refine Arrives.step h_todo (execDeliver_gone h_closed)
      fun c₁ h_todo₁ h_store₁ => Arrives.here h_todo₁ ?_
    rw [h_store₁]
    exact h.of_same rfl rfl rfl rfl rfl
  · have h_listens := Bool.eq_false_iff.mpr h_closed
    by_cases h_room : (c.store.queues target.id).length < slotChannelCapacity
    · -- its queue takes the item, and a data update of its health may follow
      refine Arrives.step h_todo (execDeliver_queued h_listens h_room)
        fun c₁ h_todo₁ h_store₁ => ?_
      have h₁ : Shows id v now c₁.store := by
        rw [h_store₁]
        exact h.of_same (Function.update_of_ne h_ne.symm _ _) rfl rfl rfl rfl
      cases h_data : item.isData with
      | true =>
        rw [h_data] at h_todo₁
        exact arrives_withHealth_other h_todo₁ h_other h₁
      | false =>
        rw [h_data] at h_todo₁
        exact Arrives.here h_todo₁ h₁
    · -- its queue is full: only its own flag goes up, since nobody holds a receiver of `dedicated`
      -- tasks here
      refine Arrives.step h_todo (execDeliver_dropped h_listens (Nat.le_of_not_lt h_room) h_hub)
        fun c₁ h_todo₁ h_store₁ => ?_
      have h₁ : Shows id v now c₁.store := by
        rw [h_store₁]
        exact h.of_same rfl rfl rfl rfl rfl
      refine Arrives.step h_todo₁ rfl fun c₂ h_todo₂ h_store₂ => ?_
      have h₂ : Shows id v now c₂.store := by
        rw [h_store₂]
        exact h₁.of_same rfl (Function.update_of_ne h_ne.symm _ _) rfl rfl rfl
      dsimp only at h_todo₂
      split at h_todo₂
      · exact Arrives.here h_todo₂ h₂
      · exact arrives_withHealth_other h_todo₂ h_other h₂

/-- The rejection of another slot. -/
theorem arrives_reject_other {target : SlotTarget V} {problem : SubscriptionProblem}
    {error : ErrorKind} (h_hub : hub.dedicated = false)
    (h_todo : c.todo t = .reject .shared [target] problem error :: rest) (h_ne : target.id ≠ id)
    (h : Shows id v now c.store) :
    (hubProgram hub).Arrives t .proceed c rest (Shows id v now) := by
  refine Arrives.step h_todo rfl fun c₁ h_todo₁ h_store₁ => ?_
  -- a refusal writes the tracker of the slot that it names
  have h₁ : Shows id v now c₁.store := by
    have h_slot : (c.store.state.reject .shared [target.id] problem c.store.clock).slots id =
        c.store.state.slots id := by
      -- the tracker that is written is not that of `id`
      have h_other : id ∉ [target.id] := fun h_mem => h_ne (List.mem_singleton.mp h_mem).symm
      unfold HubState.reject
      rw [HubState.mapSlots_slots]
      simp only [h_other, decide_false, Bool.false_and, Bool.false_eq_true, if_false,
        Option.map_id']
    rw [h_store₁]
    exact h.of_same rfl rfl rfl h_slot rfl
  cases h_new : c.store.state.refusalIsNew .shared target.id with
  -- a new refusal is also delivered
  | true =>
    have h_next : c₁.todo t = .deliver .shared target
        { event := .error error, origin := .refusal c.store.episodes } :: rest := by
      rw [h_todo₁]
      unfold execReject
      dsimp only
      rw [List.filter_cons, h_new]
      rfl
    exact arrives_deliver_other h_hub h_next h_ne h₁
  | false =>
    have h_next : c₁.todo t = rest := by
      rw [h_todo₁]
      unfold execReject
      dsimp only
      rw [List.filter_cons, h_new]
      rfl
    exact Arrives.here h_next h₁

/-! ### What is done for the slot itself -/

/-- An item for the slot. -/
theorem arrives_deliver_self {target : SlotTarget V} {item : Item V} (h_data : item.isData = true)
    (h_hub : hub.dedicated = false) (h_todo : c.todo t = .deliver .shared target item :: rest)
    (h_on : v.OnShared) (h : Shows target.id v now c.store) :
    (hubProgram hub).Arrives t .proceed c rest (Shows target.id (v.offer item now) now) := by
  have h_queue : c.store.queues target.id = v.queue := congrArg SlotView.queue h.view
  have h_flag : c.store.lagging target.id = v.lagging := congrArg SlotView.lagging h.view
  have h_gone : c.store.closed target.id = v.closed := congrArg SlotView.closed h.view
  have h_self : target.id ∈ [target.id] := List.mem_singleton_self _
  unfold SlotView.offer
  -- closed: nothing is sent
  by_cases h_closed : v.closed = true
  · rw [if_pos h_closed]
    refine Arrives.step h_todo (execDeliver_gone (h_gone.trans h_closed))
      fun c₁ h_todo₁ h_store₁ => Arrives.here h_todo₁ ?_
    rw [h_store₁]
    exact h.of_same rfl rfl rfl rfl rfl
  rw [if_neg h_closed]
  have h_listens := h_gone.trans (Bool.eq_false_iff.mpr h_closed)
  -- open, with room in the queue: the value is pushed, and the update recorded
  by_cases h_room : v.queue.length < slotChannelCapacity
  · have h_len : (c.store.queues target.id).length < slotChannelCapacity := h_queue ▸ h_room
    rw [if_pos h_room]
    refine Arrives.step h_todo (execDeliver_queued h_listens h_len) fun c₁ h_todo₁ h_store₁ => ?_
    rw [h_data] at h_todo₁
    have h_on₁ : ({ v with queue := v.queue ++ [item] } : SlotView V).OnShared := h_on
    refine arrives_withHealth_self h_todo₁ h_self h_on₁ ?_
    rw [h_store₁]
    refine ⟨?_, h.clock⟩
    rw [← h.view]
    unfold Store.view Store.push Store.log
    dsimp only
    rw [Function.update_self]
  · -- full: the value is dropped and the flag goes up
    rw [if_neg h_room]
    have h_full : slotChannelCapacity ≤ (c.store.queues target.id).length :=
      h_queue ▸ Nat.le_of_not_lt h_room
    refine Arrives.step h_todo (execDeliver_dropped h_listens h_full h_hub)
      fun c₁ h_todo₁ h_store₁ => ?_
    refine Arrives.step h_todo₁ rfl fun c₂ h_todo₂ h_store₂ => ?_
    have h_flag₁ : c₁.store.lagging target.id = v.lagging := by
      rw [h_store₁]
      exact h_flag
    have h₂ : Shows target.id { v with lagging := true } now c₂.store := by
      rw [h_store₂, h_store₁]
      refine ⟨?_, h.clock⟩
      rw [← h.view]
      unfold Store.view Store.log
      dsimp only
      rw [Function.update_self]
    dsimp only at h_todo₂
    rw [h_flag₁] at h_todo₂
    by_cases h_up : v.lagging = true
    · -- the flag was up, and stays up
      have h_same : ({ v with lagging := true } : SlotView V) = v := by rw [← h_up]
      rw [if_pos h_up] at h_todo₂ ⊢
      rw [h_same] at h₂
      exact Arrives.here h_todo₂ h₂
    · -- the flag was down: this is the lag that the tracker hears of
      have h_on₂ : ({ v with lagging := true } : SlotView V).OnShared := h_on
      rw [if_neg h_up] at h_todo₂ ⊢
      exact arrives_withHealth_self h_todo₂ h_self h_on₂ h₂

/-! ### The loops of `dispatch` -/

/-- The item that a slot gets out of the payloads of a frame. -/
def partOf (payloads : List (SlotId × Json)) (target : SlotTarget V) (conn frame : ℕ) :
    Option (Item V) :=
  ((lookup target.id payloads).bind target.decode).map fun value =>
    { event := .data value, origin := .frame conn frame }

/-- Between two turns of the loops of `dispatch` on the shared connection:
nothing of the frame was broken for the slot of `target`, and nothing that was
broken for others counts against the connection. -/
structure Unharmed (driving : Driving V) (target : SlotTarget V) (d : Dispatching V) : Prop where
  same : d.toDriving = driving
  owner : d.target target.id = some target
  documentErrors : d.documentErrors = []
  malformed : d.malformed = false
  rejected : d.rejected = false
  spared : target.id ∉ d.failed
  noErrors : target.id ∉ d.slotErrors.map Prod.fst

variable {driving : Driving V} {target : SlotTarget V} {d : Dispatching V}

/-- The frame is one of the shared connection. -/
theorem Unharmed.scope (h : Unharmed driving target d) (h_scope : driving.scope = .shared) :
    d.scope = .shared := by
  have h_same : d.toDriving.scope = driving.scope := by rw [h.same]
  exact h_same.trans h_scope

/-- What the loops note about other payloads and slots does not harm the slot. -/
theorem Unharmed.next (h : Unharmed driving target d) (payloads : List (SlotId × Json))
    {slotErrors : List (SlotId × List GraphQlError)} (decodedAny : Bool) {failed : List SlotId}
    (h_errors : target.id ∉ slotErrors.map Prod.fst) (h_failed : target.id ∉ failed) :
    Unharmed driving target
      { d with
        payloads := payloads
        slotErrors := slotErrors
        decodedAny := decodedAny
        failed := failed } :=
  ⟨h.same, h.owner, h.documentErrors, h.malformed, h.rejected, h_failed, h_errors⟩

/-- Another slot that fails. -/
theorem Unharmed.spared_cons (h : Unharmed driving target d) {other : SlotId}
    (h_ne : other ≠ target.id) : target.id ∉ other :: d.failed := by
  intro h_mem
  rcases List.mem_cons.mp h_mem with h_eq | h_mem
  · exact h_ne h_eq.symm
  · exact h.spared h_mem

/-- The payload of another slot is not the slot's part. -/
theorem partOf_cons_of_ne {other : SlotId} (payload : Json) (payloads : List (SlotId × Json))
    (conn frame : ℕ) (h_ne : other ≠ target.id) :
    partOf ((other, payload) :: payloads) target conn frame =
      partOf payloads target conn frame := by
  unfold partOf
  rw [lookup_cons, if_neg h_ne]

/-- The slot's part is its own payload. -/
theorem partOf_cons_self {payload : Json} {value : V} (payloads : List (SlotId × Json))
    (conn frame : ℕ) (h_value : target.decode payload = some value) :
    partOf ((target.id, payload) :: payloads) target conn frame =
      some { event := .data value, origin := .frame conn frame } := by
  unfold partOf
  rw [lookup_cons, if_pos rfl, Option.bind_some, h_value]
  rfl

/-- A frame without a payload of the slot has no part for it. -/
theorem partOf_of_notMem {payloads : List (SlotId × Json)} (conn frame : ℕ)
    (h_fresh : target.id ∉ payloads.map Prod.fst) : partOf payloads target conn frame = none := by
  unfold partOf
  rw [lookup_eq_none_iff.mpr h_fresh]
  rfl

/-- The turn of the slot itself: its payload is offered to its queue. -/
theorem arrives_own_turn (h_hub : hub.dedicated = false) (h_scope : driving.scope = .shared)
    (h_todo : c.todo t = .dispatchPayloads d :: rest) (h_d : Unharmed driving target d)
    {payload : Json} {payloads : List (SlotId × Json)}
    (h_payloads : d.payloads = (target.id, payload) :: payloads) {value : V}
    (h_value : target.decode payload = some value) (h_on : v.OnShared)
    (h : Shows target.id v now c.store) {next : List (Instr V)} {Q : Store V → Prop}
    (h_then : ∀ c₁ d', c₁.todo t = .dispatchPayloads d' :: rest → Unharmed driving target d' →
      d'.payloads = payloads → Shows target.id
        (v.offer { event := .data value, origin := .frame d.conn d.frame } now) now c₁.store →
      (hubProgram hub).Arrives t .proceed c₁ next Q) :
    (hubProgram hub).Arrives t .proceed c next Q := by
  refine Arrives.step h_todo rfl fun c₁ h_todo₁ h_store₁ => ?_
  have h₁ : Shows target.id v now c₁.store := by
    rw [h_store₁]
    exact h
  rw [execPayload_decoded h_payloads h_d.owner h_value, h_d.scope h_scope] at h_todo₁
  refine Arrives.bind (arrives_deliver_self rfl h_hub h_todo₁ h_on h₁) fun c₂ h_todo₂ h₂ => ?_
  exact h_then c₂ _ h_todo₂ (h_d.next payloads true h_d.noErrors h_d.spared) rfl h₂

/-- The turn of another slot leaves the slot as it is, whatever becomes of the payload. -/
theorem arrives_other_turn (h_hub : hub.dedicated = false) (h_scope : driving.scope = .shared)
    (h_todo : c.todo t = .dispatchPayloads d :: rest) (h_d : Unharmed driving target d)
    {other : SlotId} {payload : Json} {payloads : List (SlotId × Json)}
    (h_payloads : d.payloads = (other, payload) :: payloads) (h_ne : other ≠ target.id)
    (h_on : v.OnShared) (h : Shows target.id v now c.store)
    {next : List (Instr V)} {Q : Store V → Prop}
    (h_then : ∀ c₁ d', c₁.todo t = .dispatchPayloads d' :: rest → Unharmed driving target d' →
      d'.payloads = payloads → d'.frame = d.frame → Shows target.id v now c₁.store →
      (hubProgram hub).Arrives t .proceed c₁ next Q) :
    (hubProgram hub).Arrives t .proceed c next Q := by
  have h_shared : d.scope = .shared := h_d.scope h_scope
  refine Arrives.step h_todo rfl fun c₁ h_todo₁ h_store₁ => ?_
  have h₁ : Shows target.id v now c₁.store := by
    rw [h_store₁]
    exact h
  cases h_target : d.target other with
  | none =>
    -- a stale alias
    rw [execPayload_stale h_payloads h_target] at h_todo₁
    exact h_then c₁ _ h_todo₁ (h_d.next payloads d.decodedAny h_d.noErrors h_d.spared) rfl rfl h₁
  | some owner =>
    cases h_value : owner.decode payload with
    | some value =>
      have h_id : owner.id = other := (Dispatching.target_eq_some h_target).2.1
      rw [execPayload_decoded h_payloads h_target h_value, h_shared] at h_todo₁
      refine Arrives.bind (arrives_deliver_other h_hub h_todo₁ (h_id ▸ h_ne) h₁)
        fun c₂ h_todo₂ h₂ => ?_
      exact h_then c₂ _ h_todo₂ (h_d.next payloads true h_d.noErrors h_d.spared) rfl rfl h₂
    | none =>
      -- the payload is broken: the other slot moves to a connection of its own
      rw [execPayload_broken h_payloads h_target h_value h_shared] at h_todo₁
      refine Arrives.bind (arrives_withHealth_other h_todo₁
        (fun h_mem => h_ne (List.mem_singleton.mp h_mem).symm) h₁) fun c₂ h_todo₂ h₂ => ?_
      refine Arrives.bind (arrives_isolate_other h_todo₂ h_ne h_on h₂) fun c₃ h_todo₃ h₃ => ?_
      exact h_then c₃ _ h_todo₃
        (h_d.next payloads d.decodedAny h_d.noErrors (h_d.spared_cons h_ne)) rfl rfl h₃

/-- **The loop over the payloads.** It leaves the slot its own payload, and the
connection unharmed. -/
theorem arrives_payloads (h_hub : hub.dedicated = false) (h_scope : driving.scope = .shared)
    (h_todo : c.todo t = .dispatchPayloads d :: rest) (h_d : Unharmed driving target d)
    (h_nodup : (d.payloads.map Prod.fst).Nodup)
    (h_decodes : ∀ payload, (target.id, payload) ∈ d.payloads →
      (target.decode payload).isSome = true)
    (h_on : v.OnShared) (h : Shows target.id v now c.store)
    {next : List (Instr V)} {Q : Store V → Prop}
    (h_then : ∀ c₁ d', c₁.todo t = .dispatchErrors d' :: rest → Unharmed driving target d' →
      Shows target.id
        ((partOf d.payloads target d.conn d.frame).elim v fun item => v.offer item now) now
        c₁.store → (hubProgram hub).Arrives t .proceed c₁ next Q) :
    (hubProgram hub).Arrives t .proceed c next Q := by
  induction h_payloads : d.payloads generalizing c d v with
  | nil =>
    -- no payload is left
    refine Arrives.step h_todo rfl fun c₁ h_todo₁ h_store₁ => h_then c₁ d ?_ h_d ?_
    · rw [h_todo₁, execPayload_nil h_payloads]
      rfl
    · rw [h_store₁, h_payloads]
      exact h
  | cons p payloads ih =>
    obtain ⟨other, payload⟩ := p
    rw [h_payloads] at h_nodup h_decodes h_then
    obtain ⟨h_fresh, h_tail⟩ := List.nodup_cons.mp h_nodup
    have h_rest : ∀ payload, (target.id, payload) ∈ payloads →
        (target.decode payload).isSome = true :=
      fun payload h_mem => h_decodes payload (List.mem_cons_of_mem _ h_mem)
    by_cases h_eq : other = target.id
    · -- its own payload is the last that the slot gets out of the frame
      subst h_eq
      obtain ⟨value, h_value⟩ := Option.isSome_iff_exists.mp (h_decodes payload List.mem_cons_self)
      rw [partOf_cons_self payloads d.conn d.frame h_value] at h_then
      refine arrives_own_turn h_hub h_scope h_todo h_d h_payloads h_value h_on h
        fun c₁ d₁ h_todo₁ h_d₁ h_left h₁ => ?_
      refine ih h_todo₁ h_d₁ (h_left ▸ h_tail) (h_left ▸ h_rest) (h_on.offer _ now) h₁ ?_ h_left
      rw [h_left, partOf_of_notMem d₁.conn d₁.frame h_fresh]
      exact h_then
    · -- a payload of another slot
      refine arrives_other_turn h_hub h_scope h_todo h_d h_payloads h_eq h_on h
        fun c₁ d₁ h_todo₁ h_d₁ h_left h_frame h₁ => ?_
      refine ih h_todo₁ h_d₁ (h_left ▸ h_tail) (h_left ▸ h_rest) h_on h₁ ?_ h_left
      have h_conn : d₁.conn = d.conn := congrArg Driving.conn (h_d₁.same.trans h_d.same.symm)
      rw [partOf_cons_of_ne payload payloads d.conn d.frame h_eq] at h_then
      rw [h_left, h_conn, h_frame]
      exact h_then

/-- **The loop over the slot errors**, and the sign of life after it. -/
theorem arrives_errors (h_hub : hub.dedicated = false) (h_scope : driving.scope = .shared)
    (h_todo : c.todo t = .dispatchErrors d :: rest) (h_d : Unharmed driving target d)
    (h_on : v.OnShared) (h : Shows target.id v now c.store)
    {next : List (Instr V)} {Q : Store V → Prop}
    (h_then : ∀ c₁ d', c₁.todo t = .dispatchDocument d' :: rest → Unharmed driving target d' →
      Shows target.id (v.touch .transportActivity now) now c₁.store →
      (hubProgram hub).Arrives t .proceed c₁ next Q) :
    (hubProgram hub).Arrives t .proceed c next Q := by
  have h_shared : d.scope = .shared := h_d.scope h_scope
  -- the errors of the other slots are taken one by one, each in front of the rest
  induction h_errors : d.slotErrors generalizing c d with
  | nil =>
    -- nothing left: the frame counts as activity of the slots that did not fail
    have h_alive : target.id ∈ d.alive := by
      have h_target : target ∈ d.connection.slotTargets :=
        (Dispatching.target_eq_some h_d.owner).1
      exact List.mem_filter.mpr ⟨List.mem_map_of_mem h_target, decide_eq_true h_d.spared⟩
    refine Arrives.step h_todo rfl fun c₁ h_todo₁ h_store₁ => ?_
    have h₁ : Shows target.id v now c₁.store := by
      rw [h_store₁]
      exact h
    rw [execSlotError_nil h_errors h_d.documentErrors, h_shared] at h_todo₁
    exact Arrives.bind (arrives_withHealth_self h_todo₁ h_alive h_on h₁)
      fun c₂ h_todo₂ h₂ => h_then c₂ d h_todo₂ h_d h₂
  | cons p slotErrors ih =>
    obtain ⟨other, errors⟩ := p
    have h_keys := h_d.noErrors
    rw [h_errors, List.map_cons, List.mem_cons, not_or] at h_keys
    -- `target` has no errors of its own in the frame, so these are another slot's
    have h_ne : other ≠ target.id := fun h_eq => h_keys.1 h_eq.symm
    refine Arrives.step h_todo rfl fun c₁ h_todo₁ h_store₁ => ?_
    have h₁ : Shows target.id v now c₁.store := by
      rw [h_store₁]
      exact h
    cases h_target : d.target other with
    | none =>
      -- errors for a slot that is not on this connection are passed over
      rw [execSlotError_stale h_errors h_target] at h_todo₁
      exact ih h_todo₁ (h_d.next d.payloads d.decodedAny h_keys.2 h_d.spared) h₁ h_shared rfl
    | some owner =>
      have h_id : owner.id = other := (Dispatching.target_eq_some h_target).2.1
      -- the slot is rejected and isolated, which spares `target` twice
      rw [execSlotError_rejected h_errors h_target h_shared] at h_todo₁
      refine Arrives.bind (arrives_reject_other h_hub h_todo₁ (h_id ▸ h_ne) h₁)
        fun c₂ h_todo₂ h₂ => ?_
      refine Arrives.bind (arrives_isolate_other h_todo₂ h_ne h_on h₂) fun c₃ h_todo₃ h₃ => ?_
      exact ih h_todo₃ (h_d.next d.payloads d.decodedAny h_keys.2 (h_d.spared_cons h_ne)) h₃
        h_shared rfl

/-- The end of `dispatch`: the frame was handled, and `drive` goes on. -/
theorem arrives_document (h_todo : c.todo t = .dispatchDocument d :: rest)
    (h_d : Unharmed driving target d) (h : Shows target.id v now c.store) :
    (hubProgram hub).Arrives t .proceed c (.stallWakeup driving :: rest)
      (Shows target.id v now) := by
  have h_next : (execDocument hub t d c.store).next = [.stallWakeup driving] := by
    unfold execDocument
    dsimp only
    rw [h_d.documentErrors, h_d.malformed, h_d.rejected, h_d.same]
    rfl
  have h_store : Shows target.id v now (execDocument hub t d c.store).store := by
    unfold execDocument
    dsimp only
    rw [h_d.documentErrors, h_d.malformed, h_d.rejected]
    simp only [List.isEmpty_nil, Bool.not_true, Bool.false_and, Bool.false_eq_true, if_false]
    split
    · exact h.of_same rfl rfl rfl rfl rfl
    · exact h.of_same rfl rfl rfl rfl rfl
  refine Arrives.step h_todo rfl fun c₁ h_todo₁ h_store₁ => Arrives.here ?_ ?_
  · rw [h_todo₁, h_next]
    rfl
  · rw [h_store₁]
    exact h_store

/-! ### One frame -/

/-- `dispatch` on the shared connection, from the routed frame to its result. -/
theorem arrives_dispatch (h_hub : hub.dedicated = false) (h_scope : driving.scope = .shared)
    (h_aligned : driving.connection.Aligned) {response : GraphQlResponse} {r : Routed}
    (h_route : route response driving.connection.targets = some r)
    (h_documents : r.documentErrors = [])
    (h_target : driving.connection.byId target.id = some target)
    (h_live : target.id ∈ c.store.state.scopeIds .shared)
    (h_errors : target.id ∉ r.slotErrors.map Prod.fst)
    (h_decodes : ∀ payload, (target.id, payload) ∈ r.payloads →
      (target.decode payload).isSome = true)
    {frame : ℕ} (h_todo : c.todo t = .readLive (driving.dispatching frame r) :: rest)
    (h : Shows target.id v now c.store) :
    (hubProgram hub).Arrives t .proceed c (.stallWakeup driving :: rest)
      (Shows target.id (v.share (partOf r.payloads target driving.conn frame) now) now) := by
  have h_on : v.OnShared := by
    obtain ⟨-, e, h_e, h_belongs⟩ := c.store.state.mem_scopeIds.mp h_live
    -- the list of live slots is read once, and `target` is on it
    exact ⟨e, h.entry.symm.trans h_e, Option.isNone_iff_eq_none.mp h_belongs⟩
  have h_exact := h_aligned.demultiplexed h_route
  let listed : Dispatching V :=
    { driving.dispatching frame r with live := c.store.state.scopeIds driving.scope }
  have h_listed : Unharmed driving target listed := by
    refine ⟨rfl, ?_, h_documents, rfl, rfl, List.not_mem_nil, h_errors⟩
    have h_mem : target.id ∈ listed.live := by
      change target.id ∈ c.store.state.scopeIds driving.scope
      rw [h_scope]
      exact h_live
    change (driving.connection.byId target.id).filter _ = _
    rw [h_target, Option.filter_some, if_pos (decide_eq_true h_mem)]
  -- reading the liveness changes nothing about the slot
  refine Arrives.step h_todo rfl fun c₁ h_todo₁ h_store₁ => ?_
  have h₁ : Shows target.id v now c₁.store := by
    rw [h_store₁]
    exact h.of_same rfl rfl rfl rfl rfl
  have h_todo₁' : c₁.todo t = .dispatchPayloads listed :: rest := h_todo₁
  refine arrives_payloads h_hub h_scope h_todo₁' h_listed h_exact.payloads_once h_decodes h_on h₁
    fun c₂ d₂ h_todo₂ h_d₂ h₂ => ?_
  -- whatever was offered, `target` stays on the shared connection
  have h_on₂ : ((partOf r.payloads target driving.conn frame).elim v
      fun item => v.offer item now).OnShared := by
    cases partOf r.payloads target driving.conn frame with
    | none => exact h_on
    | some item => exact h_on.offer item now
  -- after the payloads come the errors of the other slots, and the document
  refine arrives_errors h_hub h_scope h_todo₂ h_d₂ h_on₂ h₂ fun c₃ d₃ h_todo₃ h_d₃ h₃ => ?_
  exact arrives_document h_todo₃ h_d₃ h₃

/-- `dispatch` runs on a frame, with no other task running, and returns `Handled`:
the supervisor goes on driving the connection. -/
def Handles (hub : HubConfig) (t : Task) (d : Driving V) (rest : List (Instr V))
    (response : GraphQlResponse) (c c' : Config V) : Prop :=
  ∃ c₁, (hubProgram hub).step c (.run t (.next (some (.event (some response))))) = some c₁ ∧
    (hubProgram hub).Reachable c₁ (alone t .proceed) c' ∧ c'.todo t = .stallWakeup d :: rest

/-- A supervisor that goes on driving waits for the next item of its stream. -/
theorem drives_once {c₁ c₂ c₃ : Config V} (h_todo : c₁.todo t = .stallWakeup driving :: rest)
    (h_step : (hubProgram hub).step c₁ (.run t .proceed) = some c₂)
    (h_reach : (hubProgram hub).Reachable c₂ (alone t .proceed) c₃) :
    c₃.todo t ≠ .stallWakeup driving :: rest := by
  have h_exec : exec hub t .proceed (.stallWakeup driving) c₁ = some
      { store := c₁.store
        next := [.select driving (c₁.store.state.stallWakeup hub.cfg driving.scope)] } := rfl
  obtain rfl := Option.some.inj (h_step.symm.trans (step_run h_todo h_exec))
  have h_todo₂ := resume_todo_self c₁ t rest
    { store := c₁.store
      next := [.select driving (c₁.store.state.stallWakeup hub.cfg driving.scope)] }
  rcases h_reach.alone_head with rfl | ⟨c', h_blocked, -⟩
  · rw [h_todo₂]
    intro h_eq
    cases (List.cons.inj h_eq).1
  · -- nothing but the stream, the channel or the clock ends the wait
    obtain ⟨t', ch, i, rest', e, h_a, h_todo', h_exec', -⟩ | ⟨r, t', e, h_a, -⟩ :=
      step_cases h_blocked
    · obtain ⟨rfl, rfl⟩ := Action.run.inj h_a
      obtain ⟨rfl, -⟩ := List.cons.inj (h_todo₂.symm.trans h_todo')
      cases h_exec'
    · cases h_a

/-- **One frame and one slot.** If the slot's own part of the frame is fine,
`dispatch` returns `Handled`, and the slot has got its share. -/
theorem handles_share (h_hub : hub.dedicated = false) {stall : Option Instant}
    (h_todo : c.todo t = .select driving stall :: rest) (h_scope : driving.scope = .shared)
    (h_aligned : driving.connection.Aligned) {response : GraphQlResponse} {r : Routed}
    (h_route : route response driving.connection.targets = some r)
    (h_documents : r.documentErrors = [])
    (h_target : driving.connection.byId target.id = some target)
    (h_live : target.id ∈ c.store.state.scopeIds .shared)
    (h_errors : target.id ∉ r.slotErrors.map Prod.fst)
    (h_decodes : ∀ payload, (target.id, payload) ∈ r.payloads →
      (target.decode payload).isSome = true) :
    (∃ c', Handles hub t driving rest response c c') ∧
      ∀ c', Handles hub t driving rest response c c' → c'.store.view target.id =
        (c.store.view target.id).share (partOf r.payloads target driving.conn c.store.frames)
          c.store.clock := by
  let e : Effect V := {
    store := { c.store with frames := c.store.frames + 1 }.log
      (.frame c.store.frames driving.conn response)
    next := [.readLive (driving.dispatching c.store.frames r)] }
  -- the frame is taken up in one step, before anything is read from the hub
  have h_exec : (hubProgram hub).exec t (.next (some (.event (some response))))
      (.select driving stall) c = some e := by
    change some (execEvent driving (some response) c.store) = some e
    simp only [execEvent, h_route]
    rfl
  have h_step : (hubProgram hub).step c (.run t (.next (some (.event (some response))))) =
      some (c.resume t rest e) := step_run h_todo h_exec
  have h_arrives := arrives_dispatch h_hub h_scope h_aligned h_route h_documents h_target
    (c := c.resume t rest e) h_live h_errors h_decodes (resume_todo_self c t rest e) ⟨rfl, rfl⟩
  constructor
  · obtain ⟨c', h_reach, h_next, -⟩ := h_arrives
    exact ⟨c', _, h_step, h_reach, h_next⟩
  · -- the section runs alone, so every end of it shows the same view
    rintro c' ⟨c₁, h_step₁, h_reach, h_next⟩
    obtain rfl := Option.some.inj (h_step.symm.trans h_step₁)
    have h_shows := h_arrives.unique
      (fun c₁ c₂ c₃ h_at h_go h_on => drives_once h_at h_go h_on) h_reach h_next
    exact h_shows.view

/-! ### A frame without the parts of some slots -/

/-- A member of the data that belongs to none of the slots in `gone`. -/
def keepsMember (targets : List (Text × SlotTarget V)) (gone : SlotId → Bool)
    (p : Text × Json) : Bool :=
  !(lookup p.1 targets).any fun target => gone target.id

/-- An error that belongs to none of the slots in `gone`. -/
def keepsError (targets : List (Text × SlotTarget V)) (gone : SlotId → Bool)
    (error : GraphQlError) : Bool :=
  !(ownerOf targets error).any gone

/-- The frame without the payloads and the errors of the slots in `gone`. -/
def GraphQlResponse.without (response : GraphQlResponse) (targets : List (Text × SlotTarget V))
    (gone : SlotId → Bool) : GraphQlResponse where
  data := response.data.map fun data =>
    match data with
    | .object members => .object (members.filter (keepsMember targets gone))
    | data => data
  errors := response.errors.map (List.filter (keepsError targets gone))
  keysDistinct := by
    intro members h
    obtain ⟨data, h_data, h_eq⟩ := Option.map_eq_some_iff.mp h
    cases data with
    | object members' =>
      obtain rfl := Json.object.inj h_eq
      exact (response.keysDistinct members' h_data).sublist (List.filter_sublist.map _)
    | _ => cases h_eq

variable {targets : List (Text × SlotTarget V)} {gone : SlotId → Bool}

/-- A response without some parts has the other members. -/
theorem without_members (response : GraphQlResponse) :
    (response.without targets gone).members =
      response.members.filter (keepsMember targets gone) := by
  obtain ⟨data, errors, h_keys⟩ := response
  cases data with
  | none => rfl
  | some data => cases data <;> rfl

/-- A response without some parts has the other errors. -/
theorem without_errors (response : GraphQlResponse) :
    (response.without targets gone).errors.getD [] =
      (response.errors.getD []).filter (keepsError targets gone) := by
  unfold GraphQlResponse.without
  cases response.errors <;> rfl

/-- **The part of a slot that stays.** A frame without the parts of other slots
has the same payload for the slot, no errors for it if it had none, and no errors
of the document if it had none. -/
theorem route_without (h_aligned : driving.connection.Aligned) {response : GraphQlResponse}
    {r r' : Routed} (h_route : route response driving.connection.targets = some r)
    (h_route' : route (response.without driving.connection.targets gone)
      driving.connection.targets = some r')
    (h_gone : gone target.id = false) :
    lookup target.id r'.payloads = lookup target.id r.payloads ∧
      (target.id ∉ r.slotErrors.map Prod.fst → target.id ∉ r'.slotErrors.map Prod.fst) ∧
      (r.documentErrors = [] → r'.documentErrors = []) := by
  have h_keys := h_aligned.keys_nodup
  have h_exact := h_aligned.demultiplexed h_route
  have h_exact' := h_aligned.demultiplexed h_route'
  rw [without_members, without_errors] at h_exact'
  -- the alias of the slot stays
  have h_member : ∀ aliasName owner payload, (aliasName, owner) ∈ driving.connection.targets →
      target.id = owner.id →
      ((aliasName, payload) ∈ response.members.filter
          (keepsMember driving.connection.targets gone) ↔
        (aliasName, payload) ∈ response.members) := by
    intro aliasName owner payload h_mem h_id
    have h_keeps : keepsMember driving.connection.targets gone (aliasName, payload) = true := by
      unfold keepsMember
      rw [(lookup_eq_some_iff h_keys).mpr h_mem, Option.any_some, ← h_id, h_gone]
      rfl
    rw [List.mem_filter, and_iff_left h_keeps]
  -- and so does every error under this alias
  have h_error : ∀ aliasName owner error, (aliasName, owner) ∈ driving.connection.targets →
      target.id = owner.id → aliasOf error = some aliasName →
      keepsError driving.connection.targets gone error = true := by
    intro aliasName owner error h_mem h_id h_alias
    unfold keepsError ownerOf
    rw [h_alias, Option.bind_some, (lookup_eq_some_iff h_keys).mpr h_mem, Option.map_some,
      Option.any_some, ← h_id, h_gone]
    rfl
  refine ⟨?_, fun h_none h_some => h_none ?_, fun h_nil => ?_⟩
  · -- both frames have the same payload for the slot
    have h_mem : ∀ value, (target.id, value) ∈ r'.payloads ↔ (target.id, value) ∈ r.payloads := by
      intro value
      rw [h_exact.payloads, h_exact'.payloads]
      constructor
      · rintro ⟨aliasName, owner, payload, h_owner, h_payload, h_null, h_id, h_value⟩
        refine ⟨aliasName, owner, payload, h_owner,
          (h_member aliasName owner payload h_owner h_id).mp h_payload, ?_, h_id, h_value⟩
        intro h_isNull error h_mem h_alias
        exact h_null h_isNull error
          (List.mem_filter.mpr ⟨h_mem, h_error aliasName owner error h_owner h_id h_alias⟩) h_alias
      · rintro ⟨aliasName, owner, payload, h_owner, h_payload, h_null, h_id, h_value⟩
        refine ⟨aliasName, owner, payload, h_owner,
          (h_member aliasName owner payload h_owner h_id).mpr h_payload, ?_, h_id, h_value⟩
        exact fun h_isNull error h_mem => h_null h_isNull error (List.mem_filter.mp h_mem).1
    ext value
    rw [lookup_eq_some_iff h_exact.payloads_once, lookup_eq_some_iff h_exact'.payloads_once]
    exact h_mem value
  · -- errors that are left were there before
    obtain ⟨⟨id, es⟩, h_es, h_id⟩ := List.mem_map.mp h_some
    obtain rfl : id = target.id := h_id
    obtain ⟨aliasName, owner, h_owner, h_id, rfl, h_ne, h_all⟩ :=
      (h_exact'.slotErrors _ _).mp h_es
    have h_entry : (target.id, (response.errors.getD []).filter
        fun error => aliasOf error = some aliasName) ∈ r.slotErrors := by
      refine (h_exact.slotErrors _ _).mpr ⟨aliasName, owner, h_owner, h_id, rfl, ?_, ?_⟩
      · intro h_nil
        have h_sublist := (List.filter_sublist (p := keepsError driving.connection.targets gone)
          (l := response.errors.getD [])).filter fun error => aliasOf error = some aliasName
        rw [h_nil] at h_sublist
        exact h_ne (List.eq_nil_of_sublist_nil h_sublist)
      · intro payload h_payload
        exact h_all payload ((h_member aliasName owner payload h_owner h_id).mpr h_payload)
    exact List.mem_map.mpr ⟨_, h_entry, rfl⟩
  · refine List.eq_nil_of_sublist_nil ?_
    rw [← h_nil, h_exact.documentErrors, h_exact'.documentErrors]
    exact List.filter_sublist.filter _

/-- **Faults stay with their slots.** On a hub with several subscriptions, a frame
of the shared connection without document errors is handled, and a slot whose own
part of it is fine stays on the connection and gets its share of the frame,
whatever the frame carries for other slots. Without the parts of any other slots
it would have got the same. -/
theorem siblings_unharmed (hub : HubConfig) (h_hub : hub.dedicated = false) {c : Config V}
    (h_reach : (hubProgram hub).Reachable (initialConfig V) anyStep c) {t : Task}
    {d : Driving V} {stall : Option Instant} {rest : List (Instr V)}
    (h_todo : c.todo t = .select d stall :: rest) (h_scope : d.scope = .shared)
    {response : GraphQlResponse} {r : Routed}
    (h_route : route response d.connection.targets = some r) (h_documents : r.documentErrors = [])
    {target : SlotTarget V} (h_target : d.connection.byId target.id = some target)
    (h_live : target.id ∈ c.store.state.scopeIds .shared)
    (h_errors : target.id ∉ r.slotErrors.map Prod.fst)
    (h_decodes : ∀ payload, (target.id, payload) ∈ r.payloads →
      (target.decode payload).isSome = true) :
    (∃ c', Handles hub t d rest response c c') ∧
    ∀ c', Handles hub t d rest response c c' →
      target.id ∈ c'.store.state.scopeIds .shared ∧
      c'.store.view target.id = (c.store.view target.id).share
        (partOf r.payloads target d.conn c.store.frames) c.store.clock ∧
      ∀ gone : SlotId → Bool, gone target.id = false →
        (route (response.without d.connection.targets gone) d.connection.targets).isSome = true →
        ∃ c'', Handles hub t d rest (response.without d.connection.targets gone) c c'' ∧
          c''.store.view target.id = c'.store.view target.id := by
  have h_aligned : d.connection.Aligned :=
    Aligned.reachable h_reach t (.select d stall) (by rw [h_todo]; exact List.mem_cons_self) d rfl
  obtain ⟨h_ends, h_view⟩ := handles_share h_hub h_todo h_scope h_aligned h_route h_documents
    h_target h_live h_errors h_decodes
  refine ⟨h_ends, fun c' h_c' => ⟨?_, h_view c' h_c', fun gone h_gone h_routes => ?_⟩⟩
  · -- the slot is still registered and not isolated: `share` keeps it `OnShared`
    have h_reach' : (hubProgram hub).Reachable (initialConfig V) anyStep c' := by
      obtain ⟨c₁, h_step, h_alone, -⟩ := h_c'
      exact (Reachable.step h_reach trivial h_step).trans h_alone.any
    have h_on : (c.store.view target.id).OnShared := by
      obtain ⟨-, e, h_e, h_belongs⟩ := c.store.state.mem_scopeIds.mp h_live
      exact ⟨e, h_e, Option.isNone_iff_eq_none.mp h_belongs⟩
    obtain ⟨e', h_e', h_iso⟩ :=
      h_on.share (partOf r.payloads target d.conn c.store.frames) c.store.clock
    rw [← h_view c' h_c'] at h_e'
    exact c'.store.state.mem_scopeIds.mpr
      ⟨(Sound.reachable h_reach').numbered _ _ h_e', e', h_e', Option.isNone_iff_eq_none.mpr h_iso⟩
  · -- without the other slots the frame still holds the same payload for `target`
    obtain ⟨r', h_route'⟩ := Option.isSome_iff_exists.mp h_routes
    obtain ⟨h_lookup, h_errors', h_documents'⟩ := route_without h_aligned h_route h_route' h_gone
    have h_once := (h_aligned.demultiplexed h_route).payloads_once
    have h_once' := (h_aligned.demultiplexed h_route').payloads_once
    have h_decodes' : ∀ payload, (target.id, payload) ∈ r'.payloads →
        (target.decode payload).isSome = true := by
      intro payload h_mem
      have h_found := (lookup_eq_some_iff h_once').mpr h_mem
      rw [h_lookup] at h_found
      exact h_decodes payload ((lookup_eq_some_iff h_once).mp h_found)
    obtain ⟨⟨c'', h_c''⟩, h_view'⟩ := handles_share h_hub h_todo h_scope h_aligned h_route'
      (h_documents' h_documents) h_target h_live (h_errors' h_errors) h_decodes'
    refine ⟨c'', h_c'', ?_⟩
    rw [h_view' c'' h_c'', h_view c' h_c']
    unfold partOf
    rw [h_lookup]

/-! ### Two slots of one frame -/

/-- A frame with a payload of the wrong shape for slot 0 and a number for slot 1. -/
def brokenForOne : GraphQlResponse where
  data := some (.object [("s0".toList, .null), ("s1".toList, .number 7 0)])
  errors := none
  keysDistinct := by
    intro members h
    obtain rfl := Json.object.inj (Option.some.inj h)
    decide

/-- Two streams share a connection. -/
def sharing : List (Action Task Choice (Request ℕ)) :=
  registering 0 5 ++ registering 1 4 ++ opening

/-- The theorem at two slots, of which the first gets a payload that does not decode. -/
theorem siblings_unharmed_second : ∃ (c c' : Config ℕ) (d : Driving ℕ) (rest : List (Instr ℕ))
    (target : SlotTarget ℕ), target.id = 1 ∧
    Handles sampleHub firstSupervisor d rest brokenForOne c c' ∧
    target.id ∈ c'.store.state.scopeIds .shared := by
  have h_run : ∃ (c : Config ℕ) (d : Driving ℕ) (stall : Option Instant) (rest : List (Instr ℕ))
      (r : Routed), (hubProgram sampleHub).run (initialConfig ℕ) sharing = some c ∧
      c.todo firstSupervisor = .select d stall :: rest ∧ d.scope = .shared ∧
      route brokenForOne d.connection.targets = some r ∧ r.documentErrors = [] ∧
      (∃ target, target.id = 1 ∧ d.connection.byId target.id = some target ∧
        target.id ∈ c.store.state.scopeIds .shared ∧ target.id ∉ r.slotErrors.map Prod.fst ∧
        r.payloads.all (fun p => p.1 != target.id || (target.decode p.2).isSome) = true) :=
    ⟨_, _, _, _, _, rfl, rfl, rfl, rfl, rfl,
      { id := 1, field := "readiness".toList, decode := sampleSpec.decode }, rfl, rfl,
      by decide, by decide, rfl⟩
  -- the frame is legal for the slot that the witness is about
  obtain ⟨c, d, stall, rest, r, h_run, h_todo, h_scope, h_route, h_documents, target, h_id,
    h_target, h_live, h_errors, h_all⟩ := h_run
  have h_decodes : ∀ payload, (target.id, payload) ∈ r.payloads →
      (target.decode payload).isSome = true := by
    intro payload h_mem
    have h_one := List.all_eq_true.mp h_all _ h_mem
    simpa using h_one
  obtain ⟨⟨c', h_c'⟩, h_all'⟩ := siblings_unharmed sampleHub rfl (Reachable.init.run h_run) h_todo
    h_scope h_route h_documents h_target h_live h_errors h_decodes
  exact ⟨c, c', d, rest, target, h_id, h_c', (h_all' c' h_c').1⟩

/-- A slot that is live on the connection, with a payload that decodes and an
empty queue, gets nothing and is not marked lagging: its receiver is gone. -/
theorem dropped_stream_gets_nothing : ∃ (c c' : Config ℕ) (d : Driving ℕ)
    (stall : Option Instant) (rest : List (Instr ℕ)) (r : Routed) (target : SlotTarget ℕ)
    (payload : Json) (value : ℕ),
    (hubProgram sampleHub).Reachable (initialConfig ℕ) anyStep c ∧
    c.todo firstSupervisor = .select d stall :: rest ∧ d.scope = .shared ∧
    route (sampleFrame 7) d.connection.targets = some r ∧ r.documentErrors = [] ∧
    d.connection.byId target.id = some target ∧ target.id ∈ c.store.state.scopeIds .shared ∧
    r.slotErrors = [] ∧ (target.id, payload) ∈ r.payloads ∧ target.decode payload = some value ∧
    (c.store.queues target.id).length < slotChannelCapacity ∧
    Handles sampleHub firstSupervisor d rest (sampleFrame 7) c c' ∧
    c'.store.queues target.id = c.store.queues target.id ∧
    c'.store.lagging target.id = false := by
  -- the run up to the frame, with all that `handles_share` asks of it
  have h_run : ∃ (c : Config ℕ) (d : Driving ℕ) (stall : Option Instant) (rest : List (Instr ℕ))
      (r : Routed) (target : SlotTarget ℕ) (payload : Json),
      (hubProgram sampleHub).run (initialConfig ℕ) (registering 0 5 ++ opening ++
        [.request (.drop 0), .run (.consumer 0) .proceed]) = some c ∧
      c.todo firstSupervisor = .select d stall :: rest ∧ d.scope = .shared ∧
      route (sampleFrame 7) d.connection.targets = some r ∧ r.documentErrors = [] ∧
      d.connection.byId target.id = some target ∧ target.id ∈ c.store.state.scopeIds .shared ∧
      r.slotErrors = [] ∧ r.payloads = [(target.id, payload)] ∧ target.decode payload = some 7 ∧
      (c.store.queues target.id).length < slotChannelCapacity ∧
      c.store.closed target.id = true ∧ c.store.lagging target.id = false :=
    ⟨_, _, _, _, _, { id := 0, field := "readiness".toList, decode := sampleSpec.decode },
      .object [("readiness".toList, .number 7 0)], rfl, rfl, rfl, rfl, rfl, rfl, by decide, rfl,
      rfl, rfl, by decide, rfl, rfl⟩
  obtain ⟨c, d, stall, rest, r, target, payload, h_run, h_todo, h_scope, h_route, h_documents,
    h_target, h_live, h_none, h_payloads, h_value, h_room, h_closed, h_calm⟩ := h_run
  have h_reach := Reachable.init.run h_run
  have h_aligned : d.connection.Aligned :=
    Aligned.reachable h_reach firstSupervisor (.select d stall)
      (by rw [h_todo]; exact List.mem_cons_self) d rfl
  have h_mem : (target.id, payload) ∈ r.payloads := by
    rw [h_payloads]
    exact List.mem_singleton_self _
  have h_hub : sampleHub.dedicated = false := rfl
  -- `handles_share` decides the view of the slot whatever its stream did
  obtain ⟨⟨c', h_c'⟩, h_view⟩ := handles_share h_hub h_todo h_scope h_aligned
    h_route h_documents h_target h_live (by rw [h_none]; exact List.not_mem_nil) (by
      intro payload' h_mem'
      rw [h_payloads] at h_mem'
      obtain rfl : payload' = payload := (Prod.mk.inj (List.mem_singleton.mp h_mem')).2
      rw [h_value]
      rfl)
  have h_same := h_view c' h_c'
  -- a closed receiver takes no item
  have h_offer : ∀ item, (c.store.view target.id).offer item c.store.clock =
      c.store.view target.id := fun item => if_pos h_closed
  have h_share : ∀ part, ((c.store.view target.id).share part c.store.clock).queue =
        c.store.queues target.id ∧
      ((c.store.view target.id).share part c.store.clock).lagging = c.store.lagging target.id := by
    intro part
    cases part with
    | none => exact ⟨rfl, rfl⟩
    | some item =>
      unfold SlotView.share
      rw [Option.elim_some, h_offer]
      exact ⟨rfl, rfl⟩
  obtain ⟨h_queue, h_lagging⟩ := h_share (partOf r.payloads target d.conn c.store.frames)
  rw [← h_same] at h_queue h_lagging
  exact ⟨c, c', d, stall, rest, r, target, payload, 7, h_reach, h_todo, h_scope, h_route,
    h_documents, h_target, h_live, h_none, h_mem, h_value, h_room, h_c', h_queue,
    h_lagging.trans h_calm⟩

end Blokli
