import BlokliClient.Hub.Program

/-!
# What the critical sections leave alone

Most sections touch nothing but the health of some slots, and most instructions
do not even do that. Every invariant of the hub rests on the same two facts:

* `SameSlots`: a section leaves every slot registered, with its document, its
  isolation and its resync request. It then leaves every scope its slots
  (`SameSlots.scopeIds`) and every connection its verdict.
* `Quiet`: an instruction leaves queues, flags, tokens and the watch channel
  alone, and the slots up to health. `exec_quiet` says which instructions are
  quiet; the few others have lemmas of their own.
* `DeliverStep` and `ReceiveStep`: what a delivery and a poll do, the two ends of a queue.
-/

namespace Blokli

open Worklist

variable {V : Type}

/-! ### Slots up to their health -/

/-- What a slot is, but for its health. -/
structure SlotCore (V : Type) where
  spec : SubscriptionSpec V
  isolated : Option Isolation
  resync : Bool

def SlotEntry.core (e : SlotEntry V) : SlotCore V := ⟨e.spec, e.isolated, e.resync⟩

/-- Two states with the same slots, up to their health. -/
structure SameSlots (s s' : HubState V) : Prop where
  nextId : s'.nextId = s.nextId
  supervisor : s'.supervisor = s.supervisor
  reqwestClient : s'.reqwestClient = s.reqwestClient
  core : ∀ id, (s'.slots id).map SlotEntry.core = (s.slots id).map SlotEntry.core

namespace HubState

variable (s : HubState V)

/-- What a section that rewrites every entry makes of one of them. -/
theorem mapSlots_slots (f : SlotId → SlotEntry V → SlotEntry V) (id : SlotId) :
    (s.mapSlots f).slots id = (s.slots id).map (f id) := rfl

/-- What a section that rewrites one entry makes of it. -/
theorem modifySlot_slots_self (id : SlotId) (f : SlotEntry V → SlotEntry V) :
    (s.modifySlot id f).slots id = (s.slots id).map f := by
  change (s.slots id).map _ = _
  simp only [if_true]

/-- Such a section leaves the other entries alone. -/
theorem modifySlot_slots_of_ne {id id' : SlotId} (f : SlotEntry V → SlotEntry V)
    (h : id' ≠ id) : (s.modifySlot id f).slots id' = s.slots id' := by
  change (s.slots id').map _ = _
  simp only [h, if_false, Option.map_id']

/-- The registered slots, by their entries. -/
theorem mem_ids {id : SlotId} : id ∈ s.ids ↔ id < s.nextId ∧ ∃ e, s.slots id = some e := by
  rw [ids, List.mem_filter, List.mem_range, Option.isSome_iff_exists]

/-- A slot that is on a connection is registered. -/
theorem belongs_eq_true {id : SlotId} {scope : Scope} :
    s.belongs id scope = true ↔ ∃ e, s.slots id = some e ∧ e.belongsTo id scope = true := by
  unfold belongs
  cases s.slots id with
  | none => simp
  | some e => simp

/-- The slots of a connection, by their entries. -/
theorem mem_scopeIds {id : SlotId} {scope : Scope} :
    id ∈ s.scopeIds scope ↔
      id < s.nextId ∧ ∃ e, s.slots id = some e ∧ e.belongsTo id scope = true := by
  rw [scopeIds, List.mem_filter, mem_ids, belongs_eq_true]
  constructor
  · rintro ⟨⟨h_lt, -⟩, h⟩
    exact ⟨h_lt, h⟩
  · rintro ⟨h_lt, e, h_e, h⟩
    exact ⟨⟨h_lt, e, h_e⟩, e, h_e, h⟩

/-- A section that rewrites only health leaves the slots the same. -/
theorem sameSlots_mapSlots {f : SlotId → SlotEntry V → SlotEntry V}
    (h : ∀ id e, (f id e).core = e.core) : SameSlots s (s.mapSlots f) where
  nextId := rfl
  supervisor := rfl
  reqwestClient := rfl
  core id := by
    rw [mapSlots_slots, Option.map_map]
    exact congrArg (fun g => (s.slots id).map g) (funext (h id))

/-- An update of health only writes trackers. -/
theorem sameSlots_withHealth (scope : Scope) (ids : List SlotId) (update : HealthUpdate)
    (now : Instant) : SameSlots s (s.withHealth scope ids update now) := by
  refine s.sameSlots_mapSlots fun id e => ?_
  split <;> rfl

/-- A refusal only writes trackers. -/
theorem sameSlots_reject (scope : Scope) (ids : List SlotId) (problem : SubscriptionProblem)
    (now : Instant) : SameSlots s (s.reject scope ids problem now) := by
  refine s.sameSlots_mapSlots fun id e => ?_
  split <;> rfl

/-- Reporting a stall only writes trackers. -/
theorem sameSlots_markStalled (cfg : BlokliClientConfig) (scope : Scope) (now : Instant) :
    SameSlots s (s.markStalled cfg scope now) := by
  unfold markStalled
  split
  · exact ⟨rfl, rfl, rfl, fun _ => rfl⟩
  · refine s.sameSlots_mapSlots fun id e => ?_
    split <;> rfl

/-- The generation is no part of the slots. -/
theorem sameSlots_bumpGeneration : SameSlots s s.bumpGeneration := ⟨rfl, rfl, rfl, fun _ => rfl⟩

end HubState

namespace SameSlots

variable {s s' s'' : HubState V}

/-- Nothing happened. -/
theorem refl (s : HubState V) : SameSlots s s := ⟨rfl, rfl, rfl, fun _ => rfl⟩

/-- Each entry is still there, up to its health. -/
theorem slot (h : SameSlots s s') {id : SlotId} {e : SlotEntry V} (h_e : s.slots id = some e) :
    ∃ e', s'.slots id = some e' ∧ e'.core = e.core := by
  have h_core := h.core id
  rw [h_e] at h_core
  exact Option.map_eq_some_iff.mp h_core

/-- The relation does not depend on the direction. -/
theorem symm (h : SameSlots s s') : SameSlots s' s :=
  ⟨h.nextId.symm, h.supervisor.symm, h.reqwestClient.symm, fun id => (h.core id).symm⟩

/-- The same slots are gone. -/
theorem none_iff (h : SameSlots s s') (id : SlotId) : s'.slots id = none ↔ s.slots id = none := by
  have h_core := h.core id
  rw [← Option.map_eq_none_iff (f := SlotEntry.core), h_core, Option.map_eq_none_iff]

/-- Which connection a slot belongs to can be read off its core. -/
theorem belongsTo {e e' : SlotEntry V} (h : e'.core = e.core) (id : SlotId) (scope : Scope) :
    e'.belongsTo id scope = e.belongsTo id scope := by
  have h_iso : e'.isolated = e.isolated := congrArg SlotCore.isolated h
  cases scope with
  | shared => exact congrArg Option.isNone h_iso
  | isolated own => rfl

/-- Every slot is on the connection that it was on. -/
theorem belongs (h : SameSlots s s') (id : SlotId) (scope : Scope) :
    s'.belongs id scope = s.belongs id scope := by
  unfold HubState.belongs
  cases h_e : s.slots id with
  | none => rw [(h.none_iff id).mpr h_e]
  | some e =>
    obtain ⟨e', h_e', h_core⟩ := h.slot h_e
    rw [h_e']
    exact belongsTo h_core id scope

/-- The registered slots are the same. -/
theorem ids (h : SameSlots s s') : s'.ids = s.ids := by
  unfold HubState.ids
  rw [h.nextId]
  refine List.filter_congr fun id _ => ?_
  rw [← Option.isSome_map (f := SlotEntry.core), h.core id, Option.isSome_map]

/-- So are the slots of each connection. -/
theorem scopeIds (h : SameSlots s s') (scope : Scope) : s'.scopeIds scope = s.scopeIds scope := by
  unfold HubState.scopeIds
  rw [h.ids]
  exact List.filter_congr fun id _ => h.belongs id scope

end SameSlots

/-- The scopes are decided by which slots are registered and which are isolated. -/
theorem scopeIds_congr {s s' : HubState V} (h_next : s'.nextId = s.nextId)
    (h : ∀ id, (s'.slots id).map (fun e => e.isolated.isNone) =
      (s.slots id).map fun e => e.isolated.isNone) (scope : Scope) :
    s'.scopeIds scope = s.scopeIds scope := by
  -- the same slots exist, so the same numbers are listed
  have h_some : ∀ id, (s'.slots id).isSome = (s.slots id).isSome := fun id => by
    rw [← Option.isSome_map (f := fun e : SlotEntry V => e.isolated.isNone), h id,
      Option.isSome_map]
  have h_ids : s'.ids = s.ids := by
    unfold HubState.ids
    rw [h_next]
    exact List.filter_congr fun id _ => h_some id
  unfold HubState.scopeIds
  rw [h_ids]
  refine List.filter_congr fun id _ => ?_
  unfold HubState.belongs
  -- and each is on the same side: isolated in both or in neither
  have h_id := h id
  cases h_e : s.slots id with
  | none =>
    rw [h_e, Option.map_none, Option.map_eq_none_iff] at h_id
    rw [h_id]
  | some e =>
    rw [h_e, Option.map_some] at h_id
    obtain ⟨e', h_e', h_iso⟩ := Option.map_eq_some_iff.mp h_id
    rw [h_e']
    cases scope with
    | shared => exact h_iso
    | isolated own => rfl

/-! ### Quiet instructions -/

/-- What two stores have in common when only health, delays, counters and the
history differ. -/
structure Quiet (s s' : Store V) : Prop where
  slots : SameSlots s.state s'.state
  version : s'.version = s.version
  receivers : s'.receivers = s.receivers
  alive : s'.alive = s.alive
  serial : s'.serial = s.serial
  queues : s'.queues = s.queues
  lagging : s'.lagging = s.lagging
  closed : s'.closed = s.closed
  streaming : s'.streaming = s.streaming
  clock : s'.clock = s.clock

/-- An instruction that does nothing is quiet. -/
theorem Quiet.refl (s : Store V) : Quiet s s :=
  ⟨SameSlots.refl _, rfl, rfl, rfl, rfl, rfl, rfl, rfl, rfl, rfl⟩

/-- An event for the history is all that is logged. -/
theorem Quiet.log (s : Store V) (event : Event V) : Quiet s (s.log event) :=
  ⟨SameSlots.refl _, rfl, rfl, rfl, rfl, rfl, rfl, rfl, rfl, rfl⟩

/-- Writing trackers is quiet. -/
theorem Quiet.state (s : Store V) {state : HubState V} (h : SameSlots s.state state) :
    Quiet s { s with state := state } :=
  ⟨h, rfl, rfl, rfl, rfl, rfl, rfl, rfl, rfl, rfl⟩

/-- The instructions that touch more than health, delays, counters and the history. -/
def Instr.loud : Instr V → Bool
  | .sendGeneration | .ensureSupervisors | .spawnSupervisor _ | .isolate _ _ | .endSlots _ _
  | .dropReceiver _ | .dropToken _ | .snapshot _ _ | .trySend _ _ | .deliver _ _ _
  | .swapLagging _ _ | .receive _ | .resumeAfter _ _ | .swapDrained _ | .requestResync _
  | .closeReceiver _ | .deregister _ => true
  | _ => false

variable {hub : HubConfig} {t : Task} {ch : Choice} {i : Instr V} {c : Config V} {e : Effect V}

/-- Routing a frame is quiet: its instructions do the rest. -/
theorem quiet_execEvent (d : Driving V) (data : Option GraphQlResponse) (s : Store V) :
    Quiet s (execEvent d data s).store := by
  unfold execEvent
  split
  · exact Quiet.refl _
  · exact ⟨SameSlots.refl _, rfl, rfl, rfl, rfl, rfl, rfl, rfl, rfl, rfl⟩

/-- An error of the SSE client is quiet. -/
theorem quiet_execStreamError (hub : HubConfig) (t : Task) (d : Driving V) (error : SseError)
    (s : Store V) : Quiet s (execStreamError hub t d error s).store := by
  unfold execStreamError
  dsimp only
  split
  · exact Quiet.refl _
  · split
    · exact ⟨SameSlots.refl _, rfl, rfl, rfl, rfl, rfl, rfl, rfl, rfl, rfl⟩
    · exact Quiet.refl _

/-- So is whatever the SSE client yields. -/
theorem quiet_execNext (hub : HubConfig) (t : Task) (d : Driving V) (item : Option SseItem)
    (s : Store V) : Quiet s (execNext hub t d item s).store := by
  unfold execNext
  split
  · exact quiet_execEvent ..
  · exact ⟨SameSlots.refl _, rfl, rfl, rfl, rfl, rfl, rfl, rfl, rfl, rfl⟩
  · exact Quiet.refl _
  · exact quiet_execStreamError ..
  · exact Quiet.refl _

/-- **Quiet instructions are quiet.** -/
theorem exec_quiet (h : exec hub t ch i c = some e) (h_i : i.loud = false) :
    Quiet c.store e.store := by
  cases i with
  -- the state of health is no part of what is compared
  | bumpGeneration =>
    obtain rfl := Option.some.inj h
    exact Quiet.state _ (HubState.sameSlots_bumpGeneration _)
  | markStalled scope =>
    obtain rfl := Option.some.inj h
    exact Quiet.state _ (HubState.sameSlots_markStalled ..)
  | withHealth scope ids update =>
    obtain rfl := Option.some.inj h
    exact Quiet.state _ (HubState.sameSlots_withHealth ..)
  | reject scope targets problem error =>
    obtain rfl := Option.some.inj h
    exact ⟨HubState.sameSlots_reject .., rfl, rfl, rfl, rfl, rfl, rfl, rfl, rfl, rfl⟩
  | readLive d =>
    obtain rfl := Option.some.inj h
    exact Quiet.log ..
  | build scope slots =>
    -- a document that cannot be built ends in errors for its slots; nothing is stored yet
    simp only [exec, execBuild] at h
    split at h
    · exact absurd h (by simp)
    · obtain rfl := Option.some.inj h
      exact Quiet.refl _
    · obtain rfl := Option.some.inj h
      exact ⟨SameSlots.refl _, rfl, rfl, rfl, rfl, rfl, rfl, rfl, rfl, rfl⟩
  | readCause id =>
    obtain rfl := Option.some.inj h
    unfold execReadCause
    split
    · exact Quiet.refl _
    · exact ⟨SameSlots.refl _, rfl, rfl, rfl, rfl, rfl, rfl, rfl, rfl, rfl⟩
  | malformedEvent d =>
    obtain rfl := Option.some.inj h
    exact ⟨SameSlots.refl _, rfl, rfl, rfl, rfl, rfl, rfl, rfl, rfl, rfl⟩
  | openStream d =>
    obtain rfl := Option.some.inj h
    unfold execOpenStream
    split <;> exact Quiet.refl _
  | dispatchDocument d =>
    obtain rfl := Option.some.inj h
    unfold execDocument
    dsimp only
    split
    · exact Quiet.refl _
    · split
      · exact Quiet.refl _
      · split <;> split <;>
          exact ⟨SameSlots.refl _, rfl, rfl, rfl, rfl, rfl, rfl, rfl, rfl, rfl⟩
  | waitReconnect scope deadline connected =>
    -- waiting only moves the clock of the task and what it has seen
    simp only [exec] at h
    split at h
    · split at h
      · obtain rfl := Option.some.inj h
        exact Quiet.refl _
      · exact absurd h (by simp)
    · split at h
      · exact absurd h (by simp)
      · obtain rfl := Option.some.inj h
        exact ⟨SameSlots.refl _, rfl, rfl, rfl, rfl, rfl, rfl, rfl, rfl, rfl⟩
    · exact absurd h (by simp)
  | awaitChange scope waitUntil deadline slots =>
    simp only [exec] at h
    split at h
    · split at h
      · obtain rfl := Option.some.inj h
        exact Quiet.refl _
      · exact absurd h (by simp)
    · split at h
      · exact absurd h (by simp)
      · obtain rfl := Option.some.inj h
        exact ⟨SameSlots.refl _, rfl, rfl, rfl, rfl, rfl, rfl, rfl, rfl, rfl⟩
    · exact absurd h (by simp)
  | select d stall =>
    -- so does the select, except where an item of the stream arrives
    simp only [exec] at h
    split at h
    · split at h
      · exact absurd h (by simp)
      · obtain rfl := Option.some.inj h
        exact ⟨SameSlots.refl _, rfl, rfl, rfl, rfl, rfl, rfl, rfl, rfl, rfl⟩
    · split at h
      · obtain rfl := Option.some.inj h
        exact Quiet.refl _
      · exact absurd h (by simp)
    · next item =>
      obtain rfl := Option.some.inj h
      exact quiet_execNext ..
    · exact absurd h (by simp)
  | _ =>
    first
      | (cases h_i; done)
      | (obtain rfl := Option.some.inj h; exact Quiet.refl _)

/-! ### Deliveries -/

section Deliveries

variable {scope : Scope} {target : SlotTarget V} {item : Item V} {s : Store V}

/-- **What `deliver` does**: nobody listens any more, the item is queued, or the queue is
full and the item is dropped. A delivery that waits for room does nothing. -/
inductive DeliverStep (hub : HubConfig) (scope : Scope) (target : SlotTarget V) (item : Item V)
    (s : Store V) : Effect V → Prop
  | gone (closed : s.closed target.id = true) :
      DeliverStep hub scope target item s
        { store := s.log (.undelivered target.id item), next := [] }
  | queued (listens : s.closed target.id = false)
      (room : (s.queues target.id).length < slotChannelCapacity) :
      DeliverStep hub scope target item s
        { store := s.push target.id item
          next := if item.isData then [.withHealth scope [target.id] .dataUpdate] else [] }
  | dropped (listens : s.closed target.id = false)
      (full : slotChannelCapacity ≤ (s.queues target.id).length)
      (drops : hub.dedicated = false) (shared : scope = .shared) :
      DeliverStep hub scope target item s
        { store := s.log (.dropped target.id item scope (s.queues target.id).length)
          next := [.swapLagging scope target.id] }

/-- The receiver was dropped with its stream: the send fails, and nobody notices. -/
theorem execDeliver_gone (h : s.closed target.id = true) :
    execDeliver hub scope target item s =
      some { store := s.log (.undelivered target.id item), next := [] } := if_pos h

/-- There is room in the queue. Data counts as a sign of life. -/
theorem execDeliver_queued (h_listens : s.closed target.id = false)
    (h_room : (s.queues target.id).length < slotChannelCapacity) :
    execDeliver hub scope target item s =
      some { store := s.push target.id item
             next := if item.isData then [.withHealth scope [target.id] .dataUpdate] else [] } := by
  unfold execDeliver
  rw [h_listens, if_neg Bool.false_ne_true, if_pos h_room]

/-- The queue is full and nobody waits for room: the item is dropped, and the lag flag is next. -/
theorem execDeliver_dropped (h_listens : s.closed target.id = false)
    (h_full : slotChannelCapacity ≤ (s.queues target.id).length)
    (h_drops : hub.dedicated = false) :
    execDeliver hub .shared target item s =
      some { store := s.log (.dropped target.id item .shared (s.queues target.id).length)
             next := [.swapLagging .shared target.id] } := by
  unfold execDeliver
  rw [h_listens, if_neg Bool.false_ne_true, if_neg (Nat.not_lt.mpr h_full), h_drops]
  rfl

/-- The other deliveries to a full queue wait. -/
theorem execDeliver_waits (h_listens : s.closed target.id = false)
    (h_full : slotChannelCapacity ≤ (s.queues target.id).length)
    (h_waits : (hub.dedicated || decide (scope ≠ .shared)) = true) :
    execDeliver hub scope target item s = none := by
  unfold execDeliver
  rw [h_listens, if_neg Bool.false_ne_true, if_neg (Nat.not_lt.mpr h_full), if_pos h_waits]

/-- The cases of `deliver`, from its code. -/
theorem execDeliver_step (h : execDeliver hub scope target item s = some e) :
    DeliverStep hub scope target item s e := by
  -- first whether the receiver is gone
  cases h_closed : s.closed target.id with
  | true =>
    rw [execDeliver_gone h_closed] at h
    obtain rfl := Option.some.inj h
    exact .gone h_closed
  | false =>
    -- then whether the queue has room
    rcases Nat.lt_or_ge (s.queues target.id).length slotChannelCapacity with h_room | h_full
    · rw [execDeliver_queued h_closed h_room] at h
      obtain rfl := Option.some.inj h
      exact .queued h_closed h_room
    -- a full queue: a slot with a connection of its own waits, the shared one does not
    · cases h_waits : hub.dedicated || decide (scope ≠ .shared) with
      | true =>
        rw [execDeliver_waits h_closed h_full h_waits] at h
        cases h
      | false =>
        -- what is left is the shared scope of a hub without dedicated connections
        obtain ⟨h_drops, h_scope⟩ := Bool.or_eq_false_iff.mp h_waits
        obtain rfl : scope = .shared := Decidable.not_not.mp (of_decide_eq_false h_scope)
        rw [execDeliver_dropped h_closed h_full h_drops] at h
        obtain rfl := Option.some.inj h
        exact .dropped h_closed h_full h_drops rfl

end Deliveries

/-! ### Polls -/

section Polls

variable {id : SlotId} {item : Item V} {items : List (Item V)}

/-- What is left to do for an item that was taken out: its cursor is noted. -/
def SlotEvent.noted (id : SlotId) : SlotEvent V → List (Instr V)
  | .data value => [.resumeAfter id value]
  | .error _ => []

/-- **What `poll_recv` does**: it takes an item out, finds none yet, or ends the stream. -/
inductive ReceiveStep (id : SlotId) (c : Config V) : Effect V → Prop
  | popped (item : Item V) (items : List (Item V)) (queue : c.store.queues id = item :: items) :
      ReceiveStep id c
        { store := { c.store with queues := Function.update c.store.queues id items }.log
            (.received id item)
          next := item.event.noted id ++ [.checkDrained id] }
  | pending (queue : c.store.queues id = []) (held : senderHeld c id = true) :
      ReceiveStep id c { store := c.store, next := [] }
  | ended (queue : c.store.queues id = []) (free : senderHeld c id = false) :
      ReceiveStep id c
        { store := { c.store with streaming := Function.update c.store.streaming id false }
          next := [.closeReceiver id, .deregister id] }

/-- The oldest item is returned, and the query continues after a value. -/
theorem execReceive_popped (h : c.store.queues id = item :: items) :
    execReceive id c =
      { store := { c.store with queues := Function.update c.store.queues id items }.log
          (.received id item)
        next := item.event.noted id ++ [.checkDrained id] } := by
  unfold execReceive
  rw [h]
  rfl

/-- The queue is empty and somebody holds a sender: the stream is pending. -/
theorem execReceive_pending (h : c.store.queues id = []) (h_held : senderHeld c id = true) :
    execReceive id c = { store := c.store, next := [] } := by
  unfold execReceive
  rw [h]
  exact if_pos h_held

/-- The queue is empty and all senders are gone: the stream is over. -/
theorem execReceive_ended (h : c.store.queues id = []) (h_free : senderHeld c id = false) :
    execReceive id c =
      { store := { c.store with streaming := Function.update c.store.streaming id false }
        next := [.closeReceiver id, .deregister id] } := by
  unfold execReceive
  rw [h]
  exact if_neg (by rw [h_free]; exact Bool.false_ne_true)

/-- The cases of `poll_next`, from its code. -/
theorem execReceive_step (h : execReceive id c = e) : ReceiveStep id c e := by
  subst h
  -- an empty queue: pending while somebody holds the sender, the end otherwise
  cases h_queue : c.store.queues id with
  | nil =>
    cases h_held : senderHeld c id with
    | true =>
      rw [execReceive_pending h_queue h_held]
      exact .pending h_queue h_held
    | false =>
      rw [execReceive_ended h_queue h_held]
      exact .ended h_queue h_held
  | cons item items =>
    rw [execReceive_popped h_queue]
    exact .popped item items h_queue

end Polls

end Blokli
