import Mathlib.Data.Prod.Lex
import BlokliClient.Hub.Overflow

/-!
# Where a resumable subscription continues

The closure of a resumable subscription reads the cursor of an entry that its
stream returned, and renders the query that continues after it (`Resumption`).
The entry of the slot keeps that query until the next snapshot. Meanwhile the
shared connection may drop entries, because the queue is full.

* `Dropped`: an entry with this cursor was dropped since the last connection was
  built for the slot.
* `NoGap`: the condition on a step under which the stored document never passes
  a dropped entry. Nothing in the source enforces it: `deliver` sends again as
  soon as there is room.
* `Continuing`: what the stored document continues after was pushed, and what was
  pushed lies before what was dropped.
-/

namespace Blokli

open Worklist

variable {V K : Type} {hub : HubConfig} {t : Task} {ch : Choice} {i : Instr V} {c c' : Config V}
  {e : Effect V} {a : Action Task Choice (Request V)}

/-! ### Cursors -/

/-- **The closure of a resumable subscription**: the cursor of an entry, and the
query that resumes after a cursor, if it can be rendered. The query names its
cursor. -/
structure Resumption (V K : Type) where
  cursor : V → Option K
  queryAfter : K → Option ResumedQuery
  names : ∀ {k k' query}, queryAfter k = some query → queryAfter k' = some query → k = k'

/-- The last connection of slot `id` was assembled. -/
def Event.builtFor (id : SlotId) : Event V → Bool
  | .built _ _ slots _ _ => decide (id ∈ slots.map Prod.fst)
  | _ => false

namespace Resumption

variable (r : Resumption V K)

def resume (value : V) : Option ResumedQuery := (r.cursor value).bind r.queryAfter

/-- The document of a spec resumes after the cursor. -/
def Carries (spec : SubscriptionSpec V) (k : K) : Prop :=
  r.queryAfter k = some { document := spec.document, queryVariables := spec.queryVariables }

/-- The spec is resumed by this closure, and starts without a cursor. -/
structure Serves (spec : SubscriptionSpec V) : Prop where
  resume : spec.resume = some r.resume
  fresh : ∀ k, ¬ r.Carries spec k

/-- The cursor of an item, if it is an entry that has one. -/
def cursorOf (item : Item V) : Option K :=
  match item.event with
  | .data value => r.cursor value
  | .error _ => none

/-- An entry with this cursor was dropped since the last connection was built for
the slot. -/
def Dropped (id : SlotId) (s : Store V) (k : K) : Prop :=
  ∃ item scope waiting, .dropped id item scope waiting ∈ since (Event.builtFor id) s.history ∧
    r.cursorOf item = some k

/-- An entry with a cursor is queued for the slot only if none was dropped since
the slot's last connection was built. -/
def NoGap (id : SlotId) (c : Config V) (a : Action Task Choice (Request V)) : Prop :=
  ∀ t i item, Runs c a t i → i.hands id = some item → (r.cursorOf item).isSome = true →
    c.store.closed id = false → (c.store.queues id).length < slotChannelCapacity →
      ∀ k, ¬ r.Dropped id c.store k

variable [Preorder K]

/-- The entries that the connections of a slot take to its queue have strictly
increasing cursors. -/
def Increasing (id : SlotId) (s : Store V) : Prop :=
  ((s.handed id).filterMap r.cursorOf).Pairwise (· < ·)

end Resumption

/-! ### The graph subscription -/

/-- Position of a channel state change in the indexed chain. The client does not
read the three numbers, which are texts to it. -/
structure ChannelStatePosition where
  block : Text
  transactionIndex : Text
  logIndex : Text

/-- A position as the server counts: by block, transaction and log. -/
def ChannelStatePosition.place (p : ChannelStatePosition) : ℕ ×ₗ ℕ ×ₗ ℕ :=
  toLex (Nat.ofDigitChars 10 p.block 0,
    toLex (Nat.ofDigitChars 10 p.transactionIndex 0, Nat.ofDigitChars 10 p.logIndex 0))

instance : Preorder ChannelStatePosition := Preorder.lift ChannelStatePosition.place

/-- The variables of `subscribe_graph_after`. -/
def graphVariables : Option ChannelStatePosition → Json
  | none => .object [("after".toList, .null)]
  | some position => .object [("after".toList, .object [("block".toList, .string position.block),
      ("transactionIndex".toList, .string position.transactionIndex),
      ("logIndex".toList, .string position.logIndex)])]

/-- The closure of `subscribe_graph_with_health`. -/
def graphResumption (document : Text) (cursor : V → Option ChannelStatePosition) :
    Resumption V ChannelStatePosition where
  cursor := cursor
  queryAfter position :=
    some { document := document, queryVariables := graphVariables (some position) }
  names {k k' query} h h' := by
    have h_variables : graphVariables (some k) = graphVariables (some k') :=
      congrArg ResumedQuery.queryVariables (Option.some.inj (h.trans h'.symm))
    cases k
    cases k'
    simpa [graphVariables] using h_variables

/-- The subscription of `subscribe_graph_with_health`. -/
def graphSpec (document : Text) (decode : Json → Option V)
    (cursor : V → Option ChannelStatePosition) : SubscriptionSpec V where
  document := document
  queryVariables := graphVariables none
  decode := decode
  resume := some (graphResumption document cursor).resume

/-- The graph subscription resumes after its cursor. -/
theorem graphSpec_serves (document : Text) (decode : Json → Option V)
    (cursor : V → Option ChannelStatePosition) :
    (graphResumption document cursor).Serves (graphSpec document decode cursor) where
  resume := rfl
  fresh k h := by
    have h_variables : graphVariables (some k) = graphVariables none :=
      congrArg ResumedQuery.queryVariables (Option.some.inj h)
    simp [graphVariables] at h_variables

/-! ### What the stored document continues after -/

/-- A payload is handed to `resume_after` by the poll that takes it out of the
queue. -/
theorem resumeAfter_origin (h : (hubProgram hub).step c a = some c') {id : SlotId} {payload : V}
    (h_mem : .resumeAfter id payload ∈ c'.todo t) : .resumeAfter id payload ∈ c.todo t ∨
      ∃ item ∈ c.store.queues id, item.event = .data payload := by
  -- the note was there, or the poll of this step left it
  rcases origin_step h h_mem rfl with h_old | ⟨ch, i, rest, e, -, -, he, h_next⟩
  · exact Or.inl h_old
  · have h_point := exec_successors he _ h_next
    right
    cases i with
    | receive id' =>
      cases execReceive_step (Option.some.inj he) with
      -- an item that was popped: only an entry is to be resumed after
      | popped item items queue =>
        rcases List.mem_append.mp h_next with h_next | h_next
        · cases h_event : item.event with
          | data value =>
            rw [h_event] at h_next
            obtain ⟨rfl, rfl⟩ := Instr.resumeAfter.inj (List.mem_singleton.mp h_next)
            exact ⟨item, by rw [queue]; exact List.mem_cons_self, h_event⟩
          | error error =>
            rw [h_event] at h_next
            exact absurd h_next List.not_mem_nil
        · cases List.mem_singleton.mp h_next
      | pending queue held => exact absurd h_next List.not_mem_nil
      | ended queue free => simp at h_next
    | _ => exact absurd h_point (Point.not_mem rfl)

namespace Resumption

variable {r : Resumption V K} {id : SlotId}

/-- The cursor of an item is that of its value. -/
theorem cursorOf_data {item : Item V} {value : V} (h : item.event = .data value) :
    r.cursorOf item = r.cursor value := by
  unfold cursorOf
  rw [h]

variable [Preorder K]

/-- The entries increase from the start. -/
theorem Increasing.before (h_inc : r.Increasing id c'.store)
    (h : (hubProgram hub).step c a = some c') : r.Increasing id c.store := by
  obtain ⟨new, h_new, -⟩ := history_step h
  exact h_inc.sublist ((handed_sublist h_new).filterMap _)

/-- **Continuing.** What waits in the queue, what is about to be resumed after and
what the stored document resumes after was pushed; and what was pushed lies before
what was dropped. -/
structure Continuing (r : Resumption V K) (id : SlotId) (c : Config V) : Prop where
  queue : ∀ item ∈ c.store.queues id, .queued id item ∈ c.store.history
  pending : ∀ t payload, .resumeAfter id payload ∈ c.todo t →
    ∃ item, .queued id item ∈ c.store.history ∧ item.event = .data payload
  entry : ∀ e, c.store.state.slots id = some e → e.spec.resume = some r.resume ∧
    ∀ k, r.Carries e.spec k → ∃ item, .queued id item ∈ c.store.history ∧ r.cursorOf item = some k
  apart : ∀ item k k', .queued id item ∈ c.store.history → r.cursorOf item = some k →
    r.Dropped id c.store k' → k < k'

namespace Continuing

/-- At the start nothing is queued. -/
theorem initial : Continuing r id (initialConfig V) where
  queue _ h := absurd h List.not_mem_nil
  pending _ _ h := absurd h List.not_mem_nil
  entry _ h := by cases h
  apart _ _ _ h := absurd h List.not_mem_nil

/-- What waits in the queue was pushed. -/
theorem step_queue (h_inv : Continuing r id c) (h : (hubProgram hub).step c a = some c') :
    ∀ item ∈ c'.store.queues id, .queued id item ∈ c'.store.history := by
  intro item h_item
  have h_old : item ∈ c.store.queues id → .queued id item ∈ c'.store.history :=
    fun h_item => history_subset h (h_inv.queue item h_item)
  cases queue_step h id with
  | same queue => exact h_old (queue ▸ h_item)
  | pushed t i item' runs hands listens room queue history =>
    rw [queue, List.mem_append, List.mem_singleton] at h_item
    rcases h_item with h_item | rfl
    · exact h_old h_item
    · rw [history]
      exact List.mem_cons_self
  | popped t item' runs queue history =>
    refine h_old ?_
    rw [queue]
    exact List.mem_cons_of_mem _ h_item
  | cleared t runs queue closed =>
    rw [queue] at h_item
    exact absurd h_item List.not_mem_nil

/-- What the consumer is about to resume after was pushed. -/
theorem step_pending (h_inv : Continuing r id c) (h : (hubProgram hub).step c a = some c') :
    ∀ t payload, .resumeAfter id payload ∈ c'.todo t →
      ∃ item, .queued id item ∈ c'.store.history ∧ item.event = .data payload := by
  intro t payload h_mem
  rcases resumeAfter_origin h h_mem with h_mem | ⟨item, h_item, h_event⟩
  · obtain ⟨item, h_queued, h_event⟩ := h_inv.pending t payload h_mem
    exact ⟨item, history_subset h h_queued, h_event⟩
  · exact ⟨item, history_subset h (h_inv.queue item h_item), h_event⟩

/-- A stored cursor is that of an entry that was pushed. -/
theorem step_entry (h_inv : Continuing r id c) (h : (hubProgram hub).step c a = some c')
    (h_serves : ∀ spec, .registered id spec ∈ c'.store.history → r.Serves spec) :
    ∀ e, c'.store.state.slots id = some e → e.spec.resume = some r.resume ∧
      ∀ k, r.Carries e.spec k →
        ∃ item, .queued id item ∈ c'.store.history ∧ r.cursorOf item = some k := by
  intro e' h_e'
  -- the query stays, is resumed after a payload, or is new
  cases spec_step h h_e' with
  | same e before spec =>
    obtain ⟨h_resume, h_from⟩ := h_inv.entry e before
    rw [spec]
    refine ⟨h_resume, fun k h_k => ?_⟩
    obtain ⟨item, h_queued, h_cursor⟩ := h_from k h_k
    exact ⟨item, history_subset h h_queued, h_cursor⟩
  | resumed t payload next e runs before resume spec =>
    obtain ⟨h_resume, -⟩ := h_inv.entry e before
    rw [spec]
    refine ⟨h_resume, fun k h_k => ?_⟩
    -- the new document names the cursor of the payload
    rw [h_resume, Option.bind_some] at resume
    obtain ⟨k', h_cursor, h_query⟩ := Option.bind_eq_some_iff.mp resume
    obtain rfl := r.names h_query h_k
    obtain ⟨ch, rest, -, h_todo⟩ := runs
    obtain ⟨item, h_queued, h_event⟩ := h_inv.pending t payload
      (by rw [h_todo]; exact List.mem_cons_self)
    exact ⟨item, history_subset h h_queued, (cursorOf_data h_event).trans h_cursor⟩
  | registered spec created request number same =>
    subst request
    have h_spec := h_serves spec (by
      rw [registration_recorded h, number]
      exact List.mem_cons_self)
    rw [same]
    exact ⟨h_spec.resume, fun k h_k => absurd h_k (h_spec.fresh k)⟩

/-- The one step that could take an entry past a gap is not allowed, and the
entries that are dropped come last. -/
theorem step_apart (h_inv : Continuing r id c) (h : (hubProgram hub).step c a = some c')
    (h_allowed : r.NoGap id c a) (h_inc : r.Increasing id c'.store) :
    ∀ item k k', .queued id item ∈ c'.store.history → r.cursorOf item = some k →
      r.Dropped id c'.store k' → k < k' := by
  rintro item k k' h_queued h_k ⟨item', scope, waiting, h_dropped, h_k'⟩
  rcases dropped_step h h_dropped with h_dropped | ⟨t, target, -, -, -, -, -, h_last, -⟩
  · rcases queued_step h h_queued with h_queued | ⟨t, i, h_runs, h_hands, h_open, h_room, -⟩
    · exact h_inv.apart item k k' h_queued h_k ⟨item', scope, waiting, h_dropped, h_k'⟩
    · exact absurd ⟨item', scope, waiting, h_dropped, h_k'⟩
        (h_allowed t i item h_runs h_hands (by rw [h_k]; rfl) h_open h_room k')
  · rw [h_last] at h_queued
    have h_queued := (List.mem_cons.mp h_queued).resolve_left fun h_eq => by cases h_eq
    have h_handed : c'.store.handed id = c.store.handed id ++ [item'] := by
      unfold Store.handed
      rw [traffic_of_cons h_last (decide_eq_true rfl), List.filterMap_append]
      rfl
    unfold Increasing at h_inc
    rw [h_handed, List.filterMap_append, List.pairwise_append] at h_inc
    refine h_inc.2.2 k (List.mem_filterMap.mpr ⟨item, ?_, h_k⟩) k' (by simp [h_k'])
    exact mem_handed_of_queued h_queued

/-- One step keeps the cursors behind the gap, if it does not push behind a drop. -/
theorem step (h_inv : Continuing r id c) (h : (hubProgram hub).step c a = some c')
    (h_allowed : r.NoGap id c a)
    (h_serves : ∀ spec, .registered id spec ∈ c'.store.history → r.Serves spec)
    (h_inc : r.Increasing id c'.store) : Continuing r id c' where
  queue := h_inv.step_queue h
  pending := h_inv.step_pending h
  entry := h_inv.step_entry h h_serves
  apart := h_inv.step_apart h h_allowed h_inc

/-- The invariant along a run, for a server whose cursors increase. -/
theorem reachable (h : (hubProgram hub).Reachable (initialConfig V) (r.NoGap id) c) :
    (∀ spec, .registered id spec ∈ c.store.history → r.Serves spec) →
      r.Increasing id c.store → Continuing r id c := by
  refine h.induct (motive := fun c =>
    (∀ spec, .registered id spec ∈ c.store.history → r.Serves spec) →
      r.Increasing id c.store → Continuing r id c) (fun _ _ => initial) ?_
  intro c c' a _ h_inv h_allowed h_step h_serves h_inc
  have h_serves_before := fun spec h_spec => h_serves spec (history_subset h_step h_spec)
  exact (h_inv h_serves_before (h_inc.before h_step)).step h_step h_allowed h_serves h_inc

end Continuing

end Resumption

/-- **No dropped entry is skipped**, in a run in which no entry with a cursor is
queued for the slot between the drop of one and the next connection of the slot.
Whenever a snapshot is taken, the document that it lists for the slot carries no
cursor, or one that lies before the cursor of every entry that was dropped since
the last connection was built for the slot. -/
theorem no_dropped_entry_skipped [Preorder K] (r : Resumption V K) (id : SlotId)
    (h : (hubProgram hub).Reachable (initialConfig V) (r.NoGap id) c)
    (h_serves : ∀ spec, .registered id spec ∈ c.store.history → r.Serves spec)
    (h_server : r.Increasing id c.store) {scope : Scope} {entry : SlotSnapshot V}
    (h_entry : (id, entry) ∈ (c.store.state.snapshot scope).2) {k k' : K}
    (h_carries : r.Carries entry.spec k) (h_dropped : r.Dropped id c.store k') : k < k' := by
  have h_inv := Resumption.Continuing.reachable h h_serves h_server
  obtain ⟨-, e, h_e, -, rfl⟩ := (HubState.mem_snapshot _).mp h_entry
  obtain ⟨-, h_from⟩ := h_inv.entry e h_e
  obtain ⟨item, h_queued, h_cursor⟩ := h_from k h_carries
  exact h_inv.apart item k k' h_queued h_cursor h_dropped

/-! ### The snapshot after a resync -/

/-- The consumer isolates its slot and publishes that. It has still to look at the supervisors. -/
theorem isolates_lagged (hub : HubConfig) {id : SlotId} {e : SlotEntry V}
    (h_todo : c.todo (.consumer id) = [.isolate id .lagged])
    (h_e : c.store.state.slots id = some e) (h_iso : e.isolated = none) :
    ∃ c', (hubProgram hub).Reachable c Program.anyStep c' ∧
      c'.todo (.consumer id) = [.ensureSupervisors] ∧ c'.store.history = c.store.history ∧
      c'.store.state.nextId = c.store.state.nextId ∧ c'.store.state.ids = c.store.state.ids ∧
      c'.store.state.slots id =
        some { e with isolated := some { supervisor := none, cause := .lagged } } := by
  -- the slot leaves the shared connection
  let isolating := fun e : SlotEntry V =>
    { e with isolated := some { supervisor := none, cause := .lagged } }
  let isolated : Effect V := {
    store := { c.store with state := c.store.state.modifySlot id isolating }
    next := [.bumpGeneration, .ensureSupervisors] }
  have h_exec : exec hub (.consumer id) .proceed (.isolate id .lagged) c = some isolated := by
    simp only [exec, HubState.isolate, h_e, h_iso]
    rfl
  let c₁ := c.resume (.consumer id) [] isolated
  -- `publish_generation`, in its two steps
  have h_todo₁ : c₁.todo (.consumer id) = .bumpGeneration :: [.ensureSupervisors] :=
    resume_todo_self ..
  let c₂ := c₁.resume (.consumer id) [.ensureSupervisors]
    { store := { c₁.store with state := c₁.store.state.bumpGeneration }, next := [.sendGeneration] }
  have h_todo₂ : c₂.todo (.consumer id) = .sendGeneration :: [.ensureSupervisors] :=
    resume_todo_self ..
  let c₃ := c₂.resume (.consumer id) [.ensureSupervisors] {
    store := { c₂.store with
      version := if c₂.store.receivers.isEmpty then c₂.store.version else c₂.store.version + 1 }
    next := [] }
  refine ⟨c₃, ?_, resume_todo_self .., rfl, rfl, ?_, ?_⟩
  · refine .trans ?_ (.exec Choice.proceed h_todo₂ rfl trivial)
    refine .trans ?_ (.exec Choice.proceed h_todo₁ rfl trivial)
    exact .exec Choice.proceed h_todo h_exec trivial
  · -- it stays registered
    refine List.filter_congr fun id' _ => ?_
    exact Option.isSome_map
  · refine (HubState.modifySlot_slots_self c.store.state id isolating).trans ?_
    rw [h_e]
    rfl

/-- The only slot of the hub is isolated and has no supervisor: it gets one, and the shared
connection does not. -/
theorem starts_own_supervisor (hub : HubConfig) {id : SlotId} {e : SlotEntry V}
    {cause : IsolationCause} (h_todo : c.todo (.consumer id) = [.ensureSupervisors])
    (h_ids : c.store.state.ids = [id]) (h_e : c.store.state.slots id = some e)
    (h_iso : e.isolated = some { supervisor := none, cause := cause }) :
    ∃ c' token, (hubProgram hub).Reachable c Program.anyStep c' ∧
      c'.todo (.supervisor token) =
        .readCause id :: [.dropReceiver token, .dropToken token, .ensureSupervisors] ∧
      c'.store.history = c.store.history ∧ c'.store.state.nextId = c.store.state.nextId ∧
      c'.store.state.slots id =
        some { e with isolated := some { supervisor := some token, cause := cause } } := by
  let token : Token := ⟨c.store.serial, .isolated id⟩
  -- nobody is left on the shared connection, so one supervisor is started
  have h_starts : (c.store.state.ensureSupervisors c.store.alive c.store.serial).2 = [token] := by
    have h_shared : c.store.state.scopeIds .shared = [] := by
      unfold HubState.scopeIds
      rw [h_ids]
      simp [HubState.belongs, h_e, SlotEntry.belongsTo, h_iso]
    unfold HubState.ensureSupervisors HubState.sharedLacksSupervisor
    rw [h_shared, h_ids]
    simp [h_e, HubState.lacksSupervisor, upgrade, h_iso, token]
  let ensured : Effect V := {
    store := { c.store with
      state := (c.store.state.ensureSupervisors c.store.alive c.store.serial).1
      alive := c.store.alive ++ [token]
      serial := c.store.serial + 1 }
    next := [.spawnSupervisor token] }
  have h_exec : exec hub (.consumer id) .proceed .ensureSupervisors c = some ensured := by
    simp only [exec, h_starts]
    rfl
  let c₁ := c.resume (.consumer id) [] ensured
  have h_todo₁ : c₁.todo (.consumer id) = .spawnSupervisor token :: [] := resume_todo_self ..
  -- the new task subscribes to the generation before it runs
  let spawned : Effect V := {
    store := { c₁.store with
      receivers := token :: c₁.store.receivers
      locals := Function.update c₁.store.locals (.supervisor token)
        { seen := c₁.store.version, malformedEventDelay := none, reconnectDelay := none } }
    next := []
    spawned := some (.supervisor token, supervisorCode token) }
  refine ⟨c₁.resume (.consumer id) [] spawned, token, ?_,
    resume_todo_spawned c₁ _ _ _ Task.noConfusion rfl, rfl, rfl, ?_⟩
  · refine .trans ?_ (.exec Choice.proceed h_todo₁ rfl trivial)
    exact .exec Choice.proceed h_todo h_exec trivial
  · refine (HubState.ensureSupervisors_slots c.store.state c.store.alive _ id).trans ?_
    -- the slot had no supervisor yet
    have h_lacks : HubState.lacksSupervisor c.store.alive e = true := by
      unfold HubState.lacksSupervisor
      rw [h_iso]
      rfl
    rw [h_e, Option.map_some, if_pos h_lacks, h_iso]
    rfl

/-- The supervisor of a slot that lagged does not wait before it takes a snapshot. -/
theorem snapshots_at_once (hub : HubConfig) {token : Token} {id : SlotId} {e : SlotEntry V}
    {rest : List (Instr V)} (h_todo : c.todo (.supervisor token) = .readCause id :: rest)
    (h_e : c.store.state.slots id = some e)
    (h_iso : e.isolated = some { supervisor := some token, cause := .lagged }) :
    ∃ c' waitUntil, (hubProgram hub).Reachable c Program.anyStep c' ∧
      c'.todo (.supervisor token) = .snapshot (.isolated id) waitUntil :: rest ∧
      c'.store.history = c.store.history ∧ c'.store.state = c.store.state := by
  -- a slot that lags behind is reconnected without a delay
  let read := execReadCause hub (.supervisor token) id c.store
  have h_next : read.next =
      [.waitReconnect (.isolated id) (c.store.clock + 0) [id], .prepare (.isolated id)] := by
    simp only [read, execReadCause, h_e, Option.bind_some, h_iso]
    rfl
  have h_read : read.store.state = c.store.state ∧ read.store.history = c.store.history ∧
      read.store.clock = c.store.clock := by
    simp only [read, execReadCause, h_e, Option.bind_some, h_iso]
    exact ⟨rfl, rfl, rfl⟩
  let c₁ := c.resume (.supervisor token) rest read
  have h_todo₁ : c₁.todo (.supervisor token) =
      .waitReconnect (.isolated id) (c.store.clock + 0) [id] ::
        .prepare (.isolated id) :: rest := by
    rw [resume_todo_self, h_next]
    rfl
  -- the deadline of the wait is now
  have h_exec : exec hub (.supervisor token) .timeout
      (.waitReconnect (.isolated id) (c.store.clock + 0) [id]) c₁ =
        some { store := c₁.store, next := [] } :=
    if_pos (Nat.le_of_eq h_read.2.2.symm)
  let c₂ := c₁.resume (.supervisor token) (.prepare (.isolated id) :: rest)
    { store := c₁.store, next := [] }
  have h_todo₂ : c₂.todo (.supervisor token) = .prepare (.isolated id) :: rest :=
    resume_todo_self ..
  -- `prepare`, and the snapshot of the connection
  let c₃ := c₂.resume (.supervisor token) rest {
    store := c₂.store
    next := [.snapshot (.isolated id) (c₂.store.clock + maxSlotChangeWait)] }
  refine ⟨c₃, _, ?_, resume_todo_self .., h_read.2.1, h_read.1⟩
  refine .trans ?_ (.exec Choice.proceed h_todo₂ rfl trivial)
  refine .trans ?_ (.exec Choice.timeout h_todo₁ h_exec trivial)
  exact .exec Choice.proceed h_todo rfl trivial

/-- **A slot that lagged moves to a connection of its own**: its consumer isolates
it and starts a supervisor, which takes a snapshot. -/
theorem snapshot_of_isolate (hub : HubConfig) {id : SlotId} {e : SlotEntry V}
    (h_todo : c.todo (.consumer id) = [.isolate id .lagged])
    (h_e : c.store.state.slots id = some e) (h_iso : e.isolated = none)
    (h_ids : c.store.state.ids = [id]) :
    ∃ c' t waitUntil rest, (hubProgram hub).Reachable c Program.anyStep c' ∧
      c'.todo t = .snapshot (.isolated id) waitUntil :: rest ∧
      c'.store.history = c.store.history ∧
      (id, { spec := e.spec }) ∈ (c'.store.state.snapshot (.isolated id)).2 := by
  have h_lt : id < c.store.state.nextId :=
    (HubState.mem_ids _).mp (by rw [h_ids]; exact List.mem_singleton_self id) |>.1
  obtain ⟨c₁, h_reach₁, h_todo₁, h_history₁, h_next₁, h_ids₁, h_slot₁⟩ :=
    isolates_lagged hub h_todo h_e h_iso
  obtain ⟨c₂, token, h_reach₂, h_todo₂, h_history₂, h_next₂, h_slot₂⟩ :=
    starts_own_supervisor hub h_todo₁ (h_ids₁.trans h_ids) h_slot₁ rfl
  obtain ⟨c₃, waitUntil, h_reach₃, h_todo₃, h_history₃, h_state₃⟩ :=
    snapshots_at_once hub h_todo₂ h_slot₂ rfl
  refine ⟨c₃, .supervisor token, waitUntil, _, (h_reach₁.trans h_reach₂).trans h_reach₃, h_todo₃,
    h_history₃.trans (h_history₂.trans h_history₁), (HubState.mem_snapshot _).mpr ?_⟩
  rw [h_state₃, h_next₂, h_next₁]
  exact ⟨h_lt, _, h_slot₂, beq_self_eq_true id, rfl⟩

/-! ### A gap behind which an entry is queued -/

/-- No stream was registered and no connection built in between. -/
def Uninterrupted (s s' : Store V) : Prop :=
  ∃ new, s'.history = new ++ s.history ∧ ∀ ev ∈ new, ∃ p ∈ ev.sources, p ≠ .build

namespace Uninterrupted

variable {s s' s'' : Store V}

/-- Nothing happened. -/
theorem of_eq (h : s'.history = s.history) : Uninterrupted s s' :=
  ⟨[], h, fun _ h_ev => absurd h_ev List.not_mem_nil⟩

/-- One segment after another. -/
theorem trans (h : Uninterrupted s s') (h' : Uninterrupted s' s'') : Uninterrupted s s'' := by
  obtain ⟨new, h_new, h_sources⟩ := h
  obtain ⟨new', h_new', h_sources'⟩ := h'
  refine ⟨new' ++ new, by rw [h_new', h_new, List.append_assoc], fun ev h_ev => ?_⟩
  exact (List.mem_append.mp h_ev).elim (h_sources' ev) (h_sources ev)

/-- The supervisor that reads frames interrupts nothing. -/
theorem of_advances {Allowed : Config V → Action Task Choice (Request V) → Prop}
    (h : Advances hub Allowed t c c') : Uninterrupted c.store c'.store := by
  obtain ⟨new, h_new, h_traffic⟩ := h.history
  refine ⟨new, h_new, fun ev h_ev => ?_⟩
  obtain ⟨p, h_p, h_source⟩ := h_traffic ev h_ev
  exact ⟨p, h_source, fun h_eq => by rw [h_eq] at h_p; cases h_p⟩

/-- The consumer that empties its queue interrupts nothing. -/
theorem of_emptied {id : SlotId} {value : V} (h : Emptied c c' id value) :
    Uninterrupted c.store c'.store := by
  obtain ⟨new, h_new, h_sources⟩ := h.history
  refine ⟨new, h_new, fun ev h_ev => ?_⟩
  obtain ⟨p, h_source, h_p⟩ := h_sources ev h_ev
  refine ⟨p, h_source, fun h_eq => ?_⟩
  rw [h_eq] at h_p
  exact h_p.elim Point.noConfusion Bool.noConfusion

/-- The registrations are the old ones. -/
theorem registered (h : Uninterrupted s s') {id : SlotId} {spec : SubscriptionSpec V}
    (h_ev : .registered id spec ∈ s'.history) : .registered id spec ∈ s.history := by
  obtain ⟨new, h_new, h_sources⟩ := h
  rw [h_new] at h_ev
  refine (List.mem_append.mp h_ev).resolve_left fun h_ev => ?_
  obtain ⟨p, h_p, -⟩ := h_sources _ h_ev
  exact List.not_mem_nil h_p

/-- What was dropped is still missing. -/
theorem dropped (h : Uninterrupted s s') {r : Resumption V K} {id : SlotId} {k : K}
    (h_dropped : r.Dropped id s k) : r.Dropped id s' k := by
  obtain ⟨new, h_new, h_sources⟩ := h
  obtain ⟨item, scope, waiting, h_ev, h_k⟩ := h_dropped
  refine ⟨item, scope, waiting, ?_, h_k⟩
  have h_open : ∀ ev ∈ new, Event.builtFor id ev = false := fun ev h_ev => by
    obtain ⟨p, h_p, h_ne⟩ := h_sources ev h_ev
    cases ev <;> first
      | rfl
      | exact absurd (List.mem_singleton.mp h_p) h_ne
  rw [h_new, since_append h_open]
  exact List.mem_append_right _ h_ev

end Uninterrupted

/-- The first change of a block. -/
def blockStart (n : ℕ) : ChannelStatePosition := ⟨Nat.toDigits 10 n, "0".toList, "0".toList⟩

/-- Later blocks come later. -/
theorem blockStart_lt {m n : ℕ} (h : m < n) : blockStart m < blockStart n := by
  change (blockStart m).place < (blockStart n).place
  refine Prod.Lex.toLex_lt_toLex.mpr (Or.inl ?_)
  change Nat.ofDigitChars 10 (Nat.toDigits 10 m) 0 < Nat.ofDigitChars 10 (Nat.toDigits 10 n) 0
  rw [Nat.ofDigitChars_ten_toDigits, Nat.ofDigitChars_ten_toDigits]
  exact h

/-- A graph subscription whose payloads are block numbers. -/
def sampleDocument : Text :=
  "subscription($after: ChannelStateCursor) \x7b openedChannelGraphUpdated(after: $after) \x7d".toList

def sampleResumption : Resumption ℕ ChannelStatePosition :=
  graphResumption sampleDocument fun n => some (blockStart n)

def sampleGraph : SubscriptionSpec ℕ :=
  graphSpec sampleDocument sampleSpec.decode fun n => some (blockStart n)

/-- The graph subscription is polled for the first time, and its connection opened. -/
def openingGraph : List (Action Task Choice (Request ℕ)) :=
  .request (.register sampleGraph 0) :: List.replicate 5 (.run (.consumer 0) .proceed) ++ opening

/-- The graph subscription is registered and its connection is open. -/
theorem graph_attached : ∃ c d target stall rest,
    (hubProgram sampleHub).Reachable (initialConfig ℕ) Program.anyStep c ∧
      Attached c firstSupervisor d target stall rest ∧ target.id = 0 ∧
      (∀ n, Carries d target (sampleFrame n) n) ∧
      (∃ e, c.store.state.slots 0 = some e ∧ e.spec = sampleGraph) ∧
      c.store.state.ids = [0] ∧ c.store.state.scopeIds .shared = [0] ∧ c.store.traffic 0 = [] ∧
      ∀ spec, .registered 0 spec ∈ c.store.history → spec = sampleGraph := by
  have h_run : ∃ c d target stall rest conn scope slots connection registered task ids,
      (hubProgram sampleHub).run (initialConfig ℕ) openingGraph = some c ∧
      Attached c firstSupervisor d target stall rest ∧ target.id = 0 ∧
      (∀ n, Carries d target (sampleFrame n) n) ∧
      (∃ e, c.store.state.slots 0 = some e ∧ e.spec = sampleGraph) ∧
      c.store.state.ids = [0] ∧ c.store.state.scopeIds .shared = [0] ∧
      c.store.history = [.built conn scope slots connection registered, .snapshot task ids,
        .registered 0 sampleGraph] :=
    ⟨_, _, { id := 0, field := "openedChannelGraphUpdated".toList, decode := sampleGraph.decode },
      _, _, _, _, _, _, _, _, _, rfl, ⟨rfl, rfl, by decide, rfl, rfl, rfl, rfl, rfl⟩, rfl,
      fun n => ⟨.object [("openedChannelGraphUpdated".toList, .number n 0)], rfl, rfl, rfl⟩,
      ⟨_, rfl, rfl⟩, rfl, rfl, rfl⟩
  obtain ⟨c, d, target, stall, rest, conn, scope, slots, connection, registered, task, ids, h_run,
    -- what is evaluated is a run of the hub, and its history
    h_attached, h_id, h_carries, h_entry, h_ids, h_shared, h_history⟩ := h_run
  refine ⟨c, d, target, stall, rest, .run .init h_run, h_attached, h_id, h_carries, h_entry, h_ids,
    h_shared, ?_, fun spec h_spec => ?_⟩
  · unfold Store.traffic
    rw [h_history]
    rfl
  · rw [h_history] at h_spec
    simpa using h_spec

/-- The cursors of entries that are known by their values. -/
theorem filterMap_cursorOf (r : Resumption V K) {items : List (Item V)} {values : List V}
    (h : items.map Item.event = values.map SlotEvent.data) :
    items.filterMap r.cursorOf = values.filterMap r.cursor := by
  let cursorOfEvent : SlotEvent V → Option K
    | .data value => r.cursor value
    | .error _ => none
  calc items.filterMap r.cursorOf
      = (items.map Item.event).filterMap cursorOfEvent := by rw [List.filterMap_map]; rfl
    _ = (values.map SlotEvent.data).filterMap cursorOfEvent := by rw [h]
    _ = values.filterMap r.cursor := by rw [List.filterMap_map]; rfl

/-- The cursors of consecutive blocks increase. -/
theorem increasing_of_range (n : ℕ) {s : Store ℕ}
    (h : (s.handed 0).map Item.event = (List.range n).map SlotEvent.data) :
    sampleResumption.Increasing 0 s := by
  unfold Resumption.Increasing
  rw [filterMap_cursorOf _ h]
  change ((List.range n).filterMap (some ∘ blockStart)).Pairwise _
  rw [List.filterMap_eq_map]
  exact List.pairwise_map.mpr (List.pairwise_lt_range.imp blockStart_lt)

/-- A stream of the graph subscription that continues after an entry resumes after
its block. -/
theorem carries_of_continues {c : Config ℕ} {id : SlotId} {n : ℕ} {e : SlotEntry ℕ}
    (h : ContinuesAfter c id n) (h_e : c.store.state.slots id = some e)
    (h_resume : e.spec.resume = some sampleResumption.resume) :
    sampleResumption.Carries e.spec (blockStart n) := by
  obtain ⟨h_document, h_variables⟩ := h e h_e
    { document := sampleDocument, queryVariables := graphVariables (some (blockStart n)) }
    (by rw [h_resume]; rfl)
  unfold Resumption.Carries
  rw [h_document, h_variables]
  rfl

/-- The blocks, from the first one on. -/
theorem range_data_cons (n : ℕ) : (List.range (n + 1)).map (fun k => SlotEvent.data k) =
    SlotEvent.data 0 :: ((List.range n).map Nat.succ).map SlotEvent.data := by
  rw [List.range_succ_eq_map, List.map_cons]

/-- The blocks, up to the last one. -/
theorem range_data_snoc (n : ℕ) : (List.range (n + 1)).map SlotEvent.data =
    (List.range n).map SlotEvent.data ++ [SlotEvent.data n] := by
  rw [List.range_succ, List.map_append]
  rfl

/-- The blocks, up to the last two. -/
theorem range_data_snoc₂ (n : ℕ) : (List.range (n + 2)).map SlotEvent.data =
    (List.range n).map SlotEvent.data ++ [SlotEvent.data n, SlotEvent.data (n + 1)] := by
  rw [range_data_snoc, range_data_snoc, List.append_assoc]
  rfl

/-- The queue was full when the entry at block 16384 arrived, which was dropped, and
since then the consumer took one entry out. -/
structure GapOpen (c : Config ℕ) : Prop where
  reach : (hubProgram sampleHub).Reachable (initialConfig ℕ) Program.anyStep c
  waits : ∃ d target stall rest, c.todo firstSupervisor = .select d stall :: rest ∧
    d.scope = .shared ∧ target.id = 0 ∧ ∀ n, Carries d target (sampleFrame n) n
  idle : c.todo (.consumer 0) = []
  streaming : c.store.streaming 0 = true
  listens : c.store.closed 0 = false
  lagging : c.store.lagging 0 = true
  ids : c.store.state.ids = [0]
  shared : c.store.state.scopeIds .shared = [0]
  resume : ∃ e, c.store.state.slots 0 = some e ∧ e.spec.resume = some sampleResumption.resume
  registered : ∀ spec, .registered 0 spec ∈ c.store.history → spec = sampleGraph
  queue : (c.store.queues 0).map Item.event =
    ((List.range 16383).map Nat.succ).map SlotEvent.data
  traffic : ∃ (items : List (Item ℕ)) (origin : Origin), c.store.traffic 0 =
    items.map (.queued 0) ++
      [.dropped 0 { event := .data 16384, origin := origin } .shared slotChannelCapacity] ∧
    items.map Item.event = (List.range 16384).map SlotEvent.data
  dropped : sampleResumption.Dropped 0 c.store (blockStart 16384)
  continues : ContinuesAfter c 0 0

/-- **A gap opens**: the queue overflows, and the consumer then takes one entry out. -/
theorem gap_opens : ∃ c, GapOpen c := by
  obtain ⟨c₀, d, target, stall, rest, h_reach, h_attached, h_id, h_carries, ⟨e₀, h_e₀, h_spec₀⟩,
    h_ids, h_shared, h_traffic, h_registered⟩ := graph_attached
  -- the queue is full, and an entry is dropped
  obtain ⟨c₁, d', origin, h₁, h_spent, h_todo₁, h_items₁, h_history₁⟩ :=
    overrun sampleHub lenient_anyStep rfl h_attached h_carries
  have h_traffic₁ := h₁.traffic
  have h_streaming := h_attached.streaming
  have h_idle := h_attached.idle
  have h_listens := h_attached.listens
  have h_calm := h_attached.calm
  rw [h_id] at h_traffic₁ h_items₁ h_todo₁ h_history₁ h_streaming h_idle h_listens h_calm
  rw [h_traffic, List.nil_append] at h_traffic₁
  have h_dropped₁ : sampleResumption.Dropped 0 c₁.store (blockStart 16384) := by
    obtain ⟨old, h_old⟩ := List.head?_eq_some_iff.mp h_history₁
    refine ⟨{ event := .data slotChannelCapacity, origin := origin }, .shared, slotChannelCapacity,
      ?_, rfl⟩
    rw [h_old, since_cons rfl]
    exact List.mem_cons_self
  -- the flag goes up, and the connection waits for the next frame
  obtain ⟨c₂, h₂, h_todo₂, h_others₂, h_aside₂, -, h_queues₂, h_history₂, -⟩ :=
    raise sampleHub lenient_anyStep h_todo₁ trivial (by rw [h₁.aside.lagging]; exact h_calm)
  obtain ⟨c₃, stall₃, h₃, h_queues₃, h_todo₃⟩ :=
    finish_frame sampleHub lenient_anyStep 0 h_todo₂ h_spent
  have h_raised : Aside { c₀.store with lagging := Function.update c₁.store.lagging 0 true }
      { c₁.store with lagging := Function.update c₁.store.lagging 0 true } :=
    { h₁.aside with lagging := rfl }
  have h_aside₃ := (h_raised.trans h_aside₂).trans h₃.aside
  -- the consumer takes one entry out
  -- 16383 of the 16384 are left, and the flag is up
  have h_items₃ : (c₃.store.queues 0).map Item.event =
      SlotEvent.data 0 :: ((List.range 16383).map Nat.succ).map SlotEvent.data := by
    rw [h_queues₃, h_queues₂]
    exact h_items₁.trans (range_data_cons 16383)
  obtain ⟨⟨event, origin₀⟩, items, h_queue₃, h_event, h_rest⟩ := List.map_eq_cons_iff.mp h_items₃
  change event = _ at h_event
  subst h_event
  have h_idle₃ : c₃.todo (.consumer 0) = [] := by
    rw [h₃.others _ Task.noConfusion, h_others₂ _ Task.noConfusion, h₁.others _ Task.noConfusion,
      h_idle]
  obtain ⟨c₄, h₄, h_todo₄, h_queues₄, h_continues⟩ := pop sampleHub lenient_anyStep h_idle₃
    (by rw [h_aside₃.streaming]; exact h_streaming) h_queue₃
  have h_queue₄ : c₄.store.queues 0 = items := by rw [h_queues₄, Function.update_self]
  have h_length : items.length = 16383 := by
    have h := congrArg List.length h_rest
    rwa [List.length_map, List.length_map, List.length_map, List.length_range] at h
  have h_more : items.isEmpty = false := by
    cases items with
    | nil => cases h_length
    | cons => rfl
  -- nothing of what the run did since then touches what was dropped
  have h_aside₄ := h_aside₃.trans h₄.aside
  have h_later : Uninterrupted c₁.store c₄.store :=
    (Uninterrupted.of_eq h_history₂).trans
      ((Uninterrupted.of_advances h₃.toAdvances).trans (.of_advances h₄.toAdvances))
  refine ⟨c₄, {
    reach := (((h_reach.trans h₁.reach).trans h₂).trans h₃.reach).trans h₄.reach
    waits := ⟨d, target, stall₃, rest, (h₄.others _ Task.noConfusion).trans h_todo₃,
      h_attached.shared, h_id, h_carries⟩
    idle := by rw [h_todo₄, h_more]; rfl
    streaming := by rw [h_aside₄.streaming]; exact h_streaming
    listens := by rw [h_aside₄.closed]; exact h_listens
    lagging := by rw [h_aside₄.lagging]; exact Function.update_self 0 true c₁.store.lagging
    ids := h_aside₄.ids.trans h_ids
    shared := (h_aside₄.scopeIds .shared).trans h_shared
    resume := ?_
    registered := fun spec h_spec => h_registered spec
      ((Uninterrupted.of_advances h₁.toAdvances).registered (h_later.registered h_spec))
    queue := by rw [h_queue₄, h_rest]
    traffic := ⟨c₁.store.queues 0, origin, ?_, h_items₁⟩
    dropped := h_later.dropped h_dropped₁
    continues := h_continues }⟩
  · -- the query of the slot is the one it was registered with
    obtain ⟨e₄, h_e₄, h_stance⟩ := h_aside₄.slot h_e₀
    refine ⟨e₄, h_e₄, (congrArg SlotStance.resume h_stance).trans ?_⟩
    change e₀.spec.resume = _
    rw [h_spec₀]
    rfl
  · -- and its traffic is that of the overrun
    calc c₄.store.traffic 0
        = c₃.store.traffic 0 := h₄.traffic.trans (List.append_nil _)
      _ = c₂.store.traffic 0 := h₃.traffic.trans (List.append_nil _)
      _ = c₁.store.traffic 0 := traffic_of_history h_history₂
      _ = _ := h_traffic₁

/-- In a run that drops nothing before it queues something, nothing is queued
behind a gap. -/
theorem noGap_of_traffic (r : Resumption V K) (id : SlotId)
    (h : (hubProgram hub).Reachable (initialConfig V) Program.anyStep c) :
    ((c.store.traffic id).Pairwise fun ev ev' => ∀ item item' scope waiting,
        ev = .dropped id item scope waiting → ev' ≠ .queued id item') →
      (hubProgram hub).Reachable (initialConfig V) (r.NoGap id) c := by
  refine h.induct (motive := fun c => ((c.store.traffic id).Pairwise fun ev ev' =>
      ∀ item item' scope waiting, ev = .dropped id item scope waiting → ev' ≠ .queued id item') →
    (hubProgram hub).Reachable (initialConfig V) (r.NoGap id) c) (fun _ => .init) ?_
  intro c c' a _ h_inv _ h_step h_traffic
  obtain ⟨new, h_new, -⟩ := history_step h_step
  refine .step (h_inv (h_traffic.sublist (traffic_grows h_new).sublist)) ?_ h_step
  rintro t i item h_runs h_hands - h_open h_room k ⟨item', scope, waiting, h_ev, -⟩
  have h_history := queued_of_hands h_step h_runs h_hands h_open h_room
  rw [traffic_of_cons h_history (decide_eq_true rfl), List.pairwise_append] at h_traffic
  have h_mem : .dropped id item' scope waiting ∈ c.store.traffic id :=
    mem_traffic.mpr ⟨(List.takeWhile_sublist _).subset h_ev, decide_eq_true rfl⟩
  exact h_traffic.2.2 _ h_mem _ (List.mem_singleton_self _) item' item scope waiting rfl rfl

/-- The theorem at the consumer that took one entry out: the shared snapshot would
resume after block 0, and the entry at block 16384 was dropped. -/
theorem no_dropped_entry_skipped_open : ∃ (c : Config ℕ) (entry : SlotSnapshot ℕ),
    (0, entry) ∈ (c.store.state.snapshot .shared).2 ∧
      sampleResumption.Carries entry.spec (blockStart 0) ∧
      sampleResumption.Dropped 0 c.store (blockStart 16384) ∧
      blockStart 0 < blockStart 16384 := by
  obtain ⟨c, h_gap⟩ := gap_opens
  obtain ⟨e, h_e, h_resume⟩ := h_gap.resume
  obtain ⟨items, origin, h_traffic, h_events⟩ := h_gap.traffic
  -- the slot is among those that a snapshot lists
  have h_entry : (0, { spec := e.spec }) ∈ (c.store.state.snapshot .shared).2 := by
    obtain ⟨h_lt, e', h_e', h_scope⟩ := (HubState.mem_scopeIds _).mp
      (show 0 ∈ c.store.state.scopeIds .shared by
        rw [h_gap.shared]
        exact List.mem_singleton_self 0)
    obtain rfl := Option.some.inj (h_e.symm.trans h_e')
    exact (HubState.mem_snapshot _).mpr ⟨h_lt, e, h_e, h_scope, rfl⟩
  have h_carries := carries_of_continues h_gap.continues h_e h_resume
  -- the drop is the last event of the run, so nothing is delivered behind it
  have h_allowed := noGap_of_traffic sampleResumption 0 h_gap.reach (by
    rw [h_traffic]
    refine List.pairwise_append.mpr ⟨?_, List.pairwise_singleton _ _, ?_⟩
    · refine List.pairwise_of_forall_mem_list fun ev h_ev _ _ => ?_
      obtain ⟨item, -, rfl⟩ := List.mem_map.mp h_ev
      exact fun _ _ _ _ h_eq => by cases h_eq
    · intro ev h_ev
      obtain ⟨item, -, rfl⟩ := List.mem_map.mp h_ev
      exact fun _ _ _ _ _ _ h_eq => by cases h_eq)
  -- the blocks that were handed over are in order
  have h_increasing : sampleResumption.Increasing 0 c.store := by
    refine increasing_of_range 16385 ?_
    rw [handed_of_traffic h_traffic, List.map_append, h_events]
    exact (range_data_snoc 16384).symm
  refine ⟨c, { spec := e.spec }, h_entry, h_carries, h_gap.dropped, ?_⟩
  exact no_dropped_entry_skipped sampleResumption 0 h_allowed
    (fun spec h_spec => h_gap.registered spec h_spec ▸ graphSpec_serves ..) h_increasing h_entry
    h_carries h_gap.dropped

/-- **A dropped entry is skipped.** While the entry at block 16384 is missing, the
entry at block 16385 finds room in the queue. When the consumer drained its queue,
its slot moves to a connection of its own, which resumes after block 16385. -/
theorem dropped_entry_skipped : ∃ (c : Config ℕ) (t : Task) (waitUntil : Instant)
    (rest : List (Instr ℕ)) (entry : SlotSnapshot ℕ),
    (hubProgram sampleHub).Reachable (initialConfig ℕ) Program.anyStep c ∧
      sampleHub.dedicated = false ∧
      (∀ spec, .registered 0 spec ∈ c.store.history → sampleResumption.Serves spec) ∧
      sampleResumption.Increasing 0 c.store ∧
      c.todo t = .snapshot (.isolated 0) waitUntil :: rest ∧
      (0, entry) ∈ (c.store.state.snapshot (.isolated 0)).2 ∧
      sampleResumption.Carries entry.spec (blockStart 16385) ∧
      sampleResumption.Dropped 0 c.store (blockStart 16384) ∧
      ¬ blockStart 16385 < blockStart 16384 := by
  obtain ⟨c₄, h_gap⟩ := gap_opens
  obtain ⟨d, target, stall, rest, h_todo₄, h_scope, h_id, h_carries⟩ := h_gap.waits
  -- the next entry finds room
  have h_length : (c₄.store.queues 0).length = 16383 := by
    have h := congrArg List.length h_gap.queue
    rwa [List.length_map, List.length_map, List.length_map, List.length_range] at h
  obtain ⟨c₅, stall₅, origin₅, h₅, h_todo₅, h_queues₅⟩ := push_frame sampleHub lenient_anyStep
    h_todo₄ (h_carries 16385)
    (by rw [h_scope, h_id, h_gap.shared]; exact List.mem_singleton_self 0)
    (by rw [h_id]; exact h_gap.listens) (by rw [h_id, h_length]; exact Nat.lt_succ_self _)
  have h_traffic₅ := h₅.traffic
  rw [h_id] at h_queues₅ h_traffic₅
  have h_items₅ : (c₅.store.queues 0).map Item.event =
      ((List.range 16383).map Nat.succ ++ [16385]).map SlotEvent.data := by
    rw [h_queues₅, Function.update_self, List.map_append, h_gap.queue, List.map_append]
    rfl
  -- the consumer drains the queue, and asks for a resync
  obtain ⟨c₆, h₆, h_asks, h_emptied⟩ := ask_resync sampleHub lenient_anyStep lenientLag_anyStep
    ((h₅.others _ Task.noConfusion).trans h_gap.idle)
    (by rw [h₅.aside.streaming]; exact h_gap.streaming) h_items₅
    (by rw [h₅.aside.lagging]; exact h_gap.lagging)
    (by rw [h₅.aside.scopeIds]; exact h_gap.shared ▸ List.mem_singleton_self 0)
  obtain ⟨e₆, h_e₆, h_iso₆, -⟩ := h_asks.entry
  -- the slot moves, and its supervisor takes a snapshot
  obtain ⟨c₇, t, waitUntil, rest', h₇, h_todo₇, h_history₇, h_entry₇⟩ :=
    snapshot_of_isolate sampleHub h_asks.todo h_e₆ h_iso₆
      (h_emptied.ids.trans (h₅.aside.ids.trans h_gap.ids))
  have h_later : Uninterrupted c₄.store c₇.store :=
    (Uninterrupted.of_advances h₅.toAdvances).trans
      ((Uninterrupted.of_emptied h_emptied).trans (.of_eq h_history₇))
  refine ⟨c₇, t, waitUntil, rest', { spec := e₆.spec }, ?_, rfl, fun spec h_spec => ?_, ?_, h_todo₇,
    h_entry₇, ?_, h_later.dropped h_gap.dropped, ?_⟩
  · exact ((h_gap.reach.trans h₅.reach).trans h₆).trans h₇
  · rw [h_gap.registered spec (h_later.registered h_spec)]
    exact graphSpec_serves ..
  · obtain ⟨items, origin, h_traffic₄, h_events⟩ := h_gap.traffic
    have h_traffic₇ :=
      calc c₇.store.traffic 0
          = c₆.store.traffic 0 := traffic_of_history h_history₇
        _ = c₅.store.traffic 0 := h_emptied.traffic
        _ = c₄.store.traffic 0 ++ [.queued 0 { event := .data 16385, origin := origin₅ }] :=
          h_traffic₅
    rw [h_traffic₄, List.append_assoc] at h_traffic₇
    refine increasing_of_range 16386 ?_
    rw [handed_of_traffic h_traffic₇, List.map_append, h_events]
    exact (range_data_snoc₂ 16384).symm
  · -- the cursor is that of the last entry, behind the one that was dropped
    obtain ⟨e₄, h_e₄, h_resume₄⟩ := h_gap.resume
    obtain ⟨e₅, h_e₅, h_stance⟩ := h₅.aside.slot h_e₄
    have h_resume₅ : e₅.spec.resume = some sampleResumption.resume :=
      (congrArg SlotStance.resume h_stance).trans h_resume₄
    exact carries_of_continues h_emptied.continues h_e₆
      ((h_emptied.resume e₅ e₆ h_e₅ h_e₆).trans h_resume₅)
  · exact lt_asymm (blockStart_lt (Nat.lt_succ_self _))

end Blokli
