import BlokliClient.Hub.History

/-!
# The queues of the slots

What a step can do to the queue of one slot, to its lag flag and to its
receiver. An item is pushed by `deliver`, or by `try_send` when no connection
could be assembled, and it is popped by the consumer of the slot.
-/

namespace Blokli

open Worklist

variable {V : Type} {hub : HubConfig} {t : Task} {ch : Choice} {i : Instr V} {c c' : Config V}
  {e : Effect V} {a : Action Task Choice (Request V)}

/-- The item that an instruction is about to hand to the slot `id`. -/
def Instr.hands (id : SlotId) : Instr V → Option (Item V)
  | .deliver _ target item => if target.id = id then some item else none
  | .trySend id' item => if id' = id then some item else none
  | _ => none

/-- What a step can do to the queue of the slot `id`. -/
inductive QueueStep (c : Config V) (a : Action Task Choice (Request V)) (c' : Config V)
    (id : SlotId) : Prop
  | same (queue : c'.store.queues id = c.store.queues id)
  | pushed (t : Task) (i : Instr V) (item : Item V)
      (runs : Runs c a t i) (hands : i.hands id = some item) (listens : c.store.closed id = false)
      (room : (c.store.queues id).length < slotChannelCapacity)
      (queue : c'.store.queues id = c.store.queues id ++ [item])
      (history : c'.store.history = .queued id item :: c.store.history)
  | popped (t : Task) (item : Item V)
      (runs : Runs c a t (.receive id)) (queue : c.store.queues id = item :: c'.store.queues id)
      (history : c'.store.history = .received id item :: c.store.history)
  | cleared (t : Task)
      (runs : Runs c a t (.closeReceiver id)) (queue : c'.store.queues id = [])
      (closed : c'.store.closed id = true)

theorem push_queues_self (s : Store V) (id : SlotId) (item : Item V) :
    (s.push id item).queues id = s.queues id ++ [item] := Function.update_self ..

theorem push_queues_of_ne (s : Store V) {id id' : SlotId} (item : Item V) (h : id ≠ id') :
    (s.push id' item).queues id = s.queues id := Function.update_of_ne h ..

/-- **The list is complete.** -/
theorem queue_step (h : (hubProgram hub).step c a = some c') (id : SlotId) :
    QueueStep c a c' id := by
  rcases Program.step_cases h with ⟨t, ch, i, rest, e, rfl, h_todo, he, rfl⟩ |
    ⟨r, t, e, rfl, he, h_todo, rfl⟩
  · change exec hub t ch i c = some e at he
    have h_runs : Runs c (.run t ch) t i := ⟨ch, rest, rfl, h_todo⟩
    -- the three instructions that move the queue, and the one that clears it
    cases i with
    | deliver scope target item =>
      cases execDeliver_step he with
      | gone closed => exact .same rfl
      | queued listens room =>
        by_cases h_id : id = target.id
        · subst h_id
          exact .pushed t _ item h_runs (if_pos rfl) listens room (push_queues_self ..) rfl
        · exact .same (push_queues_of_ne _ _ h_id)
      | dropped listens full drops shared => exact .same rfl
    | trySend id' item =>
      obtain rfl := Option.some.inj he
      -- sent past the capacity check of `deliver`, but within the capacity
      by_cases h_room :
          (!c.store.closed id' && decide ((c.store.queues id').length < slotChannelCapacity)) = true
      · rw [show execTrySend id' item c.store = { store := c.store.push id' item, next := [] }
          from if_pos h_room]
        obtain ⟨h_open, h_len⟩ := Bool.and_eq_true_iff.mp h_room
        by_cases h_id : id = id'
        · subst h_id
          exact .pushed t _ item h_runs (if_pos rfl) (by simpa using h_open)
            (of_decide_eq_true h_len) (push_queues_self ..) rfl
        · exact .same (push_queues_of_ne _ _ h_id)
      · rw [show execTrySend id' item c.store = { store := c.store, next := [] } from if_neg h_room]
        exact .same rfl
    -- the poll of this stream, or of another
    | receive id' =>
      by_cases h_id : id = id'
      · subst h_id
        cases execReceive_step (Option.some.inj he) with
        | popped item items queue =>
          refine .popped t item h_runs ?_ rfl
          change c.store.queues id = item :: Function.update c.store.queues id items id
          rw [queue, Function.update_self]
        | pending queue held => exact .same rfl
        | ended queue free => exact .same rfl
      · -- a poll leaves the other queues
        cases execReceive_step (Option.some.inj he) with
        | popped item items queue => exact .same (Function.update_of_ne h_id ..)
        | pending queue held => exact .same rfl
        | ended queue free => exact .same rfl
    | closeReceiver id' =>
      obtain rfl := Option.some.inj he
      by_cases h_id : id = id'
      · subst h_id
        exact .cleared t h_runs (Function.update_self ..) (Function.update_self ..)
      · exact .same (Function.update_of_ne h_id ..)
    | _ => exact .same (congrFun ((exec_leavesAlone he).queues (Point.not_mem rfl)) id)
  · -- a request leaves every queue
    obtain ⟨-, -, -, -, -, -, -, h_queues, -⟩ := accept_frame he
    exact .same (congrFun h_queues id)

/-- What finds room is pushed. -/
theorem queued_of_hands (h : (hubProgram hub).step c a = some c') {id : SlotId} {item : Item V}
    (h_runs : Runs c a t i) (h_hands : i.hands id = some item)
    (h_open : c.store.closed id = false)
    (h_room : (c.store.queues id).length < slotChannelCapacity) :
    c'.store.history = .queued id item :: c.store.history := by
  obtain ⟨ch, rest, e, -, -, he, rfl⟩ := h_runs.exec h
  cases i with
  | deliver scope target item' =>
    -- an open receiver with room takes what is handed over
    simp only [Instr.hands] at h_hands
    split at h_hands
    · next h_id =>
      obtain rfl := Option.some.inj h_hands
      subst h_id
      obtain rfl := Option.some.inj ((execDeliver_queued h_open h_room).symm.trans he)
      rfl
    · cases h_hands
  | trySend id' item' =>
    simp only [Instr.hands] at h_hands
    split at h_hands
    · next h_id =>
      obtain rfl := Option.some.inj h_hands
      subst h_id
      simp only [exec, execTrySend, h_open, h_room] at he
      obtain rfl := Option.some.inj he
      rfl
    · cases h_hands
  | _ => cases h_hands

/-- A receiver that was dropped stays so. -/
theorem closed_step (h : (hubProgram hub).step c a = some c') {id : SlotId}
    (h_closed : c'.store.closed id = false) : c.store.closed id = false := by
  rcases Program.step_cases h with ⟨t, ch, i, rest, e, rfl, h_todo, he, rfl⟩ |
    ⟨r, t, e, rfl, he, h_todo, rfl⟩
  · change exec hub t ch i c = some e at he
    by_cases h_i : i.point = .closeReceiver
    · cases i with
      | closeReceiver id' =>
        obtain rfl := Option.some.inj he
        by_cases h_id : id = id'
        · subst h_id
          exact absurd ((Function.update_self ..).symm.trans h_closed) (by simp)
        · exact (Function.update_of_ne h_id ..).symm.trans h_closed
      | _ => cases h_i
    · exact (congrFun ((exec_leavesAlone he).closed h_i) id).symm.trans h_closed
  · obtain ⟨-, -, -, -, -, -, -, -, -, h_eq, -⟩ := accept_frame he
    exact (congrFun h_eq id).symm.trans h_closed

/-- What a step can do to the lag flag of the slot `id`. -/
inductive LagStep (c : Config V) (a : Action Task Choice (Request V)) (c' : Config V)
    (id : SlotId) : Prop
  | same (flag : c'.store.lagging id = c.store.lagging id)
  | raised (t : Task) (scope : Scope) (runs : Runs c a t (.swapLagging scope id))
      (flag : c'.store.lagging id = true)
  | lowered (t : Task) (runs : Runs c a t (.swapDrained id))
      (flag : c'.store.lagging id = false)
      (request : c.store.lagging id = true → .requestResync id ∈ c'.todo t)

theorem lag_step (h : (hubProgram hub).step c a = some c') (id : SlotId) : LagStep c a c' id := by
  rcases Program.step_cases h with ⟨t, ch, i, rest, e, rfl, h_todo, he, rfl⟩ |
    ⟨r, t, e, rfl, he, h_todo, rfl⟩
  · change exec hub t ch i c = some e at he
    have h_runs : Runs c (.run t ch) t i := ⟨ch, rest, rfl, h_todo⟩
    -- only these two write the flag
    cases i with
    | swapLagging scope id' =>
      obtain rfl := Option.some.inj he
      by_cases h_id : id = id'
      · subst h_id
        exact .raised t scope h_runs (Function.update_self ..)
      · exact .same (Function.update_of_ne h_id ..)
    | swapDrained id' =>
      obtain rfl := Option.some.inj he
      by_cases h_id : id = id'
      · subst h_id
        refine .lowered t h_runs (Function.update_self ..) fun h_flag => ?_
        rw [resume_todo_self, h_flag]
        exact List.mem_cons_self
      · exact .same (Function.update_of_ne h_id ..)
    | _ => exact .same (congrFun ((exec_leavesAlone he).lagging (Point.not_mem rfl)) id)
  · obtain ⟨-, -, -, -, -, -, -, -, h_eq, -⟩ := accept_frame he
    exact .same (congrFun h_eq id)

/-- **Drops.** An item is dropped by the shared connection, because the queue is
full; the flag is raised next. -/
theorem dropped_step (h : (hubProgram hub).step c a = some c') {stop : Event V → Bool}
    {id : SlotId} {item : Item V} {scope : Scope} {waiting : ℕ}
    (h_ev : .dropped id item scope waiting ∈ since stop c'.store.history) :
    .dropped id item scope waiting ∈ since stop c.store.history ∨
      ∃ t target, Runs c a t (.deliver scope target item) ∧ target.id = id ∧ scope = .shared ∧
        c.store.closed id = false ∧ slotChannelCapacity ≤ (c.store.queues id).length ∧
        c'.store.history = .dropped id item scope waiting :: c.store.history ∧
        .swapLagging scope id ∈ c'.todo t := by
  -- the record of a drop is from before, or from this step
  rcases mem_since_step h h_ev with h_old | ⟨t, i, h_runs, h_i⟩ | ⟨spec, created, -, h_eq⟩
  · exact Or.inl h_old
  · obtain ⟨ch, rest, e, -, -, he, rfl⟩ := h_runs.exec h
    cases i with
    | deliver scope' target item' =>
      cases execDeliver_step he with
      | gone closed =>
        rcases mem_since_cons h_ev with h_new | h_old
        · cases h_new
        · exact Or.inl h_old
      | queued listens room =>
        rcases mem_since_cons h_ev with h_new | h_old
        · cases h_new
        · exact Or.inl h_old
      | dropped listens full drops shared =>
        rcases mem_since_cons h_ev with h_new | h_old
        · -- the drop of this step, with the flag to raise in front
          obtain ⟨rfl, rfl, rfl, rfl⟩ := Event.dropped.inj h_new
          refine Or.inr ⟨t, target, h_runs, rfl, shared, listens, full, rfl, ?_⟩
          rw [resume_todo_self]
          exact List.mem_cons_self
        · exact Or.inl h_old
    | _ => exact absurd h_i (Point.not_mem rfl)
  · cases h_eq

end Blokli
