import BlokliClient.Hub.Queues

/-!
# From a push to `poll_next`

The history records every item that is pushed to the queue of a slot and every
item that its stream returns. The queue is what lies between the two.

* `TrafficStep` says what a step does to a queue and to both records at once:
  it pushes one item, or pops one, or the receiver goes, or nothing happens.
* `Fifo`: until the receiver is dropped, what was returned, followed by what
  still waits, is what was pushed.
-/

namespace Blokli

open Worklist

variable {V : Type} {hub : HubConfig} {t : Task} {ch : Choice} {i : Instr V} {c c' : Config V}
  {e : Effect V} {a : Action Task Choice (Request V)}

/-- The item that an event pushes to the queue of slot `id`. -/
def Event.pushedTo (id : SlotId) : Event V → Option (Item V)
  | .queued id' item => if id' = id then some item else none
  | _ => none

/-- The item that an event returns from the stream of slot `id`. -/
def Event.receivedBy (id : SlotId) : Event V → Option (Item V)
  | .received id' item => if id' = id then some item else none
  | _ => none

/-- A push or a drop at the queue of slot `id`. -/
def Event.takes (id : SlotId) : Event V → Bool
  | .queued id' _ | .dropped id' _ _ _ => decide (id' = id)
  | _ => false

/-- The item that a push or a drop is about. -/
def Event.taken : Event V → Option (Item V)
  | .queued _ item | .dropped _ item _ _ => some item
  | _ => none

namespace Store

variable (s : Store V) (id : SlotId)

/-- The items that were pushed to the queue of slot `id`, the oldest first. -/
def pushed : List (Item V) := (s.history.filterMap (Event.pushedTo id)).reverse

/-- The items that the stream of slot `id` returned, the oldest first. -/
def received : List (Item V) := (s.history.filterMap (Event.receivedBy id)).reverse

/-- The pushes and drops at the queue of slot `id`, the oldest first. -/
def traffic : List (Event V) := (s.history.filter (Event.takes id)).reverse

/-- The items that `deliver` and `try_send` took to the queue of slot `id`, the
oldest first: those that were pushed and those that were dropped. -/
def handed : List (Item V) := (s.traffic id).filterMap Event.taken

end Store

/-- The event that pushes an item. -/
theorem pushedTo_eq_some {ev : Event V} {id : SlotId} {item : Item V} :
    ev.pushedTo id = some item ↔ ev = .queued id item := by
  cases ev <;> simp [Event.pushedTo]

/-- The event that returns one. -/
theorem receivedBy_eq_some {ev : Event V} {id : SlotId} {item : Item V} :
    ev.receivedBy id = some item ↔ ev = .received id item := by
  cases ev <;> simp [Event.receivedBy]

/-- Traffic is what is pushed and what is dropped. -/
theorem takes_eq_true {ev : Event V} {id : SlotId} : ev.takes id = true ↔
    (∃ item, ev = .queued id item) ∨ ∃ item scope waiting, ev = .dropped id item scope waiting := by
  cases ev <;> simp [Event.takes]

/-- What was pushed is on record. -/
theorem mem_pushed {s : Store V} {id : SlotId} {item : Item V} :
    item ∈ s.pushed id ↔ .queued id item ∈ s.history := by
  rw [Store.pushed, List.mem_reverse, List.mem_filterMap]
  simp only [pushedTo_eq_some, exists_eq_right]

/-- So is the traffic. -/
theorem mem_traffic {s : Store V} {id : SlotId} {ev : Event V} :
    ev ∈ s.traffic id ↔ ev ∈ s.history ∧ ev.takes id = true := by
  rw [Store.traffic, List.mem_reverse, List.mem_filter]

/-- What was pushed was handed over. -/
theorem mem_handed_of_queued {s : Store V} {id : SlotId} {item : Item V}
    (h : .queued id item ∈ s.history) : item ∈ s.handed id :=
  List.mem_filterMap.mpr
    ⟨_, mem_traffic.mpr ⟨h, takes_eq_true.mpr (Or.inl ⟨item, rfl⟩)⟩, rfl⟩

section Record

variable {s s' : Store V} {id : SlotId}

/-- What was pushed, one event later. -/
theorem pushed_of_cons {ev : Event V} (h : s'.history = ev :: s.history) :
    s'.pushed id = s.pushed id ++ (ev.pushedTo id).toList := by
  unfold Store.pushed
  rw [h, List.filterMap_cons]
  cases ev.pushedTo id with
  | none => exact (List.append_nil _).symm
  | some item => exact List.reverse_cons

/-- What was returned, one event later. -/
theorem received_of_cons {ev : Event V} (h : s'.history = ev :: s.history) :
    s'.received id = s.received id ++ (ev.receivedBy id).toList := by
  unfold Store.received
  rw [h, List.filterMap_cons]
  cases ev.receivedBy id with
  | none => exact (List.append_nil _).symm
  | some item => exact List.reverse_cons

/-- The traffic, one push or drop later. -/
theorem traffic_of_cons {ev : Event V} (h : s'.history = ev :: s.history)
    (h_ev : ev.takes id = true) : s'.traffic id = s.traffic id ++ [ev] := by
  unfold Store.traffic
  rw [h, List.filter_cons_of_pos h_ev]
  exact List.reverse_cons

/-- Without events there is no traffic. -/
theorem traffic_of_history (h : s'.history = s.history) : s'.traffic id = s.traffic id := by
  unfold Store.traffic
  rw [h]

/-- Pushes take what they push. -/
theorem handed_of_traffic {items : List (Item V)} {events : List (Event V)}
    (h : s.traffic id = items.map (.queued id) ++ events) :
    s.handed id = items ++ events.filterMap Event.taken := by
  unfold Store.handed
  rw [h, List.filterMap_append, List.filterMap_map]
  exact congrArg (· ++ _) List.filterMap_some

/-- What is recorded later comes later. -/
theorem traffic_grows {new : List (Event V)} (h : s'.history = new ++ s.history) :
    s.traffic id <+: s'.traffic id := by
  unfold Store.traffic
  rw [h, List.filter_append, List.reverse_append]
  exact List.prefix_append _ _

/-- What was handed over stays on record. -/
theorem handed_sublist {new : List (Event V)} (h : s'.history = new ++ s.history) :
    (s.handed id).Sublist (s'.handed id) :=
  (traffic_grows h).sublist.filterMap _

/-- The events of other instructions are no traffic. -/
theorem traffic_of_others (new : List (Event V)) (h_new : s'.history = new ++ s.history)
    (h : ∀ ev ∈ new, ∃ p ∈ ev.sources, p ∉ [Point.trySend, .deliver]) :
    s'.traffic id = s.traffic id := by
  have h_none : new.filter (Event.takes id) = [] := by
    refine List.filter_eq_nil_iff.mpr fun ev h_ev h_takes => ?_
    obtain ⟨p, h_p, h_other⟩ := h ev h_ev
    rcases takes_eq_true.mp h_takes with ⟨item, rfl⟩ | ⟨item, scope, waiting, rfl⟩
    · exact h_other h_p
    · exact h_other (List.mem_cons_of_mem _ h_p)
  unfold Store.traffic
  rw [h_new, List.filter_append, h_none]
  rfl

/-- Other events leave both records alone. -/
theorem records_of_others (new : List (Event V)) (h_new : s'.history = new ++ s.history)
    (h : ∀ ev ∈ new, ∀ item, ev ≠ .queued id item ∧ ev ≠ .received id item) :
    s'.pushed id = s.pushed id ∧ s'.received id = s.received id := by
  have h_pushed : new.filterMap (Event.pushedTo id) = [] :=
    List.filterMap_eq_nil_iff.mpr fun ev h_ev => Option.eq_none_iff_forall_ne_some.mpr
      fun item h_eq => (h ev h_ev item).1 (pushedTo_eq_some.mp h_eq)
  have h_received : new.filterMap (Event.receivedBy id) = [] :=
    List.filterMap_eq_nil_iff.mpr fun ev h_ev => Option.eq_none_iff_forall_ne_some.mpr
      fun item h_eq => (h ev h_ev item).2 (receivedBy_eq_some.mp h_eq)
  unfold Store.pushed Store.received
  rw [h_new, List.filterMap_append, List.filterMap_append, h_pushed, h_received]
  exact ⟨rfl, rfl⟩

end Record

/-! ### One step -/

/-- What a step does to the queue of slot `id` and to what is recorded about it. -/
inductive TrafficStep (c : Config V) (a : Action Task Choice (Request V)) (c' : Config V)
    (id : SlotId) : Prop
  | same (queue : c'.store.queues id = c.store.queues id)
      (pushed : c'.store.pushed id = c.store.pushed id)
      (received : c'.store.received id = c.store.received id)
  | pushed (t : Task) (i : Instr V) (item : Item V)
      (runs : Runs c a t i) (hands : i.hands id = some item)
      (queue : c'.store.queues id = c.store.queues id ++ [item])
      (pushed : c'.store.pushed id = c.store.pushed id ++ [item])
      (received : c'.store.received id = c.store.received id)
  | popped (t : Task) (item : Item V)
      (runs : Runs c a t (.receive id)) (queue : c.store.queues id = item :: c'.store.queues id)
      (pushed : c'.store.pushed id = c.store.pushed id)
      (received : c'.store.received id = c.store.received id ++ [item])
  | cleared (closed : c'.store.closed id = true)
      (pushed : c'.store.pushed id = c.store.pushed id)
      (received : c'.store.received id = c.store.received id)

/-- What an instruction adds to the history, if it touches the traffic of a slot. -/
theorem exec_traffic (h : exec hub t ch i c = some e) {new : List (Event V)}
    (h_new : e.store.history = new ++ c.store.history) {ev : Event V} (h_ev : ev ∈ new)
    {id : SlotId} {item : Item V} (h_eq : ev = .queued id item ∨ ev = .received id item) :
    new = [ev] ∧ e.store.queues id ≠ c.store.queues id := by
  -- an instruction that records one event records this one
  have h_one : ∀ {ev' : Event V}, e.store.history = ev' :: c.store.history →
      new = [ev'] ∧ ev = ev' := by
    intro ev' h_ev'
    obtain rfl := new_eq_singleton (h_ev'.symm.trans h_new)
    exact ⟨rfl, List.mem_singleton.mp h_ev⟩
  have h_longer : ∀ (items : List (Item V)) (item : Item V), items ++ [item] ≠ items := by
    intro items item h_items
    have h_length := congrArg List.length h_items
    rw [List.length_append, List.length_singleton] at h_length
    exact absurd h_length (Nat.succ_ne_self _)
  -- the two events are recorded by three instructions
  have h_source : i.point ∈ [.trySend, .deliver, .receive] := by
    obtain ⟨new', h_new', h_sources⟩ := exec_history h
    obtain rfl := List.append_cancel_right (h_new.symm.trans h_new')
    have h_i := h_sources ev h_ev
    rcases h_eq with rfl | rfl
    · rcases List.mem_cons.mp h_i with h_i | h_i
      · exact h_i ▸ List.mem_cons_self
      · exact List.mem_singleton.mp h_i ▸ List.mem_cons_of_mem _ List.mem_cons_self
    · rw [List.mem_singleton.mp h_i]
      exact List.mem_of_elem_eq_true rfl
  cases i with
  | deliver scope target item' =>
    cases execDeliver_step h with
    -- nobody listens: the event is another one
    | gone closed =>
      obtain ⟨-, rfl⟩ := h_one rfl
      rcases h_eq with h_eq | h_eq <;> cases h_eq
    -- the queue is longer by the item
    | queued listens room =>
      obtain ⟨h_singleton, rfl⟩ := h_one rfl
      rcases h_eq with h_eq | h_eq
      · obtain ⟨rfl, rfl⟩ := Event.queued.inj h_eq
        refine ⟨h_singleton, ?_⟩
        rw [push_queues_self]
        exact h_longer _ _
      · cases h_eq
    -- dropped: the event is another one
    | dropped listens full drops shared =>
      obtain ⟨-, rfl⟩ := h_one rfl
      rcases h_eq with h_eq | h_eq <;> cases h_eq
  | trySend id' item' =>
    obtain rfl := Option.some.inj h
    unfold execTrySend at h_new h_one ⊢
    split
    · next h_room =>
      rw [if_pos h_room] at h_one
      obtain ⟨h_singleton, rfl⟩ := h_one rfl
      rcases h_eq with h_eq | h_eq
      · obtain ⟨rfl, rfl⟩ := Event.queued.inj h_eq
        refine ⟨h_singleton, ?_⟩
        rw [push_queues_self]
        exact h_longer _ _
      · cases h_eq
    · -- past a full queue nothing is recorded
      next h_room =>
      rw [if_neg h_room] at h_new
      rw [List.self_eq_append_left.mp h_new] at h_ev
      exact absurd h_ev List.not_mem_nil
  | receive id' =>
    cases execReceive_step (Option.some.inj h) with
    | popped item' items queue =>
      obtain ⟨h_singleton, rfl⟩ := h_one rfl
      rcases h_eq with h_eq | h_eq
      · cases h_eq
      · obtain ⟨rfl, rfl⟩ := Event.received.inj h_eq
        refine ⟨h_singleton, fun h_same => ?_⟩
        -- the queue is shorter by the item
        change Function.update c.store.queues id' items id' = _ at h_same
        rw [Function.update_self, queue] at h_same
        have h_length := congrArg List.length h_same
        rw [List.length_cons] at h_length
        exact absurd h_length.symm (Nat.succ_ne_self _)
    -- nothing was there to return
    | pending queue held =>
      rw [List.self_eq_append_left.mp h_new] at h_ev
      exact absurd h_ev List.not_mem_nil
    | ended queue free =>
      rw [List.self_eq_append_left.mp h_new] at h_ev
      exact absurd h_ev List.not_mem_nil
  | _ => exact absurd h_source (Point.not_mem rfl)

/-- **The list is complete.** -/
theorem traffic_step (h : (hubProgram hub).step c a = some c') (id : SlotId) :
    TrafficStep c a c' id := by
  -- the history grows by the one event that says what happened to the queue
  cases queue_step h id with
  | pushed t i item runs hands listens room queue history =>
    refine .pushed t i item runs hands queue ?_ ?_
    · rw [pushed_of_cons history, pushedTo_eq_some.mpr rfl]
      rfl
    · exact (received_of_cons history).trans (List.append_nil _)
  | popped t item runs queue history =>
    refine .popped t item runs queue ?_ ?_
    · exact (pushed_of_cons history).trans (List.append_nil _)
    · rw [received_of_cons history, receivedBy_eq_some.mpr rfl]
      rfl
  | cleared t runs queue closed =>
    obtain ⟨ch, rest, e, rfl, h_todo, he, rfl⟩ := runs.exec h
    obtain rfl := Option.some.inj he
    exact .cleared closed rfl rfl
  | same queue =>
    -- the queue did not change, so no event of the step can be about it: a record of an item
    -- means a longer or a shorter queue
    obtain ⟨h_pushed, h_received⟩ : c'.store.pushed id = c.store.pushed id ∧
        c'.store.received id = c.store.received id := by
      rcases Program.step_cases h with ⟨t, ch, i, rest, e, rfl, h_todo, he, rfl⟩ |
        ⟨r, t, e, rfl, he, h_todo, rfl⟩
      · change exec hub t ch i c = some e at he
        obtain ⟨new, h_new, -⟩ := exec_history he
        refine records_of_others new h_new fun ev h_ev item => ⟨fun h_eq => ?_, fun h_eq => ?_⟩
        · exact (exec_traffic he h_new h_ev (Or.inl h_eq)).2 queue
        · exact (exec_traffic he h_new h_ev (Or.inr h_eq)).2 queue
      · rcases accept_history he with h_same | ⟨spec, created, rfl, h_new⟩
        · exact records_of_others [] h_same fun _ h_ev => absurd h_ev List.not_mem_nil
        · exact records_of_others [_] h_new (List.forall_mem_singleton.mpr
            fun item => ⟨fun h_eq => (by cases h_eq), fun h_eq => (by cases h_eq)⟩)
    exact .same queue h_pushed h_received

/-- **Pushes.** What is recorded as pushed was so before, or was handed over in
this step and found room. -/
theorem queued_step (h : (hubProgram hub).step c a = some c') {id : SlotId} {item : Item V}
    (h_ev : .queued id item ∈ c'.store.history) :
    .queued id item ∈ c.store.history ∨
      ∃ t i, Runs c a t i ∧ i.hands id = some item ∧ c.store.closed id = false ∧
        (c.store.queues id).length < slotChannelCapacity ∧
        c'.store.history = .queued id item :: c.store.history := by
  rw [← mem_pushed] at h_ev ⊢
  -- only a push can have made the event
  cases traffic_step h id with
  | same queue pushed received => exact Or.inl (pushed ▸ h_ev)
  | popped t item' runs queue pushed received => exact Or.inl (pushed ▸ h_ev)
  | cleared closed pushed received => exact Or.inl (pushed ▸ h_ev)
  | pushed t i item' runs hands queue pushed received =>
    rw [pushed, List.mem_append, List.mem_singleton] at h_ev
    rcases h_ev with h_old | rfl
    · exact Or.inl h_old
    have h_length := congrArg List.length queue
    rw [List.length_append, List.length_singleton] at h_length
    -- of the four things that can happen to the queue, only a push makes it longer
    cases queue_step h id with
    | same queue' =>
      rw [queue'] at h_length
      exact absurd h_length.symm (Nat.succ_ne_self _)
    | pushed t' i' item' runs' hands' listens room queue' history =>
      obtain ⟨-, rfl⟩ := runs.unique runs'
      obtain rfl := Option.some.inj (hands.symm.trans hands')
      exact Or.inr ⟨t, _, runs, hands, listens, room, history⟩
    | popped t' item' runs' queue' history =>
      rw [queue', List.length_cons] at h_length
      omega
    | cleared t' runs' queue' closed =>
      rw [queue', List.length_nil] at h_length
      cases h_length

/-- What was pushed stays pushed. -/
theorem pushed_prefix {Allowed : Config V → Action Task Choice (Request V) → Prop}
    (h : (hubProgram hub).Reachable c Allowed c') (id : SlotId) :
    c.store.pushed id <+: c'.store.pushed id := by
  refine h.induct (motive := fun c' => c.store.pushed id <+: c'.store.pushed id)
    (List.prefix_refl _) fun _ h_inv _ h_step => h_inv.trans ?_
  cases traffic_step h_step id with
  | same queue pushed received => exact pushed ▸ List.prefix_refl _
  | pushed t i item runs hands queue pushed received =>
    rw [pushed]
    exact List.prefix_append _ _
  | popped t item runs queue pushed received => exact pushed ▸ List.prefix_refl _
  | cleared closed pushed received => exact pushed ▸ List.prefix_refl _

/-- **First in, first out.** Until the receiver of a slot is dropped, what its
stream returned, followed by what waits in its queue, is what was pushed. -/
def Fifo (c : Config V) : Prop :=
  ∀ id, c.store.closed id = false → c.store.pushed id = c.store.received id ++ c.store.queues id

/-- At the start the queues are empty. -/
theorem Fifo.initial : Fifo (initialConfig V) := fun _ _ => rfl

/-- One step keeps the queue: what was pushed and not returned, in order. -/
theorem Fifo.step (h_fifo : Fifo c) (h : (hubProgram hub).step c a = some c') : Fifo c' := by
  intro id h_open
  have h_before := h_fifo id (closed_step h h_open)
  cases traffic_step h id with
  | same queue pushed received => rw [pushed, received, queue, h_before]
  | pushed t i item runs hands queue pushed received =>
    rw [pushed, received, queue, h_before, List.append_assoc]
  | popped t item runs queue pushed received =>
    rw [pushed, received, h_before, queue, List.append_assoc, List.singleton_append]
  | cleared closed pushed received =>
    rw [h_open] at closed
    cases closed

/-- The invariant along a run. -/
theorem Fifo.reachable {Allowed : Config V → Action Task Choice (Request V) → Prop}
    (h : (hubProgram hub).Reachable (initialConfig V) Allowed c) : Fifo c :=
  h.induct (motive := Fifo) Fifo.initial fun _ h_inv _ h_step => h_inv.step h_step

end Blokli
