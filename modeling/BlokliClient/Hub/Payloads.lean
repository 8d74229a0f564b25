import BlokliClient.Hub.Delivery
import BlokliClient.Hub.Provenance

/-!
# Where payloads come from

A payload is followed from its frame to the stream that returns it.

* Whatever `dispatch` works on is the rest of a routed frame of the connection
  it drives (`Routing`).
* Every value on its way to a stream is the payload of one frame, decoded by the
  decoder of the slot that owns the alias (`Genuine`, `Carrying`).
-/

namespace Blokli

open Worklist

variable {V : Type} {hub : HubConfig} {t : Task} {ch : Choice} {i : Instr V} {c c' : Config V}
  {e : Effect V} {a : Action Task Choice (Request V)}

/-! ### What `dispatch` works on -/

/-- The locals of `dispatch` until the last payload is handed over. -/
def Instr.routing : Instr V → Option (Dispatching V)
  | .readLive d | .dispatchPayloads d => some d
  | _ => none

/-- What dispatches a frame drives its connection. -/
theorem driving_of_routing {d : Dispatching V} (h : i.routing = some d) :
    i.driving = some d.toDriving := by
  cases i with
  | readLive _ => exact congrArg (fun d => some d.toDriving) (Option.some.inj h)
  | dispatchPayloads _ => exact congrArg (fun d => some d.toDriving) (Option.some.inj h)
  | _ => cases h

/-- The loop over the payloads goes on with a routed frame. -/
theorem routing_origin (h : exec hub t ch i c = some e) {j : Instr V} (hj : j ∈ e.next)
    {d : Dispatching V} (h_j : j.routing = some d) :
    (∃ driving stall response r, i = .select driving stall ∧
      route response driving.connection.targets = some r ∧
      d = driving.dispatching c.store.frames r ∧ j = .readLive d ∧
      e.store.history = .frame c.store.frames driving.conn response :: c.store.history) ∨
    (∃ d₀, i = .readLive d₀ ∧ d = { d₀ with live := c.store.state.scopeIds d₀.scope } ∧
      j = .dispatchPayloads d ∧
      e.store = c.store.log (.live d₀.frame (c.store.state.scopeIds d₀.scope))) ∨
    ∃ d₀ p, i = .dispatchPayloads d₀ ∧ j = .dispatchPayloads d ∧ d₀.payloads = p :: d.payloads ∧
      d.toDriving = d₀.toDriving ∧ d.frame = d₀.frame ∧ d.live = d₀.live := by
  cases j with
  | readLive d' =>
    obtain rfl := Option.some.inj h_j
    obtain ⟨driving, stall, response, r, rfl, -, h_route, h_d, h_history⟩ := readLive_origin h hj
    exact Or.inl ⟨driving, stall, response, r, rfl, h_route, h_d, rfl, h_history⟩
  | dispatchPayloads d' =>
    obtain rfl := Option.some.inj h_j
    rcases dispatchPayloads_origin h hj with ⟨d₀, rfl, h_d, h_store⟩ |
      ⟨d₀, p, rfl, h_payloads, h_driving, h_frame, h_live⟩
    · exact Or.inr (Or.inl ⟨d₀, rfl, h_d, rfl, h_store⟩)
    · exact Or.inr (Or.inr ⟨d₀, p, rfl, rfl, h_payloads, h_driving, h_frame, h_live⟩)
  | _ => cases h_j

/-- **Routing.** `dispatch` works on the rest of a routed frame of its connection;
the slots it found on the connection were registered when it was built. -/
structure Routing (c : Config V) : Prop where
  routed : ∀ t, ∀ i ∈ c.todo t, ∀ d, i.routing = some d → ∃ response r,
    .frame d.frame d.conn response ∈ c.store.history ∧
      route response d.connection.targets = some r ∧ d.payloads <:+ r.payloads
  live : ∀ t d, .dispatchPayloads d ∈ c.todo t → .live d.frame d.live ∈ c.store.history
  present : ∀ t d, .dispatchPayloads d ∈ c.todo t → ∃ slots present,
    .built d.conn d.scope slots d.connection present ∈ c.store.history ∧
      ∀ id ∈ d.live, id ∈ slots.map Prod.fst → id ∈ present

namespace Routing

/-- At the start no frame was read. -/
theorem initial : Routing (initialConfig V) where
  routed _ _ h := absurd h List.not_mem_nil
  live _ _ h := absurd h List.not_mem_nil
  present _ _ h := absurd h List.not_mem_nil

/-- One step keeps the parts of a frame those that were routed. -/
theorem step (h_inv : Routing c) (h_est : Established c)
    (h : (hubProgram hub).step c a = some c') : Routing c' := by
  have h_mono : ∀ {ev : Event V}, ev ∈ c.store.history → ev ∈ c'.store.history :=
    fun h_ev => history_subset h h_ev
  refine ⟨fun t j hj d h_j => ?_, fun t d hj => ?_, fun t d hj => ?_⟩
  · -- what is routed is a suffix of what its frame was routed to
    have h_inner : j.point.begins = false := by
      cases j <;> first
        | rfl
        | cases h_j
    rcases origin_step h hj h_inner with hj | ⟨ch, i, rest, e, rfl, h_todo, he, h_next⟩
    · obtain ⟨response, r, h_frame, h_route⟩ := h_inv.routed t j hj d h_j
      exact ⟨response, r, h_mono h_frame, h_route⟩
    · have hi : i ∈ c.todo t := by
        rw [h_todo]
        exact List.mem_cons_self
      obtain rfl := Option.some.inj (h.symm.trans (Program.step_run h_todo he))
      rcases routing_origin he h_next h_j with
        ⟨driving, stall, response, r, rfl, h_route, rfl, -, h_history⟩ |
        ⟨d₀, rfl, rfl, -, -⟩ | ⟨d₀, p, rfl, -, h_payloads, h_driving, h_frame, -⟩
      · -- the frame was just read: all of it
        refine ⟨response, r, ?_, h_route, List.suffix_refl _⟩
        rw [resume_store, h_history]
        exact List.mem_cons_self
      · obtain ⟨response, r, h_frame, h_route⟩ := h_inv.routed t _ hi d₀ rfl
        exact ⟨response, r, h_mono h_frame, h_route⟩
      · -- one payload was taken
        obtain ⟨response, r, h_read, h_route, h_suffix⟩ := h_inv.routed t _ hi d₀ rfl
        rw [h_frame, h_driving]
        refine ⟨response, r, h_mono h_read, h_route, List.IsSuffix.trans ?_ h_suffix⟩
        rw [h_payloads]
        exact List.suffix_cons _ _
  · -- the slots that were live are on record
    rcases origin_step h hj rfl with hj | ⟨ch, i, rest, e, rfl, h_todo, he, h_next⟩
    · exact h_mono (h_inv.live t d hj)
    · rcases dispatchPayloads_origin he h_next with ⟨d₀, rfl, rfl, h_store⟩ |
        ⟨d₀, p, rfl, -, -, h_frame, h_live⟩
      · obtain rfl := Option.some.inj (h.symm.trans (Program.step_run h_todo he))
        rw [resume_store, h_store]
        exact List.mem_cons_self
      · rw [h_frame, h_live]
        exact h_mono (h_inv.live t d₀ (by rw [h_todo]; exact List.mem_cons_self))
  · -- and were registered when the connection was built
    rcases origin_step h hj rfl with hj | ⟨ch, i, rest, e, rfl, h_todo, he, h_next⟩
    · obtain ⟨slots, present, h_built, h_present⟩ := h_inv.present t d hj
      exact ⟨slots, present, h_mono h_built, h_present⟩
    · rcases dispatchPayloads_origin he h_next with ⟨d₀, rfl, rfl, -⟩ |
        ⟨d₀, p, rfl, -, h_driving, -, h_live⟩
      · obtain ⟨slots, present, h_built⟩ := h_est.driven t (.readLive d₀)
          (by rw [h_todo]; exact List.mem_cons_self) _ rfl
        refine ⟨slots, present, h_mono h_built, fun id h_id h_slot => ?_⟩
        -- a slot that is listed as live is registered
        obtain ⟨-, e₀, h_e₀, -⟩ := c.store.state.mem_scopeIds.mp h_id
        exact h_est.present _ _ _ _ _ h_built id h_slot e₀ h_e₀
      · obtain ⟨slots, present, h_built, h_present⟩ := h_inv.present t d₀
          (by rw [h_todo]; exact List.mem_cons_self)
        rw [h_driving, h_live]
        exact ⟨slots, present, h_mono h_built, h_present⟩

/-- The invariant along a run. -/
theorem reachable {Allowed : Config V → Action Task Choice (Request V) → Prop}
    (h : (hubProgram hub).Reachable (initialConfig V) Allowed c) : Routing c := by
  induction h with
  | init => exact initial
  | step reached _ fires ih => exact ih.step (Established.reachable reached) fires

end Routing

/-! ### Where a value comes from -/

/-- **Genuine.** The value was carried by a frame of a connection that was built
while the slot was registered: the frame has a payload under the alias of the
slot, and the slot's own decoder makes the value of it, under the root field of
the document that the connection was built from. -/
inductive Genuine (s : Store V) (id : SlotId) (conn number : ℕ) (value : V) : Prop
  | carried (scope : Scope) (slots : Snapshot V) (connection : Connection V)
      (present : List SlotId) (entry : SlotSnapshot V) (own : SubscriptionSpec V)
      (response : GraphQlResponse) (payload : Json) (field : Text)
      (built : .built conn scope slots connection present ∈ s.history)
      (listed : (id, entry) ∈ slots) (registered : id ∈ present)
      (frame : .frame number conn response ∈ s.history)
      (member : (aliasOfSlot id, payload) ∈ response.members)
      (rootField : (rootFieldOf entry.spec.document (aliasOfSlot id)).run = some (.ok field))
      (owner : .registered id own ∈ s.history)
      (decoded : own.decode (.object [(field, payload)]) = some value)

/-- A value stays genuine. -/
theorem Genuine.mono {s s' : Store V} {id : SlotId} {conn number : ℕ} {value : V}
    (h_sub : ∀ ev ∈ s.history, ev ∈ s'.history) (h : Genuine s id conn number value) :
    Genuine s' id conn number value := by
  obtain ⟨scope, slots, connection, present, entry, own, response, payload, field, built, listed,
    registered, frame, member, rootField, owner, decoded⟩ := h
  exact .carried scope slots connection present entry own response payload field (h_sub _ built)
    listed registered (h_sub _ frame) member rootField (h_sub _ owner) decoded

/-- The item holds no value, or one that is genuine. -/
def Item.GenuineFor (s : Store V) (id : SlotId) (item : Item V) : Prop :=
  ∀ value, item.event = .data value → ∃ conn number, item.origin = .frame conn number ∧
    Genuine s id conn number value

/-- So does an item. -/
theorem Item.GenuineFor.mono {s s' : Store V} {id : SlotId} {item : Item V}
    (h_sub : ∀ ev ∈ s.history, ev ∈ s'.history) (h : item.GenuineFor s id) :
    item.GenuineFor s' id := by
  intro value h_value
  obtain ⟨conn, number, h_origin, h_genuine⟩ := h value h_value
  exact ⟨conn, number, h_origin, h_genuine.mono h_sub⟩

/-- **The payload that is decoded** was carried by the frame that `dispatch` works on. -/
theorem genuine_of_payload (h_enl : Enlisted c) (h_est : Established c) (h_routing : Routing c)
    (h_aligned : Aligned c) {d : Dispatching V} (h_mem : .dispatchPayloads d ∈ c.todo t)
    {target : SlotTarget V} {payload : Json} {payloads : List (SlotId × Json)} {value : V}
    (h_head : d.payloads = (target.id, payload) :: payloads)
    (h_owner : d.target target.id = some target) (h_value : target.decode payload = some value) :
    Genuine c.store target.id d.conn d.frame value := by
  obtain ⟨slots, present, h_built, h_present⟩ := h_routing.present t d h_mem
  obtain ⟨response, r, h_frame, h_route, h_suffix⟩ := h_routing.routed t _ h_mem d rfl
  obtain ⟨h_ok, -⟩ := h_est.assembled _ _ _ _ _ h_built
  have h_connection := h_aligned t _ h_mem d.toDriving rfl
  obtain ⟨h_target, -, h_live⟩ := Dispatching.target_eq_some h_owner
  -- the payload that is handed over is a member of the data, under the alias of a target
  have h_listed : (target.id, payload) ∈ r.payloads := by
    refine h_suffix.mem ?_
    rw [h_head]
    exact List.mem_cons_self
  obtain ⟨aliasName, target', member, h_alias, h_member, -, h_id, rfl⟩ :=
    ((h_connection.demultiplexed h_route).payloads _ _).mp h_listed
  -- which is this slot's target, since no slot has two
  obtain rfl : target' = target := by
    refine List.inj_on_of_nodup_map h_connection.ids_nodup (List.mem_map.mpr ⟨_, h_alias, rfl⟩)
      h_target h_id.symm
  obtain rfl : aliasName = aliasOfSlot target'.id := h_connection.aliased _ h_alias
  obtain ⟨⟨id, entry⟩, h_slot, h_own⟩ := buildConnection_owners h_ok h_alias
  obtain rfl : target'.id = id := h_own.id_eq
  obtain ⟨own, h_registered, h_decode⟩ := h_enl.documents _ _ _ _ _ h_built _ h_slot
  refine .carried d.scope slots d.connection present entry own response member target'.field h_built
    h_slot (h_present _ h_live (List.mem_map.mpr ⟨_, h_slot, rfl⟩)) h_frame h_member h_own.field
    h_registered ?_
  rw [← h_decode, ← h_own.decode]
  exact h_value

/-- **Carrying.** What is on its way to a stream, and what was pushed into its
queue, holds no value that is not genuine. -/
structure Carrying (c : Config V) : Prop where
  pending : ∀ t, ∀ i ∈ c.todo t, ∀ id item, i.hands id = some item → item.GenuineFor c.store id
  queued : ∀ id item, .queued id item ∈ c.store.history → item.GenuineFor c.store id

namespace Carrying

/-- At the start nothing is on its way. -/
theorem initial : Carrying (initialConfig V) where
  pending _ _ h := absurd h List.not_mem_nil
  queued _ _ h := absurd h List.not_mem_nil

/-- An item that is about to be handed over is genuine. -/
theorem step_pending (h_inv : Carrying c) (h_enl : Enlisted c) (h_est : Established c)
    (h_routing : Routing c) (h_aligned : Aligned c) (h : (hubProgram hub).step c a = some c') :
    ∀ t, ∀ i ∈ c'.todo t, ∀ id item, i.hands id = some item → item.GenuineFor c'.store id := by
  intro t j hj id item h_j
  refine Item.GenuineFor.mono (fun _ h_ev => history_subset h h_ev) ?_
  have h_inner : j.point.begins = false := by
    cases j <;> first
      | rfl
      | cases h_j
  rcases origin_step h hj h_inner with hj | ⟨ch, i, rest, e, rfl, h_todo, he, h_next⟩
  · exact h_inv.pending t j hj id item h_j
  have hi : i ∈ c.todo t := by
    rw [h_todo]
    exact List.mem_cons_self
  cases j with
  -- a payload that decodes is of a frame; errors carry no value
  | deliver scope target item' =>
    obtain ⟨rfl, rfl⟩ : target.id = id ∧ item' = item := by
      simp only [Instr.hands, Option.ite_none_right_eq_some, Option.some.injEq] at h_j
      exact h_j
    cases deliver_origin he h_next with
    | payload d payload payloads value head owner decoded same item_eq =>
      intro value' h_value
      rw [item_eq] at h_value ⊢
      obtain rfl := SlotEvent.data.inj h_value
      exact ⟨d.conn, d.frame, rfl, genuine_of_payload h_enl h_est h_routing h_aligned hi head owner
        decoded⟩
    | refusal targets problem error listed first item_eq =>
      intro value' h_value
      rw [item_eq] at h_value
      cases h_value
    | failure d error same item_eq =>
      intro value' h_value
      rw [item_eq] at h_value
      cases h_value
  | trySend id' item' =>
    obtain ⟨rfl, rfl⟩ : id' = id ∧ item' = item := by
      simp only [Instr.hands, Option.ite_none_right_eq_some, Option.some.injEq] at h_j
      exact h_j
    obtain ⟨error, rfl⟩ := trySend_origin he h_next
    intro value h_value
    cases h_value
  | _ => cases h_j

/-- The two clauses together. -/
theorem step (h_inv : Carrying c) (h_enl : Enlisted c) (h_est : Established c)
    (h_routing : Routing c) (h_aligned : Aligned c) (h : (hubProgram hub).step c a = some c') :
    Carrying c' where
  pending := h_inv.step_pending h_enl h_est h_routing h_aligned h
  queued := by
    intro id item h_ev
    refine Item.GenuineFor.mono (fun _ h_ev => history_subset h h_ev) ?_
    rcases queued_step h h_ev with h_old | ⟨t, i, h_runs, h_hands, -⟩
    · exact h_inv.queued id item h_old
    · obtain ⟨ch, rest, rfl, h_todo⟩ := h_runs
      exact h_inv.pending t i (by rw [h_todo]; exact List.mem_cons_self) id item h_hands

/-- The invariant along a run. -/
theorem reachable {Allowed : Config V → Action Task Choice (Request V) → Prop}
    (h : (hubProgram hub).Reachable (initialConfig V) Allowed c) : Carrying c := by
  induction h with
  | init => exact initial
  | step reached _ fires ih =>
    exact ih.step (Enlisted.reachable reached) (Established.reachable reached)
      (Routing.reachable reached) (Aligned.reachable reached) fires

end Carrying

/-! ### What is returned was pushed -/

/-- **Returning.** Nothing waits behind a receiver that was dropped, and what a
stream returned is what was pushed first. -/
structure Returning (c : Config V) : Prop where
  closed : ∀ id, c.store.closed id = true → c.store.queues id = []
  returned : ∀ id, c.store.received id <+: c.store.pushed id

namespace Returning

/-- At the start nothing was returned. -/
theorem initial : Returning (initialConfig V) where
  closed _ h := by cases h
  returned _ := List.prefix_refl _

/-- A queue that was closed is empty. -/
theorem step_closed (h_inv : Returning c) (h : (hubProgram hub).step c a = some c') :
    ∀ id, c'.store.closed id = true → c'.store.queues id = [] := by
  intro id h_closed'
  by_cases h_closed : c.store.closed id = true
  · -- nothing is pushed to a receiver that was dropped before
    have h_nil := h_inv.closed id h_closed
    cases queue_step h id with
    | same queue => rw [queue, h_nil]
    | pushed t i item runs hands listens room queue history =>
      rw [h_closed] at listens
      cases listens
    | popped t item runs queue history =>
      rw [h_nil] at queue
      cases queue
    | cleared t runs queue closed => exact queue
  · -- it is dropped in this step, with what waits in the queue
    rcases Program.step_cases h with ⟨t, ch, i, rest, e, rfl, h_todo, he, rfl⟩ |
      ⟨r, t, e, rfl, he, h_todo, rfl⟩
    · change exec hub t ch i c = some e at he
      -- the receiver is closed by its own instruction
      by_cases h_point : i.point = .closeReceiver
      · cases i with
        | closeReceiver id' =>
          obtain rfl := Option.some.inj he
          by_cases h_id : id = id'
          · rw [h_id]
            exact Function.update_self ..
          · exact absurd ((Function.update_of_ne h_id ..).symm.trans h_closed') h_closed
        | _ => cases h_point
      · rw [resume_store, (exec_leavesAlone he).closed h_point] at h_closed'
        exact absurd h_closed' h_closed
    · obtain ⟨-, -, -, -, -, -, -, -, -, h_same, -⟩ := accept_frame he
      rw [resume_store, h_same] at h_closed'
      exact absurd h_closed' h_closed

/-- What is returned was pushed, and comes in that order. -/
theorem step (h_inv : Returning c) (h_fifo : Fifo c) (h : (hubProgram hub).step c a = some c') :
    Returning c' where
  closed := h_inv.step_closed h
  returned := by
    intro id
    cases traffic_step h id with
    -- what was returned is a prefix of what was pushed, since the rest waits
    | same queue pushed received =>
      rw [pushed, received]
      exact h_inv.returned id
    | pushed t i item runs hands queue pushed received =>
      rw [pushed, received]
      exact (h_inv.returned id).trans (List.prefix_append _ _)
    | cleared closed pushed received =>
      rw [pushed, received]
      exact h_inv.returned id
    | popped t item runs queue pushed received =>
      have h_open : c.store.closed id = false := by
        by_contra h_closed
        rw [h_inv.closed id (by simpa using h_closed)] at queue
        cases queue
      rw [pushed, received, h_fifo id h_open, queue]
      exact ⟨c'.store.queues id, by simp⟩

/-- The invariant along a run. -/
theorem reachable {Allowed : Config V → Action Task Choice (Request V) → Prop}
    (h : (hubProgram hub).Reachable (initialConfig V) Allowed c) : Returning c := by
  induction h with
  | init => exact initial
  | step reached _ fires ih => exact ih.step (Fifo.reachable reached) fires

end Returning

end Blokli
