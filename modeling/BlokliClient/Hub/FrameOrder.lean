import BlokliClient.Hub.Payloads

/-!
# The order of the payloads of one connection

A supervisor hands over the payloads of a frame before it reads the next one.
So the payload of a frame that is on its way to a stream is newer than all
payloads of the same connection that were pushed (`Preceding`), and those were
pushed in the order of their frames (`Ascending`).
-/

namespace Blokli

open Worklist

variable {V : Type} {hub : HubConfig} {t : Task} {ch : Choice} {i : Instr V} {c c' : Config V}
  {e : Effect V} {a : Action Task Choice (Request V)}

/-! ### One frame at a time -/

/-- The number of the connection that an instruction drives. -/
def Instr.drives (i : Instr V) : Option ℕ := i.driving.map Driving.conn

/-- A connection that is driven was built. -/
theorem drives_lt (h_est : Established c) (h_tal : Tallied c.store) (hi : i ∈ c.todo t) {conn : ℕ}
    (h : i.drives = some conn) : conn < c.store.conns := by
  obtain ⟨d, h_d, rfl⟩ := Option.map_eq_some_iff.mp h
  obtain ⟨slots, present, h_built⟩ := h_est.driven t i hi d h_d
  exact h_tal.built_lt h_built

/-- Before the loop over the payloads ends, `dispatch` is all that is left of the control
flow. -/
theorem routing_unique (h_seq : Sequential c) {i j : Instr V} (hi : i ∈ c.todo t)
    (hj : j ∈ c.todo t) {d d' : Dispatching V} (h_i : i.routing = some d)
    (h_j : j.routing = some d') : i = j := by
  -- an instruction that routes a frame is under the control of a document
  have h_control : ∀ {k : Instr V} {d : Dispatching V}, k.routing = some d →
      k.point.isControl = true ∧ k.point.hasDocument = true := by
    intro k d h_k
    cases k with
    | readLive _ => exact ⟨rfl, rfl⟩
    | dispatchPayloads _ => exact ⟨rfl, rfl⟩
    | _ => cases h_k
  -- so no two stand in one list
  have h_apart : (c.todo t).Pairwise fun i j =>
      ∀ d d', i.routing = some d → j.routing ≠ some d' := by
    refine (h_seq t).imp fun h_ordered d d' h_i h_j => ?_
    have h_document := h_ordered (h_control h_i).1
    rw [(h_control h_j).2] at h_document
    cases h_document
  exact List.Pairwise.forall_of_forall_of_flip
    (R := fun i j => ∀ d d', i.routing = some d → j.routing = some d' → i = j)
    (fun _ _ _ _ _ _ => rfl)
    (h_apart.imp fun h_ne d d' h_i h_j => absurd h_j (h_ne d d' h_i))
    (h_apart.imp fun h_ne d d' h_i h_j => absurd h_i (h_ne d' d h_j)) hi hj d d' h_i h_j

/-- What hands an item over. -/
theorem point_of_hands {id : SlotId} {item : Item V} (h : i.hands id = some item) :
    i.point ∈ [.deliver, .trySend] := by
  cases i with
  | deliver _ _ _ => exact List.mem_of_elem_eq_true rfl
  | trySend _ _ => exact List.mem_of_elem_eq_true rfl
  | _ => cases h

/-- A value that takes the place of an instruction is the next payload of a frame, and the
others follow. -/
theorem handsData_origin (h : exec hub t ch i c = some e) {j : Instr V} (hj : j ∈ e.next)
    {id : SlotId} {item : Item V} (h_j : j.hands id = some item) (h_data : item.isData = true) :
    ∃ d d' payload payloads, i = .dispatchPayloads d ∧ d.payloads = (id, payload) :: payloads ∧
      item.origin = .frame d.conn d.frame ∧ e.next = [j, .dispatchPayloads d'] ∧
      d'.payloads = payloads ∧ d'.toDriving = d.toDriving ∧ d'.frame = d.frame := by
  -- a value is delivered by `deliver`, and only a decoded payload makes one with data
  cases j with
  | deliver scope target item' =>
    obtain ⟨rfl, rfl⟩ : target.id = id ∧ item' = item := by
      simp only [Instr.hands, Option.ite_none_right_eq_some, Option.some.injEq] at h_j
      exact h_j
    cases deliver_origin h hj with
    | payload d payload payloads value head owner decoded same item_eq =>
      subst same item_eq
      obtain rfl := Option.some.inj h
      refine ⟨d, { d with payloads := payloads, decodedAny := true }, payload, payloads, rfl, head,
        rfl, ?_, rfl, rfl, rfl⟩
      exact execPayload_decoded head owner decoded
    | refusal targets problem error listed first item_eq =>
      rw [item_eq] at h_data
      cases h_data
    | failure d error same item_eq =>
      rw [item_eq] at h_data
      cases h_data
  -- what `trySend` carries for a lagging slot is an error
  | trySend id' item' =>
    obtain ⟨rfl, rfl⟩ : id' = id ∧ item' = item := by
      simp only [Instr.hands, Option.ite_none_right_eq_some, Option.some.injEq] at h_j
      exact h_j
    obtain ⟨error, rfl⟩ := trySend_origin h hj
    cases h_data
  | _ => cases h_j

/-- **One frame at a time.** A connection is driven by one task; a value that is on its way
comes first in the list of its task, and the loop over the payloads of its frame goes on
behind it, with none left for the same slot. -/
structure Stepwise (c : Config V) : Prop where
  exclusive : Exclusive Instr.drives c
  first : ∀ t, ∀ i ∈ (c.todo t).tail, ∀ id item, i.hands id = some item → item.isData = false
  followed : ∀ t, ∀ i ∈ c.todo t, ∀ id item, i.hands id = some item → item.isData = true →
    ∃ d, .dispatchPayloads d ∈ c.todo t ∧ item.origin = .frame d.conn d.frame ∧
      id ∉ d.payloads.map Prod.fst

namespace Stepwise

/-- At the start nothing is driven. -/
theorem initial : Stepwise (initialConfig V) where
  exclusive _ _ _ _ _ h := absurd h List.not_mem_nil
  first _ _ h := absurd h List.not_mem_nil
  followed _ _ h := absurd h List.not_mem_nil

/-- A connection is driven by one task. -/
theorem step_exclusive (h_inv : Stepwise c) (h_est : Established c) (h_tal : Tallied c.store)
    (h : (hubProgram hub).step c a = some c') : Exclusive Instr.drives c' := by
  refine h_inv.exclusive.step h ?_ ?_
  · -- what follows in a task drives what the task drove, or starts a connection
    intro t ch i rest e h_todo he
    refine ⟨fun j hj conn h_j => ?_, fun t' is h_sp j hj => ?_⟩
    · obtain ⟨d, h_d, rfl⟩ := Option.map_eq_some_iff.mp h_j
      rcases exec_driving he j hj d h_d with h_i | ⟨scope, slots, rfl, -, h_conn, -⟩
      · exact Or.inl (Option.map_eq_some_iff.mpr ⟨d, h_i, rfl⟩)
      · -- a new connection has a new number
        refine Or.inr fun t' k hk h_k => ?_
        rw [h_conn] at h_k
        exact Nat.lt_irrefl _ (drives_lt h_est h_tal hk h_k)
    -- a new supervisor has not opened anything yet
    · obtain ⟨token, -, rfl, rfl⟩ := exec_spawned he h_sp
      have h_point := supervisorCode_points token j hj
      cases j <;> first
        | rfl
        | exact absurd h_point (Point.not_mem rfl)
  · intro r t e he
    obtain ⟨h_none, -, -, -, -, -, -, -, -, -, h_next⟩ := accept_frame he
    refine ⟨fun j hj => ?_, fun t' is h_sp => ?_⟩
    · have h_point := h_next j hj
      cases j <;> first
        | rfl
        | exact absurd h_point (Point.not_mem rfl)
    · rw [h_none] at h_sp
      cases h_sp

/-- A value that is on its way comes first. -/
theorem step_first (h_inv : Stepwise c) (h : (hubProgram hub).step c a = some c') :
    ∀ t, ∀ i ∈ (c'.todo t).tail, ∀ id item, i.hands id = some item → item.isData = false := by
  refine Program.forall_tail_of_step
    (motive := fun _ i => ∀ id item, i.hands id = some item → item.isData = false) h h_inv.first
    ?_ ?_
  · -- what an instruction puts behind its first one hands nothing over
    intro t ch i rest e _ h_todo he
    refine ⟨fun j hj id item h_j => ?_, fun t' is h_sp j hj id item h_j => ?_⟩
    · by_contra h_data
      obtain ⟨d, d', payload, payloads, -, -, -, h_next, -⟩ := handsData_origin he
        (List.mem_of_mem_tail hj) h_j (by simpa using h_data)
      rw [h_next] at hj
      obtain rfl := List.mem_singleton.mp hj
      cases h_j
    · obtain ⟨token, -, rfl, rfl⟩ := exec_spawned he h_sp
      exact absurd (supervisorCode_points token j (List.mem_of_mem_tail hj))
        (Point.disjoint rfl (point_of_hands h_j))
  · -- a request puts no hand-over in a task
    intro r t e _ he
    obtain ⟨h_none, -, -, -, -, -, -, -, -, -, h_next⟩ := accept_frame he
    refine ⟨fun j hj id item h_j => ?_, fun t' is h_sp => ?_⟩
    · exact absurd (h_next j (List.mem_of_mem_tail hj)) (Point.disjoint rfl (point_of_hands h_j))
    · rw [h_none] at h_sp
      cases h_sp

/-- The loop over the payloads of its frame goes on behind it. -/
theorem step_followed (h_inv : Stepwise c) (h_tok : Tokens c) (h_routing : Routing c)
    (h_aligned : Aligned c) (h : (hubProgram hub).step c a = some c') :
    ∀ t, ∀ i ∈ c'.todo t, ∀ id item, i.hands id = some item → item.isData = true →
      ∃ d, .dispatchPayloads d ∈ c'.todo t ∧ item.origin = .frame d.conn d.frame ∧
        id ∉ d.payloads.map Prod.fst := by
  intro t j hj id item h_j h_data
  have h_inner : j.point.begins = false := by
    cases j <;> first
      | rfl
      | cases h_j
  -- the hand-over was there, or this step decoded its payload
  rcases origin_step h hj h_inner with hj | ⟨ch, i, rest, e, rfl, h_todo, he, h_next⟩
  · obtain ⟨d, h_d, h_rest⟩ := h_inv.followed t j hj id item h_j h_data
    rcases h_tok.keep h h_d with h_d | ⟨ch, rest, -, h_todo⟩
    · exact ⟨d, h_d, h_rest⟩
    · -- the loop does not go on while the value stands before it
      rw [h_todo] at hj
      rcases List.mem_cons.mp hj with rfl | hj
      · cases h_j
      · rw [h_inv.first t j (by rw [h_todo]; exact hj) id item h_j] at h_data
        cases h_data
  -- `dispatchPayloads` took the payload from its list, which names no slot twice
  · obtain ⟨d, d', payload, payloads, rfl, h_head, h_origin, h_both, h_payloads, h_driving,
      h_frame⟩ := handsData_origin he h_next h_j h_data
    have h_mem : .dispatchPayloads d ∈ c.todo t := by
      rw [h_todo]
      exact List.mem_cons_self
    obtain ⟨response, r, -, h_route, h_suffix⟩ := h_routing.routed t _ h_mem d rfl
    have h_once := ((h_aligned t _ h_mem _ rfl).demultiplexed h_route).payloads_once
    have h_nodup := (h_suffix.sublist.map Prod.fst).nodup h_once
    rw [h_head] at h_nodup
    obtain rfl := Option.some.inj (h.symm.trans (Program.step_run h_todo he))
    refine ⟨d', ?_, ?_, ?_⟩
    · rw [resume_todo_self, h_both]
      exact List.mem_append_left _ (List.mem_cons_of_mem _ List.mem_cons_self)
    · rw [h_driving, h_frame]
      exact h_origin
    · rw [h_payloads]
      exact (List.nodup_cons.mp h_nodup).1

/-- The invariant along a run. -/
theorem reachable {Allowed : Config V → Action Task Choice (Request V) → Prop}
    (h : (hubProgram hub).Reachable (initialConfig V) Allowed c) : Stepwise c := by
  induction h with
  | init => exact initial
  | step reached _ fires ih =>
    exact ⟨ih.step_exclusive (Established.reachable reached) (Tallied.reachable reached) fires,
      ih.step_first fires, ih.step_followed (Sound.reachable reached).tokens
        (Routing.reachable reached) (Aligned.reachable reached) fires⟩

end Stepwise

/-! ### Payloads come in the order of their frames -/

/-- The payload of this frame was pushed into the queue of slot `id`. -/
def Store.Sent (s : Store V) (id : SlotId) (conn number : ℕ) : Prop :=
  ∃ item, .queued id item ∈ s.history ∧ item.isData = true ∧ item.origin = .frame conn number

/-- What is sent in a step was about to be handed over. -/
theorem sent_step (h : (hubProgram hub).step c a = some c') {id : SlotId} {conn number : ℕ}
    (h_sent : c'.store.Sent id conn number) : c.store.Sent id conn number ∨
      ∃ t i item, Runs c a t i ∧ i.hands id = some item ∧ item.isData = true ∧
        item.origin = .frame conn number := by
  obtain ⟨item, h_ev, h_data, h_origin⟩ := h_sent
  rcases queued_step h h_ev with h_old | ⟨t, i, h_runs, h_hands, -⟩
  · exact Or.inl ⟨item, h_old, h_data, h_origin⟩
  · exact Or.inr ⟨t, i, item, h_runs, h_hands, h_data, h_origin⟩

/-- What was pushed comes from a frame that was read. -/
theorem sent_lt (h_carry : Carrying c) (h_tal : Tallied c.store) {id : SlotId} {conn number : ℕ}
    (h_sent : c.store.Sent id conn number) : number < c.store.frames := by
  -- the value that was sent came from a frame that was read
  obtain ⟨item, h_ev, h_data, h_origin⟩ := h_sent
  cases h_event : item.event with
  | error error =>
    unfold Item.isData at h_data
    rw [h_event] at h_data
    cases h_data
  | data value =>
    obtain ⟨conn', number', h_origin', h_genuine⟩ := h_carry.queued id item h_ev value h_event
    obtain ⟨rfl, rfl⟩ := Origin.frame.inj (h_origin.symm.trans h_origin')
    obtain ⟨_, _, _, _, _, _, response, _, _, _, _, _, frame⟩ := h_genuine
    exact h_tal.frame_lt frame

/-- **Preceding.** The frames of a connection whose payloads were pushed for a slot precede
the one that `dispatch` works on, as far as it still has a payload for the slot, and those
whose payloads are on their way. -/
structure Preceding (c : Config V) : Prop where
  routed : ∀ t, ∀ i ∈ c.todo t, ∀ d, i.routing = some d → ∀ id number,
    c.store.Sent id d.conn number →
      number < d.frame ∨ (number = d.frame ∧ id ∉ d.payloads.map Prod.fst)
  handed : ∀ t, ∀ i ∈ c.todo t, ∀ id item, i.hands id = some item → item.isData = true →
    ∀ conn number number', item.origin = .frame conn number → c.store.Sent id conn number' →
      number' < number

namespace Preceding

/-- At the start nothing was sent. -/
theorem initial : Preceding (initialConfig V) where
  routed _ _ h := absurd h List.not_mem_nil
  handed _ _ h := absurd h List.not_mem_nil

/-- An instruction that hands nothing over pushes nothing. -/
theorem sent_old (h : (hubProgram hub).step c a = some c') (h_runs : Runs c a t i)
    (h_i : i.point ∉ [.deliver, .trySend]) {id : SlotId} {conn number : ℕ}
    (h_sent : c'.store.Sent id conn number) : c.store.Sent id conn number := by
  rcases sent_step h h_sent with h_old | ⟨t', i', item, h_runs', h_hands, -⟩
  · exact h_old
  · obtain ⟨-, rfl⟩ := h_runs.unique h_runs'
    exact absurd (point_of_hands h_hands) h_i

/-- What was sent to a slot is from frames before the one that is dispatched, or from its own turn.
-/
theorem step_routed (h_inv : Preceding c) (h_steps : Stepwise c) (h_seq : Sequential c)
    (h_carry : Carrying c) (h_tal : Tallied c.store) (h : (hubProgram hub).step c a = some c') :
    ∀ t, ∀ i ∈ c'.todo t, ∀ d, i.routing = some d → ∀ id number,
      c'.store.Sent id d.conn number →
        number < d.frame ∨ (number = d.frame ∧ id ∉ d.payloads.map Prod.fst) := by
  intro t j hj d h_j id number h_sent
  have h_inner : j.point.begins = false := by
    cases j <;> first
      | rfl
      | cases h_j
  -- the routing instruction was there before, or this step put it there
  rcases origin_step h hj h_inner with hj | ⟨ch, i, rest, e, rfl, h_todo, he, h_next⟩
  · rcases sent_step h h_sent with h_old | ⟨t₀, i₀, item, ⟨ch, rest, -, h_todo⟩, h_hands, h_data,
      h_origin⟩
    · exact h_inv.routed t j hj d h_j id number h_old
    · -- what was just pushed is followed by the rest of its frame, which is this one
      obtain ⟨d₀, h_d₀, h_origin₀, h_none⟩ := h_steps.followed t₀ i₀
        (by rw [h_todo]; exact List.mem_cons_self) id item h_hands h_data
      obtain ⟨h_conn, rfl⟩ := Origin.frame.inj (h_origin.symm.trans h_origin₀)
      have h_drives : j.drives = some d.conn := congrArg (Option.map _) (driving_of_routing h_j)
      obtain rfl : t = t₀ := h_steps.exclusive t t₀ j (.dispatchPayloads d₀) d.conn hj h_d₀ h_drives
        (congrArg some h_conn.symm)
      obtain rfl := routing_unique h_seq hj h_d₀ h_j rfl
      obtain rfl := Option.some.inj h_j
      exact Or.inr ⟨rfl, h_none⟩
  · have hi : i ∈ c.todo t := by
      rw [h_todo]
      exact List.mem_cons_self
    have h_runs : Runs c (.run t ch) t i := ⟨ch, rest, rfl, h_todo⟩
    rcases routing_origin he h_next h_j with
      ⟨driving, stall, response, r, rfl, -, rfl, -, -⟩ | ⟨d₀, rfl, rfl, -, -⟩ |
      ⟨d₀, p, rfl, -, h_payloads, h_driving, h_frame, -⟩
    · -- a frame that was just read is the last one
      exact Or.inl (sent_lt h_carry h_tal (sent_old h h_runs (Point.not_mem rfl) h_sent))
    · -- the liveness was read: the same frame with the same payloads
      exact h_inv.routed t _ hi d₀ rfl id number (sent_old h h_runs (Point.not_mem rfl) h_sent)
    · -- one payload was taken from the list, the others are still to come
      rw [h_driving] at h_sent
      rw [h_frame]
      refine (h_inv.routed t _ hi d₀ rfl id number
        (sent_old h h_runs (Point.not_mem rfl) h_sent)).imp_right fun ⟨h_eq, h_none⟩ => ?_
      rw [h_payloads, List.map_cons, List.mem_cons, not_or] at h_none
      exact ⟨h_eq, h_none.2⟩

/-- A value on its way is from a later frame than all that was sent. -/
theorem step_handed (h_inv : Preceding c) (h_steps : Stepwise c)
    (h : (hubProgram hub).step c a = some c') :
    ∀ t, ∀ i ∈ c'.todo t, ∀ id item, i.hands id = some item → item.isData = true →
      ∀ conn number number', item.origin = .frame conn number → c'.store.Sent id conn number' →
        number' < number := by
  intro t j hj id item h_j h_data conn number number' h_origin h_sent
  have h_inner : j.point.begins = false := by
    cases j <;> first
      | rfl
      | cases h_j
  -- the hand-over was there before, or this step decoded its payload
  rcases origin_step h hj h_inner with hj' | ⟨ch, i, rest, e, rfl, h_todo, he, h_next⟩
  · rcases sent_step h h_sent with h_old | ⟨t₀, i₀, item₀, h_runs, h_hands, h_data₀, h_origin₀⟩
    · exact h_inv.handed t j hj' id item h_j h_data conn number number' h_origin h_old
    · -- two values of one connection would both come first in the list of one task
      obtain ⟨ch, rest, e, rfl, h_todo, he, rfl⟩ := h_runs.exec h
      obtain ⟨d, h_d, h_d_origin, -⟩ := h_steps.followed t j hj' id item h_j h_data
      obtain ⟨d₀, h_d₀, h_d₀_origin, -⟩ := h_steps.followed t₀ i₀
        (by rw [h_todo]; exact List.mem_cons_self) id item₀ h_hands h_data₀
      have h_conn := (Origin.frame.inj (h_origin.symm.trans h_d_origin)).1
      have h_conn₀ := (Origin.frame.inj (h_origin₀.symm.trans h_d₀_origin)).1
      obtain rfl : t = t₀ := h_steps.exclusive t t₀ _ _ conn h_d h_d₀ (congrArg some h_conn.symm)
        (congrArg some h_conn₀.symm)
      rw [resume_todo_self] at hj
      rcases List.mem_append.mp hj with hj | hj
      · obtain ⟨_, _, _, _, rfl, -⟩ := handsData_origin he hj h_j h_data
        cases h_hands
      · rw [h_steps.first t j (by rw [h_todo]; exact hj) id item h_j] at h_data
        cases h_data
  · -- the slot's payload was still in the list, so it was sent nothing of this frame
    obtain ⟨d, d', payload, payloads, rfl, h_head, h_frame, -⟩ := handsData_origin he h_next h_j
      h_data
    obtain ⟨rfl, rfl⟩ := Origin.frame.inj (h_origin.symm.trans h_frame)
    have h_old := sent_old h ⟨ch, rest, rfl, h_todo⟩ (Point.not_mem rfl) h_sent
    rcases h_inv.routed t _ (by rw [h_todo]; exact List.mem_cons_self) d rfl id number' h_old with
      h_lt | ⟨-, h_none⟩
    · exact h_lt
    · -- the payload was still to be handed over
      refine absurd ?_ h_none
      rw [h_head]
      exact List.mem_cons_self

/-- The invariant along a run. -/
theorem reachable {Allowed : Config V → Action Task Choice (Request V) → Prop}
    (h : (hubProgram hub).Reachable (initialConfig V) Allowed c) : Preceding c := by
  induction h with
  | init => exact initial
  | step reached _ fires ih =>
    have h_steps := Stepwise.reachable reached
    exact ⟨ih.step_routed h_steps (Sequential.reachable reached) (Carrying.reachable reached)
      (Tallied.reachable reached) fires, ih.step_handed h_steps fires⟩

end Preceding

/-- The values of one connection come in the order of their frames. -/
def Item.Precedes (item item' : Item V) : Prop :=
  item.isData = true → item'.isData = true → ∀ conn number number',
    item.origin = .frame conn number → item'.origin = .frame conn number' → number < number'

/-- **Ascending.** The values of one connection were pushed in the order of their frames. -/
def Ascending (c : Config V) : Prop := ∀ id, (c.store.pushed id).Pairwise Item.Precedes

namespace Ascending

/-- A value is pushed behind those of earlier frames. -/
theorem step (h_inv : Ascending c) (h_pre : Preceding c)
    (h : (hubProgram hub).step c a = some c') : Ascending c' := by
  intro id
  cases traffic_step h id with
  -- only a push adds to what was pushed
  | same queue pushed received => exact pushed ▸ h_inv id
  | popped t item runs queue pushed received => exact pushed ▸ h_inv id
  | cleared closed pushed received => exact pushed ▸ h_inv id
  | pushed t i item runs hands queue pushed received =>
    -- the value that is pushed is later than every one before it
    rw [pushed]
    refine List.pairwise_append.mpr ⟨h_inv id, List.pairwise_singleton _ _, ?_⟩
    intro item' h_item' item'' h_item'' h_data' h_data conn number number' h_origin' h_origin
    obtain rfl := List.mem_singleton.mp h_item''
    obtain ⟨ch, rest, -, h_todo⟩ := runs
    exact h_pre.handed t i (by rw [h_todo]; exact List.mem_cons_self) id item'' hands h_data conn
      number' number h_origin ⟨item', mem_pushed.mp h_item', h_data', h_origin'⟩

/-- The invariant along a run. -/
theorem reachable {Allowed : Config V → Action Task Choice (Request V) → Prop}
    (h : (hubProgram hub).Reachable (initialConfig V) Allowed c) : Ascending c := by
  induction h with
  | init => exact fun _ => List.Pairwise.nil
  | step reached _ fires ih => exact ih.step (Preceding.reachable reached) fires

end Ascending

end Blokli
