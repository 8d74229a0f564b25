import BlokliClient.Hub.Documents
import BlokliClient.Route

/-!
# The connection that a supervisor drives

From `open_stream` until `drive` is left, the local variables of a supervisor
contain one connection. It was assembled by `build_connection` and never
changes, so what holds of every assembled connection holds of every connection
that is driven (`Aligned.reachable`): each of its aliases is `s<id>` for the slot
`id` it is mapped to, and no slot has two of them.
-/

namespace Blokli

open Worklist

variable {V : Type} {hub : HubConfig} {t : Task} {ch : Choice} {i : Instr V} {c c' : Config V}
  {e : Effect V} {a : Action Task Choice (Request V)}

/-- The connection that an instruction drives. -/
def Instr.driving : Instr V → Option (Driving V)
  | .openStream d | .stallWakeup d | .select d _ | .reconnectNeeded d | .leaveDrive d _
  | .malformedEvent d => some d
  | .readLive d | .dispatchPayloads d | .dispatchErrors d | .dispatchDocument d =>
    some d.toDriving
  | _ => none

/-- **Where a connection comes from.** It is handed on, or was just assembled. -/
theorem exec_driving (h : exec hub t ch i c = some e) : ∀ j ∈ e.next, ∀ d,
    j.driving = some d → i.driving = some d ∨
      ∃ scope slots, i = .build scope slots ∧ d.scope = scope ∧ d.conn = c.store.conns ∧
        (buildConnection slots).run = some (.ok d.connection) ∧
        e.store.history = .built c.store.conns scope slots d.connection c.store.state.ids ::
          c.store.history := by
  intro j hj d h_j
  cases i with
  | build scope slots =>
    simp only [exec, execBuild] at h
    split at h
    · cases h
    · -- the error path holds no connection
      obtain rfl := Option.some.inj h
      rcases List.mem_append.mp hj with hj | hj
      · obtain ⟨p, -, rfl⟩ := List.mem_map.mp hj
        cases h_j
      · rcases List.mem_cons.mp hj with rfl | hj
        · cases h_j
        · obtain rfl := List.mem_singleton.mp hj
          cases h_j
    -- a new connection, under the next number
    · next connection h_ok =>
      obtain rfl := Option.some.inj h
      obtain rfl := List.mem_singleton.mp hj
      obtain rfl := Option.some.inj h_j
      exact Or.inr ⟨scope, slots, rfl, rfl, rfl, h_ok, rfl⟩
  -- no other instruction makes a connection
  | _ =>
    left
    revert j
    simp only [exec, execReadCause, execTrySend, execOpenStream, execNext, execEvent,
      execStreamError, execLeaveDrive, execPayload, execSlotError, execDocument,
      execMalformedEvent, execReject, execDeliver, execReceive, malformedFrame] at h
    repeat' split at h
    all_goals first
      | (cases h; done)
      | (obtain rfl := Option.some.inj h
         clear h
         simp only [List.forall_mem_append, List.forall_mem_cons, List.forall_mem_map]
         repeat' apply And.intro
         all_goals first
           | exact fun h_j => h_j
           | exact List.forall_mem_nil _
           | (intro h_j; cases h_j; done)
           | (intro _ _ h_j; cases h_j))

/-- A pending instruction that drives a connection got it from one that did, or
the connection was just assembled. -/
theorem driving_step (h : (hubProgram hub).step c a = some c') {j : Instr V}
    (hj : j ∈ c'.todo t) {d : Driving V} (h_j : j.driving = some d) :
    (∃ i ∈ c.todo t, i.driving = some d) ∨
      ∃ slots, Runs c a t (.build d.scope slots) ∧ d.conn = c.store.conns ∧
        (buildConnection slots).run = some (.ok d.connection) := by
  have h_inner : j.point.begins = false := by
    cases j <;> first
      | rfl
      | cases h_j
  -- it was there, or some instruction made it
  rcases origin_step h hj h_inner with hj | ⟨ch, i, rest, e, ha, h_todo, he, hj⟩
  · exact Or.inl ⟨j, hj, h_j⟩
  · rcases exec_driving he j hj d h_j with h_i | ⟨scope, slots, rfl, rfl, h_conn, h_ok, -⟩
    · exact Or.inl ⟨i, by rw [h_todo]; exact List.mem_cons_self, h_i⟩
    · exact Or.inr ⟨slots, ⟨ch, rest, ha, h_todo⟩, h_conn, h_ok⟩

/-! ### Aliases and slots -/

/-- Every alias of a connection is that of its slot, and no slot has two. -/
structure Connection.Aligned (connection : Connection V) : Prop where
  aliased : Aliased connection.targets
  ids_nodup : connection.ids.Nodup

namespace Connection.Aligned

variable {connection : Connection V}

/-- No slot is the target of two aliases. -/
theorem slotsDistinct (h : connection.Aligned) : SlotsDistinct connection.targets := by
  have h_ids : connection.ids = connection.targets.map fun p => p.2.id := by
    unfold ids slotTargets
    rw [List.map_map]
    rfl
  unfold SlotsDistinct
  rw [← h_ids]
  exact h.ids_nodup

/-- No alias is in the document twice. -/
theorem keys_nodup (h : connection.Aligned) : (connection.targets.map Prod.fst).Nodup := by
  have h_keys : connection.targets.map Prod.fst = connection.ids.map aliasOfSlot := by
    -- each alias is that of its slot
    unfold ids slotTargets
    rw [List.map_map, List.map_map]
    exact List.map_congr_left fun p hp => h.aliased p hp
  rw [h_keys]
  exact h.ids_nodup.map fun _ _ h_eq => aliasOfSlot_inj h_eq

/-- `by_id` finds the target of a slot. -/
theorem byId_eq_some (h : connection.Aligned) {id : SlotId} {target : SlotTarget V} :
    connection.byId id = some target ↔ target ∈ connection.slotTargets ∧ target.id = id := by
  unfold byId
  constructor
  · intro h_find
    exact ⟨List.mem_of_find?_eq_some h_find, by simpa using List.find?_some h_find⟩
  · -- a target of the list is found by its id
    rintro ⟨h_mem, rfl⟩
    cases h_find : connection.slotTargets.find? fun target' => target'.id == target.id with
    | none =>
      have h_none := List.find?_eq_none.mp h_find target h_mem
      exact absurd (beq_self_eq_true target.id) h_none
    | some target' =>
      have h_id : target'.id = target.id := by simpa using List.find?_some h_find
      -- ids are distinct, so it is the same target
      have h_eq : target' = target := List.inj_on_of_nodup_map h.ids_nodup
        (List.mem_of_find?_eq_some h_find) h_mem h_id
      rw [h_eq]

/-- A frame of the connection is demultiplexed. -/
theorem demultiplexed (h : connection.Aligned) {response : GraphQlResponse} {r : Routed}
    (h_route : route response connection.targets = some r) :
    Demultiplexed connection.targets response.members (response.errors.getD []) r :=
  demultiplexed_of_route h.keys_nodup h.slotsDistinct h_route

end Connection.Aligned

/-- An assembled connection is aligned. -/
theorem buildConnection_aligned {slots : Snapshot V} {connection : Connection V}
    (h : (buildConnection slots).run = some (.ok connection))
    (h_nodup : (slots.map Prod.fst).Nodup) : connection.Aligned := by
  obtain ⟨h_aliased, h_perm, -⟩ := buildConnection_targets h h_nodup
  exact ⟨h_aliased, h_perm.nodup_iff.mpr h_nodup⟩

/-- Every connection that is driven is aligned. -/
def Aligned (c : Config V) : Prop :=
  ∀ t, ∀ i ∈ c.todo t, ∀ d, i.driving = some d → d.connection.Aligned

/-- There is no connection yet. -/
theorem Aligned.initial : Aligned (initialConfig V) := fun _ _ h => absurd h List.not_mem_nil

/-- A new connection is aligned, and the others do not change. -/
theorem Aligned.step (h_inv : Aligned c) (h_distinct : Distinct c)
    (h : (hubProgram hub).step c a = some c') : Aligned c' := by
  intro t j hj d h_j
  rcases driving_step h hj h_j with ⟨i, hi, h_i⟩ | ⟨slots, ⟨ch, rest, -, h_todo⟩, -, h_ok⟩
  · exact h_inv t i hi d h_i
  · -- a connection that was built in this step
    have h_nodup : (slots.map Prod.fst).Nodup :=
      h_distinct t (.build d.scope slots) (by rw [h_todo]; exact List.mem_cons_self) slots rfl
    exact buildConnection_aligned h_ok h_nodup

/-- In every reachable configuration, the connections are aligned. -/
theorem Aligned.reachable {Allowed : Config V → Action Task Choice (Request V) → Prop}
    (h : (hubProgram hub).Reachable (initialConfig V) Allowed c) : Aligned c := by
  induction h with
  | init => exact Aligned.initial
  | step reached _ fires ih => exact ih.step (Distinct.reachable reached) fires

end Blokli
