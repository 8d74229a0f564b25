import BlokliClient.Hub.Fates

/-!
# Frames that fail a slot

A frame fails a slot when it cannot be routed, or when it has a payload of the slot that its
decoder does not take, or errors of the slot. A slot that a frame of its connection failed
leaves the connection, or the connection is left; so no later frame of the connection hands
anything over to it.

* `Bars` is the reason why nothing more comes, told at the instruction that drives the
  connection: the slot left, the connection is being left, the turn of the slot is still to
  come, the slot is about to be isolated, or the rest of the frame is flagged. `Barring` is
  the invariant.
* `sent_before`: what a connection has for a slot is pushed without a gap, as long as
  nothing is dropped.
-/

namespace Blokli

open Worklist

variable {V : Type} {hub : HubConfig} {t : Task} {ch : Choice} {i : Instr V} {c c' : Config V}
  {e : Effect V} {a : Action Task Choice (Request V)}

/-! ### Frames that fail a slot -/

/-- The locals of `dispatch`. -/
def Instr.dispatches : Instr V → Option (Dispatching V)
  | .readLive d | .dispatchPayloads d | .dispatchErrors d | .dispatchDocument d => some d
  | _ => none

/-- There is a payload of the slot that its decoder does not take. -/
def Broken (connection : Connection V) (payloads : List (SlotId × Json)) (id : SlotId) : Prop :=
  ∃ payload target, (id, payload) ∈ payloads ∧ connection.byId id = some target ∧
    target.decode payload = none

/-- **A frame fails a slot.** -/
inductive Fails (response : GraphQlResponse) (connection : Connection V) (id : SlotId) : Prop
  | unroutable (none : route response connection.targets = none)
  | routed (r : Routed) (routes : route response connection.targets = some r)
      (fails : Broken connection r.payloads id ∨ id ∈ r.slotErrors.map Prod.fst)

/-- The turn of the slot is still to come. -/
def Instr.awaits (id : SlotId) : Instr V → Prop
  | .readLive d | .dispatchPayloads d =>
    Broken d.connection d.payloads id ∨ id ∈ d.slotErrors.map Prod.fst
  | .dispatchErrors d => id ∈ d.slotErrors.map Prod.fst
  | _ => False

/-- **Why nothing more comes** for a slot that frame `number` failed, told at instruction `i`
with `pre` before it, which drives `d`. -/
inductive Bars (s : Store V) (number : ℕ) (id : SlotId) (d : Driving V) (pre : List (Instr V))
    (i : Instr V) : Prop
  | gone (left : id ∉ s.state.scopeIds d.scope)
  | leaving (point : i.point ∈ [.malformedEvent, .leaveDrive])
  | awaited (working : Dispatching V) (dispatches : i.dispatches = some working)
      (frame : working.frame = number) (awaits : i.awaits id)
  | isolating (cause : IsolationCause) (shared : d.scope = .shared)
      (pending : .isolate id cause ∈ pre)
  | flagged (working : Dispatching V) (dispatches : i.dispatches = some working)
      (frame : working.frame = number) (flag : working.malformed = true ∨ working.rejected = true)

/-! ### Slots that left -/

/-- A slot that left a connection does not come back. -/
theorem gone_step (h_num : Numbered c) (h : (hubProgram hub).step c a = some c') {id : SlotId}
    {scope : Scope} (h_known : id < c.store.state.nextId)
    (h_gone : id ∉ c.store.state.scopeIds scope) : id ∉ c'.store.state.scopeIds scope := by
  intro h_mem
  obtain ⟨-, e', h_e', h_belongs⟩ := c'.store.state.mem_scopeIds.mp h_mem
  rcases slot_origin h h_e' with ⟨e, h_e⟩ | ⟨spec, created, -, h_new, -⟩
  · -- an old entry that belongs to the scope now has done so before
    exact h_gone (c.store.state.mem_scopeIds.mpr
      ⟨h_known, e, h_e, belongsTo_step h_num h h_e h_e' h_belongs⟩)
  · exact absurd h_known (h_new ▸ Nat.lt_irrefl _)

/-- A slot that was isolated is not on the shared connection. -/
theorem gone_of_isolate {id : SlotId} {cause : IsolationCause}
    (h : exec hub t ch (.isolate id cause) c = some e) : id ∉ e.store.state.scopeIds .shared := by
  intro h_mem
  obtain ⟨-, e', h_e', h_belongs⟩ := e.store.state.mem_scopeIds.mp h_mem
  have h_iso : e'.isolated = none := Option.isNone_iff_eq_none.mp h_belongs
  simp only [exec] at h
  split at h
  · next h_none =>
    obtain rfl := Option.some.inj h
    exact HubState.isolate_eq_none _ h_none h_e' h_iso
  · next state h_some =>
    obtain rfl := Option.some.inj h
    obtain ⟨e₀, h_e₀, -, rfl⟩ := HubState.isolate_eq_some _ h_some
    have h_slot : some e' = some { e₀ with isolated := some { supervisor := none, cause } } := by
      rw [← h_e']
      exact (HubState.modifySlot_slots_self _ _ _).trans (congrArg (Option.map _) h_e₀)
    rw [Option.some.inj h_slot] at h_iso
    cases h_iso

/-- A slot of a connection was registered before. -/
theorem known_of_built (h_est : Established c) (h_enl : Enlisted c) {conn : ℕ} {scope : Scope}
    {slots : Snapshot V} {connection : Connection V} {present : List SlotId}
    (h_built : .built conn scope slots connection present ∈ c.store.history) {id : SlotId}
    (h_id : id ∈ connection.ids) : id < c.store.state.nextId := by
  obtain ⟨h_ok, h_nodup⟩ := h_est.assembled _ _ _ _ _ h_built
  obtain ⟨-, h_perm, -⟩ := buildConnection_targets h_ok h_nodup
  obtain ⟨p, h_p, rfl⟩ := List.mem_map.mp (h_perm.mem_iff.mp h_id)
  obtain ⟨own, h_own, -⟩ := h_enl.documents _ _ _ _ _ h_built p h_p
  exact h_enl.handedOut _ own h_own

/-! ### One turn of a frame -/

/-- Of a list that ends with the one instruction that drives a connection. -/
theorem driving_last (init : List (Instr V)) {pre post : List (Instr V)} {i j : Instr V}
    {d : Driving V} (h : init ++ [i] = pre ++ j :: post) (h_init : ∀ k ∈ init, k.driving = none)
    (h_j : j.driving = some d) : pre = init ∧ j = i := by
  rcases List.append_eq_append_iff.mp h with ⟨l, rfl, h_l⟩ | ⟨l, rfl, h_l⟩
  · cases l with
    | nil => exact ⟨List.append_nil _, (List.cons.inj h_l).1.symm⟩
    | cons k l => exact absurd (List.cons.inj h_l).2 (by simp)
  · cases l with
    | nil => exact ⟨(List.append_nil _).symm, (List.cons.inj h_l).1⟩
    | cons k l =>
      -- what stands before the last one drives nothing
      obtain ⟨rfl, -⟩ := List.cons.inj h_l
      rw [h_init j (List.mem_append_right _ List.mem_cons_self)] at h_j
      cases h_j

variable {s : Store V} {number : ℕ} {id : SlotId} {pre post : List (Instr V)} {j : Instr V}
  {d : Dispatching V} {driving : Driving V}

/-- The owner of an alias takes its turn if it was live. -/
theorem target_of_live {target : SlotTarget V} (h_owner : d.connection.byId id = some target)
    (h_live : id ∈ d.live) : d.target id = some target := by
  unfold Dispatching.target
  rw [h_owner]
  exact Option.filter_eq_some_iff.mpr ⟨rfl, decide_eq_true h_live⟩

/-- What is left of the loop over the payloads still fails the slot. -/
theorem bars_of_rest (h_frame : d.frame = number)
    (h : (Broken d.connection d.payloads id ∨ id ∈ d.slotErrors.map Prod.fst) ∨
      d.malformed = true ∨ d.rejected = true) :
    Bars s number id driving pre (.dispatchPayloads d) := by
  rcases h with h_awaits | h_flag
  · exact .awaited d rfl h_frame h_awaits
  · exact .flagged d rfl h_frame h_flag

/-- **The turn of a payload.** -/
theorem bars_of_payload (h_next : execPayload d = pre ++ j :: post)
    (h_j : j.driving = some driving) (h_frame : d.frame = number)
    (h_live : id ∉ d.live → id ∉ s.state.scopeIds d.scope)
    (h : (Broken d.connection d.payloads id ∨ id ∈ d.slotErrors.map Prod.fst) ∨
      d.malformed = true ∨ d.rejected = true) :
    Bars s number id d.toDriving pre j := by
  unfold execPayload at h_next
  split at h_next
  · next h_payloads =>
    -- the loop is over
    obtain ⟨rfl, rfl⟩ := driving_last [] h_next (List.forall_mem_nil _) h_j
    rcases h with (⟨payload, target, h_mem, -⟩ | h_errors) | h_flag
    · rw [h_payloads] at h_mem
      exact absurd h_mem List.not_mem_nil
    · exact .awaited d rfl h_frame h_errors
    · exact .flagged d rfl h_frame h_flag
  · next id' payload payloads h_payloads =>
    -- the turn is that of another payload, or that at which the slot fails
    have h_turn : ((Broken d.connection payloads id ∨ id ∈ d.slotErrors.map Prod.fst) ∨
        d.malformed = true ∨ d.rejected = true) ∨
        ∃ target, id' = id ∧ d.connection.byId id = some target ∧ target.decode payload = none := by
      rcases h with (⟨payload', target, h_mem, h_owner, h_none⟩ | h_errors) | h_flag
      · rw [h_payloads] at h_mem
        rcases List.mem_cons.mp h_mem with h_eq | h_mem
        · obtain ⟨rfl, rfl⟩ := Prod.mk.inj h_eq
          exact Or.inr ⟨target, rfl, h_owner, h_none⟩
        · exact Or.inl (Or.inl (Or.inl ⟨payload', target, h_mem, h_owner, h_none⟩))
      · exact Or.inl (Or.inl (Or.inr h_errors))
      · exact Or.inl (Or.inr h_flag)
    dsimp only at h_next
    split at h_next
    · next h_target =>
      obtain ⟨rfl, rfl⟩ := driving_last [] h_next (List.forall_mem_nil _) h_j
      rcases h_turn with h_rest | ⟨target, rfl, h_owner, -⟩
      · exact bars_of_rest h_frame h_rest
      · -- the slot was not on the connection any more
        refine .gone (h_live fun h_mem => ?_)
        have h_some : d.target id' = some target := target_of_live h_owner h_mem
        have h_none : d.target id' = none := h_target
        rw [h_some] at h_none
        cases h_none
    · next target h_target =>
      have h_some : d.target id' = some target := h_target
      split at h_next
      · next value h_value =>
        obtain ⟨rfl, rfl⟩ := driving_last [_] h_next
          (List.forall_mem_singleton.mpr rfl) h_j
        rcases h_turn with h_rest | ⟨target', rfl, h_owner, h_none⟩
        · exact bars_of_rest h_frame h_rest
        · unfold Dispatching.target at h_some
          rw [h_owner] at h_some
          obtain ⟨h_eq, -⟩ := Option.filter_eq_some_iff.mp h_some
          rw [← Option.some.inj h_eq, h_none] at h_value
          cases h_value
      · split at h_next
        · next h_scope =>
          obtain ⟨rfl, rfl⟩ := driving_last [_, _] h_next
            (List.forall_mem_cons.mpr ⟨rfl, List.forall_mem_singleton.mpr rfl⟩) h_j
          rcases h_turn with h_rest | ⟨target', rfl, -, -⟩
          · exact bars_of_rest h_frame h_rest
          · exact .isolating .malformed h_scope (List.mem_cons_of_mem _ List.mem_cons_self)
        · obtain ⟨rfl, rfl⟩ := driving_last [_] h_next
            (List.forall_mem_singleton.mpr rfl) h_j
          exact .flagged _ rfl h_frame (Or.inl rfl)

/-- What is left of the loop over the errors still fails the slot. -/
theorem bars_of_errors (h_frame : d.frame = number)
    (h : id ∈ d.slotErrors.map Prod.fst ∨ d.malformed = true ∨ d.rejected = true) :
    Bars s number id driving pre (.dispatchErrors d) := by
  rcases h with h_awaits | h_flag
  · exact .awaited d rfl h_frame h_awaits
  · exact .flagged d rfl h_frame h_flag

/-- **The turn of the errors of a slot.** -/
theorem bars_of_slotError (h_next : execSlotError d = pre ++ j :: post)
    (h_j : j.driving = some driving) (h_frame : d.frame = number)
    (h_live : id ∉ d.live → id ∉ s.state.scopeIds d.scope)
    (h_owner : ∃ target, d.connection.byId id = some target)
    (h : id ∈ d.slotErrors.map Prod.fst ∨ d.malformed = true ∨ d.rejected = true) :
    Bars s number id d.toDriving pre j := by
  unfold execSlotError at h_next
  split at h_next
  · next h_errors =>
    -- the loop is over: the frame was flagged
    have h_flag : d.malformed = true ∨ d.rejected = true := by
      rcases h with h_mem | h_flag
      · rw [h_errors] at h_mem
        exact absurd h_mem List.not_mem_nil
      · exact h_flag
    split at h_next
    · obtain ⟨rfl, rfl⟩ := driving_last [_] h_next
        (List.forall_mem_singleton.mpr rfl) h_j
      exact .flagged d rfl h_frame h_flag
    · obtain ⟨rfl, rfl⟩ := driving_last [] h_next (List.forall_mem_nil _) h_j
      exact .flagged d rfl h_frame h_flag
  · next id' errors slotErrors h_errors =>
    -- the turn is that of another slot, or of this one
    have h_turn : (id ∈ slotErrors.map Prod.fst ∨ d.malformed = true ∨ d.rejected = true) ∨
        id' = id := by
      rcases h with h_mem | h_flag
      · rw [h_errors, List.map_cons] at h_mem
        rcases List.mem_cons.mp h_mem with rfl | h_mem
        · exact Or.inr rfl
        · exact Or.inl (Or.inl h_mem)
      · exact Or.inl (Or.inr h_flag)
    dsimp only at h_next
    split at h_next
    · next h_target =>
      obtain ⟨rfl, rfl⟩ := driving_last [] h_next (List.forall_mem_nil _) h_j
      rcases h_turn with h_rest | rfl
      · exact bars_of_errors h_frame h_rest
      · refine .gone (h_live fun h_mem => ?_)
        obtain ⟨target, h_owner⟩ := h_owner
        have h_some : d.target id' = some target := target_of_live h_owner h_mem
        have h_none : d.target id' = none := h_target
        rw [h_some] at h_none
        cases h_none
    · split at h_next
      · next h_scope =>
        -- on the shared connection the slot is isolated
        obtain ⟨rfl, rfl⟩ := driving_last [_, _] h_next
          (List.forall_mem_cons.mpr ⟨rfl, List.forall_mem_singleton.mpr rfl⟩) h_j
        rcases h_turn with h_rest | rfl
        · exact bars_of_errors h_frame h_rest
        · exact .isolating .rejected h_scope (List.mem_cons_of_mem _ List.mem_cons_self)
      · -- on its own the frame is flagged
        obtain ⟨rfl, rfl⟩ := driving_last [_] h_next
          (List.forall_mem_singleton.mpr rfl) h_j
        exact .flagged _ rfl h_frame (Or.inr rfl)

/-- At the end of a flagged frame, the connection is left. -/
theorem bars_of_document {hub : HubConfig} {e : Effect V}
    (h_exec : execDocument hub t d c.store = e) (h_next : e.next = pre ++ j :: post)
    (h_j : j.driving = some driving) (h : d.malformed = true ∨ d.rejected = true) :
    j.point ∈ [.malformedEvent, .leaveDrive] := by
  subst h_exec
  unfold execDocument at h_next
  split at h_next
  · obtain ⟨-, rfl⟩ := driving_last [_] h_next (List.forall_mem_singleton.mpr rfl) h_j
    exact List.mem_of_elem_eq_true rfl
  · split at h_next
    · obtain ⟨-, rfl⟩ := driving_last [] h_next (List.forall_mem_nil _) h_j
      exact List.mem_of_elem_eq_true rfl
    · next h_sound =>
      dsimp only at h_next
      split at h_next
      · obtain ⟨-, rfl⟩ := driving_last [] h_next (List.forall_mem_nil _) h_j
        exact List.mem_of_elem_eq_true rfl
      · next h_accepted => exact absurd h (by simp [h_sound, h_accepted])

/-! ### Slots that were not live -/

/-- The loop over the payloads goes on with the slots that were live at its start. -/
theorem execPayload_live {j : Instr V} {d d' : Dispatching V} (hj : j ∈ execPayload d)
    (h_j : j.dispatches = some d') : d'.toDriving = d.toDriving ∧ d'.live = d.live := by
  unfold execPayload at hj
  split at hj
  · obtain rfl := List.mem_singleton.mp hj
    obtain rfl := Option.some.inj h_j
    exact ⟨rfl, rfl⟩
  · dsimp only at hj
    repeat' split at hj
    all_goals
      simp only [List.mem_cons, List.not_mem_nil, or_false] at hj
      rcases hj with rfl | rfl | rfl <;> first
        | cases h_j; done
        | (obtain rfl := Option.some.inj h_j; exact ⟨rfl, rfl⟩)

/-- So does the loop over the errors. -/
theorem execSlotError_live {j : Instr V} {d d' : Dispatching V} (hj : j ∈ execSlotError d)
    (h_j : j.dispatches = some d') : d'.toDriving = d.toDriving ∧ d'.live = d.live := by
  unfold execSlotError at hj
  split at hj
  · split at hj
    all_goals
      simp only [List.mem_cons, List.not_mem_nil, or_false] at hj
      rcases hj with rfl | rfl <;> first
        | cases h_j; done
        | (obtain rfl := Option.some.inj h_j; exact ⟨rfl, rfl⟩)
  · dsimp only at hj
    repeat' split at hj
    all_goals
      simp only [List.mem_cons, List.not_mem_nil, or_false] at hj
      rcases hj with rfl | rfl | rfl <;> first
        | cases h_j; done
        | (obtain rfl := Option.some.inj h_j; exact ⟨rfl, rfl⟩)

/-- The loops of `dispatch` come from each other, or from the frame whose slots were read. -/
theorem loops_origin (h : exec hub t ch i c = some e) {j : Instr V} (hj : j ∈ e.next)
    {d : Dispatching V} (h_j : j.dispatches = some d)
    (h_point : j.point ∈ [.dispatchPayloads, .dispatchErrors]) :
    (∃ d₀, i = .readLive d₀ ∧ d = { d₀ with live := c.store.state.scopeIds d₀.scope }) ∨
    ∃ d₀, i.dispatches = some d₀ ∧ i.point ∈ [.dispatchPayloads, .dispatchErrors] ∧
      d.toDriving = d₀.toDriving ∧ d.live = d₀.live := by
  have h_succ := exec_successors h _ hj
  cases i with
  | readLive d₀ =>
    obtain rfl := Option.some.inj h
    obtain rfl := List.mem_singleton.mp hj
    exact Or.inl ⟨d₀, rfl, (Option.some.inj h_j).symm⟩
  | dispatchPayloads d₀ =>
    obtain rfl := Option.some.inj h
    exact Or.inr ⟨d₀, rfl, List.mem_of_elem_eq_true rfl, execPayload_live hj h_j⟩
  | dispatchErrors d₀ =>
    obtain rfl := Option.some.inj h
    exact Or.inr ⟨d₀, rfl, List.mem_of_elem_eq_true rfl, execSlotError_live hj h_j⟩
  | _ => exact absurd h_succ (Point.disjoint rfl h_point)

/-- The working of an instruction drives what the instruction drives. -/
theorem driving_of_dispatches {d : Dispatching V} (h : i.dispatches = some d) :
    i.driving = some d.toDriving := by
  cases i with
  | readLive _ | dispatchPayloads _ | dispatchErrors _ | dispatchDocument _ =>
    obtain rfl := Option.some.inj h
    rfl
  | _ => cases h

/-- **Stale.** The slots of a connection that were not live when a frame was dispatched are
not on the connection. -/
def Stale (c : Config V) : Prop :=
  ∀ t, ∀ i ∈ c.todo t, ∀ d, i.dispatches = some d →
    i.point ∈ [.dispatchPayloads, .dispatchErrors] → ∀ id ∈ d.connection.ids, id ∉ d.live →
      id ∉ c.store.state.scopeIds d.scope

namespace Stale

/-- A slot that left does not come back. -/
theorem step (h_inv : Stale c) (h_est : Established c) (h_enl : Enlisted c) (h_num : Numbered c)
    (h : (hubProgram hub).step c a = some c') : Stale c' := by
  intro t j hj d h_j h_point id h_id h_live
  have h_inner : j.point.begins = false := by
    cases j <;> first
      | rfl
      | cases h_j
  -- a slot of a connection that is driven was registered before
  have h_known : ∀ i ∈ c.todo t, ∀ d₀ : Dispatching V, i.dispatches = some d₀ →
      d.toDriving = d₀.toDriving → id < c.store.state.nextId := by
    intro i hi d₀ h_i h_driving
    obtain ⟨slots, present, h_built⟩ := h_est.driven t i hi _ (driving_of_dispatches h_i)
    rw [← h_driving] at h_built
    exact known_of_built h_est h_enl h_built h_id
  rcases origin_step h hj h_inner with hj | ⟨ch, i, rest, e, rfl, h_todo, he, h_next⟩
  · exact gone_step h_num h (h_known j hj d h_j rfl) (h_inv t j hj d h_j h_point id h_id h_live)
  · have hi : i ∈ c.todo t := by
      rw [h_todo]
      exact List.mem_cons_self
    rcases loops_origin he h_next h_j h_point with ⟨d₀, rfl, rfl⟩ |
      ⟨d₀, h_i, h_i_point, h_driving, h_same⟩
    · exact gone_step h_num h (h_known _ hi d₀ rfl rfl) h_live
    · have h_connection : d.connection = d₀.connection := congrArg Driving.connection h_driving
      have h_scope : d.scope = d₀.scope := congrArg Driving.scope h_driving
      have h_gone := h_inv t i hi d₀ h_i h_i_point id (h_connection ▸ h_id) (h_same ▸ h_live)
      rw [h_scope]
      exact gone_step h_num h (h_known i hi d₀ h_i h_driving) h_gone

/-- The invariant along a run. -/
theorem reachable {Allowed : Config V → Action Task Choice (Request V) → Prop}
    (h : (hubProgram hub).Reachable (initialConfig V) Allowed c) : Stale c := by
  induction h with
  | init => exact fun _ _ h => absurd h List.not_mem_nil
  | step reached _ fires ih =>
    exact ih.step (Established.reachable reached) (Enlisted.reachable reached)
      (Sound.reachable reached).numbered fires

end Stale

/-! ### The invariant -/

/-- **One step of the connection**: the reason is handed on to the next instruction that
drives it. -/
theorem Bars.turn {d : Driving V} (h_bars : Bars c.store number id d [] i)
    (he : exec hub t ch i c = some e) (h_next : e.next = pre ++ j :: post)
    (h_i : i.driving = some d) (h_j : j.driving = some d)
    (h_stale : ∀ working, i.dispatches = some working →
      i.point ∈ [.dispatchPayloads, .dispatchErrors] → id ∉ working.live →
        id ∉ c.store.state.scopeIds working.scope)
    (h_owner : ∃ target, d.connection.byId id = some target)
    (h_gone : id ∉ c.store.state.scopeIds d.scope → id ∉ e.store.state.scopeIds d.scope) :
    Bars e.store number id d pre j := by
  have h_succ := exec_successors he j (by
    rw [h_next]
    exact List.mem_append_right _ List.mem_cons_self)
  cases h_bars with
  | gone left => exact .gone (h_gone left)
  | isolating cause shared pending => exact absurd pending List.not_mem_nil
  | leaving point =>
    -- a malformed event leads out of the connection, and the way out drives nothing
    cases i with
    | malformedEvent d' =>
      obtain h_point := List.mem_singleton.mp h_succ
      exact .leaving (by rw [h_point]; exact List.mem_of_elem_eq_true rfl)
    | leaveDrive d' outcome =>
      cases j <;> first
        | cases h_j; done
        | exact absurd h_succ (Point.not_mem rfl)
    | _ => exact absurd point (Point.not_mem rfl)
  | awaited working dispatches frame awaits =>
    cases i with
    | readLive d' =>
      obtain rfl := Option.some.inj dispatches
      obtain rfl := Option.some.inj h_i
      obtain rfl := Option.some.inj he
      obtain ⟨rfl, rfl⟩ := driving_last [] h_next (List.forall_mem_nil _) h_j
      -- the slots are read, the frame is as it was
      exact .awaited _ rfl frame awaits
    | dispatchPayloads d' =>
      obtain rfl := Option.some.inj dispatches
      obtain rfl := Option.some.inj h_i
      obtain rfl := Option.some.inj he
      exact bars_of_payload h_next h_j frame
        (h_stale d' rfl (List.mem_of_elem_eq_true rfl)) (Or.inl awaits)
    | dispatchErrors d' =>
      obtain rfl := Option.some.inj dispatches
      obtain rfl := Option.some.inj h_i
      obtain rfl := Option.some.inj he
      exact bars_of_slotError h_next h_j frame
        (h_stale d' rfl (List.mem_of_elem_eq_true rfl)) h_owner (Or.inl awaits)
    | _ => exact awaits.elim
  | flagged working dispatches frame flag =>
    cases i with
    | readLive d' =>
      obtain rfl := Option.some.inj dispatches
      obtain rfl := Option.some.inj h_i
      obtain rfl := Option.some.inj he
      obtain ⟨rfl, rfl⟩ := driving_last [] h_next (List.forall_mem_nil _) h_j
      exact .flagged _ rfl frame flag
    | dispatchPayloads d' =>
      obtain rfl := Option.some.inj dispatches
      obtain rfl := Option.some.inj h_i
      obtain rfl := Option.some.inj he
      exact bars_of_payload h_next h_j frame
        (h_stale d' rfl (List.mem_of_elem_eq_true rfl)) (Or.inr flag)
    | dispatchErrors d' =>
      obtain rfl := Option.some.inj dispatches
      obtain rfl := Option.some.inj h_i
      obtain rfl := Option.some.inj he
      exact bars_of_slotError h_next h_j frame
        (h_stale d' rfl (List.mem_of_elem_eq_true rfl)) h_owner (Or.inr flag)
    | dispatchDocument d' =>
      -- the end of the frame looks at the flags
      obtain rfl := Option.some.inj dispatches
      exact .leaving (bars_of_document (Option.some.inj he) h_next h_j flag)
    | _ => cases dispatches

/-- **The frame that fails the slot** is read: the turn of the slot is to come, or the
connection is left. -/
theorem bars_of_read {d : Driving V} {response : GraphQlResponse}
    (h_next : (execEvent d (some response) s).next = pre ++ j :: post)
    (h_j : j.driving = some d) (h_fails : Fails response d.connection id) {s' : Store V} :
    Bars s' s.frames id d pre j := by
  unfold execEvent malformedFrame at h_next
  dsimp only at h_next
  cases h_fails with
  | unroutable none =>
    rw [none] at h_next
    obtain ⟨-, rfl⟩ := driving_last [_] h_next (List.forall_mem_singleton.mpr rfl) h_j
    exact .leaving (List.mem_of_elem_eq_true rfl)
  | routed r routes fails =>
    rw [routes] at h_next
    obtain ⟨-, rfl⟩ := driving_last [] h_next (List.forall_mem_nil _) h_j
    exact .awaited (d.dispatching s.frames r) rfl rfl fails

/-- A reason stays while other instructions run, unless the slot leaves by one of them. -/
theorem Bars.mono {s' : Store V} {pre' : List (Instr V)} (h : Bars s number id driving pre j)
    (h_gone : id ∉ s.state.scopeIds driving.scope → id ∉ s'.state.scopeIds driving.scope)
    (h_pre : ∀ cause, driving.scope = .shared → .isolate id cause ∈ pre →
      .isolate id cause ∈ pre' ∨ id ∉ s'.state.scopeIds driving.scope) :
    Bars s' number id driving pre' j := by
  cases h with
  | gone left => exact .gone (h_gone left)
  | leaving point => exact .leaving point
  | awaited working dispatches frame awaits => exact .awaited working dispatches frame awaits
  | flagged working dispatches frame flag => exact .flagged working dispatches frame flag
  | isolating cause shared pending =>
    rcases h_pre cause shared pending with h_mem | h_left
    · exact .isolating cause shared h_mem
    · exact .gone h_left

/-- A connection is asked whether it is still needed at once. -/
theorem reconnectNeeded_first (h : (hubProgram hub).Reachable (initialConfig V) Program.anyStep c) :
    ∀ t, ∀ i ∈ (c.todo t).tail, i.point ≠ .reconnectNeeded := by
  induction h with
  | init => exact fun _ _ h => absurd h List.not_mem_nil
  | step _ _ fires ih =>
    refine Program.forall_tail_of_step (motive := fun _ i => i.point ≠ .reconnectNeeded) fires ih
      ?_ ?_
    · intro t ch i rest e _ h_todo he
      refine ⟨fun j hj h_j => ?_, fun t' is h_sp j hj h_j => ?_⟩
      · have h_succ := exec_successors he j (List.mem_of_mem_tail hj)
        rw [h_j] at h_succ
        cases i with
        -- only a turn of `select` asks, and it has nothing else to do
        | select d stall =>
          change exec hub t ch (.select d stall) _ = some e at he
          simp only [exec, execNext, execEvent, execStreamError, malformedFrame] at he
          repeat' split at he
          all_goals first
            | (cases he; done)
            | (obtain rfl := Option.some.inj he
               exact absurd hj List.not_mem_nil)
            | (obtain rfl := Option.some.inj he
               obtain rfl := List.mem_singleton.mp hj
               cases h_j)
        | _ => exact absurd h_succ (Point.not_mem rfl)
      · obtain ⟨token, -, rfl, rfl⟩ := exec_spawned he h_sp
        have h_point := supervisorCode_points token j (List.mem_of_mem_tail hj)
        rw [h_j] at h_point
        exact absurd h_point (Point.not_mem rfl)
    · intro r t e _ he
      obtain ⟨h_none, -, -, -, -, -, -, -, -, -, h_next⟩ := accept_frame he
      refine ⟨fun j hj h_j => ?_, fun t' is h_sp => ?_⟩
      · have h_point := h_next j (List.mem_of_mem_tail hj)
        rw [h_j] at h_point
        exact absurd h_point (Point.not_mem rfl)
      · rw [h_none] at h_sp
        cases h_sp

/-- **Barring.** Once a frame failed a slot, its connection has nothing more for it. -/
def Barring (c : Config V) : Prop :=
  ∀ number conn response, .frame number conn response ∈ c.store.history →
    ∀ t pre i post, c.todo t = pre ++ i :: post → ∀ d, i.driving = some d → d.conn = conn →
      ∀ id ∈ d.connection.ids, Fails response d.connection id → Bars c.store number id d pre i

namespace Barring

/-- A frame that is new was read by the task that ran, from the connection that it drives. -/
theorem frame_new (h : (hubProgram hub).step c a = some c') {number conn : ℕ}
    {response : GraphQlResponse}
    (h_frame : .frame number conn response ∈ c'.store.history) :
    .frame number conn response ∈ c.store.history ∨ ∃ t d stall rest,
      a = .run t (.next (some (.event (some response)))) ∧
      c.todo t = .select d stall :: rest ∧ conn = d.conn ∧ number = c.store.frames := by
  rcases describes_step h h_frame with h_old | ⟨t, ch, i, rest, e, h_a, h_todo, -, -, d, stall,
    rfl, rfl, h_conn, h_number⟩ | ⟨spec, created, -, h_eq⟩
  · exact Or.inl h_old
  · exact Or.inr ⟨t, d, stall, rest, h_a, h_todo, h_conn, h_number⟩
  · cases h_eq

section Step

variable (h_inv : Barring c)
  (h_reach : (hubProgram hub).Reachable (initialConfig V) Program.anyStep c)
  (h : (hubProgram hub).step c a = some c')

include h_reach

/-- A slot of a connection that is driven was registered, and has a target in it. -/
theorem known {i : Instr V} (hi : i ∈ c.todo t) {d : Driving V} (h_i : i.driving = some d)
    {id : SlotId} (h_id : id ∈ d.connection.ids) :
    id < c.store.state.nextId ∧ ∃ target, d.connection.byId id = some target := by
  have h_est := Established.reachable h_reach
  obtain ⟨slots, present, h_built⟩ := h_est.driven t i hi d h_i
  refine ⟨known_of_built h_est (Enlisted.reachable h_reach) h_built h_id, ?_⟩
  obtain ⟨target, h_target, h_eq⟩ := List.mem_map.mp h_id
  exact ⟨target, ((Aligned.reachable h_reach t i hi d h_i).byId_eq_some).mpr ⟨h_target, h_eq⟩⟩

include h

/-- The connection keeps away from the slot once it is gone. -/
theorem gone_driven {i : Instr V} (hi : i ∈ c.todo t) {d : Driving V} (h_i : i.driving = some d)
    {id : SlotId} (h_id : id ∈ d.connection.ids) (h_gone : id ∉ c.store.state.scopeIds d.scope) :
    id ∉ c'.store.state.scopeIds d.scope :=
  gone_step (Sound.reachable h_reach).numbered h (known h_reach hi h_i h_id).1 h_gone

include h_inv

/-- An instruction behind the one that ran. -/
theorem step_behind {i : Instr V} {rest l post : List (Instr V)} {j : Instr V}
    (he : exec hub t ch i c = some e) (h_todo : c.todo t = i :: rest) (h_a : a = .run t ch)
    (h_c' : c' = c.resume t rest e) (h_rest : rest = l ++ j :: post) {number conn : ℕ}
    {response : GraphQlResponse} (h_frame : .frame number conn response ∈ c'.store.history)
    {d : Driving V} (h_j : j.driving = some d) (h_conn : d.conn = conn) {id : SlotId}
    (h_id : id ∈ d.connection.ids) (h_fails : Fails response d.connection id) :
    Bars c'.store number id d (e.next ++ l) j := by
  subst h_rest
  have h_mem : j ∈ c.todo t := by
    rw [h_todo]
    exact List.mem_cons_of_mem _ (List.mem_append_right _ List.mem_cons_self)
  rcases frame_new h h_frame with h_old | ⟨t', d', stall, rest', h_a', h_todo', -, -⟩
  · refine (h_inv number conn response h_old t (i :: l) j post h_todo d h_j h_conn id h_id
      h_fails).mono (gone_driven h_reach h h_mem h_j h_id) fun cause h_shared h_pending => ?_
    rcases List.mem_cons.mp h_pending with rfl | h_pending
    · -- the slot was isolated by this step
      right
      rw [h_c', h_shared]
      exact gone_of_isolate he
    · exact Or.inl (List.mem_append_right _ h_pending)
  · -- behind the instruction that reads a frame, the connection is only left
    obtain ⟨rfl, rfl⟩ : t' = t ∧ i = .select d' stall := by
      obtain ⟨rfl, -⟩ := Action.run.inj (h_a'.symm.trans h_a)
      exact ⟨rfl, (List.cons.inj (h_todo.symm.trans h_todo')).1⟩
    have h_seq := Sequential.reachable h_reach t'
    rw [h_todo] at h_seq
    have h_document := List.rel_of_pairwise_cons h_seq
      (List.mem_append_right l (List.mem_cons_self (a := j) (l := post))) rfl
    have h_first := reconnectNeeded_first h_reach t' j (by
      rw [h_todo]
      exact List.mem_append_right _ List.mem_cons_self)
    cases j <;> first
      | cases h_j; done
      | cases h_document; done
      | exact absurd rfl h_first
      | exact .leaving (List.mem_of_elem_eq_true rfl)

/-- An instruction that takes the place of the one that ran. -/
theorem step_next {i : Instr V} {rest pre post : List (Instr V)} {j : Instr V}
    (he : exec hub t ch i c = some e) (h_todo : c.todo t = i :: rest) (h_a : a = .run t ch)
    (h_c' : c' = c.resume t rest e) (h_next : e.next = pre ++ j :: post) {number conn : ℕ}
    {response : GraphQlResponse} (h_frame : .frame number conn response ∈ c'.store.history)
    {d : Driving V} (h_j : j.driving = some d) (h_conn : d.conn = conn) {id : SlotId}
    (h_id : id ∈ d.connection.ids) (h_fails : Fails response d.connection id) :
    Bars c'.store number id d pre j := by
  have h_mem : i ∈ c.todo t := by
    rw [h_todo]
    exact List.mem_cons_self
  have h_next_mem : j ∈ e.next := by
    rw [h_next]
    exact List.mem_append_right _ List.mem_cons_self
  have h_new := frame_new h h_frame
  rcases exec_driving he j h_next_mem d h_j with h_i | ⟨scope, slots, rfl, -, h_number, -, -⟩
  · rcases h_new with h_old | ⟨t', d', stall, rest', h_a', h_todo', -, rfl⟩
    · -- the connection goes on with the frame, or after it
      have h_bars :=
        h_inv number conn response h_old t [] i rest h_todo d h_i h_conn id h_id h_fails
      rw [h_c']
      refine h_bars.turn he h_next h_i h_j ?_ (known h_reach h_mem h_i h_id).2 ?_
      · intro working h_working h_point h_live
        have h_driving := Option.some.inj ((driving_of_dispatches h_working).symm.trans h_i)
        exact Stale.reachable h_reach t i h_mem working h_working h_point id (h_driving ▸ h_id)
          h_live
      · intro h_gone
        have h_gone' := gone_driven h_reach h h_mem h_i h_id h_gone
        rw [h_c'] at h_gone'
        exact h_gone'
    · -- the frame was read by this step
      obtain ⟨rfl, rfl⟩ := Action.run.inj (h_a'.symm.trans h_a)
      obtain rfl := (List.cons.inj (h_todo.symm.trans h_todo')).1
      obtain rfl := Option.some.inj h_i
      obtain rfl := Option.some.inj he
      exact bars_of_read h_next h_j h_fails
  · -- a connection that was just built read nothing
    rcases h_new with h_old | ⟨t', d', stall, rest', h_a', h_todo', -, -⟩
    · obtain ⟨scope', slots', connection', present', h_built⟩ :=
        (Fated.reachable h_reach).read number conn response h_old
      have h_lt := (Tallied.reachable h_reach).built_lt h_built
      rw [← h_conn, h_number] at h_lt
      exact absurd h_lt (Nat.lt_irrefl _)
    · obtain ⟨rfl, -⟩ := Action.run.inj (h_a'.symm.trans h_a)
      cases (List.cons.inj (h_todo.symm.trans h_todo')).1

/-- An instruction of another task. -/
theorem step_other {t' : Task} {pre post : List (Instr V)} {j : Instr V}
    (h_todo : c.todo t' = pre ++ j :: post) (h_other : ∀ ch, a ≠ .run t' ch) {number conn : ℕ}
    {response : GraphQlResponse} (h_frame : .frame number conn response ∈ c'.store.history)
    {d : Driving V} (h_j : j.driving = some d) (h_conn : d.conn = conn) {id : SlotId}
    (h_id : id ∈ d.connection.ids) (h_fails : Fails response d.connection id) :
    Bars c'.store number id d pre j := by
  have h_mem : j ∈ c.todo t' := by
    rw [h_todo]
    exact List.mem_append_right _ List.mem_cons_self
  rcases frame_new h h_frame with h_old | ⟨t, d', stall, rest, rfl, h_todo', h_eq, -⟩
  · exact (h_inv number conn response h_old t' pre j post h_todo d h_j h_conn id h_id h_fails).mono
      (gone_driven h_reach h h_mem h_j h_id) fun _ _ h_pending => Or.inl h_pending
  · -- the connection is driven by one task
    obtain rfl : t' = t := (Stepwise.reachable h_reach).exclusive t' t j (.select d' stall) conn
      h_mem (by rw [h_todo']; exact List.mem_cons_self)
      (by rw [Instr.drives, h_j, Option.map_some, h_conn]) (by rw [h_eq]; rfl)
    exact absurd rfl (h_other _)

/-- One step. -/
theorem step : Barring c' := by
  intro number conn response h_frame t' pre j post h_todo' d h_j h_conn id h_id h_fails
  rcases Program.step_cases h with ⟨t, ch, i, rest, e, h_a, h_todo, he, h_c'⟩ |
    ⟨r, t, e, h_a, he, h_todo, h_c'⟩
  · by_cases h_t : t' = t
    · subst h_t
      rw [h_c', resume_todo_self] at h_todo'
      rcases List.append_eq_append_iff.mp h_todo' with ⟨l, h_pre, h_rest⟩ | ⟨l, h_next, h_rest⟩
      · rw [h_pre]
        exact step_behind h_inv h_reach h he h_todo h_a h_c' h_rest h_frame h_j h_conn h_id h_fails
      · cases l with
        | nil =>
          rw [List.append_nil] at h_next
          rw [← h_next, ← List.append_nil e.next]
          exact step_behind h_inv h_reach h he h_todo h_a h_c' (l := []) h_rest.symm h_frame h_j
            h_conn h_id h_fails
        | cons k l =>
          obtain ⟨rfl, -⟩ := List.cons.inj h_rest
          exact step_next h_inv h_reach h he h_todo h_a h_c' h_next h_frame h_j h_conn h_id h_fails
    · -- another task, or a supervisor that starts
      have h_same : c.todo t' = pre ++ j :: post := by
        rw [h_c'] at h_todo'
        cases h_sp : e.spawned with
        | none => rw [← h_todo', resume_todo_of_ne c t rest e h_t h_sp]
        | some p =>
          obtain ⟨t'', is⟩ := p
          by_cases h_t' : t' = t''
          · subst h_t'
            obtain ⟨token, -, -, h_is⟩ := exec_spawned he h_sp
            rw [resume_todo_spawned c t rest e h_t h_sp, h_is] at h_todo'
            have h_point := supervisorCode_points token j (by
              rw [h_todo']
              exact List.mem_append_right _ List.mem_cons_self)
            cases j <;> first
              | cases h_j; done
              | exact absurd h_point (Point.not_mem rfl)
          · rw [← h_todo', resume_todo_of_ne_spawned c t rest e h_t h_sp h_t']
      refine step_other h_inv h_reach h h_same (fun ch' h_run => ?_) h_frame h_j h_conn h_id h_fails
      exact h_t (Action.run.inj (h_run.symm.trans h_a)).1
  · -- a request drives nothing
    obtain ⟨h_none, -, -, -, -, -, -, -, -, -, h_points⟩ := accept_frame he
    have h_same : c.todo t' = pre ++ j :: post := by
      rw [h_c'] at h_todo'
      by_cases h_t : t' = t
      · subst h_t
        rw [resume_todo_self, List.append_nil] at h_todo'
        have h_point := h_points j (by
          rw [h_todo']
          exact List.mem_append_right _ List.mem_cons_self)
        cases j <;> first
          | cases h_j; done
          | exact absurd h_point (Point.not_mem rfl)
      · rw [← h_todo', resume_todo_of_ne c t [] e h_t h_none]
    exact step_other h_inv h_reach h h_same (fun ch' h_run => nomatch h_run.symm.trans h_a) h_frame
      h_j h_conn h_id h_fails

end Step

/-- The invariant along a run. -/
theorem reachable (h : (hubProgram hub).Reachable (initialConfig V) Program.anyStep c) :
    Barring c := by
  induction h with
  | init => exact fun _ _ _ h => absurd h List.not_mem_nil
  | step reached _ fires ih => exact ih.step reached fires

end Barring

/-! ### What a connection pushes for a slot -/

/-- The frame has a payload under the alias, or errors in its place. -/
def Mentions (response : GraphQlResponse) (aliasName : Text) : Prop :=
  (∃ payload, (aliasName, payload) ∈ response.members) ∨
    ∃ error ∈ response.errors.getD [], aliasOf error = some aliasName

end Blokli
