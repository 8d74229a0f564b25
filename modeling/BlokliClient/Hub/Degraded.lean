import BlokliClient.Hub.Lag
import BlokliClient.Hub.Trackers

/-!
# A lag does not outlive its cause

That a slot lost events is kept in three places: the lag flag, the resync
request of its entry, and the tracker, which refuses to recover while it lags.
The connection raises the flag first and marks the tracker afterwards, the
consumer takes the flag down first and asks for the resync afterwards, and a
snapshot clears the request and the tracker at once.

* `Recalled`: the flag, the request, or a consumer between the two remembers
  the lag. A step that forgets it is a snapshot of the slot's connection
  (`Recalled.step`).
* `Degrading`: whenever a tracker lags, or is about to be marked, the lag is
  recalled. The mark cannot come after the snapshot that would clear it, since
  the supervisor that takes the snapshot is the one that would mark
  (`Degrading.first`).
-/

namespace Blokli

open Worklist

variable {V : Type} {hub : HubConfig} {t : Task} {ch : Choice} {i : Instr V} {c c' : Config V}
  {e : Effect V} {a : Action Task Choice (Request V)}

/-! ### Consumers were registered -/

/-- A stream that is polled, and a consumer that is at work, have a handed-out id. -/
structure Enrolled (c : Config V) : Prop where
  streaming : ∀ id, c.store.streaming id = true → id < c.store.state.nextId
  working : ∀ id, c.todo (.consumer id) ≠ [] → id < c.store.state.nextId

/-- No instruction registers a stream. -/
theorem exec_streaming (h : exec hub t ch i c = some e) {id : SlotId}
    (h_id : e.store.streaming id = true) : c.store.streaming id = true := by
  by_cases h_quiet : i.loud = false
  · rw [← (exec_quiet h h_quiet).streaming]
    exact h_id
  -- of the loud instructions only a poll ends a stream
  · cases i with
    | receive id' =>
      cases execReceive_step (Option.some.inj h) with
      | popped item items queue => exact h_id
      | pending queue held => exact h_id
      | ended queue free =>
        -- the stream that ends is not polled again
        by_cases h_eq : id = id'
        · rw [h_eq] at h_id
          change Function.update c.store.streaming id' false id' = true at h_id
          rw [Function.update_self] at h_id
          cases h_id
        · change Function.update c.store.streaming id' false id = true at h_id
          rw [Function.update_of_ne h_eq] at h_id
          exact h_id
    | _ =>
      first
        | exact absurd rfl h_quiet
        | (simp only [exec, execTrySend, execDeliver] at h
           repeat' split at h
           all_goals first
             | (cases h; done)
             | (obtain rfl := Option.some.inj h; exact h_id))

/-- A request starts a stream by registering it. -/
theorem accept_streaming {r : Request V} (h : accept r c = some (t, e)) {id : SlotId}
    (h_id : e.store.streaming id = true) : c.store.streaming id = true ∨
      ∃ spec created, r = .register spec created ∧ id = c.store.state.nextId := by
  cases r with
  -- a registration makes one stream more
  | register spec created =>
    simp only [accept] at h
    split at h
    · obtain ⟨-, rfl⟩ := Prod.mk.inj (Option.some.inj h)
      by_cases h_eq : id = c.store.state.nextId
      · exact Or.inr ⟨spec, created, rfl, h_eq⟩
      · exact Or.inl ((Function.update_of_ne h_eq ..).symm.trans h_id)
    · cases h
  | poll id' =>
    simp only [accept] at h
    split at h
    · obtain ⟨-, rfl⟩ := Prod.mk.inj (Option.some.inj h)
      exact Or.inl h_id
    · cases h
  | drop id' =>
    -- a drop ends the stream, but not in this step
    simp only [accept] at h
    split at h
    · next h_live =>
      obtain ⟨-, rfl⟩ := Prod.mk.inj (Option.some.inj h)
      by_cases h_eq : id = id'
      · rw [h_eq]
        exact Or.inl h_live
      · exact Or.inl ((Function.update_of_ne h_eq ..).symm.trans h_id)
    · cases h
  | tick d =>
    obtain ⟨-, rfl⟩ := Prod.mk.inj (Option.some.inj h)
    exact Or.inl h_id

/-- A request is served by the consumer of a stream, or of the one it registers. -/
theorem accept_consumer {r : Request V} {id : SlotId}
    (h : accept r c = some (.consumer id, e)) : c.store.streaming id = true ∨
      ∃ spec created, r = .register spec created ∧ id = c.store.state.nextId := by
  cases r with
  | register spec created =>
    simp only [accept] at h
    -- the task that gets the registration to do is that of the new stream
    split at h
    · obtain ⟨h_t, -⟩ := Prod.mk.inj (Option.some.inj h)
      exact Or.inr ⟨spec, created, rfl, (Task.consumer.inj h_t).symm⟩
    · cases h
  | poll id' =>
    simp only [accept] at h
    split at h
    · next h_live =>
      obtain ⟨h_t, -⟩ := Prod.mk.inj (Option.some.inj h)
      exact Or.inl (Task.consumer.inj h_t ▸ h_live)
    · cases h
  | drop id' =>
    simp only [accept] at h
    split at h
    · next h_live =>
      obtain ⟨h_t, -⟩ := Prod.mk.inj (Option.some.inj h)
      exact Or.inl (Task.consumer.inj h_t ▸ h_live)
    · cases h
  | tick d => cases (Prod.mk.inj (Option.some.inj h)).1

theorem Enrolled.initial : Enrolled (initialConfig V) where
  streaming _ h := by cases h
  working _ h := absurd rfl h

/-- One step keeps the slots enrolled. -/
theorem Enrolled.step (h_inv : Enrolled c) (h : (hubProgram hub).step c a = some c') :
    Enrolled c' := by
  have h_le : c.store.state.nextId ≤ c'.store.state.nextId := nextId_le_step h
  have h_next : ∀ {spec created}, a = .request (.register spec created) →
      c.store.state.nextId < c'.store.state.nextId := by
    intro spec created ha
    rcases nextId_step h with ⟨-, h_not⟩ | ⟨-, -, -, h_eq⟩
    · exact absurd ha (h_not spec created)
    · rw [h_eq]
      exact Nat.lt_succ_self _
  constructor
  · -- streams are below the next number
    intro id h_id
    rcases Program.step_cases h with ⟨t, ch, i, rest, e, -, -, he, rfl⟩ |
      ⟨r, t, e, rfl, he, -, rfl⟩
    · exact Nat.lt_of_lt_of_le (h_inv.streaming id (exec_streaming he h_id)) h_le
    · rcases accept_streaming he h_id with h_old | ⟨spec, created, rfl, rfl⟩
      · exact Nat.lt_of_lt_of_le (h_inv.streaming id h_old) h_le
      · exact h_next rfl
  · -- so are the tasks of consumers with something to do
    intro id h_id
    obtain ⟨j, hj⟩ := List.exists_mem_of_ne_nil _ h_id
    rcases mem_todo_step h hj with hj | ⟨ch, i, rest, e, -, h_todo, -, -⟩ | ⟨r, e, rfl, he, -⟩ |
      ⟨t', ch, token, rest, -, -, h_t, -⟩
    · exact Nat.lt_of_lt_of_le (h_inv.working id (List.ne_nil_of_mem hj)) h_le
    · exact Nat.lt_of_lt_of_le (h_inv.working id (by rw [h_todo]; exact List.cons_ne_nil _ _)) h_le
    · rcases accept_consumer he with h_old | ⟨spec, created, rfl, rfl⟩
      · exact Nat.lt_of_lt_of_le (h_inv.streaming id h_old) h_le
      · exact h_next rfl
    · cases h_t

theorem Enrolled.reachable {Allowed : Config V → Action Task Choice (Request V) → Prop}
    (h : (hubProgram hub).Reachable (initialConfig V) Allowed c) : Enrolled c :=
  h.induct (motive := Enrolled) Enrolled.initial fun _ h_inv _ h_step => h_inv.step h_step

/-! ### Who remembers a lag -/

/-- **Recalled.** The flag is up, the slot asks for a resync, or its consumer took
the flag down and is about to ask. -/
def Recalled (c : Config V) (id : SlotId) : Prop :=
  c.store.lagging id = true ∨ (∃ e, c.store.state.slots id = some e ∧ e.resync = true) ∨
    Requesting c id

/-- The step is a snapshot that consumes the resync request of the slot. -/
def Consumes (c : Config V) (a : Action Task Choice (Request V)) (id : SlotId) : Prop :=
  ∃ t scope waitUntil e, Runs c a t (.snapshot scope waitUntil) ∧
    c.store.state.slots id = some e ∧ e.belongsTo id scope = true ∧ e.resync = true

/-- A resync request stays until a snapshot consumes it. -/
theorem resync_step {id : SlotId} {e e' : SlotEntry V} (h_num : Numbered c)
    (h : (hubProgram hub).step c a = some c') (h_e : c.store.state.slots id = some e)
    (h_sync : e.resync = true) (h_e' : c'.store.state.slots id = some e') :
    e'.resync = true ∨ Consumes c a id := by
  -- the entry that a constructor of `SlotStep` names is this one
  have h_same : ∀ e₁ e₁' : SlotEntry V, c.store.state.slots id = some e₁ →
      c'.store.state.slots id = some e₁' → e₁'.resync = e₁.resync → e'.resync = true := by
    intro e₁ e₁' h₁ h₁' h_eq
    obtain rfl := Option.some.inj (h₁.symm.trans h_e)
    obtain rfl := Option.some.inj (h₁'.symm.trans h_e')
    exact h_eq.trans h_sync
  cases slot_step h id with
  | same slot =>
    rw [h_e', h_e] at slot
    exact Or.inl ((congrArg SlotCore.resync (Option.some.inj slot)).trans h_sync)
  | registered spec created request number slot =>
    exact absurd number (Nat.ne_of_lt (h_num id e h_e))
  | isolated t cause e₁ runs before shared slot => exact Or.inl (h_same e₁ _ before slot rfl)
  | supervised t e₁ isolation runs before moved dead slot =>
    exact Or.inl (h_same e₁ _ before slot rfl)
  | caughtUp t scope waitUntil e₁ runs before belongs slot =>
    obtain rfl := Option.some.inj (before.symm.trans h_e)
    exact Or.inr ⟨t, scope, waitUntil, e₁, runs, before, belongs, h_sync⟩
  | resumed t payload next e₁ runs before resume slot =>
    exact Or.inl (h_same e₁ _ before slot rfl)
  | resync t e₁ runs before slot =>
    obtain rfl := Option.some.inj (slot.symm.trans h_e')
    exact Or.inl rfl
  | ended t ids reason runs listed slot => cases slot.symm.trans h_e'
  | deregistered t runs slot => cases slot.symm.trans h_e'

/-- **A lag is forgotten by a snapshot only.** -/
theorem Recalled.step {id : SlotId} (h_rec : Recalled c id) (h_sound : Sound c)
    (h : (hubProgram hub).step c a = some c') {e' : SlotEntry V}
    (h_e' : c'.store.state.slots id = some e') : Recalled c' id ∨ Consumes c a id := by
  rcases h_rec with h_flag | ⟨e, h_e, h_sync⟩ | h_req
  · left
    cases lag_step h id with
    | same flag => exact Or.inl (flag.trans h_flag)
    | raised t scope runs flag => exact Or.inl flag
    | lowered t runs flag request =>
      have h_mem : .requestResync id ∈ c'.todo t := request h_flag
      obtain rfl : t = .consumer id := h_sound.owned.step h t _ h_mem
      exact Or.inr (Or.inr h_mem)
  · exact (resync_step h_sound.numbered h h_e h_sync h_e').imp_left fun h_sync' =>
      Or.inr (Or.inl ⟨e', h_e', h_sync'⟩)
  · left
    rcases h_sound.tokens.keep h h_req with h_req | ⟨ch, rest, ha, h_todo⟩
    · exact Or.inr (Or.inr h_req)
    · -- the request is made
      exact Or.inr (Or.inl ⟨e', h_e', resync_of_request ⟨ch, rest, ha, h_todo⟩ h h_e'⟩)

/-! ### The mark of the tracker -/

/-- The instruction is about to mark the tracker of the slot. -/
def Instr.marks (id : SlotId) : Instr V → Option Scope
  | .withHealth scope ids .lagging => if id ∈ ids then some scope else none
  | _ => none

/-- **Degrading.** Whenever a tracker lags, or is about to be marked, the lag is
recalled. -/
structure Degrading (c : Config V) : Prop where
  /-- What marks a tracker is the next instruction of its task. -/
  first : ∀ t, ∀ i ∈ (c.todo t).tail, ∀ id, i.marks id = none
  /-- The flag of a slot that is not registered yet stays up. -/
  early : ∀ t, ∀ i ∈ c.todo t, ∀ id scope, i.marks id = some scope →
    c.store.state.nextId ≤ id → c.store.lagging id = true
  pending : ∀ t, ∀ i ∈ c.todo t, ∀ id scope, i.marks id = some scope →
    ∀ e, c.store.state.slots id = some e → e.belongsTo id scope = true → Recalled c id
  tracked : ∀ id e, c.store.state.slots id = some e → e.health.lagging = true → Recalled c id

theorem Instr.marks_eq_some {j : Instr V} {id : SlotId} {scope : Scope}
    (h : j.marks id = some scope) : ∃ ids, j = .withHealth scope ids .lagging ∧ id ∈ ids := by
  unfold marks at h
  split at h
  · next scope' ids =>
    split at h
    · next h_mem =>
      obtain rfl := Option.some.inj h
      exact ⟨ids, rfl, h_mem⟩
    · cases h
  · cases h

/-- A mark follows the flag: it comes from `deliver`, which just raised it. -/
theorem exec_marks (h : exec hub t ch i c = some e) {j : Instr V} (hj : j ∈ e.next)
    {id : SlotId} {scope : Scope} (h_j : j.marks id = some scope) :
    e.next = [j] ∧ e.store.lagging id = true := by
  obtain ⟨ids, rfl, h_id⟩ := Instr.marks_eq_some h_j
  have h_succ := exec_successors h _ hj
  cases i with
  | swapLagging scope' id' =>
    obtain rfl := Option.some.inj h
    dsimp only at hj ⊢
    split at hj
    · exact absurd hj List.not_mem_nil
    · next h_down =>
      have h_eq := List.mem_singleton.mp hj
      obtain ⟨-, rfl, -⟩ := Instr.withHealth.inj h_eq
      obtain rfl := List.mem_singleton.mp h_id
      rw [if_neg h_down, h_eq]
      exact ⟨rfl, Function.update_self ..⟩
  | select d stall =>
    simp only [exec, execNext, execEvent, execStreamError, malformedFrame] at h
    repeat' split at h
    all_goals first
      | (cases h; done)
      | (obtain rfl := Option.some.inj h; simp at hj)
  | dispatchPayloads d =>
    simp only [exec, execPayload] at h
    repeat' split at h
    all_goals
      obtain rfl := Option.some.inj h
      simp at hj
  | dispatchErrors d =>
    simp only [exec, execSlotError] at h
    repeat' split at h
    all_goals
      obtain rfl := Option.some.inj h
      simp at hj
  | deliver scope' target item =>
    simp only [exec, execDeliver] at h
    repeat' split at h
    all_goals first
      | (cases h; done)
      | (obtain rfl := Option.some.inj h; simp at hj)
  | _ => exact absurd h_succ (Point.not_mem rfl)

theorem Degrading.initial : Degrading (initialConfig V) where
  first _ _ h := absurd h List.not_mem_nil
  early _ _ h := absurd h List.not_mem_nil
  pending _ _ h := absurd h List.not_mem_nil
  tracked _ _ h := by cases h

/-- Only the instruction that a step puts in front can be a mark. -/
theorem first_step (h_inv : Degrading c) (h : (hubProgram hub).step c a = some c') :
    ∀ t, ∀ i ∈ (c'.todo t).tail, ∀ id, i.marks id = none := by
  refine Program.forall_tail_of_step (motive := fun _ i => ∀ id, i.marks id = none) h h_inv.first
    ?_ ?_
  · intro t ch i rest e _ h_todo he
    refine ⟨fun j hj id => ?_, fun t' is h_sp j hj id => ?_⟩
    · cases h_j : j.marks id with
      | none => rfl
      | some scope =>
        -- a mark is alone among the new instructions
        rw [(exec_marks he (List.mem_of_mem_tail hj) h_j).1] at hj
        exact absurd hj List.not_mem_nil
    · obtain ⟨token, -, rfl, rfl⟩ := exec_spawned he h_sp
      have h_point := supervisorCode_points token j (List.mem_of_mem_tail hj)
      cases h_j : j.marks id with
      | none => rfl
      | some scope =>
        obtain ⟨ids, rfl, -⟩ := Instr.marks_eq_some h_j
        exact absurd h_point (Point.not_mem rfl)
  · intro r t e _ he
    refine ⟨fun j hj id => ?_, fun t' is h_sp => ?_⟩
    · have h_point := (accept_frame he).2.2.2.2.2.2.2.2.2.2 j (List.mem_of_mem_tail hj)
      cases h_j : j.marks id with
      | none => rfl
      | some scope =>
        obtain ⟨ids, rfl, -⟩ := Instr.marks_eq_some h_j
        exact absurd h_point (Point.not_mem rfl)
    · rw [(accept_frame he).1] at h_sp
      cases h_sp

/-- Two supervisors at work on connections that a slot belongs to are the same. -/
theorem Sound.task_eq (h_sound : Sound c) {t t' : Task} {i i' : Instr V} {scope scope' : Scope}
    (hi : i ∈ c.todo t) (hi' : i' ∈ c.todo t')
    (h_i : i.point ∉ [.dropToken, .ensureSupervisors, .spawnSupervisor])
    (h_i' : i'.point ∉ [.dropToken, .ensureSupervisors, .spawnSupervisor])
    (h_t : t.scope = some scope) (h_t' : t'.scope = some scope') {id : SlotId} {e : SlotEntry V}
    (h_e : c.store.state.slots id = some e) (h_scope : e.belongsTo id scope = true)
    (h_scope' : e.belongsTo id scope' = true) : t' = t := by
  cases t with
  | supervisor token =>
    cases t' with
    | supervisor token' =>
      obtain rfl := Option.some.inj h_t
      obtain rfl := Option.some.inj h_t'
      have h_exec := Tail.executing_of_mem (h_sound.tokens.tail (.supervisor token)) hi h_i
      have h_exec' := Tail.executing_of_mem (h_sound.tokens.tail (.supervisor token')) hi' h_i'
      have h_same : token'.scope = token.scope :=
        (h_sound.scopeInUse_eq h_exec' h_e h_scope').symm.trans
          (h_sound.scopeInUse_eq h_exec h_e h_scope)
      rw [h_sound.supervised.unique token' (h_sound.alive_of_executing h_exec') token
        (h_sound.alive_of_executing h_exec) h_same]
    | consumer id => cases h_t'
    | environment => cases h_t'
  | consumer id => cases h_t
  | environment => cases h_t

/-- The snapshot that consumes a request comes after every mark of the connection. -/
theorem Degrading.not_consumes (h_inv : Degrading c) (h_sound : Sound c) {id : SlotId}
    (h_cons : Consumes c a id) {j : Instr V} (hj : j ∈ c.todo t) {scope : Scope}
    (h_j : j.marks id = some scope) {e : SlotEntry V} (h_e : c.store.state.slots id = some e)
    (h_scope : e.belongsTo id scope = true) : False := by
  obtain ⟨t', scope', waitUntil, e', ⟨ch, rest, -, h_todo⟩, h_e', h_scope', -⟩ := h_cons
  obtain rfl := Option.some.inj (h_e'.symm.trans h_e)
  have h_mem : .snapshot scope' waitUntil ∈ c.todo t' := by
    rw [h_todo]
    exact List.mem_cons_self
  have h_own : t'.scope = some scope' := h_sound.owned t' _ h_mem
  obtain ⟨ids, rfl, h_id⟩ := Instr.marks_eq_some h_j
  have h_own' : t.scope = some scope := h_sound.owned t _ hj
  obtain rfl := h_sound.task_eq h_mem hj (Point.not_mem rfl) (Point.not_mem rfl) h_own h_own' h_e
    h_scope' h_scope
  -- the snapshot is in front, so the mark is behind it
  have h_first := h_inv.first t (.withHealth scope ids .lagging)
  rw [h_todo] at h_first hj
  rcases List.mem_cons.mp hj with h_eq | hj
  · cases h_eq
  · rw [h_first hj id] at h_j
    cases h_j

/-- **A snapshot that consumes a resync request** takes the tracker out of the
lagging state in the same step. -/
theorem consumed_step {id : SlotId} (h_cons : Consumes c a id)
    (h : (hubProgram hub).step c a = some c') : ∃ e', c'.store.state.slots id = some e' ∧
      e'.resync = false ∧ e'.health.lagging = false := by
  obtain ⟨t, scope, waitUntil, e, h_runs, h_e, h_scope, h_sync⟩ := h_cons
  obtain ⟨ch, rest, eff, -, -, he, rfl⟩ := h_runs.exec h
  obtain rfl := Option.some.inj he
  have h_slot := c.store.state.snapshot_slots scope id
  rw [h_e, Option.map_some, h_scope, h_sync] at h_slot
  exact ⟨_, h_slot, rfl, rfl⟩

/-- The flag of a slot that is not registered yet is taken down by nobody. -/
theorem flag_early (h_sound : Sound c) (h_enrolled : Enrolled c)
    (h : (hubProgram hub).step c a = some c') {id : SlotId} (h_id : c.store.state.nextId ≤ id)
    (h_flag : c.store.lagging id = true) : c'.store.lagging id = true := by
  cases lag_step h id with
  | same flag => exact flag.trans h_flag
  | raised t scope runs flag => exact flag
  | lowered t runs flag request =>
    obtain ⟨ch, rest, -, h_todo⟩ := runs
    obtain rfl : t = .consumer id :=
      h_sound.owned t (.swapDrained id) (by rw [h_todo]; exact List.mem_cons_self)
    have h_lt := h_enrolled.working id (by rw [h_todo]; exact List.cons_ne_nil _ _)
    exact absurd h_id (Nat.not_le.mpr h_lt)

/-- A mark that is pending after a step was so before, or its flag just went up. -/
theorem marks_step (h : (hubProgram hub).step c a = some c') (hi : i ∈ c'.todo t) {id : SlotId}
    {scope : Scope} (h_i : i.marks id = some scope) :
    i ∈ c.todo t ∨ c'.store.lagging id = true := by
  have h_inner : i.point.begins = false := by
    obtain ⟨ids, rfl, -⟩ := Instr.marks_eq_some h_i
    rfl
  rcases origin_step h hi h_inner with hi | ⟨ch, i₀, rest, e, rfl, h_todo, he, h_next⟩
  · exact Or.inl hi
  · obtain rfl := Option.some.inj (h.symm.trans (Program.step_run h_todo he))
    exact Or.inr (exec_marks he h_next h_i).2

/-- One step keeps a lagging tracker with a reason. -/
theorem Degrading.step (h_inv : Degrading c) (h_sound : Sound c) (h_enrolled : Enrolled c)
    (h : (hubProgram hub).step c a = some c') : Degrading c' := by
  refine ⟨first_step h_inv h, ?_, ?_, ?_⟩
  · intro t i hi id scope h_i h_id
    rcases marks_step h hi h_i with hi | h_flag
    · have h_early : c.store.state.nextId ≤ id := Nat.le_trans (nextId_le_step h) h_id
      exact flag_early h_sound h_enrolled h h_early (h_inv.early t i hi id scope h_i h_early)
    · exact h_flag
  · intro t i hi id scope h_i e' h_e' h_scope'
    rcases marks_step h hi h_i with hi | h_flag
    · rcases slot_origin h h_e' with ⟨e, h_e⟩ | ⟨spec, created, -, rfl, -⟩
      · have h_scope := belongsTo_step h_sound.numbered h h_e h_e' h_scope'
        have h_rec := h_inv.pending t i hi id scope h_i e h_e h_scope
        rcases h_rec.step h_sound h h_e' with h_rec | h_cons
        · exact h_rec
        · exact (h_inv.not_consumes h_sound h_cons hi h_i h_e h_scope).elim
      · have h_flag := h_inv.early t i hi _ scope h_i (Nat.le_refl _)
        exact Or.inl (flag_early h_sound h_enrolled h (Nat.le_refl _) h_flag)
    · exact Or.inl h_flag
  · intro id e' h_e' h_lag
    rcases slot_origin h h_e' with ⟨e, h_e⟩ | ⟨spec, created, -, -, rfl⟩
    · -- what recalls the lag before the step recalls it afterwards
      have h_kept : Recalled c id → Recalled c' id := fun h_rec => by
        rcases h_rec.step h_sound h h_e' with h_rec | h_cons
        · exact h_rec
        · obtain ⟨e₁, h_e₁, -, h_calm⟩ := consumed_step h_cons h
          obtain rfl := Option.some.inj (h_e₁.symm.trans h_e')
          rw [h_calm] at h_lag
          cases h_lag
      refine h_kept ?_
      rcases (tracker_step h_sound.numbered h h_e h_e').op with h_same | ⟨op, h_op, h_cause⟩
      · rw [h_same] at h_lag
        exact h_inv.tracked id e h_e h_lag
      rw [h_op] at h_lag
      rcases HealthTracker.lagging_of_step h_lag with h_old | rfl
      · exact h_inv.tracked id e h_e h_old
      -- only the update that follows the flag makes a tracker lag
      cases h_cause with
      | update t scope ids update runs listed belongs =>
        obtain ⟨ch, rest, -, h_todo⟩ := runs
        exact h_inv.pending t (.withHealth scope ids .lagging)
          (by rw [h_todo]; exact List.mem_cons_self) id scope (if_pos listed) e h_e belongs
    · cases h_lag

theorem Degrading.reachable {Allowed : Config V → Action Task Choice (Request V) → Prop}
    (h : (hubProgram hub).Reachable (initialConfig V) Allowed c) : Degrading c :=
  h.induct (motive := Degrading) Degrading.initial fun h_reach h_inv _ h_step =>
    h_inv.step (Sound.reachable h_reach) (Enrolled.reachable h_reach) h_step

/-- **A lag never leaves a subscription degraded with nothing left to clear it.**
While the tracker of a registered slot lags, the flag is up, the entry asks for a
resync, or the consumer is about to ask; and a snapshot that consumes the request
takes the tracker out of the lagging state before its connection is even assembled. -/
theorem lag_is_recalled (h : (hubProgram hub).Reachable (initialConfig V) Program.anyStep c) :
    (∀ id e, c.store.state.slots id = some e → e.health.lagging = true →
      c.store.lagging id = true ∨ e.resync = true ∨ .requestResync id ∈ c.todo (.consumer id)) ∧
    ∀ a c', (hubProgram hub).step c a = some c' → ∀ t scope waitUntil,
      Runs c a t (.snapshot scope waitUntil) → ∀ id e, c.store.state.slots id = some e →
        e.belongsTo id scope = true → e.resync = true →
        ∃ e', c'.store.state.slots id = some e' ∧ e'.resync = false ∧
          e'.health.lagging = false := by
  refine ⟨fun id e h_e h_lag => ?_, fun a c' h_step t scope waitUntil h_runs id e h_e h_scope
    h_sync => consumed_step ⟨t, scope, waitUntil, e, h_runs, h_e, h_scope, h_sync⟩ h_step⟩
  rcases (Degrading.reachable h).tracked id e h_e h_lag with h_flag | ⟨e₁, h_e₁, h_sync⟩ | h_req
  · exact Or.inl h_flag
  · obtain rfl := Option.some.inj (h_e₁.symm.trans h_e)
    exact Or.inr (Or.inl h_sync)
  · exact Or.inr (Or.inr h_req)

/-- The theorem at a subscription whose queue overflowed. -/
theorem lag_is_recalled_full : ∃ (c : Config ℕ) (e : SlotEntry ℕ),
    (hubProgram sampleHub).Reachable (initialConfig ℕ) Program.anyStep c ∧
      c.store.state.slots 0 = some e ∧ e.health.lagging = true ∧
      (c.store.lagging 0 = true ∨ e.resync = true ∨
        .requestResync 0 ∈ c.todo (.consumer 0)) := by
  obtain ⟨c₀, d, target, stall, rest, h_reach, h_attached, h_id, h_carries, -⟩ :=
    sample_attached Program.anyStep fun _ _ _ _ => trivial
  obtain ⟨c₁, d', origin, h₁, -, h_todo₁, -⟩ :=
    overrun sampleHub lenient_anyStep rfl h_attached h_carries
  have h_live := h_attached.live
  rw [h_id] at h_todo₁ h_live
  have h_calm : c₁.store.lagging 0 = false := by
    rw [h₁.aside.lagging, ← h_id]
    exact h_attached.calm
  -- the connection marks the subscription as lagging
  obtain ⟨c₂, h₂, -, -, -, -, -, -, h_lagging⟩ :=
    raise sampleHub lenient_anyStep h_todo₁ True.intro h_calm
  obtain ⟨e, h_e, h_lag⟩ := h_lagging (by rw [h₁.aside.scopeIds]; exact h_live)
  have h_reach₂ := (h_reach.trans h₁.reach).trans h₂
  exact ⟨c₂, e, h_reach₂, h_e, h_lag, (lag_is_recalled h_reach₂).1 0 e h_e h_lag⟩

end Blokli
