import BlokliClient.Hub.Notification
import BlokliClient.Hub.Overflow

/-!
# Resynchronisation and the shared connection

A slot whose consumer lost events asks for a resync in one critical section and
leaves the shared connection in another one. In between it is a slot of the
shared connection that waits for a new one (`Resyncing`), and whoever reads the
slots of the shared connection in that moment takes the request for its own.

* Whenever no consumer is between the two sections, no slot of the shared
  connection asks for a resync.
* So a run in which the shared supervisor never reads the slots in between
  neither reconnects the shared connection for a resync nor consumes one there.
-/

namespace Blokli

open Worklist

variable {V : Type} {hub : HubConfig} {c c' : Config V} {a : Action Task Choice (Request V)}

/-- **Resyncing.** A slot of the shared connection that asks for a resync is
about to leave it. -/
def Resyncing (c : Config V) : Prop :=
  ∀ id e, c.store.state.slots id = some e → e.isolated = none → e.resync = true → Leaving c id

theorem Resyncing.initial : Resyncing (initialConfig V) := by
  intro id e h
  cases h

/-- One step keeps a slot that asks for a resync noticed. -/
theorem Resyncing.step (h_inv : Resyncing c) (h_sound : Sound c)
    (h : (hubProgram hub).step c a = some c') : Resyncing c' := by
  intro id e' h_e' h_iso h_sync
  -- a slot that already asked before the step is still about to leave
  have h_kept : ∀ e, c.store.state.slots id = some e → e.isolated = none → e.resync = true →
      Leaving c' id := fun e h_e h_iso' h_sync' =>
    (h_inv id e h_e h_iso' h_sync').step h_sound h h_e' h_iso
  cases slot_step h id with
  | same slot =>
    rw [h_e'] at slot
    obtain ⟨e, h_e, h_core⟩ := Option.map_eq_some_iff.mp slot.symm
    exact h_kept e h_e ((congrArg SlotCore.isolated h_core).trans h_iso)
      ((congrArg SlotCore.resync h_core).trans h_sync)
  | registered spec created request number slot =>
    obtain rfl := Option.some.inj (slot.symm.trans h_e')
    cases h_sync
  | isolated t cause e runs before shared slot =>
    obtain rfl := Option.some.inj (slot.symm.trans h_e')
    cases h_iso
  -- the isolated ones do not count
  | supervised t e isolation runs before moved dead slot =>
    obtain rfl := Option.some.inj (slot.symm.trans h_e')
    cases h_iso
  -- the snapshot takes the flag down
  | caughtUp t scope waitUntil e runs before belongs slot =>
    obtain rfl := Option.some.inj (slot.symm.trans h_e')
    cases h_sync
  | resumed t payload next e runs before resume slot =>
    obtain rfl := Option.some.inj (slot.symm.trans h_e')
    exact h_kept e before h_iso h_sync
  | resync t e runs before slot =>
    -- the first section of `request_resync`: the second one is next
    obtain rfl := Option.some.inj (slot.symm.trans h_e')
    obtain ⟨ch, rest, eff, rfl, h_todo, he, rfl⟩ := runs.exec h
    obtain rfl : t = .consumer id :=
      h_sound.owned t (.requestResync id) (by rw [h_todo]; exact List.mem_cons_self)
    simp only [exec, HubState.requestResync, before] at he
    obtain rfl := Option.some.inj he
    rw [Leaving, resume_todo_self, show e.isolated = none from h_iso]
    exact List.mem_cons_self
  | ended t ids reason runs listed slot => cases slot.symm.trans h_e'
  | deregistered t runs slot => cases slot.symm.trans h_e'

theorem Resyncing.reachable {Allowed : Config V → Action Task Choice (Request V) → Prop}
    (h : (hubProgram hub).Reachable (initialConfig V) Allowed c) : Resyncing c :=
  h.induct (motive := Resyncing) Resyncing.initial fun h_reach h_inv _ h_step =>
    h_inv.step (Sound.reachable h_reach) h_step

/-- The step reads the slots of the shared connection: it is `snapshot(Shared)`
or `reconnect_needed(Shared)`. -/
def ReadsShared (c : Config V) (a : Action Task Choice (Request V)) : Prop :=
  ∃ t, (∃ waitUntil, Runs c a t (.snapshot .shared waitUntil)) ∨
    ∃ d, d.scope = .shared ∧ Runs c a t (.reconnectNeeded d)

/-- The slots of the shared connection are not read while a consumer is between
the two critical sections of `request_resync` for one of them. -/
def Undisturbed (c : Config V) (a : Action Task Choice (Request V)) : Prop :=
  ReadsShared c a → ∀ id e, c.store.state.slots id = some e → e.isolated = none → ¬ Leaving c id

/-- **Requested.** A slot that is about to leave the shared connection asks for a
resync. -/
def Requested (c : Config V) : Prop :=
  ∀ id e, c.store.state.slots id = some e → e.isolated = none → Leaving c id → e.resync = true

theorem Requested.initial : Requested (initialConfig V) := by
  intro id e h
  cases h

/-- A consumer that is about to leave was, or just ran the first section. -/
theorem leaving_origin {id : SlotId} (h_leaving : Leaving c' id) (h_own : Owned c)
    (h : (hubProgram hub).step c a = some c') :
    Leaving c id ∨ Runs c a (.consumer id) (.requestResync id) := by
  rcases origin_step h h_leaving rfl with h_mem | ⟨ch, i, rest, e, ha, h_todo, he, h_next⟩
  · exact Or.inl h_mem
  · right
    have h_succ := exec_successors he _ h_next
    have h_i := h_own (.consumer id) i (by rw [h_todo]; exact List.mem_cons_self)
    cases i with
    -- the first section leaves the isolation to the second
    | requestResync id' =>
      simp only [exec] at he
      split at he
      · obtain rfl := Option.some.inj he
        exact absurd h_next List.not_mem_nil
      · obtain rfl := Option.some.inj he
        dsimp only at h_next
        split at h_next
        · obtain rfl := (Instr.isolate.inj (List.mem_singleton.mp h_next)).1
          exact ⟨ch, rest, ha, h_todo⟩
        · cases List.mem_singleton.mp h_next
    -- what `dispatch` isolates is isolated by a supervisor
    | dispatchPayloads d => cases h_i
    | dispatchErrors d => cases h_i
    | _ => exact absurd h_succ (Point.not_mem rfl)

/-- One step keeps the request to the slot that made it. -/
theorem Requested.step (h_inv : Requested c) (h_sound : Sound c) (h_allowed : Undisturbed c a)
    (h : (hubProgram hub).step c a = some c') : Requested c' := by
  intro id e' h_e' h_iso h_leaving
  rcases leaving_origin h_leaving h_sound.owned h with h_old | h_runs
  · -- it was leaving before, so its flag was up
    have h_kept : ∀ e, c.store.state.slots id = some e → e.isolated = none → e.resync = true :=
      fun e h_e h_iso' => h_inv id e h_e h_iso' h_old
    cases slot_step h id with
    | same slot =>
      rw [h_e'] at slot
      obtain ⟨e, h_e, h_core⟩ := Option.map_eq_some_iff.mp slot.symm
      exact (congrArg SlotCore.resync h_core).symm.trans
        (h_kept e h_e ((congrArg SlotCore.isolated h_core).trans h_iso))
    | registered spec created request number slot =>
      -- a registration is served by an idle task
      subst request
      rcases Program.step_cases h with ⟨_, _, _, _, _, ha, -⟩ | ⟨r, t, e, ha, he, h_todo, -⟩
      · cases ha
      · obtain rfl := Action.request.inj ha
        change accept (.register spec created) c = some (t, e) at he
        simp only [accept] at he
        split at he
        · obtain ⟨rfl, -⟩ := Prod.mk.inj (Option.some.inj he)
          rw [Leaving, number, h_todo] at h_old
          exact absurd h_old List.not_mem_nil
        · cases he
    | isolated t cause e runs before shared slot =>
      obtain rfl := Option.some.inj (slot.symm.trans h_e')
      cases h_iso
    | supervised t e isolation runs before moved dead slot =>
      obtain rfl := Option.some.inj (slot.symm.trans h_e')
      cases h_iso
    | caughtUp t scope waitUntil e runs before belongs slot =>
      -- a snapshot that consumes the request is taken by the shared supervisor
      obtain rfl := Option.some.inj (slot.symm.trans h_e')
      exfalso
      cases scope with
      | shared => exact h_allowed ⟨t, Or.inl ⟨waitUntil, runs⟩⟩ id e before h_iso h_old
      | isolated own =>
        obtain rfl : id = own := beq_iff_eq.mp belongs
        obtain ⟨ch, rest, -, h_todo⟩ := runs
        have h_mem : Instr.snapshot (.isolated id) waitUntil ∈ c.todo t := by
          rw [h_todo]
          exact List.mem_cons_self
        have h_own := h_sound.owned t _ h_mem
        cases t with
        | supervisor token =>
          exact h_sound.isolated_of_executing
            (Tail.executing_of_mem (h_sound.tokens.tail (.supervisor token)) h_mem
              (Point.not_mem rfl)) (Option.some.inj h_own) before h_iso
        | consumer own => cases h_own
        | environment => cases h_own
    | resumed t payload next e runs before resume slot =>
      obtain rfl := Option.some.inj (slot.symm.trans h_e')
      exact h_kept e before h_iso
    -- this is the step that puts the flag up
    | resync t e runs before slot =>
      obtain rfl := Option.some.inj (slot.symm.trans h_e')
      rfl
    | ended t ids reason runs listed slot => cases slot.symm.trans h_e'
    | deregistered t runs slot => cases slot.symm.trans h_e'
  · -- the first section ran now, and put the flag up
    exact resync_of_request h_runs h h_e'

theorem Requested.reachable (h : (hubProgram hub).Reachable (initialConfig V) Undisturbed c) :
    Requested c :=
  h.induct (motive := Requested) Requested.initial fun h_reach h_inv h_allowed h_step =>
    h_inv.step (Sound.reachable h_reach) h_allowed h_step

/-- **A lag resync leaves the shared connection alone**, in a run in which its
slots are not read between the two critical sections of `request_resync`: no
`reconnect_needed` of the shared connection finds a pending resync, no snapshot
of it consumes one, and the slots of it that ask for one are those whose
consumers are between the two sections. -/
theorem resync_leaves_shared_alone
    (h : (hubProgram hub).Reachable (initialConfig V) Undisturbed c) :
    (∀ a, Undisturbed c a → ReadsShared c a →
      c.store.state.resyncPending .shared = false ∧
      ∀ id e, c.store.state.slots id = some e → e.belongsTo id .shared = true →
        e.resync = false) ∧
    ∀ id e, c.store.state.slots id = some e → e.belongsTo id .shared = true →
      (e.resync = true ↔ Leaving c id) := by
  have h_iff : ∀ id e, c.store.state.slots id = some e → e.belongsTo id .shared = true →
      (e.resync = true ↔ Leaving c id) := fun id e h_e h_scope =>
    have h_iso := Option.isNone_iff_eq_none.mp h_scope
    ⟨Resyncing.reachable h id e h_e h_iso, Requested.reachable h id e h_e h_iso⟩
  refine ⟨fun a h_allowed h_reads => ?_, h_iff⟩
  have h_none : ∀ id e, c.store.state.slots id = some e → e.belongsTo id .shared = true →
      e.resync = false := fun id e h_e h_scope =>
    Bool.eq_false_iff.mpr fun h_sync => h_allowed h_reads id e h_e
      (Option.isNone_iff_eq_none.mp h_scope) ((h_iff id e h_e h_scope).mp h_sync)
  refine ⟨?_, h_none⟩
  unfold HubState.resyncPending
  refine Bool.eq_false_iff.mpr fun h_any => ?_
  obtain ⟨id, h_id, h_sync⟩ := List.any_eq_true.mp h_any
  obtain ⟨-, e, h_e, h_scope⟩ := (HubState.mem_scopeIds _).mp h_id
  rw [h_e] at h_sync
  exact Bool.false_ne_true ((h_none id e h_e h_scope).symm.trans h_sync)

/-! ### A consumer that lost items -/

theorem undisturbed_of_point (h : ∀ t i, Runs c a t i → i.point ∉ [.snapshot, .reconnectNeeded]) :
    Undisturbed c a := by
  rintro ⟨t, ⟨waitUntil, h_runs⟩ | ⟨d, -, h_runs⟩⟩
  · exact absurd List.mem_cons_self (h _ _ h_runs)
  · exact absurd (List.mem_cons_of_mem _ List.mem_cons_self) (h _ _ h_runs)

theorem undisturbed_of_uneventful {c : Config ℕ} {a : Action Task Choice (Request ℕ)}
    (h_idle : Within visitedTasks c) (h : uneventful c a = true) : Undisturbed c a := by
  intro h_reads id e _ _ h_leaving
  obtain ⟨t, i, ch, rest, rfl, -⟩ : ∃ t i, Runs c a t i := by
    obtain ⟨t, ⟨waitUntil, h_runs⟩ | ⟨d, -, h_runs⟩⟩ := h_reads
    · exact ⟨t, _, h_runs⟩
    · exact ⟨t, _, h_runs⟩
  have h_all := (Bool.and_eq_true_iff.mp h).2
  by_cases h_t : .consumer id ∈ visitedTasks
  · have h_i := List.all_eq_true.mp (List.all_eq_true.mp h_all _ h_t) _ h_leaving
    exact of_decide_eq_true h_i rfl
  · rw [Leaving, h_idle _ h_t] at h_leaving
    exact List.not_mem_nil h_leaving

/-- A consumer is between the two sections, and the supervisor waits with unseen
changes. -/
theorem sample_asks (Allowed : Config ℕ → Action Task Choice (Request ℕ) → Prop)
    (h_allowed : ∀ c a, Within visitedTasks c → uneventful c a = true → Allowed c a)
    (h_len : Lenient Allowed) (h_lag : LenientLag Allowed) :
    ∃ c d stall rest, (hubProgram sampleHub).Reachable (initialConfig ℕ) Allowed c ∧
      c.todo firstSupervisor = .select d stall :: rest ∧ d.scope = .shared ∧
      (c.store.locals firstSupervisor).seen ≠ c.store.version ∧ Leaving c 0 ∧
      (∃ e, c.store.state.slots 0 = some e ∧ e.isolated = none ∧ e.resync = true) ∧
      c.store.state.scopeIds .shared = [0] ∧ d.connection.ids = [0] := by
  -- the supervisor is attached and the queue of its one slot overflows
  obtain ⟨c₀, d, target, stall, rest, h_reach, h_attached, h_id, h_carries, -, h_seen, h_live,
    h_ids, -⟩ := sample_attached Allowed h_allowed
  obtain ⟨c₁, stall', h₁, h_todo₁, h_others₁, h_aside₁, h_seen₁, h_items₁⟩ :=
    fall_behind sampleHub h_len h_lag rfl h_attached h_carries
  have h_idle := h_attached.idle
  have h_streaming := h_attached.streaming
  rw [h_id] at h_items₁ h_idle h_streaming
  have h_shared₁ : c₁.store.state.scopeIds .shared = [0] := by
    rw [h_aside₁.scopeIds]
    exact h_live
  -- the consumer drains the queue and asks for its resync
  obtain ⟨c₂, h₂, h_asks, -⟩ := ask_resync sampleHub h_len h_lag
    ((h_others₁ _ Task.noConfusion).trans h_idle)
    (by rw [h_aside₁.streaming]; exact h_streaming)
    (h_items₁.trans (range_data (fun n => n) 16383))
    (by rw [h_aside₁.lagging, ← h_id]; exact Function.update_self ..)
    (by rw [h_shared₁]; exact List.mem_cons_self)
  refine ⟨c₂, d, stall', rest, (h_reach.trans h₁).trans h₂, ?_, h_attached.shared, ?_, ?_,
    h_asks.entry, (h_asks.scopeIds _).trans h_shared₁, h_ids⟩
  · rw [h_asks.others _ Task.noConfusion, h_todo₁]
  · rw [h_asks.seen, h_asks.version, h_seen₁, h_aside₁.version]
    exact h_seen
  · rw [Leaving, h_asks.todo]
    exact List.mem_cons_self

/-- The theorem at a consumer that is between the two sections. -/
theorem resync_leaves_shared_alone_asked : ∃ c : Config ℕ,
    (hubProgram sampleHub).Reachable (initialConfig ℕ) Undisturbed c ∧ Leaving c 0 ∧
      ∀ e, c.store.state.slots 0 = some e → e.belongsTo 0 .shared = true →
        (e.resync = true ↔ Leaving c 0) := by
  obtain ⟨c, -, -, -, h_reach, -, -, -, h_leaving, -⟩ := sample_asks Undisturbed
    (fun _ _ h_idle h => undisturbed_of_uneventful h_idle h)
    (.of_points [.snapshot, .reconnectNeeded] (by decide) fun _ _ => undisturbed_of_point)
    (LenientLag.of_points [.snapshot, .reconnectNeeded] (by decide) fun _ _ => undisturbed_of_point)
  exact ⟨c, h_reach, h_leaving, fun e h_e h_scope =>
    (resync_leaves_shared_alone h_reach).2 0 e h_e h_scope⟩

/-- **A resync can reconnect the shared connection.** The supervisor wakes up for
some other change while a consumer is between the two sections: it finds all its
slots connected and none of its aliases stale, and reconnects for the resync. -/
theorem resync_reconnects_shared : ∃ (c : Config ℕ) (d : Driving ℕ) (rest : List (Instr ℕ)),
    (hubProgram sampleHub).Reachable (initialConfig ℕ) Program.anyStep c ∧
      c.todo firstSupervisor = .reconnectNeeded d :: rest ∧ d.scope = .shared ∧
      c.store.state.reconnectNeeded .shared d.connection.ids = true ∧
      c.store.state.resyncPending .shared = true ∧
      c.store.state.scopeIds .shared = [0] ∧ d.connection.ids = [0] ∧
      ∃ e, c.store.state.slots 0 = some e ∧ e.belongsTo 0 .shared = true ∧ e.resync = true := by
  -- one slot on the shared connection, between the two sections of its request
  obtain ⟨c, d, stall, rest, h_reach, h_todo, h_scope, h_seen, h_leaving, ⟨e, h_e, h_iso, h_sync⟩,
    h_live, h_ids⟩ := sample_asks Program.anyStep (fun _ _ _ _ => True.intro) lenient_anyStep
      lenientLag_anyStep
  -- the supervisor wakes up from the wait for the next event
  let woken : Effect ℕ :=
    { store := c.store.markSeen firstSupervisor, next := [.reconnectNeeded d] }
  have h_exec : (hubProgram sampleHub).exec firstSupervisor .changed (.select d stall) c =
      some woken := by
    change exec sampleHub firstSupervisor .changed (.select d stall) c = some woken
    simp only [exec, if_neg h_seen]
    rfl
  -- its flag is seen on the shared connection
  have h_pending : c.store.state.resyncPending .shared = true := by
    unfold HubState.resyncPending
    rw [h_live, List.any_cons, h_e, Option.any_some, h_sync]
    rfl
  refine ⟨c.resume firstSupervisor rest woken, d, rest,
    h_reach.trans (.exec .changed h_todo h_exec True.intro), resume_todo_self .., h_scope, ?_,
    h_pending, h_live, h_ids, e, h_e, Option.isNone_iff_eq_none.mpr h_iso, h_sync⟩
  change c.store.state.reconnectNeeded .shared d.connection.ids = true
  unfold HubState.reconnectNeeded
  rw [h_pending]
  dsimp only
  rw [Bool.or_true, Bool.true_or, Bool.true_or]

end Blokli
