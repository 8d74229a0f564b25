import BlokliClient.Hub.Dispatch
import BlokliClient.Hub.Documents
import BlokliClient.Hub.History
import BlokliClient.Hub.Supervision

/-!
# The end of a subscription

`end_slots` removes a slot and with it the sender that its entry holds. The
other senders of its queue are held by the snapshots and connections that list
the slot, and by what is handed over on their behalf (`Backed`). A supervisor
that returned holds none, and no snapshot lists the slot any more, so the stream
ends as soon as the connections that still list it are gone.

This leaves the other supervisors: a slot that moved to a connection of its own
stays listed by the shared connection until that one is rebuilt. `Released`
holds in the runs in which no other supervisor lists a slot that is ended.
-/

namespace Blokli

open Worklist

variable {V : Type} {hub : HubConfig} {t : Task} {ch : Choice} {i : Instr V} {c c' : Config V}
  {e : Effect V} {a : Action Task Choice (Request V)}

/-! ### Who holds a sender -/

/-- The slots that the snapshot or the connection of an instruction lists. -/
def Instr.lists : Instr V → List SlotId
  | .debounce _ _ slots | .awaitChange _ _ _ slots | .build _ slots => slots.map Prod.fst
  | .releaseSlots ids => ids
  | .openStream d | .stallWakeup d | .select d _ | .reconnectNeeded d | .leaveDrive d _
  | .malformedEvent d => d.connection.ids
  | .readLive d | .dispatchPayloads d | .dispatchErrors d | .dispatchDocument d =>
    d.connection.ids
  | _ => []

/-- Whoever holds a sender lists the slot, or is followed by what does. -/
def Backed : List (Instr V) → Prop
  | [] => True
  | i :: l => (∀ id ∈ i.holds, id ∈ i.lists ∨ ∃ j ∈ l, id ∈ j.lists) ∧ Backed l

theorem Backed.append {l l' : List (Instr V)} (h : Backed l) (h' : Backed l') :
    Backed (l ++ l') := by
  induction l with
  | nil => exact h'
  | cons i l ih =>
    refine ⟨fun id h_id => (h.1 id h_id).imp_right fun ⟨j, hj, h_j⟩ => ?_, ih h.2⟩
    exact ⟨j, List.mem_append_left _ hj, h_j⟩

/-- What holds no sender, or lists what it holds, needs no backing. -/
theorem Backed.cons {l : List (Instr V)} (h_i : ∀ id ∈ i.holds, id ∈ i.lists) (h : Backed l) :
    Backed (i :: l) := ⟨fun id h_id => Or.inl (h_i id h_id), h⟩

/-- What lists nothing itself is backed by what follows. -/
theorem Backed.before {l : List (Instr V)} (h_i : ∀ id ∈ i.holds, ∃ j ∈ l, id ∈ j.lists)
    (h : Backed l) : Backed (i :: l) := ⟨fun id h_id => Or.inr (h_i id h_id), h⟩

/-- The same, of handing over to many. -/
theorem Backed.map {α : Type} {f : α → Instr V} {l' : List (Instr V)} (xs : List α)
    (h_f : ∀ x ∈ xs, ∀ id ∈ (f x).holds, ∃ j ∈ l', id ∈ j.lists) (h' : Backed l') :
    Backed (xs.map f ++ l') := by
  induction xs with
  | nil => exact h'
  | cons x xs ih =>
    refine ⟨fun id h_id => Or.inr ?_, ih fun y hy => h_f y (List.mem_cons_of_mem _ hy)⟩
    obtain ⟨j, hj, h_j⟩ := h_f x List.mem_cons_self id h_id
    exact ⟨j, List.mem_append_right _ hj, h_j⟩

/-- Whoever holds a sender lists its slot, later at the latest. -/
theorem Backed.lists {l : List (Instr V)} (h : Backed l) (hi : i ∈ l) {id : SlotId}
    (h_id : id ∈ i.holds) : ∃ j ∈ l, id ∈ j.lists := by
  induction l with
  | nil => exact absurd hi List.not_mem_nil
  | cons k l ih =>
    rcases List.mem_cons.mp hi with rfl | hi
    · rcases h.1 id h_id with h_id | ⟨j, hj, h_j⟩
      · exact ⟨i, List.mem_cons_self, h_id⟩
      · exact ⟨j, List.mem_cons_of_mem _ hj, h_j⟩
    · obtain ⟨j, hj, h_j⟩ := ih h.2 hi
      exact ⟨j, List.mem_cons_of_mem _ hj, h_j⟩

theorem mem_connection_ids {d : Driving V} {target : SlotTarget V}
    (h : target ∈ d.connection.slotTargets) : target.id ∈ d.connection.ids :=
  List.mem_map_of_mem h

/-- **Backing is kept** by every instruction. -/
theorem exec_backed (h : exec hub t ch i c = some e) {rest : List (Instr V)}
    (h_back : Backed (i :: rest)) : Backed (e.next ++ rest) := by
  have h_rest := h_back.2
  cases i with
  -- a start lists no slot
  | ensureSupervisors =>
    obtain rfl := Option.some.inj h
    exact Backed.map _ (fun _ _ _ h_id => absurd h_id List.not_mem_nil) h_rest
  -- a refusal is reported to targets of the connection, which stands behind it
  | reject scope targets problem error =>
    obtain rfl := Option.some.inj h
    refine Backed.map _ (fun target h_target id h_id => ?_) h_rest
    obtain rfl := List.mem_singleton.mp h_id
    exact (h_back.1 _ (List.mem_map_of_mem (List.mem_filter.mp h_target).1)).resolve_left
      List.not_mem_nil
  -- a failure to connect, to every target
  | openStream d =>
    obtain rfl := Option.some.inj h
    unfold execOpenStream
    split
    · refine Backed.append (Backed.map _ (fun target h_target id h_id => ?_)
        (Backed.cons (fun _ h_id => h_id) trivial)) h_rest
      obtain rfl := List.mem_singleton.mp h_id
      exact ⟨_, List.mem_cons_self, mem_connection_ids h_target⟩
    · exact Backed.cons (fun _ h_id => h_id) h_rest
  -- a document that cannot be built: its slots are those of the snapshot, which ended with it
  | build scope slots =>
    simp only [exec, execBuild] at h
    split at h
    · cases h
    · obtain rfl := Option.some.inj h
      refine Backed.append (Backed.map _ (fun p hp id h_id => ?_)
        (Backed.cons (fun _ h_id => absurd h_id List.not_mem_nil)
          (Backed.cons (fun _ h_id => h_id) trivial))) h_rest
      obtain rfl := List.mem_singleton.mp h_id
      exact ⟨_, List.mem_cons_of_mem _ List.mem_cons_self, List.mem_map_of_mem hp⟩
    · obtain rfl := Option.some.inj h
      exact Backed.cons (fun _ h_id => h_id) h_rest
  -- the rest pass on what they hold, or leave it out
  | _ =>
    simp only [exec, execReadCause, execTrySend, execNext, execEvent, execStreamError,
      execLeaveDrive, execPayload, execSlotError, execDocument, execMalformedEvent, execDeliver,
      execReceive, malformedFrame] at h
    repeat' split at h
    all_goals first
      | (cases h; done)
      | (obtain rfl := Option.some.inj h
         clear h
         first
           | exact h_rest
           | exact Backed.cons (fun _ h_id => h_id) h_rest
           | exact Backed.cons (fun _ h_id => absurd h_id List.not_mem_nil) h_rest
           | exact Backed.cons (fun _ h_id => absurd h_id List.not_mem_nil)
               (Backed.cons (fun _ h_id => h_id) h_rest)
           | exact Backed.cons (fun _ h_id => absurd h_id List.not_mem_nil)
               (Backed.cons (fun _ h_id => absurd h_id List.not_mem_nil) h_rest)
           | exact Backed.cons (fun _ h_id => absurd h_id List.not_mem_nil)
               (Backed.cons (fun _ h_id => absurd h_id List.not_mem_nil)
                 (Backed.cons (fun _ h_id => h_id) h_rest))
           -- a refusal of the whole connection
           | exact Backed.before (fun _ h_id => ⟨_, List.mem_cons_self, h_id⟩)
               (Backed.cons (fun _ h_id => h_id) h_rest)
           -- the payload or the error of one slot
           | exact Backed.before (List.forall_mem_singleton.mpr ⟨_, List.mem_cons_self,
                 mem_connection_ids (Dispatching.target_eq_some ‹Dispatching.target _ _ = _›).1⟩)
               (Backed.cons (fun _ h_id => h_id) h_rest)
           | exact Backed.before (List.forall_mem_singleton.mpr ⟨_,
                 List.mem_cons_of_mem _ List.mem_cons_self,
                 mem_connection_ids (Dispatching.target_eq_some ‹Dispatching.target _ _ = _›).1⟩)
               (Backed.cons (fun _ h_id => absurd h_id List.not_mem_nil)
                 (Backed.cons (fun _ h_id => h_id) h_rest)))

/-- What supervisors start with holds no sender. -/
theorem backed_of_points {l : List (Instr V)} (h : ∀ i ∈ l, i.holds = []) : Backed l := by
  induction l with
  | nil => trivial
  | cons i l ih =>
    refine Backed.cons (fun id h_id => ?_) (ih fun j hj => h j (List.mem_cons_of_mem _ hj))
    rw [h i List.mem_cons_self] at h_id
    exact absurd h_id List.not_mem_nil

theorem holds_of_quiet_point (h : i.point ∈ [.prepare, .readCause, .dropReceiver, .dropToken,
    .ensureSupervisors, .spawnSupervisor, .bumpGeneration, .receive, .closeReceiver, .deregister]) :
    i.holds = [] := by
  cases i <;> first
    | rfl
    | exact absurd h (Point.not_mem rfl)

/-- Every sender is backed. -/
def AllBacked (c : Config V) : Prop := ∀ t, Backed (c.todo t)

theorem AllBacked.initial : AllBacked (initialConfig V) := fun _ => trivial

/-- One step keeps every sender backed. -/
theorem AllBacked.step (h_inv : AllBacked c) (h : (hubProgram hub).step c a = some c') :
    AllBacked c' := by
  refine Program.todo_of_step (motive := fun _ l => Backed l) h h_inv ?_ ?_
  · intro t ch i rest e _ h_todo he
    have h_old := h_inv t
    rw [h_todo] at h_old
    -- a new supervisor holds nothing
    refine ⟨exec_backed he h_old, fun t' is h_sp _ => ?_⟩
    obtain ⟨token, -, rfl, rfl⟩ := exec_spawned he h_sp
    refine backed_of_points fun j hj => holds_of_quiet_point ?_
    have h_points := supervisorCode_points token j hj
    revert h_points
    cases j.point <;> decide
  · -- a request holds nothing either
    intro r t e _ he _
    obtain ⟨h_sp, -, -, -, -, -, -, -, -, -, h_points⟩ := accept_frame he
    refine ⟨backed_of_points fun j hj => holds_of_quiet_point ?_, fun t' is h_is => ?_⟩
    · have h_point := h_points j hj
      revert h_point
      cases j.point <;> decide
    · rw [h_sp] at h_is
      cases h_is

/-- **Who lists a slot.** What lists a slot after an instruction did before, or
it is a snapshot of the registered slots. -/
theorem exec_lists (h : exec hub t ch i c = some e)
    (h_distinct : ∀ slots, i.snapshotSlots = some slots → (slots.map Prod.fst).Nodup) :
    ∀ j ∈ e.next, ∀ id ∈ j.lists, id ∈ i.lists ∨ ∃ entry, c.store.state.slots id = some entry := by
  intro j hj id h_id
  cases i with
  -- the snapshot lists registered slots only
  | snapshot scope waitUntil =>
    obtain rfl := Option.some.inj h
    change j ∈ (if (c.store.state.snapshot scope).2.isEmpty then _ else _) at hj
    split at hj
    · exact absurd hj List.not_mem_nil
    · obtain rfl := List.mem_singleton.mp hj
      change id ∈ (c.store.state.snapshot scope).2.map Prod.fst at h_id
      rw [HubState.snapshot_ids] at h_id
      obtain ⟨-, entry, h_entry, -⟩ := (HubState.mem_scopeIds _).mp h_id
      exact Or.inr ⟨entry, h_entry⟩
  -- the connection has the ids of the slots it is built from
  | build scope slots =>
    left
    simp only [exec, execBuild] at h
    split at h
    · cases h
    · obtain rfl := Option.some.inj h
      rcases List.mem_append.mp hj with hj | hj
      · obtain ⟨p, -, rfl⟩ := List.mem_map.mp hj
        exact absurd h_id List.not_mem_nil
      · rcases List.mem_cons.mp hj with rfl | hj
        · exact absurd h_id List.not_mem_nil
        · obtain rfl := List.mem_singleton.mp hj
          exact h_id
    · next connection h_ok =>
      obtain rfl := Option.some.inj h
      obtain rfl := List.mem_singleton.mp hj
      exact ((buildConnection_targets h_ok (h_distinct slots rfl)).2.1.mem_iff).mp h_id
  -- the rest list no slot that they were not given
  | _ =>
    left
    revert j
    simp only [exec, execReadCause, execTrySend, execOpenStream, execNext, execEvent,
      execStreamError, execLeaveDrive, execPayload, execSlotError, execDocument,
      execMalformedEvent, execReject, execDeliver, execReceive, malformedFrame] at h
    repeat' split at h
    all_goals first
      | (cases h; done)
      | (obtain rfl := Option.some.inj h
         clear h
         simp only [List.forall_mem_append, List.forall_mem_cons, List.forall_mem_map]
         repeat' apply And.intro
         all_goals first
           | exact fun h_id => h_id
           | exact List.forall_mem_nil _
           | exact fun h_id => absurd h_id List.not_mem_nil
           | exact fun _ _ h_id => absurd h_id List.not_mem_nil)

/-! ### Slots that ended -/

/-- No other supervisor has a snapshot or a connection that lists a slot when the
slot is ended. -/
def Unlisted (c : Config V) (a : Action Task Choice (Request V)) : Prop :=
  ∀ t ids reason, Runs c a t (.endSlots ids reason) → ∀ id ∈ ids,
    (∃ e, c.store.state.slots id = some e) → ∀ t', t' ≠ t → ∀ i ∈ c.todo t', id ∉ i.lists

/-- **Released.** A slot that ended is gone for good, and no supervisor but the
one that ended it lists it. -/
def Released (c : Config V) : Prop :=
  ∀ t ids reason, .ended t ids reason ∈ c.store.history → ∀ id ∈ ids,
    id < c.store.state.nextId ∧ c.store.state.slots id = none ∧
      ∀ t', t' ≠ t → ∀ i ∈ c.todo t', id ∉ i.lists

/-- A slot that is gone does not come back. -/
theorem slots_none_step (h : (hubProgram hub).step c a = some c') {id : SlotId}
    (h_lt : id < c.store.state.nextId) (h_none : c.store.state.slots id = none) :
    c'.store.state.slots id = none := by
  cases slot_step h id with
  | same slot =>
    rw [h_none] at slot
    exact Option.map_eq_none_iff.mp slot
  | registered spec created request number slot => exact absurd number (Nat.ne_of_lt h_lt)
  | isolated t cause e runs before shared slot => cases h_none.symm.trans before
  | supervised t e isolation runs before moved dead slot => cases h_none.symm.trans before
  | caughtUp t scope waitUntil e runs before belongs slot => cases h_none.symm.trans before
  | resumed t payload next e runs before resume slot => cases h_none.symm.trans before
  | resync t e runs before slot => cases h_none.symm.trans before
  | ended t ids reason runs listed slot => exact slot
  | deregistered t runs slot => exact slot

/-- Nobody starts to list a slot that is gone. -/
theorem unlisted_step (h_distinct : Distinct c) (h : (hubProgram hub).step c a = some c')
    {id : SlotId} (h_none : c.store.state.slots id = none) (h_t : ∀ i ∈ c.todo t, id ∉ i.lists) :
    ∀ i ∈ c'.todo t, id ∉ i.lists := by
  intro j hj h_id
  have h_inner : j.point.begins = false := by
    cases j <;> first
      | rfl
      | exact absurd h_id List.not_mem_nil
  rcases origin_step h hj h_inner with hj | ⟨ch, i, rest, e, ha, h_todo, he, hj⟩
  · exact h_t j hj h_id
  · have hi : i ∈ c.todo t := by
      rw [h_todo]
      exact List.mem_cons_self
    rcases exec_lists he (h_distinct t i hi) j hj id h_id with h_old | ⟨entry, h_entry⟩
    · exact h_t i hi h_old
    · cases h_none.symm.trans h_entry

theorem Released.step (h_inv : Released c) (h_sound : Sound c) (h_distinct : Distinct c)
    (h_allowed : Unlisted c a) (h : (hubProgram hub).step c a = some c') : Released c' := by
  intro t ids reason h_ev id h_id
  obtain ⟨new, h_new, h_sources⟩ := history_step h
  rw [h_new] at h_ev
  rcases List.mem_append.mp h_ev with h_ev' | h_ev'
  -- the end of the stream is an event of this step, or an older one
  · rcases h_sources _ h_ev' with ⟨t₀, i, h_runs, h_i⟩ | ⟨spec, created, -, h_eq⟩
    · cases i with
      | endSlots ids₀ reason₀ =>
        -- the slot ends in this step
        obtain ⟨ch, rest, e, rfl, h_todo, he, rfl⟩ := h_runs.exec h
        obtain rfl := Option.some.inj he
        rw [new_eq_singleton h_new, List.mem_singleton] at h_ev'
        obtain ⟨rfl, rfl, rfl⟩ := Event.ended.inj h_ev'
        obtain ⟨h_listed, h_some⟩ := List.mem_filter.mp h_id
        obtain ⟨entry, h_entry⟩ := Option.isSome_iff_exists.mp h_some
        refine ⟨h_sound.numbered id entry h_entry, if_pos h_listed, fun t' h_t' => ?_⟩
        rw [resume_todo_of_ne c t rest _ h_t' rfl]
        exact h_allowed t ids₀ reason h_runs id h_listed ⟨entry, h_entry⟩ t' h_t'
      | _ => exact absurd h_i (Point.not_mem rfl)
    · -- a registration ends no stream
      cases h_eq
  · -- who is gone stays gone, and so does the list of those who know it
    obtain ⟨h_lt, h_none, h_others⟩ := h_inv t ids reason h_ev' id h_id
    exact ⟨Nat.lt_of_lt_of_le h_lt (nextId_le_step h), slots_none_step h h_lt h_none,
      fun t' h_t' => unlisted_step h_distinct h h_none (h_others t' h_t')⟩

/-- A supervisor that returned lists nothing. -/
theorem lists_of_returned (h_sound : Sound c) {token : Token} (h_returned : ¬ Executing c token) :
    ∀ i ∈ c.todo (.supervisor token), i.lists = [] := by
  intro i hi
  have h_tail := h_sound.tokens.tail (.supervisor token)
  cases i <;> first
    | rfl
    | exact absurd (Tail.executing_of_mem h_tail hi (Point.not_mem rfl)) h_returned

/-- **Every subscription that ended ends its stream**, in a run in which no other
supervisor lists a slot that is ended: once the supervisor that ended it has
returned, nobody holds a sender of its queue, and as soon as the queue is
drained `poll_next` finishes. -/
theorem ended_stream_finishes (h : (hubProgram hub).Reachable (initialConfig V) Unlisted c)
    {token : Token} {ids : List SlotId} {reason : SubscriptionEnd}
    (h_ended : .ended (.supervisor token) ids reason ∈ c.store.history)
    (h_returned : ¬ Executing c token) {id : SlotId} (h_id : id ∈ ids) :
    (∀ t, ∀ i ∈ c.todo t, id ∉ i.holds) ∧ senderHeld c id = false ∧
      (c.store.queues id = [] → ∃ e, exec hub (.consumer id) .proceed (.receive id) c = some e ∧
        e.store.streaming id = false ∧ e.next = [.closeReceiver id, .deregister id]) := by
  have h_sound := Sound.reachable h
  have h_released : Released c := h.induct (motive := Released)
    (fun _ _ _ h_ev => absurd h_ev List.not_mem_nil)
    fun h_reach h_inv h_allowed h_step =>
      h_inv.step (Sound.reachable h_reach) (Distinct.reachable h_reach) h_allowed h_step
  have h_backed : AllBacked c := h.induct (motive := AllBacked) AllBacked.initial
    fun _ h_inv _ h_step => h_inv.step h_step
  obtain ⟨-, h_none, h_others⟩ := h_released _ ids reason h_ended id h_id
  -- a sender that an instruction holds is on a list further down in its task
  have h_holds : ∀ t, ∀ i ∈ c.todo t, id ∉ i.holds := by
    intro t i hi h_mem
    obtain ⟨j, hj, h_j⟩ := (h_backed t).lists hi h_mem
    -- the ending supervisor has returned, so it lists nothing
    by_cases h_t : t = .supervisor token
    · subst h_t
      rw [lists_of_returned h_sound h_returned j hj] at h_j
      exact List.not_mem_nil h_j
    · exact h_others t h_t j hj h_j
  have h_held : senderHeld c id = false := by
    -- so neither the map nor a task has a sender
    unfold senderHeld
    rw [h_none, Option.isSome_none, Bool.false_or]
    refine Bool.eq_false_iff.mpr fun h_any => ?_
    obtain ⟨token', -, h_any⟩ := List.any_eq_true.mp h_any
    obtain ⟨i, hi, h_i⟩ := List.any_eq_true.mp h_any
    exact h_holds _ i hi (of_decide_eq_true h_i)
  refine ⟨h_holds, h_held, fun h_queue => ⟨_, rfl, ?_⟩⟩
  rw [execReceive_ended h_queue h_held]
  exact ⟨Function.update_self .., rfl⟩

/-- A hub whose subscriptions end with their connection. -/
def oneShotHub : HubConfig := { sampleHub with cfg := { subscriptionStreamRestartDelay := none } }

/-- A check: when a slot is ended, no other of the listed tasks lists a slot. -/
def endsAlone (c : Config ℕ) : Action Task Choice (Request ℕ) → Bool
  | .run t _ => (c.todo t).head?.all fun i => decide (i.point ≠ .endSlots) ||
      sampleTasks.all fun t' => decide (t' = t) || (c.todo t').all fun j => j.lists.isEmpty
  | .request _ => true

/-- The check does what it is for. -/
theorem unlisted_of_endsAlone {c : Config ℕ} {a : Action Task Choice (Request ℕ)}
    (h_idle : Within sampleTasks c) (h : endsAlone c a = true) : Unlisted c a := by
  rintro t ids reason ⟨ch, rest, rfl, h_todo⟩ id - - t' h_t' i hi h_id
  by_cases h_mem : t' ∈ sampleTasks
  · simp only [endsAlone, h_todo, List.head?_cons, Option.all_some, Instr.point, ne_eq,
      not_true_eq_false, decide_false, Bool.false_or] at h
    have h_all := List.all_eq_true.mp h t' h_mem
    rw [decide_eq_false h_t', Bool.false_or] at h_all
    rw [List.isEmpty_iff.mp (List.all_eq_true.mp h_all i hi)] at h_id
    exact List.not_mem_nil h_id
  · rw [h_idle t' h_mem] at hi
    exact List.not_mem_nil hi

/-- What the SSE client yields when it gives a stream up: an error, and then the end. -/
def givingUp (t : Task) : List (Action Task Choice (Request ℕ)) :=
  [.run t (.next (some (.error .other))), .run t .proceed, .run t .proceed, .run t (.next none)]

/-- The connection of the only stream ends. -/
def closing : List (Action Task Choice (Request ℕ)) :=
  givingUp firstSupervisor ++ List.replicate 4 (.run firstSupervisor .proceed)

/-- The theorem at a hub with one stream, whose connection has ended. Its queue is empty, and
the next poll finishes it. -/
theorem ended_stream_finishes_closed : ∃ c e,
    (hubProgram oneShotHub).runWithin sampleTasks endsAlone (initialConfig ℕ)
      (registering 0 5 ++ opening ++ closing) = some c ∧
    senderHeld c 0 = false ∧ c.store.queues 0 = [] ∧
    exec oneShotHub (.consumer 0) .proceed (.receive 0) c = some e ∧
    e.store.streaming 0 = false ∧ e.next = [.closeReceiver 0, .deregister 0] := by
  have ⟨c, h_run, h_ended, h_todo, h_queue⟩ : ∃ c,
      (hubProgram oneShotHub).runWithin sampleTasks endsAlone (initialConfig ℕ)
        (registering 0 5 ++ opening ++ closing) = some c ∧
      .ended firstSupervisor [0] .completed ∈ c.store.history ∧
      c.todo firstSupervisor = [.dropToken ⟨0, .shared⟩, .ensureSupervisors] ∧
      c.store.queues 0 = [] :=
    ⟨_, rfl, List.mem_cons_self, rfl, rfl⟩
  have h_returned : ¬ Executing c ⟨0, .shared⟩ := fun h => by
    change _ ∈ c.todo firstSupervisor at h
    rw [h_todo] at h
    simp at h
  obtain ⟨h_reach, -⟩ := Program.Reachable.runWithin (fun _ _ => unlisted_of_endsAlone) .init
    (fun _ _ => rfl) h_run
  obtain ⟨-, h_held, h_finishes⟩ :=
    ended_stream_finishes h_reach h_ended h_returned List.mem_cons_self
  obtain ⟨e, h_exec, h_over, h_next⟩ := h_finishes h_queue
  exact ⟨c, e, h_run, h_held, h_queue, h_exec, h_over, h_next⟩

/-- The payload of slot 0 does not decode. -/
def undecodable : GraphQlResponse where
  data := some (.object [("s0".toList, .null)])
  errors := none
  keysDistinct := by
    rintro _ ⟨⟩
    exact List.nodup_singleton _

/-- The supervisor of slot 0 after it was isolated. -/
def ownSupervisor : Task := .supervisor ⟨2, .isolated 0⟩

/-- Two streams share a connection until a payload of slot 0 does not decode. The
slot moves to a connection of its own, which ends, while the shared connection
sees no need to be rebuilt. -/
def endingApart : List (Action Task Choice (Request ℕ)) :=
  registering 0 5 ++ registering 1 4 ++ opening ++
    .run firstSupervisor (.next (some (.event (some undecodable)))) ::
    List.replicate 13 (.run firstSupervisor .proceed) ++
    .run firstSupervisor .changed :: List.replicate 2 (.run firstSupervisor .proceed) ++
    [.run ownSupervisor .proceed, .request (.tick (Duration.fromSecs 1)),
      .run ownSupervisor .timeout] ++
    List.replicate 6 (.run ownSupervisor .proceed) ++
    givingUp ownSupervisor ++ List.replicate 4 (.run ownSupervisor .proceed)

/-- **A subscription that ended and whose stream does not**: the shared
connection waits with every generation seen and still lists the slot, the
supervisor that ended the slot has returned, and `poll_next` on the empty queue
stays pending. -/
theorem ended_stream_stays_pending : ∃ c,
    (hubProgram oneShotHub).run (initialConfig ℕ) endingApart = some c ∧
    .ended ownSupervisor [0] .completed ∈ c.store.history ∧
    c.todo ownSupervisor = [.dropToken ⟨2, .isolated 0⟩, .ensureSupervisors] ∧
    (∃ d stall rest, c.todo firstSupervisor = .select d stall :: rest ∧
      d.connection.ids = [0, 1] ∧ (c.store.locals firstSupervisor).seen = c.store.version) ∧
    c.store.streaming 0 = true ∧ c.store.queues 0 = [] ∧
    exec oneShotHub (.consumer 0) .proceed (.receive 0) c = some { store := c.store, next := [] } :=
  ⟨_, rfl, List.mem_cons_self, rfl, ⟨_, _, _, rfl, rfl, rfl⟩, rfl, rfl, rfl⟩

end Blokli
