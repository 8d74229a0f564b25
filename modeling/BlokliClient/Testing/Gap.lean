import BlokliClient.Testing.Lock

/-!
# From the snapshot to the live part

Is every change that an accepted transaction publishes either in the initial part of
a stream or received in its live part?

* The methods that activate their receiver under the read lock have no gap:
  transactions publish under the write lock.
* The others have none as long as no transaction publishes on their channel while a
  call is between its snapshot and the activation of its receiver.

A transaction is numbered by the state that it wrote. The initial part contains its
change when it was read from that state or a later one.
-/

namespace Blokli.Testing

open Worklist

/-- The initial part of the stream was read from a state that the write, and possibly
later ones, had been applied to. -/
def Contains (store : Store) (stream : Stream) (write : ℕ) : Prop :=
  ∃ j state, write ≤ j ∧ store.written[j]? = some state ∧
    stream.initial = stream.subscription.initialPart state

/-- The receiver of the stream got the message at this position of the log. -/
def Receives (stream : Stream) (position : ℕ) : Prop := stream.since ≤ position

/-- Every change that a transaction published is contained or received. -/
def Gapless (store : Store) (stream : Stream) : Prop :=
  ∀ position event write,
    (store.log stream.subscription.feed)[position]? = some (event, .transaction write) →
    Contains store stream write ∨ Receives stream position

/-- A call of a method with property `P` has released the lock after its snapshot and
has not activated its receiver for the channel. -/
def Exposed (P : Subscription → Prop) (c : Conf) (feed : Feed) : Prop :=
  ∃ t snapshot, .activate snapshot ∈ c.todo t ∧ P snapshot.subscription ∧
    snapshot.subscription.locked = false ∧ snapshot.subscription.feed = feed

/-- The step is no publication of a transaction on a channel with an exposed call. -/
def Spared (P : Subscription → Prop) (c : Conf) (a : Action Task Unit Request) : Prop :=
  ∀ t event write rest, a = .run t () →
    c.todo t = .publish event (.transaction write) :: rest → ¬Exposed P c event.feed

/-! ### What one instruction records -/

/-- The last state that was written is the current one. -/
def Store.Current (store : Store) : Prop := store.written.getLast? = some store.state

/-- What an instruction writes, logs, opens and leaves to do. -/
structure Records (c : Conf) (i : Point) (e : Worklist.Effect Task Point Store) : Prop where
  written : ∃ states, e.store.written = c.store.written ++ states
  current : c.store.Current → e.store.Current
  log : e.store.log = c.store.log ∨
    ∃ event origin, i = .publish event origin ∧ e.store.log = (c.store.broadcast event origin).log
  streams : e.store.streams = c.store.streams ∨
    ∃ snapshot, i = .activate snapshot ∧ e.store.log = c.store.log ∧
      e.store.written = c.store.written ∧ e.store.streams = c.store.streams ++
        [{ toSnapshot := snapshot, since := (c.store.log snapshot.subscription.feed).length }]
  publishing : ∀ event write, .publish event (.transaction write) ∈ e.next →
    write < e.store.written.length
  reading : ∀ snapshot, .activate snapshot ∈ e.next → e.store = c.store ∧
    snapshot.asOf = c.store.written.length ∧
    snapshot.initial = snapshot.subscription.initialPart c.store.state
  shielded : ∀ snapshot, .activate snapshot ∈ e.next.tail → snapshot.subscription.locked = false

/-- The written state is the current one. -/
theorem current_write {store : Store} (state : BlokliTestState) : (store.write state).Current := by
  unfold Store.Current Store.write
  rw [List.getLast?_append, List.getLast?_singleton]
  rfl

/-- An instruction that leaves no publication and no activation. -/
theorem Records.of_quiet {c : Conf} {i : Point} {e : Worklist.Effect Task Point Store}
    (h_written : ∃ states, e.store.written = c.store.written ++ states)
    (h_current : c.store.Current → e.store.Current) (h_log : e.store.log = c.store.log)
    (h_streams : e.store.streams = c.store.streams)
    (h_publish : ∀ event write, .publish event (.transaction write) ∉ e.next)
    (h_activate : ∀ snapshot, .activate snapshot ∉ e.next) : Records c i e where
  written := h_written
  current := h_current
  log := Or.inl h_log
  streams := Or.inl h_streams
  publishing event write h_mem := absurd h_mem (h_publish event write)
  reading snapshot h_mem := absurd h_mem (h_activate snapshot)
  shielded snapshot h_mem := absurd (List.mem_of_mem_tail h_mem) (h_activate snapshot)

section Step

variable {t : Task} {ch : Unit} {i : Point} {c : Conf} {e : Worklist.Effect Task Point Store}

/-- What follows the execution of a transaction publishes nothing. -/
theorem publish_notMem_finish (client : TestClient) (result : Except ErrorKind (List Event))
    (submission : Submission) (event : Event) (origin : Origin) :
    Point.publish event origin ∉ submission.finish client result := by
  cases submission <;> simp [Submission.finish]

/-- What follows the execution of a transaction activates no receiver. -/
theorem activate_notMem_finish (client : TestClient) (result : Except ErrorKind (List Event))
    (submission : Submission) (snapshot : Snapshot) :
    Point.activate snapshot ∉ submission.finish client result := by
  cases submission <;> simp [Submission.finish]

/-- What an instruction does to the log, the written states and the streams. -/
theorem exec_records (h : exec t ch i c = some e) : Records c i e := by
  have h_same : ∃ states, c.store.written = c.store.written ++ states :=
    ⟨[], (List.append_nil _).symm⟩
  cases i with
  -- these write nothing, publish nothing and activate nothing
  | lockRead | lockWrite =>
    simp only [exec] at h
    split at h
    · obtain rfl := Option.some.inj h
      exact .of_quiet h_same id rfl rfl (fun _ _ => List.not_mem_nil) fun _ => List.not_mem_nil
    · cases h
  | unlockRead | unlockWrite =>
    obtain rfl := Option.some.inj h
    exact .of_quiet h_same id rfl rfl (fun _ _ => List.not_mem_nil) fun _ => List.not_mem_nil
  | cloneAccounts selector =>
    obtain rfl := Option.some.inj h
    exact .of_quiet h_same id rfl rfl (fun _ _ => by simp) fun _ => by simp
  | readInitial subscription accounts =>
    obtain rfl := Option.some.inj h
    refine ⟨h_same, id, Or.inl rfl, Or.inl rfl, fun event write h_mem => ?_,
      fun snapshot h_mem => ?_, fun snapshot h_mem => ?_⟩
    · revert h_mem
      dsimp only
      split <;> simp
    · -- the only activation is that of the snapshot just read
      have h_snapshot : snapshot = {
          subscription := subscription
          accounts := accounts
          initial := subscription.initialPart c.store.state
          asOf := c.store.written.length } := by
        revert h_mem
        dsimp only
        split <;> simp
      subst h_snapshot
      exact ⟨rfl, rfl, rfl⟩
    · -- it follows at once only when the lock was released before
      revert h_mem
      dsimp only
      split
      · simp
      · next h_locked =>
        intro h_mem
        obtain rfl : snapshot = _ := Point.activate.inj (List.mem_singleton.mp h_mem)
        exact Bool.eq_false_iff.mpr h_locked
  | activate snapshot =>
    obtain rfl := Option.some.inj h
    exact ⟨h_same, id, Or.inl rfl, Or.inr ⟨snapshot, rfl, rfl, rfl, rfl⟩,
      fun _ _ h_mem => absurd h_mem List.not_mem_nil, fun _ h_mem => absurd h_mem List.not_mem_nil,
      fun _ h_mem => absurd h_mem List.not_mem_nil⟩
  -- a transaction writes when it is accepted
  | execute client signedTx submission =>
    simp only [exec] at h
    split at h
    · obtain rfl := Option.some.inj h
      exact .of_quiet h_same id rfl rfl (fun _ _ => publish_notMem_finish client _ submission _ _)
        fun _ => activate_notMem_finish client _ submission _
    · -- the new state is written before any of the events is published
      next events state _ =>
      obtain rfl := Option.some.inj h
      have h_activate : ∀ snapshot, Point.activate snapshot ∉
          events.map (fun event => .publish event (.transaction c.store.written.length)) ++
            submission.finish client (.ok events) := by
        intro snapshot h_mem
        rcases List.mem_append.mp h_mem with h_mem | h_mem
        · obtain ⟨event, -, h_eq⟩ := List.mem_map.mp h_mem
          cases h_eq
        · exact activate_notMem_finish client _ submission snapshot h_mem
      refine ⟨⟨[state], rfl⟩, fun _ => current_write state, Or.inl rfl, Or.inl rfl,
        fun event write h_mem => ?_, fun snapshot h_mem => absurd h_mem (h_activate snapshot),
        fun snapshot h_mem => absurd (List.mem_of_mem_tail h_mem) (h_activate snapshot)⟩
      -- and its publications carry the number of the write
      rcases List.mem_append.mp h_mem with h_mem | h_mem
      · obtain ⟨_, -, h_eq⟩ := List.mem_map.mp h_mem
        cases h_eq
        exact (List.length_append ..).symm ▸ Nat.lt_succ_self _
      · exact absurd h_mem (publish_notMem_finish client _ submission _ _)
  | publish event origin =>
    obtain rfl := Option.some.inj h
    exact ⟨h_same, id, Or.inr ⟨event, origin, rfl, rfl⟩, Or.inl rfl,
      fun _ _ h_mem => absurd h_mem List.not_mem_nil, fun _ h_mem => absurd h_mem List.not_mem_nil,
      fun _ h_mem => absurd h_mem List.not_mem_nil⟩
  -- these write without telling anyone
  | insertActiveTx | serve =>
    obtain rfl := Option.some.inj h
    exact .of_quiet ⟨[_], rfl⟩ (fun _ => current_write _) rfl rfl (fun _ _ => List.not_mem_nil)
      fun _ => List.not_mem_nil
  | updateTicketParameters newPrice newWinProb =>
    obtain rfl := Option.some.inj h
    refine .of_quiet ⟨[_], rfl⟩ (fun _ => current_write _) rfl rfl (fun event write => ?_)
      fun snapshot => ?_
    · dsimp only
      split <;> simp
    · dsimp only
      split <;> simp
  | hiddenUpdate update =>
    obtain rfl := Option.some.inj h
    exact .of_quiet ⟨[_], rfl⟩ (fun _ => current_write _) rfl rfl (fun _ _ => List.not_mem_nil)
      fun _ => List.not_mem_nil

/-- A call neither publishes nor activates when it is accepted. -/
theorem accept_records {r : Request} (h : accept r c = some (t, e)) :
    (∀ event origin, .publish event origin ∉ e.next) ∧ ∀ snapshot, .activate snapshot ∉ e.next := by
  cases r with
  | subscribe task subscription =>
    obtain ⟨rfl, rfl⟩ := Prod.mk.inj (Option.some.inj h)
    -- a subscription to channels is refused without a filter, and otherwise opens with the lock
    cases subscription with
    | channels selector =>
      dsimp only [Subscription.script]
      split <;> simp
    | accounts | graph | ticketParams | safeDeployments | services | serviceTypes
    | serviceRegistryConfig => simp [Subscription.script]
  | submit task client signedTx submission =>
    simp only [accept] at h
    -- a payload that does not decode is answered without the lock
    split at h
    · obtain ⟨rfl, rfl⟩ := Prod.mk.inj (Option.some.inj h)
      simp
    · obtain ⟨rfl, rfl⟩ := Prod.mk.inj (Option.some.inj h)
      simp
  | updatePriceAndWinProb task newPrice newWinProb =>
    obtain ⟨rfl, rfl⟩ := Prod.mk.inj (Option.some.inj h)
    simp
  | serve task call =>
    obtain ⟨rfl, rfl⟩ := Prod.mk.inj (Option.some.inj h)
    simp
  | hiddenStateUpdate task update =>
    obtain ⟨rfl, rfl⟩ := Prod.mk.inj (Option.some.inj h)
    simp

end Step

/-! ### What a run records -/

/-- The snapshot was read from the last of the states that it counts. -/
def Snapshot.Genuine (snapshot : Snapshot) (store : Store) : Prop :=
  ∃ j state, snapshot.asOf = j + 1 ∧ store.written[j]? = some state ∧
    snapshot.initial = snapshot.subscription.initialPart state

/-- A snapshot stays genuine while more states are written. -/
theorem Snapshot.Genuine.grow {snapshot : Snapshot} {store store' : Store}
    (h : snapshot.Genuine store) (h_written : ∃ states, store'.written = store.written ++ states) :
    snapshot.Genuine store' := by
  obtain ⟨j, state, h_asOf, h_state, h_initial⟩ := h
  obtain ⟨states, h_states⟩ := h_written
  refine ⟨j, state, h_asOf, ?_, h_initial⟩
  obtain ⟨h_lt, -⟩ := List.getElem?_eq_some_iff.mp h_state
  rw [h_states, List.getElem?_append_left h_lt]
  exact h_state

/-- What is written, logged and pending. An activation is the next instruction of its
task, or its method is an unlocked one. -/
structure Recorded (c : Conf) : Prop where
  current : c.store.Current
  logged : ∀ feed event write, (event, .transaction write) ∈ c.store.log feed →
    write < c.store.written.length
  publishing : ∀ t, ∀ i ∈ c.todo t, ∀ event write, i = .publish event (.transaction write) →
    write < c.store.written.length
  shielded : ∀ t, ∀ snapshot, .activate snapshot ∈ (c.todo t).tail →
    snapshot.subscription.locked = false

namespace Recorded

variable {c c' : Conf}

/-- At the start only the first state is written. -/
theorem initial (state : BlokliTestState) : Recorded (start state) where
  current := rfl
  logged _ _ _ h_mem := absurd h_mem List.not_mem_nil
  publishing _ _ h_mem := absurd h_mem List.not_mem_nil
  shielded _ _ h_mem := absurd h_mem List.not_mem_nil

/-- A broadcast adds its event to the log of its feed, and to no other. -/
theorem mem_broadcast {store : Store} {event : Event} {origin : Origin} {feed : Feed}
    {entry : Event × Origin} (h : entry ∈ (store.broadcast event origin).log feed) :
    entry ∈ store.log feed ∨ entry = (event, origin) ∧ feed = event.feed := by
  by_cases h_feed : feed = event.feed
  · subst h_feed
    unfold Store.broadcast at h
    dsimp only at h
    rw [Function.update_self] at h
    rcases List.mem_append.mp h with h | h
    · exact Or.inl h
    · exact Or.inr ⟨List.mem_singleton.mp h, rfl⟩
  · unfold Store.broadcast at h
    dsimp only at h
    rw [Function.update_of_ne h_feed] at h
    exact Or.inl h

variable {a : Action Task Unit Request}

/-- The states are only added to. -/
theorem written_step (h_step : clientProgram.step c a = some c') :
    ∃ states, c'.store.written = c.store.written ++ states := by
  rcases Program.step_cases h_step with ⟨t, ch, i, rest, e, -, -, h_exec, rfl⟩ |
    ⟨r, t, e, -, h_acc, -, rfl⟩
  · change exec t ch i c = some e at h_exec
    exact (exec_records h_exec).written
  · exact ⟨[], by rw [resume_store, (accept_lock h_acc).1, List.append_nil]⟩

/-- Written states are not forgotten. -/
theorem length_written_step (h_step : clientProgram.step c a = some c') :
    c.store.written.length ≤ c'.store.written.length := by
  obtain ⟨states, h_states⟩ := written_step h_step
  rw [h_states, List.length_append]
  exact Nat.le_add_right _ _

/-- **Where the entries of a log come from.** -/
theorem mem_log_step (h_step : clientProgram.step c a = some c') {feed : Feed} {event : Event}
    {origin : Origin} (h_mem : (event, origin) ∈ c'.store.log feed) :
    (event, origin) ∈ c.store.log feed ∨ feed = event.feed ∧ ∃ t ch rest, a = .run t ch ∧
      c.todo t = .publish event origin :: rest := by
  rcases Program.step_cases h_step with ⟨t, ch, i, rest, e, h_a, h_todo, h_exec, rfl⟩ |
    ⟨r, t, e, -, h_acc, -, rfl⟩
  · -- an instruction: only a publication adds to a log
    change exec t ch i c = some e at h_exec
    rw [resume_store] at h_mem
    rcases (exec_records h_exec).log with h_same | ⟨event', origin', rfl, h_publish⟩
    · rw [h_same] at h_mem
      exact Or.inl h_mem
    · rw [h_publish] at h_mem
      rcases mem_broadcast h_mem with h_mem | ⟨h_entry, h_feed⟩
      · exact Or.inl h_mem
      · -- the message that the task was about to publish
        obtain ⟨rfl, rfl⟩ := Prod.mk.inj h_entry
        exact Or.inr ⟨h_feed, t, ch, rest, h_a, h_todo⟩
  · -- a request leaves the log alone
    rw [resume_store, (accept_lock h_acc).1] at h_mem
    exact Or.inl h_mem

/-- The state is the last written one, after every step. -/
theorem current_step (h : Recorded c) (h_step : clientProgram.step c a = some c') :
    c'.store.Current := by
  rcases Program.step_cases h_step with ⟨t, ch, i, rest, e, -, -, h_exec, rfl⟩ |
    ⟨r, t, e, -, h_acc, -, rfl⟩
  · change exec t ch i c = some e at h_exec
    exact (exec_records h_exec).current h.current
  · rw [resume_store, (accept_lock h_acc).1]
    exact h.current

/-- What a transaction published belongs to a written state. -/
theorem logged_step (h : Recorded c) (h_step : clientProgram.step c a = some c') {feed : Feed}
    {event : Event} {write : ℕ} (h_mem : (event, .transaction write) ∈ c'.store.log feed) :
    write < c'.store.written.length := by
  refine Nat.lt_of_lt_of_le ?_ (length_written_step h_step)
  rcases mem_log_step h_step h_mem with h_mem | ⟨-, t, ch, rest, -, h_todo⟩
  · exact h.logged feed event write h_mem
  · have h_head : .publish event (.transaction write) ∈ c.todo t := by
      rw [h_todo]
      exact List.mem_cons_self
    exact h.publishing t _ h_head event write rfl

/-- So does what it has still to publish. -/
theorem publishing_step (h : Recorded c) (h_step : clientProgram.step c a = some c') :
    ∀ t, ∀ i ∈ c'.todo t, ∀ event write, i = .publish event (.transaction write) →
      write < c'.store.written.length := by
  have h_written := length_written_step h_step
  -- the bound on the writes only grows, so what was pending stays pending
  refine Program.forall_todo_of_step h_step h.publishing
    (fun t i _ h_i event write h_eq => Nat.lt_of_lt_of_le (h_i event write h_eq) h_written)
    (fun t ch i rest e h_a h_todo h_exec => ?_) fun r t e h_a h_acc => ?_
  · change exec t ch i c = some e at h_exec
    refine ⟨fun j h_j event write h_eq => ?_, fun t' is h_spawned => ?_⟩
    · -- the transaction was executed by this step
      subst h_eq
      subst h_a
      obtain rfl := Option.some.inj (h_step.symm.trans (Program.step_run h_todo h_exec))
      exact (exec_records h_exec).publishing event write h_j
    · rw [(exec_lock h_exec).2.1] at h_spawned
      cases h_spawned
  · refine ⟨fun j h_j event write h_eq => ?_, fun t' is h_spawned => ?_⟩
    · subst h_eq
      exact absurd h_j ((accept_records h_acc).1 event _)
    · rw [(accept_lock h_acc).2.1] at h_spawned
      cases h_spawned

/-- Behind other instructions only the methods without a lock activate their receiver. -/
theorem shielded_step (h : Recorded c) (h_step : clientProgram.step c a = some c') :
    ∀ t, ∀ snapshot, .activate snapshot ∈ (c'.todo t).tail →
      snapshot.subscription.locked = false := by
  -- the activation of a locked subscription is never behind another instruction
  have h_behind := Program.forall_tail_of_step
    (motive := fun _ i => ∀ snapshot, i = .activate snapshot →
      snapshot.subscription.locked = false) h_step ?_
    (fun t ch i rest e _ h_todo h_exec => ?_) fun r t e _ h_acc => ?_
  · exact fun t snapshot h_mem => h_behind t _ h_mem snapshot rfl
  · -- what stood behind an instruction stands further in front now
    rintro t _ h_mem snapshot rfl
    exact h.shielded t snapshot h_mem
  · change exec t ch i c = some e at h_exec
    -- behind the first of the new instructions nothing locked is activated
    refine ⟨?_, fun t' is h_spawned => ?_⟩
    · rintro _ h_mem snapshot rfl
      exact (exec_records h_exec).shielded snapshot h_mem
    · rw [(exec_lock h_exec).2.1] at h_spawned
      cases h_spawned
  · refine ⟨?_, fun t' is h_spawned => ?_⟩
    · rintro _ h_mem snapshot rfl
      exact absurd (List.mem_of_mem_tail h_mem) ((accept_records h_acc).2 snapshot)
    · rw [(accept_lock h_acc).2.1] at h_spawned
      cases h_spawned

/-- One step keeps the record. -/
theorem step (h : Recorded c) (h_step : clientProgram.step c a = some c') : Recorded c' where
  current := h.current_step h_step
  logged _ _ _ h_mem := h.logged_step h_step h_mem
  publishing := h.publishing_step h_step
  shielded := h.shielded_step h_step

end Recorded

/-! ### No gap -/

section Bridge

variable {P : Subscription → Prop} {c c' : Conf}

/-- No transaction publishes on the channel of a pending activation. -/
theorem feed_ne_of_publish (h_lock : Disciplined c) (h_rec : Recorded c) {t t' : Task}
    {event : Event} {write : ℕ} {rest : List Point}
    (h_todo : c.todo t = .publish event (.transaction write) :: rest)
    (h_spared : ¬Exposed P c event.feed) {snapshot : Snapshot}
    (h_mem : .activate snapshot ∈ c.todo t') (h_P : P snapshot.subscription) :
    snapshot.subscription.feed ≠ event.feed := by
  -- an activation without the lock is what the condition spares the writer from
  cases h_locked : snapshot.subscription.locked with
  | false =>
    intro h_feed
    exact h_spared ⟨t', snapshot, h_mem, h_P, h_locked, h_feed⟩
  | true =>
    -- the activation runs under the read lock, the publication under the write lock
    have h_write : heldBy (c.todo t) = .write := by
      rw [h_todo]
      rfl
    have h_read : heldBy (c.todo t') = .read := by
      have h_shielded := h_rec.shielded t' snapshot
      cases h_t' : c.todo t' with
      | nil =>
        rw [h_t'] at h_mem
        exact absurd h_mem List.not_mem_nil
      | cons j js =>
        rw [h_t'] at h_mem h_shielded
        rcases List.mem_cons.mp h_mem with rfl | h_mem
        · exact if_pos h_locked
        · rw [h_shielded h_mem] at h_locked
          cases h_locked
    exact absurd h_read (h_lock.no_reader h_write)

/-- Every change that was published before the receiver is there is older than the
snapshot. -/
structure Bridged (P : Subscription → Prop) (c : Conf) : Prop where
  pending : ∀ t, ∀ i ∈ c.todo t, ∀ snapshot, i = .activate snapshot →
    snapshot.Genuine c.store ∧ (P snapshot.subscription → ∀ event write,
      (event, .transaction write) ∈ c.store.log snapshot.subscription.feed →
        write < snapshot.asOf)
  opened : ∀ stream ∈ c.store.streams, stream.Genuine c.store ∧
    stream.since ≤ (c.store.log stream.subscription.feed).length ∧
    (P stream.subscription → ∀ position event write,
      (c.store.log stream.subscription.feed)[position]? = some (event, .transaction write) →
        write < stream.asOf ∨ stream.since ≤ position)

namespace Bridged

/-- At the start no stream is open. -/
theorem initial (state : BlokliTestState) : Bridged P (start state) where
  pending _ _ h_mem := absurd h_mem List.not_mem_nil
  opened _ h_mem := absurd h_mem List.not_mem_nil

/-- A broadcast appends to the log of its channel, and leaves the other logs alone. -/
theorem log_broadcast (store : Store) (event : Event) (origin : Origin) (feed : Feed) :
    ∃ messages, (store.broadcast event origin).log feed = store.log feed ++ messages := by
  unfold Store.broadcast
  dsimp only
  by_cases h_feed : feed = event.feed
  · subst h_feed
    exact ⟨_, Function.update_self ..⟩
  · exact ⟨[], by rw [Function.update_of_ne h_feed, List.append_nil]⟩

/-- An opened stream stays bridged when its log and the written states grow. -/
theorem opened_grow {store store' : Store} {stream : Stream}
    (h_written : ∃ states, store'.written = store.written ++ states)
    (h_log : ∃ messages, store'.log stream.subscription.feed =
      store.log stream.subscription.feed ++ messages)
    (h : stream.Genuine store ∧ stream.since ≤ (store.log stream.subscription.feed).length ∧
      (P stream.subscription → ∀ position event write,
        (store.log stream.subscription.feed)[position]? = some (event, .transaction write) →
          write < stream.asOf ∨ stream.since ≤ position)) :
    stream.Genuine store' ∧ stream.since ≤ (store'.log stream.subscription.feed).length ∧
      (P stream.subscription → ∀ position event write,
        (store'.log stream.subscription.feed)[position]? = some (event, .transaction write) →
          write < stream.asOf ∨ stream.since ≤ position) := by
  obtain ⟨h_genuine, h_since, h_log_old⟩ := h
  obtain ⟨messages, h_messages⟩ := h_log
  refine ⟨h_genuine.grow h_written, ?_, fun h_P position event write h_at => ?_⟩
  · rw [h_messages, List.length_append]
    exact Nat.le_add_right_of_le h_since
  · rw [h_messages] at h_at
    -- a position of the old log keeps its message; a new one is behind the start
    by_cases h_lt : position < (store.log stream.subscription.feed).length
    · rw [List.getElem?_append_left h_lt] at h_at
      exact h_log_old h_P position event write h_at
    · exact Or.inr (Nat.le_trans h_since (Nat.le_of_not_lt h_lt))

variable {a : Action Task Unit Request}

/-- The logs are only added to. -/
theorem log_step (h_step : clientProgram.step c a = some c') (feed : Feed) :
    ∃ messages, c'.store.log feed = c.store.log feed ++ messages := by
  rcases Program.step_cases h_step with ⟨t, ch, i, rest, e, -, -, h_exec, rfl⟩ |
    ⟨r, t, e, -, h_acc, -, rfl⟩
  · change exec t ch i c = some e at h_exec
    rw [resume_store]
    rcases (exec_records h_exec).log with h_log | ⟨event, origin, -, h_log⟩
    · exact ⟨[], by rw [h_log, List.append_nil]⟩
    · rw [h_log]
      exact log_broadcast _ _ _ feed
  · exact ⟨[], by rw [resume_store, (accept_lock h_acc).1, List.append_nil]⟩

/-- **Where a stream comes from.** It was open, or a snapshot of it is activated, in a step
that publishes and writes nothing. -/
theorem mem_streams_step (h_step : clientProgram.step c a = some c') {stream : Stream}
    (h_stream : stream ∈ c'.store.streams) :
    stream ∈ c.store.streams ∨ ∃ t snapshot, .activate snapshot ∈ c.todo t ∧
      c'.store.log = c.store.log ∧ c'.store.written = c.store.written ∧ stream = {
        toSnapshot := snapshot
        since := (c.store.log snapshot.subscription.feed).length } := by
  rcases Program.step_cases h_step with ⟨t, ch, i, rest, e, -, h_todo, h_exec, rfl⟩ |
    ⟨r, t, e, -, h_acc, -, rfl⟩
  -- a stream is there from before, or its receiver was activated just now
  · change exec t ch i c = some e at h_exec
    rw [resume_store] at h_stream
    rcases (exec_records h_exec).streams with h_same | ⟨snapshot, rfl, h_log, h_w, h_new⟩
    · rw [h_same] at h_stream
      exact Or.inl h_stream
    · rw [h_new] at h_stream
      rcases List.mem_append.mp h_stream with h_stream | h_stream
      · exact Or.inl h_stream
      · refine Or.inr ⟨t, snapshot, ?_, h_log, h_w, List.mem_singleton.mp h_stream⟩
        rw [h_todo]
        exact List.mem_cons_self
  · rw [resume_store, (accept_lock h_acc).1] at h_stream
    exact Or.inl h_stream

/-- A snapshot that a task has just taken is genuine: the current state is the last of the
written ones. -/
theorem genuine_of_reading (h_rec : Recorded c) {snapshot : Snapshot}
    (h_asOf : snapshot.asOf = c.store.written.length)
    (h_initial : snapshot.initial = snapshot.subscription.initialPart c.store.state) :
    snapshot.Genuine c.store := by
  have h_current : c.store.written.getLast? = some c.store.state := h_rec.current
  rw [List.getLast?_eq_getElem?] at h_current
  obtain ⟨h_lt, -⟩ := List.getElem?_eq_some_iff.mp h_current
  exact ⟨_, _, by omega, h_current, h_initial⟩

/-- While a snapshot waits for its receiver, nothing newer is published on its feed. -/
theorem pending_step (h : Bridged P c) (h_rec : Recorded c) (h_lock : Disciplined c)
    (h_spared : Spared P c a) (h_step : clientProgram.step c a = some c') :
    ∀ t, ∀ i ∈ c'.todo t, ∀ snapshot, i = .activate snapshot →
      snapshot.Genuine c'.store ∧ (P snapshot.subscription → ∀ event write,
        (event, .transaction write) ∈ c'.store.log snapshot.subscription.feed →
          write < snapshot.asOf) := by
  refine Program.forall_todo_of_step h_step h.pending ?_
    (fun t ch i rest e h_a h_todo h_exec => ?_) fun r t e _ h_acc => ?_
  · -- the logs of the pending activations got no change of a transaction
    rintro t' i h_mem h_i snapshot rfl
    obtain ⟨h_genuine, h_old⟩ := h_i snapshot rfl
    refine ⟨h_genuine.grow (Recorded.written_step h_step), fun h_P event write h_entry => ?_⟩
    rcases Recorded.mem_log_step h_step h_entry with h_entry | ⟨h_feed, t, ch, rest, h_a, h_todo⟩
    · exact h_old h_P event write h_entry
    · have h_exposed := h_spared t event write rest h_a h_todo
      exact absurd h_feed (feed_ne_of_publish h_lock h_rec h_todo h_exposed h_mem h_P)
  · change exec t ch i c = some e at h_exec
    refine ⟨fun j h_j snapshot h_eq => ?_, fun t' is h_spawned => ?_⟩
    · -- everything published so far is older than the snapshot of this step
      subst h_eq h_a
      obtain rfl := Option.some.inj (h_step.symm.trans (Program.step_run h_todo h_exec))
      obtain ⟨h_store, h_asOf, h_initial⟩ := (exec_records h_exec).reading snapshot h_j
      rw [resume_store, h_store]
      refine ⟨genuine_of_reading h_rec h_asOf h_initial, fun _ event write h_entry => ?_⟩
      rw [h_asOf]
      exact h_rec.logged _ event write h_entry
    · rw [(exec_lock h_exec).2.1] at h_spawned
      cases h_spawned
  · refine ⟨fun j h_j snapshot h_eq => ?_, fun t' is h_spawned => ?_⟩
    · subst h_eq
      exact absurd h_j ((accept_records h_acc).2 snapshot)
    · rw [(accept_lock h_acc).2.1] at h_spawned
      cases h_spawned

/-- One step keeps streams bridged, when it does not publish into a gap that matters. -/
theorem step (h : Bridged P c) (h_rec : Recorded c) (h_lock : Disciplined c)
    (h_spared : Spared P c a) (h_step : clientProgram.step c a = some c') : Bridged P c' where
  pending := h.pending_step h_rec h_lock h_spared h_step
  opened stream h_stream := by
    have h_written := Recorded.written_step h_step
    rcases mem_streams_step h_step h_stream with h_open | ⟨t, snapshot, h_mem, h_same, -, rfl⟩
    · exact opened_grow h_written (log_step h_step _) (h.opened stream h_open)
    · obtain ⟨h_genuine, h_old⟩ := h.pending t _ h_mem snapshot rfl
      refine ⟨h_genuine.grow h_written, ?_, fun h_P position event write h_at => ?_⟩
      · rw [h_same]
      · rw [h_same] at h_at
        exact Or.inl (h_old h_P event write (List.mem_of_getElem? h_at))

end Bridged

/-- Streams of methods with property `P` have no gap in a run that spares them. -/
theorem gapless_of_spared {state : BlokliTestState}
    {Allowed : Conf → Action Task Unit Request → Prop}
    (h_allowed : ∀ c a, Allowed c a → Spared P c a)
    (h : clientProgram.Reachable (start state) Allowed c) {stream : Stream}
    (h_stream : stream ∈ c.store.streams) (h_P : P stream.subscription) :
    Gapless c.store stream := by
  have h_inv : Recorded c ∧ Bridged P c :=
    h.induct (motive := fun c => Recorded c ∧ Bridged P c) ⟨.initial state, .initial state⟩
      fun h_reach h_c h_ok h_step => ⟨h_c.1.step h_step,
        h_c.2.step h_c.1 (.reachable h_reach) (h_allowed _ _ h_ok) h_step⟩
  obtain ⟨⟨j, written, h_asOf, h_written, h_initial⟩, -, h_log⟩ := h_inv.2.opened stream h_stream
  intro position event write h_at
  rcases h_log h_P position event write h_at with h_old | h_live
  · exact Or.inl ⟨j, written, by omega, h_written, h_initial⟩
  · exact Or.inr h_live

end Bridge

/-- No transaction publishes on a channel while a call that subscribes to it has
released the lock after its snapshot and has not activated its receiver. -/
def Prompt (c : Conf) (a : Action Task Unit Request) : Prop := Spared (fun _ => True) c a

/-- **From the snapshot to the live part.** The methods that activate their receiver
under the lock have no gap in any run. No method has one in a run in which no
transaction publishes between a snapshot and the activation of its receiver. -/
theorem no_gap (state : BlokliTestState) :
    (∀ c, clientProgram.Reachable (start state) Program.anyStep c → ∀ stream ∈ c.store.streams,
      stream.subscription.locked = true → Gapless c.store stream) ∧
    ∀ c, clientProgram.Reachable (start state) Prompt c → ∀ stream ∈ c.store.streams,
      Gapless c.store stream := by
  constructor
  · intro c h stream h_stream h_locked
    refine gapless_of_spared (P := fun s => s.locked = true) ?_ h h_stream h_locked
    -- a locked call is never exposed
    rintro c a - t event write rest - - ⟨t', snapshot, -, h_locked, h_unlocked, -⟩
    rw [h_locked] at h_unlocked
    cases h_unlocked
  · intro c h stream h_stream
    exact gapless_of_spared (fun _ _ h_a => h_a) h h_stream trivial

/-! ### A transaction next to a subscription -/

/-- The default state with the given accounts. -/
def stateWith (accounts : IndexMap UInt32 Account) : BlokliTestState :=
  { BlokliTestState.default with accounts := accounts }

def sampleAccount : Account where
  chainKey := "0x11".toList
  keyid := 1
  multiAddresses := []
  packetKey := "0x22".toList
  safeAddress := none

/-- A client whose transactions announce the account. -/
def announcing : TestClient where
  mutator := fun _ state => (.ok (), { state with accounts := AList.singleton 1 sampleAccount })

/-- The first call subscribes to the accounts, and the second one announces the
account before the first activates its receiver. -/
def announceInBetween : List (Action Task Unit Request) :=
  [.request (.subscribe 0 (.accounts .any)), .run 0 (), .run 0 (), .run 0 (),
    .request (.submit 1 announcing [] .transaction), .run 1 (), .run 1 (), .run 1 (), .run 0 ()]

/-- The announced account is neither in the initial part nor in the live part. -/
theorem announcement_lost : ¬ ∀ (state : BlokliTestState) (c : Conf),
    clientProgram.Reachable (start state) Program.anyStep c →
    ∀ stream ∈ c.store.streams, Gapless c.store stream := by
  intro h
  obtain ⟨c, h_run, stream, h_stream, h_subscription, h_initial, h_since, h_log, h_written⟩ :
      ∃ c, clientProgram.run (start (stateWith ∅)) announceInBetween = some c ∧
        ∃ stream, c.store.streams = [stream] ∧ stream.subscription = .accounts .any ∧
          stream.initial = [] ∧ stream.since = 1 ∧
          c.store.log .accounts = [(.account sampleAccount, .transaction 1)] ∧
          c.store.written = [stateWith ∅, stateWith (AList.singleton 1 sampleAccount)] :=
    ⟨_, rfl, _, rfl, rfl, rfl, rfl, rfl, rfl⟩
  have h_gapless := h _ c (.run .init h_run) stream
    (by rw [h_stream]; exact List.mem_singleton_self _)
  have h_entry : (c.store.log stream.subscription.feed)[0]? =
      some (.account sampleAccount, .transaction 1) := by
    rw [h_subscription]
    change (c.store.log .accounts)[0]? = _
    rw [h_log]
    rfl
  rcases h_gapless 0 _ 1 h_entry with ⟨j, state, h_le, h_state, h_part⟩ | h_live
  · -- the state after the announcement has an account, the initial part has none
    rw [h_written] at h_state
    rw [h_initial, h_subscription] at h_part
    -- by the index of the state: only 0 and 1 are written
    match j, h_le with
    | 1, _ =>
      obtain rfl := Option.some.inj h_state
      cases h_part
    | j + 2, _ => cases h_state
  · unfold Receives at h_live
    omega

/-- The same two calls one after the other, up to the broadcast. -/
def announceAfter : List (Action Task Unit Request) :=
  [.request (.subscribe 0 (.accounts .any)), .run 0 (), .run 0 (), .run 0 (), .run 0 (),
    .request (.submit 1 announcing [] .transaction), .run 1 (), .run 1 ()]

/-- The step is no broadcast. -/
def isSilent (c : Conf) : Action Task Unit Request → Bool
  | .request _ => true
  | .run t _ =>
    match c.todo t with
    | .publish _ _ :: _ => false
    | _ => true

/-- A step that publishes nothing is prompt. -/
theorem prompt_of_silent {c : Conf} {a : Action Task Unit Request} (h : isSilent c a = true) :
    Prompt c a := by
  rintro t event write rest rfl h_todo
  unfold isSilent at h
  dsimp only at h
  rw [h_todo] at h
  cases h

/-- A stream of accounts that misses nothing of a transaction after it. -/
theorem no_gap_accounts : ∃ c stream, clientProgram.Reachable (start (stateWith ∅)) Prompt c ∧
    stream ∈ c.store.streams ∧ stream.since = 0 ∧
    c.store.log .accounts = [(.account sampleAccount, .transaction 1)] ∧
    Gapless c.store stream := by
  -- up to the write of the transaction; its publication is still to come
  obtain ⟨c, h_run, h_todo₀, h_todo₁, stream, h_stream, h_since, h_log⟩ :
      ∃ c, clientProgram.runWithin [0, 1] isSilent (start (stateWith ∅)) announceAfter = some c ∧
        c.todo 0 = [] ∧
        c.todo 1 = (publications (stateWith ∅) (stateWith (AList.singleton 1 sampleAccount))).map
          (fun event => .publish event (.transaction 1)) ++ [.unlockWrite] ∧
        ∃ stream, c.store.streams = [stream] ∧ stream.since = 0 ∧ c.store.log .accounts = [] :=
    ⟨_, rfl, rfl, rfl, _, rfl, rfl, rfl⟩
  have h_silent : ∀ c a, Within [0, 1] c → isSilent c a = true → Prompt c a :=
    fun _ _ _ h_check => prompt_of_silent h_check
  obtain ⟨h_reach, h_within⟩ := Program.Reachable.runWithin h_silent .init (fun _ _ => rfl) h_run
  -- nobody is about to activate a receiver
  have h_calm : ∀ t snapshot, .activate snapshot ∉ c.todo t := by
    intro t snapshot h_mem
    by_cases h_t : t ∈ [0, 1]
    · rcases List.mem_cons.mp h_t with rfl | h_t
      · rw [h_todo₀] at h_mem
        exact absurd h_mem List.not_mem_nil
      · obtain rfl := List.mem_singleton.mp h_t
        rw [h_todo₁] at h_mem
        rcases List.mem_append.mp h_mem with h_mem | h_mem
        · obtain ⟨_, -, h_eq⟩ := List.mem_map.mp h_mem
          cases h_eq
        · cases List.mem_singleton.mp h_mem
    · rw [h_within t h_t] at h_mem
      exact absurd h_mem List.not_mem_nil
  obtain ⟨rest, h_todo⟩ : ∃ rest, c.todo 1 =
      .publish (.account sampleAccount) (.transaction 1) :: rest := ⟨_, h_todo₁⟩
  have h_prompt : Prompt c (.run 1 ()) :=
    fun _ _ _ _ _ _ ⟨t', snapshot, h_mem, _⟩ => h_calm t' snapshot h_mem
  -- the publication meets the condition, so the run goes on to it
  have h_publish := Program.Reachable.exec (P := clientProgram) () h_todo rfl h_prompt
  refine ⟨_, stream, h_reach.trans h_publish, ?_, h_since, ?_,
    (no_gap (stateWith ∅)).2 _ (h_reach.trans h_publish) stream ?_⟩
  · change stream ∈ c.store.streams
    rw [h_stream]
    exact List.mem_singleton_self _
  · change (c.store.broadcast (.account sampleAccount) (.transaction 1)).log .accounts = _
    unfold Store.broadcast
    dsimp only
    rw [show Event.feed (.account sampleAccount) = .accounts from rfl, Function.update_self, h_log]
    rfl
  · change stream ∈ c.store.streams
    rw [h_stream]
    exact List.mem_singleton_self _

end Blokli.Testing
