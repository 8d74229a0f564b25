import BlokliClient.Library.Trail
import BlokliClient.Testing.Services
import BlokliClient.Testing.Tickets

/-!
# The order of the changes

The calls on the clones of one client run concurrently, and each change is published in a
step of its own. What a subscriber sees is nevertheless what it would see if the
transactions ran one after the other.

* `Logged` : on every channel but that of the ticket parameters, what was published is the
  trail of differences between the states that were written, in their order, up to what the
  holder of the write lock has still to publish.
* `Aligned` : the live part of a stream begins where the state of its initial part ends.
* `streams_linearize` puts the two together: a stream yields the initial part of one of
  the states, followed by the changes between all later ones.

Ticket parameters are left out, because `update_price_and_win_prob` publishes them after
it has released the lock. A hidden update writes a state and publishes nothing, so runs
with hidden updates are left out as well.
-/

namespace Blokli.Testing

open Worklist Trail

/-! ### What is published and what is written -/

/-- The change that an instruction publishes. -/
def Point.publishes : Point → Option Event
  | .publish event _ => some event
  | _ => none

def onFeed (feed : Feed) (events : List Event) : List Event :=
  events.filter fun event => decide (event.feed = feed)

/-- What the instructions publish on a channel. -/
def unpublished (feed : Feed) (is : List Point) : List Event :=
  onFeed feed (is.filterMap Point.publishes)

/-- What was published on a channel. -/
def Store.messages (store : Store) (feed : Feed) : List Event := (store.log feed).map Prod.fst

/-- The changes that a channel is for, between the states that were written. -/
def Store.changes (store : Store) (feed : Feed) : List Event :=
  onFeed feed (trail publications store.written)

section Unpublished

variable {feed : Feed}

/-- Events are on a feed one by one. -/
theorem onFeed_append (events events' : List Event) :
    onFeed feed (events ++ events') = onFeed feed events ++ onFeed feed events' :=
  List.filter_append ..

/-- Events of other feeds are not on it. -/
theorem onFeed_eq_nil {events : List Event} (h : ∀ event ∈ events, event.feed ≠ feed) :
    onFeed feed events = [] :=
  List.filter_eq_nil_iff.mpr fun event h_mem h_feed => h event h_mem (of_decide_eq_true h_feed)

/-- What is still to be published, for a list of instructions in two parts. -/
theorem unpublished_append (is js : List Point) :
    unpublished feed (is ++ js) = unpublished feed is ++ unpublished feed js := by
  unfold unpublished
  rw [List.filterMap_append, onFeed_append]

/-- What is still to be published, for one instruction and the rest. -/
theorem unpublished_cons (i : Point) (is : List Point) :
    unpublished feed (i :: is) = unpublished feed [i] ++ unpublished feed is :=
  unpublished_append [i] is

/-- Nothing is, when only other feeds are published to. -/
theorem unpublished_eq_nil {is : List Point}
    (h : ∀ event origin, .publish event origin ∈ is → event.feed ≠ feed) :
    unpublished feed is = [] := by
  refine onFeed_eq_nil fun event h_mem => ?_
  obtain ⟨i, h_i, h_event⟩ := List.mem_filterMap.mp h_mem
  cases i with
  | publish event' origin =>
    obtain rfl := Option.some.inj h_event
    exact h _ origin h_i
  | lockRead | unlockRead | lockWrite | unlockWrite | cloneAccounts | readInitial | activate
  | execute | insertActiveTx | updateTicketParameters | serve | hiddenUpdate => cases h_event

/-- Nothing is, when nothing is published. -/
theorem unpublished_of_quiet {is : List Point} (h : ∀ event origin, .publish event origin ∉ is) :
    unpublished feed is = [] :=
  unpublished_eq_nil fun event origin h_mem => absurd h_mem (h event origin)

/-- A list with something to publish has an instruction that publishes it. -/
theorem exists_publish {is : List Point} (h : unpublished feed is ≠ []) :
    ∃ event origin, .publish event origin ∈ is ∧ event.feed = feed := by
  by_contra h_none
  exact h
    (unpublished_eq_nil fun event origin h_mem h_feed => h_none ⟨event, origin, h_mem, h_feed⟩)

/-- A transaction has all its events still to publish. -/
theorem unpublished_transaction (events : List Event) (write : ℕ) :
    unpublished feed (events.map fun event => .publish event (.transaction write)) =
      onFeed feed events := by
  unfold unpublished
  rw [List.filterMap_map]
  exact congrArg (onFeed feed) List.filterMap_some

end Unpublished

/-! ### Writes that publish on the tickets channel at most -/

section Unchanged

variable {oldState state : BlokliTestState}

/-- No entry differs from what its own map holds. -/
theorem entries_filter_eq_nil {κ α : Type} [DecidableEq κ] {m : IndexMap κ α} {p : α → α → Bool}
    (h : ∀ v, p v v = false) :
    (m.entries.filter fun entry => (m.lookup entry.1).all fun old => p old entry.2) = [] := by
  refine List.filter_eq_nil_iff.mpr fun entry h_entry h_all => ?_
  have h_lookup : m.lookup entry.1 = some entry.2 := AList.mem_lookup_iff.mpr h_entry
  rw [h_lookup, Option.all_some, h] at h_all
  cases h_all

/-- A write of other fields. -/
theorem publications_of_unchanged (h_accounts : state.accounts = oldState.accounts)
    (h_channels : state.channels = oldState.channels)
    (h_safes : state.deployedSafes = oldState.deployedSafes)
    (h_services : state.services = oldState.services)
    (h_types : state.serviceTypes = oldState.serviceTypes)
    (h_config : state.serviceRegistryConfig = oldState.serviceRegistryConfig) :
    publications oldState state = (ticketChanges oldState state).map .ticketParameters := by
  -- every channel compares the two states by itself; equal maps differ nowhere
  have h_account : accountChanges oldState state = [] := by
    unfold accountChanges
    rw [h_accounts, entries_filter_eq_nil
      (p := fun old new : Account => old.safeAddress != new.safeAddress ||
        old.multiAddresses != new.multiAddresses) fun _ => by simp]
    rfl
  have h_channel : channelChanges oldState state = [] := by
    unfold channelChanges changedChannels
    rw [h_channels, entries_filter_eq_nil (p := fun old new : Channel => old != new)
      fun _ => by simp]
    rfl
  have h_safe : safeChanges oldState state = [] := by
    unfold safeChanges
    rw [h_safes, entries_filter_eq_nil (p := fun old new : Safe => old != new) fun _ => by simp]
    rfl
  have h_service : serviceChanges oldState state = [] := by
    unfold serviceChanges
    rw [h_services]
    refine List.append_eq_nil_iff.mpr ⟨?_, ?_⟩
    · -- every key is still there
      refine List.filterMap_eq_nil_iff.mpr fun entry h_entry => ?_
      exact if_pos (IndexMap.mem_of_entry h_entry)
    · -- and has the value that it had
      refine List.filterMap_eq_nil_iff.mpr fun entry h_entry => ?_
      dsimp only
      rw [show oldState.services.lookup entry.1 = some entry.2 from
        AList.mem_lookup_iff.mpr h_entry]
      exact if_neg fun h_ne => h_ne rfl
  have h_type : serviceTypeChanges oldState state = [] := by
    unfold serviceTypeChanges
    rw [h_types]
    refine List.flatMap_eq_nil_iff.mpr fun entry h_entry => ?_
    rw [show oldState.serviceTypes.lookup entry.1 = some entry.2 from
      AList.mem_lookup_iff.mpr h_entry]
    simp [serviceTypeKinds]
  have h_registry : serviceRegistryConfigChanges oldState state = [] := by
    unfold serviceRegistryConfigChanges
    exact if_neg fun h_ne => h_ne h_config.symm
  unfold publications
  rw [h_account, h_channel, h_safe, h_service, h_type, h_registry]
  simp only [List.map_nil, List.nil_append, List.append_nil]

/-- They concern the tickets channel only. -/
theorem onFeed_tickets {feed : Feed} (h_feed : feed ≠ .tickets)
    (parameters : List TicketParameters) :
    onFeed feed (parameters.map .ticketParameters) = [] := by
  refine onFeed_eq_nil fun event h_mem => ?_
  obtain ⟨p, -, rfl⟩ := List.mem_map.mp h_mem
  exact Ne.symm h_feed

end Unchanged

/-! ### What one instruction publishes and writes -/

section Step

variable {t : Task} {ch : Unit} {i : Point} {c : Conf} {e : Worklist.Effect Task Point Store}
  {feed : Feed}

/-- A broadcast adds its event to the messages of its feed. -/
theorem messages_broadcast (store : Store) (event : Event) (origin : Origin) :
    (store.broadcast event origin).messages feed =
      store.messages feed ++ onFeed feed [event] := by
  unfold Store.messages Store.broadcast
  dsimp only
  by_cases h_feed : feed = event.feed
  · subst h_feed
    rw [Function.update_self, List.map_append]
    refine congrArg _ (List.filter_eq_self.mpr fun event' h_mem => ?_).symm
    obtain rfl := List.mem_singleton.mp h_mem
    exact decide_eq_true rfl
  · rw [Function.update_of_ne h_feed, onFeed_eq_nil fun event' h_mem => ?_, List.append_nil]
    obtain rfl := List.mem_singleton.mp h_mem
    exact Ne.symm h_feed

/-- A written state adds its differences to the changes. -/
theorem changes_write {store : Store} (h_current : store.Current) (state : BlokliTestState) :
    (store.write state).changes feed =
      store.changes feed ++ onFeed feed (publications store.state state) := by
  unfold Store.changes Store.write
  rw [trail_append h_current, onFeed_append]

/-- A write that concerns the tickets channel at most. -/
theorem changes_write_unchanged {store : Store} {state : BlokliTestState}
    (h_current : store.Current) (h_feed : feed ≠ .tickets)
    (h_accounts : state.accounts = store.state.accounts)
    (h_channels : state.channels = store.state.channels)
    (h_safes : state.deployedSafes = store.state.deployedSafes)
    (h_services : state.services = store.state.services)
    (h_types : state.serviceTypes = store.state.serviceTypes)
    (h_config : state.serviceRegistryConfig = store.state.serviceRegistryConfig) :
    (store.write state).changes feed = store.changes feed := by
  rw [changes_write h_current, publications_of_unchanged h_accounts h_channels h_safes h_services
    h_types h_config, onFeed_tickets h_feed, List.append_nil]

/-- **Publications and writes.** An instruction publishes what it stands for, and leaves
to publish what it wrote. -/
theorem exec_changes (h : exec t ch i c = some e) (h_visible : ∀ update, i ≠ .hiddenUpdate update)
    (h_current : c.store.Current) (h_feed : feed ≠ .tickets) :
    e.store.messages feed = c.store.messages feed ++ unpublished feed [i] ∧
      e.store.changes feed = c.store.changes feed ++ unpublished feed e.next ∧
      (unpublished feed e.next = [] ∨ i.before = .write) := by
  -- most instructions neither publish nor write
  have h_silent : ∀ {store : Store} {next : List Point}, store.log = c.store.log →
      store.written = c.store.written → (∀ event origin, .publish event origin ∉ next) →
      unpublished feed [i] = [] →
      store.messages feed = c.store.messages feed ++ unpublished feed [i] ∧
        store.changes feed = c.store.changes feed ++ unpublished feed next ∧
        (unpublished feed next = [] ∨ i.before = .write) := by
    intro store next h_log h_written h_next h_i
    rw [h_i, unpublished_of_quiet h_next]
    unfold Store.messages Store.changes
    rw [h_log, h_written, List.append_nil, List.append_nil]
    exact ⟨rfl, rfl, Or.inl rfl⟩
  cases i with
  | lockRead | lockWrite =>
    simp only [exec] at h
    split at h
    · obtain rfl := Option.some.inj h
      exact h_silent rfl rfl (fun _ _ => List.not_mem_nil) rfl
    · cases h
  | unlockRead | unlockWrite | activate =>
    obtain rfl := Option.some.inj h
    exact h_silent rfl rfl (fun _ _ => List.not_mem_nil) rfl
  -- the snapshots of a subscription are read, not written
  | cloneAccounts selector =>
    obtain rfl := Option.some.inj h
    exact h_silent rfl rfl (fun _ _ => by simp) rfl
  | readInitial subscription accounts =>
    obtain rfl := Option.some.inj h
    refine h_silent rfl rfl (fun _ _ => ?_) rfl
    dsimp only
    split <;> simp
  | execute client signedTx submission =>
    simp only [exec] at h
    have h_cases := simulateTxExecution_cases signedTx c.store.state client.mutator
    split at h
    · -- a reverted transaction leaves the state as it was
      obtain rfl := Option.some.inj h
      exact h_silent rfl rfl (fun _ _ => publish_notMem_finish client _ submission _ _) rfl
    · -- an accepted one writes its state and leaves to publish the difference
      next events state h_run =>
      obtain rfl := Option.some.inj h
      have h_events : events = publications c.store.state state := by
        rcases h_cases with ⟨error, h_error⟩ | ⟨state', -, -, h_ok⟩
        · rw [h_run] at h_error
          cases h_error
        · rw [h_run] at h_ok
          obtain ⟨h_result, rfl⟩ := Prod.mk.inj h_ok
          exact Except.ok.inj h_result
      refine ⟨(List.append_nil _).symm, ?_, Or.inr rfl⟩
      rw [changes_write h_current, unpublished_append, unpublished_transaction, ← h_events,
        unpublished_of_quiet fun _ _ => publish_notMem_finish client _ submission _ _,
        List.append_nil]
  -- what is published is what was unpublished at the head of the list
  | publish event origin =>
    obtain rfl := Option.some.inj h
    exact ⟨messages_broadcast c.store event origin, (List.append_nil _).symm, Or.inl rfl⟩
  | insertActiveTx transaction =>
    -- the record of a transaction is not published
    obtain rfl := Option.some.inj h
    refine ⟨(List.append_nil _).symm, ?_, Or.inl rfl⟩
    let state := { c.store.state with
      activeTxs := c.store.state.activeTxs.insert transaction.id transaction }
    have h_write : (c.store.write state).changes feed = c.store.changes feed :=
      changes_write_unchanged h_current h_feed rfl rfl rfl rfl rfl rfl
    exact h_write.trans (List.append_nil _).symm
  -- a price update publishes to its own channel only
  | updateTicketParameters newPrice newWinProb =>
    obtain rfl := Option.some.inj h
    let state := { c.store.state with
      chainInfo := c.store.state.chainInfo.updated newPrice newWinProb }
    have h_write : (c.store.write state).changes feed = c.store.changes feed :=
      changes_write_unchanged h_current h_feed rfl rfl rfl rfl rfl rfl
    -- what it leaves to publish are ticket parameters
    have h_next : unpublished feed (.unlockWrite :: if newPrice.isSome || newWinProb.isSome then
        [.publish (.ticketParameters state.ticketParameters) .priceUpdate] else []) = [] := by
      refine unpublished_eq_nil fun event origin h_mem => ?_
      split at h_mem
      · rcases List.mem_cons.mp h_mem with h_mem | h_mem
        · cases h_mem
        · obtain ⟨rfl, -⟩ := Point.publish.inj (List.mem_singleton.mp h_mem)
          exact Ne.symm h_feed
      · simp at h_mem
    refine ⟨(List.append_nil _).symm, ?_, Or.inl ?_⟩
    · exact h_write.trans (((congrArg _ h_next).trans (List.append_nil _)).symm)
    · exact h_next
  | serve call =>
    -- neither are records that are taken, and defaults
    obtain rfl := Option.some.inj h
    refine ⟨(List.append_nil _).symm, ?_, Or.inl rfl⟩
    obtain ⟨txs, counts, stats, h_serve⟩ := call.serve_eq c.store.state
    have h_write : (c.store.write (call.serve c.store.state)).changes feed =
        c.store.changes feed := by
      rw [h_serve]
      exact changes_write_unchanged h_current h_feed rfl rfl rfl rfl rfl rfl
    exact h_write.trans (List.append_nil _).symm
  | hiddenUpdate update => exact absurd rfl (h_visible update)

/-- Only a price update leaves a publication that is not made under the lock. -/
theorem exec_prices (h : exec t ch i c = some e) {event : Event}
    (h_mem : .publish event .priceUpdate ∈ e.next) : event.feed = .tickets := by
  cases i with
  -- waiting for the lock leaves nothing to publish
  | lockRead | lockWrite =>
    simp only [exec] at h
    split at h
    · obtain rfl := Option.some.inj h
      exact absurd h_mem List.not_mem_nil
    · cases h
  | unlockRead | unlockWrite | activate | publish | insertActiveTx | serve | hiddenUpdate =>
    obtain rfl := Option.some.inj h
    exact absurd h_mem List.not_mem_nil
  | cloneAccounts selector =>
    obtain rfl := Option.some.inj h
    simp at h_mem
  | readInitial subscription accounts =>
    obtain rfl := Option.some.inj h
    revert h_mem
    dsimp only
    split <;> simp
  -- what a transaction leaves has the transaction as its origin
  | execute client signedTx submission =>
    simp only [exec] at h
    split at h
    · obtain rfl := Option.some.inj h
      exact absurd h_mem (publish_notMem_finish client _ submission _ _)
    · obtain rfl := Option.some.inj h
      rcases List.mem_append.mp h_mem with h_mem | h_mem
      · obtain ⟨event', -, h_eq⟩ := List.mem_map.mp h_mem
        cases h_eq
      · exact absurd h_mem (publish_notMem_finish client _ submission _ _)
  | updateTicketParameters newPrice newWinProb =>
    obtain rfl := Option.some.inj h
    -- the price update itself: one message, on the channel of the ticket parameters
    dsimp only at h_mem
    split at h_mem
    · rcases List.mem_cons.mp h_mem with h_mem | h_mem
      · cases h_mem
      · obtain ⟨rfl, -⟩ := Point.publish.inj (List.mem_singleton.mp h_mem)
        rfl
    · simp at h_mem

end Step

/-! ### Who has something to publish -/

/-- **Arranged.**
* `ordered` : a transaction publishes before its call does anything else.
* `prices` : what is published without the lock are ticket parameters.
* `visible` : no hidden update is pending. -/
structure Arranged (c : Conf) : Prop where
  ordered : ∀ t, (c.todo t).Pairwise fun i j =>
    (∃ event write, j = .publish event (.transaction write)) →
      ∃ event write, i = .publish event (.transaction write)
  prices : ∀ t, ∀ i ∈ c.todo t, ∀ event, i = .publish event .priceUpdate → event.feed = .tickets
  visible : ∀ t, ∀ i ∈ c.todo t, ∀ update, i ≠ .hiddenUpdate update

namespace Arranged

variable {c c' : Conf} {feed : Feed}

/-- At the start nobody has anything to publish. -/
theorem initial (state : BlokliTestState) : Arranged (start state) where
  ordered _ := List.Pairwise.nil
  prices _ _ h_mem := absurd h_mem List.not_mem_nil
  visible _ _ h_mem := absurd h_mem List.not_mem_nil

/-- Only the holder of the write lock publishes, one event after the other. -/
theorem step {a : Action Task Unit Request} (h : Arranged c) (h_call : IsCall a)
    (h_step : clientProgram.step c a = some c') : Arranged c' where
  -- publications of a transaction stand in front of everything else of their task
  ordered := by
    refine Program.todo_of_step (motive := fun _ l => l.Pairwise fun i j =>
      (∃ event write, j = .publish event (.transaction write)) →
        ∃ event write, i = .publish event (.transaction write)) h_step h.ordered
      (fun t ch i rest e _ h_todo h_exec => ⟨?_, fun t' is h_is _ => ?_⟩)
      fun r t e _ h_acc _ => ⟨ordered_of_quiet (accept_records h_acc).1, fun t' is h_is _ => ?_⟩
    · change exec t ch i c = some e at h_exec
      have h_i : i ∈ c.todo t := by
        rw [h_todo]
        exact List.mem_cons_self
      have h_ordered := h.ordered t
      rw [h_todo] at h_ordered
      obtain ⟨h_head, h_tail⟩ := List.pairwise_cons.mp h_ordered
      refine List.pairwise_append.mpr ⟨(exec_tickets h_exec (h.visible t i h_i)).ordered, h_tail, ?_⟩
      -- a publication among the rest means that the instruction was one, which leaves none
      rintro j h_j k h_k ⟨event, write, rfl⟩
      obtain ⟨event', write', rfl⟩ := h_head _ h_k ⟨event, write, rfl⟩
      obtain rfl := Option.some.inj h_exec
      exact absurd h_j List.not_mem_nil
    · -- instructions spawn no task
      change exec t ch i c = some e at h_exec
      rw [(exec_lock h_exec).2.1] at h_is
      cases h_is
    · rw [(accept_lock h_acc).2.1] at h_is
      cases h_is
  -- what a price update leaves is of the channel of the ticket parameters
  prices := by
    refine Program.forall_todo_of_step h_step h.prices (fun _ _ _ h_i => h_i)
      (fun t ch i rest e _ h_todo h_exec => ⟨?_, fun t' is h_is => ?_⟩)
      fun r t e _ h_acc => ⟨?_, fun t' is h_is => ?_⟩
    · change exec t ch i c = some e at h_exec
      rintro j h_j event rfl
      exact exec_prices h_exec h_j
    · change exec t ch i c = some e at h_exec
      rw [(exec_lock h_exec).2.1] at h_is
      cases h_is
    · rintro j h_j event rfl
      exact absurd h_j ((accept_records h_acc).1 event _)
    · rw [(accept_lock h_acc).2.1] at h_is
      cases h_is
  -- no hidden update is ever called
  visible := by
    refine Program.forall_todo_of_step h_step h.visible (fun _ _ _ h_i => h_i)
      (fun t ch i rest e _ h_todo h_exec => ⟨?_, fun t' is h_is => ?_⟩)
      fun r t e h_a h_acc => ⟨?_, fun t' is h_is => ?_⟩
    · change exec t ch i c = some e at h_exec
      rintro j h_j update rfl
      have h_i : i ∈ c.todo t := by
        rw [h_todo]
        exact List.mem_cons_self
      exact (exec_tickets h_exec (h.visible t i h_i)).visible update h_j
    · change exec t ch i c = some e at h_exec
      rw [(exec_lock h_exec).2.1] at h_is
      cases h_is
    · rintro j h_j update rfl
      exact accept_visible (h_a ▸ h_call) h_acc update h_j
    · rw [(accept_lock h_acc).2.1] at h_is
      cases h_is

/-- What a task publishes on a channel other than that of the tickets, it publishes for a
transaction. -/
theorem exists_transaction (h : Arranged c) (h_feed : feed ≠ .tickets) {t : Task} {is : List Point}
    (h_is : ∀ i ∈ is, i ∈ c.todo t) (h_some : unpublished feed is ≠ []) :
    ∃ event write, .publish event (.transaction write) ∈ is := by
  obtain ⟨event, origin, h_mem, h_event⟩ := exists_publish h_some
  cases origin with
  | transaction write => exact ⟨event, write, h_mem⟩
  | priceUpdate =>
    rw [h.prices t _ (h_is _ h_mem) event rfl] at h_event
    exact absurd h_event.symm h_feed

/-- The task holds the write lock. -/
theorem heldBy_eq_write (h : Arranged c) (h_feed : feed ≠ .tickets) {t : Task}
    (h_some : unpublished feed (c.todo t) ≠ []) : heldBy (c.todo t) = .write := by
  obtain ⟨event, write, h_mem⟩ := h.exists_transaction h_feed (fun _ h_i => h_i) h_some
  have h_ordered := h.ordered t
  cases h_todo : c.todo t with
  | nil =>
    rw [h_todo] at h_mem
    exact absurd h_mem List.not_mem_nil
  | cons i rest =>
    rw [h_todo] at h_mem h_ordered
    rcases List.mem_cons.mp h_mem with rfl | h_rest
    · rfl
    · obtain ⟨event', write', rfl⟩ := (List.pairwise_cons.mp h_ordered).1 _ h_rest
        ⟨event, write, rfl⟩
      rfl

/-- No other task has anything to publish while a task holds the write lock. -/
theorem unpublished_other (h : Arranged c) (h_lock : Disciplined c) (h_feed : feed ≠ .tickets)
    {t t' : Task} (h_write : heldBy (c.todo t) = .write) (h_ne : t' ≠ t) :
    unpublished feed (c.todo t') = [] := by
  by_contra h_some
  have h_other := h_lock.owns t'
  have h_self := h_lock.owns t
  rw [h.heldBy_eq_write h_feed h_some] at h_other
  rw [h_write] at h_self
  have h_writer : c.store.lock.writer = some t' := h_other
  exact h_ne (Option.some.inj (h_writer.symm.trans h_self))

/-- Behind an instruction that publishes nothing itself, nothing is published. -/
theorem unpublished_rest (h : Arranged c) (h_feed : feed ≠ .tickets) {t : Task} {i : Point}
    {rest : List Point} (h_todo : c.todo t = i :: rest)
    (h_i : ∀ event write, i ≠ .publish event (.transaction write)) :
    unpublished feed rest = [] := by
  by_contra h_some
  have h_rest : ∀ j ∈ rest, j ∈ c.todo t := by
    intro j h_j
    rw [h_todo]
    exact List.mem_cons_of_mem _ h_j
  obtain ⟨event, write, h_mem⟩ := h.exists_transaction h_feed h_rest h_some
  have h_ordered := h.ordered t
  rw [h_todo] at h_ordered
  obtain ⟨event', write', h_eq⟩ := (List.pairwise_cons.mp h_ordered).1 _ h_mem ⟨event, write, rfl⟩
  exact h_i event' write' h_eq

end Arranged

/-! ### The trail of a run -/

/-- **Logged.** What was published on a channel, and what a task has still to publish
there, is the trail of the written states. -/
structure Logged (feed : Feed) (c : Conf) : Prop where
  pending : ∀ t, unpublished feed (c.todo t) ≠ [] →
    c.store.messages feed ++ unpublished feed (c.todo t) = c.store.changes feed
  settled : (∀ t, unpublished feed (c.todo t) = []) →
    c.store.messages feed = c.store.changes feed

namespace Logged

variable {c c' : Conf} {feed : Feed}

/-- At the start the log is empty. -/
theorem initial (state : BlokliTestState) : Logged feed (start state) where
  pending _ h_some := absurd rfl h_some
  settled _ := rfl

/-- A step that publishes nothing on the channel, and leaves nothing to publish there. -/
theorem of_unconcerned (h : Logged feed c)
    (h_messages : c'.store.messages feed = c.store.messages feed)
    (h_changes : c'.store.changes feed = c.store.changes feed)
    (h_todo : ∀ t, unpublished feed (c'.todo t) = unpublished feed (c.todo t)) :
    Logged feed c' where
  pending t h_some := by
    rw [h_messages, h_changes, h_todo t]
    rw [h_todo t] at h_some
    exact h.pending t h_some
  settled h_none := by
    rw [h_messages, h_changes]
    exact h.settled fun t => (h_todo t).symm.trans (h_none t)

/-- One instruction of a task that holds the write lock. The other tasks have nothing to
publish, so only its own list counts. -/
theorem of_writer {t : Task} (h_others : ∀ t', t' ≠ t → unpublished feed (c.todo t') = [])
    (h : c.store.messages feed ++ unpublished feed (c.todo t) = c.store.changes feed) :
    Logged feed c where
  pending t' h_some := by
    by_cases h_t : t' = t
    · rw [h_t]
      exact h
    · exact absurd (h_others t' h_t) h_some
  settled h_none := by
    rw [h_none t, List.append_nil] at h
    exact h

/-- What the list of a task and the log make together. -/
theorem total (h : Logged feed c) {t : Task}
    (h_others : ∀ t', t' ≠ t → unpublished feed (c.todo t') = []) :
    c.store.messages feed ++ unpublished feed (c.todo t) = c.store.changes feed := by
  by_cases h_some : unpublished feed (c.todo t) = []
  · rw [h_some, List.append_nil]
    refine h.settled fun t' => ?_
    by_cases h_t : t' = t
    · rw [h_t]
      exact h_some
    · exact h_others t' h_t
  · exact h.pending t h_some

/-- An instruction keeps the account: what is published was pending before. -/
theorem step_exec (h : Logged feed c) (h_arr : Arranged c) (h_lock : Disciplined c)
    (h_rec : Recorded c) (h_feed : feed ≠ .tickets) {t : Task} {ch : Unit} {i : Point}
    {rest : List Point} {e : Worklist.Effect Task Point Store} (h_todo : c.todo t = i :: rest)
    (h_exec : exec t ch i c = some e) : Logged feed (c.resume t rest e) := by
  have h_i : i ∈ c.todo t := by
    rw [h_todo]
    exact List.mem_cons_self
  obtain ⟨h_messages, h_changes, h_next⟩ :=
    exec_changes h_exec (h_arr.visible t i h_i) h_rec.current h_feed
  -- the other tasks keep their lists
  have h_other : ∀ t', t' ≠ t → (c.resume t rest e).todo t' = c.todo t' :=
    fun t' h_t => resume_todo_of_ne c t rest e h_t (exec_lock h_exec).2.1
  -- either nothing about the channel changes, or the task holds the write lock
  by_cases h_calm : unpublished feed [i] = [] ∧ unpublished feed e.next = []
  · obtain ⟨h_calm_i, h_calm_next⟩ := h_calm
    refine h.of_unconcerned ?_ ?_ fun t' => ?_
    · rw [resume_store, h_messages, h_calm_i, List.append_nil]
    · rw [resume_store, h_changes, h_calm_next, List.append_nil]
    · by_cases h_t : t' = t
      · rw [h_t, resume_todo_self, h_todo, unpublished_append, unpublished_cons i rest,
          h_calm_i, h_calm_next]
      · rw [h_other t' h_t]
  · have h_write : heldBy (c.todo t) = .write := by
      -- it leaves some, so it wrote
      by_cases h_some : unpublished feed [i] = []
      · rw [h_todo]
        exact h_next.resolve_left fun h_none => h_calm ⟨h_some, h_none⟩
      · -- it published, so some were left
        refine h_arr.heldBy_eq_write h_feed fun h_none => h_some ?_
        rw [h_todo, unpublished_cons] at h_none
        exact (List.append_eq_nil_iff.mp h_none).1
    have h_others : ∀ t', t' ≠ t → unpublished feed (c.todo t') = [] :=
      fun t' h_t => h_arr.unpublished_other h_lock h_feed h_write h_t
    refine of_writer (t := t) (fun t' h_t => ?_) ?_
    · rw [h_other t' h_t]
      exact h_others t' h_t
    · -- an instruction that leaves publications stands before all others
      have h_swap : unpublished feed e.next ++ unpublished feed rest =
          unpublished feed rest ++ unpublished feed e.next := by
        by_cases h_publish : ∃ event write, i = .publish event (.transaction write)
        · obtain ⟨event, write, rfl⟩ := h_publish
          obtain rfl := Option.some.inj h_exec
          exact (List.append_nil _).symm
        · have h_rest := h_arr.unpublished_rest h_feed h_todo fun event write h_eq =>
            h_publish ⟨event, write, h_eq⟩
          rw [h_rest, List.nil_append, List.append_nil]
      -- between them: what is published and what is left add up to what was written
      have h_total := h.total h_others
      rw [h_todo, unpublished_cons, ← List.append_assoc] at h_total
      rw [resume_store, resume_todo_self, h_messages, h_changes, unpublished_append, h_swap,
        ← h_total, List.append_assoc, List.append_assoc, List.append_assoc]

/-- A call leaves nothing to publish when it is accepted. -/
theorem step {a : Action Task Unit Request} (h : Logged feed c) (h_arr : Arranged c)
    (h_lock : Disciplined c) (h_rec : Recorded c) (h_feed : feed ≠ .tickets)
    (h_step : clientProgram.step c a = some c') : Logged feed c' := by
  rcases Program.step_cases h_step with ⟨t, ch, i, rest, e, -, h_todo, h_exec, rfl⟩ |
    ⟨r, t, e, -, h_acc, h_idle, rfl⟩
  · change exec t ch i c = some e at h_exec
    exact h.step_exec h_arr h_lock h_rec h_feed h_todo h_exec
  · obtain ⟨h_store, h_spawned, -⟩ := accept_lock h_acc
    have h_next : unpublished feed e.next = [] := unpublished_of_quiet (accept_records h_acc).1
    refine h.of_unconcerned ?_ ?_ fun t' => ?_
    · rw [resume_store, h_store]
    · rw [resume_store, h_store]
    · by_cases h_t : t' = t
      · rw [h_t, resume_todo_self, List.append_nil, h_next, h_idle]
        rfl
      · rw [resume_todo_of_ne c t [] e h_t h_spawned]

end Logged

/-! ### Where a stream begins -/

/-- The messages of a channel that were published before the state that the snapshot was
read from, and none that was published later. -/
def Snapshot.Covers (snapshot : Snapshot) (written : List BlokliTestState)
    (messages : List Event) : Prop :=
  messages = onFeed snapshot.subscription.feed (trail publications (written.take snapshot.asOf))

/-- **Aligned.** A pending activation would start its receiver where the trail of its
snapshot ends, and every receiver was started there. -/
structure Aligned (P : Subscription → Prop) (c : Conf) : Prop where
  pending : ∀ t, ∀ i ∈ c.todo t, ∀ snapshot, i = .activate snapshot → P snapshot.subscription →
    snapshot.subscription.feed ≠ .tickets →
      snapshot.Covers c.store.written (c.store.messages snapshot.subscription.feed)
  opened : ∀ stream ∈ c.store.streams, P stream.subscription →
    stream.subscription.feed ≠ .tickets →
      stream.Covers c.store.written
        ((c.store.messages stream.subscription.feed).take stream.since)

/-- Only a subscription that holds the read lock takes a snapshot. -/
theorem before_of_reading {t : Task} {ch : Unit} {i : Point} {c : Conf}
    {e : Worklist.Effect Task Point Store} (h : exec t ch i c = some e) {snapshot : Snapshot}
    (h_mem : .activate snapshot ∈ e.next) : i.before = .read := by
  cases i with
  | lockRead | lockWrite =>
    simp only [exec] at h
    split at h
    · obtain rfl := Option.some.inj h
      exact absurd h_mem List.not_mem_nil
    · cases h
  | unlockRead | unlockWrite | activate | publish | insertActiveTx | serve | hiddenUpdate =>
    obtain rfl := Option.some.inj h
    exact absurd h_mem List.not_mem_nil
  -- a subscription reads under the read lock, which it holds before
  | cloneAccounts | readInitial => rfl
  | execute client signedTx submission =>
    simp only [exec] at h
    split at h
    · obtain rfl := Option.some.inj h
      exact absurd h_mem (activate_notMem_finish client _ submission _)
    · obtain rfl := Option.some.inj h
      rcases List.mem_append.mp h_mem with h_mem | h_mem
      · obtain ⟨event', -, h_eq⟩ := List.mem_map.mp h_mem
        cases h_eq
      · exact absurd h_mem (activate_notMem_finish client _ submission _)
  | updateTicketParameters newPrice newWinProb =>
    obtain rfl := Option.some.inj h
    revert h_mem
    dsimp only
    split <;> simp

namespace Aligned

variable {P : Subscription → Prop} {c c' : Conf} {feed : Feed}

/-- At the start no stream is open. -/
theorem initial (state : BlokliTestState) : Aligned P (start state) where
  pending _ _ h_mem := absurd h_mem List.not_mem_nil
  opened _ h_mem := absurd h_mem List.not_mem_nil

/-- What a snapshot covers does not depend on later states. -/
theorem covers_grow {snapshot : Snapshot} {store store' : Store} {messages : List Event}
    (h_genuine : snapshot.Genuine store)
    (h_written : ∃ states, store'.written = store.written ++ states)
    (h : snapshot.Covers store.written messages) : snapshot.Covers store'.written messages := by
  obtain ⟨j, state, h_asOf, h_state, -⟩ := h_genuine
  obtain ⟨states, h_states⟩ := h_written
  obtain ⟨h_lt, -⟩ := List.getElem?_eq_some_iff.mp h_state
  unfold Snapshot.Covers at h ⊢
  rw [h_states, List.take_append_of_le_length (by omega)]
  exact h

/-- Nobody has anything to publish while a task reads. -/
theorem messages_of_reading (h_arr : Arranged c) (h_lock : Disciplined c) (h_log : Logged feed c)
    (h_feed : feed ≠ .tickets) {t : Task} (h_read : heldBy (c.todo t) = .read) :
    c.store.messages feed = c.store.changes feed := by
  refine h_log.settled fun t' => ?_
  by_contra h_some
  exact h_lock.no_reader (h_arr.heldBy_eq_write h_feed h_some) h_read

variable {a : Action Task Unit Request}

/-- A step that no transaction makes on the channel leaves its log as it is. -/
theorem messages_step (h_arr : Arranged c) (h_step : clientProgram.step c a = some c')
    (h_feed : feed ≠ .tickets) (h_none : ∀ t event write rest, a = .run t () →
      c.todo t = .publish event (.transaction write) :: rest → feed ≠ event.feed) :
    c'.store.messages feed = c.store.messages feed := by
  rcases Program.step_cases h_step with ⟨t, ch, i, rest, e, h_a, h_todo, h_exec, rfl⟩ |
    ⟨r, t, e, -, h_acc, -, rfl⟩
  · change exec t ch i c = some e at h_exec
    rw [resume_store]
    -- a publication extends the log of its own channel
    rcases (exec_records h_exec).log with h_same | ⟨event, origin, rfl, h_publish⟩
    · exact congrArg (List.map Prod.fst) (congrFun h_same feed)
    -- not this one: no transaction publishes on it, and a price update has a channel of its own
    · have h_ne : event.feed ≠ feed := by
        cases origin with
        | transaction write => exact Ne.symm (h_none t event write rest h_a h_todo)
        | priceUpdate =>
          have h_i : .publish event .priceUpdate ∈ c.todo t := by
            rw [h_todo]
            exact List.mem_cons_self
          rw [h_arr.prices t _ h_i event rfl]
          exact Ne.symm h_feed
      have h_messages : e.store.messages feed = c.store.messages feed ++ onFeed feed [event] :=
        (congrArg (List.map Prod.fst) (congrFun h_publish feed)).trans
          (messages_broadcast c.store event origin)
      rw [h_messages, onFeed_eq_nil fun event' h_mem => ?_, List.append_nil]
      obtain rfl := List.mem_singleton.mp h_mem
      exact h_ne
  · rw [resume_store, (accept_lock h_acc).1]

/-- One step keeps streams aligned, when it does not publish into a gap that matters. -/
theorem step (h : Aligned P c) (h_arr : Arranged c)
    (h_log : ∀ feed, feed ≠ .tickets → Logged feed c)
    (h_bridge : Bridged P c) (h_rec : Recorded c) (h_lock : Disciplined c)
    (h_spared : Spared P c a) (h_step : clientProgram.step c a = some c') : Aligned P c' where
  pending := by
    refine Program.forall_todo_of_step h_step h.pending ?_
      (fun t ch i rest e h_a h_todo h_exec => ?_) fun r t e _ h_acc => ?_
    -- the log stands, as nobody publishes on the channel of a pending activation
    · rintro t' i h_mem h_i snapshot rfl h_P h_feed
      rw [messages_step h_arr h_step h_feed fun t event write rest h_a h_todo =>
        feed_ne_of_publish h_lock h_rec h_todo (h_spared t event write rest h_a h_todo) h_mem h_P]
      exact covers_grow (h_bridge.pending t' _ h_mem snapshot rfl).1 (Recorded.written_step h_step)
        (h_i snapshot rfl h_P h_feed)
    · change exec t ch i c = some e at h_exec
      refine ⟨fun j h_j snapshot h_eq _ h_feed => ?_, fun t' is h_spawned => ?_⟩
      · -- a snapshot is taken under the read lock, so everything written is published
        subst h_eq h_a
        obtain rfl := Option.some.inj (h_step.symm.trans (Program.step_run h_todo h_exec))
        obtain ⟨h_store, h_asOf, -⟩ := (exec_records h_exec).reading snapshot h_j
        have h_read : heldBy (c.todo t) = .read := by
          rw [h_todo]
          exact before_of_reading h_exec h_j
        unfold Snapshot.Covers
        rw [resume_store, h_store, h_asOf, List.take_length]
        exact messages_of_reading h_arr h_lock (h_log _ h_feed) h_feed h_read
      · rw [(exec_lock h_exec).2.1] at h_spawned
        cases h_spawned
    · refine ⟨fun j h_j snapshot h_eq => ?_, fun t' is h_spawned => ?_⟩
      · subst h_eq
        exact absurd h_j ((accept_records h_acc).2 snapshot)
      · rw [(accept_lock h_acc).2.1] at h_spawned
        cases h_spawned
  opened stream h_stream h_P h_feed := by
    have h_written := Recorded.written_step h_step
    rcases Bridged.mem_streams_step h_step h_stream with
      h_open | ⟨t, snapshot, h_mem, h_same, -, rfl⟩
    · -- the log has only grown behind the position of the receiver
      obtain ⟨h_genuine, h_since, -⟩ := h_bridge.opened stream h_open
      obtain ⟨messages, h_messages⟩ := Bridged.log_step h_step stream.subscription.feed
      have h_take : (c'.store.messages stream.subscription.feed).take stream.since =
          (c.store.messages stream.subscription.feed).take stream.since := by
        unfold Store.messages
        rw [h_messages, List.map_append, List.take_append_of_le_length]
        rw [List.length_map]
        exact h_since
      rw [h_take]
      exact covers_grow h_genuine h_written (h.opened stream h_open h_P h_feed)
    · -- the receiver is activated at the end of the log
      have h_take : (c'.store.messages snapshot.subscription.feed).take
          (c.store.log snapshot.subscription.feed).length =
            c.store.messages snapshot.subscription.feed := by
        unfold Store.messages
        rw [h_same]
        exact List.take_of_length_le (List.length_map ..).le
      dsimp only
      rw [h_take]
      exact covers_grow (h_bridge.pending t _ h_mem snapshot rfl).1 h_written
        (h.pending t _ h_mem snapshot rfl h_P h_feed)

end Aligned

/-! ### Every interleaving -/

/-- The invariants of a run without hidden updates that spares the streams with property
`P`. -/
structure Sequenced (P : Subscription → Prop) (c : Conf) : Prop where
  arranged : Arranged c
  logged : ∀ feed, feed ≠ .tickets → Logged feed c
  recorded : Recorded c
  bridged : Bridged P c
  aligned : Aligned P c

namespace Sequenced

variable {P : Subscription → Prop} {c : Conf} {feed : Feed} {state : BlokliTestState}

/-- The four invariants together, along a run. -/
theorem reachable {Allowed : Conf → Action Task Unit Request → Prop}
    (h_allowed : ∀ c a, Allowed c a → IsCall a ∧ Spared P c a)
    (h : clientProgram.Reachable (start state) Allowed c) : Sequenced P c := by
  refine h.induct (motive := fun c => Sequenced P c)
    ⟨.initial state, fun _ _ => .initial state, .initial state, .initial state, .initial state⟩
    fun h_reach h_c h_ok h_step => ?_
  obtain ⟨h_call, h_spared⟩ := h_allowed _ _ h_ok
  have h_lock := Disciplined.reachable h_reach
  exact ⟨h_c.arranged.step h_call h_step,
    fun feed h_feed => (h_c.logged feed h_feed).step h_c.arranged h_lock h_c.recorded h_feed h_step,
    h_c.recorded.step h_step, h_c.bridged.step h_c.recorded h_lock h_spared h_step,
    h_c.aligned.step h_c.arranged h_c.logged h_c.bridged h_c.recorded h_lock h_spared h_step⟩

/-- At most one task has something to publish, and with it the log is the trail. -/
theorem pending (h : Sequenced P c) (h_lock : Disciplined c) (h_feed : feed ≠ .tickets) :
    ∃ pending, c.store.messages feed ++ pending = c.store.changes feed ∧
      (∀ t, unpublished feed (c.todo t) ≠ [] →
        c.store.lock.writer = some t ∧ unpublished feed (c.todo t) = pending) ∧
      ((∀ t, unpublished feed (c.todo t) = []) → pending = []) := by
  by_cases h_some : ∃ t, unpublished feed (c.todo t) ≠ []
  · obtain ⟨t, h_t⟩ := h_some
    have h_write := h.arranged.heldBy_eq_write h_feed h_t
    have h_owns := h_lock.owns t
    rw [h_write] at h_owns
    refine ⟨_, (h.logged feed h_feed).pending t h_t, fun t' h_t' => ?_, fun h_none => h_none t⟩
    by_cases h_eq : t' = t
    · subst h_eq
      exact ⟨h_owns, rfl⟩
    · exact absurd (h.arranged.unpublished_other h_lock h_feed h_write h_eq) h_t'
  · have h_none : ∀ t, unpublished feed (c.todo t) = [] :=
      fun t => not_not.mp fun h_t => h_some ⟨t, h_t⟩
    refine ⟨[], ?_, fun t h_t => absurd (h_none t) h_t, fun _ => rfl⟩
    rw [List.append_nil]
    exact (h.logged feed h_feed).settled h_none

end Sequenced

/-- **Nothing is lost, doubled or out of order.** In every run, what was published on
a channel, followed by what the holder of the write lock has still to publish there, is
the sequence of changes from each written state to the next. -/
theorem publications_in_order {state : BlokliTestState} {c : Conf} {feed : Feed}
    (h : clientProgram.Reachable (start state) (fun _ a => IsCall a) c) (h_feed : feed ≠ .tickets) :
    ∃ pending, c.store.messages feed ++ pending = c.store.changes feed ∧
      (∀ t, unpublished feed (c.todo t) ≠ [] →
        c.store.lock.writer = some t ∧ unpublished feed (c.todo t) = pending) ∧
      ((∀ t, unpublished feed (c.todo t) = []) → pending = []) := by
  have h_seq : Sequenced (fun _ => False) c :=
    .reachable (fun _ _ h_a => ⟨h_a, fun _ _ _ _ _ _ ⟨_, _, _, h_P, _⟩ => h_P⟩) h
  exact h_seq.pending (.reachable h) h_feed

/-- An announcement whose publication is pending. -/
theorem publications_in_order_pending : ∃ c,
    clientProgram.Reachable (start (stateWith ∅)) (fun _ a => IsCall a) c ∧
      unpublished .accounts (c.todo 1) ≠ [] ∧
      ∃ pending, c.store.messages .accounts ++ pending = c.store.changes .accounts ∧
        (∀ t, unpublished .accounts (c.todo t) ≠ [] →
          c.store.lock.writer = some t ∧ unpublished .accounts (c.todo t) = pending) ∧
        ((∀ t, unpublished .accounts (c.todo t) = []) → pending = []) := by
  obtain ⟨c, h_run, rest, h_todo⟩ :
      ∃ c, clientProgram.runWithin [0, 1] isSilentCall (start (stateWith ∅)) announceAfter =
          some c ∧
        ∃ rest, c.todo 1 = .publish (.account sampleAccount) (.transaction 1) :: rest :=
    ⟨_, rfl, _, rfl⟩
  obtain ⟨h_reach, -⟩ := Program.Reachable.runWithin
    (fun _ _ _ h_check => (allowed_of_silentCall h_check).1) .init (fun _ _ => rfl) h_run
  refine ⟨c, h_reach, ?_, publications_in_order h_reach (fun h_feed => by cases h_feed)⟩
  rw [h_todo, unpublished_cons]
  exact List.cons_ne_nil _ _

/-! ### What a stream yields -/

/-- What a stream yields for events in its live part. -/
def Stream.live (stream : Stream) (events : List Event) : List (Except ErrorKind Item) :=
  events.filterMap fun event =>
    (stream.subscription.livePart stream.accounts event).map .ok

/-- **Linearized.** With what is still unpublished on its channel, the stream yields the
initial part of one of the written states and then the changes between all later ones. -/
def Linearized (c : Conf) (stream : Stream) : Prop :=
  ∃ n first pending, c.store.written[n]? = some first ∧
    stream.items c.store ++ stream.live pending = stream.subscription.initialPart first ++
      stream.live (trail publications (c.store.written.drop n)) ∧
    ((∀ t, unpublished stream.subscription.feed (c.todo t) = []) → pending = [])

/-- A stream takes items from its own feed only. -/
theorem feed_of_livePart {accounts : IndexMap UInt32 Account} {subscription : Subscription}
    {event : Event} {item : Item} (h : subscription.livePart accounts event = some item) :
    event.feed = subscription.feed := by
  cases subscription <;> cases event <;> first | rfl | cases h

/-- Events of other channels are not received. -/
theorem live_onFeed (stream : Stream) (events : List Event) :
    stream.live (onFeed stream.subscription.feed events) = stream.live events := by
  unfold Stream.live onFeed
  induction events with
  | nil => rfl
  | cons event events ih =>
    by_cases h_feed : event.feed = stream.subscription.feed
    · rw [List.filter_cons_of_pos
          (p := fun event : Event => decide (event.feed = stream.subscription.feed))
          (decide_eq_true h_feed), List.filterMap_cons, List.filterMap_cons, ih]
    · have h_none : stream.subscription.livePart stream.accounts event = none := by
        cases h_live : stream.subscription.livePart stream.accounts event with
        | none => rfl
        | some item => exact absurd (feed_of_livePart h_live) h_feed
      rw [List.filter_cons_of_neg (by simp [h_feed]), List.filterMap_cons, h_none, ih]
      rfl

/-- The items of a stream, from the messages since its activation. -/
theorem items_eq_live (stream : Stream) (store : Store) :
    stream.items store = stream.initial ++
      stream.live ((store.messages stream.subscription.feed).drop stream.since) := by
  unfold Stream.items Stream.live Store.messages
  rw [← List.map_drop, List.filterMap_map]
  rfl

/-- **What a stream yields**, in a state in which all invariants hold. -/
theorem Sequenced.linearized {P : Subscription → Prop} {c : Conf} (h : Sequenced P c)
    (h_lock : Disciplined c) {stream : Stream} (h_stream : stream ∈ c.store.streams)
    (h_P : P stream.subscription) (h_feed : stream.subscription.feed ≠ .tickets) :
    Linearized c stream := by
  obtain ⟨⟨n, first, h_asOf, h_first, h_initial⟩, -, -⟩ := h.bridged.opened stream h_stream
  obtain ⟨pending, h_total, -, h_none⟩ := h.pending h_lock h_feed
  -- what is pending is what was written and is not in the log
  refine ⟨n, first, pending, h_first, ?_, h_none⟩
  have h_covers : (c.store.messages stream.subscription.feed).take stream.since =
      onFeed stream.subscription.feed (trail publications (c.store.written.take stream.asOf)) :=
    h.aligned.opened stream h_stream h_P h_feed
  -- the log is cut at the state of the initial part
  have h_cut : (c.store.messages stream.subscription.feed).drop stream.since ++ pending =
      onFeed stream.subscription.feed (trail publications (c.store.written.drop n)) := by
    apply List.append_cancel_left
    calc (c.store.messages stream.subscription.feed).take stream.since ++
          ((c.store.messages stream.subscription.feed).drop stream.since ++ pending)
        = c.store.messages stream.subscription.feed ++ pending := by
          rw [← List.append_assoc, List.take_append_drop]
      _ = onFeed stream.subscription.feed (trail publications c.store.written) := h_total
      _ = onFeed stream.subscription.feed
            (trail publications (c.store.written.take (n + 1)) ++
              trail publications (c.store.written.drop n)) := by rw [← trail_split n]
      _ = _ := by rw [onFeed_append, h_covers, h_asOf]
  calc stream.items c.store ++ stream.live pending
      = stream.initial ++ stream.live
          ((c.store.messages stream.subscription.feed).drop stream.since ++ pending) := by
        rw [items_eq_live, List.append_assoc]
        exact congrArg _ (List.filterMap_append ..).symm
    _ = _ := by rw [h_cut, live_onFeed, h_initial]

/-- A call that activates its receiver under the lock is never exposed. -/
theorem spared_locked {c : Conf} {a : Action Task Unit Request} :
    Spared (fun s => s.locked = true) c a := by
  rintro t event write rest - - ⟨t', snapshot, -, h_locked, h_unlocked, -⟩
  rw [h_locked] at h_unlocked
  cases h_unlocked

/-- The stream of the ticket parameters is not activated under the lock. -/
theorem feed_of_locked {subscription : Subscription} (h : subscription.locked = true) :
    subscription.feed ≠ .tickets := by
  intro h_feed
  cases subscription with
  | ticketParams => cases h
  | channels | accounts | graph | safeDeployments | services | serviceTypes
  | serviceRegistryConfig => cases h_feed

/-- **Streams linearize.** The methods that activate their receiver under the read lock
yield in every run the initial part of one of the written states, followed by the changes
between all later ones. All methods but that of the ticket parameters do so in a run in
which no transaction publishes between a snapshot and the activation of its receiver. -/
theorem streams_linearize (state : BlokliTestState) :
    (∀ c, clientProgram.Reachable (start state) (fun _ a => IsCall a) c →
      ∀ stream ∈ c.store.streams, stream.subscription.locked = true → Linearized c stream) ∧
    ∀ c, clientProgram.Reachable (start state) (fun c a => IsCall a ∧ Prompt c a) c →
      ∀ stream ∈ c.store.streams, stream.subscription.feed ≠ .tickets → Linearized c stream := by
  constructor
  · intro c h stream h_stream h_locked
    have h_seq : Sequenced (fun s => s.locked = true) c :=
      .reachable (fun _ _ h_a => ⟨h_a, spared_locked⟩) h
    exact h_seq.linearized (.reachable h) h_stream h_locked (feed_of_locked h_locked)
  · intro c h stream h_stream h_feed
    have h_seq : Sequenced (fun _ => True) c := .reachable (fun _ _ h_a => h_a) h
    exact h_seq.linearized (.reachable h) h_stream trivial h_feed

/-- A subscription to the accounts, and an announcement behind it. -/
theorem streams_linearize_accounts : ∃ c stream, clientProgram.Reachable (start (stateWith ∅))
    (fun c a => IsCall a ∧ Prompt c a) c ∧ stream ∈ c.store.streams ∧
      c.store.written = [stateWith ∅, stateWith (AList.singleton 1 sampleAccount)] ∧
      Linearized c stream := by
  obtain ⟨c, h_run, stream, h_streams, h_subscription, h_written⟩ :
      ∃ c, clientProgram.runWithin [0, 1] isSilentCall (start (stateWith ∅)) announceAfter =
          some c ∧
        ∃ stream, c.store.streams = [stream] ∧ stream.subscription = .accounts .any ∧
          c.store.written = [stateWith ∅, stateWith (AList.singleton 1 sampleAccount)] :=
    ⟨_, rfl, _, rfl, rfl, rfl⟩
  have h_check : ∀ c a, Within [0, 1] c → isSilentCall c a = true → IsCall a ∧ Prompt c a :=
    fun _ _ _ h => ⟨(allowed_of_silentCall h).1, prompt_of_silent (Bool.and_eq_true_iff.mp h).1⟩
  obtain ⟨h_reach, -⟩ := Program.Reachable.runWithin h_check .init (fun _ _ => rfl) h_run
  have h_stream : stream ∈ c.store.streams := by
    rw [h_streams]
    exact List.mem_singleton_self _
  refine ⟨c, stream, h_reach, h_stream, h_written,
    (streams_linearize (stateWith ∅)).2 c h_reach stream h_stream ?_⟩
  rw [h_subscription]
  exact fun h_feed => by cases h_feed

/-- **A transaction can publish.** Whoever holds the lock, nothing keeps a task from
publishing all that it has to. -/
theorem reachable_published {Allowed : Conf → Action Task Unit Request → Prop} {c : Conf} {t : Task}
    (h_allowed : ∀ c' : Conf, (∀ t', c'.todo t' ⊆ c.todo t') → Allowed c' (.run t ()))
    {events : List Event} {write : ℕ} {rest : List Point}
    (h_todo : c.todo t = (events.map fun event => .publish event (.transaction write)) ++ rest) :
    ∃ c', clientProgram.Reachable c Allowed c' ∧ c'.todo t = rest ∧
      (∀ t', t' ≠ t → c'.todo t' = c.todo t') ∧ c'.store.state = c.store.state ∧
      c'.store.lock = c.store.lock ∧ c'.store.written = c.store.written ∧
      c'.store.streams = c.store.streams := by
  -- one publication after the other, each under the lock that the task holds
  induction events generalizing c with
  | nil => exact ⟨c, .init, h_todo, fun _ _ => rfl, rfl, rfl, rfl, rfl⟩
  | cons event events ih =>
    let e : Worklist.Effect Task Point Store := {
      store := c.store.broadcast event (.transaction write)
      next := [] }
    let rest' := (events.map fun event => .publish event (.transaction write)) ++ rest
    -- the list of the task only becomes shorter
    have h_subset : ∀ t', (c.resume t rest' e).todo t' ⊆ c.todo t' := by
      intro t' i h_i
      by_cases h_t : t' = t
      · subst h_t
        rw [resume_todo_self] at h_i
        rw [h_todo]
        exact List.mem_cons_of_mem _ h_i
      · rw [resume_todo_of_ne c t rest' e h_t rfl] at h_i
        exact h_i
    have h_reach : clientProgram.Reachable c Allowed (c.resume t rest' e) :=
      .exec () h_todo rfl (h_allowed c fun _ => List.Subset.refl _)
    obtain ⟨c', h_reach', h_self, h_other, h_state, h_lock, h_written, h_streams⟩ :=
      ih (c := c.resume t rest' e)
        (fun c' h_c' => h_allowed c' fun t' => List.Subset.trans (h_c' t') (h_subset t'))
        (resume_todo_self c t rest' e)
    exact ⟨c', h_reach.trans h_reach', h_self,
      fun t' h_t => (h_other t' h_t).trans (resume_todo_of_ne c t rest' e h_t rfl),
      h_state, h_lock, h_written, h_streams⟩

/-- **A transaction runs to its end.** Whoever holds the lock and is about to execute an
acceptable transaction can write its state, publish the changes and release the lock. -/
theorem reachable_accepted (Allowed : Conf → Action Task Unit Request → Prop) {c : Conf} {t : Task}
    (h_allowed : ∀ c' : Conf, (∀ t' snapshot, .activate snapshot ∈ c'.todo t' →
      .activate snapshot ∈ c.todo t') → Allowed c' (.run t ()))
    {client : TestClient} {signedTx : List UInt8} {state : BlokliTestState}
    (h_todo : c.todo t = [.execute client signedTx .transaction])
    (h_mutator : client.mutator signedTx c.store.state = (.ok (), state))
    (h_removals : checkRemovals c.store.state state = .ok ()) :
    ∃ c', clientProgram.Reachable c Allowed c' ∧ c'.store.state = state ∧
      c'.store.lock.writer = none ∧ c'.store.written = c.store.written ++ [state] ∧
      c'.store.streams = c.store.streams := by
  let events := publications c.store.state state
  let next := (events.map fun event => .publish event (.transaction c.store.written.length)) ++
    [Point.unlockWrite]
  let e : Worklist.Effect Task Point Store := {
    store := c.store.write state
    next := next }
  -- the mutator removes nothing, so the transaction is accepted
  have h_exec : exec t () (.execute client signedTx .transaction) c = some e := by
    have h_run : simulateTxExecution signedTx c.store.state client.mutator =
        (.ok events, state) := by
      unfold simulateTxExecution
      rw [h_mutator]
      dsimp only
      rw [h_removals]
    simp only [exec]
    rw [h_run]
    rfl
  -- no receiver is about to be activated that was not before
  have h_next : ∀ snapshot, .activate snapshot ∉ next := by
    intro snapshot h_mem
    rcases List.mem_append.mp h_mem with h_mem | h_mem
    · obtain ⟨event, -, h_eq⟩ := List.mem_map.mp h_mem
      cases h_eq
    · cases List.mem_singleton.mp h_mem
  have h_old : ∀ t' snapshot, .activate snapshot ∈ (c.resume t [] e).todo t' →
      .activate snapshot ∈ c.todo t' := by
    intro t' snapshot h_mem
    by_cases h_t : t' = t
    · subst h_t
      rw [resume_todo_self, List.append_nil] at h_mem
      exact absurd h_mem (h_next snapshot)
    · rw [resume_todo_of_ne c t [] e h_t rfl] at h_mem
      exact h_mem
  -- execute, publish, and release the lock
  have h_execute : clientProgram.Reachable c Allowed (c.resume t [] e) :=
    .exec () h_todo h_exec (h_allowed c fun _ _ => id)
  obtain ⟨c', h_publish, h_todo', h_other, h_state, -, h_written, h_streams⟩ :=
    reachable_published (c := c.resume t [] e)
      (fun c' h_c' => h_allowed c' fun t' snapshot h_mem => h_old t' snapshot (h_c' t' h_mem))
      ((resume_todo_self c t [] e).trans (List.append_nil _))
  -- the last step runs in a configuration like the first
  have h_last : Allowed c' (.run t ()) := by
    refine h_allowed c' fun t' snapshot h_mem => ?_
    by_cases h_t : t' = t
    · rw [h_t, h_todo'] at h_mem
      cases List.mem_singleton.mp h_mem
    · rw [h_other t' h_t] at h_mem
      exact h_old t' snapshot h_mem
  exact ⟨_,
    (h_execute.trans h_publish).trans (.exec () h_todo' rfl h_last), h_state, rfl, h_written,
    h_streams⟩

end Blokli.Testing
