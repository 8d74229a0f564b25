import BlokliClient.Testing.Gap

/-!
# The last published ticket parameters

Are the ticket parameters that were published last the ones in the state, once every
call has returned? A transaction publishes under the write lock, so what it publishes
is current. `update_price_and_win_prob` publishes after it has released the lock, and
another writer may come in between.

* `Announced` is the invariant: what was published last is current, or a publication
  of ticket parameters is still pending. What a transaction is about to publish is
  current.
* A run keeps it as long as a price update does not publish parameters that are out
  of date as the last publication that is pending (`InOrder`).
-/

namespace Blokli.Testing

open Worklist

/-! ### Ticket parameters -/

/-- Parameters that `simulate_tx_execution` takes for unchanged, in any number of
steps. The winning probabilities are floating point numbers, which `!=` compares by
their values. -/
def TicketParameters.Same (old new : TicketParameters) : Prop :=
  old.ticketPrice = new.ticketPrice ∧
    Relation.ReflTransGen (fun a b : Float => (b != a) = false) old.minTicketWinningProbability
      new.minTicketWinningProbability

namespace TicketParameters.Same

/-- Parameters are the same as themselves. -/
theorem refl (p : TicketParameters) : Same p p := ⟨rfl, .refl⟩

/-- Sameness passes on. -/
theorem trans {p q r : TicketParameters} (h : Same p q) (h' : Same q r) : Same p r :=
  ⟨h.1.trans h'.1, h.2.trans h'.2⟩

end TicketParameters.Same

/-- The ticket parameters that an event carries. -/
def Event.tickets : Event → Option TicketParameters
  | .ticketParameters parameters => some parameters
  | _ => none

/-- The ticket parameters that were published, in their order. -/
def Store.publishedTickets (store : Store) : List TicketParameters :=
  (store.log .tickets).filterMap fun entry => entry.1.tickets

/-- A broadcast adds the parameters that it carries. -/
theorem publishedTickets_broadcast (store : Store) (event : Event) (origin : Origin) :
    (store.broadcast event origin).publishedTickets =
      store.publishedTickets ++ event.tickets.toList := by
  unfold Store.publishedTickets Store.broadcast
  dsimp only
  cases event with
  | ticketParameters parameters =>
    rw [show Event.feed (.ticketParameters parameters) = Feed.tickets from rfl,
      Function.update_self, List.filterMap_append]
    rfl
  | account | channel | safe | service | serviceType | serviceRegistryConfig =>
    rw [Function.update_of_ne (fun h_feed => (by cases h_feed))]
    exact (List.append_nil _).symm

/-- What a subscriber knows that has followed the ticket parameters since the first of
the states. -/
def Store.knownTickets (store : Store) (first : BlokliTestState) : TicketParameters :=
  store.publishedTickets.getLast?.getD first.ticketParameters

/-- A transaction publishes the parameters, or leaves them the same. -/
theorem ticketChanges_cases (oldState state : BlokliTestState) :
    ticketChanges oldState state = [state.ticketParameters] ∨
      ticketChanges oldState state = [] ∧
        TicketParameters.Same oldState.ticketParameters state.ticketParameters := by
  unfold ticketChanges
  split
  · exact Or.inl rfl
  · next h_same =>
    obtain ⟨h_prob, h_price⟩ := Bool.or_eq_false_iff.mp (Bool.eq_false_iff.mpr h_same)
    have h_eq : state.chainInfo.ticketPrice = oldState.chainInfo.ticketPrice :=
      bne_eq_false_iff_eq.mp h_price
    exact Or.inr ⟨rfl, h_eq.symm, .single h_prob⟩

/-- A transaction publishes ticket parameters among its changes only. -/
theorem ticketParameters_mem_publications {oldState state : BlokliTestState}
    {p : TicketParameters} :
    .ticketParameters p ∈ publications oldState state ↔ p ∈ ticketChanges oldState state := by
  unfold publications
  simp only [List.mem_append, List.mem_map, reduceCtorEq, and_false, exists_false, false_or,
    or_false, Event.ticketParameters.injEq, exists_eq_right]

/-! ### What one instruction does to them -/

/-- What an instruction does to the ticket parameters. -/
structure TicketEffect (c : Conf) (i : Point) (e : Worklist.Effect Task Point Store) : Prop where
  /-- Only a publication broadcasts, and it does nothing else. -/
  log : (∀ event origin, i ≠ .publish event origin) ∧ e.store.log = c.store.log ∨
    ∃ event origin, i = .publish event origin ∧ e.store = c.store.broadcast event origin ∧
      e.next = []
  /-- The state is written under the write lock, by other instructions than a publication. -/
  written : e.store.state = c.store.state ∨
    i.before = .write ∧ ∀ event origin, i ≠ .publish event origin
  pending : ∀ p origin, .publish (.ticketParameters p) origin ∈ e.next →
    p = e.store.state.ticketParameters
  changed : TicketParameters.Same c.store.state.ticketParameters e.store.state.ticketParameters ∨
    ∃ origin, .publish (.ticketParameters e.store.state.ticketParameters) origin ∈ e.next
  /-- A transaction publishes before it does anything else. -/
  ordered : e.next.Pairwise fun i j =>
    (∃ event write, j = .publish event (.transaction write)) →
      ∃ event write, i = .publish event (.transaction write)
  visible : ∀ update, .hiddenUpdate update ∉ e.next

/-- A list without publications is in order. -/
theorem ordered_of_quiet {is : List Point}
    (h : ∀ event origin, Point.publish event origin ∉ is) :
    is.Pairwise fun i j => (∃ event write, j = .publish event (.transaction write)) →
      ∃ event write, i = .publish event (.transaction write) := by
  have h_all : is.Pairwise fun _ _ => True := List.pairwise_of_forall fun _ _ => trivial
  refine h_all.imp_of_mem ?_
  rintro i j - h_j - ⟨event, write, rfl⟩
  exact absurd h_j (h _ _)

/-- An instruction that writes no state and leaves no publication. -/
theorem TicketEffect.of_quiet {c : Conf} {i : Point} {e : Worklist.Effect Task Point Store}
    (h_publish : ∀ event origin, i ≠ .publish event origin)
    (h_log : e.store.log = c.store.log) (h_state : e.store.state = c.store.state)
    (h_next : ∀ event origin, .publish event origin ∉ e.next)
    (h_visible : ∀ update, .hiddenUpdate update ∉ e.next) : TicketEffect c i e where
  log := Or.inl ⟨h_publish, h_log⟩
  written := Or.inl h_state
  pending p origin h_mem := absurd h_mem (h_next _ _)
  changed := Or.inl (by rw [h_state]; exact .refl _)
  ordered := ordered_of_quiet h_next
  visible := h_visible

section Step

variable {t : Task} {ch : Unit} {i : Point} {c : Conf} {e : Worklist.Effect Task Point Store}

/-- The publications of a transaction come first, and the rest is no publication. -/
theorem pairwise_publish_append (events : List Event) (write : ℕ) (client : TestClient)
    (result : Except ErrorKind (List Event)) (submission : Submission) :
    (events.map (fun event => Point.publish event (.transaction write)) ++
      submission.finish client result).Pairwise fun i j =>
        (∃ event write, j = .publish event (.transaction write)) →
          ∃ event write, i = .publish event (.transaction write) := by
  have h_finish : ∀ j ∈ submission.finish client result,
      ¬∃ event write, j = .publish event (.transaction write) := by
    rintro j h_j ⟨event, write, rfl⟩
    exact publish_notMem_finish client result submission event _ h_j
  refine List.pairwise_append.mpr ⟨?_, ?_, ?_⟩
  · refine List.pairwise_map.mpr (List.pairwise_of_forall fun event _ _ => ⟨event, write, rfl⟩)
  · exact ordered_of_quiet (publish_notMem_finish client result submission)
  · exact fun _ _ j h_j h_publish => absurd h_publish (h_finish j h_j)

/-- What follows a transaction is no hidden update. -/
theorem hiddenUpdate_notMem_finish (client : TestClient) (result : Except ErrorKind (List Event))
    (submission : Submission) (update : BlokliTestState → BlokliTestState) :
    Point.hiddenUpdate update ∉ submission.finish client result := by
  cases submission <;> simp [Submission.finish]

/-- A transaction that succeeds publishes the parameters of the state that it wrote, if it
changed them. -/
theorem TicketEffect.of_commit {events : List Event} {state : BlokliTestState}
    (h_events : events = publications c.store.state state) (client : TestClient)
    (signedTx : List UInt8) (submission : Submission) :
    TicketEffect c (.execute client signedTx submission)
      { store := c.store.write state
        next := events.map (fun event => .publish event (.transaction c.store.written.length)) ++
          submission.finish client (.ok events) } where
  log := Or.inl ⟨fun _ _ h_i => (by cases h_i), rfl⟩
  written := Or.inr ⟨rfl, fun _ _ h_i => (by cases h_i)⟩
  pending p origin h_p := by
    -- among the publications of a transaction the ticket parameters are those of the new state
    have h_change : p ∈ ticketChanges c.store.state state := by
      rcases List.mem_append.mp h_p with h_p | h_p
      · obtain ⟨event, h_event, h_eq⟩ := List.mem_map.mp h_p
        obtain ⟨rfl, -⟩ := Point.publish.inj h_eq
        rw [h_events] at h_event
        exact ticketParameters_mem_publications.mp h_event
      · exact absurd h_p (publish_notMem_finish client _ submission _ _)
    -- there is one exactly when they changed
    rcases ticketChanges_cases c.store.state state with h_new | ⟨h_none, -⟩
    · rw [h_new] at h_change
      exact List.mem_singleton.mp h_change
    · rw [h_none] at h_change
      exact absurd h_change List.not_mem_nil
  changed := by
    rcases ticketChanges_cases c.store.state state with h_new | ⟨-, h_same⟩
    · refine Or.inr ⟨.transaction c.store.written.length,
        List.mem_append_left _ (List.mem_map_of_mem ?_)⟩
      rw [h_events]
      refine ticketParameters_mem_publications.mpr ?_
      rw [h_new]
      exact List.mem_singleton_self _
    · exact Or.inl h_same
  ordered := pairwise_publish_append events _ client _ submission
  visible update h_update := by
    rcases List.mem_append.mp h_update with h_update | h_update
    · obtain ⟨event, -, h_eq⟩ := List.mem_map.mp h_update
      cases h_eq
    · exact hiddenUpdate_notMem_finish client _ submission update h_update

/-- A price update publishes the parameters of the state that it wrote, unless it sets
nothing. -/
theorem exec_updateTicketParameters {newPrice : Option Text} {newWinProb : Option Float}
    (h : exec t ch (.updateTicketParameters newPrice newWinProb) c = some e) :
    TicketEffect c (.updateTicketParameters newPrice newWinProb) e := by
  obtain rfl := Option.some.inj h
  refine ⟨Or.inl ⟨fun _ _ h_i => (by cases h_i), rfl⟩, Or.inr ⟨rfl, fun _ _ h_i => (by cases h_i)⟩,
    fun p origin h_p => ?_, ?_, ?_, fun update => ?_⟩
  · -- an update publishes what it wrote
    revert h_p
    dsimp only
    split
    · intro h_p
      rcases List.mem_cons.mp h_p with h_p | h_p
      · cases h_p
      · obtain ⟨h_eq, -⟩ := Point.publish.inj (List.mem_singleton.mp h_p)
        exact Event.ticketParameters.inj h_eq
    · intro h_p
      simp at h_p
  · -- and does so when something is set
    dsimp only
    split
    · exact Or.inr ⟨.priceUpdate, List.mem_cons_of_mem _ List.mem_cons_self⟩
    · next h_none =>
      -- nothing is set
      cases newPrice with
      | some _ => exact absurd rfl h_none
      | none =>
        cases newWinProb with
        | some _ => exact absurd rfl h_none
        | none => exact Or.inl (.refl _)
  · dsimp only
    split
    · refine List.Pairwise.cons ?_ (List.pairwise_singleton _ _)
      rintro j h_j ⟨event, write, rfl⟩
      simp at h_j
    · exact List.pairwise_singleton _ _
  · dsimp only
    split <;> simp

/-- What an instruction does to the ticket parameters. -/
theorem exec_tickets (h : exec t ch i c = some e) (h_visible : ∀ update, i ≠ .hiddenUpdate update) :
    TicketEffect c i e := by
  cases i with
  -- nothing about tickets: the locks and the subscriptions
  | lockRead | lockWrite =>
    simp only [exec] at h
    split at h
    · obtain rfl := Option.some.inj h
      exact .of_quiet (fun _ _ => Point.noConfusion) rfl rfl (fun _ _ => List.not_mem_nil)
        fun _ => List.not_mem_nil
    · cases h
  | unlockRead | unlockWrite | activate =>
    obtain rfl := Option.some.inj h
    exact .of_quiet (fun _ _ h_i => (by cases h_i)) rfl rfl (fun _ _ => List.not_mem_nil)
      fun _ => List.not_mem_nil
  | cloneAccounts selector =>
    obtain rfl := Option.some.inj h
    exact .of_quiet (fun _ _ h_i => (by cases h_i)) rfl rfl (fun _ _ => by simp) fun _ => by simp
  | readInitial subscription accounts =>
    obtain rfl := Option.some.inj h
    refine .of_quiet (fun _ _ h_i => (by cases h_i)) rfl rfl (fun _ _ => ?_) fun _ => ?_
    · dsimp only
      split <;> simp
    · dsimp only
      split <;> simp
  | execute client signedTx submission =>
    simp only [exec] at h
    have h_cases := simulateTxExecution_cases signedTx c.store.state client.mutator
    split at h
    · obtain rfl := Option.some.inj h
      exact .of_quiet (fun _ _ h_i => (by cases h_i)) rfl rfl
        (fun _ _ => publish_notMem_finish client _ submission _ _)
        fun _ => hiddenUpdate_notMem_finish client _ submission _
    · next events state h_run =>
      obtain rfl := Option.some.inj h
      refine .of_commit ?_ client signedTx submission
      -- the events are those of the states before and after
      rcases h_cases with ⟨error, h_error⟩ | ⟨state', -, -, h_ok⟩
      · rw [h_run] at h_error
        cases h_error
      · rw [h_run] at h_ok
        obtain ⟨h_result, rfl⟩ := Prod.mk.inj h_ok
        exact Except.ok.inj h_result
  | publish event origin =>
    obtain rfl := Option.some.inj h
    exact ⟨Or.inr ⟨event, origin, rfl, rfl, rfl⟩, Or.inl rfl,
      fun _ _ h_mem => absurd h_mem List.not_mem_nil, Or.inl (.refl _), List.Pairwise.nil,
      fun _ => List.not_mem_nil⟩
  -- the record of the transaction is no parameter
  | insertActiveTx transaction =>
    obtain rfl := Option.some.inj h
    exact ⟨Or.inl ⟨fun _ _ h_i => (by cases h_i), rfl⟩, Or.inr ⟨rfl, fun _ _ h_i => (by cases h_i)⟩,
      fun _ _ h_mem => absurd h_mem List.not_mem_nil, Or.inl (.refl _), List.Pairwise.nil,
      fun _ => List.not_mem_nil⟩
  | updateTicketParameters newPrice newWinProb =>
    exact exec_updateTicketParameters h
  | serve call =>
    obtain rfl := Option.some.inj h
    -- the chain info stays as it was
    have h_same : (call.serve c.store.state).ticketParameters =
        c.store.state.ticketParameters := by
      obtain ⟨txs, counts, stats, h_serve⟩ := call.serve_eq c.store.state
      rw [h_serve]
      rfl
    refine ⟨Or.inl ⟨fun _ _ h_i => (by cases h_i), rfl⟩,
      Or.inr ⟨rfl, fun _ _ h_i => (by cases h_i)⟩,
      fun _ _ h_mem => absurd h_mem List.not_mem_nil, Or.inl ?_, List.Pairwise.nil,
      fun _ => List.not_mem_nil⟩
    show TicketParameters.Same _ (call.serve c.store.state).ticketParameters
    rw [h_same]
    exact .refl _
  | hiddenUpdate update => exact absurd rfl (h_visible update)

end Step

/-! ### Runs -/

/-- The step is no hidden update of the state. -/
def IsCall (a : Action Task Unit Request) : Prop :=
  ∀ task update, a ≠ .request (.hiddenStateUpdate task update)

/-- A publication of ticket parameters is pending for the task. -/
def Announces (c : Conf) (t : Task) : Prop :=
  ∃ p origin, .publish (.ticketParameters p) origin ∈ c.todo t

/-- A price update that publishes parameters other than the current ones does so while
another call has still to publish ticket parameters. -/
def InOrder (c : Conf) (a : Action Task Unit Request) : Prop :=
  ∀ t p rest, a = .run t () → c.todo t = .publish (.ticketParameters p) .priceUpdate :: rest →
    TicketParameters.Same p c.store.state.ticketParameters ∨ ∃ t', t' ≠ t ∧ Announces c t'

/-- A call is no hidden update. -/
theorem accept_visible {r : Request} {c : Conf} {t : Task}
    {e : Worklist.Effect Task Point Store} (h_call : IsCall (.request r))
    (h : accept r c = some (t, e)) (update : BlokliTestState → BlokliTestState) :
    .hiddenUpdate update ∉ e.next := by
  -- only the hidden update leaves one
  cases r with
  | hiddenStateUpdate task update' => exact absurd rfl (h_call task update')
  | subscribe task subscription =>
    obtain ⟨rfl, rfl⟩ := Prod.mk.inj (Option.some.inj h)
    cases subscription with
    | channels selector =>
      dsimp only [Subscription.script]
      split <;> simp
    | accounts | graph | ticketParams | safeDeployments | services | serviceTypes
    | serviceRegistryConfig => simp [Subscription.script]
  | submit task client signedTx submission =>
    simp only [accept] at h
    split at h
    · obtain ⟨rfl, rfl⟩ := Prod.mk.inj (Option.some.inj h)
      simp
    · obtain ⟨rfl, rfl⟩ := Prod.mk.inj (Option.some.inj h)
      simp
  | updatePriceAndWinProb task newPrice newWinProb =>
    obtain ⟨rfl, rfl⟩ := Prod.mk.inj (Option.some.inj h)
    simp
  | serve task call =>
    obtain ⟨rfl, rfl⟩ := Prod.mk.inj (Option.some.inj h)
    simp

/-- **What is announced.**
* `known` : what was published last is current, or a publication is pending.
* `current` : what a transaction will publish is current.
* `ordered` : a transaction publishes before its call does anything else, so the task
  holds the write lock until then. -/
structure Announced (first : BlokliTestState) (c : Conf) : Prop where
  known : (∃ t, Announces c t) ∨
    TicketParameters.Same (c.store.knownTickets first) c.store.state.ticketParameters
  current : ∀ t, ∀ i ∈ c.todo t,
    ∀ p write, i = .publish (.ticketParameters p) (.transaction write) →
    p = c.store.state.ticketParameters
  ordered : ∀ t, (c.todo t).Pairwise fun i j =>
    (∃ event write, j = .publish event (.transaction write)) →
      ∃ event write, i = .publish event (.transaction write)
  visible : ∀ t, ∀ i ∈ c.todo t, ∀ update, i ≠ .hiddenUpdate update

namespace Announced

variable {first : BlokliTestState} {c c' : Conf}

/-- At the start nothing is announced. -/
theorem initial (first : BlokliTestState) : Announced first (start first) where
  known := Or.inr (.refl _)
  current _ _ h_mem := absurd h_mem List.not_mem_nil
  ordered _ := List.Pairwise.nil
  visible _ _ h_mem := absurd h_mem List.not_mem_nil

/-- A task that a transaction has publications left for holds the write lock. -/
theorem heldBy_eq_write (h : Announced first c) {t : Task} {event : Event} {write : ℕ}
    (h_mem : .publish event (.transaction write) ∈ c.todo t) : heldBy (c.todo t) = .write := by
  have h_ordered := h.ordered t
  cases h_todo : c.todo t with
  | nil =>
    rw [h_todo] at h_mem
    exact absurd h_mem List.not_mem_nil
  | cons i rest =>
    rw [h_todo] at h_mem h_ordered
    rcases List.mem_cons.mp h_mem with rfl | h_rest
    · rfl
    · obtain ⟨event', write', rfl⟩ := (List.pairwise_cons.mp h_ordered).1 _ h_rest
        ⟨event, write, rfl⟩
      rfl

/-- The state does not change under a task that has publications of a transaction left. -/
theorem state_eq (h : Announced first c) (h_lock : Disciplined c) {t t' : Task} {ch : Unit}
    {i : Point} {rest : List Point} {e : Worklist.Effect Task Point Store}
    (h_todo : c.todo t = i :: rest) (h_exec : exec t ch i c = some e) {event : Event} {write : ℕ}
    (h_mem : .publish event (.transaction write) ∈ c.todo t') (h_ne : t' ≠ t) :
    e.store.state = c.store.state := by
  have h_i : i ∈ c.todo t := by
    rw [h_todo]
    exact List.mem_cons_self
  rcases (exec_tickets h_exec (h.visible t i h_i)).written with h_same | ⟨h_write, -⟩
  · exact h_same
  · -- both tasks would hold the write lock
    have h_other := h_lock.owns t'
    have h_self := h_lock.owns t
    rw [h.heldBy_eq_write h_mem] at h_other
    rw [h_todo, show heldBy (i :: rest) = .write from h_write] at h_self
    have h_writer : c.store.lock.writer = some t' := h_other
    exact absurd (Option.some.inj (h_writer.symm.trans h_self)) h_ne

/-- What was published last, after one instruction. -/
theorem known_exec (h : Announced first c) {t : Task} {ch : Unit} {i : Point} {rest : List Point}
    {e : Worklist.Effect Task Point Store} (h_order : InOrder c (.run t ch))
    (h_todo : c.todo t = i :: rest) (h_exec : exec t ch i c = some e) :
    (∃ t', Announces (c.resume t rest e) t') ∨
      TicketParameters.Same (e.store.knownTickets first) e.store.state.ticketParameters := by
  have h_i : i ∈ c.todo t := by
    rw [h_todo]
    exact List.mem_cons_self
  have h_effect := exec_tickets h_exec (h.visible t i h_i)
  have h_spawned := (exec_lock h_exec).2.1
  -- another pending publication stays pending
  have h_stays : ∀ t' p origin, .publish (.ticketParameters p) origin ∈ c.todo t' →
      i ≠ .publish (.ticketParameters p) origin → Announces (c.resume t rest e) t' := by
    intro t' p origin h_mem h_other
    refine ⟨p, origin, ?_⟩
    by_cases h_t : t' = t
    · subst h_t
      rw [h_todo] at h_mem
      rw [resume_todo_self]
      exact List.mem_append_right _ ((List.mem_cons.mp h_mem).resolve_left (Ne.symm h_other))
    · rw [resume_todo_of_ne c t rest e h_t h_spawned]
      exact h_mem
  -- either the log stays, or a publication is appended to it
  rcases h_effect.log with ⟨h_quiet, h_log⟩ | ⟨event, origin, rfl, h_store, -⟩
  · have h_known : e.store.knownTickets first = c.store.knownTickets first := by
      unfold Store.knownTickets Store.publishedTickets
      rw [h_log]
    rw [h_known]
    rcases h.known with ⟨t', p, origin, h_mem⟩ | h_same
    · exact Or.inl ⟨t', h_stays t' p origin h_mem (h_quiet _ _)⟩
    · rcases h_effect.changed with h_keeps | ⟨origin, h_next⟩
      · exact Or.inr (h_same.trans h_keeps)
      · refine Or.inl ⟨t, e.store.state.ticketParameters, origin, ?_⟩
        rw [resume_todo_self]
        exact List.mem_append_left _ h_next
  · -- a publication: of something else, or of ticket parameters
    have h_known : e.store.knownTickets first =
        ((c.store.publishedTickets ++ event.tickets.toList).getLast?).getD
          first.ticketParameters := by
      unfold Store.knownTickets
      rw [h_store, publishedTickets_broadcast]
    have h_state : e.store.state = c.store.state := by
      rw [h_store]
      rfl
    -- of something else: what is known is as before
    cases h_event : event.tickets with
    | none =>
      rw [h_event, Option.toList_none, List.append_nil] at h_known
      rw [h_known, h_state]
      refine h.known.imp_left ?_
      rintro ⟨t', p, origin', h_mem⟩
      refine ⟨t', h_stays t' p origin' h_mem fun h_eq => ?_⟩
      obtain ⟨rfl, -⟩ := Point.publish.inj h_eq
      cases h_event
    -- of parameters, which are known from now on
    | some p =>
      have h_eq : event = .ticketParameters p := by
        cases event with
        | ticketParameters parameters =>
          obtain rfl := Option.some.inj h_event
          rfl
        | account | channel | safe | service | serviceType | serviceRegistryConfig => cases h_event
      subst h_eq
      rw [h_event, Option.toList_some, List.getLast?_concat, Option.getD_some] at h_known
      rw [h_known, h_state]
      cases origin with
      -- those of a transaction are current, as it still holds the lock
      | transaction write =>
        rw [← h.current t _ h_i p write rfl]
        exact Or.inr (.refl p)
      -- those of a price update are, or another publication is to come
      | priceUpdate =>
        rcases h_order t p rest rfl h_todo with h_same | ⟨t', h_t, q, origin, h_mem⟩
        · exact Or.inr h_same
        · refine Or.inl ⟨t', q, origin, ?_⟩
          rw [resume_todo_of_ne c t rest e h_t h_spawned]
          exact h_mem

/-- One instruction. -/
theorem step_exec (h : Announced first c) (h_lock : Disciplined c) {t : Task} {ch : Unit}
    {i : Point} {rest : List Point} {e : Worklist.Effect Task Point Store}
    (h_order : InOrder c (.run t ch)) (h_todo : c.todo t = i :: rest)
    (h_exec : exec t ch i c = some e) : Announced first (c.resume t rest e) := by
  have h_i : i ∈ c.todo t := by
    rw [h_todo]
    exact List.mem_cons_self
  have h_effect := exec_tickets h_exec (h.visible t i h_i)
  have h_spawned := (exec_lock h_exec).2.1
  have h_ordered := h.ordered t
  rw [h_todo] at h_ordered
  obtain ⟨h_head, h_tail⟩ := List.pairwise_cons.mp h_ordered
  refine ⟨h.known_exec h_order h_todo h_exec, ?_, ?_, ?_⟩
  · rintro t' j h_j p write rfl
    rcases mem_resume_todo c t rest e h_j with ⟨rfl, h_next | h_rest⟩ | ⟨h_ne, h_old⟩
    · exact h_effect.pending p _ h_next
    · -- the task is between two publications of its transaction
      obtain ⟨event, write', rfl⟩ := h_head _ h_rest ⟨_, write, rfl⟩
      obtain rfl := Option.some.inj h_exec
      exact h.current t' _ (by rw [h_todo]; exact List.mem_cons_of_mem _ h_rest) p write rfl
    · rcases h_old with ⟨is, h_is, -⟩ | h_old
      · rw [h_spawned] at h_is
        cases h_is
      · rw [resume_store, h.state_eq h_lock h_todo h_exec h_old h_ne]
        exact h.current t' _ h_old p write rfl
  · intro t'
    by_cases h_t : t' = t
    · subst h_t
      rw [resume_todo_self]
      refine List.pairwise_append.mpr ⟨h_effect.ordered, h_tail, ?_⟩
      -- a publication among the rest means that the instruction was one, which leaves none
      rintro j h_j k h_k ⟨event, write, rfl⟩
      obtain ⟨event', write', rfl⟩ := h_head _ h_k ⟨event, write, rfl⟩
      obtain rfl := Option.some.inj h_exec
      exact absurd h_j List.not_mem_nil
    · rw [resume_todo_of_ne c t rest e h_t h_spawned]
      exact h.ordered t'
  · rintro t' j h_j update rfl
    rcases mem_resume_todo c t rest e h_j with ⟨rfl, h_next | h_rest⟩ | ⟨-, ⟨is, h_is, -⟩ | h_old⟩
    · exact h_effect.visible update h_next
    · exact h.visible t' _ (by rw [h_todo]; exact List.mem_cons_of_mem _ h_rest) update rfl
    · rw [h_spawned] at h_is
      cases h_is
    · exact h.visible t' _ h_old update rfl

/-- One call. -/
theorem step_accept (h : Announced first c) {r : Request} {t : Task}
    {e : Worklist.Effect Task Point Store} (h_call : IsCall (.request r))
    (h_acc : accept r c = some (t, e)) (h_todo : c.todo t = []) :
    Announced first (c.resume t [] e) := by
  obtain ⟨h_store, h_spawned, -⟩ := accept_lock h_acc
  have h_publish := (accept_records h_acc).1
  have h_visible := accept_visible h_call h_acc
  have h_old : ∀ t' j, j ∈ (c.resume t [] e).todo t' → j ∈ e.next ∨ j ∈ c.todo t' := by
    intro t' j h_j
    rcases mem_resume_todo c t [] e h_j with ⟨-, h_next | h_nil⟩ | ⟨-, ⟨is, h_is, -⟩ | h_old⟩
    · exact Or.inl h_next
    · exact absurd h_nil List.not_mem_nil
    · rw [h_spawned] at h_is
      cases h_is
    · exact Or.inr h_old
  refine ⟨?_, ?_, ?_, ?_⟩
  · rw [resume_store, h_store]
    refine h.known.imp_left ?_
    rintro ⟨t', p, origin, h_mem⟩
    refine ⟨t', p, origin, ?_⟩
    have h_t : t' ≠ t := by
      rintro rfl
      rw [h_todo] at h_mem
      exact absurd h_mem List.not_mem_nil
    rw [resume_todo_of_ne c t [] e h_t h_spawned]
    exact h_mem
  · rintro t' j h_j p write rfl
    rw [resume_store, h_store]
    exact h.current t' _ ((h_old t' _ h_j).resolve_left (h_publish _ _)) p write rfl
  · intro t'
    by_cases h_t : t' = t
    · subst h_t
      rw [resume_todo_self, List.append_nil]
      exact ordered_of_quiet h_publish
    · rw [resume_todo_of_ne c t [] e h_t h_spawned]
      exact h.ordered t'
  · rintro t' j h_j update rfl
    exact h.visible t' _ ((h_old t' _ h_j).resolve_left (h_visible update)) update rfl

/-- One step keeps what is known current, or announced. -/
theorem step {a : Action Task Unit Request} (h : Announced first c) (h_lock : Disciplined c)
    (h_call : IsCall a) (h_order : InOrder c a) (h_step : clientProgram.step c a = some c') :
    Announced first c' := by
  rcases Program.step_cases h_step with ⟨t, ch, i, rest, e, rfl, h_todo, h_exec, rfl⟩ |
    ⟨r, t, e, rfl, h_acc, h_todo, rfl⟩
  · exact h.step_exec h_lock h_order h_todo h_exec
  · exact h.step_accept h_call h_acc h_todo

/-- The invariant along a run. -/
theorem reachable
    (h : clientProgram.Reachable (start first) (fun c a => IsCall a ∧ InOrder c a) c) :
    Announced first c := by
  have h_both : Disciplined c ∧ Announced first c :=
    h.induct (motive := fun c => Disciplined c ∧ Announced first c)
      ⟨Disciplined.initial first, Announced.initial first⟩ fun _ h_c h_allowed h_step =>
        ⟨h_c.1.step h_step, h_c.2.step h_c.1 h_allowed.1 h_allowed.2 h_step⟩
  exact h_both.2

end Announced

/-- The stream of a subscriber that has followed the ticket parameters since the first
of the states. -/
def ticketFollower (first : BlokliTestState) : Stream where
  subscription := .ticketParams
  accounts := ∅
  initial := Subscription.ticketParams.initialPart first
  asOf := 1
  since := 0

/-- The last item of the follower is what it knows. -/
theorem getLast?_ticketFollower (first : BlokliTestState) (store : Store) :
    ((ticketFollower first).items store).getLast? =
      some (.ok (.ticketParameters (store.knownTickets first))) := by
  have h_items : (ticketFollower first).items store =
      (first.ticketParameters :: store.publishedTickets).map
        fun p => (.ok (.ticketParameters p) : Except ErrorKind Item) := by
    unfold Stream.items Store.publishedTickets
    rw [List.map_cons, List.map_filterMap]
    refine congrArg (_ :: ·) (List.filterMap_congr fun entry _ => ?_)
    obtain ⟨event, origin⟩ := entry
    cases event <;> rfl
  rw [h_items, List.getLast?_map, List.getLast?_cons]
  rfl

/-- **The last ticket parameters are the current ones.** When all calls have returned,
the ticket parameters that were published last are those of the state, and a
subscriber that has followed them ends with these, as long as no price update
publishes outdated parameters after every other publication. -/
theorem last_ticketParameters_current {first : BlokliTestState} {c : Conf}
    (h : clientProgram.Reachable (start first) (fun c a => IsCall a ∧ InOrder c a) c)
    (h_idle : ∀ t, c.todo t = []) :
    (∀ p, c.store.publishedTickets.getLast? = some p →
      TicketParameters.Same p c.store.state.ticketParameters) ∧
    ∃ p, ((ticketFollower first).items c.store).getLast? = some (.ok (.ticketParameters p)) ∧
      TicketParameters.Same p c.store.state.ticketParameters := by
  have h_known : TicketParameters.Same (c.store.knownTickets first)
      c.store.state.ticketParameters := by
    refine (Announced.reachable h).known.resolve_left ?_
    rintro ⟨t, p, origin, h_mem⟩
    rw [h_idle t] at h_mem
    exact absurd h_mem List.not_mem_nil
  refine ⟨fun p h_last => ?_, _, getLast?_ticketFollower first c.store, h_known⟩
  have h_p : c.store.knownTickets first = p := by
    unfold Store.knownTickets
    rw [h_last]
    rfl
  rw [← h_p]
  exact h_known

/-! ### Price updates -/

/-- The step is no hidden update, and no broadcast. -/
def isSilentCall (c : Conf) (a : Action Task Unit Request) : Bool :=
  isSilent c a && match a with
    | .request (.hiddenStateUpdate _ _) => false
    | _ => true

/-- The check does what it is for. -/
theorem allowed_of_silentCall {c : Conf} {a : Action Task Unit Request}
    (h : isSilentCall c a = true) : IsCall a ∧ InOrder c a := by
  obtain ⟨h_silent, h_call⟩ := Bool.and_eq_true_iff.mp h
  constructor
  · rintro task update rfl
    cases h_call
  · rintro t p rest rfl h_todo
    unfold isSilent at h_silent
    dsimp only at h_silent
    rw [h_todo] at h_silent
    cases h_silent

/-- A check for runs of two tasks: ticket parameters are published only while the other task has
some to publish as well. -/
def isRelievedCall (c : Conf) (a : Action Task Unit Request) : Bool :=
  (match a with
    | .request (.hiddenStateUpdate _ _) => false
    | _ => true) &&
  (isSilent c a || match a with
    | .run t _ => [0, 1].any fun t' => decide (t' ≠ t) && (c.todo t').any fun
      | .publish (.ticketParameters _) _ => true
      | _ => false
    | .request _ => true)

/-- The check does what it is for. -/
theorem allowed_of_relievedCall {c : Conf} {a : Action Task Unit Request}
    (h : isRelievedCall c a = true) : IsCall a ∧ InOrder c a := by
  obtain ⟨h_call, h_relieved⟩ := Bool.and_eq_true_iff.mp h
  constructor
  · rintro task update rfl
    cases h_call
  · rintro t p rest rfl h_todo
    refine Or.inr ?_
    rcases Bool.or_eq_true_iff.mp h_relieved with h_silent | h_other
    · unfold isSilent at h_silent
      dsimp only at h_silent
      rw [h_todo] at h_silent
      cases h_silent
    · obtain ⟨t', -, h_t'⟩ := List.any_eq_true.mp h_other
      obtain ⟨h_ne, h_any⟩ := Bool.and_eq_true_iff.mp h_t'
      obtain ⟨i, h_i, h_publishes⟩ := List.any_eq_true.mp h_any
      split at h_publishes
      · exact ⟨t', of_decide_eq_true h_ne, _, _, h_i⟩
      · cases h_publishes

/-- Two price updates. The second one writes before the first one publishes. -/
def overlappingUpdates : List (Action Task Unit Request) :=
  [.request (.updatePriceAndWinProb 0 (some ['2']) none),
    .request (.updatePriceAndWinProb 1 (some ['3']) none),
    .run 0 (), .run 0 (), .run 0 (), .run 1 (), .run 1 (), .run 1 (), .run 0 ()]

/-- The theorem at two price updates that overlap: the outdated price is published, and the
current one after it. -/
theorem last_ticketParameters_current_overlapping : ∃ c p, clientProgram.Reachable
    (start BlokliTestState.default) (fun c a => IsCall a ∧ InOrder c a) c ∧
      (∀ t, c.todo t = []) ∧
      c.store.publishedTickets.map TicketParameters.ticketPrice = [['2'], ['3']] ∧
      ((ticketFollower BlokliTestState.default).items c.store).getLast? =
        some (.ok (.ticketParameters p)) ∧
      TicketParameters.Same p c.store.state.ticketParameters ∧
      c.store.state.ticketParameters.ticketPrice = ['3'] := by
  obtain ⟨c, h_run, p, h_todo₀, h_todo₁, h_current, h_price, h_old⟩ :
      ∃ c, clientProgram.runWithin [0, 1] isRelievedCall (start BlokliTestState.default)
          overlappingUpdates = some c ∧
        ∃ p, c.todo 0 = [] ∧ c.todo 1 = [.publish (.ticketParameters p) .priceUpdate] ∧
          c.store.state.ticketParameters = p ∧ p.ticketPrice = ['3'] ∧
          c.store.publishedTickets.map TicketParameters.ticketPrice = [['2']] :=
    ⟨_, rfl, _, rfl, rfl, rfl, rfl, rfl⟩
  obtain ⟨h_reach, h_within⟩ := Program.Reachable.runWithin
    (fun _ _ _ h_check => allowed_of_relievedCall h_check) .init (fun _ _ => rfl) h_run
  -- the last publication is that of the current parameters
  have h_allowed : IsCall (.run 1 ()) ∧ InOrder c (.run 1 ()) := by
    refine ⟨fun _ _ h_eq => (by cases h_eq), ?_⟩
    rintro t q rest h_a h_todo'
    obtain rfl : (1 : Task) = t := by
      cases h_a
      rfl
    rw [h_todo₁] at h_todo'
    obtain ⟨h_eq, -⟩ := List.cons.inj h_todo'
    obtain ⟨h_event, -⟩ := Point.publish.inj h_eq
    rw [← Event.ticketParameters.inj h_event, h_current]
    exact Or.inl (.refl p)
  have h_publish : clientProgram.Reachable c (fun c a => IsCall a ∧ InOrder c a) _ :=
    .exec () h_todo₁ rfl h_allowed
  have h_idle : ∀ t, (c.resume 1 [] ⟨c.store.broadcast (.ticketParameters p) .priceUpdate, [],
      none⟩).todo t = [] := by
    intro t
    by_cases h_t : t = 1
    · subst h_t
      exact resume_todo_self ..
    · rw [resume_todo_of_ne _ _ _ _ h_t rfl]
      by_cases h_zero : t = 0
      · rw [h_zero, h_todo₀]
      · refine h_within t fun h_mem => ?_
        rcases List.mem_cons.mp h_mem with h_eq | h_mem
        · exact h_zero h_eq
        · exact h_t (List.mem_singleton.mp h_mem)
  obtain ⟨-, q, h_last, h_same⟩ := last_ticketParameters_current (h_reach.trans h_publish) h_idle
  refine ⟨_, q, h_reach.trans h_publish, h_idle, ?_, h_last, h_same,
    (congrArg TicketParameters.ticketPrice h_current).trans h_price⟩
  rw [resume_store, publishedTickets_broadcast,
    show Event.tickets (.ticketParameters p) = some p from rfl, Option.toList_some,
    List.map_append, h_old, List.map_singleton, h_price]
  rfl

/-- Two price updates. The first one to write publishes last. -/
def overtakenUpdate : List (Action Task Unit Request) :=
  [.request (.updatePriceAndWinProb 0 (some ['2']) none),
    .request (.updatePriceAndWinProb 1 (some ['3']) none),
    .run 0 (), .run 0 (), .run 0 (), .run 1 (), .run 1 (), .run 1 (), .run 1 (), .run 0 ()]

/-- The state has the second price, and the last published price is the first one. -/
theorem outdated_price_published_last : ¬ ∀ (first : BlokliTestState) (c : Conf),
    clientProgram.Reachable (start first) (fun _ a => IsCall a) c → (∀ t, c.todo t = []) →
    ∀ p, c.store.publishedTickets.getLast? = some p →
      TicketParameters.Same p c.store.state.ticketParameters := by
  intro h
  let check : Conf → Action Task Unit Request → Bool := fun _ a => match a with
    | .request (.hiddenStateUpdate _ _) => false
    | _ => true
  have h_check : ∀ c a, Within [0, 1] c → check c a = true → IsCall a := by
    rintro c a - h_a task update rfl
    cases h_a
  obtain ⟨c, h_run, h_todo₀, h_todo₁, p, h_last, h_old, h_new⟩ :
      ∃ c, clientProgram.runWithin [0, 1] check (start BlokliTestState.default) overtakenUpdate =
          some c ∧ c.todo 0 = [] ∧ c.todo 1 = [] ∧
        ∃ p, c.store.publishedTickets.getLast? = some p ∧ p.ticketPrice = ['2'] ∧
          c.store.state.ticketParameters.ticketPrice = ['3'] :=
    ⟨_, rfl, rfl, rfl, _, rfl, rfl, rfl⟩
  obtain ⟨h_reach, h_within⟩ := Program.Reachable.runWithin h_check .init (fun _ _ => rfl) h_run
  have h_idle : ∀ t, c.todo t = [] := by
    intro t
    by_cases h_t : t ∈ [0, 1]
    · rcases List.mem_cons.mp h_t with rfl | h_t
      · exact h_todo₀
      · obtain rfl := List.mem_singleton.mp h_t
        exact h_todo₁
    · exact h_within t h_t
  have h_same := (h _ c h_reach h_idle p h_last).1
  rw [h_old, h_new] at h_same
  exact absurd h_same (by decide)

end Blokli.Testing
