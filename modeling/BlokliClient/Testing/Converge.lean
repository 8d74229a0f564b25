import BlokliClient.Testing.Linear

/-!
# The registry subscriptions of concurrent calls

Streams and transactions of one client run concurrently. When no transaction holds the
lock, a consumer that folds a stream of the service registry has what the query with the
same selector returns.

* `Linearized` reduces a stream to the initial part of one written state and the trail of
  the changes between the later ones; `Following` takes a fold along that trail.
* What a single transaction does to the fold is `lookup_services` and
  `lookup_serviceTypes`.
* `reachable_published` : a transaction that holds the lock can always publish all that it
  has to.
-/

namespace Blokli.Testing

open Worklist Trail Replay

/-- One state after another: both are keyed as documented, and no service type is gone. -/
structure Evolves (oldState state : BlokliTestState) : Prop where
  old : oldState.Keyed
  new : state.Keyed
  types : ∀ key ∈ oldState.serviceTypes, key ∈ state.serviceTypes

/-- Every written state is keyed, and follows the one before. -/
structure WellKept (written : List BlokliTestState) : Prop where
  keyed : ∀ state ∈ written, state.Keyed
  chain : written.IsChain Evolves

/-! ### Consumers of the trail -/

section Consumers

variable (selector : ServiceSelector) (serviceType : Option ServiceTypeId)

/-- The updates of a service stream among the events. -/
def serviceUpdates (events : List Event) : List ServiceUpdate :=
  (events.filterMap Event.asService).filter (serviceUpdateMatches selector)

/-- The updates of a service type stream among the events. -/
def serviceTypeUpdates (events : List Event) : List ServiceTypeUpdate :=
  (events.filterMap Event.asServiceType).filter (serviceTypeUpdateMatches serviceType)

theorem services_following :
    Following publications Evolves
      (fun m events => replay idOfUpdate outcome m (serviceUpdates selector events))
      (fun state m => ∀ k, m.lookup k = index idOfEntry (state.queryServices selector) k) where
  nil _ := rfl
  append m events events' := by
    unfold serviceUpdates
    rw [List.filterMap_append, List.filter_append, replay_append]
  step oldState state m h_step h_old k := by
    unfold serviceUpdates
    rw [publications_asService]
    exact lookup_services h_step.old h_step.new h_old k

theorem serviceTypes_following :
    Following publications Evolves
      (fun m events => replay ServiceTypeUpdate.serviceType ServiceTypeUpdate.config m
        (serviceTypeUpdates serviceType events))
      (fun state m => ∀ k,
        m.lookup k = index idOfType (state.queryServiceTypes serviceType) k) where
  nil _ := rfl
  append m events events' := by
    unfold serviceTypeUpdates
    rw [List.filterMap_append, List.filter_append, replay_append]
  step oldState state m h_step h_old k := by
    unfold serviceTypeUpdates
    rw [publications_asServiceType]
    exact lookup_serviceTypes h_step.old h_step.new h_step.types h_old k

end Consumers

def Event.asServiceRegistryConfig : Event → Option ServiceRegistryConfig
  | .serviceRegistryConfig config => some config
  | _ => none

theorem publications_asServiceRegistryConfig (oldState state : BlokliTestState) :
    (publications oldState state).filterMap Event.asServiceRegistryConfig =
      serviceRegistryConfigChanges oldState state := by
  unfold publications
  simp [List.filterMap_append, List.filterMap_map, Function.comp_def,
    Event.asServiceRegistryConfig]

/-- The configuration that was seen last. -/
theorem serviceRegistryConfig_following :
    Following publications (fun _ _ => True)
      (fun config events => (events.filterMap Event.asServiceRegistryConfig).getLastD config)
      (fun state config => config = state.serviceRegistryConfig) where
  nil _ := rfl
  append config events events' := by
    rw [List.filterMap_append, List.getLastD_eq_getLast?, List.getLastD_eq_getLast?,
      List.getLastD_eq_getLast?, List.getLast?_append]
    cases (events'.filterMap Event.asServiceRegistryConfig).getLast? <;> rfl
  step oldState state config _ h_old := by
    rw [publications_asServiceRegistryConfig]
    unfold serviceRegistryConfigChanges
    split
    · rfl
    · next h_same => exact h_old.trans (not_not.mp h_same)

/-! ### Streams of a run -/

section Run

variable {c : Conf}

/-- The state that a stream begins with, and those written after it. -/
theorem drop_eq_cons {written : List BlokliTestState} {n : ℕ} {first : BlokliTestState}
    (h : written[n]? = some first) : ∃ later, written.drop n = first :: later := by
  obtain ⟨h_lt, rfl⟩ := List.getElem?_eq_some_iff.mp h
  exact ⟨_, List.drop_eq_getElem_cons h_lt⟩

/-- The later states end with the current one. -/
theorem getLast?_drop_written (h : c.store.Current) {n : ℕ} {first : BlokliTestState}
    {later : List BlokliTestState} (h_drop : c.store.written.drop n = first :: later) :
    (first :: later).getLast? = some c.store.state := by
  have h_lt : n < c.store.written.length := by
    have h_length := congrArg List.length h_drop
    rw [List.length_drop, List.length_cons] at h_length
    omega
  rw [← h_drop, List.getLast?_drop, if_neg (Nat.not_le_of_lt h_lt)]
  exact h

/-- **A consumer of a stream follows the state.** It starts with what the initial part of
some written state gives it, and ends with what the current state would give it. -/
theorem Linearized.follows {Value : Type} {R : BlokliTestState → BlokliTestState → Prop}
    {consume : Value → List Event → Value} {Follows : BlokliTestState → Value → Prop}
    (h_following : Following publications R consume Follows) {stream : Stream}
    (h : Linearized c stream) (h_current : c.store.Current)
    (h_chain : c.store.written.IsChain R)
    (h_quiet : ∀ t, unpublished stream.subscription.feed (c.todo t) = []) :
    ∃ first ∈ c.store.written, ∃ events,
      stream.items c.store = stream.subscription.initialPart first ++ stream.live events ∧
      ∀ m, Follows first m → Follows c.store.state (consume m events) := by
  obtain ⟨n, first, pending, h_first, h_items, h_none⟩ := h
  obtain ⟨later, h_drop⟩ := drop_eq_cons h_first
  rw [h_none h_quiet] at h_items
  refine ⟨first, List.mem_of_getElem? h_first, trail publications (c.store.written.drop n),
    (List.append_nil _).symm.trans h_items, fun m h_m => ?_⟩
  have h_later : (c.store.written.drop n).IsChain R := h_chain.drop n
  rw [h_drop] at h_later ⊢
  exact h_following.trail h_later h_m (getLast?_drop_written h_current h_drop)

/-- Nothing is left to publish when no transaction holds the lock. -/
theorem Arranged.quiet_of_free (h : Arranged c) (h_lock : Disciplined c) {feed : Feed}
    (h_feed : feed ≠ .tickets) (h_free : c.store.lock.writer = none) (t : Task) :
    unpublished feed (c.todo t) = [] := by
  by_contra h_some
  have h_owns := h_lock.owns t
  rw [h.heldBy_eq_write h_feed h_some] at h_owns
  have h_writer : c.store.lock.writer = some t := h_owns
  rw [h_free] at h_writer
  cases h_writer

/-- What the stream has yielded when no transaction holds the lock, for a method that
activates its receiver under the read lock. -/
theorem follows_of_locked {state : BlokliTestState} {Value : Type}
    {R : BlokliTestState → BlokliTestState → Prop} {consume : Value → List Event → Value}
    {Follows : BlokliTestState → Value → Prop}
    (h_following : Following publications R consume Follows)
    (h : clientProgram.Reachable (start state) (fun _ a => IsCall a) c)
    (h_chain : c.store.written.IsChain R) (h_free : c.store.lock.writer = none) {stream : Stream}
    (h_stream : stream ∈ c.store.streams) (h_locked : stream.subscription.locked = true) :
    ∃ first ∈ c.store.written, ∃ events,
      stream.items c.store = stream.subscription.initialPart first ++ stream.live events ∧
      ∀ m, Follows first m → Follows c.store.state (consume m events) := by
  have h_seq : Sequenced (fun s => s.locked = true) c :=
    .reachable (fun _ _ h_a => ⟨h_a, spared_locked⟩) h
  have h_lock : Disciplined c := .reachable h
  have h_feed := feed_of_locked h_locked
  exact
    (h_seq.linearized h_lock h_stream h_locked h_feed).follows h_following h_seq.recorded.current
    h_chain (h_seq.arranged.quiet_of_free h_lock h_feed h_free)

end Run

/-- **The registry subscriptions converge.** In every run without hidden updates that keeps
the registry keyed, a stream of the registry has caught up with the state whenever no
transaction holds the lock: the folds of its items have what the queries return, and the
last configuration that it yielded is the current one. -/
theorem registry_subscriptions_converge {state : BlokliTestState} {c : Conf}
    (h : clientProgram.Reachable (start state) (fun _ a => IsCall a) c)
    (h_kept : WellKept c.store.written) (h_free : c.store.lock.writer = none) {stream : Stream}
    (h_stream : stream ∈ c.store.streams) :
    (∀ selector, stream.subscription = .services selector → ∃ updates,
      stream.items c.store = updates.map (fun update => .ok (.serviceUpdate update)) ∧
        (foldServices updates).values.Perm (c.store.state.queryServices selector)) ∧
    (∀ serviceType, stream.subscription = .serviceTypes serviceType → ∃ updates,
      stream.items c.store = updates.map (fun update => .ok (.serviceTypeUpdate update)) ∧
        (foldServiceTypes updates).values.Perm (c.store.state.queryServiceTypes serviceType)) ∧
    (stream.subscription = .serviceRegistryConfig → (stream.items c.store).getLast? =
      some (.ok (.serviceRegistryConfig c.store.state.serviceRegistryConfig))) := by
  have h_seq : Sequenced (fun s => s.locked = true) c :=
    .reachable (fun _ _ h_a => ⟨h_a, spared_locked⟩) h
  have h_keyed : c.store.state.Keyed :=
    h_kept.keyed _ (List.mem_of_getLast? h_seq.recorded.current)
  refine ⟨fun selector h_sub => ?_, fun serviceType h_sub => ?_, fun h_sub => ?_⟩
  · -- services: entries by type and node
    obtain ⟨first, h_first, events, h_items, h_follows⟩ :=
      follows_of_locked (services_following selector) h h_kept.chain h_free h_stream (by
        rw [h_sub]
        rfl)
    refine ⟨subscribeServices first selector events, ?_, ?_⟩
    · rw [h_items, ← items_services first selector stream.accounts events]
      unfold Stream.live
      rw [h_sub]
    · -- the snapshot is folded first, and then the updates
      refine values_perm_of_lookup (nodup_queryServices h_keyed selector) ?_
      unfold foldServices subscribeServices
      rw [List.filter_append, replay_append]
      exact h_follows _ (lookup_initial_services (h_kept.keyed first h_first) selector)
  · -- service types: by their id
    obtain ⟨first, h_first, events, h_items, h_follows⟩ :=
      follows_of_locked (serviceTypes_following serviceType) h h_kept.chain h_free h_stream (by
        rw [h_sub]
        rfl)
    refine ⟨subscribeServiceTypes first serviceType events, ?_, ?_⟩
    · rw [h_items, ← items_serviceTypes first serviceType stream.accounts events]
      unfold Stream.live
      rw [h_sub]
    · refine values_perm_of_lookup (nodup_queryServiceTypes h_keyed serviceType) ?_
      unfold foldServiceTypes subscribeServiceTypes
      rw [List.filter_append, replay_append]
      exact h_follows _ (lookup_initial_serviceTypes (h_kept.keyed first h_first) serviceType)
  · -- the configuration: one value, replaced by each update
    obtain ⟨first, -, events, h_items, h_follows⟩ :=
      follows_of_locked serviceRegistryConfig_following h (h_kept.chain.imp fun _ _ _ => trivial)
        h_free h_stream (by
          rw [h_sub]
          rfl)
    have h_live : stream.live events = (events.filterMap Event.asServiceRegistryConfig).map
        fun config => .ok (.serviceRegistryConfig config) := by
      unfold Stream.live
      rw [h_sub, List.map_filterMap]
      refine congrArg (List.filterMap · events) (funext fun event => ?_)
      cases event <;> rfl
    -- the last update is the current configuration; without one, that of the snapshot is
    rw [h_items, h_sub, h_live, ← h_follows first.serviceRegistryConfig rfl, List.getLast?_append,
      List.getLast?_map, List.getLastD_eq_getLast?]
    cases (events.filterMap Event.asServiceRegistryConfig).getLast? <;> rfl

/-- A subscription to the services, and a call that registers the sample node, up to its
execution. -/
def registerBehind (client : TestClient) : List (Action Task Unit Request) :=
  [.request (.subscribe 0 (.services .any)), .run 0 (), .run 0 (), .run 0 (), .run 0 (),
    .request (.submit 1 client [] .transaction), .run 1 ()]

theorem registry_subscriptions_converge_registered : ∃ c stream updates,
    clientProgram.Reachable (start (stateServing none)) (fun _ a => IsCall a) c ∧
      stream ∈ c.store.streams ∧ stream.subscription = .services .any ∧
      c.store.state = stateServing (some (sampleEntry "0x01".toList)) ∧
      stream.items c.store = updates.map (fun update => .ok (.serviceUpdate update)) ∧
      (foldServices updates).values.Perm (c.store.state.queryServices .any) := by
  let registered := stateServing (some (sampleEntry "0x01".toList))
  let client : TestClient := { mutator := fun _ _ => (.ok (), registered) }
  obtain ⟨c, h_run, h_todo, h_state, h_written, stream, h_streams, h_subscription⟩ :
      ∃ c, clientProgram.runWithin [0, 1] isSilentCall (start (stateServing none))
          (registerBehind client) = some c ∧ c.todo 1 = [.execute client [] .transaction] ∧
        c.store.state = stateServing none ∧ c.store.written = [stateServing none] ∧
        ∃ stream, c.store.streams = [stream] ∧ stream.subscription = .services .any :=
    ⟨_, rfl, rfl, rfl, rfl, _, rfl, rfl⟩
  -- the subscription is open, and the registration is about to be executed
  obtain ⟨h_reach, -⟩ := Program.Reachable.runWithin
    (fun _ _ _ h_check => (allowed_of_silentCall h_check).1) .init (fun _ _ => rfl) h_run
  have h_removals : checkRemovals c.store.state registered = .ok () := by
    rw [h_state]
    rfl
  obtain ⟨c', h_reach', h_state', h_free, h_written', h_streams'⟩ :=
    reachable_accepted (fun _ a => IsCall a) (fun _ _ _ _ h_eq => (by cases h_eq)) h_todo rfl
      h_removals
  have h_stream : stream ∈ c'.store.streams := by
    rw [h_streams', h_streams]
    exact List.mem_singleton_self _
  -- the state before has no service, the state after the sample one
  have h_old : (stateServing none).Keyed := stateServing_keyed fun _ h => (by cases h)
  have h_new : registered.Keyed := by
    refine stateServing_keyed fun e h => ?_
    obtain rfl := Option.some.inj h
    change Hex.hexMatches ('0' :: 'x' :: sampleNode.encodeHex) sampleNode.toList = true
    decide
  have h_kept : WellKept c'.store.written := by
    rw [h_written', h_written]
    refine ⟨fun state h_mem => ?_, List.isChain_pair.mpr ⟨h_old, h_new, fun _ h_key => h_key⟩⟩
    rcases List.mem_cons.mp h_mem with rfl | h_mem
    · exact h_old
    · obtain rfl := List.mem_singleton.mp h_mem
      exact h_new
  obtain ⟨updates, h_items, h_perm⟩ := (registry_subscriptions_converge
    (h_reach.trans h_reach') h_kept h_free h_stream).1 .any h_subscription
  exact ⟨c', stream, updates, h_reach.trans h_reach', h_stream, h_subscription, h_state', h_items,
    h_perm⟩

end Blokli.Testing
