import BlokliClient.Testing.Accessors

/-!
# Clients whose mutators write through the accessors

A mutator may do anything to the state. One that only writes through the accessors, and
leaves the identifiers of the records alone, keeps what the subscribers of the client rely on.

* `Steady` relates two states with the same keys, whose records keep their identifiers. Every
  access keeps it (`Access.steady`).
* `Obedient` clients write through the accessors only. `accessor_mutators_keep` is the
  statement about every run with such clients.
-/

namespace Blokli.Testing

open Worklist

/-! ### States that keep their keys -/

/-- **One state after another.** Each of these maps has the same keys in the same order, and
its records keep their identifiers. -/
structure Steady (oldState state : BlokliTestState) : Prop where
  accounts : IndexMap.SameBy accountIdentifiers oldState.accounts state.accounts
  channels : IndexMap.SameBy channelIdentifiers oldState.channels state.channels
  deployedSafes : IndexMap.SameBy Safe.address oldState.deployedSafes state.deployedSafes
  services : IndexMap.SameBy serviceIdentifiers oldState.services state.services
  serviceTypes : IndexMap.SameBy ServiceTypeInfo.serviceType oldState.serviceTypes
    state.serviceTypes
  nativeBalances : oldState.nativeBalances.keys = state.nativeBalances.keys
  tokenBalances : oldState.tokenBalances.keys = state.tokenBalances.keys
  safeAllowances : oldState.safeAllowances.keys = state.safeAllowances.keys

namespace Steady

variable {oldState state newState : BlokliTestState}

/-- Nothing was written. -/
theorem refl (state : BlokliTestState) : Steady state state where
  accounts := .refl _
  channels := .refl _
  deployedSafes := .refl _
  services := .refl _
  serviceTypes := .refl _
  nativeBalances := rfl
  tokenBalances := rfl
  safeAllowances := rfl

/-- One state after another. -/
theorem trans (h : Steady oldState state) (h' : Steady state newState) :
    Steady oldState newState where
  accounts := h.accounts.trans h'.accounts
  channels := h.channels.trans h'.channels
  deployedSafes := h.deployedSafes.trans h'.deployedSafes
  services := h.services.trans h'.services
  serviceTypes := h.serviceTypes.trans h'.serviceTypes
  nativeBalances := h.nativeBalances.trans h'.nativeBalances
  tokenBalances := h.tokenBalances.trans h'.tokenBalances
  safeAllowances := h.safeAllowances.trans h'.safeAllowances

end Steady

/-- Every access keeps the keys. -/
theorem Access.steady {access : Access} (h : access.KeepsIdentifiers) (state : BlokliTestState) :
    Steady state (access.perform state) := by
  have h_keys : ∀ (k : Text) (write : Text → Text) (m : IndexMap Text Text),
      m.keys = (m.rewriteAt k write).keys := fun k write m =>
    (IndexMap.rewriteAt_alongside (R := fun _ _ => True) (fun _ => trivial) k
      (fun _ => trivial) m).keys
  -- each accessor writes one map, and leaves its keys and identifiers
  cases access with
  | serviceEntry wanted node write =>
    exact { Steady.refl state with services := IndexMap.sameBy_rewriteFirst h _ }
  | serviceType wanted write =>
    exact { Steady.refl state with serviceTypes := IndexMap.sameBy_rewriteFirst h _ }
  | account chainKey write =>
    exact { Steady.refl state with accounts := IndexMap.sameBy_rewriteFirst h _ }
  | channelById channelId write =>
    exact { Steady.refl state with channels := IndexMap.sameBy_rewriteAt _ h _ }
  -- an amount keeps the keys only; what is stored at them is what the mutator may change
  | accountSafeAmount amount chainKey write =>
    unfold perform
    dsimp only
    cases state.safeAddressOf chainKey with
    | none => exact Steady.refl state
    | some address =>
      cases amount with
      | tokenBalance => exact { Steady.refl state with tokenBalances := h_keys address write _ }
      | nativeBalance => exact { Steady.refl state with nativeBalances := h_keys address write _ }
      | allowance => exact { Steady.refl state with safeAllowances := h_keys address write _ }
  | safeRedeemStats chainAddress write => exact { Steady.refl state with }
  | safeByOwner owner write =>
    exact { Steady.refl state with deployedSafes := IndexMap.sameBy_rewrite h _ }

/-- So does any sequence of accesses. -/
theorem Access.steady_all {accesses : List Access}
    (h : ∀ access ∈ accesses, access.KeepsIdentifiers) (state : BlokliTestState) :
    Steady state (Access.performAll accesses state) := by
  induction accesses generalizing state with
  | nil => exact Steady.refl state
  | cons access accesses ih =>
    exact (Access.steady (h access List.mem_cons_self) state).trans
      (ih (fun a h_a => h a (List.mem_cons_of_mem _ h_a)) (access.perform state))

/-- No access reaches the records of transactions. -/
theorem Access.activeTxs (access : Access) (state : BlokliTestState) :
    (access.perform state).activeTxs = state.activeTxs := by
  cases access with
  | accountSafeAmount amount chainKey write =>
    unfold perform
    dsimp only
    cases state.safeAddressOf chainKey with
    | none => rfl
    | some address => cases amount <;> rfl
  | serviceEntry | serviceType | account | channelById | safeRedeemStats | safeByOwner => rfl

/-- No sequence of accesses reaches the records of transactions. -/
theorem Access.activeTxs_all (accesses : List Access) (state : BlokliTestState) :
    (Access.performAll accesses state).activeTxs = state.activeTxs := by
  induction accesses generalizing state with
  | nil => rfl
  | cons access accesses ih => exact (ih (access.perform state)).trans (access.activeTxs state)

/-! ### What subscribers rely on -/

/-- The endpoints of a channel can be joined when both accounts are known. -/
theorem joinEndpoints_isSome {state : BlokliTestState} {channel : Channel} :
    (joinEndpoints state channel).isSome =
      ((state.accounts.lookup channel.source.toUInt32).isSome &&
        (state.accounts.lookup channel.destination.toUInt32).isSome) := by
  unfold joinEndpoints
  cases state.accounts.lookup channel.source.toUInt32 with
  | none => rfl
  | some source =>
    cases state.accounts.lookup channel.destination.toUInt32 with
    | none => rfl
    | some destination => rfl

namespace Steady

variable {oldState state : BlokliTestState}

/-- The guards of the simulation compare sizes, which are the same. -/
theorem checkRemovals (h : Steady oldState state) (h_txs : state.activeTxs = oldState.activeTxs) :
    Testing.checkRemovals oldState state = .ok () := by
  unfold Testing.checkRemovals
  simp only [cannotRemove_bind_ok, cannotRemove_ok]
  refine ⟨h.accounts.len_eq.le, h.channels.len_eq.le, ?_, ?_, ?_, by rw [h_txs],
    h.serviceTypes.len_eq.le⟩
  · rw [IndexMap.len_eq_length_keys, IndexMap.len_eq_length_keys, h.nativeBalances]
  · rw [IndexMap.len_eq_length_keys, IndexMap.len_eq_length_keys, h.tokenBalances]
  · rw [IndexMap.len_eq_length_keys, IndexMap.len_eq_length_keys, h.safeAllowances]

/-- Entries stay under their keys, since both keep. -/
theorem keyed (h : Steady oldState state) (h_keyed : oldState.Keyed) : state.Keyed where
  services key entry h_entry := by
    obtain ⟨old, h_old, h_same⟩ := h.services.entry h_entry
    obtain ⟨h_type, h_node⟩ := Prod.mk.inj h_same
    rw [← h_type, ← h_node]
    exact h_keyed.services key old h_old
  serviceTypes key info h_entry := by
    obtain ⟨old, h_old, h_same⟩ := h.serviceTypes.entry h_entry
    exact (h_keyed.serviceTypes key old h_old).trans h_same

/-- No service type is gone. -/
theorem evolves (h : Steady oldState state) (h_keyed : oldState.Keyed) :
    Evolves oldState state where
  old := h_keyed
  new := h.keyed h_keyed
  types _ h_key := h.serviceTypes.mem_iff.mp h_key

/-- Records stay under their identifiers, and the endpoints of the channels stay known. -/
theorem coherent (h : Steady oldState state) (h_coherent : Coherent oldState) :
    Coherent state where
  accounts := by
    -- the rewritten entry has the key id of the old one, and the key is that
    rintro ⟨key, account⟩ h_entry
    obtain ⟨old, h_old, h_same⟩ := h.accounts.entry h_entry
    obtain ⟨-, h_ids⟩ := Prod.mk.inj h_same
    have h_key := h_coherent.accounts _ h_old
    change account.keyid.toUInt32 = key
    rw [← (Prod.mk.inj h_ids).1]
    exact h_key
  safes := by
    rintro ⟨key, safe⟩ h_entry
    obtain ⟨old, h_old, h_same⟩ := h.deployedSafes.entry h_entry
    exact Eq.trans h_same.symm (h_coherent.safes _ h_old)
  channels := by
    rintro ⟨key, channel⟩ h_entry
    obtain ⟨old, h_old, h_same⟩ := h.channels.entry h_entry
    have h_key := h_coherent.channels _ h_old
    change channel.concreteChannelId = key
    rw [← (Prod.mk.inj h_same).1]
    exact h_key
  endpoints := by
    intro channel h_channel
    obtain ⟨old, h_old, h_same⟩ := h.channels.value h_channel
    obtain ⟨-, h_ends⟩ := Prod.mk.inj h_same
    obtain ⟨h_source, h_destination⟩ := Prod.mk.inj h_ends
    -- both ends have an account in both states
    have h_known := h_coherent.endpoints old h_old
    rw [joinEndpoints_isSome, Bool.and_eq_true] at h_known ⊢
    rw [← h_source, ← h_destination, ← h.accounts.isSome_lookup, ← h.accounts.isSome_lookup]
    exact h_known

/-- No record is gone, and none has other identifiers. -/
theorem succeeds (h : Steady oldState state) (h_coherent : Coherent oldState) :
    Succeeds oldState state where
  old := h_coherent
  new := h.coherent h_coherent
  accounts _ h_key := h.accounts.mem_iff.mp h_key
  safes _ h_key := h.deployedSafes.mem_iff.mp h_key
  channels _ h_key := h.channels.mem_iff.mp h_key
  keys key old new h_old h_new := by
    obtain ⟨h_chain, h_ids⟩ := Prod.mk.inj (h.accounts.lookup h_old h_new)
    obtain ⟨h_keyid, h_packet⟩ := Prod.mk.inj h_ids
    exact ⟨h_chain, h_keyid, h_packet⟩
  parties key old new h_old h_new := by
    obtain ⟨-, h_ends⟩ := Prod.mk.inj (h.channels.lookup h_old h_new)
    exact Prod.mk.inj h_ends

/-- No service is registered or deregistered, and no service type registered. -/
def Revises : Event → Prop
  | .service update => update.kind = .updated
  | .serviceType update => update.kind ≠ .registered
  | _ => True

/-- A service that is there before and after is at most updated. -/
theorem serviceChanges (h : Steady oldState state) {update : ServiceUpdate}
    (h_update : update ∈ Testing.serviceChanges oldState state) : update.kind = .updated := by
  unfold Testing.serviceChanges at h_update
  rcases List.mem_append.mp h_update with h_gone | h_there
  · obtain ⟨⟨key, entry⟩, h_entry, h_some⟩ := List.mem_filterMap.mp h_gone
    rw [if_pos (h.services.mem_iff.mp (IndexMap.mem_of_entry h_entry))] at h_some
    cases h_some
  · obtain ⟨⟨key, entry⟩, h_entry, h_some⟩ := List.mem_filterMap.mp h_there
    obtain ⟨old, h_old, -⟩ := h.services.entry h_entry
    dsimp only at h_some
    rw [show oldState.services.lookup key = some old from AList.mem_lookup_iff.mpr h_old] at h_some
    dsimp only at h_some
    split at h_some
    · obtain rfl := Option.some.inj h_some
      rfl
    · cases h_some

/-- A service type that was there is not registered. -/
theorem serviceTypeChanges (h : Steady oldState state) {update : ServiceTypeUpdate}
    (h_update : update ∈ Testing.serviceTypeChanges oldState state) :
    update.kind ≠ .registered := by
  unfold Testing.serviceTypeChanges at h_update
  obtain ⟨⟨key, info⟩, h_entry, h_mem⟩ := List.mem_flatMap.mp h_update
  obtain ⟨kind, h_kind, rfl⟩ := List.mem_map.mp h_mem
  obtain ⟨old, h_old, -⟩ := h.serviceTypes.entry h_entry
  dsimp only at h_kind ⊢
  rw [show oldState.serviceTypes.lookup key = some old from AList.mem_lookup_iff.mpr h_old]
    at h_kind
  rintro rfl
  obtain ⟨kind, h_field, h_some⟩ := List.mem_filterMap.mp h_kind
  obtain rfl : kind = some .registered := h_some
  -- each kind of a change names a field
  simp only [List.mem_cons, List.not_mem_nil, or_false] at h_field
  rcases h_field with h_eq | h_eq | h_eq | h_eq <;> split at h_eq <;> cases h_eq

/-- A transaction publishes revisions only. -/
theorem publications (h : Steady oldState state) :
    ∀ event ∈ Testing.publications oldState state, Revises event := by
  intro event h_event
  unfold Testing.publications at h_event
  simp only [List.mem_append, List.mem_map] at h_event
  rcases h_event with (((((⟨_, -, rfl⟩ | ⟨_, -, rfl⟩) | ⟨_, -, rfl⟩) | ⟨_, -, rfl⟩) |
    ⟨update, h_update, rfl⟩) | ⟨update, h_update, rfl⟩) | ⟨_, -, rfl⟩
  · exact True.intro
  · exact True.intro
  · exact True.intro
  · exact True.intro
  · exact h.serviceChanges h_update
  · exact h.serviceTypeChanges h_update
  · exact True.intro

end Steady

/-! ### Runs -/

/-- The client writes to the state through the accessors, and leaves identifiers alone. -/
def Obedient (client : TestClient) : Prop :=
  ∀ signedTx state, ∃ accesses : List Access,
    (∀ access ∈ accesses, access.KeepsIdentifiers) ∧
      (client.mutator signedTx state).2 = Access.performAll accesses state

/-- The action is a call, and what it submits is submitted by an obedient client. -/
def Obeys (a : Action Task Unit Request) : Prop :=
  IsCall a ∧ ∀ task client signedTx submission,
    a = .request (.submit task client signedTx submission) → Obedient client

/-- An obedient client passes the guards. -/
theorem Obedient.steady {client : TestClient} (h : Obedient client) {signedTx : List UInt8}
    {state state' : BlokliTestState} {result : Except ErrorKind Unit}
    (h_mutator : client.mutator signedTx state = (result, state')) : Steady state state' := by
  obtain ⟨accesses, h_keeps, h_state⟩ := h signedTx state
  rw [h_mutator] at h_state
  rw [show state' = Access.performAll accesses state from h_state]
  exact Access.steady_all h_keeps state

/-- It leaves the records of transactions alone. -/
theorem Obedient.activeTxs {client : TestClient} (h : Obedient client) {signedTx : List UInt8}
    {state state' : BlokliTestState} {result : Except ErrorKind Unit}
    (h_mutator : client.mutator signedTx state = (result, state')) :
    state'.activeTxs = state.activeTxs := by
  obtain ⟨accesses, -, h_state⟩ := h signedTx state
  rw [h_mutator] at h_state
  rw [show state' = Access.performAll accesses state from h_state]
  exact Access.activeTxs_all accesses state

/-- Its transactions are accepted when the mutator succeeds. -/
theorem Obedient.accepted {client : TestClient} (h : Obedient client) {signedTx : List UInt8}
    {state state' : BlokliTestState}
    (h_mutator : client.mutator signedTx state = (.ok (), state')) :
    simulateTxExecution signedTx state client.mutator =
      (.ok (publications state state'), state') := by
  unfold simulateTxExecution
  rw [h_mutator]
  dsimp only
  rw [(h.steady h_mutator).checkRemovals (h.activeTxs h_mutator)]

/-- The instruction writes through accessors, if it writes to the records. -/
def Point.Tame : Point → Prop
  | .execute client _ _ => Obedient client
  | .publish event _ => Steady.Revises event
  | .hiddenUpdate _ => False
  | _ => True

/-- What follows the execution of a transaction writes no records. -/
theorem finish_tame (client : TestClient) (result : Except ErrorKind (List Event))
    (submission : Submission) : ∀ i ∈ submission.finish client result, Point.Tame i := by
  intro i h_i
  cases submission with
  | transaction | confirm =>
    obtain rfl := List.mem_singleton.mp h_i
    exact True.intro
  | track txId txHash submittedAt =>
    rcases List.mem_cons.mp h_i with rfl | h_i
    · exact True.intro
    · obtain rfl := List.mem_singleton.mp h_i
      exact True.intro

/-- What a tame instruction writes and leaves to do. -/
structure TamePart (c : Conf) (e : Worklist.Effect Task Point Store) : Prop where
  written : e.store.written = c.store.written ∨
    (e.store.written = c.store.written ++ [e.store.state] ∧ Steady c.store.state e.store.state)
  next : ∀ i ∈ e.next, Point.Tame i
  log : ∀ feed, ∀ entry ∈ e.store.log feed,
    entry ∈ c.store.log feed ∨ Steady.Revises entry.1

section Tame

variable {c c' : Conf} {t : Task} {ch : Unit} {i : Point} {e : Worklist.Effect Task Point Store}

/-- An instruction of an obedient client keeps the state steady, and publishes revisions. -/
theorem exec_tame (h_tame : i.Tame) (h : exec t ch i c = some e) : TamePart c e := by
  cases i with
  -- instructions that write nothing
  | lockRead | lockWrite =>
    simp only [exec] at h
    split at h
    · obtain rfl := Option.some.inj h
      exact ⟨Or.inl rfl, fun _ h_j => absurd h_j List.not_mem_nil, fun _ _ h_e => Or.inl h_e⟩
    · cases h
  | unlockRead | unlockWrite | activate snapshot =>
    obtain rfl := Option.some.inj h
    exact ⟨Or.inl rfl, fun _ h_j => absurd h_j List.not_mem_nil, fun _ _ h_e => Or.inl h_e⟩
  | cloneAccounts selector =>
    obtain rfl := Option.some.inj h
    refine ⟨Or.inl rfl, fun j h_j => ?_, fun _ _ h_e => Or.inl h_e⟩
    simp only [List.mem_cons, List.not_mem_nil, or_false] at h_j
    rcases h_j with rfl | rfl | rfl <;> exact True.intro
  -- what it leaves are the activation of the stream and the lock
  | readInitial subscription accounts =>
    obtain rfl := Option.some.inj h
    refine ⟨Or.inl rfl, fun j h_j => ?_, fun _ _ h_e => Or.inl h_e⟩
    dsimp only at h_j
    split at h_j <;> simp only [List.mem_cons, List.not_mem_nil, or_false] at h_j <;>
      rcases h_j with rfl | rfl <;> exact True.intro
  | execute client signedTx submission =>
    simp only [exec] at h
    split at h
    · -- a reverted transaction writes nothing
      obtain rfl := Option.some.inj h
      exact ⟨Or.inl rfl, finish_tame client _ submission, fun _ _ h_e => Or.inl h_e⟩
    · -- what an obedient mutator wrote differs in what the accessors reach
      next events state h_run =>
      obtain rfl := Option.some.inj h
      have h_client : Obedient client := h_tame
      obtain ⟨h_steady, h_events⟩ : Steady c.store.state state ∧
          events = publications c.store.state state := by
        rcases simulateTxExecution_cases signedTx c.store.state client.mutator with
          ⟨error, h_error⟩ | ⟨state', h_mutator, -, h_ok⟩
        · cases h_run.symm.trans h_error
        · cases h_run.symm.trans h_ok
          exact ⟨h_client.steady h_mutator, rfl⟩
      refine ⟨Or.inr ⟨rfl, h_steady⟩, fun j h_j => ?_, fun _ _ h_e => Or.inl h_e⟩
      rcases List.mem_append.mp h_j with h_j | h_j
      · obtain ⟨event, h_event, rfl⟩ := List.mem_map.mp h_j
        rw [h_events] at h_event
        exact h_steady.publications event h_event
      · exact finish_tame client _ submission j h_j
  | publish event origin =>
    obtain rfl := Option.some.inj h
    -- the only new message is the one that was to be published
    refine ⟨Or.inl rfl, fun _ h_j => absurd h_j List.not_mem_nil, fun feed entry h_e => ?_⟩
    rcases Recorded.mem_broadcast h_e with h_old | ⟨rfl, -⟩
    · exact Or.inl h_old
    · exact Or.inr h_tame
  -- `active_txs` is none of the maps that have to stay
  | insertActiveTx transaction =>
    obtain rfl := Option.some.inj h
    exact ⟨Or.inr ⟨rfl, { Steady.refl c.store.state with }⟩,
      fun _ h_j => absurd h_j List.not_mem_nil, fun _ _ h_e => Or.inl h_e⟩
  | updateTicketParameters newPrice newWinProb =>
    obtain rfl := Option.some.inj h
    refine ⟨Or.inr ⟨rfl, { Steady.refl c.store.state with }⟩, fun j h_j => ?_,
      fun _ _ h_e => Or.inl h_e⟩
    dsimp only at h_j
    rcases List.mem_cons.mp h_j with rfl | h_j
    · exact True.intro
    · split at h_j
      · obtain rfl := List.mem_singleton.mp h_j
        exact True.intro
      · exact absurd h_j List.not_mem_nil
  -- neither are the counts and the statistics that a query inserts
  | serve call =>
    obtain rfl := Option.some.inj h
    refine ⟨Or.inr ⟨rfl, ?_⟩, fun _ h_j => absurd h_j List.not_mem_nil, fun _ _ h_e => Or.inl h_e⟩
    obtain ⟨txs, counts, stats, h_serve⟩ := call.serve_eq c.store.state
    show Steady c.store.state (call.serve c.store.state)
    rw [h_serve]
    exact { Steady.refl c.store.state with }
  | hiddenUpdate update => exact h_tame.elim

/-- So does a call when it is accepted. -/
theorem accept_tame {r : Request} (h_obeys : Obeys (.request r)) (h : accept r c = some (t, e)) :
    TamePart c e := by
  have h_same : e.store = c.store := (accept_lock h).1
  refine ⟨Or.inl (by rw [h_same]), fun j h_j => ?_, fun _ _ h_e => Or.inl (by rwa [h_same] at h_e)⟩
  cases r with
  -- a subscription runs no mutator
  | subscribe task subscription =>
    obtain ⟨rfl, rfl⟩ := Prod.mk.inj (Option.some.inj h)
    have h_script : ∀ i ∈ subscription.script, Point.Tame i := by
      intro i h_i
      cases subscription with
      | channels selector =>
        dsimp only [Subscription.script] at h_i
        split at h_i <;> simp only [List.mem_cons, List.not_mem_nil, or_false] at h_i <;>
          rcases h_i with rfl | rfl <;> exact True.intro
      | accounts | graph | ticketParams | safeDeployments | services | serviceTypes
      | serviceRegistryConfig =>
        dsimp only [Subscription.script] at h_i
        simp only [List.mem_cons, List.not_mem_nil, or_false] at h_i
        rcases h_i with rfl | rfl <;> exact True.intro
    exact h_script j h_j
  -- a submission runs that of its client, which is obedient
  | submit task client signedTx submission =>
    simp only [accept] at h
    split at h
    · obtain ⟨rfl, rfl⟩ := Prod.mk.inj (Option.some.inj h)
      exact absurd h_j List.not_mem_nil
    · obtain ⟨rfl, rfl⟩ := Prod.mk.inj (Option.some.inj h)
      simp only [List.mem_cons, List.not_mem_nil, or_false] at h_j
      rcases h_j with rfl | rfl
      · exact True.intro
      · exact h_obeys.2 _ client signedTx submission rfl
  | updatePriceAndWinProb task newPrice newWinProb =>
    obtain ⟨rfl, rfl⟩ := Prod.mk.inj (Option.some.inj h)
    simp only [List.mem_cons, List.not_mem_nil, or_false] at h_j
    rcases h_j with rfl | rfl <;> exact True.intro
  | serve task call =>
    obtain ⟨rfl, rfl⟩ := Prod.mk.inj (Option.some.inj h)
    simp only [List.mem_cons, List.not_mem_nil, or_false] at h_j
    rcases h_j with rfl | rfl | rfl <;> exact True.intro
  | hiddenStateUpdate task update => exact absurd rfl (h_obeys.1 task update)

end Tame

/-- **The states of a run.** Each is steady after the one before and after the first, what is
pending is tame, and what was broadcast registers nothing. -/
structure Tamed (first : BlokliTestState) (c : Conf) : Prop where
  current : c.store.Current
  chain : c.store.written.IsChain Steady
  since : ∀ state ∈ c.store.written, Steady first state
  pending : ∀ t, ∀ i ∈ c.todo t, Point.Tame i
  logged : ∀ feed, ∀ entry ∈ c.store.log feed, Steady.Revises entry.1

namespace Tamed

variable {first : BlokliTestState} {c c' : Conf} {a : Action Task Unit Request}

/-- At the start nothing was written. -/
theorem initial (first : BlokliTestState) : Tamed first (start first) where
  current := rfl
  chain := .singleton _
  since state h_state := by
    obtain rfl := List.mem_singleton.mp h_state
    exact Steady.refl _
  pending _ _ h_i := absurd h_i List.not_mem_nil
  logged _ _ h_entry := absurd h_entry List.not_mem_nil

/-- One part of a step keeps the invariant. -/
theorem of_part (h : Tamed first c) {e : Worklist.Effect Task Point Store} (h_part : TamePart c e)
    (h_store : c'.store = e.store) (h_current : c'.store.Current)
    (h_pending : ∀ t, ∀ i ∈ c'.todo t, Point.Tame i) : Tamed first c' where
  current := h_current
  chain := by
    rw [h_store]
    rcases h_part.written with h_same | ⟨h_new, h_steady⟩
    · rw [h_same]
      exact h.chain
    · rw [h_new]
      refine List.isChain_append.mpr ⟨h.chain, .singleton _, fun old h_old new h_new => ?_⟩
      -- the last written state is the one that was replaced
      obtain rfl := Option.some.inj (h.current.symm.trans h_old)
      obtain rfl := Option.some.inj h_new
      exact h_steady
  since := by
    intro state h_state
    rw [h_store] at h_state
    rcases h_part.written with h_same | ⟨h_new, h_steady⟩
    · rw [h_same] at h_state
      exact h.since state h_state
    · rw [h_new] at h_state
      rcases List.mem_append.mp h_state with h_state | h_state
      · exact h.since state h_state
      · obtain rfl := List.mem_singleton.mp h_state
        exact (h.since _ (List.mem_of_getLast? h.current)).trans h_steady
  pending := h_pending
  logged := by
    intro feed entry h_entry
    rw [h_store] at h_entry
    rcases h_part.log feed entry h_entry with h_old | h_revises
    · exact h.logged feed entry h_old
    · exact h_revises

/-- One step keeps it. -/
theorem step (h : Tamed first c) (h_obeys : Obeys a) (h_step : clientProgram.step c a = some c') :
    Tamed first c' := by
  -- the current state is the last one written, as before
  have h_current : c'.store.Current := by
    rcases Program.step_cases h_step with ⟨t, ch, i, rest, e, -, -, h_exec, rfl⟩ |
      ⟨r, t, e, -, h_acc, -, rfl⟩
    · change exec t ch i c = some e at h_exec
      exact (exec_records h_exec).current h.current
    · rw [resume_store, (accept_lock h_acc).1]
      exact h.current
  -- nothing that is pending is untamed
  have h_pending : ∀ t, ∀ i ∈ c'.todo t, Point.Tame i := by
    refine Program.forall_todo_of_step h_step h.pending (fun _ _ _ h_i => h_i)
      (fun t ch i rest e _ h_todo h_exec => ?_) fun r t e h_a h_acc => ?_
    · change exec t ch i c = some e at h_exec
      have h_i : Point.Tame i := h.pending t i (by rw [h_todo]; exact List.mem_cons_self)
      refine ⟨(exec_tame h_i h_exec).next, fun t' is h_spawned => ?_⟩
      rw [(exec_lock h_exec).2.1] at h_spawned
      cases h_spawned
    · subst h_a
      refine ⟨(accept_tame h_obeys h_acc).next, fun t' is h_spawned => ?_⟩
      rw [(accept_lock h_acc).2.1] at h_spawned
      cases h_spawned
  rcases Program.step_cases h_step with ⟨t, ch, i, rest, e, -, h_todo, h_exec, rfl⟩ |
    ⟨r, t, e, h_a, h_acc, -, rfl⟩
  · change exec t ch i c = some e at h_exec
    have h_i : Point.Tame i := h.pending t i (by rw [h_todo]; exact List.mem_cons_self)
    exact h.of_part (exec_tame h_i h_exec) (resume_store c t rest e) h_current h_pending
  · subst h_a
    exact h.of_part (accept_tame h_obeys h_acc) (resume_store c t [] e) h_current h_pending

/-- The invariant along a run with obedient clients. -/
theorem reachable (h : clientProgram.Reachable (start first) (fun _ a => Obeys a) c) :
    Tamed first c :=
  h.induct (motive := Tamed first) (initial first) fun _ h_c h_obeys h_step =>
    h_c.step h_obeys h_step

end Tamed

/-- **Mutators that write through the accessors.** In every run whose transactions come from
obedient clients, on a state that is coherent and keyed, all written states are, in the way
that the streams of records and of the service registry rely on. The maps of `Steady` have
the keys of the first state in each of them. No service is registered or deregistered, and no
transaction whose mutator succeeds is rejected. -/
theorem accessor_mutators_keep {first : BlokliTestState} (h_coherent : Coherent first)
    (h_keyed : first.Keyed) {c : Conf}
    (h : clientProgram.Reachable (start first) (fun _ a => Obeys a) c) :
    RecordsKept c.store.written ∧ WellKept c.store.written ∧
    (∀ state ∈ c.store.written, Steady first state) ∧
    (∀ feed, ∀ entry ∈ c.store.log feed, Steady.Revises entry.1) ∧
    ∀ client signedTx state, Obedient client →
      client.mutator signedTx c.store.state = (.ok (), state) →
      simulateTxExecution signedTx c.store.state client.mutator =
        (.ok (publications c.store.state state), state) := by
  have h_tamed := Tamed.reachable h
  have h_all : ∀ state ∈ c.store.written, Coherent state ∧ state.Keyed := fun state h_state =>
    ⟨(h_tamed.since state h_state).coherent h_coherent, (h_tamed.since state h_state).keyed h_keyed⟩
  refine ⟨⟨fun state h_state => (h_all state h_state).1, ?_⟩,
    ⟨fun state h_state => (h_all state h_state).2, ?_⟩, h_tamed.since, h_tamed.logged,
    fun client signedTx state h_client h_mutator => h_client.accepted h_mutator⟩
  · refine List.IsChain.imp_of_mem_imp (fun old new h_old _ h_steady => ?_) h_tamed.chain
    exact h_steady.succeeds (h_all old h_old).1
  · refine List.IsChain.imp_of_mem_imp (fun old new h_old _ h_steady => ?_) h_tamed.chain
    exact h_steady.evolves (h_all old h_old).2

/-- A client whose transactions announce the node. -/
def announcingNode : TestClient where
  mutator := fun _ state => (.ok (), Access.performAll [announceNode] state)

/-- The sample client writes through an accessor. -/
theorem announcingNode_obedient : Obedient announcingNode := fun _ _ =>
  ⟨[announceNode], announceNode_keeps, rfl⟩

/-- The state after the announcement. -/
def announcedNode : BlokliTestState := Access.performAll [announceNode] (stateWithAccount 1)

/-- A run in which the client submits the announcement, which changes the account. -/
theorem accessor_mutators_keep_announced : ∃ c,
    clientProgram.Reachable (start (stateWithAccount 1)) (fun _ a => Obeys a) c ∧
      c.store.written = [stateWithAccount 1, announcedNode] ∧
      announcedNode.accounts.values ≠ (stateWithAccount 1).accounts.values ∧
      RecordsKept c.store.written ∧ WellKept c.store.written ∧
      ∀ state ∈ c.store.written, Steady (stateWithAccount 1) state := by
  have h_coherent : Coherent (stateWithAccount 1) := by
    refine stateWith_coherent fun entry h_entry => ?_
    obtain rfl := List.mem_singleton.mp h_entry
    rfl
  have h_keyed : (stateWithAccount 1).Keyed :=
    ⟨fun _ _ h_entry => absurd h_entry List.not_mem_nil,
      fun _ _ h_entry => absurd h_entry List.not_mem_nil⟩
  have h_run : ∀ t, Obeys (.run t ()) := fun t =>
    ⟨fun _ _ h_eq => (by cases h_eq), fun _ _ _ _ h_eq => (by cases h_eq)⟩
  have h_submit : Obeys (.request (.submit 0 announcingNode [] .transaction)) := by
    refine ⟨fun _ _ h_eq => (by cases h_eq), fun task client signedTx submission h_eq => ?_⟩
    cases h_eq
    exact announcingNode_obedient
  -- the call is made, and takes the lock
  have h_called : clientProgram.Reachable (start (stateWithAccount 1)) (fun _ a => Obeys a)
      ((start (stateWithAccount 1)).resume 0 [] _) := .serve rfl rfl h_submit
  obtain ⟨c, h_locked, h_todo, h_state, h_first⟩ :
      ∃ c, clientProgram.Reachable (start (stateWithAccount 1)) (fun _ a => Obeys a) c ∧
        c.todo 0 = [.execute announcingNode [] .transaction] ∧
        c.store.state = stateWithAccount 1 ∧ c.store.written = [stateWithAccount 1] :=
    ⟨_, h_called.trans (.exec () rfl rfl (h_run 0)), rfl, rfl, rfl⟩
  have h_mutator : announcingNode.mutator [] c.store.state = (.ok (), announcedNode) := by
    rw [h_state]
    rfl
  have h_removals : checkRemovals c.store.state announcedNode = .ok () := by
    rw [h_state]
    rfl
  -- it executes, publishes and returns
  obtain ⟨c', h_reach, -, -, h_written, -⟩ := reachable_accepted (fun _ a => Obeys a)
    (fun _ _ => h_run 0) h_todo h_mutator h_removals
  rw [h_first] at h_written
  have h_all := h_locked.trans h_reach
  obtain ⟨h_records, h_kept, h_steady, -, -⟩ := accessor_mutators_keep h_coherent h_keyed h_all
  exact ⟨c', h_all, h_written, by decide, h_records, h_kept, h_steady⟩

end Blokli.Testing
