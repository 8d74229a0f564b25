import BlokliClient.Testing.Client

/-!
# Transactions that are not accepted

* `removals_rejected_iff` : the guards of a transaction compare lengths, so they
  reject every mutation that removes a key unless it adds as many to the same map.
* `simulate` is `simulate_tx_execution` in the order of its statements, on the state
  and the broadcast channels in place. Each of its failing exits puts the old state
  back. `simulate_eq` connects it with `simulateTxExecution`.
* `failed_transactions_leave_no_trace` : what the three ways to submit leave behind
  when the transaction fails, or when a policy refuses it.
-/

namespace Blokli.Testing

/-! ### Keys that come and go -/

namespace IndexMap

variable {κ α : Type}

/-- The keys of the map before that the map after lacks. -/
def removed [DecidableEq κ] (before after : IndexMap κ α) : List κ :=
  before.keys.filter fun k => decide (k ∉ after)

/-- The keys of the map after that the map before lacks. -/
def added [DecidableEq κ] (before after : IndexMap κ α) : List κ :=
  after.removed before

theorem len_eq_length_keys (m : IndexMap κ α) : m.len = m.keys.length :=
  (List.length_map _).symm

/-- The keys that both maps have are as many on either side. -/
theorem length_common [DecidableEq κ] (m m' : IndexMap κ α) :
    (m.keys.filter fun k => decide (k ∈ m')).length =
      (m'.keys.filter fun k => decide (k ∈ m)).length := by
  -- the keys of both maps, listed from either side
  have h_perm : (m.keys.filter fun k => decide (k ∈ m')).Perm
      (m'.keys.filter fun k => decide (k ∈ m)) := by
    refine (List.perm_ext_iff_of_nodup (m.keys_nodup.filter _) (m'.keys_nodup.filter _)).mpr ?_
    intro k
    rw [List.mem_filter, List.mem_filter, decide_eq_true_iff, decide_eq_true_iff,
      AList.mem_keys, AList.mem_keys]
    exact and_comm
  exact h_perm.length_eq

/-- A map has the keys that the other one has too, and those that it lacks. -/
theorem length_keys_eq [DecidableEq κ] (m m' : IndexMap κ α) :
    m.keys.length = (m.keys.filter fun k => decide (k ∈ m')).length + (m.removed m').length := by
  have h := List.length_eq_length_filter_add (fun k => decide (k ∈ m')) (l := m.keys)
  -- the rest of the keys are those that were removed
  have h_not : (m.keys.filter fun k => !decide (k ∈ m')) = m.removed m' := by
    refine List.filter_congr fun k _ => ?_
    exact (decide_not ..).symm
  rw [h_not] at h
  exact h

/-- **What a length can tell.** A map that is at least as long gained as many keys as
it lost. -/
theorem len_le_iff [DecidableEq κ] (before after : IndexMap κ α) :
    before.len ≤ after.len ↔ (before.removed after).length ≤ (before.added after).length := by
  -- both lengths are counted from the keys in common
  have h_before := length_keys_eq before after
  have h_after := length_keys_eq after before
  have h_common := length_common before after
  rw [len_eq_length_keys, len_eq_length_keys]
  unfold added
  omega

theorem removed_eq_nil [DecidableEq κ] {before after : IndexMap κ α} :
    before.removed after = [] ↔ ∀ k ∈ before, k ∈ after := by
  unfold removed
  rw [List.filter_eq_nil_iff]
  constructor
  -- no key is filtered out
  · intro h k h_k
    have h_not := h k (AList.mem_keys.mp h_k)
    rw [decide_eq_true_iff] at h_not
    exact not_not.mp h_not
  · intro h k h_k h_not
    exact of_decide_eq_true h_not (h k (AList.mem_keys.mpr h_k))

end IndexMap

/-! ### The guards -/

/-- The property holds of the versions before and after of each of the seven maps that
are guarded. -/
def EachGuarded (P : ∀ {κ α : Type} [DecidableEq κ], IndexMap κ α → IndexMap κ α → Prop)
    (before after : BlokliTestState) : Prop :=
  P before.accounts after.accounts ∧
  P before.channels after.channels ∧
  P before.nativeBalances after.nativeBalances ∧
  P before.tokenBalances after.tokenBalances ∧
  P before.safeAllowances after.safeAllowances ∧
  P before.activeTxs after.activeTxs ∧
  P before.serviceTypes after.serviceTypes

theorem EachGuarded.imp
    {P Q : ∀ {κ α : Type} [DecidableEq κ], IndexMap κ α → IndexMap κ α → Prop}
    (h : ∀ {κ α : Type} [DecidableEq κ] (m m' : IndexMap κ α), P m m' → Q m m')
    {before after : BlokliTestState} (h_each : EachGuarded P before after) :
    EachGuarded Q before after := by
  obtain ⟨h_accounts, h_channels, h_native, h_token, h_safe, h_txs, h_types⟩ := h_each
  exact ⟨h _ _ h_accounts, h _ _ h_channels, h _ _ h_native, h _ _ h_token, h _ _ h_safe,
    h _ _ h_txs, h _ _ h_types⟩

/-- Every key of the map before is still a key of the map after. -/
def KeepsKeys {κ α : Type} (before after : IndexMap κ α) : Prop := ∀ k ∈ before, k ∈ after

/-- The map gains at least as many keys as it loses. -/
def Offsets {κ α : Type} [DecidableEq κ] (before after : IndexMap κ α) : Prop :=
  (before.removed after).length ≤ (before.added after).length

theorem cannotRemove_bind_ok {what : String} {oldLen len : ℕ} {f : Unit → Except ErrorKind Unit} :
    (cannotRemove what oldLen len >>= f) = .ok () ↔ oldLen ≤ len ∧ f () = .ok () := by
  unfold cannotRemove
  split
  · next h =>
    constructor
    · -- the guard fails, and so does what follows
      intro h_error
      cases h_error
    · intro h_and
      exact absurd h_and.1 (Nat.not_le.mpr h)
  -- the guard passes
  · next h => exact ⟨fun h_f => ⟨Nat.not_lt.mp h, h_f⟩, fun h_and => h_and.2⟩

theorem cannotRemove_ok {what : String} {oldLen len : ℕ} :
    cannotRemove what oldLen len = .ok () ↔ oldLen ≤ len := by
  unfold cannotRemove
  split
  · next h => exact ⟨fun h_error => (by cases h_error), fun h_le => absurd h_le (Nat.not_le.mpr h)⟩
  · next h => exact ⟨fun _ => Nat.not_lt.mp h, fun _ => rfl⟩

/-- The guards pass when no guarded map got shorter. -/
theorem checkRemovals_ok {before after : BlokliTestState} :
    checkRemovals before after = .ok () ↔ EachGuarded Offsets before after := by
  unfold checkRemovals EachGuarded Offsets
  simp only [cannotRemove_bind_ok, cannotRemove_ok, IndexMap.len_le_iff]

/-- An accepted transaction is one whose mutator succeeds and passes the guards. -/
theorem simulateTxExecution_ok {signedTx : List UInt8} {state state' : BlokliTestState}
    {mutator : StateMutator} :
    (∃ events, simulateTxExecution signedTx state mutator = (.ok events, state')) ↔
      mutator signedTx state = (.ok (), state') ∧ EachGuarded Offsets state state' := by
  constructor
  · rintro ⟨events, h⟩
    rcases simulateTxExecution_cases signedTx state mutator with ⟨error, h_error⟩ |
      ⟨state'', h_mutator, h_check, h_accepted⟩
    · -- a rejected transaction publishes nothing
      rw [h] at h_error
      cases h_error
    · have h_state : state' = state'' := congrArg Prod.snd (h.symm.trans h_accepted)
      subst h_state
      exact ⟨h_mutator, checkRemovals_ok.mp h_check⟩
  · -- a mutator that succeeds, and guards that pass
    rintro ⟨h_mutator, h_offsets⟩
    refine ⟨publications state state', ?_⟩
    unfold simulateTxExecution
    rw [h_mutator]
    dsimp only
    rw [checkRemovals_ok.mpr h_offsets]

/-- **Removals are rejected, up to replacements.** An accepted transaction keeps every
key of the guarded maps, for all that the mutator may do to them, exactly when the
mutator does not take a key out of a guarded map while each of these gains at least as
many keys as it loses. -/
theorem removals_rejected_iff (signedTx : List UInt8) (state : BlokliTestState)
    (mutator : StateMutator) :
    (∀ events state', simulateTxExecution signedTx state mutator = (.ok events, state') →
      EachGuarded KeepsKeys state state') ↔
    ¬ ∃ state', mutator signedTx state = (.ok (), state') ∧ EachGuarded Offsets state state' ∧
      ¬ EachGuarded (fun m m' => m.removed m' = []) state state' := by
  constructor
  · rintro h ⟨state', h_mutator, h_offsets, h_removed⟩
    -- such a run is accepted, though a key is gone
    obtain ⟨events, h_ok⟩ := simulateTxExecution_ok.mpr ⟨h_mutator, h_offsets⟩
    have h_keeps := h events state' h_ok
    exact h_removed (h_keeps.imp fun _ _ h_keys => IndexMap.removed_eq_nil.mpr h_keys)
  · intro h events state' h_ok
    obtain ⟨h_mutator, h_offsets⟩ := simulateTxExecution_ok.mp ⟨events, h_ok⟩
    -- an accepted run that takes a key out is the excluded one
    have h_removed : EachGuarded (fun m m' => m.removed m' = []) state state' := by
      by_contra h_not
      exact h ⟨state', h_mutator, h_offsets, h_not⟩
    exact h_removed.imp fun _ _ h_nil => IndexMap.removed_eq_nil.mp h_nil

/-- An account of the given key id. -/
def numberedAccount (keyid : Int32) : Account where
  chainKey := "1111111111111111111111111111111111111111".toList
  keyid := keyid
  multiAddresses := []
  packetKey := "22".toList
  safeAddress := none

/-- The default state with one account. -/
def stateWithAccount (keyid : UInt32) : BlokliTestState :=
  { BlokliTestState.default with
    accounts := AList.singleton keyid (numberedAccount keyid.toInt32) }

/-- A mutator that moves the account to another key id. -/
def renumberAccount : StateMutator := fun _ _ => (.ok (), stateWithAccount 2)

/-- The account of key id 1 is gone, and the transaction is accepted. -/
theorem replaced_account_is_accepted :
    ¬ ∀ signedTx state mutator events state',
      simulateTxExecution signedTx state mutator = (.ok events, state') →
        EachGuarded KeepsKeys state state' := by
  intro h
  -- the maps have one key each, so that the guards pass
  have h_offsets : EachGuarded Offsets (stateWithAccount 1) (stateWithAccount 2) := by
    unfold EachGuarded Offsets
    decide
  have h_run : renumberAccount [] (stateWithAccount 1) = (.ok (), stateWithAccount 2) := rfl
  obtain ⟨events, h_ok⟩ := simulateTxExecution_ok.mpr ⟨h_run, h_offsets⟩
  have h_keeps := (h [] (stateWithAccount 1) renumberAccount events (stateWithAccount 2) h_ok).1
  -- key 1 was there, and is not now
  have h_old : (1 : UInt32) ∈ (stateWithAccount 1).accounts := by decide
  have h_new : (1 : UInt32) ∉ (stateWithAccount 2).accounts := by decide
  exact h_new (h_keeps 1 h_old)

/-! ### A transaction in place -/

/-- What a transaction works on while it holds the write lock. -/
structure World (σ : Type) where
  state : BlokliTestState
  channels : σ

/-- The error of a guard. -/
def removalError (what : String) : ErrorKind :=
  .mockClientError (.message ("mutation cannot remove ".toList ++ what.toList))

/-- The error of a simulated refusal. -/
def SimulatedPolicyOutcome.toError : SimulatedPolicyOutcome → ErrorKind
  | .rejected operation reason =>
    .hoprActionRejected operation reason ("simulated rejection of ".toList ++ operation)
  | .throttled operation reason retryAfter =>
    .hoprActionThrottled operation reason retryAfter
      ("simulated suppression of ".toList ++ operation)

abbrev TxReceipt := Bytes 32

section InPlace

/- What `try_broadcast` does to the seven channels is left open. It drops the message
when the channel is full or closed. -/
variable {σ : Type} (tryBroadcast : Event → σ → σ)

namespace World

/-- `*state = old_state`. -/
def restore (world : World σ) (oldState : BlokliTestState) : World σ :=
  { world with state := oldState }

/-- One `try_broadcast`. -/
def send (world : World σ) (event : Event) : World σ :=
  { world with channels := tryBroadcast event world.channels }

def sendAll (world : World σ) (events : List Event) : World σ :=
  events.foldl (send tryBroadcast) world

theorem sendAll_append (world : World σ) (events events' : List Event) :
    world.sendAll tryBroadcast (events ++ events') =
      (world.sendAll tryBroadcast events).sendAll tryBroadcast events' :=
  List.foldl_append

end World

/-- `simulate_tx_execution`, statement by statement. -/
def simulate (signedTx : List UInt8) (mutator : StateMutator) (world : World σ) :
    Except ErrorKind Unit × World σ :=
  let oldState := world.state
  let update := mutator signedTx world.state
  let state := update.2
  let world := { world with state := state }
  -- any failure puts the copy back
  match update.1 with
  | .error error => (.error error, world.restore oldState)
  | .ok () =>
    if oldState.accounts.len > state.accounts.len then
      (.error (removalError "accounts"), world.restore oldState)
    else if oldState.channels.len > state.channels.len then
      (.error (removalError "channels"), world.restore oldState)
    else if oldState.nativeBalances.len > state.nativeBalances.len then
      (.error (removalError "native balances"), world.restore oldState)
    else if oldState.tokenBalances.len > state.tokenBalances.len then
      (.error (removalError "token balances"), world.restore oldState)
    else if oldState.safeAllowances.len > state.safeAllowances.len then
      (.error (removalError "safe allowances"), world.restore oldState)
    else if oldState.activeTxs.len > state.activeTxs.len then
      (.error (removalError "active txs"), world.restore oldState)
    else if oldState.serviceTypes.len > state.serviceTypes.len then
      (.error (removalError "service types"), world.restore oldState)
    -- the order of the broadcasts
    else
      let world := world.sendAll tryBroadcast ((accountChanges oldState state).map .account)
      let world := world.sendAll tryBroadcast
        ((channelChanges oldState state).map fun entry => .channel entry.1 entry.2.1 entry.2.2)
      let world := world.sendAll tryBroadcast
        ((ticketChanges oldState state).map .ticketParameters)
      let world := world.sendAll tryBroadcast ((safeChanges oldState state).map .safe)
      let world := world.sendAll tryBroadcast ((serviceChanges oldState state).map .service)
      let world := world.sendAll tryBroadcast ((serviceTypeChanges oldState state).map .serviceType)
      let world := world.sendAll tryBroadcast
        ((serviceRegistryConfigChanges oldState state).map .serviceRegistryConfig)
      (.ok (), world)

/-- `submit_transaction`, with the receipt that it draws. That the transaction failed
is only logged. -/
def submitTransaction (client : TestClient) (txReceipt : TxReceipt) (signedTx : List UInt8)
    (world : World σ) : Except ErrorKind TxReceipt × World σ :=
  match client.policyOutcome with
  | some outcome => (.error outcome.toError, world)
  | none => (.ok txReceipt, (simulate tryBroadcast signedTx client.mutator world).2)

/-- `submit_and_track_transaction`, with the id, the hash and the time that it draws. -/
def submitAndTrackTransaction (client : TestClient) (txId txHash submittedAt : Text)
    (signedTx : List UInt8) (world : World σ) : Except ErrorKind Text × World σ :=
  match client.policyOutcome with
  | some outcome => (.error outcome.toError, world)
  | none =>
    let simulated := simulate tryBroadcast signedTx client.mutator world
    let world := simulated.2
    -- the record needs to know only whether the transaction failed
    let transaction := trackedTransaction client txId txHash submittedAt
      (simulated.1.map fun () => [])
    (.ok txId, { world with
      state := { world.state with
        activeTxs := world.state.activeTxs.insert txId transaction } })

/-- `submit_and_confirm_transaction`, once it has slept. It takes the lock after that. -/
def submitAndConfirmTransaction (client : TestClient) (txReceipt : TxReceipt)
    (signedTx : List UInt8) (world : World σ) : Except ErrorKind TxReceipt × World σ :=
  match client.policyOutcome with
  | some outcome => (.error outcome.toError, world)
  | none =>
    -- the error of the transaction is passed on, unlike in the other two
    match simulate tryBroadcast signedTx client.mutator world with
    | (.error error, world) => (.error error, world)
    | (.ok (), world) => (.ok txReceipt, world)

/-- One guard, in place and as a check. -/
theorem guard_eq {α : Type} {what : String} {oldLen len : ℕ} {restored : α}
    {rest accept : Except ErrorKind Unit × α} {check : Except ErrorKind Unit}
    (h : rest = match check with
      | .error error => (.error error, restored)
      | .ok () => accept) :
    (if oldLen > len then (.error (removalError what), restored) else rest) =
      match cannotRemove what oldLen len >>= fun _ => check with
      | .error error => (.error error, restored)
      | .ok () => accept := by
  unfold cannotRemove
  split
  · rfl
  · exact h

/-- **The statements do what the summary says.** -/
theorem simulate_eq (signedTx : List UInt8) (mutator : StateMutator) (world : World σ) :
    simulate tryBroadcast signedTx mutator world =
      match simulateTxExecution signedTx world.state mutator with
      | (.error error, state) => (.error error, { world with state := state })
      | (.ok events, state) =>
        (.ok (), World.sendAll tryBroadcast { world with state := state } events) := by
  unfold simulate simulateTxExecution
  dsimp only
  -- the mutator decides first
  obtain ⟨result, state⟩ := mutator signedTx world.state
  cases result with
  | error error => rfl
  | ok _ =>
    dsimp only
    -- the publications are sent one list after the other
    simp only [← World.sendAll_append]
    calc _ = match checkRemovals world.state state with
          | .error error => (.error error, { world with state := world.state })
          | .ok () => (.ok (), World.sendAll tryBroadcast { world with state := state }
            (publications world.state state)) := by
          -- one guard after the other
          unfold checkRemovals
          refine guard_eq (guard_eq (guard_eq (guard_eq (guard_eq (guard_eq ?_)))))
          unfold cannotRemove
          split
          · -- the last guard rejects
            rfl
          · rfl
      _ = _ := by
          cases checkRemovals world.state state with
          | error error => rfl
          | ok _ => rfl

/-- Every failing exit puts the old state back, and none comes after a broadcast. -/
theorem simulate_error {signedTx : List UInt8} {mutator : StateMutator} {world : World σ}
    {error : ErrorKind} (h : (simulate tryBroadcast signedTx mutator world).1 = .error error) :
    simulate tryBroadcast signedTx mutator world = (.error error, world) := by
  rw [simulate_eq] at h ⊢
  rcases simulateTxExecution_cases signedTx world.state mutator with ⟨error', h_error⟩ |
    ⟨state', -, -, h_ok⟩
  · -- the world is put back
    rw [h_error] at h ⊢
    obtain rfl : error' = error := Except.error.inj h
    rfl
  · rw [h_ok] at h
    cases h

/-- **A failed transaction leaves no trace.** When the transaction fails, the state and
the channels are those before it, so that a plain and a confirmed submission change
nothing, and a tracked one only adds its own record. A configured policy outcome is
the error of all three, with nothing changed. A submission that reports an error
changed nothing in any case.

The channels are arbitrary, so nothing was passed to `try_broadcast` either: one may
take the list of the messages that were. -/
theorem failed_transactions_leave_no_trace (client : TestClient) (txReceipt : TxReceipt)
    (txId txHash submittedAt : Text) (signedTx : List UInt8) (world : World σ) :
    (∀ error, (simulate tryBroadcast signedTx client.mutator world).1 = .error error →
      (simulate tryBroadcast signedTx client.mutator world).2 = world ∧
      (client.policyOutcome = none →
        submitTransaction tryBroadcast client txReceipt signedTx world = (.ok txReceipt, world) ∧
        submitAndConfirmTransaction tryBroadcast client txReceipt signedTx world =
          (.error error, world) ∧
        submitAndTrackTransaction tryBroadcast client txId txHash submittedAt signedTx world =
          (.ok txId, { world with
            state := { world.state with
              activeTxs := world.state.activeTxs.insert txId
                (trackedTransaction client txId txHash submittedAt (.error error)) } }))) ∧
    (∀ outcome, client.policyOutcome = some outcome →
      submitTransaction tryBroadcast client txReceipt signedTx world =
        (.error outcome.toError, world) ∧
      submitAndTrackTransaction tryBroadcast client txId txHash submittedAt signedTx world =
        (.error outcome.toError, world) ∧
      submitAndConfirmTransaction tryBroadcast client txReceipt signedTx world =
        (.error outcome.toError, world)) ∧
    (∀ error,
      ((submitTransaction tryBroadcast client txReceipt signedTx world).1 = .error error →
        (submitTransaction tryBroadcast client txReceipt signedTx world).2 = world) ∧
      ((submitAndTrackTransaction tryBroadcast client txId txHash submittedAt signedTx world).1 =
          .error error →
        (submitAndTrackTransaction tryBroadcast client txId txHash submittedAt signedTx world).2 =
          world) ∧
      ((submitAndConfirmTransaction tryBroadcast client txReceipt signedTx world).1 =
          .error error →
        (submitAndConfirmTransaction tryBroadcast client txReceipt signedTx world).2 =
          world)) := by
  refine ⟨fun error h_error => ?_, fun outcome h_policy => ?_, fun error => ?_⟩
  · -- the transaction fails
    have h_world := simulate_error tryBroadcast h_error
    refine ⟨congrArg Prod.snd h_world, fun h_policy => ?_⟩
    unfold submitTransaction submitAndConfirmTransaction submitAndTrackTransaction
    rw [h_policy, h_world]
    exact ⟨rfl, rfl, rfl⟩
  · -- the policy refuses
    unfold submitTransaction submitAndConfirmTransaction submitAndTrackTransaction
    rw [h_policy]
    exact ⟨rfl, rfl, rfl⟩
  · -- a submission reports an error
    unfold submitTransaction submitAndConfirmTransaction submitAndTrackTransaction
    cases client.policyOutcome with
    | some outcome => exact ⟨fun _ => rfl, fun _ => rfl, fun _ => rfl⟩
    | none =>
      refine ⟨fun h => (by cases h), fun h => (by cases h), fun h => ?_⟩
      -- the confirmed submission returns the error of the transaction
      rcases h_sim : simulate tryBroadcast signedTx client.mutator world with ⟨result, world'⟩
      rw [h_sim] at h
      cases result with
      | ok _ => cases h
      | error error' =>
        have h_world := simulate_error tryBroadcast (congrArg Prod.fst h_sim)
        exact congrArg Prod.snd (h_sim.symm.trans h_world)

end InPlace

/-- A client whose mutator forgets everything and then fails. -/
def failingClient : TestClient where
  mutator := fun _ _ => (.error .noData, BlokliTestState.default)

/-- The state before is back, and nothing was broadcast. -/
theorem failed_transactions_leave_no_trace_default :
    (simulate (fun event events => events ++ [event]) [] failingClient.mutator
      { state := stateWithAccount 1, channels := ([] : List Event) }).2 =
        { state := stateWithAccount 1, channels := [] } :=
  ((failed_transactions_leave_no_trace (fun event events => events ++ [event]) failingClient
    ⟨List.replicate 32 0, rfl⟩ [] [] [] [] { state := stateWithAccount 1, channels := [] }).1
      .noData rfl).1

end Blokli.Testing
