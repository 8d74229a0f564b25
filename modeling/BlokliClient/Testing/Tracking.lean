import BlokliClient.Testing.Rollback
import BlokliClient.Transactions

/-!
# The in-memory client: tracked transactions

A tracked submission leaves a record under the id that it draws. The record is taken
out by the call that tracks the transaction, or subscribes to it, and is what both of
them answer from.

* `lookup_perform` : what one call does to the record of an id.
* `tracked_once` : the record of a submission is there for the calls that follow, until
  it is taken, and nobody else gets it.
-/

namespace Blokli.Testing

namespace IndexMap

variable {κ α : Type} [DecidableEq κ]

theorem dlookup_kreplace {k k' : κ} {v : α} {l : List (Sigma fun _ : κ => α)} (h : k ∈ l.keys) :
    (l.kreplace k v).dlookup k' = if k' = k then some v else l.dlookup k' := by
  induction l with
  | nil => exact absurd h List.not_mem_nil
  | cons entry l ih =>
    obtain ⟨k₀, v₀⟩ := entry
    -- the entry in front is replaced, or one behind it
    by_cases h_head : k = k₀
    · subst h_head
      have h_replace : List.kreplace k v (⟨k, v₀⟩ :: l) = ⟨k, v⟩ :: l :=
        List.lookmap_cons_some _ l (if_pos rfl)
      rw [h_replace]
      by_cases h_key : k' = k
      · rw [if_pos h_key, h_key, List.dlookup_cons_eq]
      · rw [if_neg h_key, List.dlookup_cons_ne _ _ h_key, List.dlookup_cons_ne _ _ h_key]
    · have h_replace : List.kreplace k v (⟨k₀, v₀⟩ :: l) = ⟨k₀, v₀⟩ :: List.kreplace k v l :=
        List.lookmap_cons_none _ l (if_neg h_head)
      have h_tail : k ∈ l.keys := by
        rcases List.mem_cons.mp h with h_eq | h_tail
        · exact absurd h_eq h_head
        · exact h_tail
      rw [h_replace]
      by_cases h_key : k' = k₀
      · subst h_key
        rw [List.dlookup_cons_eq, List.dlookup_cons_eq, if_neg (Ne.symm h_head)]
      · rw [List.dlookup_cons_ne _ _ h_key, List.dlookup_cons_ne _ _ h_key, ih h_tail]

/-- An insertion sets the value of its key. -/
theorem lookup_insert (m : IndexMap κ α) (k k' : κ) (v : α) :
    AList.lookup k' (m.insert k v) = if k' = k then some v else AList.lookup k' m := by
  unfold insert
  split
  · next h_mem => exact dlookup_kreplace (AList.mem_keys.mp h_mem)
  · next h_mem =>
    change List.dlookup k' (m.entries ++ [⟨k, v⟩]) = _
    rw [List.dlookup_append]
    by_cases h_key : k' = k
    · subst h_key
      have h_none : List.dlookup k' m.entries = none :=
        List.dlookup_eq_none.mpr fun h => h_mem (AList.mem_keys.mpr h)
      rw [h_none, if_pos rfl, List.dlookup_cons_eq]
      rfl
    · rw [if_neg h_key, List.dlookup_cons_ne _ _ h_key, List.dlookup_nil, Option.or_none]
      rfl

end IndexMap

/-! ### Calls -/

/-- What `track_transaction` reports of a record. -/
def trackedResult (tx : Transaction) : Except TransactionError Transaction :=
  match tx.status with
  | .confirmed => .ok tx
  | .timeout => .error (.trackingError .timeout)
  | .submissionFailed => .error (.trackingError .submissionFailed)
  | .validationFailed => .error (.trackingError .validationFailed)
  | .reverted => .error (.trackingError .reverted)
  | _ => .error (.kind (.mockClientError (.message "unexpected transaction status".toList)))

section Calls

variable {σ : Type} (tryBroadcast : Event → σ → σ)

/-- `active_txs.shift_remove`. -/
def World.take (world : World σ) (txId : Text) : Option Transaction × World σ :=
  (world.state.activeTxs.lookup txId, { world with
    state := { world.state with activeTxs := world.state.activeTxs.erase txId } })

/-- `track_transaction`, once it has slept. -/
def trackTransaction (txId : Text) (world : World σ) :
    Except TransactionError Transaction × World σ :=
  match world.take txId with
  | (none, world) => (.error (.kind .noData), world)
  | (some tx, world) => (trackedResult tx, world)

/-- `subscribe_track_transaction`: the one item of its stream. -/
def subscribeTrackTransaction (txId : Text) (world : World σ) :
    Except ErrorKind Transaction × World σ :=
  match world.take txId with
  | (none, world) => (.error .noData, world)
  | (some tx, world) => (.ok tx, world)

/-- `query_transaction_status`. -/
def queryTransactionStatus (txId : Text) (state : BlokliTestState) : Except ErrorKind Transaction :=
  match state.activeTxs.lookup txId with
  | none => .error .noData
  | some tx => .ok tx

/-- The calls that read or write records of transactions. -/
inductive TxCall
  | submit (client : TestClient) (txReceipt : TxReceipt) (signedTx : List UInt8)
  | submitAndTrack (client : TestClient) (txId txHash submittedAt : Text) (signedTx : List UInt8)
  | submitAndConfirm (client : TestClient) (txReceipt : TxReceipt) (signedTx : List UInt8)
  | track (txId : Text)
  | subscribeTrack (txId : Text)
  | queryStatus (txId : Text)

/-- A call leaves the world behind that the next one finds. Each holds the lock once. -/
def TxCall.perform (world : World σ) : TxCall → World σ
  | .submit client txReceipt signedTx =>
    (submitTransaction tryBroadcast client txReceipt signedTx world).2
  | .submitAndTrack client txId txHash submittedAt signedTx =>
    (submitAndTrackTransaction tryBroadcast client txId txHash submittedAt signedTx world).2
  | .submitAndConfirm client txReceipt signedTx =>
    (submitAndConfirmTransaction tryBroadcast client txReceipt signedTx world).2
  | .track txId => (trackTransaction txId world).2
  | .subscribeTrack txId => (subscribeTrackTransaction txId world).2
  | .queryStatus _ => world

/-- A run of calls. -/
def World.after (world : World σ) (calls : List TxCall) : World σ :=
  calls.foldl (TxCall.perform tryBroadcast) world

/-- The mutator of the call leaves the record of the id alone. -/
def TxCall.Spares (txId : Text) : TxCall → Prop
  | .submit client _ signedTx | .submitAndTrack client _ _ _ signedTx
  | .submitAndConfirm client _ signedTx => ∀ state,
    (client.mutator signedTx state).2.activeTxs.lookup txId = state.activeTxs.lookup txId
  | _ => True

/-- The call draws the id for its own record. -/
def TxCall.records (txId : Text) : TxCall → Bool
  | .submitAndTrack _ txId' _ _ _ => decide (txId' = txId)
  | _ => false

/-- The call takes the record of the id. -/
def TxCall.takes (txId : Text) : TxCall → Bool
  | .track txId' | .subscribeTrack txId' => decide (txId' = txId)
  | _ => false

/-! ### Records -/

variable {tryBroadcast} {world : World σ} {txId : Text}

theorem sendAll_state (events : List Event) :
    (world.sendAll tryBroadcast events).state = world.state := by
  induction events generalizing world with
  | nil => rfl
  | cons event events ih => exact ih

/-- A transaction leaves the records to its mutator. -/
theorem lookup_simulate {signedTx : List UInt8} {client : TestClient}
    (h : ∀ state, (client.mutator signedTx state).2.activeTxs.lookup txId =
      state.activeTxs.lookup txId) :
    (simulate tryBroadcast signedTx client.mutator world).2.state.activeTxs.lookup txId =
      world.state.activeTxs.lookup txId := by
  cases h_result : (simulate tryBroadcast signedTx client.mutator world).1 with
  | error error => rw [simulate_error tryBroadcast h_result]
  | ok _ =>
    rw [simulate_eq] at h_result ⊢
    rcases simulateTxExecution_cases signedTx world.state client.mutator with ⟨error, h_error⟩ |
      ⟨state', h_mutator, -, h_ok⟩
    · rw [h_error] at h_result
      cases h_result
    · rw [h_ok]
      dsimp only
      rw [sendAll_state, ← h world.state, h_mutator]

theorem lookup_take (txId' : Text) : (world.take txId').2.state.activeTxs.lookup txId =
    if txId' = txId then none else world.state.activeTxs.lookup txId := by
  unfold World.take
  dsimp only
  split
  · next h_eq =>
    rw [h_eq]
    exact AList.lookup_erase (a := txId) (s := world.state.activeTxs)
  · next h_ne => exact AList.lookup_erase_ne (Ne.symm h_ne)

theorem track_world (txId' : Text) :
    (trackTransaction txId' world).2 = (world.take txId').2 ∧
      (subscribeTrackTransaction txId' world).2 = (world.take txId').2 := by
  unfold trackTransaction subscribeTrackTransaction
  rcases world.take txId' with ⟨_ | tx, world'⟩ <;> exact ⟨rfl, rfl⟩

/-- **One call.** A record stays unless the call draws its id, or takes it. -/
theorem lookup_perform {call : TxCall} (h_spares : call.Spares txId)
    (h_records : call.records txId = false) :
    (call.perform tryBroadcast world).state.activeTxs.lookup txId =
      if call.takes txId then none else world.state.activeTxs.lookup txId := by
  cases call with
  | submit client txReceipt signedTx =>
    change (submitTransaction tryBroadcast client txReceipt signedTx world).2.state.activeTxs.lookup
      txId = world.state.activeTxs.lookup txId
    -- a rejected policy leaves the world as it is
    unfold submitTransaction
    split
    · rfl
    · exact lookup_simulate h_spares
  | submitAndTrack client txId' txHash submittedAt signedTx =>
    -- the record that it inserts has another id
    have h_ne : txId ≠ txId' := fun h_eq => of_decide_eq_false h_records h_eq.symm
    change (submitAndTrackTransaction tryBroadcast client txId' txHash submittedAt signedTx
      world).2.state.activeTxs.lookup txId = world.state.activeTxs.lookup txId
    unfold submitAndTrackTransaction
    split
    · rfl
    · dsimp only
      rw [IndexMap.lookup_insert, if_neg h_ne]
      exact lookup_simulate h_spares
  | submitAndConfirm client txReceipt signedTx =>
    change (submitAndConfirmTransaction tryBroadcast client txReceipt signedTx
      world).2.state.activeTxs.lookup txId = world.state.activeTxs.lookup txId
    unfold submitAndConfirmTransaction
    split
    · rfl
    · -- whether it succeeds or fails, the simulation decides about the state
      have h_lookup : (simulate tryBroadcast signedTx client.mutator
          world).2.state.activeTxs.lookup txId = world.state.activeTxs.lookup txId :=
        lookup_simulate h_spares
      rcases h_sim : simulate tryBroadcast signedTx client.mutator world with ⟨_ | _, world'⟩
      · rw [h_sim] at h_lookup
        exact h_lookup
      · rw [h_sim] at h_lookup
        exact h_lookup
  -- the call that takes records out takes its own
  | track txId' =>
    change (trackTransaction txId' world).2.state.activeTxs.lookup txId = _
    rw [(track_world txId').1, lookup_take]
    exact (if_congr (decide_eq_true_iff (p := txId' = txId)) rfl rfl).symm
  | subscribeTrack txId' =>
    change (subscribeTrackTransaction txId' world).2.state.activeTxs.lookup txId = _
    rw [(track_world txId').2, lookup_take]
    exact (if_congr (decide_eq_true_iff (p := txId' = txId)) rfl rfl).symm
  | queryStatus _ => rfl

/-- Calls that spare the record and do not draw its id take it, or leave it. -/
theorem lookup_after {calls : List TxCall}
    (h : ∀ call ∈ calls, call.Spares txId ∧ call.records txId = false) :
    (world.after tryBroadcast calls).state.activeTxs.lookup txId =
      if calls.any (TxCall.takes txId) then none else world.state.activeTxs.lookup txId := by
  induction calls generalizing world with
  | nil => rfl
  | cons call calls ih =>
    obtain ⟨h_spares, h_records⟩ := h call List.mem_cons_self
    change
      ((call.perform tryBroadcast world).after tryBroadcast calls).state.activeTxs.lookup txId = _
    rw [ih fun call' h_mem => h call' (List.mem_cons_of_mem _ h_mem),
      lookup_perform h_spares h_records, List.any_cons]
    cases call.takes txId <;> cases calls.any (TxCall.takes txId) <;> rfl

/-- What the three calls say about an id is what its record says. -/
theorem answers_of_lookup {record : Option Transaction}
    (h : world.state.activeTxs.lookup txId = record) :
    queryTransactionStatus txId world.state = record.elim (.error .noData) .ok ∧
    (subscribeTrackTransaction txId world).1 = record.elim (.error .noData) .ok ∧
    (trackTransaction txId world).1 = record.elim (.error (.kind .noData)) trackedResult := by
  unfold queryTransactionStatus subscribeTrackTransaction trackTransaction World.take
  rw [h]
  cases record <;> exact ⟨rfl, rfl, rfl⟩

variable (tryBroadcast) in
/-- The record that a tracked submission leaves. -/
def recordOf (client : TestClient) (txId txHash submittedAt : Text) (signedTx : List UInt8)
    (world : World σ) : Transaction :=
  trackedTransaction client txId txHash submittedAt
    ((simulate tryBroadcast signedTx client.mutator world).1.map fun () => [])

/-- The transaction was accepted, or failed inside its safe. -/
def Accepted (client : TestClient) (result : Except ErrorKind Unit) : Prop :=
  result = .ok () ∨
    client.useInternalTxs = true ∧ ∃ reason, result = .error (.mockClientError (.internalTx reason))

variable (tryBroadcast world txId) in
/-- A record is confirmed, or reverted. -/
theorem trackedResult_recordOf (client : TestClient) (txHash submittedAt : Text)
    (signedTx : List UInt8) :
    (Accepted client (simulate tryBroadcast signedTx client.mutator world).1 →
      trackedResult (recordOf tryBroadcast client txId txHash submittedAt signedTx world) =
        .ok (recordOf tryBroadcast client txId txHash submittedAt signedTx world)) ∧
    (¬ Accepted client (simulate tryBroadcast signedTx client.mutator world).1 →
      trackedResult (recordOf tryBroadcast client txId txHash submittedAt signedTx world) =
        .error (.trackingError .reverted)) := by
  unfold recordOf Accepted
  generalize (simulate tryBroadcast signedTx client.mutator world).1 = result
  obtain ⟨mutator, useInternalTxs, policyOutcome⟩ := client
  -- whether the error is the failure of an internal transaction
  have h_failed : ∀ error, (∀ reason, error ≠ .mockClientError (.internalTx reason)) →
      ((Except.error error : Except ErrorKind Unit) = .ok () ∨ useInternalTxs = true ∧
        ∃ reason, (Except.error error : Except ErrorKind Unit) =
          .error (.mockClientError (.internalTx reason))) → False := by
    rintro error h_not (h_ok | ⟨-, reason, h_error⟩)
    · cases h_ok
    · exact h_not reason (Except.error.inj h_error)
  -- the record reads as success in two cases
  cases result with
  | ok _ => exact ⟨fun _ => rfl, fun h => absurd (Or.inl rfl) h⟩
  | error error =>
    cases error with
    | mockClientError mock =>
      cases mock with
      | message message =>
        refine ⟨fun h => (h_failed _ (fun _ h_eq => (by cases h_eq)) h).elim, fun _ => ?_⟩
        cases useInternalTxs <;> rfl
      | internalTx reason =>
        cases useInternalTxs with
        | true => exact ⟨fun _ => rfl, fun h => absurd (Or.inr ⟨rfl, reason, rfl⟩) h⟩
        | false =>
          refine ⟨fun h => ?_, fun _ => rfl⟩
          rcases h with h_ok | ⟨h_internal, -⟩
          · cases h_ok
          · cases h_internal
    | _ =>
      refine ⟨fun h => (h_failed _ (fun _ h_eq => (by cases h_eq)) h).elim, fun _ => ?_⟩
      cases useInternalTxs <;> rfl

variable (tryBroadcast txId) in
/-- **Tracked once.** Whatever calls come between, as long as they leave the record alone, a
tracked submission is reported from its record: confirmed when the transaction was accepted,
or failed inside its safe, and reverted otherwise. Who tracks it takes the record, and every
later call finds none, until the id is drawn again. -/
theorem tracked_once (client : TestClient) (txHash submittedAt : Text) (signedTx : List UInt8)
    (world : World σ) (between later : List TxCall) (h_policy : client.policyOutcome = none)
    (h_between : ∀ call ∈ between, call.Spares txId ∧ call.records txId = false)
    (h_untaken : ∀ call ∈ between, call.takes txId = false)
    (h_later : ∀ call ∈ later, call.Spares txId ∧ call.records txId = false) :
    ∃ tx submitted, submitAndTrackTransaction tryBroadcast client txId txHash submittedAt signedTx
        world = (.ok txId, submitted) ∧ tx.id = txId ∧ tx.transactionHash = txHash ∧
      (Accepted client (simulate tryBroadcast signedTx client.mutator world).1 →
        trackedResult tx = .ok tx) ∧
      (¬ Accepted client (simulate tryBroadcast signedTx client.mutator world).1 →
        trackedResult tx = .error (.trackingError .reverted)) ∧
      queryTransactionStatus txId (submitted.after tryBroadcast between).state = .ok tx ∧
      (trackTransaction txId (submitted.after tryBroadcast between)).1 = trackedResult tx ∧
      (subscribeTrackTransaction txId (submitted.after tryBroadcast between)).1 = .ok tx ∧
      ∀ taken, taken = (trackTransaction txId (submitted.after tryBroadcast between)).2 ∨
          taken = (subscribeTrackTransaction txId (submitted.after tryBroadcast between)).2 →
        queryTransactionStatus txId (taken.after tryBroadcast later).state = .error .noData ∧
        (trackTransaction txId (taken.after tryBroadcast later)).1 = .error (.kind .noData) ∧
        (subscribeTrackTransaction txId (taken.after tryBroadcast later)).1 = .error .noData := by
  obtain ⟨h_accepted, h_reverted⟩ :=
    trackedResult_recordOf tryBroadcast world txId client txHash submittedAt signedTx
  have h_submit : ∃ submitted, submitAndTrackTransaction tryBroadcast client txId txHash submittedAt
      signedTx world = (.ok txId, submitted) ∧ submitted.state.activeTxs.lookup txId =
        some (recordOf tryBroadcast client txId txHash submittedAt signedTx world) := by
    refine ⟨(submitAndTrackTransaction tryBroadcast client txId txHash submittedAt signedTx
      world).2, ?_, ?_⟩
    · unfold submitAndTrackTransaction
      rw [h_policy]
    · unfold submitAndTrackTransaction
      rw [h_policy]
      dsimp only
      rw [IndexMap.lookup_insert, if_pos rfl]
      rfl
  obtain ⟨submitted, h_submitted, h_record⟩ := h_submit
  -- the record is there for the calls between
  have h_kept : (submitted.after tryBroadcast between).state.activeTxs.lookup txId =
      some (recordOf tryBroadcast client txId txHash submittedAt signedTx world) := by
    have h_none : between.any (TxCall.takes txId) = false :=
      List.any_eq_false.mpr fun call h_mem => by
        rw [h_untaken call h_mem]
        exact Bool.false_ne_true
    rw [lookup_after h_between, h_none]
    exact h_record
  obtain ⟨h_status, h_stream, h_track⟩ := answers_of_lookup h_kept
  refine ⟨_, submitted, h_submitted, rfl, rfl, h_accepted, h_reverted, h_status, h_track, h_stream,
    fun taken h_taken => ?_⟩
  -- either way of tracking removes the record, and no later call brings it back
  have h_gone : taken.state.activeTxs.lookup txId = none := by
    have h_take : taken = ((submitted.after tryBroadcast between).take txId).2 := by
      rcases h_taken with rfl | rfl
      · exact (track_world txId).1
      · exact (track_world txId).2
    rw [h_take, lookup_take, if_pos rfl]
  have h_later' : (taken.after tryBroadcast later).state.activeTxs.lookup txId = none := by
    rw [lookup_after h_later, h_gone, ite_self]
  obtain ⟨h_status', h_stream', h_track'⟩ := answers_of_lookup h_later'
  exact ⟨h_status', h_track', h_stream'⟩

end Calls

/-- A client whose transactions do nothing. -/
def idleClient : TestClient where
  mutator := fun _ state => (.ok (), state)

/-- The theorem at a submission that is tracked after its status was queried. -/
theorem tracked_once_idle : ∃ tx submitted,
    submitAndTrackTransaction (fun _ _ => ()) idleClient "a1".toList "b2".toList [] [7]
      { state := BlokliTestState.default, channels := () } = (.ok "a1".toList, submitted) ∧
    (trackTransaction "a1".toList (submitted.after (fun _ _ => ())
      [.queryStatus "a1".toList,
        .submit idleClient ⟨List.replicate 32 0, rfl⟩ [8]])).1 = .ok tx := by
  have h_between : ∀ call ∈ [TxCall.queryStatus "a1".toList,
      .submit idleClient ⟨List.replicate 32 0, rfl⟩ [8]], call.Spares "a1".toList ∧
        call.records "a1".toList = false ∧ call.takes "a1".toList = false := by
    intro call h_mem
    rcases List.mem_cons.mp h_mem with rfl | h_mem
    · exact ⟨trivial, rfl, rfl⟩
    · obtain rfl := List.mem_singleton.mp h_mem
      exact ⟨fun _ => rfl, rfl, rfl⟩
  obtain ⟨tx, submitted, h_submitted, -, -, h_accepted, -, -, h_track, -⟩ :=
    tracked_once (fun _ _ => ()) "a1".toList idleClient "b2".toList [] [7]
      { state := BlokliTestState.default, channels := () } _ [] rfl
      (fun call h_mem => ⟨(h_between call h_mem).1, (h_between call h_mem).2.1⟩)
      (fun call h_mem => (h_between call h_mem).2.2) fun _ h_mem => absurd h_mem List.not_mem_nil
  exact ⟨tx, submitted, h_submitted, h_track.trans (h_accepted (Or.inl rfl))⟩

end Blokli.Testing
