import BlokliClient.Conversions
import BlokliClient.Responses
import BlokliClient.Testing.Rollback

/-!
# Transactions

A signed transaction goes out as hexadecimal text. The client reads the receipt, or the
tracked transaction, from the union that comes back.

* `NamesReceipt` : a hash is the text of a receipt, up to prefixes and case.
* `submissions_round_trip` : what is sent is the transaction, and a receipt is returned
  exactly when the response is a success whose hash names it.
-/

namespace Blokli

open Testing (Transaction TransactionStatus TxReceipt)

/-! ### Errors -/

/-- Error kinds for transaction tracking failure. -/
inductive TrackingErrorKind
  | reverted
  | timeout
  | submissionFailed
  | validationFailed
  deriving DecidableEq

/-- `ErrorKind`, with the two variants that only the operations on transactions yield. -/
inductive TransactionError
  | kind (kind : ErrorKind)
  | trackingError (kind : TrackingErrorKind)
  /-- A client-side timeout elapsed. -/
  | timeout
  deriving DecidableEq

/-- `From<ContractNotAllowedError>`. -/
def UnionError.contractNotAllowed (e : UnionError) : ErrorKind :=
  .blokliError "contract not allowed".toList e.code e.message

/-- `From<FunctionNotAllowedError>`. -/
def UnionError.functionNotAllowed (e : UnionError) : ErrorKind :=
  .blokliError "function not allowed".toList e.code e.message

/-- `From<RpcError>`. -/
def UnionError.rpcError (e : UnionError) : ErrorKind :=
  .blokliError "rpc error".toList e.code e.message

/-- `From<OverloadedError>`. -/
def UnionError.overloaded (e : UnionError) : ErrorKind :=
  .blokliError "overloaded".toList e.code e.message

/-- `From<TimeoutError>`. -/
def UnionError.timeout (e : UnionError) : ErrorKind :=
  .blokliError "timeout".toList e.code e.message

/-- `From<InvalidTransactionIdError>`. -/
def UnionError.invalidTransactionId (e : UnionError) : ErrorKind :=
  .blokliError "invalid transaction id".toList e.code e.message

/-- `HoprActionRejectedError`, without its code, which nothing reads. -/
structure HoprActionRejectedError where
  message : Text
  operation : Text
  reason : Text

/-- `From<HoprActionRejectedError>`. -/
def HoprActionRejectedError.toErrorKind (e : HoprActionRejectedError) : ErrorKind :=
  .hoprActionRejected e.operation e.reason e.message

/-- `HoprActionThrottledError`, without its code, which nothing reads. -/
structure HoprActionThrottledError where
  message : Text
  operation : Text
  reason : Text
  retryAfterSeconds : Int32

/-- `From<HoprActionThrottledError>`. A negative delay becomes "retry now". -/
def HoprActionThrottledError.toErrorKind (e : HoprActionThrottledError) : ErrorKind :=
  .hoprActionThrottled e.operation e.reason e.retryAfterSeconds.toInt.toNat e.message

/-! ### Hashes -/

/-- The receipt that a transaction hash writes. Of the letters beyond ASCII, `to_lowercase`
maps none to a digit or to `x`. -/
def receiptOf (transactionHash : Text) : Except ErrorKind TxReceipt :=
  let hash := transactionHash.map Char.toLower
  match Hex.decodeHex (Hex.trimHex hash) with
  | none => .error .parseError
  | some bytes => if h : bytes.length = 32 then .ok ⟨bytes, h⟩ else .error .parseError

/-- The hash is the text of the receipt, up to prefixes and case. -/
def NamesReceipt (transactionHash : Text) (receipt : TxReceipt) : Prop :=
  Hex.hexMatches (transactionHash.map Char.toLower) receipt.toList = true

/-- **Receipts.** A hash is read exactly when it names the receipt. -/
theorem receiptOf_ok {hash : Text} {receipt : TxReceipt} :
    receiptOf hash = .ok receipt ↔ NamesReceipt hash receipt := by
  unfold receiptOf NamesReceipt
  rw [Hex.hexMatches_iff, ← Hex.decodeHex_eq_some_iff]
  dsimp only
  cases Hex.decodeHex (Hex.trimHex (hash.map Char.toLower)) with
  -- no hex: neither side holds
  | none => exact ⟨fun h => (by cases h), fun h => (by cases h)⟩
  | some bytes =>
    dsimp only
    constructor
    · intro h
      split at h
      · obtain rfl := Except.ok.inj h
        rfl
      · cases h
    · intro h
      -- the receipt says that there are 32 bytes
      obtain rfl := Option.some.inj h
      exact dif_pos receipt.size

/-! ### Operations -/

structure SendTransactionVariables where
  rawTransaction : Text

structure ConfirmTransactionVariables where
  rawTransaction : Text
  confirmations : Int32

/-- `mutate_submit_transaction`. -/
def mutateSubmitTransaction (signedTx : List UInt8) : SendTransactionVariables where
  rawTransaction := Hex.encodeHex signedTx

/-- `mutate_submit_and_track_transaction`. -/
def mutateSubmitAndTrackTransaction (signedTx : List UInt8) : SendTransactionVariables where
  rawTransaction := Hex.encodeHex signedTx

/-- `mutate_submit_and_confirm_transaction`. -/
def mutateSubmitAndConfirmTransaction (signedTx : List UInt8) (confirmations : ℕ) :
    ConfirmTransactionVariables where
  rawTransaction := Hex.encodeHex signedTx
  confirmations := Int32.ofNat (min confirmations 128)

inductive SendTransactionResult
  | sendTransactionSuccess (transactionHash : Text)
  | contractNotAllowedError (e : UnionError)
  | functionNotAllowedError (e : UnionError)
  | rpcError (e : UnionError)
  | hoprActionRejectedError (e : HoprActionRejectedError)
  | hoprActionThrottledError (e : HoprActionThrottledError)
  | unknown

/-- `From<SendTransactionResult>`. -/
def SendTransactionResult.toResult : SendTransactionResult → Except ErrorKind TxReceipt
  | .sendTransactionSuccess transactionHash => receiptOf transactionHash
  | .contractNotAllowedError e => .error e.contractNotAllowed
  | .functionNotAllowedError e => .error e.functionNotAllowed
  | .rpcError e => .error e.rpcError
  | .hoprActionRejectedError e => .error e.toErrorKind
  | .hoprActionThrottledError e => .error e.toErrorKind
  | .unknown => .error .noData

inductive SendTransactionAsyncResult
  | transaction (transaction : Transaction)
  | contractNotAllowedError (e : UnionError)
  | functionNotAllowedError (e : UnionError)
  | rpcError (e : UnionError)
  | overloadedError (e : UnionError)
  | hoprActionRejectedError (e : HoprActionRejectedError)
  | hoprActionThrottledError (e : HoprActionThrottledError)
  /-- The transaction that already tracks the same action. -/
  | deduplicatedTransaction (transaction : Transaction)
  | unknown

/-- `From<SendTransactionAsyncResult>`. -/
def SendTransactionAsyncResult.toResult : SendTransactionAsyncResult → Except ErrorKind Transaction
  | .transaction t => .ok t
  | .contractNotAllowedError e => .error e.contractNotAllowed
  | .functionNotAllowedError e => .error e.functionNotAllowed
  | .rpcError e => .error e.rpcError
  | .overloadedError e => .error e.overloaded
  | .hoprActionRejectedError e => .error e.toErrorKind
  | .hoprActionThrottledError e => .error e.toErrorKind
  -- nothing was broadcast, and the caller follows the transaction that was
  | .deduplicatedTransaction t => .ok t
  | .unknown => .error .noData

inductive SendTransactionSyncResult
  | transaction (transaction : Transaction)
  | contractNotAllowedError (e : UnionError)
  | functionNotAllowedError (e : UnionError)
  | rpcError (e : UnionError)
  | timeoutError (e : UnionError)
  | hoprActionRejectedError (e : HoprActionRejectedError)
  | hoprActionThrottledError (e : HoprActionThrottledError)
  | unknown

/-- `From<SendTransactionSyncResult>`. -/
def SendTransactionSyncResult.toResult : SendTransactionSyncResult → Except ErrorKind Transaction
  | .transaction t => .ok t
  | .contractNotAllowedError e => .error e.contractNotAllowed
  | .functionNotAllowedError e => .error e.functionNotAllowed
  | .rpcError e => .error e.rpcError
  | .timeoutError e => .error e.timeout
  | .hoprActionRejectedError e => .error e.toErrorKind
  | .hoprActionThrottledError e => .error e.toErrorKind
  | .unknown => .error .noData

inductive TransactionResult
  | transaction (transaction : Transaction)
  | invalidTransactionIdError (e : UnionError)
  | unknown

/-- `From<TransactionResult>`. -/
def TransactionResult.toResult : TransactionResult → Except ErrorKind Transaction
  | .transaction t => .ok t
  | .invalidTransactionIdError e => .error e.invalidTransactionId
  | .unknown => .error .noData

/-- How a request is answered: with a response, or not at all. -/
abbrev Exchange (Variables Q : Type) := Variables → Except ErrorKind (Response Q)

/-- `submit_transaction`. -/
def submitTransaction (exchange : Exchange SendTransactionVariables SendTransactionResult)
    (signedTx : List UInt8) : Except ErrorKind TxReceipt := do
  let resp ← exchange (mutateSubmitTransaction signedTx)
  let sendTransaction ← resp.toData
  sendTransaction.toResult

/-- `submit_and_track_transaction`. -/
def submitAndTrackTransaction
    (exchange : Exchange SendTransactionVariables SendTransactionAsyncResult)
    (signedTx : List UInt8) : Except ErrorKind Text := do
  let resp ← exchange (mutateSubmitAndTrackTransaction signedTx)
  let sendTransactionAsync ← resp.toData
  let tx ← sendTransactionAsync.toResult
  pure tx.id

/-- `submit_and_confirm_transaction`. -/
def submitAndConfirmTransaction
    (exchange : Exchange ConfirmTransactionVariables SendTransactionSyncResult)
    (signedTx : List UInt8) (numConfirmations : ℕ) : Except ErrorKind TxReceipt := do
  let resp ← exchange (mutateSubmitAndConfirmTransaction signedTx numConfirmations)
  let sendTransactionSync ← resp.toData
  let tx ← sendTransactionSync.toResult
  receiptOf tx.transactionHash

/-- `query_transaction_status`. The field is null for an id that is not tracked. -/
def queryTransactionStatus (exchange : Exchange Text (Option TransactionResult)) (txId : Text) :
    Except ErrorKind Transaction := do
  let resp ← exchange txId
  let transaction ← resp.toData
  match transaction with
  | none => .error .noData
  | some result => result.toResult

/-! ### Round trips -/

/-- The request was answered with this data. -/
def Answered {Variables Q : Type} (exchange : Exchange Variables Q) (request : Variables)
    (data : Q) : Prop :=
  ∃ response, exchange request = .ok response ∧ response.data = some data

/-- Success is a hash that names the receipt. -/
theorem SendTransactionResult.toResult_ok {result : SendTransactionResult} {receipt : TxReceipt} :
    result.toResult = .ok receipt ↔
      ∃ hash, result = .sendTransactionSuccess hash ∧ NamesReceipt hash receipt := by
  cases result <;> simp [toResult, receiptOf_ok]

/-- Success is a transaction, new or already tracked. -/
theorem SendTransactionAsyncResult.toResult_ok {result : SendTransactionAsyncResult}
    {tx : Transaction} : result.toResult = .ok tx ↔
      result = .transaction tx ∨ result = .deduplicatedTransaction tx := by
  cases result <;> simp [toResult]

/-- Success is a transaction. -/
theorem SendTransactionSyncResult.toResult_ok {result : SendTransactionSyncResult}
    {tx : Transaction} : result.toResult = .ok tx ↔ result = .transaction tx := by
  cases result <;> simp [toResult]

/-- The text of a transaction, as all three mutations send it, is read back as the
transaction, and the number of confirmations is sent up to 128. -/
theorem mutations_carry (signedTx : List UInt8) (confirmations : ℕ) :
    Hex.decodeHex (mutateSubmitTransaction signedTx).rawTransaction = some signedTx ∧
    Hex.decodeHex (mutateSubmitAndTrackTransaction signedTx).rawTransaction = some signedTx ∧
    Hex.decodeHex (mutateSubmitAndConfirmTransaction signedTx confirmations).rawTransaction =
      some signedTx ∧
    (mutateSubmitAndConfirmTransaction signedTx confirmations).confirmations.toInt =
      (min confirmations 128 : ℕ) := by
  refine ⟨Hex.decodeHex_encodeHex _, Hex.decodeHex_encodeHex _, Hex.decodeHex_encodeHex _, ?_⟩
  -- the number fits, whatever was asked for
  have h_small : min confirmations 128 ≤ 128 := Nat.min_le_right ..
  exact Int32.toInt_ofNat_of_lt (by omega)

/-- **Submissions.** What is sent is the transaction. An operation succeeds exactly when the
answer is a success: a hash that names the receipt, a transaction that has the id, or the
confirmed transaction, whose hash names the receipt. A hash names one receipt only. -/
theorem submissions_round_trip (signedTx : List UInt8) (confirmations : ℕ)
    (send : Exchange SendTransactionVariables SendTransactionResult)
    (track : Exchange SendTransactionVariables SendTransactionAsyncResult)
    (confirm : Exchange ConfirmTransactionVariables SendTransactionSyncResult) :
    (Hex.decodeHex (mutateSubmitTransaction signedTx).rawTransaction = some signedTx ∧
      ∀ receipt, submitTransaction send signedTx = .ok receipt ↔
        ∃ hash, Answered send (mutateSubmitTransaction signedTx) (.sendTransactionSuccess hash) ∧
          NamesReceipt hash receipt) ∧
    (Hex.decodeHex (mutateSubmitAndTrackTransaction signedTx).rawTransaction = some signedTx ∧
      ∀ txId, submitAndTrackTransaction track signedTx = .ok txId ↔
        ∃ tx, tx.id = txId ∧
          (Answered track (mutateSubmitAndTrackTransaction signedTx) (.transaction tx) ∨
            Answered track (mutateSubmitAndTrackTransaction signedTx)
              (.deduplicatedTransaction tx))) ∧
    (Hex.decodeHex (mutateSubmitAndConfirmTransaction signedTx confirmations).rawTransaction =
        some signedTx ∧
      (mutateSubmitAndConfirmTransaction signedTx confirmations).confirmations.toInt =
        (min confirmations 128 : ℕ) ∧
      ∀ receipt, submitAndConfirmTransaction confirm signedTx confirmations = .ok receipt ↔
        ∃ tx, Answered confirm (mutateSubmitAndConfirmTransaction signedTx confirmations)
            (.transaction tx) ∧
          NamesReceipt tx.transactionHash receipt) ∧
    ∀ hash receipt receipt', NamesReceipt hash receipt → NamesReceipt hash receipt' →
      receipt = receipt' := by
  obtain ⟨h_send, h_track, h_confirm, h_count⟩ := mutations_carry signedTx confirmations
  refine ⟨⟨h_send, fun receipt => ?_⟩, ⟨h_track, fun txId => ?_⟩,
    ⟨h_confirm, h_count, fun receipt => ?_⟩, fun hash receipt receipt' h h' => ?_⟩
  · -- the hash the server names, decoded
    unfold submitTransaction
    simp only [except_bind_ok, toData_eq_ok, SendTransactionResult.toResult_ok]
    constructor
    · rintro ⟨response, h_response, result, h_data, hash, rfl, h_names⟩
      exact ⟨hash, ⟨response, h_response, h_data⟩, h_names⟩
    · rintro ⟨hash, ⟨response, h_response, h_data⟩, h_names⟩
      exact ⟨response, h_response, _, h_data, hash, rfl, h_names⟩
  · -- the id of the transaction the server tracks
    unfold submitAndTrackTransaction
    simp only [except_bind_ok, toData_eq_ok, SendTransactionAsyncResult.toResult_ok]
    constructor
    · -- a duplicate is answered with the transaction that was there
      rintro ⟨response, h_response, result, h_data, tx, h_tx, h_id⟩
      refine ⟨tx, Except.ok.inj h_id, ?_⟩
      rcases h_tx with rfl | rfl
      · exact Or.inl ⟨response, h_response, h_data⟩
      · exact Or.inr ⟨response, h_response, h_data⟩
    · rintro ⟨tx, rfl, ⟨response, h_response, h_data⟩ | ⟨response, h_response, h_data⟩⟩
      · exact ⟨response, h_response, _, h_data, tx, Or.inl rfl, rfl⟩
      · exact ⟨response, h_response, _, h_data, tx, Or.inr rfl, rfl⟩
  · -- the hash of the transaction that was confirmed
    unfold submitAndConfirmTransaction
    simp only [except_bind_ok, toData_eq_ok, SendTransactionSyncResult.toResult_ok, receiptOf_ok]
    constructor
    · rintro ⟨response, h_response, result, h_data, tx, rfl, h_names⟩
      exact ⟨tx, ⟨response, h_response, h_data⟩, h_names⟩
    · rintro ⟨tx, ⟨response, h_response, h_data⟩, h_names⟩
      exact ⟨response, h_response, _, h_data, tx, rfl, h_names⟩
  · -- a hash is named by one receipt only
    exact Bytes.ext_toList (Hex.hexMatches_unique h h')

end Blokli
