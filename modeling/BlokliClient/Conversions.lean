import BlokliClient.Channels

/-!
# Numbers at the boundary of the API

Key ids are `u32` in the selectors and `Int` in GraphQL, counts are `Int` in GraphQL and
`u32` in the results. Both are converted with `as`, which keeps the bits.

* `conversions_preserve_iff` : a key id is sent as itself exactly when it is below
  `2^31`, and a count is returned as itself exactly when it is not negative.
-/

namespace Blokli

/-! ### Casts -/

/-- The cast keeps the small numbers. -/
theorem toInt_toInt32_iff {k : UInt32} : k.toInt32.toInt = (k.toNat : ℤ) ↔ k.toNat < 2 ^ 31 := by
  -- both sides as bit vectors of 32 bits
  have h_cast : k.toInt32.toInt = k.toBitVec.toInt := rfl
  have h_nat : k.toNat = k.toBitVec.toNat := rfl
  have h_lt := k.toBitVec.isLt
  rw [h_cast, h_nat, BitVec.toInt_eq_toNat_cond]
  -- the sign bit is clear, or set
  split
  · omega
  · omega

/-- The cast back keeps the numbers that are not negative. -/
theorem toNat_toUInt32_iff {n : Int32} : (n.toUInt32.toNat : ℤ) = n.toInt ↔ 0 ≤ n.toInt := by
  -- both sides as bit vectors of 32 bits
  have h_cast : n.toInt = n.toUInt32.toBitVec.toInt := rfl
  have h_nat : n.toUInt32.toNat = n.toUInt32.toBitVec.toNat := rfl
  have h_lt := n.toUInt32.toBitVec.isLt
  rw [h_cast, h_nat, BitVec.toInt_eq_toNat_cond]
  -- the sign bit is clear, or set
  split
  · omega
  · omega

/-! ### Accounts -/

structure AccountVariables where
  keyid : Option Int32 := none
  packetKey : Option Text := none
  chainKey : Option Text := none

/-- `From<AccountSelector>`. -/
def AccountVariables.ofSelector : AccountSelector → AccountVariables
  | .keyId keyid => { keyid := some keyid.toInt32 }
  | .address address => { chainKey := some address.encodeHex }
  | .packetKey packetKey => { packetKey := some packetKey.encodeHex }
  | .any => {}

namespace GraphQlQueries

/-- The variables of `count_accounts`. -/
def countAccounts (selector : AccountSelector) : AccountVariables := .ofSelector selector

def queryAccounts (selector : AccountSelector) : AccountVariables := .ofSelector selector

def subscribeAccounts (selector : AccountSelector) : AccountVariables := .ofSelector selector

end GraphQlQueries

/-! ### Counts -/

/-- An error that a union field of GraphQL carries. -/
structure UnionError where
  code : Text
  message : Text

/-- `CountResult`. -/
inductive CountResult
  | count (count : Int32)
  | missingFilterError (e : UnionError)
  | queryFailedError (e : UnionError)
  | unknown

/-- `From<MissingFilterError>`. -/
def UnionError.missingFilter (e : UnionError) : ErrorKind :=
  .blokliError "missing filter".toList e.code e.message

/-- `From<QueryFailedError>`. -/
def UnionError.queryFailed (e : UnionError) : ErrorKind :=
  .blokliError "query failed".toList e.code e.message

/-- `From<CountResult>`. -/
def CountResult.toResult : CountResult → Except ErrorKind UInt32
  | .count n => .ok n.toUInt32
  | .missingFilterError e => .error e.missingFilter
  | .queryFailedError e => .error e.queryFailed
  | .unknown => .error .noData

/-! ### What is preserved -/

/-- The key id of an account selector. -/
def AccountSelector.keyIds : AccountSelector → Option KeyId
  | .keyId id => some id
  | _ => none

def ChannelFilter.destinationKeyIds : ChannelFilter → Option KeyId
  | .destinationKeyId dst => some dst
  | .sourceAndDestinationKeyIds _ dst => some dst
  | _ => none

def ChannelFilter.sourceKeyIds : ChannelFilter → Option KeyId
  | .sourceKeyId src => some src
  | .sourceAndDestinationKeyIds src _ => some src
  | _ => none

/-- The `Int` that is sent for a key id is that key id. -/
def SentAs (sent : Option Int32) (id : Option KeyId) : Prop :=
  sent.map Int32.toInt = id.map fun k => (k.toNat : ℤ)

/-- The key id is below `2^31`. -/
def Fits (id : Option KeyId) : Prop := ∀ k ∈ id, k.toNat < 2 ^ 31

/-- A key id is sent as it is when it fits. -/
theorem sentAs_toInt32_iff (id : Option KeyId) : SentAs (id.map UInt32.toInt32) id ↔ Fits id := by
  unfold SentAs Fits
  -- an id that is not given is not sent
  cases id with
  | none => exact ⟨fun _ k h_k => (by cases h_k), fun _ => rfl⟩
  | some k =>
    rw [Option.map_some, Option.map_some, Option.map_some, Option.some_inj, toInt_toInt32_iff]
    constructor
    · rintro h k' h_k'
      obtain rfl := Option.some.inj h_k'
      exact h
    · exact fun h => h k rfl

/-- An operation sends the key ids of the selector. -/
def SendsKeyIds (operation : ChannelSelector → Except ErrorKind ChannelArguments)
    (selector : ChannelSelector) : Prop :=
  ∀ arguments, operation selector = .ok arguments →
    SentAs arguments.destinationKeyId (selector.filter.bind ChannelFilter.destinationKeyIds) ∧
    SentAs arguments.sourceKeyId (selector.filter.bind ChannelFilter.sourceKeyIds)

/-- The account operations that a selector is the input of. -/
def accountOperations : List (AccountSelector → AccountVariables) :=
  [GraphQlQueries.countAccounts, GraphQlQueries.queryAccounts, GraphQlQueries.subscribeAccounts]

/-- The account operations send the key id of the selector, cast. -/
theorem mem_accountOperations {operation : AccountSelector → AccountVariables}
    (h : operation ∈ accountOperations) (selector : AccountSelector) :
    (operation selector).keyid = selector.keyIds.map UInt32.toInt32 := by
  simp only [accountOperations, List.mem_cons, List.not_mem_nil, or_false] at h
  rcases h with rfl | rfl | rfl
  all_goals cases selector <;> rfl

/-- The channel operations that a selector is the input of. -/
def channelOperations : List (ChannelSelector → Except ErrorKind ChannelArguments) :=
  [GraphQlQueries.queryChannels, GraphQlQueries.subscribeChannels,
    GraphQlQueries.queryChannelCount, GraphQlQueries.queryChannelStats]

/-- The channel operations send the key ids of the selector as they were cast, and fail
for a status that cannot be sent. -/
theorem mem_channelOperations {operation : ChannelSelector → Except ErrorKind ChannelArguments}
    (h : operation ∈ channelOperations) (selector : ChannelSelector) :
    ∃ arguments : ChannelArguments, operation selector =
        (if selector.status = some .unknown then .error .serialization else .ok arguments) ∧
      arguments.destinationKeyId =
        (selector.filter.bind ChannelFilter.destinationKeyIds).map UInt32.toInt32 ∧
      arguments.sourceKeyId =
        (selector.filter.bind ChannelFilter.sourceKeyIds).map UInt32.toInt32 := by
  obtain ⟨filter, status, safeAddress⟩ := selector
  simp only [channelOperations, List.mem_cons, List.not_mem_nil, or_false] at h
  -- the four operations build the arguments in the same way
  rcases h with rfl | rfl | rfl | rfl
  all_goals
    cases filter with
    | none => exact ⟨_, rfl, rfl, rfl⟩
    | some filter => cases filter <;> exact ⟨_, rfl, rfl, rfl⟩

/-- A channel operation sends both key ids as they are when they fit. -/
theorem sendsKeyIds_iff {operation : ChannelSelector → Except ErrorKind ChannelArguments}
    (h : operation ∈ channelOperations) (selector : ChannelSelector) :
    SendsKeyIds operation selector ↔ selector.status = some .unknown ∨
      Fits (selector.filter.bind ChannelFilter.destinationKeyIds) ∧
        Fits (selector.filter.bind ChannelFilter.sourceKeyIds) := by
  obtain ⟨arguments, h_operation, h_destination, h_source⟩ := mem_channelOperations h selector
  unfold SendsKeyIds
  rw [h_operation]
  -- an unknown status is refused before anything is sent
  by_cases h_status : selector.status = some .unknown
  · rw [if_pos h_status]
    exact ⟨fun _ => Or.inl h_status, fun _ _ h_error => (by cases h_error)⟩
  · rw [if_neg h_status]
    -- otherwise both ids are sent, as far as they are given
    constructor
    · intro h_sends
      obtain ⟨h_dst, h_src⟩ := h_sends arguments rfl
      rw [h_destination, sentAs_toInt32_iff] at h_dst
      rw [h_source, sentAs_toInt32_iff] at h_src
      exact Or.inr ⟨h_dst, h_src⟩
    · rintro h_fits arguments' h_ok
      obtain rfl := Except.ok.inj h_ok
      obtain ⟨h_dst, h_src⟩ := h_fits.resolve_left h_status
      rw [h_destination, h_source, sentAs_toInt32_iff, sentAs_toInt32_iff]
      exact ⟨h_dst, h_src⟩

/-- **Conversions keep the number in half of the range.**
* An account operation sends the key id of its selector exactly when it is below `2^31`.
* So does each channel operation that is built, for the key ids of its filter.
* A count that the server returned is the count of the client exactly when it is not
  negative. -/
theorem conversions_preserve_iff (account : AccountSelector) (channel : ChannelSelector)
    (count : Int32) :
    (∀ operation ∈ accountOperations,
      SentAs (operation account).keyid account.keyIds ↔ Fits account.keyIds) ∧
    (∀ operation ∈ channelOperations, SendsKeyIds operation channel ↔
      channel.status = some .unknown ∨
        Fits (channel.filter.bind ChannelFilter.destinationKeyIds) ∧
          Fits (channel.filter.bind ChannelFilter.sourceKeyIds)) ∧
    ((∀ n, (CountResult.count count).toResult = .ok n → (n.toNat : ℤ) = count.toInt) ↔
      0 ≤ count.toInt) := by
  refine ⟨fun operation h => ?_, fun operation h => sendsKeyIds_iff h channel, ?_⟩
  · rw [mem_accountOperations h]
    exact sentAs_toInt32_iff _
  · rw [← toNat_toUInt32_iff]
    constructor
    · exact fun h => h _ rfl
    · rintro h n h_ok
      obtain rfl := Except.ok.inj h_ok
      exact h

/-- The key id `2^31` of an account is sent as a negative number, and the count `-1` is
returned as `2^32 - 1`. -/
theorem conversions_wrap : ¬ (
    (∀ operation ∈ accountOperations, ∀ selector,
      SentAs (operation selector).keyid selector.keyIds) ∧
    (∀ operation ∈ channelOperations, ∀ selector, SendsKeyIds operation selector) ∧
    ∀ (count : Int32) n, (CountResult.count count).toResult = .ok n →
      (n.toNat : ℤ) = count.toInt) ∧
    (GraphQlQueries.queryAccounts (.keyId 0x80000000)).keyid = some (-2147483648) ∧
    (CountResult.count (-1)).toResult = .ok 0xFFFFFFFF := by
  refine ⟨?_, rfl, rfl⟩
  rintro ⟨h_accounts, -, -⟩
  have h_sent := h_accounts _ List.mem_cons_self (.keyId 0x80000000)
  unfold SentAs at h_sent
  exact absurd h_sent (by decide)

end Blokli
