import BlokliClient.Api
import Mathlib.Data.List.AList

/-!
# The in-memory client: state and transactions

The test double of the client serves a `BlokliTestState`. A transaction runs a
mutator on the state; `simulateTxExecution` reverts what it did when it fails or
removes something, and otherwise publishes the differences between the two states
on seven broadcast channels.

* `simulateTxExecution_cases` is the inversion lemma: a transaction is reverted and
  publishes nothing, or it is accepted and publishes `publications`.
-/

namespace Blokli.Testing

/-- An insertion ordered map: its entries, in their order. -/
abbrev IndexMap (κ α : Type) := AList fun _ : κ => α

namespace IndexMap

variable {κ α : Type}

def values (m : IndexMap κ α) : List α := m.entries.map fun entry => entry.2

def len (m : IndexMap κ α) : ℕ := m.entries.length

/-- Replaces the value of a key in its place. A new key comes last. -/
def insert [DecidableEq κ] (k : κ) (v : α) (m : IndexMap κ α) : IndexMap κ α :=
  if h : k ∈ m then m.replace k v
  else {
    entries := m.entries ++ [⟨k, v⟩]
    nodupKeys := by
      have h_keys : k ∉ m.entries.keys := h
      unfold List.NodupKeys List.keys
      rw [List.map_append]
      refine List.nodup_append'.mpr ⟨m.nodupKeys, List.nodup_singleton _, ?_⟩
      intro k' h_k' h_new
      obtain rfl := List.mem_singleton.mp h_new
      exact h_keys h_k' }

theorem mem_values {m : IndexMap κ α} {v : α} : v ∈ m.values ↔ ∃ k, ⟨k, v⟩ ∈ m.entries := by
  unfold values
  rw [List.mem_map]
  constructor
  · rintro ⟨⟨k, v⟩, h_entry, rfl⟩
    exact ⟨k, h_entry⟩
  · rintro ⟨k, h_entry⟩
    exact ⟨_, h_entry, rfl⟩

end IndexMap

/-! ### The state -/

/-- Chain and network parameters. The winning probability and the price are published. -/
structure ChainInfo where
  channelClosureGracePeriod : Text
  channelDst : Option Text
  blockNumber : Int32
  chainId : Int32
  gasPrice : Option Text
  ledgerDst : Option Text
  maxFeePerGas : Option Text
  maxPriorityFeePerGas : Option Text
  minTicketWinningProbability : Float
  keyBindingFee : Text
  safeRegistryDst : Option Text
  ticketPrice : Text
  network : Text
  contractAddresses : Text
  expectedBlockTime : Text
  finality : Text

/-- Ticket redemptions of a safe. -/
structure RedeemedStats where
  redeemedAmount : Text
  redemptionCount : Text
  rejectedAmount : Text
  rejectionCount : Text
  deriving DecidableEq

inductive TransactionStatus
  | confirmed
  | pending
  | reverted
  | submissionFailed
  | submitted
  | timeout
  | validationFailed
  | unknown
  deriving DecidableEq

structure SafeExecution where
  success : Bool
  safeTxHash : Option Text
  revertReason : Option Text
  deriving DecidableEq

/-- Transaction tracked by Blokli. -/
structure Transaction where
  id : Text
  status : TransactionStatus
  submittedAt : Text
  transactionHash : Text
  safeExecution : Option SafeExecution
  deriving DecidableEq

/-- In-memory state. Balances and allowances are their text. -/
structure BlokliTestState where
  accounts : IndexMap UInt32 Account
  nativeBalances : IndexMap Text Text
  tokenBalances : IndexMap Text Text
  safeAllowances : IndexMap Text Text
  deployedSafes : IndexMap Text Safe
  safeRedeemStats : IndexMap Text RedeemedStats
  txCounts : IndexMap Text UInt64
  channels : IndexMap Text Channel
  services : IndexMap Text ServiceEntry
  serviceTypes : IndexMap Text ServiceTypeInfo
  serviceRegistryConfig : ServiceRegistryConfig
  chainInfo : ChainInfo
  version : Text
  health : Text
  activeTxs : IndexMap Text Transaction

/-- The contracts of the default chain info. -/
def contractAddresses : List (String × String) :=
  [ ("announcements", "0xf1c143B1bA20C7606d56aA2FA94502D25744b982"),
    ("channels", "0x77C9414043d27fdC98A6A2d73fc77b9b383092a7"),
    ("module_implementation", "0x32863c4974fBb6253E338a0cb70C382DCeD2eFCb"),
    ("node_safe_registry", "0x4F7C7dE3BA2B29ED8B2448dF2213cA43f94E45c0"),
    ("node_stake_factory", "0x791d190b2c95397F4BcE7bD8032FD67dCEA7a5F2"),
    ("node_safe_migration", "0x0000000000000000000000000000000000000000"),
    ("service_registry", "0x9A676e781A523b5d0C0e43731313A708CB607508"),
    ("token", "0xD4fdec44DB9D44B8f2b6d529620f9C0C7066A2c1"),
    ("ticket_price_oracle", "0x442df1d946303fB088C9377eefdaeA84146DA0A6"),
    ("winning_probability_oracle", "0xC15675d4CCa538D91a91a8D3EcFBB8499C3B0471"),
    ("xhopr_token", "0xA51c1fc2f0D1a1b8494Ed1FE312d7C3a78Ed91C0") ]

/-- The contracts as JSON, indented as the source has them. -/
def contractAddressesText : Text :=
  let line (entry : String × String) : String :=
    String.ofList (List.replicate 20 ' ') ++ "\"" ++ entry.1 ++ "\": \"" ++ entry.2 ++ "\""
  ("\n                \x7b\n" ++ ",\n".intercalate (contractAddresses.map line) ++
    "\n                \x7d").toList

/-- The chain info of `BlokliTestState::default`. The contract addresses are JSON text. -/
def ChainInfo.default : ChainInfo where
  channelClosureGracePeriod := "300".toList
  channelDst := some (List.replicate 64 '0')
  blockNumber := 1
  chainId := 100
  gasPrice := some "1000000000".toList
  ledgerDst := some (List.replicate 64 '0')
  maxFeePerGas := some "3000000000".toList
  maxPriorityFeePerGas := some "100000000".toList
  minTicketWinningProbability := 1.0
  keyBindingFee := "0.01 wxHOPR".toList
  safeRegistryDst := some (List.replicate 64 '0')
  ticketPrice := "1 wxHOPR".toList
  network := "jura".toList
  contractAddresses := contractAddressesText
  expectedBlockTime := "5".toList
  finality := "3".toList

/-- `BlokliTestState::default`. -/
def BlokliTestState.default : BlokliTestState where
  accounts := ∅
  nativeBalances := ∅
  tokenBalances := ∅
  safeAllowances := ∅
  deployedSafes := ∅
  safeRedeemStats := ∅
  txCounts := ∅
  channels := ∅
  services := ∅
  serviceTypes := ∅
  serviceRegistryConfig := {
    typeRegistrationFee := "0 wxHOPR".toList
    nodeSafeRegistry := "0x0000000000000000000000000000000000000000".toList }
  chainInfo := ChainInfo.default
  version := "1".toList
  health := "OK".toList
  activeTxs := ∅

/-- `service_entry_key`. -/
def serviceEntryKey (serviceType : Text) (node : ChainAddress) : Text :=
  serviceType ++ '/' :: node.encodeHex

/-- Updates the state, and says whether it failed. What it did to the state before
it failed is part of the result. -/
abbrev StateMutator := List UInt8 → BlokliTestState → Except ErrorKind Unit × BlokliTestState

/-! ### Matching -/

def channelMatches (channel : Channel) (selector : ChannelSelector)
    (accounts : IndexMap UInt32 Account) : Bool :=
  -- identifiers are compared with the text the state has, case and prefix included
  let filter := match selector.filter with
    | some (.channelId id) => channel.concreteChannelId == id.encodeHex
    | some (.destinationKeyId dst) => channel.destination.toUInt32 == dst
    | some (.sourceKeyId src) => channel.source.toUInt32 == src
    | some (.sourceAndDestinationKeyIds src dst) =>
      channel.source.toUInt32 == src && channel.destination.toUInt32 == dst
    | none => true
  -- without an account of the source, or without a safe of it, no safe fits
  let safeOk := selector.safeAddress.all fun safe =>
    ((accounts.lookup channel.source.toUInt32).bind Account.safeAddress).any fun accSafe =>
      accSafe == safe.encodeHex
  filter && safeOk && selector.status.all fun status => channel.status == status

def accountMatches (account : Account) : AccountSelector → Bool
  | .address address => account.chainKey == address.encodeHex
  | .keyId id => account.keyid.toUInt32 == id
  | .packetKey packetKey => account.packetKey == packetKey.encodeHex
  | .any => true

/-- A service type as Blokli renders it, its ASCII name or its hex, against an id. -/
def serviceTypeMatches (rendered : Text) (wanted : ServiceTypeId) : Bool :=
  -- the name only where the bytes render as one
  Hex.hexMatches rendered wanted.toList || (serviceTypeName wanted).any fun name => rendered == name

def serviceMatches (serviceType node : Text) : ServiceSelector → Bool
  | .serviceType wanted => serviceTypeMatches serviceType wanted
  | .node wanted => Hex.hexMatches node wanted.toList
  | .serviceTypeAndNode wantedType wantedNode =>
    serviceTypeMatches serviceType wantedType && Hex.hexMatches node wantedNode.toList
  | .any => true

/-! ### Queries -/

namespace BlokliTestState

variable (state : BlokliTestState)

/-- `do_query_channels`. -/
def queryChannels (selector : ChannelSelector) : List Channel :=
  state.channels.values.filter fun channel => channelMatches channel selector state.accounts

/-- `do_query_accounts`. -/
def queryAccounts (selector : AccountSelector) : List Account :=
  state.accounts.values.filter fun account => accountMatches account selector

/-- `do_query_services`. -/
def queryServices (selector : ServiceSelector) : List ServiceEntry :=
  state.services.values.filter fun entry => serviceMatches entry.serviceType entry.node selector

/-- `query_service_types`. -/
def queryServiceTypes (serviceType : Option ServiceTypeId) : List ServiceTypeInfo :=
  state.serviceTypes.values.filter fun info =>
    serviceType.all fun wanted => serviceTypeMatches info.serviceType wanted

/-- `query_live_services`: the entries whose node some safe registers. -/
def queryLiveServices (selector : ServiceSelector) : List ServiceEntry :=
  (state.queryServices selector).filter fun entry =>
    -- a node is live when a safe lists it, spelled as the entry spells it
    state.deployedSafes.values.any fun safe => safe.registeredNodes.any fun node =>
      node == entry.node

/-- `get_service_entry`, and the entry that `get_service_entry_mut` refers to. -/
def getServiceEntry (serviceType : ServiceTypeId) (node : ChainAddress) : Option ServiceEntry :=
  state.services.values.find? fun entry =>
    serviceTypeMatches entry.serviceType serviceType && Hex.hexMatches entry.node node.toList

/-- `get_service_type`, and the type that `get_service_type_mut` refers to. -/
def getServiceType (serviceType : ServiceTypeId) : Option ServiceTypeInfo :=
  state.serviceTypes.values.find? fun info => serviceTypeMatches info.serviceType serviceType

/-- What the ticket parameters of the state are. -/
def ticketParameters : TicketParameters where
  minTicketWinningProbability := state.chainInfo.minTicketWinningProbability
  ticketPrice := state.chainInfo.ticketPrice

/-- `query_transaction_count`. -/
def queryTransactionCount (address : ChainAddress) : UInt64 × BlokliTestState :=
  match state.txCounts.lookup address.encodeHex with
  | some value => (value, state)
  -- the query writes the zero that it returns
  | none => (0, { state with txCounts := state.txCounts.insert address.encodeHex 0 })

/-- The statistics of a safe without redemptions. -/
def noRedemptions : RedeemedStats where
  redeemedAmount := "0 wxHOPR".toList
  redemptionCount := "0".toList
  rejectedAmount := "0 wxHOPR".toList
  rejectionCount := "0".toList

end BlokliTestState

/-- The safe that statistics are kept of. -/
def maybeSafe : RedeemedStatsSelector → Option ChainAddress
  | .safeAddress address => some address
  | .safeAndNodeAddress safe _ => some safe
  -- statistics are kept by safe, a node alone names none
  | .nodeAddress _ => none

/-- `query_redeemed_stats`. -/
def BlokliTestState.queryRedeemedStats (state : BlokliTestState)
    (selector : RedeemedStatsSelector) : Except ErrorKind RedeemedStats × BlokliTestState :=
  match maybeSafe selector with
  | none => (.error .noData, state)
  | some safeAddress =>
    if safeAddress.encodeHex ∈ state.deployedSafes then
      match state.safeRedeemStats.lookup safeAddress.encodeHex with
      | some stats => (.ok stats, state)
      -- the default is written on first sight
      | none => (.ok BlokliTestState.noRedemptions, { state with
          safeRedeemStats :=
            state.safeRedeemStats.insert safeAddress.encodeHex BlokliTestState.noRedemptions })
    else (.error .noData, state)

/-! ### What a transaction publishes -/

/-- A message on one of the broadcast channels. -/
inductive Event
  | account (account : Account)
  | channel (source : Account) (channel : Channel) (destination : Account)
  | ticketParameters (parameters : TicketParameters)
  | safe (safe : Safe)
  | service (update : ServiceUpdate)
  | serviceType (update : ServiceTypeUpdate)
  | serviceRegistryConfig (config : ServiceRegistryConfig)

section Publications

variable (oldState state : BlokliTestState)

/-- The accounts that are new, or whose safe address or multi addresses changed. -/
def accountChanges : List Account :=
  (state.accounts.entries.filter fun entry =>
    -- an account of old is published only for its safe or its addresses
    (oldState.accounts.lookup entry.1).all fun old =>
      old.safeAddress != entry.2.safeAddress || old.multiAddresses != entry.2.multiAddresses).map
    fun entry => entry.2

/-- The channels that are new or changed. -/
def changedChannels : List Channel :=
  (state.channels.entries.filter fun entry =>
    (oldState.channels.lookup entry.1).all fun old => old != entry.2).map fun entry => entry.2

/-- A channel with the accounts of its endpoints, when the state has both. -/
def joinEndpoints (channel : Channel) : Option (Account × Channel × Account) :=
  match state.accounts.lookup channel.source.toUInt32,
    state.accounts.lookup channel.destination.toUInt32 with
  -- a channel without both accounts is not published
  | some source, some destination => some (source, channel, destination)
  | _, _ => none

def channelChanges : List (Account × Channel × Account) :=
  (changedChannels oldState state).filterMap (joinEndpoints state)

def ticketChanges : List TicketParameters :=
  if state.chainInfo.minTicketWinningProbability != oldState.chainInfo.minTicketWinningProbability
      || state.chainInfo.ticketPrice != oldState.chainInfo.ticketPrice then
    [state.ticketParameters]
  else []

/-- The safes that are new or changed. -/
def safeChanges : List Safe :=
  (state.deployedSafes.entries.filter fun entry =>
    (oldState.deployedSafes.lookup entry.1).all fun old => old != entry.2).map fun entry => entry.2

/-- `broadcast_service_changes`: the entries that are gone, then the new and the
changed ones. -/
def serviceChanges : List ServiceUpdate :=
  -- entries that are gone, with the type and the node they had
  (oldState.services.entries.filterMap fun entry =>
    if entry.1 ∈ state.services then none
    else some {
      kind := .deregistered
      serviceType := entry.2.serviceType
      node := entry.2.node
      entry := none }) ++
  state.services.entries.filterMap fun entry =>
    let update (kind : ServiceUpdateKind) : ServiceUpdate := {
      kind := kind
      serviceType := entry.2.serviceType
      node := entry.2.node
      entry := some entry.2 }
    -- `registered` or `updated`, as the old state had the key or not
    match oldState.services.lookup entry.1 with
    | none => some (update .registered)
    | some old => if old ≠ entry.2 then some (update .updated) else none

/-- The kinds of change between two configurations of a service type, one for each
changed field. -/
def serviceTypeKinds (old new : ServiceTypeInfo) : List ServiceTypeUpdateKind :=
  [ (if old.owner ≠ new.owner then some .ownerChanged else none),
    (if old.requirement ≠ new.requirement then some .requirementChanged else none),
    (if old.registrationBurn ≠ new.registrationBurn then some .registrationBurnChanged else none),
    (if old.updateBurn ≠ new.updateBurn then some .updateBurnChanged else none)
  ].filterMap id

/-- `broadcast_service_type_changes`. -/
def serviceTypeChanges : List ServiceTypeUpdate :=
  state.serviceTypes.entries.flatMap fun entry =>
    let kinds := match oldState.serviceTypes.lookup entry.1 with
      | none => [ServiceTypeUpdateKind.registered]
      | some old => serviceTypeKinds old entry.2
    kinds.map fun kind => {
      kind := kind
      serviceType := some entry.2.serviceType
      config := some entry.2
      registryConfig := none }

def serviceRegistryConfigChanges : List ServiceRegistryConfig :=
  if oldState.serviceRegistryConfig ≠ state.serviceRegistryConfig then [state.serviceRegistryConfig]
  else []

/-- Everything that an accepted transaction publishes, in the order of its
broadcasts. -/
def publications : List Event :=
  (accountChanges oldState state).map Event.account ++
  (channelChanges oldState state).map (fun entry => Event.channel entry.1 entry.2.1 entry.2.2) ++
  (ticketChanges oldState state).map Event.ticketParameters ++
  (safeChanges oldState state).map Event.safe ++
  (serviceChanges oldState state).map Event.service ++
  (serviceTypeChanges oldState state).map Event.serviceType ++
  (serviceRegistryConfigChanges oldState state).map Event.serviceRegistryConfig

end Publications

/-! ### Transactions -/

/-- One guard: there are at least as many as before. -/
def cannotRemove (what : String) (oldLen len : ℕ) : Except ErrorKind Unit :=
  if oldLen > len then
    .error (.mockClientError (.message ("mutation cannot remove ".toList ++ what.toList)))
  else .ok ()

/-- The guards of `simulate_tx_execution`. Service entries may be removed. -/
def checkRemovals (oldState state : BlokliTestState) : Except ErrorKind Unit := do
  cannotRemove "accounts" oldState.accounts.len state.accounts.len
  cannotRemove "channels" oldState.channels.len state.channels.len
  cannotRemove "native balances" oldState.nativeBalances.len state.nativeBalances.len
  cannotRemove "token balances" oldState.tokenBalances.len state.tokenBalances.len
  cannotRemove "safe allowances" oldState.safeAllowances.len state.safeAllowances.len
  cannotRemove "active txs" oldState.activeTxs.len state.activeTxs.len
  cannotRemove "service types" oldState.serviceTypes.len state.serviceTypes.len

/-- `simulate_tx_execution`: what it publishes, or the error, and the state it
leaves. -/
def simulateTxExecution (signedTx : List UInt8) (state : BlokliTestState)
    (mutator : StateMutator) : Except ErrorKind (List Event) × BlokliTestState :=
  let oldState := state
  match mutator signedTx state with
  | (.error error, _) => (.error error, oldState)
  | (.ok (), state) =>
    match checkRemovals oldState state with
    | .error error => (.error error, oldState)
    | .ok () => (.ok (publications oldState state), state)

/-- **What a transaction can do.** It fails and is reverted, or it is accepted with
the mutator's state and publishes the changes to it. -/
theorem simulateTxExecution_cases (signedTx : List UInt8) (state : BlokliTestState)
    (mutator : StateMutator) :
    (∃ error, simulateTxExecution signedTx state mutator = (.error error, state)) ∨
    (∃ state', mutator signedTx state = (.ok (), state') ∧ checkRemovals state state' = .ok () ∧
      simulateTxExecution signedTx state mutator = (.ok (publications state state'), state')) := by
  unfold simulateTxExecution
  dsimp only
  split
  · next error _ _ => exact Or.inl ⟨error, rfl⟩
  · next state' h_mutator =>
    split
    · next error _ => exact Or.inl ⟨error, rfl⟩
    · next h_check => exact Or.inr ⟨state', h_mutator, h_check, rfl⟩

/-! ### Sequences of transactions -/

/-- A signed transaction and the mutator of the client that submits it. -/
structure Submitted where
  signedTx : List UInt8
  mutator : StateMutator

/-- The state after a transaction. -/
def submit (state : BlokliTestState) (tx : Submitted) : BlokliTestState :=
  (simulateTxExecution tx.signedTx state tx.mutator).2

/-- What a transaction publishes. -/
def published (state : BlokliTestState) (tx : Submitted) : List Event :=
  match (simulateTxExecution tx.signedTx state tx.mutator).1 with
  | .ok events => events
  | .error _ => []

/-- What a sequence of transactions publishes. -/
def announced (state : BlokliTestState) : List Submitted → List Event
  | [] => []
  | tx :: txs => published state tx ++ announced (submit state tx) txs

/-- A transaction publishes the differences that it makes, or does nothing. -/
theorem published_cases (state : BlokliTestState) (tx : Submitted) :
    (submit state tx = state ∧ published state tx = []) ∨
      published state tx = publications state (submit state tx) := by
  unfold submit published
  rcases simulateTxExecution_cases tx.signedTx state tx.mutator with ⟨error, h⟩ |
    ⟨state', -, -, h⟩
  · exact Or.inl (by rw [h]; exact ⟨rfl, rfl⟩)
  · exact Or.inr (by rw [h])

end Blokli.Testing
