import BlokliClient.Testing.Tracking

/-!
# The in-memory client: queries

The queries read the shared state under its lock. Counts have a fast path that does not
filter, and two queries insert a default for an address that they do not find.

* `Query.answer` : what a query says of a state, without fast paths and insertions.
* `Defaulted` : a state has more defaults than another, and is otherwise the same.
* `queries_refine` : in any sequence of queries, each says of the state what it would
  have said first.
-/

namespace Blokli.Testing

/-! ### Arguments and answers -/

structure Compatibility where
  apiVersion : Text
  supportedClientVersions : Text
  features : List Text

/-- The version of the package. -/
def packageVersion : Text := "0.37.1".toList

inductive Answer
  | count (count : UInt32)
  | accounts (accounts : List Account)
  | balance (balance : Text)
  | transactionCount (count : UInt64)
  | redeemedStats (stats : RedeemedStats)
  | safes (safes : List Safe)
  | total (count : Int32) (balance : Text)
  | channels (channels : List Channel)
  | services (services : List ServiceEntry)
  | serviceTypes (serviceTypes : List ServiceTypeInfo)
  | serviceRegistryConfig (config : ServiceRegistryConfig)
  | transaction (transaction : Transaction)
  | chainInfo (chainInfo : ChainInfo)
  | text (text : Text)
  | compatibility (compatibility : Compatibility)

inductive Query
  | countAccounts (selector : AccountSelector)
  | queryAccounts (selector : AccountSelector)
  | queryNativeBalance (address : ChainAddress)
  | queryTokenBalance (address : ChainAddress)
  | queryTransactionCount (address : ChainAddress)
  | querySafeAllowance (address : ChainAddress)
  | queryRedeemedStats (selector : RedeemedStatsSelector)
  | querySafe (selector : SafeSelector)
  | countChannels (selector : ChannelSelector)
  | queryChannelStats (selector : ChannelSelector)
  | queryChannels (selector : ChannelSelector)
  | querySafesBalance (ownerAddress : Option ChainAddress)
  | countServices (selector : ServiceSelector)
  | queryServices (selector : ServiceSelector)
  | queryLiveServices (selector : ServiceSelector)
  | queryServiceTypes (serviceType : Option ServiceTypeId)
  | queryServiceRegistryConfig
  | queryTransactionStatus (txId : Text)
  | queryChainInfo
  | queryVersion
  | queryHealth
  | queryCompatibility

/-! ### Queries -/

namespace BlokliTestState

variable (state : BlokliTestState)

/-- `count_accounts`. -/
def countAccounts : AccountSelector → UInt32
  | .any => UInt32.ofNat state.accounts.len
  | selector => UInt32.ofNat (state.queryAccounts selector).length

/-- `count_channels`. -/
def countChannels (selector : ChannelSelector) : UInt32 :=
  if selector.matchesAll then UInt32.ofNat state.channels.len
  else UInt32.ofNat (state.queryChannels selector).length

/-- `count_services`. -/
def countServices : ServiceSelector → UInt32
  | .any => UInt32.ofNat state.services.len
  | selector => UInt32.ofNat (state.queryServices selector).length

/-- The value of a key, or no data. -/
def found {α : Type} (value : Option α) : Except ErrorKind α :=
  match value with
  | none => .error .noData
  | some value => .ok value

/-- `query_native_balance`. -/
def queryNativeBalance (address : ChainAddress) : Except ErrorKind Text :=
  found (state.nativeBalances.lookup address.encodeHex)

/-- `query_token_balance`, at any token. -/
def queryTokenBalance (address : ChainAddress) : Except ErrorKind Text :=
  found (state.tokenBalances.lookup address.encodeHex)

/-- `query_safe_allowance`. -/
def querySafeAllowance (address : ChainAddress) : Except ErrorKind Text :=
  found (state.safeAllowances.lookup address.encodeHex)

end BlokliTestState

/-- `safe_matches_owner`. -/
def safeMatchesOwner (safe : Safe) (ownerHex : Text) : Bool :=
  safe.chainKey == ownerHex || safe.owners.any fun owner => owner == ownerHex

namespace BlokliTestState

variable (state : BlokliTestState)

/-- `query_safe`. -/
def querySafe : SafeSelector → List Safe
  | .safeAddress address => (state.deployedSafes.lookup address.encodeHex).toList
  | .owner address | .chainKey address =>
    state.deployedSafes.values.filter fun safe => safeMatchesOwner safe address.encodeHex
  | .registeredNode address =>
    state.deployedSafes.values.filter fun safe =>
      safe.registeredNodes.any fun node => node == address.encodeHex

/-- The loop over the balances: it parses and adds one after the other. -/
def addAll (balances : Balances) (total : balances.Amount) :
    List Text → Except ErrorKind balances.Amount
  | [] => .ok total
  | balance :: rest =>
    match balances.parse balance with
    | none => .error .parseError
    | some amount => addAll balances (balances.add total amount) rest

/-- A count that fits `i32`, and the sum of the balances. -/
def totals (balances : Balances) (count : ℕ) (texts : List Text) :
    Except ErrorKind (Int32 × Text) :=
  if count < 2 ^ 31 then
    match addAll balances balances.zero texts with
    | .error e => .error e
    | .ok total => .ok (Int32.ofNat count, balances.render total)
  else .error .parseError

/-- `query_channel_stats`. -/
def queryChannelStats (balances : Balances) (selector : ChannelSelector) :
    Except ErrorKind (Int32 × Text) :=
  let channels := state.queryChannels selector
  totals balances channels.length (channels.map Channel.balance)

/-- `query_safes_balance`. Safes without a balance count, and add nothing. -/
def querySafesBalance (balances : Balances) (ownerAddress : Option ChainAddress) :
    Except ErrorKind (Int32 × Text) :=
  let matching := match ownerAddress with
    | some owner => state.deployedSafes.values.filter fun safe =>
      safeMatchesOwner safe owner.encodeHex
    | none => state.deployedSafes.values
  totals balances matching.length
    (matching.filterMap fun safe => state.tokenBalances.lookup safe.address)

/-- `query_compatibility`. -/
def queryCompatibility : Compatibility where
  apiVersion := packageVersion
  supportedClientVersions := "*".toList
  features := []

end BlokliTestState

/-- The answer of a query, and the state that it leaves. -/
def Query.run (balances : Balances) (state : BlokliTestState) :
    Query → Except ErrorKind Answer × BlokliTestState
  | .countAccounts selector => (.ok (.count (state.countAccounts selector)), state)
  | .queryAccounts selector => (.ok (.accounts (state.queryAccounts selector)), state)
  | .queryNativeBalance address => ((state.queryNativeBalance address).map .balance, state)
  | .queryTokenBalance address => ((state.queryTokenBalance address).map .balance, state)
  | .queryTransactionCount address =>
    let counted := state.queryTransactionCount address
    (.ok (.transactionCount counted.1), counted.2)
  | .querySafeAllowance address => ((state.querySafeAllowance address).map .balance, state)
  | .queryRedeemedStats selector =>
    let redeemed := state.queryRedeemedStats selector
    (redeemed.1.map .redeemedStats, redeemed.2)
  | .querySafe selector => (.ok (.safes (state.querySafe selector)), state)
  | .countChannels selector => (.ok (.count (state.countChannels selector)), state)
  | .queryChannelStats selector =>
    ((state.queryChannelStats balances selector).map fun total => .total total.1 total.2, state)
  | .queryChannels selector => (.ok (.channels (state.queryChannels selector)), state)
  | .querySafesBalance ownerAddress =>
    ((state.querySafesBalance balances ownerAddress).map fun total => .total total.1 total.2, state)
  | .countServices selector => (.ok (.count (state.countServices selector)), state)
  | .queryServices selector => (.ok (.services (state.queryServices selector)), state)
  | .queryLiveServices selector => (.ok (.services (state.queryLiveServices selector)), state)
  | .queryServiceTypes serviceType =>
    (.ok (.serviceTypes (state.queryServiceTypes serviceType)), state)
  | .queryServiceRegistryConfig => (.ok (.serviceRegistryConfig state.serviceRegistryConfig), state)
  | .queryTransactionStatus txId =>
    ((Testing.queryTransactionStatus txId state).map .transaction, state)
  | .queryChainInfo => (.ok (.chainInfo state.chainInfo), state)
  | .queryVersion => (.ok (.text state.version), state)
  | .queryHealth => (.ok (.text state.health), state)
  | .queryCompatibility => (.ok (.compatibility BlokliTestState.queryCompatibility), state)

/-- Queries in sequence. -/
def Query.runAll (balances : Balances) (state : BlokliTestState) :
    List Query → List (Except ErrorKind Answer) × BlokliTestState
  | [] => ([], state)
  | query :: queries =>
    let first := query.run balances state
    let rest := runAll balances first.2 queries
    (first.1 :: rest.1, rest.2)

/-! ### What a query says of a state -/

/-- The answer of a query: a count is the number of what the plain query returns, and what
is not there has its default. -/
def Query.answer (balances : Balances) (state : BlokliTestState) : Query → Except ErrorKind Answer
  | .countAccounts selector => .ok (.count (UInt32.ofNat (state.queryAccounts selector).length))
  | .countChannels selector => .ok (.count (UInt32.ofNat (state.queryChannels selector).length))
  | .countServices selector => .ok (.count (UInt32.ofNat (state.queryServices selector).length))
  | .queryTransactionCount address =>
    .ok (.transactionCount ((state.txCounts.lookup address.encodeHex).getD 0))
  | .queryRedeemedStats selector =>
    match maybeSafe selector with
    | none => .error .noData
    | some safeAddress =>
      if safeAddress.encodeHex ∈ state.deployedSafes then
        .ok (.redeemedStats ((state.safeRedeemStats.lookup safeAddress.encodeHex).getD
          BlokliTestState.noRedemptions))
      else .error .noData
  | query => (query.run balances state).1

/-- A map has as many values as pass a filter that lets everything through. -/
theorem len_eq_length_filter {κ α : Type} {m : IndexMap κ α} {p : α → Bool}
    (h : ∀ v ∈ m.values, p v = true) : m.len = (m.values.filter p).length := by
  rw [List.filter_eq_self.mpr h]
  exact (List.length_map _).symm

theorem countAccounts_eq (state : BlokliTestState) (selector : AccountSelector) :
    state.countAccounts selector = UInt32.ofNat (state.queryAccounts selector).length := by
  cases selector with
  | any =>
    exact congrArg UInt32.ofNat (len_eq_length_filter fun _ _ => rfl)
  | _ => rfl

theorem countServices_eq (state : BlokliTestState) (selector : ServiceSelector) :
    state.countServices selector = UInt32.ofNat (state.queryServices selector).length := by
  cases selector with
  | any =>
    exact congrArg UInt32.ofNat (len_eq_length_filter fun _ _ => rfl)
  | _ => rfl

theorem countChannels_eq (state : BlokliTestState) (selector : ChannelSelector) :
    state.countChannels selector = UInt32.ofNat (state.queryChannels selector).length := by
  unfold BlokliTestState.countChannels
  split
  -- the count of all is the length of the map
  · next h_all =>
    obtain ⟨filter, status, safeAddress⟩ := selector
    obtain ⟨h_rest, h_safe⟩ := Bool.and_eq_true_iff.mp h_all
    obtain ⟨h_filter, h_status⟩ := Bool.and_eq_true_iff.mp h_rest
    obtain rfl : filter = none := Option.isNone_iff_eq_none.mp h_filter
    obtain rfl : status = none := Option.isNone_iff_eq_none.mp h_status
    obtain rfl : safeAddress = none := Option.isNone_iff_eq_none.mp h_safe
    -- where the filter keeps everything
    exact congrArg UInt32.ofNat (len_eq_length_filter fun _ _ => rfl)
  · rfl

/-- **Answers.** Neither the fast path of a count nor an insertion shows. -/
theorem run_answer (balances : Balances) (state : BlokliTestState) (query : Query) :
    (query.run balances state).1 = query.answer balances state := by
  cases query with
  | countAccounts selector =>
    change Except.ok (Answer.count (state.countAccounts selector)) = _
    rw [countAccounts_eq]
    rfl
  | countChannels selector =>
    change Except.ok (Answer.count (state.countChannels selector)) = _
    rw [countChannels_eq]
    rfl
  | countServices selector =>
    change Except.ok (Answer.count (state.countServices selector)) = _
    rw [countServices_eq]
    rfl
  | queryTransactionCount address =>
    change Except.ok (Answer.transactionCount (state.queryTransactionCount address).1) =
      .ok (.transactionCount ((state.txCounts.lookup address.encodeHex).getD 0))
    -- the default is the count that is written
    unfold BlokliTestState.queryTransactionCount
    cases state.txCounts.lookup address.encodeHex <;> rfl
  | queryRedeemedStats selector =>
    -- the statistics are those of a deployed safe, or an error
    change (state.queryRedeemedStats selector).1.map Answer.redeemedStats = _
    unfold BlokliTestState.queryRedeemedStats Query.answer
    dsimp only
    cases maybeSafe selector with
    | none => rfl
    | some safeAddress =>
      dsimp only
      by_cases h_safe : safeAddress.encodeHex ∈ state.deployedSafes
      · rw [if_pos h_safe, if_pos h_safe]
        cases state.safeRedeemStats.lookup safeAddress.encodeHex <;> rfl
      · rw [if_neg h_safe, if_neg h_safe]
        rfl
  | _ => rfl

/-! ### Defaults -/

/-- The second map has more entries of the default value, and is otherwise the same. -/
def Defaults {κ α : Type} [DecidableEq κ] (default : α) (m m' : IndexMap κ α) : Prop :=
  ∀ k, m'.lookup k = m.lookup k ∨ (m.lookup k = none ∧ m'.lookup k = some default)

namespace Defaults

variable {κ α : Type} [DecidableEq κ] {default : α} {m m' m'' : IndexMap κ α}

/-- Nothing was added. -/
theorem refl (default : α) (m : IndexMap κ α) : Defaults default m m := fun _ => Or.inl rfl

/-- Defaults that were added in two steps. -/
theorem trans (h : Defaults default m m') (h' : Defaults default m' m'') :
    Defaults default m m'' := by
  intro k
  -- the answer of the last query is that of the one before
  rcases h' k with h_same | ⟨h_none, h_default⟩
  · rw [h_same]
    exact h k
  · rcases h k with h_same | ⟨-, h_some⟩
    · exact Or.inr ⟨h_same.symm.trans h_none, h_default⟩
    · rw [h_none] at h_some
      cases h_some

/-- The entry of a key that was missing. -/
theorem insert {k : κ} (h : m.lookup k = none) : Defaults default m (m.insert k default) := by
  intro k'
  rw [IndexMap.lookup_insert]
  -- the key that the default was written under, or another
  by_cases h_key : k' = k
  · rw [if_pos h_key, h_key]
    exact Or.inr ⟨h, rfl⟩
  · rw [if_neg h_key]
    exact Or.inl rfl

/-- With the default for what is missing, the maps agree. -/
theorem getD_eq (h : Defaults default m m') (k : κ) :
    (m'.lookup k).getD default = (m.lookup k).getD default := by
  rcases h k with h_same | ⟨h_none, h_default⟩
  · rw [h_same]
  · rw [h_none, h_default]
    rfl

end Defaults

/-- **Defaulted.** The states differ in defaults only. -/
structure Defaulted (state state' : BlokliTestState) : Prop where
  rest : state' = { state with
    txCounts := state'.txCounts
    safeRedeemStats := state'.safeRedeemStats }
  txCounts : Defaults 0 state.txCounts state'.txCounts
  safeRedeemStats :
    Defaults BlokliTestState.noRedemptions state.safeRedeemStats state'.safeRedeemStats

namespace Defaulted

variable {state state' state'' : BlokliTestState}

/-- Nothing was written. -/
theorem refl (state : BlokliTestState) : Defaulted state state := ⟨rfl, .refl _ _, .refl _ _⟩

/-- Queries one after the other. -/
theorem trans (h : Defaulted state state') (h' : Defaulted state' state'') :
    Defaulted state state'' where
  rest := by
    rw [h'.rest, h.rest]
  txCounts := h.txCounts.trans h'.txCounts
  safeRedeemStats := h.safeRedeemStats.trans h'.safeRedeemStats

/-- Defaults do not change what a query says. -/
theorem answer_eq (h : Defaulted state state') (balances : Balances) (query : Query) :
    query.answer balances state' = query.answer balances state := by
  cases query with
  | queryTransactionCount address =>
    change Except.ok (Answer.transactionCount ((state'.txCounts.lookup address.encodeHex).getD 0)) =
      .ok (.transactionCount ((state.txCounts.lookup address.encodeHex).getD 0))
    -- a default that was inserted is what a missing count reads as
    rw [h.txCounts.getD_eq]
  | queryRedeemedStats selector =>
    have h_safes : state'.deployedSafes = state.deployedSafes := by rw [h.rest]
    unfold Query.answer
    -- the safes are no default
    dsimp only
    rw [h_safes]
    cases maybeSafe selector with
    | none => rfl
    | some safeAddress =>
      dsimp only
      rw [h.safeRedeemStats.getD_eq]
  | _ =>
    rw [h.rest]
    rfl

/-- A query inserts defaults only. -/
theorem run (balances : Balances) (state : BlokliTestState) (query : Query) :
    Defaulted state (query.run balances state).2 := by
  cases query with
  | queryTransactionCount address =>
    change Defaulted state (state.queryTransactionCount address).2
    unfold BlokliTestState.queryTransactionCount
    -- the first query for an address inserts a zero
    cases h_lookup : state.txCounts.lookup address.encodeHex with
    | some value => exact refl state
    | none => exact ⟨rfl, .insert h_lookup, .refl _ _⟩
  | queryRedeemedStats selector =>
    change Defaulted state (state.queryRedeemedStats selector).2
    unfold BlokliTestState.queryRedeemedStats
    cases maybeSafe selector with
    | none => exact refl state
    | some safeAddress =>
      dsimp only
      split
      -- so does the first for a safe
      · cases h_lookup : state.safeRedeemStats.lookup safeAddress.encodeHex with
        | some stats => exact refl state
        | none => exact ⟨rfl, .refl _ _, .insert h_lookup⟩
      · exact refl state
  | _ => exact refl state

end Defaulted

/-- **Queries.** In any sequence of queries, each says of the initial state what the plain
query says, whatever came before it, and the state that is left has more defaults, and is
otherwise the initial one. -/
theorem queries_refine (balances : Balances) (state : BlokliTestState) (queries : List Query) :
    (Query.runAll balances state queries).1 =
        queries.map (fun query => query.answer balances state) ∧
      Defaulted state (Query.runAll balances state queries).2 := by
  -- of any state that differs in defaults
  have h_from : ∀ state', Defaulted state state' →
      (Query.runAll balances state' queries).1 =
          queries.map (fun query => query.answer balances state) ∧
        Defaulted state (Query.runAll balances state' queries).2 := by
    induction queries with
    | nil => exact fun _ h_state => ⟨rfl, h_state⟩
    -- each query answers as the state before it, which it leaves but for defaults
    | cons query queries ih =>
      intro state' h_state
      obtain ⟨h_answers, h_left⟩ := ih (query.run balances state').2
        (h_state.trans (Defaulted.run balances state' query))
      refine ⟨?_, h_left⟩
      change (query.run balances state').1 ::
        (Query.runAll balances (query.run balances state').2 queries).1 = _
      rw [h_answers, run_answer, h_state.answer_eq]
      rfl
  exact h_from state (.refl state)

end Blokli.Testing
