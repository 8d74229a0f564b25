import BlokliClient.Testing.Queries
import BlokliClient.Testing.Records
import BlokliClient.Testing.Rollback
import BlokliClient.Testing.Spelling

/-!
# The accessors of the state

Each accessor looks up a record, or an amount that is kept for the safe of an account. The
mutable ones return a reference that a mutator writes through.

* `IndexMap.Alongside` relates two maps with the same keys in the same order, as a write in
  place leaves them.
* `Access` is one write through an accessor, `Access.perform` what it does to the state.
* `Accessor.ReadsBack` says of an accessor that it sees its own writes and no others, and
  `accesses_read_back` says so of all of them, for any sequence of writes.
-/

namespace Blokli.Testing

/-! ### Maps that are rewritten in place -/

namespace IndexMap

variable {κ α : Type}

/-- Writes to the selected values. Each write is told how many came before it. -/
def rewriteEntries (select : κ → α → Bool) (write : ℕ → α → α) :
    ℕ → List (Σ _ : κ, α) → List (Σ _ : κ, α)
  | _, [] => []
  | n, ⟨k, v⟩ :: entries =>
    if select k v then ⟨k, write n v⟩ :: rewriteEntries select write (n + 1) entries
    else ⟨k, v⟩ :: rewriteEntries select write n entries

/-- Both have the same keys in the same order, and the values of a key are related. -/
def EntriesAlongside (R : α → α → Prop) (entries entries' : List (Σ _ : κ, α)) : Prop :=
  List.Forall₂ (fun entry entry' => entry.1 = entry'.1 ∧ R entry.2 entry'.2) entries entries'

/-- The keys are the same, in the same order. -/
theorem EntriesAlongside.keys {R : α → α → Prop} {entries entries' : List (Σ _ : κ, α)}
    (h : EntriesAlongside R entries entries') : entries.keys = entries'.keys := by
  induction h with
  | nil => rfl
  | cons h_head _ ih =>
    unfold List.keys at ih ⊢
    rw [List.map_cons, List.map_cons, h_head.1, ih]

/-- A rewrite changes values only. -/
theorem rewriteEntries_alongside {R : α → α → Prop} (h_refl : ∀ v, R v v)
    {select : κ → α → Bool} {write : ℕ → α → α} (h_write : ∀ n v, R v (write n v))
    (n : ℕ) (entries : List (Σ _ : κ, α)) :
    EntriesAlongside R entries (rewriteEntries select write n entries) := by
  induction entries generalizing n with
  | nil => exact .nil
  | cons entry entries ih =>
    unfold rewriteEntries
    split
    -- the entry is selected: the write relates it to its old value
    · exact .cons ⟨rfl, h_write n entry.2⟩ (ih (n + 1))
    -- it is left alone
    · exact .cons ⟨rfl, h_refl entry.2⟩ (ih n)

/-- `values_mut`, filtered. -/
def rewrite (select : κ → α → Bool) (write : ℕ → α → α) (m : IndexMap κ α) : IndexMap κ α where
  entries := rewriteEntries select write 0 m.entries
  nodupKeys := by
    have h_same : EntriesAlongside (fun _ _ => True) m.entries
        (rewriteEntries select write 0 m.entries) :=
      rewriteEntries_alongside (fun _ => trivial) (fun _ _ => trivial) 0 m.entries
    unfold List.NodupKeys
    rw [← h_same.keys]
    exact m.nodupKeys

/-- `get_mut`. -/
def rewriteAt [DecidableEq κ] (k : κ) (write : α → α) (m : IndexMap κ α) : IndexMap κ α :=
  m.rewrite (fun k' _ => k' = k) fun _ => write

/-- Writes to the first value only. -/
def firstOnly (write : α → α) : ℕ → α → α
  | 0, v => write v
  | _ + 1, v => v

/-- `values_mut`, and the first that is found. -/
def rewriteFirst (select : α → Bool) (write : α → α) (m : IndexMap κ α) : IndexMap κ α :=
  m.rewrite (fun _ v => select v) (firstOnly write)

/-- Both have the same keys in the same order, and the values of a key are related. -/
def Alongside (R : α → α → Prop) (m m' : IndexMap κ α) : Prop :=
  EntriesAlongside R m.entries m'.entries

namespace Alongside

variable {R : α → α → Prop} {m m' m'' : IndexMap κ α}

/-- Every map is alongside itself, when the relation is reflexive. -/
theorem refl (h_refl : ∀ v, R v v) (m : IndexMap κ α) : Alongside R m m :=
  List.forall₂_same.mpr fun entry _ => ⟨rfl, h_refl entry.2⟩

/-- One write after another, when the relation is transitive. -/
theorem trans (h_trans : ∀ v v' v'', R v v' → R v' v'' → R v v'') (h : Alongside R m m')
    -- composed entry by entry, so only the lists matter
    (h' : Alongside R m' m'') : Alongside R m m'' := by
  unfold Alongside EntriesAlongside at h h' ⊢
  generalize m.entries = l at h ⊢
  generalize m'.entries = l' at h h'
  generalize m''.entries = l'' at h' ⊢
  induction h generalizing l'' with
  | nil =>
    cases h'
    exact .nil
  | cons h_head _ ih =>
    cases h' with
    | cons h_head' h_tail' =>
      exact .cons ⟨h_head.1.trans h_head'.1, h_trans _ _ _ h_head.2 h_head'.2⟩ (ih _ h_tail')

/-- The keys are the same, in the same order. -/
theorem keys (h : Alongside R m m') : m.keys = m'.keys := EntriesAlongside.keys h

/-- Both have the same keys. -/
theorem mem_iff (h : Alongside R m m') {k : κ} : k ∈ m ↔ k ∈ m' := by
  rw [AList.mem_keys, AList.mem_keys, h.keys]

/-- Both have the same size. -/
theorem len_eq (h : Alongside R m m') : m.len = m'.len := by
  rw [len_eq_length_keys, len_eq_length_keys, h.keys]

/-- Each value is under the key of the one that it replaces. -/
theorem entry (h : Alongside R m m') {k : κ} {v' : α} (h_entry : ⟨k, v'⟩ ∈ m'.entries) :
    ∃ v, ⟨k, v⟩ ∈ m.entries ∧ R v v' := by
  obtain ⟨⟨k₀, v⟩, h_mem, h_key, h_rel⟩ := exists_of_forall₂ (List.Forall₂.flip h) h_entry
  obtain rfl : k₀ = k := h_key
  exact ⟨v, h_mem, h_rel⟩

/-- Each value replaces one that it is related to. -/
theorem value (h : Alongside R m m') {v' : α} (h_value : v' ∈ m'.values) :
    ∃ v ∈ m.values, R v v' := by
  obtain ⟨k, h_entry⟩ := mem_values.mp h_value
  obtain ⟨v, h_mem, h_rel⟩ := h.entry h_entry
  exact ⟨v, mem_values.mpr ⟨k, h_mem⟩, h_rel⟩

variable [DecidableEq κ]

/-- What is found under a key is related to what was found there before. -/
theorem lookup (h : Alongside R m m') {k : κ} {v v' : α} (h_old : m.lookup k = some v)
    (h_new : m'.lookup k = some v') : R v v' := by
  obtain ⟨v₀, h_entry, h_rel⟩ := h.entry (AList.mem_lookup_iff.mp h_new)
  obtain rfl : v₀ = v :=
    Option.some.inj ((AList.mem_lookup_iff.mpr h_entry : _ = some v₀).symm.trans h_old)
  exact h_rel

/-- Something is found under a key when something was before. -/
theorem isSome_lookup (h : Alongside R m m') (k : κ) :
    (m.lookup k).isSome = (m'.lookup k).isSome := by
  rw [Bool.eq_iff_iff, AList.lookup_isSome, AList.lookup_isSome]
  exact h.mem_iff

end Alongside

/-- A selective write, for any relation that the write respects. -/
theorem rewrite_alongside {R : α → α → Prop} (h_refl : ∀ v, R v v) {select : κ → α → Bool}
    {write : ℕ → α → α} (h_write : ∀ n v, R v (write n v)) (m : IndexMap κ α) :
    Alongside R m (m.rewrite select write) :=
  rewriteEntries_alongside h_refl h_write 0 m.entries

/-- A write to the first value that is found. -/
theorem rewriteFirst_alongside {R : α → α → Prop} (h_refl : ∀ v, R v v) {select : α → Bool}
    {write : α → α} (h_write : ∀ v, R v (write v)) (m : IndexMap κ α) :
    Alongside R m (m.rewriteFirst select write) := by
  refine rewrite_alongside h_refl (fun n v => ?_) m
  cases n with
  | zero => exact h_write v
  | succ n => exact h_refl v

/-- A write to the value of a key. -/
theorem rewriteAt_alongside [DecidableEq κ] {R : α → α → Prop} (h_refl : ∀ v, R v v) (k : κ)
    {write : α → α} (h_write : ∀ v, R v (write v)) (m : IndexMap κ α) :
    Alongside R m (m.rewriteAt k write) :=
  rewrite_alongside h_refl (fun _ => h_write) m

section Reading

variable {select : α → Bool} {write : α → α}

/-- After the first value, nothing is written. -/
theorem rewriteEntries_firstOnly (n : ℕ) (entries : List (Σ _ : κ, α)) :
    rewriteEntries (fun _ v => select v) (firstOnly write) (n + 1) entries = entries := by
  induction entries generalizing n with
  | nil => rfl
  | cons entry entries ih =>
    unfold rewriteEntries
    -- `firstOnly` wrote at position 0 only, and the count is past it now
    split
    · rw [ih]
      rfl
    · rw [ih]

/-- **The first value is the one that was written**, when the write keeps what is selected. -/
theorem find?_rewriteFirst_self (h_write : ∀ v, select (write v) = select v) (m : IndexMap κ α) :
    (m.rewriteFirst select write).values.find? select = (m.values.find? select).map write := by
  change ((rewriteEntries (fun _ v => select v) (firstOnly write) 0 m.entries).map _).find? select =
    ((m.entries.map _).find? select).map write
  induction m.entries with
  | nil => rfl
  | cons entry entries ih =>
    unfold rewriteEntries
    rw [List.map_cons, List.find?_cons]
    -- the first match is the entry that is written, and the write keeps it a match
    cases h_select : select entry.2 with
    | true =>
      rw [if_pos rfl, List.map_cons, List.find?_cons]
      dsimp only [firstOnly]
      rw [h_write, h_select]
      rfl
    | false =>
      rw [if_neg Bool.false_ne_true, List.map_cons, List.find?_cons]
      dsimp only
      rw [h_select]
      exact ih

/-- **Other values are not seen to change**, when the write keeps what else is selected. -/
theorem find?_rewriteFirst_other {select' : α → Bool}
    (h_apart : ∀ v, select' v = true → select v = false)
    (h_write : ∀ v, select' (write v) = select' v) (m : IndexMap κ α) :
    (m.rewriteFirst select write).values.find? select' = m.values.find? select' := by
  change ((rewriteEntries (fun _ v => select v) (firstOnly write) 0 m.entries).map _).find? select' =
    (m.entries.map _).find? select'
  induction m.entries with
  | nil => rfl
  | cons entry entries ih =>
    unfold rewriteEntries
    rw [List.map_cons, List.find?_cons]
    cases h_select : select entry.2 with
    -- what `select` finds here is written, and `select'` does not look for it
    | true =>
      have h_other : select' entry.2 = false := by
        by_contra h_not
        rw [h_apart _ (Bool.not_eq_false _ ▸ h_not)] at h_select
        cases h_select
      rw [if_pos rfl, rewriteEntries_firstOnly, List.map_cons, List.find?_cons]
      dsimp only [firstOnly]
      rw [h_write, h_other]
    | false =>
      rw [if_neg Bool.false_ne_true, List.map_cons, List.find?_cons]
      dsimp only
      -- the entry is left alone: `select'` finds it here in both lists, or in the tail of both
      cases select' entry.2 with
      | true => rfl
      | false => exact ih

/-- A lookup sees the writes to its key, and no others. -/
theorem lookup_rewriteAt [DecidableEq κ] (k k' : κ) (m : IndexMap κ α) :
    (m.rewriteAt k write).lookup k' =
      if k' = k then (m.lookup k').map write else m.lookup k' := by
  -- on the entries, for every position the write may start at
  have h_entries : ∀ (n : ℕ) (entries : List (Σ _ : κ, α)),
      (rewriteEntries (fun k' _ => k' = k) (fun _ => write) n entries).dlookup k' =
        if k' = k then (entries.dlookup k').map write else entries.dlookup k' := by
    intro n entries
    induction entries generalizing n with
    | nil =>
      split
      · rfl
      · rfl
    | cons entry entries ih =>
      obtain ⟨k₀, v⟩ := entry
      unfold rewriteEntries
      -- the map holds no key twice, so the head decides for `k₀`
      by_cases h_key : k' = k₀
      · subst h_key
        rw [List.dlookup_cons_eq]
        by_cases h_k : k' = k
        · rw [if_pos (decide_eq_true h_k), List.dlookup_cons_eq, if_pos h_k]
          rfl
        · rw [if_neg (by simpa using h_k), List.dlookup_cons_eq, if_neg h_k]
      · rw [List.dlookup_cons_ne _ _ h_key]
        split
        · rw [List.dlookup_cons_ne _ _ h_key, ih]
        · rw [List.dlookup_cons_ne _ _ h_key, ih]
  exact h_entries 0 m.entries

end Reading

/-- Both have the same keys in the same order, and `f` says the same of the values. -/
def SameBy {β : Type} (f : α → β) (m m' : IndexMap κ α) : Prop :=
  Alongside (fun v v' => f v = f v') m m'

section SameBy

variable {β : Type} {f : α → β} {m m' m'' : IndexMap κ α}

/-- Nothing was written. -/
theorem SameBy.refl (m : IndexMap κ α) : SameBy f m m :=
  Alongside.refl (R := fun v v' => f v = f v') (fun _ => rfl) m

/-- One write after another. -/
theorem SameBy.trans (h : SameBy f m m') (h' : SameBy f m' m'') : SameBy f m m'' :=
  Alongside.trans (fun _ _ _ => Eq.trans) h h'

/-- A write that `f` does not see. -/
theorem sameBy_rewrite {select : κ → α → Bool} {write : ℕ → α → α}
    (h_write : ∀ n v, f (write n v) = f v) (m : IndexMap κ α) :
    SameBy f m (m.rewrite select write) :=
  rewrite_alongside (R := fun v v' => f v = f v') (fun _ => rfl)
    (fun n v => (h_write n v).symm) m

/-- A write to the first value that is found, if `f` does not see it. -/
theorem sameBy_rewriteFirst {select : α → Bool} {write : α → α}
    (h_write : ∀ v, f (write v) = f v) (m : IndexMap κ α) :
    SameBy f m (m.rewriteFirst select write) :=
  rewriteFirst_alongside (R := fun v v' => f v = f v') (fun _ => rfl)
    (fun v => (h_write v).symm) m

/-- A write to the value of a key, if `f` does not see it. -/
theorem sameBy_rewriteAt [DecidableEq κ] (k : κ) {write : α → α}
    (h_write : ∀ v, f (write v) = f v) (m : IndexMap κ α) : SameBy f m (m.rewriteAt k write) :=
  rewriteAt_alongside (R := fun v v' => f v = f v') (fun _ => rfl) k
    (fun v => (h_write v).symm) m

end SameBy

end IndexMap

/-! ### The accessors -/

/-- What is kept for the safe of an account. -/
inductive SafeAmount
  | tokenBalance
  | nativeBalance
  | allowance
  deriving DecidableEq

namespace SafeAmount

def of (state : BlokliTestState) : SafeAmount → IndexMap Text Text
  | tokenBalance => state.tokenBalances
  | nativeBalance => state.nativeBalances
  | allowance => state.safeAllowances

def replace (state : BlokliTestState) (amounts : IndexMap Text Text) : SafeAmount → BlokliTestState
  | tokenBalance => { state with tokenBalances := amounts }
  | nativeBalance => { state with nativeBalances := amounts }
  | allowance => { state with safeAllowances := amounts }

end SafeAmount

namespace BlokliTestState

variable (state : BlokliTestState)

/-- `get_account`, and the account that `get_account_mut` refers to. -/
def getAccount (chainKey : ChainAddress) : Option Account :=
  state.accounts.values.find? fun acc => acc.chainKey == chainKey.encodeHex

/-- `get_channel_by_id`. -/
def getChannelById (channelId : ChannelId) : Option Channel :=
  state.channels.lookup channelId.encodeHex

/-- The address of the safe of the account. -/
def safeAddressOf (chainKey : ChainAddress) : Option Text :=
  (state.getAccount chainKey).bind Account.safeAddress

/-- The amount that is kept for the safe of the account. -/
def getAccountSafeAmount (amount : SafeAmount) (chainKey : ChainAddress) : Option Text :=
  (state.safeAddressOf chainKey).bind (amount.of state).lookup

/-- `get_account_safe_token_balance`. -/
def getAccountSafeTokenBalance := state.getAccountSafeAmount .tokenBalance

/-- `get_account_safe_native_balance`. -/
def getAccountSafeNativeBalance := state.getAccountSafeAmount .nativeBalance

/-- `get_account_safe_allowance`. -/
def getAccountSafeAllowance := state.getAccountSafeAmount .allowance

/-- `get_safe_redeem_stats`. -/
def getSafeRedeemStats (chainAddress : ChainAddress) : Option RedeemedStats :=
  state.safeRedeemStats.lookup chainAddress.encodeHex

/-- `get_safe_by_owner`. -/
def getSafeByOwner (owner : ChainAddress) : List Safe :=
  state.deployedSafes.values.filter fun safe => safeMatchesOwner safe owner.encodeHex

end BlokliTestState

/-- A write through what an accessor returns. The accessor of the safes of an owner returns
a list, whose elements are written to by their position. -/
inductive Access
  | serviceEntry (serviceType : ServiceTypeId) (node : ChainAddress)
      (write : ServiceEntry → ServiceEntry)
  | serviceType (serviceType : ServiceTypeId) (write : ServiceTypeInfo → ServiceTypeInfo)
  | account (chainKey : ChainAddress) (write : Account → Account)
  | channelById (channelId : ChannelId) (write : Channel → Channel)
  | accountSafeAmount (amount : SafeAmount) (chainKey : ChainAddress) (write : Text → Text)
  | safeRedeemStats (chainAddress : ChainAddress) (write : RedeemedStats → RedeemedStats)
  | safeByOwner (owner : ChainAddress) (write : ℕ → Safe → Safe)

namespace Access

/-- `get_account_safe_token_balance_mut`. -/
def accountSafeTokenBalance := accountSafeAmount .tokenBalance

/-- `get_account_safe_native_balance_mut`. -/
def accountSafeNativeBalance := accountSafeAmount .nativeBalance

/-- `get_account_safe_allowance_mut`. -/
def accountSafeAllowance := accountSafeAmount .allowance

/-- The state after the write. Nothing is written when the accessor finds nothing. -/
def perform (state : BlokliTestState) : Access → BlokliTestState
  | .serviceEntry wanted node write =>
    let found (entry : ServiceEntry) : Bool :=
      serviceTypeMatches entry.serviceType wanted && Hex.hexMatches entry.node node.toList
    { state with services := state.services.rewriteFirst found write }
  | .serviceType wanted write =>
    let found (info : ServiceTypeInfo) : Bool := serviceTypeMatches info.serviceType wanted
    { state with serviceTypes := state.serviceTypes.rewriteFirst found write }
  | .account chainKey write =>
    let found (acc : Account) : Bool := acc.chainKey == chainKey.encodeHex
    { state with accounts := state.accounts.rewriteFirst found write }
  | .channelById channelId write =>
    { state with channels := state.channels.rewriteAt channelId.encodeHex write }
  | .accountSafeAmount amount chainKey write =>
    -- get_account looks the safe up through the account; without one there is nothing to write
    match state.safeAddressOf chainKey with
    | none => state
    | some address => amount.replace state ((amount.of state).rewriteAt address write)
  | .safeRedeemStats chainAddress write =>
    { state with safeRedeemStats := state.safeRedeemStats.rewriteAt chainAddress.encodeHex write }
  | .safeByOwner owner write =>
    let found (_ : Text) (safe : Safe) : Bool := safeMatchesOwner safe owner.encodeHex
    { state with deployedSafes := state.deployedSafes.rewrite found write }

/-- The writes, one after the other. -/
def performAll (accesses : List Access) (state : BlokliTestState) : BlokliTestState :=
  accesses.foldl perform state

end Access

/-! ### Identifiers -/

/-- What a subscriber knows an account by. -/
def accountIdentifiers (account : Account) : Text × Int32 × Text :=
  (account.chainKey, account.keyid, account.packetKey)

def channelIdentifiers (channel : Channel) : Text × Int32 × Int32 :=
  (channel.concreteChannelId, channel.source, channel.destination)

def serviceIdentifiers (entry : ServiceEntry) : Text × Text := (entry.serviceType, entry.node)

/-- The write leaves the identifiers of the record alone. -/
def Access.KeepsIdentifiers : Access → Prop
  | .serviceEntry _ _ write => ∀ entry, serviceIdentifiers (write entry) = serviceIdentifiers entry
  | .serviceType _ write => ∀ info, (write info).serviceType = info.serviceType
  | .account _ write => ∀ account, accountIdentifiers (write account) = accountIdentifiers account
  | .channelById _ write => ∀ channel,
      channelIdentifiers (write channel) = channelIdentifiers channel
  | .accountSafeAmount _ _ _ | .safeRedeemStats _ _ => True
  | .safeByOwner _ write => ∀ n safe, (write n safe).address = safe.address

/-! ### Reading what was written -/

/-- The accesses that are writes through one accessor, applied in their order. -/
def Access.applied {α : Type} (writes : Access → Option (α → α)) (accesses : List Access) (v : α) :
    α :=
  (accesses.filterMap writes).foldl (fun v write => write v) v

/-- What one accessor reads, and the writes that go through it. -/
structure Accessor (α : Type) where
  get : BlokliTestState → Option α
  writes : Access → Option (α → α)

namespace Accessor

variable {α : Type}

/-- On the states with the invariant, the accessor sees its own writes and no others. -/
structure ReadsBack (accessor : Accessor α) (Invariant : BlokliTestState → Prop)
    (Allowed : Access → Prop) : Prop where
  kept : ∀ state access, Invariant state → Allowed access → Invariant (access.perform state)
  step : ∀ state access, Invariant state → Allowed access →
    accessor.get (access.perform state) =
      (accessor.get state).map ((accessor.writes access).getD id)

variable {accessor : Accessor α} {Invariant : BlokliTestState → Prop} {Allowed : Access → Prop}

/-- **A sequence of writes is read back**: the induction on the sequence. -/
theorem ReadsBack.all (h : accessor.ReadsBack Invariant Allowed) {accesses : List Access}
    (h_allowed : ∀ access ∈ accesses, Allowed access) {state : BlokliTestState}
    (h_state : Invariant state) : accessor.get (Access.performAll accesses state) =
      (accessor.get state).map (Access.applied accessor.writes accesses) := by
  induction accesses generalizing state with
  | nil => exact (congrFun Option.map_id (accessor.get state)).symm
  -- what one access does, then what the others do to its result
  | cons access accesses ih =>
    have h_access := h_allowed access List.mem_cons_self
    have h_rest := ih (fun a h_a => h_allowed a (List.mem_cons_of_mem _ h_a))
      (h.kept state access h_state h_access)
    change accessor.get (Access.performAll accesses (access.perform state)) = _
    rw [h_rest, h.step state access h_state h_access, Option.map_map]
    refine congrArg (fun f => (accessor.get state).map f) (funext fun v => ?_)
    unfold Access.applied
    rw [List.filterMap_cons]
    cases accessor.writes access with
    | none => rfl
    | some write => rfl

end Accessor

namespace Access

/-- `get_account_mut` for this chain key. -/
def writesAccount (chainKey : ChainAddress) : Access → Option (Account → Account)
  | .account chainKey' write => if chainKey' = chainKey then some write else none
  | _ => none

/-- `get_channel_by_id_mut` for this id. -/
def writesChannel (channelId : ChannelId) : Access → Option (Channel → Channel)
  | .channelById channelId' write => if channelId' = channelId then some write else none
  | _ => none

/-- `get_service_entry_mut` for this service type and node. -/
def writesServiceEntry (wanted : ServiceTypeId) (node : ChainAddress) :
    Access → Option (ServiceEntry → ServiceEntry)
  | .serviceEntry wanted' node' write =>
    if wanted' = wanted ∧ node' = node then some write else none
  | _ => none

/-- `get_service_type_mut` for this service type. -/
def writesServiceType (wanted : ServiceTypeId) : Access → Option (ServiceTypeInfo → ServiceTypeInfo)
  | .serviceType wanted' write => if wanted' = wanted then some write else none
  | _ => none

/-- `get_safe_redeem_stats_mut` for this address. -/
def writesRedeemStats (chainAddress : ChainAddress) :
    Access → Option (RedeemedStats → RedeemedStats)
  | .safeRedeemStats chainAddress' write =>
    if chainAddress' = chainAddress then some write else none
  | _ => none

/-- The accessors of an amount, for the accounts whose safe has the address. -/
def writesAmount (safeOf : ChainAddress → Option Text) (amount : SafeAmount) (address : Text) :
    Access → Option (Text → Text)
  | .accountSafeAmount amount' chainKey write =>
    if amount' = amount ∧ safeOf chainKey = some address then some write else none
  | _ => none

/-- An account keeps its safe. -/
def KeepsSafes : Access → Prop
  | .account _ write => ∀ account, (write account).safeAddress = account.safeAddress
  | _ => True

/-- A write to an amount leaves the rest of the state alone. -/
theorem perform_amount (state : BlokliTestState) (amount : SafeAmount) (chainKey : ChainAddress)
    (write : Text → Text) :
    ((accountSafeAmount amount chainKey write).perform state).accounts = state.accounts ∧
    ((accountSafeAmount amount chainKey write).perform state).channels = state.channels ∧
    ((accountSafeAmount amount chainKey write).perform state).services = state.services ∧
    ((accountSafeAmount amount chainKey write).perform state).serviceTypes = state.serviceTypes ∧
    ((accountSafeAmount amount chainKey write).perform state).safeRedeemStats =
      state.safeRedeemStats := by
  unfold perform
  dsimp only
  cases state.safeAddressOf chainKey with
  | none => exact ⟨rfl, rfl, rfl, rfl, rfl⟩
  | some address => cases amount <;> exact ⟨rfl, rfl, rfl, rfl, rfl⟩

/-- What a write through one accessor does to a value that may be another's. -/
theorem map_ite {α : Type} {p : Prop} [Decidable p] (v : Option α) (write : α → α) :
    v.map ((if p then some write else none).getD id) = if p then v.map write else v := by
  split
  · rfl
  · exact congrFun Option.map_id v

end Access

/-- **Accounts.** Chain keys in hexadecimal are told apart. -/
theorem account_readsBack (chainKey : ChainAddress) :
    Accessor.ReadsBack ⟨fun state => state.getAccount chainKey, Access.writesAccount chainKey⟩
      (fun _ => True) Access.KeepsIdentifiers where
  kept _ _ _ _ := trivial
  step state access _ h := by
    cases access with
    -- the only access that writes accounts: at this key or at another one
    | account chainKey' write =>
      have h_write : ∀ (key : ChainAddress) (v : Account),
          ((write v).chainKey == key.encodeHex) = (v.chainKey == key.encodeHex) := fun key v => by
        rw [(Prod.mk.inj (h v)).1]
      change _ = (state.getAccount chainKey).map ((if chainKey' = chainKey then some write
        else none).getD id)
      rw [Access.map_ite]
      by_cases h_key : chainKey' = chainKey
      · subst h_key
        rw [if_pos rfl]
        exact IndexMap.find?_rewriteFirst_self (h_write chainKey') state.accounts
      -- another key has another spelling in hexadecimal, so no account of it is found
      · rw [if_neg h_key]
        refine IndexMap.find?_rewriteFirst_other (fun v h_v => ?_) (h_write chainKey) state.accounts
        rw [beq_iff_eq.mp h_v, beq_eq_false_iff_ne]
        exact fun h_eq => h_key (Bytes.ext_toList (Hex.encodeHex_injective h_eq)).symm
    -- an amount is stored beside the accounts
    | accountSafeAmount amount chainKey' write =>
      change BlokliTestState.getAccount _ _ = (state.getAccount chainKey).map id
      unfold BlokliTestState.getAccount
      rw [(Access.perform_amount state amount chainKey' write).1]
      exact (congrFun Option.map_id _).symm
    | serviceEntry | serviceType | channelById | safeRedeemStats | safeByOwner =>
      exact (congrFun Option.map_id _).symm

/-- Different addresses are spelled differently. -/
theorem encodeHex_ne {n : ℕ} {a b : Bytes n} (h : a ≠ b) : a.encodeHex ≠ b.encodeHex :=
  fun h_eq => h (Bytes.ext_toList (Hex.encodeHex_injective h_eq))

/-- **Channels.** Their ids in hexadecimal are keys of the map. -/
theorem channel_readsBack (channelId : ChannelId) :
    Accessor.ReadsBack ⟨fun state => state.getChannelById channelId,
      Access.writesChannel channelId⟩ (fun _ => True) Access.KeepsIdentifiers where
  kept _ _ _ _ := trivial
  step state access _ _ := by
    cases access with
    -- the map is keyed by the hexadecimal identifier, which determines the identifier
    | channelById channelId' write =>
      change (state.channels.rewriteAt channelId'.encodeHex write).lookup channelId.encodeHex =
        (state.channels.lookup channelId.encodeHex).map ((if channelId' = channelId then some write
          else none).getD id)
      rw [Access.map_ite, IndexMap.lookup_rewriteAt]
      by_cases h_id : channelId' = channelId
      · subst h_id
        rw [if_pos rfl, if_pos rfl]
      · rw [if_neg h_id, if_neg (encodeHex_ne (Ne.symm h_id))]
    | accountSafeAmount amount chainKey write =>
      change BlokliTestState.getChannelById _ _ = (state.getChannelById channelId).map id
      unfold BlokliTestState.getChannelById
      rw [(Access.perform_amount state amount chainKey write).2.1]
      exact (congrFun Option.map_id _).symm
    | account | serviceEntry | serviceType | safeRedeemStats | safeByOwner =>
      exact (congrFun Option.map_id _).symm

/-- **Service entries.** A text spells at most one service type, and one node. -/
theorem serviceEntry_readsBack (wanted : ServiceTypeId) (node : ChainAddress) :
    Accessor.ReadsBack ⟨fun state => state.getServiceEntry wanted node,
      Access.writesServiceEntry wanted node⟩ (fun _ => True) Access.KeepsIdentifiers where
  kept _ _ _ _ := trivial
  step state access _ h := by
    cases access with
    -- the write keeps service type and node, by which the entry is found
    | serviceEntry wanted' node' write =>
      have h_write : ∀ (id : ServiceTypeId) (key : ChainAddress) (v : ServiceEntry),
          (serviceTypeMatches (write v).serviceType id &&
            Hex.hexMatches (write v).node key.toList) =
          (serviceTypeMatches v.serviceType id && Hex.hexMatches v.node key.toList) := by
        intro id key v
        obtain ⟨h_type, h_node⟩ := Prod.mk.inj (h v)
        rw [h_type, h_node]
      change _ = (state.getServiceEntry wanted node).map
        ((if wanted' = wanted ∧ node' = node then some write else none).getD id)
      rw [Access.map_ite]
      by_cases h_same : wanted' = wanted ∧ node' = node
      · obtain ⟨rfl, rfl⟩ := h_same
        rw [if_pos ⟨rfl, rfl⟩]
        -- the same pair: the first match is the one written
        exact IndexMap.find?_rewriteFirst_self (h_write wanted' node') state.services
      -- another pair: no entry matches both
      · rw [if_neg h_same]
        refine IndexMap.find?_rewriteFirst_other (fun v h_v => ?_) (h_write wanted node)
          state.services
        obtain ⟨h_type, h_node⟩ := Bool.and_eq_true_iff.mp h_v
        rw [Bool.eq_false_iff]
        intro h_v'
        obtain ⟨h_type', h_node'⟩ := Bool.and_eq_true_iff.mp h_v'
        exact h_same ⟨serviceTypeMatches_unique h_type' h_type,
          Bytes.ext_toList (Hex.hexMatches_unique h_node' h_node)⟩
    | accountSafeAmount amount chainKey write =>
      change BlokliTestState.getServiceEntry _ _ _ = (state.getServiceEntry wanted node).map id
      unfold BlokliTestState.getServiceEntry
      rw [(Access.perform_amount state amount chainKey write).2.2.1]
      exact (congrFun Option.map_id _).symm
    | account | serviceType | channelById | safeRedeemStats | safeByOwner =>
      exact (congrFun Option.map_id _).symm

/-- **Service types.** A text spells at most one. -/
theorem serviceType_readsBack (wanted : ServiceTypeId) :
    Accessor.ReadsBack ⟨fun state => state.getServiceType wanted, Access.writesServiceType wanted⟩
      (fun _ => True) Access.KeepsIdentifiers where
  kept _ _ _ _ := trivial
  step state access _ h := by
    cases access with
    -- the write keeps the type, by which the info is found
    | serviceType wanted' write =>
      have h_write : ∀ (id : ServiceTypeId) (v : ServiceTypeInfo),
          serviceTypeMatches (write v).serviceType id = serviceTypeMatches v.serviceType id :=
        fun id v => by rw [h v]
      change _ = (state.getServiceType wanted).map ((if wanted' = wanted then some write
        else none).getD id)
      rw [Access.map_ite]
      by_cases h_same : wanted' = wanted
      · subst h_same
        rw [if_pos rfl]
        exact IndexMap.find?_rewriteFirst_self (h_write wanted') state.serviceTypes
      · rw [if_neg h_same]
        refine IndexMap.find?_rewriteFirst_other (fun v h_v => ?_) (h_write wanted)
          state.serviceTypes
        rw [Bool.eq_false_iff]
        exact fun h_v' => h_same (serviceTypeMatches_unique h_v' h_v)
    | accountSafeAmount amount chainKey write =>
      change BlokliTestState.getServiceType _ _ = (state.getServiceType wanted).map id
      unfold BlokliTestState.getServiceType
      rw [(Access.perform_amount state amount chainKey write).2.2.2.1]
      exact (congrFun Option.map_id _).symm
    | account | serviceEntry | channelById | safeRedeemStats | safeByOwner =>
      exact (congrFun Option.map_id _).symm

/-- **Redemption statistics.** They are kept under the address of the safe. -/
theorem redeemStats_readsBack (chainAddress : ChainAddress) :
    Accessor.ReadsBack ⟨fun state => state.getSafeRedeemStats chainAddress,
      Access.writesRedeemStats chainAddress⟩ (fun _ => True) Access.KeepsIdentifiers where
  kept _ _ _ _ := trivial
  step state access _ _ := by
    cases access with
    | safeRedeemStats chainAddress' write =>
      change (state.safeRedeemStats.rewriteAt chainAddress'.encodeHex write).lookup
          chainAddress.encodeHex =
        (state.safeRedeemStats.lookup chainAddress.encodeHex).map
          ((if chainAddress' = chainAddress then some write else none).getD id)
      rw [Access.map_ite, IndexMap.lookup_rewriteAt]
      by_cases h_id : chainAddress' = chainAddress
      · subst h_id
        rw [if_pos rfl, if_pos rfl]
      · rw [if_neg h_id, if_neg (encodeHex_ne (Ne.symm h_id))]
    | accountSafeAmount amount chainKey write =>
      change BlokliTestState.getSafeRedeemStats _ _ =
        (state.getSafeRedeemStats chainAddress).map id
      unfold BlokliTestState.getSafeRedeemStats
      rw [(Access.perform_amount state amount chainKey write).2.2.2.2]
      exact (congrFun Option.map_id _).symm
    | account | serviceEntry | serviceType | channelById | safeByOwner =>
      exact (congrFun Option.map_id _).symm

/-- No access changes the safe of an account. -/
theorem safeAddressOf_perform {access : Access} (h : access.KeepsIdentifiers)
    (h_safes : access.KeepsSafes) (state : BlokliTestState) (chainKey : ChainAddress) :
    (access.perform state).safeAddressOf chainKey = state.safeAddressOf chainKey := by
  -- a write may change the account, but not the safe it names
  have h_account : (access.perform state).getAccount chainKey =
      (state.getAccount chainKey).map ((Access.writesAccount chainKey access).getD id) :=
    (account_readsBack chainKey).step state access trivial h
  unfold BlokliTestState.safeAddressOf
  rw [h_account, Option.bind_map]
  refine congrArg (Option.bind _) (funext fun account => ?_)
  cases access with
  | account chainKey' write =>
    change (((if chainKey' = chainKey then some write else none).getD id) account).safeAddress = _
    split
    · exact h_safes account
    · rfl
  | accountSafeAmount | serviceEntry | serviceType | channelById | safeRedeemStats
  | safeByOwner => rfl

/-- Writes that give no account another safe keep the address of the safe. -/
theorem safeAddressOf_performAll {accesses : List Access}
    (h : ∀ access ∈ accesses, access.KeepsIdentifiers)
    (h_safes : ∀ access ∈ accesses, access.KeepsSafes) (state : BlokliTestState)
    (chainKey : ChainAddress) :
    (Access.performAll accesses state).safeAddressOf chainKey = state.safeAddressOf chainKey := by
  induction accesses generalizing state with
  | nil => rfl
  | cons access accesses ih =>
    have h_rest := ih (fun a h_a => h a (List.mem_cons_of_mem _ h_a))
      (fun a h_a => h_safes a (List.mem_cons_of_mem _ h_a)) (access.perform state)
    exact h_rest.trans (safeAddressOf_perform (h access List.mem_cons_self)
      (h_safes access List.mem_cons_self) state chainKey)

/-- Replacing one kind of amount leaves the other kinds alone. -/
theorem SafeAmount.of_replace (amount amount' : SafeAmount) (state : BlokliTestState)
    (amounts : IndexMap Text Text) :
    amount.of (amount'.replace state amounts) = if amount' = amount then amounts
      else amount.of state := by
  cases amount <;> cases amount' <;> rfl

/-- **Amounts of a safe**, through all accounts that it is the safe of. -/
theorem amount_readsBack (safeOf : ChainAddress → Option Text) (amount : SafeAmount)
    (address : Text) :
    Accessor.ReadsBack ⟨fun state => (amount.of state).lookup address,
      Access.writesAmount safeOf amount address⟩
      (fun state => ∀ chainKey, state.safeAddressOf chainKey = safeOf chainKey)
      (fun access => access.KeepsIdentifiers ∧ access.KeepsSafes) where
  kept state access h_state h chainKey :=
    (safeAddressOf_perform h.1 h.2 state chainKey).trans (h_state chainKey)
  step state access h_state _ := by
    cases access with
    -- the amount may be written through any account of the same safe
    | accountSafeAmount amount' chainKey write =>
      change (amount.of _).lookup address = ((amount.of state).lookup address).map
        ((if amount' = amount ∧ safeOf chainKey = some address then some write else none).getD id)
      rw [Access.map_ite, ← h_state chainKey]
      unfold Access.perform
      dsimp only
      cases state.safeAddressOf chainKey with
      | none =>
        rw [if_neg fun h => by cases h.2]
      | some address' =>
        dsimp only
        rw [SafeAmount.of_replace]
        -- the four amounts are fields of their own
        by_cases h_amount : amount' = amount
        · subst h_amount
          rw [if_pos rfl, IndexMap.lookup_rewriteAt]
          by_cases h_address : address = address'
          · subst h_address
            rw [if_pos rfl, if_pos ⟨rfl, rfl⟩]
          · rw [if_neg h_address, if_neg fun h => h_address (Option.some.inj h.2).symm]
        · rw [if_neg h_amount, if_neg fun h => h_amount h.1]
    | account | serviceEntry | serviceType | channelById | safeRedeemStats | safeByOwner =>
      cases amount <;> exact (congrFun Option.map_id _).symm

/-- **What was written is read.** After any writes through the accessors that leave the
identifiers alone, each accessor reads what was there before with its own writes applied in
their order, whatever was written through the others. The amounts of a safe are shared by the
accounts that it is the safe of, as long as these keep their safes. -/
theorem accesses_read_back {accesses : List Access}
    (h_keeps : ∀ access ∈ accesses, access.KeepsIdentifiers) (state : BlokliTestState) :
    (∀ chainKey, (Access.performAll accesses state).getAccount chainKey =
      (state.getAccount chainKey).map
        (Access.applied (Access.writesAccount chainKey) accesses)) ∧
    (∀ channelId, (Access.performAll accesses state).getChannelById channelId =
      (state.getChannelById channelId).map
        (Access.applied (Access.writesChannel channelId) accesses)) ∧
    (∀ wanted node, (Access.performAll accesses state).getServiceEntry wanted node =
      (state.getServiceEntry wanted node).map
        (Access.applied (Access.writesServiceEntry wanted node) accesses)) ∧
    (∀ wanted, (Access.performAll accesses state).getServiceType wanted =
      (state.getServiceType wanted).map
        (Access.applied (Access.writesServiceType wanted) accesses)) ∧
    (∀ chainAddress, (Access.performAll accesses state).getSafeRedeemStats chainAddress =
      (state.getSafeRedeemStats chainAddress).map
        (Access.applied (Access.writesRedeemStats chainAddress) accesses)) ∧
    ((∀ access ∈ accesses, access.KeepsSafes) → ∀ amount chainKey address,
      state.safeAddressOf chainKey = some address →
        (Access.performAll accesses state).getAccountSafeAmount amount chainKey =
          (state.getAccountSafeAmount amount chainKey).map
            (Access.applied (Access.writesAmount state.safeAddressOf amount address)
              accesses)) := by
  refine ⟨fun chainKey => ?_, fun channelId => ?_, fun wanted node => ?_, fun wanted => ?_,
    fun chainAddress => ?_, fun h_safes amount chainKey address h_address => ?_⟩
  · exact (account_readsBack chainKey).all h_keeps trivial
  · exact (channel_readsBack channelId).all h_keeps trivial
  · exact (serviceEntry_readsBack wanted node).all h_keeps trivial
  · exact (serviceType_readsBack wanted).all h_keeps trivial
  · exact (redeemStats_readsBack chainAddress).all h_keeps trivial
  · -- through the account the amount at the address of its safe is read
    have h_amount : ((amount.of (Access.performAll accesses state)).lookup address) =
        ((amount.of state).lookup address).map
          (Access.applied (Access.writesAmount state.safeAddressOf amount address) accesses) :=
      (amount_readsBack state.safeAddressOf amount address).all
        (fun access h_access => ⟨h_keeps access h_access, h_safes access h_access⟩) fun _ => rfl
    have h_safe : (Access.performAll accesses state).safeAddressOf chainKey = some address :=
      (safeAddressOf_performAll h_keeps h_safes state chainKey).trans h_address
    unfold BlokliTestState.getAccountSafeAmount
    rw [h_safe, h_address]
    exact h_amount

/-- The node announces itself at an address. -/
def announceNode : Access :=
  .account sampleNode fun account => { account with multiAddresses := ["/ip4/10.0.0.1".toList] }

/-- The announcement leaves the identifiers of the account alone. -/
theorem announceNode_keeps : ∀ access ∈ [announceNode], access.KeepsIdentifiers := by
  intro access h_access
  obtain rfl := List.mem_singleton.mp h_access
  intro account
  rfl

/-- The node with a safe, and what the safe has. -/
def stateWithSafe : BlokliTestState :=
  { stateWithAccount 1 with
    accounts := AList.singleton 1 { numberedAccount 1 with safeAddress := some "33".toList }
    nativeBalances := AList.singleton "33".toList "5 xDai".toList
    tokenBalances := AList.singleton "33".toList "1 wxHOPR".toList }

/-- Two writes to the tokens of the safe, and the announcement between them. -/
def announcedBetween : List Access :=
  [.accountSafeAmount .tokenBalance sampleNode fun _ => "2 wxHOPR".toList, announceNode,
    .accountSafeAmount .tokenBalance sampleNode fun balance => '1' :: balance]

/-- None of these writes touches an identifier, or gives an account another safe. -/
theorem announcedBetween_keeps :
    (∀ access ∈ announcedBetween, access.KeepsIdentifiers) ∧
      ∀ access ∈ announcedBetween, access.KeepsSafes := by
  constructor <;> intro access h_access <;>
    simp only [announcedBetween, List.mem_cons, List.not_mem_nil, or_false] at h_access <;>
    rcases h_access with rfl | rfl | rfl <;> first | exact True.intro | (intro account; rfl)

/-- The account has the address that was written. Its safe has the tokens of both writes,
one after the other, and the native balance that it had. -/
theorem accesses_read_back_announced :
    ((Access.performAll announcedBetween stateWithSafe).getAccount sampleNode).map
      Account.multiAddresses = some ["/ip4/10.0.0.1".toList] ∧
    (Access.performAll announcedBetween stateWithSafe).getAccountSafeAmount .tokenBalance
      sampleNode = some "12 wxHOPR".toList ∧
    (Access.performAll announcedBetween stateWithSafe).getAccountSafeAmount .nativeBalance
      sampleNode = some "5 xDai".toList := by
  obtain ⟨h_account, -, -, -, -, h_amounts⟩ :=
    accesses_read_back announcedBetween_keeps.1 stateWithSafe
  have h_amount := h_amounts announcedBetween_keeps.2
  refine ⟨?_, ?_, ?_⟩
  · rw [h_account sampleNode]
    rfl
  · rw [h_amount .tokenBalance sampleNode "33".toList rfl]
    rfl
  · rw [h_amount .nativeBalance sampleNode "33".toList rfl]
    rfl

end Blokli.Testing
