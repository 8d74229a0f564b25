import BlokliClient.Api

/-!
# The channel operations

A `ChannelSelector` becomes the variables of an operation, and the operation
forwards some of its variables as arguments of its field. Blokli applies the
arguments it is given; `query_channels` applies the safe address once more on the
client, by the key ids of the nodes that are registered with the safe.

* `BlokliServer` is a server that applies exactly the arguments of the rendered
  operation. Any request may fail.
* The query, the count and the stats return what the whole selector selects.
* `channelUpdated` takes no safe address, and `subscribe_channels` does not apply
  it either: the stream is right exactly when the safe address makes no
  difference.
-/

namespace Blokli

/-! ### From selectors to arguments -/

structure ChannelsVariables where
  concreteChannelId : Option Text := none
  destinationKeyId : Option Int32 := none
  sourceKeyId : Option Int32 := none
  safeAddress : Option Text := none
  status : Option ChannelStatus := none

/-- `From<ChannelSelector>`. Key ids are cast from `u32` to `i32`. -/
def ChannelsVariables.ofSelector (value : ChannelSelector) : ChannelsVariables :=
  let safeAddress := value.safeAddress.map Bytes.encodeHex
  match value.filter with
  | some (.channelId id) =>
    { concreteChannelId := some id.encodeHex, safeAddress := safeAddress, status := value.status }
  | some (.destinationKeyId dst) =>
    { destinationKeyId := some dst.toInt32, safeAddress := safeAddress, status := value.status }
  | some (.sourceKeyId src) =>
    { sourceKeyId := some src.toInt32, safeAddress := safeAddress, status := value.status }
  | some (.sourceAndDestinationKeyIds src dst) =>
    { destinationKeyId := some dst.toInt32, sourceKeyId := some src.toInt32
      safeAddress := safeAddress, status := value.status }
  | none => { safeAddress := safeAddress, status := value.status }

structure ChannelStatsVariables where
  concreteChannelId : Option Text := none
  destinationKeyId : Option Int32 := none
  safeAddress : Option Text := none
  sourceKeyId : Option Int32 := none
  status : Option ChannelStatus := none

/-- `From<ChannelSelector>`. -/
def ChannelStatsVariables.ofSelector (value : ChannelSelector) : ChannelStatsVariables :=
  let safeAddress := value.safeAddress.map Bytes.encodeHex
  match value.filter with
  | some (.channelId id) =>
    { concreteChannelId := some id.encodeHex, safeAddress := safeAddress, status := value.status }
  | some (.destinationKeyId dst) =>
    { destinationKeyId := some dst.toInt32, safeAddress := safeAddress, status := value.status }
  | some (.sourceKeyId src) =>
    { sourceKeyId := some src.toInt32, safeAddress := safeAddress, status := value.status }
  | some (.sourceAndDestinationKeyIds src dst) =>
    { destinationKeyId := some dst.toInt32, sourceKeyId := some src.toInt32
      safeAddress := safeAddress, status := value.status }
  | none => { safeAddress := safeAddress, status := value.status }

/-- The arguments of a channel field in a rendered operation. -/
structure ChannelArguments where
  concreteChannelId : Option Text := none
  destinationKeyId : Option Int32 := none
  sourceKeyId : Option Int32 := none
  safeAddress : Option Text := none
  status : Option ChannelStatus := none
  deriving DecidableEq

/-- The arguments of `channels`. -/
def QueryChannels.arguments (v : ChannelsVariables) : ChannelArguments where
  concreteChannelId := v.concreteChannelId
  destinationKeyId := v.destinationKeyId
  sourceKeyId := v.sourceKeyId
  safeAddress := v.safeAddress
  status := v.status

/-- The arguments of `channelUpdated`. -/
def SubscribeChannels.arguments (v : ChannelsVariables) : ChannelArguments where
  concreteChannelId := v.concreteChannelId
  destinationKeyId := v.destinationKeyId
  sourceKeyId := v.sourceKeyId
  status := v.status

/-- The arguments of `channelCount`. -/
def QueryChannelCount.arguments (v : ChannelsVariables) : ChannelArguments where
  concreteChannelId := v.concreteChannelId
  destinationKeyId := v.destinationKeyId
  sourceKeyId := v.sourceKeyId
  safeAddress := v.safeAddress
  status := v.status

/-- The arguments of `channelStats`. -/
def QueryChannelStats.arguments (v : ChannelStatsVariables) : ChannelArguments where
  concreteChannelId := v.concreteChannelId
  destinationKeyId := v.destinationKeyId
  safeAddress := v.safeAddress
  sourceKeyId := v.sourceKeyId
  status := v.status

/-- Serialises the variables of an operation. The status of a newer Blokli cannot
be sent. -/
def render (arguments : ChannelArguments) : Except ErrorKind ChannelArguments :=
  if arguments.status = some .unknown then .error .serialization else .ok arguments

namespace GraphQlQueries

def queryChannels (selector : ChannelSelector) : Except ErrorKind ChannelArguments :=
  render (QueryChannels.arguments (.ofSelector selector))

def subscribeChannels (selector : ChannelSelector) : Except ErrorKind ChannelArguments :=
  render (SubscribeChannels.arguments (.ofSelector selector))

def queryChannelCount (selector : ChannelSelector) : Except ErrorKind ChannelArguments :=
  render (QueryChannelCount.arguments (.ofSelector selector))

def queryChannelStats (selector : ChannelSelector) : Except ErrorKind ChannelArguments :=
  render (QueryChannelStats.arguments (.ofSelector selector))

end GraphQlQueries

/-! ### The server -/

/-- Aggregate count and balance. -/
structure ChannelStats where
  count : Int32
  balance : Text
  deriving DecidableEq

/-- What the client asks for. -/
inductive ChannelRequest
  | channels (arguments : ChannelArguments)
  | channelCount (arguments : ChannelArguments)
  | channelStats (arguments : ChannelArguments)
  | safeBy (address : Text)
  | accounts (chainKey : Text)

/-- A Blokli server: what it indexed, the channel states that it streams, how it
aggregates channels, and the requests it does not answer, with the error that the
client makes of that. -/
structure BlokliServer where
  channels : List Channel
  accounts : List Account
  safes : List Safe
  updates : List Channel
  stats : List Channel → ChannelStats
  refuse : ChannelRequest → Option ErrorKind

namespace BlokliServer

variable (server : BlokliServer)

/-- The channel has all the properties that the arguments ask for. -/
def selects (arguments : ChannelArguments) (channel : Channel) : Bool :=
  arguments.concreteChannelId.all (fun id => Hex.sameHex id channel.concreteChannelId) &&
  arguments.destinationKeyId.all (fun dst => channel.destination == dst) &&
  arguments.sourceKeyId.all (fun src => channel.source == src) &&
  arguments.safeAddress.all (fun safe => server.accounts.any fun account =>
    account.keyid == channel.source && account.safeAddress.any (Hex.sameHex safe)) &&
  arguments.status.all fun status => channel.status == status

def answer {α : Type} (request : ChannelRequest) (value : α) : Except ErrorKind α :=
  match server.refuse request with
  | some error => .error error
  | none => .ok value

/-- The count of a GraphQL response is an `Int`. -/
def answerCount (arguments : ChannelArguments) : Except ErrorKind Int32 :=
  let count := (server.channels.filter (server.selects arguments)).length
  if count < 2 ^ 31 then server.answer (.channelCount arguments) (Int32.ofNat count)
  else .error .noData

/-- The safe at an address. -/
def safeAt (address : Text) : Option Safe :=
  server.safes.find? fun safe => Hex.sameHex address safe.address

end BlokliServer

/-! ### The client -/

/-- `parse_chain_address_hex`. -/
def parseChainAddressHex (value : Text) : Except ErrorKind ChainAddress :=
  match Hex.decodeHex (Hex.trimHex value) with
  | none => .error .parseError
  | some bytes => if h : bytes.length = 20 then .ok ⟨bytes, h⟩ else .error .parseError

variable (server : BlokliServer)

/-- The loop over the nodes of a safe. -/
def keyIdsOfNodes : List Text → List Int32 → Except ErrorKind (List Int32)
  | [], ids => .ok ids
  | node :: nodes, ids => do
    let address ← parseChainAddressHex node
    let accounts ← server.answer (.accounts address.encodeHex)
      (server.accounts.filter fun account => Hex.sameHex address.encodeHex account.chainKey)
    keyIdsOfNodes nodes (ids ++ accounts.map Account.keyid)

/-- `source_key_ids_for_safe`. -/
def sourceKeyIdsForSafe (safeAddress : ChainAddress) : Except ErrorKind (List Int32) := do
  let safe ← server.answer (.safeBy safeAddress.encodeHex) (server.safeAt safeAddress.encodeHex)
  match safe with
  | none => pure []
  | some safe => keyIdsOfNodes server safe.registeredNodes []

/-- `filter_channels_by_safe`. -/
def filterChannelsBySafe (channels : List Channel) (safeAddress : ChainAddress) :
    Except ErrorKind (List Channel) := do
  let ids ← sourceKeyIdsForSafe server safeAddress
  pure (channels.filter fun channel => decide (channel.source ∈ ids))

/-- `query_channels`. -/
def queryChannels (selector : ChannelSelector) : Except ErrorKind (List Channel) :=
  if selector.filter.isNone && selector.safeAddress.isNone then
    .error (.invalidInput "at least one filter must be specified on channel query".toList)
  else do
    let arguments ← GraphQlQueries.queryChannels selector
    let channels ← server.answer (.channels arguments)
      (server.channels.filter (server.selects arguments))
    match selector.safeAddress with
    | some safeAddress => filterChannelsBySafe server channels safeAddress
    | none => pure channels

/-- `count_channels`. -/
def countChannels (selector : ChannelSelector) : Except ErrorKind UInt32 :=
  if selector.safeAddress.isSome then do
    let channels ← queryChannels server selector
    if channels.length < 2 ^ 32 then pure (UInt32.ofNat channels.length) else .error .parseError
  else do
    let arguments ← GraphQlQueries.queryChannelCount selector
    let count ← server.answerCount arguments
    pure count.toUInt32

/-- `query_channel_stats`. -/
def queryChannelStats (selector : ChannelSelector) : Except ErrorKind ChannelStats := do
  let arguments ← GraphQlQueries.queryChannelStats selector
  server.answer (.channelStats arguments)
    (server.stats (server.channels.filter (server.selects arguments)))

/-- `subscribe_channels_with_health`: the stream, and the name its health is
reported under. -/
def subscribeChannelsWithHealth (selector : ChannelSelector) :
    Except ErrorKind (List Channel × Text) := do
  let arguments ← GraphQlQueries.subscribeChannels selector
  pure (server.updates.filter (server.selects arguments), "channels".toList)

/-- `subscribe_channels`. -/
def subscribeChannels (selector : ChannelSelector) : Except ErrorKind (List Channel) := do
  let (stream, _) ← subscribeChannelsWithHealth server selector
  pure stream

/-! ### What a selector selects -/

/-- The channel has the identity that the filter asks for. -/
def ChannelFilter.matches (channel : Channel) : ChannelFilter → Bool
  | .channelId id => Hex.hexMatches channel.concreteChannelId id.toList
  | .destinationKeyId dst => channel.destination.toInt == dst.toNat
  | .sourceKeyId src => channel.source.toInt == src.toNat
  | .sourceAndDestinationKeyIds src dst =>
    channel.source.toInt == src.toNat && channel.destination.toInt == dst.toNat

/-- The channel has the identity and the status that the selector asks for. -/
def ChannelSelector.identifies (selector : ChannelSelector) (channel : Channel) : Bool :=
  selector.filter.all (ChannelFilter.matches channel) &&
    selector.status.all fun status => channel.status == status

/-- An account with this key id is bound to the safe. -/
def BlokliServer.boundTo (safe : ChainAddress) (keyid : Int32) : Bool :=
  server.accounts.any fun account =>
    account.keyid == keyid && account.safeAddress.any fun text => Hex.hexMatches text safe.toList

/-- The source of the channel belongs to the safe that the selector asks for. -/
def BlokliServer.safeOk (selector : ChannelSelector) (channel : Channel) : Bool :=
  selector.safeAddress.all fun safe => server.boundTo safe channel.source

/-- Filter, status and safe address. -/
def BlokliServer.selected (selector : ChannelSelector) (channel : Channel) : Bool :=
  selector.identifies channel && server.safeOk selector channel

/-- The key ids of the filter are below `2^31`. -/
def ChannelFilter.Fits : ChannelFilter → Prop
  | .channelId _ => True
  | .destinationKeyId dst => dst.toNat < 2 ^ 31
  | .sourceKeyId src => src.toNat < 2 ^ 31
  | .sourceAndDestinationKeyIds src dst => src.toNat < 2 ^ 31 ∧ dst.toNat < 2 ^ 31

def ChannelSelector.Fits (selector : ChannelSelector) : Prop :=
  ∀ filter, selector.filter = some filter → filter.Fits

/-- Every safe lists the chain keys of the accounts that are bound to it, and no
others. -/
def BlokliServer.ListsBound : Prop :=
  ∀ (safe : ChainAddress) (key : Text),
    (∃ record, server.safeAt safe.encodeHex = some record ∧
      ∃ node ∈ record.registeredNodes, Hex.sameHex node key = true) ↔
    ∃ account ∈ server.accounts, Hex.sameHex account.chainKey key = true ∧
      ∃ text, account.safeAddress = some text ∧ Hex.hexMatches text safe.toList = true

/-! ### The arguments say what the selector says -/

/-- A key id that fits is compared as a number. -/
theorem beq_toInt32 {x : Int32} {k : KeyId} (h : k.toNat < 2 ^ 31) :
    (x == k.toInt32) = (x.toInt == k.toNat) := by
  have h_int : k.toInt32.toInt = k.toNat := by
    change k.toBitVec.toInt = k.toNat
    rw [BitVec.toInt_eq_toNat_of_lt]
    · rfl
    · change 2 * k.toNat < 2 ^ 32
      omega
  rw [Bool.eq_iff_iff, beq_iff_eq, beq_iff_eq, ← h_int, Int32.toInt_inj]

/-- Without its safe address, a set of arguments asks for filter and status. -/
theorem selects_withoutSafe {selector : ChannelSelector} (h_fits : selector.Fits)
    (channel : Channel) :
    server.selects (SubscribeChannels.arguments (.ofSelector selector)) channel =
      selector.identifies channel := by
  obtain ⟨filter, status, safeAddress⟩ := selector
  -- one comparison for each part of the filter
  unfold BlokliServer.selects ChannelSelector.identifies
  cases filter with
  | none =>
    simp [SubscribeChannels.arguments, ChannelsVariables.ofSelector]
  | some filter =>
    have h_filter := h_fits filter rfl
    cases filter with
    | channelId id =>
      have h_hex := Hex.sameHex_encodeHex channel.concreteChannelId id.toList
      simp [SubscribeChannels.arguments, ChannelsVariables.ofSelector, ChannelFilter.matches,
        Bytes.encodeHex, h_hex]
    | destinationKeyId dst =>
      simp [SubscribeChannels.arguments, ChannelsVariables.ofSelector, ChannelFilter.matches,
        beq_toInt32 h_filter]
    | sourceKeyId src =>
      simp [SubscribeChannels.arguments, ChannelsVariables.ofSelector, ChannelFilter.matches,
        beq_toInt32 h_filter]
    | sourceAndDestinationKeyIds src dst =>
      simp [SubscribeChannels.arguments, ChannelsVariables.ofSelector, ChannelFilter.matches,
        beq_toInt32 h_filter.1, beq_toInt32 h_filter.2, Bool.and_comm]

/-- The safe of the variables is that of the selector. -/
theorem ofSelector_safeAddress (selector : ChannelSelector) :
    (ChannelsVariables.ofSelector selector).safeAddress =
      selector.safeAddress.map Bytes.encodeHex := by
  obtain ⟨filter, status, safeAddress⟩ := selector
  cases filter with
  | none => rfl
  | some filter => cases filter <;> rfl

/-- The safe address is one more condition. -/
theorem selects_arguments {selector : ChannelSelector} (h_fits : selector.Fits)
    (channel : Channel) :
    server.selects (QueryChannels.arguments (.ofSelector selector)) channel =
      server.selected selector channel := by
  -- the check of the safe is the one condition that is not in both requests
  have h_safe : (QueryChannels.arguments (.ofSelector selector)).safeAddress.all (fun safe =>
      server.accounts.any fun account =>
        account.keyid == channel.source && account.safeAddress.any (Hex.sameHex safe)) =
      server.safeOk selector channel := by
    change (ChannelsVariables.ofSelector selector).safeAddress.all _ = _
    rw [ofSelector_safeAddress]
    unfold BlokliServer.safeOk BlokliServer.boundTo
    cases selector.safeAddress with
    | none => rfl
    | some safe =>
      rw [Option.map_some, Option.all_some, Option.all_some]
      refine congrArg (List.any server.accounts) (funext fun account => ?_)
      refine congrArg (account.keyid == channel.source && ·) ?_
      exact congrArg (Option.any · account.safeAddress)
        (funext fun text => Hex.sameHex_encodeHex text safe.toList)
  unfold BlokliServer.selected
  rw [← h_safe, ← selects_withoutSafe server h_fits channel]
  unfold BlokliServer.selects
  -- what is left are the same conditions in another order
  simp only [QueryChannels.arguments, SubscribeChannels.arguments, Option.all_none, Bool.and_true]
  ac_rfl

/-- The statistics are asked for with the arguments of the query. -/
theorem statsArguments_eq (selector : ChannelSelector) :
    QueryChannelStats.arguments (.ofSelector selector) =
      QueryChannels.arguments (.ofSelector selector) := by
  obtain ⟨filter, status, safeAddress⟩ := selector
  cases filter with
  | none => rfl
  | some filter => cases filter <;> rfl

/-- Rendering changes nothing, and refuses the status `Unknown`. -/
theorem render_ok {args args' : ChannelArguments} (h : render args = .ok args') :
    args' = args ∧ args.status ≠ some .unknown := by
  unfold render at h
  split at h
  · cases h
  · next h_status => exact ⟨(Except.ok.inj h).symm, h_status⟩

/-! ### The safe of a node -/

/-- A computation that succeeds ran all its parts. -/
theorem except_bind_ok {ε α β : Type} {x : Except ε α} {f : α → Except ε β} {b : β} :
    (x >>= f) = .ok b ↔ ∃ a, x = .ok a ∧ f a = .ok b := by
  cases x with
  | error error => exact ⟨fun h => (by cases h), fun ⟨_, h, _⟩ => (by cases h)⟩
  | ok a => exact ⟨fun h => ⟨a, rfl, h⟩, fun ⟨_, h, h'⟩ => by
      obtain rfl := Except.ok.inj h
      exact h'⟩

/-- An answer is what the server has. -/
theorem answer_ok {α : Type} {request : ChannelRequest} {value value' : α}
    (h : server.answer request value = .ok value') : value' = value := by
  unfold BlokliServer.answer at h
  split at h
  · cases h
  · exact (Except.ok.inj h).symm

/-- A text that parses spells its address. -/
theorem hexMatches_of_parse {value : Text} {address : ChainAddress}
    (h : parseChainAddressHex value = .ok address) :
    Hex.hexMatches value address.toList = true := by
  unfold parseChainAddressHex at h
  split at h
  · cases h
  · next bytes h_decode =>
    split at h
    · obtain rfl := Except.ok.inj h
      exact Hex.hexMatches_of_decodeHex h_decode
    · cases h

/-- The loop collects the key ids of every account of a node. -/
theorem keyIdsOfNodes_ok {nodes : List Text} {ids result : List Int32}
    (h : keyIdsOfNodes server nodes ids = .ok result) :
    (∀ id ∈ ids, id ∈ result) ∧ ∀ node ∈ nodes, ∀ account ∈ server.accounts,
      Hex.sameHex node account.chainKey = true → account.keyid ∈ result := by
  induction nodes generalizing ids with
  | nil =>
    obtain rfl := Except.ok.inj h
    exact ⟨fun _ h_id => h_id, fun _ h_node => absurd h_node List.not_mem_nil⟩
  | cons node nodes ih =>
    -- the address parses, and the accounts of the node are asked for
    obtain ⟨address, h_parse, h⟩ := except_bind_ok.mp h
    obtain ⟨accounts, h_accounts, h⟩ := except_bind_ok.mp h
    obtain rfl := answer_ok server h_accounts
    obtain ⟨h_old, h_nodes⟩ := ih h
    refine ⟨fun id h_id => h_old id (List.mem_append_left _ h_id), fun node' h_node account
      h_account h_key => ?_⟩
    rcases List.mem_cons.mp h_node with rfl | h_node
    · -- the node's own accounts were asked for by its address
      have h_node : Hex.sameHex address.encodeHex node' = true := by
        rw [Bytes.encodeHex, Hex.sameHex_encodeHex]
        exact hexMatches_of_parse h_parse
      refine h_old _ (List.mem_append_right _ (List.mem_map.mpr ⟨account, ?_, rfl⟩))
      exact List.mem_filter.mpr ⟨h_account, Hex.sameHex_trans h_node h_key⟩
    · -- the other nodes of the list
      exact h_nodes node' h_node account h_account h_key

/-- Every source that belongs to the safe is among its key ids. -/
theorem mem_sourceKeyIds (h_lists : server.ListsBound) {safe : ChainAddress} {ids : List Int32}
    (h : sourceKeyIdsForSafe server safe = .ok ids) {keyid : Int32}
    (h_bound : server.boundTo safe keyid = true) : keyid ∈ ids := by
  obtain ⟨account, h_account, h_keyid⟩ := List.any_eq_true.mp h_bound
  obtain ⟨h_keyid, h_safe⟩ := Bool.and_eq_true_iff.mp h_keyid
  obtain rfl := beq_iff_eq.mp h_keyid
  -- the account is bound to the safe by a text that spells its address
  obtain ⟨text, h_text, h_hex⟩ : ∃ text, account.safeAddress = some text ∧
      Hex.hexMatches text safe.toList = true := by
    cases h_text : account.safeAddress with
    | none =>
      rw [h_text] at h_safe
      cases h_safe
    | some text =>
      rw [h_text] at h_safe
      exact ⟨text, rfl, h_safe⟩
  -- the safe lists the chain key of the account
  have h_self : Hex.sameHex account.chainKey account.chainKey = true := beq_self_eq_true _
  obtain ⟨record, h_record, node, h_node, h_key⟩ :=
    (h_lists safe account.chainKey).mpr ⟨account, h_account, h_self, text, h_text, h_hex⟩
  obtain ⟨found, h_found, h⟩ := except_bind_ok.mp h
  obtain rfl := answer_ok server h_found
  rw [h_record] at h
  exact (keyIdsOfNodes_ok server h).2 node h_node account h_account h_key

/-! ### The operations -/

/-- The query returns what the selector selects. -/
theorem queryChannels_ok (h_lists : server.ListsBound) {selector : ChannelSelector}
    (h_fits : selector.Fits) {channels : List Channel}
    (h : queryChannels server selector = .ok channels) :
    channels = server.channels.filter (server.selected selector) := by
  unfold queryChannels at h
  -- without a filter nothing is asked
  split at h
  · cases h
  obtain ⟨args, h_args, h⟩ := except_bind_ok.mp h
  obtain ⟨rfl, -⟩ := render_ok h_args
  obtain ⟨found, h_found, h⟩ := except_bind_ok.mp h
  obtain rfl := answer_ok server h_found
  have h_selects : server.selects (QueryChannels.arguments (.ofSelector selector)) =
      server.selected selector := funext (selects_arguments server h_fits)
  rw [h_selects] at h
  -- only a selector of a safe is filtered once more
  cases h_safe : selector.safeAddress with
  | none =>
    rw [h_safe] at h
    exact (Except.ok.inj h).symm
  | some safe =>
    rw [h_safe] at h
    obtain ⟨ids, h_ids, h⟩ := except_bind_ok.mp h
    obtain rfl := Except.ok.inj h
    -- the second filter keeps what the server selected
    refine List.filter_eq_self.mpr fun channel h_channel => decide_eq_true ?_
    have h_selected := (List.mem_filter.mp h_channel).2
    have h_ok := (Bool.and_eq_true_iff.mp h_selected).2
    unfold BlokliServer.safeOk at h_ok
    rw [h_safe, Option.all_some] at h_ok
    exact mem_sourceKeyIds server h_lists h_ids h_ok

/-- The count counts what the selector selects. -/
theorem countChannels_ok (h_lists : server.ListsBound) {selector : ChannelSelector}
    (h_fits : selector.Fits) {count : UInt32} (h : countChannels server selector = .ok count) :
    count.toNat = (server.channels.filter (server.selected selector)).length := by
  unfold countChannels at h
  -- the client counts the rows of the list itself, or asks for the count
  split at h
  · obtain ⟨channels, h_channels, h⟩ := except_bind_ok.mp h
    obtain rfl := queryChannels_ok server h_lists h_fits h_channels
    split at h
    · next h_length =>
      obtain rfl := Except.ok.inj h
      exact UInt32.toNat_ofNat_of_lt' h_length
    · cases h
  · obtain ⟨args, h_args, h⟩ := except_bind_ok.mp h
    obtain ⟨rfl, -⟩ := render_ok h_args
    obtain ⟨answer, h_answer, h⟩ := except_bind_ok.mp h
    obtain rfl := Except.ok.inj h
    have h_selects : server.selects (QueryChannelCount.arguments (.ofSelector selector)) =
        server.selected selector := funext (selects_arguments server h_fits)
    unfold BlokliServer.answerCount at h_answer
    rw [h_selects] at h_answer
    -- a count that does not fit is no answer
    dsimp only at h_answer
    split at h_answer
    · next h_length =>
      obtain rfl := answer_ok server h_answer
      change (BitVec.ofNat 32 _).toNat = _
      rw [BitVec.toNat_ofNat]
      exact Nat.mod_eq_of_lt (by omega)
    · cases h_answer

/-- The statistics are of what the selector selects. -/
theorem queryChannelStats_ok {selector : ChannelSelector} (h_fits : selector.Fits)
    {stats : ChannelStats} (h : queryChannelStats server selector = .ok stats) :
    stats = server.stats (server.channels.filter (server.selected selector)) := by
  obtain ⟨args, h_args, h⟩ := except_bind_ok.mp h
  obtain ⟨rfl, -⟩ := render_ok h_args
  obtain rfl := answer_ok server h
  rw [statsArguments_eq]
  exact congrArg (fun p => server.stats (server.channels.filter p))
    (funext (selects_arguments server h_fits))

/-- The stream carries what filter and status select. -/
theorem subscribeChannels_ok {selector : ChannelSelector} (h_fits : selector.Fits)
    {stream : List Channel} :
    subscribeChannels server selector = .ok stream ↔
      selector.status ≠ some .unknown ∧ stream = server.updates.filter selector.identifies := by
  -- the arguments of the stream carry everything but the safe
  have h_selects : server.selects (SubscribeChannels.arguments (.ofSelector selector)) =
      selector.identifies := funext (selects_withoutSafe server h_fits)
  have h_status : (SubscribeChannels.arguments (.ofSelector selector)).status =
      selector.status := by
    obtain ⟨filter, status, safeAddress⟩ := selector
    cases filter with
    | none => rfl
    | some filter => cases filter <;> rfl
  -- the stream is opened, or cannot be rendered
  constructor
  · intro h
    obtain ⟨⟨stream', name⟩, h_stream, h⟩ := except_bind_ok.mp h
    obtain rfl := Except.ok.inj h
    obtain ⟨args, h_args, h_stream⟩ := except_bind_ok.mp h_stream
    obtain ⟨rfl, h_known⟩ := render_ok h_args
    obtain ⟨rfl, -⟩ := Prod.mk.inj (Except.ok.inj h_stream)
    exact ⟨h_status ▸ h_known, by rw [h_selects]⟩
  · rintro ⟨h_known, rfl⟩
    rw [← h_status] at h_known
    unfold subscribeChannels subscribeChannelsWithHealth GraphQlQueries.subscribeChannels render
    rw [if_neg h_known, ← h_selects]
    rfl

/-- Every operation that succeeds honours the whole selector. -/
structure Honoured (selector : ChannelSelector) : Prop where
  query : ∀ channels, queryChannels server selector = .ok channels →
    channels = server.channels.filter (server.selected selector)
  count : ∀ count, countChannels server selector = .ok count →
    count.toNat = (server.channels.filter (server.selected selector)).length
  stats : ∀ stats, queryChannelStats server selector = .ok stats →
    stats = server.stats (server.channels.filter (server.selected selector))
  stream : ∀ stream, subscribeChannels server selector = .ok stream →
    stream = server.updates.filter (server.selected selector)
  streamWithHealth : ∀ stream name,
    subscribeChannelsWithHealth server selector = .ok (stream, name) →
    stream = server.updates.filter (server.selected selector)

/-- **When the channel operations honour a selector**: the query, the count and the
stats always do. The stream does when the selector names no safe, or a status that
cannot be sent, or when every update that has the identity and the status has a
source that belongs to the safe. -/
theorem channel_operations_honour_selector (h_lists : server.ListsBound)
    {selector : ChannelSelector} (h_fits : selector.Fits) :
    Honoured server selector ↔
      selector.safeAddress = none ∨ selector.status = some .unknown ∨
        ∀ channel ∈ server.updates, selector.identifies channel = true →
          server.safeOk selector channel = true := by
  -- two filters of the updates agree when their predicates agree on the updates
  have h_filter : server.updates.filter selector.identifies =
      server.updates.filter (server.selected selector) ↔
      ∀ channel ∈ server.updates, selector.identifies channel = true →
        server.safeOk selector channel = true := by
    constructor
    · intro h_eq channel h_channel h_id
      have h_mem : channel ∈ server.updates.filter (server.selected selector) := by
        rw [← h_eq]
        exact List.mem_filter.mpr ⟨h_channel, h_id⟩
      exact (Bool.and_eq_true_iff.mp (List.mem_filter.mp h_mem).2).2
    · intro h_safe
      refine List.filter_congr fun channel h_channel => ?_
      unfold BlokliServer.selected
      cases h_id : selector.identifies channel with
      | false => rfl
      | true => rw [h_safe channel h_channel h_id, Bool.and_true]
  -- the operations agree exactly when the stream loses nothing by not knowing the safe
  constructor
  · intro h
    by_cases h_status : selector.status = some .unknown
    · exact Or.inr (Or.inl h_status)
    · have h_stream := h.stream _ ((subscribeChannels_ok server h_fits).mpr ⟨h_status, rfl⟩)
      exact Or.inr (Or.inr (h_filter.mp h_stream))
  · intro h
    -- the stream is the operation that a condition is needed for
    have h_stream : ∀ stream, subscribeChannels server selector = .ok stream →
        stream = server.updates.filter (server.selected selector) := by
      intro stream h_ok
      obtain ⟨h_known, rfl⟩ := (subscribeChannels_ok server h_fits).mp h_ok
      rw [h_filter]
      rcases h with h_none | h_unknown | h_safe
      · intro channel _ _
        unfold BlokliServer.safeOk
        rw [h_none, Option.all_none]
      · exact absurd h_unknown h_known
      · exact h_safe
    exact {
      query := fun _ => queryChannels_ok server h_lists h_fits
      count := fun _ => countChannels_ok server h_lists h_fits
      stats := fun _ => queryChannelStats_ok server h_fits
      stream := h_stream
      streamWithHealth := fun stream name h_ok => h_stream stream
        (except_bind_ok.mpr ⟨(stream, name), h_ok, rfl⟩) }

/-! ### A server with one safe -/

/-- One account with key id 1, bound to one safe, and one channel, which is also the
only update. -/
def BlokliServer.ofSafe (safe : ChainAddress) (node : Text) (channel : Channel) :
    BlokliServer where
  channels := [channel]
  accounts := [{
    chainKey := node
    keyid := 1
    multiAddresses := []
    packetKey := []
    safeAddress := some safe.encodeHex }]
  safes := [{
    address := safe.encodeHex
    chainKey := node
    owners := []
    moduleAddress := []
    registeredNodes := [node]
    threshold := none }]
  updates := [channel]
  stats channels := { count := Int32.ofNat channels.length, balance := [] }
  refuse _ := none

/-- The sample server lists its safe's account. -/
theorem ofSafe_listsBound (safe : ChainAddress) (node : Text) (channel : Channel) :
    (BlokliServer.ofSafe safe node channel).ListsBound := by
  intro other key
  have h_at : Hex.sameHex other.encodeHex safe.encodeHex =
      Hex.hexMatches safe.encodeHex other.toList := Hex.sameHex_encodeHex _ _
  -- the only safe is the given one, with the given node
  constructor
  · rintro ⟨record, h_record, h_node⟩
    unfold BlokliServer.safeAt at h_record
    have h_safe := List.find?_some h_record
    obtain rfl := List.mem_singleton.mp (List.mem_of_find?_eq_some h_record)
    obtain ⟨_, h_mem, h_key⟩ := h_node
    obtain rfl := List.mem_singleton.mp h_mem
    exact ⟨_, List.mem_singleton.mpr rfl, h_key, _, rfl, h_at ▸ h_safe⟩
  · rintro ⟨account, h_account, h_key, text, h_text, h_hex⟩
    obtain rfl := List.mem_singleton.mp h_account
    obtain rfl := Option.some.inj h_text
    have h_found : (BlokliServer.ofSafe safe node channel).safeAt other.encodeHex = some _ :=
      List.find?_cons_of_pos (h_at.trans h_hex)
    exact ⟨_, h_found, node, List.mem_singleton.mpr rfl, h_key⟩

/-- A channel with the given source. -/
def channelFrom (source : Int32) : Channel where
  balance := "1 wxHOPR".toList
  closureTime := none
  concreteChannelId := "0x01".toList
  destination := 3
  epoch := 1
  source := source
  status := .opened
  ticketIndex := "0".toList

def sampleSafe : ChainAddress := ⟨List.replicate 20 17, rfl⟩

/-- The theorem at a selector with a safe. -/
theorem channel_operations_honour_selector_safe :
    Honoured (.ofSafe sampleSafe "0x22".toList (channelFrom 1))
      { safeAddress := some sampleSafe } :=
  (channel_operations_honour_selector _ (ofSafe_listsBound _ _ _)
    (fun _ h_filter => by cases h_filter)).mpr
    (Or.inr (Or.inr fun channel h_channel _ => by
      obtain rfl := List.mem_singleton.mp h_channel
      decide +kernel))

/-- The update of a channel whose source belongs to no safe is streamed to a
subscriber that asks for a safe. -/
theorem stream_ignores_safe :
    ¬ ∀ (server : BlokliServer) (selector : ChannelSelector), server.ListsBound →
      selector.Fits → Honoured server selector := by
  intro h
  have h_stream := (h (.ofSafe sampleSafe "0x22".toList (channelFrom 2))
    { safeAddress := some sampleSafe } (ofSafe_listsBound _ _ _)
    (fun _ h_filter => by cases h_filter)).stream [channelFrom 2] rfl
  revert h_stream
  decide +kernel

end Blokli
