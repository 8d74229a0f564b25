import BlokliClient.Testing.Channels
import BlokliClient.Testing.Converge

/-!
# Streams of whole records

The streams of the accounts, the safes, the channels and the channel graph yield whole
records. A consumer keeps the last record of each identifier. In a run in which no
transaction publishes between a snapshot and the activation of its receiver, what it keeps
is what the state has.

* `Ledger` says where the records of a kind are in the state, and in the items.
* `Ledger.following` takes what a consumer keeps along the changes.
* `record_subscriptions_converge` is the statement about every run.
-/

namespace Blokli.Testing

open Worklist Trail Replay

/-! ### Records of one kind -/

/-- Records that are kept in a map of the state, under their identifiers. -/
structure Ledger (κ α : Type) where
  map : BlokliTestState → IndexMap κ α
  id : α → κ
  ofItem : Item → Option α

namespace Ledger

variable {κ α : Type} (ledger : Ledger κ α)

/-- The keys of the map are the identifiers of the records. -/
def Identified (state : BlokliTestState) : Prop :=
  ∀ entry ∈ (ledger.map state).entries, ledger.id entry.2 = entry.1

/-- The records of the state that pass the filter. -/
def records (keep : α → Bool) (state : BlokliTestState) : List α :=
  (ledger.map state).values.filter keep

variable [DecidableEq κ]

/-- The last record of each identifier among the items. -/
def latest (items : List (Except ErrorKind Item)) : IndexMap κ α :=
  replay ledger.id some ∅ (items.filterMap fun item => item.toOption.bind ledger.ofItem)

/-- The records that are new or that `changed` holds of. -/
def changes (changed : α → α → Bool) (oldState state : BlokliTestState) : List α :=
  ((ledger.map state).entries.filter fun entry =>
    ((ledger.map oldState).lookup entry.1).all fun old => changed old entry.2).map
      fun entry => entry.2

/-- No record is gone, records that `changed` does not hold of are the same, and the filter
keeps the records of an identifier or leaves all of them out. -/
structure Keeps (keep : α → Bool) (changed : α → α → Bool)
    (oldState state : BlokliTestState) : Prop where
  old : ledger.Identified oldState
  new : ledger.Identified state
  kept : ∀ key ∈ ledger.map oldState, key ∈ ledger.map state
  same : ∀ key old new, (ledger.map oldState).lookup key = some old →
    (ledger.map state).lookup key = some new →
      keep old = keep new ∧ (changed old new = false → old = new)

variable {ledger} {keep : α → Bool} {changed : α → α → Bool} {oldState state : BlokliTestState}

omit [DecidableEq κ] in
/-- The records of a state that are looked at. -/
theorem mem_records {v : α} : v ∈ ledger.records keep state ↔
    (∃ key, ⟨key, v⟩ ∈ (ledger.map state).entries) ∧ keep v = true := by
  unfold records
  rw [List.mem_filter, IndexMap.mem_values]

omit [DecidableEq κ] in
/-- Without a filter, all records of the map are looked at. -/
theorem records_all : ledger.records (fun _ => true) state = (ledger.map state).values := by
  unfold records
  exact List.filter_true _

omit [DecidableEq κ] in
/-- No two of them have one identifier. -/
theorem nodup_records (h : ledger.Identified state) :
    ((ledger.records keep state).map ledger.id).Nodup := by
  -- the identifiers of a part of the map
  have h_sublist : ((ledger.records keep state).map ledger.id).Sublist
      ((ledger.map state).values.map ledger.id) := List.filter_sublist.map ledger.id
  -- which are its keys
  have h_keys :
      (ledger.map state).values.map ledger.id = (ledger.map state).entries.map Sigma.fst := by
    unfold IndexMap.values
    rw [List.map_map]
    exact List.map_congr_left h
  rw [h_keys] at h_sublist
  exact h_sublist.nodup (ledger.map state).nodupKeys

/-- What changed, or is new. -/
theorem mem_changes {v : α} : v ∈ ledger.changes changed oldState state ↔
    ∃ key, ⟨key, v⟩ ∈ (ledger.map state).entries ∧
      ∀ old, (ledger.map oldState).lookup key = some old → changed old v = true := by
  unfold changes
  rw [List.mem_map]
  constructor
  · -- an entry of the map, new or with another value before
    rintro ⟨⟨key, v⟩, h_entry, rfl⟩
    obtain ⟨h_mem, h_all⟩ := List.mem_filter.mp h_entry
    exact ⟨key, h_mem, fun old h_old => (Option.all_eq_true _ _).mp h_all old h_old⟩
  · rintro ⟨key, h_mem, h_changed⟩
    exact ⟨⟨key, v⟩, List.mem_filter.mpr ⟨h_mem, (Option.all_eq_true _ _).mpr h_changed⟩, rfl⟩

/-- **Records follow one transaction.** -/
theorem lookup_changes (h_step : ledger.Keeps keep changed oldState state) {m : IndexMap κ α}
    (h : ∀ k, m.lookup k = index ledger.id (ledger.records keep oldState) k) (k : κ) :
    (replay ledger.id some m ((ledger.changes changed oldState state).filter keep)).lookup k =
      index ledger.id (ledger.records keep state) k := by
  -- each published change carries the record of the state it leads to
  refine lookup_replay_of_changes h (fun v h_v => ?_) (fun k h_silent => ?_) k
  · obtain ⟨h_mem, h_keep⟩ := List.mem_filter.mp h_v
    obtain ⟨key, h_entry, -⟩ := mem_changes.mp h_mem
    exact ((index_eq_some (nodup_records h_step.new)).mpr
      ⟨mem_records.mpr ⟨⟨key, h_entry⟩, h_keep⟩, rfl⟩).symm
  · -- an identifier without a change has the same record in both states
    have h_unchanged : ∀ v, ⟨k, v⟩ ∈ (ledger.map state).entries → keep v = true →
        ∃ old, (ledger.map oldState).lookup k = some old ∧ changed old v = false := by
      intro v h_entry h_keep
      by_contra h_none
      refine h_silent v (List.mem_filter.mpr ⟨mem_changes.mpr ⟨k, h_entry, fun old h_old => ?_⟩,
        h_keep⟩) (h_step.new _ h_entry)
      by_contra h_changed
      exact h_none ⟨old, h_old, Bool.eq_false_iff.mpr h_changed⟩
    refine index_congr (nodup_records h_step.old) (nodup_records h_step.new) fun v h_id => ?_
    rw [mem_records, mem_records]
    refine and_congr_left fun h_keep => ?_
    constructor
    · -- a record of the old state: its key stays, and the record at it did not change
      rintro ⟨key, h_entry⟩
      obtain rfl : key = k := (h_step.old _ h_entry).symm.trans h_id
      obtain ⟨new, h_new⟩ := IndexMap.exists_entry (h_step.kept key (IndexMap.mem_of_entry h_entry))
      obtain ⟨h_filter, h_same⟩ := h_step.same key v new (AList.mem_lookup_iff.mpr h_entry)
        (AList.mem_lookup_iff.mpr h_new)
      obtain ⟨old, h_old, h_changed⟩ := h_unchanged new h_new (h_filter.symm.trans h_keep)
      obtain rfl : v = old :=
        Option.some.inj ((AList.mem_lookup_iff.mpr h_entry : _ = some v).symm.trans h_old)
      rw [h_same h_changed]
      exact ⟨key, h_new⟩
    · -- a record of the new state: it is no change, so it was there
      rintro ⟨key, h_entry⟩
      obtain rfl : key = k := (h_step.new _ h_entry).symm.trans h_id
      obtain ⟨old, h_old, h_changed⟩ := h_unchanged v h_entry h_keep
      rw [← (h_step.same key old v h_old (AList.mem_lookup_iff.mpr h_entry)).2 h_changed]
      exact ⟨key, AList.mem_lookup_iff.mp h_old⟩

/-- A consumer that starts with the records of a state. -/
theorem lookup_records (h : ledger.Identified state) (k : κ) :
    (replay ledger.id some ∅ (ledger.records keep state)).lookup k =
      index ledger.id (ledger.records keep state) k := by
  refine lookup_replay_of_agree (fun v h_v h_id => ?_) fun h_none => ?_
  · exact ((index_eq_some (nodup_records h)).mpr ⟨h_v, h_id⟩).symm
  · refine (Option.eq_none_iff_forall_not_mem.mpr fun v h_v => ?_).symm
    obtain ⟨h_mem, h_id⟩ := (index_eq_some (nodup_records h)).mp h_v
    exact h_none v h_mem h_id

/-- **A consumer of records follows the state.** -/
theorem following {ofEvent : Event → Option α}
    {R : BlokliTestState → BlokliTestState → Prop}
    (h_R : ∀ {oldState state}, R oldState state → ledger.Keeps keep changed oldState state ∧
      (publications oldState state).filterMap ofEvent =
        (ledger.changes changed oldState state).filter keep) :
    Following publications R (fun m events => replay ledger.id some m (events.filterMap ofEvent))
      (fun state m => ∀ k, m.lookup k = index ledger.id (ledger.records keep state) k) where
  nil _ := rfl
  append m events events' := by rw [List.filterMap_append, replay_append]
  step oldState state m h_step h_old k := by
    obtain ⟨h_keeps, h_changes⟩ := h_R h_step
    rw [h_changes]
    exact lookup_changes h_keeps h_old k

variable (ledger) in
/-- **What a consumer of a stream keeps** when nothing is left to publish. -/
theorem converges {c : Conf} {stream : Stream} {R : BlokliTestState → BlokliTestState → Prop}
    (h : Linearized c stream) (h_current : c.store.Current) (h_chain : c.store.written.IsChain R)
    (h_quiet : ∀ t, unpublished stream.subscription.feed (c.todo t) = [])
    (h_identified : ∀ state ∈ c.store.written, ledger.Identified state)
    (h_initial : ∀ state ∈ c.store.written,
      (stream.subscription.initialPart state).filterMap
        (fun item => item.toOption.bind ledger.ofItem) = ledger.records keep state)
    (h_R : ∀ {oldState state}, R oldState state → ledger.Keeps keep changed oldState state ∧
      (publications oldState state).filterMap (fun event =>
        (stream.subscription.livePart stream.accounts event).bind ledger.ofItem) =
          (ledger.changes changed oldState state).filter keep) :
    (ledger.latest (stream.items c.store)).values.Perm (ledger.records keep c.store.state) := by
  -- the stream carries an initial part and what was published behind it
  obtain ⟨first, h_first, events, h_items, h_follows⟩ :=
    h.follows (following h_R) h_current h_chain h_quiet
  -- what the live part carries of this ledger
  have h_live : (stream.live events).filterMap (fun item => item.toOption.bind ledger.ofItem) =
      events.filterMap fun event =>
        (stream.subscription.livePart stream.accounts event).bind ledger.ofItem := by
    unfold Stream.live
    rw [List.filterMap_filterMap]
    refine congrArg (List.filterMap · events) (funext fun event => ?_)
    cases stream.subscription.livePart stream.accounts event <;> rfl
  -- the final state is coherent, which makes its records distinct
  have h_last := h_identified _ (List.mem_of_getLast? h_current)
  refine values_perm_of_lookup (nodup_records h_last) ?_
  unfold latest
  rw [h_items, List.filterMap_append, replay_append, h_initial first h_first, h_live]
  exact h_follows _ (lookup_records (h_identified first h_first))

end Ledger

/-! ### Accounts, safes and channels -/

def accountLedger : Ledger UInt32 Account where
  map := BlokliTestState.accounts
  id account := account.keyid.toUInt32
  ofItem
    | .account account => some account
    | _ => none

def safeLedger : Ledger Text Safe where
  map := BlokliTestState.deployedSafes
  id := Safe.address
  ofItem
    | .safe safe => some safe
    | _ => none

/-- The channels, and those of the channel graph. -/
def channelLedger : Ledger Text Channel where
  map := BlokliTestState.channels
  id := Channel.concreteChannelId
  ofItem
    | .channel channel => some channel
    | .graphEntry entry => some entry.channel
    | _ => none

/-- The records are kept under their identifiers, and the accounts of the endpoints of the
channels are known. -/
structure Coherent (state : BlokliTestState) : Prop where
  accounts : accountLedger.Identified state
  safes : safeLedger.Identified state
  channels : channelLedger.Identified state
  endpoints : ∀ channel ∈ state.channels.values, (joinEndpoints state channel).isSome = true

/-- One state after another: no record is gone, an account keeps its keys, and a channel
keeps its endpoints. -/
structure Succeeds (oldState state : BlokliTestState) : Prop where
  old : Coherent oldState
  new : Coherent state
  accounts : ∀ key ∈ oldState.accounts, key ∈ state.accounts
  safes : ∀ key ∈ oldState.deployedSafes, key ∈ state.deployedSafes
  channels : ∀ key ∈ oldState.channels, key ∈ state.channels
  keys : ∀ key old new, oldState.accounts.lookup key = some old →
    state.accounts.lookup key = some new →
      old.chainKey = new.chainKey ∧ old.keyid = new.keyid ∧ old.packetKey = new.packetKey
  parties : ∀ key old new, oldState.channels.lookup key = some old →
    state.channels.lookup key = some new →
      old.source = new.source ∧ old.destination = new.destination

/-- Every written state is coherent, and succeeds the one before. -/
structure RecordsKept (written : List BlokliTestState) : Prop where
  coherent : ∀ state ∈ written, Coherent state
  chain : written.IsChain Succeeds

namespace Succeeds

variable {oldState state : BlokliTestState} (h : Succeeds oldState state)
include h

/-- The filter on the accounts looks at their keys only. -/
theorem keeps_accounts (selector : AccountSelector) :
    accountLedger.Keeps (accountMatches · selector)
      (fun old new => old.safeAddress != new.safeAddress ||
        old.multiAddresses != new.multiAddresses) oldState state where
  old := h.old.accounts
  new := h.new.accounts
  kept := h.accounts
  same key old new h_old h_new := by
    -- a mutator leaves the identity of an account alone
    obtain ⟨h_chain, h_id, h_packet⟩ := h.keys key old new h_old h_new
    constructor
    · unfold accountMatches
      rw [h_chain, h_id, h_packet]
    · intro h_same
      obtain ⟨h_safe, h_multi⟩ := Bool.or_eq_false_iff.mp h_same
      -- what is compared is what can change
      obtain ⟨chainKey, keyid, multiAddresses, packetKey, safeAddress⟩ := old
      obtain ⟨chainKey', keyid', multiAddresses', packetKey', safeAddress'⟩ := new
      obtain rfl : chainKey = chainKey' := h_chain
      obtain rfl : keyid = keyid' := h_id
      obtain rfl : packetKey = packetKey' := h_packet
      obtain rfl : safeAddress = safeAddress' := bne_eq_false_iff_eq.mp h_safe
      obtain rfl : multiAddresses = multiAddresses' := bne_eq_false_iff_eq.mp h_multi
      rfl

/-- A safe that changed is announced. -/
theorem keeps_safes : safeLedger.Keeps (fun _ => true) (fun old new => old != new)
    oldState state where
  old := h.old.safes
  new := h.new.safes
  kept := h.safes
  same _ _ _ _ _ := ⟨rfl, bne_eq_false_iff_eq.mp⟩

/-- A filter that looks at the identifier and the endpoints only. -/
theorem keeps_channels (keep : Channel → Bool)
    (h_keep : ∀ old new : Channel, old.concreteChannelId = new.concreteChannelId →
      old.source = new.source → old.destination = new.destination → keep old = keep new) :
    channelLedger.Keeps keep (fun old new => old != new) oldState state where
  old := h.old.channels
  new := h.new.channels
  kept := h.channels
  same key old new h_old h_new := by
    -- a channel keeps its ends
    obtain ⟨h_source, h_destination⟩ := h.parties key old new h_old h_new
    have h_id : old.concreteChannelId = new.concreteChannelId :=
      (h.old.channels _ (AList.mem_lookup_iff.mp h_old)).trans
        (h.new.channels _ (AList.mem_lookup_iff.mp h_new)).symm
    exact ⟨h_keep old new h_id h_source h_destination, bne_eq_false_iff_eq.mp⟩

/-- Every changed channel is published. -/
theorem channelChanges_map : (channelChanges oldState state).map (fun entry => entry.2.1) =
    channelLedger.changes (fun old new => old != new) oldState state := by
  -- an endpoint of a known channel is known as well
  have h_known : ∀ channel ∈ changedChannels oldState state,
      ∃ source destination, joinEndpoints state channel = some (source, channel, destination) := by
    intro channel h_channel
    obtain ⟨⟨key, channel⟩, h_entry, rfl⟩ := List.mem_map.mp h_channel
    have h_some := h.new.endpoints channel
      (IndexMap.mem_values.mpr ⟨key, (List.mem_filter.mp h_entry).1⟩)
    unfold joinEndpoints at h_some ⊢
    split at h_some
    · next source destination h_source h_destination => exact ⟨source, destination, by
        rw [h_source, h_destination]⟩
    · cases h_some
  unfold channelChanges
  rw [List.map_filterMap]
  -- so the join keeps every changed channel, and the channel is its middle
  have h_self : (changedChannels oldState state).filterMap
      (fun channel => (joinEndpoints state channel).map fun entry => entry.2.1) =
        (changedChannels oldState state).filterMap some := by
    refine List.filterMap_congr fun channel h_channel => ?_
    obtain ⟨source, destination, h_join⟩ := h_known channel h_channel
    rw [h_join]
    rfl
  rw [h_self, List.filterMap_some]
  rfl

end Succeeds

/-! ### What the streams yield -/

section Streams

/-- The filter of a stream that takes some records and keeps what passes. -/
theorem filterMap_ite {α : Type} (keep : α → Bool) (l : List α) :
    (l.filterMap fun v => if keep v = true then some v else none) = l.filter keep := by
  rw [← List.filterMap_eq_filter]
  rfl

/-- The initial part of an account stream has the accounts of the query. -/
theorem initial_accounts (selector : AccountSelector) (state : BlokliTestState) :
    ((Subscription.accounts selector).initialPart state).filterMap
      (fun item => item.toOption.bind accountLedger.ofItem) =
        accountLedger.records (accountMatches · selector) state := by
  -- the selector that takes all has a path of its own
  have h_initial : (Subscription.accounts selector).initialPart state =
      (state.queryAccounts selector).map fun account => .ok (.account account) := by
    cases selector with
    | any =>
      have h_all : state.queryAccounts .any = state.accounts.values :=
        List.filter_eq_self.mpr fun _ _ => rfl
      rw [h_all]
      rfl
    | address | keyId | packetKey => rfl
  rw [h_initial, List.filterMap_map]
  exact List.filterMap_some

/-- A transaction announces the accounts that it changed, and that match. -/
theorem publications_accounts (oldState state : BlokliTestState) (selector : AccountSelector)
    (accounts : IndexMap UInt32 Account) :
    (publications oldState state).filterMap (fun event =>
      ((Subscription.accounts selector).livePart accounts event).bind accountLedger.ofItem) =
        (accountChanges oldState state).filter (accountMatches · selector) := by
  rw [← filterMap_ite]
  unfold publications
  simp only [List.filterMap_append, List.filterMap_map, Function.comp_def, Subscription.livePart,
    Option.bind_none, List.filterMap_none, List.append_nil]
  refine congrArg (List.filterMap · _) (funext fun account => ?_)
  split <;> rfl

/-- The initial part of a safe stream has all safes. -/
theorem initial_safes (state : BlokliTestState) :
    (Subscription.safeDeployments.initialPart state).filterMap
      (fun item => item.toOption.bind safeLedger.ofItem) =
        safeLedger.records (fun _ => true) state := by
  rw [Ledger.records_all]
  show (state.deployedSafes.values.map fun safe =>
    (.ok (.safe safe) : Except ErrorKind Item)).filterMap _ = state.deployedSafes.values
  rw [List.filterMap_map]
  exact List.filterMap_some

/-- A transaction announces the safes that it changed. -/
theorem publications_safes (oldState state : BlokliTestState)
    (accounts : IndexMap UInt32 Account) :
    (publications oldState state).filterMap (fun event =>
      (Subscription.safeDeployments.livePart accounts event).bind safeLedger.ofItem) =
        safeChanges oldState state := by
  unfold publications
  simp only [List.filterMap_append, List.filterMap_map, Function.comp_def, Subscription.livePart,
    Option.bind_none, List.filterMap_none, List.append_nil, List.nil_append]
  exact List.filterMap_some

/-- A transaction announces the channels that it changed, and that match. -/
theorem publications_channels (oldState state : BlokliTestState) (selector : ChannelSelector)
    (accounts : IndexMap UInt32 Account) :
    (publications oldState state).filterMap (fun event =>
      ((Subscription.channels selector).livePart accounts event).bind channelLedger.ofItem) =
        ((channelChanges oldState state).map fun entry => entry.2.1).filter fun channel =>
          selector.matchesAll || channelMatches channel selector accounts := by
  rw [← filterMap_ite]
  unfold publications
  simp only [List.filterMap_append, List.filterMap_map, Function.comp_def, Subscription.livePart,
    Option.bind_none, List.filterMap_none, List.append_nil, List.nil_append]
  refine congrArg (List.filterMap · _) (funext fun entry => ?_)
  split <;> rfl

/-- For the graph, it announces all channels that it changed. -/
theorem publications_graph (oldState state : BlokliTestState)
    (accounts : IndexMap UInt32 Account) :
    (publications oldState state).filterMap (fun event =>
      (Subscription.graph.livePart accounts event).bind channelLedger.ofItem) =
        (channelChanges oldState state).map fun entry => entry.2.1 := by
  unfold publications
  simp only [List.filterMap_append, List.filterMap_map, Function.comp_def, Subscription.livePart,
    Option.bind_none, List.filterMap_none, List.append_nil, List.nil_append]
  exact congrFun List.filterMap_eq_map' _

/-- The initial part of the graph, when the endpoints are known. -/
theorem initial_graph {state : BlokliTestState} (h : Coherent state) :
    (Subscription.graph.initialPart state).filterMap
      (fun item => item.toOption.bind channelLedger.ofItem) =
        channelLedger.records (fun _ => true) state := by
  -- a channel of a coherent state has both its ends
  have h_entry : ∀ channel ∈ state.channels.values,
      (graphEntry state.accounts channel).toOption.bind channelLedger.ofItem = some channel := by
    intro channel h_channel
    obtain ⟨source, destination, h_source, h_destination⟩ :
        ∃ source destination, state.accounts.lookup channel.source.toUInt32 = some source ∧
          state.accounts.lookup channel.destination.toUInt32 = some destination := by
      -- it is published at least, so that both lookups succeed
      have h_some := h.endpoints channel h_channel
      unfold joinEndpoints at h_some
      split at h_some
      · next source destination h_source h_destination =>
        exact ⟨source, destination, h_source, h_destination⟩
      · cases h_some
    unfold graphEntry
    rw [h_source, h_destination]
    rfl
  rw [Ledger.records_all]
  show (state.channels.values.map (graphEntry state.accounts)).filterMap _ = state.channels.values
  rw [List.filterMap_map]
  exact (List.filterMap_congr h_entry).trans List.filterMap_some

/-- Without a filter on the status or the safe, only the identifier and the endpoints of a
channel count. -/
theorem channelMatches_congr {selector : ChannelSelector} (h_status : selector.status = none)
    (h_safe : selector.safeAddress = none) {old new : Channel}
    (h_id : old.concreteChannelId = new.concreteChannelId) (h_source : old.source = new.source)
    (h_destination : old.destination = new.destination)
    (accounts accounts' : IndexMap UInt32 Account) :
    channelMatches old selector accounts = channelMatches new selector accounts' := by
  unfold channelMatches
  rw [h_status, h_safe, h_id, h_source, h_destination]
  rfl

/-- A selector without conditions matches every channel. -/
theorem channelMatches_of_matchesAll {selector : ChannelSelector} (h : selector.matchesAll = true)
    (channel : Channel) (accounts : IndexMap UInt32 Account) :
    channelMatches channel selector accounts = true := by
  unfold ChannelSelector.matchesAll at h
  simp only [Bool.and_eq_true, Option.isNone_iff_eq_none] at h
  obtain ⟨⟨h_filter, h_status⟩, h_safe⟩ := h
  unfold channelMatches
  rw [h_filter, h_status, h_safe]
  rfl

/-- With or without the shortcut for a selector that matches all. -/
theorem matchesAll_or (selector : ChannelSelector) (channel : Channel)
    (accounts : IndexMap UInt32 Account) :
    (selector.matchesAll || channelMatches channel selector accounts) =
      channelMatches channel selector accounts := by
  cases h_all : selector.matchesAll with
  | true => exact (channelMatches_of_matchesAll h_all channel accounts).symm
  | false => rfl

/-- What such a selector selects does not depend on the accounts. -/
theorem queryChannels_records {selector : ChannelSelector} (h_status : selector.status = none)
    (h_safe : selector.safeAddress = none) (state : BlokliTestState) :
    state.queryChannels selector =
      channelLedger.records (channelMatches · selector ∅) state :=
  List.filter_congr fun _ _ => channelMatches_congr h_status h_safe rfl rfl rfl _ _

/-- The initial part of a channel stream has the channels of the query. -/
theorem initial_channels {selector : ChannelSelector} (h_status : selector.status = none)
    (h_safe : selector.safeAddress = none) (state : BlokliTestState) :
    ((Subscription.channels selector).initialPart state).filterMap
      (fun item => item.toOption.bind channelLedger.ofItem) =
        channelLedger.records (channelMatches · selector ∅) state := by
  -- without status and safe, the accounts make no difference
  have h_query : (if selector.matchesAll then state.channels.values
      else state.queryChannels selector) =
        channelLedger.records (channelMatches · selector ∅) state := by
    split
    · -- the path without a filter
      next h_all =>
      exact (List.filter_eq_self.mpr fun channel _ => channelMatches_of_matchesAll h_all _ _).symm
    · exact queryChannels_records h_status h_safe state
  rw [← h_query]
  show ((if selector.matchesAll then state.channels.values
    else state.queryChannels selector).map fun channel =>
      (.ok (.channel channel) : Except ErrorKind Item)).filterMap _ = _
  rw [List.filterMap_map]
  exact List.filterMap_some

end Streams

/-- **A consumer of a filtered channel stream** has the channels of the query, as long as each
change can be followed with the accounts that the stream has read. -/
theorem channels_following (captured : IndexMap UInt32 Account) (selector : ChannelSelector) :
    Following publications (Followed captured selector)
      (fun m events => replay Channel.concreteChannelId some m
        (deliveredChannels captured selector events))
      (fun state m => ∀ channel ∈ state.queryChannels selector,
        m.lookup channel.concreteChannelId = some channel) where
  nil _ := rfl
  append m events events' := by rw [deliveredChannels_append, replay_append]
  step _ _ _ h_step h_old _ h_channel := lookup_channels h_step h_old h_channel

/-- In a coherent state no two channels have one id. -/
theorem Coherent.distinct {state : BlokliTestState} (h : Coherent state) :
    DistinctChannels state := by
  have h_nodup : ((channelLedger.records (fun _ => true) state).map channelLedger.id).Nodup :=
    Ledger.nodup_records h.channels
  unfold Ledger.records at h_nodup
  rw [List.filter_true] at h_nodup
  exact h_nodup

/-- **The record subscriptions converge.** In every run without hidden updates in which no
transaction publishes between a snapshot and the activation of its receiver, and whose
states keep their records, the last records that a stream yielded are those of the state
whenever no transaction holds the lock. A channel stream with a filter on the status or the
safe has the channels of the query at least, if each transaction can be followed with the
accounts that it read first. -/
theorem record_subscriptions_converge {state : BlokliTestState} {c : Conf}
    (h : clientProgram.Reachable (start state) (fun c a => IsCall a ∧ Prompt c a) c)
    (h_kept : RecordsKept c.store.written) (h_free : c.store.lock.writer = none) {stream : Stream}
    (h_stream : stream ∈ c.store.streams) :
    (∀ selector, stream.subscription = .accounts selector →
      (accountLedger.latest (stream.items c.store)).values.Perm
        (c.store.state.queryAccounts selector)) ∧
    (stream.subscription = .safeDeployments →
      (safeLedger.latest (stream.items c.store)).values.Perm c.store.state.deployedSafes.values) ∧
    (∀ selector, stream.subscription = .channels selector → selector.status = none →
      selector.safeAddress = none →
        (channelLedger.latest (stream.items c.store)).values.Perm
          (c.store.state.queryChannels selector)) ∧
    (stream.subscription = .graph →
      (channelLedger.latest (stream.items c.store)).values.Perm c.store.state.channels.values) ∧
    ∀ selector, stream.subscription = .channels selector →
      c.store.written.IsChain (Followed stream.accounts selector) → ∃ channels,
        stream.items c.store = channels.map (fun channel => .ok (.channel channel)) ∧
        ∀ channel ∈ c.store.state.queryChannels selector,
          (upsertChannels channels).lookup channel.concreteChannelId = some channel := by
  -- the run, as the lemmas about streams read it
  have h_seq : Sequenced (fun _ => True) c := .reachable (fun _ _ h_a => h_a) h
  have h_lock : Disciplined c := .reachable h
  -- nobody is about to publish, since the lock is free
  have h_quiet : stream.subscription.feed ≠ .tickets →
      ∀ t, unpublished stream.subscription.feed (c.todo t) = [] :=
    fun h_feed => h_seq.arranged.quiet_of_free h_lock h_feed h_free
  have h_linear := h_seq.linearized h_lock h_stream trivial
  -- none of these streams is on the feed that publishes without the lock
  have h_other : ∀ {sub : Subscription}, stream.subscription = sub → sub.feed ≠ .tickets →
      stream.subscription.feed ≠ .tickets := fun h_sub h => h_sub ▸ h
  refine ⟨fun selector h_sub => ?_, fun h_sub => ?_, fun selector h_sub h_status h_safe => ?_,
    fun h_sub => ?_, fun selector h_sub h_followed => ?_⟩
  · -- accounts: by key id, filtered by the selector
    have h_feed := h_other h_sub Feed.noConfusion
    refine accountLedger.converges (h_linear h_feed) h_seq.recorded.current h_kept.chain
      (h_quiet h_feed)
      (fun s h_s => (h_kept.coherent s h_s).accounts) (fun s _ => ?_)
      fun h_step => ⟨h_step.keeps_accounts selector, ?_⟩
    -- the initial part
    · rw [h_sub]
      exact initial_accounts selector s
    -- the live part
    · rw [h_sub]
      exact publications_accounts _ _ selector _
  · -- safes: all of them, with nothing filtered
    have h_feed := h_other h_sub Feed.noConfusion
    have h_converges := safeLedger.converges (h_linear h_feed)
      h_seq.recorded.current h_kept.chain (h_quiet h_feed)
      (fun s h_s => (h_kept.coherent s h_s).safes) (fun s _ => ?_)
      fun h_step => ⟨h_step.keeps_safes, ?_⟩
    -- the query has no filter
    · rw [Ledger.records_all] at h_converges
      exact h_converges
    -- the initial part
    · rw [h_sub]
      exact initial_safes s
    -- the live part
    · rw [h_sub, List.filter_true]
      exact publications_safes _ _ _
  · -- channels: without status and safe, what a channel matches does not change
    have h_feed := h_other h_sub Feed.noConfusion
    have h_converges := channelLedger.converges (h_linear h_feed)
      h_seq.recorded.current h_kept.chain (h_quiet h_feed)
      (fun s h_s => (h_kept.coherent s h_s).channels) (fun s _ => ?_)
      fun h_step => ⟨h_step.keeps_channels (channelMatches · selector ∅)
        fun _ _ h_id h_source h_destination =>
          channelMatches_congr h_status h_safe h_id h_source h_destination _ _, ?_⟩
    -- the query compares with accounts, which makes no difference here
    · rw [queryChannels_records h_status h_safe]
      exact h_converges
    -- the initial part
    · rw [h_sub]
      exact initial_channels h_status h_safe s
    -- the live part
    · rw [h_sub, publications_channels, h_step.channelChanges_map]
      refine List.filter_congr fun channel _ => ?_
      rw [matchesAll_or]
      exact channelMatches_congr h_status h_safe rfl rfl rfl _ _
  · -- the graph: coherent states have the accounts of both ends
    have h_feed := h_other h_sub Feed.noConfusion
    have h_converges := channelLedger.converges (h_linear h_feed)
      h_seq.recorded.current h_kept.chain (h_quiet h_feed)
      (fun s h_s => (h_kept.coherent s h_s).channels) (fun s h_s => ?_)
      fun h_step => ⟨h_step.keeps_channels (fun _ => true) fun _ _ _ _ _ => rfl, ?_⟩
    -- the query has no filter
    · rw [Ledger.records_all] at h_converges
      exact h_converges
    · rw [h_sub]
      exact initial_graph (h_kept.coherent s h_s)
    · rw [h_sub, publications_graph, h_step.channelChanges_map, List.filter_true]
  · -- channels with any filter: each change is followed with the accounts of the stream
    have h_feed := h_other h_sub Feed.noConfusion
    -- the stream carries the initial part and the changes that match
    obtain ⟨first, h_first, events, h_items, h_follows⟩ :=
      (h_linear h_feed).follows (channels_following stream.accounts selector)
        h_seq.recorded.current h_followed (h_quiet h_feed)
    refine ⟨(if selector.matchesAll then first.channels.values else first.queryChannels selector) ++
      deliveredChannels stream.accounts selector events, ?_, fun channel h_channel => ?_⟩
    -- the fold starts from the channels it was given
    · rw [h_items, h_sub]
      unfold Stream.live
      rw [h_sub]
      exact items_channels first stream.accounts selector events
    · unfold upsertChannels
      rw [replay_append]
      exact h_follows _ (fun _ h_initial => lookup_initial_channels
        (h_kept.coherent first h_first).distinct h_initial) channel h_channel

/-- The default state has no channels and no safes. -/
theorem stateWith_coherent {accounts : IndexMap UInt32 Account}
    (h : ∀ entry ∈ accounts.entries, entry.2.keyid.toUInt32 = entry.1) :
    Coherent (stateWith accounts) where
  accounts := h
  safes _ h_entry := absurd h_entry List.not_mem_nil
  channels _ h_entry := absurd h_entry List.not_mem_nil
  endpoints _ h_channel := absurd h_channel List.not_mem_nil

/-- An account is announced behind a subscription to the accounts. -/
theorem record_subscriptions_converge_announced : ∃ c stream,
    clientProgram.Reachable (start (stateWith ∅)) (fun c a => IsCall a ∧ Prompt c a) c ∧
      stream ∈ c.store.streams ∧ stream.subscription = .accounts .any ∧
      c.store.state = stateWith (AList.singleton 1 sampleAccount) ∧
      (accountLedger.latest (stream.items c.store)).values.Perm
        (c.store.state.queryAccounts .any) := by
  let announced := stateWith (AList.singleton 1 sampleAccount)
  obtain ⟨c, h_run, h_todo₀, h_todo₁, h_state, h_written, stream, h_streams, h_subscription⟩ :
      ∃ c, clientProgram.runWithin [0, 1] isSilentCall (start (stateWith ∅))
          announceAfter.dropLast = some c ∧ c.todo 0 = [] ∧
        c.todo 1 = [.execute announcing [] .transaction] ∧ c.store.state = stateWith ∅ ∧
        c.store.written = [stateWith ∅] ∧
        ∃ stream, c.store.streams = [stream] ∧ stream.subscription = .accounts .any :=
    ⟨_, rfl, rfl, rfl, rfl, rfl, _, rfl, rfl⟩
  -- no message is lost: nobody publishes while a receiver is about to be activated
  have h_check : ∀ c a, Within [0, 1] c → isSilentCall c a = true → IsCall a ∧ Prompt c a :=
    fun _ _ _ h => ⟨(allowed_of_silentCall h).1, prompt_of_silent (Bool.and_eq_true_iff.mp h).1⟩
  obtain ⟨h_reach, h_within⟩ := Program.Reachable.runWithin h_check .init (fun _ _ => rfl) h_run
  -- nobody is about to activate a receiver
  have h_calm : ∀ t snapshot, .activate snapshot ∉ c.todo t := by
    intro t snapshot h_mem
    by_cases h_t : t ∈ [0, 1]
    · rcases List.mem_cons.mp h_t with rfl | h_t
      · rw [h_todo₀] at h_mem
        exact absurd h_mem List.not_mem_nil
      · obtain rfl := List.mem_singleton.mp h_t
        rw [h_todo₁] at h_mem
        cases List.mem_singleton.mp h_mem
    · rw [h_within t h_t] at h_mem
      exact absurd h_mem List.not_mem_nil
  -- the announcement only adds an account
  have h_removals : checkRemovals c.store.state announced = .ok () := by
    rw [h_state]
    rfl
  have h_mutator : announcing.mutator [] c.store.state = (.ok (), announced) := by
    rw [h_state]
    rfl
  -- the transaction is executed and published
  obtain ⟨c', h_reach', h_state', h_free, h_written', h_streams'⟩ :=
    reachable_accepted (fun c a => IsCall a ∧ Prompt c a)
      (fun c' h_c' => ⟨fun _ _ h_eq => (by cases h_eq), fun _ _ _ _ _ _ ⟨t, snapshot, h_mem, _⟩ =>
        h_calm t snapshot (h_c' t snapshot h_mem)⟩) h_todo₁ h_mutator h_removals
  have h_stream : stream ∈ c'.store.streams := by
    rw [h_streams', h_streams]
    exact List.mem_singleton_self _
  -- the two states keep their records
  have h_old : Coherent (stateWith ∅) :=
    stateWith_coherent fun _ h_entry => absurd h_entry List.not_mem_nil
  have h_new : Coherent announced := by
    refine stateWith_coherent fun entry h_entry => ?_
    obtain rfl := List.mem_singleton.mp h_entry
    rfl
  have h_kept : RecordsKept c'.store.written := by
    rw [h_written', h_written]
    refine ⟨fun state h_mem => ?_, List.isChain_pair.mpr ⟨h_old, h_new,
      fun _ h_key => absurd h_key (AList.notMem_empty _),
      fun _ h_key => h_key, fun _ h_key => h_key,
      fun _ _ _ h_lookup => (by cases h_lookup), fun _ _ _ h_lookup => (by cases h_lookup)⟩⟩
    rcases List.mem_cons.mp h_mem with rfl | h_mem
    · exact h_old
    · obtain rfl := List.mem_singleton.mp h_mem
      exact h_new
  exact ⟨c', stream, h_reach.trans h_reach', h_stream, h_subscription, h_state',
    (record_subscriptions_converge (h_reach.trans h_reach') h_kept h_free h_stream).1 .any
      h_subscription⟩

end Blokli.Testing
