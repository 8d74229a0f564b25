import BlokliClient.Library.Replay
import BlokliClient.Testing.Client

/-!
# The channel subscriptions of the in-memory client

`subscribe_channels` publishes a channel together with the accounts of its endpoints,
and filters with the accounts that it read when it started, while `query_channels`
uses the accounts of the moment. The stream follows the query as long as every
transaction is `Followed`:

* a new or changed channel that matches has both accounts, and matches with the old
  accounts as well;
* an unchanged channel that matches has matched before.
-/

namespace Blokli.Testing

open Replay

/-! ### The stream and its fold -/

def Event.asChannel : Event → Option Channel
  | .channel _ changed _ => some changed
  | _ => none

/-- The live part: the filter uses the accounts that the subscription read first. -/
def deliveredChannels (captured : IndexMap UInt32 Account) (selector : ChannelSelector)
    (events : List Event) : List Channel :=
  (events.filterMap Event.asChannel).filter fun channel =>
    selector.matchesAll || channelMatches channel selector captured

/-- The items of `subscribe_channels`. -/
def subscribeChannels (state : BlokliTestState) (selector : ChannelSelector)
    (events : List Event) : List Channel :=
  (if selector.matchesAll then state.channels.values else state.queryChannels selector) ++
    deliveredChannels state.accounts selector events

/-- The channels among the items of the stream of the concurrent client, which may have read
the accounts some time before the channels. -/
theorem items_channels (state : BlokliTestState) (captured : IndexMap UInt32 Account)
    (selector : ChannelSelector) (events : List Event) :
    ((Subscription.channels selector).initialPart state ++ events.filterMap fun event =>
      ((Subscription.channels selector).livePart captured event).map .ok) =
      ((if selector.matchesAll then state.channels.values else state.queryChannels selector) ++
        deliveredChannels captured selector events).map fun channel => .ok (.channel channel) := by
  unfold deliveredChannels
  rw [List.map_append]
  refine congrArg _ (filterMap_livePart (fun event => ?_) events)
  cases event with
  | channel source channel destination =>
    show (if selector.matchesAll || channelMatches channel selector captured then
      some (Item.channel channel) else none) = (Option.filter _ (some channel)).map _
    rw [Option.filter_some]
    split <;> rfl
  | account | ticketParameters | safe | service | serviceType | serviceRegistryConfig => rfl

/-- Upserts the channels by their id. -/
def upsertChannels (channels : List Channel) : IndexMap Text Channel :=
  replay Channel.concreteChannelId some ∅ channels

/-! ### What the stream should do -/

/-- A channel that the transaction adds or changes, and that matches afterwards, is
delivered once. -/
def DeliversOnce (captured : IndexMap UInt32 Account) (selector : ChannelSelector)
    (state : BlokliTestState) (tx : Submitted) : Prop :=
  ∀ key channel, ⟨key, channel⟩ ∈ (submit state tx).channels.entries →
    ⟨key, channel⟩ ∉ state.channels.entries →
    channelMatches channel selector (submit state tx).accounts = true →
    (deliveredChannels captured selector (published state tx)).count channel = 1

/-- Upserting what was delivered gives every channel of the query its value. -/
def UpToDate (state : BlokliTestState) (selector : ChannelSelector) (txs : List Submitted) : Prop :=
  ∀ channel ∈ (txs.foldl submit state).queryChannels selector,
    (upsertChannels (subscribeChannels state selector (announced state txs))).lookup
      channel.concreteChannelId = some channel

/-- The stream follows the query through the transactions. -/
structure Follows (state : BlokliTestState) (selector : ChannelSelector) (txs : List Submitted) :
    Prop where
  deliversOnce : ∀ pre tx post, txs = pre ++ tx :: post →
    DeliversOnce state.accounts selector (pre.foldl submit state) tx
  upToDate : ∀ pre post, txs = pre ++ post → UpToDate state selector pre

/-! ### When it does -/

/-- No two channels have one id. -/
def DistinctChannels (state : BlokliTestState) : Prop :=
  (state.channels.values.map Channel.concreteChannelId).Nodup

/-- The step from one state to the next can be followed with the captured accounts. -/
structure Followed (captured : IndexMap UInt32 Account) (selector : ChannelSelector)
    (oldState state : BlokliTestState) : Prop where
  distinct : DistinctChannels state
  changed : ∀ key channel, ⟨key, channel⟩ ∈ state.channels.entries →
    ⟨key, channel⟩ ∉ oldState.channels.entries →
    channelMatches channel selector state.accounts = true →
    channel.source.toUInt32 ∈ state.accounts ∧ channel.destination.toUInt32 ∈ state.accounts ∧
      (selector.matchesAll || channelMatches channel selector captured) = true
  unchanged : ∀ key channel, ⟨key, channel⟩ ∈ state.channels.entries →
    ⟨key, channel⟩ ∈ oldState.channels.entries →
    channelMatches channel selector state.accounts = true →
    channelMatches channel selector oldState.accounts = true

/-- All transactions of the sequence can be followed. -/
def FollowedRun (captured : IndexMap UInt32 Account) (selector : ChannelSelector) :
    BlokliTestState → List Submitted → Prop
  | _, [] => True
  | state, tx :: txs =>
    Followed captured selector state (submit state tx) ∧
      FollowedRun captured selector (submit state tx) txs

/-- What the query for channels returns. -/
theorem mem_queryChannels {state : BlokliTestState} {selector : ChannelSelector}
    {channel : Channel} : channel ∈ state.queryChannels selector ↔
      (∃ key, ⟨key, channel⟩ ∈ state.channels.entries) ∧
        channelMatches channel selector state.accounts = true := by
  unfold BlokliTestState.queryChannels
  rw [List.mem_filter, IndexMap.mem_values]

/-- The changes of channels, among all that is published. -/
theorem publications_asChannel (oldState state : BlokliTestState) :
    (publications oldState state).filterMap Event.asChannel =
      (channelChanges oldState state).map fun entry => entry.2.1 := by
  unfold publications
  simp [List.filterMap_append, List.filterMap_map, Function.comp_def, Event.asChannel]

/-- Two channels of a state with one id are the same. -/
theorem DistinctChannels.eq {state : BlokliTestState} (h : DistinctChannels state)
    {channel channel' : Channel} (h_mem : channel ∈ state.channels.values)
    (h_mem' : channel' ∈ state.channels.values)
    (h_id : channel.concreteChannelId = channel'.concreteChannelId) : channel = channel' :=
  List.inj_on_of_nodup_map h h_mem h_mem' h_id

section Step

variable {oldState state : BlokliTestState} {captured : IndexMap UInt32 Account}
  {selector : ChannelSelector}

/-- The changed channels are channels of the new state, in its order. -/
theorem changedChannels_sublist :
    (changedChannels oldState state).Sublist state.channels.values :=
  List.filter_sublist.map _

/-- A channel that is new or changed is among the changes. -/
theorem mem_changedChannels {key : Text} {channel : Channel}
    (h_entry : ⟨key, channel⟩ ∈ state.channels.entries)
    (h_new : ⟨key, channel⟩ ∉ oldState.channels.entries) :
    channel ∈ changedChannels oldState state := by
  refine List.mem_map.mpr ⟨⟨key, channel⟩, List.mem_filter.mpr ⟨h_entry, ?_⟩, rfl⟩
  dsimp only
  cases h_old : oldState.channels.lookup key with
  | none => rfl
  | some old =>
    rw [Option.all_some, bne_iff_ne]
    rintro rfl
    exact h_new (AList.mem_lookup_iff.mp h_old)

theorem joinEndpoints_some {channel : Channel} {entry : Account × Channel × Account}
    (h : joinEndpoints state channel = some entry) : entry.2.1 = channel := by
  unfold joinEndpoints at h
  split at h
  · obtain rfl := Option.some.inj h
    rfl
  · cases h

/-- What is published are changed channels, each at most once. -/
theorem published_sublist :
    ((channelChanges oldState state).map fun entry => entry.2.1).Sublist
      (changedChannels oldState state) := by
  unfold channelChanges
  induction changedChannels oldState state with
  | nil => exact List.Sublist.refl _
  | cons channel channels ih =>
    rw [List.filterMap_cons]
    cases h_join : joinEndpoints state channel with
    | none => exact ih.cons channel
    | some entry =>
      have h_entry := joinEndpoints_some h_join
      dsimp only
      rw [List.map_cons, h_entry]
      exact ih.cons_cons channel

/-- What a transaction delivers are channels of its state, each at most once. -/
theorem delivered_sublist :
    (deliveredChannels captured selector (publications oldState state)).Sublist
      state.channels.values := by
  unfold deliveredChannels
  rw [publications_asChannel]
  exact List.filter_sublist.trans (published_sublist.trans changedChannels_sublist)

/-- A changed channel that matches is delivered. -/
theorem mem_delivered (h : Followed captured selector oldState state) {key : Text}
    {channel : Channel} (h_entry : ⟨key, channel⟩ ∈ state.channels.entries)
    (h_new : ⟨key, channel⟩ ∉ oldState.channels.entries)
    (h_match : channelMatches channel selector state.accounts = true) :
    channel ∈ deliveredChannels captured selector (publications oldState state) := by
  obtain ⟨h_source, h_destination, h_captured⟩ := h.changed key channel h_entry h_new h_match
  unfold deliveredChannels
  rw [publications_asChannel]
  refine List.mem_filter.mpr ⟨?_, h_captured⟩
  -- both accounts are there, so the channel is joined and published
  obtain ⟨source, h_source⟩ := Option.isSome_iff_exists.mp (AList.lookup_isSome.mpr h_source)
  obtain ⟨destination, h_destination⟩ :=
    Option.isSome_iff_exists.mp (AList.lookup_isSome.mpr h_destination)
  refine List.mem_map.mpr ⟨(source, channel, destination), ?_, rfl⟩
  refine List.mem_filterMap.mpr ⟨channel, mem_changedChannels h_entry h_new, ?_⟩
  unfold joinEndpoints
  rw [h_source, h_destination]

/-- **The stream follows one transaction.** -/
theorem lookup_channels (h : Followed captured selector oldState state)
    {m : IndexMap Text Channel}
    (h_old : ∀ channel ∈ oldState.queryChannels selector,
      m.lookup channel.concreteChannelId = some channel) {channel : Channel}
    (h_channel : channel ∈ state.queryChannels selector) :
    (replay Channel.concreteChannelId some m
      (deliveredChannels captured selector (publications oldState state))).lookup
        channel.concreteChannelId = some channel := by
  obtain ⟨⟨key, h_entry⟩, h_match⟩ := mem_queryChannels.mp h_channel
  have h_value := IndexMap.mem_values.mpr ⟨key, h_entry⟩
  refine lookup_replay_of_agree (fun update h_update h_id => ?_) fun h_none => ?_
  · rw [h.distinct.eq (delivered_sublist.subset h_update) h_value h_id]
  · -- without a delivery the channel is unchanged
    by_cases h_same : ⟨key, channel⟩ ∈ oldState.channels.entries
    · exact h_old channel (mem_queryChannels.mpr
        ⟨⟨key, h_same⟩, h.unchanged key channel h_entry h_same h_match⟩)
    · exact absurd rfl (h_none channel (mem_delivered h h_entry h_same h_match))

end Step

/-! ### Every sequence of transactions -/

theorem deliveredChannels_append (captured : IndexMap UInt32 Account) (selector : ChannelSelector)
    (events events' : List Event) : deliveredChannels captured selector (events ++ events') =
      deliveredChannels captured selector events ++
      deliveredChannels captured selector events' := by
  unfold deliveredChannels
  rw [List.filterMap_append, List.filter_append]

/-- A run of transactions in two parts. -/
theorem FollowedRun.of_append {captured : IndexMap UInt32 Account} {selector : ChannelSelector}
    {state : BlokliTestState} {txs txs' : List Submitted}
    (h : FollowedRun captured selector state (txs ++ txs')) :
    FollowedRun captured selector state txs ∧
      FollowedRun captured selector (txs.foldl submit state) txs' := by
  induction txs generalizing state with
  | nil => exact ⟨trivial, h⟩
  | cons tx txs ih =>
    obtain ⟨h_txs, h_txs'⟩ := ih h.2
    exact ⟨⟨h.1, h_txs⟩, h_txs'⟩

/-- A fold that has the query's channels keeps having them. -/
theorem lookup_announced_channels {captured : IndexMap UInt32 Account}
    {selector : ChannelSelector} {state : BlokliTestState} {txs : List Submitted}
    (h_run : FollowedRun captured selector state txs) {m : IndexMap Text Channel}
    (h : ∀ channel ∈ state.queryChannels selector,
      m.lookup channel.concreteChannelId = some channel) :
    ∀ channel ∈ (txs.foldl submit state).queryChannels selector,
      (replay Channel.concreteChannelId some m
        (deliveredChannels captured selector (announced state txs))).lookup
          channel.concreteChannelId = some channel := by
  induction txs generalizing state m with
  | nil => exact h
  | cons tx txs ih =>
    obtain ⟨h_step, h_rest⟩ := h_run
    rw [announced, deliveredChannels_append, replay_append]
    refine ih h_rest fun channel h_channel => ?_
    rcases published_cases state tx with ⟨h_same, h_events⟩ | h_events
    · rw [h_same] at h_channel
      rw [h_events]
      exact h channel h_channel
    · rw [h_events]
      exact lookup_channels h_step h h_channel

/-- The initial part has the query's channels. -/
theorem lookup_initial_channels {state : BlokliTestState} (h : DistinctChannels state)
    {selector : ChannelSelector} {channel : Channel}
    (h_channel : channel ∈ state.queryChannels selector) :
    (upsertChannels (if selector.matchesAll then state.channels.values
      else state.queryChannels selector)).lookup channel.concreteChannelId = some channel := by
  have h_query : (state.queryChannels selector).Sublist state.channels.values :=
    List.filter_sublist
  have h_initial : channel ∈ (if selector.matchesAll then state.channels.values
      else state.queryChannels selector) := by
    split
    · exact h_query.subset h_channel
    · exact h_channel
  refine lookup_replay_of_agree (fun update h_update h_id => ?_) fun h_none => ?_
  · have h_update : update ∈ state.channels.values := by
      split at h_update
      · exact h_update
      · exact h_query.subset h_update
    rw [h.eq h_update (h_query.subset h_channel) h_id]
  · exact absurd rfl (h_none channel h_initial)

/-- **One transaction** delivers what it should. -/
theorem deliversOnce_of_followed {captured : IndexMap UInt32 Account} {selector : ChannelSelector}
    {state : BlokliTestState} {tx : Submitted}
    (h : Followed captured selector state (submit state tx)) :
    DeliversOnce captured selector state tx := by
  intro key channel h_entry h_new h_match
  rcases published_cases state tx with ⟨h_same, -⟩ | h_events
  · rw [h_same] at h_entry
    exact absurd h_entry h_new
  · rw [h_events]
    refine List.count_eq_one_of_mem ?_ (mem_delivered h h_entry h_new h_match)
    exact delivered_sublist.nodup h.distinct.of_map

/-- **Channel subscriptions follow the query** through every sequence of transactions
that can be followed. -/
theorem channel_subscriptions_follow {state : BlokliTestState} {selector : ChannelSelector}
    {txs : List Submitted} (h_distinct : DistinctChannels state)
    (h_run : FollowedRun state.accounts selector state txs) : Follows state selector txs where
  deliversOnce := by
    rintro pre tx post rfl
    exact deliversOnce_of_followed h_run.of_append.2.1
  upToDate := by
    rintro pre post rfl channel h_channel
    unfold upsertChannels subscribeChannels
    rw [replay_append]
    exact lookup_announced_channels h_run.of_append.1
      (fun _ h_initial => lookup_initial_channels h_distinct h_initial) channel h_channel

/-! ### A channel between two nodes -/

/-- The account of a node. -/
def nodeAccount (keyid : Int32) (safe : Option ChainAddress) : Account where
  chainKey := []
  keyid := keyid
  multiAddresses := []
  packetKey := []
  safeAddress := safe.map Bytes.encodeHex

/-- The channel from node 1 to node 2. -/
def nodeChannel (balance : Text) : Channel where
  balance := balance
  closureTime := none
  concreteChannelId := "01".toList
  destination := 2
  epoch := 1
  source := 1
  status := .opened
  ticketIndex := "0".toList

def nodeSafe : ChainAddress := ⟨List.replicate 20 51, rfl⟩

/-- The accounts of two nodes, the first one with a safe or without. -/
def nodeAccounts (safe : Option ChainAddress) : IndexMap UInt32 Account where
  entries := [⟨1, nodeAccount 1 safe⟩, ⟨2, nodeAccount 2 none⟩]
  nodupKeys := by
    change [(1 : UInt32), 2].Nodup
    decide

/-- The default state with the two accounts, and their channel, if they have one. -/
def stateBetween (safe : Option ChainAddress) (balance : Option Text) : BlokliTestState :=
  { BlokliTestState.default with
    accounts := nodeAccounts safe
    channels := match balance with
      | none => ∅
      | some balance => AList.singleton "01".toList (nodeChannel balance) }

/-- A transaction that leaves the given state. -/
def leaving (state : BlokliTestState) : Submitted where
  signedTx := []
  mutator := fun _ _ => (.ok (), state)

/-- The open channels out of node 1, found by its safe. -/
def safeSelector : ChannelSelector := { safeAddress := some nodeSafe, status := some .opened }

/-- Two transactions open a channel out of the safe of node 1 and fund it. -/
def openAndFund : List Submitted :=
  [leaving (stateBetween (some nodeSafe) (some "1 wxHOPR".toList)),
    leaving (stateBetween (some nodeSafe) (some "2 wxHOPR".toList))]

/-- The theorem at a subscription by safe and status: the stream follows, and at the end its
latest update of the channel has the second balance. -/
theorem channel_subscriptions_follow_opened :
    Follows (stateBetween (some nodeSafe) none) safeSelector openAndFund ∧
      (upsertChannels (subscribeChannels (stateBetween (some nodeSafe) none) safeSelector
        (announced (stateBetween (some nodeSafe) none) openAndFund))).lookup "01".toList =
        some (nodeChannel "2 wxHOPR".toList) := by
  -- the selector lets everything of this safe through
  have h_matches : ∀ balance, channelMatches (nodeChannel balance) safeSelector
      (nodeAccounts (some nodeSafe)) = true := fun _ => rfl
  have h_followed : ∀ old balance, Followed (nodeAccounts (some nodeSafe)) safeSelector
      (stateBetween (some nodeSafe) old) (stateBetween (some nodeSafe) (some balance)) := by
    intro old balance
    have h_channel : ∀ key channel,
        ⟨key, channel⟩ ∈ (stateBetween (some nodeSafe) (some balance)).channels.entries →
          channel = nodeChannel balance := by
      intro key channel h_entry
      obtain ⟨-, h_eq⟩ := Sigma.mk.inj (List.mem_singleton.mp h_entry)
      exact eq_of_heq h_eq
    refine ⟨List.nodup_singleton _, fun key channel h_entry _ _ => ?_,
      fun key channel h_entry _ _ => ?_⟩
    · -- the transaction opens the channel, or changes its balance
      obtain rfl := h_channel key channel h_entry
      exact ⟨List.mem_cons_self, List.mem_cons_of_mem _ List.mem_cons_self, h_matches _⟩
    · obtain rfl := h_channel key channel h_entry
      exact h_matches _
  have h_first := h_followed none "1 wxHOPR".toList
  have h_second := h_followed (some "1 wxHOPR".toList) "2 wxHOPR".toList
  have h_follows : Follows (stateBetween (some nodeSafe) none) safeSelector openAndFund :=
    channel_subscriptions_follow List.nodup_nil ⟨h_first, h_second, trivial⟩
  exact ⟨h_follows, h_follows.upToDate openAndFund [] rfl (nodeChannel "2 wxHOPR".toList)
    (mem_queryChannels.mpr ⟨⟨"01".toList, List.mem_cons_self⟩, h_matches _⟩)⟩

/-- A channel whose source moved to the safe after the subscription started is not
delivered to a subscriber that asks for the safe. -/
theorem moved_source_ignored :
    ¬ ∀ (state : BlokliTestState) (selector : ChannelSelector) (txs : List Submitted),
      Follows state selector txs := by
  intro h
  -- the transaction gives the source the safe, and opens its channel
  let tx := leaving (stateBetween (some nodeSafe) (some "1 wxHOPR".toList))
  have h_once := (h (stateBetween none none) { safeAddress := some nodeSafe } [tx]).deliversOnce
    [] tx [] rfl "01".toList (nodeChannel "1 wxHOPR".toList) List.mem_cons_self List.not_mem_nil
    (by decide)
  -- nothing passes the filter with the accounts of the start
  have h_none : deliveredChannels (nodeAccounts none) { safeAddress := some nodeSafe }
      (published (stateBetween none none) tx) = [] := by
    have h_published : published (stateBetween none none) tx =
        publications (stateBetween none none)
          (stateBetween (some nodeSafe) (some "1 wxHOPR".toList)) := rfl
    rw [h_published]
    unfold deliveredChannels
    rw [publications_asChannel]
    decide
  change (deliveredChannels (nodeAccounts none) _ (published (stateBetween none none) tx)).count _ =
    1 at h_once
  rw [h_none] at h_once
  cases h_once

end Blokli.Testing
