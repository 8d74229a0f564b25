import BlokliClient.Library.Gather
import BlokliClient.Channels
import BlokliClient.Testing.State
import Mathlib.Data.List.Dedup

/-!
# The inspector: node overviews

An overview shows a node with its outgoing and incoming channels, each with the account
at its other end. After the node's own account, three queries run side by side, and then
one query for each account at the other end of a channel, up to eight at a time. Neither
the order of these accounts nor the order of the answers is determined.

* `Possible` : the results that an overview may have, over all these orders.
* `Describes` : what an overview says, in terms of what the client answers.
* `overview_describes` : there is a result in any order. If in some order it is an
  overview, then it is this overview in every order, and it is the one that describes the
  answers.
-/

namespace Blokli.Inspector

open Testing (ChainInfo)

/-! ### Records -/

/-- Why there is no overview: an error of the client, a key id that is negative, a packet
key or a balance that does not parse, or a text. -/
inductive OverviewError
  | client (error : ErrorKind)
  | keyId
  | packetKey
  | balance
  | message (text : Text)

/-- An account with the peer id that its packet key stands for. -/
structure AltAccount where
  chainKey : Text
  keyid : Int32
  multiAddresses : List Text
  packetKey : Text
  peerId : Text
  safeAddress : Option Text
  deriving DecidableEq

structure OverviewTicketParameters where
  blockNumber : Int32
  ticketPrice : Text
  minTicketWinningProbability : Float

structure NodeOverviewSummary where
  channelCount : ℕ
  openCount : ℕ
  pendingToCloseCount : ℕ
  closedCount : ℕ
  totalBalance : Text
  deriving DecidableEq

structure NodeOverviewChannel where
  channel : Channel
  destination : AltAccount
  deriving DecidableEq

structure NodeOverviewIncomingChannel where
  channel : Channel
  source : AltAccount
  deriving DecidableEq

structure NodeOverview where
  source : AltAccount
  ticketParameters : OverviewTicketParameters
  summary : NodeOverviewSummary
  channels : List NodeOverviewChannel
  incomingChannels : List NodeOverviewIncomingChannel

/-- What the client answers. An overview asks for each of these once. -/
structure QueryClient where
  queryAccounts : AccountSelector → Except ErrorKind (List Account)
  queryChannels : ChannelSelector → Except ErrorKind (List Channel)
  queryChainInfo : Except ErrorKind ChainInfo

/-! ### Accounts -/

section Overview

-- `peerIdOf` is the peer id of a packet key, as a library derives it, if the key parses.
variable (client : QueryClient) (peerIdOf : Text → Option Text) (balances : Balances)

/-- `AltAccount::try_from`. -/
def altAccount (value : Account) : Except OverviewError AltAccount :=
  match peerIdOf value.packetKey with
  | none => .error .packetKey
  | some peerId => .ok {
      chainKey := value.chainKey
      keyid := value.keyid
      multiAddresses := value.multiAddresses
      packetKey := value.packetKey
      peerId := peerId
      safeAddress := value.safeAddress }

/-- `exactly_one_account`. -/
def exactlyOneAccount (accounts : List Account) (role : Text) : Except OverviewError Account :=
  match accounts with
  | [account] => .ok account
  | accounts => .error (.message ("Expected exactly one ".toList ++ role ++
      " account, got ".toList ++ Nat.toDigits 10 accounts.length))

/-- `u32::try_from` of a key id. -/
def keyIdOf (keyid : Int32) : Except OverviewError KeyId :=
  if 0 ≤ keyid.toInt then .ok keyid.toUInt32 else .error .keyId

/-- An error of the client ends the overview. -/
def asked {α : Type} (answer : Except ErrorKind α) : Except OverviewError α :=
  answer.mapError .client

/-- The account at the other end of a channel. -/
def counterparty (accountId : Int32) : Except OverviewError AltAccount := do
  let keyId ← keyIdOf accountId
  let accounts ← asked (client.queryAccounts (.keyId keyId))
  let account ← exactlyOneAccount accounts "counterparty".toList
  altAccount peerIdOf account

/-! ### Building an overview -/

/-- A key id as text. -/
def keyIdText (keyid : Int32) : Text := (toString keyid.toInt).toList

def missingDestination (keyid : Int32) : OverviewError :=
  .message ("Missing destination account for key ID ".toList ++ keyIdText keyid)

def missingSource (keyid : Int32) : OverviewError :=
  .message ("Missing source account for key ID ".toList ++ keyIdText keyid)

/-- What the loop over the channels adds up. -/
structure Tally where
  totalBalance : balances.Amount
  openCount : ℕ
  pendingToCloseCount : ℕ
  closedCount : ℕ

variable {balances} in
/-- One more channel. A status of a newer Blokli is not counted. -/
def Tally.add (tally : Tally balances) (amount : balances.Amount) (status : ChannelStatus) :
    Tally balances :=
  let tally := { tally with totalBalance := balances.add tally.totalBalance amount }
  match status with
  | .opened => { tally with openCount := tally.openCount + 1 }
  | .pendingToClose => { tally with pendingToCloseCount := tally.pendingToCloseCount + 1 }
  | .closed => { tally with closedCount := tally.closedCount + 1 }
  | .unknown => tally

/-- The loop over the channels. -/
def overviewChannels (accounts : List (Int32 × AltAccount)) (tally : Tally balances) :
    List Channel → Except OverviewError (Tally balances × List NodeOverviewChannel)
  | [] => .ok (tally, [])
  | channel :: channels =>
    match balances.parse channel.balance with
    | none => .error .balance
    | some amount =>
      match lookup channel.destination accounts with
      | none => .error (missingDestination channel.destination)
      | some destination => do
        let rest ← overviewChannels accounts (tally.add amount channel.status) channels
        pure (rest.1, ⟨channel, destination⟩ :: rest.2)

/-- The loop over the incoming channels. -/
def overviewIncomingChannels (accounts : List (Int32 × AltAccount)) :
    List Channel → Except OverviewError (List NodeOverviewIncomingChannel)
  | [] => .ok []
  | channel :: channels =>
    match lookup channel.source accounts with
    | none => .error (missingSource channel.source)
    | some source => do
      let rest ← overviewIncomingChannels accounts channels
      pure (⟨channel, source⟩ :: rest)

/-- `build_node_overview`. -/
def buildNodeOverview (source : Account) (channels incomingChannels : List Channel)
    (chainInfo : ChainInfo) (accounts : List (Int32 × AltAccount)) :
    Except OverviewError NodeOverview := do
  let (tally, rows) ← overviewChannels balances accounts ⟨balances.zero, 0, 0, 0⟩ channels
  let incomingRows ← overviewIncomingChannels accounts incomingChannels
  let source ← altAccount peerIdOf source
  pure {
    source := source
    ticketParameters := {
      blockNumber := chainInfo.blockNumber
      ticketPrice := chainInfo.ticketPrice
      minTicketWinningProbability := chainInfo.minTicketWinningProbability }
    summary := {
      channelCount := rows.length
      openCount := tally.openCount
      pendingToCloseCount := tally.pendingToCloseCount
      closedCount := tally.closedCount
      totalBalance := balances.render tally.totalBalance }
    channels := rows
    incomingChannels := incomingRows }

/-! ### The queries of an overview -/

/-- `ACCOUNT_QUERY_CONCURRENCY`. -/
def accountQueryConcurrency : ℕ := 8

/-- The node's own account, and its key id. -/
def sourceAccount (selector : AccountSelector) : Except OverviewError (Account × KeyId) := do
  let accounts ← asked (client.queryAccounts selector)
  let source ← exactlyOneAccount accounts "source".toList
  let keyId ← keyIdOf source.keyid
  pure (source, keyId)

def outgoing (keyId : KeyId) : ChannelSelector := { filter := some (.sourceKeyId keyId) }

def incoming (keyId : KeyId) : ChannelSelector := { filter := some (.destinationKeyId keyId) }

/-- `try_join!`: all three results, or the error that comes first. -/
inductive TryJoin {α β γ : Type} (a : Except ErrorKind α) (b : Except ErrorKind β)
    (c : Except ErrorKind γ) : Except ErrorKind (α × β × γ) → Prop
  | ok {x : α} {y : β} {z : γ} : a = .ok x → b = .ok y → c = .ok z → TryJoin a b c (.ok (x, y, z))
  | first {e : ErrorKind} : a = .error e → TryJoin a b c (.error e)
  | second {e : ErrorKind} : b = .error e → TryJoin a b c (.error e)
  | third {e : ErrorKind} : c = .error e → TryJoin a b c (.error e)

/-- The key ids at the other ends of the channels, in the order of a set. -/
structure AccountIds (channels incomingChannels : List Channel) (ids : List Int32) : Prop where
  nodup : ids.Nodup
  mem : ∀ id, id ∈ ids ↔
    id ∈ channels.map Channel.destination ++ incomingChannels.map Channel.source

/-- The gathered accounts of the other ends, or an error, after some run of the queries. -/
def Gathers (ids : List Int32) (result : Except OverviewError (List (Int32 × AltAccount))) : Prop :=
  ∃ choices state, Gather.run accountQueryConcurrency (counterparty client peerIdOf)
    (Gather.begin ids) choices = some state ∧ state.Finished ∧ state.outcome = result

/-- **The results that `query_node_overview` may have.** -/
inductive Possible (selector : AccountSelector) : Except OverviewError NodeOverview → Prop
  | source {e : OverviewError} : sourceAccount client selector = .error e →
      Possible selector (.error e)
  | joined {source : Account} {keyId : KeyId} {e : ErrorKind} :
      sourceAccount client selector = .ok (source, keyId) →
      TryJoin (client.queryChannels (outgoing keyId)) (client.queryChannels (incoming keyId))
        client.queryChainInfo (.error e) →
      Possible selector (.error (.client e))
  | gathered {source : Account} {keyId : KeyId} {channels incomingChannels : List Channel}
      {chainInfo : ChainInfo} {ids : List Int32} {e : OverviewError} :
      sourceAccount client selector = .ok (source, keyId) →
      TryJoin (client.queryChannels (outgoing keyId)) (client.queryChannels (incoming keyId))
        client.queryChainInfo (.ok (channels, incomingChannels, chainInfo)) →
      AccountIds channels incomingChannels ids →
      Gathers client peerIdOf ids (.error e) →
      Possible selector (.error e)
  | built {source : Account} {keyId : KeyId} {channels incomingChannels : List Channel}
      {chainInfo : ChainInfo} {ids : List Int32} {accounts : List (Int32 × AltAccount)} :
      sourceAccount client selector = .ok (source, keyId) →
      TryJoin (client.queryChannels (outgoing keyId)) (client.queryChannels (incoming keyId))
        client.queryChainInfo (.ok (channels, incomingChannels, chainInfo)) →
      AccountIds channels incomingChannels ids →
      Gathers client peerIdOf ids (.ok accounts) →
      Possible selector
        (buildNodeOverview peerIdOf balances source channels incomingChannels chainInfo accounts)

/-! ### What an overview says -/

/-- How many of the channels have the status. -/
def countStatus (rows : List NodeOverviewChannel) (status : ChannelStatus) : ℕ :=
  rows.countP fun row => row.channel.status == status

/-- The balances of the channels are these amounts. -/
def Amounts (rows : List NodeOverviewChannel) (amounts : List balances.Amount) : Prop :=
  List.Forall₂ (fun row amount => balances.parse row.channel.balance = some amount) rows amounts

/-- **What an overview says.** It has the node's account, the channels that the client
answers, in their order, the account at the other end of each, and their number by status
and total balance. -/
structure Describes (selector : AccountSelector) (overview : NodeOverview) : Prop where
  source : ∃ account, client.queryAccounts selector = .ok [account] ∧
    altAccount peerIdOf account = .ok overview.source
  channels : ∃ keyId, keyIdOf overview.source.keyid = .ok keyId ∧
    client.queryChannels (outgoing keyId) =
      .ok (overview.channels.map NodeOverviewChannel.channel) ∧
    client.queryChannels (incoming keyId) =
      .ok (overview.incomingChannels.map NodeOverviewIncomingChannel.channel)
  destinations : ∀ row ∈ overview.channels,
    counterparty client peerIdOf row.channel.destination = .ok row.destination
  sources : ∀ row ∈ overview.incomingChannels,
    counterparty client peerIdOf row.channel.source = .ok row.source
  parameters : ∃ chainInfo, client.queryChainInfo = .ok chainInfo ∧
    overview.ticketParameters = {
      blockNumber := chainInfo.blockNumber
      ticketPrice := chainInfo.ticketPrice
      minTicketWinningProbability := chainInfo.minTicketWinningProbability }
  summary : ∃ amounts, Amounts balances overview.channels amounts ∧ overview.summary = {
    channelCount := overview.channels.length
    openCount := countStatus overview.channels .opened
    pendingToCloseCount := countStatus overview.channels .pendingToClose
    closedCount := countStatus overview.channels .closed
    totalBalance := balances.render (amounts.foldl balances.add balances.zero) }

end Overview

section Results

variable {client : QueryClient} {peerIdOf : Text → Option Text} {balances : Balances}

/-! ### Accounts that are found -/

/-- An answer is passed on as it is. -/
theorem asked_ok {α : Type} {answer : Except ErrorKind α} {a : α} :
    asked answer = .ok a ↔ answer = .ok a := by
  cases answer with
  | error e => exact ⟨fun h => (by cases h), fun h => (by cases h)⟩
  -- an answer passes the error conversion as it is
  | ok a' =>
    constructor
    · intro h
      obtain rfl : a' = a := Except.ok.inj h
      rfl
    · intro h
      rw [Except.ok.inj h]
      rfl

/-- Exactly one account was returned. -/
theorem exactlyOneAccount_ok {accounts : List Account} {role : Text} {account : Account} :
    exactlyOneAccount accounts role = .ok account ↔ accounts = [account] := by
  match accounts with
  -- no account
  | [] => exact ⟨fun h => (by cases h), fun h => (by cases h)⟩
  -- exactly one
  | [account'] =>
    constructor
    · intro h
      obtain rfl : account' = account := Except.ok.inj h
      rfl
    · intro h
      obtain ⟨rfl, -⟩ := List.cons.inj h
      rfl
  -- too many
  | _ :: _ :: _ => exact ⟨fun h => (by cases h), fun h => (by cases h)⟩

/-- The view of an account has its key id. -/
theorem altAccount_keyid {account : Account} {alt : AltAccount}
    (h : altAccount peerIdOf account = .ok alt) : alt.keyid = account.keyid := by
  unfold altAccount at h
  split at h
  · cases h
  · obtain rfl := Except.ok.inj h
    rfl

/-- The source is the one account that the selector finds, with its key id. -/
theorem sourceAccount_ok {selector : AccountSelector} {source : Account} {keyId : KeyId} :
    sourceAccount client selector = .ok (source, keyId) ↔
      client.queryAccounts selector = .ok [source] ∧ keyIdOf source.keyid = .ok keyId := by
  unfold sourceAccount
  constructor
  · intro h
    -- the request, then the count, then the key id
    obtain ⟨accounts, h_asked, h⟩ := except_bind_ok.mp h
    obtain ⟨source', h_one, h⟩ := except_bind_ok.mp h
    obtain ⟨keyId', h_key, h⟩ := except_bind_ok.mp h
    obtain ⟨rfl, rfl⟩ := Prod.mk.inj (Except.ok.inj h)
    rw [exactlyOneAccount_ok.mp h_one] at h_asked
    exact ⟨asked_ok.mp h_asked, h_key⟩
  · -- with all three answers there, the source is found
    rintro ⟨h_query, h_key⟩
    refine except_bind_ok.mpr ⟨[source], asked_ok.mpr h_query, ?_⟩
    exact except_bind_ok.mpr ⟨source, rfl, except_bind_ok.mpr ⟨keyId, h_key, rfl⟩⟩

/-! ### The loops -/

/-- The tally after these rows, whose balances are these amounts. -/
def Tally.after (tally : Tally balances) (rows : List NodeOverviewChannel)
    (amounts : List balances.Amount) : Tally balances where
  totalBalance := amounts.foldl balances.add tally.totalBalance
  openCount := tally.openCount + countStatus rows .opened
  pendingToCloseCount := tally.pendingToCloseCount + countStatus rows .pendingToClose
  closedCount := tally.closedCount + countStatus rows .closed

/-- Channels are added to the tally one by one. -/
theorem Tally.after_cons (tally : Tally balances) (row : NodeOverviewChannel)
    (rows : List NodeOverviewChannel) (amount : balances.Amount) (amounts : List balances.Amount) :
    tally.after (row :: rows) (amount :: amounts) =
      (tally.add amount row.channel.status).after rows amounts := by
  unfold Tally.after Tally.add countStatus
  cases h_status : row.channel.status with
  | opened => simp [h_status, Nat.add_assoc, Nat.add_comm 1]
  | pendingToClose => simp [h_status, Nat.add_assoc, Nat.add_comm 1]
  | closed => simp [h_status, Nat.add_assoc, Nat.add_comm 1]
  | unknown => simp [h_status]

/-- **The loop over the channels** gives a row for each, and adds up what the rows say. -/
theorem overviewChannels_ok {accounts : List (Int32 × AltAccount)} {channels : List Channel}
    {tally tally' : Tally balances} {rows : List NodeOverviewChannel} :
    overviewChannels balances accounts tally channels = .ok (tally', rows) ↔
      rows.map NodeOverviewChannel.channel = channels ∧
      (∀ row ∈ rows, lookup row.channel.destination accounts = some row.destination) ∧
      ∃ amounts, Amounts balances rows amounts ∧ tally' = tally.after rows amounts := by
  induction channels generalizing tally tally' rows with
  -- no channel, no row
  | nil =>
    constructor
    · intro h
      obtain ⟨rfl, rfl⟩ := Prod.mk.inj (Except.ok.inj h)
      exact ⟨rfl, fun row h_row => absurd h_row List.not_mem_nil, [], List.Forall₂.nil, rfl⟩
    · rintro ⟨h_rows, -, amounts, h_amounts, rfl⟩
      obtain rfl := List.map_eq_nil_iff.mp h_rows
      cases h_amounts
      rfl
  | cons channel channels ih =>
    constructor
    · -- the amount is parsed first, then the account at the other end is looked up
      intro h
      unfold overviewChannels at h
      split at h
      · cases h
      · next amount h_amount =>
        split at h
        · cases h
        · next destination h_destination =>
          obtain ⟨⟨tally₁, rows₁⟩, h_rest, h⟩ := except_bind_ok.mp h
          obtain ⟨rfl, rfl⟩ := Prod.mk.inj (Except.ok.inj h)
          obtain ⟨h_map, h_lookups, amounts, h_amounts, rfl⟩ := ih.mp h_rest
          refine ⟨by rw [List.map_cons, h_map], fun row h_row => ?_, amount :: amounts,
            List.Forall₂.cons h_amount h_amounts,
            (Tally.after_cons tally ⟨channel, destination⟩ rows₁ amount amounts).symm⟩
          rcases List.mem_cons.mp h_row with rfl | h_row
          · exact h_destination
          · exact h_lookups row h_row
    · -- the tally of the first row is what the loop goes on with
      rintro ⟨h_map, h_lookups, amounts, h_amounts, rfl⟩
      obtain ⟨row, rows, rfl, rfl, h_next⟩ := List.map_eq_cons_iff.mp h_map
      obtain ⟨amount, amounts, h_amount, h_rest, rfl⟩ := List.forall₂_cons_left_iff.mp h_amounts
      have h_tail : overviewChannels balances accounts (tally.add amount row.channel.status)
          channels = .ok ((tally.add amount row.channel.status).after rows amounts, rows) :=
        ih.mpr ⟨h_next, fun r h_r => h_lookups r (List.mem_cons_of_mem _ h_r), amounts, h_rest, rfl⟩
      unfold overviewChannels
      rw [h_amount, h_lookups row List.mem_cons_self, Tally.after_cons]
      exact except_bind_ok.mpr ⟨_, h_tail, rfl⟩

/-- **The loop over the incoming channels** gives a row for each. -/
theorem overviewIncomingChannels_ok {accounts : List (Int32 × AltAccount)}
    {channels : List Channel} {rows : List NodeOverviewIncomingChannel} :
    overviewIncomingChannels accounts channels = .ok rows ↔
      rows.map NodeOverviewIncomingChannel.channel = channels ∧
      ∀ row ∈ rows, lookup row.channel.source accounts = some row.source := by
  -- the induction is on the channels, with the rows so far
  induction channels generalizing rows with
  | nil =>
    constructor
    · intro h
      obtain rfl := Except.ok.inj h
      exact ⟨rfl, fun row h_row => absurd h_row List.not_mem_nil⟩
    · rintro ⟨h_rows, -⟩
      obtain rfl := List.map_eq_nil_iff.mp h_rows
      rfl
  | cons channel channels ih =>
    constructor
    -- the account at the other end is all that can be missing
    · intro h
      unfold overviewIncomingChannels at h
      -- the account at the other end is missing, or found
      split at h
      · cases h
      · next source h_source =>
        obtain ⟨rows₁, h_rest, h⟩ := except_bind_ok.mp h
        obtain rfl := Except.ok.inj h
        obtain ⟨h_map, h_lookups⟩ := ih.mp h_rest
        refine ⟨by rw [List.map_cons, h_map], fun row h_row => ?_⟩
        rcases List.mem_cons.mp h_row with rfl | h_row
        · exact h_source
        · exact h_lookups row h_row
    · -- a row exists for the first channel
      rintro ⟨h_map, h_lookups⟩
      obtain ⟨row, rows, rfl, rfl, h_next⟩ := List.map_eq_cons_iff.mp h_map
      have h_tail : overviewIncomingChannels accounts channels = .ok rows :=
        ih.mpr ⟨h_next, fun r h_r => h_lookups r (List.mem_cons_of_mem _ h_r)⟩
      unfold overviewIncomingChannels
      rw [h_lookups row List.mem_cons_self]
      exact except_bind_ok.mpr ⟨_, h_tail, rfl⟩

/-- **An overview, read off its parts.** -/
theorem buildNodeOverview_ok {source : Account} {channels incomingChannels : List Channel}
    {chainInfo : ChainInfo} {accounts : List (Int32 × AltAccount)} {overview : NodeOverview} :
    buildNodeOverview peerIdOf balances source channels incomingChannels chainInfo accounts =
        .ok overview ↔
      altAccount peerIdOf source = .ok overview.source ∧
      overview.channels.map NodeOverviewChannel.channel = channels ∧
      overview.incomingChannels.map NodeOverviewIncomingChannel.channel = incomingChannels ∧
      (∀ row ∈ overview.channels,
        lookup row.channel.destination accounts = some row.destination) ∧
      (∀ row ∈ overview.incomingChannels,
        lookup row.channel.source accounts = some row.source) ∧
      overview.ticketParameters = {
        blockNumber := chainInfo.blockNumber
        ticketPrice := chainInfo.ticketPrice
        minTicketWinningProbability := chainInfo.minTicketWinningProbability } ∧
      ∃ amounts, Amounts balances overview.channels amounts ∧ overview.summary = {
        channelCount := overview.channels.length
        openCount := countStatus overview.channels .opened
        pendingToCloseCount := countStatus overview.channels .pendingToClose
        closedCount := countStatus overview.channels .closed
        totalBalance := balances.render (amounts.foldl balances.add balances.zero) } := by
  unfold buildNodeOverview
  constructor
  · -- the three parts are built one after another
    intro h
    obtain ⟨⟨tally, rows⟩, h_rows, h⟩ := except_bind_ok.mp h
    obtain ⟨incomingRows, h_incoming, h⟩ := except_bind_ok.mp h
    obtain ⟨alt, h_alt, h⟩ := except_bind_ok.mp h
    obtain rfl := Except.ok.inj h
    obtain ⟨h_map, h_lookups, amounts, h_amounts, rfl⟩ := overviewChannels_ok.mp h_rows
    obtain ⟨h_map', h_lookups'⟩ := overviewIncomingChannels_ok.mp h_incoming
    refine ⟨h_alt, h_map, h_map', h_lookups, h_lookups', rfl, amounts, h_amounts, ?_⟩
    unfold Tally.after
    simp only [Nat.zero_add]
  · -- and nothing of the overview is anything else
    obtain ⟨alt, parameters, summary, rows, incomingRows⟩ := overview
    rintro ⟨h_alt, h_map, h_map', h_lookups, h_lookups', h_parameters, amounts, h_amounts,
      h_summary⟩
    dsimp only at h_parameters h_summary
    subst h_parameters h_summary
    refine except_bind_ok.mpr ⟨(Tally.after ⟨balances.zero, 0, 0, 0⟩ rows amounts, rows),
      overviewChannels_ok.mpr ⟨h_map, h_lookups, amounts, h_amounts, rfl⟩, ?_⟩
    refine except_bind_ok.mpr ⟨incomingRows,
      overviewIncomingChannels_ok.mpr ⟨h_map', h_lookups'⟩, ?_⟩
    refine except_bind_ok.mpr ⟨alt, h_alt, ?_⟩
    unfold Tally.after
    simp only [Nat.zero_add]
    rfl

/-! ### The accounts that are gathered -/

/-- The accounts that are gathered are those that the client answers, in any order. -/
theorem gathers_ok {ids : List Int32} {accounts : List (Int32 × AltAccount)}
    (h : Gathers client peerIdOf ids (.ok accounts)) (h_nodup : ids.Nodup) {id : Int32}
    (h_id : id ∈ ids) :
    ∃ alt, counterparty client peerIdOf id = .ok alt ∧ lookup id accounts = some alt := by
  obtain ⟨choices, state, h_run, h_finished, h_outcome⟩ := h
  obtain ⟨h_perm, h_answers⟩ :=
    (Gather.Gathering.begin.run h_run).outcome_ok h_finished h_outcome
  have h_keys : (accounts.map Prod.fst).Nodup := h_perm.nodup_iff.mpr h_nodup
  obtain ⟨⟨id', alt⟩, h_mem, rfl⟩ := List.mem_map.mp (h_perm.mem_iff.mpr h_id)
  exact ⟨alt, h_answers _ alt h_mem, (lookup_eq_some_iff h_keys).mpr h_mem⟩

/-- A failure is that of one of the counterparties. -/
theorem gathers_error {ids : List Int32} {e : OverviewError}
    (h : Gathers client peerIdOf ids (.error e)) :
    ∃ id ∈ ids, counterparty client peerIdOf id = .error e := by
  obtain ⟨choices, state, h_run, -, h_outcome⟩ := h
  exact (Gather.Gathering.begin.run h_run).outcome_error h_outcome

/-- The counterparties can always be gathered, or one of them fails. -/
theorem exists_gathers (ids : List Int32) : ∃ result, Gathers client peerIdOf ids result := by
  have h_limit : 0 < accountQueryConcurrency := by decide
  obtain ⟨choices, state, h_run, h_finished⟩ :=
    Gather.exists_finish h_limit (counterparty client peerIdOf) (Gather.begin ids)
  exact ⟨state.outcome, choices, state, h_run, h_finished, rfl⟩

/-- There are key ids to ask for, in some order. -/
theorem exists_accountIds (channels incomingChannels : List Channel) :
    ∃ ids, AccountIds channels incomingChannels ids :=
  ⟨(channels.map Channel.destination ++ incomingChannels.map Channel.source).dedup,
    List.nodup_dedup _, fun _ => List.mem_dedup⟩

/-- Three answers can always be joined, or one of them fails. -/
theorem exists_tryJoin {α β γ : Type} (a : Except ErrorKind α) (b : Except ErrorKind β)
    (c : Except ErrorKind γ) : ∃ result, TryJoin a b c result := by
  -- the first error of the three wins, whichever comes first
  cases a with
  | error e => exact ⟨_, .first rfl⟩
  | ok x =>
    cases b with
    | error e => exact ⟨_, .second rfl⟩
    | ok y =>
      cases c with
      | error e => exact ⟨_, .third rfl⟩
      | ok z => exact ⟨_, .ok rfl rfl rfl⟩

/-- **An overview ends in every order**: there is a result. -/
theorem exists_possible (client : QueryClient) (peerIdOf : Text → Option Text)
    (balances : Balances) (selector : AccountSelector) :
    ∃ result, Possible client peerIdOf balances selector result := by
  cases h_source : sourceAccount client selector with
  | error e => exact ⟨_, .source h_source⟩
  | ok found =>
    obtain ⟨source, keyId⟩ := found
    -- the source is found: the three requests run at the same time
    obtain ⟨joined, h_joined⟩ := exists_tryJoin (client.queryChannels (outgoing keyId))
      (client.queryChannels (incoming keyId)) client.queryChainInfo
    cases joined with
    | error e => exact ⟨_, .joined h_source h_joined⟩
    | ok answers =>
      obtain ⟨channels, incomingChannels, chainInfo⟩ := answers
      -- and the counterparties are asked for in any order
      obtain ⟨ids, h_ids⟩ := exists_accountIds channels incomingChannels
      obtain ⟨gathered, h_gathered⟩ : ∃ gathered, Gathers client peerIdOf ids gathered :=
        exists_gathers ids
      cases gathered with
      | error e => exact ⟨_, .gathered h_source h_joined h_ids h_gathered⟩
      | ok accounts => exact ⟨_, .built h_source h_joined h_ids h_gathered⟩

/-! ### Results -/

variable {selector : AccountSelector} {overview : NodeOverview}

/-- An overview that is possible describes the answers. -/
theorem Possible.describes (h : Possible client peerIdOf balances selector (.ok overview)) :
    Describes client peerIdOf balances selector overview := by
  generalize h_result : Except.ok overview = result at h
  cases h with
  | source | joined | gathered => cases h_result
  | @built source keyId channels incomingChannels chainInfo ids accounts h_source h_joined h_ids
      -- the overview was built, so everything before succeeded
      h_gathered =>
    obtain ⟨h_query, h_key⟩ := sourceAccount_ok.mp h_source
    obtain ⟨h_alt, rfl, rfl, h_lookups, h_lookups', h_parameters, h_summary⟩ :=
      buildNodeOverview_ok.mp h_result.symm
    cases h_joined with
    | ok h_channels h_incoming h_info =>
      -- the key id is that of the account shown
      rw [← altAccount_keyid h_alt] at h_key
      refine ⟨⟨source, h_query, h_alt⟩, ⟨keyId, h_key, h_channels, h_incoming⟩, ?_, ?_,
        ⟨chainInfo, h_info, h_parameters⟩, h_summary⟩
      · -- the account of a destination was gathered for its key id
        intro row h_row
        have h_id : row.channel.destination ∈ ids := (h_ids.mem _).mpr (List.mem_append_left _
          (List.mem_map_of_mem (List.mem_map_of_mem h_row)))
        obtain ⟨alt, h_answer, h_found⟩ := gathers_ok h_gathered h_ids.nodup h_id
        rw [h_lookups row h_row] at h_found
        rw [h_answer, Option.some.inj h_found]
      · -- and that of a source
        intro row h_row
        have h_id : row.channel.source ∈ ids := (h_ids.mem _).mpr (List.mem_append_right _
          (List.mem_map_of_mem (List.mem_map_of_mem h_row)))
        obtain ⟨alt, h_answer, h_found⟩ := gathers_ok h_gathered h_ids.nodup h_id
        rw [h_lookups' row h_row] at h_found
        rw [h_answer, Option.some.inj h_found]

/-- Each end of the channels that are shown is answered. -/
theorem Describes.counterparty (h : Describes client peerIdOf balances selector overview)
    {ids : List Int32} (h_ids : AccountIds (overview.channels.map NodeOverviewChannel.channel)
      (overview.incomingChannels.map NodeOverviewIncomingChannel.channel) ids)
    {id : Int32} (h_id : id ∈ ids) : ∃ alt, counterparty client peerIdOf id = .ok alt := by
  rcases List.mem_append.mp ((h_ids.mem id).mp h_id) with h_mem | h_mem
  · obtain ⟨channel, h_channel, rfl⟩ := List.mem_map.mp h_mem
    obtain ⟨row, h_row, rfl⟩ := List.mem_map.mp h_channel
    exact ⟨_, h.destinations row h_row⟩
  · obtain ⟨channel, h_channel, rfl⟩ := List.mem_map.mp h_mem
    obtain ⟨row, h_row, rfl⟩ := List.mem_map.mp h_channel
    exact ⟨_, h.sources row h_row⟩

/-- **No other result** is possible than the overview that describes the answers. -/
theorem Describes.result (h : Describes client peerIdOf balances selector overview)
    {result : Except OverviewError NodeOverview}
    (h_possible : Possible client peerIdOf balances selector result) : result = .ok overview := by
  -- the source account
  obtain ⟨account, h_query, h_alt⟩ := h.source
  obtain ⟨keyId, h_key, h_channels, h_incoming⟩ := h.channels
  obtain ⟨chainInfo, h_info, h_parameters⟩ := h.parameters
  -- its key id is the one the channels are asked for with
  rw [altAccount_keyid h_alt] at h_key
  have h_found : sourceAccount client selector = .ok (account, keyId) :=
    sourceAccount_ok.mpr ⟨h_query, h_key⟩
  cases h_possible with
  -- the source was found, so this failure is impossible
  | source h_source =>
    rw [h_found] at h_source
    cases h_source
  | joined h_source h_joined =>
    -- all three requests of the join are answered
    rw [h_found] at h_source
    obtain ⟨rfl, rfl⟩ := Prod.mk.inj (Except.ok.inj h_source)
    cases h_joined with
    | first h_error => rw [h_channels] at h_error; cases h_error
    | second h_error => rw [h_incoming] at h_error; cases h_error
    | third h_error => rw [h_info] at h_error; cases h_error
  | gathered h_source h_joined h_ids h_gathered =>
    -- so is every request for a counterparty, in whatever order
    rw [h_found] at h_source
    obtain ⟨rfl, rfl⟩ := Prod.mk.inj (Except.ok.inj h_source)
    cases h_joined with
    | ok h_channels' h_incoming' h_info' =>
      rw [h_channels] at h_channels'
      rw [h_incoming] at h_incoming'
      obtain rfl := Except.ok.inj h_channels'
      obtain rfl := Except.ok.inj h_incoming'
      obtain ⟨id, h_id, h_error⟩ := gathers_error h_gathered
      obtain ⟨alt, h_answer⟩ := h.counterparty h_ids h_id
      rw [h_answer] at h_error
      cases h_error
  | built h_source h_joined h_ids h_gathered =>
    -- the table of counterparties has the account that each row shows
    rw [h_found] at h_source
    obtain ⟨rfl, rfl⟩ := Prod.mk.inj (Except.ok.inj h_source)
    cases h_joined with
    | ok h_channels' h_incoming' h_info' =>
      rw [h_channels] at h_channels'
      rw [h_incoming] at h_incoming'
      rw [h_info] at h_info'
      obtain rfl := Except.ok.inj h_channels'
      obtain rfl := Except.ok.inj h_incoming'
      obtain rfl := Except.ok.inj h_info'
      -- field by field
      refine buildNodeOverview_ok.mpr ⟨h_alt, rfl, rfl, ?_, ?_, h_parameters, h.summary⟩
      · -- an outgoing channel is shown with its destination
        intro row h_row
        have h_id : row.channel.destination ∈ _ := (h_ids.mem _).mpr (List.mem_append_left _
          (List.mem_map_of_mem (List.mem_map_of_mem h_row)))
        obtain ⟨alt, h_answer, h_lookup⟩ := gathers_ok h_gathered h_ids.nodup h_id
        rw [h.destinations row h_row] at h_answer
        rw [h_lookup, Except.ok.inj h_answer]
      · -- an incoming channel is shown with its source
        intro row h_row
        have h_id : row.channel.source ∈ _ := (h_ids.mem _).mpr (List.mem_append_right _
          (List.mem_map_of_mem (List.mem_map_of_mem h_row)))
        obtain ⟨alt, h_answer, h_lookup⟩ := gathers_ok h_gathered h_ids.nodup h_id
        rw [h.sources row h_row] at h_answer
        rw [h_lookup, Except.ok.inj h_answer]

/-! ### Errors -/

/-- The error is not that the account at an end of a channel is missing. -/
def NotMissing (e : OverviewError) : Prop :=
  ∀ keyid, e ≠ missingDestination keyid ∧ e ≠ missingSource keyid

/-- A text with another first letter. -/
theorem notMissing_message {text : Text} (h : text.head? ≠ some 'M') :
    NotMissing (.message text) := by
  intro keyid
  -- the two messages begin in different ways
  constructor
  · intro h_eq
    rw [OverviewError.message.inj h_eq] at h
    exact h rfl
  · intro h_eq
    rw [OverviewError.message.inj h_eq] at h
    exact h rfl

/-- A failure comes from the first part or from the second. -/
theorem except_bind_error {ε α β : Type} {x : Except ε α} {f : α → Except ε β} {e : ε}
    (h : (x >>= f) = .error e) : x = .error e ∨ ∃ a, x = .ok a ∧ f a = .error e := by
  cases x with
  | error e' =>
    obtain rfl : e' = e := Except.error.inj h
    exact Or.inl rfl
  | ok a => exact Or.inr ⟨a, rfl, h⟩

/-- An account that cannot be viewed is not missing. -/
theorem altAccount_error {account : Account} {e : OverviewError}
    (h : altAccount peerIdOf account = .error e) : NotMissing e := by
  unfold altAccount at h
  split at h
  · obtain rfl := Except.error.inj h
    exact fun _ => ⟨fun h_eq => (by cases h_eq), fun h_eq => (by cases h_eq)⟩
  · cases h

/-- A source that is not found is not a missing counterparty. -/
theorem exactlyOneAccount_error {accounts : List Account} {role : Text} {e : OverviewError}
    (h : exactlyOneAccount accounts role = .error e) : NotMissing e := by
  unfold exactlyOneAccount at h
  split at h
  -- one account is no error
  · cases h
  · obtain rfl := Except.error.inj h
    -- the text begins with `Expected`
    have h_head : ∀ rest : Text, ("Expected exactly one ".toList ++ rest).head? ≠ some 'M' :=
      fun rest h_head => absurd (Option.some.inj h_head) (by decide)
    rw [List.append_assoc, List.append_assoc]
    exact notMissing_message (h_head _)

/-- A key id out of range is not a missing counterparty. -/
theorem keyIdOf_error {keyid : Int32} {e : OverviewError} (h : keyIdOf keyid = .error e) :
    NotMissing e := by
  unfold keyIdOf at h
  split at h
  · cases h
  · obtain rfl := Except.error.inj h
    exact fun _ => ⟨fun h_eq => (by cases h_eq), fun h_eq => (by cases h_eq)⟩

/-- A request that failed is not a missing counterparty. -/
theorem asked_error {α : Type} {answer : Except ErrorKind α} {e : OverviewError}
    (h : asked answer = .error e) : NotMissing e := by
  cases answer with
  | error error =>
    obtain rfl := Except.error.inj h
    exact fun _ => ⟨fun h_eq => (by cases h_eq), fun h_eq => (by cases h_eq)⟩
  | ok a => cases h

/-- A counterparty that cannot be asked for is not a missing one. -/
theorem counterparty_error {id : Int32} {e : OverviewError}
    (h : Inspector.counterparty client peerIdOf id = .error e) : NotMissing e := by
  rcases except_bind_error h with h | ⟨keyId, -, h⟩
  · exact keyIdOf_error h
  · rcases except_bind_error h with h | ⟨accounts, -, h⟩
    · exact asked_error h
    · rcases except_bind_error h with h | ⟨account, -, h⟩
      · exact exactlyOneAccount_error h
      · exact altAccount_error h

/-- A source that cannot be asked for is not a missing counterparty. -/
theorem sourceAccount_error {e : OverviewError} (h : sourceAccount client selector = .error e) :
    NotMissing e := by
  rcases except_bind_error h with h | ⟨accounts, -, h⟩
  · exact asked_error h
  · rcases except_bind_error h with h | ⟨source, -, h⟩
    · exact exactlyOneAccount_error h
    · rcases except_bind_error h with h | ⟨keyId, -, h⟩
      · exact keyIdOf_error h
      · cases h

/-- When each destination has been gathered, only a balance can fail. -/
theorem overviewChannels_error {accounts : List (Int32 × AltAccount)} {channels : List Channel}
    {tally : Tally balances} {e : OverviewError}
    (h_found : ∀ channel ∈ channels, ∃ alt, lookup channel.destination accounts = some alt)
    (h : overviewChannels balances accounts tally channels = .error e) : NotMissing e := by
  -- the induction is on the channels, each with an account
  induction channels generalizing tally with
  | nil => cases h
  | cons channel channels ih =>
    obtain ⟨alt, h_alt⟩ := h_found channel List.mem_cons_self
    unfold overviewChannels at h
    split at h
    -- the amount of a channel does not parse
    · obtain rfl := Except.error.inj h
      exact fun _ => ⟨fun h_eq => (by cases h_eq), fun h_eq => (by cases h_eq)⟩
    -- the account is there, so the error comes later
    · rw [h_alt] at h
      rcases except_bind_error h with h | ⟨rest, -, h⟩
      · exact ih (fun c h_c => h_found c (List.mem_cons_of_mem _ h_c)) h
      · cases h

/-- When each source has been gathered, nothing can fail. -/
theorem overviewIncomingChannels_error {accounts : List (Int32 × AltAccount)}
    {channels : List Channel} {e : OverviewError}
    (h_found : ∀ channel ∈ channels, ∃ alt, lookup channel.source accounts = some alt) :
    overviewIncomingChannels accounts channels ≠ .error e := by
  -- the induction is on the channels, each with an account
  induction channels with
  | nil => exact fun h => (by cases h)
  | cons channel channels ih =>
    obtain ⟨alt, h_alt⟩ := h_found channel List.mem_cons_self
    intro h
    unfold overviewIncomingChannels at h
    rw [h_alt] at h
    rcases except_bind_error h with h | ⟨rest, -, h⟩
    · exact ih (fun c h_c => h_found c (List.mem_cons_of_mem _ h_c)) h
    · cases h

/-- **No end is missing**: all accounts that the overview needs have been gathered. -/
theorem Possible.notMissing {e : OverviewError}
    (h : Possible client peerIdOf balances selector (.error e)) : NotMissing e := by
  generalize h_result : (Except.error e : Except OverviewError NodeOverview) = result at h
  -- the failures in the order of the requests
  cases h with
  | source h_source =>
    obtain rfl := Except.error.inj h_result
    exact sourceAccount_error h_source
  | joined =>
    obtain rfl := Except.error.inj h_result
    exact fun _ => ⟨fun h_eq => (by cases h_eq), fun h_eq => (by cases h_eq)⟩
  | gathered _ _ _ h_gathered =>
    obtain rfl := Except.error.inj h_result
    obtain ⟨id, -, h_error⟩ := gathers_error h_gathered
    exact counterparty_error h_error
  -- the overview itself fails for amounts and accounts only
  | @built source keyId channels incomingChannels chainInfo ids accounts _ _ h_ids h_gathered =>
    -- each counterparty has an account in the table
    have h_destinations : ∀ channel ∈ channels,
        ∃ alt, lookup channel.destination accounts = some alt := by
      intro channel h_channel
      obtain ⟨alt, -, h_alt⟩ := gathers_ok h_gathered h_ids.nodup
        ((h_ids.mem _).mpr (List.mem_append_left _ (List.mem_map_of_mem h_channel)))
      exact ⟨alt, h_alt⟩
    have h_sources : ∀ channel ∈ incomingChannels,
        ∃ alt, lookup channel.source accounts = some alt := by
      intro channel h_channel
      obtain ⟨alt, -, h_alt⟩ := gathers_ok h_gathered h_ids.nodup
        ((h_ids.mem _).mpr (List.mem_append_right _ (List.mem_map_of_mem h_channel)))
      exact ⟨alt, h_alt⟩
    rcases except_bind_error h_result.symm with h | ⟨⟨tally, rows⟩, -, h⟩
    · exact overviewChannels_error h_destinations h
    · rcases except_bind_error h with h | ⟨incomingRows, -, h⟩
      · exact absurd h (overviewIncomingChannels_error h_sources)
      · rcases except_bind_error h with h | ⟨alt, -, h⟩
        · exact altAccount_error h
        · cases h

end Results

/-- **Node overviews do not depend on the order of the answers.** There is a result in
every order, and an account that is missing at an end of a channel is never the reason that
it is an error. An overview is possible exactly when it describes the answers, and then no
other result is possible. At most eight accounts are asked for at a time. -/
theorem overview_describes (client : QueryClient) (peerIdOf : Text → Option Text)
    (balances : Balances) (selector : AccountSelector) :
    (∃ result, Possible client peerIdOf balances selector result) ∧
    (∀ e, Possible client peerIdOf balances selector (.error e) → NotMissing e) ∧
    (∀ overview, Possible client peerIdOf balances selector (.ok overview) ↔
      Describes client peerIdOf balances selector overview) ∧
    (∀ overview result, Describes client peerIdOf balances selector overview →
      Possible client peerIdOf balances selector result → result = .ok overview) ∧
    ∀ ids choices state, Gather.run accountQueryConcurrency (counterparty client peerIdOf)
      (Gather.begin ids) choices = some state → state.running.length ≤ 8 := by
  obtain ⟨result, h_result⟩ := exists_possible client peerIdOf balances selector
  refine ⟨⟨result, h_result⟩, fun e h => h.notMissing, fun overview => ⟨fun h => h.describes, ?_⟩,
    fun overview result h => h.result, fun ids choices state h_run => ?_⟩
  · intro h
    rw [← h.result h_result]
    exact h_result
  · exact (Gather.Gathering.begin.run h_run).running

end Blokli.Inspector
