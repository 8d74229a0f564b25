import BlokliClient.Library.Worklist
import BlokliClient.Testing.State

/-!
# The in-memory client: its calls as a concurrent program

Clones of the client share a state behind a read-write lock and seven broadcast
channels. Each call is a task. Taking and releasing the lock, reading or replacing
the state, one broadcast and the activation of one receiver are the instructions.

* A subscription reads its initial part under the read lock. Five of the methods
  release the lock before they activate their receiver, three of them after.
* A transaction holds the write lock while it runs its mutator and publishes.
* `update_price_and_win_prob` releases the write lock before it publishes.
* Tracking a transaction removes its record, and two queries insert a default. These
  calls write the state as well, and publish nothing (`ServedCall`). A query takes an
  upgradable lock, which keeps writers out like the write lock that it has here.

Broadcast channels are the logs of their messages; a receiver is a position in the
log. Buffers do not overflow.
-/

namespace Blokli.Testing

open Worklist

/-! ### Subscriptions -/

/-- The seven broadcast channels. -/
inductive Feed
  | accounts
  | channels
  | tickets
  | safes
  | services
  | serviceTypes
  | serviceRegistryConfig
  deriving DecidableEq

/-- The channel that an event is broadcast on. -/
def Event.feed : Event → Feed
  | .account _ => .accounts
  | .channel _ _ _ => .channels
  | .ticketParameters _ => .tickets
  | .safe _ => .safes
  | .service _ => .services
  | .serviceType _ => .serviceTypes
  | .serviceRegistryConfig _ => .serviceRegistryConfig

/-- The `subscribe_*` methods that have a live part. -/
inductive Subscription
  | channels (selector : ChannelSelector)
  | accounts (selector : AccountSelector)
  | graph
  | ticketParams
  | safeDeployments
  | services (selector : ServiceSelector)
  | serviceTypes (serviceType : Option ServiceTypeId)
  | serviceRegistryConfig

/-- What the streams yield. -/
inductive Item
  | channel (channel : Channel)
  | account (account : Account)
  | graphEntry (entry : OpenedChannelsGraphEntry)
  | ticketParameters (parameters : TicketParameters)
  | safe (safe : Safe)
  | serviceUpdate (update : ServiceUpdate)
  | serviceTypeUpdate (update : ServiceTypeUpdate)
  | serviceRegistryConfig (config : ServiceRegistryConfig)

/-- An entry of the initial part of `subscribe_services`. -/
def registeredService (entry : ServiceEntry) : ServiceUpdate where
  kind := .registered
  serviceType := entry.serviceType
  node := entry.node
  entry := some entry

/-- The filter of `subscribe_services`. -/
def serviceUpdateMatches (selector : ServiceSelector) (update : ServiceUpdate) : Bool :=
  serviceMatches update.serviceType update.node selector

/-- An entry of the initial part of `subscribe_service_types`. -/
def registeredServiceType (config : ServiceTypeInfo) : ServiceTypeUpdate where
  kind := .registered
  serviceType := some config.serviceType
  config := some config
  registryConfig := none

/-- The filter of `subscribe_service_types`. -/
def serviceTypeUpdateMatches (serviceType : Option ServiceTypeId) (update : ServiceTypeUpdate) :
    Bool :=
  serviceType.all fun wanted =>
    update.serviceType.any fun rendered => serviceTypeMatches rendered wanted

/-- A channel of the initial part of `subscribe_graph`. -/
def graphEntry (accounts : IndexMap UInt32 Account) (channel : Channel) : Except ErrorKind Item :=
  match accounts.lookup channel.source.toUInt32, accounts.lookup channel.destination.toUInt32 with
  | some source, some destination => .ok (.graphEntry {
      channel := channel
      destination := destination
      source := source
      cursor := none })
  | _, _ => .error .noData

namespace Subscription

/-- The channel that the live part is received on. -/
def feed : Subscription → Feed
  | .channels _ => .channels
  | .accounts _ => .accounts
  | .graph => .channels
  | .ticketParams => .tickets
  | .safeDeployments => .safes
  | .services _ => .services
  | .serviceTypes _ => .serviceTypes
  | .serviceRegistryConfig => .serviceRegistryConfig

/-- Activates its receiver while it holds the state read lock. -/
def locked : Subscription → Bool
  | .channels _ => false
  | .accounts _ => false
  | .graph => false
  | .ticketParams => false
  | .safeDeployments => false
  | .services _ => true
  | .serviceTypes _ => true
  | .serviceRegistryConfig => true

/-- The initial part of the stream, read from the state. -/
def initialPart (state : BlokliTestState) : Subscription → List (Except ErrorKind Item)
  | .channels selector =>
    -- a filtered part compares with the accounts of this lock section, not with the captured ones
    let channels := if selector.matchesAll then state.channels.values
      else state.queryChannels selector
    channels.map fun channel => .ok (.channel channel)
  | .accounts .any => state.accounts.values.map fun account => .ok (.account account)
  | .accounts selector => (state.queryAccounts selector).map fun account => .ok (.account account)
  | .graph => state.channels.values.map (graphEntry state.accounts)
  | .ticketParams => [.ok (.ticketParameters state.ticketParameters)]
  | .safeDeployments => state.deployedSafes.values.map fun safe => .ok (.safe safe)
  | .services selector =>
    -- the initial part goes through the filter of the live part once more
    (((state.queryServices selector).map registeredService).filter
      (serviceUpdateMatches selector)).map fun update => .ok (.serviceUpdate update)
  | .serviceTypes serviceType =>
    (((state.queryServiceTypes serviceType).map registeredServiceType).filter
      (serviceTypeUpdateMatches serviceType)).map fun update => .ok (.serviceTypeUpdate update)
  | .serviceRegistryConfig => [.ok (.serviceRegistryConfig state.serviceRegistryConfig)]

/-- What the stream yields for a message that its receiver got. `accounts` are the
accounts that a filtered channel subscription read first. -/
def livePart (accounts : IndexMap UInt32 Account) : Subscription → Event → Option Item
  -- the accounts are those of the call, however old
  | .channels selector, .channel _ channel _ =>
    if selector.matchesAll || channelMatches channel selector accounts then some (.channel channel)
    else none
  | .accounts selector, .account account =>
    if accountMatches account selector then some (.account account) else none
  -- the message carries both ends, no account is looked up
  | .graph, .channel source channel destination => some (.graphEntry {
      channel := channel
      destination := destination
      source := source
      cursor := none })
  | .ticketParams, .ticketParameters parameters => some (.ticketParameters parameters)
  | .safeDeployments, .safe safe => some (.safe safe)
  | .services selector, .service update =>
    if serviceUpdateMatches selector update then some (.serviceUpdate update) else none
  | .serviceTypes serviceType, .serviceType update =>
    if serviceTypeUpdateMatches serviceType update then some (.serviceTypeUpdate update) else none
  | .serviceRegistryConfig, .serviceRegistryConfig config => some (.serviceRegistryConfig config)
  | _, _ => none

end Subscription

/-- A live part that takes what `as` extracts from the events, and keeps what passes `p`. -/
theorem filterMap_livePart {α : Type} {as : Event → Option α} {p : α → Bool} {item : α → Item}
    {live : Event → Option Item}
    (h : ∀ event, live event = ((as event).filter p).map item) (events : List Event) :
    (events.filterMap fun event => (live event).map (.ok : Item → Except ErrorKind Item)) =
      ((events.filterMap as).filter p).map fun a => .ok (item a) := by
  induction events with
  | nil => rfl
  | cons event events ih =>
    rw [List.filterMap_cons, List.filterMap_cons, h]
    cases as event with
    | none => exact ih
    | some a =>
      rw [Option.filter_some]
      dsimp only
      rw [List.filter_cons]
      cases p a with
      | true => exact congrArg _ ih
      | false => exact ih

/-! ### The shared store -/

/-- A task is one call. -/
abbrev Task := ℕ

/-- The read-write lock of the state. -/
structure RwLock where
  writer : Option Task
  readers : List Task

/-- Who broadcast a message: a transaction, with the number of the write that made
its change, or `update_price_and_win_prob`. -/
inductive Origin
  | transaction (write : ℕ)
  | priceUpdate
  deriving DecidableEq

/-- What a subscribe call has read: its initial part, and how many states had been
written by then. -/
structure Snapshot where
  subscription : Subscription
  accounts : IndexMap UInt32 Account
  initial : List (Except ErrorKind Item)
  asOf : ℕ

/-- A stream receives the messages of its channel from position `since` on. -/
structure Stream extends Snapshot where
  since : ℕ

/-- `log` has the messages of every broadcast channel, `written` every state that was
written, the first one included. -/
structure Store where
  state : BlokliTestState
  lock : RwLock
  log : Feed → List (Event × Origin)
  written : List BlokliTestState
  streams : List Stream

/-- Replaces the state. -/
def Store.write (store : Store) (state : BlokliTestState) : Store :=
  { store with state := state, written := store.written ++ [state] }

/-- Appends a message to the log of its channel. -/
def Store.broadcast (store : Store) (event : Event) (origin : Origin) : Store :=
  -- who activates a receiver later starts behind the message
  let messages := store.log event.feed ++ [(event, origin)]
  { store with log := Function.update store.log event.feed messages }

/-- Everything that the stream has yielded, or has ready. -/
def Stream.items (stream : Stream) (store : Store) : List (Except ErrorKind Item) :=
  -- the initial part, then what the receiver got
  stream.initial ++ ((store.log stream.subscription.feed).drop stream.since).filterMap fun entry =>
    (stream.subscription.livePart stream.accounts entry.1).map .ok

/-! ### Calls -/

inductive SimulatedPolicyOutcome
  | rejected (operation reason : Text)
  | throttled (operation reason : Text) (retryAfter : ℕ)
  deriving DecidableEq

/-- What a clone of the client has of its own. -/
structure TestClient where
  mutator : StateMutator
  useInternalTxs : Bool := false
  policyOutcome : Option SimulatedPolicyOutcome := none

/-- The three ways to submit. A tracked submission draws an id and a hash and reads
the clock. -/
inductive Submission
  | transaction
  | track (txId txHash submittedAt : Text)
  | confirm

/-- The record of a tracked submission. -/
def trackedTransaction (client : TestClient) (txId txHash submittedAt : Text)
    (result : Except ErrorKind (List Event)) : Transaction :=
  let failureReason : Option Text := match result with
    | .error (.mockClientError (.internalTx reason)) => some reason
    -- only an error inside the safe leaves a reason
    | _ => none
  let status : TransactionStatus := match result with
    | .ok _ => .confirmed
    -- the outer transaction goes through, the safe's own call does not
    | .error _ => if client.useInternalTxs && failureReason.isSome then .confirmed else .reverted
  { id := txId
    status := status
    submittedAt := submittedAt
    transactionHash := txHash
    safeExecution := if client.useInternalTxs && status == .confirmed then some {
        success := failureReason.isNone
        safeTxHash := some txHash
        revertReason := failureReason }
      else none }

/-- The calls that write to the state what nobody subscribes to. -/
inductive ServedCall
  | trackTransaction (txId : Text)
  | subscribeTrackTransaction (txId : Text)
  | queryTransactionCount (address : ChainAddress)
  | queryRedeemedStats (selector : RedeemedStatsSelector)

/-- The state that the call leaves. Who tracks a transaction takes its record. -/
def ServedCall.serve (state : BlokliTestState) : ServedCall → BlokliTestState
  | .trackTransaction txId | .subscribeTrackTransaction txId =>
    { state with activeTxs := state.activeTxs.erase txId }
  | .queryTransactionCount address => (state.queryTransactionCount address).2
  | .queryRedeemedStats selector => (state.queryRedeemedStats selector).2

/-- Only three maps of the state are written. -/
theorem ServedCall.serve_eq (state : BlokliTestState) (call : ServedCall) :
    ∃ txs counts stats, call.serve state =
      { state with activeTxs := txs, txCounts := counts, safeRedeemStats := stats } := by
  cases call with
  | trackTransaction txId => exact ⟨state.activeTxs.erase txId, _, _, rfl⟩
  | subscribeTrackTransaction txId => exact ⟨state.activeTxs.erase txId, _, _, rfl⟩
  | queryTransactionCount address =>
    unfold serve BlokliTestState.queryTransactionCount
    dsimp only
    cases state.txCounts.lookup address.encodeHex with
    | none => exact ⟨_, _, _, rfl⟩
    | some count => exact ⟨_, _, _, rfl⟩
  | queryRedeemedStats selector =>
    unfold serve BlokliTestState.queryRedeemedStats
    dsimp only
    cases maybeSafe selector with
    | none => exact ⟨_, _, _, rfl⟩
    | some safeAddress =>
      dsimp only
      split
      · cases state.safeRedeemStats.lookup safeAddress.encodeHex with
        | none => exact ⟨_, _, _, rfl⟩
        | some stats => exact ⟨_, _, _, rfl⟩
      · exact ⟨_, _, _, rfl⟩

inductive Request
  | subscribe (task : Task) (subscription : Subscription)
  | submit (task : Task) (client : TestClient) (signedTx : List UInt8) (submission : Submission)
  | updatePriceAndWinProb (task : Task) (newPrice : Option Text) (newWinProb : Option Float)
  | serve (task : Task) (call : ServedCall)
  | hiddenStateUpdate (task : Task) (update : BlokliTestState → BlokliTestState)

inductive Point
  | lockRead
  | unlockRead
  | lockWrite
  | unlockWrite
  /-- A filtered channel subscription reads the accounts. -/
  | cloneAccounts (selector : ChannelSelector)
  | readInitial (subscription : Subscription) (accounts : IndexMap UInt32 Account)
  | activate (snapshot : Snapshot)
  | execute (client : TestClient) (signedTx : List UInt8) (submission : Submission)
  | publish (event : Event) (origin : Origin)
  | insertActiveTx (transaction : Transaction)
  | updateTicketParameters (newPrice : Option Text) (newWinProb : Option Float)
  | serve (call : ServedCall)
  | hiddenUpdate (update : BlokliTestState → BlokliTestState)

abbrev Conf := Worklist.Config Task Point Store

/-- The first instructions of a subscribe call. -/
def Subscription.script : Subscription → List Point
  | .channels selector =>
    if selector.matchesAll then [.lockRead, .readInitial (.channels selector) ∅]
    else [.lockRead, .cloneAccounts selector]
  | subscription => [.lockRead, .readInitial subscription ∅]

/-- The ticket price and the winning probability after an update. -/
def ChainInfo.updated (info : ChainInfo) (newPrice : Option Text) (newWinProb : Option Float) :
    ChainInfo :=
  { info with
    minTicketWinningProbability := newWinProb.getD info.minTicketWinningProbability
    ticketPrice := newPrice.getD info.ticketPrice }

/-- What follows a submission under the write lock, once it has published. -/
def Submission.finish (client : TestClient) (result : Except ErrorKind (List Event)) :
    Submission → List Point
  | .transaction => [.unlockWrite]
  | .track txId txHash submittedAt =>
    [.insertActiveTx (trackedTransaction client txId txHash submittedAt result), .unlockWrite]
  | .confirm => [.unlockWrite]

def exec (t : Task) (_ : Unit) (i : Point) (c : Conf) : Option (Worklist.Effect Task Point Store) :=
  let store := c.store
  match i with
  | .lockRead =>
    if store.lock.writer.isNone then some {
      store := { store with lock := { store.lock with readers := t :: store.lock.readers } }
      next := [] }
    else none
  | .unlockRead => some {
      store := { store with lock := { store.lock with readers := store.lock.readers.erase t } }
      next := [] }
  | .lockWrite =>
    if store.lock.writer.isNone && store.lock.readers.isEmpty then some {
      store := { store with lock := { store.lock with writer := some t } }
      next := [] }
    else none
  | .unlockWrite => some {
      store := { store with lock := { store.lock with writer := none } }
      next := [] }
  | .cloneAccounts selector => some {
      -- the accounts are captured under a lock of their own, and never again
      store := store
      next := [.unlockRead, .lockRead, .readInitial (.channels selector) store.state.accounts] }
  | .readInitial subscription accounts =>
    let snapshot : Snapshot := {
      subscription := subscription
      accounts := accounts
      initial := subscription.initialPart store.state
      asOf := store.written.length }
    some {
      store := store
      -- with the lock released first, a publication can come between the two
      next := if subscription.locked then [.activate snapshot, .unlockRead]
        else [.unlockRead, .activate snapshot] }
  | .activate snapshot =>
    let stream : Stream := {
      toSnapshot := snapshot
      since := (store.log snapshot.subscription.feed).length }
    some {
      store := { store with streams := store.streams ++ [stream] }
      next := [] }
  | .execute client signedTx submission =>
    -- the mutator works on a copy, which replaces the state only if it succeeds
    match simulateTxExecution signedTx store.state client.mutator with
    | (.error error, _) => some {
        store := store
        next := submission.finish client (.error error) }
    | (.ok events, state) => some {
        store := store.write state
        -- the messages go out under the write lock
        next := events.map (fun event => .publish event (.transaction store.written.length)) ++
          submission.finish client (.ok events) }
  | .publish event origin => some {
      store := store.broadcast event origin
      next := [] }
  | .insertActiveTx transaction => some {
      store := store.write { store.state with
        activeTxs := store.state.activeTxs.insert transaction.id transaction }
      next := [] }
  | .updateTicketParameters newPrice newWinProb =>
    let state := { store.state with chainInfo := store.state.chainInfo.updated newPrice newWinProb }
    some {
      store := store.write state
      -- the lock is released before the broadcast
      next := .unlockWrite :: if newPrice.isSome || newWinProb.isSome then
        [.publish (.ticketParameters state.ticketParameters) .priceUpdate] else [] }
  | .serve call => some {
      store := store.write (call.serve store.state)
      next := [] }
  | .hiddenUpdate update => some {
      store := store.write (update store.state)
      next := [] }

def accept (r : Request) (c : Conf) : Option (Task × Worklist.Effect Task Point Store) :=
  match r with
  | .subscribe task subscription => some (task, { store := c.store, next := subscription.script })
  | .submit task client signedTx submission =>
    -- a refused submission does nothing
    if client.policyOutcome.isSome then some (task, { store := c.store, next := [] })
    else some (task, { store := c.store, next := [.lockWrite, .execute client signedTx submission] })
  | .updatePriceAndWinProb task newPrice newWinProb =>
    some (task, { store := c.store
                  next := [.lockWrite, .updateTicketParameters newPrice newWinProb] })
  | .serve task call =>
    -- no broadcast, nobody hears of the change
    some (task, { store := c.store, next := [.lockWrite, .serve call, .unlockWrite] })
  | .hiddenStateUpdate task update =>
    some (task, { store := c.store, next := [.lockWrite, .hiddenUpdate update, .unlockWrite] })

/-- The calls on the clones of one client. -/
def clientProgram : Program Task Unit Request Point Store where
  exec := exec
  accept := accept

/-- A new client. -/
def start (state : BlokliTestState) : Conf where
  store := {
    state := state
    lock := { writer := none, readers := [] }
    log := fun _ => []
    written := [state]
    streams := [] }
  todo := fun _ => []

end Blokli.Testing
