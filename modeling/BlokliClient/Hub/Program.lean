import BlokliClient.Library.Worklist
import BlokliClient.Hub.State

/-!
# The subscription hub as a program

The tasks of the hub are the consumers (one for each registered stream, whoever
polls or drops it) and the supervisors (one for each token). Their code is cut
into instructions at every point where another task can get in between: each
critical section of the state lock, each operation on a queue, a lag flag, a
liveness token or the watch channel, and each await is an instruction of its
own. `exec` says what an instruction does and which ones follow it; the local
variables of the source are the arguments of the instructions.

* The queue of a slot, its lag flag and the state of its receiver are kept
  under the slot's id. Whoever holds a sender is read off the slot map and the
  pending instructions (`Instr.holds`).
* The watch channel is its version and, for every receiver, the version it has
  seen. `send` without receivers changes nothing.
* Awaits that several branches can end are resolved by a `Choice`. The branches
  of `select!` are polled one after the other, so any branch that is ready may
  be taken.
* Connections, frames and refusal episodes are numbered, and `history` records
  what happened to them. No instruction reads the numbers or the history.
-/

namespace Blokli

open Worklist

/-! ### Tasks, queues and what happened to them -/

inductive Task
  | consumer (id : SlotId)
  | supervisor (token : Token)
  | environment
  deriving DecidableEq

/-- One item delivered to a registered subscription. -/
inductive SlotEvent (V : Type)
  | data (value : V)
  | error (error : ErrorKind)

/-- Where an item comes from: a frame of a connection, an episode of refusals,
or a connection that could not be opened. -/
inductive Origin
  | frame (conn frame : ℕ)
  | refusal (episode : ℕ)
  | failure
  deriving DecidableEq

structure Item (V : Type) where
  event : SlotEvent V
  origin : Origin

def Item.isData {V : Type} (item : Item V) : Bool :=
  match item.event with
  | .data _ => true
  | .error _ => false

/-- What happened, newest first in `Store.history`. -/
inductive Event (V : Type)
  /-- A supervisor took a snapshot. -/
  | snapshot (task : Task) (ids : List SlotId)
  /-- A stream was registered. -/
  | registered (id : SlotId) (spec : SubscriptionSpec V)
  /-- A connection was assembled from a snapshot, when the listed slots were registered. -/
  | built (conn : ℕ) (scope : Scope) (slots : Snapshot V) (connection : Connection V)
      (registered : List SlotId)
  /-- A connection received a frame. -/
  | frame (frame conn : ℕ) (response : GraphQlResponse)
  /-- The slots of its scope when a connection dispatched a frame. -/
  | live (frame : ℕ) (ids : List SlotId)
  | queued (id : SlotId) (item : Item V)
  /-- The queue of the slot was full, with the number of items it held. -/
  | dropped (id : SlotId) (item : Item V) (scope : Scope) (waiting : ℕ)
  /-- The receiver was gone. -/
  | undelivered (id : SlotId) (item : Item V)
  /-- An item was returned by `poll_next`. -/
  | received (id : SlotId) (item : Item V)
  /-- A refusal opened an episode. -/
  | refused (id : SlotId) (episode : ℕ)
  | resyncRequested (id : SlotId)
  /-- Slots were removed by `end_slots`. -/
  | ended (task : Task) (ids : List SlotId) (reason : SubscriptionEnd)

/-! ### The store -/

/-- `SLOT_CHANNEL_CAPACITY`. -/
def slotChannelCapacity : ℕ := 16384

/-- `SLOT_CHANGE_DEBOUNCE`. -/
def slotChangeDebounce : Duration := Duration.fromMillis 25

/-- `MAX_SLOT_CHANGE_WAIT`. -/
def maxSlotChangeWait : Duration := Duration.fromMillis 250

/-- What the hub is created with. The two errors are what deriving the URL and
building the SSE client from it yield, if they fail. -/
structure HubConfig where
  cfg : BlokliClientConfig
  /-- The hub serves a single subscription. -/
  dedicated : Bool
  urlError : Option ErrorKind
  builderError : Option ErrorKind

/-- The variables of a supervisor that outlive one connection. -/
structure Locals where
  /-- The version its receiver of the watch channel has seen. -/
  seen : ℕ
  malformedEventDelay : Option Duration
  reconnectDelay : Option Duration

structure Store (V : Type) where
  state : HubState V
  /-- Version of the watch channel. -/
  version : ℕ
  /-- Supervisors that hold a receiver of the watch channel. -/
  receivers : List Token
  locals : Task → Locals
  /-- Tokens that are not dropped. -/
  alive : List Token
  /-- Number of calls of `ensure_supervisors`. -/
  serial : ℕ
  queues : SlotId → List (Item V)
  lagging : SlotId → Bool
  /-- The receiver was dropped. -/
  closed : SlotId → Bool
  /-- The stream is registered, and neither finished nor dropped. -/
  streaming : SlotId → Bool
  /-- Final health of the slots that left the map. -/
  departed : SlotId → Option HealthTracker
  clock : Instant
  conns : ℕ
  frames : ℕ
  episodes : ℕ
  history : List (Event V)

/-! ### Instructions -/

/-- How the supervisor continues after a connection stopped driving subscriptions. -/
inductive Outcome
  | rebuild
  | reconnect (delay : Duration)
  | stop (reason : SubscriptionEnd)

/-- The local variables of `drive`, but for the stream. -/
structure Driving (V : Type) where
  scope : Scope
  conn : ℕ
  connection : Connection V

/-- The local variables of `dispatch`. -/
structure Dispatching (V : Type) extends Driving V where
  frame : ℕ
  live : List SlotId
  payloads : List (SlotId × Json)
  slotErrors : List (SlotId × List GraphQlError)
  documentErrors : List GraphQlError
  hadPayloads : Bool
  decodedAny : Bool
  malformed : Bool
  rejected : Bool
  failed : List SlotId

/-- An atomic step of a task, under the name of the function it belongs to. -/
inductive Instr (V : Type)
  -- `publish_generation`
  | bumpGeneration
  | sendGeneration
  -- `ensure_supervisors`
  | ensureSupervisors
  | spawnSupervisor (token : Token)
  | isolate (id : SlotId) (cause : IsolationCause)
  -- `run_supervisor`
  | readCause (id : SlotId)
  | stop (scope : Scope) (connected : List SlotId) (reason : SubscriptionEnd)
  | endSlots (ids : List SlotId) (reason : SubscriptionEnd)
  | dropReceiver (token : Token)
  | dropToken (token : Token)
  -- `wait_before_reconnect`
  | waitReconnect (scope : Scope) (deadline : Instant) (connected : List SlotId)
  | recheckWait (scope : Scope) (deadline : Instant) (connected : List SlotId)
  -- `prepare`
  | prepare (scope : Scope)
  | snapshot (scope : Scope) (waitUntil : Instant)
  | debounce (scope : Scope) (waitUntil : Instant) (slots : Snapshot V)
  | awaitChange (scope : Scope) (waitUntil deadline : Instant) (slots : Snapshot V)
  | build (scope : Scope) (slots : Snapshot V)
  | trySend (id : SlotId) (item : Item V)
  | releaseSlots (ids : List SlotId)
  -- `drive`
  | openStream (d : Driving V)
  | stallWakeup (d : Driving V)
  | select (d : Driving V) (stall : Option Instant)
  | reconnectNeeded (d : Driving V)
  | markStalled (scope : Scope)
  | leaveDrive (d : Driving V) (outcome : Outcome)
  -- `dispatch`
  | readLive (d : Dispatching V)
  | dispatchPayloads (d : Dispatching V)
  | dispatchErrors (d : Dispatching V)
  | dispatchDocument (d : Dispatching V)
  | malformedEvent (d : Driving V)
  | reject (scope : Scope) (targets : List (SlotTarget V)) (problem : SubscriptionProblem)
      (error : ErrorKind)
  | withHealth (scope : Scope) (ids : List SlotId) (update : HealthUpdate)
  -- `deliver`
  | deliver (scope : Scope) (target : SlotTarget V) (item : Item V)
  | swapLagging (scope : Scope) (id : SlotId)
  -- `poll_next`
  | receive (id : SlotId)
  | resumeAfter (id : SlotId) (payload : V)
  | checkDrained (id : SlotId)
  | swapDrained (id : SlotId)
  | requestResync (id : SlotId)
  -- the drop of a stream
  | closeReceiver (id : SlotId)
  | deregister (id : SlotId)

/-- How the environment resolves an await. -/
inductive Choice
  /-- What the instruction waits for happened. -/
  | proceed
  /-- The watch channel has an unseen version. -/
  | changed
  /-- The deadline passed. -/
  | timeout
  /-- The stream of the connection yielded an item, or ended. -/
  | next (item : Option SseItem)

/-- What reaches the hub from outside. -/
inductive Request (V : Type)
  /-- A stream is polled for the first time. Its health was created earlier. -/
  | register (spec : SubscriptionSpec V) (created : Instant)
  | poll (id : SlotId)
  | drop (id : SlotId)
  /-- Time passes. -/
  | tick (d : Duration)

variable {V : Type}

/-- The slots a sender of whose queue the instruction holds. -/
def Instr.holds : Instr V → List SlotId
  | .debounce _ _ slots | .awaitChange _ _ _ slots | .build _ slots => slots.map Prod.fst
  | .trySend id _ => [id]
  | .releaseSlots ids => ids
  | .openStream d | .stallWakeup d | .select d _ | .reconnectNeeded d | .leaveDrive d _
  | .malformedEvent d => d.connection.ids
  | .readLive d | .dispatchPayloads d | .dispatchErrors d | .dispatchDocument d =>
    d.connection.ids
  | .reject _ targets _ _ => targets.map SlotTarget.id
  | .deliver _ target _ => [target.id]
  | _ => []

abbrev Config (V : Type) := Worklist.Config Task (Instr V) (Store V)

abbrev Effect (V : Type) := Worklist.Effect Task (Instr V) (Store V)

/-- Whether anybody still holds a sender of the queue of slot `id`: its entry,
or a supervisor. -/
def senderHeld (c : Config V) (id : SlotId) : Bool :=
  (c.store.state.slots id).isSome ||
    c.store.receivers.any fun token =>
      (c.todo (.supervisor token)).any fun i => decide (id ∈ i.holds)

/-! ### Operations on the store -/

namespace Store

variable (s : Store V)

def log (event : Event V) : Store V := { s with history := event :: s.history }

def modifyLocals (t : Task) (f : Locals → Locals) : Store V :=
  { s with locals := Function.update s.locals t (f (s.locals t)) }

/-- Marks the current version of the watch channel as seen. -/
def markSeen (t : Task) : Store V := s.modifyLocals t fun l => { l with seen := s.version }

/-- Appends an item to a queue. -/
def push (id : SlotId) (item : Item V) : Store V :=
  { s with queues := Function.update s.queues id (s.queues id ++ [item]) }.log (.queued id item)

/-- The final health of entries that are removed. -/
def depart (ids : List SlotId) (reason : SubscriptionEnd) : SlotId → Option HealthTracker :=
  fun id =>
    -- the tracker ends with its entry
    match s.state.slots id with
    | none => s.departed id
    | some e => if id ∈ ids then some (e.health.finish reason s.clock) else s.departed id

end Store

/-! ### What the instructions do -/

variable (hub : HubConfig)

/-- The instructions of the task that `ensure_supervisors` spawns. -/
def supervisorCode (token : Token) : List (Instr V) :=
  (match token.scope with
    | .shared => .prepare .shared
    | .isolated id => .readCause id) ::
    [.dropReceiver token, .dropToken token, .ensureSupervisors]

/-- The wait of a supervisor that just started to serve a slot of its own, and
the malformed-event backoff it leaves. -/
def isolatedDelay (cause : IsolationCause) (state : Option Duration) :
    Duration × Option Duration :=
  match cause with
  -- refused before: at the slow pace from the start
  | .rejected => (rejectedRetryDelay hub.cfg, state)
  -- the first malformed payload starts the backoff of its own connection
  | .malformed => nextMalformedEventDelay hub.cfg state
  -- the consumer has drained its queue and waits for the replay
  | .lagged => (0, state)

/-- The supervisor of slot `id` reads why the slot moved. -/
def execReadCause (t : Task) (id : SlotId) (s : Store V) : Effect V :=
  match (s.state.slots id).bind fun e => e.isolated.map Isolation.cause with
  -- deregistered meanwhile: the supervisor has nothing to serve
  | none => { store := s, next := [] }
  | some cause =>
    let (delay, state) := isolatedDelay hub cause (s.locals t).malformedEventDelay
    { store := s.modifyLocals t fun l => { l with malformedEventDelay := state }
      next := [.waitReconnect (.isolated id) (s.clock + delay) [id], .prepare (.isolated id)] }

/-- `build_connection` and its error path. A panic leaves the task stuck. -/
def execBuild (scope : Scope) (slots : Snapshot V) (s : Store V) : Option (Effect V) :=
  match (buildConnection slots).run with
  | none => none
  | some (.error error) =>
    some {
      store := s
      -- every slot is sent the error before it ends, and its sender is dropped last
      next := (slots.map fun p => .trySend p.1 { event := .error error, origin := .failure }) ++
        [.endSlots (slots.map Prod.fst) .failed, .releaseSlots (slots.map Prod.fst)] }
  | some (.ok connection) =>
    some {
      store := { s with conns := s.conns + 1 }.log
        (.built s.conns scope slots connection s.state.ids)
      next := [.openStream { scope := scope, conn := s.conns, connection := connection }] }

/-- The error of `open_stream`, if it fails. -/
def openError (s : HubState V) : Option ErrorKind :=
  match hub.urlError with
  | some error => some error
  | none =>
    if s.reqwestClient then hub.builderError
    else some (.invalidInput "subscription client is not initialised".toList)

def execOpenStream (d : Driving V) (s : Store V) : Effect V :=
  match openError hub s.state with
  | some error =>
    -- `open_stream` runs before the loop of `drive`: every target hears of its error
    { store := s
      next := (d.connection.slotTargets.map fun target =>
          .deliver d.scope target { event := .error error, origin := .failure }) ++
        [.leaveDrive d (.stop .failed)] }
  | none => { store := s, next := [.stallWakeup d] }

/-- The locals that `dispatch` starts with on a routed frame. -/
def Driving.dispatching (d : Driving V) (frame : ℕ) (r : Routed) : Dispatching V where
  toDriving := d
  frame := frame
  live := []
  payloads := r.payloads
  slotErrors := r.slotErrors
  documentErrors := r.documentErrors
  hadPayloads := !r.payloads.isEmpty
  decodedAny := false
  malformed := false
  rejected := false
  failed := []

/-- What a malformed frame makes of its connection. -/
def malformedFrame (d : Driving V) : List (Instr V) :=
  [.withHealth d.scope d.connection.ids (.problem .malformedEvent), .malformedEvent d]

/-- An event of the stream: `dispatch` up to the routing. -/
def execEvent (d : Driving V) (data : Option GraphQlResponse) (s : Store V) : Effect V :=
  match data with
  -- the data is no GraphQL response
  | none => { store := s, next := malformedFrame d }
  | some response =>
    -- the response takes the next number, under which the history keeps it
    { store := { s with frames := s.frames + 1 }.log (.frame s.frames d.conn response)
      next :=
        match route response d.connection.targets with
        -- data that is no object, or neither data nor errors
        | none => malformedFrame d
        | some r => [.readLive (d.dispatching s.frames r)] }

/-- An error of the stream. -/
def execStreamError (t : Task) (d : Driving V) (error : SseError) (s : Store V) : Effect V :=
  match rejectionOf error with
  -- an HTTP refusal: the subscriptions are rejected and retried at the slow pace
  | some problem =>
    { store := s
      next := [.reject d.scope d.connection.slotTargets problem (.subscription error),
        .leaveDrive d (.reconnect (rejectedRetryDelay hub.cfg))] }
  -- a failure of the connection: a resumable one is rebuilt, with the cursors of the moment
  | none =>
    let report := .withHealth d.scope d.connection.ids (.problem (problemOf error))
    if d.connection.resumable then
      let delay := nextReconnectDelay hub.cfg (s.locals t).reconnectDelay
      { store := s.modifyLocals t fun l => { l with reconnectDelay := some delay }
        next := [report, .leaveDrive d (.reconnect delay)] }
    -- the SSE client reconnects by itself
    else { store := s, next := [report, .stallWakeup d] }

/-- An item of the stream, or its end. -/
def execNext (t : Task) (d : Driving V) (item : Option SseItem) (s : Store V) : Effect V :=
  match item with
  -- only an event passes through `dispatch`
  | some (.event data) => execEvent d data s
  -- a comment is a sign of life, and resets the backoff
  | some .comment =>
    { store := s.modifyLocals t fun l => { l with reconnectDelay := none }
      next := [.withHealth d.scope d.connection.ids .transportActivity, .stallWakeup d] }
  | some .connected =>
    { store := s
      next := [.withHealth d.scope d.connection.ids .connected, .stallWakeup d] }
  | some (.error error) => execStreamError hub t d error s
  -- the stream is over: restarted after the configured delay, but never at once
  | none =>
    { store := s
      next := [.leaveDrive d
        (match hub.cfg.subscriptionStreamRestartDelay with
          | some delay => .reconnect (max delay minReconnectionDelay)
          | none => .stop .completed)] }

/-- What the supervisor does with the outcome of `drive`. -/
def execLeaveDrive (d : Driving V) (outcome : Outcome) (s : Store V) : Effect V :=
  { store := s
    next :=
      match outcome with
      | .rebuild => [.prepare d.scope]
      -- the supervisor prepares again once the wait is over
      | .reconnect delay =>
        [.waitReconnect d.scope (s.clock + delay) d.connection.ids, .prepare d.scope]
      | .stop reason => [.stop d.scope d.connection.ids reason] }

/-- The owner of an alias, if it is still on the connection. -/
def Dispatching.target (d : Dispatching V) (id : SlotId) : Option (SlotTarget V) :=
  (d.connection.byId id).filter fun _ => decide (id ∈ d.live)

/-- One turn of the loop over the payloads of a frame. -/
def execPayload (d : Dispatching V) : List (Instr V) :=
  match d.payloads with
  | [] => [.dispatchErrors d]
  | (id, payload) :: payloads =>
    -- the turn consumes the payload, whatever becomes of it
    let d := { d with payloads := payloads }
    match d.target id with
    -- the slot moved to another connection, or ended
    | none => [.dispatchPayloads d]
    | some target =>
      match target.decode payload with
      -- the update is recorded behind its delivery, if that succeeds
      | some value =>
        [.deliver d.scope target { event := .data value, origin := .frame d.conn d.frame },
          .dispatchPayloads { d with decodedAny := true }]
      | none =>
        .withHealth d.scope [id] (.problem .malformedEvent) ::
          -- a malformed payload takes its slot off the shared connection
          match d.scope with
          | .shared =>
            [.isolate id .malformed, .dispatchPayloads { d with failed := id :: d.failed }]
          -- and on its own one it is the connection that backs off
          | .isolated _ =>
            [.dispatchPayloads { d with failed := id :: d.failed, malformed := true }]

/-- The subscriptions for which a frame is a sign of life. -/
def Dispatching.alive (d : Dispatching V) : List SlotId :=
  d.connection.ids.filter fun id => decide (id ∉ d.failed)

/-- One turn of the loop over the slot errors of a frame, and the sign of life
that follows the loop. -/
def execSlotError (d : Dispatching V) : List (Instr V) :=
  match d.slotErrors with
  -- the loop is over
  | [] =>
    if d.hadPayloads || d.documentErrors.isEmpty then
      [.withHealth d.scope d.alive .transportActivity, .dispatchDocument d]
    else [.dispatchDocument d]
  -- the errors of one slot refuse it alone
  | (id, errors) :: slotErrors =>
    let d := { d with slotErrors := slotErrors }
    match d.target id with
    | none => [.dispatchErrors d]
    | some target =>
      let d := { d with failed := id :: d.failed }
      .reject d.scope [target] .graphQl (errorsToClientError errors) ::
        match d.scope with
        | .shared => [.isolate id .rejected, .dispatchErrors d]
        | .isolated _ => [.dispatchErrors { d with rejected := true }]

/-- The end of `dispatch`, and what `drive` makes of its result. -/
def execDocument (t : Task) (d : Dispatching V) (s : Store V) : Effect V :=
  let retry := .leaveDrive d.toDriving (.reconnect (rejectedRetryDelay hub.cfg))
  -- errors of the document and no payload: every subscription of the connection is refused
  if !d.documentErrors.isEmpty && !d.hadPayloads then
    { store := s
      next := [.reject d.scope d.connection.slotTargets .graphQl
        (errorsToClientError d.documentErrors), retry] }
  -- the payload of the only slot did not decode: the backoff grows
  else if d.malformed then { store := s, next := [.malformedEvent d.toDriving] }
  else
    let s := if d.decodedAny then
      s.modifyLocals t fun l => { l with malformedEventDelay := none } else s
    if d.rejected then { store := s, next := [retry] }
    else
      -- the frame was handled: the reconnect backoff starts over
      { store := s.modifyLocals t fun l => { l with reconnectDelay := none }
        next := [.stallWakeup d.toDriving] }

/-- The backoff of a malformed event. -/
def execMalformedEvent (t : Task) (d : Driving V) (s : Store V) : Effect V :=
  let (delay, state) := nextMalformedEventDelay hub.cfg (s.locals t).malformedEventDelay
  { store := s.modifyLocals t fun l => { l with malformedEventDelay := state }
    next := [.leaveDrive d (.reconnect delay)] }

/-- `reject`, and the deliveries that follow it. -/
def execReject (scope : Scope) (targets : List (SlotTarget V)) (problem : SubscriptionProblem)
    (error : ErrorKind) (s : Store V) : Effect V :=
  -- a slot that is rejected already hears nothing new, and one that moved is not refused
  let first := targets.filter fun target => s.state.refusalIsNew scope target.id
  { store := { s with
      state := s.state.reject scope (targets.map SlotTarget.id) problem s.clock
      -- the number of the episode ties the errors to this refusal
      episodes := s.episodes + 1
      history := (first.map fun target => .refused target.id s.episodes) ++ s.history }
    next := first.map fun target =>
      .deliver scope target { event := .error error, origin := .refusal s.episodes } }

/-- `deliver`. The connection of a single subscription waits for room in the
queue; on the shared connection an item that finds the queue full is dropped. -/
def execDeliver (scope : Scope) (target : SlotTarget V) (item : Item V) (s : Store V) :
    Option (Effect V) :=
  -- the stream was dropped, and its receiver with it
  if s.closed target.id then
    some { store := s.log (.undelivered target.id item), next := [] }
  -- there is room: `dispatch` records the update once it is in the queue
  else if (s.queues target.id).length < slotChannelCapacity then
    some {
      store := s.push target.id item
      next := if item.isData then [.withHealth scope [target.id] .dataUpdate] else [] }
  -- `send().await` until there is room
  else if hub.dedicated || decide (scope ≠ .shared) then none
  else
    some {
      store := s.log (.dropped target.id item scope (s.queues target.id).length)
      next := [.swapLagging scope target.id] }

/-- `try_send` on the error path of `prepare`. -/
def execTrySend (id : SlotId) (item : Item V) (s : Store V) : Effect V :=
  if !s.closed id && decide ((s.queues id).length < slotChannelCapacity) then
    { store := s.push id item, next := [] }
  else { store := s, next := [] }

/-- `poll_recv`. -/
def execReceive (id : SlotId) (c : Config V) : Effect V :=
  match c.store.queues id with
  -- the item is the consumer's from here on; the cursor follows it in the next instruction
  | item :: items =>
    { store := { c.store with queues := Function.update c.store.queues id items }.log
        (.received id item)
      next := (match item.event with
        | .data value => [.resumeAfter id value]
        | .error _ => []) ++ [.checkDrained id] }
  | [] =>
    -- no item and a sender left: the poll is pending
    if senderHeld c id then { store := c.store, next := [] }
    -- no sender left: the stream finishes and releases its slot
    else
      { store := { c.store with streaming := Function.update c.store.streaming id false }
        next := [.closeReceiver id, .deregister id] }

/-- **What an instruction does.** -/
def exec (t : Task) (ch : Choice) (i : Instr V) (c : Config V) : Option (Effect V) :=
  let s := c.store
  match i with
  | .bumpGeneration =>
    some { store := { s with state := s.state.bumpGeneration }, next := [.sendGeneration] }
  | .sendGeneration =>
    -- without a receiver `send` fails, and the value stays: nobody is there to hear of it
    some { store := { s with version := if s.receivers.isEmpty then s.version else s.version + 1 }
           next := [] }
  | .ensureSupervisors =>
    let (state, starts) := s.state.ensureSupervisors s.alive s.serial
    some { store := { s with state := state, alive := s.alive ++ starts, serial := s.serial + 1 }
           next := starts.map .spawnSupervisor }
  | .spawnSupervisor token =>
    -- a receiver subscribes at the version of the moment, so that older changes are not seen
    some { store := { s with
             receivers := token :: s.receivers
             locals := Function.update s.locals (.supervisor token)
               { seen := s.version, malformedEventDelay := none, reconnectDelay := none } }
           next := []
           spawned := some (.supervisor token, supervisorCode token) }
  | .isolate id cause =>
    match s.state.isolate id cause with
    -- the slot is gone or has a connection of its own already
    | none => some { store := s, next := [] }
    | some state =>
      some { store := { s with state := state }, next := [.bumpGeneration, .ensureSupervisors] }
  | .readCause id => some (execReadCause hub t id s)
  | .stop scope connected reason =>
    some { store := s
           -- only the streams of this connection end, not those that joined meanwhile
           next := [.endSlots ((s.state.scopeIds scope).filter fun id => decide (id ∈ connected))
             reason] }
  | .endSlots ids reason =>
    some { store := { s with state := s.state.endSlots ids, departed := s.depart ids reason }.log
             (.ended t (ids.filter fun id => (s.state.slots id).isSome) reason)
           next := [] }
  | .dropReceiver token =>
    some { store := { s with receivers := s.receivers.erase token }, next := [] }
  | .dropToken token => some { store := { s with alive := s.alive.erase token }, next := [] }
  | .waitReconnect scope deadline connected =>
    match ch with
    -- the delay is over
    | .timeout => if deadline ≤ s.clock then some { store := s, next := [] } else none
    -- the generation changed: is there anything to rebuild for
    | .changed =>
      if (s.locals t).seen = s.version then none
      else some { store := s.markSeen t, next := [.recheckWait scope deadline connected] }
    | _ => none
  | .recheckWait scope deadline connected =>
    -- emptied, or a slot that this connection does not serve
    let live := s.state.scopeIds scope
    some { store := s
           next := if live.isEmpty || !live.all (fun id => decide (id ∈ connected)) then []
             else [.waitReconnect scope deadline connected] }
  | .prepare scope => some { store := s, next := [.snapshot scope (s.clock + maxSlotChangeWait)] }
  | .snapshot scope waitUntil =>
    -- one lock section: the specs are read and the resync requests taken
    let (state, slots) := s.state.snapshot scope
    some { store := { s with state := state }.log (.snapshot t (slots.map Prod.fst))
           next := if slots.isEmpty then [] else [.debounce scope waitUntil slots] }
  | .debounce scope waitUntil slots =>
    -- only a shared connection waits for the slots to settle, and not for ever
    some { store := s
           next :=
             if scope = .shared ∧ hub.dedicated = false ∧ s.clock < waitUntil then
               [.awaitChange scope waitUntil (s.clock + slotChangeDebounce) slots]
             else [.build scope slots] }
  | .awaitChange scope waitUntil deadline slots =>
    match ch with
    | .timeout =>
      if deadline ≤ s.clock then some { store := s, next := [.build scope slots] } else none
    -- another change: the snapshot is taken anew
    | .changed =>
      if (s.locals t).seen = s.version then none
      else some { store := s.markSeen t, next := [.snapshot scope waitUntil] }
    | _ => none
  | .build scope slots => execBuild scope slots s
  | .trySend id item => some (execTrySend id item s)
  | .releaseSlots _ => some { store := s, next := [] }
  | .openStream d => some (execOpenStream hub d s)
  | .stallWakeup d =>
    some { store := s, next := [.select d (s.state.stallWakeup hub.cfg d.scope)] }
  | .select d stall =>
    match ch with
    -- a change that this supervisor has not seen is pending
    | .changed =>
      if (s.locals t).seen = s.version then none
      else some { store := s.markSeen t, next := [.reconnectNeeded d] }
    -- the timer of the nearest stall deadline
    | .timeout =>
      if stall.any fun deadline => decide (deadline ≤ s.clock) then
        some { store := s, next := [.markStalled d.scope, .stallWakeup d] }
      else none
    -- the transport yields its next item
    | .next item => some (execNext hub t d item s)
    | .proceed => none
  | .reconnectNeeded d =>
    some { store := s
           next := if s.state.reconnectNeeded d.scope d.connection.ids then [.leaveDrive d .rebuild]
             else [.stallWakeup d] }
  | .markStalled scope =>
    some { store := { s with state := s.state.markStalled hub.cfg scope s.clock }, next := [] }
  | .leaveDrive d outcome => some (execLeaveDrive d outcome s)
  | .readLive d =>
    let live := s.state.scopeIds d.scope
    -- `scope_ids` under the lock, once for the whole frame
    some { store := s.log (.live d.frame live)
           next := [.dispatchPayloads { d with live := live }] }
  | .dispatchPayloads d => some { store := s, next := execPayload d }
  | .dispatchErrors d => some { store := s, next := execSlotError d }
  | .dispatchDocument d => some (execDocument hub t d s)
  | .malformedEvent d => some (execMalformedEvent hub t d s)
  | .reject scope targets problem error => some (execReject scope targets problem error s)
  | .withHealth scope ids update =>
    some { store := { s with state := s.state.withHealth scope ids update s.clock }, next := [] }
  | .deliver scope target item => execDeliver hub scope target item s
  | .swapLagging scope id =>
    -- `swap` returns the flag of before: only the first dropped item is reported
    some { store := { s with lagging := Function.update s.lagging id true }
           next := if s.lagging id then [] else [.withHealth scope [id] .lagging] }
  | .receive id => some (execReceive id c)
  | .resumeAfter id payload =>
    some { store := { s with state := s.state.resumeAfter id payload }, next := [] }
  | .checkDrained id =>
    -- only behind a drained queue: the replay would be dropped as well
    some { store := s, next := if (s.queues id).isEmpty then [.swapDrained id] else [] }
  | .swapDrained id =>
    some { store := { s with lagging := Function.update s.lagging id false }
           -- a flag that was up asks for a replay
           next := if s.lagging id then [.requestResync id] else [] }
  | .requestResync id =>
    match s.state.requestResync id with
    -- the slot is gone
    | (_, none) => some { store := s.log (.resyncRequested id), next := [] }
    | (state, some shared) =>
      some { store := { s with state := state }.log (.resyncRequested id)
             -- a slot of the shared connection moves to its own, any other has its connection
             -- rebuilt
             next := if shared then [.isolate id .lagged] else [.bumpGeneration] }
  | .closeReceiver id =>
    some { store := { s with
             closed := Function.update s.closed id true
             queues := Function.update s.queues id [] }
           next := [] }
  | .deregister id =>
    some { store := { s with
             state := s.state.deregister id
             departed := s.depart [id] .cancelled }
           next := [.bumpGeneration] }

/-- **What a request does**, and the task that serves it. -/
def accept (r : Request V) (c : Config V) : Option (Task × Effect V) :=
  let s := c.store
  match r with
  | .register spec created =>
    -- the tracker was made when the stream was created, which is before its first poll
    if created ≤ s.clock then
      some (.consumer s.state.nextId,
        { store := { s with
            state := s.state.register spec (HealthTracker.new created)
            streaming := Function.update s.streaming s.state.nextId true }.log
              (.registered s.state.nextId spec)
          next := [.bumpGeneration, .ensureSupervisors, .receive s.state.nextId] })
    else none
  -- a stream that finished yields nothing more
  | .poll id =>
    if s.streaming id then some (.consumer id, { store := s, next := [.receive id] }) else none
  -- dropping the stream drops the receiver, then the guard
  | .drop id =>
    if s.streaming id then
      some (.consumer id,
        { store := { s with streaming := Function.update s.streaming id false }
          next := [.closeReceiver id, .deregister id] })
    else none
  | .tick d => some (.environment, { store := { s with clock := s.clock + d }, next := [] })

/-- The subscription hub. -/
def hubProgram : Worklist.Program Task Choice (Request V) (Instr V) (Store V) where
  exec := exec hub
  accept := accept

/-- A hub on which nothing was polled yet. -/
def initialStore (V : Type) : Store V where
  state := HubState.initial V
  version := 0
  receivers := []
  locals := fun _ => { seen := 0, malformedEventDelay := none, reconnectDelay := none }
  alive := []
  serial := 0
  queues := fun _ => []
  lagging := fun _ => false
  closed := fun _ => false
  streaming := fun _ => false
  departed := fun _ => none
  clock := 0
  conns := 0
  frames := 0
  episodes := 0
  history := []

def initialConfig (V : Type) : Config V where
  store := initialStore V
  todo := fun _ => []

/-! ### A hub to run -/

/-- The hub of a client with the default configuration. -/
def sampleHub : HubConfig where
  cfg := {}
  dedicated := false
  urlError := none
  builderError := none

/-- A subscription without variables whose payloads are numbers. -/
def sampleSpec : SubscriptionSpec ℕ where
  document := "subscription \x7b readiness \x7d".toList
  queryVariables := .object []
  decode
    | .object [(_, .number n _)] => some n.toNat
    | _ => none
  resume := none

/-- A stream is polled for the first time, and its task runs `steps` instructions. -/
def registering (id : SlotId) (steps : ℕ) : List (Action Task Choice (Request ℕ)) :=
  .request (.register sampleSpec 0) :: List.replicate steps (.run (.consumer id) .proceed)

/-- The supervisor that the first registration starts. -/
def firstSupervisor : Task := .supervisor ⟨0, .shared⟩

/-- The tasks of a hub with one stream on the shared connection. -/
def sampleTasks : List Task := [.consumer 0, firstSupervisor, .environment]

/-- The tasks of a hub with two streams on the shared connection. -/
def pairTasks : List Task := [.consumer 0, .consumer 1, firstSupervisor, .environment]

/-- The first supervisor takes a snapshot, waits until it settled and opens the
connection. -/
def opening : List (Action Task Choice (Request ℕ)) :=
  List.replicate 3 (.run firstSupervisor .proceed) ++
    [.request (.tick slotChangeDebounce), .run firstSupervisor .timeout] ++
    List.replicate 3 (.run firstSupervisor .proceed)

/-- Two streams are polled for the first time. The first supervisor takes a snapshot, hears of the
second stream, takes another one and opens the connection. -/
def openingPair : List (Action Task Choice (Request ℕ)) :=
  registering 0 5 ++ registering 1 4 ++ List.replicate 3 (.run firstSupervisor .proceed) ++
    .run firstSupervisor .changed :: List.replicate 2 (.run firstSupervisor .proceed) ++
    [.request (.tick slotChangeDebounce), .run firstSupervisor .timeout] ++
    List.replicate 3 (.run firstSupervisor .proceed)

end Blokli
