import Mathlib.Logic.Function.Basic
import BlokliClient.Connection
import BlokliClient.Health

/-!
# The hub's locked state and its critical sections

`HubState` is what the mutex of the subscription hub protects. Every method
that takes the lock is, up to the code outside the lock, one function of this
file, named after the method; the tasks that call these sections are in
`Hub.Program`.

The slot map is a partial function of the slot id. All its keys are below
`nextId`, from which ids are handed out, so `HubState.ids` lists them in the
order of a `BTreeMap`. Apart from `register` and the two removals, every section
rewrites entries in place (`HubState.mapSlots`).

A `Weak<()>` is the token it was made from, if any, and `upgrade` asks whether
that token is still alive. A token is named by the call of `ensure_supervisors`
that created it and by the scope it was created for.
-/

namespace Blokli

variable {V : Type}

/-- Which connection of the hub a supervisor drives. -/
inductive Scope
  | shared
  | isolated (id : SlotId)
  deriving DecidableEq

/-- Liveness token of a supervisor. -/
structure Token where
  serial : ℕ
  scope : Scope
  deriving DecidableEq

/-- Why a slot moved onto a connection of its own. -/
inductive IsolationCause
  | rejected
  | malformed
  | lagged
  deriving DecidableEq

/-- The connection of its own that a slot moved to. -/
structure Isolation where
  supervisor : Option Token
  cause : IsolationCause

/-- A registered slot. The sender of its queue and its lag flag are those the
store keeps under its id. -/
structure SlotEntry (V : Type) where
  spec : SubscriptionSpec V
  health : HealthTracker
  isolated : Option Isolation
  resync : Bool

def SlotEntry.belongsTo (e : SlotEntry V) (id : SlotId) : Scope → Bool
  | .shared => e.isolated.isNone
  | .isolated own => id == own

structure HubState (V : Type) where
  nextId : SlotId
  slots : SlotId → Option (SlotEntry V)
  generation : ℕ
  /-- Liveness token of the supervisor of the shared connection. -/
  supervisor : Option Token
  /-- Whether a `reqwest::Client` was stored by a registration. -/
  reqwestClient : Bool

def HubState.initial (V : Type) : HubState V where
  nextId := 0
  slots := fun _ => none
  generation := 0
  supervisor := none
  reqwestClient := false

/-- `Weak::upgrade` succeeds. -/
def upgrade (alive : List Token) : Option Token → Bool
  | none => false
  | some token => decide (token ∈ alive)

namespace HubState

variable (s : HubState V)

/-- The registered slots, in the order of their ids. -/
def ids : List SlotId := (List.range s.nextId).filter fun id => (s.slots id).isSome

def belongs (id : SlotId) (scope : Scope) : Bool :=
  -- a slot that is gone belongs nowhere
  match s.slots id with
  | none => false
  | some e => e.belongsTo id scope

/-- `scope_ids`. -/
def scopeIds (scope : Scope) : List SlotId := s.ids.filter fun id => s.belongs id scope

/-- Rewrites every entry in place. -/
def mapSlots (f : SlotId → SlotEntry V → SlotEntry V) : HubState V :=
  { s with slots := fun id => (s.slots id).map (f id) }

/-- Rewrites one entry in place. -/
def modifySlot (id : SlotId) (f : SlotEntry V → SlotEntry V) : HubState V :=
  s.mapSlots fun id' e => if id' = id then f e else e

def removeSlots (ids : List SlotId) : HubState V :=
  { s with slots := fun id => if id ∈ ids then none else s.slots id }

/-! ### The critical sections -/

/-- The section of `register`. -/
def register (spec : SubscriptionSpec V) (health : HealthTracker) : HubState V :=
  { s with
    -- ids are never used again
    nextId := s.nextId + 1
    slots := Function.update s.slots s.nextId
      (some { spec := spec, health := health, isolated := none, resync := false })
    reqwestClient := true }

/-- The section of `deregister`. -/
def deregister (id : SlotId) : HubState V := s.removeSlots [id]

/-- `resume_after`. -/
def resumeAfter (id : SlotId) (payload : V) : HubState V :=
  s.modifySlot id fun e =>
    match e.spec.resume.bind fun resume => resume payload with
    -- no cursor in the payload, or no resumption at all: the spec stays
    | none => e
    | some next =>
      { e with spec :=
        { e.spec with document := next.document, queryVariables := next.queryVariables } }

/-- The section of `request_resync`, which reports whether the slot is still on
the shared connection, or `none` when it is gone. -/
def requestResync (id : SlotId) : HubState V × Option Bool :=
  match s.slots id with
  -- the early return of the source
  | none => (s, none)
  | some e => (s.modifySlot id fun e => { e with resync := true }, some e.isolated.isNone)

/-- The section of `publish_generation`: `wrapping_add(1)` on a `u64`. -/
def bumpGeneration : HubState V := { s with generation := (s.generation + 1) % 2 ^ 64 }

/-- The slot moved off the shared connection and no supervisor serves it. -/
def lacksSupervisor (alive : List Token) (e : SlotEntry V) : Bool :=
  match e.isolated with
  | none => false
  | some isolation => !upgrade alive isolation.supervisor

/-- The shared connection has subscriptions but no supervisor. -/
def sharedLacksSupervisor (alive : List Token) : Bool :=
  !upgrade alive s.supervisor && !(s.scopeIds .shared).isEmpty

/-- The section of `ensure_supervisors`: the tokens of the supervisors to start. -/
def ensureSupervisors (alive : List Token) (serial : ℕ) : HubState V × List Token :=
  -- a dead token is replaced, the cause of the isolation stays
  ({ s.mapSlots fun id e =>
      if lacksSupervisor alive e then
        { e with isolated := e.isolated.map fun isolation =>
          { isolation with supervisor := some ⟨serial, .isolated id⟩ } }
      else e with
      supervisor :=
        if s.sharedLacksSupervisor alive then some ⟨serial, .shared⟩ else s.supervisor },
    (if s.sharedLacksSupervisor alive then [⟨serial, .shared⟩] else []) ++
      (s.ids.filter fun id => (s.slots id).any (lacksSupervisor alive)).map
        fun id => ⟨serial, .isolated id⟩)

/-- The section of `isolate`; `none` when it returns early. -/
def isolate (id : SlotId) (cause : IsolationCause) : Option (HubState V) :=
  match s.slots id with
  | none => none
  | some e =>
    -- the first cause counts
    if e.isolated.isSome then none
    else some (s.modifySlot id fun e =>
      { e with isolated := some { supervisor := none, cause := cause } })

/-- `snapshot`: the subscriptions of `scope`, with their resync requests cleared. -/
def snapshot (scope : Scope) : HubState V × Snapshot V :=
  (s.mapSlots fun id e =>
      -- the flag is taken here, and with it the lag of the health tracker
      if e.belongsTo id scope && e.resync then
        { e with resync := false, health := e.health.caughtUp }
      else e,
    (s.scopeIds scope).filterMap fun id => (s.slots id).map fun e => (id, { spec := e.spec }))

/-- `end_slots`, up to the health of the removed entries. -/
def endSlots (ids : List SlotId) : HubState V := s.removeSlots ids

/-- `with_health`. The listed ids are distinct. -/
def withHealth (scope : Scope) (ids : List SlotId) (update : HealthUpdate) (now : Instant) :
    HubState V :=
  s.mapSlots fun id e =>
    -- a slot that moved is left alone, although its id is listed
    if decide (id ∈ ids) && e.belongsTo id scope then
      { e with health := update.apply e.health now }
    else e

/-- Whether a refusal of `id` on a connection of `scope` opens an episode. -/
def refusalIsNew (scope : Scope) (id : SlotId) : Bool :=
  match s.slots id with
  | none => false
  | some e => e.belongsTo id scope && e.health.refusalIsNew

/-- `reject`. The ids it returns are those whose `refusalIsNew`. -/
def reject (scope : Scope) (ids : List SlotId) (problem : SubscriptionProblem) (now : Instant) :
    HubState V :=
  s.mapSlots fun id e =>
    -- as for `with_health`, a slot that moved is left alone
    if decide (id ∈ ids) && e.belongsTo id scope then
      { e with health := e.health.reject problem now }
    else e

/-- `stall_wakeup`. -/
def stallWakeup (cfg : BlokliClientConfig) (scope : Scope) : Option Instant :=
  match cfg.subscriptionStallThreshold with
  -- no threshold configured: nothing ever stalls
  | none => none
  | some threshold =>
    ((s.scopeIds scope).filterMap fun id =>
      (s.slots id).bind fun e => e.health.stallDeadline threshold).min?

/-- `mark_stalled`. -/
def markStalled (cfg : BlokliClientConfig) (scope : Scope) (now : Instant) : HubState V :=
  match cfg.subscriptionStallThreshold with
  | none => s
  | some threshold =>
    s.mapSlots fun id e =>
      if e.belongsTo id scope &&
          -- the deadline is read again, traffic may have moved it
          (e.health.stallDeadline threshold).any fun deadline => decide (deadline ≤ now) then
        { e with health := e.health.stalled now }
      else e

/-- Whether a slot of `scope` asks for a resync. -/
def resyncPending (scope : Scope) : Bool :=
  (s.scopeIds scope).any fun id => (s.slots id).any fun e => e.resync

/-- Number of deregistered aliases tolerated in a live document. -/
def maxStaleAliases : ℕ := 32

/-- `reconnect_needed`, at the ids of the connection's targets. -/
def reconnectNeeded (scope : Scope) (connected : List SlotId) : Bool :=
  let live := s.scopeIds scope
  live.isEmpty || s.resyncPending scope || !live.all (fun id => decide (id ∈ connected)) ||
    decide (maxStaleAliases < (connected.filter fun id => decide (id ∉ live)).length)

end HubState

end Blokli
