import BlokliClient.Wire

/-!
# Health of one subscription

`HealthTracker` and its operations, which the hub calls while it holds the state
lock. Every operation takes the current instant, which the source reads from
the clock inside `update`. The texts of the log lines and the errors they quote
are left out: no operation reads them back.
-/

namespace Blokli

/-- Why a subscription ended. -/
inductive SubscriptionEnd
  | completed
  | cancelled
  | failed
  deriving DecidableEq

/-- Where a subscription is in its life. -/
inductive SubscriptionStatus
  | connecting
  | healthy
  | degraded
  | stalled
  | rejected
  | recovered (outage : Duration)
  | ended (reason : SubscriptionEnd)
  | untracked
  deriving DecidableEq

/-- Snapshot of one subscription's health. -/
structure SubscriptionHealth where
  status : SubscriptionStatus
  statusSince : Instant
  lastTransportActivity : Option Instant
  lastUpdate : Option Instant
  failures : ℕ
  lastProblem : Option SubscriptionProblem
  connections : ℕ

/-- `u32::saturating_add(1)` -/
def saturatingSucc32 (n : ℕ) : ℕ := min (n + 1) (2 ^ 32 - 1)

/-- `u64::saturating_add(1)` -/
def saturatingSucc64 (n : ℕ) : ℕ := min (n + 1) (2 ^ 64 - 1)

def SubscriptionHealth.new (status : SubscriptionStatus) (now : Instant) : SubscriptionHealth where
  status := status
  statusSince := now
  lastTransportActivity := none
  lastUpdate := none
  failures := 0
  lastProblem := none
  connections := 0

/-- `set_status`. -/
def SubscriptionHealth.setStatus (h : SubscriptionHealth) (status : SubscriptionStatus)
    (now : Instant) : SubscriptionHealth :=
  { h with status := status, statusSince := now }

/-- Write side of a subscription's health. -/
structure HealthTracker where
  health : SubscriptionHealth
  /-- When the subscription was created; stalls are measured from here until the
  transport first works. -/
  created : Instant
  /-- Start of the current outage. -/
  outageSince : Instant
  /-- The consumer lost events and has not received the server's state again yet. -/
  lagging : Bool

namespace HealthTracker

def new (now : Instant) : HealthTracker where
  health := SubscriptionHealth.new .connecting now
  created := now
  outageSince := now
  lagging := false

/-- The status `record_activity` moves to, if it moves at all. -/
def activityStatus (t : HealthTracker) (endsRejection : Bool) (now : Instant) :
    Option SubscriptionStatus :=
  -- a working connection does not bring back the events the consumer lost
  if t.lagging then none
  else
    match t.health.status with
    | .connecting => some .healthy
    | .degraded | .stalled => some (.recovered (now - t.outageSince))
    -- Blokli accepts the connection before it refuses the query
    | .rejected => if endsRejection then some (.recovered (now - t.outageSince)) else none
    | _ => none

def recordActivity (t : HealthTracker) (endsRejection : Bool) (now : Instant) : HealthTracker :=
  let health := { t.health with lastTransportActivity := some now }
  match t.activityStatus endsRejection now with
  | none => { t with health := health }
  -- only a change of the status clears the failures
  | some next => { t with health := { health with failures := 0 }.setStatus next now }

/-- The connection delivered a keepalive or an event. -/
def transportActivity (t : HealthTracker) (now : Instant) : HealthTracker :=
  t.recordActivity true now

/-- A connection was (re)established; this does not end a rejection. -/
def connected (t : HealthTracker) (now : Instant) : HealthTracker :=
  { t with
    health := { t.health with connections := saturatingSucc64 t.health.connections }
  }.recordActivity false now

/-- An update was decoded and is about to be yielded. -/
def dataUpdate (t : HealthTracker) (now : Instant) : HealthTracker :=
  let t := t.transportActivity now
  { t with health := { t.health with lastUpdate := some now } }

/-- When the outage that a problem starts began, if the problem starts one. -/
def problemOutage (t : HealthTracker) (now : Instant) : Option Instant :=
  match t.health.status with
  | .healthy | .recovered _ => some now
  -- a subscription that never connected has been out since it was created
  | .connecting => some t.created
  -- an outage is already running
  | _ => none

/-- Something went wrong; the subscription keeps reconnecting. -/
def problem (t : HealthTracker) (p : SubscriptionProblem) (now : Instant) : HealthTracker :=
  let health :=
    { t.health with failures := saturatingSucc32 t.health.failures, lastProblem := some p }
  match t.problemOutage now with
  | some since => { t with health := health.setStatus .degraded now, outageSince := since }
  | none => { t with health := health }

/-- The consumer did not keep up and lost events. -/
def lag (t : HealthTracker) (now : Instant) : HealthTracker :=
  { t with lagging := true }.problem .lagged now

/-- A new connection replays the server's state. -/
def caughtUp (t : HealthTracker) : HealthTracker :=
  { t with lagging := false }

/-- Whether a refusal is the first of its episode. -/
def refusalIsNew (t : HealthTracker) : Bool :=
  match t.health.status with
  -- already refused, or over
  | .rejected | .ended _ => false
  | _ => true

/-- The server refused the subscription. The source returns `refusalIsNew`. -/
def reject (t : HealthTracker) (p : SubscriptionProblem) (now : Instant) : HealthTracker :=
  let health :=
    { t.health with failures := saturatingSucc32 t.health.failures, lastProblem := some p }
  if t.refusalIsNew then
    { t with
      health := health.setStatus .rejected now
      outageSince :=
        match t.health.status with
        | .healthy | .recovered _ => now
        -- an outage that is running keeps its start
        | _ => t.outageSince }
  else { t with health := health }

/-- When the subscription counts as stalled if nothing comes over the
connection until then. -/
def stallDeadline (t : HealthTracker) (threshold : Duration) : Option Instant :=
  match t.health.status with
  | .stalled | .rejected | .ended _ => none
  -- the last sign of life, or the creation
  | _ => some (t.health.lastTransportActivity.getD t.created + threshold)

/-- The start of the outage that a stall reports. -/
def stallOutage (t : HealthTracker) : Option Instant :=
  match t.health.status with
  -- a silent connection: the outage began with the last sign of life
  | .connecting | .healthy | .recovered _ =>
    some (t.health.lastTransportActivity.getD t.created)
  -- the outage that is running
  | .degraded => some t.outageSince
  | _ => none

/-- Nothing has come over the connection for the stall threshold. -/
def stalled (t : HealthTracker) (now : Instant) : HealthTracker :=
  match t.stallOutage with
  | none => t
  | some since => { t with health := t.health.setStatus .stalled now, outageSince := since }

/-- The subscription is over. -/
def finish (t : HealthTracker) (reason : SubscriptionEnd) (now : Instant) : HealthTracker :=
  match t.health.status with
  -- the first reason counts
  | .ended _ => t
  | _ => { t with health := t.health.setStatus (.ended reason) now }

end HealthTracker

/-- The updates that `with_health` applies. -/
inductive HealthUpdate
  | transportActivity
  | connected
  | dataUpdate
  | problem (p : SubscriptionProblem)
  | lagging
  deriving DecidableEq

def HealthUpdate.apply (u : HealthUpdate) (t : HealthTracker) (now : Instant) : HealthTracker :=
  match u with
  | .transportActivity => t.transportActivity now
  | .connected => t.connected now
  | .dataUpdate => t.dataUpdate now
  | .problem p => t.problem p now
  | .lagging => t.lag now

end Blokli
