import BlokliClient.Health
import BlokliClient.Library.Machine

/-!
# Runs of a health tracker

The hub and the consumer call the operations of a `HealthTracker` in any order
and number. A run is a list of operations with the instants at which they read
the clock.

* `Transition` says once what an operation can do to the status, the outage start, the
  failure counter and the lag mark; the results below only read it.
* `lifecycle_of_run` states what holds of every run: which statuses are final,
  which are clean, and what ends a rejection.
* `recovered_outage` relates the outage a recovery reports to the history of the
  run: `Outage.since` reads the start off the operations, not off the tracker.
-/

namespace Blokli

open Machine

/-- The operations of a `HealthTracker`. -/
inductive HealthOp
  | update (u : HealthUpdate)
  | caughtUp
  | reject (p : SubscriptionProblem)
  | stalled
  | finish (reason : SubscriptionEnd)
  deriving DecidableEq

def HealthOp.apply (op : HealthOp) (t : HealthTracker) (now : Instant) : HealthTracker :=
  match op with
  | .update u => u.apply t now
  | .caughtUp => t.caughtUp
  | .reject p => t.reject p now
  | .stalled => t.stalled now
  | .finish reason => t.finish reason now

/-- Operations that note a sign of life of the connection. -/
def HealthOp.isActivity : HealthOp → Bool
  | .update .transportActivity | .update .connected | .update .dataUpdate => true
  | _ => false

/-- Operations that call `transport_activity`. -/
def HealthOp.isTransportActivity : HealthOp → Bool
  | .update .transportActivity | .update .dataUpdate => true
  | _ => false

/-- An operation and its instant. -/
abbrev TimedOp := HealthOp × Instant

def HealthTracker.step (t : HealthTracker) (x : TimedOp) : HealthTracker := x.1.apply t x.2

/-- The tracker of a subscription created at `created` after some operations. -/
def HealthTracker.run (created : Instant) (ops : List TimedOp) : HealthTracker :=
  ops.foldl HealthTracker.step (HealthTracker.new created)

namespace SubscriptionStatus

/-- `Healthy` or `Recovered`. -/
def isUp : SubscriptionStatus → Bool
  | .healthy | .recovered _ => true
  | _ => false

/-- No outage: `Connecting`, `Healthy` or `Recovered`. -/
def isClean : SubscriptionStatus → Bool
  | .connecting | .healthy | .recovered _ => true
  | _ => false

/-- An outage: `Degraded`, `Stalled` or `Rejected`. -/
def isDown : SubscriptionStatus → Bool
  | .degraded | .stalled | .rejected => true
  | _ => false

/-- A slot that is up is clean. -/
theorem isClean_of_isUp {s : SubscriptionStatus} (h : s.isUp = true) : s.isClean = true := by
  cases s <;> first | rfl | cases h

/-- A clean slot is up, or was never connected. -/
theorem isUp_or_connecting {s : SubscriptionStatus} (h : s.isClean = true) :
    s.isUp = true ∨ s = .connecting := by
  cases s <;> first | exact Or.inl rfl | exact Or.inr rfl | cases h

/-- A slot that is down is not up. -/
theorem isUp_of_isDown {s : SubscriptionStatus} (h : s.isDown = true) : s.isUp = false := by
  cases s <;> first | rfl | cases h

/-- A slot that is down is not clean. -/
theorem isClean_of_isDown {s : SubscriptionStatus} (h : s.isDown = true) :
    s.isClean = false := by
  cases s <;> first | rfl | cases h

end SubscriptionStatus

/-! ### What an operation does -/

/-- What an operation can do to a tracker. -/
inductive Transition (t : HealthTracker) (op : HealthOp) (now : Instant) (t' : HealthTracker) : Prop
  /-- The status stays. A clean tracker then keeps its counter and gets no lag mark, and
  a connecting one was not active. -/
  | stays (status : t'.health.status = t.health.status) (outage : t'.outageSince = t.outageSince)
      (calm : t.health.status.isClean = true →
        t'.health.failures = t.health.failures ∧ (t'.lagging = true → t.lagging = true))
      (waits : t.health.status = .connecting → t.lagging = false → op.isActivity = false)
  /-- Activity moves a tracker that does not lag. -/
  | activity (isActivity : op.isActivity = true)
      (moved : t.activityStatus op.isTransportActivity now = some t'.health.status)
      (outage : t'.outageSince = t.outageSince) (failures : t'.health.failures = 0)
      (lagging : t'.lagging = false)
  /-- A problem, a lag or a refusal starts an outage. -/
  | breaks (cause : (∃ p, op = .update (.problem p)) ∨ op = .update .lagging ∨ ∃ p, op = .reject p)
      (before : t.health.status.isClean = true) (status : t'.health.status.isDown = true)
      (outage : t.health.status.isUp = true ∧ t'.outageSince = now ∨
        t.health.status = .connecting ∧
          (t'.outageSince = t.created ∨ t'.outageSince = t.outageSince))
  /-- A refusal in an outage starts a rejection. -/
  | rejects (p : SubscriptionProblem) (op_eq : op = .reject p)
      (before : t.health.status = .degraded ∨ t.health.status = .stalled ∨
        t.health.status = .untracked)
      (status : t'.health.status = .rejected) (outage : t'.outageSince = t.outageSince)
  /-- Silence turns into a stall. -/
  | stalls (op_eq : op = .stalled) (moved : t.stallOutage = some t'.outageSince)
      (status : t'.health.status = .stalled)
  | finishes (reason : SubscriptionEnd) (op_eq : op = .finish reason)
      (before : ∀ r, t.health.status ≠ .ended r) (status : t'.health.status = .ended reason)

namespace HealthTracker

variable {t : HealthTracker} {now : Instant}

/-- Activity leads from `Connecting` to `Healthy` and from an outage to
`Recovered`, unless the tracker lags. -/
theorem activityStatus_eq_some {ends : Bool} {next : SubscriptionStatus}
    (h : t.activityStatus ends now = some next) :
    t.lagging = false ∧ (t.health.status = .connecting ∧ next = .healthy ∨
      t.health.status.isDown = true ∧ (t.health.status = .rejected → ends = true) ∧
        next = .recovered (now - t.outageSince)) := by
  unfold activityStatus at h
  split at h
  -- a lagging stream shows no activity
  · cases h
  · next h_lag =>
    refine ⟨Bool.eq_false_iff.mpr h_lag, ?_⟩
    split at h
    -- connecting, down, or rejected; in the last case only a sign of life counts
    · next h_status => exact Or.inl ⟨h_status, (Option.some.inj h).symm⟩
    · next h_status =>
      rw [h_status]
      exact Or.inr ⟨rfl, fun h_eq => (by cases h_eq), (Option.some.inj h).symm⟩
    · next h_status =>
      rw [h_status]
      exact Or.inr ⟨rfl, fun h_eq => (by cases h_eq), (Option.some.inj h).symm⟩
    · next h_status =>
      rw [h_status]
      split at h
      · next h_ends => exact Or.inr ⟨rfl, fun _ => h_ends, (Option.some.inj h).symm⟩
      · cases h
    · cases h

/-- The status after a sign of life. -/
theorem recordActivity_status (t : HealthTracker) (ends : Bool) (now : Instant) :
    (t.recordActivity ends now).health.status =
      (t.activityStatus ends now).getD t.health.status := by
  unfold recordActivity
  cases t.activityStatus ends now <;> rfl

/-- A change of status resets the failures. -/
theorem recordActivity_failures (t : HealthTracker) (ends : Bool) (now : Instant) :
    (t.recordActivity ends now).health.failures =
      (t.activityStatus ends now).elim t.health.failures fun _ => 0 := by
  unfold recordActivity
  cases t.activityStatus ends now <;> rfl

/-- A sign of life leaves the start of the outage alone. -/
theorem recordActivity_outageSince (t : HealthTracker) (ends : Bool) (now : Instant) :
    (t.recordActivity ends now).outageSince = t.outageSince := by
  unfold recordActivity
  cases t.activityStatus ends now <;> rfl

/-- A sign of life does not tell whether the slot lags. -/
theorem recordActivity_lagging (t : HealthTracker) (ends : Bool) (now : Instant) :
    (t.recordActivity ends now).lagging = t.lagging := by
  unfold recordActivity
  cases t.activityStatus ends now <;> rfl

/-- An activity moves the status or leaves it alone. -/
theorem recordActivity_transition {op : HealthOp} (h_act : op.isActivity = true)
    {t' : HealthTracker}
    (h_status : t'.health.status =
      (t.activityStatus op.isTransportActivity now).getD t.health.status)
    (h_failures : t'.health.failures =
      (t.activityStatus op.isTransportActivity now).elim t.health.failures fun _ => 0)
    (h_outage : t'.outageSince = t.outageSince) (h_lagging : t'.lagging = t.lagging) :
    Transition t op now t' := by
  cases h : t.activityStatus op.isTransportActivity now with
  | none =>
    rw [h] at h_status h_failures
    refine .stays h_status h_outage (fun _ => ⟨h_failures, fun h_lag => h_lagging ▸ h_lag⟩) ?_
    intro h_connecting h_lag
    rw [activityStatus, h_lag, h_connecting] at h
    cases h
  | some next =>
    rw [h] at h_status h_failures
    have h_lag : t.lagging = false := (activityStatus_eq_some h).1
    exact .activity h_act (h_status ▸ h) h_outage h_failures (h_lagging.trans h_lag)

/-- A problem starts an outage now, or, before the first connection, when the stream was created. -/
theorem problemOutage_eq_some {since : Instant} (h : t.problemOutage now = some since) :
    t.health.status.isClean = true ∧
      (t.health.status.isUp = true ∧ since = now ∨
        t.health.status = .connecting ∧ since = t.created) := by
  unfold problemOutage at h
  split at h
  · next h_status =>
    rw [h_status]
    exact ⟨rfl, Or.inl ⟨rfl, (Option.some.inj h).symm⟩⟩
  · next h_status =>
    rw [h_status]
    exact ⟨rfl, Or.inl ⟨rfl, (Option.some.inj h).symm⟩⟩
  · next h_status => exact ⟨by rw [h_status]; rfl, Or.inr ⟨h_status, (Option.some.inj h).symm⟩⟩
  · cases h

/-- No outage starts in a slot that is not clean. -/
theorem problemOutage_eq_none (h : t.problemOutage now = none) :
    t.health.status.isClean = false := by
  unfold problemOutage at h
  split at h
  · cases h
  · cases h
  · cases h
  · cases h_status : t.health.status <;> first | rfl | simp_all

/-- `problem` starts an outage or leaves the status alone, whatever the lag mark is. -/
theorem problem_transition {op : HealthOp} {p : SubscriptionProblem} (lagging : Bool)
    (h_cause : (∃ p, op = .update (.problem p)) ∨ op = .update .lagging) :
    Transition t op now ({ t with lagging := lagging }.problem p now) := by
  have h_op : (∃ p, op = .update (.problem p)) ∨ op = .update .lagging ∨ ∃ p, op = .reject p :=
    h_cause.imp_right Or.inl
  -- the flag of the lag is not read here
  have h_outage : ({ t with lagging := lagging } : HealthTracker).problemOutage now =
      t.problemOutage now := rfl
  unfold problem
  rw [h_outage]
  cases h : t.problemOutage now with
  -- the stream was down already, so the problem adds nothing
  | none =>
    refine .stays rfl rfl (fun h_clean => ?_) fun h_connecting => ?_
    · rw [problemOutage_eq_none h] at h_clean
      cases h_clean
    · have h_dirty : t.health.status.isClean = false := problemOutage_eq_none h
      rw [h_connecting] at h_dirty
      cases h_dirty
  | some since =>
    obtain ⟨h_clean, h_since⟩ := problemOutage_eq_some h
    exact .breaks h_op h_clean rfl (h_since.imp_right fun h => ⟨h.1, Or.inl h.2⟩)

/-- What a refusal does. -/
theorem reject_transition (p : SubscriptionProblem) :
    Transition t (.reject p) now (t.reject p now) := by
  have h_op : (∃ q, HealthOp.reject p = .update (.problem q)) ∨
      HealthOp.reject p = .update .lagging ∨ ∃ q, HealthOp.reject p = .reject q :=
    Or.inr (Or.inr ⟨p, rfl⟩)
  unfold reject refusalIsNew
  -- a refusal counts once: a rejected or ended stream hears no more of it
  cases h_status : t.health.status with
  | connecting =>
    exact .breaks h_op (by rw [h_status]; rfl) rfl (Or.inr ⟨h_status, Or.inr rfl⟩)
  | healthy =>
    exact .breaks h_op (by rw [h_status]; rfl) rfl (Or.inl ⟨by rw [h_status]; rfl, rfl⟩)
  | recovered _ =>
    exact .breaks h_op (by rw [h_status]; rfl) rfl (Or.inl ⟨by rw [h_status]; rfl, rfl⟩)
  | degraded => exact .rejects p rfl (Or.inl h_status) rfl rfl
  | stalled => exact .rejects p rfl (Or.inr (Or.inl h_status)) rfl rfl
  | untracked => exact .rejects p rfl (Or.inr (Or.inr h_status)) rfl rfl
  | rejected =>
    exact .stays rfl rfl (fun h_clean => by rw [h_status] at h_clean; cases h_clean) fun _ _ => rfl
  | ended _ =>
    exact .stays rfl rfl (fun h_clean => by rw [h_status] at h_clean; cases h_clean) fun _ _ => rfl

/-- What a stall does. -/
theorem stalled_transition : Transition t .stalled now (t.stalled now) := by
  unfold stalled
  cases h : t.stallOutage with
  | none => exact .stays rfl rfl (fun _ => ⟨rfl, id⟩) fun _ _ => rfl
  | some since => exact .stalls rfl h rfl

/-- What the end of a subscription does. -/
theorem finish_transition (reason : SubscriptionEnd) :
    Transition t (.finish reason) now (t.finish reason now) := by
  unfold finish
  split
  · exact .stays rfl rfl (fun _ => ⟨rfl, id⟩) fun _ _ => rfl
  · next h_status => exact .finishes reason rfl h_status rfl

/-- Every operation does one of the six. -/
theorem transition (t : HealthTracker) (op : HealthOp) (now : Instant) :
    Transition t op now (op.apply t now) := by
  cases op with
  -- of the updates, activity and problems move the status
  | update u =>
    cases u with
    | transportActivity =>
      exact recordActivity_transition rfl (recordActivity_status t true now)
        (recordActivity_failures t true now) (recordActivity_outageSince t true now)
        (recordActivity_lagging t true now)
    | connected =>
      -- counting the connection touches none of the four
      exact recordActivity_transition rfl (recordActivity_status _ false now)
        (recordActivity_failures _ false now) (recordActivity_outageSince _ false now)
        (recordActivity_lagging _ false now)
    | dataUpdate =>
      exact recordActivity_transition rfl (recordActivity_status t true now)
        (recordActivity_failures t true now) (recordActivity_outageSince t true now)
        (recordActivity_lagging t true now)
    | problem p => exact problem_transition t.lagging (Or.inl ⟨p, rfl⟩)
    | lagging => exact problem_transition true (Or.inr rfl)
  | caughtUp => exact .stays rfl rfl (fun _ => ⟨rfl, fun h => by cases h⟩) fun _ _ => rfl
  | reject p => exact reject_transition p
  | stalled => exact stalled_transition
  | finish reason => exact finish_transition reason

/-! ### Invariants -/

/-- Any operation is one of the transitions. -/
theorem step_transition (t : HealthTracker) (x : TimedOp) : Transition t x.1 x.2 (t.step x) :=
  t.transition x.1 x.2

/-- A clean tracker has no failures and does not lag. -/
def Clean (t : HealthTracker) : Prop :=
  t.health.status.isClean = true → t.health.failures = 0 ∧ t.lagging = false

/-- One operation keeps the tracker clean. -/
theorem Clean.step (h : t.Clean) (x : TimedOp) : (t.step x).Clean := by
  intro h_clean
  -- only activity leads to a clean status, and it takes failures and lag away
  cases t.step_transition x with
  | stays status outage calm waits =>
    rw [status] at h_clean
    obtain ⟨h_failures, h_lagging⟩ := h h_clean
    obtain ⟨h_keep, h_lag⟩ := calm h_clean
    refine ⟨h_keep.trans h_failures, Bool.eq_false_iff.mpr fun h_true => ?_⟩
    rw [h_lag h_true] at h_lagging
    cases h_lagging
  | activity isActivity moved outage failures lagging => exact ⟨failures, lagging⟩
  | breaks cause before status outage =>
    rw [SubscriptionStatus.isClean_of_isDown status] at h_clean
    cases h_clean
  | rejects p op_eq before status outage =>
    rw [status] at h_clean
    cases h_clean
  | stalls op_eq moved status =>
    rw [status] at h_clean
    cases h_clean
  | finishes reason op_eq before status =>
    rw [status] at h_clean
    cases h_clean

/-- The tracker is clean in every run. -/
theorem clean_run (created : Instant) (ops : List TimedOp) : (run created ops).Clean := by
  have h_new : (new created).Clean := fun _ => ⟨rfl, rfl⟩
  exact (throughout_of_step (P := Clean) (fun _ x h => h.step x) h_new ops).last

/-- `Ended` is final. -/
theorem ended_step {r : SubscriptionEnd} (h : t.health.status = .ended r) (x : TimedOp) :
    (t.step x).health.status = .ended r := by
  cases t.step_transition x with
  -- no transition starts from an ended status
  | stays status outage calm waits => exact status.trans h
  | activity isActivity moved outage failures lagging =>
    rcases (activityStatus_eq_some moved).2 with ⟨h_conn, -⟩ | ⟨h_down, -⟩
    · rw [h] at h_conn
      cases h_conn
    · rw [h] at h_down
      cases h_down
  | breaks cause before status outage =>
    rw [h] at before
    cases before
  | rejects p op_eq before status outage =>
    rw [h] at before
    rcases before with h_eq | h_eq | h_eq <;> cases h_eq
  | stalls op_eq moved status =>
    unfold stallOutage at moved
    rw [h] at moved
    cases moved
  | finishes reason op_eq before status => exact absurd h (before r)

/-- A subscription that ended stays ended, with its reason. -/
theorem ended_run {r : SubscriptionEnd} (h : t.health.status = .ended r) (ops : List TimedOp) :
    (ops.foldl step t).health.status = .ended r :=
  (throughout_of_step (P := fun t : HealthTracker => t.health.status = .ended r)
    (fun _ x h => ended_step h x) h ops).last

/-- Nothing leads to `Connecting`. -/
theorem connecting_of_step {x : TimedOp} (h : (t.step x).health.status = .connecting) :
    t.health.status = .connecting := by
  cases t.step_transition x with
  | stays status outage calm waits => exact status.symm.trans h
  -- every transition leads to another status than connecting
  | activity isActivity moved outage failures lagging =>
    rw [h] at moved
    rcases (activityStatus_eq_some moved).2 with ⟨-, h_eq⟩ | ⟨-, -, h_eq⟩ <;> cases h_eq
  | breaks cause before status outage =>
    rw [h] at status
    cases status
  | rejects p op_eq before status outage =>
    rw [h] at status
    cases status
  | stalls op_eq moved status =>
    rw [h] at status
    cases status
  | finishes reason op_eq before status =>
    rw [h] at status
    cases status

/-- A tracker that lags does not become healthy. -/
theorem not_isUp_of_lagging (h : t.Clean) (h_lag : t.lagging = true) (x : TimedOp) :
    (t.step x).health.status.isUp = false := by
  have h_before : t.health.status.isUp = false := by
    refine Bool.eq_false_iff.mpr fun h_up => ?_
    have h_calm : t.lagging = false := (h (SubscriptionStatus.isClean_of_isUp h_up)).2
    rw [h_lag] at h_calm
    cases h_calm
  cases t.step_transition x with
  | stays status outage calm waits => rw [status, h_before]
  | activity isActivity moved outage failures lagging =>
    have h_calm : t.lagging = false := (activityStatus_eq_some moved).1
    rw [h_lag] at h_calm
    cases h_calm
  | breaks cause before status outage => exact SubscriptionStatus.isUp_of_isDown status
  | rejects p op_eq before status outage => rw [status]; rfl
  | stalls op_eq moved status => rw [status]; rfl
  | finishes reason op_eq before status => rw [status]; rfl

/-- Only a transport activity and the end lead out of `Rejected`. -/
theorem leaves_rejected {x : TimedOp} (h : t.health.status = .rejected)
    (h_leaves : (t.step x).health.status ≠ .rejected) :
    x.1.isTransportActivity = true ∨
      ∃ r, x.1 = .finish r ∧ (t.step x).health.status = .ended r := by
  cases t.step_transition x with
  | stays status outage calm waits => exact absurd (status.trans h) h_leaves
  | activity isActivity moved outage failures lagging =>
    rcases (activityStatus_eq_some moved).2 with ⟨h_conn, -⟩ | ⟨-, h_ends, -⟩
    · rw [h] at h_conn
      cases h_conn
    · exact Or.inl (h_ends h)
  | breaks cause before status outage =>
    rw [h] at before
    cases before
  | rejects p op_eq before status outage => exact absurd status h_leaves
  | stalls op_eq moved status =>
    unfold stallOutage at moved
    rw [h] at moved
    cases moved
  | finishes reason op_eq before status => exact Or.inr ⟨reason, op_eq, status⟩

/-- A refusal that is new starts a rejection. -/
theorem reject_status (h : t.refusalIsNew = true) (p : SubscriptionProblem) (now : Instant) :
    (t.reject p now).health.status = .rejected := by
  unfold reject
  rw [if_pos h]
  rfl

/-- A refusal is new unless the slot is rejected already, or has ended. -/
theorem refusalIsNew_eq_true :
    t.refusalIsNew = true ↔ t.health.status ≠ .rejected ∧ ∀ r, t.health.status ≠ .ended r := by
  unfold refusalIsNew
  constructor
  · intro h
    split at h
    · cases h
    · cases h
    · next h_rejected h_ended => exact ⟨h_rejected, h_ended⟩
  · rintro ⟨h_rejected, h_ended⟩
    split
    · next h_eq => exact absurd h_eq h_rejected
    · next r h_eq => exact absurd h_eq (h_ended r)
    · rfl

/-- Between two new refusals the connection showed a sign of life that ended the
first rejection. -/
theorem activity_between_refusals {p : SubscriptionProblem} (h : t.refusalIsNew = true)
    {mid : List TimedOp} (h' : (mid.foldl step (t.step (.reject p, now))).refusalIsNew = true) :
    ∃ pre x post, mid = pre ++ x :: post ∧ x.1.isTransportActivity = true ∧
      (pre.foldl step (t.step (.reject p, now))).health.status = .rejected ∧
      ((pre.foldl step (t.step (.reject p, now))).step x).health.status ≠ .rejected := by
  have h_first : (t.step (.reject p, now)).health.status = .rejected := reject_status h p now
  obtain ⟨h_last, h_alive⟩ := refusalIsNew_eq_true.mp h'
  obtain ⟨pre, x, post, rfl, h_pre, h_post⟩ := exists_last_leave
    (P := fun t : HealthTracker => t.health.status = .rejected) h_first h_last
  refine ⟨pre, x, post, rfl, ?_, h_pre, h_post.first⟩
  rcases leaves_rejected h_pre h_post.first with h_act | ⟨r, -, h_ended⟩
  · exact h_act
  · rw [List.foldl_append, List.foldl_cons] at h_alive
    exact absurd (ended_run h_ended post) (h_alive r)

end HealthTracker

open HealthTracker

/-- What holds of a tracker after any run. -/
structure Lifecycle (t : HealthTracker) : Prop where
  /-- `Ended` is absorbing and keeps the first reason. -/
  ended : ∀ r, t.health.status = .ended r →
    ∀ ops : List TimedOp, (ops.foldl step t).health.status = .ended r
  /-- `Connecting`, `Healthy` and `Recovered` are free of failures and of lag. -/
  clean : t.health.status.isClean = true → t.health.failures = 0 ∧ t.lagging = false
  /-- A new connection does not end a rejection. -/
  connected : t.health.status = .rejected →
    ∀ now, (t.connected now).health.status = .rejected
  /-- No operation leads back to `Connecting`. -/
  connecting : ∀ x, (t.step x).health.status = .connecting → t.health.status = .connecting
  /-- While it lags, no operation leads to `Healthy` or `Recovered`. -/
  lagging : t.lagging = true → ∀ x, (t.step x).health.status.isUp = false
  /-- `reject` reports a new refusal unless the tracker is rejected or ended. -/
  reports : t.refusalIsNew = true ↔
    t.health.status ≠ .rejected ∧ ∀ r, t.health.status ≠ .ended r
  /-- Between two new refusals some transport activity led out of `Rejected`. -/
  between : ∀ p now (mid : List TimedOp), t.refusalIsNew = true →
    (mid.foldl step (t.step (.reject p, now))).refusalIsNew = true →
    ∃ pre x post, mid = pre ++ x :: post ∧ x.1.isTransportActivity = true ∧
      (pre.foldl step (t.step (.reject p, now))).health.status = .rejected ∧
      ((pre.foldl step (t.step (.reject p, now))).step x).health.status ≠ .rejected

/-- **Invariants of the health state machine.** -/
theorem lifecycle_of_run (created : Instant) (ops : List TimedOp) :
    Lifecycle (run created ops) where
  ended _ h rest := ended_run h rest
  clean := clean_run created ops
  connected h now := by
    by_contra h_leaves
    rcases leaves_rejected (x := (.update .connected, now)) h h_leaves with h_act | ⟨r, h_op, -⟩
    · cases h_act
    · cases h_op
  connecting _ h := connecting_of_step h
  lagging h x := not_isUp_of_lagging (clean_run created ops) h x
  reports := refusalIsNew_eq_true
  between _ _ _ h h' := activity_between_refusals h h'

/-! ### Outages -/

/-- The instant of the last sign of life of the connection. -/
def lastActivity (ops : List TimedOp) : Option Instant :=
  ((ops.filter fun x => x.1.isActivity).getLast?).map Prod.snd

/-- The last sign of life, one operation later. -/
theorem lastActivity_append_singleton (ops : List TimedOp) (x : TimedOp) :
    lastActivity (ops ++ [x]) = if x.1.isActivity then some x.2 else lastActivity ops := by
  unfold lastActivity
  rw [List.filter_append, List.filter_singleton]
  cases x.1.isActivity with
  | true =>
    rw [cond_true, List.getLast?_concat]
    rfl
  | false =>
    rw [cond_false, List.append_nil]
    rfl

/-- Operations that can take a subscription out of `Healthy` or `Recovered`. -/
def HealthOp.interrupts : HealthOp → Bool
  | .update (.problem _) | .update .lagging | .reject _ | .stalled => true
  | _ => false

/-- The outage a run is in: the operation that began it, what came before, and
what came since. The subscription was up before, or had never worked, and has
been down ever since. -/
structure Outage (created : Instant) (ops : List TimedOp) where
  before : List TimedOp
  cause : TimedOp
  during : List TimedOp
  split : ops = before ++ cause :: during
  interrupts : cause.1.interrupts = true
  started : (run created before).health.status.isUp = true ∨
    (run created before).health.status = .connecting ∧ lastActivity before = none
  down : Throughout HealthTracker.step (fun t => t.health.status.isDown = true)
    ((run created before).step cause) during

/-- When an outage began: with the subscription if the transport never worked
before, with the last sign of life if the connection fell silent, and with the
operation that caused it otherwise. -/
def Outage.since {created : Instant} {ops : List TimedOp} (o : Outage created ops) : Instant :=
  match lastActivity o.before with
  | none => created
  | some last => if o.cause.1 = .stalled then last else o.cause.2

/-- The clock does not go back. -/
def Ticking (created : Instant) (ops : List TimedOp) : Prop :=
  (created :: ops.map Prod.snd).Pairwise (· ≤ ·)

namespace HealthTracker

/-- A sign of life leaves the time of creation alone. -/
theorem recordActivity_created (t : HealthTracker) (ends : Bool) (now : Instant) :
    (t.recordActivity ends now).created = t.created := by
  unfold recordActivity
  cases t.activityStatus ends now <;> rfl

/-- A sign of life is the last one. -/
theorem recordActivity_last (t : HealthTracker) (ends : Bool) (now : Instant) :
    (t.recordActivity ends now).health.lastTransportActivity = some now := by
  unfold recordActivity
  cases t.activityStatus ends now <;> rfl

/-- A problem is no sign of life. -/
theorem problem_last (t : HealthTracker) (p : SubscriptionProblem) (now : Instant) :
    (t.problem p now).created = t.created ∧
      (t.problem p now).health.lastTransportActivity = t.health.lastTransportActivity := by
  unfold problem
  cases t.problemOutage now <;> exact ⟨rfl, rfl⟩

/-- Activity is noted whatever the status is, and nothing else is noted as activity. -/
theorem step_last (t : HealthTracker) (x : TimedOp) :
    (t.step x).created = t.created ∧ (t.step x).health.lastTransportActivity =
      if x.1.isActivity then some x.2 else t.health.lastTransportActivity := by
  obtain ⟨op, now⟩ := x
  -- activity is noted by `record_activity` alone, and the creation never changes
  cases op with
  | update u =>
    cases u with
    | transportActivity => exact ⟨recordActivity_created t true now, recordActivity_last t true now⟩
    | connected => exact ⟨recordActivity_created _ false now, recordActivity_last _ false now⟩
    | dataUpdate => exact ⟨recordActivity_created t true now, recordActivity_last t true now⟩
    | problem p => exact problem_last t p now
    | lagging => exact problem_last { t with lagging := true } .lagged now
  | caughtUp => exact ⟨rfl, rfl⟩
  | reject p =>
    change (t.reject p now).created = _ ∧ (t.reject p now).health.lastTransportActivity = _
    unfold reject
    split <;> exact ⟨rfl, rfl⟩
  | stalled =>
    change (t.stalled now).created = _ ∧ (t.stalled now).health.lastTransportActivity = _
    unfold stalled
    cases t.stallOutage <;> exact ⟨rfl, rfl⟩
  | finish reason =>
    change (t.finish reason now).created = _ ∧
      (t.finish reason now).health.lastTransportActivity = _
    unfold finish
    split <;> exact ⟨rfl, rfl⟩

/-- Only a lag sets the lag mark. -/
theorem lagging_of_step {t : HealthTracker} {x : TimedOp} (h : (t.step x).lagging = true) :
    t.lagging = true ∨ x.1 = .update .lagging := by
  obtain ⟨op, now⟩ := x
  -- a problem leaves the flag to its caller
  have h_problem : ∀ p, (t.problem p now).lagging = t.lagging := by
    intro p
    unfold problem
    cases t.problemOutage now <;> rfl
  cases op with
  | update u =>
    cases u with
    | transportActivity => exact Or.inl ((recordActivity_lagging t true now).symm.trans h)
    | connected =>
      change (t.connected now).lagging = true at h
      unfold connected at h
      rw [recordActivity_lagging] at h
      exact Or.inl h
    | dataUpdate => exact Or.inl ((recordActivity_lagging t true now).symm.trans h)
    | problem p => exact Or.inl ((h_problem p).symm.trans h)
    -- the update that raises it
    | lagging => exact Or.inr rfl
  -- the operation that takes it down
  | caughtUp => cases h
  | reject p =>
    change (t.reject p now).lagging = true at h
    unfold reject at h
    split at h <;> exact Or.inl h
  | stalled =>
    change (t.stalled now).lagging = true at h
    unfold stalled at h
    cases h_stall : t.stallOutage with
    | none => rw [h_stall] at h; exact Or.inl h
    | some since => rw [h_stall] at h; exact Or.inl h
  | finish reason =>
    change (t.finish reason now).lagging = true at h
    unfold finish at h
    split at h <;> exact Or.inl h

/-- What a tracker knows about the run that led to it. -/
structure Remembers (created : Instant) (ops : List TimedOp) (t : HealthTracker) : Prop where
  origin : t.created = created
  last : t.health.lastTransportActivity = lastActivity ops
  /-- A connecting subscription was never active, and out since its creation. -/
  connecting : t.health.status = .connecting →
    lastActivity ops = none ∧ t.outageSince = created
  /-- One that is up was active. -/
  up : t.health.status.isUp = true → ∃ last, lastActivity ops = some last
  tracked : t.health.status ≠ .untracked

/-- One operation is remembered. -/
theorem Remembers.step {created : Instant} {ops : List TimedOp} {t : HealthTracker}
    (h : Remembers created ops t) (h_clean : t.Clean) (x : TimedOp) :
    Remembers created (ops ++ [x]) (t.step x) := by
  obtain ⟨h_created, h_last⟩ := t.step_last x
  have h_snoc := lastActivity_append_singleton ops x
  have h_noted : ∀ last, lastActivity ops = some last →
      ∃ last, lastActivity (ops ++ [x]) = some last := by
    intro last h_some
    rw [h_snoc, h_some]
    split
    · exact ⟨_, rfl⟩
    · exact ⟨_, rfl⟩
  refine ⟨h_created.trans h.origin, by rw [h_last, h_snoc, h.last], ?_, ?_, ?_⟩
  · -- only operations that count for nothing keep a tracker connecting
    intro h_connecting
    have h_before : t.health.status = .connecting := connecting_of_step h_connecting
    have h_lag : t.lagging = false := (h_clean (by rw [h_before]; rfl)).2
    obtain ⟨h_none, h_since⟩ := h.connecting h_before
    cases t.step_transition x with
    -- a step that stays there is no activity, and all others leave `connecting`
    | stays status outage calm waits =>
      rw [h_snoc, waits h_before h_lag, outage]
      exact ⟨h_none, h_since⟩
    | activity isActivity moved outage failures lagging =>
      rw [h_connecting] at moved
      rcases (activityStatus_eq_some moved).2 with ⟨-, h_eq⟩ | ⟨-, -, h_eq⟩ <;> cases h_eq
    | breaks cause before status outage => rw [h_connecting] at status; cases status
    | rejects p op_eq before status outage => rw [h_connecting] at status; cases status
    | stalls op_eq moved status => rw [h_connecting] at status; cases status
    | finishes reason op_eq before status => rw [h_connecting] at status; cases status
  · -- what is up has seen activity, in this step or before
    intro h_up
    cases t.step_transition x with
    | stays status outage calm waits =>
      rw [status] at h_up
      obtain ⟨last, h_some⟩ := h.up h_up
      exact h_noted last h_some
    | activity isActivity moved outage failures lagging =>
      exact ⟨x.2, by rw [h_snoc, if_pos isActivity]⟩
    | breaks cause before status outage =>
      rw [SubscriptionStatus.isUp_of_isDown status] at h_up
      cases h_up
    | rejects p op_eq before status outage => rw [status] at h_up; cases h_up
    | stalls op_eq moved status => rw [status] at h_up; cases h_up
    | finishes reason op_eq before status => rw [status] at h_up; cases h_up
  · -- no operation leads to `untracked`
    cases t.step_transition x with
    | stays status outage calm waits => exact fun h_eq => h.tracked (status.symm.trans h_eq)
    | activity isActivity moved outage failures lagging =>
      intro h_eq
      rw [h_eq] at moved
      rcases (activityStatus_eq_some moved).2 with ⟨-, h_eq⟩ | ⟨-, -, h_eq⟩ <;> cases h_eq
    | breaks cause before status outage => exact fun h_eq => by rw [h_eq] at status; cases status
    | rejects p op_eq before status outage => exact fun h_eq => by rw [h_eq] at status; cases status
    | stalls op_eq moved status => exact fun h_eq => by rw [h_eq] at status; cases status
    | finishes reason op_eq before status => exact fun h_eq => by rw [h_eq] at status; cases status

/-- The tracker remembers its run. -/
theorem remembers_run (created : Instant) (ops : List TimedOp) :
    Remembers created ops (run created ops) := by
  induction ops using List.reverseRecOn with
  | nil => exact ⟨rfl, rfl, fun _ => ⟨rfl, rfl⟩, fun h => (by cases h), fun h => (by cases h)⟩
  | append_singleton ops x ih =>
    unfold run
    rw [List.foldl_append]
    exact ih.step (clean_run created ops) x

/-- The start of the outage does not move while the subscription is down. -/
theorem outageSince_kept {t : HealthTracker} {x : TimedOp} (h : t.health.status.isDown = true)
    (h' : (t.step x).health.status.isDown = true) : (t.step x).outageSince = t.outageSince := by
  cases t.step_transition x with
  | stays status outage calm waits => exact outage
  | activity isActivity moved outage failures lagging => exact outage
  | breaks cause before status outage =>
    rw [SubscriptionStatus.isClean_of_isDown h] at before
    cases before
  | rejects p op_eq before status outage => exact outage
  | stalls op_eq moved status =>
    unfold stallOutage at moved
    split at moved
    · next h_status => rw [h_status] at h; cases h
    · next h_status => rw [h_status] at h; cases h
    · next h_status => rw [h_status] at h; cases h
    · exact (Option.some.inj moved).symm
    · cases moved
  | finishes reason op_eq before status => rw [status] at h'; cases h'

/-- A stall of a connection that was not down is measured from its last sign of life. -/
theorem stallOutage_eq_some {t : HealthTracker} {since : Instant}
    (h : t.health.status.isDown = false) (h_stall : t.stallOutage = some since) :
    t.health.status.isClean = true ∧
      since = t.health.lastTransportActivity.getD t.created := by
  unfold stallOutage at h_stall
  split at h_stall
  · next h_status => exact ⟨by rw [h_status]; rfl, (Option.some.inj h_stall).symm⟩
  · next h_status => exact ⟨by rw [h_status]; rfl, (Option.some.inj h_stall).symm⟩
  · next h_status => exact ⟨by rw [h_status]; rfl, (Option.some.inj h_stall).symm⟩
  · next h_status =>
    rw [h_status] at h
    cases h
  · cases h_stall

/-- An outage begins with an operation that interrupts a clean subscription. -/
theorem outageSince_started {created : Instant} {ops : List TimedOp} {x : TimedOp}
    (h : (run created ops).health.status.isDown = false)
    (h' : ((run created ops).step x).health.status.isDown = true) :
    x.1.interrupts = true ∧ (run created ops).health.status.isClean = true ∧
      ((run created ops).step x).outageSince =
        match lastActivity ops with
        | none => created
        | some last => if x.1 = .stalled then last else x.2 := by
  have h_rem := remembers_run created ops
  cases (run created ops).step_transition x with
  -- no outage starts where the status stays
  | stays status outage calm waits =>
    rw [status, h] at h'
    cases h'
  | activity isActivity moved outage failures lagging =>
    rcases (activityStatus_eq_some moved).2 with ⟨-, h_eq⟩ | ⟨h_down, -⟩
    · rw [h_eq] at h'
      cases h'
    · rw [h] at h_down
      cases h_down
  -- the outage starts now, or at the creation of a tracker that never saw activity
  | breaks cause before status outage =>
    have h_op : x.1.interrupts = true ∧ x.1 ≠ .stalled := by
      rcases cause with ⟨p, h_eq⟩ | h_eq | ⟨p, h_eq⟩ <;> rw [h_eq] <;>
        exact ⟨rfl, fun h => by cases h⟩
    refine ⟨h_op.1, before, ?_⟩
    rcases outage with ⟨h_up, h_now⟩ | ⟨h_connecting, h_created⟩
    · obtain ⟨last, h_last⟩ := h_rem.up h_up
      rw [h_last, h_now]
      exact (if_neg h_op.2).symm
    · obtain ⟨h_none, h_since⟩ := h_rem.connecting h_connecting
      rw [h_none]
      exact h_created.elim (fun h => h.trans h_rem.origin) fun h => h.trans h_since
  -- what is rejected was down before, so no outage starts
  | rejects p op_eq before status outage =>
    rcases before with h_eq | h_eq | h_eq
    · rw [h_eq] at h
      cases h
    · rw [h_eq] at h
      cases h
    · exact absurd h_eq h_rem.tracked
  -- a stall dates the outage back to the last activity
  | stalls op_eq moved status =>
    rw [op_eq]
    obtain ⟨h_clean, h_since⟩ := stallOutage_eq_some h moved
    refine ⟨rfl, h_clean, ?_⟩
    rw [h_since, h_rem.last, h_rem.origin]
    cases lastActivity ops with
    | none => rfl
    | some last => exact (if_pos rfl).symm
  | finishes reason op_eq before status => rw [status] at h'; cases h'

/-- A subscription that is down is in an outage, and the tracker knows its start. -/
theorem exists_outage {created : Instant} {ops : List TimedOp}
    (h : (run created ops).health.status.isDown = true) :
    ∃ o : Outage created ops, (run created ops).outageSince = o.since := by
  have h_leaves : ¬(ops.foldl step (new created)).health.status.isDown = false :=
    (Bool.not_eq_false _).mpr h
  obtain ⟨pre, x, mid, rfl, h_pre, h_mid⟩ := exists_last_leave
    (P := fun t : HealthTracker => t.health.status.isDown = false) rfl h_leaves
  have h_down : Throughout step (fun t => t.health.status.isDown = true)
      ((run created pre).step x) mid := h_mid.imp fun _ => (Bool.not_eq_false _).mp
  obtain ⟨h_int, h_clean, h_since⟩ := outageSince_started h_pre h_down.first
  have h_started : (run created pre).health.status.isUp = true ∨
      (run created pre).health.status = .connecting ∧ lastActivity pre = none :=
    (SubscriptionStatus.isUp_or_connecting h_clean).imp_right fun h_connecting =>
      ⟨h_connecting, ((remembers_run created pre).connecting h_connecting).1⟩
  refine ⟨⟨pre, x, mid, rfl, h_int, h_started, h_down⟩, ?_⟩
  have h_kept := h_down.const (f := HealthTracker.outageSince) fun _ _ => outageSince_kept
  unfold run at h_kept ⊢
  rw [List.foldl_append, List.foldl_cons, h_kept]
  exact h_since

/-- A recovery reports the time since the start the tracker remembers. -/
theorem outage_of_recovered {t : HealthTracker} {x : TimedOp} {outage : Duration}
    (h : t.health.status ≠ .recovered outage)
    (h' : (t.step x).health.status = .recovered outage) :
    t.health.status.isDown = true ∧ outage = x.2 - t.outageSince := by
  cases t.step_transition x with
  | stays status outage' calm waits => exact absurd (status.symm.trans h') h
  | activity isActivity moved outage' failures lagging =>
    rw [h'] at moved
    rcases (activityStatus_eq_some moved).2 with ⟨-, h_eq⟩ | ⟨h_down, -, h_eq⟩
    · cases h_eq
    · exact ⟨h_down, SubscriptionStatus.recovered.inj h_eq⟩
  | breaks cause before status outage' => rw [h'] at status; cases status
  | rejects p op_eq before status outage' => rw [h'] at status; cases status
  | stalls op_eq moved status => rw [h'] at status; cases status
  | finishes reason op_eq before status => rw [h'] at status; cases status

end HealthTracker

/-! ### The clock -/

/-- A first part of a run on a clock is one. -/
theorem Ticking.left {created : Instant} {l l' : List TimedOp} (h : Ticking created (l ++ l')) :
    Ticking created l := by
  unfold Ticking at h ⊢
  rw [List.map_append, ← List.cons_append] at h
  exact (List.pairwise_append.mp h).1

/-- Nothing happens before the stream was created. -/
theorem Ticking.created_le {created : Instant} {l : List TimedOp} (h : Ticking created l)
    {y : TimedOp} (hy : y ∈ l) : created ≤ y.2 :=
  (List.pairwise_cons.mp h).1 y.2 (List.mem_map_of_mem hy)

/-- The last operation is not before any other. -/
theorem Ticking.le {created : Instant} {l : List TimedOp} {x : TimedOp}
    (h : Ticking created (l ++ [x])) {y : TimedOp} (hy : y ∈ l) : y.2 ≤ x.2 := by
  unfold Ticking at h
  rw [List.map_append, ← List.cons_append] at h
  exact (List.pairwise_append.mp h).2.2 y.2
    (List.mem_cons_of_mem _ (List.mem_map_of_mem hy)) x.2 List.mem_cons_self

/-- The last sign of life is one of the run, and none is later. -/
theorem lastActivity_eq_some {created : Instant} {ops : List TimedOp} {last : Instant}
    (h : lastActivity ops = some last) (h_clock : Ticking created ops) :
    (∃ y ∈ ops, y.2 = last) ∧ ∀ y ∈ ops, y.1.isActivity = true → y.2 ≤ last := by
  -- by induction from the end, as the last activity is looked for
  induction ops using List.reverseRecOn with
  | nil => cases h
  | append_singleton ops x ih =>
    rw [lastActivity_append_singleton] at h
    split at h
    · obtain rfl := Option.some.inj h
      -- the operation is the activity itself
      refine ⟨⟨x, List.mem_append_right _ List.mem_cons_self, rfl⟩, fun y hy _ => ?_⟩
      rcases List.mem_append.mp hy with hy | hy
      · exact h_clock.le hy
      · exact Nat.le_of_eq (congrArg Prod.snd (List.mem_singleton.mp hy))
    -- a quiet operation leaves the one of before
    · next h_quiet =>
      obtain ⟨⟨y, hy, h_eq⟩, h_all⟩ := ih h h_clock.left
      refine ⟨⟨y, List.mem_append_left _ hy, h_eq⟩, fun z hz h_act => ?_⟩
      rcases List.mem_append.mp hz with hz | hz
      · exact h_all z hz h_act
      · rw [List.mem_singleton.mp hz] at h_act
        exact absurd h_act h_quiet

/-- Without a last sign of life there was none. -/
theorem lastActivity_eq_none {ops : List TimedOp} (h : lastActivity ops = none) :
    ∀ y ∈ ops, y.1.isActivity = false := by
  intro y hy
  have h_nil : ops.filter (fun x => x.1.isActivity) = [] :=
    List.getLast?_eq_none_iff.mp (Option.map_eq_none_iff.mp h)
  exact Bool.eq_false_iff.mpr (List.filter_eq_nil_iff.mp h_nil y hy)

/-- An outage starts within the run, and after every sign of life before it. -/
theorem Outage.since_bounds {created : Instant} {ops : List TimedOp} (o : Outage created ops)
    (h_clock : Ticking created ops) :
    (o.since = created ∨ ∃ y ∈ o.before ++ [o.cause], o.since = y.2) ∧
      ∀ y ∈ o.before, y.1.isActivity = true → y.2 ≤ o.since := by
  -- the run up to the cause of the outage keeps the clock
  have h_until : Ticking created (o.before ++ [o.cause]) := by
    have h_split := o.split
    rw [List.append_cons] at h_split
    rw [h_split] at h_clock
    exact h_clock.left
  have h_since : o.since = match lastActivity o.before with
    | none => created
    | some last => if o.cause.1 = .stalled then last else o.cause.2 := rfl
  cases h : lastActivity o.before with
  -- no activity at all: the outage starts with the subscription
  | none =>
    rw [h] at h_since
    refine ⟨Or.inl h_since, fun y hy h_act => ?_⟩
    rw [lastActivity_eq_none h y hy] at h_act
    cases h_act
  | some last =>
    obtain ⟨⟨z, hz, h_eq⟩, h_all⟩ := lastActivity_eq_some h h_until.left
    rw [h] at h_since
    -- a stall dates back to the last activity, any other cause to itself
    by_cases h_stalled : o.cause.1 = .stalled
    · have h_last : o.since = last := h_since.trans (if_pos h_stalled)
      rw [h_last]
      exact ⟨Or.inr ⟨z, List.mem_append_left _ hz, h_eq.symm⟩, h_all⟩
    · have h_now : o.since = o.cause.2 := h_since.trans (if_neg h_stalled)
      rw [h_now]
      refine ⟨Or.inr ⟨o.cause, List.mem_append_right _ List.mem_cons_self, rfl⟩, ?_⟩
      exact fun y hy _ => h_until.le hy

/-- **The reported outage length is the true one.** When a subscription recovers,
it was in an outage, and the outage it reports is the time since that one began. -/
theorem recovered_outage (created : Instant) (ops : List TimedOp) (x : TimedOp)
    (outage : Duration) (h_clock : Ticking created (ops ++ [x]))
    (h_before : (run created ops).health.status ≠ .recovered outage)
    (h_after : (run created (ops ++ [x])).health.status = .recovered outage) :
    ∃ o : Outage created ops, o.since ≤ x.2 ∧ outage = x.2 - o.since ∧
      created ≤ o.since ∧ ∀ y ∈ o.before, y.1.isActivity = true → y.2 ≤ o.since := by
  unfold run at h_after
  rw [List.foldl_append] at h_after
  -- the outage that ends here began in this run
  obtain ⟨h_down, h_outage⟩ := outage_of_recovered h_before h_after
  obtain ⟨o, h_since⟩ := exists_outage h_down
  obtain ⟨h_start, h_later⟩ := o.since_bounds h_clock.left
  have h_mem : ∀ y ∈ o.before ++ [o.cause], y ∈ ops := by
    intro y hy
    rw [o.split, List.append_cons]
    exact List.mem_append_left _ hy
  have h_x : created ≤ x.2 :=
    h_clock.created_le (List.mem_append_right _ List.mem_cons_self)
  have h_bounds : created ≤ o.since ∧ o.since ≤ x.2 := by
    rcases h_start with h_eq | ⟨y, hy, h_eq⟩
    · rw [h_eq]
      exact ⟨Nat.le_refl _, h_x⟩
    · rw [h_eq]
      exact ⟨h_clock.left.created_le (h_mem y hy), h_clock.le (h_mem y hy)⟩
  refine ⟨o, h_bounds.2, ?_, h_bounds.1, h_later⟩
  rw [h_outage, h_since]

/-- A refusal at 5 s that a keepalive at 9 s ends, in a run that was healthy. -/
theorem recovered_outage_refused : ∃ o : Outage 0
      [(.update .transportActivity, 2), (.reject .graphQl, 5), (.stalled, 7)],
    o.since ≤ 9 ∧ 4 = 9 - o.since ∧ 0 ≤ o.since ∧
      ∀ y ∈ o.before, y.1.isActivity = true → y.2 ≤ o.since := by
  refine recovered_outage 0 _ (.update .transportActivity, 9) 4 ?_ ?_ ?_
  · unfold Ticking
    decide
  · decide
  · decide

end Blokli
