import BlokliClient.Hub.Supervision
import BlokliClient.Hub.Trackers

/-!
# The moments a supervisor computes

A supervisor adds durations of the configuration to instants in two places: the
stall threshold to the last sign of life of a subscription, and the delay of a
reconnect to the current time. Neither the durations nor the sums are checked,
and `Instant + Duration` panics when the sum cannot be represented.

* `Instr.sums` lists the sums that an instruction computes. What a wait is armed
  with is one of them (`armed_mem_sums`).
* `SignsPast`: no sign of life is in the future.
* `Patient`: a reconnect that is decided on waits no longer than `longestDelay`,
  which is read off the configuration.
* `deadlines_fit`: while the clock leaves room for the longest delay, every sum
  fits.
-/

namespace Blokli

open Worklist

variable {V : Type} {hub : HubConfig} {t : Task} {ch : Choice} {i : Instr V} {c c' : Config V}
  {e : Effect V} {a : Action Task Choice (Request V)}

/-! ### The sums -/

/-- From when on the silence of a subscription counts. -/
def HealthTracker.lastSign (tracker : HealthTracker) : Instant :=
  tracker.health.lastTransportActivity.getD tracker.created

/-- A stall deadline is one threshold after the last sign of life. -/
theorem HealthTracker.stallDeadline_eq_some {tracker : HealthTracker} {threshold : Duration}
    {deadline : Instant} (h : tracker.stallDeadline threshold = some deadline) :
    deadline = tracker.lastSign + threshold := by
  unfold stallDeadline at h
  split at h
  · -- stalled, rejected or ended: there is no deadline
    cases h
  · cases h
  · cases h
  · exact (Option.some.inj h).symm

/-- `stall_deadline` of every subscription of `scope`. -/
def HubState.stallDeadlines (s : HubState V) (cfg : BlokliClientConfig) (scope : Scope) :
    List Instant :=
  match cfg.subscriptionStallThreshold with
  | none => []
  | some threshold =>
    (s.scopeIds scope).filterMap fun id =>
      (s.slots id).bind fun e => e.health.stallDeadline threshold

/-- The sums of an instant and a duration that an instruction computes. -/
def Instr.sums (hub : HubConfig) (t : Task) (s : Store V) : Instr V → List Instant
  | .stallWakeup d => s.state.stallDeadlines hub.cfg d.scope
  | .markStalled scope => s.state.stallDeadlines hub.cfg scope
  | .readCause id =>
    match (s.state.slots id).bind fun e => e.isolated.map Isolation.cause with
    | none => []
    | some cause => [s.clock + (isolatedDelay hub cause (s.locals t).malformedEventDelay).1]
  | .leaveDrive _ (.reconnect delay) => [s.clock + delay]
  | _ => []

/-- What a wait is armed with. -/
def Instr.armed : Instr V → Option Instant
  | .waitReconnect _ deadline _ | .recheckWait _ deadline _ => some deadline
  | .select _ stall => stall
  | _ => none

/-- A supervisor wakes up at the first deadline. -/
theorem HubState.stallWakeup_eq (s : HubState V) (cfg : BlokliClientConfig) (scope : Scope) :
    s.stallWakeup cfg scope = (s.stallDeadlines cfg scope).min? := by
  unfold stallWakeup stallDeadlines
  cases cfg.subscriptionStallThreshold with
  | none => rfl
  | some threshold => rfl

/-- The deadlines of a connection are those of its slots. -/
theorem HubState.mem_stallDeadlines {s : HubState V} {cfg : BlokliClientConfig} {scope : Scope}
    {deadline : Instant} : deadline ∈ s.stallDeadlines cfg scope ↔
      ∃ threshold id e, cfg.subscriptionStallThreshold = some threshold ∧
        id ∈ s.scopeIds scope ∧ s.slots id = some e ∧
        e.health.stallDeadline threshold = some deadline := by
  unfold stallDeadlines
  cases cfg.subscriptionStallThreshold with
  | none => simp
  | some threshold => simp [List.mem_filterMap, Option.bind_eq_some_iff]

/-- **Where a wait begins.** A supervisor waits before it connects a slot that was moved and
after a connection that it left, and goes on waiting after a change. -/
inductive WaitOrigin (hub : HubConfig) (t : Task) (c : Config V) : Instr V → Instr V → Prop
  | moved (id : SlotId) (cause : IsolationCause)
      (reason : ((c.store.state.slots id).bind fun e => e.isolated.map Isolation.cause) =
        some cause) :
      WaitOrigin hub t c (.readCause id) (.waitReconnect (.isolated id)
        (c.store.clock + (isolatedDelay hub cause (c.store.locals t).malformedEventDelay).1) [id])
  | departed (d : Driving V) (delay : Duration) :
      WaitOrigin hub t c (.leaveDrive d (.reconnect delay))
        (.waitReconnect d.scope (c.store.clock + delay) d.connection.ids)
  | changed (scope : Scope) (deadline : Instant) (connected : List SlotId) :
      WaitOrigin hub t c (.waitReconnect scope deadline connected)
        (.recheckWait scope deadline connected)
  | rechecked (scope : Scope) (deadline : Instant) (connected : List SlotId) :
      WaitOrigin hub t c (.recheckWait scope deadline connected)
        (.waitReconnect scope deadline connected)

/-- Where a wait for a reconnect comes from. -/
theorem wait_origin (h : exec hub t ch i c = some e) {j : Instr V} (hj : j ∈ e.next)
    (h_point : j.point ∈ [.waitReconnect, .recheckWait]) : WaitOrigin hub t c i j := by
  have h_succ := exec_successors h j hj
  cases i with
  -- a slot that moved waits before its first connection
  | readCause id =>
    obtain rfl := Option.some.inj h
    revert hj
    change j ∈ (execReadCause hub t id c.store).next → _
    unfold execReadCause
    -- no slot, or none that moved
    split
    · exact fun hj => absurd hj List.not_mem_nil
    · next cause h_cause =>
      intro hj
      rcases List.mem_cons.mp hj with rfl | hj
      · exact .moved id cause h_cause
      · obtain rfl := List.mem_singleton.mp hj
        exact absurd h_point (Point.not_mem rfl)
  -- a connection that was lost waits before the next
  | leaveDrive d outcome =>
    obtain rfl := Option.some.inj h
    cases outcome with
    | reconnect delay =>
      rcases List.mem_cons.mp hj with rfl | hj
      · exact .departed d delay
      · obtain rfl := List.mem_singleton.mp hj
        exact absurd h_point (Point.not_mem rfl)
    | _ =>
      obtain rfl := List.mem_singleton.mp hj
      exact absurd h_point (Point.not_mem rfl)
  -- a wait goes on
  | recheckWait scope deadline connected =>
    obtain rfl := Option.some.inj h
    dsimp only at hj
    split at hj
    -- the wait is over, or goes on with the same deadline
    · exact absurd hj List.not_mem_nil
    · obtain rfl := List.mem_singleton.mp hj
      exact .rechecked scope deadline connected
  | waitReconnect scope deadline connected =>
    simp only [exec] at h
    repeat' split at h
    all_goals first
      | (cases h; done)
      | obtain rfl := Option.some.inj h
    · -- the deadline passed
      exact absurd hj List.not_mem_nil
    · obtain rfl := List.mem_singleton.mp hj
      exact .changed scope deadline connected
  | _ => exact absurd h_point (Point.disjoint rfl h_succ)

/-- **Every wait is armed with one of the sums**, or goes on as it was. -/
theorem armed_mem_sums (h : exec hub t ch i c = some e) {j : Instr V} (hj : j ∈ e.next)
    {deadline : Instant} (h_armed : j.armed = some deadline) :
    deadline ∈ i.sums hub t c.store ∨ i.armed = some deadline := by
  -- only three instructions are armed
  have h_point : j.point ∈ [.waitReconnect, .recheckWait] ∨ j.point = .select := by
    -- the point of an instruction tells whether it is armed
    cases j
    all_goals first
      | exact Or.inl (List.mem_of_elem_eq_true rfl)
      | exact Or.inr rfl
      | cases h_armed
  rcases h_point with h_wait | h_select
  · cases wait_origin h hj h_wait with
    | moved id cause reason =>
      obtain rfl := Option.some.inj h_armed
      left
      simp only [Instr.sums]
      rw [reason]
      exact List.mem_singleton_self _
    | departed d delay =>
      obtain rfl := Option.some.inj h_armed
      exact Or.inl (List.mem_singleton_self _)
    -- these two pass on the deadline they have
    | changed | rechecked => exact Or.inr h_armed
  · -- the wait for an item is armed with the least of the stall deadlines
    have h_succ := exec_successors h j hj
    rw [h_select] at h_succ
    cases i with
    | stallWakeup d =>
      obtain rfl := Option.some.inj h
      left
      obtain rfl := List.mem_singleton.mp hj
      change c.store.state.stallWakeup hub.cfg d.scope = some deadline at h_armed
      rw [HubState.stallWakeup_eq] at h_armed
      exact List.min?_mem h_armed
    | _ => exact absurd h_succ (Point.not_mem rfl)

/-! ### Signs of life -/

/-- Only activity is a sign of life. -/
theorem lastSign_step (tracker : HealthTracker) (x : TimedOp) :
    (tracker.step x).lastSign = if x.1.isActivity then x.2 else tracker.lastSign := by
  obtain ⟨h_created, h_last⟩ := HealthTracker.step_last tracker x
  unfold HealthTracker.lastSign
  rw [h_created, h_last]
  split <;> rfl

/-- Instructions take no time. -/
theorem exec_clock (h : exec hub t ch i c = some e) : e.store.clock = c.store.clock := by
  -- the quiet instructions leave the clock alone, and so do the loud ones
  by_cases h_quiet : i.loud = false
  · exact (exec_quiet h h_quiet).clock
  · cases i
    all_goals first
      | exact absurd rfl h_quiet
      | (simp only [exec, execTrySend, execDeliver, execReceive] at h
         repeat' split at h
         all_goals first
           | (cases h; done)
           | (obtain rfl := Option.some.inj h; rfl))

/-- The clock does not go back. -/
theorem clock_le_step (h : (hubProgram hub).step c a = some c') :
    c.store.clock ≤ c'.store.clock := by
  rcases Program.step_cases h with ⟨t, ch, i, rest, e, rfl, h_todo, he, rfl⟩ |
    ⟨r, t, e, rfl, he, h_todo, rfl⟩
  · -- an instruction
    exact Nat.le_of_eq (exec_clock he).symm
  · -- a request: only time passing moves the clock
    cases r with
    | tick d =>
      obtain ⟨rfl, rfl⟩ := Prod.mk.inj (Option.some.inj he)
      exact Nat.le_add_right _ _
    | _ =>
      simp only [hubProgram, accept] at he
      split at he
      · obtain ⟨rfl, rfl⟩ := Prod.mk.inj (Option.some.inj he)
        exact Nat.le_refl _
      · cases he

/-- A stream is registered after it was created. -/
theorem created_le (h : (hubProgram hub).step c a = some c') {spec : SubscriptionSpec V}
    {created : Instant} (h_a : a = .request (.register spec created)) :
    created ≤ c.store.clock := by
  subst h_a
  rcases Program.step_cases h with ⟨t, ch, i, rest, e, h_a, -⟩ | ⟨r, t, e, h_a, he, -⟩
  · cases h_a
  · -- the guard of a registration
    obtain rfl := Action.request.inj h_a
    simp only [hubProgram, accept] at he
    split at he
    · assumption
    · cases he

/-- No sign of life is in the future. -/
def SignsPast (c : Config V) : Prop :=
  ∀ id e, c.store.state.slots id = some e → e.health.lastSign ≤ c.store.clock

/-- At the start there were no signs. -/
theorem SignsPast.initial : SignsPast (initialConfig V) := by
  intro id e h_e
  cases h_e

/-- Signs of life are never in the future. -/
theorem SignsPast.step (h_past : SignsPast c) (h_num : Numbered c)
    (h : (hubProgram hub).step c a = some c') : SignsPast c' := by
  intro id e' h_e'
  refine Nat.le_trans ?_ (clock_le_step h)
  -- the slot was there, or it is being registered
  rcases slot_origin h h_e' with ⟨e, h_e⟩ | ⟨spec, created, h_a, -, rfl⟩
  · rcases (tracker_step h_num h h_e h_e').op with h_same | ⟨op, h_op, -⟩
    · -- its last sign of life is the one of before
      rw [h_same]
      exact h_past id e h_e
    · -- a sign of life is one of this moment
      rw [h_op, lastSign_step]
      split
      · exact Nat.le_refl _
      · exact h_past id e h_e
  · exact created_le h h_a

/-! ### Delays -/

/-- The longest duration that a configuration adds to an instant. -/
def longestDelay (cfg : BlokliClientConfig) : Duration :=
  max (cfg.subscriptionStallThreshold.getD 0)
    (max (rejectedRetryDelay cfg)
      (max (cfg.subscriptionStreamRestartDelay.getD defaultMalformedEventDelay)
        minReconnectionDelay))

section Delays

variable {cfg : BlokliClientConfig}

/-- The stall threshold is no longer than the longest delay. -/
theorem threshold_le {threshold : Duration}
    (h : cfg.subscriptionStallThreshold = some threshold) : threshold ≤ longestDelay cfg := by
  unfold longestDelay
  rw [h]
  exact Nat.le_max_left _ _

/-- The delay after a rejection is no longer than the longest delay. -/
theorem rejectedRetryDelay_le : rejectedRetryDelay cfg ≤ longestDelay cfg :=
  Nat.le_trans (Nat.le_max_left _ _) (Nat.le_max_right _ _)

/-- The delay before a restart is no longer than the longest delay. -/
theorem restartDelay_le {delay : Duration} (h : cfg.subscriptionStreamRestartDelay = some delay) :
    max delay minReconnectionDelay ≤ longestDelay cfg := by
  unfold longestDelay
  rw [h]
  exact Nat.le_trans (Nat.le_max_right _ _) (Nat.le_max_right _ _)

/-- The backoff after malformed events doubles up to a bound. -/
theorem nextMalformedEventDelay_le (state : Option Duration) :
    (nextMalformedEventDelay cfg state).1 ≤ longestDelay cfg := by
  -- both bounds of the backoff are below the longest delay
  have h_first : max (cfg.subscriptionStreamRestartDelay.getD defaultMalformedEventDelay)
      minReconnectionDelay ≤ longestDelay cfg :=
    Nat.le_trans (Nat.le_max_right _ _) (Nat.le_max_right _ _)
  have h_reconnect : cfg.streamReconnectTimeout ≤ longestDelay cfg :=
    Nat.le_trans (Nat.le_max_left _ _) rejectedRetryDelay_le
  -- the first malformed event, or one more
  cases state with
  | none => exact h_first
  | some last => exact Nat.le_trans (Nat.min_le_right _ _) (Nat.max_le.mpr ⟨h_reconnect, h_first⟩)

/-- And so does the backoff of a resumable connection. -/
theorem nextReconnectDelay_le (state : Option Duration) :
    nextReconnectDelay cfg state ≤ longestDelay cfg := by
  cases state with
  | none => exact Nat.le_trans (Nat.min_le_left _ _) rejectedRetryDelay_le
  | some last => exact Nat.le_trans (Nat.min_le_right _ _) rejectedRetryDelay_le

/-- The delay of an isolated connection is no longer than the longest delay. -/
theorem isolatedDelay_le (cause : IsolationCause) (state : Option Duration) :
    (isolatedDelay hub cause state).1 ≤ longestDelay hub.cfg := by
  cases cause with
  | rejected => exact rejectedRetryDelay_le
  | malformed => exact nextMalformedEventDelay_le state
  | lagged => exact Nat.zero_le _

end Delays

/-- A decided reconnect waits no longer than the longest delay. -/
def Instr.patient (cfg : BlokliClientConfig) : Instr V → Prop
  | .leaveDrive _ (.reconnect delay) => delay ≤ longestDelay cfg
  | _ => True

/-- Only leaving a connection carries a delay of its own. -/
theorem Instr.patient_of_point (h : i.point ≠ .leaveDrive) (cfg : BlokliClientConfig) :
    i.patient cfg := by
  cases i
  all_goals first
    | exact absurd rfl h
    | exact trivial

/-- What the items of a stream lead to. -/
theorem execNext_patient (d : Driving V) (item : Option SseItem) (s : Store V) :
    ∀ j ∈ (execNext hub t d item s).next, j.patient hub.cfg := by
  unfold execNext
  split
  · -- an event
    unfold execEvent malformedFrame
    repeat' split
    all_goals simp [Instr.patient]
  · -- a comment
    simp [Instr.patient]
  · -- the connection was established
    simp [Instr.patient]
  · -- an error, which may be a refusal
    unfold execStreamError
    dsimp only
    repeat' split
    all_goals simp [Instr.patient, rejectedRetryDelay_le, nextReconnectDelay_le]
  · -- the end of the stream
    split
    · next delay h_delay => simp [Instr.patient, restartDelay_le h_delay]
    · simp [Instr.patient]

/-- **Every delay comes from the configuration.** -/
theorem exec_patient (h : exec hub t ch i c = some e) : ∀ j ∈ e.next, j.patient hub.cfg := by
  cases i with
  -- a refused connection is left at once, to be rebuilt after the delay
  | openStream d =>
    obtain rfl := Option.some.inj h
    unfold execOpenStream
    split
    · refine List.forall_mem_append.mpr ⟨List.forall_mem_map.mpr fun _ _ => trivial, ?_⟩
      simp [Instr.patient]
    · simp [Instr.patient]
  | select d stall =>
    simp only [exec] at h
    repeat' split at h
    all_goals first
      | (cases h; done)
      | obtain rfl := Option.some.inj h
    · simp [Instr.patient]
    · simp [Instr.patient]
    · exact execNext_patient d _ c.store
  | reconnectNeeded d =>
    obtain rfl := Option.some.inj h
    dsimp only
    split <;> simp [Instr.patient]
  | dispatchDocument d =>
    obtain rfl := Option.some.inj h
    unfold execDocument
    dsimp only
    repeat' split
    all_goals simp [Instr.patient, rejectedRetryDelay_le]
  | malformedEvent d =>
    obtain rfl := Option.some.inj h
    simp [execMalformedEvent, Instr.patient, nextMalformedEventDelay_le]
  -- no other instruction leaves a drive
  | _ =>
    intro j hj
    refine Instr.patient_of_point (fun h_j => ?_) hub.cfg
    have h_succ := exec_successors h j hj
    rw [h_j] at h_succ
    exact absurd h_succ (Point.not_mem rfl)

def Patient (hub : HubConfig) (c : Config V) : Prop := ∀ t, ∀ i ∈ c.todo t, i.patient hub.cfg

/-- At the start nobody waits. -/
theorem Patient.initial : Patient hub (initialConfig V) := fun _ _ h => absurd h List.not_mem_nil

/-- One step keeps every delay within the longest. -/
theorem Patient.step (h_patient : Patient hub c) (h : (hubProgram hub).step c a = some c') :
    Patient hub c' := by
  refine Program.forall_todo_of_step h h_patient (fun _ _ _ h => h) ?_ ?_
  · -- the instruction leaves only drives whose delay is bounded
    intro t ch i rest e _ h_todo he
    refine ⟨exec_patient he, fun t' is h_sp j hj => ?_⟩
    obtain ⟨token, -, rfl, rfl⟩ := exec_spawned he h_sp
    refine Instr.patient_of_point (fun h_j => ?_) hub.cfg
    have h_code := supervisorCode_points token j hj
    rw [h_j] at h_code
    exact absurd h_code (Point.not_mem rfl)
  · -- a request leaves none
    intro r t e _ he
    obtain ⟨h_sp, -, -, -, -, -, -, -, -, -, h_points⟩ := accept_frame he
    refine ⟨fun j hj => Instr.patient_of_point (fun h_j => ?_) hub.cfg, fun t' is h_sp' => ?_⟩
    · have h_next := h_points j hj
      rw [h_j] at h_next
      exact absurd h_next (Point.not_mem rfl)
    · rw [h_sp] at h_sp'
      cases h_sp'

/-! ### The sums fit -/

/-- A stall deadline is not further from the clock than the longest delay. -/
theorem SignsPast.stallDeadline_le (h_past : SignsPast c) {cfg : BlokliClientConfig}
    {scope : Scope} {deadline : Instant}
    (h : deadline ∈ c.store.state.stallDeadlines cfg scope) :
    deadline ≤ c.store.clock + longestDelay cfg := by
  obtain ⟨threshold, id, e, h_threshold, -, h_e, h_deadline⟩ := HubState.mem_stallDeadlines.mp h
  have h_sign := h_past id e h_e
  have h_le := threshold_le h_threshold
  rw [HealthTracker.stallDeadline_eq_some h_deadline]
  exact Nat.add_le_add h_sign h_le

/-- Each sum of times that an instruction makes is at most the longest delay ahead. -/
theorem sums_le (h_past : SignsPast c) (h_patient : i.patient hub.cfg) :
    ∀ sum ∈ i.sums hub t c.store, sum ≤ c.store.clock + longestDelay hub.cfg := by
  intro sum h_sum
  cases i with
  -- a sum with a stall deadline starts at a sign of life, which is past
  | stallWakeup d => exact h_past.stallDeadline_le h_sum
  | markStalled scope => exact h_past.stallDeadline_le h_sum
  | readCause id =>
    -- any other sum is the clock and a bounded delay
    simp only [Instr.sums] at h_sum
    split at h_sum
    · exact absurd h_sum List.not_mem_nil
    · obtain rfl := List.mem_singleton.mp h_sum
      exact Nat.add_le_add_left (isolatedDelay_le _ _) _
  | leaveDrive d outcome =>
    cases outcome with
    | reconnect delay =>
      obtain rfl := List.mem_singleton.mp h_sum
      exact Nat.add_le_add_left h_patient _
    | _ => exact absurd h_sum List.not_mem_nil
  | _ => exact absurd h_sum List.not_mem_nil

/-- A step at a time that leaves room for the longest delay. -/
def RoomForDelays (hub : HubConfig) (limit : Instant) (c : Config V)
    (_ : Action Task Choice (Request V)) : Prop :=
  c.store.clock + longestDelay hub.cfg ≤ limit

/-- **Deadline arithmetic cannot overflow** while the clock leaves room for the
longest delay of the configuration: in a run all of whose steps do, no
instruction that a step may run computes a sum beyond `limit`. -/
theorem deadlines_fit {limit : Instant}
    (h : (hubProgram hub).Reachable (initialConfig V) (RoomForDelays hub limit) c)
    (h_room : RoomForDelays hub limit c a) {rest : List (Instr V)} (h_todo : c.todo t = i :: rest) :
    ∀ sum ∈ i.sums hub t c.store, sum ≤ limit := by
  -- the signs of life are past in every reachable state
  have h_past : SignsPast c ∧ Numbered c :=
    h.induct (motive := fun c => SignsPast c ∧ Numbered c)
      ⟨SignsPast.initial, Numbered.initial⟩
      fun _ h_inv _ h_step => ⟨h_inv.1.step h_inv.2 h_step, h_inv.2.step h_step⟩
  -- and every delay is bounded
  have h_patient : Patient hub c :=
    h.induct Patient.initial fun _ h_inv _ h_step => h_inv.step h_step
  have h_i : i.patient hub.cfg := h_patient t i (by rw [h_todo]; exact List.mem_cons_self)
  exact fun sum h_sum => Nat.le_trans (sums_le h_past.1 h_i sum h_sum) h_room

/-- The largest `Instant` where the seconds of the clock are an `i64`. -/
def largestInstant : Instant := 2 ^ 63 * 10 ^ 9 - 1

/-- The supervisor of a stream takes a snapshot and opens the connection, up to
its first look at the stall deadlines. -/
def connecting : List (Action Task Choice (Request ℕ)) := registering 0 5 ++ opening.dropLast

/-- The theorem at a hub with the default configuration. -/
theorem deadlines_fit_default : ∃ (c : Config ℕ) (d : Driving ℕ) (rest : List (Instr ℕ)),
    c.todo firstSupervisor = .stallWakeup d :: rest ∧
    Duration.fromSecs 90 ∈ (Instr.stallWakeup d).sums sampleHub firstSupervisor c.store ∧
    ∀ sum ∈ (Instr.stallWakeup d).sums sampleHub firstSupervisor c.store, sum ≤ largestInstant := by
  have h_run : ∃ c d rest, (hubProgram sampleHub).runWithin sampleTasks
      (fun c _ => decide (c.store.clock + longestDelay sampleHub.cfg ≤ largestInstant))
      (initialConfig ℕ) connecting = some c ∧
      c.todo firstSupervisor = .stallWakeup d :: rest ∧
      (Instr.stallWakeup d).sums sampleHub firstSupervisor c.store = [Duration.fromSecs 90] ∧
      c.store.clock + longestDelay sampleHub.cfg ≤ largestInstant :=
    ⟨_, _, _, rfl, rfl, rfl, by decide⟩
  obtain ⟨c, d, rest, h_run, h_todo, h_sum, h_room⟩ := h_run
  -- the room that the run checks is the room that the theorem asks for
  have h_check : ∀ (c : Config ℕ) a, Within sampleTasks c →
      decide (c.store.clock + longestDelay sampleHub.cfg ≤ largestInstant) = true →
      RoomForDelays sampleHub largestInstant c a := by
    intro c a _ h
    unfold RoomForDelays
    exact of_decide_eq_true h
  obtain ⟨h_reach, -⟩ := Program.Reachable.runWithin h_check .init (fun _ _ => rfl) h_run
  exact ⟨c, d, rest, h_todo, by rw [h_sum]; exact List.mem_cons_self,
    deadlines_fit (a := .run firstSupervisor .proceed) h_reach h_room h_todo⟩

/-- A hub that never reports a stall, or so its configuration means. -/
def unboundedHub : HubConfig :=
  { sampleHub with cfg := { subscriptionStallThreshold := some Duration.max } }

/-- **A stall threshold of `Duration::MAX` overflows** at the first look at the
stall deadlines. -/
theorem stall_threshold_overflows : ∃ (hub : HubConfig) (c : Config ℕ) (t : Task) (i : Instr ℕ)
    (rest : List (Instr ℕ)) (sum : Instant),
    (hubProgram hub).Reachable (initialConfig ℕ) Program.anyStep c ∧ c.todo t = i :: rest ∧
    sum ∈ i.sums hub t c.store ∧ largestInstant < sum := by
  have h_run : ∃ c i rest, (hubProgram unboundedHub).run (initialConfig ℕ) connecting = some c ∧
      c.todo firstSupervisor = i :: rest ∧
      i.sums unboundedHub firstSupervisor c.store = [Duration.max] :=
    ⟨_, _, _, rfl, rfl, rfl⟩
  -- the threshold added to the creation overflows
  obtain ⟨c, i, rest, h_run, h_todo, h_sum⟩ := h_run
  exact ⟨unboundedHub, c, firstSupervisor, i, rest, Duration.max, .run .init h_run, h_todo,
    by rw [h_sum]; exact List.mem_cons_self, by decide⟩

end Blokli
