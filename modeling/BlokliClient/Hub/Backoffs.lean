import BlokliClient.Library.Backoff
import BlokliClient.Hub.Flow
import BlokliClient.Hub.Locals

/-!
# The two backoffs of a supervisor

A supervisor keeps two delays from one connection to the next. After malformed events it
waits what `next_malformed_event_delay` returns, and after an error of a resumable stream
what `drive` works out; both double up to the timeout of the configuration. They start
from delays that are clamped differently, and each has a bound of its own.

* `malformedBackoff` and `reconnectBackoff` : both are a `Backoff`, since no duration of
  a configuration is longer than `Duration::MAX`.
* `MalformedCall` and `ReconnectCall` : the steps of a supervisor that ask for a delay.
  Every other step leaves the delay of the supervisor or takes it back.
* `backoff_closed_form` : the closed forms and their bounds, for the functions and for the
  supervisors of a run.
-/

namespace Blokli

open Worklist

/-! ### The sequences -/

/-- The durations of a configuration are values of `Duration`. -/
structure BlokliClientConfig.Representable (cfg : BlokliClientConfig) : Prop where
  streamReconnectTimeout : cfg.streamReconnectTimeout ≤ Duration.max
  subscriptionStreamRestartDelay : ∀ delay, cfg.subscriptionStreamRestartDelay = some delay →
    delay ≤ Duration.max

/-- What `next_malformed_event_delay` waits at first. -/
def firstMalformedEventDelay (cfg : BlokliClientConfig) : Duration :=
  max (cfg.subscriptionStreamRestartDelay.getD defaultMalformedEventDelay) minReconnectionDelay

/-- And at most. -/
def maxMalformedEventDelay (cfg : BlokliClientConfig) : Duration :=
  max cfg.streamReconnectTimeout (firstMalformedEventDelay cfg)

/-- What a resumable connection waits at most. -/
def maxReconnectDelay (cfg : BlokliClientConfig) : Duration :=
  max cfg.streamReconnectTimeout minReconnectionDelay

/-- And at first. -/
def firstReconnectDelay (cfg : BlokliClientConfig) : Duration :=
  min (maxReconnectDelay cfg) (Duration.fromSecs 2)

/-- What the call of `next_malformed_event_delay` that follows `n` others returns, and the
state that it leaves. -/
def malformedEventDelays (cfg : BlokliClientConfig) : ℕ → Duration × Option Duration
  | 0 => nextMalformedEventDelay cfg none
  | n + 1 => nextMalformedEventDelay cfg (malformedEventDelays cfg n).2

/-- The reconnect delay of a resumable connection that follows `n` others. -/
def reconnectDelays (cfg : BlokliClientConfig) : ℕ → Duration
  | 0 => nextReconnectDelay cfg none
  | n + 1 => nextReconnectDelay cfg (some (reconnectDelays cfg n))

section Sequences

variable {cfg : BlokliClientConfig}

/-- The shortest delay is a duration. -/
theorem minReconnectionDelay_le_max : minReconnectionDelay ≤ Duration.max := by decide

/-- The first delay after a malformed event is a duration. -/
theorem firstMalformedEventDelay_le (h : cfg.Representable) :
    firstMalformedEventDelay cfg ≤ Duration.max := by
  have h_delay : cfg.subscriptionStreamRestartDelay.getD defaultMalformedEventDelay ≤
      Duration.max := by
    cases h_restart : cfg.subscriptionStreamRestartDelay with
    | none =>
      show defaultMalformedEventDelay ≤ Duration.max
      decide
    | some delay => exact h.subscriptionStreamRestartDelay delay h_restart
  exact max_le h_delay minReconnectionDelay_le_max

/-- The longest delay before a reconnect is a duration. -/
theorem maxReconnectDelay_le (h : cfg.Representable) : maxReconnectDelay cfg ≤ Duration.max :=
  max_le h.streamReconnectTimeout minReconnectionDelay_le_max

/-- The backoff after malformed events. -/
def malformedBackoff (cfg : BlokliClientConfig) (h : cfg.Representable) : Backoff where
  first := firstMalformedEventDelay cfg
  factor := 2
  cap := maxMalformedEventDelay cfg
  limit := Duration.max
  first_le_cap := le_max_right _ _
  first_le_limit := firstMalformedEventDelay_le h
  one_le_factor := by decide

/-- The backoff of a resumable connection. -/
def reconnectBackoff (cfg : BlokliClientConfig) (h : cfg.Representable) : Backoff where
  first := firstReconnectDelay cfg
  factor := 2
  cap := maxReconnectDelay cfg
  limit := Duration.max
  first_le_cap := min_le_left _ _
  first_le_limit := (min_le_left _ _).trans (maxReconnectDelay_le h)
  one_le_factor := by decide

variable (h : cfg.Representable)

/-- The code's next delay after a malformed event is that of the backoff. -/
theorem nextMalformedEventDelay_eq (state : Option Duration) :
    nextMalformedEventDelay cfg state =
      ((malformedBackoff cfg h).next state, some ((malformedBackoff cfg h).next state)) := by
  cases state <;> rfl

/-- The code's next delay before a reconnect is that of the backoff. -/
theorem nextReconnectDelay_eq (state : Option Duration) :
    nextReconnectDelay cfg state = (reconnectBackoff cfg h).next state := by
  cases state <;> rfl

/-- So are its delays after any number of malformed events in a row. -/
theorem malformedEventDelays_eq (n : ℕ) : malformedEventDelays cfg n =
    ((malformedBackoff cfg h).delay n, some ((malformedBackoff cfg h).delay n)) := by
  induction n with
  | zero => exact nextMalformedEventDelay_eq h none
  | succ n ih =>
    change nextMalformedEventDelay cfg (malformedEventDelays cfg n).2 = _
    rw [ih, nextMalformedEventDelay_eq h]
    rfl

/-- So are its delays after any number of failures in a row. -/
theorem reconnectDelays_eq (n : ℕ) :
    reconnectDelays cfg n = (reconnectBackoff cfg h).delay n := by
  induction n with
  | zero => exact nextReconnectDelay_eq h none
  | succ n ih =>
    change nextReconnectDelay cfg (some (reconnectDelays cfg n)) = _
    rw [ih, nextReconnectDelay_eq h]
    rfl

/-- The first delay is no shorter than the shortest. -/
theorem minReconnectionDelay_le_first : minReconnectionDelay ≤ firstReconnectDelay cfg :=
  le_min (le_max_right _ _) (by decide)

end Sequences

/-! ### The calls of a supervisor -/

variable {V : Type} {hub : HubConfig} {t t' : Task} {ch : Choice} {i : Instr V} {c c' : Config V}
  {e : Effect V} {a : Action Task Choice (Request V)} {delay : Duration}

/-- **Supervisor `t` calls `next_malformed_event_delay`**, in `drive` or before its first
connection, and is to wait for `delay`. -/
inductive MalformedCall (t : Task) (c : Config V) (a : Action Task Choice (Request V))
    (delay : Duration) (c' : Config V) : Prop
  | event (ch : Choice) (d : Driving V) (rest : List (Instr V)) (action : a = .run t ch)
      (todo : c.todo t = .malformedEvent d :: rest)
      (next : c'.todo t = .leaveDrive d (.reconnect delay) :: rest)
  | moved (ch : Choice) (id : SlotId) (rest : List (Instr V)) (action : a = .run t ch)
      (todo : c.todo t = .readCause id :: rest)
      (cause : ((c.store.state.slots id).bind fun e => e.isolated.map Isolation.cause) =
        some .malformed)
      (next : c'.todo t = .waitReconnect (.isolated id) (c.store.clock + delay) [id] ::
        .prepare (.isolated id) :: rest)

/-- **Supervisor `t` leaves a resumable connection** after an error of its stream, and is
to wait for `delay`. -/
inductive ReconnectCall (t : Task) (c : Config V) (a : Action Task Choice (Request V))
    (delay : Duration) (c' : Config V) : Prop
  | error (d : Driving V) (stall : Option Instant) (rest : List (Instr V)) (error : SseError)
      (action : a = .run t (.next (some (.error error))))
      (todo : c.todo t = .select d stall :: rest) (retried : rejectionOf error = none)
      (resumable : d.connection.resumable = true)
      (next : c'.todo t = .withHealth d.scope d.connection.ids (.problem (problemOf error)) ::
        .leaveDrive d (.reconnect delay) :: rest)

/-! ### What the instructions do to the delays -/

/-- **Who writes the reconnect delay.** -/
theorem exec_reconnectDelay (h : exec hub t ch i c = some e) (t' : Task) :
    (e.store.locals t').reconnectDelay = (c.store.locals t').reconnectDelay ∨
    (e.store.locals t').reconnectDelay = none ∨
    ∃ d stall error, t' = t ∧ i = .select d stall ∧ ch = .next (some (.error error)) ∧
      rejectionOf error = none ∧ d.connection.resumable = true := by
  rcases exec_locals_of h t' with h_same | ⟨-, h_none⟩ | ⟨h_t, h_step⟩
  · exact Or.inl (congrArg Locals.reconnectDelay h_same)
  · exact Or.inr (Or.inl h_none)
  · generalize e.store.locals t' = l at h_step
    cases h_step with
    | kept | seen | moved | malformed | decoded => exact Or.inl rfl
    | handled | answered => exact Or.inr (Or.inl rfl)
    | streamError d stall error choice retried resumable =>
      exact Or.inr (Or.inr ⟨d, stall, error, h_t, rfl, choice, retried, resumable⟩)

/-- **Who writes the delay after malformed events.** -/
theorem exec_malformedEventDelay (h : exec hub t ch i c = some e) (t' : Task) :
    (e.store.locals t').malformedEventDelay = (c.store.locals t').malformedEventDelay ∨
    (e.store.locals t').malformedEventDelay = none ∨
    t' = t ∧ ((∃ d, i = .malformedEvent d) ∨ ∃ id, i = .readCause id ∧
      ((c.store.state.slots id).bind fun e => e.isolated.map Isolation.cause) =
        some .malformed) := by
  rcases exec_locals_of h t' with h_same | ⟨h_none, -⟩ | ⟨h_t, h_step⟩
  · exact Or.inl (congrArg Locals.malformedEventDelay h_same)
  · exact Or.inr (Or.inl h_none)
  · generalize e.store.locals t' = l at h_step
    cases h_step with
    | kept | seen | handled | streamError => exact Or.inl rfl
    | decoded | answered => exact Or.inr (Or.inl rfl)
    | malformed d => exact Or.inr (Or.inr ⟨h_t, Or.inl ⟨d, rfl⟩⟩)
    | moved id cause reason =>
      cases cause with
      | malformed => exact Or.inr (Or.inr ⟨h_t, Or.inr ⟨id, rfl, reason⟩⟩)
      | rejected | lagged => exact Or.inl rfl

/-- The error that a resumable connection answers with a reconnect. -/
theorem execNext_error {d : Driving V} {error : SseError} (h_retried : rejectionOf error = none)
    (h_resumable : d.connection.resumable = true) (s : Store V) :
    execNext hub t d (some (.error error)) s =
      { store := s.modifyLocals t fun l =>
          { l with reconnectDelay := some (nextReconnectDelay hub.cfg (s.locals t).reconnectDelay) }
        next := [.withHealth d.scope d.connection.ids (.problem (problemOf error)),
          .leaveDrive d
            (.reconnect (nextReconnectDelay hub.cfg (s.locals t).reconnectDelay))] } := by
  change execStreamError hub t d error s = _
  unfold execStreamError
  rw [h_retried]
  dsimp only
  rw [if_pos h_resumable]

/-- **A supervisor keeps the backoff of its resumable connections.** -/
theorem reconnect_kept (h_cfg : hub.cfg.Representable) (t : Task) :
    (reconnectBackoff hub.cfg h_cfg).KeptBy (hubProgram hub).step
      (fun c : Config V => (c.store.locals t).reconnectDelay) (ReconnectCall t) where
  call {c c' a delay} h_step h_call := by
    -- the call: an error that is retried, in a stream that can be resumed
    obtain ⟨d, stall, rest, error, rfl, h_todo, h_retried, h_resumable, h_next⟩ := h_call
    have h_exec : exec hub t (.next (some (.error error))) (.select d stall) c =
        some (execNext hub t d (some (.error error)) c.store) := rfl
    rw [execNext_error h_retried h_resumable] at h_exec
    obtain rfl := Option.some.inj ((Program.step_run h_todo h_exec).symm.trans h_step)
    rw [resume_todo_self] at h_next
    obtain ⟨-, h_next⟩ := List.cons.inj h_next
    obtain ⟨h_leave, -⟩ := List.cons.inj h_next
    obtain ⟨-, h_outcome⟩ := Instr.leaveDrive.inj h_leave
    obtain rfl := Outcome.reconnect.inj h_outcome
    refine ⟨nextReconnectDelay_eq h_cfg _, ?_⟩
    dsimp only [resume_store]
    rw [modifyLocals_self]
  other {c c' a} h_step h_quiet := by
    rcases Program.step_cases h_step with ⟨t', ch, i, rest, e, rfl, h_todo, he, rfl⟩ |
      ⟨r, t', e, rfl, he, h_todo, rfl⟩
    · rcases exec_reconnectDelay he t with h_same | h_none |
        ⟨d, stall, error, rfl, rfl, rfl, h_retried, h_resumable⟩
      · exact Or.inl h_same
      · -- reset
        exact Or.inr h_none
      · -- this step is a call
        change exec hub t (.next (some (.error error))) (.select d stall) c = some e at he
        obtain rfl := Option.some.inj he
        refine absurd ?_ (h_quiet (nextReconnectDelay hub.cfg (c.store.locals t).reconnectDelay))
        refine .error d stall rest error rfl h_todo h_retried h_resumable ?_
        rw [resume_todo_self, execNext_error h_retried h_resumable]
        rfl
    · -- requests keep what the tasks know
      obtain ⟨-, -, -, -, -, -, h_locals, -⟩ := accept_frame he
      left
      rw [resume_store, h_locals]

/-- **A supervisor keeps the backoff after malformed events.** -/
theorem malformed_kept (h_cfg : hub.cfg.Representable) (t : Task) :
    (malformedBackoff hub.cfg h_cfg).KeptBy (hubProgram hub).step
      (fun c : Config V => (c.store.locals t).malformedEventDelay) (MalformedCall t) where
  call {c c' a delay} h_step h_call := by
    cases h_call with
    | event ch d rest action todo next =>
      -- in `drive`: the delay goes into the outcome of the connection
      subst action
      have h_exec : exec hub t ch (.malformedEvent d) c =
          some (execMalformedEvent hub t d c.store) := rfl
      obtain rfl := Option.some.inj ((Program.step_run todo h_exec).symm.trans h_step)
      unfold execMalformedEvent at *
      rw [nextMalformedEventDelay_eq h_cfg] at *
      dsimp only at *
      rw [resume_todo_self] at next
      obtain ⟨h_leave, -⟩ := List.cons.inj next
      obtain ⟨-, h_outcome⟩ := Instr.leaveDrive.inj h_leave
      obtain rfl := Outcome.reconnect.inj h_outcome
      refine ⟨rfl, ?_⟩
      rw [resume_store, modifyLocals_self]
    | moved ch id rest action todo cause next =>
      -- before the first connection of a slot that was moved: the delay goes into the deadline
      subst action
      have h_exec : exec hub t ch (.readCause id) c = some (execReadCause hub t id c.store) := rfl
      obtain rfl := Option.some.inj ((Program.step_run todo h_exec).symm.trans h_step)
      unfold execReadCause at *
      rw [cause] at *
      dsimp only [isolatedDelay] at *
      rw [nextMalformedEventDelay_eq h_cfg] at *
      dsimp only at *
      rw [resume_todo_self] at next
      obtain ⟨h_wait, -⟩ := List.cons.inj next
      obtain ⟨-, h_deadline, -⟩ := Instr.waitReconnect.inj h_wait
      obtain rfl := Nat.add_left_cancel h_deadline
      refine ⟨rfl, ?_⟩
      rw [resume_store, modifyLocals_self]
  other {c c' a} h_step h_quiet := by
    rcases Program.step_cases h_step with ⟨t', ch, i, rest, e, rfl, h_todo, he, rfl⟩ |
      ⟨r, t', e, rfl, he, h_todo, rfl⟩
    · rcases exec_malformedEventDelay he t with h_same | h_none |
        ⟨rfl, ⟨d, rfl⟩ | ⟨id, rfl, h_cause⟩⟩
      · exact Or.inl h_same
      · -- the writers of the delay leave it, reset it or are calls
        exact Or.inr h_none
      · -- both writers of the delay are calls, and this step is none
        change exec hub t ch (.malformedEvent d) c = some e at he
        obtain rfl := Option.some.inj he
        refine absurd ?_
          (h_quiet (nextMalformedEventDelay hub.cfg (c.store.locals t).malformedEventDelay).1)
        exact .event ch d rest rfl h_todo (resume_todo_self ..)
      · change exec hub t ch (.readCause id) c = some e at he
        obtain rfl := Option.some.inj he
        refine absurd ?_
          (h_quiet (nextMalformedEventDelay hub.cfg (c.store.locals t).malformedEventDelay).1)
        refine .moved ch id rest rfl h_todo h_cause ?_
        rw [resume_todo_self]
        unfold execReadCause
        rw [h_cause]
        rfl
    · -- a request writes nothing of this
      obtain ⟨-, -, -, -, -, -, h_locals, -⟩ := accept_frame he
      left
      rw [resume_store, h_locals]

/-! ### The closed forms -/

/-- The delays double from `first` to `longest`, and are never a tight loop. -/
structure Doubles (delays : ℕ → Duration) (first longest : Duration) : Prop where
  closed_form : ∀ n, delays n = min (first.saturatingMul (2 ^ n)) longest
  at_least : ∀ n, minReconnectionDelay ≤ delays n
  monotone : Monotone delays
  at_most : ∀ n, delays n ≤ longest

/-- A backoff with factor two doubles until its cap. -/
theorem Backoff.doubles {b : Backoff} (h_factor : b.factor = 2) (h_limit : b.limit = Duration.max)
    (h_first : minReconnectionDelay ≤ b.first) : Doubles b.delay b.first b.cap where
  closed_form n := by
    rw [b.delay_eq n, h_factor, h_limit]
    rfl
  at_least n := h_first.trans (b.first_le_delay n)
  monotone := b.delay_monotone
  at_most := b.delay_le_cap

/-- The delays after malformed events double. -/
theorem malformedEventDelays_doubles {cfg : BlokliClientConfig} (h : cfg.Representable) :
    Doubles (fun n => (malformedEventDelays cfg n).1) (firstMalformedEventDelay cfg)
      (maxMalformedEventDelay cfg) := by
  have h_delays : (fun n => (malformedEventDelays cfg n).1) = (malformedBackoff cfg h).delay := by
    ext n
    rw [malformedEventDelays_eq h]
  rw [h_delays]
  exact Backoff.doubles rfl rfl (le_max_right _ _)

/-- The delays before reconnects double. -/
theorem reconnectDelays_doubles {cfg : BlokliClientConfig} (h : cfg.Representable) :
    Doubles (reconnectDelays cfg) (firstReconnectDelay cfg) (maxReconnectDelay cfg) := by
  have h_delays : reconnectDelays cfg = (reconnectBackoff cfg h).delay := by
    ext n
    exact reconnectDelays_eq h n
  rw [h_delays]
  exact Backoff.doubles rfl rfl minReconnectionDelay_le_first

/-- Supervisor `t` called `next_malformed_event_delay` `n` times from `c₀` to `c`, without
a reset. -/
def MalformedCalls (hub : HubConfig) (t : Task) (c₀ : Config V) (n : ℕ) (c : Config V) : Prop :=
  Backoff.Consecutive (hubProgram hub).step (fun c => (c.store.locals t).malformedEventDelay)
    (MalformedCall t) c₀ n c

/-- Supervisor `t` left `n` resumable connections after errors from `c₀` to `c`, without a
reset. -/
def ReconnectCalls (hub : HubConfig) (t : Task) (c₀ : Config V) (n : ℕ) (c : Config V) : Prop :=
  Backoff.Consecutive (hubProgram hub).step (fun c => (c.store.locals t).reconnectDelay)
    (ReconnectCall t) c₀ n c

/-- **Both backoffs have a closed form.** The delays that `next_malformed_event_delay`
returns at consecutive calls, and the reconnect delays of a resumable connection, double
from their first value up to their bound. In every run of a hub, these are the delays of
its supervisors, counted from where a supervisor had no last delay. -/
theorem backoff_closed_form (h_cfg : hub.cfg.Representable) :
    Doubles (fun n => (malformedEventDelays hub.cfg n).1) (firstMalformedEventDelay hub.cfg)
        (maxMalformedEventDelay hub.cfg) ∧
      Doubles (reconnectDelays hub.cfg) (firstReconnectDelay hub.cfg) (maxReconnectDelay hub.cfg) ∧
      ∀ (t : Task) (c₀ c c' : Config V) (n : ℕ) (a : Action Task Choice (Request V))
        (delay : Duration), (hubProgram hub).step c a = some c' →
        ((c₀.store.locals t).malformedEventDelay = none → MalformedCalls hub t c₀ n c →
          MalformedCall t c a delay c' → delay = (malformedEventDelays hub.cfg n).1) ∧
        ((c₀.store.locals t).reconnectDelay = none → ReconnectCalls hub t c₀ n c →
          ReconnectCall t c a delay c' → delay = reconnectDelays hub.cfg n) := by
  refine ⟨malformedEventDelays_doubles h_cfg, reconnectDelays_doubles h_cfg, ?_⟩
  intro t c₀ c c' n a delay h_step
  constructor
  · intro h_last h_calls h_call
    rw [malformedEventDelays_eq h_cfg]
    exact h_calls.delay_eq (malformed_kept h_cfg t) h_last h_step h_call
  · intro h_last h_calls h_call
    rw [reconnectDelays_eq h_cfg]
    exact h_calls.delay_eq (reconnect_kept h_cfg t) h_last h_step h_call

/-- The connection of the first supervisor is open, and a frame is no response. -/
def malformedFrameArrives : List (Action Task Choice (Request ℕ)) :=
  registering 0 5 ++ opening ++
    [.run firstSupervisor (.next (some (.event none))), .run firstSupervisor .proceed]

/-- A configuration that asks for no delay at all. -/
def eagerConfig : BlokliClientConfig where
  streamReconnectTimeout := 0
  subscriptionStreamRestartDelay := some 0

/-- The theorem at a hub whose restart delay and timeout are both zero, and at the first
malformed event of the default one. -/
theorem backoff_closed_form_default :
    (∀ n, (malformedEventDelays eagerConfig n).1 = Duration.fromMillis 1) ∧
    ∃ (c c' : Config ℕ) (delay : Duration),
      (hubProgram sampleHub).Reachable (initialConfig ℕ) Program.anyStep c ∧
      MalformedCall firstSupervisor c (.run firstSupervisor .proceed) delay c' ∧
      delay = Duration.fromSecs 1 := by
  refine ⟨fun n => ?_, ?_⟩
  · -- its delays are below the least one that is ever waited
    -- the configured delays may be anything below the cap
    have h_cfg : eagerConfig.Representable :=
      ⟨Nat.zero_le _, fun delay h => by
        obtain rfl := Option.some.inj h
        exact Nat.zero_le _⟩
    have h_delays := @backoff_closed_form ℕ { sampleHub with cfg := eagerConfig } h_cfg |>.1
    exact le_antisymm (h_delays.at_most n) (h_delays.at_least n)
  · -- a malformed frame, and the first delay after it
    have h_run : ∃ c d rest, (hubProgram sampleHub).run (initialConfig ℕ) malformedFrameArrives =
        some c ∧ c.todo firstSupervisor = .malformedEvent d :: rest ∧
        (c.store.locals firstSupervisor).malformedEventDelay = none := ⟨_, _, _, rfl, rfl, rfl⟩
    obtain ⟨c, d, rest, h_run, h_todo, h_last⟩ := h_run
    have h_cfg : sampleHub.cfg.Representable :=
      ⟨by decide, fun delay h => by
        obtain rfl := Option.some.inj h
        decide⟩
    let c' := c.resume firstSupervisor rest (execMalformedEvent sampleHub firstSupervisor d c.store)
    have h_step : (hubProgram sampleHub).step c (.run firstSupervisor .proceed) = some c' :=
      Program.step_run h_todo rfl
    have h_call : MalformedCall firstSupervisor c (.run firstSupervisor .proceed)
        (nextMalformedEventDelay sampleHub.cfg
          (c.store.locals firstSupervisor).malformedEventDelay).1 c' :=
      .event .proceed d rest rfl h_todo (resume_todo_self ..)
    have h_delay := ((backoff_closed_form h_cfg).2.2 firstSupervisor c c c' 0 _ _ h_step).1 h_last
      .start h_call
    exact ⟨c, c', _, .run .init h_run, h_call, h_delay⟩

end Blokli
