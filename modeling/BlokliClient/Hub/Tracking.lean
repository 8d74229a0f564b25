import BlokliClient.Hub.Overflow
import BlokliClient.Hub.Payloads
import BlokliClient.Hub.Positions
import BlokliClient.Transactions

/-!
# Tracking a transaction

`track_transaction` subscribes to one transaction on a hub of its own, and waits for
the first update that says how the transaction ended, up to a deadline.

* `TrackingState.step` : the hub takes a step; if that step polls the stream, the future
  is polled with it, and may be over.
* `Attending` : a stream is polled before its receiver goes.
* `track_transaction_outcome` : the result is that of the first decisive update among
  those that the connection handed over, and nothing is missed on the way.
-/

namespace Blokli

open Worklist
open Testing (Transaction TransactionStatus)

/-! ### The future -/

/-- The status of a transaction that could not be tracked to its confirmation. -/
def TrackingErrorKind.status : TrackingErrorKind → TransactionStatus
  | .reverted => .reverted
  | .timeout => .timeout
  | .submissionFailed => .submissionFailed
  | .validationFailed => .validationFailed

/-- What `try_filter_map` does with an update: it is skipped, or it is the result. -/
def trackDecision (tx : Transaction) : Except TransactionError (Option Transaction) :=
  match tx.status with
  | .confirmed => .ok (some tx)
  | .pending | .submitted => .ok none
  | .reverted => .error (.trackingError .reverted)
  | .submissionFailed => .error (.trackingError .submissionFailed)
  | .timeout => .error (.trackingError .timeout)
  | .validationFailed => .error (.trackingError .validationFailed)
  -- a status of a newer Blokli may not be final
  | .unknown => .ok none

abbrev TrackingResult := Except TransactionError Transaction

/-- What an item of the stream makes of the future: `none` goes on. -/
def Item.decides (item : Item Transaction) : Option TrackingResult :=
  match item.event with
  | .data tx =>
    match trackDecision tx with
    | .ok none => none
    | .ok (some tx) => some (.ok tx)
    | .error error => some (.error error)
  | .error error => some (.error (.kind error))

/-- A success was decided by a confirmed transaction. -/
theorem decides_ok {item : Item Transaction} {tx : Transaction}
    (h : item.decides = some (.ok tx)) : item.event = .data tx ∧ tx.status = .confirmed := by
  obtain ⟨event, origin⟩ := item
  cases event with
  | error error => cases h
  | data tx' =>
    obtain ⟨txId, status, submittedAt, transactionHash, safeExecution⟩ := tx'
    cases status with
    | confirmed =>
      obtain rfl := Except.ok.inj (Option.some.inj h)
      exact ⟨rfl, rfl⟩
    | _ => cases h

/-- A failure was decided by a transaction with the status of the failure. -/
theorem decides_trackingError {item : Item Transaction} {kind : TrackingErrorKind}
    (h : item.decides = some (.error (.trackingError kind))) :
    ∃ tx, item.event = .data tx ∧ tx.status = kind.status := by
  obtain ⟨event, origin⟩ := item
  cases event with
  | error error => cases h
  | data tx =>
    obtain ⟨txId, status, submittedAt, transactionHash, safeExecution⟩ := tx
    cases status with
    | confirmed => cases h
    | pending => cases h
    | submitted => cases h
    | unknown => cases h
    | _ =>
      cases h
      exact ⟨_, rfl, rfl⟩

/-- The hub of a `track_transaction`, and what its future yielded. -/
structure TrackingState where
  config : Config Transaction
  result : Option TrackingResult

def TrackingState.initial : TrackingState where
  config := initialConfig Transaction
  result := none

section Polls

variable {V : Type}

def Instr.isReceive (id : SlotId) : Instr V → Bool
  | .receive id' => decide (id' = id)
  | _ => false

/-- The step polls the stream of slot `id`. -/
def polls (id : SlotId) (c : Config V) : Action Task Choice (Request V) → Bool
  | .run t _ => decide (t = .consumer id) && (c.todo t).head?.any (Instr.isReceive id)
  | .request _ => false

/-- The step is a poll of the stream. -/
theorem polls_iff {id : SlotId} {c : Config V} {a : Action Task Choice (Request V)} :
    polls id c a = true ↔ Runs c a (.consumer id) (.receive id) := by
  constructor
  · intro h
    cases a with
    -- only the step of the consumer of `id` is a poll, and only with a poll first
    | request r => cases h
    | run t ch =>
      obtain ⟨h_t, h_head⟩ := Bool.and_eq_true_iff.mp h
      obtain rfl := of_decide_eq_true h_t
      cases h_todo : c.todo (.consumer id) with
      | nil =>
        rw [h_todo] at h_head
        cases h_head
      | cons i rest =>
        rw [h_todo, List.head?_cons, Option.any_some] at h_head
        cases i with
        | receive id' =>
          obtain rfl := of_decide_eq_true h_head
          exact ⟨ch, rest, rfl, h_todo⟩
        | _ => cases h_head
  · rintro ⟨ch, rest, rfl, h_todo⟩
    refine Bool.and_eq_true_iff.mpr ⟨decide_eq_true rfl, ?_⟩
    rw [h_todo]
    exact decide_eq_true rfl

end Polls

/-- What a poll makes of the future: the stream comes first, then the deadline. -/
def pollOutcome (deadline : Instant) (id : SlotId) (c : Config Transaction) :
    Option TrackingResult :=
  match c.store.queues id with
  | item :: _ => item.decides
  | [] =>
    if senderHeld c id then
      if deadline ≤ c.store.clock then some (.error .timeout) else none
    else some (.error (.kind .noData))

/-- A step of the hub. A future that is over is not polled. -/
def TrackingState.step (hub : HubConfig) (deadline : Instant) (id : SlotId) (s : TrackingState)
    (a : Action Task Choice (Request Transaction)) : Option TrackingState :=
  match (hubProgram hub).step s.config a with
  | none => none
  | some c =>
    if polls id s.config a then
      match s.result with
      | some _ => none
      | none => some { config := c, result := pollOutcome deadline id s.config }
    else some { config := c, result := s.result }

/-- The states of a `track_transaction` whose stream is slot `id`. -/
inductive TrackingReachable (hub : HubConfig) (deadline : Instant) (id : SlotId) :
    TrackingState → Prop
  | init : TrackingReachable hub deadline id .initial
  | step {s s' : TrackingState} {a : Action Task Choice (Request Transaction)}
      (reached : TrackingReachable hub deadline id s)
      (fires : s.step hub deadline id a = some s') : TrackingReachable hub deadline id s'

/-- **The list is complete.** -/
theorem TrackingState.step_cases {hub : HubConfig} {deadline : Instant} {id : SlotId}
    {s s' : TrackingState} {a : Action Task Choice (Request Transaction)}
    (h : s.step hub deadline id a = some s') :
    (hubProgram hub).step s.config a = some s'.config ∧
      ((¬ Runs s.config a (.consumer id) (.receive id) ∧ s'.result = s.result) ∨
        (Runs s.config a (.consumer id) (.receive id) ∧ s.result = none ∧
          s'.result = pollOutcome deadline id s.config)) := by
  unfold TrackingState.step at h
  split at h
  · cases h
  · next c h_step =>
    split at h
    · next h_polls =>
      split at h
      · cases h
      · next h_none =>
        obtain rfl := Option.some.inj h
        exact ⟨h_step, Or.inr ⟨polls_iff.mp h_polls, h_none, rfl⟩⟩
    · next h_polls =>
      obtain rfl := Option.some.inj h
      exact ⟨h_step, Or.inl ⟨fun h_runs => h_polls (polls_iff.mpr h_runs), rfl⟩⟩

/-! ### Streams are polled before their receivers go -/

section Attending

variable {V : Type} {hub : HubConfig} {t : Task} {ch : Choice} {i : Instr V} {c c' : Config V}
  {e : Effect V} {a : Action Task Choice (Request V)} {id : SlotId}

/-- What a request does, as far as streams are concerned. -/
inductive Accepted (c : Config V) : Request V → Task → Effect V → Prop
  | registered (spec : SubscriptionSpec V) (created : Instant) (e : Effect V)
      (next : e.next = [.bumpGeneration, .ensureSupervisors, .receive c.store.state.nextId])
      (streaming : e.store.streaming =
        Function.update c.store.streaming c.store.state.nextId true) :
      Accepted c (.register spec created) (.consumer c.store.state.nextId) e
  | polled (id : SlotId) (live : c.store.streaming id = true) :
      Accepted c (.poll id) (.consumer id) { store := c.store, next := [.receive id] }
  | dropped (id : SlotId) (live : c.store.streaming id = true) :
      Accepted c (.drop id) (.consumer id)
        { store := { c.store with streaming := Function.update c.store.streaming id false }
          next := [.closeReceiver id, .deregister id] }
  | ticked (d : Duration) :
      Accepted c (.tick d) .environment
        { store := { c.store with clock := c.store.clock + d }, next := [] }

/-- **The list is complete.** -/
theorem accept_step {r : Request V} (h : accept r c = some (t, e)) : Accepted c r t e := by
  cases r with
  | register spec created =>
    simp only [accept] at h
    split at h
    · obtain ⟨rfl, rfl⟩ := Prod.mk.inj (Option.some.inj h)
      exact .registered spec created _ rfl rfl
    · cases h
  | poll id =>
    simp only [accept] at h
    split at h
    · next h_live =>
      obtain ⟨rfl, rfl⟩ := Prod.mk.inj (Option.some.inj h)
      exact .polled id h_live
    · cases h
  | drop id =>
    simp only [accept] at h
    split at h
    · next h_live =>
      obtain ⟨rfl, rfl⟩ := Prod.mk.inj (Option.some.inj h)
      exact .dropped id h_live
    · cases h
  | tick d =>
    obtain ⟨rfl, rfl⟩ := Prod.mk.inj (Option.some.inj h)
    exact .ticked d

/-- A stream is polled on until a poll ends it, or it is dropped. -/
theorem streaming_step (h : (hubProgram hub).step c a = some c')
    (h_live : c.store.streaming id = true) :
    c'.store.streaming id = true ∨ (∃ t, Runs c a t (.receive id)) ∨ a = .request (.drop id) := by
  rcases Program.step_cases h with ⟨t, ch, i, rest, e, rfl, h_todo, h_exec, rfl⟩ |
    ⟨r, t, e, rfl, h_acc, h_idle, rfl⟩
  · change exec hub t ch i c = some e at h_exec
    by_cases h_quiet : i.loud = false
    · -- a quiet instruction leaves the streams alone
      exact Or.inl ((congrFun (exec_quiet h_exec h_quiet).streaming id).trans h_live)
    · cases i with
      | receive id' =>
        -- the poll of this stream
        by_cases h_id : id = id'
        · subst h_id
          exact Or.inr (Or.inl ⟨t, ch, rest, rfl, h_todo⟩)
        -- of another one
        · refine Or.inl ?_
          cases execReceive_step (Option.some.inj h_exec) with
          | popped item items queue => exact h_live
          | pending queue held => exact h_live
          | ended queue free => exact (Function.update_of_ne h_id ..).trans h_live
      | _ =>
        refine Or.inl ?_
        first
          | exact absurd rfl h_quiet
          | (simp only [exec, execTrySend, execDeliver] at h_exec
             repeat' split at h_exec
             all_goals first
               | (cases h_exec; done)
               | (obtain rfl := Option.some.inj h_exec; exact h_live))
  · cases accept_step h_acc with
    | registered spec created _ next streaming =>
      refine Or.inl ?_
      rw [resume_store, streaming]
      -- a registered stream is a live one
      by_cases h_id : id = c.store.state.nextId
      · rw [h_id, Function.update_self]
      · rw [Function.update_of_ne h_id, h_live]
    | polled id' live => exact Or.inl h_live
    | dropped id' live =>
      -- the drop of this stream
      by_cases h_id : id = id'
      · exact Or.inr (Or.inr (by rw [h_id]))
      · exact Or.inl ((Function.update_of_ne h_id ..).trans h_live)
    | ticked d => exact Or.inl h_live

/-- A receiver is dropped by its own instruction. -/
theorem closed_origin (h : (hubProgram hub).step c a = some c')
    (h_closed' : c'.store.closed id = true) :
    c.store.closed id = true ∨ ∃ t, Runs c a t (.closeReceiver id) := by
  rcases Program.step_cases h with ⟨t, ch, i, rest, e, h_a, h_todo, h_exec, rfl⟩ |
    ⟨r, t, e, rfl, h_acc, -, rfl⟩
  · change exec hub t ch i c = some e at h_exec
    by_cases h_point : i.point = .closeReceiver
    · cases i with
      | closeReceiver id' =>
        obtain rfl := Option.some.inj h_exec
        by_cases h_id : id = id'
        · subst h_id
          exact Or.inr ⟨t, ch, rest, h_a, h_todo⟩
        · exact Or.inl ((Function.update_of_ne h_id ..).symm.trans h_closed')
      | _ => cases h_point
    · rw [resume_store, (exec_leavesAlone h_exec).closed h_point] at h_closed'
      exact Or.inl h_closed'
  · obtain ⟨-, -, -, -, -, -, -, -, -, h_same, -⟩ := accept_frame h_acc
    rw [resume_store, h_same] at h_closed'
    exact Or.inl h_closed'

/-- The receiver of the slot is gone, or about to go. -/
def Gone (c : Config V) (id : SlotId) : Prop :=
  c.store.closed id = true ∨ ∃ t, .closeReceiver id ∈ c.todo t

/-- **Attending.** A stream that is polled is not over, and one whose receiver goes is. -/
structure Attending (c : Config V) : Prop where
  polled : ∀ t id, .receive id ∈ c.todo t → c.store.streaming id = true
  gone : ∀ id, Gone c id → c.store.streaming id = false ∧ id < c.store.state.nextId

namespace Attending

/-- At the start nothing is polled. -/
theorem initial : Attending (initialConfig V) where
  polled _ _ h := absurd h List.not_mem_nil
  gone _ h := by
    rcases h with h | ⟨t, h⟩
    · cases h
    · exact absurd h List.not_mem_nil

/-- A receiver goes when a poll ended the stream, or when it is dropped. -/
theorem gone_step (h : (hubProgram hub).step c a = some c') (h_enrolled : Enrolled c)
    (h_own : Owned c) (h_gone : Gone c' id) :
    Gone c id ∨ (c'.store.streaming id = false ∧ id < c.store.state.nextId) := by
  -- whoever closed the receiver did it before, or in this step
  rcases h_gone with h_closed' | ⟨t, h_mem⟩
  · rcases closed_origin h h_closed' with h_closed | ⟨t, ch, rest, rfl, h_todo⟩
    · exact Or.inl (Or.inl h_closed)
    · exact Or.inl (Or.inr ⟨t, by rw [h_todo]; exact List.mem_cons_self⟩)
  rcases Program.step_cases h with ⟨t', ch, i, rest, e, rfl, h_todo, h_exec, rfl⟩ |
    ⟨r, t', e, rfl, h_acc, h_idle, rfl⟩
  · rcases mem_resume_todo c t' rest e h_mem with
      ⟨rfl, h_next | h_rest⟩ | ⟨-, ⟨is, h_sp, h_code⟩ | h_old⟩
    · -- only a poll that ends the stream leaves to drop the receiver
      right
      have h_point := exec_successors h_exec _ h_next
      cases i with
      | receive id' =>
        obtain rfl : t = .consumer id' :=
          h_own t (.receive id') (by rw [h_todo]; exact List.mem_cons_self)
        rw [resume_store]
        cases execReceive_step (Option.some.inj h_exec) with
        | popped item items queue =>
          rcases List.mem_append.mp h_next with h_next | h_next
          · cases h_event : item.event with
            | data value =>
              rw [h_event] at h_next
              cases List.mem_singleton.mp h_next
            | error error =>
              rw [h_event] at h_next
              exact absurd h_next List.not_mem_nil
          · cases List.mem_singleton.mp h_next
        | pending queue held => exact absurd h_next List.not_mem_nil
        | ended queue free =>
          obtain rfl : id = id' := by simpa using h_next
          exact ⟨Function.update_self ..,
            h_enrolled.working id (by rw [h_todo]; exact List.cons_ne_nil _ _)⟩
      | _ => exact absurd h_point (Point.not_mem rfl)
    · -- the rest of the list was there before
      exact Or.inl (Or.inr ⟨t, by rw [h_todo]; exact List.mem_cons_of_mem _ h_rest⟩)
    · obtain ⟨token, -, -, rfl⟩ := exec_spawned h_exec h_sp
      cases supervisorCode_owned token _ h_code
    · exact Or.inl (Or.inr ⟨t, h_old⟩)
  · -- of the requests only a drop leaves to close the receiver
    rcases mem_resume_todo c t' [] e h_mem with
      ⟨rfl, h_next | h_rest⟩ | ⟨-, ⟨is, h_sp, -⟩ | h_old⟩
    · cases accept_step h_acc with
      | registered spec created _ next streaming =>
        rw [next] at h_next
        simp at h_next
      | polled id' live => simp at h_next
      | dropped id' live =>
        obtain rfl : id = id' := by simpa using h_next
        exact Or.inr ⟨Function.update_self .., h_enrolled.streaming id live⟩
      | ticked d => exact absurd h_next List.not_mem_nil
    · exact absurd h_rest List.not_mem_nil
    · rw [(accept_frame h_acc).1] at h_sp
      cases h_sp
    · exact Or.inl (Or.inr ⟨t, h_old⟩)

/-- A stream that is over stays so: only a fresh one is registered. -/
theorem over_step (h : (hubProgram hub).step c a = some c')
    (h_over : c.store.streaming id = false) (h_id : id < c.store.state.nextId) :
    c'.store.streaming id = false := by
  refine Bool.eq_false_iff.mpr fun h_live => ?_
  rw [← Bool.not_eq_true] at h_over
  rcases Program.step_cases h with ⟨t, ch, i, rest, e, rfl, h_todo, h_exec, rfl⟩ |
    ⟨r, t, e, rfl, h_acc, h_idle, rfl⟩
  · exact h_over (exec_streaming h_exec h_live)
  · rcases accept_streaming h_acc h_live with h_old | ⟨spec, created, -, rfl⟩
    · exact h_over h_old
    · exact absurd h_id (Nat.lt_irrefl _)

/-- A poll that is pending, or begins, is about a stream that is not over. -/
theorem polled_step (h_inv : Attending c) (h_own : Owned c) (h_polled : Polled c)
    (h : (hubProgram hub).step c a = some c') :
    ∀ t id, .receive id ∈ c'.todo t → c'.store.streaming id = true := by
  intro t id h_mem
  rcases Program.step_cases h with ⟨t', ch, i, rest, e, rfl, h_todo, h_exec, rfl⟩ |
    ⟨r, t', e, rfl, h_acc, h_idle, rfl⟩
  · change exec hub t' ch i c = some e at h_exec
    -- a poll has nothing behind it, so whoever is polled later is not polled now
    have h_kept : .receive id ∈ c.todo t → (t = t' → .receive id ∈ rest) →
        (c.resume t' rest e).store.streaming id = true := by
      intro h_old h_rest
      rcases streaming_step h (h_inv.polled t id h_old) with h_live | ⟨t'', h_runs⟩ | h_eq
      · exact h_live
      · obtain ⟨rfl, rfl⟩ := h_runs.unique ⟨ch, rest, rfl, h_todo⟩
        have h_t : t = t' := (h_own t _ h_old).trans
          (h_own t' (.receive id) (by rw [h_todo]; exact List.mem_cons_self)).symm
        rw [h_polled.alone h_todo] at h_rest
        exact absurd (h_rest h_t) List.not_mem_nil
      · cases h_eq
    rcases mem_resume_todo c t' rest e h_mem with
      ⟨rfl, h_next | h_rest⟩ | ⟨h_ne, ⟨is, h_sp, h_code⟩ | h_old⟩
    · -- an instruction leaves no poll
      exact absurd h_next (receive_notMem_next h_exec id)
    · exact h_kept (by rw [h_todo]; exact List.mem_cons_of_mem _ h_rest) fun _ => h_rest
    · obtain ⟨token, -, -, rfl⟩ := exec_spawned h_exec h_sp
      cases supervisorCode_owned token _ h_code
    · exact h_kept h_old fun h_eq => absurd h_eq h_ne
  · rcases mem_resume_todo c t' [] e h_mem with
      ⟨rfl, h_next | h_rest⟩ | ⟨h_ne, ⟨is, h_sp, -⟩ | h_old⟩
    · -- a request does: the first poll of a stream, which is alive
      rw [resume_store]
      cases accept_step h_acc with
      | registered spec created _ next streaming =>
        rw [next] at h_next
        obtain rfl : id = c.store.state.nextId := by simpa using h_next
        rw [streaming, Function.update_self]
      | polled id' live =>
        obtain rfl : id = id' := by simpa using h_next
        exact live
      | dropped id' live => simp at h_next
      | ticked d => exact absurd h_next List.not_mem_nil
    · exact absurd h_rest List.not_mem_nil
    · rw [(accept_frame h_acc).1] at h_sp
      cases h_sp
    · rcases streaming_step h (h_inv.polled t id h_old) with h_live | ⟨t'', h_runs⟩ | h_eq
      · exact h_live
      · obtain ⟨ch, rest, h_eq, -⟩ := h_runs
        cases h_eq
      · -- the stream that is dropped is not being polled
        obtain rfl := Action.request.inj h_eq
        obtain rfl := h_own t _ h_old
        change accept (.drop id) c = some (t', e) at h_acc
        cases accept_step h_acc with
        | dropped _ live => exact absurd rfl h_ne

/-- One step keeps the consumer attending. -/
theorem step (h_inv : Attending c) (h_own : Owned c) (h_polled : Polled c)
    (h_enrolled : Enrolled c) (h : (hubProgram hub).step c a = some c') : Attending c' where
  polled := h_inv.polled_step h_own h_polled h
  gone := by
    intro id h_gone
    have h_le : c.store.state.nextId ≤ c'.store.state.nextId := nextId_le_step h
    rcases gone_step h h_enrolled h_own h_gone with h_old | ⟨h_over, h_id⟩
    · obtain ⟨h_over, h_id⟩ := h_inv.gone id h_old
      exact ⟨over_step h h_over h_id, Nat.lt_of_lt_of_le h_id h_le⟩
    · exact ⟨h_over, Nat.lt_of_lt_of_le h_id h_le⟩

/-- The invariants along a run of the hub. -/
theorem reachable {Allowed : Config V → Action Task Choice (Request V) → Prop}
    (h : (hubProgram hub).Reachable (initialConfig V) Allowed c) :
    Attending c ∧ Owned c ∧ Polled c :=
  h.induct (motive := fun c => Attending c ∧ Owned c ∧ Polled c)
    ⟨initial, Owned.initial, Polled.initial⟩ fun h_reach h_c _ h_step =>
      ⟨h_c.1.step h_c.2.1 h_c.2.2 (Enrolled.reachable h_reach) h_step, h_c.2.1.step h_step,
        h_c.2.2.step h_step⟩

/-- The receiver of a stream that is polled is there. -/
theorem listens (h_inv : Attending c) (h_poll : .receive id ∈ c.todo t) :
    c.store.closed id = false := by
  refine Bool.eq_false_iff.mpr fun h_closed => ?_
  have h_over := (h_inv.gone id (Or.inl h_closed)).1
  rw [h_inv.polled t id h_poll] at h_over
  cases h_over

end Attending

end Attending

/-! ### A hub of one's own loses nothing -/

section Dedicated

variable {V : Type} {hub : HubConfig} {c c' : Config V} {id : SlotId}

/-- Only the shared connection of the client drops items. -/
theorem undropped (h_dedicated : hub.dedicated = true)
    {Allowed : Config V → Action Task Choice (Request V) → Prop}
    (h : (hubProgram hub).Reachable (initialConfig V) Allowed c) (item : Item V) (scope : Scope)
    (waiting : ℕ) : .dropped id item scope waiting ∉ c.store.history := by
  induction h with
  -- nothing was dropped at the start
  | init => exact List.not_mem_nil
  | step reached _ fires ih =>
    intro h_mem
    rcases Program.step_cases fires with ⟨t, ch, i, rest, e, rfl, h_todo, h_exec, rfl⟩ |
      ⟨r, t, e, rfl, h_acc, -, rfl⟩
    · obtain ⟨new, h_new, h_sources⟩ := exec_history h_exec
      rw [resume_store, h_new] at h_mem
      rcases List.mem_append.mp h_mem with h_mem | h_mem
      · have h_point := h_sources _ h_mem
        cases i with
        -- what the hub drops it drops in `deliver`, but not with connections of their own
        | deliver scope' target item' =>
          cases execDeliver_step h_exec with
          | gone closed =>
            obtain rfl := new_eq_singleton h_new
            cases List.mem_singleton.mp h_mem
          | queued listens room =>
            obtain rfl := new_eq_singleton h_new
            cases List.mem_singleton.mp h_mem
          | dropped listens full drops shared =>
            rw [h_dedicated] at drops
            cases drops
        | _ => exact absurd h_point (Point.not_mem rfl)
      · -- an older event
        exact ih h_mem
    · rcases accept_history h_acc with h_same | ⟨spec, created, rfl, h_new⟩
      · rw [resume_store, h_same] at h_mem
        exact ih h_mem
      · rw [resume_store, h_new] at h_mem
        rcases List.mem_cons.mp h_mem with h_mem | h_mem
        · cases h_mem
        · exact ih h_mem

/-- Without drops, what is handed over is what is pushed. -/
theorem handed_eq_pushed {s : Store V}
    (h : ∀ item scope waiting, .dropped id item scope waiting ∉ s.history) :
    s.handed id = s.pushed id := by
  unfold Store.handed Store.traffic Store.pushed
  rw [List.filterMap_reverse, List.filterMap_filter]
  refine congrArg _ (List.filterMap_congr fun ev h_ev => ?_)
  cases ev with
  | queued id' item =>
    by_cases h_id : id' = id
    · simp [Event.takes, Event.taken, Event.pushedTo, h_id]
    · simp [Event.takes, Event.pushedTo, h_id]
  | dropped id' item scope waiting =>
    have h_id : id' ≠ id := fun h_id => h item scope waiting (h_id ▸ h_ev)
    simp [Event.takes, Event.pushedTo, h_id]
  | _ => rfl

end Dedicated

/-! ### Outcomes -/

section Outcome

variable {hub : HubConfig} {deadline : Instant} {id : SlotId} {s s' : TrackingState}

/-- Nothing of what the stream returned decides. -/
def Waiting (items : List (Item Transaction)) : Prop := ∀ item ∈ items, item.decides = none

/-- How the future came to its result, in the poll of configuration `c`: the first decisive
item of those that had been handed over is the result; if there is none, then all of them
were returned, and either the stream was over, or the deadline had passed. -/
inductive Resolution (deadline : Instant) (id : SlotId) (c : Config Transaction)
    (received : List (Item Transaction)) : TrackingResult → Prop
  | decided (result : TrackingResult) (before : List (Item Transaction)) (item : Item Transaction)
      (returned : received = before ++ [item]) (waiting : Waiting before)
      (decides : item.decides = some result) (handed : received <+: c.store.handed id)
      (first : (c.store.handed id).findSome? Item.decides = some result) :
      Resolution deadline id c received result
  | ended (handed : c.store.handed id = received) (waiting : Waiting received)
      (free : senderHeld c id = false) :
      Resolution deadline id c received (.error (.kind .noData))
  | expired (handed : c.store.handed id = received) (waiting : Waiting received)
      (held : senderHeld c id = true) (passed : deadline ≤ c.store.clock) :
      Resolution deadline id c received (.error .timeout)

/-- **Sound.** As long as there is no result, nothing that was returned decides; a result
came about in a poll, and nothing was returned since. -/
structure Tracked (hub : HubConfig) (deadline : Instant) (id : SlotId) (s : TrackingState) :
    Prop where
  reached : (hubProgram hub).Reachable (initialConfig Transaction) Program.anyStep s.config
  undecided : s.result = none → Waiting (s.config.store.received id)
  resolved : ∀ result, s.result = some result → ∃ c,
    (hubProgram hub).Reachable (initialConfig Transaction) Program.anyStep c ∧
    (hubProgram hub).Reachable c Program.anyStep s.config ∧
    Resolution deadline id c (s.config.store.received id) result

namespace Tracked

/-- At the start nothing was skipped. -/
theorem initial : Tracked hub deadline id .initial where
  reached := .init
  undecided _ _ h := absurd h List.not_mem_nil
  resolved _ h := by cases h

variable (deadline) in
/-- One poll. -/
theorem polled {c c' : Config Transaction} {a : Action Task Choice (Request Transaction)}
    (h_dedicated : hub.dedicated = true)
    (h : (hubProgram hub).Reachable (initialConfig Transaction) Program.anyStep c)
    (h_waiting : Waiting (c.store.received id)) (h_step : (hubProgram hub).step c a = some c')
    (h_runs : Runs c a (.consumer id) (.receive id)) :
    match pollOutcome deadline id c with
    | none => Waiting (c'.store.received id)
    | some result => Resolution deadline id c (c'.store.received id) result := by
  -- the stream is open, and all that was handed over was returned or waits
  have h_mem : .receive id ∈ c.todo (.consumer id) := by
    obtain ⟨ch, rest, -, h_todo⟩ := h_runs
    rw [h_todo]
    exact List.mem_cons_self
  have h_open : c.store.closed id = false := (Attending.reachable h).1.listens h_mem
  have h_handed : c.store.handed id = c.store.received id ++ c.store.queues id := by
    rw [handed_eq_pushed (undropped h_dedicated h), Fifo.reachable h id h_open]
  obtain ⟨ch, rest, e, rfl, h_todo, h_exec, rfl⟩ := h_runs.exec h_step
  rw [resume_store]
  unfold pollOutcome
  cases execReceive_step (Option.some.inj h_exec) with
  | popped item items queue =>
    -- what waits behind the item had been handed over as well
    have h_received : ({ c.store with queues := Function.update c.store.queues id items }.log
        (.received id item)).received id = c.store.received id ++ [item] := by
      rw [received_of_cons (s := c.store) rfl, receivedBy_eq_some.mpr rfl]
      rfl
    rw [queue] at h_handed ⊢
    rw [h_received]
    dsimp only
    cases h_item : item.decides with
    | none =>
      intro item' h_item'
      rcases List.mem_append.mp h_item' with h_item' | h_item'
      · exact h_waiting item' h_item'
      · rw [List.mem_singleton.mp h_item', h_item]
    -- the item that decides is the first of all that were handed over
    | some result =>
      have h_first : (c.store.handed id).findSome? Item.decides = some result := by
        rw [h_handed, List.findSome?_append, List.findSome?_eq_none_iff.mpr h_waiting,
          Option.none_or, List.findSome?_cons, h_item]
      refine .decided result (c.store.received id) item rfl h_waiting h_item ?_ h_first
      rw [h_handed]
      exact List.prefix_append_right_inj _ |>.mpr (List.prefix_append [item] items)
  | pending queue held =>
    -- nothing waits: the poll loses the race against the deadline, or goes on
    rw [queue, List.append_nil] at h_handed
    rw [queue]
    dsimp only
    rw [if_pos held]
    by_cases h_passed : deadline ≤ c.store.clock
    · rw [if_pos h_passed]
      exact .expired h_handed h_waiting held h_passed
    · rw [if_neg h_passed]
      exact h_waiting
  -- the end: nothing waits, and nobody holds a sender
  | ended queue free =>
    rw [queue, List.append_nil] at h_handed
    rw [queue]
    dsimp only
    rw [free]
    exact .ended h_handed h_waiting free

/-- One step keeps the call tracked. -/
theorem step {a : Action Task Choice (Request Transaction)} (h_inv : Tracked hub deadline id s)
    (h_dedicated : hub.dedicated = true) (h : s.step hub deadline id a = some s') :
    Tracked hub deadline id s' := by
  obtain ⟨h_step, h_cases⟩ := TrackingState.step_cases h
  have h_reached := Program.Reachable.step h_inv.reached trivial h_step
  -- the step is not a poll of the call
  rcases h_cases with ⟨h_not, h_result⟩ | ⟨h_runs, h_none, h_result⟩
  · -- nothing is returned
    have h_own : Owned s.config := (Attending.reachable h_inv.reached).2.1
    have h_received : s'.config.store.received id = s.config.store.received id := by
      cases traffic_step h_step id with
      | same queue pushed received => exact received
      | pushed t i item runs hands queue pushed received => exact received
      | cleared closed pushed received => exact received
      | popped t item runs queue pushed received =>
        have h_mem : .receive id ∈ s.config.todo t := by
          obtain ⟨ch, rest, -, h_todo⟩ := runs
          rw [h_todo]
          exact List.mem_cons_self
        obtain rfl := h_own t _ h_mem
        exact absurd runs h_not
    refine ⟨h_reached, fun h_none => ?_, fun result h_some => ?_⟩
    · rw [h_received]
      exact h_inv.undecided (h_result ▸ h_none)
    · -- the result stands, and so does the point where it was fixed
      obtain ⟨c, h_c, h_onward, h_resolved⟩ := h_inv.resolved result (h_result ▸ h_some)
      rw [h_received]
      exact ⟨c, h_c, .step h_onward trivial h_step, h_resolved⟩
  · -- the step is the poll that may return a result
    have h_poll := polled deadline h_dedicated h_inv.reached
      (h_inv.undecided h_none) h_step h_runs
    rw [← h_result] at h_poll
    refine ⟨h_reached, fun h_none' => ?_, fun result h_some => ?_⟩
    · rw [h_none'] at h_poll
      exact h_poll
    · rw [h_some] at h_poll
      exact ⟨s.config, h_inv.reached, .step .init trivial h_step, h_poll⟩

/-- The invariant along a run of the call. -/
theorem reachable (h_dedicated : hub.dedicated = true)
    (h : TrackingReachable hub deadline id s) : Tracked hub deadline id s := by
  induction h with
  | init => exact initial
  | step reached fires ih => exact ih.step h_dedicated fires

/-- What the stream returned is genuine. -/
theorem genuine (h_inv : Tracked hub deadline id s) {item : Item Transaction} {tx : Transaction}
    (h_item : item ∈ s.config.store.received id) (h_data : item.event = .data tx) :
    ∃ conn number, Genuine s.config.store id conn number tx := by
  have h_pushed := ((Returning.reachable h_inv.reached).returned id).mem h_item
  obtain ⟨conn, number, -, h_genuine⟩ :=
    (Carrying.reachable h_inv.reached).queued id item (mem_pushed.mp h_pushed) tx h_data
  exact ⟨conn, number, h_genuine⟩

end Tracked

/-- **Outcomes.** In every run of a `track_transaction`, the result is that of the first
decisive update among those that had been handed over when the poll took place; if none of
them was decisive, it had returned them all, and the stream was over or the deadline had
passed. Until then, nothing that was returned is decisive. A transaction that is returned is
confirmed, and Blokli sent it in a frame of a connection to this subscription; so it is with
the update behind a tracking error. -/
theorem track_transaction_outcome (h_dedicated : hub.dedicated = true)
    (h : TrackingReachable hub deadline id s) :
    (s.result = none → Waiting (s.config.store.received id)) ∧
    (∀ result, s.result = some result → ∃ c,
      (hubProgram hub).Reachable (initialConfig Transaction) Program.anyStep c ∧
      (hubProgram hub).Reachable c Program.anyStep s.config ∧
      Resolution deadline id c (s.config.store.received id) result) ∧
    (∀ tx, s.result = some (.ok tx) → tx.status = .confirmed ∧
      ∃ conn number, Genuine s.config.store id conn number tx) ∧
    ∀ kind, s.result = some (.error (.trackingError kind)) → ∃ tx conn number,
      tx.status = kind.status ∧ Genuine s.config.store id conn number tx := by
  have h_inv := Tracked.reachable h_dedicated h
  refine ⟨h_inv.undecided, h_inv.resolved, fun tx h_result => ?_, fun kind h_result => ?_⟩
  · obtain ⟨c, -, -, h_resolution⟩ := h_inv.resolved _ h_result
    cases h_resolution with
    | decided result before item returned waiting decides handed first =>
      obtain ⟨h_data, h_status⟩ := decides_ok decides
      have h_item : item ∈ s.config.store.received id := by
        rw [returned]
        exact List.mem_append_right _ List.mem_cons_self
      exact ⟨h_status, h_inv.genuine h_item h_data⟩
  -- a failure of the tracking comes from a decisive status as well
  · obtain ⟨c, -, -, h_resolution⟩ := h_inv.resolved _ h_result
    cases h_resolution with
    | decided result before item returned waiting decides handed first =>
      obtain ⟨tx, h_data, h_status⟩ := decides_trackingError decides
      have h_item : item ∈ s.config.store.received id := by
        rw [returned]
        exact List.mem_append_right _ List.mem_cons_self
      obtain ⟨conn, number, h_genuine⟩ := h_inv.genuine h_item h_data
      exact ⟨tx, conn, number, h_status, h_genuine⟩

end Outcome

/-! ### A transaction to track -/

def TrackingState.run (hub : HubConfig) (deadline : Instant) (id : SlotId) (s : TrackingState) :
    List (Action Task Choice (Request Transaction)) → Option TrackingState
  | [] => some s
  | a :: as => (s.step hub deadline id a).bind fun s => s.run hub deadline id as

/-- An execution is a run. -/
theorem TrackingReachable.run {hub : HubConfig} {deadline : Instant} {id : SlotId}
    {s s' : TrackingState} {as : List (Action Task Choice (Request Transaction))}
    (h : TrackingReachable hub deadline id s) (h_run : s.run hub deadline id as = some s') :
    TrackingReachable hub deadline id s' := by
  induction as generalizing s with
  | nil =>
    obtain rfl := Option.some.inj h_run
    exact h
  | cons a as ih =>
    obtain ⟨s₁, h_step, h_rest⟩ := Option.bind_eq_some_iff.mp h_run
    exact ih (.step h h_step) h_rest

def sampleTransaction (status : TransactionStatus) : Transaction where
  id := "a1".toList
  status := status
  submittedAt := "2026-01-01T00:00:00Z".toList
  transactionHash := "0xab".toList
  safeExecution := none

/-- Updates to the sample transaction, which is confirmed from 1 on. -/
def trackingSpec : SubscriptionSpec Transaction where
  document := sampleSpec.document
  queryVariables := sampleSpec.queryVariables
  decode
    | .object [(_, .number n _)] =>
      some (sampleTransaction (if n = 0 then .submitted else .confirmed))
    | _ => none
  resume := none

def trackingHub : HubConfig := { sampleHub with dedicated := true }

/-- The supervisor dispatches a frame, and the stream is polled. -/
def tracked (n : ℕ) : List (Action Task Choice (Request Transaction)) :=
  .run firstSupervisor (.next (some (.event (some (sampleFrame n))))) ::
    List.replicate 9 (.run firstSupervisor .proceed) ++
    [.request (.poll 0)] ++ List.replicate 4 (.run (.consumer 0) .proceed)

/-- The theorem at a transaction that is submitted, and then confirmed. -/
theorem track_transaction_outcome_confirmed : ∃ s,
    TrackingReachable trackingHub (Duration.fromSecs 60) 0 s ∧
      s.result = some (.ok (sampleTransaction .confirmed)) ∧
      s.config.store.received 0 = [
        { event := .data (sampleTransaction .submitted), origin := .frame 0 0 },
        { event := .data (sampleTransaction .confirmed), origin := .frame 0 1 }] ∧
      ∃ conn number, Genuine s.config.store 0 conn number (sampleTransaction .confirmed) := by
  have h_run : ∃ s, TrackingState.initial.run trackingHub (Duration.fromSecs 60) 0
      (.request (.register trackingSpec 0) :: List.replicate 5 (.run (.consumer 0) .proceed) ++
        List.replicate 6 (.run firstSupervisor .proceed) ++ tracked 0 ++ tracked 1) = some s ∧
      s.result = some (.ok (sampleTransaction .confirmed)) ∧
      s.config.store.received 0 = [
        { event := .data (sampleTransaction .submitted), origin := .frame 0 0 },
        { event := .data (sampleTransaction .confirmed), origin := .frame 0 1 }] :=
    ⟨_, rfl, rfl, rfl⟩
  obtain ⟨s, h_run, h_result, h_received⟩ := h_run
  have h_reach := TrackingReachable.init.run h_run
  exact ⟨s, h_reach, h_result, h_received,
    ((track_transaction_outcome rfl h_reach).2.2.1 _ h_result).2⟩

end Blokli
