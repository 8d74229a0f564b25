import BlokliClient.Hub.Flow

/-!
# Who writes the locals of a task

Besides what the tasks share, each of them keeps the version of the watch channel that it
saw last and its two delays. Only the task itself writes them, and the task that starts it.

* `LocalsStep` : what one instruction makes of them, with what it knows when it does.
* `exec_locals` : an instruction leaves the locals as `LocalsStep` says, or those of a new
  supervisor are set.
* `exec_locals_seen` : the version that a task saw last, for the proofs about notification.
-/

namespace Blokli

open Worklist

variable {V : Type} {hub : HubConfig} {t t' : Task} {ch : Choice} {i : Instr V} {c : Config V}
  {e : Effect V}

/-- **What an instruction makes of the locals of its task.** -/
inductive LocalsStep (hub : HubConfig) (ch : Choice) (c : Config V) (l : Locals) :
    Instr V → Locals → Prop
  | kept (i : Instr V) : LocalsStep hub ch c l i l
  | seen (i : Instr V) (wait : i.point ∈ [.waitReconnect, .awaitChange, .select])
      (choice : ch = .changed) : LocalsStep hub ch c l i { l with seen := c.store.version }
  | moved (id : SlotId) (cause : IsolationCause)
      (reason : ((c.store.state.slots id).bind fun e => e.isolated.map Isolation.cause) =
        some cause) :
      LocalsStep hub ch c l (.readCause id)
        { l with malformedEventDelay := (isolatedDelay hub cause l.malformedEventDelay).2 }
  | malformed (d : Driving V) :
      LocalsStep hub ch c l (.malformedEvent d)
        { l with malformedEventDelay := (nextMalformedEventDelay hub.cfg l.malformedEventDelay).2 }
  | decoded (i : Instr V) : LocalsStep hub ch c l i { l with malformedEventDelay := none }
  | handled (i : Instr V) : LocalsStep hub ch c l i { l with reconnectDelay := none }
  | answered (i : Instr V) :
      LocalsStep hub ch c l i { l with malformedEventDelay := none, reconnectDelay := none }
  | streamError (d : Driving V) (stall : Option Instant) (error : SseError)
      (choice : ch = .next (some (.error error))) (retried : rejectionOf error = none)
      (resumable : d.connection.resumable = true) :
      LocalsStep hub ch c l (.select d stall)
        { l with reconnectDelay := some (nextReconnectDelay hub.cfg l.reconnectDelay) }

/-- The locals of task `t` after an instruction, and those of the other tasks. -/
def LocalsAfter (hub : HubConfig) (t : Task) (ch : Choice) (c : Config V) (i : Instr V)
    (locals : Task → Locals) : Prop :=
  ∃ l, LocalsStep hub ch c (c.store.locals t) i l ∧ locals = Function.update c.store.locals t l

/-- An instruction that leaves the local variables alone. -/
theorem localsAfter_same : LocalsAfter hub t ch c i c.store.locals :=
  ⟨_, .kept i, (Function.update_eq_self ..).symm⟩

/-- The local variables of the task itself. -/
theorem modifyLocals_self (s : Store V) (t : Task) (f : Locals → Locals) :
    (s.modifyLocals t f).locals t = f (s.locals t) := Function.update_self ..

/-- Two changes in a row are one. -/
theorem modifyLocals_modifyLocals (s : Store V) (t : Task) (f g : Locals → Locals) :
    ((s.modifyLocals t f).modifyLocals t g).locals =
      Function.update s.locals t (g (f (s.locals t))) := by
  unfold Store.modifyLocals
  dsimp only
  rw [Function.update_self, Function.update_idem]

/-- What an item of the stream does to the backoffs. -/
theorem execNext_locals (d : Driving V) (stall : Option Instant) (item : Option SseItem) :
    LocalsAfter hub t (.next item) c (.select d stall)
      (execNext hub t d item c.store).store.locals := by
  unfold execNext
  split
  · unfold execEvent
    split <;> exact localsAfter_same
  · exact ⟨_, .handled _, rfl⟩
  · exact localsAfter_same
  · next error =>
    unfold execStreamError
    split
    · exact localsAfter_same
    · next h_retried =>
      dsimp only
      split
      · next h_resumable => exact ⟨_, .streamError d stall error rfl h_retried h_resumable, rfl⟩
      · exact localsAfter_same
  · split <;> exact localsAfter_same

/-- What the end of `dispatch` does to the backoffs. -/
theorem execDocument_locals (d : Dispatching V) :
    LocalsAfter hub t ch c (.dispatchDocument d) (execDocument hub t d c.store).store.locals := by
  unfold execDocument
  dsimp only
  split
  · exact localsAfter_same
  · split
    · exact localsAfter_same
    · by_cases h_decoded : d.decodedAny = true
      · rw [if_pos h_decoded]
        split
        · exact ⟨_, .decoded _, rfl⟩
        · exact ⟨_, .answered _, modifyLocals_modifyLocals ..⟩
      · rw [if_neg h_decoded]
        split
        · exact localsAfter_same
        · exact ⟨_, .handled _, rfl⟩

/-- **Who writes locals.** A task its own, and those of the supervisor that it starts. -/
theorem exec_locals (h : exec hub t ch i c = some e) :
    LocalsAfter hub t ch c i e.store.locals ∨
    ∃ token, i = .spawnSupervisor token ∧ e.store.locals =
      Function.update c.store.locals (.supervisor token)
        { seen := c.store.version, malformedEventDelay := none, reconnectDelay := none } := by
  cases i with
  -- a supervisor starts with what the channel holds
  | spawnSupervisor token =>
    obtain rfl := Option.some.inj h
    exact Or.inr ⟨token, rfl, rfl⟩
  -- the cause of an isolation may ask for a delay
  | readCause id =>
    obtain rfl := Option.some.inj h
    left
    unfold execReadCause
    split
    · exact localsAfter_same
    · next cause h_cause => exact ⟨_, .moved id cause h_cause, rfl⟩
  -- a wait ends by its deadline or because the channel moved
  | waitReconnect scope deadline connected =>
    left
    simp only [exec] at h
    repeat' split at h
    all_goals first
      | (cases h; done)
      | obtain rfl := Option.some.inj h
    · exact localsAfter_same
    · exact ⟨_, .seen _ (List.mem_of_elem_eq_true rfl) rfl, rfl⟩
  | awaitChange scope waitUntil deadline slots =>
    left
    simp only [exec] at h
    repeat' split at h
    all_goals first
      | (cases h; done)
      | obtain rfl := Option.some.inj h
    · exact localsAfter_same
    · exact ⟨_, .seen _ (List.mem_of_elem_eq_true rfl) rfl, rfl⟩
  -- a change, the stall deadline, or an item of the stream
  | select d stall =>
    left
    simp only [exec] at h
    repeat' split at h
    all_goals first
      | (cases h; done)
      | obtain rfl := Option.some.inj h
    · exact ⟨_, .seen _ (List.mem_of_elem_eq_true rfl) rfl, rfl⟩
    · exact localsAfter_same
    · exact execNext_locals d stall _
  -- a document that is served resets the delays
  | dispatchDocument d =>
    obtain rfl := Option.some.inj h
    exact Or.inl (execDocument_locals d)
  -- a malformed event takes the next delay
  | malformedEvent d =>
    obtain rfl := Option.some.inj h
    exact Or.inl ⟨_, .malformed d, rfl⟩
  | _ =>
    left
    simp only [exec, execBuild, execTrySend, execOpenStream, execLeaveDrive, execReject,
      execDeliver, execReceive] at h
    repeat' split at h
    all_goals first
      | (cases h; done)
      | (obtain rfl := Option.some.inj h; exact localsAfter_same)

/-- The locals of one task: they stay, or are those of a new supervisor, or the task wrote
them. -/
theorem exec_locals_of (h : exec hub t ch i c = some e) (t' : Task) :
    e.store.locals t' = c.store.locals t' ∨
    ((e.store.locals t').malformedEventDelay = none ∧ (e.store.locals t').reconnectDelay = none) ∨
    (t' = t ∧ LocalsStep hub ch c (c.store.locals t') i (e.store.locals t')) := by
  rcases exec_locals h with ⟨l, h_step, h_locals⟩ | ⟨token, -, h_locals⟩
  · rw [h_locals]
    by_cases h_t : t' = t
    · subst h_t
      rw [Function.update_self]
      exact Or.inr (Or.inr ⟨rfl, h_step⟩)
    · exact Or.inl (Function.update_of_ne h_t ..)
  · rw [h_locals]
    by_cases h_t : t' = .supervisor token
    · subst h_t
      rw [Function.update_self]
      exact Or.inr (Or.inl ⟨rfl, rfl⟩)
    · exact Or.inl (Function.update_of_ne h_t ..)

/-- The version that a task saw last moves when it waits for a change, and when it starts. -/
theorem exec_locals_seen (h : exec hub t ch i c = some e) (t' : Task) :
    (e.store.locals t').seen = (c.store.locals t').seen ∨
    (e.store.locals t').seen = c.store.version ∧
      ((t' = t ∧ ch = .changed ∧ i.point ∈ [.waitReconnect, .awaitChange, .select]) ∨
        ∃ token, i = .spawnSupervisor token ∧ t' = .supervisor token) := by
  rcases exec_locals h with ⟨l, h_step, h_locals⟩ | ⟨token, rfl, h_locals⟩
  · rw [h_locals]
    by_cases h_t : t' = t
    · subst h_t
      rw [Function.update_self]
      cases h_step with
      | seen i wait choice => exact Or.inr ⟨rfl, Or.inl ⟨rfl, choice, wait⟩⟩
      | _ => exact Or.inl rfl
    · exact Or.inl (congrArg Locals.seen (Function.update_of_ne h_t ..))
  · rw [h_locals]
    by_cases h_t : t' = .supervisor token
    · subst h_t
      rw [Function.update_self]
      exact Or.inr ⟨rfl, Or.inr ⟨token, rfl, rfl⟩⟩
    · exact Or.inl (congrArg Locals.seen (Function.update_of_ne h_t ..))

end Blokli
