import BlokliClient.Hub.Overflow
import BlokliClient.Hub.Supervision

/-!
# The lag flag

A connection that finds a queue full drops the item in one step and raises the
lag flag in another. The consumer looks at the flag only after it popped an
item, and only when the queue is empty then: it pops, checks the queue, takes
the flag down and asks for a resync, in four steps.

`Flagged` says who remembers a drop. It is kept by every step but one: when the
consumer drained the queue and found the flag down between the two steps of the
connection, the flag is raised over an empty queue and nobody looks at it.
-/

namespace Blokli

open Worklist

variable {V : Type} {hub : HubConfig} {t : Task} {ch : Choice} {i : Instr V} {c c' : Config V}
  {e : Effect V} {a : Action Task Choice (Request V)}

/-- The event is a resync request of the slot. -/
def Event.requestsResync (id : SlotId) : Event V → Bool
  | .resyncRequested id' => id' == id
  | _ => false

/-- An item was dropped since the last resync request of the slot. -/
def Missed (c : Config V) (id : SlotId) : Prop :=
  ∃ item scope waiting,
    .dropped id item scope waiting ∈ since (Event.requestsResync id) c.store.history

/-- The consumer of the slot popped an item and has not looked at the flag yet. -/
def Looking (c : Config V) (id : SlotId) : Prop :=
  .checkDrained id ∈ c.todo (.consumer id) ∨ .swapDrained id ∈ c.todo (.consumer id)

/-- The consumer of the slot took the flag down and is about to ask for a resync. -/
def Requesting (c : Config V) (id : SlotId) : Prop :=
  .requestResync id ∈ c.todo (.consumer id)

/-- A connection dropped an item of the slot and has not raised the flag yet. -/
def Raising (c : Config V) (id : SlotId) : Prop := ∃ t scope, .swapLagging scope id ∈ c.todo t

/-- **Flagged.** Who remembers a drop: the connection, which is about to raise
the flag; the flag, when the consumer is going to look at it; or the consumer,
which is about to ask for a resync. -/
def Flagged (c : Config V) (id : SlotId) : Prop :=
  Raising c id ∨ (c.store.lagging id = true ∧ (c.store.queues id ≠ [] ∨ Looking c id)) ∨
    Requesting c id

/-- When a connection raises the flag for a drop, the queue is not empty, or the
consumer is between its pop and its request. -/
def RaisedInTime (c : Config V) (a : Action Task Choice (Request V)) : Prop :=
  ∀ t scope id, Runs c a t (.swapLagging scope id) → c.store.closed id = false → Missed c id →
    c.store.queues id ≠ [] ∨ Looking c id ∨ Requesting c id

/-- The flag is looked at: the consumer goes on until it knows whether the queue is empty. -/
theorem Looking.step {id : SlotId} (h_look : Looking c id) (h_sound : Sound c)
    (h : (hubProgram hub).step c a = some c') :
    Looking c' id ∨ (∃ t, Runs c a t (.swapDrained id)) ∨ c'.store.queues id ≠ [] := by
  rcases h_look with h_mem | h_mem
  · rcases h_sound.tokens.keep h h_mem with h_mem | ⟨ch, rest, ha, h_todo⟩
    · exact Or.inl (Or.inl h_mem)
    -- the look at the queue: it is empty or not
    · obtain ⟨ch', rest', e, -, -, he, rfl⟩ := Runs.exec ⟨ch, rest, ha, h_todo⟩ h
      obtain rfl := Option.some.inj he
      cases h_queue : c.store.queues id with
      | nil =>
        refine Or.inl (Or.inr ?_)
        rw [resume_todo_self]
        exact List.mem_cons_self
      | cons item items =>
        refine Or.inr (Or.inr ?_)
        rw [resume_store, h_queue]
        exact List.cons_ne_nil _ _
  · rcases h_sound.tokens.keep h h_mem with h_mem | ⟨ch, rest, ha, h_todo⟩
    · exact Or.inl (Or.inr h_mem)
    · exact Or.inr (Or.inl ⟨.consumer id, ch, rest, ha, h_todo⟩)

/-- What pops an item looks at the flag afterwards. -/
theorem looking_of_popped {id : SlotId} {item : Item V} (h_sound : Sound c)
    (h : (hubProgram hub).step c a = some c') (h_runs : Runs c a t (.receive id))
    (h_queue : c.store.queues id = item :: c'.store.queues id) : Looking c' id := by
  obtain ⟨ch, rest, e, rfl, h_todo, he, rfl⟩ := h_runs.exec h
  obtain rfl : t = .consumer id :=
    h_sound.owned t (.receive id) (by rw [h_todo]; exact List.mem_cons_self)
  obtain rfl := Option.some.inj he
  left
  rw [resume_todo_self, execReceive_popped h_queue]
  exact List.mem_append_left _ (List.mem_append_right _ List.mem_cons_self)

/-- A flag that is up and going to be looked at stays so, or leads to a request. -/
theorem flagged_of_flag {id : SlotId} (h_sound : Sound c)
    (h : (hubProgram hub).step c a = some c') (h_closed : c'.store.closed id = false)
    (h_flag : c.store.lagging id = true) (h_seen : c.store.queues id ≠ [] ∨ Looking c id) :
    Flagged c' id := by
  by_cases h_drained : ∃ t, Runs c a t (.swapDrained id)
  · -- the consumer takes the flag down and asks
    obtain ⟨t, h_runs⟩ := h_drained
    obtain ⟨ch, rest, e, rfl, h_todo, he, rfl⟩ := h_runs.exec h
    obtain rfl : t = .consumer id :=
      h_sound.owned t (.swapDrained id) (by rw [h_todo]; exact List.mem_cons_self)
    obtain rfl := Option.some.inj he
    refine Or.inr (Or.inr ?_)
    rw [Requesting, resume_todo_self, h_flag]
    exact List.mem_cons_self
  · have h_flag' : c'.store.lagging id = true := by
      cases lag_step h id with
      | same flag => exact flag.trans h_flag
      | raised t scope runs flag => exact flag
      | lowered t runs flag request => exact absurd ⟨t, runs⟩ h_drained
    refine Or.inr (Or.inl ⟨h_flag', ?_⟩)
    -- the queue holds something, or its consumer is about to look
    rcases h_seen with h_queue | h_look
    · cases queue_step h id with
      | same queue => exact Or.inl (by rw [queue]; exact h_queue)
      | pushed t i item runs hands listens room queue history =>
        exact Or.inl (by
          rw [queue]; exact List.append_ne_nil_of_right_ne_nil _ (List.cons_ne_nil _ _))
      | popped t item runs queue history => exact Or.inr (looking_of_popped h_sound h runs queue)
      -- the receiver is open
      | cleared t runs queue closed =>
        rw [closed] at h_closed
        cases h_closed
    · rcases h_look.step h_sound h with h_look | h_runs | h_queue
      · exact Or.inr h_look
      · exact absurd h_runs h_drained
      · exact Or.inl h_queue

/-- **A drop is remembered**, unless the flag is raised too late. -/
theorem flagged_step {id : SlotId} (h_inv : c.store.closed id = false → Missed c id → Flagged c id)
    (h_sound : Sound c) (h_allowed : RaisedInTime c a) (h : (hubProgram hub).step c a = some c')
    (h_closed : c'.store.closed id = false) (h_missed : Missed c' id) : Flagged c' id := by
  have h_open := closed_step h h_closed
  obtain ⟨item, scope, waiting, h_ev⟩ := h_missed
  -- the drop is older, or made in this step
  rcases dropped_step h h_ev with h_old | ⟨t, target, -, -, -, -, -, -, h_swap⟩
  · rcases h_inv h_open ⟨item, scope, waiting, h_old⟩ with ⟨t, scope', h_swap⟩ | ⟨h_flag, h_seen⟩ |
      h_req
    · rcases h_sound.tokens.keep h h_swap with h_swap | ⟨ch, rest, ha, h_todo⟩
      · exact Or.inl ⟨t, scope', h_swap⟩
      · -- the flag goes up
        have h_runs : Runs c a t (.swapLagging scope' id) := ⟨ch, rest, ha, h_todo⟩
        have h_raised := h_allowed t scope' id h_runs h_open ⟨item, scope, waiting, h_old⟩
        obtain ⟨ch', rest', e, -, -, he, rfl⟩ := h_runs.exec h
        obtain rfl := Option.some.inj he
        have h_keep : ∀ j, j ∈ c.todo (.consumer id) → j.point ≠ .swapLagging →
            j ∈ (c.resume t rest' _).todo (.consumer id) := fun j hj h_j =>
          (h_sound.tokens.keep h hj).resolve_right fun ⟨_, _, ha', h_todo'⟩ => by
            cases (h_runs.unique ⟨_, _, ha', h_todo'⟩).2
            exact h_j rfl
        rcases h_raised with h_queue | h_look | h_req
        · exact Or.inr (Or.inl ⟨Function.update_self .., Or.inl h_queue⟩)
        · refine Or.inr (Or.inl ⟨Function.update_self .., Or.inr ?_⟩)
          exact h_look.imp (fun h_mem => h_keep _ h_mem Point.noConfusion)
            fun h_mem => h_keep _ h_mem Point.noConfusion
        · exact Or.inr (Or.inr (h_keep _ h_req Point.noConfusion))
    · exact flagged_of_flag h_sound h h_closed h_flag h_seen
    · rcases h_sound.tokens.keep h h_req with h_req | ⟨ch, rest, ha, h_todo⟩
      · exact Or.inr (Or.inr h_req)
      · -- the request forgives the drops before it
        exfalso
        obtain ⟨ch', rest', e, -, -, he, rfl⟩ := Runs.exec ⟨ch, rest, ha, h_todo⟩ h
        simp only [exec] at he
        split at he
        all_goals
          obtain rfl := Option.some.inj he
          change _ ∈ since _ (.resyncRequested id :: c.store.history) at h_ev
          rw [since_cons_stop (beq_self_eq_true id)] at h_ev
          exact List.not_mem_nil h_ev
  · -- a drop of this step stands in front of the flag
    exact Or.inl ⟨t, scope, h_swap⟩

/-- **No lost lag wake-up**, in a run in which every flag is raised in time: as
long as the receiver is there and neither the connection nor the consumer is in
the middle of its steps, a drop that no resync request followed has left the
flag up and the queue non-empty, so that a later pop will see it. -/
theorem no_lost_lag_wakeup
    (h : (hubProgram hub).Reachable (initialConfig V) RaisedInTime c) {id : SlotId}
    (h_open : c.store.closed id = false) (h_connection : ¬ Raising c id)
    (h_consumer : ¬ Looking c id ∧ ¬ Requesting c id) (h_missed : Missed c id) :
    c.store.lagging id = true ∧ c.store.queues id ≠ [] := by
  have h_flagged : ∀ id, c.store.closed id = false → Missed c id → Flagged c id :=
    h.induct (motive := fun c => ∀ id, c.store.closed id = false → Missed c id → Flagged c id)
      (fun _ _ ⟨_, _, _, h_ev⟩ => absurd h_ev List.not_mem_nil)
      fun h_reach h_inv h_allowed h_step id h_closed h_missed =>
        flagged_step (h_inv id) (Sound.reachable h_reach) h_allowed h_step h_closed h_missed
  rcases h_flagged id h_open h_missed with h_raising | ⟨h_flag, h_queue | h_look⟩ | h_req
  · exact absurd h_raising h_connection
  · exact ⟨h_flag, h_queue⟩
  · exact absurd h_look h_consumer.1
  · exact absurd h_req h_consumer.2

/-! ### A queue that overflows -/

theorem raisedInTime_of_point {points : List Point} (h_points : .swapLagging ∈ points)
    (h : ∀ t i, Runs c a t i → i.point ∉ points) : RaisedInTime c a :=
  fun _ _ _ h_runs => absurd h_points (h _ _ h_runs)

theorem lenient_raisedInTime : Lenient (RaisedInTime (V := V)) :=
  .of_points [.swapLagging] (by decide) fun _ _ h => raisedInTime_of_point List.mem_cons_self h

/-- A drop that is the latest event was missed. -/
theorem missed_of_head {id : SlotId} {item : Item V} {scope : Scope} {waiting : ℕ}
    (h : c.store.history.head? = some (.dropped id item scope waiting)) : Missed c id := by
  obtain ⟨history, h_history⟩ := List.head?_eq_some_iff.mp h
  refine ⟨item, scope, waiting, ?_⟩
  rw [h_history, since_cons rfl]
  exact List.mem_cons_self

/-- What was missed stays so while the traffic goes on. -/
theorem Missed.advances {Allowed : Config V → Action Task Choice (Request V) → Prop} {id : SlotId}
    (h : Missed c id) (h_adv : Advances hub Allowed t c c') : Missed c' id := by
  obtain ⟨item, scope, waiting, h_ev⟩ := h
  obtain ⟨new, h_new, h_traffic⟩ := h_adv.history
  refine ⟨item, scope, waiting, ?_⟩
  have h_silent : ∀ ev ∈ new, ev.requestsResync id = false := fun ev h_mem => by
    obtain ⟨p, h_p, h_source⟩ := h_traffic ev h_mem
    cases ev with
    | resyncRequested id' =>
      obtain rfl := List.mem_singleton.mp h_source
      cases h_p
    | _ => rfl
  rw [h_new, since_append h_silent]
  exact List.mem_append_right _ h_ev

/-- A connection at rest with the consumer is in the middle of nothing. -/
theorem AtRest.settled {id : SlotId} (h : AtRest c) :
    ¬ Raising c id ∧ ¬ Looking c id ∧ ¬ Requesting c id :=
  ⟨fun ⟨t, _, h_mem⟩ => h.not_mem rfl t h_mem, fun h_look => h_look.elim
    (fun h_mem => h.not_mem rfl _ h_mem) fun h_mem => h.not_mem rfl _ h_mem,
    fun h_mem => h.not_mem rfl _ h_mem⟩

/-- The theorem at a queue that overflowed and is not polled yet. -/
theorem no_lost_lag_wakeup_full : ∃ c : Config ℕ,
    (hubProgram sampleHub).Reachable (initialConfig ℕ) RaisedInTime c ∧ Missed c 0 ∧
      c.store.lagging 0 = true ∧ c.store.queues 0 ≠ [] := by
  -- overrun the queue of the sample hub, with the flag still to be raised
  obtain ⟨c₀, d, target, stall, rest, h_reach, h_attached, h_id, h_carries, h_rest, -⟩ :=
    sample_attached RaisedInTime fun c a _ h => raisedInTime_of_point
      List.mem_cons_self fun _ _ h_runs => uneventful_point h h_runs
  obtain ⟨c₁, d', origin, h₁, h_spent, h_todo₁, h_items, h_last⟩ :=
    overrun sampleHub lenient_raisedInTime rfl h_attached h_carries
  rw [h_id] at h_todo₁ h_items h_last
  have h_queue₁ : c₁.store.queues 0 ≠ [] := fun h_nil => by
    rw [h_nil] at h_items
    have h_length := congrArg List.length h_items
    rw [List.map_nil, List.length_nil, List.length_map, List.length_range] at h_length
    cases h_length
  have h_missed : Missed c₁ 0 := missed_of_head h_last
  -- the queue is still full when the flag goes up
  have h_allowed : RaisedInTime c₁ (.run firstSupervisor .proceed) :=
    fun t scope id h_runs _ _ => by
      obtain ⟨-, h_eq⟩ := Runs.unique ⟨_, _, rfl, h_todo₁⟩ h_runs
      obtain ⟨-, rfl⟩ := Instr.swapLagging.inj h_eq
      exact Or.inl h_queue₁
  have h_flag₁ : c₁.store.lagging 0 = false := by
    rw [h₁.aside.lagging, ← h_id]
    exact h_attached.calm
  obtain ⟨c₂, h₂, h_todo₂, h_others₂, h_aside₂, -, -, h_history₂, -⟩ :=
    raise sampleHub lenient_raisedInTime h_todo₁ h_allowed h_flag₁
  have h_reach₂ := (h_reach.trans h₁.reach).trans h₂
  have h_missed₂ : Missed c₂ 0 := by
    obtain ⟨item, scope, waiting, h_ev⟩ := h_missed
    exact ⟨item, scope, waiting, by rw [h_history₂]; exact h_ev⟩
  -- nobody else is working
  have h_rest₂ : AtRest c₂ := h_rest.of_todo h_attached.waits rfl h_todo₂ fun t h_t =>
    (h_others₂ t h_t).trans (h₁.others t h_t)
  have h_open₂ : c₂.store.closed 0 = false := by
    rw [h_aside₂.closed, ← h_id]
    exact (congrFun h₁.aside.closed _).trans h_attached.listens
  exact ⟨c₂, h_reach₂, h_missed₂,
    no_lost_lag_wakeup h_reach₂ h_open₂ h_rest₂.settled.1 h_rest₂.settled.2 h_missed₂⟩

/-- **A lag wake-up can be lost**: the consumer drains the queue between the drop
and the raise of the flag, which it finds down. The flag goes up over an empty
queue, and nobody asks for a resync. -/
theorem lag_wakeup_lost : ¬ ∀ (c : Config ℕ),
    (hubProgram sampleHub).Reachable (initialConfig ℕ) Program.anyStep c → ∀ id : SlotId,
      c.store.closed id = false → ¬ Raising c id → ¬ Looking c id ∧ ¬ Requesting c id →
        Missed c id → c.store.lagging id = true ∧ c.store.queues id ≠ [] := by
  intro h_never
  -- overrun the queue, and let the consumer be faster than the flag
  obtain ⟨c₀, d, target, stall, rest, h_reach, h_attached, h_id, h_carries, h_rest, -⟩ :=
    sample_attached Program.anyStep fun _ _ _ _ => trivial
  obtain ⟨c₁, d', origin, h₁, h_spent, h_todo₁, h_items, h_last⟩ :=
    overrun sampleHub lenient_anyStep rfl h_attached h_carries
  have h_idle := h_attached.idle
  rw [h_id] at h_todo₁ h_items h_last h_idle
  have h_missed₁ : Missed c₁ 0 := missed_of_head h_last
  have h_flag₁ : c₁.store.lagging 0 = false := by
    rw [h₁.aside.lagging, ← h_id]
    exact h_attached.calm
  -- the consumer drains the queue, and finds the flag down
  have h_streaming₁ : c₁.store.streaming 0 = true := by
    rw [h₁.aside.streaming, ← h_id]
    exact h_attached.streaming
  have h_idle₁ : c₁.todo (.consumer 0) = [] := (h₁.others _ Task.noConfusion).trans h_idle
  obtain ⟨c₂, h₂, h_todo₂, h_queues₂, -⟩ :=
    drain sampleHub lenient_anyStep h_idle₁ h_streaming₁
      (h_items.trans (range_data (fun n => n) 16383))
  have h_flag₂ : c₂.store.lagging 0 = false := by
    rw [h₂.aside.lagging]
    exact h_flag₁
  let lowered : Effect ℕ :=
    { store := { c₂.store with lagging := Function.update c₂.store.lagging 0 false }, next := [] }
  have h_exec₂ : exec sampleHub (.consumer 0) .proceed (.swapDrained 0) c₂ = some lowered := by
    simp only [exec, h_flag₂]
    rfl
  let c₃ := c₂.resume (.consumer 0) [] lowered
  -- the flag goes up after that
  have h_todo₃ : c₃.todo firstSupervisor = .swapLagging .shared 0 :: .dispatchPayloads d' :: rest :=
    (resume_todo_of_ne c₂ _ _ _ Task.noConfusion rfl).trans
      ((h₂.others _ Task.noConfusion).trans h_todo₁)
  have h_flag₃ : c₃.store.lagging 0 = false := by
    rw [show c₃.store.lagging = Function.update c₂.store.lagging 0 false from rfl,
      Function.update_self]
  obtain ⟨c₄, h₄, h_todo₄, h_others₄, h_aside₄, -, h_queues₄, h_history₄, -⟩ :=
    raise sampleHub lenient_anyStep h_todo₃ True.intro h_flag₃
  have h_reach₄ := (((h_reach.trans h₁.reach).trans h₂.reach).trans
    (.exec .proceed h_todo₂ h_exec₂ True.intro)).trans h₄
  -- everybody is done, with the flag up and the queue empty
  have h_rest₄ : AtRest c₄ := by
    refine h_rest.of_todo h_attached.waits rfl h_todo₄ fun t h_t => (h_others₄ t h_t).trans ?_
    by_cases h_consumer : t = .consumer 0
    · subst h_consumer
      rw [h_idle]
      exact resume_todo_self ..
    · rw [show c₃.todo t = c₂.todo t from resume_todo_of_ne c₂ _ _ _ h_consumer rfl,
        h₂.others t h_consumer, h₁.others t h_t]
  have h_missed₄ : Missed c₄ 0 := by
    obtain ⟨item, scope, waiting, h_ev⟩ := h_missed₁.advances h₂.toAdvances
    exact ⟨item, scope, waiting, by rw [h_history₄]; exact h_ev⟩
  have h_open₄ : c₄.store.closed 0 = false := by
    rw [h_aside₄.closed, ← h_id]
    exact (congrFun h₂.aside.closed _).trans
      ((congrFun h₁.aside.closed _).trans h_attached.listens)
  refine (h_never c₄ h_reach₄ 0 h_open₄ h_rest₄.settled.1 h_rest₄.settled.2 h_missed₄).2 ?_
  rw [h_queues₄]
  exact (congrFun h_queues₂ 0).trans (Function.update_self ..)

end Blokli
