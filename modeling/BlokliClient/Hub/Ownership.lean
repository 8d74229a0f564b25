import BlokliClient.Hub.Overflow
import BlokliClient.Hub.Supervision

/-!
# Whose queue a connection writes to

A connection reads once per frame which of its slots are still on it, and hands
the payloads over after that, one by one. In between a slot can leave, and what
arrived for it is no longer its own.

`Handing` says what is on its way to a slot, and the invariant says that the
slot still belongs to the connection it comes from, or dropped its receiver.
Every step keeps it but two: `isolate` and `end_slots` at a slot that something
is on its way to.
-/

namespace Blokli

open Worklist

variable {V : Type} {hub : HubConfig} {t : Task} {ch : Choice} {i : Instr V} {c c' : Config V}
  {e : Effect V} {a : Action Task Choice (Request V)}

/-- Something that was read from a connection of `scope` is on its way to the
queue of slot `id`. -/
def Handing (c : Config V) (id : SlotId) (scope : Scope) : Prop :=
  (∃ t target item, .deliver scope target item ∈ c.todo t ∧ target.id = id ∧
    item.origin ≠ .failure) ∨
  ∃ t d, .dispatchPayloads d ∈ c.todo t ∧ d.scope = scope ∧ id ∈ d.live ∧
    id ∈ d.payloads.map Prod.fst ∧ id ∈ d.connection.ids

/-- The step takes the slot off the connection it belongs to. -/
def Moves (c : Config V) (a : Action Task Choice (Request V)) (id : SlotId) : Prop :=
  (∃ t cause e, Runs c a t (.isolate id cause) ∧ c.store.state.slots id = some e ∧
    e.isolated = none) ∨
  ∃ t ids reason, Runs c a t (.endSlots ids reason) ∧ id ∈ ids

/-- No slot is isolated or ended while something is on its way to it. -/
def Unmoved (c : Config V) (a : Action Task Choice (Request V)) : Prop :=
  ∀ id scope, Moves c a id → ¬ Handing c id scope

/-! ### Streams that are dropped -/

/-- A stream drops its receiver before it leaves the slot map. -/
def Closing (c : Config V) : Prop :=
  ∀ t id, .deregister id ∈ c.todo t → c.store.closed id = true ∨
    ∃ rest, c.todo t = .closeReceiver id :: .deregister id :: rest

theorem Closing.initial : Closing (initialConfig V) := fun _ _ h => absurd h List.not_mem_nil

/-- A receiver that was dropped stays dropped. -/
theorem closed_mono (h : (hubProgram hub).step c a = some c') {id : SlotId}
    (h_closed : c.store.closed id = true) : c'.store.closed id = true := by
  cases h_closed' : c'.store.closed id with
  | true => rfl
  | false => exact absurd (h_closed.symm.trans (closed_step h h_closed')) (by simp)

/-- `closeReceiver` comes right before `deregister`. -/
theorem exec_deregister (h : exec hub t ch i c = some e) {id : SlotId}
    (hj : .deregister id ∈ e.next) : e.next = [.closeReceiver id, .deregister id] := by
  have h_succ := exec_successors h _ hj
  cases i with
  | receive id' =>
    cases execReceive_step (Option.some.inj h) with
    | popped item items queue =>
      revert hj
      cases item.event <;> simp [SlotEvent.noted]
    | pending queue held => exact absurd hj List.not_mem_nil
    | ended queue free =>
      simp only [List.mem_cons, List.not_mem_nil, or_false, reduceCtorEq, false_or,
        Instr.deregister.injEq] at hj
      subst hj
      rfl
  | _ => exact absurd h_succ (Point.not_mem rfl)

theorem accept_deregister {r : Request V} (h : accept r c = some (t, e)) {id : SlotId}
    (hj : .deregister id ∈ e.next) : e.next = [.closeReceiver id, .deregister id] := by
  cases r
  all_goals
    simp only [accept] at h
    first
      | split at h
      | skip
  all_goals first
    | (cases h; done)
    | (obtain ⟨rfl, rfl⟩ := Prod.mk.inj (Option.some.inj h)
       simp only [List.mem_cons, List.not_mem_nil, or_false, reduceCtorEq, or_self, false_or,
         Instr.deregister.injEq] at hj)
  subst hj
  rfl

/-- A slot that is deregistered is closed before. -/
theorem Closing.step (h_inv : Closing c) (h : (hubProgram hub).step c a = some c') :
    Closing c' := by
  refine fun t id => Program.todo_of_step
    (motive := fun _ l => ∀ id, .deregister id ∈ l → c'.store.closed id = true ∨
      ∃ rest, l = .closeReceiver id :: .deregister id :: rest) h
    (fun t id hj => (h_inv t id hj).imp_left (closed_mono h)) ?_ ?_ t id
  · intro t ch i rest e ha h_todo he
    refine ⟨fun id hj => ?_, fun t' is h_sp _ id hj => ?_⟩
    -- the deregistration was just left, behind the closing, or it was there before
    · rcases List.mem_append.mp hj with hj | hj
      · exact Or.inr ⟨rest, by rw [exec_deregister he hj]; rfl⟩
      · left
        rcases h_inv t id (by rw [h_todo]; exact List.mem_cons_of_mem _ hj) with h_closed |
          ⟨rest', h_todo'⟩
        · exact closed_mono h h_closed
        · obtain ⟨rfl, -⟩ := List.cons.inj (h_todo.symm.trans h_todo')
          obtain rfl := ha
          obtain rfl := Option.some.inj (h.symm.trans (Program.step_run h_todo he))
          obtain rfl := Option.some.inj he
          exact Function.update_self ..
    · -- supervisors do not deregister
      obtain ⟨token, -, rfl, rfl⟩ := exec_spawned he h_sp
      exact absurd (supervisorCode_points token _ hj) (Point.not_mem rfl)
  · intro r t e _ he _
    refine ⟨fun id hj => Or.inr ⟨[], accept_deregister he hj⟩, fun t' is h_sp => ?_⟩
    rw [(accept_frame he).1] at h_sp
    cases h_sp

/-! ### Slots that belong to a connection -/

/-- The slot belongs to the connection, or dropped its receiver. -/
def Mine (c : Config V) (id : SlotId) (scope : Scope) : Prop :=
  c.store.closed id = true ∨ c.store.state.belongs id scope = true

theorem SlotEntry.belongsTo_congr {e e' : SlotEntry V}
    (h : e'.isolated.isNone = e.isolated.isNone) (id : SlotId) (scope : Scope) :
    e'.belongsTo id scope = e.belongsTo id scope := by
  cases scope with
  | shared => exact h
  | isolated own => rfl

/-- A slot that is not taken off its connection stays there. -/
theorem Mine.step {id : SlotId} {scope : Scope} (h_mine : Mine c id scope) (h_num : Numbered c)
    (h_closing : Closing c) (h : (hubProgram hub).step c a = some c') (h_stays : ¬ Moves c a id) :
    Mine c' id scope := by
  rcases h_mine with h_closed | h_belongs
  · exact Or.inl (closed_mono h h_closed)
  · obtain ⟨e, h_e, h_scope⟩ := (HubState.belongs_eq_true _).mp h_belongs
    -- an entry that stays on its side keeps the slot on the connection
    have h_keep : ∀ e', c'.store.state.slots id = some e' →
        e'.isolated.isNone = e.isolated.isNone → Mine c' id scope := fun e' h_e' h_iso =>
      Or.inr ((HubState.belongs_eq_true _).mpr
        ⟨e', h_e', (SlotEntry.belongsTo_congr h_iso id scope).trans h_scope⟩)
    cases slot_step h id with
    | same slot =>
      rw [h_e] at slot
      obtain ⟨e', h_e', h_core⟩ := Option.map_eq_some_iff.mp slot
      exact h_keep e' h_e' (congrArg (fun core : SlotCore V => core.isolated.isNone) h_core)
    | registered spec created request number slot =>
      exact absurd number (Nat.ne_of_lt (h_num id e h_e))
    | isolated t cause e₀ runs before shared slot =>
      exact absurd (Or.inl ⟨t, cause, e₀, runs, before, shared⟩) h_stays
    | supervised t e₀ isolation runs before moved dead slot =>
      obtain rfl := Option.some.inj (h_e.symm.trans before)
      exact h_keep _ slot (by rw [moved]; rfl)
    | caughtUp t scope' waitUntil e₀ runs before belongs slot =>
      obtain rfl := Option.some.inj (h_e.symm.trans before)
      exact h_keep _ slot rfl
    | resumed t payload next e₀ runs before resume slot =>
      obtain rfl := Option.some.inj (h_e.symm.trans before)
      exact h_keep _ slot rfl
    | resync t e₀ runs before slot =>
      obtain rfl := Option.some.inj (h_e.symm.trans before)
      exact h_keep _ slot rfl
    | ended t ids reason runs listed slot =>
      exact absurd (Or.inr ⟨t, ids, reason, runs, listed⟩) h_stays
    | deregistered t runs slot =>
      -- the receiver is gone by then
      obtain ⟨ch, rest, -, h_todo⟩ := runs
      rcases h_closing t id (by rw [h_todo]; exact List.mem_cons_self) with h_closed | ⟨rest', h_eq⟩
      · exact Or.inl (closed_mono h h_closed)
      · rw [h_todo] at h_eq
        cases h_eq

/-- **Handed to its owner.** Whatever is on its way to a slot comes from the
connection it belongs to. -/
def Owning (c : Config V) : Prop := ∀ id scope, Handing c id scope → Mine c id scope

/-- What is on its way after a step was so before, or the slot was found to
belong to the connection in this step. -/
theorem handing_origin {id : SlotId} {scope : Scope} (h_handing : Handing c' id scope)
    (h : (hubProgram hub).step c a = some c') :
    Handing c id scope ∨ (c.store.state.belongs id scope = true ∧ ¬ Moves c a id) := by
  -- a step that reads the slots, or refuses, moves none
  have h_stays : ∀ {t i}, Runs c a t i → i.point ∉ [.isolate, .endSlots] → ¬ Moves c a id := by
    rintro t i h_runs h_i (⟨t', cause, e, h_runs', -⟩ | ⟨t', ids, reason, h_runs', -⟩)
    · obtain ⟨-, rfl⟩ := h_runs.unique h_runs'
      exact h_i List.mem_cons_self
    · obtain ⟨-, rfl⟩ := h_runs.unique h_runs'
      exact h_i (List.mem_cons_of_mem _ List.mem_cons_self)
  have h_mem : ∀ {t : Task} {i : Instr V} {rest}, c.todo t = i :: rest →
      i ∈ c.todo t := fun h_todo => by
    rw [h_todo]
    exact List.mem_cons_self
  rcases h_handing with ⟨t, target, item, hj, h_id, h_origin⟩ |
    ⟨t, d, hj, h_scope, h_live, h_payload, h_target⟩
  -- the value was on its way before, or is put there now
  · rcases origin_step h hj rfl with hj | ⟨ch, i, rest, e, ha, h_todo, he, hj⟩
    · exact Or.inl (Or.inl ⟨t, target, item, hj, h_id, h_origin⟩)
    · cases deliver_origin he hj with
      -- by the payload, which was listed for a live slot of the scope
      | payload d payload payloads value head owner decoded same item_eq =>
        obtain ⟨h_target, -, h_live⟩ := Dispatching.target_eq_some owner
        refine Or.inl (Or.inr ⟨t, d, h_mem h_todo, same, h_id ▸ h_live, ?_, ?_⟩)
        · rw [head, ← h_id]
          exact List.mem_cons_self
        · rw [← h_id]
          exact List.mem_map_of_mem h_target
      -- by the refusal of a request, which checks the slot itself
      | refusal targets problem error listed first item_eq =>
        refine Or.inr ⟨?_, h_stays ⟨ch, rest, ha, h_todo⟩ (Point.not_mem rfl)⟩
        unfold HubState.refusalIsNew at first
        rw [h_id] at first
        unfold HubState.belongs
        split at first
        · cases first
        · next e' h_e' =>
          exact (Bool.and_eq_true_iff.mp first).1
      | failure d error same item_eq =>
        rw [item_eq] at h_origin
        exact absurd rfl h_origin
  · rcases origin_step h hj rfl with hj | ⟨ch, i, rest, e, ha, h_todo, he, hj⟩
    · exact Or.inl (Or.inr ⟨t, d, hj, h_scope, h_live, h_payload, h_target⟩)
    -- the liveness was read in this step
    · rcases dispatchPayloads_origin he hj with ⟨d₀, rfl, rfl, -⟩ |
        ⟨d₀, p, rfl, h_payloads, h_driving, -, h_eq⟩
      · refine Or.inr ⟨?_, h_stays ⟨ch, rest, ha, h_todo⟩ (Point.not_mem rfl)⟩
        obtain ⟨-, e', h_e', h_belongs⟩ := (HubState.mem_scopeIds _).mp h_live
        rw [← h_scope]
        exact (HubState.belongs_eq_true _).mpr ⟨e', h_e', h_belongs⟩
      · -- or before, and one payload was taken since
        refine Or.inl (Or.inr ⟨t, d₀, h_mem h_todo, ?_, h_eq ▸ h_live, ?_, ?_⟩)
        · rw [← h_driving]
          exact h_scope
        · rw [h_payloads]
          exact List.mem_cons_of_mem _ h_payload
        · rw [← h_driving]
          exact h_target

/-- One step keeps the payloads with their slots, if it moves no slot. -/
theorem Owning.step (h_inv : Owning c) (h_num : Numbered c) (h_closing : Closing c)
    (h_allowed : Unmoved c a) (h : (hubProgram hub).step c a = some c') : Owning c' := by
  intro id scope h_handing
  rcases handing_origin h_handing h with h_old | ⟨h_belongs, h_stays⟩
  · exact (h_inv id scope h_old).step h_num h_closing h
      fun h_moves => h_allowed id scope h_moves h_old
  · exact Mine.step (Or.inr h_belongs) h_num h_closing h h_stays

theorem Closing.reachable {Allowed : Config V → Action Task Choice (Request V) → Prop}
    (h : (hubProgram hub).Reachable (initialConfig V) Allowed c) : Closing c :=
  h.induct (motive := Closing) Closing.initial fun _ h_inv _ h_step => h_inv.step h_step

/-- **Exclusive ownership**, in a run in which no slot is isolated or ended
while something is on its way to it: when an event that was read from a
connection is pushed into the queue of a slot, the slot belongs to that
connection, and on the shared connection it has not moved to its own. -/
theorem pushed_by_owner (h : (hubProgram hub).Reachable (initialConfig V) Unmoved c)
    {scope : Scope} {target : SlotTarget V} {item : Item V}
    (h_runs : Runs c a t (.deliver scope target item)) (h_origin : item.origin ≠ .failure)
    (h_open : c.store.closed target.id = false) :
    ∃ e, c.store.state.slots target.id = some e ∧ e.belongsTo target.id scope = true ∧
      (scope = .shared → e.isolated = none) := by
  have h_owning : Owning c := h.induct (motive := Owning)
    (fun id scope h_handing => by
      rcases h_handing with ⟨_, _, _, hj, -⟩ | ⟨_, _, hj, -⟩
      · exact absurd hj List.not_mem_nil
      · exact absurd hj List.not_mem_nil)
    fun h_reach h_inv h_allowed h_step =>
      h_inv.step (Sound.reachable h_reach).numbered (Closing.reachable h_reach) h_allowed h_step
  obtain ⟨ch, rest, -, h_todo⟩ := h_runs
  have h_handing : Handing c target.id scope :=
    Or.inl ⟨t, target, item, by rw [h_todo]; exact List.mem_cons_self, rfl, h_origin⟩
  rcases h_owning _ _ h_handing with h_closed | h_belongs
  · rw [h_open] at h_closed
    cases h_closed
  · obtain ⟨e, h_e, h_scope⟩ := (HubState.belongs_eq_true _).mp h_belongs
    refine ⟨e, h_e, h_scope, fun h_shared => ?_⟩
    rw [h_shared] at h_scope
    exact Option.isNone_iff_eq_none.mp h_scope

/-! ### A slot that leaves while something is on its way to it -/

theorem unmoved_of_point (h : ∀ t i, Runs c a t i → i.point ∉ [.isolate, .endSlots]) :
    Unmoved c a := by
  rintro id scope (⟨t, cause, e, h_runs, -⟩ | ⟨t, ids, reason, h_runs, -⟩)
  · exact absurd List.mem_cons_self (h _ _ h_runs)
  · exact absurd (List.mem_cons_of_mem _ List.mem_cons_self) (h _ _ h_runs)

/-- The theorem at a frame that was read while its slot is on the shared
connection. -/
theorem pushed_by_owner_attached : ∃ (c : Config ℕ) (target : SlotTarget ℕ) (item : Item ℕ),
    (hubProgram sampleHub).Reachable (initialConfig ℕ) Unmoved c ∧ target.id = 0 ∧
      Runs c (.run firstSupervisor .proceed) firstSupervisor (.deliver .shared target item) ∧
      ∃ e, c.store.state.slots target.id = some e ∧ e.belongsTo target.id .shared = true ∧
        (Scope.shared = .shared → e.isolated = none) := by
  have h_len : Lenient (Unmoved (V := ℕ)) :=
    .of_points [.isolate, .endSlots] (by decide) fun _ _ => unmoved_of_point
  obtain ⟨c₀, d, target, stall, rest, h_reach, h_attached, h_id, h_carries, -⟩ :=
    sample_attached Unmoved fun c a _ h => unmoved_of_point fun t i h_runs h_mem =>
      uneventful_point h h_runs (List.mem_cons_of_mem _ h_mem)
  obtain ⟨c₁, d', h₁, -, -, h_todo₁⟩ := receive_frame sampleHub h_len h_attached.waits
    (h_carries 0) (by rw [h_attached.shared]; exact h_attached.live)
  rw [h_attached.shared] at h_todo₁
  have h_runs : Runs c₁ (.run firstSupervisor .proceed) firstSupervisor
      (.deliver .shared target _) :=
    ⟨_, _, rfl, h_todo₁⟩
  have h_open : c₁.store.closed target.id = false := by
    rw [h₁.aside.closed]
    exact h_attached.listens
  exact ⟨c₁, target, _, h_reach.trans h₁.reach, h_id, h_runs,
    pushed_by_owner (h_reach.trans h₁.reach) h_runs Origin.noConfusion h_open⟩

/-- **A slot can be written to after it left**: a frame is read while the slot is
on the shared connection; before its payload is pushed, the consumer drains the
queue, asks for a resync and is isolated. -/
theorem pushed_after_move : ∃ (c c' : Config ℕ) (target : SlotTarget ℕ) (item : Item ℕ),
    (hubProgram sampleHub).Reachable (initialConfig ℕ) Program.anyStep c ∧
      Runs c (.run firstSupervisor .proceed) firstSupervisor (.deliver .shared target item) ∧
      (hubProgram sampleHub).step c (.run firstSupervisor .proceed) = some c' ∧
      c'.store.queues target.id = c.store.queues target.id ++ [item] ∧
      item.origin ≠ .failure ∧
      ∃ e, c.store.state.slots target.id = some e ∧ e.belongsTo target.id .shared = false := by
  obtain ⟨c₀, d, target, stall, rest, h_reach, h_attached, h_id, h_carries, -⟩ :=
    sample_attached Program.anyStep fun _ _ _ _ => True.intro
  obtain ⟨c₁, stall', h₁, h_todo₁, h_others₁, h_aside₁, -, h_items₁⟩ :=
    -- the queue runs over, so the slot lags behind
    fall_behind sampleHub lenient_anyStep lenientLag_anyStep rfl h_attached h_carries
  have h_live₁ : target.id ∈ c₁.store.state.scopeIds .shared := by
    rw [h_aside₁.scopeIds]
    exact h_attached.live
  -- the next frame is read
  obtain ⟨c₂, d', h₂, h_queues₂, -, h_todo₂⟩ := receive_frame sampleHub lenient_anyStep h_todo₁
    (h_carries slotChannelCapacity) (by rw [h_attached.shared]; exact h_live₁)
  rw [h_attached.shared] at h_todo₂
  -- the consumer asks for a resync
  have h_idle₂ : c₂.todo (.consumer target.id) = [] := by
    rw [h₂.others _ Task.noConfusion, h_others₁ _ Task.noConfusion]
    exact h_attached.idle
  have h_streaming₂ : c₂.store.streaming target.id = true := by
    rw [h₂.aside.streaming, h_aside₁.streaming]
    exact h_attached.streaming
  have h_flag₂ : c₂.store.lagging target.id = true := by
    rw [h₂.aside.lagging, h_aside₁.lagging]
    exact Function.update_self ..
  obtain ⟨c₃, h₃, h_asks, -⟩ := ask_resync sampleHub lenient_anyStep lenientLag_anyStep h_idle₂
    h_streaming₂ (by rw [h_queues₂]; exact h_items₁.trans (range_data (fun n => n) 16383)) h_flag₂
    (by rw [h₂.aside.scopeIds]; exact h_live₁)
  -- and its slot leaves the shared connection
  obtain ⟨e, h_e, h_iso, -⟩ := h_asks.entry
  let moved : HubState ℕ := c₃.store.state.modifySlot target.id fun e =>
    { e with isolated := some { supervisor := none, cause := .lagged } }
  let left : Effect ℕ := {
    store := { c₃.store with state := moved }
    next := [.bumpGeneration, .ensureSupervisors] }
  have h_exec₃ : (hubProgram sampleHub).exec (.consumer target.id) .proceed
      (.isolate target.id .lagged) c₃ = some left := by
    change exec sampleHub (.consumer target.id) .proceed (.isolate target.id .lagged) c₃ = some left
    simp only [exec, HubState.isolate, h_e, h_iso]
    rfl
  let c₄ := c₃.resume (.consumer target.id) [] left
  have h_todo₄ : c₄.todo firstSupervisor = _ :=
    (resume_todo_of_ne c₃ _ _ _ Task.noConfusion rfl).trans
      ((h_asks.others _ Task.noConfusion).trans h_todo₂)
  -- nothing stops the delivery: the receiver listens, and its queue is empty
  have h_open₄ : c₄.store.closed target.id = false := by
    refine (congrFun h_asks.closed _).trans ?_
    rw [h₂.aside.closed, h_aside₁.closed]
    exact h_attached.listens
  have h_queue₄ : c₄.store.queues target.id = [] := h_asks.drained
  obtain ⟨c₅, h₅⟩ : ∃ c₅, (hubProgram sampleHub).step c₄ (.run firstSupervisor .proceed) = some c₅ ∧
      c₅.store.queues target.id = c₄.store.queues target.id ++ _ := by
    refine ⟨_, Program.step_run h_todo₄ (if_neg ?_ |>.trans (if_pos ?_)), push_queues_self ..⟩
    · rw [h_open₄]
      exact Bool.false_ne_true
    · rw [h_queue₄]
      decide
  have h_slot₄ : c₄.store.state.slots target.id =
      some { e with isolated := some { supervisor := none, cause := .lagged } } := by
    change moved.slots target.id = _
    rw [HubState.modifySlot_slots_self, h_e, Option.map_some]
  refine ⟨c₄, c₅, target, _, ((((h_reach.trans h₁).trans h₂.reach).trans h₃).trans
    (.exec .proceed h_asks.todo h_exec₃ True.intro)), ⟨_, _, rfl, h_todo₄⟩, h₅.1, h₅.2,
    Origin.noConfusion, _, h_slot₄, rfl⟩

end Blokli
