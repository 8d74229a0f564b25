import BlokliClient.HealthRun
import BlokliClient.Hub.Slots

/-!
# What a step does to the health of a slot

`TrackerStep` lists what a step can do to the tracker of a slot that is
registered before and after it. Together with `SlotStep`, which lists what it
does to the rest of the entry, an invariant about health is a case analysis.
-/

namespace Blokli

open Worklist

variable {V : Type} {hub : HubConfig} {t : Task} {ch : Choice} {i : Instr V} {c c' : Config V}
  {e : Effect V} {a : Action Task Choice (Request V)}

/-- The instructions that update health in place. -/
def Point.updatesHealth : Point → Bool
  | .withHealth | .reject | .markStalled => true
  | _ => false

/-- All other instructions that leave the slots the same leave their health the same. -/
theorem exec_slots (h : exec hub t ch i c = some e) (h_moves : i.point.movesSlots = false)
    (h_health : i.point.updatesHealth = false) :
    e.store.state.slots = c.store.state.slots := by
  -- the instructions that change a tracker, and those that change the map, are excluded
  cases i
  all_goals first
    | (cases h_moves; done)
    | (cases h_health; done)
    | (simp only [exec, execReadCause, execBuild, execTrySend, execOpenStream, execNext,
        execEvent, execStreamError, execLeaveDrive, execDocument, execMalformedEvent,
        execDeliver, execReceive] at h
       repeat' split at h
       all_goals first
         | (cases h; done)
         | (obtain rfl := Option.some.inj h; rfl))

/-- What a step can do to the tracker of the slot `id`. -/
inductive TrackerStep (c : Config V) (a : Action Task Choice (Request V)) (id : SlotId)
    (e e' : SlotEntry V) : Prop
  | same (health : e'.health = e.health)
  | updated (t : Task) (scope : Scope) (ids : List SlotId) (update : HealthUpdate)
      (runs : Runs c a t (.withHealth scope ids update)) (listed : id ∈ ids)
      (belongs : e.belongsTo id scope = true)
      (health : e'.health = update.apply e.health c.store.clock)
  | rejected (t : Task) (scope : Scope) (targets : List (SlotTarget V))
      (problem : SubscriptionProblem) (error : ErrorKind)
      (runs : Runs c a t (.reject scope targets problem error))
      (listed : id ∈ targets.map SlotTarget.id) (belongs : e.belongsTo id scope = true)
      (health : e'.health = e.health.reject problem c.store.clock)
  | stalled (t : Task) (scope : Scope) (runs : Runs c a t (.markStalled scope))
      (belongs : e.belongsTo id scope = true)
      (health : e'.health = e.health.stalled c.store.clock)
  | caughtUp (t : Task) (scope : Scope) (waitUntil : Instant)
      (runs : Runs c a t (.snapshot scope waitUntil)) (belongs : e.belongsTo id scope = true)
      (pending : e.resync = true) (consumed : e'.resync = false)
      (health : e'.health = e.health.caughtUp)

/-! ### One instruction at a time -/

section Instructions

variable {id : SlotId} {entry entry' : SlotEntry V}

/-- What a section that rewrites entries in place makes of this one. -/
theorem entry_of_map {s' : HubState V} {f : SlotEntry V → SlotEntry V}
    (h_entry : c.store.state.slots id = some entry)
    (h_map : s'.slots id = (c.store.state.slots id).map f) (h_entry' : s'.slots id = some entry') :
    entry' = f entry := by
  rw [h_entry] at h_map
  exact Option.some.inj (h_entry'.symm.trans h_map)

/-- A section that leaves the health of the entries alone. -/
theorem TrackerStep.of_map {s' : HubState V} {f : SlotEntry V → SlotEntry V}
    (h_health : ∀ entry, (f entry).health = entry.health)
    (h_entry : c.store.state.slots id = some entry)
    (h_map : s'.slots id = (c.store.state.slots id).map f) (h_entry' : s'.slots id = some entry') :
    TrackerStep c a id entry entry' := by
  refine .same ?_
  rw [entry_of_map h_entry h_map h_entry', h_health]

/-- A section that leaves the entry alone. -/
theorem TrackerStep.of_slots {s' : HubState V} (h_entry : c.store.state.slots id = some entry)
    (h_same : s'.slots id = c.store.state.slots id) (h_entry' : s'.slots id = some entry') :
    TrackerStep c a id entry entry' := by
  rw [h_same, h_entry] at h_entry'
  exact .same (congrArg SlotEntry.health (Option.some.inj h_entry').symm)

/-- A section that rewrites one entry, and leaves its health alone. -/
theorem TrackerStep.of_modify {id' : SlotId} {f : SlotEntry V → SlotEntry V}
    (h_health : ∀ entry, (f entry).health = entry.health)
    (h_entry : c.store.state.slots id = some entry)
    (h_entry' : (c.store.state.modifySlot id' f).slots id = some entry') :
    TrackerStep c a id entry entry' := by
  by_cases h_id : id = id'
  · subst h_id
    exact .of_map h_health h_entry (HubState.modifySlot_slots_self ..) h_entry'
  · exact .of_slots h_entry (HubState.modifySlot_slots_of_ne _ f h_id) h_entry'

/-- A section that removes slots, of which this is none. -/
theorem TrackerStep.of_removeSlots {ids : List SlotId}
    (h_entry : c.store.state.slots id = some entry)
    (h_entry' : (c.store.state.removeSlots ids).slots id = some entry') :
    TrackerStep c a id entry entry' := by
  have h_slots := c.store.state.removeSlots_slots ids id
  split at h_slots
  · cases h_slots.symm.trans h_entry'
  · exact .of_slots h_entry h_slots h_entry'

/-- An update of health reaches the listed slots of the scope. -/
theorem TrackerStep.of_withHealth {scope : Scope} {ids : List SlotId} {update : HealthUpdate}
    (h_runs : Runs c a t (.withHealth scope ids update))
    (he : exec hub t ch (.withHealth scope ids update) c = some e)
    (h_entry : c.store.state.slots id = some entry)
    (h_entry' : e.store.state.slots id = some entry') : TrackerStep c a id entry entry' := by
  obtain rfl := Option.some.inj he
  have h_eq := entry_of_map h_entry (HubState.mapSlots_slots ..) h_entry'
  split at h_eq
  -- the tracker is listed, and of the scope
  · next h_cond =>
    obtain ⟨h_listed, h_belongs⟩ := Bool.and_eq_true_iff.mp h_cond
    exact .updated t scope ids update h_runs (of_decide_eq_true h_listed) h_belongs
      (congrArg SlotEntry.health h_eq)
  · -- any other tracker is untouched
    exact .same (congrArg SlotEntry.health h_eq)

/-- So does a refusal. -/
theorem TrackerStep.of_reject {scope : Scope} {targets : List (SlotTarget V)}
    {problem : SubscriptionProblem} {error : ErrorKind}
    (h_runs : Runs c a t (.reject scope targets problem error))
    (he : exec hub t ch (.reject scope targets problem error) c = some e)
    (h_entry : c.store.state.slots id = some entry)
    (h_entry' : e.store.state.slots id = some entry') : TrackerStep c a id entry entry' := by
  obtain rfl := Option.some.inj he
  have h_eq := entry_of_map h_entry (HubState.mapSlots_slots ..) h_entry'
  split at h_eq
  -- the tracker is listed, and of the scope
  · next h_cond =>
    obtain ⟨h_listed, h_belongs⟩ := Bool.and_eq_true_iff.mp h_cond
    exact .rejected t scope targets problem error h_runs (of_decide_eq_true h_listed) h_belongs
      (congrArg SlotEntry.health h_eq)
  · -- any other tracker is untouched
    exact .same (congrArg SlotEntry.health h_eq)

/-- A stall is reported to the slots of the scope that are overdue. -/
theorem TrackerStep.of_markStalled {scope : Scope} (h_runs : Runs c a t (.markStalled scope))
    (he : exec hub t ch (.markStalled scope) c = some e)
    (h_entry : c.store.state.slots id = some entry)
    (h_entry' : e.store.state.slots id = some entry') : TrackerStep c a id entry entry' := by
  obtain rfl := Option.some.inj he
  change (c.store.state.markStalled _ _ _).slots id = _ at h_entry'
  unfold HubState.markStalled at h_entry'
  split at h_entry'
  · -- no threshold: the state is untouched
    exact .of_slots h_entry rfl h_entry'
  · have h_eq := entry_of_map h_entry (HubState.mapSlots_slots ..) h_entry'
    split at h_eq
    -- the deadline of the tracker has passed
    · next h_cond =>
      exact .stalled t scope h_runs (Bool.and_eq_true_iff.mp h_cond).1
        (congrArg SlotEntry.health h_eq)
    · exact .same (congrArg SlotEntry.health h_eq)

/-- A snapshot turns a pending resync into one that was caught up. -/
theorem TrackerStep.of_snapshot {scope : Scope} {waitUntil : Instant}
    (h_runs : Runs c a t (.snapshot scope waitUntil))
    (h_entry : c.store.state.slots id = some entry)
    (h_entry' : (c.store.state.snapshot scope).1.slots id = some entry') :
    TrackerStep c a id entry entry' := by
  have h_eq := entry_of_map h_entry (c.store.state.snapshot_slots scope id) h_entry'
  split at h_eq
  -- the slot had asked for a resync
  · next h_cond =>
    obtain ⟨h_belongs, h_pending⟩ := Bool.and_eq_true_iff.mp h_cond
    exact .caughtUp t scope waitUntil h_runs h_belongs h_pending
      (congrArg SlotEntry.resync h_eq) (congrArg SlotEntry.health h_eq)
  · exact .same (congrArg SlotEntry.health h_eq)

end Instructions

/-- **The list is complete.** -/
theorem tracker_step (h_num : Numbered c) (h : (hubProgram hub).step c a = some c') {id : SlotId}
    {e e' : SlotEntry V} (h_e : c.store.state.slots id = some e)
    (h_e' : c'.store.state.slots id = some e') : TrackerStep c a id e e' := by
  rcases Program.step_cases h with ⟨t, ch, i, rest, eff, rfl, h_todo, he, rfl⟩ |
    ⟨r, t, eff, rfl, he, h_todo, rfl⟩
  · change exec hub t ch i c = some eff at he
    rw [resume_store] at h_e'
    have h_runs : Runs c (.run t ch) t i := ⟨ch, rest, rfl, h_todo⟩
    cases i with
    -- the instructions that update health
    | withHealth scope ids update => exact .of_withHealth h_runs he h_e h_e'
    | reject scope targets problem error => exact .of_reject h_runs he h_e h_e'
    | markStalled scope => exact .of_markStalled h_runs he h_e h_e'
    | snapshot scope waitUntil =>
      obtain rfl := Option.some.inj he
      exact .of_snapshot h_runs h_e h_e'
    -- those that rewrite entries, and leave their health alone
    | isolate id' cause =>
      rcases exec_isolate he with h_same | ⟨-, -, -, h_moved⟩
      · rw [h_same] at h_e'
        exact .of_slots h_e rfl h_e'
      · rw [h_moved] at h_e'
        refine .of_modify ?_ h_e h_e'
        exact fun _ => rfl
    | ensureSupervisors =>
      obtain rfl := Option.some.inj he
      refine .of_map (fun entry => ?_) h_e (c.store.state.ensureSupervisors_slots _ _ id) h_e'
      split <;> rfl
    | resumeAfter id' payload =>
      obtain rfl := Option.some.inj he
      refine .of_modify (fun entry => ?_) h_e h_e'
      split <;> rfl
    | requestResync id' =>
      rcases exec_requestResync he with h_same | ⟨-, -, h_marked⟩
      · rw [h_same] at h_e'
        exact .of_slots h_e rfl h_e'
      · rw [h_marked] at h_e'
        refine .of_modify ?_ h_e h_e'
        exact fun _ => rfl
    -- those that remove slots
    | endSlots ids reason =>
      obtain rfl := Option.some.inj he
      exact .of_removeSlots h_e h_e'
    | deregister id' =>
      obtain rfl := Option.some.inj he
      exact .of_removeSlots h_e h_e'
    | _ => exact .of_slots h_e (congrFun (exec_slots he rfl rfl) id) h_e'
  · -- a registration makes an entry for another slot
    rcases accept_state he with h_same | ⟨spec, created, rfl, h_reg⟩
    · exact .of_slots h_e (congrArg (fun s => s.slots id) h_same) h_e'
    · have h_slots := congrArg (fun s => s.slots id) h_reg
      have h_id : id ≠ c.store.state.nextId := Nat.ne_of_lt (h_num id e h_e)
      exact .of_slots h_e (h_slots.trans (Function.update_of_ne h_id ..)) h_e'

/-- Which instruction applies an operation to the tracker of slot `id`. -/
inductive HealthCause (c : Config V) (a : Action Task Choice (Request V)) (id : SlotId)
    (e : SlotEntry V) : HealthOp → Prop
  | update (t : Task) (scope : Scope) (ids : List SlotId) (update : HealthUpdate)
      (runs : Runs c a t (.withHealth scope ids update)) (listed : id ∈ ids)
      (belongs : e.belongsTo id scope = true) : HealthCause c a id e (.update update)
  | reject (t : Task) (scope : Scope) (targets : List (SlotTarget V))
      (problem : SubscriptionProblem) (error : ErrorKind)
      (runs : Runs c a t (.reject scope targets problem error)) :
      HealthCause c a id e (.reject problem)
  | stalled : HealthCause c a id e .stalled
  | caughtUp : HealthCause c a id e .caughtUp

/-- **The health of a slot changes by one operation**, at the current time. -/
theorem TrackerStep.op {id : SlotId} {e e' : SlotEntry V} (h : TrackerStep c a id e e') :
    e'.health = e.health ∨
      ∃ op, e'.health = e.health.step (op, c.store.clock) ∧ HealthCause c a id e op := by
  cases h with
  | same health => exact Or.inl health
  | updated t scope ids update runs listed belongs health =>
    exact Or.inr ⟨.update update, health, .update t scope ids update runs listed belongs⟩
  | rejected t scope targets problem error runs listed belongs health =>
    exact Or.inr ⟨.reject problem, health, .reject t scope targets problem error runs⟩
  | stalled t scope runs belongs health => exact Or.inr ⟨.stalled, health, .stalled⟩
  | caughtUp t scope waitUntil runs belongs pending consumed health =>
    exact Or.inr ⟨.caughtUp, health, .caughtUp⟩

end Blokli
