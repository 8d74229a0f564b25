import BlokliClient.Hub.Flow

/-!
# What a step does to a slot

`SlotStep` lists, for one slot, everything a step of the hub can do to it: it
is registered, isolated, supervised, resynchronised, resumed or removed, or
stays as it is up to its health. `slot_step` proves the list complete, so an
invariant about slots is a case analysis over it.
-/

namespace Blokli

open Worklist

variable {V : Type} {hub : HubConfig} {t : Task} {ch : Choice} {i : Instr V} {c c' : Config V}
  {e : Effect V} {a : Action Task Choice (Request V)}

/-! ### The sections that move slots -/

namespace HubState

variable (s : HubState V)

/-- A slot that is isolated was on the shared connection. -/
theorem isolate_eq_some {id : SlotId} {cause : IsolationCause} {s' : HubState V}
    (h : s.isolate id cause = some s') : ∃ e, s.slots id = some e ∧ e.isolated = none ∧
      s' = s.modifySlot id fun e => { e with isolated := some { supervisor := none, cause } } := by
  unfold isolate at h
  split at h
  · cases h
  · next e h_e =>
    split at h
    · cases h
    -- the slot was there and not isolated, which is the only case that changes anything
    · next h_iso =>
      refine ⟨e, h_e, ?_, (Option.some.inj h).symm⟩
      cases h_isolated : e.isolated with
      | none => rfl
      | some isolation => exact absurd (by rw [h_isolated]; rfl) h_iso

/-- A slot that cannot be isolated is isolated already, or gone. -/
theorem isolate_eq_none {id : SlotId} {cause : IsolationCause} (h : s.isolate id cause = none)
    {e : SlotEntry V} (h_e : s.slots id = some e) : e.isolated ≠ none := by
  unfold isolate at h
  rw [h_e] at h
  intro h_iso
  simp [h_iso] at h

/-- What removing slots leaves. -/
theorem removeSlots_slots (ids : List SlotId) (id : SlotId) :
    (s.removeSlots ids).slots id = if id ∈ ids then none else s.slots id := rfl

/-- What looking at the supervisors makes of an entry. -/
theorem ensureSupervisors_slots (alive : List Token) (serial : ℕ) (id : SlotId) :
    (s.ensureSupervisors alive serial).1.slots id = (s.slots id).map fun e =>
      if lacksSupervisor alive e then
        { e with isolated := e.isolated.map fun isolation =>
          { isolation with supervisor := some ⟨serial, .isolated id⟩ } }
      else e := rfl

/-- What resuming makes of the entry of its slot. -/
theorem resumeAfter_slots (id : SlotId) (payload : V) :
    (s.resumeAfter id payload).slots id = (s.slots id).map fun e =>
      match e.spec.resume.bind fun resume => resume payload with
      | none => e
      | some next => { e with
        spec := { e.spec with
          document := next.document, queryVariables := next.queryVariables } } :=
  s.modifySlot_slots_self ..

/-- What a snapshot makes of an entry. -/
theorem snapshot_slots (scope : Scope) (id : SlotId) :
    (s.snapshot scope).1.slots id = (s.slots id).map fun e =>
      if e.belongsTo id scope && e.resync then
        { e with resync := false, health := e.health.caughtUp }
      else e := rfl

/-- A snapshot lists the slots of its scope with their specs. -/
theorem mem_snapshot {scope : Scope} {id : SlotId} {entry : SlotSnapshot V} :
    (id, entry) ∈ (s.snapshot scope).2 ↔
      id < s.nextId ∧ ∃ e, s.slots id = some e ∧ e.belongsTo id scope = true ∧
        entry = { spec := e.spec } := by
  change (id, entry) ∈ (s.scopeIds scope).filterMap _ ↔ _
  rw [List.mem_filterMap]
  constructor
  · -- what the snapshot holds was looked up in the map
    rintro ⟨id', h_id, h_map⟩
    obtain ⟨e, h_e, h_eq⟩ := Option.map_eq_some_iff.mp h_map
    obtain ⟨rfl, rfl⟩ := Prod.mk.inj h_eq
    obtain ⟨h_lt, e', h_e', h_scope⟩ := s.mem_scopeIds.mp h_id
    obtain rfl := Option.some.inj (h_e.symm.trans h_e')
    exact ⟨h_lt, e, h_e, h_scope, rfl⟩
  · -- a member has an entry, so the lookup cannot fail
    rintro ⟨h_lt, e, h_e, h_scope, rfl⟩
    exact ⟨id, s.mem_scopeIds.mpr ⟨h_lt, e, h_e, h_scope⟩, by rw [h_e]; rfl⟩

/-- The ids of a snapshot are those of its scope. -/
theorem snapshot_ids (scope : Scope) :
    (s.snapshot scope).2.map Prod.fst = s.scopeIds scope := by
  change ((s.scopeIds scope).filterMap fun id =>
    (s.slots id).map fun e => (id, ({ spec := e.spec } : SlotSnapshot V))).map Prod.fst = _
  rw [List.map_filterMap]
  refine (List.filterMap_congr fun id h_id => ?_).trans List.filterMap_some
  obtain ⟨-, e, h_e, -⟩ := s.mem_scopeIds.mp h_id
  rw [h_e]
  rfl

end HubState

/-! ### The case analysis -/

/-- A task runs this instruction next. -/
def Runs (c : Config V) (a : Action Task Choice (Request V)) (t : Task) (i : Instr V) : Prop :=
  ∃ ch rest, a = .run t ch ∧ c.todo t = i :: rest

/-- At most one instruction runs. -/
theorem Runs.unique {t' : Task} {j : Instr V} (h : Runs c a t i) (h' : Runs c a t' j) :
    t' = t ∧ j = i := by
  obtain ⟨ch, rest, rfl, h_todo⟩ := h
  obtain ⟨ch', rest', h_eq, h_todo'⟩ := h'
  obtain ⟨rfl, rfl⟩ := Action.run.inj h_eq
  exact ⟨rfl, (List.cons.inj (h_todo'.symm.trans h_todo)).1⟩

/-- What runs has its effect. -/
theorem Runs.exec (h_runs : Runs c a t i) (h : (hubProgram hub).step c a = some c') :
    ∃ ch rest e, a = .run t ch ∧ c.todo t = i :: rest ∧ exec hub t ch i c = some e ∧
      c' = c.resume t rest e := by
  obtain ⟨ch, rest, rfl, h_todo⟩ := h_runs
  rcases Program.step_cases h with ⟨t', ch', i', rest', e, ha, h_todo', he, rfl⟩ |
    ⟨r, t', e, ha, -⟩
  · obtain ⟨rfl, rfl⟩ := Action.run.inj ha
    obtain ⟨rfl, rfl⟩ := List.cons.inj (h_todo.symm.trans h_todo')
    exact ⟨ch, rest, e, rfl, h_todo, he, rfl⟩
  · cases ha

/-- What a step can do to the slot `id`. -/
inductive SlotStep (c : Config V) (a : Action Task Choice (Request V)) (c' : Config V)
    (id : SlotId) : Prop
  | same
      (slot : (c'.store.state.slots id).map SlotEntry.core =
        (c.store.state.slots id).map SlotEntry.core)
  | registered (spec : SubscriptionSpec V) (created : Instant)
      (request : a = .request (.register spec created)) (number : id = c.store.state.nextId)
      (slot : c'.store.state.slots id = some
        { spec := spec, health := HealthTracker.new created, isolated := none, resync := false })
  | isolated (t : Task) (cause : IsolationCause) (e : SlotEntry V)
      (runs : Runs c a t (.isolate id cause)) (before : c.store.state.slots id = some e)
      (shared : e.isolated = none)
      (slot : c'.store.state.slots id = some
        { e with isolated := some { supervisor := none, cause := cause } })
  | supervised (t : Task) (e : SlotEntry V) (isolation : Isolation)
      (runs : Runs c a t .ensureSupervisors) (before : c.store.state.slots id = some e)
      (moved : e.isolated = some isolation)
      (dead : upgrade c.store.alive isolation.supervisor = false)
      (slot : c'.store.state.slots id = some { e with
        isolated := some { isolation with supervisor := some ⟨c.store.serial, .isolated id⟩ } })
  | caughtUp (t : Task) (scope : Scope) (waitUntil : Instant) (e : SlotEntry V)
      (runs : Runs c a t (.snapshot scope waitUntil)) (before : c.store.state.slots id = some e)
      (belongs : e.belongsTo id scope = true)
      (slot : c'.store.state.slots id = some
        { e with resync := false, health := e.health.caughtUp })
  | resumed (t : Task) (payload : V) (next : ResumedQuery) (e : SlotEntry V)
      (runs : Runs c a t (.resumeAfter id payload)) (before : c.store.state.slots id = some e)
      (resume : (e.spec.resume.bind fun resume => resume payload) = some next)
      (slot : c'.store.state.slots id = some { e with
        spec := { e.spec with document := next.document, queryVariables := next.queryVariables } })
  | resync (t : Task) (e : SlotEntry V)
      (runs : Runs c a t (.requestResync id)) (before : c.store.state.slots id = some e)
      (slot : c'.store.state.slots id = some { e with resync := true })
  | ended (t : Task) (ids : List SlotId) (reason : SubscriptionEnd)
      (runs : Runs c a t (.endSlots ids reason)) (listed : id ∈ ids)
      (slot : c'.store.state.slots id = none)
  | deregistered (t : Task) (runs : Runs c a t (.deregister id))
      (slot : c'.store.state.slots id = none)

/-- A request other than a registration leaves the state alone. -/
theorem accept_state {r : Request V} (h : accept r c = some (t, e)) :
    e.store.state = c.store.state ∨ ∃ spec created, r = .register spec created ∧
      e.store.state = c.store.state.register spec (HealthTracker.new created) := by
  -- of the requests only a registration writes the state
  cases r with
  | register spec created =>
    simp only [accept] at h
    split at h
    · obtain ⟨rfl, rfl⟩ := Prod.mk.inj (Option.some.inj h)
      exact Or.inr ⟨spec, created, rfl, rfl⟩
    · cases h
  | poll id =>
    simp only [accept] at h
    split at h
    · obtain ⟨rfl, rfl⟩ := Prod.mk.inj (Option.some.inj h)
      exact Or.inl rfl
    · cases h
  | drop id =>
    simp only [accept] at h
    split at h
    · obtain ⟨rfl, rfl⟩ := Prod.mk.inj (Option.some.inj h)
      exact Or.inl rfl
    · cases h
  | tick d =>
    obtain ⟨rfl, rfl⟩ := Prod.mk.inj (Option.some.inj h)
    exact Or.inl rfl

/-! ### One instruction at a time -/

/-- `isolate` moves a slot that is on the shared connection, and nothing else. -/
theorem exec_isolate {id : SlotId} {cause : IsolationCause}
    (h : exec hub t ch (.isolate id cause) c = some e) :
    e.store.state = c.store.state ∨
      ∃ entry, c.store.state.slots id = some entry ∧ entry.isolated = none ∧
        e.store.state = c.store.state.modifySlot id fun e =>
          { e with isolated := some { supervisor := none, cause } } := by
  simp only [exec] at h
  split at h
  · obtain rfl := Option.some.inj h
    exact Or.inl rfl
  · next s' h_iso =>
    obtain rfl := Option.some.inj h
    exact Or.inr (HubState.isolate_eq_some _ h_iso)

/-- `request_resync` marks a slot that is registered, and nothing else. -/
theorem exec_requestResync {id : SlotId} (h : exec hub t ch (.requestResync id) c = some e) :
    e.store.state = c.store.state ∨
      ∃ entry, c.store.state.slots id = some entry ∧
        e.store.state = c.store.state.modifySlot id fun e => { e with resync := true } := by
  simp only [exec] at h
  split at h
  · obtain rfl := Option.some.inj h
    exact Or.inl rfl
  -- there is an entry, so the flag is set on it
  · next s' shared h_resync =>
    obtain rfl := Option.some.inj h
    unfold HubState.requestResync at h_resync
    split at h_resync
    · cases h_resync
    · next entry h_entry =>
      obtain ⟨rfl, -⟩ := Prod.mk.inj h_resync
      exact Or.inr ⟨entry, h_entry, rfl⟩

section Instructions

variable {id : SlotId}

/-- A step that leaves the entry of the slot alone. -/
theorem SlotStep.of_slots (h : c'.store.state.slots id = c.store.state.slots id) :
    SlotStep c a c' id := .same (congrArg _ h)

/-- A section that rewrites entries in place: only a registered slot counts. -/
theorem SlotStep.of_map {f : SlotEntry V → SlotEntry V}
    (h_map : c'.store.state.slots id = (c.store.state.slots id).map f)
    (h : ∀ entry, c.store.state.slots id = some entry →
      c'.store.state.slots id = some (f entry) → SlotStep c a c' id) : SlotStep c a c' id := by
  cases h_entry : c.store.state.slots id with
  | none =>
    rw [h_entry, Option.map_none] at h_map
    exact .of_slots (h_map.trans h_entry.symm)
  | some entry =>
    rw [h_entry, Option.map_some] at h_map
    exact h entry h_entry h_map

/-- The slot that an `isolate` names. -/
theorem SlotStep.of_isolate {id' : SlotId} {cause : IsolationCause}
    (h_runs : Runs c a t (.isolate id' cause)) (he : exec hub t ch (.isolate id' cause) c = some e)
    (h_state : c'.store.state = e.store.state) : SlotStep c a c' id := by
  rcases exec_isolate he with h_same | ⟨entry, h_entry, h_shared, h_moved⟩
  · exact .of_slots (by rw [h_state, h_same])
  · by_cases h_id : id = id'
    · subst h_id
      refine .isolated t cause entry h_runs h_entry h_shared ?_
      rw [h_state, h_moved, HubState.modifySlot_slots_self, h_entry]
      rfl
    · refine .of_slots ?_
      rw [h_state, h_moved, HubState.modifySlot_slots_of_ne _ _ h_id]

/-- The isolated slots that have no live supervisor get one. -/
theorem SlotStep.of_ensureSupervisors (h_runs : Runs c a t .ensureSupervisors)
    (h_slots : c'.store.state.slots id =
      (c.store.state.ensureSupervisors c.store.alive c.store.serial).1.slots id) :
    SlotStep c a c' id := by
  refine .of_map (h_slots.trans (HubState.ensureSupervisors_slots ..)) fun entry h_entry h_new => ?_
  split at h_new
  -- the slot lacked a live supervisor: it is given the next token
  · next h_lacks =>
    unfold HubState.lacksSupervisor at h_lacks
    split at h_lacks
    · cases h_lacks
    · next isolation h_iso =>
      rw [h_iso] at h_new
      exact .supervised t entry isolation h_runs h_entry h_iso (by simpa using h_lacks) h_new
  · exact .of_slots (h_new.trans h_entry.symm)

/-- A snapshot consumes the resync requests of its scope. -/
theorem SlotStep.of_snapshot {scope : Scope} {waitUntil : Instant}
    (h_runs : Runs c a t (.snapshot scope waitUntil))
    (h_slots : c'.store.state.slots id = (c.store.state.snapshot scope).1.slots id) :
    SlotStep c a c' id := by
  refine .of_map (h_slots.trans (HubState.snapshot_slots ..)) fun entry h_entry h_new => ?_
  split at h_new
  · next h_cond =>
    exact .caughtUp t scope waitUntil entry h_runs h_entry (Bool.and_eq_true_iff.mp h_cond).1 h_new
  · exact .of_slots (h_new.trans h_entry.symm)

/-- `resume_after` continues the query of its slot. -/
theorem SlotStep.of_resumeAfter {id' : SlotId} {payload : V}
    (h_runs : Runs c a t (.resumeAfter id' payload))
    (h_slots : c'.store.state.slots id = (c.store.state.resumeAfter id' payload).slots id) :
    SlotStep c a c' id := by
  by_cases h_id : id = id'
  · subst h_id
    refine .of_map (h_slots.trans (HubState.resumeAfter_slots ..)) fun entry h_entry h_new => ?_
    split at h_new
    · exact .of_slots (h_new.trans h_entry.symm)
    · next next h_resume => exact .resumed t payload next entry h_runs h_entry h_resume h_new
  · exact .of_slots (h_slots.trans (HubState.modifySlot_slots_of_ne _ _ h_id))

/-- The slot that asks for a resync. -/
theorem SlotStep.of_requestResync {id' : SlotId} (h_runs : Runs c a t (.requestResync id'))
    (he : exec hub t ch (.requestResync id') c = some e)
    (h_state : c'.store.state = e.store.state) : SlotStep c a c' id := by
  rcases exec_requestResync he with h_same | ⟨entry, h_entry, h_marked⟩
  · exact .of_slots (by rw [h_state, h_same])
  · by_cases h_id : id = id'
    · subst h_id
      refine .resync t entry h_runs h_entry ?_
      rw [h_state, h_marked, HubState.modifySlot_slots_self, h_entry]
      rfl
    · refine .of_slots ?_
      rw [h_state, h_marked, HubState.modifySlot_slots_of_ne _ _ h_id]

/-- A registration takes the next id. -/
theorem SlotStep.of_register {spec : SubscriptionSpec V} {created : Instant}
    (h_state : c'.store.state = c.store.state.register spec (HealthTracker.new created)) :
    SlotStep c (.request (.register spec created)) c' id := by
  by_cases h_id : id = c.store.state.nextId
  · refine .registered spec created rfl h_id ?_
    rw [h_state, h_id]
    exact Function.update_self ..
  · refine .of_slots ?_
    rw [h_state]
    exact Function.update_of_ne h_id ..

end Instructions

/-- **The list is complete.** -/
theorem slot_step (h : (hubProgram hub).step c a = some c') (id : SlotId) :
    SlotStep c a c' id := by
  rcases Program.step_cases h with ⟨t, ch, i, rest, e, rfl, h_todo, he, rfl⟩ |
    ⟨r, t, e, rfl, he, h_todo, rfl⟩
  · change exec hub t ch i c = some e at he
    -- most instructions move no slot, by the frame lemma
    by_cases h_moves : i.point.movesSlots = false
    · exact .same (((exec_leavesAlone he).slots h_moves).core id)
    have h_runs : Runs c (.run t ch) t i := ⟨ch, rest, rfl, h_todo⟩
    -- the others one by one, each with its own constructor
    cases i with
    | isolate id' cause => exact .of_isolate h_runs he rfl
    | ensureSupervisors =>
      obtain rfl := Option.some.inj he
      exact .of_ensureSupervisors h_runs rfl
    | endSlots ids reason =>
      obtain rfl := Option.some.inj he
      have h_slots := c.store.state.removeSlots_slots ids id
      split at h_slots
      · next h_mem => exact .ended t ids reason h_runs h_mem h_slots
      · exact .of_slots h_slots
    | snapshot scope waitUntil =>
      obtain rfl := Option.some.inj he
      exact .of_snapshot h_runs rfl
    | resumeAfter id' payload =>
      obtain rfl := Option.some.inj he
      exact .of_resumeAfter h_runs rfl
    | requestResync id' => exact .of_requestResync h_runs he rfl
    | deregister id' =>
      obtain rfl := Option.some.inj he
      have h_slots := c.store.state.removeSlots_slots [id'] id
      split at h_slots
      · next h_mem =>
        obtain rfl := List.mem_singleton.mp h_mem
        exact .deregistered t h_runs h_slots
      · exact .of_slots h_slots
    | _ => exact absurd rfl h_moves
  · -- a request from outside
    rcases accept_state he with h_same | ⟨spec, created, rfl, h_reg⟩
    · exact .of_slots (by rw [resume_store, h_same])
    · exact .of_register h_reg

/-- The first section of `request_resync` leaves the request behind. -/
theorem resync_of_request {id : SlotId} (h_runs : Runs c a t (.requestResync id))
    (h : (hubProgram hub).step c a = some c') {e' : SlotEntry V}
    (h_e' : c'.store.state.slots id = some e') : e'.resync = true := by
  obtain ⟨ch, rest, eff, -, -, he, rfl⟩ := h_runs.exec h
  -- without an entry there is nothing to request, and none is there afterwards
  cases h_e : c.store.state.slots id with
  | none =>
    simp only [exec, HubState.requestResync, h_e] at he
    obtain rfl := Option.some.inj he
    cases h_e.symm.trans h_e'
  | some e =>
    simp only [exec, HubState.requestResync, h_e] at he
    obtain rfl := Option.some.inj he
    have h_slot := HubState.modifySlot_slots_self c.store.state id
      fun e => { e with resync := true }
    rw [h_e] at h_slot
    obtain rfl := Option.some.inj (h_slot.symm.trans h_e')
    rfl

/-- No instruction hands out an id. -/
theorem exec_nextId (h : exec hub t ch i c = some e) :
    e.store.state.nextId = c.store.state.nextId := by
  -- only these instructions touch the map of slots; a registration is no instruction
  by_cases h_moves : i.point.movesSlots = false
  · exact ((exec_leavesAlone h).slots h_moves).nextId
  cases i with
  | isolate id cause =>
    rcases exec_isolate h with h_same | ⟨-, -, -, h_moved⟩
    · rw [h_same]
    · rw [h_moved]
      rfl
  | requestResync id =>
    rcases exec_requestResync h with h_same | ⟨-, -, h_marked⟩
    · rw [h_same]
    · rw [h_marked]
      rfl
  | ensureSupervisors => obtain rfl := Option.some.inj h; rfl
  | endSlots ids reason => obtain rfl := Option.some.inj h; rfl
  | snapshot scope waitUntil => obtain rfl := Option.some.inj h; rfl
  | resumeAfter id payload => obtain rfl := Option.some.inj h; rfl
  | deregister id => obtain rfl := Option.some.inj h; rfl
  | _ => exact absurd rfl h_moves

/-- Ids are handed out in order, one for each registration. -/
theorem nextId_step (h : (hubProgram hub).step c a = some c') :
    (c'.store.state.nextId = c.store.state.nextId ∧
      ∀ spec created, a ≠ .request (.register spec created)) ∨
    ∃ spec created, a = .request (.register spec created) ∧
      c'.store.state.nextId = c.store.state.nextId + 1 := by
  rcases Program.step_cases h with ⟨t, ch, i, rest, e, rfl, h_todo, he, rfl⟩ |
    ⟨r, t, e, rfl, he, h_todo, rfl⟩
  · exact Or.inl ⟨exec_nextId he, nofun⟩
  -- a registration takes the next number, so the count tells it from the other requests
  · rcases accept_state he with h_same | ⟨spec, created, rfl, h_reg⟩
    · refine Or.inl ⟨congrArg HubState.nextId h_same, ?_⟩
      rintro spec created h_eq
      obtain rfl := Action.request.inj h_eq
      change accept (.register spec created) c = some (t, e) at he
      simp only [accept] at he
      split at he
      · obtain ⟨rfl, rfl⟩ := Prod.mk.inj (Option.some.inj he)
        exact absurd (congrArg HubState.nextId h_same) (Nat.succ_ne_self _)
      · cases he
    · exact Or.inr ⟨spec, created, rfl, congrArg HubState.nextId h_reg⟩

/-- The token of the shared connection is replaced by `ensure_supervisors` only. -/
theorem supervisor_step (h : (hubProgram hub).step c a = some c')
    (h_ensure : ∀ t, ¬ Runs c a t .ensureSupervisors) :
    c'.store.state.supervisor = c.store.state.supervisor := by
  rcases Program.step_cases h with ⟨t, ch, i, rest, e, rfl, h_todo, he, rfl⟩ |
    ⟨r, t, e, rfl, he, h_todo, rfl⟩
  · rw [resume_store]
    change exec hub t ch i c = some e at he
    -- the supervisor of the shared connection is set by `ensureSupervisors` alone
    by_cases h_moves : i.point.movesSlots = false
    · exact ((exec_leavesAlone he).slots h_moves).supervisor
    cases i with
    | isolate id cause =>
      rcases exec_isolate he with h_same | ⟨-, -, -, h_moved⟩
      · rw [h_same]
      · rw [h_moved]
        rfl
    | requestResync id =>
      rcases exec_requestResync he with h_same | ⟨-, -, h_marked⟩
      · rw [h_same]
      · rw [h_marked]
        rfl
    | ensureSupervisors => exact absurd ⟨ch, rest, rfl, h_todo⟩ (h_ensure t)
    | endSlots ids reason => obtain rfl := Option.some.inj he; rfl
    | snapshot scope waitUntil => obtain rfl := Option.some.inj he; rfl
    | resumeAfter id payload => obtain rfl := Option.some.inj he; rfl
    | deregister id => obtain rfl := Option.some.inj he; rfl
    | _ => exact absurd rfl h_moves
  · rcases accept_state he with h_same | ⟨spec, created, rfl, h_reg⟩
    · exact congrArg HubState.supervisor h_same
    · exact (congrArg HubState.supervisor h_reg :)

/-! ### Where an entry comes from -/

/-- A registered slot was registered before, or just now. -/
theorem slot_origin (h : (hubProgram hub).step c a = some c') {id : SlotId} {e' : SlotEntry V}
    (h_e' : c'.store.state.slots id = some e') : (∃ e, c.store.state.slots id = some e) ∨
      ∃ spec created, a = .request (.register spec created) ∧ id = c.store.state.nextId ∧
        e' = { spec := spec, health := HealthTracker.new created, isolated := none,
               resync := false } := by
  -- only a registration makes an entry where there was none
  cases slot_step h id with
  | same slot =>
    rw [h_e'] at slot
    obtain ⟨e, h_e, -⟩ := Option.map_eq_some_iff.mp slot.symm
    exact Or.inl ⟨e, h_e⟩
  | registered spec created request number slot =>
    exact Or.inr ⟨spec, created, request, number, Option.some.inj (h_e'.symm.trans slot)⟩
  | isolated t cause e runs before shared slot => exact Or.inl ⟨e, before⟩
  | supervised t e isolation runs before moved dead slot => exact Or.inl ⟨e, before⟩
  | caughtUp t scope waitUntil e runs before belongs slot => exact Or.inl ⟨e, before⟩
  | resumed t payload next e runs before resume slot => exact Or.inl ⟨e, before⟩
  | resync t e runs before slot => exact Or.inl ⟨e, before⟩
  | ended t ids reason runs listed slot => cases slot.symm.trans h_e'
  | deregistered t runs slot => cases slot.symm.trans h_e'

/-- What becomes of the spec of a slot: it stays, is resumed, or was just registered. -/
inductive SpecStep (c : Config V) (a : Action Task Choice (Request V)) (id : SlotId)
    (spec' : SubscriptionSpec V) : Prop
  | same (e : SlotEntry V) (before : c.store.state.slots id = some e) (spec : spec' = e.spec)
  | resumed (t : Task) (payload : V) (next : ResumedQuery) (e : SlotEntry V)
      (runs : Runs c a t (.resumeAfter id payload)) (before : c.store.state.slots id = some e)
      (resume : (e.spec.resume.bind fun resume => resume payload) = some next)
      (spec : spec' =
        { e.spec with document := next.document, queryVariables := next.queryVariables })
  | registered (spec : SubscriptionSpec V) (created : Instant)
      (request : a = .request (.register spec created)) (number : id = c.store.state.nextId)
      (same : spec' = spec)

/-- What a step does to the spec of a slot. -/
theorem spec_step (h : (hubProgram hub).step c a = some c') {id : SlotId} {e' : SlotEntry V}
    (h_e' : c'.store.state.slots id = some e') : SpecStep c a id e'.spec := by
  -- the transitions that change an entry but not its query
  have h_kept : ∀ e e₁ : SlotEntry V, c.store.state.slots id = some e →
      c'.store.state.slots id = some e₁ → e₁.spec = e.spec → SpecStep c a id e'.spec := by
    intro e e₁ h_e h_e₁ h_spec
    obtain rfl := Option.some.inj (h_e₁.symm.trans h_e')
    exact .same e h_e h_spec
  cases slot_step h id with
  | same slot =>
    rw [h_e'] at slot
    obtain ⟨e, h_e, h_core⟩ := Option.map_eq_some_iff.mp slot.symm
    exact .same e h_e (congrArg SlotCore.spec h_core).symm
  | registered spec created request number slot =>
    obtain rfl := Option.some.inj (slot.symm.trans h_e')
    exact .registered spec created request number rfl
  | isolated t cause e runs before shared slot => exact h_kept e _ before slot rfl
  | supervised t e isolation runs before moved dead slot => exact h_kept e _ before slot rfl
  | caughtUp t scope waitUntil e runs before belongs slot => exact h_kept e _ before slot rfl
  -- a value with a cursor replaces the query by the one that resumes after it
  | resumed t payload next e runs before resume slot =>
    obtain rfl := Option.some.inj (slot.symm.trans h_e')
    exact .resumed t payload next e runs before resume rfl
  | resync t e runs before slot => exact h_kept e _ before slot rfl
  | ended t ids reason runs listed slot => cases slot.symm.trans h_e'
  | deregistered t runs slot => cases slot.symm.trans h_e'

/-! ### Registered slots have handed-out ids -/

/-- Every registered slot has an id below the next one. -/
def Numbered (c : Config V) : Prop :=
  ∀ id e, c.store.state.slots id = some e → id < c.store.state.nextId

/-- At the start no slot is registered. -/
theorem Numbered.initial : Numbered (initialConfig V) := by
  intro id e h
  cases h

/-- Ids are not handed out again. -/
theorem nextId_le_step (h : (hubProgram hub).step c a = some c') :
    c.store.state.nextId ≤ c'.store.state.nextId := by
  rcases nextId_step h with ⟨h_eq, -⟩ | ⟨-, -, -, h_eq⟩
  · exact Nat.le_of_eq h_eq.symm
  · exact h_eq ▸ Nat.le_succ _

/-- Every slot has an id that was handed out. -/
theorem Numbered.step (h_num : Numbered c) (h : (hubProgram hub).step c a = some c') :
    Numbered c' := by
  intro id e' h_e'
  have h_le := nextId_le_step h
  -- every entry but a new one was there before, below a bound that only grew
  have h_old : ∀ e, c.store.state.slots id = some e → id < c'.store.state.nextId :=
    fun e h_e => Nat.lt_of_lt_of_le (h_num id e h_e) h_le
  cases slot_step h id with
  | same slot =>
    rw [h_e'] at slot
    obtain ⟨e, h_e, -⟩ := Option.map_eq_some_iff.mp slot.symm
    exact h_old e h_e
  | registered spec created request number slot =>
    rcases nextId_step h with ⟨-, h_not⟩ | ⟨-, -, -, h_eq⟩
    · exact absurd request (h_not spec created)
    · rw [number, h_eq]
      exact Nat.lt_succ_self _
  | isolated t cause e runs before shared slot => exact h_old e before
  | supervised t e isolation runs before moved dead slot => exact h_old e before
  | caughtUp t scope waitUntil e runs before belongs slot => exact h_old e before
  | resumed t payload next e runs before resume slot => exact h_old e before
  | resync t e runs before slot => exact h_old e before
  | ended t ids reason runs listed slot => rw [slot] at h_e'; cases h_e'
  | deregistered t runs slot => rw [slot] at h_e'; cases h_e'

/-- A slot that moved off the shared connection does not come back. -/
theorem isolated_step (h_num : Numbered c) (h : (hubProgram hub).step c a = some c')
    {id : SlotId} {e e' : SlotEntry V} (h_e : c.store.state.slots id = some e)
    (h_e' : c'.store.state.slots id = some e') (h_iso : e'.isolated = none) :
    e.isolated = none := by
  -- the entry that a constructor of `SlotStep` names is this one
  have h_same : ∀ e₁ e₁' : SlotEntry V, c.store.state.slots id = some e₁ →
      c'.store.state.slots id = some e₁' → e₁'.isolated = e₁.isolated → e.isolated = none := by
    intro e₁ e₁' h₁ h₁' h_eq
    obtain rfl := Option.some.inj (h₁.symm.trans h_e)
    obtain rfl := Option.some.inj (h₁'.symm.trans h_e')
    exact h_eq.symm.trans h_iso
  cases slot_step h id with
  | same slot =>
    rw [h_e', h_e] at slot
    exact (congrArg SlotCore.isolated (Option.some.inj slot)).symm.trans h_iso
  -- a new entry has a number no slot had
  | registered spec created request number slot =>
    exact absurd number (Nat.ne_of_lt (h_num id e h_e))
  | isolated t cause e₁ runs before shared slot =>
    -- these two leave the slot isolated
    obtain rfl := Option.some.inj (slot.symm.trans h_e')
    cases h_iso
  | supervised t e₁ isolation runs before moved dead slot =>
    obtain rfl := Option.some.inj (slot.symm.trans h_e')
    cases h_iso
  | caughtUp t scope waitUntil e₁ runs before belongs slot => exact h_same e₁ _ before slot rfl
  | resumed t payload next e₁ runs before resume slot => exact h_same e₁ _ before slot rfl
  | resync t e₁ runs before slot => exact h_same e₁ _ before slot rfl
  | ended t ids reason runs listed slot => cases slot.symm.trans h_e'
  | deregistered t runs slot => cases slot.symm.trans h_e'

/-- A slot joins a connection when it is isolated only. -/
theorem belongsTo_step (h_num : Numbered c) (h : (hubProgram hub).step c a = some c')
    {id : SlotId} {e e' : SlotEntry V} (h_e : c.store.state.slots id = some e)
    (h_e' : c'.store.state.slots id = some e') {scope : Scope}
    (h_scope : e'.belongsTo id scope = true) : e.belongsTo id scope = true := by
  cases scope with
  | shared =>
    have h_iso : e'.isolated = none := Option.isNone_iff_eq_none.mp h_scope
    exact Option.isNone_iff_eq_none.mpr (isolated_step h_num h h_e h_e' h_iso)
  | isolated own => exact h_scope

end Blokli
