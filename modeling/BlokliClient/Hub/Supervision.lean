import BlokliClient.Hub.Tokens

/-!
# One supervisor for each connection

`ensure_supervisors` starts a supervisor for every connection that has
subscriptions but no live token, and a supervisor drops its token after it
returned and before it calls `ensure_supervisors` again. Two invariants make
this work, whatever the tasks do between their critical sections:

* `Supervised`: a live token is the one that the shared connection, or the slot
  it was made for, refers to. A second one is therefore never made.
* `Served`: a registered slot whose connection has no live token is about to be
  looked at: some task has a call of `ensure_supervisors` ahead of it that is
  not the one at the end of a running supervisor.
-/

namespace Blokli

open Worklist

variable {V : Type} {hub : HubConfig} {t : Task} {ch : Choice} {i : Instr V} {c c' : Config V}
  {e : Effect V} {a : Action Task Choice (Request V)}

/-! ### Live tokens and the connections they were made for -/

/-- The connection a supervisor has to drive for the slot. -/
def SlotEntry.scopeInUse (e : SlotEntry V) (id : SlotId) : Scope :=
  match e.isolated with
  | none => .shared
  | some _ => .isolated id

/-- A slot belongs to its scope in use. -/
theorem SlotEntry.belongsTo_scopeInUse (e : SlotEntry V) (id : SlotId) :
    e.belongsTo id (e.scopeInUse id) = true := by
  unfold SlotEntry.scopeInUse
  cases h_iso : e.isolated with
  | none => rw [SlotEntry.belongsTo, h_iso]; rfl
  | some isolation => exact beq_self_eq_true id

/-- **Supervised.** What a live token was made for refers back to it. -/
structure Supervised (c : Config V) : Prop where
  shared : ∀ token ∈ c.store.alive, token.scope = .shared →
    c.store.state.supervisor = some token
  sharedScope : ∀ token, c.store.state.supervisor = some token → token.scope = .shared
  isolated : ∀ token ∈ c.store.alive, ∀ id, token.scope = .isolated id →
    id < c.store.state.nextId ∧ ∀ e, c.store.state.slots id = some e →
      ∃ isolation, e.isolated = some isolation ∧ isolation.supervisor = some token
  isolatedScope : ∀ id e isolation token, c.store.state.slots id = some e →
    e.isolated = some isolation → isolation.supervisor = some token → token.scope = .isolated id
  unique : ∀ token ∈ c.store.alive, ∀ token' ∈ c.store.alive, token.scope = token'.scope →
    token = token'

/-- A live token can be upgraded. -/
theorem upgrade_eq_true {alive : List Token} {token : Token} (h : token ∈ alive) :
    upgrade alive (some token) = true := decide_eq_true h

namespace HubState

/-- A connection with a live token is not given another one. -/
theorem lacksSupervisor_eq_false {alive : List Token} {e : SlotEntry V} {isolation : Isolation}
    {token : Token} (h_iso : e.isolated = some isolation)
    (h_token : isolation.supervisor = some token) (h_alive : token ∈ alive) :
    lacksSupervisor alive e = false := by
  unfold lacksSupervisor
  rw [h_iso]
  change (!upgrade alive isolation.supervisor) = false
  rw [h_token, upgrade_eq_true h_alive]
  rfl

/-- The shared connection is not given another supervisor either. -/
theorem sharedLacksSupervisor_eq_false {s : HubState V} {alive : List Token} {token : Token}
    (h_token : s.supervisor = some token) (h_alive : token ∈ alive) :
    s.sharedLacksSupervisor alive = false := by
  unfold sharedLacksSupervisor
  rw [h_token, upgrade_eq_true h_alive]
  rfl

end HubState

namespace Supervised

/-- At the start no token is live. -/
theorem initial : Supervised (initialConfig V) where
  shared _ h := absurd h List.not_mem_nil
  sharedScope _ h := by cases h
  isolated _ h := absurd h List.not_mem_nil
  isolatedScope _ _ _ _ h := by cases h
  unique _ h := absurd h List.not_mem_nil

/-- Without a call of `ensure_supervisors`, tokens only go. -/
theorem step_other (h_sup : Supervised c)
    (h : (hubProgram hub).step c a = some c')
    (h_ensure : ∀ t, ¬ Runs c a t .ensureSupervisors)
    (h_alive : ∀ token ∈ c'.store.alive, token ∈ c.store.alive) : Supervised c' := by
  have h_supervisor := supervisor_step h h_ensure
  -- the isolation of a slot after the step, if it has a supervisor, is the one before
  have h_back : ∀ id e' isolation token, c'.store.state.slots id = some e' →
      e'.isolated = some isolation → isolation.supervisor = some token →
      ∃ e, c.store.state.slots id = some e ∧ e.isolated = some isolation := by
    intro id e' isolation token h_e' h_iso h_token
    cases slot_step h id with
    | same slot =>
      rw [h_e'] at slot
      obtain ⟨e, h_e, h_core⟩ := Option.map_eq_some_iff.mp slot.symm
      exact ⟨e, h_e, (congrArg SlotCore.isolated h_core).trans h_iso⟩
    | registered spec created request number slot =>
      obtain rfl := Option.some.inj (slot.symm.trans h_e')
      cases h_iso
    | isolated t cause e runs before shared slot =>
      obtain rfl := Option.some.inj (slot.symm.trans h_e')
      obtain rfl := Option.some.inj h_iso
      cases h_token
    | supervised t e isolation runs before moved dead slot => exact absurd runs (h_ensure t)
    | caughtUp t scope waitUntil e runs before belongs slot =>
      obtain rfl := Option.some.inj (slot.symm.trans h_e')
      exact ⟨e, before, h_iso⟩
    | resumed t payload next e runs before resume slot =>
      obtain rfl := Option.some.inj (slot.symm.trans h_e')
      exact ⟨e, before, h_iso⟩
    | resync t e runs before slot =>
      obtain rfl := Option.some.inj (slot.symm.trans h_e')
      exact ⟨e, before, h_iso⟩
    | ended t ids reason runs listed slot => cases slot.symm.trans h_e'
    | deregistered t runs slot => cases slot.symm.trans h_e'
  refine ⟨fun token h_mem h_scope => ?_, fun token h_eq => ?_, fun token h_mem id h_scope => ?_,
    fun id e' isolation token h_e' h_iso h_token => ?_,
    fun token h_mem token' h_mem' => h_sup.unique token (h_alive token h_mem) token'
      (h_alive token' h_mem')⟩
  · -- the living supervisors are those of before
    rw [h_supervisor]
    exact h_sup.shared token (h_alive token h_mem) h_scope
  · rw [h_supervisor] at h_eq
    exact h_sup.sharedScope token h_eq
  · -- the entry of a slot with a supervisor keeps it
    obtain ⟨h_lt, h_slot⟩ := h_sup.isolated token (h_alive token h_mem) id h_scope
    refine ⟨Nat.lt_of_lt_of_le h_lt (nextId_le_step h), fun e' h_e' => ?_⟩
    cases slot_step h id with
    | same slot =>
      rw [h_e'] at slot
      obtain ⟨e, h_e, h_core⟩ := Option.map_eq_some_iff.mp slot.symm
      obtain ⟨isolation, h_iso, h_token⟩ := h_slot e h_e
      exact ⟨isolation, (congrArg SlotCore.isolated h_core).symm.trans h_iso, h_token⟩
    | registered spec created request number slot => exact absurd number (Nat.ne_of_lt h_lt)
    | isolated t cause e runs before shared slot =>
      -- a slot that moves off the shared connection has no live token of its own yet
      obtain ⟨isolation, h_iso, -⟩ := h_slot e before
      rw [shared] at h_iso
      cases h_iso
    | supervised t e isolation runs before moved dead slot => exact absurd runs (h_ensure t)
    | caughtUp t scope waitUntil e runs before belongs slot =>
      obtain rfl := Option.some.inj (slot.symm.trans h_e')
      exact h_slot e before
    | resumed t payload next e runs before resume slot =>
      obtain rfl := Option.some.inj (slot.symm.trans h_e')
      exact h_slot e before
    | resync t e runs before slot =>
      obtain rfl := Option.some.inj (slot.symm.trans h_e')
      exact h_slot e before
    | ended t ids reason runs listed slot => cases slot.symm.trans h_e'
    | deregistered t runs slot => cases slot.symm.trans h_e'
  · -- and what an entry refers to was there before
    obtain ⟨e, h_e, h_iso⟩ := h_back id e' isolation token h_e' h_iso h_token
    exact h_sup.isolatedScope id e isolation token h_e h_iso h_token

/-- `ensure_supervisors` makes a token only for a connection without a live one. -/
theorem step_ensure (h_sup : Supervised c)
    (h_state : c'.store.state = (c.store.state.ensureSupervisors c.store.alive c.store.serial).1)
    (h_alive : c'.store.alive = c.store.alive ++
      (c.store.state.ensureSupervisors c.store.alive c.store.serial).2) : Supervised c' := by
  -- a shared supervisor is started when the one on record is not alive
  have h_supervisor : c'.store.state.supervisor =
      if c.store.state.sharedLacksSupervisor c.store.alive then some ⟨c.store.serial, .shared⟩
      else c.store.state.supervisor := (congrArg HubState.supervisor h_state :)
  have h_slots : ∀ id, c'.store.state.slots id = _ := fun id =>
    (congrFun (congrArg HubState.slots h_state) id).trans
      (HubState.ensureSupervisors_slots _ c.store.alive c.store.serial id)
  -- who is alive now was alive before, or was just started for a connection that lacked one
  have h_mem_alive : ∀ token, token ∈ c'.store.alive ↔ token ∈ c.store.alive ∨
      (c.store.state.sharedLacksSupervisor c.store.alive = true ∧
        token = ⟨c.store.serial, .shared⟩) ∨
      ∃ id e, id < c.store.state.nextId ∧ c.store.state.slots id = some e ∧
        HubState.lacksSupervisor c.store.alive e = true ∧
        token = ⟨c.store.serial, .isolated id⟩ := by
    intro token
    rw [h_alive, List.mem_append, HubState.mem_starts]
  have h_shared : ∀ token ∈ c'.store.alive, token.scope = .shared →
      c'.store.state.supervisor = some token := by
    intro token h_mem h_scope
    rcases (h_mem_alive token).mp h_mem with h_mem | ⟨h_lacks, rfl⟩ | ⟨id, e, -, -, -, rfl⟩
    · -- one from before is still the one on record
      have h_eq := h_sup.shared token h_mem h_scope
      rw [h_supervisor, HubState.sharedLacksSupervisor_eq_false h_eq h_mem]
      exact h_eq
    · -- the new one was put on record
      rw [h_supervisor, if_pos h_lacks]
    · cases h_scope
  have h_isolated : ∀ token ∈ c'.store.alive, ∀ id, token.scope = .isolated id →
      id < c'.store.state.nextId ∧ ∀ e', c'.store.state.slots id = some e' →
        ∃ isolation, e'.isolated = some isolation ∧ isolation.supervisor = some token := by
    intro token h_mem id h_scope
    have h_next : c'.store.state.nextId = c.store.state.nextId :=
      (congrArg HubState.nextId h_state :)
    rcases (h_mem_alive token).mp h_mem with h_mem | ⟨-, rfl⟩ | ⟨id', e, h_lt, h_e, h_lacks, rfl⟩
    · -- an old one: its slot does not lack a supervisor
      obtain ⟨h_lt, h_slot⟩ := h_sup.isolated token h_mem id h_scope
      refine ⟨by rw [h_next]; exact h_lt, fun e' h_e' => ?_⟩
      rw [h_slots id] at h_e'
      obtain ⟨e, h_e, rfl⟩ := Option.map_eq_some_iff.mp h_e'
      obtain ⟨isolation, h_iso, h_token⟩ := h_slot e h_e
      rw [HubState.lacksSupervisor_eq_false h_iso h_token h_mem]
      exact ⟨isolation, h_iso, h_token⟩
    · cases h_scope
    · -- a new one: the slot refers to it from now on
      obtain rfl := Scope.isolated.inj h_scope
      refine ⟨by rw [h_next]; exact h_lt, fun e' h_e' => ?_⟩
      rw [h_slots id', h_e, Option.map_some, if_pos h_lacks] at h_e'
      obtain rfl := Option.some.inj h_e'
      cases h_iso : e.isolated with
      | none => rw [HubState.lacksSupervisor, h_iso] at h_lacks; cases h_lacks
      | some isolation => exact ⟨_, rfl, rfl⟩
  refine ⟨h_shared, fun token h_eq => ?_, h_isolated,
    fun id e' isolation token h_e' h_iso h_token => ?_,
    fun token h_mem token' h_mem' h_scope => ?_⟩
  · -- the record was written with the shared scope
    rw [h_supervisor] at h_eq
    split at h_eq
    · obtain rfl := Option.some.inj h_eq
      rfl
    · exact h_sup.sharedScope token h_eq
  · -- an entry got a new supervisor with its own scope, or kept what it had
    rw [h_slots id] at h_e'
    obtain ⟨e, h_e, rfl⟩ := Option.map_eq_some_iff.mp h_e'
    split at h_iso
    · obtain ⟨isolation', -, rfl⟩ := Option.map_eq_some_iff.mp h_iso
      obtain rfl := Option.some.inj h_token
      rfl
    · exact h_sup.isolatedScope id e isolation token h_e h_iso h_token
  · -- both are what their connection refers to
    rcases (h_mem_alive token).mp h_mem with
      h_old | ⟨h_lacks, rfl⟩ | ⟨id, e, h_lt, h_e, h_lacks, rfl⟩
    · rcases (h_mem_alive token').mp h_mem' with h_old' | ⟨h_lacks, rfl⟩ |
        ⟨id, e, h_lt, h_e, h_lacks, rfl⟩
      · exact h_sup.unique token h_old token' h_old' h_scope
      · -- the shared connection had a living supervisor, so none was started
        rw [HubState.sharedLacksSupervisor_eq_false (h_sup.shared token h_old h_scope) h_old]
          at h_lacks
        cases h_lacks
      · -- the slot had a living supervisor, so none was started
        obtain ⟨-, h_slot⟩ := h_sup.isolated token h_old id h_scope
        obtain ⟨isolation, h_iso, h_token⟩ := h_slot e h_e
        rw [HubState.lacksSupervisor_eq_false h_iso h_token h_old] at h_lacks
        cases h_lacks
    · exact Option.some.inj ((h_shared _ h_mem rfl).symm.trans (h_shared _ h_mem' h_scope.symm))
    · rcases (h_mem_alive token').mp h_mem' with h_old' | ⟨-, rfl⟩ | ⟨id', e', -, -, -, rfl⟩
      · obtain ⟨-, h_slot⟩ := h_sup.isolated token' h_old' id h_scope.symm
        obtain ⟨isolation, h_iso, h_token⟩ := h_slot e h_e
        rw [HubState.lacksSupervisor_eq_false h_iso h_token h_old'] at h_lacks
        cases h_lacks
      · cases h_scope
      · obtain rfl := Scope.isolated.inj h_scope
        rfl

/-- **Supervision is preserved.** -/
theorem step (h_sup : Supervised c) (h : (hubProgram hub).step c a = some c') :
    Supervised c' := by
  by_cases h_ensure : ∃ t, Runs c a t .ensureSupervisors
  · -- a call of `ensure_supervisors`
    obtain ⟨t, h_runs⟩ := h_ensure
    obtain ⟨ch, rest, e, -, -, he, rfl⟩ := h_runs.exec h
    obtain rfl := Option.some.inj he
    exact h_sup.step_ensure rfl rfl
  · -- anything else: the living tokens become no more
    refine h_sup.step_other h (fun t h_runs => h_ensure ⟨t, h_runs⟩) fun token h_mem => ?_
    rcases Tokens.cases_of_step h with ⟨t, ch, rest, ha, h_todo, -⟩ |
      ⟨t, ch, token', rest, -, -, h_alive, -⟩ | ⟨h_alive, -⟩
    · exact absurd ⟨t, ch, rest, ha, h_todo⟩ h_ensure
    -- a token dies
    · rw [h_alive] at h_mem
      exact List.mem_of_mem_erase h_mem
    · rw [h_alive] at h_mem
      exact h_mem

end Supervised

/-! ### No slot is forgotten -/

/-- An instruction in front of the others is active, if it does not drop the receiver. -/
theorem active_cons (h : i.isDropReceiver = false) (l : List (Instr V)) :
    active (i :: l) = i :: active l := List.takeWhile_cons_of_pos (by rw [h]; rfl)

/-- Plain instructions in front of the others are active. -/
theorem active_append {l : List (Instr V)} (h : ∀ i ∈ l, i.plain) (l' : List (Instr V)) :
    active (l ++ l') = l ++ active l' := by
  refine List.takeWhile_append_of_pos fun j hj => ?_
  have h_j := (h j hj).1
  cases j <;> first | rfl | exact absurd rfl h_j

/-- A call of `ensure_supervisors` that is ahead of a task, but not the one at
the end of a running supervisor. -/
def Ensuring (c : Config V) : Prop := ∃ t, Instr.ensureSupervisors ∈ active (c.todo t)

/-- What an instruction adds counts. -/
theorem ensuring_of_next {rest : List (Instr V)} (h_todo : c.todo t = e.next ++ rest)
    (h_next : ∀ j ∈ e.next, j.plain) (h_mem : .ensureSupervisors ∈ e.next) : Ensuring c :=
  ⟨t, by rw [h_todo, active_append h_next]; exact List.mem_append_left _ h_mem⟩

/-- Such a call stays ahead until it runs. -/
theorem Ensuring.step (h_ens : Ensuring c) (h_tok : Tokens c)
    (h : (hubProgram hub).step c a = some c') :
    Ensuring c' ∨ ∃ t, Runs c a t .ensureSupervisors := by
  obtain ⟨t, h_mem⟩ := h_ens
  have h_ne : c.todo t ≠ [] := by
    intro h_nil
    rw [h_nil] at h_mem
    exact List.not_mem_nil h_mem
  rcases Program.step_cases h with ⟨t', ch, i, rest, e, rfl, h_todo, he, rfl⟩ |
    ⟨r, t', e, rfl, he, h_todo, rfl⟩
  · by_cases ht : t = t'
    · subst ht
      by_cases h_i : i = .ensureSupervisors
      · exact Or.inr ⟨t, ch, rest, rfl, by rw [h_todo, h_i]⟩
      · -- what the instruction leads to comes in front of the pending call
        refine Or.inl ⟨t, ?_⟩
        rw [resume_todo_self, active_append (exec_next_plain he)]
        refine List.mem_append_right _ ?_
        rw [h_todo] at h_mem
        cases h_drop : i.isDropReceiver with
        | false =>
          rw [active_cons h_drop] at h_mem
          exact (List.mem_cons.mp h_mem).resolve_left fun h_eq => h_i h_eq.symm
        -- after the end of a supervisor no instruction is active
        | true =>
          rw [active, List.takeWhile_cons_of_neg (by rw [h_drop]; simp)] at h_mem
          exact absurd h_mem List.not_mem_nil
    · refine Or.inl ⟨t, ?_⟩
      -- another task may only put instructions behind a task that had none
      cases h_sp : e.spawned with
      | none => rw [resume_todo_of_ne c t' rest e ht h_sp]; exact h_mem
      | some p =>
        obtain ⟨t'', is⟩ := p
        obtain ⟨token, rfl, rfl, rfl⟩ := exec_spawned he h_sp
        rw [resume_todo_of_ne_spawned c t' rest e ht h_sp]
        · exact h_mem
        · rintro rfl
          exact h_ne (h_tok.pending t' token (by rw [h_todo]; exact List.mem_cons_self)).2
  · refine Or.inl ⟨t, ?_⟩
    by_cases ht : t = t'
    · subst ht
      exact absurd h_todo h_ne
    · rw [resume_todo_of_ne c t' [] e ht (accept_frame he).1]
      exact h_mem

/-- The connection in use for the slot has a live token. -/
def HasToken (c : Config V) (id : SlotId) (e : SlotEntry V) : Prop :=
  ∃ token ∈ c.store.alive, token.scope = e.scopeInUse id

/-- **Served.** A registered slot has a supervisor, or somebody is about to look. -/
def Served (c : Config V) : Prop :=
  ∀ id e, c.store.state.slots id = some e → HasToken c id e ∨ Ensuring c

/-- The scope in use is read off the isolation. -/
theorem scopeInUse_of_isolated {e e' : SlotEntry V} (h : e'.isolated = e.isolated) (id : SlotId) :
    e'.scopeInUse id = e.scopeInUse id := by
  unfold SlotEntry.scopeInUse
  rw [h]

/-- After `ensure_supervisors` every slot has a supervisor. -/
theorem hasToken_of_ensure (h_sup : Supervised c) (h_num : Numbered c)
    (h_state : c'.store.state = (c.store.state.ensureSupervisors c.store.alive c.store.serial).1)
    (h_alive : c'.store.alive = c.store.alive ++
      (c.store.state.ensureSupervisors c.store.alive c.store.serial).2)
    {id : SlotId} {e' : SlotEntry V} (h_e' : c'.store.state.slots id = some e') :
    HasToken c' id e' := by
  -- what it starts lives, and what lived lives on
  have h_starts : ∀ token ∈ (c.store.state.ensureSupervisors c.store.alive c.store.serial).2,
      token ∈ c'.store.alive := fun token h_mem => by
    rw [h_alive]
    exact List.mem_append_right _ h_mem
  have h_old : ∀ token ∈ c.store.alive, token ∈ c'.store.alive := fun token h_mem => by
    rw [h_alive]
    exact List.mem_append_left _ h_mem
  -- the entry before the call
  have h_slot : c'.store.state.slots id = _ := (congrFun (congrArg HubState.slots h_state) id).trans
    (HubState.ensureSupervisors_slots _ c.store.alive c.store.serial id)
  rw [h_e'] at h_slot
  obtain ⟨e, h_e, h_eq⟩ := Option.map_eq_some_iff.mp h_slot.symm
  cases h_iso : e.isolated with
  | none =>
    have h_scope : e'.scopeInUse id = .shared := by
      -- an entry on the shared connection is left as it is
      have h_iso' : e'.isolated = none := by
        rw [← h_eq]
        split
        · change e.isolated.map _ = none
          rw [h_iso]
          rfl
        · exact h_iso
      unfold SlotEntry.scopeInUse
      rw [h_iso']
    rw [HasToken, h_scope]
    by_cases h_lacks : c.store.state.sharedLacksSupervisor c.store.alive = true
    · exact ⟨_, h_starts _ ((HubState.mem_starts ..).mpr (Or.inl ⟨h_lacks, rfl⟩)), rfl⟩
    · -- the shared connection has subscriptions, so it only lacks nothing if its token lives
      have h_mem : id ∈ c.store.state.scopeIds .shared :=
        (HubState.mem_scopeIds _).mpr ⟨h_num id e h_e, e, h_e, by
          rw [SlotEntry.belongsTo, h_iso]
          rfl⟩
      have h_up : upgrade c.store.alive c.store.state.supervisor = true := by
        unfold HubState.sharedLacksSupervisor at h_lacks
        cases h_ids : c.store.state.scopeIds .shared with
        | nil => rw [h_ids] at h_mem; exact absurd h_mem List.not_mem_nil
        | cons x xs => rw [h_ids] at h_lacks; simpa using h_lacks
      cases h_tok : c.store.state.supervisor with
      | none => rw [h_tok] at h_up; cases h_up
      | some token =>
        rw [h_tok] at h_up
        exact ⟨token, h_old token (of_decide_eq_true h_up), h_sup.sharedScope token h_tok⟩
  | some isolation =>
    by_cases h_lacks : HubState.lacksSupervisor c.store.alive e = true
    · -- its token is replaced by one that starts
      refine ⟨_, h_starts _ ((HubState.mem_starts ..).mpr
        (Or.inr ⟨id, e, h_num id e h_e, h_e, h_lacks, rfl⟩)), ?_⟩
      rw [if_pos h_lacks, h_iso] at h_eq
      rw [← h_eq]
      rfl
    · -- its token lives
      rw [if_neg h_lacks] at h_eq
      subst h_eq
      unfold HubState.lacksSupervisor at h_lacks
      rw [h_iso] at h_lacks
      cases h_tok : isolation.supervisor with
      | none => simp [h_tok, upgrade] at h_lacks
      | some token =>
        simp only [h_tok, upgrade, Bool.not_eq_true', decide_eq_false_iff_not, not_not] at h_lacks
        refine ⟨token, h_old token h_lacks, ?_⟩
        rw [h_sup.isolatedScope id e isolation token h_e h_iso h_tok, SlotEntry.scopeInUse, h_iso]

namespace Served

/-- At the start no slot is registered. -/
theorem initial : Served (initialConfig V) := by
  intro id e h
  cases h

/-- A slot that keeps its connection keeps its supervisor, or somebody looks. -/
theorem step_kept (h_served : Served c) (h_tok : Tokens c) (h_own : Owned c)
    (h : (hubProgram hub).step c a = some c')
    (h_ensure : ∀ t, ¬ Runs c a t .ensureSupervisors) {id : SlotId} {e e' : SlotEntry V}
    (h_e : c.store.state.slots id = some e) (h_iso : e'.isolated = e.isolated) :
    HasToken c' id e' ∨ Ensuring c' := by
  rcases h_served id e h_e with ⟨token, h_mem, h_scope⟩ | h_ens
  · rcases Tokens.cases_of_step h with ⟨t, ch, rest, ha, h_todo, -⟩ |
      ⟨t, ch, token', rest, rfl, h_todo, h_alive, -, h_todo'⟩ | ⟨h_alive, -⟩
    · -- the step is a call of `ensure_supervisors`, which is excluded
      exact absurd ⟨ch, rest, ha, h_todo⟩ (h_ensure t)
    · by_cases h_eq : token = token'
      · -- the token of the slot is dropped, and its supervisor looks next
        subst h_eq
        obtain rfl : t = .supervisor token := h_own t (.dropToken token)
          (by rw [h_todo]; exact List.mem_cons_self)
        have h_tail := h_tok.tail (.supervisor token)
        rw [h_todo] at h_tail
        refine Or.inr ⟨.supervisor token, ?_⟩
        rw [h_todo', Tail.dropToken h_tail]
        exact List.mem_cons_self
      · -- another supervisor leaves
        refine Or.inl ⟨token, ?_, ?_⟩
        · rw [h_alive]
          exact (List.mem_erase_of_ne h_eq).mpr h_mem
        · rw [scopeInUse_of_isolated h_iso]
          exact h_scope
    · -- no token dies
      refine Or.inl ⟨token, by rw [h_alive]; exact h_mem, ?_⟩
      rw [scopeInUse_of_isolated h_iso]
      exact h_scope
  · rcases h_ens.step h_tok h with h_ens | ⟨t, h_runs⟩
    -- the call is still to come
    · exact Or.inr h_ens
    · exact absurd h_runs (h_ensure t)

/-- **No slot is forgotten.** -/
theorem step (h_served : Served c) (h_tok : Tokens c) (h_sup : Supervised c) (h_num : Numbered c)
    (h_own : Owned c) (h : (hubProgram hub).step c a = some c') : Served c' := by
  intro id e' h_e'
  by_cases h_ensure : ∃ t, Runs c a t .ensureSupervisors
  · -- every slot has a token behind the call
    obtain ⟨t, h_runs⟩ := h_ensure
    obtain ⟨ch, rest, e, -, -, he, rfl⟩ := h_runs.exec h
    obtain rfl := Option.some.inj he
    exact Or.inl (hasToken_of_ensure h_sup h_num rfl rfl h_e')
  · have h_not : ∀ t, ¬ Runs c a t .ensureSupervisors := fun t h_runs => h_ensure ⟨t, h_runs⟩
    cases slot_step h id with
    -- nothing of the slot that matters changed
    | same slot =>
      rw [h_e'] at slot
      obtain ⟨e, h_e, h_core⟩ := Option.map_eq_some_iff.mp slot.symm
      exact h_served.step_kept h_tok h_own h h_not h_e (congrArg SlotCore.isolated h_core).symm
    | registered spec created request number slot =>
      -- a registration calls `ensure_supervisors` next
      subst request
      rcases Program.step_cases h with ⟨_, _, _, _, _, ha, -⟩ | ⟨r, t, e, ha, he, -, rfl⟩
      · cases ha
      · obtain rfl := Action.request.inj ha
        change accept (.register spec created) c = some (t, e) at he
        refine Or.inr (ensuring_of_next (resume_todo_self _ _ [] _)
          (accept_next_plain he) ?_)
        simp only [accept] at he
        split at he
        · obtain ⟨-, rfl⟩ := Prod.mk.inj (Option.some.inj he)
          exact List.mem_cons_of_mem _ List.mem_cons_self
        · cases he
    | isolated t cause e runs before shared slot =>
      -- and so does `isolate`
      obtain ⟨ch, rest, eff, -, -, he, rfl⟩ := runs.exec h
      refine Or.inr (ensuring_of_next (resume_todo_self _ _ rest _) (exec_next_plain he) ?_)
      simp only [exec] at he
      split at he
      · next h_iso => exact absurd shared (HubState.isolate_eq_none _ h_iso before)
      · obtain rfl := Option.some.inj he
        exact List.mem_cons_of_mem _ List.mem_cons_self
    -- a token is set by `ensure_supervisors` only
    | supervised t e isolation runs before moved dead slot => exact absurd runs (h_not t)
    -- the slot stays on its connection in what follows
    | caughtUp t scope waitUntil e runs before belongs slot =>
      obtain rfl := Option.some.inj (slot.symm.trans h_e')
      exact h_served.step_kept h_tok h_own h h_not before rfl
    | resumed t payload next e runs before resume slot =>
      obtain rfl := Option.some.inj (slot.symm.trans h_e')
      exact h_served.step_kept h_tok h_own h h_not before rfl
    | resync t e runs before slot =>
      obtain rfl := Option.some.inj (slot.symm.trans h_e')
      exact h_served.step_kept h_tok h_own h h_not before rfl
    -- no slot is left
    | ended t ids reason runs listed slot => cases slot.symm.trans h_e'
    | deregistered t runs slot => cases slot.symm.trans h_e'

end Served

/-! ### Runs of a hub -/

/-- What every configuration of a hub satisfies. -/
structure Sound (c : Config V) : Prop where
  owned : Owned c
  numbered : Numbered c
  tokens : Tokens c
  listening : Listening c
  supervised : Supervised c
  served : Served c

/-- The invariants hold at the start. -/
theorem Sound.initial : Sound (initialConfig V) :=
  ⟨Owned.initial, Numbered.initial, Tokens.initial, Listening.initial, Supervised.initial,
    Served.initial⟩

/-- The invariants hold after one step. -/
theorem Sound.step (h_sound : Sound c) (h : (hubProgram hub).step c a = some c') : Sound c' :=
  ⟨h_sound.owned.step h, h_sound.numbered.step h, h_sound.tokens.step h_sound.owned h,
    h_sound.listening.step h_sound.tokens h_sound.owned h, h_sound.supervised.step h,
    h_sound.served.step h_sound.tokens h_sound.supervised
      h_sound.numbered h_sound.owned h⟩

/-- **Soundness of every run**, whatever its steps are restricted to. -/
theorem Sound.reachable {Allowed : Config V → Action Task Choice (Request V) → Prop}
    (h : (hubProgram hub).Reachable (initialConfig V) Allowed c) : Sound c :=
  h.induct Sound.initial fun _ h_sound _ h => h_sound.step h

/-- A supervisor that executes has a live token. -/
theorem Sound.alive_of_executing (h_sound : Sound c) {token : Token} (h_exec : Executing c token) :
    token ∈ c.store.alive :=
  h_sound.tokens.running token (Tail.executing (h_sound.tokens.tail (.supervisor token)) h_exec)

/-- A supervisor of its own runs only for a slot that was isolated. -/
theorem Sound.isolated_of_executing (h_sound : Sound c) {token : Token}
    (h_exec : Executing c token) {id : SlotId} (h_scope : token.scope = .isolated id)
    {e : SlotEntry V} (h_e : c.store.state.slots id = some e) : e.isolated ≠ none := by
  obtain ⟨isolation, h_iso, -⟩ :=
    (h_sound.supervised.isolated token (h_sound.alive_of_executing h_exec) id h_scope).2 e h_e
  rw [h_iso]
  exact Option.some_ne_none _

/-- What a running supervisor drives is the connection in use for its slots. -/
theorem Sound.scopeInUse_eq (h_sound : Sound c) {token : Token} (h_exec : Executing c token)
    {id : SlotId} {e : SlotEntry V} (h_e : c.store.state.slots id = some e)
    (h_scope : e.belongsTo id token.scope = true) : e.scopeInUse id = token.scope := by
  unfold SlotEntry.scopeInUse
  cases h_ts : token.scope with
  | shared =>
    -- a slot of the shared connection
    rw [h_ts] at h_scope
    rw [Option.isNone_iff_eq_none.mp h_scope]
  | isolated own =>
    rw [h_ts] at h_scope
    -- the slot whose own connection it is
    obtain rfl : id = own := beq_iff_eq.mp h_scope
    cases h_iso : e.isolated with
    | none => exact absurd h_iso (h_sound.isolated_of_executing h_exec h_ts h_e)
    | some isolation => rfl

/-- No register, isolate or exit of a supervisor is half done. -/
structure Settled (c : Config V) : Prop where
  mutators : ∀ t, ∀ i ∈ active (c.todo t),
    i.point ≠ .ensureSupervisors ∧ i.point ≠ .spawnSupervisor
  exits : ∀ token, c.todo (.supervisor token) = [] ∨
    Executing c token ∧ active (c.todo (.supervisor token)) ≠ []

/-- The supervisor of a live token executes once everything is settled. -/
theorem Settled.executing (h_settled : Settled c) (h_tok : Tokens c) {token : Token}
    (h_mem : token ∈ c.store.alive) :
    Executing c token ∧ active (c.todo (.supervisor token)) ≠ [] := by
  rcases h_tok.alive token h_mem with ⟨t, hj⟩ | hj
  · -- a pending start is never behind the end of a running supervisor
    exfalso
    have h_active : Instr.spawnSupervisor token ∈ active (c.todo t) := by
      have h_plain : ∀ l : List (Instr V), (∀ i ∈ l, i.plain) → active l = l := fun l h => by
        rw [← List.append_nil l, active_append h]
        rfl
      have h_tail := h_tok.tail t
      cases t with
      | consumer id => rw [h_plain _ h_tail]; exact hj
      | environment => rw [h_plain _ h_tail]; exact hj
      | supervisor token' =>
        generalize c.todo (.supervisor token') = l at hj h_tail
        cases h_tail with
        | left _ h => rw [h_plain _ fun i hi => Instr.plain_of_left (h i hi)]; exact hj
        | leaving => simp at hj
        | running body h_body =>
          rw [active_append h_body]
          rcases List.mem_append.mp hj with hj | hj
          · exact List.mem_append_left _ hj
          · simp at hj
    exact (h_settled.mutators t _ h_active).2 rfl
  · -- the token is of a supervisor that runs, or left
    rcases h_settled.exits token with h_nil | h_exec
    · rw [h_nil] at hj
      exact absurd hj List.not_mem_nil
    · exact h_exec

/-- **One supervisor for each connection, and no orphaned subscription.** At
most one `run_supervisor` executes for a scope; a registered slot belongs to
exactly one scope that is in use, which is the shared one until the slot is
isolated and its own afterwards; and when nothing is half done, that scope has a
running supervisor. -/
theorem one_supervisor_per_connection
    (h : (hubProgram hub).Reachable (initialConfig V) Program.anyStep c) :
    (∀ token token', Executing c token → Executing c token' → token.scope = token'.scope →
      token = token') ∧
    (∀ id e, c.store.state.slots id = some e →
      e.belongsTo id (e.scopeInUse id) = true ∧
      ∀ scope, e.belongsTo id scope = true →
        scope = .shared ∨ (∃ token, Executing c token ∧ token.scope = scope) →
        scope = e.scopeInUse id) ∧
    (Settled c → ∀ id e, c.store.state.slots id = some e →
      ∃ token, Executing c token ∧ active (c.todo (.supervisor token)) ≠ [] ∧
        token.scope = e.scopeInUse id) := by
  have h_sound := Sound.reachable h
  refine ⟨fun token token' h_exec h_exec' => ?_, fun id e h_e =>
    ⟨?_, fun scope h_scope h_use => ?_⟩,
    fun h_settled id e h_e => ?_⟩
  · -- two supervisors of a scope have the same token
    exact h_sound.supervised.unique token (h_sound.alive_of_executing h_exec) token'
      (h_sound.alive_of_executing h_exec')
  · exact e.belongsTo_scopeInUse id
  · -- the shared connection, or that of a supervisor
    rcases h_use with rfl | ⟨token, h_exec, rfl⟩
    · unfold SlotEntry.scopeInUse
      rw [Option.isNone_iff_eq_none.mp h_scope]
    · exact (h_sound.scopeInUse_eq h_exec h_e h_scope).symm
  · -- nothing is half done, so that the token has a supervisor
    rcases h_sound.served id e h_e with ⟨token, h_mem, h_scope⟩ | ⟨t, h_mem⟩
    · obtain ⟨h_exec, h_active⟩ := h_settled.executing h_sound.tokens h_mem
      exact ⟨token, h_exec, h_active, h_scope⟩
    · exact absurd rfl (h_settled.mutators t _ h_mem).1

/-- Nothing is half done when only one supervisor has work, and waits. -/
theorem settled_of_alone {c : Config ℕ} {d : Driving ℕ} {stall : Option Instant}
    {rest : List (Instr ℕ)}
    (h_todo : c.todo firstSupervisor = .select d stall :: .dropReceiver ⟨0, .shared⟩ :: rest)
    (h_idle : ∀ t, t ≠ firstSupervisor → c.todo t = []) : Settled c := by
  -- the supervisor waits, and has nothing behind its own end
  have h_active : active (c.todo firstSupervisor) = [.select d stall] := by
    rw [h_todo]
    rfl
  have h_exec : Executing c ⟨0, .shared⟩ := by
    show _ ∈ c.todo firstSupervisor
    rw [h_todo]
    exact List.mem_cons_of_mem _ List.mem_cons_self
  constructor
  · -- no instruction is half done
    intro t i hi
    by_cases h_t : t = firstSupervisor
    · subst h_t
      rw [h_active] at hi
      obtain rfl := List.mem_singleton.mp hi
      exact ⟨nofun, nofun⟩
    · rw [h_idle t h_t] at hi
      exact absurd hi List.not_mem_nil
  · -- each supervisor is at work, or gone
    intro token
    by_cases h_t : Task.supervisor token = firstSupervisor
    · obtain rfl : token = ⟨0, .shared⟩ := Task.supervisor.inj h_t
      refine Or.inr ⟨h_exec, ?_⟩
      change active (c.todo firstSupervisor) ≠ []
      rw [h_active]
      exact List.cons_ne_nil _ _
    · exact Or.inl (h_idle _ h_t)

/-- With two streams whose consumers have nothing to do, only the first supervisor has work. -/
theorem alone_of_pair {c : Config ℕ} (h_within : Within pairTasks c)
    (h_idle : c.todo (.consumer 0) = [] ∧ c.todo (.consumer 1) = [] ∧ c.todo .environment = []) :
    ∀ t, t ≠ firstSupervisor → c.todo t = [] := by
  -- the tasks are the listed ones, or never began
  intro t h_t
  by_cases h_mem : t ∈ pairTasks
  · simp only [pairTasks, List.mem_cons, List.not_mem_nil, or_false] at h_mem
    rcases h_mem with rfl | rfl | rfl | rfl
    · exact h_idle.1
    · exact h_idle.2.1
    · exact absurd rfl h_t
    · exact h_idle.2.2
  · exact h_within t h_mem

/-- The theorem at a hub with two streams, whose connection is open: nothing is half done, and
both streams have the supervisor of the shared connection. -/
theorem one_supervisor_per_connection_registered : ∃ c e e',
    (hubProgram sampleHub).runWithin pairTasks (fun _ _ => true) (initialConfig ℕ) openingPair =
      some c ∧ Settled c ∧
    c.store.state.slots 0 = some e ∧ c.store.state.slots 1 = some e' ∧
    ∃ token, Executing c token ∧ active (c.todo (.supervisor token)) ≠ [] ∧
      token.scope = e.scopeInUse 0 ∧ token.scope = e'.scopeInUse 1 := by
  have ⟨c, d, stall, rest, e, e', h_run, h_todo, h_idle, h_e, h_e', h_shared, h_shared'⟩ :
      ∃ c d stall rest e e',
        (hubProgram sampleHub).runWithin pairTasks (fun _ _ => true) (initialConfig ℕ)
          openingPair = some c ∧
        c.todo firstSupervisor = .select d stall :: .dropReceiver ⟨0, .shared⟩ :: rest ∧
        (c.todo (.consumer 0) = [] ∧ c.todo (.consumer 1) = [] ∧ c.todo .environment = []) ∧
        c.store.state.slots 0 = some e ∧ c.store.state.slots 1 = some e' ∧
        e.scopeInUse 0 = .shared ∧ e'.scopeInUse 1 = .shared :=
    ⟨_, _, _, _, _, _, rfl, rfl, ⟨rfl, rfl, rfl⟩, rfl, rfl, rfl, rfl⟩
  -- the run stays among the listed tasks
  obtain ⟨h_reach, h_within⟩ := Program.Reachable.runWithin (fun _ _ _ _ => trivial) .init
    (fun _ _ => rfl) h_run
  have h_settled : Settled c := settled_of_alone h_todo (alone_of_pair h_within h_idle)
  obtain ⟨h_unique, -, h_served⟩ := one_supervisor_per_connection h_reach
  -- the token of either stream
  obtain ⟨token, h_exec, h_active, h_scope⟩ := h_served h_settled 0 e h_e
  obtain ⟨token', h_exec', -, h_scope'⟩ := h_served h_settled 1 e' h_e'
  -- two supervisors of the shared connection are one
  obtain rfl : token = token' :=
    h_unique token token' h_exec h_exec' (by rw [h_scope, h_scope', h_shared, h_shared'])
  exact ⟨c, e, e', h_run, h_settled, h_e, h_e', token, h_exec, h_active, h_scope, h_scope'⟩

/-- `belongs_to` alone does not single out one scope: a slot that is still on
the shared connection also belongs to `Isolated(id)`. -/
theorem belongs_to_two_scopes :
    ∃ c, (hubProgram sampleHub).run (initialConfig ℕ) (registering 0 5) = some c ∧
      ∃ e, c.store.state.slots 0 = some e ∧ e.belongsTo 0 .shared = true ∧
        e.belongsTo 0 (.isolated 0) = true := by
  exact ⟨_, rfl, _, rfl, rfl, rfl⟩

end Blokli
