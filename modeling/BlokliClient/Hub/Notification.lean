import BlokliClient.Hub.Documents
import BlokliClient.Hub.Locals
import BlokliClient.Hub.Supervision

/-!
# Notifications

Changes are signalled through the watch channel. `Dirty` says that a supervisor
has a notification ahead of it: an unseen version, or a task that is about to
publish one. It stays so until the supervisor waits for a notification
(`Dirty.step`), and whatever moves the slots of a scope publishes
(`publishing_or_kept`).

The exception is the first section of `request_resync` on a slot that is still
on the shared connection: it publishes nothing, but the consumer is in the
middle of the function and about to leave (`Leaving`).
-/

namespace Blokli

open Worklist

variable {V : Type} {hub : HubConfig} {t : Task} {ch : Choice} {i : Instr V} {c c' : Config V}
  {e : Effect V} {a : Action Task Choice (Request V)}

/-! ### Notifications -/

/-- The consumer of the slot is between the two sections of `request_resync`. -/
def Leaving (c : Config V) (id : SlotId) : Prop :=
  Instr.isolate id .lagged ∈ c.todo (.consumer id)

/-- The slot of a consumer that is about to leave the shared connection stays
there until it leaves. -/
theorem Leaving.step {id : SlotId} (h_leaving : Leaving c id) (h_sound : Sound c)
    (h : (hubProgram hub).step c a = some c') {e' : SlotEntry V}
    (h_e' : c'.store.state.slots id = some e') (h_iso : e'.isolated = none) : Leaving c' id := by
  rcases h_sound.tokens.keep h h_leaving with h_mem | ⟨ch, rest, ha, h_todo⟩
  -- what stands before the consumer's `isolate` and is not run stays
  · exact h_mem
  -- the `isolate` ran: the slot is isolated now, whichever branch it took
  · exfalso
    obtain ⟨ch', rest', eff, -, -, he, rfl⟩ := Runs.exec ⟨ch, rest, ha, h_todo⟩ h
    simp only [exec] at he
    split at he
    · next h_none =>
      obtain rfl := Option.some.inj he
      exact HubState.isolate_eq_none _ h_none h_e' h_iso
    · next state h_some =>
      -- the slot was just given a scope of its own
      obtain rfl := Option.some.inj he
      obtain ⟨e, h_e, -, rfl⟩ := HubState.isolate_eq_some _ h_some
      rw [resume_store, HubState.modifySlot_slots_self, h_e] at h_e'
      obtain rfl := Option.some.inj h_e'
      cases h_iso

/-- Some task is about to publish a generation. -/
def Publishing (c : Config V) : Prop :=
  ∃ t, ∃ i ∈ c.todo t, i.point = .bumpGeneration ∨ i.point = .sendGeneration

/-- A supervisor has a notification ahead of it. -/
def Dirty (c : Config V) (t : Task) : Prop :=
  (c.store.locals t).seen ≠ c.store.version ∨ Publishing c

/-- A task whose next instructions bump the generation is publishing. -/
theorem publishing_of_next {rest : List (Instr V)} (h : .bumpGeneration ∈ e.next) :
    Publishing (c.resume t rest e) :=
  ⟨t, .bumpGeneration, by rw [resume_todo_self]; exact List.mem_append_left _ h, Or.inl rfl⟩

/-- A supervisor that saw a change is about to read the slots again. -/
theorem exec_changed (h : exec hub t .changed i c = some e)
    (h_i : i.point ∈ [.waitReconnect, .awaitChange, .select]) :
    i.point.isControl = true ∧ ∀ j ∈ e.next, j.point.hasDocument = false := by
  -- in each of the three the wait goes on with one instruction, without a document
  cases i with
  | waitReconnect scope deadline connected =>
    refine ⟨rfl, ?_⟩
    simp only [exec] at h
    split at h
    · cases h
    · obtain rfl := Option.some.inj h
      exact List.forall_mem_singleton.mpr rfl
  | awaitChange scope waitUntil deadline slots =>
    refine ⟨rfl, ?_⟩
    simp only [exec] at h
    split at h
    · cases h
    · obtain rfl := Option.some.inj h
      exact List.forall_mem_singleton.mpr rfl
  | select d stall =>
    refine ⟨rfl, ?_⟩
    simp only [exec] at h
    split at h
    · cases h
    · obtain rfl := Option.some.inj h
      exact List.forall_mem_singleton.mpr rfl
  | _ => exact absurd h_i (Point.not_mem rfl)

/-- **Who sees a version.** A supervisor that waits, and then it reads the slots
before it holds a document again; or one that just started. -/
theorem exec_seen (h : exec hub t ch i c = some e) (t' : Task) :
    (e.store.locals t').seen = (c.store.locals t').seen ∨
    (t' = t ∧ i.point.isControl = true ∧ (∀ j ∈ e.next, j.point.hasDocument = false) ∧
      (e.store.locals t').seen = c.store.version) ∨
    ∃ token, i = .spawnSupervisor token ∧ t' = .supervisor token ∧
      (e.store.locals t').seen = c.store.version := by
  rcases exec_locals_seen h t' with h_same | ⟨h_seen, ⟨h_t, rfl, h_wait⟩ | ⟨token, h_i, h_t⟩⟩
  · exact Or.inl h_same
  · obtain ⟨h_control, h_next⟩ := exec_changed h h_wait
    exact Or.inr (Or.inl ⟨h_t, h_control, h_next, h_seen⟩)
  · exact Or.inr (Or.inr ⟨token, h_i, h_t, h_seen⟩)

/-- **How the watch channel moves.** -/
theorem version_step (h : (hubProgram hub).step c a = some c') :
    c'.store.version = c.store.version ∨
      ∃ t, Runs c a t .sendGeneration ∧ c'.store.version =
        if c.store.receivers.isEmpty then c.store.version else c.store.version + 1 := by
  rcases Program.step_cases h with ⟨t, ch, i, rest, e, rfl, h_todo, he, rfl⟩ |
    ⟨r, t, e, rfl, he, h_todo, rfl⟩
  -- only `sendGeneration` touches the version
  · by_cases h_i : i.point = .sendGeneration
    · cases i with
      | sendGeneration =>
        obtain rfl := Option.some.inj he
        exact Or.inr ⟨t, ⟨ch, rest, rfl, h_todo⟩, rfl⟩
      | _ => cases h_i
    · exact Or.inl ((exec_leavesAlone he).version h_i)
  · obtain ⟨-, -, -, -, -, h_version, -⟩ := accept_frame he
    exact Or.inl h_version

/-- The version of the watch channel never goes back. -/
theorem version_le_step (h : (hubProgram hub).step c a = some c') :
    c.store.version ≤ c'.store.version := by
  rcases version_step h with h_eq | ⟨-, -, h_eq⟩
  · exact Nat.le_of_eq h_eq.symm
  · rw [h_eq]
    split
    · exact Nat.le_refl _
    · exact Nat.le_succ _

/-- No receiver is ahead of the channel. -/
def SeenLe (c : Config V) : Prop := ∀ t, (c.store.locals t).seen ≤ c.store.version

/-- Nobody has seen anything yet, and nothing was published. -/
theorem SeenLe.initial : SeenLe (initialConfig V) := fun _ => Nat.le_refl _

/-- A receiver sees versions that were sent. -/
theorem SeenLe.step (h_seen : SeenLe c) (h : (hubProgram hub).step c a = some c') :
    SeenLe c' := by
  intro t'
  have h_le := version_le_step h
  rcases Program.step_cases h with ⟨t, ch, i, rest, e, rfl, h_todo, he, rfl⟩ |
    ⟨r, t, e, rfl, he, h_todo, rfl⟩
  -- the reader saw nothing new, or the version as it stands, or it starts with that
  · rcases exec_seen he t' with h_eq | ⟨-, -, -, h_eq⟩ | ⟨token, -, -, h_eq⟩
    · exact Nat.le_trans (Nat.le_of_eq h_eq) (Nat.le_trans (h_seen t') h_le)
    · exact Nat.le_trans (Nat.le_of_eq h_eq) h_le
    · exact Nat.le_trans (Nat.le_of_eq h_eq) h_le
  · obtain ⟨-, -, -, -, -, -, h_locals, -⟩ := accept_frame he
    rw [resume_store, h_locals]
    exact Nat.le_trans (h_seen t') h_le

/-- A notification stays ahead of a supervisor until it waits for one. -/
theorem Dirty.step {token : Token} (h_dirty : Dirty c (.supervisor token)) (h_seen : SeenLe c)
    (h_sound : Sound c) (h_exec : Executing c token)
    (h : (hubProgram hub).step c a = some c')
    (h_kept : (c'.store.locals (.supervisor token)).seen =
      (c.store.locals (.supervisor token)).seen) : Dirty c' (.supervisor token) := by
  have h_le := version_le_step h
  -- a version behind the current one stays behind; a pending notification stays or is sent
  rcases h_dirty with h_ne | ⟨t, i, hi, h_i⟩
  · have h_lt := Nat.lt_of_le_of_ne (h_seen (.supervisor token)) h_ne
    exact Or.inl (by rw [h_kept]; exact Nat.ne_of_lt (Nat.lt_of_lt_of_le h_lt h_le))
  · rcases h_sound.tokens.keep h hi with hi | ⟨ch, rest, rfl, h_todo⟩
    · exact Or.inr ⟨t, i, hi, h_i⟩
    · obtain ⟨ch', rest', e, ha, h_todo', he, rfl⟩ := Runs.exec ⟨ch, rest, rfl, h_todo⟩ h
      rcases h_i with h_i | h_i
      · -- the section is over, the send is next
        cases i with
        | bumpGeneration =>
          obtain rfl := Option.some.inj he
          exact Or.inr ⟨t, .sendGeneration, by
            rw [resume_todo_self]
            exact List.mem_cons_self, Or.inr rfl⟩
        | _ => cases h_i
      · -- the send: this supervisor holds a receiver
        cases i with
        | sendGeneration =>
          obtain rfl := Option.some.inj he
          have h_recv : token ∈ c.store.receivers := (h_sound.listening.iff token).mpr h_exec
          have h_ne : c.store.receivers.isEmpty = false := by
            cases h_r : c.store.receivers with
            | nil => rw [h_r] at h_recv; exact absurd h_recv List.not_mem_nil
            | cons x xs => rfl
          refine Or.inl ?_
          rw [h_kept, resume_store, h_ne]
          exact Nat.ne_of_lt (Nat.lt_succ_of_le (h_seen (.supervisor token)))
        | _ => cases h_i

/-! ### What the slots of a scope are -/

/-- What a step that publishes nothing keeps of the slots. -/
structure Kept (c c' : Config V) : Prop where
  scopeIds : ∀ scope, c'.store.state.scopeIds scope = c.store.state.scopeIds scope
  resync : ∀ id e', c'.store.state.slots id = some e' → e'.resync = true →
    (∃ e, c.store.state.slots id = some e ∧ e.isolated.isNone = e'.isolated.isNone ∧
      e.resync = true) ∨ e'.isolated = none ∧ Leaving c' id
  leaving : ∀ id e', Leaving c id → c'.store.state.slots id = some e' → e'.isolated = none →
    Leaving c' id

/-- What a task runs next with `bumpGeneration` in its place publishes. -/
theorem publishing_of_runs (h_runs : Runs c a t i) (h : (hubProgram hub).step c a = some c')
    (h_next : ∀ ch e, exec hub t ch i c = some e → .bumpGeneration ∈ e.next) : Publishing c' := by
  obtain ⟨ch, rest, e, -, -, he, rfl⟩ := h_runs.exec h
  exact publishing_of_next (h_next ch e he)

/-- **Whatever moves the slots of a scope publishes.** -/
theorem publishing_or_kept (h_sound : Sound c) (h : (hubProgram hub).step c a = some c')
    (h_end : ∀ t ids reason, ¬ Runs c a t (.endSlots ids reason)) :
    Publishing c' ∨ Kept c c' := by
  -- either something is about to be published, or every writer of slots is excluded in turn
  by_cases h_pub : Publishing c'
  · exact Or.inl h_pub
  refine Or.inr ?_
  -- a registration is followed by its publication
  have h_register : ∀ spec created, a ≠ .request (.register spec created) := by
    rintro spec created rfl
    rcases Program.step_cases h with ⟨_, _, _, _, _, ha, -⟩ | ⟨r, t, e, ha, he, -, rfl⟩
    · cases ha
    · obtain rfl := Action.request.inj ha
      change accept (.register spec created) c = some (t, e) at he
      simp only [accept] at he
      split at he
      · obtain ⟨rfl, rfl⟩ := Prod.mk.inj (Option.some.inj he)
        exact h_pub (publishing_of_next List.mem_cons_self)
      · cases he
  -- an isolation that takes the slot off the shared connection is followed by one too
  have h_isolate : ∀ t id cause e, Runs c a t (.isolate id cause) →
      c.store.state.slots id = some e → e.isolated ≠ none := by
    intro t id cause e h_runs h_e h_iso
    refine h_pub (publishing_of_runs h_runs h fun ch eff he => ?_)
    simp only [exec] at he
    split at he
    · next h_none => exact absurd h_iso (HubState.isolate_eq_none _ h_none h_e)
    · obtain rfl := Option.some.inj he
      exact List.mem_cons_self
  -- so is a deregistration
  have h_deregister : ∀ t id, ¬ Runs c a t (.deregister id) := by
    intro t id h_runs
    refine h_pub (publishing_of_runs h_runs h fun ch eff he => ?_)
    obtain rfl := Option.some.inj he
    exact List.mem_cons_self
  -- a resync of an isolated slot publishes; of another, its consumer is about to isolate it
  have h_resync : ∀ t id e, Runs c a t (.requestResync id) → c.store.state.slots id = some e →
      e.isolated = none ∧ Leaving c' id := by
    intro t id e h_runs h_e
    obtain ⟨ch, rest, eff, rfl, h_todo, he, rfl⟩ := h_runs.exec h
    have h_own := h_sound.owned t _ (by rw [h_todo]; exact List.mem_cons_self)
    simp only [exec, HubState.requestResync, h_e] at he
    obtain rfl := Option.some.inj he
    cases h_iso : e.isolated with
    | none =>
      refine ⟨rfl, ?_⟩
      obtain rfl : t = .consumer id := h_own
      rw [Leaving, resume_todo_self]
      exact List.mem_cons_self
    | some isolation =>
      refine absurd (publishing_of_next ?_) h_pub
      simp only [h_iso, Option.isNone_some, Bool.false_eq_true, if_false]
      exact List.mem_singleton_self _
  -- no registration, so the numbering of the slots stands
  have h_next : c'.store.state.nextId = c.store.state.nextId := by
    rcases nextId_step h with ⟨h_eq, -⟩ | ⟨spec, created, ha, -⟩
    · exact h_eq
    · exact absurd ha (h_register spec created)
  refine ⟨scopeIds_congr h_next fun id => ?_, fun id e' h_e' h_sync => ?_,
    fun id e' h_leaving h_e' h_iso => ?_⟩
  · -- the members: no transition that is left moves a slot between connections
    cases slot_step h id with
    | same slot =>
      have h_map := congrArg (Option.map fun core : SlotCore V => core.isolated.isNone) slot
      rw [Option.map_map, Option.map_map] at h_map
      exact h_map
    | registered spec created request number slot => exact absurd request (h_register spec created)
    | isolated t cause e runs before shared slot =>
      exact absurd shared (h_isolate t id cause e runs before)
    | supervised t e isolation runs before moved dead slot => rw [slot, before]; simp [moved]
    | caughtUp t scope waitUntil e runs before belongs slot => rw [slot, before]; rfl
    | resumed t payload next e runs before resume slot => rw [slot, before]; rfl
    | resync t e runs before slot => rw [slot, before]; rfl
    | ended t ids reason runs listed slot => exact absurd runs (h_end t ids reason)
    | deregistered t runs slot => exact absurd runs (h_deregister t id)
  · -- the resyncs: a new one is of a slot that is leaving
    cases slot_step h id with
    | same slot =>
      rw [h_e'] at slot
      obtain ⟨e, h_e, h_core⟩ := Option.map_eq_some_iff.mp slot.symm
      exact Or.inl ⟨e, h_e, congrArg (fun core : SlotCore V => core.isolated.isNone) h_core,
        (congrArg SlotCore.resync h_core).trans h_sync⟩
    | registered spec created request number slot => exact absurd request (h_register spec created)
    | isolated t cause e runs before shared slot =>
      exact absurd shared (h_isolate t id cause e runs before)
    | supervised t e isolation runs before moved dead slot =>
      obtain rfl := Option.some.inj (slot.symm.trans h_e')
      exact Or.inl ⟨e, before, by rw [moved]; rfl, h_sync⟩
    | caughtUp t scope waitUntil e runs before belongs slot =>
      obtain rfl := Option.some.inj (slot.symm.trans h_e')
      cases h_sync
    | resumed t payload next e runs before resume slot =>
      obtain rfl := Option.some.inj (slot.symm.trans h_e')
      exact Or.inl ⟨e, before, rfl, h_sync⟩
    | resync t e runs before slot =>
      obtain rfl := Option.some.inj (slot.symm.trans h_e')
      exact Or.inr (h_resync t id e runs before)
    | ended t ids reason runs listed slot => exact absurd runs (h_end t ids reason)
    | deregistered t runs slot => exact absurd runs (h_deregister t id)
  · exact h_leaving.step h_sound h h_e' h_iso

end Blokli
