import BlokliClient.Hub.Cursors
import BlokliClient.Hub.Degraded
import BlokliClient.Hub.Provenance

/-!
# Where a subscription resumes

Each entry that a stream returns is handed to `resume_after`, which may rewrite the stored
query of the slot. The stored query is therefore a function of the spec that the slot was
registered with and of the entries that its stream returned, in their order, whatever the
other tasks do in between.

* `continued` is what `resume_after` makes of a spec, and `Store.returned` are the entries
  that a stream returned.
* `Polled`: a consumer polls in its last instruction, so it has noted every entry before
  it takes the next one.
* `Positioned`: the stored spec of a slot, and each spec that a snapshot or a connection
  lists, is the registered one continued over a prefix of what the stream returned.
* `cursor_follows_returned` reads this for a subscription with cursors: it resumes after
  the last cursor among those entries, and an entry without a cursor changes nothing.
-/

namespace Blokli

open Worklist

variable {V K : Type} {hub : HubConfig} {t : Task} {ch : Choice} {i : Instr V} {c c' : Config V}
  {e : Effect V} {a : Action Task Choice (Request V)}

/-! ### What a stream returned -/

/-- What `resume_after` makes of a spec. -/
def SubscriptionSpec.continued (spec : SubscriptionSpec V) (value : V) : SubscriptionSpec V :=
  match spec.resume.bind fun resume => resume value with
  | none => spec
  | some next => { spec with document := next.document, queryVariables := next.queryVariables }

/-- The entry that an item carries. -/
def Item.entry (item : Item V) : Option V :=
  match item.event with
  | .data value => some value
  | .error _ => none

/-- The entries that the stream of slot `id` returned, the oldest first. -/
def returnedBy (id : SlotId) (history : List (Event V)) : List V :=
  ((history.filterMap (Event.receivedBy id)).reverse).filterMap Item.entry

def Store.returned (s : Store V) (id : SlotId) : List V := returnedBy id s.history

/-- The entries that a list of instructions is about to resume after. -/
def resuming (id : SlotId) (is : List (Instr V)) : List V :=
  is.filterMap fun
    | .resumeAfter id' value => if id' = id then some value else none
    | _ => none

/-- The pending entries, for a list of instructions in two parts. -/
theorem resuming_append (id : SlotId) (is js : List (Instr V)) :
    resuming id (is ++ js) = resuming id is ++ resuming id js := List.filterMap_append ..

/-- There are none without a `resume_after`. -/
theorem resuming_eq_nil {id : SlotId} {is : List (Instr V)}
    (h : ∀ value, .resumeAfter id value ∉ is) : resuming id is = [] := by
  refine List.filterMap_eq_nil_iff.mpr fun i h_i => ?_
  cases i with
  | resumeAfter id' value =>
    refine if_neg fun h_id => ?_
    subst h_id
    exact h value h_i
  | _ => rfl

/-- Other instructions have no entry pending. -/
theorem resuming_cons_of_ne {id : SlotId} {is : List (Instr V)}
    (h : ∀ value, i ≠ .resumeAfter id value) : resuming id (i :: is) = resuming id is := by
  have h_i : resuming id [i] = [] :=
    resuming_eq_nil fun value h_mem => h value (List.mem_singleton.mp h_mem).symm
  rw [← List.singleton_append, resuming_append, h_i, List.nil_append]

/-- A `resume_after` has its own entry pending. -/
theorem resuming_cons_self (id : SlotId) (value : V) (is : List (Instr V)) :
    resuming id (.resumeAfter id value :: is) = value :: resuming id is :=
  List.filterMap_cons_some (if_pos rfl)

/-- A poll that returned an item has the item's entry pending. -/
theorem resuming_noted (id : SlotId) (item : Item V) :
    resuming id (item.event.noted id ++ [.checkDrained id]) = item.entry.toList := by
  unfold Item.entry
  cases item.event with
  | data value => exact resuming_cons_self id value _
  | error error => rfl

/-- The entries that were returned are those of the items that were. -/
theorem returned_of_received {s s' : Store V} {id : SlotId} (h : s'.received id = s.received id) :
    s'.returned id = s.returned id := congrArg (List.filterMap Item.entry) h

/-! ### Polls come last -/

/-- Only a request makes a consumer poll. -/
theorem receive_notMem_next (h : exec hub t ch i c = some e) (id : SlotId) :
    .receive id ∉ e.next := by
  intro h_mem
  have h_point := exec_successors h _ h_mem
  cases i <;> exact absurd h_point (Point.not_mem rfl)

/-- Behind a poll, a task has nothing to do. -/
def Polled (c : Config V) : Prop := ∀ t id, .receive id ∉ (c.todo t).dropLast

namespace Polled

/-- At the start no poll is running. -/
theorem initial : Polled (initialConfig V) := fun _ _ h => absurd h List.not_mem_nil

/-- One step keeps polls in their form. -/
theorem step (h_inv : Polled c) (h : (hubProgram hub).step c a = some c') : Polled c' := by
  refine Program.todo_of_step (motive := fun _ l => ∀ id, (.receive id : Instr V) ∉ l.dropLast)
    h h_inv
    (fun t ch i rest e _ h_todo h_exec => ⟨fun id h_mem => ?_, fun t' is h_sp _ id h_mem => ?_⟩)
    fun r t e _ h_acc _ => ⟨fun id h_mem => ?_, fun t' is h_sp => ?_⟩
  · -- what an instruction leaves to do has no poll, and it comes before the rest
    have h_old := h_inv t id
    rw [h_todo] at h_old
    cases rest with
    -- the rest is empty or not: only the last entry of the whole list is free to be a poll
    | nil =>
      rw [List.append_nil] at h_mem
      exact receive_notMem_next h_exec id (List.dropLast_subset _ h_mem)
    | cons j rest =>
      rw [List.dropLast_append_of_ne_nil (List.cons_ne_nil _ _)] at h_mem
      rcases List.mem_append.mp h_mem with h_mem | h_mem
      · exact receive_notMem_next h_exec id h_mem
      · exact h_old (List.mem_cons_of_mem _ h_mem)
  · -- a supervisor never polls
    obtain ⟨token, -, -, rfl⟩ := exec_spawned h_exec h_sp
    have h_owned := supervisorCode_owned token _ (List.dropLast_subset _ h_mem)
    cases h_owned
  · change accept r c = some (t, e) at h_acc
    -- of the requests, a poll alone is a `receive`, and its task had nothing else to do
    cases r with
    | register spec created =>
      simp only [accept] at h_acc
      split at h_acc
      · obtain ⟨-, rfl⟩ := Prod.mk.inj (Option.some.inj h_acc)
        simp [List.dropLast] at h_mem
      · cases h_acc
    | poll id' =>
      simp only [accept] at h_acc
      split at h_acc
      · obtain ⟨-, rfl⟩ := Prod.mk.inj (Option.some.inj h_acc)
        exact absurd h_mem List.not_mem_nil
      · cases h_acc
    | drop id' =>
      simp only [accept] at h_acc
      split at h_acc
      · obtain ⟨-, rfl⟩ := Prod.mk.inj (Option.some.inj h_acc)
        simp [List.dropLast] at h_mem
      · cases h_acc
    | tick d =>
      obtain ⟨-, rfl⟩ := Prod.mk.inj (Option.some.inj h_acc)
      exact absurd h_mem List.not_mem_nil
  · rw [(accept_frame h_acc).1] at h_sp
    cases h_sp

/-- A task that polls does nothing else. -/
theorem alone (h : Polled c) {id : SlotId} {rest : List (Instr V)}
    (h_todo : c.todo t = .receive id :: rest) : rest = [] := by
  cases rest with
  | nil => rfl
  | cons j rest =>
    have h_not := h t id
    rw [h_todo] at h_not
    exact absurd List.mem_cons_self h_not

end Polled

/-! ### One step of a consumer -/

/-- What a step does to the entries that slot `id` returned, and to those that its consumer
is about to resume after. -/
inductive NotingStep (c : Config V) (a : Action Task Choice (Request V)) (c' : Config V)
    (id : SlotId) : Prop
  | same
      (returned : c'.store.returned id = c.store.returned id)
      (resuming : resuming id (c'.todo (.consumer id)) = resuming id (c.todo (.consumer id)))
      (other : ∀ t value, ¬ Runs c a t (.resumeAfter id value))
  | returned (values : List V) (polls : c.todo (.consumer id) = [.receive id])
      (runs : Runs c a (.consumer id) (.receive id))
      (returned : c'.store.returned id = c.store.returned id ++ values)
      (resuming : resuming id (c'.todo (.consumer id)) = values)
  | noted (value : V) (runs : Runs c a (.consumer id) (.resumeAfter id value))
      (returned : c'.store.returned id = c.store.returned id)
      (resuming : resuming id (c.todo (.consumer id)) =
        value :: resuming id (c'.todo (.consumer id)))

/-- Nothing is returned unless the consumer polls. -/
theorem returned_step (h : (hubProgram hub).step c a = some c') {id : SlotId}
    (h_polls : ∀ t, ¬ Runs c a t (.receive id)) :
    c'.store.returned id = c.store.returned id := by
  cases traffic_step h id with
  | same queue pushed received => exact returned_of_received received
  | pushed t i item runs hands queue pushed received => exact returned_of_received received
  | popped t item runs queue pushed received => exact absurd runs (h_polls t)
  | cleared closed pushed received => exact returned_of_received received

/-- **The list is complete.** -/
theorem noting_step (h_own : Owned c) (h_polled : Polled c)
    (h : (hubProgram hub).step c a = some c') (id : SlotId) : NotingStep c a c' id := by
  rcases Program.step_cases h with ⟨t, ch, i, rest, e, h_a, h_todo, h_exec, rfl⟩ |
    ⟨r, t, e, h_a, h_acc, h_idle, rfl⟩
  · change exec hub t ch i c = some e at h_exec
    have h_runs : Runs c a t i := ⟨ch, rest, h_a, h_todo⟩
    have h_owned : i.ownedBy t := h_own t i (by rw [h_todo]; exact List.mem_cons_self)
    -- only the consumer of the slot polls it, and only it notes what a poll returned
    by_cases h_t : t = .consumer id
    · subst h_t
      have h_self : (c.resume (.consumer id) rest e).todo (.consumer id) = e.next ++ rest :=
        resume_todo_self ..
      -- an instruction that is neither a poll nor a note
      have h_other : (∀ id', i ≠ .receive id') → (∀ value, i ≠ .resumeAfter id value) →
          NotingStep c a (c.resume (.consumer id) rest e) id := by
        intro h_receive h_resume
        refine .same (returned_step h fun t h_poll => ?_) ?_ fun t value h_note => ?_
        · exact h_receive id (h_runs.unique h_poll).2.symm
        · have h_next : resuming id e.next = [] := by
            refine resuming_eq_nil fun value h_mem => ?_
            have h_point := exec_successors h_exec _ h_mem
            cases i with
            | receive id' => exact h_receive id' rfl
            | _ => exact absurd h_point (Point.not_mem rfl)
          rw [h_self, h_todo, resuming_append, h_next, List.nil_append,
            resuming_cons_of_ne h_resume]
        · exact h_resume value (h_runs.unique h_note).2.symm
      -- polls and notes of another stream do not run in this task
      cases i with
      | receive id' =>
        obtain rfl : id = id' := Task.consumer.inj h_owned
        obtain rfl := h_polled.alone h_todo
        have h_step := execReceive_step (Option.some.inj h_exec)
        cases h_step with
        | popped item items queue =>
          -- an entry is returned, and is to be resumed after
          refine .returned item.entry.toList h_todo h_runs ?_ ?_
          · unfold Store.returned returnedBy
            rw [resume_store]
            change ((List.filterMap (Event.receivedBy id)
              (.received id item :: c.store.history)).reverse).filterMap Item.entry = _
            rw [List.filterMap_cons_some (receivedBy_eq_some.mpr rfl), List.reverse_cons,
              List.filterMap_append]
            refine congrArg _ ?_
            cases h_entry : item.entry with
            | none => exact List.filterMap_cons_none h_entry
            | some value => exact List.filterMap_cons_some h_entry
          · rw [h_self, List.append_nil]
            exact resuming_noted id item
        | pending queue held =>
          exact .returned [] h_todo h_runs (List.append_nil _).symm (by rw [h_self]; rfl)
        | ended queue free =>
          exact .returned [] h_todo h_runs (List.append_nil _).symm (by rw [h_self]; rfl)
      -- the entry is noted, and leaves the list
      | resumeAfter id' value =>
        obtain rfl : id = id' := Task.consumer.inj h_owned
        obtain rfl := Option.some.inj h_exec
        refine .noted value h_runs (returned_step h fun t h_poll => ?_) ?_
        · cases (h_runs.unique h_poll).2
        · rw [h_self, h_todo]
          exact resuming_cons_self id value rest
      | _ => exact h_other (fun _ h_i => (by cases h_i)) fun _ h_i => (by cases h_i)
    · -- another task has neither polls nor notes of this stream
      have h_foreign : ∀ t' j, Runs c a t' j → (∀ t'', j.ownedBy t'' → t'' = .consumer id) →
          False := by
        intro t' j h_j h_only
        obtain ⟨rfl, rfl⟩ := h_runs.unique h_j
        exact h_t (h_only _ h_owned)
      refine .same (returned_step h fun t' h_poll => ?_) ?_ fun t' value h_note => ?_
      · exact h_foreign t' _ h_poll fun _ h => h
      · refine congrArg (resuming id) ?_
        by_cases h_sp : e.spawned = none
        · exact resume_todo_of_ne c t rest e (Ne.symm h_t) h_sp
        · obtain ⟨⟨t', is⟩, h_sp⟩ := Option.ne_none_iff_exists'.mp h_sp
          obtain ⟨token, -, rfl, -⟩ := exec_spawned h_exec h_sp
          exact resume_todo_of_ne_spawned c t rest e (Ne.symm h_t) h_sp Task.noConfusion
      · exact h_foreign t' _ h_note fun _ h => h
  · -- a request runs nothing yet
    refine .same (returned_step h fun t' h_poll => ?_) ?_ fun t' value h_note => ?_
    · obtain ⟨ch, rest, h_run, -⟩ := h_poll
      cases h_a.symm.trans h_run
    · obtain ⟨h_spawned, -, -, -, -, -, -, -, -, -, h_next⟩ := accept_frame h_acc
      by_cases h_t : t = .consumer id
      · subst h_t
        rw [resume_todo_self, List.append_nil, h_idle]
        refine resuming_eq_nil fun value h_mem => ?_
        exact absurd (h_next _ h_mem) (Point.not_mem rfl)
      · rw [resume_todo_of_ne c t [] e (Ne.symm h_t) h_spawned]
    · obtain ⟨ch, rest, h_run, -⟩ := h_note
      cases h_a.symm.trans h_run

/-- What was returned stays returned. -/
theorem returned_grows (h_own : Owned c) (h_polled : Polled c)
    (h : (hubProgram hub).step c a = some c') (id : SlotId) :
    c.store.returned id <+: c'.store.returned id := by
  cases noting_step h_own h_polled h id with
  | same returned resuming other => exact returned ▸ List.prefix_refl _
  | returned values polls runs returned resuming =>
    rw [returned]
    exact List.prefix_append _ _
  | noted value runs returned resuming => exact returned ▸ List.prefix_refl _

/-- The consumer notes an entry in the stored spec. -/
theorem spec_of_noted (h : (hubProgram hub).step c a = some c') {id : SlotId} {value : V}
    (h_runs : Runs c a t (.resumeAfter id value)) {e' : SlotEntry V}
    (h_e' : c'.store.state.slots id = some e') :
    ∃ e, c.store.state.slots id = some e ∧ e'.spec = e.spec.continued value := by
  obtain ⟨ch, rest, eff, -, -, h_exec, rfl⟩ := h_runs.exec h
  obtain rfl := Option.some.inj h_exec
  rw [resume_store, HubState.resumeAfter_slots] at h_e'
  obtain ⟨e, h_e, rfl⟩ := Option.map_eq_some_iff.mp h_e'
  refine ⟨e, h_e, ?_⟩
  unfold SubscriptionSpec.continued
  cases e.spec.resume.bind fun resume => resume value with
  | none => rfl
  | some next => rfl

/-! ### The stored specs of a run -/

/-- The spec is the registered one of the slot, continued over a first part of the entries. -/
def Store.Reached (s : Store V) (id : SlotId) (values : List V) (spec : SubscriptionSpec V) :
    Prop :=
  ∃ own done, .registered id own ∈ s.history ∧ done <+: values ∧
    spec = done.foldl SubscriptionSpec.continued own

/-- A query that was reached stays so while more is returned. -/
theorem Store.Reached.mono {s s' : Store V} {id : SlotId} {values values' : List V}
    {spec : SubscriptionSpec V} (h : s.Reached id values spec)
    (h_history : ∀ own, .registered id own ∈ s.history → .registered id own ∈ s'.history)
    (h_values : values <+: values') : s'.Reached id values' spec := by
  obtain ⟨own, done, h_own, h_done, h_spec⟩ := h
  exact ⟨own, done, h_history own h_own, h_done.trans h_values, h_spec⟩

/-- **Positioned.**
* `stored` : the spec of a slot is continued over what its stream returned, but for the
  entry that the consumer is about to resume after.
* `snapshots`, `documents` : so is each spec of a pending snapshot, and of a connection,
  over a first part of what had been returned by then. -/
structure Positioned (c : Config V) : Prop where
  unused : ∀ id, c.store.state.nextId ≤ id → c.store.returned id = []
  stored : ∀ id e, c.store.state.slots id = some e → ∃ own done,
    .registered id own ∈ c.store.history ∧
    c.store.returned id = done ++ resuming id (c.todo (.consumer id)) ∧
    e.spec = done.foldl SubscriptionSpec.continued own
  snapshots : ∀ t, ∀ i ∈ c.todo t, ∀ slots, i.snapshotSlots = some slots →
    ∀ p ∈ slots, c.store.Reached p.1 (c.store.returned p.1) p.2.spec
  documents : ∀ later earlier conn scope slots connection present,
    c.store.history = later ++ .built conn scope slots connection present :: earlier →
      ∀ p ∈ slots, c.store.Reached p.1 (returnedBy p.1 earlier) p.2.spec

namespace Positioned

/-- At the start nothing is stored. -/
theorem initial : Positioned (initialConfig V) where
  unused _ _ := rfl
  stored _ _ h := by cases h
  snapshots _ _ h := absurd h List.not_mem_nil
  documents later _ _ _ _ _ _ h := by
    have h_nil : later ++ _ :: _ = [] := h.symm
    exact absurd h_nil (List.append_ne_nil_of_right_ne_nil _ (List.cons_ne_nil _ _))

/-- A stored query is reached by what was returned. -/
theorem reached_of_stored (h_inv : Positioned c) {id : SlotId} {e : SlotEntry V}
    (h_e : c.store.state.slots id = some e) :
    c.store.Reached id (c.store.returned id) e.spec := by
  obtain ⟨own, done, h_own, h_returned, h_spec⟩ := h_inv.stored id e h_e
  exact ⟨own, done, h_own, h_returned ▸ List.prefix_append _ _, h_spec⟩

section Step

variable (h_inv : Positioned c) (h_own : Owned c) (h_polled : Polled c) (h_enrolled : Enrolled c)
  (h : (hubProgram hub).step c a = some c')
include h_inv h_own h_polled h_enrolled h

/-- Slots that are not handed out yet have returned nothing. -/
theorem step_unused : ∀ id, c'.store.state.nextId ≤ id → c'.store.returned id = [] := by
  intro id h_id
  have h_before := h_inv.unused id (Nat.le_trans (nextId_le_step h) h_id)
  cases noting_step h_own h_polled h id with
  | same returned resuming other => exact returned.trans h_before
  | noted value runs returned resuming => exact returned.trans h_before
  | returned values polls runs returned resuming =>
    -- a consumer that polls was registered
    have h_lt := h_enrolled.working id (by rw [polls]; exact List.cons_ne_nil _ _)
    exact absurd (Nat.lt_of_lt_of_le h_lt (Nat.le_trans (nextId_le_step h) h_id)) (Nat.lt_irrefl _)

/-- The stored query is continued over what was returned, but for what is pending. -/
theorem step_stored : ∀ id e', c'.store.state.slots id = some e' → ∃ own done,
    .registered id own ∈ c'.store.history ∧
    c'.store.returned id = done ++ resuming id (c'.todo (.consumer id)) ∧
    e'.spec = done.foldl SubscriptionSpec.continued own := by
  intro id e' h_e'
  cases noting_step h_own h_polled h id with
  -- what was returned is now part of what the query continues after
  | noted value runs returned resuming =>
    -- the stored query continues after the entry that was the next to resume after
    obtain ⟨e, h_e, h_spec⟩ := spec_of_noted h runs h_e'
    obtain ⟨own, done, h_reg, h_returned, h_done⟩ := h_inv.stored id e h_e
    refine ⟨own, done ++ [value], history_subset h h_reg, ?_, ?_⟩
    · rw [returned, h_returned, resuming, List.append_assoc, List.singleton_append]
    · rw [h_spec, h_done, List.foldl_append]
      rfl
  | returned values polls runs returned resuming =>
    -- nothing was left to note when the consumer polled
    cases spec_step h h_e' with
    | same e before spec =>
      obtain ⟨own, done, h_reg, h_returned, h_done⟩ := h_inv.stored id e before
      have h_nil : Blokli.resuming id (c.todo (.consumer id)) = [] := by
        rw [polls]
        rfl
      rw [h_nil, List.append_nil] at h_returned
      exact ⟨own, done, history_subset h h_reg, by rw [returned, h_returned, resuming],
        spec.trans h_done⟩
    | resumed t payload next e runs' before resume spec => cases (runs.unique runs').2
    | registered spec created request number same =>
      obtain ⟨ch, rest, h_a, -⟩ := runs
      cases h_a.symm.trans request
  -- neither: the position and the query stay, except at the registration
  | same returned resuming other =>
    cases spec_step h h_e' with
    | same e before spec =>
      obtain ⟨own, done, h_reg, h_returned, h_done⟩ := h_inv.stored id e before
      exact ⟨own, done, history_subset h h_reg, by rw [returned, resuming, h_returned],
        spec.trans h_done⟩
    | resumed t payload next e runs before resume spec => exact absurd runs (other t payload)
    | registered spec created request number same =>
      -- a stream that is registered now has returned nothing
      subst request
      have h_idle : c.todo (.consumer id) = [] := by
        by_contra h_some
        exact absurd (h_enrolled.working id h_some) (number ▸ Nat.lt_irrefl _)
      refine ⟨spec, [], ?_, ?_, same⟩
      · rw [registration_recorded h, number]
        exact List.mem_cons_self
      · rw [returned, resuming, h_idle, h_inv.unused id (Nat.le_of_eq number.symm)]
        rfl

omit h_enrolled in
/-- A snapshot has queries that were stored when it was taken. -/
theorem step_snapshots : ∀ t, ∀ i ∈ c'.todo t, ∀ slots, i.snapshotSlots = some slots →
    ∀ p ∈ slots, c'.store.Reached p.1 (c'.store.returned p.1) p.2.spec := by
  intro t j hj slots h_j p hp
  have h_grow : ∀ spec, c.store.Reached p.1 (c.store.returned p.1) spec →
      c'.store.Reached p.1 (c'.store.returned p.1) spec :=
    fun spec h_reached => h_reached.mono (fun own h_reg => history_subset h h_reg)
      (returned_grows h_own h_polled h p.1)
  rcases snapshotSlots_step h hj h_j with ⟨i, hi, h_i⟩ | ⟨scope, waitUntil, h_runs, rfl⟩
  · exact h_grow _ (h_inv.snapshots t i hi slots h_i p hp)
  · obtain ⟨id, entry⟩ := p
    obtain ⟨-, e, h_e, -, rfl⟩ := c.store.state.mem_snapshot.mp hp
    exact h_grow _ (h_inv.reached_of_stored h_e)

omit h_own h_polled h_enrolled in
/-- A connection is recorded alone, and lists a snapshot that was pending. -/
theorem built_alone {new : List (Event V)} (h_new : c'.store.history = new ++ c.store.history)
    {conn : ℕ} {scope : Scope} {slots : Snapshot V} {connection : Connection V}
    {present : List SlotId} (h_mem : .built conn scope slots connection present ∈ new) :
    new = [.built conn scope slots connection present] ∧
      ∀ p ∈ slots, c.store.Reached p.1 (c.store.returned p.1) p.2.spec := by
  rcases Program.step_cases h with ⟨t, ch, i, rest, e, -, h_todo, h_exec, rfl⟩ |
    ⟨r, t, e, -, h_acc, -, rfl⟩
  · change exec hub t ch i c = some e at h_exec
    -- the only event that tells of a connection is that of the build
    obtain ⟨new', h_new', h_describes⟩ := exec_describes h_exec
    obtain rfl := List.append_cancel_right (h_new.symm.trans h_new')
    obtain ⟨rfl, rfl, h_ok, rfl⟩ := h_describes _ h_mem
    refine ⟨?_, h_inv.snapshots t _ (by rw [h_todo]; exact List.mem_cons_self) slots rfl⟩
    simp only [exec, execBuild, h_ok] at h_exec
    obtain rfl := Option.some.inj h_exec
    exact new_eq_singleton h_new'
  · -- a registration records another event
    change accept r c = some (t, e) at h_acc
    rcases accept_history h_acc with h_same | ⟨spec, created, -, h_reg⟩
    · have h_nil : new = [] := List.append_cancel_right
        (h_new.symm.trans (h_same.trans (List.nil_append _).symm))
      rw [h_nil] at h_mem
      exact absurd h_mem List.not_mem_nil
    · have h_one : new = [.registered c.store.state.nextId spec] :=
        List.append_cancel_right (h_new.symm.trans h_reg)
      rw [h_one] at h_mem
      cases List.mem_singleton.mp h_mem

omit h_own h_polled h_enrolled in
/-- A connection has those of its snapshot. -/
theorem step_documents : ∀ later earlier conn scope slots connection present,
    c'.store.history = later ++ .built conn scope slots connection present :: earlier →
      ∀ p ∈ slots, c'.store.Reached p.1 (returnedBy p.1 earlier) p.2.spec := by
  intro later earlier conn scope slots connection present h_split p hp
  have h_keep : ∀ own, .registered p.1 own ∈ c.store.history →
      .registered p.1 own ∈ c'.store.history := fun own h_reg => history_subset h h_reg
  obtain ⟨new, h_new, -⟩ := history_step h
  rw [h_new] at h_split
  rcases List.append_eq_append_iff.mp h_split with ⟨l, h_later, h_old⟩ | ⟨l, h_l, h_old⟩
  · -- the connection was recorded before
    exact (h_inv.documents l earlier conn scope slots connection present h_old p hp).mono h_keep
      (List.prefix_refl _)
  · cases l with
    | nil =>
      exact (h_inv.documents [] earlier conn scope slots connection present h_old.symm p hp).mono
        h_keep (List.prefix_refl _)
    | cons ev l =>
      -- the step records it, on the history as it was
      obtain ⟨rfl, h_earlier⟩ := List.cons.inj h_old
      obtain ⟨h_one, h_reached⟩ := h_inv.built_alone h h_new
        (h_l ▸ List.mem_append_right _ List.mem_cons_self)
      have h_nil : l = [] := by
        have h_length := congrArg List.length (h_l.symm.trans h_one)
        rw [List.length_append, List.length_cons, List.length_singleton] at h_length
        exact List.length_eq_zero_iff.mp (by omega)
      rw [h_earlier, h_nil]
      exact (h_reached p hp).mono h_keep (List.prefix_refl _)

/-- The four clauses together. -/
theorem step : Positioned c' where
  unused := h_inv.step_unused h_own h_polled h_enrolled h
  stored := h_inv.step_stored h_own h_polled h_enrolled h
  snapshots := h_inv.step_snapshots h_own h_polled h
  documents := h_inv.step_documents h

end Step

/-- The invariant along a run. -/
theorem reachable {Allowed : Config V → Action Task Choice (Request V) → Prop}
    (h : (hubProgram hub).Reachable (initialConfig V) Allowed c) : Positioned c := by
  have h_inv : Positioned c ∧ Owned c ∧ Polled c := by
    refine h.induct (motive := fun c => Positioned c ∧ Owned c ∧ Polled c)
      ⟨initial, Owned.initial, Polled.initial⟩ fun h_reach h_c _ h_step => ?_
    obtain ⟨h_pos, h_own, h_polled⟩ := h_c
    exact ⟨h_pos.step h_own h_polled (.reachable h_reach) h_step, h_own.step h_step,
      h_polled.step h_step⟩
  exact h_inv.1

end Positioned

/-- **Documents follow what was returned.** In every run, the stored query of a slot is the
one that it was registered with, continued over the entries that its stream returned, up to
the one that its consumer is about to resume after. The query of each connection is
continued over a first part of the entries that were returned before it was built. -/
theorem documents_follow_returned
    (h : (hubProgram hub).Reachable (initialConfig V) Program.anyStep c)
    (id : SlotId) :
    (∀ e, c.store.state.slots id = some e → ∃ own done,
      .registered id own ∈ c.store.history ∧
      c.store.returned id = done ++ resuming id (c.todo (.consumer id)) ∧
      e.spec = done.foldl SubscriptionSpec.continued own) ∧
    ∀ later earlier conn scope slots connection present entry,
      c.store.history = later ++ .built conn scope slots connection present :: earlier →
      (id, entry) ∈ slots → ∃ own done,
        .registered id own ∈ c.store.history ∧ done <+: returnedBy id earlier ∧
        entry.spec = done.foldl SubscriptionSpec.continued own := by
  have h_pos : Positioned c := .reachable h
  refine ⟨h_pos.stored id, fun later earlier conn scope slots connection present entry h_split
    h_entry => ?_⟩
  exact h_pos.documents later earlier conn scope slots connection present h_split _ h_entry

/-- What was pushed to a queue, read off its traffic. -/
theorem pushed_eq_traffic (s : Store V) (id : SlotId) :
    s.pushed id = (s.traffic id).filterMap (Event.pushedTo id) := by
  unfold Store.pushed Store.traffic
  rw [List.filterMap_reverse, List.filterMap_filter]
  refine congrArg List.reverse (List.filterMap_congr fun ev _ => ?_)
  cases ev <;> simp [Event.pushedTo, Event.takes]

/-- The consumer took one entry out of the queue: the one at block 0. -/
theorem GapOpen.returned {c : Config ℕ} (h_gap : GapOpen c) : c.store.returned 0 = [0] := by
  obtain ⟨items, origin, h_traffic, h_items⟩ := h_gap.traffic
  have h_pushed : c.store.pushed 0 = items := by
    rw [pushed_eq_traffic, h_traffic, List.filterMap_append, List.filterMap_map]
    exact (List.append_nil _).trans (List.filterMap_some)
  have h_fifo : c.store.pushed 0 = c.store.received 0 ++ c.store.queues 0 :=
    Fifo.reachable h_gap.reach 0 h_gap.listens
  have h_sent : items.map Item.event = [.data 0] ++ (c.store.queues 0).map Item.event := by
    rw [h_items, h_gap.queue, List.singleton_append]
    exact range_data_cons 16383
  -- what was pushed and is no longer queued was returned
  have h_events : (c.store.received 0).map Item.event = [.data 0] := by
    rw [← h_pushed, h_fifo, List.map_append] at h_sent
    exact List.append_cancel_right h_sent
  obtain ⟨item, h_received, h_event⟩ := List.map_eq_singleton_iff.mp h_events
  have h_entry : item.entry = some 0 := by
    unfold Item.entry
    rw [h_event]
  show (c.store.received 0).filterMap Item.entry = [0]
  rw [h_received, List.filterMap_cons_some h_entry, List.filterMap_nil]

/-- A stream that returned the entry at block 0, and that dropped one since: its query is the one
that it was registered with, continued over that entry. -/
theorem documents_follow_returned_gap : ∃ c e own,
    (hubProgram sampleHub).Reachable (initialConfig ℕ) Program.anyStep c ∧
      c.store.state.slots 0 = some e ∧ .registered 0 own ∈ c.store.history ∧
      c.store.returned 0 = [0] ∧ e.spec = own.continued 0 := by
  obtain ⟨c, h_gap⟩ := gap_opens
  obtain ⟨e, h_e, -⟩ := h_gap.resume
  obtain ⟨own, done, h_own, h_returned, h_spec⟩ :=
    (documents_follow_returned h_gap.reach 0).1 e h_e
  rw [h_gap.idle, h_gap.returned] at h_returned
  obtain rfl : [0] = done := h_returned.trans (List.append_nil _)
  exact ⟨c, e, own, h_gap.reach, h_e, h_own, h_gap.returned, h_spec⟩

/-! ### Cursors -/

namespace Resumption

variable (r : Resumption V K)

/-- The cursor that a stored query takes from an entry. -/
def position (value : V) : Option K :=
  (r.cursor value).bind fun k => (r.queryAfter k).map fun _ => k

variable {r} {spec : SubscriptionSpec V}

/-- One entry: its cursor replaces the old one, if it has one. -/
theorem carries_continued (h_resume : spec.resume = some r.resume) (value : V) (k : K) :
    r.Carries (spec.continued value) k ↔
      match r.position value with
      | none => r.Carries spec k
      | some k' => k' = k := by
  have h_bind : (spec.resume.bind fun resume => resume value) =
      (r.cursor value).bind r.queryAfter := by
    rw [h_resume]
    rfl
  unfold SubscriptionSpec.continued position
  rw [h_bind]
  cases h_cursor : r.cursor value with
  | none => exact Iff.rfl
  | some k' =>
    simp only [Option.bind_some]
    cases h_query : r.queryAfter k' with
    | none => exact Iff.rfl
    | some next =>
      constructor
      · intro h_carries
        exact r.names h_query h_carries
      · rintro rfl
        exact h_query

/-- Continuing a query does not change how it resumes. -/
theorem resume_continued (spec : SubscriptionSpec V) (value : V) :
    (spec.continued value).resume = spec.resume := by
  unfold SubscriptionSpec.continued
  split <;> rfl

/-- **The last cursor counts.** -/
theorem carries_foldl {own : SubscriptionSpec V} (h_serves : r.Serves own) (values : List V) :
    (values.foldl SubscriptionSpec.continued own).resume = some r.resume ∧
      ∀ k, r.Carries (values.foldl SubscriptionSpec.continued own) k ↔
        (values.filterMap r.position).getLast? = some k := by
  -- from the back, as the last cursor wins
  induction values using List.reverseRecOn with
  | nil =>
    refine ⟨h_serves.resume, fun k => ?_⟩
    constructor
    · intro h_k
      exact absurd h_k (h_serves.fresh k)
    · intro h_k
      cases h_k
  | append_singleton values value ih =>
    obtain ⟨h_resume, h_carries⟩ := ih
    rw [List.foldl_append, List.foldl_cons, List.foldl_nil]
    refine ⟨(resume_continued _ value).trans h_resume, fun k => ?_⟩
    rw [carries_continued h_resume, List.filterMap_append]
    -- a value without a position leaves the one before
    cases h_position : r.position value with
    | none =>
      rw [List.filterMap_cons_none h_position, List.filterMap_nil, List.append_nil]
      exact h_carries k
    -- a value with a position becomes the position
    | some k' =>
      rw [List.filterMap_cons_some h_position, List.filterMap_nil, List.getLast?_append,
        List.getLast?_singleton]
      exact (Option.some_inj).symm

end Resumption

/-- **Cursors follow what was returned.** The stored query of a resumable subscription
carries the last cursor among the entries that the consumer has resumed after, and none
before the first; entries without a cursor leave it alone. Each connection carries the last
cursor of a first part of the entries that were returned before it was built. -/
theorem cursor_follows_returned (r : Resumption V K) (id : SlotId)
    (h : (hubProgram hub).Reachable (initialConfig V) Program.anyStep c)
    (h_serves : ∀ spec, .registered id spec ∈ c.store.history → r.Serves spec) :
    (∀ e, c.store.state.slots id = some e → ∃ done,
      c.store.returned id = done ++ resuming id (c.todo (.consumer id)) ∧
      ∀ k, r.Carries e.spec k ↔ (done.filterMap r.position).getLast? = some k) ∧
    ∀ later earlier conn scope slots connection present entry,
      c.store.history = later ++ .built conn scope slots connection present :: earlier →
      (id, entry) ∈ slots → ∃ done, done <+: returnedBy id earlier ∧
        ∀ k, r.Carries entry.spec k ↔ (done.filterMap r.position).getLast? = some k := by
  have h_pos : Positioned c := .reachable h
  constructor
  · intro e h_e
    obtain ⟨own, done, h_own, h_returned, h_spec⟩ := h_pos.stored id e h_e
    refine ⟨done, h_returned, fun k => ?_⟩
    rw [h_spec]
    exact (Resumption.carries_foldl (h_serves own h_own) done).2 k
  · intro later earlier conn scope slots connection present entry h_split h_entry
    obtain ⟨own, done, h_own, h_done, h_spec⟩ :=
      h_pos.documents later earlier conn scope slots connection present h_split _ h_entry
    refine ⟨done, h_done, fun k => ?_⟩
    rw [h_spec]
    exact (Resumption.carries_foldl (h_serves own h_own) done).2 k

/-- The entry at block 0 was returned, and the query resumes after it. -/
theorem cursor_follows_returned_gap : ∃ c e,
    (hubProgram sampleHub).Reachable (initialConfig ℕ) Program.anyStep c ∧
      c.store.state.slots 0 = some e ∧ c.store.returned 0 = [0] ∧
      sampleResumption.position 0 = some (blockStart 0) ∧
      sampleResumption.Carries e.spec (blockStart 0) := by
  obtain ⟨c, h_gap⟩ := gap_opens
  obtain ⟨e, h_e, -⟩ := h_gap.resume
  have h_serves : ∀ spec, .registered 0 spec ∈ c.store.history → sampleResumption.Serves spec := by
    intro spec h_spec
    rw [h_gap.registered spec h_spec]
    exact graphSpec_serves ..
  obtain ⟨done, h_returned, h_last⟩ :=
    (cursor_follows_returned sampleResumption 0 h_gap.reach h_serves).1 e h_e
  rw [h_gap.idle, h_gap.returned] at h_returned
  obtain rfl : [0] = done := h_returned.trans (List.append_nil _)
  exact ⟨c, e, h_gap.reach, h_e, h_gap.returned, rfl, (h_last _).mpr rfl⟩

end Blokli
