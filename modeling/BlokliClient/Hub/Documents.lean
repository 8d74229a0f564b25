import BlokliClient.Hub.Slots

/-!
# The documents of a supervisor

A supervisor carries the snapshot it took, and later the connection it
assembled from it, from instruction to instruction until it leaves `drive`.

* `Sequential`: what belongs to the control flow of a supervisor is never
  followed by an instruction that holds a document. A supervisor that waits for
  a notification therefore holds none while it waits.
* `Distinct`: the snapshots list distinct slots.
* `Assembling`: as long as the specs are those that `SubscriptionSpec::new`
  makes, the documents can be assembled, so that a supervisor ends slots only
  when a connection stops.
-/

namespace Blokli

open Worklist

variable {V : Type} {hub : HubConfig} {t : Task} {ch : Choice} {i : Instr V} {c c' : Config V}
  {e : Effect V} {a : Action Task Choice (Request V)}

/-! ### The order of the instructions of a supervisor -/

/-- The instructions that are the control flow of a supervisor. -/
def Point.isControl : Point → Bool
  | .readCause | .stop | .waitReconnect | .recheckWait | .prepare | .snapshot | .debounce
  | .awaitChange | .build | .openStream | .stallWakeup | .select | .reconnectNeeded
  | .leaveDrive | .readLive | .dispatchPayloads | .dispatchErrors | .dispatchDocument
  | .malformedEvent => true
  | _ => false

/-- The instructions that hold a document. -/
def Point.hasDocument : Point → Bool
  | .debounce | .awaitChange | .build | .openStream | .stallWakeup | .select | .readLive
  | .dispatchPayloads | .dispatchErrors | .dispatchDocument => true
  | _ => false

/-- An instruction that belongs to the control flow comes after what holds a document. -/
def Ordered (p q : Point) : Prop := p.isControl = true → q.hasDocument = false

/-- The lists of all tasks are in order. -/
def Sequential (c : Config V) : Prop :=
  ∀ t, (c.todo t).Pairwise fun i j => Ordered i.point j.point

/-- `Ordered` along a list, computed. -/
def orderedPoints : List Point → Bool
  | [] => true
  | p :: ps => (!p.isControl || ps.all fun q => !q.hasDocument) && orderedPoints ps

/-- The order of instructions can be checked on their points. -/
theorem pairwise_of_orderedPoints {l : List (Instr V)}
    (h : orderedPoints (l.map Instr.point) = true) :
    l.Pairwise fun i j => Ordered i.point j.point := by
  -- the induction is on the list
  induction l with
  | nil => exact List.Pairwise.nil
  | cons i l ih =>
    simp only [List.map_cons, orderedPoints, Bool.and_eq_true, Bool.or_eq_true,
      Bool.not_eq_true', List.all_map, List.all_eq_true, Function.comp_apply] at h
    refine List.pairwise_cons.mpr ⟨fun j hj h_i => ?_, ih h.2⟩
    -- the first instruction is none of those that are ordered, or it comes before all of them
    rcases h.1 with h_not | h_all
    · rw [h_not] at h_i
      cases h_i
    · exact h_all j hj

/-- What is not control flow is in order. -/
theorem pairwise_of_aux {l : List (Instr V)} (h : ∀ i ∈ l, i.point.isControl = false) :
    l.Pairwise fun i j => Ordered i.point j.point := by
  refine List.Pairwise.imp_of_mem (R := fun _ _ => True) (fun hi _ _ h_i => ?_)
    (List.pairwise_of_forall fun _ _ => trivial)
  rw [h _ hi] at h_i
  cases h_i

/-- What is not control flow may come first. -/
theorem pairwise_append_of_aux {l l' : List (Instr V)}
    (h : ∀ i ∈ l, i.point.isControl = false)
    (h' : l'.Pairwise fun i j => Ordered i.point j.point) :
    (l ++ l').Pairwise fun i j => Ordered i.point j.point := by
  refine List.pairwise_append.mpr ⟨pairwise_of_aux h, h', fun i hi j _ h_i => ?_⟩
  rw [h i hi] at h_i
  cases h_i

/-- What takes the place of an instruction is in order. -/
theorem exec_next_ordered (h : exec hub t ch i c = some e) :
    e.next.Pairwise fun i j => Ordered i.point j.point := by
  cases i with
  -- a list of starts, or of deliveries, is in any order
  | ensureSupervisors =>
    obtain rfl := Option.some.inj h
    exact pairwise_of_aux (List.forall_mem_map.mpr fun _ _ => rfl)
  | reject scope targets problem error =>
    obtain rfl := Option.some.inj h
    exact pairwise_of_aux (List.forall_mem_map.mpr fun _ _ => rfl)
  -- the errors of the targets, then the end of `drive`
  | openStream d =>
    obtain rfl := Option.some.inj h
    unfold execOpenStream
    split
    · exact pairwise_append_of_aux (List.forall_mem_map.mpr fun _ _ => rfl)
        (pairwise_of_orderedPoints rfl)
    · exact pairwise_of_orderedPoints rfl
  -- the errors of the snapshot, then the end of its slots
  | build scope slots =>
    simp only [exec, execBuild] at h
    split at h
    · cases h
    · obtain rfl := Option.some.inj h
      exact pairwise_append_of_aux (List.forall_mem_map.mpr fun _ _ => rfl)
        (pairwise_of_orderedPoints rfl)
    · obtain rfl := Option.some.inj h
      exact pairwise_of_orderedPoints rfl
  -- short lists without parameters: their points decide it
  | _ =>
    simp only [exec, execReadCause, execTrySend, execNext, execEvent, execStreamError,
      execLeaveDrive, execPayload, execSlotError, execDocument, execMalformedEvent, execDeliver,
      execReceive, malformedFrame] at h
    repeat' split at h
    all_goals first
      | (cases h; done)
      | (obtain rfl := Option.some.inj h; exact pairwise_of_orderedPoints rfl)

/-- At the start nothing is to be done. -/
theorem Sequential.initial : Sequential (initialConfig V) := fun _ => List.Pairwise.nil

/-- Control flow comes from control flow. -/
theorem Point.control_of_successor (p : Point) :
    ∀ q ∈ p.successors, q.isControl = true → p.isControl = true := by
  cases p <;> decide

/-- One step keeps the order. -/
theorem Sequential.step (h_seq : Sequential c) (h : (hubProgram hub).step c a = some c') :
    Sequential c' := by
  refine Program.todo_of_step
    (motive := fun _ l => l.Pairwise fun (i j : Instr V) => Ordered i.point j.point) h h_seq ?_ ?_
  · intro t ch i rest e _ h_todo he
    have h_old := h_seq t
    rw [h_todo] at h_old
    obtain ⟨h_i, h_rest⟩ := List.pairwise_cons.mp h_old
    refine ⟨List.pairwise_append.mpr ⟨exec_next_ordered he, h_rest, fun j hj k hk h_j => ?_⟩, ?_⟩
    · -- between what was left and the rest the kind of the instruction decides
      exact h_i k hk (i.point.control_of_successor _ (exec_successors he j hj) h_j)
    · intro t' is h_sp _
      obtain ⟨token, -, rfl, rfl⟩ := exec_spawned he h_sp
      unfold supervisorCode
      split <;> exact pairwise_of_orderedPoints rfl
  · -- of a request nothing is ordered
    intro r t e _ he _
    refine ⟨?_, fun t' is h_sp => ?_⟩
    · refine pairwise_of_aux fun j hj => ?_
      obtain ⟨-, -, -, -, -, -, -, -, -, -, h_next⟩ := accept_frame he
      have h_j := h_next j hj
      revert h_j
      cases j.point <;> decide
    · rw [(accept_frame he).1] at h_sp
      cases h_sp

/-- The order along a run. -/
theorem Sequential.reachable {Allowed : Config V → Action Task Choice (Request V) → Prop}
    (h : (hubProgram hub).Reachable (initialConfig V) Allowed c) : Sequential c :=
  h.induct Sequential.initial fun _ h_seq _ fires => h_seq.step fires

/-! ### Documents are assembled -/

/-- A subscription can be added to any document. -/
def Renders (spec : SubscriptionSpec V) : Prop :=
  ∀ id parts, ∃ parts', (addSlot parts id spec).run = some (.ok parts')

/-- What `SubscriptionSpec::new` makes of a rendered operation can be added to
any document, and so can every query it continues with. -/
structure SubscriptionSpec.Rendered (spec : SubscriptionSpec V) : Prop where
  renders : Renders spec
  resumed : ∀ resume payload next, spec.resume = some resume → resume payload = some next →
    Renders { spec with document := next.document, queryVariables := next.queryVariables }

/-- A query that continues is rendered too. -/
theorem SubscriptionSpec.Rendered.continued {spec : SubscriptionSpec V} (h : spec.Rendered)
    {payload : V} {next : ResumedQuery}
    (h_next : (spec.resume.bind fun resume => resume payload) = some next) :
    SubscriptionSpec.Rendered
      { spec with document := next.document, queryVariables := next.queryVariables } := by
  obtain ⟨resume, h_resume, h_payload⟩ := Option.bind_eq_some_iff.mp h_next
  exact ⟨h.resumed resume payload next h_resume h_payload, fun resume' payload' next' h₁ h₂ =>
    h.resumed resume' payload' next' h₁ h₂⟩

/-- Rendered documents can be added one after the other. -/
theorem addSlots_renders {slots : Snapshot V} (h : ∀ p ∈ slots, Renders p.2.spec)
    (parts : Parts V) : ∃ parts', (addSlots parts slots).run = some (.ok parts') := by
  induction slots generalizing parts with
  | nil => exact ⟨parts, rfl⟩
  | cons q slots ih =>
    obtain ⟨id, entry⟩ := q
    obtain ⟨parts₁, h₁⟩ := h (id, entry) List.mem_cons_self id parts
    obtain ⟨parts', h'⟩ := ih (fun p hp => h p (List.mem_cons_of_mem _ hp)) parts₁
    exact ⟨parts', checked_bind_ok.mpr ⟨parts₁, h₁, h'⟩⟩

/-- **A connection can be built** from rendered documents. -/
theorem buildConnection_renders {slots : Snapshot V} (h : ∀ p ∈ slots, Renders p.2.spec) :
    ∃ connection, (buildConnection slots).run = some (.ok connection) := by
  obtain ⟨parts, h_parts⟩ := addSlots_renders h {}
  exact ⟨_, checked_bind_ok.mpr ⟨parts, h_parts, rfl⟩⟩

/-- The snapshot an instruction holds. -/
def Instr.snapshotSlots : Instr V → Option (Snapshot V)
  | .debounce _ _ slots | .awaitChange _ _ _ slots | .build _ slots => some slots
  | _ => none

/-- A snapshot is taken by `snapshot` and handed on from there. -/
theorem exec_snapshotSlots (h : exec hub t ch i c = some e) : ∀ j ∈ e.next, ∀ slots,
    j.snapshotSlots = some slots → i.snapshotSlots = some slots ∨
      ∃ scope waitUntil, i = .snapshot scope waitUntil ∧
        slots = (c.store.state.snapshot scope).2 := by
  intro j hj slots h_j
  cases i with
  -- the snapshot itself
  | snapshot scope waitUntil =>
    obtain rfl := Option.some.inj h
    change j ∈ (if _ then _ else _) at hj
    split at hj
    · exact absurd hj List.not_mem_nil
    · obtain rfl := List.mem_singleton.mp hj
      exact Or.inr ⟨scope, waitUntil, rfl, (Option.some.inj h_j).symm⟩
  -- handed on while the changes settle
  | debounce scope waitUntil slots' =>
    obtain rfl := Option.some.inj h
    change j ∈ (if _ then _ else _) at hj
    split at hj
    all_goals
      obtain rfl := List.mem_singleton.mp hj
      exact Or.inl h_j
  | awaitChange scope waitUntil deadline slots' =>
    simp only [exec] at h
    repeat' split at h
    all_goals first
      | (cases h; done)
      | (obtain rfl := Option.some.inj h
         obtain rfl := List.mem_singleton.mp hj
         first
           | exact Or.inl h_j
           | cases h_j)
  -- no other instruction makes one that carries slots
  | _ =>
    exfalso
    have h_succ := exec_successors h j hj
    cases j <;> first
      | exact Point.not_mem rfl h_succ
      | cases h_j

/-- A pending instruction that holds a snapshot got it from one that did, or just took it. -/
theorem snapshotSlots_step (h : (hubProgram hub).step c a = some c') {j : Instr V}
    (hj : j ∈ c'.todo t) {slots : Snapshot V} (h_j : j.snapshotSlots = some slots) :
    (∃ i ∈ c.todo t, i.snapshotSlots = some slots) ∨
      ∃ scope waitUntil, Runs c a t (.snapshot scope waitUntil) ∧
        slots = (c.store.state.snapshot scope).2 := by
  -- an instruction that has a snapshot is no first instruction of a task
  have h_inner : j.point.begins = false := by
    cases j <;> first
      | rfl
      | cases h_j
  -- it was there, or some instruction made it
  rcases origin_step h hj h_inner with hj | ⟨ch, i, rest, e, ha, h_todo, he, hj⟩
  · exact Or.inl ⟨j, hj, h_j⟩
  · rcases exec_snapshotSlots he j hj slots h_j with h_i | ⟨scope, waitUntil, rfl, h_slots⟩
    · exact Or.inl ⟨i, by rw [h_todo]; exact List.mem_cons_self, h_i⟩
    · exact Or.inr ⟨scope, waitUntil, ⟨ch, rest, ha, h_todo⟩, h_slots⟩

/-- The snapshots that supervisors hold list distinct slots. -/
def Distinct (c : Config V) : Prop :=
  ∀ t, ∀ i ∈ c.todo t, ∀ slots, i.snapshotSlots = some slots → (slots.map Prod.fst).Nodup

/-- At the start there is no snapshot. -/
theorem Distinct.initial : Distinct (initialConfig V) := fun _ _ h => absurd h List.not_mem_nil

/-- One step keeps the slots of each snapshot distinct. -/
theorem Distinct.step (h_inv : Distinct c) (h : (hubProgram hub).step c a = some c') :
    Distinct c' := by
  intro t j hj slots h_j
  rcases snapshotSlots_step h hj h_j with ⟨i, hi, h_i⟩ | ⟨scope, waitUntil, -, rfl⟩
  · exact h_inv t i hi slots h_i
  · rw [HubState.snapshot_ids]
    exact (List.nodup_range.filter _).filter _

/-- The invariant along a run. -/
theorem Distinct.reachable {Allowed : Config V → Action Task Choice (Request V) → Prop}
    (h : (hubProgram hub).Reachable (initialConfig V) Allowed c) : Distinct c :=
  h.induct (motive := Distinct) Distinct.initial fun _ h_inv _ h_step => h_inv.step h_step

/-- **Specs.** Every registered spec renders, every snapshot that a supervisor
still holds lists slots whose specs do, and no slot is about to be ended. -/
structure Assembling (c : Config V) : Prop where
  specs : ∀ id e, c.store.state.slots id = some e → e.spec.Rendered
  snapshots : ∀ t, ∀ i ∈ c.todo t, ∀ slots, i.snapshotSlots = some slots →
    ∀ p ∈ slots, p.2.spec.Rendered
  noEnd : ∀ t, ∀ i ∈ c.todo t, i.point ≠ .stop ∧ i.point ≠ .endSlots

/-- No connection ends with `Outcome::Stop`, and the operations that are
subscribed to are rendered as `SubscriptionSpec::new` gets them. -/
def NoStop (c : Config V) (a : Action Task Choice (Request V)) : Prop :=
  (∀ t d reason, ¬ Runs c a t (.leaveDrive d (.stop reason))) ∧
    ∀ spec created, a = .request (.register spec created) → spec.Rendered

namespace Assembling

/-- At the start no slot is registered. -/
theorem initial : Assembling (initialConfig V) where
  specs _ _ h := by cases h
  snapshots _ _ h := absurd h List.not_mem_nil
  noEnd _ _ h := absurd h List.not_mem_nil

/-- Stored specs are rendered. -/
theorem step_specs (h_asm : Assembling c) (h_allowed : NoStop c a)
    (h : (hubProgram hub).step c a = some c') :
    ∀ id e, c'.store.state.slots id = some e → e.spec.Rendered := by
  intro id e' h_e'
  cases spec_step h h_e' with
  -- a spec changes with the cursor only
  | same e before spec =>
    rw [spec]
    exact h_asm.specs id e before
  -- continued: the document is still one of the rendered kind
  | resumed t payload next e runs before resume spec =>
    rw [spec]
    exact (h_asm.specs id e before).continued resume
  -- registered: as the environment promises
  | registered spec created request number same =>
    rw [same]
    exact h_allowed.2 spec created request

/-- So are those of a snapshot. -/
theorem step_snapshots (h_asm : Assembling c) (h : (hubProgram hub).step c a = some c') :
    ∀ t, ∀ i ∈ c'.todo t, ∀ slots, i.snapshotSlots = some slots →
      ∀ p ∈ slots, p.2.spec.Rendered := by
  intro t j hj slots h_j
  rcases snapshotSlots_step h hj h_j with ⟨i, hi, h_i⟩ | ⟨scope, waitUntil, -, rfl⟩
  · exact h_asm.snapshots t i hi slots h_i
  · intro p hp
    obtain ⟨-, e, h_e, -, h_eq⟩ := (@HubState.mem_snapshot _ _ _ p.1 p.2).mp hp
    rw [h_eq]
    exact h_asm.specs p.1 e h_e

/-- Without `Outcome::Stop` no task is about to end slots. -/
theorem step_noEnd (h_asm : Assembling c) (h_allowed : NoStop c a)
    (h : (hubProgram hub).step c a = some c') :
    ∀ t, ∀ i ∈ c'.todo t, i.point ≠ .stop ∧ i.point ≠ .endSlots := by
  intro t j hj
  rcases mem_todo_step h hj with hj | ⟨ch, i, rest, e, ha, h_todo, he, hj⟩ | ⟨r, e, -, he, hj⟩ |
    ⟨t', ch, token, rest, -, -, -, hj⟩
  · -- an instruction that was there already
    exact h_asm.noEnd t j hj
  · have h_i : i ∈ c.todo t := by
      rw [h_todo]
      exact List.mem_cons_self
    have h_succ := exec_successors he j hj
    constructor
    · -- `stop` follows the outcome `Stop` only
      intro h_j
      cases i with
      | leaveDrive d outcome =>
        obtain rfl := Option.some.inj he
        cases outcome with
        | rebuild => obtain rfl := List.mem_singleton.mp hj; cases h_j
        | reconnect delay =>
          rcases List.mem_cons.mp hj with rfl | hj
          · cases h_j
          · obtain rfl := List.mem_singleton.mp hj
            cases h_j
        | stop reason => exact h_allowed.1 t d reason ⟨ch, rest, ha, h_todo⟩
      | _ =>
        rw [h_j] at h_succ
        exact Point.not_mem rfl h_succ
    · -- and slots are ended by `stop` or when a document cannot be assembled
      intro h_j
      cases i with
      | stop scope connected reason => exact (h_asm.noEnd t _ h_i).1 rfl
      | build scope slots =>
        obtain ⟨connection, h_ok⟩ := buildConnection_renders fun p hp =>
          (h_asm.snapshots t _ h_i slots rfl p hp).renders
        simp only [exec, execBuild, h_ok] at he
        obtain rfl := Option.some.inj he
        obtain rfl := List.mem_singleton.mp hj
        cases h_j
      | _ =>
        rw [h_j] at h_succ
        exact Point.not_mem rfl h_succ
  · -- requests neither stop nor end
    obtain ⟨-, -, -, -, -, -, -, -, -, -, h_next⟩ := accept_frame he
    have h_point := h_next j hj
    constructor
    · intro h_j
      rw [h_j] at h_point
      exact Point.not_mem rfl h_point
    · intro h_j
      rw [h_j] at h_point
      exact Point.not_mem rfl h_point
  · -- nor does a new supervisor
    have h_point := supervisorCode_points token j hj
    constructor
    · intro h_j
      rw [h_j] at h_point
      exact Point.not_mem rfl h_point
    · intro h_j
      rw [h_j] at h_point
      exact Point.not_mem rfl h_point

/-- The three clauses together. -/
theorem step (h_asm : Assembling c) (h_allowed : NoStop c a)
    (h : (hubProgram hub).step c a = some c') : Assembling c' :=
  ⟨h_asm.step_specs h_allowed h, h_asm.step_snapshots h, h_asm.step_noEnd h_allowed h⟩

end Assembling

end Blokli
