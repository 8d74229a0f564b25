import BlokliClient.Hub.Notification
import Mathlib.Data.List.Perm.Subperm

/-!
# The live document covers the registered subscriptions

A supervisor reads the slots of its scope when it takes a snapshot and when the
watch channel tells it that they changed. Between these reads its document is
out of date, and the invariant says who knows about it: for every instruction
that holds a document, the supervisor has a notification ahead of it (`Dirty`),
or the slots of the scope are those of the document, up to the tolerated stale
aliases, and none of them waits for a new connection (`Covers`).

Whatever moves the slots also publishes, and whatever consumes a notification
reads the slots again before the supervisor holds a document.
-/

namespace Blokli

open Worklist

variable {V : Type} {hub : HubConfig} {t : Task} {ch : Choice} {i : Instr V} {c c' : Config V}
  {e : Effect V} {a : Action Task Choice (Request V)}

/-! ### Documents that cover a scope -/

/-- **Covers.** The slots of a scope are those of a document, up to the tolerated
stale aliases, and none of them waits for a new connection. -/
structure Covers (c : Config V) (scope : Scope) (document : List SlotId) : Prop where
  nonempty : c.store.state.scopeIds scope ≠ []
  subset : ∀ id ∈ c.store.state.scopeIds scope, id ∈ document
  resync : ∀ id e, c.store.state.slots id = some e → e.belongsTo id scope = true →
    e.resync = true → scope = .shared ∧ Leaving c id
  stale : (document.filter fun id => decide (id ∉ c.store.state.scopeIds scope)).length ≤
    HubState.maxStaleAliases

/-- A document stays covering while the slots keep their connection. -/
theorem Covers.kept {scope : Scope} {document : List SlotId} (h_cov : Covers c scope document)
    (h_kept : Kept c c')
    (h_own : ∀ id, scope = .isolated id → ∀ e, c'.store.state.slots id = some e →
      e.isolated ≠ none) : Covers c' scope document := by
  have h_ids := h_kept.scopeIds scope
  -- what counts for coverage is the ids of the scope and the resync flags
  refine ⟨by rw [h_ids]; exact h_cov.nonempty, by rw [h_ids]; exact h_cov.subset,
    fun id e' h_e' h_scope h_sync => ?_, by rw [h_ids]; exact h_cov.stale⟩
  rcases h_kept.resync id e' h_e' h_sync with ⟨e, h_e, h_iso, h_old⟩ | ⟨h_iso, h_leaving⟩
  -- a slot that asks for a resync did so before
  · have h_scope' : e.belongsTo id scope = true := by
      cases scope with
      | shared => exact h_iso.trans h_scope
      | isolated own => exact h_scope
    obtain ⟨rfl, h_leaving⟩ := h_cov.resync id e h_e h_scope' h_old
    exact ⟨rfl, h_kept.leaving id e' h_leaving h_e' (Option.isNone_iff_eq_none.mp h_scope)⟩
  · -- or it asks since this step, and is about to leave the shared connection
    refine ⟨?_, h_leaving⟩
    cases scope with
    | shared => rfl
    | isolated own =>
      obtain rfl : id = own := beq_iff_eq.mp h_scope
      exact absurd h_iso (h_own id rfl e' h_e')

/-- A connection that needs no reconnect covers its scope. -/
theorem covers_of_reconnectNeeded {scope : Scope} {document : List SlotId}
    (h_num : Numbered c) (h : c.store.state.reconnectNeeded scope document = false) :
    Covers c scope document := by
  unfold HubState.reconnectNeeded at h
  simp only [Bool.or_eq_false_iff, Bool.not_eq_false', decide_eq_false_iff_not,
    List.isEmpty_eq_false_iff, List.all_eq_true, decide_eq_true_eq, Nat.not_lt] at h
  -- all four reasons to reconnect are absent
  obtain ⟨⟨⟨h_ne, h_sync⟩, h_sub⟩, h_stale⟩ := h
  refine ⟨h_ne, h_sub, fun id e h_e h_scope h_true => ?_, h_stale⟩
  -- a flag that is up would have been seen
  exfalso
  unfold HubState.resyncPending at h_sync
  refine Bool.false_ne_true (h_sync.symm.trans (List.any_eq_true.mpr ⟨id, ?_, ?_⟩))
  · exact (HubState.mem_scopeIds _).mpr ⟨h_num id e h_e, e, h_e, h_scope⟩
  · rw [h_e]
    exact h_true

/-- A snapshot covers its scope, and leaves no slot that waits. -/
theorem covers_of_snapshot {scope : Scope} {s : HubState V}
    (h_state : c.store.state = (s.snapshot scope).1)
    (h_ne : (s.snapshot scope).2.map Prod.fst ≠ []) :
    Covers c scope ((s.snapshot scope).2.map Prod.fst) := by
  -- the snapshot takes the flags of resyncs down, and leaves the members
  have h_ids : c.store.state.scopeIds scope = s.scopeIds scope := by
    refine scopeIds_congr (by rw [h_state]; rfl) (fun id => ?_) scope
    rw [h_state, HubState.snapshot_slots, Option.map_map]
    refine congrArg (fun f => (s.slots id).map f) (funext fun e => ?_)
    simp only [Function.comp_apply]
    split <;> rfl
  rw [HubState.snapshot_ids] at h_ne ⊢
  refine ⟨by rw [h_ids]; exact h_ne, by rw [h_ids]; exact fun _ h => h,
    fun id e h_e h_scope h_sync => ?_, ?_⟩
  · -- no member of the scope asks for a resync any more
    exfalso
    rw [h_state, HubState.snapshot_slots] at h_e
    obtain ⟨e₀, h_e₀, h_eq⟩ := Option.map_eq_some_iff.mp h_e
    split at h_eq
    · subst h_eq
      cases h_sync
    · next h_not =>
      subst h_eq
      exact h_not (by rw [h_scope, h_sync]; rfl)
  · -- no listed slot is missing
    rw [h_ids, List.filter_eq_nil_iff.mpr]
    · exact Nat.zero_le _
    · intro id h_mem h_not
      exact of_decide_eq_true h_not h_mem

/-- The order of a document does not matter. -/
theorem Covers.perm {scope : Scope} {document document' : List SlotId}
    (h_cov : Covers c scope document) (h_perm : document'.Perm document) :
    Covers c scope document' where
  nonempty := h_cov.nonempty
  subset id h_id := h_perm.mem_iff.mpr (h_cov.subset id h_id)
  resync := h_cov.resync
  stale := by
    rw [(h_perm.filter _).length_eq]
    exact h_cov.stale

/-- The scope and the document of the connection that an instruction assembles
or drives. -/
def Instr.document : Instr V → Option (Scope × List SlotId)
  | .debounce scope _ slots | .awaitChange scope _ _ slots | .build scope slots =>
    some (scope, slots.map Prod.fst)
  | .openStream d | .stallWakeup d | .select d _ => some (d.scope, d.connection.ids)
  | .readLive d | .dispatchPayloads d | .dispatchErrors d | .dispatchDocument d =>
    some (d.scope, d.connection.ids)
  | _ => none

theorem Instr.hasDocument {document : Scope × List SlotId} (h : i.document = some document) :
    i.point.hasDocument = true := by
  cases i <;> first | rfl | cases h

/-- **Where a document comes from.** It is handed on, assembled from a snapshot,
read off the slots, or found to need no reconnect. -/
theorem exec_document (h : exec hub t ch i c = some e) : ∀ j ∈ e.next, ∀ scope document,
    j.document = some (scope, document) →
      i.document = some (scope, document) ∨
      (∃ slots connection, i = .build scope slots ∧
        (buildConnection slots).run = some (.ok connection) ∧ document = connection.ids) ∨
      (e.store.state = (c.store.state.snapshot scope).1 ∧
        document = (c.store.state.snapshot scope).2.map Prod.fst ∧ document ≠ []) ∨
      (e.store.state = c.store.state ∧
        c.store.state.reconnectNeeded scope document = false) := by
  intro j hj scope document h_j
  cases i with
  -- a new document is what the snapshot reads, if that is anything
  | snapshot scope' waitUntil =>
    obtain rfl := Option.some.inj h
    change j ∈ (if (c.store.state.snapshot scope').2.isEmpty then _ else _) at hj
    split at hj
    · exact absurd hj List.not_mem_nil
    · next h_ne =>
      obtain rfl := List.mem_singleton.mp hj
      obtain ⟨rfl, rfl⟩ := Prod.mk.inj (Option.some.inj h_j)
      refine Or.inr (Or.inr (Or.inl ⟨rfl, rfl, fun h_nil =>
        h_ne (List.isEmpty_iff.mpr (List.map_eq_nil_iff.mp h_nil))⟩))
  -- a document that cannot be built leaves none
  | build scope' slots =>
    simp only [exec, execBuild] at h
    split at h
    · cases h
    · obtain rfl := Option.some.inj h
      rcases List.mem_append.mp hj with hj | hj
      · obtain ⟨p, -, rfl⟩ := List.mem_map.mp hj
        cases h_j
      · rcases List.mem_cons.mp hj with rfl | hj
        · cases h_j
        · obtain rfl := List.mem_singleton.mp hj
          cases h_j
    · -- the connection is built from the document it replaces
      next connection h_ok =>
      obtain rfl := Option.some.inj h
      obtain rfl := List.mem_singleton.mp hj
      obtain ⟨rfl, rfl⟩ := Prod.mk.inj (Option.some.inj h_j)
      exact Or.inr (Or.inl ⟨slots, connection, rfl, h_ok, rfl⟩)
  -- a stream is kept only if its slots are still those of the scope
  | reconnectNeeded d =>
    obtain rfl := Option.some.inj h
    change j ∈ (if c.store.state.reconnectNeeded d.scope d.connection.ids then _ else _) at hj
    split at hj
    · obtain rfl := List.mem_singleton.mp hj
      cases h_j
    · next h_not =>
      obtain rfl := List.mem_singleton.mp hj
      obtain ⟨rfl, rfl⟩ := Prod.mk.inj (Option.some.inj h_j)
      exact Or.inr (Or.inr (Or.inr ⟨rfl, Bool.eq_false_iff.mpr h_not⟩))
  | _ =>
    -- the rest hand on the document that they were given
    left
    revert j
    simp only [exec, execReadCause, execTrySend, execOpenStream, execNext, execEvent,
      execStreamError, execLeaveDrive, execPayload, execSlotError, execDocument,
      execMalformedEvent, execReject, execDeliver, execReceive, malformedFrame] at h
    repeat' split at h
    all_goals first
      | (cases h; done)
      | (obtain rfl := Option.some.inj h
         clear h
         simp only [List.forall_mem_append, List.forall_mem_cons, List.forall_mem_map]
         repeat' apply And.intro
         all_goals first
           | exact fun h_j => h_j
           | exact List.forall_mem_nil _
           | (intro h_j; cases h_j; done)
           | (intro _ _ h_j; cases h_j))

/-- **Covered.** Whoever holds a document has a notification ahead, or the
document covers its scope. -/
structure Covered (c : Config V) : Prop where
  seen : SeenLe c
  pending : ∀ token, ∀ i ∈ c.todo (.supervisor token), ∀ scope document,
    i.document = some (scope, document) →
      Dirty c (.supervisor token) ∨ Covers c scope document

namespace Covered

/-- At the start there is no document. -/
theorem initial : Covered (initialConfig V) :=
  ⟨SeenLe.initial, fun _ _ h => absurd h List.not_mem_nil⟩

/-- A task that holds a document after a step did not see a version in it. -/
theorem seen_kept (h_sound : Sound c) (h_seq : Sequential c)
    (h : (hubProgram hub).step c a = some c') {t' : Task} {j : Instr V} (hj : j ∈ c'.todo t')
    (h_doc : j.point.hasDocument = true) :
    (c'.store.locals t').seen = (c.store.locals t').seen := by
  rcases Program.step_cases h with ⟨t, ch, i, rest, e, rfl, h_todo, he, rfl⟩ |
    ⟨r, t, e, rfl, he, h_todo, rfl⟩
  -- the same task has seen more only where it holds no document
  · rcases exec_seen he t' with h_eq | ⟨rfl, h_ctl, h_next, -⟩ | ⟨token, rfl, rfl, -⟩
    · exact h_eq
    · exfalso
      have h_old := h_seq t'
      rw [h_todo] at h_old
      rw [resume_todo_self] at hj
      rcases List.mem_append.mp hj with hj | hj
      · rw [h_next j hj] at h_doc
        cases h_doc
      · rw [(List.pairwise_cons.mp h_old).1 j hj h_ctl] at h_doc
        cases h_doc
    · -- a supervisor that starts holds nothing yet
      exfalso
      have h_nil := (h_sound.tokens.pending t token (by rw [h_todo]; exact List.mem_cons_self)).2
      have h_t : Task.supervisor token ≠ t := by
        rintro rfl
        rw [h_todo] at h_nil
        cases h_nil
      obtain rfl := Option.some.inj he
      rw [resume_todo_spawned c t rest _ h_t rfl] at hj
      have h_points := supervisorCode_points token j hj
      revert h_doc h_points
      cases j.point <;> decide
  · -- a request sees nothing
    obtain ⟨-, -, -, -, -, -, h_locals, -⟩ := accept_frame he
    rw [resume_store, h_locals]

/-- What a document has, it keeps: whatever moves the slots publishes. -/
theorem carry (h_cov : Covered c) (h_sound : Sound c) (h_asm : Assembling c)
    (h : (hubProgram hub).step c a = some c') {token : Token} {scope : Scope}
    {document : List SlotId} (h_scope : token.scope = scope) (h_exec : Executing c token)
    (h_exec' : Executing c' token)
    (h_seen : (c'.store.locals (.supervisor token)).seen =
      (c.store.locals (.supervisor token)).seen)
    (h_old : Dirty c (.supervisor token) ∨ Covers c scope document) :
    Dirty c' (.supervisor token) ∨ Covers c' scope document := by
  rcases h_old with h_dirty | h_old
  · exact Or.inl (h_dirty.step h_cov.seen h_sound h_exec h h_seen)
  · rcases publishing_or_kept h_sound h fun t ids reason ⟨_, rest, _, h_todo⟩ =>
      (h_asm.noEnd t _ (by rw [h_todo]; exact List.mem_cons_self)).2 rfl with h_pub | h_kept
    · exact Or.inl (Or.inr h_pub)
    · refine Or.inr (h_old.kept h_kept fun id h_own e h_e => ?_)
      exact (h_sound.step h).isolated_of_executing h_exec' (h_scope.trans h_own) h_e

/-- **One step** keeps documents covering, or their supervisors notified. -/
theorem step (h_cov : Covered c) (h_sound : Sound c) (h_seq : Sequential c)
    (h_distinct : Distinct c) (h_asm : Assembling c)
    (h : (hubProgram hub).step c a = some c') : Covered c' := by
  refine ⟨h_cov.seen.step h, fun token j hj scope document h_doc => ?_⟩
  have h_sound' := h_sound.step h
  have h_seen := seen_kept h_sound h_seq h hj (Instr.hasDocument h_doc)
  -- a document of a supervisor is one of its own scope
  have h_holder : ∀ {c : Config V}, Sound c → ∀ i ∈ c.todo (.supervisor token),
      ∀ scope document, i.document = some (scope, document) →
        token.scope = scope ∧ Executing c token := by
    intro c h_sound i hi scope document h_i
    have h_own := h_sound.owned _ i hi
    have h_exec := Tail.executing_of_mem (h_sound.tokens.tail (.supervisor token)) hi
    cases i <;> first
      | (cases h_i; done)
      | (obtain ⟨rfl, -⟩ := Prod.mk.inj (Option.some.inj h_i)
         exact ⟨Option.some.inj h_own, h_exec (Point.not_mem rfl)⟩)
  obtain ⟨h_scope, h_exec'⟩ := h_holder h_sound' j hj scope document h_doc
  -- what covered before covers now, or a notification is pending
  have h_carry : ∀ i ∈ c.todo (.supervisor token), ∀ document, i.document = some (scope, document) →
      Dirty c' (.supervisor token) ∨ Covers c' scope document := fun i hi document h_i =>
    h_cov.carry h_sound h_asm h h_scope (h_holder h_sound i hi scope document h_i).2 h_exec' h_seen
      (h_cov.pending token i hi scope document h_i)
  have h_inner : j.point.begins = false := by
    have h_has := Instr.hasDocument h_doc
    revert h_has
    cases j.point <;> decide
  rcases origin_step h hj h_inner with hj | ⟨ch, i, rest, e, rfl, h_todo, he, hj⟩
  · -- the document was there before
    exact h_carry j hj document h_doc
  · -- the instruction made it of another, took a snapshot, or checked it
    have hi : i ∈ c.todo (.supervisor token) := by
      rw [h_todo]
      exact List.mem_cons_self
    have h_state : c'.store.state = e.store.state := by
      obtain rfl := Option.some.inj (h.symm.trans (Program.step_run h_todo he))
      rfl
    rcases exec_document he j hj scope document h_doc with h_i |
      ⟨slots, connection, rfl, h_ok, rfl⟩ | ⟨h_snap, rfl, h_ne⟩ | ⟨h_same, h_not⟩
    · -- handed on
      exact h_carry i hi document h_i
    · -- the connection has the slots of the snapshot, in an order of its own
      obtain ⟨-, h_perm, -⟩ := buildConnection_targets h_ok (h_distinct _ _ hi slots rfl)
      exact (h_carry _ hi _ rfl).imp_right fun h_old => h_old.perm h_perm
    · -- taken now
      exact Or.inr (covers_of_snapshot (h_state.trans h_snap) h_ne)
    · -- the check found nothing to reconnect for
      refine Or.inr (covers_of_reconnectNeeded h_sound'.numbered ?_)
      rw [h_state, h_same]
      exact h_not

end Covered

/-! ### Runs in which no connection stops -/

/-- Every mutator that started has published its generation. -/
def Published (c : Config V) : Prop :=
  ∀ t, ∀ i ∈ c.todo t, i.point ≠ .bumpGeneration ∧ i.point ≠ .sendGeneration ∧
    ∀ id, i ≠ .isolate id .lagged

/-- The supervisor waits in `drive` and has seen every generation. -/
def Waits (c : Config V) (token : Token) (d : Driving V) : Prop :=
  (∃ stall rest, c.todo (.supervisor token) = .select d stall :: rest) ∧
    (c.store.locals (.supervisor token)).seen = c.store.version

/-- What a run without `Outcome::Stop` keeps. -/
structure Driven (c : Config V) : Prop where
  sound : Sound c
  sequential : Sequential c
  distinct : Distinct c
  assembling : Assembling c
  covered : Covered c

theorem Driven.reachable (h : (hubProgram hub).Reachable (initialConfig V) NoStop c) :
    Driven c := by
  refine h.induct ⟨Sound.initial, Sequential.initial, Distinct.initial, Assembling.initial,
    Covered.initial⟩ ?_
  intro c c' a _ h_inv h_allowed h_step
  exact ⟨h_inv.sound.step h_step, h_inv.sequential.step h_step, h_inv.distinct.step h_step,
    h_inv.assembling.step h_allowed h_step,
    h_inv.covered.step h_inv.sound h_inv.sequential h_inv.distinct h_inv.assembling h_step⟩

namespace Waits

variable {token : Token} {d : Driving V}

theorem mem (h : Waits c token d) : ∃ stall, Instr.select d stall ∈ c.todo (.supervisor token) := by
  obtain ⟨⟨stall, rest, h_todo⟩, -⟩ := h
  exact ⟨stall, by rw [h_todo]; exact List.mem_cons_self⟩

theorem executing (h : Waits c token d) (h_sound : Sound c) : Executing c token := by
  obtain ⟨stall, h_mem⟩ := h.mem
  exact Tail.executing_of_mem (h_sound.tokens.tail (.supervisor token)) h_mem (Point.not_mem rfl)

theorem scope (h : Waits c token d) (h_sound : Sound c) : token.scope = d.scope := by
  obtain ⟨stall, h_mem⟩ := h.mem
  exact Option.some.inj (h_sound.owned _ _ h_mem)

/-- While its supervisor waits, the document covers the scope. -/
theorem covers (h : Waits c token d) (h_inv : Driven c) (h_pub : Published c) :
    Covers c d.scope d.connection.ids := by
  obtain ⟨stall, h_mem⟩ := h.mem
  rcases h_inv.covered.pending token _ h_mem d.scope d.connection.ids rfl with h_dirty | h_cov
  · rcases h_dirty with h_ne | ⟨t, i, hi, h_i⟩
    · exact absurd h.2 h_ne
    · obtain ⟨h_bump, h_send, -⟩ := h_pub t i hi
      exact absurd h_i (by rw [not_or]; exact ⟨h_bump, h_send⟩)
  · exact h_cov

/-- A supervisor that waits has a slot that is nobody else's. -/
theorem owns (h : Waits c token d) (h_inv : Driven c) (h_pub : Published c) :
    ∃ id ∈ c.store.state.ids, ∃ e, c.store.state.slots id = some e ∧
      e.scopeInUse id = token.scope := by
  obtain ⟨id, h_id⟩ := List.exists_mem_of_ne_nil _ (h.covers h_inv h_pub).nonempty
  obtain ⟨-, e, h_e, h_scope⟩ := (HubState.mem_scopeIds _).mp h_id
  refine ⟨id, (List.mem_filter.mp h_id).1, e, h_e, ?_⟩
  rw [← h.scope h_inv.sound] at h_scope
  exact h_inv.sound.scopeInUse_eq (h.executing h_inv.sound) h_e h_scope

end Waits

/-- **The live document covers the registered subscriptions.** In a run in which
no connection stops, once every mutator has published: the connection that a
waiting supervisor drives has a slot, its document lists all of them and at most
`MAX_STALE_ALIASES` others, and none of them asks for a resync. So the open
connections do not outnumber the registered slots, and when all supervisors wait
every registered slot is in the document of its connection. -/
theorem live_document_covers
    (h : (hubProgram hub).Reachable (initialConfig V) NoStop c) (h_pub : Published c) :
    (∀ token d, Waits c token d →
      c.store.state.scopeIds d.scope ≠ [] ∧
      (∀ id ∈ c.store.state.scopeIds d.scope, id ∈ d.connection.ids) ∧
      (∀ id e, c.store.state.slots id = some e → e.belongsTo id d.scope = true →
        e.resync = false) ∧
      (d.connection.ids.filter fun id => decide (id ∉ c.store.state.scopeIds d.scope)).length ≤
        HubState.maxStaleAliases) ∧
    (∀ tokens : List Token, tokens.Nodup → (∀ token ∈ tokens, ∃ d, Waits c token d) →
      tokens.length ≤ c.store.state.ids.length) ∧
    (Settled c → (∀ token, Executing c token → ∃ d, Waits c token d) →
      ∀ id e, c.store.state.slots id = some e →
        ∃ token d, Waits c token d ∧ d.scope = e.scopeInUse id ∧ id ∈ d.connection.ids) := by
  have h_inv := Driven.reachable h
  have h_sound := h_inv.sound
  refine ⟨fun token d h_waits => ?_, fun tokens h_nodup h_waits => ?_,
    fun h_settled h_waits id e h_e => ?_⟩
  · -- what covers, with no notification left, is exactly the scope
    have h_cov := h_waits.covers h_inv h_pub
    refine ⟨h_cov.nonempty, h_cov.subset, fun id e h_e h_scope => ?_, h_cov.stale⟩
    refine Bool.eq_false_iff.mpr fun h_sync => ?_
    obtain ⟨-, h_leaving⟩ := h_cov.resync id e h_e h_scope h_sync
    exact (h_pub _ _ h_leaving).2.2 id rfl
  · -- each of them has a slot, and a slot has one connection in use
    have h_owns : ∀ token ∈ tokens, ∃ id ∈ c.store.state.ids, ∃ e,
        c.store.state.slots id = some e ∧ e.scopeInUse id = token.scope := fun token h_mem =>
      have ⟨_, h_d⟩ := h_waits token h_mem
      h_d.owns h_inv h_pub
    choose! own h_own using h_owns
    have h_inj : ∀ token ∈ tokens, ∀ token' ∈ tokens, own token = own token' →
        token = token' := by
      intro token h_mem token' h_mem' h_eq
      obtain ⟨-, e, h_e, h_scope⟩ := h_own token h_mem
      obtain ⟨-, e', h_e', h_scope'⟩ := h_own token' h_mem'
      rw [← h_eq, h_e] at h_e'
      obtain rfl := Option.some.inj h_e'
      obtain ⟨d, h_d⟩ := h_waits token h_mem
      obtain ⟨d', h_d'⟩ := h_waits token' h_mem'
      refine h_sound.supervised.unique token (h_sound.alive_of_executing (h_d.executing h_sound))
        token' (h_sound.alive_of_executing (h_d'.executing h_sound)) ?_
      rw [← h_scope, h_eq, h_scope']
    have h_map : (tokens.map own).Nodup := h_nodup.map_on h_inj
    have h_sub : tokens.map own ⊆ c.store.state.ids := fun id h_id => by
      obtain ⟨token, h_mem, rfl⟩ := List.mem_map.mp h_id
      exact (h_own token h_mem).1
    have h_le := (List.subperm_of_subset h_map h_sub).length_le
    rwa [List.length_map] at h_le
  · -- a slot is served by a supervisor in use, or is about to be
    rcases h_sound.served id e h_e with ⟨token, h_mem, h_scope⟩ | ⟨t, h_mem⟩
    · obtain ⟨h_exec, -⟩ := h_settled.executing h_sound.tokens h_mem
      obtain ⟨d, h_d⟩ := h_waits token h_exec
      have h_eq : d.scope = e.scopeInUse id := (h_d.scope h_sound).symm.trans h_scope
      refine ⟨token, d, h_d, h_eq, (h_d.covers h_inv h_pub).subset id ?_⟩
      refine (HubState.mem_scopeIds _).mpr ⟨h_sound.numbered id e h_e, e, h_e, ?_⟩
      rw [h_eq]
      exact e.belongsTo_scopeInUse id
    · -- who is about to serve it has nothing left to do
      exact absurd rfl (h_settled.mutators t _ h_mem).1

/-- A check for runs of the sample subscription in which no connection ends. -/
def drives (c : Config ℕ) : Action Task Choice (Request ℕ) → Bool
  | .run t _ => (c.todo t).head?.all fun i => decide (i.point ≠ .leaveDrive)
  | .request (.register spec _) =>
    decide (spec.document = sampleSpec.document) && spec.resume.isNone
  | .request _ => true

/-- The check does what it is for. -/
theorem noStop_of_drives {c : Config ℕ} {a : Action Task Choice (Request ℕ)}
    (h : drives c a = true) : NoStop c a := by
  constructor
  · -- in such a run no supervisor stops
    rintro t d reason ⟨ch, rest, rfl, h_todo⟩
    simp [drives, h_todo, Instr.point] at h
  · -- and every stream that registers has the sample document
    rintro spec created rfl
    obtain ⟨document, queryVariables, decode, resume⟩ := spec
    obtain ⟨h_doc, h_resume⟩ := Bool.and_eq_true_iff.mp h
    obtain rfl := of_decide_eq_true h_doc
    obtain rfl := Option.isNone_iff_eq_none.mp h_resume
    exact ⟨fun _ _ => ⟨_, rfl⟩, fun _ _ _ h => by cases h⟩

/-- Everything is published when none of the tasks that may have work is about to. -/
theorem published_of_idle {tasks : List Task} {c : Config ℕ} (h_idle : Within tasks c)
    (h : tasks.all (fun t => (c.todo t).all fun i =>
      decide (i.point ∉ [.bumpGeneration, .sendGeneration, .isolate])) = true) : Published c := by
  intro t i hi
  have h_point : i.point ∉ [.bumpGeneration, .sendGeneration, .isolate] := by
    -- a listed task, whose instructions were looked at
    by_cases h_t : t ∈ tasks
    · exact of_decide_eq_true (List.all_eq_true.mp (List.all_eq_true.mp h t h_t) i hi)
    -- any other task has nothing to do
    · rw [h_idle t h_t] at hi
      exact absurd hi List.not_mem_nil
  simp only [List.mem_cons, List.not_mem_nil, or_false, not_or] at h_point
  exact ⟨h_point.1, h_point.2.1, fun id h_i => h_point.2.2 (by rw [h_i]; rfl)⟩

/-- The theorem at a hub with two streams, whose connection is open: nothing is half done, and
the document of the connection lists both. -/
theorem live_document_covers_opened : ∃ c d,
    (hubProgram sampleHub).runWithin pairTasks drives (initialConfig ℕ) openingPair = some c ∧
    Waits c ⟨0, .shared⟩ d ∧ c.store.state.scopeIds d.scope = [0, 1] ∧
    (∀ id ∈ c.store.state.scopeIds d.scope, id ∈ d.connection.ids) ∧
    ∀ id e, c.store.state.slots id = some e →
      ∃ token d, Waits c token d ∧ d.scope = e.scopeInUse id ∧ id ∈ d.connection.ids := by
  have ⟨c, d, stall, rest, h_run, h_todo, h_waits, h_scope, h_idle, h_quiet⟩ :
      ∃ c d stall rest,
        (hubProgram sampleHub).runWithin pairTasks drives (initialConfig ℕ)
          openingPair = some c ∧
        c.todo firstSupervisor = .select d stall :: .dropReceiver ⟨0, .shared⟩ :: rest ∧
        Waits c ⟨0, .shared⟩ d ∧ c.store.state.scopeIds d.scope = [0, 1] ∧
        (c.todo (.consumer 0) = [] ∧ c.todo (.consumer 1) = [] ∧ c.todo .environment = []) ∧
        pairTasks.all (fun t => (c.todo t).all fun i =>
          decide (i.point ∉ [.bumpGeneration, .sendGeneration, .isolate])) = true :=
    ⟨_, _, _, _, rfl, rfl, ⟨⟨_, _, rfl⟩, rfl⟩, rfl, ⟨rfl, rfl, rfl⟩, rfl⟩
  -- the run stays among the listed tasks
  obtain ⟨h_reach, h_within⟩ := Program.Reachable.runWithin (fun _ _ _ => noStop_of_drives) .init
    (fun _ _ => rfl) h_run
  have h_alone := alone_of_pair h_within h_idle
  have h_waiting : ∀ token, Executing c token → ∃ d, Waits c token d := by
    -- the only supervisor is the first one
    intro token h_exec
    by_cases h_t : Task.supervisor token = firstSupervisor
    · obtain rfl : token = ⟨0, .shared⟩ := Task.supervisor.inj h_t
      exact ⟨d, h_waits⟩
    · unfold Executing at h_exec
      rw [h_alone _ h_t] at h_exec
      exact absurd h_exec List.not_mem_nil
  -- nothing is unpublished, so that the document covers all
  obtain ⟨h_live, -, h_all⟩ := live_document_covers h_reach (published_of_idle h_within h_quiet)
  exact ⟨c, d, h_run, h_waits, h_scope, (h_live _ d h_waits).2.1,
    h_all (settled_of_alone h_todo h_alone) h_waiting⟩

end Blokli
