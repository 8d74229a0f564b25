import BlokliClient.Hub.Connections
import BlokliClient.Hub.Delivery
import BlokliClient.Hub.Dispatch
import BlokliClient.Hub.Overflow
import BlokliClient.Hub.Supervision
import BlokliClient.Hub.Trackers

/-!
# One error for each rejection

A rejection of a slot begins when its health enters `Rejected`, and only a sign
of life ends it. The refusal that begins it hands one error to `deliver`.

* `EpisodeStep` ties the two together: health enters `Rejected` in a step exactly
  when that step numbers an episode, and the error is then about to be delivered.
* `Accounted` follows the errors from there. None is delivered twice, and none
  gets lost unless a full queue drops it.
* `rejection_yielded_once`: when no error meets a full queue, every episode has
  exactly one error, which is being delivered, waits in the queue, or was
  returned by the stream.
* `rejection_lost`: on the shared connection a full queue drops the error.
-/

namespace Blokli

open Worklist

variable {V : Type} {hub : HubConfig} {t : Task} {ch : Choice} {i : Instr V} {c c' : Config V}
  {e : Effect V} {a : Action Task Choice (Request V)}

/-! ### Episodes -/

/-- The slot is registered and Blokli refuses it. -/
def Rejected (c : Config V) (id : SlotId) : Prop :=
  ∃ e, c.store.state.slots id = some e ∧ e.health.health.status = .rejected

/-- The episode of slot `id` that an event opens. -/
def Event.episodeOf (id : SlotId) : Event V → Option ℕ
  | .refused id' episode => if id' = id then some episode else none
  | _ => none

/-- The episodes of slot `id`, the oldest first. -/
def Store.episodesOf (s : Store V) (id : SlotId) : List ℕ :=
  (s.history.filterMap (Event.episodeOf id)).reverse

/-- The event that opens an episode. -/
theorem episodeOf_eq_some {ev : Event V} {id : SlotId} {episode : ℕ} :
    ev.episodeOf id = some episode ↔ ev = .refused id episode := by
  cases ev <;> simp [Event.episodeOf]

/-- Only a new refusal leads to `Rejected`. -/
theorem HealthTracker.enters_rejected {tracker : HealthTracker} {op : HealthOp} {now : Instant}
    (h : tracker.health.status ≠ .rejected)
    (h_enters : (op.apply tracker now).health.status = .rejected) :
    ∃ problem, op = .reject problem := by
  -- activity leads to another status, never into a rejection
  have h_activity : ∀ (tracker' : HealthTracker) ends, tracker'.health.status ≠ .rejected →
      (tracker'.recordActivity ends now).health.status ≠ .rejected := by
    intro tracker' ends h_before h_after
    rw [recordActivity_status] at h_after
    cases h_some : tracker'.activityStatus ends now with
    | none =>
      rw [h_some] at h_after
      exact h_before h_after
    | some next =>
      rw [h_some] at h_after
      obtain rfl : next = .rejected := h_after
      rcases (activityStatus_eq_some h_some).2 with ⟨-, h_next⟩ | ⟨-, -, h_next⟩ <;> cases h_next
  -- neither does a problem, which is counted
  have h_problem : ∀ (tracker' : HealthTracker) p, tracker'.health.status ≠ .rejected →
      (tracker'.problem p now).health.status ≠ .rejected := by
    intro tracker' p h_before h_after
    unfold problem at h_after
    dsimp only at h_after
    split at h_after
    · cases h_after
    · exact h_before h_after
  -- of the operations, `reject` alone is left
  cases op with
  | update u =>
    exfalso
    cases u with
    | transportActivity => exact h_activity tracker true h h_enters
    | connected =>
      -- counting the connection leaves the status alone
      refine h_activity { tracker with health := { tracker.health with
        connections := saturatingSucc64 tracker.health.connections } } false h h_enters
    | dataUpdate => exact h_activity tracker true h h_enters
    | problem p => exact h_problem tracker p h h_enters
    | lagging => exact h_problem { tracker with lagging := true } .lagged h h_enters
  | caughtUp => exact absurd h_enters h
  | reject p => exact ⟨p, rfl⟩
  | stalled =>
    exfalso
    change (tracker.stalled now).health.status = .rejected at h_enters
    unfold HealthTracker.stalled at h_enters
    split at h_enters
    · exact h h_enters
    · cases h_enters
  | finish reason =>
    exfalso
    change (tracker.finish reason now).health.status = .rejected at h_enters
    unfold HealthTracker.finish at h_enters
    split at h_enters
    · exact h h_enters
    · cases h_enters

/-- A refusal that is not new leaves the status alone. -/
theorem HealthTracker.reject_repeated {tracker : HealthTracker}
    (h : tracker.refusalIsNew = false) (problem : SubscriptionProblem) (now : Instant) :
    (tracker.reject problem now).health.status = tracker.health.status := by
  unfold reject
  dsimp only
  rw [if_neg (by rw [h]; exact Bool.false_ne_true)]

/-- Where a refusal is handed to `reject`: it concerns every slot of a
connection, or one of them. -/
theorem reject_origin (h : exec hub t ch i c = some e) {scope : Scope}
    {targets : List (SlotTarget V)} {problem : SubscriptionProblem} {error : ErrorKind}
    (hj : .reject scope targets problem error ∈ e.next) :
    (∃ d, i.driving = some d ∧ targets = d.connection.slotTargets) ∨
      ∃ target, targets = [target] := by
  have h_succ := exec_successors h _ hj
  cases i with
  -- a stream error that refuses the connection, or one that the driver gives up on
  | select d stall =>
    left
    simp only [exec, execNext, execEvent, execStreamError, malformedFrame] at h
    repeat' split at h
    all_goals first
      | (cases h; done)
      | (obtain rfl := Option.some.inj h
         simp only [List.mem_cons, List.not_mem_nil, or_false, reduceCtorEq, or_self,
           Instr.reject.injEq] at hj)
    exact ⟨d, rfl, hj.2.1⟩
  -- errors that name one slot
  | dispatchErrors d =>
    right
    obtain rfl := Option.some.inj h
    revert hj
    change _ ∈ execSlotError d → _
    unfold execSlotError
    split
    · split <;> simp
    · dsimp only
      split
      · simp
      · next target h_target =>
        intro hj
        rcases List.mem_cons.mp hj with hj | hj
        · exact ⟨target, (Instr.reject.inj hj).2.1⟩
        · split at hj <;> simp at hj
  -- errors of the document, which name no slot
  | dispatchDocument d =>
    left
    obtain rfl := Option.some.inj h
    revert hj
    change _ ∈ (execDocument hub t d c.store).next → _
    unfold execDocument
    dsimp only
    split
    · intro hj
      simp only [List.mem_cons, List.not_mem_nil, or_false, reduceCtorEq,
        Instr.reject.injEq] at hj
      exact ⟨d.toDriving, rfl, hj.2.1⟩
    · split
      · simp
      · split <;> split <;> simp
  | _ => exact absurd h_succ (Point.not_mem rfl)

/-- A refusal names no slot twice. -/
def Addressed (c : Config V) : Prop :=
  ∀ t scope targets problem error, .reject scope targets problem error ∈ c.todo t →
    (targets.map SlotTarget.id).Nodup

/-- One step keeps refusals addressed to slots of their connection. -/
theorem Addressed.step (h_inv : Addressed c) (h_aligned : Aligned c)
    (h : (hubProgram hub).step c a = some c') : Addressed c' := by
  intro t scope targets problem error hj
  rcases origin_step h hj rfl with hj | ⟨ch, i, rest, e, -, h_todo, he, hj⟩
  · exact h_inv t scope targets problem error hj
  · rcases reject_origin he hj with ⟨d, h_i, rfl⟩ | ⟨target, rfl⟩
    · exact (h_aligned t i (by rw [h_todo]; exact List.mem_cons_self) d h_i).ids_nodup
    · exact List.nodup_singleton _

/-! ### Steps that open episodes -/

/-- Only a refusal opens episodes. -/
theorem exec_episodes (h : exec hub t ch i c = some e) (h_i : i.point ≠ .reject) :
    e.store.episodes = c.store.episodes := by
  cases i
  all_goals first
    | exact absurd rfl h_i
    | (simp only [exec, execReadCause, execBuild, execTrySend, execOpenStream, execNext,
        execEvent, execStreamError, execLeaveDrive, execDocument, execMalformedEvent,
        execDeliver, execReceive] at h
       repeat' split at h
       all_goals first
         | (cases h; done)
         | (obtain rfl := Option.some.inj h; rfl))

/-- A request opens none. -/
theorem accept_episodes {r : Request V} (h : accept r c = some (t, e)) :
    e.store.episodes = c.store.episodes := by
  cases r
  all_goals
    simp only [accept] at h
    first
      | split at h
      | skip
  all_goals first
    | (cases h; done)
    | (obtain ⟨rfl, rfl⟩ := Prod.mk.inj (Option.some.inj h); rfl)

/-- The episodes of a slot, with those of a segment of the history. -/
theorem episodesOf_append {s s' : Store V} (new : List (Event V))
    (h : s'.history = new ++ s.history) (id : SlotId) :
    s'.episodesOf id = s.episodesOf id ++ (new.filterMap (Event.episodeOf id)).reverse := by
  unfold Store.episodesOf
  rw [h, List.filterMap_append, List.reverse_append]

/-- Among distinct slots at most one is `id`. -/
theorem filterMap_episodeOf {targets : List (SlotTarget V)} {episode : ℕ} (id : SlotId)
    (h : (targets.map SlotTarget.id).Nodup) :
    (targets.map fun target => (.refused target.id episode : Event V)).filterMap
      (Event.episodeOf id) = if id ∈ targets.map SlotTarget.id then [episode] else [] := by
  induction targets with
  | nil => rfl
  | cons target targets ih =>
    rw [List.map_cons] at h
    obtain ⟨h_head, h_tail⟩ := List.nodup_cons.mp h
    rw [List.map_cons, List.map_cons, List.filterMap_cons, ih h_tail]
    have h_event : (.refused target.id episode : Event V).episodeOf id =
        if target.id = id then some episode else none := rfl
    rw [h_event]
    by_cases h_id : target.id = id
    · subst h_id
      -- this target names the slot, and the others do not
      rw [if_pos rfl, if_pos List.mem_cons_self]
      dsimp only
      rw [if_neg h_head]
    · rw [if_neg h_id]
      -- it names another one
      dsimp only
      by_cases h_mem : id ∈ targets.map SlotTarget.id
      · rw [if_pos h_mem, if_pos (List.mem_cons_of_mem _ h_mem)]
      · rw [if_neg h_mem, if_neg fun h_cons => (List.mem_cons.mp h_cons).elim
          (fun h_eq => h_id h_eq.symm) h_mem]

/-- What a step does to the episodes. -/
inductive RefusalStep (c : Config V) (a : Action Task Choice (Request V)) (c' : Config V) : Prop
  | same (calm : ∀ t i, Runs c a t i → i.point ≠ .reject)
      (episodes : c'.store.episodes = c.store.episodes)
      (kept : ∀ id, c'.store.episodesOf id = c.store.episodesOf id)
  | refused (t : Task) (scope : Scope) (targets : List (SlotTarget V))
      (problem : SubscriptionProblem) (error : ErrorKind) (rest : List (Instr V))
      (runs : Runs c a t (.reject scope targets problem error))
      (store : c'.store = (execReject scope targets problem error c.store).store)
      (todo : c'.todo t = (execReject scope targets problem error c.store).next ++ rest)
      (opened : ∀ id, id ∈ targets.map SlotTarget.id →
        c.store.state.refusalIsNew scope id = true →
        c'.store.episodesOf id = c.store.episodesOf id ++ [c.store.episodes])
      (kept : ∀ id, (id ∈ targets.map SlotTarget.id →
          c.store.state.refusalIsNew scope id = false) →
        c'.store.episodesOf id = c.store.episodesOf id)

/-- What a step does to the episodes, from its instruction. -/
theorem refusal_step (h_addressed : Addressed c) (h : (hubProgram hub).step c a = some c') :
    RefusalStep c a c' := by
  -- what has no refusal among its events leaves every record of refusals
  have h_kept : ∀ new : List (Event V), c'.store.history = new ++ c.store.history →
      (∀ ev ∈ new, .reject ∉ ev.sources) → ∀ id,
      c'.store.episodesOf id = c.store.episodesOf id := by
    intro new h_new h_sources id
    have h_none : new.filterMap (Event.episodeOf id) = [] :=
      List.filterMap_eq_nil_iff.mpr fun ev h_ev => Option.eq_none_iff_forall_ne_some.mpr
        fun episode h_eq => by
          rw [episodeOf_eq_some] at h_eq
          subst h_eq
          exact h_sources _ h_ev List.mem_cons_self
    rw [episodesOf_append new h_new, h_none]
    exact List.append_nil _
  -- of the instructions, `reject` alone records refusals
  rcases Program.step_cases h with ⟨t, ch, i, rest, e, rfl, h_todo, he, rfl⟩ |
    ⟨r, t, e, rfl, he, h_todo, rfl⟩
  · change exec hub t ch i c = some e at he
    have h_runs : Runs c (.run t ch) t i := ⟨ch, rest, rfl, h_todo⟩
    by_cases h_i : i.point = .reject
    · cases i with
      | reject scope targets problem error =>
        obtain rfl := Option.some.inj he
        have h_nodup := h_addressed t scope targets problem error
          (by rw [h_todo]; exact List.mem_cons_self)
        have h_first := h_nodup.sublist ((List.filter_sublist
          (p := fun target => c.store.state.refusalIsNew scope target.id)).map SlotTarget.id)
        -- exactly the slots that did not show a rejection yet enter one, each once
        have h_mem : ∀ id, id ∈ (targets.filter fun target =>
            c.store.state.refusalIsNew scope target.id).map SlotTarget.id ↔
              id ∈ targets.map SlotTarget.id ∧ c.store.state.refusalIsNew scope id = true := by
          intro id
          constructor
          · intro h_id
            obtain ⟨target, h_target, rfl⟩ := List.mem_map.mp h_id
            obtain ⟨h_target, h_new⟩ := List.mem_filter.mp h_target
            exact ⟨List.mem_map_of_mem h_target, h_new⟩
          · rintro ⟨h_id, h_new⟩
            obtain ⟨target, h_target, rfl⟩ := List.mem_map.mp h_id
            exact List.mem_map_of_mem (List.mem_filter.mpr ⟨h_target, h_new⟩)
        -- the event of every listed target is recorded at once
        have h_episodes : ∀ id, (execReject scope targets problem error c.store).store.episodesOf id
            = c.store.episodesOf id ++ _ := fun id =>
          (episodesOf_append _ rfl id).trans (by rw [filterMap_episodeOf id h_first])
        refine .refused t scope targets problem error rest h_runs rfl (resume_todo_self ..)
          (fun id h_id h_new => ?_) fun id h_old => ?_
        · have h_id := (h_mem id).mpr ⟨h_id, h_new⟩
          exact (h_episodes id).trans (by rw [if_pos h_id]; rfl)
        · have h_id := mt (h_mem id).mp fun h_both => by
            rw [h_old h_both.1] at h_both
            exact Bool.false_ne_true h_both.2
          exact (h_episodes id).trans (by rw [if_neg h_id]; exact List.append_nil _)
      | _ => cases h_i
    · obtain ⟨new, h_new, h_sources⟩ := exec_history he
      refine .same (fun t' j h_runs' => ?_) (exec_episodes he h_i) (h_kept new h_new ?_)
      · obtain ⟨-, rfl⟩ := h_runs.unique h_runs'
        exact h_i
      · -- no other instruction records a refusal
        intro ev h_ev h_source
        have h_source' := h_sources ev h_ev
        cases ev with
        | refused => exact h_i (List.mem_singleton.mp h_source')
        | _ => exact absurd h_source (Point.not_mem rfl)
  -- a request is no refusal
  · have h_calm : ∀ t' i, Runs c (.request r) t' i → i.point ≠ .reject := by
      rintro t' i ⟨ch, rest, h_eq, -⟩
      cases h_eq
    refine .same h_calm (accept_episodes he) ?_
    rcases accept_history he with h_same | ⟨spec, created, rfl, h_new⟩
    · exact h_kept [] h_same fun _ h_ev => absurd h_ev List.not_mem_nil
    · exact h_kept [_] h_new (List.forall_mem_singleton.mpr (Point.not_mem rfl))

/-- **Episodes are rejections.** A step numbers a new episode of slot `id`
exactly when the slot enters `Rejected`; a slot that is not removed leaves it by
a sign of life only. -/
inductive EpisodeStep (c : Config V) (a : Action Task Choice (Request V)) (c' : Config V)
    (id : SlotId) : Prop
  | opens (before : ¬ Rejected c id) (after : Rejected c' id)
      (episodes : c'.store.episodesOf id = c.store.episodesOf id ++ [c.store.episodes])
  | stays (enters : Rejected c' id → Rejected c id)
      (leaves : Rejected c id → ¬ Rejected c' id → c'.store.state.slots id = none ∨
        ∃ t scope ids update, Runs c a t (.withHealth scope ids update) ∧ id ∈ ids ∧
          (HealthOp.update update).isTransportActivity = true)
      (episodes : c'.store.episodesOf id = c.store.episodesOf id)

/-- What a step does to the episodes of one slot. -/
theorem episode_step (h_num : Numbered c) (h_addressed : Addressed c)
    (h : (hubProgram hub).step c a = some c') (id : SlotId) : EpisodeStep c a c' id := by
  have h_leaves : Rejected c id → ¬ Rejected c' id → c'.store.state.slots id = none ∨
      ∃ t scope ids update, Runs c a t (.withHealth scope ids update) ∧ id ∈ ids ∧
        (HealthOp.update update).isTransportActivity = true := by
    rintro ⟨e, h_e, h_rejected⟩ h_left
    cases h_e' : c'.store.state.slots id with
    | none => exact Or.inl rfl
    | some e' =>
      right
      have h_status : e'.health.health.status ≠ .rejected := fun h_eq => h_left ⟨e', h_e', h_eq⟩
      rcases (tracker_step h_num h h_e h_e').op with h_same | ⟨op, h_op, h_cause⟩
      · rw [h_same] at h_status
        exact absurd h_rejected h_status
      rw [h_op] at h_status
      -- only a sign of life leads out of the rejection of a slot that stays registered
      rcases HealthTracker.leaves_rejected h_rejected h_status with h_sign | ⟨r, rfl, -⟩
      · cases h_cause with
        | update t scope ids update runs listed belongs =>
          exact ⟨t, scope, ids, update, runs, listed, h_sign⟩
        | reject t scope targets problem error runs => cases h_sign
        | stalled => cases h_sign
        | caughtUp => cases h_sign
      · cases h_cause
  -- a rejection is entered when its refusal is recorded
  cases refusal_step h_addressed h with
  | same calm episodes kept =>
    refine .stays (fun ⟨e', h_e', h_rejected⟩ => ?_) h_leaves (kept id)
    -- no refusal in this step: the rejection is older
    rcases slot_origin h h_e' with ⟨e, h_e⟩ | ⟨spec, created, -, -, rfl⟩
    · by_contra h_before
      have h_status : e.health.health.status ≠ .rejected := fun h_eq => h_before ⟨e, h_e, h_eq⟩
      rcases (tracker_step h_num h h_e h_e').op with h_same | ⟨op, h_op, h_cause⟩
      · rw [h_same] at h_rejected
        exact h_status h_rejected
      rw [h_op] at h_rejected
      obtain ⟨problem, rfl⟩ := HealthTracker.enters_rejected h_status h_rejected
      cases h_cause with
      | reject t scope targets problem error runs => exact calm t _ runs rfl
    · cases h_rejected
  | refused t scope targets problem error rest runs store todo opened kept =>
    -- what `reject` makes of the entry
    have h_slots : c'.store.state.slots id = (c.store.state.slots id).map fun e =>
        if decide (id ∈ targets.map SlotTarget.id) && e.belongsTo id scope then
          { e with health := e.health.reject problem c.store.clock }
        else e := by
      rw [store]
      rfl
    -- the refusal: the slot is listed and new, listed and old, or not listed
    by_cases h_listed : id ∈ targets.map SlotTarget.id
    · cases h_new : c.store.state.refusalIsNew scope id with
      | true =>
        unfold HubState.refusalIsNew at h_new
        split at h_new
        · cases h_new
        · next e h_e =>
          obtain ⟨h_belongs, h_first⟩ := Bool.and_eq_true_iff.mp h_new
          have h_before : ¬ Rejected c id := by
            rintro ⟨e₀, h_e₀, h_rejected⟩
            obtain rfl := Option.some.inj (h_e.symm.trans h_e₀)
            exact (HealthTracker.refusalIsNew_eq_true.mp h_first).1 h_rejected
          have h_after : Rejected c' id := by
            refine ⟨{ e with health := e.health.reject problem c.store.clock }, ?_,
              HealthTracker.reject_status h_first problem c.store.clock⟩
            rw [h_slots, h_e, Option.map_some, decide_eq_true h_listed, h_belongs]
            rfl
          refine .opens h_before h_after (opened id h_listed ?_)
          unfold HubState.refusalIsNew
          rw [h_e]
          exact h_new
      -- a repeated refusal keeps the rejection as it was
      | false =>
        refine .stays (fun ⟨e', h_e', h_rejected⟩ => ?_) h_leaves (kept id fun _ => h_new)
        rw [h_slots] at h_e'
        obtain ⟨e, h_e, h_eq⟩ := Option.map_eq_some_iff.mp h_e'
        refine ⟨e, h_e, ?_⟩
        split at h_eq
        · next h_cond =>
          obtain ⟨-, h_belongs⟩ := Bool.and_eq_true_iff.mp h_cond
          unfold HubState.refusalIsNew at h_new
          rw [h_e] at h_new
          dsimp only at h_new
          rw [h_belongs, Bool.true_and] at h_new
          rw [← h_eq] at h_rejected
          exact (HealthTracker.reject_repeated h_new problem c.store.clock).symm.trans h_rejected
        · rw [h_eq]
          exact h_rejected
    · -- the entry of a slot that is not listed stays
      refine .stays (fun ⟨e', h_e', h_rejected⟩ => ?_) h_leaves
        (kept id fun h_mem => absurd h_mem h_listed)
      rw [h_slots] at h_e'
      obtain ⟨e, h_e, h_eq⟩ := Option.map_eq_some_iff.mp h_e'
      rw [if_neg (by rw [decide_eq_false h_listed]; exact Bool.false_ne_true)] at h_eq
      exact ⟨e, h_e, h_eq ▸ h_rejected⟩

/-! ### Errors on their way -/

/-- The episode whose error an item is. -/
def Item.refusal (item : Item V) : Option ℕ :=
  match item.origin with
  | .refusal episode => some episode
  | _ => none

/-- The episodes whose errors are among the items. -/
def refusals (items : List (Item V)) : List ℕ := items.filterMap Item.refusal

/-- The error that an instruction is about to deliver, by slot and episode. -/
def Instr.refusing : Instr V → Option (SlotId × ℕ)
  | .deliver _ target item => item.refusal.map fun episode => (target.id, episode)
  | _ => none

/-- The error of an episode is about to be delivered. -/
def Delivering (c : Config V) (id : SlotId) (episode : ℕ) : Prop :=
  ∃ t, ∃ i ∈ c.todo t, i.refusing = some (id, episode)

/-- An instruction that delivers the error of an episode. -/
theorem refusing_eq_some {id : SlotId} {episode : ℕ} (h : i.refusing = some (id, episode)) :
    ∃ scope target item, i = .deliver scope target item ∧ target.id = id ∧
      item.refusal = some episode := by
  cases i with
  | deliver scope target item =>
    obtain ⟨episode', h_refusal, h_eq⟩ := Option.map_eq_some_iff.mp h
    obtain ⟨rfl, rfl⟩ := Prod.mk.inj h_eq
    exact ⟨scope, target, item, rfl, rfl, h_refusal⟩
  | _ => cases h

/-- An error comes from a refusal that opens its episode. -/
theorem refusing_origin (h : exec hub t ch i c = some e) {j : Instr V} (hj : j ∈ e.next)
    {id : SlotId} {episode : ℕ} (h_j : j.refusing = some (id, episode)) :
    ∃ scope targets problem error, i = .reject scope targets problem error ∧
      id ∈ targets.map SlotTarget.id ∧ c.store.state.refusalIsNew scope id = true ∧
      episode = c.store.episodes := by
  obtain ⟨scope, target, item, rfl, rfl, h_refusal⟩ := refusing_eq_some h_j
  cases deliver_origin h hj with
  | payload d payload payloads value head owner decoded same item_eq =>
    rw [item_eq] at h_refusal
    cases h_refusal
  | refusal targets problem error listed first item_eq =>
    rw [item_eq] at h_refusal
    exact ⟨scope, targets, problem, error, rfl, List.mem_map_of_mem listed, first,
      (Option.some.inj h_refusal).symm⟩
  | failure d error same item_eq =>
    rw [item_eq] at h_refusal
    cases h_refusal

/-- What is handed to a slot on account of an episode is an error, and is
delivered by `deliver`. -/
structure Sincere (c : Config V) : Prop where
  handed : ∀ t, ∀ i ∈ c.todo t, ∀ id item episode, i.hands id = some item →
    item.refusal = some episode → i.refusing = some (id, episode) ∧ item.isData = false
  pushed : ∀ id, ∀ item ∈ c.store.pushed id, ∀ episode, item.refusal = some episode →
    item.isData = false

/-- At the start nothing is listed. -/
theorem Sincere.initial : Sincere (initialConfig V) :=
  ⟨fun _ _ h => absurd h List.not_mem_nil, fun _ _ h => absurd h List.not_mem_nil⟩

/-- One step keeps the entries sincere. -/
theorem Sincere.step (h_inv : Sincere c) (h : (hubProgram hub).step c a = some c') :
    Sincere c' := by
  refine ⟨fun t j hj id item episode h_hands h_refusal => ?_, fun id item h_item episode h_refusal
    => ?_⟩
  · -- nothing that begins a task hands an item over
    have h_inner : j.point.begins = false := by
      cases j <;> first
        | rfl
        | cases h_hands
    rcases origin_step h hj h_inner with hj | ⟨ch, i, rest, e, -, h_todo, he, hj⟩
    · exact h_inv.handed t j hj id item episode h_hands h_refusal
    · cases j with
      | deliver scope target item' =>
        -- an error that is delivered was made by a refusal; a payload is none
        change (if target.id = id then some item' else none) = some item at h_hands
        split at h_hands
        · next h_id =>
          obtain rfl := Option.some.inj h_hands
          subst h_id
          refine ⟨congrArg (Option.map _) h_refusal, ?_⟩
          cases deliver_origin he hj with
          | payload d payload payloads value head owner decoded same item_eq =>
            rw [item_eq] at h_refusal
            cases h_refusal
          | refusal targets problem error listed first item_eq =>
            rw [item_eq]
            rfl
          | failure d error same item_eq =>
            rw [item_eq]
            rfl
        · cases h_hands
      | trySend id' item' =>
        -- what `prepare` tries to send carries no refusal
        change (if id' = id then some item' else none) = some item at h_hands
        split at h_hands
        · obtain rfl := Option.some.inj h_hands
          unfold Item.refusal at h_refusal
          obtain ⟨error, rfl⟩ := trySend_origin he hj
          cases h_refusal
        · cases h_hands
      | _ => cases h_hands
  · -- what is in a queue was handed over when it got there
    cases traffic_step h id with
    | same queue pushed received => exact h_inv.pushed id item (pushed ▸ h_item) episode h_refusal
    | pushed t i item' runs hands queue pushed received =>
      rw [pushed] at h_item
      rcases List.mem_append.mp h_item with h_item | h_item
      · exact h_inv.pushed id item h_item episode h_refusal
      · obtain rfl := List.mem_singleton.mp h_item
        obtain ⟨ch, rest, -, h_todo⟩ := runs
        exact (h_inv.handed t i (by rw [h_todo]; exact List.mem_cons_self) id item episode hands
          h_refusal).2
    | popped t item' runs queue pushed received =>
      exact h_inv.pushed id item (pushed ▸ h_item) episode h_refusal
    | cleared closed pushed received =>
      exact h_inv.pushed id item (pushed ▸ h_item) episode h_refusal

/-! ### Keeping account of the errors -/

/-- **A step that keeps room.** The error of an episode does not meet a full
queue on a connection that drops what does not fit. -/
def KeepsRoom (hub : HubConfig) (c : Config V) (a : Action Task Choice (Request V)) : Prop :=
  ∀ t target item, Runs c a t (.deliver .shared target item) → item.refusal ≠ none →
    hub.dedicated = false → c.store.closed target.id = false →
    (c.store.queues target.id).length < slotChannelCapacity

/-- Every error that is about to be delivered or was pushed is that of an episode,
and no episode has two. -/
structure Accounted (c : Config V) : Prop where
  fresh : ∀ id, ∀ episode ∈ c.store.episodesOf id, episode < c.store.episodes
  distinct : ∀ id, (c.store.episodesOf id).Nodup
  delivering : ∀ id episode, Delivering c id episode → episode ∈ c.store.episodesOf id
  pushed : ∀ id, ∀ episode ∈ refusals (c.store.pushed id), episode ∈ c.store.episodesOf id
  linear : Linear Instr.refusing c
  once : ∀ id, (refusals (c.store.pushed id)).Nodup
  apart : ∀ id episode, Delivering c id episode → episode ∉ refusals (c.store.pushed id)

/-- Every episode of an open stream has its error. -/
def Undropped (c : Config V) : Prop :=
  ∀ id, ∀ episode ∈ c.store.episodesOf id, c.store.closed id = false →
    Delivering c id episode ∨ episode ∈ refusals (c.store.pushed id)

/-- At the start there are no episodes. -/
theorem Accounted.initial : Accounted (initialConfig V) where
  fresh _ _ h := absurd h List.not_mem_nil
  distinct _ := List.nodup_nil
  delivering _ _ := fun ⟨_, _, h, _⟩ => absurd h List.not_mem_nil
  pushed _ _ h := absurd h List.not_mem_nil
  linear := ⟨fun _ _ _ _ _ h => absurd h List.not_mem_nil, fun _ => List.nodup_nil⟩
  once _ := List.nodup_nil
  apart _ _ := fun ⟨_, _, h, _⟩ => absurd h List.not_mem_nil

/-- Old episodes stay, and a new one has the next number. -/
theorem RefusalStep.mem_episodesOf (h : RefusalStep c a c') {id : SlotId} {episode : ℕ} :
    (episode ∈ c.store.episodesOf id → episode ∈ c'.store.episodesOf id) ∧
    (episode ∈ c'.store.episodesOf id → episode ∈ c.store.episodesOf id ∨
      episode = c.store.episodes ∧ c'.store.episodes = c.store.episodes + 1 ∧
        Delivering c' id episode) := by
  cases h with
  | same calm episodes kept =>
    rw [kept id]
    exact ⟨fun h_mem => h_mem, Or.inl⟩
  | refused t scope targets problem error rest runs store todo opened kept =>
    -- the episodes of a slot grow only by its own refusal
    by_cases h_new : id ∈ targets.map SlotTarget.id ∧
        c.store.state.refusalIsNew scope id = true
    · rw [opened id h_new.1 h_new.2]
      refine ⟨List.mem_append_left _, fun h_mem => ?_⟩
      refine (List.mem_append.mp h_mem).imp_right fun h_last => ?_
      obtain rfl := List.mem_singleton.mp h_last
      -- which leaves its error to be delivered
      refine ⟨rfl, by rw [store]; rfl, ?_⟩
      obtain ⟨target, h_target, h_id⟩ := List.mem_map.mp h_new.1
      have h_first : target ∈ targets.filter fun target =>
          c.store.state.refusalIsNew scope target.id :=
        List.mem_filter.mpr ⟨h_target, by rw [h_id]; exact h_new.2⟩
      refine ⟨t, .deliver scope target
        { event := .error error, origin := .refusal c.store.episodes }, ?_, by rw [← h_id]; rfl⟩
      rw [todo]
      exact List.mem_append_left _ (List.mem_map_of_mem h_first)
    · rw [kept id fun h_mem => Bool.eq_false_iff.mpr fun h_true => h_new ⟨h_mem, h_true⟩]
      exact ⟨fun h_mem => h_mem, Or.inl⟩

section Accounts

variable {id : SlotId} {episode : ℕ}

/-- What is about to be delivered was so before, or the episode is new. -/
theorem delivering_origin (h_step : RefusalStep c a c') (h : (hubProgram hub).step c a = some c')
    (h_del : Delivering c' id episode) : Delivering c id episode ∨
      episode = c.store.episodes ∧ episode ∈ c'.store.episodesOf id := by
  obtain ⟨t, j, hj, h_j⟩ := h_del
  have h_inner : j.point.begins = false := by
    obtain ⟨scope, target, item, rfl, -⟩ := refusing_eq_some h_j
    rfl
  rcases origin_step h hj h_inner with hj | ⟨ch, i, rest, e, ha, h_todo, he, hj⟩
  · exact Or.inl ⟨t, j, hj, h_j⟩
  · right
    obtain ⟨scope, targets, problem, error, rfl, h_listed, h_new, rfl⟩ := refusing_origin he hj h_j
    refine ⟨rfl, ?_⟩
    have h_runs : Runs c a t (.reject scope targets problem error) := ⟨ch, rest, ha, h_todo⟩
    cases h_step with
    | same calm episodes kept => exact absurd rfl (calm t _ h_runs)
    | refused t' scope' targets' problem' error' rest' runs store todo opened kept =>
      obtain ⟨-, h_eq⟩ := h_runs.unique runs
      obtain ⟨rfl, rfl, rfl, rfl⟩ := Instr.reject.inj h_eq
      rw [opened id h_listed h_new]
      exact List.mem_append_right _ List.mem_cons_self

/-- A step pushes no error, or one that was about to be delivered. -/
theorem refusals_step (h_sincere : Sincere c) (h : (hubProgram hub).step c a = some c')
    (id : SlotId) : refusals (c'.store.pushed id) = refusals (c.store.pushed id) ∨
      ∃ t i episode, Runs c a t i ∧ i.refusing = some (id, episode) ∧
        refusals (c'.store.pushed id) = refusals (c.store.pushed id) ++ [episode] := by
  -- only a push adds to what was pushed, and only of an error of a refusal counts
  cases traffic_step h id with
  | same queue pushed received => exact Or.inl (congrArg refusals pushed)
  | pushed t i item runs hands queue pushed received =>
    have h_append : refusals (c'.store.pushed id) =
        refusals (c.store.pushed id) ++ refusals [item] := by
      rw [pushed]
      exact List.filterMap_append
    cases h_refusal : item.refusal with
    | none =>
      left
      have h_nil : refusals [item] = [] := List.filterMap_cons_none h_refusal
      rw [h_append, h_nil, List.append_nil]
    | some episode =>
      right
      have h_one : refusals [item] = [episode] := List.filterMap_cons_some h_refusal
      obtain ⟨ch, rest, ha, h_todo⟩ := runs
      obtain ⟨h_i, -⟩ := h_sincere.handed t i (by rw [h_todo]; exact List.mem_cons_self) id item
        episode hands h_refusal
      exact ⟨t, i, episode, ⟨ch, rest, ha, h_todo⟩, h_i, by rw [h_append, h_one]⟩
  | popped t item runs queue pushed received => exact Or.inl (congrArg refusals pushed)
  | cleared closed pushed received => exact Or.inl (congrArg refusals pushed)

/-- An error that is delivered is not delivered again. -/
theorem not_delivering_of_runs (h_linear : Linear Instr.refusing c)
    (h : (hubProgram hub).step c a = some c') (h_runs : Runs c a t i)
    (h_i : i.refusing = some (id, episode)) : ¬ Delivering c' id episode := by
  obtain ⟨ch, rest, e, rfl, h_todo, he, rfl⟩ := h_runs.exec h
  rintro ⟨t', j, hj, h_j⟩
  refine h_linear.consumed h_todo h_i (fun k hk h_k => ?_) (fun t'' is h_sp k hk => ?_) t' j hj h_j
  · obtain ⟨scope, targets, problem, error, rfl, -⟩ := refusing_origin he hk h_k
    cases h_i
  · obtain ⟨token, rfl, -, -⟩ := exec_spawned he h_sp
    cases h_i

/-- An error that is about to be delivered to an open stream stays so or is
pushed, when there is room. -/
theorem delivering_step (h_tok : Tokens c) (h_room : KeepsRoom hub c a)
    (h : (hubProgram hub).step c a = some c') (h_open : c'.store.closed id = false)
    (h_del : Delivering c id episode) :
    Delivering c' id episode ∨ episode ∈ refusals (c'.store.pushed id) := by
  -- the delivery is still to come, or this step made it
  obtain ⟨t, i, hi, h_i⟩ := h_del
  rcases h_tok.keep h hi with hi | ⟨ch, rest, rfl, h_todo⟩
  · exact Or.inl ⟨t, i, hi, h_i⟩
  · right
    obtain ⟨scope, target, item, rfl, rfl, h_refusal⟩ := refusing_eq_some h_i
    have h_runs : Runs c (.run t ch) t (.deliver scope target item) := ⟨ch, rest, rfl, h_todo⟩
    have h_before := closed_step h h_open
    obtain ⟨ch', rest', e, h_eq, -, he, rfl⟩ := h_runs.exec h
    cases execDeliver_step he with
    | gone closed =>
      rw [h_before] at closed
      cases closed
    | queued listens room =>
      have h_pushed : (c.store.push target.id item).pushed target.id =
          c.store.pushed target.id ++ [item] := by
        rw [pushed_of_cons rfl, pushedTo_eq_some.mpr rfl]
        rfl
      rw [resume_store, h_pushed]
      exact List.mem_filterMap.mpr ⟨item, List.mem_append_right _ List.mem_cons_self, h_refusal⟩
    | dropped listens full drops shared =>
      -- this is the drop that the step does not make
      exfalso
      subst shared
      exact Nat.not_lt.mpr full (h_room t target item h_runs
        (by rw [h_refusal]; exact Option.some_ne_none _) drops h_before)

end Accounts

/-- Instructions other than `deliver` deliver no error. -/
theorem refusing_eq_none (h : i.point ≠ .deliver) : i.refusing = none := by
  cases i <;> first
    | rfl
    | exact absurd rfl h

/-- The error of an episode is on its way at most once. -/
theorem Accounted.linear_step (h_inv : Accounted c) (h_addressed : Addressed c)
    (h : (hubProgram hub).step c a = some c') : Linear Instr.refusing c' := by
  refine h_inv.linear.step h ?_ ?_
  · intro t ch i rest e h_todo he
    change exec hub t ch i c = some e at he
    refine ⟨?_, fun j hj r h_r => Or.inr ?_, fun t' is h_sp j hj => refusing_eq_none ?_⟩
    -- errors of refusals come from `reject`, one for each slot
    · by_cases h_i : i.point = .reject
      · cases i with
        | reject scope targets problem error =>
          obtain rfl := Option.some.inj he
          have h_nodup := h_addressed t scope targets problem error
            (by rw [h_todo]; exact List.mem_cons_self)
          have h_first := h_nodup.sublist ((List.filter_sublist
            (p := fun target => c.store.state.refusalIsNew scope target.id)).map SlotTarget.id)
          -- one error for each slot
          change (List.filterMap Instr.refusing (List.map _ _)).Nodup
          rw [List.filterMap_map]
          change (List.filterMap (some ∘ fun target : SlotTarget V =>
            (target.id, c.store.episodes)) _).Nodup
          rw [List.filterMap_eq_map]
          refine List.Nodup.of_map Prod.fst ?_
          rw [List.map_map]
          exact h_first
        | _ => cases h_i
      · rw [List.filterMap_eq_nil_iff.mpr fun j hj => ?_]
        · exact List.nodup_nil
        · cases h_j : j.refusing with
          | none => rfl
          | some r =>
            obtain ⟨scope, targets, problem, error, rfl, -⟩ := refusing_origin he hj h_j
            exact absurd rfl h_i
    · -- an episode that is reported now is new, so nobody else reports it
      obtain ⟨id, episode⟩ := r
      obtain ⟨scope, targets, problem, error, -, -, -, rfl⟩ := refusing_origin he hj h_r
      intro t' k hk h_k
      have h_old := h_inv.delivering id _ ⟨t', k, hk, h_k⟩
      exact absurd (h_inv.fresh id _ h_old) (Nat.lt_irrefl _)
    · -- new supervisors and requests report none
      obtain ⟨token, -, rfl, rfl⟩ := exec_spawned he h_sp
      intro h_j
      exact absurd (h_j ▸ supervisorCode_points token j hj) (Point.not_mem rfl)
  · intro r t e he
    obtain ⟨h_sp, -, -, -, -, -, -, -, -, -, h_points⟩ := accept_frame he
    refine ⟨fun j hj => refusing_eq_none fun h_j => ?_, fun t' is h_is => ?_⟩
    · exact absurd (h_j ▸ h_points j hj) (Point.not_mem rfl)
    · rw [h_sp] at h_is
      cases h_is

/-- One step keeps the account of episodes and errors. -/
theorem Accounted.step (h_inv : Accounted c) (h_num : Numbered c) (h_addressed : Addressed c)
    (h_sincere : Sincere c) (h : (hubProgram hub).step c a = some c') : Accounted c' := by
  have h_step := refusal_step h_addressed h
  -- episodes are numbered upwards
  have h_episodes : c.store.episodes ≤ c'.store.episodes := by
    cases h_step with
    | same calm episodes kept => exact Nat.le_of_eq episodes.symm
    | refused t scope targets problem error rest runs store todo opened kept =>
      rw [store]
      exact Nat.le_succ _
  -- what is delivered in this step was still to be delivered
  have h_runs : ∀ {t i id episode}, Runs c a t i → i.refusing = some (id, episode) →
      Delivering c id episode := fun ⟨_, _, _, h_todo⟩ h_i =>
    ⟨_, _, by rw [h_todo]; exact List.mem_cons_self, h_i⟩
  refine ⟨fun id episode h_mem => ?_, fun id => ?_, fun id episode h_del => ?_,
    fun id episode h_mem => ?_, h_inv.linear_step h_addressed h, fun id => ?_,
    fun id episode h_del h_mem => ?_⟩
  · -- every episode of a slot is below the next number
    rcases h_step.mem_episodesOf.2 h_mem with h_old | ⟨rfl, h_next, -⟩
    · exact Nat.lt_of_lt_of_le (h_inv.fresh id episode h_old) h_episodes
    · exact Nat.lt_of_lt_of_eq (Nat.lt_succ_self _) h_next.symm
  · -- a slot opens each of its episodes once
    cases episode_step h_num h_addressed h id with
    | opens before after episodes =>
      rw [episodes]
      refine List.nodup_append.mpr ⟨h_inv.distinct id, List.nodup_singleton _, ?_⟩
      rintro old h_old new h_new rfl
      obtain rfl := List.mem_singleton.mp h_new
      exact absurd (h_inv.fresh id _ h_old) (Nat.lt_irrefl _)
    | stays enters leaves episodes =>
      rw [episodes]
      exact h_inv.distinct id
  · -- what is still to be reported was opened
    rcases delivering_origin h_step h h_del with h_old | ⟨-, h_new⟩
    · exact h_step.mem_episodesOf.1 (h_inv.delivering id episode h_old)
    · exact h_new
  · -- what was pushed was opened
    rcases refusals_step h_sincere h id with h_same | ⟨t, i, episode', runs, h_i, h_eq⟩
    · exact h_step.mem_episodesOf.1 (h_inv.pushed id episode (h_same ▸ h_mem))
    · rw [h_eq] at h_mem
      rcases List.mem_append.mp h_mem with h_old | h_new
      · exact h_step.mem_episodesOf.1 (h_inv.pushed id episode h_old)
      · obtain rfl := List.mem_singleton.mp h_new
        exact h_step.mem_episodesOf.1 (h_inv.delivering id episode (h_runs runs h_i))
  · -- and pushed once, as it was not pushed while it was still to be reported
    rcases refusals_step h_sincere h id with h_same | ⟨t, i, episode', runs, h_i, h_eq⟩
    · rw [h_same]
      exact h_inv.once id
    · rw [h_eq]
      refine List.nodup_append.mpr ⟨h_inv.once id, List.nodup_singleton _, ?_⟩
      rintro old h_old new h_new rfl
      obtain rfl := List.mem_singleton.mp h_new
      exact h_inv.apart id _ (h_runs runs h_i) h_old
  · -- an error that is pushed leaves the list of its task
    rcases refusals_step h_sincere h id with h_same | ⟨t, i, episode', runs, h_i, h_eq⟩
    · rw [h_same] at h_mem
      rcases delivering_origin h_step h h_del with h_old | ⟨rfl, -⟩
      · exact h_inv.apart id episode h_old h_mem
      · exact absurd (h_inv.fresh id _ (h_inv.pushed id _ h_mem)) (Nat.lt_irrefl _)
    · rw [h_eq] at h_mem
      rcases List.mem_append.mp h_mem with h_old | h_new
      · rcases delivering_origin h_step h h_del with h_del | ⟨rfl, -⟩
        · exact h_inv.apart id episode h_del h_old
        · exact absurd (h_inv.fresh id _ (h_inv.pushed id _ h_old)) (Nat.lt_irrefl _)
      · obtain rfl := List.mem_singleton.mp h_new
        exact not_delivering_of_runs h_inv.linear h runs h_i h_del

/-- While there is room, a step loses no error of an open episode. -/
theorem Undropped.step (h_inv : Undropped c) (h_tok : Tokens c) (h_addressed : Addressed c)
    (h_sincere : Sincere c) (h_room : KeepsRoom hub c a)
    (h : (hubProgram hub).step c a = some c') : Undropped c' := by
  intro id episode h_mem h_open
  rcases (refusal_step h_addressed h).mem_episodesOf.2 h_mem with h_old | ⟨-, -, h_del⟩
  · rcases h_inv id episode h_old (closed_step h h_open) with h_del | h_pushed
    · exact delivering_step h_tok h_room h h_open h_del
    · right
      rcases refusals_step h_sincere h id with h_same | ⟨t, i, episode', -, -, h_eq⟩
      · rw [h_same]
        exact h_pushed
      · rw [h_eq]
        exact List.mem_append_left _ h_pushed
  · exact Or.inl h_del

/-- Everything that holds of the errors in every run. -/
structure Ledger (c : Config V) : Prop where
  addressed : Addressed c
  sincere : Sincere c
  accounted : Accounted c

/-- The invariants along a run. -/
theorem Ledger.reachable {Allowed : Config V → Action Task Choice (Request V) → Prop}
    (h : (hubProgram hub).Reachable (initialConfig V) Allowed c) : Ledger c := by
  refine h.induct ⟨fun _ _ _ _ _ h => absurd h List.not_mem_nil, Sincere.initial,
    Accounted.initial⟩ fun reached h_inv _ h_step => ?_
  exact ⟨h_inv.addressed.step (Aligned.reachable reached) h_step, h_inv.sincere.step h_step,
    h_inv.accounted.step (Sound.reachable reached).numbered h_inv.addressed h_inv.sincere h_step⟩

/-- The last one, along a run that keeps room. -/
theorem Undropped.reachable
    (h : (hubProgram hub).Reachable (initialConfig V) (KeepsRoom hub) c) : Undropped c := by
  refine h.induct (fun _ _ h => absurd h List.not_mem_nil) fun reached h_inv h_allowed h_step => ?_
  have h_ledger := Ledger.reachable reached
  exact h_inv.step (Sound.reachable reached).tokens h_ledger.addressed h_ledger.sincere h_allowed
    h_step

/-- **A rejection is yielded exactly once**, in a run whose steps keep room.

* A step opens an episode of slot `id` exactly when the slot enters `Rejected`.
* As long as the stream is not dropped, each episode has one error, which is
  about to be delivered, waits in the queue, or was returned by the stream.
* What waits is returned in its turn, and when nothing is on its way, the stream
  has returned one error for each episode. -/
theorem rejection_yielded_once
    (h : (hubProgram hub).Reachable (initialConfig V) (KeepsRoom hub) c) (id : SlotId) :
    (∀ a c', (hubProgram hub).step c a = some c' → EpisodeStep c a c' id) ∧
      (c.store.closed id = false →
        (c.store.episodesOf id).Nodup ∧
        (refusals (c.store.received id ++ c.store.queues id)).Nodup ∧
        (∀ episode, episode ∈ c.store.episodesOf id ↔ Delivering c id episode ∨
          episode ∈ refusals (c.store.received id ++ c.store.queues id)) ∧
        (∀ episode, Delivering c id episode →
          episode ∉ refusals (c.store.received id ++ c.store.queues id)) ∧
        (∀ item ∈ c.store.received id ++ c.store.queues id, ∀ episode,
          item.refusal = some episode → ∃ error, item.event = .error error) ∧
        (∀ c', (hubProgram hub).Reachable c (KeepsRoom hub) c' → c'.store.closed id = false →
          c.store.received id ++ c.store.queues id <+:
            c'.store.received id ++ c'.store.queues id) ∧
        (c.store.queues id = [] → (∀ episode, ¬ Delivering c id episode) →
          (refusals (c.store.received id)).Perm (c.store.episodesOf id))) := by
  have h_ledger := Ledger.reachable h
  have h_accounted := h_ledger.accounted
  refine ⟨fun a c' h_step => episode_step (Sound.reachable h).numbered h_ledger.addressed h_step id,
    fun h_open => ?_⟩
  have h_pushed := Fifo.reachable h id h_open
  have h_once := h_accounted.once id
  -- a refusal of an open stream is on its way or was pushed, and only once
  have h_mem : ∀ episode, episode ∈ c.store.episodesOf id ↔ Delivering c id episode ∨
      episode ∈ refusals (c.store.pushed id) := fun episode =>
    ⟨fun h_mem => Undropped.reachable h id episode h_mem h_open, fun h_place =>
      h_place.elim (h_accounted.delivering id episode) (h_accounted.pushed id episode)⟩
  refine ⟨h_accounted.distinct id, h_pushed ▸ h_once, h_pushed ▸ h_mem,
    fun episode => h_pushed ▸ h_accounted.apart id episode, fun item h_item episode h_refusal => ?_,
    fun c' h_later h_open' => ?_, fun h_empty h_idle => ?_⟩
  · have h_error := h_ledger.sincere.pushed id item (h_pushed ▸ h_item) episode h_refusal
    unfold Item.isData at h_error
    split at h_error
    · cases h_error
    · next error h_event => exact ⟨error, h_event⟩
  · -- pushed items stay pushed, and the stream is open before and after
    rw [← h_pushed, ← Fifo.reachable (h.trans h_later) id h_open']
    exact pushed_prefix h_later id
  · rw [h_empty, List.append_nil] at h_pushed
    rw [← h_pushed]
    refine (List.perm_ext_iff_of_nodup h_once (h_accounted.distinct id)).mpr fun episode => ?_
    rw [h_mem episode, or_iff_right (h_idle episode)]

/-- Blokli answers the request of the connection with 403. -/
def forbidden : Choice := .next (some (.error (.unexpectedResponse 403)))

/-- A check for runs in which no delivery meets a full queue. -/
def hasRoom (c : Config ℕ) : Action Task Choice (Request ℕ) → Bool
  | .run t _ =>
    (c.todo t).head?.all fun i =>
      match i with
      | .deliver _ target _ => decide ((c.store.queues target.id).length < slotChannelCapacity)
      | _ => true
  | .request _ => true

/-- The check does what it is for. -/
theorem keepsRoom_of_hasRoom {c : Config ℕ} {a : Action Task Choice (Request ℕ)}
    (h : hasRoom c a = true) : KeepsRoom sampleHub c a := by
  rintro t target item ⟨ch, rest, rfl, h_todo⟩ - - -
  simp only [hasRoom, h_todo, List.head?_cons, Option.all_some] at h
  exact of_decide_eq_true h

/-- The theorem at a subscription that is refused: the stream has returned the
one error of its one episode. -/
theorem rejection_yielded_once_refused : ∃ c : Config ℕ,
    (hubProgram sampleHub).Reachable (initialConfig ℕ) (KeepsRoom sampleHub) c ∧ Rejected c 0 ∧
      c.store.episodesOf 0 = [0] ∧ refusals (c.store.received 0) = [0] := by
  have h_run : ∃ c e, (hubProgram sampleHub).runWithin sampleTasks hasRoom (initialConfig ℕ)
      (registering 0 5 ++ opening ++ [.run firstSupervisor forbidden,
        .run firstSupervisor .proceed, .run firstSupervisor .proceed, .request (.poll 0),
        .run (.consumer 0) .proceed]) = some c ∧
      c.store.state.slots 0 = some e ∧ e.health.health.status = .rejected ∧
      c.store.closed 0 = false ∧ c.store.queues 0 = [] ∧ c.store.episodesOf 0 = [0] ∧
      sampleTasks.all (fun t => (c.todo t).all fun i => i.refusing.isNone) = true :=
    ⟨_, _, rfl, rfl, rfl, rfl, rfl, rfl, rfl⟩
  -- after this run nothing is left to report
  obtain ⟨c, e, h_run, h_e, h_rejected, h_open, h_queue, h_episodes, h_none⟩ := h_run
  obtain ⟨h_reach, h_idle⟩ := Program.Reachable.runWithin
    (fun _ _ _ => keepsRoom_of_hasRoom) .init (fun _ _ => rfl) h_run
  have h_still : ∀ episode, ¬ Delivering c 0 episode := by
    rintro episode ⟨t, i, hi, h_i⟩
    by_cases h_t : t ∈ sampleTasks
    · have h_isNone := List.all_eq_true.mp (List.all_eq_true.mp h_none t h_t) i hi
      rw [h_i] at h_isNone
      cases h_isNone
    -- every task outside the run has an empty list
    · rw [h_idle t h_t] at hi
      exact absurd hi List.not_mem_nil
  obtain ⟨-, -, -, -, -, -, h_all⟩ := (rejection_yielded_once h_reach 0).2 h_open
  have h_perm := h_all h_queue h_still
  rw [h_episodes, List.perm_singleton] at h_perm
  exact ⟨c, h_reach, ⟨e, h_e, h_rejected⟩, h_episodes, h_perm⟩

/-! ### An error that meets a full queue -/

/-- A registered slot has not ended. -/
theorem not_ended {Allowed : Config V → Action Task Choice (Request V) → Prop}
    (h : (hubProgram hub).Reachable (initialConfig V) Allowed c) {id : SlotId} {e : SlotEntry V}
    (h_e : c.store.state.slots id = some e) (reason : SubscriptionEnd) :
    e.health.health.status ≠ .ended reason := by
  refine h.induct (motive := fun c => ∀ id e, c.store.state.slots id = some e →
    e.health.health.status ≠ .ended reason) (fun id e h_e => by cases h_e)
    (fun reached h_inv _ h_step id e' h_e' => ?_) id e h_e
  -- only `finish` ends a slot, and the hub never calls it on a slot that it keeps
  have h_keep : ∀ (tracker : HealthTracker) (op : HealthOp) (now : Instant),
      tracker.health.status ≠ .ended reason → (∀ r, op ≠ .finish r) →
      (op.apply tracker now).health.status ≠ .ended reason := by
    intro tracker op now h_before h_op h_after
    cases tracker.transition op now with
    | stays status outage calm waits => exact h_before (status.symm.trans h_after)
    | activity isActivity moved outage failures lagging =>
      rw [h_after] at moved
      rcases (HealthTracker.activityStatus_eq_some moved).2 with ⟨-, h_next⟩ | ⟨-, -, h_next⟩ <;>
        cases h_next
    | breaks cause before status outage =>
      rw [h_after] at status
      cases status
    | rejects p op_eq before status outage => cases status.symm.trans h_after
    | stalls op_eq moved status => cases status.symm.trans h_after
    | finishes r op_eq before status => exact h_op r op_eq
  -- a slot that is registered has not ended
  rcases slot_origin h_step h_e' with ⟨e, h_e⟩ | ⟨spec, created, -, -, rfl⟩
  · have h_before := h_inv id e h_e
    rcases (tracker_step (Sound.reachable reached).numbered h_step h_e h_e').op with
      h_same | ⟨op, h_op, h_cause⟩
    · rw [h_same]
      exact h_before
    · rw [h_op]
      refine h_keep e.health op _ h_before fun r h_eq => ?_
      subst h_eq
      cases h_cause
  · intro h_eq
    cases h_eq

/-- A slot that is rejected has an episode. -/
theorem episodes_of_rejected {Allowed : Config V → Action Task Choice (Request V) → Prop}
    (h : (hubProgram hub).Reachable (initialConfig V) Allowed c) {id : SlotId}
    (h_rejected : Rejected c id) : c.store.episodesOf id ≠ [] := by
  refine h.induct (motive := fun c => Rejected c id → c.store.episodesOf id ≠ []) ?_
    (fun reached h_inv _ h_step h_rejected => ?_) h_rejected
  · rintro ⟨e, h_e, -⟩
    cases h_e
  · cases episode_step (Sound.reachable reached).numbered (Ledger.reachable reached).addressed
      h_step id with
    | opens before after episodes =>
      rw [episodes]
      exact List.append_ne_nil_of_right_ne_nil _ (List.cons_ne_nil _ _)
    | stays enters leaves episodes =>
      rw [episodes]
      exact h_inv (enters h_rejected)

/-- An error that is neither on its way nor pushed is lost for good. -/
theorem lost_for_good {Allowed : Config V → Action Task Choice (Request V) → Prop}
    (h : (hubProgram hub).Reachable (initialConfig V) Allowed c) {id : SlotId} {episode : ℕ}
    (h_mem : episode ∈ c.store.episodesOf id) (h_del : ¬ Delivering c id episode)
    (h_pushed : episode ∉ refusals (c.store.pushed id))
    (h_later : (hubProgram hub).Reachable c Allowed c') :
    episode ∉ refusals (c'.store.pushed id) := by
  refine (h_later.induct (motive := fun c' => episode ∈ c'.store.episodesOf id ∧
    ¬ Delivering c' id episode ∧ episode ∉ refusals (c'.store.pushed id))
    ⟨h_mem, h_del, h_pushed⟩ fun reached h_inv _ h_step => ?_).2.2
  obtain ⟨h_mem, h_del, h_pushed⟩ := h_inv
  have h_ledger := Ledger.reachable (h.trans reached)
  have h_refusal := refusal_step h_ledger.addressed h_step
  -- an episode that is neither reported nor pushed stays so, as none is opened twice
  refine ⟨h_refusal.mem_episodesOf.1 h_mem, fun h_now => ?_, fun h_now => ?_⟩
  · rcases delivering_origin h_refusal h_step h_now with h_old | ⟨rfl, -⟩
    · exact h_del h_old
    · exact absurd (h_ledger.accounted.fresh id _ h_mem) (Nat.lt_irrefl _)
  · rcases refusals_step h_ledger.sincere h_step id with h_same | ⟨t, i, episode', runs, h_i, h_eq⟩
    · exact h_pushed (h_same ▸ h_now)
    · rw [h_eq] at h_now
      rcases List.mem_append.mp h_now with h_now | h_now
      · exact h_pushed h_now
      · obtain rfl := List.mem_singleton.mp h_now
        obtain ⟨ch, rest, -, h_todo⟩ := runs
        exact h_del ⟨t, i, by rw [h_todo]; exact List.mem_cons_self, h_i⟩

/-- The episodes of a slot are those that its history opens. -/
theorem mem_episodesOf {s : Store V} {id : SlotId} {episode : ℕ} :
    episode ∈ s.episodesOf id ↔ .refused id episode ∈ s.history := by
  rw [Store.episodesOf, List.mem_reverse, List.mem_filterMap]
  simp only [episodeOf_eq_some, exists_eq_right]

/-- **Brimful.** The queue of the only stream is full, nothing was refused yet, and the
supervisor of the shared connection waits for the next event. -/
structure Brimful (c : Config ℕ) (d : Driving ℕ) (target : SlotTarget ℕ) (stall : Option Instant)
    (rest : List (Instr ℕ)) : Prop where
  reach : (hubProgram sampleHub).Reachable (initialConfig ℕ) Program.anyStep c
  waits : c.todo firstSupervisor = .select d stall :: rest
  atRest : AtRest c
  shared : d.scope = .shared
  targets : d.connection.slotTargets = [target]
  zero : target.id = 0
  listens : c.store.closed 0 = false
  full : (c.store.queues 0).length = slotChannelCapacity
  unrefused : c.store.episodesOf 0 = []
  isNew : c.store.state.refusalIsNew .shared 0 = true

/-- As many frames as the queue holds make it so. -/
theorem brimful : ∃ c d target stall rest, Brimful c d target stall rest := by
  obtain ⟨c₀, d, target, stall, rest, h_reach, h_attached, h_id, h_carries, h_rest, -, h_live, h_ids,
    h_episodes⟩ := sample_attached Program.anyStep fun _ _ _ _ => True.intro
  -- fill the queue to the last place
  obtain ⟨c₁, stall₁, items, h₁, h_todo₁, h_items, h_queues₁⟩ :=
    fill sampleHub lenient_anyStep h_attached.waits h_carries
      (by rw [h_attached.shared]; exact h_attached.live) h_attached.listens slotChannelCapacity
      (by rw [h_attached.drained]; exact Nat.le_of_eq (Nat.zero_add _))
  have h_reach₁ := h_reach.trans h₁.reach
  have h_full₁ : (c₁.store.queues 0).length = slotChannelCapacity := by
    have h_map := congrArg List.length h_items
    rw [List.length_map, List.length_map, List.length_range] at h_map
    rw [h_queues₁, ← h_id, Function.update_self, h_attached.drained, List.nil_append, h_map]
  -- filling it refuses nothing
  have h_none₁ : c₁.store.episodesOf 0 = [] := by
    refine List.eq_nil_iff_forall_not_mem.mpr fun episode h_mem => ?_
    obtain ⟨new, h_new, h_traffic⟩ := h₁.history
    rw [mem_episodesOf, h_new] at h_mem
    rcases List.mem_append.mp h_mem with h_mem | h_mem
    · obtain ⟨p, h_p, h_source⟩ := h_traffic _ h_mem
      rw [List.mem_singleton.mp h_source] at h_p
      cases h_p
    · have h_lt := (Ledger.reachable h_reach).accounted.fresh 0 episode (mem_episodesOf.mpr h_mem)
      rw [h_episodes] at h_lt
      exact Nat.not_lt_zero _ h_lt
  -- without an episode the slot is not rejected yet
  obtain ⟨e₁, h_e₁, h_belongs⟩ : ∃ e, c₁.store.state.slots 0 = some e ∧
      e.belongsTo 0 .shared = true := by
    refine ((HubState.mem_scopeIds _).mp ?_).2
    rw [h₁.aside.scopeIds, h_live]
    exact List.mem_cons_self
  have h_new₁ : c₁.store.state.refusalIsNew .shared 0 = true := by
    unfold HubState.refusalIsNew
    rw [h_e₁]
    refine Bool.and_eq_true_iff.mpr ⟨h_belongs, HealthTracker.refusalIsNew_eq_true.mpr
      ⟨fun h_eq => ?_, not_ended h_reach₁ h_e₁⟩⟩
    exact episodes_of_rejected h_reach₁ ⟨e₁, h_e₁, h_eq⟩ h_none₁
  obtain ⟨target', h_targets, h_target'⟩ : ∃ target', d.connection.slotTargets = [target'] ∧
      target'.id = 0 := by
    obtain ⟨target', targets, h_eq, h_first, h_nil⟩ := List.map_eq_cons_iff.mp h_ids
    rw [List.map_eq_nil_iff.mp h_nil] at h_eq
    exact ⟨target', h_eq, h_first⟩
  have h_rest₁ : AtRest c₁ := h_rest.of_todo h_attached.waits rfl h_todo₁ h₁.others
  refine ⟨c₁, d, target', stall₁, rest, h_reach₁, h_todo₁, h_rest₁, h_attached.shared, h_targets,
    h_target', ?_, h_full₁, h_none₁, h_new₁⟩
  rw [h₁.aside.closed, ← h_id]
  exact h_attached.listens

section Brimful

variable {c : Config ℕ} {d : Driving ℕ} {target : SlotTarget ℕ} {stall : Option Instant}
  {rest : List (Instr ℕ)}

/-- Blokli answers with 403: the slot is rejected, and the error of the episode is next. -/
theorem Brimful.answered (h : Brimful c d target stall rest) :
    ∃ c' : Config ℕ, (hubProgram sampleHub).Reachable c Program.anyStep c' ∧
      c'.todo firstSupervisor = .deliver .shared target
        { event := .error (.subscription (.unexpectedResponse 403)),
          origin := .refusal c.store.episodes } ::
        .leaveDrive d (.reconnect (rejectedRetryDelay sampleHub.cfg)) :: rest ∧
      (∀ t, t ≠ firstSupervisor → c'.todo t = c.todo t) ∧
      c'.store.history = .refused 0 c.store.episodes :: c.store.history ∧
      c'.store.closed = c.store.closed ∧ c'.store.queues = c.store.queues := by
  let error : ErrorKind := .subscription (.unexpectedResponse 403)
  let leave : Instr ℕ := .leaveDrive d (.reconnect (rejectedRetryDelay sampleHub.cfg))
  let answered : Effect ℕ := {
    store := c.store
    next := [.reject d.scope d.connection.slotTargets (.httpStatus 403) error, leave] }
  let c₁ := c.resume firstSupervisor rest answered
  have h_todo₁ : c₁.todo firstSupervisor = .reject d.scope d.connection.slotTargets
      (.httpStatus 403) error :: leave :: rest := resume_todo_self ..
  let refused : Effect ℕ :=
    execReject d.scope d.connection.slotTargets (.httpStatus 403) error c.store
  -- the refusal is new for the only slot
  have h_first : (d.connection.slotTargets.filter fun target =>
      c.store.state.refusalIsNew d.scope target.id) = [target] := by
    rw [h.targets, h.shared]
    refine List.filter_cons_of_pos ?_
    rw [h.zero]
    exact h.isNew
  refine ⟨c₁.resume firstSupervisor (leave :: rest) refused, ?_, ?_, fun t h_t => ?_, ?_, rfl, rfl⟩
  · exact (Program.Reachable.exec forbidden h.waits rfl True.intro).trans
      (.exec .proceed h_todo₁ rfl True.intro)
  · refine (resume_todo_self ..).trans ?_
    change (List.map _ (List.filter _ _)) ++ _ = _
    rw [h_first, h.shared]
    rfl
  · exact (resume_todo_of_ne c₁ _ _ _ h_t rfl).trans (resume_todo_of_ne c _ _ _ h_t rfl)
  · change (List.map _ (List.filter _ _)) ++ _ = _
    rw [h_first, List.map_singleton, h.zero]
    rfl

end Brimful

/-- **A rejection can get lost**: the queue of a stream on the shared connection
is full when Blokli answers the connection with 403. The error of the episode is
dropped, and the stream never returns it. -/
theorem rejection_lost : ∃ (c : Config ℕ) (episode : ℕ),
    (hubProgram sampleHub).Reachable (initialConfig ℕ) Program.anyStep c ∧
      c.store.closed 0 = false ∧ episode ∈ c.store.episodesOf 0 ∧ ¬ Delivering c 0 episode ∧
      ∀ c', (hubProgram sampleHub).Reachable c Program.anyStep c' →
        episode ∉ refusals (c'.store.pushed 0) := by
  obtain ⟨c₁, d, target, stall, rest, h_brim⟩ := brimful
  obtain ⟨c₃, h_reach₃, h_todo₃, h_others₃, h_history₃, h_closed₃, h_queues₃⟩ := h_brim.answered
  have h_open₃ : c₃.store.closed 0 = false := by
    rw [h_closed₃]
    exact h_brim.listens
  -- the error does not fit into the queue
  obtain ⟨c₄, h₄, h_todo₄, h_queues₄, h_history₄⟩ := deliver_full sampleHub lenient_anyStep rfl
    h_todo₃ (by rw [h_brim.zero]; exact h_open₃)
    (by rw [h_brim.zero, h_queues₃]; exact Nat.le_of_eq h_brim.full.symm)
  have h_reach₄ := (h_brim.reach.trans h_reach₃).trans h₄.reach
  have h_mem : c₁.store.episodes ∈ c₄.store.episodesOf 0 := by
    rw [mem_episodesOf, h_history₄, h_history₃]
    exact List.mem_cons_of_mem _ List.mem_cons_self
  have h_still : ¬ Delivering c₄ 0 c₁.store.episodes := by
    rintro ⟨t, i, hi, h_i⟩
    obtain ⟨scope, target', item, rfl, -⟩ := refusing_eq_some h_i
    by_cases h_t : t = firstSupervisor
    · subst h_t
      rw [h_todo₄] at hi
      simp only [List.mem_cons, reduceCtorEq, false_or] at hi
      have h_old := h_brim.atRest firstSupervisor (.deliver scope target' item)
        (by rw [h_brim.waits]; exact List.mem_cons_of_mem _ hi)
      cases h_old
    · rw [h₄.others t h_t, h_others₃ t h_t] at hi
      cases h_brim.atRest t _ hi
  refine ⟨c₄, c₁.store.episodes, h_reach₄, ?_, h_mem, h_still, fun c' h_later =>
    lost_for_good h_reach₄ h_mem h_still (fun h_pushed => ?_) h_later⟩
  · rw [h₄.aside.closed]
    exact h_open₃
  · -- nothing of the episode was pushed before
    have h_same : c₄.store.pushed 0 = c₁.store.pushed 0 := by
      rw [pushed_of_cons h_history₄, pushed_of_cons h_history₃]
      exact (List.append_nil _).trans (List.append_nil _)
    rw [h_same] at h_pushed
    have h_old := (Ledger.reachable h_brim.reach).accounted.pushed 0 _ h_pushed
    rw [h_brim.unrefused] at h_old
    exact absurd h_old List.not_mem_nil

end Blokli
