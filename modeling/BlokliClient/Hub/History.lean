import BlokliClient.Hub.Slots

/-!
# What the history records

The history only grows, and an event is recorded by the instruction it belongs
to (`Event.sources`). Statements about the recent past are statements about the
part of the history that is newer than some event (`since`).
-/

namespace Blokli

open Worklist

variable {V : Type} {hub : HubConfig} {t : Task} {ch : Choice} {i : Instr V} {c c' : Config V}
  {e : Effect V} {a : Action Task Choice (Request V)}

/-- The instructions that record an event. -/
def Event.sources : Event V → List Point
  | .snapshot _ _ => [.snapshot]
  | .registered _ _ => []
  | .built _ _ _ _ _ => [.build]
  | .frame _ _ _ => [.select]
  | .live _ _ => [.readLive]
  | .queued _ _ => [.trySend, .deliver]
  | .dropped _ _ _ _ | .undelivered _ _ => [.deliver]
  | .received _ _ => [.receive]
  | .refused _ _ => [.reject]
  | .resyncRequested _ => [.requestResync]
  | .ended _ _ _ => [.endSlots]

/-- The events that an instruction adds. -/
def Records (i : Instr V) (old history : List (Event V)) : Prop :=
  ∃ new, history = new ++ old ∧ ∀ ev ∈ new, i.point ∈ ev.sources

theorem Records.nothing (i : Instr V) (old : List (Event V)) : Records i old old :=
  ⟨[], rfl, fun _ h => absurd h List.not_mem_nil⟩

theorem Records.one {ev : Event V} (old : List (Event V)) (h : i.point ∈ ev.sources) :
    Records i old (ev :: old) :=
  ⟨[ev], rfl, List.forall_mem_singleton.mpr h⟩

theorem records_execNext (hub : HubConfig) (t : Task) (d : Driving V) (item : Option SseItem)
    (stall : Option Instant) (s : Store V) :
    Records (.select d stall) s.history (execNext hub t d item s).store.history := by
  unfold execNext
  split
  · -- an event, which is recorded when its data is a response
    unfold execEvent
    split
    · exact Records.nothing _ _
    · exact Records.one _ List.mem_cons_self
  · exact Records.nothing _ _
  · exact Records.nothing _ _
  · -- an error, which is not recorded
    unfold execStreamError
    dsimp only
    split
    · exact Records.nothing _ _
    · split <;> exact Records.nothing _ _
  · exact Records.nothing _ _

/-- **Instructions record what they do.** -/
theorem exec_history (h : exec hub t ch i c = some e) :
    Records i c.store.history e.store.history := by
  cases i with
  | reject scope targets problem error =>
    obtain rfl := Option.some.inj h
    exact ⟨_, rfl, List.forall_mem_map.mpr fun _ _ => List.mem_cons_self⟩
  | dispatchDocument d =>
    obtain rfl := Option.some.inj h
    unfold execDocument
    dsimp only
    split
    · exact Records.nothing _ _
    · split
      · exact Records.nothing _ _
      · split <;> split <;> exact Records.nothing _ _
  | select d stall =>
    simp only [exec] at h
    repeat' split at h
    all_goals first
      | (cases h; done)
      | (obtain rfl := Option.some.inj h
         first
           | exact records_execNext ..
           | exact Records.nothing _ _)
  -- every other instruction records one event, or nothing
  | _ =>
    simp only [exec, execReadCause, execBuild, execTrySend, execOpenStream, execLeaveDrive,
      execMalformedEvent, execDeliver, execReceive] at h
    repeat' split at h
    all_goals first
      | (cases h; done)
      | (obtain rfl := Option.some.inj h
         first
           | exact Records.nothing _ _
           | exact Records.one _ (List.mem_of_elem_eq_true rfl))

/-- A request records the registration it is, if it is one. -/
theorem accept_history {r : Request V} (h : accept r c = some (t, e)) :
    e.store.history = c.store.history ∨ ∃ spec created, r = .register spec created ∧
      e.store.history = .registered c.store.state.nextId spec :: c.store.history := by
  cases r
  all_goals
    simp only [accept] at h
    first
      | split at h
      | skip
  all_goals first
    | (cases h; done)
    | (obtain ⟨rfl, rfl⟩ := Prod.mk.inj (Option.some.inj h)
       first
         | exact Or.inl rfl
         | exact Or.inr ⟨_, _, rfl, rfl⟩)

/-- **The history grows.** A new event was recorded by the instruction that ran,
or is the registration that was served. -/
theorem history_step (h : (hubProgram hub).step c a = some c') :
    ∃ new, c'.store.history = new ++ c.store.history ∧ ∀ ev ∈ new,
      (∃ t i, Runs c a t i ∧ i.point ∈ ev.sources) ∨
      ∃ spec created, a = .request (.register spec created) ∧
        ev = .registered c.store.state.nextId spec := by
  rcases Program.step_cases h with ⟨t, ch, i, rest, e, rfl, h_todo, he, rfl⟩ |
    ⟨r, t, e, rfl, he, h_todo, rfl⟩
  · obtain ⟨new, h_new, h_sources⟩ := exec_history he
    exact ⟨new, h_new, fun ev h_ev => Or.inl ⟨t, i, ⟨ch, rest, rfl, h_todo⟩, h_sources ev h_ev⟩⟩
  -- a request records a registration, or nothing
  · rcases accept_history he with h_same | ⟨spec, created, rfl, h_new⟩
    · exact ⟨[], h_same, fun _ h_ev => absurd h_ev List.not_mem_nil⟩
    · exact ⟨[.registered c.store.state.nextId spec], h_new,
        List.forall_mem_singleton.mpr (Or.inr ⟨spec, created, rfl, rfl⟩)⟩

/-- A registration is recorded. -/
theorem registration_recorded {spec : SubscriptionSpec V} {created : Instant}
    (h : (hubProgram hub).step c (.request (.register spec created)) = some c') :
    c'.store.history = .registered c.store.state.nextId spec :: c.store.history := by
  rcases Program.step_cases h with ⟨t, ch, i, rest, e, h_eq, -⟩ | ⟨r, t, e, h_eq, he, -, rfl⟩
  · cases h_eq
  · obtain rfl := Action.request.inj h_eq
    change accept (.register spec created) c = some (t, e) at he
    simp only [accept] at he
    split at he
    · obtain ⟨rfl, rfl⟩ := Prod.mk.inj (Option.some.inj he)
      rfl
    · cases he

theorem history_subset (h : (hubProgram hub).step c a = some c') {ev : Event V}
    (h_ev : ev ∈ c.store.history) : ev ∈ c'.store.history := by
  obtain ⟨new, h_new, -⟩ := history_step h
  rw [h_new]
  exact List.mem_append_right _ h_ev

/-- A step that records one event records nothing else. -/
theorem new_eq_singleton {new history : List (Event V)} {ev : Event V}
    (h : ev :: history = new ++ history) : new = [ev] :=
  (List.append_cancel_right (show [ev] ++ history = new ++ history from h)).symm

/-! ### The recent past -/

/-- The events since the last one that `stop` accepts. -/
def since (stop : Event V → Bool) (history : List (Event V)) : List (Event V) :=
  history.takeWhile fun ev => !stop ev

variable {stop : Event V → Bool}

theorem since_cons_stop {ev : Event V} (h : stop ev = true) (history : List (Event V)) :
    since stop (ev :: history) = [] := List.takeWhile_cons_of_neg (by rw [h]; simp)

theorem since_cons {ev : Event V} (h : stop ev = false) (history : List (Event V)) :
    since stop (ev :: history) = ev :: since stop history :=
  List.takeWhile_cons_of_pos (by rw [h]; rfl)

theorem mem_since_cons {history : List (Event V)} {ev' ev : Event V}
    (h : ev ∈ since stop (ev' :: history)) : ev = ev' ∨ ev ∈ since stop history := by
  -- the newest event ends the search, or it does not
  cases h_stop : stop ev' with
  | true =>
    rw [since_cons_stop h_stop] at h
    exact absurd h List.not_mem_nil
  | false =>
    rw [since_cons h_stop] at h
    exact List.mem_cons.mp h

theorem mem_since_append {new history : List (Event V)} {ev : Event V}
    (h : ev ∈ since stop (new ++ history)) : ev ∈ new ∨ ev ∈ since stop history := by
  -- the induction is on the new events
  induction new with
  | nil => exact Or.inr h
  | cons ev' new ih =>
    rcases mem_since_cons h with rfl | h
    · exact Or.inl List.mem_cons_self
    · exact (ih h).imp_left (List.mem_cons_of_mem _)

/-- What happens without a stop adds to the recent past. -/
theorem since_append {new : List (Event V)} (h : ∀ ev ∈ new, stop ev = false)
    (history : List (Event V)) : since stop (new ++ history) = new ++ since stop history := by
  induction new with
  | nil => rfl
  | cons ev new ih =>
    rw [List.cons_append, since_cons (h ev List.mem_cons_self),
      ih fun ev' h_ev => h ev' (List.mem_cons_of_mem _ h_ev), List.cons_append]

/-- A recent event after a step was recent before, or is new. -/
theorem mem_since_step (h : (hubProgram hub).step c a = some c') {ev : Event V}
    (h_ev : ev ∈ since stop c'.store.history) :
    ev ∈ since stop c.store.history ∨
      (∃ t i, Runs c a t i ∧ i.point ∈ ev.sources) ∨
      ∃ spec created, a = .request (.register spec created) ∧
        ev = .registered c.store.state.nextId spec := by
  obtain ⟨new, h_new, h_sources⟩ := history_step h
  rw [h_new] at h_ev
  rcases mem_since_append h_ev with h_ev | h_ev
  · exact Or.inr (h_sources ev h_ev)
  · exact Or.inl h_ev

end Blokli
