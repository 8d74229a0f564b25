import BlokliClient.Hub.Flow

/-!
# What `dispatch` makes of a frame

A frame is routed when it is read, the slots that are still on the connection
are listed after that, and the payloads of these slots are decoded and handed
over one by one. The lemmas of this file say where the instructions of
`dispatch` come from, with the locals they carry.
-/

namespace Blokli

open Worklist

variable {V : Type} {hub : HubConfig} {t : Task} {ch : Choice} {i : Instr V} {c : Config V}
  {e : Effect V}

/-- `dispatch` starts with the routed frame. -/
theorem readLive_origin (h : exec hub t ch i c = some e) {d : Dispatching V}
    (hj : .readLive d ∈ e.next) : ∃ driving stall response r,
      i = .select driving stall ∧ ch = .next (some (.event (some response))) ∧
      route response driving.connection.targets = some r ∧
      d = driving.dispatching c.store.frames r ∧
      e.store.history = .frame c.store.frames driving.conn response :: c.store.history := by
  have h_succ := exec_successors h _ hj
  cases i with
  -- a frame is dispatched after an event that decodes and can be routed
  | select driving stall =>
    simp only [exec, execNext, execEvent, execStreamError, malformedFrame] at h
    repeat' split at h
    all_goals first
      | (cases h; done)
      | (obtain rfl := Option.some.inj h
         simp only [List.mem_cons, List.not_mem_nil, or_false, reduceCtorEq, or_self,
           Instr.readLive.injEq] at hj
         exact ⟨driving, stall, _, _, rfl, rfl, ‹_›, hj, rfl⟩)
      | (obtain rfl := Option.some.inj h
         simp at hj)
  | _ => exact absurd h_succ (Point.not_mem rfl)

/-- The loop over the payloads starts with the slots that are live, and goes on
with the rest of the payloads. -/
theorem dispatchPayloads_origin (h : exec hub t ch i c = some e) {d : Dispatching V}
    (hj : .dispatchPayloads d ∈ e.next) :
    (∃ d₀, i = .readLive d₀ ∧ d = { d₀ with live := c.store.state.scopeIds d₀.scope } ∧
      e.store = c.store.log (.live d₀.frame (c.store.state.scopeIds d₀.scope))) ∨
    ∃ d₀ p, i = .dispatchPayloads d₀ ∧ d₀.payloads = p :: d.payloads ∧
      d.toDriving = d₀.toDriving ∧ d.frame = d₀.frame ∧ d.live = d₀.live := by
  have h_succ := exec_successors h _ hj
  cases i with
  | readLive d₀ =>
    obtain rfl := Option.some.inj h
    exact Or.inl ⟨d₀, rfl, Instr.dispatchPayloads.inj (List.mem_singleton.mp hj), rfl⟩
  | dispatchPayloads d₀ =>
    obtain rfl := Option.some.inj h
    right
    -- `execPayload` goes on with the other payloads in each of its branches
    revert hj
    change _ ∈ execPayload d₀ → _
    unfold execPayload
    split
    · simp
    · next id payload payloads h_payloads =>
      dsimp only
      intro hj
      refine ⟨d₀, (id, payload), rfl, ?_⟩
      split at hj
      · obtain rfl := Instr.dispatchPayloads.inj (List.mem_singleton.mp hj)
        exact ⟨h_payloads, rfl, rfl, rfl⟩
      · split at hj
        · simp only [List.mem_cons, List.not_mem_nil, or_false, reduceCtorEq, false_or,
            Instr.dispatchPayloads.injEq] at hj
          obtain rfl := hj
          exact ⟨h_payloads, rfl, rfl, rfl⟩
        · split at hj
          all_goals
            simp only [List.mem_cons, List.not_mem_nil, or_false, reduceCtorEq, false_or,
              Instr.dispatchPayloads.injEq] at hj
            obtain rfl := hj
            exact ⟨h_payloads, rfl, rfl, rfl⟩
  | _ => exact absurd h_succ (Point.not_mem rfl)

/-- Where a delivery comes from: the payload of a frame whose owner is still on
the connection, a refusal that opens an episode, or a connection that could not
be opened. -/
inductive DeliverOrigin (c : Config V) (scope : Scope) (target : SlotTarget V) (item : Item V) :
    Instr V → Prop
  | payload (d : Dispatching V) (payload : Json) (payloads : List (SlotId × Json)) (value : V)
      (head : d.payloads = (target.id, payload) :: payloads)
      (owner : d.target target.id = some target)
      (decoded : target.decode payload = some value) (same : d.scope = scope)
      (item_eq : item = { event := .data value, origin := .frame d.conn d.frame }) :
      DeliverOrigin c scope target item (.dispatchPayloads d)
  | refusal (targets : List (SlotTarget V)) (problem : SubscriptionProblem) (error : ErrorKind)
      (listed : target ∈ targets) (first : c.store.state.refusalIsNew scope target.id = true)
      (item_eq : item = { event := .error error, origin := .refusal c.store.episodes }) :
      DeliverOrigin c scope target item (.reject scope targets problem error)
  | failure (d : Driving V) (error : ErrorKind) (same : d.scope = scope)
      (item_eq : item = { event := .error error, origin := .failure }) :
      DeliverOrigin c scope target item (.openStream d)

theorem Dispatching.target_eq_some {d : Dispatching V} {id : SlotId} {target : SlotTarget V}
    (h : d.target id = some target) :
    target ∈ d.connection.slotTargets ∧ target.id = id ∧ id ∈ d.live := by
  unfold Dispatching.target at h
  obtain ⟨h_target, h_live⟩ := Option.filter_eq_some_iff.mp h
  unfold Connection.byId at h_target
  exact ⟨List.mem_of_find?_eq_some h_target, by simpa using List.find?_some h_target,
    of_decide_eq_true h_live⟩

theorem deliver_origin (h : exec hub t ch i c = some e) {scope : Scope} {target : SlotTarget V}
    {item : Item V} (hj : .deliver scope target item ∈ e.next) :
    DeliverOrigin c scope target item i := by
  have h_succ := exec_successors h _ hj
  -- a value decoded for its slot
  cases i with
  | dispatchPayloads d =>
    obtain rfl := Option.some.inj h
    revert hj
    change _ ∈ execPayload d → _
    unfold execPayload
    split
    · simp
    · next id payload payloads h_payloads =>
      dsimp only
      intro hj
      split at hj
      · simp at hj
      · next target' h_target =>
        split at hj
        · next value h_value =>
          simp only [List.mem_cons, List.not_mem_nil, or_false, reduceCtorEq,
            Instr.deliver.injEq] at hj
          obtain ⟨rfl, rfl, rfl⟩ := hj
          have h_id : target.id = id := (Dispatching.target_eq_some h_target).2.1
          subst h_id
          exact .payload d payload payloads value h_payloads h_target h_value rfl rfl
        · split at hj <;> simp at hj
  -- the refusal of a request, reported to each of its slots that is listed first
  | reject scope' targets problem error =>
    obtain rfl := Option.some.inj h
    obtain ⟨target', h_target, h_eq⟩ := List.mem_map.mp hj
    obtain ⟨rfl, rfl, rfl⟩ := Instr.deliver.inj h_eq
    obtain ⟨h_listed, h_first⟩ := List.mem_filter.mp h_target
    exact .refusal targets problem error h_listed h_first rfl
  -- a stream that could not be opened: the error goes to all targets
  | openStream d =>
    obtain rfl := Option.some.inj h
    revert hj
    change _ ∈ (execOpenStream hub d c.store).next → _
    unfold execOpenStream
    split
    · next error h_error =>
      intro hj
      rcases List.mem_append.mp hj with hj | hj
      · obtain ⟨target', -, h_eq⟩ := List.mem_map.mp hj
        obtain ⟨rfl, rfl, rfl⟩ := Instr.deliver.inj h_eq
        exact .failure d error rfl rfl
      · simp at hj
    · simp
  | _ => exact absurd h_succ (Point.not_mem rfl)

/-- When no connection could be assembled, every slot is sent the error. -/
theorem trySend_origin (h : exec hub t ch i c = some e) {id : SlotId} {item : Item V}
    (hj : .trySend id item ∈ e.next) :
    ∃ error, item = { event := .error error, origin := .failure } := by
  have h_succ := exec_successors h _ hj
  cases i with
  -- only a document that cannot be built puts an error past the capacity check
  | build scope slots =>
    simp only [exec, execBuild] at h
    split at h
    · cases h
    · next error h_error =>
      obtain rfl := Option.some.inj h
      rcases List.mem_append.mp hj with hj | hj
      · obtain ⟨p, -, h_eq⟩ := List.mem_map.mp hj
        exact ⟨error, (Instr.trySend.inj h_eq).2.symm⟩
      · simp at hj
    · obtain rfl := Option.some.inj h
      simp at hj
  | _ => exact absurd h_succ (Point.not_mem rfl)

/-! ### The turns of the loops -/

section Turns

variable {d : Dispatching V} {id : SlotId} {payload : Json} {payloads : List (SlotId × Json)}
  {errors : List GraphQlError} {slotErrors : List (SlotId × List GraphQlError)}
  {target : SlotTarget V}

/-- After the last payload come the slot errors. -/
theorem execPayload_nil (h : d.payloads = []) : execPayload d = [.dispatchErrors d] := by
  unfold execPayload
  rw [h]

/-- The payload of a slot that is not on the connection is passed over. -/
theorem execPayload_stale (h : d.payloads = (id, payload) :: payloads)
    (h_none : d.target id = none) :
    execPayload d = [.dispatchPayloads { d with payloads := payloads }] := by
  have h_target : ({ d with payloads := payloads } : Dispatching V).target id = none := h_none
  unfold execPayload
  rw [h]
  dsimp only
  rw [h_target]

/-- A payload that decodes is handed on. -/
theorem execPayload_decoded {value : V} (h : d.payloads = (id, payload) :: payloads)
    (h_owner : d.target id = some target) (h_value : target.decode payload = some value) :
    execPayload d =
      [.deliver d.scope target { event := .data value, origin := .frame d.conn d.frame },
        .dispatchPayloads { d with payloads := payloads, decodedAny := true }] := by
  have h_target : ({ d with payloads := payloads } : Dispatching V).target id = some target :=
    h_owner
  unfold execPayload
  rw [h]
  dsimp only
  rw [h_target]
  dsimp only
  rw [h_value]

/-- On the shared connection, a slot whose payload does not decode moves to a connection of its
own. -/
theorem execPayload_broken (h : d.payloads = (id, payload) :: payloads)
    (h_owner : d.target id = some target) (h_value : target.decode payload = none)
    (h_shared : d.scope = .shared) :
    execPayload d = [.withHealth .shared [id] (.problem .malformedEvent), .isolate id .malformed,
      .dispatchPayloads { d with payloads := payloads, failed := id :: d.failed }] := by
  have h_target : ({ d with payloads := payloads } : Dispatching V).target id = some target :=
    h_owner
  unfold execPayload
  rw [h]
  dsimp only
  rw [h_target]
  dsimp only
  rw [h_value, h_shared]

/-- After the last slot error, a frame without document errors counts as activity of the slots
that did not fail. -/
theorem execSlotError_nil (h : d.slotErrors = []) (h_clean : d.documentErrors = []) :
    execSlotError d = [.withHealth d.scope d.alive .transportActivity, .dispatchDocument d] := by
  unfold execSlotError
  rw [h, h_clean, List.isEmpty_nil, Bool.or_true]
  rfl

/-- The errors of a slot that is not on the connection are passed over. -/
theorem execSlotError_stale (h : d.slotErrors = (id, errors) :: slotErrors)
    (h_none : d.target id = none) :
    execSlotError d = [.dispatchErrors { d with slotErrors := slotErrors }] := by
  have h_target : ({ d with slotErrors := slotErrors } : Dispatching V).target id = none := h_none
  unfold execSlotError
  rw [h]
  dsimp only
  rw [h_target]

/-- On the shared connection, a slot with errors is rejected and moves to a connection of its
own. -/
theorem execSlotError_rejected (h : d.slotErrors = (id, errors) :: slotErrors)
    (h_owner : d.target id = some target) (h_shared : d.scope = .shared) :
    execSlotError d = [.reject .shared [target] .graphQl (errorsToClientError errors),
      .isolate id .rejected,
      .dispatchErrors { d with slotErrors := slotErrors, failed := id :: d.failed }] := by
  have h_target : ({ d with slotErrors := slotErrors } : Dispatching V).target id = some target :=
    h_owner
  unfold execSlotError
  rw [h]
  dsimp only
  rw [h_target, h_shared]

end Turns

end Blokli
