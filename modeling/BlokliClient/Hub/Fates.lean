import BlokliClient.Hub.FrameOrder
import BlokliClient.Hub.Overflow

/-!
# What becomes of every payload

A payload under the alias of a slot of the connection that read it is on its way
to the stream of the slot, was pushed into its queue, or was left out for one of
few reasons (`Fated`). The reasons are recorded, and what is recorded took place
in the run (`Occurred`).

`faithful_delivery` puts the development of `Hub.Provenance`, `Hub.Payloads` and
`Hub.FrameOrder` together: what a stream returns are payloads of its own, each of
one frame, decoded by its own decoder and in the order of the frames.
-/

namespace Blokli

open Worklist

variable {V : Type} {hub : HubConfig} {t : Task} {ch : Choice} {i : Instr V} {c c' : Config V}
  {e : Effect V} {a : Action Task Choice (Request V)}

/-! ### Payloads that are offered -/

/-- A connection read a frame with a payload under the alias of one of its slots. -/
structure Offered (s : Store V) (scope : Scope) (connection : Connection V) (conn number : ℕ)
    (response : GraphQlResponse) (target : SlotTarget V) (payload : Json) : Prop where
  built : ∃ slots present, .built conn scope slots connection present ∈ s.history
  frame : .frame number conn response ∈ s.history
  owner : (aliasOfSlot target.id, target) ∈ connection.targets
  member : (aliasOfSlot target.id, payload) ∈ response.members

/-- The payload of slot `id` in a frame is on its way to the queue of the slot. -/
inductive Underway (c : Config V) (id : SlotId) (conn number : ℕ) : Prop
  | routed (t : Task) (i : Instr V) (d : Dispatching V) (pending : i ∈ c.todo t)
      (routing : i.routing = some d) (conn_eq : d.conn = conn) (frame_eq : d.frame = number)
      (waits : id ∈ d.payloads.map Prod.fst)
  | handed (t : Task) (scope : Scope) (target : SlotTarget V) (item : Item V)
      (pending : .deliver scope target item ∈ c.todo t) (id_eq : target.id = id)
      (data : item.isData = true) (origin : item.origin = .frame conn number)

/-- What becomes of an offered payload, as it is recorded. -/
inductive Fate (c : Config V) (connection : Connection V) (conn number : ℕ)
    (response : GraphQlResponse) (target : SlotTarget V) (payload : Json) : Prop
  | underway (way : Underway c target.id conn number)
  | sent (pushed : c.store.Sent target.id conn number)
  | unroutable (none : route response connection.targets = none)
  | overruled (null : payload.isNull = true) (error : GraphQlError)
      (listed : error ∈ response.errors.getD [])
      (own : aliasOf error = some (aliasOfSlot target.id))
  | undecodable (none : target.decode (.object [(target.field, payload)]) = none)
  | departed (ids : List SlotId) (live : .live number ids ∈ c.store.history)
      (left : target.id ∉ ids)
  | dropped (item : Item V) (scope : Scope) (waiting : ℕ)
      (record : .dropped target.id item scope waiting ∈ c.store.history)
      (data : item.isData = true) (origin : item.origin = .frame conn number)
  | unheard (item : Item V) (record : .undelivered target.id item ∈ c.store.history)

/-- **Fated.** Every frame was read from a connection that was built, and every payload that
is offered has a fate. -/
structure Fated (c : Config V) : Prop where
  read : ∀ number conn response, .frame number conn response ∈ c.store.history →
    ∃ scope slots connection present,
      .built conn scope slots connection present ∈ c.store.history
  fates : ∀ scope connection conn number response target payload,
    Offered c.store scope connection conn number response target payload →
      Fate c connection conn number response target payload

/-! ### One step of a payload -/

/-- The loop goes on with the other payloads. -/
theorem execPayload_rest {d : Dispatching V} {p : SlotId × Json} {payloads : List (SlotId × Json)}
    (h : d.payloads = p :: payloads) : ∃ d', .dispatchPayloads d' ∈ execPayload d ∧
      d'.payloads = payloads ∧ d'.toDriving = d.toDriving ∧ d'.frame = d.frame := by
  unfold execPayload
  rw [h]
  dsimp only
  split
  · exact ⟨_, List.mem_cons_self, rfl, rfl, rfl⟩
  · split
    · exact ⟨_, List.mem_cons_of_mem _ List.mem_cons_self, rfl, rfl, rfl⟩
    · split
      · exact ⟨_, List.mem_cons_of_mem _ (List.mem_cons_of_mem _ List.mem_cons_self), rfl, rfl, rfl⟩
      · exact ⟨_, List.mem_cons_of_mem _ List.mem_cons_self, rfl, rfl, rfl⟩

/-- The payload of a slot that is on the connection, and whose decoder takes it, is handed
over. -/
theorem execPayload_handed {d : Dispatching V} {target : SlotTarget V} {payload : Json}
    {payloads : List (SlotId × Json)} {value : V}
    (h : d.payloads = (target.id, payload) :: payloads)
    (h_owner : d.target target.id = some target) (h_value : target.decode payload = some value) :
    .deliver d.scope target { event := .data value, origin := .frame d.conn d.frame } ∈
      execPayload d := by
  rw [execPayload_decoded h h_owner h_value]
  exact List.mem_cons_self

/-- The frame that `dispatch` works on tells the connection. -/
theorem driving_of_frame (h_est : Established c) (h_routing : Routing c) {s : Store V}
    (h_sub : ∀ ev ∈ c.store.history, ev ∈ s.history) (h_tal : Tallied s) (hi : i ∈ c.todo t)
    {d : Dispatching V} (h_i : i.routing = some d) {scope : Scope} {connection : Connection V}
    {conn : ℕ} {response : GraphQlResponse} {target : SlotTarget V} {payload : Json}
    (h : Offered s scope connection conn d.frame response target payload) :
    d.conn = conn ∧ d.scope = scope ∧ d.connection = connection ∧ ∃ r,
      route response connection.targets = some r ∧ d.payloads <:+ r.payloads := by
  obtain ⟨response', r, h_frame, h_route, h_suffix⟩ := h_routing.routed t i hi d h_i
  obtain ⟨slots, present, h_built⟩ := h_est.driven t i hi _ (driving_of_routing h_i)
  obtain ⟨slots', present', h_built'⟩ := h.built
  obtain ⟨rfl, rfl⟩ := h_tal.frame_unique (h_sub _ h_frame) h.frame
  obtain ⟨rfl, -, rfl, -⟩ := h_tal.built_unique (h_sub _ h_built) h_built'
  exact ⟨rfl, rfl, rfl, r, h_route, h_suffix⟩

/-- **The turn of a payload** in the loop of `dispatch`. -/
theorem fate_of_turn (h_est : Established c) (h_routing : Routing c) (h_tal : Tallied c.store)
    (h_aligned : Aligned c) {rest : List (Instr V)} {d : Dispatching V}
    (h_todo : c.todo t = .dispatchPayloads d :: rest) (h : (hubProgram hub).step c a = some c')
    (h_a : a = .run t ch) {scope : Scope} {connection : Connection V} {response : GraphQlResponse}
    {target : SlotTarget V} {payload : Json}
    (h_offered : Offered c.store scope connection d.conn d.frame response target payload)
    (h_waits : target.id ∈ d.payloads.map Prod.fst) :
    Fate c' connection d.conn d.frame response target payload := by
  have h_mem : .dispatchPayloads d ∈ c.todo t := by
    rw [h_todo]
    exact List.mem_cons_self
  -- the driver knows its connection, its frame and what was routed of it
  obtain ⟨-, -, rfl, r, h_route, h_suffix⟩ := driving_of_frame h_est h_routing (fun _ h_ev => h_ev)
    h_tal h_mem rfl h_offered
  have h_connection := h_aligned t _ h_mem _ rfl
  have h_exact := h_connection.demultiplexed h_route
  -- the step took the head of the payloads
  obtain rfl : c' = c.resume t rest { store := c.store, next := execPayload d } := by
    subst h_a
    exact Option.some.inj (h.symm.trans (Program.step_run h_todo rfl))
  cases h_payloads : d.payloads with
  -- the payload of the slot was still in the list
  | nil =>
    rw [h_payloads] at h_waits
    exact absurd h_waits List.not_mem_nil
  | cons p payloads =>
    obtain ⟨id, value⟩ := p
    by_cases h_id : id = target.id
    · -- its turn: it cannot be decoded, the slot has moved, or it is handed over
      subst h_id
      have h_listed : (target.id, value) ∈ r.payloads := by
        refine h_suffix.mem ?_
        rw [h_payloads]
        exact List.mem_cons_self
      obtain ⟨aliasName, target', member, h_alias, h_member, -, h_id, rfl⟩ :=
        (h_exact.payloads _ _).mp h_listed
      -- the alias is that of the slot, so the target and the payload are the offered ones
      obtain rfl : aliasName = aliasOfSlot target'.id := h_connection.aliased _ h_alias
      rw [← h_id] at h_alias h_member
      have h_target : target' = target := congrArg Prod.snd
        (List.inj_on_of_nodup_map h_connection.keys_nodup h_alias h_offered.owner rfl)
      subst h_target
      have h_payload : member = payload := congrArg Prod.snd
        (List.inj_on_of_nodup_map response.members_nodup h_member h_offered.member rfl)
      subst h_payload
      by_cases h_live : target'.id ∈ d.live
      · cases h_value : target'.decode (.object [(target'.field, member)]) with
        | none => exact .undecodable h_value
        | some result =>
          have h_owner : d.target target'.id = some target' := by
            unfold Dispatching.target
            rw [(h_connection.byId_eq_some).mpr
              ⟨List.mem_map.mpr ⟨_, h_offered.owner, rfl⟩, rfl⟩]
            exact Option.filter_eq_some_iff.mpr ⟨rfl, decide_eq_true h_live⟩
          refine .underway (.handed t d.scope target'
            { event := .data result, origin := .frame d.conn d.frame } ?_ rfl rfl rfl)
          rw [resume_todo_self]
          exact List.mem_append_left _ (execPayload_handed h_payloads h_owner h_value)
      · exact .departed d.live (h_routing.live t d h_mem) h_live
    · -- it is the turn of another payload
      obtain ⟨d', h_d', h_rest, h_driving, h_frame⟩ := execPayload_rest h_payloads
      rw [h_payloads, List.map_cons, List.mem_cons] at h_waits
      refine .underway (.routed t (.dispatchPayloads d') d' ?_ rfl
        (congrArg Driving.conn h_driving) h_frame ?_)
      · rw [resume_todo_self]
        exact List.mem_append_left _ h_d'
      · rw [h_rest]
        exact h_waits.resolve_left fun h_eq => h_id h_eq.symm

/-- **What becomes of a payload on its way**: it goes on, or gets to where its fate is
decided. -/
theorem fate_of_underway (h_est : Established c) (h_routing : Routing c)
    (h_tal : Tallied c.store) (h_aligned : Aligned c) (h_tok : Tokens c)
    (h : (hubProgram hub).step c a = some c') {scope : Scope} {connection : Connection V}
    {conn number : ℕ} {response : GraphQlResponse} {target : SlotTarget V} {payload : Json}
    (h_offered : Offered c.store scope connection conn number response target payload)
    (h_way : Underway c target.id conn number) :
    Fate c' connection conn number response target payload := by
  cases h_way with
  -- the frame is being routed, by an instruction that stays or that runs now
  | routed t i d pending routing conn_eq frame_eq waits =>
    subst conn_eq frame_eq
    rcases h_tok.keep h pending with h_stays | ⟨ch, rest, h_a, h_todo⟩
    · exact .underway (.routed t i d h_stays routing rfl rfl waits)
    · cases i with
      -- the liveness is read
      | readLive d' =>
        obtain rfl := Option.some.inj routing
        subst h_a
        obtain rfl := Option.some.inj (h.symm.trans (Program.step_run h_todo rfl))
        refine .underway (.routed t (.dispatchPayloads
          { d' with live := c.store.state.scopeIds d'.scope }) _ ?_ rfl rfl rfl waits)
        rw [resume_todo_self]
        exact List.mem_cons_self
      -- the next payload is dispatched
      | dispatchPayloads d' =>
        obtain rfl := Option.some.inj routing
        exact fate_of_turn h_est h_routing h_tal h_aligned h_todo h h_a h_offered waits
      | _ => cases routing
  -- the value stands in the list of the task that delivers it
  | handed t scope' target' item pending id_eq data origin =>
    rcases h_tok.keep h pending with h_stays | ⟨ch, rest, h_a, h_todo⟩
    · exact .underway (.handed t scope' target' item h_stays id_eq data origin)
    · obtain ⟨ch', rest', e, h_run, h_todo', he, rfl⟩ :=
        Runs.exec (i := .deliver scope' target' item) ⟨ch, rest, h_a, h_todo⟩ h
      cases execDeliver_step he with
      -- the receiver is gone
      | gone closed =>
        refine .unheard item ?_
        rw [← id_eq]
        exact List.mem_cons_self
      -- it is pushed to the queue
      | queued listens room =>
        refine .sent ⟨item, ?_, data, origin⟩
        rw [← id_eq]
        exact List.mem_cons_self
      -- the queue is full
      | dropped listens full drops shared =>
        refine .dropped item scope' (c.store.queues target'.id).length ?_ data origin
        rw [← id_eq]
        exact List.mem_cons_self

/-- A fate that is decided stays so. -/
theorem Fate.step (h_est : Established c) (h_routing : Routing c) (h_tal : Tallied c.store)
    (h_aligned : Aligned c) (h_tok : Tokens c) (h : (hubProgram hub).step c a = some c')
    {scope : Scope} {connection : Connection V} {conn number : ℕ} {response : GraphQlResponse}
    {target : SlotTarget V} {payload : Json}
    (h_offered : Offered c.store scope connection conn number response target payload)
    (h_fate : Fate c connection conn number response target payload) :
    Fate c' connection conn number response target payload := by
  cases h_fate with
  | underway way =>
    exact fate_of_underway h_est h_routing h_tal h_aligned h_tok h h_offered way
  | sent pushed =>
    obtain ⟨item, h_ev, h_rest⟩ := pushed
    exact .sent ⟨item, history_subset h h_ev, h_rest⟩
  | unroutable none => exact .unroutable none
  | overruled null error listed own => exact .overruled null error listed own
  | undecodable none => exact .undecodable none
  | departed ids live left => exact .departed ids (history_subset h live) left
  | dropped item scope waiting record data origin =>
    exact .dropped item scope waiting (history_subset h record) data origin
  | unheard item record => exact .unheard item (history_subset h record)

namespace Fated

/-- At the start no payload was offered. -/
theorem initial : Fated (initialConfig V) where
  read _ _ _ h := absurd h List.not_mem_nil
  fates _ _ _ _ _ _ _ h := absurd h.frame List.not_mem_nil

theorem step_read (h_inv : Fated c) (h_est : Established c)
    (h : (hubProgram hub).step c a = some c') :
    ∀ number conn response, .frame number conn response ∈ c'.store.history →
      ∃ scope slots connection present,
        .built conn scope slots connection present ∈ c'.store.history := by
  intro number conn response h_ev
  rcases describes_step h h_ev with h_old | ⟨t, ch, i, rest, e, -, h_todo, -, -, d, stall, rfl, -,
    rfl, -⟩ | ⟨spec, created, -, h_eq⟩
  · obtain ⟨scope, slots, connection, present, h_built⟩ := h_inv.read number conn response h_old
    exact ⟨scope, slots, connection, present, history_subset h h_built⟩
  · obtain ⟨slots, present, h_built⟩ := h_est.driven t _ (by rw [h_todo]; exact List.mem_cons_self)
      d rfl
    exact ⟨d.scope, slots, d.connection, present, history_subset h h_built⟩
  · cases h_eq

/-- **A payload that was just read** is routed to its slot, unless the frame or the payload is
no good. -/
theorem fate_of_read (h_aligned : Aligned c) {d : Driving V} {stall : Option Instant}
    {rest : List (Instr V)} (h_todo : c.todo t = .select d stall :: rest)
    {response : GraphQlResponse} (h_a : a = .run t (.next (some (.event (some response)))))
    (h : (hubProgram hub).step c a = some c') {target : SlotTarget V} {payload : Json}
    (h_owner : (aliasOfSlot target.id, target) ∈ d.connection.targets)
    (h_member : (aliasOfSlot target.id, payload) ∈ response.members) :
    Fate c' d.connection d.conn c.store.frames response target payload := by
  subst h_a
  obtain rfl := Option.some.inj (h.symm.trans (Program.step_run h_todo rfl))
  -- a document that cannot be routed ends the stream
  cases h_route : route response d.connection.targets with
  | none => exact .unroutable h_route
  | some r =>
    -- an error of the same alias overrules a null payload
    by_cases h_error : payload.isNull = true ∧ ∃ error ∈ response.errors.getD [],
        aliasOf error = some (aliasOfSlot target.id)
    · obtain ⟨h_null, error, h_listed, h_own⟩ := h_error
      exact .overruled h_null error h_listed h_own
    · -- nothing against it: the payload is routed to the slot
      have h_exact := (h_aligned t _ (by rw [h_todo]; exact List.mem_cons_self) d rfl).demultiplexed
        h_route
      have h_listed : (target.id, .object [(target.field, payload)]) ∈ r.payloads :=
        (h_exact.payloads _ _).mpr ⟨_, target, payload, h_owner, h_member,
          fun h_null error h_err h_own => h_error ⟨h_null, error, h_err, h_own⟩, rfl, rfl⟩
      refine .underway (.routed t (.readLive (d.dispatching c.store.frames r)) _ ?_ rfl rfl rfl
        (List.mem_map.mpr ⟨_, h_listed, rfl⟩))
      rw [resume_todo_self]
      refine List.mem_append_left _ ?_
      change _ ∈ (execEvent d (some response) c.store).next
      unfold execEvent
      dsimp only
      rw [h_route]
      exact List.mem_cons_self

/-- **One step** leads each payload one step on, or to its end. -/
theorem step_fates (h_inv : Fated c) (h_est : Established c) (h_routing : Routing c)
    (h_tal : Tallied c.store) (h_aligned : Aligned c) (h_tok : Tokens c)
    (h : (hubProgram hub).step c a = some c') :
    ∀ scope connection conn number response target payload,
      Offered c'.store scope connection conn number response target payload →
        Fate c' connection conn number response target payload := by
  intro scope connection conn number response target payload h_offered
  have h_tal' : Tallied c'.store := h_tal.step h
  obtain ⟨slots, present, h_built⟩ := h_offered.built
  rcases describes_step h h_offered.frame with h_old | ⟨t, ch, i, rest, e, h_a, h_todo, -, -, d,
    stall, rfl, rfl, rfl, rfl⟩ | ⟨spec, created, -, h_eq⟩
  · -- the connection that read the frame was built before
    obtain ⟨scope', slots', connection', present', h_built'⟩ :=
      h_inv.read number conn response h_old
    obtain ⟨rfl, rfl, rfl, rfl⟩ := h_tal'.built_unique h_built (history_subset h h_built')
    have h_before : Offered c.store scope connection conn number response target payload :=
      ⟨⟨slots, present, h_built'⟩, h_old, h_offered.owner, h_offered.member⟩
    exact (h_inv.fates _ _ _ _ _ _ _ h_before).step h_est h_routing h_tal h_aligned h_tok h h_before
  · obtain ⟨slots', present', h_built'⟩ := h_est.driven t _
      (by rw [h_todo]; exact List.mem_cons_self) d rfl
    obtain ⟨rfl, rfl, rfl, rfl⟩ := h_tal'.built_unique h_built (history_subset h h_built')
    exact fate_of_read h_aligned h_todo h_a h h_offered.owner h_offered.member
  · cases h_eq

/-- The invariant along a run. -/
theorem reachable {Allowed : Config V → Action Task Choice (Request V) → Prop}
    (h : (hubProgram hub).Reachable (initialConfig V) Allowed c) : Fated c := by
  induction h with
  | init => exact initial
  | step reached _ fires ih =>
    have h_est := Established.reachable reached
    exact ⟨ih.step_read h_est fires, ih.step_fates h_est (Routing.reachable reached)
      (Tallied.reachable reached) (Aligned.reachable reached) (Sound.reachable reached).tokens
      fires⟩

end Fated

/-! ### What is recorded took place -/

/-- The state occurred in a run that led to `c`. -/
structure Passed (hub : HubConfig) (c₀ c : Config V) : Prop where
  reached : (hubProgram hub).Reachable (initialConfig V) Program.anyStep c₀
  onward : (hubProgram hub).Reachable c₀ Program.anyStep c

theorem Passed.step {c₀ : Config V} (h_passed : Passed hub c₀ c)
    (h : (hubProgram hub).step c a = some c') : Passed hub c₀ c' :=
  ⟨h_passed.reached, .step h_passed.onward trivial h⟩

/-- **Occurred.** The event was recorded in the run that led to `c`: it describes a state in
which the instruction that recorded it was next, or is a registration. -/
inductive Occurred (hub : HubConfig) (c : Config V) (ev : Event V) : Prop
  | recorded (c₀ : Config V) (t : Task) (ch : Choice) (i : Instr V) (rest : List (Instr V))
      (passed : Passed hub c₀ c) (next : c₀.todo t = i :: rest) (describes : ev.describes ch i c₀)
  | registered (c₀ : Config V) (spec : SubscriptionSpec V) (passed : Passed hub c₀ c)
      (is : ev = .registered c₀.store.state.nextId spec)

theorem occurred_of_mem (h : (hubProgram hub).Reachable (initialConfig V) Program.anyStep c) :
    ∀ ev ∈ c.store.history, Occurred hub c ev := by
  induction h with
  | init => exact fun _ h_ev => absurd h_ev List.not_mem_nil
  | step reached _ fires ih =>
    intro ev h_ev
    have h_passed := (Passed.mk reached .init).step fires
    rcases describes_step fires h_ev with h_old | ⟨t, ch, i, rest, e, -, h_todo, -, -, h_says⟩ |
      ⟨spec, created, -, rfl⟩
    · cases ih ev h_old with
      | recorded c₀ t ch i rest passed next describes =>
        exact .recorded c₀ t ch i rest (passed.step fires) next describes
      | registered c₀ spec passed is => exact .registered c₀ spec (passed.step fires) is
    · exact .recorded _ t ch i rest h_passed h_todo h_says
    · exact .registered _ spec h_passed rfl

theorem Passed.history {c₀ : Config V} (h : Passed hub c₀ c) :
    ∀ ev ∈ c₀.store.history, ev ∈ c.store.history := by
  obtain ⟨-, h_onward⟩ := h
  induction h_onward with
  | init => exact fun _ h_ev => h_ev
  | step _ _ fires ih => exact fun ev h_ev => history_subset fires (ih ev h_ev)

theorem Passed.closed {c₀ : Config V} (h : Passed hub c₀ c) {id : SlotId}
    (h_closed : c₀.store.closed id = true) : c.store.closed id = true := by
  obtain ⟨-, h_onward⟩ := h
  induction h_onward with
  | init => exact h_closed
  | step _ _ fires ih =>
    by_contra h_open
    rw [closed_step fires (by simpa using h_open)] at ih
    cases ih

/-! ### Faithful delivery -/

/-- **Left out.** The frame was unroutable, the payload was null next to an error of its own,
the decoder did not take it, the slot was not on the connection when the frame was
dispatched, or its queue was full when the payload was handed over on the shared
connection. -/
inductive LeftOut (hub : HubConfig) (c : Config V) (scope : Scope) (connection : Connection V)
    (conn number : ℕ) (response : GraphQlResponse) (target : SlotTarget V) (payload : Json) : Prop
  | unroutable (none : route response connection.targets = none)
  | overruled (null : payload.isNull = true) (error : GraphQlError)
      (listed : error ∈ response.errors.getD [])
      (own : aliasOf error = some (aliasOfSlot target.id))
  | undecodable (none : target.decode (.object [(target.field, payload)]) = none)
  | departed (c₀ : Config V) (t : Task) (d : Dispatching V) (rest : List (Instr V))
      (passed : Passed hub c₀ c) (reads : c₀.todo t = .readLive d :: rest)
      (frame_eq : d.frame = number) (left : target.id ∉ c₀.store.state.scopeIds scope)
  | overflowed (c₀ : Config V) (t : Task) (item : Item V) (rest : List (Instr V))
      (passed : Passed hub c₀ c) (owner : SlotTarget V) (id_eq : owner.id = target.id)
      (hands : c₀.todo t = .deliver .shared owner item :: rest)
      (origin : item.origin = .frame conn number) (shared : scope = .shared)
      (full : slotChannelCapacity ≤ (c₀.store.queues target.id).length)

/-- The value that the frame carried is returned, or waits for the next poll. -/
def Handed (s : Store V) (id : SlotId) (conn number : ℕ) : Prop :=
  ∃ item, item.isData = true ∧ item.origin = .frame conn number ∧
    (item ∈ s.received id ∨ item ∈ s.queues id)

/-- **The fate of a payload**, told by the states of the run. -/
theorem outcome_of_fate (h : (hubProgram hub).Reachable (initialConfig V) Program.anyStep c)
    {scope : Scope} {connection : Connection V} {conn number : ℕ} {response : GraphQlResponse}
    {target : SlotTarget V} {payload : Json}
    (h_offered : Offered c.store scope connection conn number response target payload)
    (h_fate : Fate c connection conn number response target payload) :
    Underway c target.id conn number ∨ Handed c.store target.id conn number ∨
      c.store.closed target.id = true ∨
        LeftOut hub c scope connection conn number response target payload := by
  have h_tal := Tallied.reachable h
  cases h_fate with
  -- the fates that a later step may still change, then those that are final
  | underway way => exact Or.inl way
  | sent pushed =>
    refine Or.inr ?_
    by_cases h_closed : c.store.closed target.id = true
    · exact Or.inr (Or.inl h_closed)
    · -- what was pushed was returned or waits
      obtain ⟨item, h_ev, h_data, h_origin⟩ := pushed
      have h_pushed := mem_pushed.mpr h_ev
      rw [Fifo.reachable h target.id (by simpa using h_closed)] at h_pushed
      exact Or.inl ⟨item, h_data, h_origin, List.mem_append.mp h_pushed⟩
  | unroutable none => exact Or.inr (Or.inr (Or.inr (.unroutable none)))
  | overruled null error listed own =>
    exact Or.inr (Or.inr (Or.inr (.overruled null error listed own)))
  | undecodable none => exact Or.inr (Or.inr (Or.inr (.undecodable none)))
  | departed ids live left =>
    cases occurred_of_mem h _ live with
    -- the liveness was read at a step of the run, for the same frame
    | registered c₀ spec passed is => cases is
    | recorded c₀ t ch i rest passed next describes =>
      obtain ⟨d, rfl, rfl, rfl⟩ := describes
      obtain ⟨-, rfl, -⟩ := driving_of_frame (Established.reachable passed.reached)
        (Routing.reachable passed.reached) passed.history h_tal
        (by rw [next]; exact List.mem_cons_self) rfl h_offered
      exact Or.inr (Or.inr (Or.inr (.departed c₀ t d rest passed next rfl left)))
  | dropped item scope' waiting record data origin =>
    cases occurred_of_mem h _ record with
    -- so was the queue found full
    | registered c₀ spec passed is => cases is
    | recorded c₀ t ch i rest passed next describes =>
      obtain ⟨h_hands, ⟨owner, rfl⟩, rfl, -, rfl, h_full⟩ := describes
      have h_mem : .deliver .shared owner item ∈ c₀.todo t := by
        rw [next]
        exact List.mem_cons_self
      have h_id : owner.id = target.id := by
        simp only [Instr.hands, Option.ite_none_right_eq_some] at h_hands
        exact h_hands.1
      -- the frame that is dispatched behind it tells the scope
      obtain ⟨d, h_d, h_frame, -⟩ := (Stepwise.reachable passed.reached).followed t _ h_mem
        target.id item h_hands data
      obtain ⟨rfl, rfl⟩ := Origin.frame.inj (origin.symm.trans h_frame)
      have h_owned := (Sound.reachable passed.reached).owned t
      have h_scope : some Scope.shared = some d.scope :=
        (h_owned _ h_mem).symm.trans (h_owned _ h_d)
      obtain ⟨-, rfl, -⟩ := driving_of_frame (Established.reachable passed.reached)
        (Routing.reachable passed.reached) passed.history h_tal h_d rfl h_offered
      exact Or.inr (Or.inr (Or.inr (.overflowed c₀ t item rest passed owner h_id next origin
        (Option.some.inj h_scope).symm h_full)))
  | unheard item record =>
    cases occurred_of_mem h _ record with
    -- and the receiver found gone
    | registered c₀ spec passed is => cases is
    | recorded c₀ t ch i rest passed next describes =>
      exact Or.inr (Or.inr (Or.inl (passed.closed describes.2)))

/-- Values in the order of their frames come from distinct frames. -/
theorem nodup_origins {items : List (Item V)} {id : SlotId}
    (h_genuine : ∀ item ∈ items, item.GenuineFor c.store id)
    (h_ascending : items.Pairwise Item.Precedes) :
    ((items.filter Item.isData).map Item.origin).Nodup := by
  refine List.pairwise_map.mpr ?_
  refine (h_ascending.sublist List.filter_sublist).imp_of_mem fun {item item'} h_item h_item'
    h_precedes h_eq => ?_
  obtain ⟨h_mem, h_data⟩ := List.mem_filter.mp h_item
  obtain ⟨-, h_data'⟩ := List.mem_filter.mp h_item'
  cases h_event : item.event with
  | error error =>
    unfold Item.isData at h_data
    rw [h_event] at h_data
    cases h_data
  | data value =>
    obtain ⟨conn, number, h_origin, -⟩ := h_genuine item h_mem value h_event
    exact Nat.lt_irrefl _ (h_precedes h_data h_data' conn number number h_origin
      (h_eq ▸ h_origin))

/-- **Faithful delivery**, in every run of a hub.

* Every value that a stream returned is genuine: it was carried by a frame of a connection
  that was built while the slot was registered, under the alias of the slot, and the slot's
  own decoder made it of that payload.
* The values of one connection are returned in the order of its frames, and no two values
  of a stream come from the same frame.
* A payload under the alias of a slot of the connection that read it is on its way, or
  returned, or waits in the queue, unless it was left out or the stream dropped its receiver.
* Connections, frames and slots have one number each, and what is recorded about them took
  place in the run. -/
theorem faithful_delivery (h : (hubProgram hub).Reachable (initialConfig V) Program.anyStep c) :
    (∀ id, ∀ item ∈ c.store.received id, ∀ value, item.event = .data value →
      ∃ conn number, item.origin = .frame conn number ∧ Genuine c.store id conn number value) ∧
    (∀ id, (c.store.received id).Pairwise Item.Precedes ∧
      (((c.store.received id).filter Item.isData).map Item.origin).Nodup) ∧
    (∀ scope connection conn number response target payload,
      Offered c.store scope connection conn number response target payload →
        Underway c target.id conn number ∨ Handed c.store target.id conn number ∨
          c.store.closed target.id = true ∨
            LeftOut hub c scope connection conn number response target payload) ∧
    Tallied c.store ∧
    (∀ id spec spec', .registered id spec ∈ c.store.history →
      .registered id spec' ∈ c.store.history → spec = spec') ∧
    ∀ ev ∈ c.store.history, Occurred hub c ev := by
  have h_returned := (Returning.reachable h).returned
  have h_genuine : ∀ id, ∀ item ∈ c.store.received id, item.GenuineFor c.store id :=
    fun id item h_item => (Carrying.reachable h).queued id item
      (mem_pushed.mp ((h_returned id).subset h_item))
  have h_ascending : ∀ id, (c.store.received id).Pairwise Item.Precedes :=
    fun id => (Ascending.reachable h id).sublist (h_returned id).sublist
  refine ⟨h_genuine, fun id => ⟨h_ascending id, nodup_origins (h_genuine id) (h_ascending id)⟩,
    ?_, Tallied.reachable h, (Enlisted.reachable h).once, occurred_of_mem h⟩
  intro scope connection conn number response target payload h_offered
  exact outcome_of_fate h h_offered ((Fated.reachable h).fates _ _ _ _ _ _ _ h_offered)

/-! ### A payload that nobody waits for any more -/

/-- A slot that is in a scope has been there since it was registered. -/
theorem Passed.scopeIds {c₀ : Config V} (h : Passed hub c₀ c) {id : SlotId} {scope : Scope}
    (h_id : id < c₀.store.state.nextId) (h_scope : id ∈ c.store.state.scopeIds scope) :
    id ∈ c₀.store.state.scopeIds scope := by
  obtain ⟨h_reached, h_onward⟩ := h
  induction h_onward with
  | init => exact h_scope
  | @step c₁ c' a onward _ fires ih =>
    obtain ⟨-, e', h_e', h_belongs⟩ := c'.store.state.mem_scopeIds.mp h_scope
    have h_num := (Sound.reachable (h_reached.trans onward)).numbered
    have h_next : c₀.store.state.nextId ≤ c₁.store.state.nextId :=
      onward.induct (motive := fun c₁ => c₀.store.state.nextId ≤ c₁.store.state.nextId)
        (Nat.le_refl _) fun _ h_le _ h_step => Nat.le_trans h_le (nextId_le_step h_step)
    rcases slot_origin fires h_e' with ⟨e, h_e⟩ | ⟨spec, created, -, h_new, -⟩
    · exact ih (c₁.store.state.mem_scopeIds.mpr
        ⟨h_num id e h_e, e, h_e, belongsTo_step h_num fires h_e h_e' h_belongs⟩)
    · exact absurd (h_new ▸ lt_of_lt_of_le h_id h_next) (Nat.lt_irrefl _)

/-- What waits in a queue was pushed. -/
theorem Passed.queue_nil {c₀ : Config V} (h : Passed hub c₀ c) {id : SlotId}
    (h_none : c.store.pushed id = []) : c₀.store.queues id = [] := by
  by_cases h_closed : c₀.store.closed id = true
  · exact (Returning.reachable h.reached).closed id h_closed
  · have h_pushed := pushed_prefix h.onward id
    rw [h_none, List.prefix_nil, Fifo.reachable h.reached id (by simpa using h_closed)] at h_pushed
    exact (List.append_eq_nil_iff.mp h_pushed).2

/-- A slot of a connection was registered before any frame of it was read. -/
theorem Offered.known (h : (hubProgram hub).Reachable (initialConfig V) Program.anyStep c)
    {s : Store V} (h_sub : ∀ ev ∈ c.store.history, ev ∈ s.history) (h_tal : Tallied s)
    (hi : i ∈ c.todo t) {d : Dispatching V} (h_i : i.routing = some d) {scope : Scope}
    {connection : Connection V} {conn : ℕ} {response : GraphQlResponse} {target : SlotTarget V}
    {payload : Json}
    (h_offered : Offered s scope connection conn d.frame response target payload) :
    target.id < c.store.state.nextId := by
  have h_est := Established.reachable h
  have h_enl := Enlisted.reachable h
  obtain ⟨-, -, rfl, -⟩ := driving_of_frame h_est (Routing.reachable h) h_sub h_tal hi h_i h_offered
  obtain ⟨slots, present, h_built⟩ := h_est.driven t i hi _ (driving_of_routing h_i)
  obtain ⟨q, hq, h_own⟩ := buildConnection_owners (h_est.assembled _ _ _ _ _ h_built).1
    h_offered.owner
  obtain ⟨own, h_own', -⟩ := h_enl.documents _ _ _ _ _ h_built q hq
  rw [h_own.id_eq]
  exact h_enl.handedOut _ own h_own'

/-- The theorem at a stream that returned the first payload. -/
theorem faithful_delivery_received : ∃ (c : Config ℕ) (item : Item ℕ),
    (hubProgram sampleHub).Reachable (initialConfig ℕ) Program.anyStep c ∧
      c.store.received 0 = [item] ∧ item.event = .data 7 ∧
      ∃ conn number, item.origin = .frame conn number ∧ Genuine c.store 0 conn number 7 := by
  have h_run : ∃ (c : Config ℕ) (item : Item ℕ),
      (hubProgram sampleHub).run (initialConfig ℕ) (registering 0 5 ++ opening ++
        [.run firstSupervisor (.next (some (.event (some (sampleFrame 7)))))] ++
        List.replicate 3 (.run firstSupervisor .proceed) ++
        [.request (.poll 0), .run (.consumer 0) .proceed]) = some c ∧
      c.store.received 0 = [item] ∧ item.event = .data 7 := ⟨_, _, rfl, rfl, rfl⟩
  obtain ⟨c, item, h_run, h_received, h_value⟩ := h_run
  have h_reach := Program.Reachable.run .init h_run
  refine ⟨c, item, h_reach, h_received, h_value, ?_⟩
  have h_item : item ∈ c.store.received 0 := by
    rw [h_received]
    exact List.mem_cons_self
  exact (faithful_delivery h_reach).1 0 item h_item 7 h_value

/-- **A payload can be lost without a reason of its own**: the frame is routed, the payload
decodes, its slot is on the connection and nothing waits in the queue. But the stream is being
dropped: its receiver is gone, and the slot is not deregistered yet. -/
theorem payload_lost_to_dropped_receiver : ∃ (c : Config ℕ) (scope : Scope)
    (connection : Connection ℕ) (conn number : ℕ) (response : GraphQlResponse)
    (target : SlotTarget ℕ) (payload : Json),
    (hubProgram sampleHub).Reachable (initialConfig ℕ) Program.anyStep c ∧
    Offered c.store scope connection conn number response target payload ∧
    target.id ∈ c.store.state.scopeIds scope ∧
    ¬ Underway c target.id conn number ∧ ¬ Handed c.store target.id conn number ∧
    ¬ LeftOut sampleHub c scope connection conn number response target payload := by
  -- a frame arrives, its payload is taken, and the consumer drops the stream before the delivery
  have h_run : ∃ (c : Config ℕ) (slots : Snapshot ℕ) (connection : Connection ℕ)
      (present : List SlotId) (r : Routed) (target : SlotTarget ℕ),
      (hubProgram sampleHub).runWithin sampleTasks (fun _ _ => true) (initialConfig ℕ)
        (registering 0 5 ++ opening ++
        [.run firstSupervisor (.next (some (.event (some (sampleFrame 7)))))] ++
        List.replicate 2 (.run firstSupervisor .proceed) ++
        [.request (.drop 0), .run (.consumer 0) .proceed, .run firstSupervisor .proceed]) = some c ∧
      c.store.history = [
        .undelivered 0 { event := .data 7, origin := .frame 0 0 }, .live 0 [0],
        .frame 0 0 (sampleFrame 7), .built 0 .shared slots connection present,
        .snapshot firstSupervisor [0], .registered 0 sampleSpec] ∧
      connection.targets = [(aliasOfSlot target.id, target)] ∧ target.id = 0 ∧
      route (sampleFrame 7) connection.targets = some r ∧
      target.decode (.object [(target.field, .number 7 0)]) = some 7 ∧
      c.store.state.scopeIds .shared = [0] ∧ c.store.queues 0 = [] ∧
      sampleTasks.all (fun t => (c.todo t).all fun i =>
        i.routing.all (fun d => d.payloads.isEmpty) && decide (i.point ≠ .deliver)) = true :=
    ⟨_, _, _, _, _, { id := 0, field := "readiness".toList, decode := sampleSpec.decode },
      rfl, rfl, rfl, rfl, rfl, rfl, rfl, rfl, rfl⟩
  obtain ⟨c, slots, connection, present, r, target, h_run, h_history, h_targets, h_id, h_route,
    h_value, h_shared, h_queue, h_idle⟩ := h_run
  obtain ⟨h_reach, h_within⟩ := Program.Reachable.runWithin (fun _ _ _ _ => trivial)
    (.init : (hubProgram sampleHub).Reachable (initialConfig ℕ) Program.anyStep _)
    (fun _ _ => rfl) h_run
  have h_offered : Offered c.store .shared connection 0 0 (sampleFrame 7) target (.number 7 0) := by
    refine ⟨⟨slots, present, ?_⟩, ?_, ?_, ?_⟩
    · rw [h_history]
      simp
    · rw [h_history]
      simp
    · rw [h_targets]
      exact List.mem_cons_self
    · rw [h_id]
      exact List.mem_cons_self
  have h_live : target.id ∈ c.store.state.scopeIds .shared := by
    rw [h_shared, h_id]
    exact List.mem_cons_self
  have h_pushed : c.store.pushed target.id = [] := by
    unfold Store.pushed
    rw [h_history]
    rfl
  -- at the end nothing of the frame is under way any more
  have h_pending : ∀ t, ∀ i ∈ c.todo t,
      (i.routing.all fun d => d.payloads.isEmpty) = true ∧ i.point ≠ .deliver := by
    intro t i hi
    by_cases h_t : t ∈ sampleTasks
    · obtain ⟨h_routing, h_point⟩ := Bool.and_eq_true_iff.mp
        (List.all_eq_true.mp (List.all_eq_true.mp h_idle t h_t) i hi)
      exact ⟨h_routing, of_decide_eq_true h_point⟩
    · rw [h_within t h_t] at hi
      exact absurd hi List.not_mem_nil
  refine ⟨c, .shared, connection, 0, 0, sampleFrame 7, target, .number 7 0, h_reach, h_offered,
    h_live, ?_, ?_, ?_⟩
  · intro h_way
    -- it is not on its way
    cases h_way with
    | routed t i d pending routing conn_eq frame_eq waits =>
      have h_empty := (h_pending t i pending).1
      rw [routing, Option.all_some, List.isEmpty_iff] at h_empty
      rw [h_empty] at waits
      exact absurd waits List.not_mem_nil
    | handed t scope owner item pending id_eq data origin => exact (h_pending t _ pending).2 rfl
  · rintro ⟨item, -, -, h_mem⟩
    -- it was neither returned
    rcases h_mem with h_mem | h_mem
    · have h_received := (Returning.reachable h_reach).returned target.id
      rw [h_pushed, List.prefix_nil] at h_received
      rw [h_received] at h_mem
      exact absurd h_mem List.not_mem_nil
    · -- nor does it wait
      rw [h_id, h_queue] at h_mem
      exact absurd h_mem List.not_mem_nil
  · intro h_left
    -- and none of the other fates explains it
    cases h_left with
    | unroutable none =>
      rw [h_route] at none
      cases none
    | overruled null error listed own => cases null
    | undecodable none =>
      rw [h_value] at none
      cases none
    | departed c₀ t d rest passed reads frame_eq left =>
      -- the slot was on the connection all along
      have h_known := Offered.known passed.reached passed.history (Tallied.reachable h_reach)
        (by rw [reads]; exact List.mem_cons_self) rfl (frame_eq ▸ h_offered)
      exact left (passed.scopeIds h_known h_live)
    | overflowed c₀ t item rest passed owner id_eq hands origin shared full =>
      rw [passed.queue_nil h_pushed] at full
      exact absurd full (by decide)

end Blokli
