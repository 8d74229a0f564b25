import BlokliClient.Hub.Delivery
import BlokliClient.Hub.Dispatch
import BlokliClient.Hub.Locals

/-!
# How a queue fills up and is drained

The schedules in which a slow consumer loses events are long: a queue holds
`slotChannelCapacity` items. This module builds them from their parts, for any
connection and any slot of it, by what each part advances and what it leaves
alone.

* `Advances`: one task ran, the other tasks are where they were, and of the
  store only queues, health, counters and the history changed, and the documents
  that delivered entries continue (`Aside`).
* `Conveys`: meanwhile these items were pushed to the queue of a slot, or dropped.
* `fill`: a supervisor that waits on its connection and is sent one frame after
  the other fills the queue, as far as there is room.
* `drain`: a consumer that polls takes everything out, and is then about to look
  at the lag flag.
-/

namespace Blokli

open Worklist

variable {V : Type} {hub : HubConfig} {t : Task} {ch : Choice} {i : Instr V} {c c' : Config V}
  {e : Effect V} {Allowed : Config V → Action Task Choice (Request V) → Prop}

/-! ### What delivery leaves alone -/

/-- What the delivery of events leaves alone of an entry. -/
structure SlotStance (V : Type) where
  decode : Json → Option V
  resume : Option (V → Option ResumedQuery)
  isolated : Option Isolation
  resync : Bool

def SlotEntry.stance (e : SlotEntry V) : SlotStance V :=
  ⟨e.spec.decode, e.spec.resume, e.isolated, e.resync⟩

/-- Two stores that differ in queues, health, documents, counters and the history. -/
structure Aside (s s' : Store V) : Prop where
  nextId : s'.state.nextId = s.state.nextId
  supervisor : s'.state.supervisor = s.state.supervisor
  reqwestClient : s'.state.reqwestClient = s.state.reqwestClient
  slots : ∀ id, (s'.state.slots id).map SlotEntry.stance = (s.state.slots id).map SlotEntry.stance
  version : s'.version = s.version
  receivers : s'.receivers = s.receivers
  alive : s'.alive = s.alive
  serial : s'.serial = s.serial
  lagging : s'.lagging = s.lagging
  closed : s'.closed = s.closed
  streaming : s'.streaming = s.streaming
  clock : s'.clock = s.clock

namespace Aside

variable {s s' s'' : Store V}

/-- Nothing happened. -/
theorem refl (s : Store V) : Aside s s :=
  ⟨rfl, rfl, rfl, fun _ => rfl, rfl, rfl, rfl, rfl, rfl, rfl, rfl, rfl⟩

/-- One segment after another. -/
theorem trans (h : Aside s s') (h' : Aside s' s'') : Aside s s'' where
  nextId := h'.nextId.trans h.nextId
  supervisor := h'.supervisor.trans h.supervisor
  reqwestClient := h'.reqwestClient.trans h.reqwestClient
  slots id := (h'.slots id).trans (h.slots id)
  version := h'.version.trans h.version
  receivers := h'.receivers.trans h.receivers
  alive := h'.alive.trans h.alive
  serial := h'.serial.trans h.serial
  lagging := h'.lagging.trans h.lagging
  closed := h'.closed.trans h.closed
  streaming := h'.streaming.trans h.streaming
  clock := h'.clock.trans h.clock

/-- A quiet instruction leaves all of this aside. -/
theorem of_quiet (h : Quiet s s') : Aside s s' where
  nextId := h.slots.nextId
  supervisor := h.slots.supervisor
  reqwestClient := h.slots.reqwestClient
  slots id := by
    have h_core := h.slots.core id
    have h_map : ∀ o : Option (SlotEntry V), o.map SlotEntry.stance =
        (o.map SlotEntry.core).map fun k => ⟨k.spec.decode, k.spec.resume, k.isolated, k.resync⟩ :=
      fun o => (Option.map_map ..).symm ▸ rfl
    rw [h_map, h_map, h_core]
  version := h.version
  receivers := h.receivers
  alive := h.alive
  serial := h.serial
  lagging := h.lagging
  closed := h.closed
  streaming := h.streaming
  clock := h.clock

/-- Each entry keeps its stance. -/
theorem slot (h : Aside s s') {id : SlotId} {e : SlotEntry V} (h_e : s.state.slots id = some e) :
    ∃ e', s'.state.slots id = some e' ∧ e'.stance = e.stance := by
  have h_id := h.slots id
  rw [h_e] at h_id
  exact Option.map_eq_some_iff.mp h_id

/-- The slots of each connection are the same. -/
theorem scopeIds (h : Aside s s') (scope : Scope) :
    s'.state.scopeIds scope = s.state.scopeIds scope := by
  refine scopeIds_congr h.nextId (fun id => ?_) scope
  have h_map : ∀ o : Option (SlotEntry V), o.map (fun e => e.isolated.isNone) =
      (o.map SlotEntry.stance).map fun k => k.isolated.isNone :=
    fun o => (Option.map_map ..).symm ▸ rfl
  rw [h_map, h_map, h.slots id]

/-- So are the registered slots. -/
theorem ids (h : Aside s s') : s'.state.ids = s.state.ids := by
  unfold HubState.ids
  rw [h.nextId]
  refine List.filter_congr fun id _ => ?_
  have h_isSome := congrArg Option.isSome (h.slots id)
  rwa [Option.isSome_map, Option.isSome_map] at h_isSome

end Aside

/-! ### One task at work -/

/-- The instructions that deliver events and take them out again. -/
def Point.isTraffic : Point → Bool
  | .select | .stallWakeup | .readLive | .dispatchPayloads | .dispatchErrors | .dispatchDocument
  | .withHealth | .deliver | .receive | .resumeAfter | .checkDrained => true
  | _ => false

/-- Delivery and requests are not restricted. -/
structure Lenient (Allowed : Config V → Action Task Choice (Request V) → Prop) : Prop where
  runs : ∀ {c t i rest}, c.todo t = i :: rest → i.point.isTraffic = true →
    ∀ ch, Allowed c (.run t ch)
  request : ∀ c r, Allowed c (.request r)

/-- A restriction on instructions outside the traffic is lenient. -/
theorem Lenient.of_points (points : List Point) (h_points : ∀ p ∈ points, p.isTraffic = false)
    (h : ∀ c a, (∀ t i, Runs c a t i → i.point ∉ points) → Allowed c a) : Lenient Allowed where
  runs := fun {c t i rest} h_todo h_i ch => h c _ fun t' j h_runs h_mem => by
    obtain ⟨rfl, rfl⟩ := Runs.unique ⟨ch, rest, rfl, h_todo⟩ h_runs
    exact Bool.false_ne_true ((h_points _ h_mem).symm.trans h_i)
  request := fun c r => h c _ fun t i h_runs => by
    obtain ⟨ch, rest, h_eq, -⟩ := h_runs
    cases h_eq

/-- Traffic does not look at the watch channel, unless a wait for the next event
is resolved so. -/
theorem traffic_seen (he : exec hub t ch i c = some e) (h_i : i.point.isTraffic = true)
    (h_ch : ch ≠ .changed) (t' : Task) :
    (e.store.locals t').seen = (c.store.locals t').seen := by
  rcases exec_locals_seen he t' with h_same | ⟨-, ⟨-, h_changed, -⟩ | ⟨token, rfl, -⟩⟩
  · exact h_same
  · exact absurd h_changed h_ch
  · -- no supervisor starts in the traffic
    cases h_i

/-- Task `t` ran for a while. -/
structure Advances (hub : HubConfig) (Allowed : Config V → Action Task Choice (Request V) → Prop)
    (t : Task) (c c' : Config V) : Prop where
  reach : (hubProgram hub).Reachable c Allowed c'
  others : ∀ t', t' ≠ t → c'.todo t' = c.todo t'
  aside : Aside c.store c'.store
  seen : ∀ t', (c'.store.locals t').seen = (c.store.locals t').seen
  history : ∃ new, c'.store.history = new ++ c.store.history ∧
    ∀ ev ∈ new, ∃ p : Point, p.isTraffic = true ∧ p ∈ ev.sources

namespace Advances

/-- No step. -/
theorem refl (t : Task) (c : Config V) : Advances hub Allowed t c c :=
  ⟨.init, fun _ _ => rfl, Aside.refl _, fun _ => rfl, [], rfl,
    fun _ h => absurd h List.not_mem_nil⟩

/-- One segment after another. -/
theorem trans {c'' : Config V} (h : Advances hub Allowed t c c')
    (h' : Advances hub Allowed t c' c'') : Advances hub Allowed t c c'' := by
  obtain ⟨new, h_new, h_traffic⟩ := h.history
  obtain ⟨new', h_new', h_traffic'⟩ := h'.history
  refine ⟨h.reach.trans h'.reach, fun t' h_t => (h'.others t' h_t).trans (h.others t' h_t),
    h.aside.trans h'.aside, fun t' => (h'.seen t').trans (h.seen t'), new' ++ new,
    by rw [h_new', h_new, List.append_assoc], fun ev h_ev => ?_⟩
  rcases List.mem_append.mp h_ev with h_ev | h_ev
  · exact h_traffic' ev h_ev
  · exact h_traffic ev h_ev

/-- One instruction of the traffic. -/
theorem exec (hub : HubConfig) (h_len : Lenient Allowed) (ch : Choice) (h_ch : ch ≠ .changed)
    {rest : List (Instr V)} (h_todo : c.todo t = i :: rest)
    (he : Blokli.exec hub t ch i c = some e) (h_i : i.point.isTraffic = true)
    (h_aside : Aside c.store e.store) :
    Advances hub Allowed t c (c.resume t rest e) := by
  have h_sp : e.spawned = none := by
    cases h_sp : e.spawned with
    | none => rfl
    | some p =>
      obtain ⟨token, rfl, -⟩ := exec_spawned he h_sp
      cases h_i
  obtain ⟨new, h_new, h_sources⟩ := exec_history he
  exact ⟨.exec ch h_todo he (h_len.runs h_todo h_i ch),
    fun t' h_t => resume_todo_of_ne c t rest e h_t h_sp, h_aside, traffic_seen he h_i h_ch, new,
    h_new, fun ev h_ev => ⟨i.point, h_i, h_sources ev h_ev⟩⟩

/-- One quiet instruction of the traffic. -/
theorem quiet (hub : HubConfig) (h_len : Lenient Allowed) (ch : Choice) (h_ch : ch ≠ .changed)
    {rest : List (Instr V)} (h_todo : c.todo t = i :: rest)
    (he : Blokli.exec hub t ch i c = some e) (h_i : i.point.isTraffic = true)
    (h_quiet : i.loud = false) :
    ∃ c', Advances hub Allowed t c c' ∧ c'.todo t = e.next ++ rest ∧ c'.store = e.store ∧
      c'.store.queues = c.store.queues := by
  have h_q := exec_quiet he h_quiet
  exact ⟨c.resume t rest e, exec hub h_len ch h_ch h_todo he h_i (.of_quiet h_q),
    resume_todo_self .., rfl, h_q.queues⟩

end Advances

/-- Task `t` ran for a while, with these pushes and drops at the queue of slot `id`. -/
structure Conveys (hub : HubConfig) (Allowed : Config V → Action Task Choice (Request V) → Prop)
    (t : Task) (id : SlotId) (events : List (Event V)) (c c' : Config V) : Prop
    extends Advances hub Allowed t c c' where
  traffic : c'.store.traffic id = c.store.traffic id ++ events

namespace Conveys

/-- No step conveys nothing. -/
theorem refl (t : Task) (id : SlotId) (c : Config V) : Conveys hub Allowed t id [] c c :=
  ⟨.refl t c, (List.append_nil _).symm⟩

/-- What two segments convey, one after the other. -/
theorem trans {c'' : Config V} {id : SlotId} {events events' : List (Event V)}
    (h : Conveys hub Allowed t id events c c') (h' : Conveys hub Allowed t id events' c' c'') :
    Conveys hub Allowed t id (events ++ events') c c'' :=
  ⟨h.toAdvances.trans h'.toAdvances, by rw [h'.traffic, h.traffic, List.append_assoc]⟩

/-- One quiet instruction of the traffic. -/
theorem quiet (hub : HubConfig) (h_len : Lenient Allowed) (id : SlotId) (ch : Choice)
    (h_ch : ch ≠ .changed) {rest : List (Instr V)} (h_todo : c.todo t = i :: rest)
    (he : Blokli.exec hub t ch i c = some e) (h_i : i.point.isTraffic = true)
    (h_quiet : i.loud = false) :
    ∃ c', Conveys hub Allowed t id [] c c' ∧ c'.todo t = e.next ++ rest ∧ c'.store = e.store ∧
      c'.store.queues = c.store.queues := by
  obtain ⟨c', h_adv, h_todo', h_store, h_queues⟩ :=
    Advances.quiet hub h_len ch h_ch h_todo he h_i h_quiet
  obtain ⟨new, h_new, h_sources⟩ := exec_history he
  have h_point : i.point ∉ [Point.trySend, .deliver] := by
    intro h_mem
    cases i <;> first
      | (cases h_quiet; done)
      | exact Point.not_mem rfl h_mem
  have h_traffic : c'.store.traffic id = c.store.traffic id :=
    traffic_of_others new (h_store ▸ h_new) fun ev h_ev => ⟨i.point, h_sources ev h_ev, h_point⟩
  exact ⟨c', ⟨h_adv, h_traffic.trans (List.append_nil _).symm⟩, h_todo', h_store, h_queues⟩

end Conveys

/-! ### A frame with one payload -/

/-- A frame that carries one payload, which `target` decodes to `value`. -/
def Carries (d : Driving V) (target : SlotTarget V) (response : GraphQlResponse) (value : V) :
    Prop :=
  ∃ payload, route response d.connection.targets =
      some { payloads := [(target.id, payload)], slotErrors := [], documentErrors := [] } ∧
    d.connection.byId target.id = some target ∧ target.decode payload = some value

/-- Everything the frame carries was handed over. -/
structure Spent (d : Driving V) (d' : Dispatching V) : Prop where
  same : d'.toDriving = d
  payloads : d'.payloads = []
  slotErrors : d'.slotErrors = []
  documentErrors : d'.documentErrors = []
  malformed : d'.malformed = false
  rejected : d'.rejected = false

variable {d : Driving V} {d' : Dispatching V} {target : SlotTarget V} {value : V}
  {response : GraphQlResponse} {stall : Option Instant} {rest : List (Instr V)}

/-- The supervisor reads the frame, up to the delivery of the payload. -/
theorem receive_frame (hub : HubConfig) (h_len : Lenient Allowed)
    (h_todo : c.todo t = .select d stall :: rest)
    (h_carries : Carries d target response value)
    (h_live : target.id ∈ c.store.state.scopeIds d.scope) :
    ∃ c' d', Conveys hub Allowed t target.id [] c c' ∧
      c'.store.queues = c.store.queues ∧ Spent d d' ∧
      c'.todo t = .deliver d.scope target
        { event := .data value, origin := .frame d.conn c.store.frames } ::
          .dispatchPayloads d' :: rest := by
  obtain ⟨payload, h_route, h_target, h_decode⟩ := h_carries
  let r : Routed :=
    { payloads := [(target.id, payload)], slotErrors := [], documentErrors := [] }
  let start := d.dispatching c.store.frames r
  let listed : Dispatching V := { start with live := c.store.state.scopeIds d.scope }
  -- `select`, and the routing of the frame
  have h_select : execEvent d (some response) c.store =
      { store := { c.store with frames := c.store.frames + 1 }.log
          (.frame c.store.frames d.conn response)
        next := [.readLive start] } := by
    simp only [execEvent, h_route]
    rfl
  obtain ⟨c₁, h₁, h_todo₁, h_store₁, h_queues₁⟩ :=
    Conveys.quiet hub h_len target.id (.next (some (.event (some response))))
      Choice.noConfusion h_todo (congrArg some h_select) rfl rfl
  -- `scope_ids`
  obtain ⟨c₂, h₂, h_todo₂, -, h_queues₂⟩ :=
    Conveys.quiet hub h_len target.id .proceed Choice.noConfusion h_todo₁ rfl rfl rfl
  have h_ids : c₁.store.state.scopeIds d.scope = c.store.state.scopeIds d.scope :=
    h₁.aside.scopeIds d.scope
  have h_todo₂' : c₂.todo t = .dispatchPayloads listed :: rest := by
    rw [h_todo₂]
    change Instr.dispatchPayloads { start with live := c₁.store.state.scopeIds d.scope } :: rest = _
    rw [h_ids]
  -- the turn of the loop that decodes the payload
  obtain ⟨c₃, h₃, h_todo₃, -, h_queues₃⟩ :=
    Conveys.quiet hub h_len target.id .proceed Choice.noConfusion h_todo₂' rfl rfl rfl
  have h_owner : listed.target target.id = some target := by
    change (d.connection.byId target.id).filter _ = _
    rw [h_target, Option.filter_some, if_pos (decide_eq_true h_live)]
  refine ⟨c₃, { listed with payloads := [], decodedAny := true }, (h₁.trans h₂).trans h₃,
    h_queues₃.trans (h_queues₂.trans h_queues₁), ⟨rfl, rfl, rfl, rfl, rfl, rfl⟩, ?_⟩
  have h_payload : execPayload listed =
      [.deliver d.scope target
          { event := .data value, origin := .frame d.conn c.store.frames },
        .dispatchPayloads { listed with payloads := [], decodedAny := true }] := by
    exact execPayload_decoded rfl h_owner h_decode
  rw [h_todo₃]
  exact congrArg (· ++ rest) h_payload

/-- The supervisor is done with the frame and waits for the next event. -/
theorem finish_frame (hub : HubConfig) (h_len : Lenient Allowed) (id : SlotId)
    (h_todo : c.todo t = .dispatchPayloads d' :: rest)
    (h_spent : Spent d d') :
    ∃ c' stall', Conveys hub Allowed t id [] c c' ∧ c'.store.queues = c.store.queues ∧
      c'.todo t = .select d stall' :: rest := by
  -- no payload and no error is left: nothing happens but the activity of the connection
  obtain ⟨c₁, h₁, h_todo₁, -, h_queues₁⟩ :=
    Conveys.quiet hub h_len id .proceed Choice.noConfusion h_todo rfl rfl rfl
  have h_todo₁' : c₁.todo t = .dispatchErrors d' :: rest := by
    rw [h_todo₁]
    change execPayload d' ++ rest = _
    rw [execPayload_nil h_spent.payloads]
    rfl
  -- no slot has errors to hear of
  obtain ⟨c₂, h₂, h_todo₂, -, h_queues₂⟩ :=
    Conveys.quiet hub h_len id .proceed Choice.noConfusion h_todo₁' rfl rfl rfl
  have h_todo₂' : c₂.todo t =
      .withHealth d'.scope d'.alive .transportActivity :: .dispatchDocument d' :: rest := by
    rw [h_todo₂]
    change execSlotError d' ++ rest = _
    unfold execSlotError
    rw [h_spent.slotErrors, h_spent.documentErrors, List.isEmpty_nil, Bool.or_true]
    rfl
  -- then the document, which has none either
  obtain ⟨c₃, h₃, h_todo₃, -, h_queues₃⟩ :=
    Conveys.quiet hub h_len id .proceed Choice.noConfusion h_todo₂' rfl rfl rfl
  obtain ⟨c₄, h₄, h_todo₄, -, h_queues₄⟩ :=
    Conveys.quiet hub h_len id .proceed Choice.noConfusion h_todo₃ rfl rfl rfl
  have h_todo₄' : c₄.todo t = .stallWakeup d :: rest := by
    rw [h_todo₄]
    have h_next : (execDocument hub t d' c₃.store).next = [.stallWakeup d'.toDriving] := by
      unfold execDocument
      dsimp only
      rw [h_spent.documentErrors, h_spent.malformed, h_spent.rejected]
      rfl
    rw [h_next, h_spent.same]
    rfl
  obtain ⟨c₅, h₅, h_todo₅, -, h_queues₅⟩ :=
    -- the next wait is armed again
    Conveys.quiet hub h_len id .proceed Choice.noConfusion h_todo₄' rfl rfl rfl
  exact ⟨c₅, _, (((h₁.trans h₂).trans h₃).trans h₄).trans h₅,
    h_queues₅.trans (h_queues₄.trans (h_queues₃.trans (h_queues₂.trans h_queues₁))), h_todo₅⟩

/-! ### Deliveries -/

/-- Pushing an item into a queue leaves the rest alone. -/
theorem aside_push (s : Store V) (id : SlotId) (item : Item V) : Aside s (s.push id item) :=
  ⟨rfl, rfl, rfl, fun _ => rfl, rfl, rfl, rfl, rfl, rfl, rfl, rfl, rfl⟩

/-- An item is pushed into a queue that has room. -/
theorem deliver_room (hub : HubConfig) (h_len : Lenient Allowed) {scope : Scope} {origin : Origin}
    (h_todo : c.todo t = .deliver scope target { event := .data value, origin := origin } :: rest)
    (h_open : c.store.closed target.id = false)
    (h_room : (c.store.queues target.id).length < slotChannelCapacity) :
    ∃ c', Conveys hub Allowed t target.id
        [.queued target.id { event := .data value, origin := origin }] c c' ∧
      c'.todo t = rest ∧
      c'.store.queues = Function.update c.store.queues target.id
        (c.store.queues target.id ++ [{ event := .data value, origin := origin }]) := by
  have h₁ := Advances.exec hub h_len .proceed Choice.noConfusion h_todo
    (execDeliver_queued h_open h_room) rfl (aside_push ..)
  have h_todo₁ := resume_todo_self c t rest
    { store := c.store.push target.id { event := .data value, origin := origin }
      next := [.withHealth scope [target.id] .dataUpdate] }
  obtain ⟨c₂, h₂, h_todo₂, -, h_queues₂⟩ :=
    Conveys.quiet hub h_len target.id .proceed Choice.noConfusion h_todo₁ rfl rfl rfl
  have h_pushed : Conveys hub Allowed t target.id _ c _ :=
    ⟨h₁, traffic_of_cons rfl (decide_eq_true rfl)⟩
  exact ⟨c₂, h_pushed.trans h₂, h_todo₂, h_queues₂⟩

/-- An item that finds the queue full is dropped, and the flag is not raised yet. -/
theorem deliver_full (hub : HubConfig) (h_len : Lenient Allowed)
    (h_hub : hub.dedicated = false) {item : Item V}
    (h_todo : c.todo t = .deliver .shared target item :: rest)
    (h_open : c.store.closed target.id = false)
    (h_full : slotChannelCapacity ≤ (c.store.queues target.id).length) :
    ∃ c', Conveys hub Allowed t target.id
        [.dropped target.id item .shared (c.store.queues target.id).length] c c' ∧
      c'.todo t = .swapLagging .shared target.id :: rest ∧
      c'.store.queues = c.store.queues ∧
      c'.store.history = .dropped target.id item .shared (c.store.queues target.id).length ::
        c.store.history := by
  have h_adv := Advances.exec hub h_len .proceed Choice.noConfusion h_todo
    (execDeliver_dropped h_open h_full h_hub) rfl (.of_quiet (.log ..))
  exact ⟨_, ⟨h_adv, traffic_of_cons rfl (decide_eq_true rfl)⟩, resume_todo_self .., rfl, rfl⟩

/-- A frame is received and its payload queued. -/
theorem push_frame (hub : HubConfig) (h_len : Lenient Allowed)
    (h_todo : c.todo t = .select d stall :: rest)
    (h_carries : Carries d target response value)
    (h_live : target.id ∈ c.store.state.scopeIds d.scope)
    (h_open : c.store.closed target.id = false)
    (h_room : (c.store.queues target.id).length < slotChannelCapacity) :
    ∃ c' stall' origin,
      Conveys hub Allowed t target.id
        [.queued target.id { event := .data value, origin := origin }] c c' ∧
      c'.todo t = .select d stall' :: rest ∧
      c'.store.queues = Function.update c.store.queues target.id
        (c.store.queues target.id ++ [{ event := .data value, origin := origin }]) := by
  obtain ⟨c₁, d', h₁, h_queues₁, h_spent, h_todo₁⟩ :=
    receive_frame hub h_len h_todo h_carries h_live
  have h_open₁ : c₁.store.closed target.id = false := by
    rw [h₁.aside.closed]
    exact h_open
  obtain ⟨c₂, h₂, h_todo₂, h_queues₂⟩ :=
    deliver_room hub h_len h_todo₁ h_open₁ (by rw [h_queues₁]; exact h_room)
  obtain ⟨c₃, stall', h₃, h_queues₃, h_todo₃⟩ := finish_frame hub h_len target.id h_todo₂ h_spent
  rw [h_queues₁] at h_queues₂
  exact ⟨c₃, stall', _, (h₁.trans h₂).trans h₃, h_todo₃, h_queues₃.trans h_queues₂⟩

/-- **A queue fills up**: one frame after the other is received and queued, as
long as there is room. -/
theorem fill (hub : HubConfig) (h_len : Lenient Allowed)
    (h_todo : c.todo t = .select d stall :: rest)
    {responses : ℕ → GraphQlResponse} {values : ℕ → V}
    (h_carries : ∀ k, Carries d target (responses k) (values k))
    (h_live : target.id ∈ c.store.state.scopeIds d.scope)
    (h_open : c.store.closed target.id = false) (n : ℕ)
    (h_room : (c.store.queues target.id).length + n ≤ slotChannelCapacity) :
    ∃ c' stall' items, Conveys hub Allowed t target.id (items.map (.queued target.id)) c c' ∧
      c'.todo t = .select d stall' :: rest ∧
      items.map Item.event = (List.range n).map (fun k => SlotEvent.data (values k)) ∧
      c'.store.queues = Function.update c.store.queues target.id
        (c.store.queues target.id ++ items) := by
  induction n with
  -- an empty run
  | zero =>
    refine ⟨c, stall, [], .refl t target.id c, h_todo, rfl, ?_⟩
    rw [List.append_nil, Function.update_eq_self]
  | succ n ih =>
    -- the frame after the `n` that are queued
    obtain ⟨c₁, stall₁, items, h₁, h_todo₁, h_items, h_queues₁⟩ := ih (by omega)
    have h_queue₁ : c₁.store.queues target.id = c.store.queues target.id ++ items := by
      rw [h_queues₁, Function.update_self]
    have h_length : items.length = n := by
      have h := congrArg List.length h_items
      simpa using h
    obtain ⟨c₂, stall₂, origin, h₂, h_todo₂, h_queues₂⟩ :=
      push_frame hub h_len h_todo₁ (h_carries n)
        (by rw [h₁.aside.scopeIds]; exact h_live) (by rw [h₁.aside.closed]; exact h_open)
        (by rw [h_queue₁, List.length_append, h_length]; omega)
    refine ⟨c₂, stall₂, items ++ [{ event := .data (values n), origin := origin }], ?_, h_todo₂, ?_,
      ?_⟩
    · rw [List.map_append]
      exact h₁.trans h₂
    · rw [List.map_append, h_items, List.range_succ, List.map_append]
      rfl
    · rw [h_queues₂, h_queue₁, h_queues₁, Function.update_idem, List.append_assoc]

/-! ### Polls -/

/-- `resume_after` leaves the rest alone. -/
theorem aside_resumeAfter (s : Store V) (id : SlotId) (payload : V) :
    Aside s { s with state := s.state.resumeAfter id payload } := by
  refine ⟨rfl, rfl, rfl, fun id' => ?_, rfl, rfl, rfl, rfl, rfl, rfl, rfl, rfl⟩
  change ((s.state.slots id').map _).map _ = _
  rw [Option.map_map]
  refine congrArg (fun f => Option.map f (s.state.slots id')) (funext fun e => ?_)
  change SlotEntry.stance (if id' = id then _ else e) = e.stance
  split
  · dsimp only
    split <;> rfl
  · rfl

/-- The entry of the slot continues after `value`. -/
def ContinuesAfter (c : Config V) (id : SlotId) (value : V) : Prop :=
  ∀ e, c.store.state.slots id = some e → ∀ next,
    (e.spec.resume.bind fun resume => resume value) = some next →
      e.spec.document = next.document ∧ e.spec.queryVariables = next.queryVariables

variable {id : SlotId} {origin : Origin} {items : List (Item V)}

/-- A slot that resumes has the query that its spec makes of the entry. -/
theorem continues_resumeAfter (s : HubState V) {e : SlotEntry V} {next : ResumedQuery}
    (h_e : (s.resumeAfter id value).slots id = some e)
    (h_next : (e.spec.resume.bind fun resume => resume value) = some next) :
    e.spec.document = next.document ∧ e.spec.queryVariables = next.queryVariables := by
  unfold HubState.resumeAfter at h_e
  rw [HubState.modifySlot_slots_self] at h_e
  obtain ⟨e₀, -, h_e₀⟩ := Option.map_eq_some_iff.mp h_e
  cases h_resume : e₀.spec.resume.bind fun resume => resume value with
  | none =>
    rw [h_resume] at h_e₀
    rw [← h_e₀, h_resume] at h_next
    cases h_next
  | some next' =>
    rw [h_resume] at h_e₀
    rw [← h_e₀] at h_next ⊢
    obtain rfl := Option.some.inj (h_resume.symm.trans h_next)
    exact ⟨rfl, rfl⟩

/-- A poll takes one item out, and looks whether it was the last one. -/
theorem pop (hub : HubConfig) (h_len : Lenient Allowed) (h_idle : c.todo (.consumer id) = [])
    (h_streaming : c.store.streaming id = true)
    (h_queue : c.store.queues id = { event := .data value, origin := origin } :: items) :
    ∃ c', Conveys hub Allowed (.consumer id) id [] c c' ∧
      c'.todo (.consumer id) = (if items.isEmpty then [.swapDrained id] else []) ∧
      c'.store.queues = Function.update c.store.queues id items ∧ ContinuesAfter c' id value := by
  -- the poll, and `poll_recv`
  let c₁ := c.resume (.consumer id) [] { store := c.store, next := [.receive id] }
  have h_accept : (hubProgram hub).accept (.poll id) c =
      some (.consumer id, { store := c.store, next := [.receive id] }) := if_pos h_streaming
  -- a request is served by the task of the consumer, which was idle
  have h₁ : Conveys hub Allowed (.consumer id) id [] c c₁ :=
    ⟨⟨.serve h_accept h_idle (h_len.request c _),
      fun t' h_t => resume_todo_of_ne c _ _ _ h_t rfl, .refl _, fun _ => rfl, [], rfl,
      fun _ h => absurd h List.not_mem_nil⟩, (List.append_nil _).symm⟩
  have h_receive : execReceive id c₁ =
      { store := { c.store with queues := Function.update c.store.queues id items }.log
          (.received id { event := .data value, origin := origin })
        next := [.resumeAfter id value, .checkDrained id] } := execReceive_popped h_queue
  have h_todo₁ : c₁.todo (.consumer id) = .receive id :: [] := resume_todo_self ..
  have h_adv₂ := Advances.exec hub h_len .proceed Choice.noConfusion h_todo₁
    (congrArg some h_receive) rfl
    ⟨rfl, rfl, rfl, fun _ => rfl, rfl, rfl, rfl, rfl, rfl, rfl, rfl, rfl⟩
  have h₂ : Conveys hub Allowed (.consumer id) id [] c₁ _ := ⟨h_adv₂, (List.append_nil _).symm⟩
  -- `resume_after`
  let c₂ := c₁.resume (.consumer id) [] {
    store := { c.store with queues := Function.update c.store.queues id items }.log
      (.received id { event := .data value, origin := origin })
    next := [.resumeAfter id value, .checkDrained id] }
  have h_todo₂ : c₂.todo (.consumer id) = .resumeAfter id value :: [.checkDrained id] :=
    resume_todo_self ..
  have h₃ : Conveys hub Allowed (.consumer id) id [] c₂ _ :=
    ⟨Advances.exec hub h_len .proceed Choice.noConfusion h_todo₂ rfl rfl (aside_resumeAfter ..),
      (List.append_nil _).symm⟩
  have h_todo₃ : (c₂.resume (.consumer id) [.checkDrained id]
      { store := { c₂.store with state := c₂.store.state.resumeAfter id value }
        next := [] }).todo (.consumer id) = .checkDrained id :: [] := resume_todo_self ..
  obtain ⟨c₄, h₄, h_todo₄, h_store₄, h_queues₄⟩ :=
    -- `check_drained` looks at what is left
    Conveys.quiet hub h_len id .proceed Choice.noConfusion h_todo₃ rfl rfl rfl
  refine ⟨c₄, ((h₁.trans h₂).trans h₃).trans h₄, ?_, h_queues₄, fun e h_e next h_next => ?_⟩
  · rw [h_todo₄, List.append_nil]
    change (if (Function.update c.store.queues id items id).isEmpty then _ else _) = _
    rw [Function.update_self]
  · rw [h_store₄] at h_e
    exact continues_resumeAfter c₂.store.state h_e h_next

/-- **A queue is drained**: the consumer polls until it took the last item out,
and is about to look at the lag flag then. -/
theorem drain (hub : HubConfig) (h_len : Lenient Allowed)
    {values : List V} (h_idle : c.todo (.consumer id) = [])
    (h_streaming : c.store.streaming id = true)
    (h_items : (c.store.queues id).map Item.event = (values ++ [value]).map SlotEvent.data) :
    ∃ c', Conveys hub Allowed (.consumer id) id [] c c' ∧
      c'.todo (.consumer id) = [.swapDrained id] ∧
      c'.store.queues = Function.update c.store.queues id [] ∧ ContinuesAfter c' id value := by
  induction values generalizing c with
  -- the last item
  | nil =>
    obtain ⟨⟨event, origin⟩, items, h_queue, h_event, h_rest⟩ := List.map_eq_cons_iff.mp h_items
    obtain rfl := List.map_eq_nil_iff.mp h_rest
    change event = _ at h_event
    subst h_event
    obtain ⟨c', h_adv, h_todo, h_queues, h_next⟩ :=
      pop hub h_len h_idle h_streaming h_queue
    exact ⟨c', h_adv, h_todo, h_queues, h_next⟩
  | cons v values ih =>
    obtain ⟨⟨event, origin⟩, items, h_queue, h_event, h_rest⟩ := List.map_eq_cons_iff.mp h_items
    change event = _ at h_event
    subst h_event
    -- one item, and then the rest
    obtain ⟨c₁, h₁, h_todo₁, h_queues₁, -⟩ := pop hub h_len h_idle h_streaming h_queue
    have h_queue₁ : c₁.store.queues id = items := by rw [h_queues₁, Function.update_self]
    have h_more : items.isEmpty = false := by
      cases items with
      | nil => simp at h_rest
      | cons => rfl
    obtain ⟨c₂, h₂, h_todo₂, h_queues₂, h_next₂⟩ :=
      ih (by rw [h_todo₁, h_more]; rfl) (by rw [h₁.aside.streaming]; exact h_streaming)
        (by rw [h_queue₁]; exact h_rest)
    refine ⟨c₂, h₁.trans h₂, h_todo₂, ?_, h_next₂⟩
    rw [h_queues₂, h_queues₁, Function.update_idem]

/-! ### A stream that falls behind -/

/-- The instructions of a supervisor that waits, or goes on with its frame. -/
def Point.rests : Point → Bool
  | .select | .dispatchPayloads | .dropReceiver | .dropToken | .ensureSupervisors => true
  | _ => false

/-- No task is in the middle of anything else. -/
def AtRest (c : Config V) : Prop := ∀ t, ∀ i ∈ c.todo t, i.point.rests = true

/-- One task that goes on to an instruction at rest leaves the hub at rest. -/
theorem AtRest.of_todo {c' : Config V} (h : AtRest c) (h_todo : c.todo t = i :: rest)
    {j : Instr V} (h_j : j.point.rests = true) (h_todo' : c'.todo t = j :: rest)
    (h_others : ∀ t', t' ≠ t → c'.todo t' = c.todo t') : AtRest c' := by
  intro t' k hk
  by_cases h_t : t' = t
  · subst h_t
    rw [h_todo'] at hk
    rcases List.mem_cons.mp hk with rfl | hk
    · exact h_j
    · exact h t' k (by rw [h_todo]; exact List.mem_cons_of_mem _ hk)
  · rw [h_others t' h_t] at hk
    exact h t' k hk

/-- No task is at another instruction. -/
theorem AtRest.not_mem (h : AtRest c) (h_i : i.point.rests = false) (t : Task) : i ∉ c.todo t :=
  fun h_mem => Bool.false_ne_true (h_i.symm.trans (h t i h_mem))

/-- A connection waits for its next frame, and the stream of one of its slots is
up to date. -/
structure Attached (c : Config V) (t : Task) (d : Driving V) (target : SlotTarget V)
    (stall : Option Instant) (rest : List (Instr V)) : Prop where
  waits : c.todo t = .select d stall :: rest
  shared : d.scope = .shared
  live : target.id ∈ c.store.state.scopeIds .shared
  listens : c.store.closed target.id = false
  drained : c.store.queues target.id = []
  calm : c.store.lagging target.id = false
  streaming : c.store.streaming target.id = true
  idle : c.todo (.consumer target.id) = []

/-- **A slow consumer loses an item**: the queue is filled, one frame more
arrives, and the connection is about to raise the lag flag. -/
theorem overrun (hub : HubConfig) (h_len : Lenient Allowed) (h_hub : hub.dedicated = false)
    (h : Attached c t d target stall rest) {responses : ℕ → GraphQlResponse} {values : ℕ → V}
    (h_carries : ∀ k, Carries d target (responses k) (values k)) :
    ∃ c' d' origin, Conveys hub Allowed t target.id
        ((c'.store.queues target.id).map (.queued target.id) ++
          [.dropped target.id { event := .data (values slotChannelCapacity), origin := origin }
            .shared slotChannelCapacity]) c c' ∧
      Spent d d' ∧
      c'.todo t = .swapLagging .shared target.id :: .dispatchPayloads d' :: rest ∧
      (c'.store.queues target.id).map Item.event =
        (List.range slotChannelCapacity).map (fun k => SlotEvent.data (values k)) ∧
      c'.store.history.head? = some (.dropped target.id
        { event := .data (values slotChannelCapacity), origin := origin } .shared
        slotChannelCapacity) := by
  have h_live : target.id ∈ c.store.state.scopeIds d.scope := by
    rw [h.shared]
    exact h.live
  -- as many frames as the queue holds
  obtain ⟨c₁, stall₁, items, h₁, h_todo₁, h_items, h_queues₁⟩ :=
    fill hub h_len h.waits h_carries h_live h.listens slotChannelCapacity
      (by rw [h.drained]; exact Nat.le_of_eq (Nat.zero_add _))
  have h_queue₁ : c₁.store.queues target.id = items := by
    rw [h_queues₁, Function.update_self, h.drained, List.nil_append]
  have h_length : items.length = slotChannelCapacity := by
    have h_map := congrArg List.length h_items
    rwa [List.length_map, List.length_map, List.length_range] at h_map
  -- one more, which finds the queue full
  obtain ⟨c₂, d', h₂, h_queues₂, h_spent, h_todo₂⟩ :=
    receive_frame hub h_len h_todo₁ (h_carries slotChannelCapacity)
      (by rw [h₁.aside.scopeIds]; exact h_live)
  have h_queue₂ : c₂.store.queues target.id = items := by rw [h_queues₂, h_queue₁]
  have h_open₂ : c₂.store.closed target.id = false := by
    rw [h₂.aside.closed, h₁.aside.closed]
    exact h.listens
  rw [h.shared] at h_todo₂
  obtain ⟨c₃, h₃, h_todo₃, h_queues₃, h_history₃⟩ :=
    deliver_full hub h_len h_hub h_todo₂ h_open₂ (Nat.le_of_eq (by rw [h_queue₂, h_length]))
  have h_queue₃ : c₃.store.queues target.id = items := by rw [h_queues₃, h_queue₂]
  rw [← h_queue₃] at h_items
  rw [h_queue₂, h_length] at h_history₃
  have h_conveys := (h₁.trans h₂).trans h₃
  rw [List.append_nil, ← h_queue₃, h_queue₂, h_length] at h_conveys
  exact ⟨c₃, d', _, h_conveys, h_spent, h_todo₃, h_items, congrArg List.head? h_history₃⟩

/-- The values up to the last one. -/
theorem range_data (values : ℕ → V) (n : ℕ) :
    (List.range (n + 1)).map (fun k => SlotEvent.data (values k)) =
      ((List.range n).map values ++ [values n]).map SlotEvent.data := by
  rw [List.range_succ, List.map_append, List.map_append, List.map_map]
  rfl

/-- The connection raises the flag, and reports the lag to the health. -/
theorem raise (hub : HubConfig) (h_len : Lenient Allowed) {scope : Scope}
    (h_todo : c.todo t = .swapLagging scope id :: rest) (h_allowed : Allowed c (.run t .proceed))
    (h_flag : c.store.lagging id = false) :
    ∃ c', (hubProgram hub).Reachable c Allowed c' ∧ c'.todo t = rest ∧
      (∀ t', t' ≠ t → c'.todo t' = c.todo t') ∧
      Aside { c.store with lagging := Function.update c.store.lagging id true } c'.store ∧
      (∀ t', (c'.store.locals t').seen = (c.store.locals t').seen) ∧
      c'.store.queues = c.store.queues ∧ c'.store.history = c.store.history ∧
      (id ∈ c.store.state.scopeIds scope →
        ∃ e, c'.store.state.slots id = some e ∧ e.health.lagging = true) := by
  -- the flag was down and goes up, so the tracker is told
  let e : Effect V := {
    store := { c.store with lagging := Function.update c.store.lagging id true }
    next := [.withHealth scope [id] .lagging] }
  have h_exec : exec hub t .proceed (.swapLagging scope id) c = some e := by
    simp only [exec, h_flag]
    rfl
  have h_todo₁ := resume_todo_self c t rest e
  obtain ⟨c₂, h₂, h_todo₂, h_store₂, h_queues₂⟩ :=
    Advances.quiet hub h_len .proceed Choice.noConfusion h_todo₁ rfl rfl rfl
  refine ⟨c₂, (Program.Reachable.exec .proceed h_todo h_exec h_allowed).trans h₂.reach, h_todo₂,
    fun t' h_t => (h₂.others t' h_t).trans (resume_todo_of_ne c t rest e h_t rfl), h₂.aside,
    h₂.seen, h_queues₂, by rw [h_store₂]; rfl, fun h_live => ?_⟩
  -- the health of a live slot shows the lag
  obtain ⟨-, e₀, h_e₀, h_scope⟩ := (HubState.mem_scopeIds _).mp h_live
  refine ⟨{ e₀ with health := e₀.health.lag c.store.clock }, ?_, ?_⟩
  · rw [h_store₂]
    change (c.store.state.slots id).map _ = _
    rw [h_e₀, Option.map_some]
    dsimp only
    rw [if_pos (by rw [h_scope]; simp)]
    rfl
  · unfold HealthTracker.lag HealthTracker.problem
    dsimp only
    split <;> rfl

/-- Unrestricted runs allow all of this. -/
theorem lenient_anyStep : Lenient (V := V) Program.anyStep :=
  ⟨fun _ _ _ => True.intro, fun _ _ => True.intro⟩

/-- Raising and lowering the flag is not restricted either. -/
def LenientLag (Allowed : Config V → Action Task Choice (Request V) → Prop) : Prop :=
  ∀ {c t i rest}, c.todo t = i :: rest →
    i.point ∈ [.swapLagging, .swapDrained, .requestResync] → Allowed c (.run t .proceed)

/-- Restrictions on other instructions allow all of this. -/
theorem LenientLag.of_points (points : List Point)
    (h_points : ∀ p ∈ points, p ∉ [.swapLagging, .swapDrained, .requestResync])
    (h : ∀ c a, (∀ t i, Runs c a t i → i.point ∉ points) → Allowed c a) : LenientLag Allowed :=
  fun {c t i rest} h_todo h_i => h c _ fun t' j h_runs h_mem => by
    obtain ⟨rfl, rfl⟩ := Runs.unique ⟨.proceed, rest, rfl, h_todo⟩ h_runs
    exact h_points _ h_mem h_i

/-- Unrestricted runs also let the lag be noticed. -/
theorem lenientLag_anyStep : LenientLag (V := V) Program.anyStep := fun _ _ => True.intro

/-- **The stream falls behind**: the queue is full, the flag is up, and the
connection waits for its next frame. -/
theorem fall_behind (hub : HubConfig) (h_len : Lenient Allowed) (h_lag : LenientLag Allowed)
    (h_hub : hub.dedicated = false) (h : Attached c t d target stall rest)
    {responses : ℕ → GraphQlResponse} {values : ℕ → V}
    (h_carries : ∀ k, Carries d target (responses k) (values k)) :
    ∃ c' stall', (hubProgram hub).Reachable c Allowed c' ∧ c'.todo t = .select d stall' :: rest ∧
      (∀ t', t' ≠ t → c'.todo t' = c.todo t') ∧
      Aside { c.store with lagging := Function.update c.store.lagging target.id true } c'.store ∧
      (∀ t', (c'.store.locals t').seen = (c.store.locals t').seen) ∧
      (c'.store.queues target.id).map Item.event =
        (List.range slotChannelCapacity).map (fun k => SlotEvent.data (values k)) := by
  obtain ⟨c₁, d', origin, h₁, h_spent, h_todo₁, h_items, -⟩ :=
    overrun hub h_len h_hub h h_carries
  obtain ⟨c₂, h₂, h_todo₂, h_others₂, h_aside₂, h_seen₂, h_queues₂, -, -⟩ :=
    raise hub h_len h_todo₁ (h_lag h_todo₁ List.mem_cons_self)
      (by rw [h₁.aside.lagging]; exact h.calm)
  obtain ⟨c₃, stall', h₃, h_queues₃, h_todo₃⟩ := finish_frame hub h_len target.id h_todo₂ h_spent
  have h_aside₁ : Aside { c.store with lagging := Function.update c.store.lagging target.id true }
      { c₁.store with lagging := Function.update c₁.store.lagging target.id true } :=
    { h₁.aside with lagging := by rw [h₁.aside.lagging] }
  refine ⟨c₃, stall', (h₁.reach.trans h₂).trans h₃.reach, h_todo₃, fun t' h_t => ?_,
    (h_aside₁.trans h_aside₂).trans h₃.aside, fun t' => ?_, ?_⟩
  · rw [h₃.others t' h_t, h_others₂ t' h_t, h₁.others t' h_t]
  · rw [h₃.seen t', h_seen₂ t', h₁.seen t']
  · rw [h_queues₃, h_queues₂]
    exact h_items

/-- The consumer of slot `id` asked for a resync, and is about to leave the
shared connection. -/
structure Asks (c c' : Config V) (id : SlotId) : Prop where
  todo : c'.todo (.consumer id) = [.isolate id .lagged]
  others : ∀ t, t ≠ .consumer id → c'.todo t = c.todo t
  drained : c'.store.queues id = []
  version : c'.store.version = c.store.version
  closed : c'.store.closed = c.store.closed
  seen : ∀ t, (c'.store.locals t).seen = (c.store.locals t).seen
  scopeIds : ∀ scope, c'.store.state.scopeIds scope = c.store.state.scopeIds scope
  entry : ∃ e, c'.store.state.slots id = some e ∧ e.isolated = none ∧ e.resync = true

/-- The consumer of slot `id` took everything out of its queue, up to `value`. -/
structure Emptied (c c' : Config V) (id : SlotId) (value : V) : Prop where
  continues : ContinuesAfter c' id value
  resume : ∀ e e', c.store.state.slots id = some e → c'.store.state.slots id = some e' →
    e'.spec.resume = e.spec.resume
  ids : c'.store.state.ids = c.store.state.ids
  traffic : c'.store.traffic id = c.store.traffic id
  history : ∃ new, c'.store.history = new ++ c.store.history ∧
    ∀ ev ∈ new, ∃ p ∈ ev.sources, p = .requestResync ∨ p.isTraffic = true

/-- **A consumer that lost items asks for a resync**, after it drained its queue
and found the flag up. -/
theorem ask_resync (hub : HubConfig) (h_len : Lenient Allowed)
    (h_lag : LenientLag Allowed) {values : List V}
    (h_idle : c.todo (.consumer id) = []) (h_streaming : c.store.streaming id = true)
    (h_items : (c.store.queues id).map Item.event = (values ++ [value]).map SlotEvent.data)
    (h_flag : c.store.lagging id = true) (h_live : id ∈ c.store.state.scopeIds .shared) :
    ∃ c', (hubProgram hub).Reachable c Allowed c' ∧ Asks c c' id ∧ Emptied c c' id value := by
  obtain ⟨c₁, h₁, h_todo₁, h_queues₁, h_next₁⟩ :=
    drain hub h_len h_idle h_streaming h_items
  have h_flag₁ : c₁.store.lagging id = true := by
    rw [h₁.aside.lagging]
    exact h_flag
  -- the flag goes down
  let lowered : Effect V := {
    store := { c₁.store with lagging := Function.update c₁.store.lagging id false }
    next := [.requestResync id] }
  have h_exec₁ : exec hub (.consumer id) .proceed (.swapDrained id) c₁ = some lowered := by
    simp only [exec, h_flag₁]
    rfl
  let c₂ := c₁.resume (.consumer id) [] lowered
  have h_todo₂ : c₂.todo (.consumer id) = [.requestResync id] := resume_todo_self ..
  -- the first section of `request_resync`
  obtain ⟨-, e₀, h_e₀, h_shared⟩ := (HubState.mem_scopeIds _).mp h_live
  obtain ⟨e, h_e, h_stance⟩ := h₁.aside.slot h_e₀
  have h_iso : e.isolated = none :=
    (congrArg SlotStance.isolated h_stance).trans (Option.isNone_iff_eq_none.mp h_shared)
  have h_slot₂ : c₂.store.state.slots id = some e := h_e
  let asked : Effect V := {
    store := { c₂.store with
      state := c₂.store.state.modifySlot id fun e => { e with resync := true } }.log
        (.resyncRequested id)
    next := [.isolate id .lagged] }
  have h_exec₂ : exec hub (.consumer id) .proceed (.requestResync id) c₂ = some asked := by
    simp only [exec, HubState.requestResync, h_slot₂, h_iso]
    rfl
  -- only the entry of the slot is written
  have h_state : ∀ id',
      (c₂.store.state.modifySlot id fun e => { e with resync := true }).slots id' =
        if id' = id then some { e with resync := true } else c₂.store.state.slots id' :=
        fun id' => by
    split
    · next h_eq => rw [h_eq, HubState.modifySlot_slots_self, h_slot₂, Option.map_some]
    · next h_ne => exact HubState.modifySlot_slots_of_ne _ _ h_ne
  refine ⟨c₂.resume (.consumer id) [] asked,
    (h₁.reach.trans (.exec .proceed h_todo₁ h_exec₁ (h_lag h_todo₁ (by simp [Instr.point])))).trans
      (.exec .proceed h_todo₂ h_exec₂ (h_lag h_todo₂ (by simp [Instr.point]))), ?_, ?_⟩
  -- where the consumer stands: about to isolate
  · exact {
      todo := resume_todo_self ..
      others := fun t h_t =>
        (resume_todo_of_ne c₂ _ _ _ h_t rfl).trans
          ((resume_todo_of_ne c₁ _ _ _ h_t rfl).trans (h₁.others t h_t))
      drained := (congrFun h_queues₁ id).trans (Function.update_self ..)
      version := h₁.aside.version
      closed := h₁.aside.closed
      seen := h₁.seen
      scopeIds := fun scope => by
        refine Eq.trans ?_ (h₁.aside.scopeIds scope)
        have h_next : asked.store.state.nextId = c₁.store.state.nextId := rfl
        refine scopeIds_congr h_next (fun id' => ?_) scope
        refine (congrArg _ (h_state id')).trans ?_
        split
        · next h_eq => rw [h_eq, h_e]; rfl
        · rfl
      entry := ⟨{ e with resync := true }, (h_state id).trans (if_pos rfl), h_iso, rfl⟩ }
  · -- and what the run has kept for the stream
    have h_last := (h_state id).trans (if_pos rfl)
    have h_history : asked.store.history = .resyncRequested id :: c₂.store.history := rfl
    exact {
      continues := fun e' h_e' next h_next => by
        obtain rfl := Option.some.inj (h_last.symm.trans h_e')
        exact h_next₁ e h_e next h_next
      resume := fun e₁ e' h_e₁ h_e' => by
        obtain rfl := Option.some.inj (h_last.symm.trans h_e')
        obtain rfl := Option.some.inj (h_e₀.symm.trans h_e₁)
        exact congrArg SlotStance.resume h_stance
      ids := by
        refine Eq.trans ?_ h₁.aside.ids
        refine List.filter_congr fun id' _ => ?_
        exact Option.isSome_map
      traffic := by
        refine Eq.trans ?_ (h₁.traffic.trans (List.append_nil _))
        refine traffic_of_others [_] h_history (List.forall_mem_singleton.mpr ?_)
        exact ⟨.requestResync, List.mem_cons_self, Point.not_mem rfl⟩
      history := by
        obtain ⟨new, h_new, h_traffic⟩ := h₁.history
        refine ⟨.resyncRequested id :: new, congrArg (_ :: ·) h_new, fun ev h_ev => ?_⟩
        rcases List.mem_cons.mp h_ev with rfl | h_ev
        · exact ⟨.requestResync, List.mem_cons_self, Or.inl rfl⟩
        · obtain ⟨p, h_p, h_source⟩ := h_traffic ev h_ev
          exact ⟨p, h_source, Or.inr h_p⟩ }

/-! ### The sample subscription -/

/-- The frame that carries `n` to the first slot. -/
def sampleFrame (n : ℕ) : GraphQlResponse where
  data := some (.object [("s0".toList, .number n 0)])
  errors := none
  keysDistinct := by
    rintro members h
    obtain rfl := Json.object.inj (Option.some.inj h)
    exact List.nodup_singleton _

/-- A second stream comes and goes, which the first supervisor does not see yet. -/
def visiting : List (Action Task Choice (Request ℕ)) :=
  registering 1 4 ++ [.request (.drop 1)] ++ List.replicate 4 (.run (.consumer 1) .proceed)

/-- The tasks of a hub with two streams on the shared connection. -/
def visitedTasks : List Task := .consumer 1 :: sampleTasks

/-- Nothing is isolated or ended, and no flag is raised. -/
def uneventful (c : Config ℕ) : Action Task Choice (Request ℕ) → Bool
  | .run t _ =>
    (c.todo t).head?.all (fun i => decide (i.point ∉ [.swapLagging, .isolate, .endSlots])) &&
      visitedTasks.all fun t' => (c.todo t').all fun i => decide (i.point ≠ .isolate)
  | .request _ => true

/-- What the check excludes. -/
theorem uneventful_point {c : Config ℕ} {a : Action Task Choice (Request ℕ)}
    (h : uneventful c a = true) {t : Task} {i : Instr ℕ} (h_runs : Runs c a t i) :
    i.point ∉ [.swapLagging, .isolate, .endSlots] := by
  obtain ⟨ch, rest, rfl, h_todo⟩ := h_runs
  have h_head := (Bool.and_eq_true_iff.mp h).1
  rw [h_todo] at h_head
  exact of_decide_eq_true h_head

/-- The sample subscription is attached, and there are unseen changes. -/
theorem sample_attached (Allowed : Config ℕ → Action Task Choice (Request ℕ) → Prop)
    (h_allowed : ∀ c a, Within visitedTasks c → uneventful c a = true → Allowed c a) :
    ∃ c d target stall rest, (hubProgram sampleHub).Reachable (initialConfig ℕ) Allowed c ∧
      Attached c firstSupervisor d target stall rest ∧ target.id = 0 ∧
      (∀ n, Carries d target (sampleFrame n) n) ∧ AtRest c ∧
      (c.store.locals firstSupervisor).seen ≠ c.store.version ∧
      c.store.state.scopeIds .shared = [0] ∧ d.connection.ids = [0] ∧ c.store.episodes = 0 := by
  have h_run : ∃ c d target stall rest,
      (hubProgram sampleHub).runWithin visitedTasks uneventful (initialConfig ℕ)
        (registering 0 5 ++ opening ++ visiting) = some c ∧
      Attached c firstSupervisor d target stall rest ∧ target.id = 0 ∧
      (∀ n, Carries d target (sampleFrame n) n) ∧
      visitedTasks.all (fun t => (c.todo t).all fun i => i.point.rests) = true ∧
      (c.store.locals firstSupervisor).seen ≠ c.store.version ∧
      c.store.state.scopeIds .shared = [0] ∧ d.connection.ids = [0] ∧ c.store.episodes = 0 :=
    ⟨_, _, { id := 0, field := "readiness".toList, decode := sampleSpec.decode }, _, _, rfl,
      ⟨rfl, rfl, by decide, rfl, rfl, rfl, rfl, rfl⟩, rfl,
      fun n =>
      ⟨.object [("readiness".toList, .number n 0)], rfl, rfl, rfl⟩, rfl, by decide, rfl, rfl,
      rfl⟩
  obtain ⟨c, d, target, stall, rest, h_run, h_attached, h_id, h_carries, h_rests, h_seen⟩ := h_run
  obtain ⟨h_reach, h_idle⟩ :=
    Program.Reachable.runWithin h_allowed .init (fun _ _ => rfl) h_run
  refine ⟨c, d, target, stall, rest, h_reach, h_attached, h_id, h_carries, fun t i hi => ?_, h_seen⟩
  by_cases h_t : t ∈ visitedTasks
  · exact List.all_eq_true.mp (List.all_eq_true.mp h_rests t h_t) i hi
  · rw [h_idle t h_t] at hi
    exact absurd hi List.not_mem_nil

end Blokli
