import BlokliClient.Hub.Connections
import BlokliClient.Hub.Dispatch
import BlokliClient.Hub.Queues
import BlokliClient.Hub.Supervision

/-!
# Where connections come from

What an instruction records describes the state in which it ran
(`exec_describes`), so the history of a run says which connections were built,
from which snapshots, and what arrived on them.

* Connections and frames are numbered in the order in which they come
  (`Tallied`): a number in the history stands for one connection, or one frame.
* A slot keeps the decoder it was registered with, through every snapshot and
  every document that it is rendered into (`Enlisted`).
* Whatever a supervisor drives was built, and a slot of a connection that is
  still registered was so when the connection was built (`Established`).
-/

namespace Blokli

open Worklist

variable {V : Type} {hub : HubConfig} {t : Task} {ch : Choice} {i : Instr V} {c c' : Config V}
  {e : Effect V} {a : Action Task Choice (Request V)}

/-! ### What a record says -/

/-- What an event says about the state in which an instruction recorded it. -/
def Event.describes (ch : Choice) (i : Instr V) (c : Config V) : Event V → Prop
  | .built conn scope slots connection present =>
    i = .build scope slots ∧ conn = c.store.conns ∧
      (buildConnection slots).run = some (.ok connection) ∧ present = c.store.state.ids
  | .frame number conn response =>
    ∃ d stall, i = .select d stall ∧ ch = .next (some (.event (some response))) ∧
      conn = d.conn ∧ number = c.store.frames
  | .live number ids =>
    ∃ d, i = .readLive d ∧ number = d.frame ∧ ids = c.store.state.scopeIds d.scope
  | .queued id item =>
    i.hands id = some item ∧ c.store.closed id = false ∧
      (c.store.queues id).length < slotChannelCapacity
  | .dropped id item scope waiting =>
    i.hands id = some item ∧ (∃ target, i = .deliver scope target item) ∧ scope = .shared ∧
      c.store.closed id = false ∧ waiting = (c.store.queues id).length ∧
      slotChannelCapacity ≤ waiting
  | .undelivered id item => i.hands id = some item ∧ c.store.closed id = true
  | .received id item => i = .receive id ∧ (c.store.queues id).head? = some item
  | .registered _ _ => False
  | _ => True

/-- What the SSE client yields is described by the events it leaves. -/
theorem describes_execNext (d : Driving V) (stall : Option Instant) (item : Option SseItem) :
    ∃ new, (execNext hub t d item c.store).store.history = new ++ c.store.history ∧
      ∀ ev ∈ new, ev.describes (.next item) (.select d stall) c := by
  unfold execNext
  split
  · unfold execEvent
    split
    · exact ⟨[], rfl, List.forall_mem_nil _⟩
    · exact ⟨[_], rfl, List.forall_mem_singleton.mpr ⟨d, stall, rfl, rfl, rfl, rfl⟩⟩
  · exact ⟨[], rfl, List.forall_mem_nil _⟩
  · exact ⟨[], rfl, List.forall_mem_nil _⟩
  · unfold execStreamError
    dsimp only
    split
    · exact ⟨[], rfl, List.forall_mem_nil _⟩
    · split <;> exact ⟨[], rfl, List.forall_mem_nil _⟩
  · exact ⟨[], rfl, List.forall_mem_nil _⟩

/-- **Records tell the truth.** What an instruction records describes the state in which it
ran. -/
theorem exec_describes (h : exec hub t ch i c = some e) :
    ∃ new, e.store.history = new ++ c.store.history ∧ ∀ ev ∈ new, ev.describes ch i c := by
  cases i with
  -- the build of a connection says which document it has
  | build scope slots =>
    simp only [exec, execBuild] at h
    split at h
    · cases h
    · obtain rfl := Option.some.inj h
      exact ⟨[], rfl, List.forall_mem_nil _⟩
    · next connection h_ok =>
      obtain rfl := Option.some.inj h
      exact ⟨[_], rfl, List.forall_mem_singleton.mpr ⟨rfl, rfl, h_ok, rfl⟩⟩
  -- the liveness says what was live
  | readLive d =>
    obtain rfl := Option.some.inj h
    exact ⟨[_], rfl, List.forall_mem_singleton.mpr ⟨d, rfl, rfl, rfl⟩⟩
  -- what became of a delivery says how the queue stood
  | deliver scope target item =>
    have h_hands : (Instr.deliver scope target item).hands target.id = some item := if_pos rfl
    cases execDeliver_step h with
    | gone closed =>
      exact ⟨[_], rfl, List.forall_mem_singleton.mpr ⟨h_hands, closed⟩⟩
    | queued listens room =>
      exact ⟨[_], rfl, List.forall_mem_singleton.mpr ⟨h_hands, listens, room⟩⟩
    | dropped listens full drops shared =>
      exact ⟨[_], rfl, List.forall_mem_singleton.mpr
        ⟨h_hands, ⟨target, rfl⟩, shared, listens, rfl, full⟩⟩
  | trySend id item =>
    obtain rfl := Option.some.inj h
    unfold execTrySend
    split
    · next h_room =>
      obtain ⟨h_listens, h_room⟩ := Bool.and_eq_true_iff.mp h_room
      exact ⟨[_], rfl, List.forall_mem_singleton.mpr
        ⟨if_pos rfl, by simpa using h_listens, of_decide_eq_true h_room⟩⟩
    · exact ⟨[], rfl, List.forall_mem_nil _⟩
  | receive id =>
    cases execReceive_step (Option.some.inj h) with
    | popped item items queue =>
      exact ⟨[_], rfl, List.forall_mem_singleton.mpr ⟨rfl, by rw [queue]; rfl⟩⟩
    | pending queue held => exact ⟨[], rfl, List.forall_mem_nil _⟩
    | ended queue free => exact ⟨[], rfl, List.forall_mem_nil _⟩
  -- a frame says that it was read
  | select d stall =>
    simp only [exec] at h
    repeat' split at h
    all_goals first
      | (cases h; done)
      | (obtain rfl := Option.some.inj h
         first
           | exact describes_execNext ..
           | exact ⟨[], rfl, List.forall_mem_nil _⟩)
  -- the other events say nothing about the state, and only these instructions record them
  | _ =>
    obtain ⟨new, h_new, h_sources⟩ := exec_history h
    refine ⟨new, h_new, fun ev h_ev => ?_⟩
    have h_source := h_sources ev h_ev
    cases ev with
    | snapshot task ids => trivial
    | refused id episode => trivial
    | resyncRequested id => trivial
    | ended task ids reason => trivial
    | _ => exact absurd h_source (Point.not_mem rfl)

/-- A new record of a step describes the instruction that ran, or is the registration that
was served. -/
theorem describes_step (h : (hubProgram hub).step c a = some c') {ev : Event V}
    (h_ev : ev ∈ c'.store.history) : ev ∈ c.store.history ∨
      (∃ t ch i rest e, a = .run t ch ∧ c.todo t = i :: rest ∧ exec hub t ch i c = some e ∧
        c' = c.resume t rest e ∧ ev.describes ch i c) ∨
      ∃ spec created, a = .request (.register spec created) ∧
        ev = .registered c.store.state.nextId spec := by
  rcases Program.step_cases h with ⟨t, ch, i, rest, e, rfl, h_todo, he, rfl⟩ |
    ⟨r, t, e, rfl, he, h_todo, rfl⟩
  · change exec hub t ch i c = some e at he
    obtain ⟨new, h_new, h_describes⟩ := exec_describes he
    rw [resume_store, h_new] at h_ev
    rcases List.mem_append.mp h_ev with h_ev | h_ev
    · exact Or.inr (Or.inl ⟨t, ch, i, rest, e, rfl, h_todo, he, rfl, h_describes ev h_ev⟩)
    · exact Or.inl h_ev
  · rcases accept_history he with h_same | ⟨spec, created, rfl, h_new⟩
    · exact Or.inl (h_same ▸ h_ev)
    · rw [resume_store, h_new] at h_ev
      rcases List.mem_cons.mp h_ev with rfl | h_ev
      · exact Or.inr (Or.inr ⟨spec, created, rfl, rfl⟩)
      · exact Or.inl h_ev

/-! ### Connections and frames are numbered -/

/-- The number of the connection that was built. -/
def Event.builtNumber : Event V → Option ℕ
  | .built conn _ _ _ _ => some conn
  | _ => none

/-- The number of the frame that was read. -/
def Event.frameNumber : Event V → Option ℕ
  | .frame number _ _ => some number
  | _ => none

/-- **Tallied.** The connections and the frames that are recorded are numbered
from 0 on, in the order in which they came. -/
structure Tallied (s : Store V) : Prop where
  conns : s.history.filterMap Event.builtNumber = (List.range s.conns).reverse
  frames : s.history.filterMap Event.frameNumber = (List.range s.frames).reverse

/-- Only these instructions count. -/
theorem exec_counters (h : exec hub t ch i c = some e) :
    (i.point ≠ .build → e.store.conns = c.store.conns) ∧
      (i.point ≠ .select → e.store.frames = c.store.frames) := by
  cases i with
  | build scope slots =>
    -- only the build takes the number of a connection
    refine ⟨fun h_i => absurd rfl h_i, fun _ => ?_⟩
    simp only [exec, execBuild] at h
    split at h
    · cases h
    all_goals
      obtain rfl := Option.some.inj h
      rfl
  -- only an event that is routed takes the number of a frame
  | select d stall =>
    refine ⟨fun _ => ?_, fun h_i => absurd rfl h_i⟩
    simp only [exec, execNext, execEvent, execStreamError] at h
    repeat' split at h
    all_goals first
      | (cases h; done)
      | (obtain rfl := Option.some.inj h; rfl)
  | dispatchDocument d =>
    obtain rfl := Option.some.inj h
    unfold execDocument
    dsimp only
    split
    · exact ⟨fun _ => rfl, fun _ => rfl⟩
    · split
      · exact ⟨fun _ => rfl, fun _ => rfl⟩
      · split <;> split <;> exact ⟨fun _ => rfl, fun _ => rfl⟩
  | _ =>
    simp only [exec, execReadCause, execTrySend, execOpenStream, execLeaveDrive,
      execMalformedEvent, execReject, execDeliver, execReceive] at h
    repeat' split at h
    all_goals first
      | (cases h; done)
      | (obtain rfl := Option.some.inj h; exact ⟨fun _ => rfl, fun _ => rfl⟩)

/-- A request counts neither connections nor frames. -/
theorem accept_counters {r : Request V} (h : accept r c = some (t, e)) :
    e.store.conns = c.store.conns ∧ e.store.frames = c.store.frames := by
  cases r
  all_goals
    simp only [accept] at h
    first
      | split at h
      | skip
  all_goals first
    | (cases h; done)
    | (obtain ⟨rfl, rfl⟩ := Prod.mk.inj (Option.some.inj h); exact ⟨rfl, rfl⟩)

namespace Tallied

variable {s : Store V}

/-- At the start nothing is numbered. -/
theorem initial : Tallied (initialStore V) where
  conns := rfl
  frames := rfl

/-- What neither counts nor is counted. -/
theorem others {s' : Store V} (h_tal : Tallied s) (new : List (Event V))
    (h_new : s'.history = new ++ s.history)
    (h_events : ∀ ev ∈ new, ev.builtNumber = none ∧ ev.frameNumber = none)
    (h_conns : s'.conns = s.conns) (h_frames : s'.frames = s.frames) : Tallied s' where
  conns := by
    rw [h_new, List.filterMap_append,
      List.filterMap_eq_nil_iff.mpr fun ev h_ev => (h_events ev h_ev).1, h_conns]
    exact h_tal.conns
  frames := by
    rw [h_new, List.filterMap_append,
      List.filterMap_eq_nil_iff.mpr fun ev h_ev => (h_events ev h_ev).2, h_frames]
    exact h_tal.frames

/-- The next number, in front of the others. -/
theorem counted {n : ℕ} {ns : List ℕ} (h : ns = (List.range n).reverse) :
    n :: ns = (List.range (n + 1)).reverse := by
  rw [h, List.range_succ, List.reverse_append]
  rfl

/-- An instruction numbers at most one connection, or one frame. -/
theorem exec (h_tal : Tallied c.store) (h : exec hub t ch i c = some e) : Tallied e.store := by
  cases i with
  -- the connection gets the number that is next
  | build scope slots =>
    simp only [Blokli.exec, execBuild] at h
    split at h
    · cases h
    · obtain rfl := Option.some.inj h
      exact h_tal
    · obtain rfl := Option.some.inj h
      exact ⟨counted h_tal.conns, h_tal.frames⟩
  -- the frame gets the number that is next
  | select d stall =>
    simp only [Blokli.exec, execNext, execEvent, execStreamError] at h
    repeat' split at h
    all_goals first
      | (cases h; done)
      | (obtain rfl := Option.some.inj h
         first
           | exact ⟨h_tal.conns, h_tal.frames⟩
           | exact ⟨h_tal.conns, counted h_tal.frames⟩)
  | _ =>
    obtain ⟨new, h_new, h_sources⟩ := exec_history h
    obtain ⟨h_conns, h_frames⟩ := exec_counters h
    refine h_tal.others new h_new (fun ev h_ev => ?_) (h_conns fun h_i => (by cases h_i))
      (h_frames fun h_i => (by cases h_i))
    have h_source := h_sources ev h_ev
    cases ev with
    | built => exact absurd h_source (Point.not_mem rfl)
    | frame => exact absurd h_source (Point.not_mem rfl)
    | _ => exact ⟨rfl, rfl⟩

/-- One step keeps the count. -/
theorem step (h_tal : Tallied c.store) (h : (hubProgram hub).step c a = some c') :
    Tallied c'.store := by
  rcases Program.step_cases h with ⟨t, ch, i, rest, e, rfl, h_todo, he, rfl⟩ |
    ⟨r, t, e, rfl, he, h_todo, rfl⟩
  · exact h_tal.exec he
  · have h_counters := accept_counters he
    rcases accept_history he with h_same | ⟨spec, created, rfl, h_new⟩
    · exact h_tal.others [] h_same (List.forall_mem_nil _) h_counters.1 h_counters.2
    · exact h_tal.others [_] h_new (List.forall_mem_singleton.mpr ⟨rfl, rfl⟩)
        h_counters.1 h_counters.2

/-- What is counted once is recorded once. -/
theorem unique {number : Event V → Option ℕ} {n : ℕ}
    (h : s.history.filterMap number = (List.range n).reverse) {ev ev' : Event V}
    (h_ev : ev ∈ s.history) (h_ev' : ev' ∈ s.history) {k : ℕ} (h_k : number ev = some k)
    (h_k' : number ev' = some k) : ev = ev' := by
  have h_nodup : (s.history.filterMap number).Nodup := by
    rw [h]
    exact List.nodup_reverse.mpr List.nodup_range
  -- two events of one number cannot stand apart
  have h_apart : s.history.Pairwise fun ev ev' => number ev = some k → number ev' ≠ some k :=
    (List.pairwise_filterMap.mp h_nodup).imp fun h_ne h_k h_k' => h_ne k h_k k h_k' rfl
  exact List.Pairwise.forall_of_forall_of_flip
    (R := fun ev ev' => number ev = some k → number ev' = some k → ev = ev')
    (fun _ _ _ _ => rfl) (h_apart.imp fun h_ne h_k h_k' => absurd h_k' (h_ne h_k))
    (h_apart.imp fun h_ne h_k' h_k => absurd h_k' (h_ne h_k)) h_ev h_ev' h_k h_k'

/-- A number stands for one connection. -/
theorem built_unique (h_tal : Tallied s) {conn : ℕ} {scope scope' : Scope}
    {slots slots' : Snapshot V} {connection connection' : Connection V}
    {present present' : List SlotId}
    (h : .built conn scope slots connection present ∈ s.history)
    (h' : .built conn scope' slots' connection' present' ∈ s.history) :
    scope = scope' ∧ slots = slots' ∧ connection = connection' ∧ present = present' := by
  obtain ⟨-, h_eq⟩ := Event.built.inj (unique h_tal.conns h h' rfl rfl)
  exact h_eq

/-- A number stands for one frame. -/
theorem frame_unique (h_tal : Tallied s) {number conn conn' : ℕ}
    {response response' : GraphQlResponse}
    (h : .frame number conn response ∈ s.history)
    (h' : .frame number conn' response' ∈ s.history) : conn = conn' ∧ response = response' := by
  obtain ⟨-, h_eq⟩ := Event.frame.inj (unique h_tal.frames h h' rfl rfl)
  exact h_eq

/-- The frames that were read are below the next one. -/
theorem frame_lt (h_tal : Tallied s) {number conn : ℕ} {response : GraphQlResponse}
    (h : .frame number conn response ∈ s.history) : number < s.frames := by
  have h_mem : number ∈ s.history.filterMap Event.frameNumber := List.mem_filterMap.mpr ⟨_, h, rfl⟩
  rw [h_tal.frames, List.mem_reverse, List.mem_range] at h_mem
  exact h_mem

/-- The connections that were built are below the next one. -/
theorem built_lt (h_tal : Tallied s) {conn : ℕ} {scope : Scope} {slots : Snapshot V}
    {connection : Connection V} {present : List SlotId}
    (h : .built conn scope slots connection present ∈ s.history) : conn < s.conns := by
  have h_mem : conn ∈ s.history.filterMap Event.builtNumber := List.mem_filterMap.mpr ⟨_, h, rfl⟩
  rw [h_tal.conns, List.mem_reverse, List.mem_range] at h_mem
  exact h_mem

/-- The numbers along a run. -/
theorem reachable {Allowed : Config V → Action Task Choice (Request V) → Prop}
    (h : (hubProgram hub).Reachable (initialConfig V) Allowed c) : Tallied c.store := by
  induction h with
  | init => exact initial
  | step _ _ fires ih => exact ih.step fires

end Tallied

/-! ### A slot keeps its decoder -/

/-- The slot was registered with the decoder of this spec. -/
def Store.Enlists (s : Store V) (id : SlotId) (spec : SubscriptionSpec V) : Prop :=
  ∃ own, .registered id own ∈ s.history ∧ spec.decode = own.decode

/-- **Enlisted.** Every id is registered once, and the entry of a slot, the
snapshots that list it and the documents that it is part of have its decoder. -/
structure Enlisted (c : Config V) : Prop where
  handedOut : ∀ id spec, .registered id spec ∈ c.store.history → id < c.store.state.nextId
  once : ∀ id spec spec', .registered id spec ∈ c.store.history →
    .registered id spec' ∈ c.store.history → spec = spec'
  entries : ∀ id e, c.store.state.slots id = some e → c.store.Enlists id e.spec
  snapshots : ∀ t, ∀ i ∈ c.todo t, ∀ slots, i.snapshotSlots = some slots →
    ∀ p ∈ slots, c.store.Enlists p.1 p.2.spec
  documents : ∀ conn scope slots connection present,
    .built conn scope slots connection present ∈ c.store.history →
      ∀ p ∈ slots, c.store.Enlists p.1 p.2.spec

namespace Enlisted

/-- At the start no slot is registered. -/
theorem initial : Enlisted (initialConfig V) where
  handedOut _ _ h := absurd h List.not_mem_nil
  once _ _ _ h := absurd h List.not_mem_nil
  entries _ _ h := by cases h
  snapshots _ _ h := absurd h List.not_mem_nil
  documents _ _ _ _ _ h := absurd h List.not_mem_nil

/-- Records of registrations come with registrations. -/
theorem registered_step (h : (hubProgram hub).step c a = some c') {id : SlotId}
    {spec : SubscriptionSpec V} (h_ev : .registered id spec ∈ c'.store.history) :
    .registered id spec ∈ c.store.history ∨
      ∃ created, a = .request (.register spec created) ∧ id = c.store.state.nextId := by
  rcases describes_step h h_ev with h_old | ⟨t, ch, i, rest, e, -, -, -, -, h_false⟩ |
    ⟨spec', created, rfl, h_eq⟩
  · exact Or.inl h_old
  · exact h_false.elim
  · obtain ⟨rfl, rfl⟩ := Event.registered.inj h_eq
    exact Or.inr ⟨created, rfl, rfl⟩

/-- A registration stays on record. -/
theorem enlists_step (h : (hubProgram hub).step c a = some c') {id : SlotId}
    {spec : SubscriptionSpec V} (h_enl : c.store.Enlists id spec) : c'.store.Enlists id spec := by
  obtain ⟨own, h_own, h_eq⟩ := h_enl
  exact ⟨own, history_subset h h_own, h_eq⟩

/-- An entry has a spec that was registered, or continues one. -/
theorem step_entries (h_inv : Enlisted c) (h : (hubProgram hub).step c a = some c') :
    ∀ id e, c'.store.state.slots id = some e → c'.store.Enlists id e.spec := by
  intro id e' h_e'
  cases spec_step h h_e' with
  | same e before spec =>
    rw [spec]
    exact enlists_step h (h_inv.entries id e before)
  | resumed t payload next e runs before resume spec =>
    -- a query that continues brings a document and variables, and no decoder
    rw [spec]
    exact enlists_step h (h_inv.entries id e before)
  | registered spec created request number same =>
    subst request
    rw [same, number]
    exact ⟨spec, by rw [registration_recorded h]; exact List.mem_cons_self, rfl⟩

/-- Each entry of a snapshot has such a spec. -/
theorem step_snapshots (h_inv : Enlisted c) (h : (hubProgram hub).step c a = some c') :
    ∀ t, ∀ i ∈ c'.todo t, ∀ slots, i.snapshotSlots = some slots →
      ∀ p ∈ slots, c'.store.Enlists p.1 p.2.spec := by
  intro t j hj slots h_j p hp
  refine enlists_step h ?_
  rcases snapshotSlots_step h hj h_j with ⟨i, hi, h_i⟩ | ⟨scope, waitUntil, h_runs, rfl⟩
  · exact h_inv.snapshots t i hi slots h_i p hp
  · obtain ⟨id, entry⟩ := p
    obtain ⟨-, e, h_e, -, rfl⟩ := c.store.state.mem_snapshot.mp hp
    exact h_inv.entries id e h_e

/-- Each entry of a connection has such a spec. -/
theorem step_documents (h_inv : Enlisted c) (h : (hubProgram hub).step c a = some c') :
    ∀ conn scope slots connection present,
      .built conn scope slots connection present ∈ c'.store.history →
        ∀ p ∈ slots, c'.store.Enlists p.1 p.2.spec := by
  intro conn scope slots connection present h_ev p hp
  refine enlists_step h ?_
  rcases describes_step h h_ev with h_old | ⟨t, ch, i, rest, e, -, h_todo, -, -, rfl, -⟩ |
    ⟨spec, created, -, h_eq⟩
  · exact h_inv.documents conn scope slots connection present h_old p hp
  · exact h_inv.snapshots t _ (by rw [h_todo]; exact List.mem_cons_self) slots rfl p hp
  · cases h_eq

/-- The three clauses together. -/
theorem step (h_inv : Enlisted c) (h : (hubProgram hub).step c a = some c') : Enlisted c' where
  handedOut := by
    -- an id is handed out once, with the registration
    intro id spec h_ev
    have h_le := nextId_le_step h
    rcases registered_step h h_ev with h_old | ⟨created, rfl, rfl⟩
    · exact lt_of_lt_of_le (h_inv.handedOut id spec h_old) h_le
    · rcases nextId_step h with ⟨-, h_no⟩ | ⟨spec', created', -, h_next⟩
      · exact absurd rfl (h_no spec created)
      · rw [h_next]
        exact Nat.lt_succ_self _
  once := by
    -- two registrations of one id are the same event
    intro id spec spec' h_ev h_ev'
    rcases registered_step h h_ev with h_old | ⟨created, h_a, h_id⟩
    · rcases registered_step h h_ev' with h_old' | ⟨created, h_a, h_id⟩
      · exact h_inv.once id spec spec' h_old h_old'
      · exact absurd (h_inv.handedOut id spec h_old) (h_id ▸ Nat.lt_irrefl _)
    · rcases registered_step h h_ev' with h_old' | ⟨created', h_a', h_id'⟩
      · exact absurd (h_inv.handedOut id spec' h_old') (h_id ▸ Nat.lt_irrefl _)
      · exact (Request.register.inj (Action.request.inj (h_a.symm.trans h_a'))).1
  entries := h_inv.step_entries h
  snapshots := h_inv.step_snapshots h
  documents := h_inv.step_documents h

/-- The invariant along a run. -/
theorem reachable {Allowed : Config V → Action Task Choice (Request V) → Prop}
    (h : (hubProgram hub).Reachable (initialConfig V) Allowed c) : Enlisted c := by
  induction h with
  | init => exact initial
  | step _ _ fires ih => exact ih.step fires

end Enlisted

/-! ### What is driven was built -/

/-- The root field of a subscription, as `build_connection` reads it off the document. -/
def rootFieldOf (document aliasName : Text) : Checked Text := do
  let (_, fieldOfSlot) ← splitDocument document
  let fieldOfSlot ← (renameVariables fieldOfSlot aliasName : Option Text)
  rootFieldName fieldOfSlot

/-- The target of a slot has the root field of its document. -/
theorem addSlot_rootField {parts parts' : Parts V} {id : SlotId} {spec : SubscriptionSpec V}
    (h : (addSlot parts id spec).run = some (.ok parts')) :
    ∃ field, (rootFieldOf spec.document (aliasOfSlot id)).run = some (.ok field) ∧
      parts'.targets = insertSorted (aliasOfSlot id)
        { id := id, field := field, decode := spec.decode } parts.targets := by
  unfold addSlot at h
  obtain ⟨⟨definitions, field⟩, h_split, h⟩ := checked_bind_ok.mp h
  obtain ⟨definitions', -, h⟩ := checked_bind_ok.mp h
  obtain ⟨field', h_rename, h⟩ := checked_bind_ok.mp h
  obtain ⟨fieldName, h_name, h⟩ := checked_bind_ok.mp h
  obtain ⟨aliased, -, h⟩ := checked_bind_ok.mp h
  obtain rfl := Except.ok.inj (Option.some.inj h)
  refine ⟨fieldName, ?_, rfl⟩
  exact checked_bind_ok.mpr ⟨_, h_split, checked_bind_ok.mpr ⟨_, h_rename, h_name⟩⟩

/-- What the owner of an alias has of its slot. -/
structure SlotTarget.OwnedBy (target : SlotTarget V) (aliasName : Text) (id : SlotId)
    (spec : SubscriptionSpec V) : Prop where
  id_eq : target.id = id
  decode : target.decode = spec.decode
  field : (rootFieldOf spec.document aliasName).run = some (.ok target.field)

/-- Each target that the loop of `build_connection` adds is owned by its slot. -/
theorem addSlots_owners {slots : Snapshot V} {parts parts' : Parts V}
    (h : (addSlots parts slots).run = some (.ok parts')) {p : Text × SlotTarget V}
    (hp : p ∈ parts'.targets) :
    p ∈ parts.targets ∨ ∃ q ∈ slots, p.2.OwnedBy p.1 q.1 q.2.spec := by
  induction slots generalizing parts with
  | nil =>
    obtain rfl := Except.ok.inj (Option.some.inj h)
    exact Or.inl hp
  | cons q slots ih =>
    obtain ⟨id, entry⟩ := q
    obtain ⟨parts₁, h₁, h₂⟩ := checked_bind_ok.mp h
    obtain ⟨field, h_field, h_targets⟩ := addSlot_rootField h₁
    rcases ih h₂ with h_old | ⟨q, hq, h_q⟩
    · rw [h_targets] at h_old
      rcases mem_insertSorted h_old with rfl | h_old
      · exact Or.inr ⟨(id, entry), List.mem_cons_self, rfl, rfl, h_field⟩
      · exact Or.inl h_old
    · exact Or.inr ⟨q, List.mem_cons_of_mem _ hq, h_q⟩

/-- **The owners of the aliases.** Each is a slot of the snapshot, with its decoder and the
root field of its document. -/
theorem buildConnection_owners {slots : Snapshot V} {connection : Connection V}
    (h : (buildConnection slots).run = some (.ok connection)) {p : Text × SlotTarget V}
    (hp : p ∈ connection.targets) : ∃ q ∈ slots, p.2.OwnedBy p.1 q.1 q.2.spec := by
  obtain ⟨parts, h_parts, h⟩ := checked_bind_ok.mp h
  obtain rfl := Except.ok.inj (Option.some.inj h)
  exact (addSlots_owners h_parts hp).resolve_left List.not_mem_nil

/-- **Established.** What is driven was built, from a snapshot that lists no slot
twice; a slot of it that is still registered was so when it was built. -/
structure Established (c : Config V) : Prop where
  driven : ∀ t, ∀ i ∈ c.todo t, ∀ d, i.driving = some d → ∃ slots present,
    .built d.conn d.scope slots d.connection present ∈ c.store.history
  assembled : ∀ conn scope slots connection present,
    .built conn scope slots connection present ∈ c.store.history →
      (buildConnection slots).run = some (.ok connection) ∧ (slots.map Prod.fst).Nodup
  present : ∀ conn scope slots connection present,
    .built conn scope slots connection present ∈ c.store.history →
      ∀ id ∈ slots.map Prod.fst, ∀ e, c.store.state.slots id = some e → id ∈ present

namespace Established

/-- At the start no connection is built. -/
theorem initial : Established (initialConfig V) where
  driven _ _ h := absurd h List.not_mem_nil
  assembled _ _ _ _ _ h := absurd h List.not_mem_nil
  present _ _ _ _ _ h := absurd h List.not_mem_nil

/-- What is driven was driven before, or is recorded as built. -/
theorem step_driven (h_inv : Established c) (h : (hubProgram hub).step c a = some c') :
    ∀ t, ∀ i ∈ c'.todo t, ∀ d, i.driving = some d → ∃ slots present,
      .built d.conn d.scope slots d.connection present ∈ c'.store.history := by
  intro t j hj d h_j
  have h_inner : j.point.begins = false := by
    cases j <;> first
      | rfl
      | cases h_j
  -- what was built before stays on record
  have h_old : ∀ i ∈ c.todo t, i.driving = some d → ∃ slots present,
      .built d.conn d.scope slots d.connection present ∈ c'.store.history := by
    intro i hi h_i
    obtain ⟨slots, present, h_built⟩ := h_inv.driven t i hi d h_i
    exact ⟨slots, present, history_subset h h_built⟩
  rcases origin_step h hj h_inner with hj | ⟨ch, i, rest, e, rfl, h_todo, he, h_next⟩
  · exact h_old j hj h_j
  · obtain rfl := Option.some.inj (h.symm.trans (Program.step_run h_todo he))
    -- a driver comes from another one, or from a build
    rcases exec_driving he j h_next d h_j with h_i | ⟨scope, slots, rfl, rfl, h_conn, -, h_history⟩
    · exact h_old i (by rw [h_todo]; exact List.mem_cons_self) h_i
    · refine ⟨slots, c.store.state.ids, ?_⟩
      rw [resume_store, h_history, h_conn]
      exact List.mem_cons_self

/-- Every connection on record was assembled from its snapshot. -/
theorem step_assembled (h_inv : Established c) (h_distinct : Distinct c)
    (h : (hubProgram hub).step c a = some c') : ∀ conn scope slots connection present,
      .built conn scope slots connection present ∈ c'.store.history →
        (buildConnection slots).run = some (.ok connection) ∧ (slots.map Prod.fst).Nodup := by
  intro conn scope slots connection present h_ev
  rcases describes_step h h_ev with h_old | ⟨t, ch, i, rest, e, -, h_todo, -, -, rfl, -, h_ok, -⟩ |
    ⟨spec, created, -, h_eq⟩
  · exact h_inv.assembled conn scope slots connection present h_old
  · exact ⟨h_ok, h_distinct t _ (by rw [h_todo]; exact List.mem_cons_self) slots rfl⟩
  · cases h_eq

/-- A slot that is registered after the step was so before it, or has a new id. -/
theorem step_present (h_inv : Established c) (h_enl : Enlisted c) (h_num : Numbered c)
    (h : (hubProgram hub).step c a = some c') : ∀ conn scope slots connection present,
      .built conn scope slots connection present ∈ c'.store.history →
        ∀ id ∈ slots.map Prod.fst, ∀ e, c'.store.state.slots id = some e → id ∈ present := by
  intro conn scope slots connection present h_ev id h_id e' h_e'
  rcases describes_step h h_ev with h_old | ⟨t, ch, i, rest, e, rfl, -, -, -, -, -, -, rfl⟩ |
    ⟨spec, created, -, h_eq⟩
  · rcases slot_origin h h_e' with ⟨e, h_e⟩ | ⟨spec, created, -, h_new, -⟩
    · exact h_inv.present conn scope slots connection present h_old id h_id e h_e
    · obtain ⟨p, hp, rfl⟩ := List.mem_map.mp h_id
      obtain ⟨own, h_own, -⟩ := h_enl.documents conn scope slots connection present h_old p hp
      exact absurd (h_enl.handedOut p.1 own h_own) (h_new ▸ Nat.lt_irrefl _)
  · rcases slot_origin h h_e' with ⟨e, h_e⟩ | ⟨spec, created, h_request, -⟩
    · exact c.store.state.mem_ids.mpr ⟨h_num id e h_e, e, h_e⟩
    · cases h_request
  · cases h_eq

/-- The invariant along a run. -/
theorem reachable {Allowed : Config V → Action Task Choice (Request V) → Prop}
    (h : (hubProgram hub).Reachable (initialConfig V) Allowed c) : Established c := by
  induction h with
  | init => exact initial
  | step reached allowed fires ih =>
    exact ⟨ih.step_driven fires, ih.step_assembled (Distinct.reachable reached) fires,
      ih.step_present (Enlisted.reachable reached) (Sound.reachable reached).numbered fires⟩

end Established

end Blokli
