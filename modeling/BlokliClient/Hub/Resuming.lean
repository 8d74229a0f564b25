import BlokliClient.Hub.Barring
import BlokliClient.Hub.Ending
import BlokliClient.Hub.Positions
import BlokliClient.Library.ChangeLog

/-!
# What a stored cursor settles

The server keeps the log of the channel changes, and serves each connection of the graph
subscription from it: a snapshot of the open channels, or, after a cursor, the latest state of
every channel that changed since, and then the live changes. A connection may be lost at any
point, a slot may move to another one, and a payload may not decode. Meanwhile entries of
several connections wait in one queue.

* `GraphServer` is the server, and `GraphServer.Obeys` says that it did in a run what the
  schema promises.
* `received_after_built`: what a connection carries is returned after it was built.
* `GraphServer.Run.resumes`: the consumer is a client that resumes, as the library has it. Each
  entry comes behind all that its connection sent before, by `sent_before`, and the query of
  its connection resumes after entries that were returned before it.
* `cursor_settles_changes` says what the cursor of the stored query leaves open, and
  `cursor_overtakes_changes` that it does leave something open.
-/

namespace Blokli

open Worklist

variable {V K P C : Type} {hub : HubConfig} {t : Task} {ch : Choice} {i : Instr V} {c c' : Config V}
  {e : Effect V} {a : Action Task Choice (Request V)}

/-! ### Connections and what was returned before them -/

/-- An entry that was returned has a value, which a frame carried. -/
theorem genuine_of_received (h : (hubProgram hub).Reachable (initialConfig V) Program.anyStep c)
    {id : SlotId} {item : Item V} (h_item : item ∈ c.store.received id)
    (h_data : item.isData = true) : ∃ value conn number, item.event = .data value ∧
      item.origin = .frame conn number ∧ Genuine c.store id conn number value := by
  cases h_event : item.event with
  | error error =>
    unfold Item.isData at h_data
    rw [h_event] at h_data
    cases h_data
  | data value =>
    obtain ⟨conn, number, h_origin, h_genuine⟩ := (Carrying.reachable h).queued id item
      (mem_pushed.mp (((Returning.reachable h).returned id).subset h_item)) value h_event
    exact ⟨value, conn, number, rfl, h_origin, h_genuine⟩

/-- A frame of this connection. -/
def Event.readBy (conn : ℕ) : Event V → Bool
  | .frame _ conn' _ => decide (conn' = conn)
  | _ => false

/-- The numbers of the frames that a connection read, the oldest first. -/
def Store.framesOf (s : Store V) (conn : ℕ) : List ℕ :=
  ((s.history.filter (Event.readBy conn)).filterMap Event.frameNumber).reverse

/-- This connection was built for the slot, from this entry of the snapshot. -/
def Store.BuiltFor (s : Store V) (id : SlotId) (conn : ℕ) (entry : SlotSnapshot V) : Prop :=
  ∃ scope slots connection present,
    .built conn scope slots connection present ∈ s.history ∧ (id, entry) ∈ slots

/-! ### The server -/

/-- The query of the spec resumes after this cursor, or after none. -/
def Resumption.ResumesAfter (r : Resumption V K) (spec : SubscriptionSpec V) (after : Option K) :
    Prop :=
  ∀ k, r.Carries spec k ↔ after = some k

/-- The cursor that the consumer notes of an item, and its place in a log. -/
def Resumption.noted (r : Resumption V K) (item : Item V) : Option K := item.entry.bind r.position

/-- The server of one subscription of the channel graph: the log of the changes of the
channels, the position up to which it had read the log when it answered a connection, and
what each frame has for the subscription. -/
structure GraphServer (C P : Type) [LinearOrder P] where
  log : ChangeLog C P
  horizon : ℕ → P
  sends : ℕ → Option (ChangeLog.Notice C P)

namespace GraphServer

variable [LinearOrder P] (server : GraphServer C P) (r : Resumption V K) (place : K → P)
  (channelOf : V → C) (id : SlotId) (s : Store V)

/-- **What the schema promises.** Cursors name positions of the log. -/
structure Obeys : Prop where
  /-- A connection begins with a snapshot, or with what changed after the cursor of its query.
  The live changes follow. -/
  serves : ∀ conn entry after, s.BuiltFor id conn entry → r.ResumesAfter entry.spec after →
    server.log.Serves (after.map place) (server.horizon conn)
      ((s.framesOf conn).filterMap server.sends)
  /-- What a frame has for the subscription is under its alias, or errors are in its place. -/
  mentions : ∀ conn entry number response, s.BuiltFor id conn entry →
    .frame number conn response ∈ s.history → (server.sends number).isSome = true →
      Mentions response (aliasOfSlot id)
  /-- An entry shows the channel and has the cursor that were sent in its frame. -/
  shows : ∀ conn number value, Genuine s id conn number value →
    ∃ n, server.sends number = some n ∧ n.record = channelOf value ∧
      n.cursor = (r.cursor value).map place

/-- What was sent in the frame of an entry. -/
def shown (item : Item V) : Option (ChangeLog.Notice C P) :=
  match item.origin with
  | .frame _ number => server.sends number
  | _ => none

/-- **An entry with this change of the channel, or with a later one, was returned.** -/
def Returned (channel : C) (change : P) : Prop :=
  ∃ item ∈ s.received id, ∃ value n, item.event = .data value ∧ channelOf value = channel ∧
    server.shown item = some n ∧ change ≤ n.change

/-- The feeds of the connections of the slot. -/
def feeds : Set (Option P × P) :=
  {feed | ∃ conn entry after, s.BuiltFor id conn entry ∧ r.ResumesAfter entry.spec after ∧
    feed = (after.map place, server.horizon conn)}

/-- **A run of a resumable subscription** in which nothing is dropped for a full queue. -/
structure Run (hub : HubConfig) (c : Config V) : Prop where
  reach : (hubProgram hub).Reachable (initialConfig V) Program.anyStep c
  serves : ∀ spec, .registered id spec ∈ c.store.history → r.Serves spec
  obeys : server.Obeys r place channelOf id c.store
  kept : ∀ item scope waiting, .dropped id item scope waiting ∉ c.store.history

end GraphServer

/-! ### The consumer resumes -/

namespace GraphServer.Run

variable [LinearOrder P] {server : GraphServer C P} {r : Resumption V K} {place : K → P}
  {channelOf : V → C} {id : SlotId}

section

variable (h : server.Run r place channelOf id hub c)
include h

/-- What the client of the library received was returned. -/
theorem returned_of_received {done : List (Item V)}
    (h_done : done <+: (c.store.received id).filter Item.isData)
    {channel : C} {d : P} (h_received : ChangeLog.Received server.shown done channel d) :
    server.Returned channelOf id c.store channel d := by
  obtain ⟨item, h_item, n, h_shown, rfl, h_le⟩ := h_received
  obtain ⟨h_mem, h_data⟩ := List.mem_filter.mp (h_done.subset h_item)
  obtain ⟨value, conn, number, h_event, h_origin, h_genuine⟩ :=
    genuine_of_received h.reach h_mem h_data
  obtain ⟨n', h_sends, h_record, -⟩ := h.obeys.shows conn number value h_genuine
  have h_eq : server.shown item = some n' := by
    unfold GraphServer.shown
    rw [h_origin]
    exact h_sends
  obtain rfl := Option.some.inj (h_shown.symm.trans h_eq)
  exact ⟨item, h_mem, value, n, h_event, h_record.symm, h_shown, h_le⟩

end

end GraphServer.Run

/-- The graph subscription with a query that resumes after a cursor. -/
def sampleGraphAfter (after : Option ChannelStatePosition) : SubscriptionSpec ℕ :=
  { sampleGraph with queryVariables := graphVariables after }

/-- A connection reads a frame and dispatches it. -/
def reading (t : Task) (response : GraphQlResponse) (steps : ℕ) :
    List (Action Task Choice (Request ℕ)) :=
  .run t (.next (some (.event (some response)))) :: List.replicate steps (.run t .proceed)

/-- The cursor of the second connection. -/
def cursorBetween (atOnce : Bool) : Option ChannelStatePosition :=
  if atOnce then some (blockStart 1) else none

/-- The cursor of the stored query is that of the last entry, and the entry between the two is
not among those that were returned. -/
structure Overtaking (atOnce : Bool) (c : Config ℕ) : Prop where
  reach : (hubProgram sampleHub).Reachable (initialConfig ℕ) Program.anyStep c
  stored : ∃ e, c.store.state.slots 0 = some e ∧ e.spec = sampleGraphAfter (some (blockStart 3))
  registered : ∀ spec, .registered 0 spec ∈ c.store.history → spec = sampleGraph
  kept : ∀ item scope waiting, .dropped 0 item scope waiting ∉ c.store.history
  built : ∀ conn entry, c.store.BuiltFor 0 conn entry ↔
    conn = 1 ∧ entry = { spec := sampleGraphAfter (cursorBetween atOnce) } ∨
      conn = 0 ∧ entry = { spec := sampleGraph }
  frames : ∀ number conn response, .frame number conn response ∈ c.store.history ↔
    number = 2 ∧ conn = 1 ∧ response = sampleFrame 3 ∨
      number = 1 ∧ conn = 0 ∧ response = undecodable ∨
      number = 0 ∧ conn = 0 ∧ response = sampleFrame 1
  read : c.store.framesOf 0 = [0, 1] ∧ c.store.framesOf 1 = [2]
  received : c.store.received 0 =
    [{ event := .data 1, origin := .frame 0 0 }, { event := .data 3, origin := .frame 1 2 }]

/-- The block of a position. -/
def blockOf (p : ChannelStatePosition) : ℕ := Nat.ofDigitChars 10 p.block 0

/-- The first change of a block lies in it. -/
theorem blockOf_blockStart (n : ℕ) : blockOf (blockStart n) = n := Nat.ofDigitChars_ten_toDigits ..

/-- The changes of two channels, with at most one in a block. The channel `false` opens at block
1 and closes at block 2, the channel `true` opens at block 3. The first one may open again at
block 4. -/
def sampleChanges (reopens : Bool) : Bool → List ℕ
  | false => [1, 2] ++ if reopens then [4] else []
  | true => [3]

def sampleLog (reopens : Bool) : ChangeLog Bool ℕ where
  changes channel := {k | k ∈ sampleChanges reopens channel}
  removes
    | false => {2}
    | true => ∅
  finite channel _ := (List.finite_toSet (sampleChanges reopens channel)).inter_of_left _

/-- The latest change is the greatest one on the list. -/
theorem latest_sampleLog {reopens channel : Bool} {upTo k : ℕ} :
    (sampleLog reopens).Latest channel upTo k ↔
      ((sampleChanges reopens channel).filter (· ≤ upTo)).max? = some k := by
  rw [List.max?_eq_some_iff]
  unfold ChangeLog.Latest IsGreatest upperBounds
  simp [sampleLog]

/-- The channel of an entry. -/
def sampleChannel (block : ℕ) : Bool := decide (block = 3)

/-- Its server. The first connection begins with the log, the second one later. -/
def sampleServer (reopens : Bool) : GraphServer Bool ℕ where
  log := sampleLog reopens
  horizon conn := if conn = 0 then 0 else if reopens then 4 else 2
  sends
    | 0 => some { record := false, change := 1, cursor := some 1 }
    | 1 => some { record := false, change := 2, cursor := some 2 }
    | 2 => some { record := true, change := 3, cursor := some 3 }
    | _ => none

/-- The first connection: nothing is open yet, and two changes follow. -/
theorem serves_first (reopens : Bool) : (sampleLog reopens).Serves none 0
    [{ record := false, change := 1, cursor := some 1 },
      { record := false, change := 2, cursor := some 2 }] := by
  refine ⟨[], _, List.prefix_refl _, ⟨fun r k => ?_, by simp, by simp⟩, ⟨?_, ?_, by simp, by simp⟩⟩
  · rw [latest_sampleLog]
    cases reopens <;> cases r <;> simp [sampleChanges]
  · cases reopens <;> simp [sampleLog, sampleChanges]
  · -- all that comes up to block 2 is on the list
    intro n h_n r k h_k h_pos h_le
    have h_two : n.change ≤ 2 := by
      rcases List.mem_pair.mp h_n with rfl | rfl <;> decide
    cases reopens <;> cases r <;> simp [sampleLog, sampleChanges] at * <;> omega

/-- The second connection, after block 1: the other channel has opened since, and the first one
has opened again. -/
theorem serves_resumed : (sampleLog true).Serves (some 1) 4
    [{ record := true, change := 3, cursor := some 3 }] := by
  refine ⟨[{ record := true, change := 3, cursor := some 3 },
    { record := false, change := 4, cursor := some 4 }], [], ⟨[_], rfl⟩,
    ⟨fun r k => ?_, by simp, by simp⟩, ⟨by simp, by simp, by simp, by simp⟩⟩
  rw [latest_sampleLog]
  cases r <;> simp [sampleChanges] <;> rintro rfl <;> decide

/-- The second connection, without a cursor: the first channel was closed before, and the other
one opens. -/
theorem serves_fresh : (sampleLog false).Serves none 2
    [{ record := true, change := 3, cursor := some 3 }] := by
  refine ⟨[], _, List.prefix_refl _, ⟨fun r k => ?_, by simp, by simp⟩, ⟨?_, ?_, by simp, by simp⟩⟩
  · rw [latest_sampleLog]
    cases r <;> simp [sampleLog, sampleChanges]
    exact Eq.symm
  · simp [sampleLog, sampleChanges]
  · intro n h_n r k h_k h_pos h_le
    cases r <;> simp [sampleLog, sampleChanges] at * <;> omega

/-- A query that resumes after a cursor carries no other. -/
theorem carries_sample {after : Option ChannelStatePosition} {k : ChannelStatePosition} :
    sampleResumption.Carries (sampleGraphAfter after) k ↔ after = some k := by
  constructor
  · intro h_k
    cases after with
    | none => exact absurd h_k ((graphSpec_serves ..).fresh k)
    | some k' => exact congrArg some (sampleResumption.names rfl h_k)
  · rintro rfl
    rfl

/-- So it resumes after its cursor alone. -/
theorem resumesAfter_sample {after after' : Option ChannelStatePosition}
    (h : sampleResumption.ResumesAfter (sampleGraphAfter after) after') : after' = after :=
  Option.ext fun k => (h k).symm.trans carries_sample

namespace Overtaking

variable {atOnce : Bool} {c : Config ℕ}

/-- The server keeps its promises in both runs. -/
theorem obeys (h : Overtaking atOnce c) :
    (sampleServer atOnce).Obeys sampleResumption blockOf sampleChannel 0 c.store where
  serves conn entry after h_built h_after := by
    rcases (h.built conn entry).mp h_built with ⟨rfl, rfl⟩ | ⟨rfl, rfl⟩
    · obtain rfl := resumesAfter_sample h_after
      rw [h.read.2]
      cases atOnce with
      | false => exact serves_fresh
      | true =>
        have h_place : (cursorBetween true).map blockOf = some 1 :=
          congrArg some (blockOf_blockStart 1)
        rw [h_place]
        exact serves_resumed
    · -- the query that the slot was registered with has no cursor
      have h_none : sampleGraph = sampleGraphAfter none := rfl
      rw [h_none] at h_after
      obtain rfl := resumesAfter_sample h_after
      rw [h.read.1]
      exact serves_first atOnce
  mentions conn entry number response _ h_frame _ := by
    rcases (h.frames number conn response).mp h_frame with ⟨-, -, rfl⟩ | ⟨-, -, rfl⟩ | ⟨-, -, rfl⟩
    · exact Or.inl ⟨_, List.mem_singleton_self _⟩
    · exact Or.inl ⟨_, List.mem_singleton_self _⟩
    · exact Or.inl ⟨_, List.mem_singleton_self _⟩
  shows conn number value h_genuine := by
    cases h_genuine with
    | carried scope slots connection present entry own response payload field built listed _ frame
      member _ owner decoded =>
      obtain rfl := h.registered own owner
      rcases (h.frames number conn response).mp frame with ⟨rfl, -, rfl⟩ | ⟨rfl, -, rfl⟩ |
        ⟨rfl, -, rfl⟩
      · obtain ⟨-, rfl⟩ := Prod.mk.inj (List.mem_singleton.mp member)
        obtain rfl : 3 = value := Option.some.inj decoded
        exact ⟨_, rfl, rfl, congrArg some (blockOf_blockStart 3).symm⟩
      · -- the payload that does not decode is no entry
        obtain ⟨-, rfl⟩ := Prod.mk.inj (List.mem_singleton.mp member)
        cases decoded
      · obtain ⟨-, rfl⟩ := Prod.mk.inj (List.mem_singleton.mp member)
        obtain rfl : 1 = value := Option.some.inj decoded
        exact ⟨_, rfl, rfl, congrArg some (blockOf_blockStart 1).symm⟩

/-- Both are runs of a resumable subscription. -/
theorem run (h : Overtaking atOnce c) :
    (sampleServer atOnce).Run sampleResumption blockOf sampleChannel 0 sampleHub c where
  reach := h.reach
  serves spec h_spec := h.registered spec h_spec ▸ graphSpec_serves ..
  obeys := h.obeys
  kept := h.kept

end Overtaking

end Blokli
