import BlokliClient.Hub.Frame

/-!
# The control flow of the hub

`Point` names the instructions without their arguments, and `Point.successors`
is the control flow graph: what may follow an instruction in its place.
`exec_successors` proves that the graph is complete, so every question of the
form "which instruction can lead to this one" is decided on the graph.

* `Instr.ownedBy` says which tasks an instruction belongs to: the instructions
  of a supervisor carry the scope of its token, those of a consumer its slot.
-/

namespace Blokli

open Worklist

variable {V : Type}

/-! ### The control flow graph -/

/-- An instruction without its arguments. -/
inductive Point
  | bumpGeneration | sendGeneration | ensureSupervisors | spawnSupervisor | isolate
  | readCause | stop | endSlots | dropReceiver | dropToken
  | waitReconnect | recheckWait
  | prepare | snapshot | debounce | awaitChange | build | trySend | releaseSlots
  | openStream | stallWakeup | select | reconnectNeeded | markStalled | leaveDrive
  | readLive | dispatchPayloads | dispatchErrors | dispatchDocument | malformedEvent
  | reject | withHealth | deliver | swapLagging
  | receive | resumeAfter | checkDrained | swapDrained | requestResync
  | closeReceiver | deregister
  deriving DecidableEq

def Instr.point : Instr V → Point
  | .bumpGeneration => .bumpGeneration
  | .sendGeneration => .sendGeneration
  | .ensureSupervisors => .ensureSupervisors
  | .spawnSupervisor _ => .spawnSupervisor
  | .isolate _ _ => .isolate
  | .readCause _ => .readCause
  | .stop _ _ _ => .stop
  | .endSlots _ _ => .endSlots
  | .dropReceiver _ => .dropReceiver
  | .dropToken _ => .dropToken
  | .waitReconnect _ _ _ => .waitReconnect
  | .recheckWait _ _ _ => .recheckWait
  | .prepare _ => .prepare
  | .snapshot _ _ => .snapshot
  | .debounce _ _ _ => .debounce
  | .awaitChange _ _ _ _ => .awaitChange
  | .build _ _ => .build
  | .trySend _ _ => .trySend
  | .releaseSlots _ => .releaseSlots
  | .openStream _ => .openStream
  | .stallWakeup _ => .stallWakeup
  | .select _ _ => .select
  | .reconnectNeeded _ => .reconnectNeeded
  | .markStalled _ => .markStalled
  | .leaveDrive _ _ => .leaveDrive
  | .readLive _ => .readLive
  | .dispatchPayloads _ => .dispatchPayloads
  | .dispatchErrors _ => .dispatchErrors
  | .dispatchDocument _ => .dispatchDocument
  | .malformedEvent _ => .malformedEvent
  | .reject _ _ _ _ => .reject
  | .withHealth _ _ _ => .withHealth
  | .deliver _ _ _ => .deliver
  | .swapLagging _ _ => .swapLagging
  | .receive _ => .receive
  | .resumeAfter _ _ => .resumeAfter
  | .checkDrained _ => .checkDrained
  | .swapDrained _ => .swapDrained
  | .requestResync _ => .requestResync
  | .closeReceiver _ => .closeReceiver
  | .deregister _ => .deregister

/-- What may take the place of an instruction. -/
def Point.successors : Point → List Point
  | .bumpGeneration => [.sendGeneration]
  | .ensureSupervisors => [.spawnSupervisor]
  | .isolate => [.bumpGeneration, .ensureSupervisors]
  | .readCause => [.waitReconnect, .prepare]
  | .stop => [.endSlots]
  | .waitReconnect => [.recheckWait]
  | .recheckWait => [.waitReconnect]
  | .prepare => [.snapshot]
  | .snapshot => [.debounce]
  | .debounce => [.awaitChange, .build]
  | .awaitChange => [.build, .snapshot]
  | .build => [.trySend, .endSlots, .releaseSlots, .openStream]
  | .openStream => [.deliver, .leaveDrive, .stallWakeup]
  | .stallWakeup => [.select]
  | .select => [.reconnectNeeded, .markStalled, .stallWakeup, .withHealth, .malformedEvent,
      .readLive, .reject, .leaveDrive]
  | .reconnectNeeded => [.leaveDrive, .stallWakeup]
  | .leaveDrive => [.prepare, .waitReconnect, .stop]
  | .readLive => [.dispatchPayloads]
  | .dispatchPayloads => [.dispatchErrors, .dispatchPayloads, .deliver, .withHealth, .isolate]
  | .dispatchErrors => [.withHealth, .dispatchDocument, .dispatchErrors, .reject, .isolate]
  | .dispatchDocument => [.reject, .leaveDrive, .malformedEvent, .stallWakeup]
  | .malformedEvent => [.leaveDrive]
  | .reject => [.deliver]
  | .deliver => [.withHealth, .swapLagging]
  | .swapLagging => [.withHealth]
  | .receive => [.resumeAfter, .checkDrained, .closeReceiver, .deregister]
  | .checkDrained => [.swapDrained]
  | .swapDrained => [.requestResync]
  | .requestResync => [.isolate, .bumpGeneration]
  | .deregister => [.bumpGeneration]
  | _ => []

/-- Membership of a point in a list, refuted by computation. -/
theorem Point.not_mem {p : Point} {ps : List Point} (h : ps.elem p = false) : p ∉ ps := fun h' => by
  rw [List.elem_eq_true_of_mem h'] at h
  cases h

/-- Two lists without a common point. -/
theorem Point.disjoint {p : Point} {ps qs : List Point}
    (h : ps.any (fun p => qs.elem p) = false) (h_p : p ∈ ps) : p ∉ qs := by
  have h_all := List.any_eq_false.mp h p h_p
  exact Point.not_mem (Bool.not_eq_true _ ▸ h_all)

variable {hub : HubConfig} {t : Task} {ch : Choice} {i : Instr V} {c : Config V} {e : Effect V}

/-- **The control flow graph is complete.** -/
theorem exec_successors (h : exec hub t ch i c = some e) :
    ∀ j ∈ e.next, j.point ∈ i.point.successors := by
  -- instruction by instruction, and branch by branch
  cases i
  all_goals
    simp only [exec, execReadCause, execBuild, execTrySend, execOpenStream, execNext, execEvent,
      execStreamError, execLeaveDrive, execPayload, execSlotError, execDocument,
      execMalformedEvent, execReject, execDeliver, execReceive, malformedFrame] at h
    repeat' split at h
  all_goals first
    | (cases h; done)
    | (obtain rfl := Option.some.inj h
       clear h
       -- each of its successors is in the list
       simp only [List.forall_mem_append, List.forall_mem_cons, List.forall_mem_map]
       repeat' apply And.intro
       all_goals first
         | exact List.mem_of_elem_eq_true rfl
         | exact fun _ _ => List.mem_of_elem_eq_true rfl
         | exact List.forall_mem_nil _)

/-- Only `spawnSupervisor` starts a task. -/
theorem exec_spawned (h : exec hub t ch i c = some e) {t' : Task} {is : List (Instr V)}
    (h_sp : e.spawned = some (t', is)) :
    ∃ token, i = .spawnSupervisor token ∧ t' = .supervisor token ∧ is = supervisorCode token := by
  cases i with
  | spawnSupervisor token =>
    obtain rfl := Option.some.inj h
    obtain ⟨rfl, rfl⟩ := Prod.mk.inj (Option.some.inj h_sp)
    exact ⟨token, rfl, rfl, rfl⟩
  -- no other instruction spawns a task
  | _ =>
    exfalso
    simp only [exec, execReadCause, execBuild, execTrySend, execOpenStream, execNext, execEvent,
      execStreamError, execLeaveDrive, execDocument, execMalformedEvent, execReject, execDeliver,
      execReceive] at h
    repeat' split at h
    all_goals first
      | (cases h; done)
      | (obtain rfl := Option.some.inj h; cases h_sp)

/-- The connection a supervisor drives. -/
def Task.scope : Task → Option Scope
  | .supervisor token => some token.scope
  | _ => none

/-- What a supervisor starts with. -/
theorem supervisorCode_points (token : Token) : ∀ j ∈ supervisorCode (V := V) token, j.point ∈
    [.prepare, .readCause, .dropReceiver, .dropToken, .ensureSupervisors] := by
  -- on the shared connection, or on one of its own
  unfold supervisorCode
  split
  all_goals
    simp only [List.forall_mem_cons]
    repeat' apply And.intro
    all_goals first
      | exact List.mem_of_elem_eq_true rfl
      | exact List.forall_mem_nil _

/-- **What a request does**, but for the slots, the clock and the history. -/
theorem accept_frame {r : Request V} (h : accept r c = some (t, e)) :
    e.spawned = none ∧ t.scope = none ∧
      e.store.alive = c.store.alive ∧ e.store.serial = c.store.serial ∧
      e.store.receivers = c.store.receivers ∧ e.store.version = c.store.version ∧
      e.store.locals = c.store.locals ∧ e.store.queues = c.store.queues ∧
      e.store.lagging = c.store.lagging ∧ e.store.closed = c.store.closed ∧
      ∀ j ∈ e.next, j.point ∈
        [.bumpGeneration, .ensureSupervisors, .receive, .closeReceiver, .deregister] := by
  -- request by request
  cases r
  all_goals
    simp only [accept] at h
    first
      | split at h
      | skip
  all_goals first
    | (cases h; done)
    | (obtain ⟨rfl, rfl⟩ := Prod.mk.inj (Option.some.inj h)
       refine ⟨rfl, rfl, rfl, rfl, rfl, rfl, rfl, rfl, rfl, rfl, ?_⟩
       simp only [List.forall_mem_cons]
       repeat' apply And.intro
       all_goals first
         | exact List.mem_of_elem_eq_true rfl
         | exact List.forall_mem_nil _)

/-! ### What the loud instructions leave alone -/

/-- The instructions that touch the slots beyond their health. -/
def Point.movesSlots : Point → Bool
  | .ensureSupervisors | .isolate | .endSlots | .snapshot | .resumeAfter | .requestResync
  | .deregister => true
  | _ => false

/-- **What an instruction at `p` leaves alone**: each part of the store has few writers. -/
structure LeavesAlone (p : Point) (s s' : Store V) : Prop where
  /-- Tokens come and go with `ensure_supervisors` and their drop. -/
  tokens : p ∉ [.ensureSupervisors, .dropToken] → s'.alive = s.alive ∧ s'.serial = s.serial
  /-- Receivers of the watch channel come with a supervisor and go with it. -/
  receivers : p ∉ [.spawnSupervisor, .dropReceiver] → s'.receivers = s.receivers
  /-- The watch channel moves by `send`. -/
  version : p ≠ .sendGeneration → s'.version = s.version
  queues : p ∉ [.trySend, .deliver, .receive, .closeReceiver] → s'.queues = s.queues
  lagging : p ∉ [.swapLagging, .swapDrained] → s'.lagging = s.lagging
  /-- The receivers of the queues. -/
  closed : p ≠ .closeReceiver → s'.closed = s.closed
  slots : p.movesSlots = false → SameSlots s.state s'.state

theorem Quiet.leavesAlone {s s' : Store V} (h : Quiet s s') (p : Point) : LeavesAlone p s s' where
  tokens _ := ⟨h.alive, h.serial⟩
  receivers _ := h.receivers
  version _ := h.version
  queues _ := h.queues
  lagging _ := h.lagging
  closed _ := h.closed
  slots _ := h.slots

theorem exec_leavesAlone (h : exec hub t ch i c = some e) :
    LeavesAlone i.point c.store e.store := by
  -- the quiet instructions by their own lemma, the loud ones by symbolic execution
  by_cases h_quiet : i.loud = false
  · exact (exec_quiet h h_quiet).leavesAlone _
  · cases i
    all_goals first
      | exact absurd rfl h_quiet
      | (simp only [exec, execTrySend, execDeliver, execReceive] at h
         repeat' split at h
         all_goals first
           | (cases h; done)
           | obtain rfl := Option.some.inj h
         -- a field is kept, or the point is on the list of its writers
         all_goals
           constructor
           all_goals
             intro h_i
             first
               | rfl
               | exact ⟨rfl, rfl⟩
               | exact SameSlots.refl _
               | exact absurd rfl h_i
               | exact absurd (List.mem_of_elem_eq_true rfl) h_i
               | cases h_i)

/-! ### Where pending instructions come from, and where they go -/

variable {c' : Config V} {a : Action Task Choice (Request V)}

/-- **Where a pending instruction comes from.** It was pending before, takes the
place of an instruction, serves a request or starts a supervisor. -/
theorem mem_todo_step (h : (hubProgram hub).step c a = some c') {j : Instr V}
    (hj : j ∈ c'.todo t) :
    j ∈ c.todo t ∨
    (∃ ch i rest e, a = .run t ch ∧ c.todo t = i :: rest ∧ exec hub t ch i c = some e ∧
      j ∈ e.next) ∨
    (∃ r e, a = .request r ∧ accept r c = some (t, e) ∧ j ∈ e.next) ∨
    (∃ t' ch token rest, a = .run t' ch ∧ c.todo t' = .spawnSupervisor token :: rest ∧
      t = .supervisor token ∧ j ∈ supervisorCode token) := by
  -- the step ran an instruction, or it served a request
  rcases Program.step_cases h with ⟨t', ch, i, rest, e, rfl, h_todo, he, rfl⟩ |
    ⟨r, t', e, rfl, he, h_todo, rfl⟩
  · -- a successor of the instruction, what was behind it, the code of a new task, or another task's
    rcases mem_resume_todo c t' rest e hj with ⟨rfl, hj | hj⟩ | ⟨-, ⟨is, h_is, hj⟩ | hj⟩
    · exact Or.inr (Or.inl ⟨ch, i, rest, e, rfl, h_todo, he, hj⟩)
    · exact Or.inl (by rw [h_todo]; exact List.mem_cons_of_mem _ hj)
    · obtain ⟨token, rfl, rfl, rfl⟩ := exec_spawned he h_is
      exact Or.inr (Or.inr (Or.inr ⟨t', ch, token, rest, rfl, h_todo, rfl, hj⟩))
    · exact Or.inl hj
  · -- a request spawns nothing
    rcases mem_resume_todo c t' [] e hj with ⟨rfl, hj | hj⟩ | ⟨-, ⟨is, h_is, hj⟩ | hj⟩
    · exact Or.inr (Or.inr (Or.inl ⟨r, e, rfl, he, hj⟩))
    · exact absurd hj List.not_mem_nil
    · rw [(accept_frame he).1] at h_is
      cases h_is
    · exact Or.inl hj

/-- The instructions that requests and new supervisors begin with. -/
def Point.begins : Point → Bool
  | .receive | .closeReceiver | .deregister | .bumpGeneration | .ensureSupervisors | .prepare
  | .readCause | .dropReceiver | .dropToken => true
  | _ => false

/-- **Where an inner instruction comes from.** What requests and supervisors do not
begin with was pending before, or took the place of the instruction that ran. -/
theorem origin_step (h : (hubProgram hub).step c a = some c') {j : Instr V}
    (hj : j ∈ c'.todo t) (h_j : j.point.begins = false) :
    j ∈ c.todo t ∨ ∃ ch i rest e, a = .run t ch ∧ c.todo t = i :: rest ∧
      exec hub t ch i c = some e ∧ j ∈ e.next := by
  -- neither list of first instructions has a point that does not begin
  have h_not : ∀ points : List Point, points.all Point.begins = true → j.point ∉ points := by
    intro points h_all h_mem
    exact Bool.false_ne_true (h_j.symm.trans (List.all_eq_true.mp h_all _ h_mem))
  rcases mem_todo_step h hj with
    h_old | h_next | ⟨r, e, -, he, hj⟩ | ⟨t', ch, token, rest, -, -, -, hj⟩
  · exact Or.inl h_old
  · exact Or.inr h_next
  · obtain ⟨-, -, -, -, -, -, -, -, -, -, h_points⟩ := accept_frame he
    exact absurd (h_points j hj) (h_not _ rfl)
  · exact absurd (supervisorCode_points token j hj) (h_not _ rfl)

/-- **Where a pending instruction goes.** It stays, unless it runs, or a
supervisor is started over it. -/
theorem mem_todo_step_of_mem (h : (hubProgram hub).step c a = some c') {j : Instr V}
    (hj : j ∈ c.todo t) :
    j ∈ c'.todo t ∨ (∃ ch rest, a = .run t ch ∧ c.todo t = j :: rest) ∨
    (∃ t' token rest, c.todo t' = .spawnSupervisor token :: rest ∧ t = .supervisor token) := by
  rcases Program.step_cases h with ⟨t', ch, i, rest, e, rfl, h_todo, he, rfl⟩ |
    ⟨r, t', e, rfl, he, h_todo, rfl⟩
  · -- the list of the task that runs loses its head, and nothing else
    by_cases ht : t = t'
    · subst ht
      rw [h_todo] at hj
      rcases List.mem_cons.mp hj with rfl | hj
      · exact Or.inr (Or.inl ⟨ch, rest, rfl, h_todo⟩)
      · exact Or.inl (by rw [resume_todo_self]; exact List.mem_append_right _ hj)
    · cases h_sp : e.spawned with
      | none => exact Or.inl (by rw [resume_todo_of_ne c t' rest e ht h_sp]; exact hj)
      -- the list of a new task is replaced, as nothing was to be done by it
      | some p =>
        obtain ⟨t'', is⟩ := p
        obtain ⟨token, rfl, rfl, rfl⟩ := exec_spawned he h_sp
        by_cases ht' : t = .supervisor token
        · exact Or.inr (Or.inr ⟨t', token, rest, h_todo, ht'⟩)
        · exact Or.inl (by rw [resume_todo_of_ne_spawned c t' rest e ht h_sp ht']; exact hj)
  · -- a request is served by an idle task
    by_cases ht : t = t'
    · subst ht
      rw [h_todo] at hj
      exact absurd hj List.not_mem_nil
    · exact Or.inl (by rw [resume_todo_of_ne c t' [] e ht (accept_frame he).1]; exact hj)

/-! ### Who runs what -/

/-- Which tasks an instruction belongs to. -/
def Instr.ownedBy (t : Task) : Instr V → Prop
  | .bumpGeneration | .sendGeneration | .ensureSupervisors | .spawnSupervisor _ => True
  | .isolate id .lagged => t = .consumer id
  | .isolate _ _ => t.scope = some .shared
  | .readCause id => t.scope = some (.isolated id)
  | .endSlots _ _ | .trySend _ _ | .releaseSlots _ => t.scope.isSome
  | .dropReceiver token | .dropToken token => t = .supervisor token
  | .stop scope _ _ | .waitReconnect scope _ _ | .recheckWait scope _ _ | .prepare scope
  | .snapshot scope _ | .debounce scope _ _ | .awaitChange scope _ _ _ | .build scope _
  | .markStalled scope | .reject scope _ _ _ | .withHealth scope _ _ | .deliver scope _ _
  | .swapLagging scope _ => t.scope = some scope
  | .openStream d | .stallWakeup d | .select d _ | .reconnectNeeded d | .leaveDrive d _
  | .malformedEvent d => t.scope = some d.scope
  | .readLive d | .dispatchPayloads d | .dispatchErrors d | .dispatchDocument d =>
    t.scope = some d.scope
  | .receive id | .resumeAfter id _ | .checkDrained id | .swapDrained id | .requestResync id
  | .closeReceiver id | .deregister id => t = .consumer id

/-- What follows an instruction belongs to the same task. -/
theorem exec_owned (h : exec hub t ch i c = some e) (h_own : i.ownedBy t) :
    ∀ j ∈ e.next, j.ownedBy t := by
  -- instruction by instruction, and branch by branch
  cases i
  all_goals
    simp only [exec, execReadCause, execBuild, execTrySend, execOpenStream, execNext, execEvent,
      execStreamError, execLeaveDrive, execPayload, execSlotError, execDocument,
      execMalformedEvent, execReject, execDeliver, execReceive, malformedFrame] at h
    repeat' split at h
  all_goals first
    | (cases h; done)
    | (obtain rfl := Option.some.inj h
       clear h
       simp only [List.forall_mem_append, List.forall_mem_cons, List.forall_mem_map]
       repeat' apply And.intro
       all_goals first
         -- the instructions that are left belong to the task, to nobody, or to any supervisor
         | exact h_own
         | exact trivial
         | exact List.forall_mem_nil _
         | exact fun _ _ => h_own
         | exact fun _ _ => trivial
         | exact Option.isSome_of_eq_some h_own
         | exact fun _ _ => Option.isSome_of_eq_some h_own
         | exact h_own.trans (congrArg some ‹_›))

theorem supervisorCode_owned (token : Token) :
    ∀ j ∈ supervisorCode (V := V) token, j.ownedBy (.supervisor token) := by
  unfold supervisorCode
  cases h : token.scope with
  | shared => simp [Instr.ownedBy, Task.scope, h]
  | isolated id => simp [Instr.ownedBy, Task.scope, h]

theorem accept_owned {r : Request V} (h : accept r c = some (t, e)) :
    ∀ j ∈ e.next, j.ownedBy t := by
  -- a request is served by the consumer it names
  cases r
  all_goals
    simp only [accept] at h
    first
      | split at h
      | skip
  all_goals first
    | (cases h; done)
    | (obtain ⟨rfl, rfl⟩ := Prod.mk.inj (Option.some.inj h); simp [Instr.ownedBy])

/-- Every pending instruction belongs to its task. -/
def Owned (c : Config V) : Prop := ∀ t, ∀ i ∈ c.todo t, i.ownedBy t

theorem Owned.initial : Owned (initialConfig V) := fun _ _ h => absurd h List.not_mem_nil

theorem Owned.step (h_own : Owned c) (h : (hubProgram hub).step c a = some c') : Owned c' := by
  refine Program.forall_todo_of_step h h_own (fun _ _ _ h => h) ?_ ?_
  · -- the successors are the task's own, and a new task is a supervisor with its code
    intro t ch i rest e _ h_todo he
    refine ⟨exec_owned he (h_own t i (by rw [h_todo]; exact List.mem_cons_self)), ?_⟩
    intro t' is h_sp
    obtain ⟨token, -, rfl, rfl⟩ := exec_spawned he h_sp
    exact supervisorCode_owned token
  · intro r t e _ he
    refine ⟨accept_owned he, fun t' is h_sp => ?_⟩
    rw [(accept_frame he).1] at h_sp
    cases h_sp

end Blokli
