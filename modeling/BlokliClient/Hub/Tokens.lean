import BlokliClient.Hub.Slots

/-!
# The life of a supervisor

A supervisor exists from the section of `ensure_supervisors` that creates its
token to the drop of that token. In between it is spawned, holds a receiver of
the watch channel until `run_supervisor` returns, and then drops its token and
calls `ensure_supervisors` once more.

* `Tail` is the shape of a supervisor's list of instructions: before, during and
  after these drops.
* `Tokens`: until its supervisor is spawned, a live token has one pending
  `spawnSupervisor`, and afterwards one pending `dropToken`.
* `Listening`: the receivers of the watch channel are those of the supervisors
  whose `run_supervisor` executes.
-/

namespace Blokli

open Worklist

variable {V : Type} {hub : HubConfig} {t : Task} {ch : Choice} {i : Instr V} {c c' : Config V}
  {e : Effect V} {a : Action Task Choice (Request V)}

/-! ### The end of a supervisor -/

def Instr.isDropReceiver : Instr V → Bool
  | .dropReceiver _ => true
  | _ => false

/-- The instructions of a task that come before the end of `run_supervisor`. -/
def active (l : List (Instr V)) : List (Instr V) := l.takeWhile fun i => !i.isDropReceiver

/-- `run_supervisor` is executing for this token. -/
def Executing (c : Config V) (token : Token) : Prop :=
  Instr.dropReceiver token ∈ c.todo (.supervisor token)

/-- Neither the drop of a receiver nor that of a token. -/
def Instr.plain (i : Instr V) : Prop := i.point ≠ .dropReceiver ∧ i.point ≠ .dropToken

/-- The instructions of a supervisor: before, during and after the drops at the
end of its task. -/
inductive Tail (token : Token) : List (Instr V) → Prop
  | running (body : List (Instr V)) (h_body : ∀ i ∈ body, i.plain) :
      Tail token (body ++ [.dropReceiver token, .dropToken token, .ensureSupervisors])
  | leaving : Tail token [.dropToken token, .ensureSupervisors]
  | left (l : List (Instr V))
      (h_left : ∀ i ∈ l, i.point ∈ [.ensureSupervisors, .spawnSupervisor]) : Tail token l

/-- Consumers have nothing to drop. -/
def TailOf (t : Task) (l : List (Instr V)) : Prop :=
  match t with
  | .supervisor token => Tail token l
  | _ => ∀ i ∈ l, i.plain

/-- A task that does nothing is in form. -/
theorem TailOf.nil (t : Task) : TailOf (V := V) t [] := by
  cases t with
  | supervisor token => exact Tail.left [] (List.forall_mem_nil _)
  | consumer id => exact List.forall_mem_nil _
  | environment => exact List.forall_mem_nil _

/-- So is one that runs no supervisor, with plain instructions. -/
theorem TailOf.of_plain {l : List (Instr V)} (h_t : t.scope = none) (h : ∀ i ∈ l, i.plain) :
    TailOf t l := by
  cases t with
  | supervisor token => cases h_t
  | consumer id => exact h
  | environment => exact h

/-- Looking at supervisors and starting one are plain. -/
theorem Instr.plain_of_left (h : i.point ∈ [.ensureSupervisors, .spawnSupervisor]) : i.plain := by
  constructor
  · intro h_eq
    rw [h_eq] at h
    revert h
    decide
  · intro h_eq
    rw [h_eq] at h
    revert h
    decide

/-- What takes the place of an instruction is plain. -/
theorem exec_next_plain (h : exec hub t ch i c = some e) : ∀ j ∈ e.next, j.plain := by
  intro j hj
  -- what may follow an instruction is read off its point
  have h_succ := exec_successors h j hj
  constructor
  · intro h_j
    rw [h_j] at h_succ
    revert h_succ
    cases i.point <;> decide
  · intro h_j
    rw [h_j] at h_succ
    revert h_succ
    cases i.point <;> decide

/-- What a request starts is plain. -/
theorem accept_next_plain {r : Request V} (h : accept r c = some (t, e)) :
    ∀ j ∈ e.next, j.plain := by
  intro j hj
  obtain ⟨-, -, -, -, -, -, -, -, -, -, h_next⟩ := accept_frame h
  -- nor does a request drop anything
  have h_j := h_next j hj
  constructor
  · intro h_eq
    rw [h_eq] at h_j
    revert h_j
    decide
  · intro h_eq
    rw [h_eq] at h_j
    revert h_j
    decide

/-- Nothing takes the place of a drop. -/
theorem exec_drop_next (h : exec hub t ch i c = some e) (h_i : ¬ i.plain) : e.next = [] := by
  refine List.eq_nil_iff_forall_not_mem.mpr fun j hj => h_i ?_
  -- behind the two drops nothing is inserted
  have h_succ := exec_successors h j hj
  constructor
  · intro h_eq
    rw [h_eq] at h_succ
    exact absurd h_succ List.not_mem_nil
  · intro h_eq
    rw [h_eq] at h_succ
    exact absurd h_succ List.not_mem_nil

/-- An instruction leaves its task in form. -/
theorem TailOf.next {rest : List (Instr V)} (h_tail : TailOf t (i :: rest))
    (h : exec hub t ch i c = some e) : TailOf t (e.next ++ rest) := by
  have h_next := exec_next_plain h
  have h_plain : (∀ j ∈ i :: rest, j.plain) → ∀ j ∈ e.next ++ rest, j.plain := by
    intro h j hj
    rcases List.mem_append.mp hj with hj | hj
    · exact h_next j hj
    · exact h j (List.mem_cons_of_mem _ hj)
  cases t with
  -- only a supervisor has an end that the invariant describes
  | consumer id => exact h_plain h_tail
  | environment => exact h_plain h_tail
  | supervisor token =>
    change Tail token (e.next ++ rest)
    generalize h_l : i :: rest = l at h_tail
    cases h_tail with
    | left _ h_left =>
      subst h_l
      refine Tail.left _ fun j hj => ?_
      rcases List.mem_append.mp hj with hj | hj
      · -- after the token is dropped nothing plain follows but `ensure_supervisors`
        have h_i := h_left i List.mem_cons_self
        have h_succ := exec_successors h j hj
        revert h_i h_succ
        cases i.point <;> simp +contextual [Point.successors]
      · exact h_left j (List.mem_cons_of_mem _ hj)
    | leaving =>
      -- the receiver goes first, then the token
      obtain ⟨rfl, rfl⟩ := List.cons.inj h_l
      rw [exec_drop_next h fun h_i => h_i.2 rfl]
      exact Tail.left _ fun j hj => by
        obtain rfl := List.mem_singleton.mp hj
        exact List.mem_cons_self
    | running body h_body =>
      cases body with
      | nil =>
        obtain ⟨rfl, rfl⟩ := List.cons.inj h_l
        rw [exec_drop_next h fun h_i => h_i.1 rfl]
        exact Tail.leaving
      -- the body shrinks from its front, and nothing plain is put behind it
      | cons j body =>
        obtain ⟨rfl, h_rest⟩ := List.cons.inj h_l
        rw [h_rest]
        change Tail token (e.next ++ (body ++ _))
        rw [← List.append_assoc]
        exact Tail.running _ fun k hk => (List.mem_append.mp hk).elim (h_next k)
          fun hk => h_body k (List.mem_cons_of_mem _ hk)

/-- A supervisor starts in form. -/
theorem Tail.code (token : Token) : Tail token (supervisorCode (V := V) token) := by
  unfold supervisorCode
  split
  · exact Tail.running [.prepare .shared] (by simp [Instr.plain, Instr.point])
  · next id _ => exact Tail.running [.readCause id] (by simp [Instr.plain, Instr.point])

/-- The drop of a token is followed by nothing but `ensure_supervisors`. -/
theorem Tail.dropToken {token token' : Token} {rest : List (Instr V)}
    (h : Tail token (.dropToken token' :: rest)) : rest = [.ensureSupervisors] := by
  generalize h_l : Instr.dropToken token' :: rest = l at h
  cases h with
  -- a supervisor that has left drops nothing more
  | left _ h =>
    exact absurd rfl (Instr.plain_of_left
      (h (.dropToken token') (by rw [← h_l]; exact List.mem_cons_self))).2
  -- the supervisor is leaving, and the drop is all but the last
  | leaving => exact (List.cons.inj h_l).2
  -- in the body of a supervisor nothing is dropped
  | running body h_body =>
    cases body with
    | nil => exact absurd (List.cons.inj h_l).1 (by simp)
    | cons j body =>
      exact absurd rfl ((List.cons.inj h_l).1 ▸ h_body j List.mem_cons_self).2

/-- A supervisor that executes still has its token to drop. -/
theorem Tail.executing {token : Token} {l : List (Instr V)} (h : Tail token l)
    (h_mem : Instr.dropReceiver token ∈ l) : Instr.dropToken token ∈ l := by
  cases h with
  | left _ h => exact absurd rfl (Instr.plain_of_left (h _ h_mem)).1
  | leaving => exact List.mem_cons_self
  | running body h_body => exact List.mem_append_right _ (by simp)

/-- Nothing but `ensure_supervisors` is left to a supervisor that does not execute. -/
theorem Tail.executing_of_mem {token : Token} {l : List (Instr V)} (h : Tail token l) (hi : i ∈ l)
    (h_i : i.point ∉ [.dropToken, .ensureSupervisors, .spawnSupervisor]) :
    Instr.dropReceiver token ∈ l := by
  cases h with
  | left _ h => exact absurd (List.mem_cons_of_mem _ (h i hi)) h_i
  -- leaving: the receiver is gone already
  | leaving =>
    rcases List.mem_cons.mp hi with rfl | hi
    · exact absurd List.mem_cons_self h_i
    · obtain rfl := List.mem_singleton.mp hi
      exact absurd (List.mem_cons_of_mem _ List.mem_cons_self) h_i
  | running body h_body => exact List.mem_append_right _ List.mem_cons_self

/-- Once the receiver is dropped, it is gone. -/
theorem Tail.dropReceiver {token token' : Token} {rest : List (Instr V)}
    (h : Tail token (.dropReceiver token' :: rest)) :
    token' = token ∧ rest = [.dropToken token, .ensureSupervisors] := by
  generalize h_l : Instr.dropReceiver token' :: rest = l at h
  cases h with
  -- a supervisor that has left drops nothing more
  | left _ h =>
    exact absurd rfl (Instr.plain_of_left
      (h (.dropReceiver token') (by rw [← h_l]; exact List.mem_cons_self))).1
  | leaving => cases h_l
  | running body h_body =>
    cases body with
    -- the body is over, and the receiver is dropped
    | nil =>
      obtain ⟨h_eq, h_rest⟩ := List.cons.inj h_l
      exact ⟨Instr.dropReceiver.inj h_eq, h_rest⟩
    | cons j body =>
      exact absurd rfl ((List.cons.inj h_l).1 ▸ h_body j List.mem_cons_self).1

/-! ### Starting supervisors -/

/-- The token a pending instruction is about to start a supervisor for. -/
def Instr.spawns : Instr V → Option Token
  | .spawnSupervisor token => some token
  | _ => none

/-- The only instruction that starts a supervisor. -/
theorem Instr.eq_spawnSupervisor {token : Token} (h : i.spawns = some token) :
    i = .spawnSupervisor token := by
  cases i with
  | spawnSupervisor token' => obtain rfl := Option.some.inj h; rfl
  | _ => cases h

/-- The only instruction of its kind. -/
theorem Instr.eq_ensureSupervisors (h : i.point = .ensureSupervisors) :
    i = .ensureSupervisors := by
  cases i <;> first | rfl | cases h

/-- Only `ensure_supervisors` decides to start supervisors. -/
theorem exec_next_spawn (h : exec hub t ch i c = some e) {token : Token}
    (hj : .spawnSupervisor token ∈ e.next) : i = .ensureSupervisors ∧
      token ∈ (c.store.state.ensureSupervisors c.store.alive c.store.serial).2 := by
  -- only `ensure_supervisors` starts supervisors
  have h_point : i.point = .ensureSupervisors := by
    have h_succ := exec_successors h _ hj
    change Point.spawnSupervisor ∈ i.point.successors at h_succ
    revert h_succ
    cases i.point <;> decide
  obtain rfl := Instr.eq_ensureSupervisors h_point
  obtain rfl := Option.some.inj h
  obtain ⟨token', h_mem, h_eq⟩ := List.mem_map.mp hj
  obtain rfl := Instr.spawnSupervisor.inj h_eq
  exact ⟨rfl, h_mem⟩

namespace HubState

variable (s : HubState V) (alive : List Token) (serial : ℕ)

/-- The supervisors that are started: the shared one, and those of isolated slots without one. -/
theorem mem_starts {token : Token} : token ∈ (s.ensureSupervisors alive serial).2 ↔
    (s.sharedLacksSupervisor alive = true ∧ token = ⟨serial, .shared⟩) ∨
    ∃ id e, id < s.nextId ∧ s.slots id = some e ∧ lacksSupervisor alive e = true ∧
      token = ⟨serial, .isolated id⟩ := by
  change token ∈ (if s.sharedLacksSupervisor alive then [(⟨serial, .shared⟩ : Token)] else []) ++
    (s.ids.filter fun id => (s.slots id).any (lacksSupervisor alive)).map
      (fun id => (⟨serial, .isolated id⟩ : Token)) ↔ _
  rw [List.mem_append, List.mem_map]
  refine or_congr ?_ ?_
  · -- the shared connection lacks its supervisor, or not
    split
    · next h => simp [h]
    · next h => simp [h]
  · -- a slot that moved lacks its own
    constructor
    · rintro ⟨id, h_id, rfl⟩
      obtain ⟨h_ids, h_lacks⟩ := List.mem_filter.mp h_id
      obtain ⟨e, h_e, h_lacks⟩ := (Option.any_eq_true _ _).mp h_lacks
      exact ⟨id, e, (s.mem_ids.mp h_ids).1, h_e, h_lacks, rfl⟩
    · rintro ⟨id, e, h_lt, h_e, h_lacks, rfl⟩
      refine ⟨id, List.mem_filter.mpr ⟨s.mem_ids.mpr ⟨h_lt, e, h_e⟩, ?_⟩, rfl⟩
      exact (Option.any_eq_true _ _).mpr ⟨e, h_e, h_lacks⟩

/-- They all have the next serial. -/
theorem serial_of_mem_starts {token : Token}
    (h : token ∈ (s.ensureSupervisors alive serial).2) : token.serial = serial := by
  rcases (s.mem_starts alive serial).mp h with ⟨-, rfl⟩ | ⟨id, e, -, -, -, rfl⟩ <;> rfl

/-- No two of them are the same. -/
theorem starts_nodup : (s.ensureSupervisors alive serial).2.Nodup := by
  change ((if s.sharedLacksSupervisor alive then [(⟨serial, .shared⟩ : Token)] else []) ++
    (s.ids.filter fun id => (s.slots id).any (lacksSupervisor alive)).map
      (fun id => (⟨serial, .isolated id⟩ : Token))).Nodup
  refine List.Nodup.append ?_ (List.Nodup.map ?_ ?_) ?_
  · -- one token at most for the shared connection
    split
    · exact List.nodup_singleton _
    · exact List.nodup_nil
  · -- tokens of different slots are different
    intro id id' h
    exact Scope.isolated.inj (Token.mk.inj h).2
  · exact (List.nodup_range.filter _).filter _
  · -- and none of them is that of the shared connection
    intro token h h'
    obtain ⟨id, -, rfl⟩ := List.mem_map.mp h'
    split at h
    · exact Scope.noConfusion (Token.mk.inj (List.mem_singleton.mp h)).2
    · exact List.not_mem_nil h

end HubState

/-! ### The life of a token -/

/-- **Tokens.** A live token has one pending `spawnSupervisor` or, later, its
drop ahead of it; tokens that are not created yet occur nowhere. -/
structure Tokens (c : Config V) : Prop where
  tail : ∀ t, TailOf t (c.todo t)
  linear : Linear Instr.spawns c
  pending : ∀ t token, Instr.spawnSupervisor token ∈ c.todo t →
    token ∈ c.store.alive ∧ c.todo (.supervisor token) = []
  running : ∀ token, Instr.dropToken token ∈ c.todo (.supervisor token) → token ∈ c.store.alive
  alive : ∀ token ∈ c.store.alive, (∃ t, Instr.spawnSupervisor token ∈ c.todo t) ∨
    Instr.dropToken token ∈ c.todo (.supervisor token)
  nodup : c.store.alive.Nodup
  fresh : ∀ token, c.store.serial ≤ token.serial →
    token ∉ c.store.alive ∧ c.todo (.supervisor token) = []

namespace Tokens

/-- At the start there is no token. -/
theorem initial : Tokens (initialConfig V) where
  tail := TailOf.nil
  linear := ⟨fun _ _ _ _ _ h => absurd h List.not_mem_nil, fun _ => List.nodup_nil⟩
  pending _ _ h := absurd h List.not_mem_nil
  running _ h := absurd h List.not_mem_nil
  alive _ h := absurd h List.not_mem_nil
  nodup := List.nodup_nil
  fresh _ _ := ⟨List.not_mem_nil, rfl⟩

/-- While supervisors are started once only, a pending instruction stays until
it runs. -/
theorem keep (h_tok : Tokens c) (h : (hubProgram hub).step c a = some c') {j : Instr V}
    (hj : j ∈ c.todo t) : j ∈ c'.todo t ∨ ∃ ch rest, a = .run t ch ∧ c.todo t = j :: rest := by
  rcases mem_todo_step_of_mem h hj with h_mem | h_run | ⟨t', token, rest, h_todo, rfl⟩
  · exact Or.inl h_mem
  · exact Or.inr h_run
  · have h_nil := (h_tok.pending t' token (by rw [h_todo]; exact List.mem_cons_self)).2
    rw [h_nil] at hj
    exact absurd hj List.not_mem_nil

/-- The list of a supervisor that did not start yet stays empty until it starts. -/
theorem todo_nil {token : Token} (h : (hubProgram hub).step c a = some c')
    (h_nil : c.todo (.supervisor token) = [])
    (h_spawn : ∀ t ch rest, a = .run t ch → c.todo t ≠ .spawnSupervisor token :: rest) :
    c'.todo (.supervisor token) = [] := by
  refine List.eq_nil_iff_forall_not_mem.mpr fun j hj => ?_
  -- the task had nothing, so that only a new supervisor could have
  rcases mem_todo_step h hj with hj | ⟨ch, i, rest, e, -, h_todo, -⟩ | ⟨r, e, -, he, -⟩ |
    ⟨t', ch, token', rest, ha, h_todo, h_eq, -⟩
  · rw [h_nil] at hj
    exact List.not_mem_nil hj
  · rw [h_nil] at h_todo
    cases h_todo
  · exact absurd (accept_frame he).2.1 (by simp [Task.scope])
  · obtain rfl := Task.supervisor.inj h_eq
    exact h_spawn t' ch rest ha h_todo

/-- A pending start was pending before, or was just decided. -/
theorem spawn_origin {token : Token} (h : (hubProgram hub).step c a = some c')
    (hj : Instr.spawnSupervisor token ∈ c'.todo t) : Instr.spawnSupervisor token ∈ c.todo t ∨
      ∃ ch rest, a = .run t ch ∧ c.todo t = .ensureSupervisors :: rest ∧
        token ∈ (c.store.state.ensureSupervisors c.store.alive c.store.serial).2 := by
  rcases origin_step h hj rfl with hj | ⟨ch, i, rest, e, ha, h_todo, he, hj⟩
  · exact Or.inl hj
  · obtain ⟨rfl, h_mem⟩ := exec_next_spawn he hj
    exact Or.inr ⟨ch, rest, ha, h_todo, h_mem⟩

/-- A pending drop of a token was pending before, or its supervisor just started. -/
theorem drop_origin {token : Token} (h : (hubProgram hub).step c a = some c')
    (hj : Instr.dropToken token ∈ c'.todo (.supervisor token)) :
    Instr.dropToken token ∈ c.todo (.supervisor token) ∨
      ∃ t ch rest, a = .run t ch ∧ c.todo t = .spawnSupervisor token :: rest := by
  rcases mem_todo_step h hj with hj | ⟨ch, i, rest, e, ha, h_todo, he, hj⟩ | ⟨r, e, -, he, hj⟩ |
    ⟨t', ch, token', rest, ha, h_todo, h_eq, -⟩
  · exact Or.inl hj
  · exact absurd rfl (exec_next_plain he _ hj).2
  · exact absurd rfl (accept_next_plain he _ hj).2
  · obtain rfl := Task.supervisor.inj h_eq
    exact Or.inr ⟨t', ch, rest, ha, h_todo⟩

/-- One step keeps all tasks in form. -/
theorem step_tail (h_tok : Tokens c) (h : (hubProgram hub).step c a = some c') :
    ∀ t, TailOf t (c'.todo t) := by
  refine Program.todo_of_step h h_tok.tail ?_ ?_
  · -- the instruction is replaced by others that drop nothing
    intro t ch i rest e _ h_todo he
    refine ⟨TailOf.next (by rw [← h_todo]; exact h_tok.tail t) he, ?_⟩
    intro t' is h_sp _
    obtain ⟨token, -, rfl, rfl⟩ := exec_spawned he h_sp
    exact Tail.code token
  · -- a request adds none either
    intro r t e _ he _
    refine ⟨TailOf.of_plain (accept_frame he).2.1 (accept_next_plain he), fun t' is h_sp => ?_⟩
    rw [(accept_frame he).1] at h_sp
    cases h_sp

/-- A token is started at most once. -/
theorem step_linear (h_tok : Tokens c) (h : (hubProgram hub).step c a = some c') :
    Linear Instr.spawns c' := by
  refine h_tok.linear.step h ?_ ?_
  · intro t ch i rest e h_todo he
    -- a start comes from `ensure_supervisors` alone
    have h_new : ∀ j ∈ e.next, ∀ token, j.spawns = some token → i = .ensureSupervisors ∧
        token ∈ (c.store.state.ensureSupervisors c.store.alive c.store.serial).2 := by
      intro j hj token h_j
      rw [Instr.eq_spawnSupervisor h_j] at hj
      exact exec_next_spawn he hj
    -- its starts have distinct tokens
    refine ⟨?_, fun j hj token h_j => Or.inr ?_, fun t' is h_sp j hj => ?_⟩
    · by_cases h_i : i = .ensureSupervisors
      · subst h_i
        obtain rfl := Option.some.inj he
        change (((c.store.state.ensureSupervisors c.store.alive c.store.serial).2.map
          Instr.spawnSupervisor).filterMap Instr.spawns).Nodup
        rw [List.filterMap_map]
        change (List.filterMap (fun token => some token) _).Nodup
        rw [List.filterMap_some]
        exact c.store.state.starts_nodup _ _
      · rw [List.filterMap_eq_nil_iff.mpr fun j hj => ?_]
        · exact List.nodup_nil
        · cases h_j : j.spawns with
          | none => rfl
          | some token => exact absurd (h_new j hj token h_j).1 h_i
    · -- a token that was just made has no pending start, for that would be alive
      obtain ⟨-, h_mem⟩ := h_new j hj token h_j
      intro t' j' hj' h_j'
      rw [Instr.eq_spawnSupervisor h_j'] at hj'
      have h_serial := HubState.serial_of_mem_starts _ _ _ h_mem
      exact (h_tok.fresh token (Nat.le_of_eq h_serial.symm)).1 (h_tok.pending t' token hj').1
    · -- a new supervisor starts nobody
      obtain ⟨token, -, rfl, rfl⟩ := exec_spawned he h_sp
      unfold supervisorCode at hj
      split at hj
      all_goals
        rcases List.mem_cons.mp hj with rfl | hj
        · rfl
        · simp only [List.mem_cons, List.not_mem_nil, or_false] at hj
          rcases hj with rfl | rfl | rfl <;> rfl
  · -- neither does a request
    intro r t e he
    obtain ⟨h_sp, -, -, -, -, -, -, -, -, -, h_next⟩ := accept_frame he
    refine ⟨fun j hj => ?_, fun t' is h_is => ?_⟩
    · cases h_j : j.spawns with
      | none => rfl
      | some token =>
        rw [Instr.eq_spawnSupervisor h_j] at hj
        exact absurd (h_next _ hj) (by simp [Instr.point])
    · rw [h_sp] at h_is
      cases h_is

/-- **How the tokens move.** -/
theorem cases_of_step (h : (hubProgram hub).step c a = some c') :
    (∃ t ch rest, a = .run t ch ∧ c.todo t = .ensureSupervisors :: rest ∧
      c'.store.alive = c.store.alive ++
        (c.store.state.ensureSupervisors c.store.alive c.store.serial).2 ∧
      c'.store.serial = c.store.serial + 1 ∧
      c'.todo t = (c.store.state.ensureSupervisors c.store.alive c.store.serial).2.map
        .spawnSupervisor ++ rest) ∨
    (∃ t ch token rest, a = .run t ch ∧ c.todo t = .dropToken token :: rest ∧
      c'.store.alive = c.store.alive.erase token ∧ c'.store.serial = c.store.serial ∧
      c'.todo t = rest) ∨
    (c'.store.alive = c.store.alive ∧ c'.store.serial = c.store.serial ∧
      (∀ t ch rest, a = .run t ch → c.todo t ≠ .ensureSupervisors :: rest) ∧
      ∀ t ch token rest, a = .run t ch → c.todo t ≠ .dropToken token :: rest) := by
  rcases Program.step_cases h with ⟨t, ch, i, rest, e, rfl, h_todo, he, rfl⟩ |
    ⟨r, t, e, rfl, he, h_todo, rfl⟩
  · by_cases h_ensure : i.point = .ensureSupervisors
    · obtain rfl := Instr.eq_ensureSupervisors h_ensure
      -- the two instructions that touch tokens, and then the rest
      obtain rfl := Option.some.inj he
      exact Or.inl ⟨t, ch, rest, rfl, h_todo, rfl, rfl, resume_todo_self ..⟩
    · by_cases h_drop : i.point = .dropToken
      · cases i with
        | dropToken token =>
          obtain rfl := Option.some.inj he
          exact Or.inr (Or.inl ⟨t, ch, token, rest, rfl, h_todo, rfl, rfl, resume_todo_self ..⟩)
        | _ => cases h_drop
      · obtain ⟨h_alive, h_serial⟩ := (exec_leavesAlone he).tokens (by simp [h_ensure, h_drop])
        -- neither of the two that move tokens ran
        refine Or.inr (Or.inr ⟨h_alive, h_serial, ?_, ?_⟩)
        · rintro t' ch' rest' ha h_eq
          obtain ⟨rfl, rfl⟩ := Action.run.inj ha
          exact h_ensure (by rw [(List.cons.inj (h_todo.symm.trans h_eq)).1]; rfl)
        · rintro t' ch' token rest' ha h_eq
          obtain ⟨rfl, rfl⟩ := Action.run.inj ha
          exact h_drop (by rw [(List.cons.inj (h_todo.symm.trans h_eq)).1]; rfl)
  · -- a request touches none
    obtain ⟨-, -, h_alive, h_serial, -⟩ := accept_frame he
    exact Or.inr (Or.inr ⟨h_alive, h_serial, nofun, nofun⟩)

/-- Whoever has its token to drop after a step had a live one before. -/
theorem started (h_tok : Tokens c) (h : (hubProgram hub).step c a = some c') {token : Token}
    (hj : Instr.dropToken token ∈ c'.todo (.supervisor token)) : token ∈ c.store.alive := by
  rcases drop_origin h hj with h_old | ⟨t, ch, rest, -, h_todo⟩
  · exact h_tok.running token h_old
  · exact (h_tok.pending t token (by rw [h_todo]; exact List.mem_cons_self)).1

/-- `ensure_supervisors` creates fresh tokens and the starts that belong to them. -/
theorem step_ensure (h_tok : Tokens c) {rest : List (Instr V)}
    (h : (hubProgram hub).step c (.run t ch) = some c')
    (h_todo : c.todo t = .ensureSupervisors :: rest)
    (h_alive : c'.store.alive = c.store.alive ++
      (c.store.state.ensureSupervisors c.store.alive c.store.serial).2)
    (h_serial : c'.store.serial = c.store.serial + 1)
    (h_todo' : c'.todo t = (c.store.state.ensureSupervisors c.store.alive c.store.serial).2.map
      .spawnSupervisor ++ rest) : Tokens c' := by
  -- the step that runs is no start of a supervisor
  have h_ran : ∀ token t' ch' rest',
      (.run t ch : Action Task Choice (Request V)) = .run t' ch' →
      c.todo t' ≠ .spawnSupervisor token :: rest' := by
    rintro token t' ch' rest' ha h_eq
    obtain ⟨rfl, rfl⟩ := Action.run.inj ha
    cases h_todo.symm.trans h_eq
  -- the new tokens have serials not used before
  have h_new : ∀ token ∈ (c.store.state.ensureSupervisors c.store.alive c.store.serial).2,
      c.store.serial ≤ token.serial := fun token h_mem =>
    Nat.le_of_eq (HubState.serial_of_mem_starts _ _ _ h_mem).symm
  refine ⟨h_tok.step_tail h, h_tok.step_linear h, fun t' token hj => ?_, fun token hj => ?_,
    fun token h_mem => ?_, ?_, fun token h_le => ?_⟩
  · -- the starts that are pending: old ones, or those that this step left
    rcases spawn_origin h hj with h_old | ⟨ch', rest', ha, -, h_mem⟩
    · obtain ⟨h_mem, h_nil⟩ := h_tok.pending t' token h_old
      exact ⟨by rw [h_alive]; exact List.mem_append_left _ h_mem, todo_nil h h_nil (h_ran token)⟩
    · exact ⟨by rw [h_alive]; exact List.mem_append_right _ h_mem,
        todo_nil h (h_tok.fresh token (h_new token h_mem)).2 (h_ran token)⟩
  · rw [h_alive]
    exact List.mem_append_left _ (h_tok.started h hj)
  · -- tokens that live: old ones, or the new ones, which are about to be started
    rw [h_alive] at h_mem
    rcases List.mem_append.mp h_mem with h_mem | h_mem
    · rcases h_tok.alive token h_mem with ⟨t', hj⟩ | hj
      · rcases h_tok.keep h hj with hj | ⟨ch', rest', ha, h_eq⟩
        · exact Or.inl ⟨t', hj⟩
        · exact absurd h_eq (h_ran token t' ch' rest' ha)
      · rcases h_tok.keep h hj with hj | ⟨ch', rest', ha, h_eq⟩
        · exact Or.inr hj
        · obtain ⟨rfl, rfl⟩ := Action.run.inj ha
          cases h_todo.symm.trans h_eq
    · exact Or.inl ⟨t, by
        rw [h_todo']
        exact List.mem_append_left _ (List.mem_map.mpr ⟨token, h_mem, rfl⟩)⟩
  · -- new serials are above all that are in use
    rw [h_alive]
    refine List.Nodup.append h_tok.nodup (HubState.starts_nodup _ _ _) fun token h_old h_mem => ?_
    exact (h_tok.fresh token (h_new token h_mem)).1 h_old
  · -- a serial that is still to come is neither alive nor at work
    rw [h_serial] at h_le
    obtain ⟨h_not, h_nil⟩ := h_tok.fresh token (Nat.le_of_succ_le h_le)
    refine ⟨fun h_mem => ?_, todo_nil h h_nil (h_ran token)⟩
    rw [h_alive] at h_mem
    rcases List.mem_append.mp h_mem with h_mem | h_mem
    · exact h_not h_mem
    · rw [HubState.serial_of_mem_starts _ _ _ h_mem] at h_le
      exact Nat.not_succ_le_self _ h_le

/-- The drop of a token is the last trace of it. -/
theorem step_drop (h_tok : Tokens c) {token : Token} {rest : List (Instr V)}
    (h : (hubProgram hub).step c (.run (.supervisor token) ch) = some c')
    (h_todo : c.todo (.supervisor token) = .dropToken token :: rest)
    (h_alive : c'.store.alive = c.store.alive.erase token)
    (h_serial : c'.store.serial = c.store.serial)
    (h_todo' : c'.todo (.supervisor token) = rest) : Tokens c' := by
  have h_rest : rest = [.ensureSupervisors] := by
    have h_tail := h_tok.tail (.supervisor token)
    rw [h_todo] at h_tail
    exact Tail.dropToken h_tail
  subst h_rest
  -- nor is this step one
  have h_ran : ∀ token' t' ch' rest',
      (.run (.supervisor token) ch : Action Task Choice (Request V)) = .run t' ch' →
      c.todo t' ≠ .spawnSupervisor token' :: rest' := by
    rintro token' t' ch' rest' ha h_eq
    obtain ⟨rfl, rfl⟩ := Action.run.inj ha
    cases h_todo.symm.trans h_eq
  -- the token of this supervisor is taken out, and no other
  have h_erase : ∀ token', token' ∈ c'.store.alive ↔ token' ≠ token ∧ token' ∈ c.store.alive := by
    intro token'
    rw [h_alive]
    exact h_tok.nodup.mem_erase_iff
  refine ⟨h_tok.step_tail h, h_tok.step_linear h, fun t' token' hj => ?_, fun token' hj => ?_,
    fun token' h_mem => ?_, ?_, fun token' h_le => ?_⟩
  · -- a token that is about to be started is not the one that is dropped
    rcases spawn_origin h hj with h_old | ⟨ch', rest', ha, h_eq, -⟩
    · obtain ⟨h_mem, h_nil⟩ := h_tok.pending t' token' h_old
      refine ⟨(h_erase token').mpr ⟨?_, h_mem⟩, todo_nil h h_nil (h_ran token')⟩
      rintro rfl
      rw [h_nil] at h_todo
      cases h_todo
    · obtain ⟨rfl, rfl⟩ := Action.run.inj ha
      cases h_todo.symm.trans h_eq
  · -- a supervisor at work is not the one that dropped its token
    refine (h_erase token').mpr ⟨?_, h_tok.started h hj⟩
    rintro rfl
    rw [h_todo'] at hj
    simp at hj
  · -- no other token was dropped
    obtain ⟨h_ne, h_mem⟩ := (h_erase token').mp h_mem
    rcases h_tok.alive token' h_mem with ⟨t', hj⟩ | hj
    · rcases h_tok.keep h hj with hj | ⟨ch', rest', ha, h_eq⟩
      · exact Or.inl ⟨t', hj⟩
      · exact absurd h_eq (h_ran token' t' ch' rest' ha)
    · rcases h_tok.keep h hj with hj | ⟨ch', rest', ha, h_eq⟩
      · exact Or.inr hj
      · obtain ⟨h_eq', rfl⟩ := Action.run.inj ha
        exact absurd (Task.supervisor.inj h_eq').symm h_ne
  · rw [h_alive]
    exact h_tok.nodup.erase token
  · -- serials that are still to come stay so
    rw [h_serial] at h_le
    obtain ⟨h_not, h_nil⟩ := h_tok.fresh token' h_le
    exact ⟨fun h_mem => h_not ((h_erase token').mp h_mem).2, todo_nil h h_nil (h_ran token')⟩

/-- The start of a supervisor leaves the drop of its token ahead of it. -/
theorem drop_of_spawn (h_tok : Tokens c) {token : Token} {rest : List (Instr V)}
    (h : (hubProgram hub).step c (.run t ch) = some c')
    (h_todo : c.todo t = .spawnSupervisor token :: rest) :
    c'.todo t = rest ∧ c'.todo (.supervisor token) = supervisorCode token := by
  -- the supervisor that starts has no code yet
  have h_nil := (h_tok.pending t token (by rw [h_todo]; exact List.mem_cons_self)).2
  rcases Program.step_cases h with ⟨t₁, ch₁, i₁, rest₁, e₁, ha, h_todo₁, he, rfl⟩ |
    ⟨r, t₁, e₁, ha, -⟩
  -- the step runs this instruction
  · obtain ⟨rfl, rfl⟩ := Action.run.inj ha
    obtain ⟨rfl, rfl⟩ := List.cons.inj (h_todo.symm.trans h_todo₁)
    obtain rfl := Option.some.inj he
    refine ⟨resume_todo_self .., resume_todo_spawned c t rest _ ?_ rfl⟩
    rintro rfl
    rw [h_nil] at h_todo
    cases h_todo
  · cases ha

/-- A start that is still pending after a step is not the one that ran. -/
theorem unspawned (h_tok : Tokens c) {token : Token} {rest : List (Instr V)} {t' : Task}
    (h : (hubProgram hub).step c (.run t' ch) = some c')
    (h_old : Instr.spawnSupervisor token ∈ c.todo t)
    (h_new : Instr.spawnSupervisor token ∈ c'.todo t) :
    c.todo t' ≠ .spawnSupervisor token :: rest := by
  intro h_todo
  obtain rfl : t = t' := h_tok.linear.exclusive t t' _ _ token h_old
    (by rw [h_todo]; exact List.mem_cons_self) rfl rfl
  rw [(h_tok.drop_of_spawn h h_todo).1] at h_new
  have h_nodup := h_tok.linear.nodup t
  rw [h_todo, List.filterMap_cons] at h_nodup
  exact (List.nodup_cons.mp h_nodup).1 (List.mem_filterMap.mpr ⟨_, h_new, rfl⟩)

/-- Every other step leaves the tokens alone. -/
theorem step_other (h_tok : Tokens c) (h : (hubProgram hub).step c a = some c')
    (h_alive : c'.store.alive = c.store.alive) (h_serial : c'.store.serial = c.store.serial)
    (h_ensure : ∀ t ch rest, a = .run t ch → c.todo t ≠ .ensureSupervisors :: rest)
    (h_drop : ∀ t ch token rest, a = .run t ch → c.todo t ≠ .dropToken token :: rest) :
    Tokens c' := by
  refine ⟨h_tok.step_tail h, h_tok.step_linear h, fun t token hj => ?_, fun token hj => ?_,
    fun token h_mem => ?_, ?_, fun token h_le => ?_⟩
  · -- pending starts: this step adds none, and runs one of them at most
    rcases spawn_origin h hj with h_old | ⟨ch, rest, ha, h_todo, -⟩
    · obtain ⟨h_mem, h_nil⟩ := h_tok.pending t token h_old
      refine ⟨by rw [h_alive]; exact h_mem, todo_nil h h_nil ?_⟩
      rintro t' ch rest rfl
      exact h_tok.unspawned h h_old hj
    · exact absurd h_todo (h_ensure t ch rest ha)
  -- what has a token before keeps it
  · rw [h_alive]
    exact h_tok.started h hj
  · -- a living token whose start runs is at work from now on
    rw [h_alive] at h_mem
    rcases h_tok.alive token h_mem with ⟨t, hj⟩ | hj
    · rcases h_tok.keep h hj with hj | ⟨ch, rest, rfl, h_todo⟩
      · exact Or.inl ⟨t, hj⟩
      · refine Or.inr ?_
        rw [(h_tok.drop_of_spawn h h_todo).2]
        unfold supervisorCode
        exact List.mem_cons_of_mem _ (List.mem_cons_of_mem _ List.mem_cons_self)
    · rcases h_tok.keep h hj with hj | ⟨ch, rest, ha, h_todo⟩
      · exact Or.inr hj
      · exact absurd h_todo (h_drop _ ch token rest ha)
  -- no token appears twice
  · rw [h_alive]
    exact h_tok.nodup
  -- no token is as young as the next serial
  · rw [h_serial] at h_le
    obtain ⟨h_not, h_nil⟩ := h_tok.fresh token h_le
    refine ⟨by rw [h_alive]; exact h_not, todo_nil h h_nil fun t ch rest _ h_todo => ?_⟩
    exact h_not (h_tok.pending t token (by rw [h_todo]; exact List.mem_cons_self)).1

/-- **Tokens are preserved.** -/
theorem step (h_tok : Tokens c) (h_own : Owned c) (h : (hubProgram hub).step c a = some c') :
    Tokens c' := by
  rcases cases_of_step h with ⟨t, ch, rest, rfl, h_todo, h_alive, h_serial, h_todo'⟩ |
    ⟨t, ch, token, rest, rfl, h_todo, h_alive, h_serial, h_todo'⟩ |
    ⟨h_alive, h_serial, h_ensure, h_drop⟩
  · -- `ensure_supervisors` hands out tokens
    exact h_tok.step_ensure h h_todo h_alive h_serial h_todo'
  · -- a supervisor drops its own
    obtain rfl : t = .supervisor token := h_own t (.dropToken token)
      (by rw [h_todo]; exact List.mem_cons_self)
    exact h_tok.step_drop h h_todo h_alive h_serial h_todo'
  · exact h_tok.step_other h h_alive h_serial h_ensure h_drop

end Tokens

/-! ### The receivers of the watch channel -/

/-- **Listening.** The receivers are those of the executing supervisors. -/
structure Listening (c : Config V) : Prop where
  iff : ∀ token, token ∈ c.store.receivers ↔ Executing c token
  nodup : c.store.receivers.Nodup

namespace Listening

/-- At the start nobody listens. -/
theorem initial : Listening (initialConfig V) :=
  ⟨fun _ => ⟨fun h => absurd h List.not_mem_nil, fun h => absurd h List.not_mem_nil⟩,
    List.nodup_nil⟩

/-- A supervisor that executes after a step did before, or just started. -/
theorem executing_origin {token : Token} (h : (hubProgram hub).step c a = some c')
    (h_exec : Executing c' token) :
    Executing c token ∨ ∃ t, Runs c a t (.spawnSupervisor token) := by
  rcases mem_todo_step h h_exec with hj | ⟨ch, i, rest, e, ha, h_todo, he, hj⟩ | ⟨r, e, -, he, hj⟩ |
    ⟨t', ch, token', rest, ha, h_todo, h_eq, -⟩
  · exact Or.inl hj
  · exact absurd rfl (exec_next_plain he _ hj).1
  · exact absurd rfl (accept_next_plain he _ hj).1
  · obtain rfl := Task.supervisor.inj h_eq
    exact Or.inr ⟨t', ch, rest, ha, h_todo⟩

/-- The receivers change when a supervisor starts and when it returns. -/
theorem receivers_step (h : (hubProgram hub).step c a = some c') :
    (∃ t token, Runs c a t (.spawnSupervisor token) ∧
      c'.store.receivers = token :: c.store.receivers) ∨
    (∃ t token, Runs c a t (.dropReceiver token) ∧
      c'.store.receivers = c.store.receivers.erase token) ∨
    (c'.store.receivers = c.store.receivers ∧ (∀ t token, ¬ Runs c a t (.spawnSupervisor token)) ∧
      ∀ t token, ¬ Runs c a t (.dropReceiver token)) := by
  rcases Program.step_cases h with ⟨t, ch, i, rest, e, rfl, h_todo, he, rfl⟩ |
    ⟨r, t, e, rfl, he, h_todo, rfl⟩
  · -- an instruction
    have h_runs : Runs c (.run t ch) t i := ⟨ch, rest, rfl, h_todo⟩
    by_cases h_i : i.point ∈ [.spawnSupervisor, .dropReceiver]
    · cases i with
      | spawnSupervisor token =>
        obtain rfl := Option.some.inj he
        exact Or.inl ⟨t, token, h_runs, rfl⟩
      | dropReceiver token =>
        obtain rfl := Option.some.inj he
        exact Or.inr (Or.inl ⟨t, token, h_runs, rfl⟩)
      | _ => simp [Instr.point] at h_i
    · refine Or.inr (Or.inr ⟨(exec_leavesAlone he).receivers h_i, fun t' token h' => h_i ?_,
        fun t' token h' => h_i ?_⟩)
      · rw [← (h_runs.unique h').2]
        exact List.mem_cons_self
      · rw [← (h_runs.unique h').2]
        exact List.mem_cons_of_mem _ List.mem_cons_self
  · -- a request subscribes nobody
    obtain ⟨-, -, -, -, h_receivers, -⟩ := accept_frame he
    refine Or.inr (Or.inr ⟨h_receivers, ?_, ?_⟩)
    · rintro t' token ⟨ch, rest, ha, -⟩
      cases ha
    · rintro t' token ⟨ch, rest, ha, -⟩
      cases ha

/-- **The receivers stay those of the executing supervisors.** -/
theorem step (h_lis : Listening c) (h_tok : Tokens c) (h_own : Owned c)
    (h : (hubProgram hub).step c a = some c') : Listening c' := by
  -- a supervisor executes on unless it is the one that drops its receiver
  have h_keep : ∀ token, Executing c token →
      (∀ t, ¬ Runs c a t (.dropReceiver token)) → Executing c' token := by
    intro token h_exec h_not
    rcases h_tok.keep h h_exec with hj | ⟨ch, rest, ha, h_todo⟩
    · exact hj
    · exact absurd ⟨ch, rest, ha, h_todo⟩ (h_not _)
  rcases receivers_step h with ⟨t, token, h_runs, h_recv⟩ | ⟨t, token, h_runs, h_recv⟩ |
    ⟨h_recv, h_spawn, h_drop⟩
  · obtain ⟨ch, rest, rfl, h_todo⟩ := h_runs
    have h_mem : Instr.spawnSupervisor token ∈ c.todo t := by
      rw [h_todo]
      exact List.mem_cons_self
    -- a supervisor that starts holds a receiver, and drops it at the end of its code
    have h_code := (h_tok.drop_of_spawn h h_todo).2
    have h_exec : Executing c' token := by
      rw [Executing, h_code]
      unfold supervisorCode
      exact List.mem_cons_of_mem _ List.mem_cons_self
    have h_not : ¬ Executing c token := fun h_exec => by
      rw [Executing, (h_tok.pending t token h_mem).2] at h_exec
      exact List.not_mem_nil h_exec
    refine ⟨fun token' => ?_, ?_⟩
    · rw [h_recv, List.mem_cons]
      constructor
      · -- the receivers are the old ones and the new one
        rintro (rfl | h_mem')
        · exact h_exec
        · refine h_keep token' ((h_lis.iff token').mp h_mem') fun t' h' => ?_
          obtain ⟨-, h_eq⟩ := Runs.unique ⟨ch, rest, rfl, h_todo⟩ h'
          cases h_eq
      · -- a supervisor at work was there before, or it is the new one
        intro h_exec'
        rcases executing_origin h h_exec' with h_old | ⟨t', h'⟩
        · exact Or.inr ((h_lis.iff token').mpr h_old)
        · obtain ⟨-, h_eq⟩ := Runs.unique ⟨ch, rest, rfl, h_todo⟩ h'
          exact Or.inl (Instr.spawnSupervisor.inj h_eq)
    · rw [h_recv]
      exact List.nodup_cons.mpr ⟨fun h_mem' => h_not ((h_lis.iff token).mp h_mem'), h_lis.nodup⟩
  · -- the receiver that is dropped is its own, and its last but one instruction
    obtain ⟨ch, rest, e, rfl, h_todo, he, rfl⟩ := h_runs.exec h
    obtain rfl := Option.some.inj he
    obtain rfl : t = .supervisor token := h_own t (.dropReceiver token)
      (by rw [h_todo]; exact List.mem_cons_self)
    have h_tail := h_tok.tail (.supervisor token)
    rw [h_todo] at h_tail
    obtain ⟨-, rfl⟩ := Tail.dropReceiver h_tail
    refine ⟨fun token' => ?_, by rw [h_recv]; exact h_lis.nodup.erase token⟩
    rw [h_recv, h_lis.nodup.mem_erase_iff]
    constructor
    · -- whoever still has a receiver works on
      rintro ⟨h_ne, h_mem⟩
      refine h_keep token' ((h_lis.iff token').mp h_mem) fun t' h' => h_ne ?_
      obtain ⟨-, h_eq⟩ := Runs.unique ⟨ch, _, rfl, h_todo⟩ h'
      exact Instr.dropReceiver.inj h_eq
    · intro h_exec'
      -- the one that dropped its receiver is past its work
      refine ⟨?_, ?_⟩
      · rintro rfl
        rw [Executing, resume_todo_self] at h_exec'
        simp at h_exec'
      · rcases executing_origin h h_exec' with h_old | ⟨t', h'⟩
        · exact (h_lis.iff token').mpr h_old
        · obtain ⟨-, h_eq⟩ := Runs.unique ⟨ch, _, rfl, h_todo⟩ h'
          cases h_eq
  · -- neither: the receivers and the supervisors at work stay
    refine ⟨fun token => ?_, by rw [h_recv]; exact h_lis.nodup⟩
    rw [h_recv, h_lis.iff token]
    constructor
    · exact fun h_exec => h_keep token h_exec fun t => h_drop t token
    · intro h_exec
      rcases executing_origin h h_exec with h_old | ⟨t, h'⟩
      · exact h_old
      · exact absurd h' (h_spawn t token)

end Listening

end Blokli
