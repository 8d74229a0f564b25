import Mathlib.Logic.Function.Basic
import Mathlib.Data.List.Nodup

/-!
# Interleaved tasks with explicit to-do lists

A concurrent program is modelled by its *tasks*. The local state of a task is
the list of instructions it still has to run (its locals are the arguments of
those instructions), all tasks share one store, and a step of the system runs
the first instruction of one task. What an instruction does is an `Effect`: a
new store, the instructions that replace it, and possibly a task it spawns.
Whatever happens between two instructions of one task is therefore a step of
some other task, so the granularity of the interleaving is the granularity of
the instructions.

* `Program` gives the meaning of instructions and of the requests that put an
  idle task to work; `Program.step` is the resulting transition function.
* `Program.Reachable` restricts the runs to those whose steps all satisfy a
  guard; the unrestricted runs are `Reachable` at `anyStep`.
* `Reachable.induct` is the invariant rule of whole configurations.
  `todo_of_step` is the rule of invariants of the to-do lists, and
  `forall_todo_of_step` the rule of invariants that say something of every
  pending instruction (stability of the old ones, validity of the new ones).
  `forall_tail_of_step` is that of the instructions which only ever stand first.
* `Linear` says that a resource is held by at most one pending instruction, and
  `Exclusive` that all its holders belong to one task. Both survive a step that
  hands resources on or creates fresh ones, and `Linear.consumed` is the rule of
  a step that gives one up.
* `Program.run` runs a list of actions, and `Reachable.run` turns such an
  execution into reachability; `runWithin` does so for restricted runs.
-/

namespace Worklist

variable {Task Choice Request Instr Store : Type}

/-- The shared store and the pending instructions of every task. -/
structure Config (Task Instr Store : Type) where
  store : Store
  todo : Task → List Instr

/-- No task but the listed ones has anything to do. -/
def Within (tasks : List Task) (c : Config Task Instr Store) : Prop :=
  ∀ t, t ∉ tasks → c.todo t = []

/-- What one instruction does: the store it leaves, the instructions that take
its place, and the task it starts, if any. -/
structure Effect (Task Instr Store : Type) where
  store : Store
  next : List Instr
  spawned : Option (Task × List Instr) := none

/-- The meaning of instructions (`exec`) and of requests from outside
(`accept`). Both may be blocked, which is `none`. -/
structure Program (Task Choice Request Instr Store : Type) where
  exec : Task → Choice → Instr → Config Task Instr Store → Option (Effect Task Instr Store)
  accept : Request → Config Task Instr Store → Option (Task × Effect Task Instr Store)

/-- One step of the system: a task runs its next instruction, the environment
having resolved its choice, or an idle task accepts a request. -/
inductive Action (Task Choice Request : Type)
  | run (task : Task) (choice : Choice)
  | request (req : Request)

section Resume

variable [DecidableEq Task]

/-- The configuration after task `t` ran an instruction with effect `e` in
front of `rest`. -/
def Config.resume (c : Config Task Instr Store) (t : Task) (rest : List Instr)
    (e : Effect Task Instr Store) : Config Task Instr Store where
  store := e.store
  todo := Function.update
    (match e.spawned with
      | none => c.todo
      | some (t', is) => Function.update c.todo t' is) t (e.next ++ rest)

variable (c : Config Task Instr Store) (t : Task) (rest : List Instr)
  (e : Effect Task Instr Store)

/-- A step leaves the store of the effect. -/
@[simp] theorem resume_store : (c.resume t rest e).store = e.store := rfl

/-- The task goes on with what the effect adds. -/
@[simp] theorem resume_todo_self : (c.resume t rest e).todo t = e.next ++ rest :=
  Function.update_self ..

/-- Other tasks go on as before. -/
theorem resume_todo_of_ne {t' : Task} (h : t' ≠ t) (h_sp : e.spawned = none) :
    (c.resume t rest e).todo t' = c.todo t' := by
  unfold Config.resume
  rw [h_sp]
  exact Function.update_of_ne h ..

/-- A task that is started has its instructions. -/
theorem resume_todo_spawned {t' : Task} {is : List Instr} (h : t' ≠ t)
    (h_sp : e.spawned = some (t', is)) : (c.resume t rest e).todo t' = is := by
  unfold Config.resume
  rw [h_sp]
  exact (Function.update_of_ne h ..).trans (Function.update_self ..)

/-- The other tasks go on as before. -/
theorem resume_todo_of_ne_spawned {t' t'' : Task} {is : List Instr} (h : t'' ≠ t)
    (h_sp : e.spawned = some (t', is)) (h' : t'' ≠ t') :
    (c.resume t rest e).todo t'' = c.todo t'' := by
  unfold Config.resume
  rw [h_sp]
  exact (Function.update_of_ne h ..).trans (Function.update_of_ne h' ..)

/-- Where the pending instructions of a resumed configuration come from. -/
theorem mem_resume_todo {t' : Task} {i : Instr} (h : i ∈ (c.resume t rest e).todo t') :
    (t' = t ∧ (i ∈ e.next ∨ i ∈ rest)) ∨
      (t' ≠ t ∧ ((∃ is, e.spawned = some (t', is) ∧ i ∈ is) ∨ i ∈ c.todo t')) := by
  -- the task that ran
  by_cases ht : t' = t
  · subst ht
    rw [resume_todo_self] at h
    exact Or.inl ⟨rfl, List.mem_append.mp h⟩
  · refine Or.inr ⟨ht, ?_⟩
    -- a task that it started, or another one
    cases h_sp : e.spawned with
    | none => rw [resume_todo_of_ne c t rest e ht h_sp] at h; exact Or.inr h
    | some p =>
      obtain ⟨t'', is⟩ := p
      by_cases ht' : t' = t''
      · subst ht'
        rw [resume_todo_spawned c t rest e ht h_sp] at h
        exact Or.inl ⟨is, rfl, h⟩
      · rw [resume_todo_of_ne_spawned c t rest e ht h_sp ht'] at h
        exact Or.inr h

end Resume

namespace Program

variable [DecidableEq Task] (P : Program Task Choice Request Instr Store)

/-- The transition function. A request is accepted by an idle task only. -/
def step (c : Config Task Instr Store) :
    Action Task Choice Request → Option (Config Task Instr Store)
  | .run t ch =>
    match c.todo t with
    | [] => none
    | i :: rest => (P.exec t ch i c).map (c.resume t rest)
  | .request r =>
    match P.accept r c with
    | none => none
    | some (t, e) =>
      match c.todo t with
      | [] => some (c.resume t [] e)
      | _ :: _ => none

/-- Run a list of actions. -/
def run (c : Config Task Instr Store) :
    List (Action Task Choice Request) → Option (Config Task Instr Store)
  | [] => some c
  | a :: as => (P.step c a).bind fun c' => run c' as

variable {P} {c c' : Config Task Instr Store}

/-- **Step inversion.** A step is the first instruction of one task, or a
request to an idle one; either way one task resumes with an effect. -/
theorem step_cases {a : Action Task Choice Request} (h : P.step c a = some c') :
    (∃ t ch i rest e, a = .run t ch ∧ c.todo t = i :: rest ∧ P.exec t ch i c = some e ∧
      c' = c.resume t rest e) ∨
    (∃ r t e, a = .request r ∧ P.accept r c = some (t, e) ∧ c.todo t = [] ∧
      c' = c.resume t [] e) := by
  cases a with
  | run t ch =>
    change (match c.todo t with
      | [] => none
      | i :: rest => (P.exec t ch i c).map (c.resume t rest)) = some c' at h
    -- a task without instructions does not run
    split at h
    · exact absurd h (by simp)
    · next i rest h_todo =>
      obtain ⟨e, h_exec, rfl⟩ := Option.map_eq_some_iff.mp h
      exact Or.inl ⟨t, ch, i, rest, e, rfl, h_todo, h_exec, rfl⟩
  | request r =>
    change (match P.accept r c with
      | none => none
      | some (t, e) =>
        match c.todo t with
        | [] => some (c.resume t [] e)
        | _ :: _ => none) = some c' at h
    -- a request that is refused is no step
    split at h
    · exact absurd h (by simp)
    · next t e h_acc =>
      -- nor is one whose task is busy
      split at h
      · next h_todo => exact Or.inr ⟨r, t, e, rfl, h_acc, h_todo, (Option.some.inj h).symm⟩
      · exact absurd h (by simp)

/-- A task takes a step when its instruction can be executed. -/
theorem step_run {t : Task} {ch : Choice} {i : Instr} {rest : List Instr}
    {e : Effect Task Instr Store} (h_todo : c.todo t = i :: rest)
    (h_exec : P.exec t ch i c = some e) :
    P.step c (.run t ch) = some (c.resume t rest e) := by
  simp only [step, h_todo, h_exec, Option.map_some]

/-- A request is accepted by an idle task. -/
theorem step_request {r : Request} {t : Task} {e : Effect Task Instr Store}
    (h_acc : P.accept r c = some (t, e)) (h_todo : c.todo t = []) :
    P.step c (.request r) = some (c.resume t [] e) := by
  simp only [step, h_acc, h_todo]

/-- **The rule of pending instructions.** A property of every pending
instruction survives a step that leaves it stable for the old instructions and
establishes it for the new ones. -/
theorem forall_todo_of_step {Ok Ok' : Task → Instr → Prop} {a : Action Task Choice Request}
    (h : P.step c a = some c')
    (h_ok : ∀ t, ∀ i ∈ c.todo t, Ok t i)
    (h_stable : ∀ t i, i ∈ c.todo t → Ok t i → Ok' t i)
    (h_exec : ∀ t ch i rest e, a = .run t ch → c.todo t = i :: rest →
      P.exec t ch i c = some e →
      (∀ j ∈ e.next, Ok' t j) ∧ ∀ t' is, e.spawned = some (t', is) → ∀ j ∈ is, Ok' t' j)
    (h_acc : ∀ r t e, a = .request r → P.accept r c = some (t, e) →
      (∀ j ∈ e.next, Ok' t j) ∧ ∀ t' is, e.spawned = some (t', is) → ∀ j ∈ is, Ok' t' j) :
    ∀ t, ∀ i ∈ c'.todo t, Ok' t i := by
  intro t' j hj
  rcases step_cases h with ⟨t, ch, i, rest, e, ha, h_todo, he, rfl⟩ |
    ⟨r, t, e, ha, he, h_todo, rfl⟩
  · obtain ⟨h_next, h_sp⟩ := h_exec t ch i rest e ha h_todo he
    rcases mem_resume_todo c t rest e hj with
      ⟨rfl, hj | hj⟩ | ⟨-, ⟨is, h_is, hj⟩ | hj⟩
    · -- an instruction that was behind it
      exact h_next j hj
    · have h_mem : j ∈ c.todo t' := by rw [h_todo]; exact List.mem_cons_of_mem _ hj
      exact h_stable t' j h_mem (h_ok t' j h_mem)
    · -- the code of a new task
      exact h_sp t' is h_is j hj
    · -- another task's instruction
      exact h_stable t' j hj (h_ok t' j hj)
  · obtain ⟨h_next, h_sp⟩ := h_acc r t e ha he
    rcases mem_resume_todo c t [] e hj with
      ⟨rfl, hj | hj⟩ | ⟨-, ⟨is, h_is, hj⟩ | hj⟩
    · exact h_next j hj
    · exact absurd hj List.not_mem_nil
    · -- the code of a new task
      exact h_sp t' is h_is j hj
    · -- another task's instruction
      exact h_stable t' j hj (h_ok t' j hj)

/-- **The rule of to-do lists.** A property of every task's list survives a step
that establishes it for the list of the running task and of a task it starts. -/
theorem todo_of_step {motive : Task → List Instr → Prop} {a : Action Task Choice Request}
    (h : P.step c a = some c')
    (h_ok : ∀ t, motive t (c.todo t))
    (h_exec : ∀ t ch i rest e, a = .run t ch → c.todo t = i :: rest →
      P.exec t ch i c = some e →
      motive t (e.next ++ rest) ∧ ∀ t' is, e.spawned = some (t', is) → t' ≠ t → motive t' is)
    (h_acc : ∀ r t e, a = .request r → P.accept r c = some (t, e) → c.todo t = [] →
      motive t e.next ∧ ∀ t' is, e.spawned = some (t', is) → t' ≠ t → motive t' is) :
    ∀ t, motive t (c'.todo t) := by
  -- the running task, the task that it starts, and all others
  have h_resume : ∀ t rest e, motive t (e.next ++ rest) →
      (∀ t' is, e.spawned = some (t', is) → t' ≠ t → motive t' is) →
      ∀ t', motive t' ((c.resume t rest e).todo t') := by
    intro t rest e h_self h_sp t'
    by_cases ht : t' = t
    · subst ht
      rw [resume_todo_self]
      exact h_self
    · cases h_e : e.spawned with
      | none => rw [resume_todo_of_ne c t rest e ht h_e]; exact h_ok t'
      | some p =>
        obtain ⟨t'', is⟩ := p
        by_cases ht' : t' = t''
        · subst ht'
          rw [resume_todo_spawned c t rest e ht h_e]
          exact h_sp t' is h_e ht
        · rw [resume_todo_of_ne_spawned c t rest e ht h_e ht']
          exact h_ok t'
  rcases step_cases h with ⟨t, ch, i, rest, e, ha, h_todo, he, rfl⟩ |
    ⟨r, t, e, ha, he, h_todo, rfl⟩
  · obtain ⟨h_self, h_sp⟩ := h_exec t ch i rest e ha h_todo he
    exact h_resume t rest e h_self h_sp
  · obtain ⟨h_self, h_sp⟩ := h_acc r t e ha he h_todo
    exact h_resume t [] e (by rw [List.append_nil]; exact h_self) h_sp

/-- **The rule of what stands first.** What holds of every instruction behind the first of a
list survives a step that puts only such instructions behind its first. -/
theorem forall_tail_of_step {motive : Task → Instr → Prop} {a : Action Task Choice Request}
    (h : P.step c a = some c')
    (h_ok : ∀ t, ∀ i ∈ (c.todo t).tail, motive t i)
    (h_exec : ∀ t ch i rest e, a = .run t ch → c.todo t = i :: rest →
      P.exec t ch i c = some e → (∀ j ∈ e.next.tail, motive t j) ∧
        ∀ t' is, e.spawned = some (t', is) → ∀ j ∈ is.tail, motive t' j)
    (h_acc : ∀ r t e, a = .request r → P.accept r c = some (t, e) →
      (∀ j ∈ e.next.tail, motive t j) ∧
        ∀ t' is, e.spawned = some (t', is) → ∀ j ∈ is.tail, motive t' j) :
    ∀ t, ∀ i ∈ (c'.todo t).tail, motive t i := by
  refine todo_of_step (motive := fun t l => ∀ i ∈ l.tail, motive t i) h h_ok ?_ ?_
  · -- an instruction ran
    intro t ch i rest e ha h_todo he
    obtain ⟨h_next, h_sp⟩ := h_exec t ch i rest e ha h_todo he
    refine ⟨fun j hj => ?_, fun t' is h_is _ => h_sp t' is h_is⟩
    have h_rest : ∀ k ∈ rest, motive t k := fun k hk => h_ok t k (by rw [h_todo]; exact hk)
    cases h_cons : e.next with
    | nil =>
      rw [h_cons] at hj
      exact h_rest j (List.mem_of_mem_tail hj)
    | cons k ks =>
      -- behind the first of the new instructions, or behind the one that ran
      rw [h_cons] at hj
      rcases List.mem_append.mp hj with hj | hj
      · exact h_next j (by rw [h_cons]; exact hj)
      · exact h_rest j hj
  · -- a request came: everything but its first instruction is new
    intro r t e ha he _
    obtain ⟨h_next, h_sp⟩ := h_acc r t e ha he
    exact ⟨h_next, fun t' is h_is _ => h_sp t' is h_is⟩

variable (P)

/-- The configurations reached from `init` by steps that are all `Allowed`. -/
inductive Reachable (init : Config Task Instr Store)
    (Allowed : Config Task Instr Store → Action Task Choice Request → Prop) :
    Config Task Instr Store → Prop
  | init : Reachable init Allowed init
  | step {c c' : Config Task Instr Store} {a : Action Task Choice Request}
      (reached : Reachable init Allowed c) (allowed : Allowed c a)
      (fires : P.step c a = some c') : Reachable init Allowed c'

/-- No restriction on the steps of a run. -/
def anyStep (_ : Config Task Instr Store) (_ : Action Task Choice Request) : Prop := True

variable {P} {init : Config Task Instr Store}
  {Allowed Allowed' : Config Task Instr Store → Action Task Choice Request → Prop}

/-- **The invariant rule.** What holds initially and survives every allowed
step of a reachable configuration holds of every reachable configuration. -/
theorem Reachable.induct {motive : Config Task Instr Store → Prop} (h_init : motive init)
    (h_step : ∀ {c c' a}, P.Reachable init Allowed c → motive c → Allowed c a →
      P.step c a = some c' → motive c')
    (h : P.Reachable init Allowed c) : motive c := by
  induction h with
  | init => exact h_init
  | step reached allowed fires ih => exact h_step reached ih allowed fires

/-- Fewer restrictions reach more. -/
theorem Reachable.mono (h_le : ∀ c a, Allowed c a → Allowed' c a)
    (h : P.Reachable init Allowed c) : P.Reachable init Allowed' c := by
  induction h with
  | init => exact .init
  | step _ allowed fires ih => exact .step ih (h_le _ _ allowed) fires

/-- A restricted run is a run. -/
theorem Reachable.any (h : P.Reachable init Allowed c) : P.Reachable init anyStep c :=
  h.mono fun _ _ _ => trivial

/-- One run after another. -/
theorem Reachable.trans {c'' : Config Task Instr Store} (h : P.Reachable c Allowed c')
    (h' : P.Reachable c' Allowed c'') : P.Reachable c Allowed c'' := by
  induction h' with
  | init => exact h
  | step _ allowed fires ih => exact .step ih allowed fires

/-- A task runs its next instruction. -/
theorem Reachable.exec {t : Task} (ch : Choice) {i : Instr} {rest : List Instr}
    {e : Effect Task Instr Store} (h_todo : c.todo t = i :: rest)
    (h_exec : P.exec t ch i c = some e) (h_allowed : Allowed c (.run t ch)) :
    P.Reachable c Allowed (c.resume t rest e) :=
  .step .init h_allowed (step_run h_todo h_exec)

/-- An idle task serves a request. -/
theorem Reachable.serve {r : Request} {t : Task} {e : Effect Task Instr Store}
    (h_acc : P.accept r c = some (t, e)) (h_todo : c.todo t = [])
    (h_allowed : Allowed c (.request r)) : P.Reachable c Allowed (c.resume t [] e) :=
  .step .init h_allowed (step_request h_acc h_todo)

/-- An executed list of actions stays inside the unrestricted runs. -/
theorem Reachable.run {as : List (Action Task Choice Request)}
    (h : P.Reachable init anyStep c) (h_run : P.run c as = some c') :
    P.Reachable init anyStep c' := by
  induction as generalizing c with
  | nil => obtain rfl := Option.some.inj h_run; exact h
  | cons a as ih =>
    obtain ⟨c₁, h₁, h₂⟩ := Option.bind_eq_some_iff.mp h_run
    exact ih (.step h trivial h₁) h₂

variable (P) in
/-- The tasks whose lists a step may change. -/
def touches (c : Config Task Instr Store) : Action Task Choice Request → List Task
  | .run t ch =>
    match c.todo t with
    | [] => []
    | i :: _ => (P.exec t ch i c).elim [] fun e => t :: (e.spawned.map Prod.fst).toList
  | .request r => (P.accept r c).elim [] fun p => p.1 :: (p.2.spawned.map Prod.fst).toList

/-- The other tasks keep their lists. -/
theorem todo_of_not_touches {a : Action Task Choice Request} (h : P.step c a = some c') {t : Task}
    (h_t : t ∉ P.touches c a) : c'.todo t = c.todo t := by
  -- a task that is neither resumed nor started keeps its instructions
  have h_resume : ∀ t₀ rest e, t ∉ t₀ :: (e.spawned.map Prod.fst).toList →
      (c.resume t₀ rest e).todo t = c.todo t := by
    intro t₀ rest e h_t
    obtain ⟨h_ne, h_sp⟩ := not_or.mp (mt List.mem_cons.mpr h_t)
    cases h_e : e.spawned with
    | none => exact resume_todo_of_ne c t₀ rest e h_ne h_e
    | some p =>
      refine resume_todo_of_ne_spawned c t₀ rest e h_ne h_e fun h_eq => ?_
      rw [h_e, h_eq] at h_sp
      exact h_sp List.mem_cons_self
  rcases step_cases h with ⟨t₀, ch, i, rest, e, rfl, h_todo, he, rfl⟩ |
    ⟨r, t₀, e, rfl, he, h_todo, rfl⟩
  · refine h_resume t₀ rest e ?_
    simpa only [touches, h_todo, he, Option.elim_some] using h_t
  · refine h_resume t₀ [] e ?_
    simpa only [touches, he, Option.elim_some] using h_t

variable (P) in
/-- Run a list of actions as long as each passes a check and keeps to the listed tasks. -/
def runWithin (tasks : List Task)
    (check : Config Task Instr Store → Action Task Choice Request → Bool)
    (c : Config Task Instr Store) :
    List (Action Task Choice Request) → Option (Config Task Instr Store)
  | [] => some c
  | a :: as =>
    if (P.touches c a).all (fun t => decide (t ∈ tasks)) && check c a then
      (P.step c a).bind fun c' => runWithin tasks check c' as
    else none

/-- **Restricted executions.** A check that implies the restriction, as long as
the other tasks are idle, turns an execution into a restricted run. -/
theorem Reachable.runWithin {tasks : List Task}
    {check : Config Task Instr Store → Action Task Choice Request → Bool}
    (h_check : ∀ c a, Within tasks c → check c a = true → Allowed c a)
    {as : List (Action Task Choice Request)} (h : P.Reachable init Allowed c)
    (h_idle : Within tasks c) (h_run : P.runWithin tasks check c as = some c') :
    P.Reachable init Allowed c' ∧ Within tasks c' := by
  -- the induction is on the actions
  induction as generalizing c with
  | nil =>
    obtain rfl := Option.some.inj h_run
    exact ⟨h, h_idle⟩
  | cons a as ih =>
    unfold Program.runWithin at h_run
    -- the action touches the listed tasks only
    split at h_run
    · next h_ok =>
      obtain ⟨h_touch, h_ok⟩ := Bool.and_eq_true_iff.mp h_ok
      obtain ⟨c₁, h₁, h₂⟩ := Option.bind_eq_some_iff.mp h_run
      refine ih (.step h (h_check c a h_idle h_ok) h₁) (fun t h_t => ?_) h₂
      -- so that the others have nothing to do still
      refine (todo_of_not_touches h₁ fun h_mem => h_t ?_).trans (h_idle t h_t)
      exact of_decide_eq_true (List.all_eq_true.mp h_touch t h_mem)
    · cases h_run

end Program

/-! ### Resources held by pending instructions -/

section Resources

variable {R : Type} (held : Instr → Option R)

/-- The pending instructions that hold a resource all belong to one task. -/
def Exclusive (c : Config Task Instr Store) : Prop :=
  ∀ t t' i i' r, i ∈ c.todo t → i' ∈ c.todo t' → held i = some r → held i' = some r → t = t'

/-- No resource is held by two pending instructions. -/
structure Linear (c : Config Task Instr Store) : Prop where
  exclusive : Exclusive held c
  nodup : ∀ t, ((c.todo t).filterMap held).Nodup

/-- No pending instruction holds the resource. -/
def Unheld (c : Config Task Instr Store) (r : R) : Prop :=
  ∀ t, ∀ i ∈ c.todo t, held i ≠ some r

variable {held} [DecidableEq Task] {c c' : Config Task Instr Store}
  {P : Program Task Choice Request Instr Store} {a : Action Task Choice Request}

/-- **Exclusive resources.** A step keeps them exclusive when the new
instructions hold what the old one held, or what nobody held. -/
theorem Exclusive.step (h_ex : Exclusive held c) (h : P.step c a = some c')
    (h_exec : ∀ t ch i rest e, c.todo t = i :: rest → P.exec t ch i c = some e →
      (∀ j ∈ e.next, ∀ r, held j = some r → held i = some r ∨ Unheld held c r) ∧
      ∀ t' is, e.spawned = some (t', is) → ∀ j ∈ is, held j = none)
    (h_acc : ∀ r t e, P.accept r c = some (t, e) →
      (∀ j ∈ e.next, held j = none) ∧
      ∀ t' is, e.spawned = some (t', is) → ∀ j ∈ is, held j = none) :
    Exclusive held c' := by
  -- a holder is an old one, or belongs to the running task, which either held
  -- the resource before or found it unheld
  have h_origin : ∃ t₀, ∀ t i r, i ∈ c'.todo t → held i = some r → i ∈ c.todo t ∨
      (t = t₀ ∧ ((∃ j ∈ c.todo t₀, held j = some r) ∨ Unheld held c r)) := by
    rcases Program.step_cases h with ⟨t, ch, i, rest, e, -, h_todo, he, rfl⟩ |
      ⟨r, t, e, -, he, h_todo, rfl⟩
    · obtain ⟨h_next, h_sp⟩ := h_exec t ch i rest e h_todo he
      refine ⟨t, fun t' j r hj h_r => ?_⟩
      rcases mem_resume_todo c t rest e hj with ⟨rfl, hj | hj⟩ | ⟨-, ⟨is, h_is, hj⟩ | hj⟩
      · -- made by the instruction that ran, which held it or found it free
        refine Or.inr ⟨rfl, (h_next j hj r h_r).imp_left fun h_i => ⟨i, ?_, h_i⟩⟩
        rw [h_todo]
        exact List.mem_cons_self
      · -- behind that instruction
        exact Or.inl (by rw [h_todo]; exact List.mem_cons_of_mem _ hj)
      · -- new tasks hold nothing
        exact absurd (h_sp t' is h_is j hj) (by rw [h_r]; simp)
      · -- at another task
        exact Or.inl hj
    · obtain ⟨h_next, h_sp⟩ := h_acc r t e he
      refine ⟨t, fun t' j r hj h_r => Or.inl ?_⟩
      rcases mem_resume_todo c t [] e hj with ⟨rfl, hj | hj⟩ | ⟨-, ⟨is, h_is, hj⟩ | hj⟩
      · -- a request holds nothing at first
        exact absurd (h_next j hj) (by rw [h_r]; simp)
      · exact absurd hj List.not_mem_nil
      · exact absurd (h_sp t' is h_is j hj) (by rw [h_r]; simp)
      · exact hj
  obtain ⟨t₀, h_origin⟩ := h_origin
  intro t t' i i' r hi hi' h_i h_i'
  rcases h_origin t i r hi h_i with h_old | ⟨rfl, h_new⟩
  · rcases h_origin t' i' r hi' h_i' with h_old' | ⟨rfl, ⟨j, hj, h_j⟩ | h_u⟩
    · -- both are old
      exact h_ex t t' i i' r h_old h_old' h_i h_i'
    · -- the new one replaces an old one of its task
      exact h_ex t t' i j r h_old hj h_i h_j
    · -- the new one found the resource free, so there is no old one
      exact absurd h_i (h_u t i h_old)
  · rcases h_origin t' i' r hi' h_i' with h_old' | ⟨rfl, -⟩
    · rcases h_new with ⟨j, hj, h_j⟩ | h_u
      · exact h_ex t t' j i' r hj h_old' h_j h_i'
      · exact absurd h_i' (h_u t' i' h_old')
    · rfl

/-- **Linear resources.** A step keeps them linear when the new instructions
hold distinct resources, each of which the old one or nobody held. -/
theorem Linear.step (h_lin : Linear held c) (h : P.step c a = some c')
    (h_exec : ∀ t ch i rest e, c.todo t = i :: rest → P.exec t ch i c = some e →
      (e.next.filterMap held).Nodup ∧
      (∀ j ∈ e.next, ∀ r, held j = some r → held i = some r ∨ Unheld held c r) ∧
      ∀ t' is, e.spawned = some (t', is) → ∀ j ∈ is, held j = none)
    (h_acc : ∀ r t e, P.accept r c = some (t, e) →
      (∀ j ∈ e.next, held j = none) ∧
      ∀ t' is, e.spawned = some (t', is) → ∀ j ∈ is, held j = none) :
    Linear held c' := by
  refine ⟨h_lin.exclusive.step h (fun t ch i rest e h_todo he => (h_exec t ch i rest e h_todo he).2)
    h_acc, ?_⟩
  -- instructions that hold nothing, as those of requests and new tasks
  have h_none : ∀ is : List Instr, (∀ j ∈ is, held j = none) → (is.filterMap held).Nodup := by
    intro is h_is
    rw [List.filterMap_eq_nil_iff.mpr h_is]
    exact List.nodup_nil
  refine Program.todo_of_step (motive := fun _ l => (l.filterMap held).Nodup) h h_lin.nodup ?_ ?_
  · intro t ch i rest e _ h_todo he
    obtain ⟨h_nodup, h_next, h_sp⟩ := h_exec t ch i rest e h_todo he
    refine ⟨?_, fun t' is h_is _ => h_none is (h_sp t' is h_is)⟩
    have h_old := h_lin.nodup t
    rw [h_todo, List.filterMap_cons] at h_old
    rw [List.filterMap_append]
    refine List.Nodup.append h_nodup ?_ ?_
    · cases h_i : held i with
      | none => rw [h_i] at h_old; exact h_old
      | some r => rw [h_i] at h_old; exact (List.nodup_cons.mp h_old).2
    · -- the running task held it before, or nobody did
      intro r h_r h_rest
      obtain ⟨j, hj, h_j⟩ := List.mem_filterMap.mp h_r
      obtain ⟨k, hk, h_k⟩ := List.mem_filterMap.mp h_rest
      rcases h_next j hj r h_j with h_i | h_u
      · rw [h_i] at h_old
        exact (List.nodup_cons.mp h_old).1 h_rest
      · exact h_u t k (by rw [h_todo]; exact List.mem_cons_of_mem _ hk) h_k
  · intro r t e _ he _
    obtain ⟨h_next, h_sp⟩ := h_acc r t e he
    exact ⟨h_none e.next h_next, fun t' is h_is _ => h_none is (h_sp t' is h_is)⟩

/-- **A resource that is given up** is unheld: its one holder runs, and nothing that
takes its place holds the resource. -/
theorem Linear.consumed (h_lin : Linear held c) {t : Task} {i : Instr} {r : R}
    {rest : List Instr} {e : Effect Task Instr Store} (h_todo : c.todo t = i :: rest)
    (h_i : held i = some r) (h_next : ∀ j ∈ e.next, held j ≠ some r)
    (h_sp : ∀ t' is, e.spawned = some (t', is) → ∀ j ∈ is, held j = none) :
    Unheld held (c.resume t rest e) r := by
  have h_mem : i ∈ c.todo t := by
    rw [h_todo]
    exact List.mem_cons_self
  have h_nodup := h_lin.nodup t
  rw [h_todo, List.filterMap_cons, h_i] at h_nodup
  intro t' j hj h_j
  rcases mem_resume_todo c t rest e hj with ⟨rfl, hj | hj⟩ | ⟨h_t, ⟨is, h_is, hj⟩ | hj⟩
  · exact h_next j hj h_j
  · exact (List.nodup_cons.mp h_nodup).1 (List.mem_filterMap.mpr ⟨j, hj, h_j⟩)
  · rw [h_sp t' is h_is j hj] at h_j
    cases h_j
  · exact h_t (h_lin.exclusive t' t j i r hj h_mem h_j h_i)

end Resources

end Worklist
