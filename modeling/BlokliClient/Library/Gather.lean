import Mathlib.Data.List.Perm.Basic

/-!
# Gathering answers, some at a time

Tasks are started in their order, at most `limit` of them run at once, and a running task
may finish at any time, with a result or with an error. The first error ends everything:
what runs is dropped, and what waits is not started.

* `Gathering.run` : in every run each task waits, runs or has its result, exactly once.
* `length_le` and `exists_finish` : a run ends, whatever finishes when, and until it ends
  something can be done.
* `outcome_ok` and `outcome_error` : how it ends. With all results, when no task fails,
  and with the error of a task that fails otherwise.
-/

namespace Gather

variable {ι α ε : Type*}

/-- The tasks that wait and that run, the results in the order in which they came, and
the error that ended it. -/
structure State (ι α ε : Type*) where
  waiting : List ι
  running : List ι
  results : List (ι × α)
  failure : Option ε

/-- The next task starts, or a running one finishes. -/
inductive Choice (ι : Type*)
  | start
  | finish (i : ι)

def begin (tasks : List ι) : State ι α ε := ⟨tasks, [], [], none⟩

namespace State

variable (s : State ι α ε)

/-- Nothing waits and nothing runs. -/
def Finished : Prop := s.waiting = [] ∧ s.running = []

/-- What has been gathered, or the error. -/
def outcome : Except ε (List (ι × α)) :=
  match s.failure with
  | none => .ok s.results
  | some e => .error e

/-- The number of choices that are left. -/
def remaining : ℕ := 2 * s.waiting.length + s.running.length

end State

variable [DecidableEq ι] (limit : ℕ) (answer : ι → Except ε α)

/-- The next task starts, when fewer than `limit` run. -/
def State.start (s : State ι α ε) : Option (State ι α ε) :=
  match s.waiting with
  | [] => none
  | i :: rest =>
    if s.running.length < limit then some { s with waiting := rest, running := i :: s.running }
    else none

/-- A running task finishes. -/
def State.finish (s : State ι α ε) (i : ι) : Option (State ι α ε) :=
  if i ∈ s.running then
    match answer i with
    | .ok a => some { s with running := s.running.erase i, results := s.results ++ [(i, a)] }
    | .error e => some { s with waiting := [], running := [], failure := some e }
  else none

def step (s : State ι α ε) : Choice ι → Option (State ι α ε)
  | .start => s.start limit
  | .finish i => s.finish answer i

/-- Some choices, one after the other. -/
def run (s : State ι α ε) : List (Choice ι) → Option (State ι α ε)
  | [] => some s
  | c :: cs => (step limit answer s c).bind fun s' => run s' cs

/-! ### What a step does -/

section Step

variable {limit : ℕ} {answer : ι → Except ε α} {s s' : State ι α ε} {tasks : List ι}

/-- A task starts while there is room. -/
theorem step_start (h : step limit answer s .start = some s') :
    ∃ i rest, s.waiting = i :: rest ∧ s.running.length < limit ∧
      s' = { s with waiting := rest, running := i :: s.running } := by
  -- a start takes the first that waits, if there is room
  change s.start limit = some s' at h
  unfold State.start at h
  split at h
  · cases h
  · next i rest h_waiting =>
    split at h
    · next h_free => exact ⟨i, rest, h_waiting, h_free, (Option.some.inj h).symm⟩
    · cases h

/-- A task finishes with its answer. -/
theorem step_finish {i : ι} (h : step limit answer s (.finish i) = some s') :
    i ∈ s.running ∧
      ((∃ a, answer i = .ok a ∧
        s' = { s with running := s.running.erase i, results := s.results ++ [(i, a)] }) ∨
      ∃ e, answer i = .error e ∧
        s' = { s with waiting := [], running := [], failure := some e }) := by
  change s.finish answer i = some s' at h
  unfold State.finish at h
  split at h
  -- a finish takes one that runs
  · next h_mem =>
    refine ⟨h_mem, ?_⟩
    split at h
    · next a h_ok => exact Or.inl ⟨a, h_ok, (Option.some.inj h).symm⟩
    · next e h_error => exact Or.inr ⟨e, h_error, (Option.some.inj h).symm⟩
  · cases h

/-- **Where the tasks are.** Each task waits, runs or has its result, unless an error has
ended it, which is then the error of a task. -/
structure Gathering (limit : ℕ) (answer : ι → Except ε α) (tasks : List ι) (s : State ι α ε) :
    Prop where
  running : s.running.length ≤ limit
  results : ∀ i a, (i, a) ∈ s.results → answer i = .ok a
  once : s.failure = none → (s.waiting ++ s.running ++ s.results.map Prod.fst).Perm tasks
  waiting : ∀ i ∈ s.waiting ++ s.running, i ∈ tasks
  failure : ∀ e, s.failure = some e → s.Finished ∧ ∃ i ∈ tasks, answer i = .error e

omit [DecidableEq ι] in
theorem Gathering.begin : Gathering limit answer tasks (begin tasks) where
  running := Nat.zero_le limit
  results _ _ h := absurd h List.not_mem_nil
  once _ := by
    change (tasks ++ [] ++ []).Perm tasks
    rw [List.append_nil, List.append_nil]
  waiting i h := by
    change i ∈ tasks ++ [] at h
    rwa [List.append_nil] at h
  failure e h := (by cases h)

/-- One step keeps the account of the tasks. -/
theorem Gathering.step (h : Gathering limit answer tasks s) {c : Choice ι}
    (h_step : step limit answer s c = some s') : Gathering limit answer tasks s' := by
  cases c with
  | start =>
    obtain ⟨i, rest, h_waiting, h_free, rfl⟩ := step_start h_step
    -- a task that waits moves to the ones that run
    have h_moved : (rest ++ i :: s.running).Perm (s.waiting ++ s.running) := by
      rw [h_waiting]
      exact List.perm_middle
    exact {
      running := h_free
      -- nothing finished
      results := h.results
      once := fun h_none => (h_moved.append_right _).trans (h.once h_none)
      waiting := fun j h_j => h.waiting j (h_moved.subset h_j)
      failure := fun e h_e => by
        obtain ⟨⟨h_nil, -⟩, -⟩ := h.failure e h_e
        rw [h_waiting] at h_nil
        cases h_nil }
  | finish i =>
    obtain ⟨h_mem, ⟨a, h_ok, rfl⟩ | ⟨e, h_error, rfl⟩⟩ := step_finish h_step
    · -- the task succeeds: its result is added to those of before
      have h_none : s.failure = none := by
        rw [Option.eq_none_iff_forall_ne_some]
        intro e h_e
        obtain ⟨⟨-, h_nil⟩, -⟩ := h.failure e h_e
        rw [h_nil] at h_mem
        exact List.not_mem_nil h_mem
      have h_erased : (i :: s.running.erase i).Perm s.running := (List.perm_cons_erase h_mem).symm
      exact {
        running := Nat.le_trans List.length_erase_le h.running
        results := fun j b h_j => by
          rcases List.mem_append.mp h_j with h_j | h_j
          · exact h.results j b h_j
          · obtain ⟨rfl, rfl⟩ := Prod.mk.inj (List.mem_singleton.mp h_j)
            exact h_ok
        once := fun _ => by
          refine List.Perm.trans ?_ (h.once h_none)
          change (s.waiting ++ s.running.erase i ++ (s.results ++ [(i, a)]).map Prod.fst).Perm _
          rw [List.map_append, List.append_assoc, List.append_assoc]
          refine List.Perm.append_left _ ?_
          calc (s.running.erase i ++ (s.results.map Prod.fst ++ [i])).Perm
                (s.running.erase i ++ (i :: s.results.map Prod.fst)) :=
                List.Perm.append_left _ (List.perm_append_singleton i _)
            List.Perm _ (i :: s.running.erase i ++ s.results.map Prod.fst) := List.perm_middle
            List.Perm _ (s.running ++ s.results.map Prod.fst) := h_erased.append_right _
        waiting := fun j h_j => by
          refine h.waiting j ?_
          rcases List.mem_append.mp h_j with h_j | h_j
          · exact List.mem_append_left _ h_j
          · exact List.mem_append_right _ (List.mem_of_mem_erase h_j)
        failure := fun e h_e => by
          rw [show s.failure = some e from h_e] at h_none
          cases h_none }
    · -- the first failure drops everything else
      exact {
        running := Nat.zero_le limit
        results := h.results
        once := fun h_none => by cases h_none
        waiting := fun j h_j => absurd h_j List.not_mem_nil
        failure := fun e' h_e => by
          obtain rfl : e = e' := Option.some.inj h_e
          exact ⟨⟨rfl, rfl⟩, i, h.waiting i (List.mem_append_right _ h_mem), h_error⟩ }

/-- The account along a run. -/
theorem Gathering.run (h : Gathering limit answer tasks s) {cs : List (Choice ι)}
    (h_run : run limit answer s cs = some s') : Gathering limit answer tasks s' := by
  induction cs generalizing s with
  | nil =>
    obtain rfl := Option.some.inj h_run
    exact h
  | cons c cs ih =>
    -- step by step
    obtain ⟨s₁, h_step, h_rest⟩ := Option.bind_eq_some_iff.mp h_run
    exact ih (h.step h_step) h_rest

/-! ### A run ends -/

theorem remaining_step {c : Choice ι} (h : Gather.step limit answer s c = some s') :
    s'.remaining < s.remaining := by
  -- a start moves a task one state further, a finish takes one out
  cases c with
  | start =>
    obtain ⟨i, rest, h_waiting, -, rfl⟩ := step_start h
    unfold State.remaining
    -- from two steps left to one
    rw [h_waiting]
    dsimp only [List.length_cons]
    omega
  | finish i =>
    obtain ⟨h_mem, ⟨a, -, rfl⟩ | ⟨e, -, rfl⟩⟩ := step_finish h
    -- the finished task had one step left
    · have h_length := List.length_erase_of_mem h_mem
      have h_pos := List.length_pos_of_mem h_mem
      unfold State.remaining
      dsimp only
      omega
    · have h_pos := List.length_pos_of_mem h_mem
      unfold State.remaining
      dsimp only [List.length_nil]
      omega

theorem remaining_run {cs : List (Choice ι)} (h : Gather.run limit answer s cs = some s') :
    cs.length + s'.remaining ≤ s.remaining := by
  induction cs generalizing s with
  | nil =>
    obtain rfl := Option.some.inj h
    exact Nat.le_of_eq (Nat.zero_add _)
  | cons c cs ih =>
    obtain ⟨s₁, h_step, h_rest⟩ := Option.bind_eq_some_iff.mp h
    have h_first := remaining_step h_step
    have h_tail := ih h_rest
    rw [List.length_cons]
    omega

/-- **A run ends**: it has at most two choices for each task. -/
theorem length_le {cs : List (Choice ι)} (h : Gather.run limit answer (begin tasks) cs = some s') :
    cs.length ≤ 2 * tasks.length := by
  have h_le := remaining_run h
  have h_begin : (Gather.begin tasks : State ι α ε).remaining = 2 * tasks.length := rfl
  omega

/-- Until it ends something can be done. -/
theorem exists_step (h_limit : 0 < limit) (h : ¬s.Finished) :
    ∃ c s', Gather.step limit answer s c = some s' := by
  cases h_running : s.running with
  | cons i running =>
    -- a task runs: it can finish
    refine ⟨.finish i, ?_⟩
    have h_mem : i ∈ s.running := by
      rw [h_running]
      exact List.mem_cons_self
    change ∃ s', s.finish answer i = some s'
    unfold State.finish
    rw [if_pos h_mem]
    cases answer i with
    | ok a => exact ⟨_, rfl⟩
    | error e => exact ⟨_, rfl⟩
  | nil =>
    cases h_waiting : s.waiting with
    | nil => exact absurd ⟨h_waiting, h_running⟩ h
    -- none runs: the first that waits can start
    | cons i rest =>
      refine ⟨.start, { s with waiting := rest, running := i :: s.running }, ?_⟩
      have h_free : s.running.length < limit := by
        rw [h_running]
        exact h_limit
      change s.start limit = _
      unfold State.start
      rw [h_waiting]
      exact if_pos h_free

/-- **Every state can be left until it ends.** -/
theorem exists_finish (h_limit : 0 < limit) (answer : ι → Except ε α) (s : State ι α ε) :
    ∃ cs s', Gather.run limit answer s cs = some s' ∧ s'.Finished := by
  -- the induction is on the number of steps left
  induction h_remaining : s.remaining using Nat.strongRecOn generalizing s with
  | ind n ih =>
    by_cases h_finished : s.Finished
    · exact ⟨[], s, rfl, h_finished⟩
    · obtain ⟨c, s₁, h_step⟩ : ∃ c s₁, Gather.step limit answer s c = some s₁ :=
        exists_step h_limit h_finished
      -- every step brings the end nearer
      have h_less := remaining_step h_step
      obtain ⟨cs, s', h_run, h_end⟩ := ih _ (by omega) s₁ rfl
      exact ⟨c :: cs, s', Option.bind_eq_some_iff.mpr ⟨s₁, h_step, h_run⟩, h_end⟩

/-! ### How it ends -/

omit [DecidableEq ι] in
/-- **With all results.** Each task has its own, once. -/
theorem Gathering.outcome_ok (h : Gathering limit answer tasks s) (h_finished : s.Finished)
    {results : List (ι × α)} (h_outcome : s.outcome = .ok results) :
    (results.map Prod.fst).Perm tasks ∧ ∀ i a, (i, a) ∈ results → answer i = .ok a := by
  unfold State.outcome at h_outcome
  split at h_outcome
  · next h_none =>
    obtain rfl := Except.ok.inj h_outcome
    refine ⟨?_, h.results⟩
    -- no task waits or runs, so that all have results
    have h_tasks := h.once h_none
    rw [h_finished.1, h_finished.2] at h_tasks
    exact h_tasks
  · cases h_outcome

omit [DecidableEq ι] in
/-- **With an error**, which is that of a task. -/
theorem Gathering.outcome_error (h : Gathering limit answer tasks s) {e : ε}
    (h_outcome : s.outcome = .error e) : ∃ i ∈ tasks, answer i = .error e := by
  unfold State.outcome at h_outcome
  split at h_outcome
  · cases h_outcome
  · next e' h_failure =>
    obtain rfl := Except.error.inj h_outcome
    exact (h.failure _ h_failure).2

end Step

end Gather
