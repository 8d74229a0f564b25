import BlokliClient.Testing.Client

/-!
# The lock of the in-memory client

Which guard a task holds can be read off its next instruction. The instructions of a
call are bracketed by the lock operations, and the lock knows the holders, so

* `Disciplined.no_reader` : while a task is about to publish for a transaction, no
  task holds the read lock.
-/

namespace Blokli.Testing

open Worklist

/-- The guard that a task holds. -/
inductive Held
  | none
  | read
  | write
  deriving DecidableEq

namespace Point

/-- The guard that the instruction runs under. -/
def before : Point → Held
  | .lockRead => .none
  | .unlockRead => .read
  | .lockWrite => .none
  | .unlockWrite => .write
  | .cloneAccounts _ => .read
  | .readInitial _ _ => .read
  | .activate snapshot => if snapshot.subscription.locked then .read else .none
  | .execute _ _ _ => .write
  | .publish _ (.transaction _) => .write
  | .publish _ .priceUpdate => .none
  | .insertActiveTx _ => .write
  | .updateTicketParameters _ _ => .write
  | .serve _ => .write
  | .hiddenUpdate _ => .write

/-- The guard right after the instruction. -/
def granted : Point → Held
  | .lockRead => .read
  | .unlockRead => .none
  | .lockWrite => .write
  | .unlockWrite => .none
  | i => i.before

/-- The guard once the instructions that replace this one are done. -/
def after : Point → Held
  | .cloneAccounts _ => .none
  | .readInitial _ _ => .none
  | .execute _ _ _ => .none
  | .updateTicketParameters _ _ => .none
  | i => i.granted

/-- What the instruction does to the lock. -/
def locks (t : Task) (lock : RwLock) : Point → RwLock
  | .lockRead => { lock with readers := t :: lock.readers }
  | .unlockRead => { lock with readers := lock.readers.erase t }
  | .lockWrite => { lock with writer := some t }
  | .unlockWrite => { lock with writer := none }
  | _ => lock

end Point

/-- The instructions take a task from one guard to the other. -/
def Leads : Held → List Point → Held → Prop
  | h, [], h' => h = h'
  | h, i :: is, h' => i.before = h ∧ Leads i.after is h'

/-- Two lists of instructions, one after the other. -/
theorem Leads.append {h h' h'' : Held} {is js : List Point} (h_is : Leads h is h')
    (h_js : Leads h' js h'') : Leads h (is ++ js) h'' := by
  induction is generalizing h with
  | nil =>
    obtain rfl : h = h' := h_is
    exact h_js
  | cons i is ih => exact ⟨h_is.1, ih h_is.2⟩

/-- The guard that a task holds before its next instruction. -/
def heldBy : List Point → Held
  | [] => .none
  | i :: _ => i.before

theorem Leads.heldBy {h : Held} {is : List Point} (h_is : Leads h is .none) :
    Testing.heldBy is = h := by
  cases is with
  | nil => exact h_is.symm
  | cons i is => exact h_is.1

/-- The publications of a transaction run under the write lock. -/
theorem leads_publish (events : List Event) (write : ℕ) :
    Leads .write (events.map fun event => Point.publish event (.transaction write)) .write := by
  induction events with
  | nil => rfl
  | cons event events ih => exact ⟨rfl, ih⟩

/-- What follows the execution of a transaction releases the write lock. -/
theorem leads_finish (client : TestClient) (result : Except ErrorKind (List Event))
    (submission : Submission) : Leads .write (submission.finish client result) .none := by
  cases submission with
  | transaction => exact ⟨rfl, rfl⟩
  | track txId txHash submittedAt => exact ⟨rfl, rfl, rfl⟩
  | confirm => exact ⟨rfl, rfl⟩

/-! ### What one instruction does to the lock -/

section Step

variable {t : Task} {ch : Unit} {i : Point} {c : Conf} {e : Worklist.Effect Task Point Store}

/-- **The lock of a step.** It is taken only when it is free. -/
theorem exec_lock (h : exec t ch i c = some e) :
    e.store.lock = i.locks t c.store.lock ∧ e.spawned = none ∧ Leads i.granted e.next i.after ∧
      (i = .lockRead → c.store.lock.writer = none) ∧
      (i = .lockWrite → c.store.lock.writer = none ∧ c.store.lock.readers = []) := by
  cases i with
  | lockRead =>
    simp only [exec] at h
    split at h
    · -- readers get in while nobody writes
      next h_free =>
      obtain rfl := Option.some.inj h
      exact ⟨rfl, rfl, rfl, fun _ => Option.isNone_iff_eq_none.mp h_free, fun h_i => (by cases h_i)⟩
    · cases h
  | lockWrite =>
    simp only [exec] at h
    split at h
    · -- a writer gets in alone
      next h_free =>
      obtain rfl := Option.some.inj h
      obtain ⟨h_writer, h_readers⟩ := Bool.and_eq_true_iff.mp h_free
      exact ⟨rfl, rfl, rfl, fun h_i => (by cases h_i), fun _ =>
        ⟨Option.isNone_iff_eq_none.mp h_writer, List.isEmpty_iff.mp h_readers⟩⟩
    · cases h
  | readInitial subscription accounts =>
    obtain rfl := Option.some.inj h
    refine ⟨rfl, rfl, ?_, fun h_i => (by cases h_i), fun h_i => (by cases h_i)⟩
    dsimp only
    -- what is activated holds the lock exactly if its method takes the locked path
    split
    · next h_locked =>
      have h_read : ∀ s : Snapshot, s.subscription = subscription →
          (Point.activate s).before = .read := by
        rintro s rfl
        exact if_pos h_locked
      exact ⟨h_read _ rfl, (h_read _ rfl).symm, rfl⟩
    · next h_locked =>
      have h_none : ∀ s : Snapshot, s.subscription = subscription →
          (Point.activate s).before = .none := by
        rintro s rfl
        exact if_neg h_locked
      exact ⟨rfl, h_none _ rfl, h_none _ rfl⟩
  -- a reverted transaction publishes nothing, and its tail releases the lock
  | execute client signedTx submission =>
    simp only [exec] at h
    split at h
    · obtain rfl := Option.some.inj h
      exact ⟨rfl, rfl, leads_finish client _ submission, fun h_i => (by cases h_i),
        fun h_i => (by cases h_i)⟩
    · -- publications are made under the write lock, which `finish` gives up
      next events _ _ =>
      obtain rfl := Option.some.inj h
      exact ⟨rfl, rfl, (leads_publish events _).append (leads_finish client _ submission),
        fun h_i => (by cases h_i), fun h_i => (by cases h_i)⟩
  -- an update publishes after it has released the lock
  | updateTicketParameters newPrice newWinProb =>
    obtain rfl := Option.some.inj h
    refine ⟨rfl, rfl, ⟨rfl, ?_⟩, fun h_i => (by cases h_i), fun h_i => (by cases h_i)⟩
    split
    · exact ⟨rfl, rfl⟩
    · rfl
  | unlockRead | unlockWrite | cloneAccounts | activate | publish | insertActiveTx | serve
  | hiddenUpdate =>
    obtain rfl := Option.some.inj h
    exact ⟨rfl, rfl, by repeat' first | rfl | constructor, fun h_i => (by cases h_i),
      fun h_i => (by cases h_i)⟩

/-- A call starts without a guard, and leaves the store alone. -/
theorem accept_lock {r : Request} (h : accept r c = some (t, e)) :
    e.store = c.store ∧ e.spawned = none ∧ Leads .none e.next .none := by
  cases r with
  | subscribe task subscription =>
    obtain ⟨rfl, rfl⟩ := Prod.mk.inj (Option.some.inj h)
    refine ⟨rfl, rfl, ?_⟩
    -- a refused subscription to channels never takes the lock
    cases subscription with
    | channels selector =>
      dsimp only [Subscription.script]
      split
      · exact ⟨rfl, rfl, rfl⟩
      · exact ⟨rfl, rfl, rfl⟩
    | accounts | graph | ticketParams | safeDeployments | services | serviceTypes
    | serviceRegistryConfig => exact ⟨rfl, rfl, rfl⟩
  | submit task client signedTx submission =>
    -- so does a payload that does not decode
    simp only [accept] at h
    split at h
    · obtain ⟨rfl, rfl⟩ := Prod.mk.inj (Option.some.inj h)
      exact ⟨rfl, rfl, rfl⟩
    · obtain ⟨rfl, rfl⟩ := Prod.mk.inj (Option.some.inj h)
      exact ⟨rfl, rfl, rfl, rfl, rfl⟩
  | updatePriceAndWinProb task newPrice newWinProb =>
    obtain ⟨rfl, rfl⟩ := Prod.mk.inj (Option.some.inj h)
    exact ⟨rfl, rfl, rfl, rfl, rfl⟩
  | serve task call =>
    obtain ⟨rfl, rfl⟩ := Prod.mk.inj (Option.some.inj h)
    exact ⟨rfl, rfl, rfl, rfl, rfl, rfl⟩
  | hiddenStateUpdate task update =>
    obtain ⟨rfl, rfl⟩ := Prod.mk.inj (Option.some.inj h)
    exact ⟨rfl, rfl, rfl, rfl, rfl, rfl⟩

end Step

/-! ### The discipline -/

/-- The lock knows that the task holds the guard. -/
def RwLock.Owns (lock : RwLock) (t : Task) : Held → Prop
  | .none => True
  | .read => t ∈ lock.readers
  | .write => lock.writer = some t

/-- **The lock discipline.** -/
structure Disciplined (c : Conf) : Prop where
  brackets : ∀ t, Leads (heldBy (c.todo t)) (c.todo t) .none
  owns : ∀ t, c.store.lock.Owns t (heldBy (c.todo t))
  apart : c.store.lock.writer ≠ none → c.store.lock.readers = []

namespace Disciplined

variable {c c' : Conf}

/-- **Writers exclude readers.** -/
theorem no_reader (h : Disciplined c) {t t' : Task} (h_write : heldBy (c.todo t) = .write) :
    heldBy (c.todo t') ≠ .read := by
  intro h_read
  have h_writer := h.owns t
  have h_reader := h.owns t'
  rw [h_write] at h_writer
  rw [h_read] at h_reader
  have h_empty : c.store.lock.readers = [] := h.apart (by
    rw [show c.store.lock.writer = some t from h_writer]
    exact Option.some_ne_none t)
  have h_mem : t' ∈ c.store.lock.readers := h_reader
  rw [h_empty] at h_mem
  exact absurd h_mem List.not_mem_nil

/-- At the start nobody holds the lock. -/
theorem initial (state : BlokliTestState) : Disciplined (start state) where
  brackets _ := rfl
  owns _ := trivial
  apart h := absurd rfl h

/-- What an instruction does to the lock keeps the guards of the other tasks. -/
theorem owns_locks {lock : RwLock} {t t' : Task} {i : Point} {held : Held} (h_ne : t' ≠ t)
    (h_i : lock.Owns t i.before) (h_free : i = .lockWrite → lock.writer = none)
    (h : lock.Owns t' held) : (i.locks t lock).Owns t' held := by
  cases held with
  | none => trivial
  | read =>
    have h_mem : t' ∈ lock.readers := h
    -- only the lock and its release touch the readers
    cases i with
    | lockRead => exact List.mem_cons_of_mem t h_mem
    | unlockRead => exact (List.mem_erase_of_ne h_ne).mpr h_mem
    | lockWrite | unlockWrite | cloneAccounts | readInitial | activate | execute | publish
    | insertActiveTx | updateTicketParameters | serve | hiddenUpdate => exact h_mem
  | write =>
    have h_writer : lock.writer = some t' := h
    cases i with
    | lockWrite =>
      rw [h_free rfl] at h_writer
      cases h_writer
    | unlockWrite =>
      -- the other task would be the writer as well
      have h_self : lock.writer = some t := h_i
      exact absurd (Option.some.inj (h_writer.symm.trans h_self)) h_ne
    | lockRead | unlockRead | cloneAccounts | readInitial | activate | execute | publish
    | insertActiveTx | updateTicketParameters | serve | hiddenUpdate => exact h_writer

/-- The lock knows what an instruction was granted. -/
theorem owns_granted {lock : RwLock} {t : Task} {i : Point} (h_i : lock.Owns t i.before) :
    (i.locks t lock).Owns t i.granted := by
  cases i with
  | lockRead => exact List.mem_cons_self
  | unlockRead => trivial
  | lockWrite => rfl
  | unlockWrite => trivial
  | cloneAccounts | readInitial | activate | execute | publish | insertActiveTx
  | updateTicketParameters | serve | hiddenUpdate => exact h_i

theorem apart_locks {lock : RwLock} {t : Task} {i : Point}
    (h_read : i = .lockRead → lock.writer = none) (h_write : i = .lockWrite → lock.readers = [])
    (h : lock.writer ≠ none → lock.readers = []) :
    (i.locks t lock).writer ≠ none → (i.locks t lock).readers = [] := by
  cases i with
  | lockRead => exact fun h_some => absurd (h_read rfl) h_some
  | unlockRead =>
    intro h_some
    change lock.readers.erase t = []
    rw [h h_some]
    rfl
  | lockWrite => exact fun _ => h_write rfl
  | unlockWrite => exact fun h_some => absurd rfl h_some
  | cloneAccounts | readInitial | activate | execute | publish | insertActiveTx
  | updateTicketParameters | serve | hiddenUpdate => exact h

/-- One step keeps the discipline. -/
theorem step {a : Action Task Unit Request} (h : Disciplined c)
    (h_step : clientProgram.step c a = some c') : Disciplined c' := by
  rcases Program.step_cases h_step with ⟨t, ch, i, rest, e, -, h_todo, h_exec, rfl⟩ |
    ⟨r, t, e, -, h_acc, h_todo, rfl⟩
  · change exec t ch i c = some e at h_exec
    obtain ⟨h_lock, h_spawned, h_next, h_read, h_write⟩ := exec_lock h_exec
    have h_brackets := h.brackets t
    have h_owns := h.owns t
    rw [h_todo] at h_brackets h_owns
    have h_list := h_next.append h_brackets.2
    refine ⟨fun t' => ?_, fun t' => ?_, ?_⟩
    · -- the list of the running task goes on where its instruction led
      by_cases h_t : t' = t
      · subst h_t
        rw [resume_todo_self, h_list.heldBy]
        exact h_list
      · rw [resume_todo_of_ne c t rest e h_t h_spawned]
        exact h.brackets t'
    · -- the lock is what the lists say: the step changed both by the same
      rw [resume_store, h_lock]
      by_cases h_t : t' = t
      · subst h_t
        rw [resume_todo_self, h_list.heldBy]
        exact owns_granted h_owns
      · rw [resume_todo_of_ne c t rest e h_t h_spawned]
        exact owns_locks h_t h_owns (fun h_i => (h_write h_i).1) (h.owns t')
    · -- nobody reads while somebody writes
      rw [resume_store, h_lock]
      exact apart_locks h_read (fun h_i => (h_write h_i).2) h.apart
  · obtain ⟨h_store, h_spawned, h_next⟩ := accept_lock h_acc
    -- a call starts without the lock
    have h_list : Leads .none (e.next ++ []) .none := h_next.append rfl
    refine ⟨fun t' => ?_, fun t' => ?_, ?_⟩
    · by_cases h_t : t' = t
      · subst h_t
        rw [resume_todo_self, h_list.heldBy]
        exact h_list
      · rw [resume_todo_of_ne c t [] e h_t h_spawned]
        exact h.brackets t'
    · rw [resume_store, h_store]
      by_cases h_t : t' = t
      · subst h_t
        rw [resume_todo_self, h_list.heldBy]
        trivial
      · rw [resume_todo_of_ne c t [] e h_t h_spawned]
        exact h.owns t'
    · rw [resume_store, h_store]
      exact h.apart

/-- The discipline along a run. -/
theorem reachable {state : BlokliTestState} {Allowed : Conf → Action Task Unit Request → Prop}
    (h : clientProgram.Reachable (start state) Allowed c) : Disciplined c :=
  h.induct (initial state) fun _ h_c _ h_step => h_c.step h_step

end Disciplined

end Blokli.Testing
