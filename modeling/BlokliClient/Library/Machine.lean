import Mathlib.Data.List.Induction

/-!
# Runs of a deterministic machine

A machine is a step function `step : σ → α → σ`, and `List.foldl step s l` is
the state that it reaches from `s` on the inputs `l`.

* `Throughout step P s l` says that `P` holds of every state of that run.
* `exists_last_leave` finds the last input that led out of `P`, in a run that
  starts inside `P` and ends outside.
-/

namespace Machine

variable {σ α β : Type*} {step : σ → α → σ} {P Q : σ → Prop}

/-- `P` holds of `s` and of every state the run on `l` passes through. -/
def Throughout (step : σ → α → σ) (P : σ → Prop) : σ → List α → Prop
  | s, [] => P s
  | s, a :: l => P s ∧ Throughout step P (step s a) l

theorem Throughout.first {s : σ} {l : List α} (h : Throughout step P s l) : P s := by
  cases l with
  | nil => exact h
  | cons a l => exact h.1

theorem Throughout.last {s : σ} {l : List α} (h : Throughout step P s l) :
    P (l.foldl step s) := by
  induction l generalizing s with
  | nil => exact h
  | cons a l ih => exact ih h.2

theorem Throughout.imp {s : σ} {l : List α} (h : Throughout step P s l)
    (h_imp : ∀ s, P s → Q s) : Throughout step Q s l := by
  induction l generalizing s with
  | nil => exact h_imp s h
  | cons a l ih => exact ⟨h_imp s h.1, ih h.2⟩

theorem Throughout.snoc {s : σ} {l : List α} {a : α} (h : Throughout step P s l)
    (h_last : P (step (l.foldl step s) a)) : Throughout step P s (l ++ [a]) := by
  induction l generalizing s with
  | nil => exact ⟨h, h_last⟩
  | cons b l ih => exact ⟨h.1, ih h.2 h_last⟩

/-- An invariant of the steps holds throughout every run. -/
theorem throughout_of_step {s : σ} (h_step : ∀ s a, P s → P (step s a)) (h : P s)
    (l : List α) : Throughout step P s l := by
  induction l generalizing s with
  | nil => exact h
  | cons a l ih => exact ⟨h, ih (h_step s a h)⟩

/-- What no step inside `P` changes is the same at both ends of a run inside `P`. -/
theorem Throughout.const {f : σ → β} {s : σ} {l : List α} (h : Throughout step P s l)
    (h_step : ∀ s a, P s → P (step s a) → f (step s a) = f s) :
    f (l.foldl step s) = f s := by
  induction l generalizing s with
  | nil => rfl
  | cons a l ih =>
    have h_a : f (step s a) = f s := h_step s a h.1 h.2.first
    rw [List.foldl_cons, ih h.2, h_a]

/-- A run from inside `P` to outside leaves `P` for the last time at some input. -/
theorem exists_last_leave {s : σ} {l : List α} (h : P s) (h_last : ¬P (l.foldl step s)) :
    ∃ pre a post, l = pre ++ a :: post ∧ P (pre.foldl step s) ∧
      Throughout step (fun s => ¬P s) (step (pre.foldl step s) a) post := by
  induction l using List.reverseRecOn with
  | nil => exact absurd h h_last
  | append_singleton l a ih =>
    rw [List.foldl_append, List.foldl_cons, List.foldl_nil] at h_last
    by_cases h_mid : P (l.foldl step s)
    · exact ⟨l, a, [], rfl, h_mid, h_last⟩
    · obtain ⟨pre, b, post, rfl, h_pre, h_post⟩ := ih h_mid
      refine ⟨pre, b, post ++ [a], by rw [List.append_assoc, List.cons_append], h_pre, ?_⟩
      rw [List.foldl_append, List.foldl_cons] at h_last
      exact h_post.snoc h_last

end Machine
