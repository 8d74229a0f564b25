import Mathlib.Algebra.Ring.Nat
import Mathlib.Order.Monotone.Basic

/-!
# Exponential backoff

A backoff waits `first` at its first call. At each further call it multiplies the last
delay by `factor`, where products stop at `limit`, and waits no longer than `cap`.

* `delay_eq` : the closed form of the delay of the `n`-th call.
* `first_le_delay`, `delay_le_cap` and `delay_monotone` : its bounds, and its order.
* `Consecutive` counts the calls that a machine makes without a reset, in any run.
  The next delay is that of the closed form (`Consecutive.delay_eq`).
-/

/-- The parameters of a backoff. The first delay is a number below both bounds. -/
structure Backoff where
  first : ℕ
  factor : ℕ
  cap : ℕ
  limit : ℕ
  first_le_cap : first ≤ cap
  first_le_limit : first ≤ limit
  one_le_factor : 1 ≤ factor

namespace Backoff

variable (b : Backoff)

/-- The delay of a call, from the last one. -/
def next : Option ℕ → ℕ
  | none => b.first
  | some last => min (min (last * b.factor) b.limit) b.cap

/-- The last delay after `n` calls. -/
def state : ℕ → Option ℕ
  | 0 => none
  | n + 1 => some (b.next (state n))

/-- The delay of the call that follows `n` others. -/
def delay (n : ℕ) : ℕ := b.next (b.state n)

theorem delay_zero : b.delay 0 = b.first := rfl

theorem delay_succ (n : ℕ) :
    b.delay (n + 1) = min (min (b.delay n * b.factor) b.limit) b.cap := rfl

theorem delay_le_cap (n : ℕ) : b.delay n ≤ b.cap := by
  cases n with
  | zero => exact b.first_le_cap
  | succ n => exact Nat.min_le_right _ _

theorem delay_le_limit (n : ℕ) : b.delay n ≤ b.limit := by
  cases n with
  | zero => exact b.first_le_limit
  | succ n => exact Nat.le_trans (Nat.min_le_left _ _) (Nat.min_le_right _ _)

theorem delay_le_succ (n : ℕ) : b.delay n ≤ b.delay (n + 1) := by
  rw [delay_succ]
  have h_factor : b.delay n ≤ b.delay n * b.factor := Nat.le_mul_of_pos_right _ b.one_le_factor
  exact Nat.le_min.mpr ⟨Nat.le_min.mpr ⟨h_factor, b.delay_le_limit n⟩, b.delay_le_cap n⟩

/-- **Delays do not decrease.** -/
theorem delay_monotone : Monotone b.delay := monotone_nat_of_le_succ b.delay_le_succ

theorem first_le_delay (n : ℕ) : b.first ≤ b.delay n := b.delay_monotone (Nat.zero_le n)

/-- **The closed form.** A delay that met a bound would have met it again. -/
theorem delay_eq (n : ℕ) : b.delay n = min (min (b.first * b.factor ^ n) b.limit) b.cap := by
  induction n with
  -- the first delay is within both bounds
  | zero =>
    rw [delay_zero, Nat.pow_zero, Nat.mul_one, Nat.min_eq_left b.first_le_limit,
      Nat.min_eq_left b.first_le_cap]
  | succ n ih =>
    have h_limit : b.limit ≤ b.limit * b.factor := Nat.le_mul_of_pos_right _ b.one_le_factor
    have h_cap : b.cap ≤ b.cap * b.factor := Nat.le_mul_of_pos_right _ b.one_le_factor
    -- doubling the bounded delay is bounding the doubled one
    have h_double : b.delay n * b.factor =
        min (min (b.first * b.factor ^ (n + 1)) (b.limit * b.factor)) (b.cap * b.factor) := by
      rw [ih, ← Nat.mul_min_mul_right, ← Nat.mul_min_mul_right, Nat.pow_succ, Nat.mul_assoc]
    rw [delay_succ, h_double]
    omega

/-! ### Calls in a run -/

section Runs

variable {σ α : Type*} {step : σ → α → Option σ} {last : σ → Option ℕ}
  {Calls : σ → α → ℕ → σ → Prop}

/-- **Calls without a reset.** The machine made `n` calls from `s₀` to here. No other step
on the way takes the last delay back. -/
inductive Consecutive (step : σ → α → Option σ) (last : σ → Option ℕ)
    (Calls : σ → α → ℕ → σ → Prop) (s₀ : σ) : ℕ → σ → Prop
  | start : Consecutive step last Calls s₀ 0 s₀
  | call {n : ℕ} {s s' : σ} {a : α} {d : ℕ} (before : Consecutive step last Calls s₀ n s)
      (fires : step s a = some s') (calls : Calls s a d s') :
      Consecutive step last Calls s₀ (n + 1) s'
  | other {n : ℕ} {s s' : σ} {a : α} (before : Consecutive step last Calls s₀ n s)
      (fires : step s a = some s') (quiet : ∀ d, ¬ Calls s a d s')
      (kept : last s' = none → last s = none) : Consecutive step last Calls s₀ n s'

/-- The last delay is kept by a machine: a call makes it the next one, and another step
leaves it or takes it back. -/
structure KeptBy (step : σ → α → Option σ) (last : σ → Option ℕ)
    (Calls : σ → α → ℕ → σ → Prop) : Prop where
  call : ∀ {s s' a d}, step s a = some s' → Calls s a d s' →
    d = b.next (last s) ∧ last s' = some d
  other : ∀ {s s' a}, step s a = some s' → (∀ d, ¬ Calls s a d s') →
    last s' = last s ∨ last s' = none

variable {b} {s₀ s s' : σ} {a : α} {n d : ℕ}

/-- The count determines the last delay. -/
theorem Consecutive.last_eq (h_kept : b.KeptBy step last Calls) (h_last : last s₀ = none)
    (h : Consecutive step last Calls s₀ n s) : last s = b.state n := by
  -- the induction is on the run
  induction h with
  | start => exact h_last
  -- a call doubles
  | call before fires calls ih =>
    obtain ⟨rfl, h_next⟩ := h_kept.call fires calls
    rw [h_next, ih]
    rfl
  -- any other step keeps the delay, or resets it to none
  | other before fires quiet kept ih =>
    rcases h_kept.other fires quiet with h_same | h_none
    · exact h_same.trans ih
    · rw [h_none, ← ih, kept h_none]

/-- **The delay of the next call.** -/
theorem Consecutive.delay_eq (h_kept : b.KeptBy step last Calls) (h_last : last s₀ = none)
    (h : Consecutive step last Calls s₀ n s) (h_step : step s a = some s')
    (h_call : Calls s a d s') : d = b.delay n := by
  rw [(h_kept.call h_step h_call).1, h.last_eq h_kept h_last]
  rfl

end Runs

end Backoff
