import Mathlib.Data.List.Chain

/-!
# Logs of differences

A system that publishes, whenever it writes a state, how that state differs from the
one before. `trail diff states` is what it has published over a sequence of states.

* `trail_append` and `trail_split` say how the trail grows, and how it is cut at one of
  the states.
* `Following.trail` is the rule of a log that is consumed: a value that follows the first
  state, and is taken along by each difference, follows the last state in the end.
-/

namespace Trail

variable {State Change Value : Type*} (diff : State → State → List Change)

def trail : List State → List Change
  | [] => []
  | [_] => []
  | s :: s' :: states => diff s s' ++ trail (s' :: states)

variable {diff} {s s' : State} {states : List State}

@[simp] theorem trail_singleton : trail diff [s] = [] := rfl

@[simp] theorem trail_cons_cons :
    trail diff (s :: s' :: states) = diff s s' ++ trail diff (s' :: states) := rfl

/-- **The trail grows** by the difference to the state that was last. -/
theorem trail_append (h : states.getLast? = some s) :
    trail diff (states ++ [s']) = trail diff states ++ diff s s' := by
  induction states with
  | nil => cases h
  | cons s₁ states ih =>
    cases states with
    | nil =>
      obtain rfl : s₁ = s := Option.some.inj h
      exact List.append_nil _
    | cons s₂ states =>
      rw [List.getLast?_cons_cons] at h
      rw [List.cons_append, List.cons_append, trail_cons_cons, ← List.cons_append, ih h,
        ← List.append_assoc]
      rfl

/-- **The trail is cut at a state**, which is the last of the first part and the first of
the second part. -/
theorem trail_split (n : ℕ) :
    trail diff states = trail diff (states.take (n + 1)) ++ trail diff (states.drop n) := by
  induction n generalizing states with
  | zero =>
    cases states with
    | nil => rfl
    | cons s states => rfl
  | succ n ih =>
    match states with
    | [] => rfl
    | [s] => simp [trail]
    | s :: s' :: states =>
      rw [List.drop_succ_cons, List.take_succ_cons, List.take_succ_cons, trail_cons_cons,
        trail_cons_cons, List.append_assoc, ← List.take_succ_cons]
      exact congrArg _ ih

/-- `Follows s m` says that `m` is what a consumer of the log should hold at state `s`, and
`consume` takes it along a part of the log. -/
structure Following (diff : State → State → List Change) (R : State → State → Prop)
    (consume : Value → List Change → Value) (Follows : State → Value → Prop) : Prop where
  nil : ∀ m, consume m [] = m
  append : ∀ m cs cs', consume m (cs ++ cs') = consume (consume m cs) cs'
  step : ∀ s s' m, R s s' → Follows s m → Follows s' (consume m (diff s s'))

/-- **A log of differences is followed to its end.** -/
theorem Following.trail {R : State → State → Prop} {consume : Value → List Change → Value}
    {Follows : State → Value → Prop} (h : Following diff R consume Follows) {m : Value}
    {last : State} (h_chain : (s :: states).IsChain R) (h_first : Follows s m)
    (h_last : (s :: states).getLast? = some last) :
    Follows last (consume m (Trail.trail diff (s :: states))) := by
  induction states generalizing s m with
  | nil =>
    obtain rfl : s = last := Option.some.inj h_last
    rw [trail_singleton, h.nil]
    exact h_first
  | cons s' states ih =>
    obtain ⟨h_step, h_rest⟩ := List.isChain_cons_cons.mp h_chain
    rw [List.getLast?_cons_cons] at h_last
    rw [trail_cons_cons, h.append]
    exact ih h_rest (h.step s s' m h_step h_first) h_last

end Trail
