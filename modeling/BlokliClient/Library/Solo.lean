import BlokliClient.Library.Worklist

/-!
# One task alone

What a piece of code does "with no concurrent change" is what its task does
while no other task takes a step. `P.Arrives t ch c next Q` says that task `t`,
running alone from `c` and resolving every choice by `ch`, gets to the
instructions `next` with a store that satisfies `Q`. It is a total statement: the
task gets there.

* The rules follow the to-do list: `Arrives.here` at the end, `Arrives.step` for
  one instruction, `Arrives.bind` for one piece of code after the other.
* A program is deterministic once its choices are resolved (`alone_total`), so
  the store found at `next` is the only one if the task does not come back to
  `next` (`Arrives.unique`).
-/

namespace Worklist.Program

variable {Task Choice Request Instr Store : Type} [DecidableEq Task]

/-- Only task `t` takes steps, and its choices are all `ch`. -/
def alone (t : Task) (ch : Choice) (_ : Config Task Instr Store)
    (a : Action Task Choice Request) : Prop := a = .run t ch

variable (P : Program Task Choice Request Instr Store)

/-- Task `t`, running alone, gets to `next` with a store that satisfies `Q`. -/
def Arrives (t : Task) (ch : Choice) (c : Config Task Instr Store) (next : List Instr)
    (Q : Store → Prop) : Prop :=
  ∃ c', P.Reachable c (alone t ch) c' ∧ c'.todo t = next ∧ Q c'.store

variable {P} {t : Task} {ch : Choice} {c c₁ c₂ : Config Task Instr Store} {i : Instr}
  {rest mid next : List Instr} {e : Effect Task Instr Store} {Q R : Store → Prop}

namespace Arrives

theorem here (h_todo : c.todo t = next) (h : Q c.store) : P.Arrives t ch c next Q :=
  ⟨c, .init, h_todo, h⟩

/-- **One instruction.** What follows it starts with its effect. -/
theorem step (h_todo : c.todo t = i :: rest) (h_exec : P.exec t ch i c = some e)
    (h : ∀ c₁ : Config Task Instr Store, c₁.todo t = e.next ++ rest → c₁.store = e.store →
      P.Arrives t ch c₁ next Q) : P.Arrives t ch c next Q := by
  obtain ⟨c', h_reach, h_next⟩ := h (c.resume t rest e) (resume_todo_self c t rest e) rfl
  exact ⟨c', (Reachable.exec ch h_todo h_exec rfl).trans h_reach, h_next⟩

/-- **One piece of code after the other.** -/
theorem bind (h : P.Arrives t ch c mid R)
    (h' : ∀ c₁ : Config Task Instr Store, c₁.todo t = mid → R c₁.store →
      P.Arrives t ch c₁ next Q) : P.Arrives t ch c next Q := by
  obtain ⟨c₁, h_reach, h_mid, h_R⟩ := h
  obtain ⟨c', h_reach', h_next⟩ := h' c₁ h_mid h_R
  exact ⟨c', h_reach.trans h_reach', h_next⟩

theorem mono (h : P.Arrives t ch c next R) (h_le : ∀ s, R s → Q s) : P.Arrives t ch c next Q := by
  obtain ⟨c', h_reach, h_next, h_R⟩ := h
  exact ⟨c', h_reach, h_next, h_le _ h_R⟩

end Arrives

/-- A task alone has one way to go. -/
theorem alone_step {a : Action Task Choice Request} (h_a : alone t ch c a)
    (h : P.step c a = some c₁) : P.step c (.run t ch) = some c₁ := by
  rw [← show a = .run t ch from h_a]
  exact h

/-- A task alone that goes on takes its one step first. -/
theorem Reachable.alone_head (h : P.Reachable c (alone t ch) c₂) :
    c₂ = c ∨ ∃ c₁, P.step c (.run t ch) = some c₁ ∧ P.Reachable c₁ (alone t ch) c₂ := by
  induction h with
  | init => exact Or.inl rfl
  | @step c₁ c₂ a reached allowed fires ih =>
    rcases ih with rfl | ⟨c₀, h_first, h_rest⟩
    · exact Or.inr ⟨c₂, alone_step allowed fires, .init⟩
    · exact Or.inr ⟨c₀, h_first, .step h_rest allowed fires⟩

/-- **A task alone is deterministic**: of two configurations that it reaches, one
is on the way to the other. -/
theorem alone_total (h₁ : P.Reachable c (alone t ch) c₁) (h₂ : P.Reachable c (alone t ch) c₂) :
    P.Reachable c₁ (alone t ch) c₂ ∨ P.Reachable c₂ (alone t ch) c₁ := by
  induction h₁ with
  | init => exact Or.inl h₂
  | @step c₀ c₁ a reached allowed fires ih =>
    rcases ih with h | h
    · rcases h.alone_head with rfl | ⟨c', h_step, h_rest⟩
      · exact Or.inr (.step .init allowed fires)
      · -- both take the one step from `c₀`
        have h_eq : c₁ = c' :=
          Option.some.inj ((alone_step allowed fires).symm.trans h_step)
        rw [h_eq]
        exact Or.inl h_rest
    · exact Or.inr (.step h allowed fires)

/-- **The store at `next` is the only one**, if the task does not come back to `next`. -/
theorem Arrives.unique (h : P.Arrives t ch c next Q)
    (h_once : ∀ c₁ c₂ c₃ : Config Task Instr Store, c₁.todo t = next →
      P.step c₁ (.run t ch) = some c₂ → P.Reachable c₂ (alone t ch) c₃ → c₃.todo t ≠ next)
    (h₂ : P.Reachable c (alone t ch) c₂) (h_next₂ : c₂.todo t = next) : Q c₂.store := by
  obtain ⟨c₁, h₁, h_next₁, h_Q⟩ := h
  have h_eq : c₂ = c₁ := by
    rcases alone_total h₁ h₂ with h | h
    · rcases h.alone_head with h_eq | ⟨c', h_step, h_rest⟩
      · exact h_eq
      · exact absurd h_next₂ (h_once c₁ c' c₂ h_next₁ h_step h_rest)
    · rcases h.alone_head with h_eq | ⟨c', h_step, h_rest⟩
      · exact h_eq.symm
      · exact absurd h_next₁ (h_once c₂ c' c₁ h_next₂ h_step h_rest)
  rw [h_eq]
  exact h_Q

end Worklist.Program
