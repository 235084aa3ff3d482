import Mathlib.Tactic.Common

/-!
# Two computations in step

`InStep R x y` says of two computations that can fail that they end alike: both return,
with results related by `R`, or both fail. It goes along with sequences and branches, so
two runs of one program on related inputs are compared statement by statement.
-/

variable {ε α β γ δ : Type}

/-- Two computations that return related values, or both fail. -/
inductive InStep (R : α → β → Prop) : Except ε α → Except ε β → Prop
  | ok {a : α} {b : β} (h : R a b) : InStep R (.ok a) (.ok b)
  | error (e e' : ε) : InStep R (.error e) (.error e')

namespace InStep

variable {R : α → β → Prop} {S : γ → δ → Prop} {x : Except ε α} {y : Except ε β}

/-- Two values that are related. -/
theorem ret {a : α} {b : β} (h : R a b) : InStep R (pure a : Except ε α) (pure b) := .ok h

/-- What follows related values stays in step. -/
theorem bind {f : α → Except ε γ} {g : β → Except ε δ} (h : InStep R x y)
    (hnext : ∀ a b, R a b → InStep S (f a) (g b)) : InStep S (x >>= f) (y >>= g) := by
  cases h with
  | ok hab => exact hnext _ _ hab
  | error e e' => exact .error e e'

/-- A choice that both make alike. -/
theorem ite {c c' : Prop} [Decidable c] [Decidable c'] {x' : Except ε α} {y' : Except ε β}
    (hc : c ↔ c') (hpos : c → InStep R x y) (hneg : ¬c → InStep R x' y') :
    InStep R (if c then x else x') (if c' then y else y') := by
  by_cases h : c
  · rw [if_pos h, if_pos (hc.mp h)]
    exact hpos h
  · rw [if_neg h, if_neg (fun h' => h (hc.mpr h'))]
    exact hneg h

/-- A computation is in step with itself. -/
theorem refl (x : Except ε α) : InStep (· = ·) x x := by
  cases x with
  | ok a => exact .ok rfl
  | error e => exact .error e e

/-- With the same result, if the relation is equality. -/
theorem eq_ok {x y : Except ε α} {a : α} (h : InStep (· = ·) x y) (hx : x = .ok a) :
    y = .ok a := by
  cases h with
  | ok hab =>
    rw [← hab]
    exact hx
  | error e e' => exact absurd hx (by simp)

end InStep
