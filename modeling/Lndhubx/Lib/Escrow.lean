import Mathlib.Algebra.BigOperators.Group.List.Basic
import Mathlib.Algebra.Group.Pi.Basic
import Mathlib.Tactic.Abel

/-!
# Holds

A hold takes an amount before it is known whether it will be needed. It is
placed once and ends once: it is *settled*, and what was taken stays taken, or
*released*, and what was taken is given back. An `Escrow` keeps, for every hold
of a key `κ`, what placing it and ending it did to the accounts `ρ`, and what
everything else did to them.

The accounts themselves are not part of it. They are where they started plus
`total`, as long as every change of theirs is entered (`total_place`,
`total_settle`, `total_release`, `total_pass`). If every release gave back
exactly what was taken, the released holds drop out of the total altogether
(`total_of_exact`).
-/

variable {κ ρ G : Type}

/-- What placing a hold did to the accounts. -/
structure Hold (κ ρ G : Type) where
  key : κ
  placed : ρ → G

/-- A hold that is over, and what its end did to the accounts. -/
structure EndedHold (κ ρ G : Type) extends Hold κ ρ G where
  ended : ρ → G

/-- Holds by what has become of them, and all that was done without a hold. -/
structure Escrow (κ ρ G : Type) where
  pending : List (Hold κ ρ G)
  settled : List (EndedHold κ ρ G)
  released : List (EndedHold κ ρ G)
  other : ρ → G

namespace Escrow

variable [AddCommGroup G]

/-- Nothing was done yet. -/
def empty : Escrow κ ρ G := ⟨[], [], [], 0⟩

/-- A new hold. -/
def place (E : Escrow κ ρ G) (h : Hold κ ρ G) : Escrow κ ρ G :=
  { E with pending := E.pending ++ [h] }

/-- The hold between `l` and `l'` is over, and `x` is what its end did. -/
def settle (E : Escrow κ ρ G) (l : List (Hold κ ρ G)) (h : Hold κ ρ G) (l' : List (Hold κ ρ G))
    (x : ρ → G) : Escrow κ ρ G :=
  { E with pending := l ++ l', settled := E.settled ++ [⟨h, x⟩] }

/-- The hold between `l` and `l'` is given back, and `x` is what that did. -/
def release (E : Escrow κ ρ G) (l : List (Hold κ ρ G)) (h : Hold κ ρ G) (l' : List (Hold κ ρ G))
    (x : ρ → G) : Escrow κ ρ G :=
  { E with pending := l ++ l', released := E.released ++ [⟨h, x⟩] }

/-- A change that has nothing to do with a hold. -/
def pass (E : Escrow κ ρ G) (x : ρ → G) : Escrow κ ρ G := { E with other := E.other + x }

/-- What the pending holds have taken. -/
def held (E : Escrow κ ρ G) (r : ρ) : G := (E.pending.map fun h => h.placed r).sum

/-- What the settled holds have taken. -/
def spent (E : Escrow κ ρ G) (r : ρ) : G := (E.settled.map fun h => h.placed r).sum

/-- What holds that are over did to an account, from beginning to end. -/
def sumEnded (hs : List (EndedHold κ ρ G)) (r : ρ) : G :=
  (hs.map fun h => h.placed r + h.ended r).sum

/-- Everything that was done to an account. -/
def total (E : Escrow κ ρ G) (r : ρ) : G :=
  E.other r + E.held r + sumEnded E.settled r + sumEnded E.released r

/-- A new hold does what it takes. -/
theorem total_place (E : Escrow κ ρ G) (h : Hold κ ρ G) (r : ρ) :
    (E.place h).total r = E.total r + h.placed r := by
  simp only [total, held, place, List.map_append, List.sum_append, List.map_cons, List.map_nil,
    List.sum_cons, List.sum_nil]
  abel

/-- The end of a hold adds what it does. -/
theorem total_settle {E : Escrow κ ρ G} {l l' : List (Hold κ ρ G)} {h : Hold κ ρ G}
    (hp : E.pending = l ++ h :: l') (x : ρ → G) (r : ρ) :
    (E.settle l h l' x).total r = E.total r + x r := by
  simp only [total, held, sumEnded, settle, hp, List.map_append, List.sum_append, List.map_cons,
    List.map_nil, List.sum_cons, List.sum_nil]
  abel

/-- So does giving it back. -/
theorem total_release {E : Escrow κ ρ G} {l l' : List (Hold κ ρ G)} {h : Hold κ ρ G}
    (hp : E.pending = l ++ h :: l') (x : ρ → G) (r : ρ) :
    (E.release l h l' x).total r = E.total r + x r := by
  simp only [total, held, sumEnded, release, hp, List.map_append, List.sum_append, List.map_cons,
    List.map_nil, List.sum_cons, List.sum_nil]
  abel

/-- What is done without a hold counts as it is. -/
theorem total_pass (E : Escrow κ ρ G) (x : ρ → G) (r : ρ) :
    (E.pass x).total r = E.total r + x r := by
  simp only [total, held, pass, Pi.add_apply]
  abel

/-- Holds that were given back in full leave nothing. -/
theorem sumEnded_eq_zero {hs : List (EndedHold κ ρ G)} {r : ρ}
    (h : ∀ e ∈ hs, e.ended r = -e.placed r) : sumEnded hs r = 0 := by
  induction hs with
  | nil => rfl
  | cons e hs ih =>
    have hrest := ih fun e' he' => h e' (List.mem_cons_of_mem _ he')
    unfold sumEnded at hrest ⊢
    rw [List.map_cons, List.sum_cons, hrest, h e (by simp), add_neg_cancel, add_zero]

/-- Holds that were kept leave what they took. -/
theorem sumEnded_eq_spent {E : Escrow κ ρ G} {r : ρ} (h : ∀ e ∈ E.settled, e.ended r = 0) :
    sumEnded E.settled r = E.spent r := by
  unfold sumEnded spent
  refine congrArg List.sum (List.map_congr_left fun e he => ?_)
  rw [h e he, add_zero]

/-- Where a release gives back what was taken and a settlement does nothing
more, only pending and settled holds count. -/
theorem total_of_exact {E : Escrow κ ρ G} {r : ρ} (hs : ∀ e ∈ E.settled, e.ended r = 0)
    (hr : ∀ e ∈ E.released, e.ended r = -e.placed r) :
    E.total r = E.other r + E.held r + E.spent r := by
  unfold total
  rw [sumEnded_eq_zero hr, sumEnded_eq_spent hs, add_zero]

end Escrow
