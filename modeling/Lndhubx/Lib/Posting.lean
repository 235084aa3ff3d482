import Mathlib.Algebra.BigOperators.Group.List.Basic
import Mathlib.Tactic.Abel

/-!
# Double-entry postings

A posting changes one account, kept in one unit, by a signed amount. A list of
postings is *balanced* when it cancels in every unit; that is the whole of
double entry: a book that starts at zero in every unit and is only ever changed
by balanced lists stays at zero.

Accounts, units and amounts are arbitrary types.
-/

/-- A signed amount in a unit, booked on one account. -/
structure Posting (ρ κ G : Type) where
  ref : ρ
  unit : κ
  amount : G

namespace Posting

variable {ρ κ G : Type}

/-! ## What postings do to an account -/

section account

variable [DecidableEq ρ] [AddCommMonoid G]

/-- What a list of postings does to one account. -/
def sumAt (ps : List (Posting ρ κ G)) (r : ρ) : G :=
  (ps.map fun p => if p.ref = r then p.amount else 0).sum

/-- No postings, no change. -/
@[simp] theorem sumAt_nil (r : ρ) : sumAt ([] : List (Posting ρ κ G)) r = 0 := rfl

/-- One more posting, at its own account. -/
@[simp] theorem sumAt_cons (p : Posting ρ κ G) (ps : List (Posting ρ κ G)) (r : ρ) :
    sumAt (p :: ps) r = (if p.ref = r then p.amount else 0) + sumAt ps r := by
  simp [sumAt]

/-- Postings one after the other. -/
@[simp] theorem sumAt_append (ps qs : List (Posting ρ κ G)) (r : ρ) :
    sumAt (ps ++ qs) r = sumAt ps r + sumAt qs r := by
  simp [sumAt]

/-- The order of postings does not show on an account. -/
theorem sumAt_perm {ps qs : List (Posting ρ κ G)} (h : ps.Perm qs) (r : ρ) :
    sumAt ps r = sumAt qs r := (h.map _).sum_eq

/-- An account that no posting names is not changed. -/
theorem sumAt_eq_zero {ps : List (Posting ρ κ G)} {r : ρ} (h : ∀ p ∈ ps, p.ref ≠ r) :
    sumAt ps r = 0 := by
  induction ps with
  | nil => rfl
  | cons p ps ih =>
    rw [sumAt_cons, if_neg (h p (by simp)), ih fun q hq => h q (List.mem_cons_of_mem _ hq),
      add_zero]

end account

/-! ## What postings do to a unit -/

section unit

variable [DecidableEq κ]

/-- What a list of postings does to one unit. -/
def sumIn [AddCommMonoid G] (ps : List (Posting ρ κ G)) (c : κ) : G :=
  (ps.map fun p => if p.unit = c then p.amount else 0).sum

/-- No postings, in any unit. -/
@[simp] theorem sumIn_nil [AddCommMonoid G] (c : κ) :
    sumIn ([] : List (Posting ρ κ G)) c = 0 := rfl

/-- One more posting, in its own unit. -/
@[simp] theorem sumIn_cons [AddCommMonoid G] (p : Posting ρ κ G) (ps : List (Posting ρ κ G))
    (c : κ) : sumIn (p :: ps) c = (if p.unit = c then p.amount else 0) + sumIn ps c := by
  simp [sumIn]

/-- Postings one after the other, in a unit. -/
@[simp] theorem sumIn_append [AddCommMonoid G] (ps qs : List (Posting ρ κ G)) (c : κ) :
    sumIn (ps ++ qs) c = sumIn ps c + sumIn qs c := by
  simp [sumIn]

/-- Nor does it show in a unit. -/
theorem sumIn_perm [AddCommMonoid G] {ps qs : List (Posting ρ κ G)} (h : ps.Perm qs) (c : κ) :
    sumIn ps c = sumIn qs c := (h.map _).sum_eq

/-- The postings cancel in every unit. -/
def Balanced [AddCommMonoid G] (ps : List (Posting ρ κ G)) : Prop := ∀ c, sumIn ps c = 0

/-- An empty list of postings is balanced. -/
theorem balanced_nil [AddCommMonoid G] : Balanced ([] : List (Posting ρ κ G)) := fun _ => rfl

/-- Balanced entries stay so together. -/
theorem Balanced.append [AddCommMonoid G] {ps qs : List (Posting ρ κ G)} (hp : Balanced ps)
    (hq : Balanced qs) : Balanced (ps ++ qs) := by
  intro c
  rw [sumIn_append, hp c, hq c, add_zero]

/-- Two amounts of one unit that cancel. -/
theorem balanced_pair [AddCommGroup G] (a b : ρ) (c : κ) {x y : G} (h : x + y = 0) :
    Balanced [⟨a, c, x⟩, ⟨b, c, y⟩] := by
  intro e
  rw [sumIn_cons, sumIn_cons, sumIn_nil, add_zero]
  by_cases hc : c = e
  · rw [if_pos hc, if_pos hc, h]
  · rw [if_neg hc, if_neg hc, add_zero]

/-- An exchange: one pair in each of two units, the outer and the inner one. -/
theorem balanced_exchange [AddCommGroup G] (a b a' b' : ρ) (c d : κ) {x y x' y' : G}
    (h : x + x' = 0) (h' : y + y' = 0) :
    Balanced [⟨a, c, x⟩, ⟨b, d, y⟩, ⟨b', d, y'⟩, ⟨a', c, x'⟩] := by
  intro e
  have hpairs := ((balanced_pair a a' c h).append (balanced_pair b b' d h')) e
  rw [← hpairs]
  refine sumIn_perm (.cons _ ?_) e
  exact List.perm_append_singleton (⟨a', c, x'⟩ : Posting ρ κ G) [⟨b, d, y⟩, ⟨b', d, y'⟩]

end unit

end Posting
