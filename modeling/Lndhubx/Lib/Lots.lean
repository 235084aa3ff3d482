import Mathlib.Algebra.Order.Ring.Defs
import Mathlib.Data.Nat.Cast.Order.Ring
import Mathlib.Tactic.Linarith
import Mathlib.Tactic.Ring

/-!
# Buying from a list of lots

A lot is a price and a quantity on offer. `cost lots q` is what `q` units cost
when the lots are used up in the order of the list, `depth lots` how many units
there are. The cost is additive along the list (`cost_take`, `cost_used_up`):
a buyer who keeps what is left of the lots can go on from there. Between a lower
and an upper bound of the prices lies the average (`le_cost`, `cost_le`), and where the
prices fall or rise along the list, the average does (`average_falls`, `average_rises`).
-/

namespace Lots

variable {K : Type}

/-- The units on offer. -/
def depth : List (K × ℕ) → ℕ
  | [] => 0
  | lot :: lots => lot.2 + depth lots

theorem depth_reverse (lots : List (K × ℕ)) : depth lots.reverse = depth lots := by
  have hsum (l : List (K × ℕ)) : depth l = (l.map (·.2)).sum := by
    induction l with
    | nil => rfl
    | cons lot l ih =>
      rw [List.map_cons, List.sum_cons, ← ih]
      rfl
  rw [hsum, hsum, List.map_reverse, List.sum_reverse]

section cost

variable [CommRing K]

/-- What `q` units cost, the first lot first. -/
def cost : List (K × ℕ) → ℕ → K
  | [], _ => 0
  | lot :: lots, q => lot.1 * (min lot.2 q : ℕ) + cost lots (q - lot.2)

@[simp] theorem cost_zero (lots : List (K × ℕ)) : cost lots 0 = 0 := by
  induction lots with
  | nil => rfl
  | cons lot lots ih =>
    show lot.1 * (min lot.2 0 : ℕ) + cost lots (0 - lot.2) = 0
    rw [Nat.zero_sub, ih]
    simp

/-- Units of the first lot, and then the others from what is left. -/
theorem cost_take {price : K} {n t : ℕ} {lots : List (K × ℕ)} (h : t ≤ n) (q : ℕ) :
    cost ((price, n) :: lots) (t + q) = price * t + cost ((price, n - t) :: lots) q := by
  show price * (min n (t + q) : ℕ) + cost lots (t + q - n) =
    price * t + (price * (min (n - t) q : ℕ) + cost lots (q - (n - t)))
  have hmin : min n (t + q) = t + min (n - t) q := by omega
  have hrest : t + q - n = q - (n - t) := by omega
  rw [hmin, hrest, Nat.cast_add]
  ring

/-- A lot that is used up costs nothing any more. -/
@[simp] theorem cost_used_up (price : K) (lots : List (K × ℕ)) (q : ℕ) :
    cost ((price, 0) :: lots) q = cost lots q := by
  show price * (min 0 q : ℕ) + cost lots (q - 0) = cost lots q
  simp

end cost

/-! ## Bounds -/

section bounds

variable [CommRing K]

/-- The same lots at the negated prices. -/
def negated (lots : List (K × ℕ)) : List (K × ℕ) := lots.map fun lot => (-lot.1, lot.2)

theorem depth_negated (lots : List (K × ℕ)) : depth (negated lots) = depth lots := by
  induction lots with
  | nil => rfl
  | cons lot lots ih =>
    show lot.2 + depth (negated lots) = lot.2 + depth lots
    rw [ih]

theorem cost_negated (lots : List (K × ℕ)) (q : ℕ) : cost (negated lots) q = -cost lots q := by
  induction lots generalizing q with
  | nil => simp [negated, cost]
  | cons lot lots ih =>
    show -lot.1 * (min lot.2 q : ℕ) + cost (negated lots) (q - lot.2) =
      -(lot.1 * (min lot.2 q : ℕ) + cost lots (q - lot.2))
    rw [ih]
    ring

variable [LinearOrder K] [IsStrictOrderedRing K] {price : K} {lots : List (K × ℕ)} {q : ℕ}

theorem cost_le (hprice : ∀ lot ∈ lots, lot.1 ≤ price) (hq : q ≤ depth lots) :
    cost lots q ≤ price * q := by
  induction lots generalizing q with
  | nil =>
    have hq : q = 0 := Nat.le_zero.mp hq
    rw [hq]
    simp
  | cons lot lots ih =>
    have hdepth : q ≤ lot.2 + depth lots := hq
    have hrest : cost lots (q - lot.2) ≤ price * (q - lot.2 : ℕ) :=
      ih (fun l hl => hprice l (List.mem_cons_of_mem _ hl)) (by omega)
    have hfirst : lot.1 * (min lot.2 q : ℕ) ≤ price * (min lot.2 q : ℕ) :=
      mul_le_mul_of_nonneg_right (hprice lot (by simp)) (Nat.cast_nonneg _)
    have hsum : ((min lot.2 q : ℕ) : K) + (q - lot.2 : ℕ) = q := by
      rw [← Nat.cast_add]
      congr 1
      omega
    calc cost (lot :: lots) q = lot.1 * (min lot.2 q : ℕ) + cost lots (q - lot.2) := rfl
      _ ≤ price * (min lot.2 q : ℕ) + price * (q - lot.2 : ℕ) := add_le_add hfirst hrest
      _ = price * q := by rw [← mul_add, hsum]

/-- The bound from below is the bound from above of the negated prices. -/
theorem le_cost (hprice : ∀ lot ∈ lots, price ≤ lot.1) (hq : q ≤ depth lots) :
    price * q ≤ cost lots q := by
  have h : cost (negated lots) q ≤ -price * q := by
    refine cost_le (fun lot hlot => ?_) (by rwa [depth_negated])
    obtain ⟨lot', hmem, rfl⟩ := List.mem_map.mp hlot
    exact neg_le_neg (hprice lot' hmem)
  rw [cost_negated, neg_mul] at h
  exact neg_le_neg_iff.mp h

/-- More units do not cost less. -/
theorem cost_mono {q' : ℕ} (hprice : ∀ lot ∈ lots, 0 ≤ lot.1) (hq : q ≤ q') :
    cost lots q ≤ cost lots q' := by
  induction lots generalizing q q' with
  | nil => exact le_refl _
  | cons lot lots ih =>
    have hmin : ((min lot.2 q : ℕ) : K) ≤ (min lot.2 q' : ℕ) := by
      exact_mod_cast (by omega : min lot.2 q ≤ min lot.2 q')
    have hrest : cost lots (q - lot.2) ≤ cost lots (q' - lot.2) :=
      ih (fun l hl => hprice l (List.mem_cons_of_mem _ hl)) (by omega)
    show lot.1 * (min lot.2 q : ℕ) + cost lots (q - lot.2) ≤
      lot.1 * (min lot.2 q' : ℕ) + cost lots (q' - lot.2)
    exact add_le_add (mul_le_mul_of_nonneg_left hmin (hprice lot (by simp))) hrest

theorem cost_nonneg (hprice : ∀ lot ∈ lots, 0 ≤ lot.1) : 0 ≤ cost lots q := by
  calc (0 : K) = cost lots 0 := (cost_zero lots).symm
    _ ≤ cost lots q := cost_mono hprice (Nat.zero_le q)

/-- More units cost at most the price bound for each of them more. -/
theorem cost_le_add {q' : ℕ} (hprice : ∀ lot ∈ lots, lot.1 ≤ price) (hq : q ≤ q')
    (hdepth : q' ≤ depth lots) : cost lots q' ≤ cost lots q + price * (q' - q : ℕ) := by
  induction lots generalizing q q' with
  | nil =>
    have hq' : q' = 0 := Nat.le_zero.mp hdepth
    have hq : q = 0 := by omega
    rw [hq', hq]
    simp
  | cons lot lots ih =>
    have hdepth : q' ≤ lot.2 + depth lots := hdepth
    have hrest : cost lots (q' - lot.2) ≤
        cost lots (q - lot.2) + price * ((q' - lot.2) - (q - lot.2) : ℕ) :=
      ih (fun l hl => hprice l (List.mem_cons_of_mem _ hl)) (by omega) (by omega)
    have hmin : (min lot.2 q' : ℕ) = min lot.2 q + (min lot.2 q' - min lot.2 q) := by omega
    have hfirst : lot.1 * (min lot.2 q' - min lot.2 q : ℕ) ≤
        price * (min lot.2 q' - min lot.2 q : ℕ) :=
      mul_le_mul_of_nonneg_right (hprice lot (by simp)) (Nat.cast_nonneg _)
    have hsplit : lot.1 * (min lot.2 q' : ℕ) =
        lot.1 * (min lot.2 q : ℕ) + lot.1 * (min lot.2 q' - min lot.2 q : ℕ) := by
      rw [← mul_add, ← Nat.cast_add, ← hmin]
    have hsum : ((min lot.2 q' - min lot.2 q : ℕ) : K) + ((q' - lot.2) - (q - lot.2) : ℕ) =
        (q' - q : ℕ) := by
      rw [← Nat.cast_add]
      congr 1
      omega
    show lot.1 * (min lot.2 q' : ℕ) + cost lots (q' - lot.2) ≤
      lot.1 * (min lot.2 q : ℕ) + cost lots (q - lot.2) + price * (q' - q : ℕ)
    rw [← hsum, mul_add, hsplit]
    linarith

/-- Where the prices fall along the list, so does the average. -/
theorem average_falls {q' : ℕ} (hsorted : lots.Pairwise fun a b => b.1 ≤ a.1) (hq : q ≤ q')
    (hdepth : q' ≤ depth lots) : cost lots q' * q ≤ cost lots q * q' := by
  induction lots generalizing q q' with
  | nil => simp [cost]
  | cons lot lots ih =>
    obtain ⟨price, volume⟩ := lot
    obtain ⟨hfirst, hrest⟩ := List.pairwise_cons.mp hsorted
    have hbound : ∀ l ∈ (price, volume) :: lots, l.1 ≤ price := by
      intro l hl
      rcases List.mem_cons.mp hl with rfl | hl
      · exact le_refl _
      · exact hfirst l hl
    by_cases hin : q ≤ volume
    · -- the units are all of the first lot, the dearest one
      have hcost : cost ((price, volume) :: lots) q = price * q := by
        have htake : cost ((price, volume) :: lots) (q + 0) =
            price * q + cost ((price, volume - q) :: lots) 0 := cost_take hin 0
        rwa [Nat.add_zero, cost_zero, add_zero] at htake
      calc cost ((price, volume) :: lots) q' * q ≤ price * q' * q :=
            mul_le_mul_of_nonneg_right (cost_le hbound hdepth) (Nat.cast_nonneg _)
        _ = cost ((price, volume) :: lots) q * q' := by rw [hcost]; ring
    · obtain ⟨x, rfl⟩ : ∃ x, q = volume + x := ⟨q - volume, by omega⟩
      obtain ⟨y, rfl⟩ : ∃ y, q' = volume + y := ⟨q' - volume, by omega⟩
      have hxy : x ≤ y := by omega
      have hy : y ≤ depth lots := by
        have : volume + y ≤ volume + depth lots := hdepth
        omega
      have hsplit (n : ℕ) : cost ((price, volume) :: lots) (volume + n) =
          price * volume + cost lots n := by
        rw [cost_take (le_refl _), Nat.sub_self, cost_used_up]
      have htail := ih hrest hxy hy
      have hmore := cost_le_add hfirst hxy hy
      have hdiff : ((y - x : ℕ) : K) = y - x := Nat.cast_sub hxy
      rw [hdiff] at hmore
      rw [hsplit, hsplit, Nat.cast_add, Nat.cast_add]
      have hvolume : (0 : K) ≤ volume := Nat.cast_nonneg volume
      have hscaled := mul_le_mul_of_nonneg_right hmore hvolume
      linarith

/-- Where they rise, so does it. -/
theorem average_rises {q' : ℕ} (hsorted : lots.Pairwise fun a b => a.1 ≤ b.1) (hq : q ≤ q')
    (hdepth : q' ≤ depth lots) : cost lots q * q' ≤ cost lots q' * q := by
  have hnegated : (negated lots).Pairwise fun a b => b.1 ≤ a.1 :=
    List.pairwise_map.mpr (hsorted.imp fun h => neg_le_neg h)
  have h := average_falls hnegated hq (by rwa [depth_negated])
  rw [cost_negated, cost_negated, neg_mul, neg_mul] at h
  exact neg_le_neg_iff.mp h

end bounds

end Lots
