import Lndhubx.Dealer.ProcessMsg
import Lndhubx.Lib.Lots

/-!
# What the quote tables say about the order book

`updateQuotes` walks through a side of the book once, bucket by bucket, carrying
what is left of the level in hand. `Fill.Fills` is the invariant of that walk:
what was taken cost what `Lots.cost` says, and the level in hand with the levels
to come is what is left of the side. So a bucket has a quote exactly if the side
is deep enough, and its price is the average, rounded (`bucketQuotes_spec`).
-/

namespace Lndhubx

namespace DealerEngine

/-- The values of the prices of a side, with their volumes. -/
def lotsOf (side : List (Scaled × Nat)) : List (Decimal × ℕ) :=
  side.map fun l => (l.1.value, l.2)

/-- The prices are whole numbers of ticks. -/
def WholeTicks (side : List (Scaled × Nat)) : Prop := ∀ l ∈ side, ∃ n : ℤ, l.1.value = n

/-- How many units a side can fill. -/
def depth (side : List (Scaled × Nat)) : Nat := Lots.depth (lotsOf side)

/-- What a quantity costs, best level first. -/
def cost (side : List (Scaled × Nat)) (q : Nat) : Decimal := Lots.cost (lotsOf side) q

/-- Whole prices make whole costs. -/
theorem WholeTicks.cost {side : List (Scaled × Nat)} (h : WholeTicks side) (q : Nat) :
    ∃ n : ℤ, cost side q = n := by
  induction side generalizing q with
  | nil => exact ⟨0, Int.cast_zero.symm⟩
  | cons l side ih =>
    obtain ⟨price, hprice⟩ := h l (List.mem_cons_self ..)
    obtain ⟨rest, hrest⟩ := ih (fun l hl => h l (List.mem_cons_of_mem _ hl)) (q - l.2)
    refine ⟨price * (min l.2 q : ℕ) + rest, ?_⟩
    show l.1.value * (min l.2 q : ℕ) + DealerEngine.cost side (q - l.2) = _
    rw [hprice, hrest]
    push_cast
    rfl

namespace Fill

/-- What is left of a side: the level in hand and the levels to come. -/
def pending (f : Fill) : List (Scaled × Nat) := (f.priceAtLevel, f.quantityAtLevel) :: f.levels

/-- The walk through `side` has come to `f`. -/
structure Fills (side : List (Scaled × Nat)) (f : Fill) : Prop where
  depth : depth side = f.quantitySoFar + DealerEngine.depth f.pending
  cost : ∀ q, cost side (f.quantitySoFar + q) = f.num.value + DealerEngine.cost f.pending q

theorem Fills.start (side : List (Scaled × Nat)) : Fills side (Fill.start side) where
  depth := by
    show Lots.depth (lotsOf side) = 0 + (0 + Lots.depth (lotsOf side))
    omega
  cost q := by
    show Lots.cost (lotsOf side) (0 + q) =
      ((0 : ℕ) : Decimal) + Lots.cost ((((0 : ℕ) : Decimal), 0) :: lotsOf side) q
    rw [Lots.cost_used_up, Nat.zero_add, Nat.cast_zero, zero_add]

end Fill

end DealerEngine

namespace Scaled

theorem mul_eq_ok {a b c : Scaled} (h : a.mul b = .ok c) : c.value = a.value * b.value := by
  obtain ⟨v, hv, h⟩ := Checked.bind_eq_ok.mp h
  obtain ⟨-, rfl⟩ := Decimal.mul_eq_ok.mp hv
  have h := Checked.pure_eq_ok.mp h
  rw [← h]
  split
  next hzero =>
    rw [hzero]
    exact Nat.cast_zero
  next => rfl

theorem add_eq_ok {a b c : Scaled} (h : a.add b = .ok c) : c.value = a.value + b.value := by
  obtain ⟨v, hv, h⟩ := Checked.bind_eq_ok.mp h
  obtain ⟨-, rfl⟩ := Decimal.add_eq_ok.mp hv
  have h := Checked.pure_eq_ok.mp h
  rw [← h]
  split
  next hzero => rw [hzero, zero_add]
  next =>
    split
    next hzero => rw [hzero, add_zero]
    next => rfl

end Scaled

namespace DealerEngine

namespace Fill

/-- The cost of what was taken so far, `n` more taken at the price in hand. -/
def Adds (f : Fill) (n : Nat) (num : Scaled) : Prop :=
  num.value = f.num.value + f.priceAtLevel.value * n

/-- After `n` were taken from the level in hand. -/
def taken (f : Fill) (n : Nat) (num : Scaled) : Fill :=
  { f with quantityAtLevel := f.quantityAtLevel - n, quantitySoFar := f.quantitySoFar + n, num }

theorem take_eq_ok {f g : Fill} {n : Nat} (h : f.take n = .ok g) :
    ∃ num, g = f.taken n num ∧ f.Adds n num := by
  obtain ⟨c, hc, h⟩ := Checked.bind_eq_ok.mp h
  obtain ⟨num, hnum, h⟩ := Checked.bind_eq_ok.mp h
  refine ⟨num, (Checked.pure_eq_ok.mp h).symm, ?_⟩
  unfold Adds
  rw [Scaled.add_eq_ok hnum, Scaled.mul_eq_ok hc]
  rfl

/-- Taking from the level in hand goes on with the walk. -/
theorem Fills.take {side : List (Scaled × Nat)} {f : Fill} {n : Nat} {num : Scaled}
    (hf : Fills side f) (hn : n ≤ f.quantityAtLevel) (hnum : f.Adds n num) :
    Fills side (f.taken n num) := by
  refine ⟨?_, fun q => ?_⟩
  · have hdepth : DealerEngine.depth side =
        f.quantitySoFar + (f.quantityAtLevel + DealerEngine.depth f.levels) := hf.depth
    show DealerEngine.depth side =
      f.quantitySoFar + n + (f.quantityAtLevel - n + DealerEngine.depth f.levels)
    omega
  · have hcost := hf.cost (n + q)
    rw [← Nat.add_assoc] at hcost
    show DealerEngine.cost side (f.quantitySoFar + n + q) = num.value +
      Lots.cost ((f.priceAtLevel.value, f.quantityAtLevel - n) :: lotsOf f.levels) q
    rw [hcost, show num.value = _ from hnum, add_assoc]
    congr 1
    exact Lots.cost_take hn q

/-- A level that is used up makes room for the next one. -/
theorem Fills.next {side rest : List (Scaled × Nat)} {f : Fill} {price : Scaled} {volume : Nat}
    (hf : Fills side f) (hlevels : f.levels = (price, volume) :: rest)
    (hused : f.quantityAtLevel = 0) :
    Fills side { f with priceAtLevel := price, quantityAtLevel := volume, levels := rest } := by
  have hpending : f.pending = (f.priceAtLevel, 0) :: (price, volume) :: rest := by
    unfold pending
    rw [hused, hlevels]
  have hdepth := hf.depth
  rw [hpending] at hdepth
  refine ⟨?_, fun q => ?_⟩
  · have hexpand : DealerEngine.depth ((f.priceAtLevel, 0) :: (price, volume) :: rest) =
        0 + (volume + DealerEngine.depth rest) := rfl
    show DealerEngine.depth side = f.quantitySoFar + (volume + DealerEngine.depth rest)
    omega
  · have hcost := hf.cost q
    rw [hpending] at hcost
    exact hcost.trans (congrArg _ (Lots.cost_used_up _ _ q))

/-- The book has run out. -/
theorem Fills.exhausted {side : List (Scaled × Nat)} {f : Fill} (hf : Fills side f)
    (hlevels : f.levels = []) (hused : f.quantityAtLevel = 0) :
    Fills side { f with priceAtLevel := .ofNat 0, quantityAtLevel := 0, levels := [] } := by
  have hpending : f.pending = [(f.priceAtLevel, 0)] := by
    unfold pending
    rw [hused, hlevels]
  have hdepth := hf.depth
  rw [hpending] at hdepth
  refine ⟨hdepth, fun q => ?_⟩
  have hcost := hf.cost q
  rw [hpending] at hcost
  refine hcost.trans (congrArg _ ?_)
  exact (Lots.cost_used_up _ _ q).trans (Lots.cost_used_up _ _ q).symm

/-- Either the level in hand covers what is to be matched, or it is used up. -/
theorem turn_eq_ok {f g : Fill} {t left : Nat} (h : f.turn t = .ok (g, left)) :
    ∃ n num, g = f.taken n num ∧ f.Adds n num ∧ n ≤ f.quantityAtLevel ∧ n + left = t ∧
      (left ≠ 0 → f.quantityAtLevel = n) := by
  unfold turn at h
  split at h
  next hle =>
    obtain ⟨g', hg, h⟩ := Checked.bind_eq_ok.mp h
    obtain ⟨num, rfl, hnum⟩ := take_eq_ok hg
    injection Checked.pure_eq_ok.mp h with hg hleft
    exact ⟨t, num, hg.symm, hnum, hle, by omega, by omega⟩
  next hlt =>
    obtain ⟨g', hg, h⟩ := Checked.bind_eq_ok.mp h
    obtain ⟨num, rfl, hnum⟩ := take_eq_ok hg
    injection Checked.pure_eq_ok.mp h with hg hleft
    exact ⟨f.quantityAtLevel, num, hg.symm, hnum, le_refl _, by omega, fun _ => rfl⟩

end Fill

/-- The inner loop goes on with the walk until all is matched or the side has
run out. -/
theorem matchLevels_spec {side levels : List (Scaled × Nat)} {f g : Fill} {t left : Nat}
    (hf : Fill.Fills side { f with levels }) (h : matchLevels t f levels = .ok (g, left)) :
    Fill.Fills side g ∧ g.quantitySoFar + left = f.quantitySoFar + t ∧
      (left ≠ 0 → depth g.pending = 0) := by
  induction levels generalizing f t with
  | nil =>
    obtain ⟨⟨f', left'⟩, hturn, h⟩ := Checked.bind_eq_ok.mp h
    obtain ⟨n, num, rfl, hnum, hn, hsum, hused⟩ := Fill.turn_eq_ok hturn
    -- the last level: what is left over is not matched
    have hf' : Fill.Fills side (Fill.taken _ n num) := hf.take hn hnum
    dsimp only at h
    by_cases hleft : left' = 0
    · rw [if_pos hleft] at h
      injection Checked.pure_eq_ok.mp h with hg hl
      rw [← hg, ← hl]
      exact ⟨hf', by show f.quantitySoFar + n + 0 = _; omega, fun h => absurd rfl h⟩
    · rw [if_neg hleft] at h
      injection Checked.pure_eq_ok.mp h with hg hl
      have hzero : f.quantityAtLevel - n = 0 := by
        rw [hused hleft]
        omega
      rw [← hg, ← hl]
      exact ⟨hf'.exhausted rfl hzero, by show f.quantitySoFar + n + left' = _; omega, fun _ => rfl⟩
  | cons level rest ih =>
    obtain ⟨price, volume⟩ := level
    obtain ⟨⟨f', left'⟩, hturn, h⟩ := Checked.bind_eq_ok.mp h
    obtain ⟨n, num, rfl, hnum, hn, hsum, hused⟩ := Fill.turn_eq_ok hturn
    have hf' := hf.take (n := n) hn hnum
    dsimp only at h
    by_cases hleft : left' = 0
    · rw [if_pos hleft] at h
      injection Checked.pure_eq_ok.mp h with hg hl
      rw [← hg, ← hl]
      exact ⟨hf', by show f.quantitySoFar + n + 0 = _; omega, fun h => absurd rfl h⟩
    · rw [if_neg hleft] at h
      have hzero : f.quantityAtLevel - n = 0 := by
        rw [hused hleft]
        omega
      obtain ⟨hg, hsofar, hend⟩ := ih (f := ⟨volume, price, f.quantitySoFar + n, num, f.levels⟩)
        (hf'.next rfl hzero) h
      refine ⟨hg, ?_, hend⟩
      have hsofar : g.quantitySoFar + left = f.quantitySoFar + n + left' := hsofar
      omega

/-! ## Which buckets have a quote -/

theorem quantities_sorted : QUANTITIES.Pairwise (· < ·) := by decide

theorem pos_of_mem_quantities : ∀ q ∈ QUANTITIES, 0 < q := by decide

theorem setScale_eq_ok {x y : Scaled} {dp : Nat} (h : x.setScale dp = .ok y) :
    y.value = x.mantissa / 10 ^ dp := by
  unfold Scaled.setScale at h
  split at h
  next => exact absurd h (by simp)
  next =>
    injection h with h
    rw [← h]

section quoted

variable [Rounding]

/-- The price of a bucket at its cost, as the table has it. -/
def quotedPrice (round : Scaled → Scaled) (dp : Nat) (num : Scaled) (qty : Nat) :
    Checked Decimal := do
  let average ← num.divNat qty
  let price ← (round average).setScale dp
  return price.value

/-- The quote of a bucket is what filling it from the best level on costs. -/
structure PricedAt (round : Scaled → Scaled) (dp : Nat) (side : List (Scaled × Nat)) (qty : Nat)
    (price : Decimal) : Prop where
  filled : qty ≤ depth side
  priced : ∃ num : Scaled, num.value = cost side qty ∧ quotedPrice round dp num qty = .ok price

/-- A bucket has a quote exactly if the side is that deep. -/
theorem bucketQuotes_spec {side : List (Scaled × Nat)} {round : Scaled → Scaled} {dp : Nat}
    {buckets : List Nat} {f : Fill} {quotes : List (Nat × Decimal)} (hf : Fill.Fills side f)
    (hsorted : buckets.Pairwise (· < ·)) (hstart : ∀ q ∈ buckets, f.quantitySoFar < q)
    (h : bucketQuotes round dp f buckets = .ok quotes) :
    quotes.map (·.1) = buckets.filter (· ≤ depth side) ∧
      ∀ e ∈ quotes, PricedAt round dp side e.1 e.2 := by
  induction buckets generalizing f quotes with
  | nil =>
    have hnil := Checked.pure_eq_ok.mp h
    rw [← hnil]
    exact ⟨rfl, fun e he => absurd he (by simp)⟩
  | cons qty rest ih =>
    obtain ⟨hfirst, hrest⟩ := List.pairwise_cons.mp hsorted
    have hlt : f.quantitySoFar < qty := hstart qty (List.mem_cons_self ..)
    obtain ⟨t, ht, h⟩ := Checked.bind_eq_ok.mp h
    unfold subU64 at ht
    rw [if_pos hlt.le] at ht
    injection ht with ht
    have hpos : t ≠ 0 := by omega
    rw [if_neg hpos] at h
    obtain ⟨⟨g, left⟩, hmatch, h⟩ := Checked.bind_eq_ok.mp h
    obtain ⟨hg, hsum, hend⟩ := matchLevels_spec hf hmatch
    have hdepth := hg.depth
    dsimp only at h
    by_cases hleft : left = 0
    · -- the bucket is filled, and the walk goes on from there
      have hsofar : g.quantitySoFar = qty := by omega
      rw [if_pos hleft] at h
      obtain ⟨average, haverage, h⟩ := Checked.bind_eq_ok.mp h
      obtain ⟨price, hprice, h⟩ := Checked.bind_eq_ok.mp h
      obtain ⟨later, hlater, h⟩ := Checked.bind_eq_ok.mp h
      have h := Checked.pure_eq_ok.mp h
      obtain ⟨hkeys, hquotes⟩ := ih hg hrest (fun q hq => by rw [hsofar]; exact hfirst q hq) hlater
      have hfilled : qty ≤ depth side := by omega
      have hnum : g.num.value = cost side qty := by
        have hcost := hg.cost 0
        rw [Nat.add_zero, hsofar] at hcost
        rw [hcost]
        exact (add_eq_left.mpr (Lots.cost_zero _)).symm
      rw [← h]
      refine ⟨?_, fun e he => ?_⟩
      · rw [List.filter_cons, if_pos (decide_eq_true hfilled), ← hkeys]
        rfl
      · rcases List.mem_cons.mp he with rfl | he
        · refine ⟨hfilled, g.num, hnum, ?_⟩
          unfold quotedPrice
          rw [← hsofar]
          exact Checked.bind_eq_ok.mpr ⟨average, haverage,
            Checked.bind_eq_ok.mpr ⟨price, hprice, rfl⟩⟩
        · exact hquotes e he
    · -- the side has run out, and no later bucket is filled either
      have hdone : depth g.pending = 0 := hend hleft
      rw [if_neg hleft] at h
      have hshallow : ¬qty ≤ depth side := by omega
      rw [List.filter_cons, if_neg (by simpa using hshallow)]
      refine ih hg hrest (fun q hq => ?_) h
      have hq := hfirst q hq
      omega

theorem bidSideQuotes_spec {dp : Nat} {bids : BookSide} {quotes : List (Nat × Decimal)}
    (h : bidSideQuotes dp bids = .ok quotes) :
    quotes.map (·.1) = QUANTITIES.filter (· ≤ depth bids.levels.reverse) ∧
      ∀ e ∈ quotes, PricedAt .ceil dp bids.levels.reverse e.1 e.2 :=
  bucketQuotes_spec (.start _) quantities_sorted pos_of_mem_quantities h

theorem askSideQuotes_spec {dp : Nat} {asks : BookSide} {quotes : List (Nat × Decimal)}
    (h : askSideQuotes dp asks = .ok quotes) :
    quotes.map (·.1) = QUANTITIES.filter (· ≤ depth asks.levels) ∧
      ∀ e ∈ quotes, PricedAt .floor dp asks.levels e.1 e.2 :=
  bucketQuotes_spec (.start _) quantities_sorted pos_of_mem_quantities h

/-! ## What a bucket is quoted at -/

theorem divNat_eq_ok {a x : Scaled} {n : Nat} (h : a.divNat n = .ok x) :
    n ≠ 0 ∧ |x.value| ≤ Decimal.MAX ∧ x.value = Rounding.round (a.value / n) := by
  obtain ⟨v, hv, h⟩ := Checked.bind_eq_ok.mp h
  obtain ⟨hn, hmax, rfl⟩ := Decimal.div_eq_ok.mp hv
  rw [← Checked.pure_eq_ok.mp h]
  exact ⟨fun h0 => hn (by rw [h0]; exact Nat.cast_zero), hmax, rfl⟩

theorem quotedPrice_eq_ok {round : Scaled → Scaled} {num : Scaled} {dp qty : Nat} {price : Decimal}
    (h : quotedPrice round dp num qty = .ok price) :
    qty ≠ 0 ∧ |Rounding.round (num.value / qty)| ≤ Decimal.MAX ∧
      ∃ average : Scaled, average.value = Rounding.round (num.value / qty) ∧
        price = (round average).mantissa / 10 ^ dp := by
  obtain ⟨average, haverage, h⟩ := Checked.bind_eq_ok.mp h
  obtain ⟨y, hy, h⟩ := Checked.bind_eq_ok.mp h
  obtain ⟨hqty, hmax, hvalue⟩ := divNat_eq_ok haverage
  rw [← Checked.pure_eq_ok.mp h, setScale_eq_ok hy, ← hvalue]
  exact ⟨hqty, hmax, average, rfl, rfl⟩

/-- A bucket is quoted, on the bid side, at the average rounded up. -/
theorem quotedPrice_ceil {num : Scaled} {dp qty : Nat} {price : Decimal}
    (h : quotedPrice .ceil dp num qty = .ok price) :
    qty ≠ 0 ∧ price = ⌈Rounding.round (num.value / qty)⌉ / 10 ^ dp := by
  obtain ⟨hqty, -, average, hvalue, rfl⟩ := quotedPrice_eq_ok h
  rw [← hvalue]
  exact ⟨hqty, congrArg (· / 10 ^ dp) (mul_one _)⟩

/-- And on the ask side at the average rounded down. -/
theorem quotedPrice_floor {num : Scaled} {dp qty : Nat} {price : Decimal}
    (h : quotedPrice .floor dp num qty = .ok price) :
    qty ≠ 0 ∧ price = ⌊Rounding.round (num.value / qty)⌋ / 10 ^ dp := by
  obtain ⟨hqty, -, average, hvalue, rfl⟩ := quotedPrice_eq_ok h
  rw [← hvalue]
  exact ⟨hqty, congrArg (· / 10 ^ dp) (mul_one _)⟩

end quoted

/-! ## Bounds of a quote -/

theorem mem_lotsOf {side : List (Scaled × Nat)} {lot : Decimal × ℕ} (h : lot ∈ lotsOf side) :
    ∃ l ∈ side, lot.1 = l.1.value := by
  obtain ⟨l, hl, rfl⟩ := List.mem_map.mp h
  exact ⟨l, hl, rfl⟩

section bounds

variable {side : List (Scaled × Nat)} {dp q n : Nat} {p : Decimal}

/-- The average price of a bucket is not above a bound of the prices. -/
theorem average_le (hn : ∀ l ∈ side, l.1.value ≤ n) (hq : q ≠ 0) (hfilled : q ≤ depth side) :
    cost side q / q ≤ n := by
  have hq : (0 : Decimal) < q := by exact_mod_cast Nat.pos_of_ne_zero hq
  rw [div_le_iff₀ hq]
  refine Lots.cost_le (fun lot hlot => ?_) hfilled
  obtain ⟨l, hl, hvalue⟩ := mem_lotsOf hlot
  rw [hvalue]
  exact hn l hl

theorem le_average (hn : ∀ l ∈ side, (n : Decimal) ≤ l.1.value) (hq : q ≠ 0)
    (hfilled : q ≤ depth side) : n ≤ cost side q / q := by
  have hq : (0 : Decimal) < q := by exact_mod_cast Nat.pos_of_ne_zero hq
  rw [le_div_iff₀ hq]
  refine Lots.le_cost (fun lot hlot => ?_) hfilled
  obtain ⟨l, hl, hvalue⟩ := mem_lotsOf hlot
  rw [hvalue]
  exact hn l hl

variable [Rounding]

-- A whole number that bounds the prices, and that arithmetic keeps, bounds the average,
-- rounded either way.

theorem PricedAt.bid_le (hkept : Rounding.round n = n) (hn : ∀ l ∈ side, l.1.value ≤ n)
    (h : PricedAt .ceil dp side q p) : p ≤ n / 10 ^ dp := by
  obtain ⟨num, hnum, hprice⟩ := h.priced
  obtain ⟨hq, rfl⟩ := quotedPrice_ceil hprice
  have hround : ⌈Rounding.round (num.value / q)⌉ ≤ (n : ℤ) := by
    refine Int.ceil_le.mpr ?_
    rw [hnum, Int.cast_natCast, ← hkept]
    exact Rounding.mono (average_le hn hq h.filled)
  exact div_le_div_of_nonneg_right (by exact_mod_cast hround) (by positivity)

theorem PricedAt.le_bid (hkept : Rounding.round n = n) (hn : ∀ l ∈ side, (n : Decimal) ≤ l.1.value)
    (h : PricedAt .ceil dp side q p) : n / 10 ^ dp ≤ p := by
  obtain ⟨num, hnum, hprice⟩ := h.priced
  obtain ⟨hq, rfl⟩ := quotedPrice_ceil hprice
  have hround : (n : Decimal) ≤ ⌈Rounding.round (num.value / q)⌉ := by
    rw [hnum, ← hkept]
    exact (Rounding.mono (le_average hn hq h.filled)).trans (Int.le_ceil _)
  exact div_le_div_of_nonneg_right hround (by positivity)

theorem PricedAt.ask_le (hkept : Rounding.round n = n) (hn : ∀ l ∈ side, l.1.value ≤ n)
    (h : PricedAt .floor dp side q p) : p ≤ n / 10 ^ dp := by
  obtain ⟨num, hnum, hprice⟩ := h.priced
  obtain ⟨hq, rfl⟩ := quotedPrice_floor hprice
  have hround : (⌊Rounding.round (num.value / q)⌋ : Decimal) ≤ n := by
    rw [hnum, ← hkept]
    exact (Int.floor_le _).trans (Rounding.mono (average_le hn hq h.filled))
  exact div_le_div_of_nonneg_right hround (by positivity)

theorem PricedAt.le_ask (hkept : Rounding.round n = n) (hn : ∀ l ∈ side, (n : Decimal) ≤ l.1.value)
    (h : PricedAt .floor dp side q p) : n / 10 ^ dp ≤ p := by
  obtain ⟨num, hnum, hprice⟩ := h.priced
  obtain ⟨hq, rfl⟩ := quotedPrice_floor hprice
  have hround : (n : ℤ) ≤ ⌊Rounding.round (num.value / q)⌋ := by
    refine Int.le_floor.mpr ?_
    rw [hnum, Int.cast_natCast, ← hkept]
    exact Rounding.mono (le_average hn hq h.filled)
  exact div_le_div_of_nonneg_right (by exact_mod_cast hround) (by positivity)

end bounds

/-! ## Storing quotes -/

/-- The quotes of one pass, put into a table. -/
def insertAll (t : QuoteTable) (quotes : List (Nat × Decimal)) : QuoteTable :=
  quotes.foldl (fun t e => t.insert e.1 e.2) t

theorem getElem?_insertAll_not_mem {t : QuoteTable} {quotes : List (Nat × Decimal)} {q : Nat}
    (h : q ∉ quotes.map (·.1)) : (insertAll t quotes)[q]? = t[q]? := by
  induction quotes generalizing t with
  | nil => rfl
  | cons e quotes ih =>
    rw [List.map_cons, List.mem_cons, not_or] at h
    show (insertAll (t.insert e.1 e.2) quotes)[q]? = t[q]?
    rw [ih h.2, Std.ExtTreeMap.getElem?_insert, if_neg]
    intro heq
    exact h.1 (Std.LawfulEqCmp.eq_of_compare heq).symm

/-- A bucket that was quoted has the new quote, whatever it had before. -/
theorem getElem?_insertAll_mem {t t' : QuoteTable} {quotes : List (Nat × Decimal)} {q : Nat}
    (h : q ∈ quotes.map (·.1)) : (insertAll t quotes)[q]? = (insertAll t' quotes)[q]? := by
  induction quotes generalizing t t' with
  | nil => exact absurd h (by simp)
  | cons e quotes ih =>
    show (insertAll (t.insert e.1 e.2) quotes)[q]? = (insertAll (t'.insert e.1 e.2) quotes)[q]?
    by_cases hq : q ∈ quotes.map (·.1)
    · exact ih hq
    · have heq : q = e.1 := by
        rw [List.map_cons, List.mem_cons] at h
        exact h.resolve_right hq
      rw [getElem?_insertAll_not_mem hq, getElem?_insertAll_not_mem hq, heq]
      simp

theorem getElem?_insertAll_ne_none {t : QuoteTable} {quotes : List (Nat × Decimal)} {q : Nat}
    (h : q ∈ quotes.map (·.1)) : (insertAll t quotes)[q]? ≠ none := by
  induction quotes generalizing t with
  | nil => exact absurd h (by simp)
  | cons e quotes ih =>
    show (insertAll (t.insert e.1 e.2) quotes)[q]? ≠ none
    by_cases hq : q ∈ quotes.map (·.1)
    · exact ih hq
    · have heq : q = e.1 := by
        rw [List.map_cons, List.mem_cons] at h
        exact h.resolve_right hq
      rw [getElem?_insertAll_not_mem hq, heq]
      simp

theorem mem_of_getElem?_insertAll {t : QuoteTable} {quotes : List (Nat × Decimal)} {q : Nat}
    {price : Decimal} (h : (insertAll t quotes)[q]? = some price) :
    t[q]? = some price ∨ (q, price) ∈ quotes := by
  induction quotes generalizing t with
  | nil => exact .inl h
  | cons e quotes ih =>
    rcases ih h with h | h
    · rw [Std.ExtTreeMap.getElem?_insert] at h
      split at h
      next heq =>
        injection h with h
        right
        rw [← Std.LawfulEqCmp.eq_of_compare heq, ← h]
        exact List.mem_cons_self ..
      next => exact .inl h
    · exact .inr (List.mem_cons_of_mem _ h)

theorem lookup_storeQuotes_ne {tables : AList fun _ : Symbol => QuoteTable} {symbol other : Symbol}
    {quotes : List (Nat × Decimal)} (h : other ≠ symbol) :
    (storeQuotes tables symbol quotes).lookup other = tables.lookup other := by
  unfold storeQuotes
  induction quotes generalizing tables with
  | nil => rfl
  | cons e quotes ih =>
    rw [List.foldl_cons, ih, AList.lookup_insert_ne h]

/-- A table is made with the first quote. -/
theorem lookup_storeQuotes (tables : AList fun _ : Symbol => QuoteTable) (symbol : Symbol)
    (quotes : List (Nat × Decimal)) :
    (storeQuotes tables symbol quotes).lookup symbol =
      if quotes = [] then tables.lookup symbol
      else some (insertAll ((tables.lookup symbol).getD ∅) quotes) := by
  unfold storeQuotes insertAll
  induction quotes generalizing tables with
  | nil => rfl
  | cons e quotes ih =>
    rw [List.foldl_cons, ih, if_neg (List.cons_ne_nil _ _), List.foldl_cons, AList.lookup_insert]
    split
    next hnil => rw [hnil]; rfl
    next => rfl

end DealerEngine

end Lndhubx
