import Lndhubx.Core.Decimal

/-!
# Quotients

A quotient seldom has an end, and a `Decimal` has room for 28 places at most, and for a
mantissa of 96 bits. `rust_decimal` rounds it at the last place there is room for, a
midpoint to the even digit (`fit`). The digits that are given up can matter: the inverse
of `169999.998300000017` is a little less than `0.000005882353`, and rounded at the last
place it is that number (`fit_rounds_up`).

What such a rounding does is said once, for `fit` (`fit_mono`, `fit_neg`,
`fit_eq_self`, `abs_fit_sub_le`), and once for any rounding that keeps the order and the
numbers that are short enough (`Rounding`), which arithmetic that is exact is a case of
too (`Rounding.exact`). `div` takes the rounding as an instance, and the crate's is the
one that is found where no other is named.
-/

namespace Lndhubx

namespace Decimal

/-! ## Rounding to the nearest whole number -/

/-- A whole number is not rounded. -/
theorem roundEven_intCast (n : ℤ) : roundInt .midpointNearestEven (n : Decimal) = n := by
  unfold roundInt
  norm_num

/-- The nearest whole number is one of the two next to it. -/
theorem roundEven_mem (x : Decimal) :
    roundInt .midpointNearestEven x = ⌊x⌋ ∨ roundInt .midpointNearestEven x = ⌊x⌋ + 1 := by
  unfold roundInt
  grind

/-- It is at most half a unit away. -/
theorem abs_roundEven_sub_le (x : Decimal) :
    |(roundInt .midpointNearestEven x : Decimal) - x| ≤ 1 / 2 := by
  have hle : (⌊x⌋ : Decimal) ≤ x := Int.floor_le x
  have hlt : x < ⌊x⌋ + 1 := Int.lt_floor_add_one x
  unfold roundInt
  dsimp only
  split
  next h =>
    rw [abs_le]
    constructor <;> linarith
  next h =>
    -- from the midpoint on, up or down does not matter at the midpoint itself
    have hhalf : 1 / 2 ≤ x - ⌊x⌋ := not_lt.mp h
    have hup : |((⌊x⌋ + 1 : ℤ) : Decimal) - x| ≤ 1 / 2 := by
      push_cast
      rw [abs_le]
      constructor <;> linarith
    split
    next => exact hup
    next hmid =>
      have heq : x - ⌊x⌋ = 1 / 2 := le_antisymm (not_lt.mp hmid) hhalf
      split
      next =>
        rw [abs_sub_comm, heq, abs_of_pos one_half_pos]
      next => exact hup

/-- A larger number is not rounded to a smaller one. -/
theorem roundEven_mono {x y : Decimal} (h : x ≤ y) :
    roundInt .midpointNearestEven x ≤ roundInt .midpointNearestEven y := by
  have hfloor : ⌊x⌋ ≤ ⌊y⌋ := Int.floor_mono h
  rcases hfloor.lt_or_eq with hlt | heq
  · have hx := roundEven_mem x
    have hy := roundEven_mem y
    omega
  · have hsub : x - ⌊x⌋ ≤ y - ⌊y⌋ := by
      rw [heq]
      linarith
    unfold roundInt
    dsimp only
    rw [heq] at hsub ⊢
    split_ifs <;> first | omega | linarith

/-- The midpoints of negative numbers go to the even digit like their mirror images. -/
theorem roundEven_neg (x : Decimal) :
    roundInt .midpointNearestEven (-x) = -roundInt .midpointNearestEven x := by
  by_cases hint : (⌊x⌋ : Decimal) = x
  · rw [← hint, ← Int.cast_neg, roundEven_intCast, roundEven_intCast]
  · -- the fraction of `-x` is what the fraction of `x` lacks
    have hle : (⌊x⌋ : Decimal) < x := lt_of_le_of_ne (Int.floor_le x) hint
    have hlt : x < ⌊x⌋ + 1 := Int.lt_floor_add_one x
    have hneg : ⌊-x⌋ = -⌊x⌋ - 1 := by
      rw [Int.floor_eq_iff]
      push_cast
      constructor <;> linarith
    unfold roundInt
    dsimp only
    rw [hneg]
    push_cast
    split_ifs <;> first | omega | linarith

/-- An even number is reached from the midpoint below it on. -/
theorem le_roundEven_iff {n : ℤ} (hn : Even n) (x : Decimal) :
    n ≤ roundInt .midpointNearestEven x ↔ (n : Decimal) - 1 / 2 ≤ x := by
  constructor
  · intro h
    have hnear := (abs_le.mp (abs_roundEven_sub_le x)).2
    have hcast : (n : Decimal) ≤ roundInt .midpointNearestEven x := by exact_mod_cast h
    linarith
  · intro h
    have hmid : roundInt .midpointNearestEven ((n : Decimal) - 1 / 2) = n := by
      have hfloor : ⌊(n : Decimal) - 1 / 2⌋ = n - 1 := by
        rw [Int.floor_eq_iff]
        push_cast
        constructor <;> linarith
      obtain ⟨k, hk⟩ := hn
      unfold roundInt
      dsimp only
      rw [hfloor]
      push_cast
      norm_num
      omega
    rw [← hmid]
    exact roundEven_mono h

/-! ## The places a number has room for -/

/-- The mantissa of a number that is rounded at a number of places. -/
def mantissaAt (x : ℚ) (dp : Nat) : ℤ := roundInt .midpointNearestEven (x * 10 ^ dp)

/-- The largest number of places, up to a bound, whose mantissa takes no more than 96
bits. -/
def placesUpTo (x : ℚ) : Nat → Nat
  | 0 => 0
  | dp + 1 => if |mantissaAt x (dp + 1)| < 2 ^ 96 then dp + 1 else placesUpTo x dp

/-- `Decimal::MAX_SCALE`. -/
def MAX_SCALE : Nat := 28

/-- The places that are kept of a number. -/
def places (x : ℚ) : Nat := placesUpTo x MAX_SCALE

/-- A number as the crate rounds it where it has more places than there is room for. -/
def fit (x : ℚ) : Decimal := roundDp x (places x)

example : fit (2 / 3) = 6666666666666666666666666667 / 10 ^ 28 := by decide +kernel

/-- One over this number is rounded up, to a number of twelve places. -/
theorem fit_rounds_up : 1 / (169999.998300000017 : ℚ) < 0.000005882353 ∧
    fit (1 / 169999.998300000017) = 0.000005882353 := by
  constructor
  · norm_num
  · decide +kernel

/-- No more places than were looked at. -/
theorem placesUpTo_le (x : ℚ) (bound : Nat) : placesUpTo x bound ≤ bound := by
  induction bound with
  | zero => exact le_rfl
  | succ dp ih =>
    unfold placesUpTo
    split
    · exact le_rfl
    · omega

/-- With as many places as there are, the mantissa has 96 bits. -/
theorem mantissaAt_placesUpTo (x : ℚ) (bound : Nat) :
    |mantissaAt x (placesUpTo x bound)| < 2 ^ 96 ∨ placesUpTo x bound = 0 := by
  induction bound with
  | zero => exact .inr rfl
  | succ dp ih =>
    unfold placesUpTo
    split
    next h => exact .inl h
    next => exact ih

/-- With more of them it has not. -/
theorem le_mantissaAt_of_lt {x : ℚ} (bound : Nat) {dp : Nat} (hlt : placesUpTo x bound < dp)
    (hle : dp ≤ bound) : 2 ^ 96 ≤ |mantissaAt x dp| := by
  induction bound with
  | zero => omega
  | succ k ih =>
    unfold placesUpTo at hlt
    split at hlt
    next => omega
    next hbig =>
      rcases hle.eq_or_lt with rfl | hle
      · exact not_lt.mp hbig
      · exact ih hlt (by omega)

/-- Places there is room for are kept. -/
theorem le_placesUpTo {x : ℚ} {bound dp : Nat} (h : |mantissaAt x dp| < 2 ^ 96)
    (hle : dp ≤ bound) : dp ≤ placesUpTo x bound := by
  by_contra hlt
  exact absurd (le_mantissaAt_of_lt bound (not_le.mp hlt) hle) (not_le.mpr h)

/-- A mantissa keeps its digits when the sign changes. -/
theorem mantissaAt_neg (x : ℚ) (dp : Nat) : mantissaAt (-x) dp = -mantissaAt x dp := by
  unfold mantissaAt
  rw [neg_mul, roundEven_neg]

/-- At the same place, a larger number has no smaller mantissa. -/
theorem mantissaAt_mono {x y : ℚ} (h : x ≤ y) (dp : Nat) : mantissaAt x dp ≤ mantissaAt y dp :=
  roundEven_mono (mul_le_mul_of_nonneg_right h (by positivity))

/-- Zero at any place. -/
theorem mantissaAt_zero (dp : Nat) : mantissaAt 0 dp = 0 := by
  unfold mantissaAt
  rw [zero_mul]
  exact roundEven_intCast 0

/-- The mantissa has the sign of the number. -/
theorem mantissaAt_nonneg {x : ℚ} (h : 0 ≤ x) (dp : Nat) : 0 ≤ mantissaAt x dp := by
  rw [← mantissaAt_zero dp]
  exact mantissaAt_mono h dp

/-- The sign takes no room. -/
theorem places_neg (x : ℚ) : places (-x) = places x := by
  unfold places
  generalize MAX_SCALE = bound
  induction bound with
  | zero => rfl
  | succ dp ih =>
    unfold placesUpTo
    rw [mantissaAt_neg, abs_neg, ih]

/-- A larger number has room for fewer places. -/
theorem places_anti {x y : ℚ} (h0 : 0 ≤ x) (h : x ≤ y) : places y ≤ places x := by
  rcases mantissaAt_placesUpTo y MAX_SCALE with hfits | hzero
  · refine le_placesUpTo (lt_of_le_of_lt ?_ hfits) (placesUpTo_le y _)
    rw [abs_of_nonneg (mantissaAt_nonneg h0 _), abs_of_nonneg (mantissaAt_nonneg (h0.trans h) _)]
    exact mantissaAt_mono h _
  · unfold places
    omega

/-! ## What the rounding does -/

/-- The number that is kept, as its mantissa over its places. -/
theorem fit_eq (x : ℚ) : fit x = mantissaAt x (places x) / 10 ^ places x := rfl

/-- A rounding of both signs alike. -/
theorem fit_neg (x : ℚ) : fit (-x) = -fit x := by
  rw [fit_eq, fit_eq, places_neg, mantissaAt_neg, Int.cast_neg, neg_div]

/-- A number that is not negative is not rounded below zero. -/
theorem fit_nonneg {x : ℚ} (h : 0 ≤ x) : 0 ≤ fit x := by
  rw [fit_eq]
  exact div_nonneg (by exact_mod_cast mantissaAt_nonneg h _) (by positivity)

/-- Of two numbers with different numbers of places, the one with the fewer places lies
beyond the largest mantissa of the other. The two are close there: a tenth of `2 ^ 96 -
1/2` is rounded up. -/
theorem fit_le_of_places_lt {x y : ℚ} (h0 : 0 ≤ x) (h : x ≤ y) (hplaces : places y < places x) :
    fit x ≤ fit y := by
  set s := places x with hs
  set t := places y with ht
  have hsmall : mantissaAt x s < 2 ^ 96 := by
    rcases mantissaAt_placesUpTo x MAX_SCALE with hfits | hzero
    · exact (le_abs_self _).trans_lt hfits
    · have hs0 : s = 0 := hzero
      omega
  have hbig : 2 ^ 96 ≤ mantissaAt y (t + 1) := by
    have hle : 2 ^ 96 ≤ |mantissaAt y (t + 1)| := le_mantissaAt_of_lt MAX_SCALE
      (Nat.lt_succ_self t) (hplaces.trans_le (placesUpTo_le x MAX_SCALE))
    rwa [abs_of_nonneg (mantissaAt_nonneg (h0.trans h) _)] at hle
  -- what is left of `y` when the last place goes
  have htenth : (2 ^ 96 - 1 / 2) / 10 ≤ y * 10 ^ t := by
    have hnear := (le_roundEven_iff (n := 2 ^ 96) (by decide) (y * 10 ^ (t + 1))).mp hbig
    push_cast at hnear
    rw [div_le_iff₀ (by norm_num), mul_assoc, ← pow_succ]
    exact hnear
  have hkept : 7922816251426433759354395034 ≤ mantissaAt y t := by
    unfold mantissaAt
    rw [le_roundEven_iff (by decide)]
    refine le_trans ?_ htenth
    norm_num
  have hpow : (10 : ℚ) ^ (t + 1) ≤ 10 ^ s := pow_le_pow_right₀ (by norm_num) hplaces
  calc fit x = mantissaAt x s / 10 ^ s := rfl
    _ ≤ 2 ^ 96 / 10 ^ s := by
      gcongr
      exact_mod_cast hsmall.le
    _ ≤ 2 ^ 96 / 10 ^ (t + 1) := div_le_div_of_nonneg_left (by positivity) (by positivity) hpow
    _ ≤ 7922816251426433759354395034 * 10 / 10 ^ (t + 1) := by
      gcongr
      norm_num
    _ = 7922816251426433759354395034 / 10 ^ t := by
      rw [pow_succ]
      exact mul_div_mul_right _ _ (by norm_num)
    _ ≤ mantissaAt y t / 10 ^ t := by
      gcongr
      exact_mod_cast hkept

/-- Rounding keeps the order. -/
theorem fit_mono {x y : ℚ} (h : x ≤ y) : fit x ≤ fit y := by
  have hpos {x y : ℚ} (h0 : 0 ≤ x) (h : x ≤ y) : fit x ≤ fit y := by
    rcases (places_anti h0 h).lt_or_eq with hlt | heq
    · exact fit_le_of_places_lt h0 h hlt
    · rw [fit_eq, fit_eq, heq]
      gcongr
      exact_mod_cast mantissaAt_mono h _
  rcases le_total 0 x with hx | hx
  · exact hpos hx h
  · rcases le_total 0 y with hy | hy
    · have hneg : 0 ≤ fit (-x) := fit_nonneg (neg_nonneg.mpr hx)
      rw [fit_neg] at hneg
      exact (neg_nonneg.mp hneg).trans (fit_nonneg hy)
    · have hneg := hpos (neg_nonneg.mpr hy) (neg_le_neg h)
      rw [fit_neg, fit_neg] at hneg
      exact neg_le_neg_iff.mp hneg

/-- What every value of the number type meets: a whole mantissa of 96 bits at no more than
28 decimal places. -/
def Representable (x : ℚ) : Prop :=
  ∃ dp ≤ MAX_SCALE, ∃ n : ℤ, |n| < 2 ^ 96 ∧ x = n / 10 ^ dp

/-- The sign bit is free. -/
theorem Representable.neg {x : ℚ} (h : Representable x) : Representable (-x) := by
  obtain ⟨dp, hdp, n, hn, rfl⟩ := h
  exact ⟨dp, hdp, -n, by rwa [abs_neg], by push_cast; ring⟩

/-- Whole numbers are, as far as the range goes. -/
theorem Representable.intCast {n : ℤ} (h : |(n : ℚ)| ≤ MAX) : Representable n := by
  refine ⟨0, Nat.zero_le _, n, ?_, by simp⟩
  have hlt : |(n : ℚ)| < 2 ^ 96 := h.trans_lt (by norm_num [MAX])
  exact_mod_cast hlt

/-- What has a representation is in range. -/
theorem Representable.abs_le {x : ℚ} (h : Representable x) : |x| ≤ MAX := by
  obtain ⟨dp, -, n, hn, rfl⟩ := h
  have hone : (1 : ℚ) ≤ 10 ^ dp := one_le_pow₀ (by norm_num)
  have hmax : |(n : ℚ)| ≤ MAX := by
    have hn : |n| ≤ 2 ^ 96 - 1 := by omega
    unfold MAX
    exact_mod_cast hn
  rw [abs_div, abs_of_pos (zero_lt_one.trans_le hone)]
  exact (div_le_self (abs_nonneg _) hone).trans hmax

/-- It has 28 places at most. -/
theorem Representable.hasDp {x : ℚ} (h : Representable x) : HasDp MAX_SCALE x := by
  obtain ⟨dp, hdp, n, -, rfl⟩ := h
  refine ⟨n * 10 ^ (MAX_SCALE - dp), ?_⟩
  have hsplit : (10 : ℚ) ^ MAX_SCALE = 10 ^ dp * 10 ^ (MAX_SCALE - dp) := by
    rw [← pow_add, Nat.add_sub_cancel' hdp]
  push_cast
  rw [hsplit, mul_div_mul_right _ _ (by positivity)]

/-- A number there is room for is kept. -/
theorem fit_eq_self {x : ℚ} (h : Representable x) : fit x = x := by
  obtain ⟨dp, hdp, n, hn, rfl⟩ := h
  have hpow : (10 : ℚ) ^ dp ≠ 0 := by positivity
  have hmantissa : mantissaAt ((n : ℚ) / 10 ^ dp) dp = n := by
    unfold mantissaAt
    rw [div_mul_cancel₀ _ hpow, roundEven_intCast]
  have hle : dp ≤ places ((n : ℚ) / 10 ^ dp) := le_placesUpTo (by rwa [hmantissa]) hdp
  -- more places change nothing either
  obtain ⟨k, hk⟩ := Nat.exists_eq_add_of_le hle
  have hwhole : (n : ℚ) / 10 ^ dp * 10 ^ (dp + k) = ((n * 10 ^ k : ℤ) : ℚ) := by
    rw [pow_add, ← mul_assoc, div_mul_cancel₀ _ hpow]
    push_cast
    rfl
  rw [fit_eq, hk, mantissaAt, hwhole, roundEven_intCast, ← hwhole,
    mul_div_cancel_right₀ _ (by positivity)]

/-- A number is off by half a unit of the last place that is left. -/
theorem abs_fit_sub_le_half (x : ℚ) : |fit x - x| ≤ 1 / 2 / 10 ^ places x := by
  have hp : (0 : ℚ) < 10 ^ places x := by positivity
  have hnear := abs_roundEven_sub_le (x * 10 ^ places x)
  have hunit : |fit x - x| * 10 ^ places x =
      |(mantissaAt x (places x) : ℚ) - x * 10 ^ places x| := by
    rw [← abs_of_pos hp, ← abs_mul, abs_of_pos hp, sub_mul, fit_eq, div_mul_cancel₀ _ hp.ne']
  rw [le_div_iff₀ hp, hunit]
  exact hnear

/-- Where places had to go, 28 digits are left: what a rounding takes or adds is nothing
beside the number, or less than the last of 28 places. -/
theorem abs_fit_sub_le (x : ℚ) : |fit x - x| ≤ max 1 |x| / 10 ^ 28 := by
  refine (abs_fit_sub_le_half x).trans ?_
  have hle : places x ≤ 28 := placesUpTo_le x MAX_SCALE
  rcases hle.lt_or_eq with hlt | heq
  · have hbig : 2 ^ 96 ≤ |mantissaAt x (places x + 1)| :=
      le_mantissaAt_of_lt MAX_SCALE (Nat.lt_succ_self _) hlt
    have hcast : ((2 ^ 96 : ℤ) : ℚ) ≤ |(mantissaAt x (places x + 1) : ℚ)| := by
      exact_mod_cast hbig
    have hnear : |(mantissaAt x (places x + 1) : ℚ)| - |x * 10 ^ (places x + 1)| ≤ 1 / 2 :=
      (abs_sub_abs_le_abs_sub _ _).trans (abs_roundEven_sub_le _)
    have hp : (0 : ℚ) < 10 ^ places x := by positivity
    rw [abs_mul, abs_of_pos (show (0 : ℚ) < 10 ^ (places x + 1) by positivity), pow_succ] at hnear
    have hscaled : 2 ^ 96 - 1 / 2 ≤ |x| * (10 ^ places x * 10) := by
      push_cast at hcast
      linarith
    rw [div_le_div_iff₀ hp (by positivity)]
    have hmax : |x| ≤ max 1 |x| := le_max_right _ _
    calc (1 : ℚ) / 2 * 10 ^ 28 ≤ (2 ^ 96 - 1 / 2) / 10 := by norm_num
      _ ≤ |x| * 10 ^ places x := by linarith
      _ ≤ max 1 |x| * 10 ^ places x := mul_le_mul_of_nonneg_right hmax hp.le
  · rw [heq]
    gcongr
    exact (by norm_num : (1 : ℚ) / 2 ≤ 1).trans (le_max_left _ _)

/-- So it is hardly larger. -/
theorem abs_fit_le (x : ℚ) : |fit x| ≤ 11 / 10 * max 1 |x| := by
  have hnear := abs_fit_sub_le x
  have hmax : |x| ≤ max 1 |x| := le_max_right _ _
  have htri : |fit x| - |x| ≤ |fit x - x| := abs_sub_abs_le_abs_sub _ _
  have hpos : 0 ≤ max 1 |x| := zero_le_one.trans (le_max_left _ _)
  have hsmall : max 1 |x| / 10 ^ 28 ≤ 1 / 10 * max 1 |x| := by
    rw [div_le_iff₀ (by positivity)]
    linarith
  linarith

/-- The rounded product of two rounded numbers, one of them rounded to `w` from about `y`:
it is off by a few units of the last digit. -/
theorem fit_mul_near {share y w bound size : ℚ} (hbound : max 1 |share| ≤ bound)
    (hsize : 1 ≤ size) (hy : |y| ≤ 11 / 10 * size) (hw : |w - y| ≤ 11 / 10 * size / 10 ^ 28) :
    |fit (fit share * w) - share * y| ≤ 4 * (bound * size) / 10 ^ 28 := by
  have hb0 : 0 ≤ bound := (zero_le_one.trans (le_max_left _ _)).trans hbound
  have hbs : 1 ≤ bound * size :=
    one_le_mul_of_one_le_of_one_le ((le_max_left _ _).trans hbound) hsize
  have hshare : |fit share - share| ≤ bound / 10 ^ 28 :=
    (abs_fit_sub_le share).trans (by gcongr)
  have hfit : |fit share| ≤ 11 / 10 * bound := (abs_fit_le share).trans (by gcongr)
  have hwabs : |w| ≤ 12 / 10 * size := by
    have htri : |w| - |y| ≤ |w - y| := abs_sub_abs_le_abs_sub _ _
    have hsmall : 11 / 10 * size / 10 ^ 28 ≤ 1 / 10 * size := by
      rw [div_le_iff₀ (by positivity)]
      linarith
    linarith
  have hproduct : |fit share * w| ≤ 132 / 100 * (bound * size) := by
    rw [abs_mul]
    calc |fit share| * |w| ≤ 11 / 10 * bound * (12 / 10 * size) :=
          mul_le_mul hfit hwabs (abs_nonneg _) (by positivity)
      _ = 132 / 100 * (bound * size) := by ring
  have hround : |fit (fit share * w) - fit share * w| ≤ 132 / 100 * (bound * size) / 10 ^ 28 := by
    refine (abs_fit_sub_le _).trans ?_
    gcongr
    exact max_le (by linarith) hproduct
  have hleft : |fit share * (w - y)| ≤ 121 / 100 * (bound * size) / 10 ^ 28 := by
    rw [abs_mul]
    calc |fit share| * |w - y| ≤ 11 / 10 * bound * (11 / 10 * size / 10 ^ 28) :=
          mul_le_mul hfit hw (abs_nonneg _) (by positivity)
      _ = 121 / 100 * (bound * size) / 10 ^ 28 := by ring
  have hright : |(fit share - share) * y| ≤ 110 / 100 * (bound * size) / 10 ^ 28 := by
    rw [abs_mul]
    calc |fit share - share| * |y| ≤ bound / 10 ^ 28 * (11 / 10 * size) :=
          mul_le_mul hshare hy (abs_nonneg _) (by positivity)
      _ = 110 / 100 * (bound * size) / 10 ^ 28 := by ring
  -- the product is rounded, and so was each of its factors
  have hsplit : fit (fit share * w) - share * y =
      (fit (fit share * w) - fit share * w) + fit share * (w - y) + (fit share - share) * y := by
    ring
  rw [hsplit]
  refine (abs_add_three _ _ _).trans ?_
  calc |fit (fit share * w) - fit share * w| + |fit share * (w - y)| + |(fit share - share) * y|
      ≤ 132 / 100 * (bound * size) / 10 ^ 28 + 121 / 100 * (bound * size) / 10 ^ 28
          + 110 / 100 * (bound * size) / 10 ^ 28 := add_le_add (add_le_add hround hleft) hright
    _ = 363 / 100 * (bound * size) / 10 ^ 28 := by ring
    _ ≤ 4 * (bound * size) / 10 ^ 28 := by
      gcongr
      norm_num

/-- A fraction of few digits is rounded on its own side of every whole number. -/
theorem ceil_fit_div {n : ℤ} {q : ℕ} (hq : 0 < q) (hq' : q < 10 ^ 28) (hn : |n| < 10 ^ 28) :
    ⌈fit ((n : ℚ) / q)⌉ = ⌈(n : ℚ) / q⌉ := by
  have hpos : (0 : ℚ) < q := by exact_mod_cast hq
  have hone : (1 : ℚ) ≤ q := by exact_mod_cast hq
  have hnq : |(n : ℚ)| < 10 ^ 28 := by exact_mod_cast hn
  have hsmall : |(n : ℚ) / q| ≤ |(n : ℚ)| := by
    rw [abs_div, abs_of_pos hpos]
    exact div_le_self (abs_nonneg _) hone
  -- the rounding moves it by less than one unit of its denominator
  have hmove : |fit ((n : ℚ) / q) - n / q| < 1 / q := by
    refine (abs_fit_sub_le _).trans_lt ?_
    rw [div_lt_div_iff₀ (by positivity) hpos, max_mul_of_nonneg _ _ hpos.le, abs_div,
      abs_of_pos hpos, div_mul_cancel₀ _ hpos.ne', one_mul, one_mul]
    exact max_lt (by exact_mod_cast hq') hnq
  apply le_antisymm
  · have hceil : |((⌈(n : ℚ) / q⌉ : ℤ) : ℚ)| ≤ MAX := by
      have hlow : -(10 ^ 28) ≤ ⌈(n : ℚ) / q⌉ := by
        have hle := (abs_le.mp (hsmall.trans hnq.le)).1.trans (Int.le_ceil _)
        exact_mod_cast hle
      have hhigh : ⌈(n : ℚ) / q⌉ ≤ 10 ^ 28 := by
        refine Int.ceil_le.mpr ?_
        push_cast
        exact (abs_le.mp (hsmall.trans hnq.le)).2
      have habs : |⌈(n : ℚ) / q⌉| ≤ 10 ^ 28 := abs_le.mpr ⟨hlow, hhigh⟩
      calc |((⌈(n : ℚ) / q⌉ : ℤ) : ℚ)| ≤ 10 ^ 28 := by exact_mod_cast habs
        _ ≤ MAX := by norm_num [MAX]
    rw [Int.ceil_le, ← fit_eq_self (.intCast hceil)]
    exact fit_mono (Int.le_ceil _)
  · rw [Int.ceil_le]
    by_contra hlt
    set m := ⌈fit ((n : ℚ) / q)⌉
    have hbelow : (m : ℚ) * q < n := (lt_div_iff₀ hpos).mp (not_le.mp hlt)
    have hunit : (m : ℚ) * q + 1 ≤ n := by
      have hint : m * q + 1 ≤ n := by
        have hcast : m * (q : ℤ) < n := by exact_mod_cast hbelow
        omega
      exact_mod_cast hint
    have hnext : (m : ℚ) + 1 / q ≤ n / q := by
      rw [le_div_iff₀ hpos, add_mul, one_div_mul_cancel hpos.ne']
      exact hunit
    have hle : fit ((n : ℚ) / q) ≤ m := Int.le_ceil _
    linarith [(abs_lt.mp hmove).1]

/-- Rounding does not carry a quotient of such numbers over a whole number from above. -/
theorem floor_fit_div {n : ℤ} {q : ℕ} (hq : 0 < q) (hq' : q < 10 ^ 28) (hn : |n| < 10 ^ 28) :
    ⌊fit ((n : ℚ) / q)⌋ = ⌊(n : ℚ) / q⌋ := by
  have hneg := ceil_fit_div (n := -n) hq hq' (by rwa [abs_neg])
  rw [Int.cast_neg, neg_div, fit_neg, Int.ceil_neg, Int.ceil_neg, neg_inj] at hneg
  exact hneg

end Decimal

/-- How arithmetic rounds what has too many places: larger numbers are not made smaller,
no side is preferred, and a number there is room for is kept. -/
class Rounding where
  round : ℚ → Decimal
  mono : ∀ {x y : ℚ}, x ≤ y → round x ≤ round y
  neg : ∀ x : ℚ, round (-x) = -round x
  keeps : ∀ {x : ℚ}, Decimal.Representable x → round x = x

namespace Rounding

/-- The rounding of `rust_decimal`. -/
instance crate : Rounding where
  round := Decimal.fit
  mono := Decimal.fit_mono
  neg := Decimal.fit_neg
  keeps := Decimal.fit_eq_self

/-- Exact arithmetic. -/
@[reducible] def exact : Rounding where
  round := id
  mono := id
  neg _ := rfl
  keeps _ := rfl

variable [Rounding]

/-- Arithmetic rounds nothing. -/
def IsExact : Prop := ∀ x : ℚ, round x = x

/-- A whole number in range is kept. -/
theorem round_intCast {n : ℤ} (h : |(n : ℚ)| ≤ Decimal.MAX) : round (n : ℚ) = n :=
  keeps (.intCast h)

/-- Zero is kept. -/
theorem round_zero : round 0 = 0 := by
  have h := round_intCast (n := 0) (by norm_num [Decimal.MAX])
  exact_mod_cast h

/-- One is kept. -/
theorem round_one : round 1 = 1 := by
  have h := round_intCast (n := 1) (by norm_num [Decimal.MAX])
  exact_mod_cast h

/-- A number that is not negative stays so. -/
theorem round_nonneg {x : ℚ} (h : 0 ≤ x) : 0 ≤ round x := by
  rw [← round_zero]
  exact mono h

/-- What is in range stays in range. -/
theorem abs_round_le {x : ℚ} (h : |x| ≤ Decimal.MAX) : |round x| ≤ Decimal.MAX := by
  have hmax : Decimal.Representable Decimal.MAX :=
    ⟨0, Nat.zero_le _, 2 ^ 96 - 1, by decide, by norm_num [Decimal.MAX]⟩
  have hlow : round (-Decimal.MAX) ≤ round x := mono (abs_le.mp h).1
  have hhigh : round x ≤ round Decimal.MAX := mono (abs_le.mp h).2
  rw [keeps hmax.neg] at hlow
  rw [keeps hmax] at hhigh
  exact abs_le.mpr ⟨hlow, hhigh⟩

end Rounding

namespace Decimal

variable [Rounding]

/-! ## Division, and the product of a quotient -/

/-- The quotient, rounded. -/
def div (a b : Decimal) : Checked Decimal :=
  if b = 0 then .error .divisionByZero else inRange (Rounding.round (a / b))

/-- The product of a number that may have all the places there are, as a quotient has. -/
def mulRounded (a b : Decimal) : Checked Decimal := inRange (Rounding.round (a * b))

/-- A division that goes through. -/
theorem div_eq_ok {a b y : Decimal} :
    div a b = .ok y ↔
      b ≠ 0 ∧ |Rounding.round (a / b)| ≤ MAX ∧ y = Rounding.round (a / b) := by
  unfold div
  split
  next h => exact ⟨fun e => absurd e (by simp), fun e => absurd h e.1⟩
  next h => rw [inRange_eq_ok]; exact ⟨fun e => ⟨h, e⟩, fun e => e.2⟩

/-- A rounded product that is in range. -/
theorem mulRounded_eq_ok {a b y : Decimal} :
    mulRounded a b = .ok y ↔ |Rounding.round (a * b)| ≤ MAX ∧ y = Rounding.round (a * b) :=
  inRange_eq_ok

/-- A quotient that is in range before it is rounded is a quotient. -/
theorem div_returns {a b : Decimal} (hb : b ≠ 0) (h : |a / b| ≤ MAX) :
    div a b = .ok (Rounding.round (a / b)) :=
  div_eq_ok.mpr ⟨hb, Rounding.abs_round_le h, rfl⟩

/-- The two ways in which a division panics. -/
theorem div_eq_error {a b : Decimal} {e : Panic} (h : div a b = .error e) :
    e = .overflow ∨ (b = 0 ∧ e = .divisionByZero) := by
  unfold div at h
  split at h
  next hb => injection h with h; exact .inr ⟨hb, h.symm⟩
  next => exact .inl (inRange_eq_error h)

end Decimal

end Lndhubx
