import Lndhubx.Dealer.Rates
import Lndhubx.Dealer.Scales
import Lndhubx.Dealer.Sizes

/-!
# Larger orders do not get better rates

Along a side of the book the prices get worse, and so does the average price of a bucket
with its size (`bidAverage_falls`, `askAverage_rises`). Rounding keeps that order, and so
do the spread, the inversion and the cut to twelve decimals. A larger amount is looked up
in a bucket that is not smaller (`Lookup.bucket_mono`), though its value is reckoned at the
price of the first bucket. So in tables made from an empty start a larger amount gets a
rate that is not better (`larger_orders_no_better`).

That the smaller amount gets a rate at all has one exception: a price of very few
ten-to-the-minus-`price_dp` ticks may be so low that the bitcoin the amount is worth do not
fit into a `Decimal`.
-/

namespace Lndhubx

open Prog DealerEngine

namespace DealerEngine

/-! ## Along the book -/

theorem levels_sorted (side : BookSide) :
    (lotsOf side.levels).Pairwise fun lot lot' => lot.1 ≤ lot'.1 := by
  have hsorted := Std.ExtTreeMap.ordered_keys_toList (t := side)
  unfold lotsOf BookSide.levels
  rw [List.map_map, List.pairwise_map]
  exact hsorted.imp fun h => (compare_lt_iff_lt.mp h).le

variable {bids asks : BookSide} {q q' : Nat}

theorem bidAverage_falls (hq : 0 < q) (hle : q ≤ q') (hdepth : q' ≤ depth bids.levels) :
    bidAverage bids q' ≤ bidAverage bids q := by
  have hq' : (0 : Decimal) < q := by exact_mod_cast hq
  have hq'' : (0 : Decimal) < q' := by exact_mod_cast hq.trans_le hle
  unfold bidAverage
  rw [div_le_div_iff₀ hq'' hq']
  apply Lots.average_falls _ hle
  · rw [← depth_reverse] at hdepth
    exact hdepth
  · rw [lotsOf_reverse, List.pairwise_reverse]
    exact levels_sorted bids

theorem askAverage_rises (hq : 0 < q) (hle : q ≤ q') (hdepth : q' ≤ depth asks.levels) :
    cost asks.levels q / q ≤ cost asks.levels q' / q' := by
  have hq' : (0 : Decimal) < q := by exact_mod_cast hq
  have hq'' : (0 : Decimal) < q' := by exact_mod_cast hq.trans_le hle
  rw [div_le_div_iff₀ hq' hq'']
  exact Lots.average_rises (levels_sorted asks) hle hdepth

/-! ## Along the tables -/

/-- The prices of a table are within the range of a decimal and get no higher with the
bucket. -/
structure Falls (table : QuoteTable) : Prop where
  pos : ∀ (q : Nat) (p : Decimal), table[q]? = some p → 0 < p
  max : ∀ (q : Nat) (p : Decimal), table[q]? = some p → p ≤ Decimal.MAX
  order : ∀ (q q' : Nat) (p p' : Decimal), table[q]? = some p → table[q']? = some p' →
    q ≤ q' → p' ≤ p

/-- They are at least one tick and get no lower. -/
structure Rises (dp : Nat) (table : QuoteTable) : Prop where
  bucket : ∀ (q : Nat) (p : Decimal), table[q]? = some p → q ≤ 1000000
  scale : ∀ (q : Nat) (p : Decimal), table[q]? = some p → dp ≤ Decimal.MAX_SCALE
  tick : ∀ (q : Nat) (p : Decimal), table[q]? = some p → 1 / 10 ^ dp ≤ p
  order : ∀ (q q' : Nat) (p p' : Decimal), table[q]? = some p → table[q']? = some p' →
    q ≤ q' → p ≤ p'

theorem quotedPrice_scale {round : Scaled → Scaled} {dp : Nat} {num : Scaled} {price : Decimal}
    (h : quotedPrice round dp num q = .ok price) : dp ≤ Decimal.MAX_SCALE := by
  obtain ⟨average, -, h⟩ := Checked.bind_eq_ok.mp h
  obtain ⟨y, hy, -⟩ := Checked.bind_eq_ok.mp h
  unfold Scaled.setScale at hy
  split at hy
  next => exact absurd hy (by simp)
  next hscale => exact Nat.not_lt.mp hscale

section made

variable {dp : Nat} {quotes : List (Nat × Decimal)}

/-- A quote of a bid table. -/
theorem bid_priced (h : bidSideQuotes dp bids = .ok quotes) {p : Decimal}
    (hp : (insertAll ∅ quotes)[q]? = some p) :
    0 < q ∧ q ≤ depth bids.levels ∧ p = ⌈Decimal.fit (bidAverage bids q)⌉ / 10 ^ dp ∧
      |Decimal.fit (bidAverage bids q)| ≤ Decimal.MAX := by
  obtain ⟨hkeys, hpriced⟩ := bidSideQuotes_spec h
  have hmem := mem_of_insertAll hp
  obtain ⟨hfilled, num, hnum, hprice⟩ := hpriced _ hmem
  have hq : q ∈ QUANTITIES :=
    ((mem_keys_iff hkeys).mp (List.mem_map_of_mem (f := Prod.fst) hmem)).1
  have hfits := (quotedPrice_eq_ok hprice).2.1
  have hvalue := (quotedPrice_ceil hprice).2
  rw [hnum] at hfits hvalue
  rw [depth_reverse] at hfilled
  exact ⟨pos_of_mem_quantities q hq, hfilled, hvalue, hfits⟩

theorem ask_priced (h : askSideQuotes dp asks = .ok quotes) {p : Decimal}
    (hp : (insertAll ∅ quotes)[q]? = some p) :
    q ∈ QUANTITIES ∧ q ≤ depth asks.levels ∧
      p = ⌊Decimal.fit (cost asks.levels q / q)⌋ / 10 ^ dp ∧ dp ≤ Decimal.MAX_SCALE := by
  obtain ⟨hkeys, hpriced⟩ := askSideQuotes_spec h
  have hmem := mem_of_insertAll hp
  obtain ⟨hfilled, num, hnum, hprice⟩ := hpriced _ hmem
  have hq : q ∈ QUANTITIES :=
    ((mem_keys_iff hkeys).mp (List.mem_map_of_mem (f := Prod.fst) hmem)).1
  have hvalue := (quotedPrice_floor hprice).2
  rw [hnum] at hvalue
  exact ⟨hq, hfilled, hvalue, quotedPrice_scale hprice⟩

/-- A positive tick is at least one. -/
theorem one_le_of_tickPrices {side : BookSide} (h : TickPrices side) :
    ∀ l ∈ side.levels, ((1 : ℕ) : Decimal) ≤ l.1.value := by
  intro l hl
  obtain ⟨n, hn, hvalue⟩ := h l hl
  rw [hvalue]
  exact_mod_cast hn

/-- An average of at least one is, rounded to 28 digits, at least one. -/
theorem one_le_fit {x : Decimal} (h : ((1 : ℕ) : Decimal) ≤ x) : 1 ≤ Decimal.fit x := by
  rw [Nat.cast_one] at h
  exact Rounding.round_one.symm.le.trans (Decimal.fit_mono h)

theorem falls_of_bids (hticks : TickPrices bids) (h : bidSideQuotes dp bids = .ok quotes) :
    Falls (insertAll ∅ quotes) := by
  have hscale : (0 : Decimal) < 10 ^ dp := by positivity
  have hone : (1 : Decimal) ≤ 10 ^ dp := one_le_pow₀ (by norm_num)
  constructor
  · intro q p hp
    obtain ⟨hq, hfilled, rfl, -⟩ := bid_priced h hp
    have haverage : ((1 : ℕ) : Decimal) ≤ bidAverage bids q := by
      refine le_average
        (fun l hl => one_le_of_tickPrices hticks l (List.mem_reverse.mp hl)) hq.ne' ?_
      rw [depth_reverse]
      exact hfilled
    have hceil : (0 : Decimal) < ⌈Decimal.fit (bidAverage bids q)⌉ := by
      exact_mod_cast Int.ceil_pos.mpr (zero_lt_one.trans_le (one_le_fit haverage))
    exact div_pos hceil hscale
  · intro q p hp
    obtain ⟨-, -, rfl, hfits⟩ := bid_priced h hp
    have hmax : Decimal.MAX = ((2 ^ 96 - 1 : ℤ) : Decimal) := by
      unfold Decimal.MAX
      norm_num
    have hceil : ((⌈Decimal.fit (bidAverage bids q)⌉ : ℤ) : Decimal) ≤ Decimal.MAX := by
      have hle := (abs_le.mp hfits).2
      rw [hmax] at hle ⊢
      exact_mod_cast Int.ceil_le.mpr hle
    have hmax0 : (0 : Decimal) ≤ Decimal.MAX := zero_le_one.trans one_le_max
    rw [div_le_iff₀ hscale]
    exact hceil.trans (le_mul_of_one_le_right hmax0 hone)
  · intro q q' p p' hp hp' hle
    obtain ⟨hq, -, rfl, -⟩ := bid_priced h hp
    obtain ⟨-, hfilled, rfl, -⟩ := bid_priced h hp'
    have hround : ⌈Decimal.fit (bidAverage bids q')⌉ ≤ ⌈Decimal.fit (bidAverage bids q)⌉ :=
      Int.ceil_mono (Decimal.fit_mono (bidAverage_falls hq hle hfilled))
    exact div_le_div_of_nonneg_right (by exact_mod_cast hround) hscale.le

theorem rises_of_asks (hticks : TickPrices asks) (h : askSideQuotes dp asks = .ok quotes) :
    Rises dp (insertAll ∅ quotes) := by
  have hscale : (0 : Decimal) < 10 ^ dp := by positivity
  constructor
  · intro q p hp
    exact quantities_le q (ask_priced h hp).1
  · intro q p hp
    exact (ask_priced h hp).2.2.2
  · intro q p hp
    obtain ⟨hq, hfilled, rfl, -⟩ := ask_priced h hp
    have haverage : ((1 : ℕ) : Decimal) ≤ cost asks.levels q / q :=
      le_average (one_le_of_tickPrices hticks) (pos_of_mem_quantities q hq).ne' hfilled
    have hfloor : (1 : Decimal) ≤ ⌊Decimal.fit (cost asks.levels q / q)⌋ := by
      have hone := one_le_fit haverage
      have hint : (1 : ℤ) ≤ ⌊Decimal.fit (cost asks.levels q / q)⌋ :=
        Int.le_floor.mpr (by exact_mod_cast hone)
      exact_mod_cast hint
    exact div_le_div_of_nonneg_right hfloor hscale.le
  · intro q q' p p' hp hp' hle
    obtain ⟨hq, -, rfl, -⟩ := ask_priced h hp
    obtain ⟨-, hfilled, rfl, -⟩ := ask_priced h hp'
    have hround : ⌊Decimal.fit (cost asks.levels q / q)⌋ ≤
        ⌊Decimal.fit (cost asks.levels q' / q')⌋ :=
      Int.floor_mono (Decimal.fit_mono (askAverage_rises (pos_of_mem_quantities q hq) hle hfilled))
    exact div_le_div_of_nonneg_right (by exact_mod_cast hround) hscale.le

end made

/-! ## Which bucket -/

/-- A smaller number is looked up in a bucket that is not larger. -/
theorem firstFrom_mono {t : QuoteTable} {n n' q' : Nat} {p' : Decimal} (hn : n ≤ n')
    (h : firstFrom t n' = some (q', p')) :
    ∃ q p, firstFrom t n = some (q, p) ∧ q ≤ q' := by
  obtain ⟨hle, hlt⟩ := le_of_firstFrom h
  have hmem : (q', p') ∈ t.toList := List.mem_of_find?_eq_some h
  cases hfound : firstFrom t n with
  | none =>
    have hno := List.find?_eq_none.mp hfound _ hmem
    exact absurd (decide_eq_true ⟨hn.trans hle, hlt⟩) hno
  | some e =>
    obtain ⟨q, p⟩ := e
    refine ⟨q, p, rfl, ?_⟩
    obtain ⟨-, before, after, hlist, hbefore⟩ := List.find?_eq_some_iff_append.mp hfound
    rw [hlist] at hmem
    rcases List.mem_append.mp hmem with hmem | hmem
    · have hno := hbefore _ hmem
      rw [Bool.not_eq_true', decide_eq_false_iff_not] at hno
      exact absurd ⟨hn.trans hle, hlt⟩ hno
    rcases List.mem_cons.mp hmem with heq | hmem
    · exact (Prod.mk.inj heq).1.ge
    · have hsorted := Std.ExtTreeMap.ordered_keys_toList (t := t)
      rw [hlist, List.pairwise_append] at hsorted
      have hless := (List.pairwise_cons.mp hsorted.2.1).1 _ hmem
      exact (compare_lt_iff_lt.mp hless).le

end DealerEngine

theorem toU64_mono {v v' : Decimal} {n' : Nat} (h0 : 0 ≤ v) (hle : v ≤ v')
    (h : v'.toU64 = some n') : ∃ n, v.toU64 = some n ∧ n ≤ n' := by
  obtain ⟨-, hlt, hfloor'⟩ := Decimal.toU64_eq_some h
  have hfloor : ⌊v⌋ ≤ ⌊v'⌋ := Int.floor_mono hle
  have hfloor0 : 0 ≤ ⌊v⌋ := Int.floor_nonneg.mpr h0
  refine ⟨⌊v⌋.toNat, if_pos ⟨h0, by omega⟩, by omega⟩

namespace Lookup

variable {cfg : DealerConfig} {s : DealerState} {quotes : QuoteTable} {l : Lookup}

/-- Where the bucket is found, its price makes the rate. -/
theorem crossRate_of_bucket (cfg : DealerConfig) (charge : Bool) {v price : Decimal} {q : Nat}
    (hinverse : l.inverse = false) (hquotes : quotesFor s l.conversion = some quotes)
    (hvalue : l.value quotes = some v) (hmax : |v| ≤ Decimal.MAX)
    (hbucket : l.bucket quotes = some (q, price)) :
    getBtcCrossRate cfg s l.amount l.conversion charge =
      rateAt cfg l.conversion price v charge := by
  obtain ⟨v', n, hv', hn, hfirst⟩ := bucket_eq_some_iff.mp hbucket
  rw [hvalue] at hv'
  rw [← Option.some.inj hv'] at hn
  have hrate : rateFor cfg quotes l.conversion v charge =
      rateAt cfg l.conversion price v charge := by
    unfold rateFor
    rw [hn]
    dsimp only
    rw [hfirst]
  unfold getBtcCrossRate
  rw [hquotes]
  dsimp only
  unfold value at hvalue
  rw [hinverse, if_neg (by simp)] at hvalue
  -- bitcoin is converted by the first bucket before it is looked up
  by_cases hfrom : l.conversion.fromCurrency ≠ l.conversion.quote
  · rw [if_pos hfrom] at hvalue ⊢
    obtain ⟨⟨q₀, best⟩, hbest, hv⟩ := Option.map_eq_some_iff.mp hvalue
    dsimp only at hv
    have hmul : Decimal.mul l.amount.value best = .ok v := by
      rw [Decimal.mul_eq_ok, hv]
      exact ⟨hmax, rfl⟩
    rw [hbest]
    dsimp only
    rw [hmul]
    exact hrate
  · rw [if_neg hfrom] at hvalue ⊢
    have hmul : Decimal.mul l.amount.value 1 = .ok v := by
      rw [Decimal.mul_eq_ok, mul_one, Option.some.inj hvalue]
      exact ⟨hmax, rfl⟩
    rw [hmul]
    exact hrate

/-- A smaller amount is looked up in a bucket that is not larger. -/
theorem bucket_mono {a b : Decimal} {currency : Currency} {conversion : ConversionInfo}
    {v' price' : Decimal} {q' : Nat} (ha : 0 < a) (hab : a ≤ b)
    (hpos : ∀ (q : Nat) (p : Decimal), quotes[q]? = some p → 0 < p)
    (hvalue : (⟨⟨currency, b⟩, conversion, false⟩ : Lookup).value quotes = some v')
    (hbucket : (⟨⟨currency, b⟩, conversion, false⟩ : Lookup).bucket quotes = some (q', price')) :
    ∃ v q price, (⟨⟨currency, a⟩, conversion, false⟩ : Lookup).value quotes = some v ∧
      0 ≤ v ∧ v ≤ v' ∧
      (⟨⟨currency, a⟩, conversion, false⟩ : Lookup).bucket quotes = some (q, price) ∧ q ≤ q' := by
  obtain ⟨v'', n', hv', hn', hfirst⟩ := bucket_eq_some_iff.mp hbucket
  rw [hvalue] at hv'
  rw [← Option.some.inj hv'] at hn'
  have hsmaller : ∃ v, (⟨⟨currency, a⟩, conversion, false⟩ : Lookup).value quotes = some v ∧
      0 ≤ v ∧ v ≤ v' := by
    unfold value at hvalue ⊢
    rw [if_neg (by simp)] at hvalue ⊢
    by_cases hfrom : conversion.fromCurrency ≠ conversion.quote
    · rw [if_pos hfrom] at hvalue ⊢
      obtain ⟨⟨q₀, best⟩, hbest, hv⟩ := Option.map_eq_some_iff.mp hvalue
      have hbestPos := hpos q₀ best (mem_of_firstFrom hbest)
      rw [hbest, ← hv]
      exact ⟨a * best, rfl, mul_nonneg ha.le hbestPos.le,
        mul_le_mul_of_nonneg_right hab hbestPos.le⟩
    · rw [if_neg hfrom] at hvalue ⊢
      rw [← Option.some.inj hvalue]
      exact ⟨a, rfl, ha.le, hab⟩
  obtain ⟨v, hv, h0, hle⟩ := hsmaller
  obtain ⟨n, hn, hnle⟩ := toU64_mono h0 hle hn'
  obtain ⟨q, price, hq, hqle⟩ := firstFrom_mono hnle hfirst
  exact ⟨v, q, price, hv, h0, hle, bucket_eq_some_iff.mpr ⟨v, n, hv, hn, hq⟩, hqle⟩

end Lookup

/-! ## Which rate -/

section rates

variable {cfg : DealerConfig} {s : DealerState} {table : QuoteTable} {conversion : ConversionInfo}
  {currency : Currency} {a b : Decimal} {charge : Bool} {rate : Rate} {fees : Option Money}

/-- What the rate of a larger amount says about a smaller one. -/
structure Smaller (table : QuoteTable) (conversion : ConversionInfo) (currency : Currency)
    (a : Decimal) (q' : Nat) (price' v' v price : Decimal) (q : Nat) : Prop where
  quoted : table[q]? = some price
  quoted' : table[q']? = some price'
  value : (⟨⟨currency, a⟩, conversion, false⟩ : Lookup).value table = some v
  nonneg : 0 ≤ v
  value_le : v ≤ v'
  fits : v < q' + 1
  bucket : (⟨⟨currency, a⟩, conversion, false⟩ : Lookup).bucket table = some (q, price)
  bucket_le : q ≤ q'
  max : v ≤ Decimal.MAX

theorem exists_smaller (ha : 0 < a) (hab : a ≤ b)
    (hquotes : quotesFor s conversion = some table)
    (hpos : ∀ (q : Nat) (p : Decimal), table[q]? = some p → 0 < p)
    (h : getBtcCrossRate cfg s ⟨currency, b⟩ conversion charge = .ok (some rate, fees)) :
    ∃ q' price' v' v price q, Smaller table conversion currency a q' price' v' v price q ∧
      rateAt cfg conversion price' v' charge = .ok (some rate, fees) := by
  let l : Lookup := ⟨⟨currency, b⟩, conversion, false⟩
  have hl : l.rate cfg s charge = .ok (some rate, fees) := h
  obtain ⟨table', q', price', v', htable, hbucket, hvalue, hrate⟩ := Lookup.rate_eq_ok hl
  have htable : table' = table := Option.some.inj (htable.symm.trans hquotes)
  rw [htable] at hbucket hvalue
  obtain ⟨v, q, price, hv, h0, hle, hbucketA, hqle⟩ :=
    Lookup.bucket_mono ha hab hpos hvalue hbucket
  obtain ⟨_, n', hv', hn', hfirst'⟩ := Lookup.bucket_eq_some_iff.mp hbucket
  obtain ⟨_, n, -, -, hfirst⟩ := Lookup.bucket_eq_some_iff.mp hbucketA
  obtain ⟨hnq, hlt⟩ := le_of_firstFrom hfirst'
  rw [hvalue] at hv'
  rw [← Option.some.inj hv'] at hn'
  obtain ⟨-, -, hfloor⟩ := Decimal.toU64_eq_some hn'
  have hbelow : v' < n' + 1 := by
    have := Int.lt_floor_add_one v'
    rw [← hfloor] at this
    exact_mod_cast this
  have hnq' : (n' : Decimal) ≤ q' := by exact_mod_cast hnq
  have hlt' : (q' : Decimal) + 1 ≤ 2 ^ 64 := by
    have : q' + 1 ≤ 2 ^ 64 := by omega
    exact_mod_cast this
  have hmax : (2 : Decimal) ^ 64 ≤ Decimal.MAX := by
    unfold Decimal.MAX
    norm_num
  exact ⟨q', price', v', v, price, q, ⟨mem_of_firstFrom hfirst, mem_of_firstFrom hfirst', hv, h0,
    hle, by linarith, hbucketA, hqle, by linarith⟩, hrate⟩

/-- A rate comes from a table. -/
theorem exists_quotesFor {amount : Money}
    (h : getBtcCrossRate cfg s amount conversion charge = .ok (some rate, fees)) :
    ∃ table, quotesFor s conversion = some table := by
  let l : Lookup := ⟨amount, conversion, false⟩
  have hl : l.rate cfg s charge = .ok (some rate, fees) := h
  obtain ⟨table, -, -, -, htable, -⟩ := Lookup.rate_eq_ok hl
  exact ⟨table, htable⟩

/-- The rate at a price and value that are looked up. -/
theorem rate_eq_normalized {price v : Decimal}
    (h : rateAt cfg conversion price v charge = .ok (some rate, fees)) :
    rate.value = Rate.normalizedValue (userRate cfg conversion.isLinear price charge) := by
  injection (Prod.ext_iff.mp (rateAt_eq_ok h).2.1).1 with hrate
  rw [hrate]
  rfl

theorem linear_no_better (hspread : SaneSpread cfg) (hlinear : conversion.isLinear = true)
    (hquotes : quotesFor s conversion = some table) (htable : Falls table) (ha : 0 < a)
    (hab : a ≤ b)
    (h : getBtcCrossRate cfg s ⟨currency, b⟩ conversion charge = .ok (some rate, fees)) :
    ∃ rate' fees', getBtcCrossRate cfg s ⟨currency, a⟩ conversion charge =
      .ok (some rate', fees') ∧ rate.value ≤ rate'.value := by
  obtain ⟨q', price', v', v, price, q, hsmall, hrate⟩ :=
    exists_smaller ha hab hquotes htable.pos h
  have hprice := htable.pos _ _ hsmall.quoted
  have hprice' := htable.pos _ _ hsmall.quoted'
  have horder := htable.order _ _ _ _ hsmall.quoted hsmall.quoted' hsmall.bucket_le
  obtain ⟨quoted, hquoted⟩ := rateAt_linear charge hlinear hspread hprice
    (htable.max _ _ hsmall.quoted) hsmall.nonneg hsmall.max
  have hrun := Lookup.crossRate_of_bucket cfg charge rfl hquotes hsmall.value
    (abs_le_max hsmall.nonneg hsmall.max (le_refl _)) hsmall.bucket
  rw [(rateAt_eq_ok hquoted).2.1] at hquoted
  refine ⟨_, _, hrun.trans hquoted, ?_⟩
  rw [rate_eq_normalized hrate, rate_eq_normalized hquoted, hlinear]
  have hmodifier := (linearModifier_mem hspread charge).1
  exact Decimal.roundToZero_mono (userRate_linear_le hspread hprice' charge).1
    (mul_le_mul_of_nonneg_right horder hmodifier)

theorem inverse_no_better {dp : Nat} (hspread : SaneSpread cfg)
    (hlinear : conversion.isLinear = false) (hquotes : quotesFor s conversion = some table)
    (htable : Rises dp table) (ha : 0 < a) (hab : a ≤ b)
    (h : getBtcCrossRate cfg s ⟨currency, b⟩ conversion charge = .ok (some rate, fees)) :
    (∃ rate' fees', getBtcCrossRate cfg s ⟨currency, a⟩ conversion charge =
        .ok (some rate', fees') ∧ rate.value ≤ rate'.value) ∨
      23 ≤ dp ∧ getBtcCrossRate cfg s ⟨currency, a⟩ conversion charge = .error .overflow := by
  have hscale : (0 : Decimal) < 10 ^ dp := by positivity
  have hpos (q : Nat) (p : Decimal) (hp : table[q]? = some p) : 0 < p :=
    (div_pos one_pos hscale).trans_le (htable.tick q p hp)
  obtain ⟨q', price', v', v, price, q, hsmall, hrate⟩ := exists_smaller ha hab hquotes hpos h
  have hprice := hpos _ _ hsmall.quoted
  have horder := htable.order _ _ _ _ hsmall.quoted hsmall.quoted' hsmall.bucket_le
  obtain ⟨hm1, -⟩ := inverseModifier_mem hspread charge
  have hm0 : 0 < inverseModifier cfg charge := zero_lt_one.trans_le hm1
  -- a tick is not so small that its inverse does not fit
  have hinverse : 1 / price ≤ 10 ^ dp := by
    have htick := htable.tick _ _ hsmall.quoted
    rw [div_le_iff₀ hscale] at htick
    rw [div_le_iff₀ hprice]
    linarith
  have hdp : (10 : Decimal) ^ dp ≤ Decimal.MAX := by
    have hle : (10 : Decimal) ^ dp ≤ 10 ^ 28 :=
      pow_le_pow_right₀ (by norm_num) (htable.scale _ _ hsmall.quoted)
    exact hle.trans (by norm_num [Decimal.MAX])
  obtain ⟨hmax', hnoFee'⟩ := (rateAt_eq_ok hrate).2.2 hlinear
  have hmodified : price * inverseModifier cfg charge ≤ Decimal.MAX :=
    (mul_le_mul_of_nonneg_right horder hm0.le).trans ((le_abs_self _).trans hmax')
  -- the larger amount had a rate to divide by, and this one is not smaller
  have hnoFee : 0 < noFeeRate false price := by
    have hnonneg : 0 ≤ noFeeRate false price' :=
      Decimal.fit_nonneg (one_div_pos.mpr (hpos _ _ hsmall.quoted')).le
    have hle : noFeeRate false price' ≤ noFeeRate false price :=
      Decimal.fit_mono (one_div_le_one_div_of_le hprice horder)
    exact (lt_of_le_of_ne hnonneg hnoFee'.symm).trans_le hle
  have hrun := Lookup.crossRate_of_bucket cfg charge rfl hquotes hsmall.value
    (abs_le_max hsmall.nonneg hsmall.max (le_refl _)) hsmall.bucket
  obtain ⟨hreturns, hoverflow⟩ := rateAt_inverse charge hlinear hspread hprice
    (hinverse.trans hdp) hnoFee hmodified hsmall.nonneg
  by_cases hfits : worth false price v ≤ Decimal.MAX
  · left
    obtain ⟨quoted, hquoted⟩ := hreturns hfits
    rw [(rateAt_eq_ok hquoted).2.1] at hquoted
    refine ⟨_, _, hrun.trans hquoted, ?_⟩
    rw [rate_eq_normalized hrate, rate_eq_normalized hquoted, hlinear]
    exact Decimal.roundToZero_mono
      (userRate_inverse_le hspread (hpos _ _ hsmall.quoted') charge).1
      (Decimal.fit_mono (one_div_le_one_div_of_le (mul_pos hprice hm0)
        (mul_le_mul_of_nonneg_right horder hm0.le)))
  · right
    refine ⟨?_, hrun.trans (hoverflow hfits)⟩
    by_contra hsmallDp
    apply hfits
    have hq' : (q' : Decimal) ≤ 1000000 := by
      exact_mod_cast htable.bucket _ _ hsmall.quoted'
    have hv : v ≤ 1000001 := by linarith [hsmall.fits]
    have hpow : (10 : Decimal) ^ dp ≤ 10 ^ 22 := pow_le_pow_right₀ (by norm_num) (by omega)
    have hquot : v / price ≤ Decimal.MAX := by
      calc v / price = v * (1 / price) := div_eq_mul_one_div v price
        _ ≤ 1000001 * 10 ^ 22 :=
          mul_le_mul hv (hinverse.trans hpow) (div_pos one_pos hprice).le (by norm_num)
        _ ≤ Decimal.MAX := by norm_num [Decimal.MAX]
    exact (le_abs_self _).trans
      (Rounding.abs_round_le (abs_le_max (div_nonneg hsmall.nonneg hprice.le) hquot (le_refl _)))

end rates

/-! ## Tables from an empty start -/

section start

variable {cfg : DealerConfig} {ws : WsClient} {symbol : Symbol} {s t : DealerState}
  {book : Level2State}

/-- The table that one pass makes where there was none. -/
theorem lookup_of_made {tables : AList fun _ : Symbol => QuoteTable}
    {quotes : List (Nat × Decimal)} {table : QuoteTable} (hnone : tables.lookup symbol = none)
    (h : (storeQuotes tables symbol quotes).lookup symbol = some table) :
    table = insertAll ∅ quotes := by
  rw [lookup_storeQuotes, hnone] at h
  split at h
  next => exact absurd h (by simp)
  next => exact (Option.some.inj h).symm

theorem made_tables (hbids : s.bidQuotes.lookup symbol = none)
    (hasks : s.askQuotes.lookup symbol = none) (hbidTicks : TickPrices book.bids)
    (haskTicks : TickPrices book.asks)
    (hrun : updateQuotes ws symbol (s.withLevel2 symbol book) = .ok ((), t)) :
    (∀ table, t.bidQuotes.lookup symbol = some table → Falls table) ∧
      ∀ table, t.askQuotes.lookup symbol = some table →
        ∃ contract, ws.tradableSymbols.lookup symbol = some contract ∧
          Rises contract.priceDp table := by
  cases hcontract : ws.tradableSymbols.lookup symbol with
  | none =>
    rw [updateQuotes_no_contract hcontract] at hrun
    injection hrun with hrun
    injection hrun with _ hrun
    rw [← hrun]
    constructor
    · intro table h
      exact absurd (hbids.symm.trans h) (by simp)
    · intro table h
      exact absurd (hasks.symm.trans h) (by simp)
  | some contract =>
    obtain ⟨bids, asks, hb, ha, rfl⟩ := (updateQuotes_eq_ok_iff hcontract).mp hrun
    constructor
    · intro table h
      rw [lookup_of_made hbids h]
      exact falls_of_bids hbidTicks hb
    · intro table h
      rw [lookup_of_made hasks h]
      exact ⟨contract, rfl, rises_of_asks haskTicks ha⟩

/-- In tables that an update makes from a book in whole ticks, of two amounts the larger
one does not get the better rate, in either direction; and if it gets one, the smaller one
does, except that the smaller one may overflow on its way from fiat to bitcoin where prices
have 23 decimals or more. -/
theorem larger_orders_no_better {c : Currency} {a b : Decimal}
    (hspread : 0 ≤ cfg.spread ∧ cfg.spread < 2) (hfiat : c.IsFiat) (hsymbol : c.symbol = .ok symbol)
    (hbids : s.bidQuotes.lookup symbol = none) (hasks : s.askQuotes.lookup symbol = none)
    (hbidTicks : TickPrices book.bids) (haskTicks : TickPrices book.asks)
    (hrun : updateQuotes ws symbol (s.withLevel2 symbol book) = .ok ((), t)) (ha : 0 < a)
    (hab : a ≤ b) :
    (∀ rate fees, getRate cfg t ⟨.BTC, b⟩ c = .ok (some rate, fees) →
      ∃ rate' fees', getRate cfg t ⟨.BTC, a⟩ c = .ok (some rate', fees') ∧
        rate.value ≤ rate'.value) ∧
    ∀ rate fees, getRate cfg t ⟨c, b⟩ .BTC = .ok (some rate, fees) →
      (∃ rate' fees', getRate cfg t ⟨c, a⟩ .BTC = .ok (some rate', fees') ∧
        rate.value ≤ rate'.value) ∨
      (∃ contract, ws.tradableSymbols.lookup symbol = some contract ∧ 23 ≤ contract.priceDp) ∧
        getRate cfg t ⟨c, a⟩ .BTC = .error .overflow := by
  obtain ⟨hfalls, hrises⟩ := made_tables hbids hasks hbidTicks haskTicks hrun
  constructor
  · intro rate fees h
    obtain ⟨conversion, hnew⟩ := conversionInfo_fromBtc hfiat
    have hcross (x : Decimal) : getRate cfg t ⟨.BTC, x⟩ c =
        getBtcCrossRate cfg t ⟨.BTC, x⟩ conversion true := getRate_of_btc (.inl rfl) hnew
    rw [hcross] at h ⊢
    rcases conversionInfo_eq_ok hnew with ⟨-, hconv, hside, hlinear, -⟩ | ⟨hbtc, -⟩
    · have hquotes : quotesFor t conversion = t.bidQuotes.lookup symbol := by
        unfold quotesFor
        rw [hside, Except.ok.inj (hconv.symm.trans hsymbol)]
      obtain ⟨table, htable⟩ := exists_quotesFor h
      -- from bitcoin, at bid quotes that fall with the size
      exact linear_no_better hspread hlinear htable
        (hfalls table (hquotes.symm.trans htable)) ha hab h
    · exact absurd hbtc hfiat.ne_btc
  · intro rate fees h
    obtain ⟨conversion, hnew⟩ := conversionInfo_toBtc hfiat
    have hcross (x : Decimal) : getRate cfg t ⟨c, x⟩ .BTC =
        getBtcCrossRate cfg t ⟨c, x⟩ conversion true := getRate_of_btc (.inr rfl) hnew
    rw [hcross] at h ⊢
    rcases conversionInfo_eq_ok hnew with ⟨hbtc, -⟩ | ⟨-, hconv, hside, hlinear, -⟩
    · exact absurd hbtc hfiat.ne_btc
    · have hquotes : quotesFor t conversion = t.askQuotes.lookup symbol := by
        unfold quotesFor
        rw [hside, Except.ok.inj (hconv.symm.trans hsymbol)]
      obtain ⟨table, htable⟩ := exists_quotesFor h
      obtain ⟨contract, hcontract, htableRises⟩ := hrises table (hquotes.symm.trans htable)
      -- to bitcoin, at ask quotes that rise with it
      rcases inverse_no_better hspread hlinear htable htableRises ha hab h with hrate | hover
      · exact .inl hrate
      · exact .inr ⟨⟨contract, hcontract, hover.1⟩, hover.2⟩

end start

namespace Sample

/-- Prices have as many decimals as a `Decimal` can have. -/
def fineWs : WsClient := { (dealerEnv 1).ws with tradableSymbols := [(usdSymbol, ⟨28⟩)] }

/-- Ten units at one tick, and ninety at ten. -/
def fineBook : Level2State := ⟨"snapshot", usdSymbol, ∅, (oneLevel 1 10).insert 10 ⟨0, 90⟩⟩

/-- The dealer with quotes for both sides. -/
def quotedDealer (book : Level2State) (bids asks : List (Nat × Decimal)) : DealerState :=
  { dealer.withLevel2 usdSymbol book with
    bidQuotes := storeQuotes dealer.bidQuotes usdSymbol bids
    askQuotes := storeQuotes dealer.askQuotes usdSymbol asks }

theorem ticks_of_levels {side : BookSide} (levels : List (Nat × Nat))
    (h : side.levels = levels.map fun l => (.ofNat l.1, l.2)) (hpos : ∀ l ∈ levels, 0 < l.1) :
    TickPrices side := by
  intro l hl
  rw [h] at hl
  obtain ⟨l', hl', rfl⟩ := List.mem_map.mp hl
  exact ⟨l'.1, hpos l' hl', rfl⟩

end Sample

/-- Ten dollars at one tick of 28 decimals are worth more bitcoin than a `Decimal` can hold,
while eleven, at nine ticks, get a rate. -/
theorem smaller_order_overflows : ∃ t,
    updateQuotes Sample.fineWs Sample.usdSymbol
      (Sample.dealer.withLevel2 Sample.usdSymbol Sample.fineBook) = .ok ((), t) ∧
    TickPrices Sample.fineBook.bids ∧ TickPrices Sample.fineBook.asks ∧
    (∃ rate fees, getRate Sample.dealerConfig t ⟨.USD, 11⟩ .BTC = .ok (some rate, fees)) ∧
    getRate Sample.dealerConfig t ⟨.USD, 10⟩ .BTC = .error .overflow := by
  have hcontract : Sample.fineWs.tradableSymbols.lookup Sample.usdSymbol =
      some (⟨28⟩ : TradableSymbol) := rfl
  have hasks : askSideQuotes 28 Sample.fineBook.asks =
      .ok [(10, 1 / 10 ^ 28), (100, 9 / 10 ^ 28)] := by decide +kernel
  have hbids : bidSideQuotes 28 Sample.fineBook.bids = .ok [] := by decide +kernel
  obtain ⟨quoted, hquoted⟩ := Sample.exists_rate (r := getRate Sample.dealerConfig
    (Sample.quotedDealer Sample.fineBook [] [(10, 1 / 10 ^ 28), (100, 9 / 10 ^ 28)])
    ⟨.USD, 11⟩ .BTC) (by decide +kernel)
  refine ⟨Sample.quotedDealer Sample.fineBook [] [(10, 1 / 10 ^ 28), (100, 9 / 10 ^ 28)],
    (updateQuotes_eq_ok_iff hcontract).mpr ⟨_, _, hbids, hasks, rfl⟩, ?_, ?_, ?_, ?_⟩
  · exact Sample.ticks_of_levels [] (by decide +kernel) (by simp)
  · exact Sample.ticks_of_levels [(1, 10), (10, 90)] (by decide +kernel) (by decide)
  · exact ⟨_, _, hquoted⟩
  · decide +kernel

namespace Sample

/-- A book with two prices on each side. -/
def twoSided : Level2State :=
  ⟨"snapshot", usdSymbol, (oneLevel 99 50).insert 100 ⟨0, 10⟩, (oneLevel 101 10).insert 102 ⟨0, 50⟩⟩

end Sample

/-- A tenth of a bitcoin and half of that for dollars; ten dollars and half of that for
bitcoin. -/
theorem larger_orders_no_better_sample : ∃ t,
    updateQuotes (Sample.dealerEnv 1).ws Sample.usdSymbol
      (Sample.dealer.withLevel2 Sample.usdSymbol Sample.twoSided) = .ok ((), t) ∧
    (∃ rate fees rate' fees',
      getRate Sample.dealerConfig t ⟨.BTC, 1 / 10⟩ .USD = .ok (some rate, fees) ∧
      getRate Sample.dealerConfig t ⟨.BTC, 1 / 20⟩ .USD = .ok (some rate', fees') ∧
      rate.value ≤ rate'.value) ∧
    ∃ rate fees rate' fees',
      getRate Sample.dealerConfig t ⟨.USD, 10⟩ .BTC = .ok (some rate, fees) ∧
      getRate Sample.dealerConfig t ⟨.USD, 5⟩ .BTC = .ok (some rate', fees') ∧
      rate.value ≤ rate'.value := by
  have hcontract : (Sample.dealerEnv 1).ws.tradableSymbols.lookup Sample.usdSymbol =
      some (⟨0⟩ : TradableSymbol) := rfl
  have hbids : bidSideQuotes 0 Sample.twoSided.bids = .ok [(10, 100)] := by decide +kernel
  have hasks : askSideQuotes 0 Sample.twoSided.asks = .ok [(10, 101)] := by decide +kernel
  have hspread : 0 ≤ Sample.dealerConfig.spread ∧ Sample.dealerConfig.spread < 2 := by
    decide +kernel
  have hbidTicks : TickPrices Sample.twoSided.bids :=
    Sample.ticks_of_levels [(99, 50), (100, 10)] (by decide +kernel) (by decide)
  have haskTicks : TickPrices Sample.twoSided.asks :=
    Sample.ticks_of_levels [(101, 10), (102, 50)] (by decide +kernel) (by decide)
  have hrun : updateQuotes (Sample.dealerEnv 1).ws Sample.usdSymbol
      (Sample.dealer.withLevel2 Sample.usdSymbol Sample.twoSided) =
        .ok ((), Sample.quotedDealer Sample.twoSided [(10, 100)] [(10, 101)]) :=
    (updateQuotes_eq_ok_iff hcontract).mpr ⟨_, _, hbids, hasks, rfl⟩
  obtain ⟨toUsd, htoUsd⟩ := Sample.exists_rate (r := getRate Sample.dealerConfig
    (Sample.quotedDealer Sample.twoSided [(10, 100)] [(10, 101)]) ⟨.BTC, 1 / 10⟩ .USD)
    (by decide +kernel)
  obtain ⟨toBtc, htoBtc⟩ := Sample.exists_rate (r := getRate Sample.dealerConfig
    (Sample.quotedDealer Sample.twoSided [(10, 100)] [(10, 101)]) ⟨.USD, 10⟩ .BTC)
    (by decide +kernel)
  have hlinear := (larger_orders_no_better (c := .USD) (a := 1 / 20) (b := 1 / 10)
    hspread (.inl rfl)
    rfl rfl rfl hbidTicks haskTicks hrun (by norm_num) (by norm_num)).1 _ _ htoUsd
  have hinverse := (larger_orders_no_better (c := .USD) (a := 5) (b := 10) hspread (.inl rfl)
    rfl rfl rfl hbidTicks haskTicks hrun (by norm_num) (by norm_num)).2 _ _ htoBtc
  obtain ⟨rate, fees, hrate, hle⟩ := hlinear
  rcases hinverse with ⟨rate', fees', hrate', hle'⟩ | ⟨⟨contract, hfine, hdp⟩, -⟩
  · exact ⟨_, hrun, ⟨_, _, rate, fees, htoUsd, hrate, hle⟩,
      ⟨_, _, rate', fees', htoBtc, hrate', hle'⟩⟩
  · have hwhole : contract = ⟨0⟩ := Option.some.inj (hfine.symm.trans hcontract)
    rw [hwhole] at hdp
    exact absurd hdp (by decide)

end Lndhubx
