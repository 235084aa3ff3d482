import Lndhubx.Dealer.LargerOrders

/-!
# The fee and the spread that is charged

With a rate comes a fee. What the spread really costs an order is the difference of two
proceeds, without the spread and at the rate that is returned (`Lookup.charged`). The fee
is worked out for an amount of its own (`Lookup.feeSource`): from bitcoin it takes the
value at the price of the first bucket, whichever bucket prices the order, and
`get_rate_inv` takes the amount as so much fiat and rounds it up.

Where that amount is the order (`Lookup.FeeOnOrder`), the fee is what the spread costs, up
to one unit of the last decimal, to what is cut off the rate, less than `10 ^ -12` for
each unit that is exchanged, and to the rounding of the quotients, which is felt beyond the
27th digit (`feeSlack`, `fee_is_spread`).
-/

namespace Lndhubx

open Prog DealerEngine

namespace DealerEngine

/-- The largest of one, an amount that is exchanged, and its proceeds without the spread. -/
def feeScale (linear : Bool) (price x : Decimal) : Decimal :=
  max 1 (max |x| |x * noFeeRate linear price|)

/-- What rounding its quotients to 28 digits can take from a fee or add to it. Where the
spread takes no more than the rate, the first factor is one. -/
def feeSlack (cfg : DealerConfig) (linear : Bool) (price x : Decimal) : Decimal :=
  max 1 |spreadShare cfg linear price true| * feeScale linear price x / 10 ^ 27

/-- The amount a fee is worked out for, in the currency the rate is from. -/
def feeAmount (linear : Bool) (price value : Decimal) : Decimal :=
  if linear then value / price else value

/-- The inverse of a price is hardly larger than what it is rounded to. -/
theorem abs_inverse_le (x price : Decimal) :
    |x * (1 / price)| ≤ 11 / 10 * feeScale false price x ∧
      |x| * max 1 |1 / price| ≤ 11 / 10 * feeScale false price x := by
  have hnear : |noFeeRate false price - 1 / price| ≤ max 1 |1 / price| / 10 ^ 28 :=
    Decimal.abs_fit_sub_le _
  have htri : |1 / price| - |noFeeRate false price| ≤ |noFeeRate false price - 1 / price| := by
    rw [abs_sub_comm]
    exact abs_sub_abs_le_abs_sub _ _
  have hx : |x| ≤ feeScale false price x := (le_max_left _ _).trans (le_max_right _ _)
  have hxn : |x| * |noFeeRate false price| ≤ feeScale false price x := by
    rw [← abs_mul]
    exact (le_max_right _ _).trans (le_max_right _ _)
  have hpos : 0 ≤ feeScale false price x := zero_le_one.trans (le_max_left _ _)
  have hlarge : |x| * max 1 |1 / price| ≤ 11 / 10 * feeScale false price x := by
    rcases le_total |1 / price| 1 with h | h
    · rw [max_eq_left h, mul_one]
      linarith
    · rw [max_eq_right h] at hnear ⊢
      have hinverse : |1 / price| ≤ 11 / 10 * |noFeeRate false price| := by linarith
      calc |x| * |1 / price| ≤ |x| * (11 / 10 * |noFeeRate false price|) :=
            mul_le_mul_of_nonneg_left hinverse (abs_nonneg x)
        _ = 11 / 10 * (|x| * |noFeeRate false price|) := by ring
        _ ≤ 11 / 10 * feeScale false price x := by linarith
  refine ⟨?_, hlarge⟩
  rw [abs_mul]
  exact (mul_le_mul_of_nonneg_left (le_max_right _ _) (abs_nonneg x)).trans hlarge

/-- The fee is what the spread takes of the rate, for some amount, up to the rounding of
the quotients it is worked out with. -/
theorem feeValue_near {cfg : DealerConfig} {linear : Bool} {price value : Decimal}
    (hprice : price ≠ 0) (hnoFee : noFeeRate linear price ≠ 0) :
    |feeValue cfg linear price value true -
        (noFeeRate linear price - userRate cfg linear price true) *
          feeAmount linear price value| ≤
      feeSlack cfg linear price (feeAmount linear price value) := by
  set share := spreadShare cfg linear price true with hshare
  set x := feeAmount linear price value with hx
  have htaken : noFeeRate linear price - userRate cfg linear price true =
      share * noFeeRate linear price := (div_mul_cancel₀ _ hnoFee).symm
  have hsize : 1 ≤ feeScale linear price x := le_max_left _ _
  have hs0 : 0 ≤ max 1 |share| := zero_le_one.trans (le_max_left _ _)
  have hproduct : 0 ≤ max 1 |share| * feeScale linear price x :=
    mul_nonneg hs0 (zero_le_one.trans hsize)
  rw [htaken]
  unfold feeSlack
  rw [← hshare]
  cases linear with
  | true =>
    have hworth : worth true price value = x * noFeeRate true price :=
      (div_mul_cancel₀ value hprice).symm
    have hy : |x * noFeeRate true price| ≤ 11 / 10 * feeScale true price x := by
      have hle : |x * noFeeRate true price| ≤ feeScale true price x :=
        (le_max_right _ _).trans (le_max_right _ _)
      linarith
    have hw : |worth true price value - x * noFeeRate true price| ≤
        11 / 10 * feeScale true price x / 10 ^ 28 := by
      rw [hworth, sub_self, abs_zero]
      positivity
    have hnear := Decimal.fit_mul_near (le_refl (max 1 |share|)) hsize hy hw
    rw [mul_assoc, mul_comm (noFeeRate true price)]
    refine hnear.trans ?_
    rw [div_le_div_iff₀ (by positivity) (by positivity)]
    linarith
  | false =>
    obtain ⟨hy, hlarge⟩ := abs_inverse_le x price
    have hworth : |worth false price value - x * (1 / price)| ≤
        11 / 10 * feeScale false price x / 10 ^ 28 := by
      have hmul : value / price = x * (1 / price) := div_eq_mul_one_div value price
      refine (Decimal.abs_fit_sub_le (value / price)).trans' (le_of_eq ?_) |>.trans ?_
      · rw [← hmul]
        rfl
      · gcongr
        rw [hmul]
        exact max_le (by linarith) hy
    have hnear := Decimal.fit_mul_near (le_refl (max 1 |share|)) hsize hy hworth
    -- the rate itself is rounded too
    have hrate : |share * (x * (1 / price - noFeeRate false price))| ≤
        11 / 10 * (max 1 |share| * feeScale false price x) / 10 ^ 28 := by
      have hround : |1 / price - noFeeRate false price| ≤ max 1 |1 / price| / 10 ^ 28 := by
        rw [abs_sub_comm]
        exact Decimal.abs_fit_sub_le _
      rw [abs_mul, abs_mul]
      calc |share| * (|x| * |1 / price - noFeeRate false price|)
          ≤ max 1 |share| * (|x| * (max 1 |1 / price| / 10 ^ 28)) := by
            gcongr
            exact le_max_right _ _
        _ = max 1 |share| * (|x| * max 1 |1 / price|) / 10 ^ 28 := by ring
        _ ≤ max 1 |share| * (11 / 10 * feeScale false price x) / 10 ^ 28 := by gcongr
        _ = 11 / 10 * (max 1 |share| * feeScale false price x) / 10 ^ 28 := by ring
    have hsplit : feeValue cfg false price value true - share * noFeeRate false price * x =
        (feeValue cfg false price value true - share * (x * (1 / price))) +
          share * (x * (1 / price - noFeeRate false price)) := by ring
    rw [hsplit]
    refine (abs_add_le _ _).trans ((add_le_add hnear hrate).trans ?_)
    rw [← add_div, div_le_div_iff₀ (by positivity) (by positivity)]
    linarith

end DealerEngine

/-- In a conversion the fiat currency is the target exactly if the rate is linear. -/
theorem conversionInfo_target {a b : Currency} {conversion : ConversionInfo}
    (h : ConversionInfo.new a b = .ok conversion) :
    conversion.isLinear = true ↔ conversion.toCurrency = conversion.quote := by
  cases a <;> cases b <;>
    simp [ConversionInfo.new, Currency.symbol, bind, Except.bind, pure, Except.pure, throw,
      throwThe, MonadExceptOf.throw, ConversionInfo.isLinear] at h ⊢ <;>
    subst h <;> simp

namespace Lookup

variable {cfg : DealerConfig} {s : DealerState} {l : Lookup} {quotes : QuoteTable}
  {price value : Decimal} {rate : Rate} {fees : Option Money}

/-- What is exchanged, in the currency it is exchanged from. An amount of the target
currency that `get_rate_inv` is asked for is the value at the price without the spread. -/
def source (l : Lookup) (price : Decimal) : Decimal :=
  if l.inverse = true ∧ l.amount.currency = l.conversion.toCurrency then
    l.amount.value / noFeeRate l.conversion.isLinear price
  else l.amount.value

/-- What the spread costs: the proceeds without it less the proceeds at the rate. -/
def charged (l : Lookup) (price : Decimal) (rate : Rate) : Decimal :=
  l.source price * noFeeRate l.conversion.isLinear price - l.source price * rate.value

/-- The amount the fee is worked out for. -/
def feeSource (l : Lookup) (price value : Decimal) : Decimal :=
  feeAmount l.conversion.isLinear price value

/-- The fee is worked out for the order: the bucket has the price of the first one, or the
amount is a whole number of the contract's fiat currency. -/
def FeeOnOrder (l : Lookup) (quotes : QuoteTable) (price : Decimal) : Prop :=
  if l.inverse then
    l.amount.currency = l.conversion.quote ∧ l.amount.value = ⌊l.amount.value⌋
  else
    l.conversion.fromCurrency ≠ l.conversion.quote →
      ∀ q best, firstFrom quotes 0 = some (q, best) → best = price

/-- There is nothing to round in a whole amount. -/
theorem roundDp_whole {x : Decimal} (h : x = ⌊x⌋) :
    x.roundDpWithStrategy 0 .awayFromZero = x := by
  unfold Decimal.roundDpWithStrategy Decimal.roundInt
  rw [pow_zero, mul_one, div_one]
  dsimp only
  rw [h]
  simp

theorem feeSource_eq {a b : Currency} (hnew : ConversionInfo.new a b = .ok l.conversion)
    (hprice : price ≠ 0) (hvalue : l.value quotes = some value)
    (h : l.FeeOnOrder quotes price) : l.feeSource price value = l.source price := by
  have htarget := conversionInfo_target hnew
  have hfrom : l.conversion.fromCurrency ≠ l.conversion.quote ↔ l.conversion.isLinear = true := by
    rcases conversionInfo_eq_ok hnew with ⟨-, -, -, hlinear, hne⟩ | ⟨-, -, -, hlinear, heq⟩
    · exact iff_of_true hne hlinear
    · exact iff_of_false (not_not.mpr heq) (by simp [hlinear])
  unfold FeeOnOrder at h
  unfold Lookup.value at hvalue
  unfold feeSource feeAmount source
  cases hinverse : l.inverse with
  | true =>
    rw [hinverse, if_pos rfl] at h hvalue
    rw [← Option.some.inj hvalue, roundDp_whole h.2, h.1]
    cases hlinear : l.conversion.isLinear with
    | true =>
      rw [if_pos rfl, if_pos ⟨rfl, (htarget.mp hlinear).symm⟩]
      rfl
    | false =>
      have hother : ¬(true = true ∧ l.conversion.quote = l.conversion.toCurrency) := by
        intro hsame
        rw [htarget.mpr hsame.2.symm] at hlinear
        exact absurd hlinear (by simp)
      rw [if_neg (by simp), if_neg hother]
  | false =>
    rw [hinverse, if_neg (by simp)] at h hvalue
    rw [if_neg (fun hsame : false = true ∧ _ => absurd hsame.1 (by simp))]
    cases hlinear : l.conversion.isLinear with
    | true =>
      rw [if_pos (hfrom.mpr hlinear)] at hvalue
      obtain ⟨⟨q, best⟩, hbest, hv⟩ := Option.map_eq_some_iff.mp hvalue
      rw [if_pos rfl, ← hv, h (hfrom.mpr hlinear) q best hbest]
      exact mul_div_cancel_right₀ _ hprice
    | false =>
      rw [if_neg (fun hne => by rw [hfrom.mp hne] at hlinear; exact absurd hlinear (by simp))]
        at hvalue
      rw [if_neg (by simp), Option.some.inj hvalue]

/-- A lookup that charges the spread, with its price, its rate and its fee. -/
theorem exists_fee (h : l.rate cfg s true = .ok (some rate, fees)) :
    ∃ quotes q price value, quotesFor s l.conversion = some quotes ∧
      l.bucket quotes = some (q, price) ∧ l.value quotes = some value ∧ price ≠ 0 ∧
      noFeeRate l.conversion.isLinear price ≠ 0 ∧
      rate.value = Rate.normalizedValue (userRate cfg l.conversion.isLinear price true) ∧
      fees = some (Money.new l.conversion.toCurrency
        (feeValue cfg l.conversion.isLinear price value true)) := by
  obtain ⟨quotes, q, price, value, hquotes, hbucket, hvalue, hrate⟩ := rate_eq_ok h
  rw [Bool.or_true] at hrate
  obtain ⟨hprice, hquoted, hinverse⟩ := rateAt_eq_ok hrate
  have hnoFee : noFeeRate l.conversion.isLinear price ≠ 0 := by
    cases hlinear : l.conversion.isLinear with
    | true => exact hprice
    | false => exact (hinverse hlinear).2
  exact ⟨quotes, q, price, value, hquotes, hbucket, hvalue, hprice, hnoFee,
    rate_eq_normalized hrate, (Prod.ext_iff.mp hquoted).2⟩

end Lookup

variable {cfg : DealerConfig} {s : DealerState} {l : Lookup} {rate : Rate} {fees : Option Money}

/-- A rate that charges the spread comes with a fee in the target currency. Where it is
worked out for the order, it is what the spread costs the order, up to one unit of the last
decimal, to what is cut off the rate and to the rounding of the quotients. -/
theorem fee_is_spread {a b : Currency} (hnew : ConversionInfo.new a b = .ok l.conversion)
    (h : l.rate cfg s true = .ok (some rate, fees)) :
    ∃ quotes q price fee, quotesFor s l.conversion = some quotes ∧
      l.bucket quotes = some (q, price) ∧ fees = some fee ∧
      fee.currency = l.conversion.toCurrency ∧
      (l.FeeOnOrder quotes price →
        |fee.value - l.charged price rate| <
          1 / 10 ^ l.conversion.toCurrency.dp + |l.source price| * (1 / 10 ^ RATE_DP) +
            feeSlack cfg l.conversion.isLinear price (l.source price)) := by
  obtain ⟨quotes, q, price, value, hquotes, hbucket, hvalue, hprice, hnoFee, hrate, hfees⟩ :=
    Lookup.exists_fee h
  refine ⟨quotes, q, price, _, hquotes, hbucket, hfees, rfl, ?_⟩
  intro horder
  have hsource := Lookup.feeSource_eq hnew hprice hvalue horder
  unfold Lookup.feeSource at hsource
  have hrounded := @feeValue_near cfg _ _ value hprice hnoFee
  rw [hsource] at hrounded
  let x := l.source price
  let n := noFeeRate l.conversion.isLinear price
  let u := userRate cfg l.conversion.isLinear price true
  let f := feeValue cfg l.conversion.isLinear price value true
  have hcharged : l.charged price rate = (n - u) * x + x * (u - rate.value) := by
    show x * n - x * rate.value = _
    ring
  have hfee : |Money.normalizedValue f l.conversion.toCurrency - f| <
      1 / 10 ^ l.conversion.toCurrency.dp := Decimal.abs_roundToZero_sub_lt _ _
  have hcut : |rate.value - u| < 1 / 10 ^ RATE_DP := by
    rw [hrate]
    exact Decimal.abs_roundToZero_sub_lt _ _
  have hlost : |x * (u - rate.value)| ≤ |x| * (1 / 10 ^ RATE_DP) := by
    rw [abs_mul, abs_sub_comm]
    exact mul_le_mul_of_nonneg_left hcut.le (abs_nonneg _)
  -- the cut of the fee, the quotients it is worked out with, and the cut of the rate
  have hsplit : Money.normalizedValue f l.conversion.toCurrency - l.charged price rate =
      (Money.normalizedValue f l.conversion.toCurrency - f) + (f - (n - u) * x) -
        x * (u - rate.value) := by
    rw [hcharged]
    ring
  calc |Money.normalizedValue f l.conversion.toCurrency - l.charged price rate|
      ≤ |Money.normalizedValue f l.conversion.toCurrency - f| + |f - (n - u) * x| +
          |x * (u - rate.value)| := by
        rw [hsplit]
        exact (abs_sub _ _).trans (add_le_add_left (abs_add_le _ _) _)
    _ < 1 / 10 ^ l.conversion.toCurrency.dp + |x| * (1 / 10 ^ RATE_DP) +
          feeSlack cfg l.conversion.isLinear price x := by linarith

namespace Sample

/-- Ten dollars for bitcoin. -/
def tenDollars : Lookup := ⟨⟨.USD, 10⟩, fromDollars, false⟩

/-- The dealer that knows the book with two prices on each side. -/
def twoSidedDealer : DealerState := quotedDealer twoSided [(10, 100)] [(10, 101)]

/-- Bitcoin for a dollar, at 101 and half a percent. -/
def dollarRate : Rate := ⟨.USD, .BTC, 9851731441 / 10 ^ 12⟩

theorem tenDollars_rate : tenDollars.rate dealerConfig twoSidedDealer true =
    .ok (some dollarRate, some ⟨.BTC, 492586572 / 10 ^ 12⟩) := by decide +kernel

theorem tenDollars_bucket : ∃ quotes, quotesFor twoSidedDealer fromDollars = some quotes ∧
    tenDollars.bucket quotes = some (10, 101) :=
  ⟨insertAll ∅ [(10, 101)], by decide +kernel, by decide +kernel⟩

end Sample

/-- Ten dollars at the only price there is: the fee is eight units of the last decimal
less than what the spread costs, since the rate is cut to twelve decimals. -/
theorem fee_less_than_spread :
    ConversionInfo.new .USD .BTC = .ok Sample.tenDollars.conversion ∧
    (∃ quotes, quotesFor Sample.twoSidedDealer Sample.tenDollars.conversion = some quotes ∧
      Sample.tenDollars.bucket quotes = some (10, 101)) ∧
    ∃ rate fee, Sample.tenDollars.rate Sample.dealerConfig Sample.twoSidedDealer true =
        .ok (some rate, some fee) ∧
      ¬|fee.value - Sample.tenDollars.charged 101 rate| ≤
        1 / 10 ^ Sample.tenDollars.conversion.toCurrency.dp :=
  ⟨rfl, Sample.tenDollars_bucket, _, _, Sample.tenDollars_rate, by decide +kernel⟩

/-- It is less by fewer than twelve. -/
theorem fee_is_spread_sample : ∃ rate fee,
    Sample.tenDollars.rate Sample.dealerConfig Sample.twoSidedDealer true =
      .ok (some rate, some fee) ∧
    |fee.value - Sample.tenDollars.charged 101 rate| < 12 / 10 ^ 12 := by
  obtain ⟨quotes, hquotes, hbucket⟩ := Sample.tenDollars_bucket
  obtain ⟨quotes', q, price, fee, hquotes', hbucket', hfee, -, hbound⟩ :=
    fee_is_spread (l := Sample.tenDollars) (a := .USD) (b := .BTC) rfl Sample.tenDollars_rate
  have hsame : quotes' = quotes := Option.some.inj (hquotes'.symm.trans hquotes)
  rw [hsame, hbucket] at hbucket'
  obtain ⟨-, hprice⟩ := Prod.mk.inj (Option.some.inj hbucket')
  refine ⟨Sample.dollarRate, fee, ?_, ?_⟩
  · rw [Sample.tenDollars_rate, hfee]
  · have hless := hbound fun hne => absurd rfl hne
    rw [← hprice] at hless
    refine hless.trans_le ?_
    decide +kernel

end Lndhubx
