import Lndhubx.Dealer.Cycles

/-!
# Rates that can be computed

A rate is computed in decimals that overflow, divides by the price it finds, and
is looked up by a contract that not every currency has. In a market with sensible
prices (`SaneMarket`: from `10 ^ -MAX_PRICE_DP` to `MAX_TICKS`) it is computed
without a panic for every conversion that is `Priceable`.
-/

namespace Lndhubx

open Prog DealerEngine

variable {cfg : DealerConfig} {s : DealerState}

/-! ## Sensible prices -/

def MAX_TICKS : Nat := 10 ^ 12

def MAX_PRICE_DP : Nat := 6

/-- A price the dealer can compute with. -/
def SanePrice (p : Decimal) : Prop := 1 / 10 ^ MAX_PRICE_DP ≤ p ∧ p ≤ MAX_TICKS

theorem SanePrice.pos {p : Decimal} (h : SanePrice p) : 0 < p :=
  lt_of_lt_of_le (by positivity) h.1

/-- The inverse of a sensible price keeps digits. -/
theorem SanePrice.noFeeRate_pos {p : Decimal} (h : SanePrice p) : 0 < noFeeRate false p := by
  have htick : (0 : Decimal) < Decimal.fit (1 / MAX_TICKS) := by decide +kernel
  exact htick.trans_le (Decimal.fit_mono (one_div_le_one_div_of_le h.pos h.2))

/-- And is not above the inverse of the smallest one. -/
theorem SanePrice.noFeeRate_le {p : Decimal} (h : SanePrice p) :
    noFeeRate false p ≤ 10 ^ MAX_PRICE_DP := by
  have hkept : Decimal.fit (1 / (1 / 10 ^ MAX_PRICE_DP)) = 10 ^ MAX_PRICE_DP := by decide +kernel
  rw [← hkept]
  exact Decimal.fit_mono (one_div_le_one_div_of_le (by positivity) h.1)

/-- A bucket, and a price for it. -/
def SaneQuotes (table : Option QuoteTable) : Prop :=
  ∀ (t : QuoteTable) (q : Nat) (p : Decimal), table = some t → t[q]? = some p →
    q ∈ QUANTITIES ∧ SanePrice p

theorem le_of_mem_quantities : ∀ q ∈ QUANTITIES, q ≤ 1000000 := by decide

/-! ## Rates -/

/-- A rate is found for every value a bucket holds, and it is a sensible one. -/
theorem rateAt_returns (conversion : ConversionInfo) {price value : Decimal} (charge : Bool)
    (hspread : 0 ≤ cfg.spread ∧ cfg.spread < 2) (hprice : SanePrice price) (h0 : 0 ≤ value)
    (h1 : value ≤ 1000001) : ∃ rate fees,
      rateAt cfg conversion price value charge = .ok (some rate, some fees) := by
  have hpos := hprice.pos
  have hquoted : ∃ quoted, rateAt cfg conversion price value charge = .ok quoted := by
    cases hlinear : conversion.isLinear with
    | true =>
      exact rateAt_linear charge hlinear hspread hpos
        (hprice.2.trans (by norm_num [Decimal.MAX, MAX_TICKS])) h0
        (h1.trans (by norm_num [Decimal.MAX]))
    | false =>
      obtain ⟨hm1, hm2⟩ := inverseModifier_mem hspread charge
      have hinverse : 1 / price ≤ 10 ^ MAX_PRICE_DP := by
        have hlow := hprice.1
        rw [div_le_iff₀ (by positivity)] at hlow
        rw [div_le_iff₀ hpos]
        linarith
      have hmodified : price * inverseModifier cfg charge ≤ MAX_TICKS * 2 :=
        mul_le_mul hprice.2 hm2 (zero_le_one.trans hm1) (by norm_num [MAX_TICKS])
      have hquot : value / price ≤ 1000001 * 10 ^ MAX_PRICE_DP := by
        rw [div_eq_mul_one_div]
        exact mul_le_mul h1 hinverse (div_pos one_pos hpos).le (by norm_num)
      have hworth : worth false price value ≤ Decimal.MAX :=
        (le_abs_self _).trans (Rounding.abs_round_le (abs_le_max (div_nonneg h0 hpos.le)
          hquot (by norm_num [Decimal.MAX, MAX_PRICE_DP])))
      exact (rateAt_inverse charge hlinear hspread hpos
        (hinverse.trans (by norm_num [Decimal.MAX, MAX_PRICE_DP])) hprice.noFeeRate_pos
        (hmodified.trans (by norm_num [Decimal.MAX, MAX_TICKS])) h0).1 hworth
  obtain ⟨quoted, hquoted⟩ := hquoted
  rw [(rateAt_eq_ok hquoted).2.1] at hquoted
  exact ⟨_, _, hquoted⟩

/-- What a lookup in a sensible table yields, if it yields a rate: the value is
one the largest bucket holds, and the rate within the bounds of a price. -/
structure SaneRate (linear : Bool) (value : Decimal) (rate : Rate) : Prop where
  value_nonneg : 0 ≤ value
  value_le : value ≤ 1000001
  rate_nonneg : 0 ≤ rate.value
  linear_le : linear = true → rate.value ≤ MAX_TICKS
  inverse_le : linear = false → rate.value ≤ 10 ^ MAX_PRICE_DP

/-- A value in the first bucket that holds it is one the largest bucket holds. -/
theorem value_le_of_firstFrom {t : QuoteTable} {value price : Decimal} {lookup q : Nat}
    (hlookup : value.toU64 = some lookup) (hfirst : firstFrom t lookup = some (q, price))
    (hq : q ∈ QUANTITIES) : 0 ≤ value ∧ value ≤ 1000001 := by
  unfold firstFrom at hfirst
  have hfound := List.find?_some hfirst
  have hlookupq : lookup ≤ q := (of_decide_eq_true hfound).1
  have hle := le_of_mem_quantities q hq
  unfold Decimal.toU64 at hlookup
  split at hlookup
  next hvalue =>
    injection hlookup with hlookup
    have hfloor : ⌊value⌋ ≤ (1000000 : ℤ) := by omega
    have hcast : (⌊value⌋ : Decimal) ≤ 1000000 := by exact_mod_cast hfloor
    exact ⟨hvalue.1, by linarith [Int.lt_floor_add_one value]⟩
  next => exact absurd hlookup (by simp)

theorem rateFor_returns {t : QuoteTable} (conversion : ConversionInfo) (value : Decimal)
    (charge : Bool) (hspread : 0 ≤ cfg.spread ∧ cfg.spread < 2) (ht : SaneQuotes (some t)) :
    ∃ quoted, rateFor cfg t conversion value charge = .ok quoted ∧
      ∀ rate, quoted.1 = some rate → SaneRate conversion.isLinear value rate := by
  unfold rateFor
  cases hlookup : value.toU64 with
  | none => exact ⟨_, rfl, fun rate h => absurd h (by simp)⟩
  | some lookup =>
    dsimp only
    cases hfirst : firstFrom t lookup with
    | none => exact ⟨_, rfl, fun rate h => absurd h (by simp)⟩
    | some e =>
      obtain ⟨q, price⟩ := e
      obtain ⟨hq, hprice⟩ := ht t q price rfl (mem_of_firstFrom hfirst)
      obtain ⟨h0, h1⟩ := value_le_of_firstFrom hlookup hfirst hq
      obtain ⟨rate, fees, hrate⟩ := rateAt_returns conversion charge hspread hprice h0 h1
      refine ⟨_, hrate, fun rate' hrate' => ?_⟩
      injection hrate' with hrate'
      obtain ⟨hr0, hle⟩ := rateAt_le hspread hprice.pos hrate
      rw [← hrate']
      refine ⟨h0, h1, hr0, fun hlinear => ?_, fun hlinear => ?_⟩
      · rw [hlinear] at hle
        exact hle.trans hprice.2
      · rw [hlinear] at hle
        exact hle.trans hprice.noFeeRate_le

/-- Every quote of every contract is sensible. -/
structure SaneMarket (s : DealerState) : Prop where
  bids : ∀ symbol, SaneQuotes (s.bidQuotes.lookup symbol)
  asks : ∀ symbol, SaneQuotes (s.askQuotes.lookup symbol)

/-- A bitcoin amount at the price of the first bucket fits into a decimal. -/
def AmountFits (s : DealerState) (amount : Money) (symbol : Symbol) : Prop :=
  ∀ (t : QuoteTable) (q : Nat) (best : Decimal), s.bidQuotes.lookup symbol = some t →
    firstFrom t 0 = some (q, best) → |amount.value * best| ≤ Decimal.MAX

theorem getBtcCrossRate_returns {a b : Currency} {conversion : ConversionInfo} (amount : Money)
    (charge : Bool) (hspread : 0 ≤ cfg.spread ∧ cfg.spread < 2) (hs : SaneMarket s)
    (hnew : ConversionInfo.new a b = .ok conversion) (hamount : |amount.value| ≤ Decimal.MAX)
    (hfits : a = .BTC → AmountFits s amount conversion.symbol) :
    ∃ quoted, getBtcCrossRate cfg s amount conversion charge = .ok quoted ∧
      ∀ rate, quoted.1 = some rate → 0 ≤ rate.value ∧
        (a = .BTC → rate.value ≤ MAX_TICKS) ∧
        (b = .BTC → 0 ≤ amount.value ∧ amount.value ≤ 1000001 ∧
          rate.value ≤ 10 ^ MAX_PRICE_DP) := by
  unfold getBtcCrossRate
  rcases conversionInfo_eq_ok hnew with ⟨rfl, hsymbol, hside, hlinear, hquote⟩ |
    ⟨rfl, hsymbol, hside, hlinear, hquote⟩
  · have hquotes : quotesFor s conversion = s.bidQuotes.lookup conversion.symbol := by
      unfold quotesFor
      rw [hside]
    rw [hquotes]
    cases ht : s.bidQuotes.lookup conversion.symbol with
    | none => exact ⟨_, rfl, fun rate h => absurd h (by simp)⟩
    | some t =>
      dsimp only
      rw [if_pos hquote]
      cases hbest : firstFrom t 0 with
      | none => exact ⟨_, rfl, fun rate h => absurd h (by simp)⟩
      | some e =>
        obtain ⟨q, best⟩ := e
        -- from bitcoin, by the price of the first bucket
        have hmul : Decimal.mul amount.value best = .ok (amount.value * best) :=
          Decimal.mul_eq_ok.mpr ⟨hfits rfl t q best ht hbest, rfl⟩
        have hsane := hs.bids conversion.symbol
        rw [ht] at hsane
        obtain ⟨quoted, hquoted, hrate⟩ := rateFor_returns conversion (amount.value * best) charge
          hspread hsane
        refine ⟨quoted, Checked.bind_eq_ok.mpr ⟨_, hmul, hquoted⟩, fun rate h => ?_⟩
        have hrate := hrate rate h
        refine ⟨hrate.rate_nonneg, fun _ => hrate.linear_le hlinear, fun hb => ?_⟩
        rw [hb] at hsymbol
        exact absurd hsymbol (by simp [Currency.symbol])
  · have hquotes : quotesFor s conversion = s.askQuotes.lookup conversion.symbol := by
      unfold quotesFor
      rw [hside]
    rw [hquotes]
    cases ht : s.askQuotes.lookup conversion.symbol with
    | none => exact ⟨_, rfl, fun rate h => absurd h (by simp)⟩
    | some t =>
      dsimp only
      rw [if_neg (not_not.mpr hquote)]
      -- to bitcoin: the amount is in fiat as it is
      have hmul : Decimal.mul amount.value 1 = .ok (amount.value * 1) :=
        Decimal.mul_eq_ok.mpr ⟨by rwa [mul_one], rfl⟩
      have hsane := hs.asks conversion.symbol
      rw [ht] at hsane
      obtain ⟨quoted, hquoted, hrate⟩ := rateFor_returns conversion (amount.value * 1) charge
        hspread hsane
      refine ⟨quoted, Checked.bind_eq_ok.mpr ⟨_, hmul, hquoted⟩, fun rate h => ?_⟩
      have hrate := hrate rate h
      refine ⟨hrate.rate_nonneg, fun ha => ?_, fun _ => ?_⟩
      · rw [ha] at hsymbol
        exact absurd hsymbol (by simp [Currency.symbol])
      · have h0 := hrate.value_nonneg
        have h1 := hrate.value_le
        rw [mul_one] at h0 h1
        exact ⟨h0, h1, hrate.inverse_le hlinear⟩

theorem getRateInv_returns (conversion : ConversionInfo) (amount : Money)
    (hspread : 0 ≤ cfg.spread ∧ cfg.spread < 2) (hs : SaneMarket s) :
    ∃ quoted, getRateInv cfg s amount conversion = .ok quoted := by
  unfold getRateInv
  have hsane : SaneQuotes (quotesFor s conversion) := by
    unfold quotesFor
    split
    · exact hs.asks _
    · exact hs.bids _
  cases ht : quotesFor s conversion with
  | none => exact ⟨_, rfl⟩
  | some t =>
    rw [ht] at hsane
    obtain ⟨quoted, hquoted, -⟩ := rateFor_returns conversion
      (amount.value.roundDpWithStrategy 0 .awayFromZero) true hspread hsane
    exact ⟨quoted, hquoted⟩

/-! ## What is asked for -/

theorem conversionInfo_toBtc {c : Currency} (hc : c.IsFiat) :
    ∃ conversion, ConversionInfo.new c .BTC = .ok conversion := by
  rcases hc with rfl | rfl | rfl
  · exact ⟨_, rfl⟩
  · exact ⟨_, rfl⟩
  · exact ⟨_, rfl⟩

theorem conversionInfo_fromBtc {c : Currency} (hc : c.IsFiat) :
    ∃ conversion, ConversionInfo.new .BTC c = .ok conversion := by
  rcases hc with rfl | rfl | rfl
  · exact ⟨_, rfl⟩
  · exact ⟨_, rfl⟩
  · exact ⟨_, rfl⟩

/-- A conversion the dealer can price: between fiat currencies, which may be the
same, or between one of them and bitcoin. -/
structure Priceable (s : DealerState) (amount : Money) (target : Currency) : Prop where
  fromListed : amount.currency = .BTC ∨ amount.currency.IsFiat
  toListed : target = .BTC ∨ target.IsFiat
  fiat : amount.currency.IsFiat ∨ target.IsFiat
  represented : |amount.value| ≤ Decimal.MAX
  fits : amount.currency = .BTC → ∀ symbol, target.symbol = .ok symbol → AmountFits s amount symbol

/-- What is worth at most a million of one currency is worth a number of another
that fits into a decimal. -/
theorem amountFits_converted {amount rate : Decimal} (hs : SaneMarket s) (symbol : Symbol)
    (h0 : 0 ≤ amount) (h1 : amount ≤ 1000001) (hr0 : 0 ≤ rate) (hr1 : rate ≤ 10 ^ MAX_PRICE_DP) :
    AmountFits s (Money.new .BTC (amount * rate)) symbol := by
  intro t q best ht hbest
  have hsane := hs.bids symbol
  obtain ⟨-, hprice⟩ := hsane t q best ht (mem_of_firstFrom hbest)
  have hvalue : 0 ≤ amount * rate := mul_nonneg h0 hr0
  have hround : (Money.new .BTC (amount * rate)).value ≤ amount * rate :=
    Decimal.roundToZero_le hvalue
  have hround0 : 0 ≤ (Money.new .BTC (amount * rate)).value := Decimal.roundToZero_nonneg hvalue
  have hle : amount * rate ≤ 1000001 * 10 ^ MAX_PRICE_DP := mul_le_mul h1 hr1 hr0 (by norm_num)
  refine abs_le_max (mul_nonneg hround0 hprice.pos.le)
    (b := 1000001 * 10 ^ MAX_PRICE_DP * MAX_TICKS) ?_
    (by norm_num [Decimal.MAX, MAX_PRICE_DP, MAX_TICKS])
  exact mul_le_mul (hround.trans hle) hprice.2 hprice.pos.le (by positivity)

theorem getRate_returns {amount : Money} {target : Currency}
    (hspread : 0 ≤ cfg.spread ∧ cfg.spread < 2) (hs : SaneMarket s)
    (h : Priceable s amount target) : ∃ quoted, getRate cfg s amount target = .ok quoted := by
  unfold getRate
  by_cases hbtc : amount.currency = .BTC ∨ target = .BTC
  · rw [if_pos hbtc]
    -- one of the two currencies is bitcoin: one leg
    have hnew : ∃ conversion, ConversionInfo.new amount.currency target = .ok conversion := by
      rcases hbtc with hbtc | hbtc
      · rw [hbtc]
        exact conversionInfo_fromBtc (h.fiat.resolve_left fun hfiat => hfiat.ne_btc hbtc)
      · rw [hbtc]
        exact conversionInfo_toBtc (h.fiat.resolve_right fun hfiat => hfiat.ne_btc hbtc)
    obtain ⟨conversion, hnew⟩ := hnew
    have hfits : amount.currency = .BTC → AmountFits s amount conversion.symbol := by
      intro hsource
      rcases conversionInfo_eq_ok hnew with ⟨-, hsymbol, -⟩ | ⟨htarget, hsymbol, -⟩
      · exact h.fits hsource _ hsymbol
      · rw [hsource] at hsymbol
        exact absurd hsymbol (by simp [Currency.symbol])
    obtain ⟨quoted, hquoted, -⟩ := getBtcCrossRate_returns amount true hspread hs hnew
      h.represented hfits
    exact ⟨quoted, Checked.bind_eq_ok.mpr ⟨conversion, hnew, hquoted⟩⟩
  · rw [if_neg hbtc]
    rw [not_or] at hbtc
    -- two legs: into bitcoin without a fee, and on
    have hsource : amount.currency.IsFiat := h.fromListed.resolve_left hbtc.1
    have htarget : target.IsFiat := h.toListed.resolve_left hbtc.2
    obtain ⟨first, hfirst⟩ := conversionInfo_toBtc hsource
    obtain ⟨⟨toBtc, fees⟩, hquoted, hrate⟩ := getBtcCrossRate_returns amount false hspread hs hfirst
      h.represented fun hsource => absurd hsource hbtc.1
    cases toBtc with
    | none =>
      exact ⟨_, Checked.bind_eq_ok.mpr ⟨first, hfirst, Checked.bind_eq_ok.mpr ⟨_, hquoted, rfl⟩⟩⟩
    | some toBtc =>
      obtain ⟨hr0, -, hinv⟩ := hrate toBtc rfl
      obtain ⟨h0, h1, hr1⟩ := hinv rfl
      have hvalue : 0 ≤ amount.value * toBtc.value := mul_nonneg h0 hr0
      have hvalue' : amount.value * toBtc.value ≤ 1000001 * 10 ^ MAX_PRICE_DP :=
        mul_le_mul h1 hr1 hr0 (by norm_num)
      have hmul : Decimal.mul amount.value toBtc.value = .ok (amount.value * toBtc.value) :=
        Decimal.mul_eq_ok.mpr ⟨abs_le_max hvalue hvalue'
          (by norm_num [Decimal.MAX, MAX_PRICE_DP]), rfl⟩
      -- the bitcoin amount in between is in range, as an inverse rate is bounded
      have hconverted : |(Money.new .BTC (amount.value * toBtc.value)).value| ≤ Decimal.MAX :=
        (Decimal.abs_roundToZero_le _ _).trans (abs_le_max hvalue hvalue'
          (by norm_num [Decimal.MAX, MAX_PRICE_DP]))
      obtain ⟨second, hsecond⟩ := conversionInfo_fromBtc htarget
      obtain ⟨⟨toTarget, fees'⟩, hquoted', hrate'⟩ := getBtcCrossRate_returns
        (Money.new .BTC (amount.value * toBtc.value)) true hspread hs hsecond hconverted
        fun _ => amountFits_converted hs _ h0 h1 hr0 hr1
      cases toTarget with
      | none =>
        exact ⟨_, Checked.bind_eq_ok.mpr ⟨first, hfirst, Checked.bind_eq_ok.mpr ⟨_, hquoted,
          Checked.bind_eq_ok.mpr ⟨_, hmul, Checked.bind_eq_ok.mpr ⟨second, hsecond,
            Checked.bind_eq_ok.mpr ⟨_, hquoted', rfl⟩⟩⟩⟩⟩⟩
      | some toTarget =>
        obtain ⟨ht0, hlin, -⟩ := hrate' toTarget rfl
        have hfinal : Decimal.mul toBtc.value toTarget.value =
            .ok (toBtc.value * toTarget.value) := by
          refine Decimal.mul_eq_ok.mpr ⟨abs_le_max (mul_nonneg hr0 ht0)
            (b := 10 ^ MAX_PRICE_DP * MAX_TICKS) ?_
            (by norm_num [Decimal.MAX, MAX_PRICE_DP, MAX_TICKS]), rfl⟩
          exact mul_le_mul hr1 (hlin rfl) ht0 (by positivity)
        exact ⟨_, Checked.bind_eq_ok.mpr ⟨first, hfirst, Checked.bind_eq_ok.mpr ⟨_, hquoted,
          Checked.bind_eq_ok.mpr ⟨_, hmul, Checked.bind_eq_ok.mpr ⟨second, hsecond,
            Checked.bind_eq_ok.mpr ⟨_, hquoted', Checked.bind_eq_ok.mpr ⟨_, hfinal, rfl⟩⟩⟩⟩⟩⟩⟩

end Lndhubx
