import Lndhubx.Dealer.Pricing
import Lndhubx.Dealer.Tables

/-!
# Swapping in a circle

A user may swap one currency into another, that one into a third, and so on,
each time at the rate of the dealer's tables. Both roundings of a quote are in
the user's favour, and between two fiat currencies the spread is charged once.
Still, where the tables are those of the current books (`SoundMarket`), whoever
comes back to the currency he started with has not gained (`no_money_pump`).

The argument: for each contract there is a price that no bid quote exceeds and no
ask quote falls below (`exists_fair`), since a whole number of ticks lies between
the two sides and rounding does not pass it. Measured at these prices, no swap
gains (`getRate_le_fair`).

The premise is that the arithmetic is exact (`Rounding.IsExact`) but for what the code
itself cuts off. A quotient that is rounded to 28 digits may be rounded up, and an
inverse rate with it.
-/

namespace Lndhubx

open DealerEngine

variable {cfg : DealerConfig} {s : DealerState}

/-! ## A price between the sides -/

/-- Every price is a positive whole number of ticks. -/
def TickPrices (side : BookSide) : Prop :=
  ∀ l ∈ side.levels, ∃ n : ℕ, 0 < n ∧ l.1.value = n

/-- A book in whole ticks whose best bid is not above its best ask. -/
structure SoundBook (l2 : Level2State) : Prop where
  bids : TickPrices l2.bids
  asks : TickPrices l2.asks
  uncrossed : ∀ b ∈ l2.bids.levels, ∀ a ∈ l2.asks.levels, b.1.value ≤ a.1.value

/-- The tables of every contract are those of its book, and the books are sound. -/
def SoundMarket [Rounding] (cfg : DealerConfig) (s : DealerState) : Prop :=
  ∀ symbol, (∃ ws, QuotesCurrent cfg ws s symbol) ∧
    ∀ l2, s.level2Data.lookup symbol = some l2 → SoundBook l2

/-- No bid quote of the contract is above the price, and no ask quote below. -/
structure Fair (s : DealerState) (symbol : Symbol) (price : Decimal) : Prop where
  pos : 0 < price
  bid : ∀ (t : QuoteTable) (q : Nat) p, s.bidQuotes.lookup symbol = some t →
    t[q]? = some p → 0 < p ∧ p ≤ price
  ask : ∀ (t : QuoteTable) (q : Nat) p, s.askQuotes.lookup symbol = some t →
    t[q]? = some p → price ≤ p

/-- A whole number of ticks lies between the sides of a sound book. -/
theorem SoundBook.exists_between {l2 : Level2State} (h : SoundBook l2) :
    ∃ n : ℕ, 0 < n ∧ (∀ l ∈ l2.bids.levels, l.1.value ≤ n) ∧
      ∀ l ∈ l2.asks.levels, (n : Decimal) ≤ l.1.value := by
  classical
  by_cases hasks : ∃ n : ℕ, ∃ l ∈ l2.asks.levels, l.1.value = n
  · -- the best ask
    obtain ⟨a, ha, hvalue⟩ := Nat.find_spec hasks
    obtain ⟨m, hm, hvalue'⟩ := h.asks a ha
    have hmn : Nat.find hasks = m := by exact_mod_cast hvalue.symm.trans hvalue'
    refine ⟨Nat.find hasks, by omega, fun b hb => ?_, fun l hl => ?_⟩
    · rw [← hvalue]
      exact h.uncrossed b hb a ha
    · obtain ⟨k, hk, hl'⟩ := h.asks l hl
      rw [hl']
      exact_mod_cast Nat.find_min' hasks ⟨l, hl, hl'⟩
  · -- no asks: any number above the bids
    have hbound : ∀ side : List (Scaled × Nat), (∀ l ∈ side, ∃ n : ℕ, l.1.value = n) →
        ∃ n : ℕ, 0 < n ∧ ∀ l ∈ side, l.1.value ≤ n := by
      intro side
      induction side with
      | nil => exact fun _ => ⟨1, one_pos, by simp⟩
      | cons l side ih =>
        intro hside
        obtain ⟨n, hn, hle⟩ := ih fun l hl => hside l (List.mem_cons_of_mem _ hl)
        obtain ⟨k, hk⟩ := hside l (List.mem_cons_self ..)
        refine ⟨n + k, by omega, fun l' hl' => ?_⟩
        rcases List.mem_cons.mp hl' with rfl | hl'
        · rw [hk]
          exact_mod_cast Nat.le_add_left k n
        · exact (hle l' hl').trans (by exact_mod_cast Nat.le_add_right n k)
    obtain ⟨n, hn, hle⟩ := hbound l2.bids.levels fun l hl => by
      obtain ⟨m, -, hm⟩ := h.bids l hl
      exact ⟨m, hm⟩
    refine ⟨n, hn, hle, fun l hl => ?_⟩
    obtain ⟨m, -, hm⟩ := h.asks l hl
    exact absurd ⟨m, l, hl, hm⟩ hasks

section market

variable [Rounding]

/-- What current tables say: nothing, or the prices of the book. -/
theorem QuotesCurrent.priced {ws : WsClient} {symbol : Symbol}
    (h : QuotesCurrent cfg ws s symbol) :
    (s.bidQuotes.lookup symbol = none ∧ s.askQuotes.lookup symbol = none) ∨
    ∃ l2 dp, s.level2Data.lookup symbol = some l2 ∧
      (∀ (t : QuoteTable) (q : Nat) p, s.bidQuotes.lookup symbol = some t → t[q]? = some p →
        PricedAt .ceil dp l2.bids.levels.reverse q p) ∧
      (∀ (t : QuoteTable) (q : Nat) p, s.askQuotes.lookup symbol = some t → t[q]? = some p →
        PricedAt .floor dp l2.asks.levels q p) := by
  obtain ⟨s', hrun, hbids, hasks, -⟩ := h.fresh
  have herased : (s.withoutQuotes symbol).bidQuotes.lookup symbol = none ∧
      (s.withoutQuotes symbol).askQuotes.lookup symbol = none :=
    ⟨AList.lookup_erase symbol s.bidQuotes, AList.lookup_erase symbol s.askQuotes⟩
  rcases updateQuotes_spec hrun with ⟨-, rfl⟩ | ⟨-, rfl⟩ | ⟨l2, bids, asks, hreq⟩
  · exact .inl ⟨hbids.trans herased.1, hasks.trans herased.2⟩
  · exact .inl ⟨hbids.trans herased.1, hasks.trans herased.2⟩
  · have hs' := hrun.symm.trans (hreq.run _ _)
    injection hs' with hs'
    obtain rfl := (Prod.ext_iff.mp hs').2
    obtain ⟨contract, -, hbidPrices, haskPrices⟩ := hreq.priced
    have hbids : s.bidQuotes.lookup symbol = _ := hbids.trans lookup_storeQuotes_erase
    have hasks : s.askQuotes.lookup symbol = _ := hasks.trans lookup_storeQuotes_erase
    have hmem {table : Option QuoteTable} {quotes : List (Nat × Decimal)} {t : QuoteTable} {q : Nat}
        {p : Decimal} (htable : table = if quotes = [] then none else some (insertAll ∅ quotes))
        (ht : table = some t) (hp : t[q]? = some p) : (q, p) ∈ quotes := by
      rw [ht] at htable
      split at htable
      next => exact absurd htable (by simp)
      next =>
        injection htable with htable
        rw [htable] at hp
        rcases mem_of_getElem?_insertAll hp with hp | hp
        · rw [Std.ExtTreeMap.getElem?_empty] at hp
          exact absurd hp (by simp)
        · exact hp
    exact .inr ⟨l2, contract.priceDp, hreq.book, fun t q p ht hp => hbidPrices _ (hmem hbids ht hp),
      fun t q p ht hp => haskPrices _ (hmem hasks ht hp)⟩

theorem SoundMarket.exists_fair (hexact : Rounding.IsExact) (h : SoundMarket cfg s)
    (symbol : Symbol) : ∃ price, Fair s symbol price := by
  obtain ⟨⟨ws, hcurrent⟩, hbook⟩ := h symbol
  rcases hcurrent.priced with ⟨hbids, hasks⟩ | ⟨l2, dp, hl2, hbids, hasks⟩
  · refine ⟨1, one_pos, fun t q p ht => ?_, fun t q p ht => ?_⟩
    · rw [hbids] at ht
      exact absurd ht (by simp)
    · rw [hasks] at ht
      exact absurd ht (by simp)
  · obtain ⟨n, hn, hbelow, habove⟩ := (hbook l2 hl2).exists_between
    refine ⟨n / 10 ^ dp, div_pos (by exact_mod_cast hn) (by positivity), ?_, ?_⟩
    · intro t q p ht hp
      have hbids := hbids t q p ht hp
      have hticks := (hbook l2 hl2).bids
      have hone : ∀ l ∈ l2.bids.levels.reverse, ((1 : ℕ) : Decimal) ≤ l.1.value := by
        intro l hl
        obtain ⟨n, hn, hvalue⟩ := hticks l (List.mem_reverse.mp hl)
        rw [hvalue]
        exact_mod_cast hn
      refine ⟨lt_of_lt_of_le (by positivity) (hbids.le_bid (hexact _) hone),
        hbids.bid_le (hexact _) ?_⟩
      exact fun l hl => hbelow l (List.mem_reverse.mp hl)
    · intro t q p ht hp
      exact (hasks t q p ht hp).le_ask (hexact _) habove

end market

/-! ## One swap -/

theorem normalized_le {x : Decimal} (h : 0 ≤ x) :
    0 ≤ Rate.normalizedValue x ∧ Rate.normalizedValue x ≤ x :=
  ⟨Decimal.roundToZero_nonneg h, Decimal.roundToZero_le h⟩

/-- What a conversion is between, and which table prices it. -/
theorem conversionInfo_eq_ok {a b : Currency} {conversion : ConversionInfo}
    (h : ConversionInfo.new a b = .ok conversion) :
    (a = .BTC ∧ b.symbol = .ok conversion.symbol ∧ conversion.side = .ask ∧
      conversion.isLinear = true ∧ conversion.fromCurrency ≠ conversion.quote) ∨
    (b = .BTC ∧ a.symbol = .ok conversion.symbol ∧ conversion.side = .bid ∧
      conversion.isLinear = false ∧ conversion.fromCurrency = conversion.quote) := by
  cases a <;> cases b <;>
    simp [ConversionInfo.new, Currency.symbol, bind, Except.bind, pure, Except.pure, throw,
      throwThe, MonadExceptOf.throw, ConversionInfo.isLinear] at h ⊢ <;>
    subst h <;> simp

theorem mem_of_firstFrom {t : QuoteTable} {lookup q : Nat} {price : Decimal}
    (h : firstFrom t lookup = some (q, price)) : t[q]? = some price :=
  Std.ExtTreeMap.mem_toList_iff_getElem?_eq_some.mp (List.mem_of_find?_eq_some h)

section rounding

variable [Rounding]

/-- No rate is above the one without the spread. -/
theorem rateAt_le {conversion : ConversionInfo} {price value : Decimal} {charge : Bool}
    {rate : Rate} {fees : Option Money} (hspread : 0 ≤ cfg.spread ∧ cfg.spread < 2)
    (hprice : 0 < price) (h : rateAt cfg conversion price value charge = .ok (some rate, fees)) :
    0 ≤ rate.value ∧ rate.value ≤ noFeeRate conversion.isLinear price := by
  obtain ⟨-, hquoted, -⟩ := rateAt_eq_ok h
  injection (Prod.ext_iff.mp hquoted).1 with hrate
  rw [hrate]
  cases conversion.isLinear with
  | true =>
    obtain ⟨h0, h1⟩ := userRate_linear_le hspread hprice charge
    obtain ⟨hn0, hn1⟩ := normalized_le h0
    exact ⟨hn0, hn1.trans h1⟩
  | false =>
    obtain ⟨h0, h1⟩ := userRate_inverse_le hspread hprice charge
    obtain ⟨hn0, hn1⟩ := normalized_le h0
    exact ⟨hn0, hn1.trans h1⟩

theorem rateFor_firstFrom {t : QuoteTable} {conversion : ConversionInfo} {value : Decimal}
    {charge : Bool} {rate : Rate} {fees : Option Money}
    (h : rateFor cfg t conversion value charge = .ok (some rate, fees)) :
    ∃ (lookup q : Nat) (price : Decimal), value.toU64 = some lookup ∧
      firstFrom t lookup = some (q, price) ∧
      rateAt cfg conversion price value charge = .ok (some rate, fees) := by
  unfold rateFor at h
  split at h
  next lookup hlookup =>
    split at h
    next q price hfirst => exact ⟨lookup, q, price, hlookup, hfirst, h⟩
    next => exact absurd (Prod.ext_iff.mp (Checked.pure_eq_ok.mp h)).1 (by simp)
  next => exact absurd (Prod.ext_iff.mp (Checked.pure_eq_ok.mp h)).1 (by simp)

theorem rateFor_eq_ok {t : QuoteTable} {conversion : ConversionInfo} {value : Decimal}
    {charge : Bool} {rate : Rate} {fees : Option Money}
    (h : rateFor cfg t conversion value charge = .ok (some rate, fees)) :
    0 ≤ value ∧ ∃ (q : Nat) (price : Decimal), t[q]? = some price ∧
      rateAt cfg conversion price value charge = .ok (some rate, fees) := by
  obtain ⟨lookup, q, price, hlookup, hfirst, hrate⟩ := rateFor_firstFrom h
  refine ⟨?_, q, price, mem_of_firstFrom hfirst, hrate⟩
  unfold Decimal.toU64 at hlookup
  split at hlookup
  next hnonneg => exact hnonneg.1
  next => exact absurd hlookup (by simp)

end rounding

/-- How much of a currency a bitcoin is worth, at given prices of the contracts. -/
def unitsPerBtc (fair : Symbol → Decimal) (c : Currency) : Decimal :=
  match c.symbol with
  | .ok symbol => fair symbol
  | .error _ => 1

section fair

variable {fair : Symbol → Decimal} (hfair : ∀ symbol, Fair s symbol (fair symbol))

include hfair

theorem unitsPerBtc_pos (c : Currency) : 0 < unitsPerBtc fair c := by
  unfold unitsPerBtc
  split
  next symbol _ => exact (hfair symbol).pos
  next => exact one_pos

variable [Rounding] (hexact : Rounding.IsExact)

include hexact

theorem getBtcCrossRate_le_fair {a b : Currency} {conversion : ConversionInfo} {amount : Money}
    {charge : Bool} {rate : Rate} {fees : Option Money}
    (hspread : 0 ≤ cfg.spread ∧ cfg.spread < 2) (hnew : ConversionInfo.new a b = .ok conversion)
    (h : getBtcCrossRate cfg s amount conversion charge = .ok (some rate, fees)) :
    0 ≤ amount.value ∧ 0 ≤ rate.value ∧
      rate.value * unitsPerBtc fair a ≤ unitsPerBtc fair b := by
  have hbtc : unitsPerBtc fair .BTC = 1 := rfl
  unfold getBtcCrossRate at h
  rcases conversionInfo_eq_ok hnew with ⟨rfl, hsymbol, hside, hlinear, hquote⟩ |
    ⟨rfl, hsymbol, hside, hlinear, hquote⟩
  · -- from bitcoin, at a bid quote
    have hquotes : quotesFor s conversion = s.bidQuotes.lookup conversion.symbol := by
      unfold quotesFor
      rw [hside]
    rw [hquotes] at h
    split at h
    next t ht =>
      rw [if_pos hquote] at h
      split at h
      next q best hbest =>
        obtain ⟨value, hvalue, h⟩ := Checked.bind_eq_ok.mp h
        obtain ⟨-, rfl⟩ := Decimal.mul_eq_ok.mp hvalue
        obtain ⟨hnonneg, q', price, hprice, h⟩ := rateFor_eq_ok h
        have hbestPos := ((hfair conversion.symbol).bid t q best ht (mem_of_firstFrom hbest)).1
        obtain ⟨hpos, hle⟩ := (hfair conversion.symbol).bid t q' price ht hprice
        obtain ⟨hrate, hlin⟩ := rateAt_le hspread hpos h
        rw [hlinear] at hlin
        refine ⟨nonneg_of_mul_nonneg_left hnonneg hbestPos, hrate, ?_⟩
        rw [hbtc, mul_one]
        unfold unitsPerBtc
        rw [hsymbol]
        exact hlin.trans hle
      next => exact absurd (Prod.ext_iff.mp (Checked.pure_eq_ok.mp h)).1 (by simp)
    next => exact absurd (Prod.ext_iff.mp (Checked.pure_eq_ok.mp h)).1 (by simp)
  · -- to bitcoin, at an ask quote
    have hquotes : quotesFor s conversion = s.askQuotes.lookup conversion.symbol := by
      unfold quotesFor
      rw [hside]
    rw [hquotes] at h
    split at h
    next t ht =>
      rw [if_neg (not_not.mpr hquote)] at h
      obtain ⟨value, hvalue, h⟩ := Checked.bind_eq_ok.mp h
      obtain ⟨-, rfl⟩ := Decimal.mul_eq_ok.mp hvalue
      obtain ⟨hnonneg, q, price, hprice, h⟩ := rateFor_eq_ok h
      have hle := (hfair conversion.symbol).ask t q price ht hprice
      have hpos : 0 < price := (hfair conversion.symbol).pos.trans_le hle
      obtain ⟨hrate, hinv⟩ := rateAt_le hspread hpos h
      have hnoFee : noFeeRate false price = 1 / price := hexact _
      rw [hlinear, hnoFee, le_div_iff₀ hpos] at hinv
      refine ⟨by rwa [mul_one] at hnonneg, hrate, ?_⟩
      rw [hbtc]
      unfold unitsPerBtc
      rw [hsymbol]
      exact (mul_le_mul_of_nonneg_left hle hrate).trans hinv
    next => exact absurd (Prod.ext_iff.mp (Checked.pure_eq_ok.mp h)).1 (by simp)

/-- No rate of the dealer is better than the fair prices. -/
theorem getRate_le_fair {amount : Money} {c : Currency} {rate : Rate} {fees : Option Money}
    (hspread : 0 ≤ cfg.spread ∧ cfg.spread < 2)
    (h : getRate cfg s amount c = .ok (some rate, fees)) :
    0 ≤ amount.value ∧ 0 ≤ rate.value ∧
      rate.value * unitsPerBtc fair amount.currency ≤ unitsPerBtc fair c := by
  unfold getRate at h
  split at h
  next =>
    obtain ⟨conversion, hnew, h⟩ := Checked.bind_eq_ok.mp h
    exact getBtcCrossRate_le_fair hfair hexact hspread hnew h
  next =>
    obtain ⟨first, hfirst, h⟩ := Checked.bind_eq_ok.mp h
    obtain ⟨quoted, hquoted, h⟩ := Checked.bind_eq_ok.mp h
    split at h
    next toBtc fees' =>
      obtain ⟨hamount, hrate₁, hle₁⟩ := getBtcCrossRate_le_fair hfair hexact hspread hfirst hquoted
      obtain ⟨converted, -, h⟩ := Checked.bind_eq_ok.mp h
      obtain ⟨second, hsecond, h⟩ := Checked.bind_eq_ok.mp h
      obtain ⟨quoted', hquoted', h⟩ := Checked.bind_eq_ok.mp h
      split at h
      next toTarget secondFee =>
        obtain ⟨-, hrate₂, hle₂⟩ := getBtcCrossRate_le_fair hfair hexact hspread hsecond hquoted'
        obtain ⟨value, hvalue, h⟩ := Checked.bind_eq_ok.mp h
        obtain ⟨-, rfl⟩ := Decimal.mul_eq_ok.mp hvalue
        injection (Prod.ext_iff.mp (Checked.pure_eq_ok.mp h)).1 with hrate
        obtain ⟨hnonneg, hle⟩ := normalized_le (mul_nonneg hrate₁ hrate₂)
        rw [← hrate]
        have hone : unitsPerBtc fair .BTC = 1 := rfl
        rw [hone] at hle₁ hle₂
        rw [mul_one] at hle₂
        have hunits := unitsPerBtc_pos hfair amount.currency
        refine ⟨hamount, hnonneg, ?_⟩
        calc Rate.normalizedValue (toBtc.value * toTarget.value) * unitsPerBtc fair amount.currency
            ≤ toBtc.value * toTarget.value * unitsPerBtc fair amount.currency :=
              mul_le_mul_of_nonneg_right hle hunits.le
          _ = toTarget.value * (toBtc.value * unitsPerBtc fair amount.currency) := by ring
          _ ≤ toTarget.value * 1 := mul_le_mul_of_nonneg_left hle₁ hrate₂
          _ ≤ unitsPerBtc fair c := by rwa [mul_one]
      next => exact absurd (Prod.ext_iff.mp (Checked.pure_eq_ok.mp h)).1 (by simp)
    next => exact absurd (Prod.ext_iff.mp (Checked.pure_eq_ok.mp h)).1 (by simp)

end fair

/-! ## A circle of swaps -/

/-- A swap into another currency at the rate the dealer gives for the amount. -/
def SwapStep [Rounding] (cfg : DealerConfig) (s : DealerState) (m : Money) (c : Currency)
    (m' : Money) :
    Prop :=
  c ≠ m.currency ∧ ∃ rate fees, getRate cfg s m c = .ok (some rate, fees) ∧
    m' = Money.new c (m.value * rate.value)

/-- Measured at fair prices, a swap does not gain. -/
theorem SwapStep.worth_le [Rounding] {fair : Symbol → Decimal}
    (hfair : ∀ symbol, Fair s symbol (fair symbol)) (hexact : Rounding.IsExact)
    (hspread : 0 ≤ cfg.spread ∧ cfg.spread < 2) {m m' : Money} {c : Currency}
    (h : SwapStep cfg s m c m') :
    m'.value / unitsPerBtc fair m'.currency ≤ m.value / unitsPerBtc fair m.currency := by
  obtain ⟨-, rate, fees, hrate, rfl⟩ := h
  obtain ⟨hamount, hnonneg, hle⟩ := getRate_le_fair hfair hexact hspread hrate
  have hpos := unitsPerBtc_pos hfair m.currency
  have hpos' := unitsPerBtc_pos hfair c
  have hcut : (Money.new c (m.value * rate.value)).value ≤ m.value * rate.value :=
    Decimal.roundToZero_le (mul_nonneg hamount hnonneg)
  show (Money.new c (m.value * rate.value)).value / unitsPerBtc fair c ≤ _
  rw [div_le_div_iff₀ hpos' hpos]
  calc (Money.new c (m.value * rate.value)).value * unitsPerBtc fair m.currency
      ≤ m.value * rate.value * unitsPerBtc fair m.currency :=
        mul_le_mul_of_nonneg_right hcut hpos.le
    _ = m.value * (rate.value * unitsPerBtc fair m.currency) := mul_assoc _ _ _
    _ ≤ m.value * unitsPerBtc fair c := mul_le_mul_of_nonneg_left hle hamount

/-- However often and through whichever currencies an amount is swapped, back in
its own currency it has not grown. -/
theorem no_money_pump [Rounding] (hexact : Rounding.IsExact)
    (hspread : 0 ≤ cfg.spread ∧ cfg.spread < 2) (hmarket : SoundMarket cfg s)
    {m m' : Money} {cs : List Currency} (h : Trace (SwapStep cfg s) m cs m')
    (hcycle : m'.currency = m.currency) : m'.value ≤ m.value := by
  choose fair hfair using hmarket.exists_fair hexact
  have hworth : m'.value / unitsPerBtc fair m'.currency ≤ m.value / unitsPerBtc fair m.currency :=
    h.invariant
      (I := fun x => x.value / unitsPerBtc fair x.currency ≤ m.value / unitsPerBtc fair m.currency)
      (fun _ _ _ _ hx hstep => (hstep.worth_le hfair hexact hspread).trans hx) (le_refl _)
  rw [hcycle] at hworth
  exact (div_le_div_iff_of_pos_right (unitsPerBtc_pos hfair m.currency)).mp hworth

namespace Sample

def swapped [Rounding] (s : DealerState) (m : Money) (c : Currency) : Option Money :=
  match getRate dealerConfig s m c with
  | .ok (some rate, _) => some (Money.new c (m.value * rate.value))
  | _ => none

theorem swapStep_of_swapped [Rounding] {s : DealerState} {m m' : Money} {c : Currency}
    (h : swapped s m c = some m') (hne : c ≠ m.currency) : SwapStep dealerConfig s m c m' := by
  unfold swapped at h
  split at h
  next rate fees hrate =>
    injection h with h
    exact ⟨hne, rate, fees, hrate, h.symm⟩
  next => exact absurd h (by simp)

/-- A hundred dollar contracts on each side. -/
def hundredOnBook : Level2State :=
  ⟨"snapshot", usdSymbol, oneLevel 20000 100, oneLevel 20010 100⟩

/-- The dealer after the report of that book, with its swaps from bitcoin and back. -/
theorem exists_quoted [Rounding] (h : (processOrderbookUpdate (dealerEnv 1).ws hundredOnBook
      dealer).toOption.any (fun r => decide (r.2.level2Data.keys = [usdSymbol] ∧
        (r.2.level2Data.lookup usdSymbol).any (fun l2 =>
          l2.bids.levels = [(⟨20000, 0⟩, 100)] ∧ l2.asks.levels = [(⟨20010, 0⟩, 100)]) = true ∧
        ((swapped r.2 ⟨.BTC, 1 / 1000⟩ .USD).any
          (fun m => m.currency = .USD ∧ (swapped r.2 m .BTC).any (·.currency = .BTC))) = true))
      = true) :
    ∃ s m, SoundMarket dealerConfig s ∧
      Trace (SwapStep dealerConfig s) ⟨.BTC, 1 / 1000⟩ [.USD, .BTC] m ∧ m.currency = .BTC := by
  cases hrun : processOrderbookUpdate (dealerEnv 1).ws hundredOnBook dealer with
  | error e =>
    rw [hrun] at h
    exact absurd h (by simp [Except.toOption])
  | ok r =>
    obtain ⟨_, s⟩ := r
    rw [hrun] at h
    obtain ⟨hkeys, hbook, hswap⟩ := of_decide_eq_true h
    obtain ⟨m₁, hm₁, hswap⟩ := (Option.any_eq_true _ _).mp hswap
    obtain ⟨hcur₁, hswap⟩ := of_decide_eq_true hswap
    obtain ⟨m₂, hm₂, hcur₂⟩ := (Option.any_eq_true _ _).mp hswap
    have hswaps : Trace (SwapStep dealerConfig s) ⟨.BTC, 1 / 1000⟩ [.USD, .BTC] m₂ :=
      ((Trace.nil _).snoc (swapStep_of_swapped hm₁ (by decide))).snoc
        (swapStep_of_swapped hm₂ (by rw [hcur₁]; decide))
    refine ⟨s, m₂, fun symbol => ?_, hswaps, of_decide_eq_true hcur₂⟩
    have hempty : QuotesMatch dealer := .of_noMarket ⟨rfl, rfl, rfl⟩
    have hkept : BucketsKept dealer hundredOnBook := bucketsKept_first (snapshotOf 100) _ rfl
    have hupdate : (QuotesCurrent dealerConfig (dealerEnv 1).ws s usdSymbol ↔
        BucketsKept dealer hundredOnBook) ∧ (BucketsKept dealer hundredOnBook → QuotesMatch s) :=
      hempty.update (tradable_snapshotOf 100 hundredOnBook rfl) hrun
    obtain ⟨hcurrent, hmatch⟩ := hupdate
    obtain ⟨l2, hl2, hlevels⟩ := (Option.any_eq_true _ _).mp hbook
    obtain ⟨hbids, hasks⟩ := of_decide_eq_true hlevels
    -- one level on each side, and the bid below the ask
    have hsound : SoundBook l2 := by
      refine ⟨?_, ?_, ?_⟩
      · intro l hl
        rw [hbids, List.mem_singleton] at hl
        rw [hl]
        exact ⟨20000, by norm_num, by norm_num⟩
      · intro l hl
        rw [hasks, List.mem_singleton] at hl
        rw [hl]
        exact ⟨20010, by norm_num, by norm_num⟩
      · intro b hb a ha
        rw [hbids, List.mem_singleton] at hb
        rw [hasks, List.mem_singleton] at ha
        rw [hb, ha]
        norm_num
    by_cases hsymbol : symbol = usdSymbol
    · rw [hsymbol]
      refine ⟨⟨_, hcurrent.mpr hkept⟩, fun l2' hl2' => ?_⟩
      rw [hl2] at hl2'
      injection hl2' with hl2'
      rw [← hl2']
      exact hsound
    · -- no other contract was reported
      have hnone : s.level2Data.lookup symbol = none := by
        rw [AList.lookup_eq_none, AList.mem_keys, hkeys, List.mem_singleton]
        exact hsymbol
      refine ⟨⟨(dealerEnv 1).ws, (hmatch hkept).current_of_none hnone⟩, fun l2' hl2' => ?_⟩
      rw [hnone] at hl2'
      exact absurd hl2' (by simp)

end Sample

/-- From bitcoin to dollars and back, in exact arithmetic. -/
theorem no_money_pump_sample : ∃ s m, @SoundMarket .exact Sample.dealerConfig s ∧
    Trace (@SwapStep .exact Sample.dealerConfig s) ⟨.BTC, 1 / 1000⟩ [.USD, .BTC] m ∧
    m.currency = .BTC ∧ m.value ≤ 1 / 1000 := by
  obtain ⟨s, m, hmarket, hrun, hcur⟩ := @Sample.exists_quoted .exact (by decide +kernel)
  exact ⟨s, m, hmarket, hrun, hcur, @no_money_pump Sample.dealerConfig s .exact (fun _ => rfl)
    (by norm_num [Sample.dealerConfig]) hmarket _ _ _ hrun hcur⟩

end Lndhubx
