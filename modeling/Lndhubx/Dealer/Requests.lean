import Lndhubx.Api.Routes
import Lndhubx.Bank.ProcessMsg
import Lndhubx.Dealer.Guaranteed
import Lndhubx.Dealer.Rates

/-!
# Requests of users that do not panic the dealer

`Serves` lists what a request must meet so that the dealer handles it without a
panic, in every state its runs lead to (`served_in_every_run`), as long as the
exchange reports sensible books (`SaneReport`): prices are whole numbers of ticks
up to `MAX_TICKS`, a tick being worth at least `10 ^ -MAX_PRICE_DP`.

The bank forwards some requests that do not meet it: a quote from bitcoin to
bitcoin panics (`quote_of_bitcoin_panics`), as a request in karma does.
-/

namespace Lndhubx

open Prog DealerEngine

variable {cfg : DealerConfig} {s : DealerState}

/-! ## Requests -/

variable {env : DealerEnv}

/-- The requests the bank forwards for a user, and what the dealer needs to
handle them. A swap of a currency for itself is refused before any rate is
looked up. -/
def Serves (env : DealerEnv) (s : DealerState) : Message → Prop
  | .api (.swapRequest req) => req.fromCurrency = req.toCurrency ∨
      req.amount.currency = req.fromCurrency ∧ QUOTE_TTL_MS * 1000 ≤ env.now ∧
        Priceable s req.amount req.toCurrency
  | .api (.quoteRequest req) => Priceable s req.amount req.toCurrency
  | .api (.invoiceRequest req) => req.currency.IsFiat
  | .api (.paymentRequest req) => req.currency.IsFiat
  | .api (.createLnurlWithdrawalRequest req) => req.currency.IsFiat
  | .dealer (.fiatDepositRequest req) => req.currency.IsFiat
  | _ => False

/-- A quote. -/
theorem quoteRequest_returns {req : QuoteRequest} (hspread : 0 ≤ cfg.spread ∧ cfg.spread < 2)
    (hs : SaneMarket s) (h : Priceable s req.amount req.toCurrency) :
    Returns (quoteRequest cfg env req) s := by
  obtain ⟨⟨rate, fees⟩, hrate⟩ := getRate_returns hspread hs h
  refine Returns.get_bind (Returns.lift_bind hrate ?_)
  exact Returns.ite (fun _ => Returns.set_bind (dealerListener_returns _))
    fun _ => dealerListener_returns _

/-- A swap. -/
theorem swapRequest_returns {req : SwapRequest} (hspread : 0 ≤ cfg.spread ∧ cfg.spread < 2)
    (hs : SaneMarket s) (h : Serves env s (.api (.swapRequest req))) :
    Returns (swapRequest cfg env req) s := by
  rcases h with heq | ⟨hown, hclock, hprice⟩
  · refine Returns.ite (fun _ => (dealerListener_returns _).bind fun _ _ => .ret _) fun hne => ?_
    exact absurd heq hne
  · obtain ⟨quoted, hrate⟩ := getRate_returns hspread hs hprice
    exact swapRequest_returns_of_rate hclock hown hrate

/-- An invoice in a fiat currency. -/
theorem dealerInvoiceRequest_returns {req : InvoiceRequest}
    (hspread : 0 ≤ cfg.spread ∧ cfg.spread < 2) (hs : SaneMarket s) (h : req.currency.IsFiat) :
    Returns (invoiceRequest cfg req) s := by
  obtain ⟨conversion, hnew⟩ := conversionInfo_fromBtc h
  obtain ⟨⟨rate, fees⟩, hrate⟩ := getRateInv_returns conversion req.amount hspread hs
  exact Returns.lift_bind hnew (Returns.get_bind (Returns.lift_bind hrate
    (dealerListener_returns _)))

/-- A payment from a fiat account. -/
theorem dealerPaymentRequest_returns {req : PaymentRequest}
    (hspread : 0 ≤ cfg.spread ∧ cfg.spread < 2) (hs : SaneMarket s) (h : req.currency.IsFiat) :
    Returns (DealerEngine.paymentRequest cfg req) s := by
  obtain ⟨conversion, hnew⟩ := conversionInfo_toBtc h
  refine Returns.lift_bind hnew ?_
  cases req.invoiceAmount with
  | none => exact .ret _
  | some amount =>
    obtain ⟨⟨rate, fees⟩, hrate⟩ := getRateInv_returns conversion amount hspread hs
    exact Returns.get_bind (Returns.lift_bind hrate (Returns.ite (fun _ => .ret _)
      fun _ => dealerListener_returns _))

/-- A withdrawal from a fiat account. -/
theorem createLnurlWithdrawalRequest_returns {req : CreateLnurlWithdrawalRequest}
    (hspread : 0 ≤ cfg.spread ∧ cfg.spread < 2) (hs : SaneMarket s) (h : req.currency.IsFiat) :
    Returns (DealerEngine.createLnurlWithdrawalRequest cfg req) s := by
  obtain ⟨conversion, hnew⟩ := conversionInfo_toBtc h
  obtain ⟨⟨rate, fees⟩, hrate⟩ := getRateInv_returns conversion req.amount hspread hs
  exact Returns.lift_bind hnew (Returns.get_bind (Returns.lift_bind hrate
    (Returns.ite (fun _ => .ret _) fun _ => dealerListener_returns _)))

/-- A deposit to a fiat account. -/
theorem processFiatDepositRequest_returns {req : FiatDepositRequest}
    (hspread : 0 ≤ cfg.spread ∧ cfg.spread < 2) (hs : SaneMarket s) (h : req.currency.IsFiat) :
    Returns (processFiatDepositRequest cfg req) s := by
  obtain ⟨conversion, hnew⟩ := conversionInfo_fromBtc h
  obtain ⟨⟨rate, fees⟩, hrate⟩ := getRateInv_returns conversion req.amount hspread hs
  exact Returns.lift_bind hnew (Returns.get_bind (Returns.lift_bind hrate
    (dealerListener_returns _)))

/-- In a sensible market every request that can be served is handled. -/
theorem Serves.returns {msg : Message} (hspread : 0 ≤ cfg.spread ∧ cfg.spread < 2)
    (hs : SaneMarket s) (h : Serves env s msg) : Returns (processMsg cfg env (.bank msg)) s := by
  cases msg with
  | api msg =>
    cases msg with
    | swapRequest req => exact swapRequest_returns hspread hs h
    | quoteRequest req => exact quoteRequest_returns hspread hs h
    | invoiceRequest req => exact dealerInvoiceRequest_returns hspread hs h
    | paymentRequest req => exact dealerPaymentRequest_returns hspread hs h
    | createLnurlWithdrawalRequest req =>
      exact createLnurlWithdrawalRequest_returns hspread hs h
    | _ => exact absurd h (by simp [Serves])
  | dealer msg =>
    cases msg with
    | fiatDepositRequest req => exact processFiatDepositRequest_returns hspread hs h
    | _ => exact absurd h (by simp [Serves])
  | _ => exact absurd h (by simp [Serves])

/-! ## Sensible reports -/

/-- Every price is from one tick to `MAX_TICKS`. -/
def SaneSide (b : BookSide) : Prop :=
  ∀ (price : Decimal) (l : Level), b[price]? = some l → 1 ≤ price ∧ price ≤ MAX_TICKS

/-- Both sides of a book. -/
def SaneBook (l2 : Level2State) : Prop := SaneSide l2.bids ∧ SaneSide l2.asks

/-- What the exchange reports: books with sensible prices, of contracts whose
ticks are not too small. -/
def SaneReport (d : DealerDelivery) : Prop :=
  ∀ u, d.input = .kollider (.level2State u) → SaneBook u ∧
    ∀ contract, d.env.ws.tradableSymbols.lookup u.symbol = some contract →
      contract.priceDp ≤ MAX_PRICE_DP

/-- A level at a sane price keeps a side sane. -/
theorem SaneSide.apply {b : BookSide} {price : Decimal} {l : Level} (hb : SaneSide b)
    (hprice : 1 ≤ price ∧ price ≤ MAX_TICKS) : SaneSide (b.apply price l) := by
  intro price' l' hl'
  unfold BookSide.apply at hl'
  split at hl'
  next =>
    rw [Std.ExtTreeMap.getElem?_erase] at hl'
    split at hl'
    next => exact absurd hl' (by simp)
    next => exact hb price' l' hl'
  next =>
    rw [Std.ExtTreeMap.getElem?_insert] at hl'
    split at hl'
    next heq =>
      rw [← Std.LawfulEqCmp.eq_of_compare heq]
      exact hprice
    next => exact hb price' l' hl'

/-- So does an update of several levels. -/
theorem SaneSide.applyAll {b delta : BookSide} (hb : SaneSide b) (hdelta : SaneSide delta) :
    SaneSide (b.applyAll delta) := by
  have hlist : ∀ e ∈ delta.toList, 1 ≤ e.1 ∧ e.1 ≤ MAX_TICKS := by
    intro e he
    exact hdelta e.1 e.2 (Std.ExtTreeMap.mem_toList_iff_getElem?_eq_some.mp he)
  unfold BookSide.applyAll
  generalize delta.toList = l at hlist
  induction l generalizing b with
  | nil => exact hb
  | cons e l ih =>
    have hprice := hlist e (List.mem_cons_self ..)
    exact ih (hb.apply hprice) fun e' he' => hlist e' (List.mem_cons_of_mem e he')

/-- The levels of a sensible side, as the quotes are computed from them. -/
theorem SaneSide.levels {b : BookSide} (hb : SaneSide b) {l : Scaled × Nat} (hl : l ∈ b.levels) :
    ((1 : ℕ) : Decimal) ≤ l.1.value ∧ l.1.value ≤ MAX_TICKS := by
  obtain ⟨e, he, rfl⟩ := List.mem_map.mp hl
  obtain ⟨h1, h2⟩ := hb e.1 e.2 (Std.ExtTreeMap.mem_toList_iff_getElem?_eq_some.mp he)
  exact ⟨by rw [Nat.cast_one]; exact h1, h2⟩

theorem updateBook_sane {books books' : AList fun _ : Symbol => Level2State} {u : Level2State}
    (hbooks : ∀ symbol l2, books.lookup symbol = some l2 → SaneBook l2) (hu : SaneBook u)
    (h : updateBook books u = .ok books') :
    ∀ symbol l2, books'.lookup symbol = some l2 → SaneBook l2 := by
  intro symbol l2 hl2
  by_cases hsymbol : symbol = u.symbol
  · rw [hsymbol] at hl2
    unfold updateBook at h
    split at h
    next =>
      rw [← Checked.pure_eq_ok.mp h, AList.lookup_insert] at hl2
      injection hl2 with hl2
      rw [← hl2]
      exact hu
    next =>
      split at h
      next =>
        split at h
        next book hbook =>
          rw [← Checked.pure_eq_ok.mp h, AList.lookup_insert] at hl2
          injection hl2 with hl2
          obtain ⟨hbids, hasks⟩ := hbooks _ book hbook
          rw [← hl2]
          exact ⟨hbids.applyAll hu.1, hasks.applyAll hu.2⟩
        next =>
          rw [← Checked.pure_eq_ok.mp h] at hl2
          exact hbooks _ l2 hl2
      next => exact absurd h (by simp [throw, throwThe, MonadExceptOf.throw])
  · rw [updateBook_lookup_ne h hsymbol] at hl2
    exact hbooks symbol l2 hl2

/-- Ticks of at least `10 ^ -MAX_PRICE_DP` each. -/
theorem sanePrice_of_ticks {dp : Nat} {p : Decimal} (hdp : dp ≤ MAX_PRICE_DP)
    (hlow : ((1 : ℕ) : Decimal) / 10 ^ dp ≤ p) (hhigh : p ≤ MAX_TICKS / 10 ^ dp) : SanePrice p := by
  have hpow : (10 : Decimal) ^ dp ≤ 10 ^ MAX_PRICE_DP := pow_le_pow_right₀ (by norm_num) hdp
  have hone : (1 : Decimal) ≤ 10 ^ dp := one_le_pow₀ (by norm_num)
  rw [Nat.cast_one] at hlow
  refine ⟨(one_div_le_one_div_of_le (by positivity) hpow).trans hlow, hhigh.trans ?_⟩
  exact div_le_self (Nat.cast_nonneg _) hone

/-- Sensible quotes put into a sensible table. -/
theorem storeQuotes_sane {tables : AList fun _ : Symbol => QuoteTable} {symbol : Symbol}
    {quotes : List (Nat × Decimal)} (ht : ∀ symbol, SaneQuotes (tables.lookup symbol))
    (hquotes : ∀ e ∈ quotes, e.1 ∈ QUANTITIES ∧ SanePrice e.2) (other : Symbol) :
    SaneQuotes ((storeQuotes tables symbol quotes).lookup other) := by
  by_cases hother : other = symbol
  · rw [hother, lookup_storeQuotes]
    split
    next => exact ht symbol
    next =>
      intro t q p htable hp
      injection htable with htable
      rw [← htable] at hp
      rcases mem_of_getElem?_insertAll hp with hp | hp
      · cases hold : tables.lookup symbol with
        | none =>
          rw [hold] at hp
          exact absurd (Std.ExtTreeMap.getElem?_empty.symm.trans hp) (by simp)
        | some old =>
          rw [hold] at hp
          exact ht symbol old q p hold hp
      · exact hquotes (q, p) hp
  · rw [lookup_storeQuotes_ne hother]
    exact ht other

/-- The dealer's books and quotes are sensible. -/
structure SaneDealer (s : DealerState) : Prop where
  books : ∀ symbol l2, s.level2Data.lookup symbol = some l2 → SaneBook l2
  market : SaneMarket s

/-- Before the first update there is nothing to be wrong. -/
theorem SaneDealer.of_noMarket (h : NoMarket s) : SaneDealer s := by
  refine ⟨fun symbol l2 hl2 => ?_, fun symbol t q p ht => ?_, fun symbol t q p ht => ?_⟩
  · rw [h.level2Data] at hl2
    exact absurd hl2 (by simp)
  · rw [h.bidQuotes] at ht
    exact absurd ht (by simp)
  · rw [h.askQuotes] at ht
    exact absurd ht (by simp)

/-- A message that leaves the market alone keeps it sane. -/
theorem SaneDealer.of_sameMarket {s' : DealerState} (hs : SaneDealer s) (h : SameMarket s s') :
    SaneDealer s' := by
  refine ⟨fun symbol l2 hl2 => ?_, fun symbol => ?_, fun symbol => ?_⟩
  · rw [h.level2Data] at hl2
    exact hs.books symbol l2 hl2
  · rw [h.bidQuotes]
    exact hs.market.bids symbol
  · rw [h.askQuotes]
    exact hs.market.asks symbol

theorem SaneDealer.update {s' : DealerState} {ws : WsClient} {u : Level2State} (hs : SaneDealer s)
    (hu : SaneBook u) (hdp : ∀ contract, ws.tradableSymbols.lookup u.symbol = some contract →
      contract.priceDp ≤ MAX_PRICE_DP)
    (h : processOrderbookUpdate ws u s = .ok ((), s')) : SaneDealer s' := by
  obtain ⟨books, hbooks, h⟩ := processOrderbookUpdate_eq_ok h
  have hsane := updateBook_sane hs.books hu hbooks
  rcases updateQuotes_spec h with ⟨-, rfl⟩ | ⟨-, rfl⟩ | ⟨l2, bids, asks, hreq⟩
  · exact ⟨hsane, hs.market.bids, hs.market.asks⟩
  · exact ⟨hsane, hs.market.bids, hs.market.asks⟩
  · have hs' := h.symm.trans (hreq.run s.bidQuotes s.askQuotes)
    injection hs' with hs'
    obtain rfl := (Prod.ext_iff.mp hs').2
    obtain ⟨contract, hcontract, hbidPrices, haskPrices⟩ := hreq.priced
    have hdp := hdp contract hcontract
    obtain ⟨hbidSide, haskSide⟩ := hsane u.symbol l2 hreq.book
    have hone : Decimal.fit ((1 : ℕ) : Decimal) = (1 : ℕ) := by decide +kernel
    have hmax : Decimal.fit (MAX_TICKS : Decimal) = MAX_TICKS := by decide +kernel
    refine ⟨hsane, storeQuotes_sane hs.market.bids fun e he => ⟨?_, ?_⟩,
      storeQuotes_sane hs.market.asks fun e he => ⟨?_, ?_⟩⟩
    · exact ((mem_keys_iff hreq.bidKeys).mp (List.mem_map_of_mem he)).1
    · have hlevels : ∀ l ∈ l2.bids.levels.reverse, l ∈ l2.bids.levels :=
        fun l hl => List.mem_reverse.mp hl
      exact sanePrice_of_ticks hdp
        ((hbidPrices e he).le_bid hone fun l hl => (hbidSide.levels (hlevels l hl)).1)
        ((hbidPrices e he).bid_le hmax fun l hl => (hbidSide.levels (hlevels l hl)).2)
    · exact ((mem_keys_iff hreq.askKeys).mp (List.mem_map_of_mem he)).1
    · exact sanePrice_of_ticks hdp
        ((haskPrices e he).le_ask hone fun l hl => (haskSide.levels hl).1)
        ((haskPrices e he).ask_le hmax fun l hl => (haskSide.levels hl).2)

/-- A sensible report leaves a sensible dealer. -/
theorem SaneDealer.step {s' : DealerState} {d : DealerDelivery} (hs : SaneDealer s)
    (hd : SaneReport d) (h : DealerDelivers cfg s d s') : SaneDealer s' := by
  rcases h.market with ⟨u, hu, hrun⟩ | hsame | hnone
  · obtain ⟨hbook, hdp⟩ := hd u hu
    exact hs.update hbook hdp hrun
  · exact hs.of_sameMarket hsame
  · exact .of_noMarket hnone

/-- In every run whose reports are sensible, every request that can be served is
handled. -/
theorem served_in_every_run {start now : DealerEnv} {pnl : Decimal} {ds : List DealerDelivery}
    {msg : Message} (hspread : 0 ≤ cfg.spread ∧ cfg.spread < 2)
    (hrun : DealerRun cfg (.new cfg start pnl) ds s) (hsane : ∀ d ∈ ds, SaneReport d)
    (h : Serves now s msg) : ∃ s', DealerDelivers cfg s ⟨now, .bank msg⟩ s' := by
  have hs : SaneDealer s := hrun.invariant
    (fun s d s' hd hs hstep => hs.step (hsane d hd) hstep) (.of_noMarket ⟨rfl, rfl, rfl⟩)
  obtain ⟨⟨⟩, s', hstep, -⟩ := completes_iff.mp (h.returns hspread hs.market)
  exact ⟨s', dealerDelivers_iff.mpr hstep⟩

namespace Sample

/-- A side of one level. -/
theorem saneSide_oneLevel {price : Decimal} (h : 1 ≤ price ∧ price ≤ MAX_TICKS) (volume : Nat) :
    SaneSide (oneLevel price volume) := by
  intro price' l hl
  have hl : (Std.ExtTreeMap.empty.insert price (⟨0, volume⟩ : Level))[price']? = some l := hl
  rw [Std.ExtTreeMap.getElem?_insert] at hl
  split at hl
  next heq =>
    rw [← Std.LawfulEqCmp.eq_of_compare heq]
    exact h
  next => exact absurd (Std.ExtTreeMap.getElem?_empty.symm.trans hl) (by simp)

theorem saneReport_snapshotOf (volume : Nat) : SaneReport (snapshotOf volume) := by
  intro u hu
  injection hu with hu
  injection hu with hu
  rw [← hu]
  refine ⟨⟨saneSide_oneLevel ?_ volume, saneSide_oneLevel ?_ volume⟩, fun contract hcontract => ?_⟩
  · norm_num [MAX_TICKS]
  · norm_num [MAX_TICKS]
  · have hcontract : List.lookup usdSymbol [(usdSymbol, (⟨0⟩ : TradableSymbol))] = some contract :=
      hcontract
    rw [List.lookup_cons, beq_self_eq_true] at hcontract
    injection hcontract with hcontract
    rw [← hcontract]
    exact Nat.zero_le _

/-- A user changes 0.004 bitcoin to dollars. -/
def swapToDollars : SwapRequest := ⟨1, 7, ⟨.BTC, 1 / 250⟩, .BTC, .USD, none⟩

/-- The message of a quote from bitcoin to bitcoin. -/
def bitcoinQuote : Message := .api (.quoteRequest ⟨1, 7, Money.new .BTC 1, .BTC, .BTC⟩)

end Sample

theorem served_after_snapshot : ∃ ds s s', DealerRun Sample.dealerConfig Sample.dealer ds s ∧
    (∃ t, s.bidQuotes.lookup Sample.usdSymbol = some t) ∧
    DealerDelivers Sample.dealerConfig s
      ⟨Sample.dealerEnv 5000000, .bank (.api (.swapRequest Sample.swapToDollars))⟩ s' := by
  obtain ⟨s, hrun, hfits⟩ := exists_dealerRun Sample.dealerConfig [Sample.snapshotOf 100]
    Sample.dealer (fun s => (s.bidQuotes.lookup Sample.usdSymbol).any (fun t =>
      (firstFrom t 0).all fun e => |(1 / 250 : Decimal) * e.2| ≤ Decimal.MAX) = true)
    (by decide +kernel)
  obtain ⟨t, ht, hfits⟩ := (Option.any_eq_true _ _).mp hfits
  have hprice : Priceable s Sample.swapToDollars.amount .USD := by
    refine ⟨.inl rfl, .inr (.inl rfl), .inr (.inl rfl),
      by norm_num [Sample.swapToDollars, Decimal.MAX], ?_⟩
    intro _ symbol hsymbol t' q best ht' hbest
    injection hsymbol with hsymbol
    rw [← hsymbol] at ht'
    obtain rfl := Option.some.inj (ht.symm.trans ht')
    rw [hbest] at hfits
    exact of_decide_eq_true hfits
  have hserves : Serves (Sample.dealerEnv 5000000) s (.api (.swapRequest Sample.swapToDollars)) :=
    .inr ⟨rfl, by decide, hprice⟩
  have hsane : ∀ d ∈ [Sample.snapshotOf 100], SaneReport d := by
    intro d hd
    rw [List.mem_singleton.mp hd]
    exact Sample.saneReport_snapshotOf 100
  obtain ⟨s', hstep⟩ := served_in_every_run (by norm_num [Sample.dealerConfig]) hrun hsane hserves
  exact ⟨_, s, s', hrun, ⟨t, ht⟩, hstep⟩

/-- A user asks for a quote from bitcoin to bitcoin: the API sends it, the bank
forwards it, and the dealer panics. -/
theorem quote_of_bitcoin_panics :
    (∃ e respond, HttpRequest.handle Sample.apiSettings (Sample.apiEnv 1)
      (.quote ⟨7⟩ ⟨.BTC, .BTC, 1⟩) = .ok (.asked e respond) ∧ e.message = Sample.bitcoinQuote) ∧
    (∃ s, Delivers Sample.config Sample.state ⟨Sample.env 1, Sample.bitcoinQuote⟩ s ∧
      (Sample.bitcoinQuote, .dealer) ∈ s.sent) ∧
    ∃ e, DealerEngine.deliver Sample.dealerConfig
        ⟨Sample.dealerEnv 5000000, .bank Sample.bitcoinQuote⟩
      Sample.dealer = .error e :=
  ⟨⟨_, _, rfl, rfl⟩, ⟨_, rfl, List.mem_singleton.mpr rfl⟩, _, rfl⟩

end Lndhubx
