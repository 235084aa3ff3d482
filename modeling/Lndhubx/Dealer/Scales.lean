import Lndhubx.Dealer.Buckets
import Lndhubx.Lib.InStep

/-!
# Quotes and how the prices of the book are written

`30000` and `30000.0` are one price, and two books that differ only in how their prices
are written have the same quotes (`quotes_agree`). The walk through a side takes the same
quantities at the same costs, and an average is rounded, up on the bid side and down on the
ask side, to a number without a scale. So `set_scale` reads the same mantissa
(`bucketQuotes_inStep`).

It rests on what the crate's `ceil` does with a whole number. One that returned it as it is
written would let `set_scale` read a mantissa that is too large by ten for each digit after
the point (`quotes_misread`).
-/

namespace Lndhubx

open Prog DealerEngine

/-! ## Numbers in step -/

namespace Scaled

/-- One number, written in two ways. -/
def Same (a b : Scaled) : Prop := a.value = b.value

variable {a a' b b' : Scaled}

/-- Products of equal numbers are equal, or neither fits. -/
theorem mul_inStep (ha : a.Same a') (hb : b.Same b') : InStep Same (a.mul b) (a'.mul b') := by
  unfold mul
  rw [ha, hb]
  refine (InStep.refl _).bind fun v w h => ?_
  rw [h]
  refine .ret ?_
  by_cases hw : w = 0
  · rw [if_pos hw, if_pos hw]
    rfl
  · rw [if_neg hw, if_neg hw]
    rfl

/-- So are sums. -/
theorem add_inStep (ha : a.Same a') (hb : b.Same b') : InStep Same (a.add b) (a'.add b') := by
  unfold add
  rw [ha, hb]
  refine (InStep.refl _).bind fun v w h => ?_
  rw [h]
  refine .ret ?_
  by_cases ha0 : a'.value = 0
  · rw [if_pos ha0, if_pos ha0]
    exact hb
  · rw [if_neg ha0, if_neg ha0]
    by_cases hb0 : b'.value = 0
    · rw [if_pos hb0, if_pos hb0]
      exact ha
    · rw [if_neg hb0, if_neg hb0]
      rfl

/-- And quotients. -/
theorem divNat_inStep (ha : a.Same a') (n : Nat) : InStep Same (a.divNat n) (a'.divNat n) := by
  unfold divNat
  rw [ha]
  refine (InStep.refl _).bind fun v w h => ?_
  rw [h]
  exact .ret rfl

/-- A new scale makes of each number what its own mantissa says. -/
theorem setScale_inStep (dp : Nat) :
    InStep (fun c c' => c.value = a.mantissa / 10 ^ dp ∧ c'.value = a'.mantissa / 10 ^ dp)
      (a.setScale dp) (a'.setScale dp) :=
  InStep.ite Iff.rfl (fun _ => .error _ _) fun _ => .ok ⟨rfl, rfl⟩

/-- What a rounding makes of a number depends on the number. -/
def ReadsNumber (round : Scaled → Scaled) : Prop :=
  ∀ a a' : Scaled, a.Same a' → (round a).mantissa = (round a').mantissa

/-- `ceil` does not look at the scale. -/
theorem readsNumber_ceil : ReadsNumber ceil := by
  intro a a' h
  have hvalue : a.value = a'.value := h
  unfold ceil mantissa
  rw [hvalue]

/-- Nor does `floor`. -/
theorem readsNumber_floor : ReadsNumber floor := by
  intro a a' h
  have hvalue : a.value = a'.value := h
  unfold floor mantissa
  rw [hvalue]

/-- A `ceil` that leaves a whole number as it is written. The crate's does not. -/
def ceilAsWritten (x : Scaled) : Scaled := if x.value = ⌊x.value⌋ then x else ceil x

end Scaled

namespace DealerEngine

variable {levels levels' : List (Scaled × Nat)} {f f' : Fill} {t : Nat}

namespace Fill

/-- Two walks at the same place. -/
structure Same (f f' : Fill) : Prop where
  quantityAtLevel : f.quantityAtLevel = f'.quantityAtLevel
  priceAtLevel : f.priceAtLevel.Same f'.priceAtLevel
  quantitySoFar : f.quantitySoFar = f'.quantitySoFar
  num : f.num.Same f'.num
  levels : lotsOf f.levels = lotsOf f'.levels

/-- Taking a part of a level. -/
theorem take_inStep (h : f.Same f') (n : Nat) : InStep Same (f.take n) (f'.take n) := by
  refine (Scaled.mul_inStep h.priceAtLevel rfl).bind fun c c' hc => ?_
  refine (Scaled.add_inStep h.num hc).bind fun num num' hnum => ?_
  have hquantity := h.quantityAtLevel
  have hsofar := h.quantitySoFar
  exact .ret ⟨by simp only [hquantity], h.priceAtLevel, by simp only [hsofar], hnum, h.levels⟩

/-- One turn at a level. -/
theorem turn_inStep (h : f.Same f') (t : Nat) :
    InStep (fun r r' => r.1.Same r'.1 ∧ r.2 = r'.2) (f.turn t) (f'.turn t) := by
  have hquantity := h.quantityAtLevel
  unfold turn
  refine InStep.ite (by rw [hquantity]) (fun _ => ?_) fun _ => ?_
  · exact (take_inStep h t).bind fun g g' hg => .ret ⟨hg, rfl⟩
  · rw [hquantity]
    exact (take_inStep h _).bind fun g g' hg => .ret ⟨hg, rfl⟩

end Fill

/-- The whole walk, through levels that are equal as numbers. -/
theorem matchLevels_inStep (h : f.Same f') (hlevels : lotsOf levels = lotsOf levels') :
    InStep (fun r r' => r.1.Same r'.1 ∧ r.2 = r'.2) (matchLevels t f levels)
      (matchLevels t f' levels') := by
  induction levels generalizing f f' t levels' with
  | nil =>
    have hnil : levels' = [] := List.map_eq_nil_iff.mp hlevels.symm
    rw [hnil]
    refine (Fill.turn_inStep h t).bind fun r r' hr => ?_
    obtain ⟨hsame, hleft⟩ := hr
    refine InStep.ite (by rw [hleft]) (fun _ => .ret ⟨?_, rfl⟩) fun _ => .ret ⟨?_, hleft⟩
    · exact ⟨hsame.quantityAtLevel, hsame.priceAtLevel, hsame.quantitySoFar, hsame.num, rfl⟩
    · exact ⟨rfl, rfl, hsame.quantitySoFar, hsame.num, rfl⟩
  | cons level rest ih =>
    obtain ⟨level', rest', hcons, hlevel, hrest⟩ := List.map_eq_cons_iff.mp hlevels.symm
    obtain ⟨hprice, hvolume⟩ := Prod.mk.inj hlevel
    rw [hcons]
    obtain ⟨price, volume⟩ := level
    obtain ⟨price', volume'⟩ := level'
    refine (Fill.turn_inStep h t).bind fun r r' hr => ?_
    obtain ⟨hsame, hleft⟩ := hr
    refine InStep.ite (by rw [hleft]) (fun _ => .ret ⟨?_, rfl⟩) fun _ => ?_
    · rw [← hcons]
      exact ⟨hsame.quantityAtLevel, hsame.priceAtLevel, hsame.quantitySoFar, hsame.num, hlevels⟩
    · rw [hleft]
      exact ih ⟨hvolume.symm, hprice.symm, hsame.quantitySoFar, hsame.num, hsame.levels⟩ hrest.symm

/-- Two books with the same numbers are walked in step, and quoted alike if the rounding
reads the number alone. -/
theorem bucketQuotes_inStep {round : Scaled → Scaled} {dp : Nat} {buckets : List Nat}
    (hround : Scaled.ReadsNumber round) (h : f.Same f') :
    InStep (· = ·) (bucketQuotes round dp f buckets) (bucketQuotes round dp f' buckets) := by
  induction buckets generalizing f f' with
  | nil => exact .ret rfl
  | cons qty rest ih =>
    have hsofar := h.quantitySoFar
    have hinner (t : Nat) : InStep (fun r r' => r.1.Same r'.1 ∧ r.2 = r'.2)
        (if t = 0 then return (f, 0) else matchLevels t f f.levels)
        (if t = 0 then return (f', 0) else matchLevels t f' f'.levels) :=
      InStep.ite Iff.rfl (fun _ => .ret ⟨h, rfl⟩) fun _ => matchLevels_inStep h h.levels
    unfold bucketQuotes
    rw [hsofar]
    refine (InStep.refl _).bind fun t t' ht => ?_
    rw [ht]
    refine (hinner t').bind fun r r' hr => ?_
    obtain ⟨hsame, hleft⟩ := hr
    refine InStep.ite (by rw [hleft]) (fun _ => ?_) fun _ => ih hsame
    have haverage := Scaled.divNat_inStep hsame.num r.1.quantitySoFar
    rw [hsame.quantitySoFar] at haverage ⊢
    refine haverage.bind fun average average' hav => ?_
    refine (Scaled.setScale_inStep dp).bind fun price price' hprice => ?_
    refine (ih hsame).bind fun later later' hlater => .ret ?_
    rw [hlater, hprice.1, hprice.2, hround _ _ hav]

theorem start_same {side side' : List (Scaled × Nat)} (h : lotsOf side = lotsOf side') :
    (Fill.start side).Same (Fill.start side') := ⟨rfl, rfl, rfl, rfl, h⟩

theorem lotsOf_reverse (side : List (Scaled × Nat)) :
    lotsOf side.reverse = (lotsOf side).reverse := List.map_reverse

/-- The average price of a bid bucket. -/
def bidAverage (bids : BookSide) (q : Nat) : Decimal := cost bids.levels.reverse q / q

/-- The quotes of one update, with another way to round up. -/
def updateQuotesBy (ceil : Scaled → Scaled) (ws : WsClient) (symbol : Symbol) :
    DealerHandler Unit := do
  let some contract := ws.tradableSymbols.lookup symbol | return
  let s ← get
  let some book := s.level2Data.lookup symbol | return
  let bids ← bucketQuotes ceil contract.priceDp (.start book.bids.levels.reverse) QUANTITIES
  let asks ← askSideQuotes contract.priceDp book.asks
  set { s with
    bidQuotes := storeQuotes s.bidQuotes symbol bids
    askQuotes := storeQuotes s.askQuotes symbol asks }

/-- With the crate's `ceil` it is the update of the dealer. -/
theorem updateQuotesBy_ceil (ws : WsClient) (symbol : Symbol) :
    updateQuotesBy .ceil ws symbol = updateQuotes ws symbol := rfl

end DealerEngine

/-! ## Two books of one contract -/

/-- The prices and volumes of two books are the same numbers. -/
structure SameNumbers (book book' : Level2State) : Prop where
  bids : lotsOf book.bids.levels = lotsOf book'.bids.levels
  asks : lotsOf book.asks.levels = lotsOf book'.asks.levels

/-- The dealer with another book for a contract. -/
def DealerState.withLevel2 (s : DealerState) (symbol : Symbol) (book : Level2State) : DealerState :=
  { s with level2Data := s.level2Data.insert symbol book }

/-- The tables of a contract have the same quotes. -/
def QuotesAgree (symbol : Symbol) (t t' : DealerState) : Prop :=
  ∀ q, quoteAt t.bidQuotes symbol q = quoteAt t'.bidQuotes symbol q ∧
    quoteAt t.askQuotes symbol q = quoteAt t'.askQuotes symbol q

section books

variable {ceil : Scaled → Scaled} {ws : WsClient} {symbol : Symbol} {s t : DealerState}
  {book book' : Level2State}

theorem updateQuotesBy_eq_ok_iff {contract : TradableSymbol}
    (hcontract : ws.tradableSymbols.lookup symbol = some contract) :
    updateQuotesBy ceil ws symbol (s.withLevel2 symbol book) = .ok ((), t) ↔
      ∃ bids asks, bucketQuotes ceil contract.priceDp (.start book.bids.levels.reverse)
          QUANTITIES = .ok bids ∧
        askSideQuotes contract.priceDp book.asks = .ok asks ∧
        t = { s.withLevel2 symbol book with
          bidQuotes := storeQuotes s.bidQuotes symbol bids
          askQuotes := storeQuotes s.askQuotes symbol asks } := by
  have hbook : (s.withLevel2 symbol book).level2Data.lookup symbol = some book :=
    AList.lookup_insert _
  unfold updateQuotesBy
  rw [hcontract]
  dsimp only
  rw [run_get_bind, hbook]
  dsimp only
  cases hbids : bucketQuotes ceil contract.priceDp (.start book.bids.levels.reverse) QUANTITIES with
  | error e =>
    rw [run_lift_bind_error rfl]
    simp
  | ok bids =>
    rw [run_lift_bind rfl]
    cases hasks : askSideQuotes contract.priceDp book.asks with
    | error e =>
      rw [run_lift_bind_error rfl]
      simp
    | ok asks =>
      rw [run_lift_bind rfl, run_set]
      constructor
      · intro h
        injection h with h
        injection h with _ h
        exact ⟨bids, asks, rfl, rfl, h.symm⟩
      · intro h
        obtain ⟨bids', asks', hb, ha, ht⟩ := h
        injection hb with hb
        injection ha with ha
        rw [ht, ← hb, ← ha]
        rfl

theorem updateQuotes_eq_ok_iff {contract : TradableSymbol}
    (hcontract : ws.tradableSymbols.lookup symbol = some contract) :
    updateQuotes ws symbol (s.withLevel2 symbol book) = .ok ((), t) ↔
      ∃ bids asks, bidSideQuotes contract.priceDp book.bids = .ok bids ∧
        askSideQuotes contract.priceDp book.asks = .ok asks ∧
        t = { s.withLevel2 symbol book with
          bidQuotes := storeQuotes s.bidQuotes symbol bids
          askQuotes := storeQuotes s.askQuotes symbol asks } := by
  rw [← updateQuotesBy_ceil]
  exact updateQuotesBy_eq_ok_iff hcontract

theorem updateQuotes_no_contract (hcontract : ws.tradableSymbols.lookup symbol = none) :
    updateQuotes ws symbol s = .ok ((), s) := by
  unfold updateQuotes
  rw [hcontract]
  rfl

/-- Two books with the same numbers have the same quotes on both sides. -/
theorem SameNumbers.quotes (h : SameNumbers book book') (dp : Nat) :
    InStep (· = ·) (bidSideQuotes dp book.bids) (bidSideQuotes dp book'.bids) ∧
      InStep (· = ·) (askSideQuotes dp book.asks) (askSideQuotes dp book'.asks) := by
  have hreverse : lotsOf book.bids.levels.reverse = lotsOf book'.bids.levels.reverse := by
    rw [lotsOf_reverse, lotsOf_reverse, h.bids]
  exact ⟨bucketQuotes_inStep Scaled.readsNumber_ceil (start_same hreverse),
    bucketQuotes_inStep Scaled.readsNumber_floor (start_same h.asks)⟩

theorem SameNumbers.symm (h : SameNumbers book book') : SameNumbers book' book :=
  ⟨h.bids.symm, h.asks.symm⟩

/-- What an update makes of one book it makes of the other. -/
theorem SameNumbers.updateQuotes (hsame : SameNumbers book book')
    (h : updateQuotes ws symbol (s.withLevel2 symbol book) = .ok ((), t)) :
    ∃ t', DealerEngine.updateQuotes ws symbol (s.withLevel2 symbol book') = .ok ((), t') ∧
      QuotesAgree symbol t t' := by
  cases hcontract : ws.tradableSymbols.lookup symbol with
  | none =>
    rw [updateQuotes_no_contract hcontract] at h
    injection h with h
    injection h with _ h
    rw [← h]
    exact ⟨_, updateQuotes_no_contract hcontract, fun q => ⟨rfl, rfl⟩⟩
  | some contract =>
    obtain ⟨bids, asks, hb, ha, rfl⟩ := (updateQuotes_eq_ok_iff hcontract).mp h
    obtain ⟨hbids, hasks⟩ := hsame.quotes contract.priceDp
    have hb' : bidSideQuotes contract.priceDp book'.bids = .ok bids := hbids.eq_ok hb
    have ha' : askSideQuotes contract.priceDp book'.asks = .ok asks := hasks.eq_ok ha
    exact ⟨_, (updateQuotes_eq_ok_iff hcontract).mpr ⟨bids, asks, hb', ha', rfl⟩,
      fun q => ⟨rfl, rfl⟩⟩

/-- Two books with the same numbers: an update returns with both or with neither, and
leaves the same quotes. -/
theorem quotes_agree (ws : WsClient) (symbol : Symbol) (s : DealerState)
    (hsame : SameNumbers book book') :
    ((∃ t, updateQuotes ws symbol (s.withLevel2 symbol book) = .ok ((), t)) ↔
      ∃ t, updateQuotes ws symbol (s.withLevel2 symbol book') = .ok ((), t)) ∧
    ∀ t t', updateQuotes ws symbol (s.withLevel2 symbol book) = .ok ((), t) →
      updateQuotes ws symbol (s.withLevel2 symbol book') = .ok ((), t') →
      QuotesAgree symbol t t' := by
  refine ⟨⟨fun h => ?_, fun h => ?_⟩, fun t t' h h' => ?_⟩
  · obtain ⟨t, h⟩ := h
    obtain ⟨t', h', -⟩ := hsame.updateQuotes h
    exact ⟨t', h'⟩
  · obtain ⟨t, h⟩ := h
    obtain ⟨t', h', -⟩ := hsame.symm.updateQuotes h
    exact ⟨t', h'⟩
  · obtain ⟨t'', h'', hagree⟩ := hsame.updateQuotes h
    rw [h'] at h''
    injection h'' with h''
    injection h'' with _ h''
    rw [h'']
    exact hagree

end books

namespace Sample

/-- Two bids of five units, written with some digits after the point. -/
def bidsWritten (price price' : Decimal) (scale : Nat) : Level2State :=
  ⟨"snapshot", usdSymbol,
    ((∅ : BookSide).insert price ⟨scale, 5⟩).insert price' ⟨scale, 5⟩, ∅⟩

theorem sameNumbers_bidsWritten : SameNumbers (bidsWritten 29999 30001 0)
    (bidsWritten 29999 30001 1) := ⟨by decide +kernel, rfl⟩

theorem dealer_quoted {ceil : Scaled → Scaled} {book : Level2State}
    {bids asks : List (Nat × Decimal)}
    (hbids : bucketQuotes ceil 0 (.start book.bids.levels.reverse) QUANTITIES = .ok bids)
    (hasks : askSideQuotes 0 book.asks = .ok asks) :
    ∃ t, updateQuotesBy ceil (dealerEnv 1).ws usdSymbol (dealer.withLevel2 usdSymbol book)
        = .ok ((), t) ∧ t.bidQuotes = storeQuotes dealer.bidQuotes usdSymbol bids := by
  have hcontract : (dealerEnv 1).ws.tradableSymbols.lookup usdSymbol =
      some (⟨0⟩ : TradableSymbol) := rfl
  exact ⟨_, (updateQuotesBy_eq_ok_iff hcontract).mpr ⟨bids, asks, hbids, hasks, rfl⟩, rfl⟩

end Sample

/-- Ten bids at 30000 on average are quoted at 30000, however they are written. -/
theorem quotes_agree_sample : ∃ t t',
    updateQuotes (Sample.dealerEnv 1).ws Sample.usdSymbol
      (Sample.dealer.withLevel2 Sample.usdSymbol (Sample.bidsWritten 29999 30001 0)) =
        .ok ((), t) ∧
    updateQuotes (Sample.dealerEnv 1).ws Sample.usdSymbol
      (Sample.dealer.withLevel2 Sample.usdSymbol (Sample.bidsWritten 29999 30001 1)) =
        .ok ((), t') ∧ QuotesAgree Sample.usdSymbol t t' := by
  have hbids : bidSideQuotes 0 (Sample.bidsWritten 29999 30001 0).bids = .ok [(10, 30000)] := by
    decide +kernel
  have hasks : askSideQuotes 0 (∅ : BookSide) = .ok [] := by decide +kernel
  obtain ⟨hreturns, hagree⟩ := quotes_agree (Sample.dealerEnv 1).ws Sample.usdSymbol
    Sample.dealer Sample.sameNumbers_bidsWritten
  obtain ⟨t, ht, -⟩ := Sample.dealer_quoted hbids hasks
  rw [updateQuotesBy_ceil] at ht
  obtain ⟨t', ht'⟩ := hreturns.mp ⟨t, ht⟩
  exact ⟨t, t', ht, ht', hagree t t' ht ht'⟩

/-- With a `ceil` that leaves a whole number as it is written, they would be quoted at
300000 if they are written `29999.0` and `30001.0`. -/
theorem quotes_misread :
    SameNumbers (Sample.bidsWritten 29999 30001 0) (Sample.bidsWritten 29999 30001 1) ∧
    ∃ t t', updateQuotesBy .ceilAsWritten (Sample.dealerEnv 1).ws Sample.usdSymbol
        (Sample.dealer.withLevel2 Sample.usdSymbol (Sample.bidsWritten 29999 30001 0)) =
          .ok ((), t) ∧
      updateQuotesBy .ceilAsWritten (Sample.dealerEnv 1).ws Sample.usdSymbol
        (Sample.dealer.withLevel2 Sample.usdSymbol (Sample.bidsWritten 29999 30001 1)) =
          .ok ((), t') ∧
      quoteAt t.bidQuotes Sample.usdSymbol 10 = some 30000 ∧
      quoteAt t'.bidQuotes Sample.usdSymbol 10 = some 300000 ∧
      ¬QuotesAgree Sample.usdSymbol t t' := by
  have hbids : bucketQuotes .ceilAsWritten 0
      (.start (Sample.bidsWritten 29999 30001 0).bids.levels.reverse) QUANTITIES
        = .ok [(10, 30000)] := by decide +kernel
  have hbids' : bucketQuotes .ceilAsWritten 0
      (.start (Sample.bidsWritten 29999 30001 1).bids.levels.reverse) QUANTITIES
        = .ok [(10, 300000)] := by decide +kernel
  have hasks : askSideQuotes 0 (∅ : BookSide) = .ok [] := by decide +kernel
  obtain ⟨t, ht, htable⟩ := Sample.dealer_quoted hbids hasks
  obtain ⟨t', ht', htable'⟩ := Sample.dealer_quoted hbids' hasks
  have hquote : quoteAt t.bidQuotes Sample.usdSymbol 10 = some 30000 := by
    rw [htable]
    decide +kernel
  have hquote' : quoteAt t'.bidQuotes Sample.usdSymbol 10 = some 300000 := by
    rw [htable']
    decide +kernel
  refine ⟨Sample.sameNumbers_bidsWritten, t, t', ht, ht', hquote, hquote', ?_⟩
  intro h
  have hsame := (h 10).1
  rw [hquote, hquote'] at hsame
  exact absurd hsame (by decide +kernel)

end Lndhubx
