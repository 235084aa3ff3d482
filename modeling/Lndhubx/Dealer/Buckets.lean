import Lndhubx.Dealer.Tables

/-!
# A bucket's quote from the book alone

`updateQuotes` fills all buckets in one pass and carries what is left of a level
from one bucket to the next. Worked out bucket by bucket, from the best level on
each time, the quotes are the same: with empty tables and a book whose prices
are whole numbers of ticks, a bucket gets the average cost of filling it, rounded
up on the bid side and down on the ask side (`updateQuotes_from_scratch`).

The pass returns as long as the numbers fit: a cost beyond `Decimal::MAX` or a
price scale above 28 is a panic. The bound asked of the costs here, `MAX_COST`,
is smaller than `Decimal::MAX`: up to it an average, which has room for 28 digits,
keeps so many after the point that it is rounded on its own side of every whole number.
-/

namespace Lndhubx

open Prog DealerEngine

namespace Scaled

variable {a b x : Scaled} {n dp : Nat}

theorem mul_returns (h : |a.value * b.value| ≤ Decimal.MAX) :
    ∃ c, a.mul b = .ok c ∧ c.value = a.value * b.value := by
  have hret : a.mul b = .ok (if a.value * b.value = 0 then ofNat 0
      else ⟨a.value * b.value, a.scale + b.scale⟩) :=
    Checked.bind_eq_ok.mpr ⟨_, Decimal.mul_eq_ok.mpr ⟨h, rfl⟩, rfl⟩
  exact ⟨_, hret, mul_eq_ok hret⟩

theorem add_returns (h : |a.value + b.value| ≤ Decimal.MAX) :
    ∃ c, a.add b = .ok c ∧ c.value = a.value + b.value := by
  have hret : a.add b = .ok (if a.value = 0 then b else if b.value = 0 then a
      else ⟨a.value + b.value, max a.scale b.scale⟩) :=
    Checked.bind_eq_ok.mpr ⟨_, Decimal.add_eq_ok.mpr ⟨h, rfl⟩, rfl⟩
  exact ⟨_, hret, add_eq_ok hret⟩

/-- A quotient by a whole number is not larger than the dividend. -/
theorem divNat_returns (hn : n ≠ 0) (h : |a.value| ≤ Decimal.MAX) : ∃ c, a.divNat n = .ok c := by
  have hone : (1 : Decimal) ≤ n := by exact_mod_cast Nat.one_le_iff_ne_zero.mpr hn
  have hquot : |a.value / n| ≤ Decimal.MAX := by
    rw [abs_div, abs_of_nonneg (zero_le_one.trans hone)]
    exact (div_le_self (abs_nonneg _) hone).trans h
  exact ⟨_, Checked.bind_eq_ok.mpr
    ⟨_, Decimal.div_returns (by exact_mod_cast hn) hquot, rfl⟩⟩

theorem setScale_returns (h : dp ≤ Decimal.MAX_SCALE) : ∃ c, x.setScale dp = .ok c :=
  ⟨_, if_neg (Nat.not_lt.mpr h)⟩

end Scaled

namespace DealerEngine

/-- The quote stored for a bucket, if there is one. -/
def quoteAt (tables : AList fun _ : Symbol => QuoteTable) (symbol : Symbol) (q : Nat) :
    Option Decimal :=
  (tables.lookup symbol).bind (·[q]?)

/-- Up to this cost the average of a bucket keeps enough of its 28 digits to tell it from
a whole number. -/
def MAX_COST : Decimal := 10 ^ 27

/-- The prices of a side are positive, and all the units that are ever taken from
it cost a number that fits. -/
structure Affordable (side : List (Scaled × Nat)) : Prop where
  positive : ∀ l ∈ side, 0 < l.1.value
  cost : cost side 1000000 ≤ MAX_COST

section returns

variable {side : List (Scaled × Nat)} {f : Fill} {n t : Nat}

theorem Affordable.cost_mem (h : Affordable side) {q : Nat} (hq : q ≤ 1000000) :
    0 ≤ DealerEngine.cost side q ∧ DealerEngine.cost side q ≤ MAX_COST := by
  have hprice : ∀ lot ∈ lotsOf side, 0 ≤ lot.1 := by
    intro lot hlot
    obtain ⟨l, hl, hvalue⟩ := mem_lotsOf hlot
    rw [hvalue]
    exact (h.positive l hl).le
  exact ⟨Lots.cost_nonneg hprice, (Lots.cost_mono hprice hq).trans h.cost⟩

theorem max_cost_le : MAX_COST ≤ Decimal.MAX := by
  unfold MAX_COST Decimal.MAX
  norm_num

namespace Fill

/-- What was taken so far cost what the side says. -/
theorem Fills.num_eq (hf : Fills side f) :
    f.num.value = DealerEngine.cost side f.quantitySoFar := by
  have hcost := hf.cost 0
  rw [Nat.add_zero] at hcost
  rw [hcost]
  exact (add_eq_left.mpr (Lots.cost_zero _)).symm

/-- What comes next costs the difference of two costs of the side. -/
theorem Fills.price_mul (hf : Fills side f) (hn : n ≤ f.quantityAtLevel) :
    f.priceAtLevel.value * n =
      DealerEngine.cost side (f.quantitySoFar + n) - DealerEngine.cost side f.quantitySoFar := by
  have htake : DealerEngine.cost f.pending n = f.priceAtLevel.value * n := by
    have h : Lots.cost ((f.priceAtLevel.value, f.quantityAtLevel) :: lotsOf f.levels) (n + 0) =
        f.priceAtLevel.value * n + Lots.cost (_ :: lotsOf f.levels) 0 := Lots.cost_take hn 0
    rw [Nat.add_zero, Lots.cost_zero, add_zero] at h
    exact h
  rw [hf.cost n, htake, hf.num_eq]
  ring

/-- Taking from the level in hand does not overflow, whatever levels are to
come. -/
theorem Fills.take_returns {levels : List (Scaled × Nat)} (hf : Fills side { f with levels })
    (haff : Affordable side) (hn : n ≤ f.quantityAtLevel)
    (hmax : f.quantitySoFar + n ≤ 1000000) : ∃ g, f.take n = .ok g := by
  obtain ⟨hbefore, hbefore'⟩ := haff.cost_mem (q := f.quantitySoFar) (by omega)
  obtain ⟨hafter, hafter'⟩ := haff.cost_mem hmax
  have hprice : f.priceAtLevel.value * n = DealerEngine.cost side (f.quantitySoFar + n) -
      DealerEngine.cost side f.quantitySoFar := hf.price_mul hn
  have hnum : f.num.value = DealerEngine.cost side f.quantitySoFar := hf.num_eq
  have hbound := max_cost_le
  obtain ⟨c, hc, hvalue⟩ := Scaled.mul_returns (a := f.priceAtLevel) (b := .ofNat n) (by
    show |f.priceAtLevel.value * n| ≤ Decimal.MAX
    rw [hprice, abs_le]
    constructor <;> linarith)
  have hvalue : c.value = f.priceAtLevel.value * n := hvalue
  obtain ⟨num, hadd, -⟩ := Scaled.add_returns (a := f.num) (b := c) (by
    rw [hvalue, hprice, hnum, abs_le]
    constructor <;> linarith)
  exact ⟨_, Checked.bind_eq_ok.mpr ⟨c, hc, Checked.bind_eq_ok.mpr ⟨num, hadd, rfl⟩⟩⟩

theorem Fills.turn_returns {levels : List (Scaled × Nat)} (hf : Fills side { f with levels })
    (haff : Affordable side) (hmax : f.quantitySoFar + t ≤ 1000000) :
    ∃ r, f.turn t = .ok r := by
  unfold turn
  by_cases hle : t ≤ f.quantityAtLevel
  · obtain ⟨g, hg⟩ := hf.take_returns haff hle hmax
    rw [if_pos hle]
    exact ⟨_, Checked.bind_eq_ok.mpr ⟨g, hg, rfl⟩⟩
  · obtain ⟨g, hg⟩ := hf.take_returns haff (le_refl _) (by omega)
    rw [if_neg hle]
    exact ⟨_, Checked.bind_eq_ok.mpr ⟨g, hg, rfl⟩⟩

end Fill

/-- The inner loop returns. -/
theorem matchLevels_returns {levels : List (Scaled × Nat)} (haff : Affordable side)
    (hf : Fill.Fills side { f with levels }) (hmax : f.quantitySoFar + t ≤ 1000000) :
    ∃ r, matchLevels t f levels = .ok r := by
  induction levels generalizing f t with
  | nil =>
    obtain ⟨⟨g, left⟩, hturn⟩ := hf.turn_returns haff hmax
    unfold matchLevels
    by_cases hleft : left = 0
    · exact ⟨_, Checked.bind_eq_ok.mpr ⟨_, hturn, if_pos hleft⟩⟩
    · exact ⟨_, Checked.bind_eq_ok.mpr ⟨_, hturn, if_neg hleft⟩⟩
  | cons level rest ih =>
    obtain ⟨price, volume⟩ := level
    obtain ⟨⟨g, left⟩, hturn⟩ := hf.turn_returns haff hmax
    obtain ⟨n, num, rfl, hnum, hn, hsum, hused⟩ := Fill.turn_eq_ok hturn
    unfold matchLevels
    by_cases hleft : left = 0
    · exact ⟨_, Checked.bind_eq_ok.mpr ⟨_, hturn, if_pos hleft⟩⟩
    · -- the level in hand is used up, and the walk goes on with the next one
      have hzero : f.quantityAtLevel - n = 0 := by
        rw [hused hleft]
        omega
      have hnext := (hf.take (n := n) hn hnum).next rfl hzero
      obtain ⟨r, hr⟩ := ih (f := ⟨volume, price, f.quantitySoFar + n, num, f.levels⟩)
        (t := left) hnext (by show f.quantitySoFar + n + left ≤ 1000000; omega)
      refine ⟨r, Checked.bind_eq_ok.mpr ⟨_, hturn, ?_⟩⟩
      dsimp only
      rw [if_neg hleft]
      exact hr

/-- So does the loop over the buckets. -/
theorem bucketQuotes_returns {round : Scaled → Scaled} {dp : Nat} {buckets : List Nat}
    (haff : Affordable side) (hdp : dp ≤ Decimal.MAX_SCALE) (hf : Fill.Fills side f)
    (hsorted : buckets.Pairwise (· < ·)) (hstart : ∀ q ∈ buckets, f.quantitySoFar < q)
    (hlast : ∀ q ∈ buckets, q ≤ 1000000) :
    ∃ quotes, bucketQuotes round dp f buckets = .ok quotes := by
  induction buckets generalizing f with
  | nil => exact ⟨[], rfl⟩
  | cons qty rest ih =>
    obtain ⟨hfirst, hrest⟩ := List.pairwise_cons.mp hsorted
    have hlt : f.quantitySoFar < qty := hstart qty (List.mem_cons_self ..)
    have hqty : qty ≤ 1000000 := hlast qty (List.mem_cons_self ..)
    have hlast' : ∀ q ∈ rest, q ≤ 1000000 := fun q hq => hlast q (List.mem_cons_of_mem _ hq)
    have hsub : subU64 qty f.quantitySoFar = .ok (qty - f.quantitySoFar) := if_pos hlt.le
    obtain ⟨⟨g, left⟩, hmatch⟩ :=
      matchLevels_returns (t := qty - f.quantitySoFar) haff hf (by omega)
    obtain ⟨hg, hsum, -⟩ := matchLevels_spec hf hmatch
    have hinner : (if qty - f.quantitySoFar = 0 then return (f, 0)
        else matchLevels (qty - f.quantitySoFar) f f.levels) = .ok (g, left) := by
      rw [if_neg (by omega)]
      exact hmatch
    obtain ⟨later, hlater⟩ := ih hg hrest
      (fun q hq => by have := hfirst q hq; omega) hlast'
    unfold bucketQuotes
    by_cases hleft : left = 0
    · have hsofar : g.quantitySoFar = qty := by omega
      obtain ⟨hnonneg, hcost⟩ := haff.cost_mem hqty
      have hnum : g.num.value = DealerEngine.cost side qty := by rw [hg.num_eq, hsofar]
      obtain ⟨average, haverage⟩ := Scaled.divNat_returns (a := g.num) (n := g.quantitySoFar)
        (by omega) (by rw [hnum, abs_of_nonneg hnonneg]; exact hcost.trans max_cost_le)
      obtain ⟨price, hprice⟩ := Scaled.setScale_returns (x := round average) hdp
      refine ⟨(qty, price.value) :: later, Checked.bind_eq_ok.mpr ⟨_, hsub,
        Checked.bind_eq_ok.mpr ⟨_, hinner, ?_⟩⟩⟩
      dsimp only
      rw [if_pos hleft]
      exact Checked.bind_eq_ok.mpr ⟨average, haverage, Checked.bind_eq_ok.mpr
        ⟨price, hprice, Checked.bind_eq_ok.mpr ⟨later, hlater, rfl⟩⟩⟩
    · refine ⟨later, Checked.bind_eq_ok.mpr ⟨_, hsub, Checked.bind_eq_ok.mpr ⟨_, hinner, ?_⟩⟩⟩
      dsimp only
      rw [if_neg hleft]
      exact hlater

end returns

/-! ## What the tables have -/

section stored

variable {tables : AList fun _ : Symbol => QuoteTable} {symbol : Symbol} {q : Nat}
  {quotes : List (Nat × Decimal)}

/-- The quotes of one pass over empty tables. -/
theorem quoteAt_storeQuotes (hempty : tables.lookup symbol = none) :
    quoteAt (storeQuotes tables symbol quotes) symbol q = (insertAll ∅ quotes)[q]? := by
  unfold quoteAt
  rw [lookup_storeQuotes, hempty]
  split
  next hnil =>
    rw [hnil]
    exact Std.ExtTreeMap.getElem?_empty.symm
  next => rfl

theorem insertAll_ne_none_iff : (insertAll ∅ quotes)[q]? ≠ none ↔ q ∈ quotes.map (·.1) := by
  constructor
  · intro h
    by_contra hkey
    rw [getElem?_insertAll_not_mem hkey] at h
    exact h Std.ExtTreeMap.getElem?_empty
  · intro h
    exact getElem?_insertAll_ne_none h

theorem mem_of_insertAll {price : Decimal} (h : (insertAll ∅ quotes)[q]? = some price) :
    (q, price) ∈ quotes := by
  rcases mem_of_getElem?_insertAll h with h | h
  · rw [Std.ExtTreeMap.getElem?_empty] at h
    exact absurd h (by simp)
  · exact h

end stored

/-- The last bucket. -/
theorem quantities_le : ∀ q ∈ QUANTITIES, q ≤ 1000000 := by decide

/-- What one pass over an empty table says of a side, the best level first:
which buckets have a quote and, for prices in whole ticks, which. -/
structure SideQuoted (average : Decimal → ℤ) (dp : Nat) (side : List (Scaled × Nat))
    (tables : AList fun _ : Symbol => QuoteTable) (symbol : Symbol) : Prop where
  quoted : ∀ q ∈ QUANTITIES, quoteAt tables symbol q ≠ none ↔ q ≤ depth side
  price : WholeTicks side → ∀ q ∈ QUANTITIES, q ≤ depth side →
    quoteAt tables symbol q = some ((average (cost side q / q) : Decimal) / 10 ^ dp)

section sides

variable {tables : AList fun _ : Symbol => QuoteTable} {symbol : Symbol} {dp : Nat}
  {side : List (Scaled × Nat)} {quotes : List (Nat × Decimal)}

/-- The quotes of a pass, in a table that was empty. -/
theorem SideQuoted.store {round : Scaled → Scaled} {average : Decimal → ℤ}
    (hempty : tables.lookup symbol = none)
    (hkeys : quotes.map (·.1) = QUANTITIES.filter (· ≤ depth side))
    (hpriced : ∀ e ∈ quotes, PricedAt round dp side e.1 e.2)
    (hround : ∀ {num : Scaled} {q : Nat} {price : Decimal},
      quotedPrice round dp num q = .ok price →
        price = average (Decimal.fit (num.value / q)) / 10 ^ dp)
    (hkeeps : WholeTicks side → ∀ q ∈ QUANTITIES,
      average (Decimal.fit (cost side q / q)) = average (cost side q / q)) :
    SideQuoted average dp side (storeQuotes tables symbol quotes) symbol := by
  have hquoted (q : Nat) (hq : q ∈ QUANTITIES) :
      quoteAt (storeQuotes tables symbol quotes) symbol q ≠ none ↔ q ≤ depth side := by
    rw [quoteAt_storeQuotes hempty, insertAll_ne_none_iff, mem_keys_iff hkeys]
    exact and_iff_right hq
  refine ⟨hquoted, ?_⟩
  intro hwhole q hq hfilled
  obtain ⟨price, hprice⟩ := Option.ne_none_iff_exists'.mp ((hquoted q hq).mpr hfilled)
  rw [hprice]
  rw [quoteAt_storeQuotes hempty] at hprice
  obtain ⟨num, hnum, hquote⟩ := (hpriced _ (mem_of_insertAll hprice)).priced
  dsimp only at hnum hquote
  rw [hround hquote, hnum, hkeeps hwhole q hq]

/-- In whole ticks the rounding of an average to 28 digits is not seen in its quote. -/
theorem Affordable.average_rounded (h : Affordable side) (hwhole : WholeTicks side) {q : Nat}
    (hq : q ∈ QUANTITIES) :
    ⌈Decimal.fit (DealerEngine.cost side q / q)⌉ = ⌈DealerEngine.cost side q / q⌉ ∧
      ⌊Decimal.fit (DealerEngine.cost side q / q)⌋ = ⌊DealerEngine.cost side q / q⌋ := by
  have hpos := pos_of_mem_quantities q hq
  have hle := quantities_le q hq
  obtain ⟨n, hn⟩ := hwhole.cost q
  obtain ⟨h0, hmax⟩ := h.cost_mem hle
  have hsmall : |n| < 10 ^ 28 := by
    have hcast : |(n : Decimal)| < 10 ^ 28 := by
      rw [← hn, abs_of_nonneg h0]
      exact hmax.trans_lt (by norm_num [MAX_COST])
    exact_mod_cast hcast
  rw [hn]
  exact ⟨Decimal.ceil_fit_div hpos (by omega) hsmall, Decimal.floor_fit_div hpos (by omega) hsmall⟩

end sides

end DealerEngine

section scratch

variable {ws : WsClient} {symbol : Symbol} {contract : TradableSymbol} {s : DealerState}
  {book : Level2State}

/-- Without tables for a contract, an update of the quotes makes them from the
book alone: a bucket is quoted exactly if its side is deep enough, at what filling
it from the best level on costs, whatever the buckets before it took. -/
theorem updateQuotes_from_scratch (hcontract : ws.tradableSymbols.lookup symbol = some contract)
    (hbook : s.level2Data.lookup symbol = some book)
    (hbids : s.bidQuotes.lookup symbol = none) (hasks : s.askQuotes.lookup symbol = none)
    (hbidCost : Affordable book.bids.levels.reverse) (haskCost : Affordable book.asks.levels)
    (hdp : contract.priceDp ≤ Decimal.MAX_SCALE) :
    ∃ s', updateQuotes ws symbol s = .ok ((), s') ∧
      SideQuoted Int.ceil contract.priceDp book.bids.levels.reverse s'.bidQuotes symbol ∧
      SideQuoted Int.floor contract.priceDp book.asks.levels s'.askQuotes symbol := by
  obtain ⟨bids, hbidsRun⟩ : ∃ bids, bidSideQuotes contract.priceDp book.bids = .ok bids :=
    bucketQuotes_returns hbidCost hdp (.start _) quantities_sorted pos_of_mem_quantities
      quantities_le
  obtain ⟨asks, hasksRun⟩ : ∃ asks, askSideQuotes contract.priceDp book.asks = .ok asks :=
    bucketQuotes_returns haskCost hdp (.start _) quantities_sorted pos_of_mem_quantities
      quantities_le
  obtain ⟨hbidKeys, hbidPrices⟩ := bidSideQuotes_spec hbidsRun
  obtain ⟨haskKeys, haskPrices⟩ := askSideQuotes_spec hasksRun
  refine ⟨{ s with
      bidQuotes := storeQuotes s.bidQuotes symbol bids
      askQuotes := storeQuotes s.askQuotes symbol asks },
    ?_, .store hbids hbidKeys hbidPrices (fun h => (quotedPrice_ceil h).2)
      fun hwhole q hq => (hbidCost.average_rounded hwhole hq).1,
    .store hasks haskKeys haskPrices (fun h => (quotedPrice_floor h).2)
      fun hwhole q hq => (haskCost.average_rounded hwhole hq).2⟩
  unfold updateQuotes
  rw [hcontract]
  dsimp only
  rw [run_get_bind, hbook]
  dsimp only
  rw [run_lift_bind hbidsRun, run_lift_bind hasksRun, run_set]

end scratch

namespace Sample

/-- A side of the book with two prices, five units each. -/
def twoLevels (p p' : Decimal) : BookSide := (oneLevel p 5).insert p' ⟨0, 5⟩

/-- A dealer that knows the dollar book and has no quotes yet. -/
def withBook (bids asks : BookSide) : DealerState :=
  { dealer with
    level2Data := AList.insert usdSymbol ⟨"snapshot", usdSymbol, bids, asks⟩ ∅ }

theorem withBook_lookup (bids asks : BookSide) :
    (withBook bids asks).level2Data.lookup usdSymbol = some ⟨"snapshot", usdSymbol, bids, asks⟩ :=
  AList.lookup_insert _

theorem wholeTicks_pair (p p' : ℤ) : WholeTicks [(⟨p, 0⟩, 5), (⟨p', 0⟩, 5)] := by
  intro l hl
  rcases List.mem_cons.mp hl with rfl | hl
  · exact ⟨p, rfl⟩
  · rw [List.mem_singleton.mp hl]
    exact ⟨p', rfl⟩

theorem affordable_pair {p p' : Decimal} (hp : 0 < p ∧ p ≤ 1000) (hp' : 0 < p' ∧ p' ≤ 1000) :
    Affordable [(⟨p, 0⟩, 5), (⟨p', 0⟩, 5)] where
  positive l hl := by
    rcases List.mem_cons.mp hl with rfl | hl
    · exact hp.1
    · rw [List.mem_singleton.mp hl]
      exact hp'.1
  cost := by
    show p * ((5 : ℕ) : Decimal) + (p' * ((5 : ℕ) : Decimal) + 0) ≤ MAX_COST
    unfold MAX_COST
    norm_num
    linarith [hp.2, hp'.2]

end Sample

/-- Five units at 100 and five at 99 fill a bid of ten at 99.5, quoted as 100; no
bid of a hundred is quoted. -/
theorem quotes_of_two_levels : ∃ s',
    updateQuotes (Sample.dealerEnv 1).ws Sample.usdSymbol
        (Sample.withBook (Sample.twoLevels 99 100) (Sample.twoLevels 101 102)) = .ok ((), s') ∧
      quoteAt s'.bidQuotes Sample.usdSymbol 10 = some 100 ∧
      quoteAt s'.askQuotes Sample.usdSymbol 10 = some 101 ∧
      quoteAt s'.bidQuotes Sample.usdSymbol 100 = none := by
  have hbids : (Sample.twoLevels 99 100).levels.reverse = [(⟨100, 0⟩, 5), (⟨99, 0⟩, 5)] := by
    decide +kernel
  have hasks : (Sample.twoLevels 101 102).levels = [(⟨101, 0⟩, 5), (⟨102, 0⟩, 5)] := by
    decide +kernel
  have hcontract : (Sample.dealerEnv 1).ws.tradableSymbols.lookup Sample.usdSymbol =
      some (⟨0⟩ : TradableSymbol) := rfl
  obtain ⟨s', hrun, hbid, hask⟩ := updateQuotes_from_scratch hcontract
    (Sample.withBook_lookup (Sample.twoLevels 99 100) (Sample.twoLevels 101 102)) rfl rfl
    (by rw [hbids]; exact Sample.affordable_pair (by norm_num) (by norm_num))
    (by rw [hasks]; exact Sample.affordable_pair (by norm_num) (by norm_num))
    (Nat.zero_le _)
  rw [hbids] at hbid
  rw [hasks] at hask
  refine ⟨s', hrun, ?_, ?_, ?_⟩
  · rw [hbid.price (Sample.wholeTicks_pair 100 99) 10 (by decide) (by decide)]
    decide +kernel
  · rw [hask.price (Sample.wholeTicks_pair 101 102) 10 (by decide) (by decide)]
    decide +kernel
  · by_contra hquoted
    exact absurd ((hbid.quoted 100 (by decide)).mp hquoted) (by decide)

/-- Ten units at a price that a `Decimal` can hold cost more than one can hold:
the update panics, though the side is deep enough for a bucket. -/
theorem quotes_overflow : ∃ bids : BookSide,
    (∀ l ∈ bids.levels, 0 < l.1.value ∧ l.1.value ≤ Decimal.MAX) ∧
    WholeTicks bids.levels ∧ 10 ≤ depth bids.levels ∧
    updateQuotes (Sample.dealerEnv 1).ws Sample.usdSymbol (Sample.withBook bids ∅) =
      .error .overflow := by
  have hcontract : (Sample.dealerEnv 1).ws.tradableSymbols.lookup Sample.usdSymbol =
      some (⟨0⟩ : TradableSymbol) := rfl
  have hlevels : (Sample.oneLevel (10 ^ 28) 10).levels = [(⟨10 ^ 28, 0⟩, 10)] := by decide +kernel
  refine ⟨Sample.oneLevel (10 ^ 28) 10, ?_, ?_, ?_, ?_⟩
  · rw [hlevels]
    intro l hl
    rw [List.mem_singleton.mp hl]
    unfold Decimal.MAX
    norm_num
  · rw [hlevels]
    intro l hl
    rw [List.mem_singleton.mp hl]
    exact ⟨10 ^ 28, by norm_num⟩
  · rw [hlevels]
    decide
  · have hbids : bidSideQuotes 0 (Sample.oneLevel (10 ^ 28) 10) = .error .overflow := by
      decide +kernel
    unfold updateQuotes
    rw [hcontract]
    dsimp only
    rw [run_get_bind, Sample.withBook_lookup]
    exact run_lift_bind_error hbids _

end Lndhubx
