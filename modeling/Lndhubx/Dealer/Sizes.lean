import Lndhubx.Dealer.Cycles

/-!
# Prices for the size of an order

The quote tables say what a bucket costs on average, so an order should be priced
by a bucket that holds it. `get_btc_cross_rate` looks up the value of the order
with its fraction dropped, `get_rate_inv` the amount rounded up, in whatever
currency it is: a bitcoin amount is looked up as if it were an amount of fiat.

`Asks` lists the lookups a request leads to. In each of them the bucket that is
used holds the order exactly if `Lookup.Fits` (`priced_for_size_iff`): always for
fiat amounts that are rounded up, but not for fiat amounts just above a bucket,
nor for bitcoin amounts that are worth more than their number. Where no bucket is dearer
than the first, the bitcoin of a swap is priced too small only just above a bucket
(`Lookup.fits_iff_of_no_dearer`).
-/

namespace Lndhubx

open Prog DealerEngine

variable {cfg : DealerConfig} {s : DealerState}

/-! ## The first bucket -/

theorem le_of_firstFrom {t : QuoteTable} {n q : Nat} {price : Decimal}
    (h : firstFrom t n = some (q, price)) : n ≤ q ∧ q < 2 ^ 64 - 1 := by
  have hfound := List.find?_some h
  exact of_decide_eq_true hfound

/-- What is looked up and is a bucket is found. -/
theorem firstFrom_of_mem {t : QuoteTable} {n q : Nat} {price p : Decimal}
    (h : firstFrom t n = some (q, price)) (hn : t[n]? = some p) : q = n ∧ price = p := by
  obtain ⟨hle, hlt⟩ := le_of_firstFrom h
  obtain ⟨-, before, after, hlist, hbefore⟩ := List.find?_eq_some_iff_append.mp h
  have hmem := Std.ExtTreeMap.mem_toList_iff_getElem?_eq_some.mpr hn
  rw [hlist] at hmem
  rcases List.mem_append.mp hmem with hmem | hmem
  · have hno := hbefore _ hmem
    rw [Bool.not_eq_true', decide_eq_false_iff_not] at hno
    exact absurd ⟨le_refl n, by omega⟩ hno
  rcases List.mem_cons.mp hmem with heq | hmem
  · obtain ⟨rfl, rfl⟩ := Prod.mk.inj heq
    exact ⟨rfl, rfl⟩
  · -- the buckets after the one that was found are larger
    have hsorted := Std.ExtTreeMap.ordered_keys_toList (t := t)
    rw [hlist, List.pairwise_append] at hsorted
    have hless := (List.pairwise_cons.mp hsorted.2.1).1 _ hmem
    have hless : q < n := compare_lt_iff_lt.mp hless
    omega

/-! ## Lookups -/

/-- A price that is looked up for an amount: by `get_rate_inv`, or else by
`get_btc_cross_rate`. -/
structure Lookup where
  amount : Money
  conversion : ConversionInfo
  inverse : Bool

namespace Lookup

/-- The value that is looked up, as the two functions compute it. -/
def value (l : Lookup) (quotes : QuoteTable) : Option Decimal :=
  if l.inverse then some (l.amount.value.roundDpWithStrategy 0 .awayFromZero)
  else if l.conversion.fromCurrency ≠ l.conversion.quote then
    (firstFrom quotes 0).map fun best => l.amount.value * best.2
  else some l.amount.value

/-- The bucket whose price is used. -/
def bucket (l : Lookup) (quotes : QuoteTable) : Option (Nat × Decimal) := do
  let value ← l.value quotes
  let lookupQuantity ← value.toU64
  firstFrom quotes lookupQuantity

def rate (cfg : DealerConfig) (s : DealerState) (l : Lookup) (chargeSpread : Bool) :
    Checked DealerEngine.Quoted :=
  if l.inverse then getRateInv cfg s l.amount l.conversion
  else getBtcCrossRate cfg s l.amount l.conversion chargeSpread

/-- What the order is worth in fiat, at a price. -/
def order (l : Lookup) (price : Decimal) : Decimal :=
  if l.amount.currency = .BTC then l.amount.value * price else l.amount.value

/-- The order is not larger than the bucket it is priced by. -/
def Fits (l : Lookup) (quotes : QuoteTable) : Prop :=
  if l.amount.currency = .BTC then
    ∀ v n, l.value quotes = some v → v.toU64 = some n →
      (∀ p, quotes[n]? = some p → l.amount.value * p ≤ n) ∧
        (quotes[n]? = none → ∀ q p, firstFrom quotes n = some (q, p) → l.amount.value * p ≤ q)
  else
    l.inverse = true ∨ l.amount.value = ⌊l.amount.value⌋ ∨ quotes[⌊l.amount.value⌋.toNat]? = none

theorem bucket_eq_some_iff {l : Lookup} {quotes : QuoteTable} {q : Nat} {price : Decimal} :
    l.bucket quotes = some (q, price) ↔
      ∃ v n, l.value quotes = some v ∧ v.toU64 = some n ∧ firstFrom quotes n = some (q, price) := by
  unfold bucket
  simp only [Option.bind_eq_bind, Option.bind_eq_some_iff]
  constructor
  · intro h
    obtain ⟨v, hv, n, hn, hfirst⟩ := h
    exact ⟨v, n, hv, hn, hfirst⟩
  · intro h
    obtain ⟨v, n, hv, hn, hfirst⟩ := h
    exact ⟨v, hv, n, hn, hfirst⟩

/-- The price of the bucket is the one the rate is made from. -/
theorem rate_eq_ok {l : Lookup} {charge : Bool} {rate : Rate} {fees : Option Money}
    (h : l.rate cfg s charge = .ok (some rate, fees)) :
    ∃ quotes q price value, quotesFor s l.conversion = some quotes ∧
      l.bucket quotes = some (q, price) ∧ l.value quotes = some value ∧
      rateAt cfg l.conversion price value (l.inverse || charge) = .ok (some rate, fees) := by
  unfold Lookup.rate at h
  cases hinv : l.inverse with
  | true =>
    rw [hinv, if_pos rfl] at h
    unfold getRateInv at h
    split at h
    next quotes hquotes =>
      obtain ⟨lookup, q, price, hlookup, hfirst, hrate⟩ := rateFor_firstFrom h
      have hvalue : l.value quotes = some (l.amount.value.roundDpWithStrategy 0 .awayFromZero) := by
        unfold value
        rw [hinv, if_pos rfl]
      exact ⟨quotes, q, price, _, hquotes,
        bucket_eq_some_iff.mpr ⟨_, lookup, hvalue, hlookup, hfirst⟩, hvalue, hrate⟩
    next => exact absurd (Prod.ext_iff.mp (Checked.pure_eq_ok.mp h)).1 (by simp)
  | false =>
    rw [hinv, if_neg (by simp)] at h
    unfold getBtcCrossRate at h
    split at h
    next quotes hquotes =>
      by_cases hfrom : l.conversion.fromCurrency ≠ l.conversion.quote
      · rw [if_pos hfrom] at h
        split at h
        next q₀ best hbest =>
          obtain ⟨v, hv, h⟩ := Checked.bind_eq_ok.mp h
          obtain ⟨-, rfl⟩ := Decimal.mul_eq_ok.mp hv
          obtain ⟨lookup, q, price, hlookup, hfirst, hrate⟩ := rateFor_firstFrom h
          have hvalue : l.value quotes = some (l.amount.value * best) := by
            unfold value
            rw [hinv, if_neg (by simp), if_pos hfrom, hbest]
            rfl
          exact ⟨quotes, q, price, _, hquotes,
            bucket_eq_some_iff.mpr ⟨_, lookup, hvalue, hlookup, hfirst⟩, hvalue, hrate⟩
        next => exact absurd (Prod.ext_iff.mp (Checked.pure_eq_ok.mp h)).1 (by simp)
      · rw [if_neg hfrom] at h
        obtain ⟨v, hv, h⟩ := Checked.bind_eq_ok.mp h
        obtain ⟨-, rfl⟩ := Decimal.mul_eq_ok.mp hv
        rw [mul_one] at h
        obtain ⟨lookup, q, price, hlookup, hfirst, hrate⟩ := rateFor_firstFrom h
        have hvalue : l.value quotes = some l.amount.value := by
          unfold value
          rw [hinv, if_neg (by simp), if_neg hfrom]
        exact ⟨quotes, q, price, _, hquotes,
          bucket_eq_some_iff.mpr ⟨_, lookup, hvalue, hlookup, hfirst⟩, hvalue, hrate⟩
    next => exact absurd (Prod.ext_iff.mp (Checked.pure_eq_ok.mp h)).1 (by simp)

theorem toU64_eq_some {v : Decimal} {n : Nat} (h : v.toU64 = some n) : 0 ≤ v ∧ ⌊v⌋ = n := by
  unfold Decimal.toU64 at h
  split at h
  next hv =>
    have h := Option.some.inj h
    have hfloor : 0 ≤ ⌊v⌋ := Int.floor_nonneg.mpr hv.1
    exact ⟨hv.1, by omega⟩
  next => exact absurd h (by simp)

/-- Fiat that is rounded up is held by the bucket. -/
theorem le_of_roundedUp {x : Decimal} {n : Nat}
    (h : (x.roundDpWithStrategy 0 .awayFromZero).toU64 = some n) : x ≤ n := by
  obtain ⟨h0, hn⟩ := toU64_eq_some h
  have hround : x.roundDpWithStrategy 0 .awayFromZero = Decimal.roundInt .awayFromZero x := by
    simp [Decimal.roundDpWithStrategy]
  rw [hround] at h0 hn
  rw [Int.floor_intCast] at hn
  unfold Decimal.roundInt at h0 hn
  dsimp only at h0 hn
  by_cases hx : 0 ≤ x
  · rw [if_pos hx] at hn
    have hle := Int.le_ceil x
    rw [hn] at hle
    exact_mod_cast hle
  · exact (not_le.mp hx).le.trans (Nat.cast_nonneg n)

/-- Fiat whose fraction is dropped is held by the bucket unless it is just above. -/
theorem le_bucket_iff {x price : Decimal} {quotes : QuoteTable} {n q : Nat}
    (hn : x.toU64 = some n) (hfirst : firstFrom quotes n = some (q, price)) :
    x ≤ q ↔ x = ⌊x⌋ ∨ quotes[⌊x⌋.toNat]? = none := by
  obtain ⟨-, hfloor⟩ := toU64_eq_some hn
  obtain ⟨hle, -⟩ := le_of_firstFrom hfirst
  have hfloor' : (⌊x⌋ : Decimal) = n := by
    rw [hfloor]
    rfl
  rw [hfloor', hfloor, Int.toNat_natCast]
  constructor
  · intro hx
    cases hmem : quotes[n]? with
    | none => exact .inr rfl
    | some p =>
      left
      obtain ⟨rfl, -⟩ := firstFrom_of_mem hfirst hmem
      have hge := Int.floor_le x
      rw [hfloor'] at hge
      exact le_antisymm hx hge
  · intro hx
    rcases hx with hx | hx
    · rw [hx]
      exact_mod_cast hle
    · have hne : q ≠ n := by
        intro heq
        rw [← heq, mem_of_firstFrom hfirst] at hx
        exact absurd hx (by simp)
      have hlt : n + 1 ≤ q := by omega
      have hx := Int.lt_floor_add_one x
      rw [hfloor'] at hx
      have hcast : (n : Decimal) + 1 ≤ q := by exact_mod_cast hlt
      exact hx.le.trans hcast

/-- Bitcoin is held by the bucket if the entry it is priced by holds it. -/
theorem btc_le_bucket_iff {l : Lookup} {quotes : QuoteTable} {v price : Decimal} {n q : Nat}
    (hbtc : l.amount.currency = .BTC) (hv : l.value quotes = some v) (hn : v.toU64 = some n)
    (hfirst : firstFrom quotes n = some (q, price)) :
    l.amount.value * price ≤ q ↔ l.Fits quotes := by
  unfold Fits
  rw [if_pos hbtc]
  constructor
  · intro hle v' n' hv' hn'
    obtain rfl := Option.some.inj (hv.symm.trans hv')
    obtain rfl := Option.some.inj (hn.symm.trans hn')
    constructor
    · intro p hp
      obtain ⟨rfl, rfl⟩ := firstFrom_of_mem hfirst hp
      exact hle
    · intro _ q' p hfirst'
      obtain ⟨rfl, rfl⟩ := Prod.mk.inj (Option.some.inj (hfirst.symm.trans hfirst'))
      exact hle
  · intro h
    obtain ⟨hbucket, hnext⟩ := h v n hv hn
    cases hmem : quotes[n]? with
    | none => exact hnext hmem q price hfirst
    | some p =>
      obtain ⟨rfl, rfl⟩ := firstFrom_of_mem hfirst hmem
      exact hbucket _ hmem

/-- The bucket that is used holds the order exactly if the order fits. A cross rate
takes the amount for bitcoin if it is. -/
theorem order_le_iff {l : Lookup} {quotes : QuoteTable} {q : Nat} {price : Decimal}
    (hcross : l.inverse = false → (l.amount.currency = .BTC ↔
      l.conversion.fromCurrency ≠ l.conversion.quote))
    (h : l.bucket quotes = some (q, price)) : l.order price ≤ q ↔ l.Fits quotes := by
  obtain ⟨v, n, hv, hn, hfirst⟩ := bucket_eq_some_iff.mp h
  unfold order
  by_cases hbtc : l.amount.currency = .BTC
  · rw [if_pos hbtc]
    exact btc_le_bucket_iff hbtc hv hn hfirst
  · rw [if_neg hbtc]
    unfold Fits
    rw [if_neg hbtc]
    unfold value at hv
    cases hinv : l.inverse with
    | true =>
      rw [hinv, if_pos rfl] at hv
      obtain rfl := Option.some.inj hv
      refine iff_of_true ?_ (.inl rfl)
      exact (le_of_roundedUp hn).trans (by exact_mod_cast (le_of_firstFrom hfirst).1)
    | false =>
      rw [hinv, if_neg (by simp), if_neg (fun hfrom => hbtc ((hcross hinv).mpr hfrom))] at hv
      obtain rfl := Option.some.inj hv
      rw [le_bucket_iff hn hfirst]
      simp

/-- Where no bucket is dearer than the first, a bitcoin amount of a swap is priced
too small only if its value is just above a bucket. -/
theorem fits_iff_of_no_dearer {l : Lookup} {quotes : QuoteTable} {q₀ n : Nat} {best : Decimal}
    (hbtc : l.amount.currency = .BTC) (hcross : l.inverse = false)
    (hfrom : l.conversion.fromCurrency ≠ l.conversion.quote)
    (hbest : firstFrom quotes 0 = some (q₀, best))
    (hn : (l.amount.value * best).toU64 = some n) (hamount : 0 ≤ l.amount.value)
    (hcheap : ∀ (q : Nat) p, quotes[q]? = some p → p ≤ best) :
    l.Fits quotes ↔ ∀ p, quotes[n]? = some p → l.amount.value * p ≤ n := by
  have hvalue : l.value quotes = some (l.amount.value * best) := by
    unfold value
    rw [hcross, if_neg (by simp), if_pos hfrom, hbest]
    rfl
  unfold Fits
  rw [if_pos hbtc]
  constructor
  · intro h
    exact (h _ n hvalue hn).1
  · intro h v' n' hv' hn'
    obtain rfl := Option.some.inj (hvalue.symm.trans hv')
    obtain rfl := Option.some.inj (hn.symm.trans hn')
    refine ⟨h, ?_⟩
    intro hnone q p hfirst
    have hmem := mem_of_firstFrom hfirst
    have hne : q ≠ n := by
      intro heq
      rw [heq, hnone] at hmem
      exact absurd hmem (by simp)
    have hlt : n + 1 ≤ q := by
      have := (le_of_firstFrom hfirst).1
      omega
    obtain ⟨-, hfloor⟩ := toU64_eq_some hn
    calc l.amount.value * p ≤ l.amount.value * best :=
          mul_le_mul_of_nonneg_left (hcheap q p hmem) hamount
      _ ≤ ⌊l.amount.value * best⌋ + 1 := (Int.lt_floor_add_one _).le
      _ = n + 1 := by rw [hfloor]; rfl
      _ ≤ q := by exact_mod_cast hlt

end Lookup

/-! ## Requests -/

/-- The requests that are priced by `get_rate`. -/
inductive Exchanges : Message → Money → Currency → Prop
  | swap (req : SwapRequest) : Exchanges (.api (.swapRequest req)) req.amount req.toCurrency
  | quote (req : QuoteRequest) : Exchanges (.api (.quoteRequest req)) req.amount req.toCurrency

/-- The lookups behind a rate that a request is given. Between two fiat currencies
there are two, by way of bitcoin. -/
inductive Asks (cfg : DealerConfig) (s : DealerState) : Message → Lookup → Prop
  | direct {msg : Message} {amount : Money} {target : Currency} {conversion : ConversionInfo}
      {quoted : Rate × Option Money} (asked : Exchanges msg amount target)
      (btc : amount.currency = .BTC ∨ target = .BTC)
      (new : ConversionInfo.new amount.currency target = .ok conversion)
      (rated : getRate cfg s amount target = .ok (some quoted.1, quoted.2)) :
      Asks cfg s msg ⟨amount, conversion, false⟩
  | toBtc {msg : Message} {amount : Money} {target : Currency} {conversion : ConversionInfo}
      {quoted : Rate × Option Money} (asked : Exchanges msg amount target)
      (fiat : amount.currency ≠ .BTC ∧ target ≠ .BTC)
      (new : ConversionInfo.new amount.currency .BTC = .ok conversion)
      (rated : getRate cfg s amount target = .ok (some quoted.1, quoted.2)) :
      Asks cfg s msg ⟨amount, conversion, false⟩
  | fromBtc {msg : Message} {amount : Money} {target : Currency} {first second : ConversionInfo}
      {quoted converted : Rate × Option Money} (asked : Exchanges msg amount target)
      (fiat : amount.currency ≠ .BTC ∧ target ≠ .BTC)
      (new : ConversionInfo.new amount.currency .BTC = .ok first)
      (leg : getBtcCrossRate cfg s amount first false = .ok (some converted.1, converted.2))
      (new' : ConversionInfo.new .BTC target = .ok second)
      (rated : getRate cfg s amount target = .ok (some quoted.1, quoted.2)) :
      Asks cfg s msg ⟨Money.new .BTC (amount.value * converted.1.value), second, false⟩
  | invoice {req : InvoiceRequest} {conversion : ConversionInfo} {quoted : Rate × Option Money}
      (new : ConversionInfo.new .BTC req.currency = .ok conversion)
      (rated : getRateInv cfg s req.amount conversion = .ok (some quoted.1, quoted.2)) :
      Asks cfg s (.api (.invoiceRequest req)) ⟨req.amount, conversion, true⟩
  | payment {req : PaymentRequest} {amount : Money} {conversion : ConversionInfo}
      {quoted : Rate × Option Money} (amount_eq : req.invoiceAmount = some amount)
      (new : ConversionInfo.new req.currency .BTC = .ok conversion)
      (rated : getRateInv cfg s amount conversion = .ok (some quoted.1, quoted.2)) :
      Asks cfg s (.api (.paymentRequest req)) ⟨amount, conversion, true⟩
  | withdrawal {req : CreateLnurlWithdrawalRequest} {conversion : ConversionInfo}
      {quoted : Rate × Option Money} (new : ConversionInfo.new req.currency .BTC = .ok conversion)
      (rated : getRateInv cfg s req.amount conversion = .ok (some quoted.1, quoted.2)) :
      Asks cfg s (.api (.createLnurlWithdrawalRequest req)) ⟨req.amount, conversion, true⟩
  | deposit {req : FiatDepositRequest} {conversion : ConversionInfo} {quoted : Rate × Option Money}
      (new : ConversionInfo.new .BTC req.currency = .ok conversion)
      (rated : getRateInv cfg s req.amount conversion = .ok (some quoted.1, quoted.2)) :
      Asks cfg s (.dealer (.fiatDepositRequest req)) ⟨req.amount, conversion, true⟩

/-- A conversion is of the currency the amount is in. -/
theorem btc_iff_of_new {a b : Currency} {conversion : ConversionInfo}
    (h : ConversionInfo.new a b = .ok conversion) :
    a = .BTC ↔ conversion.fromCurrency ≠ conversion.quote := by
  rcases conversionInfo_eq_ok h with ⟨ha, -, -, -, hfrom⟩ | ⟨-, hsymbol, -, -, hfrom⟩
  · exact iff_of_true ha hfrom
  · refine iff_of_false ?_ (not_not.mpr hfrom)
    intro ha
    rw [ha] at hsymbol
    exact absurd hsymbol (by simp [Currency.symbol])

theorem getRate_of_btc {amount : Money} {target : Currency} {conversion : ConversionInfo}
    (hbtc : amount.currency = .BTC ∨ target = .BTC)
    (hnew : ConversionInfo.new amount.currency target = .ok conversion) :
    getRate cfg s amount target = getBtcCrossRate cfg s amount conversion true := by
  unfold getRate
  rw [if_pos hbtc, hnew]
  rfl

/-- A rate between two fiat currencies, leg by leg. -/
theorem getRate_legs {amount : Money} {target : Currency} {rate : Rate} {fees : Option Money}
    (hfiat : amount.currency ≠ .BTC ∧ target ≠ .BTC)
    (h : getRate cfg s amount target = .ok (some rate, fees)) :
    ∃ first toBtc toBtcFees second toTarget,
      ConversionInfo.new amount.currency .BTC = .ok first ∧
      getBtcCrossRate cfg s amount first false = .ok (some toBtc, toBtcFees) ∧
      ConversionInfo.new .BTC target = .ok second ∧
      getBtcCrossRate cfg s (Money.new .BTC (amount.value * toBtc.value)) second true =
        .ok (some toTarget, fees) := by
  unfold getRate at h
  rw [if_neg (not_or.mpr hfiat)] at h
  obtain ⟨first, hfirst, h⟩ := Checked.bind_eq_ok.mp h
  obtain ⟨⟨toBtc, toBtcFees⟩, hleg, h⟩ := Checked.bind_eq_ok.mp h
  cases toBtc with
  | none => exact absurd (Prod.ext_iff.mp (Checked.pure_eq_ok.mp h)).1 (by simp)
  | some toBtc =>
    obtain ⟨v, hv, h⟩ := Checked.bind_eq_ok.mp h
    obtain ⟨-, rfl⟩ := Decimal.mul_eq_ok.mp hv
    obtain ⟨second, hsecond, h⟩ := Checked.bind_eq_ok.mp h
    obtain ⟨⟨toTarget, toTargetFees⟩, hleg', h⟩ := Checked.bind_eq_ok.mp h
    cases toTarget with
    | none => exact absurd (Prod.ext_iff.mp (Checked.pure_eq_ok.mp h)).1 (by simp)
    | some toTarget =>
      obtain ⟨final, -, h⟩ := Checked.bind_eq_ok.mp h
      have hfees := (Prod.ext_iff.mp (Checked.pure_eq_ok.mp h)).2
      rw [show toTargetFees = fees from hfees] at hleg'
      exact ⟨first, toBtc, toBtcFees, second, toTarget, hfirst, hleg, hsecond, hleg'⟩

/-- Every lookup of a request yields a rate. -/
theorem Asks.rated {msg : Message} {l : Lookup} (h : Asks cfg s msg l) :
    (l.inverse = false → (l.amount.currency = .BTC ↔
      l.conversion.fromCurrency ≠ l.conversion.quote)) ∧
    ∃ charge rate fees, l.rate cfg s charge = .ok (some rate, fees) := by
  cases h with
  | @direct _ amount target conversion quoted _ btc new rated =>
    rw [getRate_of_btc btc new] at rated
    exact ⟨fun _ => btc_iff_of_new new, true, quoted.1, quoted.2, rated⟩
  | toBtc _ fiat new rated =>
    obtain ⟨first, toBtc, toBtcFees, second, toTarget, hfirst, hleg, -⟩ := getRate_legs fiat rated
    rw [new] at hfirst
    obtain rfl := Except.ok.inj hfirst
    exact ⟨fun _ => btc_iff_of_new new, false, toBtc, toBtcFees, hleg⟩
  | @fromBtc _ amount target first second quoted converted _ fiat new leg new' rated =>
    obtain ⟨first', toBtc, toBtcFees, second', toTarget, hfirst, hleg, hsecond, hleg'⟩ :=
      getRate_legs fiat rated
    rw [new] at hfirst
    obtain rfl := Except.ok.inj hfirst
    rw [leg] at hleg
    obtain ⟨htoBtc, -⟩ := Prod.mk.inj (Except.ok.inj hleg)
    obtain rfl := Option.some.inj htoBtc
    rw [new'] at hsecond
    obtain rfl := Except.ok.inj hsecond
    exact ⟨fun _ => btc_iff_of_new new', true, toTarget, quoted.2, hleg'⟩
  | @invoice _ _ quoted _ rated => exact ⟨by simp, true, quoted.1, quoted.2, rated⟩
  | @payment _ _ _ quoted _ _ rated => exact ⟨by simp, true, quoted.1, quoted.2, rated⟩
  | @withdrawal _ _ quoted _ rated => exact ⟨by simp, true, quoted.1, quoted.2, rated⟩
  | @deposit _ _ quoted _ rated => exact ⟨by simp, true, quoted.1, quoted.2, rated⟩

/-- **Prices for the size of an order.** The rate of a request is made from the price
of a bucket, and the bucket holds the order exactly if the order fits: for the bitcoin of a
swap, where no bucket is dearer than the first, if its value at the first price, with the
fraction dropped, is no bucket or one that holds it at its own price. -/
theorem priced_for_size_iff {msg : Message} {l : Lookup} (h : Asks cfg s msg l) :
    ∃ quotes q price charge value rate fees, quotesFor s l.conversion = some quotes ∧
      l.bucket quotes = some (q, price) ∧ quotes[q]? = some price ∧
      l.rate cfg s charge = .ok (some rate, fees) ∧
      rateAt cfg l.conversion price value (l.inverse || charge) = .ok (some rate, fees) ∧
      (l.order price ≤ q ↔ l.Fits quotes) ∧
      (l.amount.currency = .BTC → l.inverse = false → 0 ≤ l.amount.value →
        ∀ q₀ best n, firstFrom quotes 0 = some (q₀, best) →
          (l.amount.value * best).toU64 = some n →
          (∀ (q' : Nat) p, quotes[q']? = some p → p ≤ best) →
          (l.order price ≤ q ↔ ∀ p, quotes[n]? = some p → l.amount.value * p ≤ n)) := by
  obtain ⟨hcross, charge, rate, fees, hrate⟩ := h.rated
  obtain ⟨quotes, q, price, value, hquotes, hbucket, -, hat⟩ := l.rate_eq_ok hrate
  obtain ⟨v, n, -, -, hfirst⟩ := Lookup.bucket_eq_some_iff.mp hbucket
  have hfits := Lookup.order_le_iff hcross hbucket
  refine ⟨quotes, q, price, charge, value, rate, fees, hquotes, hbucket, mem_of_firstFrom hfirst,
    hrate, hat, hfits, ?_⟩
  intro hbtc hinverse hamount q₀ best n hbest hn hcheap
  exact hfits.trans (Lookup.fits_iff_of_no_dearer hbtc hinverse ((hcross hinverse).mp hbtc) hbest
    hn hamount hcheap)

namespace Sample

/-- Ten contracts at one price, and many at the double. -/
def deepSide (price : Decimal) : BookSide :=
  (Std.ExtTreeMap.empty.insert price ⟨0, 10⟩).insert (2 * price) ⟨0, 10000⟩

def deepBook : DealerInput :=
  .kollider (.level2State ⟨"snapshot", usdSymbol, oneLevel 90 10000, deepSide 100⟩)

/-- Alice is owed five dollars. -/
def fiveDollars : InvoiceRequest := ⟨1, 7, Money.new .USD 5, "", none, .USD, none, none⟩

/-- Alice pays an invoice over one bitcoin from her dollars. -/
def payBitcoin : PaymentRequest :=
  ⟨1, 7, none, .USD, none, none, none, some (Money.new .BTC 1), none, none⟩

def toDollars : ConversionInfo := ⟨.BTC, .USD, .BTC, .USD, usdSymbol, .ask⟩

def fromDollars : ConversionInfo := ⟨.USD, .BTC, .BTC, .USD, usdSymbol, .bid⟩

/-- A lookup that ends with a rate. -/
theorem exists_rate {r : Checked DealerEngine.Quoted}
    (h : r.toOption.any (·.1.isSome) = true) :
    ∃ quoted : Rate × Option Money, r = .ok (some quoted.1, quoted.2) := by
  cases hr : r with
  | error e =>
    rw [hr] at h
    exact absurd h (by simp [Except.toOption])
  | ok r =>
    obtain ⟨rate, fees⟩ := r
    rw [hr] at h
    obtain ⟨rate, rfl⟩ := Option.isSome_iff_exists.mp (by simpa [Except.toOption] using h)
    exact ⟨(rate, fees), rfl⟩

end Sample

/-- An invoice over five dollars is priced by the bucket of ten. -/
theorem priced_for_size_sample : ∃ s l quotes q price,
    DealerRun Sample.dealerConfig Sample.dealer [⟨Sample.dealerEnv 1, Sample.deepBook⟩] s ∧
    Asks Sample.dealerConfig s (.api (.invoiceRequest Sample.fiveDollars)) l ∧
    quotesFor s l.conversion = some quotes ∧ l.bucket quotes = some (q, price) ∧
    l.order price ≤ q := by
  obtain ⟨s, hrun, hrate⟩ := exists_dealerRun Sample.dealerConfig
    [⟨Sample.dealerEnv 1, Sample.deepBook⟩] Sample.dealer
    (fun s => (getRateInv Sample.dealerConfig s Sample.fiveDollars.amount
      Sample.toDollars).toOption.any (·.1.isSome) = true) (by decide +kernel)
  obtain ⟨quoted, hquoted⟩ := Sample.exists_rate hrate
  have hasks : Asks Sample.dealerConfig s (.api (.invoiceRequest Sample.fiveDollars))
      ⟨Sample.fiveDollars.amount, Sample.toDollars, true⟩ := .invoice rfl hquoted
  obtain ⟨quotes, q, price, -, -, -, -, hquotes, hbucket, -, -, -, hiff, -⟩ :=
    priced_for_size_iff hasks
  refine ⟨s, _, quotes, q, price, hrun, hasks, hquotes, hbucket, hiff.mpr ?_⟩
  unfold Lookup.Fits
  rw [if_neg (by decide)]
  exact .inl rfl

/-- A payment of one bitcoin is priced as one of ten dollars, at a price that no
bucket has that would hold it. -/
theorem payment_priced_too_small : ∃ s l quotes q price,
    DealerRun Sample.dealerConfig Sample.dealer [⟨Sample.dealerEnv 1, Sample.deepBook⟩] s ∧
    Asks Sample.dealerConfig s (.api (.paymentRequest Sample.payBitcoin)) l ∧
    l.amount = Money.new .BTC 1 ∧
    quotesFor s l.conversion = some quotes ∧ l.bucket quotes = some (q, price) ∧
    ∀ (q' : Nat), quotes[q']? = some price → (q' : Decimal) < l.order price := by
  obtain ⟨s, hrun, hrate, hbucket⟩ := exists_dealerRun Sample.dealerConfig
    [⟨Sample.dealerEnv 1, Sample.deepBook⟩] Sample.dealer
    (fun s => (getRateInv Sample.dealerConfig s (Money.new .BTC 1)
        Sample.fromDollars).toOption.any (·.1.isSome) = true ∧
      (quotesFor s Sample.fromDollars).any (fun quotes =>
        decide ((⟨Money.new .BTC 1, Sample.fromDollars, true⟩ : Lookup).bucket quotes =
            some (10, 100)) &&
          quotes.toList.all fun e => decide (e.2 = 100 → e.1 = 10)) = true)
    (by decide +kernel)
  obtain ⟨quoted, hquoted⟩ := Sample.exists_rate hrate
  obtain ⟨quotes, hquotes, hfound⟩ := (Option.any_eq_true _ _).mp hbucket
  rw [Bool.and_eq_true, decide_eq_true_iff, List.all_eq_true] at hfound
  obtain ⟨hbucket, hall⟩ := hfound
  refine ⟨s, ⟨Money.new .BTC 1, Sample.fromDollars, true⟩, quotes, 10, 100, hrun,
    .payment rfl rfl hquoted, rfl, hquotes, hbucket, ?_⟩
  intro q' hq'
  have hten := hall _ (Std.ExtTreeMap.mem_toList_iff_getElem?_eq_some.mpr hq')
  have hten : q' = 10 := of_decide_eq_true hten rfl
  rw [hten]
  decide +kernel

end Lndhubx
