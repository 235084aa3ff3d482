import Lndhubx.Core.Rounding

/-!
# The shared vocabulary: currencies, accounts, money and rates

`core_types/src/lib.rs`. A `Money` value is cut to the decimal places of its
currency when it is made (`Money.new`, `fromSats`, `fromBtc`), a `Rate` to
`RATE_DP` places; `exchange` multiplies the two and cuts again, flipping the
rate first when the money is in the rate's quote currency.

Identifiers are numbers: UUIDs are compared and never inspected, and user ids
are `u64` in memory and `i32` in the database (`asI32`, `asU64`).
-/

namespace Lndhubx

abbrev Uuid := Nat
abbrev AccountId := Uuid
abbrev RequestId := Uuid
abbrev Txid := String
abbrev UserId := Nat

/-- `uid as i32`. -/
def asI32 (uid : UserId) : Int := (uid : Int).bmod (2 ^ 32)

/-- `uid as u64` of a database `i32`. -/
def asU64 (uid : Int) : UserId := (uid % 2 ^ 64).toNat

/-- Which side of the books an account is on. -/
inductive AccountType where
  | internal
  | external
  deriving DecidableEq

/-- As it is stored in a row. -/
def AccountType.display : AccountType → String
  | .internal => "Internal"
  | .external => "External"

/-- As it is read from one. -/
def AccountType.fromStr (s : String) : Option AccountType :=
  if s = "Internal" then some .internal else if s = "External" then some .external else none

/-- What an account is for. -/
inductive AccountClass where
  | cash
  | fees
  deriving DecidableEq

/-- The printed form of `Fees` is not the one `from_str` reads. -/
def AccountClass.display : AccountClass → String
  | .cash => "Cash"
  | .fees => "Fee"

/-- As it is read from a row. -/
def AccountClass.fromStr (s : String) : Option AccountClass :=
  if s = "Cash" then some .cash else if s = "Fees" then some .fees else none

inductive Currency where
  | USD
  | GBP
  | EUR
  | BTC
  | KKP
  deriving DecidableEq

namespace Currency

/-- How many decimal places an amount has. -/
def dp : Currency → Nat
  | BTC => 12
  | USD => 6
  | EUR => 6
  | GBP => 6
  | KKP => 8

/-- As it is stored in a row. -/
def display : Currency → String
  | BTC => "BTC"
  | USD => "USD"
  | GBP => "GBP"
  | EUR => "EUR"
  | KKP => "KKP"

/-- One character of `to_lowercase`, as far as it can yield an ASCII letter:
U+212A, the Kelvin sign, is the only other character that lowers to one. -/
def lowerChar (c : Char) : Char := if c.toNat = 0x212A then 'k' else c.toLower

/-- `Currency::from_str`: case is ignored. -/
def fromStr (s : String) : Option Currency :=
  match s.toList.map lowerChar with
  | ['b', 't', 'c'] => some BTC
  | ['e', 'u', 'r'] => some EUR
  | ['g', 'b', 'p'] => some GBP
  | ['u', 's', 'd'] => some USD
  | ['k', 'k', 'p'] => some KKP
  | _ => none

/-- What is stored is read back. -/
theorem fromStr_display (c : Currency) : fromStr c.display = some c := by
  cases c <;> decide

/-- The currencies the dealer has a market for. -/
def IsFiat (c : Currency) : Prop := c = USD ∨ c = GBP ∨ c = EUR

instance : DecidablePred IsFiat := fun c =>
  inferInstanceAs (Decidable (c = USD ∨ c = GBP ∨ c = EUR))

/-- Fiat is not bitcoin. -/
theorem IsFiat.ne_btc {c : Currency} (h : c.IsFiat) : c ≠ BTC := by
  rcases h with rfl | rfl | rfl <;> decide

end Currency

/-- The name of a contract on the exchange. -/
abbrev Symbol := String

/-- `Symbol::from`: the contract a fiat currency is traded by. -/
def Currency.symbol : Currency → Checked Symbol
  | USD => .ok "BTCUSD.PERP"
  | EUR => .ok "BTCEUR.PERP"
  | GBP => .ok "BTCGBP.PERP"
  | BTC => .error (.explicit "Incorrect usage")
  | KKP => .error (.explicit "Incorrect usage")

/-- The side of the book an order takes. -/
inductive Side where
  | bid
  | ask
  deriving DecidableEq

/-- Buying adds to a position, selling takes from it. -/
def Side.toSign : Side → Int
  | bid => 1
  | ask => -1

/-- The side of an order for so many contracts. -/
def Side.fromSign (sign : Int) : Side := if sign < 0 then ask else bid

/-- Which contract a conversion is priced by, and from which side. -/
structure ConversionInfo where
  fromCurrency : Currency
  toCurrency : Currency
  base : Currency
  quote : Currency
  symbol : Symbol
  side : Side
  deriving DecidableEq

namespace ConversionInfo

def new (fromCurrency toCurrency : Currency) : Checked ConversionInfo := do
  if fromCurrency = toCurrency then
    throw (.explicit "Conversion between the same currency is not supported")
  if fromCurrency ≠ .BTC ∧ toCurrency ≠ .BTC then
    throw (.explicit "Conversions must involve BTC")
  let fiat := if fromCurrency = .BTC then toCurrency else fromCurrency
  let symbol ← fiat.symbol
  return {
    fromCurrency
    toCurrency
    base := .BTC
    quote := fiat
    symbol
    side := if toCurrency = fiat then .ask else .bid }

/-- From the base currency of the contract. -/
def isLinear (c : ConversionInfo) : Bool := c.base = c.fromCurrency

end ConversionInfo

structure Account where
  accountId : AccountId
  balance : Decimal
  currency : Currency
  accountType : AccountType
  accountClass : AccountClass
  deriving DecidableEq

/-- `Account::new`, with the UUID it draws. -/
def Account.new (id : Uuid) (currency : Currency) (accountType : AccountType)
    (accountClass : AccountClass) : Account :=
  { accountId := id, balance := 0, currency, accountType, accountClass }

/-- Where a message handed to the listener goes. -/
inductive ServiceIdentity where
  | api
  | dealer
  | loopback
  | nostr
  | journal
  deriving DecidableEq

/-- A hundred million satoshis are a bitcoin. -/
def SATS_IN_BITCOIN : Decimal := 100000000

def SATS_DECIMALS : Nat := 8

/-- A number of sats needs no rounding to be a number of bitcoin. -/
theorem fit_sats {n : ℤ} (h : |(n : ℚ)| ≤ Decimal.MAX) :
    Decimal.fit (n / SATS_IN_BITCOIN) = n / SATS_IN_BITCOIN := by
  refine Decimal.fit_eq_self ⟨8, by decide, n, ?_, by norm_num [SATS_IN_BITCOIN]⟩
  have hlt : |(n : ℚ)| < 2 ^ 96 := h.trans_lt (by norm_num [Decimal.MAX])
  exact_mod_cast hlt

/-- How many decimal places a rate has. -/
def RATE_DP : Nat := 12

/-- An amount with its currency. -/
structure Money where
  currency : Currency
  value : Decimal
  deriving DecidableEq

/-- How much of the quote currency one unit of the base currency is worth. -/
structure Rate where
  base : Currency
  quote : Currency
  value : Decimal
  deriving DecidableEq

namespace Rate

def normalizedValue (value : Decimal) : Decimal :=
  value.roundDpWithStrategy RATE_DP .toZero

def new (base quote : Currency) (value : Decimal) : Rate :=
  { base, quote, value := normalizedValue value }

def inverse (rate : Rate) : Checked Rate := do
  let value ← Decimal.div 1 rate.value
  return { base := rate.quote, quote := rate.base, value := normalizedValue value }

/-- What the inverse of a rate is worth: the quotient is rounded to the places there is
room for, and then cut. -/
def inverseValue (value : Decimal) : Decimal := normalizedValue (Decimal.fit (1 / value))

/-- What a unit comes back as, changed at a rate and back with nothing cut from it. -/
def roundTrip (value : Decimal) : Decimal := value * inverseValue value

/-- An inverse has the sign of the rate. -/
theorem inverseValue_nonneg {value : Decimal} (h : 0 ≤ value) : 0 ≤ inverseValue value :=
  Decimal.roundToZero_nonneg (Decimal.fit_nonneg (div_nonneg zero_le_one h))

/-- It is odd in the rate. -/
theorem inverseValue_neg (value : Decimal) : inverseValue (-value) = -inverseValue value := by
  unfold inverseValue normalizedValue
  rw [one_div_neg_eq_neg_one_div, Decimal.fit_neg, Decimal.roundToZero_neg]

/-- So what a rate and its inverse come to is even. -/
theorem roundTrip_neg (value : Decimal) : roundTrip (-value) = roundTrip value := by
  unfold roundTrip
  rw [inverseValue_neg, neg_mul_neg]

/-- The rounding of the inverse may gain, the last of 28 digits at most. -/
theorem roundTrip_le (value : Decimal) : roundTrip value ≤ 1 + max 1 |value| / 10 ^ 28 := by
  have hpos {value : Decimal} (h : 0 < value) :
      roundTrip value ≤ 1 + max 1 |value| / 10 ^ 28 := by
    have hfit := (abs_le.mp (Decimal.abs_fit_sub_le (1 / value))).2
    have hcut : inverseValue value ≤ Decimal.fit (1 / value) :=
      Decimal.roundToZero_le (Decimal.fit_nonneg (div_nonneg zero_le_one h.le))
    have hmax : value * max 1 |1 / value| = max 1 |value| := by
      rw [abs_of_pos h, abs_of_pos (one_div_pos.mpr h), mul_max_of_nonneg _ _ h.le, mul_one,
        mul_one_div_cancel h.ne', max_comm]
    calc roundTrip value ≤ value * Decimal.fit (1 / value) := mul_le_mul_of_nonneg_left hcut h.le
      _ ≤ value * (1 / value + max 1 |1 / value| / 10 ^ 28) :=
        mul_le_mul_of_nonneg_left (by linarith) h.le
      _ = 1 + max 1 |value| / 10 ^ 28 := by
        rw [mul_add, mul_one_div_cancel h.ne', ← mul_div_assoc, hmax]
  rcases lt_trichotomy value 0 with h | rfl | h
  · rw [← roundTrip_neg, ← abs_neg]
    exact hpos (neg_pos.mpr h)
  · unfold roundTrip
    rw [zero_mul]
    positivity
  · exact hpos h

end Rate

/-- `Cannot exchange {money:?} with rate {rate:?}`. -/
structure ExchangeError where
  money : Money
  rate : Rate
  deriving DecidableEq

namespace Money

def normalizedValue (value : Decimal) (currency : Currency) : Decimal :=
  value.roundDpWithStrategy currency.dp .toZero

def new (currency : Currency) (value : Decimal) : Money :=
  { currency, value := normalizedValue value currency }

def zero (currency : Currency) : Money := new currency 0

def set (m : Money) (value : Decimal) : Money :=
  { m with value := normalizedValue value m.currency }

/-- The amount in sats, with its fraction; `Is not Bitcoin.` otherwise. -/
def trySats (m : Money) : Checked (Except String Decimal) := do
  if m.currency = .BTC then
    return .ok (← Decimal.mul m.value SATS_IN_BITCOIN)
  else
    return .error "Is not Bitcoin."

/-- Dividing by a number above one cannot leave the range. It is done for satoshis and for
thousandths of them only, where the quotient has room for all its places. -/
def fromSats (value : Decimal) : Money :=
  { currency := .BTC, value := normalizedValue (value / SATS_IN_BITCOIN) .BTC }

/-- An amount of bitcoin. -/
def fromBtc (value : Decimal) : Money :=
  { currency := .BTC, value := normalizedValue value .BTC }

def exchange (m : Money) (rate : Rate) : Checked (Except ExchangeError Money) := do
  if m.currency = rate.base then
    return .ok (new rate.quote (← Decimal.mul m.value rate.value))
  else if m.currency = rate.quote then
    -- We have to flip the rate if currencies not align
    let flipped ← rate.inverse
    return .ok (new flipped.quote (← Decimal.mul m.value flipped.value))
  else
    return .error ⟨m, rate⟩

/-- Whole sats have no more than the decimal places of bitcoin. -/
theorem trySats_eq_ok {m : Money} {sats : Decimal} (h : m.trySats = .ok (.ok sats)) :
    m.currency = .BTC ∧ sats = m.value * SATS_IN_BITCOIN := by
  unfold trySats at h
  split at h
  next hbtc =>
    obtain ⟨v, hv, h⟩ := Checked.bind_eq_ok.mp h
    injection Checked.pure_eq_ok.mp h with h
    rw [← h]
    exact ⟨hbtc, (Decimal.mul_eq_ok.mp hv).2⟩
  next => exact absurd (Checked.pure_eq_ok.mp h) (by simp)

/-- A satoshi fits in the places of bitcoin, so nothing is cut. -/
theorem fromSats_value (n : Int) : (fromSats n).value = n / SATS_IN_BITCOIN := by
  have hdp : Decimal.HasDp 12 ((n : Decimal) / SATS_IN_BITCOIN) :=
    ⟨n * 10 ^ 4, by unfold SATS_IN_BITCOIN; push_cast; ring⟩
  exact Decimal.roundDp_eq_self hdp

/-- Some satoshis are some bitcoin. -/
theorem fromSats_pos {n : Int} (h : 0 < n) : 0 < (fromSats n).value := by
  rw [fromSats_value]
  have hn : (0 : Decimal) < n := Int.cast_pos.mpr h
  unfold SATS_IN_BITCOIN
  positivity

/-- Which way an exchange went, and what it made of the amount. -/
theorem exchange_eq_ok {m d : Money} {rate : Rate} (h : m.exchange rate = .ok (.ok d)) :
    (m.currency = rate.base ∧ d = new rate.quote (m.value * rate.value)) ∨
      (m.currency ≠ rate.base ∧ m.currency = rate.quote ∧ rate.value ≠ 0 ∧
        d = new rate.base (m.value * Rate.inverseValue rate.value)) := by
  unfold exchange at h
  split at h
  next hbase =>
    left
    obtain ⟨v, hv, h⟩ := Checked.bind_eq_ok.mp h
    obtain ⟨-, rfl⟩ := Decimal.mul_eq_ok.mp hv
    injection Checked.pure_eq_ok.mp h with h
    exact ⟨hbase, h.symm⟩
  next hbase =>
    split at h
    next hquote =>
      right
      obtain ⟨flipped, hf, h⟩ := Checked.bind_eq_ok.mp h
      obtain ⟨v, hv, h⟩ := Checked.bind_eq_ok.mp h
      obtain ⟨-, rfl⟩ := Decimal.mul_eq_ok.mp hv
      injection Checked.pure_eq_ok.mp h with h
      obtain ⟨w, hw, hf⟩ := Checked.bind_eq_ok.mp hf
      obtain ⟨hne, -, rfl⟩ := Decimal.div_eq_ok.mp hw
      have hf := Checked.pure_eq_ok.mp hf
      refine ⟨hbase, hquote, hne, ?_⟩
      rw [← h, ← hf]
      rfl
    next =>
      injection h with h
      exact absurd h (by simp)

/-- An exchange panics where a number leaves its range or the rate is zero. -/
theorem exchange_eq_error {m : Money} {rate : Rate} {e : Panic} (h : m.exchange rate = .error e) :
    e = .overflow ∨ e = .divisionByZero := by
  unfold exchange at h
  split at h
  next =>
    rcases Checked.bind_eq_error h with h | ⟨v, -, h⟩
    · exact .inl (Decimal.inRange_eq_error h)
    · exact absurd h (by simp [pure, Except.pure])
  next =>
    split at h
    next =>
      rcases Checked.bind_eq_error h with h | ⟨flipped, -, h⟩
      · rcases Checked.bind_eq_error h with h | ⟨v, -, h⟩
        · exact (Decimal.div_eq_error h).imp_right And.right
        · exact absurd h (by simp [pure, Except.pure])
      · rcases Checked.bind_eq_error h with h | ⟨v, -, h⟩
        · exact .inl (Decimal.inRange_eq_error h)
        · exact absurd h (by simp [pure, Except.pure])
    next => exact absurd h (by simp [pure, Except.pure])

/-- It fails only where the product is too large. -/
theorem trySats_eq_error {m : Money} {e : Panic} (h : m.trySats = .error e) : e = .overflow := by
  unfold trySats at h
  split at h
  next =>
    rcases Checked.bind_eq_error h with h | ⟨v, -, h⟩
    · exact Decimal.inRange_eq_error h
    · exact absurd h (by simp [pure, Except.pure])
  next => exact absurd h (by simp [pure, Except.pure])

/-- At a rate that is not negative, nothing gives nothing. -/
theorem exchange_nonpos {m d : Money} {rate : Rate} (h : m.exchange rate = .ok (.ok d))
    (hr : 0 ≤ rate.value) (hm : m.value ≤ 0) : d.value ≤ 0 := by
  rcases exchange_eq_ok h with ⟨-, rfl⟩ | ⟨-, -, -, rfl⟩
  · exact Decimal.roundToZero_nonpos (mul_nonpos_of_nonpos_of_nonneg hm hr)
  · exact Decimal.roundToZero_nonpos
      (mul_nonpos_of_nonpos_of_nonneg hm (Rate.inverseValue_nonneg hr))

/-- Two factors, and two roundings towards zero: what comes back is no more than the
factors make of the amount. -/
theorem round_back_le {a b q f g c : Decimal} {dp dp' : Nat} (ha : 0 ≤ a) (hq : 0 ≤ q)
    (hqb : q ≤ b) (hb : b = Decimal.roundDpWithStrategy (a * f) dp .toZero) (hfg : f * g ≤ c)
    (hc : 0 ≤ c) : Decimal.roundDpWithStrategy (q * g) dp' .toZero ≤ a * c := by
  have hac : 0 ≤ a * c := mul_nonneg ha hc
  rcases le_or_gt 0 g with hg | hg
  · refine (Decimal.roundToZero_le (mul_nonneg hq hg)).trans ?_
    rcases le_or_gt 0 f with hf | hf
    · have hle : q ≤ a * f := hqb.trans (hb.le.trans (Decimal.roundToZero_le (mul_nonneg ha hf)))
      calc q * g ≤ a * f * g := mul_le_mul_of_nonneg_right hle hg
        _ = a * (f * g) := mul_assoc a f g
        _ ≤ a * c := mul_le_mul_of_nonneg_left hfg ha
    · have hzero : q ≤ 0 := hqb.trans
        (hb.le.trans (Decimal.roundToZero_nonpos (mul_nonpos_of_nonneg_of_nonpos ha hf.le)))
      exact (mul_nonpos_of_nonpos_of_nonneg hzero hg).trans hac
  · exact (Decimal.roundToZero_nonpos (mul_nonpos_of_nonneg_of_nonpos hq hg.le)).trans hac

/-- What is not more than an amount was worth is, changed back, not worth more than the
amount and what the inverse gains on it. -/
theorem exchange_back_le {a b q x : Money} {rate : Rate} (hab : a.exchange rate = .ok (.ok b))
    (hqx : q.exchange rate = .ok (.ok x)) (hne : a.currency ≠ b.currency)
    (hcur : q.currency = b.currency) (ha : 0 ≤ a.value) (hq : 0 ≤ q.value)
    (hqb : q.value ≤ b.value) : x.value ≤ a.value * max 1 (Rate.roundTrip rate.value) := by
  have hc : 0 ≤ max 1 (Rate.roundTrip rate.value) := zero_le_one.trans (le_max_left _ _)
  rcases exchange_eq_ok hab with ⟨hbase, rfl⟩ | ⟨hbase, hquote, hr, rfl⟩
  · have hcur : q.currency = rate.quote := hcur
    have hne : a.currency ≠ rate.quote := hne
    rcases exchange_eq_ok hqx with ⟨hbase', -⟩ | ⟨-, -, hr, rfl⟩
    · exact absurd (hbase.trans (hbase'.symm.trans hcur)) hne
    · exact round_back_le ha hq hqb rfl (le_max_right _ _) hc
  · have hcur : q.currency = rate.base := hcur
    rcases exchange_eq_ok hqx with ⟨-, rfl⟩ | ⟨hbase', -⟩
    · refine round_back_le ha hq hqb rfl ?_ hc
      rw [mul_comm]
      exact le_max_right _ _
    · exact absurd hcur hbase'

/-- What an exchange at a factor cuts off. -/
def cutOff (value factor : Decimal) (c : Currency) : Decimal :=
  value * factor - normalizedValue (value * factor) c

/-- The way there at one factor and back at another ends where it began: what the factors
gain on the amount makes up for what the first exchange cuts off, at the second factor,
and for less than one more unit of the last place. -/
def ReturnsAt (value there back : Decimal) (c c' : Currency) : Prop :=
  cutOff value there c' * back ≤ value * (there * back - 1) ∧
    value * (there * back - 1) < cutOff value there c' * back + 1 / 10 ^ c.dp

/-- An amount comes back if what the way there cuts off is made up for, and no more. -/
theorem round_back_eq_iff {a b f g : Decimal} {c c' : Currency} (ha : 0 < a)
    (hb : b = normalizedValue (a * f) c') (hdp : Decimal.HasDp c.dp a) :
    normalizedValue (b * g) c = a ↔ ReturnsAt a f g c c' := by
  unfold normalizedValue
  rw [Decimal.roundToZero_eq_iff hdp ha]
  unfold ReturnsAt cutOff
  rw [← hb]
  have hgain : a * (f * g - 1) - (a * f - b) * g = b * g - a := by ring
  constructor
  · intro h
    constructor <;> linarith
  · intro h
    constructor <;> linarith

/-- Factors that never gain bring an amount back exactly if nothing is lost at any step. -/
theorem returnsAt_iff_exact {a f g : Decimal} {c c' : Currency} (ha : 0 < a) (hf : 0 < f)
    (hg : 0 < g) (hfg : f * g ≤ 1) :
    ReturnsAt a f g c c' ↔ f * g = 1 ∧ Decimal.HasDp c'.dp (a * f) := by
  have hcut : 0 ≤ cutOff a f c' := sub_nonneg.mpr (Decimal.roundToZero_le (mul_pos ha hf).le)
  unfold ReturnsAt
  constructor
  · intro h
    have hlost : 0 ≤ cutOff a f c' * g := mul_nonneg hcut hg.le
    have hgain : a * (f * g - 1) ≤ 0 :=
      mul_nonpos_of_nonneg_of_nonpos ha.le (sub_nonpos.mpr hfg)
    -- so nothing is gained and nothing is lost
    have hone : a * (f * g - 1) = 0 := le_antisymm hgain (hlost.trans h.1)
    have hzero : cutOff a f c' * g = 0 := le_antisymm (h.1.trans hgain) hlost
    refine ⟨sub_eq_zero.mp ((mul_eq_zero.mp hone).resolve_left ha.ne'), ?_⟩
    have hexact := sub_eq_zero.mp ((mul_eq_zero.mp hzero).resolve_right hg.ne')
    rw [hexact]
    exact Decimal.roundDp_hasDp _ _ _
  · intro h
    have hzero : cutOff a f c' = 0 := sub_eq_zero.mpr (Decimal.roundDp_eq_self h.2).symm
    rw [hzero, h.1, sub_self, mul_zero, zero_mul, zero_add]
    exact ⟨le_rfl, by positivity⟩

/-- At 20000 dollars 505 satoshis are 0.101 dollars, and come back. -/
example : ReturnsAt (505 / 10 ^ 8) 20000 (1 / 20000) .BTC .USD :=
  (returnsAt_iff_exact (by norm_num) (by norm_num) (by norm_num) (by norm_num)).mpr
    ⟨by norm_num, 101000, by norm_num [Currency.dp]⟩

/-- Changing `m` into `c` at this rate, and back, brings it back. -/
def Reversible (m : Money) (rate : Rate) (c : Currency) : Prop :=
  if m.currency = rate.base then
    ReturnsAt m.value rate.value (Rate.inverseValue rate.value) m.currency c
  else
    ReturnsAt m.value (Rate.inverseValue rate.value) rate.value m.currency c

/-- What an amount was worth is, changed back, the amount if and only if the way there and
back brings it back. -/
theorem exchange_back_eq_iff {a b x : Money} {rate : Rate} (hab : a.exchange rate = .ok (.ok b))
    (hbx : b.exchange rate = .ok (.ok x)) (hne : a.currency ≠ b.currency)
    (hdp : Decimal.HasDp a.currency.dp a.value) (ha : 0 < a.value) :
    x.value = a.value ↔ a.Reversible rate b.currency := by
  unfold Reversible
  rcases exchange_eq_ok hab with ⟨hbase, hb⟩ | ⟨hbase, hquote, -, hb⟩
  · have hbc : b.currency = rate.quote := by rw [hb]; rfl
    rcases exchange_eq_ok hbx with ⟨hbase', -⟩ | ⟨-, -, -, rfl⟩
    · exact absurd (hbase.trans hbase'.symm) hne
    · rw [if_pos hbase, hbc, hbase]
      exact round_back_eq_iff ha (by rw [hb]; rfl) (by rw [← hbase]; exact hdp)
  · have hbc : b.currency = rate.base := by rw [hb]; rfl
    rcases exchange_eq_ok hbx with ⟨-, rfl⟩ | ⟨hbase', -⟩
    · rw [if_neg hbase, hbc, hquote]
      exact round_back_eq_iff ha (by rw [hb]; rfl) (by rw [← hquote]; exact hdp)
    · exact absurd hbc hbase'

end Money

/-- The balance cut to the decimals of its currency. -/
def Account.normalize (a : Account) : Account :=
  { a with balance := Money.normalizedValue a.balance a.currency }

end Lndhubx
