import Lndhubx.Core.Types

/-!
# Changing money and changing it back

`Money::exchange` goes either way at one rate: along it, or along a freshly computed
inverse, which is rounded to the places a `Decimal` has room for and then cut. The cut
goes down; the rounding can go up, and then an amount that is changed there and back
comes back larger (`exchange_back_gains`). It is at most the last of 28 digits that is
gained, so no amount below `10 ^ 28` units of its last place, at a rate up to one, is
affected (`exchange_there_and_back`). The second exchange does not panic as long as what
comes back is in range: the inverse of a positive decimal is.
-/

namespace Lndhubx

/-- The smallest positive value is `10⁻²⁸`. -/
theorem Decimal.Representable.le_of_pos {x : Decimal} (h : Decimal.Representable x)
    (hpos : 0 < x) : 1 / 10 ^ 28 ≤ x := by
  obtain ⟨n, hn⟩ := h.hasDp
  have hn0 : (0 : Decimal) < n := by
    rw [hn] at hpos
    by_contra hle
    exact absurd hpos (not_lt.mpr (div_nonpos_of_nonpos_of_nonneg (not_lt.mp hle) (by positivity)))
  have hn1 : (1 : Decimal) ≤ n := by
    exact_mod_cast Int.cast_pos.mp hn0
  rw [hn]
  exact (div_le_div_iff_of_pos_right (by positivity)).mpr hn1

/-- So its inverse is in range. -/
theorem Decimal.Representable.inverse_le {x : Decimal} (h : Decimal.Representable x)
    (hpos : 0 < x) : |1 / x| ≤ Decimal.MAX := by
  rw [abs_of_pos (one_div_pos.mpr hpos)]
  calc 1 / x ≤ 1 / (1 / 10 ^ 28) := one_div_le_one_div_of_le (by positivity) (h.le_of_pos hpos)
    _ ≤ Decimal.MAX := by norm_num [Decimal.MAX]

namespace Money

/-- Along a rate: the exchange returns if the product is in range. -/
theorem exchange_along {m : Money} {rate : Rate} (h : m.currency = rate.base)
    (hrange : |m.value * rate.value| ≤ Decimal.MAX) :
    m.exchange rate = .ok (.ok (new rate.quote (m.value * rate.value))) := by
  have hmul : Decimal.mul m.value rate.value = .ok (m.value * rate.value) :=
    Decimal.mul_eq_ok.mpr ⟨hrange, rfl⟩
  unfold exchange
  rw [if_pos h, hmul]
  rfl

/-- Against a rate: the inverse has to be in range too. -/
theorem exchange_against {m : Money} {rate : Rate} (hbase : m.currency ≠ rate.base)
    (hquote : m.currency = rate.quote) (hrate : rate.value ≠ 0)
    (hinverse : |1 / rate.value| ≤ Decimal.MAX)
    (hrange : |m.value * Rate.inverseValue rate.value| ≤ Decimal.MAX) :
    m.exchange rate = .ok (.ok (new rate.base (m.value * Rate.inverseValue rate.value))) := by
  have hdiv : Decimal.div 1 rate.value = .ok (Decimal.fit (1 / rate.value)) :=
    Decimal.div_returns hrate hinverse
  have hmul : Decimal.mul m.value (Rate.inverseValue rate.value) = .ok _ :=
    Decimal.mul_eq_ok.mpr ⟨hrange, rfl⟩
  have hflip : rate.inverse = .ok ⟨rate.quote, rate.base, Rate.inverseValue rate.value⟩ := by
    unfold Rate.inverse
    rw [hdiv]
    rfl
  unfold exchange
  rw [if_neg hbase, if_pos hquote]
  exact Checked.bind_eq_ok.mpr ⟨_, hflip, Checked.bind_eq_ok.mpr ⟨_, hmul, rfl⟩⟩

/-- What an exchange made of an amount goes back within what the factors make of it. -/
theorem round_back_range {a f g c : Decimal} {dp : Nat} (ha : 0 ≤ a) (hf : 0 ≤ f) (hg : 0 ≤ g)
    (hfg : f * g ≤ c) (hmax : a * c ≤ Decimal.MAX) :
    |Decimal.roundDpWithStrategy (a * f) dp .toZero * g| ≤ Decimal.MAX := by
  have hle : Decimal.roundDpWithStrategy (a * f) dp .toZero ≤ a * f :=
    Decimal.roundToZero_le (mul_nonneg ha hf)
  have hnonneg : 0 ≤ Decimal.roundDpWithStrategy (a * f) dp .toZero :=
    Decimal.roundToZero_nonneg (mul_nonneg ha hf)
  rw [abs_of_nonneg (mul_nonneg hnonneg hg)]
  calc Decimal.roundDpWithStrategy (a * f) dp .toZero * g
      ≤ a * f * g := mul_le_mul_of_nonneg_right hle hg
    _ = a * (f * g) := mul_assoc a f g
    _ ≤ a * c := mul_le_mul_of_nonneg_left hfg ha
    _ ≤ Decimal.MAX := hmax

/-- An exchange is refused exactly if the rate does not name the currency. -/
theorem exchange_refused_iff (m : Money) (rate : Rate) :
    (∃ e, m.exchange rate = .ok (.error e)) ↔
      m.currency ≠ rate.base ∧ m.currency ≠ rate.quote := by
  constructor
  · intro h
    obtain ⟨e, he⟩ := h
    unfold exchange at he
    split at he
    next =>
      obtain ⟨v, -, he⟩ := Checked.bind_eq_ok.mp he
      exact absurd (Checked.pure_eq_ok.mp he) (by simp)
    next hbase =>
      split at he
      next =>
        obtain ⟨flipped, -, he⟩ := Checked.bind_eq_ok.mp he
        obtain ⟨v, -, he⟩ := Checked.bind_eq_ok.mp he
        exact absurd (Checked.pure_eq_ok.mp he) (by simp)
      next hquote => exact ⟨hbase, hquote⟩
  · intro h
    unfold exchange
    rw [if_neg h.1, if_neg h.2]
    exact ⟨_, rfl⟩

theorem exchange_hasDp {m d : Money} {rate : Rate} (h : m.exchange rate = .ok (.ok d)) :
    Decimal.HasDp d.currency.dp d.value := by
  rcases exchange_eq_ok h with ⟨-, rfl⟩ | ⟨-, -, -, rfl⟩
  · exact Decimal.roundDp_hasDp _ _ _
  · exact Decimal.roundDp_hasDp _ _ _

theorem exchange_nonneg {m d : Money} {rate : Rate} (h : m.exchange rate = .ok (.ok d))
    (hr : 0 ≤ rate.value) (hm : 0 ≤ m.value) : 0 ≤ d.value := by
  rcases exchange_eq_ok h with ⟨-, rfl⟩ | ⟨-, -, -, rfl⟩
  · exact Decimal.roundToZero_nonneg (mul_nonneg hm hr)
  · exact Decimal.roundToZero_nonneg (mul_nonneg hm (Rate.inverseValue_nonneg hr))

/-- An exchange into another currency names two of them. -/
theorem exchange_distinct {m b : Money} {rate : Rate} (hb : m.exchange rate = .ok (.ok b))
    (hne : m.currency ≠ b.currency) : rate.base ≠ rate.quote := by
  intro hsame
  rcases exchange_eq_ok hb with ⟨hbase, rfl⟩ | ⟨hbase, hquote, -, -⟩
  · exact hne (hbase.trans hsame)
  · exact hbase (hquote.trans hsame.symm)

/-- An exchange leads into the other currency of the rate, and the next one back. -/
theorem exchange_currency {m b : Money} {rate : Rate} (hdistinct : rate.base ≠ rate.quote)
    (hb : m.exchange rate = .ok (.ok b)) :
    m.currency ≠ b.currency ∧ ∀ q x : Money, q.currency = b.currency →
      q.exchange rate = .ok (.ok x) → x.currency = m.currency := by
  rcases exchange_eq_ok hb with ⟨hbase, rfl⟩ | ⟨hbase, hquote, -, rfl⟩
  · have hne : (new rate.quote (m.value * rate.value)).currency ≠ rate.base := hdistinct.symm
    refine ⟨fun h => hne (h.symm.trans hbase), fun q x hq hx => ?_⟩
    rcases exchange_eq_ok hx with ⟨hbase', -⟩ | ⟨-, -, -, rfl⟩
    · exact absurd (hq.symm.trans hbase') hne
    · exact hbase.symm
  · refine ⟨fun h => hbase h, fun q x hq hx => ?_⟩
    rcases exchange_eq_ok hx with ⟨-, rfl⟩ | ⟨hbase', -⟩
    · exact hquote.symm
    · exact absurd hq hbase'

/-- An amount that is changed comes back in its own currency at the same rate. -/
theorem exchange_back_returns {m b : Money} {rate : Rate} (hdistinct : rate.base ≠ rate.quote)
    (hrate : Decimal.Representable rate.value) (hm : 0 ≤ m.value) (hr : 0 < rate.value)
    (hmax : m.value * max 1 (Rate.roundTrip rate.value) ≤ Decimal.MAX)
    (hb : m.exchange rate = .ok (.ok b)) :
    ∃ x, b.exchange rate = .ok (.ok x) ∧ x.currency = m.currency := by
  have hinv : 0 ≤ Rate.inverseValue rate.value := Rate.inverseValue_nonneg hr.le
  have hone : rate.value * Rate.inverseValue rate.value ≤ max 1 (Rate.roundTrip rate.value) :=
    le_max_right _ _
  rcases exchange_eq_ok hb with ⟨hbase, rfl⟩ | ⟨hbase, hquote, -, rfl⟩
  · exact ⟨_, exchange_against (Ne.symm hdistinct) rfl hr.ne' (hrate.inverse_le hr)
      (round_back_range hm hr.le hinv hone hmax), hbase.symm⟩
  · rw [mul_comm] at hone
    exact ⟨_, exchange_along rfl (round_back_range hm hinv hr.le hone hmax), hquote.symm⟩

/-- Less than one unit of the last place is gained on an amount that is small beside the
28 digits of a decimal. -/
theorem gain_lt {m : Money} {rate : Rate} (hm : 0 ≤ m.value) (hr : 0 < rate.value)
    (hsmall : m.value * max 1 rate.value < 10 ^ 28 / 10 ^ m.currency.dp) :
    m.value * Rate.roundTrip rate.value < m.value + 1 / 10 ^ m.currency.dp := by
  have hgain := Rate.roundTrip_le rate.value
  rw [abs_of_pos hr] at hgain
  calc m.value * Rate.roundTrip rate.value ≤ m.value * (1 + max 1 rate.value / 10 ^ 28) :=
        mul_le_mul_of_nonneg_left hgain hm
    _ = m.value + m.value * max 1 rate.value / 10 ^ 28 := by ring
    _ < m.value + 10 ^ 28 / 10 ^ m.currency.dp / 10 ^ 28 := by gcongr
    _ = m.value + 1 / 10 ^ m.currency.dp := by field_simp

/-- And less than one unit is nothing, once it is cut. -/
theorem le_of_gain_lt {m x : Money} {rate : Rate} (hdp : Decimal.HasDp m.currency.dp m.value)
    (hxdp : Decimal.HasDp m.currency.dp x.value)
    (hgain : m.value * Rate.roundTrip rate.value < m.value + 1 / 10 ^ m.currency.dp)
    (hle : x.value ≤ m.value * max 1 (Rate.roundTrip rate.value)) : x.value ≤ m.value := by
  rcases le_total (Rate.roundTrip rate.value) 1 with hone | hone
  · rwa [max_eq_left hone, mul_one] at hle
  · rw [max_eq_right hone] at hle
    exact hxdp.le_of_lt_add hdp (hle.trans_lt hgain)

/-- What is not more than an amount was worth is not worth more than the amount, where the
way back gains less than a unit of its last place. -/
theorem exchange_back_le_of_gain {a b q x : Money} {rate : Rate}
    (hab : a.exchange rate = .ok (.ok b)) (hqx : q.exchange rate = .ok (.ok x))
    (hne : a.currency ≠ b.currency) (hcur : q.currency = b.currency) (ha : 0 ≤ a.value)
    (hq : 0 ≤ q.value) (hqb : q.value ≤ b.value) (hdp : Decimal.HasDp a.currency.dp a.value)
    (hgain : a.value * Rate.roundTrip rate.value < a.value + 1 / 10 ^ a.currency.dp) :
    x.value ≤ a.value := by
  have hxdp : Decimal.HasDp x.currency.dp x.value := exchange_hasDp hqx
  rw [(exchange_currency (exchange_distinct hab hne) hab).2 q x hcur hqx] at hxdp
  exact le_of_gain_lt hdp hxdp hgain (exchange_back_le hab hqx hne hcur ha hq hqb)

/-- An amount that is not negative, changed at a positive rate between two currencies and
back at the same rate, comes back in its currency, and larger only by what the rounding of
the inverse gains: nothing if the rate and its inverse do not gain, and nothing if the
amount is small beside the 28 digits of a decimal. And an amount is refused exactly if the
rate does not name its currency. -/
theorem exchange_there_and_back {m : Money} {rate : Rate} (hdistinct : rate.base ≠ rate.quote)
    (hrate : Decimal.Representable rate.value) (hm : 0 ≤ m.value) (hr : 0 < rate.value) :
    (∀ b, m.exchange rate = .ok (.ok b) →
      (m.value * max 1 (Rate.roundTrip rate.value) ≤ Decimal.MAX →
        ∃ x, b.exchange rate = .ok (.ok x) ∧ x.currency = m.currency) ∧
      ∀ x, b.exchange rate = .ok (.ok x) →
        x.value ≤ m.value * max 1 (Rate.roundTrip rate.value) ∧
        (Rate.roundTrip rate.value ≤ 1 → x.value ≤ m.value) ∧
        (Decimal.HasDp m.currency.dp m.value →
          m.value * max 1 rate.value < 10 ^ 28 / 10 ^ m.currency.dp → x.value ≤ m.value)) ∧
    Rate.roundTrip rate.value ≤ 1 + max 1 rate.value / 10 ^ 28 ∧
    ((∃ e, m.exchange rate = .ok (.error e)) ↔
      m.currency ≠ rate.base ∧ m.currency ≠ rate.quote) := by
  refine ⟨fun b hb => ⟨fun hmax => ?_, fun x hx => ?_⟩, ?_, exchange_refused_iff m rate⟩
  · exact exchange_back_returns hdistinct hrate hm hr hmax hb
  · obtain ⟨hne, hcurrency⟩ := exchange_currency hdistinct hb
    have hbpos : 0 ≤ b.value := exchange_nonneg hb hr.le hm
    have hle := exchange_back_le hb hx hne rfl hm hbpos le_rfl
    refine ⟨hle, fun hone => ?_, fun hdp hsmall => ?_⟩
    · rwa [max_eq_left hone, mul_one] at hle
    · have hxdp : Decimal.HasDp x.currency.dp x.value := exchange_hasDp hx
      rw [hcurrency b x rfl hx] at hxdp
      exact le_of_gain_lt hdp hxdp (gain_lt hm hr hsmall) hle
  · have hbound := Rate.roundTrip_le rate.value
    rwa [abs_of_pos hr] at hbound

/-- Three euros against a rate of seven euros for a dollar, and back. -/
theorem exchange_there_and_back_sample :
    (∃ b, (Money.new .EUR 3).exchange (Rate.new .USD .EUR 7) = .ok (.ok b)) ∧
    ∀ b, (Money.new .EUR 3).exchange (Rate.new .USD .EUR 7) = .ok (.ok b) →
      (∃ x, b.exchange (Rate.new .USD .EUR 7) = .ok (.ok x) ∧
        x.currency = (Money.new .EUR 3).currency) ∧
      ∀ x, b.exchange (Rate.new .USD .EUR 7) = .ok (.ok x) →
        x.value ≤ (Money.new .EUR 3).value := by
  have hthree : (Money.new .EUR 3).value = 3 := by decide +kernel
  have hseven : (Rate.new .USD .EUR 7).value = 7 := by decide +kernel
  have hback := (@exchange_there_and_back (Money.new .EUR 3) (Rate.new .USD .EUR 7)
    (by decide) ⟨0, by decide, 7, by decide, by rw [hseven]; norm_num⟩ (by rw [hthree]; norm_num)
    (by rw [hseven]; norm_num)).1
  have hone : Rate.roundTrip (Rate.new .USD .EUR 7).value ≤ 1 := by decide +kernel
  constructor
  · refine ⟨_, exchange_against (by decide) rfl (by rw [hseven]; norm_num) ?_ ?_⟩
    · decide +kernel
    · decide +kernel
  · intro b hb
    refine ⟨(hback b hb).1 ?_, fun x hx => ((hback b hb).2 x hx).2.1 hone⟩
    rw [max_eq_left hone, mul_one, hthree]
    norm_num [Decimal.MAX]

/-- At a rate whose inverse is rounded up, a billion billion dollars come back as a
millionth more. -/
theorem exchange_back_gains : ∃ (m b x : Money) (rate : Rate), rate.base ≠ rate.quote ∧
    0 ≤ m.value ∧ 0 < rate.value ∧ 0 < Rate.inverseValue rate.value ∧
    m.exchange rate = .ok (.ok b) ∧ b.exchange rate = .ok (.ok x) ∧ m.value < x.value := by
  refine ⟨Money.new .USD (10 ^ 18), ⟨.BTC, 5882353000000⟩, ⟨.USD, 10 ^ 18 + 1 / 10 ^ 6⟩,
    Rate.new .BTC .USD 169999.998300000017, ?_, ?_, ?_, ?_, ?_, ?_, ?_⟩
  · decide
  · decide +kernel
  · decide +kernel
  · decide +kernel
  · decide +kernel
  · decide +kernel
  · decide +kernel

end Money

end Lndhubx
