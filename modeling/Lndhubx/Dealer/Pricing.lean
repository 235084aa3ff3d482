import Lndhubx.Dealer.ProcessMsg

/-!
# The rate and the fee at a price

`rateAt` computes a rate and the fee in it step by step, and every step can overflow. Here
is what it computes (`rateAt_eq_ok`): in both directions the fee is the share of the rate
that the spread takes, of what the value is worth without it. And here is when it does: at
a linear rate always, as far as the numbers are decimals (`rateAt_linear`); at an inverse
one if the value divided by the price is one too (`rateAt_inverse`).
-/

namespace Lndhubx

open Prog DealerEngine

namespace DealerEngine

/-- A number within a bound that fits into a decimal. -/
theorem abs_le_max {x b : Decimal} (h0 : 0 ≤ x) (hb : x ≤ b) (hmax : b ≤ Decimal.MAX) :
    |x| ≤ Decimal.MAX := by
  rw [abs_of_nonneg h0]
  exact hb.trans hmax

/-- One is in range. -/
theorem one_le_max : (1 : Decimal) ≤ Decimal.MAX := by
  unfold Decimal.MAX
  norm_num

/-- So is two. -/
theorem two_le_max : (2 : Decimal) ≤ Decimal.MAX := by
  unfold Decimal.MAX
  norm_num

/-- What the spread takes is a share of the rate. -/
theorem share_mem {rate user : Decimal} (hrate : 0 < rate) (h0 : 0 ≤ user) (h1 : user ≤ rate) :
    0 ≤ (rate - user) / rate ∧ (rate - user) / rate ≤ 1 := by
  refine ⟨div_nonneg (by linarith) hrate.le, ?_⟩
  rw [div_le_one hrate]
  linarith

/-- The spread is at least nothing and less than the price. -/
def SaneSpread (cfg : DealerConfig) : Prop := 0 ≤ cfg.spread ∧ cfg.spread < 2

variable [Rounding]

variable {cfg : DealerConfig} {conversion : ConversionInfo} {price value : Decimal} {charge : Bool}

/-! ## What is computed -/

/-- Half the spread, as the crate rounds it. -/
def halfSpread (cfg : DealerConfig) : Decimal := Rounding.round (cfg.spread / 2)

/-- What a price is multiplied with from the base currency. -/
def linearModifier (cfg : DealerConfig) (charge : Bool) : Decimal :=
  if charge then 1 - halfSpread cfg else 1

/-- What it is multiplied with the other way. -/
def inverseModifier (cfg : DealerConfig) (charge : Bool) : Decimal :=
  if charge then 1 + halfSpread cfg else 1

/-- The rate a user gets, before it is cut off. -/
def userRate (cfg : DealerConfig) (linear : Bool) (price : Decimal) (charge : Bool) : Decimal :=
  if linear then price * linearModifier cfg charge
  else Rounding.round (1 / (price * inverseModifier cfg charge))

/-- The rate without the spread. -/
def noFeeRate (linear : Bool) (price : Decimal) : Decimal :=
  if linear then price else Rounding.round (1 / price)

/-- What a fiat value is worth in the target currency, as the fee takes it. -/
def worth (linear : Bool) (price value : Decimal) : Decimal :=
  if linear then value else Rounding.round (value / price)

/-- The share of the rate that the spread takes. -/
def spreadShare (cfg : DealerConfig) (linear : Bool) (price : Decimal) (charge : Bool) : Decimal :=
  (noFeeRate linear price - userRate cfg linear price charge) / noFeeRate linear price

/-- The fee, before it is cut off. -/
def feeValue (cfg : DealerConfig) (linear : Bool) (price value : Decimal) (charge : Bool) :
    Decimal :=
  Rounding.round
    (Rounding.round (spreadShare cfg linear price charge) * worth linear price value)

/-- A rate and its fee in the currencies of a conversion. -/
def quotedAt (cfg : DealerConfig) (conversion : ConversionInfo) (price value : Decimal)
    (charge : Bool) : DealerEngine.Quoted :=
  (some (Rate.new conversion.fromCurrency conversion.toCurrency
      (userRate cfg conversion.isLinear price charge)),
    some (Money.new conversion.toCurrency
      (feeValue cfg conversion.isLinear price value charge)))

/-- Half the spread is what it is computed to. -/
theorem getHalfSpread_eq_ok {half : Decimal} (h : getHalfSpread cfg = .ok half) :
    half = halfSpread cfg := (Decimal.div_eq_ok.mp h).2.2

/-- So is the one modifier. -/
theorem linearModifier_of_run {modifier : Decimal}
    (h : (if charge then getLinearModifier cfg else return 1) = .ok modifier) :
    modifier = linearModifier cfg charge := by
  cases charge with
  | false => exact (Checked.pure_eq_ok.mp h).symm
  | true =>
    obtain ⟨half, hhalf, h⟩ := Checked.bind_eq_ok.mp h
    rw [(Decimal.sub_eq_ok.mp h).2, getHalfSpread_eq_ok hhalf]
    rfl

/-- So is the other. -/
theorem inverseModifier_of_run {modifier : Decimal}
    (h : (if charge then getInverseModifier cfg else return 1) = .ok modifier) :
    modifier = inverseModifier cfg charge := by
  cases charge with
  | false => exact (Checked.pure_eq_ok.mp h).symm
  | true =>
    obtain ⟨half, hhalf, h⟩ := Checked.bind_eq_ok.mp h
    rw [(Decimal.add_eq_ok.mp h).2, getHalfSpread_eq_ok hhalf]
    rfl

/-- A rate from the base currency. -/
theorem getLinearRate_eq_ok {r : Decimal} (h : getLinearRate cfg price charge = .ok r) :
    r = userRate cfg true price charge := by
  obtain ⟨modifier, hmod, h⟩ := Checked.bind_eq_ok.mp h
  rw [(Decimal.mul_eq_ok.mp h).2, linearModifier_of_run hmod]
  rfl

/-- A rate the other way. -/
theorem getInverseRate_eq_ok {r : Decimal} (h : getInverseRate cfg price charge = .ok r) :
    r = userRate cfg false price charge ∧ |price * inverseModifier cfg charge| ≤ Decimal.MAX := by
  obtain ⟨modifier, hmod, h⟩ := Checked.bind_eq_ok.mp h
  obtain ⟨x, hx, h⟩ := Checked.bind_eq_ok.mp h
  rw [inverseModifier_of_run hmod] at hx
  obtain ⟨hmax, rfl⟩ := Decimal.mul_eq_ok.mp hx
  exact ⟨(Decimal.div_eq_ok.mp h).2.2, hmax⟩

/-- What a lookup at a price yields. -/
theorem rateAt_eq_ok {quoted : DealerEngine.Quoted}
    (h : rateAt cfg conversion price value charge = .ok quoted) :
    price ≠ 0 ∧ quoted = quotedAt cfg conversion price value charge ∧
      (conversion.isLinear = false → |price * inverseModifier cfg charge| ≤ Decimal.MAX ∧
        noFeeRate false price ≠ 0) := by
  unfold rateAt at h
  unfold quotedAt feeValue
  by_cases hlinear : conversion.isLinear = true
  · rw [if_pos hlinear] at h
    obtain ⟨user, huser, h⟩ := Checked.bind_eq_ok.mp h
    obtain ⟨diff, hdiff, h⟩ := Checked.bind_eq_ok.mp h
    obtain ⟨share, hshare, h⟩ := Checked.bind_eq_ok.mp h
    obtain ⟨fee, hfee, h⟩ := Checked.bind_eq_ok.mp h
    have hprice := (Decimal.div_eq_ok.mp hshare).1
    rw [← Checked.pure_eq_ok.mp h, (Decimal.mulRounded_eq_ok.mp hfee).2,
      (Decimal.div_eq_ok.mp hshare).2.2,
      (Decimal.sub_eq_ok.mp hdiff).2, getLinearRate_eq_ok huser, hlinear]
    exact ⟨hprice, rfl, fun h => absurd h (by simp)⟩
  · rw [if_neg hlinear] at h
    rw [Bool.not_eq_true] at hlinear
    obtain ⟨noFee, hnoFee, h⟩ := Checked.bind_eq_ok.mp h
    obtain ⟨user, huser, h⟩ := Checked.bind_eq_ok.mp h
    obtain ⟨diff, hdiff, h⟩ := Checked.bind_eq_ok.mp h
    obtain ⟨share, hshare, h⟩ := Checked.bind_eq_ok.mp h
    obtain ⟨worth, hworth, h⟩ := Checked.bind_eq_ok.mp h
    obtain ⟨fee, hfee, h⟩ := Checked.bind_eq_ok.mp h
    have hprice := (Decimal.div_eq_ok.mp hnoFee).1
    obtain ⟨hrate, hmax⟩ := getInverseRate_eq_ok huser
    have hne := (Decimal.div_eq_ok.mp hshare).1
    rw [(Decimal.div_eq_ok.mp hnoFee).2.2] at hne
    rw [← Checked.pure_eq_ok.mp h, (Decimal.mulRounded_eq_ok.mp hfee).2,
      (Decimal.div_eq_ok.mp hshare).2.2,
      (Decimal.sub_eq_ok.mp hdiff).2, (Decimal.div_eq_ok.mp hworth).2.2,
      (Decimal.div_eq_ok.mp hnoFee).2.2, hrate, hlinear]
    exact ⟨hprice, rfl, fun _ => ⟨hmax, hne⟩⟩

/-! ## When it is computed -/

/-- Half of a sane spread is between nothing and one. -/
theorem halfSpread_mem (h : SaneSpread cfg) : 0 ≤ halfSpread cfg ∧ halfSpread cfg ≤ 1 := by
  constructor
  · exact Rounding.round_nonneg (by linarith [h.1])
  · calc halfSpread cfg ≤ Rounding.round 1 := Rounding.mono (by linarith [h.2])
      _ = 1 := Rounding.round_one

/-- So is what is left of a price. -/
theorem linearModifier_mem (h : SaneSpread cfg) (charge : Bool) :
    0 ≤ linearModifier cfg charge ∧ linearModifier cfg charge ≤ 1 := by
  obtain ⟨h0, h1⟩ := halfSpread_mem h
  unfold linearModifier
  cases charge with
  | false => exact ⟨zero_le_one, le_refl _⟩
  | true =>
    rw [if_pos rfl]
    constructor
    · linarith
    · linarith

/-- The other way a price at most doubles. -/
theorem inverseModifier_mem (h : SaneSpread cfg) (charge : Bool) :
    1 ≤ inverseModifier cfg charge ∧ inverseModifier cfg charge ≤ 2 := by
  obtain ⟨h0, h1⟩ := halfSpread_mem h
  unfold inverseModifier
  cases charge with
  | false => exact ⟨le_refl _, one_le_two⟩
  | true =>
    rw [if_pos rfl]
    constructor
    · linarith
    · linarith

/-- The spread makes a linear rate smaller. -/
theorem userRate_linear_le (h : SaneSpread cfg) (hprice : 0 < price) (charge : Bool) :
    0 ≤ userRate cfg true price charge ∧ userRate cfg true price charge ≤ price := by
  obtain ⟨h0, h1⟩ := linearModifier_mem h charge
  exact ⟨mul_nonneg hprice.le h0, mul_le_of_le_one_right hprice.le h1⟩

/-- And an inverse one. -/
theorem userRate_inverse_le (h : SaneSpread cfg) (hprice : 0 < price) (charge : Bool) :
    0 ≤ userRate cfg false price charge ∧
      userRate cfg false price charge ≤ noFeeRate false price := by
  obtain ⟨h1, -⟩ := inverseModifier_mem h charge
  have hle : price ≤ price * inverseModifier cfg charge := le_mul_of_one_le_right hprice.le h1
  exact ⟨Rounding.round_nonneg (div_nonneg zero_le_one (hprice.le.trans hle)),
    Rounding.mono (one_div_le_one_div_of_le hprice hle)⟩

/-- Half of a sane spread is computed. -/
theorem getHalfSpread_returns (h : SaneSpread cfg) : getHalfSpread cfg = .ok (halfSpread cfg) :=
  Decimal.div_returns two_ne_zero
    (abs_le_max (by linarith [h.1]) (by linarith [h.2]) one_le_max)

/-- So is the one modifier. -/
theorem linearModifier_returns (h : SaneSpread cfg) (charge : Bool) :
    (if charge then getLinearModifier cfg else return 1) = .ok (linearModifier cfg charge) := by
  obtain ⟨h0, h1⟩ := linearModifier_mem h charge
  cases charge with
  | false => rfl
  | true => exact Checked.bind_eq_ok.mpr ⟨_, getHalfSpread_returns h,
      Decimal.sub_eq_ok.mpr ⟨abs_le_max h0 h1 one_le_max, rfl⟩⟩

/-- So is the other. -/
theorem inverseModifier_returns (h : SaneSpread cfg) (charge : Bool) :
    (if charge then getInverseModifier cfg else return 1) = .ok (inverseModifier cfg charge) := by
  obtain ⟨h1, h2⟩ := inverseModifier_mem h charge
  cases charge with
  | false => rfl
  | true => exact Checked.bind_eq_ok.mpr ⟨_, getHalfSpread_returns h,
      Decimal.add_eq_ok.mpr ⟨abs_le_max (zero_le_one.trans h1) h2 two_le_max, rfl⟩⟩

/-- The share of the spread is computed. -/
theorem share_returns {rate user : Decimal} (hrate : 0 < rate) (hmax : rate ≤ Decimal.MAX)
    (h0 : 0 ≤ user) (h1 : user ≤ rate) :
    Decimal.sub rate user = .ok (rate - user) ∧
      Decimal.div (rate - user) rate = .ok (Rounding.round ((rate - user) / rate)) := by
  obtain ⟨hs0, hs1⟩ := share_mem hrate h0 h1
  constructor
  · exact Decimal.sub_eq_ok.mpr ⟨abs_le_max (by linarith) (by linarith) hmax, rfl⟩
  · exact Decimal.div_returns hrate.ne' (abs_le_max hs0 hs1 one_le_max)

/-- A share of a number that fits is a number that fits. -/
theorem shareOf_returns {share base : Decimal} (hs0 : 0 ≤ share) (hs1 : share ≤ 1) (h0 : 0 ≤ base)
    (hmax : base ≤ Decimal.MAX) :
    ∃ fee, Decimal.mulRounded (Rounding.round share) base = .ok fee := by
  have hr0 : 0 ≤ Rounding.round share := Rounding.round_nonneg hs0
  have hr1 : Rounding.round share ≤ 1 := (Rounding.mono hs1).trans Rounding.round_one.le
  exact ⟨_, Decimal.mulRounded_eq_ok.mpr ⟨Rounding.abs_round_le
    (abs_le_max (mul_nonneg hr0 h0) (mul_le_of_le_one_left h0 hr1) hmax), rfl⟩⟩

/-- A rate from the base currency at a sane price. -/
theorem rateAt_linear (charge : Bool) (hlinear : conversion.isLinear = true)
    (hspread : SaneSpread cfg) (hprice : 0 < price) (hmax : price ≤ Decimal.MAX)
    (h0 : 0 ≤ value) (h1 : value ≤ Decimal.MAX) :
    ∃ quoted, rateAt cfg conversion price value charge = .ok quoted := by
  obtain ⟨hr0, hr1⟩ := userRate_linear_le hspread hprice charge
  obtain ⟨hs0, hs1⟩ := share_mem hprice hr0 hr1
  obtain ⟨hsub, hdiv⟩ := share_returns hprice hmax hr0 hr1
  obtain ⟨fee, hfee⟩ := shareOf_returns hs0 hs1 h0 h1
  have huser : getLinearRate cfg price charge = .ok (userRate cfg true price charge) :=
    Checked.bind_eq_ok.mpr ⟨_, linearModifier_returns hspread charge,
      Decimal.mul_eq_ok.mpr ⟨abs_le_max hr0 hr1 hmax, rfl⟩⟩
  unfold rateAt
  rw [if_pos hlinear]
  exact ⟨_, Checked.bind_eq_ok.mpr ⟨_, huser, Checked.bind_eq_ok.mpr ⟨_, hsub,
    Checked.bind_eq_ok.mpr ⟨_, hdiv, Checked.bind_eq_ok.mpr ⟨_, hfee, rfl⟩⟩⟩⟩⟩

/-- At an inverse rate all that can overflow is what the value is worth. -/
theorem rateAt_inverse (charge : Bool) (hlinear : conversion.isLinear = false)
    (hspread : SaneSpread cfg) (hprice : 0 < price) (hinverse : 1 / price ≤ Decimal.MAX)
    (hnoFee : 0 < noFeeRate false price)
    (hmodified : price * inverseModifier cfg charge ≤ Decimal.MAX) (h0 : 0 ≤ value) :
    (worth false price value ≤ Decimal.MAX → ∃ quoted,
        rateAt cfg conversion price value charge = .ok quoted) ∧
      (¬worth false price value ≤ Decimal.MAX →
        rateAt cfg conversion price value charge = .error .overflow) := by
  obtain ⟨hr0, hr1⟩ := userRate_inverse_le hspread hprice charge
  obtain ⟨hs0, hs1⟩ := share_mem hnoFee hr0 hr1
  have hone : Decimal.div 1 price = .ok (noFeeRate false price) :=
    Decimal.div_returns hprice.ne' (abs_le_max (one_div_pos.mpr hprice).le hinverse (le_refl _))
  have hmax : noFeeRate false price ≤ Decimal.MAX :=
    (le_abs_self _).trans (Decimal.div_eq_ok.mp hone).2.1
  obtain ⟨hsub, hdiv⟩ := share_returns hnoFee hmax hr0 hr1
  obtain ⟨hm1, -⟩ := inverseModifier_mem hspread charge
  have hpos : 0 < price * inverseModifier cfg charge :=
    mul_pos hprice (zero_lt_one.trans_le hm1)
  have huser : getInverseRate cfg price charge = .ok (userRate cfg false price charge) :=
    Checked.bind_eq_ok.mpr ⟨_, inverseModifier_returns hspread charge, Checked.bind_eq_ok.mpr
      ⟨_, Decimal.mul_eq_ok.mpr ⟨abs_le_max hpos.le hmodified (le_refl _), rfl⟩,
        Decimal.div_eq_ok.mpr ⟨hpos.ne', abs_le_max hr0 hr1 hmax, rfl⟩⟩⟩
  have hworth0 : 0 ≤ worth false price value :=
    Rounding.round_nonneg (div_nonneg h0 hprice.le)
  unfold rateAt
  rw [if_neg (by simp [hlinear]), hone]
  constructor
  · intro hfits
    have hworth : Decimal.div value price = .ok (worth false price value) :=
      Decimal.div_eq_ok.mpr ⟨hprice.ne', abs_le_max hworth0 hfits (le_refl _), rfl⟩
    obtain ⟨fee, hfee⟩ := shareOf_returns hs0 hs1 hworth0 hfits
    exact ⟨_, Checked.bind_eq_ok.mpr ⟨_, rfl, Checked.bind_eq_ok.mpr ⟨_, huser,
      Checked.bind_eq_ok.mpr ⟨_, hsub, Checked.bind_eq_ok.mpr ⟨_, hdiv, Checked.bind_eq_ok.mpr
        ⟨_, hworth, Checked.bind_eq_ok.mpr ⟨_, hfee, rfl⟩⟩⟩⟩⟩⟩⟩
  · intro hlarge
    have hworth : Decimal.div value price = .error .overflow := by
      have hout : ¬|Rounding.round (value / price)| ≤ Decimal.MAX := by
        rw [abs_of_nonneg (show 0 ≤ Rounding.round (value / price) from hworth0)]
        exact hlarge
      unfold Decimal.div Decimal.inRange
      rw [if_neg hprice.ne', if_neg hout]
    show (getInverseRate cfg price charge >>= _) = _
    rw [huser]
    show (Decimal.sub _ _ >>= _) = _
    rw [hsub]
    show (Decimal.div _ _ >>= _) = _
    rw [hdiv]
    show (Decimal.div _ _ >>= _) = _
    rw [hworth]
    rfl

end DealerEngine

end Lndhubx
