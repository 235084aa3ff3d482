import Mathlib.Data.Rat.Floor
import Mathlib.Tactic.Linarith
import Mathlib.Tactic.Positivity
import Mathlib.Tactic.FieldSimp
import Mathlib.Tactic.NormNum

/-!
# `Decimal`: the number type of every balance, amount and rate

The source computes with `rust_decimal::Decimal`, a 96-bit mantissa with a
decimal scale. Here a `Decimal` is its value, a rational number. Three
things about the crate matter to the bank and are kept:

* results are bounded: an operation whose result leaves `[-MAX, MAX]` panics
  (`inRange`, `add`, `sub`, `mul`);
* rounding to a number of decimal places, in the strategies the source uses
  (`roundDpWithStrategy`, `roundDp`);
* conversion to machine integers is partial and truncates (`toU64`, `toI64`).

Quotients, and what the crate makes of a number that has more places than fit, are in
`Core/Rounding`. What is not kept is the scale of a representation (`1.0` and `1.00` are
the same value) and, in `add`, `sub` and `mul`, the rounding of a result that would need
more than 96 bits of mantissa *below* the decimal point; `mulRounded` of `Core/Rounding`
is the product where a factor may fill all the places there are.
-/

namespace Lndhubx

/-- Why a call of the engine panics. `explicit` carries the text given to
`panic!`, `expect` or `unwrap_or_else`, without the values printed into it. -/
inductive Panic where
  | overflow
  | divisionByZero
  | unwrap
  | assertion
  | explicit (text : String)
  deriving DecidableEq

/-- A computation without state that may panic. -/
abbrev Checked : Type → Type := Except Panic

namespace Checked

/-- `Option::unwrap`. -/
def unwrap {α : Type} : Option α → Checked α
  | some a => .ok a
  | none => .error .unwrap

/-- `Result::unwrap`. -/
def unwrapOk {α ε : Type} : Except ε α → Checked α
  | .ok a => .ok a
  | .error _ => .error .unwrap

/-- An `unwrap` that returns. -/
theorem unwrap_eq_ok {α : Type} {x : Option α} {a : α} : unwrap x = .ok a ↔ x = some a := by
  cases x <;> simp [unwrap]

/-- The same of a result. -/
theorem unwrapOk_eq_ok {α ε : Type} {x : Except ε α} {a : α} :
    unwrapOk x = .ok a ↔ x = .ok a := by
  cases x <;> simp [unwrapOk]

/-- A sequence of two steps returned exactly if each of them did. -/
theorem bind_eq_ok {α β : Type} {x : Checked α} {f : α → Checked β} {b : β} :
    x >>= f = .ok b ↔ ∃ a, x = .ok a ∧ f a = .ok b := by
  cases x with
  | error e =>
    exact ⟨fun h => absurd h (by simp [bind, Except.bind]), fun ⟨a, h, _⟩ => absurd h (by simp)⟩
  | ok a =>
    refine ⟨fun h => ⟨a, rfl, h⟩, ?_⟩
    intro hspec
    obtain ⟨a', h, hf⟩ := hspec
    injection h with h
    rw [h]
    exact hf

/-- It panicked as one of them did. -/
theorem bind_eq_error {α β : Type} {x : Checked α} {f : α → Checked β} {e : Panic}
    (h : x >>= f = .error e) : x = .error e ∨ ∃ a, x = .ok a ∧ f a = .error e := by
  cases x with
  | error e' =>
    left
    injection (show (.error e' : Checked β) = .error e from h) with h
    rw [h]
  | ok a => exact .inr ⟨a, rfl, h⟩

/-- A value is returned as it is. -/
theorem pure_eq_ok {α : Type} {a b : α} : (pure a : Checked α) = .ok b ↔ a = b :=
  ⟨fun h => by injection h, fun h => by rw [h]; rfl⟩

end Checked

/-- A `rust_decimal` number, by its value. -/
abbrev Decimal := ℚ

/-- The rounding strategies the source asks for. -/
inductive RoundingStrategy where
  | toZero
  | awayFromZero
  | midpointNearestEven
  deriving DecidableEq

namespace Decimal

/-- `Decimal::MAX`, the largest 96-bit mantissa at scale 0. -/
def MAX : Decimal := 2 ^ 96 - 1

/-- The overflow check shared by the arithmetic operators. -/
def inRange (x : Decimal) : Checked Decimal :=
  if |x| ≤ MAX then .ok x else .error .overflow

/-- The sum, or a panic. -/
def add (a b : Decimal) : Checked Decimal := inRange (a + b)

/-- The difference, or a panic. -/
def sub (a b : Decimal) : Checked Decimal := inRange (a - b)

/-- The product, or a panic. -/
def mul (a b : Decimal) : Checked Decimal := inRange (a * b)

/-- Rounding to a whole number under a strategy. -/
def roundInt (strategy : RoundingStrategy) (x : Decimal) : ℤ :=
  match strategy with
  | .toZero => if 0 ≤ x then ⌊x⌋ else ⌈x⌉
  | .awayFromZero => if 0 ≤ x then ⌈x⌉ else ⌊x⌋
  | .midpointNearestEven =>
    if x - ⌊x⌋ < 1 / 2 then ⌊x⌋
    else if 1 / 2 < x - ⌊x⌋ then ⌊x⌋ + 1
    else if ⌊x⌋ % 2 = 0 then ⌊x⌋ else ⌊x⌋ + 1

/-- Rounding to a number of decimals. -/
def roundDpWithStrategy (x : Decimal) (dp : Nat) (strategy : RoundingStrategy) : Decimal :=
  roundInt strategy (x * 10 ^ dp) / 10 ^ dp

/-- `Decimal::round_dp` rounds midpoints to even. -/
def roundDp (x : Decimal) (dp : Nat) : Decimal :=
  roundDpWithStrategy x dp .midpointNearestEven

/-- `Decimal::to_u64`: the fraction is dropped; negative and too large values
have no image. -/
def toU64 (x : Decimal) : Option Nat :=
  if 0 ≤ x ∧ ⌊x⌋ < 2 ^ 64 then some ⌊x⌋.toNat else none

/-- `Decimal::to_i64`, truncating likewise. -/
def toI64 (x : Decimal) : Option Int :=
  if -2 ^ 63 ≤ roundInt .toZero x ∧ roundInt .toZero x < 2 ^ 63 then some (roundInt .toZero x)
  else none

/-- `Decimal::from_str` applied to the printed form of an unbounded decimal:
it fails exactly when the number does not fit. -/
def fromBigDecimal (x : ℚ) : Option Decimal :=
  if |x| ≤ MAX then some x else none

/-! ## Checked operators that returned -/

/-- A result in range is the value itself. -/
theorem inRange_eq_ok {x y : Decimal} : inRange x = .ok y ↔ |x| ≤ MAX ∧ y = x := by
  unfold inRange
  split
  next h => exact ⟨fun e => ⟨h, by injection e with e; exact e.symm⟩, fun e => by rw [e.2]⟩
  next h => exact ⟨fun e => absurd e (by simp), fun e => absurd e.1 h⟩

/-- A sum that fits. -/
theorem add_eq_ok {a b y : Decimal} : add a b = .ok y ↔ |a + b| ≤ MAX ∧ y = a + b :=
  inRange_eq_ok

/-- A difference that fits. -/
theorem sub_eq_ok {a b y : Decimal} : sub a b = .ok y ↔ |a - b| ≤ MAX ∧ y = a - b :=
  inRange_eq_ok

/-- A product that fits. -/
theorem mul_eq_ok {a b y : Decimal} : mul a b = .ok y ↔ |a * b| ≤ MAX ∧ y = a * b :=
  inRange_eq_ok

/-- A conversion to `u64` drops the fraction. -/
theorem toU64_eq_some {x : Decimal} {n : Nat} (h : x.toU64 = some n) :
    0 ≤ x ∧ n < 2 ^ 64 ∧ (n : ℤ) = ⌊x⌋ := by
  unfold toU64 at h
  split at h
  next hrange =>
    injection h with h
    have hfloor : 0 ≤ ⌊x⌋ := Int.floor_nonneg.mpr hrange.1
    exact ⟨hrange.1, by omega, by omega⟩
  next => exact absurd h (by simp)

/-! ## Checked operators that panicked -/

/-- Out of range is an overflow. -/
theorem inRange_eq_error {x : Decimal} {e : Panic} (h : inRange x = .error e) : e = .overflow := by
  unfold inRange at h
  split at h
  next => exact absurd h (by simp)
  next => injection h with h; exact h.symm

/-- A loop panics as one of its rounds does. -/
theorem foldlM_overflow {α β : Type} {f : β → α → Checked β} {l : List α} {b : β} {e : Panic}
    (hf : ∀ b a e, f b a = .error e → e = .overflow) (h : l.foldlM f b = .error e) :
    e = .overflow := by
  induction l generalizing b with
  | nil => exact absurd h (by simp [pure, Except.pure])
  | cons a l ih =>
    rw [List.foldlM_cons] at h
    rcases Checked.bind_eq_error h with h | ⟨b', -, h⟩
    · exact hf b a e h
    · exact ih h

/-! ## Whole numbers -/

/-- A whole number has no decimals to lose. -/
theorem roundDp_intCast (n : ℤ) : roundDp n 0 = n := by
  unfold roundDp roundDpWithStrategy roundInt
  norm_num

/-- A whole number converts as it is, if it fits. -/
theorem toI64_intCast (n : ℤ) :
    toI64 n = if -2 ^ 63 ≤ n ∧ n < 2 ^ 63 then some n else none := by
  have hround : roundInt .toZero (n : Decimal) = n := by
    unfold roundInt
    simp
  unfold toI64
  rw [hround]

/-! ## Rounding towards zero -/

/-- `x` is a multiple of `10 ^ -dp`: it has at most `dp` decimal places. -/
def HasDp (dp : Nat) (x : Decimal) : Prop := ∃ n : ℤ, x = n / 10 ^ dp

/-- What was rounded has no more decimals. -/
theorem roundDp_hasDp (x : Decimal) (dp : Nat) (st : RoundingStrategy) :
    HasDp dp (roundDpWithStrategy x dp st) := ⟨_, rfl⟩

/-- Sums take no new decimals. -/
theorem HasDp.add {dp : Nat} {x y : Decimal} (hx : HasDp dp x) (hy : HasDp dp y) :
    HasDp dp (x + y) := by
  obtain ⟨m, rfl⟩ := hx
  obtain ⟨n, rfl⟩ := hy
  exact ⟨m + n, by push_cast; ring⟩

/-- A change of sign takes none. -/
theorem HasDp.neg {dp : Nat} {x : Decimal} (hx : HasDp dp x) : HasDp dp (-x) := by
  obtain ⟨m, rfl⟩ := hx
  exact ⟨-m, by push_cast; ring⟩

/-- Differences take none. -/
theorem HasDp.sub {dp : Nat} {x y : Decimal} (hx : HasDp dp x) (hy : HasDp dp y) :
    HasDp dp (x - y) := by
  rw [sub_eq_add_neg]
  exact hx.add hy.neg

/-- Numbers of so many places are a unit of the last place apart. -/
theorem HasDp.le_of_lt_add {dp : Nat} {x y : Decimal} (hx : HasDp dp x) (hy : HasDp dp y)
    (h : x < y + 1 / 10 ^ dp) : x ≤ y := by
  have hp : (0 : ℚ) < 10 ^ dp := by positivity
  obtain ⟨m, rfl⟩ := hx
  obtain ⟨n, rfl⟩ := hy
  rw [← add_div, div_lt_div_iff_of_pos_right hp] at h
  have hmn : m < n + 1 := by exact_mod_cast h
  gcongr
  omega

/-- Rounding changes nothing where there is nothing to round. -/
theorem roundDp_eq_self {x : Decimal} {dp : Nat} (h : HasDp dp x) :
    roundDpWithStrategy x dp .toZero = x := by
  obtain ⟨n, rfl⟩ := h
  have hp : (10 : ℚ) ^ dp ≠ 0 := by positivity
  unfold roundDpWithStrategy
  rw [div_mul_cancel₀ _ hp]
  simp [roundInt]

/-- A cut takes something away. -/
theorem roundToZero_le {x : Decimal} {dp : Nat} (h : 0 ≤ x) :
    roundDpWithStrategy x dp .toZero ≤ x := by
  have hp : (0 : ℚ) < 10 ^ dp := by positivity
  unfold roundDpWithStrategy
  rw [div_le_iff₀ hp]
  simp only [roundInt, if_pos (mul_nonneg h hp.le)]
  exact Int.floor_le _

/-- Below zero it adds something. -/
theorem le_roundToZero {x : Decimal} {dp : Nat} (h : x ≤ 0) :
    x ≤ roundDpWithStrategy x dp .toZero := by
  have hp : (0 : ℚ) < 10 ^ dp := by positivity
  unfold roundDpWithStrategy
  rw [le_div_iff₀ hp]
  by_cases hm : 0 ≤ x * 10 ^ dp
  · have hx : x = 0 := le_antisymm h (nonneg_of_mul_nonneg_left hm hp)
    simp [hx, roundInt]
  · simp only [roundInt, if_neg hm]
    exact Int.le_ceil _

/-- A cut does not pass zero from below. -/
theorem roundToZero_nonpos {x : Decimal} {dp : Nat} (h : x ≤ 0) :
    roundDpWithStrategy x dp .toZero ≤ 0 := by
  have hp : (0 : ℚ) < 10 ^ dp := by positivity
  have hm : x * 10 ^ dp ≤ 0 := mul_nonpos_of_nonpos_of_nonneg h hp.le
  unfold roundDpWithStrategy
  refine div_nonpos_of_nonpos_of_nonneg ?_ hp.le
  by_cases h0 : 0 ≤ x * 10 ^ dp
  · rw [le_antisymm hm h0]
    simp [roundInt]
  · simp only [roundInt, if_neg h0]
    exact_mod_cast Int.ceil_nonpos.mpr hm

/-- Nor from above. -/
theorem roundToZero_nonneg {x : Decimal} {dp : Nat} (h : 0 ≤ x) :
    0 ≤ roundDpWithStrategy x dp .toZero := by
  have hp : (0 : ℚ) < 10 ^ dp := by positivity
  have hm : 0 ≤ x * 10 ^ dp := mul_nonneg h hp.le
  unfold roundDpWithStrategy
  simp only [roundInt, if_pos hm]
  exact div_nonneg (by exact_mod_cast Int.floor_nonneg.mpr hm) hp.le

/-- Rounding towards zero takes less than one unit of the last place away. -/
theorem lt_roundToZero_add {x : Decimal} {dp : Nat} (h : 0 ≤ x) :
    x < roundDpWithStrategy x dp .toZero + 1 / 10 ^ dp := by
  have hp : (0 : ℚ) < 10 ^ dp := by positivity
  unfold roundDpWithStrategy
  rw [← add_div, lt_div_iff₀ hp]
  simp only [roundInt, if_pos (mul_nonneg h hp.le)]
  exact Int.lt_floor_add_one _

/-- A cut keeps the order. -/
theorem roundToZero_mono {x y : Decimal} {dp : Nat} (h0 : 0 ≤ x) (h : x ≤ y) :
    roundDpWithStrategy x dp .toZero ≤ roundDpWithStrategy y dp .toZero := by
  have hp : (0 : ℚ) < 10 ^ dp := by positivity
  have hscaled : x * 10 ^ dp ≤ y * 10 ^ dp := mul_le_mul_of_nonneg_right h hp.le
  have hx : 0 ≤ x * 10 ^ dp := mul_nonneg h0 hp.le
  have hfloor : ⌊x * 10 ^ dp⌋ ≤ ⌊y * 10 ^ dp⌋ := Int.floor_mono hscaled
  unfold roundDpWithStrategy
  simp only [roundInt, if_pos hx, if_pos (hx.trans hscaled)]
  exact div_le_div_of_nonneg_right (by exact_mod_cast hfloor) hp.le

/-- A cut treats both signs alike. -/
theorem roundToZero_neg (x : Decimal) (dp : Nat) :
    roundDpWithStrategy (-x) dp .toZero = -roundDpWithStrategy x dp .toZero := by
  unfold roundDpWithStrategy roundInt
  rw [neg_mul, ← neg_div]
  rcases lt_trichotomy 0 (x * 10 ^ dp) with h | h | h
  · simp [h.le, not_le.mpr h, Int.ceil_neg]
  · simp [← h]
  · simp [h.le, not_le.mpr h, Int.floor_neg]

/-- Rounding towards zero does not enlarge a number. -/
theorem abs_roundToZero_le (x : Decimal) (dp : Nat) :
    |roundDpWithStrategy x dp .toZero| ≤ |x| := by
  rcases le_total 0 x with h | h
  · rw [abs_of_nonneg h, abs_of_nonneg (roundToZero_nonneg h)]
    exact roundToZero_le h
  · rw [abs_of_nonpos h, abs_of_nonpos (roundToZero_nonpos h)]
    exact neg_le_neg (le_roundToZero h)

/-- Less than one unit of the last place is cut off. -/
theorem abs_roundToZero_sub_lt (x : Decimal) (dp : Nat) :
    |roundDpWithStrategy x dp .toZero - x| < 1 / 10 ^ dp := by
  have hcut {y : Decimal} (hy : 0 ≤ y) : |roundDpWithStrategy y dp .toZero - y| < 1 / 10 ^ dp := by
    have hle : roundDpWithStrategy y dp .toZero ≤ y := roundToZero_le hy
    have hlt : y < roundDpWithStrategy y dp .toZero + 1 / 10 ^ dp := lt_roundToZero_add hy
    rw [abs_lt]
    have hp : (0 : ℚ) < 1 / 10 ^ dp := by positivity
    constructor
    · linarith
    · linarith
  rcases le_total 0 x with hx | hx
  · exact hcut hx
  · have hneg := hcut (neg_nonneg.mpr hx)
    rw [roundToZero_neg, ← neg_sub', abs_neg] at hneg
    exact hneg

/-- A positive number with the places that are kept is what is left of it and of what
exceeds it by less than one unit of the last place. -/
theorem roundToZero_eq_iff {a y : Decimal} {dp : Nat} (ha : HasDp dp a) (hpos : 0 < a) :
    roundDpWithStrategy y dp .toZero = a ↔ a ≤ y ∧ y < a + 1 / 10 ^ dp := by
  have hp : (0 : ℚ) < 10 ^ dp := by positivity
  constructor
  · intro h
    have hy : 0 ≤ y := by
      by_contra hneg
      have hle : a ≤ 0 := h.symm.le.trans (roundToZero_nonpos (not_le.mp hneg).le)
      exact absurd hpos (not_lt.mpr hle)
    rw [← h]
    exact ⟨roundToZero_le hy, lt_roundToZero_add hy⟩
  · intro h
    have hy : 0 ≤ y * 10 ^ dp := mul_nonneg (hpos.le.trans h.1) hp.le
    obtain ⟨n, rfl⟩ := ha
    have hfloor : ⌊y * 10 ^ dp⌋ = n := by
      rw [Int.floor_eq_iff, ← div_le_iff₀ hp, ← lt_div_iff₀ hp, add_div]
      exact h
    unfold roundDpWithStrategy roundInt
    dsimp only
    rw [if_pos hy, hfloor]

/-- Rounding away from zero adds less than one unit of the last place. -/
theorem abs_roundAway_le (x : Decimal) (dp : Nat) :
    |roundDpWithStrategy x dp .awayFromZero| ≤ |x| + 1 := by
  have hp : (0 : ℚ) < 10 ^ dp := by positivity
  have hone : (1 : ℚ) ≤ 10 ^ dp := one_le_pow₀ (by norm_num)
  have hround : |(roundInt .awayFromZero (x * 10 ^ dp) : ℚ)| ≤ |x * 10 ^ dp| + 1 := by
    unfold roundInt
    dsimp only
    split
    next h =>
      rw [abs_of_nonneg h, abs_of_nonneg (by exact_mod_cast Int.ceil_nonneg h)]
      exact (Int.ceil_lt_add_one _).le
    next h =>
      have h := (not_le.mp h).le
      rw [abs_of_nonpos h, abs_of_nonpos (by exact_mod_cast Int.floor_nonpos h)]
      linarith [Int.sub_one_lt_floor (x * 10 ^ dp)]
  unfold roundDpWithStrategy
  rw [abs_div, abs_of_pos hp, div_le_iff₀ hp]
  calc |(roundInt .awayFromZero (x * 10 ^ dp) : ℚ)| ≤ |x * 10 ^ dp| + 1 := hround
    _ = |x| * 10 ^ dp + 1 := by rw [abs_mul, abs_of_pos hp]
    _ ≤ (|x| + 1) * 10 ^ dp := by linarith

end Decimal

end Lndhubx
