import Lndhubx.Core.Rounding

/-!
# Decimals with their scale

Nearly everywhere a `Decimal` is its value. The order books are the exception:
`set_scale` keeps the mantissa of a price and replaces its scale, so the price
it makes depends on how the number was written (`30000` and `30000.0` have
different mantissas). A `Scaled` is a value together with the scale it is
written at; the operations are those `update_quotes` applies to prices, with
what `rust_decimal` does to the scale:

* a product adds the scales and a sum takes the larger one, a zero having none;
* an exact quotient keeps the scale of the dividend, any other one gets the
  digits it needs (`MAX_SCALE` stands for their number, which nothing reads);
* `floor` and `ceil` both start from the number without its fraction, which has
  scale 0.

A mantissa is not bounded here. `rust_decimal` gives up digits of a result whose mantissa
takes more than 96 bits.
-/

namespace Lndhubx

/-- A number and how many places it is written with. -/
structure Scaled where
  value : Decimal
  scale : Nat
  deriving DecidableEq

namespace Scaled

/-- `Decimal::new(n, 0)`. -/
def ofNat (n : Nat) : Scaled := ⟨n, 0⟩

/-- The number without its decimal point. -/
def mantissa (x : Scaled) : Decimal := x.value * 10 ^ x.scale

/-- The places of a product are those of its factors. -/
def mul (a b : Scaled) : Checked Scaled := do
  let value ← Decimal.mul a.value b.value
  return if value = 0 then ofNat 0 else ⟨value, a.scale + b.scale⟩

/-- A sum is written with the places of the finer summand; zero has none of its own. -/
def add (a b : Scaled) : Checked Scaled := do
  let value ← Decimal.add a.value b.value
  return if a.value = 0 then b else if b.value = 0 then a else ⟨value, max a.scale b.scale⟩

/-- Division by a whole number. -/
def divNat [Rounding] (a : Scaled) (n : Nat) : Checked Scaled := do
  let value ← Decimal.div a.value n
  let exact := value * 10 ^ a.scale
  return ⟨value, if exact = ⌊exact⌋ then a.scale else Decimal.MAX_SCALE⟩

def ceil (x : Scaled) : Scaled := ⟨⌈x.value⌉, 0⟩

/-- Like `ceil`, from the number without its fraction. -/
def floor (x : Scaled) : Scaled := ⟨⌊x.value⌋, 0⟩

/-- `set_scale(dp).expect("Could not set scale")`. -/
def setScale (x : Scaled) (dp : Nat) : Checked Scaled :=
  if Decimal.MAX_SCALE < dp then .error (.explicit "Could not set scale")
  else .ok ⟨x.mantissa / 10 ^ dp, dp⟩

end Scaled

end Lndhubx
