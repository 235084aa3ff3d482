import Lndhubx.Lib.Prog
import Mathlib.Algebra.Order.Monoid.Defs
import Mathlib.Algebra.Order.Monoid.Prod
import Mathlib.Algebra.Order.Monoid.NatCast

/-!
# Programs that raise a meter

A meter reads off a state how much of something there is: messages in a queue,
rows in a table. `Raises m n p` says that running `p` raises the meter `m` by at
most `n`, from whatever state it is run. Amounts add up along a program; most
operations are silent, which is `Raises m 0 p`. Several things are metered at
once by a meter into a product.
-/

namespace Prog

variable {σ ε α β M : Type} [AddCommMonoid M] [PartialOrder M] {m : σ → M} {n n' : M}

/-- Running `p` raises the meter by at most `n`. -/
def Raises (m : σ → M) (n : M) (p : Prog σ ε α) : Prop :=
  ∀ s, Ensures p s fun _ s' => m s' ≤ m s + n

namespace Raises

/-- Returning a value raises nothing. -/
theorem ret (a : α) : Raises m 0 (pure a : Prog σ ε α) := fun s => by
  show m s ≤ m s + 0
  rw [add_zero]

/-- A panic leaves no state to measure. -/
theorem panic (e : ε) (n : M) : Raises m n (throw e : Prog σ ε α) := fun _ => trivial

/-- A computation without state raises nothing. -/
theorem lift (x : Except ε α) : Raises m 0 (liftM x : Prog σ ε α) := fun s =>
  .lift fun _ _ => by rw [add_zero]

/-- Reading raises nothing. -/
theorem read : Raises m 0 (get : Prog σ ε σ) := fun s => by
  show m s ≤ m s + 0
  rw [add_zero]

/-- A write raises what it adds. -/
theorem write {f : σ → σ} (h : ∀ s, m (f s) ≤ m s + n) :
    Raises m n (modify f : Prog σ ε PUnit) := h

/-- A choice raises what either way does. -/
theorem ite {c : Prop} [Decidable c] {p q : Prog σ ε α} (hp : Raises m n p)
    (hq : Raises m n q) : Raises m n (if c then p else q) := fun s =>
  .ite (fun _ => hp s) fun _ => hq s

variable [IsOrderedAddMonoid M]

/-- A larger bound holds too. -/
theorem mono {p : Prog σ ε α} (h : Raises m n p) (hle : n ≤ n') : Raises m n' p := fun s =>
  (h s).mono fun _ _ h => h.trans (add_le_add_right hle _)

/-- What two parts raise adds up. -/
theorem bind {p : Prog σ ε β} {f : β → Prog σ ε α} (hp : Raises m n p)
    (hf : ∀ b, Raises m n' (f b)) : Raises m (n + n') (p >>= f) := fun s =>
  (hp s).bind fun b s' h => (hf b s').mono fun _ s'' h' => by
    calc m s'' ≤ m s' + n' := h'
      _ ≤ m s + n + n' := add_le_add_left h n'
      _ = m s + (n + n') := add_assoc _ _ _

/-- A silent operation, and then another. -/
theorem after {p : Prog σ ε β} {f : β → Prog σ ε α} (hp : Raises m 0 p)
    (hf : ∀ b, Raises m n (f b)) : Raises m n (p >>= f) := by
  have h := hp.bind hf
  rwa [zero_add] at h

/-- Only silent operations follow. -/
theorem before {p : Prog σ ε β} {f : β → Prog σ ε α} (hp : Raises m n p)
    (hf : ∀ b, Raises m 0 (f b)) : Raises m n (p >>= f) := by
  have h := hp.bind hf
  rwa [add_zero] at h

/-- How much was raised may depend on the value that is returned. -/
theorem bind_value {p : Prog σ ε β} {f : β → Prog σ ε α} {k : β → M}
    (hp : ∀ s, Ensures p s fun b s' => m s' ≤ m s + k b)
    (hf : ∀ b, ∃ l, Raises m l (f b) ∧ k b + l ≤ n) : Raises m n (p >>= f) := fun s =>
  (hp s).bind fun b s' h => by
    obtain ⟨l, hl, hle⟩ := hf b
    refine (hl s').mono fun _ s'' h' => ?_
    calc m s'' ≤ m s' + l := h'
      _ ≤ m s + k b + l := add_le_add_left h l
      _ = m s + (k b + l) := add_assoc _ _ _
      _ ≤ m s + n := add_le_add_right hle _

/-- A loop whose rounds are silent. -/
theorem foldlM {ι : Type} {f : α → ι → Prog σ ε α} (hf : ∀ a i, Raises m 0 (f a i))
    (l : List ι) (a : α) : Raises m 0 (l.foldlM f a) := by
  induction l generalizing a with
  | nil => exact ret a
  | cons i l ih =>
    rw [List.foldlM_cons]
    exact (hf a i).after ih

/-- A loop raises the meter once for each round. -/
theorem forM {ι : Type} {f : ι → Prog σ ε PUnit} (hf : ∀ i, Raises m n (f i)) (l : List ι) :
    Raises m (l.length • n) (l.forM f) := by
  induction l with
  | nil =>
    rw [List.length_nil, zero_nsmul]
    exact ret _
  | cons i l ih =>
    rw [List.length_cons, succ_nsmul']
    exact (hf i).bind fun _ => ih

/-- A loop whose rounds raise the meter by different amounts. -/
theorem forM_sum {ι : Type} {f : ι → Prog σ ε PUnit} {k : ι → M} (hf : ∀ i, Raises m (k i) (f i))
    (l : List ι) : Raises m (l.map k).sum (l.forM f) := by
  induction l with
  | nil => exact ret _
  | cons i l ih =>
    rw [List.map_cons, List.sum_cons]
    exact (hf i).bind fun _ => ih

end Raises

end Prog
