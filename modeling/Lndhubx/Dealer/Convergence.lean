import Lndhubx.Dealer.Hedging

/-!
# Hedging comes to rest

`Dealer.Hedging` bounds the position whatever is reported when. Here every order is
filled and reported before the next check, and the question is where the checks lead.

The hedge target of an account is its balance rounded up (`calcNumContractsForValue_eq`),
so between whole positions the gap is a whole number. A check of a gap outside the
tolerance orders the gap or the cap, whichever is less, with the sign of the gap
(`placed`). So the gap shrinks by one contract at least with every check and keeps its
sign, until it is within the tolerance (`hedging_converges_iff`).

The tolerance is configured as `u64` and compared as `i64`. From `2 ^ 63` on it is read
as a negative number: nothing is within it, and once the gap is closed, every check
places an order for nothing.
-/

namespace Lndhubx

open Prog DealerEngine

variable {cfg : DealerConfig} {env : DealerEnv} {s s' : DealerState} {account : Account}
  {symbol : Symbol}

/-! ## One account -/

/-- Both roundings of the target are up. -/
theorem calcNumContractsForValue_eq (value : Decimal) :
    calcNumContractsForValue value = ⌈value⌉ := by
  unfold calcNumContractsForValue Decimal.roundDpWithStrategy Decimal.roundInt
  dsimp only
  rw [pow_zero, mul_one]
  by_cases hpos : 0 < value
  · rw [if_pos hpos, if_pos hpos.le, div_one]
  · rw [if_neg hpos]
    by_cases hzero : 0 ≤ value
    · have hvalue : value = 0 := le_antisymm (not_lt.mp hpos) hzero
      rw [if_pos hzero, hvalue]
      simp
    · rw [if_neg hzero, div_one]

theorem abs_intCast (n : Int) : |(n : Decimal)| = (n.natAbs : Nat) := by
  rw [← Int.cast_abs, Int.abs_eq_natAbs]
  rfl

/-- How many contracts are missing from a position. -/
def gap (account : Account) (position : Int) : Int := ⌈account.balance⌉ - position

/-- A difference of positions that the dealer can order. -/
def FitsI64 (n : Int) : Prop := -2 ^ 63 ≤ n ∧ n < 2 ^ 63

/-- The quantity of an order, under the cap of its contract. -/
def cappedQuantity (cfg : DealerConfig) (symbol : Symbol) (missing : Nat) : Nat :=
  match cfg.maxSingleOrderQuantities symbol.toLower with
  | some cap => if cap < missing then cap else missing
  | none => missing

/-- The orders of a check that finds `n` contracts missing. -/
def placed (cfg : DealerConfig) (symbol : Symbol) (tolerance : Nat) (n : Int) : List Decimal :=
  if |(n : Decimal)| < ((tolerance : Int).bmod (2 ^ 64) : Int) then []
  else [(Side.fromSign n).toSign * cappedQuantity cfg symbol n.natAbs]

/-- The exchange reports a position, and takes every order. -/
structure Reports (env : DealerEnv) (symbol : Symbol) (position : Int) : Prop where
  position : ∃ p, env.ws.positionState symbol = .ok p ∧ hedgedQuantity p = .ok (position : Decimal)
  sends : ∀ call, env.ws.sends call = true

/-- The order for a number of missing contracts. -/
def orderOf (cfg : DealerConfig) (symbol : Symbol) (n : Int) : WsCall :=
  .makeOrder (cappedQuantity cfg symbol n.natAbs) symbol (Side.fromSign n)

/-- An account whose position is reported: the order is for the gap, under the cap. -/
theorem orderFor_gap {position : Int} {tolerance : Nat}
    (hsymbol : account.currency.symbol = .ok symbol) (hreports : Reports env symbol position)
    (hfits : FitsI64 (gap account position))
    (htolerance : cfg.riskTolerances account.currency = some tolerance) :
    orderFor cfg env.ws.positionState account =
      .ok (if |((gap account position : Int) : Decimal)| <
          ((tolerance : Int).bmod (2 ^ 64) : Int) then none
        else some (orderOf cfg symbol (gap account position))) := by
  obtain ⟨p, hposition, hhedged⟩ := hreports.position
  have hfiat : ¬(account.currency = .BTC ∨ account.currency = .KKP) := by
    rintro (h | h)
    · rw [h] at hsymbol
      exact absurd hsymbol (by simp [Currency.symbol])
    · rw [h] at hsymbol
      exact absurd hsymbol (by simp [Currency.symbol])
  have hdelta : Decimal.sub (calcNumContractsForValue account.balance) position =
      .ok ((gap account position : Int) : Decimal) := by
    rw [calcNumContractsForValue_eq]
    apply Decimal.sub_eq_ok.mpr
    -- the target is the balance rounded up to whole contracts
    have hcast : ((⌈account.balance⌉ : Int) : Decimal) - position =
        (gap account position : Int) := by
      unfold gap
      push_cast
      rfl
    rw [hcast]
    refine ⟨?_, rfl⟩
    have hlow : (-2 ^ 63 : Decimal) ≤ (gap account position : Int) := by exact_mod_cast hfits.1
    have hhigh : ((gap account position : Int) : Decimal) < 2 ^ 63 := by exact_mod_cast hfits.2
    rw [abs_le]
    unfold Decimal.MAX
    constructor
    · linarith
    · linarith
  have hconverted : Decimal.toI64 ((gap account position : Int) : Decimal) =
      some (gap account position) := by
    rw [Decimal.toI64_intCast]
    exact if_pos hfits
  unfold orderFor
  rw [if_neg hfiat, hsymbol]
  dsimp only [bind, Except.bind]
  rw [hposition]
  dsimp only
  rw [hhedged]
  dsimp only
  rw [hdelta, htolerance]
  dsimp only
  split
  · rfl
  · rw [hconverted]
    rfl

/-- The check of an account whose position is reported. -/
theorem hedge_completes {position : Int} {tolerance : Nat}
    (hsymbol : account.currency.symbol = .ok symbol) (hreports : Reports env symbol position)
    (hfits : FitsI64 (gap account position))
    (htolerance : cfg.riskTolerances account.currency = some tolerance) :
    Completes (hedge cfg env account) s fun _ s' => ∃ calls, s'.calls = s.calls ++ calls ∧
      orders symbol calls = placed cfg symbol tolerance (gap account position) := by
  rw [hedge_eq]
  by_cases hwithin : |((gap account position : Int) : Decimal)| <
      ((tolerance : Int).bmod (2 ^ 64) : Int)
  · refine completes_iff.mpr ⟨(), s, ?_, [], (List.append_nil _).symm, (if_pos hwithin).symm⟩
    rw [run_lift_bind (orderFor_gap hsymbol hreports hfits htolerance), if_pos hwithin]
    rfl
  · refine completes_iff.mpr ⟨(), { s with
      calls := s.calls ++ [orderOf cfg symbol (gap account position)] }, ?_, [_], rfl, ?_⟩
    · have hsent : ask env (orderOf cfg symbol (gap account position)) s = .ok (true, { s with
          calls := s.calls ++ [orderOf cfg symbol (gap account position)] }) := by
        unfold ask
        rw [if_pos (hreports.sends _)]
        rfl
      rw [run_lift_bind (orderFor_gap hsymbol hreports hfits htolerance), if_neg hwithin]
      exact run_bind hsent _
    · unfold placed
      rw [if_neg hwithin]
      simp [orders, WsCall.ordered, orderOf]

/-- The check of an account of another contract. -/
theorem hedge_other (h : account.currency.symbol ≠ .ok symbol) :
    Ensures (hedge cfg env account) s fun _ s' =>
      ∃ calls, s'.calls = s.calls ++ calls ∧ orders symbol calls = [] := by
  refine (hedge_calls account).mono fun _ s' ⟨call, hcall, hcalls⟩ => ⟨_, hcalls, ?_⟩
  cases call with
  | none => rfl
  | some call =>
    cases missingOrder_of_orderFor hcall with
    | @intro symbol' _ _ _ _ hsymbol =>
      have hne : symbol' ≠ symbol := fun he => h (he ▸ hsymbol)
      simp [orders, WsCall.ordered, hne]

/-! ## A check of the bank's state -/

theorem hedges_other {exposures : List (AccountId × Account)}
    (h : ∀ e ∈ exposures, e.2.currency.symbol ≠ .ok symbol) :
    Ensures (exposures.forM fun e => hedge cfg env e.2) s fun _ s' =>
      ∃ calls, s'.calls = s.calls ++ calls ∧ orders symbol calls = [] := by
  induction exposures generalizing s with
  | nil => exact ⟨[], (List.append_nil _).symm, rfl⟩
  | cons e es ih =>
    refine (hedge_other (h e (by simp))).bind fun _ s₁ h₁ => ?_
    refine (ih fun e he => h e (List.mem_cons_of_mem _ he)).mono fun _ s₂ h₂ => ?_
    obtain ⟨calls, hcalls, hnone⟩ := h₁
    obtain ⟨rest, hrest, hnone'⟩ := h₂
    refine ⟨calls ++ rest, by rw [hrest, hcalls, List.append_assoc], ?_⟩
    rw [orders_append, hnone, hnone']
    rfl

/-- In the contract of an account that is alone in its currency, a check places the orders
of that account. -/
theorem hedges_own {exposures : List (AccountId × Account)} {position : Int} {tolerance : Nat}
    (hone : Only exposures account) (hsymbol : account.currency.symbol = .ok symbol)
    (hreports : Reports env symbol position) (hfits : FitsI64 (gap account position))
    (htolerance : cfg.riskTolerances account.currency = some tolerance) :
    Ensures (exposures.forM fun e => hedge cfg env e.2) s fun _ s' =>
      ∃ calls, s'.calls = s.calls ++ calls ∧
        orders symbol calls = placed cfg symbol tolerance (gap account position) := by
  obtain ⟨id, hone⟩ := hone
  induction exposures generalizing s with
  | nil => exact absurd hone (by simp)
  | cons e es ih =>
    by_cases he : e.2.currency = account.currency
    · rw [List.filter_cons_of_pos (by simpa using he)] at hone
      obtain ⟨rfl, hnone⟩ := List.cons.inj hone
      have hown : Ensures (hedge cfg env account) s _ :=
        wp_mono (hedge_completes hsymbol hreports hfits htolerance) (fun _ _ h => h)
          fun _ h => h.elim
      refine hown.bind fun _ s₁ h₁ => ?_
      have hothers : ∀ e ∈ es, e.2.currency.symbol ≠ .ok symbol := by
        intro e' he' hs
        exact List.filter_eq_nil_iff.mp hnone e' he' (by simpa using symbol_inj hs hsymbol)
      refine (hedges_other hothers).mono fun _ s₂ h₂ => ?_
      obtain ⟨calls, hcalls, horders⟩ := h₁
      obtain ⟨rest, hrest, hnone'⟩ := h₂
      refine ⟨calls ++ rest, by rw [hrest, hcalls, List.append_assoc], ?_⟩
      rw [orders_append, horders, hnone', List.append_nil]
    · rw [List.filter_cons_of_neg (by simpa using he)] at hone
      have hother : e.2.currency.symbol ≠ .ok symbol := fun hs => he (symbol_inj hs hsymbol)
      refine (hedge_other hother).bind fun _ s₁ h₁ => (ih hone).mono fun _ s₂ h₂ => ?_
      obtain ⟨calls, hcalls, hnone⟩ := h₁
      obtain ⟨rest, hrest, horders⟩ := h₂
      refine ⟨calls ++ rest, by rw [hrest, hcalls, List.append_assoc], ?_⟩
      rw [orders_append, hnone, horders]
      rfl

/-- The checks of the accounts in other currencies return. -/
def OthersReturn (cfg : DealerConfig) (env : DealerEnv) (exposures : List (AccountId × Account))
    (currency : Currency) : Prop :=
  ∀ e ∈ exposures, e.2.currency ≠ currency → ∀ s, Returns (hedge cfg env e.2) s

/-- A check of the bank's state places the orders of the account. -/
theorem check_orders {bankState : BankState} {position : Int} {tolerance : Nat}
    (hone : Only bankState.fiatExposures account) (hsymbol : account.currency.symbol = .ok symbol)
    (hreports : Reports env symbol position) (hfits : FitsI64 (gap account position))
    (htolerance : cfg.riskTolerances account.currency = some tolerance)
    (hinit : s.hasReceivedInitData = true) :
    Ensures (checkRiskFromBankState cfg env bankState) s fun _ s' =>
      s'.hasReceivedInitData = true ∧ ∃ calls, s'.calls = s.calls ++ calls ∧
        orders symbol calls = placed cfg symbol tolerance (gap account position) := by
  refine Ensures.and ?_ ?_
  · refine (checkRiskFromBankState_sends bankState s).mono fun _ s' h => ?_
    rw [h]
    exact hinit
  · refine Ensures.get_bind (Ensures.ite (fun h => ?_) fun _ => ?_)
    · rw [hinit] at h
      exact absurd h (by simp)
    · exact hedges_own hone hsymbol hreports hfits htolerance

theorem check_returns {bankState : BankState} {position : Int} {tolerance : Nat}
    (hone : Only bankState.fiatExposures account) (hsymbol : account.currency.symbol = .ok symbol)
    (hreports : Reports env symbol position) (hfits : FitsI64 (gap account position))
    (htolerance : cfg.riskTolerances account.currency = some tolerance)
    (hothers : OthersReturn cfg env bankState.fiatExposures account.currency) :
    Returns (checkRiskFromBankState cfg env bankState) s := by
  refine Returns.get_bind (Returns.ite (fun _ => .ret _) fun _ => Returns.forM ?_)
  intro e he s
  by_cases hcurrency : e.2.currency = account.currency
  · obtain ⟨id, hone⟩ := hone
    have hmem : e ∈ bankState.fiatExposures.filter
        (fun e => e.2.currency = account.currency) := by
      simpa using ⟨he, hcurrency⟩
    rw [hone, List.mem_singleton] at hmem
    rw [hmem]
    exact (hedge_completes hsymbol hreports hfits htolerance).returns
  · exact hothers e he hcurrency s

/-! ## What an order does to the gap -/

/-- What an order adds to the position. -/
def signedQuantity (cfg : DealerConfig) (symbol : Symbol) (n : Int) : Int :=
  (Side.fromSign n).toSign * cappedQuantity cfg symbol n.natAbs

theorem cappedQuantity_le (missing : Nat) : cappedQuantity cfg symbol missing ≤ missing := by
  unfold cappedQuantity
  split
  · split
    · omega
    · exact le_refl _
  · exact le_refl _

theorem cappedQuantity_le_cap {cap : Nat}
    (h : cfg.maxSingleOrderQuantities symbol.toLower = some cap)
    (missing : Nat) : cappedQuantity cfg symbol missing ≤ cap := by
  unfold cappedQuantity
  rw [h]
  dsimp only
  split
  · exact le_refl _
  · omega

theorem cappedQuantity_pos
    (hcap : ∀ cap, cfg.maxSingleOrderQuantities symbol.toLower = some cap → 1 ≤ cap)
    {missing : Nat} (h : 0 < missing) : 0 < cappedQuantity cfg symbol missing := by
  unfold cappedQuantity
  split
  next cap hc =>
    have := hcap cap hc
    split
    · omega
    · exact h
  next => exact h

theorem signedQuantity_natAbs (cfg : DealerConfig) (symbol : Symbol) (n : Int) :
    (signedQuantity cfg symbol n).natAbs = cappedQuantity cfg symbol n.natAbs := by
  unfold signedQuantity Side.fromSign
  split
  · simp [Side.toSign]
  · simp [Side.toSign]

/-- An order has the sign of the gap, and is no larger. -/
theorem signedQuantity_toward (cfg : DealerConfig) (symbol : Symbol) (n : Int) :
    (0 ≤ n → 0 ≤ signedQuantity cfg symbol n ∧ signedQuantity cfg symbol n ≤ n) ∧
      (n ≤ 0 → n ≤ signedQuantity cfg symbol n ∧ signedQuantity cfg symbol n ≤ 0) := by
  have hle : cappedQuantity cfg symbol n.natAbs ≤ n.natAbs := cappedQuantity_le _
  unfold signedQuantity Side.fromSign
  split
  · simp only [Side.toSign]
    omega
  · simp only [Side.toSign]
    omega

/-- What is missing after a check. -/
def gapAfter (cfg : DealerConfig) (symbol : Symbol) (tolerance : Nat) (n : Int) : Int :=
  if |(n : Decimal)| < ((tolerance : Int).bmod (2 ^ 64) : Int) then n
  else n - signedQuantity cfg symbol n

theorem placed_sum (cfg : DealerConfig) (symbol : Symbol) (tolerance : Nat) (n : Int) :
    (n : Decimal) - (placed cfg symbol tolerance n).sum =
      (gapAfter cfg symbol tolerance n : Int) := by
  unfold placed gapAfter
  split
  · simp
  · unfold signedQuantity
    push_cast
    simp

/-- The gap keeps its sign and does not grow. -/
theorem gapAfter_toward (cfg : DealerConfig) (symbol : Symbol) (tolerance : Nat) (n : Int) :
    (0 ≤ n → 0 ≤ gapAfter cfg symbol tolerance n ∧ gapAfter cfg symbol tolerance n ≤ n) ∧
      (n ≤ 0 → n ≤ gapAfter cfg symbol tolerance n ∧ gapAfter cfg symbol tolerance n ≤ 0) := by
  have htoward := signedQuantity_toward cfg symbol n
  unfold gapAfter
  split
  · omega
  · omega

theorem FitsI64.after {n : Int} (h : FitsI64 n) (tolerance : Nat) :
    FitsI64 (gapAfter cfg symbol tolerance n) := by
  have htoward := gapAfter_toward cfg symbol tolerance n
  unfold FitsI64 at h ⊢
  rcases le_total 0 n with hn | hn
  · have := htoward.1 hn
    omega
  · have := htoward.2 hn
    omega

/-- A tolerance below `2 ^ 63` is read as it is. -/
theorem within_iff {tolerance : Nat} (h : tolerance < 2 ^ 63) (n : Int) :
    |(n : Decimal)| < ((tolerance : Int).bmod (2 ^ 64) : Int) ↔ n.natAbs < tolerance := by
  have hbmod : (tolerance : Int).bmod (2 ^ 64) = tolerance := by
    apply Int.bmod_eq_of_le
    · omega
    · omega
  rw [hbmod, abs_intCast, Int.cast_natCast, Nat.cast_lt]

/-- From there on, nothing is within it. -/
theorem not_within {tolerance : Nat} (h : 2 ^ 63 ≤ tolerance) (htype : tolerance < 2 ^ 64)
    (n : Int) : ¬|(n : Decimal)| < ((tolerance : Int).bmod (2 ^ 64) : Int) := by
  have hneg : (tolerance : Int).bmod (2 ^ 64) ≤ 0 := by
    rw [Int.bmod_def]
    omega
  have hcast : (((tolerance : Int).bmod (2 ^ 64) : Int) : Decimal) ≤ 0 := by exact_mod_cast hneg
  exact not_lt.mpr (hcast.trans (abs_nonneg _))

/-- Outside the tolerance, a check closes one contract of the gap at least. -/
theorem gapAfter_lt {tolerance : Nat} (h : tolerance < 2 ^ 63) (hpos : 1 ≤ tolerance)
    (hcap : ∀ cap, cfg.maxSingleOrderQuantities symbol.toLower = some cap → 1 ≤ cap) {n : Int}
    (hn : ¬n.natAbs < tolerance) : (gapAfter cfg symbol tolerance n).natAbs < n.natAbs := by
  have hstep : 0 < cappedQuantity cfg symbol n.natAbs := cappedQuantity_pos hcap (by omega)
  have habs := signedQuantity_natAbs cfg symbol n
  have htoward := signedQuantity_toward cfg symbol n
  unfold gapAfter
  rw [if_neg (fun hw => hn ((within_iff h n).mp hw))]
  rcases le_total 0 n with hsign | hsign
  · have := htoward.1 hsign
    omega
  · have := htoward.2 hsign
    omega

theorem gapAfter_within {tolerance : Nat} (h : tolerance < 2 ^ 63) {n : Int}
    (hn : n.natAbs < tolerance) : gapAfter cfg symbol tolerance n = n :=
  if_pos ((within_iff h n).mpr hn)

/-! ## Check after check -/

/-- One check whose orders are filled and reported. -/
def Round (cfg : DealerConfig) (bankState : BankState) (symbol : Symbol)
    (before : DealerState × Int) (env : DealerEnv) (after : DealerState × Int) : Prop :=
  Reports env symbol before.2 ∧
    checkRiskFromBankState cfg env bankState before.1 = .ok ((), after.1) ∧
    ∃ calls, after.1.calls = before.1.calls ++ calls ∧
      (after.2 : Decimal) = before.2 + (orders symbol calls).sum

/-- What the orders of one check should be, where `n` contracts are missing. -/
structure Orderly (cfg : DealerConfig) (symbol : Symbol) (tolerance : Nat) (n : Int)
    (placed : List Decimal) : Prop where
  single : placed.length ≤ 1
  reduces : ∀ x ∈ placed, |(n : Decimal) - x| < |(n : Decimal)|
  within : ∀ x ∈ placed, |x| ≤ |(n : Decimal)|
  capped : ∀ x ∈ placed, ∀ cap, cfg.maxSingleOrderQuantities symbol.toLower = some cap →
    |x| ≤ (cap : Decimal)
  sign : (0 ≤ (n : Decimal) → 0 ≤ (n : Decimal) - placed.sum) ∧
    ((n : Decimal) ≤ 0 → (n : Decimal) - placed.sum ≤ 0)
  rests : n.natAbs < tolerance → placed = []

/-- From a position on, every check returns with orderly orders, and after some number of
checks the gap is within the tolerance. -/
structure Converges (cfg : DealerConfig) (bankState : BankState) (account : Account)
    (symbol : Symbol) (tolerance : Nat) (s₀ : DealerState) (p₀ : Int) : Prop where
  orderly : ∀ envs s p, Trace (Round cfg bankState symbol) (s₀, p₀) envs (s, p) →
    ∀ env, Reports env symbol p → OthersReturn cfg env bankState.fiatExposures account.currency →
      ∃ s' calls, checkRiskFromBankState cfg env bankState s = .ok ((), s') ∧
        s'.calls = s.calls ++ calls ∧
        Orderly cfg symbol tolerance (gap account p) (orders symbol calls)
  rests : ∃ N, ∀ envs s p, Trace (Round cfg bankState symbol) (s₀, p₀) envs (s, p) →
    N ≤ envs.length → (gap account p).natAbs < tolerance

theorem placed_orderly {tolerance : Nat} (h : tolerance < 2 ^ 63) (hpos : 1 ≤ tolerance)
    (hcap : ∀ cap, cfg.maxSingleOrderQuantities symbol.toLower = some cap → 1 ≤ cap) (n : Int) :
    Orderly cfg symbol tolerance n (placed cfg symbol tolerance n) := by
  have hsum := placed_sum cfg symbol tolerance n
  have htoward := gapAfter_toward cfg symbol tolerance n
  -- the order does not overshoot, from either side
  have hsign : (0 ≤ (n : Decimal) → 0 ≤ (n : Decimal) - (placed cfg symbol tolerance n).sum) ∧
      ((n : Decimal) ≤ 0 → (n : Decimal) - (placed cfg symbol tolerance n).sum ≤ 0) := by
    rw [hsum]
    constructor
    · intro hn
      have := (htoward.1 (by exact_mod_cast hn)).1
      exact_mod_cast this
    · intro hn
      have := (htoward.2 (by exact_mod_cast hn)).2
      exact_mod_cast this
  by_cases hn : n.natAbs < tolerance
  · have hnone : placed cfg symbol tolerance n = [] := if_pos ((within_iff h n).mpr hn)
    rw [hnone] at hsign ⊢
    exact ⟨by simp, by simp, by simp, by simp, hsign, fun _ => rfl⟩
  · have hone : placed cfg symbol tolerance n =
        [((signedQuantity cfg symbol n : Int) : Decimal)] := by
      unfold placed signedQuantity
      rw [if_neg (fun hw => hn ((within_iff h n).mp hw))]
      push_cast
      rfl
    have habs : |((signedQuantity cfg symbol n : Int) : Decimal)| =
        (cappedQuantity cfg symbol n.natAbs : Nat) := by
      rw [abs_intCast, signedQuantity_natAbs]
    -- outside the tolerance it closes part of the gap
    have hless := gapAfter_lt h hpos hcap hn
    rw [hone] at hsign hsum ⊢
    refine ⟨by simp, ?_, ?_, ?_, hsign, fun hw => absurd hw hn⟩
    · intro x hx
      rw [List.mem_singleton.mp hx]
      rw [List.sum_singleton] at hsum
      rw [hsum, abs_intCast, abs_intCast]
      exact_mod_cast hless
    · intro x hx
      rw [List.mem_singleton.mp hx, habs, abs_intCast]
      exact_mod_cast cappedQuantity_le _
    · intro x hx cap hc
      rw [List.mem_singleton.mp hx, habs]
      exact_mod_cast cappedQuantity_le_cap hc _

/-- What a run of checks keeps. -/
structure Underway (account : Account) (x : DealerState × Int) : Prop where
  init : x.1.hasReceivedInitData = true
  fits : FitsI64 (gap account x.2)

section Rounds

variable {bankState : BankState} {tolerance : Nat}

/-- A check and its fill move the gap as the account's orders do. -/
theorem Round.after (hone : Only bankState.fiatExposures account)
    (hsymbol : account.currency.symbol = .ok symbol)
    (htolerance : cfg.riskTolerances account.currency = some tolerance)
    {x y : DealerState × Int} (hx : Underway account x) (h : Round cfg bankState symbol x env y) :
    y.1.hasReceivedInitData = true ∧
      gap account y.2 = gapAfter cfg symbol tolerance (gap account x.2) := by
  obtain ⟨hreports, hrun, calls, hcalls, hfilled⟩ := h
  obtain ⟨hinit, calls', hcalls', horders⟩ :=
    (check_orders hone hsymbol hreports hx.fits htolerance hx.init).of_run hrun
  rw [hcalls, List.append_cancel_left_eq] at hcalls'
  refine ⟨hinit, ?_⟩
  rw [hcalls', horders] at hfilled
  have hsum := placed_sum cfg symbol tolerance (gap account x.2)
  have hcast : ((gap account y.2 : Int) : Decimal) =
      (gapAfter cfg symbol tolerance (gap account x.2) : Int) := by
    rw [← hsum]
    unfold gap at hfilled ⊢
    rw [Int.cast_sub, Int.cast_sub, hfilled]
    ring
  exact_mod_cast hcast

theorem Underway.round (hone : Only bankState.fiatExposures account)
    (hsymbol : account.currency.symbol = .ok symbol)
    (htolerance : cfg.riskTolerances account.currency = some tolerance)
    {x y : DealerState × Int} (hx : Underway account x) (h : Round cfg bankState symbol x env y) :
    Underway account y := by
  obtain ⟨hinit, hgap⟩ := h.after hone hsymbol htolerance hx
  exact ⟨hinit, hgap ▸ hx.fits.after tolerance⟩

/-- The gap closes by one with every check, or is within the tolerance. -/
theorem gap_shrinks (hone : Only bankState.fiatExposures account)
    (hsymbol : account.currency.symbol = .ok symbol)
    (htolerance : cfg.riskTolerances account.currency = some tolerance)
    (hbelow : tolerance < 2 ^ 63)
    (hpos : 1 ≤ tolerance)
    (hcap : ∀ cap, cfg.maxSingleOrderQuantities symbol.toLower = some cap → 1 ≤ cap)
    {x y : DealerState × Int} {envs : List DealerEnv} (hx : Underway account x)
    (h : Trace (Round cfg bankState symbol) x envs y) :
    (gap account y.2).natAbs < tolerance ∨
      (gap account y.2).natAbs + envs.length ≤ (gap account x.2).natAbs := by
  induction h with
  | nil => exact .inr (le_refl _)
  | @snoc m z l env hrun hlast ih =>
    have hm : Underway account m := hrun.invariant (fun _ _ _ _ hs hstep =>
      hs.round hone hsymbol htolerance hstep) hx
    obtain ⟨-, hgap⟩ := Round.after hone hsymbol htolerance hm hlast
    rw [hgap, List.length_append, List.length_singleton]
    by_cases hwithin : (gap account m.2).natAbs < tolerance
    · rw [gapAfter_within hbelow hwithin]
      exact .inl hwithin
    · have hless := gapAfter_lt hbelow hpos hcap hwithin
      rcases ih with ih | ih
      · exact absurd ih hwithin
      · exact .inr (by omega)

/-- The exchange can report any position that is a decimal; of other contracts it may not
have reported any. -/
theorem exists_reports (cfg : DealerConfig) (exposures : List (AccountId × Account))
    (hsymbol : account.currency.symbol = .ok symbol) {position : Int}
    (h : |(position : Decimal)| ≤ Decimal.MAX) :
    ∃ env, Reports env symbol position ∧ OthersReturn cfg env exposures account.currency := by
  let state : PositionState := ⟨symbol, 1, some (Side.fromSign position), position.natAbs, 0⟩
  let ws : WsClient := ⟨[], fun symbol' =>
    if symbol' = symbol then .ok (some state) else .error .positionStateNotAvailable, fun _ => true⟩
  have hvalue : (((Side.fromSign position).toSign : Int) : Decimal) * (position.natAbs : Nat) =
      position := by
    have hint : (Side.fromSign position).toSign * (position.natAbs : Int) = position := by
      unfold Side.fromSign
      split
      · simp only [Side.toSign]
        omega
      · simp only [Side.toSign]
        omega
    have hcast := congrArg (Int.cast : Int → Decimal) hint
    rw [Int.cast_mul, Int.cast_natCast] at hcast
    exact hcast
  refine ⟨⟨ws, 0, 0, 0⟩, ⟨⟨some state, if_pos rfl, ?_⟩, fun _ => rfl⟩, ?_⟩
  · show Decimal.mul ((Side.fromSign position).toSign : Int) (position.natAbs : Nat) = _
    rw [Decimal.mul_eq_ok, hvalue]
    exact ⟨h, rfl⟩
  · intro e _ hcurrency s
    unfold hedge
    refine Returns.ite (fun _ => .ret _) fun hfiat => ?_
    cases hother : e.2.currency.symbol with
    | error panic =>
      -- only bitcoin and points have no contract
      cases hc : e.2.currency with
      | BTC => exact absurd (.inl hc) hfiat
      | KKP => exact absurd (.inr hc) hfiat
      | _ =>
        rw [hc] at hother
        exact absurd hother (by simp [Currency.symbol])
    | ok symbol' =>
      have hne : symbol' ≠ symbol := by
        intro he
        rw [he] at hother
        exact hcurrency (symbol_inj hother hsymbol)
      refine Returns.lift_bind rfl ?_
      have hunknown : ws.positionState symbol' = .error .positionStateNotAvailable := if_neg hne
      rw [hunknown]
      exact .ret _

/-- Below `2 ^ 63` the checks come to rest. -/
theorem converges_of_lt (hone : Only bankState.fiatExposures account)
    (hsymbol : account.currency.symbol = .ok symbol)
    (htolerance : cfg.riskTolerances account.currency = some tolerance)
    (hbelow : tolerance < 2 ^ 63)
    (hpos : 1 ≤ tolerance)
    (hcap : ∀ cap, cfg.maxSingleOrderQuantities symbol.toLower = some cap → 1 ≤ cap)
    {s₀ : DealerState} {p₀ : Int} (h₀ : Underway account (s₀, p₀)) :
    Converges cfg bankState account symbol tolerance s₀ p₀ := by
  constructor
  · intro envs s p hrun env hreports hothers
    have hs : Underway account (s, p) := hrun.invariant (fun _ _ _ _ hs hstep =>
      hs.round hone hsymbol htolerance hstep) h₀
    obtain ⟨⟨⟩, s', hcheck, -, calls, hcalls, horders⟩ := completes_iff.mp
      ((check_returns hone hsymbol hreports hs.fits htolerance hothers).ensuring
        (check_orders hone hsymbol hreports hs.fits htolerance hs.init))
    refine ⟨s', calls, hcheck, hcalls, ?_⟩
    rw [horders]
    exact placed_orderly hbelow hpos hcap _
  · refine ⟨(gap account p₀).natAbs + 1, ?_⟩
    intro envs s p hrun hlength
    rcases gap_shrinks hone hsymbol htolerance hbelow hpos hcap h₀ hrun with hdone | hleft
    · exact hdone
    · exact absurd hleft (by simp only; omega)

/-- From there on a check within the tolerance still orders. -/
theorem not_orderly (htype : tolerance < 2 ^ 64) (habove : 2 ^ 63 ≤ tolerance) {n : Int}
    (hn : n.natAbs < tolerance) :
    ¬Orderly cfg symbol tolerance n (placed cfg symbol tolerance n) := by
  intro h
  have hnone := h.rests hn
  unfold placed at hnone
  rw [if_neg (not_within habove htype n)] at hnone
  exact absurd hnone (by simp)

/-- From `2 ^ 63` on they do not. -/
theorem not_converges (hone : Only bankState.fiatExposures account)
    (hsymbol : account.currency.symbol = .ok symbol)
    (htolerance : cfg.riskTolerances account.currency = some tolerance) (htype : tolerance < 2 ^ 64)
    (hcap : ∀ cap, cfg.maxSingleOrderQuantities symbol.toLower = some cap → 1 ≤ cap)
    (habove : 2 ^ 63 ≤ tolerance) (hbalance : |account.balance| ≤ Decimal.MAX)
    {s₀ : DealerState} {p₀ : Int} (h₀ : Underway account (s₀, p₀))
    (hposition : |(p₀ : Decimal)| ≤ Decimal.MAX) :
    ¬Converges cfg bankState account symbol tolerance s₀ p₀ := by
  intro h
  -- wherever a gap that fits is within the tolerance, the next check still orders
  have hstuck {envs : List DealerEnv} {s : DealerState} {p : Int}
      (hrun : Trace (Round cfg bankState symbol) (s₀, p₀) envs (s, p))
      (hp : |(p : Decimal)| ≤ Decimal.MAX) : ¬(gap account p).natAbs < tolerance := by
    intro hwithin
    have hs : Underway account (s, p) := hrun.invariant (fun _ _ _ _ hs hstep =>
      hs.round hone hsymbol htolerance hstep) h₀
    obtain ⟨env, hreports, hothers⟩ := exists_reports cfg bankState.fiatExposures hsymbol hp
    obtain ⟨s', calls, hcheck, hcalls, horderly⟩ := h.orderly envs s p hrun env hreports hothers
    obtain ⟨-, calls', hcalls', horders⟩ :=
      (check_orders hone hsymbol hreports hs.fits htolerance hs.init).of_run hcheck
    rw [hcalls, List.append_cancel_left_eq] at hcalls'
    rw [hcalls', horders] at horderly
    exact not_orderly htype habove hwithin horderly
  by_cases hwithin : (gap account p₀).natAbs < tolerance
  · exact hstuck (.nil _) hposition hwithin
  · -- the gap is the least number there is: one check brings it within the tolerance
    have hleast : gap account p₀ = -2 ^ 63 := by
      have hfits : FitsI64 (gap account p₀) := h₀.fits
      unfold FitsI64 at hfits
      omega
    obtain ⟨env, hreports, hothers⟩ := exists_reports cfg bankState.fiatExposures hsymbol hposition
    obtain ⟨⟨⟩, s', hcheck, -, calls, hcalls, horders⟩ := completes_iff.mp
      ((check_returns hone hsymbol hreports h₀.fits htolerance hothers).ensuring
        (check_orders hone hsymbol hreports h₀.fits htolerance h₀.init))
    let n := gap account p₀
    have hafter : gapAfter cfg symbol tolerance n = n - signedQuantity cfg symbol n :=
      if_neg (not_within habove htype n)
    have hsum := placed_sum cfg symbol tolerance n
    have hround :
        Round cfg bankState symbol (s₀, p₀) env (s', p₀ + signedQuantity cfg symbol n) := by
      refine ⟨hreports, hcheck, calls, hcalls, ?_⟩
      rw [hafter, Int.cast_sub] at hsum
      rw [horders]
      show ((p₀ + signedQuantity cfg symbol n : Int) : Decimal) = p₀ + _
      rw [Int.cast_add]
      linarith
    have htoward := (signedQuantity_toward cfg symbol n).2 (by omega)
    have hquantity := signedQuantity_natAbs cfg symbol n
    have hstep : 0 < cappedQuantity cfg symbol n.natAbs := cappedQuantity_pos hcap (by omega)
    have hgap : gap account (p₀ + signedQuantity cfg symbol n) =
        n - signedQuantity cfg symbol n := by
      show ⌈account.balance⌉ - (p₀ + _) = ⌈account.balance⌉ - p₀ - _
      omega
    have hceil : -Decimal.MAX ≤ (⌈account.balance⌉ : Int) :=
      (abs_le.mp hbalance).1.trans (Int.le_ceil _)
    refine hstuck (Trace.snoc (l := []) (.nil _) hround) ?_ ?_
    · -- between the two positions
      have hlow : (⌈account.balance⌉ : Decimal) ≤ (p₀ + signedQuantity cfg symbol n : Int) := by
        have : ⌈account.balance⌉ ≤ p₀ + signedQuantity cfg symbol n := by
          have : n = ⌈account.balance⌉ - p₀ := rfl
          omega
        exact_mod_cast this
      have hhigh : ((p₀ + signedQuantity cfg symbol n : Int) : Decimal) ≤ p₀ := by
        have : p₀ + signedQuantity cfg symbol n ≤ p₀ := by omega
        exact_mod_cast this
      exact abs_le.mpr ⟨hceil.trans hlow, hhigh.trans (abs_le.mp hposition).2⟩
    · rw [hgap]
      omega

end Rounds

/-- For every balance, every position whose gap fits in 64 bits, every tolerance and every
cap: checks whose orders are filled and reported come to rest as they should, if and only
if the tolerance is below `2 ^ 63`. -/
theorem hedging_converges_iff {bankState : BankState} {tolerance : Nat}
    (hone : Only bankState.fiatExposures account) (hsymbol : account.currency.symbol = .ok symbol)
    (htolerance : cfg.riskTolerances account.currency = some tolerance) (hpos : 1 ≤ tolerance)
    (htype : tolerance < 2 ^ 64)
    (hcap : ∀ cap, cfg.maxSingleOrderQuantities symbol.toLower = some cap → 1 ≤ cap)
    {s₀ : DealerState} {p₀ : Int} (hinit : s₀.hasReceivedInitData = true)
    (hbalance : |account.balance| ≤ Decimal.MAX) (hposition : |(p₀ : Decimal)| ≤ Decimal.MAX)
    (hfits : FitsI64 (gap account p₀)) :
    Converges cfg bankState account symbol tolerance s₀ p₀ ↔ tolerance < 2 ^ 63 := by
  constructor
  · intro h
    by_contra habove
    exact not_converges hone hsymbol htolerance htype hcap (Nat.not_lt.mp habove) hbalance
      ⟨hinit, hfits⟩ hposition h
  · exact fun h => converges_of_lt hone hsymbol htolerance h hpos hcap ⟨hinit, hfits⟩

namespace Sample

/-- A tolerance that `i64` does not hold. -/
def wideConfig : DealerConfig := { dealerConfig with riskTolerances := fun _ => some (2 ^ 63) }

theorem owedDollars_ceil : ⌈owedDollars.balance⌉ = -100 := by
  decide +kernel

theorem owedDollars_fits (p₀ : Int) (hlow : -100 ≤ p₀) (hhigh : p₀ ≤ 0) :
    FitsI64 (gap owedDollars p₀) := by
  unfold FitsI64 gap
  rw [owedDollars_ceil]
  omega

end Sample

/-- A hundred dollars owed, no position and a tolerance of one contract. -/
theorem hedging_converges_sample : Converges Sample.hedgeConfig Sample.hedgeBankState
    Sample.owedDollars Sample.usdSymbol 1 Sample.hedgeSystem.dealer 0 :=
  (hedging_converges_iff Sample.owedDollars_only rfl rfl (le_refl _) (by decide)
    (fun _ h => absurd h (by simp [Sample.hedgeConfig, Sample.dealerConfig])) rfl
    (by decide +kernel) (by decide +kernel)
    (Sample.owedDollars_fits 0 (by omega) (by omega))).mpr (by decide)

/-- With a tolerance of `2 ^ 63` and the hundred contracts sold, the next check returns with
an order for nothing. -/
theorem hedging_never_rests :
    (gap Sample.owedDollars (-100)).natAbs < 2 ^ 63 ∧
    (∃ env s' calls, Reports env Sample.usdSymbol (-100) ∧
      checkRiskFromBankState Sample.wideConfig env Sample.hedgeBankState Sample.hedgeSystem.dealer =
        .ok ((), s') ∧
      s'.calls = Sample.hedgeSystem.dealer.calls ++ calls ∧ orders Sample.usdSymbol calls = [0]) ∧
    ¬Converges Sample.wideConfig Sample.hedgeBankState Sample.owedDollars Sample.usdSymbol (2 ^ 63)
      Sample.hedgeSystem.dealer (-100) := by
  have hgap : gap Sample.owedDollars (-100) = 0 := by
    unfold gap
    rw [Sample.owedDollars_ceil]
    rfl
  have hfits := Sample.owedDollars_fits (-100) (by omega) (by omega)
  have hsymbol : Sample.owedDollars.currency.symbol = .ok Sample.usdSymbol := rfl
  have hposition : |((-100 : Int) : Decimal)| ≤ Decimal.MAX := by decide +kernel
  refine ⟨by rw [hgap]; decide, ?_, ?_⟩
  · obtain ⟨env, hreports, hothers⟩ := exists_reports Sample.wideConfig
      Sample.hedgeBankState.fiatExposures hsymbol hposition
    obtain ⟨⟨⟩, s', hcheck, -, calls, hcalls, horders⟩ := completes_iff.mp
      ((check_returns Sample.owedDollars_only hsymbol hreports hfits rfl hothers).ensuring
        (check_orders (s := Sample.hedgeSystem.dealer) Sample.owedDollars_only hsymbol
          hreports hfits
          rfl rfl))
    refine ⟨env, s', calls, hreports, hcheck, hcalls, ?_⟩
    rw [horders, hgap]
    decide +kernel
  · exact not_converges Sample.owedDollars_only hsymbol rfl (by decide)
      (fun _ h => absurd h (by simp [Sample.wideConfig, Sample.dealerConfig])) (le_refl _)
      (by decide +kernel) ⟨rfl, hfits⟩ hposition

end Lndhubx
