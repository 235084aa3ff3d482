import Lndhubx.Bank.PaymentTasks
import Lndhubx.Bank.Returns

/-!
# The estimated fee covers the fee that is paid

An external payment is debited with an estimate of its routing fee, and the node
is asked to keep within the estimate. The handler of the result panics if the
total is not positive, asserts that the amount and the fee paid are within the
total, and moves what is left of it to the dealer.

On its way to the node the estimate is rounded to sats in bitcoin or taken from
a route (`estimateFee`), cut to the decimals of bitcoin (`priceOutgoing`),
changed back into sats (`spawnPayment`) and rounded once more to become an `i64`
(`LndConnector.maxFee`). `PaymentTask.Priced` says what survives: the estimate is
a whole number of sats, and the total is the amount and exactly that estimate.
So a node that keeps to its limit cannot make the handler panic, and what is
moved to the dealer is the estimate less the fee (`fees_within_estimate`).
-/

namespace Lndhubx

open Prog BankEngine

variable {cfg : Config} {env : Env} {s s' : State}

/-! ## The estimate -/

/-- No route of the node costs less than nothing. -/
def RoutesCost (lnd : Lnd) : Prop :=
  ∀ query routes, lnd.queryRoutes query = some routes → ∀ route ∈ routes, 0 ≤ route.totalFees

theorem probe_eq_ok {lnd : Lnd} {pr : String} {margin : Decimal} {routes : List Route}
    (h : LndConnector.probe lnd pr margin = .ok (.ok routes)) :
    ∃ query, lnd.queryRoutes query = some routes := by
  unfold LndConnector.probe at h
  split at h
  next r _ =>
    obtain ⟨fee, -, h⟩ := Checked.bind_eq_ok.mp h
    dsimp only at h
    split at h
    next found hfound =>
      injection Checked.pure_eq_ok.mp h with h
      rw [h] at hfound
      exact ⟨_, hfound⟩
    next => exact absurd (Checked.pure_eq_ok.mp h) (by simp)
  next => exact absurd (Checked.pure_eq_ok.mp h) (by simp)

/-- Rounded away from zero to sats, a part of an amount is a whole number of them. -/
theorem roundAway_sats {x : Decimal} (h : 0 ≤ x) :
    ∃ n : ℕ, x.roundDpWithStrategy SATS_DECIMALS .awayFromZero = n / SATS_IN_BITCOIN := by
  have hx : 0 ≤ x * 10 ^ SATS_DECIMALS := mul_nonneg h (by positivity)
  obtain ⟨n, hn⟩ := Int.eq_ofNat_of_zero_le (Int.ceil_nonneg hx)
  refine ⟨n, ?_⟩
  unfold Decimal.roundDpWithStrategy Decimal.roundInt
  dsimp only
  rw [if_pos hx, hn]
  norm_num [SATS_DECIMALS, SATS_IN_BITCOIN]

/-- Found on a route or taken from the margin, the estimate is a number of sats. -/
theorem estimateFee_sats {pr : String} {amount : Money} {fee : Decimal}
    (hmargin : 0 ≤ cfg.lnNetworkFeeMargin) (hcost : RoutesCost env.lnd) (hamount : 0 ≤ amount.value)
    (h : estimateFee cfg env pr amount = .ok fee) : ∃ n : ℕ, fee = n / SATS_IN_BITCOIN := by
  unfold estimateFee at h
  obtain ⟨maxFee, hmax, h⟩ := Checked.bind_eq_ok.mp h
  obtain ⟨-, rfl⟩ := Decimal.mul_eq_ok.mp hmax
  obtain ⟨_, -, h⟩ := Checked.bind_eq_ok.mp h
  obtain ⟨answer, hprobe, h⟩ := Checked.bind_eq_ok.mp h
  split at h
  next bestRoute rest =>
    obtain ⟨query, hroutes⟩ := probe_eq_ok hprobe
    have hfees := hcost query _ hroutes bestRoute (by simp)
    obtain ⟨n, hn⟩ := Int.eq_ofNat_of_zero_le hfees
    obtain ⟨sats, hsats, h⟩ := Checked.bind_eq_ok.mp h
    obtain ⟨hmax, rfl⟩ := Decimal.add_eq_ok.mp hsats
    obtain ⟨-, -, rfl⟩ := Decimal.div_eq_ok.mp h
    refine ⟨n + 1, ?_⟩
    have hsum : (bestRoute.totalFees : Decimal) + 1 = ((n + 1 : ℤ) : Decimal) := by
      rw [hn]
      push_cast
      rfl
    rw [hsum] at hmax ⊢
    show Decimal.fit _ = _
    rw [fit_sats hmax]
    push_cast
    rfl
  next =>
    rw [← Checked.pure_eq_ok.mp h]
    exact roundAway_sats (mul_nonneg hamount hmargin)

/-- Sats need fewer places than bitcoin has. -/
theorem hasDp_sats (n : ℤ) : Decimal.HasDp Currency.BTC.dp (n / SATS_IN_BITCOIN) :=
  ⟨n * 10 ^ 4, by unfold SATS_IN_BITCOIN Currency.dp; push_cast; ring⟩

theorem fromBtc_sats (n : ℤ) :
    Money.fromBtc (n / SATS_IN_BITCOIN) = ⟨.BTC, n / SATS_IN_BITCOIN⟩ := by
  unfold Money.fromBtc
  rw [show Money.normalizedValue _ _ = _ from Decimal.roundDp_eq_self (hasDp_sats n)]

/-- The total is the amount and the estimate, to the sat. -/
theorem priceOutgoing_sats {pr : String} {m : ℕ} {fee total debit : Money} {rate : Rate}
    (hmargin : 0 ≤ cfg.lnNetworkFeeMargin) (hcost : RoutesCost env.lnd)
    (h : priceOutgoing cfg env pr (Money.fromSats m) rate = .ok (fee, total, debit)) :
    ∃ n : ℕ, fee.value = n / SATS_IN_BITCOIN ∧
      total = ⟨.BTC, (Money.fromSats m).value + n / SATS_IN_BITCOIN⟩ := by
  have hamount : (Money.fromSats m).value = ((m : ℤ) : Decimal) / SATS_IN_BITCOIN := by
    exact_mod_cast Money.fromSats_value m
  unfold priceOutgoing at h
  obtain ⟨f, hf, h⟩ := Checked.bind_eq_ok.mp h
  have hnonneg : 0 ≤ (Money.fromSats m).value := by
    rw [hamount]
    unfold SATS_IN_BITCOIN
    positivity
  obtain ⟨n, rfl⟩ := estimateFee_sats hmargin hcost hnonneg hf
  have hfee : Money.fromBtc (n / SATS_IN_BITCOIN) = ⟨.BTC, n / SATS_IN_BITCOIN⟩ := by
    exact_mod_cast fromBtc_sats n
  rw [hfee] at h
  obtain ⟨v, hv, h⟩ := Checked.bind_eq_ok.mp h
  obtain ⟨-, rfl⟩ := Decimal.add_eq_ok.mp hv
  obtain ⟨e, -, h⟩ := Checked.bind_eq_ok.mp h
  obtain ⟨d, -, h⟩ := Checked.bind_eq_ok.mp h
  have h := Checked.pure_eq_ok.mp h
  rw [Prod.mk.injEq, Prod.mk.injEq] at h
  obtain ⟨rfl, rfl, -⟩ := h
  refine ⟨n, rfl, ?_⟩
  have hsum : (Money.fromSats m).value + (n : Decimal) / SATS_IN_BITCOIN
      = ((m + n : ℤ) : Decimal) / SATS_IN_BITCOIN := by
    rw [hamount]
    push_cast
    ring
  dsimp only
  rw [hsum]
  exact fromBtc_sats _

/-! ## The limit -/

/-- What a task knows of its price: the estimate is a number of sats, and the total
is the amount and the estimate. -/
structure PaymentTask.Priced (t : PaymentTask) : Prop where
  sats : ∃ n : ℕ, t.estimatedFeeInSats = n
  total : t.outboundAmountInBtcPlusMaxFees
    = ⟨.BTC, t.amountInBtc.value + t.estimatedFeeInSats / SATS_IN_BITCOIN⟩
  positive : 0 < t.outboundAmountInBtcPlusMaxFees.value

/-- A task is spawned with the price its debit was made at. -/
theorem SpawnsTask.priced {m : PaymentRequest} {p : Outgoing} {a : HoldAccounts} {fee : Decimal}
    (h : SpawnsTask cfg env s s' m p a fee) (hmargin : 0 ≤ cfg.lnNetworkFeeMargin)
    (hcost : RoutesCost env.lnd) : (p.task fee).Priced := by
  obtain ⟨decoded, millisats, made⟩ := h.made
  have hpriced := made.priced
  rw [made.amountInBtc] at hpriced
  obtain ⟨n, hn, htotal⟩ := priceOutgoing_sats (m := invoiceSats millisats) hmargin hcost
    (by exact_mod_cast hpriced)
  obtain ⟨-, hfee⟩ := Money.trySats_eq_ok h.inSats
  have hsats : fee = n := by
    rw [hfee, hn]
    exact div_mul_cancel₀ _ (by norm_num [SATS_IN_BITCOIN])
  refine ⟨⟨n, hsats⟩, ?_, h.positive.2⟩
  show p.totalInBtc = ⟨.BTC, p.amountInBtc.value + fee / SATS_IN_BITCOIN⟩
  rw [htotal, made.amountInBtc, hsats]

/-- The limit is the estimate, or nothing where that does not fit an `i64`. -/
theorem PaymentTask.Priced.limit {t : PaymentTask} (h : t.Priced) :
    0 ≤ t.sendRequest.feeLimit ∧ t.sendRequest.feeLimit < 2 ^ 63 ∧
      (t.sendRequest.feeLimit : Decimal) ≤ t.estimatedFeeInSats := by
  obtain ⟨n, hn⟩ := h.sats
  have hlimit : t.sendRequest.feeLimit = if (n : ℤ) < 2 ^ 63 then (n : ℤ) else 0 := by
    show ((t.estimatedFeeInSats.roundDp 0).toI64).getD 0 = _
    rw [hn, ← Int.cast_natCast, Decimal.roundDp_intCast, Decimal.toI64_intCast]
    by_cases hfits : (n : ℤ) < 2 ^ 63
    · rw [if_pos ⟨by omega, hfits⟩, if_pos hfits]
      rfl
    · rw [if_neg (fun h => hfits h.2), if_neg hfits]
      rfl
  rw [hlimit, hn]
  by_cases hfits : (n : ℤ) < 2 ^ 63
  · rw [if_pos hfits]
    exact ⟨by omega, hfits, by push_cast; exact le_refl _⟩
  · rw [if_neg hfits]
    exact ⟨le_refl _, by norm_num, by positivity⟩

/-- A payment that goes through costs no more than the limit of the request. -/
def KeepsLimit (lnd : Lnd) (request : SendRequest) : Prop :=
  ∀ r route, lnd.sendPaymentSync request = some r → r.paymentError = "" →
    r.paymentRoute = some route → route.totalFees ≤ request.feeLimit

theorem KeepsLimit.fee_le {lnd : Lnd} {request : SendRequest} {response : PayResponse}
    (h : KeepsLimit lnd request) (hlimit : 0 ≤ request.feeLimit)
    (hpaid : LndConnector.payResponse (lnd.sendPaymentSync request) = .ok response) :
    (response.fee : ℤ) ≤ request.feeLimit := by
  cases hr : lnd.sendPaymentSync request with
  | none =>
    rw [hr] at hpaid
    exact absurd hpaid (by simp [LndConnector.payResponse])
  | some r =>
    rw [hr] at hpaid
    unfold LndConnector.payResponse at hpaid
    dsimp only at hpaid
    split at hpaid
    next => exact absurd hpaid (by simp)
    next hnone =>
      rw [← Except.ok.inj hpaid]
      cases hroute : r.paymentRoute with
      | none =>
        dsimp only
        exact_mod_cast hlimit
      | some route =>
        have hcost := h r route hr (not_not.mp hnone) hroute
        dsimp only
        split
        next hpos => omega
        next => exact_mod_cast hlimit

/-! ## The result -/

/-- What a result says was paid is within its total. -/
def PaymentResult.Covered (res : PaymentResult) : Prop :=
  ∀ paid fees, res.paymentResponse.amount = some paid → res.paymentResponse.fees = some fees →
    paid.value + fees.value ≤ res.amount.value

/-- The result of a task, whose fee is within the estimate. -/
structure TaskResult.WithinEstimate (r : TaskResult) : Prop where
  priced : r.task.Priced
  result : ∃ answer, r.result = r.task.result answer ∧ ∀ response, answer = .ok response →
    (LndConnector.asI64 response.fee : Decimal) ≤ r.task.estimatedFeeInSats

theorem PaymentTask.Priced.withinEstimate {t : PaymentTask} {node : Node} {res : PaymentResult}
    (h : t.Priced) (hkeeps : KeepsLimit node.lnd t.sendRequest) (hrun : t.run node.lnd = .ok res) :
    TaskResult.WithinEstimate ⟨t, node, res⟩ := by
  refine ⟨h, _, PaymentTask.eq_result_of_run hrun, fun response hpaid => ?_⟩
  obtain ⟨hnonneg, hlt, hle⟩ := h.limit
  have hfee := hkeeps.fee_le hnonneg hpaid
  -- below the limit, the fee is the same number as an `i64`
  have hsame : LndConnector.asI64 response.fee = response.fee := by
    unfold LndConnector.asI64
    exact Int.bmod_eq_of_le (by omega) (by omega)
  rw [hsame]
  exact le_trans (by exact_mod_cast hfee) hle

namespace TaskResult.WithinEstimate

variable {r : TaskResult}

theorem amount (h : r.WithinEstimate) :
    r.result.amount = r.task.outboundAmountInBtcPlusMaxFees := by
  obtain ⟨answer, hres, -⟩ := h.result
  rw [hres]
  cases answer with
  | ok response => rfl
  | error e => rfl

/-- The fee of the result, in sats: what the node reported, or nothing. -/
theorem fees (h : r.WithinEstimate) :
    ∃ n : ℤ, r.result.paymentResponse.fees = some (Money.fromSats n) ∧
      (n : Decimal) ≤ r.task.estimatedFeeInSats := by
  obtain ⟨answer, hres, hle⟩ := h.result
  rw [hres]
  cases answer with
  | ok response => exact ⟨_, rfl, hle response rfl⟩
  | error e =>
    obtain ⟨n, hn⟩ := h.priced.sats
    refine ⟨0, by simp [PaymentTask.result], ?_⟩
    rw [hn]
    positivity

theorem paid (h : r.WithinEstimate) :
    r.result.paymentResponse.amount = some r.task.amountInBtc := by
  obtain ⟨answer, hres, -⟩ := h.result
  rw [hres]
  cases answer with
  | ok response => rfl
  | error e => rfl

/-- What is left of the total is the estimate less the fee. -/
theorem excess (h : r.WithinEstimate) {paid : Money}
    (hpaid : r.result.paymentResponse.amount = some paid) (fees : Money) :
    r.result.amount.value - (paid.value + fees.value)
      = r.task.estimatedFeeInSats / SATS_IN_BITCOIN - fees.value := by
  rw [h.paid] at hpaid
  rw [h.amount, h.priced.total, ← Option.some.inj hpaid]
  ring

theorem covered (h : r.WithinEstimate) : r.result.Covered := by
  intro paid fees hpaid hfees
  have hexcess := h.excess hpaid fees
  obtain ⟨n, hn, hle⟩ := h.fees
  rw [hfees] at hn
  rw [Option.some.inj hn, Money.fromSats_value] at hexcess
  rw [Option.some.inj hn, Money.fromSats_value]
  have hsats : (n : Decimal) / SATS_IN_BITCOIN ≤ r.task.estimatedFeeInSats / SATS_IN_BITCOIN :=
    div_le_div_of_nonneg_right hle (by norm_num [SATS_IN_BITCOIN])
  linarith

end TaskResult.WithinEstimate

/-! ## The panics of the handler -/

/-- A panic that is neither that of a total that is not positive nor an assertion. -/
def Foreseen (e : Panic) : Prop :=
  e ≠ .explicit "Amount is smaller than zero." ∧ e ≠ .assertion

theorem Foreseen.overflow {e : Panic} (h : e = .overflow) : Foreseen e := by
  rw [h]
  exact ⟨by decide, by decide⟩

theorem Foreseen.of_unwrap {α : Type} {x : Option α} {e : Panic}
    (h : Checked.unwrap x = .error e) : Foreseen e := by
  cases x with
  | none =>
    rw [← Except.error.inj h]
    exact ⟨by decide, by decide⟩
  | some a => exact absurd h (by simp [Checked.unwrap])

theorem Foreseen.of_unwrapOk {α ε : Type} {x : Except ε α} {e : Panic}
    (h : Checked.unwrapOk x = .error e) : Foreseen e := by
  cases x with
  | error e' =>
    rw [← Except.error.inj h]
    exact ⟨by decide, by decide⟩
  | ok a => exact absurd h (by simp [Checked.unwrapOk])

theorem Foreseen.of_exchange {m : Money} {rate : Rate} {e : Panic}
    (h : m.exchange rate = .error e) : Foreseen e := by
  rcases Money.exchange_eq_error h with rfl | rfl
  · exact .overflow rfl
  · exact ⟨by decide, by decide⟩

theorem makeTx_throws (leg : Nat) (outbound : Account) (outboundUid : UserId) (inbound : Account)
    (inboundUid : UserId) (amount : Money) :
    Throws Foreseen (makeTx env leg outbound outboundUid inbound inboundUid amount) := by
  unfold makeTx
  refine .ite (fun _ => .of_returns fun _ => failTx_returns _ _) fun _ => ?_
  refine .ite (fun _ => .of_returns fun _ => failTx_returns _ _) fun _ => ?_
  refine .ite (fun _ => .of_returns fun _ => failTx_returns _ _) fun _ => ?_
  refine .lift_bind (fun e he => .overflow (Decimal.inRange_eq_error he)) fun _ _ => ?_
  refine .lift_bind (fun e he => .overflow (Decimal.inRange_eq_error he)) fun _ _ => ?_
  refine .get_bind fun s => ?_
  dsimp only
  split
  next => exact fun _ => trivial
  next => exact fun _ => trivial

/-- A summary in the currency of its account passes the assertion. -/
theorem makeSummaryTx_throws {x : SummaryTx} (h : x.amount.currency = x.outboundAccount.currency) :
    Throws Foreseen (makeSummaryTx env x) := by
  unfold makeSummaryTx
  refine .ite (fun _ => .ret _) fun _ => .ite (fun hne => absurd h hne) fun _ => ?_
  refine .ite (fun _ => .ret _) fun _ => ?_
  refine .lift_bind (fun e he => .of_exchange he) fun _ _ => ?_
  refine .lift_bind (fun e he => .of_unwrapOk he) fun _ _ => .get_bind fun s => ?_
  dsimp only
  split
  next => exact fun _ => trivial
  next => exact fun _ => trivial

theorem insertIntoLedger_throws (uid : UserId) (a : Account) :
    Throws Foreseen (insertIntoLedger uid a) := by
  refine .get_bind fun s => .ite (fun _ => .write _) fun _ => .panic ?_
  exact ⟨by decide, by decide⟩

theorem sendBankState_throws : Throws Foreseen sendBankState := by
  refine .bind (.get_bind fun s => ?_) fun _ => .write _
  refine .lift_bind (fun e he => .overflow ?_) fun _ _ => .ret _
  exact Decimal.foldlM_overflow (fun _ _ _ => addBalance_error) he

theorem moveExcessFees_throws (excess : Decimal) (liabilities dealerBtc : Account) :
    Throws Foreseen (moveExcessFees env excess liabilities dealerBtc) := by
  refine .ite (fun _ => .ret _) fun _ => (makeTx_throws _ _ _ _ _ _).bind fun r => ?_
  split
  next =>
    refine .bind (.write _) fun _ => .bind (.write _) fun _ => ?_
    refine .bind (.of_returns fun _ => updateAccount_returns _ _) fun _ => ?_
    exact .bind (.of_returns fun _ => updateAccount_returns _ _) fun _ => .ret _
  next => exact .ret _

/-- The assertion is on what `Covered` says. -/
theorem settlePayment_throws {res : PaymentResult} (hcov : res.Covered)
    (liabilities dealerBtc : Account) :
    Throws Foreseen (settlePayment env res liabilities dealerBtc) := by
  unfold settlePayment
  refine .lift_bind (fun e he => .of_unwrap he) fun paid hpaid => ?_
  refine .lift_bind (fun e he => .of_unwrap he) fun fees hfees => ?_
  refine .lift_bind (fun e he => .overflow (Decimal.inRange_eq_error he)) fun spent hspent => ?_
  refine .lift_bind (fun e he => .overflow (Decimal.inRange_eq_error he)) fun excess hexcess => ?_
  obtain ⟨-, rfl⟩ := Decimal.add_eq_ok.mp hspent
  obtain ⟨-, rfl⟩ := Decimal.sub_eq_ok.mp hexcess
  have hle := hcov paid fees (Checked.unwrap_eq_ok.mp hpaid) (Checked.unwrap_eq_ok.mp hfees)
  refine .ite (fun hneg => absurd hneg (not_lt.mpr (sub_nonneg.mpr hle))) fun _ => ?_
  refine (moveExcessFees_throws _ _ _).bind fun _ => .ite (fun _ => .ret _) fun _ => ?_
  split
  next =>
    refine .bind (.of_returns fun _ => findInvoice_returns _ _) fun found => ?_
    split
    next =>
      refine .lift_bind (fun e he => .overflow (Money.trySats_eq_error he)) fun _ _ => ?_
      refine .lift_bind (fun e he => .of_unwrapOk he) fun _ _ => ?_
      refine .lift_bind (fun e he => .of_unwrap he) fun _ _ => ?_
      exact .bind (.of_returns fun _ => updateInvoice_returns _) fun _ => .ret _
    next => exact .ret _
  next => exact .panic ⟨by decide, by decide⟩

/-- `make_tx` leaves a copy in its currency. -/
theorem makeTx_currency (leg : Nat) (outbound : Account) (outboundUid : UserId) (inbound : Account)
    (inboundUid : UserId) (amount : Money) :
    Ensures (makeTx env leg outbound outboundUid inbound inboundUid amount) s fun r _ =>
      r.outbound.currency = outbound.currency := by
  refine (makeTx_spec _ _ _ _ _ _).mono fun r s' htx => ?_
  obtain ⟨d, hout, -⟩ := htx.exists_delta
  rw [hout]
  rfl

theorem refundFiat_throws {res : PaymentResult} {liabilities : Account}
    (hbtc : res.amount.currency = .BTC) (hlic : liabilities.currency = .BTC)
    (refundExchanged : Money) (inbound : Account) :
    Throws Foreseen (refundFiat env res refundExchanged liabilities inbound) := by
  unfold refundFiat
  refine .bind (.of_returns fun _ => getDefaultAccount_returns _ _ _) fun dealerBtc => ?_
  refine .bind (.of_returns fun _ => getDefaultAccount_returns _ _ _) fun dealerFiat => ?_
  refine .after (makeTx_throws _ _ _ _ _ _) (fun _ => makeTx_currency _ _ _ _ _ _) fun r hr => ?_
  split
  next liabilities' dealerBtc' txid =>
    refine (makeTx_throws _ _ _ _ _ _).bind fun r' => ?_
    split
    next =>
      refine .bind (.write _) fun _ => .bind (.write _) fun _ => .bind (.write _) fun _ => ?_
      refine (insertIntoLedger_throws _ _).bind fun _ => ?_
      refine .bind (.of_returns fun _ => updateAccount_returns _ _) fun _ => ?_
      refine .bind (.of_returns fun _ => updateAccount_returns _ _) fun _ => ?_
      refine .bind (.of_returns fun _ => updateAccount_returns _ _) fun _ => ?_
      refine .bind (.of_returns fun _ => updateAccount_returns _ _) fun _ => ?_
      have hcur : res.amount.currency = liabilities'.currency := by
        rw [hbtc, ← hlic]
        exact hr.symm
      refine (makeSummaryTx_throws hcur).bind fun r => ?_
      split
      next => exact .ret _
      next => exact .ret _
    next => exact .ret _
  next => exact .ret _

theorem refundBtc_throws {res : PaymentResult} {liabilities : Account}
    (hbtc : res.amount.currency = .BTC) (hlic : liabilities.currency = .BTC) (inbound : Account) :
    Throws Foreseen (refundBtc env res liabilities inbound) := by
  unfold refundBtc
  refine .after (makeTx_throws _ _ _ _ _ _) (fun _ => makeTx_currency _ _ _ _ _ _) fun r hr => ?_
  split
  next liabilities' inbound' txid =>
    refine .bind (.write _) fun _ => (insertIntoLedger_throws _ _).bind fun _ => ?_
    refine .bind (.of_returns fun _ => updateAccount_returns _ _) fun _ => ?_
    refine .bind (.of_returns fun _ => updateAccount_returns _ _) fun _ => ?_
    have hcur : res.amount.currency = liabilities'.currency := by
      rw [hbtc, ← hlic]
      exact hr.symm
    refine (makeSummaryTx_throws hcur).bind fun r => ?_
    split
    next => exact .ret _
    next => exact .ret _
  next => exact .ret _

/-- A positive total in bitcoin that covers what was paid keeps the handler from both panics. -/
theorem paymentResult_throws {res : PaymentResult} (hpos : 0 < res.amount.value)
    (hbtc : res.amount.currency = .BTC) (hcov : res.Covered) :
    Throws Foreseen (paymentResult env res) := by
  unfold paymentResult
  refine .ite (fun hle => absurd hpos (not_lt.mpr hle)) fun _ => .ite (fun _ => .ret _) fun _ => ?_
  refine .after (.of_returns fun _ => getDefaultAccount_returns _ _ _)
    (fun _ => getLiabilityAccount_spec.mono fun _ _ h => h.2.2.1) fun liabilities hlic => ?_
  refine .get_bind fun s => .ite (fun _ => .ret _) fun _ => ?_
  refine .bind (.of_returns fun _ => getDefaultAccount_returns _ _ _) fun inbound => ?_
  refine .bind (.of_returns fun _ => getDefaultAccount_returns _ _ _) fun dealerBtc => ?_
  refine .bind (.ite (fun _ => settlePayment_throws hcov _ _) fun _ => ?_) fun answered => ?_
  · refine .lift_bind (fun e he => .of_exchange he) fun _ _ => ?_
    refine .lift_bind (fun e he => .of_unwrapOk he) fun refundExchanged _ => ?_
    exact .ite (fun _ => refundFiat_throws hbtc hlic _ _) fun _ => refundBtc_throws hbtc hlic _
  · exact .ite (fun _ => .ret _) fun _ => sendBankState_throws.bind fun _ => .write _

/-! ## Runs -/

/-- An amount of bitcoin went from the bank to the dealer, and nothing else changed. -/
def MovedToDealer (x : Decimal) (s s' : State) : Prop :=
  ∃ b d, balanceChange s s' = Posting.sumAt (feeBookings b d x)

/-- What is known of a result, whenever the bank comes to handle it. -/
structure FeesSettled (cfg : Config) (bank : State) (r : TaskResult) : Prop where
  positive : 0 < r.result.amount.value
  covered : ∀ paid fees, r.result.paymentResponse.amount = some paid →
    r.result.paymentResponse.fees = some fees → paid.value + fees.value ≤ r.result.amount.value
  panics : ∀ env e, deliver cfg ⟨env, .bank (.paymentResult r.result)⟩ bank = .error e →
    e ≠ .explicit "Amount is smaller than zero." ∧ e ≠ .assertion
  /-- Nothing but the estimate less the fee is moved, and it is where no call of the
  database fails. -/
  moved : r.result.isSuccess = true → ∀ env s',
    Delivers cfg bank ⟨env, .bank (.paymentResult r.result)⟩ s' →
      ∃ fees, r.result.paymentResponse.fees = some fees ∧
        (balanceChange bank s' = 0 ∨
          MovedToDealer (r.task.estimatedFeeInSats / SATS_IN_BITCOIN - fees.value) bank s') ∧
        (DbSucceeds env bank →
          MovedToDealer (r.task.estimatedFeeInSats / SATS_IN_BITCOIN - fees.value) bank s')

theorem movedToDealer_zero (h : balanceChange s s' = 0) : MovedToDealer 0 s s' := by
  refine ⟨0, 0, ?_⟩
  rw [h]
  funext r
  simp [feeBookings]

/-- The excess of a result within its estimate needs no rounding. -/
theorem TaskResult.WithinEstimate.excess_exact {r : TaskResult} (h : r.WithinEstimate)
    {fees : Money} (hfees : r.result.paymentResponse.fees = some fees) :
    (Money.new .BTC (r.task.estimatedFeeInSats / SATS_IN_BITCOIN - fees.value)).value
        = r.task.estimatedFeeInSats / SATS_IN_BITCOIN - fees.value ∧
      0 ≤ r.task.estimatedFeeInSats / SATS_IN_BITCOIN - fees.value := by
  obtain ⟨k, hk, hle⟩ := h.fees
  obtain ⟨n, hn⟩ := h.priced.sats
  rw [hfees] at hk
  rw [Option.some.inj hk, Money.fromSats_value, hn]
  rw [hn] at hle
  constructor
  · refine Decimal.roundDp_eq_self (Decimal.HasDp.sub ?_ (hasDp_sats k))
    exact_mod_cast hasDp_sats n
  · rw [← sub_div]
    exact div_nonneg (sub_nonneg.mpr hle) (by norm_num [SATS_IN_BITCOIN])

theorem TaskResult.WithinEstimate.uid {r : TaskResult} (h : r.WithinEstimate) :
    r.result.uid = r.task.uid := by
  obtain ⟨answer, hres, -⟩ := h.result
  rw [hres]
  cases answer with
  | ok response => rfl
  | error e => rfl

theorem TaskResult.WithinEstimate.settled {r : TaskResult} (h : r.WithinEstimate)
    (huser : s.ledger.hasUser r.task.uid = true) : FeesSettled cfg s r := by
  have hpos : 0 < r.result.amount.value := by
    rw [h.amount]
    exact h.priced.positive
  have hbtc : r.result.amount.currency = .BTC := by
    rw [h.amount, h.priced.total]
  refine ⟨hpos, h.covered, fun env e he => ?_, fun hsuccess env s' hstep => ?_⟩
  · exact deliver_throws he (paymentResult_throws hpos hbtc h.covered)
  have hout : ResultOutcome env r.result { s with sent := [] } s' :=
    hstep.ensures (paymentResult_spec _)
  rcases hout.of_success hsuccess with ⟨hmoves, hlost⟩ | ⟨ps, hmoved, hmoves⟩
  · obtain ⟨k, hk, -⟩ := h.fees
    have hchange : balanceChange s s' = 0 := balanceChange_of_moves hmoves
    rw [h.uid] at hlost
    exact ⟨_, hk, .inl hchange, fun hd => (hlost huser (hd.congr rfl rfl rfl)).elim⟩
  · have hchange : balanceChange s s' = Posting.sumAt ps := balanceChange_of_moves hmoves
    obtain ⟨paid, fees, hpaid, hfees, hexcess⟩ := hmoved
    obtain ⟨hexact, hnonneg⟩ := h.excess_exact hfees
    rw [h.excess hpaid fees] at hexcess
    unfold ExcessMoved at hexcess
    rw [hexact] at hexcess
    refine ⟨fees, hfees, ?_⟩
    rcases hexcess with ⟨rfl, hnone⟩ | ⟨b, d, rfl⟩
    · have hchange : balanceChange s s' = 0 := hchange
      refine ⟨.inl hchange, fun hd => ?_⟩
      rw [le_antisymm (hnone (hd.congr rfl rfl rfl)) hnonneg]
      exact movedToDealer_zero hchange
    · exact ⟨.inr ⟨b, d, hchange⟩, fun _ => ⟨b, d, hchange⟩⟩

/-- The conditions on a run: the routes that are probed cost nothing or something, and
the node keeps to the limit it is given. -/
def FeeGuard : TaskEvent → Prop
  | .message d => RoutesCost d.env.lnd
  | .pay t node => KeepsLimit node.lnd t.sendRequest
  | .result _ => True

structure FeesInv (p : PayingBank) : Prop where
  running : ∀ t ∈ p.running, t.Priced ∧ p.bank.ledger.hasUser t.uid = true
  results : ∀ r ∈ p.results, r.WithinEstimate ∧ p.bank.ledger.hasUser r.task.uid = true

/-- Users stay. -/
theorem FeesInv.delivered {p : PayingBank} {d : Delivery} (hinv : FeesInv p)
    (h : Delivers cfg p.bank d s') : FeesInv { p with bank := s' } := by
  obtain ⟨ps, hb⟩ := h.books
  refine ⟨fun t ht => ?_, fun r hr => ?_⟩
  · obtain ⟨hpriced, huser⟩ := hinv.running t ht
    exact ⟨hpriced, hb.moves.hasUser huser⟩
  · obtain ⟨hwithin, huser⟩ := hinv.results r hr
    exact ⟨hwithin, hb.moves.hasUser huser⟩

theorem TaskStep.fees {p p' : PayingBank} {e : TaskEvent} (hmargin : 0 ≤ cfg.lnNetworkFeeMargin)
    (hinv : FeesInv p) (hguard : FeeGuard e) (h : TaskStep cfg p e p') : FeesInv p' := by
  cases h with
  | message step _ =>
    have hinv := hinv.delivered step
    refine ⟨fun t ht => ?_, hinv.results⟩
    rcases List.mem_append.mp ht with ht | ht
    · exact hinv.running t ht
    · rcases step.spawned with hnil | ⟨m, q, a, fee, -, hspawn, htask⟩
      · rw [hnil] at ht
        exact absurd ht (by simp)
      · rw [htask] at ht
        rw [List.mem_singleton.mp ht]
        obtain ⟨decoded, millisats, made⟩ := hspawn.made
        obtain ⟨b, hb, -⟩ := hspawn.accounts.user
        have huid : (q.task fee).uid = m.uid := made.uid
        rw [huid]
        exact ⟨hspawn.priced hmargin hguard, Ledger.hasUser_of_get hb⟩
  | panics running _ =>
    refine ⟨fun t ht => hinv.running t ?_, hinv.results⟩
    rw [running]
    exact List.mem_append.mpr ((List.mem_append.mp ht).imp_right (List.mem_cons_of_mem _))
  | @pay t node l l' res running sends =>
    refine ⟨fun t ht => hinv.running t ?_, fun r hr => ?_⟩
    · rw [running]
      exact List.mem_append.mpr ((List.mem_append.mp ht).imp_right (List.mem_cons_of_mem _))
    · rcases List.mem_append.mp hr with hr | hr
      · exact hinv.results r hr
      · rw [List.mem_singleton.mp hr]
        obtain ⟨hpriced, huser⟩ := hinv.running t (by rw [running]; simp)
        exact ⟨hpriced.withinEstimate hguard sends, huser⟩
  | result next step =>
    have hinv := hinv.delivered step
    refine ⟨hinv.running, fun r hr => hinv.results r ?_⟩
    show r ∈ p.results
    rw [next]
    exact List.mem_cons_of_mem _ hr

/-- In every run in which the node keeps to its limits, every result that waits for the
bank is one it handles without either panic, and of which it moves the estimate less the
fee to the dealer. -/
theorem fees_within_estimate {p : PayingBank} {es : List TaskEvent}
    (hmargin : 0 ≤ cfg.lnNetworkFeeMargin)
    (hrun : Trace (fun p e p' => FeeGuard e ∧ TaskStep cfg p e p') ⟨s, [], [], []⟩ es p) :
    ∀ r ∈ p.results, FeesSettled cfg p.bank r := by
  have hinv := hrun.invariant (I := FeesInv)
    (fun p₁ e p₂ _ hinv hstep => hstep.2.fees hmargin hinv hstep.1) ⟨by simp, by simp⟩
  intro r hr
  obtain ⟨hwithin, huser⟩ := hinv.results r hr
  exact hwithin.settled huser

namespace Sample

/-- A node that pays everything, at a cost of two sats. -/
def tollNode : Node where
  lnd := { lnd with sendPaymentSync := fun _ => some ⟨"", some ⟨2⟩, "shop", ""⟩ }
  pays := fun _ => true
  honest := by
    intro req r h
    have h : some (⟨"", some ⟨2⟩, "shop", ""⟩ : SendResponse) = some r := h
    rw [← Option.some.inj h]
    simp

/-- What the connector makes of its answer. -/
def tollAnswer (t : PaymentTask) : PaymentResult :=
  t.result (LndConnector.payResponse (tollNode.lnd.sendPaymentSync t.sendRequest))

end Sample

/-- Alice's payment was estimated at five sats and cost two: three go to the dealer. -/
theorem fees_of_two_sats : ∃ (r : TaskResult) (p : PayingBank) (es : List TaskEvent) (s' : State),
    Trace (fun p e p' => FeeGuard e ∧ TaskStep Sample.config p e p') ⟨Sample.state, [], [], []⟩
      es p ∧ r ∈ p.results ∧ FeesSettled Sample.config p.bank r ∧
    Delivers Sample.config p.bank ⟨Sample.env 3, .bank (.paymentResult r.result)⟩ s' ∧
    ∃ id, balanceChange p.bank s' (.dealer, id) = 3 / 100000000 := by
  obtain ⟨t, s₂, hrun, hlimit, h⟩ := Sample.exists_task
    (fun s t => t.sendRequest.feeLimit = 5 ∧
      (deliver Sample.config ⟨Sample.env 3, .bank (.paymentResult (Sample.tollAnswer t))⟩ s
        ).toOption.any (fun s' => decide (balanceChange s s' (.dealer, 3) = 3 / 100000000)) = true)
    (by decide +kernel)
  obtain ⟨s', hstep, hchange⟩ := exists_delivers _ _ s₂ _ h
  have hpay : TaskStep Sample.config ⟨s₂, [t], [], []⟩ (.pay t Sample.tollNode)
      ⟨s₂, [] ++ [], [⟨t, Sample.tollNode, Sample.tollAnswer t⟩], []⟩ := .pay rfl (t.run_eq rfl)
  have hcost : ∀ n, RoutesCost (Sample.env n).lnd := by
    intro n query routes hroutes
    exact absurd hroutes (by simp [Sample.env, Sample.lnd])
  have hkeeps : KeepsLimit Sample.tollNode.lnd t.sendRequest := by
    intro r route hr _ hroute
    have hr : some (⟨"", some ⟨2⟩, "shop", ""⟩ : SendResponse) = some r := hr
    rw [← Option.some.inj hr] at hroute
    rw [hlimit, ← Option.some.inj hroute]
    norm_num
  have hrun := (hrun.snoc hpay).restrict (G := FeeGuard) (by simp [FeeGuard, hcost, hkeeps])
  exact ⟨_, _, _, s', hrun, List.mem_singleton.mpr rfl,
    fees_within_estimate (by norm_num [Sample.config]) hrun _ (List.mem_singleton.mpr rfl), hstep,
    3, hchange⟩

end Lndhubx
