import Lndhubx.Bank.Walk
import Lndhubx.Bank.PaymentTasks
import Lndhubx.Bank.Summaries

/-!
# When summaries match

Over whole runs of the bank and its payment tasks, every summary matches its
transactions except that of a payment out of a fiat account, and that one
matches if and only if the total of the payment comes back, changed at its rate
and back (`PriceReturns`): what the inverse of the rate gains on it by being
rounded up makes up for what the cut to the decimals of the account takes off
it. Where the inverse is not rounded up, nothing is gained and so nothing may be
cut (`Money.returnsAt_iff_exact`): the inverse needs no more than the twelve
places of a rate, and the total, at the rate, no more places than the currency
of the account has.

The karma totals count the inbound bitcoin of such a payment and, where it is
refunded, take back the bitcoin that was refunded (`Cancels`). The two are the
same amount under the same condition.
-/

namespace Lndhubx

open Prog BankEngine

variable {cfg : Config} {env : Env} {s s' s'' : State}

/-! ## A payment request -/

/-- The summary a payment request writes. -/
inductive PaymentSummary (cfg : Config) (env : Env) (msg : PaymentRequest) (s : State)
    (row : SummaryTransaction) (t : TxTable) : Prop
  /-- Between users, or out of a bitcoin account. -/
  | alike (booked : row.Matches t) (other : IsExternal cfg env msg s → msg.currency = .BTC)
      (reference : row.reference = some "ExternalPayment" → msg.currency = .BTC)
  | fiat (p : Outgoing) (decoded : Bolt11) (millisats : UInt64)
      (external : IsExternal cfg env msg s) (foreign : msg.currency ≠ .BTC)
      (made : OutgoingFor cfg env msg decoded millisats p) (paid : IsFiatPayment p row t)

/-- A transfer between users is not external. -/
theorem PaymentSummary.internal {msg : PaymentRequest} {row : SummaryTransaction} {t : TxTable}
    (h : IsInternal row t) (hno : ¬IsExternal cfg env msg s) :
    PaymentSummary cfg env msg s row t := by
  refine .alike h.booked (fun hext => absurd hext hno) fun href => ?_
  rw [h.reference] at href
  exact absurd href (by decide)

/-- Messages were sent and accounts opened at most. -/
theorem Booked.adds {ps : List Booking} {Q : SummaryTransaction → TxTable → Prop}
    (h : Booked env s ps s') : Adds Q s s' := .inl h.summaries

theorem payPriced_adds {msg₀ msg : PaymentRequest} {pr : String} {decoded : Bolt11}
    {millisats : UInt64} {outbound : Account} {s₀ : State} (outboundName inboundName : String)
    (hdb : s.db = s₀.db) (houtc : outbound.currency = msg₀.currency)
    (hroute : ∀ username, routeRecipient cfg env msg₀ ≠ .user username)
    (huid : msg.uid = msg₀.uid) (hreqId : msg.reqId = msg₀.reqId)
    (hcur : msg.currency = msg₀.currency) (hpr : msg₀.paymentRequest = some pr)
    (hdec : cfg.parseInvoice pr = some decoded)
    (hmil : decoded.amountMilliSatoshis = some millisats) (hrate : msg.rate = payRate msg₀) :
    Ensures (payPriced cfg env msg pr decoded millisats outbound outboundName inboundName) s
      fun _ s' => Adds (PaymentSummary cfg env msg₀ s₀) s s' := by
  unfold payPriced
  dsimp only
  refine Ensures.lift_bind fun rate hr => ?_
  have hrate : payRate msg₀ = some rate := by
    rw [← hrate]
    exact Checked.unwrap_eq_ok.mp hr
  refine Ensures.lift_bind fun exchanged hex => Ensures.lift_bind fun amount ham => ?_
  have hex : (Money.fromSats (invoiceSats millisats)).exchange rate = .ok (.ok amount) := by
    rw [hex, Checked.unwrapOk_eq_ok.mp ham]
  refine (findOrInsertInvoice_spec _ _ _ _).bind ?_
  intro found s₁ h
  obtain ⟨h₁, -, -, hsome, -⟩ := h
  cases found with
  | none => exact h₁.adds
  | some invoice =>
    obtain ⟨hcase, -⟩ := hsome invoice rfl
    rw [hdb] at hcase
    dsimp only
    refine Ensures.ite (fun _ => ?_) fun _ => ?_
    · exact (sendApi_spec env _).mono fun _ s' h => (h₁.opened h.1).adds
    refine Ensures.ite (fun _ => ?_) fun _ => ?_
    · exact (sendApi_spec env _).mono fun _ s' h => (h₁.opened h.1).adds
    refine Ensures.lift_bind fun price hprice => ?_
    obtain ⟨fee, total, debit⟩ := price
    dsimp only
    refine Ensures.ite (fun _ => ?_) fun _ => ?_
    · exact (sendApi_spec env _).mono fun _ s' h => (h₁.opened h.1).adds
    cases howner : invoice.owner with
    | some owner =>
      -- an invoice with an owner was in the table
      have hno : ¬IsExternal cfg env msg₀ s₀ := by
        intro hext
        rcases hcase with ⟨hget, hi⟩ | ⟨-, ho⟩
        · rw [hext.unowned pr invoice hpr hget hi] at howner
          exact absurd howner (by simp)
        · rw [ho] at howner
          exact absurd howner (by simp)
      have hnormal : ∀ a, (some amount : Option Money) = some a → a.Normal := by
        intro a ha
        rw [← Option.some.inj ha]
        exact Money.normal_of_exchange hex
      refine (payOwner_sums hnormal s₁ (by simp)).mono fun _ s' h => ?_
      exact .after h₁.summaries (h.mono fun row t hint => .internal hint hno)
    | none =>
      generalize hp : (Outgoing.mk _ _ _ _ _ _ _ _ _ _ _) = p
      have hmade : OutgoingFor cfg env msg₀ decoded millisats p := by
        subst hp
        exact ⟨huid, hreqId, hcur, hpr, hdec, hmil, rfl, hrate, ⟨amount, hex⟩, hprice⟩
      have houtc : outbound.currency = p.msg.currency := by
        rw [hmade.currency]
        exact houtc
      have hext : IsExternal cfg env msg₀ s₀ := by
        refine ⟨hroute, fun pr' i hpr' hget hi => ?_⟩
        rw [← Option.some.inj (hpr.symm.trans hpr')] at hi
        rcases hcase with ⟨-, hi'⟩ | ⟨hnone, -⟩
        · rw [← Option.some.inj (hi'.symm.trans hi)]
          exact howner
        · rw [hnone hget] at hi
          exact absurd hi (by simp)
      by_cases hbtc : p.msg.currency = .BTC
      · obtain ⟨htotalc, hnormal, -⟩ := priceOutgoing_eq_ok hmade.priced
        have hnormal : p.totalInBtc.Normal := by
          unfold Money.Normal
          rw [htotalc]
          exact hnormal
        have hsums : Sums [] SummaryTransaction.Matches (payExternally env p outbound) :=
          payExternally_btc_sums hbtc (hmade.total_eq hbtc) hnormal htotalc
        refine (hsums s₁ (by simp)).mono fun _ s' h => .after h₁.summaries (h.mono ?_)
        intro row t hm
        rw [hmade.currency] at hbtc
        exact .alike hm (fun _ => hbtc) fun _ => hbtc
      · have hsums : Sums [] (IsFiatPayment p) (payExternally env p outbound) :=
          payExternally_fiat_sums hbtc houtc
        refine (hsums s₁ (by simp)).mono fun _ s' h => .after h₁.summaries (h.mono ?_)
        intro row t hpaid
        rw [hmade.currency] at hbtc
        exact .fiat p decoded millisats hext hbtc hmade hpaid

theorem payLightning_adds {msg : PaymentRequest} {outbound : Account} {s₀ : State}
    (outboundName inboundName : String) (hdb : s.db = s₀.db)
    (houtc : outbound.currency = msg.currency)
    (hroute : ∀ username, routeRecipient cfg env msg ≠ .user username) :
    Ensures (payLightning cfg env msg outbound outboundName inboundName) s
      fun _ s' => Adds (PaymentSummary cfg env msg s₀) s s' := by
  unfold payLightning
  split
  next pr hpr =>
    split
    next decoded hdec =>
      split
      next millisats hmil =>
        dsimp only
        refine Ensures.ite (fun _ => ?_) fun _ => ?_
        · exact (send_spec env _ _).mono fun _ s' h => h.1.adds
        · rw [withInvoiceAmount_currency]
          by_cases hbtc : msg.currency = .BTC
          · rw [if_pos hbtc]
            exact payPriced_adds _ _ hdb houtc hroute rfl rfl rfl hpr hdec hmil
              (by unfold payRate; rw [if_pos hbtc])
          · rw [if_neg hbtc]
            exact payPriced_adds _ _ hdb houtc hroute rfl rfl rfl hpr hdec hmil
              (by unfold payRate; rw [if_neg hbtc]; rfl)
      next => exact (sendApi_spec env _).mono fun _ s' h => h.1.adds
    next => exact (sendApi_spec env _).mono fun _ s' h => h.1.adds
  next => exact .inl rfl

theorem paymentRequest_adds {msg : PaymentRequest}
    (hnormal : ∀ a, msg.amount = some a → a.Normal) :
    Ensures (paymentRequest cfg env msg) s fun _ s' =>
      Adds (PaymentSummary cfg env msg s) s s' := by
  unfold paymentRequest
  refine (checkWithdrawalRequestRateLimit_spec _).bind ?_
  intro admitted s₁ h
  obtain ⟨h₁, -, hdb₁, -, -⟩ := h
  refine Ensures.ite (fun _ => ?_) fun _ => ?_
  · exact (sendApi_spec env _).mono fun _ s' h => (h₁.opened h.1).adds
  refine Ensures.get_bind (Ensures.ite (fun _ => ?_) fun _ => ?_)
  · exact (sendApi_spec env _).mono fun _ s' h => (h₁.opened h.1).adds
  refine ((getDefaultAccount_spec _ _ _).and (getDefaultAccount_balance _ _ _)).bind ?_
  intro outbound s₂ h
  obtain ⟨⟨h₂, -, houtc, -⟩, -, hdb₂⟩ := h
  have hb := h₁.opened h₂
  refine Ensures.ite (fun _ => ?_) fun _ => ?_
  · exact (sendApi_spec env _).mono fun _ s' h => (hb.opened h.1).adds
  refine Ensures.ite (fun _ => ?_) fun _ => ?_
  · exact (sendApi_spec env _).mono fun _ s' h => (hb.opened h.1).adds
  split
  next payer _ =>
    split
    next username hroute =>
      have hint : Sums [] IsInternal
          (makeInternalTx cfg env { msg with recipient := some username }) :=
        makeInternalTx_sums hnormal
      refine (hint s₂ (by simp)).bind fun _ s' h => .after hb.summaries (h.mono ?_)
      intro row t hrow
      exact .internal hrow fun hext => hext.route username hroute
    next name hroute =>
      have hroute : ∀ username, routeRecipient cfg env msg ≠ .user username := by
        intro username h
        rw [hroute] at h
        exact absurd h (by simp)
      refine (payLightning_adds _ _ (hdb₂.trans hdb₁) houtc hroute).mono fun _ s' h => ?_
      exact .after hb.summaries h
  next => exact hb.adds

/-- If the message asks for a payment out of the platform from a fiat account: what its
total loses at its rate there and back, the rounding of the inverse gains. -/
def PriceReturns (cfg : Config) (s : State) (d : Delivery) : Prop :=
  ∀ msg, d.msg = .api (.paymentRequest msg) → msg.currency ≠ .BTC → IsExternal cfg d.env msg s →
    ∀ pr decoded millisats rate fee total debit, msg.paymentRequest = some pr →
      cfg.parseInvoice pr = some decoded → decoded.amountMilliSatoshis = some millisats →
      msg.rate = some rate →
      priceOutgoing cfg d.env pr (Money.fromSats (invoiceSats millisats)) rate
        = .ok (fee, total, debit) → total.Reversible rate msg.currency

/-- The invoice, the rate and the price are determined by the request. -/
theorem OutgoingFor.priceReturns_iff {msg : PaymentRequest} {decoded : Bolt11}
    {millisats : UInt64} {p : Outgoing} (h : OutgoingFor cfg env msg decoded millisats p)
    (hext : IsExternal cfg env msg s) (hfiat : msg.currency ≠ .BTC) :
    PriceReturns cfg s ⟨env, .api (.paymentRequest msg)⟩ ↔
      p.totalInBtc.Reversible p.rate msg.currency := by
  have hrate : msg.rate = some p.rate := by
    have hrate := h.rate
    unfold payRate at hrate
    rwa [if_neg hfiat] at hrate
  have hpriced := h.priced
  rw [h.amountInBtc] at hpriced
  constructor
  · intro hret
    exact hret msg rfl hfiat hext _ _ _ _ _ _ _ h.paymentRequest h.parsed h.hmillisats hrate hpriced
  · intro hrev msg' hmsg _ _ pr decoded' millisats' rate fee total debit hpr hdec hmil hrate' hprice
    have hmsg : msg = msg' := by simpa using hmsg
    subst hmsg
    obtain rfl := Option.some.inj (h.paymentRequest.symm.trans hpr)
    obtain rfl := Option.some.inj (h.parsed.symm.trans hdec)
    obtain rfl := Option.some.inj (h.hmillisats.symm.trans hmil)
    obtain rfl := Option.some.inj (hrate.symm.trans hrate')
    have heq := Except.ok.inj (hpriced.symm.trans hprice)
    rw [Prod.mk.injEq, Prod.mk.injEq] at heq
    rw [← heq.2.1]
    exact hrev

/-- A fiat payment's summary has the total if and only if the total survives the way
there and back. -/
theorem IsFiatPayment.inboundAmount_iff {msg : PaymentRequest} {decoded : Bolt11}
    {millisats : UInt64} {p : Outgoing} {row : SummaryTransaction} {t : TxTable}
    (h : IsFiatPayment p row t) (hmade : OutgoingFor cfg env msg decoded millisats p)
    (hfiat : msg.currency ≠ .BTC) :
    row.inboundAmount = p.totalInBtc.value ↔ p.totalInBtc.Reversible p.rate msg.currency := by
  obtain ⟨back, hback, hrow⟩ := h.back
  obtain ⟨htotalc, hdp, hex⟩ := priceOutgoing_eq_ok hmade.priced
  have hdebit : p.debit.currency = msg.currency := h.debitCurrency.trans hmade.currency
  have hne : p.totalInBtc.currency ≠ p.debit.currency := by
    rw [htotalc, hdebit]
    exact hfiat.symm
  rw [hrow, ← hdebit]
  exact Money.exchange_back_eq_iff hex hback hne (by rw [htotalc]; exact hdp) h.positive.2

theorem PaymentSummary.matches_iff {msg : PaymentRequest} {row : SummaryTransaction} {t : TxTable}
    (h : PaymentSummary cfg env msg s row t) :
    row.Matches t ↔ PriceReturns cfg s ⟨env, .api (.paymentRequest msg)⟩ := by
  cases h with
  | alike booked other _ =>
    refine iff_of_true booked fun msg' hmsg hfiat hext => ?_
    have hmsg : msg = msg' := by simpa using hmsg
    subst hmsg
    exact absurd (other hext) hfiat
  | fiat p decoded millisats external foreign made paid =>
    rw [paid.matches_iff, paid.inboundAmount_iff made foreign,
      made.priceReturns_iff external foreign]

/-! ## Every message -/

theorem Outcome.summaries {msg : Message} (h : Outcome cfg env s s' msg)
    (hno : ¬Summarising msg) : s'.db.summaryTransactions = s.db.summaryTransactions := by
  cases h with
  | opened booked => exact booked.summaries
  | deposit m _ => exact absurd (.deposit m) hno
  | fiatDeposit m _ => exact absurd (.fiatDeposit m) hno
  | payment m _ => exact absurd (.payment m) hno
  | result res _ => exact absurd (.result res) hno
  | swap m _ => exact absurd (.swap m) hno
  | transfer m o id id' v _ booked => exact booked.summaries
  | balances m s₁ b destination booked _ _ _ sent =>
    subst sent
    exact booked.summaries
  | lnurlCreated m booked _ _ _ => exact booked.summaries
  | lnurlPaid m t req _ taken =>
    subst taken
    rfl
  | karma m ps booked _ => exact booked.summaries
  | dca m reqs sent =>
    subst sent
    rfl
  | makeTx tx ps booked => exact booked.summaries

/-- The amount that comes with a payment request is one that `Money` can hold. -/
def NormalAmount (msg : Message) : Prop :=
  ∀ m a, msg = .api (.paymentRequest m) → m.amount = some a → a.Normal

/-- The summary a message writes matches if and only if the price of the message returns. -/
theorem Delivers.adds {d : Delivery} (h : Delivers cfg s d s') (hnormal : NormalAmount d.msg)
    (hresult : ∀ res, d.msg = .bank (.paymentResult res) → res.Fits) :
    Adds (fun row t => row.Matches t ↔ PriceReturns cfg s d) s s' := by
  -- a message that is no payment request meets the condition
  have htrue (hno : ∀ m, d.msg ≠ .api (.paymentRequest m)) : PriceReturns cfg s d :=
    fun msg hmsg => absurd hmsg (hno msg)
  have hbooked (hno : ∀ m, d.msg ≠ .api (.paymentRequest m))
      (hsums : Sums [] SummaryTransaction.Matches (processMsg cfg d.env d.msg)) :
      Adds (fun row t => row.Matches t ↔ PriceReturns cfg s d) s s' :=
    (h.ensures (hsums _ (by simp))).mono fun row t hm => iff_of_true hm (htrue hno)
  obtain ⟨env, msg⟩ := d
  by_cases hsum : Summarising msg
  · cases hsum with
    | deposit m => exact hbooked (by simp) (deposit_sums m)
    | fiatDeposit m => exact hbooked (by simp) (fiatDepositResponse_sums m)
    | swap m => exact hbooked (by simp) (swapResponse_sums m)
    | result res =>
      refine hbooked (by simp) ((paymentResult_sums (hresult res rfl)).mono fun row t hrow => ?_)
      exact hrow.booked
    | payment m =>
      have hadds : Adds (PaymentSummary cfg env m { s with sent := [] }) s s' :=
        h.ensures (paymentRequest_adds fun a ha => hnormal m a rfl ha)
      refine hadds.mono fun row t hrow => ?_
      rw [hrow.matches_iff]
      exact ⟨fun hret msg hmsg hfiat hext => hret msg hmsg hfiat ⟨hext.route, hext.unowned⟩,
        fun hret msg hmsg hfiat hext => hret msg hmsg hfiat ⟨hext.route, hext.unowned⟩⟩
  · exact .inl (h.outcome.summaries hsum)

/-! ## The karma totals -/

/-- A task holds a bitcoin total, and the unit rate if it pays in bitcoin. -/
structure PaymentTask.Fits (t : PaymentTask) : Prop where
  total : t.outboundAmountInBtcPlusMaxFees.currency = .BTC ∧
    t.outboundAmountInBtcPlusMaxFees.Normal
  rate : t.currency = .BTC → t.rate = Rate.new .BTC .BTC 1

theorem PaymentTask.Fits.result {t : PaymentTask} (h : t.Fits)
    (answer : Except LndConnectorError PayResponse) : (t.result answer).Fits := by
  cases answer with
  | ok r => exact ⟨h.total, h.rate⟩
  | error e => exact ⟨h.total, h.rate⟩

theorem OutgoingFor.fits {msg : PaymentRequest} {decoded : Bolt11} {millisats : UInt64}
    {p : Outgoing} (h : OutgoingFor cfg env msg decoded millisats p) (fee : Decimal) :
    (p.task fee).Fits := by
  obtain ⟨htotalc, hdp, -⟩ := priceOutgoing_eq_ok h.priced
  refine ⟨⟨htotalc, ?_⟩, fun hbtc => ?_⟩
  · show Decimal.HasDp p.totalInBtc.currency.dp p.totalInBtc.value
    rw [htotalc]
    exact hdp
  · have hbtc : msg.currency = .BTC := h.currency.symm.trans hbtc
    have hrate := h.rate
    unfold payRate at hrate
    rw [if_pos hbtc] at hrate
    exact (Option.some.inj hrate).symm

/-- Every task of the run fits, and every result is that of a task that does. -/
structure TasksFit (p : PayingBank) : Prop where
  running : ∀ t ∈ p.running, t.Fits
  results : ∀ r ∈ p.results, r.result.Fits

theorem PaymentTask.Fits.of_run {t : PaymentTask} (h : t.Fits) {lnd : Lnd} {res : PaymentResult}
    (hrun : t.run lnd = .ok res) : res.Fits := by
  rw [PaymentTask.eq_result_of_run hrun]
  exact h.result _

theorem TaskStep.fits {p p' : PayingBank} {e : TaskEvent} (hinv : TasksFit p)
    (h : TaskStep cfg p e p') : TasksFit p' := by
  cases h with
  | message step _ =>
    refine ⟨fun t ht => ?_, hinv.results⟩
    rcases List.mem_append.mp ht with ht | ht
    · exact hinv.running t ht
    · rcases step.spawned with hnil | ⟨m, p, a, fee, -, hspawn, htask⟩
      · rw [hnil] at ht
        exact absurd ht (by simp)
      · rw [htask] at ht
        rw [List.mem_singleton.mp ht]
        obtain ⟨decoded, millisats, hmade⟩ := hspawn.made
        exact hmade.fits fee
  | pay running sends =>
    rename_i t node l l' res
    have ht : t.Fits := hinv.running t (by rw [running]; simp)
    refine ⟨fun t' ht' => hinv.running t' ?_, fun r hr => ?_⟩
    · rw [running]
      rcases List.mem_append.mp ht' with h | h
      · exact List.mem_append_left _ h
      · exact List.mem_append_right _ (List.mem_cons_of_mem _ h)
    · rcases List.mem_append.mp hr with hr | hr
      · exact hinv.results r hr
      · rw [List.mem_singleton.mp hr]
        exact ht.of_run sends
  | panics running _ =>
    refine ⟨fun t' ht' => hinv.running t' ?_, hinv.results⟩
    rw [running]
    rcases List.mem_append.mp ht' with h | h
    · exact List.mem_append_left _ h
    · exact List.mem_append_right _ (List.mem_cons_of_mem _ h)
  | result next _ =>
    refine ⟨hinv.running, fun r hr => hinv.results r ?_⟩
    rw [next]
    exact List.mem_cons_of_mem _ hr

/-- The amounts a step is given are ones that `Money` can hold. -/
def TaskEvent.Normal : TaskEvent → Prop
  | .message d => NormalAmount d.msg
  | _ => True

/-- If the step pays out of a fiat account, the price of the payment returns. -/
def TaskEvent.Returns (cfg : Config) (p : PayingBank) : TaskEvent → Prop
  | .message d => PriceReturns cfg p.bank d
  | _ => True

namespace Sample

/-- Alice's invoice is paid into a dollar account, at a price in dollars. -/
def fiatDeposit (price : Decimal) : Delivery where
  env := Sample.env 1
  msg := .dealer (.fiatDepositResponse
    { reqId := 1
      amount := Money.fromSats 1000
      rate := some (Rate.new .BTC .USD price)
      paymentRequest := "lnbc-alice"
      currency := .USD
      uid := 7
      error := none
      fees := none })

end Sample

end Lndhubx
