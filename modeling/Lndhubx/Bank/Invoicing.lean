import Lndhubx.Bank.Deposits
import Lndhubx.Bank.Sends

/-!
# From a request to the account that is credited

A user asks for an invoice in some currency and may name an account, or the
currency of one. The invoice is made by `invoiceRequest`, or, in a fiat currency,
by `invoiceResponse` after the dealer has answered; when it is paid, `deposit`
reads two columns of its row and credits bitcoin or asks the dealer to convert.
`InvoiceMade` and `DepositCredits` follow both ways from end to end.

The currency that is credited is the one asked for exactly if the request is
`Routed` (`deposit_currency_iff`). What goes astray: the dealer's answer drops
the account and the target of a fiat invoice, and for a bitcoin invoice a target
beside an account in bitcoin is kept.
-/

namespace Lndhubx

open Prog BankEngine

variable {cfg : Config} {dcfg : DealerConfig} {env : Env} {s s' : State}

/-! ## What the handlers store and forward -/

/-- The request as it goes on: the currency of the chosen account is its target,
if it is another one than that of the invoice. -/
def InvoiceRequest.routed (msg : InvoiceRequest) (c : Currency) : InvoiceRequest :=
  if c ≠ msg.currency then { msg with targetAccountCurrency := some c } else msg

theorem InvoiceRequest.routed_texts (msg : InvoiceRequest) (c : Currency) :
    (msg.routed c).meta = msg.meta ∧ (msg.routed c).metadata = msg.metadata ∧
      (msg.routed c).amount = msg.amount := by
  unfold routed
  split <;> exact ⟨rfl, rfl, rfl⟩

/-- The currency of the account the bank chooses for a request. -/
def InvoiceRequest.Chooses (msg : InvoiceRequest) (s : State) (c : Currency) : Prop :=
  match msg.accountId with
  | some id => ∃ a, s.ledger.get (.user msg.uid, id) = some a ∧ a.currency = c
  | none => c = msg.currency

/-- The texts and the amount of an invoice are those of the request. -/
structure CreatedFor (msg : InvoiceRequest) (i : Invoice) : Prop where
  reference : i.reference = some msg.meta
  description : i.description = msg.metadata
  valueMsat : ∃ sats, wholeSats msg.amount = .ok sats ∧
    i.valueMsat = LndConnector.asI64 (LndConnector.asI64 sats * 1000)

/-- What a request for an invoice does to the invoices and sends to the dealer. -/
inductive RequestOutcome (msg : InvoiceRequest) (s s' : State) : Prop
  /-- No invoice is made, and none will be. -/
  | refused (same : s'.db.invoices = s.db.invoices)
      (sent : s'.sent = s.sent ∨ ∃ answer, s'.sent = s.sent ++ [(.api answer, .api)])
  /-- The dealer is asked for a rate. -/
  | forwarded (c : Currency) (chosen : msg.Chooses s c) (fiat : msg.currency ≠ .BTC)
      (same : s'.db.invoices = s.db.invoices)
      (sent : s'.sent = s.sent ++ [(.api (.invoiceRequest (msg.routed c)), .dealer)])
  /-- A bitcoin invoice is stored. -/
  | made (c : Currency) (chosen : msg.Chooses s c) (btc : msg.currency = .BTC) (i : Invoice)
      (stored : s.db.invoices.insert i = some s'.db.invoices)
      (currency : i.currency = some (Currency.display .BTC))
      (target : i.targetAccountCurrency = (msg.routed c).targetAccountCurrency.map (·.display))
      (sent : ∃ answer, s'.sent = s.sent ++ [(.api answer, .api)]) (created : CreatedFor msg i)

/-- What the dealer's answer does to the invoices. -/
inductive ResponseOutcome (msg : InvoiceResponse) (s s' : State) : Prop
  | refused (same : s'.db.invoices = s.db.invoices)
  | made (rate : Rate) (hrate : msg.rate = some rate) (sats : Nat)
      (hsats : satsOfFiat msg.amount rate = .ok sats) (i : Invoice)
      (stored : s.db.invoices.insert i = some s'.db.invoices)
      (value : i.value = LndConnector.asI64 sats)
      (currency : i.currency = some msg.currency.display) (target : i.targetAccountCurrency = none)

theorem getDefaultAccount_sent (o : Owner) (currency : Currency) (t : Option AccountType) :
    Ensures (getDefaultAccount env o currency t) s fun a s' =>
      s'.db = s.db ∧ s'.sent = s.sent ∧ a.currency = currency := by
  refine Ensures.get_bind ?_
  cases hfound : (env.order (s.ledger.holder o).values).filter (isDefaultFor currency t) with
  | nil => exact ⟨rfl, rfl, rfl⟩
  | cons a l =>
    have hmem : a ∈ (env.order (s.ledger.holder o).values).filter (isDefaultFor currency t) := by
      rw [hfound]
      exact List.mem_cons_self ..
    exact ⟨rfl, rfl, (isDefaultFor_iff.mp (List.mem_filter.mp hmem).2).1⟩

theorem targetAccount_chosen (uid : UserId) (accountId : Option Uuid) (currency : Currency) :
    Ensures (targetAccount env uid accountId currency) s fun r s' =>
      s'.db = s.db ∧ s'.sent = s.sent ∧ ∀ a, r = .ok a →
        (∀ id, accountId = some id → s.ledger.get (.user uid, id) = some a) ∧
        (accountId = none → a.currency = currency) := by
  unfold targetAccount
  refine Ensures.get_bind ?_
  cases accountId with
  | some id =>
    dsimp only
    cases hget : s.ledger.get (.user uid, id) with
    | some a =>
      refine .ret ⟨rfl, rfl, fun b hb => ⟨fun id' hid => ?_, fun h => absurd h (by simp)⟩⟩
      injection hid with hid
      injection hb with hb
      rw [← hid, hget, hb]
    | none => exact .ret ⟨rfl, rfl, fun b hb => absurd hb (by simp)⟩
  | none =>
    dsimp only
    refine (getDefaultAccount_sent _ _ _).bind fun a s₁ h => ?_
    obtain ⟨hdb, hsent, hc⟩ := h
    refine .ret ⟨hdb, hsent, fun b hb => ⟨fun id hid => absurd hid (by simp), fun _ => ?_⟩⟩
    injection hb with hb
    rw [← hb]
    exact hc

/-- An insert leaves the messages alone. -/
theorem insertInvoice_rows (i : Invoice) :
    Ensures (insertInvoice env i) s fun stored s' => s'.sent = s.sent ∧
      (stored = true → s.db.invoices.insert i = some s'.db.invoices) ∧
      (stored = false → s'.db.invoices = s.db.invoices) := by
  refine Ensures.get_bind ?_
  split
  next invoices hins =>
    split at hins
    next => exact ⟨rfl, fun _ => hins, fun h => absurd h (by simp)⟩
    next => exact absurd hins (by simp)
  next => exact ⟨rfl, fun h => absurd h (by simp), fun _ => rfl⟩

theorem createInvoice_columns {fns : TextFns} {lnd : Lnd} {now amount : Nat} {memo : String}
    {uid : UserId} {accountId : Uuid} {metadata : Option String} {i : Invoice}
    (h : LndConnector.createInvoice fns lnd now amount memo uid accountId metadata = .ok i) :
    i.value = LndConnector.asI64 amount ∧ i.targetAccountCurrency = none ∧
      i.reference = some memo ∧ i.description = metadata ∧
      i.valueMsat = LndConnector.asI64 (LndConnector.asI64 amount * 1000) := by
  unfold LndConnector.createInvoice at h
  split at h
  next => exact absurd h (by simp)
  next =>
    split at h
    next => exact absurd h (by simp)
    next =>
      injection h with h
      refine ⟨?_, ?_, ?_, ?_, ?_⟩ <;> rw [← h]

theorem invoiceRequest_outcome (msg : InvoiceRequest) :
    Ensures (invoiceRequest cfg env msg) s fun _ s' => RequestOutcome msg s s' := by
  have hrefused {s₁ : State} (answer : Api) (hdb : s₁.db.invoices = s.db.invoices)
      (hsent : s₁.sent = s.sent) :
      Ensures (sendApi answer) s₁ fun _ s' => RequestOutcome msg s s' := by
    have h : RequestOutcome msg s { s₁ with sent := s₁.sent ++ [(.api answer, .api)] } :=
      .refused hdb (.inr ⟨answer, by rw [hsent]⟩)
    exact h
  unfold invoiceRequest
  refine Ensures.bind (R := fun _ s₁ => s₁.db = s.db ∧ s₁.sent = s.sent ∧ s₁.ledger = s.ledger)
    ⟨rfl, rfl, rfl⟩ fun admitted s₁ h₁ => ?_
  obtain ⟨hdb₁, hsent₁, hledger₁⟩ := h₁
  refine Ensures.ite (fun _ => hrefused _ (by rw [hdb₁]) hsent₁) fun _ => ?_
  refine Ensures.modify_bind ?_
  refine Ensures.ite (fun _ => hrefused _ (by rw [← hdb₁]) hsent₁) fun _ => ?_
  refine Ensures.ite (fun _ => hrefused _ (by rw [← hdb₁]) hsent₁) fun _ => ?_
  refine (targetAccount_chosen _ _ _).bind fun r s₂ h₂ => ?_
  obtain ⟨hdb₂, hsent₂, htarget⟩ := h₂
  have hdb₂ : s₂.db = s.db := hdb₂.trans hdb₁
  have hsent₂ : s₂.sent = s.sent := hsent₂.trans hsent₁
  cases r with
  | error id => exact hrefused _ (by rw [hdb₂]) hsent₂
  | ok target =>
    -- the account that was chosen is the one that was named, or the default
    have hchosen : msg.Chooses s target.currency := by
      unfold InvoiceRequest.Chooses
      obtain ⟨hnamed, hdefault⟩ := htarget target rfl
      split
      next id hid =>
        have hget := hnamed id hid
        rw [Ledger.get_openUser, hledger₁] at hget
        exact ⟨target, hget, rfl⟩
      next hnone => exact hdefault hnone
    dsimp only
    show Ensures (if (msg.routed target.currency).currency ≠ .BTC then _ else _) s₂ _
    have hcurrency : (msg.routed target.currency).currency = msg.currency := by
      unfold InvoiceRequest.routed
      split <;> rfl
    refine Ensures.ite (fun hfiat => ?_) fun hbtc => ?_
    · rw [hcurrency] at hfiat
      exact .forwarded target.currency hchosen hfiat (by show s₂.db.invoices = _; rw [hdb₂])
        (by show s₂.sent ++ _ = _; rw [hsent₂]; rfl)
    have hbtc : msg.currency = .BTC := by
      rw [← hcurrency]
      exact not_not.mp hbtc
    refine Ensures.lift_bind fun amountInSats hsats => ?_
    split
    next invoice hmade =>
      obtain ⟨_, _, hreference, hdescription, hmsat⟩ := createInvoice_columns hmade
      refine (insertInvoice_rows _).bind fun stored s₃ h₃ => ?_
      obtain ⟨hsent₃, hstored, hlost⟩ := h₃
      cases stored with
      | false =>
        refine Ensures.ite (fun _ => hrefused _ ?_ (hsent₃.trans hsent₂)) fun h => absurd rfl h
        rw [hlost rfl, hdb₂]
      | true =>
        refine Ensures.ite (fun h => absurd h (by simp)) fun _ => ?_
        -- the row is the one that was made of the routed request
        have hins := hstored rfl
        rw [hdb₂] at hins
        obtain ⟨hmeta, hmetadata, hamount⟩ := msg.routed_texts target.currency
        refine .made target.currency hchosen hbtc _ hins ?_ rfl
          ⟨_, congrArg (· ++ _) (hsent₃.trans hsent₂)⟩ ⟨?_, ?_, amountInSats, ?_, hmsat⟩
        · show some (msg.routed target.currency).currency.display = _
          rw [hcurrency, hbtc]
        · exact hreference.trans (congrArg some hmeta)
        · exact hdescription.trans hmetadata
        · rw [← hamount]
          exact hsats
    next => exact .refused (by rw [hdb₂]) (.inl hsent₂)

theorem invoiceResponse_outcome (msg : InvoiceResponse) :
    Ensures (invoiceResponse cfg env msg) s fun _ s' => ResponseOutcome msg s s' := by
  unfold invoiceResponse
  split
  next rate hrate =>
    refine Ensures.lift_bind fun sats hsats => ?_
    refine Ensures.ite (fun _ => .refused rfl) fun _ => ?_
    refine Ensures.modify_bind ?_
    refine (targetAccount_chosen _ _ _).bind fun r s₁ h₁ => ?_
    have hdb₁ : s₁.db = s.db := h₁.1
    cases r with
    | error id => exact .refused (by show s₁.db.invoices = _; rw [hdb₁])
    | ok target =>
      dsimp only
      split
      next invoice hmade =>
        refine (insertInvoice_rows _).bind fun stored s₂ h₂ => ?_
        obtain ⟨-, hstored, hlost⟩ := h₂
        cases stored with
        | false =>
          refine Ensures.ite (fun _ => .refused ?_) fun h => absurd rfl h
          show s₂.db.invoices = _
          rw [hlost rfl, hdb₁]
        | true =>
          refine Ensures.ite (fun h => absurd h (by simp)) fun _ => ?_
          have hins := hstored rfl
          rw [hdb₁] at hins
          obtain ⟨hvalue, htarget, -⟩ := createInvoice_columns hmade
          exact .made rate hrate sats hsats _ hins hvalue rfl htarget
      next => exact .refused (by rw [hdb₁])
  next => exact .refused rfl

/-! ## The dealer's answers -/

/-- The answer keeps the currency and the amount, and loses the account. -/
theorem DealerDelivers.invoice_answer {t t' : DealerState} {denv : DealerEnv}
    {req : InvoiceRequest} {resp : InvoiceResponse}
    (h : DealerDelivers dcfg t ⟨denv, .bank (.api (.invoiceRequest req))⟩ t')
    (hsent : t'.sent = t.sent ++ [.api (.invoiceResponse resp)]) :
    resp.currency = req.currency ∧ resp.amount = req.amount ∧ resp.accountId = none := by
  have hspec : Ensures (DealerEngine.invoiceRequest dcfg req) t fun _ t' =>
      ∃ answer : InvoiceResponse, t'.sent = t.sent ++ [.api (.invoiceResponse answer)] ∧
        answer.currency = req.currency ∧ answer.amount = req.amount ∧ answer.accountId = none :=
    Ensures.lift_bind fun conversion _ => Ensures.get_bind (Ensures.lift_bind fun quoted _ =>
      ⟨_, rfl, rfl, rfl, rfl⟩)
  obtain ⟨answer, hanswer, hfields⟩ := hspec.of_run (dealerDelivers_iff.mp h)
  rw [hanswer, List.append_cancel_left_eq] at hsent
  injection hsent with hsent
  injection hsent with hsent
  injection hsent with hsent
  rw [← hsent]
  exact hfields

theorem DealerDelivers.deposit_answer {t t' : DealerState} {denv : DealerEnv}
    {req : FiatDepositRequest} {resp : FiatDepositResponse}
    (h : DealerDelivers dcfg t ⟨denv, .bank (.dealer (.fiatDepositRequest req))⟩ t')
    (hsent : t'.sent = t.sent ++ [.dealer (.fiatDepositResponse resp)]) :
    ∃ rate fees, resp = DealerEngine.fiatDepositRequest rate fees req := by
  have hspec : Ensures (DealerEngine.processFiatDepositRequest dcfg req) t fun _ t' =>
      ∃ rate fees, t'.sent = t.sent ++
        [.dealer (.fiatDepositResponse (DealerEngine.fiatDepositRequest rate fees req))] :=
    Ensures.lift_bind fun conversion _ => Ensures.get_bind (Ensures.lift_bind fun quoted _ =>
      ⟨quoted.1, quoted.2, rfl⟩)
  obtain ⟨rate, fees, hanswer⟩ := hspec.of_run (dealerDelivers_iff.mp h)
  rw [hanswer, List.append_cancel_left_eq] at hsent
  injection hsent with hsent
  injection hsent with hsent
  injection hsent with hsent
  exact ⟨rate, fees, hsent.symm⟩

/-! ## From the request to the invoice -/

/-- The invoice was not there, and is found by its payment request now. -/
structure NewInvoice (s s' : State) (i : Invoice) : Prop where
  absent : s.db.invoiceByPaymentRequest i.paymentRequest = none
  found : s'.db.invoiceByPaymentRequest i.paymentRequest = some i

theorem NewInvoice.not_same {i : Invoice} (h : NewInvoice s s' i) :
    s'.db.invoices ≠ s.db.invoices := by
  intro hsame
  have hfound := h.found
  unfold Db.invoiceByPaymentRequest at hfound
  rw [hsame] at hfound
  exact absurd (h.absent.symm.trans hfound) (by simp)

theorem NewInvoice.eq_inserted {i j : Invoice} (h : NewInvoice s s' i)
    (hins : s.db.invoices.insert j = some s'.db.invoices) : i = j := by
  have hmem : i ∈ s'.db.invoices.rows := List.mem_of_find?_eq_some h.found
  rw [Table.insert_rows hins] at hmem
  rcases List.mem_append.mp hmem with hmem | hmem
  · have hnone := List.find?_eq_none.mp h.absent i hmem
    exact absurd hnone (by simp)
  · exact List.mem_singleton.mp hmem

/-- A request led to an invoice, at once or, with any messages in between, after
the dealer gave a rate. -/
inductive InvoiceMade (cfg : Config) (dcfg : DealerConfig) (req : InvoiceRequest) (s : State)
    (i : Invoice) : State → Prop
  | direct {env : Env} {s' : State} (step : Delivers cfg s ⟨env, .api (.invoiceRequest req)⟩ s')
      (new : NewInvoice s s' i) : InvoiceMade cfg dcfg req s i s'
  | quoted {env env' : Env} {denv : DealerEnv} {s₁ s₂ s' : State} {t t' : DealerState}
      {req' : InvoiceRequest} {resp : InvoiceResponse} {ds : List Delivery}
      (step : Delivers cfg s ⟨env, .api (.invoiceRequest req)⟩ s₁)
      (forwarded : (.api (.invoiceRequest req'), .dealer) ∈ s₁.sent)
      (priced : DealerDelivers dcfg t ⟨denv, .bank (.api (.invoiceRequest req'))⟩ t')
      (answered : t'.sent = t.sent ++ [.api (.invoiceResponse resp)]) (run : Run cfg s₁ ds s₂)
      (made : Delivers cfg s₂ ⟨env', .api (.invoiceResponse resp)⟩ s') (new : NewInvoice s₂ s' i) :
      InvoiceMade cfg dcfg req s i s'

/-- The columns that a deposit reads, and the account that was chosen. -/
structure MadeFor (req : InvoiceRequest) (s : State) (i : Invoice) (c : Currency)
    (target : Option Currency) : Prop where
  chosen : req.Chooses s c
  currency : i.currency = some req.currency.display
  stored : i.targetAccountCurrency = target.map (·.display)
  btc : req.currency = .BTC → target = (req.routed c).targetAccountCurrency
  fiat : req.currency ≠ .BTC → target = none

theorem InvoiceMade.columns {req : InvoiceRequest} {i : Invoice}
    (h : InvoiceMade cfg dcfg req s i s') : ∃ c target, MadeFor req s i c target := by
  cases h with
  | direct step new =>
    have hout : RequestOutcome req { s with sent := [] } s' :=
      step.ensures (invoiceRequest_outcome req)
    cases hout with
    | refused same => exact absurd same new.not_same
    | forwarded c _ _ same => exact absurd same new.not_same
    | made c chosen btc j stored currency target =>
      obtain rfl := new.eq_inserted stored
      refine ⟨c, _, chosen, ?_, target, fun _ => rfl, fun h => absurd btc h⟩
      rw [currency, btc]
  | @quoted _ _ _ s₁ s₂ _ _ _ req' resp _ step forwarded priced answered run made new =>
    have hout : RequestOutcome req { s with sent := [] } s₁ :=
      step.ensures (invoiceRequest_outcome req)
    obtain ⟨hcurrency, -, -⟩ := priced.invoice_answer answered
    cases hout with
    | refused _ sent =>
      rcases sent with hnone | ⟨answer, hsent⟩
      · have hnone : s₁.sent = [] := hnone
        rw [hnone] at forwarded
        exact absurd forwarded (by simp)
      · have hsent : s₁.sent = [(.api answer, .api)] := hsent
        rw [hsent] at forwarded
        exact absurd forwarded (by simp)
    | made _ _ _ _ _ _ _ sent =>
      obtain ⟨answer, hsent⟩ := sent
      have hsent : s₁.sent = [(.api answer, .api)] := hsent
      rw [hsent] at forwarded
      exact absurd forwarded (by simp)
    | forwarded c chosen fiat _ sent =>
      have hsent : s₁.sent = [(.api (.invoiceRequest (req.routed c)), .dealer)] := sent
      rw [hsent, List.mem_singleton] at forwarded
      injection forwarded with forwarded
      injection forwarded with forwarded
      injection forwarded with forwarded
      have hcurrency : resp.currency = req.currency := by
        rw [hcurrency, forwarded]
        unfold InvoiceRequest.routed
        split <;> rfl
      have hmade : ResponseOutcome resp { s₂ with sent := [] } s' :=
        made.ensures (invoiceResponse_outcome resp)
      cases hmade with
      | refused same => exact absurd same new.not_same
      | made rate _ sats _ j stored _ currency target =>
        obtain rfl := new.eq_inserted stored
        refine ⟨c, none, chosen, ?_, target, fun h => absurd h fiat, fun _ => rfl⟩
        rw [currency, hcurrency]

/-! ## Who asks the dealer to convert -/

/-- Nothing new asks the dealer to convert a deposit. -/
def AsksNothing (s s' : State) : Prop :=
  ∀ freq, (.dealer (.fiatDepositRequest freq), .dealer) ∈ s'.sent →
    (.dealer (.fiatDepositRequest freq), .dealer) ∈ s.sent

namespace AsksNothing

/-- A handler that sends no request to convert asks for nothing. -/
theorem of_sends (h : Sends (fun m => ∀ freq, m ≠ (.dealer (.fiatDepositRequest freq), .dealer))
    s s') : AsksNothing s s' := by
  intro freq hf
  rcases h.sent _ hf with hf | hf
  · exact hf
  · exact absurd rfl (hf freq)

theorem handleDealerDeposit (msg : Deposit) : Keeps AsksNothing (handleDealerDeposit env msg) :=
  fun s => (Sends.handleDealerDeposit msg s).mono fun _ _ h => of_sends h

theorem depositBtc (msg : Deposit) (invoice : Invoice) :
    Keeps AsksNothing (depositBtc cfg env msg invoice) := by
  intro s
  apply (Sends.depositBtc ?_ ?_ msg invoice s).mono fun _ _ h => of_sends h
  · intro tx freq
    simp
  · intro msg freq
    simp

end AsksNothing

/-- What a deposit asks the dealer for, it asks by the columns of the invoice. -/
structure AskedForRate (s : State) (m : Deposit) (freq : FiatDepositRequest) : Prop where
  columns : ∃ i currency target, s.db.invoiceByPaymentRequest m.paymentRequest = some i ∧
    storedCurrency i.currency = .ok currency ∧
    storedCurrency i.targetAccountCurrency = .ok target ∧
    freq.currency = (if currency = .BTC then target else currency) ∧
    freq.amount = Money.fromSats i.value

theorem deposit_asks (m : Deposit) (freq : FiatDepositRequest) :
    Ensures (deposit cfg env m) s fun _ s' =>
      (.dealer (.fiatDepositRequest freq), .dealer) ∈ s'.sent →
        (.dealer (.fiatDepositRequest freq), .dealer) ∈ s.sent ∨ AskedForRate s m freq := by
  unfold deposit
  refine Ensures.ite (fun _ => .ret .inl) fun _ => ?_
  refine (findInvoice_spec _ _).bind fun found s₁ h => ?_
  obtain ⟨rfl, hfound, -⟩ := h
  cases found with
  | none => exact .ret .inl
  | some invoice =>
    have hfound := hfound invoice rfl
    refine Ensures.ite (fun _ => ?_) fun _ => ?_
    · refine Ensures.bind (AsksNothing.handleDealerDeposit m s₁) fun _ s' h => ?_
      exact .ret fun hf => .inl (h freq hf)
    refine Ensures.lift_bind fun currency hcurrency => Ensures.lift_bind fun target htarget => ?_
    refine Ensures.ite (fun _ hf => ?_) fun _ => ?_
    · rcases List.mem_append.mp hf with hf | hf
      · exact .inl hf
      · injection List.mem_singleton.mp hf with hmsg
        injection hmsg with hmsg
        injection hmsg with hmsg
        rw [hmsg]
        exact .inr ⟨invoice, currency, target, hfound, hcurrency, htarget, rfl, rfl⟩
    · exact (AsksNothing.depositBtc m invoice s₁).mono fun _ _ h hf => .inl (h freq hf)

/-! ## From the invoice to the credit -/

/-- A deposit of an invoice credited an account in a currency, in bitcoin at once
or, with any messages in between, at the rate of the dealer. -/
inductive DepositCredits (cfg : Config) (dcfg : DealerConfig) (i : Invoice) (s : State)
    (c : Currency) : Prop
  | btc {env : Env} {m : Deposit} {s' : State} {uid : UserId} {id : AccountId}
      (hm : m.paymentRequest = i.paymentRequest) (step : Delivers cfg s ⟨env, .deposit m⟩ s')
      (gain : 0 < balanceChange s s' (.user uid, id))
      (holds : s'.ledger.Holds (.user uid, id) c none)
  | converted {env env' : Env} {denv : DealerEnv} {m : Deposit} {s₁ s₂ s' : State}
      {t t' : DealerState} {freq : FiatDepositRequest} {fresp : FiatDepositResponse}
      {ds : List Delivery} {uid : UserId} {id : AccountId}
      (hm : m.paymentRequest = i.paymentRequest) (step : Delivers cfg s ⟨env, .deposit m⟩ s₁)
      (asked : (.dealer (.fiatDepositRequest freq), .dealer) ∈ s₁.sent)
      (priced : DealerDelivers dcfg t ⟨denv, .bank (.dealer (.fiatDepositRequest freq))⟩ t')
      (answered : t'.sent = t.sent ++ [.dealer (.fiatDepositResponse fresp)])
      (run : Run cfg s₁ ds s₂)
      (credited : Delivers cfg s₂ ⟨env', .dealer (.fiatDepositResponse fresp)⟩ s')
      (gain : 0 < balanceChange s₂ s' (.user uid, id))
      (holds : s'.ledger.Holds (.user uid, id) c none)

theorem Ledger.Holds.currency_eq {L : Ledger} {r : AccountRef} {c c' : Currency}
    {t t' : Option AccountType} (h : L.Holds r c t) (h' : L.Holds r c' t') : c = c' := by
  obtain ⟨a, ha, hc, -⟩ := h
  obtain ⟨b, hb, hc', -⟩ := h'
  obtain rfl := Option.some.inj (ha.symm.trans hb)
  exact hc.symm.trans hc'

/-- An account that gained is one of those booked. -/
theorem Moves.currency_of_gain {L L' : Ledger} {ps : List Booking} (h : Moves L ps L')
    {r : AccountRef} {c c' : Currency} (hgain : 0 < Posting.sumAt ps r)
    (hbooked : ∀ p ∈ ps, p.ref = r → p.unit = c') (hholds : L'.Holds r c none) : c = c' := by
  have hex : ∃ p ∈ ps, p.ref = r := by
    by_contra hno
    rw [Posting.sumAt_eq_zero fun p hp e => hno ⟨p, hp, e⟩] at hgain
    exact absurd hgain (lt_irrefl _)
  obtain ⟨p, hp, hr⟩ := hex
  have hp' := h.booked_holds hp
  rw [hr, hbooked p hp hr] at hp'
  exact hholds.currency_eq hp'

theorem storedCurrency_display (c : Currency) : storedCurrency (some c.display) = .ok c := by
  unfold storedCurrency
  dsimp only
  rw [Currency.fromStr_display]

theorem storedCurrency_map (target : Option Currency) :
    storedCurrency (target.map (·.display)) = .ok (target.getD .BTC) := by
  cases target with
  | none => rfl
  | some c => exact storedCurrency_display c

/-- The currency that the columns of an invoice lead to. -/
def creditedCurrency (currency : Currency) (target : Option Currency) : Currency :=
  if currency = .BTC then target.getD .BTC else currency

/-- A deposit credits what the two columns say. -/
theorem DepositCredits.currency {i i' : Invoice} {currency c : Currency} {target : Option Currency}
    (hfound : s.db.invoiceByPaymentRequest i.paymentRequest = some i')
    (hcurrency : i'.currency = some currency.display)
    (htarget : i'.targetAccountCurrency = target.map (·.display))
    (h : DepositCredits cfg dcfg i s c) : c = creditedCurrency currency target := by
  have hstored : storedCurrency i'.currency = .ok currency := by
    rw [hcurrency]
    exact storedCurrency_display currency
  have hstored' : storedCurrency i'.targetAccountCurrency = .ok (target.getD .BTC) := by
    rw [htarget]
    exact storedCurrency_map target
  unfold creditedCurrency
  cases h with
  | @btc env m s' uid id hm step gain holds =>
    rw [← hm] at hfound
    have hout : DepositOutcome env m { s with sent := [] } s' := step.ensures (deposit_spec m)
    -- an outcome that books nothing for a user has no gain to explain
    have hnothing {ps : List Booking} (hmoves : Moves s.ledger ps s'.ledger)
        (hno : ∀ p ∈ ps, ∀ uid id, p.ref ≠ (.user uid, id)) : False := by
      rw [balanceChange_of_moves hmoves, Posting.sumAt_eq_zero fun p hp => hno p hp _ _] at gain
      exact absurd gain (lt_irrefl _)
    cases hout with
    | ignored booked => exact (hnothing booked.moves (by simp)).elim
    | unbooked _ _ _ _ booked => exact (hnothing booked.moves (by simp)).elim
    | forwarded _ _ _ _ _ _ _ _ booked => exact (hnothing booked.moves (by simp)).elim
    | dealer _ _ _ booked =>
      rcases booked with booked | ⟨o, a, b, d, hnot, booked⟩
      · exact (hnothing booked.moves (by simp)).elim
      · refine (hnothing booked.moves fun p hp uid id e => ?_).elim
        rcases List.mem_cons.mp hp with rfl | hp
        · exact absurd (congrArg Prod.fst e) (by simp)
        · rw [List.mem_singleton.mp hp] at e
          exact hnot uid (congrArg Prod.fst e)
    | credited j s₁ u b found _ btc _ booked rest =>
      obtain rfl := Option.some.inj (hfound.symm.trans found)
      have hl : s'.ledger = s₁.ledger := by
        rcases rest with ⟨hn, -⟩ | hset
        · exact hn.ledger
        · exact hset.ledger
      have hmoves := booked.moves
      rw [← hl] at hmoves
      injection hstored.symm.trans btc.1 with hc
      injection hstored'.symm.trans btc.2 with ht
      rw [if_pos hc, ht]
      refine hmoves.currency_of_gain ?_ (fun p hp _ => ?_) holds
      · rw [← balanceChange_of_moves hmoves]
        exact gain
      · rcases List.mem_cons.mp hp with rfl | hp
        · rfl
        · rw [List.mem_singleton.mp hp]
  | @converted env env' denv m s₁ s₂ s' t t' freq fresp ds uid id hm step asked priced answered run
      credited gain holds =>
    rw [← hm] at hfound
    -- the dealer was asked with the two columns of the invoice
    have hasks := step.ensures (deposit_asks m freq) asked
    rcases hasks with hnone | hasks
    · exact absurd hnone (by simp)
    obtain ⟨j, currency', target', hj, hc, ht, hfreq, -⟩ := hasks.columns
    obtain rfl := Option.some.inj (hfound.symm.trans hj)
    injection hstored.symm.trans hc with hc
    injection hstored'.symm.trans ht with ht
    rw [← hc, ← ht] at hfreq
    rw [← hfreq]
    obtain ⟨rate, fees, rfl⟩ := priced.deposit_answer answered
    have hout : FiatDepositOutcome env' (DealerEngine.fiatDepositRequest rate fees freq)
        { s₂ with sent := [] } s' := credited.ensures (fiatDepositResponse_spec _)
    cases hout with
    | ignored booked =>
      rw [balanceChange_of_moves (s := s₂) booked.moves] at gain
      exact absurd gain (lt_irrefl _)
    | credited _ rate' fiat s₃ u b d d' x _ _ _ _ _ _ booked rest =>
      have hl : s'.ledger = s₃.ledger := by
        rcases rest with ⟨hn, -⟩ | hset
        · exact hn.ledger
        · exact hset.ledger
      have hmoves := booked.moves
      rw [← hl] at hmoves
      refine hmoves.currency_of_gain ?_ (fun p hp hr => ?_) holds
      · rw [← balanceChange_of_moves (s := s₂) hmoves]
        exact gain
      · simp only [List.mem_cons, List.not_mem_nil, or_false] at hp
        rcases hp with rfl | rfl | rfl | rfl
        · rfl
        · exact absurd (congrArg Prod.fst hr) (by simp)
        · exact absurd (congrArg Prod.fst hr) (by simp)
        · rfl

/-! ## The currency that was asked for -/

/-- The currency a request asks for: that of the account it names, else the target
it gives, else that of the invoice. -/
def InvoiceRequest.AsksFor (req : InvoiceRequest) (s : State) (c : Currency) : Prop :=
  match req.accountId with
  | some id => ∃ a, s.ledger.get (.user req.uid, id) = some a ∧ a.currency = c
  | none => c = req.targetAccountCurrency.getD req.currency

/-- The requests whose deposits go where they should. In bitcoin: no account is
named, or one in another currency, or no other currency is given as a target
beside it. In a fiat currency: the account, or without one the target, is in the
currency of the invoice. -/
def InvoiceRequest.Routed (req : InvoiceRequest) (s : State) : Prop :=
  match req.accountId with
  | some id => ∃ a, s.ledger.get (.user req.uid, id) = some a ∧
      if req.currency = .BTC then a.currency ≠ .BTC ∨ req.targetAccountCurrency.getD .BTC = .BTC
      else a.currency = req.currency
  | none => req.currency = .BTC ∨ req.targetAccountCurrency.getD req.currency = req.currency

/-- With the columns of the invoice that was made, the currency is the right one
exactly for these requests. -/
theorem MadeFor.routed_iff {req : InvoiceRequest} {i : Invoice} {a : Currency}
    {target : Option Currency} (h : MadeFor req s i a target) :
    req.AsksFor s (creditedCurrency req.currency target) ↔ req.Routed s := by
  have hchosen := h.chosen
  unfold InvoiceRequest.Chooses at hchosen
  unfold InvoiceRequest.AsksFor InvoiceRequest.Routed creditedCurrency
  by_cases hbtc : req.currency = .BTC
  · rw [if_pos hbtc, h.btc hbtc]
    unfold InvoiceRequest.routed
    cases hid : req.accountId with
    | none =>
      rw [hid] at hchosen
      dsimp only at hchosen ⊢
      rw [if_neg (not_not.mpr hchosen), hbtc]
      simp
    | some id =>
      rw [hid] at hchosen
      obtain ⟨acc, hacc, rfl⟩ := hchosen
      have hsame : ∀ b, s.ledger.get (.user req.uid, id) = some b → b = acc := fun b hb =>
        Option.some.inj (hb.symm.trans hacc)
      dsimp only
      by_cases hacc_btc : acc.currency = .BTC
      · rw [if_neg (by rw [hbtc]; exact not_not.mpr hacc_btc)]
        constructor
        · intro hex
          obtain ⟨b, hb, hcur⟩ := hex
          rw [hsame b hb, hacc_btc] at hcur
          exact ⟨acc, hacc, by rw [if_pos hbtc]; exact .inr hcur.symm⟩
        · intro hex
          obtain ⟨b, hb, hcur⟩ := hex
          rw [if_pos hbtc, hsame b hb] at hcur
          exact ⟨acc, hacc, by rw [hcur.resolve_left (not_not.mpr hacc_btc)]; exact hacc_btc⟩
      · rw [if_pos (by rw [hbtc]; exact hacc_btc)]
        constructor
        · intro _
          exact ⟨acc, hacc, by rw [if_pos hbtc]; exact .inl hacc_btc⟩
        · intro _
          exact ⟨acc, hacc, rfl⟩
  · rw [if_neg hbtc]
    cases hid : req.accountId with
    | none =>
      dsimp only
      constructor
      · intro hc
        exact .inr hc.symm
      · intro hc
        exact (hc.resolve_left hbtc).symm
    | some id => simp only [if_neg hbtc]

/-- The row of an invoice along a run. -/
theorem Run.invoice_advances {i : Invoice} {pr : String} {ds : List Delivery}
    (hrun : Run cfg s ds s') (hfound : s.db.invoiceByPaymentRequest pr = some i) :
    ∃ i', s'.db.invoiceByPaymentRequest pr = some i' ∧ i.Advances i' := by
  refine hrun.invariant
    (I := fun s => ∃ i', s.db.invoiceByPaymentRequest pr = some i' ∧ i.Advances i') ?_
    ⟨i, hfound, .refl i⟩
  intro s d s' _ hs hstep
  obtain ⟨j, hj, hadv⟩ := hs
  obtain ⟨j', hj', hadv'⟩ := hstep.advances _ j hj
  exact ⟨j', hj', hadv.trans hadv'⟩

/-- Whatever way a request took to its invoice, and the deposit of that invoice to
an account, and whatever came in between: the account is in the currency asked
for exactly if the request is routed. -/
theorem deposit_currency_iff {req : InvoiceRequest} {i : Invoice} {s₁ s₂ : State}
    {ds : List Delivery} {c : Currency} (hmade : InvoiceMade cfg dcfg req s i s₁)
    (hrun : Run cfg s₁ ds s₂) (hcredit : DepositCredits cfg dcfg i s₂ c) :
    req.AsksFor s c ↔ req.Routed s := by
  obtain ⟨a, target, hcolumns⟩ := hmade.columns
  have hfound : s₁.db.invoiceByPaymentRequest i.paymentRequest = some i := by
    cases hmade with
    | direct _ new => exact new.found
    | quoted _ _ _ _ _ _ new => exact new.found
  obtain ⟨i', hi', hadv⟩ := hrun.invoice_advances hfound
  obtain ⟨b, t, f, rfl, -⟩ := hadv
  rw [hcredit.currency hi' hcolumns.currency hcolumns.stored]
  exact hcolumns.routed_iff

namespace Sample

/-- Alice asks for an invoice over 5000 sats. -/
def btcRequest (accountId : Option Uuid) (target : Option Currency) : InvoiceRequest where
  reqId := 4
  uid := 7
  amount := Money.new .BTC (1 / 20000)
  «meta» := ""
  metadata := none
  currency := .BTC
  accountId
  targetAccountCurrency := target

/-- Her account in bitcoin is opened by a deposit, she asks, and the invoice is
paid. -/
theorem exists_asked (dcfg : DealerConfig) (req : InvoiceRequest) (P : State → State → State → Prop)
    [∀ s s₁, DecidablePred (P s s₁)]
    (h : (deliver config ⟨Sample.env 1, deposit⟩ state).toOption.any (fun s => decide (
      (s.db.invoiceByPaymentRequest "lnbc-usd").isNone = true ∧
      (deliver config ⟨invoicing 2, .api (.invoiceRequest req)⟩ s).toOption.any (fun s₁ => decide (
        (s₁.db.invoiceByPaymentRequest "lnbc-usd").isSome = true ∧
        (deliver config ⟨Sample.env 3, .deposit dollarDeposit⟩ s₁).toOption.any
          (fun s₂ => decide (P s s₁ s₂)) = true)) = true)) = true) :
    ∃ s i s₁ s₂, InvoiceMade config dcfg req s i s₁ ∧ i.paymentRequest = "lnbc-usd" ∧
      Delivers config s₁ ⟨Sample.env 3, .deposit dollarDeposit⟩ s₂ ∧ P s s₁ s₂ := by
  obtain ⟨s, -, habsent, h⟩ := exists_delivers _ _ _ _ h
  obtain ⟨s₁, h₁, hfound, h⟩ := exists_delivers _ _ _ _ h
  obtain ⟨s₂, h₂, hP⟩ := exists_delivers _ _ _ _ h
  obtain ⟨i, hi⟩ := Option.isSome_iff_exists.mp hfound
  have hpr := Db.invoiceByPaymentRequest_eq hi
  refine ⟨s, i, s₁, s₂, .direct h₁ ⟨?_, ?_⟩, hpr, h₂, hP⟩
  · rw [hpr]
    exact Option.isNone_iff_eq_none.mp habsent
  · rw [hpr]
    exact hi

theorem holds_of_any {L : Ledger} {r : AccountRef} {c : Currency}
    (h : (L.get r).any (fun a => decide (a.currency = c)) = true) : L.Holds r c none := by
  obtain ⟨a, ha, hc⟩ := (Option.any_eq_true _ _).mp h
  exact ⟨a, ha, of_decide_eq_true hc, by simp⟩

/-- The rate and the fee that the dealer has for 5000 sats. -/
def dollarQuote : Option Rate × Option Money :=
  (some (Rate.new .BTC .USD 19900), some (Money.new .USD (1 / 200)))

/-- A dealer that knows the dollar book answers a deposit of 5000 sats. -/
theorem exists_dollarAnswer : ∃ t : DealerState, ∀ freq : FiatDepositRequest,
    freq.currency = .USD → freq.amount = Money.fromSats 5000 → ∃ t',
      DealerDelivers dealerConfig t ⟨dealerEnv 2, .bank (.dealer (.fiatDepositRequest freq))⟩ t' ∧
      t'.sent = t.sent ++ [.dealer (.fiatDepositResponse
        (DealerEngine.fiatDepositRequest dollarQuote.1 dollarQuote.2 freq))] := by
  let conversion : ConversionInfo := ⟨.BTC, .USD, .BTC, .USD, usdSymbol, .ask⟩
  have hconversion : ConversionInfo.new .BTC .USD = .ok conversion := by decide
  obtain ⟨t, -, hquote⟩ := exists_dealerDelivers dealerConfig
    ⟨dealerEnv 1, dollarBook "snapshot" 20000 20010 100⟩ dealer
    (fun t => DealerEngine.getRateInv dealerConfig t (Money.fromSats 5000) conversion =
      .ok dollarQuote) (by decide +kernel)
  refine ⟨t, fun freq hcurrency hamount => ?_⟩
  refine ⟨{ t with sent := t.sent ++ [.dealer (.fiatDepositResponse
    (DealerEngine.fiatDepositRequest dollarQuote.1 dollarQuote.2 freq))] },
    dealerDelivers_iff.mpr ?_, rfl⟩
  show DealerEngine.processFiatDepositRequest dealerConfig freq t = _
  unfold DealerEngine.processFiatDepositRequest
  rw [hcurrency, hamount, run_lift_bind hconversion, run_get_bind, run_lift_bind hquote]
  rfl

end Sample

/-- Without an account or a target, a bitcoin invoice pays into bitcoin. -/
theorem deposit_currency_sample : ∃ s i s₁ c,
    InvoiceMade Sample.config Sample.dealerConfig (Sample.btcRequest none none) s i s₁ ∧
      DepositCredits Sample.config Sample.dealerConfig i s₁ c ∧ c = .BTC ∧
      (Sample.btcRequest none none).AsksFor s c := by
  obtain ⟨s, i, s₁, s₂, hmade, hpr, hstep, hgain, hholds⟩ :=
    Sample.exists_asked Sample.dealerConfig (Sample.btcRequest none none)
      (fun _ s₁ s₂ => 0 < balanceChange s₁ s₂ (.user 7, 1) ∧
        (s₂.ledger.get (.user 7, 1)).any (fun a => decide (a.currency = .BTC)) = true)
      (by decide +kernel)
  have hcredit : DepositCredits Sample.config Sample.dealerConfig i s₁ .BTC :=
    .btc hpr.symm hstep hgain (Sample.holds_of_any hholds)
  exact ⟨s, i, s₁, .BTC, hmade, hcredit, rfl,
    (deposit_currency_iff hmade (Trace.nil _) hcredit).mpr (.inl rfl)⟩

/-- Alice names her account in bitcoin and gives dollars as the target beside it:
her deposit is converted, and her account gets nothing. -/
theorem deposit_in_other_currency : ∃ s i s₁ c,
    InvoiceMade Sample.config Sample.dealerConfig (Sample.btcRequest (some 1) (some .USD)) s i s₁ ∧
      DepositCredits Sample.config Sample.dealerConfig i s₁ c ∧ c = .USD ∧
      (Sample.btcRequest (some 1) (some .USD)).AsksFor s .BTC ∧
      ¬(Sample.btcRequest (some 1) (some .USD)).AsksFor s c := by
  obtain ⟨s, i, s₁, s₂, hmade, hpr, hstep, haccount, hreq⟩ :=
    Sample.exists_asked Sample.dealerConfig (Sample.btcRequest (some 1) (some .USD))
      (fun s _ s₂ => (s.ledger.get (.user 7, 1)).any (fun a => decide (a.currency = .BTC)) = true ∧
        (s₂.sent.filterMap Sample.fiatRequest).any (fun freq => decide (
          freq.currency = .USD ∧ freq.amount = Money.fromSats 5000 ∧
          (deliver Sample.config ⟨Sample.env 4, .dealer (.fiatDepositResponse
            (DealerEngine.fiatDepositRequest Sample.dollarQuote.1 Sample.dollarQuote.2 freq))⟩
            s₂).toOption.any (fun s₃ => decide (0 < balanceChange s₂ s₃ (.user 7, 3) ∧
              (s₃.ledger.get (.user 7, 3)).any (fun a => decide (a.currency = .USD)) = true)) =
              true)) = true)
      (by decide +kernel)
  obtain ⟨freq, hfreq, hok⟩ := List.any_eq_true.mp hreq
  obtain ⟨hcurrency, hamount, hok⟩ := of_decide_eq_true hok
  obtain ⟨s₃, hstep', hgain, hholds⟩ := exists_delivers _ _ _ _ hok
  obtain ⟨t, hanswers⟩ := Sample.exists_dollarAnswer
  obtain ⟨t', hpriced, hanswered⟩ := hanswers freq hcurrency hamount
  have hcredit : DepositCredits Sample.config Sample.dealerConfig i s₁ .USD :=
    .converted hpr.symm hstep (Sample.mem_of_fiatRequest hfreq) hpriced hanswered (Trace.nil _)
      hstep' hgain (Sample.holds_of_any hholds)
  obtain ⟨a, ha, hbtc, -⟩ := Sample.holds_of_any haccount
  refine ⟨s, i, s₁, .USD, hmade, hcredit, rfl, ⟨a, ha, hbtc⟩, fun hasks => ?_⟩
  obtain ⟨b, hb, husd⟩ := hasks
  obtain rfl := Option.some.inj (ha.symm.trans hb)
  rw [hbtc] at husd
  exact absurd husd (by decide)

end Lndhubx
