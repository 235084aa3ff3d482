import Lndhubx.Bank.External

/-!
# What the deposit handlers book
-/

namespace Lndhubx

open Prog BankEngine

variable {cfg : Config} {env : Env} {s : State}

/-- A deposit in bitcoin: the owner of the invoice is credited its value
against the liability account, which is external, and the invoice is settled
unless the summary could not be stored; or nothing was booked. -/
theorem depositBtc_accounts (msg : Deposit) (invoice : Invoice) :
    Ensures (depositBtc cfg env msg invoice) s fun _ s' =>
      (Booked env s [] s' ∧ (0 < (Money.fromSats invoice.value).value → ¬DbSucceeds env s)) ∨
      ∃ s₁ u b, 0 < (Money.fromSats invoice.value).value ∧
        s₁.ledger.Holds (.bank, b) .BTC (some .external) ∧
        Booked env s [⟨(.user (asU64 invoice.uid), u), .BTC, (Money.fromSats invoice.value).value⟩,
          ⟨(.bank, b), .BTC, -(Money.fromSats invoice.value).value⟩] s₁ ∧
        (Noted s₁ s' ∧ ¬SummaryStored env s ∨ Settles env (settleInvoice env invoice) s₁ s') := by
  unfold depositBtc
  dsimp only
  refine (getOrOpenAccount_spec _ _ _).bind ?_
  intro inbound s₁ hspec
  obtain ⟨h₁, hin, hinc, -⟩ := hspec
  refine getLiabilityAccount_spec.bind ?_
  intro liability s₂ hspec
  obtain ⟨h₂, hli, hlic, hlit, -⟩ := hspec
  have hb := h₁.opened h₂
  have hin := h₂.keeps hin
  refine (makeTx_spec _ _ _ _ _ _).bind ?_
  intro r s₃ htx
  have hb := hb.opened htx.booked
  have hin := htx.booked.keeps hin
  have hli := htx.booked.keeps hli
  -- the liability account is external, whatever was booked before
  have hext : s₃.ledger.Holds (.bank, liability.accountId) .BTC (some .external) :=
    .of_get hli hlic hlit
  split
  next liability' inbound' txid =>
    obtain ⟨hv, -, -, rfl, rfl⟩ := htx.stored txid rfl
    refine (insertIntoLedger_spec _ _).bind ?_
    intro _ s₄ h₄
    refine (putAccount_spec _ _).bind ?_
    intro _ s₅ h₅
    subst h₄ h₅
    -- the owner's account and the liability account are written back
    have hw := Booked.writeBack (s := s₃) env
      [⟨.user (asU64 invoice.uid), inbound, (Money.fromSats invoice.value).value⟩,
        ⟨.bank, liability, -(Money.fromSats invoice.value).value⟩]
      (by simp [Write.ref, hin, hli]) (by simp [Write.ref])
    simp only [List.map_cons, List.map_nil, Write.booking, Write.ref, hinc, hlic] at hw
    have hb := hb.trans hw
    refine (updateAccount_spec _ _).bind ?_
    intro _ s₆ h₆
    refine (updateAccount_spec _ _).bind ?_
    intro _ s₇ h₇
    have hb := (hb.opened h₆.1).opened h₇.1
    have hext := h₇.1.moves.holds (h₆.1.moves.holds (hw.moves.holds hext))
    refine Ensures.mono (R := fun _ s' => Noted s₇ s' ∧ ¬SummaryStored env s₇ ∨
      Settles env (settleInvoice env invoice) s₇ s') ?_ fun _ s' h =>
        .inr ⟨s₇, _, _, hv, hext, hb, ?_⟩
    · refine (makeSummaryTx_spec _).bind ?_
      intro r s₈ hspec
      obtain ⟨hn, hsum, -⟩ := hspec
      split
      next =>
        refine (updateInvoice_spec _).bind ?_
        intro _ s₉ hset
        refine (notifyPaid_spec _ _).bind ?_
        intro _ s₁₀ h₁₀
        exact (publishIfZapNote_spec _ _ _ _ _).mono fun _ s' h' =>
          .inr (hn.settles ((hset.noted h₁₀).noted h'))
      next hno =>
        exact .inl ⟨hn, fun hst => by
          obtain ⟨txid, hok⟩ := hsum.mpr ⟨hv, hst⟩
          exact hno _ hok⟩
    · rwa [hb.summaryStored_iff] at h
  next hno =>
    refine .inl ⟨hb, fun hv hdb => ?_⟩
    obtain ⟨txid, hok⟩ := htx.succeeds hv (by rw [hinc, hlic])
      (((h₁.opened h₂).healthy hdb).txStored 0 0)
    exact hno _ _ _ (by rw [← hok])

theorem depositBtc_spec (msg : Deposit) (invoice : Invoice) :
    Ensures (depositBtc cfg env msg invoice) s fun _ s' =>
      (Booked env s [] s' ∧ (0 < (Money.fromSats invoice.value).value → ¬DbSucceeds env s)) ∨
      ∃ s₁ u b, 0 < (Money.fromSats invoice.value).value ∧
        Booked env s [⟨(.user (asU64 invoice.uid), u), .BTC, (Money.fromSats invoice.value).value⟩,
          ⟨(.bank, b), .BTC, -(Money.fromSats invoice.value).value⟩] s₁ ∧
        (Noted s₁ s' ∧ ¬SummaryStored env s ∨ Settles env (settleInvoice env invoice) s₁ s') := by
  refine (depositBtc_accounts msg invoice).mono fun _ s' h => h.imp_right fun h => ?_
  obtain ⟨s₁, u, b, hv, -, hb, hrest⟩ := h
  exact ⟨s₁, u, b, hv, hb, hrest⟩

/-- A deposit of the dealer is booked for two references only. -/
def Invoice.Referenced (i : Invoice) : Prop :=
  i.reference = some "KolliderSettlement" ∨ i.reference = some "ExternalDeposit"

/-- A deposit of the dealer moves one amount, possibly none, from an external
account to the dealer's internal one. -/
theorem handleDealerDeposit_accounts (msg : Deposit) :
    Ensures (handleDealerDeposit env msg) s fun _ s' =>
      (Booked env s [] s' ∧ (DbSucceeds env s → ∀ i,
        s.db.invoiceByPaymentRequest msg.paymentRequest = some i → ¬i.Referenced)) ∨
      ∃ i o id id' d, s.db.invoiceByPaymentRequest msg.paymentRequest = some i ∧
        (∀ uid, o ≠ .user uid) ∧ s'.ledger.Holds (.dealer, id) .BTC (some .internal) ∧
        s'.ledger.Holds (o, id') .BTC (some .external) ∧
        (d = 0 ∨ d = (Money.fromSats i.value).value) ∧
        (0 < (Money.fromSats i.value).value → DbSucceeds env s →
          d = (Money.fromSats i.value).value) ∧
        Booked env s [⟨(.dealer, id), .BTC, d⟩, ⟨(o, id'), .BTC, -d⟩] s' := by
  unfold handleDealerDeposit
  refine Ensures.ite (fun hconn => .inl ⟨.refl env s, fun hd => ?_⟩) fun _ => ?_
  · rw [hd.calls] at hconn
    exact absurd hconn (by simp)
  refine (findInvoice_spec _ _).bind ?_
  intro found s₀ hspec
  obtain ⟨rfl, hfound, hnone⟩ := hspec
  split
  next invoice =>
    have hfound := hfound invoice rfl
    split
    next reference href =>
      refine Ensures.ite (fun hno => .inl ⟨.refl env s₀, fun _ i hi h => ?_⟩) fun _ => ?_
      · rw [← Option.some.inj (hfound.symm.trans hi), Invoice.Referenced, href, Option.some.injEq,
          Option.some.injEq] at h
        exact h.elim hno.1 hno.2
      dsimp only
      generalize ho : (if reference = "KolliderSettlement" then Owner.dealer else Owner.bank) = o
      have hnot : ∀ uid, o ≠ .user uid := by
        intro uid
        rw [← ho]
        split <;> simp
      refine (getDealerAccount_spec _ _).bind ?_
      intro inbound s₁ hspec
      obtain ⟨h₁, hin, hinc, hint, -⟩ := hspec
      refine (getDefaultAccount_spec _ _ _).bind ?_
      intro outbound s₂ hspec
      obtain ⟨h₂, hout, houtc, houtt, -⟩ := hspec
      have hin := h₂.keeps hin
      refine (makeTx_spec _ _ _ _ _ _).bind ?_
      intro r s₃ htx
      have hb₂ := h₁.opened h₂
      have hb := hb₂.opened htx.booked
      have hin := htx.booked.keeps hin
      have hout := htx.booked.keeps hout
      obtain ⟨d, hro, hri, hd, hall⟩ := htx.exists_amount
      have hall : 0 < (Money.fromSats invoice.value).value → DbSucceeds env s₀ →
          d = (Money.fromSats invoice.value).value := fun hv hdb =>
        hall hv (by rw [houtc, hinc]) ((hb₂.healthy hdb).txStored 0 0)
      rw [hro, hri]
      -- internal and external: two different accounts
      have hne : (o, outbound.accountId) ≠ (.dealer, inbound.accountId) := by
        intro e
        rw [e, hin] at hout
        injection hout with hout
        rw [← hout, hint] at houtt
        exact absurd (houtt _ rfl) (by decide)
      have hinside : s₃.ledger.Holds (.dealer, inbound.accountId) .BTC (some .internal) :=
        .of_get hin hinc hint
      have houtside : s₃.ledger.Holds (o, outbound.accountId) .BTC (some .external) :=
        .of_get hout houtc (houtt _ rfl)
      have hw₁ := Booked.write env d hin
      refine (putAccount_spec _ _).bind ?_
      intro _ s₄ h₄
      rw [← h₄] at hw₁
      have hout : s₄.ledger.get (o, outbound.accountId) = some outbound := by
        rw [h₄]
        exact (Ledger.get_put_ne (a := inbound.shift d) _ hne).trans hout
      refine (updateAccount_spec _ _).bind ?_
      intro _ s₅ hspec
      obtain ⟨h₅, n₅⟩ := hspec
      have hout : s₅.ledger.get (o, outbound.accountId) = some outbound := h₅.keeps hout
      have hw₂ := Booked.write env (-d) hout
      refine (putAccount_spec _ _).bind ?_
      intro _ s₆ h₆
      rw [← h₆] at hw₂
      refine (updateAccount_spec _ _).mono fun _ s' h' => ?_
      have hwritten := (((hw₁.opened h₅).trans hw₂).opened h'.1).moves
      refine .inr ⟨invoice, o, inbound.accountId, outbound.accountId, d, hfound, hnot,
        hwritten.holds hinside, hwritten.holds houtside, hd, hall, ?_⟩
      rw [hinc] at hw₁
      rw [houtc] at hw₂
      exact ((hb.trans (hw₁.opened h₅)).trans hw₂).opened h'.1
    next hno =>
      refine .inl ⟨.refl env s₀, fun _ i hi h => ?_⟩
      rw [← Option.some.inj (hfound.symm.trans hi), Invoice.Referenced] at h
      exact h.elim (hno _) (hno _)
  next hno =>
    refine .inl ⟨.refl env s₀, fun hd i hi => ?_⟩
    rw [hnone (Option.eq_none_iff_forall_ne_some.mpr hno) (hd.calls _)] at hi
    exact absurd hi (by simp)

theorem handleDealerDeposit_spec (msg : Deposit) :
    Ensures (handleDealerDeposit env msg) s fun _ s' =>
      Booked env s [] s' ∨ ∃ o id id' d, (∀ uid, o ≠ .user uid) ∧
        Booked env s [⟨(.dealer, id), .BTC, d⟩, ⟨(o, id'), .BTC, -d⟩] s' := by
  refine (handleDealerDeposit_accounts msg).mono fun _ s' h => ?_
  rcases h with h | ⟨i, o, id, id', d, -, hnot, -, -, -, -, hb⟩
  · exact .inl h.1
  · exact .inr ⟨o, id, id', d, hnot, hb⟩

/-- What a deposit does to the books. -/
inductive DepositOutcome (env : Env) (msg : Deposit) (s s' : State) : Prop
  /-- Nothing: the database failed, or the invoice is not known. -/
  | ignored (booked : Booked env s [] s')
      (reason : DbSucceeds env s → s.db.invoiceByPaymentRequest msg.paymentRequest = none)
  /-- The dealer's own invoice. -/
  | dealer (invoice : Invoice)
      (found : s.db.invoiceByPaymentRequest msg.paymentRequest = some invoice)
      (owner : asU64 invoice.uid = DEALER_UID)
      (booked : Booked env s [] s' ∨ ∃ o id id' d, (∀ uid, o ≠ .user uid) ∧
        Booked env s [⟨(.dealer, id), .BTC, d⟩, ⟨(o, id'), .BTC, -d⟩] s')
  /-- The dealer is asked to convert. -/
  | forwarded (invoice : Invoice) (currency target : Currency)
      (found : s.db.invoiceByPaymentRequest msg.paymentRequest = some invoice)
      (owner : asU64 invoice.uid ≠ DEALER_UID)
      (hcurrency : storedCurrency invoice.currency = .ok currency)
      (htarget : storedCurrency invoice.targetAccountCurrency = .ok target)
      (fiat : ¬(currency = .BTC ∧ target = .BTC))
      (booked : Booked env s [] s')
      (sent : s'.sent = s.sent ++ [(.dealer (.fiatDepositRequest
        { uid := asU64 invoice.uid
          paymentRequest := invoice.paymentRequest
          currency := if currency = .BTC then target else currency
          reqId := env.reqUuid 0
          amount := Money.fromSats invoice.value }), .dealer)])
  /-- A bitcoin deposit that could not be booked. -/
  | unbooked (invoice : Invoice)
      (found : s.db.invoiceByPaymentRequest msg.paymentRequest = some invoice)
      (owner : asU64 invoice.uid ≠ DEALER_UID)
      (btc : storedCurrency invoice.currency = .ok .BTC ∧
        storedCurrency invoice.targetAccountCurrency = .ok .BTC)
      (booked : Booked env s [] s')
      (reason : 0 < (Money.fromSats invoice.value).value → ¬DbSucceeds env s)
  /-- A bitcoin deposit: the owner is credited, and the invoice settled unless
  the summary could not be stored. -/
  | credited (invoice : Invoice) (s₁ : State) (u b : AccountId)
      (found : s.db.invoiceByPaymentRequest msg.paymentRequest = some invoice)
      (owner : asU64 invoice.uid ≠ DEALER_UID)
      (btc : storedCurrency invoice.currency = .ok .BTC ∧
        storedCurrency invoice.targetAccountCurrency = .ok .BTC)
      (positive : 0 < (Money.fromSats invoice.value).value)
      (booked : Booked env s
        [⟨(.user (asU64 invoice.uid), u), .BTC, (Money.fromSats invoice.value).value⟩,
          ⟨(.bank, b), .BTC, -(Money.fromSats invoice.value).value⟩] s₁)
      (rest : Noted s₁ s' ∧ ¬SummaryStored env s ∨ Settles env (settleInvoice env invoice) s₁ s')

theorem deposit_spec (msg : Deposit) :
    Ensures (deposit cfg env msg) s fun _ s' => DepositOutcome env msg s s' := by
  unfold deposit
  refine Ensures.ite (fun hconn => .ignored (.refl env s) fun hdb => ?_) fun _ => ?_
  · rw [hdb.calls] at hconn
    exact absurd hconn (by simp)
  refine (findInvoice_spec _ _).bind ?_
  intro found s₀ hspec
  obtain ⟨rfl, hfound, hnone⟩ := hspec
  cases found with
  | none => exact .ignored (.refl env s₀) fun hdb => hnone rfl (hdb.calls _)
  | some invoice =>
    have hfound := hfound invoice rfl
    dsimp only
    refine Ensures.ite (fun howner => ?_) fun howner => ?_
    · refine (handleDealerDeposit_spec msg).bind ?_
      intro _ s' h
      exact DepositOutcome.dealer invoice hfound howner h
    refine Ensures.lift_bind fun currency hcur => Ensures.lift_bind fun target htar => ?_
    refine Ensures.ite (fun hfiat => ?_) fun hbtc => ?_
    · refine .forwarded invoice currency target hfound howner hcur htar (fun h => ?_)
        (sendDealer_spec env _).1 rfl
      rcases hfiat with hne | ⟨-, hne⟩
      · exact hne h.1
      · exact hne h.2
    · obtain ⟨rfl, rfl⟩ : currency = .BTC ∧ target = .BTC := by
        by_cases hc : currency = .BTC
        · refine ⟨hc, ?_⟩
          by_contra ht
          exact hbtc (.inr ⟨hc, ht⟩)
        · exact absurd (.inl hc) hbtc
      refine (depositBtc_spec msg invoice).mono fun _ s' h => ?_
      rcases h with ⟨hb, hreason⟩ | ⟨s₁, u, b, hv, hb, hrest⟩
      · exact .unbooked invoice hfound howner ⟨hcur, htar⟩ hb hreason
      · exact .credited invoice s₁ u b hfound howner ⟨hcur, htar⟩ hv hb hrest

/-! ## Converted deposits -/

/-- What the dealer's answer to a conversion does to the books. For a currency
other than bitcoin the dealer's two accounts are different; were they one, the
second copy would overwrite the first, and `x` is what is lost. -/
inductive FiatDepositOutcome (env : Env) (msg : FiatDepositResponse) (s s' : State) : Prop
  | ignored (booked : Booked env s [] s')
      (reason : DbSucceeds env s → msg.error = none → ∀ rate, msg.rate = some rate →
        0 < msg.amount.value →
        s.db.invoiceByPaymentRequest msg.paymentRequest = none ∨
          ∃ fiat, msg.amount.exchange rate = .ok (.ok fiat) ∧ fiat.value ≤ 0)
  | credited (invoice : Invoice) (rate : Rate) (fiat : Money) (s₁ : State)
      (u b d d' : AccountId) (x : Decimal)
      (found : s.db.invoiceByPaymentRequest msg.paymentRequest = some invoice)
      (hrate : msg.rate = some rate) (herror : msg.error = none)
      (exchanged : msg.amount.exchange rate = .ok (.ok fiat))
      (positive : 0 < msg.amount.value ∧ 0 < fiat.value)
      (hx : msg.currency ≠ .BTC → x = 0)
      (booked : Booked env s
        [⟨(.user msg.uid, u), msg.currency, fiat.value⟩,
          ⟨(.bank, b), .BTC, -msg.amount.value⟩,
          ⟨(.dealer, d), .BTC, msg.amount.value⟩,
          ⟨(.dealer, d'), msg.currency, -fiat.value - x⟩] s₁)
      (rest : Noted s₁ s' ∧ ¬SummaryStored env s ∨ Settles env (settleInvoice env invoice) s₁ s')

/-- Why the dealer's answer is not booked, if the database is not to blame. -/
def FiatDepositIgnored (env : Env) (msg : FiatDepositResponse) (s : State) : Prop :=
  DbSucceeds env s → msg.error = none → ∀ rate, msg.rate = some rate → 0 < msg.amount.value →
    s.db.invoiceByPaymentRequest msg.paymentRequest = none ∨
      ∃ fiat, msg.amount.exchange rate = .ok (.ok fiat) ∧ fiat.value ≤ 0

/-- The dealer's accounts are internal ones: what is booked is taken from the external
account of the bank. -/
theorem fiatDepositResponse_accounts (msg : FiatDepositResponse) :
    Ensures (fiatDepositResponse env msg) s fun _ s' => FiatDepositOutcome env msg s s' ∧
      (ShiftsExternal 0 s s' ∧ FiatDepositIgnored env msg s ∨
        ShiftsExternal (-msg.amount.value) s s') := by
  have hignored : ∀ {s'}, Booked env s [] s' → FiatDepositIgnored env msg s →
      FiatDepositOutcome env msg s s' ∧ (ShiftsExternal 0 s s' ∧ FiatDepositIgnored env msg s ∨
        ShiftsExternal (-msg.amount.value) s s') := by
    intro s' hb hreason
    exact ⟨.ignored hb hreason, .inl ⟨hb.shiftsExternal, hreason⟩⟩
  unfold fiatDepositResponse
  refine Ensures.ite (fun herr => hignored (.refl env s) fun _ h => ?_) fun herr => ?_
  · rw [h] at herr
    exact absurd herr (by simp)
  refine Ensures.ite (fun hconn => hignored (.refl env s) fun hdb => ?_) fun _ => ?_
  · rw [hdb.calls] at hconn
    exact absurd hconn (by simp)
  refine (findInvoice_spec _ _).bind ?_
  intro found s₀ hspec
  obtain ⟨rfl, hfound, hnone⟩ := hspec
  cases found with
  | none => exact hignored (.refl env s₀) fun hdb _ _ _ _ => .inl (hnone rfl (hdb.calls _))
  | some invoice =>
    have hfound := hfound invoice rfl
    dsimp only
    split
    next rate hrate =>
      refine (getOrOpenAccount_spec _ _ _).bind ?_
      intro inbound s₁ hspec
      obtain ⟨h₁, hin, hinc, -⟩ := hspec
      refine (getDealerAccount_spec _ _).bind ?_
      intro fiatAcc s₂ hspec
      obtain ⟨h₂, hdf, hdfc, hdft, -⟩ := hspec
      refine (getDealerAccount_spec _ _).bind ?_
      intro btcAcc s₃ hspec
      obtain ⟨h₃, hdb, hdbc, hdbt, -⟩ := hspec
      refine getLiabilityAccount_spec.bind ?_
      intro liability s₄ hspec
      obtain ⟨h₄, hli, hlic, hlit, -⟩ := hspec
      -- the four accounts, as they are when the first transaction is made
      have hb := ((h₁.opened h₂).opened h₃).opened h₄
      have hin := h₄.keeps (h₃.keeps (h₂.keeps hin))
      have hdf := h₄.keeps (h₃.keeps hdf)
      have hdb := h₄.keeps hdb
      refine Ensures.lift_bind fun exchanged hex => Ensures.lift_bind fun fiat hfi => ?_
      have hex : msg.amount.exchange rate = .ok (.ok fiat) := by
        rw [hex, Checked.unwrapOk_eq_ok.mp hfi]
      refine (makeTx_spec _ _ _ _ _ _).bind ?_
      intro r s₅ htx
      split
      next liability' btcAcc' outboundTxid =>
        obtain ⟨hv, -, -, rfl, rfl⟩ := htx.stored outboundTxid rfl
        have hb := hb.opened htx.booked
        refine (makeTx_spec _ _ _ _ _ _).bind ?_
        intro r s₆ htx'
        split
        next fiatAcc' inbound' inboundTxid =>
          obtain ⟨hf, -, -, rfl, rfl⟩ := htx'.stored inboundTxid rfl
          have hb := hb.opened htx'.booked
          have hin := htx'.booked.keeps (htx.booked.keeps hin)
          have hdf := htx'.booked.keeps (htx.booked.keeps hdf)
          have hdb := htx'.booked.keeps (htx.booked.keeps hdb)
          have hli := htx'.booked.keeps (htx.booked.keeps hli)
          -- both transactions are stored, and their accounts are of the kinds they should be
          have houtside : s₆.ledger.Holds (.bank, liability.accountId) .BTC (some .external) :=
            .of_get hli hlic hlit
          have hinside : s₆.ledger.Holds (.dealer, btcAcc.accountId) .BTC (some .internal) :=
            .of_get hdb hdbc hdbt
          have hfiat : s₆.ledger.Holds (.dealer, fiatAcc.accountId) msg.currency (some .internal) :=
            .of_get hdf hdfc hdft
          refine (insertIntoLedger_spec _ _).bind ?_
          intro _ s₇ h₇
          refine (putAccount_spec _ _).bind ?_
          intro _ s₈ h₈
          refine (putAccount_spec _ _).bind ?_
          intro _ s₉ h₉
          refine (putAccount_spec _ _).bind ?_
          intro _ s₁₀ h₁₀
          subst h₇ h₈ h₉ h₁₀
          -- three of the accounts are written back, and then the dealer's fiat one
          have hw := Booked.writeBack (s := s₆) env
            [⟨.user msg.uid, inbound, fiat.value⟩, ⟨.bank, liability, -msg.amount.value⟩,
              ⟨.dealer, btcAcc, msg.amount.value⟩]
            (by simp [Write.ref, hin, hli, hdb]) (by simp [Write.ref])
          simp only [List.map_cons, List.map_nil, Write.booking, Write.ref, hinc, hlic,
            hdbc] at hw
          have hx : msg.currency ≠ .BTC → Posting.sumAt
              [(⟨(.user msg.uid, inbound.accountId), msg.currency, fiat.value⟩ : Booking),
                ⟨(.bank, liability.accountId), .BTC, -msg.amount.value⟩,
                ⟨(.dealer, btcAcc.accountId), .BTC, msg.amount.value⟩]
              (.dealer, fiatAcc.accountId) = 0 := by
            intro hfiat
            have hne : btcAcc.accountId ≠ fiatAcc.accountId := fun e =>
              Ledger.ref_ne_of_currency hdb hdf (by rw [hdbc, hdfc]; exact hfiat.symm) (by rw [e])
            simp [hne]
          have hw := hw.put (-fiat.value) hdf
          rw [hdfc] at hw
          have hb := hb.trans hw
          refine (updateAccount_spec _ _).bind ?_
          intro _ s₁₁ hspec
          obtain ⟨h₁₁, -⟩ := hspec
          refine (updateAccount_spec _ _).bind ?_
          intro _ s₁₂ hspec
          obtain ⟨h₁₂, -⟩ := hspec
          refine (updateAccount_spec _ _).bind ?_
          intro _ s₁₃ hspec
          obtain ⟨h₁₃, -⟩ := hspec
          refine (updateAccount_spec _ _).bind ?_
          intro _ s₁₄ hspec
          obtain ⟨h₁₄, -⟩ := hspec
          refine (sendBankState_spec env).bind ?_
          intro _ s₁₅ hspec
          obtain ⟨h₁₅, -⟩ := hspec
          have hb := ((((hb.opened h₁₁).opened h₁₂).opened h₁₃).opened h₁₄).opened h₁₅
          have hwritten := (((((hw.opened h₁₁).opened h₁₂).opened h₁₃).opened h₁₄).opened h₁₅).moves
          -- the external account and the internal one cancel, and what is left is the deposit
          have hshift : ShiftsExternal (-msg.amount.value) s₀ s₁₅ := by
            refine .of_moves hb.moves ?_
            simp [(hwritten.holds houtside).weight_external,
              (hwritten.holds hinside).weight_internal,
              (hwritten.holds hfiat).weight_internal, Owner.weight]
          refine Ensures.mono (R := fun _ s' => Noted s₁₅ s' ∧ ¬SummaryStored env s₁₅ ∨
            Settles env (settleInvoice env invoice) s₁₅ s') ?_ fun _ s' h =>
              ⟨.credited invoice rate fiat s₁₅ _ _ _ _ _ hfound hrate (by simpa using herr) hex
                ⟨hv, hf⟩ hx hb ?_, .inr (hshift.after ?_)⟩
          · refine (makeSummaryTx_spec _).bind ?_
            intro r s₁₆ hspec
            obtain ⟨hn, hsum, -⟩ := hspec
            split
            next =>
              refine (updateInvoice_spec _).bind ?_
              intro _ s₁₇ hset
              exact (notifyPaid_spec _ _).mono fun _ s' h' => .inr (hn.settles (hset.noted h'))
            next hno =>
              exact .inl ⟨hn, fun hst => by
                obtain ⟨txid, hok⟩ := hsum.mpr ⟨hv, hst⟩
                exact hno _ hok⟩
          · rwa [hb.summaryStored_iff] at h
          · exact h.elim (fun h => h.1.ledger) fun h => h.ledger
        next hno =>
          -- the second transaction is stored whenever the database works and the value is positive
          refine hignored (hb.opened htx'.booked) fun hd _ rate' hr _ => .inr ⟨fiat, ?_, ?_⟩
          · rw [← Option.some.inj (hrate.symm.trans hr)]
            exact hex
          · by_contra hpos
            obtain ⟨txid, hok⟩ := htx'.succeeds (not_le.mp hpos) (by rw [hdfc, hinc])
              ((hb.healthy hd).txStored 1 0)
            exact hno _ _ _ (by rw [← hok])
      next hno =>
        refine hignored (hb.opened htx.booked) fun hd _ _ _ hv => ?_
        obtain ⟨txid, hok⟩ := htx.succeeds hv (by rw [hlic, hdbc]) ((hb.healthy hd).txStored 0 0)
        exact absurd (by rw [← hok]) (hno _ _ txid)
    next hno => exact hignored (.refl env s₀) fun _ _ rate hr => absurd hr (hno rate)

theorem fiatDepositResponse_spec (msg : FiatDepositResponse) :
    Ensures (fiatDepositResponse env msg) s fun _ s' => FiatDepositOutcome env msg s s' :=
  (fiatDepositResponse_accounts msg).mono fun _ _ h => h.1

/-! ## Transfers of the dealer, and new invoices -/

/-- The amount of a payment of the dealer, in sats: no millisatoshi is dropped. -/
def dealerSats (millisats : UInt64) : Decimal := LndConnector.asI64 millisats.toNat / 1000

/-- What the node answers to a payment of the dealer. -/
def dealerAnswer (cfg : Config) (lnd : Lnd) (msg : PayInvoice) (millisats : UInt64) :
    Checked (Except LndConnectorError PayResponse) :=
  LndConnector.payInvoice lnd (some msg.paymentRequest) (dealerSats millisats)
    (some cfg.lnNetworkMaxFee) none

/-- What a payment of the dealer puts on the external accounts: the amount of the invoice
if the node has paid it, without the fee. -/
inductive DealerPayment (cfg : Config) (env : Env) (msg : PayInvoice) (s s' : State) : Prop
  | unknown (unparsed : cfg.parseInvoice msg.paymentRequest = none) (same : ShiftsExternal 0 s s')
  | failed (decoded : Bolt11) (millisats : UInt64) (e : LndConnectorError)
      (parsed : cfg.parseInvoice msg.paymentRequest = some decoded)
      (hmillisats : decoded.amountMilliSatoshis = some millisats)
      (answer : dealerAnswer cfg env.lnd msg millisats = .ok (.error e))
      (same : ShiftsExternal 0 s s')
  | paid (decoded : Bolt11) (millisats : UInt64) (r : PayResponse) (v : Decimal)
      (parsed : cfg.parseInvoice msg.paymentRequest = some decoded)
      (hmillisats : decoded.amountMilliSatoshis = some millisats)
      (answer : dealerAnswer cfg env.lnd msg millisats = .ok (.ok r))
      (moved : ShiftsExternal v s s')
      (amount : v = 0 ∨ v = (Money.fromSats (dealerSats millisats)).value)
      (all : DbSucceeds env s → 0 < (Money.fromSats (dealerSats millisats)).value →
        v = (Money.fromSats (dealerSats millisats)).value)

/-- A payment of the dealer moves its amount from the dealer's internal account
to an external one. -/
theorem processDealerInvoice_accounts (msg : PayInvoice) (isExternal : Bool) :
    Ensures (processDealerInvoice cfg env msg isExternal) s fun _ s' =>
      (Booked env s [] s' ∨ ∃ o id id' v, (∀ uid, o ≠ .user uid) ∧
        Booked env s [⟨(o, id), .BTC, v⟩, ⟨(.dealer, id'), .BTC, -v⟩] s') ∧
      DealerPayment cfg env msg s s' := by
  unfold processDealerInvoice
  split
  next decoded hparsed =>
    split
    next millisats hmillisats =>
      refine Ensures.lift_bind fun result hresult => ?_
      split
      next response =>
        have hanswer : dealerAnswer cfg env.lnd msg millisats = .ok (.ok response) := hresult
        dsimp only
        generalize ho : (if isExternal = true then Owner.bank else Owner.dealer) = o
        have hamount : Money.fromSats ((LndConnector.asI64 millisats.toNat : Decimal) / 1000) =
          Money.fromSats (dealerSats millisats) := rfl
        rw [hamount]
        generalize hvalue : Money.fromSats (dealerSats millisats) = amount
        have hnot : ∀ uid, o ≠ .user uid := by
          intro uid
          rw [← ho]
          split <;> simp
        have hweight : o.weight = 1 := by
          rw [← ho]
          split <;> rfl
        refine (getDefaultAccount_spec _ _ _).bind ?_
        intro inbound s₁ hspec
        obtain ⟨h₁, hin, hinc, hint, -⟩ := hspec
        refine (getDealerAccount_spec _ _).bind ?_
        intro outbound s₂ hspec
        obtain ⟨h₂, hout, houtc, houtt, -⟩ := hspec
        have hin := h₂.keeps hin
        refine (makeTx_spec _ _ _ _ _ _).bind ?_
        intro r s₃ htx
        have hb := (h₁.opened h₂).opened htx.booked
        split
        next outbound' inbound' txid =>
          obtain ⟨-, -, -, rfl, rfl⟩ := htx.stored txid rfl
          have hin := htx.booked.keeps hin
          have hout := htx.booked.keeps hout
          refine (updateAccount_spec _ _).bind ?_
          intro _ s₄ hspec
          obtain ⟨h₄, -⟩ := hspec
          refine (updateAccount_spec _ _).bind ?_
          intro _ s₅ hspec
          obtain ⟨h₅, -⟩ := hspec
          have hin := h₅.keeps (h₄.keeps hin)
          have hout := h₅.keeps (h₄.keeps hout)
          -- they differ, as one is external and the other internal
          have hne : (o, inbound.accountId) ≠ (Owner.dealer, outbound.accountId) := by
            intro e
            rw [e, hout] at hin
            injection hin with hin
            rw [← hin, houtt] at hint
            exact absurd (hint _ rfl) (by decide)
          have houtside : s₅.ledger.Holds (o, inbound.accountId) .BTC (some .external) :=
            .of_get hin hinc (hint _ rfl)
          have hinside : s₅.ledger.Holds (.dealer, outbound.accountId) .BTC (some .internal) :=
            .of_get hout houtc houtt
          refine (putAccount_spec _ _).bind ?_
          intro _ s₆ h₆
          refine (putAccount_spec _ _).mono fun _ s₇ h₇ => ?_
          subst h₆ h₇
          -- two accounts are written back
          have hw := Booked.writeBack (s := s₅) env
            [⟨o, inbound, amount.value⟩, ⟨.dealer, outbound, -amount.value⟩]
            (by simp [Write.ref, hin, hout]) (by simpa [Write.ref] using hne)
          simp only [List.map_cons, List.map_nil, Write.booking, Write.ref, hinc, houtc] at hw
          have hb := ((hb.opened h₄).opened h₅).trans hw
          refine ⟨.inr ⟨o, _, _, _, hnot, hb⟩, .paid decoded millisats response amount.value hparsed
            hmillisats hanswer (.of_moves hb.moves ?_) ?_ ?_⟩
          · show externalIn (s₅.ledger.writeBack [⟨o, inbound, amount.value⟩,
              ⟨.dealer, outbound, -amount.value⟩]) _ = _
            simp [(hw.moves.holds houtside).weight_external,
              (hw.moves.holds hinside).weight_internal, hweight]
          · rw [hvalue]
            exact .inr rfl
          · rw [hvalue]
            exact fun _ _ => rfl
        next hno =>
          refine ⟨.inl hb, .paid decoded millisats response 0 hparsed hmillisats hanswer
            hb.shiftsExternal (.inl rfl) fun hd hpos => ?_⟩
          rw [hvalue] at hpos
          obtain ⟨txid, hok⟩ := htx.succeeds hpos (by rw [houtc, hinc])
            (((h₁.opened h₂).healthy hd).txStored 0 0)
          exact absurd (by rw [← hok]) (hno _ _ txid)
      next hno =>
        cases result with
        | ok response => exact absurd rfl (hno response)
        | error e =>
          exact ⟨.inl (.refl env s), .failed decoded millisats e hparsed hmillisats hresult
            (.of_ledger rfl)⟩
    next => exact Ensures.panic _
  next hno =>
    exact ⟨.inl (.refl env s), .unknown (Option.eq_none_iff_forall_ne_some.mpr hno)
      (.of_ledger rfl)⟩

theorem processDealerInvoice_spec (msg : PayInvoice) (isExternal : Bool) :
    Ensures (processDealerInvoice cfg env msg isExternal) s fun _ s' =>
      Booked env s [] s' ∨ ∃ o id id' v, (∀ uid, o ≠ .user uid) ∧
        Booked env s [⟨(o, id), .BTC, v⟩, ⟨(.dealer, id'), .BTC, -v⟩] s' :=
  (processDealerInvoice_accounts msg isExternal).mono fun _ _ h => h.1

theorem targetAccount_spec (uid : UserId) (accountId : Option Uuid) (currency : Currency) :
    Ensures (targetAccount env uid accountId currency) s fun _ s' => Booked env s [] s' := by
  refine Ensures.get_bind ?_
  split
  next =>
    split
    · exact .refl env s
    · exact .refl env s
  next =>
    refine (getDefaultAccount_spec _ _ _).bind ?_
    intro a s₁ hspec
    obtain ⟨h₁, -⟩ := hspec
    exact h₁

theorem processCreateInvoiceRequest_spec (req : CreateInvoiceRequest) (owner : UserId) :
    Ensures (processCreateInvoiceRequest cfg env req owner) s fun _ s' => Booked env s [] s' := by
  refine Ensures.ite (fun _ => .refl env s) fun _ => ?_
  refine Ensures.bind (R := fun _ s' => Booked env s [] s') ?_ ?_
  · refine Ensures.ite (fun _ => getLiabilityAccount_spec.mono fun _ _ h => h.1) fun _ => ?_
    refine Ensures.ite (fun _ => (getDealerAccount_spec _ _).mono fun _ _ h => h.1) fun _ => ?_
    exact Ensures.panic _
  intro account s₁ h₁
  split
  next =>
    refine (insertInvoice_spec _).bind ?_
    intro stored s₂ hspec
    obtain ⟨h₂, -⟩ := hspec
    refine Ensures.ite (fun _ => h₁.opened h₂) fun _ => ?_
    exact (sendDealer_spec env _).mono fun _ s' h => (h₁.opened h₂).opened h.1
  next => exact h₁

theorem invoiceRequest_spec (msg : InvoiceRequest) :
    Ensures (invoiceRequest cfg env msg) s fun _ s' => Booked env s [] s' := by
  unfold invoiceRequest
  refine (checkDepositRequestRateLimit_spec _).bind ?_
  intro admitted s₁ h₁
  refine Ensures.ite (fun _ => ?_) fun _ => ?_
  · exact (sendApi_spec env _).mono fun _ s' h => h₁.opened h.1
  refine (openUser_spec env _).bind ?_
  intro _ s₂ hspec
  obtain ⟨h₂, -⟩ := hspec
  have hb := h₁.opened h₂
  refine Ensures.ite (fun _ => ?_) fun _ => ?_
  · exact (sendApi_spec env _).mono fun _ s' h => hb.opened h.1
  refine Ensures.ite (fun _ => ?_) fun _ => ?_
  · exact (sendApi_spec env _).mono fun _ s' h => hb.opened h.1
  refine (targetAccount_spec _ _ _).bind ?_
  intro target s₃ h₃
  have hb := hb.opened h₃
  split
  next => exact (sendApi_spec env _).mono fun _ s' h => hb.opened h.1
  next target =>
    dsimp only
    refine Ensures.ite (fun _ => ?_) fun _ => ?_
    · exact (send_spec env _ _).mono fun _ s' h => hb.opened h.1
    refine Ensures.lift_bind fun amountInSats _ => ?_
    split
    next invoice _ =>
      refine (insertInvoice_spec _).bind ?_
      intro stored s₄ hspec
      obtain ⟨h₄, -⟩ := hspec
      have hb := hb.opened h₄
      refine Ensures.ite (fun _ => ?_) fun _ => ?_
      · exact (sendApi_spec env _).mono fun _ s' h => hb.opened h.1
      · exact (sendApi_spec env _).mono fun _ s' h => hb.opened h.1
    next => exact hb

theorem invoiceResponse_spec (msg : InvoiceResponse) :
    Ensures (invoiceResponse cfg env msg) s fun _ s' => Booked env s [] s' := by
  unfold invoiceResponse
  split
  next rate _ =>
    refine Ensures.lift_bind fun amountInSats _ => ?_
    refine Ensures.ite (fun _ => ?_) fun _ => ?_
    · exact (sendApi_spec env _).mono fun _ s' h => h.1
    refine (openUser_spec env _).bind ?_
    intro _ s₁ hspec
    obtain ⟨h₁, -⟩ := hspec
    refine (targetAccount_spec _ _ _).bind ?_
    intro target s₂ h₂
    have hb := h₁.opened h₂
    split
    next => exact (sendApi_spec env _).mono fun _ s' h => hb.opened h.1
    next target =>
      split
      next invoice _ =>
        dsimp only
        refine (insertInvoice_spec _).bind ?_
        intro stored s₃ hspec
        obtain ⟨h₃, -⟩ := hspec
        have hb := hb.opened h₃
        refine Ensures.ite (fun _ => ?_) fun _ => ?_
        · exact (sendApi_spec env _).mono fun _ s' h => hb.opened h.1
        · exact (sendApi_spec env _).mono fun _ s' h => hb.opened h.1
      next => exact hb
  next => exact (sendApi_spec env _).mono fun _ s' h => h.1

end Lndhubx
