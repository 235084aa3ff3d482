import Lndhubx.Bank.Spec
import Lndhubx.Lib.Atomic

/-!
# All or nothing

`make_tx` changes the copies it is given before it inserts its row, and the
insert can still fail. That a message in which a `make_tx` fails changes no
balance therefore rests on every handler: it must drop the copies of the failed
transfer, and those of a transfer before it that did go through.

They all do but one. `handle_dealer_deposit` only logs the result, and writes
the copies back to the ledger and to the accounts table either way
(`handleDealerDeposit_calm` says when there is no harm in it).
-/

namespace Lndhubx

open Prog BankEngine

variable {cfg : Config} {env : Env} {s s' : State} {α : Type}

/-- No balance was changed, neither in memory nor in the accounts table. An
account that is not there counts as an empty one. -/
structure SameBalances (s s' : State) : Prop where
  ledger : ∀ r, s'.ledger.balanceAt r = s.ledger.balanceAt r
  insurance : s'.ledger.insuranceFundAccount = s.ledger.insuranceFundAccount
  accounts : s'.db.accounts = s.db.accounts

namespace SameBalances

/-- Neither the ledger nor the accounts table was touched. -/
theorem of_eq (hl : s'.ledger = s.ledger) (ha : s'.db.accounts = s.db.accounts) :
    SameBalances s s' := ⟨fun _ => by rw [hl], by rw [hl], ha⟩

instance : Std.Refl SameBalances := ⟨fun _ => of_eq rfl rfl⟩

instance : IsTrans State SameBalances :=
  ⟨fun _ _ _ h h' => ⟨fun r => (h'.ledger r).trans (h.ledger r), h'.insurance.trans h.insurance,
    h'.accounts.trans h.accounts⟩⟩

end SameBalances

/-- A handler in which no `make_tx` fails. -/
abbrev Smooth (p : Handler α) : Prop := Keeps (Calm State.failedTxs) p

/-- A handler that changes no balance, and in which no `make_tx` fails. -/
abbrev Idles (p : Handler α) : Prop := Keeps (Prog.Idle State.failedTxs SameBalances) p

/-- A handler that changes no balance if one of its `make_tx` calls fails. -/
abbrev AllOrNothing (p : Handler α) : Prop := Prog.Atomic State.failedTxs SameBalances p

/-! ## The operations -/

/-- A change of neither the ledger nor the accounts table. -/
theorem idle_of_eq (hl : s'.ledger = s.ledger) (ha : s'.db.accounts = s.db.accounts)
    (hf : s'.failedTxs = s.failedTxs) : Prog.Idle State.failedTxs SameBalances s s' :=
  ⟨.of_eq hl ha, hf⟩

/-- A message books nothing. -/
theorem send_idle (msg : Message) (destination : ServiceIdentity) :
    Idles (send msg destination) := fun _ => idle_of_eq rfl rfl rfl

/-- Nor does an answer to the API. -/
theorem sendApi_idle (msg : Api) : Idles (sendApi msg) := send_idle _ _

/-- Nor does one to the dealer. -/
theorem sendDealer_idle (msg : Dealer) : Idles (sendDealer msg) := send_idle _ _

/-- An entry without accounts holds no balance. -/
theorem openUser_idle (uid : UserId) : Idles (modifyLedger (·.openUser uid)) := by
  intro s
  refine ⟨⟨fun r => ?_, rfl, rfl⟩, rfl⟩
  show (s.ledger.openUser uid).balanceAt r = _
  unfold Ledger.balanceAt
  rw [Ledger.get_openUser]

/-- An account that is opened is empty. -/
theorem getDefaultAccount_idle (o : Owner) (currency : Currency) (t : Option AccountType) :
    Idles (getDefaultAccount env o currency t) := by
  intro s
  have hrest : Ensures (getDefaultAccount env o currency t) s fun _ s' =>
      s'.ledger.insuranceFundAccount = s.ledger.insuranceFundAccount ∧
        s'.db.accounts = s.db.accounts ∧ s'.failedTxs = s.failedTxs := by
    refine Ensures.get_bind ?_
    split
    next => exact ⟨rfl, rfl, rfl⟩
    next =>
      refine ⟨?_, rfl, rfl⟩
      cases o with
      | user uid => rfl
      | bank => rfl
      | dealer => rfl
  refine ((getDefaultAccount_spec o currency t).and hrest).mono fun a s' h => ?_
  obtain ⟨⟨hb, -⟩, hins, hacc, hfail⟩ := h
  refine ⟨⟨fun r => ?_, hins, hacc⟩, hfail⟩
  rw [hb.moves.balanceAt, Posting.sumAt_nil, add_zero]

/-- So is one in an entry that is made for it. -/
theorem getOrOpenAccount_idle (uid : UserId) (currency : Currency) (t : Option AccountType) :
    Idles (getOrOpenAccount env uid currency t) :=
  (openUser_idle uid).bind fun _ => getDefaultAccount_idle _ _ _

/-- An invoice is read. -/
theorem findInvoice_idle (call : DbCall) (pr : String) : Idles (findInvoice env call pr) :=
  Keeps.read.bind fun _ => .ret _

/-- An invoice is stored. -/
theorem insertInvoice_idle (i : Invoice) : Idles (insertInvoice env i) := by
  intro s
  refine Ensures.get_bind ?_
  split
  next => exact idle_of_eq rfl rfl rfl
  next => exact idle_of_eq rfl rfl rfl

/-- An invoice is updated. -/
theorem updateInvoice_idle (i : Invoice) : Idles (updateInvoice env i) := by
  intro s
  show Prog.Idle State.failedTxs SameBalances s (if env.db .invoiceUpdate then _ else s)
  split
  · exact idle_of_eq rfl rfl rfl
  · exact idle_of_eq rfl rfl rfl

/-- Who is paid is told over nostr. -/
theorem notifyPaid_idle (uid : Int) (text : Checked PaidText) :
    Idles (notifyPaid env uid text) := by
  unfold notifyPaid
  split
  next =>
    refine (Keeps.lift _).bind fun _ => .ite ?_ (.ret _)
    split
    next => exact (Keeps.lift _).bind fun _ => send_idle _ _
    next => exact .ret _
  next => exact .ret _

/-- So is a zap. -/
theorem publishIfZapNote_idle (i : Invoice) (hash preimage : Option String) (t : Nat)
    (internal : Bool) : Idles (publishIfZapNote cfg i hash preimage t internal) := by
  refine .ite ?_ (.ret _)
  split
  next => exact (Keeps.lift _).bind fun _ => send_idle _ _
  next => exact .ret _

/-- The balances are read and told. -/
theorem sendBankState_idle : Idles sendBankState :=
  (Keeps.read.bind fun _ => (Keeps.lift _).bind fun _ => .ret _).bind fun _ => sendDealer_idle _

/-- A summary says what was booked, and books nothing. -/
theorem makeSummaryTx_idle (x : SummaryTx) : Idles (makeSummaryTx env x) := by
  refine .ite (.ret _) (.ite (.panic _) (.ite (.ret _) ?_))
  refine (Keeps.lift _).bind fun _ => (Keeps.lift _).bind fun _ s => Ensures.get_bind ?_
  dsimp only
  split
  next => exact idle_of_eq rfl rfl rfl
  next => exact idle_of_eq rfl rfl rfl

/-- A copy is written back: this may change a balance, but no transaction fails here. -/
theorem insertIntoLedger_smooth (uid : UserId) (a : Account) : Smooth (insertIntoLedger uid a) :=
  Keeps.read.bind fun _ => .ite (.write fun _ => rfl) (.panic _)

/-- So may one of the bank or of the dealer. -/
theorem putAccount_smooth (o : Owner) (a : Account) : Smooth (putAccount o a) := fun _ => rfl

/-- And the row it is stored in. -/
theorem updateAccount_smooth (a : Account) (uid : UserId) : Smooth (updateAccount env a uid) :=
  .ite (.ret _) (.ite (.ret _) (.write fun _ => rfl))

/-- `make_tx` writes nothing back; it fails exactly if it returns an error. -/
theorem makeTx_tries (leg : Nat) (outbound : Account) (outboundUid : UserId) (inbound : Account)
    (inboundUid : UserId) (amount : Money) (s : State) :
    Ensures (makeTx env leg outbound outboundUid inbound inboundUid amount) s fun r s' =>
      SameBalances s s' ∧ ((∃ txid, r.result = .ok txid) ↔ s'.failedTxs = s.failedTxs) := by
  have hfailed (o i : Account) (t : State) (hl : t.ledger = s.ledger)
      (ha : t.db.accounts = s.db.accounts) (hf : t.failedTxs = s.failedTxs) :
      Ensures (failTx o i) t fun r s' => SameBalances s s' ∧
        ((∃ txid, r.result = .ok txid) ↔ s'.failedTxs = s.failedTxs) := by
    refine ⟨.of_eq hl ha, fun h => ?_, fun h => ?_⟩
    · obtain ⟨txid, h⟩ := h
      exact absurd h (by simp)
    · have hcount : t.failedTxs + 1 = s.failedTxs := h
      omega
  unfold makeTx
  refine Ensures.ite (fun _ => hfailed _ _ s rfl rfl rfl) fun _ => ?_
  refine Ensures.ite (fun _ => hfailed _ _ s rfl rfl rfl) fun _ => ?_
  refine Ensures.ite (fun _ => hfailed _ _ s rfl rfl rfl) fun _ => ?_
  refine Ensures.lift_bind fun _ _ => Ensures.lift_bind fun _ _ => Ensures.get_bind ?_
  dsimp only
  split
  next => exact ⟨.of_eq rfl rfl, fun _ => rfl, fun _ => ⟨_, rfl⟩⟩
  next => exact Ensures.set_bind (hfailed _ _ _ rfl rfl rfl)

/-- After a `make_tx`: a handler goes on where it went through, and changes
nothing where it did not. -/
theorem makeTx_then {leg : Nat} {outbound inbound : Account} {outboundUid inboundUid : UserId}
    {amount : Money} {f : TxOutcome → Handler α}
    (hok : ∀ o i txid, AllOrNothing (f ⟨o, i, .ok txid⟩))
    (hno : ∀ o i e, Keeps SameBalances (f ⟨o, i, .error e⟩)) :
    AllOrNothing (makeTx env leg outbound outboundUid inbound inboundUid amount >>= f) := by
  refine Prog.Atomic.attempt (fun s => (makeTx_tries leg outbound outboundUid inbound inboundUid
    amount s).mono fun r s' h => ⟨h.1, h.2.mp⟩) ?_ ?_
  · intro r hr
    obtain ⟨o, i, result⟩ := r
    obtain ⟨txid, hr⟩ := hr
    rw [show result = .ok txid from hr]
    exact hok o i txid
  · intro r hr
    obtain ⟨o, i, result⟩ := r
    cases result with
    | error e => exact hno o i e
    | ok txid => exact absurd ⟨txid, rfl⟩ hr

/-! ## Payments -/

/-- A payment between users: the copies of a failed transfer are dropped. -/
theorem makeInternalTx_atomic (req : PaymentRequest) :
    AllOrNothing (makeInternalTx cfg env req) := by
  have hrefuse (m : PaymentResponse) (e : PaymentResponseError) :
      AllOrNothing (do sendApi (.paymentResponse m); return (.error e : Except _ Unit)) :=
    .after (sendApi_idle _) fun _ => .ret _
  refine .ite (.ret _) ?_
  split
  next username =>
    refine .after (.lift _) fun amount => ?_
    split
    next inboundUser _ =>
      split
      next outboundUser _ =>
        refine .ite (.ret _) (.after .read fun s => .ite (.ret _) ?_)
        refine .after (getDefaultAccount_idle _ _ _) fun outbound => ?_
        refine .after (getOrOpenAccount_idle _ _ _) fun inbound => .ite (hrefuse _ _) ?_
        refine makeTx_then (fun outbound inbound txid => ?_) fun _ _ _ => .ret _
        refine .after (makeSummaryTx_idle _) fun summary => ?_
        split
        next =>
          refine .of_calm ?_
          refine (insertIntoLedger_smooth _ _).bind fun _ => ?_
          refine (insertIntoLedger_smooth _ _).bind fun _ => ?_
          refine (updateAccount_smooth _ _).bind fun _ =>
            (updateAccount_smooth _ _).bind fun _ => ?_
          exact (sendApi_idle _).calm.bind fun _ => .ret _
        next => exact .ret _
      next => exact hrefuse _ _
    next => exact hrefuse _ _
  next => exact .panic _

/-- The copies of two transfers are written back, and a summary is written. -/
theorem debitFiat_atomic (p : Outgoing) (outbound liability : Account) :
    AllOrNothing (debitFiat env p outbound liability) := by
  refine .after (getDefaultAccount_idle _ _ _) fun dealerFiat => ?_
  refine makeTx_then (fun outbound dealerFiat outboundTxid => ?_) fun _ _ _ => .ret _
  refine .after (getDefaultAccount_idle _ _ _) fun dealerBtc => ?_
  -- a failure here drops the copies of the first transfer as well
  refine makeTx_then (fun dealerBtc liability inboundTxid => .of_calm ?_) fun _ _ _ => .ret _
  refine (insertIntoLedger_smooth _ _).bind fun _ => (putAccount_smooth _ _).bind fun _ => ?_
  refine (putAccount_smooth _ _).bind fun _ => (putAccount_smooth _ _).bind fun _ => ?_
  refine (updateAccount_smooth _ _).bind fun _ => (updateAccount_smooth _ _).bind fun _ => ?_
  refine (updateAccount_smooth _ _).bind fun _ => (updateAccount_smooth _ _).bind fun _ => ?_
  refine (makeSummaryTx_idle _).calm.bind fun summary => ?_
  split
  next => exact .ret _
  next => exact .ret _

/-- A debit in bitcoin is one transaction. -/
theorem debitBtc_atomic (p : Outgoing) (outbound liability : Account) :
    AllOrNothing (debitBtc env p outbound liability) := by
  refine makeTx_then (fun outbound liability txid => .of_calm ?_) fun _ _ _ => ?_
  · refine (putAccount_smooth _ _).bind fun _ => (insertIntoLedger_smooth _ _).bind fun _ => ?_
    refine (updateAccount_smooth _ _).bind fun _ => (updateAccount_smooth _ _).bind fun _ => ?_
    refine (makeSummaryTx_idle _).calm.bind fun summary => ?_
    split
    next => exact .ret _
    next => exact .ret _
  · exact (sendApi_idle _).unchanged.bind fun _ => .ret _

/-- A task is started after the debit, and books nothing. -/
theorem spawnPayment_idle (p : Outgoing) : Idles (spawnPayment p) :=
  (Keeps.lift _).bind fun _ => (Keeps.lift _).bind fun _ => .write fun _ => idle_of_eq rfl rfl rfl

/-- Either way of paying over the node is all or nothing. -/
theorem payExternally_atomic (p : Outgoing) (outbound : Account) :
    AllOrNothing (payExternally env p outbound) := by
  refine .after (getDefaultAccount_idle _ _ _) fun liability => .before ?_ fun debited => ?_
  · exact .ite (debitFiat_atomic _ _ _) (debitBtc_atomic _ _ _)
  · exact .ite (spawnPayment_idle p) (.ret _)

/-- The owner of an invoice is paid as a user is. -/
theorem payOwner_atomic (msg : PaymentRequest) (invoice : Invoice) (owner : Int) :
    AllOrNothing (payOwner cfg env msg invoice owner) := by
  unfold payOwner
  split
  next user _ =>
    refine .before (makeInternalTx_atomic _) fun result => ?_
    split
    next => exact (updateInvoice_idle _).bind fun _ => publishIfZapNote_idle _ _ _ _ _
    next => exact .ret _
  next => exact .after (sendApi_idle _) fun _ => .ret _

/-- The invoice to be paid is looked up or stored. -/
theorem findOrInsertInvoice_idle (msg : PaymentRequest) (pr : String) (decoded : Bolt11)
    (millisats : Nat) : Idles (findOrInsertInvoice env msg pr decoded millisats) := by
  refine (findInvoice_idle _ _).bind fun found => ?_
  split
  next => exact .ret _
  next => exact (insertInvoice_idle _).bind fun _ => .ret _

/-- A payment with a price goes one of two ways, both all or nothing. -/
theorem payPriced_atomic (msg : PaymentRequest) (pr : String) (decoded : Bolt11)
    (millisats : UInt64) (outbound : Account) (outboundUsername inboundUsername : String) :
    AllOrNothing (payPriced cfg env msg pr decoded millisats outbound outboundUsername
      inboundUsername) := by
  have hrefuse (m : PaymentResponse) :
      AllOrNothing (do sendApi (.paymentResponse m); return) :=
    .after (sendApi_idle _) fun _ => .ret _
  refine .after (.lift _) fun rate => .after (.lift _) fun _ => .after (.lift _) fun amount => ?_
  refine .after (findOrInsertInvoice_idle _ _ _ _) fun found => ?_
  split
  next invoice =>
    refine .ite (hrefuse _) (.ite (hrefuse _) (.after (.lift _) fun priced => ?_))
    obtain ⟨fee, total, debit⟩ := priced
    refine .ite (hrefuse _) ?_
    split
    next => exact payExternally_atomic _ _
    next => exact payOwner_atomic _ _ _
  next => exact .ret _

/-- What comes before the price books nothing. -/
theorem payLightning_atomic (msg : PaymentRequest) (outbound : Account)
    (outboundUsername inboundUsername : String) :
    AllOrNothing (payLightning cfg env msg outbound outboundUsername inboundUsername) := by
  unfold payLightning
  split
  next =>
    split
    next =>
      split
      next =>
        refine .ite (.after (send_idle _ _) fun _ => .ret _) ?_
        dsimp only
        split
        next => exact payPriced_atomic _ _ _ _ _ _ _
        next => exact payPriced_atomic _ _ _ _ _ _ _
      next => exact .after (sendApi_idle _) fun _ => .ret _
    next => exact .after (sendApi_idle _) fun _ => .ret _
  next => exact .ret _

/-- Nor do the first checks of a payment request. -/
theorem paymentRequest_atomic (msg : PaymentRequest) :
    AllOrNothing (BankEngine.paymentRequest cfg env msg) := by
  have hrefuse (m : PaymentResponse) :
      AllOrNothing (do sendApi (.paymentResponse m); return) :=
    .after (sendApi_idle _) fun _ => .ret _
  have hlimit : Idles (checkWithdrawalRequestRateLimit cfg env msg.uid) :=
    fun _ => idle_of_eq rfl rfl rfl
  refine .after hlimit fun admitted => .ite (hrefuse _) (.after .read fun s => ?_)
  refine .ite (hrefuse _) (.after (getDefaultAccount_idle _ _ _) fun outbound => ?_)
  refine .ite (hrefuse _) (.ite (hrefuse _) ?_)
  split
  next payer _ =>
    split
    next => exact .before (makeInternalTx_atomic _) fun _ => .ret _
    next => exact payLightning_atomic _ _ _ _
  next => exact .ret _

/-! ## Results of payments -/

/-- What the node did not charge is moved by one transaction. -/
theorem moveExcessFees_atomic (excess : Decimal) (liabilities dealerBtc : Account) :
    AllOrNothing (moveExcessFees env excess liabilities dealerBtc) := by
  refine .ite (.ret _) (makeTx_then (fun liabilities dealerBtc txid => .of_calm ?_)
    fun _ _ _ => .ret _)
  refine (putAccount_smooth _ _).bind fun _ => (putAccount_smooth _ _).bind fun _ => ?_
  exact (updateAccount_smooth _ _).bind fun _ => (updateAccount_smooth _ _).bind fun _ => .ret _

/-- A payment that went through books that much at most. -/
theorem settlePayment_atomic (res : PaymentResult) (liabilities dealerBtc : Account) :
    AllOrNothing (settlePayment env res liabilities dealerBtc) := by
  refine .after (.lift _) fun _ => .after (.lift _) fun _ => .after (.lift _) fun _ => ?_
  refine .after (.lift _) fun _ => .ite (.panic _) ?_
  refine .before (moveExcessFees_atomic _ _ _) fun moved => .ite (.ret _) ?_
  split
  next =>
    refine (findInvoice_idle _ _).bind fun found => ?_
    split
    next =>
      refine (Keeps.lift _).bind fun _ => (Keeps.lift _).bind fun _ => ?_
      exact (Keeps.lift _).bind fun _ => (updateInvoice_idle _).bind fun _ => .ret _
    next => exact .ret _
  next => exact .panic _

/-- A refund in fiat: both transactions, or none. -/
theorem refundFiat_atomic (res : PaymentResult) (amount : Money) (liabilities inbound : Account) :
    AllOrNothing (refundFiat env res amount liabilities inbound) := by
  refine .after (getDefaultAccount_idle _ _ _) fun dealerBtc => ?_
  refine .after (getDefaultAccount_idle _ _ _) fun dealerFiat => ?_
  refine makeTx_then (fun liabilities dealerBtc outboundTxid => ?_) fun _ _ _ => .ret _
  refine makeTx_then (fun dealerFiat inbound inboundTxid => .of_calm ?_) fun _ _ _ => .ret _
  refine (putAccount_smooth _ _).bind fun _ => (putAccount_smooth _ _).bind fun _ => ?_
  refine (putAccount_smooth _ _).bind fun _ => (insertIntoLedger_smooth _ _).bind fun _ => ?_
  refine (updateAccount_smooth _ _).bind fun _ => (updateAccount_smooth _ _).bind fun _ => ?_
  refine (updateAccount_smooth _ _).bind fun _ => (updateAccount_smooth _ _).bind fun _ => ?_
  refine (makeSummaryTx_idle _).calm.bind fun summary => ?_
  split
  next => exact .ret _
  next => exact .ret _

/-- A refund in bitcoin is one transaction. -/
theorem refundBtc_atomic (res : PaymentResult) (liabilities inbound : Account) :
    AllOrNothing (refundBtc env res liabilities inbound) := by
  refine makeTx_then (fun liabilities inbound txid => .of_calm ?_) fun _ _ _ => .ret _
  refine (putAccount_smooth _ _).bind fun _ => (insertIntoLedger_smooth _ _).bind fun _ => ?_
  refine (updateAccount_smooth _ _).bind fun _ => (updateAccount_smooth _ _).bind fun _ => ?_
  refine (makeSummaryTx_idle _).calm.bind fun summary => ?_
  split
  next => exact .ret _
  next => exact .ret _

/-- A result is settled or refunded, both all or nothing. -/
theorem paymentResult_atomic (res : PaymentResult) : AllOrNothing (paymentResult env res) := by
  refine .ite (.panic _) (.ite (.ret _)
    (.after (getDefaultAccount_idle _ _ _) fun liabilities => ?_))
  refine .after .read fun s => .ite (.ret _)
    (.after (getDefaultAccount_idle _ _ _) fun inbound => ?_)
  refine .after (getDefaultAccount_idle _ _ _) fun dealerBtc => .before ?_ fun answered => ?_
  · refine .ite (settlePayment_atomic _ _ _) ?_
    refine .after (.lift _) fun _ => .after (.lift _) fun _ => ?_
    exact .ite (refundFiat_atomic _ _ _ _) (refundBtc_atomic _ _ _)
  · exact .ite (.ret _) (sendBankState_idle.bind fun _ => sendApi_idle _)

/-! ## Deposits and the dealer's transfers -/

/-- A deposit in bitcoin is one transaction. -/
theorem depositBtc_atomic (m : Deposit) (i : Invoice) : AllOrNothing (depositBtc cfg env m i) := by
  refine .after (getOrOpenAccount_idle _ _ _) fun inbound => ?_
  refine .after (getDefaultAccount_idle _ _ _) fun liability => ?_
  refine makeTx_then (fun liability inbound txid => .of_calm ?_) fun _ _ _ => .ret _
  refine (insertIntoLedger_smooth _ _).bind fun _ => (putAccount_smooth _ _).bind fun _ => ?_
  refine (updateAccount_smooth _ _).bind fun _ => (updateAccount_smooth _ _).bind fun _ => ?_
  refine (makeSummaryTx_idle _).calm.bind fun summary => ?_
  split
  next =>
    refine (updateInvoice_idle _).calm.bind fun _ => (notifyPaid_idle _ _).calm.bind fun _ => ?_
    exact (publishIfZapNote_idle _ _ _ _ _).calm
  next => exact .ret _

/-- One the dealer has priced: both transactions, or none. -/
theorem fiatDepositResponse_atomic (m : FiatDepositResponse) :
    AllOrNothing (fiatDepositResponse env m) := by
  refine .ite (.ret _) (.ite (.ret _) (.after (findInvoice_idle _ _) fun found => ?_))
  split
  next =>
    split
    next =>
      refine .after (getOrOpenAccount_idle _ _ _) fun inbound => ?_
      refine .after (getDefaultAccount_idle _ _ _) fun dealerFiat => ?_
      refine .after (getDefaultAccount_idle _ _ _) fun dealerBtc => ?_
      refine .after (getDefaultAccount_idle _ _ _) fun liabilities => ?_
      refine .after (.lift _) fun _ => .after (.lift _) fun fiatValue => ?_
      refine makeTx_then (fun liabilities dealerBtc outboundTxid => ?_) fun _ _ _ => .ret _
      refine makeTx_then (fun dealerFiat inbound inboundTxid => .of_calm ?_) fun _ _ _ => .ret _
      refine (insertIntoLedger_smooth _ _).bind fun _ => (putAccount_smooth _ _).bind fun _ => ?_
      refine (putAccount_smooth _ _).bind fun _ => (putAccount_smooth _ _).bind fun _ => ?_
      refine (updateAccount_smooth _ _).bind fun _ => (updateAccount_smooth _ _).bind fun _ => ?_
      refine (updateAccount_smooth _ _).bind fun _ => (updateAccount_smooth _ _).bind fun _ => ?_
      refine sendBankState_idle.calm.bind fun _ =>
        (makeSummaryTx_idle _).calm.bind fun summary => ?_
      split
      next => exact (updateInvoice_idle _).calm.bind fun _ => (notifyPaid_idle _ _).calm
      next => exact .ret _
    next => exact .ret _
  next => exact .ret _

/-- An invoice of the dealer is one transaction. -/
theorem processDealerInvoice_atomic (msg : PayInvoice) (isExternal : Bool) :
    AllOrNothing (processDealerInvoice cfg env msg isExternal) := by
  unfold processDealerInvoice
  split
  next =>
    split
    next =>
      refine .after (.lift _) fun result => ?_
      split
      next =>
        refine .after (getDefaultAccount_idle _ _ _) fun inbound => ?_
        refine .after (getDefaultAccount_idle _ _ _) fun outbound => ?_
        refine makeTx_then (fun outbound inbound txid => .of_calm ?_) fun _ _ _ => .ret _
        refine (updateAccount_smooth _ _).bind fun _ => (updateAccount_smooth _ _).bind fun _ => ?_
        exact (putAccount_smooth _ _).bind fun _ => putAccount_smooth _ _
      next => exact .ret _
    next => exact .panic _
  next => exact .ret _

/-- The transfer of a deposit on an invoice of the dealer goes through. -/
def DealerDepositBooks (env : Env) (s : State) : Message → Prop
  | .deposit m => ∀ i, s.db.invoiceByPaymentRequest m.paymentRequest = some i →
      asU64 i.uid = DEALER_UID →
      i.reference = some "KolliderSettlement" ∨ i.reference = some "ExternalDeposit" →
      0 < i.value ∧ TxStored env s 0 0
  | _ => True

/-- A deposit of the dealer, where its transfer goes through. -/
theorem handleDealerDeposit_calm (m : Deposit) (h : DealerDepositBooks env s (.deposit m))
    (hdealer : ∀ i, s.db.invoiceByPaymentRequest m.paymentRequest = some i →
      asU64 i.uid = DEALER_UID) :
    Ensures (handleDealerDeposit env m) s fun _ s' => s'.failedTxs = s.failedTxs := by
  refine Ensures.ite (fun _ => rfl) fun _ => ?_
  refine (findInvoice_spec .dealerInvoiceGet m.paymentRequest).bind ?_
  intro found s₁ hfound
  obtain ⟨rfl, hfound, -⟩ := hfound
  split
  next invoice =>
    split
    next reference href =>
      refine Ensures.ite (fun _ => rfl) fun hkind => ?_
      have hinvoice := hfound invoice rfl
      have hkind : reference = "KolliderSettlement" ∨ reference = "ExternalDeposit" := by
        by_contra hno
        rw [not_or] at hno
        exact hkind hno
      have hreference : invoice.reference = some "KolliderSettlement" ∨
          invoice.reference = some "ExternalDeposit" := by
        rw [href]
        rcases hkind with hk | hk
        · exact .inl (by rw [hk])
        · exact .inr (by rw [hk])
      obtain ⟨hpos, hstored⟩ := h invoice hinvoice (hdealer invoice hinvoice) hreference
      dsimp only
      generalize
        (if reference = "KolliderSettlement" then Owner.dealer else Owner.bank) = counterparty
      refine ((getDealerAccount_spec .BTC .internal).and
        (getDefaultAccount_idle .dealer .BTC (some .internal) _)).bind ?_
      intro inbound s₂ h₂
      obtain ⟨⟨-, -, hcin, -, hsame₂⟩, -, hf₂⟩ := h₂
      refine ((getDefaultAccount_spec counterparty .BTC (some .external)).and
        (getDefaultAccount_idle counterparty .BTC (some .external) _)).bind ?_
      intro outbound s₃ h₃
      obtain ⟨⟨-, -, hcout, -, hsame₃⟩, -, hf₃⟩ := h₃
      refine ((makeTx_spec _ _ _ _ _ _).and (makeTx_tries _ _ _ _ _ _ _)).bind ?_
      intro tx s₄ h₄
      obtain ⟨hspec, -, hf₄⟩ := h₄
      -- opening accounts has taken no room, so the transfer is stored
      have hok : ∃ txid, tx.result = .ok txid :=
        hspec.succeeds (Money.fromSats_pos hpos) (hcout.trans hcin.symm)
          ((hsame₃ 0 0).mpr ((hsame₂ 0 0).mpr hstored))
      -- what follows makes no transaction
      have hrest : Smooth (do
          putAccount .dealer tx.inbound
          updateAccount env tx.inbound DEALER_UID
          putAccount counterparty tx.outbound
          updateAccount env tx.outbound (counterpartyUid counterparty)) :=
        (putAccount_smooth _ _).bind fun _ => (updateAccount_smooth _ _).bind fun _ =>
          (putAccount_smooth _ _).bind fun _ => updateAccount_smooth _ _
      refine (hrest s₄).mono fun _ s' h' => ?_
      have hcount : s'.failedTxs = s₄.failedTxs := h'
      rw [hcount, hf₄.mp hok, hf₃, hf₂]
    next => exact rfl
  next => exact rfl

/-- A deposit, where none of the dealer fails. -/
theorem deposit_atomic (m : Deposit) (h : DealerDepositBooks env s (.deposit m)) :
    Ensures (deposit cfg env m) s fun _ s' => s'.failedTxs ≠ s.failedTxs → SameBalances s s' := by
  refine Ensures.ite (fun _ hne => absurd rfl hne) fun _ => ?_
  refine (findInvoice_spec .invoiceGet m.paymentRequest).bind ?_
  intro found s₁ hfound
  obtain ⟨rfl, hfound, -⟩ := hfound
  split
  next invoice =>
    refine Ensures.ite (fun hdealer => ?_) fun _ => ?_
    · refine (handleDealerDeposit_calm m h fun i hi => ?_).bind fun _ s' hs hne => absurd hs hne
      rw [Option.some.inj (hi.symm.trans (hfound invoice rfl))]
      exact hdealer
    · have hrest : AllOrNothing (depositBtc cfg env m invoice) := depositBtc_atomic m invoice
      refine Ensures.lift_bind fun currency _ => Ensures.lift_bind fun target _ => ?_
      refine Ensures.ite (fun _ => ?_) fun _ => hrest s₁
      exact (Prog.Atomic.after (sendDealer_idle _) fun _ => .ret _ : AllOrNothing _) s₁
  next => exact fun hne => absurd rfl hne

/-! ## The other handlers that book -/

/-- A swap: both transactions, or none. -/
theorem swapResponse_atomic (msg : SwapResponse) :
    AllOrNothing (BankEngine.swapResponse env msg) := by
  have hanswer (m : SwapResponse) : Idles (do sendApi (.swapResponse m); return) :=
    (sendApi_idle _).bind fun _ => .ret _
  have hrefuse (m : SwapResponse) : AllOrNothing (do sendApi (.swapResponse m); return) :=
    .of_calm (hanswer m).calm
  refine .ite (hrefuse _) (.after .read fun s => .ite (hrefuse _) ?_)
  split
  next rate _ =>
    refine .ite (hrefuse _) (.after (getDefaultAccount_idle _ _ _) fun outbound => ?_)
    refine .after (getDefaultAccount_idle _ _ _) fun inbound => .ite (hrefuse _) ?_
    refine .after (getDefaultAccount_idle _ _ _) fun outboundDealer => ?_
    refine .after (getDefaultAccount_idle _ _ _) fun inboundDealer => .ite (hrefuse _) ?_
    refine makeTx_then (fun outbound inboundDealer outboundTxid => ?_)
      fun _ _ _ => (hanswer _).unchanged
    refine .after (.lift _) fun _ => .after (.lift _) fun inboundAmount => ?_
    -- the user has not been debited yet, so nothing has to be undone here
    refine makeTx_then (fun outboundDealer inbound inboundTxid => .of_calm ?_)
      fun _ _ _ => (hanswer _).unchanged
    refine (insertIntoLedger_smooth _ _).bind fun _ =>
      (insertIntoLedger_smooth _ _).bind fun _ => ?_
    refine (putAccount_smooth _ _).bind fun _ => (putAccount_smooth _ _).bind fun _ => ?_
    refine (updateAccount_smooth _ _).bind fun _ => (updateAccount_smooth _ _).bind fun _ => ?_
    refine (updateAccount_smooth _ _).bind fun _ => (updateAccount_smooth _ _).bind fun _ => ?_
    refine (sendApi_idle _).calm.bind fun _ => sendBankState_idle.calm.bind fun _ => ?_
    exact (makeSummaryTx_idle _).calm.bind fun _ => .ret _
  next => exact hrefuse _

/-- Which side an account is on is read. -/
theorem isExternalAccount_idle (uid : UserId) (id : AccountId) :
    Idles (isExternalAccount env uid id) :=
  .ite ((getDefaultAccount_idle _ _ _).bind fun _ => .ret _) (.ret _)

/-- The account of a slot is read, or opened empty. -/
theorem readSlot_idle (slot : Slot) : Idles (readSlot env slot) := by
  cases slot with
  | external => exact (getDefaultAccount_idle _ _ _).bind fun _ => .ret _
  | insurance => exact Keeps.read.bind fun _ => .ret _
  | user uid id =>
    refine Keeps.read.bind fun s => .ite (.ret _) ?_
    split
    next => exact .ret _
    next => exact .ret _

/-- It is written back, and no transaction fails here. -/
theorem writeSlot_smooth (a : Account) (slot : Slot) : Smooth (writeSlot a slot) := by
  cases slot with
  | external => exact putAccount_smooth _ _
  | insurance => exact fun _ => rfl
  | user uid id => exact insertIntoLedger_smooth _ _

/-- What the operator asks for is one transaction. -/
theorem processMakeTx_atomic (tx : MakeTx) : AllOrNothing (processMakeTx env tx) := by
  refine .ite (.ret _) (.ite (.ret _) (.after .read fun s => ?_))
  refine .after (isExternalAccount_idle _ _) fun _ =>
    .after (isExternalAccount_idle _ _) fun _ => ?_
  refine .ite (.ret _) (.after (readSlot_idle _) fun outbound => ?_)
  split
  next => exact .ret _
  next =>
    refine .after (readSlot_idle _) fun inbound => ?_
    split
    next => exact .ret _
    next =>
      refine .ite (.ret _) (makeTx_then (fun outbound inbound txid => .of_calm ?_)
        fun _ _ _ => .ret _)
      refine (updateAccount_smooth _ _).bind fun _ => (updateAccount_smooth _ _).bind fun _ => ?_
      exact (writeSlot_smooth _ _).bind fun _ => (writeSlot_smooth _ _).bind fun _ => .ret _

/-! ## The handlers without a transfer -/

/-- The account a deposit goes to is looked up. -/
theorem targetAccount_idle (uid : UserId) (id : Option Uuid) (currency : Currency) :
    Idles (targetAccount env uid id currency) := by
  refine Keeps.read.bind fun s => ?_
  split
  next =>
    split
    next => exact .ret _
    next => exact .ret _
  next => exact (getDefaultAccount_idle _ _ _).bind fun _ => .ret _

/-- An invoice that is asked for books nothing. -/
theorem invoiceRequest_idle (msg : InvoiceRequest) :
    Idles (BankEngine.invoiceRequest cfg env msg) := by
  have hanswer (m : InvoiceResponse) : Idles (do sendApi (.invoiceResponse m); return) :=
    (sendApi_idle _).bind fun _ => .ret _
  have hlimit : Idles (checkDepositRequestRateLimit cfg env msg.uid) :=
    fun _ => idle_of_eq rfl rfl rfl
  refine hlimit.bind fun admitted => .ite (hanswer _) ?_
  refine (openUser_idle _).bind fun _ => .ite (hanswer _) (.ite (hanswer _) ?_)
  refine (targetAccount_idle _ _ _).bind fun target => ?_
  split
  next => exact sendApi_idle _
  next =>
    refine .ite ((send_idle _ _).bind fun _ => .ret _) ((Keeps.lift _).bind fun _ => ?_)
    dsimp only
    split
    next => exact (insertInvoice_idle _).bind fun _ => .ite (hanswer _) (sendApi_idle _)
    next => exact .ret _

/-- Nor does its price. -/
theorem invoiceResponse_idle (msg : InvoiceResponse) :
    Idles (BankEngine.invoiceResponse cfg env msg) := by
  have hanswer (m : InvoiceResponse) : Idles (do sendApi (.invoiceResponse m); return) :=
    (sendApi_idle _).bind fun _ => .ret _
  unfold BankEngine.invoiceResponse
  split
  next =>
    refine (Keeps.lift _).bind fun _ => .ite (hanswer _) ((openUser_idle _).bind fun _ => ?_)
    refine (targetAccount_idle _ _ _).bind fun target => ?_
    split
    next => exact sendApi_idle _
    next =>
      split
      next => exact (insertInvoice_idle _).bind fun _ => .ite (hanswer _) (sendApi_idle _)
      next => exact .ret _
  next => exact hanswer _

/-- Nor does one for the dealer. -/
theorem processCreateInvoiceRequest_idle (req : CreateInvoiceRequest) (owner : UserId) :
    Idles (processCreateInvoiceRequest cfg env req owner) := by
  refine .ite (.ret _) (Keeps.bind ?_ fun account => ?_)
  · exact .ite (getDefaultAccount_idle _ _ _) (.ite (getDefaultAccount_idle _ _ _) (.panic _))
  · split
    next => exact (insertInvoice_idle _).bind fun _ => .ite (.ret _) (sendDealer_idle _)
    next => exact .ret _

/-- Balances are read. -/
theorem getBalances_idle (msg : GetBalances) : Idles (getBalances env msg) := by
  have hround (c : Currency) : Idles (do
      let _ ← getDefaultAccount env (.user msg.uid) c (some .internal)
      return) := (getDefaultAccount_idle _ _ _).bind fun _ => .ret _
  refine (openUser_idle _).bind fun _ => Keeps.read.bind fun s => ?_
  refine (Keeps.forM hround s.availableCurrencies).bind fun _ => Keeps.read.bind fun _ => ?_
  exact .ite (send_idle _ _) (send_idle _ _)

/-- A withdrawal is stored, and nothing is booked until it is paid. -/
theorem createLnurlWithdrawal_idle (msg : CreateLnurlWithdrawalRequest) :
    Idles (createLnurlWithdrawal cfg env msg) := by
  have hanswer (m : CreateLnurlWithdrawalResponse) :
      Idles (do sendApi (.createLnurlWithdrawalResponse m); return) :=
    (sendApi_idle _).bind fun _ => .ret _
  refine .ite (hanswer _) (Keeps.read.bind fun s => .ite (hanswer _) ?_)
  refine (getDefaultAccount_idle _ _ _).bind fun outbound => ?_
  refine .ite ((send_idle _ _).bind fun _ => .ret _) (.ite (hanswer _) ?_)
  dsimp only
  split
  next =>
    refine Keeps.bind (.write fun s => ?_) fun _ => sendApi_idle _
    exact idle_of_eq rfl rfl rfl
  next => exact hanswer _

/-- It is told to the API. -/
theorem getLnurlWithdrawal_idle (msg : GetLnurlWithdrawalRequest) :
    Idles (getLnurlWithdrawal cfg msg) := by
  refine Keeps.read.bind fun s => ?_
  split
  next => exact sendApi_idle _
  next =>
    refine (Keeps.lift _).bind fun found => ?_
    split
    next => exact sendApi_idle _
    next => exact sendApi_idle _

/-- To present an invoice for it only queues the payment. -/
theorem payLnurlWithdrawal_idle (msg : PayLnurlWithdrawalRequest) :
    Idles (payLnurlWithdrawal msg) := by
  intro s
  refine Ensures.get_bind ?_
  split
  next => exact idle_of_eq rfl rfl rfl
  next => exact sendApi_idle _ s

/-- A route is asked of the node. -/
theorem queryRoute_idle (msg : QueryRouteRequest) : Idles (queryRoute cfg env msg) := by
  refine (Keeps.lift _).bind fun _ => ?_
  split
  next =>
    split
    next =>
      refine (Keeps.lift _).bind fun _ => (Keeps.lift _).bind fun routes => ?_
      split
      next => exact sendApi_idle _
      next => exact sendApi_idle _
      next => exact (Keeps.lift _).bind fun _ => (Keeps.lift _).bind fun _ => sendApi_idle _
    next => exact sendApi_idle _
  next => exact sendApi_idle _

/-- A purchase is asked for here and made by the swap. -/
theorem dcaRebalance_idle (msg : DcaRebalance) : Idles (dcaRebalance env msg) := by
  have hround (e : DcaSetting × Nat) : Idles (dcaSwap env e.2 e.1) :=
    (Keeps.lift _).bind fun _ => (Keeps.lift _).bind fun _ => (Keeps.lift _).bind fun _ =>
      send_idle _ _
  exact .ite (.ret _) (.ite (.ret _) (.forM hround _))

/-- Karma is credited without a `make_tx`. -/
theorem distributeKarma_smooth (karma : Money) (totals : UserTotals) :
    Smooth (distributeKarma env karma totals) := by
  have hround (total : Decimal) (change : Money) (e : UserId × Decimal) :
      Smooth (distributeKarmaTo env karma total change e) := by
    have hleft (received : Money) : Smooth (do
        let left ← (Decimal.sub change.value received.value : Checked Decimal)
        return change.set left) := (Keeps.lift _).bind fun _ => .ret _
    refine (Keeps.lift _).bind fun _ => (Keeps.lift _).bind fun _ => .ite ?_ (hleft _)
    refine (getOrOpenAccount_idle _ _ _).calm.bind fun account => (Keeps.lift _).bind fun _ => ?_
    refine (insertIntoLedger_smooth _ _).bind fun _ => (updateAccount_smooth _ _).bind fun _ => ?_
    exact hleft _
  refine (Keeps.lift _).bind fun total => Keeps.bind (fun s => ?_) fun change => ?_
  · exact Ensures.foldlM (I := Calm State.failedTxs s) (fun change e _ s' hs =>
      (hround total change e s').mono fun _ s'' hs' => Eq.trans hs' hs) karma rfl
  · refine (getDefaultAccount_idle _ _ _).calm.bind fun account => ?_
    exact (putAccount_smooth _ _).bind fun _ => updateAccount_smooth _ _

/-- Karma is shared out without `make_tx`. -/
theorem karmaBalance_smooth (msg : KarmaBalance) : Smooth (karmaBalance env msg) := by
  have hstate : Smooth getBankState :=
    Keeps.read.bind fun _ => (Keeps.lift _).bind fun _ => .ret _
  have htotals : Smooth (getUserTotals env) :=
    .ite (.ret _) (.ite (.ret _) (Keeps.read.bind fun _ => .lift _))
  refine hstate.bind fun _ => htotals.bind fun totals => ?_
  split
  next =>
    refine (getDefaultAccount_idle _ _ _).calm.bind fun account => ?_
    refine (putAccount_smooth _ _).bind fun _ => (updateAccount_smooth _ _).bind fun _ => ?_
    exact (Keeps.lift _).bind fun _ => .ite (distributeKarma_smooth _ _) (.ret _)
  next => exact .ret _

/-! ## Every message -/

/-- Every message of the dealer. -/
theorem processDealer_atomic (m : Dealer) : AllOrNothing (processDealer cfg env m) := by
  cases m with
  | health h => exact .of_calm (.write fun _ => rfl)
  | bankStateRequest m => exact .of_calm sendBankState_idle.calm
  | payInvoice m => exact processDealerInvoice_atomic _ _
  | payInsuranceInvoice m => exact processDealerInvoice_atomic _ _
  | createInvoiceRequest m => exact .of_calm (processCreateInvoiceRequest_idle _ _).calm
  | createInsuranceInvoiceRequest m => exact .of_calm (processCreateInvoiceRequest_idle _ _).calm
  | fiatDepositResponse m => exact fiatDepositResponse_atomic m
  | karmaBalance m => exact .of_calm (karmaBalance_smooth m)
  | bankState m => exact .ret _
  | createInvoiceResponse m => exact .ret _
  | fiatDepositRequest m => exact .ret _

/-- Every message of the API. -/
theorem processApi_atomic (m : Api) : AllOrNothing (processApi cfg env m) := by
  cases m with
  | invoiceRequest m => exact .of_calm (invoiceRequest_idle m).calm
  | invoiceResponse m => exact .of_calm (invoiceResponse_idle m).calm
  | paymentRequest m => exact paymentRequest_atomic m
  | swapRequest m => exact .of_calm (send_idle _ _).calm
  | swapResponse m => exact swapResponse_atomic m
  | getBalances m => exact .of_calm (getBalances_idle m).calm
  | quoteRequest m => exact .of_calm (send_idle _ _).calm
  | quoteResponse m => exact .of_calm (sendApi_idle _).calm
  | availableCurrenciesRequest m => exact .of_calm (send_idle _ _).calm
  | availableCurrenciesResponse m => exact .of_calm (sendApi_idle _).calm
  | getNodeInfoRequest m => exact .of_calm (sendApi_idle _).calm
  | createLnurlWithdrawalRequest m => exact .of_calm (createLnurlWithdrawal_idle m).calm
  | getLnurlWithdrawalRequest m => exact .of_calm (getLnurlWithdrawal_idle m).calm
  | payLnurlWithdrawalRequest m => exact .of_calm (payLnurlWithdrawal_idle m).calm
  | queryRouteRequest m => exact .of_calm (queryRoute_idle m).calm
  | nostrProfileRequest m => exact .of_calm (send_idle _ _).calm
  | nostrProfileSearchRequest m => exact .of_calm (send_idle _ _).calm
  | nostrProfileSearchResponse m => exact .of_calm (sendApi_idle _).calm
  | _ => exact .ret _

/-- Every message, where no deposit of the dealer fails. -/
theorem processMsg_atomic (msg : Message) (h : DealerDepositBooks env s msg) :
    Ensures (BankEngine.processMsg cfg env msg) s fun _ s' =>
      s'.failedTxs ≠ s.failedTxs → SameBalances s s' := by
  have hret : AllOrNothing (pure () : Handler Unit) := .ret _
  cases msg with
  | dealer m => exact processDealer_atomic m s
  | deposit m => exact deposit_atomic m h
  | api m => exact processApi_atomic m s
  | bank m =>
    cases m with
    | paymentResult res => exact paymentResult_atomic res s
    | dcaRebalance m =>
      have hcalm : AllOrNothing (dcaRebalance env m) := .of_calm (dcaRebalance_idle m).calm
      exact hcalm s
  | cli m =>
    cases m with
    | makeTx tx =>
      have hbefore : AllOrNothing (do
          let result ← processMakeTx env tx
          send (.cli (.makeTxResult { tx, result })) .api) :=
        .before (processMakeTx_atomic tx) fun _ => send_idle _ _
      exact hbefore s
    | makeTxResult m => exact hret s
  | nostr m =>
    cases m with
    | nostrProfilesRefetchRequest req =>
      have hcalm : AllOrNothing (send (.nostr (.nostrProfilesRefetchRequest req)) .nostr) :=
        .of_calm (send_idle _ _).calm
      exact hcalm s
    | nostrPrivateMessage m => exact hret s
    | nostrZapNote m => exact hret s
  | journal m => exact hret s

/-- **All or nothing.** In a run in which the transfer of every deposit of the dealer
goes through, a message with a failed `make_tx` changes no balance. -/
theorem all_or_nothing {ds : List Delivery}
    (h : Trace (fun s d s' => DealerDepositBooks d.env s d.msg ∧ Delivers cfg s d s') s ds s') :
    Trace (fun s d s' => (s'.failedTxs ≠ s.failedTxs → SameBalances s s') ∧ Delivers cfg s d s')
      s ds s' := by
  refine h.mono fun s d s' hstep => ⟨fun hne => ?_, hstep.2⟩
  obtain ⟨hledger, hinsurance, haccounts⟩ :=
    hstep.2.ensures (processMsg_atomic d.msg hstep.1) hne
  exact ⟨hledger, hinsurance, haccounts⟩

namespace Sample

/-- A second's trouble with the transactions table. -/
def insertFails : Env := { Sample.env 1 with db := fun call => call ≠ .txInsert 0 }

/-- The dealer's invoice for a settlement of the exchange. -/
def settlementInvoice : Invoice :=
  { aliceInvoice with
    paymentHash := "settlement"
    paymentRequest := "lnbc-settlement"
    uid := DEALER_UID
    owner := some DEALER_UID
    reference := some "KolliderSettlement" }

/-- A bank with an invoice of the dealer. -/
def settlementState : State :=
  State.new { Db.empty with
    invoices := ⟨[aliceInvoice, settlementInvoice], by simp [settlementInvoice, aliceInvoice]⟩ } 0

/-- It is settled. -/
def settlement : Message :=
  .deposit ⟨"lnbc-settlement", "settlement", "", "", 1000, 1000000, true, 0, 0⟩

end Sample

/-- A user's deposit whose row cannot be inserted leaves every balance alone. -/
theorem all_or_nothing_sample : ∃ s',
    Delivers Sample.config Sample.state ⟨Sample.insertFails, Sample.deposit⟩ s' ∧
      s'.failedTxs = 1 ∧ SameBalances Sample.state s' := by
  obtain ⟨s', hrun, hfailed⟩ := exists_delivers Sample.config ⟨Sample.insertFails, Sample.deposit⟩
    Sample.state (fun s' => s'.failedTxs = 1) (by decide +kernel)
  have hbooks : DealerDepositBooks Sample.insertFails Sample.state Sample.deposit := by
    intro i hi hdealer
    have halice : Sample.state.db.invoiceByPaymentRequest "lnbc-alice" =
        some Sample.aliceInvoice := by
      rfl
    rw [← Option.some.inj (halice.symm.trans hi)] at hdealer
    exact absurd hdealer (by decide)
  obtain ⟨m, hnil, hstep⟩ :=
    (all_or_nothing ((Trace.nil _).snoc (l := []) ⟨hbooks, hrun⟩)).last (l := [])
  rw [hnil.eq_of_nil] at hstep
  refine ⟨s', hrun, hfailed, hstep.1 ?_⟩
  rw [hfailed]
  decide

/-- A deposit of the dealer is credited all the same. -/
theorem dealer_deposit_without_transaction : ∃ s',
    Delivers Sample.config Sample.settlementState ⟨Sample.insertFails, Sample.settlement⟩ s' ∧
      s'.failedTxs ≠ Sample.settlementState.failedTxs ∧
      ¬SameBalances Sample.settlementState s' := by
  obtain ⟨s', hrun, hfailed, hbalance⟩ := exists_delivers Sample.config
    ⟨Sample.insertFails, Sample.settlement⟩ Sample.settlementState
    (fun s' => s'.failedTxs ≠ Sample.settlementState.failedTxs ∧
      s'.ledger.balanceAt (.dealer, 1) = 1000 / 100000000) (by decide +kernel)
  refine ⟨s', hrun, hfailed, fun hsame => ?_⟩
  have hzero : Sample.settlementState.ledger.balanceAt (.dealer, 1) = 0 := by decide +kernel
  rw [hsame.ledger, hzero] at hbalance
  exact absurd hbalance (by norm_num)

end Lndhubx
