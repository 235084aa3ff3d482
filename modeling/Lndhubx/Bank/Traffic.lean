import Lndhubx.Bank.ProcessMsg
import Lndhubx.Lib.Meter

/-!
# What a handler hands on

Three things are counted over the messages a handler gives to its listener and
the tasks it spawns (`meter`): what goes to the loopback queue, what goes to the
journal, and what keeps a payment request alive — its response, the request on
its way to the dealer or back to the bank, or a task that pays it (`tokenOf`).

Every handler raises this meter by at most what `load` says for its message: one
journal entry where a summary is written, one loopback message for an LNURL
withdrawal, one for each setting of a rebalance, and one token of the request
itself for a payment request or the result of a payment.
-/

namespace Lndhubx

open Prog BankEngine

variable {cfg : Config} {env : Env} {r : RequestId}

/-- One, if the id is the one that is watched. -/
def tokenFor (r id : RequestId) : Nat := if id = r then 1 else 0

/-- Does a message keep the payment request `r` alive? -/
def tokenOf (r : RequestId) : Message → Nat
  | .api (.paymentResponse m) => tokenFor r m.reqId
  | .api (.paymentRequest m) => tokenFor r m.reqId
  | _ => 0

/-- One message: loopback, journal and tokens. -/
def sentMeter (r : RequestId) (e : Message × ServiceIdentity) : ℕ × ℕ × ℕ :=
  (if e.2 = .loopback then 1 else 0, if e.2 = .journal then 1 else 0, tokenOf r e.1)

/-- What a handler has handed on so far. -/
def meter (r : RequestId) (s : State) : ℕ × ℕ × ℕ :=
  (s.sent.map (sentMeter r)).sum + (0, 0, s.paymentThreads.countP (·.reqId = r))

/-- Where nothing is sent and no task started, nothing is counted. -/
theorem meter_congr {s s' : State} (hsent : s'.sent = s.sent)
    (hthreads : s'.paymentThreads = s.paymentThreads) : meter r s' ≤ meter r s + 0 := by
  unfold meter
  rw [hsent, hthreads, add_zero]

/-! ## The operations -/

/-- A message counts for itself. -/
theorem send_raises (msg : Message) (destination : ServiceIdentity) :
    Raises (meter r) (sentMeter r (msg, destination)) (send msg destination) := by
  refine .write fun s => ?_
  unfold meter
  rw [List.map_append, List.sum_append, List.map_singleton, List.sum_singleton]
  exact le_of_eq (add_right_comm _ _ _)

/-- Most messages count for nothing. -/
theorem send_silent (msg : Message) (destination : ServiceIdentity)
    (h : sentMeter r (msg, destination) = 0) :
    Raises (meter r) 0 (send msg destination) := by
  rw [← h]
  exact send_raises msg destination

/-- An answer that is not one to a payment counts for nothing. -/
theorem sendApi_silent (msg : Api) (h : sentMeter r (.api msg, .api) = 0) :
    Raises (meter r) 0 (sendApi msg) := send_silent _ _ h

/-- Nor does what the dealer is told of the bank. -/
theorem sendDealer_silent (msg : Dealer) : Raises (meter r) 0 (sendDealer msg) :=
  send_silent _ _ rfl

/-- The answer to a payment request. -/
theorem sendResponse_raises (m : PaymentResponse) :
    Raises (meter r) (0, 0, tokenFor r m.reqId) (sendApi (.paymentResponse m)) := send_raises _ _

/-- The ledger is not counted. -/
theorem modifyLedger_silent (f : Ledger → Ledger) : Raises (meter r) 0 (modifyLedger f) :=
  .write fun _ => meter_congr rfl rfl

/-- The limit of the deposit requests counts elsewhere. -/
theorem checkDepositRequestRateLimit_silent (uid : UserId) :
    Raises (meter r) 0 (checkDepositRequestRateLimit cfg env uid) :=
  fun _ => meter_congr rfl rfl

/-- So does that of the withdrawal requests. -/
theorem checkWithdrawalRequestRateLimit_silent (uid : UserId) :
    Raises (meter r) 0 (checkWithdrawalRequestRateLimit cfg env uid) :=
  fun _ => meter_congr rfl rfl

/-- The ids that were handed out are not counted. -/
theorem handOut_silent (a : Account) : Raises (meter r) 0 (handOut a) :=
  fun _ => meter_congr rfl rfl

/-- An account is looked up or opened without a message. -/
theorem getDefaultAccount_silent (o : Owner) (currency : Currency) (t : Option AccountType) :
    Raises (meter r) 0 (getDefaultAccount env o currency t) := by
  refine .after .read fun s => ?_
  split
  next => exact handOut_silent _
  next => exact .after (modifyLedger_silent _) fun _ => handOut_silent _

/-- So is the entry it is opened in. -/
theorem getOrOpenAccount_silent (uid : UserId) (currency : Currency) (t : Option AccountType) :
    Raises (meter r) 0 (getOrOpenAccount env uid currency t) :=
  .after (modifyLedger_silent _) fun _ => getDefaultAccount_silent _ _ _

/-- A copy is written back without a message. -/
theorem insertIntoLedger_silent (uid : UserId) (a : Account) :
    Raises (meter r) 0 (insertIntoLedger uid a) :=
  .after .read fun _ => .ite (modifyLedger_silent _) (.panic _ _)

/-- So is one of the bank or of the dealer. -/
theorem putAccount_silent (o : Owner) (a : Account) : Raises (meter r) 0 (putAccount o a) :=
  modifyLedger_silent _

/-- And the row it is stored in. -/
theorem updateAccount_silent (a : Account) (uid : UserId) :
    Raises (meter r) 0 (updateAccount env a uid) :=
  .ite (.ret _) (.ite (.ret _) (.write fun _ => meter_congr rfl rfl))

/-- The state of the bank goes to the dealer. -/
theorem sendBankState_silent : Raises (meter r) 0 sendBankState :=
  .after (.after .read fun _ => .after (.lift _) fun _ => .ret _) fun _ => sendDealer_silent _

/-- A transaction that fails is reported to its caller only. -/
theorem failTx_silent (outbound inbound : Account) : Raises (meter r) 0 (failTx outbound inbound) :=
  .after (.write fun _ => meter_congr rfl rfl) fun _ => .ret _

/-- A transaction goes to the database alone. -/
theorem makeTx_silent (leg : Nat) (outbound : Account) (outboundUid : UserId) (inbound : Account)
    (inboundUid : UserId) (amount : Money) :
    Raises (meter r) 0 (makeTx env leg outbound outboundUid inbound inboundUid amount) := by
  have hfail : Raises (meter r) 0 (failTx outbound inbound) := failTx_silent _ _
  refine .ite hfail (.ite hfail (.ite hfail (.after (.lift _) fun _ => ?_)))
  refine .after (.lift _) fun _ s => Ensures.get_bind ?_
  dsimp only
  split
  next => exact Ensures.set_bind (meter_congr rfl rfl)
  next => exact Ensures.set_bind (meter_congr rfl rfl)

/-- An invoice is read. -/
theorem findInvoice_silent (call : DbCall) (pr : String) :
    Raises (meter r) 0 (findInvoice env call pr) := .after .read fun _ => .ret _

/-- An invoice is stored. -/
theorem insertInvoice_silent (i : Invoice) : Raises (meter r) 0 (insertInvoice env i) := by
  intro s
  refine Ensures.get_bind ?_
  split
  next => exact Ensures.set_bind (meter_congr rfl rfl)
  next => exact meter_congr rfl rfl

/-- An invoice is updated. -/
theorem updateInvoice_silent (i : Invoice) : Raises (meter r) 0 (updateInvoice env i) := by
  refine .write fun s => ?_
  split
  next => exact meter_congr rfl rfl
  next => exact meter_congr rfl rfl

/-- Who is paid is told over nostr, not over the loopback queue. -/
theorem notifyPaid_silent (uid : Int) (text : Checked PaidText) :
    Raises (meter r) 0 (notifyPaid env uid text) := by
  unfold notifyPaid
  split
  next =>
    refine .after (.lift _) fun _ => .ite ?_ (.ret _)
    split
    next => exact .after (.lift _) fun _ => send_silent _ _ rfl
    next => exact .ret _
  next => exact .ret _

/-- So is a zap. -/
theorem publishIfZapNote_silent (i : Invoice) (hash preimage : Option String) (t : Nat)
    (internal : Bool) : Raises (meter r) 0 (publishIfZapNote cfg i hash preimage t internal) := by
  refine .ite ?_ (.ret _)
  split
  next => exact .after (.lift _) fun _ => send_silent _ _ rfl
  next => exact .ret _

/-- A summary is journaled once. -/
theorem makeSummaryTx_raises (x : SummaryTx) :
    Raises (meter r) (0, 1, 0) (makeSummaryTx env x) := by
  have hle : (0 : ℕ × ℕ × ℕ) ≤ (0, 1, 0) := by decide
  refine .ite ((Raises.ret _).mono hle) (.ite (.panic _ _) (.ite ((Raises.ret _).mono hle) ?_))
  refine .after (.lift _) fun _ => .after (.lift _) fun inbound s => Ensures.get_bind ?_
  dsimp only
  split
  next table _ =>
    refine Ensures.set_bind ?_
    refine ((send_raises (r := r) _ _).before (fun _ => .ret _) _).mono fun _ s' h => ?_
    exact h.trans (le_of_eq rfl)
  next => exact (meter_congr (r := r) rfl rfl).trans (add_le_add_right hle _)

/-! ## Payments -/

/-- What a payment may hand on: a summary's journal entry, and one token. -/
abbrev onePayment (r id : RequestId) : ℕ × ℕ × ℕ := (0, 1, tokenFor r id)

/-- Nothing is within any bound. -/
theorem Raises.any {α : Type} {p : Handler α} (h : Raises (meter r) 0 p) (n : ℕ × ℕ × ℕ) :
    Raises (meter r) n p :=
  h.mono ⟨Nat.zero_le _, Nat.zero_le _, Nat.zero_le _⟩

/-- A response is the one token of its request. -/
theorem respond_raises {id : RequestId} {α : Type} (m : PaymentResponse) (a : α)
    (h : m.reqId = id) :
    Raises (meter r) (0, 0, tokenFor r id) (do sendApi (.paymentResponse m); return a) := by
  rw [← h]
  exact (sendResponse_raises m).before fun _ => .ret a

/-- A response fits in what a payment may cost. -/
theorem respond_onePayment {id : RequestId} {α : Type} (m : PaymentResponse) (a : α)
    (h : m.reqId = id) :
    Raises (meter r) (onePayment r id) (do sendApi (.paymentResponse m); return a) :=
  (respond_raises m a h).mono ⟨le_refl _, Nat.zero_le _, le_refl _⟩

/-- A summary, and what comes after it. -/
theorem summary_then {α : Type} {f : Except BankError Txid → Handler α} {n : Nat} (x : SummaryTx)
    (hf : ∀ result, Raises (meter r) (0, 0, n) (f result)) :
    Raises (meter r) (0, 1, n) (makeSummaryTx env x >>= f) :=
  ((makeSummaryTx_raises x).bind hf).mono (le_of_eq (by simp))

/-- A payment between users: a journal entry and a response. -/
theorem makeInternalTx_raises (req : PaymentRequest) :
    Raises (meter r) (onePayment r req.reqId) (makeInternalTx cfg env req) := by
  have hret (x : Except PaymentResponseError Unit) :
      Raises (meter r) (onePayment r req.reqId) (pure x : Handler _) := Raises.any (.ret x) _
  refine .ite (hret _) ?_
  split
  next username =>
    refine .after (.lift _) fun amount => ?_
    split
    next inboundUser _ =>
      split
      next outboundUser _ =>
        refine .ite (hret _) (.after .read fun s => .ite (hret _) ?_)
        refine .after (getDefaultAccount_silent _ _ _) fun outbound => ?_
        refine .after (getOrOpenAccount_silent _ _ _) fun inbound => ?_
        refine .ite (respond_onePayment _ _ rfl) (.after (makeTx_silent _ _ _ _ _ _) fun tx => ?_)
        split
        next outbound inbound txid =>
          refine summary_then _ fun result => ?_
          split
          next =>
            refine .after (insertIntoLedger_silent _ _) fun _ => ?_
            refine .after (insertIntoLedger_silent _ _) fun _ => ?_
            refine .after (updateAccount_silent _ _) fun _ => ?_
            exact .after (updateAccount_silent _ _) fun _ => respond_raises _ _ rfl
          next => exact Raises.any (.ret _) _
        next => exact hret _
      next => exact respond_onePayment _ _ rfl
    next => exact respond_onePayment _ _ rfl
  next => exact .panic _ _

/-- A debit makes one journal entry. -/
theorem debitFiat_raises (p : Outgoing) (outbound liability : Account) :
    Raises (meter r) (0, 1, 0) (debitFiat env p outbound liability) := by
  have hret (b : Bool) : Raises (meter r) (0, 1, 0) (pure b : Handler Bool) := Raises.any (.ret b) _
  refine .after (getDefaultAccount_silent _ _ _) fun _ =>
    .after (makeTx_silent _ _ _ _ _ _) fun tx => ?_
  split
  next outbound dealerFiat outboundTxid =>
    refine .after (getDefaultAccount_silent _ _ _) fun _ =>
      .after (makeTx_silent _ _ _ _ _ _) fun tx => ?_
    split
    next dealerBtc liability inboundTxid =>
      refine .after (insertIntoLedger_silent _ _) fun _ => ?_
      refine .after (putAccount_silent _ _) fun _ => .after (putAccount_silent _ _) fun _ => ?_
      refine .after (putAccount_silent _ _) fun _ => .after (updateAccount_silent _ _) fun _ => ?_
      refine .after (updateAccount_silent _ _) fun _ =>
        .after (updateAccount_silent _ _) fun _ => ?_
      refine .after (updateAccount_silent _ _) fun _ => summary_then _ fun result => ?_
      split
      next => exact Raises.any (.ret _) _
      next => exact Raises.any (.ret _) _
    next => exact hret _
  next => exact hret _

/-- A debit in bitcoin is answered where it fails. -/
theorem debitBtc_raises (p : Outgoing) (hid : p.response.reqId = p.msg.reqId)
    (outbound liability : Account) (s : State) :
    Ensures (debitBtc env p outbound liability) s fun debited s' => meter r s' ≤ meter r s +
      if debited then (0, 1, 0) else onePayment r p.msg.reqId := by
  refine (makeTx_silent (r := r) _ _ _ _ _ _ s).bind fun tx s₁ h₁ => ?_
  rw [add_zero] at h₁
  split
  next outbound liability txid =>
    -- the accounts are written back in silence, the summary is one journal entry
    refine ((?_ : Raises (meter r) (0, 1, 0) _) s₁).mono fun debited s' h => ?_
    · refine .after (putAccount_silent _ _) fun _ =>
        .after (insertIntoLedger_silent _ _) fun _ => ?_
      refine .after (updateAccount_silent _ _) fun _ =>
        .after (updateAccount_silent _ _) fun _ => ?_
      refine summary_then _ fun result => ?_
      split
      next => exact Raises.any (.ret _) _
      next => exact Raises.any (.ret _) _
    refine (h.trans (add_le_add_left h₁ _)).trans (add_le_add_right ?_ _)
    cases debited with
    | true => exact le_refl _
    | false => exact ⟨le_refl _, le_refl _, Nat.zero_le _⟩
  next =>
    refine (sendResponse_raises (r := r) _ s₁).bind fun _ s' h => ?_
    rw [show ({ p.response with error := some .transactionFailed } : PaymentResponse).reqId =
      p.msg.reqId from hid] at h
    refine (h.trans (add_le_add_left h₁ _)).trans (add_le_add_right ?_ _)
    exact ⟨le_refl _, Nat.zero_le _, le_refl _⟩

/-- A task is the one token of its payment. -/
theorem spawnPayment_raises (p : Outgoing) :
    Raises (meter r) (0, 0, tokenFor r p.msg.reqId) (spawnPayment p) := by
  refine .after (.lift _) fun _ => .after (.lift _) fun fee => .write fun s => ?_
  have htask : (p.task fee).reqId = p.msg.reqId := rfl
  simp [meter, List.countP_append, tokenFor, htask, add_assoc]

/-- A refusal, or a journal entry and a task. -/
theorem payExternally_raises (p : Outgoing) (hid : p.response.reqId = p.msg.reqId)
    (outbound : Account) :
    Raises (meter r) (onePayment r p.msg.reqId) (payExternally env p outbound) := by
  refine .after (getDefaultAccount_silent _ _ _) fun liability => ?_
  have hdebit : ∀ s, Ensures (if p.msg.currency ≠ .BTC then debitFiat env p outbound liability
      else debitBtc env p outbound liability) s fun debited s' => meter r s' ≤ meter r s +
        if debited then (0, 1, 0) else onePayment r p.msg.reqId := by
    intro s
    refine Ensures.ite (fun _ => ?_) fun _ => debitBtc_raises p hid outbound liability s
    refine (debitFiat_raises (r := r) p outbound liability s).mono fun debited s' h => ?_
    refine h.trans (add_le_add_right ?_ _)
    cases debited with
    | true => exact le_refl _
    | false => exact ⟨le_refl _, le_refl _, Nat.zero_le _⟩
  refine Raises.bind_value hdebit fun debited => ?_
  cases debited with
  | true => exact ⟨_, spawnPayment_raises p, le_of_eq (by simp)⟩
  | false => exact ⟨0, .ret _, le_of_eq (add_zero _)⟩

/-- The owner of an invoice is paid as a user is. -/
theorem payOwner_raises (msg : PaymentRequest) (invoice : Invoice) (owner : Int) :
    Raises (meter r) (onePayment r msg.reqId) (payOwner cfg env msg invoice owner) := by
  unfold payOwner
  split
  next user _ =>
    refine (makeInternalTx_raises _).before fun result => ?_
    split
    next => exact .after (updateInvoice_silent _) fun _ => publishIfZapNote_silent _ _ _ _ _
    next => exact .ret _
  next => exact respond_onePayment _ _ rfl

/-- The invoice to be paid is looked up or stored. -/
theorem findOrInsertInvoice_silent (msg : PaymentRequest) (pr : String) (decoded : Bolt11)
    (millisats : Nat) :
    Raises (meter r) 0 (findOrInsertInvoice env msg pr decoded millisats) := by
  refine .after (findInvoice_silent _ _) fun found => ?_
  split
  next => exact .ret _
  next => exact .after (insertInvoice_silent _) fun _ => .ret _

/-- A payment with a price costs one payment at most. -/
theorem payPriced_raises (msg : PaymentRequest) (pr : String) (decoded : Bolt11)
    (millisats : UInt64) (outbound : Account) (outboundUsername inboundUsername : String) :
    Raises (meter r) (onePayment r msg.reqId) (payPriced cfg env msg pr decoded millisats outbound
      outboundUsername inboundUsername) := by
  refine .after (.lift _) fun rate => .after (.lift _) fun _ => .after (.lift _) fun amount => ?_
  refine .after (findOrInsertInvoice_silent _ _ _ _) fun found => ?_
  split
  next invoice =>
    refine .ite (respond_onePayment _ _ rfl) (.ite (respond_onePayment _ _ rfl) ?_)
    refine .after (.lift _) fun priced => ?_
    obtain ⟨fee, total, debit⟩ := priced
    refine .ite (respond_onePayment _ _ rfl) ?_
    split
    next => exact payExternally_raises _ rfl _
    next => exact payOwner_raises _ _ _
  next => exact Raises.any (.ret _) _

/-- A payment of an invoice is refused, passed on to the dealer, or made. -/
theorem payLightning_raises (msg : PaymentRequest) (outbound : Account)
    (outboundUsername inboundUsername : String) :
    Raises (meter r) (onePayment r msg.reqId)
      (payLightning cfg env msg outbound outboundUsername inboundUsername) := by
  unfold payLightning
  split
  next =>
    split
    next =>
      split
      next =>
        refine .ite ?_ ?_
        · exact ((send_raises _ _).before fun _ => .ret _).mono
            ⟨le_refl _, Nat.zero_le _, le_refl _⟩
        · dsimp only
          split
          next => exact payPriced_raises _ _ _ _ _ _ _
          next => exact payPriced_raises _ _ _ _ _ _ _
      next => exact respond_onePayment _ _ rfl
    next => exact respond_onePayment _ _ rfl
  next => exact Raises.any (.ret _) _

/-- Whatever becomes of a payment request, it costs one payment at most. -/
theorem paymentRequest_raises (msg : PaymentRequest) :
    Raises (meter r) (onePayment r msg.reqId) (BankEngine.paymentRequest cfg env msg) := by
  refine .after (checkWithdrawalRequestRateLimit_silent _) fun admitted => ?_
  refine .ite (respond_onePayment _ _ rfl)
    (.after .read fun s => .ite (respond_onePayment _ _ rfl) ?_)
  refine .after (getDefaultAccount_silent _ _ _) fun outbound => ?_
  refine .ite (respond_onePayment _ _ rfl) (.ite (respond_onePayment _ _ rfl) ?_)
  split
  next payer _ =>
    split
    next => exact (makeInternalTx_raises _).before fun _ => .ret _
    next => exact payLightning_raises _ _ _ _
  next => exact Raises.any (.ret _) _

/-! ## Results of payments -/

/-- What the node did not charge is booked without a journal entry. -/
theorem moveExcessFees_silent (excess : Decimal) (liabilities dealerBtc : Account) :
    Raises (meter r) 0 (moveExcessFees env excess liabilities dealerBtc) := by
  refine .ite (.ret _) (.after (makeTx_silent _ _ _ _ _ _) fun tx => ?_)
  split
  next =>
    refine .after (putAccount_silent _ _) fun _ => .after (putAccount_silent _ _) fun _ => ?_
    exact .after (updateAccount_silent _ _) fun _ => .after (updateAccount_silent _ _) fun _ =>
      .ret _
  next => exact .ret _

/-- So is a payment that went through. -/
theorem settlePayment_silent (res : PaymentResult) (liabilities dealerBtc : Account) :
    Raises (meter r) 0 (settlePayment env res liabilities dealerBtc) := by
  refine .after (.lift _) fun _ => .after (.lift _) fun _ => .after (.lift _) fun _ => ?_
  refine .after (.lift _) fun _ => .ite (.panic _ _)
    (.after (moveExcessFees_silent _ _ _) fun _ => ?_)
  refine .ite (.ret _) ?_
  split
  next =>
    refine .after (findInvoice_silent _ _) fun found => ?_
    split
    next =>
      refine .after (.lift _) fun _ => .after (.lift _) fun _ => .after (.lift _) fun _ => ?_
      exact .after (updateInvoice_silent _) fun _ => .ret _
    next => exact .ret _
  next => exact .panic _ _

/-- A refund makes one journal entry. -/
theorem refundFiat_raises (res : PaymentResult) (amount : Money) (liabilities inbound : Account) :
    Raises (meter r) (0, 1, 0) (refundFiat env res amount liabilities inbound) := by
  refine .after (getDefaultAccount_silent _ _ _) fun _ =>
    .after (getDefaultAccount_silent _ _ _) fun _ => .after (makeTx_silent _ _ _ _ _ _) fun tx => ?_
  split
  next liabilities dealerBtc outboundTxid =>
    refine .after (makeTx_silent _ _ _ _ _ _) fun tx => ?_
    split
    next dealerFiat inbound inboundTxid =>
      refine .after (putAccount_silent _ _) fun _ => .after (putAccount_silent _ _) fun _ => ?_
      refine .after (putAccount_silent _ _) fun _ =>
        .after (insertIntoLedger_silent _ _) fun _ => ?_
      refine .after (updateAccount_silent _ _) fun _ =>
        .after (updateAccount_silent _ _) fun _ => ?_
      refine .after (updateAccount_silent _ _) fun _ =>
        .after (updateAccount_silent _ _) fun _ => ?_
      refine summary_then _ fun result => ?_
      split
      next => exact Raises.any (.ret _) _
      next => exact Raises.any (.ret _) _
    next => exact Raises.any (.ret _) _
  next => exact Raises.any (.ret _) _

/-- So does one in bitcoin. -/
theorem refundBtc_raises (res : PaymentResult) (liabilities inbound : Account) :
    Raises (meter r) (0, 1, 0) (refundBtc env res liabilities inbound) := by
  refine .after (makeTx_silent _ _ _ _ _ _) fun tx => ?_
  split
  next =>
    refine .after (putAccount_silent _ _) fun _ => .after (insertIntoLedger_silent _ _) fun _ => ?_
    refine .after (updateAccount_silent _ _) fun _ => .after (updateAccount_silent _ _) fun _ => ?_
    refine summary_then _ fun result => ?_
    split
    next => exact Raises.any (.ret _) _
    next => exact Raises.any (.ret _) _
  next => exact Raises.any (.ret _) _

/-- A result: a journal entry for the refund, and the response. -/
theorem paymentResult_raises (res : PaymentResult) :
    Raises (meter r) (onePayment r res.paymentResponse.reqId) (paymentResult env res) := by
  have hret : Raises (meter r) (onePayment r res.paymentResponse.reqId) (pure () : Handler Unit) :=
    Raises.any (.ret _) _
  refine .ite (.panic _ _) (.ite hret
    (.after (getDefaultAccount_silent _ _ _) fun liabilities => ?_))
  refine .after .read fun s => .ite hret (.after (getDefaultAccount_silent _ _ _) fun inbound => ?_)
  refine .after (getDefaultAccount_silent _ _ _) fun dealerBtc => ?_
  have hmoved : Raises (meter r) (0, 1, 0) (if res.isSuccess then
      settlePayment env res liabilities dealerBtc
      else refundPayment env res liabilities inbound) := by
    refine .ite (Raises.any (settlePayment_silent _ _ _) _) ?_
    refine .after (.lift _) fun _ => .after (.lift _) fun _ => ?_
    exact .ite (refundFiat_raises _ _ _ _) (refundBtc_raises _ _ _)
  have hrest (answered : Bool) : Raises (meter r) (0, 0, tokenFor r res.paymentResponse.reqId) (do
      if !answered then return
      sendBankState
      sendApi (.paymentResponse
        { res.paymentResponse with success := res.isSuccess || res.paymentResponse.success })) :=
    .ite (Raises.any (.ret _) _) (.after sendBankState_silent fun _ => sendResponse_raises _)
  exact (hmoved.bind hrest).mono (le_of_eq (by simp))

/-! ## Deposits and invoices -/

/-- The account a deposit goes to is looked up. -/
theorem targetAccount_silent (uid : UserId) (id : Option Uuid) (currency : Currency) :
    Raises (meter r) 0 (targetAccount env uid id currency) := by
  refine .after .read fun s => ?_
  split
  next =>
    split
    next => exact .ret _
    next => exact .ret _
  next => exact .after (getDefaultAccount_silent _ _ _) fun _ => .ret _

/-- Invoices are no payments. -/
theorem invoiceRequest_silent (msg : InvoiceRequest) :
    Raises (meter r) 0 (BankEngine.invoiceRequest cfg env msg) := by
  have hanswer (m : InvoiceResponse) :
      Raises (meter r) 0 (do sendApi (.invoiceResponse m); return) :=
    .after (sendApi_silent _ rfl) fun _ => .ret _
  refine .after (checkDepositRequestRateLimit_silent _) fun admitted => .ite (hanswer _) ?_
  refine .after (modifyLedger_silent _) fun _ => .ite (hanswer _) (.ite (hanswer _) ?_)
  refine .after (targetAccount_silent _ _ _) fun target => ?_
  split
  next => exact sendApi_silent _ rfl
  next =>
    refine .ite (.after (send_silent _ _ rfl) fun _ => .ret _) (.after (.lift _) fun _ => ?_)
    dsimp only
    split
    next => exact .after (insertInvoice_silent _) fun _ => .ite (hanswer _) (sendApi_silent _ rfl)
    next => exact .ret _

/-- Nor is the price of one. -/
theorem invoiceResponse_silent (msg : InvoiceResponse) :
    Raises (meter r) 0 (BankEngine.invoiceResponse cfg env msg) := by
  have hanswer (m : InvoiceResponse) :
      Raises (meter r) 0 (do sendApi (.invoiceResponse m); return) :=
    .after (sendApi_silent _ rfl) fun _ => .ret _
  unfold BankEngine.invoiceResponse
  split
  next =>
    refine .after (.lift _) fun _ => .ite (hanswer _) (.after (modifyLedger_silent _) fun _ => ?_)
    refine .after (targetAccount_silent _ _ _) fun target => ?_
    split
    next => exact sendApi_silent _ rfl
    next =>
      split
      next => exact .after (insertInvoice_silent _) fun _ => .ite (hanswer _) (sendApi_silent _ rfl)
      next => exact .ret _
  next => exact hanswer _

/-- A deposit of the dealer has no journal entry. -/
theorem handleDealerDeposit_silent (m : Deposit) :
    Raises (meter r) 0 (handleDealerDeposit env m) := by
  refine .ite (.ret _) (.after (findInvoice_silent _ _) fun found => ?_)
  split
  next =>
    split
    next =>
      refine .ite (.ret _) (.after (getDefaultAccount_silent _ _ _) fun _ => ?_)
      refine .after (getDefaultAccount_silent _ _ _) fun _ =>
        .after (makeTx_silent _ _ _ _ _ _) fun _ => ?_
      refine .after (putAccount_silent _ _) fun _ => .after (updateAccount_silent _ _) fun _ => ?_
      exact .after (putAccount_silent _ _) fun _ => updateAccount_silent _ _
    next => exact .ret _
  next => exact .ret _

/-- One of a user has one. -/
theorem depositBtc_raises (m : Deposit) (i : Invoice) :
    Raises (meter r) (0, 1, 0) (depositBtc cfg env m i) := by
  refine .after (getOrOpenAccount_silent _ _ _) fun _ =>
    .after (getDefaultAccount_silent _ _ _) fun _ => ?_
  refine .after (makeTx_silent _ _ _ _ _ _) fun tx => ?_
  split
  next =>
    refine .after (insertIntoLedger_silent _ _) fun _ => .after (putAccount_silent _ _) fun _ => ?_
    refine .after (updateAccount_silent _ _) fun _ => .after (updateAccount_silent _ _) fun _ => ?_
    refine summary_then _ fun result => ?_
    split
    next =>
      refine .after (updateInvoice_silent _) fun _ => .after (notifyPaid_silent _ _) fun _ => ?_
      exact publishIfZapNote_silent _ _ _ _ _
    next => exact .ret _
  next => exact Raises.any (.ret _) _

/-- One journal entry at most, whoever the deposit is for. -/
theorem deposit_raises (m : Deposit) : Raises (meter r) (0, 1, 0) (deposit cfg env m) := by
  refine .ite (Raises.any (.ret _) _) (.after (findInvoice_silent _ _) fun found => ?_)
  split
  next =>
    refine .ite (Raises.any (.after (handleDealerDeposit_silent _) fun _ => .ret _) _) ?_
    refine .after (.lift _) fun _ => .after (.lift _) fun _ => ?_
    refine .ite (Raises.any (.after (sendDealer_silent _) fun _ => .ret _) _) ?_
    exact depositBtc_raises _ _
  next => exact Raises.any (.ret _) _

/-- One journal entry, if the dealer had a price. -/
theorem fiatDepositResponse_raises (m : FiatDepositResponse) :
    Raises (meter r) (0, 1, 0) (fiatDepositResponse env m) := by
  have hret : Raises (meter r) (0, 1, 0) (pure () : Handler Unit) := Raises.any (.ret _) _
  refine .ite hret (.ite hret (.after (findInvoice_silent _ _) fun found => ?_))
  split
  next =>
    split
    next =>
      refine .after (getOrOpenAccount_silent _ _ _) fun _ => ?_
      refine .after (getDefaultAccount_silent _ _ _) fun _ => ?_
      refine .after (getDefaultAccount_silent _ _ _) fun _ => ?_
      refine .after (getDefaultAccount_silent _ _ _) fun _ => ?_
      refine .after (.lift _) fun _ => .after (.lift _) fun _ => ?_
      refine .after (makeTx_silent _ _ _ _ _ _) fun tx => ?_
      split
      next =>
        refine .after (makeTx_silent _ _ _ _ _ _) fun tx => ?_
        split
        next =>
          refine .after (insertIntoLedger_silent _ _) fun _ =>
            .after (putAccount_silent _ _) fun _ => ?_
          refine .after (putAccount_silent _ _) fun _ => .after (putAccount_silent _ _) fun _ => ?_
          refine .after (updateAccount_silent _ _) fun _ =>
            .after (updateAccount_silent _ _) fun _ => ?_
          refine .after (updateAccount_silent _ _) fun _ =>
            .after (updateAccount_silent _ _) fun _ => ?_
          refine .after sendBankState_silent fun _ => summary_then _ fun result => ?_
          split
          next => exact .after (updateInvoice_silent _) fun _ => notifyPaid_silent _ _
          next => exact .ret _
        next => exact hret
      next => exact hret
    next => exact hret
  next => exact hret

/-- An invoice of the dealer is paid without a journal entry. -/
theorem processDealerInvoice_silent (msg : PayInvoice) (isExternal : Bool) :
    Raises (meter r) 0 (processDealerInvoice cfg env msg isExternal) := by
  unfold processDealerInvoice
  split
  next =>
    split
    next =>
      refine .after (.lift _) fun result => ?_
      split
      next =>
        refine .after (getDefaultAccount_silent _ _ _) fun _ => ?_
        refine .after (getDefaultAccount_silent _ _ _) fun _ => ?_
        refine .after (makeTx_silent _ _ _ _ _ _) fun tx => ?_
        split
        next =>
          refine .after (updateAccount_silent _ _) fun _ =>
            .after (updateAccount_silent _ _) fun _ => ?_
          exact .after (putAccount_silent _ _) fun _ => putAccount_silent _ _
        next => exact .ret _
      next => exact .ret _
    next => exact .panic _ _
  next => exact .ret _

/-- One for the dealer books nothing. -/
theorem processCreateInvoiceRequest_silent (req : CreateInvoiceRequest) (owner : UserId) :
    Raises (meter r) 0 (processCreateInvoiceRequest cfg env req owner) := by
  refine .ite (.ret _) (.after ?_ fun _ => ?_)
  · exact .ite (getDefaultAccount_silent _ _ _) (.ite (getDefaultAccount_silent _ _ _) (.panic _ _))
  · split
    next => exact .after (insertInvoice_silent _) fun _ => .ite (.ret _) (sendDealer_silent _)
    next => exact .ret _

/-! ## The other handlers -/

/-- A swap makes one journal entry. -/
theorem swapResponse_raises (msg : SwapResponse) :
    Raises (meter r) (0, 1, 0) (BankEngine.swapResponse env msg) := by
  have hanswer (m : SwapResponse) :
      Raises (meter r) (0, 1, 0) (do sendApi (.swapResponse m); return) :=
    Raises.any (.after (sendApi_silent _ rfl) fun _ => .ret _) _
  refine .ite (hanswer _) (.after .read fun s => .ite (hanswer _) ?_)
  split
  next =>
    refine .ite (hanswer _) (.after (getDefaultAccount_silent _ _ _) fun _ => ?_)
    refine .after (getDefaultAccount_silent _ _ _) fun _ => .ite (hanswer _) ?_
    refine .after (getDefaultAccount_silent _ _ _) fun _ =>
      .after (getDefaultAccount_silent _ _ _) fun _ => ?_
    refine .ite (hanswer _) (.after (makeTx_silent _ _ _ _ _ _) fun tx => ?_)
    split
    next =>
      refine .after (.lift _) fun _ => .after (.lift _) fun _ =>
        .after (makeTx_silent _ _ _ _ _ _) fun tx => ?_
      split
      next =>
        refine .after (insertIntoLedger_silent _ _) fun _ =>
          .after (insertIntoLedger_silent _ _) fun _ => ?_
        refine .after (putAccount_silent _ _) fun _ => .after (putAccount_silent _ _) fun _ => ?_
        refine .after (updateAccount_silent _ _) fun _ =>
          .after (updateAccount_silent _ _) fun _ => ?_
        refine .after (updateAccount_silent _ _) fun _ =>
          .after (updateAccount_silent _ _) fun _ => ?_
        refine .after (sendApi_silent _ rfl) fun _ => .after sendBankState_silent fun _ => ?_
        exact (makeSummaryTx_raises _).before fun _ => .ret _
      next => exact hanswer _
    next => exact hanswer _
  next => exact hanswer _

/-- Balances are no payments. -/
theorem getBalances_silent (msg : GetBalances) : Raises (meter r) 0 (getBalances env msg) := by
  refine .after (modifyLedger_silent _) fun _ => .after .read fun s => .after ?_ fun _ => ?_
  · have hround (c : Currency) : Raises (meter r) 0 (do
        let _ ← getDefaultAccount env (.user msg.uid) c (some .internal)
        return) := .after (getDefaultAccount_silent _ _ _) fun _ => .ret _
    have hall := Raises.forM hround s.availableCurrencies
    rwa [nsmul_zero] at hall
  · exact .after .read fun _ => .ite (send_silent _ _ rfl) (send_silent _ _ rfl)

/-- A withdrawal is stored, not sent. -/
theorem createLnurlWithdrawal_silent (msg : CreateLnurlWithdrawalRequest) :
    Raises (meter r) 0 (createLnurlWithdrawal cfg env msg) := by
  have hanswer (m : CreateLnurlWithdrawalResponse) :
      Raises (meter r) 0 (do sendApi (.createLnurlWithdrawalResponse m); return) :=
    .after (sendApi_silent _ rfl) fun _ => .ret _
  refine .ite (hanswer _) (.after .read fun s => .ite (hanswer _) ?_)
  refine .after (getDefaultAccount_silent _ _ _) fun _ => ?_
  refine .ite (.after (send_silent _ _ rfl) fun _ => .ret _) (.ite (hanswer _) ?_)
  dsimp only
  split
  next => exact .after (.write fun _ => meter_congr rfl rfl) fun _ => sendApi_silent _ rfl
  next => exact hanswer _

/-- It is told to the API. -/
theorem getLnurlWithdrawal_silent (msg : GetLnurlWithdrawalRequest) :
    Raises (meter r) 0 (getLnurlWithdrawal cfg msg) := by
  refine .after .read fun s => ?_
  split
  next => exact sendApi_silent _ rfl
  next =>
    refine .after (.lift _) fun found => ?_
    split
    next => exact sendApi_silent _ rfl
    next => exact sendApi_silent _ rfl

/-- The stored request goes to the loopback queue. -/
theorem payLnurlWithdrawal_raises (msg : PayLnurlWithdrawalRequest) :
    Raises (meter r) (1, 0, 1) (payLnurlWithdrawal msg) := by
  intro s
  refine Ensures.get_bind ?_
  split
  next t req _ =>
    have htoken : tokenFor r req.reqId ≤ 1 := by
      unfold tokenFor
      split
      next => exact le_refl _
      next => exact Nat.zero_le _
    have hone : ((1, 0, tokenFor r req.reqId) : ℕ × ℕ × ℕ) ≤ (1, 0, 1) :=
      ⟨le_refl _, le_refl _, htoken⟩
    refine Ensures.set_bind ((send_raises (r := r) _ _ _).mono fun _ s' h => h.trans ?_)
    exact add_le_add_right hone _
  next => exact Raises.any (sendApi_silent _ rfl) _ s

/-- A route is asked of the node. -/
theorem queryRoute_silent (msg : QueryRouteRequest) :
    Raises (meter r) 0 (queryRoute cfg env msg) := by
  refine .after (.lift _) fun _ => ?_
  split
  next =>
    split
    next =>
      refine .after (.lift _) fun _ => .after (.lift _) fun routes => ?_
      split
      next => exact sendApi_silent _ rfl
      next => exact sendApi_silent _ rfl
      next => exact .after (.lift _) fun _ => .after (.lift _) fun _ => sendApi_silent _ rfl
    next => exact sendApi_silent _ rfl
  next => exact sendApi_silent _ rfl

/-- Karma has no journal entry. -/
theorem distributeKarma_silent (karma : Money) (totals : UserTotals) :
    Raises (meter r) 0 (distributeKarma env karma totals) := by
  have hround (total : Decimal) (change : Money) (e : UserId × Decimal) :
      Raises (meter r) 0 (distributeKarmaTo env karma total change e) := by
    refine .after (.lift _) fun _ => .after (.lift _) fun _ => .ite ?_ ?_
    · refine .after (getOrOpenAccount_silent _ _ _) fun _ => .after (.lift _) fun _ => ?_
      refine .after (insertIntoLedger_silent _ _) fun _ =>
        .after (updateAccount_silent _ _) fun _ => ?_
      exact .after (.lift _) fun _ => .ret _
    · exact .after (.lift _) fun _ => .ret _
  refine .after (.lift _) fun total => .after (.foldlM (hround total) _ _) fun _ => ?_
  refine .after (getDefaultAccount_silent _ _ _) fun _ => ?_
  exact .after (putAccount_silent _ _) fun _ => updateAccount_silent _ _

/-- Nor has the report of it. -/
theorem karmaBalance_silent (msg : KarmaBalance) : Raises (meter r) 0 (karmaBalance env msg) := by
  have hstate : Raises (meter r) 0 getBankState :=
    .after .read fun _ => .after (.lift _) fun _ => .ret _
  have htotals : Raises (meter r) 0 (getUserTotals env) :=
    .ite (.ret _) (.ite (.ret _) (.after .read fun _ => .lift _))
  refine .after hstate fun _ => .after htotals fun totals => ?_
  split
  next =>
    refine .after (getDefaultAccount_silent _ _ _) fun _ =>
      .after (putAccount_silent _ _) fun _ => ?_
    refine .after (updateAccount_silent _ _) fun _ => .after (.lift _) fun _ => ?_
    exact .ite (distributeKarma_silent _ _) (.ret _)
  next => exact .ret _

/-- One loopback message for each setting of the interval. -/
theorem dcaRebalance_raises (msg : DcaRebalance) :
    Raises (meter r) ((env.directory.dcaByInterval msg.intervalName).length, 0, 0)
      (dcaRebalance env msg) := by
  refine .ite (Raises.any (.ret _) _) (.ite (Raises.any (.ret _) _) ?_)
  have hround (e : DcaSetting × Nat) : Raises (meter r) (1, 0, 0) (dcaSwap env e.2 e.1) :=
    .after (.lift _) fun _ => .after (.lift _) fun _ => .after (.lift _) fun _ => send_raises _ _
  refine (Raises.forM hround _).mono (le_of_eq ?_)
  rw [List.length_zipIdx]
  simp

/-- Which side an account is on is read. -/
theorem isExternalAccount_silent (uid : UserId) (id : AccountId) :
    Raises (meter r) 0 (isExternalAccount env uid id) :=
  .ite (.after (getDefaultAccount_silent _ _ _) fun _ => .ret _) (.ret _)

/-- The account of a slot is read, or opened. -/
theorem readSlot_silent (slot : Slot) : Raises (meter r) 0 (readSlot env slot) := by
  cases slot with
  | external => exact .after (getDefaultAccount_silent _ _ _) fun _ => .ret _
  | insurance => exact .after .read fun _ => .ret _
  | user uid id =>
    refine .after .read fun _ => .ite (.ret _) ?_
    split
    next => exact .ret _
    next => exact .ret _

/-- It is written back. -/
theorem writeSlot_silent (a : Account) (slot : Slot) : Raises (meter r) 0 (writeSlot a slot) := by
  cases slot with
  | external => exact putAccount_silent _ _
  | insurance => exact modifyLedger_silent fun L => { L with insuranceFundAccount := a }
  | user uid id => exact insertIntoLedger_silent _ _

/-- The operator is answered over a socket of her own. -/
theorem processMakeTx_silent (tx : MakeTx) : Raises (meter r) 0 (processMakeTx env tx) := by
  refine .ite (.ret _) (.ite (.ret _) (.after .read fun s => ?_))
  refine .after (isExternalAccount_silent _ _) fun _ =>
    .after (isExternalAccount_silent _ _) fun _ => ?_
  refine .ite (.ret _) (.after (readSlot_silent _) fun outbound => ?_)
  split
  next => exact .ret _
  next =>
    refine .after (readSlot_silent _) fun inbound => ?_
    split
    next => exact .ret _
    next =>
      refine .ite (.ret _) (.after (makeTx_silent _ _ _ _ _ _) fun tx => ?_)
      split
      next => exact .ret _
      next =>
        refine .after (updateAccount_silent _ _) fun _ =>
          .after (updateAccount_silent _ _) fun _ => ?_
        exact .after (writeSlot_silent _ _) fun _ => .after (writeSlot_silent _ _) fun _ => .ret _

/-! ## Every message -/

/-- What handling a message hands on at most: loopback messages, journal entries
and tokens of the request `r`. -/
def load (env : Env) (r : RequestId) : Message → ℕ × ℕ × ℕ
  | .deposit _ => (0, 1, 0)
  | .dealer (.fiatDepositResponse _) => (0, 1, 0)
  | .api (.swapResponse _) => (0, 1, 0)
  | .api (.paymentRequest m) => (0, 1, tokenFor r m.reqId)
  | .api (.payLnurlWithdrawalRequest _) => (1, 0, 1)
  | .bank (.paymentResult res) => (0, 1, tokenFor r res.paymentResponse.reqId)
  | .bank (.dcaRebalance m) => ((env.directory.dcaByInterval m.intervalName).length, 0, 0)
  | _ => 0

/-- A message is worth what it loads the queues with, whatever the handler does. -/
theorem processMsg_raises (msg : Message) :
    Raises (meter r) (load env r msg) (BankEngine.processMsg cfg env msg) := by
  cases msg with
  | dealer m =>
    cases m with
    | health h => exact .write fun _ => meter_congr rfl rfl
    | bankStateRequest m => exact sendBankState_silent
    | payInvoice m => exact processDealerInvoice_silent _ _
    | payInsuranceInvoice m => exact processDealerInvoice_silent _ _
    | createInvoiceRequest m => exact processCreateInvoiceRequest_silent _ _
    | createInsuranceInvoiceRequest m => exact processCreateInvoiceRequest_silent _ _
    | fiatDepositResponse m => exact fiatDepositResponse_raises m
    | karmaBalance m => exact karmaBalance_silent m
    | bankState m => exact .ret _
    | createInvoiceResponse m => exact .ret _
    | fiatDepositRequest m => exact .ret _
  | deposit m => exact deposit_raises m
  | api m =>
    cases m with
    | invoiceRequest m => exact invoiceRequest_silent m
    | invoiceResponse m => exact invoiceResponse_silent m
    | paymentRequest m => exact paymentRequest_raises m
    | swapRequest m => exact send_silent _ _ rfl
    | swapResponse m => exact swapResponse_raises m
    | getBalances m => exact getBalances_silent m
    | quoteRequest m => exact send_silent _ _ rfl
    | quoteResponse m => exact sendApi_silent _ rfl
    | availableCurrenciesRequest m => exact send_silent _ _ rfl
    | availableCurrenciesResponse m => exact sendApi_silent _ rfl
    | getNodeInfoRequest m => exact sendApi_silent _ rfl
    | createLnurlWithdrawalRequest m => exact createLnurlWithdrawal_silent m
    | getLnurlWithdrawalRequest m => exact getLnurlWithdrawal_silent m
    | payLnurlWithdrawalRequest m => exact payLnurlWithdrawal_raises m
    | queryRouteRequest m => exact queryRoute_silent m
    | nostrProfileRequest m => exact send_silent _ _ rfl
    | nostrProfileSearchRequest m => exact send_silent _ _ rfl
    | nostrProfileSearchResponse m => exact sendApi_silent _ rfl
    | _ => exact .ret _
  | bank m =>
    cases m with
    | paymentResult res => exact paymentResult_raises res
    | dcaRebalance m => exact dcaRebalance_raises m
  | cli m =>
    cases m with
    | makeTx tx => exact .after (processMakeTx_silent tx) fun _ => send_silent _ _ rfl
    | makeTxResult m => exact .ret _
  | nostr m =>
    cases m with
    | nostrProfilesRefetchRequest req => exact send_silent _ _ rfl
    | nostrPrivateMessage m => exact .ret _
    | nostrZapNote m => exact .ret _
  | journal m => exact .ret _

end Lndhubx
