import Lndhubx.Bank.Start
import Lndhubx.Lib.Meter
import Lndhubx.Subjects

/-!
# What the bank is told about a subject, and what it tells

What the bank has in hand of a subject is in the messages it sent, in the tasks it
spawned and in the withdrawals it stored until someone pays them (`inHand`). Handling
a message raises it by no more than the message tells (`processMsg_inHand`): a request
is passed on or answered, once at most, and under its own id and user. The bank asks
for itself only when it rebalances (`drawn`), one swap for each setting of a user.
-/

namespace Lndhubx

open Prog BankEngine

variable {cfg : Config} {env : Env} {σ : Subject}

/-! ## The meter -/

/-- What the bank has sent. -/
def State.messages (s : State) : List Message := s.sent.map (·.1)

/-- What a task is about: the payment it makes. -/
def PaymentTask.subject (t : PaymentTask) : Subject := paymentSubject t.reqId t.uid

/-- A stored withdrawal is paid as a payment of its owner. -/
def State.stored (σ : Subject) (s : State) : Nat :=
  s.lnurlWithdrawalRequests.entries.countP fun e => paymentSubject e.2.2.reqId e.2.2.uid = σ

/-- How much the bank has in hand about a subject: sent, being paid, or stored. -/
def inHand (σ : Subject) (s : State) : Nat :=
  told σ s.messages + s.paymentThreads.countP (·.subject = σ) + s.stored σ

/-- What the bank asks for itself when it handles a message. -/
def drawn (env : Env) : Message → List Subject
  | .bank (.dcaRebalance m) => (env.directory.dcaByInterval m.intervalName).zipIdx.map fun e =>
      ⟨.swap, env.reqUuid e.2, some (asU64 e.1.uid)⟩
  | _ => []

/-- What touches none of the three raises nothing. -/
theorem inHand_congr {s s' : State} (hsent : s'.sent = s.sent)
    (hthreads : s'.paymentThreads = s.paymentThreads)
    (hlnurl : s'.lnurlWithdrawalRequests = s.lnurlWithdrawalRequests) :
    inHand σ s' ≤ inHand σ s + 0 := by
  unfold inHand State.messages State.stored
  rw [hsent, hthreads, hlnurl, Nat.add_zero]

/-- An entry that is erased was counted. -/
theorem countP_kerase {α : Type} {β : α → Type} [DecidableEq α] {a : α} {b : β a}
    (p : Sigma β → Bool) {l : List (Sigma β)} (h : l.dlookup a = some b) :
    l.countP p = (l.kerase a).countP p + if p ⟨a, b⟩ then 1 else 0 := by
  induction l with
  | nil => exact absurd h (by simp)
  | cons e l ih =>
    obtain ⟨a', b'⟩ := e
    by_cases ha : a = a'
    · subst ha
      rw [List.dlookup_cons_eq] at h
      rw [← Option.some.inj h, List.kerase_cons_eq (s := ⟨a, b'⟩) rfl, List.countP_cons]
    · rw [List.dlookup_cons_ne l ⟨a', b'⟩ ha] at h
      rw [List.kerase_cons_ne ha, List.countP_cons, List.countP_cons, ih h]
      omega

/-- An entry less counts for no more. -/
theorem countP_kerase_le {α : Type} {β : α → Type} [DecidableEq α] (a : α) (p : Sigma β → Bool)
    (l : List (Sigma β)) : (l.kerase a).countP p ≤ l.countP p :=
  (List.kerase_sublist a l).countP_le

/-! ## The operations -/

/-- A message counts for what it is about. -/
theorem send_inHand (msg : Message) (destination : ServiceIdentity) :
    Raises (inHand σ) (msg.about σ) (send msg destination) := by
  refine .write fun s => ?_
  unfold inHand State.messages State.stored
  rw [List.map_append, told_append, List.map_singleton, told_cons, told_nil]
  dsimp only
  omega

/-- Messages that are about nothing. -/
theorem send_mute {msg : Message} (destination : ServiceIdentity) (h : msg.subjects = []) :
    Raises (inHand σ) 0 (send msg destination) := by
  have hsend := send_inHand (σ := σ) msg destination
  unfold Message.about at hsend
  rwa [h] at hsend

/-- What the dealer is told of the bank is about no request. -/
theorem sendDealer_mute (msg : Dealer) : Raises (inHand σ) 0 (sendDealer msg) := send_mute _ rfl

/-- One answer, and the handler ends. -/
theorem answer_inHand {α : Type} (msg : Api) (a : α) :
    Raises (inHand σ) ((Message.api msg).about σ) (do sendApi msg; return a) :=
  (send_inHand _ _).before fun _ => .ret a

/-- Nothing is within any bound. -/
theorem Raises.upTo {α : Type} {p : Handler α} (h : Raises (inHand σ) 0 p) (n : Nat) :
    Raises (inHand σ) n p := h.mono (Nat.zero_le n)

/-- The ledger is about no request. -/
theorem modifyLedger_mute (f : Ledger → Ledger) : Raises (inHand σ) 0 (modifyLedger f) :=
  .write fun _ => inHand_congr rfl rfl rfl

/-- Nor is an account in it. -/
theorem putAccount_mute (o : Owner) (a : Account) : Raises (inHand σ) 0 (putAccount o a) :=
  modifyLedger_mute _

/-- An account that is opened is handed out, and no one is told. -/
theorem getDefaultAccount_mute (o : Owner) (currency : Currency) (t : Option AccountType) :
    Raises (inHand σ) 0 (getDefaultAccount env o currency t) := by
  have hhand (a : Account) : Raises (inHand σ) 0 (handOut a) := fun _ => inHand_congr rfl rfl rfl
  refine .after .read fun s => ?_
  split
  next => exact hhand _
  next => exact .after (modifyLedger_mute _) fun _ => hhand _

/-- The entry is made and the account opened without a message. -/
theorem getOrOpenAccount_mute (uid : UserId) (currency : Currency) (t : Option AccountType) :
    Raises (inHand σ) 0 (getOrOpenAccount env uid currency t) :=
  .after (modifyLedger_mute _) fun _ => getDefaultAccount_mute _ _ _

/-- A copy that is written back is about no request. -/
theorem insertIntoLedger_mute (uid : UserId) (a : Account) :
    Raises (inHand σ) 0 (insertIntoLedger uid a) :=
  .after .read fun _ => .ite (modifyLedger_mute _) (.panic _ _)

/-- Nor is the row it is stored in. -/
theorem updateAccount_mute (a : Account) (uid : UserId) :
    Raises (inHand σ) 0 (updateAccount env a uid) :=
  .ite (.ret _) (.ite (.ret _) (.write fun _ => inHand_congr rfl rfl rfl))

/-- The state of the bank is about no request. -/
theorem sendBankState_mute : Raises (inHand σ) 0 sendBankState :=
  .after (.after .read fun _ => .after (.lift _) fun _ => .ret _) fun _ => sendDealer_mute _

/-- A transaction goes to the database alone. -/
theorem makeTx_mute (leg : Nat) (outbound : Account) (outboundUid : UserId) (inbound : Account)
    (inboundUid : UserId) (amount : Money) :
    Raises (inHand σ) 0 (makeTx env leg outbound outboundUid inbound inboundUid amount) := by
  have hfail (o i : Account) : Raises (inHand σ) 0 (failTx o i) :=
    .after (.write fun _ => inHand_congr rfl rfl rfl) fun _ => .ret _
  refine .ite (hfail _ _) (.ite (hfail _ _) (.ite (hfail _ _) (.after (.lift _) fun _ => ?_)))
  refine .after (.lift _) fun _ s => Ensures.get_bind ?_
  dsimp only
  split
  next => exact Ensures.set_bind (inHand_congr rfl rfl rfl)
  next => exact Ensures.set_bind (inHand_congr rfl rfl rfl)

/-- A summary goes to the database and to the journal. -/
theorem makeSummaryTx_mute (x : SummaryTx) : Raises (inHand σ) 0 (makeSummaryTx env x) := by
  refine .ite (.ret _) (.ite (.panic _ _) (.ite (.ret _) (.after (.lift _) fun _ => ?_)))
  refine .after (.lift _) fun inbound s => Ensures.get_bind ?_
  dsimp only
  split
  next =>
    refine Ensures.set_bind ?_
    refine ((send_mute (σ := σ) _ rfl).before (fun _ => .ret _) _).mono fun _ s' h => ?_
    exact h.trans (le_of_eq rfl)
  next => exact inHand_congr rfl rfl rfl

/-- An invoice is read. -/
theorem findInvoice_mute (call : DbCall) (pr : String) :
    Raises (inHand σ) 0 (findInvoice env call pr) := .after .read fun _ => .ret _

/-- An invoice is stored. -/
theorem insertInvoice_mute (i : Invoice) : Raises (inHand σ) 0 (insertInvoice env i) := by
  intro s
  refine Ensures.get_bind ?_
  split
  next => exact Ensures.set_bind (inHand_congr rfl rfl rfl)
  next => exact inHand_congr rfl rfl rfl

/-- An invoice is updated. -/
theorem updateInvoice_mute (i : Invoice) : Raises (inHand σ) 0 (updateInvoice env i) := by
  refine .write fun s => ?_
  split
  next => exact inHand_congr rfl rfl rfl
  next => exact inHand_congr rfl rfl rfl

/-- Who is paid is told over nostr, which asks for nothing. -/
theorem notifyPaid_mute (uid : Int) (text : Checked PaidText) :
    Raises (inHand σ) 0 (notifyPaid env uid text) := by
  unfold notifyPaid
  split
  next =>
    refine .after (.lift _) fun _ => .ite ?_ (.ret _)
    split
    next => exact .after (.lift _) fun _ => send_mute _ rfl
    next => exact .ret _
  next => exact .ret _

/-- A zap is handed to nostr, which asks for nothing. -/
theorem publishIfZapNote_mute (i : Invoice) (hash preimage : Option String) (t : Nat)
    (internal : Bool) :
    Raises (inHand σ) 0 (publishIfZapNote cfg i hash preimage t internal) := by
  refine .ite ?_ (.ret _)
  split
  next => exact .after (.lift _) fun _ => send_mute _ rfl
  next => exact .ret _

/-! ## Payments -/

/-- Once about the payment of a user under an id. -/
abbrev oneOf (σ : Subject) (reqId : RequestId) (uid : UserId) : Nat :=
  [paymentSubject reqId uid].count σ

/-- A payment between users is answered once at most. -/
theorem makeInternalTx_inHand (req : PaymentRequest) :
    Raises (inHand σ) (oneOf σ req.reqId req.uid) (makeInternalTx cfg env req) := by
  have hret (x : Except PaymentResponseError Unit) :
      Raises (inHand σ) (oneOf σ req.reqId req.uid) (pure x : Handler _) := Raises.upTo (.ret x) _
  refine .ite (hret _) ?_
  split
  next username =>
    refine .after (.lift _) fun amount => ?_
    dsimp only
    split
    next inboundUser _ =>
      split
      next outboundUser _ =>
        refine .ite (hret _) (.after .read fun s => .ite (hret _) ?_)
        refine .after (getDefaultAccount_mute _ _ _) fun outbound => ?_
        refine .after (getOrOpenAccount_mute _ _ _) fun inbound => ?_
        refine .ite (answer_inHand _ _) (.after (makeTx_mute _ _ _ _ _ _) fun tx => ?_)
        split
        next outbound inbound txid =>
          refine .after (makeSummaryTx_mute _) fun result => ?_
          split
          next =>
            refine .after (insertIntoLedger_mute _ _) fun _ => ?_
            refine .after (insertIntoLedger_mute _ _) fun _ => ?_
            refine .after (updateAccount_mute _ _) fun _ => ?_
            exact .after (updateAccount_mute _ _) fun _ => answer_inHand _ _
          next => exact hret _
        next => exact hret _
      next => exact answer_inHand _ _
    next => exact answer_inHand _ _
  next => exact .panic _ _

/-- A debit is booked before anyone is told. -/
theorem debitFiat_mute (p : Outgoing) (outbound liability : Account) :
    Raises (inHand σ) 0 (debitFiat env p outbound liability) := by
  refine .after (getDefaultAccount_mute _ _ _) fun _ => ?_
  refine .after (makeTx_mute _ _ _ _ _ _) fun tx => ?_
  split
  next =>
    refine .after (getDefaultAccount_mute _ _ _) fun _ => ?_
    refine .after (makeTx_mute _ _ _ _ _ _) fun tx => ?_
    split
    next =>
      refine .after (insertIntoLedger_mute _ _) fun _ => .after (putAccount_mute _ _) fun _ => ?_
      refine .after (putAccount_mute _ _) fun _ => .after (putAccount_mute _ _) fun _ => ?_
      refine .after (updateAccount_mute _ _) fun _ => .after (updateAccount_mute _ _) fun _ => ?_
      refine .after (updateAccount_mute _ _) fun _ => .after (updateAccount_mute _ _) fun _ => ?_
      refine .after (makeSummaryTx_mute _) fun result => ?_
      split
      next => exact .ret _
      next => exact .ret _
    next => exact .ret _
  next => exact .ret _

/-- A debit in bitcoin that fails is answered, and then no task is spawned. -/
theorem debitBtc_inHand {p : Outgoing} (hid : p.response.reqId = p.msg.reqId)
    (huid : p.response.uid = p.msg.uid) (outbound liability : Account) (s : State) :
    Ensures (debitBtc env p outbound liability) s fun debited s' => inHand σ s' ≤ inHand σ s +
      if debited then 0 else oneOf σ p.msg.reqId p.msg.uid := by
  refine (makeTx_mute (σ := σ) _ _ _ _ _ _ s).bind fun tx s₁ h₁ => ?_
  split
  next outbound liability txid =>
    refine ((?_ : Raises (inHand σ) 0 _) s₁).mono fun debited s' h => by omega
    refine .after (putAccount_mute _ _) fun _ => .after (insertIntoLedger_mute _ _) fun _ => ?_
    refine .after (updateAccount_mute _ _) fun _ => .after (updateAccount_mute _ _) fun _ => ?_
    refine .after (makeSummaryTx_mute _) fun result => ?_
    split
    next => exact .ret _
    next => exact .ret _
  next =>
    refine (answer_inHand (σ := σ) (.paymentResponse { p.response with
      error := some .transactionFailed }) () s₁).bind fun _ s' h => ?_
    have habout : (Message.api (.paymentResponse { p.response with
        error := some .transactionFailed })).about σ = oneOf σ p.msg.reqId p.msg.uid := by
      rw [← hid, ← huid]
      rfl
    rw [habout] at h
    show inHand σ s' ≤ inHand σ s + oneOf σ p.msg.reqId p.msg.uid
    omega

/-- One task for one payment. -/
theorem spawnPayment_inHand (p : Outgoing) :
    Raises (inHand σ) (oneOf σ p.msg.reqId p.msg.uid) (spawnPayment p) := by
  refine .after (.lift _) fun _ => .after (.lift _) fun fee => .write fun s => ?_
  have htask : (p.task fee).subject = paymentSubject p.msg.reqId p.msg.uid := rfl
  unfold inHand State.messages State.stored oneOf
  rw [List.countP_append, List.countP_singleton, htask, List.count_singleton]
  dsimp only
  by_cases h : paymentSubject p.msg.reqId p.msg.uid = σ
  · simp [h]
    omega
  · simp [h]

/-- The payer is refused, or her payment goes on as a task. -/
theorem payExternally_inHand {p : Outgoing} (hid : p.response.reqId = p.msg.reqId)
    (huid : p.response.uid = p.msg.uid) (outbound : Account) :
    Raises (inHand σ) (oneOf σ p.msg.reqId p.msg.uid) (payExternally env p outbound) := by
  refine .after (getDefaultAccount_mute _ _ _) fun liability => ?_
  have hdebit : ∀ s, Ensures (if p.msg.currency ≠ .BTC then debitFiat env p outbound liability
      else debitBtc env p outbound liability) s fun debited s' => inHand σ s' ≤ inHand σ s +
        if debited then 0 else oneOf σ p.msg.reqId p.msg.uid := by
    intro s
    refine Ensures.ite (fun _ => ?_) fun _ => debitBtc_inHand hid huid outbound liability s
    exact (debitFiat_mute (σ := σ) p outbound liability s).mono fun debited s' h => by omega
  refine Raises.bind_value hdebit fun debited => ?_
  cases debited with
  | true => exact ⟨_, spawnPayment_inHand p, le_of_eq (Nat.zero_add _)⟩
  | false => exact ⟨0, .ret _, le_of_eq rfl⟩

/-- The owner of an invoice is paid as a user is. -/
theorem payOwner_inHand (msg : PaymentRequest) (invoice : Invoice) (owner : Int) :
    Raises (inHand σ) (oneOf σ msg.reqId msg.uid) (payOwner cfg env msg invoice owner) := by
  unfold payOwner
  split
  next user _ =>
    refine (makeInternalTx_inHand { msg with recipient := some user.username }).before
      fun result => ?_
    split
    next => exact .after (updateInvoice_mute _) fun _ => publishIfZapNote_mute _ _ _ _ _
    next => exact .ret _
  next => exact answer_inHand _ _

/-- The invoice to be paid is looked up or stored. -/
theorem findOrInsertInvoice_mute (msg : PaymentRequest) (pr : String) (decoded : Bolt11)
    (millisats : Nat) :
    Raises (inHand σ) 0 (findOrInsertInvoice env msg pr decoded millisats) := by
  refine .after (findInvoice_mute _ _) fun found => ?_
  split
  next => exact .ret _
  next => exact .after (insertInvoice_mute _) fun _ => .ret _

/-- A payment with a price is answered, or goes on as a task. -/
theorem payPriced_inHand (msg : PaymentRequest) (pr : String) (decoded : Bolt11)
    (millisats : UInt64) (outbound : Account) (outboundUsername inboundUsername : String) :
    Raises (inHand σ) (oneOf σ msg.reqId msg.uid) (payPriced cfg env msg pr decoded millisats
      outbound outboundUsername inboundUsername) := by
  refine .after (.lift _) fun rate => .after (.lift _) fun _ => .after (.lift _) fun amount => ?_
  refine .after (findOrInsertInvoice_mute _ _ _ _) fun found => ?_
  split
  next invoice =>
    refine .ite (answer_inHand _ _) (.ite (answer_inHand _ _) ?_)
    refine .after (.lift _) fun priced => ?_
    obtain ⟨fee, total, debit⟩ := priced
    refine .ite (answer_inHand _ _) ?_
    split
    next => exact payExternally_inHand rfl rfl _
    next => exact payOwner_inHand { msg with amount := some amount } _ _
  next => exact Raises.upTo (.ret _) _

/-- A payment of an invoice is answered, priced by the dealer, or goes on as a task. -/
theorem payLightning_inHand (msg : PaymentRequest) (outbound : Account)
    (outboundUsername inboundUsername : String) :
    Raises (inHand σ) (oneOf σ msg.reqId msg.uid)
      (payLightning cfg env msg outbound outboundUsername inboundUsername) := by
  unfold payLightning
  split
  next =>
    split
    next =>
      split
      next millisats _ =>
        refine .ite ?_ ?_
        · exact (send_inHand (.api (.paymentRequest
            (withInvoiceAmount msg (Money.fromSats (invoiceSats millisats))))) _).before
            fun _ => .ret _
        · dsimp only
          split
          next => exact payPriced_inHand { withInvoiceAmount msg _ with rate := _ } _ _ _ _ _ _
          next => exact payPriced_inHand (withInvoiceAmount msg _) _ _ _ _ _ _
      next => exact answer_inHand _ _
    next => exact answer_inHand _ _
  next => exact Raises.upTo (.ret _) _

/-- Whatever becomes of a payment request, it is one thing. -/
theorem paymentRequest_inHand (msg : PaymentRequest) :
    Raises (inHand σ) ((Message.api (.paymentRequest msg)).about σ)
      (BankEngine.paymentRequest cfg env msg) := by
  have hcheck : Raises (inHand σ) 0 (checkWithdrawalRequestRateLimit cfg env msg.uid) :=
    fun _ => inHand_congr rfl rfl rfl
  refine .after hcheck fun admitted => ?_
  refine .ite (answer_inHand _ _) (.after .read fun s => .ite (answer_inHand _ _) ?_)
  refine .after (getDefaultAccount_mute _ _ _) fun outbound => ?_
  refine .ite (answer_inHand _ _) (.ite (answer_inHand _ _) ?_)
  split
  next payer _ =>
    split
    next username _ =>
      exact (makeInternalTx_inHand { msg with recipient := some username }).before fun _ => .ret _
    next => exact payLightning_inHand _ _ _ _
  next => exact Raises.upTo (.ret _) _

/-! ## Results of payments -/

/-- A payment that went through is booked before it is answered. -/
theorem settlePayment_mute (res : PaymentResult) (liabilities dealerBtc : Account) :
    Raises (inHand σ) 0 (settlePayment env res liabilities dealerBtc) := by
  have hmove (excess : Decimal) (l d : Account) :
      Raises (inHand σ) 0 (moveExcessFees env excess l d) := by
    refine .ite (.ret _) (.after (makeTx_mute _ _ _ _ _ _) fun tx => ?_)
    split
    next =>
      refine .after (putAccount_mute _ _) fun _ => .after (putAccount_mute _ _) fun _ => ?_
      refine .after (updateAccount_mute _ _) fun _ => .after (updateAccount_mute _ _) fun _ => ?_
      exact .ret _
    next => exact .ret _
  refine .after (.lift _) fun _ => .after (.lift _) fun _ => .after (.lift _) fun _ => ?_
  refine .after (.lift _) fun _ => .ite (.panic _ _) (.after (hmove _ _ _) fun _ => ?_)
  refine .ite (.ret _) ?_
  split
  next =>
    refine .after (findInvoice_mute _ _) fun found => ?_
    split
    next =>
      refine .after (.lift _) fun _ => .after (.lift _) fun _ => .after (.lift _) fun _ => ?_
      exact .after (updateInvoice_mute _) fun _ => .ret _
    next => exact .ret _
  next => exact .panic _ _

/-- So is one that did not. -/
theorem refundPayment_mute (res : PaymentResult) (liabilities inbound : Account) :
    Raises (inHand σ) 0 (refundPayment env res liabilities inbound) := by
  refine .after (.lift _) fun _ => .after (.lift _) fun _ => .ite ?_ ?_
  · refine .after (getDefaultAccount_mute _ _ _) fun _ => .after (getDefaultAccount_mute _ _ _)
      fun _ => .after (makeTx_mute _ _ _ _ _ _) fun tx => ?_
    split
    next =>
      refine .after (makeTx_mute _ _ _ _ _ _) fun tx => ?_
      split
      next =>
        refine .after (putAccount_mute _ _) fun _ => .after (putAccount_mute _ _) fun _ => ?_
        refine .after (putAccount_mute _ _) fun _ => .after (insertIntoLedger_mute _ _) fun _ => ?_
        refine .after (updateAccount_mute _ _) fun _ => .after (updateAccount_mute _ _) fun _ => ?_
        refine .after (updateAccount_mute _ _) fun _ => .after (updateAccount_mute _ _) fun _ => ?_
        refine .after (makeSummaryTx_mute _) fun result => ?_
        split
        next => exact .ret _
        next => exact .ret _
      next => exact .ret _
    next => exact .ret _
  · refine .after (makeTx_mute _ _ _ _ _ _) fun tx => ?_
    split
    next =>
      refine .after (putAccount_mute _ _) fun _ => .after (insertIntoLedger_mute _ _) fun _ => ?_
      refine .after (updateAccount_mute _ _) fun _ => .after (updateAccount_mute _ _) fun _ => ?_
      refine .after (makeSummaryTx_mute _) fun result => ?_
      split
      next => exact .ret _
      next => exact .ret _
    next => exact .ret _

/-- A result is answered once at most. -/
theorem paymentResult_inHand (res : PaymentResult) :
    Raises (inHand σ) ((Message.bank (.paymentResult res)).about σ) (paymentResult env res) := by
  have hret : Raises (inHand σ) ((Message.bank (.paymentResult res)).about σ)
      (pure () : Handler Unit) := Raises.upTo (.ret _) _
  refine .ite (.panic _ _) (.ite hret (.after (getDefaultAccount_mute _ _ _) fun _ => ?_))
  refine .after .read fun s => .ite hret (.after (getDefaultAccount_mute _ _ _) fun _ => ?_)
  refine .after (getDefaultAccount_mute _ _ _) fun dealerBtc => ?_
  refine .after (.ite (settlePayment_mute _ _ _) (refundPayment_mute _ _ _)) fun answered => ?_
  refine .ite hret (.after sendBankState_mute fun _ => ?_)
  exact send_inHand (.api (.paymentResponse
    { res.paymentResponse with success := res.isSuccess || res.paymentResponse.success })) _

/-! ## Invoices and deposits -/

/-- The account a deposit goes to is looked up. -/
theorem targetAccount_mute (uid : UserId) (id : Option Uuid) (currency : Currency) :
    Raises (inHand σ) 0 (targetAccount env uid id currency) := by
  refine .after .read fun s => ?_
  split
  next =>
    split
    next => exact .ret _
    next => exact .ret _
  next => exact .after (getDefaultAccount_mute _ _ _) fun _ => .ret _

/-- A request for an invoice is answered, or passed on to the dealer. -/
theorem invoiceRequest_inHand (msg : InvoiceRequest) :
    Raises (inHand σ) ((Message.api (.invoiceRequest msg)).about σ)
      (BankEngine.invoiceRequest cfg env msg) := by
  have hcheck : Raises (inHand σ) 0 (checkDepositRequestRateLimit cfg env msg.uid) :=
    fun _ => inHand_congr rfl rfl rfl
  refine .after hcheck fun admitted => .ite (answer_inHand _ _) ?_
  refine .after (modifyLedger_mute _) fun _ => ?_
  refine .ite (answer_inHand _ _) (.ite (answer_inHand _ _) ?_)
  refine .after (targetAccount_mute _ _ _) fun target => ?_
  split
  next => exact send_inHand (.api (.invoiceResponse (msg.refused _ _))) _
  next target =>
    -- whatever currency is filled in, the id and the user are kept
    have hkept (m : InvoiceRequest) (hid : m.reqId = msg.reqId) (huid : m.uid = msg.uid) :
        (Message.api (.invoiceRequest m)).about σ =
          (Message.api (.invoiceRequest msg)).about σ := by
      show [(⟨.invoice, m.reqId, some m.uid⟩ : Subject)].count σ = _
      rw [hid, huid]
      rfl
    dsimp only
    generalize hm : (if target.currency ≠ msg.currency then
      { msg with targetAccountCurrency := some target.currency } else msg) = m
    have hid : m.reqId = msg.reqId := by
      rw [← hm]
      split
      · rfl
      · rfl
    have huid : m.uid = msg.uid := by
      rw [← hm]
      split
      · rfl
      · rfl
    rw [← hkept m hid huid]
    refine .ite ((send_inHand (.api (.invoiceRequest m)) _).before fun _ => .ret _) ?_
    refine .after (.lift _) fun _ => ?_
    split
    next => exact .after (insertInvoice_mute _) fun _ =>
        .ite (answer_inHand (.invoiceResponse (m.refused _ _)) _) (send_inHand _ _)
    next => exact Raises.upTo (.ret _) _

/-- A price for an invoice is answered with the invoice, or with a refusal. -/
theorem invoiceResponse_inHand (msg : InvoiceResponse) :
    Raises (inHand σ) ((Message.api (.invoiceResponse msg)).about σ)
      (BankEngine.invoiceResponse cfg env msg) := by
  unfold BankEngine.invoiceResponse
  split
  next =>
    refine .after (.lift _) fun _ => .ite (answer_inHand _ _) ?_
    refine .after (modifyLedger_mute _) fun _ => .after (targetAccount_mute _ _ _) fun target => ?_
    split
    next => exact send_inHand (.api (.invoiceResponse (msg.refused _ _))) _
    next =>
      split
      next => exact .after (insertInvoice_mute _) fun _ =>
          .ite (answer_inHand _ _) (send_inHand (.api (.invoiceResponse _)) _)
      next => exact Raises.upTo (.ret _) _
  next => exact answer_inHand _ _

/-- A deposit answers no request: the invoice was the answer. -/
theorem deposit_mute (m : Deposit) : Raises (inHand σ) 0 (deposit cfg env m) := by
  refine .ite (.ret _) (.after (findInvoice_mute _ _) fun found => ?_)
  split
  next =>
    refine .ite (.after ?_ fun _ => .ret _) (.after (.lift _) fun _ => .after (.lift _) fun _ => ?_)
    · refine .ite (.ret _) (.after (findInvoice_mute _ _) fun found => ?_)
      split
      next =>
        split
        next =>
          refine .ite (.ret _) (.after (getDefaultAccount_mute _ _ _) fun _ => ?_)
          refine .after (getDefaultAccount_mute _ _ _) fun _ => ?_
          refine .after (makeTx_mute _ _ _ _ _ _) fun _ => ?_
          refine .after (putAccount_mute _ _) fun _ => .after (updateAccount_mute _ _) fun _ => ?_
          exact .after (putAccount_mute _ _) fun _ => updateAccount_mute _ _
        next => exact .ret _
      next => exact .ret _
    refine .ite (.after (sendDealer_mute _) fun _ => .ret _) ?_
    refine .after (getOrOpenAccount_mute _ _ _) fun _ => ?_
    refine .after (getDefaultAccount_mute _ _ _) fun _ => ?_
    refine .after (makeTx_mute _ _ _ _ _ _) fun tx => ?_
    split
    next =>
      refine .after (insertIntoLedger_mute _ _) fun _ => .after (putAccount_mute _ _) fun _ => ?_
      refine .after (updateAccount_mute _ _) fun _ => .after (updateAccount_mute _ _) fun _ => ?_
      refine .after (makeSummaryTx_mute _) fun result => ?_
      split
      next =>
        refine .after (updateInvoice_mute _) fun _ => .after (notifyPaid_mute _ _) fun _ => ?_
        exact publishIfZapNote_mute _ _ _ _ _
      next => exact .ret _
    next => exact .ret _
  next => exact .ret _

/-- Nor does one the dealer has priced. -/
theorem fiatDepositResponse_mute (m : FiatDepositResponse) :
    Raises (inHand σ) 0 (fiatDepositResponse env m) := by
  refine .ite (.ret _) (.ite (.ret _) (.after (findInvoice_mute _ _) fun found => ?_))
  split
  next =>
    split
    next =>
      refine .after (getOrOpenAccount_mute _ _ _) fun _ => ?_
      refine .after (getDefaultAccount_mute _ _ _) fun _ => ?_
      refine .after (getDefaultAccount_mute _ _ _) fun _ => ?_
      refine .after (getDefaultAccount_mute _ _ _) fun _ => ?_
      refine .after (.lift _) fun _ => .after (.lift _) fun _ => ?_
      refine .after (makeTx_mute _ _ _ _ _ _) fun tx => ?_
      split
      next =>
        refine .after (makeTx_mute _ _ _ _ _ _) fun tx => ?_
        split
        next =>
          refine .after (insertIntoLedger_mute _ _) fun _ => ?_
          refine .after (putAccount_mute _ _) fun _ => ?_
          refine .after (putAccount_mute _ _) fun _ => .after (putAccount_mute _ _) fun _ => ?_
          refine .after (updateAccount_mute _ _) fun _ => ?_
          refine .after (updateAccount_mute _ _) fun _ => ?_
          refine .after (updateAccount_mute _ _) fun _ => ?_
          refine .after (updateAccount_mute _ _) fun _ => ?_
          refine .after sendBankState_mute fun _ => .after (makeSummaryTx_mute _) fun result => ?_
          split
          next => exact .after (updateInvoice_mute _) fun _ => notifyPaid_mute _ _
          next => exact .ret _
        next => exact .ret _
      next => exact .ret _
    next => exact .ret _
  next => exact .ret _

/-- An invoice of the dealer is paid without the API. -/
theorem processDealerInvoice_mute (msg : PayInvoice) (isExternal : Bool) :
    Raises (inHand σ) 0 (processDealerInvoice cfg env msg isExternal) := by
  unfold processDealerInvoice
  split
  next =>
    split
    next =>
      refine .after (.lift _) fun result => ?_
      split
      next =>
        refine .after (getDefaultAccount_mute _ _ _) fun _ => ?_
        refine .after (getDefaultAccount_mute _ _ _) fun _ => ?_
        refine .after (makeTx_mute _ _ _ _ _ _) fun tx => ?_
        split
        next =>
          refine .after (updateAccount_mute _ _) fun _ => ?_
          refine .after (updateAccount_mute _ _) fun _ => ?_
          exact .after (putAccount_mute _ _) fun _ => putAccount_mute _ _
        next => exact .ret _
      next => exact .ret _
    next => exact .panic _ _
  next => exact .ret _

/-- The dealer is told of the invoice it asked for. -/
theorem processCreateInvoiceRequest_mute (req : CreateInvoiceRequest) (owner : UserId) :
    Raises (inHand σ) 0 (processCreateInvoiceRequest cfg env req owner) := by
  refine .ite (.ret _) (.after ?_ fun _ => ?_)
  · exact .ite (getDefaultAccount_mute _ _ _) (.ite (getDefaultAccount_mute _ _ _) (.panic _ _))
  · split
    next => exact .after (insertInvoice_mute _) fun _ => .ite (.ret _) (sendDealer_mute _)
    next => exact .ret _

/-! ## The other handlers -/

/-- A swap is answered once at most. -/
theorem swapResponse_inHand (msg : SwapResponse) :
    Raises (inHand σ) ((Message.api (.swapResponse msg)).about σ)
      (BankEngine.swapResponse env msg) := by
  refine .ite (answer_inHand _ _) (.after .read fun s => .ite (answer_inHand _ _) ?_)
  dsimp only
  split
  next =>
    refine .ite (answer_inHand _ _) (.after (getDefaultAccount_mute _ _ _) fun _ => ?_)
    refine .after (getDefaultAccount_mute _ _ _) fun _ => .ite (answer_inHand _ _) ?_
    refine .after (getDefaultAccount_mute _ _ _) fun _ => ?_
    refine .after (getDefaultAccount_mute _ _ _) fun _ => ?_
    refine .ite (answer_inHand _ _) (.after (makeTx_mute _ _ _ _ _ _) fun tx => ?_)
    split
    next =>
      refine .after (.lift _) fun _ => .after (.lift _) fun _ => ?_
      refine .after (makeTx_mute _ _ _ _ _ _) fun tx => ?_
      split
      next =>
        refine .after (insertIntoLedger_mute _ _) fun _ => ?_
        refine .after (insertIntoLedger_mute _ _) fun _ => ?_
        refine .after (putAccount_mute _ _) fun _ => .after (putAccount_mute _ _) fun _ => ?_
        refine .after (updateAccount_mute _ _) fun _ => .after (updateAccount_mute _ _) fun _ => ?_
        refine .after (updateAccount_mute _ _) fun _ => .after (updateAccount_mute _ _) fun _ => ?_
        refine (send_inHand (.api (.swapResponse msg)) _).before fun _ => ?_
        refine .after sendBankState_mute fun _ => ?_
        exact .after (makeSummaryTx_mute _) fun _ => .ret _
      next => exact answer_inHand _ _
    next => exact answer_inHand _ _
  next => exact answer_inHand _ _

/-- So is the question for the balances. -/
theorem getBalances_inHand (msg : GetBalances) :
    Raises (inHand σ) ((Message.api (.getBalances msg)).about σ) (getBalances env msg) := by
  have hround (c : Currency) : Raises (inHand σ) 0 (do
      let _ ← getDefaultAccount env (.user msg.uid) c (some .internal)
      return) := .after (getDefaultAccount_mute _ _ _) fun _ => .ret _
  refine .after (modifyLedger_mute _) fun _ => .after .read fun s => ?_
  have hall := Raises.forM hround s.availableCurrencies
  rw [nsmul_zero] at hall
  refine .after hall fun _ => .after .read fun _ => .ite ?_ ?_
  · exact send_inHand _ _
  · exact send_inHand _ _

/-- A withdrawal that is stored is told of once when it is created, and may be paid
once. -/
theorem createLnurlWithdrawal_inHand (msg : CreateLnurlWithdrawalRequest) :
    Raises (inHand σ) ((Message.api (.createLnurlWithdrawalRequest msg)).about σ)
      (createLnurlWithdrawal cfg env msg) := by
  have habout : (Message.api (.createLnurlWithdrawalRequest msg)).about σ =
      oneOf σ msg.reqId msg.uid +
        [(⟨.createLnurlWithdrawal, msg.reqId, none⟩ : Subject)].count σ := by
    show List.count σ [_, _] = _
    simp only [oneOf, List.count_cons, List.count_nil]
    omega
  have hrespond (lnurl : Option String) (error : Option CreateLnurlWithdrawalError) :
      Raises (inHand σ) ((Message.api (.createLnurlWithdrawalRequest msg)).about σ)
        (do
          sendApi (.createLnurlWithdrawalResponse { reqId := msg.reqId, lnurl, error })
          return) := by
    rw [habout]
    exact (answer_inHand _ _).mono (Nat.le_add_left _ _)
  refine .ite (hrespond _ _) (.after .read fun s => .ite (hrespond _ _) ?_)
  refine .after (getDefaultAccount_mute _ _ _) fun _ => .ite ?_ (.ite (hrespond _ _) ?_)
  · exact (send_inHand _ _).before fun _ => .ret _
  · dsimp only
    split
    next =>
      rw [habout]
      refine Raises.bind (.write fun s => ?_) fun _ => send_inHand _ _
      have hle := countP_kerase_le msg.reqId
        (fun e => paymentSubject e.2.2.reqId e.2.2.uid = σ) s.lnurlWithdrawalRequests.entries
      unfold inHand State.messages State.stored oneOf
      rw [AList.entries_insert, List.countP_cons, List.count_singleton]
      dsimp only [CreateLnurlWithdrawalRequest.paymentRequest] at hle ⊢
      by_cases h : paymentSubject msg.reqId msg.uid = σ
      · simp only [h, decide_true, if_true, beq_self_eq_true]
        omega
      · simp only [h, decide_false, Bool.false_eq_true, if_false, beq_iff_eq]
        omega
    next => exact hrespond _ _

/-- So is the question for a withdrawal that is stored. -/
theorem getLnurlWithdrawal_inHand (msg : GetLnurlWithdrawalRequest) :
    Raises (inHand σ) ((Message.api (.getLnurlWithdrawalRequest msg)).about σ)
      (getLnurlWithdrawal cfg msg) := by
  refine .after .read fun s => ?_
  split
  next => exact send_inHand (.api (.getLnurlWithdrawalResponse _)) _
  next =>
    refine .after (.lift _) fun found => ?_
    split
    next => exact send_inHand (.api (.getLnurlWithdrawalResponse _)) _
    next => exact send_inHand (.api (.getLnurlWithdrawalResponse _)) _

/-- What is taken from the store is put on the loopback queue. -/
theorem payLnurlWithdrawal_inHand (msg : PayLnurlWithdrawalRequest) :
    Raises (inHand σ) ((Message.api (.payLnurlWithdrawalRequest msg)).about σ)
      (payLnurlWithdrawal msg) := by
  intro s
  refine Ensures.get_bind ?_
  split
  next t req hfound =>
    have hstored := countP_kerase
      (fun e => decide (paymentSubject e.2.2.reqId e.2.2.uid = σ)) hfound
    refine Ensures.set_bind ((send_inHand (σ := σ) _ _ _).mono fun _ s' h => h.trans ?_)
    have habout : (Message.api (.paymentRequest
        { req with paymentRequest := some msg.paymentRequest })).about σ =
        if decide (paymentSubject req.reqId req.uid = σ) then 1 else 0 := by
      show [paymentSubject req.reqId req.uid].count σ = _
      rw [List.count_singleton, beq_eq_decide]
    rw [habout]
    unfold inHand State.messages State.stored
    dsimp only [AList.erase] at hstored ⊢
    omega
  next => exact send_inHand (σ := σ) (.api (.payLnurlWithdrawalResponse _)) _ s

/-- So is the question for a route. -/
theorem queryRoute_inHand (msg : QueryRouteRequest) :
    Raises (inHand σ) ((Message.api (.queryRouteRequest msg)).about σ)
      (queryRoute cfg env msg) := by
  have hrespond (fee : Decimal) (error : Option QueryRouteError) :
      Raises (inHand σ) ((Message.api (.queryRouteRequest msg)).about σ)
        (sendApi (.queryRouteResponse { reqId := msg.reqId, totalFee := fee, error })) :=
    send_inHand _ _
  refine .after (.lift _) fun _ => ?_
  split
  next =>
    split
    next =>
      refine .after (.lift _) fun _ => .after (.lift _) fun routes => ?_
      split
      next => exact hrespond _ _
      next => exact hrespond _ _
      next => exact .after (.lift _) fun _ => .after (.lift _) fun _ => hrespond _ _
    next => exact hrespond _ _
  next => exact hrespond _ _

/-- Karma is shared out without a word to the users. -/
theorem karmaBalance_mute (msg : KarmaBalance) : Raises (inHand σ) 0 (karmaBalance env msg) := by
  have hstate : Raises (inHand σ) 0 getBankState :=
    .after .read fun _ => .after (.lift _) fun _ => .ret _
  have htotals : Raises (inHand σ) 0 (getUserTotals env) :=
    .ite (.ret _) (.ite (.ret _) (.after .read fun _ => .lift _))
  have hround (karma : Money) (total : Decimal) (change : Money) (e : UserId × Decimal) :
      Raises (inHand σ) 0 (distributeKarmaTo env karma total change e) := by
    refine .after (.lift _) fun _ => .after (.lift _) fun _ => .ite ?_ ?_
    · refine .after (getOrOpenAccount_mute _ _ _) fun _ => .after (.lift _) fun _ => ?_
      refine .after (insertIntoLedger_mute _ _) fun _ => .after (updateAccount_mute _ _) fun _ => ?_
      exact .after (.lift _) fun _ => .ret _
    · exact .after (.lift _) fun _ => .ret _
  refine .after hstate fun _ => .after htotals fun totals => ?_
  split
  next =>
    refine .after (getDefaultAccount_mute _ _ _) fun _ => .after (putAccount_mute _ _) fun _ => ?_
    refine .after (updateAccount_mute _ _) fun _ => .after (.lift _) fun _ => .ite ?_ (.ret _)
    refine .after (.lift _) fun total => .after (.foldlM (hround _ total) _ _) fun _ => ?_
    refine .after (getDefaultAccount_mute _ _ _) fun _ => ?_
    exact .after (putAccount_mute _ _) fun _ => updateAccount_mute _ _
  next => exact .ret _

/-- One swap for each setting of the interval, under an id of its own. -/
theorem dcaRebalance_inHand (msg : DcaRebalance) :
    Raises (inHand σ) ((drawn env (.bank (.dcaRebalance msg))).count σ)
      (dcaRebalance env msg) := by
  have hround (e : DcaSetting × Nat) : Raises (inHand σ)
      ([(⟨.swap, env.reqUuid e.2, some (asU64 e.1.uid)⟩ : Subject)].count σ)
      (dcaSwap env e.2 e.1) :=
    .after (.lift _) fun _ => .after (.lift _) fun _ => .after (.lift _) fun _ => send_inHand _ _
  refine .ite (Raises.upTo (.ret _) _) (.ite (Raises.upTo (.ret _) _) ?_)
  refine (Raises.forM_sum hround _).mono (le_of_eq ?_)
  dsimp only [drawn]
  generalize (env.directory.dcaByInterval msg.intervalName).zipIdx = l
  induction l with
  | nil => rfl
  | cons e l ih =>
    rw [List.map_cons, List.sum_cons, ih, List.map_cons, List.count_singleton, Nat.add_comm]
    exact List.count_cons.symm

/-- The operator asks over a socket of her own. -/
theorem processMakeTx_mute (tx : MakeTx) : Raises (inHand σ) 0 (processMakeTx env tx) := by
  have hexternal (uid : UserId) (id : AccountId) :
      Raises (inHand σ) 0 (isExternalAccount env uid id) :=
    .ite (.after (getDefaultAccount_mute _ _ _) fun _ => .ret _) (.ret _)
  have hread (slot : Slot) : Raises (inHand σ) 0 (readSlot env slot) := by
    cases slot with
    | external => exact .after (getDefaultAccount_mute _ _ _) fun _ => .ret _
    | insurance => exact .after .read fun _ => .ret _
    | user uid id =>
      refine .after .read fun _ => .ite (.ret _) ?_
      split
      next => exact .ret _
      next => exact .ret _
  have hwrite (a : Account) (slot : Slot) : Raises (inHand σ) 0 (writeSlot a slot) := by
    cases slot with
    | external => exact putAccount_mute _ _
    | insurance => exact modifyLedger_mute fun L => { L with insuranceFundAccount := a }
    | user uid id => exact insertIntoLedger_mute _ _
  refine .ite (.ret _) (.ite (.ret _) (.after .read fun s => ?_))
  refine .after (hexternal _ _) fun _ => .after (hexternal _ _) fun _ => ?_
  refine .ite (.ret _) (.after (hread _) fun outbound => ?_)
  split
  next => exact .ret _
  next =>
    refine .after (hread _) fun inbound => ?_
    split
    next => exact .ret _
    next =>
      refine .ite (.ret _) (.after (makeTx_mute _ _ _ _ _ _) fun tx => ?_)
      split
      next => exact .ret _
      next =>
        refine .after (updateAccount_mute _ _) fun _ => .after (updateAccount_mute _ _) fun _ => ?_
        exact .after (hwrite _ _) fun _ => .after (hwrite _ _) fun _ => .ret _

/-! ## Every message -/

/-- What is in hand of a subject comes from what was told, or drawn. -/
theorem processMsg_inHand (msg : Message) :
    Raises (inHand σ) (msg.about σ + (drawn env msg).count σ)
      (BankEngine.processMsg cfg env msg) := by
  cases msg with
  | dealer m =>
    refine Raises.upTo ?_ _
    cases m with
    | health h => exact .write fun _ => inHand_congr rfl rfl rfl
    | bankStateRequest m => exact sendBankState_mute
    | payInvoice m => exact processDealerInvoice_mute _ _
    | payInsuranceInvoice m => exact processDealerInvoice_mute _ _
    | createInvoiceRequest m => exact processCreateInvoiceRequest_mute _ _
    | createInsuranceInvoiceRequest m => exact processCreateInvoiceRequest_mute _ _
    | fiatDepositResponse m => exact fiatDepositResponse_mute m
    | karmaBalance m => exact karmaBalance_mute m
    | _ => exact .ret _
  | deposit m => exact deposit_mute m
  | api m =>
    show Raises (inHand σ) ((Message.api m).about σ) (processApi cfg env m)
    cases m with
    | invoiceRequest m => exact invoiceRequest_inHand m
    | invoiceResponse m => exact invoiceResponse_inHand m
    | paymentRequest m => exact paymentRequest_inHand m
    | swapRequest m => exact send_inHand _ _
    | swapResponse m => exact swapResponse_inHand m
    | getBalances m => exact getBalances_inHand m
    | quoteRequest m => exact send_inHand _ _
    | quoteResponse m => exact send_inHand _ _
    | availableCurrenciesRequest m => exact send_inHand _ _
    | availableCurrenciesResponse m => exact send_inHand _ _
    | getNodeInfoRequest m => exact send_inHand (.api (.getNodeInfoResponse _)) _
    | createLnurlWithdrawalRequest m => exact createLnurlWithdrawal_inHand m
    | getLnurlWithdrawalRequest m => exact getLnurlWithdrawal_inHand m
    | payLnurlWithdrawalRequest m => exact payLnurlWithdrawal_inHand m
    | queryRouteRequest m => exact queryRoute_inHand m
    | nostrProfileRequest m => exact send_inHand _ _
    | nostrProfileSearchRequest m => exact send_inHand _ _
    | nostrProfileSearchResponse m => exact send_inHand _ _
    | _ => exact Raises.upTo (.ret _) _
  | bank m =>
    cases m with
    | paymentResult res => exact paymentResult_inHand res
    | dcaRebalance m =>
      show Raises _ (0 + _) _
      rw [Nat.zero_add]
      exact dcaRebalance_inHand m
  | cli m =>
    cases m with
    | makeTx tx => exact .after (processMakeTx_mute tx) fun _ => send_mute _ rfl
    | makeTxResult m => exact .ret _
  | nostr m =>
    cases m with
    | nostrProfilesRefetchRequest req => exact send_mute _ rfl
    | nostrPrivateMessage m => exact .ret _
    | nostrZapNote m => exact .ret _
  | journal m => exact .ret _

/-- A message the bank handled leaves no more in hand than there was, than the message
told and than the bank asked for itself. -/
theorem Delivers.inHand_le {s s' : State} {d : Delivery} (h : Delivers cfg s d s') :
    inHand σ s' ≤ s.paymentThreads.countP (·.subject = σ) + s.stored σ +
      (d.msg.about σ + (drawn d.env d.msg).count σ) := by
  have hle : inHand σ s' ≤ inHand σ { s with sent := [] } +
      (d.msg.about σ + (drawn d.env d.msg).count σ) := h.ensures (processMsg_inHand d.msg _)
  have hstart : inHand σ { s with sent := [] } =
      s.paymentThreads.countP (·.subject = σ) + s.stored σ := by
    show 0 + s.paymentThreads.countP (·.subject = σ) + s.stored σ = _
    rw [Nat.zero_add]
  omega

/-- A message goes to one destination only. -/
theorem told_sentTo_le (s : State) :
    told σ (BankLoop.sentTo .loopback s) + told σ (BankLoop.sentTo .dealer s) +
      told σ (BankLoop.sentTo .api s) ≤ told σ s.messages := by
  unfold BankLoop.sentTo State.messages
  induction s.sent with
  | nil => exact le_refl 0
  | cons e l ih =>
    obtain ⟨m, destination⟩ := e
    rw [List.map_cons, told_cons]
    have htake (o : ServiceIdentity) :
        told σ ((((m, destination) :: l).filter (·.2 = o)).map (·.1)) =
        (if destination = o then m.about σ else 0) + told σ ((l.filter (·.2 = o)).map (·.1)) := by
      by_cases h : destination = o
      · rw [List.filter_cons_of_pos (by simpa using h), List.map_cons, told_cons, if_pos h]
      · rw [List.filter_cons_of_neg (by simpa using h), if_neg h, Nat.zero_add]
    rw [htake, htake, htake]
    cases destination with
    | loopback => simp; omega
    | dealer => simp; omega
    | api => simp; omega
    | _ => simp; omega

end Lndhubx
