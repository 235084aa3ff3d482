import Lndhubx.Bank.Sends
import Lndhubx.Bank.ServiceSpec

/-!
# Which payment requests are answered

The handler of a payment request has about thirty exits. Most of them hand the
request on: a response goes to the API, the request goes to the dealer for a rate,
or a task is spawned that pays it (`HandedOn`). At the others the handler says
nothing (`Silent`). The same holds for the result of a payment, which is answered
or not.

Which exit is taken is decided by what the handler finds: `RequestAnswers` and
`ResultAnswers` say of the state before the message, of the surroundings and of the
message that no silent exit is reached. They are exact (`paymentRequest_answers`,
`paymentResult_answers`).
-/

namespace Lndhubx

open Prog BankEngine

variable {cfg : Config} {env : Env} {s s' s'' : State} {r : RequestId} {c : Prop}

/-! ## Silence and its opposite -/

/-- Is this a payment request, or the response to one? -/
def IsPayment (m : Message × ServiceIdentity) : Prop :=
  (∃ req, m.1 = .api (.paymentRequest req)) ∨ ∃ resp, m.1 = .api (.paymentResponse resp)

/-- Nothing was said about any payment, and no task was spawned. -/
structure Silent (s s' : State) : Prop where
  threads : s'.paymentThreads = s.paymentThreads
  kept : s.sent ⊆ s'.sent
  sent : ∀ m ∈ s'.sent, m ∈ s.sent ∨ ¬IsPayment m

/-- The request was answered, sent on to the dealer, or handed to a task. -/
inductive HandedOn (r : RequestId) (s s' : State) : Prop
  | answered (resp : PaymentResponse) (id : resp.reqId = r)
      (sent : (.api (.paymentResponse resp), .api) ∈ s'.sent)
  | asked (req : PaymentRequest) (id : req.reqId = r)
      (sent : (.api (.paymentRequest req), .dealer) ∈ s'.sent)
  | spawned (t : PaymentTask) (id : t.reqId = r)
      (threads : s'.paymentThreads = s.paymentThreads ++ [t])

/-- The request was handed on under the condition, and met with silence without it. -/
def HandedOnIff (c : Prop) (r : RequestId) (s s' : State) : Prop :=
  c ∧ HandedOn r s s' ∨ ¬c ∧ Silent s s'

namespace Silent

/-- Nothing said is no answer. -/
instance isRefl : Std.Refl Silent := ⟨fun _ => ⟨rfl, fun _ h => h, fun _ h => .inl h⟩⟩

/-- Two parts without an answer. -/
instance isTrans : IsTrans State Silent := ⟨fun _ _ _ h h' =>
  ⟨h'.threads.trans h.threads, List.Subset.trans h.kept h'.kept,
    fun m hm => (h'.sent m hm).elim (h.sent m) .inr⟩⟩

/-- Nothing happened. -/
theorem refl (s : State) : Silent s s := isRefl.refl s

/-- One part after the other. -/
theorem trans (h : Silent s s') (h' : Silent s' s'') : Silent s s'' := isTrans.trans _ _ _ h h'

/-- Quiet, and no message about a payment. -/
theorem of (hquiet : Quiet s s') (hsends : Sends (fun m => ¬IsPayment m) s s') : Silent s s' := by
  obtain ⟨new, hnew, -⟩ := hquiet.sent
  refine ⟨hquiet.threads, ?_, hsends.sent⟩
  rw [hnew]
  exact List.subset_append_left _ _

/-- An account is found or opened without an answer. -/
theorem getDefaultAccount (o : Owner) (currency : Currency) (t : Option AccountType) :
    Keeps Silent (getDefaultAccount env o currency t) := fun s =>
  ((getDefaultAccount_spec o currency t).and (Sends.getDefaultAccount o currency t s)).mono
    fun _ _ h => of h.1.1.toQuiet h.2

/-- So is the entry it is opened in. -/
theorem getOrOpenAccount (uid : UserId) (currency : Currency) (t : Option AccountType) :
    Keeps Silent (getOrOpenAccount env uid currency t) := fun s =>
  ((getOrOpenAccount_spec uid currency t).and (Sends.getOrOpenAccount uid currency t s)).mono
    fun _ _ h => of h.1.1.toQuiet h.2

/-- A transaction goes to the database alone. -/
theorem makeTx (leg : Nat) (outbound : Account) (outboundUid : UserId) (inbound : Account)
    (inboundUid : UserId) (amount : Money) :
    Keeps Silent (makeTx env leg outbound outboundUid inbound inboundUid amount) := fun s =>
  ((makeTx_spec leg outbound outboundUid inbound inboundUid amount).and
    (Sends.makeTx leg outbound outboundUid inbound inboundUid amount s)).mono
      fun _ _ h => of h.1.noted.toQuiet h.2

/-- The ledger answers no one. -/
theorem modifyLedger (f : Ledger → Ledger) : Keeps Silent (modifyLedger f) :=
  .write fun _ => ⟨rfl, fun _ h => h, fun _ h => .inl h⟩

/-- Nor does a copy that is written back. -/
theorem insertIntoLedger (uid : UserId) (a : Account) : Keeps Silent (insertIntoLedger uid a) :=
  Keeps.read.bind fun _ => .ite (modifyLedger _) (.panic _)

/-- Nor does the row it is stored in. -/
theorem updateAccount (a : Account) (uid : UserId) : Keeps Silent (updateAccount env a uid) :=
  fun s => ((updateAccount_spec a uid).and (Sends.updateAccount a uid s)).mono
    fun _ _ h => of h.1.1.toQuiet h.2

/-- A journal entry is no answer. -/
theorem not_journal (tx : JournalTransaction) : ¬IsPayment (.journal tx, .journal) := by
  simp [IsPayment]

/-- Nor is a message to nostr. -/
theorem not_nostr (msg : Nostr) : ¬IsPayment (.nostr msg, .nostr) := by
  simp [IsPayment]

/-- A summary is told to the journal. -/
theorem makeSummaryTx (x : SummaryTx) : Keeps Silent (makeSummaryTx env x) := fun s =>
  ((makeSummaryTx_spec x).and (Sends.makeSummaryTx not_journal x s)).mono
    fun _ _ h => of h.1.1.toQuiet h.2

/-- The invoice to be paid is looked up or stored. -/
theorem findOrInsertInvoice (msg : PaymentRequest) (pr : String) (decoded : Bolt11)
    (millisats : Nat) : Keeps Silent (findOrInsertInvoice env msg pr decoded millisats) := by
  have hinsert (i : Invoice) : Keeps Silent (insertInvoice env i) := fun s =>
    ((insertInvoice_spec i).and (Sends.insertInvoice i s)).mono fun _ _ h => of h.1.1.toQuiet h.2
  refine Keeps.bind (Keeps.read.bind fun _ => .ret _) fun found => ?_
  split
  next => exact .ret _
  next => exact (hinsert _).bind fun _ => .ret _

/-- It is settled. -/
theorem updateInvoice (i : Invoice) : Keeps Silent (updateInvoice env i) := fun s =>
  ((updateInvoice_spec i).and (Sends.updateInvoice i s)).mono fun _ _ h => of h.1.toQuiet h.2

/-- A zap is handed to nostr. -/
theorem publishIfZapNote (i : Invoice) (hash preimage : Option String) (t : Nat)
    (internal : Bool) : Keeps Silent (publishIfZapNote cfg i hash preimage t internal) := fun s =>
  ((publishIfZapNote_spec i hash preimage t internal).and
    (Sends.publishIfZapNote not_nostr i hash preimage t internal s)).mono
      fun _ _ h => of h.1.toQuiet h.2

/-- A message that is not about a payment. -/
theorem send {msg : Message} {destination : ServiceIdentity} (h : ¬IsPayment (msg, destination)) :
    Keeps Silent (BankEngine.send msg destination) := by
  refine .write fun s => ⟨rfl, List.subset_append_left _ _, fun m hm => ?_⟩
  rcases List.mem_append.mp hm with hm | hm
  · exact .inl hm
  · rw [List.mem_singleton.mp hm]
    exact .inr h

/-- The dealer is told of the bank's state, which is about no payment. -/
theorem sendBankState : Keeps Silent sendBankState := by
  refine Keeps.bind (Keeps.read.bind fun _ => (Keeps.lift _).bind fun _ => .ret _) fun b => ?_
  exact send (by simp [IsPayment])

end Silent

namespace HandedOn

/-- A response is on its way to the API. -/
theorem of_response (resp : PaymentResponse) (h : resp.reqId = r) :
    Ensures (sendApi (.paymentResponse resp)) s' fun _ s'' => HandedOn r s s'' :=
  .answered resp h (List.mem_append_right _ (List.mem_singleton.mpr rfl))

/-- Something silent after it. -/
theorem after (h : HandedOn r s s') (h' : Silent s' s'') : HandedOn r s s'' := by
  cases h with
  | answered resp id sent => exact .answered resp id (h'.kept sent)
  | asked req id sent => exact .asked req id (h'.kept sent)
  | spawned t id threads => exact .spawned t id (h'.threads.trans threads)

/-- Something silent before it. -/
theorem before (h : HandedOn r s' s'') (h' : Silent s s') : HandedOn r s s'' := by
  cases h with
  | answered resp id sent => exact .answered resp id sent
  | asked req id sent => exact .asked req id sent
  | spawned t id threads => exact .spawned t id (by rw [threads, h'.threads])

end HandedOn

namespace HandedOnIff

/-- Something silent after it. -/
theorem after (h : HandedOnIff c r s s') (h' : Silent s' s'') : HandedOnIff c r s s'' :=
  h.imp (And.imp_right (·.after h')) (And.imp_right (·.trans h'))

/-- Something silent before it. -/
theorem before (h : HandedOnIff c r s' s'') (h' : Silent s s') : HandedOnIff c r s s'' :=
  h.imp (And.imp_right (·.before h')) (And.imp_right h'.trans)

/-- The condition may be said differently. -/
theorem congr {c' : Prop} (h : HandedOnIff c r s s') (hc : c ↔ c') : HandedOnIff c' r s s' := by
  unfold HandedOnIff
  rw [← hc]
  exact h

/-- At an exit that answers, the condition holds. -/
theorem respond {α : Type} (resp : PaymentResponse) (a : α) (hid : resp.reqId = r) (h : c) :
    Ensures (do sendApi (.paymentResponse resp); return a) s' fun _ s'' => HandedOnIff c r s s'' :=
  (HandedOn.of_response resp hid).bind fun _ _ h' => .inl ⟨h, h'⟩

end HandedOnIff

/-! ## Between two users -/

/-- What a call of the database finds. -/
def Env.finds {α : Type} (env : Env) (call : DbCall) (row : Option α) : Option α :=
  if env.db call then row else none

/-- A transfer between users reaches no silent exit: there is a connection, the
recipient is another user, and what the payer can afford is a positive amount whose
transaction and summary are stored. -/
def TransferAnswers (env : Env) (s : State) (uid : UserId) (currency : Currency)
    (username : String) (amount : Money) : Prop :=
  env.db .internalTxConn = true ∧ ∀ recipient payer,
    env.finds .inboundUser (env.directory.userByUsername username) = some recipient →
    env.finds .payerUser (env.directory.userById (asI32 uid)) = some payer →
      asU64 recipient.uid ≠ uid ∧
      (amount.value ≤ defaultBalance env s.ledger (.user uid) currency none →
        0 < amount.value ∧ TxStored env s 0 0 ∧ SummaryStored env s)

/-- To open an account stores no transaction. -/
theorem getOrOpenAccount_sameTx (uid : UserId) (currency : Currency) (t : Option AccountType) :
    Ensures (getOrOpenAccount env uid currency t) s fun _ s' => SameTx env s s' := by
  refine Ensures.modify_bind ((getDefaultAccount_spec _ _ _).mono fun _ s' h => ?_)
  exact SameTx.trans (.of_eq rfl rfl) h.2.2.2.2

/-- A payment between users is answered but for the exits that say nothing. -/
theorem makeInternalTx_answers {req : PaymentRequest} {username : String} {amount : Money}
    (hrecipient : req.recipient = some username) (hamount : req.amount = some amount)
    (hknown : s.ledger.hasUser req.uid = true) :
    Ensures (makeInternalTx cfg env req) s fun _ s' =>
      HandedOnIff (TransferAnswers env s req.uid req.currency username amount) req.reqId s s' := by
  unfold makeInternalTx
  refine Ensures.ite (fun hno => .inr ⟨fun h => ?_, .refl s⟩) fun hconn => ?_
  · rw [h.1] at hno
    exact absurd hno (by simp)
  have hconn : env.db .internalTxConn = true := by simpa using hconn
  rw [hrecipient, hamount]
  dsimp only
  refine Ensures.lift_bind fun amount' ha => ?_
  obtain rfl : amount = amount' := Option.some.inj (Checked.unwrap_eq_ok.mp ha)
  split
  next recipient hfound =>
    split
    next payer hpayer =>
      refine Ensures.ite (fun hself => .inr ⟨fun h => ?_, .refl s⟩) fun hother => ?_
      · exact (h.2 recipient payer hfound hpayer).1 hself
      refine Ensures.get_bind (Ensures.ite (fun hno => ?_) fun _ => ?_)
      · rw [hknown] at hno
        exact absurd hno (by simp)
      refine ((getDefaultAccount_spec _ _ _).and ((getDefaultAccount_balance _ _ _).and
        (Silent.getDefaultAccount _ _ _ s))).bind fun outbound s₁ h => ?_
      obtain ⟨⟨hb₁, -, houtc, -, hsame₁⟩, ⟨hbalance, -⟩, hsilent₁⟩ := h
      refine ((getOrOpenAccount_spec _ _ _).and ((getOrOpenAccount_sameTx _ _ _).and
        (Silent.getOrOpenAccount _ _ _ s₁))).bind fun inbound s₂ h => ?_
      obtain ⟨⟨hb₂, -, hinc, -⟩, hsame₂, hsilent₂⟩ := h
      have hsame := hsame₁.trans hsame₂
      have hb := hb₁.opened hb₂
      have hsilent := hsilent₁.trans hsilent₂
      -- what the condition says of the only rows there are
      have hother' (recipient' : User)
          (hr : env.finds .inboundUser (env.directory.userByUsername username) = some recipient') :
          asU64 recipient'.uid ≠ req.uid := by
        rw [← Option.some.inj (hfound.symm.trans hr)]
        exact hother
      refine Ensures.ite (fun hlow => ?_) fun hcov => ?_
      · refine HandedOnIff.respond _ _ rfl ⟨hconn, fun recipient' payer' hr _ => ?_⟩
        refine ⟨hother' recipient' hr, fun hle => ?_⟩
        rw [← hbalance] at hle
        exact absurd hlow (not_lt.mpr hle)
      have hcov : amount.value ≤ defaultBalance env s.ledger (.user req.uid) req.currency none := by
        rw [← hbalance]
        exact not_lt.mp hcov
      refine ((makeTx_spec _ _ _ _ _ _).and (Silent.makeTx _ _ _ _ _ _ s₂)).bind fun tx s₃ h => ?_
      obtain ⟨htx, hsilent₃⟩ := h
      have hb := hb.opened htx.booked
      have hsilent := hsilent.trans hsilent₃
      split
      next outbound' inbound' txid =>
        obtain ⟨hpos, -, hst, -, -⟩ := htx.stored txid rfl
        have hst : TxStored env s 0 0 := (hsame 0 0).mp hst
        refine ((makeSummaryTx_spec _).and (Silent.makeSummaryTx _ s₃)).bind fun sum s₄ h => ?_
        obtain ⟨⟨-, hsum, -⟩, hsilent₄⟩ := h
        rw [hb.summaryStored_iff] at hsum
        have hsilent := hsilent.trans hsilent₄
        split
        next txid' =>
          have hsummary : SummaryStored env s := (hsum.mp ⟨txid', rfl⟩).2
          refine (Silent.insertIntoLedger _ _ s₄).bind fun _ s₅ _ => ?_
          refine (Silent.insertIntoLedger _ _ s₅).bind fun _ s₆ _ => ?_
          refine (Silent.updateAccount _ _ s₆).bind fun _ s₇ _ => ?_
          refine (Silent.updateAccount _ _ s₇).bind fun _ s₈ _ => ?_
          refine HandedOnIff.respond _ _ rfl ⟨hconn, fun recipient' payer' hr _ => ?_⟩
          exact ⟨hother' recipient' hr, fun _ => ⟨hpos, hst, hsummary⟩⟩
        next hno =>
          refine .inr ⟨fun h => ?_, hsilent⟩
          obtain ⟨-, -, hsummary⟩ := (h.2 recipient payer hfound hpayer).2 hcov
          obtain ⟨txid', hok⟩ := hsum.mpr ⟨hpos, hsummary⟩
          exact hno txid' hok
      next hno =>
        refine .inr ⟨fun h => ?_, hsilent⟩
        obtain ⟨hpos, hst, -⟩ := (h.2 recipient payer hfound hpayer).2 hcov
        obtain ⟨txid, hok⟩ := htx.succeeds hpos (by rw [houtc, hinc]) ((hsame 0 0).mpr hst)
        exact hno _ _ txid (by rw [← hok])
    next hnone =>
      refine HandedOnIff.respond _ _ rfl ⟨hconn, fun _ payer _ hpayer => ?_⟩
      exact absurd hpayer (hnone payer)
  next hnone =>
    refine HandedOnIff.respond _ _ rfl ⟨hconn, fun recipient _ hfound => ?_⟩
    exact absurd hfound (hnone recipient)

/-! ## Out of the platform -/

/-- The transactions of a debit are stored: one in bitcoin, two in fiat. -/
def DebitStored (env : Env) (s : State) (currency : Currency) (total debit : Money) : Prop :=
  0 < debit.value ∧ 0 < total.value ∧ TxStored env s 0 0 ∧ (currency ≠ .BTC → TxStored env s 1 1)

/-- The debit of an external payment reaches no silent exit. Only in bitcoin is it
answered that a transaction has failed, and nowhere that the summary has. -/
def DebitAnswers (env : Env) (s : State) (currency : Currency) (total debit : Money) : Prop :=
  (currency ≠ .BTC → DebitStored env s currency total debit) ∧
    (DebitStored env s currency total debit → SummaryStored env s)

/-- A debit in fiat answers no one, whether it works or not. -/
theorem Silent.debitFiat (p : Outgoing) (outbound liability : Account) :
    Keeps Silent (debitFiat env p outbound liability) := by
  refine (Silent.getDefaultAccount _ _ _).bind fun dealerFiat => ?_
  refine (Silent.makeTx _ _ _ _ _ _).bind fun tx => ?_
  split
  next =>
    refine (Silent.getDefaultAccount _ _ _).bind fun dealerBtc => ?_
    refine (Silent.makeTx _ _ _ _ _ _).bind fun tx' => ?_
    split
    next =>
      refine (Silent.insertIntoLedger _ _).bind fun _ => ?_
      refine Keeps.bind (Silent.modifyLedger _) fun _ => ?_
      refine Keeps.bind (Silent.modifyLedger _) fun _ => ?_
      refine Keeps.bind (Silent.modifyLedger _) fun _ => ?_
      refine (Silent.updateAccount _ _).bind fun _ => (Silent.updateAccount _ _).bind fun _ => ?_
      refine (Silent.updateAccount _ _).bind fun _ => (Silent.updateAccount _ _).bind fun _ => ?_
      refine (Silent.makeSummaryTx _).bind fun r => ?_
      split
      next => exact .ret _
      next => exact .ret _
    next => exact .ret _
  next => exact .ret _

/-- In bitcoin a failed transaction is answered, and all else is silent. -/
theorem debitBtc_answers {p : Outgoing} {outbound liability : Account}
    (hid : p.response.reqId = p.msg.reqId) (hbtc : p.msg.currency = .BTC)
    (htotal : p.totalInBtc.value = p.debit.value)
    (hcurrency : outbound.currency = liability.currency) :
    Ensures (debitBtc env p outbound liability) s fun goes s' =>
      p.Storable env s ∧ Silent s s' ∨
        goes = false ∧ ¬p.Storable env s ∧ HandedOn p.msg.reqId s s' := by
  refine ((makeTx_spec _ _ _ _ _ _).and (Silent.makeTx _ _ _ _ _ _ s)).bind fun tx s₁ h => ?_
  obtain ⟨htx, hsilent⟩ := h
  split
  next txid =>
    obtain ⟨hpos, -, hst, -, -⟩ := htx.stored txid rfl
    have hstorable : p.Storable env s :=
      ⟨hpos, by rw [htotal]; exact hpos, hst, fun hfiat => absurd hbtc hfiat⟩
    refine Ensures.mono (R := fun _ s' => Silent s₁ s') ?_ fun _ s' h =>
      .inl ⟨hstorable, hsilent.trans h⟩
    refine Keeps.bind (R := Silent) (Silent.modifyLedger _) (fun _ => ?_) s₁
    refine (Silent.insertIntoLedger _ _).bind fun _ => ?_
    refine (Silent.updateAccount _ _).bind fun _ => (Silent.updateAccount _ _).bind fun _ => ?_
    refine (Silent.makeSummaryTx _).bind fun r => ?_
    split
    next => exact .ret _
    next => exact .ret _
  next hno =>
    refine (HandedOn.of_response (s := s) { p.response with error := some .transactionFailed }
      hid).bind fun _ s' h => ?_
    refine Ensures.ret (.inr ⟨rfl, fun hst => ?_, h⟩)
    obtain ⟨txid, hok⟩ := htx.succeeds hst.1 hcurrency hst.2.2.1
    exact hno _ _ txid (by rw [← hok])

/-- A payment over the node is refused aloud or handed to a task, if it was debited. -/
theorem payExternally_answers {p : Outgoing} {outbound : Account}
    (hid : p.response.reqId = p.msg.reqId)
    (htotal : p.msg.currency = .BTC → p.totalInBtc.value = p.debit.value)
    (hout : s.ledger.get (.user p.msg.uid, outbound.accountId) = some outbound)
    (houtc : outbound.currency = p.msg.currency) :
    Ensures (payExternally env p outbound) s fun _ s' =>
      HandedOnIff (DebitAnswers env s p.msg.currency p.totalInBtc p.debit) p.msg.reqId s s' := by
  refine (getLiabilityAccount_spec.and (Silent.getDefaultAccount _ _ _ s)).bind
    fun liability s₁ h => ?_
  obtain ⟨⟨h₁, hli, hlic, hlit, hsame⟩, hsilent₁⟩ := h
  have hout := h₁.keeps hout
  have hstored : p.Storable env s₁ ↔
      DebitStored env s p.msg.currency p.totalInBtc p.debit := by
    unfold Outgoing.Storable DebitStored
    rw [hsame 0 0, hsame 1 1]
  -- whether the payment goes on, or else whether that was answered
  refine Ensures.bind (R := fun goes s₂ =>
    goes = true ∧ DebitAnswers env s p.msg.currency p.totalInBtc p.debit ∧ Silent s s₂ ∨
    goes = false ∧ HandedOnIff (DebitAnswers env s p.msg.currency p.totalInBtc p.debit)
      p.msg.reqId s s₂) ?_ fun goes s₂ h => ?_
  · have hsilently {goes : Bool} {s₂ : State}
        (hdebit : DebitOutcome env p outbound.accountId s₁ goes s₂) (hsilent : Silent s₁ s₂)
        (hwhy : p.msg.currency ≠ .BTC ∨ p.Storable env s₁) :
        goes = true ∧ DebitAnswers env s p.msg.currency p.totalInBtc p.debit ∧ Silent s s₂ ∨
        goes = false ∧ HandedOnIff (DebitAnswers env s p.msg.currency p.totalInBtc p.debit)
          p.msg.reqId s s₂ := by
      have hsilent := hsilent₁.trans hsilent
      cases hdebit with
      | refused _ reason =>
        have hfiat := hwhy.resolve_right reason
        exact .inr ⟨rfl, .inr ⟨fun h => reason (hstored.mpr (h.1 hfiat)), hsilent⟩⟩
      | debited _ _ stored _ _ _ _ hgoes =>
        rw [h₁.summaryStored_iff] at hgoes
        cases goes with
        | true => exact .inl ⟨rfl, ⟨fun _ => hstored.mp stored, fun _ => hgoes.mp rfl⟩, hsilent⟩
        | false =>
          refine .inr ⟨rfl, .inr ⟨fun h => ?_, hsilent⟩⟩
          exact absurd (hgoes.mpr (h.2 (hstored.mp stored))) (by simp)
    refine Ensures.ite (fun hfiat => ?_) fun hbtc => ?_
    · refine ((debitFiat_spec hfiat hout houtc hli hlic hlit).and
        (Silent.debitFiat _ _ _ s₁)).mono fun goes s₂ h => ?_
      exact hsilently h.1 h.2 (.inl hfiat)
    · have hbtc : p.msg.currency = .BTC := not_not.mp hbtc
      refine ((debitBtc_spec hbtc (htotal hbtc) hout houtc hli hlic hlit).and
        (debitBtc_answers hid hbtc (htotal hbtc) (by rw [houtc, hlic, hbtc]))).mono
          fun goes s₂ h => ?_
      obtain ⟨hdebit, ⟨hstorable, hsilent⟩ | ⟨hno, hlost, hanswered⟩⟩ := h
      · exact hsilently hdebit hsilent (.inr hstorable)
      · refine .inr ⟨hno, .inl ⟨⟨fun hfiat => absurd hbtc hfiat, fun hst => ?_⟩, ?_⟩⟩
        · exact absurd (hstored.mpr hst) hlost
        · exact hanswered.before hsilent₁
  · rcases h with ⟨rfl, hanswers, hsilent⟩ | ⟨rfl, h⟩
    · refine Ensures.ite (fun _ => ?_) fun hno => absurd rfl hno
      refine Ensures.lift_bind fun sats _ => Ensures.lift_bind fun fee _ => ?_
      exact .inl ⟨hanswers, (HandedOn.spawned (p.task fee) rfl rfl).before hsilent⟩
    · exact Ensures.ite (fun hno => absurd hno (by simp)) fun _ => h

/-! ## By invoice -/

/-- The owner in the row of a payment request, if the row is found and has one. -/
def storedOwner (env : Env) (s : State) (pr : String) : Option Int :=
  (env.finds .invoiceGet (s.db.invoiceByPaymentRequest pr)).bind (·.owner)

/-- There is a row for the invoice, or one can be stored. -/
def Findable (env : Env) (s : State) (pr : String) (decoded : Bolt11) : Prop :=
  (env.finds .invoiceGet (s.db.invoiceByPaymentRequest pr)).isSome = true ∨
    env.db .invoiceInsert = true ∧ s.db.invoices.has decoded.paymentHash = false

/-- The owner of an invoice is paid, and everyone else through the node, without a
silent exit. -/
def PayeeAnswers (env : Env) (s : State) (msg : PaymentRequest) (pr : String)
    (amount total debit : Money) : Prop :=
  (storedOwner env s pr = none → DebitAnswers env s msg.currency total debit) ∧
    ∀ owner user, storedOwner env s pr = some owner →
      env.finds .ownerUser (env.directory.userById owner) = some user →
        TransferAnswers env s msg.uid msg.currency user.username amount

/-- A request at a known rate reaches no silent exit: its invoice has a row, and if that
is open, the user's own is not paid and the funds are there, then the payee is paid
without one. -/
def PricedAnswers (cfg : Config) (env : Env) (s : State) (msg : PaymentRequest) (pr : String)
    (decoded : Bolt11) (millisats : UInt64) (rate : Rate) (amount : Money) : Prop :=
  Findable env s pr decoded ∧ ∀ fee total debit, Payable env s pr decoded →
    (storedOwner env s pr).map asU64 ≠ some msg.uid →
    priceOutgoing cfg env pr (Money.fromSats (invoiceSats millisats)) rate =
      .ok (fee, total, debit) →
    debit.value ≤ defaultBalance env s.ledger (.user msg.uid) msg.currency none →
      PayeeAnswers env s msg pr amount total debit

/-- A payment by invoice reaches no silent exit: there is an invoice, and once it is
priced no silent exit is reached. -/
def LightningAnswers (cfg : Config) (env : Env) (s : State) (msg : PaymentRequest) : Prop :=
  msg.paymentRequest ≠ none ∧ ∀ pr decoded millisats rate amount,
    msg.paymentRequest = some pr → cfg.parseInvoice pr = some decoded →
    decoded.amountMilliSatoshis = some millisats → payRate msg = some rate →
    (Money.fromSats (invoiceSats millisats)).exchange rate = .ok (.ok amount) →
      PricedAnswers cfg env s msg pr decoded millisats rate amount

/-- The condition, where the invoice is readable and has a price. -/
theorem LightningAnswers.iff {msg : PaymentRequest} {pr : String} {decoded : Bolt11}
    {millisats : UInt64} {rate : Rate} {amount : Money} (hpr : msg.paymentRequest = some pr)
    (hdec : cfg.parseInvoice pr = some decoded)
    (hmil : decoded.amountMilliSatoshis = some millisats) (hrate : payRate msg = some rate)
    (hex : (Money.fromSats (invoiceSats millisats)).exchange rate = .ok (.ok amount)) :
    PricedAnswers cfg env s msg pr decoded millisats rate amount ↔
      LightningAnswers cfg env s msg := by
  constructor
  · intro h
    refine ⟨by simp [hpr], ?_⟩
    intro pr' decoded' millisats' rate' amount' hpr' hdec' hmil' hrate' hex'
    obtain rfl := Option.some.inj (hpr.symm.trans hpr')
    obtain rfl := Option.some.inj (hdec.symm.trans hdec')
    obtain rfl := Option.some.inj (hmil.symm.trans hmil')
    obtain rfl := Option.some.inj (hrate.symm.trans hrate')
    obtain rfl : amount = amount' := by
      have := hex.symm.trans hex'
      simpa using this
    exact h
  · intro h
    exact h.2 pr decoded millisats rate amount hpr hdec hmil hrate hex

/-- What a request has shown when it comes to its payee: nothing was said so far, and
asked again, the ledger hands out the same balance. -/
structure Unspoken (cfg : Config) (env : Env) (msg : PaymentRequest) (s₀ s : State)
    (outbound : Account) : Prop extends Admitted cfg env msg s₀ s outbound where
  silent : Silent s₀ s
  again : defaultBalance env s.ledger (.user msg.uid) msg.currency none = outbound.balance

/-- It matters only which balance is handed out and what can be stored. -/
theorem TransferAnswers.congr {uid : UserId} {currency : Currency} {username : String}
    {amount : Money} (hbalance : defaultBalance env s'.ledger (.user uid) currency none =
      defaultBalance env s.ledger (.user uid) currency none)
    (hsame : SameTx env s s') (hsummary : SummaryStored env s' ↔ SummaryStored env s) :
    TransferAnswers env s' uid currency username amount ↔
      TransferAnswers env s uid currency username amount := by
  unfold TransferAnswers
  rw [hbalance, hsame 0 0, hsummary]

/-- The owner of an invoice is paid as a user is. -/
theorem payOwner_answers {msg : PaymentRequest} {invoice : Invoice} {owner : Int} {amount : Money}
    (hamount : msg.amount = some amount) (hknown : s.ledger.hasUser msg.uid = true) :
    Ensures (payOwner cfg env msg invoice owner) s fun _ s' =>
      HandedOnIff (∀ user, env.finds .ownerUser (env.directory.userById owner) = some user →
        TransferAnswers env s msg.uid msg.currency user.username amount) msg.reqId s s' := by
  unfold payOwner
  split
  next user huser =>
    have hiff : TransferAnswers env s msg.uid msg.currency user.username amount ↔
        ∀ user, env.finds .ownerUser (env.directory.userById owner) = some user →
          TransferAnswers env s msg.uid msg.currency user.username amount := by
      constructor
      · intro h user' huser'
        rw [← Option.some.inj (huser.symm.trans huser')]
        exact h
      · intro h
        exact h user huser
    refine Ensures.bind (makeInternalTx_answers rfl hamount hknown) fun result s₁ h => ?_
    have h := HandedOnIff.congr h hiff
    split
    next =>
      refine (Silent.updateInvoice _ s₁).bind fun _ s₂ h₂ => ?_
      exact (Silent.publishIfZapNote _ _ _ _ _ s₂).mono fun _ s' h' => h.after (h₂.trans h')
    next => exact h
  next hnone =>
    exact HandedOnIff.respond _ _ rfl fun user huser => absurd huser (hnone user)

/-- A row is returned exactly if it is findable, with its owner. -/
theorem findOrInsertInvoice_found (msg : PaymentRequest) (pr : String) (decoded : Bolt11)
    (millisats : Nat) :
    Ensures (findOrInsertInvoice env msg pr decoded millisats) s fun found _ =>
      (found = none → ¬Findable env s pr decoded) ∧
      ∀ i, found = some i → Findable env s pr decoded ∧ i.owner = storedOwner env s pr := by
  refine Ensures.bind (R := fun found s' => s' = s ∧
    found = env.finds .invoiceGet (s.db.invoiceByPaymentRequest pr)) ⟨rfl, rfl⟩ fun found s' h => ?_
  obtain ⟨rfl, hfound⟩ := h
  unfold Findable storedOwner
  rw [← hfound]
  cases found with
  | some invoice =>
    refine Ensures.ret ⟨fun h => absurd h (by simp), fun i hi => ⟨.inl rfl, ?_⟩⟩
    rw [← Option.some.inj hi]
    rfl
  | none =>
    refine (insertInvoice_spec _).bind fun stored s₁ h => ?_
    obtain ⟨-, -, -, hstored, -⟩ := h
    cases stored with
    | true =>
      refine Ensures.ret ⟨fun h => absurd h (by simp), fun i hi => ⟨.inr (hstored.mp rfl), ?_⟩⟩
      rw [if_pos rfl] at hi
      injection hi with hi
      rw [← hi]
      rfl
    | false =>
      refine Ensures.ret ⟨fun _ h => ?_, fun i hi => absurd hi (by simp)⟩
      rcases h with h | h
      · exact absurd h (by simp)
      · exact absurd (hstored.mpr h) (by simp)

/-- A payment with a price: the condition of the way it goes. -/
theorem payPriced_answers {msg₀ msg : PaymentRequest} {pr : String} {decoded : Bolt11}
    {millisats : UInt64} {outbound : Account} {s₀ : State} (outboundName inboundName : String)
    (ha : Unspoken cfg env msg₀ s₀ s outbound)
    (huid : msg.uid = msg₀.uid) (hreqId : msg.reqId = msg₀.reqId)
    (hcur : msg.currency = msg₀.currency) (hpr : msg₀.paymentRequest = some pr)
    (hdec : cfg.parseInvoice pr = some decoded)
    (hmil : decoded.amountMilliSatoshis = some millisats) (hrate : msg.rate = payRate msg₀) :
    Ensures (payPriced cfg env msg pr decoded millisats outbound outboundName inboundName) s
      fun _ s' => HandedOnIff (LightningAnswers cfg env s₀ msg₀) msg₀.reqId s₀ s' := by
  unfold payPriced
  dsimp only
  refine Ensures.lift_bind fun rate hr => ?_
  have hrate : payRate msg₀ = some rate := by
    rw [← hrate]
    exact Checked.unwrap_eq_ok.mp hr
  refine Ensures.lift_bind fun exchanged hex => Ensures.lift_bind fun amount ham => ?_
  have hex : (Money.fromSats (invoiceSats millisats)).exchange rate = .ok (.ok amount) := by
    rw [hex, Checked.unwrapOk_eq_ok.mp ham]
  refine Ensures.mono (R := fun _ s' => HandedOnIff
    (PricedAnswers cfg env s₀ msg₀ pr decoded millisats rate amount) msg₀.reqId s₀ s') ?_
    fun _ _ h => h.congr (LightningAnswers.iff hpr hdec hmil hrate hex)
  refine ((findOrInsertInvoice_spec _ _ _ _).and ((findOrInsertInvoice_found _ _ _ _).and
    (Silent.findOrInsertInvoice _ _ _ _ s))).bind fun found s₁ h => ?_
  obtain ⟨⟨h₁, hl, hsame, hsome, -⟩, ⟨hnone, hfound⟩, hsilent⟩ := h
  have hb := ha.booked.opened h₁
  have hsame := ha.sameTx.trans hsame
  have hsilent := ha.silent.trans hsilent
  -- the tables are those of the message
  have hpayable : Payable env s pr decoded ↔ Payable env s₀ pr decoded := by
    unfold Payable
    rw [ha.db]
  have hfindable : Findable env s pr decoded ↔ Findable env s₀ pr decoded := by
    unfold Findable
    rw [ha.db]
  have howners : storedOwner env s pr = storedOwner env s₀ pr := by
    unfold storedOwner
    rw [ha.db]
  cases found with
  | none => exact .inr ⟨fun h => hnone rfl (hfindable.mpr h.1), hsilent⟩
  | some invoice =>
    obtain ⟨-, hsettled⟩ := hsome invoice rfl
    obtain ⟨hfound, howner⟩ := hfound invoice rfl
    rw [hpayable] at hsettled
    rw [hfindable] at hfound
    rw [howners] at howner
    dsimp only
    refine Ensures.ite (fun hself => ?_) fun hself => ?_
    · refine HandedOnIff.respond _ _ hreqId ⟨hfound, fun _ _ _ _ hother => ?_⟩
      rw [howner, huid] at hself
      exact absurd hself hother
    refine Ensures.ite (fun hpaid => ?_) fun hopen => ?_
    · refine HandedOnIff.respond _ _ hreqId ⟨hfound, fun _ _ _ hpay => ?_⟩
      rw [hsettled.mpr hpay] at hpaid
      exact absurd hpaid (by simp)
    refine Ensures.lift_bind fun price hprice => ?_
    obtain ⟨fee, total, debit⟩ := price
    have hunique {fee' total' debit' : Money} (h : priceOutgoing cfg env pr
        (Money.fromSats (invoiceSats millisats)) rate = .ok (fee', total', debit')) :
        total' = total ∧ debit' = debit := by
      have := hprice.symm.trans h
      simp only [Except.ok.injEq, Prod.mk.injEq] at this
      exact ⟨this.2.1.symm, this.2.2.symm⟩
    dsimp only
    refine Ensures.ite (fun hlow => ?_) fun hcov => ?_
    · refine HandedOnIff.respond _ _ hreqId ⟨hfound, fun _ _ debit' _ _ hprice' hcov => ?_⟩
      rw [(hunique hprice').2, ← ha.balance] at hcov
      exact absurd hlow (not_lt.mpr hcov)
    have hopen : invoice.settled = false := by simpa using hopen
    have hcov : debit.value ≤ outbound.balance := not_lt.mp hcov
    have hiff : PayeeAnswers env s₀ msg₀ pr amount total debit ↔
        PricedAnswers cfg env s₀ msg₀ pr decoded millisats rate amount := by
      constructor
      · intro h
        refine ⟨hfound, fun fee' total' debit' _ _ hprice' _ => ?_⟩
        obtain ⟨rfl, rfl⟩ := hunique hprice'
        exact h
      · intro h
        refine h.2 fee total debit (hsettled.mp hopen) ?_ hprice (by rw [← ha.balance]; exact hcov)
        rw [← howner, ← huid]
        exact hself
    refine Ensures.mono (R := fun _ s' => HandedOnIff
      (PayeeAnswers env s₀ msg₀ pr amount total debit) msg₀.reqId s₁ s') ?_
      fun _ _ h => (h.congr hiff).before hsilent
    unfold PayeeAnswers
    rw [← howner]
    cases invoice.owner with
    | some owner =>
      have hknown : s₁.ledger.hasUser
          ({ msg with amount := some amount } : PaymentRequest).uid = true := by
        show s₁.ledger.hasUser msg.uid = true
        rw [huid]
        exact hb.moves.hasUser ha.known
      have htransfer (username : String) :
          TransferAnswers env s₁ msg.uid msg.currency username amount ↔
            TransferAnswers env s₀ msg₀.uid msg₀.currency username amount := by
        rw [huid, hcur]
        refine TransferAnswers.congr ?_ hsame hb.summaryStored_iff
        rw [hl, ha.again, ha.balance]
      refine (payOwner_answers rfl hknown).mono fun _ s' h => ?_
      have h : HandedOnIff _ msg.reqId s₁ s' := h
      rw [hreqId] at h
      refine h.congr ⟨fun h => ⟨fun hno => absurd hno (by simp), ?_⟩, fun h user huser => ?_⟩
      · intro owner' user howner' huser
        obtain rfl := Option.some.inj howner'
        exact (htransfer user.username).mp (h user huser)
      · exact (htransfer user.username).mpr (h.2 owner user rfl huser)
    | none =>
      generalize hp : (Outgoing.mk _ _ _ _ _ _ _ _ _ _ _) = p
      have hmade : OutgoingFor cfg env msg₀ decoded millisats p := by
        subst hp
        exact ⟨huid, hreqId, hcur, hpr, hdec, hmil, rfl, hrate, ⟨amount, hex⟩, hprice⟩
      have hid : p.response.reqId = p.msg.reqId := by subst hp; rfl
      have hdebit : p.debit = debit := by subst hp; rfl
      have htotal : p.totalInBtc = total := by subst hp; rfl
      have hheld : s₁.ledger.get (.user p.msg.uid, outbound.accountId) = some outbound := by
        rw [hmade.uid]
        exact h₁.keeps ha.held
      have hanswers : DebitAnswers env s₁ p.msg.currency p.totalInBtc p.debit ↔
          DebitAnswers env s₀ msg₀.currency total debit := by
        unfold DebitAnswers DebitStored
        rw [hdebit, htotal, hmade.currency, hsame 0 0, hsame 1 1, hb.summaryStored_iff]
      refine (payExternally_answers hid hmade.total_eq hheld
        (by rw [hmade.currency]; exact ha.currency)).mono fun _ s' h => ?_
      rw [hmade.reqId] at h
      refine h.congr ⟨fun h => ⟨fun _ => hanswers.mp h, ?_⟩, fun h => hanswers.mpr (h.1 rfl)⟩
      intro owner user howner'
      exact absurd howner' (by simp)

/-- Before it has a price: refused aloud, or passed on to the dealer. -/
theorem payLightning_answers {msg : PaymentRequest} {outbound : Account} {s₀ : State}
    (outboundName inboundName : String) (ha : Unspoken cfg env msg s₀ s outbound) :
    Ensures (payLightning cfg env msg outbound outboundName inboundName) s
      fun _ s' => HandedOnIff (LightningAnswers cfg env s₀ msg) msg.reqId s₀ s' := by
  unfold payLightning
  split
  next pr hpr =>
    -- what a request with an invoice has to show after it is priced
    have hanswers (h : ∀ decoded millisats rate, cfg.parseInvoice pr = some decoded →
        decoded.amountMilliSatoshis = some millisats → payRate msg = some rate → False) :
        LightningAnswers cfg env s₀ msg := by
      refine ⟨by simp [hpr], fun pr' decoded millisats rate amount hpr' hdec hmil hrate _ => ?_⟩
      obtain rfl := Option.some.inj (hpr.symm.trans hpr')
      exact absurd hrate (h decoded millisats rate hdec hmil)
    split
    next decoded hdec =>
      split
      next millisats hmil =>
        dsimp only
        refine Ensures.ite (fun hquote => ?_) fun hquote => ?_
        · obtain ⟨hfiat, hno⟩ : msg.currency ≠ .BTC ∧ msg.rate.isNone = true := hquote
          refine .inl ⟨hanswers fun _ _ rate _ _ hrate => ?_, ?_⟩
          · unfold payRate at hrate
            rw [if_neg hfiat] at hrate
            rw [hrate] at hno
            exact absurd hno (by simp)
          · exact .asked (withInvoiceAmount msg (Money.fromSats (invoiceSats millisats))) rfl
              (List.mem_append_right _ (List.mem_singleton.mpr rfl))
        · rw [withInvoiceAmount_currency]
          by_cases hbtc : msg.currency = .BTC
          · rw [if_pos hbtc]
            exact payPriced_answers _ _ ha rfl rfl rfl hpr hdec hmil
              (by unfold payRate; rw [if_pos hbtc])
          · rw [if_neg hbtc]
            exact payPriced_answers _ _ ha rfl rfl rfl hpr hdec hmil
              (by unfold payRate; rw [if_neg hbtc]; rfl)
      next hno =>
        refine HandedOnIff.respond _ _ rfl (hanswers fun decoded' millisats _ hdec' hmil _ => ?_)
        obtain rfl := Option.some.inj (hdec.symm.trans hdec')
        exact hno millisats hmil
    next hno =>
      refine HandedOnIff.respond _ _ rfl (hanswers fun decoded _ _ hdec _ _ => ?_)
      exact hno decoded hdec
  next hno =>
    refine .inr ⟨fun h => ?_, ha.silent⟩
    obtain ⟨pr, hpr⟩ := Option.ne_none_iff_exists'.mp h.1
    exact hno pr hpr

/-! ## A payment request -/

/-- The request passes the first checks; whoever fails one of them is told. -/
structure PastChecks (cfg : Config) (env : Env) (s : State) (msg : PaymentRequest) : Prop where
  admitted : (checkRateLimit cfg.withdrawalRequestRateLimiterSettings env.instant
    s.withdrawalRequestRateLimiter msg.uid).1 = true
  known : s.ledger.hasUser msg.uid = true
  amount : ∀ a, msg.amount = some a → 0 < a.value
  conn : env.db .conn = true

/-- Where the request goes, no silent exit is reached. -/
def RouteAnswers (cfg : Config) (env : Env) (s : State) (msg : PaymentRequest) : Recipient → Prop
  | .user username => env.db .internalTxConn = true ∧ ∀ amount, msg.amount = some amount →
      TransferAnswers env s msg.uid msg.currency username amount
  | .invoice _ => LightningAnswers cfg env s msg

/-- A payment request reaches no silent exit: once past the checks, its user has a row,
and where it goes it reaches none. -/
def RequestAnswers (cfg : Config) (env : Env) (s : State) (msg : PaymentRequest) : Prop :=
  PastChecks cfg env s msg →
    env.finds .outboundUser (env.directory.userById (asI32 msg.uid)) ≠ none ∧
      RouteAnswers cfg env s msg (routeRecipient cfg env msg)

/-- What was sent before does not matter. -/
theorem RequestAnswers.sent_iff {msg : PaymentRequest} (sent : List (Message × ServiceIdentity)) :
    RequestAnswers cfg env { s with sent } msg ↔ RequestAnswers cfg env s msg := by
  have hpast : PastChecks cfg env { s with sent } msg ↔ PastChecks cfg env s msg :=
    ⟨fun h => ⟨h.admitted, h.known, h.amount, h.conn⟩,
      fun h => ⟨h.admitted, h.known, h.amount, h.conn⟩⟩
  exact imp_congr hpast Iff.rfl

/-- A transfer that names no amount is silent without a connection, and panics with one. -/
theorem makeInternalTx_of_none {req : PaymentRequest} (h : req.amount = none) :
    Ensures (makeInternalTx cfg env req) s fun _ s' => ¬env.db .internalTxConn ∧ s' = s := by
  unfold makeInternalTx
  refine Ensures.ite (fun hno => ⟨by simpa using hno, rfl⟩) fun _ => ?_
  split
  next =>
    refine Ensures.lift_bind fun amount hamount => ?_
    rw [Checked.unwrap_eq_ok, h] at hamount
    exact absurd hamount (by simp)
  next => exact Ensures.panic _

/-- Every payment request is handed on exactly if its condition holds. -/
theorem paymentRequest_answers (msg : PaymentRequest) :
    Ensures (paymentRequest cfg env msg) s fun _ s' =>
      HandedOnIff (RequestAnswers cfg env s msg) msg.reqId s s' := by
  unfold paymentRequest
  have hcheck : Ensures (checkWithdrawalRequestRateLimit cfg env msg.uid) s fun _ s' =>
      Silent s s' := ⟨rfl, fun _ h => h, fun _ h => .inl h⟩
  refine ((checkWithdrawalRequestRateLimit_spec _).and hcheck).bind fun admitted s₁ h => ?_
  obtain ⟨⟨h₁, hl, hdb, hsame, hadmitted⟩, hsilent₁⟩ := h
  refine Ensures.ite (fun hno => ?_) fun hyes => ?_
  · refine HandedOnIff.respond _ _ rfl fun h => ?_
    rw [hadmitted, h.admitted] at hno
    exact absurd hno (by simp)
  have hadmitted : (checkRateLimit cfg.withdrawalRequestRateLimiterSettings env.instant
      s.withdrawalRequestRateLimiter msg.uid).1 = true := by
    rw [← hadmitted]
    simpa using hyes
  refine Ensures.get_bind ?_
  rw [hl]
  refine Ensures.ite (fun hno => ?_) fun hknown => ?_
  · refine HandedOnIff.respond _ _ rfl fun h => ?_
    rw [h.known] at hno
    exact absurd hno (by simp)
  have hknown : s.ledger.hasUser msg.uid = true := by simpa using hknown
  refine ((getDefaultAccount_spec _ _ _).and ((getDefaultAccount_balance _ _ _).and
    ((getDefaultAccount_chosen _ _ _).and (Silent.getDefaultAccount _ _ _ s₁)))).bind
      fun outbound s₂ h => ?_
  obtain ⟨⟨h₂, hout, houtc, -, hsame₂⟩, ⟨hbalance, hdb₂⟩, ⟨rest, hchosen⟩, hsilent₂⟩ := h
  have hagain : defaultBalance env s₂.ledger (.user msg.uid) msg.currency none =
      outbound.balance := by
    unfold defaultBalance
    rw [hchosen]
  have hb := h₁.opened h₂
  have hsame := hsame.trans hsame₂
  have hsilent := hsilent₁.trans hsilent₂
  rw [hl] at hbalance
  refine Ensures.ite (fun hnegative => ?_) fun hpositive => ?_
  · refine HandedOnIff.respond _ _ rfl fun h => ?_
    obtain ⟨a, ha, hle⟩ := (Option.any_eq_true _ _).mp hnegative
    exact absurd (h.amount a ha) (not_lt.mpr (of_decide_eq_true hle))
  have hpositive : ∀ a, msg.amount = some a → 0 < a.value := by
    intro a ha
    by_contra hle
    apply hpositive
    rw [ha]
    exact decide_eq_true (not_lt.mp hle)
  refine Ensures.ite (fun hno => ?_) fun hconn => ?_
  · refine HandedOnIff.respond _ _ rfl fun h => ?_
    rw [h.conn] at hno
    exact absurd hno (by simp)
  have hconn : env.db .conn = true := by simpa using hconn
  have hpast : PastChecks cfg env s msg := ⟨hadmitted, hknown, hpositive, hconn⟩
  split
  next payer hpayer =>
    -- from here on only the route decides
    refine Ensures.mono (R := fun _ s' => HandedOnIff
      (RouteAnswers cfg env s msg (routeRecipient cfg env msg)) msg.reqId s s') ?_ fun _ _ h =>
        h.congr ⟨fun h _ => ⟨fun hnone => ?_, h⟩, fun h => (h hpast).2⟩
    · split
      next username hroute =>
        rw [hroute]
        have htransfer (amount : Money) :
            TransferAnswers env s₂ msg.uid msg.currency username amount ↔
              TransferAnswers env s msg.uid msg.currency username amount :=
          TransferAnswers.congr (hagain.trans hbalance) hsame hb.summaryStored_iff
        rcases Option.eq_none_or_eq_some msg.amount with hamount | ⟨amount, hamount⟩
        · refine Ensures.bind (makeInternalTx_of_none hamount) fun _ s₃ h => ?_
          obtain ⟨hno, rfl⟩ := h
          exact Ensures.ret (.inr ⟨fun h => hno h.1, hsilent⟩)
        · have hknown₂ := hb.moves.hasUser hknown
          refine Ensures.bind (makeInternalTx_answers rfl hamount hknown₂) fun _ s₃ h => ?_
          refine Ensures.ret ((HandedOnIff.congr h ?_).before hsilent)
          refine (htransfer amount).trans ⟨fun h => ⟨h.1, fun a ha => ?_⟩, fun h => h.2 _ hamount⟩
          rw [← Option.some.inj (hamount.symm.trans ha)]
          exact h
      next inboundName hroute =>
        rw [hroute]
        have hrow : env.db .outboundUser = true ∧
            (env.directory.userById (asI32 msg.uid)).isSome = true := by
          split at hpayer
          next hflag => exact ⟨hflag, by rw [hpayer]; rfl⟩
          next => exact absurd hpayer (by simp)
        exact payLightning_answers _ _ ⟨⟨hb, hdb₂.trans hdb, hsame, hout, houtc, hbalance,
          hadmitted, hknown, hpositive, hconn, hrow⟩, hsilent, hagain⟩
    · exact absurd (hpayer.symm.trans hnone) (by simp)
  next hno =>
    refine .inr ⟨fun h => ?_, hsilent⟩
    obtain ⟨payer, hpayer⟩ := Option.ne_none_iff_exists'.mp (h hpast).1
    exact hno payer hpayer

/-! ## The result of a payment -/

/-- A payment that went through is answered: what is left of its fee is moved, and its
invoice is found. -/
def SettlementAnswers (env : Env) (s : State) (res : PaymentResult) : Prop :=
  ∀ paid fees, res.paymentResponse.amount = some paid → res.paymentResponse.fees = some fees →
    (0 < res.amount.value - (paid.value + fees.value) →
      0 < (Money.new .BTC (res.amount.value - (paid.value + fees.value))).value ∧
        TxStored env s 0 0) ∧
    ∀ pr, res.paymentResponse.paymentRequest = some pr →
      env.finds .invoiceGet (s.db.invoiceByPaymentRequest pr) ≠ none

/-- A payment that failed is answered: its refund is stored. -/
def RefundAnswers (env : Env) (s : State) (res : PaymentResult) : Prop :=
  ∀ refund, res.amount.exchange res.rate = .ok (.ok refund) →
    TxStored env s 0 0 ∧ (res.currency ≠ .BTC → 0 < refund.value ∧ TxStored env s 1 1) ∧
      SummaryStored env s

/-- The result of a payment is answered: there is a connection, the user is known, and
the payment is settled or refunded. -/
def ResultAnswers (env : Env) (s : State) (res : PaymentResult) : Prop :=
  env.db .conn = true ∧ s.ledger.hasUser res.uid = true ∧
    if res.isSuccess then SettlementAnswers env s res else RefundAnswers env s res

/-- What the node did not charge is moved, if the transaction is stored. -/
theorem moveExcessFees_answers {excess : Decimal} {liabilities dealerBtc : Account}
    (hcurrency : liabilities.currency = dealerBtc.currency) :
    Ensures (moveExcessFees env excess liabilities dealerBtc) s fun moved s' =>
      Silent s s' ∧ s'.db.invoices = s.db.invoices ∧ (moved = true ↔
        (0 < excess → 0 < (Money.new .BTC excess).value ∧ TxStored env s 0 0)) := by
  refine Ensures.ite (fun hle => ?_) fun hpos => ?_
  · exact ⟨.refl s, rfl, fun _ hpos => absurd hpos (not_lt.mpr hle), fun _ => rfl⟩
  have hpos : 0 < excess := not_le.mp hpos
  refine ((makeTx_spec _ _ _ _ _ _).and (Silent.makeTx _ _ _ _ _ _ s)).bind fun tx s₁ h => ?_
  obtain ⟨htx, hsilent⟩ := h
  split
  next txid =>
    obtain ⟨hvalue, -, hst, -, -⟩ := htx.stored txid rfl
    refine ((putAccount_spec _ _).and (Silent.modifyLedger _ s₁)).bind fun _ s₂ h => ?_
    obtain ⟨hput₂, hsilent₂⟩ := h
    refine ((putAccount_spec _ _).and (Silent.modifyLedger _ s₂)).bind fun _ s₃ h => ?_
    obtain ⟨hput₃, hsilent₃⟩ := h
    refine ((updateAccount_spec _ _).and (Silent.updateAccount _ _ s₃)).bind fun _ s₄ h => ?_
    obtain ⟨⟨-, hn₄⟩, hsilent₄⟩ := h
    refine ((updateAccount_spec _ _).and (Silent.updateAccount _ _ s₄)).bind fun _ s₅ h => ?_
    obtain ⟨⟨-, hn₅⟩, hsilent₅⟩ := h
    have hsilent := hsilent.trans (hsilent₂.trans (hsilent₃.trans (hsilent₄.trans hsilent₅)))
    refine Ensures.ret ⟨hsilent, ?_, fun _ _ => ⟨hvalue, hst⟩, fun _ => rfl⟩
    rw [hn₅.invoices, hn₄.invoices, hput₃, hput₂]
    exact htx.noted.invoices
  next hno =>
    refine ⟨hsilent, htx.noted.invoices, fun h => absurd h (by simp), fun h => ?_⟩
    obtain ⟨hvalue, hst⟩ := h hpos
    obtain ⟨txid, hok⟩ := htx.succeeds hvalue hcurrency hst
    exact absurd (by rw [← hok]) (hno _ _ txid)

/-- A payment that went through is settled, if its invoice is found. -/
theorem settlePayment_answers {res : PaymentResult} {liabilities dealerBtc : Account}
    (hcurrency : liabilities.currency = dealerBtc.currency) :
    Ensures (settlePayment env res liabilities dealerBtc) s fun answered s' =>
      Silent s s' ∧ (answered = true ↔ SettlementAnswers env s res) := by
  unfold settlePayment
  refine Ensures.lift_bind fun paid hpaid => Ensures.lift_bind fun fees hfees => ?_
  have hpaid := Checked.unwrap_eq_ok.mp hpaid
  have hfees := Checked.unwrap_eq_ok.mp hfees
  refine Ensures.lift_bind fun spent hspent => Ensures.lift_bind fun excess hexcess => ?_
  obtain ⟨-, rfl⟩ := Decimal.add_eq_ok.mp hspent
  obtain ⟨-, rfl⟩ := Decimal.sub_eq_ok.mp hexcess
  refine Ensures.ite (fun _ => Ensures.panic _) fun _ => ?_
  refine (moveExcessFees_answers hcurrency).bind fun moved s₁ h => ?_
  obtain ⟨hsilent, hinvoices, hmoved⟩ := h
  refine Ensures.ite (fun hno => ⟨hsilent, fun h => absurd h (by simp), fun h => ?_⟩) fun hyes => ?_
  · rw [hmoved.mpr (h paid fees hpaid hfees).1] at hno
    exact absurd hno (by simp)
  have hmoved := hmoved.mp (by simpa using hyes)
  split
  next pr hpr =>
    -- the invoices are those of the message
    have hrows : env.finds .invoiceGet (s₁.db.invoiceByPaymentRequest pr) =
        env.finds .invoiceGet (s.db.invoiceByPaymentRequest pr) := by
      unfold Db.invoiceByPaymentRequest
      rw [hinvoices]
    refine Ensures.bind (R := fun found s' => s' = s₁ ∧
      found = env.finds .invoiceGet (s.db.invoiceByPaymentRequest pr)) ⟨rfl, hrows⟩
        fun found s' h => ?_
    obtain ⟨rfl, hfound⟩ := h
    cases found with
    | none =>
      refine Ensures.ret ⟨hsilent, fun h => absurd h (by simp), fun h => ?_⟩
      exact absurd hfound.symm ((h paid fees hpaid hfees).2 pr hpr)
    | some invoice =>
      refine Ensures.lift_bind fun sats _ => Ensures.lift_bind fun sats _ => ?_
      refine Ensures.lift_bind fun fees' _ => ?_
      refine (Silent.updateInvoice _ s').bind fun _ s₂ h₂ => ?_
      refine Ensures.ret ⟨hsilent.trans h₂, fun _ paid' fees' hpaid' hfees' => ?_, fun _ => rfl⟩
      obtain rfl := Option.some.inj (hpaid.symm.trans hpaid')
      obtain rfl := Option.some.inj (hfees.symm.trans hfees')
      refine ⟨hmoved, fun pr' hpr' => ?_⟩
      obtain rfl := Option.some.inj (hpr.symm.trans hpr')
      rw [← hfound]
      simp
  next => exact Ensures.panic _

/-- Silent, and no summary was written. -/
structure Unsummarised (s s' : State) : Prop extends Silent s s' where
  summaries : s'.db.summaryTransactions = s.db.summaryTransactions

namespace Unsummarised

/-- Two parts without an answer. -/
instance isTrans : IsTrans State Unsummarised := ⟨fun _ _ _ h h' =>
  ⟨h.toSilent.trans h'.toSilent, h'.summaries.trans h.summaries⟩⟩

/-- One part after the other. -/
theorem trans (h : Unsummarised s s') (h' : Unsummarised s' s'') : Unsummarised s s'' :=
  isTrans.trans _ _ _ h h'

/-- The ledger answers no one. -/
theorem modifyLedger (f : Ledger → Ledger) : Keeps Unsummarised (modifyLedger f) :=
  .write fun _ => ⟨⟨rfl, fun _ h => h, fun _ h => .inl h⟩, rfl⟩

/-- Nor does a copy that is written back. -/
theorem insertIntoLedger (uid : UserId) (a : Account) :
    Keeps Unsummarised (insertIntoLedger uid a) := fun s =>
  ((insertIntoLedger_spec uid a).and (Silent.insertIntoLedger uid a s)).mono
    fun _ _ h => ⟨h.2, by rw [h.1]⟩

/-- Nor does the row it is stored in. -/
theorem updateAccount (a : Account) (uid : UserId) :
    Keeps Unsummarised (updateAccount env a uid) := fun s =>
  ((updateAccount_spec a uid).and (Silent.updateAccount a uid s)).mono
    fun _ _ h => ⟨h.2, h.1.1.summaries⟩

/-- A summary after such writes is stored as it would have been before them. -/
theorem summary {x : SummaryTx} (h : Unsummarised s s') (hpos : 0 < x.amount.value) :
    Ensures (makeSummaryTx env x) s' fun result s'' =>
      Silent s s'' ∧ ((∃ txid, result = .ok txid) ↔ SummaryStored env s) := by
  refine ((makeSummaryTx_spec _).and (Silent.makeSummaryTx _ s')).mono fun result s'' h' => ?_
  obtain ⟨⟨-, hsummary, -⟩, hsilent⟩ := h'
  refine ⟨h.toSilent.trans hsilent, hsummary.trans ?_⟩
  unfold SummaryStored
  rw [h.summaries]
  exact and_iff_right hpos

end Unsummarised

/-- A refund in fiat works if both of its transactions and the summary are stored. -/
theorem refundFiat_answers {res : PaymentResult} {refund : Money} {liabilities inbound : Account}
    (hpos : 0 < res.amount.value) (hlic : liabilities.currency = .BTC)
    (hinc : inbound.currency = res.currency) :
    Ensures (refundFiat env res refund liabilities inbound) s fun answered s' =>
      Silent s s' ∧ (answered = true ↔
        TxStored env s 0 0 ∧ (0 < refund.value ∧ TxStored env s 1 1) ∧ SummaryStored env s) := by
  refine ((getDealerAccount_spec _ _).and (Silent.getDefaultAccount _ _ _ s)).bind
    fun dealerBtc s₁ h => ?_
  obtain ⟨⟨hb₁, -, hdbc, -, hsame₁⟩, hsilent₁⟩ := h
  refine ((getDealerAccount_spec _ _).and (Silent.getDefaultAccount _ _ _ s₁)).bind
    fun dealerFiat s₂ h => ?_
  obtain ⟨⟨hb₂, -, hdfc, -, hsame₂⟩, hsilent₂⟩ := h
  have hsame := hsame₁.trans hsame₂
  have hb := hb₁.opened hb₂
  have hsilent := hsilent₁.trans hsilent₂
  refine ((makeTx_spec _ _ _ _ _ _).and (Silent.makeTx _ _ _ _ _ _ s₂)).bind fun tx s₃ h => ?_
  obtain ⟨htx, hsilent₃⟩ := h
  have hb := hb.opened htx.booked
  have hsilent := hsilent.trans hsilent₃
  split
  next txid =>
    obtain ⟨-, -, hst, -, -⟩ := htx.stored txid rfl
    have hst : TxStored env s 0 0 := (hsame 0 0).mp hst
    -- the second transaction takes the next key
    have hnext : TxStored env s₃ 1 0 ↔ TxStored env s 1 1 :=
      (htx.next txid rfl 1 0).trans (hsame 1 1)
    refine ((makeTx_spec _ _ _ _ _ _).and (Silent.makeTx _ _ _ _ _ _ s₃)).bind fun tx' s₄ h => ?_
    obtain ⟨htx', hsilent₄⟩ := h
    have hb := hb.opened htx'.booked
    have hsilent := hsilent.trans hsilent₄
    split
    next txid' =>
      obtain ⟨hvalue, -, hst', -, -⟩ := htx'.stored txid' rfl
      have hst' : TxStored env s 1 1 := hnext.mp hst'
      refine (Unsummarised.modifyLedger _ s₄).bind fun _ s₅ h₅ => ?_
      refine (Unsummarised.modifyLedger _ s₅).bind fun _ s₆ h₆ => ?_
      refine (Unsummarised.modifyLedger _ s₆).bind fun _ s₇ h₇ => ?_
      refine (Unsummarised.insertIntoLedger _ _ s₇).bind fun _ s₈ h₈ => ?_
      refine (Unsummarised.updateAccount _ _ s₈).bind fun _ s₉ h₉ => ?_
      refine (Unsummarised.updateAccount _ _ s₉).bind fun _ s₁₀ h₁₀ => ?_
      refine (Unsummarised.updateAccount _ _ s₁₀).bind fun _ s₁₁ h₁₁ => ?_
      refine (Unsummarised.updateAccount _ _ s₁₁).bind fun _ s₁₂ h₁₂ => ?_
      have hledger := h₅.trans (h₆.trans (h₇.trans h₈))
      have htable := h₉.trans (h₁₀.trans (h₁₁.trans h₁₂))
      have hwrites : Unsummarised s s₁₂ :=
        Unsummarised.trans ⟨hsilent, hb.summaries⟩ (hledger.trans htable)
      refine Ensures.bind (hwrites.summary (by exact hpos)) fun result s₁₃ h => ?_
      obtain ⟨hsilent, hsummary⟩ := h
      split
      next txid =>
        have hsummary : SummaryStored env s := hsummary.mp ⟨txid, rfl⟩
        exact Ensures.ret ⟨hsilent, fun _ => ⟨hst, ⟨hvalue, hst'⟩, hsummary⟩, fun _ => rfl⟩
      next hno =>
        refine Ensures.ret ⟨hsilent, fun h => absurd h (by simp), fun h => ?_⟩
        obtain ⟨txid, hok⟩ := hsummary.mpr h.2.2
        exact absurd hok (hno txid)
    next hno =>
      refine Ensures.ret ⟨hsilent, fun h => absurd h (by simp), fun h => ?_⟩
      obtain ⟨-, ⟨hvalue, hst'⟩, -⟩ := h
      obtain ⟨txid', hok⟩ := htx'.succeeds hvalue (by rw [hdfc, hinc]) (hnext.mpr hst')
      exact absurd (by rw [← hok]) (hno _ _ txid')
  next hno =>
    refine Ensures.ret ⟨hsilent, fun h => absurd h (by simp), fun h => ?_⟩
    obtain ⟨txid, hok⟩ := htx.succeeds hpos (by rw [hlic, hdbc]) ((hsame 0 0).mpr h.1)
    exact absurd (by rw [← hok]) (hno _ _ txid)

/-- One in bitcoin needs one transaction and the summary. -/
theorem refundBtc_answers {res : PaymentResult} {liabilities inbound : Account}
    (hpos : 0 < res.amount.value) (hcurrency : liabilities.currency = inbound.currency) :
    Ensures (refundBtc env res liabilities inbound) s fun answered s' =>
      Silent s s' ∧ (answered = true ↔ TxStored env s 0 0 ∧ SummaryStored env s) := by
  refine ((makeTx_spec _ _ _ _ _ _).and (Silent.makeTx _ _ _ _ _ _ s)).bind fun tx s₁ h => ?_
  obtain ⟨htx, hsilent⟩ := h
  split
  next txid =>
    obtain ⟨-, -, hst, -, -⟩ := htx.stored txid rfl
    refine (Unsummarised.modifyLedger _ s₁).bind fun _ s₂ h₂ => ?_
    refine (Unsummarised.insertIntoLedger _ _ s₂).bind fun _ s₃ h₃ => ?_
    refine (Unsummarised.updateAccount _ _ s₃).bind fun _ s₄ h₄ => ?_
    refine (Unsummarised.updateAccount _ _ s₄).bind fun _ s₅ h₅ => ?_
    have hwrites : Unsummarised s s₅ :=
      Unsummarised.trans ⟨hsilent, htx.booked.summaries⟩ (h₂.trans (h₃.trans (h₄.trans h₅)))
    refine Ensures.bind (hwrites.summary (by exact hpos)) fun result s₆ h => ?_
    obtain ⟨hsilent, hsummary⟩ := h
    split
    next txid =>
      exact Ensures.ret ⟨hsilent, fun _ => ⟨hst, hsummary.mp ⟨txid, rfl⟩⟩, fun _ => rfl⟩
    next hno =>
      refine Ensures.ret ⟨hsilent, fun h => absurd h (by simp), fun h => ?_⟩
      obtain ⟨txid, hok⟩ := hsummary.mpr h.2
      exact absurd hok (hno txid)
  next hno =>
    refine Ensures.ret ⟨hsilent, fun h => absurd h (by simp), fun h => ?_⟩
    obtain ⟨txid, hok⟩ := htx.succeeds hpos hcurrency h.1
    exact absurd (by rw [← hok]) (hno _ _ txid)

/-- A refund is one of the two. -/
theorem refundPayment_answers {res : PaymentResult} {liabilities inbound : Account}
    (hpos : 0 < res.amount.value) (hlic : liabilities.currency = .BTC)
    (hinc : inbound.currency = res.currency) :
    Ensures (refundPayment env res liabilities inbound) s fun answered s' =>
      Silent s s' ∧ (answered = true ↔ RefundAnswers env s res) := by
  unfold refundPayment
  refine Ensures.lift_bind fun exchanged hex => Ensures.lift_bind fun refund hre => ?_
  have hex : res.amount.exchange res.rate = .ok (.ok refund) := by
    rw [hex, Checked.unwrapOk_eq_ok.mp hre]
  have hiff : RefundAnswers env s res ↔ TxStored env s 0 0 ∧
      (res.currency ≠ .BTC → 0 < refund.value ∧ TxStored env s 1 1) ∧ SummaryStored env s := by
    refine ⟨fun h => h refund hex, fun h refund' hex' => ?_⟩
    obtain rfl : refund = refund' := by
      have := hex.symm.trans hex'
      simpa using this
    exact h
  rw [hiff]
  refine Ensures.ite (fun hfiat => ?_) fun hbtc => ?_
  · refine (refundFiat_answers hpos hlic hinc).mono fun answered s' h => ⟨h.1, h.2.trans ?_⟩
    simp [hfiat]
  · have hbtc : res.currency = .BTC := not_not.mp hbtc
    refine (refundBtc_answers hpos (by rw [hlic, hinc, hbtc])).mono
      fun answered s' h => ⟨h.1, h.2.trans ?_⟩
    simp [hbtc]

/-- An account of the bank makes nobody a user. -/
theorem getLiabilityAccount_users :
    Ensures (getLiabilityAccount env) s fun _ s' =>
      s'.ledger.userAccounts = s.ledger.userAccounts := by
  refine Ensures.get_bind ?_
  split
  next => exact rfl
  next => exact rfl

/-- Every result is answered exactly if its condition holds. -/
theorem paymentResult_answers (res : PaymentResult) :
    Ensures (paymentResult env res) s fun _ s' =>
      HandedOnIff (ResultAnswers env s res) res.paymentResponse.reqId s s' := by
  unfold paymentResult
  refine Ensures.ite (fun _ => Ensures.panic _) fun hpos => ?_
  have hpos : 0 < res.amount.value := not_le.mp hpos
  refine Ensures.ite (fun hno => .inr ⟨fun h => ?_, .refl s⟩) fun hconn => ?_
  · rw [h.1] at hno
    exact absurd hno (by simp)
  have hconn : env.db .conn = true := by simpa using hconn
  refine (getLiabilityAccount_spec.and (getLiabilityAccount_users.and
    ((getDefaultAccount_balance _ _ _).and (Silent.getDefaultAccount _ _ _ s)))).bind
      fun liabilities s₁ h => ?_
  obtain ⟨⟨hb₁, -, hlic, -, hsame₁⟩, husers, ⟨-, hdb₁⟩, hsilent₁⟩ := h
  refine Ensures.get_bind ?_
  have husers : s₁.ledger.hasUser res.uid = s.ledger.hasUser res.uid := by
    unfold Ledger.hasUser
    rw [husers]
  rw [husers]
  refine Ensures.ite (fun hno => .inr ⟨fun h => ?_, hsilent₁⟩) fun hknown => ?_
  · rw [h.2.1] at hno
    exact absurd hno (by simp)
  have hknown : s.ledger.hasUser res.uid = true := by simpa using hknown
  refine ((getDefaultAccount_spec _ _ _).and ((getDefaultAccount_balance _ _ _).and
    (Silent.getDefaultAccount _ _ _ s₁))).bind fun inbound s₂ h => ?_
  obtain ⟨⟨hb₂, -, hinc, -, hsame₂⟩, ⟨-, hdb₂⟩, hsilent₂⟩ := h
  refine ((getDealerAccount_spec _ _).and ((getDefaultAccount_balance _ _ _).and
    (Silent.getDefaultAccount _ _ _ s₂))).bind fun dealerBtc s₃ h => ?_
  obtain ⟨⟨hb₃, -, hdbc, -, hsame₃⟩, ⟨-, hdb₃⟩, hsilent₃⟩ := h
  have hdb : s₃.db = s.db := hdb₃.trans (hdb₂.trans hdb₁)
  have hsame := (hsame₁.trans hsame₂).trans hsame₃
  have hsilent := hsilent₁.trans (hsilent₂.trans hsilent₃)
  refine Ensures.bind (R := fun answered s' => Silent s s' ∧ (answered = true ↔
    if res.isSuccess then SettlementAnswers env s res else RefundAnswers env s res)) ?_
      fun answered s₄ h => ?_
  · refine Ensures.ite (fun hsuccess => ?_) fun hfailed => ?_
    · have hiff : SettlementAnswers env s₃ res ↔ SettlementAnswers env s res := by
        unfold SettlementAnswers
        rw [hsame 0 0, hdb]
      rw [if_pos hsuccess, ← hiff]
      exact (settlePayment_answers (by rw [hlic, hdbc])).mono fun _ _ h => ⟨hsilent.trans h.1, h.2⟩
    · have hiff : RefundAnswers env s₃ res ↔ RefundAnswers env s res := by
        unfold RefundAnswers SummaryStored
        rw [hsame 0 0, hsame 1 1, hdb]
      rw [if_neg hfailed, ← hiff]
      exact (refundPayment_answers hpos hlic hinc).mono fun _ _ h => ⟨hsilent.trans h.1, h.2⟩
  · obtain ⟨hsilent, hanswered⟩ := h
    refine Ensures.ite (fun hno => .inr ⟨fun h => ?_, hsilent⟩) fun hyes => ?_
    · rw [hanswered.mpr h.2.2] at hno
      exact absurd hno (by simp)
    refine (Silent.sendBankState s₄).bind fun _ s₅ _ => ?_
    refine (HandedOn.of_response _ rfl).mono fun _ _ h => .inl ⟨⟨hconn, hknown, ?_⟩, h⟩
    exact hanswered.mp (by simpa using hyes)

end Lndhubx
