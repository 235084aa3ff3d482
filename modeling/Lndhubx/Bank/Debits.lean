import Lndhubx.Bank.Journey
import Lndhubx.Bank.Subjects

/-!
# What takes money from a user

The bank takes money from a user only while it handles a payment request or the
response to a swap of hers (`Conservation`). Here it is shown that the request is used
up when it does: what the handler then sends goes to the API or is about no request
(`IsFinal`), so nothing of the request is left that could take the money once more.
The other way round, a request that goes on to the dealer has taken nothing.

`Delivers.orders_le` puts this into one inequality for every message and every subject:
what is taken, and the orders that are left, are no more than the orders there were.
The result of a payment is no order: it pays nothing but the fees it already holds.
-/

namespace Lndhubx

open Prog BankEngine

variable {cfg : Config} {env : Env} {s s' : State} {σ : Subject}

/-! ## Messages that end a request -/

/-- It goes to the API, or it is about no request. -/
def IsFinal (m : Message × ServiceIdentity) : Prop := m.2 = .api ∨ m.1.subjects = []

namespace IsFinal

/-- Nothing comes of a journal entry. -/
theorem journal (tx : JournalTransaction) : IsFinal (.journal tx, .journal) := .inr rfl

/-- Nor of a message to nostr. -/
theorem nostr (msg : Nostr) : IsFinal (.nostr msg, .nostr) := .inr rfl

/-- Nor of an answer to the API. -/
theorem sendApi (msg : Api) : Keeps (Sends IsFinal) (BankEngine.sendApi msg) :=
  Sends.sendApi (.inl rfl)

/-- One answer, and the handler ends. -/
theorem answer {α : Type} (msg : Api) (a : α) :
    Keeps (Sends IsFinal) (do BankEngine.sendApi msg; return a) :=
  (sendApi msg).bind fun _ => .ret a

/-- Nor of the state of the bank. -/
theorem sendBankState : Keeps (Sends IsFinal) sendBankState :=
  (Keeps.read.bind fun _ => (Keeps.lift _).bind fun _ => .ret _).bind fun _ => Sends.send (.inr rfl)

/-- A payment between users ends with its answer. -/
theorem makeInternalTx (req : PaymentRequest) :
    Keeps (Sends IsFinal) (makeInternalTx cfg env req) := by
  refine .ite (.ret _) ?_
  split
  next =>
    refine (Keeps.lift _).bind fun amount => ?_
    dsimp only
    split
    next =>
      split
      next =>
        refine .ite (.ret _) (Keeps.read.bind fun s => .ite (.ret _) ?_)
        refine (Sends.getDefaultAccount _ _ _).bind fun outbound => ?_
        refine (Sends.getOrOpenAccount _ _ _).bind fun inbound => .ite (answer _ _) ?_
        refine (Sends.makeTx _ _ _ _ _ _).bind fun tx => ?_
        split
        next =>
          refine (Sends.makeSummaryTx journal _).bind fun r => ?_
          split
          next =>
            refine (Sends.insertIntoLedger _ _).bind fun _ => ?_
            refine (Sends.insertIntoLedger _ _).bind fun _ => ?_
            refine (Sends.updateAccount _ _).bind fun _ => ?_
            exact (Sends.updateAccount _ _).bind fun _ => answer _ _
          next => exact .ret _
        next => exact .ret _
      next => exact answer _ _
    next => exact answer _ _
  next => exact .panic _

/-- A debit is summed up in the journal. -/
theorem debitFiat (p : Outgoing) (outbound liability : Account) :
    Keeps (Sends IsFinal) (debitFiat env p outbound liability) := by
  refine (Sends.getDefaultAccount _ _ _).bind fun dealerFiat => ?_
  refine (Sends.makeTx _ _ _ _ _ _).bind fun tx => ?_
  split
  next =>
    refine (Sends.getDefaultAccount _ _ _).bind fun dealerBtc => ?_
    refine (Sends.makeTx _ _ _ _ _ _).bind fun tx' => ?_
    split
    next =>
      refine (Sends.insertIntoLedger _ _).bind fun _ => ?_
      refine Keeps.bind (Sends.modifyLedger _) fun _ => ?_
      refine Keeps.bind (Sends.modifyLedger _) fun _ => ?_
      refine Keeps.bind (Sends.modifyLedger _) fun _ => ?_
      refine (Sends.updateAccount _ _).bind fun _ => (Sends.updateAccount _ _).bind fun _ => ?_
      refine (Sends.updateAccount _ _).bind fun _ => (Sends.updateAccount _ _).bind fun _ => ?_
      refine (Sends.makeSummaryTx journal _).bind fun r => ?_
      split
      next => exact .ret _
      next => exact .ret _
    next => exact .ret _
  next => exact .ret _

/-- So is one in bitcoin. -/
theorem debitBtc (p : Outgoing) (outbound liability : Account) :
    Keeps (Sends IsFinal) (debitBtc env p outbound liability) := by
  refine (Sends.makeTx _ _ _ _ _ _).bind fun tx => ?_
  split
  next =>
    refine Keeps.bind (Sends.modifyLedger _) fun _ => (Sends.insertIntoLedger _ _).bind fun _ => ?_
    refine (Sends.updateAccount _ _).bind fun _ => (Sends.updateAccount _ _).bind fun _ => ?_
    refine (Sends.makeSummaryTx journal _).bind fun r => ?_
    split
    next => exact .ret _
    next => exact .ret _
  next => exact answer _ _

/-- A payment over the node goes on as a task, not as a message. -/
theorem payExternally (p : Outgoing) (outbound : Account) :
    Keeps (Sends IsFinal) (payExternally env p outbound) := by
  have hspawn : Keeps (Sends IsFinal) (spawnPayment p) :=
    (Keeps.lift _).bind fun _ => (Keeps.lift _).bind fun _ => .write fun _ => Sends.of_eq rfl rfl
  refine (Sends.getDefaultAccount _ _ _).bind fun liability => ?_
  refine Keeps.bind (.ite (debitFiat _ _ _) (debitBtc _ _ _)) fun debited => ?_
  exact .ite hspawn (.ret _)

/-- The owner of an invoice is paid as a user is. -/
theorem payOwner (req : PaymentRequest) (invoice : Invoice) (owner : Int) :
    Keeps (Sends IsFinal) (payOwner cfg env req invoice owner) := by
  unfold BankEngine.payOwner
  split
  next =>
    refine (makeInternalTx _).bind fun r => ?_
    split
    next => exact (Sends.updateInvoice _).bind fun _ => Sends.publishIfZapNote nostr _ _ _ _ _
    next => exact .ret _
  next => exact answer _ _

/-- The invoice to be paid is looked up or stored. -/
theorem findOrInsertInvoice (req : PaymentRequest) (pr : String) (decoded : Bolt11)
    (millisats : Nat) :
    Keeps (Sends IsFinal) (findOrInsertInvoice env req pr decoded millisats) := by
  refine (Sends.findInvoice _ _).bind fun found => ?_
  split
  next => exact .ret _
  next => exact (Sends.insertInvoice _).bind fun _ => .ret _

/-- A payment with a price asks for nothing more. -/
theorem payPriced (req : PaymentRequest) (pr : String) (decoded : Bolt11) (millisats : UInt64)
    (outbound : Account) (outboundUsername inboundUsername : String) :
    Keeps (Sends IsFinal)
      (payPriced cfg env req pr decoded millisats outbound outboundUsername inboundUsername) := by
  refine (Keeps.lift _).bind fun rate => (Keeps.lift _).bind fun exchanged => ?_
  refine (Keeps.lift _).bind fun amount => (findOrInsertInvoice _ _ _ _).bind fun found => ?_
  split
  next invoice =>
    refine .ite (answer _ _) (.ite (answer _ _) ((Keeps.lift _).bind fun priced => ?_))
    refine .ite (answer _ _) ?_
    split
    next => exact payExternally _ _
    next => exact payOwner _ _ _
  next => exact .ret _

/-- What the node did not charge is booked. -/
theorem moveExcessFees (excess : Decimal) (liabilities dealerBtc : Account) :
    Keeps (Sends IsFinal) (moveExcessFees env excess liabilities dealerBtc) := by
  refine .ite (.ret _) ((Sends.makeTx _ _ _ _ _ _).bind fun tx => ?_)
  split
  next =>
    refine Keeps.bind (Sends.modifyLedger _) fun _ => Keeps.bind (Sends.modifyLedger _) fun _ => ?_
    exact (Sends.updateAccount _ _).bind fun _ => (Sends.updateAccount _ _).bind fun _ => .ret _
  next => exact .ret _

/-- So is a payment that went through. -/
theorem settlePayment (res : PaymentResult) (liabilities dealerBtc : Account) :
    Keeps (Sends IsFinal) (settlePayment env res liabilities dealerBtc) := by
  refine (Keeps.lift _).bind fun _ => (Keeps.lift _).bind fun _ => (Keeps.lift _).bind fun _ => ?_
  refine (Keeps.lift _).bind fun _ => .ite (.panic _) ((moveExcessFees _ _ _).bind fun _ => ?_)
  refine .ite (.ret _) ?_
  split
  next =>
    refine (Sends.findInvoice _ _).bind fun found => ?_
    split
    next =>
      refine (Keeps.lift _).bind fun _ => (Keeps.lift _).bind fun _ => ?_
      exact (Keeps.lift _).bind fun _ => (Sends.updateInvoice _).bind fun _ => .ret _
    next => exact .ret _
  next => exact .panic _

/-- A refund is summed up in the journal. -/
theorem refundPayment (res : PaymentResult) (liabilities inbound : Account) :
    Keeps (Sends IsFinal) (refundPayment env res liabilities inbound) := by
  refine (Keeps.lift _).bind fun _ => (Keeps.lift _).bind fun _ => .ite ?_ ?_
  · refine (Sends.getDefaultAccount _ _ _).bind fun _ => ?_
    refine (Sends.getDefaultAccount _ _ _).bind fun _ => ?_
    refine (Sends.makeTx _ _ _ _ _ _).bind fun tx => ?_
    split
    next =>
      refine (Sends.makeTx _ _ _ _ _ _).bind fun tx => ?_
      split
      next =>
        refine Keeps.bind (Sends.modifyLedger _) fun _ => ?_
        refine Keeps.bind (Sends.modifyLedger _) fun _ => ?_
        refine Keeps.bind (Sends.modifyLedger _) fun _ => ?_
        refine (Sends.insertIntoLedger _ _).bind fun _ => ?_
        refine (Sends.updateAccount _ _).bind fun _ => (Sends.updateAccount _ _).bind fun _ => ?_
        refine (Sends.updateAccount _ _).bind fun _ => (Sends.updateAccount _ _).bind fun _ => ?_
        refine (Sends.makeSummaryTx journal _).bind fun r => ?_
        split
        next => exact .ret _
        next => exact .ret _
      next => exact .ret _
    next => exact .ret _
  · refine (Sends.makeTx _ _ _ _ _ _).bind fun tx => ?_
    split
    next =>
      refine Keeps.bind (Sends.modifyLedger _) fun _ => ?_
      refine (Sends.insertIntoLedger _ _).bind fun _ => (Sends.updateAccount _ _).bind fun _ => ?_
      refine (Sends.updateAccount _ _).bind fun _ => ?_
      refine (Sends.makeSummaryTx journal _).bind fun r => ?_
      split
      next => exact .ret _
      next => exact .ret _
    next => exact .ret _

/-- A result ends with its answer. -/
theorem paymentResult (res : PaymentResult) :
    Keeps (Sends IsFinal) (paymentResult env res) := by
  refine .ite (.panic _) (.ite (.ret _) ((Sends.getDefaultAccount _ _ _).bind fun _ => ?_))
  refine Keeps.read.bind fun s => .ite (.ret _) ((Sends.getDefaultAccount _ _ _).bind fun _ => ?_)
  refine (Sends.getDefaultAccount _ _ _).bind fun dealerBtc => ?_
  refine Keeps.bind (.ite (settlePayment _ _ _) (refundPayment _ _ _)) fun answered => ?_
  exact .ite (.ret _) (sendBankState.bind fun _ => sendApi _)

/-- So does a swap. -/
theorem swapResponse (msg : SwapResponse) : Keeps (Sends IsFinal) (swapResponse env msg) := by
  refine .ite (answer _ _) (Keeps.read.bind fun s => .ite (answer _ _) ?_)
  dsimp only
  split
  next =>
    refine .ite (answer _ _) ((Sends.getDefaultAccount _ _ _).bind fun _ => ?_)
    refine (Sends.getDefaultAccount _ _ _).bind fun _ => .ite (answer _ _) ?_
    refine (Sends.getDefaultAccount _ _ _).bind fun _ => ?_
    refine (Sends.getDefaultAccount _ _ _).bind fun _ => ?_
    refine .ite (answer _ _) ((Sends.makeTx _ _ _ _ _ _).bind fun tx => ?_)
    split
    next =>
      refine (Keeps.lift _).bind fun _ => (Keeps.lift _).bind fun _ => ?_
      refine (Sends.makeTx _ _ _ _ _ _).bind fun tx => ?_
      split
      next =>
        refine (Sends.insertIntoLedger _ _).bind fun _ => ?_
        refine (Sends.insertIntoLedger _ _).bind fun _ => ?_
        refine Keeps.bind (Sends.modifyLedger _) fun _ => ?_
        refine Keeps.bind (Sends.modifyLedger _) fun _ => ?_
        refine (Sends.updateAccount _ _).bind fun _ => (Sends.updateAccount _ _).bind fun _ => ?_
        refine (Sends.updateAccount _ _).bind fun _ => (Sends.updateAccount _ _).bind fun _ => ?_
        refine (sendApi _).bind fun _ => sendBankState.bind fun _ => ?_
        exact (Sends.makeSummaryTx journal _).bind fun _ => .ret _
      next => exact answer _ _
    next => exact answer _ _
  next => exact answer _ _

/-- What goes on to the dealer has taken nothing. -/
theorem payLightning (req : PaymentRequest) (outbound : Account)
    (outboundUsername inboundUsername : String) :
    Ensures (payLightning cfg env req outbound outboundUsername inboundUsername) s
      fun _ s' => s'.ledger = s.ledger ∨ Sends IsFinal s s' := by
  have hends {α : Type} {p : Handler α} (h : Keeps (Sends IsFinal) p) :
      Ensures p s fun _ s' => s'.ledger = s.ledger ∨ Sends IsFinal s s' :=
    (h s).mono fun _ _ h => .inr h
  unfold BankEngine.payLightning
  split
  next =>
    split
    next =>
      split
      next =>
        refine Ensures.ite (fun _ => .inl rfl) fun _ => ?_
        exact hends (payPriced _ _ _ _ _ _ _)
      next => exact hends (answer _ _)
    next => exact hends (answer _ _)
  next => exact hends (.ret _)

/-- A payment request either takes nothing or is at its end. -/
theorem paymentRequest (msg : PaymentRequest) :
    Ensures (paymentRequest cfg env msg) s fun _ s' =>
      Moves s.ledger [] s'.ledger ∨ ∀ m ∈ s'.sent, m ∈ s.sent ∨ IsFinal m := by
  have hcheck : Ensures (checkWithdrawalRequestRateLimit cfg env msg.uid) s fun _ s₁ =>
      s₁.ledger = s.ledger ∧ s₁.sent = s.sent := ⟨rfl, rfl⟩
  refine hcheck.bind fun admitted s₁ h => ?_
  obtain ⟨hledger, hsent⟩ := h
  rw [← hledger, ← hsent]
  have hends {α : Type} {p : Handler α} (h : Keeps (Sends IsFinal) p) {s₂ : State}
      (hs : Sends IsFinal s₁ s₂) : Ensures p s₂ fun _ s' =>
        Moves s₁.ledger [] s'.ledger ∨ ∀ m ∈ s'.sent, m ∈ s₁.sent ∨ IsFinal m :=
    (h s₂).mono fun _ _ h => .inr (Sends.isTrans.trans _ _ _ hs h).sent
  have hstart : Sends IsFinal s₁ s₁ := Sends.isRefl.refl s₁
  refine Ensures.ite (fun _ => hends (answer _ _) hstart) fun _ => Ensures.get_bind ?_
  refine Ensures.ite (fun _ => hends (answer _ _) hstart) fun _ => ?_
  refine ((getDefaultAccount_spec _ _ _).and (Sends.getDefaultAccount (P := IsFinal) _ _ _ s₁)).bind
    fun outbound s₂ h => ?_
  obtain ⟨⟨hb, -⟩, hsends⟩ := h
  refine Ensures.ite (fun _ => hends (answer _ _) hsends) fun _ => ?_
  refine Ensures.ite (fun _ => hends (answer _ _) hsends) fun _ => ?_
  split
  next =>
    split
    next => exact hends ((makeInternalTx _).bind fun _ => .ret _) hsends
    next =>
      refine (payLightning _ _ _ _).mono fun _ s' h => ?_
      rcases h with hsame | hfinal
      · -- so far an account may have been opened, which moves nothing
        rw [hsame]
        exact .inl hb.moves
      · exact .inr (Sends.isTrans.trans _ _ _ hsends hfinal).sent
  next => exact hends (.ret _) hsends

end IsFinal

/-! ## Orders -/

/-- How often a message can lead to money being taken for a subject: a result of a payment
cannot. -/
def Message.orders (σ : Subject) : Message → Nat
  | .api m => m.subjects.count σ
  | _ => 0

/-- How many orders about a subject are among the messages. -/
def ordered (σ : Subject) (l : List Message) : Nat := (l.map (Message.orders σ)).sum

@[simp] theorem ordered_nil : ordered σ [] = 0 := rfl

@[simp] theorem ordered_cons (m : Message) (l : List Message) :
    ordered σ (m :: l) = m.orders σ + ordered σ l := by
  unfold ordered
  rw [List.map_cons, List.sum_cons]

@[simp] theorem ordered_append (l l' : List Message) :
    ordered σ (l ++ l') = ordered σ l + ordered σ l' := by
  unfold ordered
  rw [List.map_append, List.sum_append]

/-- An order is about its subject. -/
theorem Message.orders_le_about (m : Message) : m.orders σ ≤ m.about σ := by
  cases m with
  | api m => exact le_refl _
  | _ => exact Nat.zero_le _

/-- So there are no more orders than messages. -/
theorem ordered_le_told (l : List Message) : ordered σ l ≤ told σ l := by
  induction l with
  | nil => exact le_refl 0
  | cons m l ih =>
    have hone := m.orders_le_about (σ := σ)
    rw [ordered_cons, told_cons]
    omega

/-! ## What is taken -/

/-- Is there less on an account of the user than before? -/
def Ledger.takes (L L' : Ledger) (uid : UserId) : Bool :=
  ((L.holder (.user uid)).accounts.keys ++ (L'.holder (.user uid)).accounts.keys).any fun id =>
    decide (L'.balanceAt (.user uid, id) < L.balanceAt (.user uid, id))

/-- Something was taken from a user if a balance of hers is less. -/
theorem Ledger.takes_iff {L L' : Ledger} {uid : UserId} :
    L.takes L' uid = true ↔
      ∃ id, L'.balanceAt (.user uid, id) < L.balanceAt (.user uid, id) := by
  unfold takes
  rw [List.any_eq_true]
  constructor
  · rintro ⟨id, -, hlt⟩
    exact ⟨id, of_decide_eq_true hlt⟩
  · rintro ⟨id, hlt⟩
    refine ⟨id, ?_, decide_eq_true hlt⟩
    -- an account that is in neither ledger has the balance zero in both
    by_contra hno
    obtain ⟨hno, hno'⟩ := not_or.mp (mt List.mem_append.mpr hno)
    have hzero {M : Ledger} (h : id ∉ (M.holder (.user uid)).accounts.keys) :
        M.balanceAt (.user uid, id) = 0 := by
      unfold balanceAt get
      rw [AList.lookup_eq_none.mpr h]
      rfl
    rw [hzero hno, hzero hno'] at hlt
    exact absurd hlt (lt_irrefl 0)

/-- The subjects of a message for whose user money was taken. -/
def taken (s s' : State) (m : Message) : List Subject :=
  m.subjects.filter fun σ => σ.uid.any (s.ledger.takes s'.ledger)

/-- Without a posting nothing is taken. -/
theorem Moves.takes_nil {L L' : Ledger} (h : Moves L [] L') (uid : UserId) :
    L.takes L' uid = false := by
  rw [Bool.eq_false_iff]
  intro htakes
  obtain ⟨id, hlt⟩ := Ledger.takes_iff.mp htakes
  rw [h.balanceAt] at hlt
  simp at hlt

/-- Who loses has asked for it. -/
theorem Delivers.mayDebit {d : Delivery} (h : Delivers cfg s d s') (hno : ¬IsMakeTx d.msg)
    {uid : UserId} (htakes : s.ledger.takes s'.ledger uid = true) : MayDebit d.msg uid := by
  obtain ⟨id, hlt⟩ := Ledger.takes_iff.mp htakes
  obtain ⟨ps, hb⟩ := h.books
  rw [hb.moves.balanceAt] at hlt
  exact (hb.covered hno uid id (by linarith)).1

/-- A payment or a swap of the user's. -/
structure Subject.Spends (σ : Subject) (uid : UserId) : Prop where
  uid : σ.uid = some uid
  topic : σ.topic = .payment ∨ σ.topic = .swap

/-- Who loses, loses it for a payment or a swap of hers. -/
theorem Delivers.exists_taken {d : Delivery} (h : Delivers cfg s d s') (hno : ¬IsMakeTx d.msg)
    {uid : UserId} (htakes : s.ledger.takes s'.ledger uid = true) :
    ∃ σ ∈ taken s s' d.msg, σ.Spends uid := by
  have hmay := h.mayDebit hno htakes
  have hmem {σ : Subject} (hσ : σ ∈ d.msg.subjects) (hspends : σ.Spends uid) :
      ∃ σ ∈ taken s s' d.msg, σ.Spends uid := by
    refine ⟨σ, List.mem_filter.mpr ⟨hσ, ?_⟩, hspends⟩
    rw [hspends.uid]
    exact htakes
  obtain ⟨env, msg⟩ := d
  cases msg with
  | api m =>
    cases m with
    | paymentRequest m => exact hmem List.mem_cons_self ⟨congrArg some hmay, .inl rfl⟩
    | swapResponse m => exact hmem List.mem_cons_self ⟨congrArg some hmay, .inr rfl⟩
    | _ => exact hmay.elim
  | _ => exact hmay.elim

/-- Where nothing is taken nothing is counted. -/
theorem taken_eq_nil {m : Message} (h : ∀ uid, s.ledger.takes s'.ledger uid = false) :
    taken s s' m = [] := by
  unfold taken
  rw [List.filter_eq_nil_iff]
  intro σ _ hany
  obtain ⟨uid, -, htakes⟩ := (Option.any_eq_true _ _).mp hany
  rw [h uid] at htakes
  exact absurd htakes Bool.false_ne_true

/-- A message counts for a debit only of its own subject. -/
theorem count_taken_le (m : Message) : (taken s s' m).count σ ≤ m.about σ :=
  (List.filter_sublist).count_le σ

/-! ## One message -/

/-- What goes to the dealer or back to the bank at the end of a request is about none. -/
theorem told_sentTo_final {destination : ServiceIdentity} (hother : destination ≠ .api)
    (h : ∀ m ∈ s.sent, IsFinal m) : told σ (BankLoop.sentTo destination s) = 0 := by
  rw [told_eq_zero_iff]
  intro m hm
  obtain ⟨⟨m', destination'⟩, hmem, rfl⟩ := List.mem_map.mp hm
  obtain ⟨hsent, hto⟩ := List.mem_filter.mp hmem
  obtain rfl : destination' = destination := of_decide_eq_true hto
  rcases h _ hsent with hapi | hnone
  · exact absurd hapi hother
  · show σ ∉ m'.subjects
    rw [show m'.subjects = [] from hnone]
    exact List.not_mem_nil

/-- What a message leaves in the way of orders: on the way back to the bank, on the way
to the dealer, and stored. -/
def ordersLeft (σ : Subject) (s : State) : Nat :=
  ordered σ (BankLoop.sentTo .loopback s) + told σ (BankLoop.sentTo .dealer s) + s.stored σ

/-- Where only final messages were sent, the orders left are those that are stored. -/
theorem ordersLeft_final (hsent : ∀ m ∈ s'.sent, IsFinal m)
    (hstore : s'.lnurlWithdrawalRequests = s.lnurlWithdrawalRequests) :
    ordersLeft σ s' = s.stored σ := by
  have hloop := ordered_le_told (σ := σ) (BankLoop.sentTo .loopback s')
  rw [told_sentTo_final (by simp) hsent] at hloop
  unfold ordersLeft
  rw [told_sentTo_final (by simp) hsent, Nat.le_zero.mp hloop, State.stored, hstore]
  exact Nat.zero_add _

/-- **Money is taken for an order, and the order is used up.** -/
theorem Delivers.orders_le {d : Delivery} (h : Delivers cfg s d s') :
    (taken s s' d.msg).count σ + ordersLeft σ s' ≤
      d.msg.orders σ + s.stored σ + (drawn d.env d.msg).count σ := by
  -- nothing is taken, and the message is an order as often as it is about the subject
  have hkeeps (hnone : taken s s' d.msg = []) (horders : d.msg.orders σ = d.msg.about σ) :
      (taken s s' d.msg).count σ + ordersLeft σ s' ≤
        d.msg.orders σ + s.stored σ + (drawn d.env d.msg).count σ := by
    have hhand := h.inHand_le (σ := σ)
    have hsent := told_sentTo_le (σ := σ) s'
    have hthreads := congrArg (List.countP (·.subject = σ)) h.threads_append
    have hloop := ordered_le_told (σ := σ) (BankLoop.sentTo .loopback s')
    rw [List.countP_append] at hthreads
    rw [hnone, List.count_nil]
    unfold inHand at hhand
    unfold ordersLeft
    omega
  -- or the request is at its end
  have hends (hsent : ∀ m ∈ s'.sent, IsFinal m)
      (hstore : s'.lnurlWithdrawalRequests = s.lnurlWithdrawalRequests)
      (hle : (taken s s' d.msg).count σ ≤ d.msg.orders σ) :
      (taken s s' d.msg).count σ + ordersLeft σ s' ≤
        d.msg.orders σ + s.stored σ + (drawn d.env d.msg).count σ := by
    rw [ordersLeft_final hsent hstore]
    omega
  have huntouched (hno : ¬IsMakeTx d.msg) (hmay : ∀ uid, ¬MayDebit d.msg uid) :
      taken s s' d.msg = [] := by
    refine taken_eq_nil fun uid => ?_
    rw [Bool.eq_false_iff]
    exact fun htakes => hmay uid (h.mayDebit hno htakes)
  have hkept (hno : ∀ m, d.msg ≠ .api (.createLnurlWithdrawalRequest m))
      (hno' : ∀ m, d.msg ≠ .api (.payLnurlWithdrawalRequest m)) :
      s'.lnurlWithdrawalRequests = s.lnurlWithdrawalRequests := by
    have hout : WithdrawalOutcome d.env { s with sent := [] } s' d.msg := h.outcome.withdrawals rfl
    generalize d.msg = msg at hout hno hno'
    cases hout with
    | kept same _ => exact same
    | created m => exact absurd rfl (hno m)
    | paid m => exact absurd rfl (hno' m)
  obtain ⟨env, msg⟩ := d
  cases msg with
  | api m =>
    cases m with
    | paymentRequest m =>
      have hspec : Ensures (paymentRequest cfg env m) { s with sent := [] } _ :=
        IsFinal.paymentRequest m
      rcases h.ensures hspec with hmoves | hfinal
      · exact hkeeps (taken_eq_nil hmoves.takes_nil) rfl
      · refine hends (fun m hm => ?_) (hkept (by simp) (by simp)) (count_taken_le _)
        exact (hfinal m hm).resolve_left List.not_mem_nil
    | swapResponse m =>
      have hspec : Ensures (swapResponse env m) { s with sent := [] } _ :=
        IsFinal.swapResponse m _
      have hfinal := (h.ensures hspec).sent
      refine hends (fun m hm => ?_) (hkept (by simp) (by simp)) (count_taken_le _)
      exact (hfinal m hm).resolve_left List.not_mem_nil
    | _ => exact hkeeps (huntouched (by simp [IsMakeTx]) (by simp [MayDebit])) rfl
  | bank m =>
    cases m with
    | paymentResult res =>
      have hspec : Ensures (paymentResult env res) { s with sent := [] } _ :=
        IsFinal.paymentResult res _
      have hfinal := (h.ensures hspec).sent
      -- a result is no order, and takes nothing
      refine hends (fun m hm => ?_) (hkept (by simp) (by simp)) ?_
      · exact (hfinal m hm).resolve_left List.not_mem_nil
      · rw [huntouched (by simp [IsMakeTx]) (by simp [MayDebit])]
        exact Nat.zero_le _
    | dcaRebalance m => exact hkeeps (huntouched (by simp [IsMakeTx]) (by simp [MayDebit])) rfl
  | _ => exact hkeeps rfl rfl

end Lndhubx
