import Lndhubx.Bank.Spec

/-!
# What a handler sends

`Sends P` relates two states of a handler if everything sent in between meets `P`
and no withdrawal request was counted. It is walked through the bank's helper
functions here, once for every `P`: most of them send nothing, a summary sends a
journal entry and a settled invoice a message to nostr.
-/

namespace Lndhubx

open Prog BankEngine

/-- Between two states only messages with `P` were sent, and no withdrawal was counted. -/
structure Sends (P : Message × ServiceIdentity → Prop) (s s' : State) : Prop where
  limiter : s'.withdrawalRequestRateLimiter = s.withdrawalRequestRateLimiter
  sent : ∀ m ∈ s'.sent, m ∈ s.sent ∨ P m

namespace Sends

variable {P : Message × ServiceIdentity → Prop} {cfg : Config} {env : Env} {s s' : State}

/-- Nothing sent is nothing wrong. -/
instance isRefl : Std.Refl (Sends P) := ⟨fun _ => ⟨rfl, fun _ h => .inl h⟩⟩

/-- What two parts of a handler send, one after the other. -/
instance isTrans : IsTrans State (Sends P) := ⟨fun _ _ _ h h' =>
  ⟨h'.limiter.trans h.limiter, fun m hm => (h'.sent m hm).elim (h.sent m) .inr⟩⟩

/-- Neither counted nor sent. -/
theorem of_eq (hlimiter : s'.withdrawalRequestRateLimiter = s.withdrawalRequestRateLimiter)
    (hsent : s'.sent = s.sent) : Sends P s s' :=
  ⟨hlimiter, fun _ hm => .inl (hsent ▸ hm)⟩

/-- What is said of the messages may be weakened. -/
theorem mono {P' : Message × ServiceIdentity → Prop} (h : Sends P s s') (hP : ∀ m, P m → P' m) :
    Sends P' s s' := ⟨h.limiter, fun m hm => (h.sent m hm).imp_right (hP m)⟩

/-- The one message that is sent meets the condition. -/
theorem send {msg : Message} {destination : ServiceIdentity} (h : P (msg, destination)) :
    Keeps (Sends P) (BankEngine.send msg destination) := by
  intro s
  refine ⟨rfl, fun m hm => ?_⟩
  rcases List.mem_append.mp hm with hm | hm
  · exact .inl hm
  · rw [List.mem_singleton.mp hm]
    exact .inr h

/-- An answer to the API. -/
theorem sendApi {msg : Api} (h : P (.api msg, .api)) : Keeps (Sends P) (BankEngine.sendApi msg) :=
  send h

/-- A change of the ledger is told to no one. -/
theorem modifyLedger (f : Ledger → Ledger) : Keeps (Sends P) (modifyLedger f) :=
  fun _ => of_eq rfl rfl

/-- Nor is an account that is looked up or opened. -/
theorem getDefaultAccount (o : Owner) (currency : Currency) (t : Option AccountType) :
    Keeps (Sends P) (getDefaultAccount env o currency t) := by
  refine Keeps.read.bind fun s => ?_
  have hhand (a : Account) : Keeps (Sends P) (handOut a) := fun _ => of_eq rfl rfl
  split
  · exact hhand _
  · exact Keeps.bind (modifyLedger _) fun _ => hhand _

/-- Nor the entry it is opened in. -/
theorem getOrOpenAccount (uid : UserId) (currency : Currency) (t : Option AccountType) :
    Keeps (Sends P) (getOrOpenAccount env uid currency t) :=
  Keeps.bind (modifyLedger _) fun _ => getDefaultAccount _ _ _

/-- A transaction goes to the database alone. -/
theorem makeTx (leg : Nat) (outbound : Account) (outboundUid : UserId) (inbound : Account)
    (inboundUid : UserId) (amount : Money) :
    Keeps (Sends P) (makeTx env leg outbound outboundUid inbound inboundUid amount) := by
  have hfail (o i : Account) : Keeps (Sends P) (failTx o i) := fun _ => of_eq rfl rfl
  refine .ite (hfail _ _) (.ite (hfail _ _) (.ite (hfail _ _) ?_))
  refine (Keeps.lift _).bind fun _ => (Keeps.lift _).bind fun _ s => Ensures.get_bind ?_
  dsimp only
  split
  next => exact Ensures.set_bind (of_eq rfl rfl)
  next => exact Ensures.set_bind (of_eq rfl rfl)

/-- A copy that is written back is told to no one. -/
theorem insertIntoLedger (uid : UserId) (a : Account) :
    Keeps (Sends P) (insertIntoLedger uid a) :=
  Keeps.read.bind fun _ => .ite (modifyLedger _) (.panic _)

/-- Nor is the row it is stored in. -/
theorem updateAccount (a : Account) (uid : UserId) : Keeps (Sends P) (updateAccount env a uid) :=
  .ite (.ret _) (.ite (.ret _) (.write fun _ => of_eq rfl rfl))

/-- A summary is sent to the journal. -/
theorem makeSummaryTx (hjournal : ∀ tx, P (.journal tx, .journal)) (x : SummaryTx) :
    Keeps (Sends P) (makeSummaryTx env x) := by
  refine .ite (.ret _) (.ite (.panic _) (.ite (.ret _) ?_))
  refine (Keeps.lift _).bind fun _ => (Keeps.lift _).bind fun _ s => Ensures.get_bind ?_
  dsimp only
  split
  next =>
    refine Ensures.set_bind (((send (hjournal _)).bind fun _ => .ret _) _ |>.mono ?_)
    exact fun _ _ h => ⟨h.limiter, h.sent⟩
  next => exact of_eq rfl rfl

/-- An invoice is read. -/
theorem findInvoice (call : DbCall) (pr : String) : Keeps (Sends P) (findInvoice env call pr) :=
  Keeps.read.bind fun _ => .ret _

/-- An invoice is stored. -/
theorem insertInvoice (i : Invoice) : Keeps (Sends P) (insertInvoice env i) := by
  intro s
  refine Ensures.get_bind ?_
  split
  next => exact Ensures.set_bind (of_eq rfl rfl)
  next => exact of_eq rfl rfl

/-- An invoice is updated. -/
theorem updateInvoice (i : Invoice) : Keeps (Sends P) (updateInvoice env i) := by
  refine .write fun s => ?_
  split
  · exact of_eq rfl rfl
  · exact of_eq rfl rfl

/-- Who is paid is told over nostr. -/
theorem notifyPaid (hnostr : ∀ msg, P (.nostr msg, .nostr)) (uid : Int) (text : Checked PaidText) :
    Keeps (Sends P) (notifyPaid env uid text) := by
  unfold BankEngine.notifyPaid
  split
  next =>
    refine (Keeps.lift _).bind fun _ => .ite ?_ (.ret _)
    split
    next => exact (Keeps.lift _).bind fun _ => send (hnostr _)
    next => exact .ret _
  next => exact .ret _

/-- A zap is handed to nostr. -/
theorem publishIfZapNote (hnostr : ∀ msg, P (.nostr msg, .nostr)) (i : Invoice)
    (hash preimage : Option String) (t : Nat) (internal : Bool) :
    Keeps (Sends P) (publishIfZapNote cfg i hash preimage t internal) := by
  refine .ite ?_ (.ret _)
  split
  next => exact (Keeps.lift _).bind fun _ => send (hnostr _)
  next => exact .ret _

/-- A deposit to the dealer's own account sends nothing at all. -/
theorem handleDealerDeposit (msg : Deposit) : Keeps (Sends P) (handleDealerDeposit env msg) := by
  refine .ite (.ret _) ((Keeps.read.bind fun _ => .ret _).bind fun found => ?_)
  split
  next invoice =>
    split
    next reference _ =>
      refine .ite (.ret _) ((getDefaultAccount _ _ _).bind fun inbound => ?_)
      refine (getDefaultAccount _ _ _).bind fun outbound => (makeTx _ _ _ _ _ _).bind fun tx => ?_
      refine Keeps.bind (modifyLedger _) fun _ => (updateAccount _ _).bind fun _ => ?_
      exact Keeps.bind (modifyLedger _) fun _ => updateAccount _ _
    next => exact .ret _
  next => exact .ret _

/-- A bitcoin deposit sends its journal entry and what it tells nostr. -/
theorem depositBtc (hjournal : ∀ tx, P (.journal tx, .journal))
    (hnostr : ∀ msg, P (.nostr msg, .nostr)) (msg : Deposit) (invoice : Invoice) :
    Keeps (Sends P) (depositBtc cfg env msg invoice) := by
  refine Keeps.bind ((modifyLedger _).bind fun _ => getDefaultAccount _ _ _) fun inbound => ?_
  refine Keeps.bind (getDefaultAccount _ _ _) fun liability => ?_
  refine (makeTx _ _ _ _ _ _).bind fun tx => ?_
  split
  next =>
    refine (insertIntoLedger _ _).bind fun _ => Keeps.bind (modifyLedger _) fun _ => ?_
    refine (updateAccount _ _).bind fun _ => (updateAccount _ _).bind fun _ => ?_
    refine (makeSummaryTx hjournal _).bind fun r => ?_
    split
    next =>
      refine (updateInvoice _).bind fun _ => (notifyPaid hnostr _ _).bind fun _ => ?_
      exact publishIfZapNote hnostr _ _ _ _ _
    next => exact .ret _
  next => exact .ret _

end Sends

end Lndhubx
