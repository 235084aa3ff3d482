import Lndhubx.Bank.Spec

/-!
# What a handler is made of

Two questions about runs are answered by looking at every call of every handler:
which keys does it make for the rows it stores, and does it matter in which order
`get_default_account` walks a map. The handlers are walked through once for both.

`Composed env o Γ n p p'` says that `p` and `p'` are one and the same handler,
`p` in the surroundings `env` and `p'` in the same surroundings but for the order
of the maps, which is `o`, and that it is put together from few kinds of calls:
it looks up a default account by a filter that can have one answer only
(`Single`), makes an entry for a user, writes back a copy of an account that is
known to be in the ledger, replaces the insurance account, makes transactions and
makes at most `n` summaries. Whatever else it does touches neither the ledger nor
the two tables (`Untouched`). `Γ` is the accounts known to be in the ledger: those
it has looked up before.

`processMsg_composed` is the result, for every message.
-/

namespace Lndhubx

open Prog BankEngine

variable {cfg : Config} {env : Env} {s s' : State} {α : Type}

/-! ## Two orders -/

/-- An order in which the accounts of a map may be walked. -/
abbrev Order := { f : List Account → List Account // ∀ l, (f l).Perm l }

/-- The same surroundings, in which the maps are walked in another order. -/
def Env.reorder (env : Env) (o : Order) : Env := { env with order := o.1, order_perm := o.2 }

section reorder

variable (env : Env) (o : Order)

/-- The database answers as it did: only the order of the maps differs. -/
theorem reorder_db : (env.reorder o).db = env.db := rfl

/-- The rows of the users are the same. -/
theorem reorder_directory : (env.reorder o).directory = env.directory := rfl

/-- The clock shows the same. -/
theorem reorder_now : (env.reorder o).now = env.now := rfl

/-- The ids of requests do not depend on the order. -/
theorem reorder_reqUuid : (env.reorder o).reqUuid = env.reqUuid := rfl

/-- Nor does the uuid that is printed as a payment hash. -/
theorem reorder_hashUuid : (env.reorder o).hashUuid = env.hashUuid := rfl

/-- The node answers the same. -/
theorem reorder_lnd : (env.reorder o).lnd = env.lnd := rfl

/-- The limit of the deposit requests reads no map of accounts. -/
theorem checkDepositRequestRateLimit_reorder :
    checkDepositRequestRateLimit cfg (env.reorder o) = checkDepositRequestRateLimit cfg env := rfl

/-- Nor does that of the withdrawal requests. -/
theorem checkWithdrawalRequestRateLimit_reorder :
    checkWithdrawalRequestRateLimit cfg (env.reorder o) =
      checkWithdrawalRequestRateLimit cfg env := rfl

/-- A transaction is between two accounts that are given. -/
theorem makeTx_reorder : makeTx (env.reorder o) = makeTx env := rfl

/-- A summary is of accounts that are given. -/
theorem makeSummaryTx_reorder : makeSummaryTx (env.reorder o) = makeSummaryTx env := rfl

/-- A row of the accounts table is found by its id. -/
theorem updateAccount_reorder : updateAccount (env.reorder o) = updateAccount env := rfl

/-- An invoice is found by its payment request. -/
theorem findInvoice_reorder : findInvoice (env.reorder o) = findInvoice env := rfl

/-- An invoice is stored as it is given. -/
theorem insertInvoice_reorder : insertInvoice (env.reorder o) = insertInvoice env := rfl

/-- An invoice is updated by its hash. -/
theorem updateInvoice_reorder : updateInvoice (env.reorder o) = updateInvoice env := rfl

/-- It is settled as it is given. -/
theorem settleInvoice_reorder : settleInvoice (env.reorder o) = settleInvoice env := rfl

/-- Who is told of a payment is looked up in the table of users. -/
theorem notifyPaid_reorder : notifyPaid (env.reorder o) = notifyPaid env := rfl

/-- The first checks of a payment read the request and the table of users. -/
theorem refused_reorder (msg : PaymentRequest) :
    msg.refused cfg (env.reorder o) = msg.refused cfg env := rfl

/-- The recipient is looked up in the table of users. -/
theorem routeRecipient_reorder :
    routeRecipient cfg (env.reorder o) = routeRecipient cfg env := rfl

/-- Neither finding an invoice nor storing it walks a map. -/
theorem findOrInsertInvoice_reorder :
    findOrInsertInvoice (env.reorder o) = findOrInsertInvoice env := rfl

/-- A price is made of the amount and of what the node answers. -/
theorem priceOutgoing_reorder : priceOutgoing cfg (env.reorder o) = priceOutgoing cfg env := rfl

end reorder

/-! ## The accounts that are known -/

/-- What never changes about an account: its holder, its id, its currency and its
type. -/
abbrev Kind := Owner × AccountId × Currency × AccountType

/-- What stays of an account with a holder, whatever is booked on it. -/
def Account.kind (a : Account) (o : Owner) : Kind := (o, a.accountId, a.currency, a.accountType)

/-- There is an account of this kind in the ledger. -/
def Ledger.Has (L : Ledger) (k : Kind) : Prop :=
  ∃ o a, L.get (o, a.accountId) = some a ∧ a.kind o = k

/-- A filter of `get_default_account` that has one answer at most where the accounts
are as they should be: the type may be left open for a user only, who has internal
accounts only. -/
def Single : Owner → Option AccountType → Prop
  | .user _, t => t ≠ some .external
  | .bank, t => t.isSome
  | .dealer, t => t.isSome

/-- Whichever of two holders is asked, there is one answer. -/
theorem Single.ite {c : Prop} [Decidable c] {o o' : Owner} {t : Option AccountType}
    (h : Single o t) (h' : Single o' t) : Single (if c then o else o') t := by
  split
  · exact h
  · exact h'

/-- Neither the ledger nor the tables of transactions and summaries, nor the keys
made for them. -/
structure Untouched (s s' : State) : Prop where
  ledger : s'.ledger = s.ledger
  transactions : s'.db.transactions = s.db.transactions
  summaries : s'.db.summaryTransactions = s.db.summaryTransactions
  txSeq : s'.txSeq = s.txSeq
  issued : s'.issued = s.issued

namespace Untouched

instance : Std.Refl Untouched := ⟨fun _ => ⟨rfl, rfl, rfl, rfl, rfl⟩⟩

instance : IsTrans State Untouched :=
  ⟨fun _ _ _ h h' => ⟨h'.ledger.trans h.ledger, h'.transactions.trans h.transactions,
    h'.summaries.trans h.summaries, h'.txSeq.trans h.txSeq, h'.issued.trans h.issued⟩⟩

end Untouched

/-- A part of a handler that only does other things. -/
abbrev Untouching (p : Handler α) : Prop := Keeps Untouched p

/-! ## Composition -/

inductive Composed (env : Env) (o : Order) :
    {α : Type} → Set Kind → ℕ → Handler α → Handler α → Prop
  | aside {α : Type} {Γ : Set Kind} {p : Handler α} (h : Untouching p) : Composed env o Γ 0 p p
  | bind {α β : Type} {Γ : Set Kind} {n m : ℕ} {p p' : Handler β} {f f' : β → Handler α}
      (hp : Composed env o Γ n p p') (hf : ∀ b, Composed env o Γ m (f b) (f' b)) :
      Composed env o Γ (n + m) (p >>= f) (p' >>= f')
  | read {α : Type} {Γ : Set Kind} {n : ℕ} {f f' : State → Handler α}
      (hf : ∀ s, Composed env o (Γ ∪ {k | s.ledger.Has k}) n (f s) (f' s)) :
      Composed env o Γ n (get >>= f) (get >>= f')
  | find {α : Type} {Γ : Set Kind} {n : ℕ} {owner : Owner} {c : Currency}
      {t : Option AccountType} {f f' : Account → Handler α} (single : Single owner t)
      (hf : ∀ a, Composed env o (insert (a.kind owner) Γ) n (f a) (f' a)) :
      Composed env o Γ n (getDefaultAccount env owner c t >>= f)
        (getDefaultAccount (env.reorder o) owner c t >>= f')
  | openUser {Γ : Set Kind} (uid : UserId) :
      Composed env o Γ 0 (modifyLedger (·.openUser uid)) (modifyLedger (·.openUser uid))
  | put {Γ : Set Kind} {owner : Owner} {a : Account} (known : a.kind owner ∈ Γ) :
      Composed env o Γ 0 (putAccount owner a) (putAccount owner a)
  | insurance {Γ : Set Kind} (a : Account) :
      Composed env o Γ 0 (modifyLedger fun L => { L with insuranceFundAccount := a })
        (modifyLedger fun L => { L with insuranceFundAccount := a })
  | tx {α : Type} {Γ : Set Kind} {n leg : ℕ} {outbound inbound : Account} {uid uid' : UserId}
      {amount : Money} {f f' : TxOutcome → Handler α}
      (hf : ∀ out inn r, (∀ owner, out.kind owner = outbound.kind owner) →
        (∀ owner, inn.kind owner = inbound.kind owner) →
        Composed env o Γ n (f ⟨out, inn, r⟩) (f' ⟨out, inn, r⟩)) :
      Composed env o Γ n (makeTx env leg outbound uid inbound uid' amount >>= f)
        (makeTx env leg outbound uid inbound uid' amount >>= f')
  | summary {Γ : Set Kind} (x : SummaryTx) :
      Composed env o Γ 1 (makeSummaryTx env x) (makeSummaryTx env x)
  | mono {α : Type} {Γ : Set Kind} {n m : ℕ} {p p' : Handler α} (h : Composed env o Γ n p p')
      (hle : n ≤ m) : Composed env o Γ m p p'

/-- A copy keeps its kind in a transaction, and the ledger knows nothing of it yet. -/
theorem makeTx_kinds (leg : ℕ) (outbound : Account) (uid : UserId) (inbound : Account)
    (uid' : UserId) (amount : Money) :
    Ensures (makeTx env leg outbound uid inbound uid' amount) s fun x s' =>
      s'.ledger = s.ledger ∧ (∀ owner, x.outbound.kind owner = outbound.kind owner) ∧
        ∀ owner, x.inbound.kind owner = inbound.kind owner := by
  refine (makeTx_spec _ _ _ _ _ _).mono fun x s' h => ?_
  refine ⟨h.noted.ledger, fun owner => ?_, fun owner => ?_⟩
  · obtain ⟨d, hout, -⟩ := h.exists_delta
    rw [hout]
    rfl
  · obtain ⟨d, -, hinn⟩ := h.exists_delta
    rw [hinn]
    rfl

namespace Composed

variable {o : Order} {Γ : Set Kind} {n m : ℕ} {p p' q q' : Handler α}

/-- Something else is composed of nothing that counts, and makes no summary. -/
theorem rest (h : Untouching p) : Composed env o Γ n p p := (aside h).mono (Nat.zero_le n)

/-- To return makes no call. -/
theorem ret (a : α) : Composed env o Γ n (pure a) (pure a) := rest (.ret a)

/-- A panic makes no call. -/
theorem panic (e : Panic) : Composed env o Γ n (throw e : Handler α) (throw e) := rest (.panic e)

/-- Both ways of a choice are composed. -/
theorem ite {c : Prop} [Decidable c] (hp : c → Composed env o Γ n p p')
    (hq : ¬c → Composed env o Γ n q q') :
    Composed env o Γ n (if c then p else q) (if c then p' else q') := by
  split
  next h => exact hp h
  next h => exact hq h

variable {β : Type} {f f' : β → Handler α}

/-- Something else first. -/
theorem after {p : Handler β} (hp : Untouching p) (hf : ∀ b, Composed env o Γ n (f b) (f' b)) :
    Composed env o Γ n (p >>= f) (p >>= f') := by
  have h := (aside hp).bind hf
  rwa [Nat.zero_add] at h

/-- A part that makes no summary first. -/
theorem first {p p' : Handler β} (hp : Composed env o Γ 0 p p')
    (hf : ∀ b, Composed env o Γ n (f b) (f' b)) :
    Composed env o Γ n (p >>= f) (p' >>= f') := by
  have h := hp.bind hf
  rwa [Nat.zero_add] at h

/-- The part that makes the summaries, and something else after it. -/
theorem last {p p' : Handler β} (hp : Composed env o Γ n p p')
    (hf : ∀ b, Composed env o Γ 0 (f b) (f' b)) :
    Composed env o Γ n (p >>= f) (p' >>= f') := hp.bind hf

/-- A computation without state first. -/
theorem lift {x : Checked β} (hf : ∀ b, Composed env o Γ n (f b) (f' b)) :
    Composed env o Γ n (liftM x >>= f) (liftM x >>= f') := after (.lift x) hf

/-- A lookup whose result is returned. -/
theorem found {owner : Owner} {c : Currency} {t : Option AccountType} (single : Single owner t) :
    Composed env o Γ 0 (getDefaultAccount env owner c t)
      (getDefaultAccount (env.reorder o) owner c t) := by
  have h : Composed env o Γ 0 (getDefaultAccount env owner c t >>= pure)
      (getDefaultAccount (env.reorder o) owner c t >>= pure) := find single fun a => ret a
  rwa [bind_pure, bind_pure] at h

/-- An account that is known is written back. -/
theorem insert {uid : UserId} {a : Account} (known : a.kind (.user uid) ∈ Γ) :
    Composed env o Γ n (insertIntoLedger uid a) (insertIntoLedger uid a) := by
  refine (read fun s => ite (fun _ => ?_) fun _ => panic _).mono (Nat.zero_le n)
  exact put (.inl known)

/-- A loop is composed if its round is, and makes no summary. -/
theorem forM {ι : Type} {f f' : ι → Handler PUnit} (hf : ∀ i, Composed env o Γ 0 (f i) (f' i))
    (l : List ι) : Composed env o Γ 0 (l.forM f) (l.forM f') := by
  induction l with
  | nil => exact ret _
  | cons i l ih => exact first (hf i) fun _ => ih

/-- The same of a loop that carries a value along. -/
theorem foldlM {ι : Type} {f f' : α → ι → Handler α}
    (hf : ∀ a i, Composed env o Γ 0 (f a i) (f' a i)) (l : List ι) (a : α) :
    Composed env o Γ 0 (l.foldlM f a) (l.foldlM f' a) := by
  induction l generalizing a with
  | nil => exact ret _
  | cons i l ih => exact first (hf a i) fun b => ih b

end Composed

/-! ## What only does other things -/

section aside

/-- A message is kept outside the ledger and the tables. -/
theorem send_untouched (msg : Message) (destination : ServiceIdentity) :
    Untouching (send msg destination) := fun _ => ⟨rfl, rfl, rfl, rfl, rfl⟩

/-- So is one to the API. -/
theorem sendApi_untouched (msg : Api) : Untouching (sendApi msg) := send_untouched _ _

/-- And one to the dealer. -/
theorem sendDealer_untouched (msg : Dealer) : Untouching (sendDealer msg) := send_untouched _ _

/-- The limiters are not part of the ledger. -/
theorem checkDepositRequestRateLimit_untouched (uid : UserId) :
    Untouching (checkDepositRequestRateLimit cfg env uid) := fun _ => ⟨rfl, rfl, rfl, rfl, rfl⟩

/-- Neither is that of the withdrawals. -/
theorem checkWithdrawalRequestRateLimit_untouched (uid : UserId) :
    Untouching (checkWithdrawalRequestRateLimit cfg env uid) := fun _ => ⟨rfl, rfl, rfl, rfl, rfl⟩

/-- The accounts table is neither of the two tables. -/
theorem updateAccount_untouched (a : Account) (uid : UserId) :
    Untouching (updateAccount env a uid) := by
  refine .ite (.ret _) (.ite (.ret _) (.write fun s => ?_))
  obtain ⟨accounts, hdb⟩ := storeAccount_eq s.db (env.db (.accountInsert uid a.accountId)) a uid
  rw [hdb]
  exact ⟨rfl, rfl, rfl, rfl, rfl⟩

/-- The balances are read and told. -/
theorem sendBankState_untouched : Untouching sendBankState :=
  (Keeps.read.bind fun _ => (Keeps.lift _).bind fun _ => .ret _).bind fun _ =>
    sendDealer_untouched _

/-- Looking an invoice up changes nothing. -/
theorem findInvoice_untouched (call : DbCall) (pr : String) :
    Untouching (findInvoice env call pr) :=
  Keeps.read.bind fun _ => .ret _

/-- The table of invoices is neither of the two tables. -/
theorem insertInvoice_untouched (i : Invoice) : Untouching (insertInvoice env i) := by
  intro s
  refine Ensures.get_bind ?_
  split
  next => exact ⟨rfl, rfl, rfl, rfl, rfl⟩
  next => exact ⟨rfl, rfl, rfl, rfl, rfl⟩

/-- An update changes a row of the invoices only. -/
theorem updateInvoice_untouched (i : Invoice) : Untouching (updateInvoice env i) := by
  refine .write fun s => ?_
  split
  next => exact ⟨rfl, rfl, rfl, rfl, rfl⟩
  next => exact ⟨rfl, rfl, rfl, rfl, rfl⟩

/-- Who is paid is told over nostr, no more. -/
theorem notifyPaid_untouched (uid : Int) (text : Checked PaidText) :
    Untouching (notifyPaid env uid text) := by
  unfold notifyPaid
  split
  next =>
    refine (Keeps.lift _).bind fun _ => .ite ?_ (.ret _)
    split
    next => exact (Keeps.lift _).bind fun _ => send_untouched _ _
    next => exact .ret _
  next => exact .ret _

/-- A zap note is handed to nostr, no more. -/
theorem publishIfZapNote_untouched (i : Invoice) (hash preimage : Option String) (t : Nat)
    (internal : Bool) : Untouching (publishIfZapNote cfg i hash preimage t internal) := by
  refine .ite ?_ (.ret _)
  split
  next => exact (Keeps.lift _).bind fun _ => send_untouched _ _
  next => exact .ret _

/-- A task is started beside the ledger. -/
theorem spawnPayment_untouched (x : Outgoing) : Untouching (spawnPayment x) :=
  (Keeps.lift _).bind fun _ => (Keeps.lift _).bind fun _ =>
    .write fun _ => ⟨rfl, rfl, rfl, rfl, rfl⟩

end aside

namespace Composed

variable {o : Order} {Γ : Set Kind} {n : ℕ}

/-- An answer to the API. -/
theorem answer (msg : Api) : Composed env o Γ n (sendApi msg) (sendApi msg) :=
  rest (sendApi_untouched msg)

/-- An update of the accounts table first. -/
theorem update {a : Account} {uid : UserId} {f f' : Unit → Handler α}
    (hf : Composed env o Γ n (f ()) (f' ())) :
    Composed env o Γ n (updateAccount env a uid >>= f) (updateAccount env a uid >>= f') :=
  after (updateAccount_untouched a uid) fun _ => hf

end Composed

/-! ## Deposits -/

section deposits

variable {o : Order} {Γ : Set Kind}

/-- Looking an account up, in an entry made for the user if there is none. -/
theorem Composed.opened {n : ℕ} {uid : UserId} {c : Currency} {t : Option AccountType}
    {f f' : Account → Handler α} (single : t ≠ some .external)
    (hf : ∀ a, Composed env o (Insert.insert (a.kind (.user uid)) Γ) n (f a) (f' a)) :
    Composed env o Γ n (getOrOpenAccount env uid c t >>= f)
      (getOrOpenAccount (env.reorder o) uid c t >>= f') := by
  unfold getOrOpenAccount
  rw [bind_assoc, bind_assoc]
  exact .first (.openUser uid) fun _ => .find single hf

/-- The account a deposit goes to: the one that is named, or the default one. -/
theorem targetAccount_composed (uid : UserId) (id : Option Uuid) (c : Currency) :
    Composed env o Γ 0 (targetAccount env uid id c) (targetAccount (env.reorder o) uid id c) := by
  refine .read fun s => ?_
  cases id with
  | none => exact .find (by simp [Single]) fun _ => .ret _
  | some id =>
    dsimp only
    split
    next => exact .ret _
    next => exact .ret _

/-- An invoice is asked for: the entry is made, and the rest is passed on. -/
theorem invoiceRequest_composed (msg : InvoiceRequest) :
    Composed env o Γ 0 (invoiceRequest cfg env msg) (invoiceRequest cfg (env.reorder o) msg) := by
  unfold invoiceRequest
  simp only [reorder_db, reorder_now, reorder_lnd, checkDepositRequestRateLimit_reorder,
    insertInvoice_reorder]
  refine .after (checkDepositRequestRateLimit_untouched _) fun admitted => ?_
  refine .ite (fun _ => .answer _) fun _ => .first (.openUser _) fun _ => ?_
  refine .ite (fun _ => .answer _) fun _ => ?_
  refine .ite (fun _ => .answer _) fun _ => ?_
  refine .first (targetAccount_composed _ _ _) fun target => ?_
  cases target with
  | error id => exact .answer _
  | ok target =>
    -- the rest looks at the account it was given, and at the node
    refine .rest (.ite (send_untouched _ _) ((Keeps.lift _).bind fun _ => ?_))
    split
    next =>
      refine (insertInvoice_untouched _).bind fun _ => ?_
      exact .ite (sendApi_untouched _) (sendApi_untouched _)
    next => exact .ret _

/-- The dealer has priced an invoice. -/
theorem invoiceResponse_composed (msg : InvoiceResponse) :
    Composed env o Γ 0 (invoiceResponse cfg env msg)
      (invoiceResponse cfg (env.reorder o) msg) := by
  unfold invoiceResponse
  simp only [reorder_db, reorder_now, reorder_lnd, insertInvoice_reorder]
  cases msg.rate with
  | none => exact .answer _
  | some rate =>
    refine .lift fun amountInSats => .ite (fun _ => .answer _) fun _ => ?_
    refine .first (.openUser _) fun _ => .first (targetAccount_composed _ _ _) fun target => ?_
    cases target with
    | error id => exact .answer _
    | ok target =>
      refine .rest ?_
      dsimp only
      split
      next =>
        refine (insertInvoice_untouched _).bind fun _ => ?_
        exact .ite (sendApi_untouched _) (sendApi_untouched _)
      next => exact .ret _

/-- A deposit of the dealer: two copies are written back. -/
theorem handleDealerDeposit_composed (msg : Deposit) :
    Composed env o Γ 0 (handleDealerDeposit env msg)
      (handleDealerDeposit (env.reorder o) msg) := by
  unfold handleDealerDeposit
  simp only [reorder_db, findInvoice_reorder, makeTx_reorder, updateAccount_reorder]
  refine .ite (fun _ => .ret _) fun _ => .after (findInvoice_untouched _ _) fun invoice => ?_
  cases invoice with
  | none => exact .ret _
  | some invoice =>
    dsimp only
    cases invoice.reference with
    | none => exact .ret _
    | some reference =>
      refine .ite (fun _ => .ret _) fun _ => .find rfl fun inbound => ?_
      refine .find (.ite rfl rfl) fun outbound => .tx fun outbound inbound r ho hi => ?_
      refine .first (.put (by simp [hi])) fun _ => .update ?_
      exact .first (.put (by simp [ho])) fun _ => .rest (updateAccount_untouched _ _)

/-- A deposit in bitcoin makes one summary. -/
theorem depositBtc_composed (msg : Deposit) (invoice : Invoice) :
    Composed env o Γ 1 (depositBtc cfg env msg invoice)
      (depositBtc cfg (env.reorder o) msg invoice) := by
  unfold depositBtc
  simp only [makeTx_reorder, makeSummaryTx_reorder, updateAccount_reorder, updateInvoice_reorder,
    settleInvoice_reorder, notifyPaid_reorder]
  refine .opened (by simp) fun inbound => .find rfl fun liability => ?_
  refine .tx fun liability inbound r hl hi => ?_
  cases r with
  | error e => exact .ret _
  | ok txid =>
    refine .first (.insert (by simp [hi])) fun _ => .first (.put (by simp [hl])) fun _ => ?_
    refine .update (.update ?_)
    refine .last (.summary _) fun r => ?_
    cases r with
    | error e => exact .ret _
    | ok _ =>
      refine .after (updateInvoice_untouched _) fun _ => ?_
      refine .after (notifyPaid_untouched _ _) fun _ => ?_
      exact .aside (publishIfZapNote_untouched _ _ _ _ _)

/-- A deposit of the dealer makes none, one of a user one at most. -/
theorem deposit_composed (msg : Deposit) :
    Composed env o Γ 1 (deposit cfg env msg) (deposit cfg (env.reorder o) msg) := by
  unfold deposit
  simp only [reorder_db, reorder_reqUuid, findInvoice_reorder]
  refine .ite (fun _ => .ret _) fun _ => .after (findInvoice_untouched _ _) fun invoice => ?_
  cases invoice with
  | none => exact .ret _
  | some invoice =>
    refine .ite (fun _ => ?_) fun _ => ?_
    · exact .first (handleDealerDeposit_composed msg) fun _ => .ret _
    refine .lift fun currency => .lift fun target => ?_
    exact .ite (fun _ => .rest (sendDealer_untouched _)) fun _ => depositBtc_composed msg invoice

/-- A deposit that the dealer has priced makes one summary. -/
theorem fiatDepositResponse_composed (msg : FiatDepositResponse) :
    Composed env o Γ 1 (fiatDepositResponse env msg)
      (fiatDepositResponse (env.reorder o) msg) := by
  unfold fiatDepositResponse
  simp only [reorder_db, findInvoice_reorder, makeTx_reorder, makeSummaryTx_reorder,
    updateAccount_reorder, updateInvoice_reorder, settleInvoice_reorder, notifyPaid_reorder]
  refine .ite (fun _ => .ret _) fun _ => .ite (fun _ => .ret _) fun _ => ?_
  refine .after (findInvoice_untouched _ _) fun invoice => ?_
  cases invoice with
  | none => exact .ret _
  | some invoice =>
    dsimp only
    cases msg.rate with
    | none => exact .ret _
    | some rate =>
      refine .opened (by simp) fun inbound => .find rfl fun dealerFiat => ?_
      refine .find rfl fun dealerBtc => .find rfl fun liabilities => ?_
      refine .lift fun exchanged => .lift fun fiatValue => ?_
      refine .tx fun liabilities dealerBtc r hl hb => ?_
      cases r with
      | error e => exact .ret _
      | ok outboundTxid =>
        refine .tx fun dealerFiat inbound r hf hi => ?_
        cases r with
        | error e => exact .ret _
        | ok inboundTxid =>
          refine .first (.insert (by simp [hi])) fun _ => .first (.put (by simp [hl])) fun _ => ?_
          refine .first (.put (by simp [hb])) fun _ => .first (.put (by simp [hf])) fun _ => ?_
          refine .update (.update (.update (.update ?_)))
          refine .after sendBankState_untouched fun _ => ?_
          refine .last (.summary _) fun r => ?_
          cases r with
          | error e => exact .ret _
          | ok _ =>
            exact .aside ((updateInvoice_untouched _).bind fun _ => notifyPaid_untouched _ _)

/-- An invoice of the dealer is paid between the accounts of the bank. -/
theorem processDealerInvoice_composed (msg : PayInvoice) (isExternal : Bool) :
    Composed env o Γ 0 (processDealerInvoice cfg env msg isExternal)
      (processDealerInvoice cfg (env.reorder o) msg isExternal) := by
  unfold processDealerInvoice
  simp only [reorder_lnd, makeTx_reorder, updateAccount_reorder]
  cases cfg.parseInvoice msg.paymentRequest with
  | none => exact .ret _
  | some decoded =>
    dsimp only
    cases decoded.amountMilliSatoshis with
    | none => exact .panic _
    | some millisats =>
      refine .lift fun result => ?_
      cases result with
      | error e => exact .ret _
      | ok _ =>
        refine .find (.ite rfl rfl) fun inbound => .find rfl fun outbound => ?_
        refine .tx fun outbound inbound r ho hi => ?_
        cases r with
        | error e => exact .ret _
        | ok txid =>
          refine .update (.update ?_)
          exact .first (.put (by simp [hi])) fun _ => .put (by simp [ho])

/-- An invoice for the dealer books nothing. -/
theorem processCreateInvoiceRequest_composed (req : CreateInvoiceRequest) (owner : UserId) :
    Composed env o Γ 0 (processCreateInvoiceRequest cfg env req owner)
      (processCreateInvoiceRequest cfg (env.reorder o) req owner) := by
  unfold processCreateInvoiceRequest
  simp only [reorder_db, reorder_now, reorder_lnd, insertInvoice_reorder]
  refine .ite (fun _ => .ret _) fun _ => .first ?_ fun account => .rest ?_
  · exact .ite (fun _ => .found rfl) fun _ => .ite (fun _ => .found rfl) fun _ => .panic _
  · split
    next => exact (insertInvoice_untouched _).bind fun _ => .ite (.ret _) (sendDealer_untouched _)
    next => exact .ret _

end deposits

/-! ## Payments -/

section payments

variable {o : Order} {Γ : Set Kind}

/-- A payment between users makes one summary. -/
theorem makeInternalTx_composed (req : PaymentRequest) :
    Composed env o Γ 1 (makeInternalTx cfg env req) (makeInternalTx cfg (env.reorder o) req) := by
  unfold makeInternalTx
  dsimp +instances only [reorder_db, reorder_directory, reorder_hashUuid, makeTx_reorder,
    makeSummaryTx_reorder, updateAccount_reorder]
  have hrefuse : ∀ {Γ} m e, Composed env o Γ 1 (do sendApi m; return .error e)
      (do sendApi m; return (.error e : Except PaymentResponseError Unit)) := fun m e =>
    .rest ((sendApi_untouched m).bind fun _ => .ret _)
  refine .ite (fun _ => .ret _) fun _ => ?_
  cases req.recipient with
  | none => exact .panic _
  | some inboundUsername =>
    refine .lift fun amount => ?_
    generalize (if env.db .inboundUser then env.directory.userByUsername inboundUsername
      else none) = inboundUser
    generalize (if env.db .payerUser then env.directory.userById (asI32 req.uid) else none) =
      outboundUser
    cases inboundUser with
    | none =>
      dsimp only
      exact hrefuse _ _
    | some inboundUser =>
      cases outboundUser with
      | none =>
        dsimp only
        exact hrefuse _ _
      | some outboundUser =>
        refine .ite (fun _ => .ret _) fun _ => .read fun s => .ite (fun _ => .ret _) fun _ => ?_
        refine .find (by simp [Single]) fun outbound => .opened (by simp) fun inbound => ?_
        refine .ite (fun _ => hrefuse _ _) fun _ => .tx fun outbound inbound r ho hi => ?_
        cases r with
        | error e => exact .ret _
        | ok txid =>
          refine .last (.summary _) fun r => ?_
          cases r with
          | error e => exact .ret _
          | ok _ =>
            refine .first (.insert (by simp [hi])) fun _ => ?_
            refine .first (.insert (by simp [ho])) fun _ => .update (.update ?_)
            exact .first (.answer _) fun _ => .ret _

/-- The payer is debited in her currency: one summary. -/
theorem debitFiat_composed {x : Outgoing} {outbound liability : Account}
    (ho : outbound.kind (.user x.msg.uid) ∈ Γ) (hl : liability.kind .bank ∈ Γ) :
    Composed env o Γ 1 (debitFiat env x outbound liability)
      (debitFiat (env.reorder o) x outbound liability) := by
  unfold debitFiat
  simp only [makeTx_reorder, makeSummaryTx_reorder, updateAccount_reorder]
  refine .find rfl fun dealerFiat => .tx fun outbound' dealerFiat r ho' hf => ?_
  cases r with
  | error e => exact .ret _
  | ok outboundTxid =>
    refine .find rfl fun dealerBtc => .tx fun dealerBtc liability' r hb hl' => ?_
    cases r with
    | error e => exact .ret _
    | ok inboundTxid =>
      refine .first (.insert (by simp [ho', ho])) fun _ => ?_
      refine .first (.put (by simp [hl', hl])) fun _ => ?_
      refine .first (.put (by simp [hf])) fun _ => .first (.put (by simp [hb])) fun _ => ?_
      refine .update (.update (.update (.update ?_)))
      refine .last (.summary _) fun r => ?_
      cases r with
      | error e => exact .ret _
      | ok _ => exact .ret _

/-- The payer is debited in bitcoin: one summary. -/
theorem debitBtc_composed {x : Outgoing} {outbound liability : Account}
    (ho : outbound.kind (.user x.msg.uid) ∈ Γ) (hl : liability.kind .bank ∈ Γ) :
    Composed env o Γ 1 (debitBtc env x outbound liability)
      (debitBtc (env.reorder o) x outbound liability) := by
  unfold debitBtc
  simp only [makeTx_reorder, makeSummaryTx_reorder, updateAccount_reorder]
  refine .tx fun outbound' liability' r ho' hl' => ?_
  cases r with
  | error e => exact .rest ((sendApi_untouched _).bind fun _ => .ret _)
  | ok txid =>
    refine .first (.put (by simp [hl', hl])) fun _ => ?_
    refine .first (.insert (by simp [ho', ho])) fun _ => ?_
    refine .update (.update ?_)
    refine .last (.summary _) fun r => ?_
    cases r with
    | error e => exact .ret _
    | ok _ => exact .ret _

/-- Either way of paying over the node makes one summary. -/
theorem payExternally_composed {x : Outgoing} {outbound : Account}
    (ho : outbound.kind (.user x.msg.uid) ∈ Γ) :
    Composed env o Γ 1 (payExternally env x outbound)
      (payExternally (env.reorder o) x outbound) := by
  refine .find rfl fun liability => .last ?_ fun debited => ?_
  · refine .ite (fun _ => debitFiat_composed ?_ ?_) fun _ => debitBtc_composed ?_ ?_
    · exact .inr ho
    · exact .inl rfl
    · exact .inr ho
    · exact .inl rfl
  · exact .ite (fun _ => .aside (spawnPayment_untouched x)) fun _ => .ret _

/-- The owner of an invoice is paid as a user is. -/
theorem payOwner_composed (msg : PaymentRequest) (invoice : Invoice) (owner : Int) :
    Composed env o Γ 1 (payOwner cfg env msg invoice owner)
      (payOwner cfg (env.reorder o) msg invoice owner) := by
  unfold payOwner
  dsimp +instances only [reorder_db, reorder_directory, reorder_now, updateInvoice_reorder,
    settleInvoice_reorder, refused_reorder]
  generalize (if env.db .ownerUser then env.directory.userById owner else none) = user
  cases user with
  | none => exact .answer _
  | some user =>
    refine .last (makeInternalTx_composed _) fun r => ?_
    cases r with
    | error e => exact .ret _
    | ok _ =>
      refine .after (updateInvoice_untouched _) fun _ => ?_
      exact .aside (publishIfZapNote_untouched _ _ _ _ _)

/-- The invoice to be paid is looked up or stored. -/
theorem findOrInsertInvoice_untouched (msg : PaymentRequest) (pr : String) (decoded : Bolt11)
    (millisats : Nat) : Untouching (findOrInsertInvoice env msg pr decoded millisats) := by
  refine (findInvoice_untouched _ _).bind fun invoice => ?_
  cases invoice with
  | some invoice => exact .ret _
  | none => exact (insertInvoice_untouched _).bind fun _ => .ret _

/-- A payment with a price goes to the owner of the invoice or over the node. -/
theorem payPriced_composed {msg : PaymentRequest} {pr : String} {decoded : Bolt11}
    {millisats : UInt64} {outbound : Account} {outboundUsername inboundUsername : String}
    (ho : outbound.kind (.user msg.uid) ∈ Γ) :
    Composed env o Γ 1
      (payPriced cfg env msg pr decoded millisats outbound outboundUsername inboundUsername)
      (payPriced cfg (env.reorder o) msg pr decoded millisats outbound outboundUsername
        inboundUsername) := by
  unfold payPriced
  simp only [reorder_hashUuid, findOrInsertInvoice_reorder, priceOutgoing_reorder]
  refine .lift fun rate => .lift fun exchanged => .lift fun amount => ?_
  refine .after (findOrInsertInvoice_untouched _ _ _ _) fun invoice => ?_
  cases invoice with
  | none => exact .ret _
  | some invoice =>
    refine .ite (fun _ => .answer _) fun _ => ?_
    refine .ite (fun _ => .answer _) fun _ => .lift fun price => ?_
    refine .ite (fun _ => .answer _) fun _ => ?_
    cases invoice.owner with
    | none => exact payExternally_composed ho
    | some owner => exact payOwner_composed _ _ _

/-- An invoice is priced here, or by the dealer first. -/
theorem payLightning_composed {msg : PaymentRequest} {outbound : Account}
    {outboundUsername inboundUsername : String} (ho : outbound.kind (.user msg.uid) ∈ Γ) :
    Composed env o Γ 1 (payLightning cfg env msg outbound outboundUsername inboundUsername)
      (payLightning cfg (env.reorder o) msg outbound outboundUsername inboundUsername) := by
  unfold payLightning
  simp only [refused_reorder]
  cases msg.paymentRequest with
  | none => exact .ret _
  | some pr =>
    dsimp only
    cases cfg.parseInvoice pr with
    | none => exact .answer _
    | some decoded =>
      dsimp only
      cases decoded.amountMilliSatoshis with
      | none => exact .answer _
      | some millisats =>
        refine .ite (fun _ => .rest (send_untouched _ _)) fun _ => payPriced_composed ?_
        split
        next => exact ho
        next => exact ho

/-- A payment request makes one summary at most. -/
theorem paymentRequest_composed (msg : PaymentRequest) :
    Composed env o Γ 1 (paymentRequest cfg env msg) (paymentRequest cfg (env.reorder o) msg) := by
  unfold paymentRequest
  dsimp +instances only [reorder_db, reorder_directory, checkWithdrawalRequestRateLimit_reorder,
    refused_reorder, routeRecipient_reorder]
  refine .after (checkWithdrawalRequestRateLimit_untouched _) fun admitted => ?_
  refine .ite (fun _ => .answer _) fun _ => .read fun s => ?_
  refine .ite (fun _ => .answer _) fun _ => .find (by simp [Single]) fun outbound => ?_
  refine .ite (fun _ => .answer _) fun _ => ?_
  refine .ite (fun _ => .answer _) fun _ => ?_
  generalize (if env.db .outboundUser then env.directory.userById (asI32 msg.uid) else none) =
    payer
  cases payer with
  | none => exact .ret _
  | some payer =>
    dsimp only
    cases routeRecipient cfg env msg with
    | user username => exact .last (makeInternalTx_composed _) fun _ => .ret _
    | invoice inboundUsername => exact payLightning_composed (.inl rfl)

/-! ### Results -/

/-- What the node did not charge goes to the dealer, without a summary. -/
theorem moveExcessFees_composed {excess : Decimal} {liabilities dealerBtc : Account}
    (hl : liabilities.kind .bank ∈ Γ) (hb : dealerBtc.kind .dealer ∈ Γ) :
    Composed env o Γ 0 (moveExcessFees env excess liabilities dealerBtc)
      (moveExcessFees (env.reorder o) excess liabilities dealerBtc) := by
  unfold moveExcessFees
  simp only [makeTx_reorder, updateAccount_reorder]
  refine .ite (fun _ => .ret _) fun _ => .tx fun liabilities' dealerBtc' r hl' hb' => ?_
  cases r with
  | error e => exact .ret _
  | ok txid =>
    refine .first (.put (by simp [hl', hl])) fun _ => ?_
    exact .first (.put (by simp [hb', hb])) fun _ => .update (.update (.ret _))

/-- A payment that went through books its fee at most. -/
theorem settlePayment_composed {res : PaymentResult} {liabilities dealerBtc : Account}
    (hl : liabilities.kind .bank ∈ Γ) (hb : dealerBtc.kind .dealer ∈ Γ) :
    Composed env o Γ 0 (settlePayment env res liabilities dealerBtc)
      (settlePayment (env.reorder o) res liabilities dealerBtc) := by
  unfold settlePayment
  simp only [findInvoice_reorder, updateInvoice_reorder, settleInvoice_reorder]
  refine .lift fun amount => .lift fun fees => .lift fun spent => .lift fun excess => ?_
  refine .ite (fun _ => .panic _) fun _ => .first (moveExcessFees_composed hl hb) fun moved => ?_
  refine .ite (fun _ => .ret _) fun _ => .rest ?_
  split
  next =>
    refine (findInvoice_untouched _ _).bind fun invoice => ?_
    cases invoice with
    | none => exact .ret _
    | some invoice =>
      refine (Keeps.lift _).bind fun _ => (Keeps.lift _).bind fun _ => ?_
      refine (Keeps.lift _).bind fun _ => ?_
      exact (updateInvoice_untouched _).bind fun _ => .ret _
  next => exact .panic _

/-- A refund in fiat makes one summary. -/
theorem refundFiat_composed {res : PaymentResult} {refund : Money} {liabilities inbound : Account}
    (hl : liabilities.kind .bank ∈ Γ) (hi : inbound.kind (.user res.uid) ∈ Γ) :
    Composed env o Γ 1 (refundFiat env res refund liabilities inbound)
      (refundFiat (env.reorder o) res refund liabilities inbound) := by
  unfold refundFiat
  simp only [makeTx_reorder, makeSummaryTx_reorder, updateAccount_reorder]
  refine .find rfl fun dealerBtc => .find rfl fun dealerFiat => ?_
  refine .tx fun liabilities' dealerBtc r hl' hb => ?_
  cases r with
  | error e => exact .ret _
  | ok outboundTxid =>
    refine .tx fun dealerFiat inbound' r hf hi' => ?_
    cases r with
    | error e => exact .ret _
    | ok inboundTxid =>
      refine .first (.put (by simp [hl', hl])) fun _ => .first (.put (by simp [hb])) fun _ => ?_
      refine .first (.put (by simp [hf])) fun _ => .first (.insert (by simp [hi', hi])) fun _ => ?_
      refine .update (.update (.update (.update ?_)))
      refine .last (.summary _) fun r => ?_
      cases r with
      | error e => exact .ret _
      | ok _ => exact .ret _

/-- A refund in bitcoin makes one summary. -/
theorem refundBtc_composed {res : PaymentResult} {liabilities inbound : Account}
    (hl : liabilities.kind .bank ∈ Γ) (hi : inbound.kind (.user res.uid) ∈ Γ) :
    Composed env o Γ 1 (refundBtc env res liabilities inbound)
      (refundBtc (env.reorder o) res liabilities inbound) := by
  unfold refundBtc
  simp only [makeTx_reorder, makeSummaryTx_reorder, updateAccount_reorder]
  refine .tx fun liabilities' inbound' r hl' hi' => ?_
  cases r with
  | error e => exact .ret _
  | ok txid =>
    refine .first (.put (by simp [hl', hl])) fun _ => ?_
    refine .first (.insert (by simp [hi', hi])) fun _ => ?_
    refine .update (.update ?_)
    refine .last (.summary _) fun r => ?_
    cases r with
    | error e => exact .ret _
    | ok _ => exact .ret _

/-- A result is settled without a summary or refunded with one. -/
theorem paymentResult_composed (res : PaymentResult) :
    Composed env o Γ 1 (paymentResult env res) (paymentResult (env.reorder o) res) := by
  unfold paymentResult
  simp only [reorder_db]
  refine .ite (fun _ => .panic _) fun _ => .ite (fun _ => .ret _) fun _ => ?_
  refine .find rfl fun liabilities => .read fun s => .ite (fun _ => .ret _) fun _ => ?_
  refine .find (by simp [Single]) fun inbound => .find rfl fun dealerBtc => .last ?_ fun _ => ?_
  · refine .ite (fun _ => (settlePayment_composed ?_ ?_).mono (Nat.zero_le 1)) fun _ => ?_
    · simp
    · simp
    · refine .lift fun exchanged => .lift fun refund => ?_
      exact .ite (fun _ => refundFiat_composed (by simp) (by simp))
        fun _ => refundBtc_composed (by simp) (by simp)
  · refine .ite (fun _ => .ret _) fun _ => .aside ?_
    exact sendBankState_untouched.bind fun _ => sendApi_untouched _

end payments

/-! ## The other services -/

section services

variable {o : Order} {Γ : Set Kind}

/-- A swap makes one summary, of its last two transactions. -/
theorem swapResponse_composed (msg : SwapResponse) :
    Composed env o Γ 1 (swapResponse env msg) (swapResponse (env.reorder o) msg) := by
  unfold swapResponse
  simp only [makeTx_reorder, makeSummaryTx_reorder, updateAccount_reorder]
  refine .ite (fun _ => .answer _) fun _ => .read fun s => ?_
  refine .ite (fun _ => .answer _) fun _ => ?_
  cases msg.rate with
  | none => exact .answer _
  | some rate =>
    refine .ite (fun _ => .answer _) fun _ => ?_
    refine .find (by simp [Single]) fun outbound => .find (by simp [Single]) fun inbound => ?_
    refine .ite (fun _ => .answer _) fun _ => ?_
    refine .find rfl fun outboundDealer => .find rfl fun inboundDealer => ?_
    refine .ite (fun _ => .answer _) fun _ => ?_
    refine .tx fun outbound inboundDealer r ho hid => ?_
    cases r with
    | error e => exact .answer _
    | ok outboundTxid =>
      refine .lift fun exchanged => .lift fun inboundAmount => ?_
      refine .tx fun outboundDealer inbound r hod hi => ?_
      cases r with
      | error e => exact .answer _
      | ok inboundTxid =>
        refine .first (.insert (by simp [ho])) fun _ => .first (.insert (by simp [hi])) fun _ => ?_
        refine .first (.put (by simp [hod])) fun _ => .first (.put (by simp [hid])) fun _ => ?_
        refine .update (.update (.update (.update ?_)))
        refine .after (sendApi_untouched _) fun _ => .after sendBankState_untouched fun _ => ?_
        exact .last (.summary _) fun _ => .ret _

/-- The balances are told of an entry that is made if there is none. -/
theorem getBalances_composed (msg : GetBalances) :
    Composed env o Γ 0 (getBalances env msg) (getBalances (env.reorder o) msg) := by
  refine .first (.openUser _) fun _ => .read fun s => .first ?_ fun _ => .read fun s => ?_
  · exact .forM (fun c => .find (by simp [Single]) fun _ => .ret _) _
  · exact .rest (.ite (send_untouched _ _) (send_untouched _ _))

/-- A withdrawal is stored with the account it may be paid from. -/
theorem createLnurlWithdrawal_composed (msg : CreateLnurlWithdrawalRequest) :
    Composed env o Γ 0 (createLnurlWithdrawal cfg env msg)
      (createLnurlWithdrawal cfg (env.reorder o) msg) := by
  unfold createLnurlWithdrawal
  simp only [reorder_now]
  refine .ite (fun _ => .answer _) fun _ => .read fun s => ?_
  refine .ite (fun _ => .answer _) fun _ => .find (by simp [Single]) fun outbound => ?_
  refine .rest (.ite (send_untouched _ _) (.ite (sendApi_untouched _) ?_))
  split
  next =>
    refine Keeps.bind (.write fun _ => ?_) fun _ => sendApi_untouched _
    exact ⟨rfl, rfl, rfl, rfl, rfl⟩
  next => exact sendApi_untouched _

/-- A stored withdrawal is told. -/
theorem getLnurlWithdrawal_untouched (msg : GetLnurlWithdrawalRequest) :
    Untouching (getLnurlWithdrawal cfg msg) := by
  refine Keeps.read.bind fun s => ?_
  split
  next => exact sendApi_untouched _
  next =>
    refine (Keeps.lift _).bind fun n => ?_
    cases n with
    | none => exact sendApi_untouched _
    | some n => exact sendApi_untouched _

/-- A stored withdrawal is taken out and sent to the bank itself. -/
theorem payLnurlWithdrawal_untouched (msg : PayLnurlWithdrawalRequest) :
    Untouching (payLnurlWithdrawal msg) := by
  intro s
  refine Ensures.get_bind ?_
  split
  next => exact ⟨rfl, rfl, rfl, rfl, rfl⟩
  next => exact ⟨rfl, rfl, rfl, rfl, rfl⟩

/-- The node is asked for a route. -/
theorem queryRoute_untouched (msg : QueryRouteRequest) : Untouching (queryRoute cfg env msg) := by
  refine (Keeps.lift _).bind fun _ => ?_
  split
  next =>
    split
    next =>
      refine (Keeps.lift _).bind fun _ => (Keeps.lift _).bind fun answer => ?_
      split
      next => exact sendApi_untouched _
      next => exact sendApi_untouched _
      next => exact (Keeps.lift _).bind fun _ => (Keeps.lift _).bind fun _ => sendApi_untouched _
    next => exact sendApi_untouched _
  next => exact sendApi_untouched _

/-! ### Karma and DCA -/

theorem getUserTotals_untouched : Untouching (getUserTotals env) :=
  .ite (.ret _) (.ite (.ret _) (Keeps.read.bind fun _ => .lift _))

theorem distributeKarmaTo_composed (karma : Money) (totalSwapped : Decimal) (dealerChange : Money)
    (entry : UserId × Decimal) :
    Composed env o Γ 0 (distributeKarmaTo env karma totalSwapped dealerChange entry)
      (distributeKarmaTo (env.reorder o) karma totalSwapped dealerChange entry) := by
  unfold distributeKarmaTo
  simp only [updateAccount_reorder]
  refine .lift fun ratio => .lift fun part => ?_
  refine .ite (fun _ => ?_) fun _ => .lift fun _ => .ret _
  refine .opened (by simp) fun account => .lift fun balance => ?_
  refine .first (.insert (.inl rfl)) fun _ => .update ?_
  exact .lift fun _ => .ret _

theorem karmaBalance_composed (msg : KarmaBalance) :
    Composed env o Γ 0 (karmaBalance env msg) (karmaBalance (env.reorder o) msg) := by
  have htotals : getUserTotals (env.reorder o) = getUserTotals env := rfl
  unfold karmaBalance
  simp only [htotals, updateAccount_reorder]
  refine .after (Keeps.read.bind fun _ => (Keeps.lift _).bind fun _ => .ret _) fun bankState => ?_
  refine .after getUserTotals_untouched fun totals => ?_
  cases totals with
  | none => exact .ret _
  | some totals =>
    refine .find rfl fun account => .first (.put (.inl rfl)) fun _ => ?_
    refine .update (.lift fun diff => ?_)
    refine .ite (fun _ => ?_) fun _ => .ret _
    unfold distributeKarma
    refine .lift fun totalSwapped => ?_
    refine .first (.foldlM (fun _ _ => distributeKarmaTo_composed _ _ _ _) _ _) fun change => ?_
    refine .find rfl fun account => .first (.put (.inl rfl)) fun _ => ?_
    exact .aside (updateAccount_untouched _ _)

theorem dcaRebalance_untouched (msg : DcaRebalance) : Untouching (dcaRebalance env msg) := by
  refine .ite (.ret _) (.ite (.ret _) (.forM (fun e => ?_) _))
  refine (Keeps.lift _).bind fun _ => (Keeps.lift _).bind fun _ => (Keeps.lift _).bind fun _ => ?_
  exact send_untouched _ _

/-! ### The operator's transfers -/

/-- The account a copy of which was read from a slot. -/
def BankEngine.Slot.kinds (a : Account) : Slot → Set Kind
  | .external => {a.kind .bank}
  | .insurance => ∅
  | .user uid _ => {a.kind (.user uid)}

theorem isExternalAccount_composed (uid : UserId) (id : AccountId) :
    Composed env o Γ 0 (isExternalAccount env uid id)
      (isExternalAccount (env.reorder o) uid id) :=
  .ite (fun _ => .find rfl fun _ => .ret _) fun _ => .ret _

/-- Reading a slot and going on with its account, which is known from then on. -/
theorem Composed.slot {n : ℕ} {slot : Slot} {f f' : Except BankError Account → Handler α}
    (herr : ∀ {Γ'} e, Composed env o Γ' n (f (.error e)) (f' (.error e)))
    (hf : ∀ {Γ'} a, Γ ⊆ Γ' → slot.kinds a ⊆ Γ' →
      Composed env o Γ' n (f (.ok a)) (f' (.ok a))) :
    Composed env o Γ n (readSlot env slot >>= f) (readSlot (env.reorder o) slot >>= f') := by
  cases slot with
  | external =>
    unfold readSlot getLiabilityAccount
    simp only [bind_assoc]
    refine .find rfl fun a => hf a (Set.subset_insert _ _) ?_
    exact Set.singleton_subset_iff.mpr (Set.mem_insert _ _)
  | insurance => exact .read fun s => hf _ Set.subset_union_left (Set.empty_subset _)
  | user uid id =>
    unfold readSlot
    simp only [bind_assoc]
    refine .read fun s => ?_
    by_cases hu : s.ledger.hasUser uid
    · simp only [hu, Bool.not_true, Bool.false_eq_true, if_false]
      cases hget : s.ledger.get (.user uid, id) with
      | none => exact herr _
      | some a =>
        refine hf a Set.subset_union_left (Set.singleton_subset_iff.mpr (.inr ?_))
        have hid : a.accountId = id := Ledger.get_accountId hget
        exact ⟨.user uid, a, by rw [hid, hget], rfl⟩
    · simp only [hu]
      exact herr _

theorem writeSlot_composed {slot : Slot} {a : Account} (h : slot.kinds a ⊆ Γ) :
    Composed env o Γ 0 (writeSlot a slot) (writeSlot a slot) := by
  cases slot with
  | external => exact .put (h rfl)
  | insurance => exact .insurance a
  | user uid id => exact .insert (h rfl)

theorem BankEngine.Slot.kinds_congr {slot : Slot} {a b : Account} (h : ∀ o, b.kind o = a.kind o) :
    slot.kinds b = slot.kinds a := by
  cases slot with
  | external => rw [kinds, kinds, h]
  | insurance => rfl
  | user uid id => rw [kinds, kinds, h]

theorem processMakeTx_composed (tx : MakeTx) :
    Composed env o Γ 0 (processMakeTx env tx) (processMakeTx (env.reorder o) tx) := by
  unfold processMakeTx
  simp only [makeTx_reorder, updateAccount_reorder]
  refine .ite (fun _ => .ret _) fun _ => .ite (fun _ => .ret _) fun _ => .read fun s => ?_
  refine .first (isExternalAccount_composed _ _) fun isInboundExternal => ?_
  refine .first (isExternalAccount_composed _ _) fun isOutboundExternal => ?_
  refine .ite (fun _ => .ret _) fun _ => .slot (fun e => .ret _) fun outbound _ ho => ?_
  refine .slot (fun e => .ret _) fun inbound hsub hi => .ite (fun _ => .ret _) fun _ => ?_
  refine .tx fun outbound' inbound' r ho' hi' => ?_
  cases r with
  | error e => exact .ret _
  | ok txid =>
    refine .update (.update ?_)
    rw [← Slot.kinds_congr ho'] at ho
    rw [← Slot.kinds_congr hi'] at hi
    refine .first (writeSlot_composed (ho.trans hsub)) fun _ => ?_
    exact .first (writeSlot_composed hi) fun _ => .ret _

end services

/-! ## Every message -/

/-- The messages whose handlers write summaries. -/
inductive Summarising : Message → Prop
  | deposit (m : Deposit) : Summarising (.deposit m)
  | fiatDeposit (m : FiatDepositResponse) : Summarising (.dealer (.fiatDepositResponse m))
  | payment (m : PaymentRequest) : Summarising (.api (.paymentRequest m))
  | result (res : PaymentResult) : Summarising (.bank (.paymentResult res))
  | swap (m : SwapResponse) : Summarising (.api (.swapResponse m))

theorem processDealer_composed {o : Order} {Γ : Set Kind} (msg : Dealer)
    (hno : ∀ m, msg ≠ .fiatDepositResponse m) :
    Composed env o Γ 0 (processDealer cfg env msg) (processDealer cfg (env.reorder o) msg) := by
  cases msg with
  | health h => exact .aside (.write fun _ => ⟨rfl, rfl, rfl, rfl, rfl⟩)
  | bankStateRequest m => exact .aside sendBankState_untouched
  | payInvoice m => exact processDealerInvoice_composed m false
  | payInsuranceInvoice m => exact processDealerInvoice_composed m true
  | createInvoiceRequest m => exact processCreateInvoiceRequest_composed _ _
  | createInsuranceInvoiceRequest m => exact processCreateInvoiceRequest_composed _ _
  | fiatDepositResponse m => exact absurd rfl (hno m)
  | karmaBalance m => exact karmaBalance_composed m
  | bankState m => exact .ret _
  | createInvoiceResponse m => exact .ret _
  | fiatDepositRequest m => exact .ret _

theorem processApi_composed {o : Order} {Γ : Set Kind} (msg : Api)
    (hpay : ∀ m, msg ≠ .paymentRequest m) (hswap : ∀ m, msg ≠ .swapResponse m) :
    Composed env o Γ 0 (processApi cfg env msg) (processApi cfg (env.reorder o) msg) := by
  cases msg with
  | invoiceRequest m => exact invoiceRequest_composed m
  | invoiceResponse m => exact invoiceResponse_composed m
  | paymentRequest m => exact absurd rfl (hpay m)
  | swapResponse m => exact absurd rfl (hswap m)
  | getBalances m => exact getBalances_composed m
  | createLnurlWithdrawalRequest m => exact createLnurlWithdrawal_composed m
  | getLnurlWithdrawalRequest m => exact .aside (getLnurlWithdrawal_untouched m)
  | payLnurlWithdrawalRequest m => exact .aside (payLnurlWithdrawal_untouched m)
  | queryRouteRequest m => exact .aside (queryRoute_untouched m)
  | getNodeInfoRequest m => exact .aside (sendApi_untouched _)
  | swapRequest m => exact .aside (send_untouched _ _)
  | quoteRequest m => exact .aside (send_untouched _ _)
  | quoteResponse m => exact .aside (sendApi_untouched _)
  | availableCurrenciesRequest m => exact .aside (send_untouched _ _)
  | availableCurrenciesResponse m => exact .aside (sendApi_untouched _)
  | nostrProfileRequest m => exact .aside (send_untouched _ _)
  | nostrProfileSearchRequest m => exact .aside (send_untouched _ _)
  | nostrProfileSearchResponse m => exact .aside (sendApi_untouched _)
  | paymentResponse m => exact .ret _
  | balances m => exact .ret _
  | getNodeInfoResponse m => exact .ret _
  | createLnurlWithdrawalResponse m => exact .ret _
  | getLnurlWithdrawalResponse m => exact .ret _
  | payLnurlWithdrawalResponse m => exact .ret _
  | queryRouteResponse m => exact .ret _

theorem processMsg_unsummarised {o : Order} {Γ : Set Kind} {msg : Message}
    (hno : ¬Summarising msg) :
    Composed env o Γ 0 (processMsg cfg env msg) (processMsg cfg (env.reorder o) msg) := by
  cases msg with
  | deposit m => exact absurd (.deposit m) hno
  | dealer m =>
    refine processDealer_composed m fun m' hm => hno ?_
    rw [hm]
    exact .fiatDeposit m'
  | api m =>
    refine processApi_composed m (fun m' hm => hno ?_) fun m' hm => hno ?_
    · rw [hm]
      exact .payment m'
    · rw [hm]
      exact .swap m'
  | bank m =>
    cases m with
    | paymentResult res => exact absurd (.result res) hno
    | dcaRebalance m => exact .aside (dcaRebalance_untouched m)
  | cli m =>
    cases m with
    | makeTx tx => exact .first (processMakeTx_composed tx) fun _ => .aside (send_untouched _ _)
    | makeTxResult m => exact .ret _
  | nostr m =>
    cases m with
    | nostrProfilesRefetchRequest m => exact .aside (send_untouched _ _)
    | nostrPrivateMessage m => exact .ret _
    | nostrZapNote m => exact .ret _
  | journal m => exact .ret _

/-- Every message is handled by such calls, and makes one summary at most. -/
theorem processMsg_composed {o : Order} {Γ : Set Kind} (msg : Message) :
    Composed env o Γ 1 (processMsg cfg env msg) (processMsg cfg (env.reorder o) msg) := by
  by_cases hsum : Summarising msg
  · cases hsum with
    | deposit m => exact deposit_composed m
    | fiatDeposit m => exact fiatDepositResponse_composed m
    | payment m => exact paymentRequest_composed m
    | result res => exact paymentResult_composed res
    | swap m => exact swapResponse_composed m
  · exact (processMsg_unsummarised hsum).mono (Nat.zero_le 1)

end Lndhubx
