import Lndhubx.Bank.Books
import Lndhubx.Bank.ProcessMsg
import Mathlib.Data.List.Basic

/-!
# What the basic operations do

One lemma for each operation of `Engine`, so that no handler has to be looked
into twice. Three relations between the states before and after are enough:

* `Booked env s ps s'`: the ledger moved by the bookings `ps`, and nothing else
  that later handlers depend on changed — known invoices, the summary table,
  the spawned payments, the open LNURL withdrawals;
* `Booked env s [] s'`, accounts were opened at most: what a handler has done
  when it gives up;
* `Noted s s'`: the books are exactly as they were, only tables written for the
  record and messages were added.

`DbSucceeds env s` says that every database call of a message handled from `s`
succeeds, inserts included; the operations keep it until the summary is
written.
-/

namespace Lndhubx

open Prog BankEngine

/-! ## Transaction keys -/

/-- The key of a transaction gives away its time and its number. -/
theorem txidOf_inj {t t' seq seq' : Nat} (h : txidOf t seq = txidOf t' seq') :
    t = t' ∧ seq = seq' := by
  have hlist : Nat.toDigits 10 t ++ '-' :: Nat.toDigits 10 seq
      = Nat.toDigits 10 t' ++ '-' :: Nat.toDigits 10 seq' := by
    have := congrArg String.toList h
    simpa [txidOf, String.toList_append] using this
  have hdash : ∀ n, '-' ∉ Nat.toDigits 10 n := fun n hmem =>
    absurd (Nat.isDigit_of_mem_toDigits (by decide) (by decide) hmem) (by decide)
  obtain ⟨ht, -, hs⟩ := (List.append_cons_inj_of_notMem (hdash t) (hdash seq)).mp hlist
  have hinj : ∀ m n, Nat.toDigits 10 m = Nat.toDigits 10 n → m = n := fun m n e => by
    rw [← Nat.ofDigitChars_ten_toDigits (n := m), e, Nat.ofDigitChars_ten_toDigits]
  exact ⟨hinj t t' ht, hinj seq seq' hs⟩

/-- The insert of a transaction row succeeds, `k` transactions from now. -/
def TxStored (env : Env) (s : State) (leg k : Nat) : Prop :=
  env.db (.txConn leg) = true ∧ env.db (.txInsert leg) = true ∧
    s.db.transactions.has (txidOf (env.now (.tx leg)) (s.txSeq + 1 + k)) = false

/-- The same transactions can be stored in two states. -/
def SameTx (env : Env) (s s' : State) : Prop :=
  ∀ leg k, TxStored env s' leg k ↔ TxStored env s leg k

/-- Where neither the table nor the count has changed. -/
theorem SameTx.of_eq {env : Env} {s s' : State} (hdb : s'.db.transactions = s.db.transactions)
    (hseq : s'.txSeq = s.txSeq) : SameTx env s s' := by
  intro leg k
  unfold TxStored
  rw [hdb, hseq]

/-- Two parts, one after the other. -/
theorem SameTx.trans {env : Env} {s s' s'' : State} (h : SameTx env s s')
    (h' : SameTx env s' s'') : SameTx env s s'' :=
  fun leg k => (h' leg k).trans (h leg k)

/-- The insert of a summary row succeeds. -/
def SummaryStored (env : Env) (s : State) : Prop :=
  env.db .summaryConn = true ∧ env.db .summaryInsert = true ∧
    s.db.summaryTransactions.has (summaryTxidOf (env.now .summary)) = false

/-- Every database call of a message handled from `s` succeeds. -/
structure DbSucceeds (env : Env) (s : State) : Prop where
  calls : ∀ call, env.db call = true
  tx : ∀ leg k, s.db.transactions.has (txidOf (env.now (.tx leg)) (s.txSeq + 1 + k)) = false
  summary : s.db.summaryTransactions.has (summaryTxidOf (env.now .summary)) = false

/-- A database that succeeds stores every transaction. -/
theorem DbSucceeds.txStored {env : Env} {s : State} (h : DbSucceeds env s) (leg k : Nat) :
    TxStored env s leg k := ⟨h.calls _, h.calls _, h.tx leg k⟩

/-- It depends on two tables and a counter only. -/
theorem DbSucceeds.congr {env : Env} {s s' : State} (h : DbSucceeds env s)
    (htx : s'.db.transactions = s.db.transactions) (hseq : s'.txSeq = s.txSeq)
    (hsum : s'.db.summaryTransactions = s.db.summaryTransactions) : DbSucceeds env s' :=
  ⟨h.calls, by rw [htx, hseq]; exact h.tx, by rw [hsum]; exact h.summary⟩

/-- Storing a transaction takes none of the keys to come: theirs are later
sequence numbers. -/
theorem txStored_after {env : Env} {s : State} {row : TransactionRow}
    {transactions : Table Txid TransactionRow TransactionRow.txid} {t : Nat}
    (hrow : row.txid = txidOf t (s.txSeq + 1))
    (hins : s.db.transactions.insert row = some transactions) (leg k : Nat) :
    TxStored env { s with txSeq := s.txSeq + 1, db := { s.db with transactions } } leg k ↔
      TxStored env s leg (k + 1) := by
  have hkey : ∀ x, transactions.has (txidOf x (s.txSeq + 1 + 1 + k)) = false ↔
      s.db.transactions.has (txidOf x (s.txSeq + 1 + (k + 1))) = false := by
    intro x
    rw [show s.txSeq + 1 + (k + 1) = s.txSeq + 1 + 1 + k by omega, ← not_iff_not,
      Bool.not_eq_false, Bool.not_eq_false, Table.has_insert hins]
    refine ⟨fun h => h.resolve_right fun e => ?_, .inl⟩
    rw [hrow] at e
    have := (txidOf_inj e).2
    omega
  unfold TxStored
  exact and_congr_right fun _ => and_congr_right fun _ => hkey _

/-! ## The relations -/

/-- Two accounts of different currencies are two accounts. -/
theorem Ledger.ref_ne_of_currency {L : Ledger} {r r' : AccountRef} {a b : Account}
    (ha : L.get r = some a) (hb : L.get r' = some b) (h : a.currency ≠ b.currency) : r ≠ r' := by
  intro e
  rw [e, hb] at ha
  injection ha with ha
  exact h (by rw [ha])

/-- Every stored invoice is still found, unchanged. -/
def InvoicesKept (db db' : Db) : Prop :=
  ∀ pr i, db.invoiceByPaymentRequest pr = some i → db'.invoiceByPaymentRequest pr = some i

/-- Not put on the loopback queue, and not the answer to a balance request. -/
def Ordinary (m : Message × ServiceIdentity) : Prop :=
  m.2 ≠ .loopback ∧ ∀ b, m.1 ≠ .api (.balances b)

/-- Payments, withdrawals and the loopback queue are as they were. -/
structure Quiet (s s' : State) : Prop where
  threads : s'.paymentThreads = s.paymentThreads
  lnurl : s'.lnurlWithdrawalRequests = s.lnurlWithdrawalRequests
  sent : ∃ new, s'.sent = s.sent ++ new ∧ ∀ m ∈ new, Ordinary m

/-- Between two states the postings `ps` were booked, and nothing else of note happened. -/
structure Booked (env : Env) (s : State) (ps : List Booking) (s' : State) : Prop
    extends Quiet s s' where
  moves : Moves s.ledger ps s'.ledger
  invoices : InvoicesKept s.db s'.db
  summaries : s'.db.summaryTransactions = s.db.summaryTransactions
  healthy : DbSucceeds env s → DbSucceeds env s'

/-- The weaker relation that survives the writing of a summary. -/
structure Posted (s : State) (ps : List Booking) (s' : State) : Prop extends Quiet s s' where
  moves : Moves s.ledger ps s'.ledger
  invoices : InvoicesKept s.db s'.db

/-- Between two states something was noted outside the ledger. -/
structure Noted (s s' : State) : Prop extends Quiet s s' where
  ledger : s'.ledger = s.ledger
  invoices : s'.db.invoices = s.db.invoices

namespace Quiet

variable {s s' s'' : State}

/-- Neither tasks, withdrawals nor messages were touched. -/
theorem of_eq (ht : s'.paymentThreads = s.paymentThreads)
    (hw : s'.lnurlWithdrawalRequests = s.lnurlWithdrawalRequests) (hs : s'.sent = s.sent) :
    Quiet s s' := ⟨ht, hw, [], by rw [hs, List.append_nil], by simp⟩

theorem refl (s : State) : Quiet s s := of_eq rfl rfl rfl

/-- One part after the other. -/
theorem trans (h : Quiet s s') (h' : Quiet s' s'') : Quiet s s'' := by
  obtain ⟨new, hnew, hord⟩ := h.sent
  obtain ⟨new', hnew', hord'⟩ := h'.sent
  refine ⟨h'.threads.trans h.threads, h'.lnurl.trans h.lnurl, new ++ new', ?_, fun m hm => ?_⟩
  · rw [hnew', hnew, List.append_assoc]
  · rcases List.mem_append.mp hm with hm | hm
    · exact hord m hm
    · exact hord' m hm

end Quiet

namespace Booked

variable {env : Env} {s s' s'' : State} {ps qs : List Booking}

theorem refl (env : Env) (s : State) : Booked env s [] s :=
  ⟨.refl s, .refl, fun _ _ h => h, rfl, fun h => h⟩

/-- One part after the other. -/
theorem trans (h : Booked env s ps s') (h' : Booked env s' qs s'') :
    Booked env s (ps ++ qs) s'' :=
  ⟨h.toQuiet.trans h'.toQuiet, h.moves.trans h'.moves,
    fun pr i hi => h'.invoices pr i (h.invoices pr i hi), h'.summaries.trans h.summaries,
    fun hd => h'.healthy (h.healthy hd)⟩

/-- More accounts opened afterwards. -/
theorem opened (h : Booked env s ps s') (h' : Booked env s' [] s'') : Booked env s ps s'' := by
  have := h.trans h'
  rwa [List.append_nil] at this

/-- A copy stays current while accounts are opened. -/
theorem keeps (h : Booked env s [] s') {r : AccountRef} {a : Account}
    (ha : s.ledger.get r = some a) : s'.ledger.get r = some a := h.moves.keeps ha

/-- Copies of pairwise different accounts, written back. -/
theorem writeBack (env : Env) (ws : List Write)
    (hget : ∀ w ∈ ws, s.ledger.get w.ref = some w.copy) (hnd : (ws.map Write.ref).Nodup) :
    Booked env s (ws.map Write.booking) { s with ledger := s.ledger.writeBack ws } :=
  ⟨.of_eq rfl rfl rfl, .writeBack hget hnd, fun _ _ h => h, rfl,
    fun h => h.congr rfl rfl rfl⟩

/-- One copy, written back. -/
theorem write (env : Env) {o : Owner} {a : Account} (d : Decimal)
    (hget : s.ledger.get (o, a.accountId) = some a) :
    Booked env s [⟨(o, a.accountId), a.currency, d⟩]
      { s with ledger := s.ledger.put o (a.shift d) } :=
  writeBack env [⟨o, a, d⟩] (by simpa [Write.ref] using hget) (by simp)

/-- A copy taken at the beginning, written over what the account holds now. -/
theorem put (h : Booked env s ps s') {o : Owner} {a : Account} (d : Decimal)
    (ha : s.ledger.get (o, a.accountId) = some a) :
    Booked env s
      (ps ++ [⟨(o, a.accountId), a.currency, d - Posting.sumAt ps (o, a.accountId)⟩])
      { s' with ledger := s'.ledger.put o (a.shift d) } := by
  have hw := write (a := a.shift (Posting.sumAt ps (o, a.accountId))) env
    (d - Posting.sumAt ps (o, a.accountId)) (h.moves.get_some ha)
  rw [Account.shift_shift, add_sub_cancel] at hw
  exact h.trans hw

/-- Bookings leave the next summary as storable as it was. -/
theorem summaryStored_iff (h : Booked env s ps s') :
    SummaryStored env s' ↔ SummaryStored env s := by
  unfold SummaryStored
  rw [h.summaries]

/-- A change of nothing the relation speaks of. -/
theorem of_eq (hl : s'.ledger = s.ledger) (hdb : s'.db = s.db) (hseq : s'.txSeq = s.txSeq)
    (hq : Quiet s s') : Booked env s [] s' :=
  ⟨hq, by rw [hl]; exact .refl, by rw [hdb]; exact fun _ _ h => h, by rw [hdb],
    fun h => h.congr (by rw [hdb]) hseq (by rw [hdb])⟩

end Booked

/-- One part after the other. -/
theorem Posted.trans {s s' s'' : State} {ps qs : List Booking} (h : Posted s ps s')
    (h' : Posted s' qs s'') : Posted s (ps ++ qs) s'' :=
  ⟨h.toQuiet.trans h'.toQuiet, h.moves.trans h'.moves,
    fun pr i hi => h'.invoices pr i (h.invoices pr i hi)⟩

/-- What is booked is posted. -/
theorem Booked.posted {env : Env} {s s' : State} {ps : List Booking} (h : Booked env s ps s') :
    Posted s ps s' := ⟨h.toQuiet, h.moves, h.invoices⟩

namespace Noted

/-- An account stays as it is. -/
theorem keeps {s s' : State} (h : Noted s s') {r : AccountRef} {a : Account}
    (ha : s.ledger.get r = some a) : s'.ledger.get r = some a := by
  rw [h.ledger]
  exact ha

/-- Nothing was posted. -/
theorem posted {s s' : State} (h : Noted s s') : Posted s [] s' :=
  ⟨h.toQuiet, by rw [h.ledger]; exact .refl, fun pr i hi => by
      unfold Db.invoiceByPaymentRequest at hi ⊢
      rw [h.invoices]
      exact hi⟩

theorem refl (s : State) : Noted s s := ⟨.refl s, rfl, rfl⟩

/-- One part after the other. -/
theorem trans {s s' s'' : State} (h : Noted s s') (h' : Noted s' s'') : Noted s s'' :=
  ⟨h.toQuiet.trans h'.toQuiet, h'.ledger.trans h.ledger, h'.invoices.trans h.invoices⟩

end Noted

/-- The books as they were, and one invoice settled if the database allows it. -/
structure Settles (env : Env) (i : Invoice) (s s' : State) : Prop extends Quiet s s' where
  ledger : s'.ledger = s.ledger
  invoices : s'.db.invoices =
    if env.db .invoiceUpdate then (s.db.updateInvoice i).invoices else s.db.invoices

/-- An invoice is settled, and something is noted after it. -/
theorem Settles.noted {env : Env} {i : Invoice} {s s' s'' : State} (h : Settles env i s s')
    (h' : Noted s' s'') : Settles env i s s'' :=
  ⟨h.toQuiet.trans h'.toQuiet, h'.ledger.trans h.ledger, h'.invoices.trans h.invoices⟩

/-- Something is noted before an invoice is settled. -/
theorem Noted.settles {env : Env} {i : Invoice} {s s' s'' : State} (h : Noted s s')
    (h' : Settles env i s' s'') : Settles env i s s'' := by
  refine ⟨h.toQuiet.trans h'.toQuiet, h'.ledger.trans h.ledger, ?_⟩
  rw [h'.invoices]
  unfold Db.updateInvoice
  rw [h.invoices]

/-! ## The operations -/

section operations

variable {cfg : Config} {env : Env} {s : State}

/-- An ordinary message is noted. -/
theorem send_noted (msg : Message) (destination : ServiceIdentity)
    (h : Ordinary (msg, destination) := by simp [Ordinary]) :
    Ensures (send msg destination) s fun _ s' => Noted s s' :=
  ⟨⟨rfl, rfl, [(msg, destination)], rfl, fun m hm => by rw [List.mem_singleton.mp hm]; exact h⟩,
    rfl, rfl⟩

/-- And books nothing. -/
theorem send_spec (env : Env) (msg : Message) (destination : ServiceIdentity)
    (h : Ordinary (msg, destination) := by simp [Ordinary]) :
    Ensures (send msg destination) s fun _ s' => Booked env s [] s' ∧ Noted s s' := by
  have hn : Noted s { s with sent := s.sent ++ [(msg, destination)] } :=
    send_noted msg destination h
  exact ⟨.of_eq rfl rfl rfl hn.toQuiet, hn⟩

/-- So does an answer to the API. -/
theorem sendApi_spec (env : Env) (msg : Api) (h : Ordinary (.api msg, .api) := by simp [Ordinary]) :
    Ensures (sendApi msg) s fun _ s' => Booked env s [] s' ∧ Noted s s' :=
  send_spec env _ _ h

/-- And one to the dealer. -/
theorem sendDealer_spec (env : Env) (msg : Dealer) :
    Ensures (sendDealer msg) s fun _ s' => Booked env s [] s' ∧ Noted s s' :=
  send_spec env _ _

/-- A limiter counts, and nothing is booked. -/
theorem checkDepositRequestRateLimit_spec (uid : UserId) :
    Ensures (checkDepositRequestRateLimit cfg env uid) s fun _ s' => Booked env s [] s' :=
  .of_eq rfl rfl rfl (.of_eq rfl rfl rfl)

/-- So does the other, and neither ledger nor tables change. -/
theorem checkWithdrawalRequestRateLimit_spec (uid : UserId) :
    Ensures (checkWithdrawalRequestRateLimit cfg env uid) s fun admitted s' =>
      Booked env s [] s' ∧ s'.ledger = s.ledger ∧ s'.db = s.db ∧ SameTx env s s' ∧
        admitted = (checkRateLimit cfg.withdrawalRequestRateLimiterSettings env.instant
          s.withdrawalRequestRateLimiter uid).1 :=
  ⟨.of_eq rfl rfl rfl (.of_eq rfl rfl rfl), rfl, rfl, .of_eq rfl rfl, rfl⟩

/-- An entry is made where there is none. -/
theorem openUser_spec (env : Env) (uid : UserId) :
    Ensures (modifyLedger (·.openUser uid)) s fun _ s' =>
      Booked env s [] s' ∧ s'.ledger.hasUser uid = true :=
  ⟨⟨.of_eq rfl rfl rfl, .openUser uid .refl, fun _ _ h => h, rfl, fun h => h.congr rfl rfl rfl⟩,
    s.ledger.hasUser_openUser_self uid⟩

/-- A default account: of the currency, and of the type if one is asked for. -/
theorem isDefaultFor_iff {currency : Currency} {t : Option AccountType} {a : Account} :
    isDefaultFor currency t a = true ↔
      a.currency = currency ∧ ∀ t', t = some t' → a.accountType = t' := by
  cases t with
  | none => simp [isDefaultFor]
  | some t => simp [isDefaultFor]

/-- The account handed out is in the ledger, in the currency and of the type
asked for, and at most one account was opened for it. -/
theorem getDefaultAccount_spec (o : Owner) (currency : Currency) (t : Option AccountType) :
    Ensures (getDefaultAccount env o currency t) s fun a s' =>
      Booked env s [] s' ∧ s'.ledger.get (o, a.accountId) = some a ∧ a.currency = currency ∧
        (∀ t', t = some t' → a.accountType = t') ∧ SameTx env s s' := by
  refine Ensures.get_bind ?_
  split
  next a rest hl =>
    have hmem : a ∈ (env.order (s.ledger.holder o).values).filter (isDefaultFor currency t) := by
      rw [hl]; simp
    obtain ⟨hmem, hdef⟩ := List.mem_filter.mp hmem
    have hval : a ∈ (s.ledger.holder o).values := (env.order_perm _).mem_iff.mp hmem
    obtain ⟨hc, ht⟩ := isDefaultFor_iff.mp hdef
    exact ⟨.of_eq rfl rfl rfl (.of_eq rfl rfl rfl), UserAccount.lookup_of_mem_values hval, hc, ht,
      .of_eq rfl rfl⟩
  next hnone =>
    -- the new account has an id that is used nowhere
    have hfresh : env.newUuid s.usedIds ∉ s.ledger.ids := fun hmem =>
      env.newUuid_fresh s.usedIds (List.mem_append_left _ hmem)
    refine ⟨⟨.of_eq rfl rfl rfl, .openAccount .refl (fun o' => ?_) rfl ?_, fun _ _ h => h, rfl,
      fun h => h.congr rfl rfl rfl⟩, Ledger.get_put_self _ _ _, rfl,
      fun t' ht => by simp [ht, Account.new], .of_eq rfl rfl⟩
    · exact Ledger.get_eq_none_of_not_mem_ids hfresh o'
    · intro id b hb hkind
      obtain ⟨hc, ht⟩ := hkind
      have hmem : b ∈ (s.ledger.holder o).values := by
        rw [UserAccount.mem_values_iff, Ledger.get_accountId hb]
        exact hb
      have hin : b ∈ (env.order (s.ledger.holder o).values).filter (isDefaultFor currency t) := by
        refine List.mem_filter.mpr ⟨(env.order_perm _).mem_iff.mpr hmem, isDefaultFor_iff.mpr ?_⟩
        exact ⟨hc, fun t' ht' => by rw [ht, ht']; rfl⟩
      rw [hnone] at hin
      exact absurd hin (by simp)

/-- The balance of the account `getDefaultAccount` would hand out. -/
def defaultBalance (env : Env) (L : Ledger) (o : Owner) (currency : Currency)
    (t : Option AccountType) : Decimal :=
  match (env.order (L.holder o).values).filter (isDefaultFor currency t) with
  | a :: _ => a.balance
  | [] => 0

/-- The default account has the balance the ledger says, and an opened one none. -/
theorem getDefaultAccount_balance (o : Owner) (currency : Currency) (t : Option AccountType) :
    Ensures (getDefaultAccount env o currency t) s fun a s' =>
      a.balance = defaultBalance env s.ledger o currency t ∧ s'.db = s.db := by
  refine Ensures.get_bind ?_
  unfold defaultBalance
  cases (env.order (s.ledger.holder o).values).filter (isDefaultFor currency t) with
  | nil => exact ⟨rfl, rfl⟩
  | cons a l => exact ⟨rfl, rfl⟩

/-- The same in an entry that is made for it. -/
theorem getOrOpenAccount_spec (uid : UserId) (currency : Currency) (t : Option AccountType) :
    Ensures (getOrOpenAccount env uid currency t) s fun a s' =>
      Booked env s [] s' ∧ s'.ledger.get (.user uid, a.accountId) = some a ∧
        a.currency = currency ∧ ∀ t', t = some t' → a.accountType = t' := by
  refine Ensures.bind (openUser_spec env uid) ?_
  intro _ s₁ hspec
  obtain ⟨h₁, -⟩ := hspec
  exact (getDefaultAccount_spec _ _ _).mono fun a s' ⟨h, hget, hc, ht, _⟩ =>
    ⟨h₁.opened h, hget, hc, ht⟩

/-- The bank's liability account is in bitcoin and external. -/
theorem getLiabilityAccount_spec :
    Ensures (getLiabilityAccount env) s fun a s' =>
      Booked env s [] s' ∧ s'.ledger.get (.bank, a.accountId) = some a ∧ a.currency = .BTC ∧
        a.accountType = .external ∧ SameTx env s s' :=
  (getDefaultAccount_spec _ _ _).mono fun _ _ ⟨h, hget, hc, ht, hsame⟩ =>
    ⟨h, hget, hc, ht _ rfl, hsame⟩

/-- An account of the dealer. -/
theorem getDealerAccount_spec (currency : Currency) (t : AccountType) :
    Ensures (getDealerAccount env currency t) s fun a s' =>
      Booked env s [] s' ∧ s'.ledger.get (.dealer, a.accountId) = some a ∧
        a.currency = currency ∧ a.accountType = t ∧ SameTx env s s' :=
  (getDefaultAccount_spec _ _ _).mono fun _ _ ⟨h, hget, hc, ht, hsame⟩ =>
    ⟨h, hget, hc, ht _ rfl, hsame⟩

/-- A copy is written back to its user. -/
theorem insertIntoLedger_spec (uid : UserId) (a : Account) :
    Ensures (insertIntoLedger uid a) s fun _ s' =>
      s' = { s with ledger := s.ledger.put (.user uid) a } := by
  refine Ensures.get_bind (Ensures.ite (fun _ => rfl) fun _ => Ensures.panic _)

/-- A copy is written back to the bank or to the dealer. -/
theorem putAccount_spec (o : Owner) (a : Account) :
    Ensures (putAccount o a) s fun _ s' => s' = { s with ledger := s.ledger.put o a } := rfl

/-- Only the accounts table is written. -/
theorem storeAccount_eq (db : Db) (canInsert : Bool) (a : Account) (uid : UserId) :
    ∃ accounts, storeAccount db canInsert a uid = { db with accounts } := by
  unfold storeAccount
  split
  · exact ⟨_, rfl⟩
  · split
    · dsimp only
      split
      · exact ⟨_, rfl⟩
      · exact ⟨db.accounts, rfl⟩
    · exact ⟨db.accounts, rfl⟩

/-- Its row is stored, if the database takes it. -/
theorem updateAccount_spec (a : Account) (uid : UserId) :
    Ensures (updateAccount env a uid) s fun _ s' => Booked env s [] s' ∧ Noted s s' := by
  refine Ensures.ite (fun _ => ⟨.refl env s, .refl s⟩) fun _ => ?_
  refine Ensures.ite (fun _ => ⟨.refl env s, .refl s⟩) fun _ => ?_
  obtain ⟨accounts, hdb⟩ := storeAccount_eq s.db (env.db (.accountInsert uid a.accountId)) a uid
  show Booked env s [] { s with db := storeAccount _ _ _ _ } ∧ Noted s { s with db := _ }
  rw [hdb]
  exact ⟨⟨.of_eq rfl rfl rfl, .refl, fun _ _ h => h, rfl, fun h => h.congr rfl rfl rfl⟩,
    .of_eq rfl rfl rfl, rfl, rfl⟩

/-- The state of the bank is told to the dealer. -/
theorem sendBankState_spec (env : Env) :
    Ensures sendBankState s fun _ s' => Booked env s [] s' ∧ Noted s s' := by
  refine Ensures.bind (R := fun _ s' => s' = s) ?_ fun _ s' h => ?_
  · exact Ensures.get_bind (Ensures.lift_bind fun _ _ => rfl)
  · subst h
    exact sendDealer_spec env _

/-! ## Double entry -/

/-- What `make_tx` did: the row is stored and both copies are changed, or it is
not and they may be changed all the same. -/
structure TxSpec (env : Env) (s : State) (leg : Nat) (outbound inbound : Account) (amount : Money)
    (r : TxOutcome) (s' : State) : Prop where
  booked : Booked env s [] s'
  noted : Noted s s'
  copies : r.outbound = outbound ∧ r.inbound = inbound ∨
    0 < amount.value ∧ outbound.currency = inbound.currency ∧
      r.outbound = outbound.shift (-amount.value) ∧ r.inbound = inbound.shift amount.value
  stored : ∀ txid, r.result = .ok txid →
    0 < amount.value ∧ outbound.currency = inbound.currency ∧ TxStored env s leg 0 ∧
      r.outbound = outbound.shift (-amount.value) ∧ r.inbound = inbound.shift amount.value
  succeeds : 0 < amount.value → outbound.currency = inbound.currency → TxStored env s leg 0 →
    ∃ txid, r.result = .ok txid
  next : ∀ txid, r.result = .ok txid → ∀ leg k, TxStored env s' leg k ↔ TxStored env s leg (k + 1)

/-- A transaction: both copies are changed, or it fails. -/
theorem makeTx_spec (leg : Nat) (outbound : Account) (outboundUid : UserId) (inbound : Account)
    (inboundUid : UserId) (amount : Money) :
    Ensures (makeTx env leg outbound outboundUid inbound inboundUid amount) s fun r s' =>
      TxSpec env s leg outbound inbound amount r s' := by
  have hrefused :
      ¬(0 < amount.value ∧ outbound.currency = inbound.currency ∧ TxStored env s leg 0) →
      TxSpec env s leg outbound inbound amount
        ⟨outbound, inbound, .error .failedTransaction⟩
        { s with failedTxs := s.failedTxs + 1 } := fun h =>
    ⟨⟨.of_eq rfl rfl rfl, .refl, fun _ _ h => h, rfl, fun h => h.congr rfl rfl rfl⟩,
      ⟨.of_eq rfl rfl rfl, rfl, rfl⟩, .inl ⟨rfl, rfl⟩, fun _ hr => absurd hr (by simp),
      fun h₁ h₂ h₃ => absurd ⟨h₁, h₂, h₃⟩ h, fun _ hr => absurd hr (by simp)⟩
  refine Ensures.ite (fun hv => hrefused fun h => absurd h.1 (not_lt.mpr hv)) fun hv => ?_
  refine Ensures.ite (fun hc => hrefused fun h => hc h.2.1) fun hc => ?_
  refine Ensures.ite (fun hconn => hrefused fun h => ?_) fun hconn => ?_
  · rw [h.2.2.1] at hconn
    exact absurd hconn (by simp)
  refine Ensures.lift_bind fun outboundBalance hsub =>
    Ensures.lift_bind fun inboundBalance hadd => ?_
  obtain ⟨-, rfl⟩ := Decimal.sub_eq_ok.mp hsub
  obtain ⟨-, rfl⟩ := Decimal.add_eq_ok.mp hadd
  have hv' : 0 < amount.value := not_le.mp hv
  have hc' : outbound.currency = inbound.currency := not_not.mp hc
  have hconn' : env.db (.txConn leg) = true := by simpa using hconn
  have hout : { outbound with balance := outbound.balance - amount.value }
      = outbound.shift (-amount.value) := by
    simp [Account.shift, sub_eq_add_neg]
  refine Ensures.get_bind ?_
  dsimp only
  split
  next transactions hins =>
    split at hins
    next hflag =>
      have hfree : s.db.transactions.has (txidOf (env.now (.tx leg)) (s.txSeq + 1)) = false := by
        by_contra hhas
        rw [Table.insert_eq_none.mpr (by simpa using hhas)] at hins
        exact absurd hins (by simp)
      refine ⟨⟨.of_eq rfl rfl rfl, .refl, fun _ _ h => h, rfl, fun h => ?_⟩,
        ⟨.of_eq rfl rfl rfl, rfl, rfl⟩,
        .inr ⟨hv', hc', hout, rfl⟩,
        fun _ _ => ⟨hv', hc', ⟨hconn', hflag, hfree⟩, hout, rfl⟩, fun _ _ _ => ⟨_, rfl⟩,
        fun _ _ => txStored_after rfl hins⟩
      exact ⟨h.calls, fun leg k => ((txStored_after rfl hins leg k).mpr (h.txStored leg _)).2.2,
        h.summary⟩
    next => exact absurd hins (by simp)
  next hins =>
    have hlost : ¬TxStored env s leg 0 := fun hst => by
      rw [if_pos hst.2.1, Table.insert_eq_none] at hins
      exact absurd (hst.2.2.symm.trans hins) (by simp)
    refine ⟨⟨.of_eq rfl rfl rfl, .refl, fun _ _ h => h, rfl, fun h => ?_⟩,
      ⟨.of_eq rfl rfl rfl, rfl, rfl⟩,
      .inr ⟨hv', hc', hout, rfl⟩, fun _ hr => absurd hr (by simp),
      fun _ _ hst => absurd hst hlost, fun _ hr => absurd hr (by simp)⟩
    exact absurd (h.txStored leg 0) hlost

/-- Stored or not, the copies were changed by opposite amounts: by the one asked for
where the row can be stored, else by that one or not at all. -/
theorem TxSpec.exists_amount {leg : Nat} {outbound inbound : Account} {amount : Money}
    {r : TxOutcome} {s' : State} (h : TxSpec env s leg outbound inbound amount r s') :
    ∃ d, r.outbound = outbound.shift (-d) ∧ r.inbound = inbound.shift d ∧
      (d = 0 ∨ d = amount.value) ∧ (0 < amount.value → outbound.currency = inbound.currency →
        TxStored env s leg 0 → d = amount.value) := by
  by_cases hok : 0 < amount.value ∧ outbound.currency = inbound.currency ∧ TxStored env s leg 0
  · obtain ⟨txid, hr⟩ := h.succeeds hok.1 hok.2.1 hok.2.2
    obtain ⟨-, -, -, ho, hi⟩ := h.stored txid hr
    exact ⟨amount.value, ho, hi, .inr rfl, fun _ _ _ => rfl⟩
  · rcases h.copies with ⟨ho, hi⟩ | ⟨-, -, ho, hi⟩
    · refine ⟨0, by simpa using ho, by simpa using hi, .inl rfl, fun hv hc hst => ?_⟩
      exact absurd ⟨hv, hc, hst⟩ hok
    · exact ⟨amount.value, ho, hi, .inr rfl, fun _ _ _ => rfl⟩

/-- What one copy loses the other gains, whether the row was stored or not. -/
theorem TxSpec.exists_delta {leg : Nat} {outbound inbound : Account} {amount : Money}
    {r : TxOutcome} {s' : State} (h : TxSpec env s leg outbound inbound amount r s') :
    ∃ d, r.outbound = outbound.shift (-d) ∧ r.inbound = inbound.shift d := by
  obtain ⟨d, ho, hi, -⟩ := h.exists_amount
  exact ⟨d, ho, hi⟩

/-- The summary is written for the record only; one that is not written leaves the
state as it was, but for the ghost. -/
theorem makeSummaryTx_spec (x : SummaryTx) :
    Ensures (makeSummaryTx env x) s fun r s' =>
      Noted s s' ∧ ((∃ txid, r = .ok txid) ↔ 0 < x.amount.value ∧ SummaryStored env s) ∧
        ((∀ txid, r ≠ .ok txid) → ∃ issued, s' = { s with issued }) := by
  have hrefused (issued : Issued) (h : ¬(0 < x.amount.value ∧ SummaryStored env s)) :
      Noted s { s with issued } ∧
        ((∃ txid, (.error .failedTransaction : Except BankError Txid) = .ok txid) ↔
          0 < x.amount.value ∧ SummaryStored env s) ∧
        ((∀ txid, (.error .failedTransaction : Except BankError Txid) ≠ .ok txid) →
          ∃ issued', { s with issued } = { s with issued := issued' }) :=
    ⟨⟨.of_eq rfl rfl rfl, rfl, rfl⟩, by simpa using h, fun _ => ⟨issued, rfl⟩⟩
  refine Ensures.ite (fun hv => hrefused s.issued fun h => absurd h.1 (not_lt.mpr hv)) fun hv => ?_
  refine Ensures.ite (fun _ => Ensures.panic _) fun _ => ?_
  refine Ensures.ite (fun hconn => hrefused s.issued fun h => ?_) fun hconn => ?_
  · rw [h.2.1] at hconn
    exact absurd hconn (by simp)
  have hv' : 0 < x.amount.value := not_le.mp hv
  have hconn' : env.db .summaryConn = true := by simpa using hconn
  dsimp only
  refine Ensures.lift_bind fun exchanged _ => Ensures.lift_bind fun inbound _ => ?_
  refine Ensures.get_bind ?_
  split
  next summaries hins =>
    split at hins
    next hflag =>
      have hfree : s.db.summaryTransactions.has (summaryTxidOf (env.now .summary)) = false := by
        by_contra hhas
        rw [Table.insert_eq_none.mpr (by simpa using hhas)] at hins
        exact absurd hins (by simp)
      refine Ensures.set_bind ((send_noted _ _).bind ?_)
      intro _ s₁ hn
      have hset : Noted s { s with
          db := { s.db with summaryTransactions := summaries }
          issued := s.issued.addSummary (summaryTxidOf (env.now .summary)) false } :=
        ⟨.of_eq rfl rfl rfl, rfl, rfl⟩
      exact ⟨hset.trans hn, ⟨fun _ => ⟨hv', hconn', hflag, hfree⟩, fun _ => ⟨_, rfl⟩⟩,
        fun hno => absurd rfl (hno _)⟩
    next => exact absurd hins (by simp)
  next hins =>
    refine Ensures.set_bind (hrefused _ fun h => ?_)
    rw [if_pos h.2.2.1, Table.insert_eq_none] at hins
    exact absurd (h.2.2.2.symm.trans hins) (by simp)

/-! ## Invoices and notifications -/

/-- An invoice is read as it is stored. -/
theorem findInvoice_spec (call : DbCall) (pr : String) :
    Ensures (findInvoice env call pr) s fun r s' =>
      s' = s ∧ (∀ i, r = some i → s.db.invoiceByPaymentRequest pr = some i) ∧
        (r = none → env.db call = true → s.db.invoiceByPaymentRequest pr = none) := by
  refine Ensures.get_bind (Ensures.ret ⟨rfl, fun i hi => ?_, fun hnone hcall => ?_⟩)
  · split at hi
    · exact hi
    · exact absurd hi (by simp)
  · rwa [if_pos hcall] at hnone

/-- A new row changes no stored invoice. -/
theorem insertInvoice_spec (i : Invoice) :
    Ensures (insertInvoice env i) s fun stored s' =>
      Booked env s [] s' ∧ s'.ledger = s.ledger ∧ SameTx env s s' ∧
        (stored = true ↔ env.db .invoiceInsert = true ∧ s.db.invoices.has i.paymentHash = false) ∧
        (stored = true → s.db.invoices.insert i = some s'.db.invoices) := by
  refine Ensures.get_bind ?_
  split
  next invoices hins =>
    split at hins
    next hflag =>
      refine ⟨⟨.of_eq rfl rfl rfl, .refl, fun pr j hj => Table.find_insert hins hj, rfl,
        fun h => h.congr rfl rfl rfl⟩, rfl, .of_eq rfl rfl, ⟨fun _ => ⟨hflag, ?_⟩, fun _ => rfl⟩,
        fun _ => hins⟩
      by_contra hhas
      rw [Table.insert_eq_none.mpr (by simpa using hhas)] at hins
      exact absurd hins (by simp)
    next => exact absurd hins (by simp)
  next hins =>
    refine ⟨.refl env s, rfl, .of_eq rfl rfl, ⟨fun h => absurd h (by simp), fun h => ?_⟩,
      fun h => absurd h (by simp)⟩
    rw [if_pos h.1, Table.insert_eq_none] at hins
    exact absurd (h.2.symm.trans hins) (by simp)

/-- An invoice that is stored is updated. -/
theorem updateInvoice_spec (i : Invoice) :
    Ensures (updateInvoice env i) s fun _ s' => Settles env i s s' := by
  show Settles env i s (if env.db .invoiceUpdate then _ else s)
  split
  next h => exact ⟨.of_eq rfl rfl rfl, rfl, by rw [if_pos h]⟩
  next h => exact ⟨.refl s, rfl, by rw [if_neg h]⟩

/-- Who is paid may be told. -/
theorem notifyPaid_spec (uid : Int) (text : Checked PaidText) :
    Ensures (notifyPaid env uid text) s fun _ s' => Noted s s' := by
  unfold notifyPaid
  split
  next =>
    refine Ensures.lift_bind fun wanted _ => Ensures.ite (fun _ => ?_) fun _ => Noted.refl s
    split
    next => exact Ensures.lift_bind fun _ _ => send_noted _ _
    next => exact Noted.refl s
  next => exact Noted.refl s

/-- A zap may be published. -/
theorem publishIfZapNote_spec (i : Invoice) (descriptionHash preimage : Option String) (t : Nat)
    (isInternal : Bool) :
    Ensures (publishIfZapNote cfg i descriptionHash preimage t isInternal) s fun _ s' =>
      Noted s s' := by
  unfold publishIfZapNote
  refine Ensures.ite (fun _ => ?_) fun _ => Noted.refl s
  split
  next => exact Ensures.lift_bind fun _ _ => send_noted _ _
  next => exact Noted.refl s

end operations

end Lndhubx
