import Lndhubx.Bank.Entries

/-!
# Summaries and the transactions they refer to

A summary is one row for the user's history: what left one account and what
arrived at another, with the keys of the one or two transactions that booked it.
`make_summary_tx` is given the outbound amount only; the inbound one it makes by
exchanging that amount at the rate of the operation.

Seven of its eight callers have booked the inbound amount in the same way, from
the outbound one and at the same rate, so their summaries match their
transactions (`SummaryTransaction.Matches`). A payment out of a fiat account is
the exception: the total is known in bitcoin, the debit is made from it, and the
summary goes back from the debit to bitcoin (`IsFiatPayment`).

`Sums es Q p` is how a handler is walked through: the transfers `es` are stored
already, and the summary that `p` writes, if it writes one, satisfies `Q`.
-/

namespace Lndhubx

open Prog BankEngine

variable {cfg : Config} {env : Env} {s s' s'' : State} {α β : Type}

/-- The table of transactions, by their keys. -/
abbrev TxTable := Table Txid TransactionRow TransactionRow.txid

/-- The transactions a summary refers to booked what it says: its outbound amount on
its outbound account, and its inbound amount on its inbound account. -/
def SummaryTransaction.Matches (row : SummaryTransaction) (t : TxTable) : Prop :=
  ∃ out ∈ t.rows, ∃ inn ∈ t.rows, row.outboundTxid = some out.txid ∧
    row.inboundTxid = some inn.txid ∧ out.outboundAccountId = row.outboundAccountId ∧
    inn.inboundAccountId = row.inboundAccountId ∧ out.outboundAmount = row.outboundAmount ∧
    inn.inboundAmount = row.inboundAmount

instance (row : SummaryTransaction) (t : TxTable) : Decidable (row.Matches t) :=
  inferInstanceAs (Decidable (∃ out ∈ t.rows, ∃ inn ∈ t.rows, _))

/-! ## What happens to the two tables -/

/-- Transactions were added at most. -/
structure Grows (s s' : State) : Prop where
  transactions : ∀ row ∈ s.db.transactions.rows, row ∈ s'.db.transactions.rows
  summaries : s'.db.summaryTransactions = s.db.summaryTransactions

instance : Std.Refl Grows := ⟨fun _ => ⟨fun _ h => h, rfl⟩⟩

instance : IsTrans State Grows :=
  ⟨fun _ _ _ h h' => ⟨fun row hrow => h'.transactions row (h.transactions row hrow),
    h'.summaries.trans h.summaries⟩⟩

/-- Both tables are as they were. -/
structure SameRows (s s' : State) : Prop where
  transactions : s'.db.transactions = s.db.transactions
  summaries : s'.db.summaryTransactions = s.db.summaryTransactions

instance : Std.Refl SameRows := ⟨fun _ => ⟨rfl, rfl⟩⟩

instance : IsTrans State SameRows :=
  ⟨fun _ _ _ h h' => ⟨h'.transactions.trans h.transactions, h'.summaries.trans h.summaries⟩⟩

/-- A table that stays has grown by nothing. -/
theorem SameRows.grows (h : SameRows s s') : Grows s s' :=
  ⟨fun row hrow => by rw [h.transactions]; exact hrow, h.summaries⟩

/-- The same of a handler. -/
theorem grows_of_sameRows {p : Handler α} (h : Keeps SameRows p) : Keeps Grows p :=
  h.mono fun _ _ => SameRows.grows

/-- A transfer as it was stored. -/
structure TxEntry where
  txid : Txid
  outbound : AccountId
  inbound : AccountId
  amount : Decimal

/-- There is a row for it. -/
def TxEntry.In (e : TxEntry) (t : TxTable) : Prop :=
  ∃ row ∈ t.rows, row.txid = e.txid ∧ row.outboundAccountId = e.outbound ∧
    row.inboundAccountId = e.inbound ∧ row.outboundAmount = e.amount ∧ row.inboundAmount = e.amount

/-- A row that is stored stays stored. -/
theorem TxEntry.In.grows {e : TxEntry} (h : e.In s.db.transactions) (hg : Grows s s') :
    e.In s'.db.transactions := by
  obtain ⟨row, hrow, h⟩ := h
  exact ⟨row, hg.transactions row hrow, h⟩

/-- The row `make_summary_tx` makes of its arguments. -/
structure IsSummary (x : SummaryTx) (row : SummaryTransaction) : Prop where
  outboundTxid : row.outboundTxid = some x.outboundTxid
  inboundTxid : row.inboundTxid = some x.inboundTxid
  outboundAccountId : row.outboundAccountId = x.outboundAccount.accountId
  inboundAccountId : row.inboundAccountId = x.inboundAccount.accountId
  outboundAmount : row.outboundAmount = x.amount.value
  inboundAmount : ∃ inbound, x.amount.exchange
    (x.rate.getD (Rate.new x.outboundAccount.currency x.inboundAccount.currency 1))
      = .ok (.ok inbound) ∧ row.inboundAmount = inbound.value
  outboundCurrency : row.outboundCurrency = x.outboundAccount.currency.display
  inboundCurrency : row.inboundCurrency = x.inboundAccount.currency.display
  amountCurrency : x.amount.currency = x.outboundAccount.currency
  reference : row.reference = some x.reference
  outboundUid : row.outboundUid = asI32 x.outboundUid
  inboundUid : row.inboundUid = asI32 x.inboundUid

/-- A summary matches if and only if its transfers were for its two amounts. -/
theorem IsSummary.matches_iff {x : SummaryTx} {row : SummaryTransaction} {t : TxTable}
    {out inn : TxEntry} (h : IsSummary x row) (hout : out.In t) (hinn : inn.In t)
    (htxid : out.txid = x.outboundTxid) (htxid' : inn.txid = x.inboundTxid)
    (hid : out.outbound = x.outboundAccount.accountId)
    (hid' : inn.inbound = x.inboundAccount.accountId) :
    row.Matches t ↔ out.amount = row.outboundAmount ∧ inn.amount = row.inboundAmount := by
  obtain ⟨o, ho, hotx, hoid, -, hoamount, -⟩ := hout
  obtain ⟨i, hi, hitx, -, hiid, -, hiamount⟩ := hinn
  constructor
  · intro hm
    obtain ⟨o', ho', i', hi', hotx', hitx', -, -, hoamount', hiamount'⟩ := hm
    have heo : o' = o := by
      refine Table.eq_of_key ho' ho (Option.some.inj ?_)
      rw [← hotx', h.outboundTxid, hotx, htxid]
    have hei : i' = i := by
      refine Table.eq_of_key hi' hi (Option.some.inj ?_)
      rw [← hitx', h.inboundTxid, hitx, htxid']
    subst heo hei
    exact ⟨hoamount.symm.trans hoamount', hiamount.symm.trans hiamount'⟩
  · intro hm
    refine ⟨o, ho, i, hi, ?_, ?_, ?_, ?_, hoamount.trans hm.1, hiamount.trans hm.2⟩
    · rw [h.outboundTxid, hotx, htxid]
    · rw [h.inboundTxid, hitx, htxid']
    · rw [h.outboundAccountId, hoid, hid]
    · rw [h.inboundAccountId, hiid, hid']

/-- At most one summary was added, and one that satisfies `Q`. -/
def Adds (Q : SummaryTransaction → TxTable → Prop) (s s' : State) : Prop :=
  s'.db.summaryTransactions = s.db.summaryTransactions ∨
    ∃ row, s'.db.summaryTransactions.rows = s.db.summaryTransactions.rows ++ [row] ∧
      Q row s'.db.transactions

/-- What is said of the new rows may be weakened. -/
theorem Adds.mono {Q Q' : SummaryTransaction → TxTable → Prop} (h : Adds Q s s')
    (hQ : ∀ row t, Q row t → Q' row t) : Adds Q' s s' := by
  rcases h with h | ⟨row, hrow, h⟩
  · exact .inl h
  · exact .inr ⟨row, hrow, hQ row _ h⟩

/-- What came before added none. -/
theorem Adds.after {Q : SummaryTransaction → TxTable → Prop}
    (h : s'.db.summaryTransactions = s.db.summaryTransactions) (h' : Adds Q s' s'') :
    Adds Q s s'' := by
  unfold Adds at h'
  rwa [h] at h'

/-- A message stores no row. -/
theorem send_sameRows (msg : Message) (destination : ServiceIdentity) :
    Keeps SameRows (send msg destination) := fun _ => ⟨rfl, rfl⟩

/-- Nor does an answer to the API. -/
theorem sendApi_sameRows (msg : Api) : Keeps SameRows (sendApi msg) := send_sameRows _ _

/-- Nor does one to the dealer. -/
theorem sendDealer_sameRows (msg : Dealer) : Keeps SameRows (sendDealer msg) := send_sameRows _ _

/-- The ledger is not a table. -/
theorem modifyLedger_sameRows (f : Ledger → Ledger) : Keeps SameRows (modifyLedger f) :=
  fun _ => ⟨rfl, rfl⟩

/-- Nor are the ids that were handed out. -/
theorem handOut_sameRows (a : Account) : Keeps SameRows (handOut a) := fun _ => ⟨rfl, rfl⟩

/-- An account that is opened has no transaction yet. -/
theorem getDefaultAccount_sameRows (o : Owner) (currency : Currency) (t : Option AccountType) :
    Keeps SameRows (getDefaultAccount env o currency t) := by
  refine Keeps.read.bind fun s => ?_
  split
  next => exact handOut_sameRows _
  next => exact (modifyLedger_sameRows _).bind fun _ => handOut_sameRows _

/-- Nor has the entry it is opened in. -/
theorem getOrOpenAccount_sameRows (uid : UserId) (currency : Currency) (t : Option AccountType) :
    Keeps SameRows (getOrOpenAccount env uid currency t) :=
  (modifyLedger_sameRows _).bind fun _ => getDefaultAccount_sameRows _ _ _

/-- A copy is written back to the ledger. -/
theorem insertIntoLedger_sameRows (uid : UserId) (a : Account) :
    Keeps SameRows (insertIntoLedger uid a) :=
  Keeps.read.bind fun _ => .ite (modifyLedger_sameRows _) (.panic _)

/-- So is one of the bank or of the dealer. -/
theorem putAccount_sameRows (o : Owner) (a : Account) : Keeps SameRows (putAccount o a) :=
  modifyLedger_sameRows _

/-- The accounts table is another table. -/
theorem updateAccount_sameRows (a : Account) (uid : UserId) :
    Keeps SameRows (updateAccount env a uid) := by
  refine .ite (.ret _) (.ite (.ret _) (.write fun s => ?_))
  obtain ⟨accounts, hdb⟩ := storeAccount_eq s.db (env.db (.accountInsert uid a.accountId)) a uid
  rw [hdb]
  exact ⟨rfl, rfl⟩

/-- An invoice is read. -/
theorem findInvoice_sameRows (call : DbCall) (pr : String) :
    Keeps SameRows (findInvoice env call pr) := Keeps.read.bind fun _ => .ret _

/-- The invoices are another table. -/
theorem updateInvoice_sameRows (i : Invoice) : Keeps SameRows (updateInvoice env i) := by
  intro s
  show SameRows s (if env.db .invoiceUpdate then _ else s)
  split
  · exact ⟨rfl, rfl⟩
  · exact ⟨rfl, rfl⟩

/-- Who is paid is told over nostr. -/
theorem notifyPaid_sameRows (uid : Int) (text : Checked PaidText) :
    Keeps SameRows (notifyPaid env uid text) := by
  unfold notifyPaid
  split
  next =>
    refine (Keeps.lift _).bind fun _ => .ite ?_ (.ret _)
    split
    next => exact (Keeps.lift _).bind fun _ => send_sameRows _ _
    next => exact .ret _
  next => exact .ret _

/-- So is a zap. -/
theorem publishIfZapNote_sameRows (i : Invoice) (hash preimage : Option String) (t : Nat)
    (internal : Bool) : Keeps SameRows (publishIfZapNote cfg i hash preimage t internal) := by
  refine .ite ?_ (.ret _)
  split
  next => exact (Keeps.lift _).bind fun _ => send_sameRows _ _
  next => exact .ret _

/-- The balances are read and told. -/
theorem sendBankState_sameRows : Keeps SameRows sendBankState :=
  (Keeps.read.bind fun _ => (Keeps.lift _).bind fun _ => .ret _).bind fun _ => sendDealer_sameRows _

/-- A transfer that goes through is stored under the key it returns, and its copies are
those of the two accounts. -/
theorem makeTx_enters (leg : Nat) (outbound : Account) (outboundUid : UserId) (inbound : Account)
    (inboundUid : UserId) (amount : Money) :
    Ensures (makeTx env leg outbound outboundUid inbound inboundUid amount) s fun r s' =>
      Grows s s' ∧ ∀ txid, r.result = .ok txid →
        r.outbound = outbound.shift (-amount.value) ∧ r.inbound = inbound.shift amount.value ∧
        0 < amount.value ∧ outbound.currency = inbound.currency ∧
        TxEntry.In ⟨txid, outbound.accountId, inbound.accountId, amount.value⟩
          s'.db.transactions := by
  have htables : Ensures (makeTx env leg outbound outboundUid inbound inboundUid amount) s
      fun r s' => Grows s s' ∧ ∀ txid, r.result = .ok txid →
        TxEntry.In ⟨txid, outbound.accountId, inbound.accountId, amount.value⟩
          s'.db.transactions := by
    have hfailed : ∀ o i : Account, ∀ t : State, Grows s t → Ensures (failTx o i) t fun r s' =>
        Grows s s' ∧ ∀ txid, r.result = .ok txid → TxEntry.In ⟨txid, outbound.accountId,
          inbound.accountId, amount.value⟩ s'.db.transactions := by
      intro o i t ht
      exact ⟨⟨ht.transactions, ht.summaries⟩, fun txid h => absurd h (by simp)⟩
    have hrefl : Grows s s := Std.Refl.refl s
    unfold makeTx
    refine Ensures.ite (fun _ => hfailed _ _ s hrefl) fun _ => ?_
    refine Ensures.ite (fun _ => hfailed _ _ s hrefl) fun _ => ?_
    refine Ensures.ite (fun _ => hfailed _ _ s hrefl) fun _ => ?_
    refine Ensures.lift_bind fun _ _ => Ensures.lift_bind fun _ _ => Ensures.get_bind ?_
    dsimp only
    split
    next transactions hins =>
      split at hins
      next =>
        have hrows := Table.insert_rows hins
        refine ⟨⟨fun row hrow => ?_, rfl⟩, fun txid htxid => ?_⟩
        · show row ∈ transactions.rows
          rw [hrows]
          exact List.mem_append_left _ hrow
        · have htxid := Except.ok.inj htxid
          refine ⟨_, by rw [hrows]; exact List.mem_append_right _ (List.mem_singleton.mpr rfl), ?_⟩
          exact ⟨htxid, rfl, rfl, rfl, rfl⟩
      next => exact absurd hins (by simp)
    next => exact Ensures.set_bind (hfailed _ _ _ ⟨fun _ h => h, rfl⟩)
  refine (htables.and (makeTx_spec leg outbound outboundUid inbound inboundUid amount)).mono
    fun r s' h => ⟨h.1.1, fun txid hr => ?_⟩
  obtain ⟨hv, hcur, -, hout, hinn⟩ := h.2.stored txid hr
  exact ⟨hout, hinn, hv, hcur, h.1.2 txid hr⟩

/-- A transaction is added to the table. -/
theorem makeTx_grows (leg : Nat) (outbound : Account) (outboundUid : UserId) (inbound : Account)
    (inboundUid : UserId) (amount : Money) :
    Keeps Grows (makeTx env leg outbound outboundUid inbound inboundUid amount) := fun _ =>
  (makeTx_enters leg outbound outboundUid inbound inboundUid amount).mono fun _ _ h => h.1

/-- A summary that is stored is the row of its arguments. -/
theorem makeSummaryTx_adds (x : SummaryTx) :
    Ensures (makeSummaryTx env x) s fun _ s' =>
      s'.db.transactions = s.db.transactions ∧ Adds (fun row _ => IsSummary x row) s s' := by
  unfold makeSummaryTx
  refine Ensures.ite (fun _ => ⟨rfl, .inl rfl⟩) fun _ => ?_
  refine Ensures.ite (fun _ => Ensures.panic _) fun hcur => ?_
  have hcur : x.amount.currency = x.outboundAccount.currency := not_not.mp hcur
  refine Ensures.ite (fun _ => ⟨rfl, .inl rfl⟩) fun _ => ?_
  refine Ensures.lift_bind fun exchanged hexchanged => Ensures.lift_bind fun inbound hinbound => ?_
  have hinbound := Checked.unwrapOk_eq_ok.mp hinbound
  subst hinbound
  refine Ensures.get_bind ?_
  dsimp only
  split
  next summaries hins =>
    split at hins
    next =>
      refine ⟨rfl, .inr ⟨_, Table.insert_rows hins, ?_⟩⟩
      exact ⟨rfl, rfl, rfl, rfl, rfl, ⟨inbound, hexchanged, rfl⟩, rfl, rfl, hcur, rfl,
        by dsimp only, by dsimp only⟩
    next => exact absurd hins (by simp)
  next => exact ⟨rfl, .inl rfl⟩

/-! ## Walking through a handler -/

/-- With the transfers `es` stored, `p` writes at most one summary, and one that
satisfies `Q`. -/
def Sums (es : List TxEntry) (Q : SummaryTransaction → TxTable → Prop) (p : Handler α) : Prop :=
  ∀ s, (∀ e ∈ es, e.In s.db.transactions) → Ensures p s fun _ s' => Adds Q s s'

namespace Sums

variable {es : List TxEntry} {Q Q' : SummaryTransaction → TxTable → Prop}

/-- What is said of the summaries may be weakened. -/
theorem mono {p : Handler α} (h : Sums es Q p) (hQ : ∀ row t, Q row t → Q' row t) :
    Sums es Q' p := fun s hs => (h s hs).mono fun _ _ h => h.mono hQ

/-- A part without a summary. -/
theorem of_grows {p : Handler α} (h : Keeps Grows p) : Sums es Q p := fun s _ =>
  (h s).mono fun _ _ hs => .inl hs.summaries

/-- To return stores nothing. -/
theorem ret (a : α) : Sums es Q (pure a : Handler α) := of_grows (.ret a)

/-- A panic leaves nothing to show. -/
theorem panic (e : Panic) : Sums es Q (throw e : Handler α) := of_grows (.panic e)

/-- Both ways of a choice. -/
theorem ite {c : Prop} [Decidable c] {p q : Handler α} (hp : c → Sums es Q p)
    (hq : ¬c → Sums es Q q) : Sums es Q (if c then p else q) := fun s hs =>
  .ite (fun hc => hp hc s hs) fun hc => hq hc s hs

/-- A computation without state first. -/
theorem lift {x : Checked β} {f : β → Handler α} (hf : ∀ b, x = .ok b → Sums es Q (f b)) :
    Sums es Q (liftM x >>= f) := fun s hs => Ensures.lift_bind fun b hb => hf b hb s hs

/-- The state is read first. -/
theorem read {f : State → Handler α} (hf : ∀ s, Sums es Q (f s)) : Sums es Q (get >>= f) :=
  fun s hs => Ensures.get_bind (hf s s hs)

/-- What comes before touches neither table, and returns something that is `P`. -/
theorem after_of {P : β → Prop} {q : Handler β} {f : β → Handler α} (hq : Keeps SameRows q)
    (hP : ∀ s, Ensures q s fun b _ => P b) (hf : ∀ b, P b → Sums es Q (f b)) :
    Sums es Q (q >>= f) := by
  intro s hs
  refine ((hq s).and (hP s)).bind fun b s₁ h₁ => ?_
  refine (hf b h₁.2 s₁ fun e he => (hs e he).grows h₁.1.grows).mono fun _ s₂ h₂ => ?_
  exact .after h₁.1.summaries h₂

/-- Something that stores no row first. -/
theorem after {q : Handler β} {f : β → Handler α} (hq : Keeps SameRows q)
    (hf : ∀ b, Sums es Q (f b)) : Sums es Q (q >>= f) :=
  after_of (P := fun _ => True) hq (fun s => (hq s).mono fun _ _ _ => trivial) fun b _ => hf b

/-- Something that stores no row last. -/
theorem before {q : Handler β} {f : β → Handler α} (hq : Sums es Q q)
    (hf : ∀ b, Keeps SameRows (f b)) : Sums es Q (q >>= f) := by
  intro s hs
  refine (hq s hs).bind fun b s₁ h₁ => (hf b s₁).mono fun _ s₂ h₂ => ?_
  unfold Adds
  rwa [h₂.summaries, h₂.transactions]

/-- A transfer that goes through is one more that is stored. -/
theorem tx {leg : Nat} {outbound inbound : Account} {outboundUid inboundUid : UserId}
    {amount : Money} {f : TxOutcome → Handler α}
    (hok : ∀ txid, 0 < amount.value → outbound.currency = inbound.currency →
      Sums (⟨txid, outbound.accountId, inbound.accountId, amount.value⟩ :: es) Q
        (f ⟨outbound.shift (-amount.value), inbound.shift amount.value, .ok txid⟩))
    (hno : ∀ o i e, Sums es Q (f ⟨o, i, .error e⟩)) :
    Sums es Q (makeTx env leg outbound outboundUid inbound inboundUid amount >>= f) := by
  intro s hs
  refine (makeTx_enters leg outbound outboundUid inbound inboundUid amount).bind ?_
  intro r s₁ h
  obtain ⟨hgrows, hstored⟩ := h
  obtain ⟨o, i, result⟩ := r
  have hs₁ : ∀ e ∈ es, e.In s₁.db.transactions := fun e he => (hs e he).grows hgrows
  cases result with
  | error e => exact (hno o i e s₁ hs₁).mono fun _ s₂ h₂ => .after hgrows.summaries h₂
  | ok txid =>
    obtain ⟨hout, hinn, hv, hcur, hin⟩ := hstored txid rfl
    rw [show o = _ from hout, show i = _ from hinn]
    refine (hok txid hv hcur s₁ fun e he => ?_).mono fun _ s₂ h₂ => .after hgrows.summaries h₂
    rcases List.mem_cons.mp he with rfl | he
    · exact hin
    · exact hs₁ e he

/-- The summary itself: it is of the transactions that are known to be stored. -/
theorem summary {x : SummaryTx} {f : Except BankError Txid → Handler α}
    (hQ : ∀ row t, (∀ e ∈ es, e.In t) → IsSummary x row → Q row t)
    (hf : ∀ r, Keeps SameRows (f r)) : Sums es Q (makeSummaryTx env x >>= f) := by
  refine before (fun s hs => ?_) hf
  refine (makeSummaryTx_adds x).mono fun _ s₁ h => ?_
  obtain ⟨htx, hsame | ⟨row, hrow, hsum⟩⟩ := h
  · exact .inl hsame
  · refine .inr ⟨row, hrow, hQ row _ (fun e he => ?_) hsum⟩
    rw [htx]
    exact hs e he

end Sums

/-! ## Where summary and transactions are made alike -/

/-- An amount with no more decimal places than its currency has, as every way of
making a `Money` leaves it. -/
def Money.Normal (m : Money) : Prop := Decimal.HasDp m.currency.dp m.value

/-- Money is made with the digits of its currency. -/
theorem Money.normal_new (c : Currency) (x : Decimal) : (Money.new c x).Normal :=
  Decimal.roundDp_hasDp _ _ _

/-- So is an amount of satoshis. -/
theorem Money.normal_fromSats (x : Decimal) : (Money.fromSats x).Normal :=
  Decimal.roundDp_hasDp _ _ _

/-- And what an exchange gives. -/
theorem Money.normal_of_exchange {m d : Money} {rate : Rate} (h : m.exchange rate = .ok (.ok d)) :
    d.Normal := by
  rcases Money.exchange_eq_ok h with ⟨-, rfl⟩ | ⟨-, -, -, rfl⟩
  · exact Money.normal_new _ _
  · exact Money.normal_new _ _

/-- One transfer within a currency, and its summary. -/
theorem IsSummary.matches_one {x : SummaryTx} {row : SummaryTransaction} {t : TxTable}
    {e : TxEntry} {c : Currency} (h : IsSummary x row) (he : e.In t)
    (hout : e.txid = x.outboundTxid) (hinn : e.txid = x.inboundTxid)
    (hid : e.outbound = x.outboundAccount.accountId)
    (hid' : e.inbound = x.inboundAccount.accountId) (hamount : e.amount = x.amount.value)
    (hnormal : x.amount.Normal) (hc : x.amount.currency = c)
    (hrate : x.rate.getD (Rate.new x.outboundAccount.currency x.inboundAccount.currency 1)
      = Rate.new c c 1) : row.Matches t := by
  refine (h.matches_iff he he hout hinn hid hid').mpr ⟨?_, ?_⟩
  · rw [hamount, h.outboundAmount]
  · obtain ⟨inbound, hex, hrow⟩ := h.inboundAmount
    rw [hrate] at hex
    unfold Money.Normal at hnormal
    rw [hc] at hnormal
    rw [hrow, hamount, exchange_unit hc hnormal hex]

/-- Two transfers, the second for what the first is worth at the rate of the summary. -/
theorem IsSummary.matches_two {x : SummaryTx} {row : SummaryTransaction} {t : TxTable}
    {out inn : TxEntry} {rate : Rate} {worth : Money} (h : IsSummary x row) (ho : out.In t)
    (hi : inn.In t) (hout : out.txid = x.outboundTxid) (hinn : inn.txid = x.inboundTxid)
    (hid : out.outbound = x.outboundAccount.accountId)
    (hid' : inn.inbound = x.inboundAccount.accountId) (hamount : out.amount = x.amount.value)
    (hrate : x.rate = some rate) (hworth : x.amount.exchange rate = .ok (.ok worth))
    (hamount' : inn.amount = worth.value) : row.Matches t := by
  refine (h.matches_iff ho hi hout hinn hid hid').mpr ⟨?_, ?_⟩
  · rw [hamount, h.outboundAmount]
  · obtain ⟨inbound, hex, hrow⟩ := h.inboundAmount
    rw [hrate] at hex
    have heq := Except.ok.inj (Except.ok.inj (hex.symm.trans hworth))
    rw [hrow, hamount', heq]

/-- The summary of a transfer between users. -/
structure IsInternal (row : SummaryTransaction) (t : TxTable) : Prop where
  booked : row.Matches t
  reference : row.reference = some "InternalTransfer"

/-- A payment between users has one transaction, of one amount. -/
theorem makeInternalTx_sums {req : PaymentRequest}
    (hnormal : ∀ a, req.amount = some a → a.Normal) :
    Sums [] IsInternal (makeInternalTx cfg env req) := by
  have hrefuse (m : PaymentResponse) (e : PaymentResponseError) :
      Sums [] IsInternal (do sendApi (.paymentResponse m); return (.error e : Except _ Unit)) :=
    .after (sendApi_sameRows _) fun _ => .ret _
  refine .ite (fun _ => .ret _) fun _ => ?_
  split
  next username =>
    refine .lift fun amount hamount => ?_
    have hnormal := hnormal amount (Checked.unwrap_eq_ok.mp hamount)
    split
    next inboundUser _ =>
      split
      next outboundUser _ =>
        refine .ite (fun _ => .ret _) fun _ => .read fun s => .ite (fun _ => .ret _) fun _ => ?_
        refine .after (getDefaultAccount_sameRows _ _ _) fun outbound => ?_
        refine .after (getOrOpenAccount_sameRows _ _ _) fun inbound => ?_
        refine .ite (fun _ => hrefuse _ _) fun _ => ?_
        refine .tx (fun txid _ hcur => ?_) fun _ _ _ => .ret _
        refine .summary (fun row t hs h => ⟨?_, h.reference⟩) fun r => ?_
        · -- both accounts are in one currency, which is also that of the amount
          have hc : amount.currency = outbound.currency := h.amountCurrency
          refine h.matches_one (hs _ List.mem_cons_self) rfl rfl rfl rfl rfl hnormal hc ?_
          show Rate.new outbound.currency inbound.currency 1 = _
          rw [hcur]
        · split
          next =>
            refine (insertIntoLedger_sameRows _ _).bind fun _ => ?_
            refine (insertIntoLedger_sameRows _ _).bind fun _ => ?_
            refine (updateAccount_sameRows _ _).bind fun _ => ?_
            refine (updateAccount_sameRows _ _).bind fun _ => ?_
            exact (sendApi_sameRows _).bind fun _ => .ret _
          next => exact .ret _
      next => exact hrefuse _ _
    next => exact hrefuse _ _
  next => exact .panic _

/-! ### Deposits and swaps -/

/-- The accounts that are written back before a summary. -/
theorem putAccount_then {es : List TxEntry} {Q : SummaryTransaction → TxTable → Prop} {o : Owner}
    {a : Account} {f : Unit → Handler α} (hf : ∀ b, Sums es Q (f b)) :
    Sums es Q (putAccount o a >>= f) := .after (putAccount_sameRows o a) hf

/-- A copy is written back between the transactions and their summary. -/
theorem insertIntoLedger_then {es : List TxEntry} {Q : SummaryTransaction → TxTable → Prop}
    {uid : UserId} {a : Account} {f : Unit → Handler α} (hf : ∀ b, Sums es Q (f b)) :
    Sums es Q (insertIntoLedger uid a >>= f) := .after (insertIntoLedger_sameRows uid a) hf

/-- So is the row it is stored in. -/
theorem updateAccount_then {es : List TxEntry} {Q : SummaryTransaction → TxTable → Prop}
    {uid : UserId} {a : Account} {f : Unit → Handler α} (hf : ∀ b, Sums es Q (f b)) :
    Sums es Q (updateAccount env a uid >>= f) := .after (updateAccount_sameRows a uid) hf

/-- A deposit in bitcoin: the amount that was booked is the one summed up. -/
theorem depositBtc_sums (msg : Deposit) (invoice : Invoice) :
    Sums [] SummaryTransaction.Matches (depositBtc cfg env msg invoice) := by
  refine .after (getOrOpenAccount_sameRows _ _ _) fun inbound => ?_
  refine .after (getDefaultAccount_sameRows _ _ _) fun liability => ?_
  refine .tx (fun txid _ hcur => ?_) fun _ _ _ => .ret _
  refine insertIntoLedger_then fun _ => putAccount_then fun _ => ?_
  refine updateAccount_then fun _ => updateAccount_then fun _ => ?_
  refine .summary (fun row t hs h => ?_) fun r => ?_
  · have hc : (Money.fromSats invoice.value).currency = liability.currency := h.amountCurrency
    refine h.matches_one (hs _ List.mem_cons_self) rfl rfl rfl rfl rfl
      (Money.normal_fromSats _) hc ?_
    show Rate.new liability.currency inbound.currency 1 = _
    rw [hcur]
  · split
    next =>
      refine (updateInvoice_sameRows _).bind fun _ => ?_
      exact (notifyPaid_sameRows _ _).bind fun _ => publishIfZapNote_sameRows _ _ _ _ _
    next => exact .ret _

/-- A deposit of the dealer has no summary. -/
theorem handleDealerDeposit_grows (m : Deposit) : Keeps Grows (handleDealerDeposit env m) := by
  refine .ite (.ret _) ((grows_of_sameRows (findInvoice_sameRows _ _)).bind fun found => ?_)
  split
  next invoice =>
    split
    next reference =>
      refine .ite (.ret _) ?_
      refine (grows_of_sameRows (getDefaultAccount_sameRows _ _ _)).bind fun inbound => ?_
      refine (grows_of_sameRows (getDefaultAccount_sameRows _ _ _)).bind fun outbound => ?_
      refine (makeTx_grows _ _ _ _ _ _).bind fun tx => ?_
      refine (grows_of_sameRows (putAccount_sameRows _ _)).bind fun _ => ?_
      refine (grows_of_sameRows (updateAccount_sameRows _ _)).bind fun _ => ?_
      refine (grows_of_sameRows (putAccount_sameRows _ _)).bind fun _ => ?_
      exact grows_of_sameRows (updateAccount_sameRows _ _)
    next => exact .ret _
  next => exact .ret _

/-- Every deposit. -/
theorem deposit_sums (msg : Deposit) :
    Sums [] SummaryTransaction.Matches (BankEngine.deposit cfg env msg) := by
  refine .ite (fun _ => .ret _) fun _ => .after (findInvoice_sameRows _ _) fun found => ?_
  split
  next invoice =>
    refine .ite (fun _ => .of_grows ((handleDealerDeposit_grows msg).bind fun _ => .ret _))
      fun _ => ?_
    refine .lift fun currency _ => .lift fun target _ => .ite (fun _ => ?_) fun _ => ?_
    · exact .after (sendDealer_sameRows _) fun _ => .ret _
    · exact depositBtc_sums msg invoice
  next => exact .ret _

/-- One the dealer has priced: satoshis come in, the priced amount goes out. -/
theorem fiatDepositResponse_sums (msg : FiatDepositResponse) :
    Sums [] SummaryTransaction.Matches (fiatDepositResponse env msg) := by
  refine .ite (fun _ => .ret _) fun _ => .ite (fun _ => .ret _) fun _ => ?_
  refine .after (findInvoice_sameRows _ _) fun found => ?_
  split
  next invoice =>
    split
    next rate _ =>
      refine .after (getOrOpenAccount_sameRows _ _ _) fun inbound => ?_
      refine .after (getDefaultAccount_sameRows _ _ _) fun dealerFiat => ?_
      refine .after (getDefaultAccount_sameRows _ _ _) fun dealerBtc => ?_
      refine .after (getDefaultAccount_sameRows _ _ _) fun liabilities => ?_
      refine .lift fun exchanged hex => .lift fun fiatValue hfiat => ?_
      have hex : msg.amount.exchange rate = .ok (.ok fiatValue) := by
        rw [hex, Checked.unwrapOk_eq_ok.mp hfiat]
      refine .tx (fun outboundTxid _ _ => ?_) fun _ _ _ => .ret _
      refine .tx (fun inboundTxid _ _ => ?_) fun _ _ _ => .ret _
      refine insertIntoLedger_then fun _ => putAccount_then fun _ => ?_
      refine putAccount_then fun _ => putAccount_then fun _ => ?_
      refine updateAccount_then fun _ => updateAccount_then fun _ => ?_
      refine updateAccount_then fun _ => updateAccount_then fun _ => ?_
      refine .after sendBankState_sameRows fun _ => .summary (fun row t hs h => ?_) fun r => ?_
      · exact h.matches_two (hs _ (List.mem_cons_of_mem _ List.mem_cons_self))
          (hs _ List.mem_cons_self) rfl rfl rfl rfl rfl rfl hex rfl
      · split
        next => exact (updateInvoice_sameRows _).bind fun _ => notifyPaid_sameRows _ _
        next => exact .ret _
    next => exact .ret _
  next => exact .ret _

/-- A swap: both sides are exchanged at the same rate. -/
theorem swapResponse_sums (msg : SwapResponse) :
    Sums [] SummaryTransaction.Matches (swapResponse env msg) := by
  have hrefuse (es : List TxEntry) (m : SwapResponse) :
      Sums es SummaryTransaction.Matches (do sendApi (.swapResponse m); return ()) :=
    .after (sendApi_sameRows _) fun _ => .ret _
  refine .ite (fun _ => hrefuse _ _) fun _ => .read fun s => .ite (fun _ => hrefuse _ _) fun _ => ?_
  split
  next rate _ =>
    refine .ite (fun _ => hrefuse _ _) fun _ => ?_
    refine .after (getDefaultAccount_sameRows _ _ _) fun outbound => ?_
    refine .after (getDefaultAccount_sameRows _ _ _) fun inbound => ?_
    refine .ite (fun _ => hrefuse _ _) fun _ => ?_
    refine .after (getDefaultAccount_sameRows _ _ _) fun outboundDealer => ?_
    refine .after (getDefaultAccount_sameRows _ _ _) fun inboundDealer => ?_
    refine .ite (fun _ => hrefuse _ _) fun _ => ?_
    refine .tx (fun outboundTxid _ _ => ?_) fun _ _ _ => hrefuse _ _
    refine .lift fun exchanged hex => .lift fun inboundAmount hin => ?_
    have hex : msg.amount.exchange rate = .ok (.ok inboundAmount) := by
      rw [hex, Checked.unwrapOk_eq_ok.mp hin]
    refine .tx (fun inboundTxid _ _ => ?_) fun _ _ _ => hrefuse _ _
    refine insertIntoLedger_then fun _ => insertIntoLedger_then fun _ => ?_
    refine putAccount_then fun _ => putAccount_then fun _ => ?_
    refine updateAccount_then fun _ => updateAccount_then fun _ => ?_
    refine updateAccount_then fun _ => updateAccount_then fun _ => ?_
    refine .after (sendApi_sameRows _) fun _ => .after sendBankState_sameRows fun _ => ?_
    refine .summary (fun row t hs h => ?_) fun _ => .ret _
    exact h.matches_two (hs _ (List.mem_cons_of_mem _ List.mem_cons_self))
      (hs _ List.mem_cons_self) rfl rfl rfl rfl rfl rfl hex rfl
  next => exact hrefuse _ _

/-! ### Payments -/

/-- The summary of a payment out of a fiat account. What it says arrived is the
debit, changed back into bitcoin; what arrived is the total. -/
structure IsFiatPayment (p : Outgoing) (row : SummaryTransaction) (t : TxTable) : Prop where
  matches_iff : row.Matches t ↔ row.inboundAmount = p.totalInBtc.value
  back : ∃ back, p.debit.exchange p.rate = .ok (.ok back) ∧ row.inboundAmount = back.value
  outboundAmount : row.outboundAmount = p.debit.value
  positive : 0 < p.debit.value ∧ 0 < p.totalInBtc.value
  debitCurrency : p.debit.currency = p.msg.currency
  outboundCurrency : row.outboundCurrency = p.msg.currency.display
  inboundCurrency : row.inboundCurrency = Currency.BTC.display
  outboundUid : row.outboundUid = asI32 p.msg.uid
  inboundUid : row.inboundUid = asI32 BANK_UID
  reference : row.reference = some "ExternalPayment"

/-- A debit in fiat: the summary exchanges back what was exchanged. -/
theorem debitFiat_sums {p : Outgoing} {outbound liability : Account}
    (houtc : outbound.currency = p.msg.currency) (hlic : liability.currency = .BTC) :
    Sums [] (IsFiatPayment p) (debitFiat env p outbound liability) := by
  refine .after (getDefaultAccount_sameRows _ _ _) fun dealerFiat => ?_
  refine .tx (fun outboundTxid hdebit _ => ?_) fun _ _ _ => .ret _
  refine .after (getDefaultAccount_sameRows _ _ _) fun dealerBtc => ?_
  refine .tx (fun inboundTxid htotal _ => ?_) fun _ _ _ => .ret _
  refine insertIntoLedger_then fun _ => putAccount_then fun _ => ?_
  refine putAccount_then fun _ => putAccount_then fun _ => ?_
  refine updateAccount_then fun _ => updateAccount_then fun _ => ?_
  refine updateAccount_then fun _ => updateAccount_then fun _ => ?_
  refine .summary (fun row t hs h => ?_) fun r => ?_
  · obtain ⟨back, hback, hrow⟩ := h.inboundAmount
    have hm := h.matches_iff (hs _ (List.mem_cons_of_mem _ List.mem_cons_self))
      (hs _ List.mem_cons_self) rfl rfl rfl rfl
    refine ⟨hm.trans ⟨fun hboth => hboth.2.symm, fun hinn => ⟨h.outboundAmount.symm, hinn.symm⟩⟩,
      ⟨back, hback, hrow⟩, h.outboundAmount, ⟨hdebit, htotal⟩, ?_, ?_, ?_, h.outboundUid,
      h.inboundUid, h.reference⟩
    · rw [← houtc]
      exact h.amountCurrency
    · rw [← houtc]
      exact h.outboundCurrency
    · rw [← hlic]
      exact h.inboundCurrency
  · split
    next => exact .ret _
    next => exact .ret _

/-- A debit in bitcoin: the total is the debit. -/
theorem debitBtc_sums {p : Outgoing} {outbound liability : Account}
    (hlic : liability.currency = .BTC) (htotal : p.totalInBtc.value = p.debit.value)
    (hnormal : p.totalInBtc.Normal) (htotalc : p.totalInBtc.currency = .BTC) :
    Sums [] SummaryTransaction.Matches (debitBtc env p outbound liability) := by
  refine .tx (fun txid _ hcur => ?_) fun _ _ _ => .after (sendApi_sameRows _) fun _ => .ret _
  refine putAccount_then fun _ => insertIntoLedger_then fun _ => ?_
  refine updateAccount_then fun _ => updateAccount_then fun _ => ?_
  refine .summary (fun row t hs h => ?_) fun r => ?_
  · refine h.matches_one (hs _ List.mem_cons_self) rfl rfl rfl rfl htotal.symm hnormal htotalc ?_
    show Rate.new outbound.currency liability.currency 1 = _
    rw [hcur, hlic]
  · split
    next => exact .ret _
    next => exact .ret _

/-- A task stores no row. -/
theorem spawnPayment_sameRows (p : Outgoing) : Keeps SameRows (spawnPayment p) :=
  (Keeps.lift _).bind fun _ => (Keeps.lift _).bind fun _ => .write fun _ => ⟨rfl, rfl⟩

/-- The bank's liability account is in bitcoin. -/
theorem getLiabilityAccount_currency (s : State) :
    Ensures (getLiabilityAccount env) s fun a _ => a.currency = .BTC :=
  getLiabilityAccount_spec.mono fun _ _ h => h.2.2.1

/-- A payment over the node out of an account in fiat. -/
theorem payExternally_fiat_sums {p : Outgoing} {outbound : Account} (hfiat : p.msg.currency ≠ .BTC)
    (houtc : outbound.currency = p.msg.currency) :
    Sums [] (IsFiatPayment p) (payExternally env p outbound) := by
  refine .after_of (getDefaultAccount_sameRows _ _ _) getLiabilityAccount_currency ?_
  intro liability hlic
  rw [if_pos hfiat]
  exact .before (debitFiat_sums houtc hlic) fun _ => .ite (spawnPayment_sameRows p) (.ret _)

/-- One out of an account in bitcoin. -/
theorem payExternally_btc_sums {p : Outgoing} {outbound : Account} (hbtc : p.msg.currency = .BTC)
    (htotal : p.totalInBtc.value = p.debit.value) (hnormal : p.totalInBtc.Normal)
    (htotalc : p.totalInBtc.currency = .BTC) :
    Sums [] SummaryTransaction.Matches (payExternally env p outbound) := by
  refine .after_of (getDefaultAccount_sameRows _ _ _) getLiabilityAccount_currency ?_
  intro liability hlic
  rw [if_neg (not_not.mpr hbtc)]
  exact .before (debitBtc_sums hlic htotal hnormal htotalc) fun _ =>
    .ite (spawnPayment_sameRows p) (.ret _)

/-- The owner of an invoice is paid as a user is. -/
theorem payOwner_sums {msg : PaymentRequest} {invoice : Invoice} {owner : Int}
    (hnormal : ∀ a, msg.amount = some a → a.Normal) :
    Sums [] IsInternal (payOwner cfg env msg invoice owner) := by
  unfold payOwner
  split
  next user _ =>
    refine .before (makeInternalTx_sums hnormal) fun r => ?_
    split
    next => exact (updateInvoice_sameRows _).bind fun _ => publishIfZapNote_sameRows _ _ _ _ _
    next => exact .ret _
  next => exact .after (sendApi_sameRows _) fun _ => .ret _

/-! ### Refunds -/

/-- The summary of a refund. -/
structure IsRefund (res : PaymentResult) (row : SummaryTransaction) (t : TxTable) : Prop where
  booked : row.Matches t
  inbound : ∃ inbound, res.amount.exchange res.rate = .ok (.ok inbound) ∧
    row.inboundAmount = inbound.value
  outboundAmount : row.outboundAmount = res.amount.value
  outboundCurrency : row.outboundCurrency = res.amount.currency.display
  inboundCurrency : ∃ c : Currency, row.inboundCurrency = c.display
  outboundUid : row.outboundUid = asI32 BANK_UID
  inboundUid : row.inboundUid = asI32 res.uid
  reference : row.reference = some "PaymentRefund"

/-- A refund in fiat: what the total exchanges to is what was booked. -/
theorem refundFiat_sums {res : PaymentResult} {refund : Money} {liabilities inbound : Account}
    (hrefund : res.amount.exchange res.rate = .ok (.ok refund)) :
    Sums [] (IsRefund res) (refundFiat env res refund liabilities inbound) := by
  refine .after (getDefaultAccount_sameRows _ _ _) fun dealerBtc => ?_
  refine .after (getDefaultAccount_sameRows _ _ _) fun dealerFiat => ?_
  refine .tx (fun outboundTxid _ _ => ?_) fun _ _ _ => .ret _
  refine .tx (fun inboundTxid _ _ => ?_) fun _ _ _ => .ret _
  refine putAccount_then fun _ => putAccount_then fun _ => ?_
  refine putAccount_then fun _ => insertIntoLedger_then fun _ => ?_
  refine updateAccount_then fun _ => updateAccount_then fun _ => ?_
  refine updateAccount_then fun _ => updateAccount_then fun _ => ?_
  refine .summary (fun row t hs h => ?_) fun r => ?_
  · refine ⟨?_, h.inboundAmount, h.outboundAmount, ?_, ⟨_, h.inboundCurrency⟩, h.outboundUid,
      h.inboundUid, h.reference⟩
    · exact h.matches_two (hs _ (List.mem_cons_of_mem _ List.mem_cons_self))
        (hs _ List.mem_cons_self) rfl rfl rfl rfl rfl rfl hrefund rfl
    · rw [h.outboundCurrency, ← h.amountCurrency]
  · split
    next => exact .ret _
    next => exact .ret _

/-- A refund in bitcoin is of the total. -/
theorem refundBtc_sums {res : PaymentResult} {liabilities inbound : Account}
    (hnormal : res.amount.Normal) (hc : res.amount.currency = .BTC)
    (hrate : res.rate = Rate.new .BTC .BTC 1) :
    Sums [] (IsRefund res) (refundBtc env res liabilities inbound) := by
  refine .tx (fun txid _ _ => ?_) fun _ _ _ => .ret _
  refine putAccount_then fun _ => insertIntoLedger_then fun _ => ?_
  refine updateAccount_then fun _ => updateAccount_then fun _ => ?_
  refine .summary (fun row t hs h => ?_) fun r => ?_
  · refine ⟨?_, h.inboundAmount, h.outboundAmount, ?_, ⟨_, h.inboundCurrency⟩, h.outboundUid,
      h.inboundUid, h.reference⟩
    · exact h.matches_one (hs _ List.mem_cons_self) rfl rfl rfl rfl rfl hnormal hc hrate
    · rw [h.outboundCurrency, ← h.amountCurrency]
  · split
    next => exact .ret _
    next => exact .ret _

/-- What the node did not charge has no summary. -/
theorem moveExcessFees_grows (excess : Decimal) (liabilities dealerBtc : Account) :
    Keeps Grows (moveExcessFees env excess liabilities dealerBtc) := by
  refine .ite (.ret _) ((makeTx_grows _ _ _ _ _ _).bind fun r => ?_)
  split
  next =>
    refine grows_of_sameRows ((putAccount_sameRows _ _).bind fun _ => ?_)
    refine (putAccount_sameRows _ _).bind fun _ => (updateAccount_sameRows _ _).bind fun _ => ?_
    exact (updateAccount_sameRows _ _).bind fun _ => .ret _
  next => exact .ret _

/-- Nor has a payment that went through, beyond that of its debit. -/
theorem settlePayment_grows (res : PaymentResult) (liabilities dealerBtc : Account) :
    Keeps Grows (settlePayment env res liabilities dealerBtc) := by
  refine (Keeps.lift _).bind fun _ => (Keeps.lift _).bind fun _ => ?_
  refine (Keeps.lift _).bind fun _ => (Keeps.lift _).bind fun _ => .ite (.panic _) ?_
  refine (moveExcessFees_grows _ _ _).bind fun _ => .ite (.ret _) ?_
  split
  next =>
    refine grows_of_sameRows ((findInvoice_sameRows _ _).bind fun found => ?_)
    split
    next =>
      refine (Keeps.lift _).bind fun _ => (Keeps.lift _).bind fun _ =>
        (Keeps.lift _).bind fun _ => ?_
      exact (updateInvoice_sameRows _).bind fun _ => .ret _
    next => exact .ret _
  next => exact .panic _

/-- The result of a payment carries a bitcoin amount, and the unit rate if it was paid
in bitcoin. -/
structure PaymentResult.Fits (res : PaymentResult) : Prop where
  amount : res.amount.currency = .BTC ∧ res.amount.Normal
  rate : res.currency = .BTC → res.rate = Rate.new .BTC .BTC 1

/-- A result has a summary only if it is refunded. -/
theorem paymentResult_sums {res : PaymentResult} (hres : res.Fits) :
    Sums [] (IsRefund res) (paymentResult env res) := by
  refine .ite (fun _ => .panic _) fun _ => .ite (fun _ => .ret _) fun _ => ?_
  refine .after (getDefaultAccount_sameRows _ _ _) fun liabilities => ?_
  refine .read fun s => .ite (fun _ => .ret _) fun _ => ?_
  refine .after (getDefaultAccount_sameRows _ _ _) fun inbound => ?_
  refine .after (getDefaultAccount_sameRows _ _ _) fun dealerBtc => ?_
  refine .before (.ite (fun _ => ?_) fun _ => ?_) fun answered => ?_
  · exact .of_grows (settlePayment_grows res liabilities dealerBtc)
  · refine .lift fun exchanged hex => .lift fun refund hrefund => ?_
    refine .ite (fun _ => refundFiat_sums ?_) fun hbtc => ?_
    · rw [hex, Checked.unwrapOk_eq_ok.mp hrefund]
    · exact refundBtc_sums hres.amount.2 hres.amount.1 (hres.rate (not_not.mp hbtc))
  · refine .ite (.ret _) (sendBankState_sameRows.bind fun _ => sendApi_sameRows _)

end Lndhubx
