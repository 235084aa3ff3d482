import Lndhubx.Bank.Outcome

/-!
# What a message writes

A handler that books works in three stages. It opens the accounts it needs and
stores a transaction row per transfer (`Stage`); it writes the changed copies
back to the ledger and to the accounts table (`Commit`); and it records what it
has done in tables that no balance depends on (`Aside`). `Entered env s rows ws
s'` is the three of them: the rows that were added, and the copies written back.

`Entry` lists, message by message, what can be entered: which rows, which
copies, and what was found out about the accounts on the way. A handler that
gives up between two rows, or between the rows and the copies, has its own case
there: that is where the tables and the ledger part.
-/

namespace Lndhubx

open Prog BankEngine

variable {cfg : Config} {env : Env} {s s' s'' : State}

/-! ## Opening accounts -/

/-- `L'` is `L` with new, empty accounts, under ids that are used neither in the
ledger nor in `stored`. -/
inductive Opens (stored : List Uuid) (L : Ledger) : Ledger → Prop
  | refl : Opens stored L L
  | user {L' : Ledger} (uid : UserId) : Opens stored L L' → Opens stored L (L'.openUser uid)
  | account {L' : Ledger} (o : Owner) (a : Account) (fresh : a.accountId ∉ L'.ids)
      (unstored : a.accountId ∉ stored) (empty : a.balance = 0) (cash : a.accountClass = .cash)
      (external : o = .bank → a.accountType = .external) :
      Opens stored L L' → Opens stored L (L'.put o a)

/-- Accounts are opened one after the other. -/
theorem Opens.trans {stored : List Uuid} {L L' L'' : Ledger} (h : Opens stored L L')
    (h' : Opens stored L' L'') : Opens stored L L'' := by
  induction h' with
  | refl => exact h
  | user uid _ ih => exact .user uid ih
  | account o a fresh unstored empty cash external _ ih =>
    exact .account o a fresh unstored empty cash external ih

/-- The insurance account is not opened. -/
theorem Opens.insurance {stored : List Uuid} {L L' : Ledger} (h : Opens stored L L') :
    L'.insuranceFundAccount = L.insuranceFundAccount := by
  induction h with
  | refl => rfl
  | user uid _ ih => exact ih
  | account o a _ _ _ _ _ _ ih =>
    rw [← ih]
    cases o with
    | user uid => rfl
    | bank => rfl
    | dealer => rfl

/-- The keys of the accounts table. -/
def storedIds (s : State) : List Uuid := s.db.accounts.rows.map (·.accountId)

/-! ## Before anything is written back -/

/-- Accounts were opened and these transaction rows stored. -/
structure Stage (env : Env) (s : State) (rows : List TransactionRow) (s' : State) : Prop
    extends Booked env s [] s' where
  opens : Opens (storedIds s) s.ledger s'.ledger
  accounts : s'.db.accounts = s.db.accounts
  transactions : s'.db.transactions.rows = s.db.transactions.rows ++ rows

namespace Stage

variable {rows rows' : List TransactionRow}

/-- Nothing happened. -/
theorem refl (env : Env) (s : State) : Stage env s [] s :=
  { Booked.refl env s with
    opens := .refl
    accounts := rfl
    transactions := (List.append_nil _).symm }

/-- One part after the other. -/
theorem trans (h : Stage env s rows s') (h' : Stage env s' rows' s'') :
    Stage env s (rows ++ rows') s'' := by
  have hopens := h'.opens
  unfold storedIds at hopens
  rw [h.accounts] at hopens
  refine { h.toBooked.opened h'.toBooked with
    opens := h.opens.trans hopens
    accounts := h'.accounts.trans h.accounts
    transactions := ?_ }
  rw [h'.transactions, h.transactions, List.append_assoc]

/-- Accounts that are opened after the rows. -/
theorem opened (h : Stage env s rows s') (h' : Stage env s' [] s'') : Stage env s rows s'' := by
  have := h.trans h'
  rwa [List.append_nil] at this

/-- A change of nothing the ledger and its tables hold. -/
theorem of_booked (hb : Booked env s [] s') (hl : s'.ledger = s.ledger)
    (ha : s'.db.accounts = s.db.accounts) (ht : s'.db.transactions = s.db.transactions) :
    Stage env s [] s' :=
  { hb with
    opens := by rw [hl]; exact .refl
    accounts := ha
    transactions := by rw [ht, List.append_nil] }

end Stage

section operations

/-- A message is no part of an entry. -/
theorem send_stage (msg : Message) (destination : ServiceIdentity)
    (h : Ordinary (msg, destination) := by simp [Ordinary]) :
    Ensures (send msg destination) s fun _ s' => Stage env s [] s' :=
  .of_booked (send_spec env msg destination h).1 rfl rfl rfl

/-- Nor is an answer to the API. -/
theorem sendApi_stage (msg : Api) (h : Ordinary (.api msg, .api) := by simp [Ordinary]) :
    Ensures (sendApi msg) s fun _ s' => Stage env s [] s' :=
  send_stage _ _ h

/-- An entry is made for the user where there is none. -/
theorem openUser_stage (env : Env) (uid : UserId) :
    Ensures (modifyLedger (·.openUser uid)) s fun _ s' => Stage env s [] s' ∧ SameTx env s s' :=
  ⟨{ (openUser_spec (s := s) env uid).1 with
      opens := .user uid .refl
      accounts := rfl
      transactions := (List.append_nil _).symm }, .of_eq rfl rfl⟩

/-- Only the liability account is ever opened for the bank. -/
theorem getDefaultAccount_stage (o : Owner) (currency : Currency) (t : Option AccountType)
    (hbank : o = .bank → t = some .external) :
    Ensures (getDefaultAccount env o currency t) s fun a s' =>
      Stage env s [] s' ∧ s'.ledger.get (o, a.accountId) = some a ∧ a.currency = currency ∧
        (∀ t', t = some t' → a.accountType = t') ∧ SameTx env s s' := by
  have hstage : Ensures (getDefaultAccount env o currency t) s fun _ s' =>
      Booked env s [] s' → Stage env s [] s' := by
    refine Ensures.get_bind ?_
    split
    next a rest _ => exact fun hb => Stage.of_booked hb rfl rfl rfl
    next =>
      intro hb
      have hfresh : env.newUuid s.usedIds ∉ s.usedIds := env.newUuid_fresh s.usedIds
      refine { hb with
        opens := .account o _ (fun hmem => hfresh (List.mem_append_left _ hmem))
          (fun hmem => hfresh (List.mem_append_right _ hmem)) rfl rfl (fun ho => ?_) .refl
        accounts := rfl
        transactions := (List.append_nil _).symm }
      rw [hbank ho]
      rfl
  exact ((getDefaultAccount_spec _ _ _).and hstage).mono fun a s' h => ⟨h.2 h.1.1, h.1.2⟩

/-- An account is found there or opened. -/
theorem getOrOpenAccount_stage (uid : UserId) (currency : Currency) (t : Option AccountType) :
    Ensures (getOrOpenAccount env uid currency t) s fun a s' =>
      Stage env s [] s' ∧ s'.ledger.get (.user uid, a.accountId) = some a ∧
        a.currency = currency ∧ SameTx env s s' := by
  refine (openUser_stage env uid).bind ?_
  intro _ s₁ h₁
  exact (getDefaultAccount_stage _ _ _ (by simp)).mono fun a s' h =>
    ⟨h₁.1.opened h.1, h.2.1, h.2.2.1, h₁.2.trans h.2.2.2.2⟩

/-- So is the bank's liability account. -/
theorem getLiabilityAccount_stage :
    Ensures (getLiabilityAccount env) s fun a s' =>
      Stage env s [] s' ∧ s'.ledger.get (.bank, a.accountId) = some a ∧ a.currency = .BTC ∧
        a.accountType = .external ∧ SameTx env s s' :=
  (getDefaultAccount_stage _ _ _ fun _ => rfl).mono fun _ _ h =>
    ⟨h.1, h.2.1, h.2.2.1, h.2.2.2.1 _ rfl, h.2.2.2.2⟩

/-- So is an account of the dealer. -/
theorem getDealerAccount_stage (currency : Currency) (t : AccountType) :
    Ensures (getDealerAccount env currency t) s fun a s' =>
      Stage env s [] s' ∧ s'.ledger.get (.dealer, a.accountId) = some a ∧
        a.currency = currency ∧ a.accountType = t ∧ SameTx env s s' :=
  (getDefaultAccount_stage _ _ _ (by simp)).mono fun _ _ h =>
    ⟨h.1, h.2.1, h.2.2.1, h.2.2.2.1 _ rfl, h.2.2.2.2⟩

/-- An invoice that is stored is no part of an entry. -/
theorem insertInvoice_stage (i : Invoice) :
    Ensures (insertInvoice env i) s fun _ s' => Stage env s [] s' := by
  have hsame : Ensures (insertInvoice env i) s fun _ s' => s'.ledger = s.ledger ∧
      s'.db.accounts = s.db.accounts ∧ s'.db.transactions = s.db.transactions := by
    refine Ensures.get_bind ?_
    split
    next => exact ⟨rfl, rfl, rfl⟩
    next => exact ⟨rfl, rfl, rfl⟩
  exact ((insertInvoice_spec i).and hsame).mono fun _ s' h =>
    .of_booked h.1.1 h.2.1 h.2.2.1 h.2.2.2

/-- A row for an amount going from one account to another. -/
structure IsRow (row : TransactionRow) (outbound : Account) (outboundUid : UserId)
    (inbound : Account) (inboundUid : UserId) (amount : Decimal) : Prop where
  outboundUid : row.outboundUid = asI32 outboundUid
  inboundUid : row.inboundUid = asI32 inboundUid
  outboundAccountId : row.outboundAccountId = outbound.accountId
  inboundAccountId : row.inboundAccountId = inbound.accountId
  outboundAmount : row.outboundAmount = amount
  inboundAmount : row.inboundAmount = amount

/-- What `make_tx` did, and the row it stored. -/
structure TxStage (env : Env) (s : State) (leg : Nat) (outbound : Account) (outboundUid : UserId)
    (inbound : Account) (inboundUid : UserId) (amount : Money) (r : TxOutcome) (s' : State) : Prop
    extends TxSpec env s leg outbound inbound amount r s' where
  row : ∀ txid, r.result = .ok txid →
    ∃ row, IsRow row outbound outboundUid inbound inboundUid amount.value ∧ Stage env s [row] s'
  noRow : (∀ txid, r.result ≠ .ok txid) → Stage env s [] s'
  connected : r.outbound = outbound ∧ r.inbound = inbound ∨ env.db (.txConn leg) = true

/-- A transaction is a row, if it is stored. -/
theorem makeTx_stage (leg : Nat) (outbound : Account) (outboundUid : UserId) (inbound : Account)
    (inboundUid : UserId) (amount : Money) :
    Ensures (makeTx env leg outbound outboundUid inbound inboundUid amount) s fun r s' =>
      TxStage env s leg outbound outboundUid inbound inboundUid amount r s' := by
  have hrows : Ensures (makeTx env leg outbound outboundUid inbound inboundUid amount) s fun r s' =>
      s'.ledger = s.ledger ∧ s'.db.accounts = s.db.accounts ∧
        (r.outbound = outbound ∧ r.inbound = inbound ∨ env.db (.txConn leg) = true) ∧
        ((∃ txid row, r.result = .ok txid ∧
            s'.db.transactions.rows = s.db.transactions.rows ++ [row] ∧
            IsRow row outbound outboundUid inbound inboundUid amount.value) ∨
          (∀ txid, r.result ≠ .ok txid) ∧ s'.db.transactions = s.db.transactions) := by
    unfold makeTx
    refine Ensures.ite (fun _ => ⟨rfl, rfl, .inl ⟨rfl, rfl⟩, .inr ⟨by simp, rfl⟩⟩) fun _ => ?_
    refine Ensures.ite (fun _ => ⟨rfl, rfl, .inl ⟨rfl, rfl⟩, .inr ⟨by simp, rfl⟩⟩) fun _ => ?_
    refine Ensures.ite (fun _ => ⟨rfl, rfl, .inl ⟨rfl, rfl⟩, .inr ⟨by simp, rfl⟩⟩) fun hconn => ?_
    have hconn : env.db (.txConn leg) = true := by simpa using hconn
    refine Ensures.lift_bind fun _ _ => Ensures.lift_bind fun _ _ => Ensures.get_bind ?_
    dsimp only
    split
    next transactions hins =>
      split at hins
      next =>
        have hrows := Table.insert_rows hins
        refine ⟨rfl, rfl, .inr hconn, .inl ⟨_, _, rfl, hrows, ?_, ?_, rfl, rfl, rfl, rfl⟩⟩
        · dsimp only
        · dsimp only
      next => exact absurd hins (by simp)
    next => exact ⟨rfl, rfl, .inr hconn, .inr ⟨by simp, rfl⟩⟩
  refine ((makeTx_spec leg outbound outboundUid inbound inboundUid amount).and hrows).mono
    fun r s' h => ?_
  obtain ⟨htx, hl, ha, hconn, hrow⟩ := h
  refine { htx with row := fun txid hr => ?_, noRow := fun hno => ?_, connected := hconn }
  · rcases hrow with ⟨txid', row, -, hrows, his⟩ | ⟨hno, -⟩
    · exact ⟨row, his, { htx.booked with
        opens := by rw [hl]; exact .refl
        accounts := ha
        transactions := hrows }⟩
    · exact absurd hr (hno txid)
  · rcases hrow with ⟨txid', row, hr, -⟩ | ⟨-, ht⟩
    · exact absurd hr (hno txid')
    · exact .of_booked htx.booked hl ha ht

end operations

/-! ## After everything is written back -/

/-- The ledger and the tables of accounts and transactions are as they were. -/
structure Aside (s s' : State) : Prop where
  ledger : s'.ledger = s.ledger
  accounts : s'.db.accounts = s.db.accounts
  transactions : s'.db.transactions = s.db.transactions

namespace Aside

/-- Nothing happened. -/
theorem refl (s : State) : Aside s s := ⟨rfl, rfl, rfl⟩

/-- One part after the other. -/
theorem trans (h : Aside s s') (h' : Aside s' s'') : Aside s s'' :=
  ⟨h'.ledger.trans h.ledger, h'.accounts.trans h.accounts, h'.transactions.trans h.transactions⟩

end Aside

/-- A message is beside the entry. -/
theorem send_aside (msg : Message) (destination : ServiceIdentity) :
    Ensures (send msg destination) s fun _ s' => Aside s s' := Aside.mk rfl rfl rfl

/-- So is an answer to the API. -/
theorem sendApi_aside (msg : Api) : Ensures (sendApi msg) s fun _ s' => Aside s s' :=
  send_aside _ _

/-- So is the state of the bank. -/
theorem sendBankState_aside : Ensures sendBankState s fun _ s' => Aside s s' := by
  refine Ensures.bind (R := fun _ s' => s' = s) ?_ fun _ s' h => ?_
  · exact Ensures.get_bind (Ensures.lift_bind fun _ _ => rfl)
  · subst h
    exact send_aside _ _

/-- So is the summary of the entry. -/
theorem makeSummaryTx_aside (x : SummaryTx) :
    Ensures (makeSummaryTx env x) s fun _ s' => Aside s s' := by
  unfold makeSummaryTx
  refine Ensures.ite (fun _ => Aside.refl s) fun _ => ?_
  refine Ensures.ite (fun _ => Ensures.panic _) fun _ => ?_
  refine Ensures.ite (fun _ => Aside.refl s) fun _ => ?_
  refine Ensures.lift_bind fun _ _ => Ensures.lift_bind fun _ _ => Ensures.get_bind ?_
  dsimp only
  split
  next =>
    refine Ensures.set_bind ((send_aside _ _).bind ?_)
    intro _ s₁ h
    exact ⟨h.ledger, h.accounts, h.transactions⟩
  next => exact Ensures.set_bind (Ensures.ret ⟨rfl, rfl, rfl⟩)

/-- So is the invoice that is settled by it. -/
theorem updateInvoice_aside (i : Invoice) :
    Ensures (updateInvoice env i) s fun _ s' => Aside s s' := by
  show Aside s (if env.db .invoiceUpdate then _ else s)
  split
  · exact ⟨rfl, rfl, rfl⟩
  · exact .refl s

/-- So is who is told. -/
theorem notifyPaid_aside (uid : Int) (text : Checked PaidText) :
    Ensures (notifyPaid env uid text) s fun _ s' => Aside s s' := by
  unfold notifyPaid
  split
  next =>
    refine Ensures.lift_bind fun wanted _ => Ensures.ite (fun _ => ?_) fun _ => Aside.refl s
    split
    next => exact Ensures.lift_bind fun _ _ => send_aside _ _
    next => exact Aside.refl s
  next => exact Aside.refl s

/-- So is the zap that is published. -/
theorem publishIfZapNote_aside (i : Invoice) (descriptionHash preimage : Option String) (t : Nat)
    (isInternal : Bool) :
    Ensures (publishIfZapNote cfg i descriptionHash preimage t isInternal) s fun _ s' =>
      Aside s s' := by
  unfold publishIfZapNote
  refine Ensures.ite (fun _ => ?_) fun _ => Aside.refl s
  split
  next => exact Ensures.lift_bind fun _ _ => send_aside _ _
  next => exact Aside.refl s

/-! ## Writing back -/

/-- The table of accounts, by their ids. -/
abbrev AccountTable := Table Uuid AccountRow AccountRow.accountId

/-- The row of an account that was never stored. -/
def newRow (a : Account) (uid : UserId) : AccountRow where
  accountId := a.accountId
  balance := a.balance
  currency := a.currency.display
  uid := asI32 uid
  accountType := a.accountType.display
  accountClass := a.accountClass.display

/-- The row of an account keeps its id. -/
theorem storeRow_key (a : Account) (r : AccountRow) :
    ({ r with balance := a.balance, currency := a.currency.display } : AccountRow).accountId
      = r.accountId := rfl

/-- What `update_account` does to the table: the row keeps its type, its class
and its user. -/
def storeRow (t : AccountTable) (a : Account) (uid : UserId) : AccountTable :=
  if t.has a.accountId then
    t.modify a.accountId (fun r => { r with balance := a.balance, currency := a.currency.display })
      (storeRow_key a)
  else (t.insert (newRow a uid)).getD t

/-- A row that may be inserted is stored. -/
theorem storeAccount_accounts (db : Db) (a : Account) (uid : UserId) :
    (storeAccount db true a uid).accounts = storeRow db.accounts a uid := by
  unfold storeAccount storeRow
  split
  · rfl
  · rw [if_pos rfl]
    dsimp only
    split
    next accounts h =>
      rw [show db.accounts.insert (newRow a uid) = some accounts from h]
      rfl
    next h =>
      rw [show db.accounts.insert (newRow a uid) = none from h]
      rfl

/-- The transactions are another table. -/
theorem storeAccount_transactions (db : Db) (canInsert : Bool) (a : Account) (uid : UserId) :
    (storeAccount db canInsert a uid).transactions = db.transactions := by
  obtain ⟨accounts, hdb⟩ := storeAccount_eq db canInsert a uid
  rw [hdb]

/-- The copies stored one after the other, each for its holder. -/
def storeAll (t : AccountTable) (ws : List Write) : AccountTable :=
  ws.foldl (fun t w => storeRow t (w.copy.shift w.delta) (counterpartyUid w.owner)) t

/-- So many copies are back in the ledger, and so many in the accounts table. -/
structure Writing (env : Env) (s : State) (ws xs : List Write) (s' : State) : Prop where
  ledger : s'.ledger = s.ledger.writeBack ws
  transactions : s'.db.transactions = s.db.transactions
  accounts : (∀ call, env.db call = true) → s'.db.accounts = storeAll s.db.accounts xs

/-- Nothing is written yet. -/
theorem Writing.refl (env : Env) (s : State) : Writing env s [] [] s := ⟨rfl, rfl, fun _ => rfl⟩

section writing

variable {s₀ : State} {ws xs : List Write}

/-- One copy more is written to the ledger. -/
theorem Writing.put (h : Writing env s₀ ws xs s) (w : Write) :
    Writing env s₀ (ws ++ [w]) xs
      { s with ledger := s.ledger.put w.owner (w.copy.shift w.delta) } := by
  refine ⟨?_, h.transactions, h.accounts⟩
  show s.ledger.put w.owner (w.copy.shift w.delta) = _
  unfold Ledger.writeBack
  rw [List.foldl_append, h.ledger]
  rfl

/-- What was written after something else was recorded. -/
theorem Writing.after {s₁ : State} (h : Writing env s₁ ws xs s) (h' : Aside s₀ s₁) :
    Writing env s₀ ws xs s := by
  refine ⟨?_, h.transactions.trans h'.transactions, fun hdb => ?_⟩
  · rw [h.ledger, h'.ledger]
  · rw [h.accounts hdb, h'.accounts]

/-- A copy of the bank or of the dealer. -/
theorem putAccount_writes (h : Writing env s₀ ws xs s) (w : Write) :
    Ensures (putAccount w.owner (w.copy.shift w.delta)) s fun _ s' =>
      Writing env s₀ (ws ++ [w]) xs s' := h.put w

/-- A copy of a user. -/
theorem insertIntoLedger_writes (h : Writing env s₀ ws xs s) (uid : UserId) (a : Account)
    (d : Decimal) :
    Ensures (insertIntoLedger uid (a.shift d)) s fun _ s' =>
      Writing env s₀ (ws ++ [⟨.user uid, a, d⟩]) xs s' := by
  refine (insertIntoLedger_spec _ _).mono fun _ s' h' => ?_
  rw [h']
  exact h.put ⟨.user uid, a, d⟩

/-- The row of a copy is stored if every call of the database succeeds. -/
theorem updateAccount_stores (a : Account) (uid : UserId) :
    Ensures (updateAccount env a uid) s fun _ s' =>
      s'.ledger = s.ledger ∧ s'.db.transactions = s.db.transactions ∧
        ((∀ call, env.db call = true) → s'.db.accounts = storeRow s.db.accounts a uid) := by
  refine Ensures.ite (fun hno => ?_) fun _ => Ensures.ite (fun hno => ?_) fun _ => ?_
  · exact ⟨rfl, rfl, fun hdb => absurd hno (by simp [hdb])⟩
  · exact ⟨rfl, rfl, fun hdb => absurd hno (by simp [hdb])⟩
  · refine ⟨rfl, storeAccount_transactions _ _ _ _, fun hdb => ?_⟩
    show (storeAccount s.db (env.db _) _ _).accounts = _
    rw [hdb, storeAccount_accounts]

/-- One copy more is stored in the table. -/
theorem updateAccount_writes (h : Writing env s₀ ws xs s) (w : Write) :
    Ensures (updateAccount env (w.copy.shift w.delta) (counterpartyUid w.owner)) s fun _ s' =>
      Writing env s₀ ws (xs ++ [w]) s' := by
  refine (updateAccount_stores _ _).mono fun _ s' h' => ?_
  obtain ⟨hl, ht, ha⟩ := h'
  refine ⟨hl.trans h.ledger, ht.trans h.transactions, fun hdb => ?_⟩
  rw [ha hdb, h.accounts hdb]
  unfold storeAll
  rw [List.foldl_append]
  rfl

end writing

/-- Copies of pairwise different accounts, written back, change each account by
what is booked on it and nothing else. -/
theorem Ledger.get_writeBack {L : Ledger} {ws : List Write}
    (hget : ∀ w ∈ ws, L.get w.ref = some w.copy) (hnd : (ws.map Write.ref).Nodup) (r : AccountRef) :
    (L.writeBack ws).get r =
      (L.get r).map (·.shift (Posting.sumAt (ws.map Write.booking) r)) := by
  induction ws generalizing L with
  | nil =>
    show L.get r = _
    cases L.get r with
    | none => rfl
    | some a => simp
  | cons w ws ih =>
    obtain ⟨hw, hnd⟩ := List.nodup_cons.mp hnd
    have hrest : ∀ w' ∈ ws, (L.put w.owner (w.copy.shift w.delta)).get w'.ref = some w'.copy := by
      intro w' hw'
      have hne : w'.ref ≠ (w.owner, (w.copy.shift w.delta).accountId) := fun e =>
        hw (List.mem_map.mpr ⟨w', hw', e⟩)
      rw [Ledger.get_put_ne L hne]
      exact hget w' (List.mem_cons_of_mem _ hw')
    show ((L.put w.owner (w.copy.shift w.delta)).writeBack ws).get r = _
    rw [ih hrest hnd, List.map_cons, Posting.sumAt_cons]
    by_cases hr : w.ref = r
    · -- only this copy is of the account
      have hzero : Posting.sumAt (ws.map Write.booking) r = 0 := by
        refine Posting.sumAt_eq_zero fun p hp => ?_
        obtain ⟨w', hw', rfl⟩ := List.mem_map.mp hp
        exact fun e => hw (List.mem_map.mpr ⟨w', hw', e.trans hr.symm⟩)
      have hput : (L.put w.owner (w.copy.shift w.delta)).get r = some (w.copy.shift w.delta) := by
        rw [← hr]
        exact L.get_put_self w.owner (w.copy.shift w.delta)
      have hbook : w.booking.ref = r := hr
      rw [hput, hzero, if_pos hbook, ← hr, hget w (by simp), add_zero]
      simp [Write.booking]
    · have hne : r ≠ (w.owner, (w.copy.shift w.delta).accountId) := Ne.symm hr
      have hbook : w.booking.ref ≠ r := hr
      rw [Ledger.get_put_ne L hne, if_neg hbook, zero_add]

/-- The copies `ws` are current, and are written back to the ledger and to the
accounts table: in the same order, or, of different accounts, in any. -/
structure Commit (env : Env) (ws : List Write) (s s' : State) : Prop where
  current : ∀ w ∈ ws, s.ledger.get w.ref = some w.copy
  written : ∃ xs, (xs = ws ∨ xs.Perm ws ∧ (ws.map Write.ref).Nodup) ∧ Writing env s ws xs s'

/-- Nothing is committed. -/
theorem Commit.refl (env : Env) (s : State) : Commit env [] s s :=
  ⟨by simp, [], .inl rfl, .refl env s⟩

/-! ## Entries -/

/-- One transfer: its row and the copies it has changed. -/
structure Leg where
  row : TransactionRow
  outbound : Write
  inbound : Write
  amount : Decimal

/-- The row is that of the transfer. -/
structure Leg.Sound (l : Leg) : Prop where
  row : IsRow l.row l.outbound.copy (counterpartyUid l.outbound.owner) l.inbound.copy
    (counterpartyUid l.inbound.owner) l.amount
  outbound : l.outbound.delta = -l.amount
  inbound : l.inbound.delta = l.amount

/-- The copies a transfer has changed, in the order of its row. -/
def Leg.writes (l : Leg) : List Write := [l.outbound, l.inbound]

/-- The rows are those of the transfers that the copies, all of different
accounts, are written back for. -/
structure Explains (rows : List TransactionRow) (ws : List Write) (legs : List Leg) : Prop where
  rows : rows = legs.map Leg.row
  sound : ∀ l ∈ legs, l.Sound
  subset : legs.flatMap Leg.writes ⊆ ws
  sums : ∀ r, Posting.sumAt (ws.map Write.booking) r =
    Posting.sumAt ((legs.flatMap Leg.writes).map Write.booking) r
  nodup : (ws.map Write.ref).Nodup

/-- No rows explain no writes. -/
theorem Explains.nil : Explains [] [] [] := ⟨rfl, by simp, by simp, fun _ => rfl, by simp⟩

/-- The order in which the copies are written back does not matter. -/
theorem Explains.of_perm {rows : List TransactionRow} {ws : List Write} {legs : List Leg}
    (hrows : rows = legs.map Leg.row) (hsound : ∀ l ∈ legs, l.Sound)
    (hws : ws.Perm (legs.flatMap Leg.writes)) (hnd : (ws.map Write.ref).Nodup) :
    Explains rows ws legs :=
  ⟨hrows, hsound, hws.symm.subset, fun r => Posting.sumAt_perm (hws.map _) r, hnd⟩

/-- A transfer that was stored and written back. -/
theorem Explains.pair {row : TransactionRow} (out inn : Write) {amount : Decimal} {ws : List Write}
    (hrow : IsRow row out.copy (counterpartyUid out.owner) inn.copy (counterpartyUid inn.owner)
      amount)
    (hout : out.delta = -amount) (hinn : inn.delta = amount) (hws : ws.Perm [out, inn])
    (hne : out.ref ≠ inn.ref) : ∃ legs, Explains [row] ws legs := by
  refine ⟨[⟨row, out, inn, amount⟩], .of_perm rfl ?_ hws ?_⟩
  · intro l hl
    rw [List.mem_singleton.mp hl]
    exact ⟨hrow, hout, hinn⟩
  · rw [(hws.map Write.ref).nodup_iff]
    simpa using hne

/-- Two of them. -/
theorem Explains.two {row row' : TransactionRow} (out inn out' inn' : Write)
    {amount amount' : Decimal} {ws : List Write}
    (hrow : IsRow row out.copy (counterpartyUid out.owner) inn.copy (counterpartyUid inn.owner)
      amount)
    (hrow' : IsRow row' out'.copy (counterpartyUid out'.owner) inn'.copy
      (counterpartyUid inn'.owner) amount')
    (hout : out.delta = -amount) (hinn : inn.delta = amount) (hout' : out'.delta = -amount')
    (hinn' : inn'.delta = amount') (hws : ws.Perm [out, inn, out', inn'])
    (hnd : (ws.map Write.ref).Nodup) : ∃ legs, Explains [row, row'] ws legs := by
  refine ⟨[⟨row, out, inn, amount⟩, ⟨row', out', inn', amount'⟩], .of_perm rfl ?_ hws hnd⟩
  intro l hl
  rcases List.mem_cons.mp hl with rfl | hl
  · exact ⟨hrow, hout, hinn⟩
  · rw [List.mem_singleton.mp hl]
    exact ⟨hrow', hout', hinn'⟩

/-- What a message enters. It books on the users in `P` only, and if `R` holds,
its rows explain its writes. -/
inductive Entry (env : Env) (P : UserId → Prop) (R : Prop) (s s' : State) : Prop
  | mk (rows : List TransactionRow) (ws : List Write) (s₁ s₂ : State)
      (stage : Stage env s rows s₁) (commit : Commit env ws s₁ s₂) (aside : Aside s₂ s')
      (users : ∀ w ∈ ws, ∀ uid, w.owner = .user uid → P uid)
      (explained : R → ∃ legs, Explains rows ws legs)

namespace Entry

variable {P P' : UserId → Prop} {R R' : Prop}

/-- Accounts were opened at most. -/
theorem opened (h : Stage env s [] s') : Entry env P R s s' :=
  .mk [] [] s' s' h (.refl env s') (.refl s') (by simp) fun _ => ⟨[], .nil⟩

/-- Nothing was written, so there is nothing to record. -/
theorem recorded (h : Aside s s') : Entry env P R s s' :=
  .mk [] [] s s (.refl env s) (.refl env s) h (by simp) fun _ => ⟨[], .nil⟩

/-- A handler that gave up after these rows. -/
theorem gaveUp {rows : List TransactionRow} (h : Stage env s rows s') (hrows : R → rows = []) :
    Entry env P R s s' :=
  .mk rows [] s' s' h (.refl env s') (.refl s') (by simp) fun hr => by
    rw [hrows hr]
    exact ⟨[], .nil⟩

/-- Accounts are opened before the entry. -/
theorem after (h : Stage env s [] s') (h' : Entry env P R s' s'') : Entry env P R s s'' := by
  obtain ⟨rows, ws, s₁, s₂, stage, commit, aside, users, explained⟩ := h'
  exact .mk rows ws s₁ s₂ (h.trans stage) commit aside users explained

/-- Something beside the entry comes after it. -/
theorem then_aside (h : Entry env P R s s') (h' : Aside s' s'') : Entry env P R s s'' := by
  obtain ⟨rows, ws, s₁, s₂, stage, commit, aside, users, explained⟩ := h
  exact .mk rows ws s₁ s₂ stage commit (aside.trans h') users explained

/-- The users it may be on, and when it is recorded, may be said more loosely. -/
theorem mono (h : Entry env P R s s') (hP : ∀ uid, P uid → P' uid) (hR : R' → R) :
    Entry env P' R' s s' := by
  obtain ⟨rows, ws, s₁, s₂, stage, commit, aside, users, explained⟩ := h
  exact .mk rows ws s₁ s₂ stage commit aside (fun w hw uid ho => hP uid (users w hw uid ho))
    fun hr => explained (hR hr)

end Entry

end Lndhubx
