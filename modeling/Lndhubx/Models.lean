import Lndhubx.Core.Types
import Lndhubx.Lib.Table

/-!
# The database

`models/src` and its migrations. The bank writes four tables (`Db`): the
accounts, the transactions with one row per posting, the summary transactions
with one row per operation, and the invoices. It reads four more that the API
writes (`Directory`).

Text columns stay text, so that what `from_str` makes of them is part of the
model; UUID columns and decimal columns hold UUIDs and numbers. A primary key
is part of the table's type. Of an unordered `SELECT ... LIMIT 1` the model
takes the first row in insertion order.
-/

namespace Lndhubx

structure User where
  uid : Int
  username : String
  isInternal : Bool

structure UserProfile where
  uid : Int
  nostrNotifications : Option Bool

structure NostrPublicKey where
  uid : Int
  pubkey : String

structure DcaSetting where
  uid : Int
  interval : String
  amount : ℚ
  fromCurrency : String
  toCurrency : String

/-- The tables that only the API writes. -/
structure Directory where
  users : List User
  userProfiles : List UserProfile
  nostrPublicKeys : List NostrPublicKey
  dcaSettings : List DcaSetting

namespace Directory

def userById (d : Directory) (uid : Int) : Option User := d.users.find? (·.uid = uid)

def userByUsername (d : Directory) (username : String) : Option User :=
  d.users.find? (·.username = username)

def profileByUid (d : Directory) (uid : Int) : Option UserProfile :=
  d.userProfiles.find? (·.uid = uid)

def publicKeyByUid (d : Directory) (uid : Int) : Option NostrPublicKey :=
  d.nostrPublicKeys.find? (·.uid = uid)

/-- `DcaSetting::get_by_interval`. -/
def dcaByInterval (d : Directory) (interval : String) : List DcaSetting :=
  d.dcaSettings.filter (·.interval = interval)

end Directory

structure AccountRow where
  accountId : Uuid
  balance : ℚ
  currency : String
  accountType : String
  uid : Int
  accountClass : String

structure TransactionRow where
  txid : Txid
  createdAt : Nat
  outboundAmount : ℚ
  inboundAmount : ℚ
  outboundAccountId : Uuid
  inboundAccountId : Uuid
  outboundUid : Int
  inboundUid : Int
  outboundCurrency : String
  inboundCurrency : String
  exchangeRate : ℚ
  txType : String
  fees : ℚ

structure SummaryTransaction where
  txid : Txid
  feeTxid : Option Txid
  outboundTxid : Option Txid
  inboundTxid : Option Txid
  createdAt : Nat
  outboundAmount : ℚ
  inboundAmount : ℚ
  outboundAccountId : Uuid
  inboundAccountId : Uuid
  outboundUid : Int
  inboundUid : Int
  outboundCurrency : String
  inboundCurrency : String
  exchangeRate : ℚ
  txType : String
  fees : ℚ
  reference : Option String
  outboundUsername : Option String
  inboundUsername : Option String

structure Invoice where
  paymentHash : String
  paymentRequest : String
  createdAt : Nat
  value : Int
  valueMsat : Int
  expiry : Int
  settled : Bool
  addIndex : Int
  settledDate : Nat
  accountId : Uuid
  uid : Int
  incoming : Bool
  owner : Option Int
  fees : Option Int
  currency : Option String
  targetAccountCurrency : Option String
  reference : Option String
  description : Option String

/-- `AsChangeset`: every column but the key is set, an absent optional value
leaving its column as it was. -/
def Invoice.changeset (new old : Invoice) : Invoice where
  paymentHash := old.paymentHash
  paymentRequest := new.paymentRequest
  createdAt := new.createdAt
  value := new.value
  valueMsat := new.valueMsat
  expiry := new.expiry
  settled := new.settled
  addIndex := new.addIndex
  settledDate := new.settledDate
  accountId := new.accountId
  uid := new.uid
  incoming := new.incoming
  owner := new.owner.or old.owner
  fees := new.fees.or old.fees
  currency := new.currency.or old.currency
  targetAccountCurrency := new.targetAccountCurrency.or old.targetAccountCurrency
  reference := new.reference.or old.reference
  description := new.description.or old.description

abbrev InvoiceTable := Table String Invoice Invoice.paymentHash

/-- The tables the bank writes. -/
structure Db where
  accounts : Table Uuid AccountRow AccountRow.accountId
  transactions : Table Txid TransactionRow TransactionRow.txid
  summaryTransactions : Table Txid SummaryTransaction SummaryTransaction.txid
  invoices : InvoiceTable

def Db.empty : Db := ⟨.empty, .empty, .empty, .empty⟩

namespace Db

def invoiceByPaymentRequest (db : Db) (paymentRequest : String) : Option Invoice :=
  db.invoices.find (·.paymentRequest = paymentRequest)

/-- `Invoice::update`. -/
def updateInvoice (db : Db) (i : Invoice) : Db :=
  { db with invoices := db.invoices.modify i.paymentHash i.changeset fun _ => rfl }

/-- `SummaryTransaction::get_swaps`: the rows between two currencies. -/
def swaps (db : Db) : List SummaryTransaction :=
  db.summaryTransactions.rows.filter fun r =>
    (r.inboundCurrency ≠ "BTC" ∨ r.outboundCurrency ≠ "BTC")
      ∧ r.inboundCurrency ≠ r.outboundCurrency

theorem invoiceByPaymentRequest_eq {db : Db} {pr : String} {i : Invoice}
    (h : db.invoiceByPaymentRequest pr = some i) : i.paymentRequest = pr := by
  have := List.find?_some h
  simpa using this

/-- An invoice that was read by its payment request and is written back, is read
as written. -/
theorem invoiceByPaymentRequest_updateInvoice {db : Db} {pr : String} {i new : Invoice}
    (hi : db.invoiceByPaymentRequest pr = some i) (hkey : new.paymentHash = i.paymentHash)
    (hpr : new.paymentRequest = i.paymentRequest) :
    (db.updateInvoice new).invoiceByPaymentRequest pr = some (new.changeset i) := by
  have hp : decide ((new.changeset i).paymentRequest = pr) = true := by
    rw [← invoiceByPaymentRequest_eq hi, ← hpr]
    simp [Invoice.changeset]
  have hfind := Table.find_modify (f := new.changeset) (fun _ => rfl) hi hp
  rw [← hkey] at hfind
  exact hfind

/-- Other invoices are not affected. -/
theorem invoiceByPaymentRequest_updateInvoice_ne {db : Db} {pr pr' : String} {i : Invoice}
    (new : Invoice) (hi : db.invoiceByPaymentRequest pr = some i)
    (hkey : new.paymentHash = i.paymentHash)
    (hpr : new.paymentRequest = i.paymentRequest) (hne : pr' ≠ pr) :
    (db.updateInvoice new).invoiceByPaymentRequest pr' = db.invoiceByPaymentRequest pr' := by
  have hip : i.paymentRequest ≠ pr' := by
    rw [invoiceByPaymentRequest_eq hi]
    exact hne.symm
  refine Table.find_modify_other (f := new.changeset) (fun _ => rfl) fun r hr hk => ?_
  have hri : r = i := Table.eq_of_key hr (List.mem_of_find?_eq_some hi) (hk.trans hkey)
  rw [hri]
  refine ⟨by simpa using hip, ?_⟩
  simpa [Invoice.changeset, hpr] using hip

end Db

end Lndhubx
