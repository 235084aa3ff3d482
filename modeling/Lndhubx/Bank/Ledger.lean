import Lndhubx.Core.Types
import Lndhubx.Lib.Tally

/-!
# The ledger

`bank/src/ledger.rs`. Three kinds of owners hold accounts: every user, the
bank (`bank_liabilities`) and the dealer (`dealer_accounts`). Each holds a map
from account ids to accounts. Two facts are part of the types, because the
source never builds a map without them: an account is stored under its own id
(`UserAccount.keyed`), and a user's holding under the user's id
(`Ledger.owned`).

An `AccountRef` names one account of the ledger. `get` reads it, `put` is the
`insert` by which every handler writes an account back, and the lemmas below
say that the two behave like a map (`get_put_self`, `get_put_ne`) and what a
write does to the total of a currency (`total_put`).

The fields `fee_account`, `external_fee_account`, `invoices`,
`last_withdrawal_request` and `last_deposit_request` are never read and are
left out.
-/

namespace Lndhubx

open Tally

/-- Who holds an account. -/
inductive Owner where
  | user (uid : UserId)
  | bank
  | dealer
  deriving DecidableEq

/-- One account of the ledger: its holder and its id. -/
abbrev AccountRef := Owner × AccountId

structure UserAccount where
  owner : UserId
  accounts : AList fun _ : AccountId => Account
  keyed : ∀ id a, accounts.lookup id = some a → a.accountId = id

namespace UserAccount

def new (owner : UserId) : UserAccount :=
  { owner, accounts := ∅, keyed := fun id a h => by simp at h }

/-- `accounts.insert(account.account_id, account)`. -/
def insert (ua : UserAccount) (a : Account) : UserAccount where
  owner := ua.owner
  accounts := ua.accounts.insert a.accountId a
  keyed := by
    intro id b h
    by_cases hid : id = a.accountId
    · subst hid
      rw [AList.lookup_insert] at h
      injection h with h
      rw [← h]
    · rw [AList.lookup_insert_ne hid] at h
      exact ua.keyed id b h

/-- The accounts held, in no particular order. -/
def values (ua : UserAccount) : List Account := ua.accounts.entries.map (·.2)

/-- The balances held in one currency, added up. -/
def tallyOf (c : Currency) (ua : UserAccount) : Decimal :=
  tally (fun a : Account => if a.currency = c then a.balance else 0) ua.accounts

/-- A held account is the one stored under its id. -/
theorem lookup_of_mem_values {ua : UserAccount} {a : Account} (h : a ∈ ua.values) :
    ua.accounts.lookup a.accountId = some a := by
  obtain ⟨⟨id, b⟩, he, hb⟩ := List.mem_map.mp h
  have hlook : ua.accounts.lookup id = some b := mem_entries_iff.mp he
  have hba : b = a := hb
  subst hba
  rw [ua.keyed id b hlook]
  exact hlook

theorem mem_values_iff {ua : UserAccount} {a : Account} :
    a ∈ ua.values ↔ ua.accounts.lookup a.accountId = some a :=
  ⟨lookup_of_mem_values, fun h => List.mem_map.mpr ⟨⟨_, a⟩, mem_entries_iff.mpr h, rfl⟩⟩

/-- What is held after an insert is the inserted account or was held before. -/
theorem mem_values_insert {ua : UserAccount} {a b : Account} (h : b ∈ (ua.insert a).values) :
    b = a ∨ b ∈ ua.values := by
  rw [mem_values_iff] at h ⊢
  by_cases hid : b.accountId = a.accountId
  · left
    rw [hid] at h
    have hself : (ua.insert a).accounts.lookup a.accountId = some a := AList.lookup_insert _
    exact Option.some.inj (h.symm.trans hself)
  · right
    rw [← h]
    exact (AList.lookup_insert_ne hid).symm

end UserAccount

structure Ledger where
  userAccounts : AList fun _ : UserId => UserAccount
  insuranceFundAccount : Account
  bankLiabilities : UserAccount
  dealerAccounts : UserAccount
  owned : ∀ uid ua, userAccounts.lookup uid = some ua → ua.owner = uid

namespace Ledger

/-- `Ledger::new`, with the UUID of the insurance account. -/
def new (owner dealer : UserId) (insuranceId : Uuid) : Ledger where
  userAccounts := ∅
  insuranceFundAccount := Account.new insuranceId .BTC .internal .cash
  bankLiabilities := UserAccount.new owner
  dealerAccounts := UserAccount.new dealer
  owned := by intro uid ua h; simp at h

/-- `user_accounts.contains_key(uid)`. -/
def hasUser (L : Ledger) (uid : UserId) : Bool := (L.userAccounts.lookup uid).isSome

/-- What an owner holds; a user without an entry holds nothing yet. -/
def holder (L : Ledger) : Owner → UserAccount
  | .user uid => (L.userAccounts.lookup uid).getD (UserAccount.new uid)
  | .bank => L.bankLiabilities
  | .dealer => L.dealerAccounts

theorem holder_user_owner (L : Ledger) (uid : UserId) : (L.holder (.user uid)).owner = uid := by
  show ((L.userAccounts.lookup uid).getD (UserAccount.new uid)).owner = uid
  cases h : L.userAccounts.lookup uid with
  | none => rfl
  | some ua => exact L.owned uid ua h

/-- Replacing a user's holding by one of the same owner. -/
def setUser (L : Ledger) (uid : UserId) (ua : UserAccount) (h : ua.owner = uid) : Ledger :=
  { L with
    userAccounts := L.userAccounts.insert uid ua
    owned := by
      intro uid' ua' h'
      by_cases hu : uid' = uid
      · subst hu
        rw [AList.lookup_insert] at h'
        injection h' with h'
        rw [← h']; exact h
      · rw [AList.lookup_insert_ne hu] at h'
        exact L.owned uid' ua' h' }

/-- `user_accounts.entry(uid).or_insert_with(|| UserAccount::new(uid))`. -/
def openUser (L : Ledger) (uid : UserId) : Ledger :=
  L.setUser uid (L.holder (.user uid)) (L.holder_user_owner uid)

/-- Writing an account back under its own id. -/
def put (L : Ledger) (o : Owner) (a : Account) : Ledger :=
  match o with
  | .user uid => L.setUser uid ((L.holder (.user uid)).insert a) (L.holder_user_owner uid)
  | .bank => { L with bankLiabilities := L.bankLiabilities.insert a }
  | .dealer => { L with dealerAccounts := L.dealerAccounts.insert a }

def get (L : Ledger) (r : AccountRef) : Option Account :=
  (L.holder r.1).accounts.lookup r.2

/-- Every account id in use. -/
def ids (L : Ledger) : List Uuid :=
  L.insuranceFundAccount.accountId :: (L.bankLiabilities.accounts.keys ++
    (L.dealerAccounts.accounts.keys ++
      L.userAccounts.entries.flatMap fun e => e.2.accounts.keys))

/-- The balance at a reference, zero where there is no account. -/
def balanceAt (L : Ledger) (r : AccountRef) : Decimal := ((L.get r).map (·.balance)).getD 0

/-- The balances of one currency over users, liabilities and dealer. -/
def total (c : Currency) (L : Ledger) : Decimal :=
  tally (UserAccount.tallyOf c) L.userAccounts + L.bankLiabilities.tallyOf c
    + L.dealerAccounts.tallyOf c

/-! ## Reading after writing -/

theorem get_accountId {L : Ledger} {r : AccountRef} {a : Account} (h : L.get r = some a) :
    a.accountId = r.2 :=
  (L.holder r.1).keyed r.2 a h

@[simp] theorem holder_setUser_self (L : Ledger) (uid : UserId) (ua : UserAccount)
    (h : ua.owner = uid) : (L.setUser uid ua h).holder (.user uid) = ua := by
  simp [holder, setUser]

theorem holder_setUser_ne (L : Ledger) {uid : UserId} (ua : UserAccount)
    (h : ua.owner = uid) {o : Owner} (ho : o ≠ .user uid) :
    (L.setUser uid ua h).holder o = L.holder o := by
  cases o with
  | user uid' =>
    have hne : uid' ≠ uid := fun e => ho (by rw [e])
    simp [holder, setUser, AList.lookup_insert_ne hne]
  | bank => rfl
  | dealer => rfl

@[simp] theorem holder_put_self (L : Ledger) (o : Owner) (a : Account) :
    (L.put o a).holder o = (L.holder o).insert a := by
  cases o with
  | user uid => exact L.holder_setUser_self uid (UserAccount.insert _ a) (L.holder_user_owner uid)
  | bank => rfl
  | dealer => rfl

theorem holder_put_ne (L : Ledger) {o o' : Owner} (a : Account) (h : o' ≠ o) :
    (L.put o a).holder o' = L.holder o' := by
  cases o with
  | user uid => exact L.holder_setUser_ne (UserAccount.insert _ a) (L.holder_user_owner uid) h
  | bank => cases o' <;> first | rfl | exact absurd rfl h
  | dealer => cases o' <;> first | rfl | exact absurd rfl h

@[simp] theorem get_put_self (L : Ledger) (o : Owner) (a : Account) :
    (L.put o a).get (o, a.accountId) = some a := by
  unfold get
  rw [holder_put_self]
  exact AList.lookup_insert _

theorem get_put_ne (L : Ledger) {o : Owner} {a : Account} {r : AccountRef}
    (h : r ≠ (o, a.accountId)) : (L.put o a).get r = L.get r := by
  unfold get
  by_cases ho : r.1 = o
  · have hid : r.2 ≠ a.accountId := fun e => h (Prod.ext ho e)
    rw [ho, holder_put_self]
    exact AList.lookup_insert_ne hid
  · rw [holder_put_ne L a ho]

@[simp] theorem get_openUser (L : Ledger) (uid : UserId) (r : AccountRef) :
    (L.openUser uid).get r = L.get r := by
  unfold get openUser
  by_cases ho : r.1 = .user uid
  · rw [ho, holder_setUser_self]
  · rw [holder_setUser_ne _ _ _ ho]

theorem hasUser_put {L : Ledger} {o : Owner} {a : Account} {uid : UserId}
    (h : L.hasUser uid = true) : (L.put o a).hasUser uid = true := by
  cases o with
  | user uid' =>
    by_cases hu : uid = uid'
    · subst hu; simp [hasUser, put, setUser]
    · simpa [hasUser, put, setUser, AList.lookup_insert_ne hu] using h
  | bank => exact h
  | dealer => exact h

@[simp] theorem hasUser_openUser_self (L : Ledger) (uid : UserId) :
    (L.openUser uid).hasUser uid = true := by
  simp [hasUser, openUser, setUser]

theorem hasUser_openUser {L : Ledger} {uid uid' : UserId} (h : L.hasUser uid = true) :
    (L.openUser uid').hasUser uid = true := by
  by_cases hu : uid = uid'
  · subst hu; exact L.hasUser_openUser_self uid
  · simpa [hasUser, openUser, setUser, AList.lookup_insert_ne hu] using h

/-- A user holding an account has an entry. -/
theorem hasUser_of_get {L : Ledger} {uid : UserId} {id : AccountId} {a : Account}
    (h : L.get (.user uid, id) = some a) : L.hasUser uid = true := by
  unfold hasUser
  cases hl : L.userAccounts.lookup uid with
  | some ua => rfl
  | none => simp [get, holder, hl, UserAccount.new] at h

/-- An id outside `ids` is used nowhere. -/
theorem get_eq_none_of_not_mem_ids {L : Ledger} {id : Uuid} (h : id ∉ L.ids) (o : Owner) :
    L.get (o, id) = none := by
  simp only [ids, List.mem_cons, List.mem_append, List.mem_flatMap, not_or, not_exists,
    not_and] at h
  obtain ⟨-, hb, hd, hu⟩ := h
  refine AList.lookup_eq_none.mpr ?_
  cases o with
  | bank => exact fun hm => hb (AList.mem_keys.mp hm)
  | dealer => exact fun hm => hd (AList.mem_keys.mp hm)
  | user uid =>
    cases hl : L.userAccounts.lookup uid with
    | none => simp [holder, hl, UserAccount.new]
    | some ua =>
      intro hm
      simp only [holder, hl, Option.getD_some] at hm
      exact hu ⟨uid, ua⟩ (mem_entries_iff.mpr hl) (AList.mem_keys.mp hm)

/-- The maps are empty at first. -/
theorem get_new (owner dealer : UserId) (id : Uuid) (r : AccountRef) :
    (Ledger.new owner dealer id).get r = none := by
  obtain ⟨o, i⟩ := r
  cases o with
  | user uid => simp [get, holder, new, UserAccount.new]
  | bank => simp [get, holder, new, UserAccount.new]
  | dealer => simp [get, holder, new, UserAccount.new]

/-! ## What a write does to a total -/

/-- The share of one account in the total of `c`. -/
def share (c : Currency) (a : Account) : Decimal := if a.currency = c then a.balance else 0

theorem tallyOf_insert_some {ua : UserAccount} {a old : Account} (c : Currency)
    (h : ua.accounts.lookup a.accountId = some old) :
    (ua.insert a).tallyOf c = ua.tallyOf c - share c old + share c a :=
  tally_insert_some h

theorem tallyOf_insert_none {ua : UserAccount} {a : Account} (c : Currency)
    (h : ua.accounts.lookup a.accountId = none) :
    (ua.insert a).tallyOf c = share c a + ua.tallyOf c :=
  tally_insert_none h

theorem total_setUser (c : Currency) (L : Ledger) (uid : UserId) (ua : UserAccount)
    (h : ua.owner = uid) :
    total c (L.setUser uid ua h)
      = total c L - (L.holder (.user uid)).tallyOf c + ua.tallyOf c := by
  unfold total setUser
  cases hl : L.userAccounts.lookup uid with
  | none =>
    simp only [tally_insert_none hl, holder, hl, Option.getD_none]
    simp only [UserAccount.tallyOf, UserAccount.new, tally_empty]
    ring
  | some old =>
    simp only [tally_insert_some hl, holder, hl, Option.getD_some]
    ring

/-- Rewriting a holding changes a total by what the holding changed. -/
theorem total_put_holder (c : Currency) (L : Ledger) (o : Owner) (a : Account) :
    total c (L.put o a)
      = total c L - (L.holder o).tallyOf c + ((L.holder o).insert a).tallyOf c := by
  cases o with
  | user uid => exact total_setUser c L uid (UserAccount.insert _ a) (L.holder_user_owner uid)
  | bank => simp only [total, put, holder]; ring
  | dealer => simp only [total, put, holder]; ring

/-- Overwriting an account exchanges its share of the total. -/
theorem total_put {L : Ledger} {o : Owner} {a old : Account} (c : Currency)
    (h : L.get (o, a.accountId) = some old) :
    total c (L.put o a) = total c L - share c old + share c a := by
  rw [total_put_holder, tallyOf_insert_some c h]
  ring

/-- A new account adds its share. -/
theorem total_put_new {L : Ledger} {o : Owner} {a : Account} (c : Currency)
    (h : L.get (o, a.accountId) = none) :
    total c (L.put o a) = total c L + share c a := by
  rw [total_put_holder, tallyOf_insert_none c h]
  ring

@[simp] theorem total_openUser (c : Currency) (L : Ledger) (uid : UserId) :
    total c (L.openUser uid) = total c L := by
  unfold openUser
  rw [total_setUser]
  ring

end Ledger

end Lndhubx
