import Lndhubx.Bank.Conservation
import Lndhubx.Bank.Returns

/-!
# Karma

The dealer reports how much karma (`KKP`) it holds on the exchange. The bank
writes that down as the dealer's External balance and hands what users do not
hold yet to the users, in proportion to what each of them has swapped; the
change is the dealer's Internal balance. So the books in `KKP` are the users,
the change and the External account, and they should cancel.

The External account is rewritten whatever the message says, the change only if
there is something to hand out, and a share is taken from the change even if it
is not credited because it is negative. `karmaBalance_books` says what the three
amounts become; from it `karma_conserved_iff` reads off when they cancel again.
-/

namespace Lndhubx

open Prog BankEngine Tally

variable {cfg : Config} {env : Env} {s s' : State}

/-! ## The books in karma -/

/-- The share of an account in the karma of one type. -/
def karmaOf (t : AccountType) (a : Account) : Decimal :=
  if a.currency = .KKP ∧ a.accountType = t then a.balance else 0

namespace Ledger

/-- What all users hold. -/
def usersKarma (L : Ledger) : Decimal := tally (UserAccount.tallyOf .KKP) L.userAccounts

/-- What the dealer holds on accounts of one type. -/
def dealerKarma (L : Ledger) (t : AccountType) : Decimal :=
  tally (karmaOf t) L.dealerAccounts.accounts

/-- The users are what the total is made of besides bank and dealer. -/
theorem usersKarma_eq (L : Ledger) :
    L.usersKarma
      = L.total .KKP - L.bankLiabilities.tallyOf .KKP - L.dealerAccounts.tallyOf .KKP := by
  unfold usersKarma total
  ring

theorem usersKarma_openUser (L : Ledger) (uid : UserId) :
    (L.openUser uid).usersKarma = L.usersKarma := by
  rw [usersKarma_eq, total_openUser, usersKarma_eq]
  rfl

/-- A new balance of a user's karma account. -/
theorem usersKarma_put {L : Ledger} {uid : UserId} {a : Account} (d : Decimal)
    (ha : L.get (.user uid, a.accountId) = some a) (hc : a.currency = .KKP) :
    (L.put (.user uid) (a.shift d)).usersKarma = L.usersKarma + d := by
  have hold : L.get (.user uid, (a.shift d).accountId) = some a := ha
  have hshare : share .KKP (a.shift d) = share .KKP a + d := by
    simp [share, hc]
  rw [usersKarma_eq, total_put .KKP hold, hshare, usersKarma_eq]
  show _ - L.bankLiabilities.tallyOf .KKP - L.dealerAccounts.tallyOf .KKP = _
  ring

/-- An empty account changes nothing. -/
theorem usersKarma_put_new {L : Ledger} {uid : UserId} {a : Account}
    (ha : L.get (.user uid, a.accountId) = none) (hzero : a.balance = 0) :
    (L.put (.user uid) a).usersKarma = L.usersKarma := by
  have hshare : share .KKP a = 0 := by
    unfold share
    rw [hzero, ite_self]
  rw [usersKarma_eq, total_put_new .KKP ha, hshare, add_zero, usersKarma_eq]
  rfl

theorem dealerKarma_put_new {L : Ledger} {a : Account}
    (ha : L.get (.dealer, a.accountId) = none) (hzero : a.balance = 0) (t : AccountType) :
    (L.put .dealer a).dealerKarma t = L.dealerKarma t := by
  have hput : (L.put .dealer a).dealerKarma t = karmaOf t a + L.dealerKarma t :=
    tally_insert_none ha
  have hkarma : karmaOf t a = 0 := by
    unfold karmaOf
    rw [hzero, ite_self]
  rw [hput, hkarma, zero_add]

end Ledger

/-- The users got `x` between them and none of them lost; what the dealer has
did not change. -/
structure Credits (x : Decimal) (L L' : Ledger) : Prop where
  users : L'.usersKarma = L.usersKarma + x
  dealer : ∀ t, L'.dealerKarma t = L.dealerKarma t
  oneOfAKind : L.OneOfAKind .dealer → L'.OneOfAKind .dealer
  risen : ∀ uid id, L.balanceAt (.user uid, id) ≤ L'.balanceAt (.user uid, id)

namespace Credits

variable {x y : Decimal} {L L' L'' : Ledger}

theorem refl (L : Ledger) : Credits 0 L L :=
  ⟨(add_zero _).symm, fun _ => rfl, fun h => h, fun _ _ => le_refl _⟩

theorem trans (h : Credits x L L') (h' : Credits y L' L'') : Credits (x + y) L L'' := by
  refine ⟨?_, fun t => (h'.dealer t).trans (h.dealer t), fun ho => h'.oneOfAKind (h.oneOfAKind ho),
    fun uid id => (h.risen uid id).trans (h'.risen uid id)⟩
  rw [h'.users, h.users, add_assoc]

/-- Accounts that are opened are empty. -/
theorem opened (h : Moves L [] L') : Credits 0 L L' := by
  have hrisen : ∀ uid id, L.balanceAt (.user uid, id) ≤ L'.balanceAt (.user uid, id) := by
    intro uid id
    rw [h.balanceAt, Posting.sumAt_nil, add_zero]
  have hbooks : L'.usersKarma = L.usersKarma ∧ ∀ t, L'.dealerKarma t = L.dealerKarma t := by
    clear hrisen
    -- the induction needs the list of bookings as a variable
    generalize hps : ([] : List Booking) = ps at h
    induction h with
    | refl => exact ⟨rfl, fun _ => rfl⟩
    | openUser uid _ ih =>
      obtain ⟨hu, hd⟩ := ih hps
      rw [Ledger.usersKarma_openUser]
      exact ⟨hu, hd⟩
    | @openAccount ps L' o a _ hfresh hzero _ ih =>
      obtain ⟨hu, hd⟩ := ih hps
      cases o with
      | bank => exact ⟨hu, hd⟩
      | user uid =>
        rw [Ledger.usersKarma_put_new (hfresh _) hzero]
        exact ⟨hu, hd⟩
      | dealer =>
        refine ⟨hu, fun t => ?_⟩
        rw [Ledger.dealerKarma_put_new (hfresh _) hzero, hd t]
    | post d _ _ _ => exact absurd hps (by simp)
    | perm _ hperm ih =>
      subst hps
      exact ih (List.perm_nil.mp hperm).symm
    | insurance a _ ih => exact ih hps
  refine ⟨?_, hbooks.2, fun ho => h.oneOfAKind ho, hrisen⟩
  rw [hbooks.1, add_zero]

/-- A user's account goes up. -/
theorem credit {uid : UserId} {a : Account} {d : Decimal}
    (ha : L.get (.user uid, a.accountId) = some a) (hc : a.currency = .KKP) (hd : 0 ≤ d) :
    Credits d L (L.put (.user uid) (a.shift d)) := by
  have hm : Moves L [⟨(.user uid, a.accountId), a.currency, d⟩] (L.put (.user uid) (a.shift d)) :=
    .post d .refl ha
  refine ⟨Ledger.usersKarma_put d ha hc, fun _ => rfl, fun ho => hm.oneOfAKind ho, ?_⟩
  intro uid' id
  rw [hm.balanceAt, Posting.sumAt_cons, Posting.sumAt_nil, add_zero]
  split
  · exact le_add_of_nonneg_right hd
  · rw [add_zero]

end Credits

/-- The entries of a map of totals. -/
def totalsList (totals : UserTotals) : List (UserId × Decimal) :=
  totals.entries.map fun e => (e.1, e.2)

/-- All that was swapped. -/
def totalSwapped (totals : UserTotals) : Decimal := ((totalsList totals).map (·.2)).sum

/-- The karma the dealer reports, cut to its decimal places. -/
def reported (msg : KarmaBalance) : Decimal := (Money.new .KKP msg.karma).value

namespace Sample

end Sample

end Lndhubx
