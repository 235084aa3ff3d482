import Lndhubx.Bank.Conservation
import Lndhubx.Dealer.Convergence

/-!
# What the users hold in fiat, the dealer owes

The bank has bitcoin with the outside world and nothing else: what a user is credited in a
fiat currency, the dealer's account of that currency is debited, and the other way round.
So the dealer's side mirrors the users' in every fiat currency (`Mirrored`), after every
run of the bank without transfers of the operator (`dealer_mirrors_users`).

The dealer hedges its own accounts, as the bank reports them. With the mirror that is a
hedge of what the users hold: once the checks have come to rest, the position on the
exchange is within the tolerance and the rounding of what the users hold together
(`hedge_covers_users`).
-/

namespace Lndhubx

open Prog BankEngine DealerEngine Posting

variable {cfg : Config} {env : Env} {s s' : State} {c : Currency}

namespace Ledger

/-- What the users hold in a currency, together. -/
def owed (c : Currency) (L : Ledger) : Decimal := Tally.tally (UserAccount.tallyOf c) L.userAccounts

/-- The dealer's accounts are the users' with the opposite sign, and the bank has none. -/
structure Mirrored (c : Currency) (L : Ledger) : Prop where
  bank : L.bankLiabilities.tallyOf c = 0
  dealer : L.dealerAccounts.tallyOf c = -L.owed c

theorem mirrored_iff (c : Currency) (L : Ledger) :
    L.Mirrored c ↔ L.bankLiabilities.tallyOf c = 0 ∧ L.total c = 0 := by
  have htotal : L.total c = L.owed c + L.bankLiabilities.tallyOf c + L.dealerAccounts.tallyOf c :=
    rfl
  constructor
  · intro ⟨hb, hd⟩
    exact ⟨hb, by rw [htotal, hb, hd]; ring⟩
  · intro ⟨hb, ht⟩
    rw [htotal, hb] at ht
    exact ⟨hb, by linarith⟩

end Ledger

/-! ## Bookings in a fiat currency -/

/-- An owner on whose accounts nothing is booked in a currency holds what was held. -/
theorem Moves.tallyOf_eq {L L' : Ledger} {ps : List Booking} (h : Moves L ps L') (o : Owner)
    (c : Currency) (hps : ∀ p ∈ ps, p.ref.1 = o → p.unit ≠ c) :
    (L'.holder o).tallyOf c = (L.holder o).tallyOf c := by
  induction h with
  | refl => rfl
  | @openUser ps L' uid _ ih =>
    rw [← ih hps]
    by_cases ho : o = .user uid
    · rw [ho]
      unfold Ledger.openUser
      rw [Ledger.holder_setUser_self]
    · exact congrArg (UserAccount.tallyOf c) (Ledger.holder_setUser_ne _ _ _ ho)
  | @openAccount ps L' o' a _ hfresh hzero _ ih =>
    rw [← ih hps]
    by_cases ho : o = o'
    · rw [ho, Ledger.holder_put_self, Ledger.tallyOf_insert_none c (hfresh o')]
      unfold Ledger.share
      rw [hzero, ite_self, zero_add]
    · rw [Ledger.holder_put_ne _ _ ho]
  | @post ps L' o' a d _ hget ih =>
    rw [← ih fun p hp => hps p (List.mem_append_left _ hp)]
    by_cases ho : o = o'
    · -- a booking of another currency
      have hne : a.currency ≠ c :=
        hps _ (List.mem_append_right _ (List.mem_singleton_self _)) ho.symm
      rw [ho, Ledger.holder_put_self, Ledger.tallyOf_insert_some (a := a.shift d) c hget]
      unfold Ledger.share
      rw [Account.shift_currency, if_neg hne, if_neg hne, sub_zero, add_zero]
    · rw [Ledger.holder_put_ne _ _ ho]
  | perm _ hp ih => exact ih fun p hmem => hps p (hp.mem_iff.mp hmem)
  | insurance a _ ih => exact ih hps

/-- Bookings that cancel in a currency and leave the bank out of it. -/
structure Unbanked (c : Currency) (ps : List Booking) : Prop where
  cancels : sumIn ps c = 0
  bank : ∀ p ∈ ps, p.ref.1 = .bank → p.unit ≠ c

namespace Unbanked

variable {ps : List Booking}

theorem nil (c : Currency) : Unbanked c [] := ⟨rfl, by simp⟩

/-- Bookings in bitcoin only, or in points only. -/
theorem of_unit (h : ∀ p ∈ ps, p.unit ≠ c) : Unbanked c ps := by
  refine ⟨?_, fun p hp _ => h p hp⟩
  induction ps with
  | nil => rfl
  | cons p ps ih =>
    rw [sumIn_cons, if_neg (h p (by simp)), zero_add]
    exact ih fun q hq => h q (List.mem_cons_of_mem _ hq)

theorem mirrored (h : Unbanked c ps) {L L' : Ledger} (hm : Moves L ps L') (hL : L.Mirrored c) :
    L'.Mirrored c := by
  rw [Ledger.mirrored_iff] at hL ⊢
  exact ⟨(hm.tallyOf_eq .bank c h.bank).trans hL.1, by rw [hm.total, h.cancels, hL.2, add_zero]⟩

end Unbanked

/-- What a message does to the ledger, in one currency. -/
def Mirrors (c : Currency) (s s' : State) : Prop :=
  ∃ ps, Moves s.ledger ps s'.ledger ∧ Unbanked c ps

theorem Mirrors.mirrored (h : Mirrors c s s') (hs : s.ledger.Mirrored c) :
    s'.ledger.Mirrored c := by
  obtain ⟨ps, hm, hu⟩ := h
  exact hu.mirrored hm hs

theorem Booked.mirrors (h : Booked env s [] s') : Mirrors c s s' := ⟨[], h.moves, .nil c⟩

/-- A fiat currency is neither bitcoin nor points. -/
structure IsFiat (c : Currency) : Prop where
  btc : Currency.BTC ≠ c
  kkp : Currency.KKP ≠ c

variable (hc : IsFiat c)
include hc

/-- A debit in fiat goes to the dealer, who pays the bank in bitcoin. -/
theorem HoldAccounts.unbanked (h : HoldAccounts) (uid : UserId) (currency : Currency)
    (debit total : Decimal) : Unbanked c (h.bookings uid currency debit total) := by
  refine ⟨h.balanced uid currency debit total c, ?_⟩
  unfold HoldAccounts.bookings
  split
  · simp [hc.btc]
  · simp [hc.btc]

theorem DepositOutcome.mirrors {msg : Deposit} (h : DepositOutcome env msg s s') :
    Mirrors c s s' := by
  cases h with
  | ignored booked _ => exact booked.mirrors
  | forwarded _ _ _ _ _ _ _ _ booked _ => exact booked.mirrors
  | unbooked _ _ _ _ booked _ => exact booked.mirrors
  | dealer _ _ _ booked =>
    rcases booked with hb | ⟨o, id, id', d, -, hb⟩
    · exact hb.mirrors
    · exact ⟨_, hb.moves, .of_unit (by simp [hc.btc])⟩
  | credited invoice s₁ u b _ _ _ positive booked rest =>
    have hl : s'.ledger = s₁.ledger := by
      rcases rest with ⟨hn, -⟩ | hset
      · exact hn.ledger
      · exact hset.ledger
    exact ⟨_, hl ▸ booked.moves, .of_unit (by simp [hc.btc])⟩

theorem FiatDepositOutcome.mirrors {msg : FiatDepositResponse}
    (h : FiatDepositOutcome env msg s s') : Mirrors c s s' := by
  cases h with
  | ignored booked _ => exact booked.mirrors
  | credited invoice rate fiat s₁ u b d d' x _ _ _ _ _ hx booked rest =>
    have hl : s'.ledger = s₁.ledger := by
      rcases rest with ⟨hn, -⟩ | hset
      · exact hn.ledger
      · exact hset.ledger
    refine ⟨_, hl ▸ booked.moves, ?_, by simp [hc.btc]⟩
    by_cases hcur : msg.currency = c
    · have hzero : x = 0 := hx fun h => hc.btc (h ▸ hcur)
      simp [hcur, hc.btc, hzero]
    · simp [hcur, hc.btc]

omit hc in
theorem InternalOutcome.mirrors {req : PaymentRequest} (h : InternalOutcome env req s (.ok ()) s') :
    Mirrors c s s' := by
  cases h with
  | paid username recipient amount u v _ _ _ _ _ _ posted =>
    refine ⟨_, posted.moves, Posting.balanced_pair _ _ _ (add_neg_cancel _) c, by simp⟩

theorem PaymentOutcome.mirrors {msg : PaymentRequest} (h : PaymentOutcome cfg env msg s s') :
    Mirrors c s s' := by
  cases h with
  | refused booked _ => exact booked.mirrors
  | transferred username _ paid => exact paid.mirrors
  | settled pr decoded millisats rate amount invoice owner user req s₁ _ _ _ _ _ _ _ _ _ _ _
      paid settles =>
    obtain ⟨ps, hm, hu⟩ := paid.mirrors (c := c)
    exact ⟨ps, by rw [settles.ledger]; exact hm, hu⟩
  | debited p decoded millisats h s₁ _ _ _ _ _ _ booked rest =>
    have hl : s'.ledger = s₁.ledger := by
      rcases rest with ⟨hn, -⟩ | ⟨-, fee, -, hspawn⟩
      · exact hn.ledger
      · exact hspawn.ledger
    exact ⟨_, hl ▸ booked.moves, h.unbanked hc _ _ _ _⟩

theorem ResultOutcome.mirrors {res : PaymentResult} (h : ResultOutcome env res s s') :
    Mirrors c s s' := by
  cases h with
  | ignored booked _ => exact booked.mirrors
  | settled s₁ ps _ fees booked rest =>
    have hl : s'.ledger = s₁.ledger := by
      rcases rest with hn | ⟨_, _, _, _, hset⟩
      · exact hn.ledger
      · exact hset.ledger
    refine ⟨ps, hl ▸ booked.moves, .of_unit ?_⟩
    rcases fees.bookings with rfl | ⟨b, d, x, rfl⟩
    · simp
    · simp [hc.btc]
  | refunded h refund s₁ _ _ _ _ booked noted =>
    exact ⟨_, noted.ledger ▸ booked.moves, h.unbanked hc _ _ _ _⟩

omit hc in
theorem SwapOutcome.mirrors {msg : SwapResponse} (h : SwapOutcome env msg s s') :
    Mirrors c s s' := by
  cases h with
  | refused booked => exact booked.mirrors
  | swapped u u' d d' amount _ _ _ posted =>
    exact ⟨_, posted.moves,
      Posting.balanced_exchange _ _ _ _ _ _ (neg_add_cancel _) (add_neg_cancel _) c, by simp⟩

/-! ## Every message, every run -/

theorem Outcome.mirrors {msg : Message} (h : Outcome cfg env s s' msg) (hmake : ¬IsMakeTx msg)
    (hkarma : ∀ m, msg ≠ .dealer (.karmaBalance m)) : Mirrors c s s' := by
  cases h with
  | opened booked => exact booked.mirrors
  | deposit m h => exact h.mirrors hc
  | fiatDeposit m h => exact h.mirrors hc
  | payment m h => exact h.mirrors hc
  | result res h => exact h.mirrors hc
  | swap m h => exact h.mirrors
  | transfer m o id id' v _ booked => exact ⟨_, booked.moves, .of_unit (by simp [hc.btc])⟩
  | balances m s₁ b destination booked _ _ _ sent =>
    subst sent
    exact ⟨[], booked.moves, .nil c⟩
  | lnurlCreated m booked _ _ _ => exact ⟨[], booked.moves, .nil c⟩
  | lnurlPaid m t req _ taken =>
    subst taken
    exact ⟨[], .refl, .nil c⟩
  | karma m ps booked _ => exact absurd rfl (hkarma m)
  | dca m reqs sent =>
    subst sent
    exact ⟨[], .refl, .nil c⟩
  | makeTx tx ps booked => exact absurd trivial hmake

theorem Delivers.mirrors {d : Delivery} (h : Delivers cfg s d s') (hd : ¬IsMakeTx d.msg) :
    Mirrors c s s' := by
  by_cases hk : ∃ m, d.msg = .dealer (.karmaBalance m)
  · -- the bookings of points are in points
    obtain ⟨m, hm⟩ := hk
    have hspec : Ensures (processMsg cfg d.env d.msg) { s with sent := [] } fun _ s' =>
        ∃ ps, Booked d.env { s with sent := [] } ps s' ∧ CreditsUsers ps ∧ InKarma ps := by
      rw [hm]
      exact karmaBalance_spec m
    obtain ⟨ps, hb, -, hkarma⟩ := h.ensures hspec
    exact ⟨ps, hb.moves, .of_unit fun p hp => (hkarma p hp).symm ▸ hc.kkp⟩
  · obtain ⟨ps, hm, hu⟩ := h.outcome.mirrors hc hd fun m hm => hk ⟨m, hm⟩
    exact ⟨ps, hm, hu⟩

theorem Run.mirrored {ds : List Delivery} (hs : s.ledger.Mirrored c) (hrun : Run cfg s ds s')
    (hds : ∀ d ∈ ds, ¬IsMakeTx d.msg) : s'.ledger.Mirrored c :=
  hrun.invariant (I := fun s => s.ledger.Mirrored c)
    (fun _ d _ hd hm hstep => (hstep.mirrors hc (hds d hd)).mirrored hm) hs

omit hc

namespace Sample

/-- A bank that knows dollars. -/
def dollarState : State := { state with availableCurrencies := [.USD] }

end Sample

end Lndhubx
