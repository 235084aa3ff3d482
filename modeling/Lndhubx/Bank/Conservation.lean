import Lndhubx.Bank.Outcome

/-!
# Double entry and covered debits, over whole runs

Every message is reduced to its bookings (`Outcome.books`): what it does to
the ledger is a list of postings that

* cancels in every currency, unless the message is `KarmaBalance`, an
  operator's transfer, or a conversion *into bitcoin*, which the dealer never
  answers (`Conserving`);
* takes from a user's account only if the user asked for a payment or a swap,
  and never more than the account holds (`Covered`), unless the message is an
  operator's transfer.

A run is a sequence of such steps, so the totals stay where reconciliation
found them and no user's account goes below zero.
-/

namespace Lndhubx

open Prog BankEngine

variable {cfg : Config} {env : Env} {s s' : State}

/-- What a message did to the balances. -/
def balanceChange (s s' : State) : AccountRef → Decimal :=
  fun r => s'.ledger.balanceAt r - s.ledger.balanceAt r

theorem balanceChange_of_moves {ps : List Booking} (h : Moves s.ledger ps s'.ledger) :
    balanceChange s s' = Posting.sumAt ps := by
  funext r
  unfold balanceChange
  rw [h.balanceAt]
  ring

/-- Messages whose bookings cancel. -/
def Conserving : Message → Prop
  | .dealer (.karmaBalance _) => False
  | .dealer (.fiatDepositResponse m) => m.currency ≠ .BTC
  | .cli (.makeTx _) => False
  | _ => True

/-- Transfers made by the operator, who may take from anyone. -/
def IsMakeTx : Message → Prop
  | .cli (.makeTx _) => True
  | _ => False

/-- Whose accounts a message may debit. -/
def MayDebit : Message → UserId → Prop
  | .api (.paymentRequest m), uid => m.uid = uid
  | .api (.swapResponse m), uid => m.uid = uid
  | _, _ => False

/-- A user who loses by these bookings has asked for it and can afford it. -/
def Covered (msg : Message) (L : Ledger) (ps : List Booking) : Prop :=
  ∀ uid id, Posting.sumAt ps (.user uid, id) < 0 →
    MayDebit msg uid ∧ 0 ≤ L.balanceAt (.user uid, id) + Posting.sumAt ps (.user uid, id)

theorem CreditsUsers.covered {ps : List Booking} (h : CreditsUsers ps) (msg : Message)
    (L : Ledger) : Covered msg L ps :=
  fun uid id hlt => absurd (h.sumAt_nonneg uid id) (not_le.mpr hlt)

/-- What a message does to the books. -/
structure Books (msg : Message) (s s' : State) (ps : List Booking) : Prop where
  moves : Moves s.ledger ps s'.ledger
  balanced : Conserving msg → Posting.Balanced ps
  covered : ¬IsMakeTx msg → Covered msg s.ledger ps

namespace Books

variable {msg : Message} {ps : List Booking}

theorem unchanged (h : Moves s.ledger [] s'.ledger) : Books msg s s' [] :=
  ⟨h, fun _ => Posting.balanced_nil, fun _ => CreditsUsers.covered (by simp [CreditsUsers]) _ _⟩

/-- Bookings that cancel and take from no user. -/
theorem credits (h : Moves s.ledger ps s'.ledger) (hb : Posting.Balanced ps)
    (hc : CreditsUsers ps) : Books msg s s' ps :=
  ⟨h, fun _ => hb, fun _ => hc.covered _ _⟩

/-- Bookings of which one takes from a user. -/
theorem debits {uid : UserId} {u : AccountId} {c : Currency} {d : Decimal}
    (h : Moves s.ledger ps s'.ledger) (hb : Posting.Balanced ps) {qs : List Booking}
    (hp : ps.Perm (⟨(.user uid, u), c, -d⟩ :: qs)) (hq : CreditsUsers qs)
    (hmay : MayDebit msg uid) (hcov : d ≤ s.ledger.balanceAt (.user uid, u)) :
    Books msg s s' ps := by
  refine ⟨h, fun _ => hb, fun _ uid' id hlt => ?_⟩
  have hnonneg := hq.sumAt_nonneg uid' id
  rw [Posting.sumAt_perm hp, Posting.sumAt_cons] at hlt ⊢
  split at hlt
  next href =>
    obtain ⟨huid, hid⟩ := Prod.mk.inj href
    injection huid with huid
    subst huid hid
    rw [if_pos rfl]
    exact ⟨hmay, by linarith⟩
  next => exact absurd hlt (by rw [zero_add]; exact not_lt.mpr hnonneg)

end Books

/-! ## One lemma per handler -/

/-- The bookings of a debit cancel, and so do those of a refund. -/
theorem HoldAccounts.balanced (h : HoldAccounts) (uid : UserId) (currency : Currency)
    (debit total : Decimal) : Posting.Balanced (h.bookings uid currency debit total) := by
  unfold HoldAccounts.bookings
  split
  next =>
    intro c
    have hx := Posting.balanced_exchange (Owner.user uid, h.user) (Owner.bank, h.bank)
      (Owner.dealer, h.dealerFiat) (Owner.dealer, h.dealerBtc) currency .BTC
      (neg_add_cancel debit) (add_neg_cancel total) c
    rw [← hx]
    exact Posting.sumIn_perm (.cons _ (.cons _ (.swap _ _ []))) c
  next => exact Posting.balanced_pair _ _ _ (add_neg_cancel debit)

theorem DepositOutcome.books {msg : Deposit} (h : DepositOutcome env msg s s') :
    ∃ ps, Books (.deposit msg) s s' ps := by
  cases h with
  | ignored booked _ => exact ⟨[], .unchanged booked.moves⟩
  | forwarded _ _ _ _ _ _ _ _ booked _ => exact ⟨[], .unchanged booked.moves⟩
  | unbooked _ _ _ _ booked _ => exact ⟨[], .unchanged booked.moves⟩
  | dealer _ _ _ booked =>
    rcases booked with hb | ⟨o, id, id', d, ho, hb⟩
    · exact ⟨[], .unchanged hb.moves⟩
    · refine ⟨_, .credits hb.moves (Posting.balanced_pair _ _ _ (add_neg_cancel d)) ?_⟩
      simp [CreditsUsers, ho]
  | credited invoice s₁ u b _ _ _ positive booked rest =>
    have hl : s'.ledger = s₁.ledger := by
      rcases rest with ⟨hn, -⟩ | hset
      · exact hn.ledger
      · exact hset.ledger
    refine ⟨_, .credits (by rw [hl]; exact booked.moves)
      (Posting.balanced_pair _ _ _ (add_neg_cancel _)) ?_⟩
    simp [CreditsUsers, positive.le]

theorem FiatDepositOutcome.books {msg : FiatDepositResponse} (h : FiatDepositOutcome env msg s s') :
    ∃ ps, Books (.dealer (.fiatDepositResponse msg)) s s' ps := by
  cases h with
  | ignored booked _ => exact ⟨[], .unchanged booked.moves⟩
  | credited invoice rate fiat s₁ u b d d' x _ _ _ _ positive hx booked rest =>
    have hl : s'.ledger = s₁.ledger := by
      rcases rest with ⟨hn, -⟩ | hset
      · exact hn.ledger
      · exact hset.ledger
    have hcredit : CreditsUsers [⟨(.user msg.uid, u), msg.currency, fiat.value⟩,
        ⟨(.bank, b), .BTC, -msg.amount.value⟩, ⟨(.dealer, d), .BTC, msg.amount.value⟩,
        ⟨(.dealer, d'), msg.currency, -fiat.value - x⟩] := by
      simp [CreditsUsers, positive.2.le]
    refine ⟨_, by rw [hl]; exact booked.moves, fun hcons => ?_, fun _ => hcredit.covered _ _⟩
    rw [hx hcons, sub_zero]
    exact Posting.balanced_exchange _ _ _ _ _ _ (add_neg_cancel _) (neg_add_cancel _)

/-- A transfer between two users, on behalf of a payment request. -/
theorem InternalOutcome.books {req : PaymentRequest} {msg : Message}
    (h : InternalOutcome env req s (.ok ()) s') (hmay : MayDebit msg req.uid) :
    ∃ ps, Books msg s s' ps := by
  cases h with
  | paid username recipient amount u v _ _ _ _ positive covered posted =>
    refine ⟨_, .debits posted.moves (Posting.balanced_pair _ _ _ (add_neg_cancel _))
      (.swap _ _ []) ?_ hmay covered⟩
    simp [CreditsUsers, positive.le]

theorem PaymentOutcome.books {msg : PaymentRequest} (h : PaymentOutcome cfg env msg s s') :
    ∃ ps, Books (.api (.paymentRequest msg)) s s' ps := by
  cases h with
  | refused booked _ => exact ⟨[], .unchanged booked.moves⟩
  | transferred username _ paid => exact paid.books rfl
  | settled pr decoded millisats rate amount invoice owner user req s₁ _ _ _ _ _ _ _ _ _ _ hreq
      paid settles =>
    have hmay : MayDebit (.api (.paymentRequest msg)) req.uid := hreq.1.symm
    obtain ⟨ps, hps⟩ := paid.books hmay
    exact ⟨ps, by rw [settles.ledger]; exact hps.moves, hps.balanced, hps.covered⟩
  | debited p decoded millisats h s₁ _ _ _ positive covered _ booked rest =>
    have hl : s'.ledger = s₁.ledger := by
      rcases rest with ⟨hn, -⟩ | ⟨-, fee, -, hspawn⟩
      · exact hn.ledger
      · exact hspawn.ledger
    have hmoves := booked.moves
    rw [← hl] at hmoves
    have hbal := h.balanced msg.uid msg.currency p.debit.value p.totalInBtc.value
    unfold HoldAccounts.bookings at hmoves hbal
    split at hmoves
    next hfiat =>
      rw [if_pos hfiat] at hbal
      exact ⟨_, .debits hmoves hbal (.refl _) (by simp [CreditsUsers]) rfl covered⟩
    next hbtc =>
      rw [if_neg hbtc] at hbal
      exact ⟨_, .debits hmoves hbal (.swap _ _ []) (by simp [CreditsUsers]) rfl covered⟩

theorem ResultOutcome.books {res : PaymentResult} (h : ResultOutcome env res s s') :
    ∃ ps, Books (.bank (.paymentResult res)) s s' ps := by
  cases h with
  | ignored booked _ => exact ⟨[], .unchanged booked.moves⟩
  | settled s₁ ps _ fees booked rest =>
    have hl : s'.ledger = s₁.ledger := by
      rcases rest with hn | ⟨_, _, _, _, hset⟩
      · exact hn.ledger
      · exact hset.ledger
    have hmoves : Moves s.ledger ps s'.ledger := by
      rw [hl]
      exact booked.moves
    rcases fees.bookings with rfl | ⟨b, d, x, rfl⟩
    · exact ⟨[], .unchanged hmoves⟩
    · exact ⟨_, .credits hmoves (Posting.balanced_pair _ _ _ (neg_add_cancel x))
        (by simp [CreditsUsers])⟩
  | refunded h refund s₁ _ _ positive _ booked noted =>
    have hmoves := booked.moves
    rw [← noted.ledger] at hmoves
    refine ⟨_, .credits hmoves (h.balanced _ _ _ _) ?_⟩
    unfold HoldAccounts.bookings
    split
    · simp [CreditsUsers, positive.le]
    · simp [CreditsUsers, positive.le]

theorem SwapOutcome.books {msg : SwapResponse} (h : SwapOutcome env msg s s') :
    ∃ ps, Books (.api (.swapResponse msg)) s s' ps := by
  cases h with
  | refused booked => exact ⟨[], .unchanged booked.moves⟩
  | swapped u u' d d' amount covered _ positive posted =>
    exact ⟨_, .debits posted.moves
      (Posting.balanced_exchange _ _ _ _ _ _ (neg_add_cancel _) (add_neg_cancel _)) (.refl _)
      (by simp [CreditsUsers, positive.2.le]) rfl covered⟩

/-! ## Every message, every run -/

theorem Outcome.books {msg : Message} (h : Outcome cfg env s s' msg) :
    ∃ ps, Books msg s s' ps := by
  cases h with
  | opened booked => exact ⟨[], .unchanged booked.moves⟩
  | deposit m h => exact h.books
  | fiatDeposit m h => exact h.books
  | payment m h => exact h.books
  | result res h => exact h.books
  | swap m h => exact h.books
  | transfer m o id id' v external booked =>
    exact ⟨_, .credits booked.moves (Posting.balanced_pair _ _ _ (add_neg_cancel v))
      (by simp [CreditsUsers, external])⟩
  | balances m s₁ b destination booked _ _ _ sent =>
    subst sent
    exact ⟨[], .unchanged booked.moves⟩
  | lnurlCreated m booked _ _ _ => exact ⟨[], .unchanged booked.moves⟩
  | lnurlPaid m t req _ taken =>
    subst taken
    exact ⟨[], .unchanged .refl⟩
  | karma m ps booked credits =>
    exact ⟨ps, booked.moves, fun hno => hno.elim, fun _ => credits.covered _ _⟩
  | dca m reqs sent =>
    subst sent
    exact ⟨[], .unchanged .refl⟩
  | makeTx tx ps booked =>
    exact ⟨ps, booked.moves, fun hno => hno.elim, fun hno => absurd trivial hno⟩

theorem Delivers.books {d : Delivery} (h : Delivers cfg s d s') : ∃ ps, Books d.msg s s' ps := by
  obtain ⟨ps, hm, hb, hc⟩ := h.outcome.books
  exact ⟨ps, hm, hb, hc⟩

/-- No user's account is below zero. -/
def UsersNonneg (L : Ledger) : Prop :=
  ∀ uid id a, L.get (.user uid, id) = some a → 0 ≤ a.balance

theorem UsersNonneg.balanceAt {L : Ledger} (h : UsersNonneg L) (uid : UserId) (id : AccountId) :
    0 ≤ L.balanceAt (.user uid, id) := by
  unfold Ledger.balanceAt
  cases ha : L.get (.user uid, id) with
  | none => exact le_refl 0
  | some a => exact h uid id a ha

theorem Books.usersNonneg {msg : Message} {ps : List Booking} (h : Books msg s s' ps)
    (hno : ¬IsMakeTx msg) (hs : UsersNonneg s.ledger) : UsersNonneg s'.ledger := by
  intro uid id a ha
  have hbal : a.balance =
      s.ledger.balanceAt (.user uid, id) + Posting.sumAt ps (.user uid, id) := by
    rw [← h.moves.balanceAt]
    unfold Ledger.balanceAt
    rw [ha]
    rfl
  rw [hbal]
  by_cases hlt : Posting.sumAt ps (.user uid, id) < 0
  · exact (h.covered hno uid id hlt).2
  · exact add_nonneg (hs.balanceAt uid id) (not_lt.mp hlt)

/-- In every run without operator's transfers no user's account goes below
zero, and the next message takes from a user only if it is the user's payment
request or swap. -/
theorem users_covered_of_run {ds : List Delivery} (hs : UsersNonneg s.ledger)
    (hrun : Run cfg s ds s') (hds : ∀ d ∈ ds, ¬IsMakeTx d.msg) :
    UsersNonneg s'.ledger ∧
      ∀ d s'', Delivers cfg s' d s'' → ¬IsMakeTx d.msg → ∀ uid id,
        s''.ledger.balanceAt (.user uid, id) < s'.ledger.balanceAt (.user uid, id) →
          MayDebit d.msg uid := by
  refine ⟨hrun.invariant (I := fun s => UsersNonneg s.ledger) ?_ hs, ?_⟩
  · intro s₁ d s₂ hd hs₁ hstep
    obtain ⟨ps, hb⟩ := hstep.books
    exact hb.usersNonneg (hds d hd) hs₁
  · intro d s'' hstep hno uid id hlt
    obtain ⟨ps, hb⟩ := hstep.books
    rw [hb.moves.balanceAt] at hlt
    exact (hb.covered hno uid id (by linarith)).1

/-- Alice's account goes down when she pays the shop, by her own request. -/
theorem users_covered_sample : ∃ s' s'',
    Run Sample.config Sample.state [⟨Sample.env 1, Sample.deposit⟩] s' ∧
    Delivers Sample.config s' ⟨Sample.env 2, .api (.paymentRequest Sample.payShop)⟩ s'' ∧
    s''.ledger.balanceAt (.user 7, 1) < s'.ledger.balanceAt (.user 7, 1) ∧
    UsersNonneg s'.ledger ∧ MayDebit (.api (.paymentRequest Sample.payShop)) 7 := by
  obtain ⟨s', hrun, hstep⟩ := exists_run Sample.config [⟨Sample.env 1, Sample.deposit⟩] Sample.state
    (fun s => (deliver Sample.config ⟨Sample.env 2, .api (.paymentRequest Sample.payShop)⟩ s
      ).toOption.any (fun s'' => decide
        (s''.ledger.balanceAt (.user 7, 1) < s.ledger.balanceAt (.user 7, 1))) = true)
    (by decide +kernel)
  obtain ⟨s'', hdel, hlt⟩ := exists_delivers _ _ s' _ hstep
  have hs : UsersNonneg Sample.state.ledger := (reconciled_of_ok rfl).nonneg
  obtain ⟨hnonneg, hmay⟩ := users_covered_of_run hs hrun (by simp [Sample.deposit, IsMakeTx])
  exact ⟨s', s'', hrun, hdel, hlt, hnonneg, hmay _ s'' hdel (by simp [IsMakeTx]) 7 1 hlt⟩

end Lndhubx
