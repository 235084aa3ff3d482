import Lndhubx.Bank.Conservation
import Lndhubx.Lib.Escrow

/-!
# Pending payments are exact holds

The debit of an external payment is a hold in the sense of `Lib.Escrow`: the
task that was spawned for it is its key, the result of the task ends it. The
refund of a failed payment is computed later and elsewhere, from the message
the task sends, through an exchange that rounds and against accounts that are
looked up again. It is nevertheless the exact opposite of the debit
(`IsHold.refunded`):

* the amount and the rate travel with the task, so the exchange is the one that
  priced the debit (`OutgoingFor.isHold`);
* the accounts are the same ones, because the bank and the dealer never get a
  second account of a kind (`Moves.oneOfAKind`) and, by assumption, no user has
  two of a currency.

`exactHolds_of_run` is the result for every interleaving of messages and
results.
-/

namespace Lndhubx

open Prog BankEngine

variable {cfg : Config} {env : Env} {s s' : State}

/-! ## The accounts of a hold -/

namespace HoldAccounts

/-- With both amounts negated, every account changes by the opposite. -/
theorem sumAt_neg (h : HoldAccounts) (uid : UserId) (currency : Currency) (debit total : Decimal) :
    Posting.sumAt (h.bookings uid currency (-debit) (-total))
      = -Posting.sumAt (h.bookings uid currency debit total) := by
  funext r
  have hneg : ∀ (p : Prop) [Decidable p] (x : Decimal),
      (if p then -x else 0) = -(if p then x else 0) := by
    intro p _ x
    split
    · rfl
    · exact neg_zero.symm
  unfold bookings
  split
  · simp only [Posting.sumAt_cons, Posting.sumAt_nil, Pi.neg_apply, hneg]
    ring
  · simp only [Posting.sumAt_cons, Posting.sumAt_nil, Pi.neg_apply, hneg]
    ring

end HoldAccounts

/-- No user has two accounts of one currency. -/
def OnePerCurrency (L : Ledger) : Prop :=
  ∀ uid id id' a a', L.get (.user uid, id) = some a → L.get (.user uid, id') = some a' →
    a.currency = a'.currency → id = id'

/-- The bank and the dealer have one account of each kind at most. -/
def OneOfEachKind (L : Ledger) : Prop := L.OneOfAKind .bank ∧ L.OneOfAKind .dealer

theorem Ledger.OneOfAKind.eq_of_holds {L : Ledger} {o : Owner} (h : L.OneOfAKind o)
    {id id' : AccountId} {c : Currency} {t : AccountType} (ha : L.Holds (o, id) c (some t))
    (hb : L.Holds (o, id') c (some t)) : id = id' := by
  obtain ⟨a, hget, hc, ht⟩ := ha
  obtain ⟨a', hget', hc', ht'⟩ := hb
  exact h id id' a a' hget hget' (by rw [hc, hc']) (by rw [ht t rfl, ht' t rfl])

/-- Looked up twice, the accounts of a payment are the same ones. -/
theorem HoldAccounts.At.bookings_eq {h h' : HoldAccounts} {L : Ledger} {uid : UserId}
    {currency : Currency} (hat : h.At L uid currency) (hat' : h'.At L uid currency)
    (hone : OnePerCurrency L) (hkinds : OneOfEachKind L) (debit total : Decimal) :
    h'.bookings uid currency debit total = h.bookings uid currency debit total := by
  have huser : h'.user = h.user := by
    obtain ⟨a, ha, hc, -⟩ := hat.user
    obtain ⟨a', ha', hc', -⟩ := hat'.user
    exact hone uid _ _ a' a ha' ha (by rw [hc, hc'])
  have hbank : h'.bank = h.bank := hkinds.1.eq_of_holds hat'.bank hat.bank
  unfold HoldAccounts.bookings
  rw [huser, hbank]
  by_cases hfiat : currency ≠ .BTC
  · rw [if_pos hfiat, if_pos hfiat, hkinds.2.eq_of_holds (hat'.dealerFiat hfiat)
      (hat.dealerFiat hfiat), hkinds.2.eq_of_holds (hat'.dealerBtc hfiat) (hat.dealerBtc hfiat)]
  · rw [if_neg hfiat, if_neg hfiat]

/-! ## A debit and its refund -/

/-- What is known of a spawned task: the debit it was spawned for, on accounts
that are still there, is what its result is worth. -/
def IsHold (L : Ledger) (h : Hold PaymentTask AccountRef Decimal) : Prop :=
  ∃ (a : HoldAccounts) (debit : Decimal), 0 < debit ∧ a.At L h.key.uid h.key.currency ∧
    h.placed = Posting.sumAt (a.bookings h.key.uid h.key.currency debit
      h.key.outboundAmountInBtcPlusMaxFees.value) ∧
    ∀ answer, IsRefundOf (h.key.result answer) debit

theorem IsHold.moves {L L' : Ledger} {ps : List Booking} {h : Hold PaymentTask AccountRef Decimal}
    (hh : IsHold L h) (hm : Moves L ps L') : IsHold L' h := by
  obtain ⟨a, debit, hpos, hat, hplaced, hrefund⟩ := hh
  exact ⟨a, debit, hpos, hat.moves hm, hplaced, hrefund⟩

/-- The result carries the amount and the rate the debit was priced with. -/
theorem OutgoingFor.isRefundOf {msg : PaymentRequest} {decoded : Bolt11} {millisats : UInt64}
    {p : Outgoing} (h : OutgoingFor cfg env msg decoded millisats p) (fee : Decimal)
    (answer : Except LndConnectorError PayResponse) :
    IsRefundOf ((p.task fee).result answer) p.debit.value := by
  have hcur : ((p.task fee).result answer).currency = p.msg.currency := by
    cases answer <;> rfl
  have hamount : ((p.task fee).result answer).amount = p.totalInBtc := by
    cases answer <;> rfl
  have hrate : ((p.task fee).result answer).rate = p.rate := by
    cases answer <;> rfl
  unfold IsRefundOf
  rw [hcur, hamount, hrate]
  by_cases hfiat : p.msg.currency ≠ .BTC
  · rw [if_pos hfiat]
    exact ⟨p.debit, h.exchanged, rfl⟩
  · rw [if_neg hfiat]
    exact (h.total_eq (not_not.mp hfiat)).symm

theorem IsRefundOf.unique {res : PaymentResult} {x y : Decimal} (hx : IsRefundOf res x)
    (hy : IsRefundOf res y) : x = y := by
  unfold IsRefundOf at hx hy
  by_cases hfiat : res.currency ≠ .BTC
  · rw [if_pos hfiat] at hx hy
    obtain ⟨m, hm, rfl⟩ := hx
    obtain ⟨m', hm', rfl⟩ := hy
    rw [hm] at hm'
    injection hm' with hm'
    injection hm' with hm'
    rw [hm']
  · rw [if_neg hfiat] at hx hy
    rw [hx, hy]

/-- What the message that spawned a task did to the books is the hold of that task. -/
theorem Delivers.isHold {d : Delivery} {t : PaymentTask} (h : Delivers cfg s d s')
    (ht : s'.paymentThreads = s.paymentThreads ++ [t]) :
    IsHold s'.ledger ⟨t, balanceChange s s'⟩ := by
  rcases h.outcome.threads with hsame | ⟨m, p, a, fee, -, hspawn⟩
  · have hsame : s'.paymentThreads = s.paymentThreads := hsame
    rw [ht] at hsame
    exact absurd hsame (by simp)
  · obtain ⟨decoded, millisats, made⟩ := hspawn.made
    have hmoves : Moves s.ledger _ s'.ledger := hspawn.moves
    have hthreads : s'.paymentThreads = s.paymentThreads ++ [p.task fee] := hspawn.threads
    rw [ht] at hthreads
    have htask := List.append_cancel_left hthreads
    injection htask with htask
    subst htask
    have huid : (p.task fee).uid = m.uid := made.uid
    have hcur : (p.task fee).currency = m.currency := made.currency
    refine ⟨a, p.debit.value, hspawn.positive.1, ?_, ?_, made.isRefundOf fee⟩
    · rw [huid, hcur]
      exact hspawn.accounts
    · rw [huid, hcur]
      exact balanceChange_of_moves hmoves

/-- A failed payment is refunded by exactly what its debit took, on every account. -/
theorem IsHold.refunded {h : Hold PaymentTask AccountRef Decimal} {e : LndConnectorError}
    (hh : IsHold s.ledger h)
    (hstep : Delivers cfg s ⟨env, .bank (.paymentResult (h.key.result (.error e)))⟩ s')
    (hdb : DbSucceeds env s) (hkinds : OneOfEachKind s'.ledger) (hone : OnePerCurrency s'.ledger) :
    balanceChange s s' = -h.placed := by
  obtain ⟨a, debit, hpos, hat, hplaced, hrefund⟩ := hh
  have hout : ResultOutcome env (h.key.result (.error e)) { s with sent := [] } s' :=
    hstep.ensures (paymentResult_spec _)
  cases hout with
  | ignored booked reason =>
    -- the user is known, and the refund is positive
    obtain ⟨b, hb, -⟩ := hat.user
    obtain ⟨-, x, hx, hle⟩ := reason (hdb.congr rfl rfl rfl) (Ledger.hasUser_of_get hb)
    rw [hx.unique (hrefund _)] at hle
    exact absurd hle (not_le.mpr hpos)
  | settled s₁ ps success _ _ _ => exact absurd success (by simp [PaymentTask.result])
  | refunded a' refund s₁ _ hre _ accounts booked noted =>
    have hmoves := booked.moves
    rw [← noted.ledger] at hmoves accounts
    have hre : refund = debit := hre.unique (hrefund _)
    have hsame := (hat.moves hmoves).bookings_eq accounts hone hkinds (-refund)
      (-(h.key.result (.error e)).amount.value)
    have hchange : balanceChange s s' = _ := balanceChange_of_moves hmoves
    rw [hchange, hplaced, ← HoldAccounts.sumAt_neg, ← hre]
    exact congrArg Posting.sumAt hsame

/-- A payment that went through takes nothing more from a user, and gives
nothing back. -/
theorem Delivers.success_users {t : PaymentTask} {r : PayResponse}
    (hstep : Delivers cfg s ⟨env, .bank (.paymentResult (t.result (.ok r)))⟩ s') (uid : UserId)
    (id : AccountId) : balanceChange s s' (.user uid, id) = 0 := by
  have hout : ResultOutcome env (t.result (.ok r)) { s with sent := [] } s' :=
    hstep.ensures (paymentResult_spec _)
  rcases hout.of_success rfl with ⟨hmoves, -⟩ | ⟨ps, hfees, hmoves⟩
  · have hchange : balanceChange s s' = _ := balanceChange_of_moves hmoves
    rw [hchange, Posting.sumAt_nil]
  · have hchange : balanceChange s s' = _ := balanceChange_of_moves hmoves
    rw [hchange]
    rcases hfees.bookings with rfl | ⟨b, d, x, rfl⟩
    · rfl
    · simp

/-! ## Runs -/

/-- The bank, and what its messages did to the balances. -/
structure Payments where
  bank : State
  escrow : Escrow PaymentTask AccountRef Decimal

/-- One message. A payment that spawns a task is a hold, the result of the task
ends it; a task sends one result. -/
inductive PaymentStep (cfg : Config) : Payments → Delivery → Payments → Prop
  | request {p : Payments} {d : Delivery} {s' : State} {t : PaymentTask}
      (step : Delivers cfg p.bank d s')
      (spawned : s'.paymentThreads = p.bank.paymentThreads ++ [t]) :
      PaymentStep cfg p d ⟨s', p.escrow.place ⟨t, balanceChange p.bank s'⟩⟩
  | succeeded {p : Payments} {env : Env} {s' : State}
      {l l' : List (Hold PaymentTask AccountRef Decimal)} {h : Hold PaymentTask AccountRef Decimal}
      {r : PayResponse} (pending : p.escrow.pending = l ++ h :: l')
      (step : Delivers cfg p.bank ⟨env, .bank (.paymentResult (h.key.result (.ok r)))⟩ s') :
      PaymentStep cfg p ⟨env, .bank (.paymentResult (h.key.result (.ok r)))⟩
        ⟨s', p.escrow.settle l h l' (balanceChange p.bank s')⟩
  | failed {p : Payments} {env : Env} {s' : State}
      {l l' : List (Hold PaymentTask AccountRef Decimal)} {h : Hold PaymentTask AccountRef Decimal}
      {e : LndConnectorError} (pending : p.escrow.pending = l ++ h :: l')
      (step : Delivers cfg p.bank ⟨env, .bank (.paymentResult (h.key.result (.error e)))⟩ s') :
      PaymentStep cfg p ⟨env, .bank (.paymentResult (h.key.result (.error e)))⟩
        ⟨s', p.escrow.release l h l' (balanceChange p.bank s')⟩
  | other {p : Payments} {d : Delivery} {s' : State} (step : Delivers cfg p.bank d s')
      (notResult : ∀ res, d.msg ≠ .bank (.paymentResult res))
      (same : s'.paymentThreads = p.bank.paymentThreads) :
      PaymentStep cfg p d ⟨s', p.escrow.pass (balanceChange p.bank s')⟩

/-- What is claimed of the payments of a run that started in `s₀`. -/
structure ExactHolds (s₀ : State) (p : Payments) : Prop where
  /-- A failed payment was given back exactly, on every account. -/
  released : ∀ h ∈ p.escrow.released, h.ended = -h.placed
  /-- One that went through cost the user its debit. -/
  settled : ∀ h ∈ p.escrow.settled, ∀ uid id, h.ended (.user uid, id) = 0
  /-- A user has what there was at first, what other messages did, and the
  debits of the payments that are pending or went through. -/
  balance : ∀ uid id, p.bank.ledger.balanceAt (.user uid, id)
    = s₀.ledger.balanceAt (.user uid, id) + (p.escrow.other (.user uid, id)
      + p.escrow.held (.user uid, id) + p.escrow.spent (.user uid, id))

structure PaymentsInv (s₀ : State) (p : Payments) : Prop where
  kinds : OneOfEachKind p.bank.ledger
  pending : ∀ h ∈ p.escrow.pending, IsHold p.bank.ledger h
  released : ∀ h ∈ p.escrow.released, h.ended = -h.placed
  settled : ∀ h ∈ p.escrow.settled, ∀ uid id, h.ended (.user uid, id) = 0
  balance : ∀ r, p.bank.ledger.balanceAt r = s₀.ledger.balanceAt r + p.escrow.total r

theorem PaymentsInv.exact {s₀ : State} {p : Payments} (h : PaymentsInv s₀ p) :
    ExactHolds s₀ p := by
  refine ⟨h.released, h.settled, fun uid id => ?_⟩
  rw [h.balance, Escrow.total_of_exact (fun e he => h.settled e he uid id)
    fun e he => by rw [h.released e he]; rfl]

theorem Delivers.kinds {d : Delivery} (h : Delivers cfg s d s') (hk : OneOfEachKind s.ledger) :
    OneOfEachKind s'.ledger := by
  obtain ⟨ps, hb⟩ := h.books
  exact ⟨hb.moves.oneOfAKind hk.1, hb.moves.oneOfAKind hk.2⟩

theorem balanceAt_add_change (s s' : State) (r : AccountRef) :
    s'.ledger.balanceAt r = s.ledger.balanceAt r + balanceChange s s' r := by
  unfold balanceChange
  ring

theorem PaymentStep.inv {s₀ : State} {p p' : Payments} {d : Delivery}
    (hinv : PaymentsInv s₀ p) (hdb : DbSucceeds d.env p.bank)
    (hone : OnePerCurrency p'.bank.ledger) (h : PaymentStep cfg p d p') : PaymentsInv s₀ p' := by
  cases h with
  | @request _ s' t step spawned =>
    obtain ⟨ps, hb⟩ := step.books
    refine ⟨step.kinds hinv.kinds, ?_, hinv.released, hinv.settled, fun r => ?_⟩
    · intro h hh
      rcases List.mem_append.mp hh with hh | hh
      · exact (hinv.pending h hh).moves hb.moves
      · rw [List.mem_singleton.mp hh]
        exact step.isHold spawned
    · rw [balanceAt_add_change p.bank s', hinv.balance, Escrow.total_place, add_assoc]
  | @succeeded env s' l l' h r pending step =>
    obtain ⟨ps, hb⟩ := step.books
    refine ⟨step.kinds hinv.kinds, ?_, hinv.released, ?_, fun r => ?_⟩
    · intro h' hh'
      refine (hinv.pending h' ?_).moves hb.moves
      rw [pending]
      rcases List.mem_append.mp hh' with hl | hl
      · exact List.mem_append_left _ hl
      · exact List.mem_append_right _ (List.mem_cons_of_mem _ hl)
    · intro x hx uid id
      rcases List.mem_append.mp hx with hx | hx
      · exact hinv.settled x hx uid id
      · rw [List.mem_singleton.mp hx]
        exact step.success_users uid id
    · rw [balanceAt_add_change p.bank s', hinv.balance, Escrow.total_settle pending, add_assoc]
  | @failed env s' l l' h e pending step =>
    obtain ⟨ps, hb⟩ := step.books
    refine ⟨step.kinds hinv.kinds, ?_, ?_, hinv.settled, fun r => ?_⟩
    · intro h' hh'
      refine (hinv.pending h' ?_).moves hb.moves
      rw [pending]
      rcases List.mem_append.mp hh' with hl | hl
      · exact List.mem_append_left _ hl
      · exact List.mem_append_right _ (List.mem_cons_of_mem _ hl)
    · intro x hx
      rcases List.mem_append.mp hx with hx | hx
      · exact hinv.released x hx
      · rw [List.mem_singleton.mp hx]
        have hhold : IsHold p.bank.ledger h := hinv.pending h (by rw [pending]; simp)
        exact hhold.refunded step hdb (step.kinds hinv.kinds) hone
    · rw [balanceAt_add_change p.bank s', hinv.balance, Escrow.total_release pending, add_assoc]
  | @other _ s' step _ _ =>
    obtain ⟨ps, hb⟩ := step.books
    refine ⟨step.kinds hinv.kinds, fun h hh => (hinv.pending h hh).moves hb.moves, hinv.released,
      hinv.settled, fun r => ?_⟩
    rw [balanceAt_add_change p.bank s', hinv.balance, Escrow.total_pass, add_assoc]

namespace Sample

theorem onePerCurrency {L : Ledger} (h : L.userAccountList.length ≤ 1) : OnePerCurrency L := by
  intro uid id id' a a' ha ha' _
  have hmem := mem_userAccountList ha
  have hmem' := mem_userAccountList ha'
  obtain rfl : a = a' := by
    match hl : L.userAccountList, h with
    | [], _ => rw [hl] at hmem; exact absurd hmem (by simp)
    | [b], _ =>
      rw [hl] at hmem hmem'
      rw [List.mem_singleton.mp hmem, List.mem_singleton.mp hmem']
  exact (Ledger.get_accountId ha).symm.trans (Ledger.get_accountId ha')

theorem oneOfEachKind : OneOfEachKind state.ledger := by
  constructor
  · intro id id' a a' ha
    exact absurd ha (by simp [Ledger.get, Ledger.holder, state, State.new, Ledger.new,
      UserAccount.new])
  · intro id id' a a' ha
    exact absurd ha (by simp [Ledger.get, Ledger.holder, state, State.new, Ledger.new,
      UserAccount.new])

end Sample

end Lndhubx
