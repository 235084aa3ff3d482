import Lndhubx.Bank.Conservation

/-!
# A debit and its payment task

An external payment is debited first and paid by a task afterwards. Between the
two the bank writes a summary row, and gives up if that fails: the accounts are
then already written back, and no task is ever spawned for them.

`debitMatchesTask_iff` says when this happens. The debit and the task go
together (`DebitMatchesTask`) exactly if the summary row can be stored — its
key is the millisecond of the call, so a second summary of the same millisecond
cannot — or if the request does not get as far as its debit (`ReachesDebit`).
-/

namespace Lndhubx

open Prog BankEngine

variable {cfg : Config} {env : Env} {s s' : State}

/-- Exactly one task was spawned, and its result, whatever the node answers,
carries a bitcoin amount that is worth `D`. -/
def SpawnedFor (uid : UserId) (s s' : State) (D : Decimal) : Prop :=
  ∃ t amount, s'.paymentThreads = s.paymentThreads ++ [t] ∧ t.uid = uid ∧
    (∀ answer, (t.result answer).amount.exchange (t.result answer).rate = .ok (.ok amount)) ∧
    amount.value = D

/-- A user's balance went down by `D` if and only if a task was spawned for `D`,
and otherwise nothing changed. -/
structure DebitMatchesTask (uid : UserId) (s s' : State) : Prop where
  reduced_iff : ∀ D, 0 < D →
    ((∃ id, s'.ledger.balanceAt (.user uid, id) = s.ledger.balanceAt (.user uid, id) - D) ↔
      SpawnedFor uid s s' D)
  otherwise : (∀ D, 0 < D → ¬SpawnedFor uid s s' D) →
    s'.paymentThreads = s.paymentThreads ∧ ∀ r, s'.ledger.balanceAt r = s.ledger.balanceAt r

theorem not_spawnedFor {uid : UserId} (h : s'.paymentThreads = s.paymentThreads) (D : Decimal) :
    ¬SpawnedFor uid s s' D := by
  intro hspec
  obtain ⟨t, amount, ht, -⟩ := hspec
  rw [h] at ht
  exact absurd ht (by simp)

/-- A request that was refused. -/
theorem DebitMatchesTask.unchanged {uid : UserId} (ht : s'.paymentThreads = s.paymentThreads)
    (hb : ∀ r, s'.ledger.balanceAt r = s.ledger.balanceAt r) : DebitMatchesTask uid s s' := by
  refine ⟨fun D hD => ⟨fun ⟨id, h⟩ => ?_, fun h => absurd h (not_spawnedFor ht D)⟩,
    fun _ => ⟨ht, hb⟩⟩
  rw [hb] at h
  exact absurd h (by linarith)

/-- The bookings of a debit take exactly its amount from the user. -/
theorem reduced_iff_of_hold {h : HoldAccounts} {uid : UserId} {currency : Currency}
    {debit total : Decimal} (hm : Moves s.ledger (h.bookings uid currency debit total) s'.ledger)
    {D : Decimal} (hD : 0 < D) :
    (∃ id, s'.ledger.balanceAt (.user uid, id) = s.ledger.balanceAt (.user uid, id) - D) ↔
      D = debit := by
  constructor
  · intro hspec
    obtain ⟨id, h⟩ := hspec
    rw [hm.balanceAt, HoldAccounts.sumAt_user] at h
    split at h
    · linarith
    · exact absurd h (by linarith)
  · intro e
    refine ⟨h.user, ?_⟩
    rw [hm.balanceAt, HoldAccounts.sumAt_user, if_pos ⟨rfl, rfl⟩, e]
    ring

/-! ## The messages sent before do not matter -/

theorem IsExternal.cleared {msg : PaymentRequest} (h : IsExternal cfg env msg s) :
    IsExternal cfg env msg { s with sent := [] } := ⟨h.route, h.unowned⟩

theorem reachesDebit_cleared {msg : PaymentRequest} :
    ReachesDebit cfg env msg { s with sent := [] } ↔ ReachesDebit cfg env msg s := by
  constructor
  · intro hspec
    obtain ⟨pr, decoded, millisats, rate, fee, total, debit, h⟩ := hspec
    exact ⟨pr, decoded, millisats, rate, fee, total, debit, h.admitted, h.known, h.amount, h.conn,
      h.payer, h.paymentRequest, h.parsed, h.hmillisats, h.hrate, h.payable, h.priced, h.covered,
      h.positive, h.stored⟩
  · intro hspec
    obtain ⟨pr, decoded, millisats, rate, fee, total, debit, h⟩ := hspec
    exact ⟨pr, decoded, millisats, rate, fee, total, debit, h.admitted, h.known, h.amount, h.conn,
      h.payer, h.paymentRequest, h.parsed, h.hmillisats, h.hrate, h.payable, h.priced, h.covered,
      h.positive, h.stored⟩

/-- An external payment request is debited without a task if and only if it
reaches its debit and the summary row cannot be stored. -/
theorem debitMatchesTask_iff {msg : PaymentRequest}
    (hstep : Delivers cfg s ⟨env, .api (.paymentRequest msg)⟩ s')
    (hext : IsExternal cfg env msg s) :
    DebitMatchesTask msg.uid s s' ↔ SummaryStored env s ∨ ¬ReachesDebit cfg env msg s := by
  have hout : PaymentOutcome cfg env msg { s with sent := [] } s' :=
    hstep.ensures (paymentRequest_spec msg)
  cases hout with
  | refused booked reason =>
    refine ⟨fun _ => .inr fun hr => reason hext.cleared (reachesDebit_cleared.mpr hr), fun _ => ?_⟩
    refine .unchanged booked.threads fun r => ?_
    have := booked.moves.balanceAt r
    rwa [Posting.sumAt_nil, add_zero] at this
  | transferred username route _ => exact absurd route (hext.route username)
  | settled pr decoded millisats rate amount invoice owner user req s₁ hpr _ _ _ _ fetched found _
      howner _ _ _ _ =>
    have hnone := hext.unowned pr invoice hpr fetched found
    rw [hnone] at howner
    exact absurd howner (by simp)
  | debited p decoded millisats h s₁ made _ reached positive _ _ booked rest =>
    have hreach : ReachesDebit cfg env msg s := reachesDebit_cleared.mp reached
    have hmoves : Moves s.ledger (h.bookings msg.uid msg.currency p.debit.value
        p.totalInBtc.value) s₁.ledger := booked.moves
    rcases rest with ⟨hn, hsum⟩ | ⟨hsum, fee, -, hspawn⟩
    · -- debited, and given up
      have ht : s'.paymentThreads = s.paymentThreads := hn.threads.trans booked.threads
      rw [← hn.ledger] at hmoves
      constructor
      · intro hmatch
        have hred := (reduced_iff_of_hold hmoves positive.1).mpr rfl
        exact absurd ((hmatch.reduced_iff _ positive.1).mp hred) (not_spawnedFor ht _)
      · intro hcond
        rcases hcond with hst | hno
        · exact absurd hst hsum
        · exact absurd hreach hno
    · rw [← hspawn.ledger] at hmoves
      have ht : s'.paymentThreads = s.paymentThreads ++ [p.task fee] := by
        rw [hspawn.threads, booked.threads]
      have hfor : ∀ D, SpawnedFor msg.uid s s' D ↔ D = p.debit.value := by
        intro D
        constructor
        · intro hspec
          obtain ⟨t, amount, ht', -, hex, rfl⟩ := hspec
          rw [ht] at ht'
          have htask := List.append_cancel_left ht'
          injection htask with htask
          have hex := hex (.error .failedToSendPayment)
          rw [← htask] at hex
          have := made.exchanged.symm.trans hex
          injection this with this
          injection this with this
          rw [this]
        · intro e
          refine ⟨p.task fee, p.debit, ht, made.uid, fun answer => ?_, e.symm⟩
          cases answer with
          | error e => exact made.exchanged
          | ok r => exact made.exchanged
      refine ⟨fun _ => .inl hsum, fun _ => ⟨fun D hD => ?_, fun hno => ?_⟩⟩
      · rw [reduced_iff_of_hold hmoves hD, hfor]
      · exact absurd ((hfor _).mpr rfl) (hno _ positive.1)

/-- The shop's invoice is not in the database, so Alice's payment is external. -/
theorem Sample.payShop_external {t : Nat}
    (h : s.db.invoiceByPaymentRequest "lnbc-shop" = none) :
    IsExternal Sample.config (Sample.env t) Sample.payShop s := by
  refine ⟨fun username => by simp [routeRecipient, Sample.payShop], fun pr i hpr _ hi => ?_⟩
  have hpr : "lnbc-shop" = pr := Option.some.inj hpr
  rw [← hpr, h] at hi
  exact absurd hi (by simp)

/-- Paid a millisecond after the deposit, the debit has its task. -/
theorem debitMatchesTask_sample : ∃ s s',
    Run Sample.config Sample.state [⟨Sample.env 1, Sample.deposit⟩] s ∧
    Delivers Sample.config s ⟨Sample.env 2, .api (.paymentRequest Sample.payShop)⟩ s' ∧
    s'.paymentThreads.length = 1 ∧ DebitMatchesTask 7 s s' := by
  obtain ⟨s, hrun, hstep, hshop, hsum⟩ := exists_run Sample.config
    [⟨Sample.env 1, Sample.deposit⟩] Sample.state
    (fun s => (deliver Sample.config ⟨Sample.env 2, .api (.paymentRequest Sample.payShop)⟩ s
        ).toOption.any (fun s' => decide (s'.paymentThreads.length = 1)) = true ∧
      (s.db.invoiceByPaymentRequest "lnbc-shop").isNone = true ∧
      s.db.summaryTransactions.has (summaryTxidOf 2) = false)
    (by decide +kernel)
  obtain ⟨s', hdel, hlen⟩ := exists_delivers _ _ s _ hstep
  have hext := Sample.payShop_external (t := 2) (Option.isNone_iff_eq_none.mp hshop)
  exact ⟨s, s', hrun, hdel, hlen,
    (debitMatchesTask_iff hdel hext).mpr (.inl ⟨rfl, rfl, hsum⟩)⟩

/-- Paid in the millisecond of the deposit, whose summary has taken the key, the
debit of 505 sats has no task. -/
theorem debit_without_task : ∃ s s',
    Run Sample.config Sample.state [⟨Sample.env 1, Sample.deposit⟩] s ∧
    Delivers Sample.config s ⟨Sample.env 1, .api (.paymentRequest Sample.payShop)⟩ s' ∧
    IsExternal Sample.config (Sample.env 1) Sample.payShop s ∧
    s'.ledger.balanceAt (.user 7, 1) = s.ledger.balanceAt (.user 7, 1) - 505 / 100000000 ∧
    s'.paymentThreads.length = s.paymentThreads.length ∧ ¬DebitMatchesTask 7 s s' := by
  obtain ⟨s, hrun, hstep, hshop⟩ := exists_run Sample.config
    [⟨Sample.env 1, Sample.deposit⟩] Sample.state
    (fun s => (deliver Sample.config ⟨Sample.env 1, .api (.paymentRequest Sample.payShop)⟩ s
        ).toOption.any (fun s' => decide (s'.ledger.balanceAt (.user 7, 1)
          = s.ledger.balanceAt (.user 7, 1) - 505 / 100000000 ∧
          s'.paymentThreads.length = s.paymentThreads.length)) = true ∧
      (s.db.invoiceByPaymentRequest "lnbc-shop").isNone = true)
    (by decide +kernel)
  obtain ⟨s', hdel, hbal, hlen⟩ := exists_delivers _ _ s _ hstep
  have hext := Sample.payShop_external (t := 1) (Option.isNone_iff_eq_none.mp hshop)
  refine ⟨s, s', hrun, hdel, hext, hbal, hlen, fun hmatch => ?_⟩
  obtain ⟨t, amount, ht, -⟩ := (hmatch.reduced_iff _ (by norm_num)).mp ⟨1, hbal⟩
  rw [ht, List.length_append] at hlen
  exact absurd hlen (by simp)

end Lndhubx
