import Lndhubx.Bank.Conservation
import Lndhubx.Core.Exchange

/-!
# LNURL withdrawals

A user authorises a withdrawal of an amount (`CreateLnurlWithdrawalRequest`),
the bank keeps it under its request id, and whoever knows the id may present an
invoice (`PayLnurlWithdrawalRequest`), once. The kept payment request is then
put on the bank's own queue with the invoice filled in and comes back as an
ordinary payment, which takes its amount from the invoice.

Nothing compares the invoice with the authorised amount. `Withdrawals` is the
bank with its queue; in every run the payments of a request id are at most as
many as the withdrawals accepted under it, and if each invoice is over at most
the sats that the bank reports as `maxWithdrawable` (`WithdrawalGuard`), what a
payment takes for the invoice is at most the authorised amount
(`withdrawals_authorised_of_run`). Changing the amount into bitcoin and the
invoice back cuts twice, never up. The inverse of a rate can be rounded up, and the
guard asks that this gains less than a unit of the amount's last place
(`Money.exchange_back_le_of_gain`).
-/

namespace Lndhubx

open Prog BankEngine

variable {cfg : Config} {env : Env} {s s' : State}

/-! ## What the bank puts on its queue -/

/-- The messages a handler sent to the bank itself. -/
def loopbacks (s : State) : List Message := (s.sent.filter (·.2 = .loopback)).map (·.1)

/-- The request id of a queued payment. -/
def queuedPayment : Message → Option RequestId
  | .api (.paymentRequest m) => some m.reqId
  | _ => none

theorem loopbacks_of_ordinary (h : ∀ m ∈ s.sent, Ordinary m) : loopbacks s = [] := by
  unfold loopbacks
  rw [List.map_eq_nil_iff, List.filter_eq_nil_iff]
  intro m hm
  simpa using (h m hm).1

theorem Quiet.loopbacks (h : Quiet s s') (hs : s.sent = []) : loopbacks s' = [] := by
  obtain ⟨new, hnew, hord⟩ := h.sent
  refine loopbacks_of_ordinary fun m hm => hord m ?_
  rwa [hnew, hs] at hm

/-- What a message does to the withdrawals and to the queue. -/
inductive WithdrawalOutcome (env : Env) (s s' : State) : Message → Prop
  | kept {msg : Message} (same : s'.lnurlWithdrawalRequests = s.lnurlWithdrawalRequests)
      (none : ∀ m ∈ loopbacks s', queuedPayment m = none) : WithdrawalOutcome env s s' msg
  | created (m : CreateLnurlWithdrawalRequest) (positive : 0 < m.amount.value)
      (rate : m.currency ≠ .BTC → m.rate.isSome = true)
      (kept : s'.lnurlWithdrawalRequests =
        s.lnurlWithdrawalRequests.insert m.reqId (env.now .lnurl, m.paymentRequest))
      (none : loopbacks s' = []) :
      WithdrawalOutcome env s s' (.api (.createLnurlWithdrawalRequest m))
  | paid (m : PayLnurlWithdrawalRequest) (t : Nat) (req : PaymentRequest)
      (found : s.lnurlWithdrawalRequests.lookup m.reqId = some (t, req))
      (taken : s'.lnurlWithdrawalRequests = s.lnurlWithdrawalRequests.erase m.reqId)
      (queued : loopbacks s' =
        [.api (.paymentRequest { req with paymentRequest := some m.paymentRequest })]) :
      WithdrawalOutcome env s s' (.api (.payLnurlWithdrawalRequest m))

theorem WithdrawalOutcome.of_quiet {msg : Message} (h : Quiet s s') (hs : s.sent = []) :
    WithdrawalOutcome env s s' msg := by
  refine .kept h.lnurl fun m hm => ?_
  rw [h.loopbacks hs] at hm
  exact absurd hm (by simp)

theorem Outcome.withdrawals {msg : Message} (h : Outcome cfg env s s' msg) (hs : s.sent = []) :
    WithdrawalOutcome env s s' msg := by
  cases h with
  | opened booked => exact .of_quiet booked.toQuiet hs
  | deposit m h => exact .of_quiet h.quiet hs
  | fiatDeposit m h => exact .of_quiet h.quiet hs
  | payment m h =>
    rcases h.quiet with hq | ⟨p, a, fee, hspawn⟩
    · exact .of_quiet hq hs
    · refine .kept hspawn.lnurl fun m hm => ?_
      obtain ⟨new, hnew, hord⟩ := hspawn.sent
      rw [hs, List.nil_append] at hnew
      rw [loopbacks_of_ordinary (by rw [hnew]; exact hord)] at hm
      exact absurd hm (by simp)
  | result res h => exact .of_quiet h.quiet hs
  | swap m h => exact .of_quiet h.quiet hs
  | transfer m o id id' v _ booked => exact .of_quiet booked.toQuiet hs
  | balances m s₁ b destination booked _ _ loopback sent =>
    have hnone := booked.toQuiet.loopbacks hs
    subst sent
    refine .kept booked.lnurl fun m hm => ?_
    unfold loopbacks at hnone hm
    rw [List.filter_append, List.map_append, hnone] at hm
    simp [loopback] at hm
  | lnurlCreated m booked positive rate kept =>
    exact .created m positive rate kept (booked.toQuiet.loopbacks hs)
  | lnurlPaid m t req found taken =>
    subst taken
    refine .paid m t req found rfl ?_
    simp [loopbacks, hs]
  | karma m ps booked _ => exact .of_quiet booked.toQuiet hs
  | dca m reqs sent =>
    subst sent
    refine .kept rfl fun m hm => ?_
    simp only [loopbacks, hs, List.nil_append, List.mem_map, List.mem_filter] at hm
    obtain ⟨x, ⟨⟨r, -, rfl⟩, -⟩, rfl⟩ := hm
    rfl
  | makeTx tx ps booked => exact .of_quiet booked.toQuiet hs

/-! ## What an invoice within the limit costs -/

/-- As the API and the dealer send it: the amount is in the currency of the account, with
its decimals, and the dealer adds a rate to a withdrawal in fiat only. There and back at
that rate, the rounding of its inverse gains less than a unit of the last decimal. -/
structure CreateLnurlWithdrawalRequest.WellFormed (m : CreateLnurlWithdrawalRequest) : Prop where
  currency : m.amount.currency = m.currency
  decimals : Decimal.HasDp m.amount.currency.dp m.amount.value
  unpriced : m.currency = .BTC → m.rate = none
  gain : ∀ rate, m.rate = some rate →
    m.amount.value * Rate.roundTrip rate.value < m.amount.value + 1 / 10 ^ m.amount.currency.dp

/-- The invoice is over at most the sats that are reported as the limit. -/
def WithinLimit (cfg : Config) (req : PaymentRequest) (pr : String) : Prop :=
  ∀ decoded millisats, cfg.parseInvoice pr = some decoded →
    decoded.amountMilliSatoshis = some millisats →
    ∃ limit, maxWithdrawable req = .ok (some limit) ∧ invoiceSats millisats ≤ limit

theorem fromSats_nonneg (n : Nat) : 0 ≤ (Money.fromSats n).value :=
  Decimal.roundToZero_nonneg (by unfold SATS_IN_BITCOIN; positivity)

theorem fromSats_le (n : Nat) : (Money.fromSats n).value ≤ n / SATS_IN_BITCOIN :=
  Decimal.roundToZero_le (by unfold SATS_IN_BITCOIN; positivity)

/-- The limit is what the kept amount is worth in bitcoin, in whole sats. -/
theorem maxWithdrawable_eq_ok {req : PaymentRequest} {amount : Money} {limit : Nat}
    (hamount : req.amount = some amount) (h : maxWithdrawable req = .ok (some limit)) :
    ∃ b, atRate amount req.rate = .ok b ∧ b.currency = .BTC ∧
      (limit : Decimal) / SATS_IN_BITCOIN ≤ b.value := by
  unfold maxWithdrawable at h
  rw [hamount] at h
  obtain ⟨b, hb, h⟩ := Checked.bind_eq_ok.mp h
  obtain ⟨r, hr, h⟩ := Checked.bind_eq_ok.mp h
  obtain ⟨sats, hs, h⟩ := Checked.bind_eq_ok.mp h
  rw [Checked.unwrapOk_eq_ok.mp hs] at hr
  replace h := Checked.pure_eq_ok.mp h
  unfold Money.trySats at hr
  split at hr
  next hc =>
    obtain ⟨v, hv, hr⟩ := Checked.bind_eq_ok.mp hr
    obtain ⟨-, rfl⟩ := Decimal.mul_eq_ok.mp hv
    injection Checked.pure_eq_ok.mp hr with hr
    refine ⟨b, hb, hc, ?_⟩
    unfold Decimal.toU64 at h
    split at h
    next hrange =>
      injection h with h
      have hfloor : ((⌊sats⌋.toNat : ℤ) : ℚ) ≤ sats := by
        rw [Int.toNat_of_nonneg (Int.floor_nonneg.mpr hrange.1)]
        exact Int.floor_le sats
      rw [div_le_iff₀ (by unfold SATS_IN_BITCOIN; positivity), hr, ← h]
      exact_mod_cast hfloor
    next => exact absurd h (by simp)
  next => exact absurd (Checked.pure_eq_ok.mp hr) (by simp)

/-- An invoice within the limit is not worth more than was authorised. -/
theorem worth_le_authorised {m : CreateLnurlWithdrawalRequest} {req : PaymentRequest}
    {n limit : Nat}
    {rate : Rate} {amount : Money} (hm : m.WellFormed) (hpos : 0 < m.amount.value)
    (hlimit : maxWithdrawable m.paymentRequest = .ok (some limit)) (hn : n ≤ limit)
    (hcur : req.currency = m.currency) (hreq : req.rate = m.rate) (hrate : payRate req = some rate)
    (hex : (Money.fromSats n).exchange rate = .ok (.ok amount)) :
    amount.value ≤ m.amount.value := by
  obtain ⟨b, hb, hbtc, hle⟩ := maxWithdrawable_eq_ok rfl hlimit
  have hnb : (Money.fromSats n).value ≤ b.value := by
    refine (fromSats_le n).trans (le_trans ?_ hle)
    unfold SATS_IN_BITCOIN
    gcongr
  unfold payRate at hrate
  rw [hcur, hreq] at hrate
  by_cases hc : m.currency = .BTC
  · rw [if_pos hc] at hrate
    injection hrate with hrate
    rw [← hrate] at hex
    have hb : b = m.amount := by
      have hnone : m.paymentRequest.rate = none := hm.unpriced hc
      rw [hnone] at hb
      exact (Checked.pure_eq_ok.mp hb).symm
    rw [exchange_unit rfl (Decimal.roundDp_hasDp _ _ _) hex, ← hb]
    exact hnb
  · rw [if_neg hc] at hrate
    have hsome : m.paymentRequest.rate = some rate := hrate
    rw [hsome] at hb
    obtain ⟨r, hr, hb⟩ := Checked.bind_eq_ok.mp hb
    have hb := Checked.unwrapOk_eq_ok.mp hb
    subst hb
    refine Money.exchange_back_le_of_gain hr hex ?_ hbtc.symm hpos.le (fromSats_nonneg n) hnb
      hm.decimals (hm.gain rate hsome)
    rw [hm.currency, hbtc]
    exact hc

/-! ## The payment -/

/-- A payment request that came back from the queue, what its handler was
answered, and what it did to the balances. -/
structure LoopedPayment where
  env : Env
  request : PaymentRequest
  change : AccountRef → Decimal

/-- What a payment of an invoice takes from the payer: what the invoice is
worth, if it is paid to another user, else with the estimated network fee. -/
inductive Charge (cfg : Config) (env : Env) (pr : String) (sats : Nat) (rate : Rate)
    (amount : Money) : Decimal → Prop
  | internal : Charge cfg env pr sats rate amount amount.value
  | external (fee total debit : Money)
      (priced : priceOutgoing cfg env pr (Money.fromSats sats) rate = .ok (fee, total, debit)) :
      Charge cfg env pr sats rate amount debit.value

/-- The payment took from one account of its user: `amount` is the part that is
for the invoice itself, over `sats`. -/
structure PaysInvoice (cfg : Config) (p : LoopedPayment) (sats : Nat) (amount : Money) : Prop where
  paid : ∃ pr decoded millisats rate id charge, p.request.paymentRequest = some pr ∧
    cfg.parseInvoice pr = some decoded ∧ decoded.amountMilliSatoshis = some millisats ∧
    sats = invoiceSats millisats ∧ payRate p.request = some rate ∧
    (Money.fromSats sats).exchange rate = .ok (.ok amount) ∧
    Charge cfg p.env pr sats rate amount charge ∧
    p.change (.user p.request.uid, id) = -charge ∧
    ∀ id', id' ≠ id → p.change (.user p.request.uid, id') = 0

/-- A request without a recipient is paid by its invoice, or refused. -/
theorem PaymentOutcome.paysInvoice {m : PaymentRequest} (h : PaymentOutcome cfg env m s s')
    (hrec : m.recipient = none) :
    balanceChange s s' = 0 ∨
      ∃ sats amount, PaysInvoice cfg ⟨env, m, balanceChange s s'⟩ sats amount := by
  cases h with
  | refused booked _ => exact .inl (balanceChange_of_moves booked.moves)
  | transferred username route _ =>
    unfold routeRecipient at route
    rw [hrec] at route
    exact absurd route (by simp)
  | settled pr decoded millisats rate amount i owner user req s₁ hpr parsed hmillisats hrate
      exchanged _ _ _ _ _ hreq paid settles =>
    right
    cases paid with
    | paid username recipient amount' u v _ _ other hamount positive _ posted =>
      obtain ⟨huid, -, hreqAmount, -⟩ := hreq
      have hamt : amount' = amount := Option.some.inj (hamount.symm.trans hreqAmount)
      have hmoves := posted.moves
      rw [← settles.ledger, huid] at hmoves
      rw [huid] at other
      -- the payer is not the owner of the invoice
      have hne : ∀ id,
          ((Owner.user (asU64 recipient.uid), v) : AccountRef) ≠ (.user m.uid, id) := by
        intro id e
        obtain ⟨hu, -⟩ := Prod.mk.inj e
        injection hu with hu
        exact other hu
      refine ⟨invoiceSats millisats, amount, pr, decoded, millisats, rate, u, amount.value, hpr,
        parsed, hmillisats, rfl, hrate, exchanged, .internal, ?_, fun id' hid => ?_⟩
      · show balanceChange s s' (.user m.uid, u) = _
        rw [balanceChange_of_moves hmoves, hamt]
        simp [hne u]
      · show balanceChange s s' (.user m.uid, id') = 0
        rw [balanceChange_of_moves hmoves]
        simp [hne id', Ne.symm hid]
  | debited p decoded millisats a s₁ made _ _ _ _ _ booked rest =>
    right
    have hl : s'.ledger = s₁.ledger := by
      rcases rest with ⟨hn, -⟩ | ⟨-, fee, -, hspawn⟩
      · exact hn.ledger
      · exact hspawn.ledger
    have hmoves := booked.moves
    rw [← hl] at hmoves
    obtain ⟨amount, hworth⟩ := made.worth
    have hpriced := made.priced
    rw [made.amountInBtc] at hpriced
    refine ⟨invoiceSats millisats, amount, p.paymentRequest, decoded, millisats, p.rate, a.user,
      p.debit.value, made.paymentRequest, made.parsed, made.hmillisats, rfl, made.rate, hworth,
      .external _ _ _ hpriced, ?_, fun id' hid => ?_⟩
    · show balanceChange s s' (.user m.uid, a.user) = _
      rw [balanceChange_of_moves hmoves, HoldAccounts.sumAt_user, if_pos ⟨rfl, rfl⟩]
    · show balanceChange s s' (.user m.uid, id') = 0
      rw [balanceChange_of_moves hmoves, HoldAccounts.sumAt_user, if_neg fun h => hid h.2]

/-! ## Runs -/

/-- The bank with its queue, the withdrawals it has accepted and the payments
that came back from the queue. -/
structure Withdrawals where
  bank : State
  queue : List Message
  created : List CreateLnurlWithdrawalRequest
  payments : List LoopedPayment

/-- One message, from outside or from the head of the queue. A withdrawal is
accepted if it goes into the table. -/
inductive WithdrawalStep (cfg : Config) : Withdrawals → Delivery → Withdrawals → Prop
  | create {w : Withdrawals} {env : Env} {s' : State} {m : CreateLnurlWithdrawalRequest}
      (step : Delivers cfg w.bank ⟨env, .api (.createLnurlWithdrawalRequest m)⟩ s')
      (accepted : s'.lnurlWithdrawalRequests ≠ w.bank.lnurlWithdrawalRequests) :
      WithdrawalStep cfg w ⟨env, .api (.createLnurlWithdrawalRequest m)⟩
        { w with bank := s', queue := w.queue ++ loopbacks s', created := w.created ++ [m] }
  | outside {w : Withdrawals} {d : Delivery} {s' : State} (step : Delivers cfg w.bank d s')
      (notCreated : ∀ m, d.msg = .api (.createLnurlWithdrawalRequest m) →
        s'.lnurlWithdrawalRequests = w.bank.lnurlWithdrawalRequests) :
      WithdrawalStep cfg w d { w with bank := s', queue := w.queue ++ loopbacks s' }
  | payment {w : Withdrawals} {env : Env} {s' : State} {req : PaymentRequest}
      {rest : List Message} (head : w.queue = .api (.paymentRequest req) :: rest)
      (step : Delivers cfg w.bank ⟨env, .api (.paymentRequest req)⟩ s') :
      WithdrawalStep cfg w ⟨env, .api (.paymentRequest req)⟩
        { w with
          bank := s', queue := rest ++ loopbacks s'
          payments := w.payments ++ [⟨env, req, balanceChange w.bank s'⟩] }
  | swap {w : Withdrawals} {env : Env} {s' : State} {req : SwapRequest}
      {rest : List Message} (head : w.queue = .api (.swapRequest req) :: rest)
      (step : Delivers cfg w.bank ⟨env, .api (.swapRequest req)⟩ s') :
      WithdrawalStep cfg w ⟨env, .api (.swapRequest req)⟩
        { w with bank := s', queue := rest ++ loopbacks s' }

/-- A withdrawal is well formed, and an invoice presented for a kept one is within its
limit. -/
def WithdrawalGuard (cfg : Config) (s : State) (d : Delivery) : Prop :=
  match d.msg with
  | .api (.createLnurlWithdrawalRequest m) => m.WellFormed
  | .api (.payLnurlWithdrawalRequest m) => ∀ t req,
      s.lnurlWithdrawalRequests.lookup m.reqId = some (t, req) →
        WithinLimit cfg req m.paymentRequest
  | _ => True

/-- The payment took nothing, or at most the authorised amount for its invoice,
and not more sats than the bank reports as the limit. -/
def Authorised (cfg : Config) (m : CreateLnurlWithdrawalRequest) (p : LoopedPayment) : Prop :=
  p.change = 0 ∨ ∃ sats amount limit, PaysInvoice cfg p sats amount ∧
    amount.value ≤ m.amount.value ∧
    maxWithdrawable m.paymentRequest = .ok (some limit) ∧ sats ≤ limit

/-- The request of an accepted withdrawal, with an invoice filled in. -/
structure IsWithdrawal (cfg : Config) (m : CreateLnurlWithdrawalRequest) (req : PaymentRequest) :
    Prop where
  wellFormed : m.WellFormed
  positive : 0 < m.amount.value
  invoice : ∃ pr, req = { m.paymentRequest with paymentRequest := some pr } ∧
    WithinLimit cfg m.paymentRequest pr

theorem IsWithdrawal.reqId {m : CreateLnurlWithdrawalRequest} {req : PaymentRequest}
    (h : IsWithdrawal cfg m req) : req.reqId = m.reqId := by
  obtain ⟨pr, rfl, -⟩ := h.invoice
  rfl

theorem IsWithdrawal.authorised {m : CreateLnurlWithdrawalRequest} {req : PaymentRequest}
    (h : IsWithdrawal cfg m req) (hstep : Delivers cfg s ⟨env, .api (.paymentRequest req)⟩ s') :
    Authorised cfg m ⟨env, req, balanceChange s s'⟩ := by
  obtain ⟨pr, rfl, hlimit⟩ := h.invoice
  have hout : PaymentOutcome cfg env { m.paymentRequest with paymentRequest := some pr }
      { s with sent := [] } s' := hstep.ensures (paymentRequest_spec _)
  rcases hout.paysInvoice rfl with hzero | ⟨sats, amount, hpays⟩
  · exact .inl hzero
  · right
    obtain ⟨pr', decoded, millisats, rate, -, -, hpr, hdec, hmil, hsats, hrate, hex,
      -⟩ := hpays.paid
    obtain rfl : pr = pr' := Option.some.inj hpr
    obtain ⟨limit, hmax, hle⟩ := hlimit decoded millisats hdec hmil
    rw [← hsats] at hle
    exact ⟨sats, amount, limit, hpays, worth_le_authorised h.wellFormed h.positive hmax hle rfl rfl
      hrate hex, hmax, hle⟩

namespace Withdrawals

/-- How often a withdrawal was accepted under an id. -/
def createdCount (w : Withdrawals) (id : RequestId) : Nat := (w.created.map (·.reqId)).count id

/-- How many payments came back from the queue for an id. -/
def paidCount (w : Withdrawals) (id : RequestId) : Nat :=
  (w.payments.map (·.request.reqId)).count id

def queuedCount (w : Withdrawals) (id : RequestId) : Nat :=
  (w.queue.filterMap queuedPayment).count id

/-- Is a withdrawal kept under the id? -/
def openCount (w : Withdrawals) (id : RequestId) : Nat :=
  if (w.bank.lnurlWithdrawalRequests.lookup id).isSome then 1 else 0

end Withdrawals

/-- Every kept, queued or paid request is one of an accepted withdrawal, and
each of these is in one place at most. -/
structure WithdrawalsInv (cfg : Config) (w : Withdrawals) : Prop where
  kept : ∀ id t req, w.bank.lnurlWithdrawalRequests.lookup id = some (t, req) →
    ∃ m ∈ w.created, m.reqId = id ∧ req = m.paymentRequest ∧ m.WellFormed ∧ 0 < m.amount.value
  queued : ∀ req, .api (.paymentRequest req) ∈ w.queue → ∃ m ∈ w.created, IsWithdrawal cfg m req
  paid : ∀ p ∈ w.payments, ∃ m ∈ w.created, m.reqId = p.request.reqId ∧ Authorised cfg m p
  count : ∀ id, w.paidCount id + w.queuedCount id + w.openCount id ≤ w.createdCount id

/-- The messages that came on the queue are no payments. -/
theorem filterMap_queuedPayment {l : List Message} (h : ∀ m ∈ l, queuedPayment m = none) :
    l.filterMap queuedPayment = [] := List.filterMap_eq_nil_iff.mpr h

theorem not_mem_of_queuedPayment {l : List Message} (h : ∀ m ∈ l, queuedPayment m = none)
    (req : PaymentRequest) : .api (.paymentRequest req) ∉ l := by
  intro hm
  exact absurd (h _ hm) (by simp [queuedPayment])

/-- Steps that change no withdrawal, after the first message of the queue or none. -/
theorem WithdrawalsInv.keep {w : Withdrawals} {rest : List Message} (hinv : WithdrawalsInv cfg w)
    (hsame : s'.lnurlWithdrawalRequests = w.bank.lnurlWithdrawalRequests)
    (hnone : ∀ m ∈ loopbacks s', queuedPayment m = none) (hrest : ∀ m ∈ rest, m ∈ w.queue)
    (hcount : rest.filterMap queuedPayment = w.queue.filterMap queuedPayment) :
    WithdrawalsInv cfg { w with bank := s', queue := rest ++ loopbacks s' } := by
  refine ⟨fun id t req hreq => ?_, fun req hreq => ?_, hinv.paid, fun id => ?_⟩
  · rw [hsame] at hreq
    exact hinv.kept id t req hreq
  · rcases List.mem_append.mp hreq with hreq | hreq
    · exact hinv.queued req (hrest _ hreq)
    · exact absurd hreq (not_mem_of_queuedPayment hnone req)
  · have hle := hinv.count id
    unfold Withdrawals.queuedCount Withdrawals.openCount at hle ⊢
    rw [List.filterMap_append, filterMap_queuedPayment hnone, List.append_nil, hcount, hsame]
    exact hle

theorem WithdrawalsInv.create {w : Withdrawals} {m : CreateLnurlWithdrawalRequest} {t : Nat}
    (hinv : WithdrawalsInv cfg w) (hm : m.WellFormed) (hpos : 0 < m.amount.value)
    (hkept : s'.lnurlWithdrawalRequests =
      w.bank.lnurlWithdrawalRequests.insert m.reqId (t, m.paymentRequest))
    (hnone : loopbacks s' = []) :
    WithdrawalsInv cfg
      { w with bank := s', queue := w.queue ++ loopbacks s', created := w.created ++ [m] } := by
  rw [hnone, List.append_nil]
  refine ⟨fun id t' req hreq => ?_, fun req hreq => ?_, fun p hp => ?_, fun id => ?_⟩
  · rw [hkept] at hreq
    by_cases hid : id = m.reqId
    · subst hid
      rw [AList.lookup_insert] at hreq
      injection hreq with hreq
      exact ⟨m, by simp, rfl, (Prod.mk.inj hreq).2.symm, hm, hpos⟩
    · rw [AList.lookup_insert_ne hid] at hreq
      obtain ⟨m', hm', h'⟩ := hinv.kept id t' req hreq
      exact ⟨m', List.mem_append_left _ hm', h'⟩
  · obtain ⟨m', hm', h'⟩ := hinv.queued req hreq
    exact ⟨m', List.mem_append_left _ hm', h'⟩
  · obtain ⟨m', hm', h'⟩ := hinv.paid p hp
    exact ⟨m', List.mem_append_left _ hm', h'⟩
  · have hle := hinv.count id
    unfold Withdrawals.paidCount Withdrawals.queuedCount Withdrawals.openCount
      Withdrawals.createdCount at hle ⊢
    dsimp only
    rw [List.map_append, List.count_append, hkept]
    by_cases hid : id = m.reqId
    · subst hid
      rw [AList.lookup_insert, if_pos (by simp)]
      have hone : (List.map (·.reqId) [m]).count m.reqId = 1 := by simp
      rw [hone]
      omega
    · rw [AList.lookup_insert_ne hid]
      omega

/-- A kept withdrawal moves from the table to the queue. -/
theorem WithdrawalsInv.present {w : Withdrawals} {m : PayLnurlWithdrawalRequest} {t : Nat}
    {req : PaymentRequest} (hinv : WithdrawalsInv cfg w)
    (hlimit : WithinLimit cfg req m.paymentRequest)
    (hfound : w.bank.lnurlWithdrawalRequests.lookup m.reqId = some (t, req))
    (htaken : s'.lnurlWithdrawalRequests = w.bank.lnurlWithdrawalRequests.erase m.reqId)
    (hqueued : loopbacks s' =
      [.api (.paymentRequest { req with paymentRequest := some m.paymentRequest })]) :
    WithdrawalsInv cfg { w with bank := s', queue := w.queue ++ loopbacks s' } := by
  obtain ⟨m', hm', hid', rfl, hwf, hpos⟩ := hinv.kept _ t req hfound
  rw [hqueued]
  refine ⟨fun id t' req' hreq => ?_, fun req' hreq => ?_, hinv.paid, fun id => ?_⟩
  · rw [htaken] at hreq
    by_cases hid : id = m.reqId
    · rw [hid, AList.lookup_erase] at hreq
      exact absurd hreq (by simp)
    · rw [AList.lookup_erase_ne hid] at hreq
      exact hinv.kept id t' req' hreq
  · rcases List.mem_append.mp hreq with hreq | hreq
    · exact hinv.queued req' hreq
    · have he := List.mem_singleton.mp hreq
      injection he with he
      injection he with he
      exact ⟨m', hm', hwf, hpos, m.paymentRequest, he, hlimit⟩
  · have hle := hinv.count id
    unfold Withdrawals.paidCount Withdrawals.queuedCount Withdrawals.openCount
      Withdrawals.createdCount at hle ⊢
    rw [List.filterMap_append, List.count_append, htaken]
    by_cases hid : id = m.reqId
    · subst hid
      have hone : (List.filterMap queuedPayment [.api (.paymentRequest
          { m'.paymentRequest with paymentRequest := some m.paymentRequest })]).count m.reqId =
            1 := by
        simp [queuedPayment, CreateLnurlWithdrawalRequest.paymentRequest, hid']
      rw [hfound, if_pos (by simp)] at hle
      rw [AList.lookup_erase, if_neg (by simp), hone]
      omega
    · have hzero : (List.filterMap queuedPayment [.api (.paymentRequest
          { m'.paymentRequest with paymentRequest := some m.paymentRequest })]).count id = 0 := by
        simp [queuedPayment, CreateLnurlWithdrawalRequest.paymentRequest, hid', Ne.symm hid]
      rw [AList.lookup_erase_ne hid, hzero]
      omega

/-- A payment is taken from the queue. -/
theorem WithdrawalsInv.pay {w : Withdrawals} {rest : List Message} {req : PaymentRequest}
    (hinv : WithdrawalsInv cfg w) (hhead : w.queue = .api (.paymentRequest req) :: rest)
    (hstep : Delivers cfg w.bank ⟨env, .api (.paymentRequest req)⟩ s')
    (hsame : s'.lnurlWithdrawalRequests = w.bank.lnurlWithdrawalRequests)
    (hnone : ∀ m ∈ loopbacks s', queuedPayment m = none) :
    WithdrawalsInv cfg
      { w with
        bank := s', queue := rest ++ loopbacks s'
        payments := w.payments ++ [⟨env, req, balanceChange w.bank s'⟩] } := by
  refine ⟨fun id t req' hreq => ?_, fun req' hreq => ?_, fun p hp => ?_, fun id => ?_⟩
  · rw [hsame] at hreq
    exact hinv.kept id t req' hreq
  · rcases List.mem_append.mp hreq with hreq | hreq
    · exact hinv.queued req' (by rw [hhead]; exact List.mem_cons_of_mem _ hreq)
    · exact absurd hreq (not_mem_of_queuedPayment hnone req')
  · rcases List.mem_append.mp hp with hp | hp
    · exact hinv.paid p hp
    · rw [List.mem_singleton.mp hp]
      obtain ⟨m, hm, hw⟩ := hinv.queued req (by rw [hhead]; simp)
      exact ⟨m, hm, hw.reqId.symm, hw.authorised hstep⟩
  · have hle := hinv.count id
    unfold Withdrawals.paidCount Withdrawals.queuedCount Withdrawals.openCount
      Withdrawals.createdCount at hle ⊢
    rw [hhead] at hle
    dsimp only
    rw [List.map_append, List.count_append, List.filterMap_append,
      filterMap_queuedPayment hnone, List.append_nil, hsame]
    have hmove : (List.filterMap queuedPayment (.api (.paymentRequest req) :: rest)).count id
        = (List.map (·.request.reqId)
            [(⟨env, req, balanceChange w.bank s'⟩ : LoopedPayment)]).count id
          + (rest.filterMap queuedPayment).count id := by
      show List.count id (req.reqId :: rest.filterMap queuedPayment) = List.count id [req.reqId] + _
      rw [List.count_cons, List.count_singleton]
      omega
    rw [hmove] at hle
    omega

theorem WithdrawalStep.inv {w w' : Withdrawals} {d : Delivery} (hinv : WithdrawalsInv cfg w)
    (hguard : WithdrawalGuard cfg w.bank d) (h : WithdrawalStep cfg w d w') :
    WithdrawalsInv cfg w' := by
  cases h with
  | create step accepted =>
    cases step.outcome.withdrawals rfl with
    | kept same _ => exact absurd same accepted
    | created _ positive _ kept none => exact hinv.create hguard positive kept none
  | outside step notCreated =>
    have hout := step.outcome.withdrawals rfl
    obtain ⟨env, msg⟩ := d
    cases hout with
    | kept same none => exact hinv.keep same none (fun _ h => h) rfl
    | created m _ _ _ none =>
      have hsame := notCreated m rfl
      refine hinv.keep hsame (fun m hm => ?_) (fun _ h => h) rfl
      rw [none] at hm
      exact absurd hm (by simp)
    | paid m t req found taken queued =>
      exact hinv.present (hguard t req found) found taken queued
  | payment head step =>
    cases step.outcome.withdrawals rfl with
    | kept same none => exact hinv.pay head step same none
  | swap head step =>
    cases step.outcome.withdrawals rfl with
    | kept same none =>
      refine hinv.keep same none (fun m hm => by rw [head]; exact List.mem_cons_of_mem _ hm) ?_
      rw [head, List.filterMap_cons_none rfl]

/-- In every run of a bank that starts without withdrawals and is presented
invoices within the limits, no request id has more payments than withdrawals
were accepted under it, and none of them takes more for its invoice than was
authorised. -/
theorem withdrawals_authorised_of_run {w : Withdrawals} {ds : List Delivery}
    (hs : s.lnurlWithdrawalRequests = ∅)
    (hrun : Trace (fun w d w' => WithdrawalGuard cfg w.bank d ∧ WithdrawalStep cfg w d w')
      ⟨s, [], [], []⟩ ds w) :
    (∀ id, w.paidCount id ≤ w.createdCount id) ∧
      ∀ p ∈ w.payments, ∃ m ∈ w.created, m.reqId = p.request.reqId ∧ Authorised cfg m p := by
  have hinv := hrun.invariant (I := WithdrawalsInv cfg)
    (fun w₁ d w₂ _ hinv hstep => hstep.2.inv hinv hstep.1)
    ⟨by simp [hs], by simp, by simp, by
      simp [Withdrawals.paidCount, Withdrawals.queuedCount, Withdrawals.openCount,
        Withdrawals.createdCount, hs]⟩
  refine ⟨fun id => ?_, hinv.paid⟩
  have hle := hinv.count id
  omega

namespace Sample

/-- Alice authorises a withdrawal. -/
def withdrawal (sats : Nat) : CreateLnurlWithdrawalRequest where
  uid := 7
  reqId := 5
  amount := Money.fromSats sats
  currency := .BTC
  rate := none
  fees := none

theorem withdrawal_wellFormed (sats : Nat) : (withdrawal sats).WellFormed :=
  ⟨rfl, Decimal.roundDp_hasDp _ _ _, fun _ => rfl, fun _ h => absurd h (by simp [withdrawal])⟩

def create (sats : Nat) : Message := .api (.createLnurlWithdrawalRequest (withdrawal sats))

/-- The shop presents its invoice over 500 sats. -/
def present : Message := .api (.payLnurlWithdrawalRequest ⟨5, "lnbc-shop"⟩)

/-- The payment that is put on the queue then. -/
def looped (sats : Nat) : PaymentRequest :=
  { (withdrawal sats).paymentRequest with paymentRequest := some "lnbc-shop" }

/-- Alice is paid, authorises, the shop presents its invoice and is paid. -/
def withdrawalRun (sats : Nat) : List Delivery :=
  [⟨Sample.env 1, deposit⟩, ⟨Sample.env 2, create sats⟩, ⟨Sample.env 3, present⟩,
    ⟨Sample.env 4, .api (.paymentRequest (looped sats))⟩]

/-- The table and the queue after the withdrawal was made and after the invoice
was presented. -/
theorem present_queues {sats : Nat} {s₁ s₂ s₃ : State}
    (h₂ : Delivers config s₁ ⟨Sample.env 2, create sats⟩ s₂)
    (h₃ : Delivers config s₂ ⟨Sample.env 3, present⟩ s₃)
    (hne : s₂.lnurlWithdrawalRequests ≠ s₁.lnurlWithdrawalRequests)
    (htaken : (s₃.lnurlWithdrawalRequests.lookup 5).isSome = false) :
    s₂.lnurlWithdrawalRequests.lookup 5 = some (2, (withdrawal sats).paymentRequest) ∧
      loopbacks s₂ = [] ∧ loopbacks s₃ = [.api (.paymentRequest (looped sats))] := by
  cases h₂.outcome.withdrawals rfl with
  | kept same _ => exact absurd same hne
  | created _ _ _ kept none =>
    have hfound : s₂.lnurlWithdrawalRequests.lookup 5
        = some (2, (withdrawal sats).paymentRequest) := by
      rw [kept]
      exact AList.lookup_insert _
    refine ⟨hfound, none, ?_⟩
    cases h₃.outcome.withdrawals rfl with
    | kept same _ =>
      rw [same] at htaken
      have hfound' : ({ s₂ with sent := [] } : State).lnurlWithdrawalRequests.lookup 5 = _ := hfound
      rw [hfound'] at htaken
      exact absurd htaken (by simp)
    | paid _ t req found taken queued =>
      have hreq := Option.some.inj (hfound.symm.trans found)
      rw [queued, ← (Prod.mk.inj hreq).2]
      rfl

/-- The run, with what it does to Alice's account. -/
theorem exists_withdrawalRun (sats : Nat)
    (h : (deliver config ⟨Sample.env 1, deposit⟩ state).toOption.any (fun s₁ => decide (
      (loopbacks s₁).length = 0 ∧
      (deliver config ⟨Sample.env 2, create sats⟩ s₁).toOption.any (fun s₂ => decide (
        (s₂.lnurlWithdrawalRequests.lookup 5).isSome ≠
          (s₁.lnurlWithdrawalRequests.lookup 5).isSome ∧
        (deliver config ⟨Sample.env 3, present⟩ s₂).toOption.any (fun s₃ => decide (
          (s₃.lnurlWithdrawalRequests.lookup 5).isSome = false ∧
          (deliver config ⟨Sample.env 4, .api (.paymentRequest (looped sats))⟩ s₃).toOption.any
            (fun s₄ => decide (balanceChange s₃ s₄ (.user 7, 1) = -505 / 100000000)) = true))
          = true)) = true)) = true) :
    ∃ s₁ s₂ s₃ s₄, Delivers config state ⟨Sample.env 1, deposit⟩ s₁ ∧
      Delivers config s₁ ⟨Sample.env 2, create sats⟩ s₂ ∧
      Delivers config s₂ ⟨Sample.env 3, present⟩ s₃ ∧
      Delivers config s₃ ⟨Sample.env 4, .api (.paymentRequest (looped sats))⟩ s₄ ∧
      s₂.lnurlWithdrawalRequests ≠ s₁.lnurlWithdrawalRequests ∧
      s₂.lnurlWithdrawalRequests.lookup 5 = some (2, (withdrawal sats).paymentRequest) ∧
      loopbacks s₁ = [] ∧ loopbacks s₂ = [] ∧
      loopbacks s₃ = [.api (.paymentRequest (looped sats))] ∧
      balanceChange s₃ s₄ (.user 7, 1) = -505 / 100000000 := by
  obtain ⟨s₁, h₁, hnil, h⟩ := exists_delivers _ _ _ _ h
  obtain ⟨s₂, h₂, hkept, h⟩ := exists_delivers _ _ _ _ h
  obtain ⟨s₃, h₃, htaken, h⟩ := exists_delivers _ _ _ _ h
  obtain ⟨s₄, h₄, hchange⟩ := exists_delivers _ _ _ _ h
  have hne : s₂.lnurlWithdrawalRequests ≠ s₁.lnurlWithdrawalRequests := fun e =>
    hkept (by rw [e])
  obtain ⟨hfound, hnil', hqueued⟩ := present_queues h₂ h₃ hne htaken
  exact ⟨s₁, s₂, s₃, s₄, h₁, h₂, h₃, h₄, hne, hfound, List.length_eq_zero_iff.mp hnil, hnil',
    hqueued, hchange⟩

theorem presentGuard {sats : Nat} {s : State} (hlimit : 500 ≤ sats)
    (hmax : maxWithdrawable (withdrawal sats).paymentRequest = .ok (some sats))
    (hfound : s.lnurlWithdrawalRequests.lookup 5 = some (2, (withdrawal sats).paymentRequest)) :
    WithdrawalGuard config s ⟨Sample.env 3, present⟩ := by
  intro t req hreq decoded millisats hdec hmil
  have hreq := Option.some.inj (hfound.symm.trans hreq)
  rw [← (Prod.mk.inj hreq).2]
  obtain rfl : (⟨some 500000, "shop", 3600⟩ : Bolt11) = decoded := Option.some.inj hdec
  obtain rfl : (500000 : UInt64) = millisats := Option.some.inj hmil
  exact ⟨sats, hmax, hlimit⟩

end Sample

/-- A withdrawal of 600 sats pays an invoice over 500. -/
theorem withdrawals_authorised_sample : ∃ w : Withdrawals,
    Trace (fun w d w' => WithdrawalGuard Sample.config w.bank d ∧
      WithdrawalStep Sample.config w d w') ⟨Sample.state, [], [], []⟩ (Sample.withdrawalRun 600) w ∧
    w.payments.length = 1 ∧ (∀ id, w.paidCount id ≤ w.createdCount id) ∧
    ∀ p ∈ w.payments, ∃ m ∈ w.created, m.reqId = p.request.reqId ∧
      Authorised Sample.config m p := by
  obtain ⟨s₁, s₂, s₃, s₄, h₁, h₂, h₃, h₄, hne, hfound, hnil₁, hnil₂, hqueued, -⟩ :=
    Sample.exists_withdrawalRun 600 (by decide +kernel)
  have hstep₁ : WithdrawalStep Sample.config ⟨Sample.state, [], [], []⟩ _ ⟨s₁, _, _, _⟩ :=
    .outside h₁ (by simp [Sample.deposit])
  have hstep₂ : WithdrawalStep Sample.config ⟨s₁, [] ++ loopbacks s₁, [], []⟩ _ ⟨s₂, _, _, _⟩ :=
    .create h₂ hne
  have hstep₃ (q l) : WithdrawalStep Sample.config ⟨s₂, q, l, []⟩ _ ⟨s₃, _, _, _⟩ :=
    .outside h₃ (by simp [Sample.present])
  have hstep₄ (l) : WithdrawalStep Sample.config
      ⟨s₃, [] ++ loopbacks s₁ ++ loopbacks s₂ ++ loopbacks s₃, l, []⟩ _ ⟨s₄, _, _, _⟩ :=
    .payment (by rw [hnil₁, hnil₂, hqueued]; rfl) h₄
  have hrun : Trace (fun w d w' => WithdrawalGuard Sample.config w.bank d ∧
      WithdrawalStep Sample.config w d w') ⟨Sample.state, [], [], []⟩
        (Sample.withdrawalRun 600) _ :=
    ((((Trace.nil _).snoc ⟨trivial, hstep₁⟩).snoc ⟨Sample.withdrawal_wellFormed 600, hstep₂⟩).snoc
      ⟨Sample.presentGuard (by decide) (by decide +kernel) hfound, hstep₃ _ _⟩).snoc
      ⟨trivial, hstep₄ _⟩
  exact ⟨_, hrun, rfl, withdrawals_authorised_of_run rfl hrun⟩

/-- A withdrawal of 100 sats pays the invoice over 500 just as well. -/
theorem withdrawal_exceeds_authorised : ∃ w : Withdrawals,
    Trace (WithdrawalStep Sample.config) ⟨Sample.state, [], [], []⟩ (Sample.withdrawalRun 100) w ∧
    w.created = [Sample.withdrawal 100] ∧
    ∃ p ∈ w.payments, p.request.reqId = 5 ∧ p.change (.user 7, 1) = -505 / 100000000 ∧
      PaysInvoice Sample.config p 500 (Money.fromSats 500) ∧
      (Sample.withdrawal 100).amount.value < (Money.fromSats 500).value := by
  obtain ⟨s₁, s₂, s₃, s₄, h₁, h₂, h₃, h₄, hne, hfound, hnil₁, hnil₂, hqueued, hchange⟩ :=
    Sample.exists_withdrawalRun 100 (by decide +kernel)
  have hstep₁ : WithdrawalStep Sample.config ⟨Sample.state, [], [], []⟩ _ ⟨s₁, _, _, _⟩ :=
    .outside h₁ (by simp [Sample.deposit])
  have hstep₂ : WithdrawalStep Sample.config ⟨s₁, [] ++ loopbacks s₁, [], []⟩ _ ⟨s₂, _, _, _⟩ :=
    .create h₂ hne
  have hstep₃ (q l) : WithdrawalStep Sample.config ⟨s₂, q, l, []⟩ _ ⟨s₃, _, _, _⟩ :=
    .outside h₃ (by simp [Sample.present])
  have hstep₄ (l) : WithdrawalStep Sample.config
      ⟨s₃, [] ++ loopbacks s₁ ++ loopbacks s₂ ++ loopbacks s₃, l, []⟩ _ ⟨s₄, _, _, _⟩ :=
    .payment (by rw [hnil₁, hnil₂, hqueued]; rfl) h₄
  have hrun : Trace (WithdrawalStep Sample.config) ⟨Sample.state, [], [], []⟩
      (Sample.withdrawalRun 100) _ :=
    ((((Trace.nil _).snoc hstep₁).snoc hstep₂).snoc (hstep₃ _ _)).snoc (hstep₄ _)
  refine ⟨_, hrun, rfl, _, List.mem_singleton.mpr rfl, rfl, hchange, ?_, by decide +kernel⟩
  have hout : PaymentOutcome Sample.config (Sample.env 4) (Sample.looped 100)
      { s₃ with sent := [] } s₄ := h₄.ensures (paymentRequest_spec _)
  rcases hout.paysInvoice rfl with hzero | ⟨sats, amount, hpays⟩
  · have hzero : balanceChange s₃ s₄ (.user 7, 1) = 0 := congrFun hzero _
    rw [hchange] at hzero
    exact absurd hzero (by norm_num)
  · obtain ⟨pr, decoded, millisats, rate, -, -, hpr, hdec, hmil, hsats, hrate, hex, -⟩ := hpays.paid
    obtain rfl : "lnbc-shop" = pr := Option.some.inj hpr
    obtain rfl : (⟨some 500000, "shop", 3600⟩ : Bolt11) = decoded := Option.some.inj hdec
    obtain rfl : (500000 : UInt64) = millisats := Option.some.inj hmil
    have hsats : sats = 500 := hsats
    obtain rfl : Rate.new .BTC .BTC 1 = rate := Option.some.inj hrate
    have hamount := exchange_unit rfl (Decimal.roundDp_hasDp _ _ _) hex
    rw [hsats] at hpays hamount
    rw [hamount] at hpays
    exact hpays

end Lndhubx
