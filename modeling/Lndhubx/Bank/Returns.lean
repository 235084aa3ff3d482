import Lndhubx.Bank.Outcome

/-!
# Handlers that return

`Spec` and its companions say what a handler has done when it returns; here is
when it returns at all. A handler panics where it unwraps what is not there,
where a decimal leaves its range, and where the node cannot be reached.

Numbers leave the range in one kind of place: where an amount is added to the
balance of an account. `HasRoom` says that the accounts of a holder in a currency
can take an amount; opening accounts does not change it.
-/

namespace Lndhubx

open Prog BankEngine

variable {cfg : Config} {env : Env} {s : State}

/-! ## Room on the accounts -/

/-- The accounts of a holder in a currency can take an amount. -/
def Ledger.HasRoom (L : Ledger) (o : Owner) (c : Currency) (v : Decimal) : Prop :=
  v ≤ Decimal.MAX ∧
    ∀ id a, L.get (o, id) = some a → a.currency = c → |a.balance| + v ≤ Decimal.MAX

/-- An account opened on the way is empty. -/
theorem Ledger.HasRoom.opened {L L' : Ledger} {o : Owner} {c : Currency} {v : Decimal}
    (h : L.HasRoom o c v) (hm : Moves L [] L') : L'.HasRoom o c v := by
  refine ⟨h.1, fun id a ha hc => ?_⟩
  cases hr : L.get (o, id) with
  | some b =>
    have hb := hm.keeps hr
    rw [ha] at hb
    obtain rfl := Option.some.inj hb
    exact h.2 id a hr hc
  | none =>
    have hzero : a.balance = 0 := hm.get_none hr ha
    rw [hzero, abs_zero, zero_add]
    exact h.1

/-- Room for an amount is room for a smaller one. -/
theorem Ledger.HasRoom.mono {L : Ledger} {o : Owner} {c : Currency} {v w : Decimal}
    (h : L.HasRoom o c w) (hle : v ≤ w) : L.HasRoom o c v :=
  ⟨hle.trans h.1, fun id a ha hc => (add_le_add_right hle _).trans (h.2 id a ha hc)⟩

/-- Taking what an account covers, or putting what there is room for. -/
theorem abs_sub_le_of_covered {b v : Decimal} (hb : |b| ≤ Decimal.MAX) (hv : 0 < v)
    (hcov : v ≤ b) : |b - v| ≤ Decimal.MAX := by
  have hle : b ≤ Decimal.MAX := (le_abs_self b).trans hb
  rw [abs_of_nonneg (by linarith)]
  linarith

/-- So the sum is in range. -/
theorem abs_add_le_of_room {b v : Decimal} (h : |b| + v ≤ Decimal.MAX) (hv : 0 < v) :
    |b + v| ≤ Decimal.MAX := by
  refine (abs_add_le b v).trans ?_
  rw [abs_of_pos hv]
  exact h

/-! ## The basic operations -/

/-- A message is sent without a panic. -/
theorem send_returns (msg : Message) (destination : ServiceIdentity) :
    Returns (send msg destination) s := trivial

/-- So is an answer to the API. -/
theorem sendApi_returns (msg : Api) : Returns (sendApi msg) s := trivial

/-- An account is found or opened without one. -/
theorem getDefaultAccount_returns (o : Owner) (currency : Currency) (t : Option AccountType) :
    Returns (getDefaultAccount env o currency t) s := by
  refine Returns.get_bind ?_
  split
  next => exact Returns.modify_bind (.ret _)
  next => exact Returns.modify_bind (Returns.modify_bind (.ret _))

/-- So is the entry it is opened in. -/
theorem getOrOpenAccount_returns (uid : UserId) (currency : Currency) (t : Option AccountType) :
    Returns (getOrOpenAccount env uid currency t) s :=
  Returns.modify_bind (getDefaultAccount_returns _ _ _)

/-- A copy is written back to a user who has an entry. -/
theorem insertIntoLedger_returns {uid : UserId} (a : Account)
    (h : s.ledger.hasUser uid = true) : Returns (insertIntoLedger uid a) s :=
  Returns.get_bind (Returns.ite (fun _ => trivial) fun hno => absurd h hno)

/-- Or to the bank or the dealer. -/
theorem putAccount_returns (o : Owner) (a : Account) : Returns (putAccount o a) s := trivial

/-- A failed update is logged. -/
theorem updateInvoice_returns (i : Invoice) : Returns (updateInvoice env i) s := trivial

/-- So is a row that is not stored. -/
theorem updateAccount_returns (a : Account) (uid : UserId) :
    Returns (updateAccount env a uid) s :=
  Returns.ite (fun _ => .ret _) fun _ => Returns.ite (fun _ => .ret _) fun _ => trivial

/-- A failed transaction is returned to its caller. -/
theorem failTx_returns (outbound inbound : Account) : Returns (failTx outbound inbound) s := trivial

/-- A transaction returns if both balances stay in range. -/
theorem makeTx_returns {leg : Nat} {outbound inbound : Account} {outboundUid inboundUid : UserId}
    {amount : Money}
    (hout : 0 < amount.value → |outbound.balance - amount.value| ≤ Decimal.MAX)
    (hin : 0 < amount.value → |inbound.balance + amount.value| ≤ Decimal.MAX) :
    Returns (makeTx env leg outbound outboundUid inbound inboundUid amount) s := by
  unfold makeTx
  refine Returns.ite (fun _ => failTx_returns _ _) fun hpos => ?_
  have hpos : 0 < amount.value := not_le.mp hpos
  refine Returns.ite (fun _ => failTx_returns _ _) fun _ =>
    Returns.ite (fun _ => failTx_returns _ _) fun _ => ?_
  refine Returns.lift_bind (Decimal.sub_eq_ok.mpr ⟨hout hpos, rfl⟩) ?_
  refine Returns.lift_bind (Decimal.add_eq_ok.mpr ⟨hin hpos, rfl⟩) (Returns.get_bind ?_)
  dsimp only
  split
  next => exact Returns.set_bind (.ret _)
  next => exact Returns.set_bind (failTx_returns _ _)

/-- An amount of bitcoin is told in satoshis if the product is in range. -/
theorem trySats_returns {m : Money} (hcur : m.currency = .BTC)
    (h : |m.value * SATS_IN_BITCOIN| ≤ Decimal.MAX) :
    m.trySats = .ok (.ok (m.value * SATS_IN_BITCOIN)) := by
  unfold Money.trySats
  rw [if_pos hcur, Decimal.mul_eq_ok.mpr ⟨h, rfl⟩]
  rfl

/-- One is a rate of no decimals. -/
theorem rate_one (base quote : Currency) : (Rate.new base quote 1).value = 1 :=
  Decimal.roundDp_eq_self ⟨10 ^ 12, by norm_num [RATE_DP]⟩

/-- At the rate one nothing gets too large. -/
theorem exchange_one {m : Money} {base quote : Currency} (hc : m.currency = base)
    (h : |m.value| ≤ Decimal.MAX) :
    ∃ d, m.exchange (Rate.new base quote 1) = .ok (.ok d) := by
  have hmul : Decimal.mul m.value (Rate.new base quote 1).value = .ok m.value := by
    rw [rate_one, Decimal.mul_eq_ok, mul_one]
    exact ⟨h, rfl⟩
  unfold Money.exchange
  rw [if_pos (by rw [hc]; rfl), hmul]
  exact ⟨_, rfl⟩

/-- A summary returns if the amount is of its account, and can be exchanged. -/
theorem makeSummaryTx_returns {x : SummaryTx}
    (hcur : x.amount.currency = x.outboundAccount.currency)
    (hrate : ∃ d, x.amount.exchange
      (x.rate.getD (Rate.new x.outboundAccount.currency x.inboundAccount.currency 1)) =
      .ok (.ok d)) :
    Returns (makeSummaryTx env x) s := by
  obtain ⟨d, hd⟩ := hrate
  unfold makeSummaryTx
  refine Returns.ite (fun _ => .ret _) fun _ => ?_
  refine Returns.ite (fun hne => absurd hcur hne) fun _ => ?_
  refine Returns.ite (fun _ => .ret _) fun _ => ?_
  dsimp only
  refine Returns.lift_bind hd (Returns.lift_bind rfl (Returns.get_bind ?_))
  split
  next => exact Returns.set_bind ((send_returns _ _).bind fun _ _ => .ret _)
  next => exact Returns.set_bind (.ret _)

/-- Without a rate the amount is booked as it is. -/
theorem makeSummaryTx_returns_one {x : SummaryTx} (hrate : x.rate = none)
    (hcur : x.amount.currency = x.outboundAccount.currency)
    (hfits : |x.amount.value| ≤ Decimal.MAX) : Returns (makeSummaryTx env x) s := by
  refine makeSummaryTx_returns hcur ?_
  rw [hrate]
  exact exchange_one hcur hfits

/-- A failed lookup finds nothing. -/
theorem findInvoice_returns (call : DbCall) (pr : String) :
    Returns (findInvoice env call pr) s := Returns.get_bind (.ret _)

/-- A failed insert is logged. -/
theorem insertInvoice_returns (i : Invoice) : Returns (insertInvoice env i) s := by
  refine Returns.get_bind ?_
  split
  next => exact Returns.set_bind (.ret _)
  next => exact .ret _

/-- Inside the platform the description hash is computed. -/
theorem publishIfZapNote_returns (i : Invoice) (descriptionHash preimage : Option String)
    (t : Nat) : Returns (publishIfZapNote cfg i descriptionHash preimage t true) s := by
  unfold publishIfZapNote
  refine Returns.ite (fun _ => ?_) fun _ => .ret _
  split
  next =>
    cases descriptionHash with
    | none => exact Returns.lift_bind rfl (send_returns _ _)
    | some hash => exact Returns.lift_bind rfl (send_returns _ _)
  next => exact .ret _

/-! ## Payments -/

/-- A transfer between users that names its amount, in the currency it is paid in. -/
theorem makeInternalTx_returns {req : PaymentRequest} {username : String}
    (hrec : req.recipient = some username)
    (hamount : env.db .internalTxConn = true → ∃ amount, req.amount = some amount ∧
      amount.currency = req.currency ∧ s.ledger.HasRoom (.user req.uid) req.currency 0 ∧
      ∀ u, env.directory.userByUsername username = some u →
        s.ledger.HasRoom (.user (asU64 u.uid)) req.currency amount.value) :
    Returns (makeInternalTx cfg env req) s := by
  unfold makeInternalTx
  refine Returns.ite (fun _ => .ret _) fun hconn => ?_
  obtain ⟨amount, hamount, hcur, hpayer, hroom⟩ := hamount (by simpa using hconn)
  rw [hrec]
  dsimp only
  refine Returns.lift_bind (Checked.unwrap_eq_ok.mpr hamount) ?_
  split
  next recipient hfound =>
    have hfound : env.directory.userByUsername username = some recipient := by
      split at hfound
      · exact hfound
      · exact absurd hfound (by simp)
    have hroom := hroom recipient hfound
    split
    next payer _ =>
      refine Returns.ite (fun _ => .ret _) fun _ => ?_
      refine Returns.get_bind (Returns.ite (fun _ => .ret _) fun _ => ?_)
      refine ((getDefaultAccount_returns _ _ _).ensuring (getDefaultAccount_spec _ _ _)).bind ?_
      intro outbound s₁ hspec
      obtain ⟨h₁, hout, houtc, -⟩ := hspec
      refine ((getOrOpenAccount_returns _ _ _).ensuring (getOrOpenAccount_spec _ _ _)).bind ?_
      intro inbound s₂ hspec
      obtain ⟨h₂, hin, hinc, -⟩ := hspec
      have hb := h₁.opened h₂
      have hout := h₂.keeps hout
      refine Returns.ite (fun _ => (sendApi_returns _).bind fun _ _ => .ret _) fun hcov => ?_
      have hcov : amount.value ≤ outbound.balance := not_lt.mp hcov
      -- opening accounts takes no room from the two that are booked
      have hpay : |outbound.balance| ≤ Decimal.MAX := by
        have := (hpayer.opened hb.moves).2 _ outbound hout houtc
        rwa [add_zero] at this
      have htake := (hroom.opened hb.moves).2 _ inbound hin hinc
      refine ((makeTx_returns (fun hv => abs_sub_le_of_covered hpay hv hcov)
        fun hv => abs_add_le_of_room htake hv).ensuring (makeTx_spec _ _ _ _ _ _)).bind ?_
      intro r s₃ htx
      split
      next outbound' inbound' txid =>
        obtain ⟨hv, -, -, rfl, rfl⟩ := htx.stored txid rfl
        -- the summary exchanges the amount at a rate of one
        have hfits : |amount.value| ≤ Decimal.MAX := by
          rw [abs_of_pos hv]
          exact hroom.1
        refine Completes.bind (Returns.ensuring (makeSummaryTx_returns_one ?_ ?_ ?_)
          (makeSummaryTx_spec _)) ?_
        · rfl
        · exact hcur.trans houtc.symm
        · exact hfits
        intro r s₄ hspec
        obtain ⟨hn, -⟩ := hspec
        split
        next =>
          have hout := hn.keeps (htx.booked.keeps hout)
          have hin := hn.keeps (htx.booked.keeps hin)
          refine ((insertIntoLedger_returns _ (Ledger.hasUser_of_get hin)).ensuring
            (insertIntoLedger_spec _ _)).bind ?_
          intro _ s₅ h₅
          subst h₅
          refine (insertIntoLedger_returns _
            (Ledger.hasUser_put (Ledger.hasUser_of_get hout))).bind fun _ _ => ?_
          refine (updateAccount_returns _ _).bind fun _ _ => ?_
          refine (updateAccount_returns _ _).bind fun _ _ => ?_
          exact (sendApi_returns _).bind fun _ _ => .ret _
        next => exact .ret _
      next => exact .ret _
    next => exact (sendApi_returns _).bind fun _ _ => .ret _
  next => exact (sendApi_returns _).bind fun _ _ => .ret _

/-- The numbers of the node are `i64`. -/
structure Lnd.Int64 (lnd : Lnd) : Prop where
  numSatoshis : ∀ pr r, lnd.decodePayReq pr = some r → |(r.numSatoshis : ℚ)| ≤ 2 ^ 63
  totalFees : ∀ q routes, lnd.queryRoutes q = some routes →
    ∀ r ∈ routes, |(r.totalFees : ℚ)| ≤ 2 ^ 63

/-- More bitcoin than an invoice and its fee can come to. -/
def INVOICE_BOUND : Decimal := 10 ^ 18

/-- An invoice names its amount in 64 bits of millisatoshis. -/
theorem invoice_value_le (millisats : UInt64) :
    |(Money.fromSats (invoiceSats millisats)).value| ≤ 2 * 10 ^ 8 := by
  have hsats : (invoiceSats millisats : ℚ) ≤ 2 ^ 64 / 1000 := by
    have hlt : millisats.toNat < 2 ^ 64 := millisats.toNat_lt
    have hdiv : invoiceSats millisats * 1000 ≤ millisats.toNat := Nat.div_mul_le_self _ _
    have hle : ((invoiceSats millisats * 1000 : ℕ) : ℚ) ≤ ((2 ^ 64 : ℕ) : ℚ) := by
      exact_mod_cast hdiv.trans hlt.le
    rw [le_div_iff₀ (by norm_num)]
    push_cast at hle
    exact hle
  have hpos : (0 : ℚ) ≤ invoiceSats millisats := Nat.cast_nonneg _
  refine (Decimal.abs_roundToZero_le _ _).trans ?_
  rw [abs_of_nonneg (div_nonneg hpos (by norm_num [SATS_IN_BITCOIN]))]
  unfold SATS_IN_BITCOIN
  rw [div_le_iff₀ (by norm_num)]
  linarith

/-- A probe answers whatever the node says. -/
theorem probe_returns (hint : env.lnd.Int64) (pr : String) {margin : Decimal}
    (hmargin : |margin| ≤ 10 ^ 9) :
    ∃ r, LndConnector.probe env.lnd pr margin = .ok r ∧
      ∀ routes, r = .ok routes → ∀ x ∈ routes, |(x.totalFees : ℚ)| ≤ 2 ^ 63 := by
  unfold LndConnector.probe
  cases hdec : env.lnd.decodePayReq pr with
  | none => exact ⟨_, rfl, fun routes h => absurd h (by simp)⟩
  | some r =>
    have hmul : Decimal.mul r.numSatoshis margin = .ok (r.numSatoshis * margin) := by
      refine Decimal.mul_eq_ok.mpr ⟨?_, rfl⟩
      rw [abs_mul]
      calc |(r.numSatoshis : ℚ)| * |margin| ≤ 2 ^ 63 * 10 ^ 9 :=
            mul_le_mul (hint.numSatoshis pr r hdec) hmargin (abs_nonneg _) (by norm_num)
        _ ≤ Decimal.MAX := by norm_num [Decimal.MAX]
    dsimp only
    rw [hmul]
    simp only [bind, Except.bind]
    split
    next routes hroutes =>
      refine ⟨_, rfl, fun routes' h x hx => ?_⟩
      injection h with h
      rw [← h] at hx
      exact hint.totalFees _ _ hroutes x hx
    next => exact ⟨_, rfl, fun routes h => absurd h (by simp)⟩

/-- A fee is estimated when the node can be reached, and it is bounded. -/
theorem estimateFee_returns (hconn : env.lnd.connects = true) (hint : env.lnd.Int64)
    (hmargin : |cfg.lnNetworkFeeMargin| ≤ 10 ^ 9) (pr : String) {amount : Money}
    (hamount : |amount.value| ≤ 2 * 10 ^ 8) :
    ∃ fee, estimateFee cfg env pr amount = .ok fee ∧ |fee| ≤ 3 * 10 ^ 17 := by
  have hfee : |amount.value * cfg.lnNetworkFeeMargin| ≤ 2 * 10 ^ 17 := by
    rw [abs_mul]
    calc |amount.value| * |cfg.lnNetworkFeeMargin| ≤ 2 * 10 ^ 8 * 10 ^ 9 :=
          mul_le_mul hamount hmargin (abs_nonneg _) (by norm_num)
      _ = 2 * 10 ^ 17 := by norm_num
  have hmul : Decimal.mul amount.value cfg.lnNetworkFeeMargin
      = .ok (amount.value * cfg.lnNetworkFeeMargin) :=
    Decimal.mul_eq_ok.mpr ⟨hfee.trans (by norm_num [Decimal.MAX]), rfl⟩
  obtain ⟨routes, hprobe, hroutes⟩ := probe_returns hint pr hmargin
  have hnone : |(amount.value * cfg.lnNetworkFeeMargin).roundDpWithStrategy SATS_DECIMALS
      .awayFromZero| ≤ 3 * 10 ^ 17 := by
    refine (Decimal.abs_roundAway_le _ _).trans ?_
    linarith
  unfold estimateFee LndConnector.new
  rw [hmul, if_pos hconn]
  simp only [bind, Except.bind, hprobe]
  split
  next _ best rest =>
    have hbest := hroutes _ rfl best (by simp)
    have hadd : |(best.totalFees : ℚ) + 1| ≤ 2 ^ 63 + 1 := by
      refine (abs_add_le _ _).trans ?_
      rw [abs_one]
      linarith
    have hsum : Decimal.add best.totalFees 1 = .ok ((best.totalFees : ℚ) + 1) :=
      Decimal.add_eq_ok.mpr ⟨hadd.trans (by norm_num [Decimal.MAX]), rfl⟩
    have hquot : |((best.totalFees : ℚ) + 1) / SATS_IN_BITCOIN| ≤ 10 ^ 17 := by
      rw [abs_div, div_le_iff₀ (by norm_num [SATS_IN_BITCOIN])]
      refine hadd.trans ?_
      norm_num [SATS_IN_BITCOIN]
    rw [hsum]
    refine ⟨_, Decimal.div_returns (by norm_num [SATS_IN_BITCOIN])
      (hquot.trans (by norm_num [Decimal.MAX])), ?_⟩
    have hlarge : max 1 |((best.totalFees : ℚ) + 1) / SATS_IN_BITCOIN| ≤ 10 ^ 17 :=
      max_le (by norm_num) hquot
    refine (Decimal.abs_fit_le _).trans ?_
    linarith
  next => exact ⟨_, rfl, hnone⟩

/-- The price of a payment in bitcoin. -/
theorem priceOutgoing_returns (hconn : env.lnd.connects = true) (hint : env.lnd.Int64)
    (hmargin : |cfg.lnNetworkFeeMargin| ≤ 10 ^ 9) (pr : String) {amount : Money}
    (hamount : |amount.value| ≤ 2 * 10 ^ 8) :
    ∃ fee total debit,
      priceOutgoing cfg env pr amount (Rate.new .BTC .BTC 1) = .ok (fee, total, debit) ∧
        fee.currency = .BTC ∧ |fee.value| ≤ 3 * 10 ^ 17 ∧ total.currency = .BTC ∧
        |total.value| ≤ INVOICE_BOUND ∧ debit = total := by
  obtain ⟨fee, hfee, hbound⟩ := estimateFee_returns hconn hint hmargin pr hamount
  have hround : |(Money.fromBtc fee).value| ≤ 3 * 10 ^ 17 :=
    (Decimal.abs_roundToZero_le _ _).trans hbound
  have hsum : |amount.value + (Money.fromBtc fee).value| ≤ INVOICE_BOUND := by
    refine (abs_add_le _ _).trans ?_
    unfold INVOICE_BOUND
    linarith
  have hadd : Decimal.add amount.value (Money.fromBtc fee).value
      = .ok (amount.value + (Money.fromBtc fee).value) :=
    Decimal.add_eq_ok.mpr ⟨hsum.trans (by norm_num [Decimal.MAX, INVOICE_BOUND]), rfl⟩
  have htotal :
      |(Money.fromBtc (amount.value + (Money.fromBtc fee).value)).value| ≤ INVOICE_BOUND :=
    (Decimal.abs_roundToZero_le _ _).trans hsum
  obtain ⟨debit, hdebit⟩ : ∃ d, (Money.fromBtc (amount.value + (Money.fromBtc fee).value)).exchange
      (Rate.new .BTC .BTC 1) = .ok (.ok d) :=
    exchange_one rfl (htotal.trans (by norm_num [Decimal.MAX, INVOICE_BOUND]))
  have heq := exchange_unit rfl (Decimal.roundDp_hasDp _ _ _) hdebit
  refine ⟨Money.fromBtc fee, Money.fromBtc (amount.value + (Money.fromBtc fee).value),
    debit, ?_, rfl,
    hround, rfl, htotal, heq⟩
  unfold priceOutgoing
  rw [hfee]
  simp only [bind, Except.bind]
  rw [hadd]
  simp only [hdebit, Checked.unwrapOk]
  rfl

/-- A debit in bitcoin that is covered. -/
theorem debitBtc_returns {p : Outgoing} {outbound liability : Account}
    (hcov : p.debit.value ≤ outbound.balance) (hdebit : p.debit.value ≤ INVOICE_BOUND)
    (htotal : p.totalInBtc = p.debit) (hcur : p.debit.currency = outbound.currency)
    (hout : s.ledger.get (.user p.msg.uid, outbound.accountId) = some outbound)
    (hpay : |outbound.balance| ≤ Decimal.MAX)
    (hroom : |liability.balance| + INVOICE_BOUND ≤ Decimal.MAX) :
    Returns (debitBtc env p outbound liability) s := by
  have htake : |liability.balance| + p.debit.value ≤ Decimal.MAX := by linarith
  unfold debitBtc
  refine ((makeTx_returns (fun hv => abs_sub_le_of_covered hpay hv hcov)
    fun hv => abs_add_le_of_room htake hv).ensuring (makeTx_spec _ _ _ _ _ _)).bind ?_
  intro r s₁ htx
  split
  next outbound' liability' txid =>
    obtain ⟨hv, -, -, rfl, rfl⟩ := htx.stored txid rfl
    have hout := htx.booked.keeps hout
    refine ((putAccount_returns _ _).ensuring (putAccount_spec _ _)).bind ?_
    intro _ s₂ h₂
    subst h₂
    refine (insertIntoLedger_returns _
      (Ledger.hasUser_put (Ledger.hasUser_of_get hout))).bind fun _ _ => ?_
    refine (updateAccount_returns _ _).bind fun _ _ => ?_
    refine (updateAccount_returns _ _).bind fun _ _ => ?_
    refine Returns.bind (makeSummaryTx_returns_one ?_ ?_ ?_) ?_
    · rfl
    · rw [htotal]
      exact hcur
    · rw [htotal, abs_of_pos hv]
      exact hdebit.trans (by norm_num [Decimal.MAX, INVOICE_BOUND])
    intro r s₅
    split
    next => exact .ret _
    next => exact .ret _
  next => exact (sendApi_returns _).bind fun _ _ => .ret _

/-- A task is started if the estimated fee can be told in satoshis. -/
theorem spawnPayment_returns {p : Outgoing} (hcur : p.estimatedFeeInBtc.currency = .BTC)
    (hfee : |p.estimatedFeeInBtc.value| ≤ 3 * 10 ^ 17) : Returns (spawnPayment p) s := by
  have hmul : |p.estimatedFeeInBtc.value * SATS_IN_BITCOIN| ≤ Decimal.MAX := by
    rw [abs_mul]
    calc |p.estimatedFeeInBtc.value| * |SATS_IN_BITCOIN| ≤ 3 * 10 ^ 17 * 10 ^ 8 :=
          mul_le_mul hfee (by norm_num [SATS_IN_BITCOIN]) (abs_nonneg _) (by norm_num)
      _ ≤ Decimal.MAX := by norm_num [Decimal.MAX]
  have hsats := trySats_returns hcur hmul
  unfold spawnPayment
  exact Returns.lift_bind hsats (Returns.lift_bind rfl trivial)

/-- A payment out of the platform, in bitcoin. -/
theorem payExternally_returns {p : Outgoing} {outbound : Account} (hbtc : p.msg.currency = .BTC)
    (hcov : p.debit.value ≤ outbound.balance) (hdebit : p.debit.value ≤ INVOICE_BOUND)
    (htotal : p.totalInBtc = p.debit) (hcur : p.debit.currency = outbound.currency)
    (hfeec : p.estimatedFeeInBtc.currency = .BTC)
    (hfee : |p.estimatedFeeInBtc.value| ≤ 3 * 10 ^ 17)
    (hout : s.ledger.get (.user p.msg.uid, outbound.accountId) = some outbound)
    (hpay : |outbound.balance| ≤ Decimal.MAX) (hroom : s.ledger.HasRoom .bank .BTC INVOICE_BOUND) :
    Returns (payExternally env p outbound) s := by
  unfold payExternally
  refine ((getDefaultAccount_returns _ _ _).ensuring getLiabilityAccount_spec).bind ?_
  intro liability s₁ hspec
  obtain ⟨h₁, hli, hlic, -⟩ := hspec
  refine Returns.bind (Returns.ite (fun hfiat => absurd hbtc hfiat) fun _ => ?_)
    fun debited s₂ => ?_
  · exact debitBtc_returns hcov hdebit htotal hcur (h₁.keeps hout) hpay
      ((hroom.opened h₁.moves).2 _ liability hli hlic)
  · exact Returns.ite (fun _ => spawnPayment_returns hfeec hfee) fun _ => .ret _

/-- The owner of an invoice is paid as a user is. -/
theorem payOwner_returns {msg : PaymentRequest} {invoice : Invoice} {owner : Int} {amount : Money}
    (hamount : msg.amount = some amount) (hcur : amount.currency = msg.currency)
    (hpayer : s.ledger.HasRoom (.user msg.uid) msg.currency 0)
    (hroom : ∀ user u, env.directory.userById owner = some user →
      env.directory.userByUsername user.username = some u →
      s.ledger.HasRoom (.user (asU64 u.uid)) msg.currency amount.value) :
    Returns (payOwner cfg env msg invoice owner) s := by
  unfold payOwner
  split
  next user huser =>
    have huser : env.directory.userById owner = some user := by
      split at huser
      · exact huser
      · exact absurd huser (by simp)
    refine (makeInternalTx_returns rfl fun _ => ?_).bind ?_
    · exact ⟨amount, hamount, hcur, hpayer, fun u hu => hroom user u huser hu⟩
    · intro r s₁
      split
      next =>
        refine (updateInvoice_returns _).bind fun _ _ => ?_
        exact publishIfZapNote_returns _ _ _ _
      next => exact .ret _
  next => exact (sendApi_returns _).bind fun _ _ => .ret _

/-- The invoice to be paid is looked up or stored. -/
theorem findOrInsertInvoice_returns (msg : PaymentRequest) (pr : String) (decoded : Bolt11)
    (millisats : Nat) : Returns (findOrInsertInvoice env msg pr decoded millisats) s := by
  unfold findOrInsertInvoice
  refine (findInvoice_returns _ _).bind fun found s₁ => ?_
  cases found with
  | some invoice => exact .ret _
  | none => exact (insertInvoice_returns _).bind fun _ _ => .ret _

/-- The invoice is not turned down: it may be paid, and the payer does not own it. -/
structure InvoiceOpen (env : Env) (s : State) (uid : UserId) (pr : String) (decoded : Bolt11) :
    Prop where
  payable : Payable env s pr decoded
  foreign : ∀ i, env.db .invoiceGet = true → s.db.invoiceByPaymentRequest pr = some i →
    i.owner.map asU64 ≠ some uid

/-- The node can be reached, and the accounts of a payment by invoice have room. -/
structure InvoiceFits (env : Env) (s : State) (uid : UserId) (pr : String) : Prop where
  connects : env.lnd.connects = true
  payer : s.ledger.HasRoom (.user uid) .BTC 0
  liability : (∀ i, env.db .invoiceGet = true → s.db.invoiceByPaymentRequest pr = some i →
    i.owner = none) → s.ledger.HasRoom .bank .BTC INVOICE_BOUND
  owner : ∀ i owner user u, s.db.invoiceByPaymentRequest pr = some i → i.owner = some owner →
    env.directory.userById owner = some user →
    env.directory.userByUsername user.username = some u →
    s.ledger.HasRoom (.user (asU64 u.uid)) .BTC INVOICE_BOUND

/-- A payment of a bitcoin account by its invoice. -/
theorem payPriced_returns {msg : PaymentRequest} {pr : String} {decoded : Bolt11}
    {millisats : UInt64} {outbound : Account} {outboundName inboundName : String}
    (hint : env.lnd.Int64) (hmargin : |cfg.lnNetworkFeeMargin| ≤ 10 ^ 9)
    (hbtc : msg.currency = .BTC) (hrate : msg.rate = some (Rate.new .BTC .BTC 1))
    (hfits : InvoiceOpen env s msg.uid pr decoded → InvoiceFits env s msg.uid pr)
    (hout : s.ledger.get (.user msg.uid, outbound.accountId) = some outbound)
    (houtc : outbound.currency = .BTC) :
    Returns (payPriced cfg env msg pr decoded millisats outbound outboundName inboundName) s := by
  have hvalue := invoice_value_le millisats
  obtain ⟨amount, hamount⟩ : ∃ d, (Money.fromSats (invoiceSats millisats)).exchange
      (Rate.new .BTC .BTC 1) = .ok (.ok d) :=
    exchange_one rfl (hvalue.trans (by norm_num [Decimal.MAX]))
  have hsame := exchange_unit rfl (Decimal.roundDp_hasDp _ _ _) hamount
  unfold payPriced
  dsimp only
  refine Returns.lift_bind (Checked.unwrap_eq_ok.mpr hrate) (Returns.lift_bind hamount ?_)
  refine Returns.lift_bind rfl ?_
  refine ((findOrInsertInvoice_returns _ _ _ _).ensuring
    (findOrInsertInvoice_spec _ _ _ _)).bind ?_
  intro found s₁ hspec
  obtain ⟨h₁, hledger, -, hfound, -⟩ := hspec
  cases found with
  | none => exact .ret _
  | some invoice =>
    dsimp only
    obtain ⟨hcase, hopen⟩ := hfound invoice rfl
    refine Returns.ite (fun _ => (sendApi_returns _).bind fun _ _ => .ret _) fun hforeign => ?_
    refine Returns.ite (fun _ => (sendApi_returns _).bind fun _ _ => .ret _) fun hsettled => ?_
    -- an invoice that gets this far is priced
    have hstored : ∀ i, env.db .invoiceGet = true → s.db.invoiceByPaymentRequest pr = some i →
        i = invoice := by
      intro i hget hi
      rcases hcase with ⟨-, h⟩ | ⟨hnone, -⟩
      · exact Option.some.inj (hi.symm.trans h)
      · exact absurd (hi.symm.trans (hnone hget)) (by simp)
    have hfits := hfits ⟨hopen.mp (by simpa using hsettled), fun i hget hi => by
      rw [hstored i hget hi]
      exact hforeign⟩
    have hpay : |outbound.balance| ≤ Decimal.MAX := by
      have := hfits.payer.2 _ outbound hout houtc
      rwa [add_zero] at this
    obtain ⟨fee, total, debit, hprice, hfeec, hfee, htotalc, htotal, rfl⟩ :=
      priceOutgoing_returns hfits.connects hint hmargin pr hvalue
    refine Returns.lift_bind hprice ?_
    dsimp only
    refine Returns.ite (fun _ => (sendApi_returns _).bind fun _ _ => .ret _) fun hcov => ?_
    split
    next howner =>
      refine payExternally_returns hbtc (not_lt.mp hcov) ((le_abs_self _).trans htotal) rfl
        (htotalc.trans houtc.symm) hfeec hfee ?_ hpay ?_
      · rw [hledger]
        exact hout
      · rw [hledger]
        refine hfits.liability fun i hget hi => ?_
        rw [hstored i hget hi]
        exact howner
    next owner howner =>
      have hstored : s.db.invoiceByPaymentRequest pr = some invoice := by
        rcases hcase with h | h
        · exact h.2
        · rw [h.2] at howner
          exact absurd howner (by simp)
      have hamountc : amount.currency = msg.currency := by
        rw [hsame, hbtc]
        rfl
      refine payOwner_returns rfl hamountc ?_ fun user u huser hu => ?_
      · rw [hledger, hbtc]
        exact hfits.payer
      · rw [hledger, hbtc]
        refine (hfits.owner invoice owner user u hstored howner huser hu).mono ?_
        rw [hsame]
        refine (le_abs_self _).trans (hvalue.trans ?_)
        norm_num [INVOICE_BOUND]

/-- The request passes the checks that come before its recipient is looked at. -/
structure PaymentReached (cfg : Config) (env : Env) (s : State) (msg : PaymentRequest) : Prop where
  limit : (checkRateLimit cfg.withdrawalRequestRateLimiterSettings env.instant
    s.withdrawalRequestRateLimiter msg.uid).1 = true
  known : s.ledger.hasUser msg.uid = true
  amount : msg.amount.any (·.value ≤ 0) = false
  conn : env.db .conn = true
  payer : env.db .outboundUser = true ∧ (env.directory.userById (asI32 msg.uid)).isSome = true

/-- A transfer to a user of the platform that passes these checks, with a connection to
the database. -/
structure TransferReached (cfg : Config) (env : Env) (s : State) (msg : PaymentRequest)
    (username : String) : Prop extends PaymentReached cfg env s msg where
  routed : routeRecipient cfg env msg = .user username
  internalConn : env.db .internalTxConn = true

/-- The invoice of a request in bitcoin is priced: the request passes the checks, the
invoice can be read and has an amount, and it is not turned down. -/
structure InvoicePriced (cfg : Config) (env : Env) (s : State) (msg : PaymentRequest)
    (pr : String) (decoded : Bolt11) : Prop
    extends PaymentReached cfg env s msg, InvoiceOpen env s msg.uid pr decoded where
  routed : ∃ name, routeRecipient cfg env msg = .invoice name
  bitcoin : msg.currency = .BTC
  request : msg.paymentRequest = some pr
  readable : cfg.parseInvoice pr = some decoded
  priced : decoded.amountMilliSatoshis ≠ none

/-- What a payment request must not run into: a transfer to a user without an amount, a
node that cannot be reached when an invoice is priced, an account without room. -/
structure PaymentSurvives (cfg : Config) (env : Env) (s : State) (msg : PaymentRequest) :
    Prop where
  named : ∀ username, TransferReached cfg env s msg username → msg.amount ≠ none
  payer : ∀ username, TransferReached cfg env s msg username →
    s.ledger.HasRoom (.user msg.uid) msg.currency 0
  recipient : ∀ username u amount, TransferReached cfg env s msg username →
    env.directory.userByUsername username = some u → msg.amount = some amount →
    s.ledger.HasRoom (.user (asU64 u.uid)) msg.currency amount.value
  invoice : ∀ pr decoded, InvoicePriced cfg env s msg pr decoded → InvoiceFits env s msg.uid pr

/-- A payment by invoice; one in fiat that has no rate yet goes to the dealer. -/
theorem payLightning_returns {msg : PaymentRequest} {outbound : Account}
    {outboundName inboundName : String} (hint : env.lnd.Int64)
    (hmargin : |cfg.lnNetworkFeeMargin| ≤ 10 ^ 9) (hrate : msg.rate = none)
    (hfits : ∀ pr decoded, msg.currency = .BTC → msg.paymentRequest = some pr →
      cfg.parseInvoice pr = some decoded → decoded.amountMilliSatoshis ≠ none →
      InvoiceOpen env s msg.uid pr decoded → InvoiceFits env s msg.uid pr)
    (hout : s.ledger.get (.user msg.uid, outbound.accountId) = some outbound)
    (houtc : outbound.currency = msg.currency) :
    Returns (payLightning cfg env msg outbound outboundName inboundName) s := by
  unfold payLightning
  split
  next pr hpr =>
    split
    next decoded hdec =>
      split
      next millisats hmil =>
        dsimp only
        refine Returns.ite (fun _ => (send_returns _ _).bind fun _ _ => .ret _) fun hpriced => ?_
        have hbtc : msg.currency = .BTC := by
          by_contra hne
          refine hpriced ⟨hne, ?_⟩
          show msg.rate.isNone = true
          rw [hrate]
          rfl
        have hfits := hfits pr decoded hbtc hpr hdec (by rw [hmil]; simp)
        rw [if_pos (show (withInvoiceAmount msg _).currency = .BTC from hbtc)]
        exact payPriced_returns hint hmargin hbtc rfl hfits hout (houtc.trans hbtc)
      next => exact (sendApi_returns _).bind fun _ _ => .ret _
    next => exact (sendApi_returns _).bind fun _ _ => .ret _
  next => exact .ret _

/-- Every payment request that meets its conditions. -/
theorem paymentRequest_returns {msg : PaymentRequest} (hint : env.lnd.Int64)
    (hmargin : |cfg.lnNetworkFeeMargin| ≤ 10 ^ 9) (hrate : msg.rate = none)
    (hcur : ∀ amount, msg.amount = some amount → amount.currency = msg.currency)
    (hs : PaymentSurvives cfg env s msg) : Returns (paymentRequest cfg env msg) s := by
  unfold paymentRequest
  refine Completes.bind (Returns.ensuring (p := checkWithdrawalRequestRateLimit cfg env msg.uid)
    trivial (checkWithdrawalRequestRateLimit_spec _)) ?_
  intro admitted s₁ hspec
  obtain ⟨h₁, hledger, hdb, -, hadmitted⟩ := hspec
  refine Returns.ite (fun _ => (sendApi_returns _).bind fun _ _ => .ret _) fun hyes => ?_
  have hlimit : (checkRateLimit cfg.withdrawalRequestRateLimiterSettings env.instant
      s.withdrawalRequestRateLimiter msg.uid).1 = true := by
    rw [← hadmitted]
    simpa using hyes
  refine Returns.get_bind ?_
  refine Returns.ite (fun _ => (sendApi_returns _).bind fun _ _ => .ret _) fun hknown => ?_
  have hknown : s.ledger.hasUser msg.uid = true := by
    rw [← hledger]
    simpa using hknown
  refine ((getDefaultAccount_returns _ _ _).ensuring
    ((getDefaultAccount_spec _ _ _).and (getDefaultAccount_balance _ _ _))).bind ?_
  intro outbound s₂ hspec
  obtain ⟨⟨h₂, hout, houtc, -⟩, -, hdb₂⟩ := hspec
  have hm := (h₁.opened h₂).moves
  refine Returns.ite (fun _ => (sendApi_returns _).bind fun _ _ => .ret _) fun hpositive => ?_
  have hpositive : msg.amount.any (·.value ≤ 0) = false := by simpa using hpositive
  refine Returns.ite (fun _ => (sendApi_returns _).bind fun _ _ => .ret _) fun hconn => ?_
  have hconn : env.db .conn = true := by simpa using hconn
  split
  next payer hpayer =>
    have hpayer : env.db .outboundUser = true ∧
        (env.directory.userById (asI32 msg.uid)).isSome = true := by
      split at hpayer
      next hflag => exact ⟨hflag, by rw [hpayer]; rfl⟩
      next => exact absurd hpayer (by simp)
    have hreached : PaymentReached cfg env s msg := ⟨hlimit, hknown, hpositive, hconn, hpayer⟩
    split
    next username hroute =>
      refine (makeInternalTx_returns rfl fun hinternal => ?_).bind fun _ _ => .ret _
      have htransfer : TransferReached cfg env s msg username := ⟨hreached, hroute, hinternal⟩
      obtain ⟨amount, hamount⟩ := Option.ne_none_iff_exists'.mp (hs.named username htransfer)
      exact ⟨amount, hamount, hcur amount hamount, (hs.payer username htransfer).opened hm,
        fun u hu => (hs.recipient username u amount htransfer hu hamount).opened hm⟩
    next inboundName hroute =>
      refine payLightning_returns hint hmargin hrate
        (fun pr decoded hbtc hpr hdec hmil hopen => ?_) hout houtc
      -- the tables are those of the message
      have hdb' : s₂.db = s.db := hdb₂.trans hdb
      have hopen : InvoiceOpen env s msg.uid pr decoded := by
        obtain ⟨hpayable, hforeign⟩ := hopen
        unfold Payable at hpayable
        rw [hdb'] at hpayable hforeign
        exact ⟨hpayable, hforeign⟩
      have hfits := hs.invoice pr decoded
        ⟨hreached, hopen, ⟨inboundName, hroute⟩, hbtc, hpr, hdec, hmil⟩
      refine ⟨hfits.connects, hfits.payer.opened hm, fun hnone => ?_, ?_⟩
      · rw [hdb'] at hnone
        exact (hfits.liability hnone).opened hm
      · intro i owner user u hi howner huser hu
        rw [hdb'] at hi
        exact (hfits.owner i owner user u hi howner huser hu).opened hm
  next => exact .ret _

/-! ## Invoices -/

/-- An amount of bitcoin that is not negative has its whole satoshis. -/
theorem wholeSats_returns {m : Money} (hcur : m.currency = .BTC) (hpos : 0 ≤ m.value)
    (h : m.value * SATS_IN_BITCOIN < 2 ^ 64) : ∃ n, wholeSats m = .ok n := by
  have hnonneg : 0 ≤ m.value * SATS_IN_BITCOIN := mul_nonneg hpos (by norm_num [SATS_IN_BITCOIN])
  have hsats := trySats_returns hcur (by
    rw [abs_of_nonneg hnonneg]
    exact h.le.trans (by norm_num [Decimal.MAX]))
  have hfloor : ⌊m.value * SATS_IN_BITCOIN⌋ < 2 ^ 64 := by
    rw [Int.floor_lt]
    exact_mod_cast h
  refine ⟨⌊m.value * SATS_IN_BITCOIN⌋.toNat, ?_⟩
  unfold wholeSats
  simp only [hsats, bind, Except.bind, Checked.unwrapOk, Decimal.toU64,
    if_pos (And.intro hnonneg hfloor)]
  rfl

/-- The request passes the checks that come before its amount is converted. -/
structure InvoiceReached (cfg : Config) (env : Env) (s : State) (msg : InvoiceRequest) : Prop where
  limit : (checkRateLimit cfg.depositRequestRateLimiterSettings env.instant
    s.depositRequestRateLimiter msg.uid).1 = true
  deposits : cfg.withdrawalOnly = false
  conn : env.db .conn = true
  account : ∀ id, msg.accountId = some id → s.ledger.get (.user msg.uid, id) ≠ none

/-- An invoice in bitcoin is for less than `2 ^ 64` sats. -/
def InvoiceSurvives (cfg : Config) (env : Env) (s : State) (msg : InvoiceRequest) : Prop :=
  InvoiceReached cfg env s msg → msg.currency = .BTC → msg.amount.value * SATS_IN_BITCOIN < 2 ^ 64

/-- The account a deposit goes to is found or opened. -/
theorem targetAccount_returns (uid : UserId) (accountId : Option Uuid) (currency : Currency) :
    Returns (targetAccount env uid accountId currency) s := by
  refine Returns.get_bind ?_
  split
  next =>
    split
    next => exact .ret _
    next => exact .ret _
  next => exact (getDefaultAccount_returns _ _ _).bind fun _ _ => .ret _

/-- An account that was asked for is handed out only if the user has it. -/
theorem targetAccount_known (uid : UserId) (accountId : Option Uuid) (currency : Currency) :
    Ensures (targetAccount env uid accountId currency) s fun target _ =>
      ∀ a, target = .ok a → ∀ id, accountId = some id → s.ledger.get (.user uid, id) ≠ none := by
  refine Ensures.get_bind ?_
  split
  next id =>
    split
    next a ha =>
      intro _ _ id' hid
      injection hid with hid
      rw [← hid, ha]
      simp
    next => exact fun _ h => absurd h (by simp)
  next =>
    refine (getDefaultAccount_spec _ _ _).bind ?_
    exact fun _ _ _ _ _ _ h => absurd h (by simp)

/-- Every request for an invoice that meets its conditions. -/
theorem invoiceRequest_returns {msg : InvoiceRequest} (hcur : msg.amount.currency = msg.currency)
    (hpos : 0 ≤ msg.amount.value) (hs : InvoiceSurvives cfg env s msg) :
    Returns (invoiceRequest cfg env msg) s := by
  unfold invoiceRequest
  refine Completes.bind (R := fun admitted s' => s'.ledger = s.ledger ∧ admitted =
    (checkRateLimit cfg.depositRequestRateLimiterSettings env.instant
      s.depositRequestRateLimiter msg.uid).1) ⟨rfl, rfl⟩ ?_
  intro admitted s₁ hspec
  obtain ⟨hledger, hadmitted⟩ := hspec
  refine Returns.ite (fun _ => (sendApi_returns _).bind fun _ _ => .ret _) fun hyes => ?_
  have hlimit : (checkRateLimit cfg.depositRequestRateLimiterSettings env.instant
      s.depositRequestRateLimiter msg.uid).1 = true := by
    rw [← hadmitted]
    simpa using hyes
  refine Returns.modify_bind ?_
  refine Returns.ite (fun _ => (sendApi_returns _).bind fun _ _ => .ret _) fun honly => ?_
  refine Returns.ite (fun _ => (sendApi_returns _).bind fun _ _ => .ret _) fun hconn => ?_
  refine ((targetAccount_returns _ _ _).ensuring (targetAccount_known _ _ _)).bind ?_
  intro target s₂ haccount
  cases target with
  | error id => exact sendApi_returns _
  | ok target =>
    have hreached : InvoiceReached cfg env s msg := by
      refine ⟨hlimit, by simpa using honly, by simpa using hconn, fun id hid => ?_⟩
      have hknown := haccount target rfl id hid
      rw [← hledger]
      rwa [Ledger.get_openUser] at hknown
    -- the request with the target's currency differs in a field that is not read
    have hsame : ∀ m : InvoiceRequest, m.currency = msg.currency → m.amount = msg.amount →
        m.currency = .BTC → ∃ n, wholeSats m.amount = .ok n := by
      intro m hmc hma hbtc
      have hbtc' : msg.currency = .BTC := hmc.symm.trans hbtc
      rw [hma]
      exact wholeSats_returns (hcur.trans hbtc') hpos (hs hreached hbtc')
    dsimp only
    generalize hm : (if target.currency ≠ msg.currency then
      { msg with targetAccountCurrency := some target.currency } else msg) = m
    have hmc : m.currency = msg.currency := by
      rw [← hm]
      split <;> rfl
    have hma : m.amount = msg.amount := by
      rw [← hm]
      split <;> rfl
    refine Returns.ite (fun _ => (send_returns _ _).bind fun _ _ => .ret _) fun hbtc => ?_
    obtain ⟨n, hn⟩ := hsame m hmc hma (not_not.mp hbtc)
    refine Returns.lift_bind hn ?_
    split
    next =>
      refine (insertInvoice_returns _).bind fun _ _ => ?_
      exact Returns.ite (fun _ => (sendApi_returns _).bind fun _ _ => .ret _)
        fun _ => sendApi_returns _
    next => exact .ret _

/-! ## LNURL withdrawals and DCA -/

/-- A withdrawal is stored or refused. -/
theorem createLnurlWithdrawal_returns (msg : CreateLnurlWithdrawalRequest) :
    Returns (createLnurlWithdrawal cfg env msg) s := by
  unfold createLnurlWithdrawal
  refine Returns.ite (fun _ => (sendApi_returns _).bind fun _ _ => .ret _) fun _ => ?_
  refine Returns.get_bind ?_
  refine Returns.ite (fun _ => (sendApi_returns _).bind fun _ _ => .ret _) fun _ => ?_
  refine (getDefaultAccount_returns _ _ _).bind fun outbound s₁ => ?_
  refine Returns.ite (fun _ => (send_returns _ _).bind fun _ _ => .ret _) fun _ => ?_
  refine Returns.ite (fun _ => (sendApi_returns _).bind fun _ _ => .ret _) fun _ => ?_
  dsimp only
  split
  next => exact Returns.modify_bind (sendApi_returns _)
  next => exact (sendApi_returns _).bind fun _ _ => .ret _

/-- A stored withdrawal is in bitcoin, or at a rate between its currency and bitcoin. -/
structure Quoted (req : PaymentRequest) : Prop where
  amount : ∀ a, req.amount = some a → a.currency = req.currency
  unpriced : req.rate = none → req.currency = .BTC
  rate : ∀ r, req.rate = some r → r.value ≠ 0 ∧
    (r.base = .BTC ∧ r.quote = req.currency ∨ r.base = req.currency ∧ r.quote = .BTC)

/-- The bitcoin a unit of a currency is worth. -/
def bitcoinPer (c : Currency) : Option Rate → Decimal
  | none => 1
  | some r => if c = r.base then r.value else Rate.inverseValue r.value

/-- What a stored withdrawal is worth, in sats, is a decimal. -/
structure WorthFits (req : PaymentRequest) : Prop where
  inverse : ∀ r, req.rate = some r → |1 / r.value| ≤ Decimal.MAX
  sats : ∀ a, req.amount = some a →
    |a.value * bitcoinPer a.currency req.rate| * SATS_IN_BITCOIN ≤ Decimal.MAX

/-- An amount is exchanged at the rate it is stored with. -/
theorem atRate_returns {req : PaymentRequest} {a : Money} (hq : Quoted req) (hw : WorthFits req)
    (ha : req.amount = some a) : ∃ b, atRate a req.rate = .ok b ∧ b.currency = .BTC ∧
      |b.value| ≤ |a.value * bitcoinPer a.currency req.rate| := by
  have hcur := hq.amount a ha
  have hsats := hw.sats a ha
  have hfits : |a.value * bitcoinPer a.currency req.rate| ≤ Decimal.MAX := by
    refine le_trans ?_ hsats
    exact le_mul_of_one_le_right (abs_nonneg _) (by norm_num [SATS_IN_BITCOIN])
  cases hr : req.rate with
  | none =>
    refine ⟨a, rfl, hcur.trans (hq.unpriced hr), ?_⟩
    simp [bitcoinPer]
  | some r =>
    rw [hr] at hfits
    obtain ⟨hne, hpair⟩ := hq.rate r hr
    have hinv := hw.inverse r hr
    unfold atRate Money.exchange Rate.inverse
    unfold bitcoinPer at hfits ⊢
    dsimp only at hfits ⊢
    by_cases hbase : a.currency = r.base
    · rw [if_pos hbase] at hfits
      have hquote : r.quote = .BTC := by
        rcases hpair with ⟨hb, hqt⟩ | ⟨-, hqt⟩
        · rw [hqt, ← hcur, hbase, hb]
        · exact hqt
      simp only [if_pos hbase, Decimal.mul_eq_ok.mpr ⟨hfits, rfl⟩, bind, Except.bind, pure,
        Except.pure, Checked.unwrapOk]
      exact ⟨_, rfl, hquote, Decimal.abs_roundToZero_le _ _⟩
    · rw [if_neg hbase] at hfits
      obtain ⟨hb, hqt⟩ : r.base = .BTC ∧ r.quote = req.currency := by
        rcases hpair with h | ⟨hb, -⟩
        · exact h
        · exact absurd (hcur.trans hb.symm) hbase
      have hquote : a.currency = r.quote := hcur.trans hqt.symm
      have hdiv : Decimal.div 1 r.value = .ok (Decimal.fit (1 / r.value)) :=
        Decimal.div_returns hne hinv
      have hmul : Decimal.mul a.value (Rate.normalizedValue (Decimal.fit (1 / r.value))) =
          .ok (a.value * Rate.inverseValue r.value) := Decimal.mul_eq_ok.mpr ⟨hfits, rfl⟩
      simp only [if_neg hbase, if_pos hquote, hdiv, bind, Except.bind, pure, Except.pure, hmul,
        Checked.unwrapOk]
      exact ⟨_, rfl, hb, Decimal.abs_roundToZero_le _ _⟩

/-- So what may be withdrawn is a number of satoshis. -/
theorem maxWithdrawable_returns {req : PaymentRequest} (hq : Quoted req) (hw : WorthFits req) :
    ∃ n, maxWithdrawable req = .ok n := by
  unfold maxWithdrawable
  cases ha : req.amount with
  | none => exact ⟨none, rfl⟩
  | some a =>
    obtain ⟨b, hb, hcur, hle⟩ := atRate_returns hq hw ha
    have hsats := trySats_returns hcur (by
      rw [abs_mul, abs_of_pos (show (0 : ℚ) < SATS_IN_BITCOIN by norm_num [SATS_IN_BITCOIN])]
      refine le_trans ?_ (hw.sats a ha)
      exact mul_le_mul_of_nonneg_right hle (by norm_num [SATS_IN_BITCOIN]))
    simp only [hb, hsats, bind, Except.bind, Checked.unwrapOk]
    exact ⟨_, rfl⟩

/-- A withdrawal that is stored is told. -/
theorem getLnurlWithdrawal_returns {msg : GetLnurlWithdrawalRequest}
    (h : ∀ t req, s.lnurlWithdrawalRequests.lookup msg.reqId = some (t, req) →
      Quoted req ∧ WorthFits req) : Returns (getLnurlWithdrawal cfg msg) s := by
  unfold getLnurlWithdrawal
  refine Returns.get_bind ?_
  split
  next => exact sendApi_returns _
  next t req hreq =>
    obtain ⟨hq, hw⟩ := h t req hreq
    obtain ⟨n, hn⟩ := maxWithdrawable_returns hq hw
    refine Returns.lift_bind hn ?_
    split
    next => exact sendApi_returns _
    next => exact sendApi_returns _

/-- It is queued to be paid. -/
theorem payLnurlWithdrawal_returns (msg : PayLnurlWithdrawalRequest) :
    Returns (payLnurlWithdrawal msg) s := by
  unfold payLnurlWithdrawal
  refine Returns.get_bind ?_
  split
  next => exact Returns.set_bind (send_returns _ _)
  next => exact sendApi_returns _

/-- Settings of two currencies, for an amount that is a decimal. -/
theorem dcaRebalance_returns {msg : DcaRebalance}
    (hrows : env.db .conn = true → env.db .dca = true →
      ∀ row ∈ env.directory.dcaByInterval msg.intervalName,
        Currency.fromStr row.fromCurrency ≠ none ∧ Currency.fromStr row.toCurrency ≠ none ∧
          |row.amount| ≤ Decimal.MAX) : Returns (dcaRebalance env msg) s := by
  unfold dcaRebalance
  refine Returns.ite (fun _ => .ret _) fun hconn => Returns.ite (fun _ => .ret _) fun hdca => ?_
  refine Returns.forM fun e he s => ?_
  have hmem : e.1 ∈ env.directory.dcaByInterval msg.intervalName := by
    obtain ⟨i, hi⟩ := List.mem_iff_getElem?.mp he
    rw [List.getElem?_zipIdx] at hi
    cases hrow : (env.directory.dcaByInterval msg.intervalName)[i]? with
    | none =>
      rw [hrow] at hi
      exact absurd hi (by simp)
    | some row =>
      rw [hrow] at hi
      have hrow' : row = e.1 := by simpa using congrArg (Option.map Prod.fst) hi
      rw [← hrow']
      exact List.mem_of_getElem? hrow
  obtain ⟨hfrom, hto, hamount⟩ := hrows (by simpa using hconn) (by simpa using hdca) e.1 hmem
  obtain ⟨c, hc⟩ := Option.ne_none_iff_exists'.mp hfrom
  obtain ⟨c', hc'⟩ := Option.ne_none_iff_exists'.mp hto
  unfold dcaSwap
  refine Returns.lift_bind (Checked.unwrap_eq_ok.mpr hc) ?_
  refine Returns.lift_bind (Checked.unwrap_eq_ok.mpr hc') ?_
  refine Returns.lift_bind (Checked.unwrap_eq_ok.mpr (if_pos hamount)) (send_returns _ _)

end Lndhubx
