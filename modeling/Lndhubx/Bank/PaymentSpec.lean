import Lndhubx.Bank.DepositSpec

/-!
# What the payment handlers book
-/

namespace Lndhubx

open Prog BankEngine

variable {cfg : Config} {env : Env} {s : State}

/-! ## Between two users -/

/-- What a transfer between users does to the books. -/
inductive InternalOutcome (env : Env) (req : PaymentRequest) (s : State) :
    Except PaymentResponseError Unit → State → Prop
  | refused {s' : State} (e : PaymentResponseError) (booked : Booked env s [] s') :
      InternalOutcome env req s (.error e) s'
  /-- The recipient is another user, the amount is positive and covered. -/
  | paid {s' : State} (username : String) (recipient : User) (amount : Money) (u v : AccountId)
      (hrecipient : req.recipient = some username)
      (found : env.directory.userByUsername username = some recipient)
      (other : asU64 recipient.uid ≠ req.uid)
      (hamount : req.amount = some amount)
      (positive : 0 < amount.value)
      (covered : amount.value ≤ s.ledger.balanceAt (.user req.uid, u))
      (posted : Posted s [⟨(.user (asU64 recipient.uid), v), req.currency, amount.value⟩,
        ⟨(.user req.uid, u), req.currency, -amount.value⟩] s') :
      InternalOutcome env req s (.ok ()) s'

theorem makeInternalTx_spec (req : PaymentRequest) :
    Ensures (makeInternalTx cfg env req) s fun r s' => InternalOutcome env req s r s' := by
  unfold makeInternalTx
  refine Ensures.ite (fun _ => .refused _ (.refl env s)) fun _ => ?_
  split
  next username hrec =>
    dsimp only
    refine Ensures.lift_bind fun amount hamount => ?_
    have hamount := Checked.unwrap_eq_ok.mp hamount
    split
    next recipient hfound =>
      split
      next payer _ =>
        refine Ensures.ite (fun _ => .refused _ (.refl env s)) fun hother => ?_
        refine Ensures.get_bind ?_
        refine Ensures.ite (fun _ => .refused _ (.refl env s)) fun _ => ?_
        refine (getDefaultAccount_spec _ _ _).bind ?_
        intro outbound s₁ hspec
        obtain ⟨h₁, hout, houtc, -⟩ := hspec
        refine (getOrOpenAccount_spec _ _ _).bind ?_
        intro inbound s₂ hspec
        obtain ⟨h₂, hin, hinc, -⟩ := hspec
        have hb := h₁.opened h₂
        have hout := h₂.keeps hout
        refine Ensures.ite (fun _ => ?_) fun hcov => ?_
        · refine (sendApi_spec env _).bind ?_
          intro _ s' hspec
          obtain ⟨h, -⟩ := hspec
          exact .refused _ (hb.opened h)
        -- opening accounts has not changed what the account covers
        have hcov : amount.value ≤ s.ledger.balanceAt (.user req.uid, outbound.accountId) := by
          have hbal := hb.moves.balanceAt (.user req.uid, outbound.accountId)
          rw [Posting.sumAt_nil, add_zero] at hbal
          rw [← hbal]
          unfold Ledger.balanceAt
          rw [hout]
          exact not_lt.mp hcov
        refine (makeTx_spec _ _ _ _ _ _).bind ?_
        intro r s₃ htx
        have hb := hb.opened htx.booked
        split
        next outbound' inbound' txid =>
          obtain ⟨hv, -, -, rfl, rfl⟩ := htx.stored txid rfl
          have hout := htx.booked.keeps hout
          have hin := htx.booked.keeps hin
          refine (makeSummaryTx_spec _).bind ?_
          intro r s₄ hspec
          obtain ⟨hn, -, hfail⟩ := hspec
          split
          next =>
            have hout := hn.keeps hout
            have hin := hn.keeps hin
            refine (insertIntoLedger_spec _ _).bind ?_
            intro _ s₅ h₅
            refine (insertIntoLedger_spec _ _).bind ?_
            intro _ s₆ h₆
            subst h₅ h₆
            -- only a stored summary lets both accounts be written back
            have hw := Booked.writeBack (s := s₄) env
              [⟨.user (asU64 recipient.uid), inbound, amount.value⟩,
                ⟨.user req.uid, outbound, -amount.value⟩]
              (by simp [Write.ref, hin, hout]) (by simp [Write.ref, hother])
            simp only [List.map_cons, List.map_nil, Write.booking, Write.ref, hinc, houtc] at hw
            refine (updateAccount_spec _ _).bind ?_
            intro _ s₇ hspec
            obtain ⟨-, h₇⟩ := hspec
            refine (updateAccount_spec _ _).bind ?_
            intro _ s₈ hspec
            obtain ⟨-, h₈⟩ := hspec
            refine (sendApi_spec env _).bind ?_
            intro _ s' hspec
            obtain ⟨-, h'⟩ := hspec
            refine .paid username recipient amount _ _ hrec ?_ hother hamount hv hcov
              ((hb.posted.trans hn.posted).trans (hw.posted.trans ((h₇.trans h₈).trans h').posted))
            split at hfound
            · exact hfound
            · exact absurd hfound (by simp)
          next hno =>
            obtain ⟨issued, rfl⟩ := hfail fun txid e => hno txid e
            exact .refused _ (hb.opened (.of_eq rfl rfl rfl (.of_eq rfl rfl rfl)))
        next => exact .refused _ hb
      next =>
        refine (sendApi_spec env _).bind ?_
        intro _ s' hspec
        obtain ⟨h, -⟩ := hspec
        exact .refused _ h
    next =>
      refine (sendApi_spec env _).bind ?_
      intro _ s' hspec
      obtain ⟨h, -⟩ := hspec
      exact .refused _ h
  next => exact Ensures.panic _

/-! ## The debit of an external payment -/

/-- The accounts an external payment is booked on; the dealer's only for a
payment in fiat. -/
structure HoldAccounts where
  user : AccountId
  bank : AccountId
  dealerFiat : AccountId
  dealerBtc : AccountId

namespace HoldAccounts

/-- The bookings that take `debit` from the user and put `total` bitcoin on the
liability account. With both amounts negated they are those of the refund. -/
def bookings (h : HoldAccounts) (uid : UserId) (currency : Currency) (debit total : Decimal) :
    List Booking :=
  if currency ≠ .BTC then
    [⟨(.user uid, h.user), currency, -debit⟩, ⟨(.bank, h.bank), .BTC, total⟩,
      ⟨(.dealer, h.dealerFiat), currency, debit⟩, ⟨(.dealer, h.dealerBtc), .BTC, -total⟩]
  else [⟨(.bank, h.bank), .BTC, debit⟩, ⟨(.user uid, h.user), .BTC, -debit⟩]

/-- What a debit does to a user's accounts. -/
theorem sumAt_user (h : HoldAccounts) (uid uid' : UserId) (id : AccountId)
    (currency : Currency) (debit total : Decimal) :
    Posting.sumAt (h.bookings uid currency debit total) (.user uid', id)
      = if uid' = uid ∧ id = h.user then -debit else 0 := by
  have href : (((.user uid, h.user) : AccountRef) = (.user uid', id)) ↔
      (uid' = uid ∧ id = h.user) := by
    constructor
    · intro e
      obtain ⟨hu, hi⟩ := Prod.mk.inj e
      injection hu with hu
      exact ⟨hu.symm, hi.symm⟩
    · intro e
      rw [e.1, e.2]
  unfold bookings
  split
  · simp [href]
  · simp [href]

/-- The accounts are there, each of its kind. -/
structure At (h : HoldAccounts) (L : Ledger) (uid : UserId) (currency : Currency) : Prop where
  user : L.Holds (.user uid, h.user) currency none
  bank : L.Holds (.bank, h.bank) .BTC (some .external)
  dealerFiat : currency ≠ .BTC → L.Holds (.dealer, h.dealerFiat) currency (some .internal)
  dealerBtc : currency ≠ .BTC → L.Holds (.dealer, h.dealerBtc) .BTC (some .internal)

theorem At.moves {h : HoldAccounts} {L L' : Ledger} {ps : List Booking} {uid : UserId}
    {currency : Currency} (hat : h.At L uid currency) (hm : Moves L ps L') :
    h.At L' uid currency :=
  ⟨hm.holds hat.user, hm.holds hat.bank, fun hf => hm.holds (hat.dealerFiat hf),
    fun hf => hm.holds (hat.dealerBtc hf)⟩

end HoldAccounts

/-- The amounts are positive and the transactions of the debit can be stored. -/
def BankEngine.Outgoing.Storable (p : Outgoing) (env : Env) (s : State) : Prop :=
  0 < p.debit.value ∧ 0 < p.totalInBtc.value ∧ TxStored env s 0 0 ∧
    (p.msg.currency ≠ .BTC → TxStored env s 1 1)

/-- What a debit does to the books; does the payment go on? -/
inductive DebitOutcome (env : Env) (p : Outgoing) (outbound : AccountId) (s : State) :
    Bool → State → Prop
  | refused {s' : State} (booked : Booked env s [] s') (reason : ¬p.Storable env s) :
      DebitOutcome env p outbound s false s'
  | debited {goes : Bool} {s' : State} (h : HoldAccounts) (s₁ : State)
      (stored : p.Storable env s) (huser : h.user = outbound)
      (accounts : h.At s₁.ledger p.msg.uid p.msg.currency)
      (booked : Booked env s
        (h.bookings p.msg.uid p.msg.currency p.debit.value p.totalInBtc.value) s₁)
      (noted : Noted s₁ s') (hgoes : goes = true ↔ SummaryStored env s) :
      DebitOutcome env p outbound s goes s'

theorem debitFiat_spec {p : Outgoing} {outbound liability : Account}
    (hfiat : p.msg.currency ≠ .BTC)
    (hout : s.ledger.get (.user p.msg.uid, outbound.accountId) = some outbound)
    (houtc : outbound.currency = p.msg.currency)
    (hli : s.ledger.get (.bank, liability.accountId) = some liability)
    (hlic : liability.currency = .BTC) (hlit : liability.accountType = .external) :
    Ensures (debitFiat env p outbound liability) s
      (DebitOutcome env p outbound.accountId s) := by
  unfold debitFiat
  dsimp only
  refine (getDealerAccount_spec _ _).bind ?_
  intro fiatAcc s₁ hspec
  obtain ⟨h₁, hdf, hdfc, hdft, hsame₁⟩ := hspec
  refine (makeTx_spec _ _ _ _ _ _).bind ?_
  intro r s₂ htx
  have hb := h₁.opened htx.booked
  split
  next outbound' fiatAcc' outboundTxid =>
    obtain ⟨hv, -, hst₀, rfl, rfl⟩ := htx.stored outboundTxid rfl
    have hst₀ := (hsame₁ 0 0).mp hst₀
    refine (getDealerAccount_spec _ _).bind ?_
    intro btcAcc s₃ hspec
    obtain ⟨h₃, hdb, hdbc, hdbt, hsame₃⟩ := hspec
    have hb := hb.opened h₃
    -- the second transaction takes the next key
    have hnext : TxStored env s₃ 1 0 ↔ TxStored env s 1 1 :=
      ((hsame₃ 1 0).trans (htx.next outboundTxid rfl 1 0)).trans (hsame₁ 1 1)
    refine (makeTx_spec _ _ _ _ _ _).bind ?_
    intro r s₄ htx'
    have hb' := hb.opened htx'.booked
    split
    next btcAcc' liability' inboundTxid =>
      obtain ⟨ht, -, hst₁, rfl, rfl⟩ := htx'.stored inboundTxid rfl
      have hstored : p.Storable env s := ⟨hv, ht, hst₀, fun _ => hnext.mp hst₁⟩
      have hout := hb'.keeps hout
      have hli := hb'.keeps hli
      have hdf := htx'.booked.keeps (h₃.keeps (htx.booked.keeps hdf))
      have hdb := htx'.booked.keeps hdb
      refine (insertIntoLedger_spec _ _).bind ?_
      intro _ s₅ h₅
      refine (putAccount_spec _ _).bind ?_
      intro _ s₆ h₆
      refine (putAccount_spec _ _).bind ?_
      intro _ s₇ h₇
      refine (putAccount_spec _ _).bind ?_
      intro _ s₈ h₈
      subst h₅ h₆ h₇ h₈
      have hne : fiatAcc.accountId ≠ btcAcc.accountId := fun e =>
        Ledger.ref_ne_of_currency hdf hdb (by rw [hdbc, hdfc]; exact hfiat) (by rw [e])
      have hw := Booked.writeBack (s := s₄) env
        [⟨.user p.msg.uid, outbound, -p.debit.value⟩, ⟨.bank, liability, p.totalInBtc.value⟩,
          ⟨.dealer, fiatAcc, p.debit.value⟩, ⟨.dealer, btcAcc, -p.totalInBtc.value⟩]
        (by simp [Write.ref, hout, hli, hdf, hdb]) (by simp [Write.ref, hne])
      simp only [List.map_cons, List.map_nil, Write.booking, Write.ref, houtc, hlic, hdfc,
        hdbc] at hw
      have hat : HoldAccounts.At ⟨outbound.accountId, liability.accountId, fiatAcc.accountId,
          btcAcc.accountId⟩ s₄.ledger p.msg.uid p.msg.currency :=
        ⟨⟨_, hout, houtc, by simp⟩, ⟨_, hli, hlic, by simp [hlit]⟩,
          fun _ => ⟨_, hdf, hdfc, by simp [hdft]⟩, fun _ => ⟨_, hdb, hdbc, by simp [hdbt]⟩⟩
      have hat := hat.moves hw.moves
      have hb := hb'.trans hw
      refine (updateAccount_spec _ _).bind ?_
      intro _ s₉ hspec
      obtain ⟨h₉, -⟩ := hspec
      refine (updateAccount_spec _ _).bind ?_
      intro _ s₁₀ hspec
      obtain ⟨h₁₀, -⟩ := hspec
      refine (updateAccount_spec _ _).bind ?_
      intro _ s₁₁ hspec
      obtain ⟨h₁₁, -⟩ := hspec
      refine (updateAccount_spec _ _).bind ?_
      intro _ s₁₂ hspec
      obtain ⟨h₁₂, -⟩ := hspec
      have hupd := ((h₉.opened h₁₀).opened h₁₁).opened h₁₂
      have hb := hb.opened hupd
      have hat := hat.moves hupd.moves
      have hb : Booked env s (HoldAccounts.bookings ⟨outbound.accountId, liability.accountId,
          fiatAcc.accountId, btcAcc.accountId⟩ p.msg.uid p.msg.currency p.debit.value
          p.totalInBtc.value) s₁₂ := by
        unfold HoldAccounts.bookings
        rw [if_pos hfiat]
        exact hb
      refine (makeSummaryTx_spec _).bind ?_
      intro r s₁₃ hspec
      obtain ⟨hn, hsum, -⟩ := hspec
      rw [hb.summaryStored_iff] at hsum
      split
      next =>
        exact .debited _ s₁₂ hstored rfl hat hb hn
          ⟨fun _ => (hsum.mp ⟨_, rfl⟩).2, fun _ => rfl⟩
      next hno =>
        refine .debited _ s₁₂ hstored rfl hat hb hn ⟨fun h => absurd h (by simp), fun h => ?_⟩
        obtain ⟨txid, hok⟩ := hsum.mpr ⟨hv, h⟩
        exact absurd hok (hno txid)
    next hno =>
      refine .refused hb' fun hst => ?_
      obtain ⟨txid, hok⟩ := htx'.succeeds hst.2.1 (by rw [hdbc, hlic])
        (hnext.mpr (hst.2.2.2 hfiat))
      exact hno _ _ _ (by rw [← hok])
  next hno =>
    refine .refused hb fun hst => ?_
    obtain ⟨txid, hok⟩ := htx.succeeds hst.1 (by rw [houtc, hdfc]) ((hsame₁ 0 0).mpr hst.2.2.1)
    exact hno _ _ _ (by rw [← hok])

theorem debitBtc_spec {p : Outgoing} {outbound liability : Account}
    (hbtc : p.msg.currency = .BTC) (htotal : p.totalInBtc.value = p.debit.value)
    (hout : s.ledger.get (.user p.msg.uid, outbound.accountId) = some outbound)
    (houtc : outbound.currency = p.msg.currency)
    (hli : s.ledger.get (.bank, liability.accountId) = some liability)
    (hlic : liability.currency = .BTC) (hlit : liability.accountType = .external) :
    Ensures (debitBtc env p outbound liability) s
      (DebitOutcome env p outbound.accountId s) := by
  unfold debitBtc
  dsimp only
  refine (makeTx_spec _ _ _ _ _ _).bind ?_
  intro r s₁ htx
  have hb := htx.booked
  split
  next outbound' liability' txid =>
    obtain ⟨hv, -, hst, rfl, rfl⟩ := htx.stored txid rfl
    have hstored : p.Storable env s :=
      ⟨hv, by rw [htotal]; exact hv, hst, fun hf => absurd hbtc hf⟩
    have hout := hb.keeps hout
    have hli := hb.keeps hli
    refine (putAccount_spec _ _).bind ?_
    intro _ s₂ h₂
    refine (insertIntoLedger_spec _ _).bind ?_
    intro _ s₃ h₃
    subst h₂ h₃
    have hw := Booked.writeBack (s := s₁) env
      [⟨.bank, liability, p.debit.value⟩, ⟨.user p.msg.uid, outbound, -p.debit.value⟩]
      (by simp [Write.ref, hout, hli]) (by simp [Write.ref])
    simp only [List.map_cons, List.map_nil, Write.booking, Write.ref, houtc, hbtc, hlic] at hw
    -- a bitcoin payment holds two accounts only
    have hat : HoldAccounts.At ⟨outbound.accountId, liability.accountId, 0, 0⟩ s₁.ledger
        p.msg.uid p.msg.currency :=
      ⟨⟨_, hout, houtc, by simp⟩, ⟨_, hli, hlic, by simp [hlit]⟩, fun hf => absurd hbtc hf,
        fun hf => absurd hbtc hf⟩
    have hat := hat.moves hw.moves
    have hb := hb.trans hw
    refine (updateAccount_spec _ _).bind ?_
    intro _ s₄ hspec
    obtain ⟨h₄, -⟩ := hspec
    refine (updateAccount_spec _ _).bind ?_
    intro _ s₅ hspec
    obtain ⟨h₅, -⟩ := hspec
    have hb := hb.opened (h₄.opened h₅)
    have hat := hat.moves (h₄.opened h₅).moves
    have hb : Booked env s (HoldAccounts.bookings ⟨outbound.accountId, liability.accountId, 0, 0⟩
        p.msg.uid p.msg.currency p.debit.value p.totalInBtc.value) s₅ := by
      unfold HoldAccounts.bookings
      rw [if_neg (not_not.mpr hbtc)]
      exact hb
    refine (makeSummaryTx_spec _).bind ?_
    intro r s₆ hspec
    obtain ⟨hn, hsum, -⟩ := hspec
    rw [hb.summaryStored_iff] at hsum
    split
    next =>
      exact .debited _ s₅ hstored rfl hat hb hn ⟨fun _ => (hsum.mp ⟨_, rfl⟩).2, fun _ => rfl⟩
    next hno =>
      refine .debited _ s₅ hstored rfl hat hb hn ⟨fun h => absurd h (by simp), fun h => ?_⟩
      obtain ⟨txid, hok⟩ := hsum.mpr ⟨by rw [htotal]; exact hv, h⟩
      exact absurd hok (hno txid)
  next hno =>
    refine (sendApi_spec env _).bind ?_
    intro _ s' hspec
    obtain ⟨h', -⟩ := hspec
    -- the transaction is stored whenever it can be, so it could not
    refine .refused (hb.opened h') fun hst => ?_
    obtain ⟨txid, hok⟩ := htx.succeeds hst.1 (by rw [houtc, hlic, hbtc]) hst.2.2.1
    exact hno _ _ _ (by rw [← hok])

/-- A task was added to the spawned payments, and the books are as they were. -/
structure Spawned (s : State) (t : PaymentTask) (s' : State) : Prop where
  ledger : s'.ledger = s.ledger
  invoices : s'.db.invoices = s.db.invoices
  threads : s'.paymentThreads = s.paymentThreads ++ [t]
  lnurl : s'.lnurlWithdrawalRequests = s.lnurlWithdrawalRequests
  sent : ∃ new, s'.sent = s.sent ++ new ∧ ∀ m ∈ new, Ordinary m

/-- What the external branch does: nothing, a debit that ends there, or a debit
and the task that pays it. -/
inductive ExternalOutcome (env : Env) (p : Outgoing) (outbound : AccountId) (s s' : State) : Prop
  | refused (booked : Booked env s [] s') (reason : ¬p.Storable env s)
  | debited (h : HoldAccounts) (s₁ : State)
      (stored : p.Storable env s) (huser : h.user = outbound)
      (accounts : h.At s₁.ledger p.msg.uid p.msg.currency)
      (booked : Booked env s
        (h.bookings p.msg.uid p.msg.currency p.debit.value p.totalInBtc.value) s₁)
      (rest : Noted s₁ s' ∧ ¬SummaryStored env s ∨
        SummaryStored env s ∧ ∃ fee, p.estimatedFeeInBtc.trySats = .ok (.ok fee) ∧
          Spawned s₁ (p.task fee) s')

theorem payExternally_spec {p : Outgoing} {outbound : Account}
    (htotal : p.msg.currency = .BTC → p.totalInBtc.value = p.debit.value)
    (hout : s.ledger.get (.user p.msg.uid, outbound.accountId) = some outbound)
    (houtc : outbound.currency = p.msg.currency) :
    Ensures (payExternally env p outbound) s fun _ s' =>
      ExternalOutcome env p outbound.accountId s s' := by
  unfold payExternally
  refine getLiabilityAccount_spec.bind ?_
  intro liability s₁ hspec
  obtain ⟨h₁, hli, hlic, hlit, hsame⟩ := hspec
  have hout := h₁.keeps hout
  have hstor : p.Storable env s₁ ↔ p.Storable env s := by
    unfold Outgoing.Storable
    rw [hsame 0 0, hsame 1 1]
  refine Ensures.bind (R := DebitOutcome env p outbound.accountId s₁) ?_ ?_
  · refine Ensures.ite (fun hfiat => ?_) fun hbtc => ?_
    · exact debitFiat_spec hfiat hout houtc hli hlic hlit
    · exact debitBtc_spec (not_not.mp hbtc) (htotal (not_not.mp hbtc)) hout houtc hli hlic hlit
  intro goes s₂ hdeb
  cases hdeb with
  | refused booked reason =>
    exact .refused (h₁.opened booked) fun hst => reason (hstor.mpr hst)
  | debited h s₃ stored huser accounts booked noted hgoes =>
    have hb := h₁.trans booked
    rw [h₁.summaryStored_iff] at hgoes
    refine Ensures.ite (fun hgo => ?_) fun hno => ?_
    · refine Ensures.lift_bind fun sats hsats => Ensures.lift_bind fun fee hfee => ?_
      rw [Checked.unwrapOk_eq_ok.mp hfee] at hsats
      exact .debited h s₃ (hstor.mp stored) huser accounts hb
        (.inr ⟨hgoes.mp hgo, fee, hsats, noted.ledger, noted.invoices, by rw [← noted.threads],
          noted.lnurl, noted.sent⟩)
    · exact .debited h s₃ (hstor.mp stored) huser accounts hb
        (.inl ⟨noted, fun hst => hno (hgoes.mpr hst)⟩)

/-! ## Prices -/

/-- The rate a request is paid at; in bitcoin the one that came with it does not count. -/
def payRate (msg : PaymentRequest) : Option Rate :=
  if msg.currency = .BTC then some (Rate.new .BTC .BTC 1) else msg.rate

/-- A currency changed into itself is the same amount. -/
theorem exchange_unit {m d : Money} {c : Currency} (hc : m.currency = c)
    (hdp : Decimal.HasDp c.dp m.value) (h : m.exchange (Rate.new c c 1) = .ok (.ok d)) : d = m := by
  unfold Money.exchange at h
  rw [if_pos (by rw [hc]; rfl)] at h
  obtain ⟨v, hv, hd⟩ := Checked.bind_eq_ok.mp h
  obtain ⟨-, rfl⟩ := Decimal.mul_eq_ok.mp hv
  have hd := Checked.pure_eq_ok.mp hd
  injection hd with hd
  have hone : (Rate.new c c 1).value = 1 := Decimal.roundDp_eq_self ⟨10 ^ 12, by norm_num [RATE_DP]⟩
  rw [hone, mul_one] at hd
  have hval : Money.normalizedValue m.value c = m.value := Decimal.roundDp_eq_self hdp
  rw [← hd]
  show Money.mk c (Money.normalizedValue m.value c) = m
  rw [hval, ← hc]

/-- The total is a bitcoin amount, and the debit what it is worth. -/
theorem priceOutgoing_eq_ok {pr : String} {amount fee total debit : Money} {rate : Rate}
    (h : priceOutgoing cfg env pr amount rate = .ok (fee, total, debit)) :
    total.currency = .BTC ∧ Decimal.HasDp 12 total.value ∧
      total.exchange rate = .ok (.ok debit) := by
  unfold priceOutgoing at h
  obtain ⟨f, -, h⟩ := Checked.bind_eq_ok.mp h
  obtain ⟨v, -, h⟩ := Checked.bind_eq_ok.mp h
  obtain ⟨e, he, h⟩ := Checked.bind_eq_ok.mp h
  obtain ⟨d, hd, h⟩ := Checked.bind_eq_ok.mp h
  have hd := Checked.unwrapOk_eq_ok.mp hd
  have h := Checked.pure_eq_ok.mp h
  rw [Prod.mk.injEq, Prod.mk.injEq] at h
  obtain ⟨-, ht, hd'⟩ := h
  rw [← ht, ← hd', ← hd]
  exact ⟨rfl, Decimal.roundDp_hasDp _ _ _, he⟩

/-- What is known of an outgoing payment that was made from a request. -/
structure OutgoingFor (cfg : Config) (env : Env) (msg : PaymentRequest) (decoded : Bolt11)
    (millisats : UInt64) (p : Outgoing) : Prop where
  uid : p.msg.uid = msg.uid
  reqId : p.msg.reqId = msg.reqId
  currency : p.msg.currency = msg.currency
  paymentRequest : msg.paymentRequest = some p.paymentRequest
  parsed : cfg.parseInvoice p.paymentRequest = some decoded
  hmillisats : decoded.amountMilliSatoshis = some millisats
  amountInBtc : p.amountInBtc = Money.fromSats (invoiceSats millisats)
  rate : payRate msg = some p.rate
  worth : ∃ amount, (Money.fromSats (invoiceSats millisats)).exchange p.rate = .ok (.ok amount)
  priced : priceOutgoing cfg env p.paymentRequest p.amountInBtc p.rate
    = .ok (p.estimatedFeeInBtc, p.totalInBtc, p.debit)

/-- What is debited is what the total is worth. -/
theorem OutgoingFor.exchanged {msg : PaymentRequest} {decoded : Bolt11} {millisats : UInt64}
    {p : Outgoing} (h : OutgoingFor cfg env msg decoded millisats p) :
    p.totalInBtc.exchange p.rate = .ok (.ok p.debit) := (priceOutgoing_eq_ok h.priced).2.2

theorem OutgoingFor.total_eq {msg : PaymentRequest} {decoded : Bolt11} {millisats : UInt64}
    {p : Outgoing} (h : OutgoingFor cfg env msg decoded millisats p)
    (hbtc : p.msg.currency = .BTC) : p.totalInBtc.value = p.debit.value := by
  have hrate := h.rate
  unfold payRate at hrate
  rw [← h.currency, if_pos hbtc] at hrate
  injection hrate with hrate
  obtain ⟨hc, hdp, hex⟩ := priceOutgoing_eq_ok h.priced
  rw [← hrate] at hex
  rw [exchange_unit hc hdp hex]

/-! ## A payment request -/

/-- The invoice may be paid: it is stored and open, or it is new and can be stored. -/
def Payable (env : Env) (s : State) (pr : String) (decoded : Bolt11) : Prop :=
  (∃ i, env.db .invoiceGet = true ∧ s.db.invoiceByPaymentRequest pr = some i ∧
    i.settled = false) ∨
  (env.db .invoiceGet = true → s.db.invoiceByPaymentRequest pr = none) ∧
    env.db .invoiceInsert = true ∧ s.db.invoices.has decoded.paymentHash = false

theorem findOrInsertInvoice_spec (msg : PaymentRequest) (pr : String) (decoded : Bolt11)
    (millisats : Nat) :
    Ensures (findOrInsertInvoice env msg pr decoded millisats) s fun r s' =>
      Booked env s [] s' ∧ s'.ledger = s.ledger ∧ SameTx env s s' ∧
        (∀ i, r = some i →
          (env.db .invoiceGet = true ∧ s.db.invoiceByPaymentRequest pr = some i ∨
            (env.db .invoiceGet = true → s.db.invoiceByPaymentRequest pr = none) ∧
              i.owner = none) ∧ (i.settled = false ↔ Payable env s pr decoded)) ∧
        (r = none → ¬Payable env s pr decoded) := by
  unfold findOrInsertInvoice
  refine Ensures.bind (R := fun r s' => s' = s ∧
    r = if env.db .invoiceGet then s.db.invoiceByPaymentRequest pr else none) ⟨rfl, rfl⟩ ?_
  intro found s₀ hspec
  obtain ⟨rfl, hfound⟩ := hspec
  cases found with
  | some invoice =>
    have hget : env.db .invoiceGet = true := by
      by_contra hno
      rw [if_neg hno] at hfound
      exact absurd hfound (by simp)
    rw [if_pos hget] at hfound
    refine ⟨.refl env s₀, rfl, .of_eq rfl rfl, fun i hi => ?_, fun h => absurd h (by simp)⟩
    obtain rfl := Option.some.inj hi
    refine ⟨.inl ⟨hget, hfound.symm⟩, fun hs => .inl ⟨_, hget, hfound.symm, hs⟩, ?_⟩
    rintro (⟨j, -, hj, hs⟩ | ⟨hnone, -⟩)
    · rw [Option.some.inj (hfound.trans hj)]
      exact hs
    · exact absurd (hfound.trans (hnone hget)) (by simp)
  | none =>
    have hnone : env.db .invoiceGet = true → s₀.db.invoiceByPaymentRequest pr = none := by
      intro hget
      rw [if_pos hget] at hfound
      exact hfound.symm
    dsimp only
    refine (insertInvoice_spec _).bind ?_
    intro stored s₁ hspec
    obtain ⟨h₁, hl, hsame, hiff, -⟩ := hspec
    refine ⟨h₁, hl, hsame, fun i hi => ?_, fun hr => ?_⟩
    · cases stored with
      | false => exact absurd hi (by simp)
      | true =>
        rw [if_pos rfl] at hi
        injection hi with hi
        subst hi
        exact ⟨.inr ⟨hnone, rfl⟩, fun _ => .inr ⟨hnone, hiff.mp rfl⟩, fun _ => rfl⟩
    · cases stored with
      | true => exact absurd hr (by simp)
      | false =>
        rintro (⟨i, hget, hi, -⟩ | ⟨-, hins, hhas⟩)
        · rw [hnone hget] at hi
          exact absurd hi (by simp)
        · exact absurd (hiff.mpr ⟨hins, hhas⟩) (by simp)

/-- The request is not for a user of the platform, by name or by invoice. -/
structure IsExternal (cfg : Config) (env : Env) (msg : PaymentRequest) (s : State) : Prop where
  route : ∀ username, routeRecipient cfg env msg ≠ .user username
  unowned : ∀ pr i, msg.paymentRequest = some pr → env.db .invoiceGet = true →
    s.db.invoiceByPaymentRequest pr = some i → i.owner = none

/-- The request passes every check on the way to its debit, and the
transactions of the debit can be stored. -/
structure DebitReached (cfg : Config) (env : Env) (msg : PaymentRequest) (s : State)
    (pr : String) (decoded : Bolt11) (millisats : UInt64) (rate : Rate)
    (fee total debit : Money) : Prop where
  admitted : (checkRateLimit cfg.withdrawalRequestRateLimiterSettings env.instant
    s.withdrawalRequestRateLimiter msg.uid).1 = true
  known : s.ledger.hasUser msg.uid = true
  amount : ∀ a, msg.amount = some a → 0 < a.value
  conn : env.db .conn = true
  payer : env.db .outboundUser = true ∧ (env.directory.userById (asI32 msg.uid)).isSome = true
  paymentRequest : msg.paymentRequest = some pr
  parsed : cfg.parseInvoice pr = some decoded
  hmillisats : decoded.amountMilliSatoshis = some millisats
  hrate : payRate msg = some rate
  payable : Payable env s pr decoded
  priced : priceOutgoing cfg env pr (Money.fromSats (invoiceSats millisats)) rate
    = .ok (fee, total, debit)
  covered : debit.value ≤ defaultBalance env s.ledger (.user msg.uid) msg.currency none
  positive : 0 < debit.value ∧ 0 < total.value
  stored : TxStored env s 0 0 ∧ (msg.currency ≠ .BTC → TxStored env s 1 1)

/-- Some invoice, rate and price take the request to its debit. -/
def ReachesDebit (cfg : Config) (env : Env) (msg : PaymentRequest) (s : State) : Prop :=
  ∃ pr decoded millisats rate fee total debit,
    DebitReached cfg env msg s pr decoded millisats rate fee total debit

/-- The invoice and the rate are those the request names. -/
theorem ReachesDebit.elim {msg : PaymentRequest} {pr : String} {decoded : Bolt11}
    {millisats : UInt64} {rate : Rate} (h : ReachesDebit cfg env msg s)
    (hpr : msg.paymentRequest = some pr) (hdec : cfg.parseInvoice pr = some decoded)
    (hmil : decoded.amountMilliSatoshis = some millisats) (hrate : payRate msg = some rate) :
    ∃ fee total debit, DebitReached cfg env msg s pr decoded millisats rate fee total debit := by
  obtain ⟨pr', decoded', millisats', rate', fee, total, debit, h⟩ := h
  obtain rfl := Option.some.inj (hpr.symm.trans h.paymentRequest)
  obtain rfl := Option.some.inj (hdec.symm.trans h.parsed)
  obtain rfl := Option.some.inj (hmil.symm.trans h.hmillisats)
  obtain rfl := Option.some.inj (hrate.symm.trans h.hrate)
  exact ⟨fee, total, debit, h⟩

/-- What a payment request does to the books. -/
inductive PaymentOutcome (cfg : Config) (env : Env) (msg : PaymentRequest) (s s' : State) : Prop
  | refused (booked : Booked env s [] s')
      (reason : IsExternal cfg env msg s → ¬ReachesDebit cfg env msg s)
  /-- Paid to another user, by name. -/
  | transferred (username : String) (route : routeRecipient cfg env msg = .user username)
      (paid : InternalOutcome env { msg with recipient := some username } s (.ok ()) s')
  /-- Paid to the owner of the invoice, which is settled. -/
  | settled (pr : String) (decoded : Bolt11) (millisats : UInt64) (rate : Rate) (amount : Money)
      (invoice : Invoice) (owner : Int) (user : User) (req : PaymentRequest) (s₁ : State)
      (hpr : msg.paymentRequest = some pr) (parsed : cfg.parseInvoice pr = some decoded)
      (hmillisats : decoded.amountMilliSatoshis = some millisats)
      (hrate : payRate msg = some rate)
      (exchanged : (Money.fromSats (invoiceSats millisats)).exchange rate = .ok (.ok amount))
      (fetched : env.db .invoiceGet = true)
      (found : s.db.invoiceByPaymentRequest pr = some invoice) (unpaid : invoice.settled = false)
      (howner : invoice.owner = some owner) (huser : env.directory.userById owner = some user)
      (hreq : req.uid = msg.uid ∧ req.currency = msg.currency ∧ req.amount = some amount ∧
        req.recipient = some user.username)
      (paid : InternalOutcome env req s (.ok ()) s₁)
      (settles : Settles env (settleInvoice env invoice) s₁ s')
  /-- Paid out of the platform: debited, and handed to a task if the summary
  could be stored. -/
  | debited (p : Outgoing) (decoded : Bolt11) (millisats : UInt64) (h : HoldAccounts) (s₁ : State)
      (made : OutgoingFor cfg env msg decoded millisats p)
      (unowned : env.db .invoiceGet = true → ∀ i,
        s.db.invoiceByPaymentRequest p.paymentRequest = some i →
          i.owner = none ∧ i.settled = false)
      (reached : ReachesDebit cfg env msg s)
      (positive : 0 < p.debit.value ∧ 0 < p.totalInBtc.value)
      (covered : p.debit.value ≤ s.ledger.balanceAt (.user msg.uid, h.user))
      (accounts : h.At s₁.ledger msg.uid msg.currency)
      (booked : Booked env s
        (h.bookings msg.uid msg.currency p.debit.value p.totalInBtc.value) s₁)
      (rest : Noted s₁ s' ∧ ¬SummaryStored env s ∨
        SummaryStored env s ∧ ∃ fee, p.estimatedFeeInBtc.trySats = .ok (.ok fee) ∧
          Spawned s₁ (p.task fee) s')

/-- What a request has shown when it comes to its invoice: the state it came
from is that of the message, with accounts opened at most, and the copy it
holds is current. -/
structure Admitted (cfg : Config) (env : Env) (msg : PaymentRequest) (s₀ s : State)
    (outbound : Account) : Prop where
  booked : Booked env s₀ [] s
  db : s.db = s₀.db
  sameTx : SameTx env s₀ s
  held : s.ledger.get (.user msg.uid, outbound.accountId) = some outbound
  currency : outbound.currency = msg.currency
  balance : outbound.balance = defaultBalance env s₀.ledger (.user msg.uid) msg.currency none
  limit : (checkRateLimit cfg.withdrawalRequestRateLimiterSettings env.instant
    s₀.withdrawalRequestRateLimiter msg.uid).1 = true
  known : s₀.ledger.hasUser msg.uid = true
  amount : ∀ a, msg.amount = some a → 0 < a.value
  conn : env.db .conn = true
  payer : env.db .outboundUser = true ∧ (env.directory.userById (asI32 msg.uid)).isSome = true

theorem InternalOutcome.after {req : PaymentRequest} {s₀ s s' : State}
    {r : Except PaymentResponseError Unit} (hb : Booked env s₀ [] s)
    (h : InternalOutcome env req s r s') : InternalOutcome env req s₀ r s' := by
  cases h with
  | refused e booked => exact .refused e (hb.opened booked)
  | paid username recipient amount u v hrec found other hamount positive covered posted =>
    have hbal := hb.moves.balanceAt (.user req.uid, u)
    rw [Posting.sumAt_nil, add_zero] at hbal
    exact .paid username recipient amount u v hrec found other hamount positive
      (by rw [← hbal]; exact covered) (hb.posted.trans posted)

theorem payOwner_spec {msg : PaymentRequest} {invoice : Invoice} {owner : Int} :
    Ensures (payOwner cfg env msg invoice owner) s fun _ s' =>
      Booked env s [] s' ∨ ∃ user s₁, env.directory.userById owner = some user ∧
        InternalOutcome env { msg with recipient := some user.username } s (.ok ()) s₁ ∧
        Settles env (settleInvoice env invoice) s₁ s' := by
  unfold payOwner
  split
  next user huser =>
    refine (makeInternalTx_spec _).bind ?_
    intro r s₁ hint
    cases hint with
    | refused e booked => exact .inl booked
    | paid username recipient amount u v hrec found other hamount positive covered posted =>
      dsimp only
      refine (updateInvoice_spec _).bind ?_
      intro _ s₂ hset
      refine (publishIfZapNote_spec _ _ _ _ _).mono fun _ s' h' => .inr ⟨user, s₁, ?_, ?_, ?_⟩
      · split at huser
        · exact huser
        · exact absurd huser (by simp)
      · exact .paid username recipient amount u v hrec found other hamount positive covered posted
      · exact hset.noted h'
  next => exact (sendApi_spec env _).mono fun _ s' h => .inl h.1

theorem payPriced_spec {msg₀ msg : PaymentRequest} {pr : String} {decoded : Bolt11}
    {millisats : UInt64} {outbound : Account} {s₀ : State} (outboundName inboundName : String)
    (ha : Admitted cfg env msg₀ s₀ s outbound)
    (huid : msg.uid = msg₀.uid) (hreqId : msg.reqId = msg₀.reqId)
    (hcur : msg.currency = msg₀.currency) (hpr : msg₀.paymentRequest = some pr)
    (hdec : cfg.parseInvoice pr = some decoded)
    (hmil : decoded.amountMilliSatoshis = some millisats) (hrate : msg.rate = payRate msg₀) :
    Ensures (payPriced cfg env msg pr decoded millisats outbound outboundName inboundName) s
      fun _ s' => PaymentOutcome cfg env msg₀ s₀ s' := by
  unfold payPriced
  dsimp only
  refine Ensures.lift_bind fun rate hr => ?_
  have hrate : payRate msg₀ = some rate := by
    rw [← hrate]
    exact Checked.unwrap_eq_ok.mp hr
  refine Ensures.lift_bind fun exchanged hex => Ensures.lift_bind fun amount ham => ?_
  have hex : (Money.fromSats (invoiceSats millisats)).exchange rate = .ok (.ok amount) := by
    rw [hex, Checked.unwrapOk_eq_ok.mp ham]
  refine (findOrInsertInvoice_spec _ _ _ _).bind ?_
  intro found s₁ hspec
  obtain ⟨h₁, hl, hsame, hsome, hnone⟩ := hspec
  have hb := ha.booked.opened h₁
  have hsame := ha.sameTx.trans hsame
  -- the tables are those of the message, so what is payable is too
  have hpay : Payable env s pr decoded ↔ Payable env s₀ pr decoded := by
    unfold Payable
    rw [ha.db]
  cases found with
  | none =>
    refine .refused hb fun _ hreach => hnone rfl (hpay.mpr ?_)
    obtain ⟨_, _, _, h⟩ := hreach.elim hpr hdec hmil hrate
    exact h.payable
  | some invoice =>
    obtain ⟨hcase, hsettled⟩ := hsome invoice rfl
    rw [hpay] at hsettled
    rw [ha.db] at hcase
    have hexternal : IsExternal cfg env msg₀ s₀ → invoice.owner = none := by
      intro hext
      rcases hcase with ⟨hget, hi⟩ | ⟨-, ho⟩
      · exact hext.unowned pr invoice hpr hget hi
      · exact ho
    dsimp only
    refine Ensures.ite (fun hself => ?_) fun _ => ?_
    · refine (sendApi_spec env _).mono fun _ s' h => .refused (hb.opened h.1) fun hext => ?_
      rw [hexternal hext] at hself
      exact absurd hself (by simp)
    refine Ensures.ite (fun hpaid => ?_) fun hopen => ?_
    · refine (sendApi_spec env _).mono fun _ s' h => .refused (hb.opened h.1) fun _ hreach => ?_
      obtain ⟨_, _, _, h⟩ := hreach.elim hpr hdec hmil hrate
      rw [hsettled.mpr h.payable] at hpaid
      exact absurd hpaid (by simp)
    have hopen : invoice.settled = false := by simpa using hopen
    refine Ensures.lift_bind fun price hprice => ?_
    obtain ⟨fee, total, debit⟩ := price
    dsimp only
    refine Ensures.ite (fun hlow => ?_) fun hcov => ?_
    · refine (sendApi_spec env _).mono fun _ s' h => .refused (hb.opened h.1) fun _ hreach => ?_
      obtain ⟨fee', total', debit', h⟩ := hreach.elim hpr hdec hmil hrate
      obtain ⟨rfl, rfl, rfl⟩ : fee = fee' ∧ total = total' ∧ debit = debit' := by
        have := hprice.symm.trans h.priced
        simpa using this
      rw [ha.balance] at hlow
      exact absurd hlow (not_lt.mpr h.covered)
    have hcov : debit.value ≤ outbound.balance := not_lt.mp hcov
    cases howner : invoice.owner with
    | some owner =>
      obtain ⟨hget, hfound⟩ : env.db .invoiceGet = true ∧
          s₀.db.invoiceByPaymentRequest pr = some invoice := by
        rcases hcase with h | ⟨-, ho⟩
        · exact h
        · rw [ho] at howner
          exact absurd howner (by simp)
      refine payOwner_spec.mono fun _ s' h => ?_
      rcases h with hbk | ⟨user, s₂, huser, hint, hset⟩
      · refine .refused (hb.opened hbk) fun hext => ?_
        rw [hexternal hext] at howner
        exact absurd howner (by simp)
      · exact .settled pr decoded millisats rate amount invoice owner user
          { msg with amount := some amount, recipient := some user.username } s₂ hpr hdec hmil hrate
          hex hget hfound hopen howner huser ⟨huid, hcur, rfl, rfl⟩ (hint.after hb) hset
    | none =>
      generalize hp : (Outgoing.mk _ _ _ _ _ _ _ _ _ _ _) = p
      have hmade : OutgoingFor cfg env msg₀ decoded millisats p := by
        subst hp
        exact ⟨huid, hreqId, hcur, hpr, hdec, hmil, rfl, hrate, ⟨amount, hex⟩, hprice⟩
      have hdebit : p.debit = debit := by subst hp; rfl
      have htotal : p.totalInBtc = total := by subst hp; rfl
      have hppr : p.paymentRequest = pr := by subst hp; rfl
      have hheld : s₁.ledger.get (.user p.msg.uid, outbound.accountId) = some outbound := by
        rw [hmade.uid]
        exact h₁.keeps ha.held
      have hstorable : p.Storable env s₁ ↔ (0 < debit.value ∧ 0 < total.value) ∧
          TxStored env s₀ 0 0 ∧ (msg₀.currency ≠ .BTC → TxStored env s₀ 1 1) := by
        unfold Outgoing.Storable
        rw [hdebit, htotal, hmade.currency, hsame 0 0, hsame 1 1, and_assoc]
      refine (payExternally_spec hmade.total_eq hheld
        (by rw [hmade.currency]; exact ha.currency)).mono fun _ s' h => ?_
      cases h with
      | refused booked reason =>
        refine .refused (hb.opened booked) fun _ hreach => reason (hstorable.mpr ?_)
        obtain ⟨fee', total', debit', h⟩ := hreach.elim hpr hdec hmil hrate
        obtain ⟨rfl, rfl, rfl⟩ : fee = fee' ∧ total = total' ∧ debit = debit' := by
          have := hprice.symm.trans h.priced
          simpa using this
        exact ⟨h.positive, h.stored⟩
      | debited h s₂ stored huser accounts booked rest =>
        obtain ⟨hpos, hst⟩ := hstorable.mp stored
        rw [hb.summaryStored_iff] at rest
        have booked := hb.trans booked
        rw [List.nil_append, hmade.uid, hmade.currency] at booked
        rw [hmade.uid, hmade.currency] at accounts
        refine .debited p decoded millisats h s₂ hmade ?_ ?_ ?_ ?_ accounts booked rest
        · intro hget i hi
          rw [hppr] at hi
          rcases hcase with ⟨-, hi'⟩ | ⟨hno, -⟩
          · rw [← Option.some.inj (hi'.symm.trans hi)]
            exact ⟨howner, hopen⟩
          · rw [hno hget] at hi
            exact absurd hi (by simp)
        · exact ⟨pr, decoded, millisats, rate, fee, total, debit, ha.limit, ha.known, ha.amount,
            ha.conn, ha.payer, hpr, hdec, hmil, hrate, hsettled.mp hopen, hprice,
            by rw [← ha.balance]; exact hcov, hpos, hst⟩
        · rw [hdebit, htotal]
          exact hpos
        · have hbal := ha.booked.moves.balanceAt (.user msg₀.uid, outbound.accountId)
          rw [Posting.sumAt_nil, add_zero] at hbal
          rw [huser, hdebit, ← hbal]
          unfold Ledger.balanceAt
          rw [ha.held]
          exact hcov

theorem withInvoiceAmount_currency (msg : PaymentRequest) (a : Money) :
    (withInvoiceAmount msg a).currency = msg.currency := rfl

theorem payLightning_spec {msg : PaymentRequest} {outbound : Account} {s₀ : State}
    (outboundName inboundName : String) (ha : Admitted cfg env msg s₀ s outbound) :
    Ensures (payLightning cfg env msg outbound outboundName inboundName) s
      fun _ s' => PaymentOutcome cfg env msg s₀ s' := by
  unfold payLightning
  split
  next pr hpr =>
    split
    next decoded hdec =>
      split
      next millisats hmil =>
        dsimp only
        refine Ensures.ite (fun hquote => ?_) fun hquote => ?_
        · refine (send_spec env _ _).mono fun _ s' h => .refused (ha.booked.opened h.1) ?_
          rintro - ⟨_, _, _, _, _, _, _, h⟩
          have hrate := h.hrate
          obtain ⟨hcur, hno⟩ : msg.currency ≠ .BTC ∧ msg.rate.isNone = true := hquote
          unfold payRate at hrate
          rw [if_neg hcur] at hrate
          rw [hrate] at hno
          exact absurd hno (by simp)
        · rw [withInvoiceAmount_currency]
          by_cases hbtc : msg.currency = .BTC
          · rw [if_pos hbtc]
            exact payPriced_spec _ _ ha rfl rfl rfl hpr hdec hmil
              (by unfold payRate; rw [if_pos hbtc])
          · rw [if_neg hbtc]
            exact payPriced_spec _ _ ha rfl rfl rfl hpr hdec hmil
              (by unfold payRate; rw [if_neg hbtc]; rfl)
      next hno =>
        refine (sendApi_spec env _).mono fun _ s' h => .refused (ha.booked.opened h.1) ?_
        rintro - ⟨_, _, _, _, _, _, _, h⟩
        obtain rfl := Option.some.inj (hpr.symm.trans h.paymentRequest)
        obtain rfl := Option.some.inj (hdec.symm.trans h.parsed)
        exact hno _ h.hmillisats
    next hno =>
      refine (sendApi_spec env _).mono fun _ s' h => .refused (ha.booked.opened h.1) ?_
      rintro - ⟨_, _, _, _, _, _, _, h⟩
      obtain rfl := Option.some.inj (hpr.symm.trans h.paymentRequest)
      exact hno _ h.parsed
  next hno =>
    refine .refused ha.booked ?_
    rintro - ⟨_, _, _, _, _, _, _, h⟩
    exact hno _ h.paymentRequest

theorem paymentRequest_spec (msg : PaymentRequest) :
    Ensures (paymentRequest cfg env msg) s fun _ s' => PaymentOutcome cfg env msg s s' := by
  unfold paymentRequest
  refine (checkWithdrawalRequestRateLimit_spec _).bind ?_
  intro admitted s₁ hspec
  obtain ⟨h₁, hl, hdb, hsame, hadm⟩ := hspec
  refine Ensures.ite (fun hno => ?_) fun hyes => ?_
  · refine (sendApi_spec env _).mono fun _ s' h => .refused (h₁.opened h.1) ?_
    rintro - ⟨_, _, _, _, _, _, _, h⟩
    rw [hadm, h.admitted] at hno
    exact absurd hno (by simp)
  -- each refusal is one that a payment to the outside would not have met
  have hadm : (checkRateLimit cfg.withdrawalRequestRateLimiterSettings env.instant
      s.withdrawalRequestRateLimiter msg.uid).1 = true := by
    rw [← hadm]
    simpa using hyes
  refine Ensures.get_bind ?_
  rw [hl]
  refine Ensures.ite (fun hno => ?_) fun hknown => ?_
  · refine (sendApi_spec env _).mono fun _ s' h => .refused (h₁.opened h.1) ?_
    rintro - ⟨_, _, _, _, _, _, _, h⟩
    rw [h.known] at hno
    exact absurd hno (by simp)
  have hknown : s.ledger.hasUser msg.uid = true := by simpa using hknown
  refine ((getDefaultAccount_spec _ _ _).and (getDefaultAccount_balance _ _ _)).bind ?_
  intro outbound s₂ hspec
  obtain ⟨⟨h₂, hout, houtc, -, hsame₂⟩, hbal, hdb₂⟩ := hspec
  have hb := h₁.opened h₂
  rw [hl] at hbal
  refine Ensures.ite (fun hneg => ?_) fun hpos => ?_
  · refine (sendApi_spec env _).mono fun _ s' h => .refused (hb.opened h.1) ?_
    rintro - ⟨_, _, _, _, _, _, _, h⟩
    cases ha : msg.amount with
    | none => rw [ha] at hneg; exact absurd hneg (by simp)
    | some a =>
      rw [ha] at hneg
      exact absurd (h.amount a ha) (not_lt.mpr (by simpa using hneg))
  have hpos : ∀ a, msg.amount = some a → 0 < a.value := by
    intro a ha
    by_contra hle
    exact hpos (by rw [ha]; simpa using hle)
  refine Ensures.ite (fun hno => ?_) fun hconn => ?_
  · refine (sendApi_spec env _).mono fun _ s' h => .refused (hb.opened h.1) ?_
    rintro - ⟨_, _, _, _, _, _, _, h⟩
    rw [h.conn] at hno
    exact absurd hno (by simp)
  have hconn : env.db .conn = true := by simpa using hconn
  split
  next payer hpayer =>
    have hpayer : env.db .outboundUser = true ∧
        (env.directory.userById (asI32 msg.uid)).isSome = true := by
      split at hpayer
      next hflag => exact ⟨hflag, by rw [hpayer]; rfl⟩
      next => exact absurd hpayer (by simp)
    split
    next username hroute =>
      refine (makeInternalTx_spec _).bind ?_
      intro r s₃ hint
      cases r with
      | ok _ => exact .transferred username hroute (hint.after hb)
      | error e =>
        cases hint with
        | refused _ booked =>
          exact .refused (hb.opened booked) fun hext => absurd hroute (hext.route username)
    next inboundName _ =>
      refine payLightning_spec _ _ ⟨hb, hdb₂.trans hdb, hsame.trans hsame₂, hout, houtc, hbal, hadm,
        hknown, hpos, hconn, hpayer⟩
  next hno =>
    refine .refused hb ?_
    rintro - ⟨_, _, _, _, _, _, _, h⟩
    obtain ⟨hflag, hsome⟩ := h.payer
    obtain ⟨payer, hpayer⟩ := Option.isSome_iff_exists.mp hsome
    exact hno payer (by rw [if_pos hflag, hpayer])

/-! ## The result of a payment -/

/-- What a refund gives back to the user: the exchanged total, or the total itself. -/
def IsRefundOf (res : PaymentResult) (refund : Decimal) : Prop :=
  if res.currency ≠ .BTC then
    ∃ m, res.amount.exchange res.rate = .ok (.ok m) ∧ refund = m.value
  else refund = res.amount.value

/-- An amount of bitcoin, from the bank to the dealer. -/
def feeBookings (b d : AccountId) (x : Decimal) : List Booking :=
  [⟨(.bank, b), .BTC, -x⟩, ⟨(.dealer, d), .BTC, x⟩]

/-- The amount `excess` was moved, or it was not: there was none, or a database call failed. -/
def ExcessMoved (env : Env) (s : State) (excess : Decimal) (ps : List Booking) : Prop :=
  (ps = [] ∧ (DbSucceeds env s → (Money.new .BTC excess).value ≤ 0)) ∨
    ∃ b d, ps = feeBookings b d (Money.new .BTC excess).value

/-- What is left of the total when the amount and the fee are paid is moved to the dealer. -/
def FeesMoved (env : Env) (res : PaymentResult) (s : State) (ps : List Booking) : Prop :=
  ∃ paid fees, res.paymentResponse.amount = some paid ∧ res.paymentResponse.fees = some fees ∧
    ExcessMoved env s (res.amount.value - (paid.value + fees.value)) ps

/-- The external account of the bank gives away the amount `excess`, if no database call fails. -/
def ExcessReleased (env : Env) (excess : Decimal) (s s' : State) : Prop :=
  ∃ x, ShiftsExternal (-x) s s' ∧ (DbSucceeds env s → x = (Money.new .BTC excess).value)

/-- What is left of the total is not negative, and leaves the external account. -/
def FeesReleased (env : Env) (res : PaymentResult) (s s' : State) : Prop :=
  ∃ paid fees, res.paymentResponse.amount = some paid ∧ res.paymentResponse.fees = some fees ∧
    0 ≤ res.amount.value - (paid.value + fees.value) ∧
    ExcessReleased env (res.amount.value - (paid.value + fees.value)) s s'

theorem ExcessReleased.after {excess : Decimal} {s₀ s' s'' : State}
    (h : ExcessReleased env excess s s') (hb : Booked env s₀ [] s) (hl : s''.ledger = s'.ledger) :
    ExcessReleased env excess s₀ s'' := by
  obtain ⟨x, hx, hall⟩ := h
  have hshift := (hb.shiftsExternal.trans hx).after hl
  rw [zero_add] at hshift
  exact ⟨x, hshift, fun hd => hall (hb.healthy hd)⟩

theorem FeesMoved.bookings {res : PaymentResult} {ps : List Booking} (h : FeesMoved env res s ps) :
    ps = [] ∨ ∃ b d x, ps = [⟨(.bank, b), .BTC, -x⟩, ⟨(.dealer, d), .BTC, x⟩] := by
  obtain ⟨paid, fees, -, -, hnone | hmoved⟩ := h
  · exact .inl hnone.1
  · obtain ⟨b, d, hps⟩ := hmoved
    exact .inr ⟨b, d, _, hps⟩

theorem FeesMoved.after {res : PaymentResult} {s₀ : State} {ps : List Booking}
    (h : FeesMoved env res s ps) (hb : Booked env s₀ [] s) : FeesMoved env res s₀ ps := by
  obtain ⟨paid, fees, hpaid, hfees, hnone | hmoved⟩ := h
  · exact ⟨paid, fees, hpaid, hfees, .inl ⟨hnone.1, fun hd => hnone.2 (hb.healthy hd)⟩⟩
  · exact ⟨paid, fees, hpaid, hfees, .inr hmoved⟩

/-- What the result of a payment does to the books. -/
inductive ResultOutcome (env : Env) (res : PaymentResult) (s s' : State) : Prop
  | ignored (booked : Booked env s [] s')
      (reason : DbSucceeds env s → s.ledger.hasUser res.uid = true →
        res.isSuccess = false ∧ ∃ refund, IsRefundOf res refund ∧ refund ≤ 0)
  /-- The payment went through: the unused fee goes from the bank to the dealer. -/
  | settled (s₁ : State) (ps : List Booking) (success : res.isSuccess = true)
      (fees : FeesMoved env res s ps)
      (booked : Booked env s ps s₁)
      (rest : Noted s₁ s' ∨ ∃ pr invoice fees, s₁.db.invoiceByPaymentRequest pr = some invoice ∧
        Settles env { settleInvoice env invoice with fees } s₁ s')
  /-- The payment failed: the bookings of its debit, with opposite amounts. -/
  | refunded (h : HoldAccounts) (refund : Decimal) (s₁ : State) (failed : res.isSuccess = false)
      (hrefund : IsRefundOf res refund) (positive : 0 < refund)
      (accounts : h.At s₁.ledger res.uid res.currency)
      (booked : Booked env s (h.bookings res.uid res.currency (-refund) (-res.amount.value)) s₁)
      (noted : Noted s₁ s')

/-- What is sent and noted afterwards changes nothing. -/
theorem ResultOutcome.noted {res : PaymentResult} {s s' s'' : State}
    (h : ResultOutcome env res s s') (hb : Booked env s' [] s'') (hn : Noted s' s'') :
    ResultOutcome env res s s'' := by
  cases h with
  | ignored booked reason => exact .ignored (booked.opened hb) reason
  | settled s₁ ps success fees booked rest =>
    refine .settled s₁ ps success fees booked ?_
    rcases rest with h | ⟨pr, invoice, fees, hi, hset⟩
    · exact .inl (h.trans hn)
    · exact .inr ⟨pr, invoice, fees, hi, hset.noted hn⟩
  | refunded h refund s₁ failed hrefund positive accounts booked noted =>
    exact .refunded h refund s₁ failed hrefund positive accounts booked (noted.trans hn)

/-- The books after a payment that went through: the unused fee, and nothing else. -/
theorem ResultOutcome.of_success {res : PaymentResult} {s' : State} (h : ResultOutcome env res s s')
    (hsuccess : res.isSuccess = true) :
    (Moves s.ledger [] s'.ledger ∧ (s.ledger.hasUser res.uid = true → ¬DbSucceeds env s)) ∨
      ∃ ps, FeesMoved env res s ps ∧ Moves s.ledger ps s'.ledger := by
  cases h with
  | ignored booked reason =>
    refine .inl ⟨booked.moves, fun huser hd => ?_⟩
    have hfail := (reason hd huser).1
    rw [hsuccess] at hfail
    exact absurd hfail (by simp)
  | refunded _ _ _ failed _ _ _ _ _ =>
    rw [hsuccess] at failed
    exact absurd failed (by simp)
  | settled s₁ ps _ fees booked rest =>
    have hl : s'.ledger = s₁.ledger := by
      rcases rest with hn | ⟨_, _, _, _, hset⟩
      · exact hn.ledger
      · exact hset.ledger
    rw [hl]
    exact .inr ⟨ps, fees, booked.moves⟩

theorem moveExcessFees_spec {liabilities dealerBtc : Account} {excess : Decimal}
    (hexcess : 0 ≤ excess)
    (hli : s.ledger.get (.bank, liabilities.accountId) = some liabilities)
    (hlic : liabilities.currency = .BTC) (hlit : liabilities.accountType = .external)
    (hdb : s.ledger.get (.dealer, dealerBtc.accountId) = some dealerBtc)
    (hdbc : dealerBtc.currency = .BTC) (hdbt : dealerBtc.accountType = .internal) :
    Ensures (moveExcessFees env excess liabilities dealerBtc) s fun _ s' =>
      (∃ ps : List Booking, ExcessMoved env s excess ps ∧ Booked env s ps s') ∧
        ExcessReleased env excess s s' := by
  refine Ensures.ite (fun hle => ?_) fun _ => ?_
  · refine ⟨⟨[], .inl ⟨rfl, fun _ => Decimal.roundToZero_nonpos hle⟩, .refl env s⟩,
      0, ?_, fun _ => ?_⟩
    · rw [neg_zero]
      exact .of_ledger rfl
    · exact le_antisymm (Decimal.roundToZero_nonneg hexcess) (Decimal.roundToZero_nonpos hle)
  refine (makeTx_spec _ _ _ _ _ _).bind ?_
  intro r s₁ htx
  split
  next liabilities' dealerBtc' txid =>
    obtain ⟨-, -, -, rfl, rfl⟩ := htx.stored txid rfl
    have hli := htx.booked.keeps hli
    have hdb := htx.booked.keeps hdb
    have houtside : s₁.ledger.Holds (.bank, liabilities.accountId) .BTC (some .external) :=
      .of_get hli hlic hlit
    have hinside : s₁.ledger.Holds (.dealer, dealerBtc.accountId) .BTC (some .internal) :=
      .of_get hdb hdbc hdbt
    refine (putAccount_spec _ _).bind ?_
    intro _ s₂ h₂
    refine (putAccount_spec _ _).bind ?_
    intro _ s₃ h₃
    subst h₂ h₃
    have hw := Booked.writeBack (s := s₁) env
      [⟨.bank, liabilities, -(Money.new .BTC excess).value⟩,
        ⟨.dealer, dealerBtc, (Money.new .BTC excess).value⟩]
      (by simp [Write.ref, hli, hdb]) (by simp [Write.ref])
    simp only [List.map_cons, List.map_nil, Write.booking, Write.ref, hlic, hdbc] at hw
    refine (updateAccount_spec _ _).bind ?_
    intro _ s₄ hspec
    obtain ⟨h₄, -⟩ := hspec
    refine (updateAccount_spec _ _).bind ?_
    intro _ s₅ hspec
    obtain ⟨h₅, -⟩ := hspec
    have hwritten := ((hw.opened h₄).opened h₅).moves
    have hb := ((htx.booked.trans hw).opened h₄).opened h₅
    refine ⟨⟨_, .inr ⟨_, _, rfl⟩, hb⟩, _, .of_moves hb.moves ?_, fun _ => rfl⟩
    simp [(hwritten.holds houtside).weight_external, (hwritten.holds hinside).weight_internal,
      Owner.weight]
  next hno =>
    have hnone : DbSucceeds env s → (Money.new .BTC excess).value ≤ 0 := by
      intro hd
      by_contra hpos
      obtain ⟨txid, hok⟩ := htx.succeeds (not_le.mp hpos) (by rw [hlic, hdbc]) (hd.txStored 0 0)
      exact hno _ _ _ (by rw [← hok])
    refine ⟨⟨[], .inl ⟨rfl, hnone⟩, htx.booked⟩, 0, ?_, fun hd => ?_⟩
    · rw [neg_zero]
      exact htx.booked.shiftsExternal
    · exact le_antisymm (Decimal.roundToZero_nonneg hexcess) (hnone hd)

theorem settlePayment_spec {res : PaymentResult} {liabilities dealerBtc : Account}
    (hli : s.ledger.get (.bank, liabilities.accountId) = some liabilities)
    (hlic : liabilities.currency = .BTC) (hlit : liabilities.accountType = .external)
    (hdb : s.ledger.get (.dealer, dealerBtc.accountId) = some dealerBtc)
    (hdbc : dealerBtc.currency = .BTC) (hdbt : dealerBtc.accountType = .internal) :
    Ensures (settlePayment env res liabilities dealerBtc) s fun _ s' =>
      (∃ (s₁ : State) (ps : List Booking), FeesMoved env res s ps ∧ Booked env s ps s₁ ∧
        (Noted s₁ s' ∨ ∃ pr invoice fees, s₁.db.invoiceByPaymentRequest pr = some invoice ∧
          Settles env { settleInvoice env invoice with fees } s₁ s')) ∧
      FeesReleased env res s s' := by
  unfold settlePayment
  refine Ensures.lift_bind fun paid hpaid => Ensures.lift_bind fun feesPaid hfees => ?_
  refine Ensures.lift_bind fun spent hspent => Ensures.lift_bind fun excess hexcess => ?_
  obtain ⟨-, rfl⟩ := Decimal.add_eq_ok.mp hspent
  obtain ⟨-, rfl⟩ := Decimal.sub_eq_ok.mp hexcess
  refine Ensures.ite (fun _ => Ensures.panic _) fun hneg => ?_
  have hpaid := Checked.unwrap_eq_ok.mp hpaid
  have hfees := Checked.unwrap_eq_ok.mp hfees
  have hexcess := not_lt.mp hneg
  refine (moveExcessFees_spec hexcess hli hlic hlit hdb hdbc hdbt).bind fun moved s₁ h => ?_
  obtain ⟨⟨ps, hmoved, hb⟩, hreleased⟩ := h
  have hps : FeesMoved env res s ps := ⟨paid, feesPaid, hpaid, hfees, hmoved⟩
  have hleft : ∀ {s'}, s'.ledger = s₁.ledger → FeesReleased env res s s' := fun hl =>
    ⟨paid, feesPaid, hpaid, hfees, hexcess, hreleased.after (.refl env s) hl⟩
  refine Ensures.ite (fun _ => ⟨⟨s₁, ps, hps, hb, .inl (.refl s₁)⟩, hleft rfl⟩) fun _ => ?_
  split
  next pr _ =>
    refine (findInvoice_spec _ _).bind ?_
    intro found s₂ hspec
    obtain ⟨rfl, hfound, -⟩ := hspec
    cases found with
    | none => exact ⟨⟨s₂, ps, hps, hb, .inl (.refl s₂)⟩, hleft rfl⟩
    | some invoice =>
      refine Ensures.lift_bind fun sats _ => Ensures.lift_bind fun sats _ => ?_
      refine Ensures.lift_bind fun fees _ => ?_
      refine (updateInvoice_spec _).bind ?_
      intro _ s₃ hset
      exact ⟨⟨s₂, ps, hps, hb, .inr ⟨pr, invoice, some fees, hfound invoice rfl, hset⟩⟩,
        hleft hset.ledger⟩
  next => exact Ensures.panic _

theorem refundFiat_spec {res : PaymentResult} {refund : Money} {liabilities inbound : Account}
    (hfiat : res.currency ≠ .BTC) (hpos : 0 < res.amount.value)
    (hli : s.ledger.get (.bank, liabilities.accountId) = some liabilities)
    (hlic : liabilities.currency = .BTC) (hlit : liabilities.accountType = .external)
    (hin : s.ledger.get (.user res.uid, inbound.accountId) = some inbound)
    (hinc : inbound.currency = res.currency) :
    Ensures (refundFiat env res refund liabilities inbound) s fun _ s' =>
      (Booked env s [] s' ∧ (DbSucceeds env s → refund.value ≤ 0)) ∨
      ∃ (h : HoldAccounts) (s₁ : State), 0 < refund.value ∧ h.At s₁.ledger res.uid res.currency ∧
        Booked env s (h.bookings res.uid res.currency (-refund.value) (-res.amount.value)) s₁ ∧
        Noted s₁ s' := by
  unfold refundFiat
  dsimp only
  refine (getDealerAccount_spec _ _).bind ?_
  intro btcAcc s₁ hspec
  obtain ⟨h₁, hdb, hdbc, hdbt, -⟩ := hspec
  refine (getDealerAccount_spec _ _).bind ?_
  intro fiatAcc s₂ hspec
  obtain ⟨h₂, hdf, hdfc, hdft, -⟩ := hspec
  have hb := h₁.opened h₂
  have hdb := h₂.keeps hdb
  refine (makeTx_spec _ _ _ _ _ _).bind ?_
  intro r s₃ htx
  split
  next liabilities' btcAcc' outboundTxid =>
    obtain ⟨-, -, -, rfl, rfl⟩ := htx.stored outboundTxid rfl
    have hb := hb.opened htx.booked
    refine (makeTx_spec _ _ _ _ _ _).bind ?_
    intro r s₄ htx'
    have hb' := hb.opened htx'.booked
    split
    next fiatAcc' inbound' inboundTxid =>
      obtain ⟨hv, -, -, rfl, rfl⟩ := htx'.stored inboundTxid rfl
      have hin := hb'.keeps hin
      have hli := hb'.keeps hli
      have hdf := htx'.booked.keeps (htx.booked.keeps hdf)
      have hdb := htx'.booked.keeps (htx.booked.keeps hdb)
      refine (putAccount_spec _ _).bind ?_
      intro _ s₅ h₅
      refine (putAccount_spec _ _).bind ?_
      intro _ s₆ h₆
      refine (putAccount_spec _ _).bind ?_
      intro _ s₇ h₇
      refine (insertIntoLedger_spec _ _).bind ?_
      intro _ s₈ h₈
      subst h₅ h₆ h₇ h₈
      have hne : btcAcc.accountId ≠ fiatAcc.accountId := fun e =>
        Ledger.ref_ne_of_currency hdb hdf (by rw [hdbc, hdfc]; exact hfiat.symm) (by rw [e])
      have hw := Booked.writeBack (s := s₄) env
        [⟨.bank, liabilities, -res.amount.value⟩, ⟨.dealer, btcAcc, res.amount.value⟩,
          ⟨.dealer, fiatAcc, -refund.value⟩, ⟨.user res.uid, inbound, refund.value⟩]
        (by simp [Write.ref, hin, hli, hdf, hdb]) (by simp [Write.ref, hne])
      simp only [List.map_cons, List.map_nil, Write.booking, Write.ref, hinc, hlic, hdfc,
        hdbc] at hw
      have hat : HoldAccounts.At ⟨inbound.accountId, liabilities.accountId, fiatAcc.accountId,
          btcAcc.accountId⟩ s₄.ledger res.uid res.currency :=
        ⟨⟨_, hin, hinc, by simp⟩, ⟨_, hli, hlic, by simp [hlit]⟩,
          fun _ => ⟨_, hdf, hdfc, by simp [hdft]⟩, fun _ => ⟨_, hdb, hdbc, by simp [hdbt]⟩⟩
      have hat := hat.moves hw.moves
      have hb := hb'.trans hw
      refine (updateAccount_spec _ _).bind ?_
      intro _ s₉ hspec
      obtain ⟨h₉, -⟩ := hspec
      refine (updateAccount_spec _ _).bind ?_
      intro _ s₁₀ hspec
      obtain ⟨h₁₀, -⟩ := hspec
      refine (updateAccount_spec _ _).bind ?_
      intro _ s₁₁ hspec
      obtain ⟨h₁₁, -⟩ := hspec
      refine (updateAccount_spec _ _).bind ?_
      intro _ s₁₂ hspec
      obtain ⟨h₁₂, -⟩ := hspec
      have hupd := ((h₉.opened h₁₀).opened h₁₁).opened h₁₂
      have hb := hb.opened hupd
      have hat := hat.moves hupd.moves
      have hb : Booked env s (HoldAccounts.bookings ⟨inbound.accountId, liabilities.accountId,
          fiatAcc.accountId, btcAcc.accountId⟩ res.uid res.currency (-refund.value)
          (-res.amount.value)) s₁₂ := by
        refine { hb with moves := hb.moves.perm ?_ }
        unfold HoldAccounts.bookings
        rw [if_pos hfiat, neg_neg, neg_neg]
        -- written back in the order bank, dealer, dealer, user
        exact (List.perm_append_singleton _ [_, _, _]).trans (.cons _ (.cons _ (.swap _ _ [])))
      refine (makeSummaryTx_spec _).bind ?_
      intro r s₁₃ hspec
      obtain ⟨hn, -, -⟩ := hspec
      split
      next => exact .inr ⟨_, s₁₂, hv, hat, hb, hn⟩
      next => exact .inr ⟨_, s₁₂, hv, hat, hb, hn⟩
    next hno =>
      refine .inl ⟨hb', fun hd => ?_⟩
      by_contra hv
      obtain ⟨txid, hok⟩ := htx'.succeeds (not_le.mp hv) (by rw [hdfc, hinc])
        ((hb.healthy hd).txStored 1 0)
      exact hno _ _ _ (by rw [← hok])
  next hno =>
    refine .inl ⟨hb.opened htx.booked, fun hd => ?_⟩
    obtain ⟨txid, hok⟩ := htx.succeeds hpos (by rw [hdbc, hlic]) ((hb.healthy hd).txStored 0 0)
    exact absurd (by rw [← hok]) (hno _ _ txid)

theorem refundBtc_spec {res : PaymentResult} {liabilities inbound : Account}
    (hbtc : res.currency = .BTC) (hpos : 0 < res.amount.value)
    (hli : s.ledger.get (.bank, liabilities.accountId) = some liabilities)
    (hlic : liabilities.currency = .BTC) (hlit : liabilities.accountType = .external)
    (hin : s.ledger.get (.user res.uid, inbound.accountId) = some inbound)
    (hinc : inbound.currency = res.currency) :
    Ensures (refundBtc env res liabilities inbound) s fun _ s' =>
      (Booked env s [] s' ∧ ¬DbSucceeds env s) ∨
      ∃ (h : HoldAccounts) (s₁ : State), h.At s₁.ledger res.uid res.currency ∧
        Booked env s (h.bookings res.uid res.currency (-res.amount.value) (-res.amount.value)) s₁ ∧
        Noted s₁ s' := by
  unfold refundBtc
  dsimp only
  refine (makeTx_spec _ _ _ _ _ _).bind ?_
  intro r s₁ htx
  have hb := htx.booked
  split
  next liabilities' inbound' txid =>
    obtain ⟨hv, -, hst, rfl, rfl⟩ := htx.stored txid rfl
    have hin := hb.keeps hin
    have hli := hb.keeps hli
    refine (putAccount_spec _ _).bind ?_
    intro _ s₂ h₂
    refine (insertIntoLedger_spec _ _).bind ?_
    intro _ s₃ h₃
    subst h₂ h₃
    have hw := Booked.writeBack (s := s₁) env
      [⟨.bank, liabilities, -res.amount.value⟩, ⟨.user res.uid, inbound, res.amount.value⟩]
      (by simp [Write.ref, hin, hli]) (by simp [Write.ref])
    simp only [List.map_cons, List.map_nil, Write.booking, Write.ref, hinc, hbtc, hlic] at hw
    have hat : HoldAccounts.At ⟨inbound.accountId, liabilities.accountId, 0, 0⟩ s₁.ledger
        res.uid res.currency :=
      ⟨⟨_, hin, hinc, by simp⟩, ⟨_, hli, hlic, by simp [hlit]⟩, fun hf => absurd hbtc hf,
        fun hf => absurd hbtc hf⟩
    have hat := hat.moves hw.moves
    have hb := hb.trans hw
    refine (updateAccount_spec _ _).bind ?_
    intro _ s₄ hspec
    obtain ⟨h₄, -⟩ := hspec
    refine (updateAccount_spec _ _).bind ?_
    intro _ s₅ hspec
    obtain ⟨h₅, -⟩ := hspec
    have hb := hb.opened (h₄.opened h₅)
    have hat := hat.moves (h₄.opened h₅).moves
    have hb : Booked env s (HoldAccounts.bookings ⟨inbound.accountId, liabilities.accountId, 0, 0⟩
        res.uid res.currency (-res.amount.value) (-res.amount.value)) s₅ := by
      unfold HoldAccounts.bookings
      rw [if_neg (not_not.mpr hbtc), neg_neg]
      exact hb
    refine (makeSummaryTx_spec _).bind ?_
    intro r s₆ hspec
    obtain ⟨hn, -, -⟩ := hspec
    split
    next => exact .inr ⟨_, s₅, hat, hb, hn⟩
    next => exact .inr ⟨_, s₅, hat, hb, hn⟩
  next hno =>
    refine .inl ⟨hb, fun hd => ?_⟩
    obtain ⟨txid, hok⟩ := htx.succeeds hpos (by rw [hinc, hlic, hbtc]) (hd.txStored 0 0)
    exact hno _ _ _ (by rw [← hok])

/-- What is released, if the user is known and no database call fails, when a payment
that went through is handled. -/
def ReleasesFees (env : Env) (res : PaymentResult) (s s' : State) : Prop :=
  res.isSuccess = true → s.ledger.hasUser res.uid = true → DbSucceeds env s →
    FeesReleased env res s s'

theorem paymentResult_accounts (res : PaymentResult) :
    Ensures (paymentResult env res) s fun _ s' =>
      ResultOutcome env res s s' ∧ ReleasesFees env res s s' := by
  unfold paymentResult
  refine Ensures.ite (fun _ => Ensures.panic _) fun hpos => ?_
  have hpos : 0 < res.amount.value := not_le.mp hpos
  refine Ensures.ite (fun hno => ?_) fun _ => ?_
  · have hlost : ¬DbSucceeds env s := by
      intro hd
      rw [hd.calls] at hno
      exact absurd hno (by simp)
    exact ⟨.ignored (.refl env s) fun hd => absurd hd hlost, fun _ _ hd => absurd hd hlost⟩
  refine getLiabilityAccount_spec.bind ?_
  intro liabilities s₁ hspec
  obtain ⟨h₁, hli, hlic, hlit, -⟩ := hspec
  refine Ensures.get_bind (Ensures.ite (fun hno => ?_) fun _ => ?_)
  · have hlost : ¬s.ledger.hasUser res.uid = true := by
      intro hu
      rw [h₁.moves.hasUser hu] at hno
      exact absurd hno (by simp)
    exact ⟨.ignored h₁ fun _ hu => absurd hu hlost, fun _ hu => absurd hu hlost⟩
  refine (getDefaultAccount_spec _ _ _).bind ?_
  intro inbound s₂ hspec
  obtain ⟨h₂, hin, hinc, -⟩ := hspec
  refine (getDealerAccount_spec _ _).bind ?_
  intro dealerBtc s₃ hspec
  obtain ⟨h₃, hdb, hdbc, hdbt, -⟩ := hspec
  have hb := (h₁.opened h₂).opened h₃
  have hin := h₃.keeps hin
  have hli := h₃.keeps (h₂.keeps hli)
  -- all that books anything is done before the answer is sent
  refine Ensures.bind (R := fun _ s' => ResultOutcome env res s s' ∧ ReleasesFees env res s s')
    ?_ ?_
  · cases hsucc : res.isSuccess with
    | true =>
      rw [if_pos rfl]
      refine (settlePayment_spec hli hlic hlit hdb hdbc hdbt).mono fun _ s' h => ?_
      obtain ⟨⟨s₄, ps, hps, hbk, hrest⟩, paid, fees, hpaid, hfees, hexcess, hreleased⟩ := h
      exact ⟨.settled s₄ ps hsucc (hps.after hb) (hb.trans hbk) hrest,
        fun _ _ _ => ⟨paid, fees, hpaid, hfees, hexcess, hreleased.after hb rfl⟩⟩
    | false =>
      have hfailed : ∀ {s'}, ReleasesFees env res s s' := by
        intro s' h
        rw [hsucc] at h
        exact absurd h (by simp)
      rw [if_neg (by simp)]
      refine Ensures.lift_bind fun exchanged hex => Ensures.lift_bind fun refund hre => ?_
      have hex : res.amount.exchange res.rate = .ok (.ok refund) := by
        rw [hex, Checked.unwrapOk_eq_ok.mp hre]
      -- a failed payment: the refund is in the currency of the account
      refine Ensures.ite (fun hfiat => ?_) fun hbtc => ?_
      · have hrefund : IsRefundOf res refund.value := by
          unfold IsRefundOf
          rw [if_pos hfiat]
          exact ⟨refund, hex, rfl⟩
        refine (refundFiat_spec hfiat hpos hli hlic hlit hin hinc).mono fun _ s' h => ⟨?_, hfailed⟩
        rcases h with ⟨hbk, hle⟩ | ⟨h, s₄, hv, hat, hbk, hn⟩
        · exact .ignored (hb.opened hbk) fun hd _ => ⟨hsucc, _, hrefund, hle (hb.healthy hd)⟩
        · exact .refunded h refund.value s₄ hsucc hrefund hv hat (hb.trans hbk) hn
      · have hrefund : IsRefundOf res res.amount.value := by
          unfold IsRefundOf
          rw [if_neg hbtc]
        refine (refundBtc_spec (not_not.mp hbtc) hpos hli hlic hlit hin hinc).mono
          fun _ s' h => ⟨?_, hfailed⟩
        rcases h with ⟨hbk, hno⟩ | ⟨h, s₄, hat, hbk, hn⟩
        · exact .ignored (hb.opened hbk) fun hd _ => absurd (hb.healthy hd) hno
        · exact .refunded h res.amount.value s₄ hsucc hrefund hpos hat (hb.trans hbk) hn
  intro answered s₄ hspec
  obtain ⟨h₄, hreleased⟩ := hspec
  refine Ensures.ite (fun _ => ⟨h₄, hreleased⟩) fun _ => ?_
  refine (sendBankState_spec env).bind ?_
  intro _ s₅ hspec
  obtain ⟨h₅, n₅⟩ := hspec
  refine (sendApi_spec env _).mono fun _ s' h => ?_
  have hn := n₅.trans h.2
  refine ⟨h₄.noted (h₅.opened h.1) hn, fun hsucc hu hd => ?_⟩
  obtain ⟨paid, fees, hpaid, hfees, hexcess, hleft⟩ := hreleased hsucc hu hd
  exact ⟨paid, fees, hpaid, hfees, hexcess, hleft.after (.refl env s) hn.ledger⟩

theorem paymentResult_spec (res : PaymentResult) :
    Ensures (paymentResult env res) s fun _ s' => ResultOutcome env res s s' :=
  (paymentResult_accounts res).mono fun _ _ h => h.1

end Lndhubx
