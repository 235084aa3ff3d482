import Lndhubx.Bank.PaymentSpec

/-!
# What the other handlers book

A swap takes from one account of a user what it was asked for and puts the
exchanged amount on another, the dealer standing in between in both currencies.
A swap within one currency is always refused: the account it would take from is
the one it would pay into (`getDefaultAccount_again`).

Karma is the one message that books without a counterpart; all it does to users
is to credit them. The rest opens accounts at most, or, for the operator's
transfers, moves what it was told to.
-/

namespace Lndhubx

open Prog BankEngine

variable {cfg : Config} {env : Env} {s : State}

/-! ## Swaps and balances -/

/-- The account handed out is the one that is handed out again. -/
theorem getDefaultAccount_chosen (o : Owner) (currency : Currency) (t : Option AccountType) :
    Ensures (getDefaultAccount env o currency t) s fun a s' => ∃ rest,
      (env.order (s'.ledger.holder o).values).filter (isDefaultFor currency t) = a :: rest := by
  refine Ensures.get_bind ?_
  split
  next a rest hl => exact ⟨rest, hl⟩
  next hl =>
    -- nothing but the new account passes the filter
    generalize ha : Account.new (env.newUuid s.usedIds) currency (t.getD .internal) .cash = a
    have hdef : isDefaultFor currency t a = true := by
      rw [← ha]
      exact isDefaultFor_iff.mpr ⟨rfl, fun t' ht => by rw [ht]; rfl⟩
    show ∃ rest, (env.order ((s.ledger.put o a).holder o).values).filter _ = a :: rest
    rw [Ledger.holder_put_self]
    have honly : ∀ b ∈ (env.order ((s.ledger.holder o).insert a).values).filter
        (isDefaultFor currency t), b = a := by
      intro b hb
      obtain ⟨hb, hdefb⟩ := List.mem_filter.mp hb
      rcases UserAccount.mem_values_insert ((env.order_perm _).mem_iff.mp hb) with h | h
      · exact h
      · have hmem : b ∈ (env.order (s.ledger.holder o).values).filter (isDefaultFor currency t) :=
          List.mem_filter.mpr ⟨(env.order_perm _).mem_iff.mpr h, hdefb⟩
        rw [hl] at hmem
        exact absurd hmem (by simp)
    have hmem : a ∈ (env.order ((s.ledger.holder o).insert a).values).filter
        (isDefaultFor currency t) := by
      refine List.mem_filter.mpr ⟨(env.order_perm _).mem_iff.mpr ?_, hdef⟩
      exact UserAccount.mem_values_iff.mpr (AList.lookup_insert _)
    generalize (env.order ((s.ledger.holder o).insert a).values).filter
      (isDefaultFor currency t) = l at honly hmem
    cases l with
    | nil => exact absurd hmem (by simp)
    | cons b rest => exact ⟨rest, by rw [honly b (by simp)]⟩

/-- The same account is found the second time. -/
theorem getDefaultAccount_again {o : Owner} {currency : Currency} {t : Option AccountType}
    {a : Account} {rest : List Account}
    (h : (env.order (s.ledger.holder o).values).filter (isDefaultFor currency t) = a :: rest) :
    Ensures (getDefaultAccount env o currency t) s fun b _ => b = a := by
  refine Ensures.get_bind ?_
  split
  next b rest' hl =>
    rw [h] at hl
    injection hl with hl
    exact hl.symm
  next hl =>
    rw [h] at hl
    exact absurd hl (by simp)

/-- What a swap does to the books. -/
inductive SwapOutcome (env : Env) (msg : SwapResponse) (s s' : State) : Prop
  | refused (booked : Booked env s [] s')
  | swapped (u u' d d' : AccountId) (amount : Decimal)
      (covered : msg.amount.value ≤ s.ledger.balanceAt (.user msg.uid, u))
      (different : msg.fromCurrency ≠ msg.toCurrency)
      (positive : 0 < msg.amount.value ∧ 0 < amount)
      (posted : Posted s
        [⟨(.user msg.uid, u), msg.fromCurrency, -msg.amount.value⟩,
          ⟨(.user msg.uid, u'), msg.toCurrency, amount⟩,
          ⟨(.dealer, d), msg.toCurrency, -amount⟩,
          ⟨(.dealer, d'), msg.fromCurrency, msg.amount.value⟩] s')

/-- The dealer's accounts are internal ones. -/
theorem swapResponse_accounts (msg : SwapResponse) :
    Ensures (swapResponse env msg) s fun _ s' =>
      SwapOutcome env msg s s' ∧ ShiftsExternal 0 s s' := by
  have hrefused : ∀ {s'}, Booked env s [] s' → SwapOutcome env msg s s' ∧ ShiftsExternal 0 s s' :=
    fun hb => ⟨.refused hb, hb.shiftsExternal⟩
  unfold swapResponse
  refine Ensures.ite (fun _ => ?_) fun _ => ?_
  · exact (sendApi_spec env _).mono fun _ s' h => hrefused h.1
  refine Ensures.get_bind (Ensures.ite (fun _ => ?_) fun _ => ?_)
  · exact (sendApi_spec env _).mono fun _ s' h => hrefused h.1
  dsimp only
  split
  next rate _ =>
    refine Ensures.ite (fun _ => ?_) fun _ => ?_
    · exact (sendApi_spec env _).mono fun _ s' h => hrefused h.1
    refine ((getDefaultAccount_spec _ _ _).and (getDefaultAccount_chosen _ _ _)).bind ?_
    intro outbound s₁ hspec
    obtain ⟨⟨h₁, hout, houtc, -⟩, rest, hchosen⟩ := hspec
    refine Ensures.bind (R := fun inbound s' => Booked env s₁ [] s' ∧
      s'.ledger.get (.user msg.uid, inbound.accountId) = some inbound ∧
      inbound.currency = msg.toCurrency ∧
      (msg.fromCurrency = msg.toCurrency → inbound = outbound)) ?_ ?_
    · by_cases hsame : msg.fromCurrency = msg.toCurrency
      · rw [hsame] at hchosen
        exact ((getDefaultAccount_spec _ _ _).and (getDefaultAccount_again hchosen)).mono
          fun _ _ h => ⟨h.1.1, h.1.2.1, h.1.2.2.1, fun _ => h.2⟩
      · exact (getDefaultAccount_spec _ _ _).mono
          fun _ _ h => ⟨h.1, h.2.1, h.2.2.1, fun e => absurd e hsame⟩
    intro inbound s₂ hspec
    obtain ⟨h₂, hin, hinc, heq⟩ := hspec
    have hb := h₁.opened h₂
    refine Ensures.ite (fun _ => ?_) fun hne => ?_
    · exact (sendApi_spec env _).mono fun _ s' h => hrefused (hb.opened h.1)
    have hdiff : msg.fromCurrency ≠ msg.toCurrency := fun e => hne (by rw [heq e])
    refine (getDealerAccount_spec _ _).bind ?_
    intro outboundDealer s₃ hspec
    obtain ⟨h₃, hod, hodc, hodt, -⟩ := hspec
    refine (getDealerAccount_spec _ _).bind ?_
    intro inboundDealer s₄ hspec
    obtain ⟨h₄, hid, hidc, hidt, -⟩ := hspec
    have hb := (hb.opened h₃).opened h₄
    have hout := h₄.keeps (h₃.keeps (h₂.keeps hout))
    have hin := h₄.keeps (h₃.keeps hin)
    have hod := h₄.keeps hod
    refine Ensures.ite (fun _ => ?_) fun hcov => ?_
    · exact (sendApi_spec env _).mono fun _ s' h => hrefused (hb.opened h.1)
    -- opening accounts has not changed what the account covers
    have hcov : msg.amount.value ≤ s.ledger.balanceAt (.user msg.uid, outbound.accountId) := by
      have hbal := hb.moves.balanceAt (.user msg.uid, outbound.accountId)
      rw [Posting.sumAt_nil, add_zero] at hbal
      rw [← hbal]
      unfold Ledger.balanceAt
      rw [hout]
      exact not_lt.mp hcov
    refine (makeTx_spec _ _ _ _ _ _).bind ?_
    intro r s₅ htx
    have hb := hb.opened htx.booked
    split
    next outbound' inboundDealer' outboundTxid =>
      obtain ⟨hv, -, -, rfl, rfl⟩ := htx.stored outboundTxid rfl
      refine Ensures.lift_bind fun exchanged _ => Ensures.lift_bind fun amount _ => ?_
      refine (makeTx_spec _ _ _ _ _ _).bind ?_
      intro r s₆ htx'
      have hb := hb.opened htx'.booked
      split
      next outboundDealer' inbound' inboundTxid =>
        obtain ⟨hv', -, -, rfl, rfl⟩ := htx'.stored inboundTxid rfl
        have hout := htx'.booked.keeps (htx.booked.keeps hout)
        have hin := htx'.booked.keeps (htx.booked.keeps hin)
        have hod := htx'.booked.keeps (htx.booked.keeps hod)
        have hid := htx'.booked.keeps (htx.booked.keeps hid)
        have hinside : s₆.ledger.Holds (.dealer, outboundDealer.accountId) msg.toCurrency
            (some .internal) := .of_get hod hodc hodt
        have hinside' : s₆.ledger.Holds (.dealer, inboundDealer.accountId) msg.fromCurrency
            (some .internal) := .of_get hid hidc hidt
        refine (insertIntoLedger_spec _ _).bind ?_
        intro _ s₇ h₇
        refine (insertIntoLedger_spec _ _).bind ?_
        intro _ s₈ h₈
        refine (putAccount_spec _ _).bind ?_
        intro _ s₉ h₉
        refine (putAccount_spec _ _).bind ?_
        intro _ s₁₀ h₁₀
        subst h₇ h₈ h₉ h₁₀
        -- the dealer's two accounts are of different currencies
        have hned : outboundDealer.accountId ≠ inboundDealer.accountId := fun e =>
          Ledger.ref_ne_of_currency hod hid (by rw [hodc, hidc]; exact hdiff.symm) (by rw [e])
        have hw := Booked.writeBack (s := s₆) env
          [⟨.user msg.uid, outbound, -msg.amount.value⟩, ⟨.user msg.uid, inbound, amount.value⟩,
            ⟨.dealer, outboundDealer, -amount.value⟩,
            ⟨.dealer, inboundDealer, msg.amount.value⟩]
          (by simp [Write.ref, hout, hin, hod, hid]) (by simp [Write.ref, hne, hned])
        simp only [List.map_cons, List.map_nil, Write.booking, Write.ref, houtc, hinc, hodc,
          hidc] at hw
        have hb := hb.trans hw
        refine (updateAccount_spec _ _).bind ?_
        intro _ s₁₁ hspec
        obtain ⟨h₁₁, -⟩ := hspec
        refine (updateAccount_spec _ _).bind ?_
        intro _ s₁₂ hspec
        obtain ⟨h₁₂, -⟩ := hspec
        refine (updateAccount_spec _ _).bind ?_
        intro _ s₁₃ hspec
        obtain ⟨h₁₃, -⟩ := hspec
        refine (updateAccount_spec _ _).bind ?_
        intro _ s₁₄ hspec
        obtain ⟨h₁₄, -⟩ := hspec
        refine (sendApi_spec env _).bind ?_
        intro _ s₁₅ hspec
        obtain ⟨h₁₅, -⟩ := hspec
        refine (sendBankState_spec env).bind ?_
        intro _ s₁₆ hspec
        obtain ⟨h₁₆, -⟩ := hspec
        have hb := (((((hb.opened h₁₁).opened h₁₂).opened h₁₃).opened h₁₄).opened h₁₅).opened h₁₆
        have hwritten := ((((((hw.opened h₁₁).opened h₁₂).opened h₁₃).opened h₁₄).opened
          h₁₅).opened h₁₆).moves
        refine (makeSummaryTx_spec _).bind ?_
        intro _ s' hspec
        obtain ⟨hn, -⟩ := hspec
        refine ⟨.swapped _ _ _ _ amount.value hcov hdiff ⟨hv, hv'⟩ (hb.posted.trans hn.posted), ?_⟩
        -- both accounts of the dealer are internal, so nothing is shifted
        refine ShiftsExternal.after (.of_moves hb.moves ?_) hn.ledger
        simp [(hwritten.holds hinside).weight_internal, (hwritten.holds hinside').weight_internal]
      next => exact (sendApi_spec env _).mono fun _ s' h => hrefused (hb.opened h.1)
    next => exact (sendApi_spec env _).mono fun _ s' h => hrefused (hb.opened h.1)
  next => exact (sendApi_spec env _).mono fun _ s' h => hrefused h.1

/-- What a swap does, in every case. -/
theorem swapResponse_spec (msg : SwapResponse) :
    Ensures (swapResponse env msg) s fun _ s' => SwapOutcome env msg s s' :=
  (swapResponse_accounts msg).mono fun _ _ h => h.1

/-- To open accounts books nothing. -/
theorem openAvailable_spec (uid : UserId) (currencies : List Currency) :
    Ensures (openAvailable env uid currencies) s fun _ s' => Booked env s [] s' := by
  refine Ensures.forM (fun c s₁ h₁ => ?_) currencies (.refl env s)
  refine (getDefaultAccount_spec _ _ _).bind ?_
  intro a s₂ hspec
  obtain ⟨h₂, -⟩ := hspec
  exact h₁.opened h₂

/-- The answer carries the id and the user of the request. -/
theorem getBalances_spec (msg : GetBalances) :
    Ensures (getBalances env msg) s fun _ s' =>
      ∃ s₁ b destination, Booked env s [] s₁ ∧ b.reqId = msg.reqId ∧ b.uid = msg.uid ∧
        destination ≠ .loopback ∧
        s' = { s₁ with sent := s₁.sent ++ [(.api (.balances b), destination)] } := by
  refine (openUser_spec env _).bind ?_
  intro _ s₁ hspec
  obtain ⟨h₁, -⟩ := hspec
  refine Ensures.get_bind ((openAvailable_spec _ _).bind ?_)
  intro _ s₂ h₂
  refine Ensures.get_bind (Ensures.ite (fun _ => ?_) fun _ => ?_)
  · exact ⟨s₂, _, _, h₁.opened h₂, rfl, rfl, by decide, rfl⟩
  · exact ⟨s₂, _, _, h₁.opened h₂, rfl, rfl, by decide, rfl⟩

/-- Nor does asking the node. -/
theorem getNodeInfo_spec (msg : GetNodeInfoRequest) :
    Ensures (getNodeInfo cfg env msg) s fun _ s' => Booked env s [] s' :=
  (sendApi_spec env _).mono fun _ _ h => h.1

/-! ## LNURL withdrawals -/

/-- A withdrawal is kept for a positive amount, in fiat only with its rate, and
the message changes nothing else. -/
theorem createLnurlWithdrawal_spec (msg : CreateLnurlWithdrawalRequest) :
    Ensures (createLnurlWithdrawal cfg env msg) s fun _ s' =>
      Booked env s [] { s' with lnurlWithdrawalRequests := s.lnurlWithdrawalRequests } ∧
      (s'.lnurlWithdrawalRequests = s.lnurlWithdrawalRequests ∨
        0 < msg.amount.value ∧ (msg.currency ≠ .BTC → msg.rate.isSome = true) ∧
        s'.lnurlWithdrawalRequests =
          s.lnurlWithdrawalRequests.insert msg.reqId (env.now .lnurl, msg.paymentRequest)) := by
  -- what has been done when the request is refused
  have hkeep : ∀ s', Booked env s [] s' →
      Booked env s [] { s' with lnurlWithdrawalRequests := s.lnurlWithdrawalRequests } ∧
      (s'.lnurlWithdrawalRequests = s.lnurlWithdrawalRequests ∨
        0 < msg.amount.value ∧ (msg.currency ≠ .BTC → msg.rate.isSome = true) ∧
        s'.lnurlWithdrawalRequests =
          s.lnurlWithdrawalRequests.insert msg.reqId (env.now .lnurl, msg.paymentRequest)) := by
    intro s' h
    have heq : { s' with lnurlWithdrawalRequests := s.lnurlWithdrawalRequests } = s' := by
      rw [← h.lnurl]
    rw [heq]
    exact ⟨h, .inl h.lnurl⟩
  unfold createLnurlWithdrawal
  dsimp only
  refine Ensures.ite (fun _ => ?_) fun hpos => ?_
  · exact (sendApi_spec env _).mono fun _ s' h => hkeep s' h.1
  refine Ensures.get_bind (Ensures.ite (fun _ => ?_) fun _ => ?_)
  · exact (sendApi_spec env _).mono fun _ s' h => hkeep s' h.1
  refine (getDefaultAccount_spec _ _ _).bind ?_
  intro outbound s₁ hspec
  obtain ⟨h₁, -⟩ := hspec
  refine Ensures.ite (fun _ => ?_) fun hrate => ?_
  · exact (send_spec env _ _).mono fun _ s' h => hkeep s' (h₁.opened h.1)
  refine Ensures.ite (fun _ => ?_) fun _ => ?_
  · exact (sendApi_spec env _).mono fun _ s' h => hkeep s' (h₁.opened h.1)
  split
  next lnurl _ =>
    have hrate : msg.currency ≠ .BTC → msg.rate.isSome = true := by
      intro hne
      by_contra hno
      exact hrate ⟨hne, by simpa using hno⟩
    refine Ensures.modify_bind ⟨?_, .inr ⟨not_le.mp hpos, hrate, ?_⟩⟩
    · exact (hkeep _ (h₁.opened (sendApi_spec env (.createLnurlWithdrawalResponse
        { reqId := msg.reqId, lnurl := some lnurl, error := none })).1)).1
    · show s₁.lnurlWithdrawalRequests.insert _ _ = _
      rw [h₁.lnurl]
  next => exact (sendApi_spec env _).mono fun _ s' h => hkeep s' (h₁.opened h.1)

/-- Nor does telling of a withdrawal. -/
theorem getLnurlWithdrawal_spec (msg : GetLnurlWithdrawalRequest) :
    Ensures (getLnurlWithdrawal cfg msg) s fun _ s' => Booked env s [] s' := by
  refine Ensures.get_bind ?_
  split
  next => exact (sendApi_spec env _).mono fun _ _ h => h.1
  next =>
    refine Ensures.lift_bind fun r _ => ?_
    split
    next => exact (sendApi_spec env _).mono fun _ _ h => h.1
    next => exact (sendApi_spec env _).mono fun _ _ h => h.1

/-- A withdrawal that is paid is taken out, and its request, with the invoice
presented, is put on the loopback queue. -/
theorem payLnurlWithdrawal_spec (env : Env) (msg : PayLnurlWithdrawalRequest) :
    Ensures (payLnurlWithdrawal msg) s fun _ s' =>
      (s.lnurlWithdrawalRequests.lookup msg.reqId = none ∧ Booked env s [] s') ∨
      ∃ t req, s.lnurlWithdrawalRequests.lookup msg.reqId = some (t, req) ∧
        s' = { s with
          lnurlWithdrawalRequests := s.lnurlWithdrawalRequests.erase msg.reqId
          sent := s.sent ++ [(.api (.paymentRequest
            { req with paymentRequest := some msg.paymentRequest }), .loopback)] } := by
  refine Ensures.get_bind ?_
  split
  next t req hl => exact .inr ⟨t, req, hl, rfl⟩
  next hl => exact .inl ⟨hl, (sendApi_spec env _).1⟩

/-- Nor does asking for a route. -/
theorem queryRoute_spec (msg : QueryRouteRequest) :
    Ensures (queryRoute cfg env msg) s fun _ s' => Booked env s [] s' := by
  refine Ensures.lift_bind fun _ _ => ?_
  split
  next =>
    split
    next =>
      refine Ensures.lift_bind fun maxFee _ => Ensures.lift_bind fun routes _ => ?_
      split
      next => exact (sendApi_spec env _).mono fun _ _ h => h.1
      next => exact (sendApi_spec env _).mono fun _ _ h => h.1
      next =>
        refine Ensures.lift_bind fun sats _ => Ensures.lift_bind fun sats _ => ?_
        exact (sendApi_spec env _).mono fun _ _ h => h.1
    next => exact (sendApi_spec env _).mono fun _ _ h => h.1
  next => exact (sendApi_spec env _).mono fun _ _ h => h.1

/-! ## Karma -/

/-- No user loses by these bookings. -/
def CreditsUsers (ps : List Booking) : Prop :=
  ∀ p ∈ ps, ∀ uid id, p.ref = (.user uid, id) → 0 ≤ p.amount

/-- Credits after credits. -/
theorem CreditsUsers.append {ps qs : List Booking} (hp : CreditsUsers ps) (hq : CreditsUsers qs) :
    CreditsUsers (ps ++ qs) := by
  intro p hmem
  rcases List.mem_append.mp hmem with h | h
  · exact hp p h
  · exact hq p h

/-- No user loses anything. -/
theorem CreditsUsers.sumAt_nonneg {ps : List Booking} (h : CreditsUsers ps) (uid : UserId)
    (id : AccountId) : 0 ≤ Posting.sumAt ps (.user uid, id) := by
  induction ps with
  | nil => exact le_refl 0
  | cons p ps ih =>
    rw [Posting.sumAt_cons]
    refine add_nonneg ?_ (ih fun q hq => h q (List.mem_cons_of_mem _ hq))
    split
    next hp => exact h p (by simp) uid id hp
    next => exact le_refl 0

/-- Everything is booked in karma points. -/
def InKarma (ps : List Booking) : Prop := ∀ p ∈ ps, p.unit = .KKP

/-- Karma after karma. -/
theorem InKarma.append {ps qs : List Booking} (hp : InKarma ps) (hq : InKarma qs) :
    InKarma (ps ++ qs) := by
  intro p hmem
  rcases List.mem_append.mp hmem with h | h
  · exact hp p h
  · exact hq p h

/-- A balance that is set to something else. -/
theorem setBalance_spec (env : Env) {o : Owner} {a : Account} (b : Decimal)
    (ha : s.ledger.get (o, a.accountId) = some a) :
    Booked env s [⟨(o, a.accountId), a.currency, b - a.balance⟩]
      { s with ledger := s.ledger.put o { a with balance := b } } := by
  have h := Booked.write env (b - a.balance) ha
  have heq : a.shift (b - a.balance) = { a with balance := b } := by
    simp [Account.shift]
  rwa [heq] at h

/-- The share of one user is credited to her, if there is one. -/
theorem distributeKarmaTo_spec (karma : Money) (total : Decimal) (change : Money)
    (entry : UserId × Decimal) :
    Ensures (distributeKarmaTo env karma total change entry) s fun _ s' =>
      ∃ ps, Booked env s ps s' ∧ CreditsUsers ps ∧ InKarma ps := by
  unfold distributeKarmaTo
  refine Ensures.lift_bind fun ratio _ => Ensures.lift_bind fun part _ => ?_
  dsimp only
  refine Ensures.ite (fun hpos => ?_) fun _ => ?_
  · refine (getOrOpenAccount_spec _ _ _).bind ?_
    intro account s₁ hspec
    obtain ⟨h₁, hacc, hcur, -⟩ := hspec
    refine Ensures.lift_bind fun balance hbal => ?_
    obtain ⟨-, rfl⟩ := Decimal.add_eq_ok.mp hbal
    refine (insertIntoLedger_spec _ _).bind ?_
    intro _ s₂ h₂
    subst h₂
    have hw := Booked.write env (Money.new karma.currency part).value hacc
    refine (updateAccount_spec _ _).bind ?_
    intro _ s₃ hspec
    obtain ⟨h₃, -⟩ := hspec
    refine Ensures.lift_bind fun _ _ => ⟨_, (h₁.trans hw).opened h₃, ?_, ?_⟩
    · intro p hp uid id _
      rw [List.mem_singleton.mp hp]
      exact hpos.le
    · intro p hp
      rw [List.mem_singleton.mp hp]
      exact hcur
  · exact Ensures.lift_bind fun _ _ => ⟨[], .refl env s, by simp [CreditsUsers], by simp [InKarma]⟩

/-- Karma is credited to users, and nothing else is. -/
theorem distributeKarma_spec (karma : Money) (totals : UserTotals) :
    Ensures (distributeKarma env karma totals) s fun _ s' =>
      ∃ ps, Booked env s ps s' ∧ CreditsUsers ps ∧ InKarma ps := by
  refine Ensures.lift_bind fun total _ => ?_
  refine Ensures.bind (R := fun _ s' => ∃ ps, Booked env s ps s' ∧ CreditsUsers ps ∧ InKarma ps)
    ?_ ?_
  · refine Ensures.foldlM ?_ karma ⟨[], .refl env s, by simp [CreditsUsers], by simp [InKarma]⟩
    intro change entry _ s₁ h
    obtain ⟨ps, h₁, hps, hkarma⟩ := h
    exact (distributeKarmaTo_spec karma total change entry).mono
      fun _ s₂ ⟨qs, h₂, hqs, hkarma'⟩ =>
        ⟨ps ++ qs, h₁.trans h₂, hps.append hqs, hkarma.append hkarma'⟩
  intro change s₁ hspec
  obtain ⟨ps, h₁, hps, hkarma⟩ := hspec
  refine (getDealerAccount_spec _ _).bind ?_
  intro account s₂ hspec
  obtain ⟨h₂, hacc, hcur, -⟩ := hspec
  refine (putAccount_spec _ _).bind ?_
  intro _ s₃ h₃
  subst h₃
  have hw := setBalance_spec env change.value hacc
  refine (updateAccount_spec _ _).mono fun _ s' ⟨h', _⟩ =>
    ⟨_, ((h₁.opened h₂).trans hw).opened h', hps.append ?_, hkarma.append ?_⟩
  · intro p hp uid id href
    rw [List.mem_singleton.mp hp] at href
    exact absurd href (by simp)
  · intro p hp
    rw [List.mem_singleton.mp hp]
    exact hcur

/-- So it is of the whole report: what is left goes to the dealer. -/
theorem karmaBalance_spec (msg : KarmaBalance) :
    Ensures (karmaBalance env msg) s fun _ s' =>
      ∃ ps, Booked env s ps s' ∧ CreditsUsers ps ∧ InKarma ps := by
  unfold karmaBalance
  refine Ensures.bind (R := fun _ s' => s' = s) ?_ ?_
  · exact Ensures.get_bind (Ensures.lift_bind fun _ _ => rfl)
  rintro bankState s₀ rfl
  refine Ensures.bind (R := fun _ s' => s' = s₀) ?_ ?_
  · unfold getUserTotals
    refine Ensures.ite (fun _ => rfl) fun _ => Ensures.ite (fun _ => rfl) fun _ => ?_
    exact Ensures.get_bind (Ensures.lift fun _ _ => rfl)
  rintro totals s₀ rfl
  split
  next userTotals =>
    refine (getDealerAccount_spec _ _).bind ?_
    intro account s₁ hspec
    obtain ⟨h₁, hacc, hcur, -⟩ := hspec
    refine (putAccount_spec _ _).bind ?_
    intro _ s₂ h₂
    subst h₂
    have hw := setBalance_spec env (-(Money.new .KKP msg.karma).value) hacc
    have hcredit : CreditsUsers [⟨(.dealer, account.accountId), account.currency,
        -(Money.new .KKP msg.karma).value - account.balance⟩] := by
      intro p hp uid id href
      rw [List.mem_singleton.mp hp] at href
      exact absurd href (by simp)
    have hkarma : InKarma [⟨(.dealer, account.accountId), account.currency,
        -(Money.new .KKP msg.karma).value - account.balance⟩] := by
      intro p hp
      rw [List.mem_singleton.mp hp]
      exact hcur
    refine (updateAccount_spec _ _).bind ?_
    intro _ s₃ hspec
    obtain ⟨h₃, -⟩ := hspec
    have hb := (h₁.trans hw).opened h₃
    refine Ensures.lift_bind fun diff _ => Ensures.ite (fun _ => ?_) fun _ => ?_
    · exact (distributeKarma_spec _ _).mono fun _ s' ⟨ps, h', hps, hkarma'⟩ =>
        ⟨_, hb.trans h', hcredit.append hps, hkarma.append hkarma'⟩
    · exact ⟨_, hb, hcredit, hkarma⟩
  next => exact ⟨[], .refl env s₀, by simp [CreditsUsers], by simp [InKarma]⟩

/-! ## DCA and the operator's transfers -/

/-- A rebalance puts swap requests on the loopback queue, and nothing else. -/
theorem dcaRebalance_spec (msg : DcaRebalance) :
    Ensures (dcaRebalance env msg) s fun _ s' =>
      ∃ reqs : List SwapRequest, s' = { s with
        sent := s.sent ++ reqs.map fun r => (.api (.swapRequest r), .loopback) } := by
  have hnone : ∃ reqs : List SwapRequest, s = { s with
      sent := s.sent ++ reqs.map fun r => (.api (.swapRequest r), .loopback) } :=
    ⟨[], by simp⟩
  refine Ensures.ite (fun _ => hnone) fun _ => Ensures.ite (fun _ => hnone) fun _ => ?_
  refine Ensures.forM (fun e s₁ h₁ => ?_) _ hnone
  obtain ⟨reqs, rfl⟩ := h₁
  refine Ensures.lift_bind fun c _ => Ensures.lift_bind fun c' _ => Ensures.lift_bind fun x _ => ?_
  refine ⟨reqs ++ [⟨env.reqUuid e.2, asU64 e.1.uid, Money.new c x, c, c', none⟩], ?_⟩
  rw [List.map_append, List.map_singleton, ← List.append_assoc]

/-- The account in a slot, as far as the books know it. -/
def BankEngine.Slot.Reads (s : State) (a : Account) : Slot → Prop
  | .external => s.ledger.get (.bank, a.accountId) = some a
  | .insurance => True
  | .user uid _ => s.ledger.get (.user uid, a.accountId) = some a

/-- A slot is read as the ledger has it. -/
theorem readSlot_spec (slot : Slot) :
    Ensures (readSlot env slot) s fun r s' =>
      Booked env s [] s' ∧ ∀ a, r = .ok a → slot.Reads s' a := by
  cases slot with
  | external =>
    refine getLiabilityAccount_spec.bind ?_
    intro a s₁ hspec
    obtain ⟨h₁, hget, -⟩ := hspec
    refine ⟨h₁, fun b hb => ?_⟩
    injection hb with hb
    rw [← hb]
    exact hget
  | insurance => exact ⟨.refl env s, fun _ _ => trivial⟩
  | user uid id =>
    refine Ensures.get_bind (Ensures.ite (fun _ => ?_) fun _ => ?_)
    · exact ⟨.refl env s, fun _ h => absurd h (by simp)⟩
    split
    next a hget =>
      refine ⟨.refl env s, fun b hb => ?_⟩
      injection hb with hb
      have hid : a.accountId = id := Ledger.get_accountId hget
      show s.ledger.get (.user uid, b.accountId) = some b
      rw [← hb, hid]
      exact hget
    next => exact ⟨.refl env s, fun _ h => absurd h (by simp)⟩

/-- It reads the same after accounts were opened. -/
theorem BankEngine.Slot.Reads.opened {slot : Slot} {a : Account} {s s' : State}
    (hb : Booked env s [] s')
    (h : slot.Reads s a) : slot.Reads s' a := by
  cases slot with
  | external => exact hb.keeps h
  | insurance => trivial
  | user uid id => exact hb.keeps h

/-- A copy that is written back is a posting. -/
theorem writeSlot_spec {slot : Slot} {a : Account} {s₀ : State} {ps : List Booking} (d : Decimal)
    (hb : Booked env s₀ ps s) (hread : slot.Reads s₀ a) :
    Ensures (writeSlot (a.shift d) slot) s fun _ s' => ∃ qs, Booked env s₀ qs s' := by
  cases slot with
  | external =>
    refine (putAccount_spec _ _).mono fun _ s' h => ?_
    rw [h]
    exact ⟨_, hb.put d hread⟩
  | insurance =>
    refine ⟨ps, hb.opened ⟨.of_eq rfl rfl rfl, .insurance _ .refl, fun _ _ h => h, rfl,
      fun h => h.congr rfl rfl rfl⟩⟩
  | user uid id =>
    refine (insertIntoLedger_spec _ _).mono fun _ s' h => ?_
    rw [h]
    exact ⟨_, hb.put d hread⟩

/-- Which side an account is on is asked of the ledger. -/
theorem isExternalAccount_spec (uid : UserId) (id : AccountId) :
    Ensures (isExternalAccount env uid id) s fun _ s' => Booked env s [] s' := by
  refine Ensures.ite (fun _ => ?_) fun _ => .refl env s
  refine getLiabilityAccount_spec.bind ?_
  intro a s₁ hspec
  obtain ⟨h₁, -⟩ := hspec
  exact h₁

/-- What the operator asks for is booked, or nothing is. -/
theorem processMakeTx_spec (tx : MakeTx) :
    Ensures (processMakeTx env tx) s fun _ s' => ∃ ps, Booked env s ps s' := by
  refine Ensures.ite (fun _ => ⟨[], .refl env s⟩) fun _ => ?_
  refine Ensures.ite (fun _ => ⟨[], .refl env s⟩) fun _ => ?_
  refine Ensures.get_bind ?_
  refine (isExternalAccount_spec _ _).bind ?_
  intro isInboundExternal s₁ h₁
  refine (isExternalAccount_spec _ _).bind ?_
  intro isOutboundExternal s₂ h₂
  have hb := h₁.opened h₂
  refine Ensures.ite (fun _ => ⟨[], hb⟩) fun _ => ?_
  dsimp only
  generalize slotOf isOutboundExternal _ _ _ = outboundSlot
  generalize slotOf isInboundExternal _ _ _ = inboundSlot
  refine (readSlot_spec _).bind ?_
  intro r s₃ hspec
  obtain ⟨h₃, hread⟩ := hspec
  have hb := hb.opened h₃
  split
  next => exact ⟨[], hb⟩
  next outbound =>
    refine (readSlot_spec _).bind ?_
    intro r s₄ hspec
    obtain ⟨h₄, hread'⟩ := hspec
    have hb := hb.opened h₄
    split
    next => exact ⟨[], hb⟩
    next inbound =>
      refine Ensures.ite (fun _ => ⟨[], hb⟩) fun _ => ?_
      refine (makeTx_spec _ _ _ _ _ _).bind ?_
      intro r s₅ htx
      have hb := hb.opened htx.booked
      have hread := ((hread outbound rfl).opened h₄).opened htx.booked
      have hread' := (hread' inbound rfl).opened htx.booked
      split
      next => exact ⟨[], hb⟩
      next outbound' inbound' txid =>
        obtain ⟨-, -, -, rfl, rfl⟩ := htx.stored txid rfl
        refine (updateAccount_spec _ _).bind ?_
        intro _ s₆ hspec
        obtain ⟨h₆, -⟩ := hspec
        refine (updateAccount_spec _ _).bind ?_
        intro _ s₇ hspec
        obtain ⟨h₇, -⟩ := hspec
        refine (writeSlot_spec _ (h₆.opened h₇) hread).bind ?_
        intro _ s₈ hspec
        obtain ⟨ps, h₈⟩ := hspec
        refine (writeSlot_spec _ h₈ hread').bind ?_
        intro _ s₉ hspec
        obtain ⟨qs, h₉⟩ := hspec
        exact ⟨_, hb.trans h₉⟩

end Lndhubx
