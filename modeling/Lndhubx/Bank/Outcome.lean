import Lndhubx.Bank.ServiceSpec

/-!
# What a message can do

`process_msg`, reduced to its outcomes: for every message the handler's own
description of the state it leaves (`Outcome`), or accounts opened at most.
Everything said about runs starts from here and never looks at a handler again.
-/

namespace Lndhubx

open Prog BankEngine

variable {cfg : Config} {env : Env} {s s' : State}

/-- What a message has done to the bank, by its kind. -/
inductive Outcome (cfg : Config) (env : Env) (s s' : State) : Message → Prop
  | opened {msg : Message} (booked : Booked env s [] s') : Outcome cfg env s s' msg
  | deposit (m : Deposit) (h : DepositOutcome env m s s') : Outcome cfg env s s' (.deposit m)
  | fiatDeposit (m : FiatDepositResponse) (h : FiatDepositOutcome env m s s') :
      Outcome cfg env s s' (.dealer (.fiatDepositResponse m))
  | payment (m : PaymentRequest) (h : PaymentOutcome cfg env m s s') :
      Outcome cfg env s s' (.api (.paymentRequest m))
  | result (res : PaymentResult) (h : ResultOutcome env res s s') :
      Outcome cfg env s s' (.bank (.paymentResult res))
  | swap (m : SwapResponse) (h : SwapOutcome env m s s') :
      Outcome cfg env s s' (.api (.swapResponse m))
  /-- A payment of the dealer. -/
  | transfer (m : Dealer) (o : Owner) (id id' : AccountId) (v : Decimal)
      (external : ∀ uid, o ≠ .user uid)
      (booked : Booked env s [⟨(o, id), .BTC, v⟩, ⟨(.dealer, id'), .BTC, -v⟩] s') :
      Outcome cfg env s s' (.dealer m)
  | balances (m : GetBalances) (s₁ : State) (b : Balances) (destination : ServiceIdentity)
      (booked : Booked env s [] s₁) (reqId : b.reqId = m.reqId) (uid : b.uid = m.uid)
      (loopback : destination ≠ .loopback)
      (sent : s' = { s₁ with sent := s₁.sent ++ [(.api (.balances b), destination)] }) :
      Outcome cfg env s s' (.api (.getBalances m))
  /-- An LNURL withdrawal is kept. -/
  | lnurlCreated (m : CreateLnurlWithdrawalRequest)
      (booked : Booked env s []
        { s' with lnurlWithdrawalRequests := s.lnurlWithdrawalRequests })
      (positive : 0 < m.amount.value) (rate : m.currency ≠ .BTC → m.rate.isSome = true)
      (kept : s'.lnurlWithdrawalRequests =
        s.lnurlWithdrawalRequests.insert m.reqId (env.now .lnurl, m.paymentRequest)) :
      Outcome cfg env s s' (.api (.createLnurlWithdrawalRequest m))
  /-- An LNURL withdrawal is taken out and its request looped back. -/
  | lnurlPaid (m : PayLnurlWithdrawalRequest) (t : Nat) (req : PaymentRequest)
      (found : s.lnurlWithdrawalRequests.lookup m.reqId = some (t, req))
      (taken : s' = { s with
        lnurlWithdrawalRequests := s.lnurlWithdrawalRequests.erase m.reqId
        sent := s.sent ++ [(.api (.paymentRequest
          { req with paymentRequest := some m.paymentRequest }), .loopback)] }) :
      Outcome cfg env s s' (.api (.payLnurlWithdrawalRequest m))
  | karma (m : KarmaBalance) (ps : List Booking) (booked : Booked env s ps s')
      (credits : CreditsUsers ps) : Outcome cfg env s s' (.dealer (.karmaBalance m))
  | dca (m : DcaRebalance) (reqs : List SwapRequest)
      (sent : s' = { s with
        sent := s.sent ++ reqs.map fun r => (.api (.swapRequest r), .loopback) }) :
      Outcome cfg env s s' (.bank (.dcaRebalance m))
  | makeTx (tx : MakeTx) (ps : List Booking) (booked : Booked env s ps s') :
      Outcome cfg env s s' (.cli (.makeTx tx))

/-- The messages of the dealer. -/
theorem processDealer_spec (msg : Dealer) :
    Ensures (processDealer cfg env msg) s fun _ s' => Outcome cfg env s s' (.dealer msg) := by
  have htransfer : ∀ {s'}, (Booked env s [] s' ∨ ∃ o id id' v, (∀ uid, o ≠ .user uid) ∧
      Booked env s [⟨(o, id), .BTC, v⟩, ⟨(.dealer, id'), .BTC, -v⟩] s') →
      Outcome cfg env s s' (.dealer msg) := by
    intro s' h
    rcases h with h | ⟨o, id, id', v, ho, h⟩
    · exact .opened h
    · exact .transfer msg o id id' v ho h
  cases msg with
  | health h => exact .opened (.of_eq rfl rfl rfl (.of_eq rfl rfl rfl))
  | bankStateRequest m => exact (sendBankState_spec env).mono fun _ _ h => .opened h.1
  | payInvoice m => exact (processDealerInvoice_spec m false).mono fun _ _ h => htransfer h
  | payInsuranceInvoice m => exact (processDealerInvoice_spec m true).mono fun _ _ h => htransfer h
  | createInvoiceRequest m =>
    exact (processCreateInvoiceRequest_spec _ _).mono fun _ _ h => .opened h
  | createInsuranceInvoiceRequest m =>
    exact (processCreateInvoiceRequest_spec _ _).mono fun _ _ h => .opened h
  | fiatDepositResponse m => exact (fiatDepositResponse_spec m).mono fun _ _ h => .fiatDeposit m h
  | karmaBalance m =>
    exact (karmaBalance_spec m).mono fun _ _ ⟨ps, h, hc, _⟩ => .karma m ps h hc
  | bankState m => exact .opened (.refl env s)
  | createInvoiceResponse m => exact .opened (.refl env s)
  | fiatDepositRequest m => exact .opened (.refl env s)

/-- The messages of the API. -/
theorem processApi_spec (msg : Api) :
    Ensures (processApi cfg env msg) s fun _ s' => Outcome cfg env s s' (.api msg) := by
  cases msg with
  | invoiceRequest m => exact (invoiceRequest_spec m).mono fun _ _ h => .opened h
  | invoiceResponse m => exact (invoiceResponse_spec m).mono fun _ _ h => .opened h
  | paymentRequest m => exact (paymentRequest_spec m).mono fun _ _ h => .payment m h
  | swapRequest m => exact (send_spec env _ _).mono fun _ _ h => .opened h.1
  | swapResponse m => exact (swapResponse_spec m).mono fun _ _ h => .swap m h
  | getBalances m =>
    refine (getBalances_spec m).mono fun _ s' h => ?_
    obtain ⟨s₁, b, dest, h, hreq, huid, hdest, hsent⟩ := h
    exact .balances m s₁ b dest h hreq huid hdest hsent
  | quoteRequest m => exact (send_spec env _ _).mono fun _ _ h => .opened h.1
  | quoteResponse m => exact (sendApi_spec env _).mono fun _ _ h => .opened h.1
  | availableCurrenciesRequest m => exact (send_spec env _ _).mono fun _ _ h => .opened h.1
  | availableCurrenciesResponse m => exact (sendApi_spec env _).mono fun _ _ h => .opened h.1
  | getNodeInfoRequest m => exact (getNodeInfo_spec m).mono fun _ _ h => .opened h
  | createLnurlWithdrawalRequest m =>
    refine (createLnurlWithdrawal_spec m).mono fun _ s' h => ?_
    obtain ⟨hb, hsame | ⟨hpos, hrate, hkept⟩⟩ := h
    · have heq : { s' with lnurlWithdrawalRequests := s.lnurlWithdrawalRequests } = s' := by
        rw [← hsame]
      rw [heq] at hb
      exact .opened hb
    · exact .lnurlCreated m hb hpos hrate hkept
  | getLnurlWithdrawalRequest m => exact (getLnurlWithdrawal_spec m).mono fun _ _ h => .opened h
  | payLnurlWithdrawalRequest m =>
    refine (payLnurlWithdrawal_spec env m).mono fun _ s' h => ?_
    rcases h with ⟨-, h⟩ | ⟨t, req, hfound, htaken⟩
    · exact .opened h
    · exact .lnurlPaid m t req hfound htaken
  | queryRouteRequest m => exact (queryRoute_spec m).mono fun _ _ h => .opened h
  | nostrProfileRequest m => exact (send_spec env _ _).mono fun _ _ h => .opened h.1
  | nostrProfileSearchRequest m => exact (send_spec env _ _).mono fun _ _ h => .opened h.1
  | nostrProfileSearchResponse m => exact (sendApi_spec env _).mono fun _ _ h => .opened h.1
  | _ => exact .opened (.refl env s)

/-- Every message has its outcome. -/
theorem processMsg_spec (msg : Message) :
    Ensures (processMsg cfg env msg) s fun _ s' => Outcome cfg env s s' msg := by
  cases msg with
  | dealer m => exact processDealer_spec m
  | deposit m => exact (deposit_spec m).mono fun _ _ h => .deposit m h
  | api m => exact processApi_spec m
  | bank m =>
    cases m with
    | paymentResult res => exact (paymentResult_spec res).mono fun _ _ h => .result res h
    | dcaRebalance m => exact (dcaRebalance_spec m).mono fun _ _ ⟨reqs, h⟩ => .dca m reqs h
  | cli m =>
    cases m with
    | makeTx tx =>
      refine (processMakeTx_spec tx).bind ?_
      intro result s₁ h
      obtain ⟨ps, h₁⟩ := h
      exact (send_spec env _ _).mono fun _ _ h' => .makeTx tx ps (h₁.opened h'.1)
    | makeTxResult m => exact .opened (.refl env s)
  | nostr m =>
    cases m with
    | nostrProfilesRefetchRequest r => exact (send_spec env _ _).mono fun _ _ h => .opened h.1
    | nostrPrivateMessage m => exact .opened (.refl env s)
    | nostrZapNote m => exact .opened (.refl env s)
  | journal m => exact .opened (.refl env s)

/-- So has every message that is delivered. -/
theorem Delivers.outcome {d : Delivery} (h : Delivers cfg s d s') :
    Outcome cfg d.env { s with sent := [] } s' d.msg := h.ensures (processMsg_spec d.msg)

/-! ## Payments, withdrawals and the loopback queue

Few messages touch them; the others are `Quiet`. -/

/-- A deposit starts no task. -/
theorem DepositOutcome.quiet {m : Deposit} (h : DepositOutcome env m s s') : Quiet s s' := by
  cases h with
  | ignored booked _ => exact booked.toQuiet
  | dealer i _ _ booked =>
    rcases booked with hb | ⟨o, id, id', d, -, hb⟩
    · exact hb.toQuiet
    · exact hb.toQuiet
  | forwarded _ _ _ _ _ _ _ _ booked _ => exact booked.toQuiet
  | unbooked _ _ _ _ booked _ => exact booked.toQuiet
  | credited i s₁ u b _ _ _ _ booked rest =>
    rcases rest with ⟨hn, -⟩ | hset
    · exact booked.toQuiet.trans hn.toQuiet
    · exact booked.toQuiet.trans hset.toQuiet

/-- Nor does one the dealer has priced. -/
theorem FiatDepositOutcome.quiet {m : FiatDepositResponse} (h : FiatDepositOutcome env m s s') :
    Quiet s s' := by
  cases h with
  | ignored booked _ => exact booked.toQuiet
  | credited i rate fiat s₁ u b d d' x _ _ _ _ _ _ booked rest =>
    rcases rest with ⟨hn, -⟩ | hset
    · exact booked.toQuiet.trans hn.toQuiet
    · exact booked.toQuiet.trans hset.toQuiet

/-- Nor does the result of a task. -/
theorem ResultOutcome.quiet {res : PaymentResult} (h : ResultOutcome env res s s') :
    Quiet s s' := by
  cases h with
  | ignored booked _ => exact booked.toQuiet
  | settled s₁ ps _ _ booked rest =>
    rcases rest with hn | ⟨_, _, _, _, hset⟩
    · exact booked.toQuiet.trans hn.toQuiet
    · exact booked.toQuiet.trans hset.toQuiet
  | refunded _ _ s₁ _ _ _ _ booked noted => exact booked.toQuiet.trans noted.toQuiet

/-- Nor does a swap. -/
theorem SwapOutcome.quiet {m : SwapResponse} (h : SwapOutcome env m s s') : Quiet s s' := by
  cases h with
  | refused booked => exact booked.toQuiet
  | swapped _ _ _ _ _ _ _ _ posted => exact posted.toQuiet

/-- A task was spawned for a request that was debited. -/
structure SpawnsTask (cfg : Config) (env : Env) (s s' : State) (m : PaymentRequest)
    (p : Outgoing) (a : HoldAccounts) (fee : Decimal) : Prop where
  made : ∃ decoded millisats, OutgoingFor cfg env m decoded millisats p
  inSats : p.estimatedFeeInBtc.trySats = .ok (.ok fee)
  positive : 0 < p.debit.value ∧ 0 < p.totalInBtc.value
  accounts : a.At s'.ledger m.uid m.currency
  moves : Moves s.ledger (a.bookings m.uid m.currency p.debit.value p.totalInBtc.value) s'.ledger
  threads : s'.paymentThreads = s.paymentThreads ++ [p.task fee]
  lnurl : s'.lnurlWithdrawalRequests = s.lnurlWithdrawalRequests
  sent : ∃ new, s'.sent = s.sent ++ new ∧ ∀ m ∈ new, Ordinary m

/-- A payment request starts one task at most. -/
theorem PaymentOutcome.quiet {m : PaymentRequest} (h : PaymentOutcome cfg env m s s') :
    Quiet s s' ∨ ∃ p a fee, SpawnsTask cfg env s s' m p a fee := by
  cases h with
  | refused booked _ => exact .inl booked.toQuiet
  | transferred username _ paid =>
    cases paid with
    | paid _ _ _ _ _ _ _ _ _ _ _ posted => exact .inl posted.toQuiet
  | settled pr decoded millisats rate amount i owner user req s₁ _ _ _ _ _ _ _ _ _ _ _ paid
      settles =>
    cases paid with
    | paid _ _ _ _ _ _ _ _ _ _ _ posted => exact .inl (posted.toQuiet.trans settles.toQuiet)
  | debited p decoded millisats a s₁ made _ _ positive _ accounts booked rest =>
    rcases rest with ⟨hn, -⟩ | ⟨-, fee, hfee, hspawn⟩
    · exact .inl (booked.toQuiet.trans hn.toQuiet)
    · right
      -- nothing but the new task distinguishes the state from a quiet one
      have hquiet : Quiet s { s' with paymentThreads := s₁.paymentThreads } :=
        booked.toQuiet.trans ⟨rfl, hspawn.lnurl, hspawn.sent⟩
      refine ⟨p, a, fee, ⟨decoded, millisats, made⟩, hfee, positive, ?_, ?_, ?_, hquiet.lnurl,
        hquiet.sent⟩
      · rw [hspawn.ledger]
        exact accounts
      · rw [hspawn.ledger]
        exact booked.moves
      · rw [hspawn.threads, booked.threads]

/-- Only a payment request spawns a task, and only one. -/
theorem Outcome.threads {msg : Message} (h : Outcome cfg env s s' msg) :
    s'.paymentThreads = s.paymentThreads ∨
      ∃ m p a fee, msg = .api (.paymentRequest m) ∧ SpawnsTask cfg env s s' m p a fee := by
  cases h with
  | payment m h =>
    rcases h.quiet with hq | ⟨p, a, fee, hspawn⟩
    · exact .inl hq.threads
    · exact .inr ⟨m, p, a, fee, rfl, hspawn⟩
  | opened booked => exact .inl booked.threads
  | deposit m h => exact .inl h.quiet.threads
  | fiatDeposit m h => exact .inl h.quiet.threads
  | result res h => exact .inl h.quiet.threads
  | swap m h => exact .inl h.quiet.threads
  | transfer m o id id' v _ booked => exact .inl booked.threads
  | balances m s₁ b destination booked _ _ _ sent =>
    subst sent
    exact .inl booked.threads
  | lnurlCreated m booked _ _ _ => exact .inl booked.threads
  | lnurlPaid m t req _ taken =>
    subst taken
    exact .inl rfl
  | karma m ps booked _ => exact .inl booked.threads
  | dca m reqs sent =>
    subst sent
    exact .inl rfl
  | makeTx tx ps booked => exact .inl booked.threads

/-! ## Balances -/

/-- The balances a handler sent. -/
def SendsBalances (s : State) (b : Balances) : Prop := ∃ dest, (.api (.balances b), dest) ∈ s.sent

/-- Where nothing but bookings happened, no balances were told. -/
theorem Quiet.sendsBalances (h : Quiet s s') {b : Balances} (hb : SendsBalances s' b) :
    SendsBalances s b := by
  obtain ⟨dest, hb⟩ := hb
  obtain ⟨new, hnew, hord⟩ := h.sent
  rw [hnew] at hb
  rcases List.mem_append.mp hb with hb | hb
  · exact ⟨dest, hb⟩
  · exact absurd rfl ((hord _ hb).2 b)

/-- Balances are sent in answer to a request for them, to its id and about its user. -/
theorem Outcome.balances_of_request {msg : Message} (h : Outcome cfg env s s' msg)
    (hs : s.sent = []) {b : Balances} (hb : SendsBalances s' b) :
    ∃ m, msg = .api (.getBalances m) ∧ b.reqId = m.reqId ∧ b.uid = m.uid := by
  have hnone : ¬SendsBalances s b := by
    intro h
    obtain ⟨dest, h⟩ := h
    rw [hs] at h
    exact absurd h (by simp)
  cases h with
  | opened booked => exact absurd (booked.toQuiet.sendsBalances hb) hnone
  | deposit m h => exact absurd (h.quiet.sendsBalances hb) hnone
  | fiatDeposit m h => exact absurd (h.quiet.sendsBalances hb) hnone
  | payment m h =>
    rcases h.quiet with hq | ⟨p, a, fee, hspawn⟩
    · exact absurd (hq.sendsBalances hb) hnone
    · have hq : Quiet s { s' with paymentThreads := s.paymentThreads } :=
        ⟨rfl, hspawn.lnurl, hspawn.sent⟩
      exact absurd (hq.sendsBalances hb) hnone
  | result res h => exact absurd (h.quiet.sendsBalances hb) hnone
  | swap m h => exact absurd (h.quiet.sendsBalances hb) hnone
  | transfer m o id id' v _ booked => exact absurd (booked.toQuiet.sendsBalances hb) hnone
  | balances m s₁ b' destination booked reqId uid _ sent =>
    subst sent
    obtain ⟨dest, hb⟩ := hb
    rcases List.mem_append.mp hb with hb | hb
    · exact absurd (booked.toQuiet.sendsBalances ⟨dest, hb⟩) hnone
    · have hbb : b = b' := by simpa using congrArg Prod.fst (List.mem_singleton.mp hb)
      subst hbb
      exact ⟨m, rfl, reqId, uid⟩
  | lnurlCreated m booked _ _ _ =>
    have hb' : SendsBalances { s' with lnurlWithdrawalRequests := s.lnurlWithdrawalRequests } b :=
      hb
    exact absurd (booked.toQuiet.sendsBalances hb') hnone
  | lnurlPaid m t req _ taken =>
    subst taken
    obtain ⟨dest, hb⟩ := hb
    simp [hs] at hb
  | karma m ps booked _ => exact absurd (booked.toQuiet.sendsBalances hb) hnone
  | dca m reqs sent =>
    subst sent
    obtain ⟨dest, hb⟩ := hb
    simp [hs] at hb
  | makeTx tx ps booked => exact absurd (booked.toQuiet.sendsBalances hb) hnone

/-- Balances are told to who has asked for them. -/
theorem Delivers.balances_of_request {d : Delivery} (h : Delivers cfg s d s') {b : Balances}
    (hb : SendsBalances s' b) :
    ∃ m, d.msg = .api (.getBalances m) ∧ b.reqId = m.reqId ∧ b.uid = m.uid :=
  h.outcome.balances_of_request rfl hb

end Lndhubx
