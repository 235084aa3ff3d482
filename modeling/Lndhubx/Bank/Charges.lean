import Lndhubx.Bank.Deposits
import Lndhubx.Bank.RateLimits
import Lndhubx.Bank.Sends

/-!
# What a payment costs its user at the rate limit

A payment request is checked against the limit when it comes in. If it is to be paid
from a fiat account and has no rate yet, it goes to the dealer, who adds one and sends
it back; the bank handles the answer as it handles any payment request, and checks it
against the limit again. `Course` follows a request through both, with any messages in
between.

So a request that the dealer has to price is charged twice, or refused after it was
admitted. `charged_once_iff` says when it is not: the first check found the last window
over, and admitted the request without counting it, and the counter is still below the
limit when the answer comes.
-/

namespace Lndhubx

open Prog BankEngine

variable {cfg : Config} {dcfg : DealerConfig} {env : Env} {s s' : State}

/-! ## The counter of a user -/

/-- How many withdrawal requests of the user are counted. -/
def State.withdrawals (s : State) (uid : UserId) : Nat :=
  ((s.withdrawalRequestRateLimiter.lookup uid).getD (0, 0)).1

/-- What a step of the bank adds to the user's counter. -/
def charge (uid : UserId) (step : State × State) : Int :=
  step.2.withdrawals uid - step.1.withdrawals uid

/-- Does a withdrawal request find the last window of the user over? -/
def WindowOver (cfg : Config) (s : State) (env : Env) (uid : UserId) : Prop :=
  cfg.withdrawalRequestRateLimiterSettings.replenishmentInterval ≤
    env.instant - ((s.withdrawalRequestRateLimiter.lookup uid).getD (0, env.instant)).2

instance (cfg : Config) (s : State) (env : Env) (uid : UserId) :
    Decidable (WindowOver cfg s env uid) := inferInstanceAs (Decidable (_ ≤ _))

/-- The window of `s` is still that of `s'` when the message of `env` comes. -/
def SameWindow (cfg : Config) (s s' : State) (env : Env) (uid : UserId) : Prop :=
  ∃ n n' start, s.withdrawalRequestRateLimiter.lookup uid = some (n, start) ∧
    s'.withdrawalRequestRateLimiter.lookup uid = some (n', start) ∧
    env.instant - start < cfg.withdrawalRequestRateLimiterSettings.replenishmentInterval

/-- The first check of a withdrawal request. -/
def Admits (cfg : Config) (s : State) (env : Env) (uid : UserId) : Prop :=
  (checkRateLimit cfg.withdrawalRequestRateLimiterSettings env.instant
    s.withdrawalRequestRateLimiter uid).1 = true

instance (cfg : Config) (s : State) (env : Env) (uid : UserId) :
    Decidable (Admits cfg s env uid) := inferInstanceAs (Decidable (_ = true))

/-- In a step that ended in `s`, a payment was refused because of the limit. -/
def LimitExceeded (s : State) : Prop :=
  ∃ r, (.api (.paymentResponse r), .api) ∈ s.sent ∧ r.error = some .requestLimitExceeded

/-! ## After the check -/

/-- Only the request itself goes on to the dealer, for want of a rate, and nothing is
refused because of the limit. -/
structure AfterCheck (msg : PaymentRequest) (m : Message × ServiceIdentity) : Prop where
  forwarded : ∀ req, m = (.api (.paymentRequest req), .dealer) →
    msg.currency ≠ .BTC ∧ msg.rate = none ∧ ∃ amount, req = withInvoiceAmount msg amount
  allowed : ∀ r, m = (.api (.paymentResponse r), .api) → r.error ≠ some .requestLimitExceeded

namespace AfterCheck

variable {msg : PaymentRequest}

theorem response {r : PaymentResponse} (h : r.error ≠ some .requestLimitExceeded) :
    AfterCheck msg (.api (.paymentResponse r), .api) := by
  constructor
  · intro req he
    injection he with he
    injection he with he
    exact absurd he (by simp)
  · intro r' he
    injection he with he
    injection he with he
    injection he with he
    rw [← he]
    exact h

theorem journal (tx : JournalTransaction) : AfterCheck msg (.journal tx, .journal) :=
  ⟨fun _ he => absurd he (by simp), fun _ he => absurd he (by simp)⟩

theorem nostr (m : Nostr) : AfterCheck msg (.nostr m, .nostr) :=
  ⟨fun _ he => absurd he (by simp), fun _ he => absurd he (by simp)⟩

theorem forward (amount : Money) (hfiat : msg.currency ≠ .BTC) (hrate : msg.rate = none) :
    AfterCheck msg (.api (.paymentRequest (withInvoiceAmount msg amount)), .dealer) := by
  constructor
  · intro req he
    injection he with he
    injection he with he
    injection he with he
    exact ⟨hfiat, hrate, amount, he.symm⟩
  · intro r he
    injection he with he
    injection he with he
    exact absurd he (by simp)

end AfterCheck

section Walk

variable {msg : PaymentRequest}

theorem makeInternalTx_sends (req : PaymentRequest) :
    Keeps (Sends (AfterCheck msg)) (makeInternalTx cfg env req) := by
  refine .ite (.ret _) ?_
  split
  next =>
    refine (Keeps.lift _).bind fun amount => ?_
    dsimp only
    split
    next =>
      split
      next =>
        refine .ite (.ret _) (Keeps.read.bind fun s => .ite (.ret _) ?_)
        refine (Sends.getDefaultAccount _ _ _).bind fun outbound => ?_
        refine (Sends.getOrOpenAccount _ _ _).bind fun inbound => .ite ?_ ?_
        · exact (Sends.sendApi (.response (by simp))).bind fun _ => .ret _
        refine (Sends.makeTx _ _ _ _ _ _).bind fun tx => ?_
        split
        next =>
          refine (Sends.makeSummaryTx AfterCheck.journal _).bind fun r => ?_
          split
          next =>
            refine (Sends.insertIntoLedger _ _).bind fun _ => ?_
            refine (Sends.insertIntoLedger _ _).bind fun _ => ?_
            refine (Sends.updateAccount _ _).bind fun _ => ?_
            refine (Sends.updateAccount _ _).bind fun _ => ?_
            exact (Sends.sendApi (.response (by simp))).bind fun _ => .ret _
          next => exact .ret _
        next => exact .ret _
      next => exact (Sends.sendApi (.response (by simp))).bind fun _ => .ret _
    next => exact (Sends.sendApi (.response (by simp))).bind fun _ => .ret _
  next => exact .panic _

theorem debitFiat_sends (p : Outgoing) (outbound liability : Account) :
    Keeps (Sends (AfterCheck msg)) (debitFiat env p outbound liability) := by
  refine (Sends.getDefaultAccount _ _ _).bind fun dealerFiat => ?_
  refine (Sends.makeTx _ _ _ _ _ _).bind fun tx => ?_
  split
  next =>
    refine (Sends.getDefaultAccount _ _ _).bind fun dealerBtc => ?_
    refine (Sends.makeTx _ _ _ _ _ _).bind fun tx' => ?_
    split
    next =>
      refine (Sends.insertIntoLedger _ _).bind fun _ => ?_
      refine Keeps.bind (Sends.modifyLedger _) fun _ => ?_
      refine Keeps.bind (Sends.modifyLedger _) fun _ => ?_
      refine Keeps.bind (Sends.modifyLedger _) fun _ => ?_
      refine (Sends.updateAccount _ _).bind fun _ => (Sends.updateAccount _ _).bind fun _ => ?_
      refine (Sends.updateAccount _ _).bind fun _ => (Sends.updateAccount _ _).bind fun _ => ?_
      refine (Sends.makeSummaryTx AfterCheck.journal _).bind fun r => ?_
      split
      next => exact .ret _
      next => exact .ret _
    next => exact .ret _
  next => exact .ret _

theorem debitBtc_sends (p : Outgoing) (outbound liability : Account) :
    Keeps (Sends (AfterCheck msg)) (debitBtc env p outbound liability) := by
  refine (Sends.makeTx _ _ _ _ _ _).bind fun tx => ?_
  split
  next =>
    refine Keeps.bind (Sends.modifyLedger _) fun _ => (Sends.insertIntoLedger _ _).bind fun _ => ?_
    refine (Sends.updateAccount _ _).bind fun _ => (Sends.updateAccount _ _).bind fun _ => ?_
    refine (Sends.makeSummaryTx AfterCheck.journal _).bind fun r => ?_
    split
    next => exact .ret _
    next => exact .ret _
  next => exact (Sends.sendApi (.response (by simp))).bind fun _ => .ret _

theorem payExternally_sends (p : Outgoing) (outbound : Account) :
    Keeps (Sends (AfterCheck msg)) (payExternally env p outbound) := by
  have hspawn : Keeps (Sends (AfterCheck msg)) (spawnPayment p) :=
    (Keeps.lift _).bind fun _ => (Keeps.lift _).bind fun _ => .write fun _ => Sends.of_eq rfl rfl
  refine (Sends.getDefaultAccount _ _ _).bind fun liability => ?_
  refine Keeps.bind (.ite (debitFiat_sends _ _ _) (debitBtc_sends _ _ _)) fun debited => ?_
  exact .ite hspawn (.ret _)

theorem payOwner_sends (req : PaymentRequest) (invoice : Invoice) (owner : Int) :
    Keeps (Sends (AfterCheck msg)) (payOwner cfg env req invoice owner) := by
  unfold payOwner
  split
  next =>
    refine (makeInternalTx_sends _).bind fun r => ?_
    split
    next =>
      exact (Sends.updateInvoice _).bind fun _ => Sends.publishIfZapNote AfterCheck.nostr _ _ _ _ _
    next => exact .ret _
  next =>
    exact (Sends.sendApi (.response (by simp [PaymentRequest.refused]))).bind fun _ => .ret _

theorem findOrInsertInvoice_sends (req : PaymentRequest) (pr : String) (decoded : Bolt11)
    (millisats : Nat) :
    Keeps (Sends (AfterCheck msg)) (findOrInsertInvoice env req pr decoded millisats) := by
  refine (Sends.findInvoice _ _).bind fun found => ?_
  split
  next => exact .ret _
  next => exact (Sends.insertInvoice _).bind fun _ => .ret _

theorem payPriced_sends (req : PaymentRequest) (pr : String) (decoded : Bolt11)
    (millisats : UInt64) (outbound : Account) (outboundUsername inboundUsername : String) :
    Keeps (Sends (AfterCheck msg))
      (payPriced cfg env req pr decoded millisats outbound outboundUsername inboundUsername) := by
  refine (Keeps.lift _).bind fun rate => (Keeps.lift _).bind fun exchanged => ?_
  refine (Keeps.lift _).bind fun amount => (findOrInsertInvoice_sends _ _ _ _).bind fun found => ?_
  split
  next invoice =>
    refine .ite ((Sends.sendApi (.response (by simp))).bind fun _ => .ret _) ?_
    refine .ite ((Sends.sendApi (.response (by simp))).bind fun _ => .ret _) ?_
    refine (Keeps.lift _).bind fun priced => ?_
    refine .ite ((Sends.sendApi (.response (by simp))).bind fun _ => .ret _) ?_
    split
    next => exact payExternally_sends _ _
    next => exact payOwner_sends _ _ _
  next => exact .ret _

theorem payLightning_sends (outbound : Account) (outboundUsername inboundUsername : String) :
    Keeps (Sends (AfterCheck msg))
      (payLightning cfg env msg outbound outboundUsername inboundUsername) := by
  unfold payLightning
  split
  next =>
    split
    next =>
      split
      next millisats _ =>
        intro s
        refine Ensures.ite (fun hfiat => ?_) fun _ => payPriced_sends _ _ _ _ _ _ _ s
        have hforward : AfterCheck msg (.api (.paymentRequest
            (withInvoiceAmount msg (Money.fromSats (invoiceSats millisats)))), .dealer) :=
          .forward _ hfiat.1 (Option.isNone_iff_eq_none.mp hfiat.2)
        exact ((Sends.send hforward).bind fun _ => .ret _) s
      next =>
        exact (Sends.sendApi (.response (by simp [PaymentRequest.refused]))).bind fun _ => .ret _
    next =>
      exact (Sends.sendApi (.response (by simp [PaymentRequest.refused]))).bind fun _ => .ret _
  next => exact .ret _

/-- The check, and what may follow it. -/
theorem paymentRequest_charges (msg : PaymentRequest) :
    Ensures (paymentRequest cfg env msg) s fun _ s' =>
      s'.withdrawalRequestRateLimiter = (checkRateLimit cfg.withdrawalRequestRateLimiterSettings
        env.instant s.withdrawalRequestRateLimiter msg.uid).2 ∧
      (Admits cfg s env msg.uid → ∀ m ∈ s'.sent, m ∈ s.sent ∨ AfterCheck msg m) ∧
      (¬Admits cfg s env msg.uid →
        (.api (.paymentResponse (msg.refused cfg env .requestLimitExceeded)), .api) ∈
          s'.sent) := by
  have hcheck : Ensures (checkWithdrawalRequestRateLimit cfg env msg.uid) s fun admitted s₁ =>
      s₁.withdrawalRequestRateLimiter = (checkRateLimit cfg.withdrawalRequestRateLimiterSettings
        env.instant s.withdrawalRequestRateLimiter msg.uid).2 ∧ s₁.sent = s.sent ∧
      (Admits cfg s env msg.uid ↔ admitted = true) := ⟨rfl, rfl, Iff.rfl⟩
  refine hcheck.bind fun admitted s₁ h => ?_
  obtain ⟨hlimiter, hsent, hadmitted⟩ := h
  rw [hadmitted, ← hlimiter, ← hsent]
  cases admitted with
  | false =>
    exact ⟨rfl, fun h => absurd h (by simp), fun _ => List.mem_append_right _ (by simp)⟩
  | true =>
    have hrefused (e : PaymentResponseError) (he : e ≠ .requestLimitExceeded) :
        Keeps (Sends (AfterCheck msg))
          ((sendApi (.paymentResponse (msg.refused cfg env e)) >>= fun _ => pure ()) :
            Handler Unit) :=
      (Sends.sendApi (.response (by simpa [PaymentRequest.refused] using he))).bind fun _ => .ret _
    refine Ensures.ite (fun h => absurd h (by simp)) fun _ => ?_
    refine Ensures.mono (R := fun _ s' => Sends (AfterCheck msg) s₁ s') ?_
      fun _ s' h => ⟨h.limiter, fun _ => h.sent, fun h => absurd rfl h⟩
    refine Keeps.bind (R := Sends (AfterCheck msg)) .read (fun s => ?_) s₁
    refine .ite (hrefused _ (by simp)) ?_
    refine (Sends.getDefaultAccount _ _ _).bind fun outbound => .ite (hrefused _ (by simp)) ?_
    refine .ite (hrefused _ (by simp)) ?_
    split
    next =>
      split
      next => exact (makeInternalTx_sends _).bind fun _ => .ret _
      next => exact payLightning_sends _ _ _
    next => exact .ret _

end Walk

/-! ## Handling a request once -/

/-- One handling of a payment request: what it does to the counter, and whether it is
refused because of the limit. -/
theorem Delivers.charges {msg : PaymentRequest}
    (h : Delivers cfg s ⟨env, .api (.paymentRequest msg)⟩ s') :
    s'.withdrawalRequestRateLimiter = (checkRateLimit cfg.withdrawalRequestRateLimiterSettings
      env.instant s.withdrawalRequestRateLimiter msg.uid).2 ∧
    (LimitExceeded s' ↔ ¬Admits cfg s env msg.uid) ∧
    ∀ req, (.api (.paymentRequest req), .dealer) ∈ s'.sent →
      Admits cfg s env msg.uid → req.uid = msg.uid := by
  have hspec : Ensures (paymentRequest cfg env msg) { s with sent := [] } _ :=
    paymentRequest_charges msg
  obtain ⟨hlimiter, hadmitted, hrefused⟩ := h.ensures hspec
  refine ⟨hlimiter, ⟨?_, ?_⟩, ?_⟩
  · intro hexceeded hadmits
    obtain ⟨r, hr, herror⟩ := hexceeded
    rcases hadmitted hadmits _ hr with hr | hr
    · exact absurd hr (by simp)
    · exact hr.allowed r rfl herror
  · exact fun hadmits => ⟨_, hrefused hadmits, rfl⟩
  · intro req hreq hadmits
    rcases hadmitted hadmits _ hreq with hr | hr
    · exact absurd hr (by simp)
    · obtain ⟨-, -, amount, hamount⟩ := hr.forwarded req rfl
      rw [hamount]
      rfl

/-- A check of a window that is over counts nothing and starts anew; any other counts
one, and admits as long as the counter was below the limit. -/
theorem charge_of_check {uid : UserId} (h : s'.withdrawalRequestRateLimiter =
    (checkRateLimit cfg.withdrawalRequestRateLimiterSettings env.instant
      s.withdrawalRequestRateLimiter uid).2) :
    (WindowOver cfg s env uid → charge uid (s, s') = -(s.withdrawals uid : Int)) ∧
    (¬WindowOver cfg s env uid → charge uid (s, s') = 1 ∧
      (Admits cfg s env uid ↔
        s.withdrawals uid < cfg.withdrawalRequestRateLimiterSettings.requestLimit)) := by
  have hcounter : ((s.withdrawalRequestRateLimiter.lookup uid).getD (0, env.instant)).1 =
      s.withdrawals uid := by
    unfold State.withdrawals
    cases s.withdrawalRequestRateLimiter.lookup uid <;> rfl
  rw [checkRateLimit_eq] at h
  unfold charge Admits
  rw [checkRateLimit_eq]
  show (_ → ((State.withdrawals s' uid : Int) - _ = _)) ∧
    (_ → ((State.withdrawals s' uid : Int) - _ = _) ∧ _)
  have hafter : s'.withdrawals uid =
      (countRequest cfg.withdrawalRequestRateLimiterSettings env.instant
        (s.withdrawalRequestRateLimiter.lookup uid)).2.1 := by
    unfold State.withdrawals
    rw [h, AList.lookup_insert]
    rfl
  rw [hafter]
  unfold WindowOver countRequest
  constructor
  · intro hover
    rw [if_neg (Nat.not_lt.mpr hover)]
    simp
  · intro hover
    rw [if_pos (Nat.not_le.mp hover), hcounter]
    constructor
    · show ((s.withdrawals uid + 1 : Nat) : Int) - s.withdrawals uid = 1
      omega
    · show decide (s.withdrawals uid + 1 ≤ _) = true ↔ _
      rw [decide_eq_true_iff]
      omega

/-! ## Through the dealer and back -/

/-- The dealer has a rate for the amount of the invoice. -/
def QuotesPayment (dcfg : DealerConfig) (t : DealerState) (req : PaymentRequest) : Prop :=
  ∃ conversion amount rate fees, ConversionInfo.new req.currency .BTC = .ok conversion ∧
    req.invoiceAmount = some amount ∧
    DealerEngine.getRateInv dcfg t amount conversion = .ok (some rate, fees)

/-- The dealer answers if it has a rate, and is silent otherwise. -/
theorem DealerDelivers.quotes_payment {t t' : DealerState} {denv : DealerEnv}
    {req : PaymentRequest}
    (h : DealerDelivers dcfg t ⟨denv, .bank (.api (.paymentRequest req))⟩ t') :
    (QuotesPayment dcfg t req ∧ ∃ rate fees, t'.sent = t.sent ++
      [.api (.paymentRequest { req with rate := some rate, fees := fees })]) ∨
    ¬QuotesPayment dcfg t req ∧ t'.sent = t.sent := by
  have hspec : Ensures (DealerEngine.paymentRequest dcfg req) t fun _ t' =>
      (QuotesPayment dcfg t req ∧ ∃ rate fees, t'.sent = t.sent ++
        [.api (.paymentRequest { req with rate := some rate, fees := fees })]) ∨
      ¬QuotesPayment dcfg t req ∧ t'.sent = t.sent := by
    refine Ensures.lift_bind fun conversion hconversion => ?_
    cases hamount : req.invoiceAmount with
    | none =>
      refine .inr ⟨fun h => ?_, rfl⟩
      obtain ⟨_, amount, _, _, -, hsome, -⟩ := h
      exact absurd (hamount.symm.trans hsome) (by simp)
    | some amount =>
      refine Ensures.get_bind (Ensures.lift_bind fun quoted hquoted => ?_)
      obtain ⟨rate, fees⟩ := quoted
      cases rate with
      | none =>
        refine .inr ⟨fun h => ?_, rfl⟩
        obtain ⟨conversion', amount', rate, fees', hconversion', hamount', hrate⟩ := h
        obtain rfl := Except.ok.inj (hconversion.symm.trans hconversion')
        obtain rfl := Option.some.inj (hamount.symm.trans hamount')
        exact absurd (hquoted.symm.trans hrate) (by simp)
      | some rate => exact .inl ⟨⟨conversion, amount, rate, fees, hconversion, hamount, hquoted⟩,
          rate, fees, rfl⟩
  exact hspec.of_run (dealerDelivers_iff.mp h)

/-- The dealer's answer is the request with a rate. -/
theorem DealerDelivers.payment_answer {t t' : DealerState} {denv : DealerEnv}
    {req answer : PaymentRequest}
    (h : DealerDelivers dcfg t ⟨denv, .bank (.api (.paymentRequest req))⟩ t')
    (hsent : t'.sent = t.sent ++ [.api (.paymentRequest answer)]) :
    ∃ rate fees, answer = { req with rate := some rate, fees := fees } := by
  rcases h.quotes_payment with ⟨-, rate, fees, hanswer⟩ | ⟨-, hnothing⟩
  · rw [hanswer, List.append_cancel_left_eq] at hsent
    injection hsent with hsent
    injection hsent with hsent
    injection hsent with hsent
    exact ⟨rate, fees, hsent.symm⟩
  · rw [hnothing] at hsent
    exact absurd hsent (by simp)

/-- A payment request through the bank and, if the bank asks for a rate, through the
dealer and the bank again, whose window has not passed by then: the steps of the bank
that handle it. -/
inductive Course (cfg : Config) (dcfg : DealerConfig) (msg : PaymentRequest) (s₀ : State)
    (env : Env) : List (State × State) → Prop
  | once {s₁ : State} (first : Delivers cfg s₀ ⟨env, .api (.paymentRequest msg)⟩ s₁) :
      Course cfg dcfg msg s₀ env [(s₀, s₁)]
  | again {s₁ s₂ s₃ : State} {t t' : DealerState} {env' : Env} {denv : DealerEnv}
      {req answer : PaymentRequest} {ds : List Delivery}
      (first : Delivers cfg s₀ ⟨env, .api (.paymentRequest msg)⟩ s₁)
      (asked : (.api (.paymentRequest req), .dealer) ∈ s₁.sent)
      (priced : DealerDelivers dcfg t ⟨denv, .bank (.api (.paymentRequest req))⟩ t')
      (answered : t'.sent = t.sent ++ [.api (.paymentRequest answer)])
      (run : Run cfg s₁ ds s₂) (inWindow : SameWindow cfg s₁ s₂ env' msg.uid)
      (second : Delivers cfg s₂ ⟨env', .api (.paymentRequest answer)⟩ s₃) :
      Course cfg dcfg msg s₀ env [(s₀, s₁), (s₂, s₃)]

theorem SameWindow.not_over {s₁ s₂ : State} {uid : UserId} (h : SameWindow cfg s₁ s₂ env uid) :
    ¬WindowOver cfg s₂ env uid := by
  obtain ⟨_, _, start, -, hlookup, hinside⟩ := h
  unfold WindowOver
  rw [hlookup]
  exact Nat.not_le.mpr hinside

/-- An admitted request is refused nowhere on its course and charged at most once exactly
if it never comes back from the dealer, or it was admitted by a reset and the counter is
below the limit when it comes back. -/
theorem charged_once_iff {msg : PaymentRequest} {s₀ : State} {handlings : List (State × State)}
    (course : Course cfg dcfg msg s₀ env handlings) (admitted : Admits cfg s₀ env msg.uid) :
    ((∀ step ∈ handlings, ¬LimitExceeded step.2) ∧
      (handlings.map (charge msg.uid)).sum ≤ 1) ↔
    ∀ step ∈ handlings.tail, WindowOver cfg s₀ env msg.uid ∧
      step.1.withdrawals msg.uid < cfg.withdrawalRequestRateLimiterSettings.requestLimit := by
  have hfirst {s₁ : State} (h : Delivers cfg s₀ ⟨env, .api (.paymentRequest msg)⟩ s₁) :
      ¬LimitExceeded s₁ ∧ charge msg.uid (s₀, s₁) ≤ 1 ∧
        (charge msg.uid (s₀, s₁) ≤ 0 ↔ WindowOver cfg s₀ env msg.uid) := by
    obtain ⟨hlimiter, hexceeded, -⟩ := h.charges
    obtain ⟨hover, hcounted⟩ := charge_of_check hlimiter
    refine ⟨fun h => hexceeded.mp h admitted, ?_⟩
    by_cases h : WindowOver cfg s₀ env msg.uid
    · have := hover h
      simp only [h, iff_true]
      omega
    · have := (hcounted h).1
      simp only [h, iff_false]
      omega
  cases course with
  | once first =>
    obtain ⟨hallowed, hcharge, -⟩ := hfirst first
    simp [hallowed, hcharge]
  | @again s₁ s₂ s₃ t t' env' denv req answer ds first asked priced answered run inWindow second =>
    obtain ⟨hallowed, -, hreset⟩ := hfirst first
    -- the answer is a request of the same user, counted in the same window
    have huid : answer.uid = msg.uid := by
      obtain ⟨rate, fees, rfl⟩ := priced.payment_answer answered
      exact first.charges.2.2 req asked admitted
    obtain ⟨hlimiter, hexceeded, -⟩ := second.charges
    rw [huid] at hlimiter hexceeded
    obtain ⟨hcharge, hadmits⟩ := (charge_of_check hlimiter).2 inWindow.not_over
    have hlimit : ¬LimitExceeded s₃ ↔
        s₂.withdrawals msg.uid < cfg.withdrawalRequestRateLimiterSettings.requestLimit := by
      rw [hexceeded, not_not, hadmits]
    have hsum : charge msg.uid (s₀, s₁) + (charge msg.uid (s₂, s₃) + 0) ≤ 1 ↔
        WindowOver cfg s₀ env msg.uid := by
      rw [← hreset, hcharge]
      omega
    simp only [List.mem_cons, List.not_mem_nil, or_false, forall_eq_or_imp, forall_eq,
      List.map_cons, List.map_nil, List.sum_cons, List.sum_nil, List.tail_cons]
    rw [hsum, hlimit]
    tauto

/-! ### A payment in dollars -/

namespace Sample

/-- Alice pays the shop from her dollars. -/
def payDollars : PaymentRequest := { payShop with currency := .USD }

/-- Alice is a user, and some of her requests may be counted. -/
def aliceKnown (limiter : RateLimiter) : State :=
  { state with ledger := state.ledger.openUser 7, withdrawalRequestRateLimiter := limiter }

def paymentAsked : Message × ServiceIdentity → Option PaymentRequest
  | (.api (.paymentRequest req), .dealer) => some req
  | _ => none

theorem mem_of_paymentAsked {s : State} {req : PaymentRequest}
    (h : req ∈ s.sent.filterMap paymentAsked) :
    (.api (.paymentRequest req), .dealer) ∈ s.sent := by
  obtain ⟨m, hm, he⟩ := List.mem_filterMap.mp h
  unfold paymentAsked at he
  split at he
  · injection he with he
    rw [← he]
    exact hm
  · exact absurd he (by simp)

/-- The rate and the fee for the 500 sats of the shop. -/
def shopQuote : Option Rate × Option Money :=
  (some (Rate.new .USD .BTC (2486319 / 50000000000)),
    some (Money.new .BTC (248631 / 1000000000000)))

/-- A dealer that knows the dollar book answers a payment of 500 sats. -/
theorem exists_shopAnswer : ∃ t : DealerState, ∀ req : PaymentRequest,
    req.currency = .USD → req.invoiceAmount = some (Money.fromSats 500) → ∃ t',
      DealerDelivers dealerConfig t ⟨dealerEnv 2, .bank (.api (.paymentRequest req))⟩ t' ∧
      t'.sent = t.sent ++
        [.api (.paymentRequest { req with rate := shopQuote.1, fees := shopQuote.2 })] := by
  let conversion : ConversionInfo := ⟨.USD, .BTC, .BTC, .USD, usdSymbol, .bid⟩
  have hconversion : ConversionInfo.new .USD .BTC = .ok conversion := by decide
  obtain ⟨t, -, hquote⟩ := exists_dealerDelivers dealerConfig
    ⟨dealerEnv 1, dollarBook "snapshot" 20000 20010 100⟩ dealer
    (fun t => DealerEngine.getRateInv dealerConfig t (Money.fromSats 500) conversion =
      .ok shopQuote) (by decide +kernel)
  refine ⟨t, fun req hcurrency hamount => ?_⟩
  refine ⟨{ t with sent := t.sent ++
    [.api (.paymentRequest { req with rate := shopQuote.1, fees := shopQuote.2 })] },
    dealerDelivers_iff.mpr ?_, rfl⟩
  show DealerEngine.paymentRequest dealerConfig req t = _
  unfold DealerEngine.paymentRequest
  rw [hcurrency, hamount, run_lift_bind hconversion]
  dsimp only
  rw [run_get_bind, run_lift_bind hquote]
  rfl

/-- The payment comes in at one time, and its answer at another. -/
theorem exists_dollarCourse (s₀ : State) (now now' : Nat) (P : State → State → Prop)
    [∀ s₁, DecidablePred (P s₁)]
    (h : (deliver config ⟨Sample.env now, .api (.paymentRequest payDollars)⟩ s₀).toOption.any
      (fun s₁ => decide ((s₁.withdrawalRequestRateLimiter.lookup 7).any
          (fun e => decide (now' - e.2 < 1000)) = true ∧
        (s₁.sent.filterMap paymentAsked).any (fun req => decide (
          req.currency = .USD ∧ req.invoiceAmount = some (Money.fromSats 500) ∧
          (deliver config ⟨Sample.env now', .api (.paymentRequest
            { req with rate := shopQuote.1, fees := shopQuote.2 })⟩ s₁).toOption.any
              (fun s₃ => decide (P s₁ s₃)) = true)) = true)) = true) :
    ∃ s₁ s₃, Course config dealerConfig payDollars s₀ (Sample.env now) [(s₀, s₁), (s₁, s₃)] ∧
      P s₁ s₃ := by
  obtain ⟨s₁, h₁, hwindow, h⟩ := exists_delivers _ _ _ _ h
  obtain ⟨⟨n, start⟩, hlookup, hinside⟩ := (Option.any_eq_true _ _).mp hwindow
  obtain ⟨req, hreq, h⟩ := List.any_eq_true.mp h
  obtain ⟨hcurrency, hamount, h⟩ := of_decide_eq_true h
  obtain ⟨s₃, h₃, hP⟩ := exists_delivers _ _ _ _ h
  obtain ⟨t, hanswers⟩ := exists_shopAnswer
  obtain ⟨t', hpriced, hanswered⟩ := hanswers req hcurrency hamount
  have hsame : SameWindow config s₁ s₁ (Sample.env now') payDollars.uid :=
    ⟨n, n, start, hlookup, hlookup, of_decide_eq_true hinside⟩
  exact ⟨s₁, s₃, .again h₁ (mem_of_paymentAsked hreq) hpriced hanswered (Trace.nil _) hsame h₃, hP⟩

end Sample

/-- A new user's payment in dollars is counted when it comes in and when the dealer has
answered. -/
theorem payment_charged_twice : ∃ s₁ s₃,
    Course Sample.config Sample.dealerConfig Sample.payDollars (Sample.aliceKnown ∅)
      (Sample.env 2) [(Sample.aliceKnown ∅, s₁), (s₁, s₃)] ∧
    Admits Sample.config (Sample.aliceKnown ∅) (Sample.env 2) Sample.payDollars.uid ∧
    ¬((∀ step ∈ [(Sample.aliceKnown ∅, s₁), (s₁, s₃)], ¬LimitExceeded step.2) ∧
      ([(Sample.aliceKnown ∅, s₁), (s₁, s₃)].map (charge Sample.payDollars.uid)).sum ≤ 1) := by
  obtain ⟨s₁, s₃, hcourse, hfirst, hlast⟩ := Sample.exists_dollarCourse (Sample.aliceKnown ∅) 2 3
    (fun s₁ s₃ => s₁.withdrawals 7 = 1 ∧ s₃.withdrawals 7 = 2) (by decide +kernel)
  refine ⟨s₁, s₃, hcourse, by decide +kernel, ?_⟩
  have hnone : (Sample.aliceKnown ∅).withdrawals 7 = 0 := by decide +kernel
  have huid : Sample.payDollars.uid = 7 := rfl
  simp [charge, huid, hnone, hfirst, hlast]

/-- After a pause of more than a second, the payment is counted once, when the dealer has
answered. -/
theorem payment_charged_after_pause : ∃ s₁ s₃,
    Course Sample.config Sample.dealerConfig Sample.payDollars
      (Sample.aliceKnown ((∅ : RateLimiter).insert 7 (3, 0))) (Sample.env 2000)
      [(Sample.aliceKnown ((∅ : RateLimiter).insert 7 (3, 0)), s₁), (s₁, s₃)] ∧
    (∀ step ∈ [(Sample.aliceKnown ((∅ : RateLimiter).insert 7 (3, 0)), s₁), (s₁, s₃)],
      ¬LimitExceeded step.2) ∧
    ([(Sample.aliceKnown ((∅ : RateLimiter).insert 7 (3, 0)), s₁), (s₁, s₃)].map
      (charge Sample.payDollars.uid)).sum ≤ 1 := by
  obtain ⟨s₁, s₃, hcourse, hfirst⟩ := Sample.exists_dollarCourse
    (Sample.aliceKnown ((∅ : RateLimiter).insert 7 (3, 0))) 2000 2500
    (fun s₁ _ => s₁.withdrawals 7 = 0) (by decide +kernel)
  refine ⟨s₁, s₃, hcourse, (charged_once_iff hcourse (by decide +kernel)).mpr ?_⟩
  intro step hstep
  rw [List.tail_cons, List.mem_singleton] at hstep
  have huid : Sample.payDollars.uid = 7 := rfl
  rw [hstep, huid]
  dsimp only
  rw [hfirst]
  exact ⟨by decide +kernel, by decide⟩

end Lndhubx
