import Lndhubx.Api.Routes
import Lndhubx.Bank.Lnurl
import Lndhubx.Bank.Returns

/-!
# What users can make the bank do

The messages the API builds from the requests of users, and when the bank handles
one to its end. The checks of the API leave three holes: a transfer to a user may
come without an amount, an invoice may be for more sats than a `u64` holds, and a
DCA setting for more than a decimal holds. What is left besides are a node that
cannot be reached and balances at the end of the range.
-/

namespace Lndhubx

open Prog BankEngine

variable {cfg : Config} {settings : ApiSettings}

/-- The rows of the directory were accepted by `setDcaSettings`. -/
def AcceptedRows (directory : Directory) : Prop :=
  ∀ row ∈ directory.dcaSettings, ∃ auth data, Routes.setDcaSettings auth data = .ok row

/-- A message the API built from a request, or a DCA over rows the API accepted. -/
inductive UserRequest (settings : ApiSettings) (d : Delivery) : Prop
  | payInvoice {env : ApiEnv} {auth : AuthData} {data : PayInvoiceData} {e : Envelope}
      {respond : Message → Option Body}
      (asks : Routes.payInvoice env auth data = .ok (.asked e respond)) (msg : d.msg = e.message)
  | addInvoice {env : ApiEnv} {auth : AuthData} {query : CreateInvoiceParams} {e : Envelope}
      {respond : Message → Option Body}
      (asks : Routes.addInvoice env auth query = .ok (.asked e respond)) (msg : d.msg = e.message)
  | swap {env : ApiEnv} {auth : AuthData} {data : SwapData} {e : Envelope}
      {respond : Message → Option Body}
      (asks : Routes.swap env auth data = .ok (.asked e respond)) (msg : d.msg = e.message)
  | createLnurlWithdrawal {env : ApiEnv} {auth : AuthData} {query : CreateLnurlWithdrawalParams}
      {e : Envelope} {respond : Message → Option Body}
      (asks : Routes.createLnurlWithdrawal env auth query = .ok (.asked e respond))
      (msg : d.msg = e.message)
  | getLnurlWithdrawal {query : GetLnurlWithdrawalParams} {e : Envelope}
      {respond : Message → Option Body}
      (asks : Routes.getLnurlWithdrawal query = .ok (.asked e respond)) (msg : d.msg = e.message)
  | payLnurlWithdrawal {query : PayLnurlWithdrawalParams} {e : Envelope}
      {respond : Message → Option Body}
      (asks : Routes.payLnurlWithdrawal query = .ok (.asked e respond)) (msg : d.msg = e.message)
  | payAddress {env : ApiEnv} {username : String} {query : PayAddressParams} {e : Envelope}
      {respond : Message → Option Body}
      (asks : Routes.payAddress settings env username query = .ok (.asked e respond))
      (msg : d.msg = e.message)
  | dca {m : DcaRebalance} (rows : AcceptedRows d.env.directory)
      (msg : d.msg = .bank (.dcaRebalance m))

/-! ## What the handlers build -/

/-- What the bank can rely on in a payment request of the API. -/
theorem payInvoice_built {env : ApiEnv} {auth : AuthData} {data : PayInvoiceData} {e : Envelope}
    {respond : Message → Option Body}
    (h : Routes.payInvoice env auth data = .ok (.asked e respond)) :
    ∃ m, e.message = .api (.paymentRequest m) ∧ m.rate = none ∧
      ∀ amount, m.amount = some amount → amount.currency = m.currency := by
  simp only [Routes.payInvoice] at h
  split_ifs at h
  · cases h
  · cases h
  · cases h
  · cases h
  · injection h with h
    injection h with h
    rw [← h]
    refine ⟨_, rfl, rfl, fun amount hamount => ?_⟩
    obtain ⟨a, -, rfl⟩ := Option.map_eq_some_iff.mp hamount
    rfl

theorem addInvoice_built {env : ApiEnv} {auth : AuthData} {query : CreateInvoiceParams}
    {e : Envelope} {respond : Message → Option Body}
    (h : Routes.addInvoice env auth query = .ok (.asked e respond)) :
    ∃ m, e.message = .api (.invoiceRequest m) ∧ m.amount.currency = m.currency ∧
      0 ≤ m.amount.value := by
  simp only [Routes.addInvoice] at h
  split_ifs at h with hpos
  · cases h
  · cases h
  · injection h with h
    injection h with h
    rw [← h]
    exact ⟨_, rfl, rfl, Decimal.roundToZero_nonneg (not_le.mp hpos).le⟩

theorem payAddress_built {env : ApiEnv} {username : String} {query : PayAddressParams}
    {e : Envelope} {respond : Message → Option Body}
    (h : Routes.payAddress settings env username query = .ok (.asked e respond)) :
    ∃ m, e.message = .api (.invoiceRequest m) ∧ m.amount.currency = m.currency ∧
      0 ≤ m.amount.value := by
  unfold Routes.payAddress at h
  split at h
  · cases h
  · dsimp only at h
    split at h
    · cases h
    · split at h
      · cases h
      · next hpos =>
        split at h
        · cases h
        · split at h
          · cases h
          · injection h with h
            injection h with h
            rw [← h]
            exact ⟨_, rfl, rfl, Decimal.roundToZero_nonneg (not_le.mp hpos).le⟩

/-- The settings the API accepts are between two currencies. -/
theorem setDcaSettings_currencies {auth : AuthData} {data : DcaSettingData} {row : DcaSetting}
    (h : Routes.setDcaSettings auth data = .ok row) :
    Currency.fromStr row.fromCurrency ≠ none ∧ Currency.fromStr row.toCurrency ≠ none := by
  unfold Routes.setDcaSettings at h
  dsimp only at h
  split at h
  · cases h
  · split at h
    · cases h
    · next hfrom =>
      split at h
      · cases h
      · next hto =>
        injection h with h
        rw [← h]
        exact ⟨by simpa using hfrom, by simpa using hto⟩

/-! ## Withdrawals in store -/

/-- A withdrawal is in its own currency, at a rate between it and bitcoin if at any. -/
def WellQuoted : Message → Prop
  | .api (.createLnurlWithdrawalRequest m) => m.amount.currency = m.currency ∧
      ∀ r, m.rate = some r → r.value ≠ 0 ∧
        (r.base = .BTC ∧ r.quote = m.currency ∨ r.base = m.currency ∧ r.quote = .BTC)
  | _ => True

/-- Every withdrawal in store can be changed into bitcoin. -/
def StoredQuoted (s : State) : Prop :=
  ∀ id t req, s.lnurlWithdrawalRequests.lookup id = some (t, req) → Quoted req

theorem StoredQuoted.step {s s' : State} {d : Delivery} (hs : StoredQuoted s)
    (hd : WellQuoted d.msg) (h : Delivers cfg s d s') : StoredQuoted s' := by
  have hout := h.outcome.withdrawals rfl
  generalize hmsg : d.msg = msg at hout hd
  cases hout with
  | kept same _ =>
    intro id t req hreq
    rw [same] at hreq
    exact hs id t req hreq
  | created m _ rate kept _ =>
    intro id t req hreq
    rw [kept] at hreq
    by_cases hid : id = m.reqId
    · subst hid
      rw [AList.lookup_insert] at hreq
      injection hreq with hreq
      obtain ⟨-, rfl⟩ := Prod.mk.inj hreq
      refine ⟨fun a ha => ?_, fun hnone => ?_, hd.2⟩
      · injection ha with ha
        rw [← ha]
        exact hd.1
      · by_contra hne
        have hnone : m.rate = none := hnone
        have := rate hne
        rw [hnone] at this
        exact absurd this (by simp)
    · rw [AList.lookup_insert_ne hid] at hreq
      exact hs id t req hreq
  | paid m _ _ _ taken _ =>
    intro id t req hreq
    rw [taken] at hreq
    by_cases hid : id = m.reqId
    · subst hid
      rw [AList.lookup_erase] at hreq
      exact absurd hreq (by simp)
    · rw [AList.lookup_erase_ne hid] at hreq
      exact hs id t req hreq

theorem StoredQuoted.of_run {db : Db} {insuranceId : Uuid} {ds : List Delivery} {s : State}
    (h : Run cfg (State.new db insuranceId) ds s) (hds : ∀ d ∈ ds, WellQuoted d.msg) :
    StoredQuoted s :=
  h.invariant (fun _ d _ hd hs hstep => hs.step (hds d hd) hstep)
    fun id t req hreq => absurd hreq (by simp [State.new])

/-! ## Requests that are handled to their end -/

/-- What a request of a user must not run into. -/
def Survives (cfg : Config) (s : State) (d : Delivery) : Prop :=
  match d.msg with
  | .api (.paymentRequest m) => PaymentSurvives cfg d.env s m
  | .api (.invoiceRequest m) => InvoiceSurvives cfg d.env s m
  | .api (.getLnurlWithdrawalRequest m) => ∀ t req,
      s.lnurlWithdrawalRequests.lookup m.reqId = some (t, req) → WorthFits req
  | .bank (.dcaRebalance m) => d.env.db .conn = true → d.env.db .dca = true →
      ∀ row ∈ d.env.directory.dcaByInterval m.intervalName, |row.amount| ≤ Decimal.MAX
  | _ => True

/-- What a payment must not run into does not depend on what was sent before. -/
theorem PaymentSurvives.unsent {env : Env} {s : State} {m : PaymentRequest}
    (hs : PaymentSurvives cfg env s m) : PaymentSurvives cfg env { s with sent := [] } m := by
  have hreached (h : PaymentReached cfg env { s with sent := [] } m) : PaymentReached cfg env s m :=
    ⟨h.limit, h.known, h.amount, h.conn, h.payer⟩
  have htransfer {username : String}
      (h : TransferReached cfg env { s with sent := [] } m username) :
      TransferReached cfg env s m username :=
    ⟨hreached h.toPaymentReached, h.routed, h.internalConn⟩
  refine ⟨fun _ h => hs.named _ (htransfer h), fun _ h => hs.payer _ (htransfer h),
    fun _ u amount h => hs.recipient _ u amount (htransfer h), fun pr decoded h => ?_⟩
  have hfits := hs.invoice pr decoded ⟨hreached h.toPaymentReached, ⟨h.payable, h.foreign⟩,
    h.routed, h.bitcoin, h.request, h.readable, h.priced⟩
  exact ⟨hfits.connects, hfits.payer, hfits.liability, hfits.owner⟩

theorem delivers_of_returns {s : State} {d : Delivery}
    (h : Returns (processMsg cfg d.env d.msg) { s with sent := [] }) :
    ∃ s', Delivers cfg s d s' := by
  obtain ⟨u, s', hrun, -⟩ := completes_iff.mp h
  exact ⟨s', delivers_iff.mpr hrun⟩

/-- Every request of a user that meets the condition is handled to its end, in every
state a run of the bank leads to. -/
theorem request_handled_of_run {db : Db} {insuranceId : Uuid} {ds : List Delivery} {s : State}
    {d : Delivery} (hrun : Run cfg (State.new db insuranceId) ds s)
    (hquotes : ∀ d ∈ ds, WellQuoted d.msg) (hreq : UserRequest settings d)
    (hint : d.env.lnd.Int64) (hmargin : |cfg.lnNetworkFeeMargin| ≤ 10 ^ 9)
    (hs : Survives cfg s d) : ∃ s', Delivers cfg s d s' := by
  refine delivers_of_returns ?_
  obtain ⟨env, msg⟩ := d
  cases hreq with
  | payInvoice asks hmsg =>
    obtain ⟨m, hm, hrate, hcur⟩ := payInvoice_built asks
    obtain rfl : msg = .api (.paymentRequest m) := hmsg.trans hm
    exact paymentRequest_returns hint hmargin hrate hcur (PaymentSurvives.unsent hs)
  | addInvoice asks hmsg =>
    obtain ⟨m, hm, hcur, hpos⟩ := addInvoice_built asks
    obtain rfl : msg = .api (.invoiceRequest m) := hmsg.trans hm
    have hs : InvoiceSurvives cfg env s m := hs
    exact invoiceRequest_returns hcur hpos fun h => hs ⟨h.limit, h.deposits, h.conn, h.account⟩
  | swap asks hmsg =>
    have hm : ∃ m, msg = .api (.swapRequest m) := by
      simp only [Routes.swap] at asks
      split_ifs at asks
      · cases asks
      · injection asks with h
        injection h with h
        exact ⟨_, hmsg.trans (by rw [← h])⟩
    obtain ⟨m, rfl⟩ := hm
    exact send_returns _ _
  | createLnurlWithdrawal asks hmsg =>
    have hm : ∃ m, msg = .api (.createLnurlWithdrawalRequest m) := by
      simp only [Routes.createLnurlWithdrawal] at asks
      split_ifs at asks
      · cases asks
      · injection asks with h
        injection h with h
        exact ⟨_, hmsg.trans (by rw [← h])⟩
    obtain ⟨m, rfl⟩ := hm
    exact createLnurlWithdrawal_returns m
  | @getLnurlWithdrawal query e respond asks hmsg =>
    injection asks with h
    injection h with h
    obtain rfl : msg = .api (.getLnurlWithdrawalRequest ⟨query.q⟩) := hmsg.trans (by rw [← h])
    refine getLnurlWithdrawal_returns fun t req hstored => ?_
    exact ⟨StoredQuoted.of_run hrun hquotes _ t req hstored, hs t req hstored⟩
  | @payLnurlWithdrawal query e respond asks hmsg =>
    injection asks with h
    injection h with h
    obtain rfl : msg = .api (.payLnurlWithdrawalRequest ⟨query.k1, query.pr⟩) :=
      hmsg.trans (by rw [← h])
    exact payLnurlWithdrawal_returns _
  | payAddress asks hmsg =>
    obtain ⟨m, hm, hcur, hpos⟩ := payAddress_built asks
    obtain rfl : msg = .api (.invoiceRequest m) := hmsg.trans hm
    have hs : InvoiceSurvives cfg env s m := hs
    exact invoiceRequest_returns hcur hpos fun h => hs ⟨h.limit, h.deposits, h.conn, h.account⟩
  | @dca m rows hmsg =>
    obtain rfl : msg = .bank (.dcaRebalance m) := hmsg
    refine dcaRebalance_returns fun hconn hdca row hrow => ?_
    obtain ⟨auth, data, hset⟩ := rows row (List.mem_of_mem_filter hrow)
    obtain ⟨hfrom, hto⟩ := setDcaSettings_currencies hset
    exact ⟨hfrom, hto, hs hconn hdca row hrow⟩

namespace Sample

/-- A transfer to bob. -/
def payBob (amount : Option Decimal) : PayInvoiceData where
  paymentRequest := none
  currency := none
  recipient := some "bob"
  amount

/-- What the API makes of it, for alice. -/
def bobRequest (amount : Option Decimal) : PaymentRequest where
  reqId := 1
  uid := 7
  paymentRequest := none
  currency := .BTC
  recipient := some "bob"
  destination := none
  amount := amount.map (Money.new .BTC)
  invoiceAmount := none
  rate := none
  fees := none

theorem payBob_asks (amount : Option Decimal) (h : amount.any (· ≤ 0) = false) :
    ∃ respond, Routes.payInvoice (apiEnv 1) ⟨7⟩ (payBob amount) =
      .ok (.asked ⟨.api (.paymentRequest (bobRequest amount)), respondsWith .payment 1⟩
        respond) := by
  refine ⟨responseBody .payment, ?_⟩
  unfold Routes.payInvoice payBob
  dsimp only
  rw [h]
  have hbob : "bob".utf8ByteSize = 3 := by decide
  simp [askFor, bobRequest, apiEnv, asU64, hbob]

/-- No user has an account in a new bank. -/
theorem hasRoom_new {db : Db} {insuranceId : Uuid} (uid : UserId) (c : Currency) {v : Decimal}
    (hv : v ≤ Decimal.MAX) : (State.new db insuranceId).ledger.HasRoom (.user uid) c v :=
  ⟨hv, fun id a ha => absurd ha (by simp [State.new, Ledger.new, Ledger.get, Ledger.holder,
    UserAccount.new])⟩

end Sample

/-- A transfer that names its amount. -/
theorem request_handled_sample : ∃ s', Delivers Sample.config Sample.state
    ⟨Sample.env 1, .api (.paymentRequest (Sample.bobRequest (some 1)))⟩ s' := by
  obtain ⟨respond, hasks⟩ := Sample.payBob_asks (some 1) (by simp)
  have hreq : UserRequest Sample.apiSettings
      ⟨Sample.env 1, .api (.paymentRequest (Sample.bobRequest (some 1)))⟩ := .payInvoice hasks rfl
  refine request_handled_of_run (.nil _) (by simp) hreq
    ⟨by simp [Sample.env, Sample.lnd], by simp [Sample.env, Sample.lnd]⟩
    (by norm_num [Sample.config]) ?_
  have hroom : ∀ uid, (Sample.state).ledger.HasRoom (.user uid) .BTC (Money.new .BTC 1).value :=
    fun uid => Sample.hasRoom_new uid .BTC
      ((Decimal.roundToZero_le (by norm_num)).trans (by norm_num [Decimal.MAX]))
  refine ⟨fun _ _ h => absurd h (by simp [Sample.bobRequest]), fun _ _ => ?_, ?_, ?_⟩
  · exact Sample.hasRoom_new 7 .BTC (by norm_num [Decimal.MAX])
  · intro username u amount _ _ hamount
    injection hamount with hamount
    rw [← hamount]
    exact hroom _
  · intro pr decoded h
    exact absurd h.request (by simp [Sample.bobRequest])

/-- Alice, who has an account, transfers to bob and names no amount: the bank panics. -/
theorem transfer_without_amount_panics : ∃ ds s d,
    Run Sample.config Sample.state ds s ∧ UserRequest Sample.apiSettings d ∧
      deliver Sample.config d s = .error .unwrap ∧ ¬∃ s', Delivers Sample.config s d s' := by
  obtain ⟨s, hrun, hpanic⟩ := exists_run Sample.config [⟨Sample.env 1, Sample.deposit⟩] Sample.state
    (fun s => (match deliver Sample.config
        ⟨Sample.env 2, .api (.paymentRequest (Sample.bobRequest none))⟩ s with
      | .error .unwrap => true
      | _ => false) = true) (by decide +kernel)
  obtain ⟨respond, hasks⟩ := Sample.payBob_asks none (by simp)
  have hpanic : deliver Sample.config
      ⟨Sample.env 2, .api (.paymentRequest (Sample.bobRequest none))⟩ s = .error .unwrap := by
    split at hpanic
    next h => exact h
    next => exact absurd hpanic (by simp)
  refine ⟨_, s, _, hrun, .payInvoice hasks rfl, hpanic, fun h => ?_⟩
  obtain ⟨s', h⟩ := h
  unfold Delivers at h
  rw [hpanic] at h
  exact absurd h (by simp)

end Lndhubx
