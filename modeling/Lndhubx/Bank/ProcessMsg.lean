import Lndhubx.Bank.Service
import Lndhubx.Lib.Trace

/-!
# One message, and runs of messages

`BankEngine::process_msg`: the dispatch of a message to its handler. The main
loop (`bank/src/lib.rs`) takes messages from its sockets and channels one at a
time, so a run of the bank is a sequence of messages, each handled in its own
surroundings (`Delivery`). A panic ends the process and with it the run:
`Delivers` is the step of a message that was handled to its end.
-/

namespace Lndhubx

namespace BankEngine

def processDealer (cfg : Config) (env : Env) : Dealer → Handler Unit
  | .health h => modify fun s => { s with
      availableCurrencies := if h.status = .down then [] else h.availableCurrencies
      lastRates := h.rates }
  | .bankStateRequest _ => sendBankState
  | .payInvoice msg => processDealerInvoice cfg env msg false
  | .payInsuranceInvoice msg => processDealerInvoice cfg env msg true
  | .createInvoiceRequest req =>
    processCreateInvoiceRequest cfg env { req with memo := "KolliderSettlement" } DEALER_UID
  | .createInsuranceInvoiceRequest req =>
    processCreateInvoiceRequest cfg env { req with memo := "ExternalDeposit" } DEALER_UID
  | .fiatDepositResponse msg => fiatDepositResponse env msg
  | .karmaBalance msg => karmaBalance env msg
  | .bankState _ => return
  | .createInvoiceResponse _ => return
  | .fiatDepositRequest _ => return

def processApi (cfg : Config) (env : Env) : Api → Handler Unit
  | .invoiceRequest msg => invoiceRequest cfg env msg
  | .invoiceResponse msg => invoiceResponse cfg env msg
  | .paymentRequest msg => paymentRequest cfg env msg
  | .swapRequest msg => send (.api (.swapRequest msg)) .dealer
  | .swapResponse msg => swapResponse env msg
  | .getBalances msg => getBalances env msg
  | .quoteRequest msg => send (.api (.quoteRequest msg)) .dealer
  | .quoteResponse msg => sendApi (.quoteResponse msg)
  | .availableCurrenciesRequest msg => send (.api (.availableCurrenciesRequest msg)) .dealer
  | .availableCurrenciesResponse msg => sendApi (.availableCurrenciesResponse msg)
  | .getNodeInfoRequest msg => getNodeInfo cfg env msg
  | .createLnurlWithdrawalRequest msg => createLnurlWithdrawal cfg env msg
  | .getLnurlWithdrawalRequest msg => getLnurlWithdrawal cfg msg
  | .payLnurlWithdrawalRequest msg => payLnurlWithdrawal msg
  | .queryRouteRequest msg => queryRoute cfg env msg
  | .nostrProfileRequest msg => send (.api (.nostrProfileRequest msg)) .nostr
  | .nostrProfileSearchRequest msg => send (.api (.nostrProfileSearchRequest msg)) .nostr
  | .nostrProfileSearchResponse msg => sendApi (.nostrProfileSearchResponse msg)
  | .paymentResponse _ => return
  | .balances _ => return
  | .getNodeInfoResponse _ => return
  | .createLnurlWithdrawalResponse _ => return
  | .getLnurlWithdrawalResponse _ => return
  | .payLnurlWithdrawalResponse _ => return
  | .queryRouteResponse _ => return

def processMsg (cfg : Config) (env : Env) : Message → Handler Unit
  | .dealer msg => processDealer cfg env msg
  | .deposit msg => deposit cfg env msg
  | .api msg => processApi cfg env msg
  | .bank (.paymentResult res) => paymentResult env res
  | .bank (.dcaRebalance msg) => dcaRebalance env msg
  | .cli (.makeTx tx) => do
    let result ← processMakeTx env tx
    -- The identity is ignored by the listener of the operator's tool.
    send (.cli (.makeTxResult { tx, result })) .api
  | .nostr (.nostrProfilesRefetchRequest req) =>
    send (.nostr (.nostrProfilesRefetchRequest req)) .nostr
  | .cli (.makeTxResult _) => return
  | .nostr (.nostrPrivateMessage _) => return
  | .nostr (.nostrZapNote _) => return
  | .journal _ => return

end BankEngine

/-- A message and the surroundings it is handled in. -/
structure Delivery where
  env : Env
  msg : Message

/-- Handling one message, from an empty list of sent messages. -/
def deliver (cfg : Config) (d : Delivery) (s : State) : Except Panic State :=
  match BankEngine.processMsg cfg d.env d.msg { s with sent := [] } with
  | .ok (_, s') => .ok s'
  | .error e => .error e

/-- A message that was handled to its end. -/
def Delivers (cfg : Config) (s : State) (d : Delivery) (s' : State) : Prop :=
  deliver cfg d s = .ok s'

/-- A run of the bank: any sequence of handled messages. -/
abbrev Run (cfg : Config) : State → List Delivery → State → Prop := Trace (Delivers cfg)

theorem delivers_iff {cfg : Config} {d : Delivery} {s s' : State} :
    Delivers cfg s d s' ↔
      BankEngine.processMsg cfg d.env d.msg { s with sent := [] } = .ok ((), s') := by
  unfold Delivers deliver
  cases h : BankEngine.processMsg cfg d.env d.msg { s with sent := [] } with
  | error e => simp
  | ok r =>
    obtain ⟨⟨⟩, t⟩ := r
    simp

/-- What the handler of a message ensures holds after the message. -/
theorem Delivers.ensures {cfg : Config} {d : Delivery} {s s' : State} {Q : Unit → State → Prop}
    (h : Delivers cfg s d s')
    (hp : Prog.Ensures (BankEngine.processMsg cfg d.env d.msg) { s with sent := [] } Q) :
    Q () s' := hp.of_run (delivers_iff.mp h)

/-- A message panics as its handler may. -/
theorem deliver_throws {cfg : Config} {d : Delivery} {s : State} {e : Panic} {E : Panic → Prop}
    (h : deliver cfg d s = .error e) (hp : Prog.Throws E (BankEngine.processMsg cfg d.env d.msg)) :
    E e := by
  have hE := hp { s with sent := [] }
  unfold Prog.wp at hE
  unfold deliver at h
  cases hr : BankEngine.processMsg cfg d.env d.msg { s with sent := [] } with
  | ok r =>
    rw [hr] at h
    exact absurd h (by simp)
  | error e' =>
    rw [hr] at h hE
    rw [← Except.error.inj h]
    exact hE

/-- A run, computed. -/
def replay (cfg : Config) (ds : List Delivery) (s : State) : Except Panic State :=
  ds.foldlM (fun s d => deliver cfg d s) s

theorem run_iff_replay {cfg : Config} {ds : List Delivery} {s s' : State} :
    Run cfg s ds s' ↔ replay cfg ds s = .ok s' := Trace.iff_foldlM

/-- What holds of the state a message leads to holds of some step. -/
theorem exists_delivers (cfg : Config) (d : Delivery) (s : State) (P : State → Prop)
    [DecidablePred P] (h : (deliver cfg d s).toOption.any (fun s' => decide (P s')) = true) :
    ∃ s', Delivers cfg s d s' ∧ P s' := by
  cases hr : deliver cfg d s with
  | error e =>
    rw [hr] at h
    exact absurd h (by simp [Except.toOption])
  | ok s' =>
    rw [hr] at h
    exact ⟨s', hr, by simpa [Except.toOption] using h⟩

/-- What holds of the state a replay ends in holds of some run. -/
theorem exists_run (cfg : Config) (ds : List Delivery) (s : State) (P : State → Prop)
    [DecidablePred P] (h : (replay cfg ds s).toOption.any (fun s' => decide (P s')) = true) :
    ∃ s', Run cfg s ds s' ∧ P s' := by
  cases hr : replay cfg ds s with
  | error e =>
    rw [hr] at h
    exact absurd h (by simp [Except.toOption])
  | ok s' =>
    rw [hr] at h
    exact ⟨s', run_iff_replay.mpr hr, by simpa [Except.toOption] using h⟩

/-! ## A small bank

Two users, one open invoice of the first over 1000 sats, and an invoice of a shop
outside over 500 sats. The statements about runs are tried on it. -/

namespace Sample

def freshUuid (used : List Uuid) : Uuid := used.foldr max 0 + 1

theorem le_foldr_max {used : List Uuid} {id : Uuid} (h : id ∈ used) : id ≤ used.foldr max 0 := by
  induction used with
  | nil => exact absurd h (by simp)
  | cons a used ih =>
    rcases List.mem_cons.mp h with rfl | h
    · exact le_max_left _ _
    · exact (ih h).trans (le_max_right _ _)

theorem freshUuid_fresh (used : List Uuid) : freshUuid used ∉ used := by
  intro h
  exact absurd (le_foldr_max h) (by simp [freshUuid])

def lnd : Lnd where
  connects := true
  addInvoice := fun _ => none
  decodePayReq := fun _ => none
  queryRoutes := fun _ => none
  sendPaymentSync := fun _ => none
  getInfo := none

/-- The surroundings of a message handled at time `t`, every database call succeeding. -/
def env (t : Nat) : Env where
  db := fun _ => true
  directory := ⟨[⟨7, "alice", false⟩, ⟨9, "bob", false⟩], [], [], []⟩
  now := fun _ => t
  instant := t
  order := id
  order_perm := fun l => .refl l
  newUuid := freshUuid
  newUuid_fresh := freshUuid_fresh
  reqUuid := id
  hashUuid := 0
  lnd := lnd

def parseInvoice (pr : String) : Option Bolt11 :=
  if pr = "lnbc-alice" then some ⟨some 1000000, "alice", 3600⟩
  else if pr = "lnbc-shop" then some ⟨some 500000, "shop", 3600⟩
  else none

def config : Config where
  lnNetworkFeeMargin := 1 / 100
  lnNetworkMaxFee := 1 / 100
  internalTxFee := 0
  externalTxFee := 0
  reserveRatio := 1
  withdrawalOnly := false
  withdrawalRequestRateLimiterSettings := ⟨10, 1000⟩
  depositRequestRateLimiterSettings := ⟨10, 1000⟩
  domain := "kollider.me"
  parseInvoice
  lnurlEncode := fun path _ => some path
  uuidText := fun _ => ""
  textFns := ⟨some, id⟩

def aliceInvoice : Invoice where
  paymentHash := "alice"
  paymentRequest := "lnbc-alice"
  createdAt := 0
  value := 1000
  valueMsat := 1000000
  expiry := 86400
  settled := false
  addIndex := 1
  settledDate := 0
  accountId := 1
  uid := 7
  incoming := true
  owner := some 7
  fees := none
  currency := some "BTC"
  targetAccountCurrency := none
  reference := none
  description := none

def state : State := State.new { Db.empty with invoices := ⟨[aliceInvoice], by simp⟩ } 0

/-- Alice's invoice is paid from outside. -/
def deposit : Message := .deposit ⟨"lnbc-alice", "alice", "", "", 1000, 1000000, true, 0, 0⟩

/-- Alice pays the shop. -/
def payShop : PaymentRequest where
  reqId := 1
  uid := 7
  paymentRequest := some "lnbc-shop"
  currency := .BTC
  recipient := none
  destination := none
  amount := none
  invoiceAmount := none
  rate := none
  fees := none

def run : List Delivery := [⟨env 1, deposit⟩, ⟨env 2, .api (.paymentRequest payShop)⟩]

end Sample

end Lndhubx
