import Lndhubx.Models
import Lndhubx.Msgs

/-!
# The connector to the LND node

`lnd_connector/src/connector.rs`. The node itself is outside the repository:
it is a record of replies (`Lnd`), one function per remote call, each of which
may fail (`none` is an error of the transport). What the connector makes of a
request and of a reply is modelled here.

`unescape`, from a third-party crate, and `digest`, the SHA-256 of a text in
hexadecimal, are parameters (`TextFns`).
-/

namespace Lndhubx

/-- Pure functions of third-party crates over texts. -/
structure TextFns where
  unescape : String → Option String
  digest : String → String

/-- `lnrpc.Invoice`, as far as it is filled in. -/
structure AddInvoice where
  value : Int
  memo : String
  expiry : Int
  descriptionHash : String

structure AddInvoiceResponse where
  paymentRequest : String
  rHash : String
  addIndex : Nat

structure PayReq where
  numSatoshis : Int
  destination : String

structure QueryRoutesRequest where
  pubKey : String
  amt : Int
  feeLimit : Int

structure Route where
  totalFees : Int

/-- A payment request with a fixed fee limit; self payments are allowed. -/
structure SendRequest where
  paymentRequest : String
  feeLimit : Int

structure SendResponse where
  paymentError : String
  paymentRoute : Option Route
  paymentHash : String
  paymentPreimage : String

/-- How the node answers while one message is handled. -/
structure Lnd where
  connects : Bool
  addInvoice : AddInvoice → Option AddInvoiceResponse
  decodePayReq : String → Option PayReq
  queryRoutes : QueryRoutesRequest → Option (List Route)
  sendPaymentSync : SendRequest → Option SendResponse
  getInfo : Option LndNodeInfo

inductive LndConnectorError where
  | failedToCreateInvoice
  | failedToSendPayment
  | failedToGetNodeInfo
  | failedToQueryRoutes
  deriving DecidableEq

def LndConnectorError.display : LndConnectorError → String
  | failedToCreateInvoice => "FailedToCreateInvoice"
  | failedToSendPayment => "FailedToSendPayment"
  | failedToGetNodeInfo => "FailedToGetNodeInfo"
  | failedToQueryRoutes => "FailedToQueryRoutes"

structure PayResponse where
  paymentHash : String
  fee : Nat
  preimage : Option String

namespace LndConnector

def MINIMUM_FEE : Int := 10

/-- `amount as i64`. -/
def asI64 (n : Int) : Int := n.bmod (2 ^ 64)

/-- `LndConnector::new`. -/
def new (lnd : Lnd) : Checked Unit :=
  if lnd.connects then .ok () else .error (.explicit "failed to connect")

/-- What is asked of the node for an invoice; no request is made for a
metadata text that cannot be unescaped. -/
def addInvoiceRequest (fns : TextFns) (amount : Nat) (memo : String) (metadata : Option String) :
    Option AddInvoice :=
  match metadata with
  | none => some ⟨asI64 amount, memo, 86400, ""⟩
  | some m => (fns.unescape m).map fun u => ⟨asI64 amount, memo, 86400, fns.digest u⟩

def createInvoice (fns : TextFns) (lnd : Lnd) (now : Nat) (amount : Nat) (memo : String)
    (uid : UserId) (accountId : Uuid) (metadata : Option String) :
    Except LndConnectorError Invoice :=
  match addInvoiceRequest fns amount memo metadata with
  | none => .error .failedToCreateInvoice
  | some request =>
    match lnd.addInvoice request with
    | none => .error .failedToCreateInvoice
    | some r => .ok
      { uid := asI32 uid
        paymentRequest := r.paymentRequest
        paymentHash := r.rHash
        createdAt := now
        value := asI64 amount
        valueMsat := asI64 (asI64 amount * 1000)
        expiry := 86400
        settled := false
        addIndex := asI64 r.addIndex
        settledDate := 0
        owner := some (asI32 uid)
        accountId
        incoming := true
        fees := none
        currency := none
        targetAccountCurrency := none
        reference := some memo
        description := metadata }

/-- The fee limit sent with a payment: a fixed number of sats where one is
given, else a part of the amount. -/
def maxFee (amountInSats : Decimal) (maxFeeAsPp maxFeeInSats : Option Decimal) : Checked Int := do
  let maxFee ← match maxFeeAsPp with
    | some m => do
      let fee ← Decimal.mul amountInSats m
      pure ((fee.roundDp 0).toI64.getD 0)
    | none => pure 0
  match maxFeeInSats with
  | some m => return (m.roundDp 0).toI64.getD maxFee
  | none => return maxFee

/-- What the connector makes of the node's reply to a payment. An answer that
carries an error and an answer that never came are one case. -/
def payResponse : Option SendResponse → Except LndConnectorError PayResponse
  | none => .error .failedToSendPayment
  | some r =>
    if r.paymentError ≠ "" then .error .failedToSendPayment
    else .ok
      { fee := match r.paymentRoute with
          | some route => if 0 ≤ route.totalFees then route.totalFees.toNat else 0
          | none => 0
        paymentHash := r.paymentHash
        preimage := some r.paymentPreimage }

/-- The key-send argument of the source is ignored there and left out. -/
def payInvoice (lnd : Lnd) (paymentRequest : Option String) (amountInSats : Decimal)
    (maxFeeAsPp maxFeeInSats : Option Decimal) :
    Checked (Except LndConnectorError PayResponse) := do
  if maxFeeAsPp = none ∧ maxFeeInSats = none then
    return .error .failedToSendPayment
  let fee ← maxFee amountInSats maxFeeAsPp maxFeeInSats
  let some pr := paymentRequest | return .error .failedToSendPayment
  return payResponse (lnd.sendPaymentSync { paymentRequest := pr, feeLimit := fee })

def getNodeInfo (lnd : Lnd) : Except LndConnectorError LndNodeInfo :=
  match lnd.getInfo with
  | some info => .ok info
  | none => .error .failedToGetNodeInfo

/-- Max fee is always a percentage of amount; never a payment with lower fee
than `MINIMUM_FEE`. -/
def probe (lnd : Lnd) (paymentRequest : String) (maxFee : Decimal) :
    Checked (Except LndConnectorError (List Route)) := do
  let some r := lnd.decodePayReq paymentRequest | return .error .failedToQueryRoutes
  let fee ← Decimal.mul r.numSatoshis maxFee
  let limit := max ((fee.roundDp 0).toI64.getD MINIMUM_FEE) MINIMUM_FEE
  let query : QueryRoutesRequest :=
    { pubKey := r.destination, amt := r.numSatoshis, feeLimit := limit }
  match lnd.queryRoutes query with
  | some routes => return .ok routes
  | none => return .error .failedToQueryRoutes

end LndConnector

/-- What fits is read as it is. -/
theorem asI64_of_lt {n : ℤ} (hn : 0 ≤ n) (h : n < 2 ^ 63) : LndConnector.asI64 n = n := by
  unfold LndConnector.asI64
  rw [Int.bmod_def, Int.emod_eq_of_lt hn (by omega), if_pos (by omega)]

end Lndhubx
