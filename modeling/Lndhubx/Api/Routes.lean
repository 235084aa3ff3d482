import Lndhubx.LndConnector
import Lndhubx.Nostr

/-!
# The HTTP handlers that ask the bank

`api/src/routes`. A handler checks its request, hands `CommsActor` a message
for the bank together with a filter for the answer, and turns the message it
gets back into the body of its reply. The handlers that register a filter are
modelled, and `setDcaSettings`, whose rows the bank reads; the others read and
write the database only.

All filters but one are the same test: the right kind of response, with the
request id that was sent (`respondsWith`). The exception is `balance`, whose
filter compares the id it sent with itself.

A request id is drawn afresh for each request, except that the two unauthenticated
LNURL handlers take theirs from the link that was presented.
-/

namespace Lndhubx

/-! ## Requests, replies and errors -/

inductive RequestError where
  | invalidDataSupplied
  deriving DecidableEq

inductive DbError where
  | dbConnectionError
  | userDoesNotExist
  deriving DecidableEq

inductive ApiError where
  | request (e : RequestError)
  | db (e : DbError)
  deriving DecidableEq

/-- The JSON of a reply. -/
inductive Body where
  | response (msg : Api)
  | withdrawRequest (callback : String) (k1 : Uuid) (maxWithdrawable : Nat)
      (defaultDescription : String) (minWithdrawable : Nat) (tag : String)
  | status (text : String)
  | payRequest (pr paymentHash : Option String)
  | nostrProfile (reqId : RequestId) (profile : Option NostrProfile)
      (error : Option NostrResponseError)
  | error (text : String)

structure Envelope where
  message : Message
  responseFilter : Message → Bool

/-- How far a handler gets on its own. `respond` is what it makes of the message
it is given; `none`, like no message in time, is `ServerResponseTimeout`. -/
inductive Handled where
  | answered (body : Body)
  | asked (envelope : Envelope) (respond : Message → Option Body)

/-- The owner of the token a request came with; an `i32`. -/
structure AuthData where
  uid : Int

structure ApiSettings where
  domain : String
  nostr : NostrFns

/-- What a handler draws or reads: a UUID, a database connection and a user. -/
structure ApiEnv where
  newV4 : Uuid
  conn : Bool
  userQuery : Bool
  directory : Directory

structure PayInvoiceData where
  paymentRequest : Option String
  currency : Option Currency
  recipient : Option String
  amount : Option Decimal

structure CreateInvoiceParams where
  amount : Decimal
  «meta» : Option String
  metadata : Option String
  accountId : Option Uuid
  currency : Option Currency
  targetAccountCurrency : Option Currency

structure SwapData where
  fromCurrency : Currency
  toCurrency : Currency
  amount : Decimal
  quoteId : Option Nat

structure QuoteParams where
  fromCurrency : Currency
  toCurrency : Currency
  amount : Decimal

structure QueryRouteParams where
  paymentRequest : String
  maxFee : Option Decimal

structure KeySendData where
  amount : UInt64
  destination : String
  memo : String
  customRecords : Option (List (String × String))

structure DcaSettingData where
  interval : String
  amount : ℚ
  fromCurrency : String
  toCurrency : String

structure CreateLnurlWithdrawalParams where
  amount : Decimal
  currency : Currency

structure GetLnurlWithdrawalParams where
  q : Uuid

structure PayLnurlWithdrawalParams where
  k1 : Uuid
  pr : String

structure PayAddressParams where
  amount : UInt64
  nostr : Option String

structure GetNostrProfileParams where
  lightningAddress : Option String
  pubkey : Option String
  wrapped : Option Bool

structure SearchNostrProfileParams where
  text : String

/-! ## Filters -/

def Api.reqId : Api → RequestId
  | .invoiceRequest m => m.reqId
  | .invoiceResponse m => m.reqId
  | .paymentRequest m => m.reqId
  | .paymentResponse m => m.reqId
  | .swapRequest m => m.reqId
  | .swapResponse m => m.reqId
  | .getBalances m => m.reqId
  | .balances m => m.reqId
  | .quoteRequest m => m.reqId
  | .quoteResponse m => m.reqId
  | .availableCurrenciesRequest m => m.reqId
  | .availableCurrenciesResponse m => m.reqId
  | .getNodeInfoRequest m => m.reqId
  | .getNodeInfoResponse m => m.reqId
  | .createLnurlWithdrawalRequest m => m.reqId
  | .createLnurlWithdrawalResponse m => m.reqId
  | .getLnurlWithdrawalRequest m => m.reqId
  | .getLnurlWithdrawalResponse m => m.reqId
  | .payLnurlWithdrawalRequest m => m.reqId
  | .payLnurlWithdrawalResponse m => m.reqId
  | .queryRouteRequest m => m.reqId
  | .queryRouteResponse m => m.reqId
  | .nostrProfileRequest m => m.reqId
  | .nostrProfileSearchRequest m => m.reqId
  | .nostrProfileSearchResponse m => m.reqId

def Message.reqId : Message → Option RequestId
  | .api a => some a.reqId
  | _ => none

inductive ResponseKind where
  | invoice
  | payment
  | swap
  | quote
  | availableCurrencies
  | nodeInfo
  | createLnurlWithdrawal
  | getLnurlWithdrawal
  | payLnurlWithdrawal
  | queryRoute
  | nostrProfileSearch
  deriving DecidableEq

/-- The variants of `Api` the filters and the replies match on. -/
def Api.responseKind : Api → Option ResponseKind
  | .invoiceResponse _ => some .invoice
  | .paymentResponse _ => some .payment
  | .swapResponse _ => some .swap
  | .quoteResponse _ => some .quote
  | .availableCurrenciesResponse _ => some .availableCurrencies
  | .getNodeInfoResponse _ => some .nodeInfo
  | .createLnurlWithdrawalResponse _ => some .createLnurlWithdrawal
  | .getLnurlWithdrawalResponse _ => some .getLnurlWithdrawal
  | .payLnurlWithdrawalResponse _ => some .payLnurlWithdrawal
  | .queryRouteResponse _ => some .queryRoute
  | .nostrProfileSearchResponse _ => some .nostrProfileSearch
  | _ => none

/-- `matches!(message, Message::Api(kind(response)) if response.req_id == req_id)`. -/
def respondsWith (kind : ResponseKind) (reqId : RequestId) : Message → Bool
  | .api a => a.responseKind = some kind && a.reqId = reqId
  | _ => false

/-- `if let Message::Api(kind(response))`, and the response as JSON. -/
def responseBody (kind : ResponseKind) : Message → Option Body
  | .api a => if a.responseKind = some kind then some (.response a) else none
  | _ => none

/-- Ask the bank, and reply with its response as it is. -/
def askFor (kind : ResponseKind) (reqId : RequestId) (msg : Api) : Handled :=
  .asked ⟨.api msg, respondsWith kind reqId⟩ (responseBody kind)

/-! ## `api/src/routes/user.rs` -/

namespace Routes

def invalidData {α : Type} : Except ApiError α := .error (.request .invalidDataSupplied)

def balance (env : ApiEnv) (auth : AuthData) : Except ApiError Handled :=
  let reqId := env.newV4
  let uid := asU64 auth.uid
  let getBalances : GetBalances := { reqId, uid }
  let responseFilter : Message → Bool
    | .api (.balances _) => getBalances.reqId = reqId
    | _ => false
  let respond : Message → Option Body
    | .api (.balances balances) => some (.response (.balances balances))
    | _ => none
  .ok (.asked ⟨.api (.getBalances getBalances), responseFilter⟩ respond)

def payInvoice (env : ApiEnv) (auth : AuthData) (data : PayInvoiceData) :
    Except ApiError Handled :=
  let reqId := env.newV4
  let uid := asU64 auth.uid
  if data.amount.any (· ≤ 0) then invalidData
  else if data.recipient.any (128 < ·.utf8ByteSize) then invalidData
  else if data.paymentRequest.any (1024 < ·.utf8ByteSize) then invalidData
  else
    let currency := data.currency.getD .BTC
    let paymentRequest : PaymentRequest :=
      { currency
        reqId
        uid
        paymentRequest := data.paymentRequest
        rate := none
        amount := data.amount.map (Money.new currency)
        invoiceAmount := none
        recipient := data.recipient
        destination := none
        fees := none }
    if data.paymentRequest.isNone ∧ data.recipient.isNone then
      .ok (.answered (.error "You have to specify either an invoice or a receipient"))
    else .ok (askFor .payment reqId (.paymentRequest paymentRequest))

def addInvoice (env : ApiEnv) (auth : AuthData) (query : CreateInvoiceParams) :
    Except ApiError Handled :=
  let reqId := env.newV4
  let uid := asU64 auth.uid
  if query.amount ≤ 0 then invalidData
  else
    let «meta» := query.meta.getD "Lndhubx Invoice"
    if 128 < «meta».utf8ByteSize then invalidData
    else
      let currency := query.currency.getD .BTC
      .ok (askFor .invoice reqId (.invoiceRequest
        { reqId
          «meta»
          amount := Money.new currency query.amount
          metadata := query.metadata
          uid
          currency
          accountId := query.accountId
          targetAccountCurrency := query.targetAccountCurrency }))

def swap (env : ApiEnv) (auth : AuthData) (data : SwapData) : Except ApiError Handled :=
  let reqId := env.newV4
  let uid := asU64 auth.uid
  if data.amount ≤ 0 then invalidData
  else .ok (askFor .swap reqId (.swapRequest
    { reqId
      uid
      fromCurrency := data.fromCurrency
      toCurrency := data.toCurrency
      amount := Money.new data.fromCurrency data.amount
      quoteId := data.quoteId }))

def quote (env : ApiEnv) (auth : AuthData) (query : QuoteParams) : Except ApiError Handled :=
  let reqId := env.newV4
  let uid := asU64 auth.uid
  if query.amount ≤ 0 then invalidData
  else .ok (askFor .quote reqId (.quoteRequest
    { reqId
      uid
      fromCurrency := query.fromCurrency
      toCurrency := query.toCurrency
      amount := Money.new query.fromCurrency query.amount }))

def getAvailableCurrencies (env : ApiEnv) : Except ApiError Handled :=
  .ok (askFor .availableCurrencies env.newV4 (.availableCurrenciesRequest { reqId := env.newV4 }))

def getNodeInfo (env : ApiEnv) : Except ApiError Handled :=
  .ok (askFor .nodeInfo env.newV4 (.getNodeInfoRequest { reqId := env.newV4 }))

def getQueryRoute (env : ApiEnv) (params : QueryRouteParams) : Except ApiError Handled :=
  .ok (askFor .queryRoute env.newV4 (.queryRouteRequest
    { reqId := env.newV4
      paymentRequest := params.paymentRequest
      maxFee := params.maxFee }))

/-- The filter lets a `PaymentResponse` through; the reply expects a `SwapResponse`. -/
def keysend (env : ApiEnv) (auth : AuthData) (data : KeySendData) : Except ApiError Handled :=
  let reqId := env.newV4
  let uid := asU64 auth.uid
  if data.amount = 0 then invalidData
  else
    let a : Decimal := LndConnector.asI64 data.amount.toNat
    let paymentRequest : PaymentRequest :=
      { currency := .BTC
        reqId
        uid
        paymentRequest := none
        rate := none
        amount := some (Money.new .BTC a)
        invoiceAmount := none
        recipient := none
        destination := some data.destination
        fees := none }
    .ok (.asked ⟨.api (.paymentRequest paymentRequest), respondsWith .payment reqId⟩
      (responseBody .swap))

/-- The row a request to set a DCA puts in place of the user's old one. Its amount is
not looked at. -/
def setDcaSettings (auth : AuthData) (data : DcaSettingData) : Except ApiError DcaSetting :=
  let uid := asU64 auth.uid
  if data.interval ∉ ["1d", "1w", "1m"] then invalidData
  else if (Currency.fromStr data.fromCurrency).isNone then invalidData
  else if (Currency.fromStr data.toCurrency).isNone then invalidData
  else .ok
    { uid := asI32 uid
      amount := data.amount
      interval := data.interval
      fromCurrency := data.fromCurrency
      toCurrency := data.toCurrency }

/-! ## `api/src/routes/lnurl.rs` -/

def createLnurlWithdrawal (env : ApiEnv) (auth : AuthData) (query : CreateLnurlWithdrawalParams) :
    Except ApiError Handled :=
  let reqId := env.newV4
  let uid := asU64 auth.uid
  if query.amount ≤ 0 then invalidData
  else .ok (askFor .createLnurlWithdrawal reqId (.createLnurlWithdrawalRequest
    { uid
      reqId
      amount := Money.new query.currency query.amount
      currency := query.currency
      rate := none
      fees := none }))

/-- `response.max_withdrawable * 1000`, in `u64`. -/
def withdrawRequestBody : Message → Option Body
  | .api (.getLnurlWithdrawalResponse r) =>
    some (.withdrawRequest r.callback r.reqId (r.maxWithdrawable * 1000 % 2 ^ 64)
      "Kollider withdrawal" 1 "withdrawRequest")
  | _ => none

def getLnurlWithdrawal (query : GetLnurlWithdrawalParams) : Except ApiError Handled :=
  let reqId := query.q
  .ok (.asked
    ⟨.api (.getLnurlWithdrawalRequest { reqId }), respondsWith .getLnurlWithdrawal reqId⟩
    withdrawRequestBody)

def withdrawalPaidBody : Message → Option Body
  | .api (.payLnurlWithdrawalResponse r) => some (.response (.payLnurlWithdrawalResponse r))
  | .api (.paymentResponse _) => some (.status "OK")
  | _ => none

def payLnurlWithdrawal (query : PayLnurlWithdrawalParams) : Except ApiError Handled :=
  let reqId := query.k1
  let responseFilter : Message → Bool := fun message =>
    respondsWith .payLnurlWithdrawal reqId message || respondsWith .payment reqId message
  .ok (.asked
    ⟨.api (.payLnurlWithdrawalRequest { reqId, paymentRequest := query.pr }), responseFilter⟩
    withdrawalPaidBody)

/-- The texts that go with a payment to an address. -/
def addressTexts (settings : ApiSettings) (username : String) (query : PayAddressParams) :
    Except ApiError (String × Option String) :=
  match query.nostr with
  | some json =>
    match validateZapRequest settings.nostr json query.amount.toNat with
    | .error _ => invalidData
    | .ok _ => .ok (ZAP_REQUEST_MEMO, some json)
  | none =>
    let desc := "Paid to " ++ username ++ "@" ++ settings.domain
    .ok ("Lnurl Pay", some ("[[\"text/plain\",\"" ++ desc ++ "\"]]"))

def invoiceBody : Message → Option Body
  | .api (.invoiceResponse invoice) =>
    some (.payRequest invoice.paymentRequest invoice.paymentHash)
  | _ => none

/-- `amount` is in millisats. -/
def payAddress (settings : ApiSettings) (env : ApiEnv) (username : String)
    (query : PayAddressParams) : Except ApiError Handled :=
  if !env.conn then .error (.db .dbConnectionError)
  else
    let amount : Decimal := LndConnector.asI64 query.amount.toNat / 100000000000
    match (if env.userQuery then env.directory.userByUsername username else none) with
    | none => .error (.db .userDoesNotExist)
    | some user =>
      let reqId := env.newV4
      if amount ≤ 0 then invalidData
      else
        match addressTexts settings username query with
        | .error e => .error e
        | .ok (memo, metadata) =>
          if 128 < memo.utf8ByteSize then invalidData
          else
            let invoiceRequest : InvoiceRequest :=
              { reqId
                «meta» := memo
                metadata
                uid := asU64 user.uid
                currency := .BTC
                accountId := none
                amount := Money.new .BTC amount
                targetAccountCurrency := none }
            .ok (.asked ⟨.api (.invoiceRequest invoiceRequest), respondsWith .invoice reqId⟩
              invoiceBody)

/-! ## `api/src/routes/nostr.rs` -/

/-- The first profile alone, unless the caller wants the response as it is. -/
def nostrProfileBody (wrapped : Bool) : Message → Option Body
  | .api (.nostrProfileSearchResponse r) =>
    if wrapped then some (.response (.nostrProfileSearchResponse r))
    else some (.nostrProfile r.reqId (r.data.head?.map (·.profile)) r.error)
  | _ => none

def askForProfile (env : ApiEnv) (params : GetNostrProfileParams) (pubkey : Option String) :
    Handled :=
  let request : NostrProfileRequest :=
    { reqId := env.newV4, pubkey, lightningAddress := params.lightningAddress }
  .asked ⟨.api (.nostrProfileRequest request), respondsWith .nostrProfileSearch env.newV4⟩
    (nostrProfileBody (params.wrapped.getD false))

def getNostrProfile (settings : ApiSettings) (env : ApiEnv) (params : GetNostrProfileParams) :
    Except ApiError Handled :=
  if params.lightningAddress.isNone ∧ params.pubkey.isNone then invalidData
  else
    match params.pubkey with
    | none => .ok (askForProfile env params none)
    | some pkey =>
      match settings.nostr.getPubkeyHex pkey with
      | none => invalidData
      | some hex => .ok (askForProfile env params (some hex))

def searchNostrProfile (settings : ApiSettings) (env : ApiEnv)
    (params : SearchNostrProfileParams) : Except ApiError Handled :=
  let reqId := env.newV4
  let message : Api := match settings.nostr.getPubkeyHex params.text with
    | some pkey => .nostrProfileRequest { reqId, pubkey := some pkey, lightningAddress := none }
    | none => .nostrProfileSearchRequest
        { reqId, text := some params.text, pubkey := none, limit := some 25 }
  .ok (askFor .nostrProfileSearch reqId message)

end Routes

/-! ## Any request -/

inductive HttpRequest where
  | balance (auth : AuthData)
  | payInvoice (auth : AuthData) (data : PayInvoiceData)
  | addInvoice (auth : AuthData) (query : CreateInvoiceParams)
  | swap (auth : AuthData) (data : SwapData)
  | quote (auth : AuthData) (query : QuoteParams)
  | getAvailableCurrencies
  | getNodeInfo
  | getQueryRoute (query : QueryRouteParams)
  | keysend (auth : AuthData) (data : KeySendData)
  | createLnurlWithdrawal (auth : AuthData) (query : CreateLnurlWithdrawalParams)
  | getLnurlWithdrawal (query : GetLnurlWithdrawalParams)
  | payLnurlWithdrawal (query : PayLnurlWithdrawalParams)
  | payAddress (username : String) (query : PayAddressParams)
  | getNostrProfile (params : GetNostrProfileParams)
  | searchNostrProfile (params : SearchNostrProfileParams)

/-- The handler of a request, up to the point where it waits. -/
def HttpRequest.handle (settings : ApiSettings) (env : ApiEnv) :
    HttpRequest → Except ApiError Handled
  | .balance auth => Routes.balance env auth
  | .payInvoice auth data => Routes.payInvoice env auth data
  | .addInvoice auth query => Routes.addInvoice env auth query
  | .swap auth data => Routes.swap env auth data
  | .quote auth query => Routes.quote env auth query
  | .getAvailableCurrencies => Routes.getAvailableCurrencies env
  | .getNodeInfo => Routes.getNodeInfo env
  | .getQueryRoute query => Routes.getQueryRoute env query
  | .keysend auth data => Routes.keysend env auth data
  | .createLnurlWithdrawal auth query => Routes.createLnurlWithdrawal env auth query
  | .getLnurlWithdrawal query => Routes.getLnurlWithdrawal query
  | .payLnurlWithdrawal query => Routes.payLnurlWithdrawal query
  | .payAddress username query => Routes.payAddress settings env username query
  | .getNostrProfile params => Routes.getNostrProfile settings env params
  | .searchNostrProfile params => Routes.searchNostrProfile settings env params

/-! ## What the filters let through -/

/-- A filter that lets nothing but the answer to its own request through. -/
def Envelope.Selective (e : Envelope) : Prop :=
  ∀ m, e.responseFilter m = true → m.reqId = e.message.reqId

theorem respondsWith_reqId {kind : ResponseKind} {reqId : RequestId} {m : Message}
    (h : respondsWith kind reqId m = true) : m.reqId = some reqId := by
  cases m with
  | api a =>
    simp only [respondsWith, Bool.and_eq_true, decide_eq_true_eq] at h
    exact congrArg some h.2
  | _ => exact absurd h (by simp [respondsWith])

/-- What an exchange with the bank other than that of `balance` looks like. -/
def Correlates (e : Envelope) : Prop :=
  e.Selective ∧ ∀ m, e.message ≠ .api (.getBalances m)

theorem correlates_of_filter {kind : ResponseKind} {reqId : RequestId} {a : Api}
    (hid : a.reqId = reqId) (hne : ∀ m, a ≠ .getBalances m) :
    Correlates ⟨.api a, respondsWith kind reqId⟩ := by
  refine ⟨fun m hm => ?_, fun m h => hne m (by injection h)⟩
  rw [respondsWith_reqId hm, ← hid]
  rfl

theorem correlates_of_asked {f : Message → Bool} {a : Api} {e : Envelope}
    {respond respond' : Message → Option Body}
    (h : (.ok (.asked ⟨.api a, f⟩ respond) : Except ApiError Handled) = .ok (.asked e respond'))
    (hc : Correlates ⟨.api a, f⟩) : Correlates e := by
  injection h with h
  injection h with h
  rw [← h]
  exact hc

theorem payAddress_correlates {settings : ApiSettings} {env : ApiEnv} {username : String}
    {query : PayAddressParams} {e : Envelope} {respond : Message → Option Body}
    (h : Routes.payAddress settings env username query = .ok (.asked e respond)) :
    Correlates e := by
  unfold Routes.payAddress at h
  split at h
  · cases h
  · dsimp only at h
    split at h
    · cases h
    · split at h
      · cases h
      · split at h
        · cases h
        · split at h
          · cases h
          · exact correlates_of_asked h (correlates_of_filter rfl (by simp))

/-- Every handler but one gets its own answer only. -/
theorem HttpRequest.handle_correlates {settings : ApiSettings} {env : ApiEnv} {req : HttpRequest}
    {e : Envelope} {respond : Message → Option Body}
    (h : req.handle settings env = .ok (.asked e respond)) (hne : ∀ auth, req ≠ .balance auth) :
    Correlates e := by
  cases req with
  | balance auth => exact absurd rfl (hne auth)
  | payInvoice auth data =>
    simp only [handle, Routes.payInvoice] at h
    split_ifs at h
    · cases h
    · cases h
    · cases h
    · cases h
    · exact correlates_of_asked h (correlates_of_filter rfl (by simp))
  | addInvoice auth query =>
    simp only [handle, Routes.addInvoice] at h
    split_ifs at h
    · cases h
    · cases h
    · exact correlates_of_asked h (correlates_of_filter rfl (by simp))
  | swap auth data =>
    simp only [handle, Routes.swap] at h
    split_ifs at h
    · cases h
    · exact correlates_of_asked h (correlates_of_filter rfl (by simp))
  | quote auth query =>
    simp only [handle, Routes.quote] at h
    split_ifs at h
    · cases h
    · exact correlates_of_asked h (correlates_of_filter rfl (by simp))
  | getAvailableCurrencies => exact correlates_of_asked h (correlates_of_filter rfl (by simp))
  | getNodeInfo => exact correlates_of_asked h (correlates_of_filter rfl (by simp))
  | getQueryRoute query => exact correlates_of_asked h (correlates_of_filter rfl (by simp))
  | keysend auth data =>
    simp only [handle, Routes.keysend] at h
    split_ifs at h
    · cases h
    · exact correlates_of_asked h (correlates_of_filter rfl (by simp))
  | createLnurlWithdrawal auth query =>
    simp only [handle, Routes.createLnurlWithdrawal] at h
    split_ifs at h
    · cases h
    · exact correlates_of_asked h (correlates_of_filter rfl (by simp))
  | getLnurlWithdrawal query => exact correlates_of_asked h (correlates_of_filter rfl (by simp))
  | payLnurlWithdrawal query =>
    refine correlates_of_asked h ⟨fun m hm => ?_, by simp⟩
    -- either of the two responses carries the id
    rcases Bool.or_eq_true _ _ |>.mp hm with hm | hm
    · exact respondsWith_reqId hm
    · exact respondsWith_reqId hm
  | payAddress username query => exact payAddress_correlates h
  | getNostrProfile params =>
    simp only [handle, Routes.getNostrProfile] at h
    split_ifs at h
    · cases h
    · split at h
      · exact correlates_of_asked h (correlates_of_filter rfl (by simp))
      · split at h
        · cases h
        · exact correlates_of_asked h (correlates_of_filter rfl (by simp))
  | searchNostrProfile params =>
    simp only [handle, Routes.searchNostrProfile] at h
    cases hk : settings.nostr.getPubkeyHex params.text with
    | none =>
      rw [hk] at h
      exact correlates_of_asked h (correlates_of_filter rfl (by simp))
    | some pkey =>
      rw [hk] at h
      exact correlates_of_asked h (correlates_of_filter rfl (by simp))

/-- A request for the balances carries the id that was drawn and the owner of the
token, and its filter lets every `Balances` message through. -/
theorem HttpRequest.handle_balance {settings : ApiSettings} {env : ApiEnv} {auth : AuthData}
    {e : Envelope} {respond : Message → Option Body}
    (h : (HttpRequest.balance auth).handle settings env = .ok (.asked e respond)) :
    e.message = .api (.getBalances ⟨env.newV4, asU64 auth.uid⟩) ∧
      ∀ m, e.responseFilter m = true ↔ ∃ b, m = .api (.balances b) := by
  injection h with h
  injection h with h
  subst h
  refine ⟨rfl, fun m => ⟨fun hm => ?_, ?_⟩⟩
  · dsimp only at hm
    split at hm
    · exact ⟨_, rfl⟩
    · cases hm
  · intro hb
    obtain ⟨b, rfl⟩ := hb
    simp

/-- What the filter of `keysend` lets through is not what its reply expects: the
caller is told of a timeout, whatever became of the payment. -/
theorem keysend_times_out {settings : ApiSettings} {env : ApiEnv} {auth : AuthData}
    {data : KeySendData} {e : Envelope} {respond : Message → Option Body} {m : Message}
    (h : (HttpRequest.keysend auth data).handle settings env = .ok (.asked e respond))
    (hm : e.responseFilter m = true) : respond m = none := by
  simp only [HttpRequest.handle, Routes.keysend] at h
  split_ifs at h
  · cases h
  · injection h with h
    injection h with he hr
    rw [← he] at hm
    rw [← hr]
    cases m with
    | api a =>
      simp only [respondsWith, Bool.and_eq_true, decide_eq_true_eq] at hm
      simp [responseBody, hm.1]
    | _ => rfl

namespace Sample

def apiSettings : ApiSettings := ⟨"kollider.me", ⟨fun _ => .error .json, fun _ => none⟩⟩

def apiEnv (newV4 : Uuid) : ApiEnv :=
  ⟨newV4, true, true, ⟨[⟨7, "alice", false⟩, ⟨9, "bob", false⟩], [], [], []⟩⟩

end Sample

end Lndhubx
