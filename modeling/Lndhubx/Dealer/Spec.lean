import Lndhubx.Dealer.ProcessMsg

/-!
# What a message does to the dealer's data

Most handlers only send: to the bank, or to the exchange (`OnlySends`). The rest
is said group by group. The order books and quote tables change with a report of
the exchange's book (`processMsg_market`), the guaranteed quotes with the
requests for them and with the swaps (`processMsg_quotes`); when the exchange is
disconnected, all of it is dropped.
-/

namespace Lndhubx

open Prog DealerEngine

variable {cfg : DealerConfig} {env : DealerEnv} {s : DealerState}

/-! ## Handlers that only send -/

/-- Nothing but messages was sent. -/
def OnlySends (s s' : DealerState) : Prop := s' = { s with sent := s'.sent, calls := s'.calls }

instance : Std.Refl OnlySends := ⟨fun _ => rfl⟩

instance : IsTrans DealerState OnlySends where
  trans := by
    intro s₁ s₂ s₃ h h'
    unfold OnlySends at h h' ⊢
    rw [h', h]

/-- A message is sent. -/
theorem listener_sends (msg : Message) : Keeps OnlySends (listener msg) := .write fun _ => rfl

/-- The exchange is asked. -/
theorem ask_sends (call : WsCall) : Keeps OnlySends (ask env call) :=
  .ite (.bind (.write fun _ => rfl) fun _ => .ret _) (.ret _)

/-- A request for an invoice is priced. -/
theorem invoiceRequest_sends (req : InvoiceRequest) : Keeps OnlySends (invoiceRequest cfg req) :=
  .bind (.lift _) fun _ => .bind .read fun _ => .bind (.lift _) fun _ => listener_sends _

/-- The currencies that have quotes are told. -/
theorem availableCurrenciesRequest_sends (req : AvailableCurrenciesRequest) :
    Keeps OnlySends (availableCurrenciesRequest env req) :=
  .bind (.lift _) fun _ => listener_sends _

/-- A payment is priced. -/
theorem paymentRequest_sends (msg : PaymentRequest) : Keeps OnlySends (paymentRequest cfg msg) := by
  refine .bind (.lift _) fun _ => ?_
  cases msg.invoiceAmount with
  | none => exact .ret _
  | some amount =>
    exact .bind .read fun _ => .bind (.lift _) fun _ => .ite (.ret _) (listener_sends _)

/-- A withdrawal is priced. -/
theorem createLnurlWithdrawalRequest_sends (msg : CreateLnurlWithdrawalRequest) :
    Keeps OnlySends (createLnurlWithdrawalRequest cfg msg) :=
  .bind (.lift _) fun _ => .bind .read fun _ => .bind (.lift _) fun _ =>
    .ite (.ret _) (listener_sends _)

/-- A deposit is priced. -/
theorem processFiatDepositRequest_sends (msg : FiatDepositRequest) :
    Keeps OnlySends (processFiatDepositRequest cfg msg) :=
  .bind (.lift _) fun _ => .bind .read fun _ => .bind (.lift _) fun _ => listener_sends _

/-- An order is placed. -/
theorem hedge_sends (account : Account) : Keeps OnlySends (hedge cfg env account) := by
  refine .ite (.ret _) (.bind (.lift _) fun symbol => ?_)
  cases env.ws.positionState symbol with
  | error e => exact .ret _
  | ok position =>
    refine .bind (.lift _) fun hedged => .bind (.lift _) fun deltaQty => ?_
    cases cfg.riskTolerances account.currency with
    | none => exact .ret _
    | some tolerance =>
      refine .ite (.ret _) ?_
      cases deltaQty.toI64 with
      | none => exact .panic _
      | some converted => exact .bind (ask_sends _) fun sent => .ite (.panic _) (.ret _)

/-- Orders are placed, for every account that is checked. -/
theorem checkRiskFromBankState_sends (bankState : BankState) :
    Keeps OnlySends (checkRiskFromBankState cfg env bankState) :=
  .bind .read fun _ => .ite (.ret _) (.forM (fun _ => hedge_sends _) _)

/-! ## Market data, quotes and the connection -/

/-- The same books and the same quotes. -/
structure SameMarket (s s' : DealerState) : Prop where
  level2Data : s'.level2Data = s.level2Data
  bidQuotes : s'.bidQuotes = s.bidQuotes
  askQuotes : s'.askQuotes = s.askQuotes

/-- No books and no quotes. -/
structure NoMarket (s : DealerState) : Prop where
  level2Data : s.level2Data = ∅
  bidQuotes : s.bidQuotes = ∅
  askQuotes : s.askQuotes = ∅

/-- The same guaranteed quotes. -/
def SameQuotes (s s' : DealerState) : Prop := s'.guaranteedQuotes = s.guaranteedQuotes

/-- The same is known of the connection, and of the bank. -/
structure SameConnection (s s' : DealerState) : Prop where
  hasReceivedInitData : s'.hasReceivedInitData = s.hasReceivedInitData
  hasReceivedSymbols : s'.hasReceivedSymbols = s.hasReceivedSymbols
  hasReceivedPositions : s'.hasReceivedPositions = s.hasReceivedPositions
  isKolliderAuthenticated : s'.isKolliderAuthenticated = s.isKolliderAuthenticated

instance : Std.Refl SameMarket := ⟨fun _ => ⟨rfl, rfl, rfl⟩⟩

instance : IsTrans DealerState SameMarket := ⟨fun _ _ _ h h' =>
  ⟨h'.level2Data.trans h.level2Data, h'.bidQuotes.trans h.bidQuotes,
    h'.askQuotes.trans h.askQuotes⟩⟩

instance : Std.Refl SameQuotes := ⟨fun _ => rfl⟩

instance : IsTrans DealerState SameQuotes := ⟨fun _ _ _ h h' => Eq.trans h' h⟩

instance : Std.Refl SameConnection := ⟨fun _ => ⟨rfl, rfl, rfl, rfl⟩⟩

instance : IsTrans DealerState SameConnection := ⟨fun _ _ _ h h' =>
  ⟨h'.hasReceivedInitData.trans h.hasReceivedInitData,
    h'.hasReceivedSymbols.trans h.hasReceivedSymbols,
    h'.hasReceivedPositions.trans h.hasReceivedPositions,
    h'.isKolliderAuthenticated.trans h.isKolliderAuthenticated⟩⟩

/-- The three groups together. -/
structure SameData (s s' : DealerState) : Prop where
  market : SameMarket s s'
  quotes : SameQuotes s s'
  connection : SameConnection s s'

instance : Std.Refl SameData :=
  ⟨fun s => ⟨Std.Refl.refl s, Std.Refl.refl s, Std.Refl.refl s⟩⟩

instance : IsTrans DealerState SameData := ⟨fun _ _ _ h h' =>
  ⟨IsTrans.trans _ _ _ h.market h'.market, IsTrans.trans _ _ _ h.quotes h'.quotes,
    IsTrans.trans _ _ _ h.connection h'.connection⟩⟩

/-- What only sends changes no data. -/
theorem OnlySends.sameData {s s' : DealerState} (h : OnlySends s s') : SameData s s' := by
  unfold OnlySends at h
  rw [h]
  exact ⟨⟨rfl, rfl, rfl⟩, rfl, ⟨rfl, rfl, rfl, rfl⟩⟩

/-- A handler that only sends keeps all data. -/
theorem data_of_sends {α : Type} {p : DealerHandler α} (h : Keeps OnlySends p) : Keeps SameData p :=
  h.mono fun _ _ hs => hs.sameData

/-- A check of the leverage only notes its time. -/
theorem maintainLeverage_data (position : PositionState) :
    Keeps SameData (maintainLeverage cfg env position) := by
  intro s
  refine Ensures.get_bind (Ensures.ite (fun _ => Std.Refl.refl s) fun _ => Ensures.set_bind ?_)
  -- what follows the note of the position keeps the data of any state
  refine ((?_ : Keeps SameData _) _).mono fun _ s' h => ?_
  · refine .ite (.ret _) (.bind (.lift _) fun _ => .bind (.lift _) fun _ => ?_)
    refine .bind (.lift _) fun delta => .ite ?_ (.ret _)
    split
    next => exact .bind (data_of_sends (ask_sends _)) fun _ => .ret _
    next => exact .ret _
  exact ⟨⟨h.market.level2Data, h.market.bidQuotes, h.market.askQuotes⟩, h.quotes,
    ⟨h.connection.hasReceivedInitData, h.connection.hasReceivedSymbols,
      h.connection.hasReceivedPositions, h.connection.isKolliderAuthenticated⟩⟩

/-! ## Messages that leave the data alone -/

/-- The messages whose handlers change the data. -/
inductive ChangesData : DealerInput → Prop
  | swap (req : SwapRequest) : ChangesData (.bank (.api (.swapRequest req)))
  | quote (req : QuoteRequest) : ChangesData (.bank (.api (.quoteRequest req)))
  | book (update : Level2State) : ChangesData (.kollider (.level2State update))
  | disconnected : ChangesData (.kollider .disconnected)
  | authenticate (message : String) : ChangesData (.kollider (.authenticate message))
  | positions (l : AList fun _ : Symbol => PositionState) : ChangesData (.kollider (.positions l))
  | tradableSymbols (l : List (Symbol × TradableSymbol)) :
      ChangesData (.kollider (.tradableSymbols l))

/-- Which messages of the API change data. -/
theorem processApi_data {msg : Api} (h : ¬ChangesData (.bank (.api msg))) :
    Keeps SameData (processApi cfg env msg) := by
  cases msg with
  | swapRequest req => exact absurd (.swap req) h
  | quoteRequest req => exact absurd (.quote req) h
  | availableCurrenciesRequest msg => exact data_of_sends (availableCurrenciesRequest_sends msg)
  | invoiceRequest msg => exact data_of_sends (invoiceRequest_sends msg)
  | paymentRequest msg => exact data_of_sends (paymentRequest_sends msg)
  | createLnurlWithdrawalRequest msg =>
    exact data_of_sends (createLnurlWithdrawalRequest_sends msg)
  | _ => exact .ret _

/-- Which reports of the exchange do. -/
theorem processKollider_data {msg : KolliderApiResponse} (h : ¬ChangesData (.kollider msg)) :
    Keeps SameData (processKollider cfg env msg) := by
  cases msg with
  | disconnected => exact absurd .disconnected h
  | level2State u => exact absurd (.book u) h
  | authenticate message => exact absurd (.authenticate message) h
  | positions l => exact absurd (.positions l) h
  | tradableSymbols l => exact absurd (.tradableSymbols l) h
  | positionStates position => exact maintainLeverage_data position
  | settlementRequest req =>
    unfold processKollider
    dsimp only
    cases parseU64 req.amount with
    | some amount => exact data_of_sends (listener_sends _)
    | none => exact .panic _
  | changeMarginSuccess m =>
    unfold processKollider
    dsimp only
    refine .ite ?_ (.ret _)
    cases (-m.amount).toU64 with
    | some amount => exact data_of_sends (listener_sends _)
    | none => exact .panic _
  | fundingPayment amount =>
    intro s
    refine Ensures.get_bind (Ensures.lift_bind fun profit _ => ?_)
    exact ⟨⟨rfl, rfl, rfl⟩, rfl, ⟨rfl, rfl, rfl, rfl⟩⟩
  | balances cash => exact data_of_sends (listener_sends _)
  | orderInvoice invoice => exact data_of_sends (listener_sends _)
  | addMarginRequest invoice => exact data_of_sends (listener_sends _)
  | reconnected => exact .ret _
  | logged => exact .ret _

/-- All others leave the data as they are. -/
theorem processMsg_data {input : DealerInput} (h : ¬ChangesData input) :
    Keeps SameData (processMsg cfg env input) := by
  cases input with
  | kollider msg => exact processKollider_data h
  | bank msg =>
    cases msg with
    | api msg => exact processApi_data h
    | dealer msg =>
      cases msg with
      | bankState msg =>
        refine .bind (.write fun _ => ⟨⟨rfl, rfl, rfl⟩, rfl, ⟨rfl, rfl, rfl, rfl⟩⟩) fun _ => ?_
        exact data_of_sends (checkRiskFromBankState_sends msg)
      | createInvoiceResponse msg =>
        exact data_of_sends (.bind (ask_sends _) fun sent => .ite (.panic _) (.ret _))
      | fiatDepositRequest msg => exact data_of_sends (processFiatDepositRequest_sends msg)
      | _ => exact .ret _
    | _ => exact .ret _

/-! ## Messages that change them -/

/-- All but the quotes. -/
def SameButQuotes (s s' : DealerState) : Prop := SameMarket s s' ∧ SameConnection s s'

instance : Std.Refl SameButQuotes := ⟨fun s => ⟨Std.Refl.refl s, Std.Refl.refl s⟩⟩

instance : IsTrans DealerState SameButQuotes :=
  ⟨fun _ _ _ h h' => ⟨IsTrans.trans _ _ _ h.1 h'.1, IsTrans.trans _ _ _ h.2 h'.2⟩⟩

/-- What only sends changes no guaranteed quote either. -/
theorem OnlySends.sameButQuotes {s s' : DealerState} (h : OnlySends s s') : SameButQuotes s s' :=
  ⟨h.sameData.market, h.sameData.connection⟩

/-- The guaranteed quotes may have been changed before. -/
theorem sameButQuotes_of_set {s s' : DealerState}
    {quotes : Std.ExtTreeMap Nat QuoteResponse compare}
    (h : SameButQuotes { s with guaranteedQuotes := quotes } s') : SameButQuotes s s' := by
  have hset : SameButQuotes s { s with guaranteedQuotes := quotes } :=
    ⟨⟨rfl, rfl, rfl⟩, ⟨rfl, rfl, rfl, rfl⟩⟩
  exact IsTrans.trans _ _ _ hset h

/-- A quote that is guaranteed is stored. -/
theorem quoteRequest_sameButQuotes (req : QuoteRequest) :
    Keeps SameButQuotes (quoteRequest cfg env req) := by
  intro s
  refine Ensures.get_bind ?_
  refine Ensures.lift_bind fun r _ => ?_
  obtain ⟨rate, fees⟩ := r
  refine Ensures.ite (fun _ => ?_) fun _ => (listener_sends _ s).mono fun _ _ h => h.sameButQuotes
  refine Ensures.set_bind ?_
  exact (listener_sends _ _).mono fun _ _ h => sameButQuotes_of_set h.sameButQuotes

/-- A quote that is taken is removed. -/
theorem swapRequest_sameButQuotes (req : SwapRequest) :
    Keeps SameButQuotes (swapRequest cfg env req) := by
  have hsend : ∀ msg, Keeps SameButQuotes (listener msg) := fun msg =>
    (listener_sends msg).mono fun _ _ h => h.sameButQuotes
  refine .ite (.bind (hsend _) fun _ => .ret _) (.ite (.panic _) ?_)
  refine .bind (.write fun _ => ⟨⟨rfl, rfl, rfl⟩, ⟨rfl, rfl, rfl, rfl⟩⟩) fun _ => ?_
  refine .bind (.lift _) fun isLinear s => ?_
  refine Ensures.get_bind ?_
  refine Ensures.lift_bind fun r _ => ?_
  obtain ⟨currentRate, fees⟩ := r
  cases req.quoteId with
  | none => exact Keeps.ite (hsend _) (hsend _) s
  | some quoteId =>
    dsimp only
    cases s.guaranteedQuotes[quoteId]? with
    | none => exact hsend _ s
    | some quote =>
      refine Ensures.set_bind ?_
      exact (Keeps.ite (hsend _) (hsend _) _).mono fun _ _ h => sameButQuotes_of_set h

/-- A report of a book changes the market data only. -/
theorem processOrderbookUpdate_rest (ws : WsClient) (update : Level2State) :
    Ensures (processOrderbookUpdate ws update) s fun _ s' =>
      SameQuotes s s' ∧ SameConnection s s' := by
  refine Ensures.get_bind (Ensures.lift_bind fun books _ => Ensures.set_bind ?_)
  unfold updateQuotes
  split
  next contract _ =>
    refine Ensures.get_bind ?_
    split
    next book _ =>
      refine Ensures.lift_bind fun bids _ => Ensures.lift_bind fun asks _ => ?_
      exact ⟨rfl, ⟨rfl, rfl, rfl, rfl⟩⟩
    next => exact ⟨rfl, ⟨rfl, rfl, rfl, rfl⟩⟩
  next => exact ⟨rfl, ⟨rfl, rfl, rfl, rfl⟩⟩

/-- Only a report of a book changes the market data, and a disconnection drops
them. -/
theorem processMsg_market {input : DealerInput} (h : ∀ u, input ≠ .kollider (.level2State u)) :
    Ensures (processMsg cfg env input) s fun _ s' => SameMarket s s' ∨ NoMarket s' := by
  by_cases hdata : ChangesData input
  · cases hdata with
    | swap req => exact (swapRequest_sameButQuotes req s).mono fun _ _ h => .inl h.1
    | quote req => exact (quoteRequest_sameButQuotes req s).mono fun _ _ h => .inl h.1
    | book u => exact absurd rfl (h u)
    | disconnected => exact .inr ⟨rfl, rfl, rfl⟩
    | authenticate message =>
      exact Ensures.ite (fun _ => .inl ⟨rfl, rfl, rfl⟩) fun _ => .inl ⟨rfl, rfl, rfl⟩
    | positions l => exact .inl ⟨rfl, rfl, rfl⟩
    | tradableSymbols l => exact .inl ⟨rfl, rfl, rfl⟩
  · exact (processMsg_data hdata s).mono fun _ _ h => .inl h.market

/-- Only a swap, a quote and a disconnection change the guaranteed quotes. -/
theorem processMsg_quotes {input : DealerInput}
    (hswap : ∀ req, input ≠ .bank (.api (.swapRequest req)))
    (hquote : ∀ req, input ≠ .bank (.api (.quoteRequest req)))
    (hdisc : input ≠ .kollider .disconnected) : Keeps SameQuotes (processMsg cfg env input) := by
  intro s
  by_cases hdata : ChangesData input
  · cases hdata with
    | swap req => exact absurd rfl (hswap req)
    | quote req => exact absurd rfl (hquote req)
    | book u => exact (processOrderbookUpdate_rest env.ws u).mono fun _ _ h => h.1
    | disconnected => exact absurd rfl hdisc
    | authenticate message => exact Ensures.ite (fun _ => rfl) fun _ => rfl
    | positions l => exact rfl
    | tradableSymbols l => exact rfl
  · exact (processMsg_data hdata s).mono fun _ _ h => h.quotes

/-- The reports that say something of the connection. -/
inductive OfConnection : DealerInput → Prop
  | disconnected : OfConnection (.kollider .disconnected)
  | authenticate (message : String) : OfConnection (.kollider (.authenticate message))
  | positions (l : AList fun _ : Symbol => PositionState) : OfConnection (.kollider (.positions l))
  | tradableSymbols (l : List (Symbol × TradableSymbol)) :
      OfConnection (.kollider (.tradableSymbols l))

/-- All other messages leave it as it is. -/
theorem processMsg_connection {input : DealerInput} (h : ¬OfConnection input) :
    Keeps SameConnection (processMsg cfg env input) := by
  intro s
  by_cases hdata : ChangesData input
  · cases hdata with
    | swap req => exact (swapRequest_sameButQuotes req s).mono fun _ _ h => h.2
    | quote req => exact (quoteRequest_sameButQuotes req s).mono fun _ _ h => h.2
    | book u => exact (processOrderbookUpdate_rest env.ws u).mono fun _ _ h => h.2
    | disconnected => exact absurd .disconnected h
    | authenticate message => exact absurd (.authenticate message) h
    | positions l => exact absurd (.positions l) h
    | tradableSymbols l => exact absurd (.tradableSymbols l) h
  · exact (processMsg_data hdata s).mono fun _ _ h => h.connection

/-- A message of a run, as far as the market data go. -/
theorem DealerDelivers.market {s' : DealerState} {d : DealerDelivery}
    (h : DealerDelivers cfg s d s') :
    (∃ u, d.input = .kollider (.level2State u) ∧
      processOrderbookUpdate d.env.ws u s = .ok ((), s')) ∨ SameMarket s s' ∨ NoMarket s' := by
  have hrun := dealerDelivers_iff.mp h
  by_cases hlevel : ∃ u, d.input = .kollider (.level2State u)
  · obtain ⟨u, hu⟩ := hlevel
    rw [hu] at hrun
    exact .inl ⟨u, hu, hrun⟩
  · exact .inr ((processMsg_market fun u hu => hlevel ⟨u, hu⟩).of_run hrun)

end Lndhubx
