import Lndhubx.Dealer.Hedging
import Lndhubx.Dealer.QuoteRuns
import Lndhubx.Dealer.Tables

/-!
# Disconnections

The websocket thread and the dealer's loop run side by side (`Link`). The thread
changes the shared state and appends to the channel; the loop takes from the
channel, hands messages of the bank to `process_msg` and checks the risk. A risk
check reads a position from the shared state and only then has the order sent, and
the thread may do anything in between: these are two steps of the system
(`looks`, `places`).

Nothing from before a disconnection is used after it, in every run in which the
thread does not disconnect between the two (`nothing_outlives_disconnect`). If it
does, and the connection is opened again before the order is sent, the order is
sized from what the previous connection has reported (`order_outlives_disconnect`).
-/

namespace Lndhubx

open Prog DealerEngine

variable {cfg : DealerConfig}

/-! ## The system -/

/-- The thread, the channel and the loop. Connections are numbered, and it is kept
on which of them the position in a contract was last reported. -/
structure Link where
  client : HedgingState
  connection : Nat
  source : Symbol → Option Nat
  channel : List KolliderApiResponse
  dealer : DealerState
  /-- The accounts that a risk check still has to look at. -/
  checking : List Account
  /-- An order that is to be sent, and the connection its size was taken from. -/
  sized : Option (WsCall × Option Nat)

namespace Link

/-- `connect` has opened the socket and starts the thread; then the dealer is made. -/
def start (cfg : DealerConfig) (env : DealerEnv) (initialFundingPnl : Decimal) : Link where
  client := { HedgingState.new with isConnected := true }
  connection := 0
  source := fun _ => none
  channel := []
  dealer := .new cfg env initialFundingPnl
  checking := []
  sized := none

/-- The loop is not in the middle of a risk check. -/
def Idle (g : Link) : Prop := g.checking = [] ∧ g.sized = none

/-- The thread hands messages on. -/
def passing (g : Link) (r : HedgingState × List KolliderApiResponse) : Link :=
  { g with client := r.1, channel := g.channel ++ r.2 }

/-- `Positions` reports all positions, also that there is none. -/
def heard (g : Link) : KolliderApiResponse → Symbol → Option Nat
  | .positions _ => fun _ => some g.connection
  | .positionStates p => fun symbol =>
    if symbol = p.symbol then some g.connection else g.source symbol
  | _ => g.source

/-- Where the size of an order was taken from. -/
def sourceOf (g : Link) : WsCall → Option Nat
  | .makeOrder _ symbol _ => g.source symbol
  | _ => none

/-- A risk check begins, if the dealer has been told everything. -/
def begin (g : Link) (bankState : BankState) : Link :=
  { g with
    checking := if g.dealer.hasReceivedInitData then bankState.fiatExposures.map (·.2) else [] }

end Link

inductive LinkEvent where
  | disconnects
  | reconnects
  | receives (msg : KolliderApiResponse)
  /-- A message is handed to `process_msg`. -/
  | handles (e : DealerStep)
  /-- A risk check begins, with a message of the bank or with the timer. -/
  | checks (bankState : BankState)
  /-- It sizes the order for the next account. -/
  | looks
  /-- The order is sent, on a connection. -/
  | places (call : WsCall) (source : Option Nat) (connection : Nat)

inductive LinkStep (cfg : DealerConfig) : Link → LinkEvent → Link → Prop
  | disconnects {g : Link} (connected : g.client.isConnected = true) :
      LinkStep cfg g .disconnects (g.passing g.client.setDisconnected)
  | reconnects {g : Link} (closed : g.client.isConnected = false) :
      LinkStep cfg g .reconnects
        { g.passing g.client.setReconnected with connection := g.connection + 1 }
  | receives {g : Link} {msg : KolliderApiResponse} (connected : g.client.isConnected = true) :
      LinkStep cfg g (.receives msg)
        { g.passing (g.client.processIncomingMessage msg) with source := g.heard msg }
  | reports {g : Link} {env : DealerEnv} {msg : KolliderApiResponse}
      {rest : List KolliderApiResponse} {dealer : DealerState} (idle : g.Idle)
      (next : g.channel = msg :: rest) (shows : Shows g.client env.ws)
      (run : DealerDelivers cfg g.dealer ⟨env, .kollider msg⟩ dealer) :
      LinkStep cfg g (.handles ⟨g.dealer, ⟨env, .kollider msg⟩, dealer⟩)
        { g with channel := rest, dealer }
  | serves {g : Link} {env : DealerEnv} {msg : Message} {dealer : DealerState} (idle : g.Idle)
      (other : ∀ b, msg ≠ .dealer (.bankState b)) (shows : Shows g.client env.ws)
      (run : DealerDelivers cfg g.dealer ⟨env, .bank msg⟩ dealer) :
      LinkStep cfg g (.handles ⟨g.dealer, ⟨env, .bank msg⟩, dealer⟩) { g with dealer }
  /-- A `BankState` is kept before the risk is checked. -/
  | bankState {g : Link} {b : BankState} (idle : g.Idle) :
      LinkStep cfg g (.checks b)
        ({ g with dealer := { g.dealer with lastBankState := some b } }.begin b)
  | checkRisk {g : Link} {b : BankState} (idle : g.Idle) (last : g.dealer.lastBankState = some b) :
      LinkStep cfg g (.checks b) (g.begin b)
  | looks {g : Link} {account : Account} {rest : List Account} {call : Option WsCall}
      (free : g.sized = none) (next : g.checking = account :: rest)
      (sizes : orderFor cfg g.client.getPositionState account = .ok call) :
      LinkStep cfg g .looks
        { g with checking := rest, sized := call.map fun call => (call, g.sourceOf call) }
  /-- Where the client has to authenticate first, this is after it has. -/
  | places {g : Link} {call : WsCall} {source : Option Nat} (next : g.sized = some (call, source))
      (connected : g.client.isConnected = true) (authenticated : g.client.isAuthenticated = true) :
      LinkStep cfg g (.places call source g.connection)
        { g with
          sized := none
          dealer := { g.dealer with calls := g.dealer.calls ++ [call] } }

/-- The thread does not disconnect while an order is about to be sent. -/
def Uninterrupted (g : Link) (e : LinkEvent) : Prop := e = .disconnects → g.sized = none

/-! ## Orders are sized on the connection they are sent on -/

/-- The positions are those of the connection, and so is an order. -/
structure Fresh (g : Link) : Prop where
  connected : g.client.hasReceivedPositions = true → g.client.isConnected = true
  current : g.client.hasReceivedPositions = true → ∀ symbol, g.source symbol = some g.connection
  order : ∀ call source, g.sized = some (call, source) →
    source = some g.connection ∧ g.client.isConnected = true

theorem isConnected_processIncomingMessage (msg : KolliderApiResponse) (c : HedgingState) :
    (c.processIncomingMessage msg).1.isConnected = c.isConnected := by
  cases msg with
  | authenticate message =>
    simp only [HedgingState.processIncomingMessage]
    split <;> rfl
  | _ => rfl

/-- What was heard on a connection is what the client has. -/
theorem Fresh.heard {g : Link} (h : Fresh g) (msg : KolliderApiResponse)
    (hreceived : (g.client.processIncomingMessage msg).1.hasReceivedPositions = true)
    (symbol : Symbol) : g.heard msg symbol = some g.connection := by
  cases msg with
  | positions l => rfl
  | positionStates p =>
    show (if symbol = p.symbol then some g.connection else g.source symbol) = _
    by_cases hsymbol : symbol = p.symbol
    · rw [if_pos hsymbol]
    · rw [if_neg hsymbol]
      exact h.current hreceived symbol
  | authenticate message =>
    refine h.current ?_ symbol
    simp only [HedgingState.processIncomingMessage] at hreceived
    split at hreceived <;> exact hreceived
  | _ => exact h.current hreceived symbol

theorem Fresh.step {g g' : Link} {e : LinkEvent} (h : Fresh g) (hnot : Uninterrupted g e)
    (hstep : LinkStep cfg g e g') : Fresh g' := by
  cases hstep with
  | disconnects _ =>
    refine ⟨fun hr => absurd hr (by simp [Link.passing, HedgingState.setDisconnected,
      HedgingState.clear, HedgingState.new]), fun hr => absurd hr (by simp [Link.passing,
      HedgingState.setDisconnected, HedgingState.clear, HedgingState.new]), ?_⟩
    intro call source hsized
    exact absurd ((hnot rfl).symm.trans hsized) (by simp)
  | reconnects hclosed =>
    have hno : g.client.hasReceivedPositions ≠ true := by
      intro hr
      rw [h.connected hr] at hclosed
      exact absurd hclosed (by simp)
    refine ⟨fun _ => rfl, fun hr => absurd hr hno, ?_⟩
    intro call source hsized
    rw [(h.order call source hsized).2] at hclosed
    exact absurd hclosed (by simp)
  | @receives msg hconnected =>
    have hconn : (g.client.processIncomingMessage msg).1.isConnected = true := by
      rw [isConnected_processIncomingMessage, hconnected]
    exact ⟨fun _ => hconn, fun hr symbol => h.heard msg hr symbol,
      fun call source hsized => ⟨(h.order call source hsized).1, hconn⟩⟩
  | reports => exact ⟨h.connected, h.current, h.order⟩
  | serves => exact ⟨h.connected, h.current, h.order⟩
  | bankState => exact ⟨h.connected, h.current, h.order⟩
  | checkRisk => exact ⟨h.connected, h.current, h.order⟩
  | @looks account rest call _ _ hsizes =>
    refine ⟨h.connected, h.current, ?_⟩
    intro call' source hsized
    cases call with
    | none => exact absurd hsized (by simp)
    | some call =>
      cases missingOrder_of_orderFor hsizes with
      | @intro symbol _ _ converted q _ hposition =>
        -- an order is sized from a position, so positions were received
        have hreceived : g.client.hasReceivedPositions = true := by
          unfold HedgingState.getPositionState at hposition
          by_contra hno
          rw [if_neg hno] at hposition
          exact absurd hposition (by simp)
        have hsized : (WsCall.makeOrder q symbol (Side.fromSign converted), g.source symbol) =
            (call', source) := Option.some.inj hsized
        rw [← (Prod.mk.inj hsized).2]
        exact ⟨h.current hreceived symbol, h.connected hreceived⟩
  | places => exact ⟨h.connected, h.current, fun call source hs => absurd hs (by simp)⟩

/-! ## What is told after a disconnection -/

/-- The message was handled. -/
def Heard (es : List LinkEvent) (msg : KolliderApiResponse) : Prop :=
  ∃ e, .handles e ∈ es ∧ e.input = .kollider msg

/-- The three messages that the dealer waits for were handled. -/
structure Retold (es : List LinkEvent) : Prop where
  authenticate : Heard es (.authenticate "success")
  positions : ∃ l, Heard es (.positions l)
  tradableSymbols : ∃ l, Heard es (.tradableSymbols l)

/-- What the dealer's flags say was told. -/
structure Told (es : List LinkEvent) (s : DealerState) : Prop where
  authenticate : s.isKolliderAuthenticated = true → Heard es (.authenticate "success")
  positions : s.hasReceivedPositions = true → ∃ l, Heard es (.positions l)
  tradableSymbols : s.hasReceivedSymbols = true → ∃ l, Heard es (.tradableSymbols l)
  init : s.hasReceivedInitData = true → Retold es

theorem Heard.append {es : List LinkEvent} {msg : KolliderApiResponse} (h : Heard es msg)
    (e : LinkEvent) : Heard (es ++ [e]) msg := by
  obtain ⟨d, hd, hin⟩ := h
  exact ⟨d, List.mem_append_left _ hd, hin⟩

theorem Retold.append {es : List LinkEvent} (h : Retold es) (e : LinkEvent) :
    Retold (es ++ [e]) := by
  obtain ⟨l, hl⟩ := h.positions
  obtain ⟨l', hl'⟩ := h.tradableSymbols
  exact ⟨h.authenticate.append e, ⟨l, hl.append e⟩, ⟨l', hl'.append e⟩⟩

theorem Told.same {es : List LinkEvent} {s s' : DealerState} (h : Told es s)
    (hs : SameConnection s s') (e : LinkEvent) : Told (es ++ [e]) s' := by
  refine ⟨?_, ?_, ?_, ?_⟩
  · intro ha
    rw [hs.isKolliderAuthenticated] at ha
    exact (h.authenticate ha).append e
  · intro hp
    rw [hs.hasReceivedPositions] at hp
    obtain ⟨l, hl⟩ := h.positions hp
    exact ⟨l, hl.append e⟩
  · intro ht
    rw [hs.hasReceivedSymbols] at ht
    obtain ⟨l, hl⟩ := h.tradableSymbols ht
    exact ⟨l, hl.append e⟩
  · intro hi
    rw [hs.hasReceivedInitData] at hi
    exact (h.init hi).append e

/-- The check of the flags adds nothing to them. -/
theorem Told.check {es : List LinkEvent} {s : DealerState} {positions symbols authenticated : Bool}
    (ha : authenticated = true → Heard es (.authenticate "success"))
    (hp : positions = true → ∃ l, Heard es (.positions l))
    (ht : symbols = true → ∃ l, Heard es (.tradableSymbols l)) :
    Told es { s with
      hasReceivedPositions := positions
      hasReceivedSymbols := symbols
      isKolliderAuthenticated := authenticated
      hasReceivedInitData := positions && symbols && authenticated } := by
  refine ⟨ha, hp, ht, ?_⟩
  intro hinit
  have hinit : (positions && symbols && authenticated) = true := hinit
  rw [Bool.and_eq_true, Bool.and_eq_true] at hinit
  exact ⟨ha hinit.2, hp hinit.1.1, ht hinit.1.2⟩

theorem Told.handles {es : List LinkEvent} {d : DealerStep} (h : Told es d.before)
    (hstep : DealerDelivers cfg d.before d.delivery d.after) :
    Told (es ++ [.handles d]) d.after := by
  have hrun := dealerDelivers_iff.mp hstep
  have hlast : LinkEvent.handles d ∈ es ++ [.handles d] := by simp
  have hold := h.same (Std.Refl.refl d.before) (.handles d)
  by_cases hconn : OfConnection d.delivery.input
  · generalize hin : d.delivery.input = input at hrun hconn
    cases hconn with
    | disconnected =>
      have hreset : Ensures (processMsg cfg d.delivery.env (.kollider .disconnected)) d.before
          fun _ s' => s' = { d.before with
            level2Data := ∅
            bidQuotes := ∅
            askQuotes := ∅
            hasReceivedInitData := false
            hasReceivedSymbols := false
            hasReceivedPositions := false
            isKolliderAuthenticated := false
            guaranteedQuotes := ∅
            lastBankState := none } := rfl
      rw [hreset.of_run hrun]
      exact ⟨by simp, by simp, by simp, by simp⟩
    | authenticate message =>
      have hens : Ensures (processMsg cfg d.delivery.env (.kollider (.authenticate message)))
          d.before fun _ s' => Told (es ++ [.handles d]) s' := by
        refine Ensures.ite (fun hok => ?_) fun _ => hold
        refine Told.check (fun _ => ⟨d, hlast, ?_⟩) hold.positions hold.tradableSymbols
        rw [← hok]
        exact hin
      exact hens.of_run hrun
    | positions l =>
      have hens : Ensures (processMsg cfg d.delivery.env (.kollider (.positions l)))
          d.before fun _ s' => Told (es ++ [.handles d]) s' :=
        Told.check hold.authenticate (fun _ => ⟨l, d, hlast, hin⟩) hold.tradableSymbols
      exact hens.of_run hrun
    | tradableSymbols l =>
      have hens : Ensures (processMsg cfg d.delivery.env (.kollider (.tradableSymbols l)))
          d.before fun _ s' => Told (es ++ [.handles d]) s' :=
        Told.check hold.authenticate hold.positions fun _ => ⟨l, d, hlast, hin⟩
      exact hens.of_run hrun
  · exact h.same ((processMsg_connection hconn d.before).of_run hrun) (.handles d)

/-- Messages that are handled are handled by `process_msg`; all other steps leave the
dealer's data alone. -/
theorem LinkStep.dealer {g g' : Link} {e : LinkEvent} (h : LinkStep cfg g e g') :
    (∃ d, e = .handles d ∧ d.before = g.dealer ∧ d.after = g'.dealer ∧
      DealerDelivers cfg d.before d.delivery d.after) ∨
    ((∀ d, e ≠ .handles d) ∧ SameData g.dealer g'.dealer) := by
  cases h with
  | disconnects => exact .inr ⟨by simp, Std.Refl.refl _⟩
  | reconnects => exact .inr ⟨by simp, Std.Refl.refl _⟩
  | receives => exact .inr ⟨by simp, Std.Refl.refl _⟩
  | reports _ _ _ run => exact .inl ⟨_, rfl, rfl, rfl, run⟩
  | serves _ _ _ run => exact .inl ⟨_, rfl, rfl, rfl, run⟩
  | bankState => exact .inr ⟨by simp, ⟨rfl, rfl, rfl⟩, rfl, ⟨rfl, rfl, rfl, rfl⟩⟩
  | checkRisk => exact .inr ⟨by simp, Std.Refl.refl _⟩
  | looks => exact .inr ⟨by simp, Std.Refl.refl _⟩
  | places => exact .inr ⟨by simp, ⟨rfl, rfl, rfl⟩, rfl, ⟨rfl, rfl, rfl, rfl⟩⟩

/-- A risk check goes on, or begins with all data received. -/
theorem LinkStep.busy {g g' : Link} {e : LinkEvent} (h : LinkStep cfg g e g')
    (hbusy : ¬g'.Idle) : ¬g.Idle ∨ g.dealer.hasReceivedInitData = true := by
  cases h with
  | bankState hidle =>
    right
    by_contra hno
    exact hbusy ⟨if_neg hno, hidle.2⟩
  | checkRisk hidle =>
    right
    by_contra hno
    exact hbusy ⟨if_neg hno, hidle.2⟩
  | looks _ hnext =>
    left
    intro hidle
    rw [hidle.1] at hnext
    exact absurd hnext (by simp)
  | places hnext =>
    left
    intro hidle
    rw [hidle.2] at hnext
    exact absurd hnext (by simp)
  | _ => exact .inl hbusy

/-- After the flags were reset, no risk is checked before everything is told again. -/
theorem told_since {g g' : Link} {es : List LinkEvent} (h : Trace (LinkStep cfg) g es g')
    (hidle : g.Idle) (hflags : Told [] g.dealer) :
    Told es g'.dealer ∧ (¬g'.Idle → Retold es) := by
  induction h with
  | nil => exact ⟨hflags, fun hbusy => absurd hidle hbusy⟩
  | @snoc g₁ g₂ es e _ hstep ih =>
    obtain ⟨htold, hbusy⟩ := ih
    constructor
    · rcases hstep.dealer with ⟨d, rfl, hbefore, hafter, hrun⟩ | ⟨-, hsame⟩
      · rw [← hafter]
        rw [← hbefore] at htold
        exact htold.handles hrun
      · exact htold.same hsame.connection e
    · intro hnow
      rcases hstep.busy hnow with hbefore | hinit
      · exact (hbusy hbefore).append e
      · exact (htold.init hinit).append e

/-! ## Rates and quotes after a disconnection -/

/-- A snapshot of the contract's book was handled. -/
def Snapshot (es : List LinkEvent) (symbol : Symbol) : Prop :=
  ∃ u, u.symbol = symbol ∧ u.updateType = "snapshot" ∧ Heard es (.level2State u)

/-- Nothing is known of the contract. -/
structure Blank (s : DealerState) (symbol : Symbol) : Prop where
  book : s.level2Data.lookup symbol = none
  bids : s.bidQuotes.lookup symbol = none
  asks : s.askQuotes.lookup symbol = none

/-- No rate comes from the contract. -/
def Unpriced (cfg : DealerConfig) (s : DealerState) (symbol : Symbol) : Prop :=
  ∀ amount conversion charge, conversion.symbol = symbol →
    getBtcCrossRate cfg s amount conversion charge = .ok (none, none) ∧
      getRateInv cfg s amount conversion = .ok (none, none)

theorem Blank.unpriced {s : DealerState} {symbol : Symbol} (h : Blank s symbol) :
    Unpriced cfg s symbol := by
  intro amount conversion charge hsymbol
  have hquotes : quotesFor s conversion = none := by
    unfold quotesFor
    rw [hsymbol]
    split
    · exact h.asks
    · exact h.bids
  unfold getBtcCrossRate getRateInv
  rw [hquotes]
  exact ⟨rfl, rfl⟩

/-- A book that is not known only becomes known by a snapshot. -/
theorem updateBook_blank {books books' : AList fun _ : Symbol => Level2State} {u : Level2State}
    (h : updateBook books u = .ok books') (hnone : books.lookup u.symbol = none)
    (hdelta : u.updateType ≠ "snapshot") : books' = books := by
  unfold updateBook at h
  rw [if_neg hdelta] at h
  split at h
  next =>
    rw [hnone] at h
    exact (Checked.pure_eq_ok.mp h).symm
  next => exact absurd h (by simp [throw, throwThe, MonadExceptOf.throw])

theorem Blank.update {s s' : DealerState} {symbol : Symbol} {ws : WsClient} {u : Level2State}
    (h : Blank s symbol) (hrun : processOrderbookUpdate ws u s = .ok ((), s'))
    (hnot : ¬(u.symbol = symbol ∧ u.updateType = "snapshot")) : Blank s' symbol := by
  obtain ⟨books, hbooks, hquotes⟩ := processOrderbookUpdate_eq_ok hrun
  have hbook : books.lookup symbol = none := by
    by_cases hsymbol : u.symbol = symbol
    · have hdelta : u.updateType ≠ "snapshot" := fun hs => hnot ⟨hsymbol, hs⟩
      rw [updateBook_blank hbooks (by rw [hsymbol]; exact h.book) hdelta]
      exact h.book
    · rw [updateBook_lookup_ne hbooks (Ne.symm hsymbol)]
      exact h.book
  have hblank : Blank { s with level2Data := books } symbol := ⟨hbook, h.bids, h.asks⟩
  rcases updateQuotes_spec hquotes with ⟨-, rfl⟩ | ⟨-, rfl⟩ | ⟨l2, bids, asks, hreq⟩
  · exact hblank
  · exact hblank
  · have hrun' := hreq.run s.bidQuotes s.askQuotes
    have hs' : s' = { s with
        level2Data := books
        bidQuotes := storeQuotes s.bidQuotes u.symbol bids
        askQuotes := storeQuotes s.askQuotes u.symbol asks } :=
      (Prod.mk.inj (Except.ok.inj (hquotes.symm.trans hrun'))).2
    have hsymbol : symbol ≠ u.symbol := by
      intro hsymbol
      have hsome := hreq.book
      rw [← hsymbol] at hsome
      exact absurd (hsome.symm.trans hbook) (by simp)
    rw [hs']
    exact ⟨hbook, (lookup_storeQuotes_ne hsymbol).trans h.bids,
      (lookup_storeQuotes_ne hsymbol).trans h.asks⟩

/-- Without a snapshot a contract stays unknown. -/
theorem blank_since {g g' : Link} {es : List LinkEvent} {symbol : Symbol}
    (h : Trace (LinkStep cfg) g es g') (hg : Blank g.dealer symbol) (hnot : ¬Snapshot es symbol) :
    Blank g'.dealer symbol := by
  refine h.invariant (I := fun g => Blank g.dealer symbol) ?_ hg
  intro g₁ e g₂ he hblank hstep
  rcases hstep.dealer with ⟨d, rfl, hbefore, hafter, hrun⟩ | ⟨-, hsame⟩
  · rw [← hbefore] at hblank
    rw [← hafter]
    rcases hrun.market with ⟨u, hin, hupdate⟩ | hsame | hno
    · exact hblank.update hupdate fun hu => hnot ⟨u, hu.1, hu.2, d, he, hin⟩
    · exact ⟨by rw [hsame.level2Data]; exact hblank.book,
        by rw [hsame.bidQuotes]; exact hblank.bids,
        by rw [hsame.askQuotes]; exact hblank.asks⟩
    · exact ⟨by rw [hno.level2Data]; rfl, by rw [hno.bidQuotes]; rfl, by rw [hno.askQuotes]; rfl⟩
  · exact ⟨by rw [hsame.market.level2Data]; exact hblank.book,
      by rw [hsame.market.bidQuotes]; exact hblank.bids,
      by rw [hsame.market.askQuotes]; exact hblank.asks⟩

/-- After the quotes were dropped, those in the table were made since. -/
theorem issued_since {g g' : Link} {es : List LinkEvent} (h : Trace (LinkStep cfg) g es g')
    (hg : g.dealer.guaranteedQuotes = ∅) :
    ∀ (id : Nat) quote, g'.dealer.guaranteedQuotes[id]? = some quote →
      ∃ i, .handles i ∈ es ∧ i.Issues quote ∧ quote.quoteId = some id := by
  induction h with
  | nil =>
    intro id quote hq
    rw [hg] at hq
    exact absurd hq (by simp)
  | @snoc g₁ g₂ es e _ hstep ih =>
    have hold : ∀ (id : Nat) quote, g₁.dealer.guaranteedQuotes[id]? = some quote →
        ∃ i, .handles i ∈ es ++ [e] ∧ i.Issues quote ∧ quote.quoteId = some id := by
      intro id quote hq
      obtain ⟨i, hi, hissues, hid⟩ := ih id quote hq
      exact ⟨i, List.mem_append_left _ hi, hissues, hid⟩
    intro id quote hq
    rcases hstep.dealer with ⟨d, rfl, hbefore, hafter, hrun⟩ | ⟨-, hsame⟩
    · rw [← hafter] at hq
      rcases made_or_kept hrun hq with hmade | ⟨hkept, -⟩
      · exact ⟨d, by simp, hmade.issued, hmade.named⟩
      · rw [hbefore] at hkept
        exact hold id quote hkept
    · rw [hsame.quotes] at hq
      exact hold id quote hq

/-! ## The whole -/

theorem places_current {g g' : Link} {es : List LinkEvent}
    (h : Trace (fun g e g' => Uninterrupted g e ∧ LinkStep cfg g e g') g es g') (hg : Fresh g) :
    Fresh g' ∧ ∀ call source connection, .places call source connection ∈ es →
      source = some connection := by
  induction h with
  | nil => exact ⟨hg, by simp⟩
  | snoc _ hlast ih =>
    obtain ⟨hfresh, hplaces⟩ := ih
    refine ⟨hfresh.step hlast.1 hlast.2, ?_⟩
    intro call source connection hmem
    rcases List.mem_append.mp hmem with hmem | hmem
    · exact hplaces call source connection hmem
    · have hstep := hlast.2
      rw [← List.mem_singleton.mp hmem] at hstep
      cases hstep with
      | places hnext => exact (hfresh.order call source hnext).1

theorem LinkStep.idle_of_handles {g g' : Link} {d : DealerStep}
    (h : LinkStep cfg g (.handles d) g') :
    g'.Idle := by
  cases h with
  | reports hidle => exact hidle
  | serves hidle => exact hidle

/-- `Disconnected` leaves nothing behind. -/
theorem disconnected_eq {d : DealerStep} (hin : d.input = .kollider .disconnected)
    (hrun : DealerDelivers cfg d.before d.delivery d.after) :
    NoMarket d.after ∧ d.after.guaranteedQuotes = ∅ ∧ Told [] d.after := by
  have hin : d.delivery.input = .kollider .disconnected := hin
  have hrun := dealerDelivers_iff.mp hrun
  rw [hin] at hrun
  have hens : Ensures (processMsg cfg d.delivery.env (.kollider .disconnected)) d.before
      fun _ s' => NoMarket s' ∧ s'.guaranteedQuotes = ∅ ∧ s'.hasReceivedInitData = false ∧
        s'.hasReceivedSymbols = false ∧ s'.hasReceivedPositions = false ∧
        s'.isKolliderAuthenticated = false := ⟨⟨rfl, rfl, rfl⟩, rfl, rfl, rfl, rfl, rfl⟩
  obtain ⟨hmarket, hquotes, hinit, hsymbols, hpositions, hauth⟩ := hens.of_run hrun
  exact ⟨hmarket, hquotes, by simp [hauth], by simp [hpositions], by simp [hsymbols],
    by simp [hinit]⟩

/-- **Disconnections.** In a run in which the thread does not disconnect while an order
is about to be sent, every order is sized from positions that were reported on the
connection it is sent on. And in every run, after the dealer has handled
`Disconnected`: there is no rate for a contract until a snapshot of its book is
handled, a quote that is redeemed was made since, and no order is placed before the
dealer has been told again that it is authenticated, the positions and the contracts. -/
theorem nothing_outlives_disconnect {env : DealerEnv} {pnl : Decimal} {es : List LinkEvent}
    {g : Link} (h : Trace (fun g e g' => Uninterrupted g e ∧ LinkStep cfg g e g')
      (Link.start cfg env pnl) es g) :
    (∀ call source connection, .places call source connection ∈ es → source = some connection) ∧
    ∀ a d b, es = a ++ .handles d :: b → d.input = .kollider .disconnected →
      (∀ symbol, ¬Snapshot b symbol → Unpriced cfg g.dealer symbol) ∧
      (∀ b₁ e b₂ req id, b = b₁ ++ .handles e :: b₂ → e.Redeems req id →
        ∃ i quote, .handles i ∈ b₁ ∧ i.Issues quote ∧ quote.quoteId = some id) ∧
      ∀ b₁ call source connection b₂, b = b₁ ++ .places call source connection :: b₂ →
        Retold b₁ := by
  have hfresh : Fresh (Link.start cfg env pnl) :=
    ⟨fun _ => rfl, fun hr => absurd hr (by simp [Link.start, HedgingState.new]),
      fun _ _ hs => absurd hs (by simp [Link.start])⟩
  refine ⟨(places_current h hfresh).2, ?_⟩
  intro a d b hes hdisc
  subst hes
  -- from here on only the steps count
  have hrun : Trace (LinkStep cfg) (Link.start cfg env pnl) (a ++ .handles d :: b) g :=
    h.mono fun _ _ _ hstep => hstep.2
  obtain ⟨m, -, hrest⟩ := hrun.split
  obtain ⟨m', hstep, hb⟩ := hrest.first
  have hidle := hstep.idle_of_handles
  have hreset : NoMarket m'.dealer ∧ m'.dealer.guaranteedQuotes = ∅ ∧ Told [] m'.dealer := by
    rcases hstep.dealer with ⟨d', hd, -, hafter, hdeliver⟩ | ⟨hno, -⟩
    · obtain rfl := LinkEvent.handles.inj hd
      rw [← hafter]
      exact disconnected_eq hdisc hdeliver
    · exact absurd rfl (hno d)
  obtain ⟨hmarket, hquotes, htold⟩ := hreset
  refine ⟨?_, ?_, ?_⟩
  · intro symbol hnot
    have hblank : Blank m'.dealer symbol :=
      ⟨by rw [hmarket.level2Data]; rfl, by rw [hmarket.bidQuotes]; rfl,
        by rw [hmarket.askQuotes]; rfl⟩
    exact (blank_since hb hblank hnot).unpriced
  · intro b₁ e b₂ req id hcut hredeems
    rw [hcut] at hb
    obtain ⟨m₁, hb₁, hrest⟩ := hb.split
    obtain ⟨m₂, hstep₁, -⟩ := hrest.first
    rcases hstep₁.dealer with ⟨e', he, hbefore, -, hdeliver⟩ | ⟨hno, -⟩
    · obtain rfl := LinkEvent.handles.inj he
      obtain ⟨quote, hfound, -⟩ := hredeems.found hdeliver
      rw [hbefore] at hfound
      obtain ⟨i, hi, hissues, hid⟩ := issued_since hb₁ hquotes id quote hfound
      exact ⟨i, quote, hi, hissues, hid⟩
    · exact absurd rfl (hno e)
  · intro b₁ call source connection b₂ hcut
    rw [hcut] at hb
    obtain ⟨m₁, hb₁, hrest⟩ := hb.split
    obtain ⟨m₂, hstep₁, -⟩ := hrest.first
    refine (told_since hb₁ hidle htold).2 fun hidle₁ => ?_
    cases hstep₁ with
    | places hnext =>
      rw [hidle₁.2] at hnext
      exact absurd hnext (by simp)

namespace Sample

/-- The thread has received what the dealer waits for. -/
def receivesAll : List LinkEvent :=
  [.receives (.authenticate "success"), .receives (.positions ∅), .receives (.tradableSymbols [])]

def linkClient : HedgingState :=
  { HedgingState.new with
    isConnected := true
    isAuthenticated := true
    hasReceivedPositions := true }

def linkEnv : DealerEnv :=
  { dealerEnv 1 with ws := ⟨[], linkClient.getPositionState, fun _ => true⟩ }

def linkStart : Link := .start hedgeConfig (dealerEnv 0) 0

/-- The dealer has been told of some of it. -/
def toldDealer (authenticated positions symbols : Bool) : DealerState :=
  { linkStart.dealer with
    isKolliderAuthenticated := authenticated
    hasReceivedPositions := positions
    hasReceivedSymbols := symbols
    hasReceivedInitData := positions && symbols && authenticated }

def tellsDealer : List LinkEvent :=
  [.handles ⟨toldDealer false false false, ⟨linkEnv, .kollider (.authenticate "success")⟩,
      toldDealer true false false⟩,
    .handles ⟨toldDealer true false false, ⟨linkEnv, .kollider (.positions ∅)⟩,
      toldDealer true true false⟩,
    .handles ⟨toldDealer true true false, ⟨linkEnv, .kollider (.tradableSymbols [])⟩,
      toldDealer true true true⟩]

/-- What is owed is to be sold, as the first connection says. -/
def sale : WsCall := .makeOrder 100 usdSymbol .ask

/-- The dealer has begun a check and sized the order. -/
def linkSized : Link where
  client := linkClient
  connection := 0
  source := fun _ => some 0
  channel := []
  dealer := { toldDealer true true true with lastBankState := some hedgeBankState }
  checking := []
  sized := some (sale, some 0)

theorem linkSized_run : Trace (LinkStep hedgeConfig) linkStart
    (receivesAll ++ (tellsDealer ++ [.checks hedgeBankState, .looks])) linkSized := by
  have hshows : Shows linkClient linkEnv.ws := ⟨rfl, rfl, fun h => absurd h (by decide)⟩
  have hauth : DealerDelivers hedgeConfig (toldDealer false false false)
      ⟨linkEnv, .kollider (.authenticate "success")⟩ (toldDealer true false false) := by
    refine dealerDelivers_iff.mpr ?_
    unfold processMsg processKollider
    dsimp only
    rw [if_pos rfl]
    rfl
  have hsizes : orderFor hedgeConfig linkClient.getPositionState owedDollars = .ok (some sale) := by
    have hsome : (orderFor hedgeConfig linkClient.getPositionState owedDollars).toOption =
        some (some sale) := by decide +kernel
    cases ho : orderFor hedgeConfig linkClient.getPositionState owedDollars with
    | error e =>
      rw [ho] at hsome
      exact absurd hsome (by simp [Except.toOption])
    | ok call =>
      rw [ho] at hsome
      exact congrArg _ (Option.some.inj hsome)
  have hidle : ∀ g : Link, g.checking = [] → g.sized = none → g.Idle := fun _ hc hs => ⟨hc, hs⟩
  refine .cons (LinkStep.receives rfl) (.cons (.receives rfl) (.cons (.receives rfl) ?_))
  refine .cons (.reports (hidle _ rfl rfl) rfl hshows hauth) ?_
  refine .cons (.reports (hidle _ rfl rfl) rfl hshows rfl) ?_
  refine .cons (.reports (hidle _ rfl rfl) rfl hshows rfl) ?_
  refine .cons (.bankState (hidle _ rfl rfl)) (.cons (.looks rfl rfl hsizes) ?_)
  exact .nil _

def untilSized : List LinkEvent := receivesAll ++ (tellsDealer ++ [.checks hedgeBankState, .looks])

theorem linkSized_uninterrupted :
    Trace (fun g e g' => Uninterrupted g e ∧ LinkStep hedgeConfig g e g')
    linkStart untilSized linkSized := by
  have hno : ∀ e ∈ untilSized, e ≠ .disconnects := by
    simp [untilSized, receivesAll, tellsDealer]
  refine (linkSized_run.restrict hno).mono fun g e g' h => ⟨fun he => absurd he h.1, h.2⟩

/-- The order was sent. -/
def linkPlaced : Link :=
  { linkSized with
    sized := none
    dealer := { linkSized.dealer with calls := linkSized.dealer.calls ++ [sale] } }

def closedEnv : DealerEnv :=
  { dealerEnv 2 with ws := ⟨[], HedgingState.new.getPositionState, fun _ => false⟩ }

/-- `Disconnected` is handled. -/
def handlesDisconnected (s : DealerState) : DealerStep :=
  ⟨s, ⟨closedEnv, .kollider .disconnected⟩, { s with
    level2Data := ∅
    bidQuotes := ∅
    askQuotes := ∅
    hasReceivedInitData := false
    hasReceivedSymbols := false
    hasReceivedPositions := false
    isKolliderAuthenticated := false
    guaranteedQuotes := ∅
    lastBankState := none }⟩

end Sample

/-- An order, and then a disconnection. -/
theorem nothing_outlives_disconnect_sample : ∃ g : Link,
    Trace (LinkStep Sample.hedgeConfig) Sample.linkStart
      (Sample.untilSized ++ [.places Sample.sale (some 0) 0] ++ [.disconnects] ++
        [.handles (Sample.handlesDisconnected Sample.linkPlaced.dealer)]) g ∧
    ∀ symbol, Unpriced Sample.hedgeConfig g.dealer symbol := by
  have hplaces : LinkStep Sample.hedgeConfig Sample.linkSized (.places Sample.sale (some 0) 0)
      Sample.linkPlaced := .places rfl rfl rfl
  have hdisconnects : LinkStep Sample.hedgeConfig Sample.linkPlaced .disconnects
      (Sample.linkPlaced.passing Sample.linkPlaced.client.setDisconnected) := .disconnects rfl
  have hhandles : LinkStep Sample.hedgeConfig
      (Sample.linkPlaced.passing Sample.linkPlaced.client.setDisconnected)
      (.handles (Sample.handlesDisconnected Sample.linkPlaced.dealer)) _ :=
    .reports ⟨rfl, rfl⟩ rfl ⟨rfl, rfl, fun _ _ => rfl⟩ rfl
  have hrun := ((Sample.linkSized_uninterrupted.snoc ⟨by simp [Uninterrupted], hplaces⟩).snoc
    ⟨fun _ => rfl, hdisconnects⟩).snoc ⟨by simp [Uninterrupted], hhandles⟩
  refine ⟨_, hrun.mono fun _ _ _ h => h.2, fun symbol => ?_⟩
  refine ((nothing_outlives_disconnect hrun).2 _ _ [] rfl rfl).1 symbol ?_
  intro hsnap
  obtain ⟨u, -, -, e, he, -⟩ := hsnap
  exact absurd he (by simp)

/-- The connection is lost and opened again after an order was sized: the order is
sent on the second connection, with the size that the first one gave. -/
theorem order_outlives_disconnect : ∃ es g call source connection,
    Trace (LinkStep Sample.hedgeConfig) Sample.linkStart es g ∧
    .places call source connection ∈ es ∧ source ≠ some connection := by
  have hdisconnects : LinkStep Sample.hedgeConfig Sample.linkSized .disconnects
      (Sample.linkSized.passing Sample.linkSized.client.setDisconnected) := .disconnects rfl
  obtain ⟨g, hrun⟩ : ∃ g, Trace (LinkStep Sample.hedgeConfig) Sample.linkStart
      (Sample.untilSized ++ [.disconnects] ++ [.reconnects] ++
        [.receives (.authenticate "success")] ++ [.places Sample.sale (some 0) 1]) g :=
    ⟨_, (((Sample.linkSized_run.snoc hdisconnects).snoc (.reconnects rfl)).snoc
      (.receives rfl)).snoc (.places rfl rfl rfl)⟩
  exact ⟨_, g, Sample.sale, some 0, 1, hrun, List.mem_append_right _ (List.mem_singleton.mpr rfl),
    by decide⟩

end Lndhubx
