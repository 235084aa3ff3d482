import Lndhubx.Dealer.Guaranteed
import Lndhubx.Subjects

/-!
# What the dealer is told about a subject, and what it tells

The dealer is asked by the bank and answers the bank. What it sends while it handles
a message mentions a subject no more often than the message does (`Says`), and the
reports of the exchange are about no subject at all: they make it send invoices,
withdrawals and orders of its own.
-/

namespace Lndhubx

open Prog DealerEngine

variable {cfg : DealerConfig} {env : DealerEnv} {σ : Subject} {n : Nat}

/-- Between two states the dealer mentioned the subject `n` times at most. -/
def Says (σ : Subject) (n : Nat) (t t' : DealerState) : Prop :=
  ∃ new, t'.sent = t.sent ++ new ∧ told σ new ≤ n

namespace Says

/-- Nothing was sent. -/
theorem of_eq {t t' : DealerState} (h : t'.sent = t.sent) : Says σ n t t' :=
  ⟨[], by rw [h, List.append_nil], Nat.zero_le n⟩

/-- One message was. -/
theorem of_one {t t' : DealerState} {m : Message} (h : t'.sent = t.sent ++ [m])
    (hm : m.about σ ≤ n) : Says σ n t t' := by
  refine ⟨[m], h, ?_⟩
  rw [told_cons, told_nil, Nat.add_zero]
  exact hm

/-- One part after the other. -/
theorem trans {k : Nat} {t t' t'' : DealerState} (h : Says σ k t t') (h' : Says σ n t' t'') :
    Says σ (k + n) t t'' := by
  obtain ⟨new, hsent, hle⟩ := h
  obtain ⟨new', hsent', hle'⟩ := h'
  refine ⟨new ++ new', by rw [hsent', hsent, List.append_assoc], ?_⟩
  rw [told_append]
  omega

instance : Std.Refl (Says σ 0) := ⟨fun _ => of_eq rfl⟩

instance : IsTrans DealerState (Says σ 0) := ⟨fun _ _ _ h h' => h.trans h'⟩

/-- Silence, and what is said after it. -/
theorem after {α β : Type} {p : DealerHandler β} {f : β → DealerHandler α}
    (hp : Keeps (Says σ 0) p) (hf : ∀ b, Keeps (Says σ n) (f b)) :
    Keeps (Says σ n) (p >>= f) := fun t =>
  (hp t).bind fun b t' h => (hf b t').mono fun _ t'' h' => by
    have := h.trans h'
    rwa [Nat.zero_add] at this

/-- Nothing is within any bound. -/
theorem upTo {α : Type} {p : DealerHandler α} (h : Keeps (Says σ 0) p) :
    Keeps (Says σ n) p := by
  apply h.mono
  intro t t' h
  obtain ⟨new, hsent, hle⟩ := h
  exact ⟨new, hsent, hle.trans (Nat.zero_le n)⟩

/-- A message counts for what it is about. -/
theorem listener {msg : Message} (h : msg.about σ ≤ n) : Keeps (Says σ n) (listener msg) :=
  .write fun _ => of_one rfl h

/-- The dealer's own messages to the bank. -/
theorem dealer (msg : Dealer) : Keeps (Says σ 0) (DealerEngine.listener (.dealer msg)) :=
  listener (le_refl 0)

/-- What the exchange is asked is about no request. -/
theorem ask (call : WsCall) : Keeps (Says σ 0) (ask env call) :=
  .ite (.bind (.write fun _ => of_eq rfl) fun _ => .ret _) (.ret _)

end Says

/-! ## Users' requests -/

/-- A swap is priced or refused once at most. -/
theorem swapRequest_saysAtMost (req : SwapRequest) :
    Keeps (Says σ ((Message.api (.swapRequest req)).about σ)) (swapRequest cfg env req) := by
  intro t
  rw [ensures_iff]
  intro _ t' hrun
  rcases swapRequest_cases hrun with ⟨-, -, hsent⟩ | ⟨-, linear, current, fees, response, -, -,
    hanswer, hsent⟩
  · exact .of_one hsent (le_refl _)
  · apply Says.of_one hsent
    generalize t'.guaranteedQuotes = left at hanswer
    cases hanswer with
    | atRate => exact le_refl _
    | noRate => exact le_refl _
    | unknown => exact le_refl _
    | mismatch => exact le_refl _
    | redeemed => exact le_refl _

/-- So is a quote. -/
theorem quoteRequest_saysAtMost (req : QuoteRequest) :
    Keeps (Says σ ((Message.api (.quoteRequest req)).about σ)) (quoteRequest cfg env req) := by
  intro t
  refine Ensures.get_bind (Ensures.lift_bind fun r _ => ?_)
  obtain ⟨rate, fees⟩ := r
  refine Ensures.ite (fun _ => Ensures.set_bind ?_) fun _ => ?_
  · exact Says.of_one rfl (le_refl _)
  · exact Says.of_one rfl (le_refl _)

/-- The other requests are answered at the end, if they are. -/
theorem processApi_saysAtMost (msg : Api) :
    Keeps (Says σ ((Message.api msg).about σ)) (processApi cfg env msg) := by
  cases msg with
  | swapRequest req => exact swapRequest_saysAtMost req
  | quoteRequest req => exact quoteRequest_saysAtMost req
  | availableCurrenciesRequest msg =>
    exact Says.after (.lift _) fun _ => Says.listener (le_refl _)
  | invoiceRequest msg =>
    refine Says.after (.lift _) fun _ => Says.after .read fun _ => Says.after (.lift _) fun _ => ?_
    exact Says.listener (le_refl _)
  | paymentRequest msg =>
    refine Says.after (.lift _) fun _ => ?_
    cases msg.invoiceAmount with
    | none => exact Says.upTo (.ret _)
    | some amount =>
      refine Says.after .read fun _ => Says.after (.lift _) fun _ => .ite ?_ ?_
      · exact Says.upTo (.ret _)
      · exact Says.listener (le_refl _)
  | createLnurlWithdrawalRequest msg =>
    refine Says.after (.lift _) fun _ => Says.after .read fun _ => ?_
    refine Says.after (.lift _) fun _ => .ite ?_ ?_
    · exact Says.upTo (.ret _)
    · exact Says.listener (le_refl _)
  | _ => exact Says.upTo (.ret _)

/-! ## Hedging, and the exchange -/

/-- A check of the risk is about no request. -/
theorem hedge_saysAtMost (account : Account) : Keeps (Says σ 0) (hedge cfg env account) := by
  refine .ite (.ret _) (.bind (.lift _) fun symbol => ?_)
  cases env.ws.positionState symbol with
  | error e => exact .ret _
  | ok position =>
    refine .bind (.lift _) fun hedged => .bind (.lift _) fun deltaQty => ?_
    cases cfg.riskTolerances account.currency with
    | none => exact .ret _
    | some tolerance =>
      refine .ite (.ret _) ?_
      cases deltaQty.toI64 with
      | none => exact .panic _
      | some converted => exact .bind (Says.ask _) fun sent => .ite (.panic _) (.ret _)

/-- Nor is one of the leverage. -/
theorem maintainLeverage_saysAtMost (position : PositionState) :
    Keeps (Says σ 0) (maintainLeverage cfg env position) := by
  intro t
  refine Ensures.get_bind (Ensures.ite (fun _ => .of_eq rfl) fun _ => Ensures.set_bind ?_)
  refine ((?_ : Keeps (Says σ 0) _) _).mono fun _ t' h => ?_
  · refine .ite (.ret _) (.bind (.lift _) fun _ => .bind (.lift _) fun _ => ?_)
    refine .bind (.lift _) fun delta => .ite ?_ (.ret _)
    split
    next => exact .bind (Says.ask _) fun _ => .ret _
    next => exact .ret _
  exact h

/-- Nor is an update of a book. -/
theorem processOrderbookUpdate_saysAtMost (ws : WsClient) (update : Level2State) :
    Keeps (Says σ 0) (processOrderbookUpdate ws update) := by
  intro t
  refine Ensures.get_bind (Ensures.lift_bind fun books _ => Ensures.set_bind ?_)
  unfold updateQuotes
  split
  next contract _ =>
    refine Ensures.get_bind ?_
    split
    next book _ =>
      exact Ensures.lift_bind fun bids _ => Ensures.lift_bind fun asks _ => .of_eq rfl
    next => exact .of_eq rfl
  next => exact .of_eq rfl

/-- Nor is anything the exchange reports. -/
theorem processKollider_saysAtMost (msg : KolliderApiResponse) :
    Keeps (Says σ 0) (processKollider cfg env msg) := by
  cases msg with
  | disconnected => exact .write fun _ => .of_eq rfl
  | level2State u => exact processOrderbookUpdate_saysAtMost _ u
  | authenticate message => exact .ite (.write fun _ => .of_eq rfl) (.ret _)
  | positions l => exact .write fun _ => .of_eq rfl
  | tradableSymbols l => exact .write fun _ => .of_eq rfl
  | positionStates position => exact maintainLeverage_saysAtMost position
  | settlementRequest req =>
    unfold processKollider
    dsimp only
    cases parseU64 req.amount with
    | some amount => exact Says.dealer _
    | none => exact .panic _
  | changeMarginSuccess m =>
    unfold processKollider
    dsimp only
    refine .ite ?_ (.ret _)
    cases (-m.amount).toU64 with
    | some amount => exact Says.dealer _
    | none => exact .panic _
  | fundingPayment amount =>
    intro t
    exact Ensures.get_bind (Ensures.lift_bind fun profit _ => .of_eq rfl)
  | balances cash => exact Says.dealer _
  | orderInvoice invoice => exact Says.dealer _
  | addMarginRequest invoice => exact Says.dealer _
  | reconnected => exact .ret _
  | logged => exact .ret _

/-! ## Every message -/

/-- How often the dealer is told of a subject. -/
def DealerInput.about (σ : Subject) : DealerInput → Nat
  | .bank msg => msg.about σ
  | .kollider _ => 0

/-- Every message is answered once at most. -/
theorem processMsg_saysAtMost (input : DealerInput) :
    Keeps (Says σ (input.about σ)) (processMsg cfg env input) := by
  cases input with
  | kollider msg => exact processKollider_saysAtMost msg
  | bank msg =>
    cases msg with
    | api msg => exact processApi_saysAtMost msg
    | dealer msg =>
      show Keeps (Says σ 0) _
      cases msg with
      | bankState msg =>
        refine .bind (.write fun _ => .of_eq rfl) fun _ => .bind .read fun _ => ?_
        exact .ite (.ret _) (.forM (fun _ => hedge_saysAtMost _) _)
      | createInvoiceResponse msg =>
        exact .bind (Says.ask _) fun sent => .ite (.panic _) (.ret _)
      | fiatDepositRequest msg =>
        refine .bind (.lift _) fun _ => .bind .read fun _ => .bind (.lift _) fun _ => ?_
        exact Says.dealer _
      | _ => exact .ret _
    | _ => exact Says.upTo (.ret _)

/-- What the dealer sends while it handles a message. -/
theorem DealerDelivers.saysAtMost {t t' : DealerState} {d : DealerDelivery}
    (h : DealerDelivers cfg t d t') : Says σ (d.input.about σ) t t' :=
  (processMsg_saysAtMost d.input t).of_run (dealerDelivers_iff.mp h)

end Lndhubx
