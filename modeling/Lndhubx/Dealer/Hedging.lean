import Lndhubx.Dealer.Spec
import Lndhubx.KolliderHedging

/-!
# Hedging with delayed reports

A risk check orders what is missing between the reported position and the hedge
target of a currency (`hedge_orders`). The exchange is taken to fill every order
and to report it later; `HedgeSystem` keeps, for each contract, the position that
was reported last and the orders that were filled since.

As long as no check acts on a position while an order of its contract is still
unreported, the position never passes the target (`never_overhedged`). Nothing
keeps the dealer from doing so: bank states come with every swap and payment, and
two of them before the first report lead to the same order twice
(`hedged_twice`).
-/

namespace Lndhubx

open Prog DealerEngine

variable {cfg : DealerConfig} {env : DealerEnv} {s : DealerState}

/-! ## The two halves of a check -/

namespace DealerEngine

/-- The order that the check of an account leads to. -/
def orderFor (cfg : DealerConfig)
    (positionState : Symbol → Except KolliderClientError (Option PositionState))
    (account : Account) : Checked (Option WsCall) := do
  if account.currency = .BTC ∨ account.currency = .KKP then return none
  let symbol ← account.currency.symbol
  let required := calcNumContractsForValue account.balance
  let .ok position := positionState symbol | return none
  let hedged ← hedgedQuantity position
  let deltaQty ← Decimal.sub required hedged
  let some tolerance := cfg.riskTolerances account.currency | return none
  if |deltaQty| < ((tolerance : Int).bmod (2 ^ 64) : Int) then return none
  let some converted := deltaQty.toI64
    | throw (.explicit "Could not convert delta quantity into i64")
  let orderQuantity := match cfg.maxSingleOrderQuantities symbol.toLower with
    | some cap => if cap < converted.natAbs then cap else converted.natAbs
    | none => converted.natAbs
  return some (.makeOrder orderQuantity symbol (Side.fromSign converted))

/-- `make_order`, whose failure is a panic. -/
def place (env : DealerEnv) (call : WsCall) : DealerHandler Unit := do
  let sent ← ask env call
  if !sent then throw (.explicit "Failed to create order")

/-- A check that is not interrupted sizes the order and places it. -/
theorem hedge_eq (env : DealerEnv) (account : Account) :
    hedge cfg env account = (do
      let call ← orderFor cfg env.ws.positionState account
      match call with
      | some call => place env call
      | none => return) := by
  unfold hedge orderFor
  by_cases hc : account.currency = .BTC ∨ account.currency = .KKP
  · rw [if_pos hc, if_pos hc]
    rfl
  rw [if_neg hc, if_neg hc, lift_bind_assoc]
  refine bind_congr fun symbol => ?_
  dsimp only
  cases env.ws.positionState symbol with
  | error e => rfl
  | ok position =>
    dsimp only
    rw [lift_bind_assoc]
    refine bind_congr fun hedged => ?_
    rw [lift_bind_assoc]
    refine bind_congr fun delta => ?_
    cases cfg.riskTolerances account.currency with
    | none => rfl
    | some tolerance =>
      dsimp only
      by_cases htol : |delta| < ((tolerance : Int).bmod (2 ^ 64) : Int)
      · rw [if_pos htol, if_pos htol]
        rfl
      · rw [if_neg htol, if_neg htol]
        cases delta.toI64 with
        | none => rfl
        | some converted => rfl

end DealerEngine

/-! ## Orders -/

/-- What an order in a contract adds to the position. -/
def WsCall.ordered (symbol : Symbol) : WsCall → Option Decimal
  | .makeOrder quantity symbol' side =>
    if symbol' = symbol then some (side.toSign * quantity) else none
  | _ => none

/-- The orders in a contract, in this order. -/
def orders (symbol : Symbol) (calls : List WsCall) : List Decimal :=
  calls.filterMap (·.ordered symbol)

theorem orders_append (symbol : Symbol) (calls calls' : List WsCall) :
    orders symbol (calls ++ calls') = orders symbol calls ++ orders symbol calls' :=
  List.filterMap_append

/-- From nothing towards `d`, and not beyond. -/
def Toward (x d : Decimal) : Prop := (0 ≤ x ∧ x ≤ d) ∨ (d ≤ x ∧ x ≤ 0)

theorem toward_zero (d : Decimal) : Toward 0 d := by
  rcases le_total 0 d with h | h
  · exact .inl ⟨le_refl 0, h⟩
  · exact .inr ⟨h, le_refl 0⟩

/-- Part of a truncated number, with its sign. -/
theorem toward_of_toI64 {d : Decimal} {n : Int} {q : Nat} (h : d.toI64 = some n)
    (hq : q ≤ n.natAbs) : Toward ((Side.fromSign n).toSign * q) d := by
  have hn : n = Decimal.roundInt .toZero d := by
    unfold Decimal.toI64 at h
    split at h
    · exact (Option.some.inj h).symm
    · exact absurd h (by simp)
  unfold Decimal.roundInt at hn
  dsimp only at hn
  unfold Side.fromSign
  by_cases hneg : n < 0
  · rw [if_pos hneg]
    have hd : ¬0 ≤ d := by
      intro hd
      rw [if_pos hd] at hn
      have := Int.floor_nonneg.mpr hd
      omega
    rw [if_neg hd] at hn
    right
    have hle : d ≤ (n : Decimal) := by
      rw [hn]
      exact Int.le_ceil d
    have hcast : (n : Decimal) ≤ -(q : Decimal) := by
      have : n ≤ -(q : Int) := by omega
      exact_mod_cast this
    have hq0 : (0 : Decimal) ≤ q := Nat.cast_nonneg q
    simp only [Side.toSign, Int.cast_neg, Int.cast_one, neg_one_mul]
    exact ⟨hle.trans hcast, by linarith⟩
  · rw [if_neg hneg]
    simp only [Side.toSign, Int.cast_one, one_mul]
    have hq0 : (0 : Decimal) ≤ q := Nat.cast_nonneg q
    have hqn : (q : Decimal) ≤ (n : Decimal) := by
      have : (q : Int) ≤ n := by omega
      exact_mod_cast this
    by_cases hd : 0 ≤ d
    · rw [if_pos hd] at hn
      left
      refine ⟨hq0, hqn.trans ?_⟩
      rw [hn]
      exact Int.floor_le d
    · -- less than one contract is missing on the other side
      rw [if_neg hd] at hn
      have hceil : ⌈d⌉ ≤ 0 := Int.ceil_le.mpr (by exact_mod_cast (not_le.mp hd).le)
      have hzero : q = 0 := by omega
      rw [hzero]
      exact toward_zero d

/-- An account is within its tolerance, or has none. -/
def Tolerated (cfg : DealerConfig) (account : Account) (hedged : Decimal) : Prop :=
  ∀ tolerance, cfg.riskTolerances account.currency = some tolerance →
    |calcNumContractsForValue account.balance - hedged| < ((tolerance : Int).bmod (2 ^ 64) : Int)

/-- What the check of an account may order. -/
structure Hedged (cfg : DealerConfig) (ws : WsClient) (account : Account) (calls : List WsCall) :
    Prop where
  other : ∀ symbol, account.currency.symbol ≠ .ok symbol → (orders symbol calls).sum = 0
  own : ∀ symbol position hedged, account.currency.symbol = .ok symbol →
    ws.positionState symbol = .ok position → hedgedQuantity position = .ok hedged →
    Toward (orders symbol calls).sum (calcNumContractsForValue account.balance - hedged) ∧
      (Tolerated cfg account hedged → (orders symbol calls).sum = 0)
  unknown : ∀ symbol e, account.currency.symbol = .ok symbol → ws.positionState symbol = .error e →
    (orders symbol calls).sum = 0

theorem Hedged.nothing (ws : WsClient) (account : Account) : Hedged cfg ws account [] where
  other := fun _ _ => rfl
  own := fun _ _ _ _ _ _ => ⟨toward_zero _, fun _ => rfl⟩
  unknown := fun _ _ _ _ => rfl

theorem ask_calls (call : WsCall) :
    Ensures (ask env call) s fun sent s' => sent = true → s'.calls = s.calls ++ [call] := by
  unfold ask
  exact Ensures.ite (fun _ _ => rfl) fun _ h => absurd h (by simp)

/-- An order of an account's check: in the account's contract, and for no more than is
missing between the reported position and the target, which is more than is tolerated. -/
inductive MissingOrder (cfg : DealerConfig)
    (positionState : Symbol → Except KolliderClientError (Option PositionState))
    (account : Account) : WsCall → Prop
  | intro {symbol : Symbol} {position : Option PositionState} {hedged : Decimal} {converted : Int}
      {q : Nat} (hsymbol : account.currency.symbol = .ok symbol)
      (hposition : positionState symbol = .ok position)
      (hhedged : hedgedQuantity position = .ok hedged) (hout : ¬Tolerated cfg account hedged)
      (hconv : (calcNumContractsForValue account.balance - hedged).toI64 = some converted)
      (hq : q ≤ converted.natAbs) :
      MissingOrder cfg positionState account (.makeOrder q symbol (Side.fromSign converted))

/-- Every order that a check leads to is such an order. -/
theorem missingOrder_of_orderFor
    {positionState : Symbol → Except KolliderClientError (Option PositionState)}
    {account : Account} {call : WsCall}
    (h : orderFor cfg positionState account = .ok (some call)) :
    MissingOrder cfg positionState account call := by
  unfold orderFor at h
  split at h
  next => exact absurd (Checked.pure_eq_ok.mp h) (by simp)
  obtain ⟨symbol, hsymbol, h⟩ := Checked.bind_eq_ok.mp h
  cases hposition : positionState symbol with
  | error e =>
    rw [hposition] at h
    exact absurd (Checked.pure_eq_ok.mp h) (by simp)
  | ok position =>
    rw [hposition] at h
    obtain ⟨hedged, hhedged, h⟩ := Checked.bind_eq_ok.mp h
    obtain ⟨delta, hdelta, h⟩ := Checked.bind_eq_ok.mp h
    obtain ⟨-, rfl⟩ := Decimal.sub_eq_ok.mp hdelta
    cases htol : cfg.riskTolerances account.currency with
    | none =>
      rw [htol] at h
      exact absurd (Checked.pure_eq_ok.mp h) (by simp)
    | some tolerance =>
      rw [htol] at h
      dsimp only at h
      split at h
      next => exact absurd (Checked.pure_eq_ok.mp h) (by simp)
      next hout =>
        cases hconv : (calcNumContractsForValue account.balance - hedged).toI64 with
        | none =>
          rw [hconv] at h
          exact absurd h (by simp [throw, throwThe, MonadExceptOf.throw])
        | some converted =>
          rw [hconv] at h
          obtain rfl := Option.some.inj (Checked.pure_eq_ok.mp h)
          refine .intro hsymbol hposition hhedged (fun hin => hout (hin tolerance htol)) hconv ?_
          -- capped or not, it is no more than is missing
          split
          next =>
            split
            · omega
            · exact le_refl _
          next => exact le_refl _

/-- A check that goes through has placed the order it leads to, where it leads to one. -/
theorem hedge_calls (account : Account) :
    Ensures (hedge cfg env account) s fun _ s' =>
      ∃ call, orderFor cfg env.ws.positionState account = .ok call ∧
        s'.calls = s.calls ++ call.toList := by
  rw [hedge_eq]
  refine Ensures.lift_bind fun call hcall => ?_
  cases call with
  | none => exact Ensures.ret ⟨none, hcall, (List.append_nil _).symm⟩
  | some call =>
    refine (ask_calls _).bind fun sent s' hsent =>
      Ensures.ite (fun _ => Ensures.panic _) fun hok => ?_
    exact Ensures.ret ⟨some call, hcall, hsent (by simpa using hok)⟩

/-- An order for no more than is missing. -/
theorem MissingOrder.hedged {ws : WsClient} {account : Account} {call : WsCall}
    (h : MissingOrder cfg ws.positionState account call) : Hedged cfg ws account [call] := by
  cases h with
  | @intro symbol _ _ _ _ hsymbol hposition hhedged hout hconv hq =>
    refine ⟨?_, ?_, ?_⟩
    · intro symbol' hne
      have hne' : symbol ≠ symbol' := fun h => hne (h ▸ hsymbol)
      simp [orders, WsCall.ordered, hne']
    · intro symbol' position' hedged' hsymbol' hposition' hhedged'
      obtain rfl := Except.ok.inj (hsymbol.symm.trans hsymbol')
      obtain rfl := Except.ok.inj (hposition.symm.trans hposition')
      obtain rfl := Except.ok.inj (hhedged.symm.trans hhedged')
      have htoward := toward_of_toI64 hconv hq
      exact ⟨by simpa [orders, WsCall.ordered] using htoward, fun h => absurd h hout⟩
    · intro symbol' e hsymbol' hposition'
      obtain rfl := Except.ok.inj (hsymbol.symm.trans hsymbol')
      exact absurd (hposition.symm.trans hposition') (by simp)

/-- The check of one account. -/
theorem hedge_orders (account : Account) :
    Ensures (hedge cfg env account) s fun _ s' =>
      ∃ calls, s'.calls = s.calls ++ calls ∧ Hedged cfg env.ws account calls := by
  refine (hedge_calls account).mono fun _ s' ⟨call, hcall, hcalls⟩ => ⟨_, hcalls, ?_⟩
  cases call with
  | none => exact Hedged.nothing _ _
  | some call => exact (missingOrder_of_orderFor hcall).hedged

/-- What the checks of the accounts order, one after the other. -/
inductive Hedges (cfg : DealerConfig) (ws : WsClient) :
    List (AccountId × Account) → List WsCall → Prop
  | nil : Hedges cfg ws [] []
  | cons {e : AccountId × Account} {es : List (AccountId × Account)} {calls rest : List WsCall} :
      Hedged cfg ws e.2 calls → Hedges cfg ws es rest → Hedges cfg ws (e :: es) (calls ++ rest)

theorem hedges (exposures : List (AccountId × Account)) :
    Ensures (exposures.forM fun e => hedge cfg env e.2) s fun _ s' =>
      ∃ calls, s'.calls = s.calls ++ calls ∧ Hedges cfg env.ws exposures calls := by
  induction exposures generalizing s with
  | nil => exact ⟨[], (List.append_nil _).symm, .nil⟩
  | cons e es ih =>
    refine (hedge_orders e.2).bind fun _ s₁ h₁ => ih.mono fun _ s₂ h₂ => ?_
    obtain ⟨calls, hcalls, hhedged⟩ := h₁
    obtain ⟨rest, hrest, hhedges⟩ := h₂
    exact ⟨calls ++ rest, by rw [hrest, hcalls, List.append_assoc], .cons hhedged hhedges⟩

theorem symbol_inj {a b : Currency} {symbol : Symbol} (ha : a.symbol = .ok symbol)
    (hb : b.symbol = .ok symbol) : a = b := by
  have h : a.symbol = b.symbol := ha.trans hb.symm
  cases a with
  | BTC => exact absurd ha (by simp [Currency.symbol])
  | KKP => exact absurd ha (by simp [Currency.symbol])
  | _ =>
    cases b with
    | BTC => exact absurd hb (by simp [Currency.symbol])
    | KKP => exact absurd hb (by simp [Currency.symbol])
    | _ =>
      first
        | rfl
        | exact absurd h (by simp [Currency.symbol])

/-- The only account of a currency in the bank's state. -/
def Only (exposures : List (AccountId × Account)) (account : Account) : Prop :=
  ∃ id, exposures.filter (fun e => e.2.currency = account.currency) = [(id, account)]

namespace Hedges

variable {ws : WsClient} {exposures : List (AccountId × Account)} {calls : List WsCall}
  {account : Account} {symbol : Symbol}

theorem sum_eq_zero (h : Hedges cfg ws exposures calls)
    (hnone : ∀ e ∈ exposures, e.2.currency.symbol ≠ .ok symbol) :
    (orders symbol calls).sum = 0 := by
  induction h with
  | nil => rfl
  | cons hhedged _ ih =>
    rw [orders_append, List.sum_append, hhedged.other symbol (hnone _ (by simp)), zero_add]
    exact ih fun e he => hnone e (List.mem_cons_of_mem _ he)

/-- In one contract only its own account orders. -/
theorem exists_own (h : Hedges cfg ws exposures calls) (hone : Only exposures account)
    (hsymbol : account.currency.symbol = .ok symbol) :
    ∃ own, Hedged cfg ws account own ∧ (orders symbol calls).sum = (orders symbol own).sum := by
  obtain ⟨id, hone⟩ := hone
  induction h with
  | nil => exact absurd hone (by simp)
  | @cons e es part rest hhedged htail ih =>
    rw [orders_append, List.sum_append]
    by_cases he : e.2.currency = account.currency
    · rw [List.filter_cons_of_pos (by simpa using he)] at hone
      obtain ⟨rfl, hnone⟩ := List.cons.inj hone
      refine ⟨part, hhedged, ?_⟩
      rw [htail.sum_eq_zero, add_zero]
      intro e' he' hs
      have := List.filter_eq_nil_iff.mp hnone e' he'
      exact this (by simpa using symbol_inj hs hsymbol)
    · rw [List.filter_cons_of_neg (by simpa using he)] at hone
      obtain ⟨own, hown, hsum⟩ := ih hone
      refine ⟨own, hown, ?_⟩
      rw [hhedged.other symbol (fun hs => he (symbol_inj hs hsymbol)), zero_add, hsum]

end Hedges

/-! ## The exchange -/

/-- The dealer, its websocket client and the exchange, which fills every order and
reports it at some later time. -/
structure HedgeSystem where
  dealer : DealerState
  client : HedgingState
  /-- The positions as of the last report. -/
  reported : Symbol → Decimal
  /-- The orders filled since. -/
  unreported : Symbol → List Decimal

namespace HedgeSystem

/-- The position of which some orders may not have been reported yet. -/
def position (g : HedgeSystem) (symbol : Symbol) : Decimal :=
  g.reported symbol + (g.unreported symbol).sum

/-- The dealer orders what its calls since `g` say. -/
def ordering (g : HedgeSystem) (dealer : DealerState) : HedgeSystem :=
  { g with
    dealer
    unreported := fun symbol =>
      g.unreported symbol ++ orders symbol (dealer.calls.drop g.dealer.calls.length) }

/-- In each contract, the oldest orders are reported. -/
def reporting (g : HedgeSystem) (filled : Symbol → Nat) (msg : KolliderApiResponse) : HedgeSystem :=
  { g with
    client := (g.client.processIncomingMessage msg).1
    reported := fun symbol => g.reported symbol + ((g.unreported symbol).take (filled symbol)).sum
    unreported := fun symbol => (g.unreported symbol).drop (filled symbol) }

end HedgeSystem

inductive HedgeEvent where
  | bankState (env : DealerEnv) (bankState : BankState)
  | checkRisk (env : DealerEnv)
  | report (filled : Symbol → Nat) (msg : KolliderApiResponse)

/-- A message says how the positions are after the orders it reports. -/
def Truthful (g : HedgeSystem) (filled : Symbol → Nat) : KolliderApiResponse → Prop
  | .positionStates p => (∀ symbol, symbol ≠ p.symbol → filled symbol = 0) ∧
      hedgedQuantity (some p) =
        .ok (g.reported p.symbol + ((g.unreported p.symbol).take (filled p.symbol)).sum)
  | .positions l => ∀ symbol, hedgedQuantity (l.lookup symbol) =
      .ok (g.reported symbol + ((g.unreported symbol).take (filled symbol)).sum)
  | _ => False

/-- Bank states that all say the same, risk checks, and reports. -/
inductive HedgeStep (cfg : DealerConfig) (exposures : List (AccountId × Account)) :
    HedgeSystem → HedgeEvent → HedgeSystem → Prop
  | bankState {g : HedgeSystem} {env : DealerEnv} {msg : BankState} {dealer : DealerState}
      (same : msg.fiatExposures = exposures) (shows : Shows g.client env.ws)
      (run : DealerDelivers cfg g.dealer ⟨env, .bank (.dealer (.bankState msg))⟩ dealer) :
      HedgeStep cfg exposures g (.bankState env msg) (g.ordering dealer)
  | checkRisk {g : HedgeSystem} {env : DealerEnv} {dealer : DealerState}
      (shows : Shows g.client env.ws)
      (run : DealerEngine.checkRisk cfg env g.dealer = .ok ((), dealer)) :
      HedgeStep cfg exposures g (.checkRisk env) (g.ordering dealer)
  | report {g : HedgeSystem} {filled : Symbol → Nat} {msg : KolliderApiResponse}
      (truthful : Truthful g filled msg) :
      HedgeStep cfg exposures g (.report filled msg) (g.reporting filled msg)

/-- No check acts on a position that orders are missing from. -/
def Settled (cfg : DealerConfig) (account : Account) (symbol : Symbol) (g : HedgeSystem) :
    HedgeEvent → Prop
  | .report _ _ => True
  | _ => g.unreported symbol = [] ∨ Tolerated cfg account (g.reported symbol)

/-- What the dealer and the client know is what was reported. -/
structure Informed (exposures : List (AccountId × Account)) (g : HedgeSystem) : Prop where
  positions : g.client.hasReceivedPositions = true →
    ∀ symbol, hedgedQuantity (g.client.positionStates.lookup symbol) = .ok (g.reported symbol)
  bank : ∀ b, g.dealer.lastBankState = some b → b.fiatExposures = exposures

/-- A check orders nothing in a contract, or what its account asks for. -/
theorem checkRisk_hedges (bankState : BankState) :
    Ensures (checkRiskFromBankState cfg env bankState) s fun _ s' =>
      s'.lastBankState = s.lastBankState ∧
      ∃ calls, s'.calls = s.calls ++ calls ∧
        (calls = [] ∨ Hedges cfg env.ws bankState.fiatExposures calls) := by
  refine Ensures.and ?_ ?_
  · refine (checkRiskFromBankState_sends bankState s).mono fun _ s' h => ?_
    rw [h]
  · refine Ensures.get_bind (Ensures.ite (fun _ => ?_) fun _ => ?_)
    · exact ⟨[], (List.append_nil _).symm, .inl rfl⟩
    · refine (hedges bankState.fiatExposures).mono fun _ s' h => ?_
      obtain ⟨calls, hcalls, hhedges⟩ := h
      exact ⟨calls, hcalls, .inr hhedges⟩

/-- What a check adds to the position in a contract. -/
theorem Hedges.toward {ws : WsClient} {exposures : List (AccountId × Account)}
    {calls : List WsCall} {account : Account} {symbol : Symbol} {g : HedgeSystem}
    (h : calls = [] ∨ Hedges cfg ws exposures calls) (hone : Only exposures account)
    (hsymbol : account.currency.symbol = .ok symbol) (hshows : Shows g.client ws)
    (hg : Informed exposures g) :
    Toward (orders symbol calls).sum
      (calcNumContractsForValue account.balance - g.reported symbol) ∧
      (Tolerated cfg account (g.reported symbol) → (orders symbol calls).sum = 0) := by
  rcases h with rfl | h
  · exact ⟨toward_zero _, fun _ => rfl⟩
  obtain ⟨own, hown, hsum⟩ := h.exists_own hone hsymbol
  rw [hsum]
  have hposition : ws.positionState symbol = g.client.getPositionState symbol := by
    rw [hshows.positionState]
  unfold HedgingState.getPositionState at hposition
  by_cases hreceived : g.client.hasReceivedPositions = true
  · rw [if_pos hreceived] at hposition
    exact hown.own symbol _ _ hsymbol hposition (hg.positions hreceived symbol)
  · rw [if_neg hreceived] at hposition
    have hzero := hown.unknown symbol _ hsymbol hposition
    rw [hzero]
    exact ⟨toward_zero _, fun _ => rfl⟩

/-- Not beyond the target, from where it was. -/
def Between (start target x : Decimal) : Prop := min start target ≤ x ∧ x ≤ max start target

theorem Between.toward {start target x d : Decimal} (h : Between start target x)
    (hd : Toward d (target - x)) : Between start target (x + d) := by
  unfold Between at h ⊢
  rcases le_total start target with hle | hle
  · rw [min_eq_left hle, max_eq_right hle] at h ⊢
    rcases hd with hd | hd
    · exact ⟨by linarith, by linarith⟩
    · exact ⟨by linarith, by linarith⟩
  · rw [min_eq_right hle, max_eq_left hle] at h ⊢
    rcases hd with hd | hd
    · exact ⟨by linarith, by linarith⟩
    · exact ⟨by linarith, by linarith⟩

namespace HedgeSystem

variable {g : HedgeSystem} {symbol : Symbol}

/-- A report moves orders from one side of the sum to the other. -/
theorem position_reporting (filled : Symbol → Nat) (msg : KolliderApiResponse) :
    (g.reporting filled msg).position symbol = g.position symbol := by
  show g.reported symbol + ((g.unreported symbol).take (filled symbol)).sum +
      ((g.unreported symbol).drop (filled symbol)).sum = _
  rw [add_assoc, ← List.sum_append, List.take_append_drop]
  rfl

theorem position_ordering {dealer : DealerState} {calls : List WsCall}
    (h : dealer.calls = g.dealer.calls ++ calls) :
    (g.ordering dealer).position symbol = g.position symbol + (orders symbol calls).sum := by
  show g.reported symbol + (g.unreported symbol ++ orders symbol _).sum = _
  rw [h, List.drop_left, List.sum_append, ← add_assoc]
  rfl

end HedgeSystem

/-- A report informs the client. -/
theorem Informed.reporting {exposures : List (AccountId × Account)} {g : HedgeSystem}
    {filled : Symbol → Nat} {msg : KolliderApiResponse} (hg : Informed exposures g)
    (h : Truthful g filled msg) : Informed exposures (g.reporting filled msg) := by
  refine ⟨?_, hg.bank⟩
  unfold Truthful at h
  split at h
  next p =>
    obtain ⟨honly, hp⟩ := h
    intro hreceived symbol
    by_cases hsymbol : symbol = p.symbol
    · rw [hsymbol]
      show hedgedQuantity ((g.client.positionStates.insert p.symbol p).lookup p.symbol) = _
      rw [AList.lookup_insert]
      exact hp
    · show hedgedQuantity ((g.client.positionStates.insert p.symbol p).lookup symbol) =
        .ok (g.reported symbol + ((g.unreported symbol).take (filled symbol)).sum)
      rw [AList.lookup_insert_ne hsymbol, honly symbol hsymbol, List.take_zero, List.sum_nil,
        add_zero]
      exact hg.positions hreceived symbol
  next l => exact fun _ symbol => h symbol
  next => exact absurd h not_false

/-- A check keeps what is known and moves the position towards the target. -/
theorem HedgeSystem.checked {exposures : List (AccountId × Account)} {account : Account}
    {symbol : Symbol} {g : HedgeSystem} {dealer : DealerState} {ws : WsClient}
    {calls : List WsCall} {start : Decimal} (hg : Informed exposures g)
    (hbetween : Between start (calcNumContractsForValue account.balance) (g.position symbol))
    (hone : Only exposures account) (hsymbol : account.currency.symbol = .ok symbol)
    (hshows : Shows g.client ws)
    (hsettled : g.unreported symbol = [] ∨ Tolerated cfg account (g.reported symbol))
    (hcalls : dealer.calls = g.dealer.calls ++ calls)
    (h : calls = [] ∨ Hedges cfg ws exposures calls) :
    Between start (calcNumContractsForValue account.balance)
      ((g.ordering dealer).position symbol) := by
  obtain ⟨htoward, htolerated⟩ := Hedges.toward h hone hsymbol hshows hg
  rw [HedgeSystem.position_ordering hcalls]
  rcases hsettled with hnone | htol
  · have hposition : g.position symbol = g.reported symbol := by
      unfold HedgeSystem.position
      rw [hnone, List.sum_nil, add_zero]
    rw [← hposition] at htoward
    exact hbetween.toward htoward
  · rw [htolerated htol, add_zero]
    exact hbetween

/-- **No over-hedging.** In a run in which no check acts on a position while an order
of its contract is unreported, the position never passes the hedge target. -/
theorem never_overhedged {exposures : List (AccountId × Account)} {account : Account}
    {symbol : Symbol} {g g' : HedgeSystem} {es : List HedgeEvent} (hg : Informed exposures g)
    (hone : Only exposures account) (hsymbol : account.currency.symbol = .ok symbol)
    (h : Trace (fun g e g' => Settled cfg account symbol g e ∧ HedgeStep cfg exposures g e g')
      g es g') :
    Between (g.position symbol) (calcNumContractsForValue account.balance)
      (g'.position symbol) := by
  refine (h.invariant (I := fun g' => Informed exposures g' ∧ Between (g.position symbol)
    (calcNumContractsForValue account.balance) (g'.position symbol)) ?_ ⟨hg, ?_⟩).2
  · intro g₁ e g₂ _ hinv hstep
    obtain ⟨hinf, hbetween⟩ := hinv
    obtain ⟨hsettled, hstep⟩ := hstep
    cases hstep with
    | @bankState env msg dealer hsame hshows hrun =>
      have hens : Ensures (processMsg cfg env (.bank (.dealer (.bankState msg)))) g₁.dealer
          fun _ s' => s'.lastBankState = some msg ∧ ∃ calls, s'.calls = g₁.dealer.calls ++ calls ∧
            (calls = [] ∨ Hedges cfg env.ws msg.fiatExposures calls) :=
        Ensures.modify_bind (checkRisk_hedges msg)
      obtain ⟨hlast, calls, hcalls, hhedges⟩ := hens.of_run (dealerDelivers_iff.mp hrun)
      rw [hsame] at hhedges
      refine ⟨⟨hinf.positions, fun b hb => ?_⟩,
        HedgeSystem.checked hinf hbetween hone hsymbol hshows hsettled hcalls hhedges⟩
      rw [← Option.some.inj (hlast.symm.trans hb), hsame]
    | @checkRisk env dealer hshows hrun =>
      have hens : Ensures (DealerEngine.checkRisk cfg env) g₁.dealer
          fun _ s' => s'.lastBankState = g₁.dealer.lastBankState ∧
            ∃ calls, s'.calls = g₁.dealer.calls ++ calls ∧
              (calls = [] ∨ Hedges cfg env.ws exposures calls) := by
        refine Ensures.get_bind ?_
        split
        next b hb =>
          rw [← hinf.bank b hb]
          exact checkRisk_hedges b
        next => exact ⟨rfl, [], (List.append_nil _).symm, .inl rfl⟩
      obtain ⟨hlast, calls, hcalls, hhedges⟩ := hens.of_run hrun
      refine ⟨⟨hinf.positions, fun b hb => hinf.bank b (hlast.symm.trans hb)⟩,
        HedgeSystem.checked hinf hbetween hone hsymbol hshows hsettled hcalls hhedges⟩
    | report htruthful =>
      refine ⟨hinf.reporting htruthful, ?_⟩
      rw [HedgeSystem.position_reporting]
      exact hbetween
  · exact ⟨min_le_left _ _, le_max_left _ _⟩

namespace Sample

def hedgeConfig : DealerConfig := { dealerConfig with riskTolerances := fun _ => some 1 }

/-- The dealer owes a hundred dollars. -/
def owedDollars : Account := ⟨1, -100, .USD, .internal, .cash⟩

def hedgeBankState : BankState := ⟨[], [(1, owedDollars)], ⟨2, 0, .BTC, .internal, .cash⟩⟩

/-- A connection on which no positions are held. -/
def hedgeClient : HedgingState :=
  { HedgingState.new with
    isConnected := true
    isAuthenticated := true
    hasReceivedPositions := true }

def hedgeEnv : DealerEnv :=
  { dealerEnv 1 with ws := ⟨[], hedgeClient.getPositionState, fun _ => true⟩ }

def hedgeSystem : HedgeSystem :=
  ⟨{ dealer with hasReceivedInitData := true }, hedgeClient, fun _ => 0, fun _ => []⟩

theorem hedgeSystem_informed : Informed hedgeBankState.fiatExposures hedgeSystem :=
  ⟨fun _ _ => rfl, fun _ h => absurd h (by simp [hedgeSystem, dealer, DealerState.new])⟩

theorem hedgeClient_shows : Shows hedgeClient hedgeEnv.ws :=
  ⟨rfl, rfl, fun h => absurd h (by decide)⟩

theorem owedDollars_only : Only hedgeBankState.fiatExposures owedDollars := ⟨1, rfl⟩

end Sample

/-- One bank state: a hundred contracts are sold. -/
theorem never_overhedged_sample : ∃ dealer,
    Trace (HedgeStep Sample.hedgeConfig Sample.hedgeBankState.fiatExposures) Sample.hedgeSystem
      [.bankState Sample.hedgeEnv Sample.hedgeBankState] (Sample.hedgeSystem.ordering dealer) ∧
    (Sample.hedgeSystem.ordering dealer).unreported Sample.usdSymbol = [-100] ∧
    Between 0 (-100) ((Sample.hedgeSystem.ordering dealer).position Sample.usdSymbol) := by
  obtain ⟨dealer, hrun, horders⟩ := exists_dealerDelivers Sample.hedgeConfig
    ⟨Sample.hedgeEnv, .bank (.dealer (.bankState Sample.hedgeBankState))⟩ Sample.hedgeSystem.dealer
    (fun dealer => orders Sample.usdSymbol dealer.calls = [-100]) (by decide +kernel)
  have hstep : HedgeStep Sample.hedgeConfig Sample.hedgeBankState.fiatExposures Sample.hedgeSystem
      (.bankState Sample.hedgeEnv Sample.hedgeBankState) (Sample.hedgeSystem.ordering dealer) :=
    .bankState rfl Sample.hedgeClient_shows hrun
  refine ⟨dealer, (Trace.nil _).snoc (l := []) hstep, horders, ?_⟩
  have htarget : calcNumContractsForValue Sample.owedDollars.balance = -100 := by decide +kernel
  have hstart : Sample.hedgeSystem.position Sample.usdSymbol = 0 := by decide +kernel
  have hsettled : Settled Sample.hedgeConfig Sample.owedDollars Sample.usdSymbol Sample.hedgeSystem
      (.bankState Sample.hedgeEnv Sample.hedgeBankState) := .inl rfl
  rw [← htarget, ← hstart]
  exact never_overhedged Sample.hedgeSystem_informed Sample.owedDollars_only rfl
    ((Trace.nil _).snoc (l := []) ⟨hsettled, hstep⟩)

/-- Two bank states before the first report: twice as much is sold. -/
theorem hedged_twice : ∃ g,
    Trace (HedgeStep Sample.hedgeConfig Sample.hedgeBankState.fiatExposures) Sample.hedgeSystem
      [.bankState Sample.hedgeEnv Sample.hedgeBankState,
        .bankState Sample.hedgeEnv Sample.hedgeBankState] g ∧
    Informed Sample.hedgeBankState.fiatExposures Sample.hedgeSystem ∧
    Sample.hedgeSystem.position Sample.usdSymbol = 0 ∧
    calcNumContractsForValue Sample.owedDollars.balance = -100 ∧
    g.position Sample.usdSymbol = -200 := by
  obtain ⟨dealer, hrun, horders, hnext⟩ := exists_dealerDelivers Sample.hedgeConfig
    ⟨Sample.hedgeEnv, .bank (.dealer (.bankState Sample.hedgeBankState))⟩ Sample.hedgeSystem.dealer
    (fun dealer => orders Sample.usdSymbol dealer.calls = [-100] ∧
      (DealerEngine.deliver Sample.hedgeConfig ⟨Sample.hedgeEnv,
        .bank (.dealer (.bankState Sample.hedgeBankState))⟩ dealer).toOption.any
        (fun dealer' => decide (orders Sample.usdSymbol (dealer'.calls.drop dealer.calls.length) =
          [-100])) = true) (by decide +kernel)
  obtain ⟨dealer', hrun', horders'⟩ := exists_dealerDelivers _ _ dealer _ hnext
  have hstep : HedgeStep Sample.hedgeConfig Sample.hedgeBankState.fiatExposures Sample.hedgeSystem
      (.bankState Sample.hedgeEnv Sample.hedgeBankState) (Sample.hedgeSystem.ordering dealer) :=
    .bankState rfl Sample.hedgeClient_shows hrun
  have hstep' : HedgeStep Sample.hedgeConfig Sample.hedgeBankState.fiatExposures
      (Sample.hedgeSystem.ordering dealer) (.bankState Sample.hedgeEnv Sample.hedgeBankState)
      ((Sample.hedgeSystem.ordering dealer).ordering dealer') :=
    .bankState rfl Sample.hedgeClient_shows hrun'
  refine ⟨_, ((Trace.nil _).snoc (l := []) hstep).snoc (l := [_]) hstep',
    Sample.hedgeSystem_informed, by decide +kernel, by decide +kernel, ?_⟩
  show 0 + (([] ++ orders Sample.usdSymbol (dealer.calls.drop 0)) ++
    orders Sample.usdSymbol (dealer'.calls.drop dealer.calls.length)).sum = -200
  rw [List.drop_zero, horders, horders']
  decide +kernel

end Lndhubx
