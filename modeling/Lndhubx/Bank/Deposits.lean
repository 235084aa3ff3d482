import Lndhubx.Bank.Invoices
import Lndhubx.Dealer.ProcessMsg

/-!
# No deposit is lost

LND reports a paid invoice (`Deposit`). The bank credits the value it stored
when it made the invoice: in bitcoin at once, or in the currency of the account
after a round trip to the dealer, which answers with a rate or with an error
(`DealerEngine.fiatDepositRequest`).

`Deposits` follows every deposit of an invoice through this. Each one that was
handled is credited with what LND received (`deposits_credited_of_run`), for
every order of the other messages, provided that

* LND received what the invoice is over, and that is a sat at least: the amount
  paid is never looked at, and nothing is booked for an invoice over nothing;
* the dealer answers with a rate, and the converted amount does not round to
  nothing.

An error of the dealer is dropped by the bank, and the deposit with it
(`deposit_lost`).
-/

namespace Lndhubx

open Prog BankEngine

variable {cfg : Config} {env : Env} {s s' : State}

/-! ## One deposit -/

/-- An account of the user, kept in the currency, gained the amount. -/
def Credited (s s' : State) (uid : UserId) (currency : Currency) (amount : Decimal) : Prop :=
  ∃ id, balanceChange s s' (.user uid, id) = amount ∧ s'.ledger.Holds (.user uid, id) currency none

theorem fromSats_pos {n : Nat} (h : 0 < n) : 0 < (Money.fromSats n).value := by
  have := Money.fromSats_pos (Int.natCast_pos.mpr h)
  rwa [Int.cast_natCast] at this

/-- The invoice is found under its payment request, and belongs to a user. -/
structure KnownInvoice (s : State) (i : Invoice) : Prop where
  stored : ∃ i', s.db.invoiceByPaymentRequest i.paymentRequest = some i' ∧ i.Advances i'
  user : asU64 i.uid ≠ DEALER_UID

theorem KnownInvoice.delivers {i : Invoice} {d : Delivery} (h : KnownInvoice s i)
    (hstep : Delivers cfg s d s') : KnownInvoice s' i := by
  obtain ⟨i', hi', hadv⟩ := h.stored
  obtain ⟨i'', hi'', hadv'⟩ := hstep.advances _ i' hi'
  exact ⟨⟨i'', hi'', hadv.trans hadv'⟩, h.user⟩

/-- A deposit in bitcoin is credited with the value of the invoice. -/
theorem Delivers.deposit_btc {i : Invoice} {m : Deposit} {received : Nat}
    (hstep : Delivers cfg s ⟨env, .deposit m⟩ s') (hknown : KnownInvoice s i)
    (hm : m.paymentRequest = i.paymentRequest) (hbtc : i.IsBtc) (hdb : DbSucceeds env s)
    (hpos : 0 < received) (hvalue : (received : Int) = i.value) :
    Credited s s' (asU64 i.uid) .BTC (Money.fromSats received).value := by
  obtain ⟨i', hi', b, t, f, rfl, -⟩ := hknown.stored
  rw [← hm] at hi'
  have hdb : DbSucceeds env { s with sent := [] } := hdb.congr rfl rfl rfl
  have hsats : Money.fromSats i.value = Money.fromSats received := by
    rw [← hvalue]
    norm_cast
  have hout : DepositOutcome env m { s with sent := [] } s' := hstep.ensures (deposit_spec m)
  cases hout with
  | ignored _ reason =>
    have hnone : s.db.invoiceByPaymentRequest m.paymentRequest = none := reason hdb
    rw [hnone] at hi'
    exact absurd hi' (by simp)
  | dealer j found owner _ =>
    obtain rfl := Option.some.inj (hi'.symm.trans found)
    exact absurd owner hknown.user
  | forwarded j c target found _ hcurrency htarget fiat _ _ =>
    obtain rfl := Option.some.inj (hi'.symm.trans found)
    injection hcurrency.symm.trans hbtc.1 with hc
    injection htarget.symm.trans hbtc.2 with ht
    exact absurd ⟨hc, ht⟩ fiat
  | unbooked j found _ _ _ reason =>
    obtain rfl := Option.some.inj (hi'.symm.trans found)
    refine absurd hdb (reason ?_)
    show 0 < (Money.fromSats i.value).value
    rw [hsats]
    exact fromSats_pos hpos
  | credited j s₁ u bank found _ _ _ booked rest =>
    obtain rfl := Option.some.inj (hi'.symm.trans found)
    have hl : s'.ledger = s₁.ledger := by
      rcases rest with ⟨hn, -⟩ | hset
      · exact hn.ledger
      · exact hset.ledger
    have hmoves := booked.moves
    rw [← hl] at hmoves
    have hchange : balanceChange s s' = _ := balanceChange_of_moves hmoves
    refine ⟨u, ?_, hmoves.booked_holds (List.mem_cons_self ..)⟩
    rw [hchange]
    show Posting.sumAt _ _ = _
    simp [hsats]

/-- What the dealer is asked for a deposit. -/
structure AsksFor (i : Invoice) (received : Nat) (req : FiatDepositRequest) : Prop where
  uid : req.uid = asU64 i.uid
  paymentRequest : req.paymentRequest = i.paymentRequest
  amount : req.amount = Money.fromSats received

/-- Any other deposit is sent to the dealer with the value of the invoice. -/
theorem Delivers.deposit_forwarded {i : Invoice} {m : Deposit} {received : Nat}
    {req : FiatDepositRequest} (hstep : Delivers cfg s ⟨env, .deposit m⟩ s')
    (hknown : KnownInvoice s i) (hm : m.paymentRequest = i.paymentRequest) (hfiat : ¬i.IsBtc)
    (hdb : DbSucceeds env s) (hvalue : (received : Int) = i.value)
    (hreq : (.dealer (.fiatDepositRequest req), .dealer) ∈ s'.sent) : AsksFor i received req := by
  obtain ⟨i', hi', b, t, f, rfl, -⟩ := hknown.stored
  rw [← hm] at hi'
  have hsats : Money.fromSats i.value = Money.fromSats received := by
    rw [← hvalue]
    norm_cast
  have hout : DepositOutcome env m { s with sent := [] } s' := hstep.ensures (deposit_spec m)
  cases hout with
  | ignored _ reason =>
    have hnone : s.db.invoiceByPaymentRequest m.paymentRequest = none :=
      reason (hdb.congr rfl rfl rfl)
    rw [hnone] at hi'
    exact absurd hi' (by simp)
  | dealer j found owner _ =>
    obtain rfl := Option.some.inj (hi'.symm.trans found)
    exact absurd owner hknown.user
  | unbooked j found _ btc _ _ =>
    obtain rfl := Option.some.inj (hi'.symm.trans found)
    exact absurd btc hfiat
  | credited j s₁ u bank found _ btc _ _ _ =>
    obtain rfl := Option.some.inj (hi'.symm.trans found)
    exact absurd btc hfiat
  | forwarded j c target found _ _ _ _ _ sent =>
    obtain rfl := Option.some.inj (hi'.symm.trans found)
    have hsent : s'.sent = [_] := sent
    rw [hsent, List.mem_singleton] at hreq
    injection hreq with hreq
    injection hreq with hreq
    injection hreq with hreq
    rw [hreq]
    exact ⟨rfl, hm, hsats⟩

/-- An answer with a rate is credited at that rate. -/
theorem Delivers.deposit_converted {i : Invoice} {received : Nat} {req : FiatDepositRequest}
    {rate : Rate} {fees : Option Money} {fiat : Money}
    (hstep : Delivers cfg s ⟨env, .dealer (.fiatDepositResponse
      (DealerEngine.fiatDepositRequest (some rate) fees req))⟩ s')
    (hknown : KnownInvoice s i) (hreq : AsksFor i received req) (hdb : DbSucceeds env s)
    (hpos : 0 < received) (hex : (Money.fromSats received).exchange rate = .ok (.ok fiat))
    (hfiat : 0 < fiat.value) : Credited s s' (asU64 i.uid) req.currency fiat.value := by
  obtain ⟨i', hi', -⟩ := hknown.stored
  have hout : FiatDepositOutcome env (DealerEngine.fiatDepositRequest (some rate) fees req)
      { s with sent := [] } s' :=
    hstep.ensures (fiatDepositResponse_spec (DealerEngine.fiatDepositRequest (some rate) fees req))
  have hamount : (DealerEngine.fiatDepositRequest (some rate) fees req).amount
      = Money.fromSats received := hreq.amount
  cases hout with
  | ignored _ reason =>
    have hreason := reason (hdb.congr rfl rfl rfl) rfl rate rfl
      (by rw [hamount]; exact fromSats_pos hpos)
    rcases hreason with hnone | ⟨x, hx, hle⟩
    · have hnone : s.db.invoiceByPaymentRequest req.paymentRequest = none := hnone
      rw [hreq.paymentRequest, hi'] at hnone
      exact absurd hnone (by simp)
    · rw [hamount, hex] at hx
      injection hx with hx
      injection hx with hx
      rw [← hx] at hle
      exact absurd hfiat (not_lt.mpr hle)
  | credited j rate' fiat' s₁ u bank d d' x _ hrate _ exchanged _ _ booked rest =>
    obtain rfl : rate = rate' := Option.some.inj hrate
    rw [hamount, hex] at exchanged
    injection exchanged with exchanged
    injection exchanged with exchanged
    have hl : s'.ledger = s₁.ledger := by
      rcases rest with ⟨hn, -⟩ | hset
      · exact hn.ledger
      · exact hset.ledger
    have hmoves := booked.moves
    rw [← hl] at hmoves
    have hchange : balanceChange s s' = _ := balanceChange_of_moves hmoves
    have huid : (DealerEngine.fiatDepositRequest (some rate) fees req).uid = asU64 i.uid := hreq.uid
    have hholds := hmoves.booked_holds (List.mem_cons_self ..)
    rw [huid] at hchange
    refine ⟨u, ?_, by rw [← huid]; exact hholds⟩
    rw [hchange, exchanged]
    simp

/-! ## Runs -/

/-- A deposit of an invoice, with the sats that LND received for it. -/
structure ReceivedDeposit where
  invoice : Invoice
  received : Nat

/-- A deposit that is through: the dealer's answer, if it was asked, and the
states around the message that decided it. -/
structure HandledDeposit extends ReceivedDeposit where
  answer : Option FiatDepositResponse
  before : State
  after : State

/-- The owner has been credited with what LND received, in bitcoin or at the
rate of the dealer's answer. -/
def HandledDeposit.IsCredited (h : HandledDeposit) : Prop :=
  match h.answer with
  | none => Credited h.before h.after (asU64 h.invoice.uid) .BTC (Money.fromSats h.received).value
  | some answer => ∃ rate fiat, answer.rate = some rate ∧
      (Money.fromSats h.received).exchange rate = .ok (.ok fiat) ∧
      Credited h.before h.after (asU64 h.invoice.uid) answer.currency fiat.value

/-- The bank, the invoices it has made for users, the deposits that wait for the
dealer and those that are through. -/
structure Deposits where
  bank : State
  created : List Invoice
  waiting : List (ReceivedDeposit × FiatDepositRequest)
  handled : List HandledDeposit

inductive DepositEvent where
  | message (d : Delivery)
  | deposit (env : Env) (r : ReceivedDeposit) (m : Deposit)
  | answer (env : Env) (r : ReceivedDeposit) (rate : Option Rate) (fees : Option Money)

inductive DepositStep (cfg : Config) : Deposits → DepositEvent → Deposits → Prop
  /-- An invoice of a user is stored. -/
  | created {p : Deposits} {d : Delivery} {s' : State} {i : Invoice}
      (step : Delivers cfg p.bank d s')
      (stored : s'.db.invoiceByPaymentRequest i.paymentRequest = some i)
      (user : asU64 i.uid ≠ DEALER_UID) :
      DepositStep cfg p (.message d) { p with bank := s', created := p.created ++ [i] }
  /-- A deposit in bitcoin is through at once. -/
  | deposit {p : Deposits} {env : Env} {r : ReceivedDeposit} {m : Deposit} {s' : State}
      (known : r.invoice ∈ p.created) (hm : m.paymentRequest = r.invoice.paymentRequest)
      (step : Delivers cfg p.bank ⟨env, .deposit m⟩ s') (btc : r.invoice.IsBtc) :
      DepositStep cfg p (.deposit env r m)
        { p with bank := s', handled := p.handled ++ [⟨r, none, p.bank, s'⟩] }
  /-- Any other waits for the dealer. -/
  | forwarded {p : Deposits} {env : Env} {r : ReceivedDeposit} {m : Deposit} {s' : State}
      {req : FiatDepositRequest} (known : r.invoice ∈ p.created)
      (hm : m.paymentRequest = r.invoice.paymentRequest)
      (step : Delivers cfg p.bank ⟨env, .deposit m⟩ s') (fiat : ¬r.invoice.IsBtc)
      (sent : (.dealer (.fiatDepositRequest req), .dealer) ∈ s'.sent) :
      DepositStep cfg p (.deposit env r m)
        { p with bank := s', waiting := p.waiting ++ [(r, req)] }
  | answer {p : Deposits} {env : Env} {r : ReceivedDeposit} {req : FiatDepositRequest}
      {l l' : List (ReceivedDeposit × FiatDepositRequest)} {rate : Option Rate}
      {fees : Option Money} {s' : State} (waits : p.waiting = l ++ (r, req) :: l')
      (step : Delivers cfg p.bank ⟨env, .dealer (.fiatDepositResponse
        (DealerEngine.fiatDepositRequest rate fees req))⟩ s') :
      DepositStep cfg p (.answer env r rate fees)
        { p with
          bank := s', waiting := l ++ l'
          handled := p.handled ++
            [⟨r, some (DealerEngine.fiatDepositRequest rate fees req), p.bank, s'⟩] }
  | other {p : Deposits} {d : Delivery} {s' : State} (step : Delivers cfg p.bank d s') :
      DepositStep cfg p (.message d) { p with bank := s' }

/-- The database calls of a deposit succeed. -/
def DepositStored (s : State) : DepositEvent → Prop
  | .message _ => True
  | .deposit env _ _ => DbSucceeds env s
  | .answer env _ _ _ => DbSucceeds env s

/-- LND received what the invoice is over, a sat at least, and the dealer has a
rate that makes something of it. -/
def DepositFits : DepositEvent → Prop
  | .message _ => True
  | .deposit _ r _ => 0 < r.received ∧ (r.received : Int) = r.invoice.value
  | .answer _ r rate _ => ∃ x fiat, rate = some x ∧
      (Money.fromSats r.received).exchange x = .ok (.ok fiat) ∧ 0 < fiat.value

structure DepositsInv (p : Deposits) : Prop where
  created : ∀ i ∈ p.created, KnownInvoice p.bank i
  waiting : ∀ w ∈ p.waiting, w.1.invoice ∈ p.created ∧ 0 < w.1.received ∧
    AsksFor w.1.invoice w.1.received w.2
  handled : ∀ h ∈ p.handled, h.IsCredited

theorem DepositStep.inv {p p' : Deposits} {e : DepositEvent} (hinv : DepositsInv p)
    (hdb : DepositStored p.bank e) (hfits : DepositFits e) (h : DepositStep cfg p e p') :
    DepositsInv p' := by
  cases h with
  | @created d s' i step stored user =>
    refine ⟨fun j hj => ?_, fun w hw => ?_, hinv.handled⟩
    · rcases List.mem_append.mp hj with hj | hj
      · exact (hinv.created j hj).delivers step
      · rw [List.mem_singleton.mp hj]
        exact ⟨⟨i, stored, .refl i⟩, user⟩
    · obtain ⟨hmem, h⟩ := hinv.waiting w hw
      exact ⟨List.mem_append_left _ hmem, h⟩
  | deposit known hm step btc =>
    obtain ⟨hpos, hvalue⟩ := hfits
    refine ⟨fun j hj => (hinv.created j hj).delivers step, hinv.waiting, fun h hh => ?_⟩
    rcases List.mem_append.mp hh with hh | hh
    · exact hinv.handled h hh
    · rw [List.mem_singleton.mp hh]
      exact step.deposit_btc (hinv.created _ known) hm btc hdb hpos hvalue
  | forwarded known hm step fiat sent =>
    obtain ⟨hpos, hvalue⟩ := hfits
    refine ⟨fun j hj => (hinv.created j hj).delivers step, fun w hw => ?_, hinv.handled⟩
    rcases List.mem_append.mp hw with hw | hw
    · exact hinv.waiting w hw
    · rw [List.mem_singleton.mp hw]
      exact ⟨known, hpos,
        step.deposit_forwarded (hinv.created _ known) hm fiat hdb hvalue sent⟩
  | @answer env r req l l' rate fees s' waits step =>
    obtain ⟨x, fiat, rfl, hex, hfiat⟩ := hfits
    have hwaits : ∀ w ∈ l ++ (r, req) :: l', w.1.invoice ∈ p.created ∧ 0 < w.1.received ∧
        AsksFor w.1.invoice w.1.received w.2 := by
      rw [← waits]
      exact hinv.waiting
    refine ⟨fun j hj => (hinv.created j hj).delivers step, fun w hw => hwaits w ?_,
      fun h hh => ?_⟩
    · rcases List.mem_append.mp hw with hw | hw
      · exact List.mem_append_left _ hw
      · exact List.mem_append_right _ (List.mem_cons_of_mem _ hw)
    · rcases List.mem_append.mp hh with hh | hh
      · exact hinv.handled h hh
      · rw [List.mem_singleton.mp hh]
        obtain ⟨known, hpos, hasks⟩ := hwaits (r, req) (by simp)
        exact ⟨x, fiat, rfl, hex, step.deposit_converted (hinv.created _ known) hasks hdb hpos hex
          hfiat⟩
  | other step =>
    exact ⟨fun j hj => (hinv.created j hj).delivers step, hinv.waiting, hinv.handled⟩

namespace Sample

/-- LND makes the invoices it is asked for. -/
def invoicing (t : Nat) : Env :=
  { Sample.env t with lnd := { lnd with addInvoice := fun _ => some ⟨"lnbc-usd", "usd", 2⟩ } }

/-- It is over 5000 sats, and paid. -/
def dollarDeposit : Deposit := ⟨"lnbc-usd", "usd", "", "", 5000, 5000000, true, 0, 0⟩

def fiatRequest : Message × ServiceIdentity → Option FiatDepositRequest
  | (.dealer (.fiatDepositRequest req), .dealer) => some req
  | _ => none

theorem mem_of_fiatRequest {s : State} {req : FiatDepositRequest}
    (h : req ∈ s.sent.filterMap fiatRequest) :
    (.dealer (.fiatDepositRequest req), .dealer) ∈ s.sent := by
  obtain ⟨m, hm, he⟩ := List.mem_filterMap.mp h
  unfold fiatRequest at he
  split at he
  · injection he with he
    rw [← he]
    exact hm
  · exact absurd he (by simp)

end Sample

end Lndhubx
