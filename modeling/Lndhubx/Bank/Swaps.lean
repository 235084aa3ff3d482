import Lndhubx.Bank.Exposures
import Lndhubx.Bank.Journey
import Lndhubx.Bank.ServiceSpec
import Lndhubx.Bank.Subjects
import Lndhubx.Dealer.Guaranteed

/-!
# The journey of a swap

A swap request goes from the API through the bank to the dealer, who answers it with a
rate or refuses it. The bank handles the answer: it changes the user's money and the
dealer's, or it refuses the swap itself, and tells the API. A `SwapJourney` follows one
request through these three steps, with any other messages between them
(`OtherThanSwap`) and the dealer in any state when it is asked.

The dealer's step is its `process_msg`. A request that its loop drops while it waits for a
`BankState` (`Dealer.Start`) has not been handled by it: for the journey it stays at its
stage, on its way to the dealer.

Nothing on this way is silent, so the request is at one of its stages all the time
(`SwapStage`), and when it is over it has been settled once and answered once
(`swap_settled_once`): the user is told of a success exactly if the four bookings were
made, of the amount she asked for and of what it comes to at the dealer's rate, and of
a failure exactly if no balance was changed.
-/

namespace Lndhubx

open Prog BankEngine

variable {cfg : Config} {dcfg : DealerConfig} {env : Env} {r : RequestId} {s s' : State}

/-! ## What the answer of the dealer comes to -/

/-- What is told of a swap, and what was done to the books: the amount was changed at
the rate, with the dealer on the other side, or no balance was. -/
inductive SwapDone (uid : UserId) (amount : Money) (source target : Currency) (rate : Option Rate)
    (L L' : Ledger) : Bool → Prop
  | refused (unmoved : Moves L [] L') : SwapDone uid amount source target rate L L' false
  | swapped (r : Rate) (bought : Money) (u u' d d' : AccountId) (rated : rate = some r)
      (exchanged : amount.exchange r = .ok (.ok bought)) (different : source ≠ target)
      (positive : 0 < amount.value ∧ 0 < bought.value)
      (covered : amount.value ≤ L.balanceAt (.user uid, u))
      (moves : Moves L
        [⟨(.user uid, u), source, -amount.value⟩, ⟨(.user uid, u'), target, bought.value⟩,
          ⟨(.dealer, d), target, -bought.value⟩, ⟨(.dealer, d'), source, amount.value⟩] L') :
      SwapDone uid amount source target rate L L' true

/-- The user is told once, before anything else is sent, and the rest is about nothing. -/
def TellsSwap (msg : SwapResponse) (s s' : State) : Prop :=
  ∃ response rest, response.reqId = msg.reqId ∧ response.uid = msg.uid ∧
    SwapDone msg.uid msg.amount msg.fromCurrency msg.toCurrency msg.rate s.ledger s'.ledger
      response.success ∧
    s'.sent = s.sent ++ (.api (.swapResponse response), .api) :: rest ∧
    ∀ m ∈ rest, m.1.subjects = []

/-- Nothing was sent. -/
def Mute (s s' : State) : Prop := s'.sent = s.sent

namespace Mute

instance : Std.Refl Mute := ⟨fun _ => rfl⟩

instance : IsTrans State Mute := ⟨fun _ _ _ h h' => Eq.trans h' h⟩

theorem getDefaultAccount (o : Owner) (currency : Currency) (t : Option AccountType) :
    Keeps Mute (getDefaultAccount env o currency t) := by
  have hhand (a : Account) : Keeps Mute (handOut a) := fun _ => rfl
  refine Keeps.read.bind fun s => ?_
  split
  · exact hhand _
  · exact Keeps.bind (.write fun _ => rfl) fun _ => hhand _

theorem makeTx (leg : Nat) (outbound : Account) (outboundUid : UserId) (inbound : Account)
    (inboundUid : UserId) (amount : Money) :
    Keeps Mute (makeTx env leg outbound outboundUid inbound inboundUid amount) := by
  have hfail (o i : Account) : Keeps Mute (failTx o i) := fun _ => rfl
  refine .ite (hfail _ _) (.ite (hfail _ _) (.ite (hfail _ _) ?_))
  refine (Keeps.lift _).bind fun _ => (Keeps.lift _).bind fun _ s => Ensures.get_bind ?_
  dsimp only
  split
  next => exact Ensures.set_bind rfl
  next => exact Ensures.set_bind rfl

theorem updateAccount (a : Account) (uid : UserId) : Keeps Mute (updateAccount env a uid) :=
  .ite (.ret _) (.ite (.ret _) (.write fun _ => rfl))

end Mute

/-- Messages about nothing were sent, and the books are as they were. -/
def Noise (s s' : State) : Prop :=
  s'.ledger = s.ledger ∧ ∃ rest, s'.sent = s.sent ++ rest ∧ ∀ m ∈ rest, m.1.subjects = []

theorem Noise.trans {s'' : State} (h : Noise s s') (h' : Noise s' s'') : Noise s s'' := by
  obtain ⟨hledger, rest, hsent, hrest⟩ := h
  obtain ⟨hledger', rest', hsent', hrest'⟩ := h'
  refine ⟨hledger'.trans hledger, rest ++ rest', by rw [hsent', hsent, List.append_assoc], ?_⟩
  intro m hm
  rcases List.mem_append.mp hm with hm | hm
  · exact hrest m hm
  · exact hrest' m hm

theorem sendBankState_noise : Ensures sendBankState s fun _ s' => Noise s s' := by
  refine Ensures.bind (R := fun _ s' => s' = s)
    (Ensures.get_bind (Ensures.lift_bind fun _ _ => rfl)) ?_
  intro _ s' h
  subst h
  refine ⟨rfl, [_], rfl, fun m hm => ?_⟩
  rw [List.mem_singleton.mp hm]
  rfl

theorem makeSummaryTx_noise (x : SummaryTx) :
    Ensures (makeSummaryTx env x) s fun _ s' => Noise s s' := by
  have hsilent : Noise s s := ⟨rfl, [], (List.append_nil _).symm, by simp⟩
  refine Ensures.ite (fun _ => hsilent) fun _ => Ensures.ite (fun _ => Ensures.panic _) fun _ => ?_
  refine Ensures.ite (fun _ => hsilent) fun _ => Ensures.lift_bind fun _ _ => ?_
  refine Ensures.lift_bind fun _ _ => Ensures.get_bind ?_
  dsimp only
  split
  next =>
    refine Ensures.set_bind ⟨rfl, [_], rfl, fun m hm => ?_⟩
    rw [List.mem_singleton.mp hm]
    rfl
  next => exact Ensures.set_bind ⟨rfl, [], (List.append_nil _).symm, by simp⟩

theorem swapResponse_tells {msg : SwapResponse}
    (hconsistent : msg.error.isSome = true → msg.success = false) :
    Ensures (swapResponse env msg) s fun _ s' => TellsSwap msg s s' := by
  -- where the bank gives up, accounts were opened at most
  have hgive (response : SwapResponse) (hid : response.reqId = msg.reqId)
      (huid : response.uid = msg.uid) (hfailed : response.success = false) {s₁ : State}
      (hb : Booked env s [] s₁) (hm : Mute s s₁) :
      Ensures (do sendApi (.swapResponse response); return) s₁ fun _ s' => TellsSwap msg s s' := by
    refine ⟨response, [], hid, huid, ?_, ?_, by simp⟩
    · rw [hfailed]
      exact .refused hb.moves
    · show s₁.sent ++ [_] = _
      rw [show s₁.sent = s.sent from hm]
  have hrefuse (e : SwapResponseError) {s₁ : State} (hb : Booked env s [] s₁) (hm : Mute s s₁) :
      Ensures (do sendApi (.swapResponse (msg.refused e)); return) s₁
        fun _ s' => TellsSwap msg s s' := hgive (msg.refused e) rfl rfl rfl hb hm
  have hstart : Booked env s [] s ∧ Mute s s := ⟨.refl env s, rfl⟩
  unfold swapResponse
  refine Ensures.ite (fun h => ?_) fun hok => ?_
  · exact hgive msg rfl rfl (h.elim hconsistent fun h => h) hstart.1 hstart.2
  have hsucceeds : msg.success = true := by
    by_contra h
    exact hok (.inr (by simpa using h))
  refine Ensures.get_bind (Ensures.ite (fun _ => hrefuse _ hstart.1 hstart.2) fun _ => ?_)
  dsimp only
  split
  next rate hrate =>
    refine Ensures.ite (fun _ => hrefuse _ hstart.1 hstart.2) fun _ => ?_
    refine (((getDefaultAccount_spec _ _ _).and (getDefaultAccount_chosen _ _ _)).and
      (Mute.getDefaultAccount _ _ _ _)).bind ?_
    intro outbound s₁ hspec
    obtain ⟨⟨⟨h₁, hout, houtc, -⟩, rest, hchosen⟩, hm₁⟩ := hspec
    refine Ensures.bind (R := fun inbound s' => (Booked env s₁ [] s' ∧
      s'.ledger.get (.user msg.uid, inbound.accountId) = some inbound ∧
      inbound.currency = msg.toCurrency ∧
      (msg.fromCurrency = msg.toCurrency → inbound = outbound)) ∧ Mute s₁ s') ?_ ?_
    · refine Ensures.and ?_ (Mute.getDefaultAccount _ _ _ _)
      by_cases hsame : msg.fromCurrency = msg.toCurrency
      · rw [hsame] at hchosen
        exact ((getDefaultAccount_spec _ _ _).and (getDefaultAccount_again hchosen)).mono
          fun _ _ h => ⟨h.1.1, h.1.2.1, h.1.2.2.1, fun _ => h.2⟩
      · exact (getDefaultAccount_spec _ _ _).mono
          fun _ _ h => ⟨h.1, h.2.1, h.2.2.1, fun e => absurd e hsame⟩
    intro inbound s₂ hspec
    obtain ⟨⟨h₂, hin, hinc, heq⟩, hm₂⟩ := hspec
    have hb := h₁.opened h₂
    have hm : Mute s s₂ := IsTrans.trans _ _ _ hm₁ hm₂
    refine Ensures.ite (fun _ => hrefuse _ hb hm) fun hne => ?_
    have hdiff : msg.fromCurrency ≠ msg.toCurrency := fun e => hne (by rw [heq e])
    refine ((getDealerAccount_spec _ _).and (Mute.getDefaultAccount _ _ _ _)).bind ?_
    intro outboundDealer s₃ hspec
    obtain ⟨⟨h₃, hod, hodc, -⟩, hm₃⟩ := hspec
    refine ((getDealerAccount_spec _ _).and (Mute.getDefaultAccount _ _ _ _)).bind ?_
    intro inboundDealer s₄ hspec
    obtain ⟨⟨h₄, hid, hidc, -⟩, hm₄⟩ := hspec
    have hb := (hb.opened h₃).opened h₄
    have hm : Mute s s₄ := IsTrans.trans _ _ _ (IsTrans.trans _ _ _ hm hm₃) hm₄
    have hout := h₄.keeps (h₃.keeps (h₂.keeps hout))
    have hin := h₄.keeps (h₃.keeps hin)
    have hod := h₄.keeps hod
    refine Ensures.ite (fun _ => hrefuse _ hb hm) fun hcov => ?_
    have hcov : msg.amount.value ≤ s.ledger.balanceAt (.user msg.uid, outbound.accountId) := by
      have hbal := hb.moves.balanceAt (.user msg.uid, outbound.accountId)
      rw [Posting.sumAt_nil, add_zero] at hbal
      rw [← hbal]
      unfold Ledger.balanceAt
      rw [hout]
      exact not_lt.mp hcov
    refine ((makeTx_spec _ _ _ _ _ _).and (Mute.makeTx _ _ _ _ _ _ _)).bind ?_
    intro tx s₅ hspec
    obtain ⟨htx, hm₅⟩ := hspec
    have hb := hb.opened htx.booked
    have hm : Mute s s₅ := IsTrans.trans _ _ _ hm hm₅
    split
    next outbound' inboundDealer' outboundTxid =>
      obtain ⟨hv, -, -, rfl, rfl⟩ := htx.stored outboundTxid rfl
      refine Ensures.lift_bind fun exchanged hexchanged =>
        Ensures.lift_bind fun amount hamount => ?_
      refine ((makeTx_spec _ _ _ _ _ _).and (Mute.makeTx _ _ _ _ _ _ _)).bind ?_
      intro tx' s₆ hspec
      obtain ⟨htx', hm₆⟩ := hspec
      have hb := hb.opened htx'.booked
      have hm : Mute s s₆ := IsTrans.trans _ _ _ hm hm₆
      split
      next outboundDealer' inbound' inboundTxid =>
        obtain ⟨hv', -, -, rfl, rfl⟩ := htx'.stored inboundTxid rfl
        have hout := htx'.booked.keeps (htx.booked.keeps hout)
        have hin := htx'.booked.keeps (htx.booked.keeps hin)
        have hod := htx'.booked.keeps (htx.booked.keeps hod)
        have hid := htx'.booked.keeps (htx.booked.keeps hid)
        have hned : outboundDealer.accountId ≠ inboundDealer.accountId := fun e =>
          Ledger.ref_ne_of_currency hod hid (by rw [hodc, hidc]; exact hdiff.symm) (by rw [e])
        have hw := Booked.writeBack (s := s₆) env
          [⟨.user msg.uid, outbound, -msg.amount.value⟩, ⟨.user msg.uid, inbound, amount.value⟩,
            ⟨.dealer, outboundDealer, -amount.value⟩,
            ⟨.dealer, inboundDealer, msg.amount.value⟩]
          (by simp [Write.ref, hout, hin, hod, hid]) (by simp [Write.ref, hne, hned])
        simp only [List.map_cons, List.map_nil, Write.booking, Write.ref, houtc, hinc, hodc,
          hidc] at hw
        refine (insertIntoLedger_spec _ _).bind ?_
        intro _ s₇ h₇
        refine (insertIntoLedger_spec _ _).bind ?_
        intro _ s₈ h₈
        refine (putAccount_spec _ _).bind ?_
        intro _ s₉ h₉
        refine (putAccount_spec _ _).bind ?_
        intro _ s₁₀ h₁₀
        subst h₇ h₈ h₉ h₁₀
        have hb := hb.trans hw
        refine ((updateAccount_spec _ _).and (Mute.updateAccount _ _ _)).bind ?_
        intro _ s₁₁ hspec
        obtain ⟨⟨h₁₁, -⟩, hm₁₁⟩ := hspec
        refine ((updateAccount_spec _ _).and (Mute.updateAccount _ _ _)).bind ?_
        intro _ s₁₂ hspec
        obtain ⟨⟨h₁₂, -⟩, hm₁₂⟩ := hspec
        refine ((updateAccount_spec _ _).and (Mute.updateAccount _ _ _)).bind ?_
        intro _ s₁₃ hspec
        obtain ⟨⟨h₁₃, -⟩, hm₁₃⟩ := hspec
        refine ((updateAccount_spec _ _).and (Mute.updateAccount _ _ _)).bind ?_
        intro _ s₁₄ hspec
        obtain ⟨⟨h₁₄, -⟩, hm₁₄⟩ := hspec
        have hb := (((hb.opened h₁₁).opened h₁₂).opened h₁₃).opened h₁₄
        have hm : s₁₄.sent = s.sent := by
          rw [hm₁₄, hm₁₃, hm₁₂, hm₁₁]
          exact hm
        -- the success is told first
        refine Ensures.modify_bind (sendBankState_noise.bind ?_)
        intro _ s₁₅ h₁₅
        refine (makeSummaryTx_noise _).bind ?_
        intro _ s' hs'
        obtain ⟨hledger, rest, hsent, hrest⟩ := h₁₅.trans hs'
        refine ⟨msg, rest, rfl, rfl, ?_, ?_, hrest⟩
        · have hamount : exchanged = .ok amount := by
            cases exchanged with
            | error e => exact absurd hamount (by simp [Checked.unwrapOk])
            | ok a => exact congrArg _ (Except.ok.inj hamount)
          rw [hamount] at hexchanged
          have hledger : s'.ledger = s₁₄.ledger := hledger
          rw [hledger, hsucceeds]
          exact .swapped rate amount _ _ _ _ hrate hexchanged hdiff ⟨hv, hv'⟩ hcov hb.moves
        · have hsent : s'.sent = s₁₄.sent ++ [(.api (.swapResponse msg), .api)] ++ rest := hsent
          rw [hsent, hm, List.append_assoc]
          rfl
      next => exact hrefuse _ hb hm
    next => exact hrefuse _ hb hm
  next => exact hrefuse _ hstart.1 hstart.2

/-! ## The journey -/

/-- What a swap request has become. -/
inductive SwapOnWay where
  /-- On its way to the bank, from the API. -/
  | request (msg : SwapRequest)
  /-- On its way to the dealer. -/
  | quote (msg : SwapRequest)
  /-- On its way to the bank, from the dealer. -/
  | answer (res : SwapResponse)

structure SwapJourney where
  bank : State
  onWay : List SwapOnWay
  responses : List SwapResponse

/-- A request that the API has just sent. -/
def SwapJourney.start (bank : State) (msg : SwapRequest) : SwapJourney := ⟨bank, [.request msg], []⟩

/-- A sent message that keeps the swap `r` on its way. -/
def swapOn (r : RequestId) : Message × ServiceIdentity → Option SwapOnWay
  | (.api (.swapRequest m), .dealer) => if m.reqId = r then some (.quote m) else none
  | (.api (.swapRequest m), .loopback) => if m.reqId = r then some (.request m) else none
  | _ => none

/-- A sent message that answers the swap `r`. -/
def swapResponseTo (r : RequestId) : Message × ServiceIdentity → Option SwapResponse
  | (.api (.swapResponse m), .api) => if m.reqId = r then some m else none
  | _ => none

/-- A message of the dealer that answers the swap `r`. -/
def swapAnswered (r : RequestId) : Message → Option SwapOnWay
  | .api (.swapResponse m) => if m.reqId = r then some (.answer m) else none
  | _ => none

/-- After a step of the bank, of which `rest` was not part. -/
def SwapJourney.after (r : RequestId) (x : SwapJourney) (rest : List SwapOnWay) (s' : State) :
    SwapJourney where
  bank := s'
  onWay := rest ++ s'.sent.filterMap (swapOn r)
  responses := x.responses ++ s'.sent.filterMap (swapResponseTo r)

/-- Is a subject the swap `r`, of whatever user? -/
def OfSwap (r : RequestId) (σ : Subject) : Prop := σ.topic = .swap ∧ σ.reqId = r

/-- The bank handles a message that is not about the swap and draws no swap under its
id: ids are never given twice. -/
def OtherThanSwap (r : RequestId) (d : Delivery) : Prop :=
  ∀ σ, OfSwap r σ → σ ∉ d.msg.subjects ∧ σ ∉ drawn d.env d.msg

/-- The dealer's answer, handled by the bank. -/
structure SwapSettlement where
  answer : SwapResponse
  before : State
  after : State

inductive SwapEvent where
  | request (env : Env) (msg : SwapRequest)
  | quote (denv : DealerEnv) (t : DealerState) (msg : SwapRequest)
  | answer (env : Env) (b : SwapSettlement)
  | other (d : Delivery)

def SwapEvent.settlement : SwapEvent → Option SwapSettlement
  | .answer _ b => some b
  | _ => none

/-- The bank or the dealer takes what is on its way, or the bank handles another
message. -/
inductive SwapJourneyStep (cfg : Config) (dcfg : DealerConfig) (r : RequestId) :
    SwapJourney → SwapEvent → SwapJourney → Prop
  | request {x : SwapJourney} {env : Env} {msg : SwapRequest} {l l' : List SwapOnWay} {s' : State}
      (next : x.onWay = l ++ .request msg :: l')
      (step : Delivers cfg x.bank ⟨env, .api (.swapRequest msg)⟩ s') :
      SwapJourneyStep cfg dcfg r x (.request env msg) (x.after r (l ++ l') s')
  | quote {x : SwapJourney} {denv : DealerEnv} {t t' : DealerState} {msg : SwapRequest}
      {l l' : List SwapOnWay} (next : x.onWay = l ++ .quote msg :: l')
      (step : DealerDelivers dcfg t ⟨denv, .bank (.api (.swapRequest msg))⟩ t') :
      SwapJourneyStep cfg dcfg r x (.quote denv t msg)
        { x with
          onWay := l ++ l' ++ (t'.sent.drop t.sent.length).filterMap (swapAnswered r) }
  | answer {x : SwapJourney} {env : Env} {res : SwapResponse} {l l' : List SwapOnWay} {s' : State}
      (next : x.onWay = l ++ .answer res :: l')
      (step : Delivers cfg x.bank ⟨env, .api (.swapResponse res)⟩ s') :
      SwapJourneyStep cfg dcfg r x (.answer env ⟨res, x.bank, s'⟩) (x.after r (l ++ l') s')
  | other {x : SwapJourney} {d : Delivery} {s' : State} (other : OtherThanSwap r d)
      (step : Delivers cfg x.bank d s') :
      SwapJourneyStep cfg dcfg r x (.other d) (x.after r x.onWay s')

/-! ## One step -/

/-- What is not about the swap leaves nothing of it. -/
theorem Delivers.silent_of_other {d : Delivery} (h : Delivers cfg s d s')
    (hother : OtherThanSwap r d) :
    s'.sent.filterMap (swapOn r) = [] ∧ s'.sent.filterMap (swapResponseTo r) = [] := by
  have hnone (uid : UserId) : ∀ m ∈ s'.sent, (⟨.swap, r, some uid⟩ : Subject) ∉ m.1.subjects := by
    have hle := h.inHand_le (σ := ⟨.swap, r, some uid⟩)
    obtain ⟨hmsg, hdrawn⟩ := hother ⟨.swap, r, some uid⟩ ⟨rfl, rfl⟩
    -- what is stored is not about swaps
    have hstored : s.stored ⟨.swap, r, some uid⟩ = 0 := by
      refine List.countP_eq_zero.mpr fun e _ => ?_
      simp [paymentSubject]
    have hthreads := congrArg (List.countP (·.subject = ⟨.swap, r, some uid⟩)) h.threads_append
    rw [List.countP_append] at hthreads
    unfold Message.about inHand at hle
    rw [List.count_eq_zero.mpr hmsg, List.count_eq_zero.mpr hdrawn, hstored] at hle
    have htold : told ⟨.swap, r, some uid⟩ s'.messages = 0 := by omega
    intro m hm
    exact told_eq_zero_iff.mp htold m.1 (List.mem_map_of_mem hm)
  constructor
  · refine List.filterMap_eq_nil_iff.mpr fun m hm => ?_
    unfold swapOn
    split
    next req =>
      refine if_neg fun hid => hnone req.uid _ hm ?_
      rw [← hid]
      exact List.mem_singleton.mpr rfl
    next req =>
      refine if_neg fun hid => hnone req.uid _ hm ?_
      rw [← hid]
      exact List.mem_singleton.mpr rfl
    next => rfl
  · refine List.filterMap_eq_nil_iff.mpr fun m hm => ?_
    unfold swapResponseTo
    split
    next res =>
      refine if_neg fun hid => hnone res.uid _ hm ?_
      rw [← hid]
      exact List.mem_singleton.mpr rfl
    next => rfl

/-- The bank passes a swap request on. -/
theorem Delivers.swapRequest {msg : SwapRequest}
    (h : Delivers cfg s ⟨env, .api (.swapRequest msg)⟩ s') :
    s'.sent = [(.api (.swapRequest msg), .dealer)] := by
  have hspec : Ensures (processMsg cfg env (.api (.swapRequest msg))) { s with sent := [] }
      fun _ s' => s'.sent = [(.api (.swapRequest msg), .dealer)] := rfl
  exact h.ensures hspec

/-- The bank settles an answer of the dealer's, and tells the user. -/
theorem Delivers.tellsSwap {msg : SwapResponse}
    (hconsistent : msg.error.isSome = true → msg.success = false)
    (h : Delivers cfg s ⟨env, .api (.swapResponse msg)⟩ s') :
    ∃ response, response.reqId = msg.reqId ∧ response.uid = msg.uid ∧
      SwapDone msg.uid msg.amount msg.fromCurrency msg.toCurrency msg.rate s.ledger s'.ledger
        response.success ∧
      s'.sent.filterMap (swapOn msg.reqId) = [] ∧
      s'.sent.filterMap (swapResponseTo msg.reqId) = [response] := by
  have hspec : Ensures (processMsg cfg env (.api (.swapResponse msg))) { s with sent := [] } _ :=
    swapResponse_tells hconsistent
  obtain ⟨response, rest, hid, huid, hdone, hsent, hrest⟩ := h.ensures hspec
  have hsent : s'.sent = (.api (.swapResponse response), .api) :: rest := hsent
  refine ⟨response, hid, huid, hdone, ?_, ?_⟩
  · rw [hsent, List.filterMap_eq_nil_iff]
    intro m hm
    rcases List.mem_cons.mp hm with rfl | hm
    · rfl
    · have hnone := hrest m hm
      unfold swapOn
      split
      · exact absurd hnone (by simp [Message.subjects, Api.subjects])
      · exact absurd hnone (by simp [Message.subjects, Api.subjects])
      · rfl
  · have hnone : rest.filterMap (swapResponseTo msg.reqId) = [] := by
      refine List.filterMap_eq_nil_iff.mpr fun m hm => ?_
      have hnone := hrest m hm
      unfold swapResponseTo
      split
      · exact absurd hnone (by simp [Message.subjects, Api.subjects])
      · rfl
    have htold : swapResponseTo msg.reqId (.api (.swapResponse response), .api) = some response :=
      if_pos hid
    rw [hsent, List.filterMap_cons_some htold, hnone]

/-! ## The stages -/

/-- What the dealer may answer: a rate is the current one, or the better of the current
and the quoted one. -/
def AnswersSwap (dcfg : DealerConfig) (denv : DealerEnv) (t : DealerState) (msg : SwapRequest)
    (res : SwapResponse) : Prop :=
  msg.fromCurrency = msg.toCurrency ∧ res = msg.refused .invalid ∨
    ∃ linear current fees left,
      DealerEngine.getRate dcfg t msg.amount msg.toCurrency = .ok (current, fees) ∧
      SwapAnswer msg (unexpired denv.now t.guaranteedQuotes) linear current fees res left

/-- An answer is about what was asked, and does not succeed with an error. -/
theorem AnswersSwap.about {denv : DealerEnv} {t : DealerState} {msg : SwapRequest}
    {res : SwapResponse} (h : AnswersSwap dcfg denv t msg res) :
    (res.reqId = msg.reqId ∧ res.uid = msg.uid ∧ res.amount = msg.amount ∧
      res.fromCurrency = msg.fromCurrency ∧ res.toCurrency = msg.toCurrency) ∧
    (res.error.isSome = true → res.success = false) := by
  rcases h with ⟨-, rfl⟩ | ⟨linear, current, fees, left, -, hanswer⟩
  · exact ⟨⟨rfl, rfl, rfl, rfl, rfl⟩, fun _ => rfl⟩
  · cases hanswer with
    | atRate =>
      exact ⟨⟨rfl, rfl, rfl, rfl, rfl⟩, fun h => absurd h (by simp [SwapRequest.accepted])⟩
    | noRate => exact ⟨⟨rfl, rfl, rfl, rfl, rfl⟩, fun _ => rfl⟩
    | unknown => exact ⟨⟨rfl, rfl, rfl, rfl, rfl⟩, fun _ => rfl⟩
    | mismatch => exact ⟨⟨rfl, rfl, rfl, rfl, rfl⟩, fun _ => rfl⟩
    | redeemed =>
      exact ⟨⟨rfl, rfl, rfl, rfl, rfl⟩, fun h => absurd h (by simp [SwapRequest.accepted])⟩

/-- The dealer answers every swap request it handles, once. -/
theorem DealerDelivers.answersSwap {denv : DealerEnv} {t t' : DealerState} {msg : SwapRequest}
    (h : DealerDelivers dcfg t ⟨denv, .bank (.api (.swapRequest msg))⟩ t') :
    ∃ res, AnswersSwap dcfg denv t msg res ∧
      (t'.sent.drop t.sent.length).filterMap (swapAnswered msg.reqId) = [.answer res] := by
  have hanswered : ∃ res, AnswersSwap dcfg denv t msg res ∧
      t'.sent = t.sent ++ [.api (.swapResponse res)] := by
    rcases swapRequest_cases (dealerDelivers_iff.mp h) with ⟨hsame, -, hsent⟩ |
      ⟨-, linear, current, fees, res, -, hrate, hanswer, hsent⟩
    · exact ⟨_, .inl ⟨hsame, rfl⟩, hsent⟩
    · exact ⟨res, .inr ⟨linear, current, fees, _, hrate, hanswer⟩, hsent⟩
  obtain ⟨res, hanswer, hsent⟩ := hanswered
  refine ⟨res, hanswer, ?_⟩
  rw [hsent, List.drop_left]
  simp [swapAnswered, hanswer.about.1.1]

/-- The dealer was asked, and gave this answer. -/
def DealerAnswered (dcfg : DealerConfig) (msg : SwapRequest) (es : List SwapEvent)
    (res : SwapResponse) : Prop :=
  ∃ denv t, .quote denv t msg ∈ es ∧ AnswersSwap dcfg denv t msg res

theorem DealerAnswered.mono {msg : SwapRequest} {es : List SwapEvent} {res : SwapResponse}
    (h : DealerAnswered dcfg msg es res) (e : SwapEvent) :
    DealerAnswered dcfg msg (es ++ [e]) res := by
  obtain ⟨denv, t, hmem, h⟩ := h
  exact ⟨denv, t, List.mem_append_left _ hmem, h⟩

/-- What the bank settled in these steps. -/
def swapSettlements (es : List SwapEvent) : List SwapSettlement := es.filterMap SwapEvent.settlement

/-- Where a request is: on its way, at one of three places, or over. -/
inductive SwapStage (dcfg : DealerConfig) (msg : SwapRequest) (es : List SwapEvent)
    (x : SwapJourney) : Prop
  | asked (onWay : x.onWay = [.request msg]) (unanswered : x.responses = [])
      (unsettled : swapSettlements es = [])
  | priced (onWay : x.onWay = [.quote msg]) (unanswered : x.responses = [])
      (unsettled : swapSettlements es = [])
  | answered (res : SwapResponse) (onWay : x.onWay = [.answer res]) (unanswered : x.responses = [])
      (unsettled : swapSettlements es = []) (answer : DealerAnswered dcfg msg es res)
  | finished (b : SwapSettlement) (response : SwapResponse) (onWay : x.onWay = [])
      (told : x.responses = [response]) (settled : swapSettlements es = [b])
      (id : response.reqId = msg.reqId) (uid : response.uid = msg.uid)
      (answer : DealerAnswered dcfg msg es b.answer)
      (done : SwapDone msg.uid msg.amount msg.fromCurrency msg.toCurrency b.answer.rate
        b.before.ledger b.after.ledger response.success)

theorem eq_of_singleton {α : Type} {l l' : List α} {a b : α} (h : [a] = l ++ b :: l') :
    a = b ∧ l ++ l' = [] := by
  cases l with
  | nil =>
    injection h with ha hl
    exact ⟨ha, hl.symm⟩
  | cons c l =>
    injection h with ha hl
    exact absurd hl (by simp)

theorem swapSettlements_append (es : List SwapEvent) (e : SwapEvent) :
    swapSettlements (es ++ [e]) = swapSettlements es ++ e.settlement.toList := by
  unfold swapSettlements
  rw [List.filterMap_append]
  cases h : e.settlement with
  | none => rw [List.filterMap_cons_none h]; rfl
  | some b => rw [List.filterMap_cons_some h]; rfl

/-- Another message changes nothing of a stage. -/
theorem SwapStage.other {msg : SwapRequest} {es : List SwapEvent} {x : SwapJourney}
    {d : Delivery} (h : SwapStage dcfg msg es x) (hother : OtherThanSwap msg.reqId d)
    (hstep : Delivers cfg x.bank d s') :
    SwapStage dcfg msg (es ++ [.other d]) (x.after msg.reqId x.onWay s') := by
  obtain ⟨hon, hresponses⟩ := hstep.silent_of_other hother
  have hnone : swapSettlements (es ++ [.other d]) = swapSettlements es := by
    rw [swapSettlements_append]
    exact List.append_nil _
  have hway : (x.after msg.reqId x.onWay s').onWay = x.onWay := by
    show x.onWay ++ _ = _
    rw [hon, List.append_nil]
  have htold : (x.after msg.reqId x.onWay s').responses = x.responses := by
    show x.responses ++ _ = _
    rw [hresponses, List.append_nil]
  cases h with
  | asked onWay unanswered unsettled =>
    exact .asked (hway.trans onWay) (htold.trans unanswered) (hnone.trans unsettled)
  | priced onWay unanswered unsettled =>
    exact .priced (hway.trans onWay) (htold.trans unanswered) (hnone.trans unsettled)
  | answered res onWay unanswered unsettled answer =>
    exact .answered res (hway.trans onWay) (htold.trans unanswered) (hnone.trans unsettled)
      (answer.mono _)
  | finished b response onWay told settled id uid answer done =>
    exact .finished b response (hway.trans onWay) (htold.trans told) (hnone.trans settled) id uid
      (answer.mono _) done

theorem SwapStage.step {msg : SwapRequest} {es : List SwapEvent} {x x' : SwapJourney}
    {e : SwapEvent} (h : SwapStage dcfg msg es x)
    (hstep : SwapJourneyStep cfg dcfg msg.reqId x e x') :
    SwapStage dcfg msg (es ++ [e]) x' := by
  cases hstep with
  | other hother step => exact h.other hother step
  | @request env req l l' s' next step =>
    cases h with
    | asked onWay unanswered unsettled =>
      obtain ⟨hreq, hrest⟩ := eq_of_singleton (onWay.symm.trans next)
      injection hreq with hreq
      subst hreq
      have hsent := step.swapRequest
      refine .priced ?_ ?_ ?_
      · show l ++ l' ++ s'.sent.filterMap _ = _
        rw [hrest, hsent]
        simp [swapOn]
      · show x.responses ++ s'.sent.filterMap _ = _
        rw [unanswered, hsent]
        rfl
      · rw [swapSettlements_append, unsettled]
        rfl
    | priced onWay => exact absurd (eq_of_singleton (onWay.symm.trans next)).1 (by simp)
    | answered res onWay => exact absurd (eq_of_singleton (onWay.symm.trans next)).1 (by simp)
    | finished b response onWay => exact absurd (onWay.symm.trans next) (by simp)
  | @quote denv t t' req l l' next step =>
    cases h with
    | priced onWay unanswered unsettled =>
      obtain ⟨hreq, hrest⟩ := eq_of_singleton (onWay.symm.trans next)
      injection hreq with hreq
      subst hreq
      obtain ⟨res, hanswer, hsent⟩ := step.answersSwap
      have hmem : SwapEvent.quote denv t msg ∈ es ++ [.quote denv t msg] :=
        List.mem_append_right _ (List.mem_singleton.mpr rfl)
      refine .answered res ?_ unanswered ?_ ⟨denv, t, hmem, hanswer⟩
      · show l ++ l' ++ (t'.sent.drop t.sent.length).filterMap (swapAnswered msg.reqId) = _
        rw [hrest, hsent]
        rfl
      · rw [swapSettlements_append, unsettled]
        rfl
    | asked onWay => exact absurd (eq_of_singleton (onWay.symm.trans next)).1 (by simp)
    | answered res onWay => exact absurd (eq_of_singleton (onWay.symm.trans next)).1 (by simp)
    | finished b response onWay => exact absurd (onWay.symm.trans next) (by simp)
  | @answer env res l l' s' next step =>
    cases h with
    | answered res' onWay unanswered unsettled answer =>
      obtain ⟨hres, hrest⟩ := eq_of_singleton (onWay.symm.trans next)
      injection hres with hres
      subst hres
      have hanswer := answer
      obtain ⟨denv, t, -, hanswers⟩ := answer
      obtain ⟨⟨hid, huid, hamount, hfrom, hto⟩, hconsistent⟩ := hanswers.about
      obtain ⟨response, hid', huid', hdone, hon, htold⟩ := step.tellsSwap hconsistent
      rw [hid] at hid' hon htold
      rw [huid] at huid'
      rw [huid, hamount, hfrom, hto] at hdone
      refine .finished ⟨res', x.bank, s'⟩ response ?_ ?_ ?_ hid' huid' (hanswer.mono _) hdone
      · show l ++ l' ++ s'.sent.filterMap _ = _
        rw [hrest, hon]
        rfl
      · show x.responses ++ s'.sent.filterMap _ = _
        rw [unanswered, htold]
        rfl
      · rw [swapSettlements_append, unsettled]
        rfl
    | asked onWay => exact absurd (eq_of_singleton (onWay.symm.trans next)).1 (by simp)
    | priced onWay => exact absurd (eq_of_singleton (onWay.symm.trans next)).1 (by simp)
    | finished b response onWay => exact absurd (onWay.symm.trans next) (by simp)

/-! ## Whole journeys -/

abbrev SwapRun (cfg : Config) (dcfg : DealerConfig) (r : RequestId) :
    SwapJourney → List SwapEvent → SwapJourney → Prop := Trace (SwapJourneyStep cfg dcfg r)

theorem SwapRun.stage {msg : SwapRequest} {es : List SwapEvent} {x : SwapJourney}
    (run : SwapRun cfg dcfg msg.reqId (.start s msg) es x) : SwapStage dcfg msg es x := by
  induction run with
  | nil => exact .asked rfl rfl rfl
  | snoc _ last ih => exact ih.step last

/-- **A swap is settled once.** While it is on its way nothing is booked and nothing is
told; when it is over, the bank settled one answer of the dealer's and told the user
once, of a success exactly if the swap was booked. -/
theorem swap_settled_once {msg : SwapRequest} {es : List SwapEvent} {x : SwapJourney}
    (run : SwapRun cfg dcfg msg.reqId (.start s msg) es x) :
    (x.onWay.length = 1 ∧ x.responses = [] ∧ swapSettlements es = []) ∨
    x.onWay = [] ∧ ∃ b response, swapSettlements es = [b] ∧ x.responses = [response] ∧
      response.reqId = msg.reqId ∧ response.uid = msg.uid ∧
      DealerAnswered dcfg msg es b.answer ∧
      SwapDone msg.uid msg.amount msg.fromCurrency msg.toCurrency b.answer.rate b.before.ledger
        b.after.ledger response.success := by
  cases run.stage with
  | asked onWay unanswered unsettled => exact .inl ⟨by rw [onWay]; rfl, unanswered, unsettled⟩
  | priced onWay unanswered unsettled => exact .inl ⟨by rw [onWay]; rfl, unanswered, unsettled⟩
  | answered res onWay unanswered unsettled =>
    exact .inl ⟨by rw [onWay]; rfl, unanswered, unsettled⟩
  | finished b response onWay told settled id uid answer done =>
    exact .inr ⟨onWay, b, response, settled, told, id, uid, answer, done⟩

namespace Sample

/-- Alice wants dollars for 500 sats. -/
def wantDollars : SwapRequest := ⟨3, 7, ⟨.BTC, 500 / 100000000⟩, .BTC, .USD, none⟩

/-- The dealer with a book of dollars. -/
def dollarDealer : DealerDelivery :=
  ⟨dealerEnv 9000000, dollarBook "snapshot" 2000000 2000001 1000⟩

/-- Is the dealer's answer settled with a success? -/
def settledWell (s : State) : SwapOnWay → Bool
  | .answer res =>
    (deliver config ⟨Sample.env 3, .api (.swapResponse res)⟩ s).toOption.any fun s' =>
      (s'.sent.filterMap (swapResponseTo 3)).any (·.success)
  | _ => false

/-- Alice has her deposit, asks, the dealer has a rate and the bank settles. -/
theorem exists_boughtJourney (h : (deliver config ⟨Sample.env 1, deposit⟩ dollarState).toOption.any
    (fun s₁ => decide ((DealerEngine.deliver dealerConfig dollarDealer dealer).toOption.any
      (fun t => decide ((DealerEngine.deliver dealerConfig
        ⟨dealerEnv 9000000, .bank (.api (.swapRequest wantDollars))⟩ t).toOption.any
        (fun t' => decide ((deliver config ⟨Sample.env 2, .api (.swapRequest wantDollars)⟩ s₁
          ).toOption.any (fun s₂ => decide (∀ p ∈ (t'.sent.drop t.sent.length).filterMap
            (swapAnswered 3), settledWell s₂ p = true)) = true)) = true)) = true)) = true) :
    ∃ s es x, SwapRun config dealerConfig wantDollars.reqId (.start s wantDollars) es x ∧
      x.responses.any (·.success) = true := by
  obtain ⟨s₁, -, h⟩ := exists_delivers _ _ _ _ h
  obtain ⟨t, -, h⟩ := exists_dealerDelivers _ _ _ _ h
  obtain ⟨t', ht', h⟩ := exists_dealerDelivers _ _ _ _ h
  obtain ⟨s₂, h₂, h⟩ := exists_delivers _ _ _ _ h
  obtain ⟨res, -, hres⟩ := ht'.answersSwap
  have hwell : (deliver config ⟨Sample.env 3, .api (.swapResponse res)⟩ s₂).toOption.any
      (fun s' => decide ((s'.sent.filterMap (swapResponseTo 3)).any (·.success) = true)) =
        true := by
    have hmem : SwapOnWay.answer res ∈ (t'.sent.drop t.sent.length).filterMap (swapAnswered 3) := by
      rw [show (t'.sent.drop t.sent.length).filterMap (swapAnswered 3) = [.answer res] from hres]
      exact List.mem_singleton.mpr rfl
    simpa [settledWell] using h _ hmem
  obtain ⟨s₃, h₃, hsuccess⟩ := exists_delivers _ _ _ _ hwell
  have hasked : SwapRun config dealerConfig wantDollars.reqId (.start s₁ wantDollars)
      [.request (Sample.env 2) wantDollars] ⟨s₂, [.quote wantDollars], []⟩ := by
    have hstep : SwapJourneyStep config dealerConfig wantDollars.reqId (.start s₁ wantDollars)
        (.request (Sample.env 2) wantDollars) _ := .request (l := []) rfl h₂
    unfold SwapJourney.after at hstep
    rw [h₂.swapRequest] at hstep
    exact (Trace.nil _).snoc hstep
  have hpriced := hasked.snoc (.quote (l := []) rfl ht')
  rw [show (t'.sent.drop t.sent.length).filterMap (swapAnswered wantDollars.reqId) = [.answer res]
    from hres] at hpriced
  refine ⟨s₁, _, _, hpriced.snoc (.answer (l := []) rfl h₃), ?_⟩
  exact hsuccess

end Sample

/-- Alice buys dollars: the swap is over, booked and told. -/
theorem swap_settled_once_sample : ∃ s es x b response,
    SwapRun Sample.config Sample.dealerConfig Sample.wantDollars.reqId (.start s Sample.wantDollars)
      es x ∧ x.onWay = [] ∧ swapSettlements es = [b] ∧ x.responses = [response] ∧
    SwapDone 7 Sample.wantDollars.amount .BTC .USD b.answer.rate b.before.ledger b.after.ledger
      true := by
  obtain ⟨s, es, x, hrun, hsuccess⟩ := Sample.exists_boughtJourney (by decide +kernel)
  rcases swap_settled_once hrun with ⟨-, hnone, -⟩ | ⟨hover, b, response, hsettled, htold, -, -, -,
    hdone⟩
  · rw [hnone] at hsuccess
    exact absurd hsuccess (by simp)
  · rw [htold] at hsuccess
    have hsuccess : response.success = true := by simpa using hsuccess
    rw [hsuccess] at hdone
    exact ⟨s, es, x, b, response, hrun, hover, hsettled, htold, hdone⟩

end Lndhubx
