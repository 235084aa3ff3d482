import Lndhubx.Api.Sessions
import Lndhubx.Bank.Swaps
import Lndhubx.Platform

/-!
# Every request of some kinds is answered once

`Platform` bounds the answers from above. For requests of seven kinds there is a bound
from below as well: whatever happens to the accounts and whatever the database and the
node say, the bank and the dealer answer them or pass them on (`Subject.Sure`). What
is kept is that a message about one of them lies only where it is taken care of
(`Message.forBank`, `Message.forDealer`) and that there is no less of the subject than
the API asked (`Platform.Kept`).

So in a run in which nothing is lost, the answers and what is still on its way are
together exactly as many as the requests (`asked_is_answered`). The kinds that are
left out are invoices, payments and withdrawals, of which a failing database leaves
some without an answer. The balances of the dealer are left out too: they are sent to
the dealer.
-/

namespace Lndhubx

open Prog

variable {cfg : Config} {dcfg : DealerConfig} {env : Env} {σ : Subject} {s s' : State}

/-! ## Where a message belongs -/

/-- The kinds that are answered whatever happens. -/
def Topic.isSure : Topic → Bool
  | .swap => true
  | .balances => true
  | .quote => true
  | .availableCurrencies => true
  | .nodeInfo => true
  | .getLnurlWithdrawal => true
  | .queryRoute => true
  | .invoice => false
  | .payment => false
  | .createLnurlWithdrawal => false
  | .payLnurlWithdrawal => false

structure Subject.Sure (σ : Subject) : Prop where
  topic : σ.topic.isSure = true
  balances : σ.topic = .balances → σ.uid ≠ some DEALER_UID

/-- What the bank answers or passes on. -/
def Message.forBank : Message → Bool
  | .api (.swapRequest _) => true
  | .api (.swapResponse _) => true
  | .api (.getBalances _) => true
  | .api (.quoteRequest _) => true
  | .api (.quoteResponse _) => true
  | .api (.availableCurrenciesRequest _) => true
  | .api (.availableCurrenciesResponse _) => true
  | .api (.getNodeInfoRequest _) => true
  | .api (.getLnurlWithdrawalRequest _) => true
  | .api (.queryRouteRequest _) => true
  | _ => false

/-- What the dealer answers. -/
def Message.forDealer : Message → Bool
  | .api (.swapRequest _) => true
  | .api (.quoteRequest _) => true
  | .api (.availableCurrenciesRequest _) => true
  | _ => false

theorem Subject.Sure.ne_payment (h : σ.Sure) (r : RequestId) (uid : UserId) :
    paymentSubject r uid ≠ σ := by
  intro he
  have htopic := h.topic
  rw [← he] at htopic
  exact absurd htopic Bool.false_ne_true

/-- No message mentions such a subject twice. -/
theorem Subject.Sure.about_le_one (h : σ.Sure) (m : Message) : m.about σ ≤ 1 := by
  have hone (τ : Subject) : [τ].count σ ≤ 1 := List.count_le_length
  cases m with
  | api a =>
    cases a with
    | createLnurlWithdrawalRequest m =>
      have hpayment : [paymentSubject m.reqId m.uid].count σ = 0 :=
        List.count_eq_zero.mpr (by simpa using (h.ne_payment m.reqId m.uid).symm)
      show List.count σ ([_] ++ [_]) ≤ 1
      rw [List.count_append, hpayment]
      exact hone _
    | nostrProfileRequest m => exact Nat.zero_le 1
    | nostrProfileSearchRequest m => exact Nat.zero_le 1
    | nostrProfileSearchResponse m => exact Nat.zero_le 1
    | _ => exact hone _
  | bank m =>
    cases m with
    | paymentResult res => exact hone _
    | dcaRebalance m => exact Nat.zero_le 1
  | _ => exact Nat.zero_le 1

theorem about_le_told {l : List Message} {m : Message} (h : m ∈ l) : m.about σ ≤ told σ l :=
  List.le_sum_of_mem (List.mem_map_of_mem h)

/-- If a subject is mentioned once at most, everything that mentions it is the same. -/
theorem eq_of_mentioned {α : Type} {f : α → Nat} {l : List α} {a b : α} (hle : (l.map f).sum ≤ 1)
    (ha : a ∈ l) (hb : b ∈ l) (hfa : 0 < f a) (hfb : 0 < f b) : b = a := by
  obtain ⟨u, v, rfl⟩ := List.append_of_mem ha
  by_contra hne
  have hrest : b ∈ u ++ v := by
    rcases List.mem_append.mp hb with h | h
    · exact List.mem_append_left v h
    · exact List.mem_append_right u ((List.mem_cons.mp h).resolve_left hne)
  have hb' : f b ≤ ((u ++ v).map f).sum := List.le_sum_of_mem (List.mem_map_of_mem hrest)
  rw [List.map_append, List.sum_append] at hb'
  rw [List.map_append, List.sum_append, List.map_cons, List.sum_cons] at hle
  omega

/-! ## The bank -/

section bank

open BankEngine

/-- The bank told the API of the subject, or asked the dealer. -/
def Hands (σ : Subject) (s : State) : Prop :=
  ∃ m destination, (m, destination) ∈ s.sent ∧ 0 < m.about σ ∧
    (destination = .api ∨ destination = .dealer ∧ m.forDealer = true)

theorem send_hands {msg : Message} {destination : ServiceIdentity} (h : 0 < msg.about σ)
    (hd : destination = .api ∨ destination = .dealer ∧ msg.forDealer = true) :
    Ensures (send msg destination) s fun _ s' => Hands σ s' :=
  ⟨msg, destination, List.mem_append_right _ (List.mem_singleton.mpr rfl), h, hd⟩

theorem sendApi_hands {msg : Api} (h : 0 < (Message.api msg).about σ) :
    Ensures (sendApi msg) s fun _ s' => Hands σ s' := send_hands h (.inl rfl)

/-- Whatever comes first. -/
theorem Hands.last {α : Type} {p : Handler α} {f : α → Handler Unit}
    (h : ∀ a s', Ensures (f a) s' fun _ s'' => Hands σ s'') :
    Ensures (p >>= f) s fun _ s'' => Hands σ s'' :=
  Ensures.bind (ensures_iff.mpr fun _ _ _ => trivial) fun a s' (_ : True) => h a s'

theorem swapResponse_hands {msg : SwapResponse}
    (h : 0 < (Message.api (.swapResponse msg)).about σ) :
    Ensures (swapResponse env msg) s fun _ s' => Hands σ s' := by
  by_cases hfailed : msg.error.isSome = true ∨ msg.success = false
  · -- the dealer's refusal, passed on
    unfold swapResponse
    rw [if_pos hfailed]
    exact Ensures.bind (sendApi_hands h) fun _ _ hs => hs
  · have htells : Ensures (swapResponse env msg) s _ :=
      swapResponse_tells fun herror => absurd (.inl herror) hfailed
    refine htells.mono fun _ s' hs => ?_
    obtain ⟨response, rest, hid, huid, -, hsent, -⟩ := hs
    refine ⟨.api (.swapResponse response), .api, ?_, ?_, .inl rfl⟩
    · rw [hsent]
      exact List.mem_append_right _ List.mem_cons_self
    · show 0 < [(⟨.swap, response.reqId, some response.uid⟩ : Subject)].count σ
      rw [hid, huid]
      exact h

theorem getBalances_hands (hσ : σ.Sure) {msg : GetBalances}
    (h : 0 < (Message.api (.getBalances msg)).about σ) :
    Ensures (getBalances env msg) s fun _ s' => Hands σ s' := by
  have hsubject : (⟨.balances, msg.reqId, some msg.uid⟩ : Subject) = σ :=
    (List.mem_singleton.mp (List.count_pos_iff.mp h)).symm
  have hne : msg.uid ≠ DEALER_UID := by
    have huid := hσ.balances (by rw [← hsubject])
    rw [← hsubject] at huid
    exact fun he => huid (congrArg some he)
  refine Hands.last fun _ _ => Hands.last fun _ _ => Hands.last fun _ _ => Hands.last fun _ _ => ?_
  exact Ensures.ite (fun he => absurd he hne) fun _ => send_hands h (.inl rfl)

theorem getLnurlWithdrawal_hands {msg : GetLnurlWithdrawalRequest}
    (h : 0 < (Message.api (.getLnurlWithdrawalRequest msg)).about σ) :
    Ensures (getLnurlWithdrawal cfg msg) s fun _ s' => Hands σ s' := by
  refine Ensures.get_bind ?_
  split
  next => exact sendApi_hands h
  next =>
    refine Ensures.lift_bind fun found _ => ?_
    split
    next => exact sendApi_hands h
    next => exact sendApi_hands h

theorem queryRoute_hands {msg : QueryRouteRequest}
    (h : 0 < (Message.api (.queryRouteRequest msg)).about σ) :
    Ensures (queryRoute cfg env msg) s fun _ s' => Hands σ s' := by
  have hrespond (fee : Decimal) (error : Option QueryRouteError) (s : State) :
      Ensures (sendApi (.queryRouteResponse { reqId := msg.reqId, totalFee := fee, error })) s
        fun _ s' => Hands σ s' := sendApi_hands h
  refine Ensures.lift_bind fun _ _ => ?_
  split
  next =>
    split
    next =>
      refine Ensures.lift_bind fun _ _ => Ensures.lift_bind fun routes _ => ?_
      split
      next => exact hrespond _ _ _
      next => exact hrespond _ _ _
      next => exact Ensures.lift_bind fun _ _ => Ensures.lift_bind fun _ _ => hrespond _ _ _
    next => exact hrespond _ _ _
  next => exact hrespond _ _ _

/-- What is for the bank is answered or passed on. -/
theorem Delivers.hands {d : Delivery} (h : Delivers cfg s d s') (hσ : σ.Sure)
    (hfor : d.msg.forBank = true) (habout : 0 < d.msg.about σ) : Hands σ s' := by
  obtain ⟨env, msg⟩ := d
  suffices hspec : Ensures (processMsg cfg env msg) { s with sent := [] } fun _ s' => Hands σ s' by
    exact h.ensures hspec
  cases msg with
  | api msg =>
    cases msg with
    | swapRequest m => exact send_hands habout (.inr ⟨rfl, rfl⟩)
    | swapResponse m => exact swapResponse_hands habout
    | getBalances m => exact getBalances_hands hσ habout
    | quoteRequest m => exact send_hands habout (.inr ⟨rfl, rfl⟩)
    | quoteResponse m => exact sendApi_hands habout
    | availableCurrenciesRequest m => exact send_hands habout (.inr ⟨rfl, rfl⟩)
    | availableCurrenciesResponse m => exact sendApi_hands habout
    | getNodeInfoRequest m => exact sendApi_hands habout
    | getLnurlWithdrawalRequest m => exact getLnurlWithdrawal_hands habout
    | queryRouteRequest m => exact queryRoute_hands habout
    | _ => exact absurd hfor Bool.false_ne_true
  | _ => exact absurd hfor Bool.false_ne_true

theorem dcaRebalance_sends (msg : DcaRebalance) (hnil : s.sent = []) :
    Ensures (dcaRebalance env msg) s fun _ s' =>
      ∀ e ∈ s'.sent, e.2 = .loopback ∧ e.1.forBank = true := by
  have hstart : ∀ e ∈ s.sent, e.2 = .loopback ∧ e.1.forBank = true := by simp [hnil]
  refine Ensures.ite (fun _ => hstart) fun _ => Ensures.ite (fun _ => hstart) fun _ => ?_
  refine Ensures.forM (fun e s hs => ?_) _ hstart
  refine Ensures.lift_bind fun _ _ => Ensures.lift_bind fun _ _ => Ensures.lift_bind fun _ _ => ?_
  intro e' he'
  rcases List.mem_append.mp he' with he' | he'
  · exact hs e' he'
  · rw [List.mem_singleton.mp he']
    exact ⟨rfl, rfl⟩

theorem mem_sentTo {o : ServiceIdentity} {m : Message} :
    m ∈ BankLoop.sentTo o s ↔ (m, o) ∈ s.sent := by
  simp [BankLoop.sentTo]

/-- After the bank handled a message that was about the subject `n` times: what is sent
about it lies where it belongs, and there is enough of it. -/
structure PassedOn (σ : Subject) (n : Nat) (s' : State) : Prop where
  loopback : ∀ m ∈ BankLoop.sentTo .loopback s', 0 < m.about σ → m.forBank = true
  dealer : ∀ m ∈ BankLoop.sentTo .dealer s', 0 < m.about σ → m.forDealer = true
  all : n ≤ told σ (BankLoop.sentTo .dealer s') + told σ (BankLoop.sentTo .api s')

/-- Of such a subject there are only messages. -/
theorem Delivers.told_le {d : Delivery} (h : Delivers cfg s d s') (hσ : σ.Sure) :
    told σ s'.messages ≤ d.msg.about σ + (drawn d.env d.msg).count σ := by
  have hle := h.inHand_le (σ := σ)
  have htasks : s.paymentThreads.countP (·.subject = σ) = 0 :=
    List.countP_eq_zero.mpr fun t _ he =>
      hσ.ne_payment t.reqId t.uid (of_decide_eq_true he)
  have hstored : s.stored σ = 0 :=
    List.countP_eq_zero.mpr fun e _ => by simpa using hσ.ne_payment e.2.2.reqId e.2.2.uid
  unfold inHand at hle
  omega

theorem PassedOn.of_hands {n : Nat} (hn : n ≤ 1) (h : Hands σ s')
    (hle : told σ s'.messages ≤ 1) : PassedOn σ n s' := by
  obtain ⟨m, destination, hmem, habout, hd⟩ := h
  have hsum : (s'.sent.map fun e => e.1.about σ).sum ≤ 1 := by
    unfold told State.messages at hle
    rwa [List.map_map] at hle
  have hone {m' : Message} {o : ServiceIdentity} (hm' : m' ∈ BankLoop.sentTo o s')
      (h' : 0 < m'.about σ) : m' = m ∧ o = destination :=
    Prod.mk.inj (eq_of_mentioned hsum hmem (mem_sentTo.mp hm') habout h')
  have hthere : m.about σ ≤ told σ (BankLoop.sentTo destination s') :=
    about_le_told (mem_sentTo.mpr hmem)
  rcases hd with rfl | ⟨rfl, hfor⟩
  · refine ⟨fun m' hm' h' => ?_, fun m' hm' h' => ?_, by omega⟩
    · exact absurd (hone hm' h').2 (by simp)
    · exact absurd (hone hm' h').2 (by simp)
  · refine ⟨fun m' hm' h' => ?_, fun m' hm' h' => ?_, by omega⟩
    · exact absurd (hone hm' h').2 (by simp)
    · rw [(hone hm' h').1]
      exact hfor

theorem PassedOn.of_silent (h : told σ s'.messages = 0) : PassedOn σ 0 s' := by
  have hnone {m : Message} {o : ServiceIdentity} (hm : m ∈ BankLoop.sentTo o s') :
      ¬0 < m.about σ := by
    have hle : m.about σ ≤ told σ s'.messages :=
      about_le_told (List.mem_map_of_mem (f := Prod.fst) (mem_sentTo.mp hm))
    omega
  exact ⟨fun m hm h' => absurd h' (hnone hm), fun m hm h' => absurd h' (hnone hm), Nat.zero_le _⟩

/-- One message of the bank's. -/
theorem Delivers.passedOn {d : Delivery} (h : Delivers cfg s d s') (hσ : σ.Sure)
    (hfor : 0 < d.msg.about σ → d.msg.forBank = true) : PassedOn σ (d.msg.about σ) s' := by
  have htold := h.told_le hσ
  by_cases habout : 0 < d.msg.about σ
  · have hfor := hfor habout
    have hdrawn : drawn d.env d.msg = [] := by
      unfold drawn
      split
      next heq =>
        rw [heq] at hfor
        exact absurd hfor Bool.false_ne_true
      next => rfl
    have hone := hσ.about_le_one d.msg
    rw [hdrawn, List.count_nil] at htold
    exact .of_hands hone (h.hands hσ hfor habout) (by omega)
  · have hzero : d.msg.about σ = 0 := by omega
    rw [hzero] at htold ⊢
    obtain ⟨env, msg⟩ := d
    by_cases hdca : ∃ m, msg = .bank (.dcaRebalance m)
    · -- the bank asks for itself, on the loopback queue
      obtain ⟨m, rfl⟩ := hdca
      have hspec : Ensures (processMsg cfg env (.bank (.dcaRebalance m))) { s with sent := [] } _ :=
        dcaRebalance_sends m rfl
      have hsent := h.ensures hspec
      refine ⟨fun m hm _ => (hsent _ (mem_sentTo.mp hm)).2, fun m hm _ => ?_, Nat.zero_le _⟩
      exact absurd (hsent _ (mem_sentTo.mp hm)).1 (by simp)
    · have hdrawn : drawn env msg = [] := by
        unfold drawn
        split
        next m => exact absurd ⟨m, rfl⟩ hdca
        next => rfl
      rw [hdrawn, List.count_nil] at htold
      exact .of_silent (by omega)

end bank

/-! ## The dealer -/

section dealer

open DealerEngine

/-- The dealer answers what is for it. -/
theorem DealerDelivers.answers {denv : DealerEnv} {t t' : DealerState} {msg : Message}
    (h : DealerDelivers dcfg t ⟨denv, .bank msg⟩ t') (hfor : msg.forDealer = true)
    (habout : 0 < msg.about σ) :
    ∃ m, t'.sent = t.sent ++ [m] ∧ 0 < m.about σ ∧ m.forBank = true := by
  have hrun := dealerDelivers_iff.mp h
  cases msg with
  | api msg =>
    cases msg with
    | swapRequest msg =>
      rcases swapRequest_cases hrun with ⟨-, -, hsent⟩ | ⟨-, linear, current, fees, response, -, -,
        hanswer, hsent⟩
      · exact ⟨_, hsent, habout, rfl⟩
      · refine ⟨_, hsent, ?_, rfl⟩
        generalize t'.guaranteedQuotes = left at hanswer
        cases hanswer with
        | atRate => exact habout
        | noRate => exact habout
        | unknown => exact habout
        | mismatch => exact habout
        | redeemed => exact habout
    | quoteRequest msg =>
      have hspec : Ensures (processMsg dcfg denv (.bank (.api (.quoteRequest msg)))) t
          fun _ t' => ∃ m, t'.sent = t.sent ++ [m] ∧ 0 < m.about σ ∧ m.forBank = true := by
        refine Ensures.get_bind (Ensures.lift_bind fun r _ => ?_)
        obtain ⟨rate, fees⟩ := r
        refine Ensures.ite (fun _ => Ensures.set_bind ?_) fun _ => ?_
        · exact ⟨_, rfl, habout, rfl⟩
        · exact ⟨_, rfl, habout, rfl⟩
      exact hspec.of_run hrun
    | availableCurrenciesRequest msg =>
      have hspec : Ensures (processMsg dcfg denv (.bank (.api (.availableCurrenciesRequest msg)))) t
          fun _ t' => ∃ m, t'.sent = t.sent ++ [m] ∧ 0 < m.about σ ∧ m.forBank = true :=
        Ensures.lift_bind fun _ _ => ⟨_, rfl, habout, rfl⟩
      exact hspec.of_run hrun
    | _ => exact absurd hfor Bool.false_ne_true
  | _ => exact absurd hfor Bool.false_ne_true

/-- What the dealer sends about the subject is for the bank, and enough. -/
theorem DealerDelivers.answered {d : DealerDelivery} {t t' : DealerState}
    (h : DealerDelivers dcfg t d t')
    (hfor : ∀ msg, d.input = .bank msg → 0 < msg.about σ → msg.forDealer = true) :
    (∀ m ∈ t'.sent.drop t.sent.length, 0 < m.about σ → m.forBank = true) ∧
      (d.input.about σ = 0 ∨ 0 < told σ (t'.sent.drop t.sent.length)) := by
  obtain ⟨new, hsent, hle⟩ := h.saysAtMost (σ := σ)
  by_cases habout : 0 < d.input.about σ
  · obtain ⟨denv, input⟩ := d
    cases input with
    | kollider msg => exact absurd habout (Nat.lt_irrefl 0)
    | bank msg =>
      obtain ⟨m, hm, hpos, hbank⟩ := h.answers (hfor msg rfl habout) habout
      rw [hm, List.drop_left]
      refine ⟨fun m' hm' _ => by rwa [List.mem_singleton.mp hm'], .inr ?_⟩
      rw [told_cons]
      omega
  · refine ⟨fun m hm hpos => ?_, .inl (by omega)⟩
    rw [hsent, List.drop_left] at hm
    have hm := about_le_told (σ := σ) hm
    omega

end dealer

/-! ## The platform -/

/-- A request for the bank that is sure to be answered. -/
theorem Api.forBank_of_isRequest (hσ : σ.Sure) {msg : Api} (h : msg.isRequest = true)
    (habout : 0 < (Message.api msg).about σ) : (Message.api msg).forBank = true := by
  have hmem := List.count_pos_iff.mp habout
  have htopic := hσ.topic
  cases msg with
  | invoiceRequest m =>
    rw [List.mem_singleton.mp hmem] at htopic
    exact absurd htopic Bool.false_ne_true
  | paymentRequest m =>
    rw [List.mem_singleton.mp hmem] at htopic
    exact absurd htopic Bool.false_ne_true
  | createLnurlWithdrawalRequest m =>
    rcases List.mem_cons.mp hmem with rfl | hmem
    · exact absurd htopic Bool.false_ne_true
    · rw [List.mem_singleton.mp hmem] at htopic
      exact absurd htopic Bool.false_ne_true
  | payLnurlWithdrawalRequest m =>
    rw [List.mem_singleton.mp hmem] at htopic
    exact absurd htopic Bool.false_ne_true
  | nostrProfileRequest m => exact absurd hmem List.not_mem_nil
  | nostrProfileSearchRequest m => exact absurd hmem List.not_mem_nil
  | swapRequest m => rfl
  | getBalances m => rfl
  | quoteRequest m => rfl
  | availableCurrenciesRequest m => rfl
  | getNodeInfoRequest m => rfl
  | getLnurlWithdrawalRequest m => rfl
  | queryRouteRequest m => rfl
  | _ => exact absurd h Bool.false_ne_true

/-- The API asks, and nothing is lost. -/
def PlatformEvent.Orderly : PlatformEvent → Prop
  | .ask msg => msg.isRequest = true
  | .lost _ => False
  | _ => True

/-- How often the API asks. -/
def PlatformEvent.asks (σ : Subject) : PlatformEvent → Nat
  | .ask msg => (Message.api msg).about σ
  | _ => 0

def asks (σ : Subject) (es : List PlatformEvent) : Nat := (es.map (·.asks σ)).sum

namespace Platform

/-- The answers, and what is on its way. -/
def onWay (σ : Subject) (x : Platform) : Nat :=
  told σ x.toBank + told σ x.toDealer + told σ x.toApi

/-- What is about the subject lies where it belongs, and there is enough of it. -/
structure Kept (σ : Subject) (n : Nat) (x : Platform) : Prop where
  bank : ∀ m ∈ x.toBank, 0 < m.about σ → m.forBank = true
  dealer : ∀ m ∈ x.toDealer, 0 < m.about σ → m.forDealer = true
  all : n ≤ x.onWay σ

variable {n : Nat} {x x' : Platform}

/-- The bank has handled a message, of which `toBank` was not part. -/
theorem Kept.handled {toBank : List Message} {d : Delivery}
    (hpassed : PassedOn σ (d.msg.about σ) s')
    (hbank : ∀ m ∈ toBank, 0 < m.about σ → m.forBank = true)
    (hdealer : ∀ m ∈ x.toDealer, 0 < m.about σ → m.forDealer = true)
    (hn : n ≤ d.msg.about σ + told σ toBank + told σ x.toDealer + told σ x.toApi) :
    (x.handled toBank d s').Kept σ n := by
  refine ⟨fun m hm => ?_, fun m hm => ?_, ?_⟩
  · rcases List.mem_append.mp hm with hm | hm
    · exact hbank m hm
    · exact hpassed.loopback m hm
  · rcases List.mem_append.mp hm with hm | hm
    · exact hdealer m hm
    · exact hpassed.dealer m hm
  · have hall := hpassed.all
    unfold onWay Platform.handled
    dsimp only
    rw [told_append, told_append, told_append]
    omega

/-- The dealer has handled a message, of which `toDealer` was not part. -/
theorem Kept.answered {toDealer : List Message} {d : DealerDelivery} {t' : DealerState}
    (hσ : σ.Sure) (h : DealerDelivers dcfg x.dealer d t')
    (hfor : ∀ msg, d.input = .bank msg → 0 < msg.about σ → msg.forDealer = true)
    (hbank : ∀ m ∈ x.toBank, 0 < m.about σ → m.forBank = true)
    (hdealer : ∀ m ∈ toDealer, 0 < m.about σ → m.forDealer = true)
    (hn : n ≤ d.input.about σ + told σ x.toBank + told σ toDealer + told σ x.toApi) :
    (x.answered toDealer t').Kept σ n := by
  obtain ⟨hnew, hall⟩ := h.answered hfor
  have hone : d.input.about σ ≤ 1 := by
    cases d.input with
    | bank msg => exact hσ.about_le_one msg
    | kollider msg => exact Nat.zero_le 1
  refine ⟨fun m hm => ?_, hdealer, ?_⟩
  · rcases List.mem_append.mp hm with hm | hm
    · exact hbank m hm
    · exact hnew m hm
  · unfold onWay Platform.answered
    dsimp only
    rw [told_append]
    omega

/-- One step. What is on its way becomes more by what the API asks. -/
theorem Kept.step {e : PlatformEvent} (hσ : σ.Sure) (hx : x.Kept σ n) (he : e.Orderly)
    (h : x.step cfg dcfg e = some x') : x'.Kept σ (n + e.asks σ) := by
  have hall := hx.all
  unfold onWay at hall
  cases steps_of_step h with
  | ask msg =>
    refine ⟨fun m hm habout => ?_, hx.dealer, ?_⟩
    · rcases List.mem_append.mp hm with hm | hm
      · exact hx.bank m hm habout
      · rw [List.mem_singleton.mp hm] at habout ⊢
        exact Api.forBank_of_isRequest hσ he habout
    · unfold onWay PlatformEvent.asks
      dsimp only
      rw [told_append, told_cons, told_nil]
      omega
  | bank i env msg s' hmsg hdelivers =>
    have hpassed := hdelivers.passedOn hσ (hx.bank msg (List.mem_of_getElem? hmsg))
    have htake := told_eraseIdx (σ := σ) hmsg
    refine .handled hpassed (fun m hm => hx.bank m (List.mem_of_mem_eraseIdx hm)) hx.dealer ?_
    show n + 0 ≤ msg.about σ + _ + _ + _
    omega
  | arrives d s' hnone hdelivers =>
    have habout : d.msg.about σ = 0 := Message.about_eq_zero hnone
    refine .handled (hdelivers.passedOn hσ fun hpos => absurd hpos (by omega)) hx.bank
      hx.dealer ?_
    show n + 0 ≤ _
    omega
  | operator env msg s' hdelivers => exact ⟨hx.bank, hx.dealer, hx.all⟩
  | dealer i env msg t' hmsg hdelivers =>
    have htake := told_eraseIdx (σ := σ) hmsg
    refine .answered hσ hdelivers ?_ hx.bank
      (fun m hm => hx.dealer m (List.mem_of_mem_eraseIdx hm)) ?_
    · intro m hm
      rw [← DealerInput.bank.inj hm]
      exact hx.dealer msg (List.mem_of_getElem? hmsg)
    · show n + 0 ≤ msg.about σ + _ + _ + _
      omega
  | exchange env msg t' hdelivers =>
    refine .answered hσ hdelivers (fun m hm => absurd hm (by simp)) hx.bank hx.dealer ?_
    show n + 0 ≤ 0 + _ + _ + _
    omega
  | paid i lnd t res ht hrun =>
    -- the result of a payment, which is none of the kinds that are sure of an answer
    have habout : (Message.bank (.paymentResult res)).about σ = 0 := by
      rw [PaymentTask.about_result hrun, List.count_singleton]
      exact if_neg fun he => hσ.ne_payment t.reqId t.uid (beq_iff_eq.mp he)
    refine ⟨fun m hm hpos => ?_, hx.dealer, ?_⟩
    · rcases List.mem_append.mp hm with hm | hm
      · exact hx.bank m hm hpos
      · rw [List.mem_singleton.mp hm] at hpos
        omega
    · unfold onWay PlatformEvent.asks
      dsimp only
      rw [told_append]
      omega
  | stopped i lnd t p ht hrun => exact ⟨hx.bank, hx.dealer, hx.all⟩
  | lost i =>
    -- an orderly run loses nothing
    exact he.elim

end Platform

/-! ## Runs -/

theorem PlatformRun.kept {bank : State} {dealer : DealerState} {es : List PlatformEvent}
    {x : Platform} (hσ : σ.Sure) (hes : ∀ e ∈ es, e.Orderly)
    (run : PlatformRun cfg dcfg (.start bank dealer) es x) : x.Kept σ (asks σ es) := by
  induction run with
  | nil =>
    exact ⟨fun _ hm => absurd hm List.not_mem_nil, fun _ hm => absurd hm List.not_mem_nil,
      Nat.zero_le _⟩
  | @snoc y x' es e _ hstep ih =>
    have hkept := ih fun e he => hes e (List.mem_append_left _ he)
    have hnext := hkept.step hσ (hes e (by simp)) hstep
    rwa [asks, List.map_append, List.sum_append, List.map_singleton, List.sum_singleton]

/-- **What is asked is answered, once.** In every run in which nothing is lost, the
answers about a subject that is sure to be answered, and what is still on its way, are
as many as the requests of the API; if the bank did not ask under the same id. -/
theorem asked_is_answered {bank : State} {dealer : DealerState} {es : List PlatformEvent}
    {x : Platform} (hstore : bank.lnurlWithdrawalRequests = ∅) (hσ : σ.Sure)
    (hes : ∀ e ∈ es, e.Orderly) (run : PlatformRun cfg dcfg (.start bank dealer) es x)
    (hown : x.asked.count σ = asks σ es) :
    told σ x.toApi + (told σ x.toBank + told σ x.toDealer) = asks σ es := by
  have hcovered : x.Covered :=
    run.invariant (fun _ _ _ _ hx hstep => hx.step hstep) (.start hstore dealer)
  have hle := hcovered σ
  have hge := (run.kept hσ hes).all
  unfold Platform.total at hle
  unfold Platform.onWay at hge
  omega

/-- The refused swap is answered once, and nothing of it is left. -/
theorem asked_is_answered_sample : ∃ x,
    PlatformRun Sample.config Sample.dealerConfig (.start Sample.state Sample.dealer)
      Sample.askings x ∧
    told ⟨.swap, 1, some 7⟩ x.toApi = 1 ∧
    told ⟨.swap, 1, some 7⟩ x.toApi +
      (told ⟨.swap, 1, some 7⟩ x.toBank + told ⟨.swap, 1, some 7⟩ x.toDealer) =
      asks ⟨.swap, 1, some 7⟩ Sample.askings := by
  obtain ⟨x, hrun, htold, hown⟩ := Sample.exists_platformRun Sample.askings
    (.start Sample.state Sample.dealer)
    (fun x => told ⟨.swap, 1, some 7⟩ x.toApi = 1 ∧
      x.asked.count ⟨.swap, 1, some 7⟩ = asks ⟨.swap, 1, some 7⟩ Sample.askings)
    (by decide +kernel)
  have hsure : Subject.Sure ⟨.swap, 1, some 7⟩ := ⟨rfl, fun h => absurd h (by decide)⟩
  have horderly : ∀ e ∈ Sample.askings, e.Orderly := by
    simp [Sample.askings, PlatformEvent.Orderly, Api.isRequest]
  exact ⟨x, hrun, htold, asked_is_answered rfl hsure horderly hrun hown⟩

end Lndhubx
