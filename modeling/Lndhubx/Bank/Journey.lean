import Lndhubx.Bank.Answers
import Lndhubx.Bank.Charges
import Lndhubx.Bank.Lnurl
import Lndhubx.Bank.PaymentTasks
import Lndhubx.Bank.Traffic

/-!
# The journey of a payment request

A payment request is on its way until nothing that carries its id is left: it waits
for the bank, it waits for the dealer to price it, a task pays it, or the result of the
task waits for the bank (`OnWay`). A `Journey` is the bank with all that is on its way
of one request, and the responses the API was sent to it. Steps of the request are
interleaved with any other messages the bank handles (`Foreign`), and the dealer is in
any state when it is asked.

The bank hands on at most what it was handed, so what is on its way and what was
answered are never more than one (`JourneyStep.keeps`), and nothing is answered twice.
The request is answered in the end exactly if no step of its journey was silent
(`answered_once_iff`): the dealer had a rate, the node could be reached, and the bank
took no silent exit. Alice's payment to herself is one that does (`self_payment_lost`).

A handler that panics stops the bank, and the request with it; such a journey is never
over. The dealer's step is its `process_msg`: that its loop drops what it receives while
it waits for a `BankState` (`Dealer.Start`) is no step here. A request that is dropped
there stays on its way to the dealer, and its journey is not over either.
-/

namespace Lndhubx

open Prog BankEngine

variable {cfg : Config} {dcfg : DealerConfig} {r : RequestId} {s s' : State}

/-! ## The journey -/

/-- What a payment request has become. -/
inductive OnWay where
  /-- On its way to the bank, from the API, from the dealer or from the bank itself. -/
  | request (msg : PaymentRequest)
  /-- On its way to the dealer. -/
  | quote (msg : PaymentRequest)
  | task (t : PaymentTask)
  /-- On its way to the bank, from a task. -/
  | result (res : PaymentResult)

def OnWay.reqId : OnWay → RequestId
  | request msg => msg.reqId
  | quote msg => msg.reqId
  | task t => t.reqId
  | result res => res.paymentResponse.reqId

structure Journey where
  bank : State
  onWay : List OnWay
  responses : List PaymentResponse

/-- A request that the API has just sent. -/
def Journey.start (bank : State) (msg : PaymentRequest) : Journey := ⟨bank, [.request msg], []⟩

/-- A sent message that keeps the request `r` on its way. -/
def sentOn (r : RequestId) : Message × ServiceIdentity → Option OnWay
  | (.api (.paymentRequest m), .dealer) => if m.reqId = r then some (.quote m) else none
  | (.api (.paymentRequest m), .loopback) => if m.reqId = r then some (.request m) else none
  | _ => none

/-- A sent message that answers the request `r`. -/
def responseTo (r : RequestId) : Message × ServiceIdentity → Option PaymentResponse
  | (.api (.paymentResponse m), .api) => if m.reqId = r then some m else none
  | _ => none

/-- A message of the dealer that brings the request `r` back to the bank. -/
def broughtBack (r : RequestId) : Message → Option OnWay
  | .api (.paymentRequest m) => if m.reqId = r then some (.request m) else none
  | _ => none

/-- What a step of the bank to `s'` leaves on its way of the request `r`. -/
def leftOnWay (r : RequestId) (s s' : State) : List OnWay :=
  s'.sent.filterMap (sentOn r) ++
    ((s'.paymentThreads.drop s.paymentThreads.length).filter (·.reqId = r)).map .task

/-- After a step of the bank, of which `rest` was not part. -/
def Journey.after (r : RequestId) (x : Journey) (rest : List OnWay) (s' : State) : Journey where
  bank := s'
  onWay := rest ++ leftOnWay r x.bank s'
  responses := x.responses ++ s'.sent.filterMap (responseTo r)

/-- A message that is not about the request: request ids are never given twice. -/
def Foreign (r : RequestId) : Message → Prop
  | .api (.paymentRequest m) => m.reqId ≠ r
  | .api (.createLnurlWithdrawalRequest m) => m.reqId ≠ r
  | .bank (.paymentResult res) => res.paymentResponse.reqId ≠ r
  | _ => True

inductive JourneyEvent where
  | request (env : Env) (msg : PaymentRequest)
  | result (env : Env) (res : PaymentResult)
  | quote (denv : DealerEnv) (t : DealerState) (msg : PaymentRequest)
  | pay (t : PaymentTask) (lnd : Lnd)
  | other (d : Delivery)

/-- The bank, the dealer or a task takes what is on its way, or the bank handles
another message. -/
inductive JourneyStep (cfg : Config) (dcfg : DealerConfig) (r : RequestId) :
    Journey → JourneyEvent → Journey → Prop
  | request {x : Journey} {env : Env} {msg : PaymentRequest} {l l' : List OnWay} {s' : State}
      (next : x.onWay = l ++ .request msg :: l')
      (step : Delivers cfg x.bank ⟨env, .api (.paymentRequest msg)⟩ s') :
      JourneyStep cfg dcfg r x (.request env msg) (x.after r (l ++ l') s')
  | result {x : Journey} {env : Env} {res : PaymentResult} {l l' : List OnWay} {s' : State}
      (next : x.onWay = l ++ .result res :: l')
      (step : Delivers cfg x.bank ⟨env, .bank (.paymentResult res)⟩ s') :
      JourneyStep cfg dcfg r x (.result env res) (x.after r (l ++ l') s')
  | quote {x : Journey} {denv : DealerEnv} {t t' : DealerState} {msg : PaymentRequest}
      {l l' : List OnWay} (next : x.onWay = l ++ .quote msg :: l')
      (step : DealerDelivers dcfg t ⟨denv, .bank (.api (.paymentRequest msg))⟩ t') :
      JourneyStep cfg dcfg r x (.quote denv t msg)
        { x with
          onWay := l ++ l' ++ (t'.sent.drop t.sent.length).filterMap (broughtBack r) }
  | pay {x : Journey} {t : PaymentTask} {lnd : Lnd} {res : PaymentResult} {l l' : List OnWay}
      (next : x.onWay = l ++ .task t :: l') (sends : t.run lnd = .ok res) :
      JourneyStep cfg dcfg r x (.pay t lnd) { x with onWay := l ++ l' ++ [.result res] }
  | panics {x : Journey} {t : PaymentTask} {lnd : Lnd} {e : Panic} {l l' : List OnWay}
      (next : x.onWay = l ++ .task t :: l') (sends : t.run lnd = .error e) :
      JourneyStep cfg dcfg r x (.pay t lnd) { x with onWay := l ++ l' }
  | other {x : Journey} {d : Delivery} {s' : State} (foreign : Foreign r d.msg)
      (step : Delivers cfg x.bank d s') :
      JourneyStep cfg dcfg r x (.other d) (x.after r x.onWay s')

/-- No one is silent in a step: the bank reaches no silent exit, the dealer has a rate
and the task reaches the node. -/
def Answering (cfg : Config) (dcfg : DealerConfig) (x : Journey) : JourneyEvent → Prop
  | .request env msg => RequestAnswers cfg env x.bank msg
  | .result env res => ResultAnswers env x.bank res
  | .quote _ t msg => QuotesPayment dcfg t msg
  | .pay _ lnd => lnd.connects = true
  | .other _ => True

/-! ## What the bank leaves of a request -/

/-- How much of the request `r` a step of the bank leaves: on its way, or answered. -/
def leaves (r : RequestId) (s s' : State) : Nat :=
  (leftOnWay r s s').length + (s'.sent.filterMap (responseTo r)).length

/-- A message counts at most as much as its token. -/
theorem sentOn_le (r : RequestId) (m : Message × ServiceIdentity) :
    (sentOn r m).toList.length + (responseTo r m).toList.length ≤ tokenOf r m.1 := by
  unfold sentOn
  split
  next req =>
    show (if req.reqId = r then some (OnWay.quote req) else none).toList.length + 0 ≤
      if req.reqId = r then 1 else 0
    split
    · exact le_refl 1
    · exact le_refl 0
  next req =>
    show (if req.reqId = r then some (OnWay.request req) else none).toList.length + 0 ≤
      if req.reqId = r then 1 else 0
    split
    · exact le_refl 1
    · exact le_refl 0
  next =>
    unfold responseTo
    split
    next resp _ _ =>
      show 0 + (if resp.reqId = r then some resp else none).toList.length ≤
        if resp.reqId = r then 1 else 0
      split
      · exact le_refl 1
      · exact le_refl 0
    next => exact Nat.zero_le _

theorem length_filterMap_le (r : RequestId) (l : List (Message × ServiceIdentity)) :
    (l.filterMap (sentOn r)).length + (l.filterMap (responseTo r)).length ≤
      (l.map (sentMeter r)).sum.2.2 := by
  have hcons {α β : Type} (f : α → Option β) (a : α) (l : List α) :
      ((a :: l).filterMap f).length = (f a).toList.length + (l.filterMap f).length := by
    rw [List.filterMap_cons]
    cases f a with
    | none => exact (Nat.zero_add _).symm
    | some b => exact Nat.add_comm _ _
  induction l with
  | nil => exact le_refl 0
  | cons m l ih =>
    have hone := sentOn_le r m
    rw [hcons, hcons, List.map_cons, List.sum_cons]
    show _ ≤ tokenOf r m.1 + (l.map (sentMeter r)).sum.2.2
    omega

/-- The tasks that were spawned are at the end. -/
theorem Delivers.threads_append {d : Delivery} (h : Delivers cfg s d s') :
    s'.paymentThreads = s.paymentThreads ++ s'.paymentThreads.drop s.paymentThreads.length := by
  rcases h.outcome.threads with hsame | ⟨m, p, a, fee, -, hspawn⟩
  · rw [hsame, List.drop_length, List.append_nil]
  · rw [hspawn.threads]
    show _ = s.paymentThreads ++ List.drop s.paymentThreads.length (s.paymentThreads ++ [_])
    rw [List.drop_left]

/-- The bank leaves no more of the request than the load of the message. -/
theorem Delivers.leaves_le {d : Delivery} (h : Delivers cfg s d s') :
    leaves r s s' ≤ (load d.env r d.msg).2.2 := by
  have hle : meter r s' ≤ meter r { s with sent := [] } + load d.env r d.msg :=
    h.ensures (processMsg_raises d.msg _)
  have hsent := length_filterMap_le r s'.sent
  have hthreads := congrArg (List.countP (·.reqId = r)) h.threads_append
  rw [List.countP_append] at hthreads
  have hle : (s'.sent.map (sentMeter r)).sum.2.2 + s'.paymentThreads.countP (·.reqId = r) ≤
      0 + s.paymentThreads.countP (·.reqId = r) + (load d.env r d.msg).2.2 := hle.2.2
  unfold leaves leftOnWay
  rw [List.length_append, List.length_map, ← List.countP_eq_length_filter]
  omega

/-- A message that is handed on leaves something. -/
theorem HandedOn.leaves_pos (h : HandedOn r { s with sent := [] } s') : 0 < leaves r s s' := by
  unfold leaves leftOnWay
  rw [List.length_append]
  cases h with
  | answered resp id sent =>
    have hmem : resp ∈ s'.sent.filterMap (responseTo r) :=
      List.mem_filterMap.mpr ⟨_, sent, if_pos id⟩
    have := List.length_pos_of_mem hmem
    omega
  | asked req id sent =>
    have hmem : OnWay.quote req ∈ s'.sent.filterMap (sentOn r) :=
      List.mem_filterMap.mpr ⟨_, sent, if_pos id⟩
    have := List.length_pos_of_mem hmem
    omega
  | spawned t id threads =>
    have hthreads : s'.paymentThreads = s.paymentThreads ++ [t] := threads
    rw [hthreads, List.drop_left, List.filter_singleton, decide_eq_true id]
    show 0 < _ + 1 + _
    omega

/-- Silence leaves nothing. -/
theorem Silent.leaves_eq (h : Silent { s with sent := [] } s') : leaves r s s' = 0 := by
  have hthreads : s'.paymentThreads = s.paymentThreads := h.threads
  have hsent : ∀ m ∈ s'.sent, ¬IsPayment m := by
    intro m hm
    rcases h.sent m hm with hm | hm
    · exact absurd hm (by simp)
    · exact hm
  have hon : s'.sent.filterMap (sentOn r) = [] := by
    rw [List.filterMap_eq_nil_iff]
    intro m hm
    have hno := hsent m hm
    unfold sentOn
    split
    next req => exact absurd (.inl ⟨req, rfl⟩) hno
    next req => exact absurd (.inl ⟨req, rfl⟩) hno
    next => rfl
  have hresponses : s'.sent.filterMap (responseTo r) = [] := by
    rw [List.filterMap_eq_nil_iff]
    intro m hm
    have hno := hsent m hm
    unfold responseTo
    split
    next resp => exact absurd (.inr ⟨resp, rfl⟩) hno
    next => rfl
  unfold leaves leftOnWay
  rw [hon, hresponses, hthreads, List.drop_length]
  rfl

/-- No withdrawal is stored under the id `r`. -/
def NotStored (r : RequestId) (s : State) : Prop :=
  ∀ id t req, s.lnurlWithdrawalRequests.lookup id = some (t, req) → req.reqId ≠ r

theorem NotStored.of_empty (h : s.lnurlWithdrawalRequests = ∅) : NotStored r s := by
  intro id t req hfound
  rw [h, AList.lookup_empty] at hfound
  exact absurd hfound (by simp)

theorem load_of_foreign {env : Env} {msg : Message} (h : Foreign r msg)
    (hpay : ∀ m, msg ≠ .api (.payLnurlWithdrawalRequest m)) : (load env r msg).2.2 = 0 := by
  unfold load
  split
  next => rfl
  next => rfl
  next => rfl
  next m => exact if_neg h
  next m => exact absurd rfl (hpay m)
  next res => exact if_neg h
  next => rfl
  next => rfl

/-- A stored withdrawal is paid under its own id. -/
theorem payLnurlWithdrawal_leaves (m : PayLnurlWithdrawalRequest) (h : NotStored r s) :
    Ensures (payLnurlWithdrawal m) { s with sent := [] } fun _ s' => leaves r s s' = 0 := by
  refine Ensures.get_bind ?_
  split
  next t req hfound =>
    have hid : req.reqId ≠ r := h _ t req hfound
    refine Ensures.set_bind ?_
    show leaves r s { s with
      sent := [(.api (.paymentRequest { req with paymentRequest := some m.paymentRequest }),
        .loopback)]
      lnurlWithdrawalRequests := _ } = 0
    unfold leaves leftOnWay
    dsimp only
    rw [List.drop_length]
    simp [sentOn, responseTo, hid]
  next =>
    show leaves r s { s with sent := [(.api (.payLnurlWithdrawalResponse _), .api)] } = 0
    unfold leaves leftOnWay
    dsimp only
    rw [List.drop_length]
    rfl

/-- What is not about the request leaves nothing of it. -/
theorem Delivers.leaves_foreign {d : Delivery} (h : Delivers cfg s d s')
    (hforeign : Foreign r d.msg) (hstore : NotStored r s) : leaves r s s' = 0 := by
  obtain ⟨env, msg⟩ := d
  by_cases hpay : ∃ m, msg = .api (.payLnurlWithdrawalRequest m)
  · obtain ⟨m, rfl⟩ := hpay
    have hspec : Ensures (payLnurlWithdrawal m) { s with sent := [] } _ :=
      payLnurlWithdrawal_leaves m hstore
    exact h.ensures hspec
  · have hle := h.leaves_le (r := r)
    rw [load_of_foreign hforeign fun m hm => hpay ⟨m, hm⟩] at hle
    exact Nat.le_zero.mp hle

/-- No other message stores a withdrawal under the id of the request. -/
theorem Delivers.notStored {d : Delivery} (h : Delivers cfg s d s') (hstore : NotStored r s)
    (hforeign : ∀ m, d.msg = .api (.createLnurlWithdrawalRequest m) → m.reqId ≠ r) :
    NotStored r s' := by
  obtain ⟨env, msg⟩ := d
  have hout : WithdrawalOutcome env { s with sent := [] } s' msg := h.outcome.withdrawals rfl
  intro id t req hlookup
  cases hout with
  | kept same _ =>
    rw [same] at hlookup
    exact hstore id t req hlookup
  | created m _ _ kept _ =>
    rw [kept] at hlookup
    by_cases hid : id = m.reqId
    · rw [hid, AList.lookup_insert] at hlookup
      injection hlookup with hlookup
      injection hlookup with _ hreq
      rw [← hreq]
      exact hforeign m rfl
    · rw [AList.lookup_insert_ne hid] at hlookup
      exact hstore id t req hlookup
  | paid m t' req' found taken queued =>
    rw [taken] at hlookup
    by_cases hid : id = m.reqId
    · rw [hid, AList.lookup_erase] at hlookup
      exact absurd hlookup (by simp)
    · rw [AList.lookup_erase_ne hid] at hlookup
      exact hstore id t req hlookup

/-! ## Never more than one -/

/-- All there is of a request: what is on its way, and the responses. -/
def Journey.count (x : Journey) : Nat := x.onWay.length + x.responses.length

structure JourneyInv (r : RequestId) (x : Journey) : Prop where
  one : x.count ≤ 1
  ids : ∀ p ∈ x.onWay, p.reqId = r
  store : NotStored r x.bank

/-- In a step that meets the condition all is kept, and in any other step one is lost. -/
def KeptIff (c : Prop) (x x' : Journey) : Prop :=
  c ∧ x'.count = x.count ∨ ¬c ∧ x'.count + 1 = x.count

theorem reqId_of_left {p : OnWay} (h : p ∈ leftOnWay r s s') : p.reqId = r := by
  rcases List.mem_append.mp h with h | h
  · obtain ⟨m, -, hm⟩ := List.mem_filterMap.mp h
    unfold sentOn at hm
    split at hm
    next req =>
      obtain ⟨hid, hp⟩ := Option.ite_none_right_eq_some.mp hm
      rw [← Option.some.inj hp]
      exact hid
    next req =>
      obtain ⟨hid, hp⟩ := Option.ite_none_right_eq_some.mp hm
      rw [← Option.some.inj hp]
      exact hid
    next => exact absurd hm (by simp)
  · obtain ⟨t, ht, rfl⟩ := List.mem_map.mp h
    exact of_decide_eq_true (List.mem_filter.mp ht).2

theorem Journey.count_after (x : Journey) (rest : List OnWay) (s' : State) :
    (x.after r rest s').count = rest.length + x.responses.length + leaves r x.bank s' := by
  unfold Journey.count Journey.after leaves
  dsimp only
  rw [List.length_append, List.length_append]
  omega

namespace JourneyInv

variable {x : Journey} {l l' : List OnWay} {p : OnWay}

theorem count_rest (next : x.onWay = l ++ p :: l') :
    x.count = (l ++ l').length + x.responses.length + 1 := by
  unfold Journey.count
  rw [next, List.length_append, List.length_append, List.length_cons]
  omega

theorem ids_rest (h : JourneyInv r x) (next : x.onWay = l ++ p :: l') :
    ∀ q ∈ l ++ l', q.reqId = r := by
  intro q hq
  apply h.ids
  rw [next]
  rcases List.mem_append.mp hq with hq | hq
  · exact List.mem_append_left _ hq
  · exact List.mem_append_right _ (List.mem_cons_of_mem _ hq)

/-- What was taken from the way is of the request. -/
theorem id_next (h : JourneyInv r x) (next : x.onWay = l ++ p :: l') : p.reqId = r := by
  apply h.ids
  rw [next]
  exact List.mem_append_right _ List.mem_cons_self

/-- The bank takes what is on its way, and hands it on or not. -/
theorem handled {d : Delivery} {c : Prop} (h : JourneyInv r x) (next : x.onWay = l ++ p :: l')
    (step : Delivers cfg x.bank d s') (hload : (load d.env r d.msg).2.2 ≤ 1)
    (hcreate : ∀ m, d.msg ≠ .api (.createLnurlWithdrawalRequest m))
    (hiff : HandedOnIff c r { x.bank with sent := [] } s') :
    JourneyInv r (x.after r (l ++ l') s') ∧ KeptIff c x (x.after r (l ++ l') s') := by
  have hcount := x.count_after (r := r) (l ++ l') s'
  have hrest := count_rest next
  have hle := step.leaves_le (r := r)
  have hone := h.one
  constructor
  · refine ⟨by omega, fun q hq => ?_, step.notStored h.store fun m hm => absurd hm (hcreate m)⟩
    rcases List.mem_append.mp hq with hq | hq
    · exact h.ids_rest next q hq
    · exact reqId_of_left hq
  · rcases hiff with ⟨hc, hhanded⟩ | ⟨hc, hsilent⟩
    · have hpos := hhanded.leaves_pos
      exact .inl ⟨hc, by omega⟩
    · have hzero := hsilent.leaves_eq (r := r)
      exact .inr ⟨hc, by omega⟩

/-- The dealer or a task takes what is on its way, and puts one thing in its place or
nothing. -/
theorem moved {new : List OnWay} {c : Prop} (h : JourneyInv r x) (next : x.onWay = l ++ p :: l')
    (hnew : ∀ q ∈ new, q.reqId = r) (hiff : c ∧ new.length = 1 ∨ ¬c ∧ new = []) :
    JourneyInv r { x with onWay := l ++ l' ++ new } ∧
      KeptIff c x { x with onWay := l ++ l' ++ new } := by
  have hcount : ({ x with onWay := l ++ l' ++ new } : Journey).count =
      (l ++ l').length + x.responses.length + new.length := by
    unfold Journey.count
    dsimp only
    rw [List.length_append]
    omega
  have hrest := count_rest next
  have hone := h.one
  have hkept : KeptIff c x { x with onWay := l ++ l' ++ new } := by
    rcases hiff with ⟨hc, hlength⟩ | ⟨hc, rfl⟩
    · exact .inl ⟨hc, by omega⟩
    · rw [List.length_nil] at hcount
      exact .inr ⟨hc, by omega⟩
  refine ⟨⟨?_, fun q hq => ?_, h.store⟩, hkept⟩
  · rcases hkept with ⟨-, hsame⟩ | ⟨-, hless⟩
    · omega
    · omega
  · rcases List.mem_append.mp hq with hq | hq
    · exact h.ids_rest next q hq
    · exact hnew q hq

end JourneyInv

theorem JourneyStep.keeps {x x' : Journey} {e : JourneyEvent} (hinv : JourneyInv r x)
    (h : JourneyStep cfg dcfg r x e x') :
    JourneyInv r x' ∧ KeptIff (Answering cfg dcfg x e) x x' := by
  have htoken (id : RequestId) : tokenFor r id ≤ 1 := by
    unfold tokenFor
    split
    · exact le_refl 1
    · exact Nat.zero_le 1
  cases h with
  | @request env msg l l' s' next step =>
    have hid : msg.reqId = r := hinv.id_next next
    have hspec : Ensures (paymentRequest cfg env msg) { x.bank with sent := [] } _ :=
      paymentRequest_answers msg
    have hiff : HandedOnIff (RequestAnswers cfg env x.bank msg) msg.reqId _ s' :=
      (step.ensures hspec).congr (RequestAnswers.sent_iff [])
    rw [hid] at hiff
    exact hinv.handled next step (htoken _) (fun m hm => absurd hm (by simp)) hiff
  | @result env res l l' s' next step =>
    have hid : res.paymentResponse.reqId = r := hinv.id_next next
    have hspec : Ensures (paymentResult env res) { x.bank with sent := [] } _ :=
      paymentResult_answers res
    have hiff : HandedOnIff (ResultAnswers env x.bank res) res.paymentResponse.reqId _ s' :=
      step.ensures hspec
    rw [hid] at hiff
    exact hinv.handled next step (htoken _) (fun m hm => absurd hm (by simp)) hiff
  | @quote denv t t' msg l l' next step =>
    have hid : msg.reqId = r := hinv.id_next next
    apply hinv.moved next
    · intro q hq
      obtain ⟨m, -, hm⟩ := List.mem_filterMap.mp hq
      unfold broughtBack at hm
      split at hm
      next req =>
        obtain ⟨hid, hq⟩ := Option.ite_none_right_eq_some.mp hm
        rw [← Option.some.inj hq]
        exact hid
      next => exact absurd hm (by simp)
    · rcases step.quotes_payment with ⟨hquotes, rate, fees, hsent⟩ | ⟨hnone, hsent⟩
      · refine .inl ⟨hquotes, ?_⟩
        rw [hsent, List.drop_left]
        simp [broughtBack, hid]
      · refine .inr ⟨hnone, ?_⟩
        rw [hsent, List.drop_length]
        rfl
  | @pay t lnd res l l' next sends =>
    have hid : t.reqId = r := hinv.id_next next
    have hconnects : lnd.connects = true := by
      by_contra hno
      unfold PaymentTask.run LndConnector.new at sends
      rw [if_neg hno] at sends
      exact absurd sends (by simp [bind, Except.bind])
    apply hinv.moved next
    · intro q hq
      rw [List.mem_singleton.mp hq, ← hid, PaymentTask.eq_result_of_run sends]
      unfold PaymentTask.result
      split
      · rfl
      · rfl
    · exact .inl ⟨hconnects, rfl⟩
  | @panics t lnd e l l' next sends =>
    have hno : ¬lnd.connects = true := by
      intro hconnects
      rw [t.run_eq hconnects] at sends
      exact absurd sends (by simp)
    have hnew : ∀ q ∈ ([] : List OnWay), q.reqId = r := by simp
    have h := hinv.moved next hnew (.inr ⟨hno, rfl⟩)
    rw [List.append_nil] at h
    exact h
  | @other d s' foreign step =>
    have hzero := step.leaves_foreign foreign hinv.store
    -- the other message tells nobody of this request, nor takes anything off its way
    have hcount := x.count_after (r := r) x.onWay s'
    have hsame : (x.after r x.onWay s').count = x.count := by
      rw [hcount, hzero]
      rfl
    refine ⟨⟨by rw [hsame]; exact hinv.one, fun q hq => ?_, ?_⟩, .inl ⟨trivial, hsame⟩⟩
    · rcases List.mem_append.mp hq with hq | hq
      · exact hinv.ids q hq
      · exact reqId_of_left hq
    · apply step.notStored hinv.store
      intro m hm
      rw [hm] at foreign
      exact foreign

/-! ## Whole journeys -/

abbrev JourneyRun (cfg : Config) (dcfg : DealerConfig) (r : RequestId) :
    Journey → List JourneyEvent → Journey → Prop := Trace (JourneyStep cfg dcfg r)

/-- Journeys on which no one is silent. -/
abbrev AnsweringRun (cfg : Config) (dcfg : DealerConfig) (r : RequestId) :
    Journey → List JourneyEvent → Journey → Prop :=
  Trace fun x e x' => Answering cfg dcfg x e ∧ JourneyStep cfg dcfg r x e x'

section Runs

variable {x₀ x : Journey} {es : List JourneyEvent}

theorem JourneyInv.run (h : JourneyInv r x₀) (run : JourneyRun cfg dcfg r x₀ es x) :
    JourneyInv r x :=
  run.invariant (fun _ _ _ _ hinv hstep => (hstep.keeps hinv).1) h

/-- Where no one is silent, nothing is lost. -/
theorem AnsweringRun.count_eq (h : JourneyInv r x₀) (run : AnsweringRun cfg dcfg r x₀ es x) :
    x.count = x₀.count := by
  have hboth : JourneyInv r x ∧ x.count = x₀.count := by
    refine run.invariant (I := fun x => JourneyInv r x ∧ x.count = x₀.count) ?_ ⟨h, rfl⟩
    intro x e x' _ hx hstep
    obtain ⟨hinv, hcount⟩ := hx
    obtain ⟨hanswering, hstep⟩ := hstep
    obtain ⟨hinv', ⟨-, hkept⟩ | ⟨hno, -⟩⟩ := hstep.keeps hinv
    · exact ⟨hinv', hkept.trans hcount⟩
    · exact absurd hanswering hno
  exact hboth.2

/-- Where nothing was lost, no one was silent. -/
theorem JourneyRun.answering (h : JourneyInv r x₀) (run : JourneyRun cfg dcfg r x₀ es x) :
    x.count ≤ x₀.count ∧ (x.count = x₀.count → AnsweringRun cfg dcfg r x₀ es x) := by
  induction run with
  | nil => exact ⟨le_refl _, fun _ => .nil _⟩
  | @snoc x₁ x₂ l e run last ih =>
    obtain ⟨hle, hanswering⟩ := ih
    obtain ⟨-, ⟨hc, hkept⟩ | ⟨-, hlost⟩⟩ := last.keeps (h.run run)
    · refine ⟨by omega, fun hsame => ?_⟩
      exact (hanswering (by omega)).snoc ⟨hc, last⟩
    · exact ⟨by omega, fun hsame => absurd hsame (by omega)⟩

end Runs

theorem Journey.start_inv {s : State} {msg : PaymentRequest} (unused : NotStored msg.reqId s) :
    JourneyInv msg.reqId (.start s msg) := by
  refine ⟨le_refl 1, fun p hp => ?_, unused⟩
  rw [List.mem_singleton.mp hp]
  rfl

/-- No payment request is answered twice. -/
theorem answered_at_most_once {s : State} {msg : PaymentRequest} {es : List JourneyEvent}
    {x : Journey} (unused : NotStored msg.reqId s)
    (run : JourneyRun cfg dcfg msg.reqId (.start s msg) es x) : x.responses.length ≤ 1 := by
  have hone := ((Journey.start_inv unused).run run).one
  unfold Journey.count at hone
  omega

/-- A payment request of which nothing is left on its way was answered exactly once if
and only if no step of its journey was silent. -/
theorem answered_once_iff {s : State} {msg : PaymentRequest} {es : List JourneyEvent}
    {x : Journey} (unused : NotStored msg.reqId s)
    (run : JourneyRun cfg dcfg msg.reqId (.start s msg) es x) (arrived : x.onWay = []) :
    (∃ resp, x.responses = [resp]) ↔
      AnsweringRun cfg dcfg msg.reqId (.start s msg) es x := by
  have hinv := Journey.start_inv unused
  have hcount : x.count = x.responses.length := by
    unfold Journey.count
    rw [arrived, List.length_nil, Nat.zero_add]
  constructor
  · intro h
    obtain ⟨resp, hresp⟩ := h
    apply (run.answering hinv).2
    rw [hcount, hresp]
    rfl
  · intro h
    apply List.length_eq_one_iff.mp
    rw [← hcount]
    exact h.count_eq hinv

namespace Sample

/-- Alice pays the shop, the node pays it, and the bank handles the result. -/
theorem exists_paidJourney (h : (deliver config ⟨Sample.env 1, deposit⟩ state).toOption.any
    (fun s₁ => decide (
      (deliver config ⟨Sample.env 2, .api (.paymentRequest payShop)⟩ s₁).toOption.any
        (fun s₂ => decide ((s₂.sent.filterMap (sentOn 1)).length = 0 ∧
          (s₂.sent.filterMap (responseTo 1)).length = 0 ∧
          (s₂.paymentThreads.drop s₁.paymentThreads.length).length = 1 ∧
          ∀ t ∈ s₂.paymentThreads.drop s₁.paymentThreads.length, t.reqId = 1 ∧
            (deliver config ⟨Sample.env 3, .bank (.paymentResult (payingAnswer true t))⟩ s₂
              ).toOption.any (fun s₃ => decide ((leftOnWay 1 s₂ s₃).length = 0 ∧
                (s₃.sent.filterMap (responseTo 1)).length = 1)) = true)) = true)) = true) :
    ∃ s es x, NotStored payShop.reqId s ∧
      JourneyRun config dealerConfig payShop.reqId (.start s payShop) es x ∧ x.onWay = [] ∧
      ∃ resp, x.responses = [resp] := by
  obtain ⟨s₁, h₁, h⟩ := exists_delivers _ _ _ _ h
  obtain ⟨s₂, h₂, hsent, hnone, hspawned, h⟩ := exists_delivers _ _ _ _ h
  obtain ⟨t, ht⟩ := List.length_eq_one_iff.mp hspawned
  obtain ⟨hid, h⟩ := h t (by rw [ht]; exact List.mem_singleton.mpr rfl)
  obtain ⟨s₃, h₃, hleft, hanswered⟩ := exists_delivers _ _ _ _ h
  obtain ⟨resp, hresp⟩ := List.length_eq_one_iff.mp hanswered
  have hstored : NotStored payShop.reqId s₁ := by
    apply h₁.notStored (NotStored.of_empty rfl)
    intro m hm
    exact absurd hm (by simp [deposit])
  have hstep₁ : JourneyStep config dealerConfig payShop.reqId (.start s₁ payShop)
      (.request (Sample.env 2) payShop) ⟨s₂, [.task t], []⟩ := by
    have hstep : JourneyStep config dealerConfig payShop.reqId (.start s₁ payShop)
        (.request (Sample.env 2) payShop) _ := .request (l := []) rfl h₂
    have hafter : Journey.after payShop.reqId (.start s₁ payShop) ([] ++ []) s₂ =
        ⟨s₂, [.task t], []⟩ := by
      show Journey.mk s₂ (s₂.sent.filterMap (sentOn 1) ++ ((s₂.paymentThreads.drop
        s₁.paymentThreads.length).filter (·.reqId = 1)).map .task)
        (s₂.sent.filterMap (responseTo 1)) = _
      rw [List.length_eq_zero_iff.mp hsent, List.length_eq_zero_iff.mp hnone, ht,
        List.filter_singleton, decide_eq_true hid]
      rfl
    rw [hafter] at hstep
    exact hstep
  have hstep₂ : JourneyStep config dealerConfig payShop.reqId ⟨s₂, [.task t], []⟩
      (.pay t (payingNode true).lnd) ⟨s₂, [.result (payingAnswer true t)], []⟩ := by
    have next : [OnWay.task t] = [] ++ .task t :: [] := rfl
    have sends : t.run (payingNode true).lnd = .ok (payingAnswer true t) := t.run_eq rfl
    exact .pay (x := ⟨s₂, [.task t], []⟩) next sends
  have hstep₃ : JourneyStep config dealerConfig payShop.reqId
      ⟨s₂, [.result (payingAnswer true t)], []⟩ (.result (Sample.env 3) (payingAnswer true t))
      ⟨s₃, leftOnWay 1 s₂ s₃, s₃.sent.filterMap (responseTo 1)⟩ := by
    have next : [OnWay.result (payingAnswer true t)] = [] ++ .result _ :: [] := rfl
    exact .result (x := ⟨s₂, [.result (payingAnswer true t)], []⟩) next h₃
  exact ⟨s₁, _, _, hstored, (((Trace.nil _).snoc hstep₁).snoc hstep₂).snoc hstep₃,
    List.length_eq_zero_iff.mp hleft, resp, hresp⟩

/-- Alice pays herself, by name. -/
def payHerself : PaymentRequest :=
  { payShop with
    paymentRequest := none, recipient := some "alice", amount := some (Money.new .BTC 1) }

end Sample

/-- The shop's payment is answered once, and no step of its journey is silent. -/
theorem answered_once_sample : ∃ s es x, NotStored Sample.payShop.reqId s ∧
    JourneyRun Sample.config Sample.dealerConfig Sample.payShop.reqId (.start s Sample.payShop)
      es x ∧
    x.onWay = [] ∧
    AnsweringRun Sample.config Sample.dealerConfig Sample.payShop.reqId (.start s Sample.payShop)
      es x := by
  obtain ⟨s, es, x, hstored, hrun, hover, hresp⟩ := Sample.exists_paidJourney (by decide +kernel)
  exact ⟨s, es, x, hstored, hrun, hover, (answered_once_iff hstored hrun hover).mp hresp⟩

/-- A user who pays herself is never told: the bank finds out and says nothing. -/
theorem self_payment_lost : ∃ x,
    NotStored Sample.payHerself.reqId (Sample.aliceKnown ∅) ∧
    JourneyRun Sample.config Sample.dealerConfig Sample.payHerself.reqId
      (.start (Sample.aliceKnown ∅) Sample.payHerself)
      [.request (Sample.env 2) Sample.payHerself] x ∧
    x.onWay = [] ∧ ¬∃ resp, x.responses = [resp] := by
  obtain ⟨s', h, hleft, hnone⟩ := exists_delivers Sample.config
    ⟨Sample.env 2, .api (.paymentRequest Sample.payHerself)⟩ (Sample.aliceKnown ∅)
    (fun s' => (leftOnWay 1 (Sample.aliceKnown ∅) s').length = 0 ∧
      (s'.sent.filterMap (responseTo 1)).length = 0) (by decide +kernel)
  have hstep : JourneyStep Sample.config Sample.dealerConfig Sample.payHerself.reqId
      (.start (Sample.aliceKnown ∅) Sample.payHerself)
      (.request (Sample.env 2) Sample.payHerself) _ := .request (l := []) rfl h
  refine ⟨_, .of_empty rfl, (Trace.nil _).snoc hstep, ?_, ?_⟩
  · exact List.length_eq_zero_iff.mp hleft
  · intro hresp
    obtain ⟨resp, hresp⟩ := hresp
    have hresp : s'.sent.filterMap (responseTo 1) = [resp] := hresp
    rw [hresp] at hnone
    exact absurd hnone (by simp)

end Lndhubx
