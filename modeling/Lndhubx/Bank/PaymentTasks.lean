import Lndhubx.Bank.Holds

/-!
# Payment tasks and the node

A payment task asks the node to pay an invoice and sends what came of it to the
bank. Three parties decide the outcome: the node pays or does not (`Node.pays`),
its answer arrives or the connection is lost before it does (`none`), and the
connector makes one error of a refused payment and of a lost answer
(`LndConnector.payResponse`). The bank refunds on every error.

So the bank never refunds a completed payment (`paid_not_refunded_of_run`) as
long as the answer to a completed payment arrives (`AnswerArrives`), and does as
soon as one is lost (`refund_of_paid`).
-/

namespace Lndhubx

open Prog BankEngine

variable {cfg : Config} {env : Env} {s s' : State}

/-! ## One task -/

/-- The node: its replies, and which requests it pays. An answer that arrives
carries no error if and only if the invoice was paid; no answer means nothing. -/
structure Node where
  lnd : Lnd
  pays : SendRequest → Bool
  honest : ∀ req r, lnd.sendPaymentSync req = some r → (r.paymentError = "" ↔ pays req = true)

/-- What a task asks of the node: to pay within the fee that was estimated. -/
def PaymentTask.sendRequest (t : PaymentTask) : SendRequest where
  paymentRequest := t.paymentRequest
  feeLimit := ((t.estimatedFeeInSats.roundDp 0).toI64).getD 0

/-- The node has paid the invoice of the task. -/
def PaymentTask.PaidBy (t : PaymentTask) (node : Node) : Prop :=
  node.lnd.connects = true ∧ node.pays t.sendRequest = true

/-- The answer to a completed payment arrives. -/
def AnswerArrives (t : PaymentTask) (node : Node) : Prop :=
  t.PaidBy node → node.lnd.sendPaymentSync t.sendRequest ≠ none

/-- A task sends what the connector makes of the node's answer. -/
theorem PaymentTask.run_eq (t : PaymentTask) {lnd : Lnd} (h : lnd.connects = true) :
    t.run lnd = .ok (t.result (LndConnector.payResponse (lnd.sendPaymentSync t.sendRequest))) := by
  unfold PaymentTask.run LndConnector.new
  rw [if_pos h]
  rfl

/-- A completed payment whose answer arrives is a success. -/
theorem payResponse_of_paid {t : PaymentTask} {node : Node} (hpaid : t.PaidBy node)
    (harrives : AnswerArrives t node) :
    ∃ r, LndConnector.payResponse (node.lnd.sendPaymentSync t.sendRequest) = .ok r := by
  cases hr : node.lnd.sendPaymentSync t.sendRequest with
  | none => exact absurd hr (harrives hpaid)
  | some r =>
    have hnone : r.paymentError = "" := (node.honest _ r hr).mpr hpaid.2
    unfold LndConnector.payResponse
    dsimp only
    rw [if_neg (not_not.mpr hnone)]
    exact ⟨_, rfl⟩

/-- The tasks a message has spawned. -/
theorem Delivers.spawned {d : Delivery} (h : Delivers cfg s d s') :
    s'.paymentThreads.drop s.paymentThreads.length = [] ∨
      ∃ m p a fee, d.msg = .api (.paymentRequest m) ∧
        SpawnsTask cfg d.env { s with sent := [] } s' m p a fee ∧
        s'.paymentThreads.drop s.paymentThreads.length = [p.task fee] := by
  rcases h.outcome.threads with hsame | ⟨m, p, a, fee, hmsg, hspawn⟩
  · left
    rw [hsame]
    exact List.drop_length
  · right
    refine ⟨m, p, a, fee, hmsg, hspawn, ?_⟩
    rw [hspawn.threads]
    exact List.drop_left

/-- What a task sends is what the connector makes of the answer to its request. -/
theorem PaymentTask.eq_result_of_run {t : PaymentTask} {lnd : Lnd} {res : PaymentResult}
    (h : t.run lnd = .ok res) :
    res = t.result (LndConnector.payResponse (lnd.sendPaymentSync t.sendRequest)) := by
  by_cases hconn : lnd.connects = true
  · rw [t.run_eq hconn] at h
    exact (Except.ok.inj h).symm
  · unfold PaymentTask.run LndConnector.new at h
    rw [if_neg hconn] at h
    exact absurd h (by simp [bind, Except.bind])

/-! ## Runs -/

/-- A result on its way to the bank, and the node that was asked. -/
structure TaskResult where
  task : PaymentTask
  node : Node
  result : PaymentResult

/-- The bank, the tasks it has spawned, the channel they send to, and the
results it has handled with what they did to the balances. -/
structure PayingBank where
  bank : State
  running : List PaymentTask
  results : List TaskResult
  handled : List (TaskResult × (AccountRef → Decimal))

inductive TaskEvent where
  | message (d : Delivery)
  | pay (t : PaymentTask) (node : Node)
  | result (env : Env)

/-- A message is handled, a task runs to its end (or panics and sends nothing),
or the bank takes the next result from the channel. -/
inductive TaskStep (cfg : Config) : PayingBank → TaskEvent → PayingBank → Prop
  | message {p : PayingBank} {d : Delivery} {s' : State} (step : Delivers cfg p.bank d s')
      (notResult : ∀ res, d.msg ≠ .bank (.paymentResult res)) :
      TaskStep cfg p (.message d)
        { p with
          bank := s'
          running := p.running ++ s'.paymentThreads.drop p.bank.paymentThreads.length }
  | pay {p : PayingBank} {t : PaymentTask} {node : Node} {l l' : List PaymentTask}
      {res : PaymentResult} (running : p.running = l ++ t :: l')
      (sends : t.run node.lnd = .ok res) :
      TaskStep cfg p (.pay t node)
        { p with running := l ++ l', results := p.results ++ [⟨t, node, res⟩] }
  | panics {p : PayingBank} {t : PaymentTask} {node : Node} {l l' : List PaymentTask} {e : Panic}
      (running : p.running = l ++ t :: l') (sends : t.run node.lnd = .error e) :
      TaskStep cfg p (.pay t node) { p with running := l ++ l' }
  | result {p : PayingBank} {env : Env} {s' : State} {r : TaskResult} {rest : List TaskResult}
      (next : p.results = r :: rest)
      (step : Delivers cfg p.bank ⟨env, .bank (.paymentResult r.result)⟩ s') :
      TaskStep cfg p (.result env)
        { p with
          bank := s', results := rest
          handled := p.handled ++ [(r, balanceChange p.bank s')] }

/-- The condition on a step. -/
def TaskGuard : TaskEvent → Prop
  | .pay t node => AnswerArrives t node
  | _ => True

/-- A result for a completed payment says so. -/
def TaskResult.Faithful (r : TaskResult) : Prop :=
  r.task.PaidBy r.node → ∃ response, r.result = r.task.result (.ok response)

theorem TaskResult.faithful_of_run {t : PaymentTask} {node : Node} {res : PaymentResult}
    (h : t.run node.lnd = .ok res) (harrives : AnswerArrives t node) :
    TaskResult.Faithful ⟨t, node, res⟩ := by
  intro hpaid
  obtain ⟨r, hr⟩ := payResponse_of_paid hpaid harrives
  have hconn : node.lnd.connects = true := hpaid.1
  rw [t.run_eq hconn, hr] at h
  injection h with h
  exact ⟨r, h.symm⟩

/-- A completed payment was handled as a success, and its user got nothing back. -/
def NotRefunded (h : TaskResult × (AccountRef → Decimal)) : Prop :=
  h.1.task.PaidBy h.1.node →
    h.1.result.isSuccess = true ∧ ∀ uid id, h.2 (.user uid, id) = 0

structure PayingInv (p : PayingBank) : Prop where
  results : ∀ r ∈ p.results, r.Faithful
  handled : ∀ h ∈ p.handled, NotRefunded h

theorem TaskStep.inv {p p' : PayingBank} {e : TaskEvent} (hinv : PayingInv p)
    (hguard : TaskGuard e) (h : TaskStep cfg p e p') : PayingInv p' := by
  cases h with
  | message step _ => exact ⟨hinv.results, hinv.handled⟩
  | panics _ _ => exact ⟨hinv.results, hinv.handled⟩
  | pay _ sends =>
    refine ⟨fun r hr => ?_, hinv.handled⟩
    rcases List.mem_append.mp hr with hr | hr
    · exact hinv.results r hr
    · rw [List.mem_singleton.mp hr]
      exact TaskResult.faithful_of_run sends hguard
  | @result _ s' r rest next step =>
    have hnext : ∀ r' ∈ r :: rest, r'.Faithful := by
      rw [← next]
      exact hinv.results
    refine ⟨fun r' hr' => hnext r' (List.mem_cons_of_mem _ hr'), fun h hh => ?_⟩
    rcases List.mem_append.mp hh with hh | hh
    · exact hinv.handled h hh
    · rw [List.mem_singleton.mp hh]
      intro hpaid
      obtain ⟨response, hres⟩ := hnext r (by simp) hpaid
      rw [hres] at step
      refine ⟨?_, step.success_users⟩
      show r.result.isSuccess = true
      rw [hres]
      rfl

/-- In every run in which the answers to completed payments arrive, no completed
payment is handled as a failure and none is refunded. -/
theorem paid_not_refunded_of_run {p : PayingBank} {es : List TaskEvent}
    (hrun : Trace (fun p e p' => TaskGuard e ∧ TaskStep cfg p e p') ⟨s, [], [], []⟩ es p) :
    ∀ h ∈ p.handled, h.1.task.PaidBy h.1.node →
      h.1.result.isSuccess = true ∧ ∀ uid id, h.2 (.user uid, id) = 0 := by
  have hinv := hrun.invariant (I := PayingInv)
    (fun p₁ e p₂ _ hinv hstep => hstep.2.inv hinv hstep.1) ⟨by simp, by simp⟩
  exact hinv.handled

namespace Sample

/-- Alice is paid and pays the shop: a task waits for the node. -/
theorem exists_task (P : State → PaymentTask → Prop) [∀ s, DecidablePred (P s)]
    (h : (deliver config ⟨Sample.env 1, deposit⟩ state).toOption.any (fun s₁ => decide (
      s₁.paymentThreads.length = 0 ∧
      (deliver config ⟨Sample.env 2, .api (.paymentRequest payShop)⟩ s₁).toOption.any
        (fun s₂ => decide (s₂.paymentThreads.length = 1 ∧
          ∀ t ∈ s₂.paymentThreads, P s₂ t)) = true)) = true) :
    ∃ (t : PaymentTask) (s₂ : State),
      Trace (TaskStep config) ⟨state, [], [], []⟩
        [.message ⟨Sample.env 1, deposit⟩, .message ⟨Sample.env 2, .api (.paymentRequest payShop)⟩]
        ⟨s₂, [t], [], []⟩ ∧ P s₂ t := by
  obtain ⟨s₁, h₁, hnone, h⟩ := exists_delivers _ _ _ _ h
  obtain ⟨s₂, h₂, hlen, h⟩ := exists_delivers _ _ _ _ h
  obtain ⟨t, ht⟩ := List.length_eq_one_iff.mp hlen
  have hnil : s₁.paymentThreads = [] := List.length_eq_zero_iff.mp hnone
  have hstep₁ : TaskStep config ⟨state, [], [], []⟩ (.message ⟨Sample.env 1, deposit⟩)
      ⟨s₁, [], [], []⟩ := by
    have hstep : TaskStep config ⟨state, [], [], []⟩ (.message ⟨Sample.env 1, deposit⟩)
        ⟨s₁, [] ++ s₁.paymentThreads.drop 0, [], []⟩ := .message h₁ (by simp [deposit])
    rwa [hnil] at hstep
  have hstep₂ : TaskStep config ⟨s₁, [], [], []⟩
      (.message ⟨Sample.env 2, .api (.paymentRequest payShop)⟩) ⟨s₂, [t], [], []⟩ := by
    have hstep : TaskStep config ⟨s₁, [], [], []⟩
        (.message ⟨Sample.env 2, .api (.paymentRequest payShop)⟩)
        ⟨s₂, [] ++ s₂.paymentThreads.drop s₁.paymentThreads.length, [], []⟩ :=
      .message h₂ (by simp)
    rwa [hnil, ht] at hstep
  exact ⟨t, s₂, ((Trace.nil _).snoc hstep₁).snoc hstep₂, h t (by rw [ht]; simp)⟩

/-- A node that pays everything, and whose answer arrives or is lost. -/
def payingNode (answers : Bool) : Node where
  lnd := { lnd with
    sendPaymentSync := fun _ => if answers then some ⟨"", none, "shop", ""⟩ else none }
  pays := fun _ => true
  honest := by
    intro req r h
    cases answers with
    | false => exact absurd h (by simp)
    | true =>
      have h : some (⟨"", none, "shop", ""⟩ : SendResponse) = some r := h
      rw [← Option.some.inj h]
      simp

/-- What the connector makes of its answer. -/
def payingAnswer (answers : Bool) (t : PaymentTask) : PaymentResult :=
  t.result (LndConnector.payResponse ((payingNode answers).lnd.sendPaymentSync t.sendRequest))

/-- Alice is paid, pays the shop, the node pays it, and its answer arrives or is
lost: the bank handles the result. -/
theorem exists_payingRun (answers : Bool) (change : Decimal)
    (h : (deliver config ⟨Sample.env 1, deposit⟩ state).toOption.any (fun s₁ => decide (
      s₁.paymentThreads.length = 0 ∧
      (deliver config ⟨Sample.env 2, .api (.paymentRequest payShop)⟩ s₁).toOption.any
        (fun s₂ => decide (s₂.paymentThreads.length = 1 ∧
          ∀ t ∈ s₂.paymentThreads,
            (deliver config ⟨Sample.env 3, .bank (.paymentResult (payingAnswer answers t))⟩ s₂
              ).toOption.any (fun s₃ =>
                decide (balanceChange s₂ s₃ (.user 7, 1) = change)) = true)) = true)) = true) :
    ∃ (t : PaymentTask) (s₃ : State) (c : AccountRef → Decimal),
      Trace (TaskStep config) ⟨state, [], [], []⟩
        [.message ⟨Sample.env 1, deposit⟩, .message ⟨Sample.env 2, .api (.paymentRequest payShop)⟩,
          .pay t (payingNode answers), .result (Sample.env 3)]
        ⟨s₃, [], [], [(⟨t, payingNode answers, payingAnswer answers t⟩, c)]⟩ ∧
      c (.user 7, 1) = change := by
  obtain ⟨t, s₂, hrun, h⟩ := exists_task _ h
  obtain ⟨s₃, h₃, hchange⟩ := exists_delivers _ _ s₂ _ h
  have hstep₃ : TaskStep config ⟨s₂, [t], [], []⟩ (.pay t (payingNode answers))
      ⟨s₂, [] ++ [], [⟨t, payingNode answers, payingAnswer answers t⟩], []⟩ :=
    .pay rfl (t.run_eq rfl)
  have hstep₄ : TaskStep config ⟨s₂, [], [⟨t, payingNode answers, payingAnswer answers t⟩], []⟩
      (.result (Sample.env 3)) ⟨s₃, [], [], [(_, balanceChange s₂ s₃)]⟩ := .result rfl h₃
  exact ⟨t, s₃, balanceChange s₂ s₃, (hrun.snoc hstep₃).snoc hstep₄, hchange⟩

end Sample

/-- The answer arrives, and the shop's payment is a success. -/
theorem paid_not_refunded_sample : ∃ (t : PaymentTask) (p : PayingBank) (es : List TaskEvent),
    Trace (fun p e p' => TaskGuard e ∧ TaskStep Sample.config p e p') ⟨Sample.state, [], [], []⟩
      es p ∧ t.PaidBy (Sample.payingNode true) ∧
    ∃ h ∈ p.handled, h.1.task = t ∧ h.1.node = Sample.payingNode true ∧
      h.1.result.isSuccess = true ∧ ∀ uid id, h.2 (.user uid, id) = 0 := by
  obtain ⟨t, s₃, c, hrun, -⟩ := Sample.exists_payingRun true 0 (by decide +kernel)
  have harrives : AnswerArrives t (Sample.payingNode true) := fun _ => by simp [Sample.payingNode]
  have hrun := hrun.restrict (G := TaskGuard) (by simp [TaskGuard, harrives])
  have hpaid : t.PaidBy (Sample.payingNode true) := ⟨rfl, rfl⟩
  exact ⟨t, _, _, hrun, hpaid, _, List.mem_singleton.mpr rfl, rfl, rfl,
    paid_not_refunded_of_run hrun _ (List.mem_singleton.mpr rfl) hpaid⟩

/-- The answer is lost: the shop has its 500 sats, and Alice has her 505 back. -/
theorem refund_of_paid : ∃ (t : PaymentTask) (p : PayingBank) (es : List TaskEvent),
    Trace (TaskStep Sample.config) ⟨Sample.state, [], [], []⟩ es p ∧
    t.PaidBy (Sample.payingNode false) ∧
    ∃ h ∈ p.handled, h.1.task = t ∧ h.1.node = Sample.payingNode false ∧
      h.1.result.isSuccess = false ∧ h.2 (.user 7, 1) = 505 / 100000000 := by
  obtain ⟨t, s₃, c, hrun, hc⟩ := Sample.exists_payingRun false (505 / 100000000) (by decide +kernel)
  exact ⟨t, _, _, hrun, ⟨rfl, rfl⟩, _, List.mem_singleton.mpr rfl, rfl, rfl, rfl, hc⟩

end Lndhubx
