import Lndhubx.Bank.Journey
import Lndhubx.Bank.Start
import Lndhubx.Bank.Subjects
import Lndhubx.Dealer.Subjects

/-!
# The bank, the dealer and everything between them

`Platform` is the bank and the dealer with all messages on their way: from the API,
from one to the other, from the bank to itself and from the tasks that pay invoices.
They are taken in any order, may be lost on the way to the dealer, and are mixed with
what arrives from elsewhere: deposits, the timer of the rebalancing, the operator's
tool, the reports of the exchange.

Whatever happens, the API is told of a subject at most as often as it asked
(`answers_le_asked`): no request is answered twice, nothing is answered that was not
asked, and an answer is of the kind, the id and the user of its request. The swaps
that the bank asks for by itself, for a user's settings, count as asked too.
-/

namespace Lndhubx

open Prog BankEngine

variable {cfg : Config} {dcfg : DealerConfig} {σ : Subject}

structure Platform where
  bank : State
  dealer : DealerState
  toBank : List Message
  toDealer : List Message
  toApi : List Message
  tasks : List PaymentTask
  /-- What the API asked, and the bank for the settings of its users. -/
  asked : List Subject

/-- What is on its way is taken by its place. -/
inductive PlatformEvent where
  | ask (msg : Api)
  | bank (i : Nat) (env : Env)
  | arrives (d : Delivery)
  | operator (env : Env) (msg : Cli)
  | dealer (i : Nat) (env : DealerEnv)
  | exchange (env : DealerEnv) (msg : KolliderApiResponse)
  | pays (i : Nat) (lnd : Lnd)
  | lost (i : Nat)

namespace Platform

/-- A bank and a dealer that have just been started. -/
def start (bank : State) (dealer : DealerState) : Platform where
  bank
  dealer
  toBank := []
  toDealer := []
  toApi := []
  tasks := []
  asked := []

/-- After the bank has handled a message, of which `toBank` was not part. -/
def handled (x : Platform) (toBank : List Message) (d : Delivery) (s' : State) : Platform where
  bank := s'
  dealer := x.dealer
  toBank := toBank ++ BankLoop.sentTo .loopback s'
  toDealer := x.toDealer ++ BankLoop.sentTo .dealer s'
  toApi := x.toApi ++ BankLoop.sentTo .api s'
  tasks := x.tasks ++ s'.paymentThreads.drop x.bank.paymentThreads.length
  asked := x.asked ++ drawn d.env d.msg

/-- After the dealer has handled a message, of which `toDealer` was not part. -/
def answered (x : Platform) (toDealer : List Message) (t' : DealerState) : Platform :=
  { x with
    dealer := t'
    toDealer
    toBank := x.toBank ++ t'.sent.drop x.dealer.sent.length }

/-- A handler that panics stops its process, and the run ends. What arrives from
elsewhere is about no request. -/
def step (cfg : Config) (dcfg : DealerConfig) (x : Platform) : PlatformEvent → Option Platform
  | .ask msg => some { x with
      toBank := x.toBank ++ [.api msg], asked := x.asked ++ msg.subjects }
  | .bank i env => do
    let msg ← x.toBank[i]?
    let s' ← (deliver cfg ⟨env, msg⟩ x.bank).toOption
    return x.handled (x.toBank.eraseIdx i) ⟨env, msg⟩ s'
  | .arrives d =>
    if d.msg.subjects = [] then do
      let s' ← (deliver cfg d x.bank).toOption
      return x.handled x.toBank d s'
    else none
  | .operator env msg => do
    let s' ← (deliver cfg ⟨env, .cli msg⟩ x.bank).toOption
    return { x with bank := s' }
  | .dealer i env => do
    let msg ← x.toDealer[i]?
    let t' ← (DealerEngine.deliver dcfg ⟨env, .bank msg⟩ x.dealer).toOption
    return x.answered (x.toDealer.eraseIdx i) t'
  | .exchange env msg => do
    let t' ← (DealerEngine.deliver dcfg ⟨env, .kollider msg⟩ x.dealer).toOption
    return x.answered x.toDealer t'
  | .pays i lnd => do
    let t ← x.tasks[i]?
    let tasks := x.tasks.eraseIdx i
    match t.run lnd with
    | .ok res => return { x with toBank := x.toBank ++ [.bank (.paymentResult res)], tasks }
    | .error _ => return { x with tasks }
  | .lost i => some { x with toDealer := x.toDealer.eraseIdx i }

/-! ## What there is of a subject -/

/-- On its way, stored or answered. -/
def total (σ : Subject) (x : Platform) : Nat :=
  told σ x.toBank + told σ x.toDealer + told σ x.toApi +
    x.tasks.countP (·.subject = σ) + x.bank.stored σ

end Platform

/-- What is taken out, and the rest. -/
theorem perm_cons_eraseIdx {α : Type} {l : List α} {i : Nat} {a : α} (h : l[i]? = some a) :
    l.Perm (a :: l.eraseIdx i) := by
  obtain ⟨hi, rfl⟩ := List.getElem?_eq_some_iff.mp h
  exact (List.getElem_cons_eraseIdx_perm hi).symm

theorem told_eraseIdx {l : List Message} {i : Nat} {m : Message} (h : l[i]? = some m) :
    told σ l = m.about σ + told σ (l.eraseIdx i) := by
  have hperm := (perm_cons_eraseIdx h).map (Message.about σ)
  exact hperm.sum_eq

theorem told_eraseIdx_le (l : List Message) (i : Nat) : told σ (l.eraseIdx i) ≤ told σ l := by
  cases h : l[i]? with
  | none => rw [List.eraseIdx_of_length_le (List.getElem?_eq_none_iff.mp h)]
  | some m =>
    rw [told_eraseIdx h]
    exact Nat.le_add_left _ _

theorem countP_eraseIdx {l : List PaymentTask} {i : Nat} {t : PaymentTask} (h : l[i]? = some t) :
    l.countP (·.subject = σ) = [t.subject].count σ + (l.eraseIdx i).countP (·.subject = σ) := by
  rw [(perm_cons_eraseIdx h).countP_eq, List.countP_cons, List.count_singleton, beq_eq_decide,
    Nat.add_comm]

/-! ## One step -/

theorem eq_ok_of_toOption {ε α : Type} {r : Except ε α} {a : α} (h : r.toOption = some a) :
    r = .ok a := by
  cases r with
  | error e => exact absurd h (by simp [Except.toOption])
  | ok b => exact congrArg _ (Option.some.inj h)

/-- What an event does, case by case. -/
inductive Platform.Steps (cfg : Config) (dcfg : DealerConfig) (x : Platform) :
    PlatformEvent → Platform → Prop
  | ask (msg : Api) : Steps cfg dcfg x (.ask msg)
      { x with toBank := x.toBank ++ [.api msg], asked := x.asked ++ msg.subjects }
  | bank (i : Nat) (env : Env) (msg : Message) (s' : State) (hmsg : x.toBank[i]? = some msg)
      (hdelivers : Delivers cfg x.bank ⟨env, msg⟩ s') :
      Steps cfg dcfg x (.bank i env) (x.handled (x.toBank.eraseIdx i) ⟨env, msg⟩ s')
  | arrives (d : Delivery) (s' : State) (hnone : d.msg.subjects = [])
      (hdelivers : Delivers cfg x.bank d s') :
      Steps cfg dcfg x (.arrives d) (x.handled x.toBank d s')
  | operator (env : Env) (msg : Cli) (s' : State)
      (hdelivers : Delivers cfg x.bank ⟨env, .cli msg⟩ s') :
      Steps cfg dcfg x (.operator env msg) { x with bank := s' }
  | dealer (i : Nat) (env : DealerEnv) (msg : Message) (t' : DealerState)
      (hmsg : x.toDealer[i]? = some msg)
      (hdelivers : DealerDelivers dcfg x.dealer ⟨env, .bank msg⟩ t') :
      Steps cfg dcfg x (.dealer i env) (x.answered (x.toDealer.eraseIdx i) t')
  | exchange (env : DealerEnv) (msg : KolliderApiResponse) (t' : DealerState)
      (hdelivers : DealerDelivers dcfg x.dealer ⟨env, .kollider msg⟩ t') :
      Steps cfg dcfg x (.exchange env msg) (x.answered x.toDealer t')
  | paid (i : Nat) (lnd : Lnd) (t : PaymentTask) (res : PaymentResult)
      (ht : x.tasks[i]? = some t) (hrun : t.run lnd = .ok res) :
      Steps cfg dcfg x (.pays i lnd)
        { x with
          toBank := x.toBank ++ [.bank (.paymentResult res)]
          tasks := x.tasks.eraseIdx i }
  | stopped (i : Nat) (lnd : Lnd) (t : PaymentTask) (p : Panic) (ht : x.tasks[i]? = some t)
      (hrun : t.run lnd = .error p) :
      Steps cfg dcfg x (.pays i lnd) { x with tasks := x.tasks.eraseIdx i }
  | lost (i : Nat) : Steps cfg dcfg x (.lost i) { x with toDealer := x.toDealer.eraseIdx i }

theorem Platform.steps_of_step {x x' : Platform} {e : PlatformEvent}
    (h : x.step cfg dcfg e = some x') : x.Steps cfg dcfg e x' := by
  cases e with
  | ask msg =>
    rw [← Option.some.inj h]
    exact .ask msg
  | bank i env =>
    obtain ⟨msg, hmsg, h⟩ := Option.bind_eq_some_iff.mp h
    obtain ⟨s', hs', h⟩ := Option.bind_eq_some_iff.mp h
    rw [← Option.some.inj h]
    exact .bank i env msg s' hmsg (eq_ok_of_toOption hs')
  | arrives d =>
    simp only [Platform.step] at h
    split at h
    next hnone =>
      obtain ⟨s', hs', h⟩ := Option.bind_eq_some_iff.mp h
      rw [← Option.some.inj h]
      exact .arrives d s' hnone (eq_ok_of_toOption hs')
    next => exact absurd h (by simp)
  | operator env msg =>
    obtain ⟨s', hs', h⟩ := Option.bind_eq_some_iff.mp h
    rw [← Option.some.inj h]
    exact .operator env msg s' (eq_ok_of_toOption hs')
  | dealer i env =>
    obtain ⟨msg, hmsg, h⟩ := Option.bind_eq_some_iff.mp h
    obtain ⟨t', ht', h⟩ := Option.bind_eq_some_iff.mp h
    rw [← Option.some.inj h]
    exact .dealer i env msg t' hmsg (eq_ok_of_toOption ht')
  | exchange env msg =>
    obtain ⟨t', ht', h⟩ := Option.bind_eq_some_iff.mp h
    rw [← Option.some.inj h]
    exact .exchange env msg t' (eq_ok_of_toOption ht')
  | pays i lnd =>
    obtain ⟨t, ht, h⟩ := Option.bind_eq_some_iff.mp h
    cases hrun : t.run lnd with
    | ok res =>
      simp only [hrun] at h
      rw [← Option.some.inj h]
      exact .paid i lnd t res ht hrun
    | error p =>
      simp only [hrun] at h
      rw [← Option.some.inj h]
      exact .stopped i lnd t p ht hrun
  | lost i =>
    rw [← Option.some.inj h]
    exact .lost i

/-- What the bank hands on comes from the message it handled, or it asked for it. -/
theorem Platform.total_handled (x : Platform) (toBank : List Message) {d : Delivery} {s' : State}
    (h : Delivers cfg x.bank d s') :
    (x.handled toBank d s').total σ ≤ told σ toBank + told σ x.toDealer + told σ x.toApi +
      x.tasks.countP (·.subject = σ) + x.bank.stored σ +
      (d.msg.about σ + (drawn d.env d.msg).count σ) := by
  have hle := h.inHand_le (σ := σ)
  have hsent := told_sentTo_le (σ := σ) s'
  have hthreads := congrArg (List.countP (·.subject = σ)) h.threads_append
  rw [List.countP_append] at hthreads
  unfold inHand at hle
  unfold Platform.total Platform.handled
  dsimp only
  rw [told_append, told_append, told_append, List.countP_append]
  omega

/-- What the dealer answers comes from the message it handled. -/
theorem Platform.total_answered (x : Platform) (toDealer : List Message) {d : DealerDelivery}
    {t' : DealerState} (h : DealerDelivers dcfg x.dealer d t') :
    (x.answered toDealer t').total σ ≤ told σ x.toBank + told σ toDealer + told σ x.toApi +
      x.tasks.countP (·.subject = σ) + x.bank.stored σ + d.input.about σ := by
  obtain ⟨new, hsent, hle⟩ := h.saysAtMost (σ := σ)
  unfold Platform.total Platform.answered
  dsimp only
  rw [hsent, List.drop_left, told_append]
  omega

/-- Nothing is answered twice or without being asked. -/
def Platform.Covered (x : Platform) : Prop := ∀ σ, x.total σ ≤ x.asked.count σ

theorem PaymentTask.about_result {t : PaymentTask} {lnd : Lnd} {res : PaymentResult}
    (h : t.run lnd = .ok res) :
    (Message.bank (.paymentResult res)).about σ = [t.subject].count σ := by
  rw [PaymentTask.eq_result_of_run h]
  unfold PaymentTask.result
  split
  · rfl
  · rfl

theorem Platform.Covered.step {x x' : Platform} {e : PlatformEvent} (hx : x.Covered)
    (h : x.step cfg dcfg e = some x') : x'.Covered := by
  intro σ
  have hx := hx σ
  unfold Platform.total at hx
  cases Platform.steps_of_step h with
  | ask msg =>
    unfold Platform.total
    dsimp only
    rw [told_append, told_cons, told_nil, List.count_append]
    have habout : (Message.api msg).about σ = msg.subjects.count σ := rfl
    omega
  | bank i env msg s' hmsg hdelivers =>
    have hle := Platform.total_handled (σ := σ) x (x.toBank.eraseIdx i) hdelivers
    have htake := told_eraseIdx (σ := σ) hmsg
    show _ ≤ (x.asked ++ drawn env msg).count σ
    rw [List.count_append]
    dsimp only at hle
    omega
  | arrives d s' hnone hdelivers =>
    have hle := Platform.total_handled (σ := σ) x x.toBank hdelivers
    have habout : d.msg.about σ = 0 := Message.about_eq_zero hnone
    show _ ≤ (x.asked ++ drawn d.env d.msg).count σ
    rw [List.count_append]
    omega
  | operator env msg s' hdelivers =>
    -- the operator's message is about no subject
    have hle := hdelivers.inHand_le (σ := σ)
    have hthreads := congrArg (List.countP (·.subject = σ)) hdelivers.threads_append
    rw [List.countP_append] at hthreads
    have habout : (Message.cli msg).about σ + (drawn env (.cli msg)).count σ = 0 := rfl
    unfold inHand at hle
    dsimp only at hle
    unfold Platform.total
    dsimp only
    omega
  | dealer i env msg t' hmsg hdelivers =>
    have hle := Platform.total_answered (σ := σ) x (x.toDealer.eraseIdx i) hdelivers
    have htake := told_eraseIdx (σ := σ) hmsg
    have habout : (DealerInput.bank msg).about σ = msg.about σ := rfl
    show _ ≤ x.asked.count σ
    dsimp only at hle
    omega
  | exchange env msg t' hdelivers =>
    have hle := Platform.total_answered (σ := σ) x x.toDealer hdelivers
    have habout : (DealerInput.kollider msg).about σ = 0 := rfl
    show _ ≤ x.asked.count σ
    dsimp only at hle
    omega
  | paid i lnd t res ht hrun =>
    -- the task goes, and its result comes in its place
    have htake := countP_eraseIdx (σ := σ) ht
    have habout := PaymentTask.about_result (σ := σ) hrun
    unfold Platform.total
    dsimp only
    rw [told_append, told_cons, told_nil]
    omega
  | stopped i lnd t p ht hrun =>
    have htake := countP_eraseIdx (σ := σ) ht
    unfold Platform.total
    dsimp only
    omega
  | lost i =>
    have hle := told_eraseIdx_le (σ := σ) x.toDealer i
    unfold Platform.total
    dsimp only
    omega

/-! ## Runs -/

abbrev PlatformRun (cfg : Config) (dcfg : DealerConfig) :
    Platform → List PlatformEvent → Platform → Prop :=
  Trace fun x e x' => x.step cfg dcfg e = some x'

theorem Platform.Covered.start {bank : State} (hstore : bank.lnurlWithdrawalRequests = ∅)
    (dealer : DealerState) : (Platform.start bank dealer).Covered := by
  intro σ
  unfold Platform.total Platform.start State.stored
  dsimp only
  rw [hstore]
  exact le_refl 0

/-- **Nobody is answered who did not ask.** The API is told of a kind of request, an id
and a user at most as often as it asked, in every run. -/
theorem answers_le_asked {bank : State} {dealer : DealerState} {es : List PlatformEvent}
    {x : Platform} (hstore : bank.lnurlWithdrawalRequests = ∅)
    (run : PlatformRun cfg dcfg (.start bank dealer) es x) (σ : Subject) :
    told σ x.toApi ≤ x.asked.count σ := by
  have hcovered : x.Covered :=
    run.invariant (fun _ _ _ _ hx hstep => hx.step hstep) (.start hstore dealer)
  have hle := hcovered σ
  unfold Platform.total at hle
  omega

namespace Sample

/-- What holds of where the events lead to holds of some run. -/
theorem exists_platformRun (es : List PlatformEvent) (x : Platform) (P : Platform → Prop)
    [DecidablePred P] (h : (es.foldlM (fun x e => Platform.step config dealerConfig x e) x).any
      (fun x' => decide (P x')) = true) :
    ∃ x', PlatformRun config dealerConfig x es x' ∧ P x' := by
  cases hr : es.foldlM (fun x e => Platform.step config dealerConfig x e) x with
  | none =>
    rw [hr] at h
    exact absurd h (by simp)
  | some x' =>
    rw [hr] at h
    exact ⟨x', Trace.of_foldlM hr, by simpa using h⟩

/-- A user asks for a swap of dollars for dollars, which the dealer refuses, and for
her balances. -/
def askings : List PlatformEvent :=
  [.ask (.swapRequest ⟨1, 7, Money.new .USD 1, .USD, .USD, none⟩), .ask (.getBalances ⟨2, 7⟩),
    .bank 0 (env 1), .dealer 0 (dealerEnv 0), .bank 0 (env 2), .bank 0 (env 3)]

end Sample

/-- Both are answered once. -/
theorem answers_le_asked_sample : ∃ x,
    PlatformRun Sample.config Sample.dealerConfig (.start Sample.state Sample.dealer)
      Sample.askings x ∧
    told ⟨.swap, 1, some 7⟩ x.toApi = 1 ∧ told ⟨.balances, 2, some 7⟩ x.toApi = 1 ∧
    ∀ σ, told σ x.toApi ≤ x.asked.count σ := by
  obtain ⟨x, hrun, hswap, hbalances⟩ := Sample.exists_platformRun Sample.askings
    (.start Sample.state Sample.dealer)
    (fun x => told ⟨.swap, 1, some 7⟩ x.toApi = 1 ∧ told ⟨.balances, 2, some 7⟩ x.toApi = 1)
    (by decide +kernel)
  exact ⟨x, hrun, hswap, hbalances, fun σ => answers_le_asked rfl hrun σ⟩

end Lndhubx
