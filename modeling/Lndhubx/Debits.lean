import Lndhubx.Bank.Debits
import Lndhubx.Platform

/-!
# Nobody pays twice for one request

`Platform` bounds what is answered by what was asked. Here the same is done for what is
taken. An `Audit` is the platform with a list of the subjects for which money was taken
from a user so far. A request may reach the bank twice, when the dealer has to price it
in between, and a withdrawal is stored before it is paid; still, the orders that lie
about and the money that was taken are together no more than what was asked
(`Audit.Covered`), so every time something is taken from a user stands for a request of
hers, and no two for the same one (`charged_once`).

The operator's tool takes from whom it is told to, and is left out.
-/

namespace Lndhubx

open Prog

variable {cfg : Config} {dcfg : DealerConfig} {σ : Subject}

/-- What the bank handles. -/
def Platform.handles (x : Platform) : PlatformEvent → Option Message
  | .bank i _ => x.toBank[i]?
  | .arrives d => some d.msg
  | .operator _ msg => some (.cli msg)
  | _ => none

/-- For whom money was taken. -/
def Platform.takenBy (x : Platform) (e : PlatformEvent) (x' : Platform) : List Subject :=
  match x.handles e with
  | some msg => taken x.bank x'.bank msg
  | none => []

theorem Platform.takenBy_none {x : Platform} {e : PlatformEvent} (h : x.handles e = none)
    (x' : Platform) : x.takenBy e x' = [] := by
  unfold takenBy
  rw [h]

theorem Platform.takenBy_some {x : Platform} {e : PlatformEvent} {msg : Message}
    (h : x.handles e = some msg) (x' : Platform) :
    x.takenBy e x' = taken x.bank x'.bank msg := by
  unfold takenBy
  rw [h]

theorem Platform.mem_takenBy {x x' : Platform} {e : PlatformEvent} (h : σ ∈ x.takenBy e x') :
    ∃ msg, x.handles e = some msg ∧ σ ∈ msg.subjects := by
  unfold takenBy at h
  split at h
  next msg hmsg => exact ⟨msg, hmsg, List.mem_of_mem_filter h⟩
  next => exact absurd h List.not_mem_nil

/-- The platform, and for whom money was taken so far. -/
structure Audit where
  platform : Platform
  charged : List Subject

def Audit.start (bank : State) (dealer : DealerState) : Audit := ⟨.start bank dealer, []⟩

def Audit.step (cfg : Config) (dcfg : DealerConfig) (a : Audit) (e : PlatformEvent) :
    Option Audit := do
  let x' ← a.platform.step cfg dcfg e
  return ⟨x', a.charged ++ a.platform.takenBy e x'⟩

abbrev AuditRun (cfg : Config) (dcfg : DealerConfig) : Audit → List PlatformEvent → Audit → Prop :=
  Trace fun a e a' => a.step cfg dcfg e = some a'

/-- Every run of the platform can be audited. -/
theorem PlatformRun.audit {bank : State} {dealer : DealerState} {es : List PlatformEvent}
    {x : Platform} (run : PlatformRun cfg dcfg (.start bank dealer) es x) :
    ∃ charged, AuditRun cfg dcfg (.start bank dealer) es ⟨x, charged⟩ := by
  induction run with
  | nil => exact ⟨[], .nil _⟩
  | @snoc y x es e _ hstep ih =>
    obtain ⟨charged, hrun⟩ := ih
    refine ⟨charged ++ y.takenBy e x, hrun.snoc ?_⟩
    unfold Audit.step
    rw [hstep]
    rfl

/-- The orders on the way to the bank and to the dealer, and those that are stored. -/
def Platform.orders (σ : Subject) (x : Platform) : Nat :=
  ordered σ x.toBank + told σ x.toDealer + x.bank.stored σ

/-- What was taken, and what may still be taken, was asked. -/
def Audit.Covered (σ : Subject) (a : Audit) : Prop :=
  a.charged.count σ + a.platform.orders σ ≤ a.platform.asked.count σ

theorem ordered_eraseIdx {l : List Message} {i : Nat} {m : Message} (h : l[i]? = some m) :
    ordered σ l = m.orders σ + ordered σ (l.eraseIdx i) := by
  have hperm := (perm_cons_eraseIdx h).map (Message.orders σ)
  exact hperm.sum_eq

/-- After the bank has handled a message. -/
theorem Platform.orders_handled (x : Platform) (toBank : List Message) (d : Delivery) (s' : State) :
    (x.handled toBank d s').orders σ = ordered σ toBank + told σ x.toDealer + ordersLeft σ s' := by
  unfold orders handled ordersLeft
  dsimp only
  rw [ordered_append, told_append]
  omega

theorem Audit.Covered.step {a a' : Audit} {e : PlatformEvent} (ha : a.Covered σ)
    (h : a.step cfg dcfg e = some a') : a'.Covered σ := by
  obtain ⟨x, before⟩ := a
  obtain ⟨x', hstep, h⟩ := Option.bind_eq_some_iff.mp h
  have hstep : x.step cfg dcfg e = some x' := hstep
  rw [← Option.some.inj h]
  unfold Audit.Covered at ha ⊢
  rw [List.count_append]
  dsimp only at ha ⊢
  cases Platform.steps_of_step hstep with
  | ask msg =>
    rw [Platform.takenBy_none rfl, List.count_nil]
    unfold Platform.orders at *
    dsimp only
    rw [ordered_append, ordered_cons, ordered_nil, List.count_append]
    have horders : (Message.api msg).orders σ = msg.subjects.count σ := rfl
    omega
  | bank i env msg s' hmsg hdelivers =>
    -- the order leaves the queue: it is carried out, or passed on
    have hle := hdelivers.orders_le (σ := σ)
    have htake := ordered_eraseIdx (σ := σ) hmsg
    have hhandles : x.handles (.bank i env) = some msg := hmsg
    rw [Platform.orders_handled, Platform.takenBy_some hhandles]
    unfold Platform.orders at ha
    show _ ≤ (x.asked ++ drawn env msg).count σ
    rw [List.count_append]
    show _ + (taken x.bank s' msg).count σ + _ ≤ _
    dsimp only at hle
    omega
  | arrives d s' hnone hdelivers =>
    have hle := hdelivers.orders_le (σ := σ)
    have horders : d.msg.orders σ ≤ d.msg.about σ := Message.orders_le_about _
    rw [Message.about_eq_zero hnone] at horders
    rw [Platform.orders_handled, Platform.takenBy_some rfl]
    unfold Platform.orders at ha
    show _ ≤ (x.asked ++ drawn d.env d.msg).count σ
    rw [List.count_append]
    show _ + (taken x.bank s' d.msg).count σ + _ ≤ _
    omega
  | operator env msg s' hdelivers =>
    have hle := hdelivers.orders_le (σ := σ)
    -- whoever the operator takes from, it is for no subject
    have hnone : (Message.cli msg).orders σ + (drawn env (.cli msg)).count σ = 0 := rfl
    have htaken : x.takenBy (.operator env msg) { x with bank := s' } = [] := rfl
    rw [htaken, List.count_nil]
    unfold ordersLeft at hle
    unfold Platform.orders at *
    dsimp only at hle ⊢
    omega
  | dealer i env msg t' hmsg hdelivers =>
    -- the dealer answers an order with one order at most
    obtain ⟨new, hsent, hle⟩ := hdelivers.saysAtMost (σ := σ)
    have htake := told_eraseIdx (σ := σ) hmsg
    have habout : (DealerInput.bank msg).about σ = msg.about σ := rfl
    have hnew := ordered_le_told (σ := σ) new
    rw [Platform.takenBy_none rfl, List.count_nil]
    unfold Platform.orders Platform.answered at *
    dsimp only at hle ⊢
    rw [hsent, List.drop_left, ordered_append]
    omega
  | exchange env msg t' hdelivers =>
    obtain ⟨new, hsent, hle⟩ := hdelivers.saysAtMost (σ := σ)
    have habout : (DealerInput.kollider msg).about σ = 0 := rfl
    have hnew := ordered_le_told (σ := σ) new
    rw [Platform.takenBy_none rfl, List.count_nil]
    unfold Platform.orders Platform.answered at *
    dsimp only at hle ⊢
    rw [hsent, List.drop_left, ordered_append]
    omega
  | paid i lnd t res ht hrun =>
    have hresult : (Message.bank (.paymentResult res)).orders σ = 0 := rfl
    rw [Platform.takenBy_none rfl, List.count_nil]
    unfold Platform.orders at *
    dsimp only
    rw [ordered_append, ordered_cons, ordered_nil]
    omega
  | stopped i lnd t p ht hrun =>
    rw [Platform.takenBy_none rfl, List.count_nil]
    unfold Platform.orders at *
    dsimp only
    omega
  | lost i =>
    have hle := told_eraseIdx_le (σ := σ) x.toDealer i
    rw [Platform.takenBy_none rfl, List.count_nil]
    unfold Platform.orders at *
    dsimp only
    omega

/-- The bank handles a message, or its books stay as they are. -/
theorem Platform.step_handles {x x' : Platform} {e : PlatformEvent}
    (h : x.step cfg dcfg e = some x') :
    (∃ d, x.handles e = some d.msg ∧ Delivers cfg x.bank d x'.bank) ∨
      x.handles e = none ∧ x'.bank.ledger = x.bank.ledger := by
  cases Platform.steps_of_step h with
  | bank i env msg s' hmsg hdelivers => exact .inl ⟨⟨env, msg⟩, hmsg, hdelivers⟩
  | arrives d s' hnone hdelivers => exact .inl ⟨d, rfl, hdelivers⟩
  | operator env msg s' hdelivers => exact .inl ⟨⟨env, .cli msg⟩, rfl, hdelivers⟩
  | _ => exact .inr ⟨rfl, rfl⟩

/-- Where money is taken from a user, the operator's transfers apart, it is for a payment
or a swap of hers. -/
theorem Platform.exists_takenBy {x x' : Platform} {e : PlatformEvent}
    (h : x.step cfg dcfg e = some x') (hno : ∀ msg, x.handles e = some msg → ¬IsMakeTx msg)
    {uid : UserId} (htakes : x.bank.ledger.takes x'.bank.ledger uid = true) :
    ∃ σ ∈ x.takenBy e x', σ.Spends uid := by
  rcases x.step_handles h with ⟨d, hmsg, hdelivers⟩ | ⟨-, hsame⟩
  · rw [takenBy_some hmsg]
    exact hdelivers.exists_taken (hno d.msg hmsg) htakes
  · rw [hsame] at htakes
    obtain ⟨id, hlt⟩ := Ledger.takes_iff.mp htakes
    exact absurd hlt (lt_irrefl _)

/-- **Nobody pays twice for one request.** What is taken from users in a run is taken
for what was asked, each at most once; and whenever a user has less than before, it is
taken for a payment or a swap of hers. -/
theorem charged_once {bank : State} {dealer : DealerState} {es : List PlatformEvent} {a : Audit}
    (hstore : bank.lnurlWithdrawalRequests = ∅)
    (run : AuditRun cfg dcfg (.start bank dealer) es a) :
    a.charged.Subperm a.platform.asked ∧
      ∀ e x', a.platform.step cfg dcfg e = some x' →
        (∀ msg, a.platform.handles e = some msg → ¬IsMakeTx msg) →
        ∀ uid id, x'.bank.ledger.balanceAt (.user uid, id) <
            a.platform.bank.ledger.balanceAt (.user uid, id) →
          ∃ σ ∈ a.platform.takenBy e x', σ.Spends uid := by
  refine ⟨List.subperm_ext_iff.mpr fun σ _ => ?_, fun e x' hstep hno uid id hlt => ?_⟩
  · have hstart : (Audit.start bank dealer).Covered σ := by
      unfold Audit.Covered Audit.start Platform.orders Platform.start State.stored
      dsimp only
      rw [hstore]
      exact le_refl 0
    have hcovered : a.Covered σ :=
      run.invariant (fun _ _ _ _ ha hstep => ha.step hstep) hstart
    exact le_trans (Nat.le_add_right _ _) hcovered
  · exact Platform.exists_takenBy hstep hno (Ledger.takes_iff.mpr ⟨id, hlt⟩)

namespace Sample

/-- What holds of where the events lead to holds of some run. -/
theorem exists_auditRun (es : List PlatformEvent) (a : Audit) (P : Audit → Prop)
    [DecidablePred P] (h : (es.foldlM (fun a e => Audit.step config dealerConfig a e) a).any
      (fun a' => decide (P a')) = true) :
    ∃ a', AuditRun config dealerConfig a es a' ∧ P a' := by
  cases hr : es.foldlM (fun a e => Audit.step config dealerConfig a e) a with
  | none =>
    rw [hr] at h
    exact absurd h (by simp)
  | some a' =>
    rw [hr] at h
    exact ⟨a', Trace.of_foldlM hr, by simpa using h⟩

/-- Alice is paid from outside, and pays the shop. -/
def payings : List PlatformEvent :=
  [.arrives ⟨env 1, deposit⟩, .ask (.paymentRequest payShop), .bank 0 (env 2)]

end Sample

/-- She pays for what she asked. -/
theorem charged_once_sample : ∃ a,
    AuditRun Sample.config Sample.dealerConfig (.start Sample.state Sample.dealer)
      Sample.payings a ∧
    a.charged = [paymentSubject 1 7] ∧ a.charged.Subperm a.platform.asked := by
  obtain ⟨a, hrun, hcharged⟩ := Sample.exists_auditRun Sample.payings
    (.start Sample.state Sample.dealer) (fun a => a.charged = [paymentSubject 1 7])
    (by decide +kernel)
  exact ⟨a, hrun, hcharged, (charged_once rfl hrun).1⟩

end Lndhubx
