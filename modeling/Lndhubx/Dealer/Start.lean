import Lndhubx.Dealer.Spec

/-!
# The dealer's loop

`start` of `dealer/src/lib.rs`. The loop receives messages of the bank at two
points: once the exchange's data are there but not the bank's state, it asks for
the state and waits for it, and otherwise it takes what the socket has. What is
received while waiting and is not a `BankState` is dropped, so the dealer passes
on every message of the bank exactly if a `BankState` is next whenever it waits
for one (`lossless_iff`).

The bank's socket is a queue that messages may be added to at any time. A frame
that cannot be decoded is not a message and is left out, as are the metrics and
the timers that only send (`check_health`, `sweep_excess_funds`).
-/

namespace Lndhubx

open DealerEngine

/-- Where the loop is: at its top, at the receive that waits for the bank's
state, at the other one, at the exchange's channel, at the timers; or a panic has
ended the process. -/
inductive LoopPoint where
  | top
  | waiting
  | bankRecv
  | kolliderRecv
  | timers
  | stopped
  deriving DecidableEq

/-- The dealer in its loop: what waits on the bank's socket, what was received
from it, and what of that was passed to `process_msg`. -/
structure DealerLoop where
  dealer : DealerState
  point : LoopPoint
  bankRecv : List Message
  received : List Message
  passed : List Message

inductive LoopEvent where
  /-- The bank sends a message. -/
  | arrives (msg : Message)
  /-- The check at the top, with the UUID of a request for the bank's state. -/
  | enters (reqId : Uuid)
  /-- A receive returns a message, or fails. -/
  | receives (env : DealerEnv)
  | receivesNothing
  /-- The exchange's channel has a message, or not. -/
  | reports (env : DealerEnv) (msg : KolliderApiResponse)
  | reportsNothing
  /-- The risk is checked, or it is not time yet. -/
  | checksRisk (env : DealerEnv)
  | skipsTimers

namespace DealerLoop

def new (dealer : DealerState) : DealerLoop := ⟨dealer, .top, [], [], []⟩

/-- Before we proceed we have to have received a bank state message. -/
def awaitsState (g : DealerLoop) : Bool := !hasBankState g.dealer && isReady g.dealer

def isBankState : Message → Bool
  | .dealer (.bankState _) => true
  | _ => false

/-- The next message is taken from the bank's socket. -/
def take (g : DealerLoop) (msg : Message) (rest : List Message) : DealerLoop :=
  { g with bankRecv := rest, received := g.received ++ [msg] }

/-- The dealer does something and the loop goes on, unless it panics. -/
def goOn (g : DealerLoop) (result : Checked DealerState) (next : LoopPoint) : DealerLoop :=
  match result with
  | .ok dealer => { g with dealer, point := next }
  | .error _ => { g with point := .stopped }

/-- A message of the bank is passed to `process_msg`. -/
def passOn (cfg : DealerConfig) (env : DealerEnv) (g : DealerLoop) (msg : Message)
    (next : LoopPoint) : DealerLoop :=
  { g with passed := g.passed ++ [msg] }.goOn
    (DealerEngine.deliver cfg ⟨env, .bank msg⟩ g.dealer) next

/-- What an event does where the loop is, if it can happen there. -/
def step (cfg : DealerConfig) (g : DealerLoop) : LoopEvent → Option DealerLoop
  | .arrives msg => some { g with bankRecv := g.bankRecv ++ [msg] }
  | .enters reqId =>
    if g.point ≠ .top then none
    else if g.awaitsState then
      some { g with
        point := .waiting
        dealer := { g.dealer with
          sent := g.dealer.sent ++ [.dealer (.bankStateRequest { reqId })] } }
    else some { g with point := .bankRecv }
  | .receives env =>
    match g.point, g.bankRecv with
    | .waiting, msg :: rest =>
      if isBankState msg then some ((g.take msg rest).passOn cfg env msg .bankRecv)
      else some (g.take msg rest)
    | .bankRecv, msg :: rest => some ((g.take msg rest).passOn cfg env msg .kolliderRecv)
    | _, _ => none
  | .receivesNothing =>
    match g.point with
    | .waiting => some { g with point := .bankRecv }
    | .bankRecv => some { g with point := .kolliderRecv }
    | _ => none
  | .reports env msg =>
    if g.point = .kolliderRecv then
      some (g.goOn (DealerEngine.deliver cfg ⟨env, .kollider msg⟩ g.dealer) .timers)
    else none
  | .reportsNothing =>
    if g.point = .kolliderRecv then some { g with point := .timers } else none
  | .checksRisk env =>
    if g.point = .timers ∧ hasBankState g.dealer then
      some (g.goOn ((·.2) <$> checkRisk cfg env g.dealer) .top)
    else none
  | .skipsTimers => if g.point = .timers then some { g with point := .top } else none

end DealerLoop

/-- Runs of the loop. -/
abbrev LoopRun (cfg : DealerConfig) : DealerLoop → List LoopEvent → DealerLoop → Prop :=
  Trace fun g e g' => g.step cfg e = some g'

/-- Runs of the loop whose steps meet a condition. -/
abbrev LoopRunWith (cfg : DealerConfig) (C : DealerLoop → LoopEvent → DealerLoop → Prop) :
    DealerLoop → List LoopEvent → DealerLoop → Prop :=
  Trace fun g e g' => C g e g' ∧ g.step cfg e = some g'

/-- Every message of the bank that was received has been passed on, once and in
order. -/
def DealerLoop.Lossless (g : DealerLoop) : Prop := g.passed = g.received

/-- If the loop waits for the bank's state and receives a message, it is one. -/
def DealerLoop.StateNext (g : DealerLoop) (e : LoopEvent) : Prop :=
  g.point = .waiting → (∃ env, e = .receives env) →
    ∃ b rest, g.bankRecv = .dealer (.bankState b) :: rest

namespace DealerLoop

variable {cfg : DealerConfig} {g g' : DealerLoop} {e : LoopEvent}

@[simp] theorem goOn_received (result : Checked DealerState) (next : LoopPoint) :
    (g.goOn result next).received = g.received := by
  unfold goOn
  cases result with
  | ok dealer => rfl
  | error p => rfl

@[simp] theorem goOn_passed (result : Checked DealerState) (next : LoopPoint) :
    (g.goOn result next).passed = g.passed := by
  unfold goOn
  cases result with
  | ok dealer => rfl
  | error p => rfl

theorem isBankState_iff {msg : Message} :
    isBankState msg = true ↔ ∃ b, msg = .dealer (.bankState b) := by
  constructor
  · intro h
    cases msg with
    | dealer d =>
      cases d with
      | bankState b => exact ⟨b, rfl⟩
      | _ => exact absurd h (by simp [isBankState])
    | _ => exact absurd h (by simp [isBankState])
  · intro h
    obtain ⟨b, rfl⟩ := h
    rfl

theorem StateNext.of_event (h : ∀ env, e ≠ .receives env) : g.StateNext e := by
  intro _ hr
  obtain ⟨env, hr⟩ := hr
  exact absurd hr (h env)

/-- A receive takes a message from the queue, and passes it on unless the loop
was waiting for another. -/
theorem step_receives {env : DealerEnv} (h : g.step cfg (.receives env) = some g') :
    ∃ msg rest, g.bankRecv = msg :: rest ∧ g'.received = g.received ++ [msg] ∧
      (g'.passed = g.passed ++ [msg] ∧ (g.point = .waiting → isBankState msg = true) ∨
        g'.passed = g.passed ∧ g.point = .waiting ∧ isBankState msg = false) := by
  simp only [step] at h
  split at h
  next msg rest hpoint hqueue =>
    refine ⟨msg, rest, hqueue, ?_⟩
    by_cases hstate : isBankState msg = true
    · rw [if_pos hstate] at h
      injection h with h
      rw [← h]
      exact ⟨goOn_received _ _, .inl ⟨goOn_passed _ _, fun _ => hstate⟩⟩
    · rw [if_neg hstate] at h
      injection h with h
      rw [← h]
      exact ⟨rfl, .inr ⟨rfl, hpoint, by simpa using hstate⟩⟩
  next msg rest hpoint hqueue =>
    injection h with h
    rw [← h]
    refine ⟨msg, rest, hqueue, goOn_received _ _, .inl ⟨goOn_passed _ _, fun hw => ?_⟩⟩
    rw [hpoint] at hw
    exact absurd hw (by decide)
  next => exact absurd h (by simp)

/-- Nothing else is received or passed on. -/
theorem step_other (h : g.step cfg e = some g') (he : ∀ env, e ≠ .receives env) :
    g'.received = g.received ∧ g'.passed = g.passed := by
  cases e with
  | receives env => exact absurd rfl (he env)
  | arrives msg =>
    injection h with h
    rw [← h]
    exact ⟨rfl, rfl⟩
  | enters reqId =>
    simp only [step] at h
    split at h
    next => exact absurd h (by simp)
    next =>
      split at h
      next => injection h with h; rw [← h]; exact ⟨rfl, rfl⟩
      next => injection h with h; rw [← h]; exact ⟨rfl, rfl⟩
  | receivesNothing =>
    simp only [step] at h
    split at h
    next => injection h with h; rw [← h]; exact ⟨rfl, rfl⟩
    next => injection h with h; rw [← h]; exact ⟨rfl, rfl⟩
    next => exact absurd h (by simp)
  | reports env msg =>
    simp only [step] at h
    split at h
    next => injection h with h; rw [← h]; exact ⟨goOn_received _ _, goOn_passed _ _⟩
    next => exact absurd h (by simp)
  | reportsNothing =>
    simp only [step] at h
    split at h
    next => injection h with h; rw [← h]; exact ⟨rfl, rfl⟩
    next => exact absurd h (by simp)
  | checksRisk env =>
    simp only [step] at h
    split at h
    next => injection h with h; rw [← h]; exact ⟨goOn_received _ _, goOn_passed _ _⟩
    next => exact absurd h (by simp)
  | skipsTimers =>
    simp only [step] at h
    split at h
    next => injection h with h; rw [← h]; exact ⟨rfl, rfl⟩
    next => exact absurd h (by simp)

/-- A loop that has lost nothing loses nothing in a step exactly if the message
it waits for is next. -/
theorem Lossless.step_iff (hg : g.Lossless) (h : g.step cfg e = some g') :
    g'.Lossless ↔ g.StateNext e := by
  unfold Lossless at hg ⊢
  by_cases he : ∃ env, e = .receives env
  · obtain ⟨env, rfl⟩ := he
    obtain ⟨msg, rest, hqueue, hreceived, ⟨hpassed, hstate⟩ | ⟨hpassed, hpoint, hstate⟩⟩ :=
      step_receives h
    · refine ⟨fun _ hw _ => ?_, fun _ => by rw [hpassed, hreceived, hg]⟩
      obtain ⟨b, rfl⟩ := isBankState_iff.mp (hstate hw)
      exact ⟨b, rest, hqueue⟩
    · constructor
      · intro heq
        rw [hpassed, hreceived, hg] at heq
        exact absurd heq (by simp)
      · intro hnext
        obtain ⟨b, rest', hqueue'⟩ := hnext hpoint ⟨env, rfl⟩
        rw [hqueue] at hqueue'
        injection hqueue' with hmsg
        rw [hmsg] at hstate
        exact absurd hstate (by simp [isBankState])
  · have he : ∀ env, e ≠ .receives env := fun env h => he ⟨env, h⟩
    obtain ⟨hreceived, hpassed⟩ := step_other h he
    rw [hreceived, hpassed]
    exact ⟨fun _ => .of_event he, fun _ => hg⟩

/-- In a run of the loop every message that is received is passed on exactly if,
whenever the loop waits for the bank's state, a `BankState` is received next. -/
theorem lossless_iff {dealer : DealerState} {l : List LoopEvent} :
    LoopRunWith cfg (fun _ _ g' => g'.Lossless) (.new dealer) l g ↔
      LoopRunWith cfg (fun g e _ => g.StateNext e) (.new dealer) l g := by
  have hnew : (new dealer).Lossless := rfl
  constructor
  · intro h
    refine (h.restrict_mono (I := Lossless) hnew fun g e g' _ hg hstep hlossless => ?_).1
    exact ⟨(hg.step_iff hstep).mp hlossless, hlossless⟩
  · intro h
    refine (h.restrict_mono (I := Lossless) hnew fun g e g' _ hg hstep hnext => ?_).1
    have hlossless := (hg.step_iff hstep).mpr hnext
    exact ⟨hlossless, hlossless⟩

end DealerLoop

namespace Sample

/-- A turn of the loop in which the exchange reports something. -/
def turn (msg : KolliderApiResponse) : List LoopEvent :=
  [.enters 1, .receivesNothing, .reports (dealerEnv 1) msg, .skipsTimers]

/-- A user changes a dollar to bitcoin. -/
def swapDollar : Message := .api (.swapRequest ⟨2, 7, ⟨.USD, 1⟩, .USD, .BTC, none⟩)

/-- The exchange is connected, and a swap arrives before the bank's state. -/
def swapTooEarly : List LoopEvent :=
  turn (.authenticate "success") ++ turn (.positions ∅) ++ turn (.tradableSymbols []) ++
    [.arrives swapDollar, .enters 3, .receives (dealerEnv 2)]

end Sample

/-- A swap that the dealer receives while it waits for the bank's state is not
passed on. -/
theorem swap_dropped_while_waiting : ∃ g,
    LoopRun Sample.dealerConfig (.new Sample.dealer) Sample.swapTooEarly g ∧
      g.received = [Sample.swapDollar] ∧ g.passed = [] ∧ ¬g.Lossless := by
  have hrun : ∃ g, Sample.swapTooEarly.foldlM (fun g e => g.step Sample.dealerConfig e)
      (DealerLoop.new Sample.dealer) = some g ∧ g.received = [Sample.swapDollar] ∧ g.passed = [] :=
    ⟨_, rfl, rfl, rfl⟩
  obtain ⟨g, hrun, hreceived, hpassed⟩ := hrun
  refine ⟨g, Trace.of_foldlM hrun, hreceived, hpassed, fun h => ?_⟩
  unfold DealerLoop.Lossless at h
  rw [hreceived, hpassed] at h
  exact absurd h (by simp)

end Lndhubx
