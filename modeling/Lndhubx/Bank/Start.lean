import Lndhubx.Bank.Traffic

/-!
# The bank's loop and its own queues

`start` of `bank/src/lib.rs`. One turn of the loop takes at most one message from
each of its inputs, one from the loopback queue and one entry from the journal.
Both queues are filled by the handlers, through the listener, with sends that
block while the queue is full; as the loop itself is what drains them, a send to
a full queue blocks for ever.

A message does not block if both queues have room for what its kind may add to
them (`HasRoom`, `load`), and a loop that handles only such messages never blocks
(`room_keeps_running`). Nothing makes sure of it: a rebalance with more settings
than the queue holds blocks the loop at once (`rebalance_blocks`).

The operator's tool has a listener of its own, which fills no queue. What the
sockets and the channels deliver is any message; the metrics and the
reconciliation between the turns send nothing and are left out.
-/

namespace Lndhubx

open Prog BankEngine

def QUEUE_CAPACITY : Nat := 1024

/-- Where the loop is: at one of its inputs, in their order, or at the end of a
handler that blocks or panics. -/
inductive BankPoint where
  | paymentThread
  | api
  | invoice
  | dca
  | dealer
  | nostr
  | priority
  | journal
  | cli
  | blocked
  | stopped
  deriving DecidableEq

def BankPoint.next : BankPoint → BankPoint
  | paymentThread => api
  | api => invoice
  | invoice => dca
  | dca => dealer
  | dealer => nostr
  | nostr => priority
  | priority => journal
  | journal => cli
  | cli => paymentThread
  | blocked => blocked
  | stopped => stopped

/-- The sockets and channels that are filled from outside. -/
def BankPoint.isInput : BankPoint → Bool
  | paymentThread | api | invoice | dca | dealer | nostr => true
  | _ => false

structure BankLoop where
  bank : State
  point : BankPoint
  priority : List Message
  journal : List Message

inductive BankEvent where
  /-- An input has a message, or none. -/
  | receives (env : Env) (msg : Message)
  | receivesNothing
  /-- One of the loop's own queues is drained by one message, if there is one. -/
  | drains (env : Env)

namespace BankLoop

def new (bank : State) : BankLoop := ⟨bank, .paymentThread, [], []⟩

/-- What a handler gave to the listener for one destination. -/
def sentTo (destination : ServiceIdentity) (s : State) : List Message :=
  (s.sent.filter (·.2 = destination)).map (·.1)

/-- `process_msg(msg, &mut listener)`: the handler's messages are queued, if
there is room for them. -/
def handle (cfg : Config) (g : BankLoop) (d : Delivery) : BankLoop :=
  match deliver cfg d g.bank with
  | .ok s =>
    let priority := g.priority ++ sentTo .loopback s
    let journal := g.journal ++ sentTo .journal s
    if priority.length ≤ QUEUE_CAPACITY ∧ journal.length ≤ QUEUE_CAPACITY then
      { bank := s, point := g.point.next, priority, journal }
    else { g with point := .blocked }
  | .error _ => { g with point := .stopped }

/-- `process_msg(msg, &mut cli_listener)`. -/
def handleCli (cfg : Config) (g : BankLoop) (d : Delivery) : BankLoop :=
  match deliver cfg d g.bank with
  | .ok s => { g with bank := s, point := g.point.next }
  | .error _ => { g with point := .stopped }

def step (cfg : Config) (g : BankLoop) : BankEvent → Option BankLoop
  | .receives env msg =>
    if g.point.isInput then some (g.handle cfg ⟨env, msg⟩)
    else if g.point = .cli then some (g.handleCli cfg ⟨env, msg⟩)
    else none
  | .receivesNothing =>
    if g.point.isInput ∨ g.point = .cli then some { g with point := g.point.next } else none
  | .drains env =>
    if g.point = .priority then
      match g.priority with
      | [] => some { g with point := g.point.next }
      | msg :: rest => some ({ g with priority := rest }.handle cfg ⟨env, msg⟩)
    else if g.point = .journal then
      some { g with journal := g.journal.tail, point := g.point.next }
    else none

end BankLoop

/-- Runs of the loop. -/
abbrev BankLoopRun (cfg : Config) : BankLoop → List BankEvent → BankLoop → Prop :=
  Trace fun g e g' => g.step cfg e = some g'

/-- The loop has not blocked, and neither queue holds more than it can. -/
structure BankLoop.Running (g : BankLoop) : Prop where
  free : g.point ≠ .blocked
  priority : g.priority.length ≤ QUEUE_CAPACITY
  journal : g.journal.length ≤ QUEUE_CAPACITY

/-- The most loopback messages a handler sends, and the most journal entries. -/
def loopbackLoad (env : Env) (msg : Message) : Nat := (load env 0 msg).1

def journalLoad (env : Env) (msg : Message) : Nat := (load env 0 msg).2.1

/-- Both queues can take what handling the next message may add to them. -/
def BankLoop.HasRoom (g : BankLoop) : BankEvent → Prop
  | .receives env msg => g.point.isInput = true →
      g.priority.length + loopbackLoad env msg ≤ QUEUE_CAPACITY ∧
      g.journal.length + journalLoad env msg ≤ QUEUE_CAPACITY
  | .drains env => g.point = .priority → ∀ msg rest, g.priority = msg :: rest →
      rest.length + loopbackLoad env msg ≤ QUEUE_CAPACITY ∧
      g.journal.length + journalLoad env msg ≤ QUEUE_CAPACITY
  | .receivesNothing => True

namespace BankLoop

variable {cfg : Config} {g g' : BankLoop}

/-- What the messages for the two queues add to the meter. -/
theorem sum_sentMeter (r : RequestId) (l : List (Message × ServiceIdentity)) :
    ((l.map (sentMeter r)).sum).1 = (l.filter (·.2 = .loopback)).length ∧
      ((l.map (sentMeter r)).sum).2.1 = (l.filter (·.2 = .journal)).length := by
  induction l with
  | nil => exact ⟨rfl, rfl⟩
  | cons e l ih =>
    rw [List.map_cons, List.sum_cons, List.filter_cons, List.filter_cons, Prod.fst_add,
      Prod.snd_add, Prod.fst_add, ih.1, ih.2]
    constructor
    · by_cases h : e.2 = .loopback
      · simp [sentMeter, h, Nat.add_comm]
      · simp [sentMeter, h]
    · by_cases h : e.2 = .journal
      · simp [sentMeter, h, Nat.add_comm]
      · simp [sentMeter, h]

/-- A handler sends no more than the load of its message. -/
theorem length_sentTo_le {s s' : State} {d : Delivery} (h : Delivers cfg s d s') :
    (sentTo .loopback s').length ≤ loopbackLoad d.env d.msg ∧
      (sentTo .journal s').length ≤ journalLoad d.env d.msg := by
  have hle : meter 0 s' ≤ meter 0 { s with sent := [] } + load d.env 0 d.msg :=
    h.ensures (processMsg_raises d.msg _)
  obtain ⟨hloop, hjournal, -⟩ := hle
  obtain ⟨hl, hj⟩ := sum_sentMeter 0 s'.sent
  unfold meter at hloop hjournal
  rw [Prod.fst_add, hl] at hloop
  rw [Prod.snd_add, Prod.fst_add, hj] at hjournal
  unfold sentTo
  rw [List.length_map, List.length_map]
  exact ⟨by simpa [loopbackLoad] using hloop, by simpa [journalLoad] using hjournal⟩

theorem Running.of_point (hg : g.Running) {point : BankPoint} (h : point ≠ .blocked) :
    ({ g with point } : BankLoop).Running := ⟨h, hg.priority, hg.journal⟩

theorem next_ne_blocked {p : BankPoint} (h : p ≠ .blocked) : p.next ≠ .blocked := by
  cases p with
  | blocked => exact absurd rfl h
  | _ => exact fun h => by cases h

theorem Running.handle (hg : g.Running) {d : Delivery}
    (hp : g.priority.length + loopbackLoad d.env d.msg ≤ QUEUE_CAPACITY)
    (hj : g.journal.length + journalLoad d.env d.msg ≤ QUEUE_CAPACITY) :
    (g.handle cfg d).Running := by
  unfold BankLoop.handle
  cases hd : deliver cfg d g.bank with
  | error e => exact hg.of_point (by decide)
  | ok s =>
    obtain ⟨hl, hjl⟩ := length_sentTo_le hd
    have hroom : (g.priority ++ sentTo .loopback s).length ≤ QUEUE_CAPACITY ∧
        (g.journal ++ sentTo .journal s).length ≤ QUEUE_CAPACITY := by
      rw [List.length_append, List.length_append]
      omega
    dsimp only
    rw [if_pos hroom]
    exact ⟨next_ne_blocked hg.free, hroom.1, hroom.2⟩

/-- A step with room for what it adds does not block. -/
theorem Running.step (hg : g.Running) {e : BankEvent} (hroom : g.HasRoom e)
    (h : g.step cfg e = some g') : g'.Running := by
  cases e with
  | receives env msg =>
    simp only [BankLoop.step] at h
    split at h
    next hinput =>
      injection h with h
      obtain ⟨hp, hj⟩ := hroom hinput
      rw [← h]
      exact hg.handle hp hj
    next =>
      split at h
      next =>
        injection h with h
        rw [← h]
        unfold handleCli
        cases deliver cfg ⟨env, msg⟩ g.bank with
        | error e => exact hg.of_point (by decide)
        | ok s => exact ⟨next_ne_blocked hg.free, hg.priority, hg.journal⟩
      next => exact absurd h (by simp)
  | receivesNothing =>
    simp only [BankLoop.step] at h
    split at h
    next =>
      injection h with h
      rw [← h]
      exact hg.of_point (next_ne_blocked hg.free)
    next => exact absurd h (by simp)
  | drains env =>
    simp only [BankLoop.step] at h
    split at h
    next hpoint =>
      cases hq : g.priority with
      | nil =>
        rw [hq] at h
        injection h with h
        rw [← h]
        exact ⟨next_ne_blocked hg.free, Nat.zero_le _, hg.journal⟩
      | cons msg rest =>
        rw [hq] at h
        injection h with h
        obtain ⟨hp, hj⟩ := hroom hpoint msg rest hq
        have hrest : rest.length ≤ QUEUE_CAPACITY := (Nat.le_add_right _ _).trans hp
        rw [← h]
        exact Running.handle (g := { g with priority := rest }) ⟨hg.free, hrest, hg.journal⟩ hp hj
    next =>
      split at h
      next =>
        injection h with h
        rw [← h]
        refine ⟨next_ne_blocked hg.free, hg.priority, ?_⟩
        have hlen : g.journal.tail.length ≤ g.journal.length := by simp
        exact hlen.trans hg.journal
      next => exact absurd h (by simp)

/-- A loop in which both queues have room before every message never blocks. -/
theorem room_keeps_running {bank : State} {l : List BankEvent}
    (h : Trace (fun g e g' => g.HasRoom e ∧ g.step cfg e = some g') (new bank) l g) :
    g.Running := by
  refine h.invariant (I := Running) (fun g e g' _ hg hstep => hg.step hstep.1 hstep.2) ?_
  exact ⟨by simp [new], Nat.zero_le _, Nat.zero_le _⟩

end BankLoop

/-! ## A rebalance fills the loopback queue -/

/-- A setting whose currencies and amount can be read. -/
def DcaSetting.Readable (row : DcaSetting) : Prop :=
  (Currency.fromStr row.fromCurrency).isSome = true ∧
  (Currency.fromStr row.toCurrency).isSome = true ∧
    (Decimal.fromBigDecimal row.amount).isSome = true

theorem dcaSwap_sends (env : Env) (s : State) {row : DcaSetting} (i : Nat) (h : row.Readable) :
    ∃ req, dcaSwap env i row s =
      .ok ((), { s with sent := s.sent ++ [(.api (.swapRequest req), .loopback)] }) := by
  obtain ⟨c, hc⟩ := Option.isSome_iff_exists.mp h.1
  obtain ⟨c', hc'⟩ := Option.isSome_iff_exists.mp h.2.1
  obtain ⟨x, hx⟩ := Option.isSome_iff_exists.mp h.2.2
  refine ⟨⟨env.reqUuid i, asU64 row.uid, Money.new c x, c, c', none⟩, ?_⟩
  unfold dcaSwap
  rw [hc, hc', hx]
  rfl

/-- One message for each of the settings. -/
theorem dcaSwaps_send (env : Env) (s : State) {rows : List (DcaSetting × Nat)}
    (h : ∀ e ∈ rows, e.1.Readable) :
    ∃ reqs : List SwapRequest, reqs.length = rows.length ∧
      rows.forM (fun e => dcaSwap env e.2 e.1) s = .ok ((), { s with
        sent := s.sent ++ reqs.map fun r => (.api (.swapRequest r), .loopback) }) := by
  induction rows generalizing s with
  | nil =>
    refine ⟨[], rfl, ?_⟩
    rw [List.map_nil, List.append_nil]
    rfl
  | cons e rows ih =>
    obtain ⟨req, hreq⟩ := dcaSwap_sends env s e.2 (h e (List.mem_cons_self ..))
    obtain ⟨reqs, hlen, hreqs⟩ := ih
      { s with sent := s.sent ++ [(.api (.swapRequest req), .loopback)] }
      fun e' he' => h e' (List.mem_cons_of_mem e he')
    refine ⟨req :: reqs, by simp [hlen], ?_⟩
    show (dcaSwap env e.2 e.1 >>= fun _ => rows.forM fun e => dcaSwap env e.2 e.1) s = _
    rw [run_bind hreq, hreqs]
    simp

/-- A rebalance that reaches its settings blocks the loop if they are more than
the loopback queue has room for. -/
theorem rebalance_blocks (cfg : Config) {env : Env} {g : BankLoop} {msg : DcaRebalance}
    (hconn : env.db .conn = true) (hdca : env.db .dca = true)
    (hread : ∀ row ∈ env.directory.dcaByInterval msg.intervalName, row.Readable)
    (hfull : QUEUE_CAPACITY <
      g.priority.length + (env.directory.dcaByInterval msg.intervalName).length) :
    (g.handle cfg ⟨env, .bank (.dcaRebalance msg)⟩).point = .blocked := by
  have hrows : ∀ e ∈ (env.directory.dcaByInterval msg.intervalName).zipIdx, e.1.Readable :=
    fun e he => hread e.1 (List.fst_mem_of_mem_zipIdx he)
  obtain ⟨reqs, hlen, hrun⟩ := dcaSwaps_send env { g.bank with sent := [] } hrows
  have hd : deliver cfg ⟨env, .bank (.dcaRebalance msg)⟩ g.bank = .ok { g.bank with
      sent := reqs.map fun r => (.api (.swapRequest r), .loopback) } := by
    refine delivers_iff.mpr ?_
    show dcaRebalance env msg { g.bank with sent := [] } = _
    unfold dcaRebalance
    rw [hconn, hdca]
    exact hrun
  unfold BankLoop.handle
  rw [hd]
  have hall : BankLoop.sentTo .loopback { g.bank with
      sent := reqs.map fun r => (.api (.swapRequest r), .loopback) } =
        reqs.map fun r => .api (.swapRequest r) := by
    simp [BankLoop.sentTo, List.filter_map, Function.comp_def]
  dsimp only
  rw [hall, if_neg]
  rw [not_and_or, List.length_append, List.length_map, hlen, List.length_zipIdx]
  left
  omega

namespace Sample

/-- A user who buys bitcoin for a dollar every day. -/
def dailyBuyer (uid : Nat) : DcaSetting := ⟨uid, "1d", 1, "USD", "BTC"⟩

theorem dailyBuyer_readable (uid : Nat) : (dailyBuyer uid).Readable := by
  have hfrom : (Currency.fromStr "USD").isSome = true := by decide
  have hto : (Currency.fromStr "BTC").isSome = true := by decide
  have hamount : (Decimal.fromBigDecimal 1).isSome = true := by decide +kernel
  exact ⟨hfrom, hto, hamount⟩

/-- So many of them. -/
def dailyEnv (n : Nat) : Env :=
  { env 1 with
    directory := { (env 1).directory with dcaSettings := (List.range n).map dailyBuyer } }

theorem dailyEnv_settings (n : Nat) :
    (dailyEnv n).directory.dcaByInterval "1d" = (List.range n).map dailyBuyer := by
  refine List.filter_eq_self.mpr fun row hrow => ?_
  obtain ⟨uid, -, rfl⟩ := List.mem_map.mp hrow
  rfl

/-- The daily rebalance arrives on the channel of the task that plans it. -/
def rebalance (n : Nat) : List BankEvent :=
  [.receivesNothing, .receivesNothing, .receivesNothing,
    .receives (dailyEnv n) (.bank (.dcaRebalance ⟨"1d"⟩))]

theorem rebalance_run (n : Nat) : BankLoopRun config (.new state) (rebalance n)
    ((⟨state, .dca, [], []⟩ : BankLoop).handle config
      ⟨dailyEnv n, .bank (.dcaRebalance ⟨"1d"⟩)⟩) :=
  ((((Trace.nil _).snoc rfl).snoc rfl).snoc rfl).snoc rfl

theorem rebalance_readable (n : Nat) :
    ∀ row ∈ (dailyEnv n).directory.dcaByInterval "1d", row.Readable := by
  intro row hrow
  rw [dailyEnv_settings] at hrow
  obtain ⟨uid, -, rfl⟩ := List.mem_map.mp hrow
  exact dailyBuyer_readable uid

end Sample

/-- A rebalance with two settings is handled. -/
theorem small_rebalance_keeps_running : ∃ g, BankLoopRun Sample.config (.new Sample.state)
    (Sample.rebalance 2) g ∧ g.point = .dealer ∧ g.Running := by
  have hroom : (⟨Sample.state, .dca, [], []⟩ : BankLoop).HasRoom
      (.receives (Sample.dailyEnv 2) (.bank (.dcaRebalance ⟨"1d"⟩))) := by
    intro _
    have hload : loopbackLoad (Sample.dailyEnv 2) (.bank (.dcaRebalance ⟨"1d"⟩)) = 2 := by
      show ((Sample.dailyEnv 2).directory.dcaByInterval "1d").length = 2
      rw [Sample.dailyEnv_settings, List.length_map, List.length_range]
    rw [hload]
    exact ⟨by decide, by decide⟩
  have hpoint : ((⟨Sample.state, .dca, [], []⟩ : BankLoop).handle Sample.config
      ⟨Sample.dailyEnv 2, .bank (.dcaRebalance ⟨"1d"⟩)⟩).point = .dealer := by decide +kernel
  have hrun : Trace (fun g e g' => g.HasRoom e ∧ g.step Sample.config e = some g')
      (BankLoop.new Sample.state) (Sample.rebalance 2)
      ((⟨Sample.state, .dca, [], []⟩ : BankLoop).handle Sample.config
        ⟨Sample.dailyEnv 2, .bank (.dcaRebalance ⟨"1d"⟩)⟩) :=
    ((((Trace.nil _).snoc ⟨trivial, rfl⟩).snoc ⟨trivial, rfl⟩).snoc ⟨trivial, rfl⟩).snoc
      ⟨hroom, rfl⟩
  exact ⟨_, Sample.rebalance_run 2, hpoint, BankLoop.room_keeps_running hrun⟩

/-- The rebalance of 1025 settings blocks the loop for ever. -/
theorem large_rebalance_blocks : ∃ g, BankLoopRun Sample.config (.new Sample.state)
    (Sample.rebalance 1025) g ∧ g.point = .blocked ∧ ¬g.Running := by
  have hblocked : ((⟨Sample.state, .dca, [], []⟩ : BankLoop).handle Sample.config
      ⟨Sample.dailyEnv 1025, .bank (.dcaRebalance ⟨"1d"⟩)⟩).point = .blocked := by
    refine rebalance_blocks Sample.config rfl rfl (Sample.rebalance_readable 1025) ?_
    rw [Sample.dailyEnv_settings, List.length_map, List.length_range]
    decide
  exact ⟨_, Sample.rebalance_run 1025, hblocked, fun h => h.free hblocked⟩

end Lndhubx
