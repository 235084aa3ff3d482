import Lndhubx.Lib.Trace
import Lndhubx.Msgs

/-!
# The subscription to invoices

`LndConnector::sub_invoices`, which the bank spawns as a task. The loop opens a
subscription, reads one message from its stream, drops the stream and opens the
next one; where the call fails it sleeps first. The node streams every event of
an invoice that happens while a subscription is open, and nothing earlier.

So a deposit is sent for each settlement exactly if every settlement happens
while the loop waits for the first event of an open subscription
(`deposits_sent_iff`).
-/

namespace Lndhubx

inductive InvoiceState where
  | opened
  | settled
  | canceled
  | accepted
  deriving DecidableEq

/-- `lnrpc.Invoice`, as the stream carries it; bytes are in hexadecimal. -/
structure LnrpcInvoice where
  paymentRequest : String
  rHash : String
  descriptionHash : String
  rPreimage : String
  value : Int
  valueMsat : Int
  creationDate : Int
  settleDate : Int
  state : InvoiceState
  deriving DecidableEq

/-- `n as u64`. -/
def LnrpcInvoice.asU64 (n : Int) : Nat := (n % 2 ^ 64).toNat

/-- The deposit that is sent for a settled invoice. -/
def LnrpcInvoice.deposit (invoice : LnrpcInvoice) : Deposit where
  paymentRequest := invoice.paymentRequest
  paymentHash := invoice.rHash
  descriptionHash := invoice.descriptionHash
  preimage := invoice.rPreimage
  value := asU64 invoice.value
  valueMsat := asU64 invoice.valueMsat
  settled := true
  creationDate := asU64 invoice.creationDate
  settleDate := asU64 invoice.settleDate

/-- The loop and the node: the events of the open stream that were not read yet, if
a stream is open; whether one ever was; the invoices settled since; and what was
sent. -/
structure Subscriber where
  stream : Option (List LnrpcInvoice)
  subscribed : Bool
  settled : List LnrpcInvoice
  sent : List Message

inductive SubEvent where
  /-- At the node an invoice is added, accepted, settled or canceled. -/
  | happens (invoice : LnrpcInvoice)
  /-- `subscribe_invoices` opens a stream, or fails, and the loop sleeps. -/
  | subscribes
  | fails
  /-- `message` returns the next event, or fails, with nothing left to read. -/
  | reads
  | breaks

namespace Subscriber

def start : Subscriber := ⟨none, false, [], []⟩

def happening (g : Subscriber) (invoice : LnrpcInvoice) : Subscriber :=
  { g with
    stream := g.stream.map (· ++ [invoice])
    settled := if invoice.state = .settled ∧ g.subscribed = true then g.settled ++ [invoice]
      else g.settled }

/-- A message is read; the stream is dropped with what it still holds. -/
def reading (g : Subscriber) (invoice : LnrpcInvoice) : Subscriber :=
  { g with
    stream := none
    sent := if invoice.state = .settled then g.sent ++ [.deposit invoice.deposit] else g.sent }

def step (g : Subscriber) : SubEvent → Option Subscriber
  | .happens invoice => some (g.happening invoice)
  | .subscribes =>
    if g.stream = none then some { g with stream := some [], subscribed := true } else none
  | .fails => if g.stream = none then some g else none
  | .reads =>
    match g.stream with
    | some (invoice :: _) => some (g.reading invoice)
    | _ => none
  | .breaks => if g.stream = some [] then some { g with stream := none } else none

/-- The settlement that will be read next, if it is one. -/
def due (g : Subscriber) : List LnrpcInvoice :=
  match g.stream with
  | some (invoice :: _) => if invoice.state = .settled then [invoice] else []
  | _ => []

/-- How many settlements were not sent and will not be. -/
def missed (g : Subscriber) : Int := g.settled.length - (g.sent.length + g.due.length)

/-- A deposit was sent for each settlement, but for one that is read next. -/
def Balanced (g : Subscriber) : Prop :=
  g.sent ++ g.due.map (fun invoice => .deposit invoice.deposit) =
    g.settled.map fun invoice => .deposit invoice.deposit

end Subscriber

/-- A run of the loop, with events of the node at any time. -/
def SubStep (g : Subscriber) (e : SubEvent) (g' : Subscriber) : Prop := g.step e = some g'

/-- An invoice is settled before the first subscription, or while the loop waits for
the first event of one. -/
def InTime (g : Subscriber) : SubEvent → Prop
  | .happens invoice => invoice.state = .settled → g.subscribed = true → g.stream = some []
  | _ => True

namespace Subscriber

variable {g g' : Subscriber} {e : SubEvent}

theorem due_of_empty (h : g.stream = some []) : g.due = [] := by
  unfold due
  rw [h]

theorem due_of_none (h : g.stream = none) : g.due = [] := by
  unfold due
  rw [h]

/-- A stream is only open after a subscription. -/
def Sane (g : Subscriber) : Prop := g.stream ≠ none → g.subscribed = true

theorem Sane.step (h : g.Sane) (hstep : SubStep g e g') : g'.Sane := by
  unfold SubStep Subscriber.step at hstep
  split at hstep
  next invoice =>
    obtain rfl := Option.some.inj hstep
    intro hopen
    refine h fun hnone => hopen ?_
    show g.stream.map (· ++ [invoice]) = none
    rw [hnone]
    rfl
  next =>
    split at hstep
    · obtain rfl := Option.some.inj hstep
      exact fun _ => rfl
    · exact absurd hstep (by simp)
  next =>
    split at hstep
    · obtain rfl := Option.some.inj hstep
      exact h
    · exact absurd hstep (by simp)
  next =>
    split at hstep
    · obtain rfl := Option.some.inj hstep
      exact fun hopen => absurd rfl hopen
    · exact absurd hstep (by simp)
  next =>
    split at hstep
    · obtain rfl := Option.some.inj hstep
      exact fun hopen => absurd rfl hopen
    · exact absurd hstep (by simp)

/-- An event that does not count: no settlement, or none since a subscription. -/
theorem due_happening_of_not (h : g.Sane) {invoice : LnrpcInvoice}
    (hnot : ¬(invoice.state = .settled ∧ g.subscribed = true)) :
    (g.happening invoice).due = g.due := by
  cases hstream : g.stream with
  | none =>
    rw [due_of_none hstream]
    refine due_of_none ?_
    show g.stream.map (· ++ [invoice]) = none
    rw [hstream]
    rfl
  | some unread =>
    have hstate : invoice.state ≠ .settled := by
      intro hs
      exact hnot ⟨hs, h (by rw [hstream]; simp)⟩
    unfold due happening
    rw [hstream]
    cases unread with
    | nil => simp [hstate]
    | cons first rest => rfl

/-- A settlement is due if it is the first event of a stream. -/
theorem due_happening_first {invoice : LnrpcInvoice} (hstate : invoice.state = .settled)
    (hstream : g.stream = some []) : (g.happening invoice).due = [invoice] := by
  unfold due happening
  rw [hstream]
  simp [hstate]

/-- Behind another event, or without a stream, it is not. -/
theorem due_happening_late {invoice : LnrpcInvoice} (hstream : g.stream ≠ some []) :
    (g.happening invoice).due = g.due := by
  unfold due happening
  cases hs : g.stream with
  | none => rfl
  | some unread =>
    cases unread with
    | nil => exact absurd hs hstream
    | cons first rest => rfl

/-- What a step other than an event of the node does. -/
theorem step_rest (hstep : SubStep g e g') (hnot : ∀ invoice, e ≠ .happens invoice) :
    g'.settled = g.settled ∧ g'.due = [] ∧
      g'.sent = g.sent ++ g.due.map (fun invoice => .deposit invoice.deposit) := by
  unfold SubStep Subscriber.step at hstep
  split at hstep
  next invoice => exact absurd rfl (hnot invoice)
  next =>
    split at hstep
    next hnone =>
      obtain rfl := Option.some.inj hstep
      rw [due_of_none hnone]
      exact ⟨rfl, rfl, (List.append_nil _).symm⟩
    next => exact absurd hstep (by simp)
  next =>
    split at hstep
    next hnone =>
      obtain rfl := Option.some.inj hstep
      rw [due_of_none hnone]
      exact ⟨rfl, rfl, (List.append_nil _).symm⟩
    next => exact absurd hstep (by simp)
  next =>
    split at hstep
    next invoice rest hstream =>
      obtain rfl := Option.some.inj hstep
      refine ⟨rfl, rfl, ?_⟩
      unfold due reading
      rw [hstream]
      by_cases hstate : invoice.state = .settled
      · simp [hstate]
      · simp [hstate]
    next => exact absurd hstep (by simp)
  next =>
    split at hstep
    next hempty =>
      obtain rfl := Option.some.inj hstep
      rw [due_of_empty hempty]
      exact ⟨rfl, rfl, (List.append_nil _).symm⟩
    next => exact absurd hstep (by simp)

/-- Settlements in time are not missed. -/
theorem Balanced.step (h : g.Balanced) (hsane : g.Sane) (hstep : SubStep g e g')
    (htime : InTime g e) : g'.Balanced := by
  by_cases hevent : ∃ invoice, e = .happens invoice
  · obtain ⟨invoice, rfl⟩ := hevent
    obtain rfl := Option.some.inj hstep
    unfold Balanced at h ⊢
    by_cases hcounts : invoice.state = .settled ∧ g.subscribed = true
    · have hstream := htime hcounts.1 hcounts.2
      rw [due_of_empty hstream, List.map_nil, List.append_nil] at h
      rw [due_happening_first hcounts.1 hstream]
      show g.sent ++ _ = (if invoice.state = .settled ∧ g.subscribed = true
        then g.settled ++ [invoice] else g.settled).map _
      rw [if_pos hcounts, List.map_append, ← h]
    · rw [due_happening_of_not hsane hcounts]
      show g.sent ++ _ = (if invoice.state = .settled ∧ g.subscribed = true
        then g.settled ++ [invoice] else g.settled).map _
      rw [if_neg hcounts]
      exact h
  · obtain ⟨hsettled, hdue, hsent⟩ := step_rest hstep fun invoice he => hevent ⟨invoice, he⟩
    unfold Balanced
    rw [hsettled, hdue, hsent, List.map_nil, List.append_nil]
    exact h

theorem missed_step (hsane : g.Sane) (hstep : SubStep g e g') :
    g.missed ≤ g'.missed ∧ (¬InTime g e → g.missed < g'.missed) := by
  unfold missed
  by_cases hevent : ∃ invoice, e = .happens invoice
  · obtain ⟨invoice, rfl⟩ := hevent
    obtain rfl := Option.some.inj hstep
    have hsettled : (g.happening invoice).settled =
        if invoice.state = .settled ∧ g.subscribed = true then g.settled ++ [invoice]
        else g.settled := rfl
    have hsent : (g.happening invoice).sent = g.sent := rfl
    rw [hsent, hsettled]
    by_cases hcounts : invoice.state = .settled ∧ g.subscribed = true
    · rw [if_pos hcounts, List.length_append, List.length_singleton]
      by_cases hstream : g.stream = some []
      · rw [due_happening_first hcounts.1 hstream, due_of_empty hstream]
        refine ⟨by simp, fun hlate => absurd (fun _ _ => hstream) hlate⟩
      · rw [due_happening_late hstream]
        exact ⟨by push_cast; omega, fun _ => by push_cast; omega⟩
    · rw [if_neg hcounts, due_happening_of_not hsane hcounts]
      exact ⟨le_refl _, fun hlate => absurd (fun hs hsub => absurd ⟨hs, hsub⟩ hcounts) hlate⟩
  · obtain ⟨hsettled, hdue, hsent⟩ := step_rest hstep fun invoice he => hevent ⟨invoice, he⟩
    rw [hsettled, hdue, hsent]
    refine ⟨by simp, fun hlate => absurd ?_ hlate⟩
    unfold InTime
    split
    next invoice => exact absurd ⟨invoice, rfl⟩ hevent
    next => trivial

theorem run_sane {es : List SubEvent} (h : Trace SubStep start es g) : g.Sane :=
  h.invariant (I := Sane) (fun _ _ _ _ hs hstep => hs.step hstep) fun hopen => absurd rfl hopen

/-- Settlements are missed only if they were not in time. -/
theorem inTime_of_missed {es : List SubEvent} (h : Trace SubStep start es g) :
    0 ≤ g.missed ∧
      (g.missed ≤ 0 → Trace (fun g e g' => InTime g e ∧ SubStep g e g') start es g) := by
  induction h with
  | nil => exact ⟨le_refl 0, fun _ => .nil _⟩
  | snoc hrun hlast ih =>
    obtain ⟨hnonneg, htime⟩ := ih
    obtain ⟨hle, hlt⟩ := missed_step (run_sane hrun) hlast
    refine ⟨hnonneg.trans hle, fun hzero => ?_⟩
    refine (htime (hle.trans hzero)).snoc ⟨?_, hlast⟩
    by_contra hlate
    have := hlt hlate
    omega

end Subscriber

/-- **Settlements and deposits.** When nothing is left to send, exactly one deposit was
sent for each invoice settled since the first subscription, if and only if each of
them was settled while the loop waited for the first event of a subscription. -/
theorem deposits_sent_iff {es : List SubEvent} {g : Subscriber}
    (h : Trace SubStep .start es g) (hquiet : g.due = []) :
    g.sent = g.settled.map (fun invoice => .deposit invoice.deposit) ↔
      Trace (fun g e g' => InTime g e ∧ SubStep g e g') .start es g := by
  constructor
  · intro hsent
    refine (Subscriber.inTime_of_missed h).2 ?_
    unfold Subscriber.missed
    rw [hsent, hquiet]
    simp
  · intro htime
    have hbalanced : g.Sane ∧ g.Balanced := by
      refine htime.invariant (I := fun g => g.Sane ∧ g.Balanced) ?_
        ⟨fun hopen => absurd rfl hopen, rfl⟩
      intro g₁ e g₂ _ hinv hstep
      exact ⟨hinv.1.step hstep.2, hinv.2.step hinv.1 hstep.2 hstep.1⟩
    have hall := hbalanced.2
    unfold Subscriber.Balanced at hall
    rw [hquiet, List.map_nil, List.append_nil] at hall
    exact hall

namespace Sample

/-- An invoice over some satoshis, settled. -/
def settledInvoice (value : Int) : LnrpcInvoice :=
  ⟨"lnbc", "hash", "", "preimage", value, value * 1000, 0, 1, .settled⟩

def oneByOne : List SubEvent :=
  [.subscribes, .happens (settledInvoice 5), .reads, .subscribes,
    .happens (settledInvoice 6), .reads]

/-- Two invoices are settled at once. -/
def atOnce : List SubEvent :=
  [.subscribes, .happens (settledInvoice 5), .happens (settledInvoice 6), .reads, .subscribes]

end Sample

/-- One invoice after the other, each read before the next is settled. -/
theorem deposits_sent_sample : ∃ g, Trace SubStep .start Sample.oneByOne g ∧ g.settled.length = 2 ∧
    g.sent = g.settled.map (fun invoice => .deposit invoice.deposit) ∧
    Trace (fun g e g' => InTime g e ∧ SubStep g e g') .start Sample.oneByOne g := by
  have hrun : Trace SubStep .start Sample.oneByOne _ := Trace.of_foldlM rfl
  exact ⟨_, hrun, rfl, rfl, (deposits_sent_iff hrun rfl).mp rfl⟩

/-- Of two invoices that are settled at once only one leads to a deposit. -/
theorem deposit_missed : ∃ g, Trace SubStep .start Sample.atOnce g ∧ g.due = [] ∧
    g.settled = [Sample.settledInvoice 5, Sample.settledInvoice 6] ∧
    g.sent = [.deposit (Sample.settledInvoice 5).deposit] :=
  ⟨_, Trace.of_foldlM rfl, rfl, rfl, rfl⟩

end Lndhubx
