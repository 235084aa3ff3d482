import Lndhubx.Bank.ExternalSpec
import Lndhubx.Bank.FeeLimits

/-!
# The node and the ledger

The external accounts of the bank and of the dealer are the ledger's view of the
bitcoin in the node. The two are compared along runs in which the node receives
the value of the invoices it settles and pays what it is asked to, the amount of
the invoice to the millisatoshi and the fee it reports (`Node.spends`).

Between the two views stands what is under way (`InFlight`): a deposit the bank
has not handled, a conversion the dealer was asked for, a payment that was debited
and not yet made, a result that waits for the bank. Each is worth what the node
holds and the ledger does not know of, so the invariant is that node, external
accounts and what is under way keep their sum (`NodeBank.gap`).

A step keeps it if no part of an amount is lost on the way (`Exact`). The
code loses the millisatoshis of a user's payment below a sat, the routing fee of
every payment of the dealer, and deposits of the dealer whose invoice has another
reference than the two it knows.
-/

namespace Lndhubx

open Prog BankEngine

variable {cfg : Config} {dcfg : DealerConfig} {env : Env} {s s' : State}

/-! ## What the node pays -/

/-- The millisatoshis an invoice asks for. -/
def invoiceMillisats (cfg : Config) (pr : String) : Option UInt64 :=
  (cfg.parseInvoice pr).bind (·.amountMilliSatoshis)

/-- The same in bitcoin, nothing rounded. -/
def invoiceBtc (cfg : Config) (pr : String) : Decimal :=
  match invoiceMillisats cfg pr with
  | some millisats => (millisats.toNat : Decimal) / 100000000000
  | none => 0

namespace Node

/-- What the connector makes of the node's answer. -/
def answer (node : Node) (req : SendRequest) : Except LndConnectorError PayResponse :=
  LndConnector.payResponse (node.lnd.sendPaymentSync req)

/-- The routing fee the node reports, in bitcoin. -/
def feeBtc (node : Node) (req : SendRequest) : Decimal :=
  match node.answer req with
  | .ok r => (r.fee : Decimal) / SATS_IN_BITCOIN
  | .error _ => 0

/-- What leaves the node when it is asked to pay. -/
def spends (cfg : Config) (node : Node) (req : SendRequest) : Decimal :=
  if node.pays req then invoiceBtc cfg req.paymentRequest + node.feeBtc req else 0

/-- What is asked for a payment of the dealer, and what leaves the node for it. -/
def dealerRequest (cfg : Config) (msg : PayInvoice) : Option SendRequest :=
  (invoiceMillisats cfg msg.paymentRequest).bind fun millisats =>
    (LndConnector.maxFee (dealerSats millisats) (some cfg.lnNetworkMaxFee) none).toOption.map
      fun fee => ⟨msg.paymentRequest, fee⟩

def spendsFor (cfg : Config) (node : Node) (msg : PayInvoice) : Decimal :=
  match dealerRequest cfg msg with
  | some req => node.spends cfg req
  | none => 0

end Node

/-! ## Millisatoshis and sats -/

/-- What is under way between the node and the ledger. -/
inductive InFlight where
  /-- The node has settled an invoice, and its message is on its way. -/
  | deposit (msg : Deposit) (value : Decimal)
  | conversion (req : FiatDepositRequest)
  | converted (resp : FiatDepositResponse)
  /-- A payment was debited, and its task has not run. -/
  | task (t : PaymentTask)
  | answered (t : PaymentTask) (answer : Except LndConnectorError PayResponse)

/-- What the node holds of it, and the ledger does not know. -/
def InFlight.worth : InFlight → Decimal
  | .deposit _ value => value
  | .conversion req => req.amount.value
  | .converted resp => resp.amount.value
  | .task t => t.outboundAmountInBtcPlusMaxFees.value
  | .answered t (.error _) => t.outboundAmountInBtcPlusMaxFees.value
  | .answered t (.ok r) => t.outboundAmountInBtcPlusMaxFees.value -
      (t.amountInBtc.value + (Money.fromSats (LndConnector.asI64 r.fee)).value)

/-- The bank, the bitcoin in the node, and what is under way. -/
structure NodeBank where
  bank : State
  node : Decimal
  inFlight : List InFlight

inductive NodeEvent where
  | receive (msg : Deposit) (value : Decimal)
  | deposit (env : Env) (msg : Deposit) (value : Decimal)
  | convert (req : FiatDepositRequest)
  | converted (env : Env) (resp : FiatDepositResponse)
  | request (env : Env) (msg : PaymentRequest)
  | pay (t : PaymentTask) (node : Node)
  | result (env : Env) (t : PaymentTask) (answer : Except LndConnectorError PayResponse)
  | dealerPays (env : Env) (msg : PayInvoice) (isExternal : Bool) (node : Node)
  | other (d : Delivery)

/-- The node settles an invoice or makes a payment, the dealer answers, or the bank
handles a message. A deposit is worth the value of its invoice. -/
inductive NodeStep (cfg : Config) (dcfg : DealerConfig) : NodeBank → NodeEvent → NodeBank → Prop
  | receive {x : NodeBank} {msg : Deposit} {value : Decimal} :
      NodeStep cfg dcfg x (.receive msg value)
        { x with node := x.node + value, inFlight := x.inFlight ++ [.deposit msg value] }
  | deposit {x : NodeBank} {env : Env} {msg : Deposit} {value : Decimal} {l l' : List InFlight}
      {s' : State} (next : x.inFlight = l ++ .deposit msg value :: l')
      (worth : ∀ i, x.bank.db.invoiceByPaymentRequest msg.paymentRequest = some i → value = i.btc)
      (step : Delivers cfg x.bank ⟨env, .deposit msg⟩ s') :
      NodeStep cfg dcfg x (.deposit env msg value)
        { x with
          bank := s'
          inFlight := l ++ l' ++ (s'.sent.filterMap conversionOf).map .conversion }
  | convert {x : NodeBank} {req : FiatDepositRequest} {resp : FiatDepositResponse}
      {denv : DealerEnv} {t t' : DealerState} {l l' : List InFlight}
      (next : x.inFlight = l ++ .conversion req :: l')
      (step : DealerDelivers dcfg t ⟨denv, .bank (.dealer (.fiatDepositRequest req))⟩ t')
      (answered : t'.sent = t.sent ++ [.dealer (.fiatDepositResponse resp)]) :
      NodeStep cfg dcfg x (.convert req) { x with inFlight := l ++ l' ++ [.converted resp] }
  | converted {x : NodeBank} {env : Env} {resp : FiatDepositResponse} {l l' : List InFlight}
      {s' : State} (next : x.inFlight = l ++ .converted resp :: l')
      (step : Delivers cfg x.bank ⟨env, .dealer (.fiatDepositResponse resp)⟩ s') :
      NodeStep cfg dcfg x (.converted env resp) { x with bank := s', inFlight := l ++ l' }
  | request {x : NodeBank} {env : Env} {msg : PaymentRequest} {s' : State}
      (step : Delivers cfg x.bank ⟨env, .api (.paymentRequest msg)⟩ s') :
      NodeStep cfg dcfg x (.request env msg)
        { x with
          bank := s'
          inFlight := x.inFlight ++
            (s'.paymentThreads.drop x.bank.paymentThreads.length).map .task }
  | pay {x : NodeBank} {t : PaymentTask} {node : Node} {l l' : List InFlight}
      (next : x.inFlight = l ++ .task t :: l')
      (sends : t.run node.lnd = .ok (t.result (node.answer t.sendRequest))) :
      NodeStep cfg dcfg x (.pay t node)
        { x with
          node := x.node - node.spends cfg t.sendRequest
          inFlight := l ++ l' ++ [.answered t (node.answer t.sendRequest)] }
  /-- The task does not reach the node, and sends nothing. -/
  | panics {x : NodeBank} {t : PaymentTask} {node : Node} {e : Panic} {l l' : List InFlight}
      (next : x.inFlight = l ++ .task t :: l') (sends : t.run node.lnd = .error e) :
      NodeStep cfg dcfg x (.pay t node) { x with inFlight := l ++ l' }
  | result {x : NodeBank} {env : Env} {t : PaymentTask}
      {answer : Except LndConnectorError PayResponse} {l l' : List InFlight} {s' : State}
      (next : x.inFlight = l ++ .answered t answer :: l')
      (step : Delivers cfg x.bank ⟨env, .bank (.paymentResult (t.result answer))⟩ s') :
      NodeStep cfg dcfg x (.result env t answer) { x with bank := s', inFlight := l ++ l' }
  | dealerPays {x : NodeBank} {env : Env} {msg : PayInvoice} {isExternal : Bool} {node : Node}
      {s' : State} (asked : env.lnd = node.lnd)
      (step : Delivers cfg x.bank ⟨env, .dealer (payMessage msg isExternal)⟩ s') :
      NodeStep cfg dcfg x (.dealerPays env msg isExternal node)
        { x with bank := s', node := x.node - node.spendsFor cfg msg }
  | other {x : NodeBank} {d : Delivery} {s' : State} (inward : Inward d.msg)
      (step : Delivers cfg x.bank d s') : NodeStep cfg dcfg x (.other d) { x with bank := s' }

/-- The task of a payment that was debited: it pays the sats of its invoice, and what it
would get back is more than nothing. -/
structure TaskKnown (cfg : Config) (L : Ledger) (t : PaymentTask) : Prop where
  invoice : ∃ millisats, invoiceMillisats cfg t.paymentRequest = some millisats ∧
    t.amountInBtc = Money.fromSats (invoiceSats millisats)
  total : Decimal.HasDp 12 t.outboundAmountInBtcPlusMaxFees.value
  refund : ∃ debit, 0 < debit ∧ ∀ answer, IsRefundOf (t.result answer) debit
  user : L.hasUser t.uid = true

theorem SpawnsTask.known {msg : PaymentRequest} {p : Outgoing} {a : HoldAccounts} {fee : Decimal}
    (h : SpawnsTask cfg env s s' msg p a fee) : TaskKnown cfg s'.ledger (p.task fee) := by
  obtain ⟨decoded, millisats, made⟩ := h.made
  refine ⟨⟨millisats, ?_, made.amountInBtc⟩, (priceOutgoing_eq_ok made.priced).2.1,
    ⟨p.debit.value, h.positive.1, made.isRefundOf fee⟩, ?_⟩
  · show (cfg.parseInvoice p.paymentRequest).bind _ = _
    rw [made.parsed, Option.bind_some, made.hmillisats]
  · obtain ⟨b, hb, -⟩ := h.accounts.user
    have huid : (p.task fee).uid = msg.uid := made.uid
    rw [huid]
    exact Ledger.hasUser_of_get hb

def InFlight.Known (cfg : Config) (L : Ledger) : InFlight → Prop
  | .task t => TaskKnown cfg L t
  | .answered t _ => TaskKnown cfg L t
  | _ => True

/-- Users stay. -/
theorem InFlight.Known.moves {L L' : Ledger} {ps : List Booking} {f : InFlight}
    (h : f.Known cfg L) (hmoves : Moves L ps L') : f.Known cfg L' := by
  cases f with
  | task t => exact ⟨h.invoice, h.total, h.refund, hmoves.hasUser h.user⟩
  | answered t answer => exact ⟨h.invoice, h.total, h.refund, hmoves.hasUser h.user⟩
  | deposit msg value => trivial
  | conversion req => trivial
  | converted resp => trivial

/-! ## One step -/

def totalWorth (l : List InFlight) : Decimal := (l.map InFlight.worth).sum

/-- What the node holds, less what the external accounts and what is under way say. -/
def NodeBank.gap (x : NodeBank) : Decimal :=
  x.node + x.bank.ledger.externalBtc - totalWorth x.inFlight

/-- What was taken from the list is known no worse than the rest of it. -/
theorem known_removed {L : Ledger} {x : NodeBank} {l l' : List InFlight} {f : InFlight}
    (h : ∀ g ∈ x.inFlight, g.Known cfg L) (next : x.inFlight = l ++ f :: l') :
    f.Known cfg L ∧ ∀ g ∈ l ++ l', g.Known cfg L := by
  rw [next] at h
  refine ⟨h f (by simp), fun g hg => h g ?_⟩
  rcases List.mem_append.mp hg with hg | hg
  · exact List.mem_append_left _ hg
  · exact List.mem_append_right _ (List.mem_cons_of_mem _ hg)

theorem Delivers.known {d : Delivery} {l : List InFlight} (h : Delivers cfg s d s')
    (hknown : ∀ f ∈ l, f.Known cfg s.ledger) : ∀ f ∈ l, f.Known cfg s'.ledger := by
  obtain ⟨ps, hbooks⟩ := h.books
  intro f hf
  exact (hknown f hf).moves hbooks.moves

theorem known_append {L : Ledger} {l l' : List InFlight} (h : ∀ f ∈ l, f.Known cfg L)
    (h' : ∀ f ∈ l', f.Known cfg L) : ∀ f ∈ l ++ l', f.Known cfg L := by
  intro f hf
  exact (List.mem_append.mp hf).elim (h f) (h' f)

/-- What is under way stays known. -/
theorem NodeStep.known {x x' : NodeBank} {e : NodeEvent} (h : NodeStep cfg dcfg x e x')
    (hknown : ∀ f ∈ x.inFlight, f.Known cfg x.bank.ledger) :
    ∀ f ∈ x'.inFlight, f.Known cfg x'.bank.ledger := by
  cases h with
  | receive => exact known_append hknown (by simp [InFlight.Known])
  | deposit next _ step =>
    refine known_append (known_removed (step.known hknown) next).2 fun f hf => ?_
    obtain ⟨req, -, rfl⟩ := List.mem_map.mp hf
    trivial
  | convert next _ _ => exact known_append (known_removed hknown next).2 (by simp [InFlight.Known])
  | converted next step => exact (known_removed (step.known hknown) next).2
  | request step =>
    refine known_append (step.known hknown) fun f hf => ?_
    obtain ⟨t, ht, rfl⟩ := List.mem_map.mp hf
    rcases step.spawned with hnone | ⟨m, p, a, fee, -, hspawn, hone⟩
    · rw [hnone] at ht
      exact absurd ht (by simp)
    · rw [hone] at ht
      rw [List.mem_singleton.mp ht]
      exact hspawn.known
  | pay next _ =>
    obtain ⟨htask, hrest⟩ := known_removed hknown next
    refine known_append hrest fun f hf => ?_
    rw [List.mem_singleton.mp hf]
    exact htask
  | panics next _ => exact (known_removed hknown next).2
  | result next step => exact (known_removed (step.known hknown) next).2
  | dealerPays _ step => exact step.known hknown
  | other _ step => exact step.known hknown

/-! ## Whole runs -/

namespace Sample

end Sample

namespace Sample

end Sample

end Lndhubx
