import Lndhubx.Msgs
import Mathlib.Data.List.Basic
import Mathlib.Tactic.Common

/-!
# What a message is about

Requests of users pass through the API, the bank, the dealer and the tasks that pay
invoices, each of which sends something on under the id of what it was given. A
`Subject` is what stays the same on the way: the kind of the request, its id and,
where the answer names one, the user.

A request to create an LNURL withdrawal is about two things. It is answered itself,
and what it stores may be paid later, which is answered as a payment of its user under
its id. Profiles are looked up by the nostr engine alone and are left out, and so is
everything the bank and the dealer tell each other for themselves.
-/

namespace Lndhubx

/-- The kinds of requests the bank and the dealer answer. -/
inductive Topic where
  | invoice
  | payment
  | swap
  | balances
  | quote
  | availableCurrencies
  | nodeInfo
  | createLnurlWithdrawal
  | getLnurlWithdrawal
  | payLnurlWithdrawal
  | queryRoute
  deriving DecidableEq

/-- What a message is about: a kind of request, its id, and the user it is for. -/
structure Subject where
  topic : Topic
  reqId : RequestId
  uid : Option UserId
  deriving DecidableEq

/-- A payment of a user. -/
def paymentSubject (reqId : RequestId) (uid : UserId) : Subject := ⟨.payment, reqId, some uid⟩

/-- What a message of the API is about. -/
def Api.subjects : Api → List Subject
  | .invoiceRequest m => [⟨.invoice, m.reqId, some m.uid⟩]
  | .invoiceResponse m => [⟨.invoice, m.reqId, some m.uid⟩]
  | .paymentRequest m => [paymentSubject m.reqId m.uid]
  | .paymentResponse m => [paymentSubject m.reqId m.uid]
  | .swapRequest m => [⟨.swap, m.reqId, some m.uid⟩]
  | .swapResponse m => [⟨.swap, m.reqId, some m.uid⟩]
  | .getBalances m => [⟨.balances, m.reqId, some m.uid⟩]
  | .balances m => [⟨.balances, m.reqId, some m.uid⟩]
  | .quoteRequest m => [⟨.quote, m.reqId, some m.uid⟩]
  | .quoteResponse m => [⟨.quote, m.reqId, some m.uid⟩]
  | .availableCurrenciesRequest m => [⟨.availableCurrencies, m.reqId, none⟩]
  | .availableCurrenciesResponse m => [⟨.availableCurrencies, m.reqId, none⟩]
  | .getNodeInfoRequest m => [⟨.nodeInfo, m.reqId, none⟩]
  | .getNodeInfoResponse m => [⟨.nodeInfo, m.reqId, none⟩]
  | .createLnurlWithdrawalRequest m =>
    [⟨.createLnurlWithdrawal, m.reqId, none⟩, paymentSubject m.reqId m.uid]
  | .createLnurlWithdrawalResponse m => [⟨.createLnurlWithdrawal, m.reqId, none⟩]
  | .getLnurlWithdrawalRequest m => [⟨.getLnurlWithdrawal, m.reqId, none⟩]
  | .getLnurlWithdrawalResponse m => [⟨.getLnurlWithdrawal, m.reqId, none⟩]
  | .payLnurlWithdrawalRequest m => [⟨.payLnurlWithdrawal, m.reqId, none⟩]
  | .payLnurlWithdrawalResponse m => [⟨.payLnurlWithdrawal, m.reqId, none⟩]
  | .queryRouteRequest m => [⟨.queryRoute, m.reqId, none⟩]
  | .queryRouteResponse m => [⟨.queryRoute, m.reqId, none⟩]
  | .nostrProfileRequest _ => []
  | .nostrProfileSearchRequest _ => []
  | .nostrProfileSearchResponse _ => []

/-- A task's result is about the payment it answers. -/
def Message.subjects : Message → List Subject
  | .api m => m.subjects
  | .bank (.paymentResult res) => [paymentSubject res.paymentResponse.reqId res.paymentResponse.uid]
  | _ => []

variable {σ : Subject}

/-- How often a message is about a subject. -/
def Message.about (σ : Subject) (m : Message) : Nat := m.subjects.count σ

/-- A message about nothing is not about this. -/
theorem Message.about_eq_zero {m : Message} (h : m.subjects = []) : m.about σ = 0 := by
  unfold Message.about
  rw [h]
  rfl

/-- How often a subject is mentioned. -/
def told (σ : Subject) (l : List Message) : Nat := (l.map (Message.about σ)).sum

/-- Nothing told. -/
@[simp] theorem told_nil : told σ [] = 0 := rfl

/-- One message more. -/
@[simp] theorem told_cons (m : Message) (l : List Message) :
    told σ (m :: l) = m.about σ + told σ l := by
  unfold told
  rw [List.map_cons, List.sum_cons]

/-- Messages after messages. -/
@[simp] theorem told_append (l l' : List Message) : told σ (l ++ l') = told σ l + told σ l' := by
  unfold told
  rw [List.map_append, List.sum_append]

/-- None of them is about it. -/
theorem told_eq_zero_iff {l : List Message} : told σ l = 0 ↔ ∀ m ∈ l, σ ∉ m.subjects := by
  induction l with
  | nil => simp
  | cons m l ih =>
    rw [told_cons, Nat.add_eq_zero_iff, ih, List.forall_mem_cons]
    unfold Message.about
    rw [List.count_eq_zero]

end Lndhubx
