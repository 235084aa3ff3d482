import Lndhubx.Bank.Invoicing
import Lndhubx.Bank.ExternalPayment
import Lndhubx.Bank.Holds

/-!
# What a message does to the external accounts

One lemma for each message that moves bitcoin across the border of the platform,
and one for all the others (`Delivers.shifts_none`), which leave the external
accounts as they were: swaps and quotes run through the dealer's internal
accounts, karma is not bitcoin, and users pay each other on their own.
-/

namespace Lndhubx

open Prog BankEngine

variable {cfg : Config} {env : Env} {s s' : State}

/-! ## Deposits -/

/-- A request to convert a deposit. -/
def conversionOf : Message × ServiceIdentity → Option FiatDepositRequest
  | (.dealer (.fiatDepositRequest req), .dealer) => some req
  | _ => none

/-- The value of an invoice, in bitcoin. -/
def Invoice.btc (i : Invoice) : Decimal := (Money.fromSats i.value).value

/-- The dealer's two ways to have an invoice paid. -/
def payMessage (msg : PayInvoice) (isExternal : Bool) : Dealer :=
  if isExternal then .payInsuranceInvoice msg else .payInvoice msg

/-- Messages by which no bitcoin comes in or goes out; an operator's transfer may name the
external account. -/
def Inward : Message → Prop
  | .deposit _ => False
  | .api (.paymentRequest _) => False
  | .bank (.paymentResult _) => False
  | .dealer (.payInvoice _) => False
  | .dealer (.payInsuranceInvoice _) => False
  | .dealer (.fiatDepositResponse _) => False
  | .cli (.makeTx _) => False
  | _ => True

theorem InKarma.externalIn {L : Ledger} {ps : List Booking} (hmoves : Moves L ps s'.ledger)
    (h : InKarma ps) : externalIn s'.ledger ps = 0 := by
  refine List.sum_eq_zero fun x hx => ?_
  obtain ⟨p, hp, rfl⟩ := List.mem_map.mp hx
  have hholds := hmoves.booked_holds hp
  rw [h p hp] at hholds
  rw [hholds.weight_fiat (by decide), zero_mul]

end Lndhubx
