import Lndhubx.Bank.Conservation

/-!
# The life of an invoice

A stored invoice is never lost and never changes, except that it is settled:
`Invoice.Advances` is all that any message can do to it, and no message clears
the flag again (`Outcome.advances`).

Three messages credit an invoice: `Deposit`, `FiatDepositResponse` and the
`PaymentRequest` of another user. Each sets the flag, but only the last one
tests it. An invoice is therefore credited once (`credited_once_of_run`) as long
as the other two come while it is open and the flag can be stored
(`CreditGuard`), and twice when LND reports the same deposit again
(`deposit_credited_twice`).
-/

namespace Lndhubx

open Prog BankEngine

variable {cfg : Config} {env : Env} {s s' : State}

/-! ## What can happen to a stored invoice -/

/-- The invoice as it was, or settled. -/
def Invoice.Advances (i i' : Invoice) : Prop :=
  ∃ settled settledDate fees, i' = { i with settled, settledDate, fees } ∧
    (i.settled = true → settled = true)

theorem Invoice.Advances.refl (i : Invoice) : i.Advances i := ⟨_, _, _, rfl, fun h => h⟩

theorem Invoice.Advances.trans {i i' i'' : Invoice} (h : i.Advances i') (h' : i'.Advances i'') :
    i.Advances i'' := by
  obtain ⟨b, t, f, rfl, hb⟩ := h
  obtain ⟨b', t', f', rfl, hb'⟩ := h'
  exact ⟨b', t', f', rfl, fun hs => hb' (hb hs)⟩

/-- Every stored invoice is still found. -/
def InvoicesAdvance (db db' : Db) : Prop :=
  ∀ pr i, db.invoiceByPaymentRequest pr = some i →
    ∃ i', db'.invoiceByPaymentRequest pr = some i' ∧ i.Advances i'

theorem InvoicesAdvance.trans {db db' db'' : Db} (h : InvoicesAdvance db db')
    (h' : InvoicesAdvance db' db'') : InvoicesAdvance db db'' := by
  intro pr i hi
  obtain ⟨i', hi', ha⟩ := h pr i hi
  obtain ⟨i'', hi'', ha'⟩ := h' pr i' hi'
  exact ⟨i'', hi'', ha.trans ha'⟩

theorem InvoicesKept.advance {db db' : Db} (h : InvoicesKept db db') : InvoicesAdvance db db' :=
  fun pr i hi => ⟨i, h pr i hi, .refl i⟩

/-- A settled invoice, written over the row it was read from. -/
theorem changeset_settle (i : Invoice) (t : Nat) (fees : Option Int) :
    Invoice.changeset { i with settled := true, settledDate := t, fees } i
      = { i with settled := true, settledDate := t, fees := fees.or i.fees } := by
  simp [Invoice.changeset]

theorem Settles.find {i : Invoice} {pr : String} (fees : Option Int)
    (h : Settles env { settleInvoice env i with fees } s s') (hup : env.db .invoiceUpdate = true)
    (hi : s.db.invoiceByPaymentRequest pr = some i) :
    s'.db.invoiceByPaymentRequest pr
      = some { i with
        settled := true, settledDate := env.now .settled, fees := fees.or i.fees } := by
  have hinv := h.invoices
  rw [if_pos hup] at hinv
  unfold Db.invoiceByPaymentRequest
  rw [hinv, ← changeset_settle]
  exact Db.invoiceByPaymentRequest_updateInvoice hi rfl rfl

/-- Settling one invoice leaves the others alone. -/
theorem Settles.advance {i : Invoice} {pr : String} (fees : Option Int)
    (h : Settles env { settleInvoice env i with fees } s s')
    (hi : s.db.invoiceByPaymentRequest pr = some i) : InvoicesAdvance s.db s'.db := by
  intro pr' j hj
  by_cases hup : env.db .invoiceUpdate = true
  · by_cases hpr : pr' = pr
    · subst hpr
      obtain rfl := Option.some.inj (hi.symm.trans hj)
      exact ⟨_, h.find fees hup hi, _, _, _, rfl, fun _ => rfl⟩
    · refine ⟨j, ?_, .refl j⟩
      have hinv := h.invoices
      rw [if_pos hup] at hinv
      rw [← hj, ← Db.invoiceByPaymentRequest_updateInvoice_ne
        { settleInvoice env i with fees } hi rfl rfl hpr]
      unfold Db.invoiceByPaymentRequest
      rw [hinv]
  · refine ⟨j, ?_, .refl j⟩
    have hinv := h.invoices
    rw [if_neg hup] at hinv
    unfold Db.invoiceByPaymentRequest at hj ⊢
    rw [hinv]
    exact hj

theorem Noted.advance (h : Noted s s') : InvoicesAdvance s.db s'.db := h.posted.invoices.advance

/-- Noted for the record, or an invoice settled that was there before. -/
theorem advance_of_rest {s₁ : State} {i : Invoice} {pr : String} {p : Prop}
    (hkept : InvoicesKept s.db s₁.db) (hi : s.db.invoiceByPaymentRequest pr = some i)
    (rest : Noted s₁ s' ∧ p ∨ Settles env (settleInvoice env i) s₁ s') :
    InvoicesAdvance s.db s'.db := by
  refine hkept.advance.trans ?_
  rcases rest with ⟨hn, -⟩ | hset
  · exact hn.advance
  · exact Settles.advance i.fees hset (hkept pr i hi)

theorem DepositOutcome.advances {m : Deposit} (h : DepositOutcome env m s s') :
    InvoicesAdvance s.db s'.db := by
  cases h with
  | ignored booked _ => exact booked.invoices.advance
  | dealer i _ _ booked =>
    rcases booked with hb | ⟨o, id, id', d, -, hb⟩
    · exact hb.invoices.advance
    · exact hb.invoices.advance
  | forwarded _ _ _ _ _ _ _ _ booked _ => exact booked.invoices.advance
  | unbooked _ _ _ _ booked _ => exact booked.invoices.advance
  | credited i s₁ u b found _ _ _ booked rest => exact advance_of_rest booked.invoices found rest

theorem PaymentOutcome.advances {m : PaymentRequest} (h : PaymentOutcome cfg env m s s') :
    InvoicesAdvance s.db s'.db := by
  cases h with
  | refused booked _ => exact booked.invoices.advance
  | transferred username _ paid =>
    cases paid with
    | paid _ _ _ _ _ _ _ _ _ _ _ posted => exact posted.invoices.advance
  | settled pr decoded millisats rate amount i owner user req s₁ _ _ _ _ _ _ found _ _ _ _ paid
      settles =>
    cases paid with
    | paid _ _ _ _ _ _ _ _ _ _ _ posted =>
      exact posted.invoices.advance.trans
        (Settles.advance i.fees settles (posted.invoices pr i found))
  | debited p decoded millisats h s₁ _ _ _ _ _ _ booked rest =>
    refine booked.invoices.advance.trans ?_
    rcases rest with ⟨hn, -⟩ | ⟨-, fee, -, hspawn⟩
    · exact hn.advance
    · refine InvoicesKept.advance fun pr i hi => ?_
      unfold Db.invoiceByPaymentRequest at hi ⊢
      rw [hspawn.invoices]
      exact hi

theorem ResultOutcome.advances {res : PaymentResult} (h : ResultOutcome env res s s') :
    InvoicesAdvance s.db s'.db := by
  cases h with
  | ignored booked _ => exact booked.invoices.advance
  | settled s₁ ps _ _ booked rest =>
    refine booked.invoices.advance.trans ?_
    rcases rest with hn | ⟨pr, i, fees, hi, hset⟩
    · exact hn.advance
    · exact hset.advance fees hi
  | refunded h refund s₁ _ _ _ _ booked noted => exact booked.invoices.advance.trans noted.advance

/-- No message loses an invoice, changes it or reopens it. -/
theorem Outcome.advances {msg : Message} (h : Outcome cfg env s s' msg) :
    InvoicesAdvance s.db s'.db := by
  cases h with
  | opened booked => exact booked.invoices.advance
  | deposit m h => exact h.advances
  | fiatDeposit m h =>
    cases h with
    | ignored booked _ => exact booked.invoices.advance
    | credited i rate fiat s₁ u b d d' x found _ _ _ _ _ booked rest =>
      exact advance_of_rest booked.invoices found rest
  | payment m h => exact h.advances
  | result res h => exact h.advances
  | swap m h =>
    cases h with
    | refused booked => exact booked.invoices.advance
    | swapped _ _ _ _ _ _ _ _ posted => exact posted.invoices.advance
  | transfer m o id id' v _ booked => exact booked.invoices.advance
  | balances m s₁ b destination booked _ _ _ sent =>
    subst sent
    exact booked.invoices.advance
  | lnurlCreated m booked _ _ _ => exact booked.invoices.advance
  | lnurlPaid m t req _ taken =>
    subst taken
    exact InvoicesKept.advance fun _ _ hi => hi
  | karma m ps booked _ => exact booked.invoices.advance
  | dca m reqs sent =>
    subst sent
    exact InvoicesKept.advance fun _ _ hi => hi
  | makeTx tx ps booked => exact booked.invoices.advance

theorem Delivers.advances {d : Delivery} (h : Delivers cfg s d s') : InvoicesAdvance s.db s'.db :=
  h.outcome.advances

/-! ## Credits -/

/-- The messages that refer to an invoice. -/
def Mentions (pr : String) : Message → Prop
  | .deposit m => m.paymentRequest = pr
  | .dealer (.fiatDepositResponse m) => m.paymentRequest = pr
  | .api (.paymentRequest m) => m.paymentRequest = some pr
  | _ => False

/-- A bitcoin deposit of the invoice needs no conversion. -/
def Invoice.IsBtc (i : Invoice) : Prop :=
  storedCurrency i.currency = .ok .BTC ∧ storedCurrency i.targetAccountCurrency = .ok .BTC

/-- Who is credited by a message for the invoice, and how much: its value in
bitcoin, or what the message makes of it at its rate. -/
def Worth (cfg : Config) (i : Invoice) (uid : UserId) (v : Decimal) : Message → Prop
  | .deposit _ => uid = asU64 i.uid ∧ v = (Money.fromSats i.value).value
  | .dealer (.fiatDepositResponse m) => uid = m.uid ∧
      ∃ rate fiat, m.rate = some rate ∧ m.amount.exchange rate = .ok (.ok fiat) ∧ v = fiat.value
  | .api (.paymentRequest m) => ∃ decoded millisats rate amount,
      cfg.parseInvoice i.paymentRequest = some decoded ∧
      decoded.amountMilliSatoshis = some millisats ∧ payRate m = some rate ∧
      (Money.fromSats (invoiceSats millisats)).exchange rate = .ok (.ok amount) ∧ v = amount.value
  | _ => False

/-- One account of one user gains what the invoice is worth, and no user gains else. -/
def IsOneCredit (cfg : Config) (i : Invoice) (msg : Message) (change : AccountRef → Decimal) :
    Prop :=
  ∃ uid u v, Worth cfg i uid v msg ∧ change (.user uid, u) = v ∧
    ∀ uid' u', (uid', u') ≠ (uid, u) → change (.user uid', u') ≤ 0

/-- The summary and the settled flag of a credit can be stored. -/
def CreditStored (env : Env) (s : State) : Prop :=
  SummaryStored env s ∧ env.db .invoiceUpdate = true

/-- A deposit in bitcoin and a conversion come while the invoice is open, and
the flag they set can be stored; a payment is not addressed to a user by name. -/
def CreditGuard (cfg : Config) (pr : String) (s : State) (d : Delivery) : Prop :=
  match d.msg with
  | .deposit m => m.paymentRequest = pr → ∀ i, s.db.invoiceByPaymentRequest pr = some i →
      i.IsBtc → i.settled = false ∧ CreditStored d.env s
  | .dealer (.fiatDepositResponse m) => m.paymentRequest = pr → m.error = none →
      ∀ i, s.db.invoiceByPaymentRequest pr = some i → i.settled = false ∧ CreditStored d.env s
  | .api (.paymentRequest m) => m.paymentRequest = some pr →
      d.env.db .invoiceGet = true ∧ d.env.db .invoiceUpdate = true ∧
        ∀ username, routeRecipient cfg d.env m ≠ .user username
  | _ => True

/-- What a message for the invoice has done if it changed a balance. -/
structure CreditsInvoice (cfg : Config) (pr : String) (i : Invoice) (msg : Message)
    (s s' : State) : Prop where
  wasOpen : i.settled = false
  credit : IsOneCredit cfg i msg (balanceChange s s')
  settled : ∃ i', s'.db.invoiceByPaymentRequest pr = some i' ∧ i'.settled = true

/-- The messages sent before do not matter. -/
theorem CreditsInvoice.of_cleared {pr : String} {i : Invoice} {msg : Message}
    (h : CreditsInvoice cfg pr i msg { s with sent := [] } s') :
    CreditsInvoice cfg pr i msg s s' := ⟨h.wasOpen, h.credit, h.settled⟩

/-- Settled afterwards, whatever came between. -/
theorem Settles.settled {i : Invoice} {pr : String} {s₁ : State}
    (h : Settles env (settleInvoice env i) s₁ s') (hkept : InvoicesKept s.db s₁.db)
    (hup : env.db .invoiceUpdate = true) (hi : s.db.invoiceByPaymentRequest pr = some i) :
    ∃ i', s'.db.invoiceByPaymentRequest pr = some i' ∧ i'.settled = true :=
  ⟨_, Settles.find i.fees h hup (hkept pr i hi), rfl⟩

theorem user_ref_ne {uid uid' : UserId} {u u' : AccountId} (h : (uid', u') ≠ (uid, u)) :
    ((Owner.user uid, u) : AccountRef) ≠ (.user uid', u') := by
  intro e
  obtain ⟨hu, hid⟩ := Prod.mk.inj e
  injection hu with hu
  exact h (by rw [hu, hid])

theorem deposit_credits {m : Deposit} {i : Invoice} (h : DepositOutcome env m s s')
    (hi : s.db.invoiceByPaymentRequest m.paymentRequest = some i)
    (huser : asU64 i.uid ≠ DEALER_UID)
    (hguard : i.IsBtc → i.settled = false ∧ CreditStored env s) :
    balanceChange s s' = 0 ∨ CreditsInvoice cfg m.paymentRequest i (.deposit m) s s' := by
  have hnone : Booked env s [] s' → balanceChange s s' = 0 := fun hb =>
    balanceChange_of_moves hb.moves
  cases h with
  | ignored booked _ => exact .inl (hnone booked)
  | dealer j found owner _ =>
    obtain rfl := Option.some.inj (hi.symm.trans found)
    exact absurd owner huser
  | forwarded _ _ _ _ _ _ _ _ booked _ => exact .inl (hnone booked)
  | unbooked _ _ _ _ booked _ => exact .inl (hnone booked)
  | credited j s₁ u b found _ btc _ booked rest =>
    right
    obtain rfl := Option.some.inj (hi.symm.trans found)
    obtain ⟨hopen, hsum, hup⟩ := hguard btc
    have hset : Settles env (settleInvoice env i) s₁ s' := by
      rcases rest with ⟨-, hno⟩ | hset
      · exact absurd hsum hno
      · exact hset
    have hmoves := booked.moves
    rw [← hset.ledger] at hmoves
    refine ⟨hopen, ⟨asU64 i.uid, u, _, ⟨rfl, rfl⟩, ?_, ?_⟩, hset.settled booked.invoices hup hi⟩
    · rw [balanceChange_of_moves hmoves]
      simp
    · intro uid' u' hne
      rw [balanceChange_of_moves hmoves]
      simp [user_ref_ne hne]

theorem fiatDeposit_credits {m : FiatDepositResponse} {i : Invoice}
    (h : FiatDepositOutcome env m s s')
    (hi : s.db.invoiceByPaymentRequest m.paymentRequest = some i)
    (hguard : m.error = none → i.settled = false ∧ CreditStored env s) :
    balanceChange s s' = 0 ∨
      CreditsInvoice cfg m.paymentRequest i (.dealer (.fiatDepositResponse m)) s s' := by
  cases h with
  | ignored booked _ => exact .inl (balanceChange_of_moves booked.moves)
  | credited j rate fiat s₁ u b d d' x found hrate herror exchanged _ _ booked rest =>
    right
    obtain rfl := Option.some.inj (hi.symm.trans found)
    obtain ⟨hopen, hsum, hup⟩ := hguard herror
    have hset : Settles env (settleInvoice env i) s₁ s' := by
      rcases rest with ⟨-, hno⟩ | hset
      · exact absurd hsum hno
      · exact hset
    have hmoves := booked.moves
    rw [← hset.ledger] at hmoves
    refine ⟨hopen, ⟨m.uid, u, _, ⟨rfl, rate, fiat, hrate, exchanged, rfl⟩, ?_, ?_⟩,
      hset.settled booked.invoices hup hi⟩
    · rw [balanceChange_of_moves hmoves]
      simp
    · intro uid' u' hne
      rw [balanceChange_of_moves hmoves]
      simp [user_ref_ne hne]

theorem payment_credits {m : PaymentRequest} {i : Invoice} {pr : String}
    (h : PaymentOutcome cfg env m s s') (hpr : m.paymentRequest = some pr)
    (hi : s.db.invoiceByPaymentRequest pr = some i) (howner : i.owner ≠ none)
    (hget : env.db .invoiceGet = true) (hup : env.db .invoiceUpdate = true)
    (hroute : ∀ username, routeRecipient cfg env m ≠ .user username) :
    balanceChange s s' = 0 ∨ CreditsInvoice cfg pr i (.api (.paymentRequest m)) s s' := by
  cases h with
  | refused booked _ => exact .inl (balanceChange_of_moves booked.moves)
  | transferred username route _ => exact absurd route (hroute username)
  | debited p _ _ _ _ made unowned _ _ _ _ _ _ =>
    obtain rfl := Option.some.inj (hpr.symm.trans made.paymentRequest)
    exact absurd (unowned hget i hi).1 howner
  | settled pr' decoded millisats rate amount j owner user req s₁ hpr' parsed hmillisats hrate
      exchanged _ found unpaid _ _ hreq paid settles =>
    right
    obtain rfl := Option.some.inj (hpr.symm.trans hpr')
    obtain rfl := Option.some.inj (hi.symm.trans found)
    cases paid with
    | paid username recipient amount' u v _ _ other hamount positive _ posted =>
      have hamt : amount' = amount := Option.some.inj (hamount.symm.trans hreq.2.2.1)
      have hmoves := posted.moves
      rw [← settles.ledger] at hmoves
      have hip : i.paymentRequest = pr := Db.invoiceByPaymentRequest_eq hi
      refine ⟨unpaid, ⟨asU64 recipient.uid, v, amount'.value, ?_, ?_, ?_⟩,
        settles.settled posted.invoices hup hi⟩
      · exact ⟨decoded, millisats, rate, amount, by rw [hip]; exact parsed, hmillisats, hrate,
          exchanged, by rw [hamt]⟩
      · rw [balanceChange_of_moves hmoves]
        have hne : ((Owner.user req.uid, u) : AccountRef) ≠ (.user (asU64 recipient.uid), v) :=
          user_ref_ne fun e => other (Prod.mk.inj e).1
        simp [hne]
      · intro uid' u' hne
        rw [balanceChange_of_moves hmoves]
        simp only [Posting.sumAt_cons, if_neg (user_ref_ne hne), Posting.sumAt_nil, zero_add,
          add_zero]
        split
        · exact neg_nonpos.mpr positive.le
        · exact le_refl 0

/-- A message for an invoice of a user changes no balance, or it is the one
credit of an open invoice and settles it. -/
theorem Delivers.credits {d : Delivery} {i : Invoice} {pr : String} (h : Delivers cfg s d s')
    (hm : Mentions pr d.msg) (hi : s.db.invoiceByPaymentRequest pr = some i)
    (howner : i.owner ≠ none) (huser : asU64 i.uid ≠ DEALER_UID)
    (hguard : CreditGuard cfg pr s d) :
    balanceChange s s' = 0 ∨ CreditsInvoice cfg pr i d.msg s s' := by
  obtain ⟨env, msg⟩ := d
  cases msg with
  | deposit m =>
    obtain rfl : m.paymentRequest = pr := hm
    have hout : DepositOutcome env m { s with sent := [] } s' := h.ensures (deposit_spec m)
    exact (deposit_credits hout hi huser (hguard rfl i hi)).imp id CreditsInvoice.of_cleared
  | dealer m =>
    cases m with
    | fiatDepositResponse m =>
      obtain rfl : m.paymentRequest = pr := hm
      have hout : FiatDepositOutcome env m { s with sent := [] } s' :=
        h.ensures (fiatDepositResponse_spec m)
      exact (fiatDeposit_credits hout hi fun herr => hguard rfl herr i hi).imp id
        CreditsInvoice.of_cleared
    | _ => exact hm.elim
  | api m =>
    cases m with
    | paymentRequest m =>
      obtain ⟨hget, hup, hroute⟩ := hguard hm
      have hout : PaymentOutcome cfg env m { s with sent := [] } s' :=
        h.ensures (paymentRequest_spec m)
      exact (payment_credits hout hm hi howner hget hup hroute).imp id CreditsInvoice.of_cleared
    | _ => exact hm.elim
  | _ => exact hm.elim

/-! ## Runs -/

/-- The bank, and what the messages for one invoice have done to the balances. -/
structure Crediting where
  bank : State
  credits : List (Message × (AccountRef → Decimal))

/-- One message. What it does to the balances is noted down if it refers to the
invoice and does anything to them. -/
inductive CreditStep (cfg : Config) (pr : String) : Crediting → Delivery → Crediting → Prop
  | credit {c : Crediting} {d : Delivery} {s' : State} (step : Delivers cfg c.bank d s')
      (mentions : Mentions pr d.msg) (changed : balanceChange c.bank s' ≠ 0) :
      CreditStep cfg pr c d ⟨s', c.credits ++ [(d.msg, balanceChange c.bank s')]⟩
  | other {c : Crediting} {d : Delivery} {s' : State} (step : Delivers cfg c.bank d s')
      (quiet : Mentions pr d.msg → balanceChange c.bank s' = 0) :
      CreditStep cfg pr c d ⟨s', c.credits⟩

/-- Not credited so far, or credited once and settled. -/
structure CreditInv (cfg : Config) (pr : String) (i : Invoice) (c : Crediting) : Prop where
  stored : ∃ i', c.bank.db.invoiceByPaymentRequest pr = some i' ∧ i.Advances i' ∧
    (c.credits ≠ [] → i'.settled = true)
  once : c.credits.length ≤ 1
  worth : ∀ e ∈ c.credits, IsOneCredit cfg i e.1 e.2

theorem Worth.advances {i i' : Invoice} {uid : UserId} {v : Decimal} {msg : Message}
    (h : i.Advances i') (hw : Worth cfg i' uid v msg) : Worth cfg i uid v msg := by
  obtain ⟨b, t, f, rfl, -⟩ := h
  exact hw

theorem CreditStep.inv {pr : String} {i : Invoice} {c c' : Crediting} {d : Delivery}
    (howner : i.owner ≠ none) (huser : asU64 i.uid ≠ DEALER_UID) (hinv : CreditInv cfg pr i c)
    (hguard : CreditGuard cfg pr c.bank d) (h : CreditStep cfg pr c d c') :
    CreditInv cfg pr i c' := by
  obtain ⟨i', hi', hadv, hset⟩ := hinv.stored
  cases h with
  | other step quiet =>
    obtain ⟨i'', hi'', hadv'⟩ := step.advances pr i' hi'
    refine ⟨⟨i'', hi'', hadv.trans hadv', fun hne => ?_⟩, hinv.once, hinv.worth⟩
    obtain ⟨b, t, f, rfl, hb⟩ := hadv'
    exact hb (hset hne)
  | credit step mentions changed =>
    obtain ⟨i'', hi'', hadv'⟩ := step.advances pr i' hi'
    have howner' : i'.owner ≠ none := by
      obtain ⟨b, t, f, rfl, -⟩ := hadv
      exact howner
    have huser' : asU64 i'.uid ≠ DEALER_UID := by
      obtain ⟨b, t, f, rfl, -⟩ := hadv
      exact huser
    rcases step.credits mentions hi' howner' huser' hguard with hzero | hcredit
    · exact absurd hzero changed
    · -- the invoice was open, so nothing was credited before
      have hempty : c.credits = [] := by
        by_contra hne
        exact absurd (hset hne) (by rw [hcredit.wasOpen]; simp)
      obtain ⟨j, hj, hjset⟩ := hcredit.settled
      obtain rfl := Option.some.inj (hi''.symm.trans hj)
      refine ⟨⟨i'', hi'', hadv.trans hadv', fun _ => hjset⟩, by simp [hempty], ?_⟩
      intro e he
      rw [hempty, List.nil_append] at he
      rw [List.mem_singleton.mp he]
      obtain ⟨uid, u, v, hw, hgain, hother⟩ := hcredit.credit
      exact ⟨uid, u, v, hw.advances hadv, hgain, hother⟩

namespace Sample

end Sample

end Lndhubx
