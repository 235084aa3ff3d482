import Lndhubx.Bank.Entries

/-!
# What the handlers enter

One lemma for each handler that books, over its three stages: on which users it
books, and under which condition its rows explain what it writes back. A
transfer with one row always does, for the row is stored before the copies are
written; with two rows, or with a summary in between, the handler may give up
when the first row is already there.
-/

namespace Lndhubx

open Prog BankEngine

variable {cfg : Config} {env : Env} {s s' : State}

/-- A transfer that was refused stored no row. -/
theorem TxStage.refused {leg : Nat} {outbound inbound : Account} {outboundUid inboundUid : UserId}
    {amount : Money} {r : TxOutcome}
    (h : TxStage env s leg outbound outboundUid inbound inboundUid amount r s')
    (hno : ∀ a b txid, r = ⟨a, b, .ok txid⟩ → False) : Stage env s [] s' := by
  refine h.noRow fun txid hok => hno r.outbound r.inbound txid ?_
  rw [← hok]

/-- Writes of two accounts in the order of the transfer or against it. -/
theorem Commit.of_pair {w w' : Write} (hw : s.ledger.get w.ref = some w.copy)
    (hw' : s.ledger.get w'.ref = some w'.copy) (hne : w.ref ≠ w'.ref)
    (h : Writing env s [w, w'] [w, w'] s' ∨ Writing env s [w, w'] [w', w] s') :
    Commit env [w, w'] s s' := by
  have hcurrent : ∀ x ∈ [w, w'], s.ledger.get x.ref = some x.copy := by
    simpa using ⟨hw, hw'⟩
  have hnodup : ([w, w'].map Write.ref).Nodup := by simpa using hne
  rcases h with h | h
  · exact ⟨hcurrent, _, .inl rfl, h⟩
  · exact ⟨hcurrent, _, .inr ⟨.swap w w' [], hnodup⟩, h⟩

/-! ## Deposits -/

/-- A deposit in bitcoin: an entry on the owner of the invoice. -/
theorem depositBtc_entry (msg : Deposit) (invoice : Invoice) :
    Ensures (depositBtc cfg env msg invoice) s fun _ s' =>
      Entry env (· = asU64 invoice.uid) True s s' := by
  unfold depositBtc
  dsimp only
  refine (getOrOpenAccount_stage _ _ _).bind ?_
  intro inbound s₁ h
  obtain ⟨h₁, hin, -⟩ := h
  refine getLiabilityAccount_stage.bind ?_
  intro liability s₂ h
  obtain ⟨h₂, hli, -⟩ := h
  have hst := h₁.opened h₂
  have hin := h₂.keeps hin
  refine (makeTx_stage _ _ _ _ _ _).bind ?_
  intro r s₃ htx
  split
  next liability' inbound' txid =>
    obtain ⟨row, hrow, h₃⟩ := htx.row txid rfl
    obtain ⟨-, -, -, rfl, rfl⟩ := htx.stored txid rfl
    generalize (Money.fromSats invoice.value).value = v at *
    let w : Write := ⟨.user (asU64 invoice.uid), inbound, v⟩
    let w' : Write := ⟨.bank, liability, -v⟩
    have hne : w.ref ≠ w'.ref := by simp [w, w', Write.ref]
    refine (insertIntoLedger_writes (.refl env s₃) _ _ _).bind ?_
    intro _ s₄ hw
    refine (putAccount_writes hw w').bind ?_
    intro _ s₅ hw
    refine (updateAccount_writes hw w).bind ?_
    intro _ s₆ hw
    refine (updateAccount_writes hw w').bind ?_
    intro _ s₇ hw
    have hcommit : Commit env [w, w'] s₃ s₇ :=
      .of_pair (h₃.keeps hin) (h₃.keeps hli) hne (.inl hw)
    refine Ensures.mono (R := fun _ s' => Aside s₇ s') ?_ fun _ s' ha =>
      .mk [row] [w, w'] s₃ s₇ (hst.trans h₃) hcommit ha ?_ fun _ => ?_
    · refine (makeSummaryTx_aside _).bind ?_
      intro r s₈ h₈
      split
      next =>
        refine (updateInvoice_aside _).bind ?_
        intro _ s₉ h₉
        refine (notifyPaid_aside _ _).bind ?_
        intro _ s₁₀ h₁₀
        exact (publishIfZapNote_aside _ _ _ _ _).mono fun _ s' h' =>
          ((h₈.trans h₉).trans h₁₀).trans h'
      next => exact h₈
    · simp [w, w']
    · exact Explains.pair w' w hrow rfl rfl (.swap _ _ []) hne.symm
  next hno => exact .opened (hst.opened (htx.refused hno))

/-- The row of a dealer's deposit is stored whenever its copies are changed. -/
theorem handleDealerDeposit_entry (msg : Deposit) :
    Ensures (handleDealerDeposit env msg) s fun _ s' =>
      Entry env (fun _ => False) (env.db (.txConn 0) = true → TxStored env s 0 0) s s' := by
  unfold handleDealerDeposit
  refine Ensures.ite (fun _ => .opened (.refl env s)) fun _ => ?_
  refine (findInvoice_spec _ _).bind ?_
  intro found s₀ h
  obtain ⟨rfl, -⟩ := h
  split
  next invoice =>
    split
    next reference _ =>
      refine Ensures.ite (fun _ => .opened (.refl env s₀)) fun _ => ?_
      dsimp only
      generalize ho : (if reference = "KolliderSettlement" then Owner.dealer else Owner.bank) = o
      have hnot : ∀ uid, o ≠ .user uid := by
        intro uid
        rw [← ho]
        split
        · simp
        · simp
      refine (getDealerAccount_stage _ _).bind ?_
      intro inbound s₁ h
      obtain ⟨h₁, hin, hinc, hint, hsame₁⟩ := h
      refine (getDefaultAccount_stage _ _ _ fun _ => rfl).bind ?_
      intro outbound s₂ h
      obtain ⟨h₂, hout, houtc, houtt, hsame₂⟩ := h
      have hin := h₂.keeps hin
      have hst := h₁.opened h₂
      have hsame := hsame₁.trans hsame₂
      generalize Money.fromSats invoice.value = amount
      refine (makeTx_stage _ _ _ _ _ _).bind ?_
      intro r s₃ htx
      obtain ⟨d, hro, hri⟩ := htx.exists_delta
      rw [hro, hri]
      let w : Write := ⟨.dealer, inbound, d⟩
      let w' : Write := ⟨o, outbound, -d⟩
      -- internal and external: two different accounts
      have hne : w.ref ≠ w'.ref := by
        intro e
        have e : ((.dealer, inbound.accountId) : AccountRef) = (o, outbound.accountId) := e
        rw [← e, hin] at hout
        obtain rfl := Option.some.inj hout
        rw [hint] at houtt
        exact absurd (houtt _ rfl) (by decide)
      have hin := htx.booked.keeps hin
      have hout := htx.booked.keeps hout
      refine (putAccount_writes (.refl env s₃) w).bind ?_
      intro _ s₄ hw
      refine (updateAccount_writes hw w).bind ?_
      intro _ s₅ hw
      refine (putAccount_writes hw w').bind ?_
      intro _ s₆ hw
      refine (updateAccount_writes hw w').mono fun _ s₇ hw => ?_
      have hcommit : Commit env [w, w'] s₃ s₇ := .of_pair hin hout hne (.inl hw)
      have husers : ∀ x ∈ [w, w'], ∀ uid, x.owner = .user uid → False := by
        simp [w, w', hnot]
      by_cases hok : ∃ txid, r.result = .ok txid
      · obtain ⟨txid, hok⟩ := hok
        obtain ⟨row, hrow, h₃⟩ := htx.row txid hok
        obtain ⟨-, -, -, -, hri'⟩ := htx.stored txid hok
        have hd : d = amount.value := by
          have hbal := congrArg Account.balance (hri.symm.trans hri')
          simpa using hbal
        exact .mk [row] [w, w'] s₃ s₇ (hst.trans h₃) hcommit (.refl s₇) husers fun _ =>
          Explains.pair w' w hrow (by rw [← hd]) hd (.swap _ _ []) hne.symm
      · have hno : ∀ txid, r.result ≠ .ok txid := fun txid h => hok ⟨txid, h⟩
        refine .mk [] [w, w'] s₃ s₇ (hst.opened (htx.noRow hno)) hcommit (.refl s₇) husers ?_
        intro hstored
        -- no row and nothing changed: the copies are written back as they were
        have hd : d = 0 := by
          by_contra hd
          have hout' : r.outbound ≠ outbound := by
            intro e
            have hbal := congrArg Account.balance (hro.symm.trans e)
            simp [hd] at hbal
          obtain ⟨e, -⟩ | ⟨hv, hc, -⟩ := htx.copies
          · exact hout' e
          · have hconn := htx.connected.resolve_left fun e => hout' e.1
            obtain ⟨txid, hres⟩ := htx.succeeds hv hc ((hsame 0 0).mpr (hstored hconn))
            exact hno txid hres
        refine ⟨[], rfl, by simp, by simp, fun ref => ?_, by simpa using hne⟩
        simp [w, w', Write.booking, hd]
    next => exact .opened (.refl env s₀)
  next => exact .opened (.refl env s₀)

/-- A deposit is booked on the user of its invoice, if that is not the dealer. -/
theorem deposit_entry (msg : Deposit) :
    Ensures (deposit cfg env msg) s fun _ s' =>
      Entry env
        (fun uid => ∃ i, s.db.invoiceByPaymentRequest msg.paymentRequest = some i ∧
          uid = asU64 i.uid ∧ uid ≠ DEALER_UID)
        (∀ i, s.db.invoiceByPaymentRequest msg.paymentRequest = some i → asU64 i.uid = DEALER_UID →
          env.db (.txConn 0) = true → TxStored env s 0 0) s s' := by
  unfold deposit
  refine Ensures.ite (fun _ => .opened (.refl env s)) fun _ => ?_
  refine (findInvoice_spec _ _).bind ?_
  intro found s₀ h
  obtain ⟨rfl, hfound, -⟩ := h
  cases found with
  | none => exact .opened (.refl env s₀)
  | some invoice =>
    have hfound := hfound invoice rfl
    dsimp only
    refine Ensures.ite (fun howner => ?_) fun hother => ?_
    · refine (handleDealerDeposit_entry msg).bind ?_
      intro _ s' h
      exact h.mono (fun _ hf => hf.elim) fun hr => hr invoice hfound howner
    refine Ensures.lift_bind fun currency _ => Ensures.lift_bind fun target _ => ?_
    refine Ensures.ite (fun _ => ?_) fun _ => ?_
    · exact (send_stage _ _).bind fun _ s' h => .opened h
    · exact (depositBtc_entry msg invoice).mono fun _ s' h =>
        h.mono (fun uid hu => ⟨invoice, hfound, hu, by rwa [hu]⟩) fun _ => trivial

/-- The amount that an exchange gives, if it gives one, is positive where the
amount exchanged is. -/
def ExchangesToSome (amount : Money) (rate : Option Rate) : Prop :=
  ∀ r exchanged, rate = some r → amount.exchange r = .ok (.ok exchanged) → 0 < amount.value →
    0 < exchanged.value

/-- A deposit the dealer has priced: two rows, on its user. -/
theorem fiatDepositResponse_entry (msg : FiatDepositResponse) :
    Ensures (fiatDepositResponse env msg) s fun _ s' =>
      Entry env (· = msg.uid)
        (msg.currency ≠ .BTC ∧ ExchangesToSome msg.amount msg.rate ∧
          (TxStored env s 0 0 → TxStored env s 1 1)) s s' := by
  unfold fiatDepositResponse
  refine Ensures.ite (fun _ => .opened (.refl env s)) fun _ => ?_
  refine Ensures.ite (fun _ => .opened (.refl env s)) fun _ => ?_
  refine (findInvoice_spec _ _).bind ?_
  intro found s₀ h
  obtain ⟨rfl, -⟩ := h
  cases found with
  | none => exact .opened (.refl env s₀)
  | some invoice =>
    dsimp only
    split
    next rate hrate =>
      refine (getOrOpenAccount_stage _ _ _).bind ?_
      intro inbound s₁ h
      obtain ⟨h₁, hin, hinc, hsame₁⟩ := h
      refine (getDealerAccount_stage _ _).bind ?_
      intro fiatAcc s₂ h
      obtain ⟨h₂, hdf, hdfc, -, hsame₂⟩ := h
      refine (getDealerAccount_stage _ _).bind ?_
      intro btcAcc s₃ h
      obtain ⟨h₃, hdb, hdbc, -, hsame₃⟩ := h
      refine getLiabilityAccount_stage.bind ?_
      intro liability s₄ h
      obtain ⟨h₄, hli, hlic, -, hsame₄⟩ := h
      have hst := ((h₁.opened h₂).opened h₃).opened h₄
      have hsame := ((hsame₁.trans hsame₂).trans hsame₃).trans hsame₄
      have hin := h₄.keeps (h₃.keeps (h₂.keeps hin))
      have hdf := h₄.keeps (h₃.keeps hdf)
      have hdb := h₄.keeps hdb
      refine Ensures.lift_bind fun exchanged hex => Ensures.lift_bind fun fiat hfi => ?_
      have hex : msg.amount.exchange rate = .ok (.ok fiat) := by
        rw [hex, Checked.unwrapOk_eq_ok.mp hfi]
      refine (makeTx_stage _ _ _ _ _ _).bind ?_
      intro r s₅ htx
      split
      next liability' btcAcc' outboundTxid =>
        obtain ⟨row, hrow, h₅⟩ := htx.row outboundTxid rfl
        obtain ⟨hv, -, hst₀, rfl, rfl⟩ := htx.stored outboundTxid rfl
        have hst := hst.trans h₅
        refine (makeTx_stage _ _ _ _ _ _).bind ?_
        intro r s₆ htx'
        split
        next fiatAcc' inbound' inboundTxid =>
          obtain ⟨row', hrow', h₆⟩ := htx'.row inboundTxid rfl
          obtain ⟨-, -, -, rfl, rfl⟩ := htx'.stored inboundTxid rfl
          have hst := hst.trans h₆
          have hin := h₆.keeps (h₅.keeps hin)
          have hdf := h₆.keeps (h₅.keeps hdf)
          have hdb := h₆.keeps (h₅.keeps hdb)
          have hli := h₆.keeps (h₅.keeps hli)
          let wu : Write := ⟨.user msg.uid, inbound, fiat.value⟩
          let wb : Write := ⟨.bank, liability, -msg.amount.value⟩
          let wd : Write := ⟨.dealer, btcAcc, msg.amount.value⟩
          let wf : Write := ⟨.dealer, fiatAcc, -fiat.value⟩
          refine (insertIntoLedger_writes (.refl env s₆) _ _ _).bind ?_
          intro _ s₇ hw
          refine (putAccount_writes hw wb).bind ?_
          intro _ s₈ hw
          refine (putAccount_writes hw wd).bind ?_
          intro _ s₉ hw
          refine (putAccount_writes hw wf).bind ?_
          intro _ s₁₀ hw
          refine (updateAccount_writes hw wu).bind ?_
          intro _ s₁₁ hw
          refine (updateAccount_writes hw wb).bind ?_
          intro _ s₁₂ hw
          refine (updateAccount_writes hw wd).bind ?_
          intro _ s₁₃ hw
          refine (updateAccount_writes hw wf).bind ?_
          intro _ s₁₄ hw
          have hcommit : Commit env [wu, wb, wd, wf] s₆ s₁₄ :=
            ⟨by simp [wu, wb, wd, wf, Write.ref, hin, hli, hdb, hdf], _, .inl rfl, hw⟩
          refine sendBankState_aside.bind ?_
          intro _ s₁₅ h₁₅
          refine Ensures.mono (R := fun _ s' => Aside s₁₅ s') ?_ fun _ s' ha =>
            .mk [row, row'] [wu, wb, wd, wf] s₆ s₁₄ hst hcommit (h₁₅.trans ha) ?_ fun hr => ?_
          · refine (makeSummaryTx_aside _).bind ?_
            intro r s₁₆ h₁₆
            split
            next =>
              refine (updateInvoice_aside _).bind ?_
              intro _ s₁₇ h₁₇
              exact (notifyPaid_aside _ _).mono fun _ s' h' => (h₁₆.trans h₁₇).trans h'
            next => exact h₁₆
          · simp [wu, wb, wd, wf]
          · have hne : btcAcc.accountId ≠ fiatAcc.accountId := fun e =>
              Ledger.ref_ne_of_currency hdb hdf (by rw [hdbc, hdfc]; exact hr.1.symm) (by rw [e])
            refine Explains.two wb wd wf wu hrow hrow' rfl rfl rfl rfl ?_ ?_
            · exact (List.perm_append_singleton wu [wb, wd, wf]).symm
            · simp [wu, wb, wd, wf, Write.ref, hne]
        next hno =>
          refine .gaveUp (hst.opened (htx'.refused hno)) fun hr => ?_
          -- the second transfer takes the next key, so it is stored
          have hnext : TxStored env s₅ 1 0 := (htx.next outboundTxid rfl 1 0).mpr
            ((hsame 1 1).mpr (hr.2.2 ((hsame 0 0).mp hst₀)))
          obtain ⟨txid, hok⟩ := htx'.succeeds (hr.2.1 rate fiat hrate hex hv) (by rw [hdfc, hinc])
            hnext
          exact (hno _ _ _ (by rw [← hok])).elim
      next hno => exact .opened (hst.opened (htx.refused hno))
    next => exact .opened (.refl env s₀)

/-! ## Payments of the dealer -/

/-- An invoice of the dealer: an entry on no user. -/
theorem processDealerInvoice_entry (msg : PayInvoice) (isExternal : Bool) :
    Ensures (processDealerInvoice cfg env msg isExternal) s fun _ s' =>
      Entry env (fun _ => False) True s s' := by
  unfold processDealerInvoice
  split
  next decoded _ =>
    split
    next millisats _ =>
      refine Ensures.lift_bind fun result _ => ?_
      split
      next =>
        dsimp only
        generalize ho : (if isExternal = true then Owner.bank else Owner.dealer) = o
        generalize Money.fromSats _ = amount
        have hnot : ∀ uid, o ≠ .user uid := by
          intro uid
          rw [← ho]
          split
          · simp
          · simp
        refine (getDefaultAccount_stage _ _ _ fun _ => rfl).bind ?_
        intro inbound s₁ h
        obtain ⟨h₁, hin, hinc, hint, -⟩ := h
        refine (getDealerAccount_stage _ _).bind ?_
        intro outbound s₂ h
        obtain ⟨h₂, hout, houtc, houtt, -⟩ := h
        have hin := h₂.keeps hin
        have hst := h₁.opened h₂
        refine (makeTx_stage _ _ _ _ _ _).bind ?_
        intro r s₃ htx
        split
        next outbound' inbound' txid =>
          obtain ⟨row, hrow, h₃⟩ := htx.row txid rfl
          obtain ⟨-, -, -, rfl, rfl⟩ := htx.stored txid rfl
          have hin := h₃.keeps hin
          have hout := h₃.keeps hout
          let w : Write := ⟨o, inbound, amount.value⟩
          let w' : Write := ⟨.dealer, outbound, -amount.value⟩
          have hne : w.ref ≠ w'.ref := by
            intro e
            have e : ((o, inbound.accountId) : AccountRef) = (.dealer, outbound.accountId) := e
            rw [e, hout] at hin
            obtain rfl := Option.some.inj hin
            rw [houtt] at hint
            exact absurd (hint _ rfl) (by decide)
          refine (updateAccount_writes (.refl env s₃) w).bind ?_
          intro _ s₄ hw
          refine (updateAccount_writes hw w').bind ?_
          intro _ s₅ hw
          refine (putAccount_writes hw w).bind ?_
          intro _ s₆ hw
          refine (putAccount_writes hw w').mono fun _ s₇ hw => ?_
          have hcommit : Commit env [w, w'] s₃ s₇ := .of_pair hin hout hne (.inl hw)
          exact .mk [row] [w, w'] s₃ s₇ (hst.trans h₃) hcommit (.refl s₇) (by simp [w, w', hnot])
            fun _ => Explains.pair w' w hrow rfl rfl (.swap _ _ []) hne.symm
        next hno => exact .opened (hst.opened (htx.refused hno))
      next => exact .opened (.refl env s)
    next => exact Ensures.panic _
  next => exact .opened (.refl env s)

/-! ## Payments between users -/

/-- The payer, or a user of this name. -/
def PayerOrNamed (env : Env) (payer : UserId) (username : String) (uid : UserId) : Prop :=
  uid = payer ∨ ∃ user, env.directory.userByUsername username = some user ∧ uid = asU64 user.uid

/-- The row is stored before the summary, the copies are written after it. -/
theorem makeInternalTx_entry {req : PaymentRequest} {username : String}
    (hrec : req.recipient = some username) :
    Ensures (makeInternalTx cfg env req) s fun _ s' =>
      Entry env (PayerOrNamed env req.uid username) (TxStored env s 0 0 → SummaryStored env s)
        s s' := by
  unfold makeInternalTx
  refine Ensures.ite (fun _ => .opened (.refl env s)) fun _ => ?_
  rw [hrec]
  dsimp only
  refine Ensures.lift_bind fun amount _ => ?_
  split
  next recipient hfound =>
    split
    next payer _ =>
      refine Ensures.ite (fun _ => .opened (.refl env s)) fun hother => ?_
      refine Ensures.get_bind ?_
      refine Ensures.ite (fun _ => .opened (.refl env s)) fun _ => ?_
      refine (getDefaultAccount_stage _ _ _ (by simp)).bind ?_
      intro outbound s₁ h
      obtain ⟨h₁, hout, -, -, hsame₁⟩ := h
      refine (getOrOpenAccount_stage _ _ _).bind ?_
      intro inbound s₂ h
      obtain ⟨h₂, hin, -, hsame₂⟩ := h
      have hst := h₁.opened h₂
      have hsame := hsame₁.trans hsame₂
      have hout := h₂.keeps hout
      refine Ensures.ite (fun _ => ?_) fun _ => ?_
      · exact (sendApi_stage _).bind fun _ s' h => .opened (hst.opened h)
      refine (makeTx_stage _ _ _ _ _ _).bind ?_
      intro r s₃ htx
      split
      next outbound' inbound' txid =>
        obtain ⟨row, hrow, h₃⟩ := htx.row txid rfl
        obtain ⟨hv, -, hst₀, rfl, rfl⟩ := htx.stored txid rfl
        have hst := hst.trans h₃
        have hout := h₃.keeps hout
        have hin := h₃.keeps hin
        refine ((makeSummaryTx_spec _).and (makeSummaryTx_aside _)).bind ?_
        intro r s₄ h
        obtain ⟨⟨hn, hsum, hfail⟩, ha⟩ := h
        split
        next =>
          let w : Write := ⟨.user (asU64 recipient.uid), inbound, amount.value⟩
          let w' : Write := ⟨.user req.uid, outbound, -amount.value⟩
          have hne : w.ref ≠ w'.ref := by simp [w, w', Write.ref, hother]
          refine (insertIntoLedger_writes (.refl env s₄) _ _ _).bind ?_
          intro _ s₅ hw
          refine (insertIntoLedger_writes hw _ _ _).bind ?_
          intro _ s₆ hw
          refine (updateAccount_writes hw w').bind ?_
          intro _ s₇ hw
          refine (updateAccount_writes hw w).bind ?_
          intro _ s₈ hw
          -- both copies are written back and stored, in the other order
          have hcommit : Commit env [w, w'] s₃ s₈ :=
            .of_pair hin hout hne (.inr (hw.after ha))
          refine (sendApi_aside _).bind ?_
          intro _ s' h'
          refine .mk [row] [w, w'] s₃ s₈ hst hcommit h' ?_ fun _ =>
            Explains.pair w' w hrow rfl rfl (.swap _ _ []) hne.symm
          intro x hx uid howner
          have hfound : env.directory.userByUsername username = some recipient := by
            split at hfound
            · exact hfound
            · exact absurd hfound (by simp)
          rcases List.mem_cons.mp hx with rfl | hx
          · injection howner with hu
            exact .inr ⟨recipient, hfound, hu.symm⟩
          · rw [List.mem_singleton.mp hx] at howner
            injection howner with hu
            exact .inl hu.symm
        next hno =>
          obtain ⟨issued, rfl⟩ := hfail fun txid e => hno txid e
          -- a summary that is not stored leaves only the number it was issued
          have hghost : Stage env s₃ [] { s₃ with issued } :=
            .of_booked (.of_eq rfl rfl rfl (.of_eq rfl rfl rfl)) rfl rfl rfl
          refine .gaveUp (hst.opened hghost) fun hr => ?_
          have hstored : SummaryStored env s₃ :=
            hst.summaryStored_iff.mpr (hr ((hsame 0 0).mp hst₀))
          obtain ⟨txid, hok⟩ := hsum.mpr ⟨hv, hstored⟩
          exact (hno txid hok).elim
      next hno => exact .opened (hst.opened (htx.refused hno))
    next => exact (sendApi_stage _).bind fun _ s' h => .opened h
  next => exact (sendApi_stage _).bind fun _ s' h => .opened h

/-! ## External payments -/

/-- A debit in fiat: two rows, on the payer. -/
theorem debitFiat_entry {p : Outgoing} {outbound liability : Account}
    (hfiat : p.msg.currency ≠ .BTC)
    (hout : s.ledger.get (.user p.msg.uid, outbound.accountId) = some outbound)
    (hli : s.ledger.get (.bank, liability.accountId) = some liability)
    (hlic : liability.currency = .BTC) :
    Ensures (debitFiat env p outbound liability) s fun _ s' =>
      Entry env (· = p.msg.uid)
        ((0 < p.debit.value → 0 < p.totalInBtc.value) ∧
          (TxStored env s 0 0 → TxStored env s 1 1)) s s' := by
  unfold debitFiat
  dsimp only
  refine (getDealerAccount_stage _ _).bind ?_
  intro fiatAcc s₁ h
  obtain ⟨h₁, hdf, hdfc, -, hsame₁⟩ := h
  refine (makeTx_stage _ _ _ _ _ _).bind ?_
  intro r s₂ htx
  split
  next outbound' fiatAcc' outboundTxid =>
    obtain ⟨row, hrow, h₂⟩ := htx.row outboundTxid rfl
    obtain ⟨hv, -, hst₀, rfl, rfl⟩ := htx.stored outboundTxid rfl
    have hst := h₁.trans h₂
    refine (getDealerAccount_stage _ _).bind ?_
    intro btcAcc s₃ h
    obtain ⟨h₃, hdb, hdbc, -, hsame₃⟩ := h
    have hst := hst.opened h₃
    refine (makeTx_stage _ _ _ _ _ _).bind ?_
    intro r s₄ htx'
    split
    next btcAcc' liability' inboundTxid =>
      obtain ⟨row', hrow', h₄⟩ := htx'.row inboundTxid rfl
      obtain ⟨-, -, -, rfl, rfl⟩ := htx'.stored inboundTxid rfl
      have hst := hst.trans h₄
      have hout := hst.keeps hout
      have hli := hst.keeps hli
      have hdf := h₄.keeps (h₃.keeps (h₂.keeps hdf))
      have hdb := h₄.keeps hdb
      have hne : fiatAcc.accountId ≠ btcAcc.accountId := fun e =>
        Ledger.ref_ne_of_currency hdf hdb (by rw [hdbc, hdfc]; exact hfiat) (by rw [e])
      let wu : Write := ⟨.user p.msg.uid, outbound, -p.debit.value⟩
      let wb : Write := ⟨.bank, liability, p.totalInBtc.value⟩
      let wf : Write := ⟨.dealer, fiatAcc, p.debit.value⟩
      let wd : Write := ⟨.dealer, btcAcc, -p.totalInBtc.value⟩
      have hnodup : ([wu, wb, wf, wd].map Write.ref).Nodup := by
        simp [wu, wb, wf, wd, Write.ref, hne]
      refine (insertIntoLedger_writes (.refl env s₄) _ _ _).bind ?_
      intro _ s₅ hw
      refine (putAccount_writes hw wb).bind ?_
      intro _ s₆ hw
      refine (putAccount_writes hw wf).bind ?_
      intro _ s₇ hw
      refine (putAccount_writes hw wd).bind ?_
      intro _ s₈ hw
      refine (updateAccount_writes hw wu).bind ?_
      intro _ s₉ hw
      refine (updateAccount_writes hw wb).bind ?_
      intro _ s₁₀ hw
      refine (updateAccount_writes hw wd).bind ?_
      intro _ s₁₁ hw
      refine (updateAccount_writes hw wf).bind ?_
      intro _ s₁₂ hw
      have hcommit : Commit env [wu, wb, wf, wd] s₄ s₁₂ :=
        ⟨by simp [wu, wb, wf, wd, Write.ref, hout, hli, hdb, hdf], _,
          .inr ⟨.cons _ (.cons _ (.swap _ _ [])), hnodup⟩, hw⟩
      have hentry : ∀ {s'}, Aside s₁₂ s' → Entry env (· = p.msg.uid)
          ((0 < p.debit.value → 0 < p.totalInBtc.value) ∧
            (TxStored env s 0 0 → TxStored env s 1 1)) s s' := by
        intro s' ha
        refine .mk [row, row'] [wu, wb, wf, wd] s₄ s₁₂ hst hcommit ha ?_ fun _ => ?_
        · simp [wu, wb, wf, wd]
        · refine Explains.two wu wf wd wb hrow hrow' rfl rfl rfl rfl (.cons _ ?_) hnodup
          exact (List.perm_append_singleton wb [wf, wd]).symm
      refine (makeSummaryTx_aside _).bind ?_
      intro r s' ha
      split
      next => exact hentry ha
      next => exact hentry ha
    next hno =>
      refine .gaveUp (hst.opened (htx'.refused hno)) fun hr => ?_
      -- the second transfer takes the next key, so it is stored
      have hnext : TxStored env s₃ 1 0 := (hsame₃ 1 0).mpr ((htx.next outboundTxid rfl 1 0).mpr
        ((hsame₁ 1 1).mpr (hr.2 ((hsame₁ 0 0).mp hst₀))))
      obtain ⟨txid, hok⟩ := htx'.succeeds (hr.1 hv) (by rw [hdbc, hlic]) hnext
      exact (hno _ _ _ (by rw [← hok])).elim
  next hno => exact .opened (h₁.opened (htx.refused hno))

/-- A debit in bitcoin: one row, on the payer. -/
theorem debitBtc_entry {p : Outgoing} {outbound liability : Account}
    (hout : s.ledger.get (.user p.msg.uid, outbound.accountId) = some outbound)
    (hli : s.ledger.get (.bank, liability.accountId) = some liability) :
    Ensures (debitBtc env p outbound liability) s fun _ s' =>
      Entry env (· = p.msg.uid) True s s' := by
  unfold debitBtc
  dsimp only
  refine (makeTx_stage _ _ _ _ _ _).bind ?_
  intro r s₁ htx
  split
  next outbound' liability' txid =>
    obtain ⟨row, hrow, h₁⟩ := htx.row txid rfl
    obtain ⟨-, -, -, rfl, rfl⟩ := htx.stored txid rfl
    let w : Write := ⟨.bank, liability, p.debit.value⟩
    let w' : Write := ⟨.user p.msg.uid, outbound, -p.debit.value⟩
    have hne : w.ref ≠ w'.ref := by simp [w, w', Write.ref]
    refine (putAccount_writes (.refl env s₁) w).bind ?_
    intro _ s₂ hw
    refine (insertIntoLedger_writes hw _ _ _).bind ?_
    intro _ s₃ hw
    refine (updateAccount_writes hw w').bind ?_
    intro _ s₄ hw
    refine (updateAccount_writes hw w).bind ?_
    intro _ s₅ hw
    have hcommit : Commit env [w, w'] s₁ s₅ :=
      .of_pair (h₁.keeps hli) (h₁.keeps hout) hne (.inr hw)
    have hentry : ∀ {s'}, Aside s₅ s' → Entry env (· = p.msg.uid) True s s' := fun ha =>
      .mk [row] [w, w'] s₁ s₅ h₁ hcommit ha (by simp [w, w']) fun _ =>
        Explains.pair w' w hrow rfl rfl (.swap _ _ []) hne.symm
    refine (makeSummaryTx_aside _).bind ?_
    intro r s' ha
    split
    next => exact hentry ha
    next => exact hentry ha
  next hno => exact (sendApi_stage _).bind fun _ s' h => .opened ((htx.refused hno).opened h)

/-- A payment over the node is one of the two. -/
theorem payExternally_entry {p : Outgoing} {outbound : Account}
    (hout : s.ledger.get (.user p.msg.uid, outbound.accountId) = some outbound) :
    Ensures (payExternally env p outbound) s fun _ s' =>
      Entry env (· = p.msg.uid)
        (p.msg.currency ≠ .BTC → (0 < p.debit.value → 0 < p.totalInBtc.value) ∧
          (TxStored env s 0 0 → TxStored env s 1 1)) s s' := by
  unfold payExternally
  refine getLiabilityAccount_stage.bind ?_
  intro liability s₁ h
  obtain ⟨h₁, hli, hlic, -, hsame⟩ := h
  have hout := h₁.keeps hout
  refine Ensures.bind (R := fun _ s' => Entry env (· = p.msg.uid)
    (p.msg.currency ≠ .BTC → (0 < p.debit.value → 0 < p.totalInBtc.value) ∧
      (TxStored env s 0 0 → TxStored env s 1 1)) s s') ?_ ?_
  · refine Ensures.ite (fun hfiat => ?_) fun _ => ?_
    · refine (debitFiat_entry hfiat hout hli hlic).mono fun _ s' h => .after h₁ ?_
      exact h.mono (fun _ hu => hu) fun hr => ⟨(hr hfiat).1, fun h₀ =>
        (hsame 1 1).mpr ((hr hfiat).2 ((hsame 0 0).mp h₀))⟩
    · exact (debitBtc_entry hout hli).mono fun _ s' h =>
        .after h₁ (h.mono (fun _ hu => hu) fun _ => trivial)
  intro goes s₂ h₂
  refine Ensures.ite (fun _ => ?_) fun _ => h₂
  exact Ensures.lift_bind fun _ _ => Ensures.lift_bind fun _ _ => h₂.then_aside ⟨rfl, rfl, rfl⟩

/-! ## Payment requests -/

/-- The request pays a user of the platform, by name or through an invoice. -/
inductive PaysTo (cfg : Config) (env : Env) (db : Db) (msg : PaymentRequest) : String → Prop
  | named (username : String) (route : routeRecipient cfg env msg = .user username) :
      PaysTo cfg env db msg username
  | owner (pr : String) (i : Invoice) (uid : Int) (user : User)
      (hpr : msg.paymentRequest = some pr) (fetched : env.db .invoiceGet = true)
      (found : db.invoiceByPaymentRequest pr = some i) (howner : i.owner = some uid)
      (huser : env.directory.userById uid = some user) : PaysTo cfg env db msg user.username

/-- The users a payment request may book on. -/
def PaymentBooksOn (cfg : Config) (env : Env) (s : State) (msg : PaymentRequest) (uid : UserId) :
    Prop :=
  uid = msg.uid ∨ ∃ username, PaysTo cfg env s.db msg username ∧
    PayerOrNamed env msg.uid username uid

/-- No row of the payment is stored without what it stands for: a summary that
cannot be stored stops a transfer between users, and a second row that cannot
be stored, or a negative rate, stops a payment in fiat. -/
def PaymentRecorded (cfg : Config) (env : Env) (s : State) (msg : PaymentRequest) : Prop :=
  (∀ username, PaysTo cfg env s.db msg username → TxStored env s 0 0 → SummaryStored env s) ∧
  ((∀ username, ¬PaysTo cfg env s.db msg username) → msg.currency ≠ .BTC →
    (∀ r, msg.rate = some r → 0 ≤ r.value) ∧ (TxStored env s 0 0 → TxStored env s 1 1))

/-- The owner of an invoice is paid: an entry on both users. -/
theorem payOwner_entry {msg : PaymentRequest} {invoice : Invoice} {owner : Int} :
    Ensures (payOwner cfg env msg invoice owner) s fun _ s' =>
      (∃ user, env.directory.userById owner = some user ∧
        Entry env (PayerOrNamed env msg.uid user.username)
          (TxStored env s 0 0 → SummaryStored env s) s s') ∨ Stage env s [] s' := by
  unfold payOwner
  split
  next user huser =>
    have huser : env.directory.userById owner = some user := by
      split at huser
      · exact huser
      · exact absurd huser (by simp)
    refine (makeInternalTx_entry rfl).bind ?_
    intro r s₁ h₁
    split
    next =>
      refine (updateInvoice_aside _).bind ?_
      intro _ s₂ h₂
      exact (publishIfZapNote_aside _ _ _ _ _).mono fun _ s' h' =>
        .inl ⟨user, huser, (h₁.then_aside h₂).then_aside h'⟩
    next => exact .inl ⟨user, huser, h₁⟩
  next => exact (sendApi_stage _).mono fun _ s' h => .inr h

/-- The invoice to be paid is looked up or stored. -/
theorem findOrInsertInvoice_stage (msg : PaymentRequest) (pr : String) (decoded : Bolt11)
    (millisats : Nat) :
    Ensures (findOrInsertInvoice env msg pr decoded millisats) s fun _ s' => Stage env s [] s' := by
  unfold findOrInsertInvoice
  refine (findInvoice_spec _ _).bind ?_
  intro found s₀ h
  obtain ⟨rfl, -⟩ := h
  cases found with
  | some invoice => exact .refl env s₀
  | none => exact (insertInvoice_stage _).bind fun _ s' h => h

/-- A payment with a price goes one of these ways. -/
theorem payPriced_entry {msg₀ msg : PaymentRequest} {pr : String} {decoded : Bolt11}
    {millisats : UInt64} {outbound : Account} {s₀ : State} (outboundName inboundName : String)
    (hst : Stage env s₀ [] s) (hdb : s.db = s₀.db) (hsame : SameTx env s₀ s)
    (hout : s.ledger.get (.user msg₀.uid, outbound.accountId) = some outbound)
    (huid : msg.uid = msg₀.uid) (hcur : msg.currency = msg₀.currency)
    (hpr : msg₀.paymentRequest = some pr) (hrate : msg₀.currency ≠ .BTC → msg.rate = msg₀.rate)
    (hroute : ∀ username, routeRecipient cfg env msg₀ ≠ .user username) :
    Ensures (payPriced cfg env msg pr decoded millisats outbound outboundName inboundName) s
      fun _ s' => Entry env (PaymentBooksOn cfg env s₀ msg₀) (PaymentRecorded cfg env s₀ msg₀)
        s₀ s' := by
  unfold payPriced
  dsimp only
  refine Ensures.lift_bind fun rate hr => ?_
  have hr : msg.rate = some rate := Checked.unwrap_eq_ok.mp hr
  refine Ensures.lift_bind fun exchanged _ => Ensures.lift_bind fun amount _ => ?_
  refine ((findOrInsertInvoice_spec _ _ _ _).and (findOrInsertInvoice_stage _ _ _ _)).bind ?_
  intro found s₁ h
  obtain ⟨⟨-, -, hsame₁, hsome, -⟩, h₁⟩ := h
  have hst := hst.opened h₁
  have hsame := hsame.trans hsame₁
  cases found with
  | none => exact .opened hst
  | some invoice =>
    obtain ⟨hcase, -⟩ := hsome invoice rfl
    rw [hdb] at hcase
    dsimp only
    refine Ensures.ite (fun _ => ?_) fun _ => ?_
    · exact (sendApi_stage _).mono fun _ s' h => .opened (hst.opened h)
    refine Ensures.ite (fun _ => ?_) fun _ => ?_
    · exact (sendApi_stage _).mono fun _ s' h => .opened (hst.opened h)
    refine Ensures.lift_bind fun price hprice => ?_
    obtain ⟨fee, total, debit⟩ := price
    dsimp only
    refine Ensures.ite (fun _ => ?_) fun _ => ?_
    · exact (sendApi_stage _).mono fun _ s' h => .opened (hst.opened h)
    cases howner : invoice.owner with
    | some owner =>
      -- only a stored invoice has an owner
      obtain ⟨hget, hfound⟩ : env.db .invoiceGet = true ∧
          s₀.db.invoiceByPaymentRequest pr = some invoice := by
        rcases hcase with h | ⟨-, ho⟩
        · exact h
        · rw [ho] at howner
          exact absurd howner (by simp)
      refine payOwner_entry.mono fun _ s' h => ?_
      rcases h with ⟨user, huser, h⟩ | h
      · have hpays : PaysTo cfg env s₀.db msg₀ user.username :=
          .owner pr invoice owner user hpr hget hfound howner huser
        refine .after hst (h.mono (fun uid hu => ?_) fun hrec hst₀ => ?_)
        · have hu : PayerOrNamed env msg₀.uid user.username uid := by rwa [← huid]
          exact .inr ⟨user.username, hpays, hu⟩
        · exact hst.summaryStored_iff.mpr (hrec.1 _ hpays ((hsame 0 0).mp hst₀))
      · exact .opened (hst.opened h)
    | none =>
      have hno : ∀ username, ¬PaysTo cfg env s₀.db msg₀ username := by
        intro username hpays
        cases hpays with
        | named _ route => exact hroute username route
        | owner pr' i uid user hpr' fetched found howner' huser =>
          obtain rfl := Option.some.inj (hpr.symm.trans hpr')
          rcases hcase with ⟨-, hfound⟩ | ⟨hnone, -⟩
          · obtain rfl := Option.some.inj (hfound.symm.trans found)
            rw [howner] at howner'
            exact absurd howner' (by simp)
          · rw [hnone fetched] at found
            exact absurd found (by simp)
      have hheld := h₁.keeps hout
      rw [← huid] at hheld
      refine (payExternally_entry hheld).mono fun _ s' h =>
        .after hst (h.mono (fun uid hu => .inl ?_) fun hrec hfiat => ?_)
      · rw [hu]
        exact huid
      have hfiat : msg₀.currency ≠ .BTC := by rwa [← hcur]
      obtain ⟨hnonneg, hlegs⟩ := hrec.2 hno hfiat
      refine ⟨fun hdebit => ?_, fun h₀ => (hsame 1 1).mpr (hlegs ((hsame 0 0).mp h₀))⟩
      by_contra htotal
      have hrate₀ : 0 ≤ rate.value := hnonneg rate (by rw [← hrate hfiat, hr])
      exact absurd hdebit (not_lt.mpr (Money.exchange_nonpos (priceOutgoing_eq_ok hprice).2.2 hrate₀
        (not_lt.mp htotal)))

/-- Before it has a price, accounts are opened at most. -/
theorem payLightning_entry {msg : PaymentRequest} {outbound : Account} {s₀ : State}
    (outboundName inboundName : String)
    (hst : Stage env s₀ [] s) (hdb : s.db = s₀.db) (hsame : SameTx env s₀ s)
    (hout : s.ledger.get (.user msg.uid, outbound.accountId) = some outbound)
    (hroute : ∀ username, routeRecipient cfg env msg ≠ .user username) :
    Ensures (payLightning cfg env msg outbound outboundName inboundName) s fun _ s' =>
      Entry env (PaymentBooksOn cfg env s₀ msg) (PaymentRecorded cfg env s₀ msg) s₀ s' := by
  unfold payLightning
  split
  next pr hpr =>
    split
    next decoded _ =>
      split
      next millisats _ =>
        dsimp only
        refine Ensures.ite (fun _ => ?_) fun _ => ?_
        · exact (send_stage _ _).mono fun _ s' h => .opened (hst.opened h)
        · rw [withInvoiceAmount_currency]
          by_cases hbtc : msg.currency = .BTC
          · rw [if_pos hbtc]
            exact payPriced_entry _ _ hst hdb hsame hout rfl rfl hpr
              (fun hf => absurd hbtc hf) hroute
          · rw [if_neg hbtc]
            exact payPriced_entry _ _ hst hdb hsame hout rfl rfl hpr (fun _ => rfl) hroute
      next => exact (sendApi_stage _).mono fun _ s' h => .opened (hst.opened h)
    next => exact (sendApi_stage _).mono fun _ s' h => .opened (hst.opened h)
  next => exact .opened hst

/-- Every payment request: an entry on the users it is between. -/
theorem paymentRequest_entry (msg : PaymentRequest) :
    Ensures (paymentRequest cfg env msg) s fun _ s' =>
      Entry env (PaymentBooksOn cfg env s msg) (PaymentRecorded cfg env s msg) s s' := by
  unfold paymentRequest
  refine (checkWithdrawalRequestRateLimit_spec _).bind ?_
  intro admitted s₁ h
  obtain ⟨hb, hl, hdb, hsame, -⟩ := h
  have h₁ : Stage env s [] s₁ := .of_booked hb hl (by rw [hdb]) (by rw [hdb])
  refine Ensures.ite (fun _ => ?_) fun _ => ?_
  · exact (sendApi_stage _).mono fun _ s' h => .opened (h₁.opened h)
  refine Ensures.get_bind ?_
  refine Ensures.ite (fun _ => ?_) fun _ => ?_
  · exact (sendApi_stage _).mono fun _ s' h => .opened (h₁.opened h)
  refine ((getDefaultAccount_stage _ _ _ (by simp)).and (getDefaultAccount_balance _ _ _)).bind ?_
  intro outbound s₂ h
  obtain ⟨⟨h₂, hout, -, -, hsame₂⟩, -, hdb₂⟩ := h
  have hst := h₁.opened h₂
  have hsame := hsame.trans hsame₂
  refine Ensures.ite (fun _ => ?_) fun _ => ?_
  · exact (sendApi_stage _).mono fun _ s' h => .opened (hst.opened h)
  refine Ensures.ite (fun _ => ?_) fun _ => ?_
  · exact (sendApi_stage _).mono fun _ s' h => .opened (hst.opened h)
  split
  next payer _ =>
    split
    next username hroute =>
      refine (makeInternalTx_entry rfl).bind ?_
      intro r s' h
      have hpays : PaysTo cfg env s.db msg username := .named username hroute
      refine .after hst (h.mono (fun uid hu => .inr ⟨username, hpays, hu⟩) fun hrec h₀ => ?_)
      exact hst.summaryStored_iff.mpr (hrec.1 _ hpays ((hsame 0 0).mp h₀))
    next inboundName hroute =>
      refine payLightning_entry _ _ hst (hdb₂.trans hdb) hsame hout fun username h => ?_
      rw [hroute] at h
      exact absurd h (by simp)
  next => exact .opened hst

/-! ## Results of payments -/

/-- What the node did not charge: an entry on no user. -/
theorem moveExcessFees_entry {liabilities dealerBtc : Account} (excess : Decimal)
    (hli : s.ledger.get (.bank, liabilities.accountId) = some liabilities)
    (hdb : s.ledger.get (.dealer, dealerBtc.accountId) = some dealerBtc) :
    Ensures (moveExcessFees env excess liabilities dealerBtc) s fun _ s' =>
      Entry env (fun _ => False) True s s' := by
  refine Ensures.ite (fun _ => .opened (.refl env s)) fun _ => ?_
  generalize Money.new .BTC excess = amount
  refine (makeTx_stage _ _ _ _ _ _).bind ?_
  intro r s₁ htx
  split
  next liabilities' dealerBtc' txid =>
    obtain ⟨row, hrow, h₁⟩ := htx.row txid rfl
    obtain ⟨-, -, -, rfl, rfl⟩ := htx.stored txid rfl
    let w : Write := ⟨.bank, liabilities, -amount.value⟩
    let w' : Write := ⟨.dealer, dealerBtc, amount.value⟩
    have hne : w.ref ≠ w'.ref := by simp [w, w', Write.ref]
    refine (putAccount_writes (.refl env s₁) w).bind ?_
    intro _ s₂ hw
    refine (putAccount_writes hw w').bind ?_
    intro _ s₃ hw
    refine (updateAccount_writes hw w').bind ?_
    intro _ s₄ hw
    refine (updateAccount_writes hw w).bind ?_
    intro _ s₅ hw
    have hcommit : Commit env [w, w'] s₁ s₅ :=
      .of_pair (h₁.keeps hli) (h₁.keeps hdb) hne (.inr hw)
    exact .mk [row] [w, w'] s₁ s₅ h₁ hcommit (.refl s₅) (by simp [w, w']) fun _ =>
      Explains.pair w w' hrow rfl rfl (.refl _) hne
  next hno => exact .opened (htx.refused hno)

/-- A payment that went through adds that much at most. -/
theorem settlePayment_entry {res : PaymentResult} {liabilities dealerBtc : Account}
    (hli : s.ledger.get (.bank, liabilities.accountId) = some liabilities)
    (hdb : s.ledger.get (.dealer, dealerBtc.accountId) = some dealerBtc) :
    Ensures (settlePayment env res liabilities dealerBtc) s fun _ s' =>
      Entry env (fun _ => False) True s s' := by
  unfold settlePayment
  refine Ensures.lift_bind fun paymentAmount _ => Ensures.lift_bind fun feesPaid _ => ?_
  refine Ensures.lift_bind fun spent _ => Ensures.lift_bind fun excess _ => ?_
  refine Ensures.ite (fun _ => Ensures.panic _) fun _ => ?_
  refine (moveExcessFees_entry excess hli hdb).bind ?_
  intro moved s₁ h₁
  refine Ensures.ite (fun _ => h₁) fun _ => ?_
  split
  next pr _ =>
    refine (findInvoice_spec _ _).bind ?_
    intro found s₂ h
    obtain ⟨rfl, -⟩ := h
    cases found with
    | none => exact h₁
    | some invoice =>
      refine Ensures.lift_bind fun sats _ => Ensures.lift_bind fun sats _ => ?_
      refine Ensures.lift_bind fun fees _ => ?_
      exact (updateInvoice_aside _).bind fun _ s₃ h₃ => h₁.then_aside h₃
  next => exact Ensures.panic _

/-- The first row of a refund names the user for an account of the dealer, so
the rows explain the refund only if there are none. -/
theorem refundFiat_entry {res : PaymentResult} {refund : Money} {liabilities inbound : Account}
    (hfiat : res.currency ≠ .BTC)
    (hli : s.ledger.get (.bank, liabilities.accountId) = some liabilities)
    (hin : s.ledger.get (.user res.uid, inbound.accountId) = some inbound) :
    Ensures (refundFiat env res refund liabilities inbound) s fun _ s' =>
      Entry env (· = res.uid) (¬TxStored env s 0 0) s s' := by
  unfold refundFiat
  dsimp only
  refine (getDealerAccount_stage _ _).bind ?_
  intro btcAcc s₁ h
  obtain ⟨h₁, hdb, hdbc, -, hsame₁⟩ := h
  refine (getDealerAccount_stage _ _).bind ?_
  intro fiatAcc s₂ h
  obtain ⟨h₂, hdf, hdfc, -, hsame₂⟩ := h
  have hst := h₁.opened h₂
  have hsame := hsame₁.trans hsame₂
  have hdb := h₂.keeps hdb
  refine (makeTx_stage _ _ _ _ _ _).bind ?_
  intro r s₃ htx
  split
  next liabilities' btcAcc' outboundTxid =>
    obtain ⟨row, -, h₃⟩ := htx.row outboundTxid rfl
    obtain ⟨-, -, hst₀, rfl, rfl⟩ := htx.stored outboundTxid rfl
    have hst₀ : TxStored env s 0 0 := (hsame 0 0).mp hst₀
    have hst := hst.trans h₃
    refine (makeTx_stage _ _ _ _ _ _).bind ?_
    intro r s₄ htx'
    split
    next fiatAcc' inbound' inboundTxid =>
      obtain ⟨row', -, h₄⟩ := htx'.row inboundTxid rfl
      obtain ⟨-, -, -, rfl, rfl⟩ := htx'.stored inboundTxid rfl
      have hst := hst.trans h₄
      have hin := hst.keeps hin
      have hli := hst.keeps hli
      have hdf := h₄.keeps (h₃.keeps hdf)
      have hdb := h₄.keeps (h₃.keeps hdb)
      have hne : btcAcc.accountId ≠ fiatAcc.accountId := fun e =>
        Ledger.ref_ne_of_currency hdb hdf (by rw [hdbc, hdfc]; exact hfiat.symm) (by rw [e])
      let wb : Write := ⟨.bank, liabilities, -res.amount.value⟩
      let wd : Write := ⟨.dealer, btcAcc, res.amount.value⟩
      let wf : Write := ⟨.dealer, fiatAcc, -refund.value⟩
      let wu : Write := ⟨.user res.uid, inbound, refund.value⟩
      -- four different accounts, the dealer's two by their currencies
      have hnodup : ([wb, wd, wf, wu].map Write.ref).Nodup := by
        simp [wb, wd, wf, wu, Write.ref, hne]
      refine (putAccount_writes (.refl env s₄) wb).bind ?_
      intro _ s₅ hw
      refine (putAccount_writes hw wd).bind ?_
      intro _ s₆ hw
      refine (putAccount_writes hw wf).bind ?_
      intro _ s₇ hw
      refine (insertIntoLedger_writes hw _ _ _).bind ?_
      intro _ s₈ hw
      refine (updateAccount_writes hw wu).bind ?_
      intro _ s₉ hw
      refine (updateAccount_writes hw wb).bind ?_
      intro _ s₁₀ hw
      refine (updateAccount_writes hw wd).bind ?_
      intro _ s₁₁ hw
      refine (updateAccount_writes hw wf).bind ?_
      intro _ s₁₂ hw
      -- what is put into the ledger is also stored, the user's account first
      have hcommit : Commit env [wb, wd, wf, wu] s₄ s₁₂ :=
        ⟨by simp [wb, wd, wf, wu, Write.ref, hin, hli, hdb, hdf], _,
          .inr ⟨(List.perm_append_singleton wu [wb, wd, wf]).symm, hnodup⟩, hw⟩
      have hentry : ∀ {s'}, Aside s₁₂ s' → Entry env (· = res.uid) (¬TxStored env s 0 0) s s' :=
        fun ha => .mk [row, row'] [wb, wd, wf, wu] s₄ s₁₂ hst hcommit ha (by simp [wb, wd, wf, wu])
          fun hr => absurd hst₀ hr
      refine (makeSummaryTx_aside _).bind ?_
      intro r s' ha
      split
      next => exact hentry ha
      next => exact hentry ha
    next hno => exact .gaveUp (hst.opened (htx'.refused hno)) fun hr => absurd hst₀ hr
  next hno => exact .opened (hst.opened (htx.refused hno))

/-- A refund in bitcoin: one row, on the payer. -/
theorem refundBtc_entry {res : PaymentResult} {liabilities inbound : Account}
    (hli : s.ledger.get (.bank, liabilities.accountId) = some liabilities)
    (hin : s.ledger.get (.user res.uid, inbound.accountId) = some inbound) :
    Ensures (refundBtc env res liabilities inbound) s fun _ s' =>
      Entry env (· = res.uid) True s s' := by
  unfold refundBtc
  dsimp only
  refine (makeTx_stage _ _ _ _ _ _).bind ?_
  intro r s₁ htx
  split
  next liabilities' inbound' txid =>
    obtain ⟨row, hrow, h₁⟩ := htx.row txid rfl
    obtain ⟨-, -, -, rfl, rfl⟩ := htx.stored txid rfl
    let w : Write := ⟨.bank, liabilities, -res.amount.value⟩
    let w' : Write := ⟨.user res.uid, inbound, res.amount.value⟩
    have hne : w.ref ≠ w'.ref := by simp [w, w', Write.ref]
    refine (putAccount_writes (.refl env s₁) w).bind ?_
    intro _ s₂ hw
    refine (insertIntoLedger_writes hw _ _ _).bind ?_
    intro _ s₃ hw
    refine (updateAccount_writes hw w').bind ?_
    intro _ s₄ hw
    refine (updateAccount_writes hw w).bind ?_
    intro _ s₅ hw
    have hcommit : Commit env [w, w'] s₁ s₅ :=
      .of_pair (h₁.keeps hli) (h₁.keeps hin) hne (.inr hw)
    have hentry : ∀ {s'}, Aside s₅ s' → Entry env (· = res.uid) True s s' := fun ha =>
      .mk [row] [w, w'] s₁ s₅ h₁ hcommit ha (by simp [w, w']) fun _ =>
        Explains.pair w w' hrow rfl rfl (.refl _) hne
    refine (makeSummaryTx_aside _).bind ?_
    intro r s' ha
    split
    next => exact hentry ha
    next => exact hentry ha
  next hno => exact .opened (htx.refused hno)

/-- Every result: an entry on the payer at most. -/
theorem paymentResult_entry (res : PaymentResult) :
    Ensures (paymentResult env res) s fun _ s' =>
      Entry env (· = res.uid)
        (res.isSuccess = false → res.currency ≠ .BTC → ¬TxStored env s 0 0) s s' := by
  unfold paymentResult
  refine Ensures.ite (fun _ => Ensures.panic _) fun _ => ?_
  refine Ensures.ite (fun _ => .opened (.refl env s)) fun _ => ?_
  refine getLiabilityAccount_stage.bind ?_
  intro liabilities s₁ h
  obtain ⟨h₁, hli, -, -, hsame₁⟩ := h
  refine Ensures.get_bind (Ensures.ite (fun _ => .opened h₁) fun _ => ?_)
  refine (getDefaultAccount_stage _ _ _ (by simp)).bind ?_
  intro inbound s₂ h
  obtain ⟨h₂, hin, -, -, hsame₂⟩ := h
  refine (getDealerAccount_stage _ _).bind ?_
  intro dealerBtc s₃ h
  obtain ⟨h₃, hdb, -, -, hsame₃⟩ := h
  have hst := (h₁.opened h₂).opened h₃
  have hsame := (hsame₁.trans hsame₂).trans hsame₃
  have hin := h₃.keeps hin
  have hli := h₃.keeps (h₂.keeps hli)
  refine Ensures.bind (R := fun _ s' => Entry env (· = res.uid)
    (res.isSuccess = false → res.currency ≠ .BTC → ¬TxStored env s 0 0) s s') ?_ ?_
  · cases hsucc : res.isSuccess with
    | true =>
      rw [if_pos rfl]
      exact (settlePayment_entry hli hdb).mono fun _ s' h =>
        .after hst (h.mono (fun _ hf => hf.elim) fun _ => trivial)
    | false =>
      rw [if_neg (by simp)]
      refine Ensures.lift_bind fun exchanged _ => Ensures.lift_bind fun refund _ => ?_
      refine Ensures.ite (fun hfiat => ?_) fun _ => ?_
      · exact (refundFiat_entry hfiat hli hin).mono fun _ s' h =>
          .after hst (h.mono (fun _ hu => hu) fun hr h₀ => hr rfl hfiat ((hsame 0 0).mp h₀))
      · exact (refundBtc_entry hli hin).mono fun _ s' h =>
          .after hst (h.mono (fun _ hu => hu) fun _ => trivial)
  intro answered s₄ h₄
  refine Ensures.ite (fun _ => h₄) fun _ => ?_
  refine sendBankState_aside.bind ?_
  intro _ s₅ h₅
  exact (sendApi_aside _).mono fun _ s' h' => h₄.then_aside (h₅.trans h')

/-! ## Swaps -/

/-- A swap: two rows, on its user and the dealer. -/
theorem swapResponse_entry (msg : SwapResponse) :
    Ensures (swapResponse env msg) s fun _ s' =>
      Entry env (· = msg.uid)
        (ExchangesToSome msg.amount msg.rate ∧ (TxStored env s 0 0 → TxStored env s 1 1)) s s' := by
  unfold swapResponse
  refine Ensures.ite (fun _ => ?_) fun _ => ?_
  · exact (sendApi_stage _).mono fun _ s' h => .opened h
  refine Ensures.get_bind (Ensures.ite (fun _ => ?_) fun _ => ?_)
  · exact (sendApi_stage _).mono fun _ s' h => .opened h
  dsimp only
  split
  next rate hrate =>
    refine Ensures.ite (fun _ => ?_) fun _ => ?_
    · exact (sendApi_stage _).mono fun _ s' h => .opened h
    refine ((getDefaultAccount_stage _ _ _ (by simp)).and (getDefaultAccount_chosen _ _ _)).bind ?_
    intro outbound s₁ h
    obtain ⟨⟨h₁, hout, houtc, -, hsame₁⟩, rest, hchosen⟩ := h
    -- within one currency the same account is handed out again
    have hagain : msg.fromCurrency = msg.toCurrency →
        Ensures (getDefaultAccount env (.user msg.uid) msg.toCurrency none) s₁ fun b _ =>
          b = outbound := by
      intro e
      rw [e] at hchosen
      exact getDefaultAccount_again hchosen
    refine Ensures.bind (R := fun inbound s' => (Stage env s₁ [] s' ∧
      s'.ledger.get (.user msg.uid, inbound.accountId) = some inbound ∧
      inbound.currency = msg.toCurrency ∧ SameTx env s₁ s') ∧
      (msg.fromCurrency = msg.toCurrency → inbound = outbound)) ?_ ?_
    · refine ensures_iff.mpr fun a s' hrun => ⟨?_, fun e => (hagain e).of_run hrun⟩
      obtain ⟨h, hget, hc, -, hsame⟩ :=
        (getDefaultAccount_stage (s := s₁) _ _ _ (by simp)).of_run hrun
      exact ⟨h, hget, hc, hsame⟩
    intro inbound s₂ h
    obtain ⟨⟨h₂, hin, hinc, hsame₂⟩, heq⟩ := h
    have hst := h₁.opened h₂
    refine Ensures.ite (fun _ => ?_) fun hne => ?_
    · exact (sendApi_stage _).mono fun _ s' h => .opened (hst.opened h)
    have hdiff : msg.fromCurrency ≠ msg.toCurrency := fun e => hne (by rw [heq e])
    refine (getDealerAccount_stage _ _).bind ?_
    intro outboundDealer s₃ h
    obtain ⟨h₃, hod, hodc, -, hsame₃⟩ := h
    refine (getDealerAccount_stage _ _).bind ?_
    intro inboundDealer s₄ h
    obtain ⟨h₄, hid, hidc, -, hsame₄⟩ := h
    have hst := (hst.opened h₃).opened h₄
    have hsame := ((hsame₁.trans hsame₂).trans hsame₃).trans hsame₄
    have hout := h₄.keeps (h₃.keeps (h₂.keeps hout))
    have hin := h₄.keeps (h₃.keeps hin)
    have hod := h₄.keeps hod
    refine Ensures.ite (fun _ => ?_) fun _ => ?_
    · exact (sendApi_stage _).mono fun _ s' h => .opened (hst.opened h)
    refine (makeTx_stage _ _ _ _ _ _).bind ?_
    intro r s₅ htx
    split
    next outbound' inboundDealer' outboundTxid =>
      obtain ⟨row, hrow, h₅⟩ := htx.row outboundTxid rfl
      obtain ⟨hv, -, hst₀, rfl, rfl⟩ := htx.stored outboundTxid rfl
      have hst := hst.trans h₅
      refine Ensures.lift_bind fun exchanged hex => Ensures.lift_bind fun amount ham => ?_
      have hex : msg.amount.exchange rate = .ok (.ok amount) := by
        rw [hex, Checked.unwrapOk_eq_ok.mp ham]
      refine (makeTx_stage _ _ _ _ _ _).bind ?_
      intro r s₆ htx'
      split
      next outboundDealer' inbound' inboundTxid =>
        obtain ⟨row', hrow', h₆⟩ := htx'.row inboundTxid rfl
        obtain ⟨-, -, -, rfl, rfl⟩ := htx'.stored inboundTxid rfl
        have hst := hst.trans h₆
        have hout := h₆.keeps (h₅.keeps hout)
        have hin := h₆.keeps (h₅.keeps hin)
        have hod := h₆.keeps (h₅.keeps hod)
        have hid := h₆.keeps (h₅.keeps hid)
        have hned : outboundDealer.accountId ≠ inboundDealer.accountId := fun e =>
          Ledger.ref_ne_of_currency hod hid (by rw [hodc, hidc]; exact hdiff.symm) (by rw [e])
        let wo : Write := ⟨.user msg.uid, outbound, -msg.amount.value⟩
        let wi : Write := ⟨.user msg.uid, inbound, amount.value⟩
        let wod : Write := ⟨.dealer, outboundDealer, -amount.value⟩
        let wid : Write := ⟨.dealer, inboundDealer, msg.amount.value⟩
        refine (insertIntoLedger_writes (.refl env s₆) _ _ _).bind ?_
        intro _ s₇ hw
        refine (insertIntoLedger_writes hw _ _ _).bind ?_
        intro _ s₈ hw
        refine (putAccount_writes hw wod).bind ?_
        intro _ s₉ hw
        refine (putAccount_writes hw wid).bind ?_
        intro _ s₁₀ hw
        refine (updateAccount_writes hw wo).bind ?_
        intro _ s₁₁ hw
        refine (updateAccount_writes hw wi).bind ?_
        intro _ s₁₂ hw
        refine (updateAccount_writes hw wod).bind ?_
        intro _ s₁₃ hw
        refine (updateAccount_writes hw wid).bind ?_
        intro _ s₁₄ hw
        have hcommit : Commit env [wo, wi, wod, wid] s₆ s₁₄ :=
          ⟨by simp [wo, wi, wod, wid, Write.ref, hout, hin, hod, hid], _, .inl rfl, hw⟩
        refine (sendApi_aside _).bind ?_
        intro _ s₁₅ h₁₅
        refine sendBankState_aside.bind ?_
        intro _ s₁₆ h₁₆
        refine (makeSummaryTx_aside _).bind ?_
        intro _ s' h'
        refine .mk [row, row'] [wo, wi, wod, wid] s₆ s₁₄ hst hcommit ((h₁₅.trans h₁₆).trans h') ?_
          fun _ => ?_
        · simp [wo, wi, wod, wid]
        · refine Explains.two wo wid wod wi hrow hrow' rfl rfl rfl rfl (.cons _ ?_) ?_
          · exact (List.reverse_perm [wi, wod, wid]).symm
          · simp [wo, wi, wod, wid, Write.ref, hne, hned]
      next hno =>
        refine (sendApi_stage _).mono fun _ s' h =>
          .gaveUp ((hst.opened (htx'.refused hno)).opened h) fun hr => ?_
        have hnext : TxStored env s₅ 1 0 := (htx.next outboundTxid rfl 1 0).mpr
          ((hsame 1 1).mpr (hr.2 ((hsame 0 0).mp hst₀)))
        obtain ⟨txid, hok⟩ := htx'.succeeds (hr.1 rate amount hrate hex hv) (by rw [hodc, hinc])
          hnext
        exact (hno _ _ _ (by rw [← hok])).elim
    next hno =>
      exact (sendApi_stage _).mono fun _ s' h =>
        .opened ((hst.opened (htx.refused hno)).opened h)
  next => exact (sendApi_stage _).mono fun _ s' h => .opened h

/-! ## The other messages -/

/-- The account a deposit goes to is found or opened. -/
theorem targetAccount_stage (uid : UserId) (accountId : Option Uuid) (currency : Currency) :
    Ensures (targetAccount env uid accountId currency) s fun _ s' => Stage env s [] s' := by
  refine Ensures.get_bind ?_
  split
  next =>
    split
    · exact .refl env s
    · exact .refl env s
  next => exact (getDefaultAccount_stage _ _ _ (by simp)).bind fun _ s₁ h => h.1

/-- An invoice for the dealer is no entry. -/
theorem processCreateInvoiceRequest_stage (req : CreateInvoiceRequest) (owner : UserId) :
    Ensures (processCreateInvoiceRequest cfg env req owner) s fun _ s' => Stage env s [] s' := by
  refine Ensures.ite (fun _ => .refl env s) fun _ => ?_
  refine Ensures.bind (R := fun _ s' => Stage env s [] s') ?_ ?_
  · refine Ensures.ite (fun _ => getLiabilityAccount_stage.mono fun _ _ h => h.1) fun _ => ?_
    refine Ensures.ite (fun _ => (getDealerAccount_stage _ _).mono fun _ _ h => h.1) fun _ => ?_
    exact Ensures.panic _
  intro account s₁ h₁
  split
  next =>
    refine (insertInvoice_stage _).bind ?_
    intro stored s₂ h₂
    refine Ensures.ite (fun _ => h₁.opened h₂) fun _ => ?_
    exact (send_stage _ _).mono fun _ s' h => (h₁.opened h₂).opened h
  next => exact h₁

/-- Nor is one that a user asks for. -/
theorem invoiceRequest_stage (msg : InvoiceRequest) :
    Ensures (invoiceRequest cfg env msg) s fun _ s' => Stage env s [] s' := by
  unfold invoiceRequest
  have hbooked : Ensures (checkDepositRequestRateLimit cfg env msg.uid) s fun _ s' =>
      Booked env s [] s' := checkDepositRequestRateLimit_spec msg.uid
  have hlimit : Ensures (checkDepositRequestRateLimit cfg env msg.uid) s fun _ s' =>
      Stage env s [] s' := .of_booked hbooked rfl rfl rfl
  refine hlimit.bind ?_
  intro admitted s₁ h₁
  refine Ensures.ite (fun _ => ?_) fun _ => ?_
  · exact (sendApi_stage _).mono fun _ s' h => h₁.opened h
  refine (openUser_stage env _).bind ?_
  intro _ s₂ h
  have hst := h₁.opened h.1
  refine Ensures.ite (fun _ => ?_) fun _ => ?_
  · exact (sendApi_stage _).mono fun _ s' h => hst.opened h
  refine Ensures.ite (fun _ => ?_) fun _ => ?_
  · exact (sendApi_stage _).mono fun _ s' h => hst.opened h
  refine (targetAccount_stage _ _ _).bind ?_
  intro target s₃ h₃
  have hst := hst.opened h₃
  split
  next => exact (sendApi_stage _).mono fun _ s' h => hst.opened h
  next target =>
    dsimp only
    refine Ensures.ite (fun _ => ?_) fun _ => ?_
    · exact (send_stage _ _).mono fun _ s' h => hst.opened h
    refine Ensures.lift_bind fun amountInSats _ => ?_
    split
    next invoice _ =>
      refine (insertInvoice_stage _).bind ?_
      intro stored s₄ h₄
      have hst := hst.opened h₄
      refine Ensures.ite (fun _ => ?_) fun _ => ?_
      · exact (sendApi_stage _).mono fun _ s' h => hst.opened h
      · exact (sendApi_stage _).mono fun _ s' h => hst.opened h
    next => exact hst

/-- Nor is its price. -/
theorem invoiceResponse_stage (msg : InvoiceResponse) :
    Ensures (invoiceResponse cfg env msg) s fun _ s' => Stage env s [] s' := by
  unfold invoiceResponse
  split
  next rate _ =>
    refine Ensures.lift_bind fun amountInSats _ => ?_
    refine Ensures.ite (fun _ => ?_) fun _ => ?_
    · exact (sendApi_stage _).mono fun _ s' h => h
    refine (openUser_stage env _).bind ?_
    intro _ s₁ h
    have h₁ := h.1
    refine (targetAccount_stage _ _ _).bind ?_
    intro target s₂ h₂
    have hst := h₁.opened h₂
    split
    next => exact (sendApi_stage _).mono fun _ s' h => hst.opened h
    next target =>
      split
      next invoice _ =>
        dsimp only
        refine (insertInvoice_stage _).bind ?_
        intro stored s₃ h₃
        have hst := hst.opened h₃
        refine Ensures.ite (fun _ => ?_) fun _ => ?_
        · exact (sendApi_stage _).mono fun _ s' h => hst.opened h
        · exact (sendApi_stage _).mono fun _ s' h => hst.opened h
      next => exact hst
  next => exact (sendApi_stage _).mono fun _ s' h => h

section quiet

variable {P : UserId → Prop} {R : Prop}

/-- Balances are told of accounts that may be opened for it. -/
theorem getBalances_entry (msg : GetBalances) :
    Ensures (getBalances env msg) s fun _ s' => Entry env P R s s' := by
  refine (openUser_stage env _).bind ?_
  intro _ s₁ h₁
  refine Ensures.get_bind ?_
  refine Ensures.bind (R := fun _ s' => Stage env s [] s') ?_ ?_
  · refine Ensures.forM (fun c s₂ h₂ => ?_) _ h₁.1
    exact (getDefaultAccount_stage _ _ _ (by simp)).bind fun a s₃ h => h₂.opened h.1
  intro _ s₂ h₂
  refine Ensures.get_bind (Ensures.ite (fun _ => ?_) fun _ => ?_)
  · exact (send_aside _ _).mono fun _ s' h => (Entry.opened h₂).then_aside h
  · exact (send_aside _ _).mono fun _ s' h => (Entry.opened h₂).then_aside h

/-- A withdrawal is stored outside the ledger. -/
theorem createLnurlWithdrawal_entry (msg : CreateLnurlWithdrawalRequest) :
    Ensures (createLnurlWithdrawal cfg env msg) s fun _ s' => Entry env P R s s' := by
  unfold createLnurlWithdrawal
  dsimp only
  refine Ensures.ite (fun _ => ?_) fun _ => ?_
  · exact (sendApi_aside _).mono fun _ s' h => .recorded h
  refine Ensures.get_bind (Ensures.ite (fun _ => ?_) fun _ => ?_)
  · exact (sendApi_aside _).mono fun _ s' h => .recorded h
  refine (getDefaultAccount_stage _ _ _ (by simp)).bind ?_
  intro outbound s₁ h
  have h₁ : Entry env P R s s₁ := .opened h.1
  refine Ensures.ite (fun _ => ?_) fun _ => ?_
  · exact (send_aside _ _).mono fun _ s' h => h₁.then_aside h
  refine Ensures.ite (fun _ => ?_) fun _ => ?_
  · exact (sendApi_aside _).mono fun _ s' h => h₁.then_aside h
  split
  next lnurl _ => exact Ensures.modify_bind (h₁.then_aside ⟨rfl, rfl, rfl⟩)
  next => exact (sendApi_aside _).mono fun _ s' h => h₁.then_aside h

/-- It is told to the API. -/
theorem getLnurlWithdrawal_entry (msg : GetLnurlWithdrawalRequest) :
    Ensures (getLnurlWithdrawal cfg msg) s fun _ s' => Entry env P R s s' := by
  refine Ensures.get_bind ?_
  split
  next => exact (sendApi_aside _).mono fun _ s' h => .recorded h
  next =>
    refine Ensures.lift_bind fun r _ => ?_
    split
    next => exact (sendApi_aside _).mono fun _ s' h => .recorded h
    next => exact (sendApi_aside _).mono fun _ s' h => .recorded h

/-- It is queued to be paid. -/
theorem payLnurlWithdrawal_entry (msg : PayLnurlWithdrawalRequest) :
    Ensures (payLnurlWithdrawal msg) s fun _ s' => Entry env P R s s' := by
  refine Ensures.get_bind ?_
  split
  next => exact Ensures.set_bind (.recorded ⟨rfl, rfl, rfl⟩)
  next => exact (sendApi_aside _).mono fun _ s' h => .recorded h

/-- A route is asked of the node. -/
theorem queryRoute_entry (msg : QueryRouteRequest) :
    Ensures (queryRoute cfg env msg) s fun _ s' => Entry env P R s s' := by
  refine Ensures.lift_bind fun _ _ => ?_
  split
  next =>
    split
    next =>
      refine Ensures.lift_bind fun maxFee _ => Ensures.lift_bind fun routes _ => ?_
      split
      next => exact (sendApi_aside _).mono fun _ s' h => .recorded h
      next => exact (sendApi_aside _).mono fun _ s' h => .recorded h
      next =>
        refine Ensures.lift_bind fun sats _ => Ensures.lift_bind fun sats _ => ?_
        exact (sendApi_aside _).mono fun _ s' h => .recorded h
    next => exact (sendApi_aside _).mono fun _ s' h => .recorded h
  next => exact (sendApi_aside _).mono fun _ s' h => .recorded h

/-- A purchase is asked of the dealer. -/
theorem dcaRebalance_entry (msg : DcaRebalance) :
    Ensures (dcaRebalance env msg) s fun _ s' => Entry env P R s s' := by
  refine (dcaRebalance_spec msg).mono fun _ s' h => ?_
  obtain ⟨reqs, rfl⟩ := h
  exact .recorded ⟨rfl, rfl, rfl⟩

end quiet

/-! ## Transfers by the operator -/

/-- Where the bank keeps an account: with a holder, or as the insurance fund. -/
inductive Place where
  | held (r : AccountRef)
  | insurance
  deriving DecidableEq

/-- Whose account it is. -/
def Place.uid : Place → UserId
  | held r => counterpartyUid r.1
  | insurance => DEALER_UID

namespace Ledger

/-- The account at a place. -/
def find (L : Ledger) : Place → Option Account
  | .held r => L.get r
  | .insurance => some L.insuranceFundAccount

/-- A copy is written to a place. -/
def write (L : Ledger) (a : Account) : Place → Ledger
  | .held r => L.put r.1 a
  | .insurance => { L with insuranceFundAccount := a }

end Ledger

/-- The place a slot stands for, once its account has been read. -/
def BankEngine.Slot.place (a : Account) : Slot → Place
  | .external => .held (.bank, a.accountId)
  | .insurance => .insurance
  | .user uid id => .held (.user uid, id)

/-- A slot at a user's place is that of the user. -/
theorem BankEngine.Slot.eq_user_of_place {slot : Slot} {a : Account} {uid : UserId} {id : AccountId}
    (h : slot.place a = .held (.user uid, id)) : slot = .user uid id := by
  cases slot with
  | external => exact absurd h (by simp [place])
  | insurance => exact absurd h (by simp [place])
  | user u i =>
    have h : Place.held (.user u, i) = .held (.user uid, id) := h
    injection h with h
    obtain ⟨hu, hi⟩ := Prod.mk.inj h
    injection hu with hu
    rw [hu, hi]

/-- A slot at the place of the insurance is that of the insurance. -/
theorem BankEngine.Slot.eq_insurance_of_place {slot : Slot} {a : Account}
    (h : slot.place a = .insurance) : slot = .insurance := by
  cases slot with
  | external => exact absurd h (by simp [place])
  | insurance => rfl
  | user u i => exact absurd h (by simp [place])

/-- What a transfer of the operator does to ledger and tables. -/
structure Transferred (env : Env) (tx : MakeTx) (s s' : State) (row : TransactionRow) (p q : Place)
    (a b : Account) (amount : Decimal) (s₁ : State) : Prop where
  stage : Stage env s [row] s₁
  different : p ≠ q
  outbound : s₁.ledger.find p = some a
  inbound : s₁.ledger.find q = some b
  row : IsRow row a p.uid b q.uid amount
  ledger : s'.ledger = (s₁.ledger.write (a.shift (-amount)) p).write (b.shift amount) q
  transactions : s'.db.transactions = s₁.db.transactions
  accounts : (∀ call, env.db call = true) → s'.db.accounts =
    storeRow (storeRow s₁.db.accounts (a.shift (-amount)) p.uid) (b.shift amount) q.uid
  outboundUser : ∀ uid id, p = .held (.user uid, id) →
    uid = tx.outboundUid ∧ (s.ledger.get (.user uid, tx.outboundAccountId)).isSome = true
  inboundUser : ∀ uid id, q = .held (.user uid, id) →
    uid = tx.inboundUid ∧ (s.ledger.get (.user uid, tx.inboundAccountId)).isSome = true
  outboundInsurance : p = .insurance → tx.outboundUid = DEALER_UID ∧
    tx.outboundAccountId = s.ledger.insuranceFundAccount.accountId
  inboundInsurance : q = .insurance → tx.inboundUid = DEALER_UID ∧
    tx.inboundAccountId = s.ledger.insuranceFundAccount.accountId

/-- An account stays where it is while others are opened. -/
theorem Stage.find {rows : List TransactionRow} (h : Stage env s rows s') {p : Place} {a : Account}
    (ha : s.ledger.find p = some a) : s'.ledger.find p = some a := by
  cases p with
  | held r => exact h.keeps ha
  | insurance =>
    rw [← ha]
    exact congrArg some h.opens.insurance

/-- At most a liability account was opened. -/
structure BankOnly (env : Env) (s s' : State) : Prop where
  stage : Stage env s [] s'
  users : ∀ uid, s'.ledger.holder (.user uid) = s.ledger.holder (.user uid)

/-- Nothing happened. -/
theorem BankOnly.refl (env : Env) (s : State) : BankOnly env s s := ⟨.refl env s, fun _ => rfl⟩

/-- One part after the other. -/
theorem BankOnly.trans {s'' : State} (h : BankOnly env s s') (h' : BankOnly env s' s'') :
    BankOnly env s s'' :=
  ⟨h.stage.opened h'.stage, fun uid => (h'.users uid).trans (h.users uid)⟩

/-- The bank's liability account is found or opened, and no other. -/
theorem getLiabilityAccount_bankOnly :
    Ensures (getLiabilityAccount env) s fun a s' =>
      BankOnly env s s' ∧ s'.ledger.get (.bank, a.accountId) = some a := by
  have husers : Ensures (getLiabilityAccount env) s fun _ s' =>
      ∀ uid, s'.ledger.holder (.user uid) = s.ledger.holder (.user uid) := by
    refine Ensures.get_bind ?_
    split
    next => exact fun _ => rfl
    next =>
      intro uid
      have hne : Owner.user uid ≠ Owner.bank := by simp
      exact Ledger.holder_put_ne _ _ hne
  exact (getLiabilityAccount_stage.and husers).mono fun a s' h => ⟨⟨h.1.1, h.2⟩, h.1.2.1⟩

/-- The liability account that is handed out next. -/
def IsLiability (env : Env) (s : State) (a : Account) : Prop :=
  ∃ rest, (env.order (s.ledger.holder .bank).values).filter
    (isDefaultFor .BTC (some .external)) = a :: rest

/-- An account counts as external if it is that one. -/
theorem isExternalAccount_bankOnly (uid : UserId) (id : AccountId) :
    Ensures (isExternalAccount env uid id) s fun r s' =>
      BankOnly env s s' ∧
        (r = true → uid = BANK_UID ∧ ∃ a, id = a.accountId ∧ IsLiability env s' a) := by
  refine Ensures.ite (fun huid => ?_) fun _ => ⟨.refl env s, fun h => absurd h (by simp)⟩
  refine (getLiabilityAccount_bankOnly.and (getDefaultAccount_chosen _ _ _)).bind ?_
  intro a s₁ h
  refine ⟨h.1.1, fun hr => ⟨huid, a, ?_, h.2⟩⟩
  simpa using hr

/-- There is one liability account: the bank names no second one. -/
theorem isExternalAccount_again {a : Account} (h : IsLiability env s a) (uid : UserId)
    (id : AccountId) :
    Ensures (isExternalAccount env uid id) s fun r _ => r = true → id = a.accountId := by
  obtain ⟨rest, h⟩ := h
  refine Ensures.ite (fun _ => ?_) fun _ => fun h => absurd h (by simp)
  refine (getDefaultAccount_again h).bind ?_
  intro b s₁ hb hr
  rw [← hb]
  simpa using hr

/-- A slot is read at its place. -/
theorem readSlot_bankOnly (slot : Slot) :
    Ensures (readSlot env slot) s fun r s' =>
      BankOnly env s s' ∧ ∀ a, r = .ok a → s'.ledger.find (slot.place a) = some a ∧
        ∀ uid id, slot = .user uid id → (s.ledger.get (.user uid, id)).isSome = true := by
  cases slot with
  | external =>
    refine getLiabilityAccount_bankOnly.bind ?_
    intro a s₁ h
    refine ⟨h.1, fun b hb => ⟨?_, by simp⟩⟩
    obtain rfl := Except.ok.inj hb
    exact h.2
  | insurance =>
    refine ⟨.refl env s, fun b hb => ⟨?_, by simp⟩⟩
    obtain rfl := Except.ok.inj hb
    rfl
  | user uid id =>
    refine Ensures.get_bind (Ensures.ite (fun _ => ?_) fun _ => ?_)
    · exact ⟨.refl env s, fun _ h => absurd h (by simp)⟩
    split
    next a hget =>
      refine ⟨.refl env s, fun b hb => ⟨?_, fun u i e => ?_⟩⟩
      · obtain rfl := Except.ok.inj hb
        exact hget
      · injection e with hu hi
        rw [← hu, ← hi, hget]
        rfl
    next => exact ⟨.refl env s, fun _ h => absurd h (by simp)⟩

/-- It is written back there. -/
theorem writeSlot_writes (slot : Slot) (a : Account) (d : Decimal) :
    Ensures (writeSlot (a.shift d) slot) s fun _ s' =>
      s' = { s with ledger := s.ledger.write (a.shift d) (slot.place a) } := by
  cases slot with
  | external => exact rfl
  | insurance => exact rfl
  | user uid id => exact insertIntoLedger_spec uid (a.shift d)

/-- What the slot of one side was chosen by. -/
structure SlotFor (L : Ledger) (uid : UserId) (id : AccountId) (slot : Slot) : Prop where
  external : slot = .external → uid = BANK_UID
  insurance : slot = .insurance → uid = DEALER_UID ∧ id = L.insuranceFundAccount.accountId
  user : ∀ u i, slot = .user u i → u = uid ∧ i = id

/-- The slot of an account is the one its two marks say. -/
theorem slotFor_slotOf {L : Ledger} {uid : UserId} {id : AccountId} {isExternal isInsurance : Bool}
    (hext : isExternal = true → uid = BANK_UID)
    (hins : isInsurance = true → uid = DEALER_UID ∧ id = L.insuranceFundAccount.accountId) :
    SlotFor L uid id (slotOf isExternal isInsurance uid id) := by
  cases isExternal with
  | true => exact ⟨fun _ => hext rfl, fun h => absurd h (by simp [slotOf]), by simp [slotOf]⟩
  | false =>
    cases isInsurance with
    | true => exact ⟨fun h => absurd h (by simp [slotOf]), fun _ => hins rfl, by simp [slotOf]⟩
    | false =>
      refine ⟨fun h => absurd h (by simp [slotOf]), fun h => absurd h (by simp [slotOf]), ?_⟩
      intro u i h
      have h : Slot.user uid id = .user u i := h
      injection h with hu hi
      exact ⟨hu.symm, hi.symm⟩

/-- The account in a slot belongs to the user the operator named. -/
theorem SlotFor.uid {L : Ledger} {uid : UserId} {id : AccountId} {slot : Slot}
    (h : SlotFor L uid id slot) (a : Account) : (slot.place a).uid = uid := by
  cases slot with
  | external => exact (h.external rfl).symm
  | insurance => exact (h.insurance rfl).1.symm
  | user u i => exact (h.user u i rfl).1

/-- Two slots that were chosen apart stand for two accounts. -/
theorem slot_place_ne {tx : MakeTx} {isInboundExternal isOutboundExternal isInboundInsurance
      isOutboundInsurance : Bool} {a b : Account}
    (hsame : ¬(tx.outboundUid = tx.inboundUid ∧ tx.outboundAccountId = tx.inboundAccountId))
    (hone : ¬(isInboundExternal = true ∧ isOutboundExternal = true))
    (hguard : ¬((isInboundInsurance && !isOutboundExternal ||
      isOutboundInsurance && !isInboundExternal) = true)) :
    (slotOf isOutboundExternal isOutboundInsurance tx.outboundUid tx.outboundAccountId).place a ≠
      (slotOf isInboundExternal isInboundInsurance tx.inboundUid tx.inboundAccountId).place b := by
  cases isOutboundExternal with
  | true =>
    cases isInboundExternal with
    | true => exact absurd ⟨rfl, rfl⟩ hone
    | false => cases isInboundInsurance <;> simp [slotOf, Slot.place]
  | false =>
    cases isInboundExternal with
    | true => cases isOutboundInsurance <;> simp [slotOf, Slot.place]
    | false =>
      cases isInboundInsurance with
      | true => exact absurd rfl hguard
      | false =>
        cases isOutboundInsurance with
        | true => exact absurd rfl hguard
        | false =>
          intro e
          have e : Place.held (.user tx.outboundUid, tx.outboundAccountId) =
            .held (.user tx.inboundUid, tx.inboundAccountId) := e
          injection e with e
          obtain ⟨hu, hi⟩ := Prod.mk.inj e
          injection hu with hu
          exact hsame ⟨hu, hi⟩

/-- What the operator asks for: one transfer between two places, or none. -/
theorem processMakeTx_transfers (tx : MakeTx) :
    Ensures (processMakeTx env tx) s fun _ s' =>
      Stage env s [] s' ∨ ∃ row p q a b amount s₁,
        Transferred env tx s s' row p q a b amount s₁ := by
  refine Ensures.ite (fun _ => .inl (.refl env s)) fun _ => ?_
  refine Ensures.ite (fun _ => .inl (.refl env s)) fun hsame => ?_
  refine Ensures.get_bind ?_
  refine (isExternalAccount_bankOnly _ _).bind ?_
  intro isInboundExternal s₁ h
  obtain ⟨h₁, hinbound⟩ := h
  -- the two sides are not both the liability account
  have hagain : isInboundExternal = true →
      Ensures (isExternalAccount env tx.outboundUid tx.outboundAccountId) s₁ fun r _ =>
        r = true → tx.outboundUid = tx.inboundUid ∧ tx.outboundAccountId = tx.inboundAccountId := by
    intro hr
    obtain ⟨hin, a, hid, hli⟩ := hinbound hr
    refine ((isExternalAccount_bankOnly _ _).and (isExternalAccount_again hli _ _)).mono
      fun r s' h htrue => ?_
    exact ⟨(h.1.2 htrue).1.trans hin.symm, (h.2 htrue).trans hid.symm⟩
  refine Ensures.bind (R := fun r s' =>
    (BankOnly env s₁ s' ∧ (r = true → tx.outboundUid = BANK_UID))
    ∧ ¬(isInboundExternal = true ∧ r = true)) ?_ ?_
  · refine ensures_iff.mpr fun r s' hrun => ⟨?_, fun hboth => ?_⟩
    · have h := (isExternalAccount_bankOnly _ _).of_run hrun
      exact ⟨h.1, fun hr => (h.2 hr).1⟩
    · exact hsame ((hagain hboth.1).of_run hrun hboth.2)
  intro isOutboundExternal s₂ h
  obtain ⟨⟨h₂, houtbound⟩, hone⟩ := h
  have hb := h₁.trans h₂
  refine Ensures.ite (fun _ => .inl hb.stage) fun hguard => ?_
  dsimp only
  have hplaces : ∀ a b, (slotOf isOutboundExternal _ _ _).place a ≠
      (slotOf isInboundExternal _ _ _).place b := fun a b => slot_place_ne hsame hone hguard
  have hout : SlotFor s.ledger tx.outboundUid tx.outboundAccountId _ :=
    slotFor_slotOf houtbound of_decide_eq_true
  have hin : SlotFor s.ledger tx.inboundUid tx.inboundAccountId _ :=
    slotFor_slotOf (fun hr => (hinbound hr).1) of_decide_eq_true
  generalize slotOf isOutboundExternal _ tx.outboundUid _ = outboundSlot at hplaces hout ⊢
  generalize slotOf isInboundExternal _ tx.inboundUid _ = inboundSlot at hplaces hin ⊢
  refine (readSlot_bankOnly _).bind ?_
  intro r s₃ h
  obtain ⟨h₃, hread⟩ := h
  have hb₃ := hb.trans h₃
  split
  next => exact .inl hb₃.stage
  next outbound =>
    obtain ⟨hfind, huser⟩ := hread outbound rfl
    refine (readSlot_bankOnly _).bind ?_
    intro r s₄ h
    obtain ⟨h₄, hread'⟩ := h
    have hb₄ := hb₃.trans h₄
    split
    next => exact .inl hb₄.stage
    next inbound =>
      obtain ⟨hfind', huser'⟩ := hread' inbound rfl
      refine Ensures.ite (fun _ => .inl hb₄.stage) fun _ => ?_
      generalize Money.new tx.currency tx.amount = amount
      refine (makeTx_stage _ _ _ _ _ _).bind ?_
      intro r s₅ htx
      split
      next outbound' inbound' e =>
        exact .inl (hb₄.stage.opened (htx.noRow (by simp)))
      next outbound' inbound' txid =>
        obtain ⟨row, hrow, h₅⟩ := htx.row txid rfl
        obtain ⟨-, -, -, rfl, rfl⟩ := htx.stored txid rfl
        refine (updateAccount_stores _ _).bind ?_
        intro _ s₆ h₆
        refine (updateAccount_stores _ _).bind ?_
        intro _ s₇ h₇
        refine (writeSlot_writes _ _ _).bind ?_
        intro _ s₈ h₈
        refine (writeSlot_writes _ _ _).bind ?_
        intro _ s₉ h₉
        subst h₈ h₉
        have hget : ∀ {s₀ s₁ : State} {uid : UserId} {id : AccountId}, BankOnly env s₀ s₁ →
            (s₁.ledger.get (.user uid, id)).isSome = true →
            (s₀.ledger.get (.user uid, id)).isSome = true := by
          intro s₀ s₁ uid id h hsome
          unfold Ledger.get at hsome ⊢
          rw [← h.users uid]
          exact hsome
        refine .inr ⟨row, _, _, outbound, inbound, amount.value, s₅,
          { stage := hb₄.stage.trans h₅
            different := hplaces outbound inbound
            outbound := h₅.find (h₄.stage.find hfind)
            inbound := h₅.find hfind'
            row := ?_, ledger := ?_, transactions := ?_, accounts := fun hdb => ?_
            outboundUser := ?_, inboundUser := ?_, outboundInsurance := ?_
            inboundInsurance := ?_ }⟩
        · rw [hout.uid, hin.uid]
          exact hrow
        · show Ledger.write (Ledger.write s₇.ledger _ _) _ _ = _
          rw [h₇.1, h₆.1]
        · exact h₇.2.1.trans h₆.2.1
        · rw [hout.uid, hin.uid]
          exact (h₇.2.2 hdb).trans (by rw [h₆.2.2 hdb])
        · intro uid id e
          have hslot := Slot.eq_user_of_place e
          obtain ⟨hu, hi⟩ := hout.user uid id hslot
          rw [← hi]
          exact ⟨hu, hget hb (huser uid id hslot)⟩
        · intro uid id e
          have hslot := Slot.eq_user_of_place e
          obtain ⟨hu, hi⟩ := hin.user uid id hslot
          rw [← hi]
          exact ⟨hu, hget hb₃ (huser' uid id hslot)⟩
        · exact fun e => hout.insurance (Slot.eq_insurance_of_place e)
        · exact fun e => hin.insurance (Slot.eq_insurance_of_place e)

/-! ## Any message -/

/-- The users a message may book on. -/
def BooksOn (cfg : Config) (env : Env) (s : State) : Message → UserId → Prop
  | .api (.paymentRequest m), uid => PaymentBooksOn cfg env s m uid
  | .api (.swapResponse m), uid => uid = m.uid
  | .bank (.paymentResult res), uid => uid = res.uid
  | .deposit m, uid =>
    ∃ i, s.db.invoiceByPaymentRequest m.paymentRequest = some i ∧ uid = asU64 i.uid ∧
      uid ≠ DEALER_UID
  | .dealer (.fiatDepositResponse m), uid => uid = m.uid
  | .dealer (.karmaBalance _), uid => ∃ row ∈ s.db.swaps, swapUser row = some uid
  | .cli (.makeTx tx), uid =>
    uid = tx.outboundUid ∧ (s.ledger.get (.user uid, tx.outboundAccountId)).isSome = true ∨
      uid = tx.inboundUid ∧ (s.ledger.get (.user uid, tx.inboundAccountId)).isSome = true
  | _, _ => False

/-- Every row the message stores stands for what it books, and all it books has
its row: a condition on the message, its rates and the database calls. -/
def Recorded (cfg : Config) (env : Env) (s : State) : Message → Prop
  | .api (.paymentRequest m) => PaymentRecorded cfg env s m
  | .api (.swapResponse m) =>
    ExchangesToSome m.amount m.rate ∧ (TxStored env s 0 0 → TxStored env s 1 1)
  | .bank (.paymentResult res) =>
    res.isSuccess = false → res.currency ≠ .BTC → ¬TxStored env s 0 0
  | .deposit m => ∀ i, s.db.invoiceByPaymentRequest m.paymentRequest = some i →
    asU64 i.uid = DEALER_UID → env.db (.txConn 0) = true → TxStored env s 0 0
  | .dealer (.fiatDepositResponse m) => m.currency ≠ .BTC ∧ ExchangesToSome m.amount m.rate ∧
    (TxStored env s 0 0 → TxStored env s 1 1)
  | .dealer (.karmaBalance _) => False
  | _ => True

/-- Every message of the dealer but a report of karma. -/
theorem processDealer_entry {msg : Dealer} (hkarma : ∀ m, msg ≠ .karmaBalance m) :
    Ensures (processDealer cfg env msg) s fun _ s' =>
      Entry env (BooksOn cfg env s (.dealer msg)) (Recorded cfg env s (.dealer msg)) s s' := by
  have htransfer : ∀ {s'}, Entry env (fun _ => False) True s s' →
      Entry env (BooksOn cfg env s (.dealer msg)) (Recorded cfg env s (.dealer msg)) s s' :=
    fun h => h.mono (fun _ hf => hf.elim) fun _ => trivial
  cases msg with
  | health h => exact .recorded ⟨rfl, rfl, rfl⟩
  | bankStateRequest m => exact sendBankState_aside.mono fun _ _ h => .recorded h
  | payInvoice m => exact (processDealerInvoice_entry m false).mono fun _ _ h => htransfer h
  | payInsuranceInvoice m => exact (processDealerInvoice_entry m true).mono fun _ _ h => htransfer h
  | createInvoiceRequest m =>
    exact (processCreateInvoiceRequest_stage _ _).mono fun _ _ h => .opened h
  | createInsuranceInvoiceRequest m =>
    exact (processCreateInvoiceRequest_stage _ _).mono fun _ _ h => .opened h
  | fiatDepositResponse m => exact fiatDepositResponse_entry m
  | karmaBalance m => exact absurd rfl (hkarma m)
  | bankState m => exact .recorded (.refl s)
  | createInvoiceResponse m => exact .recorded (.refl s)
  | fiatDepositRequest m => exact .recorded (.refl s)

/-- Every message of the API. -/
theorem processApi_entry (msg : Api) :
    Ensures (processApi cfg env msg) s fun _ s' =>
      Entry env (BooksOn cfg env s (.api msg)) (Recorded cfg env s (.api msg)) s s' := by
  cases msg with
  | invoiceRequest m => exact (invoiceRequest_stage m).mono fun _ _ h => .opened h
  | invoiceResponse m => exact (invoiceResponse_stage m).mono fun _ _ h => .opened h
  | paymentRequest m => exact paymentRequest_entry m
  | swapRequest m => exact (send_aside _ _).mono fun _ _ h => .recorded h
  | swapResponse m => exact swapResponse_entry m
  | getBalances m => exact getBalances_entry m
  | quoteRequest m => exact (send_aside _ _).mono fun _ _ h => .recorded h
  | quoteResponse m => exact (sendApi_aside _).mono fun _ _ h => .recorded h
  | availableCurrenciesRequest m => exact (send_aside _ _).mono fun _ _ h => .recorded h
  | availableCurrenciesResponse m => exact (sendApi_aside _).mono fun _ _ h => .recorded h
  | getNodeInfoRequest m => exact (sendApi_aside _).mono fun _ _ h => .recorded h
  | createLnurlWithdrawalRequest m => exact createLnurlWithdrawal_entry m
  | getLnurlWithdrawalRequest m => exact getLnurlWithdrawal_entry m
  | payLnurlWithdrawalRequest m => exact payLnurlWithdrawal_entry m
  | queryRouteRequest m => exact queryRoute_entry m
  | nostrProfileRequest m => exact (send_aside _ _).mono fun _ _ h => .recorded h
  | nostrProfileSearchRequest m => exact (send_aside _ _).mono fun _ _ h => .recorded h
  | nostrProfileSearchResponse m => exact (sendApi_aside _).mono fun _ _ h => .recorded h
  | _ => exact .recorded (.refl s)

/-- Karma and the operator's transfers apart, which work differently, every
message is an entry. -/
theorem processMsg_entry {msg : Message} (hkarma : ∀ m, msg ≠ .dealer (.karmaBalance m))
    (hcli : ∀ tx, msg ≠ .cli (.makeTx tx)) :
    Ensures (processMsg cfg env msg) s fun _ s' =>
      Entry env (BooksOn cfg env s msg) (Recorded cfg env s msg) s s' := by
  cases msg with
  | dealer m => exact processDealer_entry fun k e => hkarma k (by rw [e])
  | deposit m => exact deposit_entry m
  | api m => exact processApi_entry m
  | bank m =>
    cases m with
    | paymentResult res => exact paymentResult_entry res
    | dcaRebalance m => exact dcaRebalance_entry m
  | cli m =>
    cases m with
    | makeTx tx => exact absurd rfl (hcli tx)
    | makeTxResult m => exact .recorded (.refl s)
  | nostr m =>
    cases m with
    | nostrProfilesRefetchRequest r => exact (send_aside _ _).mono fun _ _ h => .recorded h
    | nostrPrivateMessage m => exact .recorded (.refl s)
    | nostrZapNote m => exact .recorded (.refl s)
  | journal m => exact .recorded (.refl s)

end Lndhubx
