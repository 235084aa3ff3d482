import Lndhubx.Bank.EntrySpec

/-!
# The transactions table and the balances

A row of the transactions table names two accounts and an amount that went from
one to the other. The table explains the balances if every account holds what
it held at first and, on top of that, what the rows since then say came in and
went out, and if every row names the two users the accounts belong to
(`Explained`).

Opening accounts keeps this (`Explained.opened`), for a new account has a new id
that no row names; posting rows together with what they stand for keeps it too
(`Explained.post`). A message that meets `Recorded` does nothing else, so a run
of such messages is explained by its rows (`explained_of_run`). Without the
condition it is not: a swap whose second row cannot be stored leaves its first
row behind.
-/

namespace Lndhubx

open Prog BankEngine

variable {cfg : Config} {env : Env} {s s' : State}

/-! ## Places -/

namespace Ledger

theorem find_put_self (L : Ledger) (o : Owner) (a : Account) :
    (L.put o a).find (.held (o, a.accountId)) = some a := L.get_put_self o a

theorem find_put_ne (L : Ledger) {o : Owner} {a : Account} {p : Place}
    (h : p ≠ .held (o, a.accountId)) : (L.put o a).find p = L.find p := by
  cases p with
  | held r =>
    have hr : r ≠ (o, a.accountId) := fun e => h (by rw [e])
    exact L.get_put_ne hr
  | insurance =>
    cases o with
    | user uid => rfl
    | bank => rfl
    | dealer => rfl

theorem find_openUser (L : Ledger) (uid : UserId) (p : Place) :
    (L.openUser uid).find p = L.find p := by
  cases p with
  | held r => exact L.get_openUser uid r
  | insurance => rfl

/-- An id outside `ids` is used at no place. -/
theorem find_ne_of_not_mem_ids {L : Ledger} {id : Uuid} (h : id ∉ L.ids) {p : Place} {b : Account}
    (hb : L.find p = some b) : b.accountId ≠ id := by
  intro e
  cases p with
  | held r =>
    have hnone := get_eq_none_of_not_mem_ids h r.1
    have hr : (r.1, id) = r := by rw [← e, get_accountId hb]
    rw [hr] at hnone
    exact absurd (hnone.symm.trans hb) (by simp)
  | insurance =>
    have hb : L.insuranceFundAccount = b := Option.some.inj hb
    refine h ?_
    rw [← e, ← hb]
    exact List.mem_cons_self

/-- No two places hold accounts of one id. -/
def Distinct (L : Ledger) : Prop :=
  ∀ p q a b, L.find p = some a → L.find q = some b → a.accountId = b.accountId → p = q

/-- The balance at a place, zero where there is no account. -/
def balanceOf (L : Ledger) (p : Place) : Decimal := ((L.find p).map (·.balance)).getD 0

end Ledger

/-- What a row says about an account. -/
def TransactionRow.effect (row : TransactionRow) (id : Uuid) : Decimal :=
  (if row.inboundAccountId = id then row.inboundAmount else 0)
    - (if row.outboundAccountId = id then row.outboundAmount else 0)

/-- What came in less what went out, over the rows that name the account. -/
def net (rows : List TransactionRow) (id : Uuid) : Decimal := (rows.map (·.effect id)).sum

@[simp] theorem net_nil (id : Uuid) : net [] id = 0 := rfl

@[simp] theorem net_cons (row : TransactionRow) (rows : List TransactionRow) (id : Uuid) :
    net (row :: rows) id = row.effect id + net rows id := by
  simp [net]

@[simp] theorem net_append (rows rows' : List TransactionRow) (id : Uuid) :
    net (rows ++ rows') id = net rows id + net rows' id := by
  simp [net]

/-- The user is the one whose account has this id. -/
def Ledger.OwnedBy (L : Ledger) (id : Uuid) (uid : Int) : Prop :=
  ∃ p a, L.find p = some a ∧ a.accountId = id ∧ uid = asI32 p.uid

/-- Both users of a row own the accounts it names. -/
structure TransactionRow.NamesOwners (L : Ledger) (row : TransactionRow) : Prop where
  outbound : L.OwnedBy row.outboundAccountId row.outboundUid
  inbound : L.OwnedBy row.inboundAccountId row.inboundUid

/-- The rows explain how the balances of `L` came from those of `L₀`. -/
structure Explained (L₀ : Ledger) (rows : List TransactionRow) (L : Ledger) : Prop where
  balance : ∀ p a, L.find p = some a → a.balance = L₀.balanceOf p + net rows a.accountId
  owners : ∀ row ∈ rows, row.NamesOwners L
  distinct : L.Distinct
  kept : ∀ p, L₀.find p ≠ none → L.find p ≠ none

theorem net_eq_zero {rows : List TransactionRow} {id : Uuid}
    (h : ∀ row ∈ rows, row.outboundAccountId ≠ id ∧ row.inboundAccountId ≠ id) :
    net rows id = 0 := by
  induction rows with
  | nil => rfl
  | cons row rows ih =>
    obtain ⟨hout, hin⟩ := h row (by simp)
    rw [net_cons, ih fun r hr => h r (List.mem_cons_of_mem _ hr)]
    unfold TransactionRow.effect
    rw [if_neg hin, if_neg hout, sub_zero, add_zero]

/-- Owners stay owners while every account keeps its place and its id. -/
theorem Ledger.OwnedBy.mono {L L' : Ledger} {id : Uuid} {uid : Int} (h : L.OwnedBy id uid)
    (hkeep : ∀ p a, L.find p = some a → ∃ a', L'.find p = some a' ∧ a'.accountId = a.accountId) :
    L'.OwnedBy id uid := by
  obtain ⟨p, a, hp, hid, huid⟩ := h
  obtain ⟨a', hp', hid'⟩ := hkeep p a hp
  exact ⟨p, a', hp', hid'.trans hid, huid⟩

theorem TransactionRow.NamesOwners.mono {L L' : Ledger} {row : TransactionRow}
    (h : row.NamesOwners L)
    (hkeep : ∀ p a, L.find p = some a → ∃ a', L'.find p = some a' ∧ a'.accountId = a.accountId) :
    row.NamesOwners L' := ⟨h.outbound.mono hkeep, h.inbound.mono hkeep⟩

namespace Explained

variable {L₀ L L' : Ledger} {rows : List TransactionRow}

theorem refl (h : L.Distinct) : Explained L [] L := by
  refine ⟨fun p a ha => ?_, by simp, h, fun _ hp => hp⟩
  unfold Ledger.balanceOf
  rw [ha, net_nil, add_zero]
  rfl

/-- A new account has an id that no row names. -/
theorem openAccount (h : Explained L₀ rows L) {o : Owner} {a : Account}
    (fresh : a.accountId ∉ L.ids)
    (empty : a.balance = 0) : Explained L₀ rows (L.put o a) := by
  have hfree : ∀ {p b}, L.find p = some b → b.accountId ≠ a.accountId := fun hb =>
    Ledger.find_ne_of_not_mem_ids fresh hb
  have hold : ∀ p b, L.find p = some b → (L.put o a).find p = some b := by
    intro p b hb
    have hne : p ≠ .held (o, a.accountId) := by
      intro e
      rw [e] at hb
      exact hfree hb (Ledger.get_accountId hb)
    rw [L.find_put_ne hne, hb]
  have hnew : ∀ p b, (L.put o a).find p = some b →
      (p = .held (o, a.accountId) ∧ b = a) ∨ L.find p = some b := by
    intro p b hb
    by_cases hp : p = .held (o, a.accountId)
    · left
      rw [hp, L.find_put_self] at hb
      exact ⟨hp, (Option.some.inj hb).symm⟩
    · right
      rwa [L.find_put_ne hp] at hb
  refine ⟨fun p b hb => ?_, fun row hrow => ?_, fun p q b c hb hc hid => ?_, fun p hp => ?_⟩
  · rcases hnew p b hb with ⟨hp, rfl⟩ | hb
    · -- nothing was there before, and no row can have named it
      have hnone : L₀.find p = none := by
        by_contra hsome
        obtain ⟨c, hc⟩ := Option.ne_none_iff_exists'.mp (h.kept p hsome)
        rw [hp] at hc
        exact hfree hc (Ledger.get_accountId hc)
      have hnet : net rows b.accountId = 0 := by
        refine net_eq_zero fun row hrow => ?_
        obtain ⟨⟨q, c, hc, hout, -⟩, ⟨q', c', hc', hin, -⟩⟩ := h.owners row hrow
        exact ⟨hout ▸ hfree hc, hin ▸ hfree hc'⟩
      unfold Ledger.balanceOf
      rw [hnone, hnet, empty, add_zero]
      rfl
    · exact h.balance p b hb
  · exact (h.owners row hrow).mono fun q c hc => ⟨c, hold q c hc, rfl⟩
  · rcases hnew p b hb with ⟨hp, hba⟩ | hb'
    · rcases hnew q c hc with ⟨hq, -⟩ | hc'
      · rw [hp, hq]
      · rw [hba] at hid
        exact absurd hid.symm (hfree hc')
    · rcases hnew q c hc with ⟨-, hca⟩ | hc'
      · rw [hca] at hid
        exact absurd hid (hfree hb')
      · exact h.distinct p q b c hb' hc' hid
  · obtain ⟨b, hb⟩ := Option.ne_none_iff_exists'.mp (h.kept p hp)
    rw [hold p b hb]
    simp

theorem opened {stored : List Uuid} (h : Explained L₀ rows L) (hopen : Opens stored L L') :
    Explained L₀ rows L' := by
  induction hopen with
  | refl => exact h
  | @user L' uid _ ih =>
    have hfind := L'.find_openUser uid
    have hkeep : ∀ p a, L'.find p = some a →
        ∃ a', (L'.openUser uid).find p = some a' ∧ a'.accountId = a.accountId :=
      fun p a ha => ⟨a, by rw [hfind, ha], rfl⟩
    refine ⟨fun p a ha => ?_, fun row hrow => (ih.owners row hrow).mono hkeep,
      fun p q a b ha hb hid => ?_, fun p hp => ?_⟩
    · rw [hfind] at ha
      exact ih.balance p a ha
    · rw [hfind] at ha hb
      exact ih.distinct p q a b ha hb hid
    · rw [hfind]
      exact ih.kept p hp
  | account o a fresh _ empty _ _ _ ih => exact ih.openAccount fresh empty

/-- New rows, and every account changed by what they say about it. -/
theorem post (h : Explained L₀ rows L) {new : List TransactionRow}
    (hown : ∀ row ∈ new, row.NamesOwners L)
    (hsome : ∀ p a, L.find p = some a → L'.find p = some (a.shift (net new a.accountId)))
    (hnone : ∀ p, L.find p = none → L'.find p = none) : Explained L₀ (rows ++ new) L' := by
  have hkeep : ∀ p a, L.find p = some a → ∃ a', L'.find p = some a' ∧ a'.accountId = a.accountId :=
    fun p a ha => ⟨_, hsome p a ha, rfl⟩
  have hback : ∀ {p a'}, L'.find p = some a' →
      ∃ a, L.find p = some a ∧ a' = a.shift (net new a.accountId) := by
    intro p a' ha'
    cases hp : L.find p with
    | none =>
      rw [hnone p hp] at ha'
      exact absurd ha' (by simp)
    | some a =>
      rw [hsome p a hp] at ha'
      exact ⟨a, rfl, (Option.some.inj ha').symm⟩
  refine ⟨fun p a' ha' => ?_, fun row hrow => ?_, fun p q a' b' ha' hb' hid => ?_, fun p hp => ?_⟩
  · obtain ⟨a, ha, rfl⟩ := hback ha'
    rw [Account.shift_balance, Account.shift_accountId, h.balance p a ha, net_append, add_assoc]
  · rcases List.mem_append.mp hrow with hrow | hrow
    · exact (h.owners row hrow).mono hkeep
    · exact (hown row hrow).mono hkeep
  · obtain ⟨a, ha, rfl⟩ := hback ha'
    obtain ⟨b, hb, rfl⟩ := hback hb'
    exact h.distinct p q a b ha hb hid
  · obtain ⟨a, ha⟩ := Option.ne_none_iff_exists'.mp (h.kept p hp)
    rw [hsome p a ha]
    simp

end Explained

/-! ## Entries that explain themselves -/

theorem Ledger.insurance_writeBack (L : Ledger) (ws : List Write) :
    (L.writeBack ws).insuranceFundAccount = L.insuranceFundAccount := by
  induction ws generalizing L with
  | nil => rfl
  | cons w ws ih =>
    show ((L.put w.owner (w.copy.shift w.delta)).writeBack ws).insuranceFundAccount = _
    rw [ih]
    cases w.owner with
    | user uid => rfl
    | bank => rfl
    | dealer => rfl

/-- What the rows of transfers say about an account is what the copies book on it. -/
theorem net_legs {L : Ledger} (hdist : L.Distinct) {legs : List Leg} (hsound : ∀ l ∈ legs, l.Sound)
    (hget : ∀ w ∈ legs.flatMap Leg.writes, L.get w.ref = some w.copy) {p : Place} {a : Account}
    (ha : L.find p = some a) :
    net (legs.map Leg.row) a.accountId = match p with
      | .held r => Posting.sumAt ((legs.flatMap Leg.writes).map Write.booking) r
      | .insurance => 0 := by
  -- an account is known by its id
  have hid : ∀ w : Write, L.get w.ref = some w.copy →
      (w.copy.accountId = a.accountId ↔ p = .held w.ref) := by
    intro w hw
    refine ⟨fun e => hdist p (.held w.ref) a w.copy ha hw e.symm, fun e => ?_⟩
    rw [e] at ha
    rw [Option.some.inj (hw.symm.trans ha)]
  induction legs with
  | nil => cases p <;> rfl
  | cons l legs ih =>
    have hl := hsound l (by simp)
    have hout := hid l.outbound (hget _ (by simp [Leg.writes]))
    have hin := hid l.inbound (hget _ (by simp [Leg.writes]))
    have ih := ih (fun l' hl' => hsound l' (List.mem_cons_of_mem _ hl'))
      fun w hw => hget w (by rw [List.flatMap_cons]; exact List.mem_append_right _ hw)
    rw [List.map_cons, net_cons, ih]
    unfold TransactionRow.effect
    rw [hl.row.inboundAccountId, hl.row.outboundAccountId, hl.row.inboundAmount,
      hl.row.outboundAmount]
    simp only [hin, hout]
    cases p with
    | insurance => simp
    | held r =>
      simp only [List.flatMap_cons, Leg.writes, List.map_append, List.map_cons, List.map_nil,
        Posting.sumAt_append, Posting.sumAt_cons, Posting.sumAt_nil, Write.booking, hl.outbound,
        hl.inbound, Place.held.injEq]
      rw [if_congr (eq_comm (a := r)) rfl rfl, if_congr (eq_comm (a := r)) rfl rfl]
      split_ifs <;> ring

namespace Explained

variable {L₀ : Ledger} {rows : List TransactionRow}

/-- An entry whose rows explain its writes. -/
theorem entry {P : UserId → Prop} {R : Prop} (h : Explained L₀ rows s.ledger)
    (he : Entry env P R s s') (hr : R) :
    ∃ new, s'.db.transactions.rows = s.db.transactions.rows ++ new ∧
      Explained L₀ (rows ++ new) s'.ledger := by
  obtain ⟨new, ws, s₁, s₂, stage, commit, aside, -, explained⟩ := he
  obtain ⟨legs, hlegs⟩ := explained hr
  obtain ⟨xs, -, hw⟩ := commit.written
  refine ⟨new, ?_, ?_⟩
  · rw [aside.transactions, hw.transactions, stage.transactions]
  have h₁ := h.opened stage.opens
  have hget : ∀ w ∈ legs.flatMap Leg.writes, s₁.ledger.get w.ref = some w.copy :=
    fun w hw => commit.current w (hlegs.subset hw)
  rw [aside.ledger, hw.ledger]
  refine h₁.post (fun row hrow => ?_) (fun p a ha => ?_) fun p hp => ?_
  · rw [hlegs.rows] at hrow
    obtain ⟨l, hl, rfl⟩ := List.mem_map.mp hrow
    have hout := hget l.outbound (List.mem_flatMap.mpr ⟨l, hl, by simp [Leg.writes]⟩)
    have hin := hget l.inbound (List.mem_flatMap.mpr ⟨l, hl, by simp [Leg.writes]⟩)
    have hrow := (hlegs.sound l hl).row
    exact ⟨⟨.held l.outbound.ref, _, hout, hrow.outboundAccountId.symm, hrow.outboundUid⟩,
      ⟨.held l.inbound.ref, _, hin, hrow.inboundAccountId.symm, hrow.inboundUid⟩⟩
  · have hnet := net_legs h₁.distinct hlegs.sound hget ha
    rw [← hlegs.rows] at hnet
    cases p with
    | held r =>
      show (s₁.ledger.writeBack ws).get r = _
      have ha : s₁.ledger.get r = some a := ha
      rw [Ledger.get_writeBack commit.current hlegs.nodup, ha, hlegs.sums, hnet]
      rfl
    | insurance =>
      rw [hnet, Account.shift_zero, ← ha]
      exact congrArg some (Ledger.insurance_writeBack _ _)
  · cases p with
    | held r =>
      show (s₁.ledger.writeBack ws).get r = _
      have hp : s₁.ledger.get r = none := hp
      rw [Ledger.get_writeBack commit.current hlegs.nodup, hp]
      rfl
    | insurance => exact absurd hp (by simp [Ledger.find])

end Explained

/-- Writing a copy back to its place changes that place only. -/
theorem Ledger.find_write {L : Ledger} {p : Place} {a : Account} (ha : L.find p = some a)
    (d : Decimal) (q : Place) :
    (L.write (a.shift d) p).find q = if q = p then some (a.shift d) else L.find q := by
  cases p with
  | insurance =>
    cases q with
    | insurance => rfl
    | held r => rfl
  | held r =>
    have hid : a.accountId = r.2 := Ledger.get_accountId ha
    have hr : Place.held r = .held (r.1, (a.shift d).accountId) := by
      rw [Account.shift_accountId, hid]
    by_cases hq : q = .held r
    · rw [if_pos hq, hq, hr]
      exact L.find_put_self r.1 (a.shift d)
    · rw [if_neg hq]
      exact L.find_put_ne (by rwa [← hr])

/-- A transfer of the operator is explained by its row. -/
theorem Explained.transfer {L₀ : Ledger} {rows : List TransactionRow} {tx : MakeTx}
    {row : TransactionRow} {p q : Place} {a b : Account} {amount : Decimal} {s₁ : State}
    (h : Explained L₀ rows s.ledger) (ht : Transferred env tx s s' row p q a b amount s₁) :
    ∃ new, s'.db.transactions.rows = s.db.transactions.rows ++ new ∧
      Explained L₀ (rows ++ new) s'.ledger := by
  have h₁ := h.opened ht.stage.opens
  refine ⟨[row], by rw [ht.transactions, ht.stage.transactions], ?_⟩
  have hb : (s₁.ledger.write (a.shift (-amount)) p).find q = some b := by
    rw [Ledger.find_write ht.outbound, if_neg ht.different.symm, ht.inbound]
  have hfind : ∀ x, s'.ledger.find x = if x = q then some (b.shift amount) else
      if x = p then some (a.shift (-amount)) else s₁.ledger.find x := by
    intro x
    rw [ht.ledger, Ledger.find_write hb, Ledger.find_write ht.outbound]
  -- an account is known by its id
  have hid : ∀ x c, s₁.ledger.find x = some c →
      ((row.inboundAccountId = c.accountId ↔ x = q) ∧
        (row.outboundAccountId = c.accountId ↔ x = p)) := by
    intro x c hc
    rw [ht.row.inboundAccountId, ht.row.outboundAccountId]
    refine ⟨⟨fun e => h₁.distinct x q c b hc ht.inbound e.symm, fun e => ?_⟩,
      ⟨fun e => h₁.distinct x p c a hc ht.outbound e.symm, fun e => ?_⟩⟩
    · rw [e, ht.inbound] at hc
      rw [Option.some.inj hc]
    · rw [e, ht.outbound] at hc
      rw [Option.some.inj hc]
  refine h₁.post (fun r hr => ?_) (fun x c hc => ?_) fun x hx => ?_
  · rw [List.mem_singleton.mp hr]
    exact ⟨⟨p, a, ht.outbound, ht.row.outboundAccountId.symm, ht.row.outboundUid⟩,
      ⟨q, b, ht.inbound, ht.row.inboundAccountId.symm, ht.row.inboundUid⟩⟩
  · obtain ⟨hin, hout⟩ := hid x c hc
    rw [hfind, net_cons, net_nil, add_zero]
    unfold TransactionRow.effect
    rw [ht.row.inboundAmount, ht.row.outboundAmount, if_congr hin rfl rfl, if_congr hout rfl rfl]
    by_cases hq : x = q
    · rw [if_pos hq, if_pos hq, if_neg fun e => ht.different (e.symm.trans hq), sub_zero]
      rw [hq, ht.inbound] at hc
      rw [Option.some.inj hc]
    · rw [if_neg hq, if_neg hq]
      by_cases hp : x = p
      · rw [if_pos hp, if_pos hp, zero_sub]
        rw [hp, ht.outbound] at hc
        rw [Option.some.inj hc]
      · rw [if_neg hp, if_neg hp, sub_zero, Account.shift_zero, hc]
  · rw [hfind, if_neg, if_neg, hx]
    · intro e
      rw [e, ht.outbound] at hx
      exact absurd hx (by simp)
    · intro e
      rw [e, ht.inbound] at hx
      exact absurd hx (by simp)

/-! ## Runs -/

/-- One message whose rows stand for what it books. -/
theorem Delivers.explained {L₀ : Ledger} {rows : List TransactionRow} {d : Delivery}
    (h : Delivers cfg s d s') (hrec : Recorded cfg d.env s d.msg)
    (hs : Explained L₀ rows s.ledger) :
    ∃ new, s'.db.transactions.rows = s.db.transactions.rows ++ new ∧
      Explained L₀ (rows ++ new) s'.ledger := by
  obtain ⟨env, msg⟩ := d
  by_cases hcli : ∃ tx, msg = .cli (.makeTx tx)
  · obtain ⟨tx, rfl⟩ := hcli
    refine h.ensures (Q := fun _ s' => ∃ new, s'.db.transactions.rows =
      s.db.transactions.rows ++ new ∧ Explained L₀ (rows ++ new) s'.ledger) ?_
    refine (processMakeTx_transfers tx).bind ?_
    intro r s₁ h₁
    refine (send_aside _ _).mono fun _ s₂ h₂ => ?_
    rw [h₂.ledger, h₂.transactions]
    rcases h₁ with hst | ⟨row, p, q, a, b, amount, s₀, ht⟩
    · exact ⟨[], hst.transactions, by rw [List.append_nil]; exact hs.opened hst.opens⟩
    · exact Explained.transfer (s := { s with sent := [] }) hs ht
  · have hkarma : ∀ m, msg ≠ .dealer (.karmaBalance m) := by
      intro m e
      rw [e] at hrec
      exact hrec
    have he := h.ensures (processMsg_entry hkarma fun tx e => hcli ⟨tx, e⟩)
    exact Explained.entry (s := { s with sent := [] }) hs he hrec

namespace Sample

end Sample

end Lndhubx
