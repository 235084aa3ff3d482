import Lndhubx.Bank.InitAccounts

/-!
# Restarting the bank

`Synced` relates a ledger and the accounts table: a row with the id of an account
is loaded for its holder and reads as the account, an account without a row is
empty, and every row that is loaded is in the ledger. Opening accounts keeps it,
and so does writing an account back to both sides, if a row of its holder is
loaded for its holder (`Synced.write`): that is so for the bank, for the dealer
and for every user who is not internal. A payment to the users `bank` or
`dealer`, and a transfer to or from the insurance fund, store rows that come back
as something else.
-/

namespace Lndhubx

open Prog BankEngine

variable {cfg : Config} {env : Env} {s s' : State} {dir : Directory}

/-! ## The row of an account -/

theorem AccountType.fromStr_display (t : AccountType) : AccountType.fromStr t.display = some t := by
  cases t <;> decide

/-- The row is loaded as this account of this holder, if its balance fits. -/
structure AccountRow.IsOf (dir : Directory) (o : Owner) (a : Account)
    (row : AccountRow) : Prop where
  group : groupOf dir row = some o
  accountId : row.accountId = a.accountId
  balance : row.balance = a.balance
  currency : Currency.fromStr row.currency = some a.currency
  accountType : AccountType.fromStr row.accountType = some a.accountType
  accountClass : AccountClass.fromStr row.accountClass = some a.accountClass

theorem AccountRow.IsOf.parse {o : Owner} {a : Account} {row : AccountRow} (h : row.IsOf dir o a)
    (hfits : |row.balance| ≤ Decimal.MAX) : row.parse = .ok a := by
  refine AccountRow.parse_eq_ok.mpr ⟨h.currency, ?_, h.accountType, h.accountClass, h.accountId⟩
  unfold Decimal.fromBigDecimal
  rw [if_pos hfits, h.balance]

/-- A user who is not internal, under a uid that fits the column. -/
def Customer (dir : Directory) (uid : UserId) : Prop :=
  (∃ u, dir.userById (asI32 uid) = some u ∧ u.isInternal = false) ∧ asU64 (asI32 uid) = uid

/-- The two internal users are there. -/
structure Staffed (dir : Directory) : Prop where
  bank : ∃ u, dir.userById (asI32 BANK_UID) = some u ∧ u.isInternal = true ∧ u.username = "bank"
  dealer : ∃ u, dir.userById (asI32 DEALER_UID) = some u ∧ u.isInternal = true ∧
    u.username = "dealer"

/-- A new row of a holder is loaded for the holder. -/
theorem newRow_isOf (hstaff : Staffed dir) {o : Owner} {a : Account}
    (hreg : ∀ uid, o = .user uid → Customer dir uid) (hcash : a.accountClass = .cash)
    (hext : o = .bank → a.accountType = .external) :
    (newRow a (counterpartyUid o)).IsOf dir o a := by
  refine ⟨?_, rfl, rfl, a.currency.fromStr_display, a.accountType.fromStr_display, ?_⟩
  · show groupOf dir (newRow a (counterpartyUid o)) = some o
    have hclass : (newRow a (counterpartyUid o)).accountClass = "Cash" := by
      show a.accountClass.display = "Cash"
      rw [hcash]
      rfl
    cases o with
    | bank =>
      obtain ⟨u, hu, hint, hname⟩ := hstaff.bank
      have htype : (newRow a (counterpartyUid .bank)).accountType = "External" := by
        show a.accountType.display = "External"
        rw [hext rfl]
        rfl
      have huid : (newRow a (counterpartyUid .bank)).uid = 23193913 := by
        show asI32 BANK_UID = 23193913
        decide
      have huser : dir.userById (newRow a (counterpartyUid .bank)).uid = some u := hu
      unfold groupOf
      rw [huser]
      dsimp only
      rw [if_pos hint, if_pos ⟨huid, hname, htype, hclass⟩]
    | dealer =>
      obtain ⟨u, hu, hint, hname⟩ := hstaff.dealer
      -- both types of account are the dealer's
      have htype : (newRow a (counterpartyUid .dealer)).accountType = "Internal" ∨
          (newRow a (counterpartyUid .dealer)).accountType = "External" := by
        show a.accountType.display = "Internal" ∨ a.accountType.display = "External"
        cases a.accountType with
        | internal => exact .inl rfl
        | external => exact .inr rfl
      have huser : dir.userById (newRow a (counterpartyUid .dealer)).uid = some u := hu
      have huid : (newRow a (counterpartyUid .dealer)).uid = 52172712 := by
        show asI32 DEALER_UID = 52172712
        decide
      have hnot : (newRow a (counterpartyUid .dealer)).uid ≠ 23193913 := by
        rw [huid]
        decide
      unfold groupOf
      rw [huser]
      dsimp only
      rw [if_pos hint, if_neg fun h => hnot h.1, if_pos ⟨huid, hname, htype, hclass⟩]
    | user uid =>
      obtain ⟨⟨u, hu, hint⟩, hcast⟩ := hreg uid rfl
      have huid : (newRow a (counterpartyUid (.user uid))).uid = asI32 uid := by
        simp only [newRow, counterpartyUid]
      rw [groupOf_eq_user, huid, hu, hcast]
      simp [hint]
  · show AccountClass.fromStr a.accountClass.display = some a.accountClass
    rw [hcash]
    decide

/-- Storing an account leaves the other rows. -/
theorem mem_storeRow_of_ne {t : AccountTable} {a : Account} {uid : UserId} {row : AccountRow}
    (h : row.accountId ≠ a.accountId) : row ∈ (storeRow t a uid).rows ↔ row ∈ t.rows := by
  unfold storeRow
  split
  · show row ∈ (t.rows.map fun r => if r.accountId = a.accountId then
      { r with balance := a.balance, currency := a.currency.display } else r) ↔ _
    rw [List.mem_map]
    constructor
    · intro hm
      obtain ⟨r, hr, rfl⟩ := hm
      by_cases hid : r.accountId = a.accountId
      · rw [if_pos hid] at h
        exact absurd hid h
      · rwa [if_neg hid]
    · intro hm
      exact ⟨row, hm, if_neg h⟩
  next hno =>
    cases hins : t.insert (newRow a uid) with
    | none => rfl
    | some t' =>
      show row ∈ t'.rows ↔ _
      rw [Table.insert_rows hins, List.mem_append, List.mem_singleton]
      refine or_iff_left fun e => h ?_
      rw [e]
      rfl

/-- A stored row is changed in its balance and its currency. -/
theorem mem_storeRow_of_mem {t : AccountTable} {a : Account} {uid : UserId} {row : AccountRow}
    (hrow : row ∈ t.rows) (hid : row.accountId = a.accountId) :
    { row with balance := a.balance, currency := a.currency.display } ∈
      (storeRow t a uid).rows := by
  have hhas : t.has a.accountId = true := by
    rw [← hid]
    exact decide_eq_true (List.mem_map.mpr ⟨row, hrow, rfl⟩)
  unfold storeRow
  rw [if_pos hhas]
  exact List.mem_map.mpr ⟨row, hrow, if_pos hid⟩

theorem newRow_mem_storeRow {t : AccountTable} {a : Account} {uid : UserId}
    (hno : ∀ row ∈ t.rows, row.accountId ≠ a.accountId) :
    newRow a uid ∈ (storeRow t a uid).rows := by
  have hhas : ¬t.has a.accountId = true := by
    intro h
    obtain ⟨row, hrow, e⟩ := List.mem_map.mp (of_decide_eq_true h)
    exact hno row hrow e
  unfold storeRow
  rw [if_neg hhas]
  cases hins : t.insert (newRow a uid) with
  | none => exact absurd (Table.insert_eq_none.mp hins) hhas
  | some t' =>
    show _ ∈ t'.rows
    rw [Table.insert_rows hins]
    simp

/-! ## The table and the ledger -/

/-- An account that was opened and never written back. -/
structure Unstored (t : AccountTable) (o : Owner) (a : Account) : Prop where
  unstored : ∀ row ∈ t.rows, row.accountId ≠ a.accountId
  empty : a.balance = 0
  cash : a.accountClass = .cash
  external : o = .bank → a.accountType = .external

/-- The table holds the ledger, as far as it is not empty. -/
structure Synced (dir : Directory) (L : Ledger) (t : AccountTable) : Prop where
  account : ∀ r a, L.get r = some a → Unstored t r.1 a ∨ ∃ row ∈ t.rows, row.IsOf dir r.1 a
  loaded : ∀ row ∈ t.rows, ∀ o, groupOf dir row = some o → ∃ a, L.get (o, row.accountId) = some a
  holder : ∀ r r' a a', L.get r = some a → L.get r' = some a' → r.2 = r'.2 → r = r'

namespace Synced

variable {L L' : Ledger} {t : AccountTable}

theorem congr (h : Synced dir L t) (hget : ∀ r, L'.get r = L.get r) : Synced dir L' t := by
  refine ⟨fun r a ha => ?_, fun row hrow o ho => ?_, fun r r' a a' ha ha' => ?_⟩
  · rw [hget] at ha
    exact h.account r a ha
  · rw [hget]
    exact h.loaded row hrow o ho
  · rw [hget] at ha ha'
    exact h.holder r r' a a' ha ha'

/-- A new account has an id that neither the ledger nor the table knows. -/
theorem openAccount (h : Synced dir L t) {o : Owner} {a : Account} (fresh : a.accountId ∉ L.ids)
    (unstored : a.accountId ∉ t.rows.map (·.accountId)) (empty : a.balance = 0)
    (cash : a.accountClass = .cash) (external : o = .bank → a.accountType = .external) :
    Synced dir (L.put o a) t := by
  have hfree : ∀ {r b}, L.get r = some b → r.2 ≠ a.accountId := by
    intro r b hb e
    have hnone := Ledger.get_eq_none_of_not_mem_ids fresh r.1
    rw [← e, hb] at hnone
    exact absurd hnone (by simp)
  have hnew : ∀ {r b}, (L.put o a).get r = some b →
      (r = (o, a.accountId) ∧ b = a) ∨ L.get r = some b := by
    intro r b hb
    by_cases hr : r = (o, a.accountId)
    · left
      rw [hr, L.get_put_self] at hb
      exact ⟨hr, (Option.some.inj hb).symm⟩
    · right
      rwa [L.get_put_ne hr] at hb
  refine ⟨fun r b hb => ?_, fun row hrow o' ho => ?_, fun r r' b b' hb hb' hid => ?_⟩
  · rcases hnew hb with ⟨rfl, rfl⟩ | hb
    · refine .inl ⟨fun row hrow e => unstored ?_, empty, cash, external⟩
      exact List.mem_map.mpr ⟨row, hrow, e⟩
    · exact h.account r b hb
  · obtain ⟨b, hb⟩ := h.loaded row hrow o' ho
    refine ⟨b, ?_⟩
    rw [L.get_put_ne, hb]
    exact fun e => hfree hb (congrArg Prod.snd e)
  · rcases hnew hb with ⟨hr, -⟩ | hold
    · rcases hnew hb' with ⟨hr', -⟩ | hold'
      · rw [hr, hr']
      · rw [hr] at hid
        exact absurd hid.symm (hfree hold')
    · rcases hnew hb' with ⟨hr', -⟩ | hold'
      · rw [hr'] at hid
        exact absurd hid (hfree hold)
      · exact h.holder r r' b b' hold hold' hid

theorem opened (h : Synced dir L t) (hopen : Opens (t.rows.map (·.accountId)) L L') :
    Synced dir L' t := by
  induction hopen with
  | refl => exact h
  | user uid _ ih => exact ih.congr fun r => Ledger.get_openUser _ _ r
  | account o a fresh unstored empty cash external _ ih =>
    exact ih.openAccount fresh unstored empty cash external

/-- An account that is written back to the ledger and to the table. -/
theorem write (h : Synced dir L t) (hstaff : Staffed dir) {o : Owner} {a : Account}
    (ha : L.get (o, a.accountId) = some a) (d : Decimal)
    (hreg : ∀ uid, o = .user uid → Customer dir uid) :
    Synced dir (L.put o (a.shift d)) (storeRow t (a.shift d) (counterpartyUid o)) := by
  -- the row of the account, rewritten or new
  have hown : ∃ own ∈ (storeRow t (a.shift d) (counterpartyUid o)).rows,
      own.IsOf dir o (a.shift d) := by
    rcases h.account _ _ ha with hnew | ⟨row, hrow, his⟩
    · exact ⟨_, newRow_mem_storeRow hnew.unstored, newRow_isOf hstaff hreg hnew.cash hnew.external⟩
    · refine ⟨_, mem_storeRow_of_mem hrow his.accountId, ?_⟩
      exact ⟨his.group, his.accountId, rfl, a.currency.fromStr_display, his.accountType,
        his.accountClass⟩
  obtain ⟨own, hmem, hisof⟩ := hown
  have hself : (L.put o (a.shift d)).get (o, a.accountId) = some (a.shift d) :=
    L.get_put_self o (a.shift d)
  have hother : ∀ {r}, r ≠ (o, a.accountId) → (L.put o (a.shift d)).get r = L.get r :=
    fun hr => L.get_put_ne hr
  have hback : ∀ {r b}, (L.put o (a.shift d)).get r = some b → ∃ b', L.get r = some b' := by
    intro r b hb
    by_cases hr : r = (o, a.accountId)
    · exact ⟨a, by rw [hr, ha]⟩
    · rw [hother hr] at hb
      exact ⟨b, hb⟩
  refine ⟨fun r b hb => ?_, fun row hrow o' ho => ?_, fun r r' b b' hb hb' hid => ?_⟩
  · by_cases hr : r = (o, a.accountId)
    · subst hr
      rw [hself] at hb
      rw [← Option.some.inj hb]
      exact .inr ⟨own, hmem, hisof⟩
    · rw [hother hr] at hb
      -- no other account has this id
      have hid : b.accountId ≠ a.accountId := by
        intro e
        refine hr (h.holder _ _ _ _ hb ha ?_)
        rw [← Ledger.get_accountId hb]
        exact e
      rcases h.account r b hb with hnew | ⟨row, hrow, his⟩
      · refine .inl { hnew with unstored := fun row hrow e => ?_ }
        have hne : row.accountId ≠ (a.shift d).accountId := by rwa [e]
        exact hnew.unstored row ((mem_storeRow_of_ne hne).mp hrow) e
      · have hne : row.accountId ≠ (a.shift d).accountId := by rwa [his.accountId]
        exact .inr ⟨row, (mem_storeRow_of_ne hne).mpr hrow, his⟩
  · by_cases hid : row.accountId = a.accountId
    · have hrow : row = own := Table.eq_of_key hrow hmem (hid.trans hisof.accountId.symm)
      rw [hrow, hisof.group] at ho
      rw [hid, ← Option.some.inj ho]
      exact ⟨_, hself⟩
    · have hne : row.accountId ≠ (a.shift d).accountId := hid
      obtain ⟨b, hb⟩ := h.loaded row ((mem_storeRow_of_ne hne).mp hrow) o' ho
      refine ⟨b, ?_⟩
      rw [hother, hb]
      exact fun e => hid (congrArg Prod.snd e)
  · obtain ⟨c, hc⟩ := hback hb
    obtain ⟨c', hc'⟩ := hback hb'
    exact h.holder r r' c c' hc hc' hid

/-- Copies of accounts, however stale, written back one after the other. -/
theorem writeAll (hstaff : Staffed dir) {ws : List Write} (h : Synced dir L t)
    (hcopy : ∀ w ∈ ws, ∃ d, L.get w.ref = some (w.copy.shift d))
    (hreg : ∀ w ∈ ws, ∀ uid, w.owner = .user uid → Customer dir uid) :
    Synced dir (L.writeBack ws) (storeAll t ws) := by
  induction ws generalizing L t with
  | nil => exact h
  | cons w ws ih =>
    obtain ⟨d, hd⟩ := hcopy w (by simp)
    have hshift : (w.copy.shift d).shift (w.delta - d) = w.copy.shift w.delta := by
      rw [Account.shift_shift]
      congr 1
      ring
    have hw := h.write (a := w.copy.shift d) hstaff hd (w.delta - d) (hreg w (by simp))
    rw [hshift] at hw
    refine ih hw (fun w' hw' => ?_) fun w' hw' => hreg w' (List.mem_cons_of_mem _ hw')
    obtain ⟨d', hd'⟩ := hcopy w' (List.mem_cons_of_mem _ hw')
    by_cases hr : w'.ref = w.ref
    · -- the same account: another copy of it
      rw [hr, hd] at hd'
      refine ⟨d' + (w.delta - d), ?_⟩
      rw [← Account.shift_shift, ← Option.some.inj hd', hshift, hr]
      exact L.get_put_self w.owner (w.copy.shift w.delta)
    · exact ⟨d', by rw [← hd']; exact L.get_put_ne hr⟩

end Synced

/-! ## Messages -/

/-- The table of a state holds its ledger. -/
abbrev State.Synced (dir : Directory) (s : State) : Prop :=
  Lndhubx.Synced dir s.ledger s.db.accounts

namespace State.Synced

theorem stage {rows : List TransactionRow} (h : s.Synced dir) (hst : Stage env s rows s') :
    s'.Synced dir := by
  unfold State.Synced
  rw [hst.accounts]
  exact Lndhubx.Synced.opened h hst.opens

theorem aside (h : s.Synced dir) (ha : Aside s s') : s'.Synced dir := by
  unfold State.Synced
  rw [ha.ledger, ha.accounts]
  exact h

theorem commit {ws : List Write} (hstaff : Staffed dir) (hdb : ∀ call, env.db call = true)
    (h : s.Synced dir) (hc : Commit env ws s s')
    (hreg : ∀ w ∈ ws, ∀ uid, w.owner = .user uid → Customer dir uid) : s'.Synced dir := by
  obtain ⟨xs, hxs, hw⟩ := hc.written
  unfold State.Synced
  rw [hw.ledger, hw.accounts hdb]
  rcases hxs with rfl | ⟨hperm, hnd⟩
  · exact Lndhubx.Synced.writeAll hstaff h
      (fun w hw => ⟨0, by rw [Account.shift_zero]; exact hc.current w hw⟩) hreg
  · -- different accounts: the order of the copies does not matter
    have hcur : ∀ w ∈ xs, s.ledger.get w.ref = some w.copy :=
      fun w hw => hc.current w (hperm.subset hw)
    have hnd' : (xs.map Write.ref).Nodup := ((hperm.map Write.ref).nodup_iff).mpr hnd
    refine (Lndhubx.Synced.writeAll hstaff h
      (fun w (hw : w ∈ xs) => ⟨0, by rw [Account.shift_zero]; exact hcur w hw⟩)
      fun w hw => hreg w (hperm.subset hw)).congr fun r => ?_
    rw [Ledger.get_writeBack hc.current hnd, Ledger.get_writeBack hcur hnd',
      Posting.sumAt_perm (hperm.map Write.booking) r]

theorem entry {P : UserId → Prop} {R : Prop} (hstaff : Staffed dir)
    (hdb : ∀ call, env.db call = true) (h : s.Synced dir) (he : Entry env P R s s')
    (hreg : ∀ uid, P uid → Customer dir uid) : s'.Synced dir := by
  obtain ⟨rows, ws, s₁, s₂, stage, commit, aside, users, -⟩ := he
  exact ((h.stage stage).commit hstaff hdb commit
    fun w hw uid ho => hreg uid (users w hw uid ho)).aside aside

end State.Synced

/-! ### Karma -/

/-- The users that karma goes to have swapped. -/
theorem mem_totals {rates : List ((Currency × Currency) × Rate)} {rows : List SummaryTransaction}
    {start : Option UserTotals} {totals : UserTotals}
    (h : rows.foldlM (addUserTotal rates) start = .ok (some totals)) {uid : UserId}
    (huid : uid ∈ totals) :
    (∃ first, start = some first ∧ uid ∈ first) ∨ ∃ row ∈ rows, swapUser row = some uid := by
  induction rows generalizing start with
  | nil => exact .inl ⟨totals, Checked.pure_eq_ok.mp h, huid⟩
  | cons row rows ih =>
    rw [List.foldlM_cons] at h
    obtain ⟨next, hnext, h⟩ := Checked.bind_eq_ok.mp h
    rcases ih h with ⟨first, rfl, hfirst⟩ | ⟨r, hr, hru⟩
    · unfold addUserTotal at hnext
      split at hnext
      next before =>
        split at hnext
        next user huser =>
          obtain ⟨value, -, hnext⟩ := Checked.bind_eq_ok.mp hnext
          split at hnext
          next =>
            obtain ⟨new, -, hnext⟩ := Checked.bind_eq_ok.mp hnext
            have hnext := Option.some.inj (Checked.pure_eq_ok.mp hnext)
            rw [← hnext, AList.mem_insert] at hfirst
            rcases hfirst with rfl | hfirst
            · exact .inr ⟨row, by simp, huser⟩
            · exact .inl ⟨before, rfl, hfirst⟩
          next => exact absurd (Checked.pure_eq_ok.mp hnext) (by simp)
        next =>
          have hnext := Option.some.inj (Checked.pure_eq_ok.mp hnext)
          rw [← hnext] at hfirst
          exact .inl ⟨before, rfl, hfirst⟩
      next => exact absurd (Checked.pure_eq_ok.mp hnext) (by simp)
    · exact .inr ⟨r, List.mem_cons_of_mem _ hr, hru⟩

theorem distributeKarmaTo_entry (karma change : Money) (total : Decimal)
    (entry : UserId × Decimal) :
    Ensures (distributeKarmaTo env karma total change entry) s fun _ s' =>
      Entry env (· = entry.1) False s s' := by
  unfold distributeKarmaTo
  refine Ensures.lift_bind fun ratio _ => Ensures.lift_bind fun part _ => ?_
  dsimp only
  refine Ensures.ite (fun _ => ?_) fun _ => Ensures.lift_bind fun _ _ => .opened (.refl env s)
  refine (getOrOpenAccount_stage _ _ _).bind ?_
  intro account s₁ h
  obtain ⟨h₁, hacc, -⟩ := h
  refine Ensures.lift_bind fun balance hbal => ?_
  obtain ⟨-, rfl⟩ := Decimal.add_eq_ok.mp hbal
  generalize (Money.new karma.currency part).value = v
  let w : Write := ⟨.user entry.1, account, v⟩
  refine (insertIntoLedger_writes (.refl env s₁) entry.1 account v).bind ?_
  intro _ s₂ hw
  refine (updateAccount_writes hw w).bind ?_
  intro _ s₃ hw
  refine Ensures.lift_bind fun _ _ => ?_
  have hcommit : Commit env [w] s₁ s₃ := ⟨by simpa [w, Write.ref] using hacc, [w], .inl rfl, hw⟩
  exact .mk [] [w] s₁ s₃ h₁ hcommit (.refl s₃) (by simp [w]) fun hf => hf.elim

/-- One of the dealer's balances is set. -/
theorem setDealerBalance_commit {account : Account}
    (hacc : s.ledger.get (.dealer, account.accountId) = some account) (b : Decimal) :
    Ensures (do
      putAccount .dealer { account with balance := b }
      updateAccount env { account with balance := b } DEALER_UID) s fun _ s' =>
      Commit env [⟨.dealer, account, b - account.balance⟩] s s' := by
  let w : Write := ⟨.dealer, account, b - account.balance⟩
  have hw : { account with balance := b } = w.copy.shift w.delta := by
    simp [w, Account.shift]
  rw [hw]
  refine (putAccount_writes (.refl env s) w).bind ?_
  intro _ s₁ h₁
  refine (updateAccount_writes h₁ w).mono fun _ s₂ h₂ => ?_
  exact ⟨by simpa [w, Write.ref] using hacc, [w], .inl rfl, h₂⟩

namespace State.Synced

theorem setDealerBalance (hstaff : Staffed dir) (hdb : ∀ call, env.db call = true)
    (h : s.Synced dir) {account : Account}
    (hacc : s.ledger.get (.dealer, account.accountId) = some account) (b : Decimal) :
    Ensures (do
      putAccount .dealer { account with balance := b }
      updateAccount env { account with balance := b } DEALER_UID) s fun _ s' => s'.Synced dir :=
  (setDealerBalance_commit hacc b).mono fun _ _ hc => h.commit hstaff hdb hc (by simp)

theorem distributeKarma (hstaff : Staffed dir) (hdb : ∀ call, env.db call = true)
    (h : s.Synced dir) (karma : Money) {totals : UserTotals}
    (hreg : ∀ uid ∈ totals, Customer dir uid) :
    Ensures (BankEngine.distributeKarma env karma totals) s fun _ s' => s'.Synced dir := by
  refine Ensures.lift_bind fun total _ => ?_
  refine Ensures.bind (R := fun _ s' => s'.Synced dir) ?_ fun change s₁ h₁ => ?_
  · refine Ensures.foldlM ?_ karma h
    intro change entry hentry s₁ h₁
    refine (distributeKarmaTo_entry karma change total entry).mono fun _ s₂ he => ?_
    refine h₁.entry hstaff hdb he fun uid huid => hreg uid ?_
    obtain ⟨e, hmem, rfl⟩ := List.mem_map.mp hentry
    rw [huid, AList.mem_keys]
    exact List.mem_map.mpr ⟨e, hmem, rfl⟩
  · refine (getDealerAccount_stage _ _).bind ?_
    intro account s₂ h
    obtain ⟨h₂, hacc, -⟩ := h
    exact (h₁.stage h₂).setDealerBalance hstaff hdb hacc change.value

theorem karmaBalance (hstaff : Staffed dir) (hdb : ∀ call, env.db call = true) (h : s.Synced dir)
    (msg : KarmaBalance)
    (hreg : ∀ uid, (∃ row ∈ s.db.swaps, swapUser row = some uid) → Customer dir uid) :
    Ensures (BankEngine.karmaBalance env msg) s fun _ s' => s'.Synced dir := by
  unfold BankEngine.karmaBalance
  refine Ensures.bind (R := fun _ s' => s' = s) ?_ ?_
  · exact Ensures.get_bind (Ensures.lift_bind fun _ _ => rfl)
  intro bankState s₀ h₀
  subst h₀
  refine Ensures.bind (R := fun r s' => s' = s₀ ∧ ∀ totals, r = some totals →
    ∀ uid ∈ totals, Customer dir uid) ?_ ?_
  · unfold getUserTotals
    refine Ensures.ite (fun _ => ⟨rfl, by simp⟩) fun _ =>
      Ensures.ite (fun _ => ⟨rfl, by simp⟩) fun _ => ?_
    refine Ensures.get_bind (Ensures.lift fun r hr => ⟨rfl, fun totals e uid huid => ?_⟩)
    subst e
    rcases mem_totals hr huid with ⟨first, e, hfirst⟩ | hrow
    · rw [← Option.some.inj e] at hfirst
      exact absurd hfirst (AList.notMem_empty _)
    · exact hreg uid hrow
  intro r s₁ h₁
  obtain ⟨rfl, htotals⟩ := h₁
  split
  next totals =>
    refine (getDealerAccount_stage _ _).bind ?_
    intro account s₂ h₂
    obtain ⟨h₂, hacc, -⟩ := h₂
    rw [← bind_assoc]
    refine Ensures.bind ((h.stage h₂).setDealerBalance hstaff hdb hacc _) ?_
    intro _ s₃ h₃
    refine Ensures.lift_bind fun diff _ => ?_
    refine Ensures.ite (fun _ => ?_) fun _ => h₃
    exact h₃.distributeKarma hstaff hdb _ (htotals totals rfl)
  next => exact h

end State.Synced

/-! ### Transfers by the operator -/

/-- A transfer between two accounts, neither of them the insurance fund. -/
theorem State.Synced.transfer {tx : MakeTx} {row : TransactionRow} {p q : Place} {a b : Account}
    {amount : Decimal} {s₁ : State} (hstaff : Staffed dir) (hdb : ∀ call, env.db call = true)
    (h : s.Synced dir) (ht : Transferred env tx s s' row p q a b amount s₁)
    (hp : p ≠ .insurance) (hq : q ≠ .insurance)
    (hreg : ∀ uid id, p = .held (.user uid, id) ∨ q = .held (.user uid, id) → Customer dir uid) :
    s'.Synced dir := by
  have h₁ := h.stage ht.stage
  have hheld : ∀ x : Place, x ≠ .insurance → ∃ r, x = .held r := by
    intro x hx
    cases x with
    | insurance => exact absurd rfl hx
    | held r => exact ⟨r, rfl⟩
  obtain ⟨r, rfl⟩ := hheld p hp
  obtain ⟨r', rfl⟩ := hheld q hq
  have ha : s₁.ledger.get r = some a := ht.outbound
  have hb : s₁.ledger.get r' = some b := ht.inbound
  have hr : (r.1, a.accountId) = r := by rw [Ledger.get_accountId ha]
  have hr' : (r'.1, b.accountId) = r' := by rw [Ledger.get_accountId hb]
  have hput := Lndhubx.Synced.write (a := a) h₁ hstaff (by rw [hr]; exact ha) (-amount)
    fun uid ho => hreg uid r.2 (.inl (by rw [← ho]))
  have hne : r' ≠ (r.1, (a.shift (-amount)).accountId) := by
    rw [Account.shift_accountId, hr]
    exact fun e => ht.different (by rw [e])
  have hget : (s₁.ledger.put r.1 (a.shift (-amount))).get (r'.1, b.accountId) = some b := by
    rw [hr', Ledger.get_put_ne _ hne, hb]
  have hput' := hput.write hstaff hget amount fun uid ho => hreg uid r'.2 (.inr (by rw [← ho]))
  unfold State.Synced
  rw [ht.ledger, ht.accounts hdb]
  exact hput'

/-! ## Runs -/

/-- Ledgers that hold the same but for empty accounts are reconciled alike. -/
theorem Reconciled.congr {L L' : Ledger} (h : Reconciled L)
    (hsame : ∀ r a, a.balance ≠ 0 → (L.get r = some a ↔ L'.get r = some a)) : Reconciled L' := by
  refine ⟨fun uid id a ha => ?_, fun c => ?_⟩
  · by_cases hzero : a.balance = 0
    · rw [hzero]
    · exact h.nonneg uid id a ((hsame _ a hzero).mpr ha)
  · rw [← h.netZero c, ← sum_share_accounts, ← sum_share_accounts]
    refine (sum_accounts_congr (fun a ha => ?_) hsame).symm
    unfold Ledger.share
    rw [ha, ite_self]

theorem Ledger.Fits.congr {L L' : Ledger} (h : L.Fits)
    (hsame : ∀ r a, a.balance ≠ 0 → (L.get r = some a ↔ L'.get r = some a)) : L'.Fits := by
  intro c
  rw [← sum_accounts_congr (fun a ha => ?_) hsame]
  · exact h c
  · unfold Ledger.share
    rw [ha, ite_self, abs_zero]

namespace Sample

end Sample

end Lndhubx
