import Lndhubx.Bank.Ledger

/-!
# Reconciliation

`bank/src/accountant.rs`. At start-up and every few seconds the bank checks
its own books: no user account may be negative, and in every currency the
accounts of users, bank and dealer must cancel. A failed check shuts the bank
down.

A `HashMap` from currencies to tallies is a function that is zero where the
map has no entry; `addBalance` is one `entry(..).or_insert(0) += balance`.
What a passed check means is said once, in `reconciled_of_ok`: every user
balance is non-negative and every `Ledger.total` is zero. The converse needs
the sums to fit into a `Decimal` (`reconcileLedger_of_fits`).

Two ledgers that hold the same accounts but for empty ones have the same sums
(`sum_accounts_congr`), whatever the order in which they are walked.
-/

namespace Lndhubx

open Tally

namespace Currency

def all : List Currency := [USD, GBP, EUR, BTC, KKP]

theorem mem_all (c : Currency) : c ∈ all := by cases c <;> decide

end Currency

/-- Balances added up per currency. -/
abbrev Tallies := Currency → Decimal

def addBalance (m : Tallies) (a : Account) : Checked Tallies := do
  let v ← Decimal.add (m a.currency) a.balance
  return Function.update m a.currency v

/-- The accounts of every user. -/
def Ledger.userAccountList (L : Ledger) : List Account :=
  L.userAccounts.entries.flatMap (·.2.values)

structure ReconcilationError where
  accounts : List Account
  netZero : List (Currency × Decimal)

def reconcileLedger (L : Ledger) : Checked (Except ReconcilationError Unit) := do
  let users := L.userAccountList
  let m ← users.foldlM addBalance 0
  let negative := users.filter (·.balance < 0)
  if negative ≠ [] then
    return .error { accounts := negative, netZero := [] }
  let m ← L.bankLiabilities.values.foldlM addBalance m
  let m ← L.dealerAccounts.values.foldlM addBalance m
  let netZero := (Currency.all.filter (m · ≠ 0)).map fun c => (c, m c)
  if netZero ≠ [] then
    return .error { accounts := [], netZero }
  return .ok ()

/-! ## What a successful check says -/

theorem addBalance_error {m : Tallies} {a : Account} {e : Panic} (h : addBalance m a = .error e) :
    e = .overflow := by
  rcases Checked.bind_eq_error h with h | ⟨v, -, h⟩
  · exact Decimal.inRange_eq_error h
  · exact absurd h (by simp [pure, Except.pure])

/-- Adding a list of accounts up adds their shares, currency by currency. -/
theorem foldlM_addBalance {l : List Account} {m m' : Tallies} (h : l.foldlM addBalance m = .ok m')
    (c : Currency) : m' c = m c + (l.map (Ledger.share c)).sum := by
  induction l generalizing m with
  | nil =>
    injection h with h
    rw [← h]
    simp
  | cons a l ih =>
    rw [List.foldlM_cons] at h
    obtain ⟨m₁, hadd, hrest⟩ := Checked.bind_eq_ok.mp h
    obtain ⟨v, hv, hm₁⟩ := Checked.bind_eq_ok.mp hadd
    obtain ⟨-, rfl⟩ := Decimal.add_eq_ok.mp hv
    have hm₁ := Checked.pure_eq_ok.mp hm₁
    subst hm₁
    rw [ih hrest, List.map_cons, List.sum_cons, ← add_assoc]
    congr 1
    by_cases hc : c = a.currency
    · subst hc
      simp [Ledger.share]
    · rw [Function.update_of_ne hc]
      simp [Ledger.share, Ne.symm hc]

/-- The accounts of one holder, added up. -/
theorem sum_share_values (c : Currency) (ua : UserAccount) :
    (ua.values.map (Ledger.share c)).sum = ua.tallyOf c := by
  unfold UserAccount.tallyOf UserAccount.values tally Ledger.share
  rw [List.map_map]
  rfl

theorem sum_share_users (c : Currency) (L : Ledger) :
    (L.userAccountList.map (Ledger.share c)).sum =
      tally (UserAccount.tallyOf c) L.userAccounts := by
  unfold Ledger.userAccountList tally
  induction L.userAccounts.entries with
  | nil => rfl
  | cons e es ih =>
    rw [List.flatMap_cons, List.map_append, List.sum_append, ih, List.map_cons, List.sum_cons,
      sum_share_values]

/-- An account of a user is a user account. -/
theorem mem_userAccountList {L : Ledger} {uid : UserId} {id : AccountId} {a : Account}
    (h : L.get (.user uid, id) = some a) : a ∈ L.userAccountList := by
  unfold Ledger.get at h
  cases hl : L.userAccounts.lookup uid with
  | none => simp [Ledger.holder, hl, UserAccount.new] at h
  | some ua =>
    simp only [Ledger.holder, hl, Option.getD_some] at h
    refine List.mem_flatMap.mpr ⟨⟨uid, ua⟩, mem_entries_iff.mpr hl, ?_⟩
    exact List.mem_map.mpr ⟨⟨id, a⟩, mem_entries_iff.mpr h, rfl⟩

/-- Reconciled books: every user balance non-negative, every currency cancelling. -/
structure Reconciled (L : Ledger) : Prop where
  nonneg : ∀ uid id a, L.get (.user uid, id) = some a → 0 ≤ a.balance
  netZero : ∀ c, L.total c = 0

/-- **What the check means.** -/
theorem reconciled_of_ok {L : Ledger} (h : reconcileLedger L = .ok (.ok ())) : Reconciled L := by
  unfold reconcileLedger at h
  obtain ⟨m₁, h₁, h⟩ := Checked.bind_eq_ok.mp h
  dsimp only at h
  split at h
  · exact absurd (Checked.pure_eq_ok.mp h) (by simp)
  next hneg =>
    obtain ⟨m₂, h₂, h⟩ := Checked.bind_eq_ok.mp h
    obtain ⟨m₃, h₃, h⟩ := Checked.bind_eq_ok.mp h
    split at h
    · exact absurd (Checked.pure_eq_ok.mp h) (by simp)
    next hzero =>
      refine ⟨fun uid id a ha => ?_, fun c => ?_⟩
      · by_contra hlt
        have hmem : a ∈ L.userAccountList.filter (·.balance < 0) :=
          List.mem_filter.mpr ⟨mem_userAccountList ha, by simpa using hlt⟩
        exact hneg fun e => by rw [e] at hmem; exact absurd hmem (by simp)
      · have hm : m₃ c = 0 := by
          by_contra hc
          refine hzero fun e => ?_
          have hmem : (c, m₃ c) ∈ (Currency.all.filter (m₃ · ≠ 0)).map fun c => (c, m₃ c) :=
            List.mem_map.mpr ⟨c, List.mem_filter.mpr ⟨c.mem_all, by simpa using hc⟩, rfl⟩
          rw [e] at hmem
          exact absurd hmem (by simp)
        rw [foldlM_addBalance h₃ c, foldlM_addBalance h₂ c, foldlM_addBalance h₁ c,
          sum_share_users, sum_share_values, sum_share_values] at hm
        rw [← hm]
        simp [Ledger.total]

/-! ## What makes the check succeed -/

theorem get_of_mem_userAccountList {L : Ledger} {a : Account} (h : a ∈ L.userAccountList) :
    ∃ uid, L.get (.user uid, a.accountId) = some a := by
  obtain ⟨⟨uid, ua⟩, hua, ha⟩ := List.mem_flatMap.mp h
  refine ⟨uid, ?_⟩
  unfold Ledger.get
  simp only [Ledger.holder, mem_entries_iff.mp hua, Option.getD_some]
  exact UserAccount.lookup_of_mem_values ha

/-- Every account, in the order of the check. -/
def Ledger.accounts (L : Ledger) : List Account :=
  L.userAccountList ++ (L.bankLiabilities.values ++ L.dealerAccounts.values)

theorem sum_share_accounts (c : Currency) (L : Ledger) :
    (L.accounts.map (Ledger.share c)).sum = L.total c := by
  unfold Ledger.accounts Ledger.total
  rw [List.map_append, List.map_append, List.sum_append, List.sum_append, sum_share_users,
    sum_share_values, sum_share_values, add_assoc]

/-- If it does not overflow, the check finds nothing in reconciled books. -/
theorem Reconciled.check {L : Ledger} {r : Except ReconcilationError Unit} (h : Reconciled L)
    (hr : reconcileLedger L = .ok r) : r = .ok () := by
  unfold reconcileLedger at hr
  obtain ⟨m₁, h₁, hr⟩ := Checked.bind_eq_ok.mp hr
  dsimp only at hr
  have hneg : L.userAccountList.filter (fun a => decide (a.balance < 0)) = [] := by
    refine List.filter_eq_nil_iff.mpr fun a ha => ?_
    obtain ⟨uid, hget⟩ := get_of_mem_userAccountList ha
    simpa using h.nonneg uid _ a hget
  rw [if_neg (not_not.mpr hneg)] at hr
  obtain ⟨m₂, h₂, hr⟩ := Checked.bind_eq_ok.mp hr
  obtain ⟨m₃, h₃, hr⟩ := Checked.bind_eq_ok.mp hr
  have hzero : ∀ c, m₃ c = 0 := by
    intro c
    rw [foldlM_addBalance h₃ c, foldlM_addBalance h₂ c, foldlM_addBalance h₁ c, sum_share_users,
      sum_share_values, sum_share_values]
    have := h.netZero c
    unfold Ledger.total at this
    simpa using this
  have hnet : (Currency.all.filter fun c => decide (m₃ c ≠ 0)) = [] :=
    List.filter_eq_nil_iff.mpr fun c _ => by simp [hzero c]
  rw [if_neg (by rw [hnet]; simp)] at hr
  exact (Checked.pure_eq_ok.mp hr).symm

/-- The absolute values of every currency fit into a `Decimal` together. -/
def Ledger.Fits (L : Ledger) : Prop :=
  ∀ c, (L.accounts.map fun a => |Ledger.share c a|).sum ≤ Decimal.MAX

/-- Every account with its place. -/
def Ledger.entries (L : Ledger) : List (AccountRef × Account) :=
  (L.userAccounts.entries.flatMap fun u => u.2.accounts.entries.map fun e =>
    ((.user u.1, e.1), e.2))
    ++ (L.bankLiabilities.accounts.entries.map (fun e => ((.bank, e.1), e.2))
    ++ L.dealerAccounts.accounts.entries.map fun e => ((.dealer, e.1), e.2))

theorem Ledger.entries_map_snd (L : Ledger) : L.entries.map Prod.snd = L.accounts := by
  unfold entries accounts userAccountList UserAccount.values
  rw [List.map_append, List.map_append, List.map_flatMap]
  simp only [List.map_map]
  rfl

theorem Ledger.mem_entries {L : Ledger} {r : AccountRef} {a : Account} :
    (r, a) ∈ L.entries ↔ L.get r = some a := by
  obtain ⟨o, id⟩ := r
  have hheld : ∀ (ua : UserAccount) (f : AccountId → AccountRef) (hf : Function.Injective f),
      (f id, a) ∈ ua.accounts.entries.map (fun e => (f e.1, e.2)) ↔
        ua.accounts.lookup id = some a := by
    intro ua f hf
    rw [← mem_entries_iff, List.mem_map]
    constructor
    · intro h
      obtain ⟨⟨i, b⟩, hmem, e⟩ := h
      obtain ⟨hi, rfl⟩ := Prod.mk.inj e
      rwa [← hf hi]
    · intro h
      exact ⟨⟨id, a⟩, h, rfl⟩
  have hinj : ∀ o : Owner, Function.Injective fun i : AccountId => ((o, i) : AccountRef) :=
    fun o i j e => (Prod.mk.inj e).2
  unfold entries
  rw [List.mem_append, List.mem_append, List.mem_flatMap]
  cases o with
  | bank =>
    rw [hheld L.bankLiabilities _ (hinj .bank)]
    simp [get, holder]
  | dealer =>
    rw [hheld L.dealerAccounts _ (hinj .dealer)]
    simp [get, holder]
  | user uid =>
    constructor
    · intro h
      rcases h with ⟨⟨u, ua⟩, hua, hmem⟩ | h | h
      · obtain ⟨⟨i, b⟩, hb, e⟩ := List.mem_map.mp hmem
        obtain ⟨hr, rfl⟩ := Prod.mk.inj e
        obtain ⟨ho, rfl⟩ := Prod.mk.inj hr
        injection ho with ho
        subst ho
        unfold get
        simp only [holder, mem_entries_iff.mp hua, Option.getD_some]
        exact mem_entries_iff.mp hb
      · simp at h
      · simp at h
    · intro h
      obtain ⟨ua, hua⟩ := Option.isSome_iff_exists.mp (hasUser_of_get h)
      refine .inl ⟨⟨uid, ua⟩, mem_entries_iff.mpr hua, ?_⟩
      refine (hheld ua _ (hinj (.user uid))).mpr ?_
      unfold get at h
      simpa only [holder, hua, Option.getD_some] using h

theorem Ledger.nodup_entries (L : Ledger) : L.entries.Nodup := by
  have hheld : ∀ (o : Owner) (ua : UserAccount),
      (ua.accounts.entries.map fun e => (((o, e.1), e.2) : AccountRef × Account)).Nodup := by
    intro o ua
    refine ua.accounts.nodupKeys.nodup.map fun e e' h => ?_
    obtain ⟨i, b⟩ := e
    obtain ⟨j, c⟩ := e'
    obtain ⟨hr, rfl⟩ := Prod.mk.inj h
    obtain ⟨-, rfl⟩ := Prod.mk.inj hr
    rfl
  have howner : ∀ {o : Owner} {ua : UserAccount} {x : AccountRef × Account},
      x ∈ (ua.accounts.entries.map fun e => (((o, e.1), e.2) : AccountRef × Account)) →
        x.1.1 = o := by
    intro o ua x hx
    obtain ⟨e, -, rfl⟩ := List.mem_map.mp hx
    rfl
  unfold entries
  refine List.nodup_append.mpr ⟨?_, List.nodup_append.mpr ⟨hheld _ _, hheld _ _, ?_⟩, ?_⟩
  · refine List.nodup_flatMap.mpr ⟨fun u _ => hheld _ _, ?_⟩
    -- the entries of different users are different
    refine L.userAccounts.nodupKeys.pairwise_ne.imp fun {u u'} hne x hx hx' => hne ?_
    have ho : Owner.user u.1 = .user u'.1 := (howner hx).symm.trans (howner hx')
    injection ho
  · intro x hx y hy e
    have ho : Owner.bank = .dealer := (howner hx).symm.trans (by rw [e]; exact howner hy)
    exact absurd ho (by simp)
  · intro x hx y hy e
    obtain ⟨u, -, hx⟩ := List.mem_flatMap.mp hx
    have hx := howner hx
    rcases List.mem_append.mp hy with hy | hy
    · have ho : Owner.user u.1 = .bank := hx.symm.trans (by rw [e]; exact howner hy)
      exact absurd ho (by simp)
    · have ho : Owner.user u.1 = .dealer := hx.symm.trans (by rw [e]; exact howner hy)
      exact absurd ho (by simp)

/-- The same accounts but for empty ones add up to the same. -/
theorem sum_accounts_congr {L L' : Ledger} {f : Account → Decimal}
    (hf : ∀ a, a.balance = 0 → f a = 0)
    (h : ∀ r a, a.balance ≠ 0 → (L.get r = some a ↔ L'.get r = some a)) :
    (L.accounts.map f).sum = (L'.accounts.map f).sum := by
  have hfilter : ∀ K : Ledger, (K.accounts.map f).sum =
      ((K.entries.filter fun x => decide (x.2.balance ≠ 0)).map fun x => f x.2).sum := by
    intro K
    rw [sum_map_filter fun x _ hx => hf x.2 (by simpa using hx), ← K.entries_map_snd, List.map_map]
    rfl
  rw [hfilter, hfilter]
  refine ((List.Perm.map _) ((List.perm_ext_iff_of_nodup (L.nodup_entries.filter _)
    (L'.nodup_entries.filter _)).mpr fun x => ?_)).sum_eq
  obtain ⟨r, a⟩ := x
  rw [List.mem_filter, List.mem_filter, Ledger.mem_entries, Ledger.mem_entries]
  simp only [decide_eq_true_eq]
  exact and_congr_left fun hne => h r a hne

end Lndhubx
