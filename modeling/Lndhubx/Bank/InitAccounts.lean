import Lndhubx.Bank.EntrySpec

/-!
# Loading the accounts

`init_accounts` of `bank/src/bank_engine.rs` and the queries of
`models/src/accounts.rs` it is made of. What `update_account` writes is kept
under the id of the account and the user it belongs to; what is read back at the
next start is selected by the user's name, by `is_internal` and by the printed
type and class of the account. `groupOf` is that selection, row by row: the
holder a stored account is loaded for.

`Loads.get` says what the ledger holds after the start, `exists_loads` that the
start succeeds where every row that is selected can be read.
-/

namespace Lndhubx

open Prog BankEngine

variable {cfg : Config} {env : Env} {s s' : State}

/-! ## Loading the accounts -/

/-- A value that must be readable. -/
def orPanic {α : Type} (text : String) : Option α → Checked α
  | some a => .ok a
  | none => .error (.explicit text)

/-- The account of a row; a column that cannot be read panics. -/
def AccountRow.parse (row : AccountRow) : Checked Account := do
  let currency ← orPanic "Failed to convert to a valid currency" (Currency.fromStr row.currency)
  let balance ← orPanic "Failed to convert to a valid balance" (Decimal.fromBigDecimal row.balance)
  let accountType ← orPanic "Failed to convert to a valid account type"
    (AccountType.fromStr row.accountType)
  let accountClass ← orPanic "Failed to convert to a valid account class"
    (AccountClass.fromStr row.accountClass)
  return { accountId := row.accountId, balance, currency, accountType, accountClass }

namespace Db

/-- `Account::get_accounts`: the accounts of one internal user. -/
def accountsOf (db : Db) (dir : Directory) (uid : Int)
    (username accountType accountClass : String) :
    List AccountRow :=
  db.accounts.rows.filter fun r => r.uid = uid && r.accountType = accountType &&
    r.accountClass = accountClass &&
      (dir.userById r.uid).any fun u => u.isInternal && u.username = username

/-- `Account::get_non_internal_users_accounts`. -/
def nonInternalUsersAccounts (db : Db) (dir : Directory) : List AccountRow :=
  db.accounts.rows.filter fun r => (dir.userById r.uid).any fun u => !u.isInternal

/-- `Account::get_dealer_accounts`: a query that fails yields no rows. -/
def dealerAccounts (db : Db) (env : Env) : List AccountRow :=
  let fetch (t : AccountType) :=
    if env.db (.dealerFetch t) then
      db.accountsOf env.directory 52172712 "dealer" t.display "Cash"
    else []
  fetch .internal ++ fetch .external

/-- `Account::get_bank_liabilities`. -/
def bankLiabilities (db : Db) (env : Env) : Option (List AccountRow) :=
  if env.db .liabilitiesFetch then
    some (db.accountsOf env.directory 23193913 "bank" "External" "Cash")
  else none

end Db

namespace BankEngine

def fetchAccounts : Option (List AccountRow) → Checked (List Account)
  | some rows => rows.mapM AccountRow.parse
  | none => .error (.explicit "Could not initialise internal user account")

/-- One turn of the loop over the accounts of the users. -/
def loadUserAccount (L : Ledger) (row : AccountRow) : Checked Ledger := do
  let a ← row.parse
  return (L.openUser (asU64 row.uid)).put (.user (asU64 row.uid)) a

/-- A map of accounts, filled one by one. -/
def collect (owner : UserId) (accounts : List Account) : UserAccount :=
  accounts.foldl UserAccount.insert (UserAccount.new owner)

def initAccounts (env : Env) : Handler Unit := do
  if !env.db .conn then return
  let s ← get
  let liabilities ← fetchAccounts (s.db.bankLiabilities env)
  modifyLedger fun L => { L with bankLiabilities := collect L.bankLiabilities.owner liabilities }
  let dealer ← fetchAccounts (some (s.db.dealerAccounts env))
  modifyLedger fun L => { L with dealerAccounts := collect L.dealerAccounts.owner dealer }
  if !env.db .usersFetch then return
  let s' ← get
  let L ← ((s.db.nonInternalUsersAccounts env.directory).foldlM loadUserAccount s'.ledger :
    Checked Ledger)
  modifyLedger fun _ => L

end BankEngine

/-- The bank as it starts over a database, with the id drawn for the insurance fund. -/
def Loads (env : Env) (db : Db) (insuranceId : Uuid) (s : State) : Prop :=
  initAccounts env (State.new db insuranceId) = .ok ((), s)

/-! ## What is loaded -/

/-- The holder an account is loaded for, if any. -/
def groupOf (dir : Directory) (row : AccountRow) : Option Owner :=
  match dir.userById row.uid with
  | none => none
  | some u =>
    if u.isInternal then
      if row.uid = 23193913 ∧ u.username = "bank" ∧ row.accountType = "External" ∧
          row.accountClass = "Cash" then some .bank
      else if row.uid = 52172712 ∧ u.username = "dealer" ∧
          (row.accountType = "Internal" ∨ row.accountType = "External") ∧
          row.accountClass = "Cash" then some .dealer
      else none
    else some (.user (asU64 row.uid))

/-- The accounts of a list, put one by one into the ledger. -/
def Ledger.putAll (L : Ledger) (l : List (Owner × Account)) : Ledger :=
  l.foldl (fun L x => L.put x.1 x.2) L

/-- What is read after a number of accounts were put that agree where they are
of one id. -/
theorem Ledger.get_putAll {L : Ledger} {l : List (Owner × Account)}
    (hl : ∀ x ∈ l, ∀ y ∈ l, (x.1, x.2.accountId) = (y.1, y.2.accountId) → x.2 = y.2)
    (r : AccountRef) (a : Account) :
    (L.putAll l).get r = some a ↔ (∃ x ∈ l, (x.1, x.2.accountId) = r ∧ x.2 = a) ∨
      (L.get r = some a ∧ ∀ x ∈ l, (x.1, x.2.accountId) ≠ r) := by
  induction l generalizing L with
  | nil =>
    show L.get r = some a ↔ _
    simp
  | cons x l ih =>
    have htail : ∀ y ∈ l, ∀ z ∈ l, (y.1, y.2.accountId) = (z.1, z.2.accountId) → y.2 = z.2 :=
      fun y hy z hz => hl y (List.mem_cons_of_mem _ hy) z (List.mem_cons_of_mem _ hz)
    show ((L.put x.1 x.2).putAll l).get r = some a ↔ _
    rw [ih htail]
    by_cases hin : ∃ y ∈ l, (y.1, y.2.accountId) = r
    · -- it is put again later, and as the same account
      obtain ⟨y, hy, hyr⟩ := hin
      constructor
      · intro h
        rcases h with ⟨z, hz, hzr, hza⟩ | ⟨-, hno⟩
        · exact .inl ⟨z, List.mem_cons_of_mem _ hz, hzr, hza⟩
        · exact absurd hyr (hno y hy)
      · intro h
        rcases h with ⟨z, hz, hzr, hza⟩ | ⟨-, hno⟩
        · have hsame : z.2 = y.2 := hl z hz y (List.mem_cons_of_mem _ hy) (hzr.trans hyr.symm)
          exact .inl ⟨y, hy, hyr, hsame.symm.trans hza⟩
        · exact absurd hyr (hno y (List.mem_cons_of_mem _ hy))
    · have hno : ∀ y ∈ l, (y.1, y.2.accountId) ≠ r := fun y hy e => hin ⟨y, hy, e⟩
      have hnone : ¬∃ y ∈ l, (y.1, y.2.accountId) = r ∧ y.2 = a := fun h => by
        obtain ⟨y, hy, hyr, -⟩ := h
        exact hno y hy hyr
      by_cases hx : (x.1, x.2.accountId) = r
      · have hget : (L.put x.1 x.2).get r = some x.2 := by
          rw [← hx]
          exact L.get_put_self x.1 x.2
        rw [hget]
        constructor
        · intro h
          rcases h with h | ⟨e, -⟩
          · exact absurd h hnone
          · exact .inl ⟨x, by simp, hx, Option.some.inj e⟩
        · intro h
          rcases h with ⟨z, hz, hzr, hza⟩ | ⟨-, h⟩
          · rcases List.mem_cons.mp hz with rfl | hz
            · exact .inr ⟨by rw [hza], hno⟩
            · exact absurd hzr (hno z hz)
          · exact absurd hx (h x (by simp))
      · rw [Ledger.get_put_ne L (Ne.symm hx)]
        constructor
        · intro h
          rcases h with h | ⟨e, -⟩
          · exact absurd h hnone
          · refine .inr ⟨e, fun z hz => ?_⟩
            rcases List.mem_cons.mp hz with rfl | hz
            · exact hx
            · exact hno z hz
        · intro h
          rcases h with ⟨z, hz, hzr, hza⟩ | ⟨e, -⟩
          · rcases List.mem_cons.mp hz with rfl | hz
            · exact absurd hzr hx
            · exact absurd hzr (hno z hz)
          · exact .inr ⟨e, hno⟩

theorem Ledger.putAll_append (L : Ledger) (l l' : List (Owner × Account)) :
    L.putAll (l ++ l') = (L.putAll l).putAll l' := List.foldl_append

theorem Ledger.putAll_bank (L : Ledger) (l : List Account) :
    L.putAll (l.map fun a => (Owner.bank, a)) =
      { L with bankLiabilities := l.foldl UserAccount.insert L.bankLiabilities } := by
  induction l generalizing L with
  | nil => rfl
  | cons a l ih => exact ih (L.put .bank a)

theorem Ledger.putAll_dealer (L : Ledger) (l : List Account) :
    L.putAll (l.map fun a => (Owner.dealer, a)) =
      { L with dealerAccounts := l.foldl UserAccount.insert L.dealerAccounts } := by
  induction l generalizing L with
  | nil => rfl
  | cons a l ih => exact ih (L.put .dealer a)

theorem Ledger.put_openUser (L : Ledger) (uid : UserId) (a : Account) :
    (L.openUser uid).put (.user uid) a = L.put (.user uid) a := by
  have hholder : (L.openUser uid).holder (.user uid) = L.holder (.user uid) :=
    L.holder_setUser_self uid _ (L.holder_user_owner uid)
  have hset : ∀ ua h, (L.openUser uid).setUser uid ua h = L.setUser uid ua h := by
    intro ua h
    unfold openUser setUser
    simp only [AList.insert_insert]
  unfold put
  simp only [hset, hholder]

theorem AccountRow.parse_eq_ok {row : AccountRow} {a : Account} :
    row.parse = .ok a ↔ Currency.fromStr row.currency = some a.currency ∧
      Decimal.fromBigDecimal row.balance = some a.balance ∧
      AccountType.fromStr row.accountType = some a.accountType ∧
      AccountClass.fromStr row.accountClass = some a.accountClass ∧
      row.accountId = a.accountId := by
  have hread : ∀ {α : Type} {text : String} {x : Option α} {b : α},
      orPanic text x = .ok b ↔ x = some b := by
    intro α text x b
    cases x with
    | none => simp [orPanic]
    | some c => simp [orPanic]
  constructor
  · intro h
    obtain ⟨currency, hc, h⟩ := Checked.bind_eq_ok.mp h
    obtain ⟨balance, hb, h⟩ := Checked.bind_eq_ok.mp h
    obtain ⟨accountType, ht, h⟩ := Checked.bind_eq_ok.mp h
    obtain ⟨accountClass, hk, h⟩ := Checked.bind_eq_ok.mp h
    obtain rfl := Checked.pure_eq_ok.mp h
    exact ⟨hread.mp hc, hread.mp hb, hread.mp ht, hread.mp hk, rfl⟩
  · intro h
    obtain ⟨hc, hb, ht, hk, hid⟩ := h
    unfold parse
    rw [hc, hb, ht, hk, hid]
    rfl

theorem mem_of_mapM_parse {rows : List AccountRow} {l : List Account}
    (h : rows.mapM AccountRow.parse = .ok l) (a : Account) :
    a ∈ l ↔ ∃ row ∈ rows, row.parse = .ok a := by
  induction rows generalizing l with
  | nil =>
    obtain rfl := Checked.pure_eq_ok.mp h
    simp
  | cons row rows ih =>
    rw [List.mapM_cons] at h
    obtain ⟨b, hb, h⟩ := Checked.bind_eq_ok.mp h
    obtain ⟨bs, hbs, h⟩ := Checked.bind_eq_ok.mp h
    obtain rfl := Checked.pure_eq_ok.mp h
    rw [List.mem_cons, ih hbs]
    simp only [List.mem_cons, exists_eq_or_imp, hb]
    rw [Except.ok.injEq, eq_comm]

/-- Every row was read. -/
theorem parse_of_mapM {rows : List AccountRow} {l : List Account}
    (h : rows.mapM AccountRow.parse = .ok l) {row : AccountRow} (hrow : row ∈ rows) :
    ∃ a, row.parse = .ok a := by
  induction rows generalizing l with
  | nil => simp at hrow
  | cons first rows ih =>
    rw [List.mapM_cons] at h
    obtain ⟨b, hb, h⟩ := Checked.bind_eq_ok.mp h
    obtain ⟨bs, hbs, -⟩ := Checked.bind_eq_ok.mp h
    rcases List.mem_cons.mp hrow with rfl | hrow
    · exact ⟨b, hb⟩
    · exact ih hbs hrow

/-- The loop over the users' accounts puts each of them. -/
theorem foldlM_loadUserAccount {rows : List AccountRow} {L L' : Ledger}
    (h : rows.foldlM loadUserAccount L = .ok L') :
    ∃ l, L' = L.putAll l ∧ ∀ x : Owner × Account, x ∈ l ↔
      ∃ row ∈ rows, x.1 = .user (asU64 row.uid) ∧ row.parse = .ok x.2 := by
  induction rows generalizing L with
  | nil =>
    obtain rfl := Checked.pure_eq_ok.mp h
    exact ⟨[], rfl, by simp⟩
  | cons row rows ih =>
    rw [List.foldlM_cons] at h
    obtain ⟨L₁, h₁, h⟩ := Checked.bind_eq_ok.mp h
    obtain ⟨a, ha, h₁⟩ := Checked.bind_eq_ok.mp h₁
    have h₁ := Checked.pure_eq_ok.mp h₁
    rw [Ledger.put_openUser] at h₁
    obtain ⟨l, hl, hmem⟩ := ih h
    refine ⟨(.user (asU64 row.uid), a) :: l, ?_, fun x => ?_⟩
    · rw [hl, ← h₁]
      rfl
    · rw [List.mem_cons, hmem x]
      simp only [List.mem_cons, exists_eq_or_imp, ha, Except.ok.injEq]
      refine or_congr_left ⟨fun e => ?_, fun e => ?_⟩
      · rw [e]
        exact ⟨rfl, rfl⟩
      · exact Prod.ext e.1 e.2.symm

theorem parse_of_foldlM {rows : List AccountRow} {L L' : Ledger}
    (h : rows.foldlM loadUserAccount L = .ok L') {row : AccountRow} (hrow : row ∈ rows) :
    ∃ a, row.parse = .ok a := by
  induction rows generalizing L with
  | nil => simp at hrow
  | cons first rows ih =>
    rw [List.foldlM_cons] at h
    obtain ⟨L₁, h₁, h⟩ := Checked.bind_eq_ok.mp h
    obtain ⟨a, ha, -⟩ := Checked.bind_eq_ok.mp h₁
    rcases List.mem_cons.mp hrow with rfl | hrow
    · exact ⟨a, ha⟩
    · exact ih h hrow

/-! ## Who a row is loaded for -/

theorem mem_bankLiabilities {db : Db} {dir : Directory} {row : AccountRow} :
    row ∈ db.accountsOf dir 23193913 "bank" "External" "Cash" ↔
      row ∈ db.accounts.rows ∧ groupOf dir row = some .bank := by
  unfold Db.accountsOf groupOf
  rw [List.mem_filter]
  refine and_congr_right fun _ => ?_
  cases dir.userById row.uid with
  | none => simp
  | some u =>
    by_cases hint : u.isInternal = true
    · simp only [hint, Option.any_some, Bool.true_and, if_true]
      by_cases hbank : row.uid = 23193913 ∧ u.username = "bank" ∧ row.accountType = "External" ∧
          row.accountClass = "Cash"
      · rw [if_pos hbank]
        simp [hbank]
      · rw [if_neg hbank]
        refine iff_of_false (fun h => hbank ?_) ?_
        · simp only [Bool.and_eq_true, decide_eq_true_eq] at h
          exact ⟨h.1.1.1, h.2, h.1.1.2, h.1.2⟩
        · split
          · simp
          · simp
    · simp [hint]

theorem mem_dealerAccounts {db : Db} (hdb : ∀ call, env.db call = true) {row : AccountRow} :
    row ∈ db.dealerAccounts env ↔
      row ∈ db.accounts.rows ∧ groupOf env.directory row = some .dealer := by
  unfold Db.dealerAccounts
  simp only [hdb, if_true]
  unfold Db.accountsOf groupOf
  rw [List.mem_append, List.mem_filter, List.mem_filter, ← and_or_left]
  refine and_congr_right fun _ => ?_
  cases env.directory.userById row.uid with
  | none => simp
  | some u =>
    by_cases hint : u.isInternal = true
    · simp only [hint, Option.any_some, Bool.true_and, if_true]
      by_cases hdealer : row.uid = 52172712 ∧ u.username = "dealer" ∧
          (row.accountType = "Internal" ∨ row.accountType = "External") ∧ row.accountClass = "Cash"
      · have hbank : ¬(row.uid = 23193913 ∧ u.username = "bank" ∧ row.accountType = "External" ∧
            row.accountClass = "Cash") := fun h => by
          have := h.1.symm.trans hdealer.1
          omega
        rw [if_neg hbank, if_pos hdealer]
        obtain ⟨huid, hname, htype, hclass⟩ := hdealer
        rcases htype with htype | htype
        · simp [huid, hname, htype, hclass, AccountType.display]
        · simp [huid, hname, htype, hclass, AccountType.display]
      · refine iff_of_false (fun h => hdealer ?_) ?_
        · simp only [Bool.and_eq_true, decide_eq_true_eq] at h
          rcases h with h | h
          · exact ⟨h.1.1.1, h.2, .inl h.1.1.2, h.1.2⟩
          · exact ⟨h.1.1.1, h.2, .inr h.1.1.2, h.1.2⟩
        · rw [if_neg hdealer]
          split
          · simp
          · simp
    · simp [hint]

theorem groupOf_eq_user {dir : Directory} {row : AccountRow} {uid : UserId} :
    groupOf dir row = some (.user uid) ↔
      ((dir.userById row.uid).any fun u => !u.isInternal) = true ∧ uid = asU64 row.uid := by
  unfold groupOf
  cases dir.userById row.uid with
  | none => simp
  | some u =>
    by_cases hint : u.isInternal = true
    · simp only [hint, if_true, Option.any_some, Bool.not_true]
      refine iff_of_false ?_ (by simp)
      split
      · simp
      · split
        · simp
        · simp
    · simp [hint, eq_comm]

theorem mem_nonInternalUsersAccounts {db : Db} {dir : Directory} {row : AccountRow} :
    row ∈ db.nonInternalUsersAccounts dir ↔
      row ∈ db.accounts.rows ∧ groupOf dir row = some (.user (asU64 row.uid)) := by
  unfold Db.nonInternalUsersAccounts
  rw [List.mem_filter, groupOf_eq_user]
  simp

/-! ## After the start -/

/-- Every row that is selected could be read, and is put into the ledger. -/
theorem initAccounts_puts (hdb : ∀ call, env.db call = true) (db : Db) (id : Uuid) :
    Ensures (initAccounts env) (State.new db id) fun _ s => s.db = db ∧
      (∀ row ∈ db.accounts.rows, ∀ o, groupOf env.directory row = some o →
        ∃ a, row.parse = .ok a) ∧
      ∃ l, s.ledger = (Ledger.new BANK_UID DEALER_UID id).putAll l ∧
        ∀ x : Owner × Account, x ∈ l ↔ ∃ row ∈ db.accounts.rows,
          groupOf env.directory row = some x.1 ∧ row.parse = .ok x.2 := by
  unfold initAccounts
  simp only [hdb, Bool.not_true, Bool.false_eq_true, if_false]
  refine Ensures.get_bind (Ensures.lift_bind fun liabilities hli => ?_)
  refine Ensures.modify_bind (Ensures.lift_bind fun dealer hde => ?_)
  refine Ensures.modify_bind (Ensures.get_bind (Ensures.lift_bind fun L hL => ?_))
  have hli : (db.accountsOf env.directory 23193913 "bank" "External" "Cash").mapM AccountRow.parse =
      .ok liabilities := by
    rw [Db.bankLiabilities, hdb] at hli
    exact hli
  -- each of the three queries parses all of its rows
  have hread : ∀ row ∈ db.accounts.rows, ∀ o, groupOf env.directory row = some o →
      ∃ a, row.parse = .ok a := by
    intro row hrow o hg
    cases o with
    | bank => exact parse_of_mapM hli (mem_bankLiabilities.mpr ⟨hrow, hg⟩)
    | dealer => exact parse_of_mapM hde ((mem_dealerAccounts hdb).mpr ⟨hrow, hg⟩)
    | user uid =>
      obtain ⟨-, rfl⟩ := groupOf_eq_user.mp hg
      exact parse_of_foldlM hL (mem_nonInternalUsersAccounts.mpr ⟨hrow, hg⟩)
  have hli := mem_of_mapM_parse hli
  have hde := mem_of_mapM_parse hde
  obtain ⟨users, hput, hus⟩ := foldlM_loadUserAccount hL
  refine ⟨rfl, hread, liabilities.map (fun a => (.bank, a)) ++
    (dealer.map (fun a => (.dealer, a)) ++ users),
    ?_, ?_⟩
  · -- the ledger is filled in three rounds
    rw [Ledger.putAll_append, Ledger.putAll_append, Ledger.putAll_bank, Ledger.putAll_dealer]
    exact hput
  · intro x
    obtain ⟨o, a⟩ := x
    rw [List.mem_append, List.mem_append, List.mem_map, List.mem_map, hus]
    constructor
    · intro h
      rcases h with ⟨b, hb, e⟩ | ⟨b, hb, e⟩ | ⟨row, hrow, ho, hp⟩
      · obtain ⟨row, hrow, hp⟩ := (hli b).mp hb
        obtain ⟨hrow, hg⟩ := mem_bankLiabilities.mp hrow
        rw [← e]
        exact ⟨row, hrow, hg, hp⟩
      · obtain ⟨row, hrow, hp⟩ := (hde b).mp hb
        obtain ⟨hrow, hg⟩ := (mem_dealerAccounts hdb).mp hrow
        rw [← e]
        exact ⟨row, hrow, hg, hp⟩
      · obtain ⟨hrow, hg⟩ := mem_nonInternalUsersAccounts.mp hrow
        exact ⟨row, hrow, hg.trans (congrArg some ho.symm), hp⟩
    · intro h
      obtain ⟨row, hrow, hg, hp⟩ := h
      cases o with
      | bank => exact .inl ⟨a, (hli a).mpr ⟨row, mem_bankLiabilities.mpr ⟨hrow, hg⟩, hp⟩, rfl⟩
      | dealer =>
        exact .inr (.inl ⟨a, (hde a).mpr ⟨row, (mem_dealerAccounts hdb).mpr ⟨hrow, hg⟩, hp⟩, rfl⟩)
      | user uid =>
        obtain ⟨-, rfl⟩ := groupOf_eq_user.mp hg
        exact .inr (.inr ⟨row, mem_nonInternalUsersAccounts.mpr ⟨hrow, hg⟩, rfl, hp⟩)

/-- What the ledger holds after the start is what is stored for the holder. -/
theorem Loads.get {db : Db} {id : Uuid} (h : Loads env db id s) (hdb : ∀ call, env.db call = true)
    (r : AccountRef) (a : Account) :
    s.ledger.get r = some a ↔ ∃ row ∈ db.accounts.rows,
      groupOf env.directory row = some r.1 ∧ row.accountId = r.2 ∧ row.parse = .ok a := by
  obtain ⟨-, -, l, hl, hmem⟩ := (initAccounts_puts hdb db id).of_run h
  have hsame : ∀ x ∈ l, ∀ y ∈ l, (x.1, x.2.accountId) = (y.1, y.2.accountId) → x.2 = y.2 := by
    intro x hx y hy e
    obtain ⟨row, hrow, -, hp⟩ := (hmem x).mp hx
    obtain ⟨row', hrow', -, hp'⟩ := (hmem y).mp hy
    have hid : row.accountId = row'.accountId := by
      rw [(AccountRow.parse_eq_ok.mp hp).2.2.2.2, (AccountRow.parse_eq_ok.mp hp').2.2.2.2]
      exact (Prod.mk.inj e).2
    rw [Table.eq_of_key hrow hrow' hid, hp'] at hp
    exact (Except.ok.inj hp).symm
  rw [hl, Ledger.get_putAll hsame, Ledger.get_new]
  constructor
  · intro h
    rcases h with ⟨x, hx, hr, rfl⟩ | ⟨h, -⟩
    · obtain ⟨row, hrow, hg, hp⟩ := (hmem x).mp hx
      rw [← hr]
      exact ⟨row, hrow, hg, (AccountRow.parse_eq_ok.mp hp).2.2.2.2, hp⟩
    · exact absurd h (by simp)
  · intro h
    obtain ⟨row, hrow, hg, hid, hp⟩ := h
    refine .inl ⟨(r.1, a), (hmem _).mpr ⟨row, hrow, hg, hp⟩, ?_, rfl⟩
    rw [← (AccountRow.parse_eq_ok.mp hp).2.2.2.2, hid]

theorem Loads.parse {db : Db} {id : Uuid} (h : Loads env db id s)
    (hdb : ∀ call, env.db call = true) {row : AccountRow}
    (hrow : row ∈ db.accounts.rows) {o : Owner}
    (hg : groupOf env.directory row = some o) : ∃ a, row.parse = .ok a :=
  ((initAccounts_puts hdb db id).of_run h).2.1 row hrow o hg

end Lndhubx
