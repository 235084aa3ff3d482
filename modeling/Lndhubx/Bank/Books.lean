import Lndhubx.Bank.Ledger
import Lndhubx.Lib.Posting

/-!
# What can happen to the ledger

The engine changes its ledger in few ways only: it makes an entry for a user,
it opens an empty account under a fresh id, it writes back a copy whose balance
it has changed, and it replaces the insurance account, which is kept beside the
maps. An account is opened only where its holder has none of its kind. `Moves L ps L'`
says that `L'` came from `L` by such changes, the copies written back being the
postings `ps`, in any order.

Everything later said about balances is read off the postings: the balance of
an account changes by what they book on it (`Moves.get_some`, `balanceAt`), the
total of a currency by what they book in it (`Moves.total`). No account is ever
lost and none changes its currency, type or class.

`Moves.writeBack` is how a handler gets there: a number of copies, taken from
the ledger, of pairwise different accounts, each written back with a changed
balance.
-/

namespace Lndhubx

open Posting

/-- A signed amount in a currency, booked on one account of the ledger. -/
abbrev Booking := Posting AccountRef Currency Decimal

/-- A copy whose balance was changed by `d`. -/
def Account.shift (a : Account) (d : Decimal) : Account := { a with balance := a.balance + d }

namespace Account

@[simp] theorem shift_accountId (a : Account) (d : Decimal) :
    (a.shift d).accountId = a.accountId := rfl

@[simp] theorem shift_currency (a : Account) (d : Decimal) :
    (a.shift d).currency = a.currency := rfl

@[simp] theorem shift_accountType (a : Account) (d : Decimal) :
    (a.shift d).accountType = a.accountType := rfl

@[simp] theorem shift_balance (a : Account) (d : Decimal) :
    (a.shift d).balance = a.balance + d := rfl

@[simp] theorem shift_zero (a : Account) : a.shift 0 = a := by simp [shift]

@[simp] theorem shift_shift (a : Account) (d e : Decimal) :
    (a.shift d).shift e = a.shift (d + e) := by simp [shift, add_assoc]

end Account

inductive Moves (L : Ledger) : List Booking → Ledger → Prop
  | refl : Moves L [] L
  | openUser {ps : List Booking} {L' : Ledger} (uid : UserId) :
      Moves L ps L' → Moves L ps (L'.openUser uid)
  | openAccount {ps : List Booking} {L' : Ledger} {o : Owner} {a : Account} :
      Moves L ps L' → (∀ o', L'.get (o', a.accountId) = none) → a.balance = 0 →
      (∀ id b, L'.get (o, id) = some b →
        ¬(b.currency = a.currency ∧ b.accountType = a.accountType)) →
      Moves L ps (L'.put o a)
  | post {ps : List Booking} {L' : Ledger} {o : Owner} {a : Account} (d : Decimal) :
      Moves L ps L' → L'.get (o, a.accountId) = some a →
      Moves L (ps ++ [⟨(o, a.accountId), a.currency, d⟩])
        (L'.put o (a.shift d))
  | perm {ps qs : List Booking} {L' : Ledger} : Moves L ps L' → ps.Perm qs → Moves L qs L'
  | insurance {ps : List Booking} {L' : Ledger} (a : Account) :
      Moves L ps L' → Moves L ps { L' with insuranceFundAccount := a }

namespace Moves

variable {L L' L'' : Ledger} {ps qs : List Booking}

theorem trans (h : Moves L ps L') (h' : Moves L' qs L'') : Moves L (ps ++ qs) L'' := by
  induction h' with
  | refl => rw [List.append_nil]; exact h
  | openUser uid _ ih => exact .openUser uid ih
  | openAccount _ hfresh hzero hkind ih => exact .openAccount ih hfresh hzero hkind
  | post d _ hget ih => rw [← List.append_assoc]; exact .post d ih hget
  | perm _ hp ih => exact .perm ih (hp.append_left _)
  | insurance a _ ih => exact .insurance a ih

/-- The total of a currency changes by what is booked in it. -/
theorem total (h : Moves L ps L') (c : Currency) :
    L'.total c = L.total c + sumIn ps c := by
  induction h with
  | refl => simp
  | openUser uid _ ih => rw [Ledger.total_openUser, ih]
  | @openAccount ps L' o a _ hfresh hzero _ ih =>
    rw [Ledger.total_put_new c (hfresh o), ih]
    have hshare : Ledger.share c a = 0 := by
      unfold Ledger.share
      split
      · exact hzero
      · rfl
    rw [hshare, add_zero]
  | @post ps L' o a d _ hget ih =>
    have hput : L'.get (o, (a.shift d).accountId) = some a := hget
    rw [Ledger.total_put c hput, ih, sumIn_append, sumIn_cons, sumIn_nil]
    unfold Ledger.share
    rw [Account.shift_currency, Account.shift_balance]
    by_cases hc : a.currency = c
    · rw [if_pos hc, if_pos hc, if_pos hc]; ring
    · rw [if_neg hc, if_neg hc, if_neg hc]; ring
  | perm _ hp ih => rw [ih, sumIn_perm hp]
  | insurance _ _ ih => exact ih

/-- An account keeps its identity, and its balance changes by what is booked on it. -/
theorem get_some (h : Moves L ps L') {r : AccountRef} {a : Account} (ha : L.get r = some a) :
    L'.get r = some (a.shift (sumAt ps r)) := by
  induction h with
  | refl => simpa using ha
  | openUser uid _ ih => rw [Ledger.get_openUser, ih]
  | @openAccount ps L' o b _ hfresh _ _ ih =>
    have hne : r ≠ (o, b.accountId) := fun e => by
      rw [e, hfresh o] at ih
      exact absurd ih (by simp)
    rw [Ledger.get_put_ne L' hne, ih]
  | @post ps L' o b d _ hget ih =>
    by_cases hr : r = (o, b.accountId)
    · subst hr
      rw [hget] at ih
      injection ih with ih
      have hput := L'.get_put_self o (b.shift d)
      rw [Account.shift_accountId] at hput
      rw [hput, sumAt_append, sumAt_cons, if_pos rfl, sumAt_nil, add_zero, ← Account.shift_shift,
        ← ih]
    · rw [Ledger.get_put_ne (a := b.shift d) L' hr, ih, sumAt_append,
        sumAt_cons, if_neg (Ne.symm hr), sumAt_nil, add_zero, add_zero]
  | perm _ hp ih => rw [ih, sumAt_perm hp]
  | insurance _ _ ih => exact ih

/-- Nothing is booked on an account that is not there. -/
theorem sumAt_of_get_none (h : Moves L ps L') {r : AccountRef} (hnone : L'.get r = none) :
    sumAt ps r = 0 := by
  induction h with
  | refl => rfl
  | openUser uid _ ih => rw [Ledger.get_openUser] at hnone; exact ih hnone
  | @openAccount ps L' o b _ _ _ _ ih =>
    have hne : r ≠ (o, b.accountId) := fun e => by
      rw [e, Ledger.get_put_self] at hnone
      exact absurd hnone (by simp)
    rw [Ledger.get_put_ne L' hne] at hnone
    exact ih hnone
  | @post ps L' o b d _ _ ih =>
    have hne : r ≠ (o, b.accountId) := fun e => by
      have hput := L'.get_put_self o (b.shift d)
      rw [Account.shift_accountId, ← e, hnone] at hput
      exact absurd hput (by simp)
    rw [Ledger.get_put_ne (a := b.shift d) L' hne] at hnone
    rw [sumAt_append, ih hnone, sumAt_cons, if_neg (Ne.symm hne), sumAt_nil, add_zero, add_zero]
  | perm _ hp ih => rw [← sumAt_perm hp, ih hnone]
  | insurance _ _ ih => exact ih hnone

/-- An account opened on the way holds what was booked on it. -/
theorem get_none (h : Moves L ps L') {r : AccountRef} {a : Account} (hnone : L.get r = none)
    (ha : L'.get r = some a) : a.balance = sumAt ps r := by
  induction h generalizing a with
  | refl => rw [hnone] at ha; exact absurd ha (by simp)
  | openUser uid _ ih => rw [Ledger.get_openUser] at ha; exact ih ha
  | @openAccount ps L' o b hmoves hfresh hzero _ ih =>
    by_cases hr : r = (o, b.accountId)
    · subst hr
      rw [Ledger.get_put_self] at ha
      injection ha with ha
      rw [← ha, hzero, sumAt_of_get_none hmoves (hfresh o)]
    · rw [Ledger.get_put_ne L' hr] at ha
      exact ih ha
  | @post ps L' o b d _ hget ih =>
    by_cases hr : r = (o, b.accountId)
    · subst hr
      have hput := L'.get_put_self o (b.shift d)
      rw [Account.shift_accountId, ha] at hput
      injection hput with hput
      rw [hput, sumAt_append, sumAt_cons, if_pos rfl, sumAt_nil, add_zero, ← ih hget]
      rfl
    · rw [Ledger.get_put_ne (a := b.shift d) L' hr] at ha
      rw [ih ha, sumAt_append, sumAt_cons, if_neg (Ne.symm hr), sumAt_nil, add_zero, add_zero]
  | perm _ hp ih => rw [ih ha, sumAt_perm hp]
  | insurance _ _ ih => exact ih ha

/-- Opening accounts changes none of those there were. -/
theorem keeps (h : Moves L [] L') {r : AccountRef} {a : Account} (ha : L.get r = some a) :
    L'.get r = some a := by
  rw [h.get_some ha, sumAt_nil, Account.shift_zero]

theorem balanceAt (h : Moves L ps L') (r : AccountRef) :
    L'.balanceAt r = L.balanceAt r + sumAt ps r := by
  unfold Ledger.balanceAt
  cases hr : L.get r with
  | some a =>
    rw [h.get_some hr]
    rfl
  | none =>
    cases hr' : L'.get r with
    | some a =>
      show a.balance = 0 + sumAt ps r
      rw [h.get_none hr hr', zero_add]
    | none =>
      show (0 : ℚ) = 0 + sumAt ps r
      rw [h.sumAt_of_get_none hr', zero_add]

theorem hasUser (h : Moves L ps L') {uid : UserId} (hu : L.hasUser uid = true) :
    L'.hasUser uid = true := by
  induction h with
  | refl => exact hu
  | openUser uid' _ ih => exact Ledger.hasUser_openUser ih
  | openAccount _ _ _ _ ih => exact Ledger.hasUser_put ih
  | post d _ _ ih => exact Ledger.hasUser_put ih
  | perm _ _ ih => exact ih
  | insurance _ _ ih => exact ih

end Moves

/-- There is an account of this currency, and of this type if one is given. -/
def Ledger.Holds (L : Ledger) (r : AccountRef) (c : Currency) (t : Option AccountType) : Prop :=
  ∃ a, L.get r = some a ∧ a.currency = c ∧ ∀ t', t = some t' → a.accountType = t'

theorem Moves.holds {L L' : Ledger} {ps : List Booking} (h : Moves L ps L') {r : AccountRef}
    {c : Currency} {t : Option AccountType} (hr : L.Holds r c t) : L'.Holds r c t := by
  obtain ⟨a, ha, hc, ht⟩ := hr
  exact ⟨_, h.get_some ha, hc, ht⟩

/-- What is booked is booked in the currency of the account. -/
theorem Moves.booked_holds {L L' : Ledger} {ps : List Booking} (h : Moves L ps L') {p : Booking}
    (hp : p ∈ ps) : L'.Holds p.ref p.unit none := by
  induction h with
  | refl => exact absurd hp (by simp)
  | openUser uid _ ih => exact Moves.holds (.openUser uid .refl) (ih hp)
  | openAccount _ hfresh hzero hkind ih =>
    exact Moves.holds (.openAccount .refl hfresh hzero hkind) (ih hp)
  | @post ps L' o a d _ hget ih =>
    have hlast : Moves L' [⟨(o, a.accountId), a.currency, d⟩] (L'.put o (a.shift d)) :=
      .post d .refl hget
    rcases List.mem_append.mp hp with hp | hp
    · exact hlast.holds (ih hp)
    · rw [List.mem_singleton.mp hp]
      exact ⟨a.shift d, L'.get_put_self o (a.shift d), rfl, by simp⟩
  | perm _ hperm ih => exact ih (hperm.mem_iff.mpr hp)
  | insurance a _ ih => exact Moves.holds (.insurance a .refl) (ih hp)

/-- The holder has at most one account of each currency and type. -/
def Ledger.OneOfAKind (L : Ledger) (o : Owner) : Prop :=
  ∀ id id' a a', L.get (o, id) = some a → L.get (o, id') = some a' →
    a.currency = a'.currency → a.accountType = a'.accountType → id = id'

/-- No second account of a kind is ever opened. -/
theorem Moves.oneOfAKind {L L' : Ledger} {ps : List Booking} (h : Moves L ps L') {o : Owner}
    (ho : L.OneOfAKind o) : L'.OneOfAKind o := by
  induction h with
  | refl => exact ho
  | openUser uid _ ih =>
    intro id id' a a' ha ha'
    rw [Ledger.get_openUser] at ha ha'
    exact ih id id' a a' ha ha'
  | @openAccount ps L' o' b _ hfresh _ hkind ih =>
    intro id id' a a' ha ha' hc ht
    by_cases hid : ((o, id) : AccountRef) = (o', b.accountId)
    · by_cases hid' : ((o, id') : AccountRef) = (o', b.accountId)
      · exact (Prod.mk.inj (hid.trans hid'.symm)).2
      · rw [hid, Ledger.get_put_self] at ha
        obtain rfl := Option.some.inj ha
        rw [Ledger.get_put_ne L' hid', (Prod.mk.inj hid).1] at ha'
        exact absurd ⟨hc.symm, ht.symm⟩ (hkind id' a' ha')
    · rw [Ledger.get_put_ne L' hid] at ha
      by_cases hid' : ((o, id') : AccountRef) = (o', b.accountId)
      · rw [hid', Ledger.get_put_self] at ha'
        obtain rfl := Option.some.inj ha'
        rw [(Prod.mk.inj hid').1] at ha
        exact absurd ⟨hc, ht⟩ (hkind id a ha)
      · rw [Ledger.get_put_ne L' hid'] at ha'
        exact ih id id' a a' ha ha' hc ht
  | @post ps L' o' b d _ hget ih =>
    -- the copy has the kind of the account it is written over
    have hold : ∀ {id a}, (L'.put o' (b.shift d)).get (o, id) = some a →
        ∃ a₀, L'.get (o, id) = some a₀ ∧ a₀.currency = a.currency ∧
          a₀.accountType = a.accountType := by
      intro id a ha
      by_cases hid : ((o, id) : AccountRef) = (o', b.accountId)
      · have hput := L'.get_put_self o' (b.shift d)
        rw [Account.shift_accountId, ← hid, ha] at hput
        obtain rfl := Option.some.inj hput
        exact ⟨b, by rw [hid]; exact hget, rfl, rfl⟩
      · rw [Ledger.get_put_ne (a := b.shift d) L' hid] at ha
        exact ⟨a, ha, rfl, rfl⟩
    intro id id' a a' ha ha' hc ht
    obtain ⟨a₀, ha₀, hc₀, ht₀⟩ := hold ha
    obtain ⟨a₀', ha₀', hc₀', ht₀'⟩ := hold ha'
    exact ih id id' a₀ a₀' ha₀ ha₀' (by rw [hc₀, hc₀', hc]) (by rw [ht₀, ht₀', ht])
  | perm _ _ ih => exact ih
  | insurance _ _ ih => exact ih

/-! ## Writing copies back -/

/-- A copy taken from the ledger and the change of its balance. -/
structure Write where
  owner : Owner
  copy : Account
  delta : Decimal

namespace Write

def ref (w : Write) : AccountRef := (w.owner, w.copy.accountId)

def booking (w : Write) : Booking := ⟨w.ref, w.copy.currency, w.delta⟩

end Write

/-- The copies written back one after the other. -/
def Ledger.writeBack (L : Ledger) (ws : List Write) : Ledger :=
  ws.foldl (fun L w => L.put w.owner (w.copy.shift w.delta)) L

/-- Copies of pairwise different accounts, written back, are postings. -/
theorem Moves.writeBack {L : Ledger} {ws : List Write} (hget : ∀ w ∈ ws, L.get w.ref = some w.copy)
    (hnd : (ws.map Write.ref).Nodup) : Moves L (ws.map Write.booking) (L.writeBack ws) := by
  induction ws generalizing L with
  | nil => exact .refl
  | cons w ws ih =>
    obtain ⟨hw, hnd⟩ := List.nodup_cons.mp hnd
    have hfirst : Moves L [w.booking] (L.put w.owner (w.copy.shift w.delta)) :=
      Moves.post w.delta .refl (hget w (by simp))
    -- the other copies are of other accounts, so they are still current
    have hrest : ∀ w' ∈ ws, (L.put w.owner (w.copy.shift w.delta)).get w'.ref = some w'.copy := by
      intro w' hw'
      have hne : w'.ref ≠ (w.owner, (w.copy.shift w.delta).accountId) := fun e =>
        hw (List.mem_map.mpr ⟨w', hw', e⟩)
      rw [Ledger.get_put_ne L hne]
      exact hget w' (List.mem_cons_of_mem _ hw')
    exact hfirst.trans (ih hrest hnd)

end Lndhubx
