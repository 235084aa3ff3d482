import Lndhubx.Bank.Spec

/-!
# The bitcoin outside the ledger

The external accounts of the bank and of the dealer stand for the bitcoin that
is in the node, with the opposite sign: a deposit takes from them, a payment puts
on them. `externalBtc` adds up those that are kept in bitcoin.

What a handler does to the sum is read off its bookings (`Moves.externalBtc`): a
booking counts if it is on such an account, and no account ever changes its
holder, currency or type, so it may be looked at afterwards (`Ledger.weight`).
-/

namespace Lndhubx

open Tally Posting

/-! ## The sum -/

/-- One for an external account in bitcoin. -/
def Account.weight (a : Account) : Decimal :=
  if a.currency = .BTC ∧ a.accountType = .external then 1 else 0

@[simp] theorem Account.weight_shift (a : Account) (d : Decimal) : (a.shift d).weight = a.weight :=
  rfl

/-- The external bitcoin of one holder. -/
def UserAccount.externalBtc (ua : UserAccount) : Decimal :=
  tally (fun a : Account => a.weight * a.balance) ua.accounts

/-- Users' accounts do not count. -/
def Owner.weight : Owner → Decimal
  | .user _ => 0
  | .bank => 1
  | .dealer => 1

namespace Ledger

variable {L : Ledger}

/-- The external bitcoin of `bank_liabilities` and `dealer_accounts`. -/
def externalBtc (L : Ledger) : Decimal :=
  L.bankLiabilities.externalBtc + L.dealerAccounts.externalBtc

/-- One if what is booked on the account counts. -/
def weight (L : Ledger) (r : AccountRef) : Decimal :=
  r.1.weight * ((L.get r).map Account.weight).getD 0

@[simp] theorem weight_user (L : Ledger) (uid : UserId) (id : AccountId) :
    L.weight (.user uid, id) = 0 := zero_mul _

theorem weight_of_get {r : AccountRef} {a : Account} (h : L.get r = some a) :
    L.weight r = r.1.weight * a.weight := by
  unfold weight
  rw [h]
  rfl

theorem Holds.of_get {r : AccountRef} {a : Account} {c : Currency} {t : AccountType}
    (h : L.get r = some a) (hc : a.currency = c) (ht : a.accountType = t) :
    L.Holds r c (some t) := ⟨a, h, hc, fun t' ht' => by rw [ht, Option.some.inj ht']⟩

theorem Holds.weight_external {o : Owner} {id : AccountId}
    (h : L.Holds (o, id) .BTC (some .external)) : L.weight (o, id) = o.weight := by
  obtain ⟨a, ha, hc, ht⟩ := h
  rw [weight_of_get ha, Account.weight, if_pos ⟨hc, ht _ rfl⟩, mul_one]

theorem Holds.weight_internal {r : AccountRef} {c : Currency}
    (h : L.Holds r c (some .internal)) : L.weight r = 0 := by
  obtain ⟨a, ha, -, ht⟩ := h
  have hno : ¬(a.currency = .BTC ∧ a.accountType = .external) := by
    rw [ht _ rfl]
    simp
  rw [weight_of_get ha, Account.weight, if_neg hno, mul_zero]

theorem Holds.weight_fiat {r : AccountRef} {c : Currency} {t : Option AccountType}
    (h : L.Holds r c t) (hc : c ≠ .BTC) : L.weight r = 0 := by
  obtain ⟨a, ha, rfl, -⟩ := h
  have hno : ¬(a.currency = .BTC ∧ a.accountType = .external) := fun h => hc h.1
  rw [weight_of_get ha, Account.weight, if_neg hno, mul_zero]

theorem externalBtc_put_holder (L : Ledger) (o : Owner) (a : Account) :
    (L.put o a).externalBtc = L.externalBtc +
      o.weight * (((L.holder o).insert a).externalBtc - (L.holder o).externalBtc) := by
  cases o with
  | user uid => simp [externalBtc, put, setUser, Owner.weight]
  | bank => simp only [externalBtc, put, holder, Owner.weight]; ring
  | dealer => simp only [externalBtc, put, holder, Owner.weight]; ring

/-- Overwriting an account exchanges its share. -/
theorem externalBtc_put {o : Owner} {a old : Account} (h : L.get (o, a.accountId) = some old) :
    (L.put o a).externalBtc =
      L.externalBtc + o.weight * (a.weight * a.balance - old.weight * old.balance) := by
  have hins : ((L.holder o).insert a).externalBtc =
      (L.holder o).externalBtc - old.weight * old.balance + a.weight * a.balance :=
    tally_insert_some h
  rw [externalBtc_put_holder, hins]
  ring

/-- A new account adds its share. -/
theorem externalBtc_put_new {o : Owner} {a : Account} (h : L.get (o, a.accountId) = none) :
    (L.put o a).externalBtc = L.externalBtc + o.weight * (a.weight * a.balance) := by
  have hins : ((L.holder o).insert a).externalBtc =
      a.weight * a.balance + (L.holder o).externalBtc := tally_insert_none h
  rw [externalBtc_put_holder, hins]
  ring

end Ledger

/-! ## What bookings do to it -/

/-- What is booked on accounts that count. -/
def externalIn (L : Ledger) (ps : List Booking) : Decimal :=
  (ps.map fun p => L.weight p.ref * p.amount).sum

@[simp] theorem externalIn_nil (L : Ledger) : externalIn L [] = 0 := rfl

@[simp] theorem externalIn_cons (L : Ledger) (p : Booking) (ps : List Booking) :
    externalIn L (p :: ps) = L.weight p.ref * p.amount + externalIn L ps := by
  simp [externalIn]

theorem externalIn_append (L : Ledger) (ps qs : List Booking) :
    externalIn L (ps ++ qs) = externalIn L ps + externalIn L qs := by
  simp [externalIn]

/-- An account counts as long as it is there. -/
theorem Moves.weight_eq {L L' : Ledger} {ps : List Booking} (h : Moves L ps L') {r : AccountRef}
    {c : Currency} {t : Option AccountType} (hr : L.Holds r c t) : L'.weight r = L.weight r := by
  obtain ⟨a, ha, -⟩ := hr
  rw [Ledger.weight_of_get ha, Ledger.weight_of_get (h.get_some ha), Account.weight_shift]

theorem Moves.externalIn_eq {L L' L'' : Ledger} {ps qs : List Booking} (h : Moves L ps L')
    (h' : Moves L' qs L'') : externalIn L'' ps = externalIn L' ps := by
  unfold externalIn
  refine congrArg List.sum (List.map_congr_left fun p hp => ?_)
  rw [h'.weight_eq (h.booked_holds hp)]

/-- The sum changes by what is booked on the accounts that count. -/
theorem Moves.externalBtc {L L' : Ledger} {ps : List Booking} (h : Moves L ps L') :
    L'.externalBtc = L.externalBtc + externalIn L' ps := by
  induction h with
  | refl => rw [externalIn_nil, add_zero]
  | @openUser ps L' uid h ih =>
    rw [h.externalIn_eq (.openUser uid .refl), ← ih]
    rfl
  | @openAccount ps L' o a h hfresh hzero hkind ih =>
    rw [h.externalIn_eq (.openAccount .refl hfresh hzero hkind), ← ih,
      Ledger.externalBtc_put_new (hfresh o), hzero, mul_zero, mul_zero, add_zero]
  | @post ps L' o a d h hget ih =>
    have hlast : Moves L' [⟨(o, a.accountId), a.currency, d⟩] (L'.put o (a.shift d)) :=
      .post d .refl hget
    have hput : L'.get (o, (a.shift d).accountId) = some a := hget
    have hself : (L'.put o (a.shift d)).get (o, a.accountId) = some (a.shift d) :=
      L'.get_put_self o (a.shift d)
    rw [Ledger.externalBtc_put hput, externalIn_append, h.externalIn_eq hlast, ih, externalIn_cons,
      externalIn_nil, Ledger.weight_of_get hself, Account.weight_shift, Account.shift_balance]
    ring
  | perm _ hp ih =>
    rw [ih]
    unfold externalIn
    rw [(hp.map _).sum_eq]
  | @insurance ps L' a h ih =>
    rw [h.externalIn_eq (.insurance a .refl), ← ih]
    rfl

/-! ## Between two states -/

variable {env : Env} {s s' s'' : State} {x y : Decimal}

/-- The external bitcoin has changed by `x`. -/
def ShiftsExternal (x : Decimal) (s s' : State) : Prop :=
  s'.ledger.externalBtc = s.ledger.externalBtc + x

namespace ShiftsExternal

theorem of_ledger (h : s'.ledger = s.ledger) : ShiftsExternal 0 s s' := by
  unfold ShiftsExternal
  rw [h, add_zero]

theorem trans (h : ShiftsExternal x s s') (h' : ShiftsExternal y s' s'') :
    ShiftsExternal (x + y) s s'' := by
  unfold ShiftsExternal at *
  rw [h', h, add_assoc]

/-- What is done afterwards leaves the ledger alone. -/
theorem after (h : ShiftsExternal x s s') (h' : s''.ledger = s'.ledger) :
    ShiftsExternal x s s'' := by
  unfold ShiftsExternal at *
  rw [h', h]

theorem of_moves {ps : List Booking} (h : Moves s.ledger ps s'.ledger)
    (hx : externalIn s'.ledger ps = x) : ShiftsExternal x s s' := by
  unfold ShiftsExternal
  rw [h.externalBtc, hx]

end ShiftsExternal

/-- Opening accounts changes nothing. -/
theorem Booked.shiftsExternal (h : Booked env s [] s') : ShiftsExternal 0 s s' :=
  .of_moves h.moves rfl

end Lndhubx
