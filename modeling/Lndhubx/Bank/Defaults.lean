import Lndhubx.Bank.Holds
import Lndhubx.Bank.Walk

/-!
# Default accounts are unambiguous

`get_default_account` takes the first account that passes its filter, in the order
in which a `HashMap` happens to be walked, and opens one where there is none. Which
account a debit or a refund goes to is therefore settled only where no two accounts
of a holder pass one filter: a user has one account per currency at most, and only
internal ones, since most handlers leave the type open; the bank and the dealer have
one per currency and type (`Unambiguous`).

An account is opened only where the filter finds none, and a copy is written back
under the id, and with the currency and type, of an account that is there
(`Composed`), so every handler keeps this, and in such a state it does the same
thing in every order (`Composed.steady`). `defaults_of_run` is the result for runs.
-/

namespace Lndhubx

open Prog BankEngine

variable {cfg : Config} {env : Env} {s s' : State} {α : Type} {L L' : Ledger}

/-- No filter that is used has two answers. -/
structure Unambiguous (L : Ledger) : Prop where
  onePerCurrency : OnePerCurrency L
  internal : ∀ uid id a, L.get (.user uid, id) = some a → a.accountType = .internal
  oneOfEachKind : OneOfEachKind L

/-! ## Kinds of accounts -/

theorem Ledger.has_of_get {o : Owner} {id : AccountId} {a : Account} (h : L.get (o, id) = some a) :
    L.Has (a.kind o) := by
  have hid : a.accountId = id := Ledger.get_accountId h
  exact ⟨o, a, by rw [hid, h], rfl⟩

theorem Ledger.Has.exists_get {o : Owner} {id : AccountId} {c : Currency} {t : AccountType}
    (h : L.Has (o, id, c, t)) :
    ∃ a, L.get (o, id) = some a ∧ a.currency = c ∧ a.accountType = t := by
  obtain ⟨o', a, ha, hk⟩ := h
  simp only [Account.kind, Prod.mk.injEq] at hk
  obtain ⟨rfl, rfl, hc, ht⟩ := hk
  exact ⟨a, ha, hc, ht⟩

theorem Moves.has {ps : List Booking} (h : Moves L ps L') {k : Kind} (hk : L.Has k) : L'.Has k := by
  obtain ⟨o, a, ha, rfl⟩ := hk
  exact ⟨o, a.shift _, h.get_some ha, rfl⟩

/-- A write adds the kind of the account, if anything. -/
theorem Ledger.has_put {o : Owner} {a : Account} {k : Kind} (h : (L.put o a).Has k) :
    L.Has k ∨ k = a.kind o := by
  obtain ⟨o', b, hb, rfl⟩ := h
  by_cases hr : ((o', b.accountId) : AccountRef) = (o, a.accountId)
  · right
    rw [hr, Ledger.get_put_self] at hb
    rw [← Option.some.inj hb, (Prod.mk.inj hr).1]
  · left
    rw [Ledger.get_put_ne L hr] at hb
    exact ⟨o', b, hb, rfl⟩

/-- Written over an account of its kind, a copy takes nothing away. -/
theorem Ledger.Has.put {o : Owner} {a : Account} {k : Kind} (hk : L.Has k)
    (h : L.Has (a.kind o)) : (L.put o a).Has k := by
  obtain ⟨o', b, hb, rfl⟩ := hk
  by_cases hr : ((o', b.accountId) : AccountRef) = (o, a.accountId)
  · obtain ⟨old, hold, hc, ht⟩ := h.exists_get
    rw [hr, hold] at hb
    obtain rfl := Option.some.inj hb
    obtain ⟨rfl, hid⟩ := Prod.mk.inj hr
    refine ⟨o', a, Ledger.get_put_self _ _ _, ?_⟩
    rw [Account.kind, Account.kind, hid, hc, ht]
  · exact ⟨o', b, by rw [Ledger.get_put_ne L hr, hb], rfl⟩

theorem Ledger.OneOfAKind.of_has {o : Owner} (h : L.OneOfAKind o)
    (hk : ∀ k, L'.Has k → L.Has k) : L'.OneOfAKind o := by
  intro id id' a a' ha ha' hc ht
  have hid : a.accountId = id := Ledger.get_accountId ha
  have hid' : a'.accountId = id' := Ledger.get_accountId ha'
  obtain ⟨b, hb, hbc, hbt⟩ := (hk _ (Ledger.has_of_get ha)).exists_get
  obtain ⟨b', hb', hbc', hbt'⟩ := (hk _ (Ledger.has_of_get ha')).exists_get
  rw [← hid, ← hid']
  exact h _ _ b b' hb hb' (by rw [hbc, hbc', hc]) (by rw [hbt, hbt', ht])

/-! ## Unambiguous ledgers -/

namespace Unambiguous

/-- All users' accounts being internal, one per currency is one per kind. -/
theorem iff : Unambiguous L ↔ (∀ o, L.OneOfAKind o) ∧
    ∀ uid k, L.Has k → k.1 = .user uid → k.2.2.2 = .internal := by
  constructor
  · intro h
    refine ⟨fun o => ?_, fun uid k hk hu => ?_⟩
    · cases o with
      | user uid => exact fun id id' a a' ha ha' hc _ => h.onePerCurrency uid id id' a a' ha ha' hc
      | bank => exact h.oneOfEachKind.1
      | dealer => exact h.oneOfEachKind.2
    · obtain ⟨o, a, ha, rfl⟩ := hk
      have ho : o = .user uid := hu
      subst ho
      exact h.internal uid _ a ha
  · intro h
    obtain ⟨hone, hint⟩ := h
    have htype : ∀ uid id a, L.get (.user uid, id) = some a → a.accountType = .internal :=
      fun uid id a ha => hint uid _ (Ledger.has_of_get ha) rfl
    refine ⟨fun uid id id' a a' ha ha' hc => ?_, htype, hone .bank, hone .dealer⟩
    exact hone (.user uid) id id' a a' ha ha' hc (by rw [htype uid id a ha, htype uid id' a' ha'])

/-- The empty maps at first. -/
theorem new (owner dealer : UserId) (id : Uuid) : Unambiguous (Ledger.new owner dealer id) := by
  have hnone : ∀ o, (Ledger.new owner dealer id).OneOfAKind o := by
    intro o i i' a a' ha
    rw [Ledger.get_new] at ha
    exact absurd ha (by simp)
  refine iff.mpr ⟨hnone, fun uid k hk _ => ?_⟩
  obtain ⟨o, a, ha, -⟩ := hk
  rw [Ledger.get_new] at ha
  exact absurd ha (by simp)

theorem of_has (h : Unambiguous L) (hk : ∀ k, L'.Has k → L.Has k) : Unambiguous L' := by
  obtain ⟨hone, hint⟩ := iff.mp h
  exact iff.mpr ⟨fun o => (hone o).of_has hk, fun uid k h => hint uid k (hk k h)⟩

/-- One account at most passes a filter. -/
theorem eq_of_default (h : Unambiguous L) {o : Owner} {c : Currency} {t : Option AccountType}
    (single : Single o t) {a b : Account} (ha : a ∈ (L.holder o).values)
    (hb : b ∈ (L.holder o).values) (hda : isDefaultFor c t a = true)
    (hdb : isDefaultFor c t b = true) : a = b := by
  have hga : L.get (o, a.accountId) = some a := UserAccount.lookup_of_mem_values ha
  have hgb : L.get (o, b.accountId) = some b := UserAccount.lookup_of_mem_values hb
  obtain ⟨hac, hat⟩ := isDefaultFor_iff.mp hda
  obtain ⟨hbc, hbt⟩ := isDefaultFor_iff.mp hdb
  have htype : a.accountType = b.accountType := by
    cases o with
    | user uid => rw [h.internal uid _ a hga, h.internal uid _ b hgb]
    | bank =>
      obtain ⟨t', ht⟩ := Option.isSome_iff_exists.mp single
      rw [hat t' ht, hbt t' ht]
    | dealer =>
      obtain ⟨t', ht⟩ := Option.isSome_iff_exists.mp single
      rw [hat t' ht, hbt t' ht]
  have hid := (iff.mp h).1 o _ _ a b hga hgb (by rw [hac, hbc]) htype
  rw [hid, hgb] at hga
  exact (Option.some.inj hga).symm

end Unambiguous

/-! ## Looking an account up -/

/-- The account that is handed out is the same in every order. -/
theorem getDefaultAccount_reorder (o : Order) {owner : Owner} {t : Option AccountType}
    (c : Currency) (hu : Unambiguous s.ledger) (single : Single owner t) :
    getDefaultAccount (env.reorder o) owner c t s = getDefaultAccount env owner c t s := by
  have hmem : ∀ a, a ∈ (o.1 (s.ledger.holder owner).values).filter (isDefaultFor c t) ↔
      a ∈ (env.order (s.ledger.holder owner).values).filter (isDefaultFor c t) := by
    intro a
    rw [List.mem_filter, List.mem_filter, (o.2 _).mem_iff, (env.order_perm _).mem_iff]
  have hone : ∀ a ∈ (env.order (s.ledger.holder owner).values).filter (isDefaultFor c t),
      ∀ b ∈ (env.order (s.ledger.holder owner).values).filter (isDefaultFor c t), a = b := by
    intro a ha b hb
    obtain ⟨ha, hda⟩ := List.mem_filter.mp ha
    obtain ⟨hb, hdb⟩ := List.mem_filter.mp hb
    rw [(env.order_perm _).mem_iff] at ha hb
    exact hu.eq_of_default single ha hb hda hdb
  unfold getDefaultAccount
  rw [Prog.run_get_bind, Prog.run_get_bind]
  have horder : (env.reorder o).order = o.1 := rfl
  rw [horder]
  cases hl : (env.order (s.ledger.holder owner).values).filter (isDefaultFor c t) with
  | nil =>
    have hnil : (o.1 (s.ledger.holder owner).values).filter (isDefaultFor c t) = [] := by
      refine List.eq_nil_iff_forall_not_mem.mpr fun a ha => ?_
      rw [hmem, hl] at ha
      exact absurd ha (by simp)
    rw [hnil]
    rfl
  | cons a rest =>
    cases hl' : (o.1 (s.ledger.holder owner).values).filter (isDefaultFor c t) with
    | nil =>
      have ha := (hmem a).mpr (by rw [hl]; simp)
      rw [hl'] at ha
      exact absurd ha (by simp)
    | cons b rest' =>
      have hb := (hmem b).mp (by rw [hl']; simp)
      rw [hone b hb a (by rw [hl]; simp)]

/-- No account but the one that is handed out is added. -/
theorem getDefaultAccount_has (owner : Owner) (c : Currency) (t : Option AccountType) :
    Ensures (getDefaultAccount env owner c t) s fun a s' =>
      ∀ k, s'.ledger.Has k → s.ledger.Has k ∨
        k = a.kind owner ∧ a.accountType = t.getD .internal := by
  refine Ensures.get_bind ?_
  split
  next => exact fun k hk => .inl hk
  next =>
    intro k hk
    rcases Ledger.has_put hk with hk | hk
    · exact .inl hk
    · exact .inr ⟨hk, rfl⟩

/-- The ledger is unambiguous, and has every account it had. -/
def Steady (s s' : State) : Prop :=
  Unambiguous s'.ledger ∧ ∀ k, s.ledger.Has k → s'.ledger.Has k

theorem Steady.of_ledger (hu : Unambiguous s.ledger) (hl : s'.ledger = s.ledger) : Steady s s' := by
  unfold Steady
  rw [hl]
  exact ⟨hu, fun _ hk => hk⟩

theorem getDefaultAccount_steady {owner : Owner} {t : Option AccountType} (c : Currency)
    (hu : Unambiguous s.ledger) (single : Single owner t) :
    Ensures (getDefaultAccount env owner c t) s fun a s' =>
      Steady s s' ∧ s'.ledger.Has (a.kind owner) := by
  refine ((getDefaultAccount_spec owner c t).and (getDefaultAccount_has owner c t)).mono
    fun a s' h => ?_
  obtain ⟨⟨hb, hget, -⟩, hadds⟩ := h
  obtain ⟨hone, hint⟩ := Unambiguous.iff.mp hu
  refine ⟨⟨Unambiguous.iff.mpr ⟨fun o => hb.moves.oneOfAKind (hone o), fun uid k hk hku => ?_⟩,
    fun _ => hb.moves.has⟩, Ledger.has_of_get hget⟩
  rcases hadds k hk with hk | ⟨rfl, htype⟩
  · exact hint uid k hk hku
  · -- a new account of a user is internal, whether the filter says so or not
    have ho : owner = .user uid := hku
    rw [ho] at single
    show a.accountType = .internal
    rw [htype]
    cases t with
    | none => rfl
    | some t =>
      cases t with
      | internal => rfl
      | external => exact absurd rfl single

/-! ## Handlers and runs -/

/-- From `s`, the two programs do the same, and end in an unambiguous ledger. -/
def Agree (s : State) (p p' : Handler α) : Prop :=
  p' s = p s ∧ Ensures p s fun _ s' => Steady s s'

theorem Agree.bind {β : Type} {p p' : Handler β} {f f' : β → Handler α} {R : β → State → Prop}
    (hp : p' s = p s) (hsteady : Ensures p s fun b s' => Steady s s' ∧ R b s')
    (hf : ∀ b s₁, Steady s s₁ → R b s₁ → Agree s₁ (f b) (f' b)) :
    Agree s (p >>= f) (p' >>= f') := by
  refine ⟨run_bind_congr hp fun b s₁ hrun => ?_, hsteady.bind fun b s₁ h₁ => ?_⟩
  · obtain ⟨h₁, hR⟩ := hsteady.of_run hrun
    exact (hf b s₁ h₁ hR).1
  · refine (hf b s₁ h₁.1 h₁.2).2.mono fun _ s₂ h₂ => ⟨h₂.1, fun k hk => ?_⟩
    exact h₂.2 k (h₁.1.2 k hk)

/-- From an unambiguous ledger that has the accounts it knows, a handler does the same
in every order, and leaves the ledger unambiguous. -/
theorem Composed.steady {o : Order} {Γ : Set Kind} {n : Nat} {p p' : Handler α}
    (h : Composed env o Γ n p p') {s : State} (hu : Unambiguous s.ledger)
    (hΓ : ∀ k ∈ Γ, s.ledger.Has k) : Agree s p p' := by
  induction h generalizing s with
  | aside h => exact ⟨rfl, (h s).mono fun _ _ h => .of_ledger hu h.ledger⟩
  | bind _ _ ihp ihf =>
    obtain ⟨hp, hsteady⟩ := ihp hu hΓ
    refine .bind (R := fun _ _ => True) hp (hsteady.mono fun _ _ h => ⟨h, trivial⟩) ?_
    intro b s₁ h₁ _
    exact ihf b h₁.1 fun k hk => h₁.2 k (hΓ k hk)
  | read _ ihf =>
    refine ihf s hu fun k hk => ?_
    rcases hk with hk | hk
    · exact hΓ k hk
    · exact hk
  | find single _ ihf =>
    refine .bind (getDefaultAccount_reorder o _ hu single)
      (getDefaultAccount_steady _ hu single) fun a s₁ h₁ ha => ?_
    refine ihf a h₁.1 fun k hk => ?_
    rcases hk with rfl | hk
    · exact ha
    · exact h₁.2 k (hΓ k hk)
  | openUser uid =>
    have hsame : ∀ k, (s.ledger.openUser uid).Has k ↔ s.ledger.Has k := by
      intro k
      unfold Ledger.Has
      simp only [Ledger.get_openUser]
    exact ⟨rfl, hu.of_has fun k => (hsame k).mp, fun k => (hsame k).mpr⟩
  | put known =>
    refine ⟨rfl, hu.of_has fun k hk => ?_, fun k hk => hk.put (hΓ _ known)⟩
    rcases Ledger.has_put hk with hk | rfl
    · exact hk
    · exact hΓ _ known
  | insurance a => exact ⟨rfl, hu.of_has fun _ hk => hk, fun _ hk => hk⟩
  | tx _ ihf =>
    refine .bind rfl ((makeTx_kinds _ _ _ _ _ _).mono fun x s₁ h =>
      ⟨Steady.of_ledger hu h.1, h.2⟩) fun x s₁ h₁ hkinds => ?_
    exact ihf _ _ _ hkinds.1 hkinds.2 h₁.1 fun k hk => h₁.2 k (hΓ k hk)
  | summary x => exact ⟨rfl, (makeSummaryTx_spec x).mono fun _ _ h => .of_ledger hu h.1.ledger⟩
  | mono _ _ ih => exact ih hu hΓ

theorem processMsg_steady (o : Order) (msg : Message) (hu : Unambiguous s.ledger) :
    Agree s (processMsg cfg env msg) (processMsg cfg (env.reorder o) msg) :=
  (processMsg_composed (Γ := ∅) msg).steady hu fun _ hk => absurd hk (Set.notMem_empty _)

theorem Delivers.unambiguous {d : Delivery} (h : Delivers cfg s d s')
    (hu : Unambiguous s.ledger) : Unambiguous s'.ledger :=
  (h.ensures (processMsg_steady (s := { s with sent := [] }) ⟨id, .refl⟩ d.msg hu).2).1

/-- The ledger stays unambiguous in every run, every account is stored under its id, and
a message is handled in the same way in every order of the maps. What a message leads
to tells which accounts its calls of `get_default_account` returned
(`State.defaults`). -/
theorem defaults_of_run {ds : List Delivery} (hrun : Run cfg s ds s')
    (hu : Unambiguous s.ledger) :
    Unambiguous s'.ledger ∧
    (∀ o id a, (s'.ledger.holder o).accounts.lookup id = some a → a.accountId = id) ∧
    ∀ env o msg, deliver cfg ⟨env.reorder o, msg⟩ s' = deliver cfg ⟨env, msg⟩ s' := by
  have hu' : Unambiguous s'.ledger :=
    hrun.invariant (I := fun s => Unambiguous s.ledger)
      (fun _ _ _ _ hu hstep => hstep.unambiguous hu) hu
  refine ⟨hu', fun o => (s'.ledger.holder o).keyed, fun env o msg => ?_⟩
  unfold deliver
  rw [(processMsg_steady (s := { s' with sent := [] }) o msg hu').1]

/-- After a deposit and a payment of hers, Alice's balances are told in the same way
with her accounts walked backwards. -/
theorem defaults_sample : ∃ s', Run Sample.config Sample.state Sample.run s' ∧
    s'.defaults.length = 4 ∧ Unambiguous s'.ledger ∧
    deliver Sample.config ⟨(Sample.env 3).reorder ⟨List.reverse, List.reverse_perm⟩,
        .api (.getBalances ⟨2, 7⟩)⟩ s'
      = deliver Sample.config ⟨Sample.env 3, .api (.getBalances ⟨2, 7⟩)⟩ s' := by
  obtain ⟨s', hrun, hlen⟩ := exists_run Sample.config Sample.run Sample.state
    (fun s' => s'.defaults.length = 4) (by decide +kernel)
  obtain ⟨hu, -, hsame⟩ := defaults_of_run hrun (Unambiguous.new _ _ _)
  exact ⟨s', hrun, hlen, hu, hsame _ _ _⟩

end Lndhubx
