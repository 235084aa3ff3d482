import Mathlib.Data.List.Count
import Mathlib.Tactic.Common

/-!
# Many parties, each in a phase of its own

A protocol with any number of parties keeps a list: each party has a name, which it
never changes, and a phase, which its steps change. `tally key p parties` counts the
parties of a name whose phase satisfies `p`. A step of one party moves one phase
(`tally_move`), and says nothing about the parties of another name (`tally_move_ne`).
-/

namespace Parties

variable {κ φ : Type} [DecidableEq κ] {parties : List (κ × φ)} {i : Nat} {key key' : κ}
  {phase : φ}

/-- The parties of a name whose phase satisfies `p`. -/
def tally (key : κ) (p : φ → Bool) (parties : List (κ × φ)) : Nat :=
  parties.countP fun r => r.1 = key && p r.2

@[simp] theorem tally_nil (key : κ) (p : φ → Bool) : tally key p ([] : List (κ × φ)) = 0 := rfl

theorem tally_snoc (key key' : κ) (p : φ → Bool) (parties : List (κ × φ)) (phase : φ) :
    tally key p (parties ++ [(key', phase)]) =
      tally key p parties + if key' = key then (p phase).toNat else 0 := by
  unfold tally
  rw [List.countP_append, List.countP_singleton]
  by_cases hkey : key' = key
  · cases p phase <;> simp [hkey]
  · simp [hkey]

theorem tally_le_of_imp {p q : φ → Bool} (h : ∀ phase, p phase = true → q phase = true) :
    tally key p parties ≤ tally key q parties := by
  apply List.countP_mono_left
  intro r _ hr
  simp only [Bool.and_eq_true, decide_eq_true_eq] at hr ⊢
  exact ⟨hr.1, h _ hr.2⟩

/-- Phases that exclude each other are counted side by side. -/
theorem tally_add_le {p q r : φ → Bool} (hp : ∀ phase, p phase = true → r phase = true)
    (hq : ∀ phase, q phase = true → r phase = true)
    (hne : ∀ phase, p phase = true → q phase = false) :
    tally key p parties + tally key q parties ≤ tally key r parties := by
  induction parties with
  | nil => exact Nat.le_refl 0
  | cons a parties ih =>
    unfold tally at ih ⊢
    simp only [List.countP_cons]
    have hone : (if (decide (a.1 = key) && p a.2) = true then 1 else 0) +
        (if (decide (a.1 = key) && q a.2) = true then 1 else 0) ≤
        if (decide (a.1 = key) && r a.2) = true then 1 else 0 := by
      cases hpa : p a.2 with
      | true => simp [hne _ hpa, hp _ hpa]
      | false =>
        cases hqa : q a.2 with
        | true => simp [hq _ hqa]
        | false => simp
    omega

theorem tally_le_add {p q r : φ → Bool}
    (h : ∀ phase, p phase = true → q phase = true ∨ r phase = true) :
    tally key p parties ≤ tally key q parties + tally key r parties := by
  induction parties with
  | nil => exact Nat.le_refl 0
  | cons a parties ih =>
    unfold tally at ih ⊢
    simp only [List.countP_cons]
    have hone : (if (decide (a.1 = key) && p a.2) = true then 1 else 0) ≤
        (if (decide (a.1 = key) && q a.2) = true then 1 else 0) +
        if (decide (a.1 = key) && r a.2) = true then 1 else 0 := by
      cases hpa : p a.2 with
      | false => simp
      | true =>
        by_cases hkey : a.1 = key
        · rcases h _ hpa with hq | hr
          · simp [hkey, hq]
          · simp [hkey, hr]
        · simp [hkey]
    omega

/-- Phases that are covered by finitely many kinds, none of them frequent. -/
theorem tally_le_mul {p : φ → Bool} {q : Nat → φ → Bool} {n bound : Nat}
    (hcover : ∀ phase, (key, phase) ∈ parties → p phase = true → ∃ k, k < n ∧ q k phase = true)
    (hbound : ∀ k, k < n → tally key (q k) parties ≤ bound) :
    tally key p parties ≤ n * bound := by
  induction n generalizing p with
  | zero =>
    apply Nat.le_of_eq
    rw [Nat.zero_mul]
    apply List.countP_eq_zero.mpr
    intro r hr hp
    simp only [Bool.and_eq_true, decide_eq_true_eq] at hp
    obtain ⟨hkey, hp⟩ := hp
    obtain ⟨k, hk, -⟩ := hcover r.2 (hkey ▸ hr) hp
    exact absurd hk (Nat.not_lt_zero k)
  | succ n ih =>
    have hrest : tally key (fun phase => p phase && !q n phase) parties ≤ n * bound := by
      apply ih
      · intro phase hmem hp
        simp only [Bool.and_eq_true, Bool.not_eq_true'] at hp
        obtain ⟨k, hk, hq⟩ := hcover phase hmem hp.1
        by_cases hlast : k = n
        · rw [hlast, hp.2] at hq
          exact absurd hq (by simp)
        · exact ⟨k, by omega, hq⟩
      · exact fun k hk => hbound k (Nat.lt_succ_of_lt hk)
    have hlast := hbound n (Nat.lt_succ_self n)
    have hsplit : tally key p parties ≤
        tally key (fun phase => p phase && !q n phase) parties + tally key (q n) parties := by
      apply tally_le_add
      intro phase hp
      cases hq : q n phase with
      | true => exact .inr rfl
      | false => exact .inl (by simp [hp])
    rw [Nat.succ_mul]
    omega

/-- One party moves to another phase. -/
theorem tally_move (hi : parties[i]? = some (key, phase)) (p : φ → Bool) (phase' : φ) :
    tally key p (parties.set i (key, phase')) + (p phase).toNat =
      tally key p parties + (p phase').toNat := by
  obtain ⟨hlt, hget⟩ := List.getElem?_eq_some_iff.mp hi
  have hone : (p phase).toNat ≤ tally key p parties := by
    cases hp : p phase with
    | false => exact Nat.zero_le _
    | true => exact List.countP_pos_iff.mpr ⟨_, List.mem_of_getElem? hi, by simp [hp]⟩
  have hcounts (q : φ) : (if (decide (key = key) && p q) = true then 1 else 0) = (p q).toNat := by
    cases p q <;> simp
  unfold tally at hone ⊢
  rw [List.countP_set hlt, hget]
  dsimp only
  rw [hcounts, hcounts]
  omega

/-- The parties of other names stay where they are. -/
theorem tally_move_ne (hi : parties[i]? = some (key', phase)) (hne : key' ≠ key) (p : φ → Bool)
    (phase' : φ) : tally key p (parties.set i (key', phase')) = tally key p parties := by
  obtain ⟨hlt, hget⟩ := List.getElem?_eq_some_iff.mp hi
  unfold tally
  rw [List.countP_set hlt, hget]
  simp [hne]

/-- A party is counted. -/
theorem tally_pos (hi : parties[i]? = some (key, phase)) {p : φ → Bool} (hp : p phase = true) :
    0 < tally key p parties :=
  List.countP_pos_iff.mpr ⟨_, List.mem_of_getElem? hi, by simp [hp]⟩

/-- What is left when one is taken out. -/
theorem eraseIdx_split {α : Type} {l : List α} {i : Nat} {a : α} (hi : l[i]? = some a) :
    ∃ before after, l.eraseIdx i = before ++ after ∧ l = before ++ a :: after := by
  obtain ⟨hlt, hget⟩ := List.getElem?_eq_some_iff.mp hi
  refine ⟨l.take i, l.drop (i + 1), List.eraseIdx_eq_take_drop_succ .., ?_⟩
  rw [← hget, List.getElem_cons_drop, List.take_append_drop]

end Parties
