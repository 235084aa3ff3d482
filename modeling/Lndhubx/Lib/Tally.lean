import Mathlib.Data.List.AList
import Mathlib.Algebra.BigOperators.Group.List.Basic
import Mathlib.Tactic.Abel

/-!
# Tallies over keyed maps

A hash map is modelled by Mathlib's `AList`: a list of key/value pairs with
distinct keys. `tally f m` adds `f` up over the values of `m`; the lemmas say
what an `insert` does to it, which is all that book-keeping over a map needs:

* an insert at a fresh key adds the new value (`tally_insert_none`);
* an insert at a used key exchanges the old value for the new one
  (`tally_insert_some`).

`mapValues` rewrites every value in place, as a loop over `iter_mut` does.
-/

namespace Tally

variable {κ ν G : Type}

/-- `f` added up over the values of a map. -/
def tally [AddCommMonoid G] (f : ν → G) (m : AList fun _ : κ => ν) : G :=
  (m.entries.map fun e => f e.2).sum

@[simp] theorem tally_empty [AddCommMonoid G] (f : ν → G) :
    tally f (∅ : AList fun _ : κ => ν) = 0 := rfl

/-- What counts for nothing may be left out of a sum. -/
theorem sum_map_filter [AddCommMonoid G] {f : ν → G} {p : ν → Bool} {l : List ν}
    (h : ∀ x ∈ l, p x = false → f x = 0) : ((l.filter p).map f).sum = (l.map f).sum := by
  induction l with
  | nil => rfl
  | cons x l ih =>
    have ih := ih fun y hy => h y (List.mem_cons_of_mem _ hy)
    cases hp : p x with
    | true =>
      rw [List.filter_cons_of_pos hp, List.map_cons, List.sum_cons, ih, List.map_cons,
        List.sum_cons]
    | false =>
      rw [List.filter_cons_of_neg (by simp [hp]), ih, List.map_cons, List.sum_cons,
        h x (by simp) hp, zero_add]

theorem nodupKeys_mapValues (f : ν → ν) (m : AList fun _ : κ => ν) :
    (m.entries.map fun e => (⟨e.1, f e.2⟩ : Sigma fun _ : κ => ν)).NodupKeys := by
  unfold List.NodupKeys List.keys
  rw [List.map_map]
  exact m.nodupKeys

/-- Every value rewritten. -/
def mapValues (f : ν → ν) (m : AList fun _ : κ => ν) : AList fun _ : κ => ν :=
  ⟨m.entries.map fun e => ⟨e.1, f e.2⟩, nodupKeys_mapValues f m⟩

theorem mapValues_entries (f : ν → ν) (m : AList fun _ : κ => ν) :
    (mapValues f m).entries = m.entries.map fun e => ⟨e.1, f e.2⟩ := rfl

variable [DecidableEq κ] {m : AList fun _ : κ => ν} {k : κ} {v : ν}

/-- An entry of the list is exactly a successful lookup. -/
theorem mem_entries_iff : (⟨k, v⟩ : Sigma fun _ : κ => ν) ∈ m.entries ↔ m.lookup k = some v :=
  AList.mem_lookup_iff.symm

theorem lookup_mapValues {f : ν → ν} (h : (mapValues f m).lookup k = some v) :
    ∃ w, m.lookup k = some w ∧ v = f w := by
  obtain ⟨⟨k', w⟩, hmem, he⟩ := List.mem_map.mp (mem_entries_iff.mpr h)
  injection he with hk hv
  subst hk
  exact ⟨w, mem_entries_iff.mp hmem, hv.symm⟩

theorem tally_insert_none [AddCommMonoid G] {f : ν → G} (h : m.lookup k = none) :
    tally f (m.insert k v) = f v + tally f m := by
  have hk : k ∉ m := AList.lookup_eq_none.mp h
  unfold tally
  rw [AList.entries_insert_of_notMem hk, List.map_cons, List.sum_cons]

/-- Taking the entry of `k` out of the list takes its value out of the tally. -/
theorem tally_erase_some [AddCommMonoid G] {f : ν → G} {old : ν} (h : m.lookup k = some old) :
    f old + tally f (m.erase k) = tally f m := by
  have hmem : (⟨k, old⟩ : Sigma fun _ : κ => ν) ∈ m.entries := mem_entries_iff.mpr h
  obtain ⟨b, l₁, l₂, -, hl, he⟩ := List.exists_of_kerase (List.mem_keys_of_mem hmem)
  have hb : b = old := by
    have hb' : m.lookup k = some b := mem_entries_iff.mp (by rw [hl]; simp)
    rw [h] at hb'
    injection hb' with hb'
    exact hb'.symm
  subst hb
  show f b + ((List.kerase k m.entries).map fun e => f e.2).sum = _
  unfold tally
  rw [he, hl]
  simp only [List.map_append, List.map_cons, List.sum_append, List.sum_cons]
  exact add_left_comm _ _ _

/-- An insert at a used key exchanges the old value for the new one. -/
theorem tally_insert_some [AddCommGroup G] {f : ν → G} {old : ν} (h : m.lookup k = some old) :
    tally f (m.insert k v) = tally f m - f old + f v := by
  have hins : tally f (m.insert k v) = f v + tally f (m.erase k) := by
    show (((m.insert k v).entries).map fun e => f e.2).sum = _
    rw [AList.entries_insert, List.map_cons, List.sum_cons]
    rfl
  rw [hins, ← tally_erase_some (f := f) h]
  abel

end Tally
