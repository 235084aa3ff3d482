import Mathlib.Data.List.Basic
import Mathlib.Data.List.Nodup

/-!
# Tables with a primary key

A database table as the program sees it: rows in insertion order, no two of
them with the same key. An insert of a used key is refused, an update rewrites
the row of one key and leaves its key alone, and a query takes the first row
that satisfies a condition.

The lemmas follow one row through the other operations: a row that a query
finds is still found after an insert (`find_insert`), and after an update it
is found rewritten (`find_modify`).
-/

/-- Rows with pairwise distinct keys. -/
structure Table (κ ν : Type) (key : ν → κ) where
  rows : List ν
  nodup : (rows.map key).Nodup

namespace Table

variable {κ ν : Type} {key : ν → κ}

def empty : Table κ ν key := ⟨[], List.nodup_nil⟩

/-- The first row satisfying `p`. -/
def find (t : Table κ ν key) (p : ν → Bool) : Option ν := t.rows.find? p

/-- Two rows with the same key are one row. -/
theorem eq_of_key {t : Table κ ν key} {a b : ν} (ha : a ∈ t.rows) (hb : b ∈ t.rows)
    (h : key a = key b) : a = b :=
  List.inj_on_of_nodup_map t.nodup ha hb h

variable [DecidableEq κ]

/-- A row is what a query for its key finds. -/
theorem find_key {t : Table κ ν key} {r : ν} (h : r ∈ t.rows) :
    t.find (fun x => key x = key r) = some r := by
  cases hf : t.find fun x => decide (key x = key r) with
  | none => exact absurd (List.find?_eq_none.mp hf r h) (by simp)
  | some x =>
    have hk : key x = key r := by simpa using List.find?_some hf
    rw [eq_of_key (List.mem_of_find?_eq_some hf) h hk]

/-- Is there a row with this key? -/
def has (t : Table κ ν key) (k : κ) : Bool := decide (k ∈ t.rows.map key)

/-- `INSERT`: refused when the key is taken. -/
def insert (t : Table κ ν key) (r : ν) : Option (Table κ ν key) :=
  if h : key r ∈ t.rows.map key then none
  else some
    { rows := t.rows ++ [r]
      nodup := by
        rw [List.map_append]
        refine List.nodup_append.mpr ⟨t.nodup, List.nodup_singleton _, ?_⟩
        intro a ha b hb hab
        rw [List.map_singleton, List.mem_singleton] at hb
        exact h (by rw [← hb, ← hab]; exact ha) }

/-- `UPDATE ... WHERE key = k` by a change that keeps the key. -/
def modify (t : Table κ ν key) (k : κ) (f : ν → ν) (hf : ∀ r, key (f r) = key r) :
    Table κ ν key where
  rows := t.rows.map fun r => if key r = k then f r else r
  nodup := by
    have hkeys : (t.rows.map fun r => if key r = k then f r else r).map key = t.rows.map key := by
      rw [List.map_map]
      refine List.map_congr_left fun r _ => ?_
      show key (if key r = k then f r else r) = key r
      split
      · exact hf r
      · rfl
    rw [hkeys]
    exact t.nodup

theorem insert_rows {t t' : Table κ ν key} {r : ν} (h : t.insert r = some t') :
    t'.rows = t.rows ++ [r] := by
  unfold insert at h
  split at h
  · exact absurd h (by simp)
  · injection h with h
    rw [← h]

/-- An insert is refused exactly when its key is there. -/
theorem insert_eq_none {t : Table κ ν key} {r : ν} :
    t.insert r = none ↔ t.has (key r) = true := by
  unfold insert has
  split
  next h => simpa using h
  next h => simpa using h

theorem has_insert {t t' : Table κ ν key} {r : ν} (h : t.insert r = some t') (k : κ) :
    t'.has k = true ↔ t.has k = true ∨ k = key r := by
  simp [has, insert_rows h]

/-- An insert hides no row that a query finds. -/
theorem find_insert {t t' : Table κ ν key} {r x : ν} {p : ν → Bool}
    (h : t.insert r = some t') (hx : t.find p = some x) : t'.find p = some x := by
  unfold find at hx ⊢
  rw [insert_rows h, List.find?_append, hx]
  rfl

/-- Rewriting row `x`, which a query finds, by a change that keeps the query's
answer on every row of that key: the query then finds the rewritten row. -/
theorem find_modify {t : Table κ ν key} {p : ν → Bool} {x : ν} {f : ν → ν}
    (hf : ∀ r, key (f r) = key r) (hx : t.find p = some x) (hp : p (f x) = true) :
    (t.modify (key x) f hf).find p = some (f x) := by
  unfold find at hx ⊢
  show (t.rows.map fun r => if key r = key x then f r else r).find? p = some (f x)
  have hmem : x ∈ t.rows := List.mem_of_find?_eq_some hx
  have huniq : ∀ r ∈ t.rows, key r = key x → r = x := fun r hr hk => eq_of_key hr hmem hk
  clear hmem
  generalize t.rows = rows at hx huniq ⊢
  induction rows with
  | nil => exact absurd hx (by simp)
  | cons r rs ih =>
    rw [List.map_cons]
    by_cases hk : key r = key x
    · have hrx : r = x := huniq r (by simp) hk
      subst hrx
      simp [hp]
    · rw [if_neg hk]
      have hrx : r ≠ x := fun e => hk (by rw [e])
      cases hpr : p r with
      | true =>
        rw [List.find?_cons_of_pos hpr] at hx
        injection hx with hx
        exact absurd hx hrx
      | false =>
        rw [List.find?_cons_of_neg (by simp [hpr])] at hx ⊢
        exact ih hx fun r' hr' => huniq r' (List.mem_cons_of_mem _ hr')

/-- A query that rejects the row of key `k`, before and after the change, does
not see the update. -/
theorem find_modify_other {t : Table κ ν key} {p : ν → Bool} {k : κ} {f : ν → ν}
    (hf : ∀ r, key (f r) = key r)
    (hp : ∀ r ∈ t.rows, key r = k → p r = false ∧ p (f r) = false) :
    (t.modify k f hf).find p = t.find p := by
  unfold find
  show (t.rows.map fun r => if key r = k then f r else r).find? p = _
  generalize t.rows = rows at hp ⊢
  induction rows with
  | nil => rfl
  | cons r rs ih =>
    have htail := ih fun r' hr' => hp r' (List.mem_cons_of_mem _ hr')
    rw [List.map_cons]
    by_cases hk : key r = k
    · obtain ⟨h1, h2⟩ := hp r (by simp) hk
      rw [if_pos hk, List.find?_cons_of_neg (by simp [h2]), List.find?_cons_of_neg (by simp [h1])]
      exact htail
    · rw [if_neg hk]
      cases hpr : p r with
      | true => rw [List.find?_cons_of_pos hpr, List.find?_cons_of_pos hpr]
      | false =>
        rw [List.find?_cons_of_neg (by simp [hpr]), List.find?_cons_of_neg (by simp [hpr])]
        exact htail

end Table
