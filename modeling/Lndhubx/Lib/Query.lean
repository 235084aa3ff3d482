import Mathlib.Data.List.Perm.Basic
import Mathlib.Data.List.Sort

/-!
# What a SELECT answers with

A condition that can fail (`select`), and the rows of an `ORDER BY` with a `LIMIT`
(`IsTop`). The order of a query says nothing about rows of one rank, so the database may
answer with any list that is the beginning of the rows put in some order that goes by the
rank; `orderBy` is one of them. What holds of all of them: the rows are of the table, they
come by rank, none is missing as long as there was room (`IsTop.complete`), and no row
that is missing has a better rank than one that is there (`IsTop.best`).
-/

namespace Query

variable {α : Type}

/-- The rows a condition is true of. A row for which it is an error fails the query. -/
def select (p : α → Option Bool) : List α → Option (List α)
  | [] => some []
  | a :: rows => do
    let b ← p a
    let rest ← select p rows
    return if b then a :: rest else rest

/-- A condition that is decided on every row filters. -/
theorem select_eq_filter {p : α → Option Bool} {q : α → Bool} {rows : List α}
    (h : ∀ a ∈ rows, p a = some (q a)) : select p rows = some (rows.filter q) := by
  induction rows with
  | nil => rfl
  | cons a rows ih =>
    obtain ⟨ha, hrows⟩ := List.forall_mem_cons.mp h
    rw [select, ha, ih hrows, List.filter_cons]
    rfl

variable (rank : α → Nat)

/-- `LIMIT`; all rows where there is none. -/
def limited (limit : Option Nat) (rows : List α) : List α :=
  match limit with
  | none => rows
  | some n => rows.take n

/-- An answer to `ORDER BY` the rank, with a `LIMIT`. -/
def IsTop (limit : Option Nat) (rows answer : List α) : Prop :=
  ∃ ordered : List α, ordered.Perm rows ∧ ordered.Pairwise (fun a b => rank a ≤ rank b) ∧
    answer = limited limit ordered

/-- Rows by their rank, those of one rank as they came. -/
def orderBy (rows : List α) : List α := rows.mergeSort fun a b => decide (rank a ≤ rank b)

/-- Sorting and cutting off is one way to answer. -/
theorem isTop_orderBy (limit : Option Nat) (rows : List α) :
    IsTop rank limit rows (limited limit (orderBy rank rows)) := by
  refine ⟨orderBy rank rows, List.mergeSort_perm _ _, ?_, rfl⟩
  have hsorted : (orderBy rank rows).Pairwise fun a b => decide (rank a ≤ rank b) = true :=
    List.pairwise_mergeSort (by simp only [decide_eq_true_eq]; intro a b c; omega)
      (by simp only [Bool.or_eq_true, decide_eq_true_eq]; intro a b; omega) rows
  exact hsorted.imp fun h => of_decide_eq_true h

namespace IsTop

variable {rank} {limit : Option Nat} {rows answer : List α} (h : IsTop rank limit rows answer)
include h

/-- An answer is made of rows. -/
theorem mem {a : α} (ha : a ∈ answer) : a ∈ rows := by
  obtain ⟨ordered, hperm, _, rfl⟩ := h
  refine hperm.mem_iff.mp ?_
  cases limit with
  | none => exact ha
  | some n => exact List.mem_of_mem_take ha

/-- An answer comes by rank. -/
theorem ordered : answer.Pairwise fun a b => rank a ≤ rank b := by
  obtain ⟨ordered, _, hsorted, rfl⟩ := h
  cases limit with
  | none => exact hsorted
  | some n => exact hsorted.sublist (List.take_sublist n ordered)

/-- An answer keeps to its limit. -/
theorem length_le {n : Nat} (hn : limit = some n) : answer.length ≤ n := by
  obtain ⟨ordered, _, _, rfl⟩ := h
  rw [hn]
  exact List.length_take_le n ordered

/-- Where there was room for more, nothing is missing. -/
theorem complete (hroom : ∀ n, limit = some n → answer.length < n) {a : α} (ha : a ∈ rows) :
    a ∈ answer := by
  obtain ⟨ordered, hperm, _, rfl⟩ := h
  have hmem : a ∈ ordered := hperm.mem_iff.mpr ha
  cases limit with
  | none => exact hmem
  | some n =>
    have hlen : (ordered.take n).length < n := hroom n rfl
    rw [List.length_take] at hlen
    show a ∈ ordered.take n
    rw [List.take_of_length_le (by omega)]
    exact hmem

/-- What is missing has no better rank than what is there. -/
theorem best {a b : α} (ha : a ∈ answer) (hb : b ∈ rows) (hmiss : b ∉ answer) :
    rank a ≤ rank b := by
  obtain ⟨ordered, hperm, hsorted, rfl⟩ := h
  have hmem : b ∈ ordered := hperm.mem_iff.mpr hb
  cases limit with
  | none => exact absurd hmem hmiss
  | some n =>
    -- the one before the cut, the other behind it
    rw [← List.take_append_drop n ordered] at hsorted hmem
    obtain hfront | hback := List.mem_append.mp hmem
    · exact absurd hfront hmiss
    · exact (List.pairwise_append.mp hsorted).2.2 a ha b hback

end IsTop

end Query
