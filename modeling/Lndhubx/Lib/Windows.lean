import Mathlib.Data.List.Basic
import Mathlib.Tactic.Common

/-!
# Fixed windows of a stamped sequence

A sequence of stamped items is cut into windows: the first item opens one, an item
stamped less than `interval` after the opening is in it, and the first one stamped
later opens the next. Stamps need not be sorted: one that lies before the opening
counts as no time passed. The cut depends on the stamps alone (`windows_map`).
-/

namespace Windows

variable {α β : Type}

/-- The window opened at `start` that holds `w` so far, and the ones after it. -/
def windowsFrom (interval : Nat) (stamp : α → Nat) (start : Nat) (w : List α) :
    List α → List (List α)
  | [] => [w]
  | a :: as =>
    if stamp a - start < interval then windowsFrom interval stamp start (w ++ [a]) as
    else w :: windowsFrom interval stamp (stamp a) [a] as

/-- The windows of a list, the first one opened by its first element. -/
def windows (interval : Nat) (stamp : α → Nat) : List α → List (List α)
  | [] => []
  | a :: as => windowsFrom interval stamp (stamp a) [a] as

/-- A stamp of the images groups the originals. -/
theorem windowsFrom_map (interval : Nat) (stamp : β → Nat) (f : α → β) (start : Nat)
    (w as : List α) :
    windowsFrom interval stamp start (w.map f) (as.map f) =
      (windowsFrom interval (fun a => stamp (f a)) start w as).map (List.map f) := by
  induction as generalizing start w with
  | nil => rfl
  | cons a as ih =>
    have hnext := ih start (w ++ [a])
    rw [List.map_append] at hnext
    rw [List.map_cons]
    unfold windowsFrom
    split
    · exact hnext
    · rw [List.map_cons]
      exact congrArg (w.map f :: ·) (ih (stamp (f a)) [a])

/-- The same from the first element on. -/
theorem windows_map (interval : Nat) (stamp : β → Nat) (f : α → β) (as : List α) :
    windows interval stamp (as.map f) =
      (windows interval (fun a => stamp (f a)) as).map (List.map f) := by
  cases as with
  | nil => rfl
  | cons a as => exact windowsFrom_map interval stamp f (stamp (f a)) [a] as

end Windows
