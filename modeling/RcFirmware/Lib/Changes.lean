import Mathlib.Data.List.Destutter

/-!
# The changes of a sequence

The elements of a sequence that differ from the one before them, where a value given from outside
stands before the first. Kept behind that value they are the sequence with its repetitions run
together, so no change follows itself, and the last change is where the sequence stands.
-/

namespace Changes

variable {α : Type*} [DecidableEq α]

def changes (before : α) : List α → List α
  | [] => []
  | a :: l => if a ≠ before then a :: changes a l else changes a l

@[simp]
theorem changes_nil (before : α) : changes before [] = [] := rfl

theorem changes_cons_of_ne {before a : α} (hne : a ≠ before) (l : List α) :
    changes before (a :: l) = a :: changes a l :=
  if_pos hne

@[simp]
theorem changes_cons_self (before : α) (l : List α) :
    changes before (before :: l) = changes before l :=
  if_neg (not_not.mpr rfl)

theorem cons_changes_eq_destutter (before : α) (l : List α) :
    before :: changes before l = l.destutter' (· ≠ ·) before := by
  induction l generalizing before with
  | nil => simp
  | cons a l ih =>
      by_cases hsame : a = before
      · rw [hsame, changes_cons_self, List.destutter'_cons_neg _ (not_not.mpr rfl), ih]
      · rw [changes_cons_of_ne hsame, List.destutter'_cons_pos _ (Ne.symm hsame), ih]

/-- No change follows itself, nor does the first follow the value before. -/
theorem isChain_cons_changes (before : α) (l : List α) :
    (before :: changes before l).IsChain (· ≠ ·) := by
  rw [cons_changes_eq_destutter]
  exact List.isChain_destutter' _ l before

theorem changes_sublist (before : α) (l : List α) : (changes before l).Sublist l := by
  have hsublist := List.destutter'_sublist (· ≠ ·) (l := l) before
  rw [← cons_changes_eq_destutter] at hsublist
  exact List.cons_sublist_cons.mp hsublist

theorem getLastD_changes (before : α) (l : List α) :
    (changes before l).getLastD before = l.getLastD before := by
  induction l generalizing before with
  | nil => rfl
  | cons a l ih =>
      rw [List.getLastD_cons]
      by_cases hsame : a = before
      · rw [hsame, changes_cons_self, ih]
      · rw [changes_cons_of_ne hsame, List.getLastD_cons, ih]

end Changes
