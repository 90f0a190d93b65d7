/-! # Stable sorting

Elements are inserted one after another, each behind the last one that it is not less than. The
order need not be total: each element is compared from the greatest end on until one stops it. -/
namespace DocumentRepository

variable {α : Type}

/-- Inserts into a list whose greatest element comes first. -/
def insertFromEnd (less : α → α → Bool) (x : α) : List α → List α
  | [] => [x]
  | y :: rest => if less x y then y :: insertFromEnd less x rest else x :: y :: rest

/-- The elements in order, ties as they stood. -/
def stableSort (less : α → α → Bool) (xs : List α) : List α :=
  (xs.foldl (fun sorted x => insertFromEnd less x sorted) []).reverse

theorem perm_insertFromEnd (less : α → α → Bool) (x : α) (ys : List α) :
    (insertFromEnd less x ys).Perm (x :: ys) := by
  induction ys with
  | nil => exact List.Perm.refl _
  | cons y rest ih =>
    unfold insertFromEnd
    split
    · exact (ih.cons y).trans (List.Perm.swap x y rest)
    · exact List.Perm.refl _

theorem perm_stableSort (less : α → α → Bool) (xs : List α) : (stableSort less xs).Perm xs := by
  have general : ∀ (xs sorted : List α),
      (xs.foldl (fun sorted x => insertFromEnd less x sorted) sorted).Perm (sorted ++ xs) := by
    intro xs
    induction xs with
    | nil => intro sorted; simp
    | cons x rest ih =>
      intro sorted
      refine (ih _).trans ?_
      refine ((perm_insertFromEnd less x sorted).append_right rest).trans ?_
      exact List.perm_middle.symm
  exact (List.reverse_perm _).trans (by simpa using general xs [])

theorem stableSort_of_never_less {less : α → α → Bool} (h : ∀ x y, less x y = false) (xs : List α) :
    stableSort less xs = xs := by
  have general : ∀ (xs sorted : List α),
      xs.foldl (fun sorted x => insertFromEnd less x sorted) sorted = xs.reverse ++ sorted := by
    intro xs
    induction xs with
    | nil => intro sorted; simp
    | cons x rest ih =>
      intro sorted
      have hfirst : insertFromEnd less x sorted = x :: sorted := by cases sorted <;> simp [insertFromEnd, h]
      simp [hfirst, ih]
  rw [stableSort, general, List.append_nil, List.reverse_reverse]

end DocumentRepository
