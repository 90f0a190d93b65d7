/-! # Coherent orders

The orders of three things two by two cohere if the things can stand in a row, ties side by side. Coherence is
transitivity for all turns of the three at once, and so it goes through an order that is told by several, the first that
tells two things apart deciding.
-/
namespace DocumentRepository

/-- Three orders, of a first thing with a second, of the second with a third and of the first with the third, are those
of places in one row. -/
def Coherent (ab bc ac : Ordering) : Prop :=
  match ab, bc with
  | .eq, o => ac = o
  | o, .eq => ac = o
  | .lt, .lt => ac = .lt
  | .gt, .gt => ac = .gt
  | _, _ => True

namespace Coherent

variable {ab bc ac ab' bc' ac' : Ordering}

/-- What ties in a first order may be told apart by a second one. -/
theorem andThen (h : Coherent ab bc ac) (h' : ab = .eq → bc = .eq → Coherent ab' bc' ac') :
    Coherent (ab.then ab') (bc.then bc') (ac.then ac') := by
  cases ab <;> cases bc <;> cases ac <;> cases h
  case eq.eq.eq => exact h' rfl rfl
  all_goals cases ab' <;> cases bc' <;> first | rfl | trivial

theorem swap (h : Coherent ab bc ac) : Coherent ab.swap bc.swap ac.swap := by
  cases ab <;> cases bc <;> simp_all [Coherent]

theorem isLE_trans (h : Coherent ab bc ac) (hab : ab.isLE) (hbc : bc.isLE) : ac.isLE := by
  cases ab <;> cases bc <;> simp_all [Coherent]

theorem of_compare {α : Type} [Ord α] [Std.TransOrd α] (a b c : α) :
    Coherent (compare a b) (compare b c) (compare a c) := by
  cases hab : compare a b with
  | eq => exact Std.TransCmp.congr_left hab
  | lt =>
    cases hbc : compare b c with
    | eq => exact (Std.TransCmp.congr_right hbc).symm.trans hab
    | lt => exact Std.TransCmp.lt_trans hab hbc
    | gt => trivial
  | gt =>
    cases hbc : compare b c with
    | eq => exact (Std.TransCmp.congr_right hbc).symm.trans hab
    | lt => trivial
    | gt => exact Std.TransCmp.gt_trans hab hbc

end Coherent

theorem eq_then_self {o o' : Ordering} (h : o' ≠ .eq → o = o') : o = o'.then o := by
  cases o' with
  | eq => rfl
  | lt => exact h (by simp)
  | gt => exact h (by simp)

end DocumentRepository
