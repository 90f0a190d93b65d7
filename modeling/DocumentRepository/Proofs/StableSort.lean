import DocumentRepository.Proofs.Coherent
import DocumentRepository.StableSort

/-! # What stable sorting gives

Where the order of the elements is coherent, the result holds the same elements, none before one that it is greater
than, and elements that tie stand as they stood. There is one such list only, so no other way of stable sorting gives
another.
-/
namespace DocumentRepository

variable {α : Type} {order : α → α → Ordering} {P : α → Prop} {a b d x : α} {xs ys zs sorted : List α}

structure Ranks (order : α → α → Ordering) (P : α → Prop) : Prop where
  swap : ∀ a b, order b a = (order a b).swap
  coherent : ∀ a b c, P a → P b → P c → Coherent (order a b) (order b c) (order a c)

/-- A list holds the elements of another in order, with ties as they stood. -/
structure IsStableSort (order : α → α → Ordering) (xs ys : List α) : Prop where
  perm : ys.Perm xs
  inOrder : ys.Pairwise fun a b => (order a b).isLE
  stable : ∀ d ∈ xs, (ys.filter fun x => order d x == .eq) = xs.filter fun x => order d x == .eq

namespace Ranks

theorem self (h : Ranks order P) (a : α) : order a a = .eq := by
  have hswap := h.swap a a
  cases ho : order a a <;> rw [ho] at hswap <;> first | rfl | cases hswap

theorem isLE_of_ne_lt (h : Ranks order P) (hab : order a b ≠ .lt) : (order b a).isLE := by
  rw [h.swap]
  cases ho : order a b <;> simp_all

theorem eq_of_isLE (h : Ranks order P) (hab : (order a b).isLE) (hba : (order b a).isLE) : order a b = .eq := by
  rw [h.swap] at hba
  cases ho : order a b <;> simp_all

/-- The list is kept with the greatest element first. -/
theorem pairwise_insertFromEnd (h : Ranks order P) (hx : P x) (hP : ∀ y ∈ sorted, P y)
    (hsorted : sorted.Pairwise fun a b => (order b a).isLE) :
    (insertFromEnd (fun a b => (order a b).isLT) x sorted).Pairwise fun a b => (order b a).isLE := by
  induction sorted with
  | nil => exact List.pairwise_singleton _ _
  | cons y rest ih =>
    obtain ⟨hy, hrest⟩ := List.pairwise_cons.mp hsorted
    obtain ⟨hPy, hPrest⟩ := List.forall_mem_cons.mp hP
    unfold insertFromEnd
    split
    case isTrue hless =>
      refine List.pairwise_cons.mpr ⟨fun z hz => ?_, ih hPrest hrest⟩
      rcases List.mem_cons.mp ((perm_insertFromEnd _ x rest).mem_iff.mp hz) with rfl | hz
      · rw [Ordering.isLT_iff_eq_lt.mp hless]
        rfl
      · exact hy z hz
    case isFalse hless =>
      have hyx : (order y x).isLE := h.isLE_of_ne_lt (by simpa using hless)
      refine List.pairwise_cons.mpr ⟨List.forall_mem_cons.mpr ⟨hyx, fun z hz => ?_⟩, hsorted⟩
      exact (h.coherent z y x (hPrest z hz) hPy hx).isLE_trans (hy z hz) hyx

/-- What is passed over is greater, and so it ties with nothing that the inserted element ties with. -/
theorem filter_insertFromEnd (h : Ranks order P) (hd : P d) (hx : P x) (hP : ∀ y ∈ sorted, P y) :
    ((insertFromEnd (fun a b => (order a b).isLT) x sorted).filter fun y => order d y == .eq) =
      (x :: sorted).filter fun y => order d y == .eq := by
  induction sorted with
  | nil => rfl
  | cons y rest ih =>
    obtain ⟨hPy, hPrest⟩ := List.forall_mem_cons.mp hP
    unfold insertFromEnd
    split
    case isTrue hless =>
      rw [List.filter_cons, ih hPrest]
      by_cases hdx : order d x = .eq
      · have hdy : order d y = .lt := by
          have hcoherent := h.coherent d x y hd hx hPy
          rw [hdx, Ordering.isLT_iff_eq_lt.mp hless] at hcoherent
          exact hcoherent
        simp [hdx, hdy]
      · simp [hdx, List.filter_cons]
    case isFalse => rfl

/-- The elements go in one by one, each as the last of those that tie with it so far. -/
theorem foldl_insertFromEnd (h : Ranks order P) (hxs : ∀ x ∈ xs, P x) (hP : ∀ y ∈ sorted, P y)
    (hsorted : sorted.Pairwise fun a b => (order b a).isLE) :
    let all := xs.foldl (fun sorted x => insertFromEnd (fun a b => (order a b).isLT) x sorted) sorted
    all.Pairwise (fun a b => (order b a).isLE) ∧
      ∀ d, P d → (all.filter fun y => order d y == .eq) = (xs.reverse ++ sorted).filter fun y => order d y == .eq := by
  induction xs generalizing sorted with
  | nil => exact ⟨hsorted, fun _ _ => rfl⟩
  | cons x rest ih =>
    obtain ⟨hx, hrest⟩ := List.forall_mem_cons.mp hxs
    have hP' : ∀ y ∈ insertFromEnd (fun a b => (order a b).isLT) x sorted, P y := by
      intro y hy
      exact List.forall_mem_cons.mpr ⟨hx, hP⟩ y ((perm_insertFromEnd _ x sorted).mem_iff.mp hy)
    obtain ⟨hall, hfilter⟩ := ih hrest hP' (h.pairwise_insertFromEnd hx hP hsorted)
    refine ⟨hall, fun d hd => (hfilter d hd).trans ?_⟩
    rw [List.filter_append, h.filter_insertFromEnd hd hx hP, ← List.filter_append, List.reverse_cons, List.append_assoc]
    rfl

theorem isStableSort (h : Ranks order P) (hxs : ∀ x ∈ xs, P x) :
    IsStableSort order xs (stableSort (fun a b => (order a b).isLT) xs) := by
  obtain ⟨hall, hfilter⟩ := h.foldl_insertFromEnd hxs (fun _ hy => absurd hy List.not_mem_nil) List.Pairwise.nil
  refine ⟨perm_stableSort _ xs, List.pairwise_reverse.mpr hall, fun d hd => ?_⟩
  rw [stableSort, List.filter_reverse, hfilter d (hxs d hd), List.append_nil, ← List.filter_reverse, List.reverse_reverse]

end Ranks

theorem eq_of_ties (h : Ranks order P) (hperm : ys.Perm zs) (hys : ys.Pairwise fun a b => (order a b).isLE)
    (hzs : zs.Pairwise fun a b => (order a b).isLE)
    (hties : ∀ d ∈ ys, (ys.filter fun x => order d x == .eq) = zs.filter fun x => order d x == .eq) : ys = zs := by
  induction ys generalizing zs with
  | nil => exact (List.nil_perm.mp hperm).symm
  | cons y ys ih =>
    cases zs with
    | nil => exact absurd hperm.length_eq (Nat.succ_ne_zero _)
    | cons z zs =>
      obtain ⟨hy, hysrest⟩ := List.pairwise_cons.mp hys
      obtain ⟨hz, hzsrest⟩ := List.pairwise_cons.mp hzs
      -- Each head is not above the other, so both are the first of those that tie with them.
      have hyz : (order y z).isLE := by
        rcases List.mem_cons.mp (hperm.mem_iff.mpr List.mem_cons_self) with rfl | hmem
        · simp [h.self]
        · exact hy z hmem
      have hzy : (order z y).isLE := by
        rcases List.mem_cons.mp (hperm.mem_iff.mp List.mem_cons_self) with rfl | hmem
        · simp [h.self]
        · exact hz y hmem
      have hsame := hties y List.mem_cons_self
      simp only [List.filter_cons, h.self, h.eq_of_isLE hyz hzy, beq_self_eq_true, if_true] at hsame
      obtain ⟨rfl, -⟩ := List.cons.inj hsame
      refine congrArg (y :: ·) (ih hperm.cons_inv hysrest hzsrest fun d hd => ?_)
      have hd := hties d (List.mem_cons_of_mem _ hd)
      simp only [List.filter_cons] at hd
      split at hd
      · exact List.cons_inj_right y |>.mp hd
      · exact hd

/-- There is one way to sort stably. -/
theorem IsStableSort.unique (h : Ranks order P) (hys : IsStableSort order xs ys) (hzs : IsStableSort order xs zs) :
    ys = zs := by
  refine eq_of_ties h (hys.perm.trans hzs.perm.symm) hys.inOrder hzs.inOrder fun d hd => ?_
  have hmem : d ∈ xs := hys.perm.mem_iff.mp hd
  rw [hys.stable d hmem, hzs.stable d hmem]

end DocumentRepository
