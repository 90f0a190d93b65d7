import DocumentRepository.Store.Access
import Mathlib.Data.List.Forall2

/-! # Computations in sequence

A sequence ends well if all of it does, and else with the first failure. An action carries the
store along, also past a failure.
-/
namespace DocumentRepository

theorem exists_of_forall₂ {α β : Type} {R : α → β → Prop} {xs : List α} {ys : List β} (h : List.Forall₂ R xs ys) {y : β}
    (hy : y ∈ ys) : ∃ x ∈ xs, R x y := by
  obtain ⟨i, hi, rfl⟩ := List.getElem_of_mem hy
  have hi' : i < xs.length := h.length_eq ▸ hi
  exact ⟨xs[i], List.getElem_mem hi', h.get hi' hi⟩

section Except

variable {ε α β : Type} {x : Except ε α} {f : α → Except ε β}

theorem bind_eq_ok_iff {b : β} : (x >>= f) = .ok b ↔ ∃ a, x = .ok a ∧ f a = .ok b := by
  cases x with
  | error e => simp [bind, Except.bind]
  | ok a => simp [bind, Except.bind]

theorem bind_eq_error_iff {e : ε} : (x >>= f) = .error e ↔ x = .error e ∨ ∃ a, x = .ok a ∧ f a = .error e := by
  cases x with
  | error e' => simp [bind, Except.bind]
  | ok a => simp [bind, Except.bind]

theorem check_eq_ok_iff {check : Except ε Unit} {y : Except ε β} {b : β} :
    (check >>= fun _ => y) = .ok b ↔ check = .ok () ∧ y = .ok b := by
  rw [bind_eq_ok_iff]
  exact ⟨fun ⟨_, hc, hy⟩ => ⟨hc, hy⟩, fun ⟨hc, hy⟩ => ⟨(), hc, hy⟩⟩

theorem check_eq_error_iff {check : Except ε Unit} {y : Except ε β} {e : ε} :
    (check >>= fun _ => y) = .error e ↔ check = .error e ∨ (check = .ok () ∧ y = .error e) := by
  rw [bind_eq_error_iff]
  exact or_congr_right ⟨fun ⟨_, hc, hy⟩ => ⟨hc, hy⟩, fun ⟨hc, hy⟩ => ⟨(), hc, hy⟩⟩

theorem mapError_eq_ok_iff {δ : Type} {g : ε → δ} {a : α} : x.mapError g = .ok a ↔ x = .ok a := by
  cases x with
  | error e => simp [Except.mapError]
  | ok a' => simp [Except.mapError]

theorem mapError_eq_error_iff {δ : Type} {g : ε → δ} {e : δ} : x.mapError g = .error e ↔ ∃ e', x = .error e' ∧ e = g e' := by
  cases x with
  | error e' => simp [Except.mapError, eq_comm]
  | ok a => simp [Except.mapError]

theorem map_eq_error_iff {g : α → β} {e : ε} : x.map g = .error e ↔ x = .error e := by
  cases x with
  | error e' => simp [Except.map]
  | ok a => simp [Except.map]

theorem mapError_bind {δ : Type} {g : ε → δ} (x : Except ε α) (f : α → Except ε β) :
    (x >>= f).mapError g = x.mapError g >>= fun a => (f a).mapError g := by
  cases x <;> rfl

theorem mapM_eq_ok_iff {g : α → Except ε β} {xs : List α} {ys : List β} :
    xs.mapM g = .ok ys ↔ List.Forall₂ (fun x y => g x = .ok y) xs ys := by
  induction xs generalizing ys with
  | nil => simp [pure, Except.pure, eq_comm]
  | cons x rest ih =>
    rw [List.mapM_cons, bind_eq_ok_iff]
    constructor
    · rintro ⟨y, hy, h⟩
      obtain ⟨zs, hzs, h⟩ := bind_eq_ok_iff.mp h
      cases h
      exact .cons hy (ih.mp hzs)
    · intro h
      cases h with
      | cons hy hrest => exact ⟨_, hy, bind_eq_ok_iff.mpr ⟨_, ih.mpr hrest, rfl⟩⟩

theorem exists_of_mem_mapM {g : α → Except ε β} {xs : List α} {ys : List β} (h : xs.mapM g = .ok ys) {y : β}
    (hy : y ∈ ys) : ∃ x ∈ xs, g x = .ok y := exists_of_forall₂ (mapM_eq_ok_iff.mp h) hy

/-- The first failure decides the error. -/
theorem mapM_eq_error_iff {g : α → Except ε β} {xs : List α} {e : ε} :
    xs.mapM g = .error e ↔
      ∃ before x after, xs = before ++ x :: after ∧ (∀ y ∈ before, ∃ b, g y = .ok b) ∧ g x = .error e := by
  induction xs with
  | nil => simp [pure, Except.pure]
  | cons x rest ih =>
    rw [List.mapM_cons, bind_eq_error_iff]
    constructor
    · rintro (h | ⟨b, hb, h⟩)
      · exact ⟨[], x, rest, rfl, by simp, h⟩
      · rcases bind_eq_error_iff.mp h with h | ⟨bs, -, h⟩
        · obtain ⟨before, y, after, rfl, hbefore, hy⟩ := ih.mp h
          exact ⟨x :: before, y, after, rfl, List.forall_mem_cons.mpr ⟨⟨b, hb⟩, hbefore⟩, hy⟩
        · cases h
    · rintro ⟨before, y, after, hsplit, hbefore, hy⟩
      cases before with
      | nil =>
        obtain ⟨rfl, rfl⟩ := List.cons.inj hsplit
        exact Or.inl hy
      | cons z before =>
        obtain ⟨rfl, rfl⟩ := List.cons.inj hsplit
        obtain ⟨⟨b, hb⟩, hbefore⟩ := List.forall_mem_cons.mp hbefore
        exact Or.inr ⟨b, hb, bind_eq_error_iff.mpr (Or.inl (ih.mpr ⟨before, y, after, rfl, hbefore, hy⟩))⟩

theorem mapM_eq_error {g : α → Except ε β} {xs : List α} {e : ε} (h : xs.mapM g = .error e) : ∃ x ∈ xs, g x = .error e := by
  obtain ⟨before, x, after, rfl, -, hx⟩ := mapM_eq_error_iff.mp h
  exact ⟨x, by simp, hx⟩

theorem exists_mapM_eq_ok_iff {g : α → Except ε β} {xs : List α} :
    (∃ ys, xs.mapM g = .ok ys) ↔ ∀ x ∈ xs, ∃ y, g x = .ok y := by
  constructor
  · rintro ⟨ys, h⟩ x hx
    have hflip : List.Forall₂ (fun y x => g x = .ok y) ys xs := (mapM_eq_ok_iff.mp h).flip
    obtain ⟨y, -, hy⟩ := exists_of_forall₂ hflip hx
    exact ⟨y, hy⟩
  · intro h
    cases hmap : xs.mapM g with
    | ok ys => exact ⟨ys, rfl⟩
    | error e =>
      obtain ⟨x, hx, herror⟩ := mapM_eq_error hmap
      obtain ⟨y, hy⟩ := h x hx
      cases herror.symm.trans hy

end Except

namespace Action

variable {σ ε δ α β : Type} {a : Action σ ε α} {f : α → Action σ ε β} {s s' : σ}

theorem bind_apply (a : Action σ ε α) (f : α → Action σ ε β) (s : σ) :
    (a >>= f) s = match a s with
      | (.ok x, t) => f x t
      | (.error e, t) => (.error e, t) := by
  simp only [bind, ExceptT.bind, ExceptT.mk, StateT.bind, ExceptT.bindCont]
  rcases a s with ⟨e | x, t⟩ <;> rfl

theorem bind_eq_ok_iff {b : β} : (a >>= f) s = (.ok b, s') ↔ ∃ x t, a s = (.ok x, t) ∧ f x t = (.ok b, s') := by
  rw [bind_apply]
  rcases a s with ⟨e | x, t⟩
  · constructor
    · intro h; cases h
    · rintro ⟨x, t', h, -⟩; cases h
  · constructor
    · exact fun h => ⟨x, t, rfl, h⟩
    · rintro ⟨x', t', h, hf⟩; cases h; exact hf

theorem bind_eq_error_iff {e : Failure ε} :
    (a >>= f) s = (.error e, s') ↔ a s = (.error e, s') ∨ ∃ x t, a s = (.ok x, t) ∧ f x t = (.error e, s') := by
  rw [bind_apply]
  rcases a s with ⟨e' | x, t⟩
  · constructor
    · intro h; cases h; exact Or.inl rfl
    · rintro (h | ⟨x, t', h, -⟩)
      · cases h; rfl
      · cases h
  · constructor
    · exact fun h => Or.inr ⟨x, t, rfl, h⟩
    · rintro (h | ⟨x', t', h, hf⟩)
      · cases h
      · cases h; exact hf

theorem ofExcept_eq_error_iff {x : Except ε α} {e : Failure ε} :
    (ofExcept x : Action σ ε α) s = (.error e, s') ↔ ∃ e', x = .error e' ∧ e = .error e' ∧ s' = s := by
  constructor
  · intro h
    cases x with
    | error e' => cases h; exact ⟨e', rfl, rfl, rfl⟩
    | ok z => cases h
  · rintro ⟨e', rfl, rfl, rfl⟩
    rfl

theorem ofExcept_eq_ok_iff {x : Except ε α} {y : α} :
    (ofExcept x : Action σ ε α) s = (.ok y, s') ↔ x = .ok y ∧ s' = s := by
  constructor
  · intro h
    cases x with
    | error e => cases h
    | ok z => cases h; exact ⟨rfl, rfl⟩
  · rintro ⟨rfl, rfl⟩
    rfl

/-- An action that only turns its answer into another ends as it does. -/
theorem map_eq_ok_iff {g : α → β} {b : β} :
    (a >>= fun x => pure (g x)) s = (.ok b, s') ↔ ∃ x, a s = (.ok x, s') ∧ b = g x := by
  rw [bind_eq_ok_iff]
  constructor
  · rintro ⟨x, t, ha, h⟩
    cases h
    exact ⟨x, ha, rfl⟩
  · rintro ⟨x, ha, rfl⟩
    exact ⟨x, s', ha, rfl⟩

theorem map_eq_error_iff {g : α → β} {e : Failure ε} :
    (a >>= fun x => pure (g x)) s = (.error e, s') ↔ a s = (.error e, s') := by
  rw [bind_eq_error_iff]
  constructor
  · rintro (ha | ⟨x, t, -, h⟩)
    · exact ha
    · cases h
  · exact Or.inl

theorem mapError_eq_error_iff {g : ε → δ} {e : Failure δ} :
    (mapError g a) s = (.error e, s') ↔ ∃ e', a s = (.error e', s') ∧ e = e'.map g := by
  unfold mapError
  rcases a s with ⟨e' | y, t⟩
  · constructor
    · intro h; cases h; exact ⟨e', rfl, rfl⟩
    · rintro ⟨e'', h, rfl⟩; cases h; rfl
  · constructor
    · intro h; cases h
    · rintro ⟨e'', h, -⟩; cases h

variable {good : α → Prop} {good' : β → Prop} {bad : ε → Prop}

/-- Whatever the store does, the action answers with something good, or it fails with something bad or by a panic. -/
structure Ends (good : α → Prop) (bad : ε → Prop) (a : Action σ ε α) : Prop where
  ok : ∀ s t x, a s = (.ok x, t) → good x
  error : ∀ s t e, a s = (.error (.error e), t) → bad e

theorem ends_pure {x : α} (h : good x) : (pure x : Action σ ε α).Ends good bad where
  ok s t y hrun := by cases hrun; exact h
  error s t e hrun := by cases hrun

theorem Ends.bind (ha : a.Ends good bad) (hf : ∀ x, good x → (f x).Ends good' bad) : (a >>= f).Ends good' bad where
  ok s t y hrun := by
    obtain ⟨x, u, hfirst, hrest⟩ := bind_eq_ok_iff.mp hrun
    exact (hf x (ha.ok _ _ _ hfirst)).ok _ _ _ hrest
  error s t e hrun := by
    rcases bind_eq_error_iff.mp hrun with hfirst | ⟨x, u, hfirst, hrest⟩
    · exact ha.error _ _ _ hfirst
    · exact (hf x (ha.ok _ _ _ hfirst)).error _ _ _ hrest

theorem ends_ofExcept {x : Except ε α} (herror : ∀ e, x = .error e → bad e) :
    (ofExcept x : Action σ ε α).Ends (fun _ => True) bad where
  ok _ _ _ _ := trivial
  error s t e hrun := by
    obtain ⟨e', hx, he, -⟩ := ofExcept_eq_error_iff.mp hrun
    cases he
    exact herror e hx

end Action

end DocumentRepository
