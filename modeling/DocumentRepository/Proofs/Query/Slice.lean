import DocumentRepository.Proofs.Bind
import DocumentRepository.Query.Compile

/-! # The arguments of each term

The terms of a chain share out the arguments of a call from left to right. The part of a term
starts where the parts of the terms before it end, and is as long as its operator wants. The
filters of a chain are those of its terms, each on its own part, and the first term that fails
decides the error.
-/
namespace DocumentRepository

namespace Term

variable {α : Type} {terms rest : List Term} {t : Term} {args : List α} {k : Nat}

/-- How many arguments the terms before the one with a number take. -/
def offset (terms : List Term) (k : Nat) : Nat := (terms.take k).foldr (fun t n => t.operator.arity + n) 0

def ownPart (terms : List Term) (args : List α) (k : Nat) (hk : k < terms.length) : List α :=
  (args.drop (offset terms k)).take terms[k].operator.arity

@[simp] theorem offset_zero (terms : List Term) : offset terms 0 = 0 := rfl

@[simp] theorem offset_cons_succ (t : Term) (rest : List Term) (k : Nat) :
    offset (t :: rest) (k + 1) = t.operator.arity + offset rest k := by
  simp [offset]

@[simp] theorem ownPart_cons_zero (t : Term) (rest : List Term) (args : List α) :
    ownPart (t :: rest) args 0 (Nat.succ_pos _) = args.take t.operator.arity := by
  simp [ownPart]

theorem ownPart_cons_succ (hk : k < rest.length) :
    ownPart (t :: rest) args (k + 1) (Nat.succ_lt_succ hk) = ownPart rest (args.drop t.operator.arity) k hk := by
  simp [ownPart]

theorem arity_eq_offset_length (c : Chain) : c.arity = offset c.terms c.terms.length := by
  rw [offset, List.take_length, Chain.arity]

/-- No part reaches beyond the arguments of all terms together. -/
theorem offset_add_arity_le (c : Chain) (hk : k < c.terms.length) :
    offset c.terms k + c.terms[k].operator.arity ≤ c.arity := by
  rw [arity_eq_offset_length]
  obtain ⟨combinator, terms⟩ := c
  dsimp only at hk ⊢
  induction terms generalizing k with
  | nil => exact absurd hk (Nat.not_lt_zero k)
  | cons t rest ih =>
    cases k with
    | zero => simp
    | succ k =>
      have := ih (Nat.lt_of_succ_lt_succ hk)
      simp only [offset_cons_succ, List.length_cons, List.getElem_cons_succ]
      omega

theorem length_ownPart (c : Chain) (hargs : c.arity ≤ args.length) (hk : k < c.terms.length) :
    (ownPart c.terms args k hk).length = c.terms[k].operator.arity := by
  have := offset_add_arity_le c hk
  simp only [ownPart, List.length_take, List.length_drop]
  omega

end Term

variable {method : String} {index : Nat} {terms : List Term} {args : List Argument} {fs : List Filter}

def termFilter (method : String) (index : Nat) (terms : List Term) (args : List Argument) (k : Nat)
    (hk : k < terms.length) : Except RepositoryError Filter :=
  terms[k].filterOf ⟨method, index + Term.offset terms k⟩ (Term.ownPart terms args k hk)

theorem termFilter_cons_succ {t : Term} {rest : List Term} {k : Nat} (hk : k < rest.length) :
    termFilter method index (t :: rest) args (k + 1) (Nat.succ_lt_succ hk) =
      termFilter method (index + t.operator.arity) rest (args.drop t.operator.arity) k hk := by
  simp only [termFilter, Term.ownPart_cons_succ hk, Term.offset_cons_succ, Nat.add_assoc, List.getElem_cons_succ]

/-- The filters of a chain are those of its terms, turned round where a term is negated. -/
theorem termFilters_eq_ok (h : termFilters method index terms args = .ok fs) :
    fs.length = terms.length ∧
      ∀ (k : Nat) (hk : k < terms.length) (hk' : k < fs.length),
        ∃ f, termFilter method index terms args k hk = .ok f ∧ fs[k] = f.negateIf terms[k].negated := by
  induction terms generalizing index args fs with
  | nil =>
    cases h
    exact ⟨rfl, fun k hk => absurd hk (Nat.not_lt_zero k)⟩
  | cons t rest ih =>
    obtain ⟨f, hf, h⟩ := bind_eq_ok_iff.mp h
    obtain ⟨gs, hgs, h⟩ := bind_eq_ok_iff.mp h
    cases h
    obtain ⟨hlen, hall⟩ := ih hgs
    refine ⟨by simp [hlen], ?_⟩
    intro k hk hk'
    cases k with
    | zero => exact ⟨f, by simpa [termFilter] using hf, rfl⟩
    | succ k =>
      rw [termFilter_cons_succ (Nat.lt_of_succ_lt_succ hk)]
      exact hall k (Nat.lt_of_succ_lt_succ hk) (Nat.lt_of_succ_lt_succ hk')

theorem termFilters_eq_error_iff {e : RepositoryError} :
    termFilters method index terms args = .error e ↔
      ∃ (k : Nat) (hk : k < terms.length), termFilter method index terms args k hk = .error e ∧
        ∀ (j : Nat) (hj : j < k), ∃ f, termFilter method index terms args j (Nat.lt_trans hj hk) = .ok f := by
  induction terms generalizing index args with
  | nil =>
    constructor
    · intro h; cases h
    · rintro ⟨k, hk, -⟩
      exact absurd hk (Nat.not_lt_zero k)
  | cons t rest ih =>
    have hzero : termFilter method index (t :: rest) args 0 (Nat.succ_pos _) =
        t.filterOf ⟨method, index⟩ (args.take t.operator.arity) := by simp [termFilter]
    rw [termFilters, bind_eq_error_iff, ← hzero]
    constructor
    · rintro (h | ⟨f, hf, h⟩)
      · exact ⟨0, Nat.succ_pos _, h, fun j hj => absurd hj (Nat.not_lt_zero j)⟩
      · rcases bind_eq_error_iff.mp h with h | ⟨gs, -, h⟩
        · obtain ⟨k, hk, he, hbefore⟩ := ih.mp h
          refine ⟨k + 1, Nat.succ_lt_succ hk, by rw [termFilter_cons_succ hk]; exact he, ?_⟩
          intro j hj
          cases j with
          | zero => exact ⟨f, hf⟩
          | succ j =>
            rw [termFilter_cons_succ]
            exact hbefore j (Nat.lt_of_succ_lt_succ hj)
        · cases h
    · rintro ⟨k, hk, he, hbefore⟩
      cases k with
      | zero => exact Or.inl he
      | succ k =>
        have hk' : k < rest.length := Nat.lt_of_succ_lt_succ hk
        obtain ⟨f, hf⟩ := hbefore 0 (Nat.succ_pos k)
        refine Or.inr ⟨f, hf, bind_eq_error_iff.mpr (Or.inl (ih.mpr ⟨k, hk', ?_, ?_⟩))⟩
        · rw [← termFilter_cons_succ hk']
          exact he
        · intro j hj
          rw [← termFilter_cons_succ (Nat.lt_trans hj hk')]
          exact hbefore (j + 1) (Nat.succ_lt_succ hj)

/-- The filter of a method with one term is that of the term, on all arguments. -/
theorem MethodSpec.filter_singleton {spec : MethodSpec} {t : Term} {own : List Argument} (hterms : spec.chain.terms = [t])
    (hlen : own.length = t.operator.arity) :
    spec.filter own = (t.filterOf ⟨spec.method, 0⟩ own).map (Filter.negateIf t.negated) := by
  have harity : spec.chain.arity = own.length := by rw [Chain.arity, hterms, hlen, List.foldr_cons, List.foldr_nil, Nat.add_zero]
  have htake : own.take t.operator.arity = own := by rw [← hlen, List.take_length]
  rw [filter, if_neg (by omega), hterms, termFilters, htake]
  cases t.filterOf ⟨spec.method, 0⟩ own <;> rfl

end DocumentRepository
