import DocumentRepository.Proofs.Query.Accepted

/-! # Faults of a filter

Arguments of the declared types make a filter, with two exceptions: a text may be no pattern, and
null, which may stand where any value may, is neither a list nor a pattern. The first term at fault
decides the error.
-/
namespace DocumentRepository

def ParamType.accepts : ParamType → Argument → Bool
  | .value type, .value v => v.fits type
  | .pattern, .pattern _ => true
  | .sort, .sort _ => true
  | .pagination, .pagination _ => true
  | .updateBatch, .update _ => true
  | _, _ => false

/-- The arguments of a call are of the types of a method's parameters, one by one. -/
def Method.Accepts (m : Method) (args : List Argument) : Prop :=
  List.Forall₂ (fun type arg => type.accepts arg) m.params args

namespace Term

variable {t : Term} {s : Site} {arg : Argument} {own : List Argument} {e : RepositoryError}

/-- How the filter of a term fails on an argument of a type that the term takes. -/
inductive Fault (t : Term) (s : Site) (arg : Option Argument) : RepositoryError → Prop where
  | pattern (source : String) (h : t.operator = .equalsIgnoreCase ∨ t.operator = .contains ∨ t.operator = .regex) :
      Fault t s arg (.invalidPattern s.method source)
  | list (h : t.operator = .in ∨ t.operator = .notIn) (hnull : arg = some (.value .null)) :
      Fault t s arg (.invalidArgument s.method s.index ("list of " ++ t.type.name) "null")
  | regex (h : t.operator = .regex) (hnull : arg = some (.value .null)) :
      Fault t s arg (.invalidRegexArgument s.method s.index "null")

/-- An argument is of a type that a term takes. -/
def Conforms (t : Term) (arg : Argument) : Prop := ∃ type, t.Takes type ∧ type.accepts arg

theorem Conforms.value (h : t.Conforms arg) (hop : t.operator ≠ .regex) : ∃ v, arg = .value v := by
  obtain ⟨type, htakes, haccepts⟩ := h
  have htype : ∃ valueType, type = .value valueType := by
    unfold Takes at htakes
    split at htakes
    · exact absurd ‹_› hop
    · exact ⟨_, htakes⟩
    · exact ⟨_, htakes⟩
    · rcases htakes with h | h
      · exact ⟨_, h⟩
      · exact ⟨_, h⟩
    · exact ⟨_, htakes⟩
  obtain ⟨valueType, rfl⟩ := htype
  cases arg with
  | value v => exact ⟨v, rfl⟩
  | _ => cases haccepts

theorem Conforms.list (h : t.Conforms arg) (hop : t.operator = .in ∨ t.operator = .notIn) :
    arg = .value .null ∨ ∃ vs, arg = .value (.list vs) := by
  obtain ⟨type, htakes, haccepts⟩ := h
  have htype : type = .value (.list t.type) := by
    rcases hop with hop | hop <;> simpa [Takes, hop] using htakes
  subst htype
  cases arg with
  | value v =>
    cases v with
    | null => exact Or.inl rfl
    | list vs => exact Or.inr ⟨vs, rfl⟩
    | _ => cases haccepts
  | _ => cases haccepts

theorem Conforms.pattern (h : t.Conforms arg) (hop : t.operator = .regex) :
    arg = .value .null ∨ (∃ p, arg = .pattern p) ∨ ∃ source, arg = .value (.text source) := by
  obtain ⟨type, htakes, haccepts⟩ := h
  have htype : type = .pattern ∨ type = .value .text := by simpa [Takes, hop] using htakes
  rcases htype with rfl | rfl
  · cases arg with
    | pattern p => exact Or.inr (Or.inl ⟨p, rfl⟩)
    | _ => cases haccepts
  · cases arg with
    | value v =>
      cases v with
      | null => exact Or.inl rfl
      | text source => exact Or.inr (Or.inr ⟨source, rfl⟩)
      | _ => cases haccepts
    | _ => cases haccepts

theorem readPattern_eq_error {caseless : Bool} {source : String} (h : readPattern s caseless source = .error e) :
    e = .invalidPattern s.method source := by
  unfold readPattern at h
  split at h <;> cases h
  rfl

theorem filterOfOne_eq_error (harg : t.Conforms arg) (h : t.filterOfOne s arg = .error e) : t.Fault s (some arg) e := by
  by_cases hregex : t.operator = .regex
  · simp only [filterOfOne, hregex] at h
    rcases bind_eq_error_iff.mp h with h | ⟨p, -, h⟩
    · rcases harg.pattern hregex with rfl | ⟨p, rfl⟩ | ⟨source, rfl⟩
      · cases h
        exact .regex hregex rfl
      · cases h
      · rw [readPattern_eq_error h]
        exact .pattern source (Or.inr (Or.inr hregex))
    · cases h
  · obtain ⟨v, rfl⟩ := harg.value hregex
    cases hop : t.operator <;> simp only [filterOfOne, hop] at h
    case regex => exact absurd hop hregex
    case equalsIgnoreCase =>
      rcases bind_eq_error_iff.mp h with h | ⟨w, -, h⟩
      · cases h
      · rcases bind_eq_error_iff.mp h with h | ⟨p, -, h⟩
        · rw [readPattern_eq_error h]
          exact .pattern _ (Or.inl hop)
        · cases h
    case contains =>
      rcases bind_eq_error_iff.mp h with h | ⟨w, -, h⟩
      · cases h
      · rcases bind_eq_error_iff.mp h with h | ⟨p, -, h⟩
        · rw [readPattern_eq_error h]
          exact .pattern _ (Or.inr (Or.inl hop))
        · cases h
    case «in» =>
      rcases harg.list (Or.inl hop) with hnull | ⟨vs, hvs⟩
      · cases hnull
        cases h
        exact .list (Or.inl hop) rfl
      · cases hvs
        cases h
    case notIn =>
      rcases harg.list (Or.inr hop) with hnull | ⟨vs, hvs⟩
      · cases hnull
        cases h
        exact .list (Or.inr hop) rfl
      · cases hvs
        cases h
    all_goals cases h

/-- The bounds of an interval are of the type of its field, and that is all the interval wants. -/
theorem filterOfTwo_ne_error {low high : Comparison} {a b : Argument} (hregex : t.operator ≠ .regex)
    (ha : t.Conforms a) (hb : t.Conforms b) : t.filterOfTwo s low high a b ≠ .error e := by
  obtain ⟨u, rfl⟩ := ha.value hregex
  obtain ⟨v, rfl⟩ := hb.value hregex
  intro h
  cases h

theorem filterOf_eq_error (hlen : own.length = t.operator.arity) (hown : ∀ arg ∈ own, t.Conforms arg)
    (h : t.filterOf s own = .error e) : t.Fault s own.head? e := by
  unfold filterOf at h
  split at h
  · cases h
  · rename_i a b hop
    exact absurd h (filterOfTwo_ne_error (by simp [hop]) (hown a (by simp)) (hown b (by simp)))
  · rename_i a b hop
    exact absurd h (filterOfTwo_ne_error (by simp [hop]) (hown a (by simp)) (hown b (by simp)))
  · exact filterOfOne_eq_error (hown _ (by simp)) h
  -- no operator wants another number of arguments
  · rename_i own _ _ hone hexists hbetween hbetweenEquals
    exfalso
    rcases own with _ | ⟨a, _ | ⟨b, _ | ⟨c, rest⟩⟩⟩
    · cases hop : t.operator <;> simp [hop, FilterOperator.arity] at hlen hexists
    · exact hone a rfl
    · cases hop : t.operator <;> simp [hop, FilterOperator.arity] at hlen hbetween hbetweenEquals
    · cases hop : t.operator <;> simp [hop, FilterOperator.arity] at hlen

/-- The terms whose filter cannot be made of null. -/
def RejectsNull (t : Term) : Prop := t.operator = .in ∨ t.operator = .notIn ∨ t.operator = .regex

theorem RejectsNull.arity_eq (h : t.RejectsNull) : t.operator.arity = 1 := by
  rcases h with hop | hop | hop <;> rw [hop] <;> rfl

theorem RejectsNull.filterOf_null (h : t.RejectsNull) (s : Site) :
    ∃ e, t.filterOf s [.value .null] = .error e ∧ ∀ method source, e ≠ .invalidPattern method source := by
  obtain ⟨field, type, operator, negated⟩ := t
  rcases h with hop | hop | hop <;> cases hop
  · exact ⟨_, rfl, fun _ _ => RepositoryError.noConfusion⟩
  · exact ⟨_, rfl, fun _ _ => RepositoryError.noConfusion⟩
  · exact ⟨_, rfl, fun _ _ => RepositoryError.noConfusion⟩

theorem getElem?_offset_eq {α : Type} {terms : List Term} {xs : List α} {x : α} {k : Nat} {hk : k < terms.length}
    (h : (ownPart terms xs k hk).head? = some x) : xs[offset terms k]? = some x := by
  unfold ownPart at h
  cases hd : xs.drop (offset terms k) with
  | nil => simp [hd] at h
  | cons y rest =>
    have hy : xs[offset terms k]? = some y := by rw [← List.head?_drop, hd, List.head?_cons]
    cases harity : terms[k].operator.arity with
    | zero => simp [harity] at h
    | succ n => simpa [hd, harity, hy] using h

theorem ownPart_eq_singleton {α : Type} {terms : List Term} {xs : List α} {x : α} {k : Nat} (hk : k < terms.length)
    (hone : terms[k].operator.arity = 1) (hx : xs[offset terms k]? = some x) : ownPart terms xs k hk = [x] := by
  obtain ⟨hlt, hx⟩ := List.getElem?_eq_some_iff.mp hx
  rw [ownPart, hone, List.drop_eq_getElem_cons hlt, hx]
  rfl

end Term

namespace MethodSpec.Accepted

variable {schema : Schema} {m : Method} {spec : MethodSpec} {args : List Argument} {e : RepositoryError} {k : Nat}

theorem arity_le (h : Accepted schema m spec) (hargs : m.Accepts args) :
    spec.chain.arity ≤ args.length := by
  have hlen := hargs.length_eq
  have hparams := h.length_eq
  unfold paramCount at hparams
  omega

theorem conforms (h : Accepted schema m spec) (hargs : m.Accepts args)
    (hk : k < spec.chain.terms.length) :
    ∀ arg ∈ Term.ownPart spec.chain.terms args k hk, spec.chain.terms[k].Conforms arg := by
  have hpart : List.Forall₂ (fun type arg => type.accepts arg) (Term.ownPart spec.chain.terms m.params k hk)
      (Term.ownPart spec.chain.terms args k hk) := List.forall₂_take _ (List.forall₂_drop _ hargs)
  intro arg harg
  obtain ⟨i, hi, rfl⟩ := List.getElem_of_mem harg
  have hi' : i < (Term.ownPart spec.chain.terms m.params k hk).length := hpart.length_eq ▸ hi
  exact ⟨_, h.takes k hk _ (List.getElem_mem hi'), hpart.get hi' hi⟩

theorem filter_eq_error (h : Accepted schema m spec) (hargs : m.Accepts args) (he : spec.filter args = .error e) :
    ∃ (k : Nat) (hk : k < spec.chain.terms.length),
      spec.chain.terms[k].Fault ⟨m.name, Term.offset spec.chain.terms k⟩ args[Term.offset spec.chain.terms k]? e := by
  unfold MethodSpec.filter at he
  rw [if_neg (Nat.not_lt.mpr (h.arity_le hargs))] at he
  rcases bind_eq_error_iff.mp he with he | ⟨fs, -, he⟩
  · obtain ⟨k, hk, he, -⟩ := termFilters_eq_error_iff.mp he
    refine ⟨k, hk, ?_⟩
    have hlen := Term.length_ownPart spec.chain (h.arity_le hargs) hk
    have hfault := Term.filterOf_eq_error hlen (h.conforms hargs hk) he
    simp only [Nat.zero_add, h.method_eq] at hfault
    cases hfault with
    | pattern source hop => exact .pattern source hop
    | list hop hnull => exact .list hop (Term.getElem?_offset_eq hnull)
    | regex hop hnull => exact .regex hop (Term.getElem?_offset_eq hnull)
  · cases he

/-- Null where no null can be meant makes the filter fail, and not by a pattern, unless a term before fails. -/
theorem filter_of_null (h : Accepted schema m spec) (hargs : m.Accepts args) (hk : k < spec.chain.terms.length)
    (hrejects : spec.chain.terms[k].RejectsNull) (hnull : args[Term.offset spec.chain.terms k]? = some (.value .null))
    (hbefore : ∀ (j : Nat) (hj : j < k), ∃ f, termFilter m.name 0 spec.chain.terms args j (Nat.lt_trans hj hk) = .ok f) :
    ∃ e, spec.filter args = .error e ∧ ∀ method source, e ≠ .invalidPattern method source := by
  obtain ⟨e, he, hpattern⟩ := hrejects.filterOf_null ⟨m.name, 0 + Term.offset spec.chain.terms k⟩
  refine ⟨e, ?_, hpattern⟩
  unfold MethodSpec.filter
  rw [if_neg (Nat.not_lt.mpr (h.arity_le hargs)), h.method_eq]
  refine bind_eq_error_iff.mpr (Or.inl (termFilters_eq_error_iff.mpr ⟨k, hk, ?_, hbefore⟩))
  rw [termFilter, Term.ownPart_eq_singleton hk hrejects.arity_eq hnull]
  exact he

end MethodSpec.Accepted

end DocumentRepository
