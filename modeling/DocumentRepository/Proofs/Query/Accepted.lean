import DocumentRepository.Proofs.Query.Slice

/-! # Accepted methods

The checks of a method fix how many parameters it has, which types the term of each parameter
takes, which directive stands at the end, and what its operation answers with.
-/
namespace DocumentRepository

def Operation.result (entity : String) : Operation → Cardinality → ReturnType
  | .find, .first => .entity entity
  | .find, .many => .entities entity
  | .page, .first => .entity entity
  | .page, .many => .entities entity
  | .count, _ => .integer
  | .delete, _ => .bool
  | .exists, _ => .bool
  | .updateFields, _ => .bool

def Trailing.paramType : Trailing → ParamType
  | .sort => .sort
  | .pagination => .pagination
  | .updateBatch => .updateBatch

/-- The parameter types that a term takes. -/
def Term.Takes (t : Term) (type : ParamType) : Prop :=
  match t.operator with
  | .regex => type = .pattern ∨ type = .value .text
  | .in => type = .value (.list t.type)
  | .notIn => type = .value (.list t.type)
  | .hasKey => type = .value .text ∨ type = .value .uuid
  | _ => type = .value t.type

/-- A parameter type fits a term: the term takes it, and keys are looked for in maps only. -/
def Term.Suits (t : Term) (type : ParamType) : Prop := t.Takes type ∧ (t.operator = .hasKey → t.type = .map)

namespace MethodSpec

variable {schema : Schema} {m : Method} {spec : MethodSpec} {operation : Operation} {p : OperationPrefix}
  {cardinality : Cardinality} {trailing : Option Trailing} {t : Term} {index arity : Nat} {type : ParamType}
  {types : List ParamType} {terms : List Term} {parsed : ParsedName}

structure Accepted (schema : Schema) (m : Method) (spec : MethodSpec) : Prop where
  method_eq : spec.method = m.name
  returns_eq : m.returns = spec.operation.result schema.entity spec.cardinality
  length_eq : m.params.length = spec.paramCount
  last_eq : ∀ directive, spec.trailing = some directive → m.params[spec.chain.arity]? = some directive.paramType
  updates_iff : spec.operation = .updateFields ↔ spec.trailing = some .updateBatch
  takes : ∀ (k : Nat) (hk : k < spec.chain.terms.length),
    ∀ type ∈ Term.ownPart spec.chain.terms m.params k hk, spec.chain.terms[k].Takes type

theorem checkReturn_eq_ok (h : checkReturn schema m p = .ok cardinality) :
    m.returns = p.operation.result schema.entity cardinality := by
  unfold checkReturn at h
  cases hop : p.operation <;> simp only [hop] at h
  case find =>
    split at h
    · split at h
      · cases h
      · cases h; assumption
    · split at h
      · split at h
        · cases h
        · cases h; assumption
      · cases h
  all_goals
    split at h
    · cases h; assumption
    · cases h

/-- The parameters of a method are those of its terms and, where there is one, its directive. -/
theorem checkCount_eq_ok (h : checkCount m operation arity = .ok trailing) :
    m.params.length = arity + (if trailing.isSome then 1 else 0) ∧
      (∀ directive, trailing = some directive → m.params[arity]? = some directive.paramType) ∧
      (operation = .updateFields ↔ trailing = some .updateBatch) := by
  unfold checkCount at h
  extract_lets last sorts expected at h
  have hgetLast : last = m.params.getLast? := rfl
  clear_value last
  split at h
  · cases h
  · rename_i hlength
    rw [not_not] at hlength
    have hlast : ∀ type, last = some type → expected = arity + 1 → m.params[arity]? = some type := by
      intro type htype hexpected
      rw [← htype, hgetLast, List.getLast?_eq_getElem?, hlength, hexpected, Nat.add_sub_cancel]
    split at h
    · rename_i required directive hrequired
      split at h
      · rename_i htype
        cases h
        have hexpected : expected = arity + 1 := by simp [expected, hrequired]
        refine ⟨hlength.trans hexpected, ?_, ?_⟩
        · rintro _ ⟨⟩
          refine hlast _ (htype.trans ?_) hexpected
          cases operation <;> cases hrequired <;> rfl
        · cases operation <;> cases hrequired <;> simp
      · cases h
    · rename_i hrequired
      have hfree : operation ≠ .updateFields := by rintro rfl; cases hrequired
      split at h
      · rename_i hsorts
        have hexpected : expected = arity + 1 := by simp [expected, hsorts]
        split at h
        · cases h
          refine ⟨hlength.trans hexpected, ?_, by simp [hfree]⟩
          rintro _ ⟨⟩
          exact hlast _ rfl hexpected
        · cases h
        · simp [sorts] at hsorts
      · rename_i hsorts
        cases h
        have hexpected : expected = arity := by simp [expected, hrequired, hsorts]
        exact ⟨hlength.trans hexpected, by simp, by simp [hfree]⟩

theorem checkParam_eq_ok_iff : checkParam m operation t index type = .ok () ↔ t.Suits type := by
  unfold checkParam Term.Suits Term.Takes
  cases htype : type.isDirective with
  | true =>
    -- no term takes a directive
    cases type <;> cases htype <;> cases hop : t.operator <;> simp
  | false =>
    simp only [Bool.false_eq_true, ↓reduceIte]
    cases hop : t.operator with
    | hasKey => by_cases hmap : t.type = .map <;> simp [hmap, or_iff_not_imp_left]
    | regex => simp [or_iff_not_imp_left]
    | _ => simp

theorem checkTerm_eq_ok_iff : checkTerm m operation t index types = .ok () ↔ ∀ type ∈ types, t.Suits type := by
  induction types generalizing index with
  | nil => simp [checkTerm]
  | cons type rest ih => rw [checkTerm, check_eq_ok_iff, checkParam_eq_ok_iff, ih, List.forall_mem_cons]

theorem checkTerms_eq_ok_iff : checkTerms m operation index terms types = .ok () ↔
    ∀ (k : Nat) (hk : k < terms.length), ∀ type ∈ Term.ownPart terms types k hk, terms[k].Suits type := by
  induction terms generalizing index types with
  | nil => exact ⟨fun _ k hk => absurd hk (Nat.not_lt_zero k), fun _ => rfl⟩
  | cons t rest ih =>
    rw [checkTerms, check_eq_ok_iff, checkTerm_eq_ok_iff, ih]
    constructor
    · rintro ⟨hfirst, hrest⟩ k hk
      cases k with
      | zero =>
        rw [Term.ownPart_cons_zero]
        exact hfirst
      | succ k =>
        rw [Term.ownPart_cons_succ (Nat.lt_of_succ_lt_succ hk)]
        exact hrest k (Nat.lt_of_succ_lt_succ hk)
    · intro h
      have hfirst := h 0 (Nat.succ_pos _)
      rw [Term.ownPart_cons_zero] at hfirst
      refine ⟨hfirst, fun k hk => ?_⟩
      have hlater := h (k + 1) (Nat.succ_lt_succ hk)
      rwa [Term.ownPart_cons_succ hk] at hlater

end MethodSpec

theorem MethodName.operation_eq_of_parse {schema : Schema} {name : String} {p : OperationPrefix} {rest : List Char}
    {parsed : ParsedName} (hp : splitOperation? name.toList = some (p, rest)) (h : parse schema name = .ok parsed) :
    parsed.operation = p.operation := by
  unfold parse at h
  rw [hp] at h
  dsimp only at h
  split at h
  · cases h
  · obtain ⟨terms, -, h⟩ := bind_eq_ok_iff.mp h
    cases h
    rfl

namespace MethodSpec

variable {schema : Schema} {m : Method} {spec : MethodSpec}

/-- All that a method goes through before it is accepted. -/
theorem compile_eq_ok (h : compile schema m = .ok spec) :
    ∃ p rest parsed, MethodName.splitOperation? m.effectiveName.toList = some (p, rest) ∧
      MethodName.parse schema m.effectiveName = .ok parsed ∧ spec.operation = p.operation ∧ spec.chain = parsed.chain ∧
      checkReturn schema m p = .ok spec.cardinality ∧ checkCount m spec.operation spec.chain.arity = .ok spec.trailing ∧
      checkTerms m spec.operation 0 spec.chain.terms m.params = .ok () ∧ checkSort schema m spec.trailing = .ok spec.sort ∧
      spec.method = m.name ∧ spec.limit = m.limit ∧ spec.skip = m.skip := by
  unfold compile at h
  dsimp only at h
  split at h
  · cases h
  · rename_i p rest hprefix
    obtain ⟨cardinality, hreturn, h⟩ := bind_eq_ok_iff.mp h
    obtain ⟨parsed, hparse, h⟩ := bind_eq_ok_iff.mp h
    obtain ⟨trailing, hcount, h⟩ := bind_eq_ok_iff.mp h
    obtain ⟨hterms, h⟩ := check_eq_ok_iff.mp h
    obtain ⟨sort, hsort, h⟩ := bind_eq_ok_iff.mp h
    cases h
    have hparsed := mapError_eq_ok_iff.mp hparse
    exact ⟨p, rest, parsed, hprefix, hparsed, MethodName.operation_eq_of_parse hprefix hparsed, rfl, hreturn, hcount,
      hterms, hsort, rfl, rfl, rfl⟩

theorem accepted_of_compile (h : compile schema m = .ok spec) : Accepted schema m spec := by
  obtain ⟨p, rest, parsed, -, -, hoperation, -, hreturn, hcount, hterms, -, hmethod, -, -⟩ := compile_eq_ok h
  obtain ⟨hlength, hlast, hupdates⟩ := checkCount_eq_ok hcount
  exact {
    method_eq := hmethod
    returns_eq := by rw [checkReturn_eq_ok hreturn, hoperation]
    length_eq := hlength
    last_eq := hlast
    updates_iff := hupdates
    takes := fun k hk type htype => (checkTerms_eq_ok_iff.mp hterms k hk type htype).1 }

theorem Accepted.offset_add_arity_le {k : Nat} (h : Accepted schema m spec) (hk : k < spec.chain.terms.length) :
    Term.offset spec.chain.terms k + spec.chain.terms[k].operator.arity ≤ m.params.length := by
  have := Term.offset_add_arity_le spec.chain hk
  have := h.length_eq
  simp only [paramCount] at this
  omega

end MethodSpec

end DocumentRepository
