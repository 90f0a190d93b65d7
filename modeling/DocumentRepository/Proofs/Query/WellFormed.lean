import DocumentRepository.Proofs.MethodName.Grammar
import DocumentRepository.Proofs.Query.Accepted
import DocumentRepository.Proofs.Query.Meaning

/-! # Well-formed methods

Which methods are accepted can be said without the order of the checks: the prefix of the name allows the result, the
rest of it reads as a chain, the parameters are those of the chain's terms with the directives that the prefix allows
behind them, and the sort annotations name fields and stand alone. A method is accepted just if it is well-formed, and
its specification is then made of what its name and its annotations say.
-/
namespace DocumentRepository

def resultsByPrefix (entity : String) : List (String × ReturnType) :=
  [("findFirstBy", .entity entity), ("findBy", .entity entity), ("findManyBy", .entities entity),
    ("findBy", .entities entity), ("pageBy", .entities entity), ("countBy", .integer), ("deleteBy", .bool),
    ("existsBy", .bool), ("updateFieldsBy", .bool)]

def directivesByPrefix : List (String × List ParamType) :=
  [("findFirstBy", []), ("findFirstBy", [.sort]), ("findManyBy", []), ("findManyBy", [.sort]), ("findBy", []),
    ("findBy", [.sort]), ("pageBy", [.pagination]), ("countBy", []), ("deleteBy", []), ("existsBy", []),
    ("updateFieldsBy", [.updateBatch])]

/-- A sort key is that of an annotation, on the stored name of the annotated field. -/
def Schema.Stores (schema : Schema) (key stored : SortKey) : Prop :=
  ∃ f, schema.field? key.field = some f ∧ stored = ⟨f.name, key.ascending⟩

/-- A method whose name starts with `start` and reads as `parsed`, with these parameters for the filter and these
directives behind them. -/
structure Method.WellFormed (schema : Schema) (m : Method) (start : String) (parsed : ParsedName)
    (filters directives : List ParamType) : Prop where
  starts : start.toList <+: m.effectiveName.toList
  result : (start, m.returns) ∈ resultsByPrefix schema.entity
  parses : MethodName.parse schema m.effectiveName = .ok parsed
  params_eq : m.params = filters ++ directives
  length_eq : filters.length = parsed.chain.arity
  suits : ∀ (k : Nat) (hk : k < parsed.chain.terms.length),
    ∀ type ∈ Term.ownPart parsed.chain.terms filters k hk, parsed.chain.terms[k].Suits type
  directive : (start, directives) ∈ directivesByPrefix
  sorts : ∀ key ∈ m.sortBy, ∃ f, schema.field? key.field = some f
  unmixed : .sort ∈ directives ∨ .pagination ∈ directives → m.sortBy = [] ∧ m.limit = none ∧ m.skip = none

def Operation.directives : Operation → List (Option Trailing)
  | .find => [none, some .sort]
  | .page => [some .pagination]
  | .updateFields => [some .updateBatch]
  | _ => [none]

namespace Term

variable {α : Type} {t : Term} {type : ParamType} {chain : Chain}

theorem Takes.isDirective_eq_false (h : t.Takes type) : type.isDirective = false := by
  unfold Takes at h
  split at h
  · rcases h with rfl | rfl <;> rfl
  · subst h; rfl
  · subst h; rfl
  · rcases h with rfl | rfl <;> rfl
  · subst h; rfl

/-- The parts of the terms leave out none of the arguments that the terms take together. -/
theorem exists_mem_ownPart {terms : List Term} {xs : List α} {x : α} (hx : x ∈ xs.take (offset terms terms.length)) :
    ∃ (k : Nat) (hk : k < terms.length), x ∈ ownPart terms xs k hk := by
  induction terms generalizing xs with
  | nil => exact absurd hx List.not_mem_nil
  | cons t rest ih =>
    rw [List.length_cons, offset_cons_succ, List.take_add, List.mem_append] at hx
    rcases hx with hfirst | hlater
    · exact ⟨0, Nat.succ_pos _, by rwa [ownPart_cons_zero]⟩
    · obtain ⟨k, hk, hown⟩ := ih hlater
      exact ⟨k + 1, Nat.succ_lt_succ hk, by rwa [ownPart_cons_succ hk]⟩

/-- What stands behind the arguments of all terms belongs to none of them. -/
theorem ownPart_append {xs : List α} (hxs : chain.arity ≤ xs.length) (ys : List α) {k : Nat} (hk : k < chain.terms.length) :
    ownPart chain.terms (xs ++ ys) k hk = ownPart chain.terms xs k hk := by
  have := offset_add_arity_le chain hk
  rw [ownPart, ownPart, List.drop_append_of_le_length (by omega), List.take_append_of_le_length]
  rw [List.length_drop]
  omega

end Term

namespace MethodSpec

variable {schema : Schema} {m : Method} {spec : MethodSpec} {p : OperationPrefix} {operation : Operation} {arity : Nat}
  {trailing : Option Trailing} {filters : List ParamType} {parsed : ParsedName} {keys : List SortKey}

theorem checkReturn_eq_ok_iff (hp : p ∈ operationPrefixes) :
    (∃ cardinality, checkReturn schema m p = .ok cardinality) ↔ (p.text, m.returns) ∈ resultsByPrefix schema.entity := by
  simp only [operationPrefixes, List.mem_cons, List.not_mem_nil, or_false] at hp
  rcases hp with rfl | rfl | rfl | rfl | rfl | rfl | rfl | rfl
  all_goals
    by_cases hone : m.returns = .entity schema.entity
    · simp [checkReturn, resultsByPrefix, hone]
    · by_cases hlist : m.returns = .entities schema.entity
      · simp [checkReturn, resultsByPrefix, hlist]
      · by_cases hplain : m.returns = .integer ∨ m.returns = .bool
        · rcases hplain with h | h <;> simp [checkReturn, resultsByPrefix, h]
        · rw [not_or] at hplain
          simp [checkReturn, resultsByPrefix, hone, hlist, hplain]

theorem directivesByPrefix_iff (hp : p ∈ operationPrefixes) {directives : List ParamType} :
    (p.text, directives) ∈ directivesByPrefix ↔
      ∃ trailing ∈ p.operation.directives, directives = (trailing.map Trailing.paramType).toList := by
  simp only [operationPrefixes, List.mem_cons, List.not_mem_nil, or_false] at hp
  rcases hp with rfl | rfl | rfl | rfl | rfl | rfl | rfl | rfl
  all_goals simp [directivesByPrefix, Operation.directives, Trailing.paramType]

theorem mem_directives_of_checkCount (h : checkCount m operation arity = .ok trailing) :
    trailing ∈ operation.directives := by
  unfold checkCount at h
  extract_lets last sorts expected at h
  clear_value last
  split at h
  · cases h
  · split at h
    · rename_i directive required hrequired
      split at h
      · cases h
        cases operation <;> cases hrequired <;> simp [Operation.directives]
      · cases h
    · rename_i hrequired
      split at h
      · rename_i hsorts
        have hfind : operation = .find := hsorts.1
        subst hfind
        split at h
        · cases h
          simp [Operation.directives]
        · cases h
        · cases h
          simp [Operation.directives]
      · cases h
        cases operation <;> cases hrequired <;> simp [Operation.directives]

/-- What stands behind the parameters of the filter is the directive. -/
theorem drop_params_of_checkCount (h : checkCount m operation arity = .ok trailing) :
    m.params.drop arity = (trailing.map Trailing.paramType).toList := by
  obtain ⟨hlength, hlast, -⟩ := checkCount_eq_ok h
  cases trailing with
  | none => simp [hlength]
  | some directive =>
    obtain ⟨hlt, hget⟩ := List.getElem?_eq_some_iff.mp (hlast directive rfl)
    have hend : m.params.length = arity + 1 := by simpa using hlength
    rw [List.drop_eq_getElem_cons hlt, hget, List.drop_of_length_le (by omega)]
    rfl

/-- The parameters of a filter hold no directive, so the last parameter is one just if a directive stands behind them. -/
theorem checkCount_of_mem_directives (hfilters : ∀ type ∈ filters, type.isDirective = false)
    (hparams : m.params = filters ++ (trailing.map Trailing.paramType).toList)
    (hmem : trailing ∈ operation.directives) : checkCount m operation filters.length = .ok trailing := by
  cases trailing with
  | none =>
    have hlast : (m.params.getLast?.map ParamType.isDirective).getD false = false := by
      rw [hparams, Option.map_none, Option.toList_none, List.append_nil]
      cases hend : filters.getLast? with
      | none => rfl
      | some type => exact hfilters type (List.mem_of_getLast? hend)
    have hlength : m.params.length = filters.length := by simp [hparams]
    have hrequired : requiredDirective operation = none := by
      cases operation <;> simp [Operation.directives, requiredDirective] at hmem ⊢
    simp [checkCount, hrequired, hlast, hlength]
  | some directive =>
    have hlast : m.params.getLast? = some directive.paramType := by simp [hparams]
    have hlength : m.params.length = filters.length + 1 := by simp [hparams]
    cases operation <;> cases directive <;> simp [Operation.directives] at hmem <;>
      simp [checkCount, requiredDirective, hlast, hlength, Trailing.paramType, ParamType.isDirective]

def storedKey (schema : Schema) (m : Method) (key : SortKey) : Except ValidationError SortKey :=
  match schema.field? key.field with
  | some f => .ok ⟨f.name, key.ascending⟩
  | none => .error (.sortField m.name key.field)

theorem storedKey_eq_ok_iff {key stored : SortKey} : storedKey schema m key = .ok stored ↔ schema.Stores key stored := by
  unfold storedKey Schema.Stores
  cases schema.field? key.field <;> simp [eq_comm]

theorem checkSort_eq_ok_iff : checkSort schema m trailing = .ok keys ↔
    (trailing = some .sort ∨ trailing = some .pagination → m.sortBy = [] ∧ m.limit = none ∧ m.skip = none) ∧
      List.Forall₂ schema.Stores m.sortBy keys := by
  have hplain : m.hasSortAnnotations = false ↔ m.sortBy = [] ∧ m.limit = none ∧ m.skip = none := by
    simp [Method.hasSortAnnotations, and_assoc]
  have hkeys : m.sortBy.mapM (storedKey schema m) = .ok keys ↔ List.Forall₂ schema.Stores m.sortBy keys := by
    simp only [mapM_eq_ok_iff, storedKey_eq_ok_iff]
  have hcheck : checkSort schema m trailing =
      if (trailing = some .sort ∨ trailing = some .pagination) ∧ m.hasSortAnnotations then .error (.mixedSort m.name)
      else m.sortBy.mapM (storedKey schema m) := rfl
  rw [hcheck, ← hplain, ← hkeys]
  by_cases hdynamic : trailing = some .sort ∨ trailing = some .pagination
  · cases hannotated : m.hasSortAnnotations <;> simp [hdynamic]
  · simp [hdynamic]

theorem compile_eq_ok_of_checks {p : OperationPrefix} {rest : List Char} {cardinality : Cardinality} {name : String}
    (hname : m.effectiveName = name) (hsplit : MethodName.splitOperation? name.toList = some (p, rest))
    (hreturn : checkReturn schema m p = .ok cardinality) (hparse : MethodName.parse schema name = .ok parsed)
    (hcount : checkCount m parsed.operation parsed.chain.arity = .ok trailing)
    (hterms : checkTerms m parsed.operation 0 parsed.chain.terms m.params = .ok ())
    (hsort : checkSort schema m trailing = .ok keys) :
    compile schema m = .ok {
      method := m.name, effective := name, operation := parsed.operation, cardinality, chain := parsed.chain,
      sort := keys, limit := m.limit, skip := m.skip, trailing, asynchronous := m.asynchronous } := by
  simp only [compile, hname, hsplit]
  refine bind_eq_ok_iff.mpr ⟨_, hreturn, bind_eq_ok_iff.mpr ⟨_, mapError_eq_ok_iff.mpr hparse, ?_⟩⟩
  exact bind_eq_ok_iff.mpr ⟨_, hcount, check_eq_ok_iff.mpr ⟨hterms, bind_eq_ok_iff.mpr ⟨_, hsort, rfl⟩⟩⟩

/-- The checks of a method find it well-formed. -/
theorem wellFormed_of_compile (h : compile schema m = .ok spec) :
    ∃ start parsed filters directives, m.WellFormed schema start parsed filters directives ∧ spec.chain = parsed.chain ∧
      List.Forall₂ schema.Stores m.sortBy spec.sort := by
  obtain ⟨p, rest, parsed, hsplit, hparse, hoperation, hchain, hreturn, hcount, hterms, hsort, -⟩ := compile_eq_ok h
  obtain ⟨hp, hname⟩ := MethodName.splitOperation?_eq_some_iff.mp hsplit
  rw [hchain] at hcount hterms
  obtain ⟨hlength, -, -⟩ := checkCount_eq_ok hcount
  obtain ⟨hplain, hkeys⟩ := checkSort_eq_ok_iff.mp hsort
  have hmem := mem_directives_of_checkCount hcount
  have hdrop := drop_params_of_checkCount hcount
  have hle : parsed.chain.arity ≤ m.params.length := by omega
  have hsplitParams := (List.take_append_drop parsed.chain.arity m.params).symm
  have harity : (m.params.take parsed.chain.arity).length = parsed.chain.arity := by rw [List.length_take]; omega
  refine ⟨p.text, parsed, m.params.take parsed.chain.arity, m.params.drop parsed.chain.arity, ?_, hchain, hkeys⟩
  exact {
    starts := ⟨rest, hname.symm⟩
    result := (checkReturn_eq_ok_iff hp).mp ⟨_, hreturn⟩
    parses := hparse
    params_eq := hsplitParams
    length_eq := harity
    suits := by
      intro k hk type htype
      refine checkTerms_eq_ok_iff.mp hterms k hk type ?_
      rw [hsplitParams, Term.ownPart_append harity.ge]
      exact htype
    directive := (directivesByPrefix_iff hp).mpr ⟨spec.trailing, hoperation ▸ hmem, hdrop⟩
    sorts := by
      intro key hkey
      obtain ⟨i, hi, rfl⟩ := List.getElem_of_mem hkey
      obtain ⟨f, hf, -⟩ := hkeys.get hi (hkeys.length_eq ▸ hi)
      exact ⟨f, hf⟩
    unmixed := by
      intro hdynamic
      refine hplain ?_
      rw [hdrop] at hdynamic
      cases htrailing : spec.trailing with
      | none => simp [htrailing] at hdynamic
      | some directive => cases directive <;> simp [htrailing, Trailing.paramType] at hdynamic ⊢ }

end MethodSpec

namespace Method.WellFormed

variable {schema : Schema} {m : Method} {start : String} {parsed : ParsedName} {filters directives : List ParamType}

theorem exists_prefix (h : m.WellFormed schema start parsed filters directives) :
    ∃ p ∈ operationPrefixes, p.text = start := by
  have hall : ∀ row ∈ resultsByPrefix schema.entity, ∃ p ∈ operationPrefixes, p.text = row.1 := by
    simp [resultsByPrefix, operationPrefixes]
  exact hall _ h.result

theorem isDirective_filters (h : m.WellFormed schema start parsed filters directives) :
    ∀ type ∈ filters, type.isDirective = false := by
  intro type htype
  rw [← List.take_length (l := filters), h.length_eq, Term.arity_eq_offset_length] at htype
  obtain ⟨k, hk, hown⟩ := Term.exists_mem_ownPart htype
  exact (h.suits k hk type hown).1.isDirective_eq_false

/-- A method that is well-formed passes all checks. -/
theorem compile (h : m.WellFormed schema start parsed filters directives) :
    ∃ spec, MethodSpec.compile schema m = .ok spec := by
  obtain ⟨p, hp, rfl⟩ := h.exists_prefix
  obtain ⟨rest, hname⟩ := h.starts
  obtain ⟨cardinality, hreturn⟩ := (MethodSpec.checkReturn_eq_ok_iff hp).mpr h.result
  obtain ⟨trailing, hmem, hdirectives⟩ := (MethodSpec.directivesByPrefix_iff hp).mp h.directive
  choose! f hf using h.sorts
  have hsplit : MethodName.splitOperation? m.effectiveName.toList = some (p, rest) :=
    MethodName.splitOperation?_eq_some_iff.mpr ⟨hp, hname.symm⟩
  have hoperation : parsed.operation = p.operation := MethodName.operation_eq_of_parse hsplit h.parses
  have hcount : MethodSpec.checkCount m parsed.operation parsed.chain.arity = .ok trailing := by
    rw [← h.length_eq, hoperation]
    exact MethodSpec.checkCount_of_mem_directives h.isDirective_filters (hdirectives ▸ h.params_eq) hmem
  have hterms : MethodSpec.checkTerms m parsed.operation 0 parsed.chain.terms m.params = .ok () := by
    refine MethodSpec.checkTerms_eq_ok_iff.mpr fun k hk => ?_
    rw [h.params_eq, Term.ownPart_append h.length_eq.ge]
    exact h.suits k hk
  have hsort : MethodSpec.checkSort schema m trailing = .ok (m.sortBy.map fun key => ⟨(f key).name, key.ascending⟩) := by
    refine MethodSpec.checkSort_eq_ok_iff.mpr ⟨fun hdynamic => h.unmixed ?_, ?_⟩
    · rcases hdynamic with rfl | rfl <;> simp [hdirectives, Trailing.paramType]
    · exact List.forall₂_map_right_iff.mpr (List.forall₂_same.mpr fun key hkey => ⟨f key, hf key hkey, rfl⟩)
  exact ⟨_, MethodSpec.compile_eq_ok_of_checks rfl hsplit hreturn h.parses hcount hterms hsort⟩

end Method.WellFormed

namespace MethodSpec

/-- A method is accepted just if it is well-formed. Its specification then has the chain that its name reads as, takes
as many arguments as the method has parameters, and sorts by the stored names of the annotated fields. -/
theorem accepted_iff_wellFormed (schema : Schema) (m : Method) :
    ((∃ spec, compile schema m = .ok spec) ↔
        ∃ start parsed filters directives, m.WellFormed schema start parsed filters directives) ∧
      ∀ spec, compile schema m = .ok spec →
        (∃ parsed, MethodName.parse schema m.effectiveName = .ok parsed ∧ spec.chain = parsed.chain) ∧
          spec.paramCount = m.params.length ∧ List.Forall₂ schema.Stores m.sortBy spec.sort ∧
          spec.method = m.name ∧ spec.limit = m.limit ∧ spec.skip = m.skip := by
  refine ⟨⟨?_, ?_⟩, ?_⟩
  · rintro ⟨spec, h⟩
    obtain ⟨start, parsed, filters, directives, hwell, -⟩ := wellFormed_of_compile h
    exact ⟨start, parsed, filters, directives, hwell⟩
  · rintro ⟨start, parsed, filters, directives, hwell⟩
    exact hwell.compile
  · intro spec h
    obtain ⟨start, parsed, filters, directives, hwell, hchain, hkeys⟩ := wellFormed_of_compile h
    obtain ⟨-, -, -, -, -, -, -, -, -, -, -, hmethod, hlimit, hskip⟩ := compile_eq_ok h
    exact ⟨⟨parsed, hwell.parses, hchain⟩, (accepted_of_compile h).length_eq.symm, hkeys, hmethod, hlimit, hskip⟩

def dearestOrders : Method where
  name := "dearestOrders"
  params := [.value .int, .value .int, .value (.list (.list .int))]
  returns := .entities "Order"
  asynchronous := false
  transform := some "findByAmountBetweenOrLinesNotIn"
  sortBy := [⟨"AMOUNT", false⟩]
  limit := some 5
  skip := none

def dearestOrdersSpec : MethodSpec where
  method := "dearestOrders"
  effective := "findByAmountBetweenOrLinesNotIn"
  operation := .find
  cardinality := .many
  chain := ⟨.or, [⟨"amount", .int, .between, false⟩, ⟨"lines", .list .int, .notIn, false⟩]⟩
  sort := [⟨"amount", false⟩]
  limit := some 5
  skip := none
  trailing := none
  asynchronous := false

theorem accepted_iff_wellFormed_orders :
    compile orderSchema dearestOrders = .ok dearestOrdersSpec ∧
      (∃ start parsed filters directives, dearestOrders.WellFormed orderSchema start parsed filters directives) ∧
      dearestOrdersSpec.paramCount = 3 ∧ List.Forall₂ orderSchema.Stores [⟨"AMOUNT", false⟩] dearestOrdersSpec.sort := by
  have hspec : compile orderSchema dearestOrders = .ok dearestOrdersSpec := rfl
  obtain ⟨hiff, hsays⟩ := accepted_iff_wellFormed orderSchema dearestOrders
  obtain ⟨-, hcount, hsort, -⟩ := hsays dearestOrdersSpec hspec
  exact ⟨hspec, hiff.mp ⟨_, hspec⟩, hcount, hsort⟩

end MethodSpec

end DocumentRepository
