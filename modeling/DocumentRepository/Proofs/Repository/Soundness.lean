import DocumentRepository.Proofs.Query.Fault
import DocumentRepository.Proofs.Query.Meaning
import DocumentRepository.Repository.Call

/-! # Soundness of the checks of a method

A call of an accepted method with arguments of the declared types goes wrong in few ways: by a
fault of its filter, by a field that its directive names, or in the store. What it answers with is
what the method declares.
-/
namespace DocumentRepository

inductive ReturnType.Yields : ReturnType → Outcome → Prop where
  | entity {name : String} {d : Option Document} : Yields (.entity name) (.entity d)
  | entities {name : String} {ds : List Document} : Yields (.entities name) (.entities ds)
  | bool {b : Bool} : Yields .bool (.bool b)
  | integer {n : Nat} : Yields .integer (.count n)

namespace Repository

variable {σ α : Type} {r : Repository} {m : Method} {spec : MethodSpec} {args : List Argument} {s s' : σ}
  {e : RepositoryError} {out : Outcome}

inductive DirectiveFault (method : String) : RepositoryError → Prop where
  | unknownField (field : String) : DirectiveFault method (.unknownField method field)
  | idField (actual : String) : DirectiveFault method (.invalidArgument method 0 "an update of a non-id field" actual)

theorem onStore_eq_error {a : Action σ StoreError α} (h : onStore a s = (.error (.error e), s')) : ∃ e', e = .store e' := by
  obtain ⟨e', -, he⟩ := Action.mapError_eq_error_iff.mp h
  cases e' with
  | error e' => cases he; exact ⟨e', rfl⟩
  | panic text => cases he

theorem resolveSort_eq_error {method : String} {keys : List SortKey} (h : r.resolveSort method keys = .error e) :
    DirectiveFault method e := by
  obtain ⟨key, -, h⟩ := mapM_eq_error h
  split at h
  · cases h
  · cases h
    exact .unknownField key.field

theorem resolveUpdates_eq_error {method : String} {updates : UpdateBatch} (h : r.resolveUpdates method updates = .error e) :
    DirectiveFault method e := by
  obtain ⟨update, -, h⟩ := mapM_eq_error h
  unfold resolveUpdate at h
  split at h
  · cases h
    exact .unknownField update.field
  · split at h
    · cases h
      exact .idField _
    · cases h

theorem directive_accepts (h : spec.Accepted r.schema m) (hargs : m.Accepts args) {directive : Trailing}
    (hdirective : spec.trailing = some directive) :
    ∃ arg, args[spec.chain.arity]? = some arg ∧ directive.paramType.accepts arg := by
  obtain ⟨hlt, hlast⟩ := List.getElem?_eq_some_iff.mp (h.last_eq directive hdirective)
  have hlt' : spec.chain.arity < args.length := hargs.length_eq ▸ hlt
  exact ⟨_, List.getElem?_eq_getElem hlt', hlast ▸ hargs.get hlt hlt'⟩

theorem findOptions_eq_error (h : spec.Accepted r.schema m) (hargs : m.Accepts args) (hop : spec.operation ≠ .updateFields)
    (he : r.findOptions spec args[spec.chain.arity]? = .error e) : DirectiveFault spec.method e := by
  cases htrailing : spec.trailing with
  | none => simp [findOptions, htrailing] at he
  | some directive =>
    obtain ⟨arg, harg, haccepts⟩ := directive_accepts h hargs htrailing
    rw [harg] at he
    cases directive with
    | sort =>
      cases arg <;> cases haccepts
      simp only [findOptions, htrailing] at he
      rcases bind_eq_error_iff.mp he with he | ⟨keys, -, he⟩
      · exact resolveSort_eq_error he
      · cases he
    | pagination =>
      cases arg <;> cases haccepts
      simp only [findOptions, htrailing] at he
      rcases bind_eq_error_iff.mp he with he | ⟨keys, -, he⟩
      · exact resolveSort_eq_error he
      · cases he
    | updateBatch => exact absurd (h.updates_iff.mpr htrailing) hop

theorem updatesOf_eq_error (h : spec.Accepted r.schema m) (hargs : m.Accepts args) (hop : spec.operation = .updateFields)
    (he : r.updatesOf spec args[spec.chain.arity]? = .error e) : DirectiveFault spec.method e := by
  obtain ⟨arg, harg, haccepts⟩ := directive_accepts h hargs (h.updates_iff.mp hop)
  rw [harg] at he
  cases arg <;> cases haccepts
  exact resolveUpdates_eq_error he

variable [DocumentStore σ]

theorem runFind_eq_error {filter : Filter} {options : FindOptions}
    (h : r.runFind spec filter options s = (.error (.error e), s')) : ∃ e', e = .store e' := by
  unfold runFind at h
  cases hcardinality : spec.cardinality <;> simp only [hcardinality] at h
  case first =>
    split at h
    · exact onStore_eq_error (Action.map_eq_error_iff.mp h)
    · exact onStore_eq_error (Action.map_eq_error_iff.mp h)
  case many => exact onStore_eq_error (Action.map_eq_error_iff.mp h)

theorem runFind_eq_ok {filter : Filter} {options : FindOptions} {entity : String}
    (h : r.runFind spec filter options s = (.ok out, s')) : (Operation.find.result entity spec.cardinality).Yields out := by
  unfold runFind at h
  cases hcardinality : spec.cardinality <;> simp only [hcardinality] at h
  case first =>
    split at h
    · obtain ⟨found, -, rfl⟩ := Action.map_eq_ok_iff.mp h
      exact .entity
    · obtain ⟨found, -, rfl⟩ := Action.map_eq_ok_iff.mp h
      exact .entity
  case many =>
    obtain ⟨found, -, rfl⟩ := Action.map_eq_ok_iff.mp h
    exact .entities

/-- A call with arguments of the declared types fails by a fault of its filter or of its directive, or in the store. -/
theorem runSpec_eq_error (h : spec.Accepted r.schema m) (hargs : m.Accepts args)
    (he : r.runSpec spec args s = (.error (.error e), s')) :
    spec.filter args = .error e ∨ DirectiveFault spec.method e ∨ ∃ e', e = .store e' := by
  unfold runSpec at he
  rw [if_neg (not_not.mpr (hargs.length_eq.symm.trans h.length_eq))] at he
  rcases Action.bind_eq_error_iff.mp he with he | ⟨filter, t, -, he⟩
  · obtain ⟨e', hfilter, he', -⟩ := Action.ofExcept_eq_error_iff.mp he
    cases he'
    exact Or.inl hfilter
  · refine Or.inr ?_
    have findFails : (do
        let options ← Action.ofExcept (r.findOptions spec args[spec.chain.arity]?)
        r.runFind spec filter options : Call σ Outcome) t = (.error (.error e), s') →
        spec.operation ≠ .updateFields → DirectiveFault spec.method e ∨ ∃ e', e = .store e' := by
      intro hfind hop
      rcases Action.bind_eq_error_iff.mp hfind with hfind | ⟨options, t', -, hfind⟩
      · obtain ⟨e', hoptions, he', -⟩ := Action.ofExcept_eq_error_iff.mp hfind
        cases he'
        exact Or.inl (findOptions_eq_error h hargs hop hoptions)
      · exact Or.inr (runFind_eq_error hfind)
    cases hop : spec.operation <;> simp only [hop] at he
    case find => exact findFails he (by simp [hop])
    case page => exact findFails he (by simp [hop])
    case count => exact Or.inr (onStore_eq_error (Action.map_eq_error_iff.mp he))
    case delete => exact Or.inr (onStore_eq_error (Action.map_eq_error_iff.mp he))
    case «exists» => exact Or.inr (onStore_eq_error (Action.map_eq_error_iff.mp he))
    case updateFields =>
      rcases Action.bind_eq_error_iff.mp he with he | ⟨updates, t', -, he⟩
      · obtain ⟨e', hupdates, he', -⟩ := Action.ofExcept_eq_error_iff.mp he
        cases he'
        exact Or.inl (updatesOf_eq_error h hargs hop hupdates)
      · exact Or.inr (onStore_eq_error (Action.map_eq_error_iff.mp he))

theorem runSpec_eq_ok (entity : String) (h : r.runSpec spec args s = (.ok out, s')) :
    (spec.operation.result entity spec.cardinality).Yields out := by
  unfold runSpec at h
  split at h
  · cases h
  · obtain ⟨filter, t, -, h⟩ := Action.bind_eq_ok_iff.mp h
    cases hop : spec.operation <;> simp only [hop] at h
    case find =>
      obtain ⟨options, t', -, h⟩ := Action.bind_eq_ok_iff.mp h
      exact runFind_eq_ok h
    case page =>
      obtain ⟨options, t', -, h⟩ := Action.bind_eq_ok_iff.mp h
      have hfound : (Operation.find.result entity spec.cardinality).Yields out := runFind_eq_ok h
      cases hcardinality : spec.cardinality <;> simpa [hcardinality, Operation.result] using hfound
    case count =>
      obtain ⟨n, -, rfl⟩ := Action.map_eq_ok_iff.mp h
      exact .integer
    case delete =>
      obtain ⟨b, -, rfl⟩ := Action.map_eq_ok_iff.mp h
      exact .bool
    case «exists» =>
      obtain ⟨n, -, rfl⟩ := Action.map_eq_ok_iff.mp h
      exact .bool
    case updateFields =>
      obtain ⟨updates, t', -, h⟩ := Action.bind_eq_ok_iff.mp h
      obtain ⟨b, -, rfl⟩ := Action.map_eq_ok_iff.mp h
      exact .bool

theorem DirectiveFault.ne_badDirective {method : String} (h : DirectiveFault method e) (directive : Trailing)
    (arg : Option Argument) : e ≠ badDirective spec directive.name arg := by
  cases h with
  | unknownField field => exact RepositoryError.noConfusion
  | idField actual =>
    intro he
    have hexpected := (RepositoryError.invalidArgument.inj he).2.2.1
    cases directive <;> exact absurd hexpected (by decide)

theorem fault_ne_badDirective {k : Nat} (hk : k < spec.chain.terms.length) {arg : Option Argument} {method : String}
    (h : spec.chain.terms[k].Fault ⟨method, Term.offset spec.chain.terms k⟩ arg e) (directive : Trailing)
    (other : Option Argument) : e ≠ badDirective spec directive.name other := by
  cases h with
  | pattern source hop => exact RepositoryError.noConfusion
  | regex hop hnull => exact RepositoryError.noConfusion
  | list hop hnull =>
    intro he
    have hindex := (RepositoryError.invalidArgument.inj he).2.1
    have hone : spec.chain.terms[k].operator.arity = 1 := by rcases hop with hop | hop <;> rw [hop] <;> rfl
    have := Term.offset_add_arity_le spec.chain hk
    dsimp only at hindex
    omega

/-- A method that is accepted never fails on the number of its arguments or on its directive, whatever
the store does; no part of its arguments or parameters is out of range; its filter fails by a fault of
a term alone, and does so on null where null cannot be meant; and its outcome is of the declared result. -/
theorem accepted_calls_sound (hspec : MethodSpec.compile r.schema m = .ok spec) (hargs : m.Accepts args) :
    (∀ (σ : Type) [DocumentStore σ] (s s' : σ) (e : RepositoryError),
        (r.runSpec spec args : Call σ Outcome) s = (.error (.error e), s') →
          (∀ method expected actual, e ≠ .parameterCount method expected actual) ∧
            ∀ (directive : Trailing) (arg : Option Argument), e ≠ badDirective spec directive.name arg) ∧
      (∀ (k : Nat) (hk : k < spec.chain.terms.length),
        Term.offset spec.chain.terms k + spec.chain.terms[k].operator.arity ≤ m.params.length ∧
          Term.offset spec.chain.terms k + spec.chain.terms[k].operator.arity ≤ args.length) ∧
      (spec.trailing.isSome → spec.chain.arity < m.params.length ∧ spec.chain.arity < args.length) ∧
      (∀ e, spec.filter args = .error e →
        ∃ (k : Nat) (hk : k < spec.chain.terms.length),
          spec.chain.terms[k].Fault ⟨m.name, Term.offset spec.chain.terms k⟩ args[Term.offset spec.chain.terms k]? e) ∧
      (∀ (k : Nat) (hk : k < spec.chain.terms.length), spec.chain.terms[k].RejectsNull →
        args[Term.offset spec.chain.terms k]? = some (.value .null) →
        (∀ (j : Nat) (hj : j < k), ∃ f, termFilter m.name 0 spec.chain.terms args j (Nat.lt_trans hj hk) = .ok f) →
          ∃ e, spec.filter args = .error e ∧ ∀ method source, e ≠ .invalidPattern method source) ∧
      ∀ (σ : Type) [DocumentStore σ] (s s' : σ) (out : Outcome),
        (r.runSpec spec args : Call σ Outcome) s = (.ok out, s') → m.returns.Yields out := by
  have h := MethodSpec.accepted_of_compile hspec
  refine ⟨?_, ?_, ?_, ?_, ?_, ?_⟩
  · intro σ _ s s' e he
    rcases runSpec_eq_error h hargs he with hfilter | hdirective | ⟨e', rfl⟩
    · obtain ⟨k, hk, hfault⟩ := h.filter_eq_error hargs hfilter
      exact ⟨by cases hfault <;> exact fun _ _ _ => RepositoryError.noConfusion, fault_ne_badDirective hk hfault⟩
    · exact ⟨by cases hdirective <;> exact fun _ _ _ => RepositoryError.noConfusion, hdirective.ne_badDirective⟩
    · exact ⟨fun _ _ _ => RepositoryError.noConfusion, fun _ _ => RepositoryError.noConfusion⟩
  · intro k hk
    exact ⟨h.offset_add_arity_le hk, hargs.length_eq ▸ h.offset_add_arity_le hk⟩
  · intro htrailing
    have hlength := h.length_eq
    rw [MethodSpec.paramCount, if_pos htrailing] at hlength
    have := hargs.length_eq
    omega
  · exact fun e he => h.filter_eq_error hargs he
  · exact fun k hk hrejects hnull hbefore => h.filter_of_null hargs hk hrejects hnull hbefore
  · intro σ _ s s' out hout
    rw [h.returns_eq]
    exact runSpec_eq_ok r.schema.entity hout

def orders : Repository := ⟨"Orders", orderSchema, [], []⟩

def ordersByLines : Method where
  name := "findManyByAmountGreaterThanAndLinesIn"
  params := [.value .int, .value (.list (.list .int)), .sort]
  returns := .entities "Order"
  asynchronous := false
  transform := none
  sortBy := []
  limit := none
  skip := none

def ordersByLinesSpec : MethodSpec where
  method := "findManyByAmountGreaterThanAndLinesIn"
  effective := "findManyByAmountGreaterThanAndLinesIn"
  operation := .find
  cardinality := .many
  chain := ⟨.and, [⟨"amount", .int, .greaterThan, false⟩, ⟨"lines", .list .int, .in, false⟩]⟩
  sort := []
  limit := none
  skip := none
  trailing := some .sort
  asynchronous := false

/-- Null is passed for the lists of lines. -/
theorem accepted_calls_sound_null :
    MethodSpec.compile orders.schema ordersByLines = .ok ordersByLinesSpec ∧
      ordersByLines.Accepts [.value (.int 3), .value .null, .sort ⟨[], none, none⟩] ∧
      ∃ e, ordersByLinesSpec.filter [.value (.int 3), .value .null, .sort ⟨[], none, none⟩] = .error e ∧
        ∀ method source, e ≠ .invalidPattern method source := by
  have hspec : MethodSpec.compile orders.schema ordersByLines = .ok ordersByLinesSpec := rfl
  have hargs : ordersByLines.Accepts [.value (.int 3), .value .null, .sort ⟨[], none, none⟩] := .cons rfl (.cons rfl (.cons rfl .nil))
  obtain ⟨-, -, -, -, hnull, -⟩ := accepted_calls_sound hspec hargs
  refine ⟨hspec, hargs, hnull 1 (by decide) (Or.inl rfl) rfl ?_⟩
  intro j hj
  obtain rfl : j = 0 := by omega
  exact ⟨_, rfl⟩

end Repository

end DocumentRepository
