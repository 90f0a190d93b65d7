import DocumentRepository.Proofs.Query.Fault
import DocumentRepository.Proofs.Repository.Routing

/-! # Signatures of methods that an operation serves

Registration does not look at the parameters and the result of a method that a predefined operation serves. The operation
has a number of arguments and a form of outcomes of its own, so it is a call that finds out whether the signature fits:
on the number of parameters before the store is asked, and on the result when the operation is done.
-/
namespace DocumentRepository

open Repository (Call)

inductive RepositoryError.OfSignature : RepositoryError → Prop where
  | parameterCount (method : String) (expected actual : Nat) : OfSignature (.parameterCount method expected actual)
  | returnMismatch (expected actual : String) : OfSignature (.returnMismatch expected actual)

/-- The declared result is that of the operation, of whatever entity. -/
def Predefined.Answers (op : Predefined) (returns : ReturnType) : Prop :=
  ∃ entity, returns = (op.resultType .any).returnType entity

structure Method.Fits (m : Method) (op : Predefined) : Prop where
  length_eq : m.params.length = op.arity
  answers : op.Answers m.returns

/-- Declared again, a method that an operation serves may have another signature. -/
inductive Method.Redeclared : Method → Method → Prop where
  | same (m : Method) : Redeclared m m
  | signature {m : Method} (h : m.Served) (params : List ParamType) (returns : ReturnType) :
      Redeclared m { m with params, returns }

def Description.withMethods (d : Description) (methods : List Method) : Description :=
  { d with contract := { d.contract with methods } }

section Registration

variable {schema : Schema} {seen : List String} {methods : Table MethodSpec} {transforms : Table String}
  {m m' : Method} {ms ms' : List Method} {d : Description}

theorem Method.Served.withSignature (h : m.Served) (params : List ParamType) (returns : ReturnType) :
    { m with params, returns }.Served := by
  obtain ⟨op, h | ⟨hasync, hown, h⟩⟩ := h
  · exact ⟨op, .named h⟩
  · exact ⟨op, .asynchronously hasync hown h⟩

namespace Registry

theorem compileMethods_redeclared (h : List.Forall₂ Method.Redeclared ms ms') :
    compileMethods schema seen methods transforms ms = compileMethods schema seen methods transforms ms' := by
  induction h generalizing seen methods transforms with
  | nil => rfl
  | @cons m m' rest rest' hm _ ih =>
    cases hm with
    | same => simp only [compileMethods, ih]
    | signature hserved params returns =>
      by_cases hnew : m.name ∈ seen
      · rw [compileMethods_duplicate hnew, compileMethods_duplicate (m := { m with params, returns }) hnew]
      · rw [compileMethods_served hnew hserved, ih]
        exact (compileMethods_served (m := { m with params, returns }) hnew (hserved.withSignature params returns)).symm

theorem validate_redeclared (h : List.Forall₂ Method.Redeclared d.contract.methods ms) :
    validate (d.withMethods ms) = validate d := by
  simp only [validate, Description.withMethods, compileMethods_redeclared h]

theorem obtain_redeclared {σ : Type} [DocumentStore σ] {g : Registry} {key : Nat}
    (h : List.Forall₂ Method.Redeclared d.contract.methods ms) :
    (g.obtain key (.ok (d.withMethods ms)) : Call σ (Registry × Published)) = g.obtain key (.ok d) := by
  simp only [obtain, buildDescribed, build, validate_redeclared h]
  rfl

end Registry

end Registration

section Outcome

variable {op : Predefined} {type : ResultType} {shape : EntityShape} {entity : String} {out : Outcome} {e : RepositoryError}

theorem EntityShape.read_eq_error {d : Document} (h : shape.read d = .error e) : e = .malformedEntity := by
  unfold read at h
  split at h
  · cases shape with
    | any => cases h
    | record fields =>
      dsimp only at h
      split at h <;> cases h
      rfl
  · cases h
    rfl

namespace Predefined.Yields

/-- An outcome of an operation is no result of another type. -/
theorem as_eq_error (h : op.Yields out) (hanswers : ¬op.Answers (type.returnType entity)) :
    out.as type = .error (.returnMismatch type.name out.kind) := by
  cases h with
  | collectionName s => cases type <;> first | rfl | exact absurd ⟨entity, rfl⟩ hanswers
  | uniqueId v => cases type <;> first | rfl | exact absurd ⟨entity, rfl⟩ hanswers
  | found d => cases type <;> first | rfl | exact absurd ⟨entity, rfl⟩ hanswers
  | all ds => cases type <;> first | rfl | exact absurd ⟨entity, rfl⟩ hanswers
  | done h b => cases type <;> first | rfl | exact absurd ⟨entity, by rw [h]⟩ hanswers

/-- An entity of the declared type may be malformed, and nothing else is wrong with an outcome of an operation. -/
theorem not_ofSignature (h : op.Yields out) (hanswers : op.Answers (type.returnType entity)) (he : out.as type = .error e) :
    ¬e.OfSignature := by
  obtain ⟨entity', hreturns⟩ := hanswers
  cases h with
  | collectionName s => cases type <;> cases hreturns; cases he
  | uniqueId v => cases type <;> cases hreturns; cases he
  | found d =>
    cases type <;> cases hreturns
    cases d with
    | none => cases he
    | some d =>
      rw [EntityShape.read_eq_error (map_eq_error_iff.mp he)]
      rintro ⟨⟩
  | all ds =>
    cases type <;> cases hreturns
    obtain ⟨d, -, hread⟩ := mapM_eq_error (map_eq_error_iff.mp he)
    rw [EntityShape.read_eq_error hread]
    rintro ⟨⟩
  | done h b =>
    rw [h] at hreturns
    cases type <;> cases hreturns
    cases he

end Predefined.Yields

end Outcome

namespace Executor

variable {σ α : Type} {executor : Executor} {call : Call σ α} {s t : σ}

theorem await_of_error {e : RepositoryError} (hruns : executor.runs = true) (h : call s = (.error (.error e), t)) :
    executor.await call s = (.error (.error e), t) := by
  rw [await_of_runs hruns, h]
  rfl

end Executor

namespace Repository

variable {σ : Type} [DocumentStore σ] {r : Repository} {executor : Executor} {type : ResultType} {m : Method}
  {op : Predefined} {args : List Argument} {u v : σ} {e : RepositoryError} {out : Outcome} {entity : String}

def callFor (r : Repository) (executor : Executor) (type : ResultType) (m : Method) (args : List Argument) : Call σ Result :=
  let call := r.invokeAs (Outcome.as type) m.name args m.asynchronous
  if m.asynchronous then executor.await call else call

theorem callFor_of_error (hruns : m.asynchronous = true → executor.runs = true)
    (h : (r.invokeAs (Outcome.as type) m.name args m.asynchronous : Call σ Result) u = (.error (.error e), v)) :
    (r.callFor executor type m args : Call σ Result) u = (.error (.error e), v) := by
  unfold callFor
  split
  case isTrue hasync => exact Executor.await_of_error (hruns hasync) h
  case isFalse => exact h

theorem callFor_eq_error (h : (r.callFor executor type m args : Call σ Result) u = (.error (.error e), v)) :
    (r.invokeAs (Outcome.as type) m.name args m.asynchronous : Call σ Result) u = (.error (.error e), v) ∨
      ∃ text, e = .async text := by
  unfold callFor at h
  split at h
  case isTrue => exact Executor.await_eq_error h
  case isFalse => exact .inl h

section Served

variable (htarget : r.target? m.name m.asynchronous = some (.predefined op))

include htarget

theorem invokeAs_served : (r.invokeAs (Outcome.as type) m.name args m.asynchronous : Call σ Result) =
    op.run r m.name args >>= fun out => Action.ofExcept (out.as type) := by
  unfold invokeAs
  rw [invoke_of_target htarget]
  rfl

/-- If the signature fits, calls with as many arguments as there are parameters do not fail on it. -/
theorem not_ofSignature_of_fits (hfits : m.Fits op) (htype : type.returnType entity = m.returns)
    (hlength : args.length = m.params.length)
    (h : (r.callFor executor type m args : Call σ Result) u = (.error (.error e), v)) : ¬e.OfSignature := by
  rcases callFor_eq_error h with h | ⟨text, rfl⟩
  · rw [invokeAs_served htarget] at h
    rcases Action.bind_eq_error_iff.mp h with h | ⟨out, w, hrun, h⟩
    · rcases Predefined.run_eq_error h with ⟨hargs, -⟩ | ⟨-, hfault⟩
      · exact absurd (hlength.trans hfits.length_eq) hargs
      · cases hfault <;> rintro ⟨⟩
    · obtain ⟨e', he, herror, -⟩ := Action.ofExcept_eq_error_iff.mp h
      cases herror
      exact (Predefined.run_eq_ok hrun).2.not_ofSignature (htype ▸ hfits.answers) he
  · rintro ⟨⟩

theorem callFor_eq_parameterCount (executor : Executor) (type : ResultType) (u : σ)
    (hruns : m.asynchronous = true → executor.runs = true) (hlength : args.length ≠ op.arity) :
    (r.callFor executor type m args : Call σ Result) u =
      (.error (.error (.parameterCount m.name op.arity args.length)), u) := by
  refine callFor_of_error hruns ?_
  rw [invokeAs_served htarget, Predefined.run_of_length_ne hlength]
  rfl

theorem callFor_eq_returnMismatch (executor : Executor) (hruns : m.asynchronous = true → executor.runs = true)
    (htype : type.returnType entity = m.returns) (hanswers : ¬op.Answers m.returns)
    (h : (op.run r m.name args : Call σ Outcome) u = (.ok out, v)) :
    (r.callFor executor type m args : Call σ Result) u = (.error (.error (.returnMismatch type.name out.kind)), v) := by
  refine callFor_of_error hruns ?_
  rw [invokeAs_served htarget]
  have hout := (Predefined.run_eq_ok h).2.as_eq_error (htype ▸ hanswers)
  refine Action.bind_eq_error_iff.mpr (.inr ⟨out, v, h, ?_⟩)
  exact Action.ofExcept_eq_error_iff.mpr ⟨_, hout, rfl, rfl⟩

/-- Calls with as many arguments as there are parameters never fail on the signature just if it fits. -/
theorem fits_iff (htype : type.returnType entity = m.returns) :
    m.Fits op ↔ ∀ (σ : Type) [DocumentStore σ] executor args (u v : σ) e, args.length = m.params.length →
      (r.callFor executor type m args : Call σ Result) u = (.error (.error e), v) → ¬e.OfSignature := by
  constructor
  · exact fun hfits σ _ executor args u v e hlength h => not_ofSignature_of_fits htarget hfits htype hlength h
  · intro hcalls
    have hlength : m.params.length = op.arity := by
      by_contra hne
      have hargs : (List.replicate m.params.length (Argument.entities [])).length = m.params.length := List.length_replicate
      have hfails := callFor_eq_parameterCount htarget .inline type Store.empty (fun _ => rfl) (hargs.trans_ne hne)
      exact hcalls Store .inline _ _ _ _ hargs hfails (.parameterCount _ _ _)
    refine ⟨hlength, ?_⟩
    by_contra hanswers
    obtain ⟨args, out, t, hargs, hrun⟩ := op.exists_run_eq_ok r m.name
    have hfails := callFor_eq_returnMismatch htarget .inline (fun _ => rfl) htype hanswers hrun
    exact hcalls Store .inline args _ _ _ (hargs.trans hlength.symm) hfails (.returnMismatch _ _)

end Served

end Repository

namespace Registry

variable {σ : Type} [DocumentStore σ] {g g' : Registry} {key : Nat} {d : Description} {p : Published} {s t : σ}

/-- A contract that is accepted is accepted alike, and gets the same repository, with any other signatures of the methods
that an operation serves. Calls of such a method with as many arguments as it has parameters never fail on the signature
just if it has the parameters and the result of the operation. With another number of parameters all of them fail at once,
and with another result all of them fail that the operation answers, after it has done what it does to the store. -/
theorem served_signatures (hnew : g.lookup? key = none) (hobtain : g.obtain key (.ok d) s = (.ok (g', p), t)) :
    (∀ methods, List.Forall₂ Method.Redeclared d.contract.methods methods →
      (g.obtain key (.ok (d.withMethods methods)) : Call σ (Registry × Published)) = g.obtain key (.ok d)) ∧
    ∀ m ∈ d.contract.methods, ∀ op, m.ServedBy op → ∀ type entity, ResultType.returnType entity type = m.returns →
      (m.Fits op ↔ ∀ (τ : Type) [DocumentStore τ] executor args (u v : τ) e, args.length = m.params.length →
        (p.repository.callFor executor type m args : Call τ Result) u = (.error (.error e), v) → ¬e.OfSignature) ∧
      ∀ (τ : Type) [DocumentStore τ] executor args (u : τ), (m.asynchronous = true → executor.runs = true) →
        args.length = m.params.length →
        (m.params.length ≠ op.arity → (p.repository.callFor executor type m args : Call τ Result) u =
          (.error (.error (.parameterCount m.name op.arity m.params.length)), u)) ∧
        (¬op.Answers m.returns → ∀ out v,
          (op.run p.repository m.name args : Call τ Outcome) u = (.ok out, v) →
            (p.repository.callFor executor type m args : Call τ Result) u =
              (.error (.error (.returnMismatch type.name out.kind)), v)) := by
  refine ⟨fun methods => obtain_redeclared, ?_⟩
  intro m hm op hop type entity htype
  obtain ⟨d', hd, hvalid, -⟩ := obtain_new_eq_ok hnew hobtain
  cases hd
  obtain ⟨-, -, -, hheld, -⟩ := validate_eq_ok hvalid
  have htarget := Repository.target?_of_servedBy (hheld m hm) hop
  refine ⟨Repository.fits_iff htarget htype, ?_⟩
  intro τ _ executor args u hruns hlength
  constructor
  · intro hcount
    rw [← hlength]
    exact Repository.callFor_eq_parameterCount htarget executor type u hruns (hlength.trans_ne hcount)
  · intro hanswers out v hrun
    exact Repository.callFor_eq_returnMismatch htarget executor hruns htype hanswers hrun

section Example

def clearAccounts : Method := ⟨"deleteAll", [], .integer, false, none, [], none, none⟩

def describeClearing : Description := ⟨accountEntity, ⟨"Accounts", [findAccounts, clearAccounts]⟩⟩

theorem obtain_clearing :
    (new .standard none).obtain 0 (.ok describeClearing) Store.empty =
      (.ok ((new .standard none).publish 0 accounts), accountStore) := rfl

def oneAccountStore : Store := ((saveAccount 1 "a").run accounts accountStore).2

/-- To find the accounts never fails on the signature. To clear them does, when they are gone. -/
theorem served_signatures_accounts :
    (∀ (τ : Type) [DocumentStore τ] executor (u v : τ) e,
      (accounts.callFor executor (.entities .any) findAccounts [] : Call τ Result) u = (.error (.error e), v) →
        ¬e.OfSignature) ∧
      (accounts.callFor .inline (.count .unsigned64) clearAccounts [] : Call Store Result) oneAccountStore =
        (.error (.error (.returnMismatch "u64" "bool")), oneAccountStore.deleteCollection "accounts") := by
  have hmethods := (served_signatures (g := new .standard none) rfl obtain_clearing).2
  have hserved : findAccounts.ServedBy .findAll := .asynchronously rfl rfl (by decide +kernel)
  obtain ⟨hfits, -⟩ := hmethods findAccounts (by decide) .findAll hserved (.entities .any) "Account" rfl
  obtain ⟨-, hmismatch⟩ := hmethods clearAccounts (by decide) .deleteAll (.named rfl) (.count .unsigned64) "Account" rfl
  refine ⟨fun τ _ executor u v e => hfits.mp ⟨rfl, "Account", rfl⟩ τ executor [] u v e rfl, ?_⟩
  refine (hmismatch Store .inline [] oneAccountStore (fun _ => rfl) rfl).2 ?_ (.bool true) _ rfl
  rintro ⟨entity, hreturns⟩
  cases hreturns

/-- A call that was declared so and fails on its signature can have deleted everything before. -/
theorem mismatch_after_deleteAll :
    ¬∀ (g g' : Registry) (key : Nat) (d : Description) (p : Published) (s t : Store), g.lookup? key = none →
      g.obtain key (.ok d) s = (.ok (g', p), t) → ∀ m ∈ d.contract.methods, ∀ op, m.ServedBy op →
        ∀ type entity, ResultType.returnType entity type = m.returns → ∀ executor args (u v : Store) e, m.Accepts args →
          (p.repository.callFor executor type m args : Call Store Result) u = (.error (.error e), v) →
            e.OfSignature → v = u := by
  intro h
  have hstore := h _ _ 0 describeClearing _ _ _ rfl obtain_clearing clearAccounts (by decide) .deleteAll (.named rfl)
    (.count .unsigned64) "Account" rfl .inline [] oneAccountStore _ _ .nil rfl (.returnMismatch "u64" "bool")
  have hdocuments := congrArg (fun s : Store => (s.documents "accounts").length) hstore
  cases hdocuments

end Example

end Registry

end DocumentRepository
