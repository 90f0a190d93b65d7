import DocumentRepository.Proofs.Repository.Predefined
import DocumentRepository.Proofs.Store.Operations

/-! # The one operation of a call

A call checks its arguments before it turns to the store. Then it does one operation, and the store's
answer is all that it needs for its own. So a call ends without the store, with an answer or with an error
of its arguments, or it ends as its operation does. Only the call that saves several documents does more
than one operation.
-/
namespace DocumentRepository

/-- An error of what serves a call; that nothing serves it is no such error. -/
def RepositoryError.OfServed (e : RepositoryError) : Prop := ∀ method contract, e ≠ .unsupported method contract

namespace StoreCall

inductive OnDocuments (name : String) : StoreCall → Prop where
  | find (filter : Filter) (options : FindOptions) : OnDocuments name (.find name filter options)
  | findOne (filter : Filter) (keys : List SortKey) : OnDocuments name (.findOne name filter keys)
  | count (filter : Filter) : OnDocuments name (.count name filter)
  | deleteMany (filter : Filter) : OnDocuments name (.deleteMany name filter)
  | updateMany (filter : Filter) (updates : UpdateBatch) : OnDocuments name (.updateMany name filter updates)
  | upsertById (idField : String) (id : Value) (d : Document) : OnDocuments name (.upsertById name idField id d)
  | insert (d : Document) : OnDocuments name (.insert name d)

theorem OnDocuments.collection_eq {name : String} {op : StoreCall} (h : op.OnDocuments name) : op.collection = name := by
  cases h <;> rfl

/-- An operation that fails leaves the store as it was. -/
theorem perform_eq_error {op : StoreCall} {s t : Store} {e : Failure StoreError} (h : op.perform s = (.error e, t)) :
    t = s := by
  cases heffect : op.effect (s.collection op.collection) with
  | error e' =>
    rw [perform_of_error heffect] at h
    cases h
    rfl
  | ok c =>
    have hok := (perform_of_ok heffect).1
    rw [h] at hok
    cases hok

end StoreCall

namespace Term

variable {t : Term} {s : Site} {arg a b : Argument} {own : List Argument} {e : RepositoryError}

theorem valueArg_ofServed {nth : Nat} (h : t.valueArg s nth arg = .error e) : e.OfServed := by
  unfold valueArg at h
  split at h <;> cases h
  exact fun _ _ => RepositoryError.noConfusion

theorem compareArg_ofServed {op : Comparison} {nth : Nat} (h : t.compareArg s op nth arg = .error e) : e.OfServed := by
  rcases bind_eq_error_iff.mp h with h | ⟨v, -, h⟩
  · exact valueArg_ofServed h
  · cases h

theorem listArg_ofServed (h : t.listArg s arg = .error e) : e.OfServed := by
  rcases bind_eq_error_iff.mp h with h | ⟨v, -, h⟩
  · exact valueArg_ofServed h
  · split at h <;> cases h
    exact fun _ _ => RepositoryError.noConfusion

theorem readPattern_ofServed {caseless : Bool} {source : String} (h : readPattern s caseless source = .error e) :
    e.OfServed := by
  rw [readPattern_eq_error h]
  exact fun _ _ => RepositoryError.noConfusion

theorem patternArg_ofServed (h : patternArg s arg = .error e) : e.OfServed := by
  unfold patternArg at h
  split at h
  · cases h
  · exact readPattern_ofServed h
  · cases h
    exact fun _ _ => RepositoryError.noConfusion

theorem filterOfOne_ofServed (h : t.filterOfOne s arg = .error e) : e.OfServed := by
  -- Each operator reads its argument, at most by way of a pattern, and that is all that can fail.
  have ofValue {f : Value → Except RepositoryError Filter} (hf : ∀ v e, f v = .error e → e.OfServed)
      (h : (t.valueArg s 0 arg >>= f) = .error e) : e.OfServed := by
    rcases bind_eq_error_iff.mp h with h | ⟨v, -, h⟩
    · exact valueArg_ofServed h
    · exact hf v e h
  have ofPattern {caseless : Bool} (source : Value → String) :
      ∀ v e, (do return Filter.pattern t.field (← readPattern s caseless (source v)) : Except RepositoryError Filter) =
        .error e → e.OfServed := by
    intro v e h
    rcases bind_eq_error_iff.mp h with h | ⟨p, -, h⟩
    · exact readPattern_ofServed h
    · cases h
  unfold filterOfOne at h
  split at h
  · exact ofValue (ofPattern fun v => wholeSource v.display) h
  · exact ofValue (ofPattern fun v => partSource v.display) h
  · exact compareArg_ofServed h
  · exact compareArg_ofServed h
  · exact compareArg_ofServed h
  · exact compareArg_ofServed h
  · rcases bind_eq_error_iff.mp h with h | ⟨p, -, h⟩
    · exact patternArg_ofServed h
    · cases h
  · rcases bind_eq_error_iff.mp h with h | ⟨vs, -, h⟩
    · exact listArg_ofServed h
    · cases h
  · rcases bind_eq_error_iff.mp h with h | ⟨vs, -, h⟩
    · exact listArg_ofServed h
    · cases h
  · exact ofValue (fun _ _ h => by cases h) h
  · exact ofValue (fun _ _ h => by cases h) h

theorem filterOfTwo_ofServed {low high : Comparison} (h : t.filterOfTwo s low high a b = .error e) : e.OfServed := by
  rcases bind_eq_error_iff.mp h with h | ⟨first, -, h⟩
  · exact compareArg_ofServed h
  · rcases bind_eq_error_iff.mp h with h | ⟨second, -, h⟩
    · exact compareArg_ofServed h
    · cases h

theorem filterOf_ofServed (h : t.filterOf s own = .error e) : e.OfServed := by
  unfold filterOf at h
  split at h
  · cases h
  · exact filterOfTwo_ofServed h
  · exact filterOfTwo_ofServed h
  · exact filterOfOne_ofServed h
  · cases h
    exact fun _ _ => RepositoryError.noConfusion

end Term

theorem MethodSpec.filter_ofServed {spec : MethodSpec} {args : List Argument} {e : RepositoryError}
    (h : spec.filter args = .error e) : e.OfServed := by
  unfold MethodSpec.filter at h
  split at h
  · cases h
    exact fun _ _ => RepositoryError.noConfusion
  · rcases bind_eq_error_iff.mp h with h | ⟨fs, -, h⟩
    · obtain ⟨k, hk, h, -⟩ := termFilters_eq_error_iff.mp h
      exact Term.filterOf_ofServed h
    · cases h

theorem Predefined.Fault.ofServed {method : String} {e : RepositoryError} (h : Predefined.Fault method e) : e.OfServed := by
  cases h <;> exact fun _ _ => RepositoryError.noConfusion

namespace Repository

variable {r : Repository} {spec : MethodSpec} {method : String} {arg : Option Argument} {e : RepositoryError}

theorem DirectiveFault.ofServed (h : DirectiveFault method e) : e.OfServed := by
  cases h <;> exact fun _ _ => RepositoryError.noConfusion

theorem updatesOf_ofServed (h : r.updatesOf spec arg = .error e) : e.OfServed := by
  unfold updatesOf at h
  split at h
  · exact (resolveUpdates_eq_error h).ofServed
  · cases h
    exact fun _ _ => RepositoryError.noConfusion

theorem findOptions_ofServed (h : r.findOptions spec arg = .error e) : e.OfServed := by
  unfold findOptions at h
  split at h
  · cases h
  · rcases bind_eq_error_iff.mp h with h | ⟨keys, -, h⟩
    · exact (resolveSort_eq_error h).ofServed
    · cases h
  · rcases bind_eq_error_iff.mp h with h | ⟨keys, -, h⟩
    · exact (resolveSort_eq_error h).ofServed
    · cases h
  · cases h
    exact fun _ _ => RepositoryError.noConfusion
  · cases h
    exact fun _ _ => RepositoryError.noConfusion

section AtMostOne

variable {σ α β : Type} [DocumentStore σ] {kind kind' : StoreCall → Prop} {a : Call σ α}

/-- A call that ends without the store, or with what it makes of the store's answer to an operation of a kind. -/
inductive AtMostOne (kind : StoreCall → Prop) : Call σ α → Prop where
  | answered (x : α) : AtMostOne kind (pure x)
  | failed (e : RepositoryError) (he : e.OfServed) : AtMostOne kind (Action.fail e)
  | asked {β : Type} {op : StoreCall} (hop : kind op) {a : Action σ StoreError β} (ha : op.perform = a.discard)
    (g : β → α) :
      AtMostOne kind (onStore a >>= fun x => pure (g x))

theorem AtMostOne.mono (h : AtMostOne kind a) (hkind : ∀ op, kind op → kind' op) : AtMostOne kind' a := by
  cases h with
  | answered x => exact .answered x
  | failed e he => exact .failed e he
  | asked hop ha g => exact .asked (hkind _ hop) ha g

theorem AtMostOne.map (h : AtMostOne kind a) (g : α → β) : AtMostOne kind (a >>= fun x => pure (g x)) := by
  cases h with
  | answered x => exact .answered (g x)
  | failed e he => exact .failed e he
  | asked hop ha f =>
    simp only [bind_assoc, pure_bind]
    exact .asked hop ha fun x => g (f x)

theorem atMostOne_onStore {op : StoreCall} (hop : kind op) {a : Action σ StoreError α} (ha : op.perform = a.discard) :
    AtMostOne kind (onStore a) := by
  have h : AtMostOne kind (onStore a >>= pure) := .asked hop ha id
  rwa [bind_pure] at h

/-- What is checked before the store is asked either fails or goes on. -/
theorem AtMostOne.given {x : Except RepositoryError β} {f : β → Call σ α} (hx : ∀ e, x = .error e → e.OfServed)
    (hf : ∀ b, AtMostOne kind (f b)) : AtMostOne kind (Action.ofExcept x >>= f) := by
  cases x with
  | error e => exact .failed e (hx e rfl)
  | ok b =>
    have hgiven : (Action.ofExcept (.ok b) >>= f : Call σ α) = f b := pure_bind b f
    rw [hgiven]
    exact hf b

theorem AtMostOne.ofServed {s t : σ} (h : AtMostOne kind a) (herror : a s = (.error (.error e), t)) : e.OfServed := by
  cases h with
  | answered x => cases herror
  | failed e' he =>
    cases herror
    exact he
  | asked hop ha g =>
    obtain ⟨e', rfl⟩ := onStore_eq_error (Action.map_eq_error_iff.mp herror)
    exact fun _ _ => RepositoryError.noConfusion

/-- A call of one operation that fails leaves the store as it was. -/
theorem AtMostOne.eq_of_error {a : Call Store α} {s t : Store} {f : Failure RepositoryError} (h : AtMostOne kind a)
    (herror : a s = (.error f, t)) : t = s := by
  cases h with
  | answered x => cases herror
  | failed e he =>
    cases herror
    rfl
  | @asked _ op _ a ha g =>
    obtain ⟨f', hasked, -⟩ := Action.mapError_eq_error_iff.mp (Action.map_eq_error_iff.mp herror)
    have hperformed : op.perform s = (.error f', t) := by
      rw [ha, Action.discard, hasked]
      rfl
    exact StoreCall.perform_eq_error hperformed

end AtMostOne

section Walk

variable {σ : Type} [DocumentStore σ] {args : List Argument} {kind : StoreCall → Prop}

theorem atMostOne_save (hkind : ∀ op, op.OnDocuments r.schema.collection → kind op) (d : Document) :
    AtMostOne kind (r.save d : Call σ Bool) := by
  unfold save
  split
  · exact atMostOne_onStore (hkind _ (.upsertById _ _ d)) rfl
  · exact atMostOne_onStore (hkind _ (.insert d)) rfl

theorem atMostOne_predefined {op : Predefined} (hop : op ≠ .saveAll)
    (hkind : ∀ op, op.OnDocuments r.schema.collection → kind op)
    (hall : op = .deleteAll → args = [] → kind (.deleteCollection r.schema.collection)) :
    AtMostOne kind (op.run r method args : Call σ Outcome) := by
  unfold Predefined.run
  split
  case isTrue => exact .failed _ fun _ _ => RepositoryError.noConfusion
  case isFalse hlength =>
    cases op with
    | getCollectionName => exact .answered _
    | getUniqueId => exact .given (fun _ h => (Predefined.idOfEntityArg_eq_error h).ofServed) fun id => .answered _
    | findById =>
      exact .given (fun _ h => (Predefined.valueArg_eq_error h).ofServed) fun id => .asked (hkind _ (.findOne _ [])) rfl _
    | findAll => exact .asked (hkind _ (.find _ _)) rfl _
    | save => exact .given (fun _ h => (Predefined.entityArg_eq_error h).ofServed) fun d => (atMostOne_save hkind d).map _
    | saveAll => exact absurd rfl hop
    | delete =>
      exact .given (fun _ h => (Predefined.idOfEntityArg_eq_error h).ofServed) fun id => .asked (hkind _ (.deleteMany _)) rfl _
    | deleteById =>
      exact .given (fun _ h => (Predefined.valueArg_eq_error h).ofServed) fun id => .asked (hkind _ (.deleteMany _)) rfl _
    | deleteAll =>
      exact .asked (hall rfl (List.eq_nil_of_length_eq_zero (not_not.mp hlength))) rfl _
    | «exists» =>
      exact .given (fun _ h => (Predefined.idOfEntityArg_eq_error h).ofServed) fun id => .asked (hkind _ (.count _)) rfl _
    | existsById =>
      exact .given (fun _ h => (Predefined.valueArg_eq_error h).ofServed) fun id => .asked (hkind _ (.count _)) rfl _
    | updateAllFields =>
      exact .given (fun _ h => (Predefined.updatesArg_eq_error h).ofServed) fun updates => .asked (hkind _ (.updateMany _ updates)) rfl _

theorem atMostOne_runFind (filter : Filter) (options : FindOptions) :
    AtMostOne (StoreCall.OnDocuments r.schema.collection) (r.runFind spec filter options : Call σ Outcome) := by
  unfold runFind
  split
  · split
    · exact .asked (.findOne filter _) rfl _
    · exact .asked (.find filter _) rfl _
  · exact .asked (.find filter _) rfl _

theorem atMostOne_runSpec : AtMostOne (StoreCall.OnDocuments r.schema.collection) (r.runSpec spec args : Call σ Outcome) := by
  unfold runSpec
  split
  · exact .failed _ fun _ _ => RepositoryError.noConfusion
  · refine .given (fun _ => MethodSpec.filter_ofServed) fun filter => ?_
    cases spec.operation with
    | count => exact .asked (.count filter) rfl _
    | delete => exact .asked (.deleteMany filter) rfl _
    | «exists» => exact .asked (.count filter) rfl _
    | updateFields => exact .given (fun _ => updatesOf_ofServed) fun updates => .asked (.updateMany filter updates) rfl _
    | find => exact .given (fun _ => findOptions_ofServed) fun options => atMostOne_runFind filter options
    | page => exact .given (fun _ => findOptions_ofServed) fun options => atMostOne_runFind filter options

/-- A call does at most one operation, and to the collection of its repository, unless it saves several documents. -/
theorem atMostOne_invoke {asynchronous : Bool} {target : Target} (htarget : r.target? method asynchronous = some target)
    (hsave : target ≠ .predefined .saveAll) :
    AtMostOne (fun op => op.collection = r.schema.collection) (r.invoke method args asynchronous : Call σ Outcome) := by
  unfold invoke
  rw [htarget]
  cases target with
  | predefined op =>
    refine atMostOne_predefined ?_ (fun _ h => h.collection_eq) fun _ _ => rfl
    rintro rfl
    exact hsave rfl
  | derived spec => exact atMostOne_runSpec.mono fun _ h => h.collection_eq

end Walk

end Repository

end DocumentRepository
