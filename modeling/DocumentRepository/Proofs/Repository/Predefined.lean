import DocumentRepository.Proofs.Path
import DocumentRepository.Proofs.Repository.Soundness
import DocumentRepository.Repository.Entities

/-! # What predefined operations end with

An operation fails on the number of its arguments, on its argument or in the store, and each operation answers in one
form, whatever the store does. Each of them can succeed.
-/
namespace DocumentRepository

open Repository (Call)

namespace Predefined

variable {r : Repository} {method : String} {arg : Option Argument} {e : RepositoryError}

/-- How an operation fails that has as many arguments as it takes. -/
inductive Fault (method : String) : RepositoryError → Prop where
  | invalid (expected actual : String) : Fault method (.invalidArgument method 0 expected actual)
  | unknownField (field : String) : Fault method (.unknownField method field)
  | store (e : StoreError) : Fault method (.store e)

inductive Yields : Predefined → Outcome → Prop where
  | collectionName (s : String) : Yields getCollectionName (.text s)
  | uniqueId (v : Value) : Yields getUniqueId (.value v)
  | found (d : Option Document) : Yields findById (.entity d)
  | all (ds : List Document) : Yields findAll (.entities ds)
  | done {op : Predefined} (h : op.resultType .any = .bool) (b : Bool) : Yields op (.bool b)

section Argument

theorem entityArg_eq_ok {d : Document} (h : entityArg method arg = .ok d) : arg = some (.entity d) := by
  unfold entityArg at h
  split at h <;> cases h
  rfl

theorem entitiesArg_eq_ok {ds : List Document} (h : entitiesArg method arg = .ok ds) : arg = some (.entities ds) := by
  unfold entitiesArg at h
  split at h <;> cases h
  rfl

theorem valueArg_eq_error (h : valueArg method arg = .error e) : Fault method e := by
  unfold valueArg at h
  split at h <;> cases h <;> exact .invalid _ _

theorem entityArg_eq_error (h : entityArg method arg = .error e) : Fault method e := by
  unfold entityArg at h
  split at h <;> cases h
  exact .invalid _ _

theorem entitiesArg_eq_error (h : entitiesArg method arg = .error e) : Fault method e := by
  unfold entitiesArg at h
  split at h <;> cases h
  exact .invalid _ _

theorem idOfEntityArg_eq_error (h : idOfEntityArg r method arg = .error e) : Fault method e := by
  rcases bind_eq_error_iff.mp h with h | ⟨d, -, h⟩
  · exact entityArg_eq_error h
  · unfold entityId at h
    split at h <;> cases h
    exact .invalid _ _

theorem updatesArg_eq_error (h : updatesArg r method arg = .error e) : Fault method e := by
  unfold updatesArg at h
  split at h
  · cases Repository.resolveUpdates_eq_error h with
    | unknownField field => exact .unknownField field
    | idField actual => exact .invalid _ actual
  · cases h
    exact .invalid _ _

end Argument

section Run

variable {σ α : Type} {op : Predefined} {args : List Argument} {s t : σ} {out : Outcome}

theorem ends_onStore (method : String) (a : Action σ StoreError α) :
    (Repository.onStore a).Ends (fun _ => True) (Fault method) where
  ok _ _ _ _ := trivial
  error s t e hrun := by
    obtain ⟨e', rfl⟩ := Repository.onStore_eq_error hrun
    exact .store e'

variable [DocumentStore σ]

theorem ends_save (d : Document) : (r.save d : Call σ Bool).Ends (fun _ => True) (Fault method) := by
  unfold Repository.save
  split <;> exact ends_onStore method _

theorem ends_saveEach (ds : List Document) (acknowledged : Bool) :
    (saveEach r ds acknowledged : Call σ Bool).Ends (fun _ => True) (Fault method) := by
  induction ds generalizing acknowledged with
  | nil => exact Action.ends_pure trivial
  | cons d rest ih => exact (ends_save d).bind fun saved _ => ih (acknowledged && saved)

theorem ends_run (hargs : args.length = op.arity) : (op.run r method args : Call σ Outcome).Ends op.Yields (Fault method) := by
  -- Each operation reads its argument, if it takes one, then asks the store, and turns the answer into its outcome.
  have given {β : Type} {x : Except RepositoryError β} (hx : ∀ e, x = .error e → Fault method e) {f : β → Call σ Outcome}
      (hf : ∀ b, (f b).Ends op.Yields (Fault method)) : (Action.ofExcept x >>= f).Ends op.Yields (Fault method) :=
    (Action.ends_ofExcept hx).bind fun b _ => hf b
  have asked {β : Type} {a : Call σ β} (ha : a.Ends (fun _ => True) (Fault method)) {g : β → Outcome}
      (hg : ∀ b, op.Yields (g b)) : (a >>= fun b => pure (g b)).Ends op.Yields (Fault method) :=
    ha.bind fun b _ => Action.ends_pure (hg b)
  unfold run
  rw [if_neg (not_not.mpr hargs)]
  cases op with
  | getCollectionName => exact Action.ends_pure (.collectionName _)
  | getUniqueId => exact given (fun _ => idOfEntityArg_eq_error) fun id => Action.ends_pure (.uniqueId id)
  | findById => exact given (fun _ => valueArg_eq_error) fun id => asked (ends_onStore method _) .found
  | findAll => exact asked (ends_onStore method _) .all
  | save => exact given (fun _ => entityArg_eq_error) fun d => asked (ends_save d) (.done rfl)
  | saveAll => exact given (fun _ => entitiesArg_eq_error) fun ds => asked (ends_saveEach ds true) (.done rfl)
  | delete => exact given (fun _ => idOfEntityArg_eq_error) fun id => asked (ends_onStore method _) (.done rfl)
  | deleteById => exact given (fun _ => valueArg_eq_error) fun id => asked (ends_onStore method _) (.done rfl)
  | deleteAll => exact asked (ends_onStore method _) (.done rfl)
  | «exists» =>
    exact given (fun _ => idOfEntityArg_eq_error) fun id => asked (ends_onStore method _) fun n => .done rfl _
  | existsById => exact given (fun _ => valueArg_eq_error) fun id => asked (ends_onStore method _) fun n => .done rfl _
  | updateAllFields => exact given (fun _ => updatesArg_eq_error) fun updates => asked (ends_onStore method _) (.done rfl)

theorem run_of_length_ne (hargs : args.length ≠ op.arity) :
    (op.run r method args : Call σ Outcome) = Action.fail (.parameterCount method op.arity args.length) := by
  rw [run, if_pos hargs]

theorem run_eq_ok (h : (op.run r method args : Call σ Outcome) s = (.ok out, t)) :
    args.length = op.arity ∧ op.Yields out := by
  by_cases hargs : args.length = op.arity
  · exact ⟨hargs, (ends_run hargs).ok _ _ _ h⟩
  · rw [run_of_length_ne hargs] at h
    cases h

theorem run_eq_error (h : (op.run r method args : Call σ Outcome) s = (.error (.error e), t)) :
    args.length ≠ op.arity ∧ e = .parameterCount method op.arity args.length ∨
      args.length = op.arity ∧ Fault method e := by
  by_cases hargs : args.length = op.arity
  · exact .inr ⟨hargs, (ends_run hargs).error _ _ _ h⟩
  · rw [run_of_length_ne hargs] at h
    cases h
    exact .inl ⟨hargs, rfl⟩

end Run

/-- On an empty store every operation succeeds with some arguments. -/
theorem exists_run_eq_ok (op : Predefined) (r : Repository) (method : String) :
    ∃ args out t, args.length = op.arity ∧ (op.run r method args : Call Store Outcome) Store.empty = (.ok out, t) := by
  obtain ⟨d, hd⟩ : ∃ d : Document, r.properId? d = some (.bool true) := by
    obtain ⟨rest, hpath⟩ := pathNames_eq_cons r.idName
    refine ⟨⟨[(pathKey r.idName, (Value.bool true).nest rest)]⟩, ?_⟩
    have hid : Document.get? r.idName ⟨[(pathKey r.idName, (Value.bool true).nest rest)]⟩ = some (.bool true) := by
      rw [Document.get?, hpath]
      exact Value.descend_nest (.bool true) (pathKey r.idName :: rest)
    simp [Repository.properId?, Repository.idOf?, hid, Value.isNull]
  have hread : (Action.ofExcept (idOfEntityArg r method (some (.entity d))) : Call Store Value) Store.empty =
      (.ok (.bool true), Store.empty) := by
    refine Action.ofExcept_eq_ok_iff.mpr ⟨?_, rfl⟩
    simp [idOfEntityArg, entityArg, entityId, hd, bind, Except.bind]
  have hsave : ∃ t, (r.save d : Call Store Bool) Store.empty = (.ok true, t) := by
    unfold Repository.save
    rw [hd]
    exact ⟨_, rfl⟩
  cases op with
  | getCollectionName => exact ⟨[], _, _, rfl, rfl⟩
  | getUniqueId => exact ⟨[.entity d], _, _, rfl, Action.bind_eq_ok_iff.mpr ⟨_, _, hread, rfl⟩⟩
  | findById => exact ⟨[.value (.bool true)], _, _, rfl, rfl⟩
  | findAll => exact ⟨[], _, _, rfl, rfl⟩
  | save =>
    obtain ⟨t, hsave⟩ := hsave
    exact ⟨[.entity d], _, _, rfl, Action.bind_eq_ok_iff.mpr ⟨d, _, rfl, Action.bind_eq_ok_iff.mpr ⟨_, _, hsave, rfl⟩⟩⟩
  | saveAll => exact ⟨[.entities []], _, _, rfl, rfl⟩
  | delete => exact ⟨[.entity d], _, _, rfl, Action.bind_eq_ok_iff.mpr ⟨_, _, hread, rfl⟩⟩
  | deleteById => exact ⟨[.value (.bool true)], _, _, rfl, rfl⟩
  | deleteAll => exact ⟨[], _, _, rfl, rfl⟩
  | «exists» => exact ⟨[.entity d], _, _, rfl, Action.bind_eq_ok_iff.mpr ⟨_, _, hread, rfl⟩⟩
  | existsById => exact ⟨[.value (.bool true)], _, _, rfl, rfl⟩
  | updateAllFields => exact ⟨[.update []], _, _, rfl, rfl⟩

end Predefined

end DocumentRepository
