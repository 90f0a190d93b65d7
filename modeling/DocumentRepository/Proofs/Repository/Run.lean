import DocumentRepository.Proofs.Repository.Preparation

/-! # Runs of a repository

A run begins with a repository that has just been obtained, and goes on with calls by name. To
obtain it creates the indexes of its schema, where the settings ask for them. A call does
operations on the documents of its collection one after another, whatever it ends with, and leaves
the indexes alone; only the call that deletes everything drops the collection, indexes and all.
-/
namespace DocumentRepository

structure NamedCall where
  method : String
  args : List Argument
  asynchronous : Bool

namespace NamedCall

def run (call : NamedCall) (r : Repository) (s : Store) : Except (Failure RepositoryError) Outcome × Store :=
  (r.invoke call.method call.args call.asynchronous : Repository.Call Store Outcome) s

/-- The store after calls one after another, failed ones included. -/
def runAll (r : Repository) (calls : List NamedCall) (s : Store) : Store := calls.foldl (fun s call => (call.run r s).2) s

end NamedCall

def Repository.ids (r : Repository) (s : Store) : List (Option Value) := (s.documents r.schema.collection).map r.idOf?

namespace Action

variable {σ ε α β : Type} [DocumentStore σ] {kind kind' : StoreCall → Prop} {a : Action σ ε α} {f : α → Action σ ε β}

/-- Whatever the action ends with, it has done operations of a kind to the store. -/
def Performs (kind : StoreCall → Prop) (a : Action σ ε α) : Prop :=
  ∀ s, ∃ ops : List StoreCall, (∀ op ∈ ops, kind op) ∧ (a s).2 = StoreCall.performAll ops s

theorem performs_pure (x : α) : (pure x : Action σ ε α).Performs kind := fun _ => ⟨[], by simp, rfl⟩

theorem performs_fail (e : ε) : (fail e : Action σ ε α).Performs kind := fun _ => ⟨[], by simp, rfl⟩

theorem Performs.mono (ha : a.Performs kind) (hkind : ∀ op, kind op → kind' op) : a.Performs kind' := by
  intro s
  obtain ⟨ops, hops, hs⟩ := ha s
  exact ⟨ops, fun op hop => hkind op (hops op hop), hs⟩

/-- A part of a call that is one operation of the store. -/
theorem performs_onStore {op : StoreCall} {a : Action σ StoreError α} (hop : kind op) (h : op.perform = a.discard) :
    (Repository.onStore a).Performs kind := by
  intro s
  refine ⟨[op], by simpa using hop, ?_⟩
  change _ = (op.perform s).2
  rw [h, discard, Repository.onStore, mapError]
  rcases a s with ⟨e | x, t⟩ <;> rfl

theorem Performs.bind (ha : a.Performs kind) (hf : ∀ x, (f x).Performs kind) : (a >>= f).Performs kind := by
  intro s
  obtain ⟨ops, hops, hs⟩ := ha s
  rw [bind_apply]
  rcases hres : a s with ⟨e | x, t⟩
  · rw [hres] at hs
    exact ⟨ops, hops, hs⟩
  · rw [hres] at hs
    obtain ⟨rest, hrest, ht⟩ := hf x t
    refine ⟨ops ++ rest, fun op hop => (List.mem_append.mp hop).elim (hops op) (hrest op), ?_⟩
    rw [ht, StoreCall.performAll, StoreCall.performAll, List.foldl_append]
    exact congrArg (List.foldl _ · rest) hs

/-- What is checked before the store is asked either fails or goes on. -/
theorem performs_given_ok {x : Except ε α} (hf : ∀ a, x = .ok a → (f a).Performs kind) :
    (ofExcept x >>= f).Performs kind := by
  cases x with
  | error e => exact performs_fail e
  | ok a =>
    have hgiven : (ofExcept (.ok a) >>= f : Action σ ε β) = f a := pure_bind a f
    rw [hgiven]
    exact hf a rfl

theorem performs_given {x : Except ε α} (hf : ∀ a, (f a).Performs kind) : (ofExcept x >>= f).Performs kind :=
  performs_given_ok fun a _ => hf a

end Action

namespace Repository

open StoreCall

variable {σ α : Type} [DocumentStore σ] {r : Repository} {method : String} {args : List Argument} {kind : StoreCall → Prop}

theorem AtMostOne.performs {a : Call σ α} (h : AtMostOne kind a) : a.Performs kind := by
  cases h with
  | answered x => exact Action.performs_pure x
  | failed e he => exact Action.performs_fail e
  | asked hop ha g => exact (Action.performs_onStore hop ha).bind fun x => Action.performs_pure (g x)

theorem performs_saveEach (ds : List Document) (acknowledged : Bool) :
    (Predefined.saveEach r ds acknowledged : Call σ Bool).Performs (OnDocuments r.schema.collection) := by
  induction ds generalizing acknowledged with
  | nil => exact Action.performs_pure acknowledged
  | cons d rest ih => exact (atMostOne_save (fun _ => id) d).performs.bind fun saved => ih (acknowledged && saved)

theorem performs_predefined {op : Predefined} (hop : ¬(op = .deleteAll ∧ args = [])) :
    (op.run r method args : Call σ Outcome).Performs (OnDocuments r.schema.collection) := by
  by_cases hsave : op = .saveAll
  · subst hsave
    unfold Predefined.run
    split
    · exact Action.performs_fail _
    · exact Action.performs_given fun ds => (performs_saveEach ds true).bind fun b => Action.performs_pure _
  · exact (atMostOne_predefined hsave (fun _ => id) fun hall hargs => absurd ⟨hall, hargs⟩ hop).performs

theorem performs_invoke (r : Repository) (method : String) (args : List Argument) (asynchronous : Bool) :
    (r.invoke method args asynchronous : Call σ Outcome).Performs fun op => op.collection = r.schema.collection := by
  cases htarget : r.target? method asynchronous with
  | none =>
    unfold invoke
    rw [htarget]
    exact Action.performs_fail _
  | some target =>
    by_cases hsave : target = .predefined .saveAll
    · subst hsave
      unfold invoke
      rw [htarget]
      exact (performs_predefined fun hall => Predefined.noConfusion hall.1).mono fun _ h => h.collection_eq
    · exact (atMostOne_invoke htarget hsave).performs

end Repository

namespace NamedCall

variable {r : Repository} {call : NamedCall}

/-- The call deletes everything, and is given no argument, as it must be. -/
def DeletesAll (call : NamedCall) (r : Repository) : Prop :=
  r.target? call.method call.asynchronous = some (.predefined .deleteAll) ∧ call.args = []

theorem run_deleteAll (h : call.DeletesAll r) (s : Store) :
    call.run r s = (.ok (.bool true), s.deleteCollection r.schema.collection) := by
  simp only [run, Repository.invoke, h.1, h.2]
  rfl

/-- A call drops its collection, or does operations on the documents of it. -/
theorem run_cases (call : NamedCall) (r : Repository) (s : Store) :
    (call.DeletesAll r ∧ (call.run r s).2 = s.deleteCollection r.schema.collection) ∨
      (¬call.DeletesAll r ∧ ∃ ops : List StoreCall, (∀ op ∈ ops, op.OnDocuments r.schema.collection) ∧
        (call.run r s).2 = StoreCall.performAll ops s) := by
  by_cases hall : call.DeletesAll r
  · exact Or.inl ⟨hall, by rw [run_deleteAll hall]⟩
  · refine Or.inr ⟨hall, ?_⟩
    unfold run Repository.invoke
    cases htarget : r.target? call.method call.asynchronous with
    | none => exact Action.performs_fail _ s
    | some target =>
      cases target with
      | derived spec => exact Repository.atMostOne_runSpec.performs s
      | predefined op =>
        refine Repository.performs_predefined ?_ s
        rintro ⟨rfl, hargs⟩
        exact hall ⟨htarget, hargs⟩

end NamedCall

namespace Registry

variable {g g' : Registry} {schema : Schema} {key : Nat} {describe : Except String Description} {p : Published}
  {s t : Store}

/-- What is new is built on an empty collection with no documents, and with the indexes of its schema if the
settings ask for them. -/
theorem collection_of_obtain (hnew : g.lookup? key = none) (h : g.obtain key describe s = (.ok (g', p), t))
    (hs : s.collection p.repository.schema.collection = .empty) :
    t.documents p.repository.schema.collection = [] ∧
      ∀ i, i ∈ t.indexes p.repository.schema.collection ↔
        g.config.createIndexes = true ∧ i ∈ p.repository.schema.indexes := by
  obtain ⟨d, -, -, hprepare, -⟩ := obtain_new_eq_ok hnew h
  cases hprepare.symm.trans (prepare_ok g p.repository.schema s)
  have hempty : indexesLeft p.repository.schema s = [] := by simp [indexesLeft, Store.indexes, hs, Collection.empty]
  rw [Store.documents, Store.indexes, collection_preparations, hempty, Store.documents, hs]
  cases g.config.createIndexes <;> simp [Collection.empty]

end Registry
end DocumentRepository
