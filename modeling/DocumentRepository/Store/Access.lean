import DocumentRepository.Store.Basic

/-! # Access to a store

Repositories reach a store through its operations alone. An operation ends with an answer, with
an error, or by a panic of the store; whatever it ends with, the store may have changed. -/
namespace DocumentRepository

inductive Failure (ε : Type) where
  | error (e : ε)
  | panic (text : String)
  deriving Repr

def Failure.map {ε δ : Type} (f : ε → δ) : Failure ε → Failure δ
  | error e => error (f e)
  | panic text => panic text

abbrev Action (σ ε α : Type) := ExceptT (Failure ε) (StateM σ) α

namespace Action

variable {σ ε δ α : Type}

def read (f : σ → α) : Action σ ε α := fun s => (.ok (f s), s)

/-- A write that either succeeds and answers true or leaves the store as it was. -/
def write (f : σ → Except ε σ) : Action σ ε Bool := fun s =>
  match f s with
  | .ok s' => (.ok true, s')
  | .error e => (.error (.error e), s)

def fail (e : ε) : Action σ ε α := fun s => (.error (.error e), s)

def panic (text : String) : Action σ ε α := fun s => (.error (.panic text), s)

def ofExcept : Except ε α → Action σ ε α
  | .ok a => pure a
  | .error e => fail e

def mapError (f : ε → δ) (a : Action σ ε α) : Action σ δ α := fun s =>
  match a s with
  | (.ok x, s) => (.ok x, s)
  | (.error e, s) => (.error (e.map f), s)

end Action

/-- The operations of a store. Truth values say whether a write was acknowledged. -/
class DocumentStore (σ : Type) where
  find : String → Filter → FindOptions → Action σ StoreError (List Document)
  findOne : String → Filter → List SortKey → Action σ StoreError (Option Document)
  count : String → Filter → Action σ StoreError Nat
  deleteMany : String → Filter → Action σ StoreError Bool
  updateMany : String → Filter → UpdateBatch → Action σ StoreError Bool
  upsertById : String → String → Value → Document → Action σ StoreError Bool
  insert : String → Document → Action σ StoreError Bool
  deleteCollection : String → Action σ StoreError Bool
  createIndex : String → Index → Action σ StoreError Unit
  dropIndexes : String → Action σ StoreError Unit

instance : DocumentStore Store where
  find name filter options := Action.read fun s => s.find name filter options
  findOne name filter keys := Action.read fun s => s.findOne name filter keys
  count name filter := Action.read fun s => s.count name filter
  deleteMany name filter := Action.write fun s => .ok (s.deleteMany name filter)
  updateMany name filter updates := Action.write fun s => s.updateMany name filter updates
  upsertById name idField id d := Action.write fun s => s.upsertById name idField id d
  insert name d := Action.write fun s => s.insert name d
  deleteCollection name := Action.write fun s => .ok (s.deleteCollection name)
  createIndex name index := fun s => (.ok (), s.createIndex name index)
  dropIndexes name := fun s => (.ok (), s.dropIndexes name)

end DocumentRepository
