import DocumentRepository.Contract.Argument
import DocumentRepository.Repository.Error
import DocumentRepository.Store.Access

/-! # Repositories

A repository serves one contract over one collection: it holds the schema and the specification
of every method that is read from its name. Documents go in and out under the id of the schema. -/
namespace DocumentRepository

structure Repository where
  contract : String
  schema : Schema
  /-- The methods read from their names, by declared name. -/
  methods : Table MethodSpec
  /-- The borrowed names, by declared name. -/
  transforms : Table String

namespace Repository

variable {σ α : Type}

abbrev Call (σ α : Type) := Action σ RepositoryError α

def onStore (a : Action σ StoreError α) : Call σ α := a.mapError .store

def idName (r : Repository) : String := r.schema.id.name

def idOf? (r : Repository) (d : Document) : Option Value := d.get? r.idName

def idFilter (r : Repository) (id : Value) : Filter := .eq r.idName id

def properId? (r : Repository) (d : Document) : Option Value := (r.idOf? d).filter (!·.isNull)

/-- Puts a document in the place of the one with its id; one without an id is added. -/
def save [DocumentStore σ] (r : Repository) (d : Document) : Call σ Bool :=
  match r.properId? d with
  | some id => onStore (DocumentStore.upsertById r.schema.collection r.idName id d)
  | none => onStore (DocumentStore.insert r.schema.collection d)

def resolveSort (r : Repository) (method : String) (keys : List SortKey) : Except RepositoryError (List SortKey) :=
  keys.mapM fun key =>
    match r.schema.field? key.field with
    | some f => .ok ⟨f.name, key.ascending⟩
    | none => .error (.unknownField method key.field)

def retarget (field : String) : FieldUpdate → FieldUpdate
  | .set _ value => .set field value
  | .unset _ => .unset field
  | .rename _ target => .rename field target

def resolveUpdate (r : Repository) (method : String) (update : FieldUpdate) : Except RepositoryError FieldUpdate :=
  match r.schema.field? update.field with
  | none => .error (.unknownField method update.field)
  | some f =>
    if f.name = r.idName then
      .error (.invalidArgument method 0 "an update of a non-id field" s!"an update of `{f.name}`")
    else .ok (retarget f.name update)

/-- Updates of stored names. The id cannot be updated. -/
def resolveUpdates (r : Repository) (method : String) (updates : UpdateBatch) : Except RepositoryError UpdateBatch :=
  updates.mapM (r.resolveUpdate method)

end Repository
end DocumentRepository
