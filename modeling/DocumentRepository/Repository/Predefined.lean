import DocumentRepository.Repository.Basic
import DocumentRepository.Text.CaseMap

/-! # Predefined operations

Every repository has these operations without declaring them. Each has a fixed name and number
of arguments, and a second name for asynchronous calls. -/
namespace DocumentRepository

inductive Predefined where
  | getCollectionName
  | getUniqueId
  | findById
  | findAll
  | save
  | saveAll
  | delete
  | deleteById
  | deleteAll
  | exists
  | existsById
  | updateAllFields
  deriving DecidableEq, Repr, Inhabited

namespace Predefined

def every : List Predefined :=
  [getCollectionName, getUniqueId, findById, findAll, save, saveAll, delete, deleteById, deleteAll, .exists,
    existsById, updateAllFields]

def name : Predefined → String
  | getCollectionName => "getCollectionName"
  | getUniqueId => "getUniqueId"
  | findById => "findById"
  | findAll => "findAll"
  | save => "save"
  | saveAll => "saveAll"
  | delete => "delete"
  | deleteById => "deleteById"
  | deleteAll => "deleteAll"
  | .exists => "exists"
  | existsById => "existsById"
  | updateAllFields => "updateAllFields"

def arity : Predefined → Nat
  | getCollectionName => 0
  | findAll => 0
  | deleteAll => 0
  | _ => 1

def asyncName (op : Predefined) : String := "async" ++ String.ofList (Text.capitalizeFirst op.name.toList)

def ofName? (name : String) : Option Predefined := every.find? (·.name == name)

def ofAsyncName? (name : String) : Option Predefined := every.find? (·.asyncName == name)

/-- Whether a predefined operation serves a method. Only an asynchronous method that borrows no
name is served under the second name. -/
def serves (name : String) (asynchronous transformed : Bool) : Bool :=
  (ofName? name).isSome || (asynchronous && !transformed && (ofAsyncName? name).isSome)

/-! ## Arguments -/

def invalid (method expected : String) (arg : Option Argument) : RepositoryError :=
  .invalidArgument method 0 expected (Argument.kindOf arg)

def valueArg (method : String) : Option Argument → Except RepositoryError Value
  | some (.value .null) => .error (invalid method "non-null id value" (some (.value .null)))
  | some (.value v) => .ok v
  | arg => .error (invalid method "non-null id value" arg)

def entityArg (method : String) : Option Argument → Except RepositoryError Document
  | some (.entity d) => .ok d
  | arg => .error (invalid method "entity" arg)

def entitiesArg (method : String) : Option Argument → Except RepositoryError (List Document)
  | some (.entities ds) => .ok ds
  | arg => .error (invalid method "entity list" arg)

def updatesArg (r : Repository) (method : String) : Option Argument → Except RepositoryError UpdateBatch
  | some (.update updates) => r.resolveUpdates method updates
  | arg => .error (invalid method "UpdateBatch" arg)

def entityId (r : Repository) (method : String) (d : Document) : Except RepositoryError Value :=
  match r.properId? d with
  | some id => .ok id
  | none => .error (.invalidArgument method 0 s!"an entity with a `{r.idName}` id" "an entity without one")

def idOfEntityArg (r : Repository) (method : String) (arg : Option Argument) : Except RepositoryError Value := do
  entityId r method (← entityArg method arg)

/-! ## Running -/

open Repository in
def saveEach {σ : Type} [DocumentStore σ] (r : Repository) : List Document → Bool → Call σ Bool
  | [], acknowledged => pure acknowledged
  | d :: rest, acknowledged => do
    let saved ← r.save d
    saveEach r rest (acknowledged && saved)

open Repository in
def run {σ : Type} [DocumentStore σ] (op : Predefined) (r : Repository) (method : String) (args : List Argument) :
    Call σ Outcome := do
  if args.length ≠ op.arity then Action.fail (.parameterCount method op.arity args.length)
  else
    let collection := r.schema.collection
    let arg := args.getLast?
    match op with
    | getCollectionName => return .text collection
    | getUniqueId => return .value (← Action.ofExcept (idOfEntityArg r method arg))
    | findById =>
      let id ← Action.ofExcept (valueArg method arg)
      return .entity (← onStore (DocumentStore.findOne collection (r.idFilter id) []))
    | findAll => return .entities (← onStore (DocumentStore.find collection .all FindOptions.plain))
    | save =>
      let d ← Action.ofExcept (entityArg method arg)
      return .bool (← r.save d)
    | saveAll =>
      let ds ← Action.ofExcept (entitiesArg method arg)
      return .bool (← saveEach r ds true)
    | delete =>
      let id ← Action.ofExcept (idOfEntityArg r method arg)
      return .bool (← onStore (DocumentStore.deleteMany collection (r.idFilter id)))
    | deleteById =>
      let id ← Action.ofExcept (valueArg method arg)
      return .bool (← onStore (DocumentStore.deleteMany collection (r.idFilter id)))
    | deleteAll => return .bool (← onStore (DocumentStore.deleteCollection collection))
    | .exists =>
      let id ← Action.ofExcept (idOfEntityArg r method arg)
      return .bool (0 < (← onStore (DocumentStore.count collection (r.idFilter id))))
    | existsById =>
      let id ← Action.ofExcept (valueArg method arg)
      return .bool (0 < (← onStore (DocumentStore.count collection (r.idFilter id))))
    | updateAllFields =>
      let updates ← Action.ofExcept (updatesArg r method arg)
      return .bool (← onStore (DocumentStore.updateMany collection .all updates))

end Predefined
end DocumentRepository
