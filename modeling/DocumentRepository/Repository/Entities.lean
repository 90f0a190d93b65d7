import DocumentRepository.Contract.Result
import DocumentRepository.Repository.Call
import DocumentRepository.Task.Handle
import DocumentRepository.Text.Words

/-! # Predefined operations on entities

The predefined operations as functions on entities, ids and updates. An entity becomes a document
before anything is called, and the outcome becomes what the function returns. -/
namespace DocumentRepository

namespace Predefined

inductive InputKind where
  | nothing
  | entity
  | entities
  | id
  | updates
  deriving DecidableEq, Repr, Inhabited

def inputKind : Predefined → InputKind
  | getUniqueId => .entity
  | save => .entity
  | delete => .entity
  | .exists => .entity
  | saveAll => .entities
  | findById => .id
  | deleteById => .id
  | existsById => .id
  | updateAllFields => .updates
  | _ => .nothing

def resultType (shape : EntityShape) : Predefined → ResultType
  | getCollectionName => .text
  | getUniqueId => .value
  | findById => .entity shape
  | findAll => .entities shape
  | _ => .bool

def hasAsyncFunction : Predefined → Bool
  | getCollectionName => false
  | getUniqueId => false
  | delete => false
  | .exists => false
  | _ => true

/-- The name of the function: that of the operation, getters without their verb. -/
def functionName : Predefined → String
  | getCollectionName => "collection_name"
  | getUniqueId => "unique_id"
  | op => Text.snakeCase op.name

def ofFunctionName? (name : String) : Option (Predefined × Bool) :=
  match every.find? (·.functionName == name) with
  | some op => some (op, false)
  | none =>
    (every.find? fun op => op.hasAsyncFunction && "async_" ++ op.functionName == name).map fun op => (op, true)

end Predefined

inductive EntityInput where
  | nothing
  | entity (e : Json)
  | entities (es : List Json)
  | id (v : Value)
  | updates (updates : UpdateBatch)
  deriving Inhabited

namespace EntityInput

def documentOf (e : Json) : Except RepositoryError Document := (Document.ofEntity e).mapError .notAnObject

def arguments : EntityInput → Except RepositoryError (List Argument)
  | nothing => .ok []
  | entity e => (documentOf e).map fun d => [.entity d]
  | entities es => (es.mapM documentOf).map fun ds => [.entities ds]
  | id v => .ok [.value v]
  | updates us => .ok [.update us]

end EntityInput

namespace Repository

variable {σ : Type}

def callFunction [DocumentStore σ] (r : Repository) (executor : Executor) (shape : EntityShape) (op : Predefined)
    (asynchronous : Bool) (input : EntityInput) : Call σ Result :=
  match input.arguments with
  | .error e => Action.fail e
  | .ok args =>
    let convert := Outcome.as (op.resultType shape)
    if asynchronous then executor.await (r.invokeAs convert op.asyncName args true)
    else r.invokeAs convert op.name args false

end Repository
end DocumentRepository
