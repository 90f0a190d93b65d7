import DocumentRepository.Query.Compile
import DocumentRepository.Repository.Predefined

/-! # Calls by name

A call goes to the predefined operation of its effective name, then to that of an asynchronous
name, then to the method that was read from the declared name. -/
namespace DocumentRepository
namespace Repository

variable {σ α : Type}

def badDirective (spec : MethodSpec) (expected : String) (arg : Option Argument) : RepositoryError :=
  .invalidArgument spec.method spec.chain.arity expected (Argument.kindOf arg)

/-- Sorting and window of a call: those of its directive, or those the method is annotated with. -/
def findOptions (r : Repository) (spec : MethodSpec) (directive : Option Argument) : Except RepositoryError FindOptions :=
  match spec.trailing, directive with
  | none, _ => .ok ⟨spec.sort, spec.skip, spec.limit⟩
  | some .sort, some (.sort s) => do return ⟨← r.resolveSort spec.method s.keys, s.skip, s.limit⟩
  | some .pagination, some (.pagination p) => do
    return ⟨← r.resolveSort spec.method p.keys, some p.skip, some p.limit⟩
  | some .sort, other => .error (badDirective spec "Sort" other)
  | some _, other => .error (badDirective spec "Pagination" other)

def updatesOf (r : Repository) (spec : MethodSpec) : Option Argument → Except RepositoryError UpdateBatch
  | some (.update updates) => r.resolveUpdates spec.method updates
  | other => .error (badDirective spec "UpdateBatch" other)

def runFind [DocumentStore σ] (r : Repository) (spec : MethodSpec) (filter : Filter) (options : FindOptions) :
    Call σ Outcome := do
  let collection := r.schema.collection
  match spec.cardinality with
  | .first =>
    if options.skip.isNone then return .entity (← onStore (DocumentStore.findOne collection filter options.sort))
    else
      let found ← onStore (DocumentStore.find collection filter { options with limit := some 1 })
      return .entity found.head?
  | .many => return .entities (← onStore (DocumentStore.find collection filter options))

def runSpec [DocumentStore σ] (r : Repository) (spec : MethodSpec) (args : List Argument) : Call σ Outcome := do
  if args.length ≠ spec.paramCount then
    Action.fail (.parameterCount spec.method spec.paramCount args.length)
  else
    let filter ← Action.ofExcept (spec.filter args)
    let collection := r.schema.collection
    let directive := args[spec.chain.arity]?
    match spec.operation with
    | .count => return .count (← onStore (DocumentStore.count collection filter))
    | .delete => return .bool (← onStore (DocumentStore.deleteMany collection filter))
    | .exists => return .bool (0 < (← onStore (DocumentStore.count collection filter)))
    | .updateFields =>
      let updates ← Action.ofExcept (r.updatesOf spec directive)
      return .bool (← onStore (DocumentStore.updateMany collection filter updates))
    | .find | .page =>
      let options ← Action.ofExcept (r.findOptions spec directive)
      r.runFind spec filter options

inductive Target where
  | predefined (op : Predefined)
  | derived (spec : MethodSpec)

def target? (r : Repository) (method : String) (asynchronous : Bool) : Option Target :=
  let transform := Table.find? method r.transforms
  match Predefined.ofName? (transform.getD method) with
  | some op => some (.predefined op)
  | none =>
    match if asynchronous && transform.isNone then Predefined.ofAsyncName? method else none with
    | some op => some (.predefined op)
    | none => (Table.find? method r.methods).map .derived

def invoke [DocumentStore σ] (r : Repository) (method : String) (args : List Argument) (asynchronous : Bool) :
    Call σ Outcome :=
  match r.target? method asynchronous with
  | some (.predefined op) => op.run r method args
  | some (.derived spec) => r.runSpec spec args
  | none => Action.fail (.unsupported method r.contract)

def invokeAs [DocumentStore σ] (r : Repository) (convert : Outcome → Except RepositoryError α) (method : String)
    (args : List Argument) (asynchronous : Bool) : Call σ α := do
  Action.ofExcept (convert (← r.invoke method args asynchronous))

end Repository
end DocumentRepository
