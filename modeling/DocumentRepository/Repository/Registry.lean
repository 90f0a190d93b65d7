import DocumentRepository.Repository.Call
import DocumentRepository.Repository.Config
import DocumentRepository.Task.Handle
import DocumentRepository.Text.Quoted

/-! # Registries

A registry builds the repository of a contract when it is first asked for and hands the same one
out from then on. What fails to build is not kept, so the next request tries again. A contract
is known by a key, and says what it declares each time it is built. -/
namespace DocumentRepository

structure Description where
  entity : EntityDeclaration
  contract : Contract
  deriving Inhabited

/-- A repository that has been handed out, told apart from others by its number. -/
structure Published where
  number : Nat
  repository : Repository

structure Registry where
  config : RegistryConfig
  executor : Executor
  published : List (Nat × Published)
  built : Nat

namespace Registry

variable {σ : Type}

def new (config : RegistryConfig) (executor : Option Executor) : Registry :=
  let standard := match config.workerThreads with
    | some threads => .pool threads
    | none => .thread
  ⟨config, executor.getD standard, [], 0⟩

def lookup? (g : Registry) (key : Nat) : Option Published := g.published.lookup key

def size (g : Registry) : Nat := g.published.length

/-- The methods of a contract, each checked in its turn; `seen` holds the names before. -/
def compileMethods (schema : Schema) (seen : List String) (methods : Table MethodSpec) (transforms : Table String) :
    List Method → Except ValidationError (Table MethodSpec × Table String)
  | [] => .ok (methods, transforms)
  | m :: rest => do
    if seen.contains m.name then .error (.duplicateMethod m.name)
    else
      let transforms := match m.transform with
        | some target => Table.insert m.name target transforms
        | none => transforms
      if Predefined.serves m.effectiveName m.asynchronous m.transform.isSome then
        compileMethods schema (m.name :: seen) methods transforms rest
      else
        let spec ← MethodSpec.compile schema m
        compileMethods schema (m.name :: seen) (Table.insert m.name spec methods) transforms rest

def validate (d : Description) : Except ValidationError Repository := do
  let schema ← d.entity.resolve.mapError .schema
  let (methods, transforms) ← compileMethods schema [] [] [] d.contract.methods
  return ⟨d.contract.name, schema, methods, transforms⟩

open Repository in
def createIndexes [DocumentStore σ] (collection : String) : List Index → Call σ Unit
  | [] => pure ()
  | index :: rest => do
    onStore (DocumentStore.createIndex collection index)
    createIndexes collection rest

open Repository in
def prepare [DocumentStore σ] (g : Registry) (schema : Schema) : Call σ Unit := do
  if schema.dropsEntities then
    let _ ← onStore (DocumentStore.deleteCollection schema.collection)
  if schema.dropsIndexes then onStore (DocumentStore.dropIndexes schema.collection)
  if g.config.createIndexes then createIndexes schema.collection schema.indexes

open Repository in
/-- Builds the repository of a description. Nothing is done to the store before all is checked. -/
def build [DocumentStore σ] (g : Registry) (d : Description) : Call σ Repository :=
  match validate d with
  | .error cause => Action.fail (.registration d.contract.name cause)
  | .ok r => do
    g.prepare r.schema
    return r

def publish (g : Registry) (key : Nat) (r : Repository) : Registry × Published :=
  let p := ⟨g.built, r⟩
  ({ g with published := (key, p) :: g.published, built := g.built + 1 }, p)

open Repository in
/-- Builds the repository of what a contract says of itself. To describe a contract can panic. -/
def buildDescribed [DocumentStore σ] (g : Registry) (describe : Except String Description) : Call σ Repository :=
  match describe with
  | .error text => Action.panic text
  | .ok d => g.build d

open Repository in
def obtain [DocumentStore σ] (g : Registry) (key : Nat) (describe : Except String Description) :
    Call σ (Registry × Published) :=
  match g.lookup? key with
  | some p => pure (g, p)
  | none => do
    let r ← g.buildDescribed describe
    return g.publish key r

def displayRepository (r : Repository) : String :=
  s!"Repository \x7b contract: {Text.quoted r.contract}, collection: {Text.quoted r.schema.collection}, " ++
    s!"methods: {r.methods.length} \x7d"

def display (g : Registry) : String :=
  s!"RepositoryRegistry \x7b config: {g.config.display}, published: {g.size}, .. \x7d"

end Registry
end DocumentRepository
