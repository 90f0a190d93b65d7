import DocumentRepository.Store.Access

/-! # A watched store

A watched store notes every operation and can be told to fail: the next operations of a name
return an error, panic, or do nothing and answer as if there were nothing. -/
namespace DocumentRepository

inductive StoreCall where
  | find (collection : String) (filter : Filter) (options : FindOptions)
  | findOne (collection : String) (filter : Filter) (sort : List SortKey)
  | count (collection : String) (filter : Filter)
  | deleteMany (collection : String) (filter : Filter)
  | updateMany (collection : String) (filter : Filter) (updates : UpdateBatch)
  | upsertById (collection idField : String) (id : Value) (d : Document)
  | insert (collection : String) (d : Document)
  | deleteCollection (collection : String)
  | createIndex (collection : String) (index : Index)
  | dropIndexes (collection : String)

namespace StoreCall

def name : StoreCall → String
  | find .. => "find"
  | findOne .. => "find_one"
  | count .. => "count"
  | deleteMany .. => "delete_many"
  | updateMany .. => "update_many"
  | upsertById .. => "upsert_by_id"
  | insert .. => "insert"
  | deleteCollection .. => "delete_collection"
  | createIndex .. => "create_index"
  | dropIndexes .. => "drop_indexes"

def collection : StoreCall → String
  | find c .. => c
  | findOne c .. => c
  | count c .. => c
  | deleteMany c .. => c
  | updateMany c .. => c
  | upsertById c .. => c
  | insert c .. => c
  | deleteCollection c => c
  | createIndex c .. => c
  | dropIndexes c => c

end StoreCall

inductive Fault where
  | error (text : String)
  | panic (text : String)
  | refuse
  deriving DecidableEq, Repr, Inhabited

structure WatchedStore where
  store : Store
  calls : List StoreCall
  /-- For names of operations, a way to fail and how often. -/
  faults : Table (Fault × Nat)

namespace WatchedStore

def empty : WatchedStore := ⟨Store.empty, [], []⟩

def withFault (w : WatchedStore) (name : String) (fault : Fault) (times : Nat) : WatchedStore :=
  { w with faults := Table.insert name (fault, times) w.faults }

def takeFault (w : WatchedStore) (name : String) : Option Fault × WatchedStore :=
  match Table.find? name w.faults with
  | some (fault, times + 1) => (some fault, w.withFault name fault times)
  | _ => (none, w)

def inside {α : Type} (act : Action Store StoreError α) : Action WatchedStore StoreError α := fun w =>
  let (answer, store) := act w.store
  (answer, { w with store })

/-- Notes an operation and does it, unless a fault is due. -/
def watch {α : Type} (call : StoreCall) (refused : α) (act : Action Store StoreError α) :
    Action WatchedStore StoreError α := fun w =>
  let (fault, w) := { w with calls := w.calls ++ [call] }.takeFault call.name
  match fault with
  | some (.error text) => (.error (.error (.backend text)), w)
  | some (.panic text) => (.error (.panic text), w)
  | some .refuse => (.ok refused, w)
  | none => inside act w

instance : DocumentStore WatchedStore where
  find name filter options := watch (.find name filter options) [] (DocumentStore.find name filter options)
  findOne name filter keys := watch (.findOne name filter keys) none (DocumentStore.findOne name filter keys)
  count name filter := watch (.count name filter) 0 (DocumentStore.count name filter)
  deleteMany name filter := watch (.deleteMany name filter) false (DocumentStore.deleteMany name filter)
  updateMany name filter updates :=
    watch (.updateMany name filter updates) false (DocumentStore.updateMany name filter updates)
  upsertById name idField id d :=
    watch (.upsertById name idField id d) false (DocumentStore.upsertById name idField id d)
  insert name d := watch (.insert name d) false (DocumentStore.insert name d)
  deleteCollection name := watch (.deleteCollection name) false (DocumentStore.deleteCollection name)
  createIndex name index := watch (.createIndex name index) () (DocumentStore.createIndex name index)
  dropIndexes name := watch (.dropIndexes name) () (DocumentStore.dropIndexes name)

end WatchedStore
end DocumentRepository
