import DocumentRepository.Directive
import DocumentRepository.Filter
import DocumentRepository.StableSort
import DocumentRepository.Store.Error

/-! # The store in memory

A store holds collections of documents in the order of their insertion, and indexes on them. A
write to a collection either succeeds or leaves the store as it was: two documents of one
collection never come to agree on the keys of a unique index by a write. -/
namespace DocumentRepository

structure FindOptions where
  sort : List SortKey
  skip : Option Nat
  limit : Option Nat
  deriving DecidableEq, Repr, Inhabited

def FindOptions.plain : FindOptions := ⟨[], none, none⟩

def Index.tuple (index : Index) (d : Document) : List Value := index.keys.map fun key => d.getOrNull key.field

def tuplesAgree (a b : List Value) : Bool := (a.zip b).all fun pair => pair.1.looseEqual pair.2

/-- The order of two documents under sort keys, the first key that tells them apart deciding. -/
def compareDocuments : List SortKey → Document → Document → Ordering
  | [], _, _ => .eq
  | key :: rest, a, b =>
    let o := (a.getOrNull key.field).sortOrder (b.getOrNull key.field)
    match if key.ascending then o else o.swap with
    | .eq => compareDocuments rest a b
    | o => o

def sortDocuments (keys : List SortKey) (ds : List Document) : List Document :=
  stableSort (fun a b => (compareDocuments keys a b).isLT) ds

@[simp] theorem sortDocuments_nil (ds : List Document) : sortDocuments [] ds = ds :=
  stableSort_of_never_less (fun _ _ => rfl) ds

structure Collection where
  documents : List Document
  indexes : List Index
  deriving Inhabited

namespace Collection

def empty : Collection := ⟨[], []⟩

def clash? (c : Collection) (others : List Document) (d : Document) : Option Index :=
  (c.indexes.filter (·.unique)).find? fun index =>
    others.any fun other => tuplesAgree (index.tuple other) (index.tuple d)

def checkUnique (c : Collection) (name : String) (others : List Document) (d : Document) : Except StoreError Unit :=
  match c.clash? others d with
  | some index => .error (.duplicateKey name index.name)
  | none => .ok ()

def insert (c : Collection) (name : String) (d : Document) : Except StoreError Collection := do
  c.checkUnique name c.documents d
  return { c with documents := c.documents ++ [d] }

def hasId (idField : String) (id : Value) (d : Document) : Bool :=
  ((d.get? idField).map (·.looseEqual id)).getD false

/-- Puts a document in the place of the first one with an id, or at the end. -/
def upsert (c : Collection) (name idField : String) (id : Value) (d : Document) : Except StoreError Collection :=
  match c.documents.findIdx? (hasId idField id) with
  | some i => do
    c.checkUnique name (c.documents.eraseIdx i) d
    return { c with documents := c.documents.set i d }
  | none => c.insert name d

def delete (c : Collection) (filter : Filter) : Collection :=
  { c with documents := c.documents.filter fun d => !filter.holds d }

def updated (c : Collection) (filter : Filter) (updates : UpdateBatch) : List (Document × Bool) :=
  c.documents.map fun d => if filter.holds d then (updates.apply d, true) else (d, false)

/-- Checks the updated documents in their order, each against all the others. -/
def checkUpdated (c : Collection) (name : String) (before : List Document) : List (Document × Bool) → Except StoreError Unit
  | [] => .ok ()
  | (d, touched) :: rest => do
    if touched then c.checkUnique name (before ++ rest.map (·.1)) d
    checkUpdated c name (before ++ [d]) rest

def update (c : Collection) (name : String) (filter : Filter) (updates : UpdateBatch) : Except StoreError Collection := do
  let ds := c.updated filter updates
  c.checkUpdated name [] ds
  return { c with documents := ds.map (·.1) }

def createIndex (c : Collection) (index : Index) : Collection :=
  if c.indexes.contains index then c else { c with indexes := c.indexes ++ [index] }

def search (c : Collection) (filter : Filter) (keys : List SortKey) : List Document :=
  sortDocuments keys (c.documents.filter filter.holds)

end Collection

structure Store where
  collections : Table Collection
  indexCreations : Nat
  deriving Inhabited

namespace Store

def empty : Store := ⟨[], 0⟩

/-- The collection of a name; one that is not there is empty. -/
def collection (s : Store) (name : String) : Collection := (Table.find? name s.collections).getD .empty

def put (s : Store) (name : String) (c : Collection) : Store :=
  { s with collections := Table.insert name c s.collections }

@[simp] theorem collection_put_self (s : Store) (name : String) (c : Collection) :
    (s.put name c).collection name = c := by simp [put, collection]

theorem collection_put_of_ne {name other : String} (h : other ≠ name) (s : Store) (c : Collection) :
    (s.put name c).collection other = s.collection other := by simp [put, collection, h]

def documents (s : Store) (name : String) : List Document := (s.collection name).documents

def indexes (s : Store) (name : String) : List Index := (s.collection name).indexes

def find (s : Store) (name : String) (filter : Filter) (options : FindOptions) : List Document :=
  let found := ((s.collection name).search filter options.sort).drop (options.skip.getD 0)
  match options.limit with
  | some limit => found.take limit
  | none => found

def findOne (s : Store) (name : String) (filter : Filter) (keys : List SortKey) : Option Document :=
  ((s.collection name).search filter keys).head?

def count (s : Store) (name : String) (filter : Filter) : Nat := (s.documents name).countP filter.holds

def insert (s : Store) (name : String) (d : Document) : Except StoreError Store := do
  return s.put name (← (s.collection name).insert name d)

def upsertById (s : Store) (name idField : String) (id : Value) (d : Document) : Except StoreError Store := do
  return s.put name (← (s.collection name).upsert name idField id d)

def deleteMany (s : Store) (name : String) (filter : Filter) : Store := s.put name ((s.collection name).delete filter)

def updateMany (s : Store) (name : String) (filter : Filter) (updates : UpdateBatch) : Except StoreError Store := do
  return s.put name (← (s.collection name).update name filter updates)

def deleteCollection (s : Store) (name : String) : Store :=
  { s with collections := Table.erase name s.collections }

def createIndex (s : Store) (name : String) (index : Index) : Store :=
  { s.put name ((s.collection name).createIndex index) with indexCreations := s.indexCreations + 1 }

def dropIndexes (s : Store) (name : String) : Store :=
  s.put name { s.collection name with indexes := [] }

end Store
end DocumentRepository
