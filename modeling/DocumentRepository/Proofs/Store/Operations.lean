import DocumentRepository.Store.Watched

/-! # What one operation does to the store in memory

Every operation works on one collection. Its effect on that collection either fails, and then
nothing is changed at all, or says what the collection becomes, all others being left alone.
-/
namespace DocumentRepository

def Action.discard {σ ε α : Type} (a : Action σ ε α) : Action σ ε Unit := fun s => ((a s).1.map fun _ => (), (a s).2)

namespace StoreCall

def perform {σ : Type} [DocumentStore σ] : StoreCall → Action σ StoreError Unit
  | find name filter options => Action.discard (DocumentStore.find name filter options)
  | findOne name filter keys => Action.discard (DocumentStore.findOne name filter keys)
  | count name filter => Action.discard (DocumentStore.count name filter)
  | deleteMany name filter => Action.discard (DocumentStore.deleteMany name filter)
  | updateMany name filter updates => Action.discard (DocumentStore.updateMany name filter updates)
  | upsertById name idField id d => Action.discard (DocumentStore.upsertById name idField id d)
  | insert name d => Action.discard (DocumentStore.insert name d)
  | deleteCollection name => Action.discard (DocumentStore.deleteCollection name)
  | createIndex name index => DocumentStore.createIndex name index
  | dropIndexes name => DocumentStore.dropIndexes name

def effect (call : StoreCall) (c : Collection) : Except StoreError Collection :=
  match call with
  | deleteMany _ filter => .ok (c.delete filter)
  | updateMany name filter updates => c.update name filter updates
  | upsertById name idField id d => c.upsert name idField id d
  | insert name d => c.insert name d
  | deleteCollection _ => .ok .empty
  | createIndex _ index => .ok (c.createIndex index)
  | dropIndexes _ => .ok { c with indexes := [] }
  | _ => .ok c

end StoreCall

namespace Store

variable {name other : String}

theorem collection_createIndex (s : Store) (name : String) (index : Index) :
    (s.createIndex name index).collection name = (s.collection name).createIndex index :=
  collection_put_self s name _

theorem collection_deleteCollection_self (s : Store) (name : String) :
    (s.deleteCollection name).collection name = .empty := by
  simp [collection, deleteCollection, Table.find?_erase_self]

theorem collection_deleteCollection_of_ne (h : other ≠ name) (s : Store) :
    (s.deleteCollection name).collection other = s.collection other := by
  simp [collection, deleteCollection, Table.find?_erase_of_ne h]

def AgreeOutside (name : String) (s s' : Store) : Prop := ∀ other, other ≠ name → s'.collection other = s.collection other

theorem AgreeOutside.refl (name : String) (s : Store) : AgreeOutside name s s := fun _ _ => rfl

theorem agreeOutside_put (name : String) (s : Store) (c : Collection) : AgreeOutside name s (s.put name c) :=
  fun _ h => collection_put_of_ne h s c

end Store

namespace StoreCall

variable {call : StoreCall} {s : Store}

theorem discard_write_of_ok {name : String} {f : Store → Except StoreError Store}
    {g : Collection → Except StoreError Collection} {c : Collection}
    (hf : f s = (g (s.collection name)).map (s.put name)) (h : g (s.collection name) = .ok c) :
    Action.discard (Action.write f) s = (.ok (), s.put name c) := by
  simp only [Action.discard, Action.write, hf, h, Except.map]

theorem discard_write_of_error {name : String} {f : Store → Except StoreError Store}
    {g : Collection → Except StoreError Collection} {e : StoreError}
    (hf : f s = (g (s.collection name)).map (s.put name)) (h : g (s.collection name) = .error e) :
    Action.discard (Action.write f) s = (.error (.error e), s) := by
  simp only [Action.discard, Action.write, hf, h, Except.map]

theorem insert_eq_map (s : Store) (name : String) (d : Document) :
    s.insert name d = ((s.collection name).insert name d).map (s.put name) := by
  unfold Store.insert
  cases (s.collection name).insert name d <;> rfl

theorem upsertById_eq_map (s : Store) (name idField : String) (id : Value) (d : Document) :
    s.upsertById name idField id d = ((s.collection name).upsert name idField id d).map (s.put name) := by
  unfold Store.upsertById
  cases (s.collection name).upsert name idField id d <;> rfl

theorem updateMany_eq_map (s : Store) (name : String) (filter : Filter) (updates : UpdateBatch) :
    s.updateMany name filter updates = ((s.collection name).update name filter updates).map (s.put name) := by
  unfold Store.updateMany
  cases (s.collection name).update name filter updates <;> rfl

/-- An operation that fails leaves the store as it was. -/
theorem perform_of_error {e : StoreError} (h : call.effect (s.collection call.collection) = .error e) :
    call.perform s = (.error (.error e), s) := by
  cases call with
  | insert name d => exact discard_write_of_error (insert_eq_map s name d) h
  | upsertById name idField id d => exact discard_write_of_error (upsertById_eq_map s name idField id d) h
  | updateMany name filter updates => exact discard_write_of_error (updateMany_eq_map s name filter updates) h
  | _ => cases h

/-- An operation that succeeds leaves its effect behind, and other collections as they were. -/
theorem perform_of_ok {c : Collection} (h : call.effect (s.collection call.collection) = .ok c) :
    (call.perform s).1 = .ok () ∧ (call.perform s).2.collection call.collection = c ∧
      s.AgreeOutside call.collection (call.perform s).2 := by
  have written (name : String) {a : Action Store StoreError Unit} (ha : a s = (.ok (), s.put name c)) :
      (a s).1 = .ok () ∧ (a s).2.collection name = c ∧ s.AgreeOutside name (a s).2 := by
    rw [ha]
    exact ⟨rfl, Store.collection_put_self s name c, Store.agreeOutside_put name s c⟩
  cases call with
  | insert name d => exact written name (discard_write_of_ok (insert_eq_map s name d) h)
  | upsertById name idField id d => exact written name (discard_write_of_ok (upsertById_eq_map s name idField id d) h)
  | updateMany name filter updates => exact written name (discard_write_of_ok (updateMany_eq_map s name filter updates) h)
  | deleteMany name filter => exact written name (discard_write_of_ok (g := fun c => .ok (c.delete filter)) rfl h)
  | dropIndexes name => cases h; exact written name rfl
  | createIndex name index =>
    cases h
    exact ⟨rfl, Store.collection_put_self s name _, Store.agreeOutside_put name s _⟩
  | deleteCollection name =>
    cases h
    exact ⟨rfl, Store.collection_deleteCollection_self s name, fun _ ho => Store.collection_deleteCollection_of_ne ho s⟩
  | find name filter options => cases h; exact ⟨rfl, rfl, Store.AgreeOutside.refl name s⟩
  | findOne name filter keys => cases h; exact ⟨rfl, rfl, Store.AgreeOutside.refl name s⟩
  | count name filter => cases h; exact ⟨rfl, rfl, Store.AgreeOutside.refl name s⟩

end StoreCall

end DocumentRepository
