import DocumentRepository.Proofs.Repository.Operation
import DocumentRepository.Proofs.Repository.Registration

/-! # How a collection is prepared

A new repository has its collection dropped and its indexes dropped, where its schema wants that, and then the
indexes of the schema created one after another, where the settings ask for them. None of these operations fails on
the store in memory. Creating an index that is there already changes nothing, so the indexes are those that were left
by the drops and then the new ones of the schema, each once. A watched store that is not told to fail does the same,
and notes every operation.
-/
namespace DocumentRepository

namespace WatchedStore

theorem watch_of_faultless {α : Type} {w : WatchedStore} (hw : w.faults = []) (call : StoreCall) (refused : α)
    (act : Action Store StoreError α) :
    watch call refused act w = ((act w.store).1, ⟨(act w.store).2, w.calls ++ [call], []⟩) := by
  obtain ⟨s, calls, faults⟩ := w
  cases hw
  rfl

theorem calls_takeFault (w : WatchedStore) (name : String) : (w.takeFault name).2.calls = w.calls := by
  unfold takeFault
  split <;> rfl

/-- An operation is noted whatever comes of it. -/
theorem calls_watch {α : Type} (call : StoreCall) (refused : α) (act : Action Store StoreError α) (w : WatchedStore) :
    (watch call refused act w).2.calls = w.calls ++ [call] := by
  have hcalls := calls_takeFault { w with calls := w.calls ++ [call] } call.name
  unfold watch
  generalize ({ w with calls := w.calls ++ [call] }).takeFault call.name = taken at hcalls ⊢
  obtain ⟨fault, taken⟩ := taken
  rcases fault with _ | (text | text | _) <;> exact hcalls

end WatchedStore

namespace StoreCall

variable {w : WatchedStore} {ops : List StoreCall}

theorem perform_watched (hw : w.faults = []) (op : StoreCall) :
    op.perform w = ((op.perform w.store).1, ⟨(op.perform w.store).2, w.calls ++ [op], []⟩) := by
  have watched {α : Type} (refused : α) (act : Action Store StoreError α) :
      Action.discard (WatchedStore.watch op refused act) w =
        ((Action.discard act w.store).1, ⟨(Action.discard act w.store).2, w.calls ++ [op], []⟩) := by
    rw [Action.discard, WatchedStore.watch_of_faultless hw]
    rfl
  cases op with
  | createIndex name index => exact WatchedStore.watch_of_faultless hw _ _ _
  | dropIndexes name => exact WatchedStore.watch_of_faultless hw _ _ _
  | _ => exact watched _ _

theorem calls_perform (op : StoreCall) (w : WatchedStore) : (op.perform w).2.calls = w.calls ++ [op] := by
  cases op <;> exact WatchedStore.calls_watch _ _ _ w

/-- The store after operations one after another, failed ones included. -/
def performAll {σ : Type} [DocumentStore σ] (ops : List StoreCall) (s : σ) : σ := ops.foldl (fun s op => (op.perform s).2) s

theorem performAll_append {σ : Type} [DocumentStore σ] (before after : List StoreCall) (s : σ) :
    performAll (before ++ after) s = performAll after (performAll before s) := List.foldl_append

theorem performAll_watched (hw : w.faults = []) (ops : List StoreCall) :
    performAll ops w = ⟨performAll ops w.store, w.calls ++ ops, []⟩ := by
  induction ops generalizing w with
  | nil =>
    obtain ⟨s, calls, faults⟩ := w
    cases hw
    simp [performAll]
  | cons op rest ih =>
    change performAll rest (op.perform w).2 = _
    rw [perform_watched hw op, ih rfl]
    simp [performAll]

/-- An operation that cannot fail on the store in memory. -/
def Sure (op : StoreCall) : Prop := ∀ c : Collection, ∃ c', op.effect c = .ok c'

theorem perform_of_sure {op : StoreCall} (hop : op.Sure) (s : Store) : op.perform s = (.ok (), (op.perform s).2) := by
  obtain ⟨c, hc⟩ := hop (s.collection op.collection)
  exact Prod.ext (perform_of_ok hc).1 rfl

end StoreCall

namespace Repository

open StoreCall

variable {σ : Type} [DocumentStore σ] {ops : List StoreCall}

/-- Operations one after another, up to the first that fails. -/
def performEach : List StoreCall → Call σ Unit
  | [] => pure ()
  | op :: rest => do
    onStore op.perform
    performEach rest

theorem performEach_of_sure (hops : ∀ op ∈ ops, op.Sure) (s : Store) :
    (performEach ops : Call Store Unit) s = (.ok (), performAll ops s) := by
  induction ops generalizing s with
  | nil => rfl
  | cons op rest ih =>
    obtain ⟨hop, hrest⟩ := List.forall_mem_cons.mp hops
    have hdone : (onStore op.perform : Call Store Unit) s = (.ok (), (op.perform s).2) := by
      rw [onStore, Action.mapError, perform_of_sure hop s]
    exact Action.bind_eq_ok_iff.mpr ⟨(), _, hdone, ih hrest _⟩

theorem performEach_watched (hops : ∀ op ∈ ops, op.Sure) {w : WatchedStore} (hw : w.faults = []) :
    (performEach ops : Call WatchedStore Unit) w = (.ok (), performAll ops w) := by
  induction ops generalizing w with
  | nil => rfl
  | cons op rest ih =>
    obtain ⟨hop, hrest⟩ := List.forall_mem_cons.mp hops
    have hdone : (onStore op.perform : Call WatchedStore Unit) w = (.ok (), (op.perform w).2) := by
      rw [onStore, Action.mapError, perform_watched hw, perform_of_sure hop w.store]
    refine Action.bind_eq_ok_iff.mpr ⟨(), _, hdone, ih hrest ?_⟩
    rw [perform_watched hw]

/-- Operations that have all ended well have all been noted. -/
theorem calls_performEach {w w' : WatchedStore} (h : (performEach ops : Call WatchedStore Unit) w = (.ok (), w')) :
    w'.calls = w.calls ++ ops := by
  induction ops generalizing w with
  | nil =>
    cases h
    exact (List.append_nil _).symm
  | cons op rest ih =>
    obtain ⟨_, v, hop, hrest⟩ := Action.bind_eq_ok_iff.mp h
    have hv : v = (op.perform w).2 := by
      unfold onStore Action.mapError at hop
      split at hop
      case h_1 hperform =>
        rw [hperform]
        exact (congrArg Prod.snd hop).symm
      case h_2 => cases hop
    rw [ih hrest, hv, calls_perform, List.append_assoc, List.singleton_append]

end Repository

namespace Registry

open StoreCall Repository

variable {σ : Type} [DocumentStore σ] {schema : Schema}

def drops (schema : Schema) : List StoreCall :=
  (if schema.dropsEntities then [.deleteCollection schema.collection] else []) ++
    if schema.dropsIndexes then [.dropIndexes schema.collection] else []

def preparations (createIndexes : Bool) (schema : Schema) : List StoreCall :=
  drops schema ++ if createIndexes then schema.indexes.map (.createIndex schema.collection) else []

theorem onStore_discard {σ α : Type} (a : Action σ StoreError α) : onStore a.discard = (fun _ => ()) <$> onStore a := by
  funext s
  rw [← bind_pure_comp, Action.bind_apply, onStore, onStore, Action.mapError, Action.mapError, Action.discard]
  rcases a s with ⟨e | x, t⟩ <;> rfl

theorem createIndexes_eq_performEach (name : String) (indexes : List Index) :
    (createIndexes name indexes : Call σ Unit) = performEach (indexes.map (.createIndex name)) := by
  induction indexes with
  | nil => rfl
  | cons index rest ih => rw [createIndexes, List.map_cons, performEach, ih]; rfl

theorem prepare_eq_performEach (g : Registry) (schema : Schema) :
    (g.prepare schema : Call σ Unit) = performEach (preparations g.config.createIndexes schema) := by
  unfold prepare preparations drops
  cases schema.dropsEntities <;> cases schema.dropsIndexes <;> cases g.config.createIndexes <;>
    simp [performEach, createIndexes_eq_performEach, perform, onStore_discard]

theorem sure_of_mem_preparations {createIndexes : Bool} {op : StoreCall} (h : op ∈ preparations createIndexes schema) :
    op.Sure := by
  unfold preparations drops at h
  rcases List.mem_append.mp h with h | h
  · rcases List.mem_append.mp h with h | h
    · split at h
      · cases List.mem_singleton.mp h
        exact fun _ => ⟨_, rfl⟩
      · cases h
    · split at h
      · cases List.mem_singleton.mp h
        exact fun _ => ⟨_, rfl⟩
      · cases h
  · split at h
    · obtain ⟨index, -, rfl⟩ := List.mem_map.mp h
      exact fun _ => ⟨_, rfl⟩
    · cases h

/-- The indexes that are created: those that are new, each once. -/
theorem foldl_createIndex (existing indexes : List Index) :
    indexes.foldl (fun is index => if is.contains index then is else is ++ [index]) existing =
      existing ++ (indexes.filter fun index => index ∉ existing).eraseDups := by
  induction indexes generalizing existing with
  | nil => simp
  | cons index rest ih =>
    by_cases h : index ∈ existing
    · rw [List.foldl_cons, if_pos (List.contains_iff_mem.mpr h), ih, List.filter_cons_of_neg (by simp [h])]
    · have hrest : (rest.filter fun i => i ∉ existing ++ [index]) =
          (rest.filter fun i => i ∉ existing).filter fun i => !i == index := by
        rw [List.filter_filter]
        exact List.filter_congr fun i _ => by simp [beq_eq_decide, Bool.and_comm]
      rw [List.foldl_cons, if_neg (mt List.contains_iff_mem.mp h), ih, hrest, List.filter_cons_of_pos (by simp [h]),
        List.eraseDups_cons, List.append_assoc, List.singleton_append]

theorem collection_drops (schema : Schema) (s : Store) :
    (performAll (drops schema) s).collection schema.collection =
      ⟨if schema.dropsEntities then [] else s.documents schema.collection,
        if schema.dropsEntities || schema.dropsIndexes then [] else s.indexes schema.collection⟩ := by
  have hempty : (s.deleteCollection schema.collection).collection schema.collection = ⟨[], []⟩ :=
    Store.collection_deleteCollection_self s schema.collection
  have hdropped (s : Store) : (s.dropIndexes schema.collection).collection schema.collection =
      ⟨s.documents schema.collection, []⟩ := Store.collection_put_self s schema.collection _
  unfold drops
  cases schema.dropsEntities with
  | true =>
    cases schema.dropsIndexes with
    | true =>
      change ((s.deleteCollection schema.collection).dropIndexes schema.collection).collection schema.collection = ⟨[], []⟩
      rw [hdropped, Store.documents, hempty]
    | false => exact hempty
  | false =>
    cases schema.dropsIndexes with
    | true => exact hdropped s
    | false => rfl

theorem collection_createIndexes (name : String) (indexes : List Index) (s : Store) :
    (performAll (indexes.map (.createIndex name)) s).collection name =
      ⟨s.documents name, s.indexes name ++ (indexes.filter fun index => index ∉ s.indexes name).eraseDups⟩ := by
  rw [← foldl_createIndex]
  induction indexes generalizing s with
  | nil => rfl
  | cons index rest ih =>
    change (performAll (rest.map (.createIndex name)) (s.createIndex name index)).collection name = _
    have hcreated : (s.createIndex name index).collection name =
        ⟨s.documents name, if (s.indexes name).contains index then s.indexes name else s.indexes name ++ [index]⟩ := by
      rw [Store.collection_createIndex, Collection.createIndex]
      unfold Store.indexes
      split <;> rfl
    rw [ih, Store.documents, Store.indexes, hcreated]
    rfl

def indexesLeft (schema : Schema) (s : Store) : List Index :=
  if schema.dropsEntities || schema.dropsIndexes then [] else s.indexes schema.collection

/-- The indexes of a prepared collection are those that were left, and the new ones of the schema in their order. -/
theorem collection_preparations (createIndexes : Bool) (schema : Schema) (s : Store) :
    (performAll (preparations createIndexes schema) s).collection schema.collection =
      ⟨if schema.dropsEntities then [] else s.documents schema.collection,
        indexesLeft schema s ++
          if createIndexes then (schema.indexes.filter fun index => index ∉ indexesLeft schema s).eraseDups else []⟩ := by
  rw [preparations, performAll_append]
  cases createIndexes with
  | true =>
    rw [if_pos rfl, collection_createIndexes, Store.documents, Store.indexes, collection_drops]
    rfl
  | false =>
    change (performAll (drops schema) s).collection schema.collection = _
    rw [collection_drops, if_neg Bool.false_ne_true, List.append_nil]
    rfl

/-- A collection is always prepared on the store in memory. -/
theorem prepare_ok (g : Registry) (schema : Schema) (s : Store) :
    (g.prepare schema : Call Store Unit) s = (.ok (), performAll (preparations g.config.createIndexes schema) s) := by
  rw [prepare_eq_performEach]
  exact performEach_of_sure (fun _ => sure_of_mem_preparations) s

theorem prepare_watched (g : Registry) (schema : Schema) {w : WatchedStore} (hw : w.faults = []) :
    (g.prepare schema : Call WatchedStore Unit) w =
      (.ok (), performAll (preparations g.config.createIndexes schema) w) := by
  rw [prepare_eq_performEach]
  exact performEach_watched (fun _ => sure_of_mem_preparations) hw

theorem calls_prepare {g : Registry} {w w' : WatchedStore} (h : (g.prepare schema : Call WatchedStore Unit) w = (.ok (), w')) :
    w'.calls = w.calls ++ preparations g.config.createIndexes schema := by
  rw [prepare_eq_performEach] at h
  exact calls_performEach h

end Registry
end DocumentRepository
