import DocumentRepository.Proofs.Repository.Run
import DocumentRepository.Proofs.Store.UniqueIndex
import Mathlib.Data.List.Nodup

/-! # A repository as a map of entities

Where ids are integers, texts or truth values and every unique index has the id among its keys, the
operations on entities are those of a map from ids to documents that keeps the order of insertion.
Saving looks for the document with the id itself, and finding and deleting filter by the id; ids of
these kinds are loosely equal only when they are the same, so all of them mean the same document.
-/
namespace DocumentRepository

/-- An id of a kind whose loose equality is equality. -/
inductive PlainId where
  | int (i : Int64)
  | text (s : String)
  | bool (b : Bool)
  deriving DecidableEq

namespace PlainId

def value : PlainId → Value
  | int i => .int i
  | text s => .text s
  | bool b => .bool b

theorem value_injective : Function.Injective value := by
  intro a b h
  cases a <;> cases b <;> cases h <;> rfl

theorem isNull_value (a : PlainId) : a.value.isNull = false := by cases a <;> rfl

theorem looseEqual_value (a b : PlainId) : a.value.looseEqual b.value = decide (a = b) := by
  cases a <;> cases b <;> simp [value, Value.looseEqual, Value.equal, beq_eq_decide]

theorem eqHolds_value (a b : PlainId) : Filter.eqHolds (some a.value) b.value = decide (a = b) := by
  rw [← looseEqual_value]
  cases a <;> rfl

end PlainId

namespace Repository

structure Entity (r : Repository) where
  id : PlainId
  document : Document
  holds_id : r.idOf? document = some id.value

namespace Entity

variable {r : Repository}

theorem properId?_document (e : r.Entity) : r.properId? e.document = some e.id.value := by
  simp [properId?, e.holds_id, PlainId.isNull_value]

theorem hasId_document (e : r.Entity) (id : PlainId) : Collection.hasId r.idName id.value e.document = decide (e.id = id) := by
  have hid : e.document.get? r.idName = some e.id.value := e.holds_id
  simp [Collection.hasId, hid, PlainId.looseEqual_value]

theorem holds_idFilter (e : r.Entity) (id : PlainId) : (r.idFilter id.value).holds e.document = decide (e.id = id) := by
  have hid : e.document.get? r.idName = some e.id.value := e.holds_id
  rw [idFilter, Filter.holds, hid, PlainId.eqHolds_value]

theorem not_collide {index : Index} (hkey : ∃ key ∈ index.keys, key.field = r.idName) {a b : r.Entity} (h : a.id ≠ b.id) :
    ¬index.Collide a.document b.document := by
  obtain ⟨key, hmem, hfield⟩ := hkey
  have hid (e : r.Entity) : e.document.getOrNull r.idName = e.id.value := by
    rw [Document.getOrNull, show e.document.get? r.idName = _ from e.holds_id, Option.getD_some]
  intro hcollide
  have heq := hcollide key hmem
  rw [hfield, hid, hid, PlainId.looseEqual_value] at heq
  exact h (of_decide_eq_true heq)

def place (e : r.Entity) : List r.Entity → List r.Entity
  | [] => [e]
  | x :: rest => if x.id = e.id then e :: rest else x :: place e rest

theorem place_of_notMem {e : r.Entity} {es : List r.Entity} (h : ∀ x ∈ es, x.id ≠ e.id) : place e es = es ++ [e] := by
  induction es with
  | nil => rfl
  | cons x rest ih =>
    obtain ⟨hx, hrest⟩ := List.forall_mem_cons.mp h
    rw [place, if_neg hx, ih hrest, List.cons_append]

theorem place_of_findIdx? {e : r.Entity} {es : List r.Entity} {i : Nat} (h : es.findIdx? (fun x => x.id = e.id) = some i) :
    place e es = es.set i e := by
  induction es generalizing i with
  | nil => cases h
  | cons x rest ih =>
    by_cases hx : x.id = e.id
    · obtain rfl : i = 0 := by simpa [List.findIdx?_cons, hx] using h.symm
      rw [place, if_pos hx, List.set_cons_zero]
    · obtain ⟨j, hj, rfl⟩ : ∃ j, rest.findIdx? (fun x => x.id = e.id) = some j ∧ j + 1 = i := by
        simpa [List.findIdx?_cons, hx] using h
      rw [place, if_neg hx, ih hj, List.set_cons_succ]

theorem ids_place (e : r.Entity) (es : List r.Entity) :
    (place e es).map Entity.id = if e.id ∈ es.map Entity.id then es.map Entity.id else es.map Entity.id ++ [e.id] := by
  induction es with
  | nil => simp [place]
  | cons x rest ih =>
    by_cases hx : x.id = e.id
    · simp [place, hx]
    · by_cases hmem : e.id ∈ rest.map Entity.id
      · simp only [place, if_neg hx, List.map_cons, ih, hmem, List.mem_cons, or_true, if_true]
      · simp only [place, if_neg hx, List.map_cons, ih, hmem, List.mem_cons, or_false, Ne.symm hx, if_false, List.cons_append]

theorem nodup_ids_place (e : r.Entity) {es : List r.Entity} (h : (es.map Entity.id).Nodup) :
    ((place e es).map Entity.id).Nodup := by
  rw [ids_place]
  split
  · exact h
  case isFalse hmem =>
    refine List.nodup_append.mpr ⟨h, List.nodup_singleton _, ?_⟩
    intro a ha b hb hab
    rw [List.mem_singleton.mp hb] at hab
    exact hmem (hab ▸ ha)

end Entity

end Repository

open Repository (Entity)

/-- A map from ids to documents that keeps the order of insertion. -/
structure EntityMap (r : Repository) where
  entities : List r.Entity
  ids_nodup : (entities.map Entity.id).Nodup

inductive EntityCall (r : Repository) where
  | save (e : r.Entity)
  | saveAll (es : List r.Entity)
  | delete (e : r.Entity)
  | deleteById (id : PlainId)
  | deleteAll
  | findById (id : PlainId)
  | existsById (id : PlainId)
  | exists (e : r.Entity)
  | findAll

namespace EntityCall

variable {r : Repository}

def operation : EntityCall r → Predefined
  | save _ => .save
  | saveAll _ => .saveAll
  | delete _ => .delete
  | deleteById _ => .deleteById
  | deleteAll => .deleteAll
  | findById _ => .findById
  | existsById _ => .existsById
  | .exists _ => .exists
  | findAll => .findAll

def args : EntityCall r → List Argument
  | save e => [.entity e.document]
  | saveAll es => [.entities (es.map Entity.document)]
  | delete e => [.entity e.document]
  | deleteById id => [.value id.value]
  | deleteAll => []
  | findById id => [.value id.value]
  | existsById id => [.value id.value]
  | .exists e => [.entity e.document]
  | findAll => []

def named (c : EntityCall r) : NamedCall := ⟨c.operation.name, c.args, false⟩

/-- The call by the second name of its operation, which does not wait. -/
def namedAsync (c : EntityCall r) : NamedCall := ⟨c.operation.asyncName, c.args, true⟩

end EntityCall

namespace EntityMap

variable {r : Repository}

def empty : EntityMap r := ⟨[], List.nodup_nil⟩

def put (m : EntityMap r) (e : r.Entity) : EntityMap r := ⟨e.place m.entities, e.nodup_ids_place m.ids_nodup⟩

def erase (m : EntityMap r) (id : PlainId) : EntityMap r where
  entities := m.entities.filter fun e => e.id ≠ id
  ids_nodup := m.ids_nodup.sublist (List.filter_sublist.map _)

def get? (m : EntityMap r) (id : PlainId) : Option r.Entity := m.entities.find? fun e => e.id = id

def step (m : EntityMap r) : EntityCall r → Outcome × EntityMap r
  | .save e => (.bool true, m.put e)
  | .saveAll es => (.bool true, es.foldl put m)
  | .delete e => (.bool true, m.erase e.id)
  | .deleteById id => (.bool true, m.erase id)
  | .deleteAll => (.bool true, empty)
  | .findById id => (.entity ((m.get? id).map Entity.document), m)
  | .existsById id => (.bool (m.get? id).isSome, m)
  | .exists e => (.bool (m.get? e.id).isSome, m)
  | .findAll => (.entities (m.entities.map Entity.document), m)

def answers (m : EntityMap r) : List (EntityCall r) → List Outcome
  | [] => []
  | call :: rest => (m.step call).1 :: answers (m.step call).2 rest

def stepAll (m : EntityMap r) (calls : List (EntityCall r)) : EntityMap r := calls.foldl (fun m call => (m.step call).2) m

end EntityMap

open Repository in
/-- The collection of a repository holds the documents of a map, in its order, and has no unique index without the
id among its keys. -/
structure Represents {r : Repository} (m : EntityMap r) (s : Store) : Prop where
  documents : s.documents r.schema.collection = m.entities.map Entity.document
  indexes : ∀ index ∈ s.indexes r.schema.collection, index.unique = true → ∃ key ∈ index.keys, key.field = r.idName

namespace Represents

variable {r : Repository} {m m' : EntityMap r} {s : Store} {method : String}

/-- Another map in the same collection. -/
theorem replace (h : Represents m s) (m' : EntityMap r) :
    Represents m' (s.put r.schema.collection
      { s.collection r.schema.collection with documents := m'.entities.map Entity.document }) := by
  constructor
  · simp [Store.documents]
  · simpa [Store.indexes] using h.indexes

theorem admits (h : Represents m s) (e : r.Entity) {others : List Document}
    (hothers : ∀ d ∈ others, ∃ x : r.Entity, x.document = d ∧ x.id ≠ e.id) :
    (s.collection r.schema.collection).Admits others e.document := by
  intro index hindex hunique other hother
  obtain ⟨x, rfl, hne⟩ := hothers other hother
  exact Entity.not_collide (h.indexes index hindex hunique) hne

theorem upsert (h : Represents m s) (e : r.Entity) :
    (s.collection r.schema.collection).upsert r.schema.collection r.idName e.id.value e.document =
      .ok { s.collection r.schema.collection with documents := (e.place m.entities).map Entity.document } := by
  have hdocuments : (s.collection r.schema.collection).documents = m.entities.map Entity.document := h.documents
  have hfind : (m.entities.map Entity.document).findIdx? (Collection.hasId r.idName e.id.value) =
      m.entities.findIdx? fun x => x.id = e.id := by
    rw [List.findIdx?_map]
    exact congrArg (List.findIdx? · m.entities) (funext fun x => x.hasId_document e.id)
  unfold Collection.upsert
  rw [hdocuments, hfind]
  -- A unique index has the id among its keys, so a document clashes with none that has another id.
  cases hi : m.entities.findIdx? fun x => x.id = e.id with
  | none =>
    have habsent : ∀ x ∈ m.entities, x.id ≠ e.id := by simpa using hi
    refine Collection.insert_eq_ok_iff.mpr ⟨h.admits e ?_, ?_⟩
    · rw [hdocuments]
      intro d hd
      obtain ⟨x, hx, rfl⟩ := List.mem_map.mp hd
      exact ⟨x, rfl, habsent x hx⟩
    · rw [Entity.place_of_notMem habsent, List.map_append, hdocuments]
      rfl
  | some i =>
    obtain ⟨hlt, hid, -⟩ := List.findIdx?_eq_some_iff_getElem.mp hi
    refine check_eq_ok_iff.mpr ⟨Collection.checkUnique_eq_ok_iff.mpr (h.admits e ?_), ?_⟩
    · intro d hd
      obtain ⟨j, hj, hne, rfl⟩ := List.mem_eraseIdx_iff_getElem.mp hd
      rw [List.length_map] at hj
      refine ⟨m.entities[j], (List.getElem_map _).symm, fun hsame => hne ?_⟩
      have hone : m.entities[j] = m.entities[i] :=
        List.inj_on_of_nodup_map m.ids_nodup (List.getElem_mem hj) (List.getElem_mem hlt)
          (hsame.trans (of_decide_eq_true hid).symm)
      exact (List.Nodup.of_map _ m.ids_nodup).getElem_inj_iff.mp hone
    · rw [Entity.place_of_findIdx? hi, List.map_set]
      rfl

/-- Saving puts the entity into the map. -/
theorem save (h : Represents m s) (e : r.Entity) :
    ∃ t, (r.save e.document : Repository.Call Store Bool) s = (.ok true, t) ∧ Represents (m.put e) t := by
  refine ⟨_, ?_, h.replace (m.put e)⟩
  have hstore : s.upsertById r.schema.collection r.idName e.id.value e.document = .ok (s.put r.schema.collection
      { s.collection r.schema.collection with documents := (m.put e).entities.map Entity.document }) := by
    rw [StoreCall.upsertById_eq_map, h.upsert e]
    rfl
  simp only [Repository.save, e.properId?_document, Repository.onStore, Action.mapError, DocumentStore.upsertById,
    Action.write, hstore]

theorem saveEach (h : Represents m s) (es : List r.Entity) :
    ∃ t, (Predefined.saveEach r (es.map Entity.document) true : Repository.Call Store Bool) s = (.ok true, t) ∧
      Represents (es.foldl EntityMap.put m) t := by
  induction es generalizing m s with
  | nil => exact ⟨s, rfl, h⟩
  | cons e rest ih =>
    obtain ⟨t, hsave, ht⟩ := h.save e
    obtain ⟨u, hrest, hu⟩ := ih ht
    refine ⟨u, ?_, hu⟩
    exact Action.bind_eq_ok_iff.mpr ⟨true, t, hsave, hrest⟩

/-- Deleting by the id erases it from the map. -/
theorem erase (h : Represents m s) (id : PlainId) :
    Represents (m.erase id) (s.deleteMany r.schema.collection (r.idFilter id.value)) := by
  have hdocuments : (s.collection r.schema.collection).documents = m.entities.map Entity.document := h.documents
  have hcollection : (s.collection r.schema.collection).delete (r.idFilter id.value) =
      { s.collection r.schema.collection with documents := (m.erase id).entities.map Entity.document } := by
    rw [Collection.delete, hdocuments, List.filter_map]
    simp [EntityMap.erase, Function.comp_def, Entity.holds_idFilter]
  rw [Store.deleteMany, hcollection]
  exact h.replace (m.erase id)

theorem deleteCollection (s : Store) : Represents (.empty : EntityMap r) (s.deleteCollection r.schema.collection) := by
  constructor
  · rw [Store.documents, Store.collection_deleteCollection_self]
    rfl
  · rw [Store.indexes, Store.collection_deleteCollection_self]
    exact fun index hindex => absurd hindex List.not_mem_nil

theorem filter_documents (h : Represents m s) (id : PlainId) :
    (s.documents r.schema.collection).filter (r.idFilter id.value).holds =
      (m.entities.filter fun e => e.id = id).map Entity.document := by
  rw [h.documents, List.filter_map]
  simp [Function.comp_def, Entity.holds_idFilter]

theorem findOne (h : Represents m s) (id : PlainId) :
    s.findOne r.schema.collection (r.idFilter id.value) [] = (m.get? id).map Entity.document := by
  have hfound := h.filter_documents id
  rw [Store.documents] at hfound
  rw [Store.findOne, Collection.search, sortDocuments_nil, hfound, List.head?_map, List.head?_filter, EntityMap.get?]

theorem find (h : Represents m s) : s.find r.schema.collection .all FindOptions.plain = m.entities.map Entity.document := by
  rw [← h.documents]
  simp [Store.find, Collection.search, FindOptions.plain, Filter.holds, Store.documents]

theorem count_pos (h : Represents m s) (id : PlainId) :
    decide (0 < s.count r.schema.collection (r.idFilter id.value)) = (m.get? id).isSome := by
  rw [Store.count, List.countP_eq_length_filter, h.filter_documents id, List.length_map, ← List.countP_eq_length_filter,
    Bool.eq_iff_iff, decide_eq_true_iff, List.countP_pos_iff, EntityMap.get?, List.find?_isSome]

end Represents

namespace Predefined

variable {r : Repository}

theorem valueArg_id {σ : Type} (method : String) (id : PlainId) (s : σ) :
    (Action.ofExcept (valueArg method (some (.value id.value))) : Repository.Call σ Value) s = (.ok id.value, s) := by
  cases id <;> rfl

theorem idOfEntityArg_entity {σ : Type} (method : String) (e : r.Entity) (s : σ) :
    (Action.ofExcept (idOfEntityArg r method (some (.entity e.document))) : Repository.Call σ Value) s =
      (.ok e.id.value, s) := by
  have hid : idOfEntityArg r method (some (.entity e.document)) = .ok e.id.value := by
    change entityId r method e.document = .ok e.id.value
    rw [entityId, e.properId?_document]
  rw [hid]
  rfl

end Predefined

namespace NamedCall

def Carries {r : Repository} (call : NamedCall) (c : EntityCall r) : Prop :=
  r.target? call.method call.asynchronous = some (.predefined c.operation) ∧ call.args = c.args

/-- An operation is called by its name, unless the contract borrows another for that. -/
theorem carries_named {r : Repository} (c : EntityCall r) (h : Table.find? c.operation.name r.transforms = none) :
    Carries c.named c := by
  refine ⟨?_, rfl⟩
  simp [EntityCall.named, Repository.target?, h, Predefined.ofName?_name]

theorem carries_namedAsync {r : Repository} (c : EntityCall r) (h : Table.find? c.operation.asyncName r.transforms = none) :
    Carries c.namedAsync c := by
  refine ⟨?_, rfl⟩
  simp [EntityCall.namedAsync, Repository.target?, h, Predefined.ofName?_asyncName, Predefined.ofAsyncName?_asyncName]

def answers (r : Repository) : List NamedCall → Store → List (Except (Failure RepositoryError) Outcome)
  | [], _ => []
  | call :: rest, s => (call.run r s).1 :: answers r rest (call.run r s).2

end NamedCall

namespace Represents

variable {r : Repository} {m : EntityMap r} {s : Store}

/-- An operation answers as the map does, and leaves a store that represents what became of the map. -/
theorem run (h : Represents m s) (c : EntityCall r) (method : String) :
    ∃ t, (c.operation.run r method c.args : Repository.Call Store Outcome) s = (.ok (m.step c).1, t) ∧
      Represents (m.step c).2 t := by
  cases c with
  | save e =>
    obtain ⟨t, hsave, ht⟩ := h.save e
    exact ⟨t, Action.map_eq_ok_iff.mpr ⟨true, hsave, rfl⟩, ht⟩
  | saveAll es =>
    obtain ⟨t, hsave, ht⟩ := h.saveEach es
    exact ⟨t, Action.map_eq_ok_iff.mpr ⟨true, hsave, rfl⟩, ht⟩
  | delete e =>
    have hid := Predefined.idOfEntityArg_entity method e s
    exact ⟨_, Action.bind_eq_ok_iff.mpr ⟨e.id.value, s, hid, rfl⟩, h.erase e.id⟩
  | deleteById id =>
    have hid := Predefined.valueArg_id method id s
    exact ⟨_, Action.bind_eq_ok_iff.mpr ⟨id.value, s, hid, rfl⟩, h.erase id⟩
  | deleteAll => exact ⟨_, rfl, deleteCollection s⟩
  | findById id =>
    have hid := Predefined.valueArg_id method id s
    refine ⟨s, Action.bind_eq_ok_iff.mpr ⟨id.value, s, hid, ?_⟩, h⟩
    rw [EntityMap.step, ← h.findOne id]
    rfl
  | existsById id =>
    have hid := Predefined.valueArg_id method id s
    refine ⟨s, Action.bind_eq_ok_iff.mpr ⟨id.value, s, hid, ?_⟩, h⟩
    rw [EntityMap.step, ← h.count_pos id]
    rfl
  | «exists» e =>
    have hid := Predefined.idOfEntityArg_entity method e s
    refine ⟨s, Action.bind_eq_ok_iff.mpr ⟨e.id.value, s, hid, ?_⟩, h⟩
    rw [EntityMap.step, ← h.count_pos e.id]
    rfl
  | findAll =>
    refine ⟨s, ?_, h⟩
    rw [EntityMap.step, ← h.find]
    rfl

theorem call (h : Represents m s) {call : NamedCall} {c : EntityCall r} (hcall : call.Carries c) :
    (call.run r s).1 = .ok (m.step c).1 ∧ Represents (m.step c).2 (call.run r s).2 := by
  obtain ⟨t, hrun, ht⟩ := h.run c call.method
  have hcarried : call.run r s = (.ok (m.step c).1, t) := by
    simp only [NamedCall.run, Repository.invoke, hcall.1, hcall.2]
    exact hrun
  rw [hcarried]
  exact ⟨rfl, ht⟩

theorem calls (h : Represents m s) {named : List NamedCall} {calls : List (EntityCall r)}
    (hcalls : List.Forall₂ NamedCall.Carries named calls) :
    NamedCall.answers r named s = (m.answers calls).map .ok ∧
      Represents (m.stepAll calls) (NamedCall.runAll r named s) := by
  induction hcalls generalizing m s with
  | nil => exact ⟨rfl, h⟩
  | cons hcall _ ih =>
    obtain ⟨hanswer, hstep⟩ := h.call hcall
    obtain ⟨hanswers, hlast⟩ := ih hstep
    exact ⟨List.cons_eq_cons.mpr ⟨hanswer, hanswers⟩, hlast⟩

theorem nodup_ids (h : Represents m s) : (r.ids s).Nodup := by
  have hids : r.ids s = (m.entities.map Entity.id).map fun id => some id.value := by
    rw [Repository.ids, h.documents, List.map_map, List.map_map]
    exact List.map_congr_left fun e _ => e.holds_id
  rw [hids]
  exact m.ids_nodup.map fun _ _ h => PlainId.value_injective (Option.some.inj h)

end Represents

namespace Registry

variable {g g' : Registry} {key : Nat} {describe : Except String Description} {p : Published} {s t : Store}

/-- A new repository over an empty collection, every unique index of which has the id among its keys, answers calls
of the operations on entities as a map that starts empty does, and never fails. After any number of calls its
documents are those of the map, in the order of insertion, and no two of them have one id. -/
theorem calls_answer_as_map (hnew : g.lookup? key = none) (hobtain : g.obtain key describe s = (.ok (g', p), t))
    (hempty : s.collection p.repository.schema.collection = .empty)
    (hunique : ∀ index ∈ p.repository.schema.indexes, index.unique = true →
      ∃ key ∈ index.keys, key.field = p.repository.idName)
    {named : List NamedCall} {calls : List (EntityCall p.repository)}
    (hcalls : List.Forall₂ NamedCall.Carries named calls) :
    NamedCall.answers p.repository named t = (EntityMap.empty.answers calls).map .ok ∧
      (NamedCall.runAll p.repository named t).documents p.repository.schema.collection =
        (EntityMap.empty.stepAll calls).entities.map Entity.document ∧
      (p.repository.ids (NamedCall.runAll p.repository named t)).Nodup := by
  obtain ⟨hdocuments, hindexes⟩ := collection_of_obtain hnew hobtain hempty
  have hstart : Represents (.empty : EntityMap p.repository) t :=
    ⟨hdocuments, fun index hindex => hunique index ((hindexes index).mp hindex).2⟩
  obtain ⟨hanswers, hlast⟩ := hstart.calls hcalls
  exact ⟨hanswers, hlast.documents, hlast.nodup_ids⟩

section Example

def noteEntity : EntityDeclaration where
  entity := "Note"
  collection := "notes"
  fields := [⟨"id", .text, true, false, false⟩, ⟨"body", .text, false, false, false⟩]
  indexes := []
  dropsEntities := false
  dropsIndexes := false

def noteSchema : Schema where
  entity := "Note"
  collection := "notes"
  fields := [⟨"id", .text, true, false, false⟩, ⟨"body", .text, false, false, false⟩]
  id := ⟨"id", .text, true, false, false⟩
  indexes := [⟨[⟨"id", true⟩], true⟩]
  dropsEntities := false
  dropsIndexes := false
  keys_nodup := by decide +kernel
  id_mem := List.mem_cons_self

def notes : Repository := ⟨"Notes", noteSchema, [], []⟩

def note (id body : String) : notes.Entity := ⟨.text id, ⟨[("body", .text body), ("id", .text id)]⟩, rfl⟩

def saveNotes : EntityCall notes := .saveAll [note "a" "1", note "b" "2", note "a" "3"]

def noteCalls : List (EntityCall notes) :=
  [.findById (.text "a"), .deleteById (.text "b"), .existsById (.text "b"), .findAll]

def noteStore : Store := ⟨[("notes", ⟨[], noteSchema.indexes⟩)], 1⟩

theorem obtain_notes :
    (new .standard none).obtain 0 (.ok ⟨noteEntity, ⟨"Notes", []⟩⟩) Store.empty =
      (.ok ((new .standard none).publish 0 notes), noteStore) := rfl

/-- Of two notes with one id in a list the later takes the place of the earlier. -/
theorem calls_answer_as_map_notes :
    NamedCall.answers notes (saveNotes.namedAsync :: noteCalls.map EntityCall.named) noteStore =
      [.ok (.bool true), .ok (.entity (some (note "a" "3").document)), .ok (.bool true), .ok (.bool false),
        .ok (.entities [(note "a" "3").document])] := by
  have hcalls : List.Forall₂ NamedCall.Carries (noteCalls.map EntityCall.named) noteCalls := by
    rw [List.forall₂_map_left_iff]
    exact List.forall₂_same.mpr fun c _ => NamedCall.carries_named c rfl
  have hall : List.Forall₂ NamedCall.Carries (saveNotes.namedAsync :: noteCalls.map EntityCall.named)
      (saveNotes :: noteCalls) := .cons (NamedCall.carries_namedAsync saveNotes rfl) hcalls
  refine (calls_answer_as_map (g := new .standard none) rfl obtain_notes rfl ?_ hall).1
  intro index hindex _
  cases List.mem_singleton.mp hindex
  exact ⟨⟨"id", true⟩, List.mem_singleton_self _, rfl⟩

end Example

end Registry

end DocumentRepository
