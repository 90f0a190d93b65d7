import DocumentRepository.Proofs.Repository.EntityMap
import DocumentRepository.Proofs.Repository.Routing

/-! # Saves of entities without ids

A document without an id is saved by an insertion. The index of the ids counts a missing id as null, and null as a value
like any other, so while a collection has that index it takes one document without an id and refuses all that follow. A
collection without it, where the id wants none, where none is created or where everything has been deleted, takes any
number of them.
-/
namespace DocumentRepository

/-- Some documents have been added behind those of a collection, and nothing else has changed. -/
structure Store.Appended (name : String) (ds : List Document) (s t : Store) : Prop where
  documents : t.documents name = s.documents name ++ ds
  indexes : t.indexes name = s.indexes name
  outside : s.AgreeOutside name t

namespace Store.Appended

variable {name : String} {ds es : List Document} {s t u : Store}

theorem refl (name : String) (s : Store) : Appended name [] s s :=
  ⟨(List.append_nil _).symm, rfl, AgreeOutside.refl name s⟩

theorem trans (h : Appended name ds s t) (h' : Appended name es t u) : Appended name (ds ++ es) s u where
  documents := by rw [h'.documents, h.documents, List.append_assoc]
  indexes := h'.indexes.trans h.indexes
  outside other hother := (h'.outside other hother).trans (h.outside other hother)

theorem of_insert {d : Document} (hadmits : (s.collection name).Admits (s.documents name) d) :
    ∃ t, s.insert name d = .ok t ∧ Appended name [d] s t := by
  have hinsert : (s.collection name).insert name d = .ok ⟨s.documents name ++ [d], s.indexes name⟩ :=
    Collection.insert_eq_ok_iff.mpr ⟨hadmits, rfl⟩
  refine ⟨s.put name ⟨s.documents name ++ [d], s.indexes name⟩, ?_, ?_, ?_, agreeOutside_put name s _⟩
  · rw [StoreCall.insert_eq_map, hinsert]
    rfl
  · rw [Store.documents, collection_put_self]
  · rw [Store.indexes, collection_put_self]

end Store.Appended

namespace Repository

variable {r : Repository} {d other : Document} {ds : List Document} {s t : Store}

/-- Whether a document has no id, or null for one. -/
def idless (r : Repository) (d : Document) : Bool := (r.properId? d).isNone

theorem isNull_getOrNull_idName (r : Repository) (d : Document) : (d.getOrNull r.idName).isNull = r.idless d := by
  unfold idless properId? idOf? Document.getOrNull
  rcases d.get? r.idName with _ | v
  · rfl
  · cases v <;> rfl

def uniqueId (r : Repository) : Index := ⟨[⟨r.idName, true⟩], true⟩

def idlessCount (r : Repository) (s : Store) : Nat := (s.documents r.schema.collection).countP r.idless

/-- The collection has no index, or that of the ids alone. -/
def OnlyIdIndex (r : Repository) (s : Store) : Prop := ∀ index ∈ s.indexes r.schema.collection, index = r.uniqueId

def idTaken (r : Repository) : RepositoryError := .store (.duplicateKey r.schema.collection r.uniqueId.name)

theorem collide_uniqueId_iff (hd : r.idless d = true) : r.uniqueId.Collide other d ↔ r.idless other = true := by
  have hnull : d.getOrNull r.idName = .null := by
    rw [← isNull_getOrNull_idName] at hd
    cases hv : d.getOrNull r.idName with
    | null => rfl
    | _ => rw [hv] at hd; cases hd
  rw [Index.Collide, uniqueId, List.forall_mem_singleton, hnull, Value.looseEqual_null, isNull_getOrNull_idName]

/-- The first document without an id collides with no other, and the next one collides with it. -/
theorem admits_idless_iff (hs : r.OnlyIdIndex s) (hd : r.idless d = true) :
    (s.collection r.schema.collection).Admits (s.documents r.schema.collection) d ↔
      s.indexes r.schema.collection = [] ∨ r.idlessCount s = 0 := by
  rw [idlessCount, List.countP_eq_zero]
  constructor
  · intro hadmits
    by_cases hnone : s.indexes r.schema.collection = []
    · exact .inl hnone
    · obtain ⟨index, hindex⟩ := List.exists_mem_of_ne_nil _ hnone
      refine .inr fun other hother hidless => ?_
      have hfree := hadmits index hindex
      rw [hs index hindex] at hfree
      exact hfree rfl other hother ((collide_uniqueId_iff hd).mpr hidless)
  · rintro (hnone | hfirst) index hindex _ other hother
    · have hindex : index ∈ s.indexes r.schema.collection := hindex
      rw [hnone] at hindex
      cases hindex
    · rw [hs index hindex, collide_uniqueId_iff hd]
      exact hfirst other hother

/-- A document without an id is inserted. -/
theorem save_idless (hd : r.idless d = true) (s : Store) :
    r.save d s = match s.insert r.schema.collection d with
      | .ok t => (.ok true, t)
      | .error e => (.error (.error (.store e)), s) := by
  unfold save
  rw [Option.isNone_iff_eq_none.mp hd]
  simp only [onStore, Action.mapError, DocumentStore.insert, Action.write]
  cases s.insert r.schema.collection d <;> rfl

theorem save_idless_of_room (hs : r.OnlyIdIndex s) (hd : r.idless d = true)
    (hroom : s.indexes r.schema.collection = [] ∨ r.idlessCount s = 0) :
    ∃ t, r.save d s = (.ok true, t) ∧ Store.Appended r.schema.collection [d] s t := by
  obtain ⟨t, hinsert, ht⟩ := Store.Appended.of_insert ((admits_idless_iff hs hd).mpr hroom)
  exact ⟨t, by rw [save_idless hd, hinsert], ht⟩

theorem save_idless_of_taken (hs : r.OnlyIdIndex s) (hd : r.idless d = true)
    (hindexed : s.indexes r.schema.collection ≠ []) (htaken : r.idlessCount s ≠ 0) :
    r.save d s = (.error (.error r.idTaken), s) := by
  rw [save_idless hd, StoreCall.insert_eq_map]
  cases hinsert : (s.collection r.schema.collection).insert r.schema.collection d with
  | ok c =>
    have hadmits := (Collection.insert_eq_ok_iff.mp hinsert).1
    exact absurd ((admits_idless_iff hs hd).mp hadmits) (not_or.mpr ⟨hindexed, htaken⟩)
  | error e =>
    obtain ⟨index, hindex, -, rfl⟩ := Collection.insert_eq_error hinsert
    rw [hs index hindex]
    rfl

theorem OnlyIdIndex.appended (hs : r.OnlyIdIndex s) (h : Store.Appended r.schema.collection ds s t) : r.OnlyIdIndex t := by
  rw [OnlyIdIndex, h.indexes]
  exact hs

theorem idlessCount_appended (hd : r.idless d = true) (h : Store.Appended r.schema.collection [d] s t) :
    r.idlessCount t = r.idlessCount s + 1 := by
  rw [idlessCount, h.documents, List.countP_append, List.countP_singleton, if_pos hd]
  rfl

/-- Documents without ids are all saved where there is no index, or room for them under it. -/
theorem saveEach_idless_of_room (hs : r.OnlyIdIndex s) (hds : ∀ d ∈ ds, r.idless d = true)
    (hroom : s.indexes r.schema.collection = [] ∨ ds.length ≤ 1 - r.idlessCount s) (acknowledged : Bool) :
    ∃ t, (Predefined.saveEach r ds acknowledged : Call Store Bool) s = (.ok acknowledged, t) ∧
      Store.Appended r.schema.collection ds s t := by
  induction ds generalizing s with
  | nil => exact ⟨s, rfl, Store.Appended.refl _ s⟩
  | cons d rest ih =>
    obtain ⟨hd, hrest⟩ := List.forall_mem_cons.mp hds
    rw [List.length_cons] at hroom
    obtain ⟨t, hsave, ht⟩ := save_idless_of_room hs hd (hroom.imp_right fun h => by omega)
    -- Under the index the first document takes the room of all that follow, so there are none.
    have hnext : t.indexes r.schema.collection = [] ∨ rest.length ≤ 1 - r.idlessCount t := by
      rw [ht.indexes, idlessCount_appended hd ht]
      exact hroom.imp_right fun h => by omega
    obtain ⟨u, hsaves, hu⟩ := ih (hs.appended ht) hrest hnext
    refine ⟨u, Action.bind_eq_ok_iff.mpr ⟨true, t, hsave, ?_⟩, ht.trans hu⟩
    rwa [Bool.and_true]

/-- Under the index, saves of documents without ids end at the first one too many. -/
theorem saveEach_idless_of_taken (hs : r.OnlyIdIndex s) (hds : ∀ d ∈ ds, r.idless d = true)
    (hindexed : s.indexes r.schema.collection ≠ []) (hmany : 1 - r.idlessCount s < ds.length) (acknowledged : Bool) :
    ∃ t, (Predefined.saveEach r ds acknowledged : Call Store Bool) s = (.error (.error r.idTaken), t) ∧
      Store.Appended r.schema.collection (ds.take (1 - r.idlessCount s)) s t := by
  induction ds generalizing s with
  | nil => exact absurd hmany (Nat.not_lt_zero _)
  | cons d rest ih =>
    obtain ⟨hd, hrest⟩ := List.forall_mem_cons.mp hds
    by_cases htaken : r.idlessCount s = 0
    case neg =>
      have hsave := save_idless_of_taken hs hd hindexed htaken
      have hnone : 1 - r.idlessCount s = 0 := by omega
      rw [hnone]
      exact ⟨s, Action.bind_eq_error_iff.mpr (.inl hsave), Store.Appended.refl _ s⟩
    case pos =>
      obtain ⟨t, hsave, ht⟩ := save_idless_of_room hs hd (.inr htaken)
      have hnone : 1 - r.idlessCount t = 0 := by rw [idlessCount_appended hd ht]; omega
      rw [htaken, List.length_cons] at hmany
      obtain ⟨u, hsaves, hu⟩ := ih (hs.appended ht) hrest (ht.indexes ▸ hindexed) (by omega)
      rw [hnone, List.take_zero] at hu
      rw [htaken]
      exact ⟨u, Action.bind_eq_error_iff.mpr (.inr ⟨true, t, hsave, by rwa [Bool.and_true]⟩), ht.trans hu⟩

end Repository

namespace NamedCall

variable {r : Repository} {call : NamedCall} {calls : List NamedCall} {ds : List Document} {s : Store}

inductive SaveOf (r : Repository) (call : NamedCall) : List Document → Prop
  | one {d : Document} (htarget : r.target? call.method call.asynchronous = some (.predefined .save))
    (hargs : call.args = [.entity d]) : SaveOf r call [d]
  | all {ds : List Document} (htarget : r.target? call.method call.asynchronous = some (.predefined .saveAll))
    (hargs : call.args = [.entities ds]) : SaveOf r call ds

theorem SaveOf.run_eq (h : call.SaveOf r ds) (s : Store) :
    call.run r s = (Predefined.saveEach r ds true >>= fun b => pure (.bool b) : Repository.Call Store Outcome) s := by
  cases h with
  | @one d htarget hargs =>
    rw [run, Repository.invoke_of_target htarget, hargs]
    change (r.save d >>= fun b => pure (.bool b) : Repository.Call Store Outcome) s = _
    rw [Action.bind_apply, Action.bind_apply, Predefined.saveEach, Action.bind_apply]
    rcases r.save d s with ⟨e | b, t⟩ <;> rfl
  | all htarget hargs =>
    rw [run, Repository.invoke_of_target htarget, hargs]
    rfl

/-- No call gives a collection an index that it has not. -/
theorem onlyIdIndex_runAll (hs : r.OnlyIdIndex s) (calls : List NamedCall) : r.OnlyIdIndex (runAll r calls s) := by
  by_cases hall : ∃ call ∈ calls, call.DeletesAll r
  · obtain ⟨call, hcall, hall⟩ := hall
    rw [Repository.OnlyIdIndex, indexes_runAll_of_deletesAll hcall hall]
    exact fun index hindex => absurd hindex List.not_mem_nil
  · have hkept := runAll_of_not_deletesAll (fun call hcall h => hall ⟨call, hcall, h⟩) s
    rw [Repository.OnlyIdIndex, hkept.indexes]
    exact hs

end NamedCall

namespace Registry

variable {g g' : Registry} {key : Nat} {describe : Except String Description} {p : Published} {s t : Store}

/-- A new repository with no index but that of the ids has a collection with no other one, if it found none there. -/
theorem onlyIdIndex_of_obtain (hnew : g.lookup? key = none) (hobtain : g.obtain key describe s = (.ok (g', p), t))
    (honly : p.repository.schema.indexes = EntityDeclaration.idIndex p.repository.schema.id)
    (hs : p.repository.OnlyIdIndex s) : p.repository.OnlyIdIndex t := by
  obtain ⟨d, -, -, hprepare, -⟩ := obtain_new_eq_ok hnew hobtain
  cases hprepare.symm.trans (prepare_ok g p.repository.schema s)
  intro index hindex
  rw [Store.indexes, collection_preparations] at hindex
  rcases List.mem_append.mp hindex with hleft | hcreated
  · unfold indexesLeft at hleft
    split at hleft
    · cases hleft
    · exact hs index hleft
  · split at hcreated
    · have hindex : index ∈ p.repository.schema.indexes := (List.mem_filter.mp (List.mem_eraseDups.mp hcreated)).1
      rw [honly, EntityDeclaration.idIndex] at hindex
      split at hindex
      · cases hindex
      · exact List.mem_singleton.mp hindex
    · cases hcreated

/-- After any calls of a new repository with no index but that of the ids, documents without ids are saved, each behind
those that are there, as long as the collection is without that index or none of them comes second. The first that does is
refused, and ends the call. -/
theorem idless_saves (hnew : g.lookup? key = none) (hobtain : g.obtain key describe s = (.ok (g', p), t))
    (honly : p.repository.schema.indexes = EntityDeclaration.idIndex p.repository.schema.id)
    (hs : p.repository.OnlyIdIndex s) (calls : List NamedCall) {call : NamedCall} {ds : List Document}
    (hsaves : call.SaveOf p.repository ds) (hds : ∀ d ∈ ds, p.repository.idless d = true) :
    let u := NamedCall.runAll p.repository calls t
    let room := 1 - p.repository.idlessCount u
    (u.indexes p.repository.schema.collection = [] ∨ ds.length ≤ room →
      ∃ v, call.run p.repository u = (.ok (.bool true), v) ∧ u.Appended p.repository.schema.collection ds v) ∧
    (u.indexes p.repository.schema.collection ≠ [] → room < ds.length →
      ∃ v, call.run p.repository u = (.error (.error p.repository.idTaken), v) ∧
        u.Appended p.repository.schema.collection (ds.take room) v) := by
  intro u room
  have hu : p.repository.OnlyIdIndex u := NamedCall.onlyIdIndex_runAll (onlyIdIndex_of_obtain hnew hobtain honly hs) calls
  rw [hsaves.run_eq]
  constructor
  · intro hroom
    obtain ⟨v, heach, hv⟩ := Repository.saveEach_idless_of_room hu hds hroom true
    exact ⟨v, Action.map_eq_ok_iff.mpr ⟨true, heach, rfl⟩, hv⟩
  · intro hindexed hmany
    obtain ⟨v, heach, hv⟩ := Repository.saveEach_idless_of_taken hu hds hindexed hmany true
    exact ⟨v, Action.map_eq_error_iff.mpr heach, hv⟩

section Example

def idlessNote (body : String) : Document := ⟨[("body", .text body)]⟩

def saveIdless (body : String) : NamedCall := ⟨"save", [.entity (idlessNote body)], false⟩

/-- The first note without an id is saved, and the second is refused. -/
theorem idless_saves_notes :
    (∃ v, (saveIdless "a").run notes noteStore = (.ok (.bool true), v) ∧
      noteStore.Appended "notes" [idlessNote "a"] v) ∧
      ∃ v, (saveIdless "b").run notes (NamedCall.runAll notes [saveIdless "a"] noteStore) =
          (.error (.error (.store (.duplicateKey "notes" "id_1"))), v) ∧
        (NamedCall.runAll notes [saveIdless "a"] noteStore).Appended "notes" [] v := by
  have hone (body : String) : (saveIdless body).SaveOf notes [idlessNote body] := .one rfl rfl
  have hidless (body : String) : ∀ d ∈ [idlessNote body], notes.idless d = true := by
    intro d hd
    cases List.mem_singleton.mp hd
    rfl
  have hempty : notes.OnlyIdIndex Store.empty := fun index hindex => absurd hindex List.not_mem_nil
  have hfirst := idless_saves (g := new .standard none) rfl obtain_notes rfl hempty [] (hone "a") (hidless "a")
  have hsecond :=
    idless_saves (g := new .standard none) rfl obtain_notes rfl hempty [saveIdless "a"] (hone "b") (hidless "b")
  exact ⟨hfirst.1 (.inr (by decide)), hsecond.2 (by decide) (by decide)⟩

/-- Not every document without an id is inserted when it is saved. -/
theorem idless_save_refused :
    ¬∀ (g g' : Registry) (key : Nat) (describe : Except String Description) (p : Published) (t : Store),
      g.published = [] → g.obtain key describe Store.empty = (.ok (g', p), t) →
        p.repository.schema.indexes = EntityDeclaration.idIndex p.repository.schema.id →
        ∀ (calls : List NamedCall) (call : NamedCall) (d : Document), call.SaveOf p.repository [d] →
          p.repository.idless d = true →
            (call.run p.repository (NamedCall.runAll p.repository calls t)).1 = .ok (.bool true) := by
  intro h
  cases h _ _ 0 _ _ _ rfl obtain_notes rfl [saveIdless "a"] (saveIdless "b") (idlessNote "b") (.one rfl rfl) rfl

end Example

end Registry

end DocumentRepository
