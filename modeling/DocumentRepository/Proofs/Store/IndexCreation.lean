import DocumentRepository.Proofs.Repository.Preparation
import DocumentRepository.Proofs.Store.UniqueIndex
import Mathlib.Data.List.Induction

/-! # When a created index holds

A write is checked against the unique indexes that a collection has. To create one looks at no document, so documents that
collide on it by then stay, and the index is there although it does not hold. A unique index holds over a run just if it
held before and every operation of the run that creates it found documents that do not collide on it. What other indexes a
collection has makes no difference.
-/
namespace DocumentRepository

/-- If a collection has the index, its documents do not collide on it. -/
def Index.HoldsIn (index : Index) (name : String) (s : Store) : Prop :=
  index ∈ s.indexes name → index.Separates (s.documents name)

namespace Collection

variable {c c' : Collection} {name idField : String} {id : Value} {d : Document} {others : List Document}
  {filter : Filter} {updates : UpdateBatch} {index other : Index}

def only (c : Collection) (index : Index) : Collection := { c with indexes := c.indexes.filter (· == index) }

theorem mem_indexes_only : other ∈ (c.only index).indexes ↔ index ∈ c.indexes ∧ other = index := by
  rw [only, List.mem_filter, beq_iff_eq]
  exact ⟨fun ⟨hmem, h⟩ => ⟨h ▸ hmem, h⟩, fun ⟨hmem, h⟩ => ⟨h ▸ hmem, h⟩⟩

theorem consistent_only_iff (hunique : index.unique = true) :
    (c.only index).Consistent ↔ (index ∈ c.indexes → index.Separates c.documents) := by
  constructor
  · intro h hmem
    exact h index (mem_indexes_only.mpr ⟨hmem, rfl⟩) hunique
  · intro h other hother _
    obtain ⟨hmem, rfl⟩ := mem_indexes_only.mp hother
    exact h hmem

/-- A document that passes the check of all indexes passes that of one. -/
theorem Admits.only (h : c.Admits others d) : (c.only index).Admits others d :=
  fun other hother => h other (List.mem_of_mem_filter hother)

theorem insert_only (h : c.insert name d = .ok c') : (c.only index).insert name d = .ok (c'.only index) := by
  obtain ⟨hd, rfl⟩ := insert_eq_ok_iff.mp h
  exact insert_eq_ok_iff.mpr ⟨hd.only, rfl⟩

theorem upsert_only (h : c.upsert name idField id d = .ok c') :
    (c.only index).upsert name idField id d = .ok (c'.only index) := by
  have hdocuments : (c.only index).documents = c.documents := rfl
  unfold upsert at h ⊢
  rw [hdocuments]
  cases hi : c.documents.findIdx? (hasId idField id) with
  | none =>
    rw [hi] at h
    exact insert_only h
  | some i =>
    rw [hi] at h
    obtain ⟨hd, hc'⟩ := check_eq_ok_iff.mp h
    cases hc'
    exact check_eq_ok_iff.mpr ⟨checkUnique_eq_ok_iff.mpr (checkUnique_eq_ok_iff.mp hd).only, rfl⟩

theorem update_only (h : c.update name filter updates = .ok c') :
    (c.only index).update name filter updates = .ok (c'.only index) := by
  obtain ⟨hds, rfl⟩ := update_eq_ok_iff.mp h
  exact update_eq_ok_iff.mpr ⟨fun i hi hholds => (hds i hi hholds).only, rfl⟩

theorem mem_indexes_createIndex : index ∈ (c.createIndex other).indexes ↔ index ∈ c.indexes ∨ index = other := by
  unfold createIndex
  split
  case isTrue hthere =>
    refine ⟨Or.inl, ?_⟩
    rintro (hmem | rfl)
    · exact hmem
    · exact List.contains_iff_mem.mp hthere
  case isFalse => rw [List.mem_append, List.mem_singleton]

theorem documents_createIndex : (c.createIndex other).documents = c.documents := by
  unfold createIndex
  split <;> rfl

end Collection

namespace StoreCall

variable {call : StoreCall} {c c' : Collection} {index : Index} {name : String} {s : Store}

/-- What creates no index does the same to the documents when the collection is without its other indexes. -/
theorem effect_only (hcall : ∀ name other, call ≠ .createIndex name other) (h : call.effect c = .ok c') :
    call.effect (c.only index) = .ok (c'.only index) := by
  cases call with
  | insert name d => exact Collection.insert_only h
  | upsertById name idField id d => exact Collection.upsert_only h
  | updateMany name filter updates => exact Collection.update_only h
  | createIndex name other => exact absurd rfl (hcall name other)
  | _ => cases h; rfl

theorem admissible_of_ne_createIndex (hcall : ∀ name other, call ≠ .createIndex name other) : call.Admissible c := by
  cases call with
  | createIndex name other => exact absurd rfl (hcall name other)
  | _ => trivial

/-- An operation that does not create the index keeps it; one that does needs documents that do not collide on it. -/
theorem separates_of_effect (hunique : index.unique = true) (hc : index ∈ c.indexes → index.Separates c.documents)
    (hcreate : call = .createIndex call.collection index → index.Separates c.documents) (h : call.effect c = .ok c') :
    index ∈ c'.indexes → index.Separates c'.documents := by
  by_cases hcall : ∃ name other, call = .createIndex name other
  case pos =>
    obtain ⟨name, other, rfl⟩ := hcall
    cases h
    intro hmem
    rw [Collection.documents_createIndex]
    rcases Collection.mem_indexes_createIndex.mp hmem with hold | rfl
    · exact hc hold
    · exact hcreate rfl
  case neg =>
    simp only [not_exists] at hcall
    rw [← Collection.consistent_only_iff hunique] at hc ⊢
    exact consistent_of_effect hc (admissible_of_ne_createIndex hcall) (effect_only hcall h)

theorem holdsIn_perform (hunique : index.unique = true) (hs : index.HoldsIn name s)
    (hcreate : call = .createIndex name index → index.Separates (s.documents name)) :
    index.HoldsIn name (call.perform s).2 := by
  cases heffect : call.effect (s.collection call.collection) with
  | error e =>
    rw [perform_of_error heffect]
    exact hs
  | ok c =>
    obtain ⟨-, hself, hothers⟩ := perform_of_ok heffect
    rw [Index.HoldsIn, Store.indexes, Store.documents]
    by_cases hname : name = call.collection
    · subst hname
      rw [hself]
      exact separates_of_effect hunique hs hcreate heffect
    · rw [hothers name hname]
      exact hs

/-- To create an index never fails, and leaves the documents as they are. -/
theorem perform_createIndex (name : String) (index : Index) (s : Store) :
    ∃ t, (createIndex name index).perform s = (.ok (), t) ∧ index ∈ t.indexes name ∧
      t.documents name = s.documents name := by
  have hself : (s.createIndex name index).collection name = (s.collection name).createIndex index :=
    Store.collection_createIndex s name index
  refine ⟨s.createIndex name index, rfl, ?_, ?_⟩
  · rw [Store.indexes, hself]
    exact Collection.mem_indexes_createIndex.mpr (.inr rfl)
  · rw [Store.documents, hself, Collection.documents_createIndex]
    rfl

/-- An index holds all through a run just if it held before, and where it is created no documents collide on it. -/
theorem holdsIn_performAll_iff (hunique : index.unique = true) (calls : List StoreCall) :
    (∀ before, before <+: calls → index.HoldsIn name (performAll before s)) ↔
      index.HoldsIn name s ∧ ∀ before, before ++ [.createIndex name index] <+: calls →
        index.Separates ((performAll before s).documents name) := by
  constructor
  · intro h
    refine ⟨h [] List.nil_prefix, ?_⟩
    intro before hcalls
    obtain ⟨t, hperform, hmem, hdocuments⟩ := perform_createIndex name index (performAll before s)
    have hafter := h _ hcalls
    rw [performAll_append] at hafter
    change index.HoldsIn name ((createIndex name index).perform (performAll before s)).2 at hafter
    rw [hperform] at hafter
    rw [← hdocuments]
    exact hafter hmem
  · rintro ⟨hs, hcreate⟩ before
    -- by the last operation, as what it needs is said of the state before it
    induction before using List.reverseRecOn with
    | nil => exact fun _ => hs
    | append_singleton before call ih =>
      intro hcalls
      rw [performAll_append]
      refine holdsIn_perform hunique (ih ((List.prefix_append before [call]).trans hcalls)) ?_
      rintro rfl
      exact hcreate before hcalls

/-- A unique index that has just been created holds if no documents collided on it before, and in all states of a run if
none did wherever the run creates it. -/
theorem created_index_holds_iff (hunique : index.unique = true) (name : String) (s : Store) :
    (∃ t, (createIndex name index).perform s = (.ok (), t) ∧ index ∈ t.indexes name ∧
      (index.Separates (t.documents name) ↔ index.Separates (s.documents name))) ∧
    ∀ calls : List StoreCall,
      (∀ before, before <+: calls → index.HoldsIn name (performAll before s)) ↔
        index.HoldsIn name s ∧ ∀ before, before ++ [createIndex name index] <+: calls →
          index.Separates ((performAll before s).documents name) := by
  refine ⟨?_, holdsIn_performAll_iff hunique⟩
  obtain ⟨t, hperform, hmem, hdocuments⟩ := perform_createIndex name index s
  exact ⟨t, hperform, hmem, by rw [hdocuments]⟩

section Example

private def mailIndex : Index := ⟨[⟨"email", true⟩], true⟩

private def insertMail (id : Int64) (email : String) : StoreCall :=
  .insert "c" ⟨[("email", .text email), ("id", .int id)]⟩

private def mailCalls : List StoreCall :=
  [insertMail 1 "a", createIndex "c" mailIndex, insertMail 2 "a", insertMail 2 "b"]

/-- Over one document the index holds once it has been created, and a second document with its address is refused. -/
theorem created_index_holds_iff_mail :
    (∀ before, before <+: mailCalls → mailIndex.HoldsIn "c" (performAll before Store.empty)) ∧
      mailIndex ∈ (performAll mailCalls Store.empty).indexes "c" ∧
      ((performAll mailCalls Store.empty).documents "c").length = 2 := by
  have hunique : mailIndex.unique = true := rfl
  refine ⟨((created_index_holds_iff hunique "c" Store.empty).2 mailCalls).mpr ?_, by decide, rfl⟩
  refine ⟨fun hmem => absurd hmem List.not_mem_nil, ?_⟩
  intro before hbefore
  rcases before with _ | ⟨call, _ | ⟨call', rest⟩⟩
  · cases (List.cons_prefix_cons.mp hbefore).1
  · obtain ⟨rfl, -⟩ := List.cons_prefix_cons.mp hbefore
    exact Index.separates_iff_pairwise.mpr (List.pairwise_singleton _ _)
  · -- The index is created once, so a third operation of the run does not create it again.
    have hrest := (List.cons_prefix_cons.mp (List.cons_prefix_cons.mp hbefore).2).2
    have hmem : createIndex "c" mailIndex ∈ [insertMail 2 "a", insertMail 2 "b"] := hrest.subset (by simp)
    simp [insertMail] at hmem

/-- Over two documents with one address the index is created all the same, and does not hold. -/
theorem created_index_need_not_hold :
    ¬∀ (calls : List StoreCall) (name : String) (index : Index) (t : Store), index.unique = true →
      (createIndex name index).perform (performAll calls Store.empty) = (.ok (), t) → index.Separates (t.documents name) := by
  intro h
  have hseparates := h [insertMail 1 "a", insertMail 2 "a"] "c" mailIndex _ rfl rfl
  refine hseparates 0 1 (Nat.zero_lt_succ 1) (Nat.lt_succ_self 1) Nat.zero_ne_one ?_
  intro key hkey
  cases List.mem_singleton.mp hkey
  rfl

end Example

end StoreCall

end DocumentRepository
