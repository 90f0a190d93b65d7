import DocumentRepository.Proofs.Bind
import DocumentRepository.Proofs.Store.Operations
import DocumentRepository.Proofs.Value.Equality
import Mathlib.Data.List.Perm.Basic

/-! # Unique indexes are kept

A store is consistent when no two documents of a collection agree on all keys of one of its unique
indexes. Each write checks other pairs of documents: an insertion the new document against all, a
replacement the new document against all but the one it replaces, an update each updated document
against all others as they will be. Every operation keeps a store consistent, and one that fails
says that a key was taken and changes nothing.
-/
namespace DocumentRepository

/-- Two documents agree on every key of an index, a missing key counting as null. -/
def Index.Collide (index : Index) (a b : Document) : Prop :=
  ∀ key ∈ index.keys, (a.getOrNull key.field).looseEqual (b.getOrNull key.field) = true

/-- No two documents at different positions collide. -/
def Index.Separates (index : Index) (ds : List Document) : Prop :=
  ∀ (i j : Nat) (hi : i < ds.length) (hj : j < ds.length), i ≠ j → ¬ index.Collide ds[i] ds[j]

namespace Index

variable {index : Index} {a b d : Document} {ds es : List Document}

theorem tuplesAgree_iff : tuplesAgree (index.tuple a) (index.tuple b) = true ↔ index.Collide a b := by
  simp [tuplesAgree, tuple, Collide, List.zip_map', List.all_map]

/-- Collision is symmetric, though loose equality is no equivalence. -/
theorem Collide.symm (h : index.Collide a b) : index.Collide b a := by
  intro key hk
  rw [Value.looseEqual_comm]
  exact h key hk

theorem separates_iff_pairwise : index.Separates ds ↔ ds.Pairwise fun a b => ¬ index.Collide a b := by
  rw [List.pairwise_iff_getElem]
  constructor
  · intro h i j hi hj hij
    exact h i j hi hj (Nat.ne_of_lt hij)
  · intro h i j hi hj hij hc
    rcases Nat.lt_or_gt_of_ne hij with hlt | hgt
    · exact h i j hi hj hlt hc
    · exact h j i hj hi hgt hc.symm

theorem Separates.sublist (h : index.Separates ds) (hs : es.Sublist ds) : index.Separates es :=
  separates_iff_pairwise.mpr ((separates_iff_pairwise.mp h).sublist hs)

theorem Separates.append_singleton (h : index.Separates ds) (hd : ∀ other ∈ ds, ¬ index.Collide other d) :
    index.Separates (ds ++ [d]) := by
  rw [separates_iff_pairwise] at h ⊢
  refine List.pairwise_append.mpr ⟨h, List.pairwise_singleton _ d, ?_⟩
  intro other ho e he
  rw [List.mem_singleton.mp he]
  exact hd other ho

theorem Separates.set {i : Nat} (h : index.Separates ds) (hi : i < ds.length)
    (hd : ∀ other ∈ ds.eraseIdx i, ¬ index.Collide other d) : index.Separates (ds.set i d) := by
  have hrest := separates_iff_pairwise.mp (h.sublist (List.eraseIdx_sublist ds i))
  have hperm := List.set_perm_cons_eraseIdx hi d
  refine separates_iff_pairwise.mpr ((hperm.pairwise_iff fun hab hba => hab hba.symm).mpr ?_)
  exact List.pairwise_cons.mpr ⟨fun other ho hc => hd other ho hc.symm, hrest⟩

end Index

namespace Collection

variable {c c' : Collection} {name idField : String} {id : Value} {d : Document} {others : List Document}
  {filter : Filter} {updates : UpdateBatch} {index : Index} {e : StoreError}

/-- No two documents of a collection collide on a unique index of it. -/
def Consistent (c : Collection) : Prop := ∀ index ∈ c.indexes, index.unique = true → index.Separates c.documents

def Admits (c : Collection) (others : List Document) (d : Document) : Prop :=
  ∀ index ∈ c.indexes, index.unique = true → ∀ other ∈ others, ¬ index.Collide other d

theorem clash?_eq_none_iff : c.clash? others d = none ↔ c.Admits others d := by
  simp only [clash?, List.find?_eq_none, List.mem_filter, List.any_eq_true, Index.tuplesAgree_iff, not_exists,
    not_and, and_imp, Admits]

theorem checkUnique_eq_ok_iff : c.checkUnique name others d = .ok () ↔ c.Admits others d := by
  rw [← clash?_eq_none_iff, checkUnique]
  cases c.clash? others d <;> simp

theorem exists_collide_of_checkUnique (h : c.checkUnique name others d = .error e) :
    ∃ index ∈ c.indexes, index.unique = true ∧ e = .duplicateKey name index.name ∧
      ∃ other ∈ others, index.Collide other d := by
  unfold checkUnique at h
  cases hclash : c.clash? others d with
  | none => simp [hclash] at h
  | some index =>
    obtain ⟨hmem, hunique⟩ := List.mem_filter.mp (List.mem_of_find?_eq_some hclash)
    obtain ⟨other, hother, hagree⟩ := List.any_eq_true.mp (List.find?_eq_some_iff_append.mp hclash).1
    rw [hclash] at h
    cases h
    exact ⟨index, hmem, hunique, rfl, other, hother, Index.tuplesAgree_iff.mp hagree⟩

theorem checkUnique_eq_error (h : c.checkUnique name others d = .error e) :
    ∃ index ∈ c.indexes, index.unique = true ∧ e = .duplicateKey name index.name := by
  obtain ⟨index, hmem, hunique, he, -⟩ := exists_collide_of_checkUnique h
  exact ⟨index, hmem, hunique, he⟩

theorem insert_eq_ok_iff :
    c.insert name d = .ok c' ↔ c.Admits c.documents d ∧ c' = { c with documents := c.documents ++ [d] } := by
  rw [insert, check_eq_ok_iff, checkUnique_eq_ok_iff]
  exact and_congr_right fun _ => ⟨fun h => (Except.ok.inj h).symm, fun h => h ▸ rfl⟩

/-- A replacement checks all documents but the one that it replaces. -/
theorem upsert_eq_ok_cases (h : c.upsert name idField id d = .ok c') :
    (∃ i, ∃ _ : i < c.documents.length, c.Admits (c.documents.eraseIdx i) d ∧
      c' = { c with documents := c.documents.set i d }) ∨
    (c.Admits c.documents d ∧ c' = { c with documents := c.documents ++ [d] }) := by
  unfold upsert at h
  cases hi : c.documents.findIdx? (hasId idField id) with
  | none =>
    rw [hi] at h
    exact Or.inr (insert_eq_ok_iff.mp h)
  | some i =>
    have hlt : i < c.documents.length := (List.findIdx?_eq_some_iff_getElem.mp hi).1
    simp only [hi] at h
    obtain ⟨hu, hr⟩ := check_eq_ok_iff.mp h
    cases hr
    exact Or.inl ⟨i, hlt, checkUnique_eq_ok_iff.mp hu, rfl⟩

/-- Every document that was touched is checked against those at all other positions. -/
theorem checkUpdated_eq_ok_iff {before : List Document} {marked : List (Document × Bool)} :
    c.checkUpdated name before marked = .ok () ↔
      ∀ (i : Nat) (hi : i < marked.length), marked[i].2 = true →
        c.Admits (before ++ (marked.eraseIdx i).map (·.1)) marked[i].1 := by
  induction marked generalizing before with
  | nil => simp [checkUpdated]
  | cons m rest ih =>
    obtain ⟨d, touched⟩ := m
    have hstep : c.checkUpdated name before ((d, touched) :: rest) = .ok () ↔
        (touched = true → c.Admits (before ++ rest.map (·.1)) d) ∧
          c.checkUpdated name (before ++ [d]) rest = .ok () := by
      simp only [checkUpdated]
      cases touched with
      | false => simp
      | true => simp [check_eq_ok_iff, checkUnique_eq_ok_iff]
    rw [hstep, ih]
    constructor
    · rintro ⟨hfirst, hrest⟩ i hi ht
      cases i with
      | zero => exact hfirst ht
      | succ i => simpa using hrest i (by simpa using hi) ht
    · intro h
      refine ⟨h 0 (Nat.succ_pos _), ?_⟩
      intro i hi ht
      simpa using h (i + 1) (Nat.succ_lt_succ hi) ht

theorem insert_eq_error (h : c.insert name d = .error e) :
    ∃ index ∈ c.indexes, index.unique = true ∧ e = .duplicateKey name index.name := by
  rcases check_eq_error_iff.mp h with hu | ⟨-, hr⟩
  · exact checkUnique_eq_error hu
  · cases hr

theorem upsert_eq_error (h : c.upsert name idField id d = .error e) :
    ∃ index ∈ c.indexes, index.unique = true ∧ e = .duplicateKey name index.name := by
  unfold upsert at h
  cases hi : c.documents.findIdx? (hasId idField id) with
  | none => rw [hi] at h; exact insert_eq_error h
  | some i =>
    simp only [hi] at h
    rcases check_eq_error_iff.mp h with hu | ⟨-, hr⟩
    · exact checkUnique_eq_error hu
    · cases hr

/-- The check fails at a document that was touched, and names an index on which it collides. -/
theorem exists_collide_of_checkUpdated {before : List Document} {marked : List (Document × Bool)}
    (h : c.checkUpdated name before marked = .error e) :
    ∃ index ∈ c.indexes, index.unique = true ∧ e = .duplicateKey name index.name ∧
      ∃ (i : Nat) (hi : i < marked.length), marked[i].2 = true ∧
        ∃ other ∈ before ++ (marked.eraseIdx i).map (·.1), index.Collide other marked[i].1 := by
  induction marked generalizing before with
  | nil => cases h
  | cons m rest ih =>
    obtain ⟨d, touched⟩ := m
    have later (h : c.checkUpdated name (before ++ [d]) rest = .error e) :
        ∃ index ∈ c.indexes, index.unique = true ∧ e = .duplicateKey name index.name ∧
          ∃ (i : Nat) (hi : i < ((d, touched) :: rest).length), ((d, touched) :: rest)[i].2 = true ∧
            ∃ other ∈ before ++ (((d, touched) :: rest).eraseIdx i).map (·.1),
              index.Collide other ((d, touched) :: rest)[i].1 := by
      obtain ⟨index, hmem, hunique, he, i, hi, htouched, other, hother, hcollide⟩ := ih h
      refine ⟨index, hmem, hunique, he, i + 1, Nat.succ_lt_succ hi, htouched, other, ?_, hcollide⟩
      simpa using hother
    cases touched with
    | false => exact later h
    | true =>
      rcases check_eq_error_iff.mp h with hu | ⟨-, hr⟩
      · obtain ⟨index, hmem, hunique, he, other, hother, hcollide⟩ := exists_collide_of_checkUnique hu
        exact ⟨index, hmem, hunique, he, 0, Nat.succ_pos _, rfl, other, hother, hcollide⟩
      · exact later hr

theorem update_eq_error (h : c.update name filter updates = .error e) :
    ∃ index ∈ c.indexes, index.unique = true ∧ e = .duplicateKey name index.name := by
  rcases check_eq_error_iff.mp h with hu | ⟨-, hr⟩
  · obtain ⟨index, hmem, hunique, he, -⟩ := exists_collide_of_checkUpdated hu
    exact ⟨index, hmem, hunique, he⟩
  · cases hr

def updatedDocuments (c : Collection) (filter : Filter) (updates : UpdateBatch) : List Document :=
  c.documents.map fun d => if filter.holds d then updates.apply d else d

theorem map_fst_updated : (c.updated filter updates).map (·.1) = c.updatedDocuments filter updates := by
  rw [updated, updatedDocuments, List.map_map]
  refine List.map_congr_left fun d _ => ?_
  cases h : filter.holds d <;> simp [h]

/-- An update goes through if no updated document collides with another as they will be. -/
theorem update_eq_ok_iff :
    c.update name filter updates = .ok c' ↔
      (∀ (i : Nat) (hi : i < c.documents.length), filter.holds c.documents[i] = true →
        c.Admits ((c.updatedDocuments filter updates).eraseIdx i) (updates.apply c.documents[i])) ∧
      c' = { c with documents := c.updatedDocuments filter updates } := by
  have hlen : (c.updated filter updates).length = c.documents.length := by simp [updated]
  have hcheck : c.checkUpdated name [] (c.updated filter updates) = .ok () ↔
      ∀ (i : Nat) (hi : i < c.documents.length), filter.holds c.documents[i] = true →
        c.Admits ((c.updatedDocuments filter updates).eraseIdx i) (updates.apply c.documents[i]) := by
    rw [checkUpdated_eq_ok_iff, ← map_fst_updated]
    constructor
    · intro h i hi ht
      have := h i (by omega)
      simpa [updated, ht, List.eraseIdx_map] using this
    · intro h i hi ht
      have hi' : i < c.documents.length := hlen ▸ hi
      have hd : filter.holds c.documents[i] = true := by
        by_contra hf
        simp [updated, hf] at ht
      have := h i hi' hd
      simpa [updated, hd, List.eraseIdx_map] using this
  rw [← hcheck, update, check_eq_ok_iff, map_fst_updated]
  exact and_congr_right fun _ => ⟨fun h => (Except.ok.inj h).symm, fun h => h ▸ rfl⟩

theorem consistent_empty : Consistent empty := fun _ hmem => absurd hmem List.not_mem_nil

theorem Consistent.insert (hc : c.Consistent) (h : c.insert name d = .ok c') : c'.Consistent := by
  obtain ⟨hd, rfl⟩ := insert_eq_ok_iff.mp h
  intro index hmem hunique
  exact (hc index hmem hunique).append_singleton (hd index hmem hunique)

theorem Consistent.upsert (hc : c.Consistent) (h : c.upsert name idField id d = .ok c') : c'.Consistent := by
  rcases upsert_eq_ok_cases h with ⟨i, hi, hd, rfl⟩ | ⟨hd, rfl⟩
  · intro index hmem hunique
    exact (hc index hmem hunique).set hi (hd index hmem hunique)
  · intro index hmem hunique
    exact (hc index hmem hunique).append_singleton (hd index hmem hunique)

theorem Consistent.delete (hc : c.Consistent) : (c.delete filter).Consistent := by
  intro index hmem hunique
  exact (hc index hmem hunique).sublist List.filter_sublist

/-- Of two documents that collide after an update, either one was updated, and so checked against
the other, or both stand as they did before. -/
theorem Consistent.update (hc : c.Consistent) (h : c.update name filter updates = .ok c') : c'.Consistent := by
  obtain ⟨hadmits, rfl⟩ := update_eq_ok_iff.mp h
  intro index hmem hunique i j hi hj hij hcollide
  have hlen : (c.updatedDocuments filter updates).length = c.documents.length := by simp [updatedDocuments]
  have checked (i j : Nat) (hi : i < c.documents.length) (hj : j < (c.updatedDocuments filter updates).length)
      (hij : j ≠ i) (ht : filter.holds c.documents[i] = true) :
      ¬ index.Collide (c.updatedDocuments filter updates)[j] (updates.apply c.documents[i]) :=
    hadmits i hi ht index hmem hunique _ (List.mem_eraseIdx_iff_getElem.mpr ⟨j, hj, hij, rfl⟩)
  have hi' : i < c.documents.length := hlen ▸ hi
  have hj' : j < c.documents.length := hlen ▸ hj
  by_cases hti : filter.holds c.documents[i] = true
  · refine checked i j hi' hj (Ne.symm hij) hti ?_
    simpa [updatedDocuments, hti] using hcollide.symm
  · by_cases htj : filter.holds c.documents[j] = true
    · refine checked j i hj' hi hij htj ?_
      simpa [updatedDocuments, htj] using hcollide
    · refine hc index hmem hunique i j hi' hj' hij ?_
      simpa [updatedDocuments, hti, htj] using hcollide

theorem Consistent.createIndex (hc : c.Consistent) (h : index.unique = true → index.Separates c.documents) :
    (c.createIndex index).Consistent := by
  unfold Collection.createIndex
  split
  · exact hc
  · intro added hmem hunique
    rcases List.mem_append.mp hmem with hold | hnew
    · exact hc added hold hunique
    · rw [List.mem_singleton] at hnew
      subst hnew
      exact h hunique

theorem consistent_dropIndexes (c : Collection) : Consistent { c with indexes := [] } :=
  fun _ hmem => absurd hmem List.not_mem_nil

end Collection

namespace StoreCall

variable {call : StoreCall} {c c' : Collection} {s : Store} {e : StoreError}

/-- A unique index is created only where no documents collide on it. All else is always allowed. -/
def Admissible (c : Collection) : StoreCall → Prop
  | createIndex _ index => index.unique = true → index.Separates c.documents
  | _ => True

theorem consistent_of_effect (hc : c.Consistent) (ha : call.Admissible c) (h : call.effect c = .ok c') :
    c'.Consistent := by
  cases call with
  | insert name d => exact hc.insert h
  | upsertById name idField id d => exact hc.upsert h
  | updateMany name filter updates => exact hc.update h
  | deleteMany name filter => cases h; exact hc.delete
  | deleteCollection name => cases h; exact Collection.consistent_empty
  | createIndex name index => cases h; exact hc.createIndex ha
  | dropIndexes name => cases h; exact Collection.consistent_dropIndexes c
  | _ => cases h; exact hc

/-- An operation can fail only because a key of a unique index is taken. -/
theorem effect_eq_error (h : call.effect c = .error e) :
    ∃ index ∈ c.indexes, index.unique = true ∧ e = .duplicateKey call.collection index.name := by
  cases call with
  | insert name d => exact Collection.insert_eq_error h
  | upsertById name idField id d => exact Collection.upsert_eq_error h
  | updateMany name filter updates => exact Collection.update_eq_error h
  | _ => cases h

theorem perform_answer (call : StoreCall) (s : Store) :
    (call.perform s).1 = .ok () ∨
      ∃ index ∈ s.indexes call.collection, index.unique = true ∧
        call.perform s = (.error (.error (.duplicateKey call.collection index.name)), s) := by
  cases h : call.effect (s.collection call.collection) with
  | ok c => exact Or.inl (perform_of_ok h).1
  | error e =>
    obtain ⟨index, hmem, hunique, rfl⟩ := effect_eq_error h
    exact Or.inr ⟨index, hmem, hunique, perform_of_error h⟩

end StoreCall

namespace Store

variable {s : Store} {call : StoreCall}

def Consistent (s : Store) : Prop := ∀ name, (s.collection name).Consistent

theorem consistent_empty : Consistent empty := fun _ => Collection.consistent_empty

theorem Consistent.perform (hs : s.Consistent) (ha : call.Admissible (s.collection call.collection)) :
    (call.perform s).2.Consistent := by
  cases h : call.effect (s.collection call.collection) with
  | error e =>
    rw [StoreCall.perform_of_error h]
    exact hs
  | ok c =>
    obtain ⟨-, hself, hothers⟩ := StoreCall.perform_of_ok h
    intro name
    by_cases hname : name = call.collection
    · rw [hname, hself]
      exact StoreCall.consistent_of_effect (hs call.collection) ha h
    · rw [hothers name hname]
      exact hs name

/-- The stores that admissible operations lead to from the empty one, in any number and order,
whether they succeed or fail. -/
inductive Reachable : Store → Prop
  | empty : Reachable empty
  | perform {s : Store} (call : StoreCall) (hs : Reachable s) (ha : call.Admissible (s.collection call.collection)) :
    Reachable (call.perform s).2

theorem Reachable.consistent (h : s.Reachable) : s.Consistent := by
  induction h with
  | empty => exact consistent_empty
  | perform call _ ha ih => exact ih.perform ha

/-- Unique indexes are kept by every operation that is admissible, and so over every run. -/
theorem unique_indexes_kept :
    (∀ (s : Store) (call : StoreCall), s.Consistent → call.Admissible (s.collection call.collection) →
      (call.perform s).2.Consistent ∧
      ((call.perform s).1 = .ok () ∨
        ∃ index ∈ s.indexes call.collection, index.unique = true ∧
          call.perform s = (.error (.error (.duplicateKey call.collection index.name)), s))) ∧
    ∀ s : Store, s.Reachable → s.Consistent :=
  ⟨fun s call hs ha => ⟨hs.perform ha, call.perform_answer s⟩, fun _ h => h.consistent⟩

section Example

private def pairIndex : Index := ⟨[⟨"a", true⟩, ⟨"b", true⟩], true⟩

private def pairStore : Store :=
  (StoreCall.perform (.insert "c" ⟨[("a", .int 2)]⟩)
    (StoreCall.perform (.insert "c" ⟨[("b", .int 2)]⟩) (StoreCall.perform (.createIndex "c" pairIndex) empty).2).2).2

/-- Swaps the values of both keys, so that each document moves to the keys the other had. -/
private def swapKeys : StoreCall := .updateMany "c" .all [.rename "a" "t", .rename "b" "a", .rename "t" "b"]

/-- Moving two documents at once to each other's keys is allowed, and keeps the index. -/
theorem unique_indexes_kept_swap :
    pairStore.Reachable ∧ pairStore.Consistent ∧ (swapKeys.perform pairStore).1 = .ok () ∧
      (swapKeys.perform pairStore).2.Consistent := by
  have created : Reachable (StoreCall.perform (.createIndex "c" pairIndex) empty).2 :=
    .perform _ .empty fun _ i _ hi => absurd hi (Nat.not_lt_zero i)
  have reached : pairStore.Reachable := .perform _ (.perform _ created trivial) trivial
  have consistent := unique_indexes_kept.2 pairStore reached
  exact ⟨reached, consistent, by rfl, (unique_indexes_kept.1 pairStore swapKeys consistent trivial).1⟩

end Example

end Store

end DocumentRepository
