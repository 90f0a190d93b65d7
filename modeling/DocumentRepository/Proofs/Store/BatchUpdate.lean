import DocumentRepository.Proofs.Store.UniqueIndex

/-! # Updates of many documents

An update of the matching documents goes through just if none of them will collide on a unique index with a
document at another position. Then each of them is updated in its place and nothing else changes; otherwise nothing
changes at all. What counts is how the documents will be: a key that the same update gives up is free.
-/
namespace DocumentRepository

theorem tuplesAgree_comm (a b : List Value) : tuplesAgree a b = tuplesAgree b a := by
  induction a generalizing b with
  | nil => cases b <;> rfl
  | cons v rest ih =>
    cases b with
    | nil => rfl
    | cons w others =>
      have htail := ih others
      simp only [tuplesAgree, List.zip_cons_cons, List.all_cons] at htail ⊢
      rw [Value.looseEqual_comm, htail]

/-- Whether documents are separated depends on their tuples alone. -/
theorem Index.separates_iff_tuples {index : Index} {ds : List Document} :
    index.Separates ds ↔ (ds.map index.tuple).Pairwise fun a b => ¬ tuplesAgree a b = true := by
  rw [separates_iff_pairwise, List.pairwise_map]
  simp only [tuplesAgree_iff]

namespace Collection

variable {c : Collection} {name : String} {filter : Filter} {updates : UpdateBatch} {index : Index} {e : StoreError}

theorem length_updatedDocuments (c : Collection) (filter : Filter) (updates : UpdateBatch) :
    (c.updatedDocuments filter updates).length = c.documents.length := List.length_map ..

theorem getElem_updatedDocuments {i : Nat} (hi : i < (c.updatedDocuments filter updates).length)
    (hi' : i < c.documents.length) : (c.updatedDocuments filter updates)[i] =
      if filter.holds c.documents[i] then updates.apply c.documents[i] else c.documents[i] := List.getElem_map ..

/-- On an index, a document that is updated will collide with one at another position. -/
def ClashesOn (c : Collection) (filter : Filter) (updates : UpdateBatch) (index : Index) : Prop :=
  ∃ (i j : Nat) (hi : i < c.documents.length) (hj : j < (c.updatedDocuments filter updates).length), j ≠ i ∧
    filter.holds c.documents[i] = true ∧
      index.Collide (c.updatedDocuments filter updates)[j] (updates.apply c.documents[i])

/-- A document that is not updated counts with the keys it has, one that is with those it will have. -/
theorem clashesOn_iff : c.ClashesOn filter updates index ↔
    ∃ (i j : Nat) (hi : i < c.documents.length) (hj : j < c.documents.length), j ≠ i ∧
      filter.holds c.documents[i] = true ∧
        ((filter.holds c.documents[j] = false ∧ index.Collide c.documents[j] (updates.apply c.documents[i])) ∨
        (filter.holds c.documents[j] = true ∧
          index.Collide (updates.apply c.documents[j]) (updates.apply c.documents[i]))) := by
  have hlength := c.length_updatedDocuments filter updates
  constructor
  · rintro ⟨i, j, hi, hj, hne, hheld, hcollide⟩
    have hj' : j < c.documents.length := hlength ▸ hj
    rw [getElem_updatedDocuments hj hj'] at hcollide
    refine ⟨i, j, hi, hj', hne, hheld, ?_⟩
    cases hother : filter.holds c.documents[j] with
    | false => exact Or.inl ⟨rfl, by simpa [hother] using hcollide⟩
    | true => exact Or.inr ⟨rfl, by simpa [hother] using hcollide⟩
  · rintro ⟨i, j, hi, hj, hne, hheld, hcollide⟩
    refine ⟨i, j, hi, hlength.symm ▸ hj, hne, hheld, ?_⟩
    rw [getElem_updatedDocuments _ hj]
    rcases hcollide with ⟨hother, hcollide⟩ | ⟨hother, hcollide⟩
    · simpa [hother] using hcollide
    · simpa [hother] using hcollide

/-- Where documents are separated, an update that only exchanges their tuples does not clash. -/
theorem not_clashesOn_of_perm (hseparates : index.Separates c.documents)
    (hperm : ((c.updatedDocuments filter updates).map index.tuple).Perm (c.documents.map index.tuple)) :
    ¬ c.ClashesOn filter updates index := by
  have hafter : index.Separates (c.updatedDocuments filter updates) := by
    rw [Index.separates_iff_tuples] at hseparates ⊢
    refine (hperm.pairwise_iff fun hab hba => ?_).mpr hseparates
    rw [tuplesAgree_comm] at hba
    exact hab hba
  rintro ⟨i, j, hi, hj, hne, hheld, hcollide⟩
  have hi' : i < (c.updatedDocuments filter updates).length := (c.length_updatedDocuments filter updates).symm ▸ hi
  refine hafter j i hj hi' hne ?_
  rw [getElem_updatedDocuments hi' hi, if_pos hheld]
  exact hcollide

theorem clashesOn_of_update (h : c.update name filter updates = .error e) :
    ∃ index ∈ c.indexes, index.unique = true ∧ e = .duplicateKey name index.name ∧
      c.ClashesOn filter updates index := by
  rcases check_eq_error_iff.mp h with hcheck | ⟨-, hr⟩
  · obtain ⟨index, hmem, hunique, he, i, hi, htouched, other, hother, hcollide⟩ := exists_collide_of_checkUpdated hcheck
    refine ⟨index, hmem, hunique, he, ?_⟩
    have hi' : i < c.documents.length := by simpa [updated] using hi
    have hheld : filter.holds c.documents[i] = true := by
      by_contra hnot
      simp [updated, hnot] at htouched
    rw [List.nil_append, ← List.eraseIdx_map, map_fst_updated] at hother
    obtain ⟨j, hj, hne, rfl⟩ := List.mem_eraseIdx_iff_getElem.mp hother
    exact ⟨i, j, hi', hj, hne, hheld, by simpa [updated, hheld] using hcollide⟩
  · cases hr

theorem update_eq_ok_iff_not_clashesOn {c' : Collection} : c.update name filter updates = .ok c' ↔
    (∀ index ∈ c.indexes, index.unique = true → ¬ c.ClashesOn filter updates index) ∧
      c' = { c with documents := c.updatedDocuments filter updates } := by
  rw [update_eq_ok_iff]
  refine and_congr_left fun _ => ⟨?_, ?_⟩
  · rintro hadmits index hmem hunique ⟨i, j, hi, hj, hne, hheld, hcollide⟩
    exact hadmits i hi hheld index hmem hunique _ (List.mem_eraseIdx_iff_getElem.mpr ⟨j, hj, hne, rfl⟩) hcollide
  · intro hfree i hi hheld index hmem hunique other hother hcollide
    obtain ⟨j, hj, hne, rfl⟩ := List.mem_eraseIdx_iff_getElem.mp hother
    exact hfree index hmem hunique ⟨i, j, hi, hj, hne, hheld, hcollide⟩

end Collection

namespace Store

/-- An update of many documents either changes all that match, each in its place, and nothing else, or changes
nothing. It does the latter just if on some unique index a document as updated collides with another one as the update
would leave it; it then names such an index. Old keys of documents that are updated do not count, so that unique keys
may be exchanged. -/
theorem update_all_or_nothing (s : Store) (name : String) (filter : Filter) (updates : UpdateBatch) :
    let c := s.collection name
    let ds := c.updatedDocuments filter updates
    let ended := (DocumentStore.updateMany name filter updates : Action Store StoreError Bool) s
    (∀ i : Nat, ds[i]? = c.documents[i]?.map fun d => if filter.holds d then updates.apply d else d) ∧
    (((∀ index ∈ c.indexes, index.unique = true → ¬ c.ClashesOn filter updates index) ∧ ended.1 = .ok true ∧
        ended.2.collection name = ⟨ds, c.indexes⟩ ∧ s.AgreeOutside name ended.2) ∨
      ∃ index ∈ c.indexes, index.unique = true ∧ c.ClashesOn filter updates index ∧
        ended = (.error (.error (.duplicateKey name index.name)), s)) ∧
    ∀ index, (c.ClashesOn filter updates index ↔
        ∃ (i j : Nat) (hi : i < c.documents.length) (hj : j < c.documents.length), j ≠ i ∧
          filter.holds c.documents[i] = true ∧
            ((filter.holds c.documents[j] = false ∧ index.Collide c.documents[j] (updates.apply c.documents[i])) ∨
            (filter.holds c.documents[j] = true ∧
              index.Collide (updates.apply c.documents[j]) (updates.apply c.documents[i])))) ∧
      (index.Separates c.documents → (ds.map index.tuple).Perm (c.documents.map index.tuple) →
        ¬ c.ClashesOn filter updates index) := by
  intro c ds ended
  refine ⟨fun i => List.getElem?_map .., ?_, fun index => ⟨Collection.clashesOn_iff, ?_⟩⟩
  · have hended : ended = Action.write (fun s => s.updateMany name filter updates) s := rfl
    rw [Action.write, StoreCall.updateMany_eq_map] at hended
    cases hupdate : c.update name filter updates with
    | ok c' =>
      obtain ⟨hfree, rfl⟩ := Collection.update_eq_ok_iff_not_clashesOn.mp hupdate
      rw [hupdate] at hended
      rw [hended]
      exact Or.inl ⟨hfree, rfl, collection_put_self s name _, agreeOutside_put name s _⟩
    | error e =>
      obtain ⟨index, hmem, hunique, rfl, hclashes⟩ := Collection.clashesOn_of_update hupdate
      rw [hupdate] at hended
      exact Or.inr ⟨index, hmem, hunique, hclashes, hended⟩
  · exact fun hseparates hperm => Collection.not_clashesOn_of_perm hseparates hperm

section Example

private def rowIndex : Index := ⟨[⟨"a", true⟩, ⟨"b", true⟩, ⟨"c", true⟩], true⟩

private def rows : Store := empty.put "rows" ⟨[⟨[("a", .int 1)]⟩, ⟨[("b", .int 1)]⟩, ⟨[("c", .int 1)]⟩], [rowIndex]⟩

/-- Moves the value of each key to the next, so that each document takes the place of another. -/
private def rotation : UpdateBatch := [.rename "c" "t", .rename "b" "c", .rename "a" "b", .rename "t" "a"]

/-- Documents may move to one another's keys all at once. -/
theorem update_all_or_nothing_rotation :
    rowIndex.Separates (rows.documents "rows") ∧
      (((rows.collection "rows").updatedDocuments .all rotation).map rowIndex.tuple).Perm
        ((rows.documents "rows").map rowIndex.tuple) ∧
      ((DocumentStore.updateMany "rows" .all rotation : Action Store StoreError Bool) rows).1 = .ok true := by
  have hseparates : rowIndex.Separates (rows.documents "rows") := Index.separates_iff_tuples.mpr (by decide)
  have hperm : (((rows.collection "rows").updatedDocuments .all rotation).map rowIndex.tuple).Perm
      ((rows.documents "rows").map rowIndex.tuple) := List.perm_append_singleton _ [_, _]
  refine ⟨hseparates, hperm, ?_⟩
  obtain ⟨-, haccepted | ⟨index, hmem, -, hclashes, -⟩, hindexes⟩ := update_all_or_nothing rows "rows" .all rotation
  · exact haccepted.2.1
  · cases List.mem_singleton.mp hmem
    exact absurd hclashes ((hindexes rowIndex).2 hseparates hperm)

end Example

end Store

end DocumentRepository
