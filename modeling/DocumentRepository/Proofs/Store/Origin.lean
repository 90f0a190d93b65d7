import DocumentRepository.Proofs.Store.BatchFrame

/-! # Where updated values come from

After a batch of updates a key holds the first value that was under some of the keys before the batch, or else one
that the batch gives. Which keys these are, and in which order they come, does not depend on the document: a set and
an unset forget the keys, and a rename puts those of its field before those of its target.
-/
namespace DocumentRepository

/-- The first value under some of the keys of a document, or else a given one. -/
structure Origin where
  keys : List String
  given : Option Value

namespace Origin

def ofKey (key : String) : Origin := ⟨[key], none⟩

def nowhere : Origin := ⟨[], none⟩

def ofValue (v : Value) : Origin := ⟨[], some v⟩

def orElse (o o' : Origin) : Origin :=
  match o.given with
  | some v => ⟨o.keys, some v⟩
  | none => ⟨o.keys ++ o'.keys, o'.given⟩

def value (o : Origin) (d : Document) : Option Value := (o.keys.findSome? fun key => d.field? key).or o.given

variable {o o' : Origin} {d : Document} {key : String} {v : Value}

@[simp] theorem value_ofKey (key : String) (d : Document) : (ofKey key).value d = d.field? key := by
  cases h : d.field? key <;> simp [ofKey, value, h]

@[simp] theorem value_nowhere (d : Document) : nowhere.value d = none := rfl

@[simp] theorem value_ofValue (v : Value) (d : Document) : (ofValue v).value d = some v := rfl

theorem value_orElse (o o' : Origin) (d : Document) : (o.orElse o').value d = (o.value d).or (o'.value d) := by
  obtain ⟨keys, _ | v⟩ := o
  · simp [orElse, value, List.findSome?_append, Option.or_assoc]
  · simp [orElse, value]

theorem keys_orElse_subset (o o' : Origin) : (o.orElse o').keys ⊆ o.keys ++ o'.keys := by
  obtain ⟨keys, _ | v⟩ := o
  · exact List.Subset.refl _
  · exact List.subset_append_left _ _

/-- A value comes from one of the keys or is the given one. -/
theorem value_eq_some (h : o.value d = some v) : (∃ key ∈ o.keys, d.field? key = some v) ∨ o.given = some v := by
  rw [value, Option.or_eq_some_iff] at h
  exact h.imp List.exists_of_findSome?_eq_some And.right

/-- What is under one of the keys is the value when there is nothing else. -/
theorem value_of_mem (hkey : key ∈ o.keys) (hsome : d.field? key = some v)
    (hnone : ∀ other, other ≠ key → d.field? other = none) : o.value d = some v := by
  have hfound : o.keys.findSome? (fun key => d.field? key) = some v := by
    cases h : o.keys.findSome? fun key => d.field? key with
    | none => cases hsome.symm.trans (List.findSome?_eq_none_iff.mp h key hkey)
    | some w =>
      obtain ⟨other, -, hother⟩ := List.exists_of_findSome?_eq_some h
      by_cases hsame : other = key
      · rw [← hsome, ← hsame, hother]
      · cases (hnone other hsame).symm.trans hother
  rw [value, hfound, Option.some_or]

theorem value_empty (o : Origin) : o.value Document.empty = o.given := by
  have hnone : o.keys.findSome? (fun key => Document.empty.field? key) = none :=
    List.findSome?_eq_none_iff.mpr fun _ _ => rfl
  rw [value, hnone, Option.none_or]

end Origin

namespace FieldUpdate

/-- Where the values come from after an update, given where they come from before it. -/
def origin (before : String → Origin) : FieldUpdate → String → Origin
  | .set field v, key => if key = field then .ofValue v else before key
  | .unset field, key => if key = field then .nowhere else before key
  | .rename field target, key =>
    if field = target then before key
    else if key = target then (before field).orElse (before target)
    else if key = field then .nowhere
    else before key

variable {before : String → Origin} {d d' : Document}

theorem field?_apply_origin (h : ∀ key, d'.field? key = (before key).value d) (u : FieldUpdate) (key : String) :
    (u.apply d').field? key = (u.origin before key).value d := by
  cases u with
  | set field v =>
    by_cases hkey : key = field
    · simp [apply, origin, hkey]
    · rw [apply, Document.field?_insert_of_ne hkey, h, origin, if_neg hkey]
  | unset field =>
    by_cases hkey : key = field
    · simp [apply, origin, hkey]
    · rw [apply, Document.field?_remove_of_ne hkey, h, origin, if_neg hkey]
  | rename field target =>
    have hfield := h field
    rw [apply, origin]
    by_cases hsame : field = target
    · subst hsame
      rw [if_pos rfl, ← h]
      cases hv : d'.field? field with
      | none => rfl
      | some v =>
        by_cases hkey : key = field
        · simp [hkey, hv]
        · simp only [Document.field?_insert_of_ne hkey, Document.field?_remove_of_ne hkey]
    · rw [if_neg hsame]
      by_cases htarget : key = target
      · rw [if_pos htarget, Origin.value_orElse, ← h, ← h, htarget]
        cases hv : d'.field? field <;> simp
      · rw [if_neg htarget]
        by_cases hkey : key = field
        · rw [if_pos hkey, hkey]
          cases hv : d'.field? field with
          | none => simpa using hv
          | some v => simp [Document.field?_insert_of_ne hsame]
        · rw [if_neg hkey, ← h]
          cases hv : d'.field? field with
          | none => rfl
          | some v => simp only [Document.field?_insert_of_ne htarget, Document.field?_remove_of_ne hkey]

/-- Updates of the fields of a kind move values from keys of that kind only. -/
theorem keys_origin {kind : String → Prop} {u : FieldUpdate} (hu : kind u.field)
    (h : ∀ key, kind key → ∀ k ∈ (before key).keys, kind k) {key : String} (hkey : kind key) :
    ∀ k ∈ (u.origin before key).keys, kind k := by
  cases u with
  | set field v =>
    rw [origin]
    split
    · exact fun _ hk => absurd hk List.not_mem_nil
    · exact h key hkey
  | unset field =>
    rw [origin]
    split
    · exact fun _ hk => absurd hk List.not_mem_nil
    · exact h key hkey
  | rename field target =>
    rw [origin]
    split
    · exact h key hkey
    · split
      case isTrue htarget =>
        intro k hk
        rcases List.mem_append.mp (Origin.keys_orElse_subset _ _ hk) with hk | hk
        · exact h field hu k hk
        · exact h target (htarget ▸ hkey) k hk
      case isFalse =>
        split
        · exact fun _ hk => absurd hk List.not_mem_nil
        · exact h key hkey

end FieldUpdate

namespace UpdateBatch

def origin (updates : UpdateBatch) : String → Origin := updates.foldl FieldUpdate.origin Origin.ofKey

theorem field?_apply_eq_origin (updates : UpdateBatch) (d : Document) (key : String) :
    (updates.apply d).field? key = (updates.origin key).value d := by
  have hrun : ∀ (before : String → Origin) (d' : Document), (∀ key, d'.field? key = (before key).value d) →
      ∀ key, (updates.apply d').field? key = (updates.foldl FieldUpdate.origin before key).value d := by
    induction updates with
    | nil => exact fun before d' h => h
    | cons u rest ih => exact fun before d' h => ih _ _ (FieldUpdate.field?_apply_origin h u)
  exact hrun Origin.ofKey d (fun key => (Origin.value_ofKey key d).symm) key

theorem keys_origin {kind : String → Prop} {updates : UpdateBatch} (hupdates : ∀ u ∈ updates, kind u.field) {key : String}
    (hkey : kind key) : ∀ k ∈ (updates.origin key).keys, kind k := by
  have hrun : ∀ before : String → Origin, (∀ key, kind key → ∀ k ∈ (before key).keys, kind k) →
      ∀ key, kind key → ∀ k ∈ (updates.foldl FieldUpdate.origin before key).keys, kind k := by
    induction updates with
    | nil => exact fun before h => h
    | cons u rest ih =>
      obtain ⟨hu, hrest⟩ := List.forall_mem_cons.mp hupdates
      exact fun before h => ih hrest _ fun key hkey => FieldUpdate.keys_origin hu h hkey
  refine hrun Origin.ofKey (fun key hkey k hk => ?_) key hkey
  rwa [List.mem_singleton.mp hk]

end UpdateBatch

end DocumentRepository
