import DocumentRepository.Proofs.Path
import DocumentRepository.Proofs.Query.Meaning
import DocumentRepository.Proofs.Schema.Resolution
import DocumentRepository.Proofs.Store.UniqueIndex

/-! # Fields as keys and as paths

A document is written under the names of its fields as they are, and read by paths, which are cut at every dot. The two
agree on a name just if it has no dot: a field with a dot in its name is stored where no path leads, so no look-up and no
filter finds it, and on a unique index all documents that hold it count as if they did not.
-/
namespace DocumentRepository

/-- What a document holds under a name is found there, and the filters for the value and for its presence say so. -/
structure Document.Reaches (name : String) (v : Value) (d : Document) : Prop where
  found : d.get? name = some v
  equal : (Filter.eq name v).holds d = true
  present : (Filter.exists name).holds d = true

/-- Two documents hold different values under some key of an index, a missing value counting as null. -/
def Index.Differ (index : Index) (a b : Document) : Prop :=
  ∃ key ∈ index.keys, ((a.field? key.field).getD .null).looseEqual ((b.field? key.field).getD .null) = false

variable {name path : String} {v : Value} {d a b : Document} {index : Index} {c : Collection}

theorem Document.reaches_of_undotted (hname : '.' ∉ name.toList) (hd : d.field? name = some v)
    (hv : v.hasNoNaN = true) : d.Reaches name v := by
  have hfound : d.get? name = some v := (get?_of_undotted hname d).trans hd
  have hmeans : v.means v = true := by rw [Value.means, Value.looseEqual_self hv, Bool.true_or]
  exact {
    found := hfound
    equal := by rw [Filter.holds, Filter.eqHolds_eq_means, hfound, Option.getD_some, hmeans]
    present := by rw [Filter.holds, hfound, Option.isSome_some] }

/-- A document whose only name has a dot is empty to every reader. -/
theorem Document.get?_dotted (h : '.' ∈ name.toList) (path : String) (v : Value) :
    Document.get? path ⟨[(name, v)]⟩ = none := Value.descend_dotted h path v

theorem Document.field?_singleton (name : String) (v : Value) : Document.field? name ⟨[(name, v)]⟩ = some v := by
  simp [field?, Table.find?]

namespace Index

theorem collide_of_clash? (h : c.clash? [a] b = some index) : index.Collide a b := by
  have hagree := List.find?_some h
  rw [List.any_cons, List.any_nil, Bool.or_false] at hagree
  exact tuplesAgree_iff.mp hagree

theorem clash?_of_collide (hunique : index.unique = true) (h : index.Collide a b) :
    Collection.clash? ⟨[], [index]⟩ [a] b = some index := by
  have hagree : tuplesAgree (index.tuple a) (index.tuple b) = true := tuplesAgree_iff.mpr h
  simp [Collection.clash?, hunique, hagree]

theorem not_collide_of_differ (hkeys : ∀ key ∈ index.keys, '.' ∉ key.field.toList) (h : index.Differ a b) :
    ¬index.Collide a b := by
  obtain ⟨key, hkey, hdiffer⟩ := h
  intro hcollide
  have hequal := hcollide key hkey
  rw [Document.getOrNull, Document.getOrNull, Document.get?_of_undotted (hkeys key hkey),
    Document.get?_of_undotted (hkeys key hkey), hdiffer] at hequal
  cases hequal

/-- Two documents that hold different values under a name with a dot only collide on every index. -/
theorem collide_dotted (index : Index) (h : '.' ∈ name.toList) (u v : Value) :
    index.Collide ⟨[(name, u)]⟩ ⟨[(name, v)]⟩ := by
  intro key _
  rw [Document.getOrNull, Document.getOrNull, Document.get?_dotted h, Document.get?_dotted h]
  rfl

end Index

namespace EntityDeclaration

variable {decl : EntityDeclaration} {schema : Schema}

/-- The indexes of a sound declaration are on the stored names of its fields. -/
theorem declared_of_resolve (h : decl.resolve = .ok schema) :
    ∀ index ∈ schema.indexes, ∀ key ∈ index.keys, ∃ f ∈ schema.fields, f.name = key.field := by
  have hresolved := resolved_of_resolve h
  obtain ⟨stored, hstored, hindexes⟩ := hresolved.indexes_eq
  rw [hindexes]
  intro index hindex key hkey
  rcases List.mem_append.mp hindex with hid | hdeclared
  · split at hid
    case isTrue => cases hid
    case isFalse =>
      rw [List.mem_singleton.mp hid, List.mem_singleton] at hkey
      exact ⟨schema.id, schema.id_mem, by rw [hkey]⟩
  · obtain ⟨declared, -, hindex⟩ := exists_of_forall₂ hstored hdeclared
    obtain ⟨written, -, f, hf, -, rfl⟩ := exists_of_forall₂ hindex.keys hkey
    exact ⟨f, hresolved.fields_eq ▸ hf, rfl⟩

/-- The documents of a sound declaration are reached under the names of those fields that have no dot, and a unique index
tells all documents with different values apart just if it is on such fields only. -/
theorem fields_addressed_iff (h : decl.resolve = .ok schema) :
    (∀ f ∈ schema.fields,
      (∀ (d : Document) (v : Value), d.field? f.name = some v → v.hasNoNaN = true → d.Reaches f.name v) ↔
        '.' ∉ f.name.toList) ∧
      ∀ index ∈ schema.indexes, index.unique = true →
        ((∀ a b, index.Differ a b → ∀ c : Collection, c.clash? [a] b ≠ some index) ↔
          ∀ f ∈ schema.fields, (∃ key ∈ index.keys, key.field = f.name) → '.' ∉ f.name.toList) := by
  refine ⟨fun f _ => ⟨fun hall hdot => ?_, fun hname d v hd hv => Document.reaches_of_undotted hname hd hv⟩, ?_⟩
  · have hreaches := hall ⟨[(f.name, .null)]⟩ .null (Document.field?_singleton f.name .null) rfl
    cases (Document.get?_dotted hdot f.name .null).symm.trans hreaches.found
  · intro index hindex hunique
    constructor
    · rintro hall f - ⟨key, hkey, hfield⟩ hdot
      have hdiffer : index.Differ ⟨[(f.name, .bool true)]⟩ ⟨[(f.name, .bool false)]⟩ := by
        refine ⟨key, hkey, ?_⟩
        rw [hfield, Document.field?_singleton, Document.field?_singleton]
        rfl
      exact hall _ _ hdiffer ⟨[], [index]⟩ (Index.clash?_of_collide hunique (index.collide_dotted hdot _ _))
    · intro hnames a b hdiffer c hclash
      refine Index.not_collide_of_differ (fun key hkey => ?_) hdiffer (Index.collide_of_clash? hclash)
      obtain ⟨f, hf, hfield⟩ := declared_of_resolve h index hindex key hkey
      exact hfield ▸ hnames f hf ⟨key, hkey, hfield.symm⟩

section Example

def meters (idName : String) : EntityDeclaration where
  entity := "Meter"
  collection := "meters"
  fields := [⟨idName, .int, true, false, false⟩, ⟨"place", .text, false, false, false⟩]
  indexes := []
  dropsEntities := false
  dropsIndexes := false

def meterIndex (idName : String) : Index := ⟨[⟨idName, true⟩], true⟩

def meterSchema (idName : String) (h : [fieldKey idName, fieldKey "place"].Nodup) : Schema where
  entity := "Meter"
  collection := "meters"
  fields := (meters idName).fields
  id := ⟨idName, .int, true, false, false⟩
  indexes := [meterIndex idName]
  dropsEntities := false
  dropsIndexes := false
  keys_nodup := h
  id_mem := List.mem_cons_self

/-- Meters are reached by an id without a dot, and told apart by it. -/
theorem fields_addressed_iff_meters :
    (∃ h, (meters "id").resolve = .ok (meterSchema "id" h)) ∧ Document.Reaches "id" (.int 7) ⟨[("id", .int 7)]⟩ ∧
      Collection.clash? ⟨[], [meterIndex "id"]⟩ [⟨[("id", .int 7)]⟩] ⟨[("id", .int 8)]⟩ ≠ some (meterIndex "id") := by
  have hnodup : [fieldKey "id", fieldKey "place"].Nodup := by decide +kernel
  have hresolve : (meters "id").resolve = .ok (meterSchema "id" hnodup) := rfl
  obtain ⟨hfields, hindexes⟩ := fields_addressed_iff hresolve
  have hreaches := (hfields ⟨"id", .int, true, false, false⟩ List.mem_cons_self).mpr (by decide)
  have htells := (hindexes (meterIndex "id") List.mem_cons_self rfl).mpr <| by
    rintro f - ⟨key, hkey, hfield⟩
    rw [List.mem_singleton.mp hkey] at hfield
    exact hfield ▸ (by decide)
  exact ⟨⟨hnodup, hresolve⟩, hreaches _ _ rfl rfl, htells _ _ ⟨⟨"id", true⟩, List.mem_cons_self, by decide +kernel⟩ _⟩

/-- Meters with a dot in the name of the id are not reached by it, and the second one counts as a duplicate of the first. -/
theorem dotted_field_not_addressed :
    ¬∀ (decl : EntityDeclaration) (schema : Schema), decl.resolve = .ok schema →
      (∀ f ∈ schema.fields, ∀ (d : Document) (v : Value), d.field? f.name = some v → v.hasNoNaN = true →
        d.get? f.name = some v ∧ (Filter.eq f.name v).holds d = true ∧ (Filter.exists f.name).holds d = true) ∧
      ∀ index ∈ schema.indexes, index.unique = true → ∀ a b, index.Differ a b →
        ∀ (c : Collection), c.clash? [a] b ≠ some index := by
  intro hall
  have hnodup : [fieldKey "meta.id", fieldKey "place"].Nodup := by decide +kernel
  obtain ⟨-, hindexes⟩ := hall (meters "meta.id") (meterSchema "meta.id" hnodup) rfl
  have hdiffer : (meterIndex "meta.id").Differ ⟨[("meta.id", .int 1)]⟩ ⟨[("meta.id", .int 2)]⟩ :=
    ⟨⟨"meta.id", true⟩, List.mem_cons_self, by decide +kernel⟩
  exact hindexes (meterIndex "meta.id") List.mem_cons_self rfl _ _ hdiffer ⟨[], [meterIndex "meta.id"]⟩
    (Index.clash?_of_collide rfl (Index.collide_dotted _ (by decide) _ _))

end Example

end EntityDeclaration

end DocumentRepository
