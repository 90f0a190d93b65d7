import DocumentRepository.Proofs.Bind
import DocumentRepository.Schema.Basic
import Mathlib.Data.List.Nodup
import Mathlib.Data.List.Perm.Basic

/-! # Which declarations resolve

A declaration of an entity is sound if it has fields, the keys of which differ, none immutable and one the id, and its
indexes name fields by any spelling. Sound declarations resolve and no others do: the first field at fault is reported,
and if there is none, that there is no id, and if there is one, the first name in an index that no field has. The schema
finds the fields by the keys of names and has the indexes on the stored names of the fields.
-/
namespace DocumentRepository

namespace Schema

variable {s : Schema} {fields : List Field} {f : Field} {name : String}

theorem fieldIn?_eq_some_iff (hfields : (fields.map Field.key).Nodup) :
    fieldIn? fields name = some f ↔ f ∈ fields ∧ f.key = fieldKey name := by
  constructor
  · intro h
    exact ⟨List.mem_of_find?_eq_some h, by simpa using List.find?_some h⟩
  · rintro ⟨hf, hkey⟩
    cases hfound : fieldIn? fields name with
    | none => exact absurd (List.find?_eq_none.mp hfound f hf) (by simp [hkey])
    | some g =>
      have hg : g.key = fieldKey name := by simpa using List.find?_some hfound
      rw [List.inj_on_of_nodup_map hfields (List.mem_of_find?_eq_some hfound) hf (hg.trans hkey.symm)]

/-- A field is found by every name with its key. -/
theorem field?_eq_some_iff : s.field? name = some f ↔ f ∈ s.fields ∧ f.key = fieldKey name :=
  fieldIn?_eq_some_iff s.keys_nodup

end Schema

namespace EntityDeclaration

variable {d : EntityDeclaration} {entity : String} {seen before fields rest : List Field} {f id : Field} {e e' : SchemaError}

def Known (fields : List Field) (name : String) : Prop := ∃ f ∈ fields, f.key = fieldKey name

/-- Nothing is wrong with any of some fields; there may be no id yet. -/
structure SoundFields (fields : List Field) : Prop where
  keys_nodup : (fields.map Field.key).Nodup
  mutable : ∀ f ∈ fields, f.immutable = false
  id_unique : ∀ f ∈ fields, ∀ g ∈ fields, f.isId = true → g.isId = true → f = g

structure Sound (d : EntityDeclaration) : Prop where
  ne_nil : d.fields ≠ []
  keys_nodup : (d.fields.map Field.key).Nodup
  mutable : ∀ f ∈ d.fields, f.immutable = false
  one_id : ∃! f, f ∈ d.fields ∧ f.isId = true
  known : ∀ index ∈ d.indexes, ∀ key ∈ index.keys, Known d.fields key.field

inductive FieldFault (entity : String) (before : List Field) (f : Field) : SchemaError → Prop where
  | duplicate (h : f.key ∈ before.map Field.key) : FieldFault entity before f (.duplicateField entity f.name)
  | immutable (hnew : f.key ∉ before.map Field.key) (h : f.immutable = true) :
      FieldFault entity before f (.immutableField entity f.name)
  | secondId (hnew : f.key ∉ before.map Field.key) (hmutable : f.immutable = false) {first : Field}
      (hmem : first ∈ before) (hfirst : first.isId = true) (h : f.isId = true) :
      FieldFault entity before f (.multipleIds entity first.name f.name)

inductive Fault (d : EntityDeclaration) : SchemaError → Prop where
  | noFields (h : d.fields = []) : Fault d (.noFields d.entity)
  | field {before after : List Field} {f : Field} (hsplit : d.fields = before ++ f :: after) (hbefore : SoundFields before)
      {e : SchemaError} (h : FieldFault d.entity before f e) : Fault d e
  | missingId (hne : d.fields ≠ []) (hfields : SoundFields d.fields) (h : ∀ f ∈ d.fields, f.isId = false) :
      Fault d (.missingId d.entity)
  | index (hfields : SoundFields d.fields) (hid : ∃ f ∈ d.fields, f.isId = true) {before after : List IndexDeclaration}
      {index : IndexDeclaration} (hsplit : d.indexes = before ++ index :: after)
      (hbefore : ∀ i ∈ before, ∀ key ∈ i.keys, Known d.fields key.field) {front back : List SortKey} {key : SortKey}
      (hkeys : index.keys = front ++ key :: back) (hfront : ∀ k ∈ front, Known d.fields k.field)
      (h : ¬Known d.fields key.field) : Fault d (.unknownIndexField d.entity key.field)

section Fields

namespace SoundFields

theorem nil : SoundFields [] := ⟨List.nodup_nil, by simp, by simp⟩

theorem perm (h : SoundFields fields) (hperm : fields.Perm rest) : SoundFields rest where
  keys_nodup := (hperm.map Field.key).nodup_iff.mp h.keys_nodup
  mutable f hf := h.mutable f (hperm.mem_iff.mpr hf)
  id_unique f hf g hg := h.id_unique f (hperm.mem_iff.mpr hf) g (hperm.mem_iff.mpr hg)

theorem left (h : SoundFields (before ++ rest)) : SoundFields before where
  keys_nodup := by
    have hnodup := h.keys_nodup
    rw [List.map_append] at hnodup
    exact hnodup.of_append_left
  mutable f hf := h.mutable f (List.mem_append_left rest hf)
  id_unique f hf g hg := h.id_unique f (List.mem_append_left rest hf) g (List.mem_append_left rest hg)

theorem cons_iff : SoundFields (f :: rest) ↔
    f.key ∉ rest.map Field.key ∧ f.immutable = false ∧ (f.isId = true → ∀ g ∈ rest, g.isId = false) ∧ SoundFields rest := by
  constructor
  · intro h
    obtain ⟨hnew, hnodup⟩ := List.nodup_cons.mp h.keys_nodup
    refine ⟨hnew, h.mutable f List.mem_cons_self, ?_, hnodup, ?_, ?_⟩
    · intro hf g hg
      by_contra hid
      rw [Bool.not_eq_false] at hid
      obtain rfl := h.id_unique f List.mem_cons_self g (List.mem_cons_of_mem f hg) hf hid
      exact hnew (List.mem_map_of_mem hg)
    · exact fun g hg => h.mutable g (List.mem_cons_of_mem f hg)
    · exact fun a ha b hb => h.id_unique a (List.mem_cons_of_mem f ha) b (List.mem_cons_of_mem f hb)
  · rintro ⟨hnew, hmutable, hid, hrest⟩
    refine ⟨List.nodup_cons.mpr ⟨hnew, hrest.keys_nodup⟩, List.forall_mem_cons.mpr ⟨hmutable, hrest.mutable⟩, ?_⟩
    intro a ha b hb hida hidb
    rcases List.mem_cons.mp ha with rfl | hain <;> rcases List.mem_cons.mp hb with rfl | hbin
    · rfl
    · rw [hid hida b hbin] at hidb
      cases hidb
    · rw [hid hidb a hain] at hida
      cases hida
    · exact hrest.id_unique a hain b hbin hida hidb

end SoundFields

namespace FieldFault

theorem congr (h : FieldFault entity before f e) (hmem : ∀ g, g ∈ before ↔ g ∈ rest) : FieldFault entity rest f e := by
  have hkeys : f.key ∈ before.map Field.key ↔ f.key ∈ rest.map Field.key := by simp only [List.mem_map, hmem]
  cases h with
  | duplicate h => exact .duplicate (hkeys.mp h)
  | immutable hnew h => exact .immutable (mt hkeys.mpr hnew) h
  | secondId hnew hmutable hfirst hid h => exact .secondId (mt hkeys.mpr hnew) hmutable ((hmem _).mp hfirst) hid h

theorem not_soundFields (h : FieldFault entity before f e) : ¬SoundFields (f :: before) := by
  intro hsound
  obtain ⟨hnew, hmutable, hid, -⟩ := SoundFields.cons_iff.mp hsound
  cases h with
  | duplicate h => exact hnew h
  | immutable _ h => rw [h] at hmutable; cases hmutable
  | secondId _ _ hfirst hfirstId h => rw [hid h _ hfirst] at hfirstId; cases hfirstId

/-- Behind sound fields, a field has one fault at most. -/
theorem unique (hbefore : SoundFields before) (h : FieldFault entity before f e) (h' : FieldFault entity before f e') :
    e = e' := by
  cases h with
  | duplicate h =>
    cases h' with
    | duplicate => rfl
    | immutable hnew _ => exact absurd h hnew
    | secondId hnew _ _ _ _ => exact absurd h hnew
  | immutable hnew h =>
    cases h' with
    | duplicate h' => exact absurd h' hnew
    | immutable => rfl
    | secondId _ hmutable _ _ _ => rw [h] at hmutable; cases hmutable
  | secondId hnew hmutable hmem hfirst h =>
    cases h' with
    | duplicate h' => exact absurd h' hnew
    | immutable _ h' => rw [hmutable] at h'; cases h'
    | secondId _ _ hmem' hfirst' _ => rw [hbefore.id_unique _ hmem _ hmem' hfirst hfirst']

end FieldFault

/-- A field is at fault, or else it is sound behind those before it and the search goes on. -/
theorem firstFault_cons (entity : String) (f : Field) (rest : List Field) (hseen : SoundFields seen) :
    (∃ e, FieldFault entity seen f e ∧ firstFault entity seen (f :: rest) = some e) ∨
      SoundFields (f :: seen) ∧ firstFault entity seen (f :: rest) = firstFault entity (f :: seen) rest := by
  rw [firstFault]
  split
  case isTrue hold => exact .inl ⟨_, .duplicate hold, rfl⟩
  case isFalse hnew =>
    split
    case isTrue himmutable => exact .inl ⟨_, .immutable hnew himmutable, rfl⟩
    case isFalse hmutable =>
      rw [Bool.not_eq_true] at hmutable
      split
      · rename_i first hfirst
        split at hfirst
        case isTrue hid =>
          have hfirstId := List.find?_some hfirst
          exact .inl ⟨_, .secondId hnew hmutable (List.mem_of_find?_eq_some hfirst) hfirstId hid, rfl⟩
        case isFalse => cases hfirst
      · rename_i hnone
        refine .inr ⟨SoundFields.cons_iff.mpr ⟨hnew, hmutable, fun hid g hg => ?_, hseen⟩, rfl⟩
        rw [if_pos hid] at hnone
        simpa using List.find?_eq_none.mp hnone g hg

theorem firstFault_eq_none_iff (hseen : SoundFields seen) :
    firstFault entity seen fields = none ↔ SoundFields (seen ++ fields) := by
  induction fields generalizing seen with
  | nil => simpa [firstFault] using hseen
  | cons f rest ih =>
    have hperm : (seen ++ f :: rest).Perm (f :: seen ++ rest) := List.perm_middle
    rcases firstFault_cons entity f rest hseen with ⟨e, hfault, hfound⟩ | ⟨hsound, hgoesOn⟩
    · rw [hfound]
      exact iff_of_false (Option.some_ne_none e) fun h => hfault.not_soundFields (h.perm hperm).left
    · rw [hgoesOn, ih hsound]
      exact ⟨fun h => h.perm hperm.symm, fun h => h.perm hperm⟩

/-- The first field at fault behind sound ones is the one that is reported. -/
theorem firstFault_eq_some_iff (hseen : SoundFields seen) :
    firstFault entity seen fields = some e ↔ ∃ before f after, fields = before ++ f :: after ∧
      SoundFields (seen ++ before) ∧ FieldFault entity (seen ++ before) f e := by
  induction fields generalizing seen with
  | nil => simp [firstFault]
  | cons f rest ih =>
    have hperm (before : List Field) : (seen ++ f :: before).Perm (f :: seen ++ before) := List.perm_middle
    rcases firstFault_cons entity f rest hseen with ⟨e', hfault, hfound⟩ | ⟨hsound, hgoesOn⟩
    · rw [hfound, Option.some.injEq]
      constructor
      · rintro rfl
        exact ⟨[], f, rest, rfl, by simpa using hseen, by simpa using hfault⟩
      · rintro ⟨before, g, after, hsplit, hbefore, hg⟩
        cases before with
        | nil =>
          obtain ⟨rfl, rfl⟩ := List.cons.inj hsplit
          rw [List.append_nil] at hg
          exact hfault.unique hseen hg
        | cons g' before =>
          obtain ⟨rfl, rfl⟩ := List.cons.inj hsplit
          exact absurd (hbefore.perm (hperm before)).left hfault.not_soundFields
    · rw [hgoesOn, ih hsound]
      constructor
      · rintro ⟨before, g, after, rfl, hbefore, hg⟩
        exact ⟨f :: before, g, after, rfl, hbefore.perm (hperm before).symm,
          hg.congr fun _ => (hperm before).symm.mem_iff⟩
      · rintro ⟨before, g, after, hsplit, hbefore, hg⟩
        cases before with
        | nil =>
          obtain ⟨rfl, rfl⟩ := List.cons.inj hsplit
          rw [List.append_nil] at hg
          exact absurd hsound hg.not_soundFields
        | cons g' before =>
          obtain ⟨rfl, rfl⟩ := List.cons.inj hsplit
          exact ⟨before, g, after, rfl, hbefore.perm (hperm before), hg.congr fun _ => (hperm before).mem_iff⟩

end Fields

section Indexes

variable {declared : IndexDeclaration} {indexes : List IndexDeclaration} {stored : Index} {key : SortKey} {name : String}

def StoredKey (fields : List Field) (key stored : SortKey) : Prop :=
  ∃ f ∈ fields, f.key = fieldKey key.field ∧ stored = ⟨f.name, key.ascending⟩

structure StoredIndex (fields : List Field) (declared : IndexDeclaration) (stored : Index) : Prop where
  keys : List.Forall₂ (StoredKey fields) declared.keys stored.keys
  unique_eq : stored.unique = declared.unique

theorem fieldIn?_eq_none_iff : Schema.fieldIn? fields name = none ↔ ¬Known fields name := by
  simp [Schema.fieldIn?, Known]

def storeKey (entity : String) (fields : List Field) (key : SortKey) : Except SchemaError SortKey :=
  match Schema.fieldIn? fields key.field with
  | some f => .ok ⟨f.name, key.ascending⟩
  | none => .error (.unknownIndexField entity key.field)

theorem resolveIndex_eq : resolveIndex entity fields declared =
    declared.keys.mapM (storeKey entity fields) >>= fun keys => pure ⟨keys, declared.unique⟩ := rfl

theorem storeKey_eq_ok_iff (hfields : (fields.map Field.key).Nodup) {stored : SortKey} :
    storeKey entity fields key = .ok stored ↔ StoredKey fields key stored := by
  have hmeans : StoredKey fields key stored ↔
      ∃ f, Schema.fieldIn? fields key.field = some f ∧ stored = ⟨f.name, key.ascending⟩ := by
    simp only [StoredKey, Schema.fieldIn?_eq_some_iff hfields, and_assoc]
  rw [hmeans, storeKey]
  cases Schema.fieldIn? fields key.field <;> simp [eq_comm]

theorem storeKey_eq_error_iff : storeKey entity fields key = .error e ↔
    ¬Known fields key.field ∧ e = .unknownIndexField entity key.field := by
  rw [← fieldIn?_eq_none_iff, storeKey]
  cases Schema.fieldIn? fields key.field <;> simp [eq_comm]

theorem exists_storeKey_iff (entity : String) : (∃ stored, storeKey entity fields key = .ok stored) ↔ Known fields key.field := by
  have hknown : Known fields key.field ↔ Schema.fieldIn? fields key.field ≠ none := by
    rw [ne_eq, fieldIn?_eq_none_iff, not_not]
  rw [hknown, storeKey]
  cases Schema.fieldIn? fields key.field <;> simp

theorem resolveIndex_eq_ok_iff (hfields : (fields.map Field.key).Nodup) :
    resolveIndex entity fields declared = .ok stored ↔ StoredIndex fields declared stored := by
  rw [resolveIndex_eq, bind_eq_ok_iff]
  simp only [mapM_eq_ok_iff, storeKey_eq_ok_iff hfields]
  constructor
  · rintro ⟨keys, hkeys, h⟩
    cases h
    exact ⟨hkeys, rfl⟩
  · intro h
    obtain ⟨keys, unique⟩ := stored
    obtain rfl : unique = declared.unique := h.unique_eq
    exact ⟨keys, h.keys, rfl⟩

theorem exists_resolveIndex_iff : (∃ stored, resolveIndex entity fields declared = .ok stored) ↔
    ∀ key ∈ declared.keys, Known fields key.field := by
  simp only [← exists_storeKey_iff entity, ← exists_mapM_eq_ok_iff, resolveIndex_eq, bind_eq_ok_iff]
  constructor
  · rintro ⟨stored, keys, hkeys, -⟩
    exact ⟨keys, hkeys⟩
  · rintro ⟨keys, hkeys⟩
    exact ⟨_, keys, hkeys, rfl⟩

theorem resolveIndex_eq_error_iff : resolveIndex entity fields declared = .error e ↔
    ∃ front key back, declared.keys = front ++ key :: back ∧ (∀ k ∈ front, Known fields k.field) ∧
      ¬Known fields key.field ∧ e = .unknownIndexField entity key.field := by
  have hkeys : resolveIndex entity fields declared = .error e ↔ declared.keys.mapM (storeKey entity fields) = .error e := by
    rw [resolveIndex_eq, bind_eq_error_iff]
    refine or_iff_left ?_
    rintro ⟨keys, -, h⟩
    cases h
  rw [hkeys, mapM_eq_error_iff]
  simp only [exists_storeKey_iff, storeKey_eq_error_iff]

end Indexes

section Resolve

variable {s : Schema}

/-- What a schema has of the declaration that it resolves. -/
structure Resolved (d : EntityDeclaration) (s : Schema) : Prop where
  entity_eq : s.entity = d.entity
  collection_eq : s.collection = d.collection
  fields_eq : s.fields = d.fields
  dropsEntities_eq : s.dropsEntities = d.dropsEntities
  dropsIndexes_eq : s.dropsIndexes = d.dropsIndexes
  field?_iff : ∀ name f, s.field? name = some f ↔ f ∈ d.fields ∧ f.key = fieldKey name
  isId_iff : ∀ f ∈ d.fields, f.isId = true ↔ f = s.id
  indexes_eq : ∃ stored, List.Forall₂ (StoredIndex d.fields) d.indexes stored ∧
    s.indexes = (if s.id.nonIndex then [] else [⟨[⟨s.id.name, true⟩], true⟩]) ++ stored

/-- The checks of a declaration, one after another. -/
theorem resolve_eq_error_iff : d.resolve = .error e ↔
    d.fields = [] ∧ e = .noFields d.entity ∨
      d.fields ≠ [] ∧ (firstFault d.entity [] d.fields = some e ∨
        firstFault d.entity [] d.fields = none ∧
          (d.fields.find? (·.isId) = none ∧ e = .missingId d.entity ∨
            d.fields.find? (·.isId) ≠ none ∧ d.indexes.mapM (resolveIndex d.entity d.fields) = .error e)) := by
  unfold resolve
  split
  case isTrue hempty =>
    rw [List.isEmpty_iff] at hempty
    simp [hempty, eq_comm]
  case isFalse hempty =>
    rw [List.isEmpty_iff] at hempty
    split
    · simp_all
    · rename_i hsound
      split
      · rename_i hnone
        simp [hempty, hsound, hnone, eq_comm]
      · split <;> simp_all

theorem resolve_eq_ok (h : d.resolve = .ok s) :
    d.fields ≠ [] ∧ SoundFields d.fields ∧ d.fields.find? (·.isId) = some s.id ∧
      ∃ stored, d.indexes.mapM (resolveIndex d.entity d.fields) = .ok stored ∧ s.indexes = idIndex s.id ++ stored ∧
        s.entity = d.entity ∧ s.collection = d.collection ∧ s.fields = d.fields ∧ s.dropsEntities = d.dropsEntities ∧
          s.dropsIndexes = d.dropsIndexes := by
  unfold resolve at h
  split at h
  case isTrue => cases h
  case isFalse hempty =>
    split at h
    · cases h
    · rename_i hfields
      split at h
      · cases h
      · rename_i id hid
        split at h
        · cases h
        · rename_i stored hstored
          cases h
          exact ⟨by simpa using hempty, (firstFault_eq_none_iff .nil).mp hfields, hid, stored, hstored, rfl, rfl, rfl, rfl, rfl, rfl⟩

theorem sound_iff : d.Sound ↔ d.fields ≠ [] ∧ SoundFields d.fields ∧ (∃ f ∈ d.fields, f.isId = true) ∧
    ∀ index ∈ d.indexes, ∀ key ∈ index.keys, Known d.fields key.field := by
  constructor
  · intro h
    obtain ⟨id, ⟨hmem, hid⟩, honly⟩ := h.one_id
    refine ⟨h.ne_nil, ⟨h.keys_nodup, h.mutable, fun f hf g hg hidf hidg => ?_⟩, ⟨id, hmem, hid⟩, h.known⟩
    rw [honly f ⟨hf, hidf⟩, honly g ⟨hg, hidg⟩]
  · rintro ⟨hne, hfields, ⟨id, hmem, hid⟩, hknown⟩
    refine ⟨hne, hfields.keys_nodup, hfields.mutable, ⟨id, ⟨hmem, hid⟩, ?_⟩, hknown⟩
    exact fun f hf => hfields.id_unique f hf.1 id hmem hf.2 hid

theorem mapM_resolveIndex_eq_error_iff : d.indexes.mapM (resolveIndex d.entity d.fields) = .error e ↔
    ∃ before index after, d.indexes = before ++ index :: after ∧
      (∀ i ∈ before, ∀ key ∈ i.keys, Known d.fields key.field) ∧
      ∃ front key back, index.keys = front ++ key :: back ∧ (∀ k ∈ front, Known d.fields k.field) ∧
        ¬Known d.fields key.field ∧ e = .unknownIndexField d.entity key.field := by
  simp only [mapM_eq_error_iff, exists_resolveIndex_iff, resolveIndex_eq_error_iff]

theorem resolve_eq_error_iff_fault : d.resolve = .error e ↔ d.Fault e := by
  rw [resolve_eq_error_iff, firstFault_eq_some_iff .nil, firstFault_eq_none_iff .nil, mapM_resolveIndex_eq_error_iff]
  simp only [List.nil_append]
  constructor
  · rintro (⟨hempty, rfl⟩ | ⟨hne, ⟨before, f, after, hsplit, hbefore, hf⟩ | ⟨hfields, ⟨hnone, rfl⟩ | ⟨hsome, hindex⟩⟩⟩)
    · exact .noFields hempty
    · exact .field hsplit hbefore hf
    · exact .missingId hne hfields (by simpa using hnone)
    · obtain ⟨before, index, after, hsplit, hbefore, front, key, back, hkeys, hfront, hunknown, rfl⟩ := hindex
      exact .index hfields (by simpa using hsome) hsplit hbefore hkeys hfront hunknown
  · intro h
    cases h with
    | noFields hempty => exact .inl ⟨hempty, rfl⟩
    | field hsplit hbefore hf => exact .inr ⟨by simp [hsplit], .inl ⟨_, _, _, hsplit, hbefore, hf⟩⟩
    | missingId hne hfields hnone => exact .inr ⟨hne, .inr ⟨hfields, .inl ⟨by simpa using hnone, rfl⟩⟩⟩
    | index hfields hid hsplit hbefore hkeys hfront hunknown =>
      obtain ⟨id, hmem, hisId⟩ := hid
      refine .inr ⟨List.ne_nil_of_mem hmem, .inr ⟨hfields, .inr ⟨?_, ?_⟩⟩⟩
      · simpa using ⟨id, hmem, hisId⟩
      · exact ⟨_, _, _, hsplit, hbefore, _, _, _, hkeys, hfront, hunknown, rfl⟩

theorem Sound.not_fault (h : d.Sound) : ¬d.Fault e := by
  obtain ⟨hne, hfields, ⟨id, hmem, hid⟩, hknown⟩ := sound_iff.mp h
  intro hfault
  cases hfault with
  | noFields hempty => exact hne hempty
  | field hsplit hbefore hf =>
    rw [hsplit] at hfields
    exact hf.not_soundFields (hfields.perm List.perm_middle).left
  | missingId _ _ hnone => rw [hnone id hmem] at hid; cases hid
  | @index _ _ _ _ index hsplit _ _ _ key hkeys _ hunknown =>
    exact hunknown (hknown index (by simp [hsplit]) key (by simp [hkeys]))

theorem resolved_of_resolve (h : d.resolve = .ok s) : d.Resolved s := by
  obtain ⟨-, hfields, hid, stored, hstored, hindexes, hentity, hcollection, hsame, hentities, hdrops⟩ := resolve_eq_ok h
  have hidMem : s.id ∈ d.fields := List.mem_of_find?_eq_some hid
  have hisId : s.id.isId = true := by simpa using List.find?_some hid
  refine ⟨hentity, hcollection, hsame, hentities, hdrops, fun name f => ?_, fun f hf => ?_, stored, ?_, hindexes⟩
  · rw [Schema.field?_eq_some_iff, hsame]
  · constructor
    · exact fun hf' => hfields.id_unique f hf s.id hidMem hf' hisId
    · rintro rfl
      exact hisId
  · exact (mapM_eq_ok_iff.mp hstored).imp fun _ _ => (resolveIndex_eq_ok_iff hfields.keys_nodup).mp

/-- Just the sound declarations resolve, and the others are refused with the first thing that is wrong with them. What a
schema finds by a name is the one field with its key, the id is the field that is marked so, and the indexes are that of
the id, unless it wants none, and the declared ones in their order, on stored names. -/
theorem sound_declarations_resolve (d : EntityDeclaration) :
    ((∃ s, d.resolve = .ok s) ↔ d.Sound) ∧ (∀ e, d.resolve = .error e ↔ d.Fault e) ∧ ∀ s, d.resolve = .ok s → d.Resolved s := by
  refine ⟨⟨?_, fun hsound => ?_⟩, fun e => resolve_eq_error_iff_fault, fun s => resolved_of_resolve⟩
  · rintro ⟨s, h⟩
    obtain ⟨hne, hfields, hid, stored, hstored, -⟩ := resolve_eq_ok h
    have hidMem : s.id ∈ d.fields := List.mem_of_find?_eq_some hid
    have hisId : s.id.isId = true := by simpa using List.find?_some hid
    refine sound_iff.mpr ⟨hne, hfields, ⟨s.id, hidMem, hisId⟩, fun index hindex => ?_⟩
    exact exists_resolveIndex_iff.mp (exists_mapM_eq_ok_iff.mp ⟨stored, hstored⟩ index hindex)
  · cases h : d.resolve with
    | ok s => exact ⟨s, rfl⟩
    | error e => exact absurd (resolve_eq_error_iff_fault.mp h) hsound.not_fault

section Example

def patrons : EntityDeclaration where
  entity := "Patron"
  collection := "patrons"
  fields := [⟨"id", .int, true, false, false⟩, ⟨"first_name", .text, false, false, false⟩, ⟨"fines", .int, false, false, false⟩]
  indexes := [⟨[⟨"FirstName", true⟩, ⟨"FINES", false⟩], true⟩]
  dropsEntities := false
  dropsIndexes := false

/-- The names in the index of patrons are found, and stored as documents have them. -/
theorem sound_declarations_resolve_patrons :
    patrons.Sound ∧ ∃ s, patrons.resolve = .ok s ∧ s.field? "FIRST_NAME" = some ⟨"first_name", .text, false, false, false⟩ ∧
      s.indexes = [⟨[⟨"id", true⟩], true⟩, ⟨[⟨"first_name", true⟩, ⟨"fines", false⟩], true⟩] := by
  have hnodup : (patrons.fields.map Field.key).Nodup := by decide +kernel
  have hresolve : patrons.resolve = .ok
      { patrons with
        id := ⟨"id", .int, true, false, false⟩
        indexes := [⟨[⟨"id", true⟩], true⟩, ⟨[⟨"first_name", true⟩, ⟨"fines", false⟩], true⟩]
        keys_nodup := hnodup
        id_mem := List.mem_cons_self } := rfl
  obtain ⟨hsound, -, hresolved⟩ := sound_declarations_resolve patrons
  refine ⟨hsound.mp ⟨_, hresolve⟩, _, hresolve, ?_, rfl⟩
  exact ((hresolved _ hresolve).field?_iff _ _).mpr ⟨by decide, by decide +kernel⟩

end Example

end Resolve

end EntityDeclaration

end DocumentRepository
