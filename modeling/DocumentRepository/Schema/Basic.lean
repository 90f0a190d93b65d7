import DocumentRepository.Schema.Field
import DocumentRepository.Schema.Index

/-! # Schemas

A schema is an entity declaration that has been found sound: the keys of its fields differ, no
field is immutable, one field is the id, and indexes name declared fields. Fields are looked up
by key. -/
namespace DocumentRepository

structure EntityDeclaration where
  entity : String
  collection : String
  fields : List Field
  indexes : List IndexDeclaration
  dropsEntities : Bool
  dropsIndexes : Bool
  deriving DecidableEq, Repr, Inhabited

inductive SchemaError where
  | noFields (entity : String)
  | duplicateField (entity field : String)
  | immutableField (entity field : String)
  | missingId (entity : String)
  | multipleIds (entity first second : String)
  | unknownIndexField (entity field : String)
  deriving DecidableEq, Repr

def SchemaError.message : SchemaError → String
  | .noFields entity => s!"entity {entity} declares no fields"
  | .duplicateField entity field =>
    s!"entity {entity} declares field `{field}` twice (names are compared case-insensitively)"
  | .immutableField entity field =>
    s!"entity {entity} field `{field}` is immutable; derived repositories must be able to write every field"
  | .missingId entity => s!"entity {entity} has no field marked as the unique id"
  | .multipleIds entity first second =>
    s!"entity {entity} marks both `{first}` and `{second}` as the unique id"
  | .unknownIndexField entity field => s!"entity {entity} declares an index on unknown field `{field}`"

structure Schema where
  entity : String
  collection : String
  fields : List Field
  id : Field
  indexes : List Index
  dropsEntities : Bool
  dropsIndexes : Bool
  keys_nodup : (fields.map Field.key).Nodup
  id_mem : id ∈ fields

namespace Schema

/-- The field of a name, letter case and underscores left aside. -/
def fieldIn? (fields : List Field) (name : String) : Option Field :=
  fields.find? fun f => f.key == fieldKey name

def field? (s : Schema) (name : String) : Option Field := fieldIn? s.fields name

end Schema

namespace EntityDeclaration

/-- The first fault of the fields in their order; `seen` are the fields before them. -/
def firstFault (entity : String) (seen : List Field) : List Field → Option SchemaError
  | [] => none
  | f :: rest =>
    if f.key ∈ seen.map Field.key then some (.duplicateField entity f.name)
    else if f.immutable then some (.immutableField entity f.name)
    else
      match if f.isId then seen.find? (·.isId) else none with
      | some first => some (.multipleIds entity first.name f.name)
      | none => firstFault entity (f :: seen) rest

/-- The fields have different keys if none is at fault. -/
theorem nodup_of_firstFault {entity : String} {seen fields : List Field}
    (h : firstFault entity seen fields = none) (hs : (seen.map Field.key).Nodup) :
    (fields.map Field.key).Nodup ∧ ∀ f ∈ fields, f.key ∉ seen.map Field.key := by
  induction fields generalizing seen with
  | nil => simp
  | cons f rest ih =>
    unfold firstFault at h
    split at h
    · cases h
    · rename_i hnew
      split at h
      · cases h
      · split at h
        · cases h
        · have hseen : ((f :: seen).map Field.key).Nodup := List.nodup_cons.2 ⟨hnew, hs⟩
          obtain ⟨hrest, hout⟩ := ih h hseen
          constructor
          · refine List.nodup_cons.2 ⟨?_, hrest⟩
            intro hmem
            obtain ⟨g, hg, hgk⟩ := List.mem_map.1 hmem
            exact hout g hg (by simp [hgk])
          · intro g hg
            rcases List.mem_cons.1 hg with rfl | hg
            · exact hnew
            · exact fun hm => hout g hg (List.mem_cons_of_mem _ hm)

def resolveIndex (entity : String) (fields : List Field) (index : IndexDeclaration) : Except SchemaError Index := do
  let keys ← index.keys.mapM fun key =>
    match Schema.fieldIn? fields key.field with
    | some f => .ok ⟨f.name, key.ascending⟩
    | none => .error (.unknownIndexField entity key.field)
  return ⟨keys, index.unique⟩

/-- The unique index of the id field, unless the field wants none. -/
def idIndex (id : Field) : List Index := if id.nonIndex then [] else [⟨[⟨id.name, true⟩], true⟩]

def resolve (d : EntityDeclaration) : Except SchemaError Schema :=
  if d.fields.isEmpty then .error (.noFields d.entity)
  else
    match hf : firstFault d.entity [] d.fields with
    | some e => .error e
    | none =>
      match hid : d.fields.find? (·.isId) with
      | none => .error (.missingId d.entity)
      | some id =>
        match d.indexes.mapM (resolveIndex d.entity d.fields) with
        | .error e => .error e
        | .ok indexes =>
          .ok {
            entity := d.entity
            collection := d.collection
            fields := d.fields
            id := id
            indexes := idIndex id ++ indexes
            dropsEntities := d.dropsEntities
            dropsIndexes := d.dropsIndexes
            keys_nodup := (nodup_of_firstFault hf (by simp)).1
            id_mem := List.mem_of_find?_eq_some hid }

end EntityDeclaration

end DocumentRepository
