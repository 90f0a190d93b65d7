import DocumentRepository.Declaration.Lexer
import DocumentRepository.Declaration.Option
import DocumentRepository.Contract.Parameter
import DocumentRepository.Schema.Basic
import DocumentRepository.Text.Words

/-! # Entities declared in Rust

A struct with named fields declares an entity. Documents store a field under the key that `serde`
writes, and fields that `serde` does not write are left out. If no field is marked as the id, a
field with the name `id` is. -/
namespace DocumentRepository.Declaration

/-! ## Options -/

structure EntityOptions where
  collection : Option String
  /-- Index texts, and whether each is unique. -/
  indexes : List (String × Bool)
  dropsEntities : Bool
  dropsIndexes : Bool
  deriving Repr, Inhabited

def EntityOptions.step (o : EntityOptions) (name : Option String) : OptionReader EntityOptions := do
  match name with
  | some "collection" => return { o with collection := some (← .ofReader .textValue) }
  | some "index" => return { o with indexes := o.indexes ++ [(← .ofReader .textValue, false)] }
  | some "unique_index" => return { o with indexes := o.indexes ++ [(← .ofReader .textValue, true)] }
  | some "drop_entities_on_start" => return { o with dropsEntities := true }
  | some "drop_indexes_on_start" => return { o with dropsIndexes := true }
  | _ => .refuse "unknown entity option"

structure FieldOptions where
  isId : Bool
  nonIndex : Bool
  immutable : Bool
  /-- The field is a nested entity. -/
  isObject : Bool
  deriving Repr, Inhabited

def FieldOptions.step (o : FieldOptions) (name : Option String) : OptionReader FieldOptions := do
  match name with
  | some "id" => return { o with isId := true }
  | some "non_index" => return { o with nonIndex := true }
  | some "immutable" => return { o with immutable := true }
  | some "object" => return { o with isObject := true }
  | _ => .refuse "unknown entity field option"

/-- The text for writing: behind an equals sign, or the `serialize` half of two. -/
def writtenName : OptionReader (Option String) := do
  if (← get).ahead.marks "=" then return some (← .ofReader .textValue)
  else
    let step := fun (found : Option String) (name : Option String) => do
      if name = some "serialize" then return some (← .ofReader .textValue)
      else
        .ofReader .anyOption
        return found
    .innerOptions step none

def renameAllStep (rule : Option Text.RenameRule) (name : Option String) : OptionReader (Option Text.RenameRule) := do
  if name = some "rename_all" then
    match ← writtenName with
    | none => return rule
    | some text =>
      match Text.RenameRule.ofName? text with
      | some found => return some found
      | none => .refuse "unknown rename_all rule"
  else
    .ofReader .anyOption
    return rule

structure SerdeField where
  rename : Option String
  isSkipped : Bool
  deriving Repr, Inhabited

def SerdeField.step (o : SerdeField) (name : Option String) : OptionReader SerdeField := do
  match name with
  | some "rename" =>
    match ← writtenName with
    | none => return o
    | some text => return { o with rename := some text }
  | some "skip" => return { o with isSkipped := true }
  | some "skip_serializing" => return { o with isSkipped := true }
  | some "flatten" => .refuse "Entity derive: flattened fields are not supported"
  | _ =>
    .ofReader .anyOption
    return o

/-! ## The entity -/

structure DeclaredField where
  key : String
  type : TypeSource
  options : FieldOptions
  deriving Repr, Inhabited

structure DeclaredEntity where
  name : String
  collection : String
  fields : List DeclaredField
  indexes : List (String × Bool)
  dropsEntities : Bool
  dropsIndexes : Bool
  deriving Repr, Inhabited

/-- A name without the mark of a raw one. -/
def plainName (name : String) : String :=
  match name.toList with
  | 'r' :: '#' :: rest => String.ofList rest
  | cs => String.ofList cs

def documentKey (rule : Option Text.RenameRule) (serde : SerdeField) (name : String) : String :=
  match serde.rename, rule with
  | some rename, _ => rename
  | none, some rule => rule.apply (plainName name)
  | none, none => plainName name

def declareFields (rule : Option Text.RenameRule) : List StructField → Declared (List (String × DeclaredField))
  | [] => .ok []
  | f :: rest => do
    let serde ← readNamed "serde" SerdeField.step ⟨none, false⟩ f.attributes
    if serde.isSkipped then declareFields rule rest
    else
      let options ← readNamed "entity" FieldOptions.step ⟨false, false, false, false⟩ f.attributes
      let others ← declareFields rule rest
      return (f.name, ⟨documentKey rule serde f.name, f.type, options⟩) :: others

def markId : List (String × DeclaredField) → List DeclaredField
  | [] => []
  | (name, f) :: rest =>
    if name = "id" then { f with options := { f.options with isId := true } } :: rest.map (·.2)
    else f :: markId rest

/-- The fields, one of them the id if any can be. -/
def withId (fields : List (String × DeclaredField)) : List DeclaredField :=
  if fields.any (·.2.options.isId) then fields.map (·.2) else markId fields

namespace DeclaredEntity

def ofType (d : TypeDeclaration) : Declared DeclaredEntity := do
  let options ← readNamed "entity" EntityOptions.step ⟨none, [], false, false⟩ d.attributes
  let fields ← match d.body with
    | .named fields => .ok fields
    | .unnamed => .error (.rule "Entity derive: only structs with named fields are supported")
    | .notStruct => .error (.rule "Entity derive: only structs are supported")
  let rule ← readNamed "serde" renameAllStep none d.attributes
  let declared ← declareFields rule fields
  return {
    name := d.usedName
    collection := options.collection.getD (Text.snakeCase d.name ++ "s")
    fields := withId declared
    indexes := options.indexes
    dropsEntities := options.dropsEntities
    dropsIndexes := options.dropsIndexes }

def read (source : String) : Declared DeclaredEntity :=
  match (tokens? source).bind (Grammar.read? (·.typeDeclaration)) with
  | some d => ofType d
  | none => .error .malformed

end DeclaredEntity

/-- The declared type of a field; it is unknown for a type that no value has. -/
def DeclaredField.valueType? (f : DeclaredField) : Option ValueType :=
  if f.options.isObject then some .object
  else (HostType.read? (Token.joined f.type.tokens)).bind HostType.fieldType?

/-- The entity as schemas take it. A field of an unknown type counts as an object. -/
def DeclaredEntity.toDeclaration (e : DeclaredEntity) : EntityDeclaration where
  entity := e.name
  collection := e.collection
  fields := e.fields.map fun f =>
    ⟨f.key, f.valueType?.getD .object, f.options.isId, f.options.nonIndex, f.options.immutable⟩
  indexes := e.indexes.map fun (spec, unique) => { IndexDeclaration.parse spec with unique }
  dropsEntities := e.dropsEntities
  dropsIndexes := e.dropsIndexes

end DocumentRepository.Declaration
