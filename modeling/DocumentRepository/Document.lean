import DocumentRepository.Value.Json
import DocumentRepository.Text.Split

/-! # Documents

A document holds values under field names. `get?` follows a dotted path into nested maps, while
writing and removing take a field name as it is, dots included. -/
namespace DocumentRepository

structure Document where
  fields : Table Value
  deriving Repr, Inhabited

def pathNames (path : String) : List String := (Text.splitAt '.' path.toList).map String.ofList

namespace Value

def descend : List String → Value → Option Value
  | [], v => some v
  | name :: rest, .map fields => (Table.find? name fields).bind (descend rest)
  | _ :: _, _ => none

end Value

namespace Document

def empty : Document := ⟨[]⟩

def get? (path : String) (d : Document) : Option Value := Value.descend (pathNames path) (.map d.fields)

def getOrNull (path : String) (d : Document) : Value := (d.get? path).getD .null

def insert (field : String) (value : Value) (d : Document) : Document :=
  ⟨Table.insert field value d.fields⟩

def remove (field : String) (d : Document) : Document := ⟨Table.erase field d.fields⟩

/-- The value of a top-level field. -/
def field? (field : String) (d : Document) : Option Value := Table.find? field d.fields

def contains (field : String) (d : Document) : Bool := (d.field? field).isSome

def toValue (d : Document) : Value := .map d.fields

/-- The document of an entity in JSON form, or the kind of value that it is instead. -/
def ofEntity (entity : Json) : Except String Document :=
  match Value.ofJson entity with
  | .map fields => .ok ⟨fields⟩
  | v => .error v.kind

def toEntity (d : Document) : Json := d.toValue.toJson

end Document

end DocumentRepository
