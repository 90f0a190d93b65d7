import DocumentRepository.Text.CaseMap
import DocumentRepository.Value.Type

/-! # Fields

Field names are compared by their keys: in small letters and without underscores. -/
namespace DocumentRepository

def fieldKey (name : String) : String :=
  String.ofList ((name.toList.filter (· ≠ '_')).flatMap Text.lowerChar)

structure Field where
  /-- The name under which documents store the field. -/
  name : String
  type : ValueType
  isId : Bool
  /-- An id field that gets no unique index. -/
  nonIndex : Bool
  immutable : Bool
  deriving DecidableEq, Repr, Inhabited

def Field.key (f : Field) : String := fieldKey f.name

end DocumentRepository
