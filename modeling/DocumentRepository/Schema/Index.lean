import DocumentRepository.Text.Blank
import DocumentRepository.Text.Split

/-! # Indexes

An index is a list of keys, each with a direction. It is declared by field names, in a text
such as `customer_id, -balance`, and created on the names that documents store. -/
namespace DocumentRepository

structure SortKey where
  field : String
  ascending : Bool
  deriving DecidableEq, Repr, Inhabited

/-- An index as an entity declares it, by any spelling of its fields' names. -/
structure IndexDeclaration where
  keys : List SortKey
  unique : Bool
  deriving DecidableEq, Repr, Inhabited

/-- The key written by one piece of an index text; a minus sign marks a descending key. -/
def SortKey.read : List Char → SortKey
  | '-' :: name => ⟨String.ofList (Text.trim name), false⟩
  | name => ⟨String.ofList name, true⟩

/-- Pieces are separated by commas, and blank pieces count for nothing. -/
def IndexDeclaration.parse (spec : String) : IndexDeclaration where
  keys := (((Text.splitAt ',' spec.toList).map Text.trim).filter (!·.isEmpty)).map SortKey.read
  unique := false

structure Index where
  keys : List SortKey
  unique : Bool
  deriving DecidableEq, Repr, Inhabited

/-- The name of an index: its keys with 1 or -1 for the direction. -/
def Index.name (index : Index) : String :=
  "_".intercalate (index.keys.map fun key => key.field ++ "_" ++ if key.ascending then "1" else "-1")

end DocumentRepository
