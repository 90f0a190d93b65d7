import DocumentRepository.Schema.Index
import DocumentRepository.Document

/-! # Directives

The arguments that steer an operation and filter nothing: a sort with a window, a page, and a
batch of field updates. -/
namespace DocumentRepository

def greatestSize : Nat := UInt64.size - 1

structure Sorting where
  keys : List SortKey
  limit : Option Nat
  skip : Option Nat
  deriving DecidableEq, Repr, Inhabited

/-- A page of the result. Pages are counted from one. -/
structure Pagination where
  perPage : Nat
  page : Nat
  keys : List SortKey
  deriving DecidableEq, Repr, Inhabited

namespace Pagination

def ofSize (perPage : Nat) : Pagination := ⟨perPage, 1, []⟩

/-- Another page of the same size; page zero is page one. -/
def atPage (p : Pagination) (page : Nat) : Pagination := { p with page := max page 1 }

def skip (p : Pagination) : Nat := min ((p.page - 1) * p.perPage) greatestSize

def limit (p : Pagination) : Nat := p.perPage

end Pagination

inductive FieldUpdate where
  | set (field : String) (value : Value)
  | unset (field : String)
  | rename (field target : String)
  deriving Repr, Inhabited

def FieldUpdate.field : FieldUpdate → String
  | .set field _ => field
  | .unset field => field
  | .rename field _ => field

/-- The document after a change. Renaming a field that is not there changes nothing. -/
def FieldUpdate.apply (d : Document) : FieldUpdate → Document
  | .set field value => d.insert field value
  | .unset field => d.remove field
  | .rename field target =>
    match d.field? field with
    | some value => (d.remove field).insert target value
    | none => d

abbrev UpdateBatch := List FieldUpdate

def UpdateBatch.apply (updates : UpdateBatch) (d : Document) : Document := updates.foldl FieldUpdate.apply d

end DocumentRepository
