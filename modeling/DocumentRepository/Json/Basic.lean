import DocumentRepository.Number.Double
import DocumentRepository.Table

/-! # Data in JSON form

Whole numbers and other numbers are kept apart. The entries of an object stand in the order in
which they were written; `canonical` sorts them and keeps the last of equal keys. -/
namespace DocumentRepository

inductive Json where
  | null
  | bool (b : Bool)
  | int (i : Int)
  | float (x : Double)
  | string (s : String)
  | array (items : List Json)
  | object (fields : List (String × Json))
  deriving Repr, Inhabited

namespace Json

mutual

/-- Every object with its keys in order and none twice. -/
def canonical : Json → Json
  | .array items => .array (canonicalItems items)
  | .object fields => .object (Table.ofList (canonicalFields fields))
  | j => j

def canonicalItems : List Json → List Json
  | [] => []
  | j :: rest => canonical j :: canonicalItems rest

def canonicalFields : List (String × Json) → List (String × Json)
  | [] => []
  | (k, j) :: rest => (k, canonical j) :: canonicalFields rest

end

def field? (key : String) : Json → Option Json
  | .object fields => Table.find? key fields
  | _ => none

end Json

end DocumentRepository
