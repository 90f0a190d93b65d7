import DocumentRepository.Value.Basic

/-! # Types of values

The declared type of a field or a parameter. A uuid is stored as text and has a type of its
own; an object is a nested entity and is stored as a map. -/
namespace DocumentRepository

inductive ValueType where
  | bool
  | int
  | float
  | text
  | uuid
  | list (item : ValueType)
  | map
  | object
  deriving DecidableEq, Repr, Inhabited

namespace ValueType

def name : ValueType → String
  | .bool => "bool"
  | .int => "int"
  | .float => "float"
  | .text => "text"
  | .uuid => "uuid"
  | .list item => "list<" ++ item.name ++ ">"
  | .map => "map"
  | .object => "object"

def isNumeric : ValueType → Bool
  | .int => true
  | .float => true
  | _ => false

end ValueType

namespace Value

mutual

/-- Whether a value may stand in a field of a type. Null may stand everywhere, an integer where
a double is declared, and a list where each of its items fits. -/
def fits : Value → ValueType → Bool
  | .null, _ => true
  | .bool _, .bool => true
  | .int _, .int => true
  | .int _, .float => true
  | .float _, .float => true
  | .text _, .text => true
  | .text _, .uuid => true
  | .list items, .list item => fitsItems items item
  | .map _, .map => true
  | .map _, .object => true
  | _, _ => false

def fitsItems : List Value → ValueType → Bool
  | [], _ => true
  | v :: rest, type => fits v type && fitsItems rest type

end

theorem fitsItems_eq_all (items : List Value) (type : ValueType) :
    fitsItems items type = items.all (·.fits type) := by
  induction items with
  | nil => rfl
  | cons v rest ih => simp [fitsItems, ih]

end Value

end DocumentRepository
