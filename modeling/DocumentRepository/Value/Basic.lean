import DocumentRepository.Number.Double
import DocumentRepository.Table

/-! # Values

What documents, arguments and filters are made of, with three relations of growing
permissiveness: `equal` keeps integers and doubles apart, `looseEqual` compares numbers by
value, and `compare?` orders numbers, texts and truth values each among themselves. -/
namespace DocumentRepository

inductive Value where
  | null
  | bool (b : Bool)
  | int (i : Int64)
  | float (x : Double)
  | text (s : String)
  | list (items : List Value)
  | map (fields : List (String × Value))
  deriving Repr, Inhabited

namespace Value

def kind : Value → String
  | .null => "null"
  | .bool _ => "bool"
  | .int _ => "int"
  | .float _ => "float"
  | .text _ => "text"
  | .list _ => "list"
  | .map _ => "map"

def isNull : Value → Bool
  | .null => true
  | _ => false

def isList : Value → Bool
  | .list _ => true
  | _ => false

def text? : Value → Option String
  | .text s => some s
  | _ => none

def double? : Value → Option Double
  | .int i => some (Double.ofInt i.toInt)
  | .float x => some x
  | _ => none

mutual

/-- Equality of kind and content; doubles are equal as numbers. -/
def equal : Value → Value → Bool
  | .null, .null => true
  | .bool a, .bool b => a == b
  | .int a, .int b => a == b
  | .float a, .float b => a.equal b
  | .text a, .text b => a == b
  | .list a, .list b => equalItems a b
  | .map a, .map b => equalFields a b
  | _, _ => false

def equalItems : List Value → List Value → Bool
  | [], [] => true
  | a :: as, b :: bs => equal a b && equalItems as bs
  | _, _ => false

def equalFields : List (String × Value) → List (String × Value) → Bool
  | [], [] => true
  | (k, a) :: as, (l, b) :: bs => k == l && equal a b && equalFields as bs
  | _, _ => false

end

mutual

/-- Equality in which numbers count by value, also inside lists. Inside maps it is `equal`. -/
def looseEqual : Value → Value → Bool
  | .int a, .int b => a == b
  | .int a, .float b => (Double.ofInt a.toInt).equal b
  | .float a, .int b => a.equal (Double.ofInt b.toInt)
  | .float a, .float b => a.equal b
  | .list a, .list b => looseEqualItems a b
  | a, b => equal a b

def looseEqualItems : List Value → List Value → Bool
  | [], [] => true
  | a :: as, b :: bs => looseEqual a b && looseEqualItems as bs
  | _, _ => false

end

def compareBool : Bool → Bool → Ordering
  | false, true => .lt
  | true, false => .gt
  | _, _ => .eq

/-- Order among numbers, among texts and among truth values. Two integers compare exactly, an
integer and a double as doubles. -/
def compare? : Value → Value → Option Ordering
  | .int a, .int b => some (compare a.toInt b.toInt)
  | .int a, .float b => (Double.ofInt a.toInt).compare? b
  | .float a, .int b => a.compare? (Double.ofInt b.toInt)
  | .float a, .float b => a.compare? b
  | .text a, .text b => some (compare a b)
  | .bool a, .bool b => some (compareBool a b)
  | _, _ => none

/-- The place of a kind among the kinds; all numbers share one. -/
def rank : Value → Nat
  | .null => 0
  | .int _ => 1
  | .float _ => 1
  | .text _ => 2
  | .map _ => 3
  | .list _ => 4
  | .bool _ => 5

mutual

/-- The order of sorted results: by kind, then by `compare?`, incomparable values counting as
equal; lists compare item by item and then by length, and all maps are equal. -/
def sortOrder : Value → Value → Ordering
  | .list a, .list b => sortOrderItems a b
  | a, b => if a.rank = b.rank then (a.compare? b).getD .eq else compare a.rank b.rank

def sortOrderItems : List Value → List Value → Ordering
  | [], [] => .eq
  | [], _ :: _ => .lt
  | _ :: _, [] => .gt
  | a :: as, b :: bs =>
    match sortOrder a b with
    | .eq => sortOrderItems as bs
    | o => o

end

end Value

end DocumentRepository
