import DocumentRepository.Value.Basic
import DocumentRepository.Json.Writer

/-! # Values and JSON

A value has a JSON form, in which a double that is no number becomes null, and a JSON value
has a value, in which a whole number that a signed word cannot hold becomes a double. -/
namespace DocumentRepository

def word? (i : Int) : Option Int64 :=
  if Int64.minValue.toInt ≤ i ∧ i ≤ Int64.maxValue.toInt then some (Int64.ofInt i) else none

namespace Value

mutual

def toJson : Value → Json
  | .null => .null
  | .bool b => .bool b
  | .int i => .int i.toInt
  | .float x => if x.isFinite then .float x else .null
  | .text s => .string s
  | .list items => .array (toJsonItems items)
  | .map fields => .object (toJsonFields fields)

def toJsonItems : List Value → List Json
  | [] => []
  | v :: rest => toJson v :: toJsonItems rest

def toJsonFields : List (String × Value) → List (String × Json)
  | [] => []
  | (k, v) :: rest => (k, toJson v) :: toJsonFields rest

end

mutual

def ofJson : Json → Value
  | .null => .null
  | .bool b => .bool b
  | .int i =>
    match word? i with
    | some w => .int w
    | none => .float (Double.ofInt i)
  | .float x => .float x
  | .string s => .text s
  | .array items => .list (ofJsonItems items)
  | .object fields => .map (ofJsonFields fields)

def ofJsonItems : List Json → List Value
  | [] => []
  | j :: rest => ofJson j :: ofJsonItems rest

def ofJsonFields : List (String × Json) → List (String × Value)
  | [] => []
  | (k, j) :: rest => (k, ofJson j) :: ofJsonFields rest

end

/-- Scalars in plain text, lists and maps in compact JSON. -/
def display : Value → String
  | .null => "null"
  | .bool b => if b then "true" else "false"
  | .int i => toString i.toInt
  | .float x => Number.plain.write x
  | .text s => s
  | v => v.toJson.compact

end Value

end DocumentRepository
