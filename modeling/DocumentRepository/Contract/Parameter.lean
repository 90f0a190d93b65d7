import DocumentRepository.Contract.Argument
import DocumentRepository.Contract.Basic
import DocumentRepository.Text.Uuid

/-! # Parameters as callers declare them

A caller declares the parameters of a method, and the fields of an entity, by types of its own
language. Each such type has a declared type here, and its values become arguments. -/
namespace DocumentRepository

inductive HostType where
  | bool
  | int (signed : Bool) (bits : Nat)
  | single
  | double
  | text
  /-- A text that is lent for a call; no field can have it. -/
  | lentText
  | uuid
  | list (item : HostType)
  | optional (item : HostType)
  | map
  | pattern
  | sort
  | pagination
  | updateBatch
  deriving DecidableEq, Repr, Inhabited

namespace HostType

open Text (dropFront? dropBack?)

def named : List (String × HostType) := [
  ("bool", .bool),
  ("i8", .int true 8), ("i16", .int true 16), ("i32", .int true 32), ("i64", .int true 64),
  ("u8", .int false 8), ("u16", .int false 16), ("u32", .int false 32),
  ("f32", .single), ("f64", .double),
  ("String", .text), ("&str", .lentText), ("Uuid", .uuid), ("uuid::Uuid", .uuid),
  ("Pattern", .pattern), ("Regex", .pattern),
  ("Sort", .sort), ("Pagination", .pagination), ("UpdateBatch", .updateBatch)]

def inside? (opening : String) (cs : List Char) : Option (List Char) :=
  (dropFront? opening.toList cs).bind (dropBack? ['>'])

/-- The type that a text without blanks names. The number bounds how deep types are nested. -/
def readWithin : Nat → List Char → Option HostType
  | 0, _ => none
  | k + 1, cs =>
    match named.lookup (String.ofList cs), inside? "Vec<" cs, inside? "Option<" cs with
    | some type, _, _ => some type
    | none, some item, _ => (readWithin k item).map .list
    | none, none, some item => (readWithin k item).map .optional
    | none, none, none =>
      if (inside? "HashMap<" cs).isSome || (inside? "BTreeMap<" cs).isSome then some .map else none

def read? (text : String) : Option HostType := readWithin (text.length + 1) text.toList

def fieldType? : HostType → Option ValueType
  | bool => some .bool
  | int _ _ => some .int
  | single => some .float
  | double => some .float
  | text => some .text
  | uuid => some .uuid
  | list item => item.fieldType?.map .list
  | optional item => item.fieldType?
  | map => some .map
  | _ => none

/-- Whether values of the type can be made values here: maps cannot. -/
def convertible : HostType → Bool
  | list item => item.convertible
  | optional item => item.convertible
  | map => false
  | _ => true

def paramType? : HostType → Option ParamType
  | lentText => some (.value .text)
  | pattern => some .pattern
  | sort => some .sort
  | pagination => some .pagination
  | updateBatch => some .updateBatch
  | type => if type.convertible then type.fieldType?.map .value else none

def holds (signed : Bool) (bits : Nat) (i : Int) : Bool :=
  let bound : Int := (1 <<< (if signed then bits - 1 else bits) : Nat)
  decide ((if signed then -bound else 0) ≤ i ∧ i < bound)

mutual

/-- The value as a value of the type, if it is one. Doubles are rounded to singles where the type
says so, and uuids are brought to their standard spelling. -/
def convert : HostType → Value → Option Value
  | .bool, .bool b => some (.bool b)
  | .int signed bits, .int i => if holds signed bits i.toInt then some (.int i) else none
  | .single, .int i => some (.float (Double.singleOfInt i.toInt))
  | .single, .float x => some (.float x.toSingle)
  | .double, .int i => some (.float (Double.ofInt i.toInt))
  | .double, .float x => some (.float x)
  | .text, .text s => some (.text s)
  | .lentText, .text s => some (.text s)
  | .uuid, .text s => (Text.uuid? s).map .text
  | .list item, .list vs => (convertItems item vs).map .list
  | .optional _, .null => some .null
  | .optional item, v => convert item v
  | _, _ => none

def convertItems (item : HostType) : List Value → Option (List Value)
  | [] => some []
  | v :: rest => do
    let w ← convert item v
    let ws ← convertItems item rest
    return w :: ws

end

end HostType
end DocumentRepository
