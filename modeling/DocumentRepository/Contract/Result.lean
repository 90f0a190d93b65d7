import DocumentRepository.Contract.Argument
import DocumentRepository.Contract.Basic
import DocumentRepository.Repository.Error

/-! # Results of calls

A caller says what it wants an outcome as: a number in some range, a text, an entity of some
shape. An entity travels in JSON form, so that a double that is no number comes back as null. -/
namespace DocumentRepository

inductive CountType where
  | unsigned32
  | unsigned64
  | size
  | signed32
  | signed64
  deriving DecidableEq, Repr, Inhabited

namespace CountType

def name : CountType → String
  | unsigned32 => "u32"
  | unsigned64 => "u64"
  | size => "usize"
  | signed32 => "i32"
  | signed64 => "i64"

/-- The least number above the range. -/
def bound : CountType → Nat
  | unsigned32 => UInt32.size
  | unsigned64 => UInt64.size
  | size => UInt64.size
  | signed32 => 1 <<< 31
  | signed64 => 1 <<< 63

end CountType

inductive FieldShape where
  | integer
  | number
  | text
  | optionalText
  deriving DecidableEq, Repr, Inhabited

def FieldShape.read? : FieldShape → Option Value → Option Value
  | .integer, some (.int i) => some (.int i)
  | .number, some (.int i) => some (.float (Double.ofInt i.toInt))
  | .number, some (.float x) => some (.float x)
  | .text, some (.text s) => some (.text s)
  | .optionalText, some (.text s) => some (.text s)
  | .optionalText, some .null => some .null
  | .optionalText, none => some .null
  | _, _ => none

/-- The entities of a type: any documents at all, or those with fields of certain shapes. -/
inductive EntityShape where
  | any
  | record (fields : List (String × FieldShape))
  deriving DecidableEq, Repr, Inhabited

/-- The document as an entity of the shape sees it. Fields that a record does not name are left
out. -/
def EntityShape.read (shape : EntityShape) (d : Document) : Except RepositoryError Document :=
  match Value.ofJson d.toEntity with
  | .map found =>
    match shape with
    | .any => .ok ⟨found⟩
    | .record fields =>
      match fields.mapM fun (name, field) => (field.read? (Table.find? name found)).map fun v => (name, v) with
      | some entries => .ok ⟨Table.ofList entries⟩
      | none => .error .malformedEntity
  | _ => .error .malformedEntity

inductive ResultType where
  | bool
  | count (type : CountType)
  | float
  | text
  | value
  | entity (shape : EntityShape)
  | entities (shape : EntityShape)
  deriving DecidableEq, Repr, Inhabited

namespace ResultType

/-- The result that a method must declare for this, the entity being left open. -/
def returnType (entity : String) : ResultType → ReturnType
  | bool => .bool
  | count _ => .integer
  | float => .float
  | text => .text
  | value => .value
  | .entity _ => .entity entity
  | entities _ => .entities entity

def name : ResultType → String
  | bool => "bool"
  | count type => type.name
  | float => "f64"
  | text => "text"
  | value => "value"
  | entity _ => "entity"
  | entities _ => "entity list"

end ResultType

inductive Result where
  | bool (b : Bool)
  | count (n : Nat)
  | float (x : Double)
  | text (s : String)
  | value (v : Value)
  | entity (d : Option Document)
  | entities (ds : List Document)
  deriving Repr, Inhabited

def Outcome.as (type : ResultType) (outcome : Outcome) : Except RepositoryError Result :=
  match type, outcome with
  | .bool, .bool b => .ok (.bool b)
  | .count t, .count n => if n < t.bound then .ok (.count n) else .error (.returnMismatch t.name "count out of range")
  | .float, .count n => .ok (.float (Double.ofInt n))
  | .text, .text s => .ok (.text s)
  | .value, .value v => .ok (.value v)
  | .entity _, .entity none => .ok (.entity none)
  | .entity shape, .entity (some d) => (shape.read d).map fun d => .entity (some d)
  | .entities shape, .entities ds => (ds.mapM shape.read).map .entities
  | type, outcome => .error (.returnMismatch type.name outcome.kind)

end DocumentRepository
