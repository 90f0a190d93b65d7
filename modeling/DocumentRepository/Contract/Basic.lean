import DocumentRepository.Directive
import DocumentRepository.Value.Type

/-! # Contracts

A contract declares methods: their names, parameters and results, and annotations that sort and
window a result or let a method borrow another name. -/
namespace DocumentRepository

inductive ParamType where
  | value (type : ValueType)
  | pattern
  | sort
  | pagination
  | updateBatch
  deriving DecidableEq, Repr, Inhabited

namespace ParamType

def name : ParamType → String
  | .value type => type.name
  | .pattern => "pattern"
  | .sort => "Sort"
  | .pagination => "Pagination"
  | .updateBatch => "UpdateBatch"

/-- Whether the parameter steers the operation and filters nothing. -/
def isDirective : ParamType → Bool
  | .sort => true
  | .pagination => true
  | .updateBatch => true
  | _ => false

end ParamType

inductive ReturnType where
  | entity (name : String)
  | entities (name : String)
  | bool
  | integer
  | float
  | text
  | value
  deriving DecidableEq, Repr, Inhabited

def ReturnType.name : ReturnType → String
  | .entity e => "Option<" ++ e ++ ">"
  | .entities e => "Vec<" ++ e ++ ">"
  | .bool => "bool"
  | .integer => "integer"
  | .float => "float"
  | .text => "text"
  | .value => "value"

structure Method where
  name : String
  params : List ParamType
  returns : ReturnType
  asynchronous : Bool
  /-- The name to read in the place of the method's own. -/
  transform : Option String
  sortBy : List SortKey
  limit : Option Nat
  skip : Option Nat
  deriving DecidableEq, Repr, Inhabited

namespace Method

def effectiveName (m : Method) : String := m.transform.getD m.name

def hasSortAnnotations (m : Method) : Bool := !m.sortBy.isEmpty || m.limit.isSome || m.skip.isSome

end Method

structure Contract where
  name : String
  methods : List Method
  deriving DecidableEq, Repr, Inhabited

end DocumentRepository
