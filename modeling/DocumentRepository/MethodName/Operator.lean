/-! # Operators of method names

A method name starts with the prefix of its operation; each of its terms may end in the keyword
of a filter operator. Keywords are tried in the order of the table, longer ones first, so that
`GreaterEquals` is not read as a field followed by `Equals`. -/
namespace DocumentRepository

inductive FilterOperator where
  | equals
  | equalsIgnoreCase
  | contains
  | greaterThan
  | lessThan
  | greaterEquals
  | lessEquals
  | regex
  | exists
  | between
  | betweenEquals
  | in
  | notIn
  | hasKey
  deriving DecidableEq, Repr, Inhabited

namespace FilterOperator

/-- The keywords in the order in which they are tried. `equals` has none. -/
def keywords : List (String × FilterOperator) :=
  [("BetweenEquals", .betweenEquals), ("GreaterEquals", .greaterEquals), ("GreaterThan", .greaterThan),
    ("IgnoreCase", .equalsIgnoreCase), ("LessEquals", .lessEquals), ("BetweenEq", .betweenEquals),
    ("GreaterEq", .greaterEquals), ("LessThan", .lessThan), ("Contains", .contains), ("Between", .between),
    ("Exists", .exists), ("HasKey", .hasKey), ("LessEq", .lessEquals), ("Regex", .regex), ("NotIn", .notIn),
    ("Ign", .equalsIgnoreCase), ("In", .in)]

def arity : FilterOperator → Nat
  | .exists => 0
  | .between => 2
  | .betweenEquals => 2
  | _ => 1

def name : FilterOperator → String
  | .equals => "Equals"
  | .equalsIgnoreCase => "EqualsIgnoreCase"
  | .contains => "Contains"
  | .greaterThan => "GreaterThan"
  | .lessThan => "LessThan"
  | .greaterEquals => "GreaterEquals"
  | .lessEquals => "LessEquals"
  | .regex => "Regex"
  | .exists => "Exists"
  | .between => "Between"
  | .betweenEquals => "BetweenEquals"
  | .in => "In"
  | .notIn => "NotIn"
  | .hasKey => "HasKey"

end FilterOperator

inductive Operation where
  | find
  | delete
  | exists
  | count
  | page
  | updateFields
  deriving DecidableEq, Repr, Inhabited

def Operation.name : Operation → String
  | .find => "Find"
  | .delete => "Delete"
  | .exists => "Exists"
  | .count => "Count"
  | .page => "Page"
  | .updateFields => "UpdateFields"

/-- Whether a find answers with the first match or with all of them. -/
inductive Cardinality where
  | first
  | many
  deriving DecidableEq, Repr, Inhabited

/-- The start of a method name: its text, the operation, and the cardinality if the text fixes it. -/
structure OperationPrefix where
  text : String
  operation : Operation
  cardinality : Option Cardinality
  deriving DecidableEq, Repr

def operationPrefixes : List OperationPrefix :=
  [⟨"updateFieldsBy", .updateFields, none⟩, ⟨"findFirstBy", .find, some .first⟩, ⟨"findManyBy", .find, some .many⟩,
    ⟨"existsBy", .exists, none⟩, ⟨"deleteBy", .delete, none⟩, ⟨"countBy", .count, none⟩, ⟨"pageBy", .page, none⟩,
    ⟨"findBy", .find, none⟩]

inductive Combinator where
  | and
  | or
  deriving DecidableEq, Repr, Inhabited

def Combinator.token : Combinator → String
  | .and => "And"
  | .or => "Or"

end DocumentRepository
