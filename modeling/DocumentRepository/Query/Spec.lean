import DocumentRepository.Contract.Basic
import DocumentRepository.MethodName.Chain

/-! # Method specifications

A declared method is checked against a schema once, in a fixed order: prefix, result, name,
number of parameters, their types from left to right, sort annotations. What comes out is all
that calls need. -/
namespace DocumentRepository

inductive Trailing where
  | sort
  | pagination
  | updateBatch
  deriving DecidableEq, Repr, Inhabited

def Trailing.name : Trailing → String
  | .sort => "Sort"
  | .pagination => "Pagination"
  | .updateBatch => "UpdateBatch"

structure MethodSpec where
  /-- The declared name. -/
  method : String
  /-- The name that was read. -/
  effective : String
  operation : Operation
  cardinality : Cardinality
  chain : Chain
  /-- The annotated sort keys, on stored names. -/
  sort : List SortKey
  limit : Option Nat
  skip : Option Nat
  trailing : Option Trailing
  asynchronous : Bool
  deriving DecidableEq, Repr, Inhabited

def MethodSpec.paramCount (s : MethodSpec) : Nat := s.chain.arity + if s.trailing.isSome then 1 else 0

def MethodSpec.ofParsed (method : String) (p : ParsedName) : MethodSpec where
  method := method
  effective := method
  operation := p.operation
  cardinality := p.cardinality.getD .many
  chain := p.chain
  sort := []
  limit := none
  skip := none
  trailing := none
  asynchronous := false

inductive ValidationError where
  | name (e : NameError)
  | schema (e : SchemaError)
  | duplicateMethod (method : String)
  | returnType (method : String) (operation : Operation) (expected : String) (actual : ReturnType)
  | parameterCount (method : String) (expected actual : Nat)
  | parameterType (method field : String) (index : Nat) (expected : ValueType) (actual : ParamType)
  | regexParameter (method : String) (index : Nat) (actual : ParamType)
  | listParameter (method field : String) (index : Nat) (expected : ValueType) (actual : ParamType)
  | hasKeyField (method field : String) (actual : ValueType)
  | misplacedDirective (method : String) (index : Nat) (directive : ParamType) (operation : Operation)
  | missingDirective (method : String) (expected : ParamType)
  | mixedSort (method : String)
  | sortField (method field : String)
  deriving DecidableEq, Repr

def ValidationError.message : ValidationError → String
  | .name e => e.message
  | .schema e => e.message
  | .duplicateMethod method => s!"method `{method}` is declared twice"
  | .returnType method operation expected actual =>
    s!"method `{method}`: {operation.name} must return {expected}, found {actual.name}"
  | .parameterCount method expected actual =>
    s!"method `{method}` expects {expected} parameters, found {actual}"
  | .parameterType method field index expected actual =>
    s!"method `{method}` parameter {index} for field `{field}` must be {expected.name}, found {actual.name}"
  | .regexParameter method index actual =>
    s!"method `{method}` parameter {index} is a Regex argument and must be text or a pattern, found {actual.name}"
  | .listParameter method field index expected actual =>
    s!"method `{method}` parameter {index} for field `{field}` must be a list of {expected.name}, found {actual.name}"
  | .hasKeyField method field actual => s!"method `{method}`: HasKey needs a map field, `{field}` is {actual.name}"
  | .misplacedDirective method index directive operation =>
    s!"method `{method}` parameter {index} is a {directive.name} directive, which {operation.name} methods do not accept there"
  | .missingDirective method expected => s!"method `{method}` must take a trailing {expected.name} parameter"
  | .mixedSort method => s!"method `{method}` combines a Sort/Pagination parameter with sort annotations"
  | .sortField method field => s!"method `{method}` sorts by unknown field `{field}`"

namespace MethodSpec

def expectedFind : Option Cardinality → String
  | some .first => "an optional entity"
  | some .many => "a list of entities"
  | none => "an optional entity or a list of entities"

/-- The result that an operation must have; the cardinality of a find follows from it. -/
def checkReturn (schema : Schema) (m : Method) (p : OperationPrefix) : Except ValidationError Cardinality :=
  let fail (expected : String) : Except ValidationError Cardinality :=
    .error (.returnType m.name p.operation expected m.returns)
  match p.operation with
  | .find =>
    if m.returns = .entity schema.entity then
      if p.cardinality = some .many then fail (expectedFind p.cardinality) else .ok .first
    else if m.returns = .entities schema.entity then
      if p.cardinality = some .first then fail (expectedFind p.cardinality) else .ok .many
    else fail (expectedFind p.cardinality)
  | .page => if m.returns = .entities schema.entity then .ok .many else fail "a list of entities"
  | .count => if m.returns = .integer then .ok .many else fail "an integer"
  | .delete | .exists | .updateFields => if m.returns = .bool then .ok .many else fail "bool"

def requiredDirective : Operation → Option (ParamType × Trailing)
  | .page => some (.pagination, .pagination)
  | .updateFields => some (.updateBatch, .updateBatch)
  | _ => none

def checkCount (m : Method) (operation : Operation) (arity : Nat) : Except ValidationError (Option Trailing) :=
  let last := m.params.getLast?
  let sorts := operation = .find ∧ (last.map ParamType.isDirective).getD false
  let expected := arity + if (requiredDirective operation).isSome ∨ sorts then 1 else 0
  if m.params.length ≠ expected then .error (.parameterCount m.name expected m.params.length)
  else
    match requiredDirective operation with
    | some (directive, trailing) =>
      if last = some directive then .ok (some trailing) else .error (.missingDirective m.name directive)
    | none =>
      if sorts then
        match last with
        | some .sort => .ok (some .sort)
        | some other => .error (.misplacedDirective m.name (expected - 1) other operation)
        | none => .ok none
      else .ok none

def checkParam (m : Method) (operation : Operation) (term : Term) (index : Nat) (type : ParamType) :
    Except ValidationError Unit :=
  if type.isDirective then .error (.misplacedDirective m.name index type operation)
  else
    match term.operator with
    | .regex =>
      if type = .pattern ∨ type = .value .text then .ok () else .error (.regexParameter m.name index type)
    | .in | .notIn =>
      if type = .value (.list term.type) then .ok ()
      else .error (.listParameter m.name term.field index term.type type)
    | .hasKey =>
      if term.type ≠ .map then .error (.hasKeyField m.name term.field term.type)
      else if type = .value .text ∨ type = .value .uuid then .ok ()
      else .error (.parameterType m.name term.field index .text type)
    | _ =>
      if type = .value term.type then .ok ()
      else .error (.parameterType m.name term.field index term.type type)

def checkTerm (m : Method) (operation : Operation) (term : Term) (index : Nat) :
    List ParamType → Except ValidationError Unit
  | [] => .ok ()
  | type :: rest => do
    checkParam m operation term index type
    checkTerm m operation term (index + 1) rest

def checkTerms (m : Method) (operation : Operation) (index : Nat) : List Term → List ParamType → Except ValidationError Unit
  | [], _ => .ok ()
  | term :: rest, types => do
    checkTerm m operation term index (types.take term.operator.arity)
    checkTerms m operation (index + term.operator.arity) rest (types.drop term.operator.arity)

def checkSort (schema : Schema) (m : Method) (trailing : Option Trailing) : Except ValidationError (List SortKey) :=
  if (trailing = some .sort ∨ trailing = some .pagination) ∧ m.hasSortAnnotations then .error (.mixedSort m.name)
  else
    m.sortBy.mapM fun key =>
      match schema.field? key.field with
      | some f => .ok ⟨f.name, key.ascending⟩
      | none => .error (.sortField m.name key.field)

def compile (schema : Schema) (m : Method) : Except ValidationError MethodSpec := do
  let name := m.effectiveName
  match MethodName.splitOperation? name.toList with
  | none => .error (.name (.noOperation name))
  | some (p, _) =>
    let cardinality ← checkReturn schema m p
    let parsed ← (MethodName.parse schema name).mapError .name
    let trailing ← checkCount m parsed.operation parsed.chain.arity
    checkTerms m parsed.operation 0 parsed.chain.terms m.params
    let sort ← checkSort schema m trailing
    return {
      method := m.name
      effective := name
      operation := parsed.operation
      cardinality := cardinality
      chain := parsed.chain
      sort := sort
      limit := m.limit
      skip := m.skip
      trailing := trailing
      asynchronous := m.asynchronous }

end MethodSpec

end DocumentRepository
