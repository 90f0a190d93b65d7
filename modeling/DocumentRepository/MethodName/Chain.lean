import DocumentRepository.MethodName.Operator
import DocumentRepository.Schema.Basic

/-! # Reading method names

A name is a prefix and a chain of terms, each a field, an optional `Not` and an optional keyword.
One name joins its terms by one combinator, which cuts only before a capital ASCII letter, so that
`OrderId` is one field. A keyword belongs to a term only if a field is left in front of it. -/
namespace DocumentRepository

structure Term where
  /-- The stored name of the field. -/
  field : String
  type : ValueType
  operator : FilterOperator
  negated : Bool
  deriving DecidableEq, Repr, Inhabited

structure Chain where
  combinator : Combinator
  terms : List Term
  deriving DecidableEq, Repr, Inhabited

def Chain.arity (c : Chain) : Nat := c.terms.foldr (fun t n => t.operator.arity + n) 0

structure ParsedName where
  operation : Operation
  cardinality : Option Cardinality
  chain : Chain
  deriving DecidableEq, Repr, Inhabited

inductive NameError where
  | noOperation (method : String)
  | ambiguousCombinator (method : String)
  | emptySegment (method segment : String)
  | unknownField (method field entity : String)
  deriving DecidableEq, Repr

def NameError.message : NameError → String
  | .noOperation method =>
    s!"method `{method}` does not start with an operation prefix " ++
      "(findFirstBy, findManyBy, findBy, countBy, deleteBy, existsBy, pageBy, updateFieldsBy)"
  | .ambiguousCombinator method =>
    s!"method `{method}` mixes And and Or; a method name may use only one combinator"
  | .emptySegment method segment =>
    s!"method `{method}` has an empty filter segment `{segment}` with no field or operator"
  | .unknownField method field entity => s!"method `{method}`: `{field}` does not name a field of {entity}"

namespace MethodName

open Text (dropFront? dropBack? occursIn consHead)

def splitOperation? (name : List Char) : Option (OperationPrefix × List Char) :=
  operationPrefixes.findSome? fun p => (dropFront? p.text.toList name).map fun rest => (p, rest)

def startsCapital : List Char → Bool
  | c :: _ => c.isUpper
  | [] => false

def cutsHere (token cs : List Char) : Bool :=
  match dropFront? token cs with
  | some rest => startsCapital rest
  | none => false

/-- Cuts a text at the occurrences of a token that a capital follows. The token is left out;
`skip` counts down its characters. -/
def cutSegments (token : List Char) : Nat → List Char → List (List Char)
  | _, [] => [[]]
  | k + 1, _ :: cs => cutSegments token k cs
  | 0, c :: cs =>
    if cutsHere token (c :: cs) then [] :: cutSegments token (token.length - 1) cs
    else consHead c (cutSegments token 0 cs)

/-- The combinator of a filter part: `And` unless `Or` occurs in it, and none if both do. -/
def combinatorOf? (rest : List Char) : Option Combinator :=
  match occursIn Combinator.and.token.toList rest, occursIn Combinator.or.token.toList rest with
  | true, true => none
  | _, true => some .or
  | _, false => some .and

/-- Reads a field, negated if `Not` follows it and the whole is no field. -/
def readField? (schema : Schema) (operator : FilterOperator) (front : List Char) : Option Term :=
  if front.isEmpty then none
  else
    match schema.field? (String.ofList front) with
    | some f => some ⟨f.name, f.type, operator, false⟩
    | none =>
      match dropBack? "Not".toList front with
      | some (c :: cs) => (schema.field? (String.ofList (c :: cs))).map fun f => ⟨f.name, f.type, operator, true⟩
      | _ => none

/-- Reads a segment: by the first keyword that leaves a field, else as an equality. -/
def readTerm? (schema : Schema) (segment : List Char) : Option Term :=
  match FilterOperator.keywords.findSome? fun (keyword, operator) =>
      (dropBack? keyword.toList segment).bind (readField? schema operator) with
  | some term => some term
  | none => readField? schema .equals segment

def readTerm (schema : Schema) (method : String) (segment : List Char) : Except NameError Term :=
  if segment.isEmpty then .error (.emptySegment method "")
  else
    match readTerm? schema segment with
    | some term => .ok term
    | none => .error (.unknownField method (String.ofList segment) schema.entity)

def parse (schema : Schema) (method : String) : Except NameError ParsedName :=
  match splitOperation? method.toList with
  | none => .error (.noOperation method)
  | some (p, rest) =>
    match combinatorOf? rest with
    | none => .error (.ambiguousCombinator method)
    | some combinator => do
      let terms ← (cutSegments combinator.token.toList 0 rest).mapM (readTerm schema method)
      return ⟨p.operation, p.cardinality, ⟨combinator, terms⟩⟩

end MethodName

end DocumentRepository
