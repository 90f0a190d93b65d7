import DocumentRepository.Declaration.Reader

/-! # Grammar of declarations

Types, bounds, expressions, patterns, statements and items stand inside of one another. A grammar
is one reader for each of them; the rules say what to read with the readers of a grammar for what
is inside. What a rule gives is the form of what it read, as far as other rules ask for it. -/
namespace DocumentRepository.Declaration

/-! ## Forms -/

inductive PathArgument where
  | lifetime (tokens : List Token)
  | type (tokens : List Token)
  /-- A constant, or what is said of a type that the path names. -/
  | other (tokens : List Token)
  deriving Repr, Inhabited

inductive Arguments where
  | absent
  | angled (arguments : List PathArgument)
  /-- Those of a function, in round brackets. -/
  | round
  deriving Repr, Inhabited

structure Segment where
  name : String
  arguments : Arguments
  deriving Repr, Inhabited

structure PathForm where
  /-- Whether a type in angle brackets stands in front. -/
  qualified : Bool
  /-- Whether it begins with two colons. -/
  rooted : Bool
  leading : List Segment
  last : Segment
  deriving Repr, Inhabited

inductive TypeForm where
  | path (path : PathForm)
  | bracketed
  /-- A list of bounds without a keyword, and whether it is one bound alone. -/
  | object (single : Bool)
  | other
  deriving Repr, Inhabited

inductive BoundForm where
  | lifetime
  | trait
  /-- What an opaque type may use. -/
  | captures
  deriving DecidableEq, Repr, Inhabited

inductive ExpressionForm where
  | range
  | comparison
  /-- One that ends with its block, so that no mark need follow. -/
  | block
  | invocation (b : Bracket)
  | other
  deriving DecidableEq, Repr, Inhabited

inductive PatternForm where
  | name (name : String)
  /-- Two dots that stand for what is left over. -/
  | rest
  /-- A range without one of its ends. -/
  | openRange
  | other
  deriving DecidableEq, Repr, Inhabited

/-! ## Grammars -/

/-- How tightly an operator binds, from the loosest on. -/
inductive Precedence where
  | jump
  | assignment
  | range
  | disjunction
  | conjunction
  | condition
  | comparison
  | bitOr
  | bitXor
  | bitAnd
  | shift
  | sum
  | product
  | cast
  deriving DecidableEq, Repr, Inhabited

def Precedence.level : Precedence → Nat
  | .jump => 0
  | .assignment => 1
  | .range => 2
  | .disjunction => 3
  | .conjunction => 4
  | .condition => 5
  | .comparison => 6
  | .bitOr => 7
  | .bitXor => 8
  | .bitAnd => 9
  | .shift => 10
  | .sum => 11
  | .product => 12
  | .cast => 13

structure BoundRule where
  /-- The captures of an opaque type. -/
  captures : Bool
  constant : Bool
  deriving DecidableEq, Repr, Inhabited

structure Grammar where
  /-- A type; the flag says whether a plus sign and more bounds may follow its first. -/
  type : (plus : Bool) → Reader TypeForm
  bound : BoundRule → Reader BoundForm
  /-- An expression; the flag says whether a path may begin a struct. -/
  expression : (structs : Bool) → Reader ExpressionForm
  operand : (structs : Bool) → Reader ExpressionForm
  /-- The operand behind an operator, with all that binds more tightly. -/
  operandOf : (structs : Bool) → Precedence → Reader ExpressionForm
  /-- An expression where a statement or an arm begins. It ends with the block that ends one. -/
  leadingExpression : Reader ExpressionForm
  statements : Reader Unit
  pattern : Reader PatternForm
  item : Reader Unit
  /-- What an import names; the flag says whether two colons may lead inside of braces. -/
  imports : (rooted : Bool) → Reader Unit

def Grammar.empty : Grammar where
  type _ := failure
  bound _ := failure
  expression _ := failure
  operand _ := failure
  operandOf _ _ := failure
  leadingExpression := failure
  statements := failure
  pattern := failure
  item := failure
  imports _ := failure

end DocumentRepository.Declaration
