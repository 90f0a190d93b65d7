import DocumentRepository.Directive
import DocumentRepository.Pattern.Basic

/-! # Arguments and outcomes of calls -/
namespace DocumentRepository

inductive Argument where
  | value (v : Value)
  | pattern (p : Pattern)
  | sort (s : Sorting)
  | pagination (p : Pagination)
  | update (updates : UpdateBatch)
  | entity (d : Document)
  | entities (ds : List Document)

def Argument.kind : Argument → String
  | .value v => v.kind
  | .pattern _ => "pattern"
  | .sort _ => "Sort"
  | .pagination _ => "Pagination"
  | .update _ => "UpdateBatch"
  | .entity _ => "entity"
  | .entities _ => "entity list"

def Argument.kindOf (arg : Option Argument) : String := (arg.map Argument.kind).getD "nothing"

/-- What a call answers with, before it takes the shape that the caller wants. -/
inductive Outcome where
  | entity (d : Option Document)
  | entities (ds : List Document)
  | bool (b : Bool)
  | count (n : Nat)
  | text (s : String)
  | value (v : Value)
  deriving Repr, Inhabited

def Outcome.kind : Outcome → String
  | .entity _ => "entity"
  | .entities _ => "entity list"
  | .bool _ => "bool"
  | .count _ => "count"
  | .text _ => "text"
  | .value _ => "value"

end DocumentRepository
