import DocumentRepository.Contract.Argument
import DocumentRepository.Filter
import DocumentRepository.Repository.Error

/-! # From arguments to filters

Each term of a chain takes as many arguments as its operator wants, from left to right, and
becomes one filter. A text argument of a pattern term stands in the pattern as it is written. -/
namespace DocumentRepository

namespace Term

/-- A term of a call: the name of the method and the number of the term's first argument. -/
structure Site where
  method : String
  index : Nat

def Site.invalid (s : Site) (nth : Nat) (expected actual : String) : RepositoryError :=
  .invalidArgument s.method (s.index + nth) expected actual

def valueArg (t : Term) (s : Site) (nth : Nat) (arg : Argument) : Except RepositoryError Value :=
  match arg with
  | .value v => .ok v
  | other => .error (s.invalid nth t.type.name other.kind)

def compareArg (t : Term) (s : Site) (op : Comparison) (nth : Nat) (arg : Argument) :
    Except RepositoryError Filter := do
  return .compare t.field op (← t.valueArg s nth arg)

def listArg (t : Term) (s : Site) (arg : Argument) : Except RepositoryError (List Value) := do
  match ← t.valueArg s 0 arg with
  | .list items => .ok items
  | other => .error (s.invalid 0 ("list of " ++ t.type.name) other.kind)

def readPattern (s : Site) (caseless : Bool) (source : String) : Except RepositoryError Pattern :=
  match if caseless then Pattern.readCaseless? source else Pattern.read? source with
  | some p => .ok p
  | none => .error (.invalidPattern s.method source)

def patternArg (s : Site) (arg : Argument) : Except RepositoryError Pattern :=
  match arg with
  | .pattern p => .ok p
  | .value (.text source) => readPattern s false source
  | other => .error (.invalidRegexArgument s.method s.index other.kind)

/-- The texts of the patterns that stand for equality and containment without regard to case. -/
def wholeSource (text : String) : String := "(?i)^" ++ text ++ "$"
def partSource (text : String) : String := ".*" ++ text ++ ".*"

def filterOfOne (t : Term) (s : Site) (arg : Argument) : Except RepositoryError Filter := do
  match t.operator with
  | .equalsIgnoreCase =>
    return .pattern t.field (← readPattern s false (wholeSource (← t.valueArg s 0 arg).display))
  | .contains => return .pattern t.field (← readPattern s true (partSource (← t.valueArg s 0 arg).display))
  | .greaterThan => t.compareArg s .greater 0 arg
  | .lessThan => t.compareArg s .less 0 arg
  | .greaterEquals => t.compareArg s .atLeast 0 arg
  | .lessEquals => t.compareArg s .atMost 0 arg
  | .regex => return .pattern t.field (← patternArg s arg)
  | .in => return .isIn t.field (← t.listArg s arg)
  | .notIn => return .notIn t.field (← t.listArg s arg)
  | .hasKey => return .exists (t.field ++ "." ++ (← t.valueArg s 0 arg).display)
  | _ => return .eq t.field (← t.valueArg s 0 arg)

def filterOfTwo (t : Term) (s : Site) (low high : Comparison) (a b : Argument) :
    Except RepositoryError Filter := do
  let first ← t.compareArg s low 0 a
  let second ← t.compareArg s high 1 b
  return .and [first, second]

/-- The filter of a term and its arguments, the term's negation left aside. -/
def filterOf (t : Term) (s : Site) (args : List Argument) : Except RepositoryError Filter :=
  match t.operator, args with
  | .exists, _ => .ok (.exists t.field)
  | .between, [a, b] => t.filterOfTwo s .greater .less a b
  | .betweenEquals, [a, b] => t.filterOfTwo s .atLeast .atMost a b
  | _, [a] => t.filterOfOne s a
  | _, _ => .error (.parameterCount s.method t.operator.arity args.length)

end Term

/-- The filters of the terms, the first of which takes the argument with the number `index`. -/
def termFilters (method : String) (index : Nat) : List Term → List Argument → Except RepositoryError (List Filter)
  | [], _ => .ok []
  | t :: rest, args => do
    let f ← t.filterOf ⟨method, index⟩ (args.take t.operator.arity)
    let fs ← termFilters method (index + t.operator.arity) rest (args.drop t.operator.arity)
    return f.negateIf t.negated :: fs

/-- One filter for several: one alone stands for itself. -/
def Filter.joined (combinator : Combinator) : List Filter → Filter
  | [] => .all
  | [f] => f
  | fs =>
    match combinator with
    | .and => .and fs
    | .or => .or fs

/-- The filter of a call. Arguments behind those of the terms are left aside. -/
def MethodSpec.filter (spec : MethodSpec) (args : List Argument) : Except RepositoryError Filter :=
  if args.length < spec.chain.arity then
    .error (.parameterCount spec.method spec.paramCount args.length)
  else do
    return Filter.joined spec.chain.combinator (← termFilters spec.method 0 spec.chain.terms args)

end DocumentRepository
