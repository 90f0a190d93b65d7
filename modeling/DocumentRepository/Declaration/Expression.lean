import DocumentRepository.Declaration.Pattern

/-! # Expressions

An expression is an operand with operators and other operands behind it. Operands are atoms with
calls, members and indices behind them and signs in front. Nothing is computed: expressions stand
in attributes and in blocks, and need only be well formed. -/
namespace DocumentRepository.Declaration

/-! ## Operators -/

/-- The operators between two operands. Where one begins another, the longer stands first. -/
def operators : List (String × Precedence) :=
  [("+=", .assignment), ("-=", .assignment), ("*=", .assignment), ("/=", .assignment), ("%=", .assignment),
    ("^=", .assignment), ("&=", .assignment), ("|=", .assignment), ("<<=", .assignment), (">>=", .assignment),
    ("&&", .conjunction), ("||", .disjunction), ("<<", .shift), (">>", .shift), ("==", .comparison),
    ("<=", .comparison), ("!=", .comparison), (">=", .comparison), ("+", .sum), ("-", .sum), ("*", .product),
    ("/", .product), ("%", .product), ("^", .bitXor), ("&", .bitAnd), ("|", .bitOr), ("<", .comparison),
    (">", .comparison)]

namespace Tokens

def operator? (ts : Tokens) : Option (String × Precedence) := operators.find? fun p => ts.marks p.1

/-- How tightly what follows binds to the operand in front of it. -/
def precedence (ts : Tokens) : Precedence :=
  match ts.operator? with
  | some (_, p) => p
  | none =>
    if ts.marks "=" && !ts.marks "=>" then .assignment
    else if ts.marks ".." then .range
    else if ts.word "as" then .cast
    else .jump

def point (ts : Tokens) : Bool := ts.marks "." && !ts.marks ".."

def expression (ts : Tokens) : Bool :=
  ts.anyWord || ts.group .round || ts.group .square || ts.group .curly || ts.literal ||
    ts.marks "!" && !ts.marks "!=" || ts.marks "-" && !ts.marks "-=" && !ts.marks "->" ||
    ts.marks "*" && !ts.marks "*=" || ts.marks "|" && !ts.marks "|=" || ts.marks "&" && !ts.marks "&=" ||
    ts.marks ".." || ts.marks "<" && !ts.marks "<=" && !ts.marks "<<=" || ts.marks "::" || ts.lifetime || ts.marks "#"

def noRangeEnd (structs : Bool) (ts : Tokens) : Bool :=
  ts.isEmpty || ts.point || ts.word "as" || !structs && ts.group .curly ||
    [",", ";", "?", "=>", "=", "+", "/", "%", "^", ">", "<=", "!=", "-=", "*=", "&=", "|=", "<<="].any ts.marks

/-- Whether a binder of lifetimes follows, and no loop. -/
def binder (ts : Tokens) : Bool :=
  ts.word "for" && ts.second.marks "<" && (ts.third.lifetime || ts.third.marks ">")

def closure (ts : Tokens) : Bool :=
  ts.marks "|" || ts.word "move" || ts.binder || ts.word "const" && !ts.second.group .curly || ts.word "static" ||
    ts.word "async" && (ts.second.marks "|" || ts.second.word "move")

def blockExpression (ts : Tokens) : Bool :=
  ts.words ["if", "while", "loop", "match", "unsafe"] || ts.word "for" && !ts.binder ||
    ts.words ["try", "const"] && ts.second.group .curly || ts.group .curly || ts.lifetime

end Tokens

namespace Grammar
open Reader

variable (g : Grammar)

/-! ## Operators between operands -/

def rangeEnd (structs closed : Bool) : Reader Unit := do
  if closed || !(← ahead).noRangeEnd structs then
    let _ ← g.operandOf structs .range

/-- What cannot stand behind a type that something is cast to. -/
def castEnds : Reader Unit := do
  let ts ← ahead
  guard !(ts.point || ts.marks "?" || ts.group .square || ts.group .round)

/-- Operators that bind at least as tightly as `base`, and the operands behind them. Nothing
binds to a range, and comparisons do not follow one another. -/
def operationsWithin (structs : Bool) (base : Precedence) (form : ExpressionForm) : Nat → Reader ExpressionForm
  | 0 => failure
  | k + 1 => do
    let ts ← ahead
    if form = .range || ts.precedence.level < base.level || ts.precedence = .jump then return form
    else
      match ts.operator? with
      | some (text, p) =>
        guard !(p = .comparison && form = .comparison)
        skip text.length
        let _ ← g.operandOf structs p
        operationsWithin structs base (if p = .comparison then .comparison else .other) k
      | none =>
        if ts.marks "=" then
          skip 1
          let _ ← g.operandOf structs .assignment
          operationsWithin structs base .other k
        else if ts.marks ".." then
          g.rangeEnd structs (← rangeDots)
          operationsWithin structs base .range k
        else
          word "as"
          let _ ← g.type false
          castEnds
          operationsWithin structs base .other k

def operations (structs : Bool) (base : Precedence) (form : ExpressionForm) : Reader ExpressionForm := do
  g.operationsWithin structs base form ((← ahead).length + 1)

/-- The operand behind an operator, given its beginning: what follows belongs to it as long as
that binds more tightly. Assignments group from the right. -/
def operandOfWithin (structs : Bool) (p : Precedence) (form : ExpressionForm) : Nat → Reader ExpressionForm
  | 0 => failure
  | k + 1 => do
    let ts ← ahead
    let next := ts.precedence
    if p.level < next.level || next = p && p = .assignment then
      let form ← g.operations structs next form
      if (← ahead).length = ts.length then return form else operandOfWithin structs p form k
    else return form

def oneOperandOf (structs : Bool) (p : Precedence) : Reader ExpressionForm := do
  let form ← g.operand structs
  g.operandOfWithin structs p form ((← ahead).length + 1)

def oneExpression (structs : Bool) : Reader ExpressionForm := do
  g.operations structs .jump (← g.operand structs)

/-! ## Atoms -/

def argumentList : Reader Unit := inside .round do
  let _ ← list (g.expression true)

def value? : Reader Unit := do
  if (← ahead).expression then
    let _ ← g.expression true

def closureArgument : Reader Unit := do
  let _ ← g.outerAttributes
  let _ ← g.pattern
  if ← marks? ":" then
    let _ ← g.type true

def closure (structs : Bool) : Reader Unit := do
  let _ ← g.binder?
  let _ ← word? "const"
  let _ ← word? "static"
  let _ ← word? "async"
  let _ ← word? "move"
  marks "|"
  let _ ← separated "," (·.marks "|") g.closureArgument
  marks "|"
  if ← marks? "->" then
    let _ ← g.type true
    g.block
  else
    let _ ← g.expression structs

/-- A field of a struct with its value. A name alone is its own value. -/
def fieldValue : Reader Unit := do
  let _ ← g.outerAttributes
  let named ← member
  if !named || (← ahead).marks ":" then
    marks ":"
    let _ ← g.expression true

def structFields : Reader Unit := inside .curly do
  let _ ← separated "," List.isEmpty do
    if ← marks? ".." then
      if !(← ahead).isEmpty then
        let _ ← g.expression true
      guard (← ahead).isEmpty
    else g.fieldValue

def pathExpression (structs : Bool) : Reader ExpressionForm := do
  let p ← g.path true
  let ts ← ahead
  if p.isPlain && ts.marks "!" && !ts.marks "!=" then
    skip 1
    return .invocation (← anyGroup)
  else
    if structs && ts.group .curly then g.structFields
    return .other

def array : Reader Unit := inside .square do
  if !(← ahead).isEmpty then
    let _ ← g.expression true
    if ← marks? ";" then
      let _ ← g.expression true
    else if !(← ahead).isEmpty then
      marks ","
      let _ ← list (g.expression true)

def breakExpression (structs : Bool) : Reader Unit := do
  word "break"
  if (← ahead).lifetime then
    lifetime
    guard !((← ahead).marks ":")
  if structs || !(← ahead).group .curly then g.value?

def condition (structs : Bool) : Reader Unit := do
  word "let"
  let _ ← g.alternatives
  marks "="
  let form ← g.operand structs
  let _ ← g.operations structs .comparison form

def ifExpression : Reader Unit := repeatWhile do
  word "if"
  let _ ← g.expression false
  g.block
  if ← word? "else" then
    if (← ahead).word "if" then return true
    else
      g.block
      return false
  else return false

def whileExpression : Reader Unit := do
  word "while"
  let _ ← g.expression false
  let _ ← g.attributedBlock

def forExpression : Reader Unit := do
  word "for"
  let _ ← g.alternatives
  word "in"
  let _ ← g.expression false
  let _ ← g.attributedBlock

/-- An arm of a match. A comma must stand behind it unless a block ends it, or all arms. -/
def arm : Reader Unit := do
  let _ ← g.outerAttributes
  let _ ← g.alternatives
  if ← word? "if" then
    let _ ← g.expression true
  marks "=>"
  let form ← g.leadingExpression
  if form = .block || (← ahead).isEmpty then
    let _ ← marks? ","
  else marks ","

def matchExpression : Reader Unit := do
  word "match"
  let _ ← g.expression false
  inside .curly do
    let _ ← g.innerAttributes
    repeatWhile do
      if (← ahead).isEmpty then return false
      else
        g.arm
        return true

def labeled : Reader Unit := do
  lifetime
  marks ":"
  let ts ← ahead
  if ts.word "while" then g.whileExpression
  else if ts.word "for" then g.forExpression
  else
    let _ ← word? "loop"
    let _ ← g.attributedBlock

def keywordBlock : Reader ExpressionForm := do
  skip 1
  let _ ← g.attributedBlock
  return .block

def blockAtom (ts : Tokens) : Reader ExpressionForm := do
  if ts.word "if" then g.ifExpression
  else if ts.word "while" then g.whileExpression
  else if ts.word "for" then g.forExpression
  else if ts.word "match" then g.matchExpression
  else if ts.word "try" then
    skip 1
    g.block
  else if ts.words ["loop", "unsafe", "const"] then
    let _ ← g.keywordBlock
  else if ts.lifetime then g.labeled
  else
    let _ ← g.attributedBlock
  return .block

def wordAtom (structs : Bool) (ts : Tokens) : Reader ExpressionForm := do
  if ts.word "break" then g.breakExpression structs
  else if ts.word "continue" then
    skip 1
    if (← ahead).lifetime then lifetime
  else if ts.words ["return", "yield"] then
    skip 1
    g.value?
  else if ts.word "become" then
    skip 1
    let _ ← g.expression true
  else if ts.word "let" then g.condition structs
  else word "_"
  return .other

def atom (structs : Bool) : Reader ExpressionForm := do
  let ts ← ahead
  if ts.literal then
    literal
    return .other
  else if ts.word "async" && (ts.second.group .curly || ts.second.word "move" && ts.third.group .curly) then
    skip 1
    let _ ← word? "move"
    g.block
    return .other
  else if ts.word "try" && ts.second.group .curly then g.blockAtom ts
  else if ts.closure then
    g.closure structs
    return .other
  else if ts.word "builtin" && ts.second.marks "#" then
    skip 2
    let _ ← name
    group .round
    return .other
  else if ts.pathWord || ts.marks "::" || ts.marks "<" || ts.word "try" && (ts.second.marks "!" || ts.second.marks "::") then
    g.pathExpression structs
  else if ts.group .round then
    g.argumentList
    return .other
  else if ts.group .square then
    g.array
    return .other
  else if ts.blockExpression then g.blockAtom ts
  else if ts.marks ".." then
    g.rangeEnd structs (← rangeDots)
    return .range
  else g.wordAtom structs ts

/-! ## Behind and in front of atoms -/

def memberAccess : Reader Unit := do
  if ← word? "await" then return ()
  let named ← member
  if named && (← ahead).marks "::" then
    marks "::"
    let _ ← g.angled
    g.argumentList
  else if named && (← ahead).group .round then g.argumentList

/-- What stands behind a point. Numbers of two fields with a point between them look like one
number; a point at its end is the next one. -/
def behindPoint : Reader Unit := do
  match ← ahead with
  | .number source :: _ =>
    if (WholeNumber.read? source).isSome then g.memberAccess
    else
      skip 1
      let numbers := source.splitOn "."
      let continues := numbers.getLast? = some ""
      guard ((if continues then numbers.dropLast else numbers).all isFieldNumber)
      if continues then g.memberAccess
  | _ => g.memberAccess

def trailersWithin (form : ExpressionForm) : Nat → Reader ExpressionForm
  | 0 => failure
  | k + 1 => do
    let ts ← ahead
    if ts.group .round then
      g.argumentList
      trailersWithin .other k
    else if ts.point && form ≠ .range then
      skip 1
      g.behindPoint
      trailersWithin .other k
    else if ts.group .square then
      inside .square do
        let _ ← g.expression true
      trailersWithin .other k
    else if ts.marks "?" && form ≠ .range then
      skip 1
      trailersWithin .other k
    else return form

def trailers (form : ExpressionForm) : Reader ExpressionForm := do
  g.trailersWithin form ((← ahead).length + 1)

def referenceMarks : Reader Unit := do
  marks "&"
  let ts ← ahead
  if ts.word "raw" && ts.second.words ["mut", "const"] then skip 2
  else
    let _ ← word? "mut"

/-- An atom with what is behind it and in front of it. Attributes cannot stand in front of a range
without a beginning. -/
def oneOperand (structs : Bool) : Reader ExpressionForm := do
  let attributes ← g.outerAttributes
  let ts ← ahead
  if ts.marks "&" then
    referenceMarks
    let _ ← g.operand structs
    return .other
  else if ts.marks "*" || ts.marks "!" || ts.marks "-" then
    skip 1
    let _ ← g.operand structs
    return .other
  else
    let form ← g.trailers (← g.atom structs)
    guard (attributes.isEmpty || form ≠ .range)
    return form

/-- An expression where a statement or an arm begins. One that a block ends is complete there,
unless a point or a question mark follows. -/
def oneLeadingExpression : Reader ExpressionForm := do
  let _ ← g.outerAttributes
  let ts ← ahead
  if ts.blockExpression then
    let form ← g.atom true
    let ts ← ahead
    if ts.point || ts.marks "?" then g.operations true .jump (← g.trailers form) else return form
  else g.operations true .jump (← g.operand true)

end Grammar

end DocumentRepository.Declaration
