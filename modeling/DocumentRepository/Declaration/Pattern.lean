import DocumentRepository.Declaration.Type

/-! # Patterns

What names the parts of a value: in parameters, in arms, and behind `let`. -/
namespace DocumentRepository.Declaration

/-- The number of a field without a name: digits without a suffix, of 32 bits. -/
def isFieldNumber (source : String) : Bool :=
  match WholeNumber.read? source with
  | some n => n.suffix.isEmpty && n.value < UInt32.size
  | none => false

namespace Reader

def member : Reader Bool := do
  match ← token with
  | .ident found =>
    guard (isName found)
    return true
  | .number source =>
    guard (isFieldNumber source)
    return false
  | _ => failure

def rangeDots : Reader Bool := do
  let ts ← ahead
  if ts.marks "..=" then
    skip 3
    return true
  else
    guard !(ts.marks "...")
    marks ".."
    return false

/-- Reads the dots of a range in a pattern. Three dots are written with an equals sign. -/
def patternDots : Reader Bool := do
  if (← ahead).marks "..." then
    let _ ← unwritten (skip 3)
    write [.punct '.' true, .punct '.' true, .punct '=' false]
    return true
  else rangeDots

end Reader

namespace Grammar
open Reader

variable (g : Grammar)

def rangeEnd? : Reader Bool := do
  let ts ← ahead
  if ts.isEmpty || ts.marks "|" || ts.marks "=" || ts.marks ":" && !ts.marks "::" || ts.marks "," || ts.marks ";" ||
      ts.word "if" then
    return false
  else if ts.literal then literal
  else if ts.word "const" then
    skip 1
    let _ ← g.attributedBlock
  else
    guard (ts.pathWord || ts.marks "::" || ts.marks "<")
    let _ ← g.path true
  return true

def rangeBehind : Reader PatternForm := do
  let closed ← patternDots
  let hasEnd ← g.rangeEnd?
  guard (hasEnd || !closed)
  return if hasEnd then .other else .openRange

def alternatives : Reader PatternForm := do
  let isBar := fun (ts : Tokens) => ts.marks "|" && !ts.marks "||" && !ts.marks "|="
  let leads ← marks? "|"
  let first ← g.pattern
  let more := isBar (← ahead)
  repeatWhile do
    if isBar (← ahead) then
      skip 1
      let _ ← g.pattern
      return true
    else return false
  return if leads || more then .other else first

def fieldPattern : Reader Unit := do
  let boxed ← word? "box"
  let byReference ← word? "ref"
  let changeable ← word? "mut"
  let marked := boxed || byReference || changeable
  let named ← member
  guard (named || !marked)
  if !named || !marked && (← ahead).marks ":" then
    marks ":"
    let _ ← g.alternatives

def structPattern : Reader Unit := inside .curly do
  let _ ← separated "," List.isEmpty do
    let _ ← g.outerAttributes
    if ← marks? ".." then guard (← ahead).isEmpty else g.fieldPattern

def pathPattern : Reader PatternForm := do
  let p ← g.path true
  let ts ← ahead
  if p.isPlain && ts.marks "!" && !ts.marks "!=" then
    skip 1
    let _ ← anyGroup
    return .other
  else if ts.group .curly then
    g.structPattern
    return .other
  else if ts.group .round then
    let _ ← inside .round (list g.alternatives)
    return .other
  else if ts.marks ".." then g.rangeBehind
  else return .other

def rangePattern : Reader PatternForm := do
  guard (← g.rangeEnd?)
  if (← ahead).marks ".." then g.rangeBehind else return .other

def namePattern : Reader PatternForm := do
  let _ ← word? "ref"
  let _ ← word? "mut"
  let found ← if (← ahead).word "self" then anyWord else name
  if ← marks? "@" then
    let _ ← g.pattern
  return .name found

def openPattern : Reader PatternForm := do
  let closed ← rangeDots
  if ← g.rangeEnd? then return .openRange
  else
    guard !closed
    return .rest

/-- Patterns of elements. A range that lacks an end must stand in brackets of its own. -/
def slicePattern : Reader PatternForm := inside .square do
  let forms ← list g.alternatives
  guard !(forms.contains .openRange)
  return .other

/-- Whether a pattern begins with a path that is more than a name. -/
def patternPathFollows (ts : Tokens) : Bool :=
  let behind := ts.second
  ts.name && (behind.marks "::" || behind.marks "!" || behind.group .curly || behind.group .round || behind.marks "..") ||
    ts.word "self" && behind.marks "::" || ts.marks "::" || ts.marks "<" || ts.words ["Self", "super", "crate"]

def onePattern : Reader PatternForm := do
  let ts ← ahead
  if patternPathFollows ts then g.pathPattern
  else if ts.word "_" then
    skip 1
    return .other
  else if ts.word "box" then
    skip 1
    let _ ← g.pattern
    return .other
  else if ts.marks "-" || ts.literal || ts.word "const" then g.rangePattern
  else if ts.words ["ref", "mut", "self"] || ts.name then g.namePattern
  else if ts.marks "&" then
    skip 1
    let _ ← word? "mut"
    let _ ← g.pattern
    return .other
  else if ts.group .round then
    let _ ← inside .round (list g.alternatives)
    return .other
  else if ts.group .square then g.slicePattern
  else if ts.marks ".." && !ts.marks "..." then g.openPattern
  else failure

end Grammar

end DocumentRepository.Declaration
