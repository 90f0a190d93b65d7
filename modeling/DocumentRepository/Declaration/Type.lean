import DocumentRepository.Declaration.Path

/-! # Types

Types, and the bounds with plus signs between them that make types of their own. -/
namespace DocumentRepository.Declaration

structure TypeSource where
  tokens : List Token
  path : Option PathForm
  deriving Repr, Inhabited

namespace Grammar
open Reader

variable (g : Grammar)

/-! ## Binders -/

def binderLifetimes : Reader Unit := do
  marks "<"
  let _ ← separated "," (·.marks ">") do
    let _ ← g.outerAttributes
    lifetime
  marks ">"

def binder? : Reader Bool := do
  if ← word? "for" then
    g.binderLifetimes
    return true
  else return false

/-! ## Bounds -/

def result? (plus : Bool) : Reader (Option TypeForm) := do
  if ← marks? "->" then return some (← g.type plus) else return none

def call : Reader (Option TypeForm) := do
  let _ ← inside .round (list (g.type true))
  g.result? false

def callFollows (p : PathForm) : Reader Bool := do
  let ts ← ahead
  return p.last.arguments.isEmpty && (ts.group .round || ts.marks "::" && ts.third.group .round)

/-- Round brackets in place of the empty arguments in front of them. Colons between the two are
not written. -/
def replaceArguments : Reader (Option TypeForm) := do
  modify fun c => { c with written := c.written.dropWhile fun t => t matches .punct _ _ }
  let _ ← unwritten (marks? "::")
  g.call

/-- A trait as a bound. A question mark admits types that lack it, and takes a binder of its own
only to be refused with it. -/
def traitBound (rule : BoundRule) : Reader BoundForm := do
  let bound ← g.binder?
  let ts ← ahead
  if ts.group .square then
    guard rule.constant
    inside .square (word "const")
  else if ts.word "const" then
    guard rule.constant
    skip 1
  let optional ← marks? "?"
  guard !(bound && optional)
  if optional then guard !(← g.binder?)
  let p ← g.simplePath false
  if ← callFollows p then
    let _ ← g.replaceArguments
  return .trait

def captured : Reader Unit := do
  marks "<"
  let _ ← separated "," (·.marks ">") do
    let ts ← ahead
    guard (ts.lifetime || ts.name || ts.word "Self")
    skip 1
  marks ">"

/-- One bound: a lifetime, captures, or a trait, which can stand in brackets. -/
def oneBound (rule : BoundRule) : Reader BoundForm := do
  let ts ← ahead
  if ts.lifetime then
    lifetime
    return .lifetime
  else if ts.word "use" then
    guard rule.captures
    skip 1
    captured
    return .captures
  else if ts.group .round then inside .round (g.traitBound rule)
  else g.traitBound rule

def boundFollows (rule : BoundRule) (ts : Tokens) : Bool :=
  ts.anyWord || ts.marks "::" || ts.marks "?" || ts.lifetime || ts.group .round ||
    (rule.constant && ts.group .square)

/-- Bounds behind the first one, each behind a plus sign. The last sign can stand alone. -/
def moreBounds (rule : BoundRule) : Reader (List BoundForm) :=
  chain "+" (fun ts => !boundFollows rule ts) (g.bound rule)

def bounds (plus : Bool) (rule : BoundRule) : Reader (List BoundForm × Bool) := do
  let first ← g.bound rule
  if plus && (← ahead).marks "+" then
    skip 1
    return (first :: (← g.moreBounds rule), false)
  else return ([first], true)

def objectBounds (plus : Bool) : Reader Bool := do
  let (bounds, single) ← g.bounds plus ⟨false, false⟩
  guard (bounds.contains .trait)
  return single

def furtherBounds : Reader Unit := do
  repeatWhile do
    if ← marks? "+" then
      let _ ← g.bound ⟨false, false⟩
      return true
    else return false

/-! ## Types -/

def namedArgument (self : Bool) (ts : Tokens) : Bool :=
  (ts.name || ts.word "_" || self && ts.word "self") && ts.second.marks ":" && !ts.second.marks "::"

/-- An argument of a function type. The first can be what a method is called on. -/
def functionArgument (first : Bool) : Reader Unit := do
  let _ ← g.outerAttributes
  let ts ← ahead
  let changed := first && ts.word "mut" && ts.second.word "self"
  if changed then skip 1
  let ts ← ahead
  let named := namedArgument first ts
  let self := named && ts.word "self"
  if named then skip 2
  let ts ← ahead
  if first && !self && ts.word "mut" && ts.second.word "self" then skip 2
  else if changed && !named then word "self"
  else
    let _ ← g.type true

/-- The arguments of a function type. Three dots and a comma end those of one with as many as it
is given. -/
def functionArgumentsWithin (first : Bool) : Nat → Reader Unit
  | 0 => failure
  | k + 1 => do
    if (← ahead).isEmpty then return ()
    let _ ← g.outerAttributes
    let ts ← ahead
    let named := (ts.name || ts.word "_") && ts.second.marks ":" && ts.third.marks "..."
    if named || ts.marks "..." then
      if named then skip 2
      marks "..."
      if !(← ahead).isEmpty then marks ","
    else
      g.functionArgument first
      if (← ahead).isEmpty then return ()
      marks ","
      functionArgumentsWithin false k

def convention : Reader Unit := do
  if ← word? "extern" then
    match ← ahead with
    | .text .. :: _ => skip 1
    | _ => pure ()

def functionType : Reader TypeForm := do
  let _ ← word? "unsafe"
  convention
  word "fn"
  inside .round do g.functionArgumentsWithin true ((← ahead).length + 1)
  let _ ← g.result? false
  return .other

/-- The path of a type. Round brackets are arguments of its last part, and more parts can follow
them if they have no result or one in brackets. -/
def callsWithin (p : PathForm) : Nat → Reader PathForm
  | 0 => failure
  | k + 1 => do
    if ← callFollows p then
      let result ← g.replaceArguments
      let called := { p with last := { p.last with arguments := .round } }
      let continues := match result with
        | none => true
        | some .bracketed => true
        | some _ => false
      if continues then callsWithin (called.append (← g.moreSegments false true)) k else callsWithin called k
    else return p

def pathType (bound plus : Bool) : Reader TypeForm := do
  let p ← g.path false
  let p ← g.callsWithin p ((← ahead).length + 1)
  let ts ← ahead
  if p.qualified then return .path p
  else if ts.marks "!" && !ts.marks "!=" && p.isPlain then
    skip 1
    let _ ← anyGroup
    return .other
  else if plus && ts.marks "+" then
    skip 1
    let _ ← g.moreBounds ⟨false, false⟩
    return .object false
  else if bound then return .object true
  else return .path p

def bracketed : Reader (TypeForm × Bool) := do
  let ts ← ahead
  if ts.isEmpty then return (.other, false)
  else if ts.lifetime then
    let _ ← g.objectBounds true
    return (.bracketed, false)
  else if ts.marks "?" then
    let _ ← g.traitBound ⟨false, false⟩
    return (.object true, true)
  else
    let first ← g.type true
    if ← marks? "," then
      let _ ← list (g.type true)
      return (.other, false)
    else
      match first with
      | .path p => return (.bracketed, !p.qualified)
      | .object single => return (.bracketed, single)
      | _ => return (.bracketed, false)

/-- A type that begins with round brackets: a tuple, an object, or a type in brackets. With a
plus sign behind them brackets can be the first bound of an object. -/
def bracketedType (plus : Bool) : Reader TypeForm := do
  let (form, isBound) ← inside .round g.bracketed
  let further := (← ahead).marks "+" && (plus || form matches .object _)
  if isBound && further then
    g.furtherBounds
    return .object false
  else return form

def pointer : Reader TypeForm := do
  marks "*"
  if !(← word? "const") then word "mut"
  let _ ← g.type false
  return .other

def reference : Reader TypeForm := do
  marks "&"
  if (← ahead).lifetime then lifetime
  let _ ← word? "mut"
  let _ ← g.type false
  return .other

def arrayType : Reader TypeForm := inside .square do
  let _ ← g.type true
  if ← marks? ";" then
    let _ ← g.expression true
  return .other

def opaqueType (plus : Bool) : Reader TypeForm := do
  word "impl"
  let (bounds, _) ← g.bounds plus ⟨true, true⟩
  guard (bounds.contains .trait)
  return .other

def objectType (plus : Bool) : Reader TypeForm := do
  word "dyn"
  let _ ← marks? "*"
  let _ ← g.objectBounds plus
  return .other

def pathFollows (ts : Tokens) : Bool :=
  ts.name || ts.words ["super", "self", "Self", "crate"]

def functionFollows (ts : Tokens) : Bool := ts.words ["fn", "unsafe", "extern"]

/-- One type. A binder must stand in front of a function type or a path. -/
def oneType (plus : Bool) : Reader TypeForm := do
  let bound ← g.binder?
  let ts ← ahead
  guard (!bound || functionFollows ts || pathFollows ts)
  if ts.group .round then g.bracketedType plus
  else if functionFollows ts then g.functionType
  else if pathFollows ts || ts.marks "::" || ts.marks "<" then g.pathType bound plus
  else if ts.word "dyn" then g.objectType plus
  else if ts.group .square then g.arrayType
  else if ts.marks "*" then g.pointer
  else if ts.marks "&" then g.reference
  else if ts.marks "!" then
    skip 1
    return .other
  else if ts.word "impl" then g.opaqueType plus
  else if ts.word "_" then
    skip 1
    return .other
  else if ts.lifetime then return .object (← g.objectBounds true)
  else failure

def typeSource : Reader TypeSource := do
  let (form, tokens) ← kept (g.type true)
  match form with
  | .path p => return ⟨tokens, some p⟩
  | _ => return ⟨tokens, none⟩

end Grammar

end DocumentRepository.Declaration
