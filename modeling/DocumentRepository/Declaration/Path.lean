import DocumentRepository.Declaration.Attribute

/-! # Paths

A path is a chain of parts with two colons between them, each with arguments if it has any. It
can lead through a type in angle brackets. Among the arguments in angle brackets lifetimes are
written first, wherever they stood. -/
namespace DocumentRepository.Declaration

namespace PathArgument

def isLifetime : PathArgument → Bool
  | .lifetime _ => true
  | _ => false

def tokens : PathArgument → List Token
  | .lifetime tokens => tokens
  | .type tokens => tokens
  | .other tokens => tokens

end PathArgument

/-- Items with the commas behind them, lifetimes in front of the others. Where the last lifetime
had no comma, one is put behind it. -/
def lifetimesFirst {α : Type} (isLifetime : α → Bool) (tokens : α → List Token) (items : List (α × Bool)) :
    List Token :=
  let comma := [Token.punct ',' false]
  let written := fun (p : α × Bool) => tokens p.1 ++ if p.2 then comma else []
  let (lifetimes, others) := items.partition fun p => isLifetime p.1
  let between := if others.isEmpty || lifetimes.all (·.2) then [] else comma
  lifetimes.flatMap written ++ between ++ others.flatMap written

def Arguments.isAbsent : Arguments → Bool
  | .absent => true
  | _ => false

def Arguments.isEmpty : Arguments → Bool
  | .absent => true
  | .angled arguments => arguments.isEmpty
  | .round => false

namespace PathForm

def isPlain (p : PathForm) : Bool := !p.qualified && (p.last :: p.leading).all (·.arguments.isAbsent)

/-- The path as the name of something that a trait declares, where it can be one. -/
def isMember (p : PathForm) : Bool :=
  !p.qualified && !p.rooted && p.leading.isEmpty &&
    match p.last.arguments with
    | .round => false
    | _ => true

def ofSegments (qualified rooted : Bool) (first : Segment) (more : List Segment) : PathForm :=
  ⟨qualified, rooted, (first :: more).dropLast, more.getLastD first⟩

def append (p : PathForm) (more : List Segment) : PathForm :=
  if more.isEmpty then p else { p with leading := p.leading ++ p.last :: more.dropLast, last := more.getLastD p.last }

end PathForm

namespace Grammar
open Reader

variable (g : Grammar)

def constant : Reader Unit := do
  let ts ← ahead
  if ts.literal then literal
  else if ts.name then skip 1
  else
    let _ ← g.attributedBlock

def boundsUntil (stop : Tokens → Bool) : Reader Unit := do
  let _ ← chain "+" stop (g.bound ⟨false, true⟩)

def memberValue : Reader Bool := do
  if ← marks? "=" then
    let ts ← ahead
    if ts.literal || ts.group .curly then g.constant
    else
      let _ ← g.type true
    return true
  else if ← marks? ":" then
    g.boundsUntil fun ts => ts.marks "," || ts.marks ">"
    return true
  else return false

def argumentKind : Reader (List Token → PathArgument) := do
  let ts ← ahead
  if ts.lifetime && !ts.second.marks "+" then
    lifetime
    return .lifetime
  else if ts.literal || ts.group .curly then
    g.constant
    return .other
  else
    match ← g.type true with
    | .path p =>
      if p.isMember then
        if ← g.memberValue then return .other else return .type
      else return .type
    | _ => return .type

def argument : Reader PathArgument := do
  let (kind, tokens) ← kept g.argumentKind
  return kind tokens

def angled : Reader (List PathArgument) := do
  marks "<"
  let (items, _) ← unwritten (separated "," (·.marks ">") g.argument)
  write (lifetimesFirst PathArgument.isLifetime PathArgument.tokens items)
  marks ">"
  return items.map (·.1)

/-- One part of a path. In expressions two colons stand in front of its arguments. -/
def segment (inExpression : Bool) : Reader Segment := do
  let ts ← ahead
  if ts.words ["super", "self", "crate", "try"] then return ⟨← anyWord, .absent⟩
  else
    let name ← if ts.word "Self" then anyWord else name
    let ts ← ahead
    let opens := ts.marks "<" && !ts.marks "<=" && !ts.marks "<<="
    if !inExpression && opens || ts.marks "::" && ts.third.marks "<" then
      let _ ← marks? "::"
      return ⟨name, .angled (← g.angled)⟩
    else return ⟨name, .absent⟩

/-- More parts behind two colons each. Those in front of round brackets belong to the brackets,
if they can stand there at all. -/
def segmentsWithin (inExpression calls : Bool) : Nat → Reader (List Segment)
  | 0 => failure
  | k + 1 => do
    let ts ← ahead
    if ts.marks "::" && !(calls && ts.third.group .round) then
      marks "::"
      let s ← g.segment inExpression
      return s :: (← segmentsWithin inExpression calls k)
    else return []

def moreSegments (inExpression calls : Bool) : Reader (List Segment) := do
  g.segmentsWithin inExpression calls ((← ahead).length + 1)

def simplePath (inExpression : Bool) : Reader PathForm := do
  let rooted ← marks? "::"
  let first ← g.segment inExpression
  return .ofSegments false rooted first (← g.moreSegments inExpression true)

def qualifiedPath (inExpression : Bool) : Reader PathForm := do
  marks "<"
  let _ ← g.type true
  if ← word? "as" then
    let _ ← g.simplePath false
  marks ">"
  marks "::"
  let first ← g.segment inExpression
  return .ofSegments true true first (← g.moreSegments inExpression false)

def path (inExpression : Bool) : Reader PathForm := do
  if (← ahead).marks "<" then g.qualifiedPath inExpression else g.simplePath inExpression

end Grammar

end DocumentRepository.Declaration
