import DocumentRepository.Declaration.Type

/-! # Generic parameters

The parameters behind a name, and the clause that says what they must be. -/
namespace DocumentRepository.Declaration

/-- Generic parameters as they are used: a lifetime or a name each, and whether a comma stands
behind it. -/
abbrev Generics := List (Token × Bool)

def Generics.tokens (ps : Generics) : List Token :=
  let isLifetime := fun (t : Token) => t matches .lifetime _
  if ps.isEmpty then []
  else [.punct '<' false] ++ lifetimesFirst isLifetime (fun t => [t]) ps ++ [.punct '>' false]

namespace Grammar
open Reader

variable (g : Grammar)

def genericParameter : Reader Token := do
  let _ ← g.outerAttributes
  let ts ← ahead
  let stop := fun (ts : Tokens) => ts.isEmpty || ts.marks "," || ts.marks ">"
  if ts.lifetime then
    let parameter ← token
    if ← marks? ":" then
      let _ ← chain "+" stop lifetime
    return parameter
  else if ts.word "const" then
    skip 1
    let parameter ← name
    marks ":"
    let _ ← g.type true
    if ← marks? "=" then g.constant
    return .ident parameter
  else if ts.word "_" then token
  else
    let parameter ← name
    if ← marks? ":" then g.boundsUntil fun ts => stop ts || ts.marks "="
    if ← marks? "=" then
      let _ ← g.type true
    return .ident parameter

def generics : Reader Generics := do
  if ← marks? "<" then
    let parameters ← separated "," (·.marks ">") g.genericParameter
    marks ">"
    return parameters
  else return []

/-- Whether angle brackets behind a keyword hold parameters and no type. -/
def opensParameters (ts : Tokens) : Bool :=
  ts.marks "<" &&
    (ts.second.marks ">" || ts.second.marks "#" || ts.second.word "const" ||
      (ts.second.lifetime || ts.second.name) &&
        (ts.third.marks ">" || ts.third.marks "," || ts.third.marks ":" && !ts.third.marks "::" || ts.third.marks "="))

def clauseEnds (ts : Tokens) : Bool :=
  ts.isEmpty || ts.group .curly || ts.marks "," || ts.marks ";" || ts.marks ":" && !ts.marks "::" || ts.marks "="

def demand : Reader Unit := do
  let ts ← ahead
  if ts.lifetime && ts.second.marks ":" then
    skip 2
    let _ ← chain "+" (fun ts => clauseEnds ts || ts.marks ":") lifetime
  else
    let _ ← g.binder?
    let _ ← g.type true
    marks ":"
    g.boundsUntil clauseEnds

/-- The clause that says what parameters must be, if there is one. It has no parameters of its
own. -/
def clause? : Reader Unit := do
  if ← word? "where" then
    guard !(opensParameters (← ahead))
    let _ ← chain "," clauseEnds g.demand

end Grammar

end DocumentRepository.Declaration
