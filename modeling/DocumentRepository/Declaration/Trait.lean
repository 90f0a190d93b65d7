import DocumentRepository.Declaration.Function
import DocumentRepository.Declaration.Structure

/-! # Traits

A trait with its functions. Constants, types and calls with an exclamation mark that stand in a
trait are read and passed over. -/
namespace DocumentRepository.Declaration

structure Trait where
  name : String
  functions : List Function
  deriving Repr, Inhabited

namespace Tokens

def itemPath (ts : Tokens) : Bool := ts.name || ts.words ["self", "super", "crate"] || ts.marks "::"

end Tokens

namespace Grammar
open Reader

variable (g : Grammar)

def constantItem : Reader Unit := do
  word "const"
  let _ ← nameOrBlank
  let _ ← g.generics
  marks ":"
  let _ ← g.type true
  if ← marks? "=" then
    let _ ← g.expression true
  g.clause?
  marks ";"

/-- A name for a type. The clause about parameters stands in front of the type, behind it, or
where it is found first. -/
def typeItem (clauseBefore clauseBehind : Bool) : Reader Unit := do
  word "type"
  let _ ← name
  let _ ← g.generics
  if ← marks? ":" then
    let stop := fun (ts : Tokens) => ts.word "where" || ts.marks "=" || ts.marks ";"
    let _ ← separated "+" stop (g.bound ⟨false, true⟩)
  let found := clauseBefore && (← ahead).word "where"
  if clauseBefore then g.clause?
  if ← marks? "=" then
    let _ ← g.type true
  if clauseBehind && !found then g.clause?
  marks ";"

/-- A call with an exclamation mark as an item; brackets other than braces need a mark behind
them. -/
def invocationItem : Reader Unit := do
  let _ ← plainPath
  marks "!"
  if (← anyGroup) ≠ .curly then marks ";"

/-- A function of a trait. A body can follow, whose attributes are those of the function. -/
def traitFunction (attributes : List Attribute) : Reader Function := do
  let f ← g.signature false attributes
  if ← marks? ";" then return f
  else
    let inner ← g.attributedBlock
    return { f with attributes := f.attributes ++ inner }

/-- An item of a trait, if it is a function. One that is marked as if it stood outside of a trait
is passed over. -/
def traitItem : Reader (Option Function) := do
  let attributes ← g.outerAttributes
  let visible ← visibility
  let isDefault ← word? "default"
  let marked := visible || isDefault
  let ts ← ahead
  if ts.function false then
    let f ← g.traitFunction attributes
    return if marked then none else some f
  else
    if ts.word "const" then g.constantItem
    else if ts.word "type" then g.typeItem false true
    else
      guard (!marked && ts.itemPath)
      invocationItem
    return none

def traitItemsWithin : Nat → Reader (List Function)
  | 0 => failure
  | k + 1 => do
    if (← ahead).isEmpty then return []
    let found ← g.traitItem
    return found.toList ++ (← traitItemsWithin k)

def traitContent : Reader (List Function) := do
  if ← marks? ":" then
    let stop := fun (ts : Tokens) => ts.word "where" || ts.group .curly
    let _ ← separated "+" stop (g.bound ⟨false, true⟩)
  g.clause?
  inside .curly do
    let _ ← g.innerAttributes
    g.traitItemsWithin ((← ahead).length + 1)

def traitDeclaration : Reader Trait := do
  let _ ← g.outerAttributes
  let _ ← visibility
  let _ ← word? "unsafe"
  let _ ← word? "auto"
  word "trait"
  let name ← name
  let _ ← g.generics
  return ⟨name, ← g.traitContent⟩

end Grammar

end DocumentRepository.Declaration
