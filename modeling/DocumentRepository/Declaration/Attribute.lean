import DocumentRepository.Declaration.Grammar

/-! # Attributes and blocks

An attribute is a path with brackets, with a value, or alone. Attributes stand in front of what
they belong to, or first inside of its brackets. -/
namespace DocumentRepository.Declaration

inductive AttributeContent where
  | path
  | list (inside : Tokens)
  | value
  deriving Repr, Inhabited

/-- An attribute: its path if that is one name, what stands behind it, and how all of it is
written. -/
structure Attribute where
  /-- Whether it stands inside of what it belongs to. -/
  isInner : Bool
  name : Option String
  content : AttributeContent
  tokens : List Token
  deriving Repr, Inhabited

def Attribute.joined (a : Attribute) : String :=
  (if a.isInner then "#![" else "#[") ++ Token.joined a.tokens ++ "]"

/-- A path of words alone. What is given is its one word, if it has no more. -/
def Reader.plainPath : Reader (Option String) := do
  let rooted ← marks? "::"
  guard (← ahead).pathWord
  let first ← anyWord
  let more := (← ahead).marks "::"
  repeatWhile do
    if ← marks? "::" then
      guard (← ahead).pathWord
      skip 1
      return true
    else return false
  return if rooted || more then none else some first

namespace Grammar
open Reader

variable (g : Grammar)

def attributeValue : Reader Unit := do
  match ← peek? literal with
  | some (_, []) => literal
  | _ =>
    let ts ← ahead
    guard !(ts.marks "#" && ts.second.group .square)
    let _ ← g.expression true

def attributeContent : Reader (Option String × AttributeContent) := do
  let name ← if (← ahead).word "unsafe" then some <$> anyWord else plainPath
  match ← ahead with
  | .group _ inside :: _ =>
    let _ ← token
    return (name, .list inside)
  | _ =>
    if ← marks? "=" then
      g.attributeValue
      return (name, .value)
    else return (name, .path)

def attributesWithin (isInner : Bool) : Nat → Reader (List Attribute)
  | 0 => failure
  | k + 1 => do
    let ts ← ahead
    if ts.marks "#" && (!isInner || ts.second.marks "!") then
      skip (if isInner then 2 else 1)
      let ((name, content), tokens) ← inside .square (kept g.attributeContent)
      return ⟨isInner, name, content, tokens⟩ :: (← attributesWithin isInner k)
    else return []

def outerAttributes : Reader (List Attribute) := do g.attributesWithin false ((← ahead).length + 1)

def innerAttributes : Reader (List Attribute) := do g.attributesWithin true ((← ahead).length + 1)

def block : Reader Unit := inside .curly g.statements

def attributedBlock : Reader (List Attribute) := inside .curly do
  let attributes ← g.innerAttributes
  g.statements
  return attributes

end Grammar

end DocumentRepository.Declaration
