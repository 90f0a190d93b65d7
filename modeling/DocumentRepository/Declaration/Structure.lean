import DocumentRepository.Declaration.Generics

/-! # Structs, enums and unions

A type declaration with its attributes and fields. -/
namespace DocumentRepository.Declaration

structure StructField where
  attributes : List Attribute
  name : String
  type : TypeSource
  deriving Repr, Inhabited

inductive Body where
  | named (fields : List StructField)
  /-- A struct whose fields have no names, or that has none. -/
  | unnamed
  | notStruct
  deriving Repr, Inhabited

structure TypeDeclaration where
  attributes : List Attribute
  name : String
  generics : Generics
  body : Body
  deriving Repr, Inhabited

def TypeDeclaration.usedName (d : TypeDeclaration) : String := d.name ++ Token.joined d.generics.tokens

/-- Reads who may see an item, and says whether that is written. A word in round brackets limits
it, if nothing else is in them. -/
def Reader.visibility : Reader Bool := do
  if ← word? "pub" then
    match ← ahead with
    | .group .round inside :: _ =>
      match inside with
      | [.ident found] => if ["crate", "self", "super"].contains found then skip 1
      | .ident "in" :: _ =>
        Reader.inside .round do
          word "in"
          let _ ← plainPath
      | _ => pure ()
    | _ => pure ()
    return true
  else return false

namespace Grammar
open Reader

variable (g : Grammar)

/-! ## Fields -/

def namedField (fields : Reader (List StructField)) : Reader StructField := do
  let attributes ← g.outerAttributes
  let _ ← visibility
  let name ← nameOrBlank
  marks ":"
  let ts ← ahead
  if name = "_" && (ts.word "struct" || ts.word "union" && ts.second.group .curly) then
    let (_, tokens) ← kept do
      skip 1
      fields
    return ⟨attributes, name, ⟨tokens, none⟩⟩
  else return ⟨attributes, name, ← g.typeSource⟩

def namedFieldsWithin : Nat → Reader (List StructField)
  | 0 => failure
  | k + 1 => inside .curly (list (g.namedField (namedFieldsWithin k)))

/-- Fields with names, in braces. They are nested no deeper than there are tokens. -/
def namedFields : Reader (List StructField) := do g.namedFieldsWithin (Token.sizes (← ahead))

def unnamedFields : Reader Unit := inside .round do
  let _ ← list do
    let _ ← g.outerAttributes
    let _ ← visibility
    g.type true

/-! ## Declarations -/

/-- What a struct consists of. The clause about its parameters stands in front of braces and
behind round brackets. -/
def structBody : Reader Body := do
  let early := (← ahead).word "where"
  g.clause?
  let ts ← ahead
  if !early && ts.group .round then
    g.unnamedFields
    g.clause?
    marks ";"
    return .unnamed
  else if ts.group .curly then return .named (← g.namedFields)
  else
    marks ";"
    return .unnamed

def variant : Reader Unit := do
  let _ ← g.outerAttributes
  let _ ← visibility
  let _ ← name
  let ts ← ahead
  if ts.group .curly then
    let _ ← g.namedFields
  else if ts.group .round then g.unnamedFields
  if ← marks? "=" then
    let _ ← g.expression true

def typeDeclaration : Reader TypeDeclaration := do
  let attributes ← g.outerAttributes
  let _ ← visibility
  let keyword ← anyWord
  let name ← name
  let generics ← g.generics
  let body ←
    if keyword = "struct" then g.structBody
    else
      g.clause?
      if keyword = "enum" then
        let _ ← inside .curly (list g.variant)
      else
        guard (keyword = "union")
        let _ ← g.namedFields
      pure .notStruct
  return ⟨attributes, name, generics, body⟩

end Grammar

end DocumentRepository.Declaration
