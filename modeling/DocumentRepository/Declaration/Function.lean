import DocumentRepository.Declaration.Generics
import DocumentRepository.Declaration.Pattern

/-! # Functions

What is written of a function in front of its body. -/
namespace DocumentRepository.Declaration

inductive Parameter where
  | receiver (byReference isMutable : Bool)
  /-- The name, if the pattern is a plain one, and the type. -/
  | typed (name : Option String) (type : TypeSource)
  deriving Repr, Inhabited

def Parameter.isReceiver : Parameter → Bool
  | .receiver .. => true
  | .typed .. => false

structure Function where
  attributes : List Attribute
  name : String
  isGeneric : Bool
  parameters : List Parameter
  returns : Option TypeSource
  deriving Repr, Inhabited

namespace Tokens

def behindWord (ts : Tokens) (word : String) : Tokens := if ts.word word then ts.second else ts

def function (safe : Bool) (ts : Tokens) : Bool :=
  let ts := (ts.behindWord "const").behindWord "async"
  let ts := if safe && ts.word "safe" then ts.second else ts.behindWord "unsafe"
  let ts := if ts.word "extern" then
      match ts.second with
      | .text .. :: rest => rest
      | rest => rest
    else ts
  Tokens.word ts "fn"

end Tokens

namespace Grammar
open Reader

variable (g : Grammar)

def receiver : Reader Parameter := do
  if ← marks? "&" then
    if (← ahead).lifetime then lifetime
    let changeable ← word? "mut"
    word "self"
    return .receiver true changeable
  else
    let changeable ← word? "mut"
    word "self"
    if ← marks? ":" then
      let _ ← g.type true
    return .receiver false changeable

/-- A parameter that is no receiver, or three dots in place of its type. A type with arguments
can stand without a name. -/
def typedParameter : Reader (Option Parameter) := do
  let ts ← ahead
  if ts.name && ts.second.marks "<" then return some (.typed none (← g.typeSource))
  else
    let form ← g.pattern
    marks ":"
    if ← marks? "..." then return none
    else
      let name := match form with
        | .name found => some found
        | _ => none
      return some (.typed name (← g.typeSource))

/-- One parameter; dots instead mean that there are as many more as are given. -/
def parameter : Reader (Option Parameter) := do
  let _ ← g.outerAttributes
  if ← marks? "..." then return none
  else
    match ← attempt g.receiver with
    | some found => return some found
    | none => g.typedParameter

/-- The parameters of a function. A receiver must be the first, and dots the last. -/
def parametersWithin (first : Bool) : Nat → Reader (List Parameter)
  | 0 => failure
  | k + 1 => do
    if (← ahead).isEmpty then return []
    match ← g.parameter with
    | none =>
      if !(← ahead).isEmpty then marks ","
      return []
    | some found =>
      guard (first || !found.isReceiver)
      if (← ahead).isEmpty then return [found]
      marks ","
      return found :: (← parametersWithin false k)

def signature (safe : Bool) (attributes : List Attribute) : Reader Function := do
  let _ ← word? "const"
  let _ ← word? "async"
  let isUnsafe ← word? "unsafe"
  if safe && !isUnsafe then
    let _ ← word? "safe"
  convention
  word "fn"
  let name ← name
  let generics ← g.generics
  let parameters ← inside .round do g.parametersWithin true ((← ahead).length + 1)
  let returns ← if ← marks? "->" then some <$> g.typeSource else pure none
  g.clause?
  return ⟨attributes, name, !generics.isEmpty, parameters, returns⟩

end Grammar

end DocumentRepository.Declaration
