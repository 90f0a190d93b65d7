import DocumentRepository.Declaration.Statement
import DocumentRepository.Declaration.Trait

/-! # Items

What can stand in a module or among statements. Items inside of blocks declare nothing that is
asked for, and need only be well formed. -/
namespace DocumentRepository.Declaration
namespace Grammar
open Reader

variable (g : Grammar)

def upToEnd (one : Reader Unit) : Reader Unit := repeatWhile do
  if (← ahead).isEmpty then return false
  else
    one
    return true

def itemsInBraces (one : Reader Unit) : Reader Unit := inside .curly do
  let _ ← g.innerAttributes
  upToEnd one

/-! ## Imports -/

/-- Names that are imported: one, which can get another name, all, or several in braces. -/
def oneImport (rooted : Bool) : Reader Unit := do
  let ts ← ahead
  if ts.name || ts.words ["self", "super", "crate", "try"] then
    skip 1
    if ← marks? "::" then g.imports false
    else if ← word? "as" then
      let _ ← nameOrBlank
  else if ts.marks "*" then skip 1
  else inside .curly do
    let _ ← list do
      let leads ← if rooted then marks? "::" else pure false
      g.imports (rooted && !leads)

def importItem : Reader Unit := do
  word "use"
  let leads ← marks? "::"
  g.imports !leads
  marks ";"

def packageItem : Reader Unit := do
  word "extern"
  word "crate"
  if (← ahead).word "self" then skip 1
  else
    let _ ← name
  if ← word? "as" then
    let _ ← nameOrBlank
  marks ";"

/-! ## Items of other languages -/

def variableBehind : Reader Unit := do
  word "static"
  let _ ← word? "mut"
  let _ ← name

def foreignItem : Reader Unit := do
  let _ ← g.outerAttributes
  let visible ← visibility
  let ts ← ahead
  if ts.function true then
    let _ ← g.signature true []
    if (← ahead).group .curly then
      let _ ← g.attributedBlock
    else marks ";"
  else if ts.word "static" || ts.words ["unsafe", "safe"] && ts.second.word "static" then
    if !ts.word "static" then skip 1
    variableBehind
    marks ":"
    let _ ← g.type true
    if ← marks? "=" then
      let _ ← g.expression true
    marks ";"
  else if ts.word "type" then g.typeItem true true
  else
    guard (!visible && ts.itemPath)
    invocationItem

def foreignItems : Reader Unit := do
  let _ ← word? "unsafe"
  guard ((← ahead).word "extern")
  convention
  g.itemsInBraces g.foreignItem

/-! ## Implementations -/

def implementedItem : Reader Unit := do
  let _ ← g.outerAttributes
  let visible ← visibility
  let ts ← ahead
  let isDefault := ts.word "default" && !ts.second.marks "!"
  if isDefault then skip 1
  let ts ← ahead
  if ts.function false then
    let _ ← g.signature false []
    if !(← marks? ";") then
      let _ ← g.attributedBlock
  else if ts.word "const" then g.constantItem
  else if ts.word "type" then g.typeItem false true
  else
    guard (!visible && !isDefault && ts.itemPath)
    invocationItem

def implementation : Reader Unit := do
  let _ ← word? "default"
  let _ ← word? "unsafe"
  word "impl"
  if opensParameters (← ahead) then
    let _ ← g.generics
  let ts ← ahead
  if ts.marks "?" && ts.second.word "const" then skip 2
  else if ts.word "const" then skip 1
  let ts ← ahead
  if ts.marks "!" && !ts.second.group .curly then skip 1
  let _ ← g.type true
  if ← word? "for" then
    let _ ← g.type true
  g.clause?
  g.itemsInBraces g.implementedItem

/-! ## Other items -/

def functionItem : Reader Unit := do
  let _ ← g.signature false []
  if !(← marks? ";") then
    let _ ← g.attributedBlock

def variableItem : Reader Unit := do
  variableBehind
  let typed ← marks? ":"
  if typed then
    let _ ← g.type true
  if !typed || (← ahead).marks "=" then
    marks "="
    let _ ← g.expression true
  marks ";"

def moduleItem : Reader Unit := do
  let _ ← word? "unsafe"
  word "mod"
  if (← ahead).word "try" then skip 1
  else
    let _ ← name
  if !(← marks? ";") then g.itemsInBraces g.item

def traitOrAlias : Reader Unit := do
  word "trait"
  let _ ← name
  let _ ← g.generics
  if ← marks? "=" then
    let stop := fun (ts : Tokens) => ts.word "where" || ts.marks ";"
    let _ ← separated "+" stop (g.bound ⟨false, false⟩)
    g.clause?
    marks ";"
  else
    let _ ← g.traitContent

def ruleItem : Reader Unit := do
  word "macro"
  let _ ← name
  if (← ahead).group .round then skip 1
  group .curly

def namedInvocation : Reader Unit := do
  let _ ← plainPath
  marks "!"
  let ts ← ahead
  if ts.name || ts.word "try" then skip 1
  if (← anyGroup) ≠ .curly then marks ";"

def unsafeItem (visible : Bool) (behind : Tokens) : Reader Unit := do
  if behind.word "trait" || behind.word "auto" && behind.second.word "trait" then
    let _ ← g.traitDeclaration
  else if behind.word "impl" then g.implementation
  else if behind.word "mod" then g.moduleItem
  else
    guard !visible
    g.foreignItems

def typeFollows (ts : Tokens) : Bool := ts.words ["struct", "enum"] || ts.word "union" && ts.second.name

def oneItem : Reader Unit := do
  let _ ← g.outerAttributes
  let visible ← visibility
  let ts ← ahead
  if ts.function false then g.functionItem
  else if ts.word "extern" then
    if ts.second.word "crate" then packageItem
    else
      guard !visible
      g.foreignItems
  else if ts.word "use" then g.importItem
  else if ts.word "static" then g.variableItem
  else if ts.word "const" then g.constantItem
  else if ts.word "unsafe" then g.unsafeItem visible ts.second
  else if ts.word "mod" then g.moduleItem
  else if ts.word "type" then g.typeItem true false
  else if typeFollows ts then
    let _ ← g.typeDeclaration
  else if ts.word "trait" then g.traitOrAlias
  else if ts.word "auto" && ts.second.word "trait" then
    let _ ← g.traitDeclaration
  else if ts.word "impl" || ts.word "default" && !ts.second.marks "!" then g.implementation
  else if ts.word "macro" then ruleItem
  else
    guard (!visible && ts.itemPath)
    namedInvocation

end Grammar

end DocumentRepository.Declaration
