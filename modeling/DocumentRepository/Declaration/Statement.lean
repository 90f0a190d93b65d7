import DocumentRepository.Declaration.Expression

/-! # Statements

What a block holds: declarations, items, calls with an exclamation mark, and expressions. A mark
ends a statement unless a block does, or the block around it. -/
namespace DocumentRepository.Declaration

namespace Tokens

def item (ts : Tokens) : Bool :=
  let second := ts.second
  let third := ts.third
  ts.words ["pub", "extern", "use", "fn", "mod", "type", "struct", "enum", "trait", "impl", "macro"] ||
    ts.word "crate" && !second.marks "::" ||
    ts.word "static" &&
      (second.word "mut" || second.name && !(second.word "async" && (third.word "move" || third.marks "|"))) ||
    ts.word "const" &&
      !(second.group .curly || second.word "static" ||
        second.word "async" && !third.words ["unsafe", "extern", "fn"] || second.word "move" || second.marks "|") ||
    ts.word "unsafe" && !second.group .curly || ts.word "async" && second.words ["unsafe", "extern", "fn"] ||
    ts.word "union" && second.name || ts.word "auto" && second.word "trait" ||
    ts.word "default" && second.words ["unsafe", "impl"]

end Tokens

namespace Grammar
open Reader

variable (g : Grammar)

/-- A declaration behind `let`. What is done where the pattern does not match stands behind the
value, unless a block ends the value. -/
def declaration : Reader Unit := do
  word "let"
  let _ ← g.pattern
  if ← marks? ":" then
    let _ ← g.type true
  if ← marks? "=" then
    let (_, tokens) ← kept (g.expression true)
    let endsInBlock := Tokens.group (tokens.drop (tokens.length - 1)) .curly
    if !endsInBlock then
      if ← word? "else" then g.block
  marks ";"

/-- What follows a plain path and an exclamation mark, if a statement begins with them: the
tokens from the mark on. -/
def invoked? : Reader (Option Tokens) := do
  match ← peek? plainPath with
  | some (_, behind) => return if behind.marks "!" then some behind else none
  | none => return none

def statement : Reader Bool := do
  let start ← get
  let _ ← g.outerAttributes
  let ts ← ahead
  let invoked ← invoked?
  let inBraces := match invoked with
    | some behind => behind.second.group .curly && !(behind.third.point || behind.third.marks "?")
    | none => false
  let asItem := match invoked with
    | some behind => behind.second.name || behind.second.word "try"
    | none => false
  if !asItem && inBraces then
    let _ ← plainPath
    marks "!"
    let _ ← anyGroup
    let _ ← marks? ";"
    return false
  else if ts.word "let" then
    g.declaration
    return false
  else if asItem || ts.item then
    set start
    g.item
    return false
  else
    let form ← g.leadingExpression
    if ← marks? ";" then return false
    else return form ≠ .block && form ≠ .invocation .curly

def oneBlock : Reader Unit := repeatWhile do
  if ← marks? ";" then return true
  else if (← ahead).isEmpty then return false
  else
    let last ← g.statement
    let ts ← ahead
    guard (ts.isEmpty || !last)
    return !ts.isEmpty

end Grammar

end DocumentRepository.Declaration
