import DocumentRepository.Declaration.Item

/-! # Reading with the whole grammar

The grammar of declarations, as deep as the tokens are nested. -/
namespace DocumentRepository.Declaration

namespace Grammar

/-- The grammar that follows the rules for one level, and is given for what is inside. -/
def deeper (g : Grammar) : Grammar where
  type := g.oneType
  bound := g.oneBound
  expression := g.oneExpression
  operand := g.oneOperand
  operandOf := g.oneOperandOf
  leadingExpression := g.oneLeadingExpression
  statements := g.oneBlock
  pattern := g.onePattern
  item := g.oneItem
  imports := g.oneImport

def ofDepth (depth : Nat) : Grammar := depth.repeat deeper empty

/-- The grammar for a list of tokens. No more than a few rules follow one another without a
token, so that the depth is never met. -/
def forTokens (ts : Tokens) : Grammar := ofDepth (8 * (Token.sizes ts + 2))

end Grammar

def Reader.withGrammar {α : Type} (read : Grammar → Reader α) : Reader α := do read (.forTokens (← ahead))

def Grammar.read? {α : Type} (read : Grammar → Reader α) (ts : Tokens) : Option α :=
  (Reader.withGrammar read).whole? ts

end DocumentRepository.Declaration
