import DocumentRepository.Pattern.Reader

/-! # Patterns

A pattern keeps the text it was read from. Two patterns are equal when their texts are. -/
namespace DocumentRepository

structure Pattern where
  source : String
  node : Pattern.Node

namespace Pattern

def read? (source : String) : Option Pattern := (readNode? false source).map (⟨source, ·⟩)

def readCaseless? (source : String) : Option Pattern := (readNode? true source).map (⟨source, ·⟩)

def occursIn (p : Pattern) (text : String) : Bool := p.node.occursIn text.toList

def equal (p q : Pattern) : Bool := p.source == q.source

def display (p : Pattern) : String := "/" ++ p.source ++ "/"

theorem equal_iff (p q : Pattern) : p.equal q = true ↔ p.source = q.source := by
  simp [equal]

end Pattern
end DocumentRepository
