/-! # Failures of stores -/
namespace DocumentRepository

inductive StoreError where
  | lockPoisoned (during : String)
  | duplicateKey (collection index : String)
  | backend (text : String)
  deriving DecidableEq, Repr, Inhabited

def StoreError.message : StoreError → String
  | .lockPoisoned during => s!"store lock poisoned during {during}"
  | .duplicateKey collection index => s!"duplicate key in {collection} for unique index {index}"
  | .backend text => s!"store backend error: {text}"

end DocumentRepository
