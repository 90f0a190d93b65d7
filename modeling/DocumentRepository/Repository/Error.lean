import DocumentRepository.Query.Spec
import DocumentRepository.Store.Error

/-! # Failures of registration and of calls -/
namespace DocumentRepository

inductive RepositoryError where
  | registration (contract : String) (cause : ValidationError)
  | parameterCount (method : String) (expected actual : Nat)
  | unsupported (method contract : String)
  | invalidArgument (method : String) (index : Nat) (expected actual : String)
  | invalidRegexArgument (method : String) (index : Nat) (actual : String)
  | invalidPattern (method pattern : String)
  | unknownField (method field : String)
  | returnMismatch (expected actual : String)
  /-- An entity turned out to be a value of another kind. -/
  | notAnObject (kind : String)
  /-- A document does not have the form of the entity that it is read as. -/
  | malformedEntity
  | store (e : StoreError)
  | async (text : String)
  | lockPoisoned (during : String)
  deriving DecidableEq, Repr

namespace RepositoryError

/-- The text of an error; two kinds of error have none of their own. -/
def message? : RepositoryError → Option String
  | .registration contract cause => some s!"failed to register repository {contract}: {cause.message}"
  | .parameterCount method expected actual => some s!"method `{method}` expects {expected} arguments, got {actual}"
  | .unsupported method contract => some s!"method `{method}` is not supported by repository {contract}"
  | .invalidArgument method index expected actual =>
    some s!"method `{method}` argument {index}: expected {expected}, got {actual}"
  | .invalidRegexArgument method index actual =>
    some s!"method `{method}` argument {index} must be text or a pattern to be used as a regex, got {actual}"
  | .invalidPattern _ _ => none
  | .unknownField method field => some s!"method `{method}` refers to unknown field `{field}`"
  | .returnMismatch expected actual => some s!"expected a {expected} result, got {actual}"
  | .notAnObject kind => some s!"serialization error: entity serialized to {kind} instead of an object"
  | .malformedEntity => none
  | .store e => some e.message
  | .async text => some s!"asynchronous task failed: {text}"
  | .lockPoisoned during => some s!"repository registry lock poisoned during {during}"

end RepositoryError
end DocumentRepository
