import DocumentRepository.Proofs.Repository.Prefixes
import DocumentRepository.Proofs.Repository.Routing
import DocumentRepository.Proofs.Store.Search

/-! # Pages

The pages of a size cut what a search gives without a window into pieces one behind the other. How much a page skips
does not grow beyond the greatest size, but no list is longer than that, so the pages behind the last are empty
however far behind they are.
-/
namespace DocumentRepository

namespace Pagination

def window (q : Pagination) (found : List Document) : List Document := (found.drop q.skip).take q.limit

variable {q : Pagination} {found : List Document}

end Pagination

namespace MethodSpec

variable {schema : Schema} {m : Method} {spec : MethodSpec} {part : String}

end MethodSpec

namespace Repository

variable {r : Repository} {m : Method} {spec : MethodSpec} {args : List Argument} {part : String}

section Example

end Example

end Repository

end DocumentRepository
