import DocumentRepository.Proofs.Repository.Prefixes
import DocumentRepository.Proofs.Repository.Routing

/-! # The first match

A method for one entity asks the store in its own way: for one document where nothing is to be skipped, and for a window
of one document where something is. Both give the document at the place where the window of the method begins, and that is
the head of the list a method for all entities gives with the same sort and window, as long as the window lets anything
through at all.
-/
namespace DocumentRepository

namespace Store

variable {options : FindOptions}

/-- A window that is not closed shows first what stands where the window begins. -/
theorem head?_find (hlimit : options.limit ≠ some 0) (s : Store) (name : String) (F : Filter) :
    (s.find name F options).head? = ((s.collection name).search F options.sort)[options.skip.getD 0]? := by
  rw [← List.head?_drop]
  unfold find
  cases hwindow : options.limit with
  | none => rfl
  | some limit =>
    have hopen : limit ≠ 0 := fun hzero => hlimit (hzero ▸ hwindow)
    simp only [List.head?_take, if_neg hopen]

theorem findOne_eq_head?_find (hskip : options.skip = none) (hlimit : options.limit ≠ some 0) (s : Store) (name : String)
    (F : Filter) : s.findOne name F options.sort = (s.find name F options).head? := by
  rw [head?_find hlimit, hskip, findOne, List.head?_eq_getElem?]
  rfl

/-- How wide a window is does not matter to its first document. -/
theorem head?_find_one (hlimit : options.limit ≠ some 0) (s : Store) (name : String) (F : Filter) :
    (s.find name F { options with limit := some 1 }).head? = (s.find name F options).head? := by
  have hone : { options with limit := some 1 }.limit ≠ some 0 := by simp
  rw [head?_find hlimit, head?_find hone]

end Store

/-- The specification that finds the list from which another one takes the first entity. -/
def MethodSpec.listing (spec : MethodSpec) : MethodSpec := { spec with cardinality := .many }

namespace Repository

variable {r : Repository} {spec : MethodSpec} {args : List Argument}

def searchOf (r : Repository) (spec : MethodSpec) (args : List Argument) : Except RepositoryError (Filter × FindOptions) :=
  if args.length ≠ spec.paramCount then .error (.parameterCount spec.method spec.paramCount args.length)
  else do
    let F ← spec.filter args
    return (F, ← r.findOptions spec args[spec.chain.arity]?)

/-- How many entities are wanted is not asked before the store is. -/
theorem searchOf_listing : r.searchOf spec.listing args = r.searchOf spec args := rfl

theorem findOptions_of_searchOf {F : Filter} {options : FindOptions} (h : r.searchOf spec args = .ok (F, options)) :
    r.findOptions spec args[spec.chain.arity]? = .ok options := by
  unfold searchOf at h
  split at h
  · cases h
  · obtain ⟨F', -, h⟩ := bind_eq_ok_iff.mp h
    obtain ⟨options', hoptions, h⟩ := bind_eq_ok_iff.mp h
    cases h
    exact hoptions

/-- A find makes out what to search for, and then either fails or asks the store. -/
theorem runSpec_of_find {σ : Type} [DocumentStore σ] (hfind : spec.operation = .find) :
    (r.runSpec spec args : Call σ Outcome) =
      Action.ofExcept (r.searchOf spec args) >>= fun search => r.runFind spec search.1 search.2 := by
  unfold runSpec searchOf
  split
  · rfl
  · cases spec.filter args with
    | error e => rfl
    | ok F =>
      simp only [hfind]
      cases r.findOptions spec args[spec.chain.arity]? <;> rfl

/-- With a skip or without one, the store is asked for the head of the list. -/
theorem runFind_first (hfirst : spec.cardinality = .first) {options : FindOptions} (hlimit : options.limit ≠ some 0)
    (F : Filter) (s : Store) :
    r.runFind spec F options s = (.ok (.entity (s.find r.schema.collection F options).head?), s) := by
  unfold runFind
  simp only [hfirst]
  split
  case isTrue hskip =>
    rw [← Store.findOne_eq_head?_find (Option.isNone_iff_eq_none.mp hskip) hlimit]
    rfl
  case isFalse =>
    rw [← Store.head?_find_one hlimit]
    rfl

/-- A call for the first match gives the head of the list that its specification finds when all are wanted, and fails just
when that fails. -/
theorem first_heads_list {call : NamedCall} (htarget : r.target? call.method call.asynchronous = some (.derived spec))
    (hfind : spec.operation = .find) (hfirst : spec.cardinality = .first)
    (hlimit : ∀ options, r.findOptions spec call.args[spec.chain.arity]? = .ok options → options.limit ≠ some 0)
    (s : Store) :
    (∃ found, r.runSpec spec.listing call.args s = (.ok (.entities found), s) ∧
        call.run r s = (.ok (.entity found.head?), s)) ∨
      ∃ e, r.runSpec spec.listing call.args s = (.error e, s) ∧ call.run r s = (.error e, s) := by
  have hrun : call.run r s = r.runSpec spec call.args s := by
    rw [NamedCall.run, invoke_of_target htarget]
    rfl
  have hlisting : spec.listing.operation = .find := hfind
  rw [hrun, runSpec_of_find hfind, runSpec_of_find hlisting, searchOf_listing]
  cases hsearch : r.searchOf spec call.args with
  | error e => exact .inr ⟨.error e, rfl, rfl⟩
  | ok search =>
    obtain ⟨F, options⟩ := search
    have hopen : options.limit ≠ some 0 := hlimit options (findOptions_of_searchOf hsearch)
    exact .inl ⟨s.find r.schema.collection F options, rfl, runFind_first hfirst hopen F s⟩

section Example

def firstSortedSpec : MethodSpec := { ordersOverSpec "findFirstBy" .find .first with trailing := some .sort }

def firstOrders : Repository := { orders with methods := [("findFirstByAmountGreaterThan", firstSortedSpec)] }

def secondGreatest : NamedCall :=
  ⟨"findFirstByAmountGreaterThan", [.value (.int 2), .sort ⟨[⟨"Amount", false⟩], some 5, some 1⟩], false⟩

theorem first_heads_list_orders :
    firstOrders.runSpec firstSortedSpec.listing secondGreatest.args threeOrders =
        (.ok (.entities [order 1 7, order 2 3]), threeOrders) ∧
      secondGreatest.run firstOrders threeOrders = (.ok (.entity (some (order 1 7))), threeOrders) := by
  have htarget : firstOrders.target? secondGreatest.method secondGreatest.asynchronous = some (.derived firstSortedSpec) := rfl
  have hlist : firstOrders.runSpec firstSortedSpec.listing secondGreatest.args threeOrders =
      (.ok (.entities [order 1 7, order 2 3]), threeOrders) := rfl
  have hlimit : ∀ options, firstOrders.findOptions firstSortedSpec secondGreatest.args[firstSortedSpec.chain.arity]? =
      .ok options → options.limit ≠ some 0 := by
    intro options hoptions
    cases hoptions
    decide
  refine ⟨hlist, ?_⟩
  rcases first_heads_list htarget rfl rfl hlimit threeOrders with ⟨found, hfound, hfirst⟩ | ⟨e, hfails, -⟩
  · cases hlist.symm.trans hfound
    exact hfirst
  · cases hlist.symm.trans hfails

/-- A window that lets nothing through does not hide the first match, which is asked for by itself. -/
example : firstOrders.runSpec firstSortedSpec [.value (.int 8), .sort ⟨[], some 0, none⟩] threeOrders =
    (.ok (.entity (some (order 3 9))), threeOrders) := rfl

end Example

end Repository

end DocumentRepository
