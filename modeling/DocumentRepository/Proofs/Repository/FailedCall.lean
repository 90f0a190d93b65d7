import DocumentRepository.Proofs.Repository.IndexesInForce

/-! # Calls that fail

A call that does one operation fails before it or by it, and an operation that fails changes nothing. The call
that saves several documents stops at the first that cannot be saved and keeps those before it.
-/
namespace DocumentRepository

namespace Repository

variable {r : Repository} {ds : List Document} {acknowledged : Bool} {s t : Store} {f : Failure RepositoryError}

/-- Documents are saved one after another, none of them with an error. -/
inductive Saves (r : Repository) : List Document → Store → Store → Prop where
  | nil (s : Store) : Saves r [] s s
  | cons {d : Document} {rest : List Document} {s t u : Store} {acknowledged : Bool}
      (hfirst : (r.save d : Call Store Bool) s = (.ok acknowledged, t)) (hrest : Saves r rest t u) : Saves r (d :: rest) s u

theorem save_eq_error {d : Document} (h : (r.save d : Call Store Bool) s = (.error f, t)) : t = s :=
  (atMostOne_save (fun _ => id) d).eq_of_error h

/-- The first document that cannot be saved ends the call. -/
theorem saveEach_eq_error (h : (Predefined.saveEach r ds acknowledged : Call Store Bool) s = (.error f, t)) :
    ∃ (k : Nat) (hk : k < ds.length), Saves r (ds.take k) s t ∧ (r.save ds[k] : Call Store Bool) t = (.error f, t) := by
  induction ds generalizing acknowledged s with
  | nil => cases h
  | cons d rest ih =>
    rcases Action.bind_eq_error_iff.mp h with hfirst | ⟨saved, u, hfirst, hrest⟩
    · obtain rfl : t = s := save_eq_error hfirst
      exact ⟨0, Nat.succ_pos _, .nil t, hfirst⟩
    · obtain ⟨k, hk, hsaves, hlast⟩ := ih hrest
      exact ⟨k + 1, Nat.succ_lt_succ hk, .cons hfirst hsaves, hlast⟩

theorem run_saveAll (method : String) (arg : Argument) :
    (Predefined.saveAll.run r method [arg] : Call Store Outcome) =
      Action.ofExcept (Predefined.entitiesArg method (some arg)) >>= fun ds =>
        Predefined.saveEach r ds true >>= fun acknowledged => pure (.bool acknowledged) := rfl

theorem saveAll_eq_error {method : String} {args : List Argument}
    (h : (Predefined.saveAll.run r method args : Call Store Outcome) s = (.error f, t)) :
    (∀ ds, args ≠ [.entities ds]) ∧ t = s ∨
      ∃ ds, args = [.entities ds] ∧
        ∃ (k : Nat) (hk : k < ds.length), Saves r (ds.take k) s t ∧ (r.save ds[k] : Call Store Bool) t = (.error f, t) := by
  by_cases hlength : args.length = 1
  · obtain ⟨arg, rfl⟩ : ∃ arg, args = [arg] := List.length_eq_one_iff.mp hlength
    rw [run_saveAll] at h
    rcases Action.bind_eq_error_iff.mp h with h | ⟨ds, u, hread, h⟩
    · obtain ⟨e, he, -, rfl⟩ := Action.ofExcept_eq_error_iff.mp h
      refine Or.inl ⟨?_, rfl⟩
      intro ds hargs
      cases hargs
      cases he
    · obtain ⟨hds, rfl⟩ := Action.ofExcept_eq_ok_iff.mp hread
      cases Predefined.entitiesArg_eq_ok hds
      exact Or.inr ⟨ds, rfl, saveEach_eq_error (Action.map_eq_error_iff.mp h)⟩
  · have harity : args.length ≠ Predefined.saveAll.arity := hlength
    unfold Predefined.run at h
    rw [if_pos harity] at h
    cases h
    exact Or.inl ⟨fun ds hargs => hlength (by rw [hargs]; rfl), rfl⟩

end Repository

namespace NamedCall

variable {r : Repository} {call : NamedCall} {s t : Store} {f : Failure RepositoryError}

/-- A call that fails leaves the store as it was, every collection with its documents, their order and its indexes,
unless it saves several documents. That call either fails on its arguments, and then leaves the store as it was too,
or there is a document that cannot be saved after those before it have been, and the store is as they left it. -/
theorem failed_calls_leave_store (h : call.run r s = (.error f, t)) :
    (r.target? call.method call.asynchronous ≠ some (.predefined .saveAll) → t = s) ∧
      (r.target? call.method call.asynchronous = some (.predefined .saveAll) →
        (∀ ds, call.args ≠ [.entities ds]) ∧ t = s ∨
          ∃ ds, call.args = [.entities ds] ∧ ∃ (k : Nat) (hk : k < ds.length),
            r.Saves (ds.take k) s t ∧ (r.save ds[k] : Repository.Call Store Bool) t = (.error f, t)) := by
  unfold run at h
  cases htarget : r.target? call.method call.asynchronous with
  | none =>
    simp only [Repository.invoke, htarget] at h
    cases h
    exact ⟨fun _ => rfl, fun hsave => by cases hsave⟩
  | some target =>
    constructor
    · intro hsave
      exact (Repository.atMostOne_invoke htarget fun htarget => hsave (congrArg some htarget)).eq_of_error h
    · intro hsave
      cases hsave
      simp only [Repository.invoke, htarget] at h
      exact Repository.saveAll_eq_error h

section Example

open Registry (accounts accountStore saveAccount)

def takenAddress : List Document :=
  [⟨[("email", .text "a"), ("id", .int 1)]⟩, ⟨[("email", .text "a"), ("id", .int 2)]⟩,
    ⟨[("email", .text "b"), ("id", .int 3)]⟩]

def saveTaken : NamedCall := ⟨"saveAll", [.entities takenAddress], false⟩

/-- Of three accounts, the second of which has a taken address, the first is kept. Alone the second changes nothing. -/
theorem failed_calls_leave_store_accounts :
    (saveTaken.run accounts accountStore).1 = .error (.error (.store (.duplicateKey "accounts" "email_1"))) ∧
      (∃ k, ∃ hk : k < takenAddress.length,
        accounts.Saves (takenAddress.take k) accountStore (saveTaken.run accounts accountStore).2 ∧
          (accounts.save takenAddress[k] : Repository.Call Store Bool) (saveTaken.run accounts accountStore).2 =
            (.error (.error (.store (.duplicateKey "accounts" "email_1"))), (saveTaken.run accounts accountStore).2)) ∧
      (saveTaken.run accounts accountStore).2.documents "accounts" = takenAddress.take 1 ∧
      ((saveAccount 2 "a").run accounts (saveTaken.run accounts accountStore).2).2 = (saveTaken.run accounts accountStore).2 := by
  have hfailed : saveTaken.run accounts accountStore =
      (.error (.error (.store (.duplicateKey "accounts" "email_1"))), (saveTaken.run accounts accountStore).2) := rfl
  have hsecond : (saveAccount 2 "a").run accounts (saveTaken.run accounts accountStore).2 =
      (.error (.error (.store (.duplicateKey "accounts" "email_1"))),
        ((saveAccount 2 "a").run accounts (saveTaken.run accounts accountStore).2).2) := rfl
  refine ⟨rfl, ?_, rfl, (failed_calls_leave_store hsecond).1 ?_⟩
  · rcases (failed_calls_leave_store hfailed).2 rfl with ⟨hargs, -⟩ | ⟨ds, hargs, hstopped⟩
    · exact absurd rfl (hargs takenAddress)
    · cases hargs
      exact hstopped
  · intro htarget
    cases htarget

end Example

end NamedCall

end DocumentRepository
