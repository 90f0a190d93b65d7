import DocumentRepository.Proofs.Repository.IndexesInForce

/-! # Where declared methods go

Registration decides from the declaration of a method whether an operation serves it, and a call decides from
its name, from the way it is made and from the tables where to go. They decide alike, so a method that was
registered is always served when it is called the way it is declared, and what nothing serves was not declared.
-/
namespace DocumentRepository

open Repository (Call Target)

namespace Repository

variable {r : Repository} {m : Method} {name : String} {op : Predefined} {asynchronous : Bool}

theorem target?_of_servedBy (hm : m.Held r.schema r.methods r.transforms) (h : m.ServedBy op) :
    r.target? m.name m.asynchronous = some (.predefined op) := by
  unfold target?
  rw [hm.transform]
  cases h with
  | named h =>
    have hop : Predefined.ofName? (m.transform.getD m.name) = some op := Predefined.ofName?_eq_some_iff.mpr h
    simp only [hop]
  | asynchronously hasync hown h =>
    have hop : Predefined.ofName? m.name = none := h ▸ Predefined.ofName?_asyncName op
    have hop' : Predefined.ofAsyncName? m.name = some op := Predefined.ofAsyncName?_eq_some_iff.mpr h
    simp only [hown, Option.getD_none, hop, hasync, Option.isNone_none, Bool.and_self, if_true, hop']

theorem target?_of_unserved {spec : MethodSpec} (hm : m.Held r.schema r.methods r.transforms) (h : ¬m.Served)
    (hspec : Table.find? m.name r.methods = some spec) : r.target? m.name m.asynchronous = some (.derived spec) := by
  have hop : Predefined.ofName? (m.transform.getD m.name) = none := by
    rw [Option.eq_none_iff_forall_ne_some]
    exact fun op hop => h ⟨op, .named (Predefined.ofName?_eq_some_iff.mp hop)⟩
  have hop' : (if m.asynchronous && m.transform.isNone then Predefined.ofAsyncName? m.name else none) = none := by
    split
    case isFalse => rfl
    case isTrue hplain =>
      obtain ⟨hasync, hown⟩ := (Bool.and_eq_true _ _).mp hplain
      rw [Option.eq_none_iff_forall_ne_some]
      intro op hop
      exact h ⟨op, .asynchronously hasync (Option.isNone_iff_eq_none.mp hown) (Predefined.ofAsyncName?_eq_some_iff.mp hop)⟩
  unfold target?
  rw [hm.transform]
  simp only [hop, hop', hspec, Option.map_some]

theorem target?_of_unknown (hmethods : Table.find? name r.methods = none)
    (htransforms : Table.find? name r.transforms = none) (hname : ∀ op : Predefined, name ≠ op.name)
    (hasync : asynchronous = true → ∀ op : Predefined, name ≠ op.asyncName) :
    r.target? name asynchronous = none := by
  have hop : Predefined.ofName? name = none := by
    rw [Option.eq_none_iff_forall_ne_some]
    exact fun op hop => hname op (Predefined.ofName?_eq_some_iff.mp hop)
  have hop' : (if asynchronous then Predefined.ofAsyncName? name else none) = none := by
    split
    case isFalse => rfl
    case isTrue h =>
      rw [Option.eq_none_iff_forall_ne_some]
      exact fun op hop => hasync h op (Predefined.ofAsyncName?_eq_some_iff.mp hop)
  unfold target?
  simp only [htransforms, Option.getD_none, hop, Option.isNone_none, Bool.and_true, hop', hmethods, Option.map_none]

section Run

variable {σ : Type} [DocumentStore σ] {args : List Argument} {s t : σ} {e : RepositoryError}

def Target.run (r : Repository) (method : String) (args : List Argument) : Target → Call σ Outcome
  | .predefined op => op.run r method args
  | .derived spec => r.runSpec spec args

theorem invoke_of_target {target : Target} (h : r.target? name asynchronous = some target) :
    (r.invoke name args asynchronous : Call σ Outcome) = target.run r name args := by
  unfold invoke
  rw [h]
  cases target <;> rfl

/-- A call that goes somewhere does not end with the error of one that goes nowhere. -/
theorem invoke_ofServed {target : Target} (htarget : r.target? name asynchronous = some target)
    (h : (r.invoke name args asynchronous : Call σ Outcome) s = (.error (.error e), t)) : e.OfServed := by
  rw [invoke_of_target htarget] at h
  cases target with
  | predefined op =>
    rcases Predefined.run_eq_error h with ⟨-, rfl⟩ | ⟨-, hfault⟩
    · exact fun _ _ => RepositoryError.noConfusion
    · exact hfault.ofServed
  | derived spec => exact atMostOne_runSpec.ofServed h

/-- A call of a declared method the way it is declared: one that is asynchronous runs on an executor. -/
def callDeclared (r : Repository) (executor : Executor) (m : Method) (args : List Argument) : Call σ Outcome :=
  if m.asynchronous then executor.await (r.invoke m.name args true) else r.invoke m.name args false

/-- A declared method, called the way it is declared, is a certain call, or waits for it as a task. A task that runs does
to the store what the call does and answers what it answers, with an error in the place of a panic. -/
structure Relays (r : Repository) (m : Method) (args : List Argument) (call : Call σ Outcome) : Prop where
  direct : m.asynchronous = false → ∀ executor, r.callDeclared executor m args = call
  awaited : m.asynchronous = true → ∀ executor, r.callDeclared executor m args = executor.await call
  store_eq : ∀ executor (u : σ), executor.runs = true → (r.callDeclared executor m args u).2 = (call u).2
  answer_eq : ∀ executor (u : σ), executor.runs = true → (∀ text, (call u).1 ≠ .error (.panic text)) →
    (r.callDeclared executor m args u).1 = (call u).1
  caught : m.asynchronous = true → ∀ executor (u : σ) text, executor.runs = true → (call u).1 = .error (.panic text) →
    (r.callDeclared executor m args u).1 = .error (.error (.async text))
  dropped : m.asynchronous = true → ∀ executor (u : σ), executor.runs = false →
    r.callDeclared executor m args u = (.error (.error Handle.dropped), u)

end Run

end Repository

namespace Executor

variable {σ α : Type} {executor : Executor} {call : Call σ α} {s t : σ} {e : RepositoryError}

theorem await_of_runs (h : executor.runs = true) (call : Call σ α) (s : σ) :
    executor.await call s = ((endOf (call s).1).result.mapError .error, (call s).2) := by
  unfold await
  rw [if_pos h]
  rfl

theorem await_of_drops (h : executor.runs = false) (call : Call σ α) (s : σ) :
    executor.await call s = (.error (.error Handle.dropped), s) := by
  unfold await
  rw [if_neg (by simp [h])]

theorem result_endOf {answer : Except (Failure RepositoryError) α} (h : ∀ text, answer ≠ .error (.panic text)) :
    (endOf answer).result.mapError .error = answer := by
  rcases answer with (e | text) | x
  · rfl
  · exact absurd rfl (h text)
  · rfl

/-- To wait for a call adds errors of its own only. -/
theorem await_eq_error (h : executor.await call s = (.error (.error e), t)) :
    call s = (.error (.error e), t) ∨ ∃ text, e = .async text := by
  cases hruns : executor.runs with
  | false =>
    rw [await_of_drops hruns] at h
    cases h
    exact .inr ⟨_, rfl⟩
  | true =>
    rw [await_of_runs hruns] at h
    rcases hend : call s with ⟨answer, u⟩
    rw [hend] at h
    rcases answer with (error | text) | x
    · cases h
      exact .inl rfl
    · cases h
      exact .inr ⟨_, rfl⟩
    · cases h

end Executor

namespace Repository

variable {σ : Type} [DocumentStore σ] {r : Repository} {m : Method} {args : List Argument} {call : Call σ Outcome}

theorem relays_of_invoke (h : r.invoke m.name args m.asynchronous = call) : r.Relays m args call := by
  have hdirect : m.asynchronous = false → ∀ executor, r.callDeclared executor m args = call := by
    intro hsync executor
    rw [callDeclared, if_neg (by simp [hsync]), ← h, hsync]
  have hawaited : m.asynchronous = true → ∀ executor, r.callDeclared executor m args = executor.await call := by
    intro hasync executor
    rw [callDeclared, if_pos hasync, ← h, hasync]
  refine ⟨hdirect, hawaited, ?_, ?_, ?_, ?_⟩
  · intro executor u hruns
    cases hasync : m.asynchronous with
    | false => rw [hdirect hasync]
    | true => rw [hawaited hasync, Executor.await_of_runs hruns]
  · intro executor u hruns hcalm
    cases hasync : m.asynchronous with
    | false => rw [hdirect hasync]
    | true => rw [hawaited hasync, Executor.await_of_runs hruns, Executor.result_endOf hcalm]
  · intro hasync executor u text hruns hpanic
    rw [hawaited hasync, Executor.await_of_runs hruns, hpanic]
    rfl
  · intro hasync executor u hdrops
    rw [hawaited hasync, Executor.await_of_drops hdrops]

theorem callDeclared_ofServed {target : Target} {executor : Executor} {s t : σ} {e : RepositoryError}
    (htarget : r.target? m.name m.asynchronous = some target)
    (h : (r.callDeclared executor m args : Call σ Outcome) s = (.error (.error e), t)) : e.OfServed := by
  unfold callDeclared at h
  split at h
  case isTrue hasync =>
    rw [hasync] at htarget
    rcases Executor.await_eq_error h with hcall | ⟨text, rfl⟩
    · exact invoke_ofServed htarget hcall
    · exact fun _ _ => RepositoryError.noConfusion
  case isFalse hsync =>
    rw [Bool.not_eq_true] at hsync
    rw [hsync] at htarget
    exact invoke_ofServed htarget h

end Repository

namespace Registry

variable {σ : Type} [DocumentStore σ] {g : Registry} {key : Nat} {d : Description}

/-- Registration reads exactly the methods that no operation serves, and it can be done if those can be read and no
name is declared twice. Then every declared method, called by its name or as a task the way it is declared, runs the
operation that serves it, or else what was read from its own name, and is never answered that nothing serves it. A name
that is neither declared nor that of an operation is answered so, and nothing is done to the store. -/
theorem calls_go_as_registered (hnew : g.lookup? key = none) :
    ((∃ r, validate d = .ok r) ↔ ∃ schema, d.entity.resolve = .ok schema ∧ (d.contract.methods.map Method.name).Nodup ∧
        ∀ m ∈ d.contract.methods, ¬m.Served → ∃ spec, MethodSpec.compile schema m = .ok spec) ∧
      ∀ g' p (s t : σ), g.obtain key (.ok d) s = (.ok (g', p), t) →
        (∀ m ∈ d.contract.methods,
          (∀ op, m.ServedBy op → Table.find? m.name p.repository.methods = none ∧
            ∀ args, (p.repository.invoke m.name args m.asynchronous : Call σ Outcome) = op.run p.repository m.name args ∧
              p.repository.Relays m args (op.run p.repository m.name args : Call σ Outcome)) ∧
          (¬m.Served → ∃ spec, MethodSpec.compile p.repository.schema m = .ok spec ∧
            Table.find? m.name p.repository.methods = some spec ∧
            ∀ args, (p.repository.invoke m.name args m.asynchronous : Call σ Outcome) = p.repository.runSpec spec args ∧
              p.repository.Relays m args (p.repository.runSpec spec args : Call σ Outcome)) ∧
          ∀ executor args (u : σ) method contract,
            (p.repository.callDeclared executor m args u).1 ≠ .error (.error (.unsupported method contract))) ∧
        ∀ name asynchronous, name ∉ d.contract.methods.map Method.name → (∀ op : Predefined, name ≠ op.name) →
          (asynchronous = true → ∀ op : Predefined, name ≠ op.asyncName) →
          ∀ args, (p.repository.invoke name args asynchronous : Call σ Outcome) =
            Action.fail (.unsupported name d.contract.name) := by
  constructor
  · rw [validate_eq_ok_iff]
    constructor
    · rintro ⟨schema, hentity, hsound⟩
      exact ⟨schema, hentity, hsound.names_nodup, hsound.readable⟩
    · rintro ⟨schema, hentity, hnodup, hreadable⟩
      exact ⟨schema, hentity, hnodup, hreadable⟩
  intro g' p s t hobtain
  obtain ⟨d', hd, hvalid, -⟩ := obtain_new_eq_ok hnew hobtain
  cases hd
  obtain ⟨hcontract, -, -, hheld, hnone⟩ := validate_eq_ok hvalid
  constructor
  · intro m hm
    have hm := hheld m hm
    have hserved : ∀ op, m.ServedBy op → p.repository.target? m.name m.asynchronous = some (.predefined op) :=
      fun op => Repository.target?_of_servedBy hm
    have hread : ¬m.Served → ∃ spec, MethodSpec.compile p.repository.schema m = .ok spec ∧
        Table.find? m.name p.repository.methods = some spec ∧
        p.repository.target? m.name m.asynchronous = some (.derived spec) := by
      intro hunserved
      obtain ⟨spec, hspec, hfound⟩ := hm.read hunserved
      exact ⟨spec, hspec, hfound, Repository.target?_of_unserved hm hunserved hfound⟩
    refine ⟨?_, ?_, ?_⟩
    · intro op hop
      refine ⟨hm.unread ⟨op, hop⟩, fun args => ?_⟩
      have hinvoke : (p.repository.invoke m.name args m.asynchronous : Call σ Outcome) = op.run p.repository m.name args :=
        Repository.invoke_of_target (hserved op hop)
      exact ⟨hinvoke, Repository.relays_of_invoke hinvoke⟩
    · intro hunserved
      obtain ⟨spec, hspec, hfound, htarget⟩ := hread hunserved
      refine ⟨spec, hspec, hfound, fun args => ?_⟩
      have hinvoke : (p.repository.invoke m.name args m.asynchronous : Call σ Outcome) = p.repository.runSpec spec args :=
        Repository.invoke_of_target htarget
      exact ⟨hinvoke, Repository.relays_of_invoke hinvoke⟩
    · obtain ⟨target, htarget⟩ : ∃ target, p.repository.target? m.name m.asynchronous = some target := by
        by_cases h : m.Served
        · obtain ⟨op, hop⟩ := h
          exact ⟨_, hserved op hop⟩
        · obtain ⟨spec, -, -, htarget⟩ := hread h
          exact ⟨_, htarget⟩
      intro executor args u method contract hunsupported
      exact Repository.callDeclared_ofServed htarget (Prod.ext hunsupported rfl) method contract rfl
  · intro name asynchronous hname hop hasync args
    obtain ⟨hmethods, htransforms⟩ := hnone name hname
    unfold Repository.invoke
    rw [Repository.target?_of_unknown hmethods htransforms hop hasync, hcontract]

section Example

def findAccounts : Method := ⟨"asyncFindAll", [], .entities "Account", true, none, [], none, none⟩

def loadAccounts : Method := ⟨"loadAll", [], .entities "Account", false, some "findAll", [], none, none⟩

def countByEmail : Method := ⟨"countByEmail", [.value .text], .integer, false, none, [], none, none⟩

def countByEmailSpec : MethodSpec where
  method := "countByEmail"
  effective := "countByEmail"
  operation := .count
  cardinality := .many
  chain := ⟨.and, [⟨"email", .text, .equals, false⟩]⟩
  sort := []
  limit := none
  skip := none
  trailing := none
  asynchronous := false

def describeReadable : Description := ⟨accountEntity, ⟨"Accounts", [findAccounts, loadAccounts, countByEmail]⟩⟩

def readable : Repository := ⟨"Accounts", accountSchema, [("countByEmail", countByEmailSpec)], [("loadAll", "findAll")]⟩

theorem obtain_readable :
    (new .standard none).obtain 0 (.ok describeReadable) Store.empty =
      (.ok ((new .standard none).publish 0 readable), accountStore) := rfl

/-- One operation serves two of the methods, each in a way of its own, and the third is read. -/
theorem calls_go_as_registered_accounts :
    (readable.invoke "asyncFindAll" [] true : Call Store Outcome) = Predefined.findAll.run readable "asyncFindAll" [] ∧
      (readable.callDeclared .thread findAccounts [] : Call Store Outcome) =
        Executor.thread.await (Predefined.findAll.run readable "asyncFindAll" []) ∧
      (readable.invoke "loadAll" [] false : Call Store Outcome) = Predefined.findAll.run readable "loadAll" [] ∧
      (∃ spec, MethodSpec.compile accountSchema countByEmail = .ok spec ∧
        (readable.invoke "countByEmail" [] false : Call Store Outcome) = readable.runSpec spec [] ∧
        (readable.callDeclared .thread countByEmail [] : Call Store Outcome) = readable.runSpec spec []) ∧
      (readable.callDeclared .inline findAccounts [] accountStore).1 ≠
        .error (.error (.unsupported "asyncFindAll" "Accounts")) ∧
      (readable.invoke "asyncLoadAll" [] true : Call Store Outcome) = Action.fail (.unsupported "asyncLoadAll" "Accounts") := by
  obtain ⟨hdeclared, hunknown⟩ := (calls_go_as_registered (g := new .standard none) rfl).2 _ _ _ _ obtain_readable
  obtain ⟨hfind, -, hanswered⟩ := hdeclared findAccounts (by decide)
  obtain ⟨hload, -⟩ := hdeclared loadAccounts (by decide)
  obtain ⟨-, hcount, -⟩ := hdeclared countByEmail (by decide)
  obtain ⟨hinvoke, hrelays⟩ := (hfind .findAll (.asynchronously rfl rfl (by decide +kernel))).2 []
  refine ⟨hinvoke, hrelays.awaited rfl .thread, ((hload .findAll (.named rfl)).2 []).1, ?_,
    hanswered .inline [] accountStore _ _, ?_⟩
  · have hunserved : ¬countByEmail.Served := by
      rw [← Method.serves_iff]
      decide +kernel
    obtain ⟨spec, hspec, -, hrun⟩ := hcount hunserved
    exact ⟨spec, hspec, (hrun []).1, (hrun []).2.direct rfl .thread⟩
  · refine hunknown "asyncLoadAll" true (by decide) ?_ ?_ []
    · intro op
      cases op <;> decide
    · intro _ op
      cases op <;> decide +kernel

end Example

end Registry

end DocumentRepository
