import DocumentRepository.Proofs.Repository.IndexesInForce

/-! # Repositories are built once

A session is a registry over one watched store. Contracts are obtained and methods of repositories called, in any
order. A contract that is not yet published is either found unsound, and then nothing is done at all, or its
collection is prepared and it is published; from then on it is handed out and nothing else happens.
-/
namespace DocumentRepository

open Registry (preparations indexesLeft)

namespace Registry

theorem lookup?_publish (g : Registry) (key other : Nat) (r : Repository) :
    (g.publish key r).1.lookup? other = if other = key then some ⟨g.built, r⟩ else g.lookup? other := by
  simp only [publish, lookup?, List.lookup_cons]
  by_cases h : other = key
  · simp [h]
  · simp [h, beq_false_of_ne h]

end Registry

inductive Event where
  | obtain (key : Nat) (describe : Except String Description)
  | call (key : Nat) (call : NamedCall)

structure Session where
  registry : Registry
  store : WatchedStore

namespace Session

def obtain (x : Session) (key : Nat) (describe : Except String Description) :
    Except (Failure RepositoryError) Published × Session :=
  match x.registry.obtain key describe x.store with
  | (.ok (g, p), w) => (.ok p, ⟨g, w⟩)
  | (.error e, w) => (.error e, ⟨x.registry, w⟩)

/-- Calls a method of a repository. An asynchronous call runs on the executor of the registry. -/
def call (x : Session) (r : Repository) (c : NamedCall) : Except (Failure RepositoryError) Outcome × WatchedStore :=
  let run : Repository.Call WatchedStore Outcome := r.invoke c.method c.args c.asynchronous
  (if c.asynchronous then x.registry.executor.await run else run) x.store

def step (x : Session) : Event → Session
  | .obtain key describe => (x.obtain key describe).2
  | .call key c =>
    match x.registry.lookup? key with
    | none => x
    | some p => { x with store := (x.call p.repository c).2 }

def run (x : Session) (events : List Event) : Session := events.foldl step x

def answers (x : Session) (key : Nat) : List Event → List (Except (Failure RepositoryError) Published)
  | [] => []
  | .obtain other describe :: rest =>
    let later := answers (x.step (.obtain other describe)) key rest
    if other = key then (x.obtain key describe).1 :: later else later
  | .call other c :: rest => answers (x.step (.call other c)) key rest

structure Publishes (x : Session) (key : Nat) (d : Description) (p : Published) (y : Session) : Prop where
  repository : Registry.validate d = .ok p.repository
  lookup : ∀ other, y.registry.lookup? other = if other = key then some p else x.registry.lookup? other
  calls : y.store.calls = x.store.calls ++ preparations x.registry.config.createIndexes p.repository.schema
  store : y.store.store = StoreCall.performAll (preparations x.registry.config.createIndexes p.repository.schema) x.store.store

variable {x : Session} {key other : Nat} {describe : Except String Description} {d : Description} {p : Published}
  {events : List Event}

section Obtain

variable (hnew : x.registry.lookup? key = none)

theorem obtain_published (h : x.registry.lookup? key = some p) (describe : Except String Description) :
    x.obtain key describe = (.ok p, x) := by
  unfold obtain
  rw [Registry.obtain_published h]
  rfl

include hnew

theorem obtain_panic (text : String) : x.obtain key (.error text) = (.error (.panic text), x) := by
  unfold obtain
  simp only [Registry.obtain, hnew]
  rfl

theorem obtain_faulty {cause : ValidationError} (h : Registry.validate d = .error cause) :
    x.obtain key (.ok d) = (.error (.error (.registration d.contract.name cause)), x) := by
  unfold obtain
  rw [Registry.obtain_faulty hnew h]
  rfl

theorem obtain_sound (hfaults : x.store.faults = []) {r : Repository} (h : Registry.validate d = .ok r) :
    ∃ p y, x.obtain key (.ok d) = (.ok p, y) ∧ x.Publishes key d p y ∧ y.store.faults = [] ∧
      y.registry.config = x.registry.config := by
  have hobtain : x.obtain key (.ok d) = (.ok ⟨x.registry.built, r⟩, ⟨(x.registry.publish key r).1,
      StoreCall.performAll (preparations x.registry.config.createIndexes r.schema) x.store⟩) := by
    unfold obtain
    rw [Registry.obtain_sound hnew h, Action.bind_apply, Registry.prepare_watched _ _ hfaults]
    rfl
  have hwatched := StoreCall.performAll_watched hfaults (preparations x.registry.config.createIndexes r.schema)
  refine ⟨_, _, hobtain, ⟨h, fun other => x.registry.lookup?_publish key other r, ?_, ?_⟩, ?_, rfl⟩
  · exact congrArg WatchedStore.calls hwatched
  · exact congrArg WatchedStore.store hwatched
  · exact congrArg WatchedStore.faults hwatched

end Obtain

/-- A request finds the contract published, or it ends with an error and changes nothing, or it publishes it. -/
theorem obtain_cases (hfaults : x.store.faults = []) (key : Nat) (describe : Except String Description) :
    (∃ p, x.registry.lookup? key = some p ∧ x.obtain key describe = (.ok p, x)) ∨
      x.registry.lookup? key = none ∧ ((∃ e, x.obtain key describe = (.error e, x)) ∨
        ∃ d p y, x.obtain key describe = (.ok p, y) ∧ x.Publishes key d p y ∧ y.store.faults = [] ∧
          y.registry.config = x.registry.config) := by
  cases hlookup : x.registry.lookup? key with
  | some p => exact Or.inl ⟨p, rfl, obtain_published hlookup describe⟩
  | none =>
    refine Or.inr ⟨rfl, ?_⟩
    cases describe with
    | error text => exact Or.inl ⟨_, obtain_panic hlookup text⟩
    | ok d =>
      cases hvalid : Registry.validate d with
      | error cause => exact Or.inl ⟨_, obtain_faulty hlookup hvalid⟩
      | ok r => exact Or.inr ⟨d, obtain_sound hlookup hfaults hvalid⟩

/-- A contract is published after a request for it just if the request ended well. -/
theorem lookup?_obtain (hfaults : x.store.faults = []) :
    (x.obtain key describe).2.registry.lookup? key = some p ↔ (x.obtain key describe).1 = .ok p := by
  rcases obtain_cases hfaults key describe with ⟨p', hlookup, h⟩ | ⟨hlookup, ⟨e, h⟩ | ⟨d, p', y, h, hpublishes, -⟩⟩
  · simp [h, hlookup]
  · simp [h, hlookup]
  · simp [h, hpublishes.lookup]

theorem lookup?_obtain_of_ne (hfaults : x.store.faults = []) (hne : key ≠ other) :
    (x.obtain other describe).2.registry.lookup? key = x.registry.lookup? key := by
  rcases obtain_cases hfaults other describe with ⟨p', -, h⟩ | ⟨-, ⟨e, h⟩ | ⟨d, p', y, h, hpublishes, -⟩⟩
  · rw [h]
  · rw [h]
  · rw [h, hpublishes.lookup, if_neg hne]

/-- A call leaves a store that is not told to fail so. -/
theorem faults_call (hfaults : x.store.faults = []) (r : Repository) (c : NamedCall) : (x.call r c).2.faults = [] := by
  have hrun : ((r.invoke c.method c.args c.asynchronous : Repository.Call WatchedStore Outcome) x.store).2.faults = [] := by
    obtain ⟨ops, -, hops⟩ := Repository.performs_invoke r c.method c.args c.asynchronous x.store
    rw [hops, StoreCall.performAll_watched hfaults]
  unfold call
  split
  · unfold Executor.await
    split
    · exact hrun
    · exact hfaults
  · exact hrun

theorem step_call (x : Session) (key : Nat) (c : NamedCall) :
    x.step (.call key c) = x ∨ ∃ r, x.step (.call key c) = { x with store := (x.call r c).2 } := by
  cases h : x.registry.lookup? key with
  | none => exact Or.inl (by simp only [step, h])
  | some p => exact Or.inr ⟨p.repository, by simp only [step, h]⟩

theorem step_kept (hfaults : x.store.faults = []) (e : Event) :
    (x.step e).store.faults = [] ∧ (x.step e).registry.config = x.registry.config := by
  cases e with
  | obtain key describe =>
    change (x.obtain key describe).2.store.faults = [] ∧ _
    rcases obtain_cases hfaults key describe with ⟨p', -, h⟩ | ⟨-, ⟨e, h⟩ | ⟨d, p', y, h, -, hkept⟩⟩
    · exact ⟨h ▸ hfaults, by rw [step, h]⟩
    · exact ⟨h ▸ hfaults, by rw [step, h]⟩
    · exact ⟨h ▸ hkept.1, by rw [step, h, hkept.2]⟩
  | call key c =>
    rcases x.step_call key c with h | ⟨r, h⟩
    · rw [h]
      exact ⟨hfaults, rfl⟩
    · rw [h]
      exact ⟨faults_call hfaults r c, rfl⟩

theorem run_kept (hfaults : x.store.faults = []) (events : List Event) :
    (x.run events).store.faults = [] ∧ (x.run events).registry.config = x.registry.config := by
  induction events generalizing x with
  | nil => exact ⟨hfaults, rfl⟩
  | cons e rest ih =>
    obtain ⟨hfaults', hconfig⟩ := step_kept hfaults e
    obtain ⟨hlast, hconfig'⟩ := ih hfaults'
    exact ⟨hlast, hconfig'.trans hconfig⟩

/-- A contract is published just if it was before or a request for it has ended well. -/
theorem lookup?_run (hfaults : x.store.faults = []) :
    (x.run events).registry.lookup? key = some p ↔ x.registry.lookup? key = some p ∨ .ok p ∈ x.answers key events := by
  induction events generalizing x with
  | nil => simp [run, answers]
  | cons e rest ih =>
    have hrest := ih (step_kept hfaults e).1
    change ((x.step e).run rest).registry.lookup? key = some p ↔ _
    rw [hrest]
    cases e with
    | obtain other describe =>
      by_cases hkey : other = key
      · subst hkey
        have hanswer : x.registry.lookup? other = some p → .ok p = (x.obtain other describe).1 := by
          intro h
          rw [obtain_published h]
        rw [step, lookup?_obtain hfaults, answers, if_pos rfl, List.mem_cons, eq_comm, ← or_assoc, or_iff_right_of_imp hanswer]
        rfl
      · rw [step, lookup?_obtain_of_ne hfaults (Ne.symm hkey), answers, if_neg hkey]
        rfl
    | call other c =>
      have hregistry : (x.step (.call other c)).registry = x.registry := by
        rcases x.step_call other c with h | ⟨r, h⟩ <;> rw [h]
      rw [hregistry, answers]

/-- The indexes of a contract that is published are those that its drops left, then the new ones of its schema. -/
theorem Publishes.indexes_eq {y : Session} (h : x.Publishes key d p y) (hcreate : x.registry.config.createIndexes = true) :
    y.store.store.indexes p.repository.schema.collection =
      indexesLeft p.repository.schema x.store.store ++
        (p.repository.schema.indexes.filter fun i => i ∉ indexesLeft p.repository.schema x.store.store).eraseDups := by
  rw [Store.indexes, h.store, Registry.collection_preparations, if_pos hcreate]

/-- At any point of a session a contract is published just if a request for it has ended well. Then a request for it is
answered with the same repository and changes nothing. Before that, a request for a contract that is unsound changes
nothing and is answered with what is wrong with the contract; a request for a sound one prepares the collection, by
exactly the operations for that, and publishes it. After that the collection has the indexes that the drops left,
followed by the new ones of the schema, each once and in their order, if the settings ask for indexes. -/
theorem contracts_published_once (hempty : x.registry.published = []) (hfaults : x.store.faults = []) (events : List Event)
    (key : Nat) :
    (x.run events).registry.config = x.registry.config ∧
      (∀ p, (x.run events).registry.lookup? key = some p ↔ .ok p ∈ x.answers key events) ∧
      (∀ p, .ok p ∈ x.answers key events → ∀ describe, (x.run events).obtain key describe = (.ok p, x.run events)) ∧
      ((∀ p, .ok p ∉ x.answers key events) →
        (∀ text, (x.run events).obtain key (.error text) = (.error (.panic text), x.run events)) ∧
        ∀ d : Description,
          (∀ cause, d.Fault cause → (x.run events).obtain key (.ok d) =
            (.error (.error (.registration d.contract.name cause)), x.run events)) ∧
          ((∀ cause, ¬d.Fault cause) →
            ∃ p y, (x.run events).obtain key (.ok d) = (.ok p, y) ∧ (x.run events).Publishes key d p y ∧
              (x.registry.config.createIndexes = true →
                y.store.store.indexes p.repository.schema.collection =
                  indexesLeft p.repository.schema (x.run events).store.store ++
                    (p.repository.schema.indexes.filter fun i =>
                      i ∉ indexesLeft p.repository.schema (x.run events).store.store).eraseDups))) := by
  obtain ⟨hfaults', hconfig⟩ := run_kept hfaults events
  have hnone : x.registry.lookup? key = none := by rw [Registry.lookup?, hempty, List.lookup_nil]
  have hpublished : ∀ p, (x.run events).registry.lookup? key = some p ↔ .ok p ∈ x.answers key events := by
    intro p
    rw [lookup?_run hfaults, hnone]
    simp
  refine ⟨hconfig, hpublished, fun p hp => obtain_published ((hpublished p).mpr hp), ?_⟩
  intro hanswers
  have hnew : (x.run events).registry.lookup? key = none := by
    rw [Option.eq_none_iff_forall_ne_some]
    exact fun p hp => hanswers p ((hpublished p).mp hp)
  refine ⟨obtain_panic hnew, fun d => ⟨?_, ?_⟩⟩
  · exact fun cause hcause => obtain_faulty hnew (Registry.validate_eq_error_iff.mpr hcause)
  intro hsound
  obtain ⟨r, hvalid⟩ : ∃ r, Registry.validate d = .ok r := by
    cases hvalid : Registry.validate d with
    | ok r => exact ⟨r, rfl⟩
    | error cause => exact absurd (Registry.validate_eq_error_iff.mp hvalid) (hsound cause)
  obtain ⟨p, y, h, hpublishes, -⟩ := obtain_sound hnew hfaults' hvalid
  exact ⟨p, y, h, hpublishes, fun hcreate => hpublishes.indexes_eq (hconfig ▸ hcreate)⟩

section Example

open Registry (accounts accountSchema describeAccounts saveAccount)

def describeUnreadable : Description :=
  ⟨Registry.accountEntity, ⟨"Accounts", [⟨"frobnicate", [], .bool, false, none, [], none, none⟩]⟩⟩

def fresh : Session := ⟨Registry.new .standard none, WatchedStore.empty⟩

def accountEvents : List Event :=
  [.obtain 0 (.ok describeUnreadable), .obtain 0 (.ok describeAccounts), .call 0 (saveAccount 1 "a")]

theorem contracts_published_once_accounts :
    fresh.answers 0 accountEvents =
        [.error (.error (.registration "Accounts" (.name (.noOperation "frobnicate")))), .ok ⟨0, accounts⟩] ∧
      (fresh.run accountEvents).registry.lookup? 0 = some ⟨0, accounts⟩ ∧
      (fresh.run accountEvents).obtain 0 (.ok describeUnreadable) = (.ok ⟨0, accounts⟩, fresh.run accountEvents) ∧
      (∃ p y, (fresh.run accountEvents).obtain 1 (.ok describeAccounts) = (.ok p, y) ∧
        y.store.store.indexes "accounts" = accountSchema.indexes) := by
  have hanswers : fresh.answers 0 accountEvents =
      [.error (.error (.registration "Accounts" (.name (.noOperation "frobnicate")))), .ok ⟨0, accounts⟩] := rfl
  obtain ⟨-, hpublished, hagain, -⟩ := contracts_published_once (x := fresh) rfl rfl accountEvents 0
  obtain ⟨-, -, -, hfirst⟩ := contracts_published_once (x := fresh) rfl rfl accountEvents 1
  have hanswered : .ok ⟨0, accounts⟩ ∈ fresh.answers 0 accountEvents := by
    rw [hanswers]
    simp
  refine ⟨hanswers, (hpublished _).mpr hanswered, hagain _ hanswered _, ?_⟩
  have hsound : ∀ cause, ¬describeAccounts.Fault cause := by
    intro cause hfault
    cases (Registry.validate_eq_error_iff.mpr hfault).symm.trans (rfl : Registry.validate describeAccounts = .ok accounts)
  have hnone : fresh.answers 1 accountEvents = [] := rfl
  obtain ⟨p, y, h, hpublishes, hindexes⟩ := ((hfirst (by simp [hnone])).2 _).2 hsound
  have hrepository : p.repository = accounts := Except.ok.inj (hpublishes.repository.symm.trans rfl)
  refine ⟨p, y, h, ?_⟩
  have hlist := hindexes rfl
  rw [hrepository] at hlist
  exact hlist

/-- The second of two contracts over one collection finds the indexes there already, and they are not doubled. -/
theorem indexes_not_doubled :
    ¬∀ (x : Session) (events : List Event) (key : Nat) (d : Description) (p : Published) (y : Session),
      x.registry.published = [] → x.store.faults = [] → x.registry.config.createIndexes = true →
        (x.run events).registry.lookup? key = none → (x.run events).obtain key (.ok d) = (.ok p, y) →
          y.store.store.indexes p.repository.schema.collection =
            indexesLeft p.repository.schema (x.run events).store.store ++ p.repository.schema.indexes := by
  intro h
  have hdoubled := h fresh accountEvents 1 describeAccounts _ _ rfl rfl rfl rfl rfl
  revert hdoubled
  decide +kernel

end Example

end Session

end DocumentRepository
