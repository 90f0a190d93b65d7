import DocumentRepository.Proofs.Repository.Gate

/-! # One build for every contract

However the steps of requests come, a contract is published once at most, no request builds it after that, and every
request that ends well is answered with what was published. A build that finds the contract unsound does nothing to the
store; its gate is released, and the next request that takes it builds. So a store that is not told to fail is prepared
once at most for every contract.
-/
namespace DocumentRepository

open Registry (preparations)

namespace Requests

section Publishing

variable {σ : Type} {s : Requests σ} {i key gate : Nat} {q : Request} {p : Published}

def publishes (s : Requests σ) (key i : Nat) : List Published :=
  match s.requests[i]? with
  | some ⟨other, .publish _ r⟩ => if other = key then [(s.registry.publish key r).2] else []
  | _ => []

theorem publishes_of_publish {other : Nat} {r : Repository} (hq : s.requests[i]? = some ⟨other, .publish gate r⟩) :
    s.publishes key i = if other = key then [(s.registry.publish key r).2] else [] := by
  unfold publishes
  rw [hq]

theorem publishes_eq_nil (hq : s.requests[i]? = some q) (h : ∀ gate r, q.stage ≠ .publish gate r) :
    s.publishes key i = [] := by
  obtain ⟨other, stage⟩ := q
  unfold publishes
  rw [hq]
  cases stage with
  | publish gate r => exact absurd rfl (h gate r)
  | _ => rfl

variable [DocumentStore σ]

def publications (s : Requests σ) (key : Nat) : Schedule → List Published
  | [] => []
  | turn :: rest => s.publishes key turn.1 ++ publications (s.step turn.1 turn.2) key rest

theorem step_publish {other : Nat} {r : Repository} (hq : s.requests[i]? = some ⟨other, .publish gate r⟩)
    (describe : Except String Description) : (s.step i describe).registry = (s.registry.publish other r).1 := by
  simp only [step, hq]

theorem registry_step (hq : s.requests[i]? = some q) (h : ∀ gate r, q.stage ≠ .publish gate r)
    (describe : Except String Description) : (s.step i describe).registry = s.registry := by
  have hturn := turn_step hq describe
  generalize s.step i describe = t at hturn ⊢
  cases hturn with
  | publishes hstage => exact absurd hstage (h _ _)
  | _ => rfl

theorem lookup?_step (h : s.Orderly) (key i : Nat) (describe : Except String Description) :
    ((s.step i describe).registry.lookup? key).toList = (s.registry.lookup? key).toList ++ s.publishes key i := by
  cases hq : s.requests[i]? with
  | none => simp [step_of_none hq, publishes, hq]
  | some q =>
    by_cases hstage : ∃ gate r, q.stage = .publish gate r
    · obtain ⟨gate, r, hstage⟩ := hstage
      obtain ⟨other, stage⟩ := q
      cases hstage
      have hnone := (h.sound hq).unpublished (.publish gate r)
      rw [step_publish hq, publishes_of_publish hq, Registry.lookup?_publish]
      by_cases hkey : other = key
      · subst hkey
        rw [if_pos rfl, if_pos rfl, hnone]
        rfl
      · rw [if_neg hkey, if_neg (Ne.symm hkey), List.append_nil]
    · have hnot : ∀ gate r, q.stage ≠ .publish gate r := fun gate r hstage' => hstage ⟨gate, r, hstage'⟩
      rw [registry_step hq hnot, publishes_eq_nil hq hnot, List.append_nil]

/-- What is found under a key after a run was found before it or is published in it, and that once. -/
theorem lookup?_run (h : s.Orderly) (key : Nat) (schedule : Schedule) :
    ((s.run schedule).registry.lookup? key).toList = (s.registry.lookup? key).toList ++ s.publications key schedule := by
  induction schedule generalizing s with
  | nil => rw [publications, List.append_nil]; rfl
  | cons turn rest ih =>
    calc ((s.run (turn :: rest)).registry.lookup? key).toList
      _ = ((s.step turn.1 turn.2).registry.lookup? key).toList ++ (s.step turn.1 turn.2).publications key rest :=
        ih (h.step turn.1 turn.2)
      _ = (s.registry.lookup? key).toList ++ s.publications key (turn :: rest) := by
        rw [lookup?_step h, publications, List.append_assoc]

theorem lookup?_run_of_some (h : s.Orderly) (hp : s.registry.lookup? key = some p) (schedule : Schedule) :
    (s.run schedule).registry.lookup? key = some p := by
  have hlookup := lookup?_run h key schedule
  rw [hp] at hlookup
  cases hlast : (s.run schedule).registry.lookup? key with
  | none => rw [hlast] at hlookup; cases hlookup
  | some p' =>
    rw [hlast] at hlookup
    rw [(List.cons.inj hlookup).1]

end Publishing

section Failing

variable {σ : Type} [DocumentStore σ] {s : Requests σ} {i j key gate : Nat} {q : Request}
  {describe : Except String Description} {e : Failure RepositoryError} {schedule : Schedule}

/-- A contract that panics when it is asked what it declares, or declares something unsound. -/
inductive Refused : Except String Description → Failure RepositoryError → Prop where
  | panics (text : String) : Refused (.error text) (.panic text)
  | faulty (d : Description) {cause : ValidationError} (h : d.Fault cause) :
    Refused (.ok d) (.error (.registration d.contract.name cause))

theorem Refused.buildDescribed (h : Refused describe e) (g : Registry) (store : σ) :
    g.buildDescribed describe store = (.error e, store) := by
  cases h with
  | panics text => rfl
  | faulty d h =>
    simp only [Registry.buildDescribed, Registry.build, Registry.validate_eq_error_iff.mpr h]
    rfl

theorem step_refused (hq : s.requests[i]? = some ⟨key, .build gate⟩) (h : Refused describe e) :
    s.step i describe = s.advance i ⟨key, .build gate⟩ (.release gate (.error e)) := by
  simp only [step, hq, h.buildDescribed]
  rfl

theorem getElem?_run_of_notMem (h : ∀ turn ∈ schedule, turn.1 ≠ i) (s : Requests σ) :
    (s.run schedule).requests[i]? = s.requests[i]? := by
  induction schedule generalizing s with
  | nil => rfl
  | cons turn rest ih =>
    obtain ⟨hturn, hrest⟩ := List.forall_mem_cons.mp h
    exact (ih hrest (s.step turn.1 turn.2)).trans (getElem?_step_of_ne (Ne.symm hturn) s turn.2)

/-- While a request holds the gate of a contract, no other request publishes the contract. -/
theorem lookup?_run_of_holds (h : s.Orderly) (hq : s.requests[i]? = some q) (hgate : q.stage.holds? = some gate)
    (hschedule : ∀ turn ∈ schedule, turn.1 ≠ i) :
    (s.run schedule).registry.lookup? q.key = s.registry.lookup? q.key := by
  induction schedule generalizing s with
  | nil => rfl
  | cons turn rest ih =>
    obtain ⟨hturn, hrest⟩ := List.forall_mem_cons.mp hschedule
    have hq' : (s.step turn.1 turn.2).requests[i]? = some q := by
      rw [getElem?_step_of_ne (Ne.symm hturn), hq]
    refine (ih (h.step turn.1 turn.2) hq' hrest).trans ?_
    cases hj : s.requests[turn.1]? with
    | none => rw [step_of_none hj]
    | some q' =>
      by_cases hstage : ∃ gate' r, q'.stage = .publish gate' r
      · obtain ⟨gate', r, hstage⟩ := hstage
        obtain ⟨other, stage⟩ := q'
        cases hstage
        -- to publish the same contract, the other would have to hold its gate too
        have hkey : q.key ≠ other := fun hkey => hturn (h.eq_of_key_eq hj hq hkey.symm rfl hgate)
        rw [step_publish hj, Registry.lookup?_publish, if_neg hkey]
      · rw [registry_step hj fun gate' r hstage' => hstage ⟨gate', r, hstage'⟩]

theorem step_release (hq : s.requests[i]? = some ⟨key, .release gate (.error e)⟩) (describe : Except String Description) :
    s.step i describe =
      { s.advance i ⟨key, .release gate (.error e)⟩ (.done (.error e)) with held := s.held.erase gate } := by
  simp only [step, hq]

theorem step_step_takeGate (hq : s.requests[i]? = some ⟨key, .takeGate gate⟩) (hfree : gate ∉ s.held)
    (hnone : s.registry.lookup? key = none) (describe describe' : Except String Description) :
    ((s.step i describe).step i describe').requests[i]? = some ⟨key, .build gate⟩ := by
  have htaken : s.step i describe = { s.advance i ⟨key, .takeGate gate⟩ (.lookAgain gate) with held := gate :: s.held } := by
    simp only [step, hq, if_neg hfree]
  have hq' : (s.step i describe).requests[i]? = some ⟨key, .lookAgain gate⟩ := by
    rw [htaken]
    exact (getElem?_advance hq _ i).trans (if_pos rfl)
  have hlooked : (s.step i describe).step i describe' =
      (s.step i describe).advance i ⟨key, .lookAgain gate⟩ (.build gate) := by
    have hnone' : (s.step i describe).registry.lookup? key = none := by rw [htaken]; exact hnone
    rw [step, hq']
    simp only [hnone']
  rw [hlooked, getElem?_advance hq', if_pos rfl]

/-- A refused build leaves its gate to the next request: it does nothing to the store and publishes nothing, and once
it has released the gate, whatever others have done meanwhile, whoever stands in front of it takes it and builds. -/
structure LeavesGate (s : Requests σ) (i key gate : Nat) (describe : Except String Description)
    (e : Failure RepositoryError) : Prop where
  step_eq : s.step i describe = s.advance i ⟨key, .build gate⟩ (.release gate (.error e))
  released : ∀ others : Schedule, (∀ turn ∈ others, turn.1 ≠ i) → ∀ describe',
    let t := ((s.step i describe).run others).step i describe'
    t.requests[i]? = some ⟨key, .done (.error e)⟩ ∧ gate ∉ t.held ∧ t.registry.lookup? key = none ∧
      t.gates.lookup key = some gate ∧
      ∀ j, t.requests[j]? = some ⟨key, .takeGate gate⟩ → ∀ describe₁ describe₂,
        ((t.step j describe₁).step j describe₂).requests[j]? = some ⟨key, .build gate⟩

theorem Orderly.leavesGate (h : s.Orderly) (hq : s.requests[i]? = some ⟨key, .build gate⟩) (he : Refused describe e) :
    s.LeavesGate i key gate describe e := by
  have hstep := step_refused hq he
  refine ⟨hstep, fun others hothers describe' => ?_⟩
  have horderly := h.step i describe
  have hq' : (s.step i describe).requests[i]? = some ⟨key, .release gate (.error e)⟩ := by
    rw [hstep, getElem?_advance hq, if_pos rfl]
  have hunpublished : (s.step i describe).registry.lookup? key = none := by
    rw [hstep]
    exact (h.sound hq).unpublished (.build gate)
  have hlookup := lookup?_run_of_holds horderly hq' rfl hothers
  have hq'' := (getElem?_run_of_notMem hothers (s.step i describe)).trans hq'
  have hlast := horderly.run others
  generalize (s.step i describe).run others = u at hlookup hq'' hlast
  have hrelease := step_release hq'' describe'
  have hfree : gate ∉ (u.step i describe').held := by
    rw [hrelease]
    exact hlast.held_nodup.not_mem_erase
  have hnone : (u.step i describe').registry.lookup? key = none := by
    rw [hrelease]
    exact hlookup.trans hunpublished
  refine ⟨?_, hfree, hnone, ?_, ?_⟩
  · rw [hrelease]
    exact (getElem?_advance hq'' _ i).trans (if_pos rfl)
  · rw [hrelease]
    exact (hlast.sound hq'').fetched rfl
  · exact fun j hj describe₁ describe₂ => step_step_takeGate hj hfree hnone describe₁ describe₂

end Failing

section Serving

variable {σ : Type} [DocumentStore σ] {s : Requests σ}

/-- No operation of the store fails in the next step of a request: if it is a build that fails, the contract is
refused. -/
def Serves (s : Requests σ) (i : Nat) (describe : Except String Description) : Prop :=
  ∀ key gate e, s.requests[i]? = some ⟨key, .build gate⟩ →
    (s.registry.buildDescribed describe s.store).1 = .error e → Refused describe e

def ServesAll (s : Requests σ) : Schedule → Prop
  | [] => True
  | (i, describe) :: rest => s.Serves i describe ∧ (s.step i describe).ServesAll rest

theorem config_step (s : Requests σ) (i : Nat) (describe : Except String Description) :
    (s.step i describe).registry.config = s.registry.config := by
  cases hq : s.requests[i]? with
  | none => rw [step_of_none hq]
  | some q =>
    have hturn := turn_step hq describe
    generalize s.step i describe = t at hturn ⊢
    cases hturn <;> rfl

theorem store_step (h : ∀ key gate, s.requests[i]? ≠ some ⟨key, .build gate⟩) (describe : Except String Description) :
    (s.step i describe).store = s.store := by
  cases hq : s.requests[i]? with
  | none => rw [step_of_none hq]
  | some q =>
    obtain ⟨key, stage⟩ := q
    have hturn := turn_step hq describe
    generalize s.step i describe = t at hturn ⊢
    cases hturn with
    | builds hstage =>
      cases hstage
      exact absurd hq (h _ _)
    | fails hstage =>
      cases hstage
      exact absurd hq (h _ _)
    | _ => rfl

theorem step_built (hq : s.requests[i]? = some ⟨key, .build gate⟩) {r : Repository} {store : σ}
    (h : s.registry.buildDescribed describe s.store = (.ok r, store)) :
    s.step i describe = { s.advance i ⟨key, .build gate⟩ (.publish gate r) with store } := by
  simp only [step, hq, h]

/-- A build is refused, or it goes as the store lets the collection be prepared. -/
theorem buildDescribed_cases (σ : Type) [DocumentStore σ] (describe : Except String Description) :
    (∃ e, Refused describe e) ∨ ∃ r : Repository, ∀ (g : Registry) (store : σ),
      g.buildDescribed describe store = (do g.prepare r.schema; return r : Repository.Call σ Repository) store := by
  cases describe with
  | error text => exact Or.inl ⟨_, .panics text⟩
  | ok d =>
    cases hvalid : Registry.validate d with
    | error cause => exact Or.inl ⟨_, .faulty d (Registry.validate_eq_error_iff.mp hvalid)⟩
    | ok r =>
      refine Or.inr ⟨r, fun g store => ?_⟩
      simp only [Registry.buildDescribed, Registry.build, hvalid]

/-- A watched store that is not told to fail does not. -/
theorem servesAll_of_faultless {s : Requests WatchedStore} (hs : s.store.faults = []) (schedule : Schedule) :
    s.ServesAll schedule := by
  induction schedule generalizing s with
  | nil => trivial
  | cons turn rest ih =>
    obtain ⟨i, describe⟩ := turn
    by_cases hbuilding : ∃ key gate, s.requests[i]? = some ⟨key, .build gate⟩
    · obtain ⟨key, gate, hq⟩ := hbuilding
      rcases buildDescribed_cases WatchedStore describe with ⟨e, he⟩ | ⟨r, hr⟩
      · refine ⟨fun _ _ e' _ he' => ?_, ih ?_⟩
        · rw [he.buildDescribed] at he'
          cases he'
          exact he
        · rw [step_refused hq he]
          exact hs
      · have hbuild : s.registry.buildDescribed describe s.store =
            (.ok r, StoreCall.performAll (preparations s.registry.config.createIndexes r.schema) s.store) := by
          rw [hr, Action.bind_apply, Registry.prepare_watched _ _ hs]
          rfl
        refine ⟨fun _ _ e _ he => ?_, ih ?_⟩
        · rw [hbuild] at he
          cases he
        · rw [step_built hq hbuild, StoreCall.performAll_watched hs]
    · refine ⟨fun key gate _ hq => absurd ⟨key, gate, hq⟩ hbuilding, ih ?_⟩
      rw [store_step fun key gate hq => hbuilding ⟨key, gate, hq⟩]
      exact hs

end Serving

section Directives

variable {s : Requests WatchedStore} {r : Repository}

def building? {σ : Type} (s : Requests σ) (i : Nat) : Option Nat :=
  match s.requests[i]? with
  | some ⟨key, .build _⟩ => some key
  | _ => none

def noted (s : Requests WatchedStore) (i : Nat) (describe : Except String Description) : List (Nat × StoreCall) :=
  (s.building? i).toList.flatMap fun key => ((s.step i describe).store.calls.drop s.store.calls.length).map (key, ·)

def directives (s : Requests WatchedStore) : Schedule → List (Nat × StoreCall)
  | [] => []
  | (i, describe) :: rest => s.noted i describe ++ directives (s.step i describe) rest

def directivesOf (s : Requests WatchedStore) (key : Nat) (schedule : Schedule) : List StoreCall :=
  ((s.directives schedule).filter (·.1 = key)).map (·.2)

/-- A contract has been built: it is published, or a request is about to publish it. -/
inductive Built {σ : Type} (s : Requests σ) (key : Nat) (r : Repository) : Prop where
  | published {p : Published} (h : s.registry.lookup? key = some p) (hr : p.repository = r) : Built s key r
  | unpublished {i gate : Nat} (h : s.requests[i]? = some ⟨key, .publish gate r⟩) : Built s key r

theorem building?_eq_some_iff : s.building? i = some key ↔ ∃ gate, s.requests[i]? = some ⟨key, .build gate⟩ := by
  unfold building?
  constructor
  · intro h
    split at h
    · rename_i other gate hq
      cases h
      exact ⟨gate, hq⟩
    · cases h
  · rintro ⟨gate, hq⟩
    rw [hq]

theorem Built.step (h : s.Built key r) (hs : s.Orderly) (i : Nat) (describe : Except String Description) :
    (s.step i describe).Built key r := by
  cases h with
  | published hp hr => exact .published (lookup?_run_of_some hs hp [(i, describe)]) hr
  | @unpublished j gate hq =>
    by_cases hji : j = i
    · subst hji
      refine .published (p := ⟨s.registry.built, r⟩) ?_ rfl
      rw [step_publish hq, Registry.lookup?_publish, if_pos rfl]
    · exact .unpublished ((getElem?_step_of_ne hji s describe).trans hq)

theorem Built.run (h : s.Built key r) (hs : s.Orderly) (schedule : Schedule) : (s.run schedule).Built key r := by
  induction schedule generalizing s with
  | nil => exact h
  | cons turn rest ih => exact ih (h.step hs turn.1 turn.2) (hs.step turn.1 turn.2)

theorem Built.building?_ne (h : s.Built key r) (hs : s.Orderly) (i : Nat) : s.building? i ≠ some key := by
  intro hbuilding
  obtain ⟨gate, hq⟩ := building?_eq_some_iff.mp hbuilding
  cases h with
  | published hp _ => exact absurd ((hs.sound hq).unpublished (.build gate)) (by rw [hp]; exact Option.some_ne_none _)
  | unpublished hj =>
    cases hs.eq_of_key_eq hj hq rfl rfl rfl
    cases hq.symm.trans hj

theorem calls_buildDescribed {g : Registry} {w w' : WatchedStore} (h : g.buildDescribed describe w = (.ok r, w')) :
    w'.calls = w.calls ++ preparations g.config.createIndexes r.schema := by
  rcases buildDescribed_cases WatchedStore describe with ⟨e, he⟩ | ⟨r', hr⟩
  · rw [he.buildDescribed] at h
    cases h
  · rw [hr] at h
    obtain ⟨_, v, hprepare, hpure⟩ := Action.bind_eq_ok_iff.mp h
    cases hpure
    exact Registry.calls_prepare hprepare

/-- What a step leaves noted: nothing, or what it takes to prepare the collection of a contract that is built by it. -/
theorem step_noted (hserves : s.Serves i describe) :
    (s.step i describe).store.calls = s.store.calls ++ (s.noted i describe).map (·.2) ∧
      (s.noted i describe = [] ∨ ∃ key r, s.building? i = some key ∧ (s.step i describe).Built key r ∧
        s.noted i describe = (preparations s.registry.config.createIndexes r.schema).map (key, ·)) := by
  by_cases hbuilding : ∃ key gate, s.requests[i]? = some ⟨key, .build gate⟩
  · obtain ⟨key, gate, hq⟩ := hbuilding
    have hkey : s.building? i = some key := building?_eq_some_iff.mpr ⟨gate, hq⟩
    cases hbuild : s.registry.buildDescribed describe s.store with
    | mk answer store =>
      cases answer with
      | error e =>
        have hrefused := hserves key gate e hq (by rw [hbuild])
        have hnoted : s.noted i describe = [] := by
          rw [noted, step_refused hq hrefused]
          simp [Requests.advance]
        rw [hnoted, step_refused hq hrefused]
        exact ⟨(List.append_nil _).symm, Or.inl rfl⟩
      | ok r =>
        have hcalls := calls_buildDescribed hbuild
        have hstep := step_built hq hbuild
        have hnoted : s.noted i describe = (preparations s.registry.config.createIndexes r.schema).map (key, ·) := by
          simp [noted, hkey, hstep, hcalls]
        have hpublishing : (s.step i describe).requests[i]? = some ⟨key, .publish gate r⟩ := by
          rw [hstep]
          exact (getElem?_advance hq _ i).trans (if_pos rfl)
        refine ⟨?_, Or.inr ⟨key, r, hkey, .unpublished hpublishing, hnoted⟩⟩
        rw [hnoted, hstep, List.map_map]
        exact hcalls.trans (congrArg (s.store.calls ++ ·) (List.map_id _).symm)
  · have hstore := store_step (fun key gate hq => hbuilding ⟨key, gate, hq⟩) describe
    have hnoted : s.noted i describe = [] := by simp [noted, hstore]
    rw [hnoted, hstore]
    exact ⟨(List.append_nil _).symm, Or.inl rfl⟩

theorem calls_run (hserves : s.ServesAll schedule) :
    (s.run schedule).store.calls = s.store.calls ++ (s.directives schedule).map (·.2) := by
  induction schedule generalizing s with
  | nil => exact (List.append_nil _).symm
  | cons turn rest ih =>
    obtain ⟨i, describe⟩ := turn
    calc (s.run ((i, describe) :: rest)).store.calls
      _ = (s.step i describe).store.calls ++ ((s.step i describe).directives rest).map (·.2) := ih hserves.2
      _ = s.store.calls ++ (s.directives ((i, describe) :: rest)).map (·.2) := by
        rw [(step_noted hserves.1).1, directives, List.map_append, List.append_assoc]

theorem directivesOf_cons (s : Requests WatchedStore) (key i : Nat) (describe : Except String Description)
    (rest : Schedule) : s.directivesOf key ((i, describe) :: rest) =
      ((s.noted i describe).filter (·.1 = key)).map (·.2) ++ (s.step i describe).directivesOf key rest := by
  simp only [directivesOf, directives, List.filter_append, List.map_append]

theorem directivesOf_cons_of_ne (hbuilding : s.building? i ≠ some key) (describe : Except String Description)
    (rest : Schedule) : s.directivesOf key ((i, describe) :: rest) = (s.step i describe).directivesOf key rest := by
  have hnone : (s.noted i describe).filter (·.1 = key) = [] := by
    refine List.filter_eq_nil_iff.mpr fun op hop => ?_
    obtain ⟨other, hother, hop⟩ := List.mem_flatMap.mp hop
    obtain ⟨call, -, rfl⟩ := List.mem_map.mp hop
    simp only [decide_eq_true_eq]
    rintro rfl
    exact hbuilding (Option.mem_toList.mp hother)
  rw [directivesOf_cons, hnone, List.map_nil, List.nil_append]

theorem Built.directivesOf_eq_nil (h : s.Built key r) (hs : s.Orderly) (schedule : Schedule) :
    s.directivesOf key schedule = [] := by
  induction schedule generalizing s with
  | nil => rfl
  | cons turn rest ih =>
    rw [directivesOf_cons_of_ne (h.building?_ne hs turn.1)]
    exact ih (h.step hs turn.1 turn.2) (hs.step turn.1 turn.2)

/-- What is done to the store for a contract in a run: nothing, or what its one build does. -/
theorem directivesOf_run (h : s.Orderly) (hserves : s.ServesAll schedule) (key : Nat) :
    s.directivesOf key schedule = [] ∨
      ∃ r, (s.run schedule).Built key r ∧
        s.directivesOf key schedule = preparations s.registry.config.createIndexes r.schema := by
  induction schedule generalizing s with
  | nil => exact Or.inl rfl
  | cons turn rest ih =>
    obtain ⟨i, describe⟩ := turn
    have hlater := ih (h.step i describe) hserves.2
    rw [config_step] at hlater
    obtain ⟨-, hnil | ⟨other, r, hbuilding, hbuilt, hnoted⟩⟩ := step_noted hserves.1
    · rw [directivesOf_cons, hnil]
      exact hlater
    · by_cases hkey : other = key
      · subst hkey
        -- this is the one build: what comes later does nothing for the contract
        refine Or.inr ⟨r, hbuilt.run (h.step i describe) rest, ?_⟩
        have hown : ∀ op ∈ (preparations s.registry.config.createIndexes r.schema).map (other, ·), op.1 = other := by simp
        rw [directivesOf_cons, hbuilt.directivesOf_eq_nil (h.step i describe) rest, List.append_nil, hnoted,
          List.filter_eq_self.mpr fun op hop => decide_eq_true (hown op hop), List.map_map]
        exact List.map_id _
      · rw [directivesOf_cons_of_ne fun hsome => hkey (Option.some.inj (hbuilding.symm.trans hsome))]
        exact hlater

end Directives

/-- In a run of requests at the same time, in whichever order their steps come, a contract is published once at most,
and what is published under its key stays there; no request is building it any more, and every request for it that
ends well ends with what is published. A request whose build is refused does nothing to the store, publishes nothing
and leaves the gate to the next. If the store does not fail, all that is done to it is what the builds do, and what is
done for a contract is nothing or what one build does. -/
theorem contracts_built_once (g : Registry) (keys : List Nat) (key : Nat) :
    (∀ (σ : Type) [DocumentStore σ] (store : σ) (schedule : Schedule),
      let s := (ofKeys g store keys).run schedule
      (((ofKeys g store keys).publications key schedule).length ≤ 1 ∧
        (s.registry.lookup? key).toList = (g.lookup? key).toList ++ (ofKeys g store keys).publications key schedule) ∧
      (∀ p, s.registry.lookup? key = some p → ∀ later, (s.run later).registry.lookup? key = some p ∧
        ∀ q ∈ (s.run later).requests, q.key = key → ¬q.stage.Builds) ∧
      (∀ q ∈ s.requests, q.key = key → ∀ p, q.answer? = some (.ok p) → s.registry.lookup? key = some p) ∧
      ∀ i gate describe e, s.requests[i]? = some ⟨key, .build gate⟩ → Refused describe e →
        s.LeavesGate i key gate describe e) ∧
    ∀ (w : WatchedStore) (schedule : Schedule), (ofKeys g w keys).ServesAll schedule →
      ((ofKeys g w keys).run schedule).store.calls = w.calls ++ ((ofKeys g w keys).directives schedule).map (·.2) ∧
      ((ofKeys g w keys).directivesOf key schedule = [] ∨
        ∃ r, ((ofKeys g w keys).run schedule).Built key r ∧
          (ofKeys g w keys).directivesOf key schedule = preparations g.config.createIndexes r.schema) := by
  constructor
  · intro σ _ store schedule
    have hlookup := lookup?_run (Orderly.ofKeys g store keys) key schedule
    have horderly := (Orderly.ofKeys g store keys).run schedule
    generalize (ofKeys g store keys).run schedule = s at hlookup horderly
    refine ⟨⟨?_, hlookup⟩, ?_, ?_, fun i gate describe e hq he => horderly.leavesGate hq he⟩
    · have hlength := congrArg List.length hlookup
      have hone : (s.registry.lookup? key).toList.length ≤ 1 := Option.length_toList_le
      rw [List.length_append] at hlength
      omega
    · intro p hp later
      have hstays := lookup?_run_of_some horderly hp later
      refine ⟨hstays, ?_⟩
      rintro q hq rfl hbuilds
      obtain ⟨i, hi⟩ := List.getElem?_of_mem hq
      have hnone := ((horderly.run later).sound hi).unpublished hbuilds
      cases hnone.symm.trans hstays
    · rintro q hq rfl p hanswer
      obtain ⟨i, hi⟩ := List.getElem?_of_mem hq
      refine (horderly.sound hi).given ?_
      obtain ⟨key, stage⟩ := q
      cases stage with
      | done answer =>
        cases hanswer
        exact .done
      | _ => cases hanswer
  · exact fun w schedule hserves => ⟨calls_run hserves, directivesOf_run (Orderly.ofKeys g w keys) hserves key⟩

section Example

open Registry (accounts describeAccounts)
open Session (describeUnreadable)

def firstTurns : Schedule := [0, 1, 0, 1, 0, 0, 1].map (·, .ok describeAccounts)

/-- The first finds the contract unreadable and gives the gate to the second, which finds it corrected. -/
def lastTurns : Schedule := (0, .ok describeUnreadable) :: [0, 1, 1, 1, 1, 1].map (·, .ok describeAccounts)

def twoRequests : Requests WatchedStore := ofKeys (Registry.new .standard none) WatchedStore.empty [0, 0]

theorem contracts_built_once_accounts :
    twoRequests.publications 0 (firstTurns ++ lastTurns) = [⟨0, accounts⟩] ∧
      (twoRequests.run (firstTurns ++ lastTurns)).registry.lookup? 0 = some ⟨0, accounts⟩ ∧
      (twoRequests.run firstTurns).LeavesGate 0 0 0 (.ok describeUnreadable)
        (.error (.registration "Accounts" (.name (.noOperation "frobnicate")))) ∧
      ∃ r, (twoRequests.run (firstTurns ++ lastTurns)).Built 0 r ∧
        twoRequests.directivesOf 0 (firstTurns ++ lastTurns) = preparations true r.schema := by
  obtain ⟨hruns, hwatched⟩ := contracts_built_once (Registry.new .standard none) [0, 0] 0
  have hpublished : twoRequests.publications 0 (firstTurns ++ lastTurns) = [⟨0, accounts⟩] := rfl
  have hlookup := (hruns WatchedStore WatchedStore.empty (firstTurns ++ lastTurns)).1.2
  have hgate := (hruns WatchedStore WatchedStore.empty firstTurns).2.2.2 0 0 (.ok describeUnreadable) _ rfl
    (.faulty describeUnreadable (Registry.validate_eq_error_iff.mp rfl))
  have hdirectives := (hwatched WatchedStore.empty (firstTurns ++ lastTurns) (servesAll_of_faultless rfl _)).2
  have hdone : twoRequests.directivesOf 0 (firstTurns ++ lastTurns) = preparations true accounts.schema := rfl
  refine ⟨hpublished, Option.toList_eq_singleton_iff.mp (hlookup.trans hpublished), hgate, hdirectives.resolve_left ?_⟩
  intro hnil
  cases hdone.symm.trans hnil

end Example

end Requests

end DocumentRepository
