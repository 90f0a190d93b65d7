import DocumentRepository.Proofs.Repository.Obtaining
import DocumentRepository.Repository.Request

/-! # Who is behind a gate

All requests for one contract fetch the same gate, and a gate that is held has one holder. So between taking its gate
and releasing it a request is alone with its contract: what it has not found published nobody else publishes, and what
a request has been answered with is what is published.
-/
namespace DocumentRepository

namespace Stage

/-- The gate that a request has fetched and not yet released. -/
def gate? : Stage → Option Nat
  | takeGate gate => some gate
  | lookAgain gate => some gate
  | build gate => some gate
  | publish gate _ => some gate
  | release gate _ => some gate
  | _ => none

def holds? : Stage → Option Nat
  | lookAgain gate => some gate
  | build gate => some gate
  | publish gate _ => some gate
  | release gate _ => some gate
  | _ => none

/-- The request has found nothing published, and holds the gate since before it looked. -/
inductive Builds : Stage → Prop where
  | build (gate : Nat) : Builds (build gate)
  | publish (gate : Nat) (r : Repository) : Builds (publish gate r)

inductive Gives (p : Published) : Stage → Prop where
  | release (gate : Nat) : Gives p (release gate (.ok p))
  | done : Gives p (done (.ok p))

variable {stage : Stage} {gate : Nat}

theorem gate?_of_holds? (h : stage.holds? = some gate) : stage.gate? = some gate := by
  cases stage with
  | takeGate => cases h
  | _ => exact h

theorem Builds.holds (h : stage.Builds) : ∃ gate, stage.holds? = some gate := by
  cases h with
  | build gate => exact ⟨gate, rfl⟩
  | publish gate r => exact ⟨gate, rfl⟩

end Stage

namespace Requests

variable {σ : Type} {s t : Requests σ} {i j key gate : Nat} {q : Request} {stage : Stage}
  {describe : Except String Description}

theorem getElem?_advance (hq : s.requests[i]? = some q) (stage : Stage) (j : Nat) :
    (s.advance i q stage).requests[j]? = if j = i then some { q with stage } else s.requests[j]? := by
  obtain ⟨hi, -⟩ := List.getElem?_eq_some_iff.mp hq
  by_cases h : j = i
  · rw [h, if_pos rfl]
    exact List.getElem?_set_self hi
  · rw [if_neg h]
    exact List.getElem?_set_ne (Ne.symm h)

theorem lookup_gatesWith (s : Requests σ) (key other : Nat) :
    (s.gatesWith key).lookup other = if other = key then some (s.gateOf key) else s.gates.lookup other := by
  unfold gatesWith gateOf
  by_cases h : other = key
  · subst h
    cases hgate : s.gates.lookup other with
    | some gate => simp [hgate]
    | none => simp
  · cases hgate : s.gates.lookup key with
    | some gate => simp [h]
    | none => simp [h, List.lookup_cons, beq_false_of_ne h]

section Step

variable [DocumentStore σ]

inductive Turn (s : Requests σ) (i : Nat) (q : Request) (describe : Except String Description) : Requests σ → Prop where
  | finds {p : Published} (hstage : q.stage = .look) (h : s.registry.lookup? q.key = some p) :
    Turn s i q describe (s.advance i q (.done (.ok p)))
  | misses (hstage : q.stage = .look) (h : s.registry.lookup? q.key = none) : Turn s i q describe (s.advance i q .fetchGate)
  | fetches (hstage : q.stage = .fetchGate) :
    Turn s i q describe { s.advance i q (.takeGate (s.gateOf q.key)) with gates := s.gatesWith q.key }
  | waits {gate : Nat} (hstage : q.stage = .takeGate gate) (h : gate ∈ s.held) : Turn s i q describe s
  | takes {gate : Nat} (hstage : q.stage = .takeGate gate) (h : gate ∉ s.held) :
    Turn s i q describe { s.advance i q (.lookAgain gate) with held := gate :: s.held }
  | findsAgain {gate : Nat} {p : Published} (hstage : q.stage = .lookAgain gate) (h : s.registry.lookup? q.key = some p) :
    Turn s i q describe (s.advance i q (.release gate (.ok p)))
  | missesAgain {gate : Nat} (hstage : q.stage = .lookAgain gate) (h : s.registry.lookup? q.key = none) :
    Turn s i q describe (s.advance i q (.build gate))
  | builds {gate : Nat} {r : Repository} {store : σ} (hstage : q.stage = .build gate)
      (h : s.registry.buildDescribed describe s.store = (.ok r, store)) :
    Turn s i q describe { s.advance i q (.publish gate r) with store }
  | fails {gate : Nat} {e : Failure RepositoryError} {store : σ} (hstage : q.stage = .build gate)
      (h : s.registry.buildDescribed describe s.store = (.error e, store)) :
    Turn s i q describe { s.advance i q (.release gate (.error e)) with store }
  | publishes {gate : Nat} {r : Repository} (hstage : q.stage = .publish gate r) :
    Turn s i q describe { s.advance i q (.release gate (.ok (s.registry.publish q.key r).2)) with
      registry := (s.registry.publish q.key r).1 }
  | releases {gate : Nat} {answer : Answer} (hstage : q.stage = .release gate answer) :
    Turn s i q describe { s.advance i q (.done answer) with held := s.held.erase gate }
  | stays {answer : Answer} (hstage : q.stage = .done answer) : Turn s i q describe s

theorem turn_step (hq : s.requests[i]? = some q) (describe : Except String Description) :
    Turn s i q describe (s.step i describe) := by
  simp only [step, hq]
  split
  case h_1 hstage =>
    split
    case h_1 h => exact .finds hstage h
    case h_2 h => exact .misses hstage h
  case h_2 hstage => exact .fetches hstage
  case h_3 hstage =>
    split
    case isTrue h => exact .waits hstage h
    case isFalse h => exact .takes hstage h
  case h_4 hstage =>
    split
    case h_1 h => exact .findsAgain hstage h
    case h_2 h => exact .missesAgain hstage h
  case h_5 hstage =>
    split
    case h_1 h => exact .builds hstage h
    case h_2 h => exact .fails hstage h
  case h_6 hstage => exact .publishes hstage
  case h_7 hstage => exact .releases hstage
  case h_8 hstage => exact .stays hstage

theorem step_of_none (h : s.requests[i]? = none) (describe : Except String Description) : s.step i describe = s := by
  simp only [step, h]

/-- A request's step leaves the others where they are. -/
theorem getElem?_step_of_ne (h : j ≠ i) (s : Requests σ) (describe : Except String Description) :
    (s.step i describe).requests[j]? = s.requests[j]? := by
  cases hq : s.requests[i]? with
  | none => rw [step_of_none hq]
  | some q =>
    have hturn := turn_step hq describe
    generalize s.step i describe = t at hturn ⊢
    cases hturn with
    | waits => rfl
    | stays => rfl
    | _ => exact (getElem?_advance hq _ j).trans (if_neg h)

end Step

def Sound (s : Requests σ) (q : Request) : Prop :=
  match q.stage with
  | .look => True
  | .fetchGate => True
  | .takeGate gate => s.gates.lookup q.key = some gate
  | .lookAgain gate => s.gates.lookup q.key = some gate
  | .build gate => s.gates.lookup q.key = some gate ∧ s.registry.lookup? q.key = none
  | .publish gate _ => s.gates.lookup q.key = some gate ∧ s.registry.lookup? q.key = none
  | .release gate answer => s.gates.lookup q.key = some gate ∧ ∀ p, answer = .ok p → s.registry.lookup? q.key = some p
  | .done answer => ∀ p, answer = .ok p → s.registry.lookup? q.key = some p

namespace Sound

theorem fetched (h : s.Sound q) (hgate : q.stage.gate? = some gate) : s.gates.lookup q.key = some gate := by
  obtain ⟨key, stage⟩ := q
  cases stage with
  | takeGate => cases hgate; exact h
  | lookAgain => cases hgate; exact h
  | build => cases hgate; exact h.1
  | publish => cases hgate; exact h.1
  | release => cases hgate; exact h.1
  | _ => cases hgate

theorem unpublished (h : s.Sound q) (hbuilds : q.stage.Builds) : s.registry.lookup? q.key = none := by
  obtain ⟨key, stage⟩ := q
  cases hbuilds with
  | build => exact h.2
  | publish => exact h.2

theorem given {p : Published} (h : s.Sound q) (hgives : q.stage.Gives p) : s.registry.lookup? q.key = some p := by
  obtain ⟨key, stage⟩ := q
  cases hgives with
  | release => exact h.2 p rfl
  | done => exact h p rfl

/-- It stays true when others fetch gates, and publish what this request has not yet looked for. -/
theorem mono (h : s.Sound q) (hgates : ∀ gate, s.gates.lookup q.key = some gate → t.gates.lookup q.key = some gate)
    (hnone : q.stage.Builds → s.registry.lookup? q.key = none → t.registry.lookup? q.key = none)
    (hsome : ∀ p, s.registry.lookup? q.key = some p → t.registry.lookup? q.key = some p) : t.Sound q := by
  obtain ⟨key, stage⟩ := q
  cases stage with
  | look => trivial
  | fetchGate => trivial
  | takeGate gate => exact hgates _ h
  | lookAgain gate => exact hgates _ h
  | build gate => exact ⟨hgates _ h.1, hnone (.build gate) h.2⟩
  | publish gate r => exact ⟨hgates _ h.1, hnone (.publish gate r) h.2⟩
  | release gate answer => exact ⟨hgates _ h.1, fun p hp => hsome p (h.2 p hp)⟩
  | done answer => exact fun p hp => hsome p (h p hp)

theorem congr (h : s.Sound q) (hgates : t.gates = s.gates) (hregistry : t.registry = s.registry) : t.Sound q :=
  h.mono (fun _ hgate => hgates ▸ hgate) (fun _ hnone => hregistry ▸ hnone) fun _ hsome => hregistry ▸ hsome

end Sound

/-- A gate has one holder if it is held, and else none. -/
structure Orderly (s : Requests σ) : Prop where
  sound : ∀ {i : Nat} {q : Request}, s.requests[i]? = some q → s.Sound q
  holders : ∀ gate, s.requests.countP (fun q => q.stage.holds? = some gate) = s.held.count gate
  held_nodup : s.held.Nodup

namespace Orderly

theorem ofKeys (g : Registry) (store : σ) (keys : List Nat) : (Requests.ofKeys g store keys).Orderly := by
  have hnew : ∀ q ∈ keys.map Request.new, q.stage = .look := by
    intro q hq
    obtain ⟨key, -, rfl⟩ := List.mem_map.mp hq
    rfl
  refine ⟨?_, ?_, List.nodup_nil⟩
  · intro i q hq
    rw [Sound, hnew q (List.mem_of_getElem? hq)]
    trivial
  · intro gate
    have hnone : (keys.map Request.new).countP (fun q => q.stage.holds? = some gate) = 0 := by
      refine List.countP_eq_zero.mpr fun q hq => ?_
      rw [hnew q hq]
      simp [Stage.holds?]
    exact hnone

theorem mem_held_iff (h : s.Orderly) :
    gate ∈ s.held ↔ ∃ (i : Nat) (q : Request), s.requests[i]? = some q ∧ q.stage.holds? = some gate := by
  rw [← List.count_pos_iff, ← h.holders, List.countP_pos_iff]
  constructor
  · rintro ⟨q, hq, hgate⟩
    obtain ⟨i, hi⟩ := List.getElem?_of_mem hq
    exact ⟨i, q, hi, of_decide_eq_true hgate⟩
  · rintro ⟨i, q, hi, hgate⟩
    exact ⟨q, List.mem_of_getElem? hi, decide_eq_true hgate⟩

/-- Two requests that hold one gate are the same request. -/
theorem eq_of_holds (h : s.Orderly) {q' : Request} (hq : s.requests[i]? = some q) (hq' : s.requests[j]? = some q')
    (hgate : q.stage.holds? = some gate) (hgate' : q'.stage.holds? = some gate) : i = j := by
  by_contra hne
  obtain ⟨hi, hqi⟩ := List.getElem?_eq_some_iff.mp hq
  -- Without the one, the other still counts.
  have hrest : 0 < (s.requests.set i ⟨q.key, .look⟩).countP (fun q => q.stage.holds? = some gate) := by
    refine List.countP_pos_iff.mpr ⟨q', List.mem_of_getElem? (i := j) ?_, decide_eq_true hgate'⟩
    rw [List.getElem?_set_ne hne, hq']
  have hone : s.held.count gate ≤ 1 := List.nodup_iff_count_le_one.mp h.held_nodup gate
  have hold : s.requests[i].stage.holds? = some gate := hqi ▸ hgate
  rw [List.countP_set hi, h.holders, if_pos (decide_eq_true hold), if_neg (by simp [Stage.holds?])] at hrest
  omega

/-- Two requests for one contract that both hold its gate are the same request. -/
theorem eq_of_key_eq (h : s.Orderly) {q' : Request} {gate' : Nat} (hq : s.requests[i]? = some q)
    (hq' : s.requests[j]? = some q') (hkey : q.key = q'.key) (hgate : q.stage.holds? = some gate)
    (hgate' : q'.stage.holds? = some gate') : i = j := by
  have hfetched := (h.sound hq).fetched (Stage.gate?_of_holds? hgate)
  have hfetched' := (h.sound hq').fetched (Stage.gate?_of_holds? hgate')
  rw [hkey, hfetched'] at hfetched
  cases hfetched
  exact h.eq_of_holds hq hq' hgate hgate'

/-- A request comes to a stage, and the gates are held accordingly. -/
theorem advance (h : s.Orderly) (hq : s.requests[i]? = some q) (hrequests : t.requests = (s.advance i q stage).requests)
    (hheld : ∀ gate, t.held.count gate + (if q.stage.holds? = some gate then 1 else 0) =
      s.held.count gate + if stage.holds? = some gate then 1 else 0)
    (hnodup : t.held.Nodup) (hsound : t.Sound { q with stage })
    (hothers : ∀ {j q'}, j ≠ i → s.requests[j]? = some q' → t.Sound q') : t.Orderly := by
  obtain ⟨hi, hqi⟩ := List.getElem?_eq_some_iff.mp hq
  refine ⟨?_, ?_, hnodup⟩
  · intro j q' hj
    rw [hrequests, getElem?_advance hq] at hj
    by_cases hji : j = i
    · rw [if_pos hji] at hj
      cases hj
      exact hsound
    · rw [if_neg hji] at hj
      exact hothers hji hj
  · intro gate
    have hcount := hheld gate
    have hpos : q.stage.holds? = some gate → 0 < s.held.count gate :=
      fun hgate => List.count_pos_iff.mpr (h.mem_held_iff.mpr ⟨i, q, hq, hgate⟩)
    rw [hrequests, Requests.advance, List.countP_set hi, h.holders]
    simp only [hqi, decide_eq_true_eq]
    by_cases hholds : q.stage.holds? = some gate
    · have := hpos hholds
      rw [if_pos hholds] at hcount ⊢
      omega
    · rw [if_neg hholds] at hcount ⊢
      omega

/-- A request goes on without taking or releasing a gate. -/
theorem goOn (h : s.Orderly) (hq : s.requests[i]? = some q) (hrequests : t.requests = (s.advance i q stage).requests)
    (hheld : t.held = s.held) (hholds : q.stage.holds? = stage.holds?) (hsound : t.Sound { q with stage })
    (hothers : ∀ {j q'}, j ≠ i → s.requests[j]? = some q' → t.Sound q') : t.Orderly :=
  h.advance hq hrequests (fun gate => by rw [hheld, hholds]) (hheld ▸ h.held_nodup) hsound hothers

theorem step [DocumentStore σ] (h : s.Orderly) (i : Nat) (describe : Except String Description) :
    (s.step i describe).Orderly := by
  cases hq : s.requests[i]? with
  | none =>
    rw [step_of_none hq]
    exact h
  | some q =>
    have hsound := h.sound hq
    have hturn := turn_step hq describe
    generalize s.step i describe = t at hturn ⊢
    cases hturn with
    | waits => exact h
    | stays => exact h
    | @finds p hstage hfound =>
      refine h.goOn hq rfl rfl (by rw [hstage]; rfl) ?_ fun _ hj => (h.sound hj).congr rfl rfl
      intro p' hp
      cases hp
      exact hfound
    | misses hstage hnone =>
      exact h.goOn hq rfl rfl (by rw [hstage]; rfl) trivial fun _ hj => (h.sound hj).congr rfl rfl
    | fetches hstage =>
      have hgates := s.lookup_gatesWith q.key
      refine h.goOn hq rfl rfl (by rw [hstage]; rfl) ((hgates q.key).trans (if_pos rfl)) fun _ hj => ?_
      refine (h.sound hj).mono (fun gate hgate => ?_) (fun _ => id) fun _ => id
      refine (hgates _).trans ?_
      split
      case isTrue hkey =>
        rw [hkey] at hgate
        rw [gateOf, hgate]
        rfl
      case isFalse => exact hgate
    | @findsAgain gate p hstage hfound =>
      rw [Sound, hstage] at hsound
      refine h.goOn hq rfl rfl (by rw [hstage]; rfl) ⟨hsound, ?_⟩ fun _ hj => (h.sound hj).congr rfl rfl
      intro p' hp
      cases hp
      exact hfound
    | missesAgain hstage hnone =>
      rw [Sound, hstage] at hsound
      exact h.goOn hq rfl rfl (by rw [hstage]; rfl) ⟨hsound, hnone⟩ fun _ hj => (h.sound hj).congr rfl rfl
    | builds hstage _ =>
      rw [Sound, hstage] at hsound
      exact h.goOn hq rfl rfl (by rw [hstage]; rfl) hsound fun _ hj => (h.sound hj).congr rfl rfl
    | fails hstage _ =>
      rw [Sound, hstage] at hsound
      refine h.goOn hq rfl rfl (by rw [hstage]; rfl) ⟨hsound.1, ?_⟩ fun _ hj => (h.sound hj).congr rfl rfl
      intro p hp
      cases hp
    | @publishes gate r hstage =>
      have hholds : q.stage.holds? = some gate := by rw [hstage]; rfl
      have hnone := hsound.unpublished (by rw [hstage]; exact .publish gate r)
      rw [Sound, hstage] at hsound
      have hlookup := s.registry.lookup?_publish q.key
      refine h.goOn hq rfl rfl hholds ⟨hsound.1, ?_⟩ fun {j q'} hji hj => ?_
      · intro p hp
        cases hp
        exact (hlookup q.key r).trans (if_pos rfl)
      · -- Another request that builds is one for another contract, as it holds a gate of its own.
        have hkey : q'.stage.Builds → q'.key ≠ q.key := by
          intro hbuilds hkey
          obtain ⟨gate', hgate'⟩ := hbuilds.holds
          exact hji (h.eq_of_key_eq hj hq hkey hgate' hholds)
        refine (h.sound hj).mono (fun _ => id) ?_ ?_
        · exact fun hbuilds hnone' => (hlookup q'.key r).trans ((if_neg (hkey hbuilds)).trans hnone')
        · intro p hsome
          have hne : q'.key ≠ q.key := by
            intro hkey
            rw [hkey, hnone] at hsome
            cases hsome
          exact (hlookup q'.key r).trans ((if_neg hne).trans hsome)
    | @takes gate hstage hfree =>
      rw [Sound, hstage] at hsound
      refine h.advance hq rfl ?_ (List.nodup_cons.mpr ⟨hfree, h.held_nodup⟩) hsound fun _ hj => (h.sound hj).congr rfl rfl
      intro gate'
      simp [hstage, Stage.holds?, List.count_cons]
    | @releases gate answer hstage =>
      have hheld : gate ∈ s.held := h.mem_held_iff.mpr ⟨i, q, hq, by rw [hstage]; rfl⟩
      rw [Sound, hstage] at hsound
      refine h.advance hq rfl ?_ (h.held_nodup.erase gate) hsound.2 fun _ hj => (h.sound hj).congr rfl rfl
      intro gate'
      have hpos := List.count_pos_iff.mpr hheld
      by_cases hgate : gate = gate'
      · subst hgate
        simp [hstage, Stage.holds?]
        omega
      · simp [hstage, Stage.holds?, hgate, List.count_erase_of_ne (Ne.symm hgate)]

theorem run [DocumentStore σ] (h : s.Orderly) (schedule : Schedule) :
    (s.run schedule).Orderly := by
  induction schedule generalizing s with
  | nil => exact h
  | cons turn rest ih => exact ih (h.step turn.1 turn.2)

end Orderly

end Requests

end DocumentRepository
