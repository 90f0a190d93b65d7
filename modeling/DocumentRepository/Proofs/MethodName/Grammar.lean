import DocumentRepository.Proofs.Bind
import DocumentRepository.Proofs.MethodName.Cut
import DocumentRepository.Proofs.MethodName.Spelling

/-! # The names that are read

A name is read just if it is a prefix and a text in which at most one combinator occurs and whose pieces all
spell terms. What is read are terms that the pieces spell, one for each and in their order. A name that is
not read has no prefix, mixes the combinators, or has a first piece that spells no term.
-/
namespace DocumentRepository.MethodName

open Text (dropFront?_eq_some_iff occursIn occursIn_iff)

variable {schema : Schema} {name : String} {p q : OperationPrefix} {cs rest : List Char} {c : Combinator}
  {segments : List (List Char)} {terms : List Term}

theorem operationPrefixes_apart :
    ∀ p ∈ operationPrefixes, ∀ q ∈ operationPrefixes, p.text.toList <+: q.text.toList → p = q := by
  decide

theorem splitOperation?_eq_none_iff : splitOperation? cs = none ↔ ∀ p ∈ operationPrefixes, ¬p.text.toList <+: cs := by
  simp only [splitOperation?, List.findSome?_eq_none_iff, Option.map_eq_none_iff, ← Text.isSome_dropFront?_iff,
    Bool.not_eq_true, Option.isSome_eq_false_iff, Option.isNone_iff_eq_none]

/-- No prefix is the start of another, so a name has at most one. -/
theorem splitOperation?_eq_some_iff :
    splitOperation? cs = some (p, rest) ↔ p ∈ operationPrefixes ∧ cs = p.text.toList ++ rest := by
  have hsound : ∀ q tail, splitOperation? cs = some (q, tail) → q ∈ operationPrefixes ∧ cs = q.text.toList ++ tail := by
    intro q tail h
    obtain ⟨q', hmem, hmap⟩ := List.exists_of_findSome?_eq_some h
    obtain ⟨tail', hdrop, heq⟩ := Option.map_eq_some_iff.mp hmap
    cases heq
    exact ⟨hmem, dropFront?_eq_some_iff.mp hdrop⟩
  refine ⟨hsound p rest, ?_⟩
  rintro ⟨hp, hcs⟩
  have hstart : p.text.toList <+: cs := ⟨rest, hcs.symm⟩
  cases hsplit : splitOperation? cs with
  | none => exact absurd hstart (splitOperation?_eq_none_iff.mp hsplit p hp)
  | some found =>
    obtain ⟨q, tail⟩ := found
    obtain ⟨hq, hcs'⟩ := hsound q tail hsplit
    have hpq : p = q := by
      rcases List.prefix_or_prefix_of_prefix hstart ⟨tail, hcs'.symm⟩ with h | h
      · exact operationPrefixes_apart p hp q hq h
      · exact (operationPrefixes_apart q hq p hp h).symm
    subst hpq
    rw [hcs', List.append_cancel_left_eq] at hcs
    rw [hcs]

theorem combinatorOf?_eq_none_iff : combinatorOf? rest = none ↔ ∀ c : Combinator, c.token.toList <:+: rest := by
  have hboth : (∀ c : Combinator, c.token.toList <:+: rest) ↔
      occursIn Combinator.and.token.toList rest = true ∧ occursIn Combinator.or.token.toList rest = true := by
    simp only [occursIn_iff]
    refine ⟨fun h => ⟨h .and, h .or⟩, ?_⟩
    rintro ⟨hand, hor⟩ (_ | _)
    · exact hand
    · exact hor
  rw [hboth, combinatorOf?]
  cases occursIn Combinator.and.token.toList rest <;> cases occursIn Combinator.or.token.toList rest <;> simp

/-- The combinator of a text: no other occurs in it, and it is `And` if none does. -/
def Combines (c : Combinator) (rest : List Char) : Prop :=
  (∀ other : Combinator, other.token.toList <:+: rest → other = c) ∧ (c = .or → c.token.toList <:+: rest)

theorem combinatorOf?_eq_some_iff : combinatorOf? rest = some c ↔ Combines c rest := by
  have hall : (∀ other : Combinator, other.token.toList <:+: rest → other = c) ↔
      (occursIn Combinator.and.token.toList rest = true → .and = c) ∧
        (occursIn Combinator.or.token.toList rest = true → .or = c) := by
    simp only [occursIn_iff]
    refine ⟨fun h => ⟨h .and, h .or⟩, ?_⟩
    rintro ⟨hand, hor⟩ (_ | _)
    · exact hand
    · exact hor
  have hor : (c = .or → c.token.toList <:+: rest) ↔ (c = .or → occursIn Combinator.or.token.toList rest = true) := by
    rw [occursIn_iff]
    exact forall_congr' fun h => by rw [h]
  rw [Combines, hall, hor, combinatorOf?]
  cases occursIn Combinator.and.token.toList rest <;> cases occursIn Combinator.or.token.toList rest <;>
    cases c <;> simp

theorem Combines.not_mixed (h : Combines c rest) : ¬∀ c : Combinator, c.token.toList <:+: rest := by
  intro hall
  have := (h.1 .and (hall .and)).trans (h.1 .or (hall .or)).symm
  cases this

/-- A segment spells some term. -/
def Readable (schema : Schema) (segment : List Char) : Prop := ∃ w : Spelling, w.Valid schema ∧ w.text.toList = segment

theorem mapM_readTerm_eq_ok (h : segments.mapM (readTerm schema name) = .ok terms) :
    ∃ ws : List Spelling, (∀ w ∈ ws, w.Valid schema) ∧ ws.map (·.text.toList) = segments ∧ ws.map Spelling.term = terms := by
  have hall := mapM_eq_ok_iff.mp h
  clear h
  induction hall with
  | nil => exact ⟨[], by simp, rfl, rfl⟩
  | cons hread _ ih =>
    obtain ⟨w, hw, htext, hterm⟩ := readTerm?_eq_some (readTerm_eq_ok_iff.mp hread)
    obtain ⟨ws, hws, htexts, hterms⟩ := ih
    exact ⟨w :: ws, List.forall_mem_cons.mpr ⟨hw, hws⟩, by simp [htext, htexts], by simp [hterm, hterms]⟩

theorem mapM_readTerm_eq_error_iff {e : NameError} :
    segments.mapM (readTerm schema name) = .error e ↔
      ∃ before bad after, segments = before ++ bad :: after ∧ (∀ s ∈ before, Readable schema s) ∧ ¬Readable schema bad ∧
        e = if bad = [] then .emptySegment name "" else .unknownField name (String.ofList bad) schema.entity := by
  have hok : ∀ s, (∃ t, readTerm schema name s = .ok t) ↔ Readable schema s := by
    intro s
    rw [Readable, ← not_iff_not, ← readTerm?_eq_none_iff, Option.eq_none_iff_forall_not_mem]
    simp only [readTerm_eq_ok_iff, not_exists, Option.mem_def]
  simp only [mapM_eq_error_iff, hok, readTerm_eq_error_iff]
  rfl

/-- A name whose parts are known is read segment by segment. -/
theorem parse_of_parts (hp : p ∈ operationPrefixes) (hname : name.toList = p.text.toList ++ rest) (hc : Combines c rest)
    (hcut : IsCut c.token.toList rest segments) :
    parse schema name = (segments.mapM (readTerm schema name)).map fun terms => ⟨p.operation, p.cardinality, ⟨c, terms⟩⟩ := by
  have hsplit : splitOperation? name.toList = some (p, rest) := splitOperation?_eq_some_iff.mpr ⟨hp, hname⟩
  have hcombinator : combinatorOf? rest = some c := combinatorOf?_eq_some_iff.mpr hc
  have hsegments : cutSegments c.token.toList 0 rest = segments := (isCut_iff (camelWord_token c)).mp hcut
  simp only [parse, hsplit, hcombinator, hsegments]
  rfl

/-- Every name has no prefix, mixes the combinators, or falls into parts. -/
theorem exists_parts (name : String) :
    (∀ p ∈ operationPrefixes, ¬p.text.toList <+: name.toList) ∧ parse schema name = .error (.noOperation name) ∨
      ∃ p ∈ operationPrefixes, ∃ rest, name.toList = p.text.toList ++ rest ∧
        ((∀ c : Combinator, c.token.toList <:+: rest) ∧ parse schema name = .error (.ambiguousCombinator name) ∨
          ∃ c segments, Combines c rest ∧ IsCut c.token.toList rest segments) := by
  cases hsplit : splitOperation? name.toList with
  | none => exact Or.inl ⟨splitOperation?_eq_none_iff.mp hsplit, by simp only [parse, hsplit]⟩
  | some found =>
    obtain ⟨p, rest⟩ := found
    obtain ⟨hp, hname⟩ := splitOperation?_eq_some_iff.mp hsplit
    refine Or.inr ⟨p, hp, rest, hname, ?_⟩
    cases hcombinator : combinatorOf? rest with
    | none => exact Or.inl ⟨combinatorOf?_eq_none_iff.mp hcombinator, by simp only [parse, hsplit, hcombinator]⟩
    | some c =>
      exact Or.inr ⟨c, _, combinatorOf?_eq_some_iff.mp hcombinator, isCut_cutSegments (camelWord_token c) rest⟩

theorem exists_spellings {parsed : ParsedName} (h : parse schema name = .ok parsed) :
    ∃ p ∈ operationPrefixes, ∃ (c : Combinator) (rest : List Char) (ws : List Spelling),
      parsed = ⟨p.operation, p.cardinality, ⟨c, ws.map Spelling.term⟩⟩ ∧ (∀ w ∈ ws, w.Valid schema) ∧
      Combines c rest ∧ IsCut c.token.toList rest (ws.map (·.text.toList)) ∧ name.toList = p.text.toList ++ rest := by
  rcases exists_parts name with ⟨-, herror⟩ | ⟨p, hp, rest, hname, ⟨-, herror⟩ | ⟨c, segments, hc, hcut⟩⟩
  · rw [herror] at h
    cases h
  · rw [herror] at h
    cases h
  · rw [parse_of_parts hp hname hc hcut] at h
    cases hread : segments.mapM (readTerm schema name) with
    | error e =>
      rw [hread] at h
      cases h
    | ok terms =>
      obtain ⟨ws, hvalid, rfl, rfl⟩ := mapM_readTerm_eq_ok hread
      rw [hread] at h
      cases h
      exact ⟨p, hp, c, rest, ws, rfl, hvalid, hc, hcut, hname⟩

/-- A name is read just if it is a prefix and a text that does not mix the combinators and whose pieces all spell
terms. The terms that are read are spelled by the pieces, so that their spellings make up the name. If the name is not
read, the error says that it has no prefix or mixes the combinators, or names the first piece that spells no term. -/
theorem parse_accepts_grammar (schema : Schema) (name : String) :
    ((∃ parsed, parse schema name = .ok parsed) ↔
      ∃ p ∈ operationPrefixes, ∃ rest, name.toList = p.text.toList ++ rest ∧
        (¬∀ c : Combinator, c.token.toList <:+: rest) ∧
        ∃ c segments, Combines c rest ∧ IsCut c.token.toList rest segments ∧ ∀ s ∈ segments, Readable schema s) ∧
    (∀ parsed, parse schema name = .ok parsed →
      ∃ p ∈ operationPrefixes, ∃ (c : Combinator) (rest : List Char) (ws : List Spelling),
        parsed = ⟨p.operation, p.cardinality, ⟨c, ws.map Spelling.term⟩⟩ ∧ (∀ w ∈ ws, w.Valid schema) ∧
        Combines c rest ∧ IsCut c.token.toList rest (ws.map (·.text.toList)) ∧
        name = p.text ++ c.token.intercalate (ws.map Spelling.text)) ∧
    ∀ e, parse schema name = .error e →
      (∀ p ∈ operationPrefixes, ¬p.text.toList <+: name.toList) ∧ e = .noOperation name ∨
      ∃ p ∈ operationPrefixes, ∃ rest, name.toList = p.text.toList ++ rest ∧
        ((∀ c : Combinator, c.token.toList <:+: rest) ∧ e = .ambiguousCombinator name ∨
          ∃ c before bad after, Combines c rest ∧ IsCut c.token.toList rest (before ++ bad :: after) ∧
            (∀ s ∈ before, Readable schema s) ∧ ¬Readable schema bad ∧
            e = if bad = [] then .emptySegment name "" else .unknownField name (String.ofList bad) schema.entity) := by
  refine ⟨⟨?_, ?_⟩, ?_, ?_⟩
  · rintro ⟨parsed, hparsed⟩
    obtain ⟨p, hp, c, rest, ws, -, hvalid, hc, hcut, hname⟩ := exists_spellings hparsed
    refine ⟨p, hp, rest, hname, hc.not_mixed, c, _, hc, hcut, ?_⟩
    intro s hs
    obtain ⟨w, hw, rfl⟩ := List.mem_map.mp hs
    exact ⟨w, hvalid w hw, rfl⟩
  · rintro ⟨p, hp, rest, hname, -, c, segments, hc, hcut, hreadable⟩
    rw [parse_of_parts hp hname hc hcut]
    cases hread : segments.mapM (readTerm schema name) with
    | ok terms => exact ⟨_, rfl⟩
    | error e =>
      obtain ⟨before, bad, after, rfl, -, hbad, -⟩ := mapM_readTerm_eq_error_iff.mp hread
      exact absurd (hreadable bad (by simp)) hbad
  · intro parsed hparsed
    obtain ⟨p, hp, c, rest, ws, hterms, hvalid, hc, hcut, hname⟩ := exists_spellings hparsed
    refine ⟨p, hp, c, rest, ws, hterms, hvalid, hc, hcut, ?_⟩
    rw [← String.toList_inj, hname, ← hcut.joined, String.toList_append, String.toList_intercalate, List.map_map]
    rfl
  · intro e he
    rcases exists_parts name with ⟨hnone, herror⟩ | ⟨p, hp, rest, hname, ⟨hmixed, herror⟩ | ⟨c, segments, hc, hcut⟩⟩
    · rw [herror] at he
      exact Or.inl ⟨hnone, (Except.error.inj he).symm⟩
    · rw [herror] at he
      exact Or.inr ⟨p, hp, rest, hname, Or.inl ⟨hmixed, (Except.error.inj he).symm⟩⟩
    · rw [parse_of_parts hp hname hc hcut] at he
      cases hread : segments.mapM (readTerm schema name) with
      | ok terms =>
        rw [hread] at he
        cases he
      | error e' =>
        rw [hread] at he
        cases he
        obtain ⟨before, bad, after, rfl, hbefore, hbad, rfl⟩ := mapM_readTerm_eq_error_iff.mp hread
        exact Or.inr ⟨p, hp, rest, hname, Or.inr ⟨c, before, bad, after, hc, hcut, hbefore, hbad, rfl⟩⟩

end DocumentRepository.MethodName
