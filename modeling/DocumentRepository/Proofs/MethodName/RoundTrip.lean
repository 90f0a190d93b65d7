import DocumentRepository.Proofs.MethodName.Grammar
import DocumentRepository.Proofs.Schema.Resolution

/-! # Names with one reading

Written behind a token, `Not` and the keywords are pieces of which none ends in another, `NotIn` being two of
them. So if a segment spells two terms, the key of one field is the key of the other with pieces behind it. In a
schema without such fields a segment spells one term, except that the negation of `In` and `NotIn` are spelled
alike. Tokens that start with a capital and hold no combinator leave the cuts of a name at its joints, and a name
that is written from terms is then read as these terms.
-/
namespace DocumentRepository

def smallPieces : List String := "not" :: FilterOperator.keywords.map fun entry => Text.lower entry.1

/-- The key of no field is that of another field with pieces behind it. -/
def Schema.Unambiguous (schema : Schema) : Prop :=
  ∀ f ∈ schema.fields, ∀ g ∈ schema.fields, ∀ pieces : List String, pieces ≠ [] → (∀ x ∈ pieces, x ∈ smallPieces) →
    g.key ≠ f.key ++ String.join pieces

theorem Schema.unambiguous_of_apart {schema : Schema}
    (h : ∀ f ∈ schema.fields, ∀ g ∈ schema.fields, f.key.toList <+: g.key.toList → f.key = g.key) : schema.Unambiguous := by
  intro f hf g hg pieces hne hpieces hkey
  have hsame : f.key = g.key := h f hf g hg ⟨(String.join pieces).toList, by rw [hkey, String.toList_append]⟩
  obtain ⟨x, rest, rfl⟩ := List.exists_cons_of_ne_nil hne
  have hempty : ∀ y ∈ smallPieces, y.toList ≠ [] := by decide
  refine hempty x (hpieces x List.mem_cons_self) ?_
  have hlength := congrArg (fun key => key.toList.length) (hsame.trans hkey)
  simp only [String.toList_append, String.join_cons, List.length_append] at hlength
  exact List.length_eq_zero_iff.mp (by omega)

theorem fieldKey_append (a b : String) : fieldKey (a ++ b) = fieldKey a ++ fieldKey b := by
  simp [fieldKey, String.toList_append, List.filter_append, List.flatMap_append, String.ofList_append]

theorem fieldKey_join (xs : List String) : fieldKey (String.join xs) = String.join (xs.map fieldKey) := by
  induction xs with
  | nil => rfl
  | cons x xs ih => rw [String.join_cons, fieldKey_append, ih, List.map_cons, String.join_cons]

namespace MethodName

variable {schema : Schema} {v w : Spelling} {segment : List Char} {t : Term}

/-! ## The table of keywords -/

def pieces (negated : Bool) (keyword : String) : List String :=
  (if negated then ["Not"] else []) ++
    if keyword = "" then [] else if keyword = "NotIn" then ["Not", "In"] else [keyword]

abbrev entries : List (String × FilterOperator) := ("", .equals) :: FilterOperator.keywords

theorem join_pieces (negated : Bool) (keyword : String) : String.join (pieces negated keyword) = negation negated ++ keyword := by
  unfold pieces
  by_cases hempty : keyword = ""
  · cases negated <;> simp [hempty, negation]
  · by_cases hnotIn : keyword = "NotIn"
    · cases negated <;> simp [hnotIn, negation]
    · cases negated <;> simp [hempty, hnotIn, negation]

/-- No piece ends in another one, so what ends in pieces ends in them piece by piece. -/
theorem pieces_suffix : ∀ e ∈ entries, ∀ e' ∈ entries, ∀ n n' : Bool,
    (negation n' ++ e'.1).toList <:+ (negation n ++ e.1).toList → pieces n' e'.1 <:+ pieces n e.1 := by
  decide

theorem mem_smallPieces : ∀ e ∈ entries, ∀ n : Bool, ∀ x ∈ pieces n e.1, fieldKey x ∈ smallPieces := by
  decide

/-- Operator and negation, the negation of `in` being `notIn`. -/
def settle (negated : Bool) (operator : FilterOperator) : FilterOperator × Bool :=
  if negated = true ∧ operator = .in then (.notIn, false) else (operator, negated)

theorem settle_eq_of_pieces : ∀ e ∈ entries, ∀ e' ∈ entries, ∀ n n' : Bool,
    pieces n e.1 = pieces n' e'.1 → settle n e.2 = settle n' e'.2 := by
  decide

theorem ending_plain (c : Combinator) : ∀ e ∈ entries, ∀ n : Bool,
    ((negation n ++ e.1).toList = [] ∨ startsCapital (negation n ++ e.1).toList = true) ∧
      ¬c.token.toList <:+: (negation n ++ e.1).toList := by
  cases c <;> decide

namespace Spelling

def pieces (w : Spelling) : List String := MethodName.pieces w.negated w.keyword

theorem join_pieces (w : Spelling) : String.join w.pieces = w.ending := MethodName.join_pieces w.negated w.keyword

def settled (w : Spelling) : Term :=
  ⟨w.field.name, w.field.type, (settle w.negated w.operator).1, (settle w.negated w.operator).2⟩

/-! ## One reading of a segment -/

/-- If the token of one spelling begins with that of another of the same text, the rest of it is pieces. -/
theorem eq_of_longer_token (hs : schema.Unambiguous) (hv : v.Valid schema) (hw : w.Valid schema) {between : List Char}
    (htoken : w.token.toList = v.token.toList ++ between) (hending : v.ending.toList = between ++ w.ending.toList) :
    v.field = w.field ∧ v.pieces = w.pieces := by
  obtain ⟨more, hmore⟩ : w.pieces <:+ v.pieces :=
    pieces_suffix _ hv.keyword_mem _ hw.keyword_mem v.negated w.negated ⟨between, hending.symm⟩
  have hbetween : String.ofList between = String.join more := by
    rw [← join_pieces, ← join_pieces, ← hmore, String.join_append, String.toList_append, List.append_cancel_right_eq] at hending
    rw [← hending, String.ofList_toList]
  have hwtoken : w.token = v.token ++ String.join more := by
    rw [← String.ofList_toList (s := w.token), htoken, String.ofList_append, String.ofList_toList, hbetween]
  obtain ⟨hvmem, hvkey⟩ := Schema.field?_eq_some_iff.mp hv.field_eq
  obtain ⟨hwmem, hwkey⟩ := Schema.field?_eq_some_iff.mp hw.field_eq
  by_cases hnil : more = []
  · subst hnil
    have hsame : v.token = w.token := by rw [hwtoken]; exact (String.append_empty).symm
    refine ⟨?_, hmore.symm⟩
    have hfields := hv.field_eq.symm.trans (hsame ▸ hw.field_eq)
    exact Option.some.inj hfields
  · refine absurd ?_ (hs v.field hvmem w.field hwmem (more.map fieldKey) (by simpa using hnil) ?_)
    · rw [hwkey, hwtoken, fieldKey_append, ← hvkey, fieldKey_join]
    · intro x hx
      obtain ⟨piece, hpiece, rfl⟩ := List.mem_map.mp hx
      have hmem : piece ∈ v.pieces := by
        rw [← hmore]
        exact List.mem_append_left _ hpiece
      exact mem_smallPieces _ hv.keyword_mem v.negated piece hmem

theorem eq_of_text (hs : schema.Unambiguous) (hv : v.Valid schema) (hw : w.Valid schema)
    (htext : v.text.toList = w.text.toList) : v.settled = w.settled := by
  have hsame : v.field = w.field ∧ v.pieces = w.pieces := by
    rw [toList_text, toList_text, List.append_eq_append_iff] at htext
    rcases htext with ⟨between, htoken, hending⟩ | ⟨between, htoken, hending⟩
    · exact eq_of_longer_token hs hv hw htoken hending
    · obtain ⟨hfield, hpieces⟩ := eq_of_longer_token hs hw hv htoken hending
      exact ⟨hfield.symm, hpieces.symm⟩
  have hsettle := settle_eq_of_pieces _ hv.keyword_mem _ hw.keyword_mem v.negated w.negated hsame.2
  simp only at hsettle
  rw [settled, settled, hsame.1, hsettle]

end Spelling

theorem operator_of_readWith? {e : String × FilterOperator} (h : readWith? schema segment e = some t) : t.operator = e.2 := by
  obtain ⟨front, -, hread⟩ := Option.bind_eq_some_iff.mp h
  obtain ⟨_, _, _, -, -, -, rfl⟩ := readField?_eq_some hread
  rfl

/-- The keyword `NotIn` is tried before `In`, so a negated `in` is never read. -/
theorem settle_of_readTerm? (h : readTerm? schema segment = some t) : settle t.negated t.operator = (t.operator, t.negated) := by
  refine if_neg ?_
  rintro ⟨hnegated, hin⟩
  obtain ⟨v, hv, rfl, rfl⟩ := readTerm?_eq_some h
  have hlast : FilterOperator.keywords = FilterOperator.keywords.dropLast ++ [("In", .in)] := rfl
  have hbefore : ∀ e ∈ FilterOperator.keywords.dropLast, e.2 ≠ .in := by decide
  have hkeyword : ∀ e ∈ entries, e.2 = .in → e.1 = "In" := by decide
  obtain ⟨token, f, negated, keyword, operator⟩ := v
  obtain rfl : negated = true := hnegated
  obtain rfl : keyword = "In" := hkeyword _ hv.keyword_mem hin
  let u : Spelling := ⟨token, f, false, "NotIn", .notIn⟩
  have hentry : ("NotIn", FilterOperator.notIn) ∈ FilterOperator.keywords.dropLast := by decide
  have hu : u.Valid schema := ⟨hv.token_ne, hv.field_eq, List.mem_cons_of_mem _ (List.mem_of_mem_dropLast hentry)⟩
  have hread : (readWith? schema u.text.toList ("NotIn", FilterOperator.notIn)).isSome = true := isSome_readWith? hu
  obtain ⟨found, hfound⟩ := Option.isSome_iff_exists.mp
    (List.findSome?_isSome_iff.mpr ⟨("NotIn", FilterOperator.notIn), hentry, hread⟩)
  rw [readTerm?_eq, hlast, List.findSome?_append] at h
  rw [show (⟨token, f, true, "In", operator⟩ : Spelling).text = u.text from rfl, hfound, Option.some_or, Option.some_or] at h
  obtain ⟨e, hmem, he⟩ := List.exists_of_findSome?_eq_some hfound
  refine hbefore e hmem ?_
  rw [← operator_of_readWith? he, Option.some.inj h, hin]

theorem readTerm?_text (hs : schema.Unambiguous) (hw : w.Valid schema) : readTerm? schema w.text.toList = some w.settled := by
  obtain ⟨t, ht⟩ := Option.isSome_iff_exists.mp (isSome_readTerm? hw)
  obtain ⟨v, hv, htext, rfl⟩ := readTerm?_eq_some ht
  have hterm : v.settled = v.term := by
    have hsettle : settle v.negated v.operator = (v.operator, v.negated) := settle_of_readTerm? ht
    rw [Spelling.settled, hsettle]
    rfl
  rw [ht, ← hterm, Spelling.eq_of_text hs hv hw htext]

/-! ## Joined segments -/

/-- The token starts with a capital and holds no combinator. -/
structure Spelling.Plain (w : Spelling) : Prop where
  capital : startsCapital w.token.toList = true
  free : ∀ c : Combinator, ¬c.token.toList <:+: w.token.toList

theorem startsCapital_append {a : List Char} (h : startsCapital a = true) (b : List Char) : startsCapital (a ++ b) = true := by
  obtain ⟨c, tail, rfl, hc⟩ := startsCapital_iff.mp h
  exact hc

theorem Spelling.Plain.text (h : w.Plain) (hw : w.Valid schema) :
    startsCapital w.text.toList = true ∧ ∀ c : Combinator, ¬c.token.toList <:+: w.text.toList := by
  rw [toList_text]
  refine ⟨startsCapital_append h.capital _, fun c hc => ?_⟩
  obtain ⟨hcapital, hfree⟩ := ending_plain c _ hw.keyword_mem w.negated
  rcases ((camelWord_token c).infix_append_iff hcapital).mp hc with htoken | hending
  · exact h.free c htoken
  · exact hfree hending

theorem startsCapital_intercalate {token : List Char} {texts : List (List Char)} (hne : texts ≠ [])
    (h : ∀ s ∈ texts, startsCapital s = true) : startsCapital (token.intercalate texts) = true := by
  cases texts with
  | nil => exact absurd rfl hne
  | cons s tail =>
    have hs := h s List.mem_cons_self
    cases tail with
    | nil => rwa [List.intercalate_singleton]
    | cons s' tail =>
      rw [List.intercalate_cons_cons, List.append_assoc]
      exact startsCapital_append hs _

/-- In texts that hold no combinator and are joined by one, there is this one only. -/
theorem infix_intercalate_iff {c other : Combinator} {texts : List (List Char)} (hne : texts ≠ [])
    (h : ∀ s ∈ texts, startsCapital s = true ∧ ∀ c : Combinator, ¬c.token.toList <:+: s) :
    other.token.toList <:+: c.token.toList.intercalate texts ↔ other = c ∧ 1 < texts.length := by
  have hword := camelWord_token other
  induction texts with
  | nil => exact absurd rfl hne
  | cons s tail ih =>
    obtain ⟨⟨-, hs⟩, htail⟩ := List.forall_mem_cons.mp h
    cases tail with
    | nil => simpa using hs other
    | cons s' tail =>
      have hrest : startsCapital (c.token.toList.intercalate (s' :: tail)) = true :=
        startsCapital_intercalate (List.cons_ne_nil _ _) fun x hx => (htail x hx).1
      have hjoint : startsCapital (c.token.toList ++ c.token.toList.intercalate (s' :: tail)) = true :=
        (camelWord_token c).startsCapital_append _
      have htokens : other.token.toList <:+: c.token.toList ↔ other = c := by
        cases other <;> cases c <;> decide
      have hlater : other.token.toList <:+: c.token.toList.intercalate (s' :: tail) ↔ other = c ∧ 1 < (s' :: tail).length :=
        ih (List.cons_ne_nil _ _) htail
      rw [List.intercalate_cons_cons, List.append_assoc, hword.infix_append_iff (Or.inr hjoint),
        hword.infix_append_iff (Or.inr hrest), htokens, hlater]
      simp only [List.length_cons]
      constructor
      · rintro (hin | heq | ⟨heq, -⟩)
        · exact absurd hin (hs other)
        · exact ⟨heq, by omega⟩
        · exact ⟨heq, by omega⟩
      · exact fun hboth => Or.inr (Or.inl hboth.1)

variable {p : OperationPrefix} {ws : List Spelling}

/-- A name that is written from terms is read as these terms. -/
theorem parse_written (hs : schema.Unambiguous) (hp : p ∈ operationPrefixes) (c : Combinator) (hne : ws ≠ [])
    (hws : ∀ w ∈ ws, w.Valid schema ∧ w.Plain) :
    parse schema (p.text ++ c.token.intercalate (ws.map Spelling.text)) =
      .ok ⟨p.operation, p.cardinality, ⟨if ws.length = 1 then .and else c, ws.map Spelling.settled⟩⟩ := by
  let texts := ws.map (·.text.toList)
  have htexts : texts ≠ [] := by simpa [texts] using hne
  have hplain : ∀ s ∈ texts, startsCapital s = true ∧ ∀ c : Combinator, ¬c.token.toList <:+: s := by
    intro s hs
    obtain ⟨w, hw, rfl⟩ := List.mem_map.mp hs
    exact (hws w hw).2.text (hws w hw).1
  have hname : (p.text ++ c.token.intercalate (ws.map Spelling.text)).toList =
      p.text.toList ++ c.token.toList.intercalate texts := by
    rw [String.toList_append, String.toList_intercalate, List.map_map]
    rfl
  have hread : texts.mapM (readTerm schema (p.text ++ c.token.intercalate (ws.map Spelling.text))) =
      .ok (ws.map Spelling.settled) := by
    rw [mapM_eq_ok_iff, List.forall₂_map_left_iff, List.forall₂_map_right_iff, List.forall₂_same]
    exact fun w hw => readTerm_eq_ok_iff.mpr (readTerm?_text hs (hws w hw).1)
  by_cases hone : ws.length = 1
  · obtain ⟨w, rfl⟩ := List.length_eq_one_iff.mp hone
    have hcombines : Combines .and (c.token.toList.intercalate texts) := by
      refine ⟨fun other hin => ?_, fun h => by cases h⟩
      have := ((infix_intercalate_iff htexts hplain).mp hin).2
      simp [texts] at this
    have hcut : IsCut Combinator.and.token.toList (c.token.toList.intercalate texts) texts := by
      have := isCut_intercalate (camelWord_token .and) htexts fun s hs => ⟨(hplain s hs).1, (hplain s hs).2 .and⟩
      simpa [texts] using this
    rw [parse_of_parts hp hname hcombines hcut, hread, if_pos hone]
    rfl
  · have hmany : 1 < texts.length := by
      have := List.length_pos_iff.mpr hne
      simp only [texts, List.length_map]
      omega
    have hcombines : Combines c (c.token.toList.intercalate texts) :=
      ⟨fun other hin => ((infix_intercalate_iff htexts hplain).mp hin).1,
        fun _ => (infix_intercalate_iff htexts hplain).mpr ⟨rfl, hmany⟩⟩
    have hcut : IsCut c.token.toList (c.token.toList.intercalate texts) texts :=
      isCut_intercalate (camelWord_token c) htexts fun s hs => ⟨(hplain s hs).1, (hplain s hs).2 c⟩
    rw [parse_of_parts hp hname hcombines hcut, hread, if_neg hone]
    rfl

def memberSchema : Schema where
  entity := "Member"
  collection := "members"
  fields := [⟨"id", .int, true, false, false⟩, ⟨"status", .text, false, false, false⟩, ⟨"logged_in", .bool, false, false, false⟩]
  id := ⟨"id", .int, true, false, false⟩
  indexes := []
  dropsEntities := false
  dropsIndexes := false
  keys_nodup := by decide +kernel
  id_mem := List.mem_cons_self

def statusOrLoggedIn : List Spelling :=
  [⟨"Status", ⟨"status", .text, false, false, false⟩, true, "In", .in⟩,
    ⟨"LoggedIn", ⟨"logged_in", .bool, false, false, false⟩, true, "", .equals⟩]

/-- A token may end like a keyword, and the negation of `In` is read as `NotIn`. -/
theorem parse_written_members :
    memberSchema.Unambiguous ∧ (∀ w ∈ statusOrLoggedIn, w.Valid memberSchema ∧ w.Plain) ∧
      parse memberSchema "findManyByStatusNotInOrLoggedInNot" =
        .ok ⟨.find, some .many, ⟨.or, [⟨"status", .text, .notIn, false⟩, ⟨"logged_in", .bool, .equals, true⟩]⟩⟩ := by
  have hs : memberSchema.Unambiguous := Schema.unambiguous_of_apart (by decide +kernel)
  have hws : ∀ w ∈ statusOrLoggedIn, w.Valid memberSchema ∧ w.Plain := by
    rw [statusOrLoggedIn, List.forall_mem_cons, List.forall_mem_singleton]
    refine ⟨⟨⟨by decide, by decide +kernel, by decide⟩, ⟨rfl, ?_⟩⟩, ⟨⟨by decide, by decide +kernel, by decide⟩, ⟨rfl, ?_⟩⟩⟩
    all_goals
      rintro (_ | _)
      all_goals decide
  have hp : (⟨"findManyBy", .find, some .many⟩ : OperationPrefix) ∈ operationPrefixes := by decide
  exact ⟨hs, hws, parse_written hs hp .or (List.cons_ne_nil _ _) hws⟩

end MethodName
end DocumentRepository
