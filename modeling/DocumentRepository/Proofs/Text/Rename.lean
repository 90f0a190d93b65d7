import DocumentRepository.Proofs.Text.Words
import Mathlib

/-! # The renaming rules of `serde`

`serde` reads a name as it is written in snake case, letter by letter; the rules here cut it into words first. For
every rule it is told which names both turn into the same key.
-/
namespace DocumentRepository.Text

/-! ## The rules as `serde` has them -/

/-- Drops underscores and raises the letters behind them; `start` says whether one was just dropped. -/
def pascalFrom (start : Bool) : List Char → List Char
  | [] => []
  | c :: rest =>
    if c = '_' then pascalFrom true rest
    else (if start then c.toUpper else c) :: pascalFrom false rest

def dashed (c : Char) : Char := if c = '_' then '-' else c

def lowerFirst : List Char → List Char
  | [] => []
  | c :: rest => c.toLower :: rest

def RenameRule.serdeChars : RenameRule → List Char → List Char
  | .lowercase, cs => cs
  | .uppercase, cs => cs.map Char.toUpper
  | .pascalCase, cs => pascalFrom true cs
  | .camelCase, cs => lowerFirst (pascalFrom true cs)
  | .snakeCase, cs => cs
  | .screamingSnakeCase, cs => cs.map Char.toUpper
  | .kebabCase, cs => cs.map dashed
  | .screamingKebabCase, cs => (cs.map Char.toUpper).map dashed

def RenameRule.serde (rule : RenameRule) (name : String) : String := String.ofList (rule.serdeChars name.toList)

/-- The names of which a rule makes what `serde` makes of them. -/
def RenameRule.Agrees (rule : RenameRule) (name : String) : Prop :=
  match rule with
  | .lowercase => ∀ c ∈ name.toList, c.isUpper = false
  | .uppercase => True
  | .pascalCase | .camelCase => ∀ w ∈ words name, ∀ c ∈ w.tail, c.isUpper = false
  | .snakeCase | .kebabCase => (∀ c ∈ name.toList, c.isUpper = false) ∧ [] ∉ pieces name
  | .screamingSnakeCase | .screamingKebabCase => words name = pieces name

/-! ## Letters -/

theorem toLower_eq_self_iff {c : Char} : c.toLower = c ↔ c.isUpper = false := by
  constructor
  · intro h
    rw [← h]
    exact Char.isUpper_toLower_eq_false c
  · exact fun h => Char.toLower_eq_of_not_isUpper (Bool.eq_false_iff.mp h)

theorem toUpper_eq_self {c : Char} (hc : c.isAlphanum = true) (hcapital : isCapital c = true) : c.toUpper = c := by
  have hupper : c.isUpper = true := isCapital_of_ascii (ascii_of_alphanum hc) ▸ hcapital
  exact Char.toUpper_eq_of_not_isLower (Char.not_isLower_of_isUpper hupper)

theorem not_isUpper_of_isDigit {c : Char} (h : c.isDigit = true) : ¬ c.isUpper = true := by
  simp only [Char.isDigit, Char.isUpper, Bool.and_eq_true, decide_eq_true_eq, UInt32.le_iff_toNat_le, not_and] at h ⊢
  exact fun hfirst => absurd (hfirst.trans h.2) (by decide)

def KeepsAlphanum (f : Char → Char) : Prop := ∀ c : Char, c.isAlphanum = true → (f c).isAlphanum = true

/-- It is enough that letters stay letters and all else stays as it is. -/
theorem keepsAlphanum_of_isAlpha {f : Char → Char} (hletter : ∀ c, (f c).isAlpha = c.isAlpha)
    (helse : ∀ c, c.isAlpha = false → f c = c) : KeepsAlphanum f := by
  intro c hc
  cases halpha : c.isAlpha with
  | true => rw [Char.isAlphanum, hletter, halpha, Bool.true_or]
  | false => rwa [helse c halpha]

theorem keepsAlphanum_toUpper : KeepsAlphanum Char.toUpper := by
  refine keepsAlphanum_of_isAlpha Char.isAlpha_toUpper_eq_isAlpha fun c hc => Char.toUpper_eq_of_not_isLower ?_
  exact Bool.eq_false_iff.mp (Bool.or_eq_false_iff.mp hc).2

theorem keepsAlphanum_toLower : KeepsAlphanum Char.toLower := by
  refine keepsAlphanum_of_isAlpha Char.isAlpha_toLower_eq_isAlpha fun c hc => Char.toLower_eq_of_not_isUpper ?_
  exact Bool.eq_false_iff.mp (Bool.or_eq_false_iff.mp hc).1

theorem map_toLower_eq_self_iff {w : List Char} : w.map Char.toLower = w ↔ ∀ c ∈ w, c.isUpper = false := by
  calc w.map Char.toLower = w
    _ ↔ w.map Char.toLower = w.map id := by rw [List.map_id]
    _ ↔ ∀ c ∈ w, c.toLower = c := List.map_eq_map_iff
    _ ↔ ∀ c ∈ w, c.isUpper = false := forall₂_congr fun _ _ => toLower_eq_self_iff

/-! ## Words in ASCII -/

def capitalized : List Char → List Char
  | [] => []
  | c :: rest => c.toUpper :: rest.map Char.toLower

theorem lowerWord_of_alphanum {w : List Char} (hw : ∀ c ∈ w, c.isAlphanum = true) : lowerWord w = w.map Char.toLower := by
  fun_induction lowerWord w with
  | case1 => rfl
  | case2 => exact absurd (hw _ List.mem_cons_self) (by decide)
  | case3 c hc => rw [lowerChar_of_ascii (ascii_of_alphanum (hw c List.mem_cons_self))]; rfl
  | case4 c rest hne ih =>
    rw [lowerChar_of_ascii (ascii_of_alphanum (hw c List.mem_cons_self)), ih fun d hd => hw d (List.mem_cons_of_mem c hd)]
    rfl

theorem capitalWord_of_alphanum {w : List Char} (hw : ∀ c ∈ w, c.isAlphanum = true) : capitalWord w = capitalized w := by
  match w with
  | [] => rfl
  | c :: rest =>
    rw [capitalWord, upperChar_of_ascii (ascii_of_alphanum (hw c List.mem_cons_self)),
      lowerWord_of_alphanum fun d hd => hw d (List.mem_cons_of_mem c hd)]
    rfl

theorem flatMap_upperChar {cs : List Char} (hcs : ∀ c ∈ cs, c.toNat < 128) : cs.flatMap upperChar = cs.map Char.toUpper := by
  induction cs with
  | nil => rfl
  | cons c rest ih =>
    rw [List.flatMap_cons, upperChar_of_ascii (hcs c List.mem_cons_self), ih fun d hd => hcs d (List.mem_cons_of_mem c hd)]
    rfl

theorem upperWord_of_alphanum {w : List Char} (hw : ∀ c ∈ w, c.isAlphanum = true) : upperWord w = w.map Char.toUpper :=
  flatMap_upperChar fun c hc => ascii_of_alphanum (hw c hc)

theorem lowerFrom_of_ascii {cs : List Char} (hcs : ∀ c ∈ cs, c.toNat < 128) (before : List Char) :
    lowerFrom before cs = cs.map Char.toLower := by
  induction cs generalizing before with
  | nil => rfl
  | cons c rest ih =>
    have hc : c.toNat < 128 := hcs c List.mem_cons_self
    have hsigma : c ≠ 'Σ' := by rintro rfl; exact absurd hc (by decide)
    rw [lowerFrom, ih fun d hd => hcs d (List.mem_cons_of_mem c hd), if_neg hsigma, lowerChar_of_ascii hc]
    rfl

/-! ## Texts with a separator -/

theorem map_intercalate (f : Char → Char) (sep : List Char) (texts : List (List Char)) :
    (sep.intercalate texts).map f = (sep.map f).intercalate (texts.map (List.map f)) := by
  match texts with
  | [] => rfl
  | [_] => simp
  | t :: u :: rest =>
    rw [List.intercalate_cons_cons, List.map_append, List.map_append, map_intercalate f sep (u :: rest)]
    simp

theorem map_toUpper_eq (name : String) :
    name.toList.map Char.toUpper = ['_'].intercalate ((pieces name).map (List.map Char.toUpper)) := by
  rw [← intercalate_pieces name, map_intercalate]
  rfl

theorem mem_intercalate {sep : List Char} {texts : List (List Char)} {c : Char} (hc : c ∈ sep.intercalate texts) :
    c ∈ sep ∨ ∃ t ∈ texts, c ∈ t := by
  match texts with
  | [] => cases hc
  | [t] => exact .inr ⟨t, List.mem_cons_self, by simpa using hc⟩
  | t :: u :: rest =>
    rw [List.intercalate_cons_cons, List.mem_append, List.mem_append] at hc
    rcases hc with (hc | hc) | hc
    · exact .inr ⟨t, List.mem_cons_self, hc⟩
    · exact .inl hc
    · rcases mem_intercalate hc with hc | ⟨v, hv, hc⟩
      · exact .inl hc
      · exact .inr ⟨v, List.mem_cons_of_mem t hv, hc⟩

theorem not_mem_map {f : Char → Char} (hf : KeepsAlphanum f) {d : Char} (hd : d.isAlphanum = false)
    {texts : List (List Char)} (htexts : ∀ t ∈ texts, ∀ c ∈ t, c.isAlphanum = true) :
    ∀ t ∈ texts.map (List.map f), d ∉ t := by
  intro t ht hmem
  obtain ⟨u, hu, rfl⟩ := List.mem_map.mp ht
  obtain ⟨c, hc, rfl⟩ := List.mem_map.mp hmem
  rw [hf c (htexts u hu c hc)] at hd
  cases hd

theorem dash_not_mem_intercalate {f : Char → Char} (hf : KeepsAlphanum f) {texts : List (List Char)}
    (htexts : ∀ t ∈ texts, ∀ c ∈ t, c.isAlphanum = true) : '-' ∉ ['_'].intercalate (texts.map (List.map f)) := by
  intro hmem
  rcases mem_intercalate hmem with hmem | ⟨t, ht, hmem⟩
  · exact absurd hmem (by decide)
  · exact not_mem_map hf (by decide) htexts t ht hmem

theorem map_length_map (f : Char → Char) (texts : List (List Char)) :
    (texts.map (List.map f)).map List.length = texts.map List.length := by
  rw [List.map_map]
  exact List.map_congr_left fun t _ => List.length_map f

theorem toList_joinWords (separator : String) (ws : List (List Char)) :
    (joinWords separator ws).toList = separator.toList.intercalate ws := by
  rw [joinWords, String.toList_intercalate, List.map_map]
  simp

theorem flatMap_eq_flatMap_iff {α : Type} {l : List α} {f g : α → List Char} (h : ∀ x ∈ l, (f x).length = (g x).length) :
    l.flatMap f = l.flatMap g ↔ ∀ x ∈ l, f x = g x := by
  induction l with
  | nil => simp
  | cons x rest ih =>
    have hrest := ih fun y hy => h y (List.mem_cons_of_mem x hy)
    rw [List.flatMap_cons, List.flatMap_cons, List.forall_mem_cons, ← hrest]
    constructor
    · exact fun heq => List.append_inj heq (h x List.mem_cons_self)
    · rintro ⟨hx, hr⟩
      rw [hx, hr]

theorem intercalate_empty (texts : List (List Char)) : ([] : List Char).intercalate texts = texts.flatten := by
  match texts with
  | [] => rfl
  | [t] => simp
  | t :: u :: rest =>
    rw [List.intercalate_cons_cons, intercalate_empty (u :: rest)]
    simp

/-! ## Capitals behind underscores -/

theorem pascalFrom_eq (cs : List Char) :
    pascalFrom true cs = (cs.splitOn '_').flatMap capitalizeFirst ∧
      pascalFrom false cs = (cs.splitOn '_').headD [] ++ (cs.splitOn '_').tail.flatMap capitalizeFirst := by
  induction cs with
  | nil => exact ⟨rfl, rfl⟩
  | cons c rest ih =>
    rw [List.splitOn_cons_eq_if_modifyHead]
    unfold pascalFrom
    by_cases hc : c = '_'
    · rw [if_pos hc, if_pos hc, if_pos (beq_iff_eq.mpr hc), ih.1]
      exact ⟨rfl, rfl⟩
    · have hplain : ¬(c == '_') = true := mt beq_iff_eq.mp hc
      rw [if_neg hc, if_neg hc, if_neg hplain, ih.2]
      match h : rest.splitOn '_' with
      | [] => exact absurd h (List.splitOn_ne_nil _ _)
      | q :: qs => exact ⟨rfl, rfl⟩

theorem head_flatMap {f : List Char → List Char} (hnil : f [] = [])
    (hcons : ∀ c cs, (f (c :: cs)).head? = some c.toUpper) (texts : List (List Char)) :
    (texts.flatMap f).head? = texts.flatten.head?.map Char.toUpper := by
  induction texts with
  | nil => rfl
  | cons t rest ih =>
    rw [List.flatMap_cons, List.flatten_cons, List.head?_append, List.head?_append, ih]
    cases t with
    | nil => rw [hnil]; rfl
    | cons c cs => rw [hcons]; rfl

theorem length_capitalized (w : List Char) : (capitalized w).length = w.length := by
  cases w <;> simp [capitalized]

theorem length_flatMap_capitalized (ws : List (List Char)) : (ws.flatMap capitalized).length = ws.flatten.length := by
  induction ws with
  | nil => rfl
  | cons w rest ih => rw [List.flatMap_cons, List.flatten_cons, List.length_append, List.length_append, length_capitalized, ih]

/-- A word that starts with a capital is kept if no other capital is in it. -/
theorem capitalized_eq_self_iff {w : List Char} (hw : ∀ c ∈ w, c.isAlphanum = true) (hcapital : CapitalStart w) :
    capitalized w = w ↔ ∀ c ∈ w.tail, c.isUpper = false := by
  obtain ⟨c, hc, hcapital⟩ := hcapital
  match w with
  | [] => cases hc
  | d :: rest =>
    obtain rfl : d = c := Option.some.inj hc
    rw [capitalized, toUpper_eq_self (hw d List.mem_cons_self) hcapital, List.cons.injEq, and_iff_right rfl,
      map_toLower_eq_self_iff]
    rfl

theorem flatMap_capitalized_iff {ws : List (List Char)} (halphanum : ∀ w ∈ ws, ∀ c ∈ w, c.isAlphanum = true)
    (hne : ∀ w ∈ ws, w ≠ []) (hcapital : ∀ w ∈ ws.tail, CapitalStart w) :
    ws.flatMap capitalized = capitalizeFirst ws.flatten ↔ ∀ w ∈ ws, ∀ c ∈ w.tail, c.isUpper = false := by
  match ws with
  | [] => simp [capitalizeFirst]
  | [] :: vs => exact absurd rfl (hne [] List.mem_cons_self)
  | (c :: w) :: vs =>
    have hw : w.map Char.toLower = w ↔ ∀ c ∈ w, c.isUpper = false := map_toLower_eq_self_iff
    have hvs : vs.flatMap capitalized = vs.flatMap id ↔ ∀ v ∈ vs, ∀ c ∈ v.tail, c.isUpper = false := by
      rw [flatMap_eq_flatMap_iff (f := capitalized) (g := id) fun v _ => length_capitalized v]
      exact forall₂_congr fun v hv =>
        capitalized_eq_self_iff (halphanum v (List.mem_cons_of_mem _ hv)) (hcapital v hv)
    -- the first word need not start with a capital: both sides raise its first letter
    rw [List.forall_mem_cons, List.tail_cons, ← hw, ← hvs, List.flatMap_cons, List.flatten_cons, List.flatMap_id]
    show c.toUpper :: (w.map Char.toLower ++ vs.flatMap capitalized) = c.toUpper :: (w ++ vs.flatten) ↔ _
    rw [List.cons.injEq, and_iff_right rfl]
    constructor
    · exact fun heq => List.append_inj heq (List.length_map _)
    · rintro ⟨hleft, hright⟩
      rw [hleft, hright]

/-! ## Dashes for underscores -/

def undashed (c : Char) : Char := if c = '-' then '_' else c

theorem map_undashed {cs : List Char} (hcs : '-' ∉ cs) : (cs.map dashed).map undashed = cs := by
  have hback : ∀ c ∈ cs, undashed (dashed c) = id c := by
    intro c hc
    have hdash : c ≠ '-' := fun h => hcs (h ▸ hc)
    unfold undashed dashed
    split <;> simp_all
  rw [List.map_map]
  exact (List.map_congr_left hback).trans (List.map_id cs)

theorem map_dashed_inj {cs ds : List Char} (hcs : '-' ∉ cs) (hds : '-' ∉ ds) :
    cs.map dashed = ds.map dashed ↔ cs = ds := by
  refine ⟨fun heq => ?_, congrArg _⟩
  rw [← map_undashed hcs, heq, map_undashed hds]

/-! ## What the rules make of names in ASCII -/

namespace AsciiName

variable {name : String} (h : AsciiName name)
include h

theorem dash_not_mem : '-' ∉ name.toList := by
  intro hmem
  exact absurd (h.chars '-' hmem) (by decide)

theorem map_words {f g : List Char → List Char} (hfg : ∀ w, (∀ c ∈ w, c.isAlphanum = true) → f w = g w) :
    (words name).map f = (words name).map g :=
  List.map_congr_left fun w hw => hfg w (h.alphanum_of_mem_word w hw)

theorem toList_lowercase : (RenameRule.lowercase.apply name).toList = name.toList.map Char.toLower := by
  rw [RenameRule.apply, lower, String.toList_ofList, lowerFrom_of_ascii h.ascii]

theorem toList_uppercase : (RenameRule.uppercase.apply name).toList = name.toList.map Char.toUpper := by
  rw [RenameRule.apply, upper, String.toList_ofList, flatMap_upperChar h.ascii]

theorem toList_pascalCase : (RenameRule.pascalCase.apply name).toList = (words name).flatMap capitalized := by
  rw [RenameRule.apply, pascalCase, toList_joinWords, h.map_words fun _ => capitalWord_of_alphanum]
  exact intercalate_empty _

theorem toList_camelCase : (RenameRule.camelCase.apply name).toList = lowerFirst ((words name).flatMap capitalized) := by
  have halphanum := h.alphanum_of_mem_word
  have hne : ∀ w ∈ words name, w ≠ [] := fun w hw => h.word_ne_nil hw
  rw [RenameRule.apply, camelCase, toList_joinWords]
  match hwords : words name with
  | [] => rfl
  | [] :: ws => exact absurd rfl (hne [] (by simp [hwords]))
  | (c :: w) :: ws =>
    rw [hwords] at halphanum
    have hfirst : lowerWord (c :: w) = c.toUpper.toLower :: w.map Char.toLower := by
      rw [lowerWord_of_alphanum (halphanum _ List.mem_cons_self), List.map_cons, Char.toLower_toUpper_eq_toLower]
    have hrest : ws.map capitalWord = ws.map capitalized :=
      List.map_congr_left fun v hv => capitalWord_of_alphanum (halphanum v (List.mem_cons_of_mem _ hv))
    show ([] : List Char).intercalate (lowerWord (c :: w) :: ws.map capitalWord) = _
    rw [hfirst, hrest, intercalate_empty]
    rfl

theorem toList_snakeCase :
    (RenameRule.snakeCase.apply name).toList = ['_'].intercalate ((words name).map (List.map Char.toLower)) := by
  rw [RenameRule.apply, snakeCase, toList_joinWords, h.map_words fun _ => lowerWord_of_alphanum]
  rfl

theorem toList_screamingSnakeCase :
    (RenameRule.screamingSnakeCase.apply name).toList = ['_'].intercalate ((words name).map (List.map Char.toUpper)) := by
  rw [RenameRule.apply, screamingSnakeCase, toList_joinWords,
    h.map_words fun _ => upperWord_of_alphanum]
  rfl

/-- Words hold no underscore, so that the dashes are where the underscores were. -/
theorem dashed_words {f : Char → Char} (hf : KeepsAlphanum f) :
    ['-'].intercalate ((words name).map (List.map f)) = (['_'].intercalate ((words name).map (List.map f))).map dashed := by
  have hplain : (words name).map (List.map f) = ((words name).map (List.map f)).map (List.map dashed) := by
    rw [List.map_map]
    refine h.map_words fun w hw => ?_
    rw [Function.comp_apply, List.map_map]
    refine List.map_congr_left fun c hc => ?_
    exact (if_neg (alphanum_ne_underscore (hf c (hw c hc)))).symm
  rw [map_intercalate, ← hplain]
  rfl

theorem toList_kebabCase :
    (RenameRule.kebabCase.apply name).toList = (RenameRule.snakeCase.apply name).toList.map dashed := by
  rw [h.toList_snakeCase, ← h.dashed_words keepsAlphanum_toLower, RenameRule.apply, kebabCase, toList_joinWords,
    h.map_words fun _ => lowerWord_of_alphanum]
  rfl

theorem toList_screamingKebabCase :
    (RenameRule.screamingKebabCase.apply name).toList = (RenameRule.screamingSnakeCase.apply name).toList.map dashed := by
  rw [h.toList_screamingSnakeCase, ← h.dashed_words keepsAlphanum_toUpper, RenameRule.apply, screamingKebabCase,
    toList_joinWords,
    h.map_words fun _ => upperWord_of_alphanum]
  rfl

/-! ## Where the rules agree -/

theorem words_eq_pieces (hsmall : ∀ c ∈ name.toList, c.isUpper = false) (hfull : [] ∉ pieces name) :
    words name = pieces name := by
  rw [h.words_eq_filter hsmall, List.filter_eq_self]
  intro p hp
  cases p with
  | nil => exact absurd hp hfull
  | cons c cs => rfl

theorem map_toLower_words (hsmall : ∀ c ∈ name.toList, c.isUpper = false) :
    (words name).map (List.map Char.toLower) = words name := by
  have hkept : ∀ w ∈ words name, w.map Char.toLower = id w := by
    intro w hw
    refine map_toLower_eq_self_iff.mpr fun c hc => ?_
    have hflat : c ∈ (pieces name).flatten := h.words_flatten ▸ List.mem_flatten_of_mem hw hc
    obtain ⟨p, hp, hcp⟩ := List.mem_flatten.mp hflat
    exact hsmall c (mem_splitOn hp hcp).1
  exact (List.map_congr_left hkept).trans (List.map_id _)

/-- In small letters, underscores at the ends and behind one another are lost. -/
theorem snakeCase_of_small (hsmall : ∀ c ∈ name.toList, c.isUpper = false) :
    (RenameRule.snakeCase.apply name).toList = ['_'].intercalate ((pieces name).filter (!·.isEmpty)) := by
  rw [h.toList_snakeCase, h.map_toLower_words hsmall, h.words_eq_filter hsmall]

theorem snake_iff : ['_'].intercalate ((words name).map (List.map Char.toLower)) = name.toList ↔
    (∀ c ∈ name.toList, c.isUpper = false) ∧ [] ∉ pieces name := by
  constructor
  · intro heq
    have hsmall : ∀ c ∈ name.toList, c.isUpper = false := by
      intro c hc
      rw [← heq] at hc
      rcases mem_intercalate hc with hc | ⟨w, hw, hc⟩
      · rw [List.mem_singleton.mp hc]
        rfl
      · obtain ⟨v, hv, rfl⟩ := List.mem_map.mp hw
        obtain ⟨d, hd, rfl⟩ := List.mem_map.mp hc
        exact Char.isUpper_toLower_eq_false d
    refine ⟨hsmall, fun hempty => ?_⟩
    have hne : (words name).map (List.map Char.toLower) ≠ [] := by
      intro hnil
      rw [hnil] at heq
      exact h.ne_nil heq.symm
    -- the words are the pieces of their own text, and no word is empty
    have hpieces : pieces name = words name := by
      have hplain := not_mem_map (d := '_') keepsAlphanum_toLower (by decide) h.alphanum_of_mem_word
      rw [pieces, ← heq, List.splitOn_intercalate '_' hplain hne, h.map_toLower_words hsmall]
    rw [hpieces] at hempty
    exact h.word_ne_nil hempty rfl
  · rintro ⟨hsmall, hfull⟩
    rw [h.map_toLower_words hsmall, h.words_eq_pieces hsmall hfull, intercalate_pieces]

theorem screaming_iff : ['_'].intercalate ((words name).map (List.map Char.toUpper)) = name.toList.map Char.toUpper ↔
    words name = pieces name := by
  rw [map_toUpper_eq]
  constructor
  · intro heq
    have hpieces : (pieces name).map (List.map Char.toUpper) ≠ [] :=
      mt List.map_eq_nil_iff.mp (List.splitOn_ne_nil '_' name.toList)
    have hwords : (words name).map (List.map Char.toUpper) ≠ [] := by
      intro hnil
      rw [hnil, ← map_toUpper_eq] at heq
      exact h.ne_nil (List.map_eq_nil_iff.mp heq.symm)
    have hsplit : (words name).map (List.map Char.toUpper) = (pieces name).map (List.map Char.toUpper) := by
      have hplain := not_mem_map (d := '_') keepsAlphanum_toUpper (by decide) h.alphanum_of_mem_word
      have hplain' := not_mem_map (d := '_') keepsAlphanum_toUpper (by decide) h.alphanum_of_mem_piece
      rw [← List.splitOn_intercalate '_' hplain hwords, heq, List.splitOn_intercalate '_' hplain' hpieces]
    -- raised, the words are the pieces, so that they are as long; and they make up the same text
    have hlengths : (words name).map List.length = (pieces name).map List.length := by
      rw [← map_length_map Char.toUpper, hsplit, map_length_map]
    exact List.eq_iff_flatten_eq.mpr ⟨h.words_flatten, hlengths⟩
  · intro heq
    rw [heq]

theorem pascal_iff : (words name).flatMap capitalized = pascalFrom true name.toList ↔
    ∀ w ∈ words name, ∀ c ∈ w.tail, c.isUpper = false := by
  have hflat : ∀ p, (cutWords .undecided [] p).flatten = p := cutWords_flatten .undecided []
  have hlength : ∀ p ∈ pieces name,
      ((cutWords .undecided [] p).flatMap capitalized).length = (capitalizeFirst p).length := by
    intro p _
    rw [length_flatMap_capitalized, hflat]
    cases p <;> rfl
  have hpiece : ∀ p ∈ pieces name, (cutWords .undecided [] p).flatMap capitalized = capitalizeFirst p ↔
      ∀ w ∈ cutWords .undecided [] p, ∀ c ∈ w.tail, c.isUpper = false := by
    intro p hp
    have halphanum : ∀ w ∈ cutWords .undecided [] p, ∀ c ∈ w, c.isAlphanum = true := fun w hw c hc =>
      h.alphanum_of_mem_piece p hp c (hflat p ▸ List.mem_flatten_of_mem hw hc)
    have hwords := flatMap_capitalized_iff halphanum
      (fun w hw => ne_nil_of_mem_cutWords (by nofun) hw)
      (capitalStart_of_mem_tail (by nofun))
    rwa [hflat] at hwords
  -- the two sides are compared piece by piece, since they are equally long there
  rw [(pascalFrom_eq _).1, h.words_eq, List.flatMap_assoc]
  calc (pieces name).flatMap (fun p => (cutWords .undecided [] p).flatMap capitalized) =
        (pieces name).flatMap capitalizeFirst
    _ ↔ ∀ p ∈ pieces name, (cutWords .undecided [] p).flatMap capitalized = capitalizeFirst p :=
      flatMap_eq_flatMap_iff hlength
    _ ↔ ∀ p ∈ pieces name, ∀ w ∈ cutWords .undecided [] p, ∀ c ∈ w.tail, c.isUpper = false := forall₂_congr hpiece
    _ ↔ ∀ w ∈ (pieces name).flatMap (cutWords .undecided []), ∀ c ∈ w.tail, c.isUpper = false := by
      simp only [List.mem_flatMap]
      exact ⟨fun hall w ⟨p, hp, hw⟩ => hall p hp w hw, fun hall p hp w hw => hall w ⟨p, hp, hw⟩⟩

theorem head_capitalized : ((words name).flatMap capitalized).head? = (pascalFrom true name.toList).head? := by
  rw [(pascalFrom_eq _).1, head_flatMap (f := capitalized) rfl fun _ _ => rfl, h.words_flatten]
  exact (head_flatMap (f := capitalizeFirst) rfl (fun _ _ => rfl) (pieces name)).symm

theorem camel_iff : lowerFirst ((words name).flatMap capitalized) = lowerFirst (pascalFrom true name.toList) ↔
    (words name).flatMap capitalized = pascalFrom true name.toList := by
  refine ⟨fun heq => ?_, congrArg lowerFirst⟩
  have hhead := h.head_capitalized
  match hleft : (words name).flatMap capitalized, hright : pascalFrom true name.toList with
  | [], [] => rfl
  | [], _ :: _ => simp [hleft, hright] at hhead
  | _ :: _, [] => simp [hleft, hright] at hhead
  | c :: cs, d :: ds =>
    rw [hleft, hright] at heq hhead
    rw [Option.some.inj hhead, (List.cons.inj heq).2]

/-- For names in ASCII it is known of every rule where it is the rule of `serde`. -/
theorem apply_eq_serde_iff (rule : RenameRule) : rule.apply name = rule.serde name ↔ rule.Agrees name := by
  rw [← String.toList_inj, RenameRule.serde, String.toList_ofList]
  cases rule with
  | lowercase =>
    rw [h.toList_lowercase]
    exact map_toLower_eq_self_iff
  | uppercase =>
    rw [h.toList_uppercase]
    exact iff_of_true rfl trivial
  | pascalCase =>
    rw [h.toList_pascalCase]
    exact h.pascal_iff
  | camelCase =>
    rw [h.toList_camelCase]
    exact h.camel_iff.trans h.pascal_iff
  | snakeCase =>
    rw [h.toList_snakeCase]
    exact h.snake_iff
  | screamingSnakeCase =>
    rw [h.toList_screamingSnakeCase]
    exact h.screaming_iff
  | kebabCase =>
    have hdash := dash_not_mem_intercalate keepsAlphanum_toLower h.alphanum_of_mem_word
    rw [h.toList_kebabCase, h.toList_snakeCase]
    exact (map_dashed_inj hdash h.dash_not_mem).trans h.snake_iff
  | screamingKebabCase =>
    have hdash := dash_not_mem_intercalate keepsAlphanum_toUpper h.alphanum_of_mem_word
    have hname := dash_not_mem_intercalate keepsAlphanum_toUpper h.alphanum_of_mem_piece
    rw [← map_toUpper_eq] at hname
    rw [h.toList_screamingKebabCase, h.toList_screamingSnakeCase]
    exact (map_dashed_inj hdash hname).trans h.screaming_iff

theorem agrees_of_small (hsmall : ∀ c ∈ name.toList, c.isUpper = false) (hfull : [] ∉ pieces name) (rule : RenameRule) :
    rule.Agrees name := by
  have hpieces := h.words_eq_pieces hsmall hfull
  have htails : ∀ w ∈ words name, ∀ c ∈ w.tail, c.isUpper = false := by
    intro w hw c hc
    rw [hpieces] at hw
    exact hsmall c (mem_splitOn hw (List.mem_of_mem_tail hc)).1
  cases rule with
  | lowercase => exact hsmall
  | uppercase => trivial
  | pascalCase | camelCase => exact htails
  | snakeCase | kebabCase => exact ⟨hsmall, hfull⟩
  | screamingSnakeCase | screamingKebabCase => exact hpieces

end AsciiName

/-! ## Names in small letters -/

def isSmallName (name : String) : Bool := name.toList.all fun c => c.isLower || c.isDigit || c == '_'

theorem not_isUpper_of_isSmallName {name : String} (h : isSmallName name = true) :
    ∀ c ∈ name.toList, c.isUpper = false := by
  intro c hc
  have hchar := List.all_eq_true.mp h c hc
  simp only [Bool.or_eq_true, beq_iff_eq] at hchar
  rcases hchar with (hchar | hchar) | rfl
  · exact Bool.eq_false_iff.mpr (Char.not_isUpper_of_isLower hchar)
  · exact Bool.eq_false_iff.mpr (not_isUpper_of_isDigit hchar)
  · rfl

theorem asciiName_of_isSmallName {name : String} (hne : name.toList ≠ []) (h : isSmallName name = true) :
    AsciiName name where
  ne_nil := hne
  chars c hc := by
    have hchar := List.all_eq_true.mp h c hc
    simp only [Bool.or_eq_true, beq_iff_eq] at hchar
    rcases hchar with (hchar | hchar) | rfl
    · exact .inl (alphanum_of_isLower hchar)
    · exact .inl (alphanum_of_isDigit hchar)
    · exact .inr rfl

/-- Names in small letters with single underscores between them agree under all rules. -/
theorem agrees_of_isSmallName {name : String} (h : isSmallName name = true) (hfull : [] ∉ pieces name)
    (rule : RenameRule) : AsciiName name ∧ rule.Agrees name := by
  have hne : name.toList ≠ [] := by
    intro hnil
    rw [pieces, hnil] at hfull
    exact hfull List.mem_cons_self
  have hname := asciiName_of_isSmallName hne h
  exact ⟨hname, hname.agrees_of_small (not_isUpper_of_isSmallName h) hfull rule⟩

end DocumentRepository.Text
