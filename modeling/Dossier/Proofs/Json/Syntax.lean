import Dossier.Proofs.Json.Draft
import Dossier.Proofs.Json.Spelling

/-!
# The grammar and the reader agree

A text is JSON by the grammar of characters if and only if its draft can be passed over and nothing
follows (`isJson_iff`). The lexemes stand between the two: a phrase of the grammar has lexemes that
spell something (`IsPhrase.exists_spells`), and what lexemes spell is a phrase of the text that
they are cut from (`Spells.exists_isPhrase`).
-/

namespace Dossier.Json

open Grammar

variable {cs : List Char} {p : Phrase} {tree : Tree} {ts more : List Lexeme} {text : String}

/-! ## From phrases to lexemes -/

/-- Lexemes that spell what a phrase is. -/
def Grammar.Phrase.IsSpeltBy (ts : List Lexeme) : Phrase → Prop
  | .value | .element => ∃ d, Spells (.value d) ts
  | .elements => ∃ ds, Spells (.items ds) ts
  | .member => ∃ m, Spells (.members [m]) ts
  | .members => ∃ ms, Spells (.members ms) ts

/-- The end of the text ends a number. -/
theorem endsNumber_nil : EndsNumber [] := by rintro _ ⟨⟩

/-- Blanks end a number, and so does what ends it after them. -/
theorem endsNumber_append {ws rest : List Char} (hws : AreBlanks ws) (hrest : EndsNumber rest) :
    EndsNumber (ws ++ rest) := by
  cases ws with
  | nil => exact hrest
  | cons b ws =>
    rintro _ ⟨⟩
    have hb : isJsonBlank b = true := hws b (.head _)
    simp only [isJsonBlank, Bool.or_eq_true, beq_iff_eq] at hb
    rcases hb with ((rfl | rfl) | rfl) | rfl <;> decide

/-- A mark ends a number. -/
theorem endsNumber_cons {c : Char} (hc : c ∈ [',', ':', ']', '\x7d']) (rest : List Char) :
    EndsNumber (c :: rest) := by
  rintro _ ⟨⟩
  simp only [List.mem_cons, List.not_mem_nil, or_false] at hc
  rcases hc with rfl | rfl | rfl | rfl <;> decide

/-- **A phrase has lexemes that spell what it is**, and after them those of the text that
follows. -/
theorem exists_spells (h : IsPhrase p cs) {rest : List Char} (hrest : EndsNumber rest) :
    ∃ ts, p.IsSpeltBy ts ∧ lexemes (cs ++ rest) = ts ++ lexemes rest := by
  induction h generalizing rest with
  | null => exact ⟨[.null], ⟨_, .null⟩, lexemes_cons (by decide) rfl⟩
  | true => exact ⟨[.bool true], ⟨_, .bool true⟩, lexemes_cons (by decide) rfl⟩
  | false => exact ⟨[.bool false], ⟨_, .bool false⟩, lexemes_cons (by decide) rfl⟩
  | number h =>
    obtain ⟨n, hlexemes⟩ := exists_lexemes_number h hrest
    exact ⟨[.number n], ⟨_, .number n⟩, hlexemes⟩
  | string h =>
    obtain ⟨s, hlexemes⟩ := exists_lexemes_string h rest
    exact ⟨[.string s], ⟨_, .string s⟩, hlexemes⟩
  | emptyArray hws =>
    have hblank : lexemes (_ ++ ']' :: rest) = [] ++ lexemes (']' :: rest) :=
      lexemes_append_of_areBlanks hws _
    exact ⟨[.openArray, .closeArray], ⟨_, .emptyArray⟩,
      lexemes_enclosed isMark_openArray isMark_closeArray hblank⟩
  | array _ ih =>
    obtain ⟨ts, ⟨ds, hts⟩, hlexemes⟩ := ih (endsNumber_cons (c := ']') (by simp) rest)
    exact ⟨_, ⟨_, .array hts⟩, lexemes_enclosed isMark_openArray isMark_closeArray hlexemes⟩
  | emptyObject hws =>
    have hblank : lexemes (_ ++ '\x7d' :: rest) = [] ++ lexemes ('\x7d' :: rest) :=
      lexemes_append_of_areBlanks hws _
    exact ⟨[.openObject, .closeObject], ⟨_, .emptyObject⟩,
      lexemes_enclosed isMark_openObject isMark_closeObject hblank⟩
  | object _ ih =>
    obtain ⟨ts, ⟨ms, hts⟩, hlexemes⟩ := ih (endsNumber_cons (c := '\x7d') (by simp) rest)
    exact ⟨_, ⟨_, .object hts⟩, lexemes_enclosed isMark_openObject isMark_closeObject hlexemes⟩
  | element hbefore _ hafter ih =>
    obtain ⟨ts, hts, hlexemes⟩ := ih (endsNumber_append hafter hrest)
    refine ⟨ts, hts, ?_⟩
    rw [List.append_assoc, List.append_assoc, lexemes_append_of_areBlanks hbefore, hlexemes,
      lexemes_append_of_areBlanks hafter]
  | lastElement _ ih =>
    obtain ⟨ts, ⟨d, hts⟩, hlexemes⟩ := ih hrest
    exact ⟨ts, ⟨[d], .lastItem hts⟩, hlexemes⟩
  | @moreElements cs ds _ _ ih ihs =>
    obtain ⟨ts, ⟨d, hts⟩, hlexemes⟩ := ih (endsNumber_cons (c := ',') (by simp) (ds ++ rest))
    obtain ⟨us, ⟨items, hus⟩, hlexemes'⟩ := ihs hrest
    refine ⟨ts ++ .comma :: us, ⟨_, .item hts hus⟩, ?_⟩
    rw [List.append_assoc, List.cons_append, hlexemes, isMark_comma.lexemes_cons, hlexemes']
    simp
  | @member before key after cs hbefore hkey hafter _ ih =>
    obtain ⟨ts, ⟨d, hts⟩, hlexemes⟩ := ih hrest
    obtain ⟨s, hstring⟩ := exists_lexemes_string hkey (after ++ ':' :: (cs ++ rest))
    refine ⟨.string s :: .colon :: ts, ⟨_, .lastMember hts⟩, ?_⟩
    rw [lexemes_append_of_areBlanks hafter, isMark_colon.lexemes_cons, hlexemes] at hstring
    rw [List.append_assoc, lexemes_append_of_areBlanks hbefore, List.append_assoc,
      List.append_assoc, List.cons_append, hstring]
    rfl
  | lastMember _ ih =>
    obtain ⟨ts, ⟨m, hts⟩, hlexemes⟩ := ih hrest
    exact ⟨ts, ⟨[m], hts⟩, hlexemes⟩
  | @moreMembers cs ds _ _ ih ihs =>
    obtain ⟨ts, ⟨m, hts⟩, hlexemes⟩ := ih (endsNumber_cons (c := ',') (by simp) (ds ++ rest))
    obtain ⟨us, ⟨ms, hus⟩, hlexemes'⟩ := ihs hrest
    cases hts with
    | @lastMember key d ts hvalue =>
      refine ⟨.string key :: .colon :: (ts ++ .comma :: us), ⟨_, .member hvalue hus⟩, ?_⟩
      rw [List.append_assoc, List.cons_append, hlexemes, isMark_comma.lexemes_cons, hlexemes']
      simp
    | member _ hnone => cases hnone

/-! ## From lexemes to phrases -/

/-- The kind of phrase that lexemes spell. -/
def Tree.phrase : Tree → Phrase
  | .value _ => .element
  | .items _ => .elements
  | .members _ => .members

/-- A value that is one lexeme is an element. -/
theorem exists_isPhrase_of_lexeme {t : Lexeme} (ht : t.isPart = true)
    (hvalue : ∀ used, t.IsSpelt used → IsPhrase .value used) (h : lexemes cs = [t] ++ more) :
    ∃ used rest, cs = used ++ rest ∧ IsPhrase .element used ∧ lexemes rest = more := by
  obtain ⟨before, used, rest, hbefore, hused, rfl, hrest⟩ := exists_of_lexemes_eq_cons h ht
  refine ⟨before ++ (used ++ []), rest, by simp, ?_, hrest⟩
  exact .element hbefore (hvalue used hused) (List.forall_mem_nil _)

/-- What is spelt as a string lexeme is a string. -/
theorem Lexeme.IsSpelt.isString {s : Except SyntaxError String}
    (h : (Lexeme.string s).IsSpelt cs) : IsString cs := by
  cases h
  assumption

/-- **What lexemes spell is a phrase of the text**, and the lexemes after them are those of the
rest. -/
theorem exists_isPhrase (h : Spells tree ts) (hlexemes : lexemes cs = ts ++ more) :
    ∃ used rest, cs = used ++ rest ∧ IsPhrase tree.phrase used ∧ lexemes rest = more := by
  induction h generalizing cs more with
  | null =>
    refine exists_isPhrase_of_lexeme rfl (fun used hused => ?_) hlexemes
    cases hused
    exact .null
  | bool b =>
    refine exists_isPhrase_of_lexeme rfl (fun used hused => ?_) hlexemes
    cases hused with
    | true => exact .true
    | false => exact .false
  | number n =>
    refine exists_isPhrase_of_lexeme rfl (fun used hused => ?_) hlexemes
    cases hused with
    | number h => exact .number h
  | string s =>
    exact exists_isPhrase_of_lexeme rfl (fun _ hused => .string hused.isString) hlexemes
  | emptyArray =>
    obtain ⟨before, _, rest₁, hbefore, ⟨⟩, rfl, hrest₁⟩ := exists_of_lexemes_eq_cons hlexemes rfl
    obtain ⟨ws, _, rest₂, hws, ⟨⟩, rfl, hrest₂⟩ := exists_of_lexemes_eq_cons hrest₁ rfl
    refine ⟨before ++ ('[' :: (ws ++ [']']) ++ []), rest₂, by simp, ?_, hrest₂⟩
    exact .element hbefore (.emptyArray hws) (List.forall_mem_nil _)
  | array _ ih =>
    obtain ⟨before, _, rest₁, hbefore, ⟨⟩, rfl, hrest₁⟩ := exists_of_lexemes_eq_cons hlexemes rfl
    obtain ⟨ds, rest₂, rfl, hds, hrest₂⟩ := ih (hrest₁.trans (List.append_assoc ..))
    obtain ⟨ws, _, rest₃, hws, ⟨⟩, rfl, hrest₃⟩ := exists_of_lexemes_eq_cons hrest₂ rfl
    refine ⟨before ++ ('[' :: (ds ++ ws ++ [']']) ++ []), rest₃, by simp, ?_, hrest₃⟩
    exact .element hbefore (.array (hds.append_blanks nofun hws)) (List.forall_mem_nil _)
  | emptyObject =>
    obtain ⟨before, _, rest₁, hbefore, ⟨⟩, rfl, hrest₁⟩ := exists_of_lexemes_eq_cons hlexemes rfl
    obtain ⟨ws, _, rest₂, hws, ⟨⟩, rfl, hrest₂⟩ := exists_of_lexemes_eq_cons hrest₁ rfl
    refine ⟨before ++ ('\x7b' :: (ws ++ ['\x7d']) ++ []), rest₂, by simp, ?_, hrest₂⟩
    exact .element hbefore (.emptyObject hws) (List.forall_mem_nil _)
  | object _ ih =>
    obtain ⟨before, _, rest₁, hbefore, ⟨⟩, rfl, hrest₁⟩ := exists_of_lexemes_eq_cons hlexemes rfl
    obtain ⟨ms, rest₂, rfl, hms, hrest₂⟩ := ih (hrest₁.trans (List.append_assoc ..))
    obtain ⟨ws, _, rest₃, hws, ⟨⟩, rfl, hrest₃⟩ := exists_of_lexemes_eq_cons hrest₂ rfl
    refine ⟨before ++ ('\x7b' :: (ms ++ ws ++ ['\x7d']) ++ []), rest₃, by simp, ?_, hrest₃⟩
    exact .element hbefore (.object (hms.append_blanks nofun hws)) (List.forall_mem_nil _)
  | lastItem _ ih =>
    obtain ⟨used, rest, hcs, hused, hrest⟩ := ih hlexemes
    exact ⟨used, rest, hcs, .lastElement hused, hrest⟩
  | item _ _ ih ihs =>
    obtain ⟨used, rest₁, rfl, hused, hrest₁⟩ := ih (hlexemes.trans (List.append_assoc ..))
    obtain ⟨ws, _, rest₂, hws, ⟨⟩, rfl, hrest₂⟩ := exists_of_lexemes_eq_cons hrest₁ rfl
    obtain ⟨ds, rest₃, rfl, hds, hrest₃⟩ := ihs hrest₂
    refine ⟨used ++ ws ++ ',' :: ds, rest₃, by simp, ?_, hrest₃⟩
    exact .moreElements (hused.append_blanks nofun hws) hds
  | lastMember _ ih =>
    obtain ⟨before, key, rest₁, hbefore, hkey, rfl, hrest₁⟩ :=
      exists_of_lexemes_eq_cons hlexemes rfl
    obtain ⟨after, _, rest₂, hafter, ⟨⟩, rfl, hrest₂⟩ := exists_of_lexemes_eq_cons hrest₁ rfl
    obtain ⟨used, rest₃, rfl, hused, hrest₃⟩ := ih hrest₂
    refine ⟨before ++ (key ++ (after ++ ':' :: used)), rest₃, by simp, ?_, hrest₃⟩
    exact .lastMember (.member hbefore hkey.isString hafter hused)
  | member _ _ ih ihs =>
    obtain ⟨before, key, rest₁, hbefore, hkey, rfl, hrest₁⟩ :=
      exists_of_lexemes_eq_cons hlexemes rfl
    obtain ⟨after, _, rest₂, hafter, ⟨⟩, rfl, hrest₂⟩ := exists_of_lexemes_eq_cons hrest₁ rfl
    obtain ⟨used, rest₃, rfl, hused, hrest₃⟩ := ih (hrest₂.trans (List.append_assoc ..))
    obtain ⟨ws, _, rest₄, hws, ⟨⟩, rfl, hrest₄⟩ := exists_of_lexemes_eq_cons hrest₃ rfl
    obtain ⟨ms, rest₅, rfl, hms, hrest₅⟩ := ihs hrest₄
    refine ⟨before ++ (key ++ (after ++ ':' :: (used ++ ws))) ++ ',' :: ms, rest₅, by simp,
      ?_, hrest₅⟩
    exact .moreMembers (.member hbefore hkey.isString hafter (hused.append_blanks nofun hws)) hms

/-- **A text is JSON if its draft can be passed over and nothing follows**, and only then. -/
theorem isJson_iff :
    IsJson text ↔ (Draft.read text).value.skip = .ok () ∧ (Draft.read text).trailing = false := by
  constructor
  · intro h
    obtain ⟨ts, ⟨d, hts⟩, hlexemes⟩ := exists_spells h endsNumber_nil
    have hspells : Spells (.value d) (lexemes text.toList) := by
      rw [List.append_nil, lexemes, List.append_nil] at hlexemes
      rwa [hlexemes]
    rw [Draft.read_of_spells hspells]
    exact ⟨hspells.skip_eq_ok, rfl⟩
  · rintro ⟨hskip, htrailing⟩
    have hspells := spells_lexemes hskip htrailing
    obtain ⟨used, rest, hcs, hused, hrest⟩ := exists_isPhrase hspells (List.append_nil _).symm
    have helement : Phrase.element ≠ .value := by rintro ⟨⟩
    rw [IsJson, hcs]
    exact hused.append_blanks helement (areBlanks_of_lexemes_eq_nil hrest)

-- Half a character is JSON, a number that begins with zero is not.
example : IsJson " [0.5e1, \"\\ud800\"] " ∧ ¬ IsJson "[01]" := by
  rw [isJson_iff, isJson_iff]
  decide +kernel

end Dossier.Json
