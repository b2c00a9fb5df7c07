import Mathlib.Data.List.Nodup
import Dossier.Proofs.Json.Decoder
import Dossier.Proofs.Json.Order
import Dossier.Query.Options

/-!
# How the options of a query are given

A query has twenty-five options. `Field` lists them, each with its key and with the values that say
it. The arguments of a call give options as an object, by the keys of the fields, or as an array,
by their order (`AreGivenBy`), and options are decoded from arguments exactly if these give them
(`ofArguments_eq_ok_iff`).
-/

namespace Dossier.Query.Options

open Json

/-! ## Fields -/

/-- The fields of options, in the order in which an array gives them. -/
inductive Field where
  | types
  | domains
  | statuses
  | priorities
  | textSearch
  | searchFields
  | dependsOn
  | enables
  | relatedTo
  | conflictsWith
  | createdAfter
  | createdBefore
  | updatedAfter
  | updatedBefore
  | owner
  | stakeholders
  | reviewers
  | hasSuccessCriteria
  | hasRisks
  | hasMetrics
  | sortBy
  | sortOrder
  | offset
  | limit
  | includeContent
  deriving DecidableEq, Repr

namespace Field

/-- All fields, in their order. -/
def all : List Field :=
  [types, domains, statuses, priorities, textSearch, searchFields, dependsOn, enables, relatedTo,
    conflictsWith, createdAfter, createdBefore, updatedAfter, updatedBefore, owner, stakeholders,
    reviewers, hasSuccessCriteria, hasRisks, hasMetrics, sortBy, sortOrder, offset, limit,
    includeContent]

/-- The key of a field. -/
def key : Field → String
  | types => "types"
  | domains => "domains"
  | statuses => "statuses"
  | priorities => "priorities"
  | textSearch => "textSearch"
  | searchFields => "searchFields"
  | dependsOn => "dependsOn"
  | enables => "enables"
  | relatedTo => "relatedTo"
  | conflictsWith => "conflictsWith"
  | createdAfter => "createdAfter"
  | createdBefore => "createdBefore"
  | updatedAfter => "updatedAfter"
  | updatedBefore => "updatedBefore"
  | owner => "owner"
  | stakeholders => "stakeholders"
  | reviewers => "reviewers"
  | hasSuccessCriteria => "hasSuccessCriteria"
  | hasRisks => "hasRisks"
  | hasMetrics => "hasMetrics"
  | sortBy => "sortBy"
  | sortOrder => "sortOrder"
  | offset => "offset"
  | limit => "limit"
  | includeContent => "includeContent"

/-- What a field holds. -/
def Content : Field → Type
  | types | dependsOn | enables | relatedTo | conflictsWith | stakeholders | reviewers =>
    List String
  | domains => List Domain
  | statuses => List Status
  | priorities => List Priority
  | textSearch | createdAfter | createdBefore | updatedAfter | updatedBefore | owner =>
    Option String
  | searchFields => Option (List SearchField)
  | hasSuccessCriteria | hasRisks | hasMetrics => Option Bool
  | sortBy => Option SortField
  | sortOrder => SortOrder
  | offset => Nat
  | limit => Option Nat
  | includeContent => Bool

/-- What options have in a field. -/
def get (o : Options) : (f : Field) → f.Content
  | types => o.types
  | domains => o.domains
  | statuses => o.statuses
  | priorities => o.priorities
  | textSearch => o.textSearch
  | searchFields => o.searchFields
  | dependsOn => o.dependsOn
  | enables => o.enables
  | relatedTo => o.relatedTo
  | conflictsWith => o.conflictsWith
  | createdAfter => o.createdAfter
  | createdBefore => o.createdBefore
  | updatedAfter => o.updatedAfter
  | updatedBefore => o.updatedBefore
  | owner => o.owner
  | stakeholders => o.stakeholders
  | reviewers => o.reviewers
  | hasSuccessCriteria => o.hasSuccessCriteria
  | hasRisks => o.hasRisks
  | hasMetrics => o.hasMetrics
  | sortBy => o.sortBy
  | sortOrder => o.sortOrder
  | offset => o.offset
  | limit => o.limit
  | includeContent => o.includeContent

/-- What a value says of a field. -/
def Is : (f : Field) → Value → f.Content → Prop
  | types | dependsOn | enables | relatedTo | conflictsWith | stakeholders | reviewers =>
    IsListOf IsText
  | domains => IsListOf (IsNamed Domain.name)
  | statuses => IsListOf (IsNamed Status.name)
  | priorities => IsListOf (IsNamed Priority.name)
  | textSearch | createdAfter | createdBefore | updatedAfter | updatedBefore | owner =>
    OrNull IsText
  | searchFields => OrNull (IsListOf (IsNamed SearchField.name))
  | hasSuccessCriteria | hasRisks | hasMetrics => OrNull IsTruth
  | sortBy => OrNull (IsNamed SortField.name)
  | sortOrder => IsNamed SortOrder.name
  | offset => IsSize
  | limit => OrNull IsSize
  | includeContent => IsTruth

end Field

/-- Options are what fields with values say, some of which may be left out. -/
def AreGiven (given : String → Option Value) (o : Options) : Prop :=
  ∀ f : Field, IsGiven f.Is (f.get {}) (given f.key) (f.get o)

/-- Options are what arguments say: the members of an object, or the items of an array in the order
of the fields, which may be fewer than these but not more. -/
inductive AreGivenBy : Value → Options → Prop
  | object {members : Members} {o : Options} (h : AreGiven members.get? o) :
    AreGivenBy (.object members) o
  | array {items : List Value} {o : Options} (hlength : items.length ≤ 25)
    (h : AreGiven (fun key => ((Field.all.map Field.key).zip items).lookup key) o) :
    AreGivenBy (.array items) o

/-! ## Setting fields -/

/-- Whether a payload is empty where it is given by an argument. -/
def isEmptyArgument : Value → Bool := (· matches .null | .object [])

namespace Field

/-- The decoder of a field. -/
def read : (f : Field) → Decoder f.Content
  | types | dependsOn | enables | relatedTo | conflictsWith | stakeholders | reviewers =>
    Decoder.list Decoder.string
  | domains => Decoder.list (Decoder.variantWith isEmptyArgument Domain.all Domain.name)
  | statuses => Decoder.list (Decoder.variantWith isEmptyArgument Status.all Status.name)
  | priorities => Decoder.list (Decoder.variantWith isEmptyArgument Priority.all Priority.name)
  | textSearch | createdAfter | createdBefore | updatedAfter | updatedBefore | owner =>
    Decoder.option Decoder.string
  | searchFields =>
    Decoder.option (Decoder.list
      (Decoder.variantWith isEmptyArgument SearchField.all SearchField.name))
  | hasSuccessCriteria | hasRisks | hasMetrics => Decoder.option Decoder.boolean
  | sortBy => Decoder.option (Decoder.variantWith isEmptyArgument SortField.all SortField.name)
  | sortOrder => Decoder.variantWith isEmptyArgument SortOrder.all SortOrder.name
  | offset => Decoder.size
  | limit => Decoder.option Decoder.size
  | includeContent => Decoder.boolean

variable {f : Field} {v : Value} {o o' : Options} {key : String}

/-- A field is decoded from the values that say it. -/
theorem read_eq_ok_iff {a : f.Content} : f.read v = .ok a ↔ f.Is v a := by
  cases f with
  | types | dependsOn | enables | relatedTo | conflictsWith | stakeholders | reviewers =>
    exact Decoder.list_eq_ok_iff Decoder.string_eq_ok_iff
  | domains | statuses | priorities =>
    exact Decoder.list_eq_ok_iff (Decoder.variantWith_eq_ok_iff fun a => by cases a <;> rfl)
  | textSearch | createdAfter | createdBefore | updatedAfter | updatedBefore | owner =>
    exact Decoder.option_string_eq_ok_iff
  | searchFields =>
    have hnamed {v} {a : SearchField} : Decoder.variantWith isEmptyArgument SearchField.all
        SearchField.name v = .ok a ↔ IsNamed SearchField.name v a :=
      Decoder.variantWith_eq_ok_iff fun a => by cases a <;> rfl
    exact Decoder.option_eq_ok_iff (Decoder.list_eq_ok_iff hnamed) nofun
  | hasSuccessCriteria | hasRisks | hasMetrics =>
    exact Decoder.option_eq_ok_iff Decoder.boolean_eq_ok_iff nofun
  | sortBy =>
    exact Decoder.option_eq_ok_iff
      (Decoder.variantWith_eq_ok_iff fun a => by cases a <;> rfl) nofun
  | sortOrder => exact Decoder.variantWith_eq_ok_iff fun a => by cases a <;> rfl
  | offset => exact Decoder.size_eq_ok_iff
  | limit => exact Decoder.option_size_eq_ok_iff
  | includeContent => exact Decoder.boolean_eq_ok_iff

/-- A value says one thing of a field. -/
theorem Is.unique {a a' : f.Content} (h : f.Is v a) (h' : f.Is v a') : a = a' :=
  Except.ok.inj ((read_eq_ok_iff.2 h).symm.trans (read_eq_ok_iff.2 h'))

/-- The key of a field sets it to what the value says. -/
theorem is_of_set (h : o.set isEmptyArgument f.key v = .ok o') : f.Is v (f.get o') := by
  rw [← read_eq_ok_iff]
  cases f
  all_goals
    obtain ⟨a, ha, ho⟩ := exists_of_bind_eq_ok h
    cases ho
    exact ha

/-- Other keys leave a field as it is. -/
theorem get_of_set (hkey : key ≠ f.key) (h : o.set isEmptyArgument key v = .ok o') :
    f.get o' = f.get o := by
  unfold set at h
  split at h
  case h_26 =>
    cases h
    rfl
  -- every other key sets a field of its own, which `hkey` tells from this one
  all_goals
    obtain ⟨_, -, ho⟩ := exists_of_bind_eq_ok h
    cases ho
    cases f <;> first | rfl | exact absurd rfl hkey

/-- A field is set by any value that says something of it. -/
theorem exists_set {a : f.Content} (o : Options) (h : f.Is v a) :
    ∃ o', o.set isEmptyArgument f.key v = .ok o' := by
  have hread := read_eq_ok_iff.2 h
  cases f
  all_goals exact ⟨_, congrArg (· >>= _) hread⟩

/-- A key that is not one of a field sets nothing. -/
theorem set_of_not_key (hkey : ∀ f : Field, key ≠ f.key) :
    o.set isEmptyArgument key v = .ok o := by
  have hmem : key ∉ all.map Field.key := by
    intro h
    obtain ⟨f, -, rfl⟩ := List.mem_map.1 h
    exact hkey f rfl
  unfold set
  split
  case h_26 => rfl
  all_goals exact absurd (by decide) hmem

end Field

/-- Options with the same in every field are the same. -/
theorem eq_of_forall_get {o o' : Options} (h : ∀ f : Field, f.get o = f.get o') : o = o' := by
  cases o
  cases o'
  rw [Options.mk.injEq]
  exact ⟨h .types, h .domains, h .statuses, h .priorities, h .textSearch, h .searchFields,
    h .dependsOn, h .enables, h .relatedTo, h .conflictsWith, h .createdAfter, h .createdBefore,
    h .updatedAfter, h .updatedBefore, h .owner, h .stakeholders, h .reviewers,
    h .hasSuccessCriteria, h .hasRisks, h .hasMetrics, h .sortBy, h .sortOrder, h .offset,
    h .limit, h .includeContent⟩

/-! ## Setting all fields -/

variable {o o' : Options} {members : Members}

/-- A field is what the member with its key says, if there is one. -/
theorem isGiven_of_setAll (hkeys : (members.map (·.1)).Nodup) (f : Field)
    (h : (shape isEmptyArgument).setAll o members = .ok o') :
    IsGiven f.Is (f.get o) (members.get? f.key) (f.get o') := by
  induction members generalizing o with
  | nil =>
    cases h
    exact .absent
  | cons first rest ih =>
    obtain ⟨next, hnext, hrest⟩ := exists_of_bind_eq_ok h
    have hfirst : first.1 ∉ rest.map (·.1) := (List.nodup_cons.1 hkeys).1
    have hlater := ih (List.nodup_cons.1 hkeys).2 hrest
    rw [Members.get?_cons]
    split
    case isTrue hkey =>
      have hnone : Members.get? rest f.key = none := by
        refine List.lookup_eq_none_iff.2 fun m hm => bne_iff_ne.2 fun heq => hfirst ?_
        rw [← hkey]
        exact List.mem_map.2 ⟨m, hm, heq.symm⟩
      rw [hnone] at hlater
      rw [hlater.eq_default]
      exact .given (Field.is_of_set (hkey ▸ hnext))
    case isFalse hkey => rwa [← Field.get_of_set (Ne.symm hkey) hnext]

/-- Members are set if each says something of its field. -/
theorem exists_setAll (hkeys : (members.map (·.1)).Nodup) (o : Options)
    (h : ∀ (f : Field) v, members.get? f.key = some v → ∃ a, f.Is v a) :
    ∃ o', (shape isEmptyArgument).setAll o members = .ok o' := by
  induction members generalizing o with
  | nil => exact ⟨o, rfl⟩
  | cons first rest ih =>
    have hfirst : first.1 ∉ rest.map (·.1) := (List.nodup_cons.1 hkeys).1
    have hnext : ∃ next, o.set isEmptyArgument first.1 first.2 = .ok next := by
      by_cases hfield : ∃ f : Field, first.1 = f.key
      · obtain ⟨f, hf⟩ := hfield
        obtain ⟨a, ha⟩ := h f first.2 (by rw [Members.get?_cons, if_pos hf.symm])
        rw [hf]
        exact Field.exists_set o ha
      · exact ⟨o, Field.set_of_not_key fun f hf => hfield ⟨f, hf⟩⟩
    obtain ⟨next, hnext⟩ := hnext
    have hrest : ∀ (f : Field) v, Members.get? rest f.key = some v → ∃ a, f.Is v a := by
      intro f v hv
      refine h f v ?_
      rw [Members.get?_cons, if_neg fun heq => ?_]
      · exact hv
      · rw [← heq] at hfirst
        exact hfirst (List.mem_map_of_mem (Members.mem_of_get? hv))
    obtain ⟨o', ho'⟩ := ih (List.nodup_cons.1 hkeys).2 next hrest
    exact ⟨o', (congrArg (· >>= _) hnext).trans ho'⟩

/-- Members are set exactly to the options that they give. -/
theorem setAll_eq_ok_iff (hkeys : (members.map (·.1)).Nodup) :
    (shape isEmptyArgument).setAll {} members = .ok o ↔ AreGiven members.get? o := by
  constructor
  · exact fun h f => isGiven_of_setAll hkeys f h
  · intro h
    have hsays : ∀ (f : Field) v, members.get? f.key = some v → ∃ a, f.Is v a := by
      intro f v hv
      have hgiven := h f
      rw [hv] at hgiven
      cases hgiven with
      | given ha => exact ⟨_, ha⟩
    obtain ⟨o', ho'⟩ := exists_setAll hkeys {} hsays
    have heq : o' = o := eq_of_forall_get fun f =>
      (isGiven_of_setAll hkeys f ho').unique Field.Is.unique (h f)
    rw [ho', heq]

/-! ## Arguments -/

/-- Every field is set by its key. -/
theorem fields_shape (isEmpty : Value → Bool) :
    (shape isEmpty).fields = Field.all.map Field.key := rfl

/-- No key is given twice by an array. -/
theorem nodup_keys_zip (items : List Value) :
    (((Field.all.map Field.key).zip items).map (·.1)).Nodup := by
  have hkeys : (Field.all.map Field.key).Nodup := by decide
  rw [List.zip_eq_zip_take_min, List.map_fst_zip (by simp only [List.length_take]; omega)]
  exact hkeys.sublist (List.take_sublist _ _)

/-- Options are decoded from the members of an object by setting these. -/
theorem ofMembers_eq (start : Options) (members : Members) :
    (shape isEmptyArgument).ofMembers start members =
      (shape isEmptyArgument).setAll start members := by
  cases hset : (shape isEmptyArgument).setAll start members <;> rw [Shape.ofMembers, hset] <;> rfl

/-- Options are decoded from the items of an array by setting these, if there are not too many. -/
theorem ofItems_eq_ok_iff {items : List Value} {surplus : String} {start : Options} :
    (shape isEmptyArgument).ofItems surplus start items = .ok o ↔ items.length ≤ 25 ∧
      (shape isEmptyArgument).setAll start ((Field.all.map Field.key).zip items) = .ok o := by
  rw [Shape.ofItems, ← fields_shape]
  cases (shape isEmptyArgument).setAll start ((shape isEmptyArgument).fields.zip items) with
  | error e => exact iff_of_false nofun fun h => nomatch h.2
  | ok o' =>
    -- an array is never too short, so only the bound from above is left
    change (if 25 < items.length then .error (DecodeError.invalidLength items.length surplus)
      else Except.ok o') = _ ↔ _
    by_cases hlength : items.length ≤ 25
    · rw [if_neg (by omega)]
      exact (and_iff_right hlength).symm
    · rw [if_pos (by omega)]
      exact iff_of_false nofun fun h => hlength h.1

/-- **Options are decoded from arguments exactly if these give them.** -/
theorem ofArguments_eq_ok_iff {v : Value} (hv : v.IsOrdered) :
    ofArguments v = .ok o ↔ AreGivenBy v o := by
  cases v with
  | object members =>
    have hkeys : (members.map (·.1)).Nodup :=
      List.pairwise_map.2 (hv.ascending.imp fun hlt => ne_of_lt hlt)
    show (shape isEmptyArgument).ofMembers {} members = .ok o ↔ _
    rw [ofMembers_eq, setAll_eq_ok_iff hkeys]
    exact ⟨.object, fun h => by cases h with | object h => exact h⟩
  | array items =>
    show (shape isEmptyArgument).ofItems _ {} items = .ok o ↔ _
    rw [ofItems_eq_ok_iff, setAll_eq_ok_iff (nodup_keys_zip items)]
    exact ⟨fun h => .array h.1 h.2, fun h => by cases h with | array hlength h =>
      exact ⟨hlength, h⟩⟩
  | _ => exact iff_of_false nofun nofun

end Dossier.Query.Options
