import Mathlib.Data.List.Forall2
import Mathlib.Data.String.Basic
import Dossier.Proofs.Collection
import Dossier.Proofs.FirstOccurrences
import Dossier.Taxonomy.Settings

/-!
# What settings make of a taxonomy

Settings describe a taxonomy exactly if all texts that they give for names of domains are such
names and they do not ask for a complete collection of no types. Each table that they give then
stands in the place of its canonical counterpart, and the others are the canonical ones; if they
describe none, the complaint tells a fault that they have (`outcome_ofSettings`). Whatever the
settings, no checklist, no family and no foundation lists a type twice (`HasTablesOf.isSound`).
-/

namespace Dossier

/-! ## Names of domains -/

/-- The texts that are the name of a domain. -/
def IsDomainName (name : String) : Prop := ∃ d : Domain, d.name = name

namespace Domain

variable {name : String} {d d' : Domain}

/-- A domain is found by its name and by no other. -/
theorem ofName?_eq_some_iff : ofName? name = some d ↔ d.name = name := by
  constructor
  · intro h
    have hname := List.find?_some h
    exact eq_of_beq hname
  · rintro rfl
    cases d <;> decide

/-- No domain is found by a text that is no name. -/
theorem ofName?_eq_none_iff : ofName? name = none ↔ ¬IsDomainName name := by
  rw [Option.eq_none_iff_forall_ne_some]
  exact ⟨fun h ⟨d, hd⟩ => h d (ofName?_eq_some_iff.2 hd),
    fun h d hd => h ⟨d, ofName?_eq_some_iff.1 hd⟩⟩

/-- Domains of one name are one domain. -/
theorem name_inj (h : d.name = d'.name) : d = d' :=
  Option.some.inj ((ofName?_eq_some_iff.2 h).symm.trans (ofName?_eq_some_iff.2 rfl))

/-- Every domain is one of all domains. -/
theorem mem_all (d : Domain) : d ∈ all := by cases d <;> decide

end Domain

/-! ## What a reader yields -/

/-- A result is one that is wanted, and a failure one that is expected. -/
def Yields {ε α : Type} (x : Except ε α) (P : α → Prop) (E : ε → Prop) : Prop :=
  match x with
  | .ok a => P a
  | .error e => E e

section

variable {ε α β : Type} {x : Except ε α} {f : α → Except ε β} {P P' : α → Prop} {Q : β → Prop}
  {R : α → β → Prop} {E E' : ε → Prop}

theorem Yields.imp (h : Yields x P E) (hresult : ∀ a, P a → P' a) (hfailure : ∀ e, E e → E' e) :
    Yields x P' E' := by
  cases x with
  | error e => exact hfailure e h
  | ok a => exact hresult a h

/-- What comes after a reader may rely on what it yields. -/
theorem Yields.bind (h : Yields x P E) (hf : ∀ a, P a → Yields (f a) Q E) :
    Yields (x >>= f) Q E := by
  cases x with
  | error e => exact h
  | ok a => exact hf a h

/-- A list is read element by element. -/
theorem yields_mapM {l : List α} (h : ∀ a ∈ l, Yields (f a) (R a) E) :
    Yields (l.mapM f) (List.Forall₂ R l) E := by
  induction l with
  | nil => exact .nil
  | cons a rest ih =>
    rw [List.mapM_cons]
    refine (h a (.head _)).bind fun b hb => ?_
    exact (ih fun a' ha' => h a' (.tail _ ha')).bind fun bs hbs => List.Forall₂.cons hb hbs

/-- What lists agree in element by element, they agree in as a whole. -/
theorem map_eq_of_forall₂ {γ : Type} {f : β → γ} {g : α → γ} {l : List α} {l' : List β}
    (h : l.Forall₂ (fun a b => f b = g a) l') : l'.map f = l.map g := by
  induction h with
  | nil => rfl
  | cons hab _ ih => rw [List.map_cons, List.map_cons, hab, ih]

end

/-! ## Tables -/

/-- What a setting gives in the place of a canonical value, if it is given. -/
def Replaces {α β : Type} (setting : Option α) (canonical : β) (R : α → β → Prop) (b : β) : Prop :=
  match setting with
  | none => b = canonical
  | some a => R a b

theorem Replaces.imp {α β : Type} {setting : Option α} {canonical b : β} {R R' : α → β → Prop}
    (h : Replaces setting canonical R b) (hgiven : ∀ a, R a b → R' a b) :
    Replaces setting canonical R' b := by
  cases setting with
  | none => exact h
  | some a => exact hgiven a h

/-- What holds of the canonical value and of all that a setting may give holds in any case. -/
theorem Replaces.elim {α β : Type} {setting : Option α} {canonical b : β} {R : α → β → Prop}
    {P : β → Prop}
    (h : Replaces setting canonical R b) (hcanonical : P canonical) (hgiven : ∀ a, R a b → P b) :
    P b := by
  cases setting with
  | none => exact (show b = canonical from h) ▸ hcanonical
  | some a => exact hgiven a h

/-- The checklists that a table gives by the names of domains, in the order of the domains. -/
structure AreChecklists (table : List (String × List String))
    (lists : List (Domain × List String)) : Prop where
  names : ∀ name ∈ table.map (·.1), IsDomainName name
  mem_iff : ∀ d, d ∈ lists.map (·.1) ↔ d.name ∈ table.map (·.1)
  ordered : (lists.map (·.1)).Sublist Domain.all
  codes : ∀ d, FirstOccurrences ((table.lookup d.name).getD []) ((lists.lookup d).getD [])

/-- The domains of types that a table gives by their names. -/
def AreTypeDomains (table : List (String × String)) (domains : List (String × Domain)) : Prop :=
  domains.map (fun e => (e.1, e.2.name)) = table

/-- The families of a table. -/
def AreFamilies (table families : List (String × List String)) : Prop :=
  table.Forall₂ (fun given family => family.1 = given.1 ∧ FirstOccurrences given.2 family.2)
    families

/-- The codes of a list as known types stand, in ascending order. -/
structure AreKnownTypes (codes known : List String) : Prop where
  mem_iff : ∀ code, code ∈ known ↔ code ∈ codes
  ascending : known.Pairwise (· < ·)

/-- No family of a table lists a type twice. -/
theorem AreFamilies.nodup {table families : List (String × List String)}
    (h : AreFamilies table families) : ∀ family ∈ families, family.2.Nodup := by
  induction h with
  | nil => exact fun _ hmem => nomatch hmem
  | cons hgiven _ ih => exact List.forall_mem_cons.2 ⟨hgiven.2.nodup, ih⟩

/-- A taxonomy has the tables that settings give, and else the canonical ones. -/
structure Taxonomy.HasTablesOf (s : TaxonomySettings) (t : Taxonomy) : Prop where
  checklists : Replaces s.domainTypes canonical.checklists AreChecklists t.checklists
  typeDomains : Replaces s.typeDomains canonical.typeDomains AreTypeDomains t.typeDomains
  families : Replaces s.families canonical.families AreFamilies t.families
  knownTypes : Replaces s.knownTypes canonical.knownTypes AreKnownTypes t.knownTypes
  foundationTypes : Replaces s.foundationTypes canonical.foundationTypes FirstOccurrences
    t.foundationTypes
  knownTypeCount : Replaces s.knownTypeCount canonical.knownTypeCount (fun n count => count = n)
    t.knownTypeCount
  strategicDomain : Replaces s.strategicDomain canonical.strategicDomain
    (fun name d => d.name = name)
    t.strategicDomain
  fallbackDomain : Replaces s.fallbackDomain canonical.fallbackDomain (fun name d => d.name = name)
    t.fallbackDomain

/-- What look-ups and ratios rely on: nothing is listed twice, and there is something to divide
by. -/
structure Taxonomy.IsSound (t : Taxonomy) : Prop where
  nodup_checklist : ∀ d, (t.checklist d).Nodup
  nodup_family : ∀ family ∈ t.families, family.2.Nodup
  nodup_foundationTypes : t.foundationTypes.Nodup
  knownTypeCount_pos : 0 < t.knownTypeCount

/-! ## Settings -/

namespace TaxonomySettings

/-- The texts that settings give for names of domains. -/
def domainNames (s : TaxonomySettings) : List String :=
  (s.domainTypes.getD []).map (·.1) ++ (s.typeDomains.getD []).map (·.2) ++
    s.strategicDomain.toList ++
    s.fallbackDomain.toList

/-- Settings that describe a taxonomy. -/
structure IsReadable (s : TaxonomySettings) : Prop where
  names : ∀ name ∈ s.domainNames, IsDomainName name
  counts : s.knownTypeCount ≠ some 0

/-- A complaint about settings is justified. -/
def HasFault (s : TaxonomySettings) : TaxonomyError → Prop
  | .unknownChecklistDomain name => name ∈ (s.domainTypes.getD []).map (·.1) ∧ ¬IsDomainName name
  | .unknownTypeDomain code name => (code, name) ∈ s.typeDomains.getD [] ∧ ¬IsDomainName name
  | .noKnownTypes => s.knownTypeCount = some 0
  | .unknownStrategicDomain name => s.strategicDomain = some name ∧ ¬IsDomainName name
  | .unknownFallbackDomain name => s.fallbackDomain = some name ∧ ¬IsDomainName name

/-- What becomes of settings: a taxonomy, or a complaint. -/
inductive Outcome (s : TaxonomySettings) : Except TaxonomyError Taxonomy → Prop
  | built {t : Taxonomy} (readable : s.IsReadable) (tables : t.HasTablesOf s) (sound : t.IsSound) :
      Outcome s (.ok t)
  | refused {e : TaxonomyError} (unreadable : ¬s.IsReadable) (fault : s.HasFault e) :
      Outcome s (.error e)

/-- Settings with a fault describe no taxonomy. -/
theorem HasFault.not_isReadable {s : TaxonomySettings} {e : TaxonomyError} (h : s.HasFault e) :
    ¬s.IsReadable := by
  intro ⟨hnames, hcounts⟩
  cases e with
  | unknownChecklistDomain name => exact h.2 (hnames name (by simp [domainNames, h.1]))
  | unknownTypeDomain code name =>
    have hmem : name ∈ (s.typeDomains.getD []).map (·.2) := List.mem_map_of_mem h.1
    exact h.2 (hnames name (by simp [domainNames, hmem]))
  | noKnownTypes => exact hcounts h
  | unknownStrategicDomain name => exact h.2 (hnames name (by simp [domainNames, h.1]))
  | unknownFallbackDomain name => exact h.2 (hnames name (by simp [domainNames, h.1]))

end TaxonomySettings

namespace Taxonomy

variable {s : TaxonomySettings} {t : Taxonomy}

/-! ## Readers -/

/-- A name is read as the domain that has it. -/
theorem yields_readDomain (complaint : String → TaxonomyError) (name : String) :
    Yields (readDomain complaint name) (·.name = name) fun e => e = complaint name ∧
    ¬IsDomainName name := by
  unfold readDomain
  split
  case h_1 d hd => exact Domain.ofName?_eq_some_iff.1 hd
  case h_2 hnone => exact ⟨rfl, Domain.ofName?_eq_none_iff.1 hnone⟩

/-- What is left out is canonical, and what is given is read. -/
theorem yields_settingOr {α β : Type} {canonical : β} {read : α → Except TaxonomyError β}
    {R : α → β → Prop} {E : TaxonomyError → Prop} {setting : Option α}
    (h : ∀ a, setting = some a → Yields (read a) (R a) E) :
    Yields (settingOr canonical read setting) (Replaces setting canonical R) E := by
  cases setting with
  | none => exact rfl
  | some a => exact h a rfl

/-- A domain that may be set is read by its name. -/
theorem yields_settingOr_readDomain (canonical : Domain) (complaint : String → TaxonomyError)
    (setting : Option String) : Yields (settingOr canonical (readDomain complaint) setting)
      (Replaces setting canonical fun name d => d.name = name)
      fun e => ∃ name, e = complaint name ∧ setting = some name ∧ ¬IsDomainName name := by
  refine yields_settingOr fun name hgiven => (yields_readDomain complaint name).imp
    (fun _ h => h) ?_
  exact fun e ⟨he, hname⟩ => ⟨name, he, hgiven, hname⟩

/-- A name and the codes listed under it are read as a domain and its checklist. -/
def IsChecklist (given : String × List String) (list : Domain × List String) : Prop :=
  list.1.name = given.1 ∧ list.2 = given.2.eraseDups

/-- The checklist of a domain is found among those of a table as what is listed under its name. -/
theorem lookup_of_forall₂ {table : List (String × List String)}
    {lists : List (Domain × List String)} (h : table.Forall₂ IsChecklist lists) (d : Domain) :
    lists.lookup d = (table.lookup d.name).map List.eraseDups := by
  induction h with
  | nil => rfl
  | @cons given list table lists hgiven _ ih =>
    obtain ⟨hname, hcodes⟩ := hgiven
    rw [List.lookup_cons, List.lookup_cons, ih]
    by_cases hd : d = list.1
    · rw [hd, hname, beq_self_eq_true, beq_self_eq_true, hcodes]
      rfl
    · have hne : d.name ≠ given.1 := fun h => hd (Domain.name_inj (h.trans hname.symm))
      rw [beq_eq_false_iff_ne.2 hd, beq_eq_false_iff_ne.2 hne]

/-- What keys have that are looked up one after another is found by these keys. -/
theorem lookup_filterMap {α β : Type} [DecidableEq α] (find : α → Option β)
    (keys : List α) (a : α) :
    (keys.filterMap fun key => (find key).map (key, ·)).lookup a = if a ∈ keys then find a
    else none := by
  induction keys with
  | nil => rfl
  | cons key rest ih =>
    rw [List.filterMap_cons]
    by_cases ha : a = key
    · subst ha
      cases hfind : find a with
      | none => simp [ih, hfind]
      | some b => simp
    · cases hfind : find key with
      | none => simp [ih, ha]
      | some b => simp [List.lookup_cons, beq_eq_false_iff_ne.2 ha, ih, ha]

/-- The keys that have something stand in their order. -/
theorem map_fst_filterMap {α β : Type} (find : α → Option β) (keys : List α) :
    (keys.filterMap fun key => (find key).map (key, ·)).map (·.1) =
      keys.filter fun key => (find key).isSome := by
  induction keys with
  | nil => rfl
  | cons key rest ih =>
    cases hfind : find key with
    | none => simp [hfind, ih]
    | some b => simp [hfind, ih]

/-- A table is read as the checklists that it gives, if all its names are names of domains. -/
theorem yields_readChecklists (table : List (String × List String)) :
    Yields (readChecklists table) (AreChecklists table)
      fun e => ∃ name ∈ table.map (·.1),
        e = .unknownChecklistDomain name ∧ ¬IsDomainName name := by
  unfold readChecklists
  refine (yields_mapM (R := IsChecklist) fun given hgiven => ?_).bind fun lists hlists => ?_
  · refine ((yields_readDomain .unknownChecklistDomain given.1).imp (fun _ h => h) ?_).bind
      fun d hd => ⟨hd, rfl⟩
    rintro e ⟨rfl, hname⟩
    exact ⟨given.1, List.mem_map_of_mem hgiven, rfl, hname⟩
  · have hlookup := lookup_of_forall₂ hlists
    have hnames : lists.map (·.1.name) = table.map (·.1) :=
      map_eq_of_forall₂ (hlists.imp fun _ _ h => h.1)
    constructor
    case names =>
      intro name hname
      rw [← hnames] at hname
      obtain ⟨list, -, hlist⟩ := List.mem_map.1 hname
      exact ⟨list.1, hlist⟩
    case mem_iff =>
      intro d
      rw [map_fst_filterMap, List.mem_filter, hlookup, Option.isSome_map, List.lookup_isSome_iff]
      simp only [Domain.mem_all, true_and, List.mem_map, beq_iff_eq, eq_comm (a := d.name)]
    case ordered =>
      rw [map_fst_filterMap]
      exact List.filter_sublist
    case codes =>
      intro d
      rw [lookup_filterMap, if_pos (Domain.mem_all d), hlookup]
      cases table.lookup d.name with
      | none => exact firstOccurrences_eraseDups []
      | some codes => exact firstOccurrences_eraseDups codes

/-- A table is read as domains of types, if all its values are names of domains. -/
theorem yields_readTypeDomains (table : List (String × String)) :
    Yields (readTypeDomains table) (AreTypeDomains table)
      fun e => ∃ entry ∈ table,
        e = .unknownTypeDomain entry.1 entry.2 ∧ ¬IsDomainName entry.2 := by
  unfold readTypeDomains
  refine (yields_mapM (R := fun given e => (e.1, e.2.name) = given) fun given hgiven => ?_).imp ?_
    fun _ h => h
  · refine ((yields_readDomain (.unknownTypeDomain given.1) given.2).imp (fun _ h => h) ?_).bind
      fun d hd => ?_
    · rintro e ⟨rfl, hname⟩
      exact ⟨given, hgiven, rfl, hname⟩
    · exact Prod.ext rfl hd
  · intro domains hdomains
    exact (map_eq_of_forall₂ hdomains).trans (List.map_id' _)

/-- A number of types is read if it is not zero. -/
theorem yields_readKnownTypeCount (n : Nat) :
    Yields (readKnownTypeCount n) (fun count => count = n ∧ 0 < count) fun e => e = .noKnownTypes ∧
    n = 0 := by
  unfold readKnownTypeCount
  split
  case isTrue h => exact ⟨rfl, beq_iff_eq.1 h⟩
  case isFalse h => exact ⟨rfl, Nat.pos_of_ne_zero (mt beq_iff_eq.2 h)⟩

/-! ## The tables of a taxonomy -/

/-- Without repetitions sorted strings ascend. -/
theorem pairwise_inOrder (ss : List String) : (inOrder ss).Pairwise (· < ·) := by
  have hsorted := (pairwise_mergeSort ss).sublist (eraseDups_sublist _)
  have hdistinct := (firstOccurrences_eraseDups (ss.mergeSort (· ≤ ·))).nodup
  exact (hsorted.and hdistinct).imp fun ⟨hle, hne⟩ => lt_of_le_of_ne hle hne

/-- The canonical taxonomy lists nothing twice. -/
theorem isSound_canonical : canonical.IsSound where
  nodup_checklist d := by cases d <;> decide
  nodup_family family hfamily := by
    obtain ⟨⟨d, codes⟩, hlist, rfl⟩ := List.mem_map.1 (List.mem_mergeSort.1 hfamily)
    have hnodup : ∀ list ∈ canonicalChecklists, list.2.Nodup := by decide
    exact hnodup _ hlist
  nodup_foundationTypes := by decide
  knownTypeCount_pos := by decide

/-- Tables that settings give list nothing twice, as the canonical ones do not. -/
theorem HasTablesOf.isSound (h : t.HasTablesOf s) (hcount : 0 < t.knownTypeCount) : t.IsSound where
  nodup_checklist := h.checklists.elim (P := fun lists => ∀ d, ((lists.lookup d).getD []).Nodup)
    isSound_canonical.nodup_checklist fun _ hlists d => (hlists.codes d).nodup
  nodup_family := h.families.elim (P := fun families => ∀ family ∈ families, family.2.Nodup)
    isSound_canonical.nodup_family fun _ hfamilies => hfamilies.nodup
  nodup_foundationTypes :=
    h.foundationTypes.elim isSound_canonical.nodup_foundationTypes fun _ hcodes => hcodes.nodup
  knownTypeCount_pos := hcount

/-- Settings whose tables a taxonomy has are readable: it has a domain for each name that they
give. -/
theorem HasTablesOf.isReadable (h : t.HasTablesOf s) (hcount : 0 < t.knownTypeCount) :
    s.IsReadable := by
  obtain ⟨hchecklists, htypes, -, -, -, hknown, hstrategic, hfallback⟩ := h
  constructor
  case names =>
    simp only [TaxonomySettings.domainNames, List.mem_append, Option.mem_toList, or_assoc]
    rintro name (hname | hname | hname | hname)
    · cases hsetting : s.domainTypes with
      | none => simp [hsetting] at hname
      | some table =>
        rw [hsetting] at hchecklists hname
        exact AreChecklists.names hchecklists name hname
    · cases hsetting : s.typeDomains with
      | none => simp [hsetting] at hname
      | some table =>
        rw [hsetting] at htypes hname
        rw [← show t.typeDomains.map (fun e => (e.1, e.2.name)) = table from htypes] at hname
        obtain ⟨e, -, rfl⟩ := List.mem_map.1 (List.map_map ▸ hname)
        exact ⟨e.2, rfl⟩
    · rw [hname] at hstrategic
      exact ⟨t.strategicDomain, hstrategic⟩
    · rw [hname] at hfallback
      exact ⟨t.fallbackDomain, hfallback⟩
  case counts =>
    intro hzero
    rw [hzero] at hknown
    exact hcount.ne' hknown

/-! ## The taxonomy of settings -/

/-- A table that may be given takes the place of the canonical one. -/
theorem replaces_getD {α β : Type} {canonical : β} {read : α → β} {R : α → β → Prop}
    (setting : Option α) (h : ∀ a, R a (read a)) :
    Replaces setting canonical R ((setting.map read).getD canonical) := by
  cases setting with
  | none => exact rfl
  | some a => exact h a

/-- Families are given by a table. -/
theorem areFamilies_map (table : List (String × List String)) :
    AreFamilies table (table.map fun (family, codes) => (family, codes.eraseDups)) :=
  List.forall₂_map_right_iff.2 (List.forall₂_same.2 fun given _ =>
    ⟨rfl, firstOccurrences_eraseDups given.2⟩)

/-- Known types are given by a list of codes. -/
theorem areKnownTypes_inOrder (codes : List String) : AreKnownTypes codes (inOrder codes) where
  mem_iff _ := mem_inOrder
  ascending := pairwise_inOrder codes

/-- Settings are read as a taxonomy that has their tables, and they have the fault that is
complained of. -/
theorem yields_ofSettings (s : TaxonomySettings) :
    Yields (ofSettings s) (fun t => t.HasTablesOf s ∧ 0 < t.knownTypeCount) s.HasFault := by
  unfold ofSettings
  refine (yields_settingOr (R := AreChecklists) fun table hgiven => ?_).bind
    fun checklists hchecklists => ?_
  · refine (yields_readChecklists table).imp (fun _ h => h) ?_
    rintro e ⟨name, hmem, rfl, hname⟩
    exact ⟨by rwa [hgiven], hname⟩
  refine (yields_settingOr (R := AreTypeDomains) fun table hgiven => ?_).bind
    fun typeDomains htypes => ?_
  · refine (yields_readTypeDomains table).imp (fun _ h => h) ?_
    rintro e ⟨entry, hmem, rfl, hname⟩
    exact ⟨by rwa [hgiven], hname⟩
  refine (yields_settingOr (R := fun n count => count = n ∧ 0 < count) fun n hgiven => ?_).bind
    fun count hcount => ?_
  · refine (yields_readKnownTypeCount n).imp (fun _ h => h) ?_
    rintro e ⟨rfl, rfl⟩
    exact hgiven
  refine ((yields_settingOr_readDomain ..).imp (fun _ h => h) ?_).bind
    fun strategicDomain hstrategic => ?_
  · rintro e ⟨name, rfl, hfault⟩
    exact hfault
  refine ((yields_settingOr_readDomain ..).imp (fun _ h => h) ?_).bind
    fun fallbackDomain hfallback => ?_
  · rintro e ⟨name, rfl, hfault⟩
    exact hfault
  refine ⟨⟨hchecklists, htypes, ?families, replaces_getD _ areKnownTypes_inOrder,
    replaces_getD _ firstOccurrences_eraseDups, hcount.imp fun _ h => h.1, hstrategic, hfallback⟩,
    hcount.elim (by decide) fun _ h => h.2⟩
  case families =>
    cases s.families with
    | none => exact rfl
    | some table => exact areFamilies_map table

/-- **Settings are a taxonomy, or have a fault.** They are a taxonomy exactly if all names of
domains in them are names of domains and they ask for some known types. It has the tables that they
give and the canonical ones otherwise, and lists nothing twice. -/
theorem outcome_ofSettings (s : TaxonomySettings) : s.Outcome (ofSettings s) := by
  have h := yields_ofSettings s
  cases hresult : ofSettings s with
  | error e =>
    rw [hresult] at h
    exact .refused h.not_isReadable h
  | ok t =>
    rw [hresult] at h
    exact .built (h.1.isReadable h.2) h.1 (h.1.isSound h.2)

end Taxonomy

end Dossier
