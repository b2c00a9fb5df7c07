import Mathlib.Data.List.Nodup
import Dossier.Document.Json
import Dossier.Proofs.Json.Decode

/-!
# The fields of a document

A document has twenty-six fields that a key names. `Field` lists them, each with what it holds and
the format in which that is written and read. Every format reads back what it writes
(`Field.readsBack_format`), a field is left out only if it holds what a document has where nothing
is given (`Field.get_eq_of_write_eq_none`), and a key sets its own field and no other
(`Field.setsField`).
-/

namespace Dossier.Document

open Json

/-! ## Formats -/

/-- How a value is written, unless it is left out, and how it is read. -/
structure Format (α : Type) where
  write : α → Option Value
  read : Decoder α

namespace Format

variable {α : Type}

/-- What a format writes, it reads back. -/
def ReadsBack (format : Format α) : Prop := ∀ a v, format.write a = some v → format.read v = .ok a

/-- A text. -/
def text : Format String := ⟨fun s => some (.string s), Decoder.string⟩

/-- One of several variants, as its name. -/
def variant (all : List α) (name : α → String) : Format α :=
  ⟨fun a => some (.string (name a)), Decoder.variant all name⟩

/-- A list of texts. -/
def list : Format (List String) := ⟨fun ss => some (.strings ss), Decoder.list Decoder.string⟩

/-- A list of texts that is left out if it is empty. -/
def listUnlessEmpty : Format (List String) :=
  ⟨fun ss => if ss.isEmpty then none else some (.strings ss), Decoder.list Decoder.string⟩

/-- Something that is left out if there is none. -/
def option (write : α → Value) (read : Decoder α) : Format (Option α) :=
  ⟨fun o => o.map write, Decoder.option read⟩

theorem readsBack_text : text.ReadsBack := by
  intro s v hv
  cases hv
  rfl

theorem readsBack_variant {all : List α} {name : α → String}
    (hnamed : ∀ a, Decoder.named all name (name a) = .ok a) : (variant all name).ReadsBack := by
  intro a v hv
  cases hv
  exact hnamed a

/-- A list of texts is read back. -/
theorem list_strings (ss : List String) : Decoder.list Decoder.string (.strings ss) = .ok ss := by
  show Decoder.items Decoder.string (ss.map .string) = .ok ss
  induction ss with
  | nil => rfl
  | cons s rest ih =>
    rw [List.map_cons, Decoder.items, ih]
    rfl

theorem readsBack_list : list.ReadsBack := by
  intro ss v hv
  cases hv
  exact list_strings ss

theorem readsBack_listUnlessEmpty : listUnlessEmpty.ReadsBack := by
  intro ss v hv
  obtain ⟨-, hsome⟩ := Option.ite_none_left_eq_some.1 hv
  cases hsome
  exact list_strings ss

/-- Only the empty list is left out. -/
theorem eq_nil_of_write_eq_none {ss : List String} (h : listUnlessEmpty.write ss = none) :
    ss = [] := by
  simpa [listUnlessEmpty] using h

/-- What may be `null` instead is read as it is if it is not `null`. -/
theorem option_of_ne_null {read : Decoder α} {v : Value} (h : v ≠ .null) :
    Decoder.option read v = (read v).map some := by
  cases v with
  | null => exact absurd rfl h
  | _ => rfl

theorem readsBack_option {write : α → Value} {read : Decoder α}
    (hread : ∀ a, read (write a) = .ok a)
    (hnull : ∀ a, write a ≠ .null) : (option write read).ReadsBack := by
  intro o v hv
  obtain ⟨a, rfl, rfl⟩ := Option.map_eq_some_iff.1 hv
  show Decoder.option read (write a) = .ok (some a)
  rw [option_of_ne_null (hnull a), hread a]
  rfl

end Format

/-! ## Fields -/

/-- The fields of a document, in the order in which they are written. -/
inductive Field where
  | id
  | title
  | type
  | status
  | version
  | owner
  | stakeholders
  | reviewers
  | created
  | updated
  | reviewCycle
  | dependsOn
  | enables
  | conflictsWith
  | related
  | supersedes
  | domain
  | priority
  | successCriteria
  | assumptions
  | constraints
  | risks
  | metrics
  | tags
  | content
  | source
  deriving DecidableEq, Repr

namespace Field

/-- All fields, in their order. -/
def all : List Field :=
  [id, title, type, status, version, owner, stakeholders, reviewers, created, updated, reviewCycle,
    dependsOn, enables, conflictsWith, related, supersedes, domain, priority, successCriteria,
    assumptions, constraints, risks, metrics, tags, content, source]

/-- The key of a field. -/
def key : Field → String
  | id => "id"
  | title => "title"
  | type => "type"
  | status => "status"
  | version => "version"
  | owner => "owner"
  | stakeholders => "stakeholders"
  | reviewers => "reviewers"
  | created => "created"
  | updated => "updated"
  | reviewCycle => "review_cycle"
  | dependsOn => "depends_on"
  | enables => "enables"
  | conflictsWith => "conflicts_with"
  | related => "related"
  | supersedes => "supersedes"
  | domain => "domain"
  | priority => "priority"
  | successCriteria => "success_criteria"
  | assumptions => "assumptions"
  | constraints => "constraints"
  | risks => "risks"
  | metrics => "metrics"
  | tags => "tags"
  | content => "content"
  | source => "source"

/-- What a field holds. -/
def Content : Field → Type
  | id | title | type | version | owner | created | updated | content => String
  | status => Status
  | stakeholders | reviewers | dependsOn | enables | conflictsWith | related | assumptions
  | constraints | risks | metrics | tags => List String
  | reviewCycle => Option ReviewCycle
  | supersedes | source => Option String
  | domain => Option Domain
  | priority => Option Priority
  | successCriteria => Option (List String)

/-- What a document has in a field. -/
def get (doc : Document) : (f : Field) → f.Content
  | id => doc.id
  | title => doc.title
  | type => doc.type
  | status => doc.status
  | version => doc.version
  | owner => doc.owner
  | stakeholders => doc.stakeholders
  | reviewers => doc.reviewers
  | created => doc.created
  | updated => doc.updated
  | reviewCycle => doc.reviewCycle
  | dependsOn => doc.dependsOn
  | enables => doc.enables
  | conflictsWith => doc.conflictsWith
  | related => doc.related
  | supersedes => doc.supersedes
  | domain => doc.domain
  | priority => doc.priority
  | successCriteria => doc.successCriteria
  | assumptions => doc.assumptions
  | constraints => doc.constraints
  | risks => doc.risks
  | metrics => doc.metrics
  | tags => doc.tags
  | content => doc.content
  | source => doc.source

/-- The format of a field. -/
def format : (f : Field) → Format f.Content
  | id | title | type | version | owner | created | updated | content => .text
  | status => .variant Status.all Status.name
  | dependsOn | enables | conflictsWith | related => .list
  | stakeholders | reviewers | assumptions | constraints | risks | metrics | tags =>
    .listUnlessEmpty
  | reviewCycle => .option (.string ·.name) (Decoder.variant ReviewCycle.all ReviewCycle.name)
  | supersedes | source => .option .string Decoder.string
  | domain => .option (.string ·.name) (Decoder.variant Domain.all Domain.name)
  | priority => .option (.string ·.name) (Decoder.variant Priority.all Priority.name)
  | successCriteria => .option .strings (Decoder.list Decoder.string)

/-- The fields are all those that have a name. -/
theorem map_key_all : all.map key = fieldNames := rfl

/-- The key of a field is the name of one. -/
theorem key_mem_fieldNames (f : Field) : f.key ∈ fieldNames := by
  cases f <;> decide

/-- No two fields have one key. -/
theorem key_injective {f g : Field} (h : f.key = g.key) : f = g := by
  have hnodup : (all.map key).Nodup := by decide
  have hall (f : Field) : f ∈ all := by cases f <;> decide
  exact List.inj_on_of_nodup_map hnodup (hall f) (hall g) h

/-- What is written of a field is read back. -/
theorem readsBack_format (f : Field) : f.format.ReadsBack := by
  cases f with
  | id | title | type | version | owner | created | updated | content =>
    exact Format.readsBack_text
  | status => exact Format.readsBack_variant fun a => by cases a <;> rfl
  | dependsOn | enables | conflictsWith | related => exact Format.readsBack_list
  | stakeholders | reviewers | assumptions | constraints | risks | metrics | tags =>
    exact Format.readsBack_listUnlessEmpty
  | supersedes | source => exact Format.readsBack_option (fun _ => rfl) fun _ => Value.noConfusion
  | reviewCycle | domain | priority =>
    exact Format.readsBack_option (fun a => by cases a <;> rfl) fun _ => Value.noConfusion
  | successCriteria => exact Format.readsBack_option Format.list_strings fun _ => Value.noConfusion

/-- A field is left out only if it holds what the least document holds. -/
theorem get_eq_of_write_eq_none {doc : Document} {f : Field}
    (h : f.format.write (f.get doc) = none) : f.get doc = f.get (named "" "") := by
  cases f with
  | id | title | type | version | owner | created | updated | content => cases h
  | status => cases h
  | dependsOn | enables | conflictsWith | related => cases h
  | stakeholders | reviewers | assumptions | constraints | risks | metrics | tags =>
    exact Format.eq_nil_of_write_eq_none h
  | supersedes | source | reviewCycle | domain | priority | successCriteria =>
    exact Option.map_eq_none_iff.1 h

end Field

/-! ## Keys and fields -/

/-- A key whose member sets a field that no other member sets. -/
structure SetsField {α : Type} (key : String) (field : Document → α) (decode : Decoder α) :
    Prop where
  sets : ∀ {doc doc' : Document} {v : Value}, doc.set key v = .ok doc' →
    decode v = .ok (field doc')
  keeps : ∀ {doc doc' : Document} {k : String} {v : Value}, k ≠ key → doc.set k v = .ok doc' →
    field doc' = field doc

/-- The key of a field sets it. -/
theorem Field.setsField (f : Field) : SetsField f.key (f.get ·) f.format.read where
  sets {doc doc' v} h := by
    cases f
    all_goals
      obtain ⟨a, ha, hdoc⟩ := exists_of_bind_eq_ok h
      cases hdoc
      exact ha
  keeps {doc doc' k v} hk h := by
    unfold Document.set at h
    split at h
    case h_27 =>
      cases h
      cases f <;> rfl
    -- every other key sets a field of its own, which `hk` tells from this one
    all_goals
      obtain ⟨_, -, hdoc⟩ := exists_of_bind_eq_ok h
      cases hdoc
      cases f <;> first | rfl | exact absurd rfl hk

/-- A member of a field is set if it can be read. -/
theorem Field.exists_set {f : Field} {v : Value} {a : f.Content} (doc : Document)
    (h : f.format.read v = .ok a) : ∃ doc', doc.set f.key v = .ok doc' := by
  cases f
  all_goals exact ⟨_, congrArg (· >>= _) h⟩

/-- Documents with the same in every field and the same extra members are the same. -/
theorem eq_of_forall_get {doc doc' : Document} (hget : ∀ f : Field, f.get doc = f.get doc')
    (hextra : doc.extra = doc'.extra) : doc = doc' := by
  cases doc
  cases doc'
  rw [Document.mk.injEq]
  exact ⟨hget .id, hget .title, hget .type, hget .status, hget .version, hget .owner,
    hget .stakeholders, hget .reviewers, hget .created, hget .updated, hget .reviewCycle,
    hget .dependsOn, hget .enables, hget .conflictsWith, hget .related, hget .supersedes,
    hget .domain, hget .priority, hget .successCriteria, hget .assumptions, hget .constraints,
    hget .risks, hget .metrics, hget .tags, hget .content, hget .source, hextra⟩

end Dossier.Document
