import Dossier.Json.Decode
import Dossier.Taxonomy.Canonical

/-!
# Taxonomies from settings

Settings may replace any table of the canonical taxonomy. They name domains by text, so
`ofSettings` fails at the first name that is no domain, and it refuses a complete collection of no
types.
-/

namespace Dossier

/-- The tables that replace canonical ones. The entries of each table are in ascending order of
their keys. -/
structure TaxonomySettings where
  typeDomains : Option (List (String × String)) := none
  domainTypes : Option (List (String × List String)) := none
  families : Option (List (String × List String)) := none
  knownTypes : Option (List String) := none
  foundationTypes : Option (List String) := none
  knownTypeCount : Option Nat := none
  strategicDomain : Option String := none
  fallbackDomain : Option String := none
  deriving Repr, Inhabited

/-- Why settings describe no taxonomy. -/
inductive TaxonomyError where
  | unknownChecklistDomain (domain : String)
  | unknownTypeDomain (code domain : String)
  | noKnownTypes
  | unknownStrategicDomain (domain : String)
  | unknownFallbackDomain (domain : String)
  deriving DecidableEq, Repr

/-- The wording of a fault in the settings of a taxonomy. -/
def TaxonomyError.message : TaxonomyError → String
  | .unknownChecklistDomain domain => s!"taxonomy.domain_types: unknown domain '{domain}'"
  | .unknownTypeDomain code domain =>
    s!"taxonomy.type_domains: unknown domain '{domain}' for type {code}"
  | .noKnownTypes => "taxonomy.known_type_count must be greater than 0"
  | .unknownStrategicDomain domain => s!"taxonomy.strategic_domain: unknown domain '{domain}'"
  | .unknownFallbackDomain domain => s!"taxonomy.fallback_domain: unknown domain '{domain}'"

namespace TaxonomySettings

open Json

/-- The settings with one field set. -/
def set (s : TaxonomySettings) (key : String) (v : Value) :
    Except DecodeError TaxonomySettings :=
  match key with
  | "type_domains" => do
    return { s with typeDomains := ← Decoder.option (Decoder.map Decoder.string) v }
  | "domain_types" => do
    return { s with domainTypes := ← Decoder.option (Decoder.map (Decoder.list Decoder.string)) v }
  | "families" => do
    return { s with families := ← Decoder.option (Decoder.map (Decoder.list Decoder.string)) v }
  | "known_types" => do
    return { s with knownTypes := ← Decoder.option (Decoder.list Decoder.string) v }
  | "foundation_types" => do
    return { s with foundationTypes := ← Decoder.option (Decoder.list Decoder.string) v }
  | "known_type_count" => do
    return { s with knownTypeCount := ← Decoder.option Decoder.size v }
  | "strategic_domain" => do
    return { s with strategicDomain := ← Decoder.option Decoder.string v }
  | "fallback_domain" => do
    return { s with fallbackDomain := ← Decoder.option Decoder.string v }
  | _ => .ok s

/-- How the settings are given. -/
def shape : Shape TaxonomySettings where
  name := "TaxonomyConfig"
  fields :=
    ["type_domains", "domain_types", "families", "known_types", "foundation_types",
      "known_type_count", "strategic_domain", "fallback_domain"]
  required := []
  atLeast := 8
  set := set

/-- The settings that a value gives. -/
def ofJson : Decoder TaxonomySettings := shape.decode {}

end TaxonomySettings

namespace Taxonomy

/-- The domain of a given name, or the given complaint. -/
def readDomain (complaint : String → TaxonomyError) (name : String) :
    Except TaxonomyError Domain :=
  match Domain.ofName? name with
  | some d => .ok d
  | none => .error (complaint name)

/-- The checklists of a table of names, in the order of the domains. -/
def readChecklists (table : List (String × List String)) :
    Except TaxonomyError (List (Domain × List String)) := do
  let lists ← table.mapM fun (name, codes) => do
    return (← readDomain .unknownChecklistDomain name, codes.eraseDups)
  return Domain.all.filterMap fun d => (lists.lookup d).map (d, ·)

/-- The domains of types of a table of names. -/
def readTypeDomains (table : List (String × String)) :
    Except TaxonomyError (List (String × Domain)) :=
  table.mapM fun (code, name) => do return (code, ← readDomain (.unknownTypeDomain code) name)

/-- The value of a setting, or what holds without it. -/
def settingOr {α β : Type} (canonical : β) (read : α → Except TaxonomyError β) :
    Option α → Except TaxonomyError β
  | none => .ok canonical
  | some a => read a

/-- The number of types of a complete collection, which has some. -/
def readKnownTypeCount (n : Nat) : Except TaxonomyError Nat :=
  if n == 0 then .error .noKnownTypes else .ok n

/-- The canonical taxonomy with the tables of the settings in the place of its own. -/
def ofSettings (s : TaxonomySettings) : Except TaxonomyError Taxonomy := do
  let checklists ← settingOr canonical.checklists readChecklists s.domainTypes
  let typeDomains ← settingOr canonical.typeDomains readTypeDomains s.typeDomains
  let count ← settingOr canonical.knownTypeCount readKnownTypeCount s.knownTypeCount
  let strategicDomain ←
    settingOr canonical.strategicDomain (readDomain .unknownStrategicDomain) s.strategicDomain
  let fallbackDomain ←
    settingOr canonical.fallbackDomain (readDomain .unknownFallbackDomain) s.fallbackDomain
  return {
    typeDomains := typeDomains
    checklists := checklists
    families :=
      match s.families with
      | some table => table.map fun (family, codes) => (family, codes.eraseDups)
      | none => canonical.families
    knownTypes := (s.knownTypes.map inOrder).getD canonical.knownTypes
    foundationTypes := (s.foundationTypes.map List.eraseDups).getD canonical.foundationTypes
    knownTypeCount := count
    strategicDomain := strategicDomain
    fallbackDomain := fallbackDomain
  }

end Taxonomy

end Dossier
