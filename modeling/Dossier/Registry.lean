import Dossier.Collection

/-!
# Registries

A registry is a collection together with the taxonomy it is read with and the settings of its
queries.
-/

namespace Dossier

/-- A collection, its taxonomy and the settings of its queries. -/
structure Registry where
  collection : Collection
  taxonomy : Taxonomy
  /-- The number of matches above which a query suggests to narrow it. -/
  suggestionThreshold : Nat := 100
  /-- The number of similar documents that are listed unless a request says otherwise. -/
  similarLimit : Nat := 5

/-- The documents of a registry. -/
def Registry.documents (r : Registry) : List Document := r.collection.documents

/-- The domain of each document of a registry. -/
def Registry.domains (r : Registry) : List Domain := r.documents.map r.taxonomy.domainOf

end Dossier
