import Dossier.Taxonomy.Basic

/-!
# The canonical taxonomy

The assignment of types to domains that holds unless settings replace it. A type that stands in
more than one checklist belongs to the domain that lists it first.
-/

namespace Dossier.Taxonomy

/-- The canonical checklists. -/
def canonicalChecklists : List (Domain × List String) :=
  [(.strategic, ["MSN", "VSN", "VAL", "STR", "OBJ", "MOT", "PUR", "THY"]),
    (.market, ["MKT", "SEG", "CMP", "POS", "TRN", "ECO", "OPP", "THR", "REG", "MAC"]),
    (.customer,
      ["PER", "JTB", "CJM", "USE", "STO", "PAI", "GAI", "EMP", "FEE", "INT", "SUR", "BEH"]),
    (.product, ["PRD", "SVC", "FEA", "ROD", "REQ", "QUA", "UXD", "PER", "INT", "SUP"]),
    (.model, ["BMC", "REV", "PRC", "CST", "CHN", "REL", "RES", "ACT", "PRT", "UNT", "LTV", "CAC"]),
    (.operations,
      ["PRC", "WFL", "ORG", "ROL", "TEA", "SKI", "POL", "SLA", "VND", "FAC", "TOO", "CAP"]),
    (.technology, ["ARC", "SYS", "DAT", "API", "INF", "SEC", "DEV", "ANA"]),
    (.financial, ["FIN", "BUD", "FOR", "FND", "INV", "VAL", "MET", "REP", "AUD", "TAX"]),
    (.risk, ["RSK", "MIT", "CMP", "GVN", "CTL", "CRI", "ETH", "STA"]),
    (.growth, ["GTM", "GRW", "SCL", "EXP", "INN", "RND", "ACQ"]),
    (.learning, ["DEC", "LRN", "RET", "HYP", "KNO", "WIS"])]

/-- The codes of checklists that are no types of documents. -/
def planningCodes : List String :=
  ["CAC", "CAP", "DEC", "HYP", "KNO", "LRN", "RET", "SYS", "TEA", "WIS"]

/-- The domain that each code of the checklists is listed in, the first listing first. -/
def listings (checklists : List (Domain × List String)) : List (String × Domain) :=
  checklists.flatMap fun (d, codes) => codes.map fun code => (code, d)

/-- Strings in ascending order, each once. -/
def inOrder (ss : List String) : List String := (ss.mergeSort (· ≤ ·)).eraseDups

/-- The canonical taxonomy. -/
def canonical : Taxonomy where
  typeDomains := listings canonicalChecklists
  checklists := canonicalChecklists
  families := (canonicalChecklists.map fun (d, codes) => (d.name, codes)).mergeSort (·.1 ≤ ·.1)
  knownTypes :=
    inOrder ((canonicalChecklists.flatMap (·.2)).filter fun code => !planningCodes.contains code)
  foundationTypes := ["MSN", "VSN", "VAL", "STR"]
  knownTypeCount := 82
  strategicDomain := .strategic
  fallbackDomain := .strategic

end Dossier.Taxonomy
