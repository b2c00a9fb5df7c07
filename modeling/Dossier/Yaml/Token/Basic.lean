/-!
# Tokens of YAML text

Blocks are shown by tokens of their own, which stand where a block's indentation begins and ends.
-/

namespace Dossier.Yaml

/-- A token. A plain scalar is one without quotes or block indicator. -/
inductive Token where
  | versionDirective (major minor : Nat)
  | tagDirective (handle start : String)
  | documentStart
  | documentEnd
  | blockSequenceStart
  | blockMappingStart
  | blockEnd
  | flowSequenceStart
  | flowSequenceEnd
  | flowMappingStart
  | flowMappingEnd
  | blockEntry
  | flowEntry
  | key
  | value
  | reference (name : String)
  | anchor (name : String)
  | tag (handle suffix : String)
  | scalar (plain : Bool) (text : String)
  deriving DecidableEq, Repr

end Dossier.Yaml
