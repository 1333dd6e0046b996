/-!
# The tokens of YAML text

Tokens show the structure of a text: where collections start and end, by indentation or by brackets,
which nodes are keys and which are values, and the texts of the scalars.
-/

namespace WebhookOperator.Yaml

inductive Token where
  | version (major minor : Nat)
  /-- A tag handle, and what it stands for. -/
  | tagHandle (handle start : String)
  | documentStart
  | documentEnd
  | blockSequenceStart
  | blockMappingStart
  | blockEnd
  | flowSequenceStart
  | flowSequenceEnd
  | flowMappingStart
  | flowMappingEnd
  | blockEntry
  | flowEntry
  | key
  | value
  | alias (name : String)
  | anchor (name : String)
  | tag (handle suffix : String)
  | scalar (plain : Bool) (text : String)
deriving DecidableEq, Inhabited

end WebhookOperator.Yaml
