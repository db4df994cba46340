import ApiBindings.Yaml.Source

namespace ApiBindings.Yaml

/-- How a scalar is written, as far as its meaning depends on it. -/
inductive Style where
  | plain
  | literal
  | other
  deriving DecidableEq, Repr

inductive Token where
  | versionDirective (major minor : Nat)
  | tagDirective (handle expansion : String)
  | documentStart
  | documentEnd
  | blockSequenceStart
  | blockMappingStart
  | blockEnd
  | flowSequenceStart
  | flowSequenceEnd
  | flowMappingStart
  | flowMappingEnd
  | blockEntry
  | flowEntry
  | key
  | value
  | alias (name : String)
  | anchor (name : String)
  /-- A tag; without a handle the suffix is the whole tag. -/
  | tag (handle suffix : String)
  | scalar (text : String) (style : Style)
  deriving DecidableEq, Repr

end ApiBindings.Yaml
