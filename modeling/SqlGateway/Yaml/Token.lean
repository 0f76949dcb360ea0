/-
# Tokens of a YAML text

The tokens that `Yaml.tokens?` cuts a text into.  Indentation has become tokens of its own: blocks
begin and end explicitly, and so do documents and the stream.  Tags are bytes, since the escapes in
them may write bytes that are no text.
-/
namespace SqlGateway.Yaml

/-- How a scalar is written. -/
inductive ScalarStyle where
  | plain
  | singleQuoted
  | doubleQuoted
  | literal
  | folded
deriving DecidableEq, Repr

/-- A token of a YAML text. -/
inductive Token where
  | streamEnd
  | versionDirective (major minor : Nat)
  | tagDirective (handle : String) (expansion : List UInt8)
  | documentStart
  | documentEnd
  | blockSequenceStart
  | blockMappingStart
  | blockEnd
  | flowSequenceStart
  | flowSequenceEnd
  | flowMappingStart
  | flowMappingEnd
  | blockEntry
  | flowEntry
  | key
  | value
  | alias (name : String)
  | anchor (name : String)
  | tag (handle : String) (suffix : List UInt8)
  | scalar (style : ScalarStyle) (text : String)
deriving DecidableEq, Repr

end SqlGateway.Yaml
