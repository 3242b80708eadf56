import Upkeep.Text.Utf8

/-!
# Tokens of a document

Collections in flow style are delimited by brackets and braces, collections in block style by
indentation; the tokens `blockSequenceStart`, `blockMappingStart` and `blockEnd` stand where
indentation starts or ends one. A key in front of a colon is preceded by a `key` token.
-/

namespace Upkeep.Yaml

/-- How a scalar is written. -/
inductive Style where
  | plain
  | singleQuoted
  | doubleQuoted
  | literal
  | folded
  deriving DecidableEq, Repr

/-- A token. -/
inductive Token where
  | version (major minor : Nat)
  | tagShorthand (handle : String) (expansion : Bytes)
  | documentStart
  | documentEnd
  | blockSequenceStart
  | blockMappingStart
  | blockEnd
  | flowSequenceStart
  | flowSequenceEnd
  | flowMappingStart
  | flowMappingEnd
  | blockEntry
  | flowEntry
  | key
  | value
  | alias (name : String)
  | anchor (name : String)
  | tag (handle : String) (suffix : Bytes)
  | scalar (style : Style) (text : String)
  deriving DecidableEq, Repr

end Upkeep.Yaml
