import Egress.Yaml.Cursor

/-!
# Tokens of a YAML text

Indentation shows in the tokens as the starts and ends of block collections, and a mapping key that
is written without a question mark is preceded by a `key` token all the same.  Where a text cannot
be read on, its flaw is the last token.
-/

namespace Egress.Yaml

inductive Token where
  | version (major : Nat)
  | tagShorthand (handle lead : String)
  /-- A directive that asks for nothing. -/
  | otherDirective
  | documentStart
  | documentEnd
  | blockSequence
  | blockMapping
  | blockEnd
  | flowSequence
  | flowSequenceEnd
  | flowMapping
  | flowMappingEnd
  | flowEntry
  | blockEntry
  | key
  | value
  | alias (name : String)
  | anchor (name : String)
  /-- A tag with its handle, or a whole tag without one. -/
  | tag (handle : Option String) (suffix : String)
  | scalar (text : String) (plain : Bool)
  /-- The end of the text. -/
  | finish
  | broken (flaw : TextFlaw)
  deriving Repr, DecidableEq, Inhabited

end Egress.Yaml
