import ViewLayout.Yaml.Fault

/-!
# YAML tokens

The tokens of a YAML text. Where blocks begin and end by indentation alone, tokens without a text of
their own say so. A text that cannot be read to its end gives a last token that tells why.
-/

namespace ViewLayout.Yaml

/-- What a directive says. -/
inductive Directive
  | version (major : Nat)
  | tagPrefix (handle meaning : String)
  | other
deriving DecidableEq

/-- A token of a YAML text. -/
inductive Token
  | directive (content : Directive)
  | documentStart
  | documentEnd
  | blockSequenceStart
  | blockMappingStart
  | blockEnd
  | flowSequenceStart
  | flowSequenceEnd
  | flowMappingStart
  | flowMappingEnd
  | blockEntry
  | flowEntry
  | key
  | value
  | alias (name : String)
  | anchor (name : String)
  /-- A tag: a handle that a directive explains, and what follows it. -/
  | tag (handle : Option String) (suffix : String)
  /-- A scalar, and whether it is written plainly, without quotes and block marks. -/
  | scalar (text : String) (plain : Bool)
  /-- The text cannot be read on from here. -/
  | broken (fault : Fault)
deriving DecidableEq

end ViewLayout.Yaml
