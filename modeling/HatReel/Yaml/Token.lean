import HatReel.Yaml.Cursor

/-!
Tokens of a document: brackets, indicators and scalars, and the brackets that indentation stands
for.
-/

namespace HatReel.Yaml

inductive Directive where
  | version (major minor : Nat)
  | tag (handle stem : String)
  | other
  deriving DecidableEq, Repr

/-- The text of a scalar. A plain one stands without quotes; a broken one holds half of a surrogate
pair, which is no character and is shown as a replacement. -/
structure ScalarText where
  text : List Char
  isPlain : Bool
  isBroken : Bool := false
  deriving DecidableEq, Repr

inductive TokenKind where
  | streamStart
  | streamEnd
  | directive (d : Directive)
  | documentStart
  | documentEnd
  | blockSequenceStart
  | blockMappingStart
  | blockEnd
  | flowSequenceStart
  | flowSequenceEnd
  | flowMappingStart
  | flowMappingEnd
  | key
  | value
  | blockEntry
  | flowEntry
  | alias (name : String)
  | anchor (name : String)
  | tag (handle : Option String) (suffix : String)
  | scalar (s : ScalarText)
  deriving DecidableEq, Repr

def TokenKind.label : TokenKind → String
  | .streamStart => "<stream start>"
  | .streamEnd => "<stream end>"
  | .directive _ => "<directive>"
  | .documentStart => "<document start>"
  | .documentEnd => "<document end>"
  | .blockSequenceStart => "<block sequence start>"
  | .blockMappingStart => "<block mapping start>"
  | .blockEnd => "<block end>"
  | .flowSequenceStart => "["
  | .flowSequenceEnd => "]"
  | .flowMappingStart => "\x7b"
  | .flowMappingEnd => "\x7d"
  | .key => "?"
  | .value => ":"
  | .blockEntry => "-"
  | .flowEntry => ","
  | .alias _ => "<alias>"
  | .anchor _ => "<anchor>"
  | .tag .. => "<tag>"
  | .scalar _ => "<scalar>"

structure Token where
  kind : TokenKind
  start : Mark
  stop : Mark
  deriving DecidableEq, Repr

end HatReel.Yaml
