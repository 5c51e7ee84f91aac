import HatReel.Decimal.Integer
import HatReel.Text.Utf8
import HatReel.Yaml.Cursor

/-!
Why a document cannot be read: its characters form no tokens, its tokens form no tree, an anchor or
an alias is wrong, or a node does not have the form that its tag asks for.
-/

namespace HatReel.Yaml

open HatReel.Text

inductive Wanted where
  | nameCharacter
  | digit
  | digitOrPoint
  | digitOrSpace
  | space
  | commentOrBreak
  | exclamation
  | closingAngle
  | uri
  | uriEscape
  | escape (digits : Nat)
  | blockIndicator
  deriving DecidableEq, Repr

def Wanted.text : Wanted → String
  | .nameCharacter => "alphabetic or numeric character"
  | .digit => "a digit"
  | .digitOrPoint => "a digit or '.'"
  | .digitOrSpace => "a digit or ' '"
  | .space => "' '"
  | .commentOrBreak => "a comment or a line break"
  | .exclamation => "'!'"
  | .closingAngle => "'>'"
  | .uri => "URI"
  | .uriEscape => "URI escape sequence of 2 hexadecimal numbers"
  | .escape digits => s!"escape sequence of {digits} hexadecimal numbers"
  | .blockIndicator => "chomping or indentation indicators"

inductive CharacterFault where
  | noToken (found : Char)
  | unexpected (wanted : Wanted) (found : Char)
  | keyWithoutColon
  | misplacedEntry
  | misplacedKey
  | misplacedValue
  | zeroIndentation
  | unknownEscape (found : Char)
  | openQuote
  | separatorInQuote
  | uriBytes (fault : Utf8Fault)
  deriving DecidableEq, Repr

def CharacterFault.message : CharacterFault → String
  | .noToken c => s!"found character {quoted c.toString} that cannot start any token"
  | .unexpected wanted c => s!"expected {wanted.text}, but found {quoted c.toString}"
  | .keyWithoutColon => "could not find expected ':'"
  | .misplacedEntry => "sequence entries are not allowed here"
  | .misplacedKey => "mapping keys are not allowed here"
  | .misplacedValue => "mapping values are not allowed here"
  | .zeroIndentation => "expected indentation indicator in the range 1-9, but found 0"
  | .unknownEscape c => s!"found unknown escape character {quoted c.toString}"
  | .openQuote => "found unexpected end of stream"
  | .separatorInQuote => "found unexpected document separator"
  | .uriBytes fault => fault.message

inductive TokenFault where
  | noDocument (found : String)
  | noContent (found : String)
  | openBlock (found : String)
  | openFlowSequence (found : String)
  | openFlowMapping (found : String)
  | secondVersion
  | unknownVersion
  | secondHandle (handle : String)
  | unknownHandle (handle : String)
  deriving DecidableEq, Repr

def TokenFault.message : TokenFault → String
  | .noDocument found => s!"expected '<document start>', but found {quoted found}"
  | .noContent found => s!"expected the node content, but found {quoted found}"
  | .openBlock found => s!"expected <block end>, but found {quoted found}"
  | .openFlowSequence found => s!"expected ',' or ']', but got {quoted found}"
  | .openFlowMapping found => s!"expected ',' or '\x7d', but got {quoted found}"
  | .secondVersion => "found duplicate YAML directive"
  | .unknownVersion => "found incompatible YAML document (version 1.* is required)"
  | .secondHandle handle => s!"duplicate tag handle {quoted handle}"
  | .unknownHandle handle => s!"found undefined tag handle {quoted handle}"

inductive ReferenceFault where
  | unknownAlias (name : String)
  | secondAnchor
  | secondDocument
  deriving DecidableEq, Repr

def ReferenceFault.message : ReferenceFault → String
  | .unknownAlias name => s!"found undefined alias {quoted name}"
  | .secondAnchor => "second occurrence"
  | .secondDocument => "but found another document"

inductive Form where
  | scalar
  | sequence
  | mapping
  deriving DecidableEq, Repr

def Form.text : Form → String
  | .scalar => "scalar"
  | .sequence => "sequence"
  | .mapping => "mapping"

inductive NodeFault where
  | unknownTag (uri : String)
  | wrongForm (wanted found : Form)
  | unhashableKey
  | mergeItem (found : Form)
  | mergeValue (found : Form)
  | pairs (found : Form)
  | pair (found : Form)
  | pairSize (count : Nat)
  | binaryText (message : String)
  | binaryDigits (message : String)
  deriving DecidableEq, Repr

def NodeFault.message : NodeFault → String
  | .unknownTag uri => s!"could not determine a constructor for the tag {quoted uri}"
  | .wrongForm wanted found => s!"expected a {wanted.text} node, but found {found.text}"
  | .unhashableKey => "found unhashable key"
  | .mergeItem found => s!"expected a mapping for merging, but found {found.text}"
  | .mergeValue found =>
    s!"expected a mapping or list of mappings for merging, but found {found.text}"
  | .pairs found => s!"expected a sequence, but found {found.text}"
  | .pair found => s!"expected a mapping of length 1, but found {found.text}"
  | .pairSize count => s!"expected a single mapping item, but found {count} items"
  | .binaryText message => s!"failed to convert base64 data into ascii: {message}"
  | .binaryDigits message => s!"failed to decode base64 data: {message}"

/-- Faults of scalars whose text does not say what the tag promises; they have no place. -/
inductive ScalarFault where
  | integer (fault : Decimal.IntegerFault)
  | number (text : String)
  | switch (text : String)
  | empty
  | notInstant
  | notText
  /-- A part of an instant is out of its range. -/
  | instant (message : String)
  deriving DecidableEq, Repr

def ScalarFault.message : ScalarFault → String
  | .integer fault => fault.message
  | .number text => s!"could not convert string to float: {quoted text}"
  | .switch text => quoted text
  | .empty => "string index out of range"
  | .notInstant => ""
  | .notText => ""
  | .instant message => message

inductive Fault where
  /-- A character that no document may hold. -/
  | unprintable (position : Nat)
  | character (fault : CharacterFault) (place : Mark)
  /-- An escape whose code stands for no character. -/
  | codePoint (code : Nat)
  | token (fault : TokenFault) (place : Mark)
  | reference (fault : ReferenceFault) (place : Mark)
  | node (fault : NodeFault) (place : Mark)
  | scalar (fault : ScalarFault)
  deriving DecidableEq, Repr

def Fault.message : Fault → String
  | .unprintable _ => "special characters are not allowed"
  | .character fault _ => fault.message
  | .codePoint code =>
    if code < 0x80000000 then "chr() arg not in range(0x110000)"
    else "Python int too large to convert to C int"
  | .token fault _ => fault.message
  | .reference fault _ => fault.message
  | .node fault _ => fault.message
  | .scalar fault => fault.message

end HatReel.Yaml
