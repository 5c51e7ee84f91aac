import HatReel.Text.Digit
import HatReel.Yaml.Fault
import HatReel.Yaml.Token

/-!
Names, tags and directives: what stands before a node or a document and says something about it.
-/

namespace HatReel.Yaml

open HatReel.Text

def unexpected {α : Type} (wanted : Wanted) (c : Cursor) : Except Fault α :=
  .error (.character (.unexpected wanted c.peek) c.mark)

def expect (wanted : Wanted) (p : Char → Bool) (c : Cursor) : Except Fault Cursor :=
  if p c.peek then .ok c.step else unexpected wanted c

def endsName (c : Char) : Bool :=
  isGapOrEnd c || c == '?' || c == ':' || c == ',' || c == ']' || c == '\x7d' || c == '%' ||
    c == '@' || c == '\x60'

def readName (ends : Char → Bool) (c : Cursor) : Except Fault (String × Cursor) :=
  let (name, next) := c.run isNameChar
  if name.isEmpty then unexpected .nameCharacter c
  else if ends next.peek then .ok (String.ofList name, next)
  else unexpected .nameCharacter next

def readAnchor (c : Cursor) : Except Fault (String × Cursor) := readName endsName c.step

def uriBytes : Nat → Cursor → Except Fault (List UInt8 × Cursor)
  | 0, c => .ok ([], c)
  | n + 1, c =>
    if c.peek == '%' then
      let c := c.step
      if !isAsciiHex c.peek then unexpected .uriEscape c
      else if !isAsciiHex (c.ahead 1) then
        .error (.character (.unexpected .uriEscape (c.ahead 1)) c.mark)
      else do
        let code := Decimal.ofDigits 16 ([c.peek, c.ahead 1].filterMap asciiDigitValue?)
        let (bytes, last) ← uriBytes n (c.skip 2)
        return (UInt8.ofNat code :: bytes, last)
    else .ok ([], c)

def isUriChar (c : Char) : Bool :=
  isNameChar c || ";/?:@&=+$,.!~*\x27()[]".toList.contains c

def uriFrom : Nat → Cursor → Except Fault (List Char × Cursor)
  | 0, c => .ok ([], c)
  | n + 1, c =>
    if c.peek == '%' then do
      let (bytes, next) ← uriBytes (c.rest.length + 1) c
      match decodeUtf8 bytes with
      | .error fault => throw (.character (.uriBytes fault) c.mark)
      | .ok text =>
        let (more, last) ← uriFrom n next
        return (text ++ more, last)
    else if isUriChar c.peek then do
      let (more, last) ← uriFrom n c.step
      return (c.peek :: more, last)
    else .ok ([], c)

def readUri (c : Cursor) : Except Fault (String × Cursor) := do
  let (text, last) ← uriFrom (c.rest.length + 1) c
  if text.isEmpty then unexpected .uri c else return (String.ofList text, last)

def readHandle (c : Cursor) : Except Fault (String × Cursor) := do
  let next ← expect .exclamation (· == '!') c
  if next.peek == ' ' then return ("!", next)
  let (name, next) := next.run isNameChar
  let last ← expect .exclamation (· == '!') next
  return (String.ofList ('!' :: name ++ ['!']), last)

/-- Whether another exclamation mark stands in the same word. -/
def hasHandle (c : Cursor) : Bool :=
  (c.rest.drop 1).takeWhile (!isSpaceOrEnd ·) |>.contains '!'

def readTag (c : Cursor) : Except Fault (Option String × String × Cursor) := do
  let (handle, suffix, last) ←
    if c.ahead 1 == '<' then do
      let (uri, next) ← readUri (c.skip 2)
      pure (none, uri, ← expect .closingAngle (· == '>') next)
    else if isGapOrEnd (c.ahead 1) then pure (none, "!", c.step)
    else if hasHandle c then do
      let (handle, next) ← readHandle c
      let (suffix, last) ← readUri next
      pure (some handle, suffix, last)
    else do
      let (suffix, last) ← readUri c.step
      pure (some "!", suffix, last)
  if isSpaceOrEnd last.peek then return (handle, suffix, last) else unexpected .space last

def readNumber (c : Cursor) : Except Fault (Nat × Cursor) :=
  let (digits, next) := c.run isAsciiDigit
  if digits.isEmpty then unexpected .digit c
  else .ok (Decimal.ofDigits 10 (digits.filterMap asciiDigitValue?), next)

def readVersion (c : Cursor) : Except Fault (Directive × Cursor) := do
  let (major, next) ← readNumber (c.skipWhile (· == ' '))
  let next ← expect .digitOrPoint (· == '.') next
  let (minor, last) ← readNumber next
  if isSpaceOrEnd last.peek then return (.version major minor, last)
  else unexpected .digitOrSpace last

/-- A handle, and the stem that it stands for. -/
def readTagDirective (c : Cursor) : Except Fault (Directive × Cursor) := do
  let (handle, next) ← readHandle (c.skipWhile (· == ' '))
  if next.peek != ' ' then unexpected .space next
  let (stem, last) ← readUri (next.skipWhile (· == ' '))
  if isSpaceOrEnd last.peek then return (.tag handle stem, last) else unexpected .space last

def readDirective (c : Cursor) : Except Fault (Directive × Cursor) := do
  let (name, next) ← readName isSpaceOrEnd c.step
  let (directive, next) ←
    if name == "YAML" then readVersion next
    else if name == "TAG" then readTagDirective next
    else pure (.other, next.skipWhile (!isBreak ·))
  let next := next.skipComment
  if isBreakOrEnd next.peek then return (directive, next.lineBreak.2)
  else unexpected .commentOrBreak next

end HatReel.Yaml
