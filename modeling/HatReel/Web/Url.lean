import HatReel.Text.Letter
import HatReel.Text.Quoted
import HatReel.Web.Address

/-!
The path inside a URL. What stands before and behind the path is taken off: scheme, host, fragment,
query and parameters; a host in brackets has to be an address.
-/

namespace HatReel.Web

open HatReel.Text

inductive UrlFault where
  | badBrackets
  | badFuture
  | notAddress (host : String)
  | bracketedFour
  | disguised (host : String)
  deriving DecidableEq, Repr

def UrlFault.message : UrlFault → String
  | .badBrackets => "Invalid IPv6 URL"
  | .badFuture => "IPvFuture address is invalid"
  | .notAddress host => s!"{quoted host} does not appear to be an IPv4 or IPv6 address"
  | .bracketedFour => "An IPv4 address cannot be in brackets"
  | .disguised host =>
    "netloc '" ++ host ++ "' contains invalid characters under NFKC normalization"

/-- Characters that stand for a separator of URLs in another form, those of Unicode 14.0. -/
def disguises : List Nat := [
  0x2047, 0x2048, 0x2049, 0x2100, 0x2101, 0x2105, 0x2106, 0x2a74, 0xfe13, 0xfe16, 0xfe55,
  0xfe56, 0xfe5f, 0xfe6b, 0xff03, 0xff0f, 0xff1a, 0xff1f, 0xff20]

def cutAt (c : Char) (cs : List Char) : List Char × Option (List Char) :=
  match cs.dropWhile (· != c) with
  | [] => (cs, none)
  | _ :: rest => (cs.takeWhile (· != c), some rest)

def isSchemeChar (c : Char) : Bool := isAsciiAlnum c || c == '+' || c == '-' || c == '.'

def cutScheme (cs : List Char) : List Char × List Char :=
  match cutAt ':' cs with
  | (scheme, some rest) =>
    match scheme with
    | first :: _ =>
      if isAsciiLetter first && scheme.all isSchemeChar then (scheme.map lowerAscii, rest)
      else ([], cs)
    | [] => ([], cs)
  | (_, none) => ([], cs)

def endsHost (c : Char) : Bool := c == '/' || c == '?' || c == '#'

def cutHost : List Char → List Char × List Char
  | '/' :: '/' :: rest =>
    (rest.takeWhile fun c => !endsHost c, rest.dropWhile fun c => !endsHost c)
  | cs => ([], cs)

/-- Addresses of a version to come: a mark, digits in base sixteen, a point and more. -/
def isFuture (cs : List Char) : Bool :=
  let digits := (cs.drop 1).takeWhile isAsciiHex
  match (cs.drop 1).dropWhile isAsciiHex with
  | '.' :: rest => !digits.isEmpty && !rest.isEmpty
  | _ => false

def checkAddress (host : List Char) : Except UrlFault Unit :=
  if host.head? == some 'v' then if isFuture host then .ok () else .error .badFuture
  else if isVersionFour host then .error .bracketedFour
  else if isVersionSix host then .ok ()
  else .error (.notAddress (String.ofList host))

def afterLast (c : Char) (cs : List Char) : List Char :=
  (cs.reverse.takeWhile (· != c)).reverse

def checkBracketed (host : List Char) : Except UrlFault Unit :=
  let place := afterLast '@' host
  match cutAt '[' place with
  | (before, some inner) =>
    if !before.isEmpty then .error .badBrackets
    else
      let (address, port) := cutAt ']' inner
      let port := port.getD []
      if !port.isEmpty && port.head? != some ':' then .error .badBrackets else checkAddress address
  | (_, none) => checkAddress (cutAt ':' place).1

def checkHost (host : List Char) : Except UrlFault Unit :=
  let opens := host.contains '['
  let closes := host.contains ']'
  if opens != closes then .error .badBrackets
  else if opens then checkBracketed host
  else .ok ()

def checkDisguise (host : List Char) : Except UrlFault Unit :=
  if host.any fun c => disguises.contains c.toNat then .error (.disguised (String.ofList host))
  else .ok ()

/-- Schemes whose paths may end in parameters. -/
def parameterSchemes : List String := [
  "", "ftp", "hdl", "prospero", "http", "https", "shttp", "rtsp", "rtspu", "sip", "sips",
  "mms", "sftp", "tel"]

def dropParameters (path : List Char) : List Char :=
  let last := afterLast '/' path
  path.take (path.length - last.length) ++ last.takeWhile (· != ';')

def path (url : String) : Except UrlFault (List Char) := do
  let cs := url.toList.dropWhile fun c => c.toNat ≤ 0x20
  let cs := cs.filter fun c => c != '\t' && c != '\r' && c != '\n'
  let (scheme, rest) := cutScheme cs
  let (host, rest) := cutHost rest
  checkHost host
  checkDisguise host
  let route := (cutAt '?' (cutAt '#' rest).1).1
  return if parameterSchemes.contains (String.ofList scheme) then dropParameters route else route

end HatReel.Web
