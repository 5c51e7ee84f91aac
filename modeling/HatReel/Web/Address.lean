import HatReel.Text.Digit
import HatReel.Text.Parts

/-!
Addresses of hosts inside brackets: whether a text is an address of version four or six.
-/

namespace HatReel.Web

open HatReel.Text

/-- A part of an address of version four: up to three digits, without a zero in front, at most
255. -/
def isOctet (cs : List Char) : Bool :=
  !cs.isEmpty && cs.all isAsciiDigit && cs.length ≤ 3 &&
    !(cs.length != 1 && cs.head? == some '0') &&
    cs.foldl (fun n c => n * 10 + (asciiDigitValue? c).getD 0) 0 ≤ 255

def isVersionFour (cs : List Char) : Bool :=
  let parts := fields '.' cs
  parts.length == 4 && parts.all isOctet

def isGroup (cs : List Char) : Bool := !cs.isEmpty && cs.length ≤ 4 && cs.all isAsciiHex

/-- The parts between colons, where an address of version four at the end counts as two groups. -/
def groups (cs : List Char) : Option (List (List Char)) :=
  let parts := fields ':' cs
  match parts.getLast? with
  | some last =>
    if parts.length < 3 then none
    else if last.contains '.' then
      if isVersionFour last then some (parts.dropLast ++ [['0'], ['0']]) else none
    else some parts
  | none => none

/-- Numbers of the empty parts that are neither first nor last. -/
def innerGaps (parts : List (List Char)) : List Nat :=
  (List.range parts.length).filter fun i =>
    0 < i && i + 1 < parts.length && (parts.getD i []).isEmpty

/-- Eight groups, or fewer with one gap; an empty part at an end belongs to a gap there. -/
def areGroups (parts : List (List Char)) : Bool :=
  match innerGaps parts with
  | [] => parts.length == 8 && parts.all isGroup
  | [gap] =>
    let before := parts.take gap
    let after := parts.drop (gap + 1)
    let before := if before == [[]] then [] else before
    let after := if after == [[]] then [] else after
    parts.length ≤ 9 && before.length + after.length < 8 && before.all isGroup && after.all isGroup
  | _ => false

/-- A zone behind a percent sign is not empty and has no second sign. -/
def hasGoodZone : List Char → Bool
  | [] => true
  | _ :: zone => !zone.isEmpty && !zone.contains '%'

def isVersionSix (cs : List Char) : Bool :=
  !cs.contains '/' && hasGoodZone (cs.dropWhile (· != '%')) &&
    (match groups (cs.takeWhile (· != '%')) with
    | some parts => areGroups parts
    | none => false)

end HatReel.Web
