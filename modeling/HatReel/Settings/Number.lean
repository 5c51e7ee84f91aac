import HatReel.Decimal.Reader
import HatReel.Settings.Complaint

/-!
Numbers written as text in the settings. A whole number has no leading zeros when it is negative,
and may have them, underscores among them, when it is not; it may end in a point and zeros.
Underscores are left out, unless one stands at an end or two stand together.
-/

namespace HatReel.Settings

open HatReel.Binary HatReel.Decimal HatReel.Text

/-- Drops zeros, and underscores among them, before the first other digit. The last of them stays if
a point or nothing follows. -/
def dropLeadingZeros : List Char → Option (List Char)
  | '0' :: rest => go '0' rest
  | c :: rest => if isAsciiDigit c || c == '-' then some (c :: rest) else none
  | [] => none
where
  go (last : Char) : List Char → Option (List Char)
    | [] => some [last]
    | c :: rest =>
      if c == '0' || c == '_' then go c rest
      else if isAsciiDigit c then some (c :: rest)
      else if c == '.' then some (last :: c :: rest)
      else none

/-- Drops a point at the end together with the zeros behind it, of which there is at least one. -/
def dropDecimalZeros (cs : List Char) : List Char :=
  let whole := cs.takeWhile (· != '.')
  match cs.dropWhile (· != '.') with
  | _ :: zeros => if !zeros.isEmpty && zeros.all (· == '0') then whole else cs
  | [] => cs

def hasDouble : List Char → Bool
  | '_' :: '_' :: _ => true
  | _ :: rest => hasDouble rest
  | [] => false

def dropUnderscores (cs : List Char) : List Char :=
  if cs.head? == some '_' || cs.getLast? == some '_' || hasDouble cs then cs
  else cs.filter (· != '_')

/-- Reads digits with an optional minus sign; zero is the only number that begins with a zero. Too
many digits are refused as such whatever follows them. -/
def readPlain (cs : List Char) : Checked Int :=
  let (negative, digits) :=
    match cs with
    | '-' :: rest => (true, rest)
    | cs => (false, cs)
  if digits.head? == some '0' && digits.length != 1 then .complain .unreadableWhole
  else if digitLimit < (digits.takeWhile isAsciiDigit).length then .complain .tooManyDigits
  else if digits.isEmpty || !(digits.all isAsciiDigit) then .complain .unreadableWhole
  else .valid (signed negative (ofDigits 10 (digitValues digits)))

def readWhole (cs : List Char) : Checked Int :=
  let body := trimWith isWhiteSpace cs
  let body :=
    match body with
    | '+' :: rest => if rest.head? == some '-' then body else rest
    | _ => body
  match dropLeadingZeros body with
  | none => .complain .unreadableWhole
  | some body => readPlain (dropUnderscores (dropDecimalZeros body))

/-- Reads a number, with underscores left out if it cannot be read with them. -/
def readReal (cs : List Char) : Checked Float :=
  let body := trimWith isWhiteSpace cs
  match readNumber body with
  | some x => .valid x
  | none =>
    match readNumber (dropUnderscores body) with
    | some x => .valid x
    | none => .complain .unreadableNumber

end HatReel.Settings
