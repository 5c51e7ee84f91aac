import HatReel.Decimal.Integer
import HatReel.Yaml.Fault

/-!
Days and instants as text: year, month and day, and with them perhaps a time and an offset from
universal time.
-/

namespace HatReel.Yaml

open HatReel.Text

structure ClockTime where
  hour : Nat
  minute : Nat
  second : Nat
  offset : Option Int

structure Instant where
  year : Nat
  month : Nat
  day : Nat
  /-- Whether month and day have two digits. -/
  isPadded : Bool
  time : Option ClockTime

namespace Instant

def digits (least most : Nat) (cs : List Char) : Option (List Char × List Char) :=
  let run := (cs.take most).takeWhile isAsciiDigit
  if least ≤ run.length then some (run, cs.drop run.length) else none

def number (run : List Char) : Nat := Decimal.ofDigits 10 (run.filterMap asciiDigitValue?)

def drop? (c : Char) : List Char → Option (List Char)
  | [] => none
  | d :: rest => if c == d then some rest else none

/-- The mark between day and time: a letter or a gap. -/
def dropTimeMark : List Char → Option (List Char)
  | 'T' :: rest => some rest
  | 't' :: rest => some rest
  | c :: rest => if isGap c then some (rest.dropWhile isGap) else none
  | [] => none

def offset (cs : List Char) : Option (Option Int) :=
  match cs.dropWhile isGap with
  | [] => if cs.isEmpty then some none else none
  | 'Z' :: rest => if rest.isEmpty then some (some 0) else none
  | sign :: rest => do
    if sign != '+' && sign != '-' then failure
    let (hours, rest) ← digits 1 2 rest
    let minutes ←
      match rest with
      | [] => some 0
      | ':' :: rest => do
        let (minutes, rest) ← digits 2 2 rest
        if rest.isEmpty then some (number minutes) else none
      | _ => none
    let total : Int := (number hours : Nat) * 60 + minutes
    return some (if sign == '-' then -total else total)

def clockTime (cs : List Char) : Option ClockTime := do
  let (hour, rest) ← digits 1 2 cs
  let (minute, rest) ← digits 2 2 (← drop? ':' rest)
  let (second, rest) ← digits 2 2 (← drop? ':' rest)
  let rest :=
    match rest with
    | '.' :: rest => rest.dropWhile isAsciiDigit
    | rest => rest
  return ⟨number hour, number minute, number second, ← offset rest⟩

def ofText? (text : List Char) : Option Instant := do
  let text := if text.getLast? == some '\n' then text.dropLast else text
  let (year, rest) ← digits 4 4 text
  let (month, rest) ← digits 1 2 (← drop? '-' rest)
  let (day, rest) ← digits 1 2 (← drop? '-' rest)
  let time ← if rest.isEmpty then some none else (← dropTimeMark rest) |> clockTime |>.map some
  return ⟨number year, number month, number day, month.length == 2 && day.length == 2, time⟩

def isLeap (year : Nat) : Bool := year % 4 == 0 && (year % 100 != 0 || year % 400 == 0)

def daysInMonth (year month : Nat) : Nat :=
  if month == 2 then if isLeap year then 29 else 28
  else if [4, 6, 9, 11].contains month then 30
  else 31

def spanText (minutes : Int) : String :=
  let days := Int.fdiv minutes 1440
  let seconds := Int.fmod minutes 1440 * 60
  let parts := (if days == 0 then [] else [s!"days={days}"]) ++
    (if seconds == 0 then [] else [s!"seconds={seconds}"])
  "datetime.timedelta(" ++ (if parts.isEmpty then "0" else ", ".intercalate parts) ++ ")"

def checkDay (i : Instant) : Except String Unit :=
  if i.year == 0 then .error s!"year {i.year} is out of range"
  else if i.month < 1 || 12 < i.month then .error "month must be in 1..12"
  else if i.day < 1 || daysInMonth i.year i.month < i.day then
    .error "day is out of range for month"
  else .ok ()

/-- Offsets are shorter than a day. -/
def checkOffset (minutes : Int) : Except String Unit :=
  if minutes.natAbs < 1440 then .ok ()
  else .error <| "offset must be a timedelta strictly between -timedelta(hours=24) and " ++
    "timedelta(hours=24), not " ++ spanText minutes ++ "."

def checkClock (t : ClockTime) : Except String Unit :=
  if 23 < t.hour then .error "hour must be in 0..23"
  else if 59 < t.minute then .error "minute must be in 0..59"
  else if 59 < t.second then .error "second must be in 0..59"
  else .ok ()

def check (i : Instant) : Except String Unit :=
  match i.time with
  | none => i.checkDay
  | some t => do
    match t.offset with
    | some minutes => checkOffset minutes
    | none => pure ()
    i.checkDay
    checkClock t

end Instant

end HatReel.Yaml
