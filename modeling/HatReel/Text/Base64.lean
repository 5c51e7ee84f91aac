import HatReel.Text.Quoted

/-!
Bytes written with 64 letters, six bits each, and filled up with equals signs. All other characters
are passed over.
-/

namespace HatReel.Text

inductive Base64Fault where
  /-- A last letter that makes no byte; how many letters there are. -/
  | loneLetter (count : Nat)
  | padding
  deriving DecidableEq, Repr

def Base64Fault.message : Base64Fault → String
  | .loneLetter count =>
    s!"Invalid base64-encoded string: number of data characters ({count}) cannot be 1 more than " ++
      "a multiple of 4"
  | .padding => "Incorrect padding"

def base64Digit? (c : Char) : Option Nat :=
  let n := c.toNat
  if 65 ≤ n && n ≤ 90 then some (n - 65)
  else if 97 ≤ n && n ≤ 122 then some (n - 71)
  else if 48 ≤ n && n ≤ 57 then some (n + 4)
  else if c == '+' then some 62
  else if c == '/' then some 63
  else none

/-- Reads on with the letters of an unfinished group of four, `count` letters of finished groups
behind, and `pads` equals signs in a row. Enough equals signs end the text. -/
def decodeBase64From (count pads : Nat) (group : List Nat) : List Char →
    Except Base64Fault (List UInt8)
  | [] =>
    match group with
    | [] => .ok []
    | [_] => .error (.loneLetter (count + 1))
    | _ => .error .padding
  | c :: rest =>
    if c == '=' then
      if 2 ≤ group.length && 4 ≤ group.length + pads + 1 then .ok (partialBytes group)
      else decodeBase64From count (if 2 ≤ group.length then pads + 1 else pads) group rest
    else
      match base64Digit? c, group with
      | none, group => decodeBase64From count pads group rest
      | some d, [a, b, e] =>
        (decodeBase64From (count + 4) 0 [] rest).map
          ([UInt8.ofNat (a * 4 + b / 16), UInt8.ofNat (b * 16 + e / 4),
            UInt8.ofNat (e * 64 + d)] ++ ·)
      | some d, group => decodeBase64From count 0 (group ++ [d]) rest
where
  /-- The bytes that two or three letters make. -/
  partialBytes : List Nat → List UInt8
    | [a, b] => [UInt8.ofNat (a * 4 + b / 16)]
    | [a, b, e] => [UInt8.ofNat (a * 4 + b / 16), UInt8.ofNat (b * 16 + e / 4)]
    | _ => []

def decodeBase64 (text : List Char) : Except Base64Fault (List UInt8) :=
  decodeBase64From 0 0 [] text

def asciiComplaint? (text : List Char) : Option String :=
  let isAscii (c : Char) : Bool := c.toNat < 128
  let start := (text.takeWhile isAscii).length
  match text.drop start with
  | [] => none
  | c :: rest =>
    let length := (rest.takeWhile (!isAscii ·)).length + 1
    some <| "'ascii' codec can't encode " ++
      (if length == 1 then s!"character '{String.ofList (codeEscape c)}' in position {start}"
       else s!"characters in position {start}-{start + length - 1}") ++
      ": ordinal not in range(128)"

end HatReel.Text
