/-!
Text as bytes. A text is encoded with one to four bytes for each character; reading bytes fails at
the first that cannot continue a character, and says which bytes and why.
-/

namespace HatReel.Text

def utf8 (s : String) : List UInt8 := s.toUTF8.toList

inductive Utf8Fault where
  | startByte (position : Nat) (byte : UInt8)
  | continuation (position : Nat) (length : Nat) (byte : UInt8)
  | cutOff (position : Nat) (length : Nat) (byte : UInt8)
  deriving DecidableEq, Repr

/-- How many bytes follow a first byte, the bounds of the second byte, and the first byte's share of
the code point; nothing for a byte that starts no character. -/
def leadByte (b : Nat) : Option (Nat × Nat × Nat × Nat) :=
  if b < 0x80 then some (0, 0, 0, b)
  else if b < 0xc2 then none
  else if b < 0xe0 then some (1, 0x80, 0xbf, b - 0xc0)
  else if b < 0xf0 then
    some (2, if b == 0xe0 then 0xa0 else 0x80, if b == 0xed then 0x9f else 0xbf, b - 0xe0)
  else if b < 0xf5 then
    some (3, if b == 0xf0 then 0x90 else 0x80, if b == 0xf4 then 0x8f else 0xbf, b - 0xf0)
  else none

/-- What the bytes after a first byte give: a code point and the bytes behind, the count of good
bytes before a bad one, or the end of the bytes. -/
inductive Continued where
  | complete (code : Nat) (rest : List UInt8)
  | broken (good : Nat)
  | ended

/-- Reads `n` bytes that continue a character; the next of them lies between `low` and `high`. -/
def continued (low high code good : Nat) : Nat → List UInt8 → Continued
  | 0, bs => .complete code bs
  | _ + 1, [] => .ended
  | n + 1, b :: bs =>
    if low ≤ b.toNat && b.toNat ≤ high then
      continued 0x80 0xbf (code * 64 + (b.toNat - 0x80)) (good + 1) n bs
    else .broken good

theorem continued_length {low high code good n : Nat} {bs rest : List UInt8} {c : Nat}
    (h : continued low high code good n bs = .complete c rest) : rest.length ≤ bs.length := by
  induction n generalizing low high code good bs with
  | zero =>
    cases bs <;> simp only [continued, Continued.complete.injEq] at h <;> simp [← h.2]
  | succ n ih =>
    cases bs with
    | nil => simp [continued] at h
    | cons b bs =>
      unfold continued at h
      split at h
      · exact Nat.le_succ_of_le (ih h)
      · cases h

def decodeFrom (position : Nat) : List UInt8 → Except Utf8Fault (List Char)
  | [] => .ok []
  | b :: bs =>
    match leadByte b.toNat with
    | none => .error (.startByte position b)
    | some (n, low, high, share) =>
      match h : continued low high share 1 n bs with
      | .ended => .error (.cutOff position (bs.length + 1) b)
      | .broken good => .error (.continuation position good b)
      | .complete code rest =>
        have := continued_length h
        (decodeFrom (position + n + 1) rest).map (Char.ofNat code :: ·)
termination_by bs => bs.length
decreasing_by simp only [List.length_cons]; omega

def decodeUtf8 (bs : List UInt8) : Except Utf8Fault (List Char) := decodeFrom 0 bs

def Utf8Fault.message (fault : Utf8Fault) : String :=
  let byteText (b : UInt8) : String :=
    let digits := Nat.toDigits 16 b.toNat
    String.ofList (if digits.length < 2 then '0' :: digits else digits)
  let one (b : UInt8) (position : Nat) : String :=
    s!"'utf-8' codec can't decode byte 0x{byteText b} in position {position}: "
  let several (first last : Nat) : String :=
    s!"'utf-8' codec can't decode bytes in position {first}-{last}: "
  match fault with
  | .startByte position b => one b position ++ "invalid start byte"
  | .continuation position length b =>
    (if length ≤ 1 then one b position else several position (position + length - 1)) ++
      "invalid continuation byte"
  | .cutOff position length b =>
    (if length ≤ 1 then one b position else several position (position + length - 1)) ++
      "unexpected end of data"

/-- The same fault in a file: a character that the end of the file cuts off is counted from its own
first byte. -/
def Utf8Fault.inFile : Utf8Fault → Utf8Fault
  | .cutOff _ length byte => .cutOff 0 length byte
  | fault => fault

end HatReel.Text
