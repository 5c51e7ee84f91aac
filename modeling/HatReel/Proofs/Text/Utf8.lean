import HatReel.Text.Utf8

/-! Text that is encoded reads back.

The encoding of a character is a first byte that tells how many follow, and bytes that carry six
bits each. Reading follows it byte by byte; the bounds of the second byte hold since no character is
a surrogate or has a shorter encoding. -/

namespace HatReel.Text

theorem toList_loop (bytes : ByteArray) (i : Nat) (before : List UInt8) :
    ByteArray.toList.loop bytes i before = before.reverse ++ bytes.data.toList.drop i := by
  fun_induction ByteArray.toList.loop bytes i before with
  | case1 i before more ih =>
      have inside : i < bytes.data.toList.length := by simpa using more
      rw [ih, List.drop_eq_getElem_cons inside]
      simp [ByteArray.get!, more]
  | case2 i before done =>
      have past : bytes.data.toList.length ≤ i := by simpa using Nat.le_of_not_lt done
      rw [List.drop_eq_nil_of_le past, List.append_nil]

theorem utf8_ofList (cs : List Char) :
    utf8 (String.ofList cs) = cs.flatMap String.utf8EncodeChar := by
  unfold utf8 ByteArray.toList
  rw [toList_loop]
  simp [String.toUTF8, List.utf8Encode]

theorem decodeFrom_complete {position n low high share code : Nat} {b : UInt8}
    {bs rest : List UInt8} (isLead : leadByte b.toNat = some (n, low, high, share))
    (goesOn : continued low high share 1 n bs = .complete code rest) :
    decodeFrom position (b :: bs) =
      (decodeFrom (position + n + 1) rest).map (Char.ofNat code :: ·) := by
  rw [decodeFrom]
  simp only [isLead]
  split
  · next ended =>
    rw [goesOn] at ended
    cases ended
  · next good broken =>
    rw [goesOn] at broken
    cases broken
  · next code' rest' complete =>
    rw [goesOn] at complete
    cases complete
    rfl

theorem continued_byte {low high code good n m : Nat} {rest : List UInt8}
    (bounds : low ≤ m ∧ m ≤ high) (small : m < 256) :
    continued low high code good (n + 1) (UInt8.ofNat m :: rest) =
      continued 0x80 0xbf (code * 64 + (m - 0x80)) (good + 1) n rest := by
  have isByte : (UInt8.ofNat m).toNat = m := by
    rw [UInt8.toNat_ofNat']
    exact Nat.mod_eq_of_lt small
  rw [continued, isByte]
  simp [bounds]

theorem toNat_ofNat_small {m : Nat} (small : m < 256) : (UInt8.ofNat m).toNat = m := by
  rw [UInt8.toNat_ofNat']
  exact Nat.mod_eq_of_lt small

/-! First bytes, with the bounds that they set for the second byte. -/

theorem leadByte_two {v : Nat} (more : 0x7f < v) (few : v ≤ 0x7ff) :
    leadByte (v / 64 % 32 + 0xc0) = some (1, 0x80, 0xbf, v / 64) := by
  have share : v / 64 % 32 + 0xc0 - 0xc0 = v / 64 := by omega
  unfold leadByte
  rw [if_neg (by omega), if_neg (by omega), if_pos (by omega), share]

theorem leadByte_three {v : Nat} (valid : v < 0xd800 ∨ 0xdfff < v) (more : 0x7ff < v)
    (few : v ≤ 0xffff) :
    ∃ low high, leadByte (v / 4096 % 16 + 0xe0) = some (2, low, high, v / 4096) ∧
      low ≤ v / 64 % 64 + 0x80 ∧ v / 64 % 64 + 0x80 ≤ high := by
  have share : v / 4096 % 16 + 0xe0 - 0xe0 = v / 4096 := by omega
  refine ⟨if v / 4096 % 16 + 0xe0 == 0xe0 then 0xa0 else 0x80,
    if v / 4096 % 16 + 0xe0 == 0xed then 0x9f else 0xbf, ?_, ?_, ?_⟩
  · unfold leadByte
    rw [if_neg (by omega), if_neg (by omega), if_neg (by omega), if_pos (by omega), share]
  · split
    · next isLow =>
      have same := beq_iff_eq.mp isLow
      omega
    · omega
  · split
    · next isHigh =>
      have same := beq_iff_eq.mp isHigh
      omega
    · omega

theorem leadByte_four {v : Nat} (valid : v < 0x110000) (more : 0xffff < v) :
    ∃ low high, leadByte (v / 262144 % 8 + 0xf0) = some (3, low, high, v / 262144) ∧
      low ≤ v / 4096 % 64 + 0x80 ∧ v / 4096 % 64 + 0x80 ≤ high := by
  have share : v / 262144 % 8 + 0xf0 - 0xf0 = v / 262144 := by omega
  refine ⟨if v / 262144 % 8 + 0xf0 == 0xf0 then 0x90 else 0x80,
    if v / 262144 % 8 + 0xf0 == 0xf4 then 0x8f else 0xbf, ?_, ?_, ?_⟩
  · unfold leadByte
    rw [if_neg (by omega), if_neg (by omega), if_neg (by omega), if_neg (by omega),
      if_pos (by omega), share]
  · split
    · next isLow =>
      have same := beq_iff_eq.mp isLow
      omega
    · omega
  · split
    · next isHigh =>
      have same := beq_iff_eq.mp isHigh
      omega
    · omega

/-- A character is read from its encoding, whatever comes behind it. -/
theorem decodeFrom_char (position : Nat) (c : Char) (rest : List UInt8) :
    decodeFrom position (String.utf8EncodeChar c ++ rest) =
      (decodeFrom (position + (String.utf8EncodeChar c).length) rest).map (c :: ·) := by
  have valid : c.val.toNat < 0xd800 ∨ (0xdfff < c.val.toNat ∧ c.val.toNat < 0x110000) := c.valid
  have isChar : Char.ofNat c.val.toNat = c := Char.ofNat_toNat c
  have finish {low high share m : Nat} {bs : List UInt8} (small : m < 256)
      (isLead : leadByte m = some (bs.length, low, high, share))
      (goesOn : continued low high share 1 bs.length (bs ++ rest) = .complete c.val.toNat rest) :
      decodeFrom position (UInt8.ofNat m :: bs ++ rest) =
        (decodeFrom (position + (UInt8.ofNat m :: bs).length) rest).map (c :: ·) := by
    rw [← toNat_ofNat_small small] at isLead
    rw [List.cons_append, decodeFrom_complete isLead goesOn, isChar, List.length_cons]
    rfl
  unfold String.utf8EncodeChar
  simp only
  generalize c.val.toNat = v at valid finish
  split
  · next one =>
    refine @finish 0 0 v v [] (by omega) ?_ rfl
    unfold leadByte
    rw [if_pos (by omega)]
    rfl
  · next more =>
    split
    · next two =>
      have isCode : v / 64 * 64 + (v % 64 + 0x80 - 0x80) = v := by omega
      refine finish (by omega) (leadByte_two (by omega) two) ?_
      rw [List.cons_append, List.length_singleton, continued_byte (by omega) (by omega), isCode]
      rfl
    · next more =>
      split
      · next three =>
        obtain ⟨low, high, isLead, bounds⟩ := leadByte_three (by omega) (by omega) three
        have isCode : (v / 4096 * 64 + (v / 64 % 64 + 0x80 - 0x80)) * 64 + (v % 64 + 0x80 - 0x80) =
            v := by
          omega
        refine finish (by omega) isLead ?_
        rw [List.cons_append, List.length_cons, continued_byte bounds (by omega), List.cons_append,
          List.length_singleton, continued_byte (by omega) (by omega), isCode]
        rfl
      · next four =>
        obtain ⟨low, high, isLead, bounds⟩ := @leadByte_four v (by omega) (by omega)
        have isCode : ((v / 262144 * 64 + (v / 4096 % 64 + 0x80 - 0x80)) * 64 +
            (v / 64 % 64 + 0x80 - 0x80)) * 64 + (v % 64 + 0x80 - 0x80) = v := by omega
        refine finish (by omega) isLead ?_
        rw [List.cons_append, List.length_cons, continued_byte bounds (by omega), List.cons_append,
          List.length_cons, continued_byte (by omega) (by omega), List.cons_append,
          List.length_singleton, continued_byte (by omega) (by omega), isCode]
        rfl

theorem decodeUtf8_utf8 (s : String) : decodeUtf8 (utf8 s) = .ok s.toList := by
  have chars (cs : List Char) (position : Nat) :
      decodeFrom position (cs.flatMap String.utf8EncodeChar) = .ok cs := by
    induction cs generalizing position with
    | nil => rw [List.flatMap_nil, decodeFrom]
    | cons c cs ih =>
        rw [List.flatMap_cons, decodeFrom_char, ih]
        rfl
  have isText : String.ofList s.toList = s := String.ofList_toList
  unfold decodeUtf8
  rw [← isText, utf8_ofList, chars, isText]

end HatReel.Text
