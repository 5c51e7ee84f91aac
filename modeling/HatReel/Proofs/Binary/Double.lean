import Mathlib
import HatReel.Binary.Double
import HatReel.Proofs.Binary.Rounding

/-! Doubles and their bits.

A double is made of its bits, and other than for sign and no number the bits are the code of its
size. The language's own model of doubles packs and unpacks three groups of bits; the first part
says that nothing is lost by that. -/

open Float.Model Float.Model.UnpackedFloat

namespace HatReel.Binary

def word (s : Sign) (e : BitVec 11) (m : BitVec 52) : BitVec 64 :=
  packComponents Format.binary64 s e m

theorem word_toNat (s : Sign) (e : BitVec 11) (m : BitVec 52) :
    (word s e m).toNat = s.toBitVec.toNat * 2 ^ 63 + e.toNat * 2 ^ 52 + m.toNat := by
  have isWord : word s e m = s.toBitVec ++ e ++ m := rfl
  have low := m.isLt
  have high : (s.toBitVec ++ e).toNat = s.toBitVec.toNat * 2 ^ 11 + e.toNat := by
    rw [BitVec.toNat_append, ← Nat.shiftLeft_add_eq_or_of_lt e.isLt, Nat.shiftLeft_eq]
  rw [isWord, BitVec.toNat_append, ← Nat.shiftLeft_add_eq_or_of_lt low, high, Nat.shiftLeft_eq]
  omega

theorem exists_word (b : BitVec 64) : ∃ s e m, b = word s e m := by
  have inside := b.isLt
  refine ⟨if b.toNat < 2 ^ 63 then .positive else .negative, BitVec.ofNat 11 (b.toNat / 2 ^ 52),
    BitVec.ofNat 52 b.toNat, ?_⟩
  apply BitVec.eq_of_toNat_eq
  rw [word_toNat, BitVec.toNat_ofNat, BitVec.toNat_ofNat]
  split
  · simp only [Sign.toBitVec, BitVec.toNat_ofNat]
    omega
  · simp only [Sign.toBitVec, BitVec.toNat_ofNat]
    omega

theorem unpackSign_word (s : Sign) (e : BitVec 11) (m : BitVec 52) :
    Sign.ofBitVec (@unpackSign .binary64 (word s e m)) = s := by
  have isSign : @unpackSign .binary64 (word s e m) = s.toBitVec := by
    apply BitVec.eq_of_toNat_eq
    have bits : (@unpackSign .binary64 (word s e m)).toNat =
        (word s e m).toNat / 2 ^ 63 % 2 := by
      simp [unpackSign, BitVec.extractLsb, Nat.shiftRight_eq_div_pow]
    have one := s.toBitVec.isLt
    have low := m.isLt
    have middle := e.isLt
    rw [bits, word_toNat]
    omega
  rw [isSign]
  cases s <;> rfl

theorem implicit_toNat (m : BitVec 52) : (1#1 ++ m).toNat = 2 ^ 52 + m.toNat := by
  rw [BitVec.toNat_append, ← Nat.shiftLeft_add_eq_or_of_lt m.isLt]
  rfl

theorem unpack_word (s : Sign) (e : BitVec 11) (m : BitVec 52) :
    UnpackedFloat.unpack Format.binary64 (word s e m) =
      if e = -1#11 then if m = 0#52 then .infinity s else .notANumber
      else if e = 0#11 then
        if h : m = 0#52 then .zero s
        else .finite s m.toNat (-1074) (by simpa [BitVec.toNat_pos, BitVec.pos_iff_ne_zero])
      else .finite s (1#1 ++ m).toNat (e.toNat - 1075) (by rw [implicit_toNat]; omega) := by
  have isSign := unpackSign_word s e m
  have isExponent : @unpackExponent .binary64 (word s e m) = e :=
    unpackExponent_packComponents
  have isMantissa : @unpackMantissa .binary64 (word s e m) = m :=
    unpackMantissa_packComponents
  unfold UnpackedFloat.unpack
  simp only [isSign, isExponent, isMantissa]
  split
  · rfl
  · split
    · next zero =>
      subst zero
      rfl
    · rfl

def NotNumber (e : BitVec 11) (m : BitVec 52) : Prop := e = -1#11 ∧ m ≠ 0#52

theorem pack_unpack_word {s : Sign} {e : BitVec 11} {m : BitVec 52} (number : ¬ NotNumber e m) :
    UnpackedFloat.pack Format.binary64 (UnpackedFloat.unpack Format.binary64 (word s e m)) =
      word s e m := by
  have low := m.isLt
  have middle := e.isLt
  rw [unpack_word]
  split
  · next top =>
    have zero : m = 0#52 := by
      by_contra other
      exact number ⟨top, other⟩
    rw [if_pos zero, top, zero]
    rfl
  · next notTop =>
    have less : e.toNat + 1 < 2 ^ 11 := by
      have : e.toNat ≠ 2047 := fun isTop => notTop (BitVec.eq_of_toNat_eq isTop)
      omega
    split
    · next bottom =>
      split
      · next zero =>
        rw [bottom, zero]
        rfl
      · next more =>
        have small : m.toNat.log2 < 52 := by
          apply (Nat.log2_lt _).mpr low
          intro zero
          exact more (BitVec.eq_of_toNat_eq zero)
        have notFull : ¬ m.toNat.log2 + 1 = Format.binary64.mantissaBits := by
          change ¬ m.toNat.log2 + 1 = 53
          omega
        unfold UnpackedFloat.pack
        simp only
        rw [if_neg (by decide), if_neg notFull, bottom]
        change word s 0#11 (BitVec.ofNat 52 m.toNat) = _
        rw [BitVec.ofNat_toNat, BitVec.setWidth_eq]
    · have full : (1#1 ++ m).toNat.log2 + 1 = Format.binary64.mantissaBits := by
        rw [implicit_toNat]
        have isLog : (2 ^ 52 + m.toNat).log2 = 52 := by
          rw [Nat.log2_eq_iff (by omega)]
          omega
        rw [isLog]
        rfl
      have biased : ((e.toNat : Int) - 1075 + Format.binary64.exponentBias +
          Format.binary64.mantissaBitsWithoutImplicit).toNat = e.toNat := by
        change ((e.toNat : Int) - 1075 + 1023 + 52).toNat = e.toNat
        omega
      unfold UnpackedFloat.pack
      simp only
      rw [biased, if_neg (by omega), if_pos full, implicit_toNat]
      change word s (BitVec.ofNat 11 e.toNat) (BitVec.ofNat 52 (2 ^ 52 + m.toNat)) = _
      congr 1
      · rw [BitVec.ofNat_toNat, BitVec.setWidth_eq]
      · apply BitVec.eq_of_toNat_eq
        rw [BitVec.toNat_ofNat]
        omega

theorem neg_unpack_word (s : Sign) (e : BitVec 11) (m : BitVec 52) :
    (UnpackedFloat.unpack Format.binary64 (word s e m)).neg =
      UnpackedFloat.unpack Format.binary64 (word (-s) e m) := by
  rw [unpack_word, unpack_word]
  split
  · split <;> rfl
  · split
    · split <;> rfl
    · rfl

theorem toBits_ofBits {b : UInt64} {s : Sign} {e : BitVec 11} {m : BitVec 52}
    (isWord : b.toBitVec = word s e m) (number : ¬ NotNumber e m) :
    (Float.ofBits b).toBits = b := by
  change UInt64.ofBitVec (UnpackedFloat.pack Format.binary64
    (UnpackedFloat.unpack Format.binary64 b.toBitVec)) = b
  rw [isWord, pack_unpack_word number, ← isWord]

theorem float_ext {x y : Float} (same : x.toBits = y.toBits) : x = y := by
  cases x with
  | ofModel a =>
    cases y with
    | ofModel b =>
      cases a
      cases b
      cases same
      rfl

theorem neg_ofBits {b c : UInt64} {s : Sign} {e : BitVec 11} {m : BitVec 52}
    (isWord : b.toBitVec = word s e m) (isNegated : c.toBitVec = word (-s) e m)
    (number : ¬ NotNumber e m) : -Float.ofBits b = Float.ofBits c := by
  apply float_ext
  rw [toBits_ofBits isNegated number]
  change UInt64.ofBitVec (UnpackedFloat.pack Format.binary64
    (UnpackedFloat.unpack Format.binary64 (Float.ofBits b).toBits.toBitVec).neg) = c
  rw [toBits_ofBits isWord number, isWord, neg_unpack_word, pack_unpack_word number, ← isNegated]

/-- There is only one double that is no number. -/
theorem eq_notANumber_of_word {x : Float} {s : Sign} {e : BitVec 11} {m : BitVec 52}
    (isWord : x.toBits.toBitVec = word s e m) (noNumber : NotNumber e m) : x = notANumber := by
  have isNaN := x.toModel.valid.eq_packedNaN
  change @unpackExponent .binary64 x.toBits.toBitVec = -1#11 →
    @unpackMantissa .binary64 x.toBits.toBitVec ≠ 0#52 →
      x.toBits.toBitVec = packedNaN Format.binary64 at isNaN
  rw [isWord] at isNaN
  have isExponent : @unpackExponent .binary64 (word s e m) = e :=
    unpackExponent_packComponents
  have isMantissa : @unpackMantissa .binary64 (word s e m) = m :=
    unpackMantissa_packComponents
  rw [isExponent, isMantissa] at isNaN
  have same := isNaN noNumber.1 noNumber.2
  apply float_ext
  rw [← isWord] at same
  apply UInt64.toBitVec_inj.mp
  rw [same]
  decide

theorem notNumber_iff (s : Sign) (e : BitVec 11) (m : BitVec 52) :
    NotNumber e m ↔ (word s e m).toNat / 2 ^ 52 % 2048 = 2047 ∧
      (word s e m).toNat % 2 ^ 52 ≠ 0 := by
  have low := m.isLt
  have middle := e.isLt
  rw [word_toNat]
  unfold NotNumber
  constructor
  · rintro ⟨rfl, other⟩
    have other' : m.toNat ≠ 0 := fun zero => other (BitVec.eq_of_toNat_eq zero)
    have top : (-1#11 : BitVec 11).toNat = 2047 := rfl
    rw [top]
    omega
  · rintro ⟨top, other'⟩
    constructor
    · apply BitVec.eq_of_toNat_eq
      change e.toNat = 2047
      omega
    · rintro rfl
      rw [BitVec.toNat_ofNat] at other'
      omega

def signOf (negative : Bool) : Sign := if negative then .negative else .positive

theorem signOf_toNat (negative : Bool) :
    (signOf negative).toBitVec.toNat = if negative then 1 else 0 := by
  cases negative <;> rfl

theorem toBitVec_code (negative : Bool) {code : Nat} (small : code < 2 ^ 63) :
    (UInt64.ofNat (if negative then code + 2 ^ 63 else code)).toBitVec =
      word (signOf negative) (BitVec.ofNat 11 (code / 2 ^ 52)) (BitVec.ofNat 52 code) := by
  apply BitVec.eq_of_toNat_eq
  rw [word_toNat, BitVec.toNat_ofNat, BitVec.toNat_ofNat, signOf_toNat]
  change (if negative then code + 2 ^ 63 else code) % 2 ^ 64 = _
  split <;> omega

theorem code_number {code : Nat} (small : code ≤ double.infinity) :
    ¬ NotNumber (BitVec.ofNat 11 (code / 2 ^ 52)) (BitVec.ofNat 52 code) := by
  have bound : code ≤ 2047 * 2 ^ 52 := small
  rw [notNumber_iff .positive, word_toNat, BitVec.toNat_ofNat, BitVec.toNat_ofNat]
  simp only [Sign.toBitVec, BitVec.toNat_ofNat]
  omega

theorem code_small {code : Nat} (small : code ≤ double.infinity) : code < 2 ^ 63 := by
  have bound : code ≤ 2047 * 2 ^ 52 := small
  omega

theorem neg_ofCode {code : Nat} (small : code ≤ double.infinity) :
    -ofCode false code = ofCode true code :=
  neg_ofBits (toBitVec_code false (code_small small)) (toBitVec_code true (code_small small))
    (code_number small)

theorem neg_infinity : -infinity false = infinity true := neg_ofCode (le_refl _)

theorem partsOfBits_nan {bits : Nat} (isNaN : partsOfBits bits = .nan) :
    bits / 2 ^ 52 % 2048 = 2047 ∧ bits % 2 ^ 52 ≠ 0 := by
  unfold partsOfBits at isNaN
  simp only [beq_iff_eq] at isNaN
  split at isNaN
  · next top =>
    split at isNaN
    · cases isNaN
    · next other => exact ⟨top, other⟩
  · split at isNaN <;> cases isNaN

theorem eq_notANumber {x : Float} (isNaN : parts x = .nan) : x = notANumber := by
  obtain ⟨s, e, m, isWord⟩ := exists_word x.toBits.toBitVec
  apply eq_notANumber_of_word isWord
  rw [notNumber_iff s, ← isWord]
  exact partsOfBits_nan isNaN

/-- Every double but one is its sign with the code of its size. -/
theorem eq_ofCode {x : Float} (number : parts x ≠ .nan) :
    x = ofCode (x.toBits.toNat / 2 ^ 63 == 1) (x.toBits.toNat % 2 ^ 63) := by
  obtain ⟨s, e, m, isWord⟩ := exists_word x.toBits.toBitVec
  have inside := x.toBits.toNat_lt
  have isBits : UInt64.ofNat (if x.toBits.toNat / 2 ^ 63 == 1 then
      x.toBits.toNat % 2 ^ 63 + 2 ^ 63 else x.toBits.toNat % 2 ^ 63) = x.toBits := by
    apply UInt64.toNat_inj.mp
    rw [UInt64.toNat_ofNat']
    simp only [beq_iff_eq]
    split <;> omega
  unfold ofCode
  rw [isBits]
  apply float_ext
  symm
  apply toBits_ofBits isWord
  rw [notNumber_iff s, ← isWord]
  intro noNumber
  apply number
  unfold parts partsOfBits
  have top : x.toBits.toNat / 2 ^ 52 % 2048 = 2047 := noNumber.1
  have fraction : x.toBits.toNat % 2 ^ 52 ≠ 0 := noNumber.2
  simp [top, fraction]

theorem eq_infinity {x : Float} {negative : Bool} (isInfinite : parts x = .infinite negative) :
    x = infinity negative := by
  have isCode := eq_ofCode (x := x) (by rw [isInfinite]; exact Parts.noConfusion)
  have inside := x.toBits.toNat_lt
  unfold parts partsOfBits at isInfinite
  simp only [beq_iff_eq] at isInfinite
  split at isInfinite
  · next top =>
    split at isInfinite
    · next none =>
      cases isInfinite
      refine isCode.trans ?_
      unfold infinity
      congr 1
      change _ = 2047 * 2 ^ 52
      omega
    · cases isInfinite
  · split at isInfinite <;> cases isInfinite

/-- A finite double is its sign with the code of its size, and the code is made of significand and
exponent. -/
structure IsFinite (x : Float) (negative : Bool) (m : Nat) (e : Int) : Prop where
  eq : x = ofCode negative (x.toBits.toNat % 2 ^ 63)
  zero : m = 0 → x.toBits.toNat % 2 ^ 63 = 0
  code : m ≠ 0 → x.toBits.toNat % 2 ^ 63 = (e + 1074).toNat * 2 ^ 52 + m
  less : x.toBits.toNat % 2 ^ 63 < double.infinity
  represents : m ≠ 0 → double.Represents m e

theorem isFinite_of_parts {x : Float} {negative : Bool} {m : Nat} {e : Int}
    (isParts : parts x = .finite negative m e) : IsFinite x negative m e := by
  have isCode := eq_ofCode (x := x) (by rw [isParts]; exact Parts.noConfusion)
  have inside := x.toBits.toNat_lt
  unfold parts partsOfBits at isParts
  simp only [beq_iff_eq] at isParts
  split at isParts
  · split at isParts <;> cases isParts
  · next notTop =>
    split at isParts
    · next bottom =>
      cases isParts
      refine ⟨isCode, ?_, ?_, ?_, ?_⟩
      · omega
      · intro _
        change _ = 0 * 2 ^ 52 + _
        omega
      · change _ < 2047 * 2 ^ 52
        omega
      · intro positive
        refine ⟨Nat.pos_of_ne_zero positive, le_refl _, ?_, fun more => absurd more (lt_irrefl _)⟩
        change _ < 2 ^ 53
        omega
    · next some =>
      cases isParts
      refine ⟨isCode, ?_, ?_, ?_, ?_⟩
      · omega
      · intro _
        omega
      · change _ < 2047 * 2 ^ 52
        omega
      · intro _
        refine ⟨by omega, ?_, ?_, fun _ => ?_⟩
        · change (-1074 : Int) ≤ _
          omega
        · change _ < 2 ^ 53
          omega
        · change 2 ^ 52 ≤ _
          omega

theorem le_divHalfEven {p q n : Nat} (positive : 0 < q) (least : n * q ≤ p) :
    n ≤ divHalfEven p q := by
  have floor : n ≤ p / q := (Nat.le_div_iff_mul_le positive).mpr least
  unfold divHalfEven
  simp only
  split
  · exact floor
  · split <;> omega

theorem double_code_large {p q : Nat} (bottom : 0 < q) (large : (2 : ℚ) ^ (1024 : Int) ≤ p / q) :
    double.code p q = double.infinity := by
  have top : 0 < p := by
    apply Nat.pos_of_ne_zero
    rintro rfl
    rw [Nat.cast_zero, zero_div] at large
    exact absurd large (not_le.mpr (zpow_pos two_pos _))
  have fits := double.exponent_fits (by decide) top bottom
  have isHigh : 972 ≤ double.exponent p q := by
    have less := two_zpow_lt (lt_of_le_of_lt large fits.below)
    change (1024 : Int) < double.exponent p q + 53 at less
    omega
  have full := fits.full (lt_of_lt_of_le (by decide) isHigh)
  have rounded : 2 ^ 52 ≤ divHalfEven (shiftUp p (-double.exponent p q))
      (shiftUp q (double.exponent p q)) := by
    have positive := shiftUp_pos bottom (double.exponent p q)
    have cast : (0 : ℚ) < shiftUp q (double.exponent p q) := by exact_mod_cast positive
    apply le_divHalfEven positive
    have scaled : (2 : ℚ) ^ (52 : Int) ≤ (p : ℚ) / q / 2 ^ double.exponent p q := by
      rw [le_div_iff₀ (zpow_pos two_pos _), ← zpow_add₀ two_ne_zero]
      refine le_trans (le_of_eq ?_) full
      congr 1
      change _ = double.exponent p q + 53 - 1
      ring
    rw [← shiftUp_div, le_div_iff₀ cast] at scaled
    exact_mod_cast scaled
  unfold Format.code
  rw [if_neg top.ne']
  apply Nat.min_eq_left
  change 2047 * 2 ^ 52 ≤ (double.exponent p q - -1074).toNat * 2 ^ 52 + _
  omega

theorem double_code_small {p q : Nat} (bottom : 0 < q) (small : (p : ℚ) / q < 2 ^ (-1075 : Int)) :
    double.code p q = 0 := by
  by_cases zero : p = 0
  · rw [zero]
    rfl
  · have top : 0 < p := Nat.pos_of_ne_zero zero
    have fits : double.Fits (p / q) (-1074) := by
      refine ⟨le_refl _, lt_trans small ?_, fun more => absurd more (lt_irrefl _)⟩
      exact zpow_lt_zpow_right₀ one_lt_two (by decide)
    have near : |(p : ℚ) / q - (0 : Nat) * 2 ^ (-1074 : Int)| < 2 ^ (-1074 - 1 : Int) := by
      rw [Nat.cast_zero, zero_mul, sub_zero, abs_of_nonneg (by positivity)]
      exact small
    rw [double.code_of_fits (by decide) top bottom fits near]
    rfl

end HatReel.Binary
