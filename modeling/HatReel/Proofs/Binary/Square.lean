import HatReel.Proofs.Binary.Double

/-! The square of a double is not negative. -/

open Float.Model Float.Model.UnpackedFloat

namespace HatReel.Binary

def IsPositive : UnpackedFloat → Prop
  | .infinity s | .zero s | .finite s .. => s = .positive
  | .notANumber => False

theorem pack_positive {u : UnpackedFloat} (positive : IsPositive u) :
    ∃ e m, UnpackedFloat.pack Format.binary64 u = word .positive e m ∧ ¬ NotNumber e m := by
  cases u with
  | notANumber => exact positive.elim
  | infinity s =>
      cases positive
      exact ⟨-1#11, 0#52, rfl, fun noNumber => noNumber.2 rfl⟩
  | zero s =>
      cases positive
      exact ⟨0#11, 0#52, rfl, fun noNumber => noNumber.2 rfl⟩
  | finite s m e nonzero =>
      cases positive
      unfold UnpackedFloat.pack
      simp only
      split
      · exact ⟨-1#11, 0#52, rfl, fun noNumber => noNumber.2 rfl⟩
      · next small =>
        split
        · refine ⟨_, _, rfl, fun noNumber => ?_⟩
          have top := congrArg BitVec.toNat noNumber.1
          rw [BitVec.toNat_ofNat] at top
          change _ % 2 ^ 11 = 2047 at top
          change ¬ 2 ^ 11 ≤ _ at small
          omega
        · exact ⟨0#11, _, rfl, fun noNumber => absurd noNumber.1 (by decide)⟩

theorem square_positive {u : UnpackedFloat} (number : u ≠ .notANumber) :
    IsPositive (u.mul Format.binary64 u) := by
  have same (s : Sign) : s * s = .positive := by cases s <;> rfl
  cases u with
  | notANumber => exact absurd rfl number
  | infinity s => exact same s
  | zero s => exact same s
  | finite s m e nonzero =>
      change IsPositive (roundWithAccuracy Format.binary64 (s * s) (m * m) (e + e) .exact)
      rw [same]
      unfold roundWithAccuracy
      simp only
      split <;> rfl

theorem number_of_less {x y : Float} (less : x < y) : x.toModel.unpack ≠ .notANumber := by
  intro noNumber
  have isLess : UnpackedFloat.lt x.toModel.unpack y.toModel.unpack = true := of_decide_eq_true less
  rw [noNumber] at isLess
  cases isLess

theorem parts_positive {x : Float} {u : UnpackedFloat} (positive : IsPositive u)
    (packed : x.toBits.toBitVec = UnpackedFloat.pack Format.binary64 u) :
    (∃ m e, parts x = .finite false m e) ∨ parts x = .infinite false := by
  obtain ⟨e, m, isWord, number⟩ := pack_positive positive
  rw [isWord] at packed
  have bits : x.toBits.toNat = e.toNat * 2 ^ 52 + m.toNat := by
    have value := congrArg BitVec.toNat packed
    rw [word_toNat] at value
    simpa [Sign.toBitVec] using value
  have low := m.isLt
  have high := e.isLt
  have plus : (x.toBits.toNat / 2 ^ 63 == 1) = false := by
    rw [beq_eq_false_iff_ne, bits]
    omega
  rw [notNumber_iff .positive, ← packed] at number
  change ¬ (x.toBits.toNat / 2 ^ 52 % 2048 = 2047 ∧ x.toBits.toNat % 2 ^ 52 ≠ 0) at number
  unfold parts partsOfBits
  simp only [plus, beq_iff_eq]
  split
  · next top =>
    have empty : x.toBits.toNat % 2 ^ 52 = 0 := by
      by_contra filled
      exact number ⟨top, filled⟩
    rw [if_pos empty]
    exact Or.inr rfl
  · split
    · exact Or.inl ⟨_, _, rfl⟩
    · exact Or.inl ⟨_, _, rfl⟩

theorem parts_square {x : Float} (number : x.toModel.unpack ≠ .notANumber) :
    (∃ m e, parts (x * x) = .finite false m e) ∨ parts (x * x) = .infinite false :=
  parts_positive (square_positive number) rfl

end HatReel.Binary
