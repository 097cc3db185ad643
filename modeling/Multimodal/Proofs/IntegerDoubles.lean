import Mathlib.Algebra.Group.Nat.Defs
import Multimodal.Proofs.IntegerText

/-!
# Integers as doubles

An integer of at most sixty-four bits is a finite double (`isFinite_integer`): far below the point
where rounding overflows. The arithmetic is that of Lean's model of doubles, so all there is to
follow is how large an exponent can become: `IsBelow` bounds it through rounding and through the
bits in which a double is kept.
-/
namespace Multimodal.Number

open Float.Model (Format UnpackedFloat totalExponent)
open Float.Model.UnpackedFloat

/-- A double taken apart is a number with an exponent up to a bound. -/
inductive IsBelow (top : Int) : UnpackedFloat → Prop where
  | zero (s : Sign) : IsBelow top (.zero s)
  | finite {s : Sign} {m : Nat} {e : Int} {hm : 0 < m} (h : e ≤ top) :
    IsBelow top (.finite s m e hm)

theorem IsBelow.isFinite {top : Int} {u : UnpackedFloat} (h : IsBelow top u) :
    u.isFinite = true := by
  cases h <;> rfl

theorem IsBelow.neg {top : Int} {u : UnpackedFloat} (h : IsBelow top u) : IsBelow top u.neg := by
  cases h with
  | zero s => exact .zero _
  | finite h => exact .finite h

/-! ## Rounding -/

theorem mantissa_shift_le (em : ExtendedMantissa) (n : Nat) :
    (em >>> n).mantissa ≤ em.mantissa := by
  induction n with
  | zero => exact Nat.le_refl _
  | succ n ih => exact Nat.le_trans (Nat.div_le_self _ 2) ih

theorem roundedMantissa_le (em : ExtendedMantissa) : em.roundedMantissa ≤ em.mantissa + 1 := by
  obtain ⟨m, round, sticky⟩ := em
  cases round <;> cases sticky <;>
    simp only [ExtendedMantissa.roundedMantissa, ExtendedMantissa.accuracy,
      Accuracy.roundToNearestEven] <;> omega

theorem mantissaBits_binary64 : Format.binary64.mantissaBits = 53 := rfl

theorem shiftToTargetExponent_exponent_le {m a : Nat} {e b : Int} (hm : m ≤ 2 ^ a) (he : e ≤ b)
    (hb : 0 ≤ b) : (shiftToTargetExponent Format.binary64 m e .exact).2 ≤ b + a := by
  have hlog : m.log2 ≤ a := by
    rcases Nat.eq_zero_or_pos m with rfl | hpos
    · simp
    · exact (Nat.pow_le_pow_iff_right (by decide)).mp
        (Nat.le_trans (Nat.log2_self_le (Nat.ne_of_gt hpos)) hm)
  simp only [shiftToTargetExponent, shiftToExponent, Format.targetExponent, totalExponent,
    mantissaBits_binary64, Format.minExponent]
  omega

/-- Rounding a mantissa of few bits raises the exponent by no more than twice their number. -/
theorem isBelow_roundWithAccuracy (s : Sign) {m : Nat} {e top : Int} (hm : m < 2 ^ 120)
    (he : e + 240 ≤ top) (htop : 240 ≤ top) :
    IsBelow top (roundWithAccuracy Format.binary64 s m e .exact) := by
  have hfirst := @shiftToTargetExponent_exponent_le m 120 e (top - 240) (Nat.le_of_lt hm)
    (by omega) (by omega)
  have hmantissa : (shiftToTargetExponent Format.binary64 m e .exact).1.roundedMantissa ≤ 2 ^ 120 :=
    Nat.le_trans (roundedMantissa_le _) (Nat.lt_of_le_of_lt (mantissa_shift_le _ _) hm)
  have hsecond := shiftToTargetExponent_exponent_le hmantissa hfirst (by omega)
  unfold roundWithAccuracy
  dsimp only
  generalize shiftToTargetExponent Format.binary64 (ExtendedMantissa.roundedMantissa _) _ _ = last
    at hsecond ⊢
  by_cases hzero : last.1.mantissa = 0
  · rw [dif_pos hzero]
    exact .zero s
  · rw [dif_neg hzero]
    exact .finite (by omega)

theorem isBelow_mul (s t : Sign) {m n : Nat} {e f top : Int} (hm : 0 < m) (hn : 0 < n)
    (hproduct : m * n < 2 ^ 120) (he : e + f + 240 ≤ top) (htop : 240 ≤ top) :
    IsBelow top (mul Format.binary64 (.finite s m e hm) (.finite t n f hn)) :=
  isBelow_roundWithAccuracy (s * t) hproduct he htop

/-! ## Bits -/

def biasedExponent (b : BitVec 64) : Nat := (@unpackExponent Format.binary64 b).toNat

/-- What can be taken out of bits with an exponent: no number if all bits of the exponent are set;
otherwise zero, or a number of at most fifty-three bits. -/
inductive IsUnpacked (biased : Nat) : UnpackedFloat → Prop where
  | special {u : UnpackedFloat} (hlast : biased = 2047) (hu : u.isFinite = false) :
    IsUnpacked biased u
  | zero (s : Sign) : IsUnpacked biased (.zero s)
  | finite {s : Sign} {m : Nat} {e : Int} {hpos : 0 < m} (hlast : biased < 2047)
    (hm : m < 2 ^ 53) (he : e ≤ max 1 biased - 1075) : IsUnpacked biased (.finite s m e hpos)

theorem isUnpacked_unpack (b : BitVec 64) :
    IsUnpacked (biasedExponent b) (unpack Format.binary64 b) := by
  have hfield : biasedExponent b < 2048 := BitVec.isLt _
  have hbias : (Format.binary64.exponentBias : Int) = 1023 := rfl
  unfold unpack
  dsimp only
  refine iteInduction (motive := IsUnpacked (biasedExponent b)) (fun hspecial => ?_) fun hne => ?_
  · refine .special (congrArg BitVec.toNat hspecial) ?_
    exact iteInduction (motive := fun u : UnpackedFloat => u.isFinite = false) (fun _ => rfl)
      fun _ => rfl
  · have hlast : biasedExponent b < 2047 := by
      have : biasedExponent b ≠ 2047 := fun heq => hne (BitVec.eq_of_toNat_eq heq)
      omega
    refine iteInduction (motive := IsUnpacked (biasedExponent b)) (fun hleast => ?_) fun _ => ?_
    · have hleast : (@unpackExponent Format.binary64 b).toNat = 0 := congrArg BitVec.toNat hleast
      by_cases hzero : @unpackMantissa Format.binary64 b = 0#52
      · rw [dif_pos hzero]
        exact .zero _
      · rw [dif_neg hzero]
        refine .finite hlast (Nat.lt_trans (BitVec.isLt _) (by decide)) ?_
        rw [hbias, hleast]
        omega
    · refine .finite hlast (BitVec.isLt _) ?_
      rw [hbias, biasedExponent]
      omega

/-- The bits of an exponent below the last hold a number with that exponent. -/
theorem isBelow_unpack_packComponents {top : Int} (s : Sign) {biased : Nat} (m : BitVec 52)
    (hbiased : biased < 2047) (hle : (biased : Int) ≤ top + 1075) (hlow : -1074 ≤ top) :
    IsBelow top (unpack Format.binary64
      (packComponents Format.binary64 s (BitVec.ofNat 11 biased) m)) := by
  have hfield : biasedExponent (packComponents Format.binary64 s (BitVec.ofNat 11 biased) m) =
      biased := by
    rw [biasedExponent, unpackExponent_packComponents]
    exact Nat.mod_eq_of_lt (Nat.lt_trans hbiased (by decide))
  have hunpacked := isUnpacked_unpack (packComponents Format.binary64 s (BitVec.ofNat 11 biased) m)
  rw [hfield] at hunpacked
  generalize unpack Format.binary64 _ = u at hunpacked
  cases hunpacked with
  | special hlast hu => omega
  | zero s => exact .zero s
  | finite hlast hm he => exact .finite (by omega)

/-- A number with no exponent beyond the largest is kept as a number. -/
theorem exists_packComponents {top : Int} {u : UnpackedFloat} (h : IsBelow top u)
    (hlow : -1074 ≤ top) (htop : top ≤ 971) :
    ∃ s biased m, pack Format.binary64 u =
        packComponents Format.binary64 s (BitVec.ofNat 11 biased) m ∧
      biased < 2047 ∧ (biased : Int) ≤ top + 1075 := by
  have hfield : ∀ e : Int, e ≤ top →
      ((e + Format.binary64.exponentBias + (52 : Nat)).toNat : Int) ≤ top + 1075 := by
    intro e he
    simp only [Format.exponentBias]
    omega
  fun_cases pack Format.binary64 u with
  | case1 => cases h
  | case2 s => cases h
  | case3 s => exact ⟨s, 0, 0, rfl, by decide, by omega⟩
  | case4 s m e hm biased hover =>
    cases h with
    | finite he =>
      have hle : (biased : Int) ≤ top + 1075 := hfield e he
      have hover : 2048 ≤ biased + 1 := hover
      omega
  | case5 s m e hm bits biased hfits hnormal =>
    cases h with
    | finite he =>
      have hle : (biased : Int) ≤ top + 1075 := hfield e he
      have hfits : ¬ 2048 ≤ biased + 1 := hfits
      exact ⟨s, biased, _, rfl, by omega, hle⟩
  | case6 s m e hm bits biased hfits hsubnormal => exact ⟨s, 0, _, rfl, by decide, by omega⟩

/-- A number that is kept in bits and taken out again has no larger exponent. -/
theorem isBelow_unpack_pack {top : Int} {u : UnpackedFloat} (h : IsBelow top u)
    (hlow : -1074 ≤ top) (htop : top ≤ 971) :
    IsBelow top (unpack Format.binary64 (pack Format.binary64 u)) := by
  obtain ⟨s, biased, m, hpack, hlt, hle⟩ := exists_packComponents h hlow htop
  rw [hpack]
  exact isBelow_unpack_packComponents s m hlt hle hlow

/-- The exponent of a finite double is at most that of the largest. -/
theorem isBelow_unpack {b : BitVec 64} (h : (unpack Format.binary64 b).isFinite = true) :
    IsBelow 971 (unpack Format.binary64 b) := by
  have hunpacked := isUnpacked_unpack b
  generalize unpack Format.binary64 b = u at h hunpacked
  cases hunpacked with
  | special hlast hu => cases h.symm.trans hu
  | zero s => exact .zero s
  | finite hlast hm he => exact .finite (by omega)

theorem mantissa_lt_of_unpack {b : BitVec 64} {s : Sign} {m : Nat} {e : Int} {hm : 0 < m}
    (h : unpack Format.binary64 b = .finite s m e hm) : m < 2 ^ 53 := by
  have hunpacked := isUnpacked_unpack b
  rw [h] at hunpacked
  cases hunpacked with
  | special hlast hu => cases hu
  | finite hlast hm he => exact hm

def unpacked (x : Float) : UnpackedFloat := x.toModel.unpack

theorem isFinite_neg {x : Float} (h : x.isFinite = true) : (-x).isFinite = true := by
  have hbelow : IsBelow 971 (unpacked x) := isBelow_unpack h
  exact (isBelow_unpack_pack hbelow.neg (by decide) (by decide)).isFinite

/-! ## Integers -/

theorem isBelow_ofNat {n : Nat} (h : n < 2 ^ 53) : IsBelow 240 (ofNat Format.binary64 n) := by
  have hround : IsBelow 240 (round Format.binary64 .positive n 0) := by
    have hshift : (0 - Format.binary64.targetExponent (totalExponent n 0)).toNat ≤ 60 := by
      simp only [Format.targetExponent, totalExponent, mantissaBits_binary64, Format.minExponent]
      omega
    have hmantissa : n <<< (0 - Format.binary64.targetExponent (totalExponent n 0)).toNat <
        2 ^ 120 := by
      rw [Nat.shiftLeft_eq]
      calc n * 2 ^ (0 - Format.binary64.targetExponent (totalExponent n 0)).toNat
          ≤ n * 2 ^ 60 := Nat.mul_le_mul_left n (Nat.pow_le_pow_right (by decide) hshift)
        _ < 2 ^ 120 := by omega
    exact isBelow_roundWithAccuracy .positive hmantissa (by omega) (by decide)
  simp only [ofNat, ofInt, UnpackedFloat.normalize]
  split
  · rename_i hlt
    exact absurd (Int.compare_eq_lt.mp hlt) (by omega)
  · exact .zero _
  · exact hround

theorem isBelow_toFloat {n : Nat} (h : n < 2 ^ 53) : IsBelow 240 (unpacked n.toUInt64.toFloat) := by
  have hn : n.toUInt64.toNat = n := by
    rw [Nat.toUInt64_eq, UInt64.toNat_ofNat']
    omega
  refine isBelow_unpack_pack ?_ (by decide) (by decide)
  rw [ofUInt64, hn]
  exact isBelow_ofNat h

theorem isFinite_mul_one {x : Float} (h : IsBelow 240 (unpacked x)) :
    (x * Float.ofBits 0x3FF0000000000000).isFinite = true := by
  have hone : unpacked (Float.ofBits 0x3FF0000000000000) =
      .finite .positive (2 ^ 52) (-52) (by decide) := by rfl
  have hproduct : IsBelow 971 (mul Format.binary64 (unpacked x)
      (unpacked (Float.ofBits 0x3FF0000000000000))) := by
    rw [hone]
    cases hu : unpacked x with
    | infinity s => rw [hu] at h; cases h
    | notANumber => rw [hu] at h; cases h
    | zero s => exact .zero _
    | finite s m e hm =>
      have hsmall : m < 2 ^ 53 := mantissa_lt_of_unpack hu
      have hmantissa : m * 2 ^ 52 < 2 ^ 120 := by omega
      rw [hu] at h
      cases h with
      | finite he => exact isBelow_mul s .positive hm (by decide) hmantissa (by omega) (by decide)
  exact (isBelow_unpack_pack hproduct (by decide) (by decide)).isFinite

theorem ofScientific_eq_mul {n : Nat} (hn : n ≠ 0) :
    ∃ hm hten, ofScientific Format.binary64 n 0 = mul Format.binary64
      (.finite .positive (n <<< 53) (-53) hm) (.finite .positive 1 0 hten) := by
  have hlarge : ¬ (0 : Int) > 2 ^ Format.binary64.exponentBits := by decide
  have hpow : (0 : Int) ≤ 2 ^ Format.binary64.exponentBits := by decide
  have hsmall : ¬ (0 : Int) < -((2 ^ Format.binary64.exponentBits : Int) + n.log2) := by omega
  refine ⟨by simpa [Nat.pos_iff_ne_zero], by decide, ?_⟩
  unfold ofScientific
  rw [dif_neg hn, if_neg hlarge, if_neg hsmall, if_pos (Int.le_refl 0)]
  rfl

theorem isBelow_ofScientific {n : Nat} (h : n < 2 ^ 64) :
    IsBelow 971 (ofScientific Format.binary64 n 0) := by
  by_cases hn : n = 0
  · subst hn
    exact .zero _
  · obtain ⟨hm, hten, heq⟩ := ofScientific_eq_mul hn
    have hproduct : n <<< 53 * 1 < 2 ^ 120 := by
      rw [Nat.shiftLeft_eq]
      omega
    rw [heq]
    exact isBelow_mul .positive .positive hm hten hproduct (by decide) (by decide)

theorem isFinite_ofScientific {n : Nat} (h : n < 2 ^ 64) :
    (Float.ofScientific n false 0).isFinite = true := by
  simp only [Float.ofScientific]
  split
  · rename_i hsmall
    exact isFinite_mul_one (isBelow_toFloat hsmall.1)
  · exact (isBelow_unpack_pack (isBelow_ofScientific h) (by decide) (by decide)).isFinite

theorem isFinite_integer {n : Int} (h : n.natAbs < 2 ^ 64) :
    (Literal.toFloat ⟨decide (n < 0), digits n.natAbs, [], 0⟩).isFinite = true := by
  have hlength : (digits n.natAbs).length ≤ 20 :=
    (Nat.length_toDigits_le_iff (by decide) (by decide)).mpr (by omega)
  have hdecimal : (Decimal.toFloat ⟨n.natAbs, 0⟩).isFinite = true := by
    simp only [Decimal.toFloat]
    split
    · decide
    · rw [if_neg (by omega), if_pos (Int.le_refl 0)]
      exact isFinite_ofScientific h
  simp only [Literal.toFloat, Literal.decimal, List.append_nil, digitsValue_digits, List.length_nil]
  split
  · exact isFinite_neg hdecimal
  · exact hdecimal

end Multimodal.Number
