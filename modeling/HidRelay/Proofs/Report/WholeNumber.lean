import Mathlib.Data.Int.ModEq
import HidRelay.Proofs.Report.BitReads

set_option autoImplicit false

namespace HidRelay

namespace Word

-- In zero bits there is only zero.
def StandsFor (width raw : Nat) (value : Int) : Prop :=
  if width = 0 then value = 0
  else -(2 ^ (width - 1)) ≤ value ∧ value < 2 ^ (width - 1) ∧ value ≡ raw [ZMOD 2 ^ width]

theorem span_eq (width : Nat) : span width = 2 ^ width := Nat.one_shiftLeft width

theorem span_half (width : Nat) (positive : 0 < width) : (span width : Int) = 2 * 2 ^ (width - 1) := by
  obtain ⟨less, rfl⟩ := Nat.exists_eq_succ_of_ne_zero (Nat.ne_of_gt positive)
  rw [span_eq, Nat.succ_sub_one]
  push_cast
  exact Int.pow_succ' 2 less

theorem to_signed_congruent (width raw : Nat) : toSigned width raw ≡ raw [ZMOD span width] := by
  unfold toSigned
  split
  · exact Int.ModEq.refl _
  · simp [Int.ModEq]

-- Two numbers of the range that are congruent differ by less than the modulus.
theorem stands_for_iff (width raw : Nat) (value : Int) (fits : raw < span width) :
    StandsFor width raw value ↔ value = toSigned width raw := by
  unfold StandsFor
  by_cases none : width = 0
  · subst none
    have zero : raw = 0 := by
      rw [span_eq] at fits
      omega
    rw [if_pos rfl, zero]
    exact Iff.rfl
  · have half := span_half width (Nat.pos_of_ne_zero none)
    have power : ((2 : Int) ^ width) = span width := by
      rw [span_eq]
      push_cast
      rfl
    obtain ⟨low, high⟩ := to_signed_bounds width raw fits
    rw [if_neg none, power]
    constructor
    · rintro ⟨above, below, same⟩
      have congruent := same.trans (to_signed_congruent width raw).symm
      have near : |toSigned width raw - value| < span width := abs_lt.mpr ⟨by omega, by omega⟩
      have equal := Int.eq_zero_of_abs_lt_dvd (Int.modEq_iff_dvd.mp congruent) near
      omega
    · rintro rfl
      exact ⟨by omega, by omega, to_signed_congruent width raw⟩

end Word

namespace Report

def number (report : Bytes) (start width : Nat) : Nat := Word.ofBytes report / 2 ^ start % 2 ^ width

theorem number_bit (report : Bytes) (start width index : Nat) (inside : index < width) :
    (number report start width).testBit index = bitAt report (start + index) := by
  rw [number, Nat.testBit_mod_two_pow, decide_eq_true inside, Bool.true_and, Nat.testBit_div_two_pow,
    Word.of_bytes_bit, Nat.add_comm, bitAt]

theorem number_lt (report : Bytes) (start width : Nat) : number report start width < 2 ^ width :=
  Nat.mod_lt _ (Nat.two_pow_pos width)

theorem number_agree (left right : Bytes) (start width : Nat)
    (agree : ∀ index, index < width → bitAt left (start + index) = bitAt right (start + index)) :
    number left start width = number right start width := by
  apply Word.eq_of_bits width
  · rw [Word.span_eq]
    exact number_lt left start width
  · rw [Word.span_eq]
    exact number_lt right start width
  · intro index inside
    rw [number_bit _ _ _ _ inside, number_bit _ _ _ _ inside, agree index inside]

theorem read_unsigned_eq (report : Bytes) (offset width : Nat) :
    readUnsigned report offset width =
      if width = 0 then .ok 0
      else if 32 < width then .error (.tooWide width)
      else if 8 * report.length < offset + width then .error (.outOfBounds offset width report.length)
      else .ok (number report offset width) := by
  by_cases none : width = 0
  · rw [readUnsigned, if_pos none, if_pos none]
  by_cases wide : 32 < width
  · rw [readUnsigned, if_neg none, if_pos wide, if_neg none, if_pos wide]
  by_cases short : 8 * report.length < offset + width
  · rw [readUnsigned, if_neg none, if_neg wide, if_pos short, if_neg none, if_neg wide, if_pos short]
  have readable : Readable report offset width := .inr ⟨Nat.not_lt.mp wide, Nat.not_lt.mp short⟩
  obtain ⟨value, read⟩ := read_unsigned_readable report offset width readable
  have fits : number report offset width < Word.span width := by
    rw [Word.span_eq]
    exact number_lt report offset width
  have same : value = number report offset width :=
    Word.eq_of_bits width value _ (read_unsigned_lt _ _ _ _ read) fits fun index inside =>
      (read_unsigned_bit _ _ _ _ _ read inside).trans (number_bit _ _ _ _ inside).symm
  rw [read, same, if_neg none, if_neg wide, if_neg short]

end Report
end HidRelay
