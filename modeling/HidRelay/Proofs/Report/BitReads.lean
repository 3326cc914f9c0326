import HidRelay.Report.Bits

set_option autoImplicit false

namespace HidRelay

namespace Word

theorem of_bytes_bit (bytes : Bytes) (index : Nat) :
    (ofBytes bytes).testBit index = (bytes.getD (index / 8) 0).toNat.testBit (index % 8) := by
  induction bytes generalizing index with
  | nil => simp [ofBytes]
  | cons byte rest ih =>
      have bound : byte.toNat < 2 ^ 8 := byte.toNat_lt
      have shifted : ofBytes (byte :: rest) = 2 ^ 8 * ofBytes rest + byte.toNat := by
        rw [ofBytes]
        omega
      rw [shifted, Nat.testBit_two_pow_mul_add _ bound]
      by_cases low : index < 8
      · rw [if_pos low, Nat.div_eq_of_lt low, Nat.mod_eq_of_lt low]
        rfl
      · have position : index / 8 = (index - 8) / 8 + 1 := by omega
        have same : (index - 8) % 8 = index % 8 := by omega
        rw [if_neg low, ih, position, same, List.getD_cons_succ]

theorem to_signed_to_int (width value : Nat) (fits : value < span width) :
    toSigned width value = (BitVec.ofNat width value).toInt := by
  simp only [span, Nat.one_shiftLeft] at fits
  rw [BitVec.toInt, BitVec.toNat_ofNat, Nat.mod_eq_of_lt fits]
  simp only [toSigned, span, Nat.one_shiftLeft]

theorem eq_of_bits (width left right : Nat) (leftFits : left < span width) (rightFits : right < span width)
    (bits : ∀ index, index < width → left.testBit index = right.testBit index) : left = right := by
  simp only [span, Nat.one_shiftLeft] at leftFits rightFits
  apply Nat.eq_of_testBit_eq
  intro index
  by_cases inside : index < width
  · exact bits index inside
  · have wider : 2 ^ width ≤ 2 ^ index := Nat.pow_le_pow_right (by decide) (Nat.not_lt.mp inside)
    rw [Nat.testBit_lt_two_pow (Nat.lt_of_lt_of_le leftFits wider),
      Nat.testBit_lt_two_pow (Nat.lt_of_lt_of_le rightFits wider)]

theorem to_signed_of_bits (width raw : Nat) (value : Int) (positive : 0 < width) (fits : raw < span width)
    (low : -(span width : Int) ≤ 2 * value) (high : 2 * value < span width)
    (bits : ∀ index, index < width → raw.testBit index = (BitVec.ofInt width value).getLsbD index) :
    toSigned width raw = value := by
  have same : BitVec.ofNat width raw = BitVec.ofInt width value := by
    apply BitVec.eq_of_getLsbD_eq
    intro index inside
    rw [BitVec.getLsbD_ofNat, bits index inside, decide_eq_true inside, Bool.true_and]
  have half : span width = 2 * 2 ^ (width - 1) := by
    obtain ⟨less, rfl⟩ := Nat.exists_eq_succ_of_ne_zero (Nat.ne_of_gt positive)
    rw [span, Nat.one_shiftLeft, Nat.pow_succ, Nat.mul_comm, Nat.succ_sub_one]
  rw [to_signed_to_int width raw fits, same]
  rw [half] at low high
  apply BitVec.toInt_ofInt_eq_self positive
  · push_cast at low
    omega
  · push_cast at high
    omega

end Word

namespace Report

def bitAt (report : Bytes) (index : Nat) : Bool := (report.getD (index / 8) 0).toNat.testBit (index % 8)

theorem bit_at_take (report : Bytes) (count index : Nat) (inside : index < 8 * (report.take count).length) :
    bitAt (report.take count) index = bitAt report index := by
  have early : index / 8 < count := by
    have few := List.length_take_le count report
    omega
  rw [bitAt, bitAt, List.getD_eq_getElem?_getD, List.getD_eq_getElem?_getD, List.getElem?_take_of_lt early]

def Readable (report : Bytes) (offset width : Nat) : Prop :=
  width = 0 ∨ width ≤ 32 ∧ offset + width ≤ 8 * report.length

theorem read_unsigned_readable (report : Bytes) (offset width : Nat) (readable : Readable report offset width) :
    ∃ value, readUnsigned report offset width = .ok value := by
  unfold readUnsigned
  rcases readable with none | ⟨narrow, inside⟩
  · exact ⟨0, if_pos none⟩
  · by_cases none : width = 0
    · exact ⟨0, if_pos none⟩
    · exact ⟨_, by rw [if_neg none, if_neg (Nat.not_lt.mpr narrow), if_neg (Nat.not_lt.mpr inside)]⟩

theorem read_unsigned_unreadable (report : Bytes) (offset width : Nat) (unreadable : ¬ Readable report offset width) :
    ∃ error, readUnsigned report offset width = .error error := by
  unfold readUnsigned
  simp only [Readable, not_or, not_and, Nat.not_le] at unreadable
  by_cases wide : 32 < width
  · exact ⟨_, by rw [if_neg unreadable.1, if_pos wide]⟩
  · exact ⟨_, by rw [if_neg unreadable.1, if_neg wide, if_pos (unreadable.2 (Nat.not_lt.mp wide))]⟩

theorem readable_of_read (report : Bytes) (offset width value : Nat) (read : readUnsigned report offset width = .ok value) :
    Readable report offset width := by
  refine Classical.byContradiction fun unreadable => ?_
  obtain ⟨error, failed⟩ := read_unsigned_unreadable report offset width unreadable
  rw [read] at failed
  cases failed

theorem read_unsigned_bit (report : Bytes) (offset width value index : Nat)
    (read : readUnsigned report offset width = .ok value) (inside : index < width) :
    value.testBit index = bitAt report (offset + index) := by
  unfold readUnsigned at read
  have some : width ≠ 0 := by omega
  rw [if_neg some] at read
  split at read
  case isTrue => exact nomatch read
  case isFalse =>
    split at read
    case isTrue => exact nomatch read
    case isFalse =>
      cases read
      simp only [Word.span, Nat.one_shiftLeft, Nat.testBit_mod_two_pow, inside, decide_true, Bool.true_and,
        Nat.testBit_div_two_pow, Word.of_bytes_bit]
      have byte : (index + offset % 8) / 8 < (offset + width - 1) / 8 + 1 - offset / 8 := by omega
      have position : offset / 8 + (index + offset % 8) / 8 = (offset + index) / 8 := by omega
      have same : (index + offset % 8) % 8 = (offset + index) % 8 := by omega
      rw [bitAt, spanned, List.getD_eq_getElem?_getD, List.getElem?_take_of_lt byte, List.getElem?_drop, position,
        same, List.getD_eq_getElem?_getD]

theorem read_signed_readable (report : Bytes) (offset width : Nat) (readable : Readable report offset width) :
    ∃ value, readSigned report offset width = .ok value := by
  obtain ⟨raw, read⟩ := read_unsigned_readable report offset width readable
  exact ⟨Word.toSigned width raw, by rw [readSigned, read]; rfl⟩

theorem read_signed_unreadable (report : Bytes) (offset width : Nat) (unreadable : ¬ Readable report offset width) :
    ∃ error, readSigned report offset width = .error error := by
  obtain ⟨error, failed⟩ := read_unsigned_unreadable report offset width unreadable
  exact ⟨error, by rw [readSigned, failed]; rfl⟩

theorem read_signed_agree (left right : Bytes) (offset width : Nat) (leftReadable : Readable left offset width)
    (rightReadable : Readable right offset width)
    (agree : ∀ index, index < width → bitAt left (offset + index) = bitAt right (offset + index)) :
    readSigned left offset width = readSigned right offset width := by
  obtain ⟨one, leftRead⟩ := read_unsigned_readable left offset width leftReadable
  obtain ⟨other, rightRead⟩ := read_unsigned_readable right offset width rightReadable
  have same : one = other := by
    apply Word.eq_of_bits width one other (read_unsigned_lt _ _ _ _ leftRead) (read_unsigned_lt _ _ _ _ rightRead)
    intro index inside
    rw [read_unsigned_bit _ _ _ _ _ leftRead inside, read_unsigned_bit _ _ _ _ _ rightRead inside, agree index inside]
  rw [readSigned, readSigned, leftRead, rightRead, same]

theorem read_signed_packed (report : Bytes) (offset width : Nat) (value : Int) (positive : 0 < width)
    (low : -(Word.span width : Int) ≤ 2 * value) (high : 2 * value < Word.span width)
    (readable : Readable report offset width)
    (packed : ∀ index, index < width → bitAt report (offset + index) = (BitVec.ofInt width value).getLsbD index) :
    readSigned report offset width = .ok value := by
  obtain ⟨raw, read⟩ := read_unsigned_readable report offset width readable
  have decoded := Word.to_signed_of_bits width raw value positive (read_unsigned_lt _ _ _ _ read) low high fun index inside =>
    (read_unsigned_bit _ _ _ _ _ read inside).trans (packed index inside)
  rw [readSigned, read, Except.map, decoded]

end Report
end HidRelay
